import OpenBsc.Lib.SemiOctets
import OpenBsc.Libmsc.SmsTpdu

/-!
# `Libmsc.SmsForward` — an SMS is delivered as it was submitted

What a phone submits and what a phone makes of a delivery is said by GSM 03.40, 03.38 and 04.11, and stated here in
their words: `SmsSubmit`, `decodeCpData` and `decodeDeliver`. The coding scheme decides whether the length of the user
data counts characters of seven bits or octets, and the reserved ones are those of the default alphabet.

`gsm338_get_sms_alphabet` knows no alphabet for the reserved ones, and `gsm340_gen_tpdu` writes a length and no user
data then; `gsm340_rx_tpdu` looks for the length one octet too late if the validity period says that its indicator is
extended. Everything else that is submitted is delivered as it was (`forwards_iff`).
-/

namespace OpenBsc.Libmsc

open SemiOctets List Option

/-! ## User data -/

/-- GSM 03.38: the user data of a coding scheme are characters of the default alphabet, seven bits each. Reserved ones
    are taken for that; what is compressed is octets. -/
def codedInSeptets (dcs : Octet) : Bool :=
  let group := dcs >>> 4
  if group &&& 0xc = 0 then group &&& 2 = 0 ∧ ((dcs >>> 2) &&& 3 = 0 ∨ (dcs >>> 2) &&& 3 = 3)
  else if group = 0xe then false
  else if group = 0xf then dcs &&& 4 = 0
  else true

/-- How many octets of user data a length stands for. -/
def userDataOctets (dcs udl : Octet) : Nat := if codedInSeptets dcs then (udl.toNat * 7 + 7) / 8 else udl.toNat

/-! ## Submissions -/

/-- The validity period in its formats. -/
inductive Validity where
  | none
  | relative (period : Octet)
  | absolute (time : List Octet) (h : time.length = 7)
  | enhanced (indicator : Octet) (period : List Octet) (h : period.length = 6)

namespace Validity

def format : Validity → Octet
  | none => 0
  | relative _ => 2
  | absolute .. => 3
  | enhanced .. => 1

def octets : Validity → List Octet
  | none => []
  | relative period => [period]
  | absolute time _ => time
  | enhanced indicator period _ => indicator :: period

/-- The indicator says that it is extended, within the seven octets. -/
def Extended : Validity → Prop
  | enhanced indicator _ _ => indicator &&& 0x80 ≠ 0
  | _ => False

end Validity

/-- An SMS-SUBMIT of GSM 03.40, with its address as digits. -/
structure SmsSubmit where
  rejectDuplicates : Bool := false
  statusReport : Bool := false
  headerIndicator : Bool := false
  replyPath : Bool := false
  ref : Octet
  typeOfAddress : Octet
  destination : List Nat
  digits : ∀ d ∈ destination, d < 16
  few : destination.length ≤ 20
  pid : Octet
  dcs : Octet
  validity : Validity
  udl : Octet
  ud : List Octet
  length : ud.length = userDataOctets dcs udl
  fits : ud.length ≤ 140

namespace SmsSubmit

/-- The first octet. -/
def first (submit : SmsSubmit) : Octet :=
  (1 : Octet) ||| (if submit.rejectDuplicates then 0x04 else 0) ||| submit.validity.format <<< (3 : Octet) |||
    (if submit.statusReport then 0x20 else 0) ||| (if submit.headerIndicator then 0x40 else 0) |||
    (if submit.replyPath then 0x80 else 0)

/-- The address with its length in semi-octets. -/
def address (submit : SmsSubmit) : List Octet :=
  UInt8.ofNat submit.destination.length :: submit.typeOfAddress :: semiOctets submit.destination

/-- The TPDU. -/
def octets (submit : SmsSubmit) : List Octet :=
  submit.first :: submit.ref :: submit.address ++ submit.pid :: submit.dcs :: submit.validity.octets ++
    submit.udl :: submit.ud

end SmsSubmit

/-! ## Deliveries -/

/-- An RP-DATA message of GSM 04.11 from the network. -/
structure RpData where
  ref : Octet
  originator : List Octet
  destination : List Octet
  userData : List Octet

/-- The RP-DATA message in the user data of a CP-DATA message. -/
def decodeRpData : List Octet → Option RpData
  | mti :: ref :: fields =>
    if mti = 1 then
      (takeLv fields).bind fun originator =>
        (takeLv originator.2).bind fun destination =>
          (takeLv destination.2).bind fun userData =>
            if userData.2 = [] then some ⟨ref, originator.1, destination.1, userData.1⟩ else none
    else none
  | _ => none

/-- A CP-DATA message, whose user data are as long as it says. -/
def decodeCpData : List Octet → Option RpData
  | _ :: msgType :: len :: userData => if msgType = 1 ∧ len.toNat = userData.length then decodeRpData userData else none
  | _ => none

/-- An SMS-DELIVER of GSM 03.40, with the number of its originator. -/
structure SmsDeliver where
  statusReport : Bool
  headerIndicator : Bool
  originator : List Octet
  pid : Octet
  dcs : Octet
  udl : Octet
  ud : List Octet

/-- What a TPDU says from the length of the user data on, of which there are as many as it says. -/
def decodeDeliver (tpdu : List Octet) : Option SmsDeliver :=
  let first := tpdu.headD 0
  let digits := ((tpdu.drop 1).headD 0).toNat
  let address := (tpdu.drop 3).take ((digits + 1) / 2)
  let fields := (tpdu.drop 3).drop ((digits + 1) / 2)
  let dcs := (fields.drop 1).headD 0
  let udl := (fields.drop 9).headD 0
  let ud := fields.drop 10
  if first &&& 3 = 0 ∧ 10 ≤ fields.length ∧ ud.length = userDataOctets dcs udl then
    some
      { statusReport := first &&& 0x20 ≠ 0
        headerIndicator := first &&& 0x40 ≠ 0
        originator := numberOf ((ofSemiOctets address).take digits)
        pid := fields.headD 0
        dcs := dcs
        udl := udl
        ud := ud }
  else none

/-- **The message is delivered as it was submitted**, from the number of its sender. -/
def Delivered (submit : SmsSubmit) (sender : SmsSubscriber) (msg : List Octet) : Prop :=
  ∃ rp deliver, decodeCpData msg = some rp ∧ decodeDeliver rp.userData = some deliver ∧
    deliver.originator = sender.extension ∧ deliver.pid = submit.pid ∧ deliver.dcs = submit.dcs ∧
    deliver.headerIndicator = submit.headerIndicator ∧ deliver.udl = submit.udl ∧ deliver.ud = submit.ud

/-- What is submitted in whatever octets follow it in memory, if it is accepted, is stored in a record from which it is
    delivered. -/
def Forwards (env env' : SmsEnv) (subscr : SmsSubscriber) (submit : SmsSubmit) : Prop :=
  ∀ rest sms transactionId, gsm340RxTpdu env subscr (submit.octets ++ rest) = .ok sms →
    ∃ msg, gsm411SendSms env' transactionId sms = some msg ∧ Delivered submit subscr msg

/-! ## Reading -/

variable {env env' : SmsEnv} {subscr : SmsSubscriber} {submit : SmsSubmit} {rest : List Octet} {sms : SmsRecord}

theorem Validity.format_cases (v : Validity) : v.format = 0 ∨ v.format = 1 ∨ v.format = 2 ∨ v.format = 3 := by
  cases v with
  | none => exact .inl rfl
  | relative => exact .inr (.inr (.inl rfl))
  | absolute => exact .inr (.inr (.inr rfl))
  | enhanced => exact .inr (.inl rfl)

theorem first_fields (submit : SmsSubmit) :
    submit.first &&& 3 = 1 ∧ (submit.first &&& 0x18) >>> 3 = submit.validity.format ∧
      submit.first &&& 0x20 = (if submit.statusReport then 0x20 else 0) ∧
      submit.first &&& 0x40 = (if submit.headerIndicator then 0x40 else 0) := by
  unfold SmsSubmit.first
  rcases submit.validity.format_cases with hformat | hformat | hformat | hformat <;> rw [hformat] <;>
    cases submit.rejectDuplicates <;> cases submit.statusReport <;> cases submit.headerIndicator <;>
      cases submit.replyPath <;> decide

theorem length_address (submit : SmsSubmit) :
    submit.address.length = 2 + (UInt8.ofNat submit.destination.length).toNat / 2 +
      (UInt8.ofNat submit.destination.length).toNat % 2 := by
  have hfew := submit.few
  have hval : (UInt8.ofNat submit.destination.length).toNat = submit.destination.length := toNat_octetOf (by omega)
  simp only [SmsSubmit.address, length_cons, length_semiOctets, hval]
  omega

/-- The number dialled, as it is read. -/
def SmsSubmit.dialled (submit : SmsSubmit) (env : SmsEnv) : List Octet :=
  env.decodeBcdNumber 21 (UInt8.ofNat (submit.address.length - 1) :: (copied 12 submit.address).drop 1)

/-- What is read from the length of the user data on. -/
def SmsSubmit.counted (submit : SmsSubmit) (rest : List Octet) : List Octet :=
  afterValidityPeriod submit.validity.format (submit.validity.octets ++ submit.udl :: submit.ud ++ rest)

/-- The record of a submission, with what follows it in memory. -/
def SmsSubmit.record (submit : SmsSubmit) (env : SmsEnv) (subscr receiver : SmsSubscriber) (rest : List Octet) :
    SmsRecord where
  sender := subscr
  receiver := receiver
  statusRepReq := if submit.statusReport then 0x20 else 0
  udHdrInd := if submit.headerIndicator then 0x40 else 0
  protocolId := submit.pid
  dataCodingScheme := submit.dcs
  msgRef := submit.ref
  destAddr := submit.dialled env
  userDataLen := (submit.counted rest).headD 0
  userData := copied ((submit.counted rest).headD 0).toNat ((submit.counted rest).drop 1)

/-- **A submission is accepted** whatever follows it, and this is the record. -/
theorem gsm340RxTpdu_submit_iff : gsm340RxTpdu env subscr (submit.octets ++ rest) = .ok sms ↔
    gsm338GetSmsAlphabet submit.dcs ≠ none ∧ env.stores ∧
      ∃ receiver, env.byExtension (submit.dialled env) = some receiver ∧
        sms = submit.record env subscr receiver rest := by
  obtain ⟨hmti, hvpf, hsrr, hudhi⟩ := first_fields submit
  have hfew := submit.few
  have hlength := length_address submit
  have hshort : ¬ 12 < submit.address.length := by
    simp only [SmsSubmit.address, length_cons, length_semiOctets]
    omega
  have hoctets : submit.octets ++ rest = submit.first :: submit.ref :: (submit.address ++
      submit.pid :: submit.dcs :: (submit.validity.octets ++ submit.udl :: submit.ud ++ rest)) := by
    simp only [SmsSubmit.octets, cons_append, append_assoc]
  have hhead : ∀ fields, (submit.address ++ fields).headD 0 = UInt8.ofNat submit.destination.length := fun _ => rfl
  have hdialled : env.decodeBcdNumber 21
      (UInt8.ofNat (submit.address.length - 1) :: (copied 12 submit.address).drop 1) = submit.dialled env := rfl
  rw [hoctets]
  unfold gsm340RxTpdu
  simp only [headD_cons, drop_succ_cons, drop_zero, hhead, ← hlength, if_neg hshort, take_left,
    drop_left, hmti, hvpf, hsrr, hudhi, if_true, hdialled]
  cases halphabet : gsm338GetSmsAlphabet submit.dcs with
  | none =>
    refine ⟨nofun, fun h => absurd rfl h.1⟩
  | some alphabet =>
    dsimp only
    cases hreceiver : env.byExtension (submit.dialled env) with
    | none =>
      refine ⟨nofun, fun ⟨_, _, receiver, hsome, _⟩ => absurd hsome nofun⟩
    | some receiver =>
      cases hstores : env.stores with
      | false => exact ⟨nofun, fun h => absurd h.2.1 nofun⟩
      | true =>
        simp only [if_true, Except.ok.injEq]
        refine ⟨fun h => ⟨nofun, trivial, receiver, rfl, h.symm⟩, fun ⟨_, _, receiver', hsome, h⟩ => ?_⟩
        cases hsome
        exact h.symm

/-! ## Writing -/

/-- `gsm48_encode_bcd_number` writes a number that is short enough, after its length in octets. -/
def EncodesBcd (encode : Nat → Nat → List Octet → Option (Octet × List Octet)) : Prop :=
  ∀ maxLen hLen number, IsNumber number → hLen + (number.length + 1) / 2 ≤ maxLen →
    encode maxLen hLen number = some (UInt8.ofNat (hLen + (number.length + 1) / 2), semiOctets (digitsOf number))

/-- The TPDU of a delivery. -/
def deliverTpdu (env : SmsEnv) (sms : SmsRecord) : List Octet :=
  ((if sms.statusRepReq ≠ 0 then 0x20 else 0) ||| if sms.udHdrInd ≠ 0 then 0x40 else 0) ::
    UInt8.ofNat sms.sender.extension.length :: 0xb9 :: (semiOctets (digitsOf sms.sender.extension) ++
      sms.protocolId :: sms.dataCodingScheme :: (gsm340GenScts env.localtime ++ sms.userDataLen :: deliveredData sms))

theorem gsm340GenTpdu_eq (henc : EncodesBcd env.encodeBcdNumber) (hnumber : IsNumber sms.sender.extension)
    (hshort : sms.sender.extension.length ≤ 15) : gsm340GenTpdu env sms = some (deliverTpdu env sms) := by
  unfold gsm340GenTpdu gsm340GenOa
  rw [henc 12 1 _ hnumber (by omega)]
  simp only [map_some, deliverTpdu, cons_append, append_assoc]

/-- **What is sent** carries the TPDU, if there is room for it. -/
theorem decodeCpData_rp (transactionId : Octet) (tpdu : List Octet) :
    decodeCpData (gsm411RpSendmsg transactionId 1 42 (smscAddress ++ 0 :: UInt8.ofNat tpdu.length :: tpdu)) =
      if tpdu.length + 12 < 256 then some ⟨42, smscAddress.drop 1, [], tpdu⟩ else none := by
  have hfields : smscAddress ++ 0 :: UInt8.ofNat tpdu.length :: tpdu =
      lv (smscAddress.drop 1) ++ (lv [] ++ (lv tpdu ++ [])) := by
    rw [append_nil]
    rfl
  have hlength : (smscAddress ++ 0 :: UInt8.ofNat tpdu.length :: tpdu).length = tpdu.length + 10 := by
    simp only [smscAddress, length_append, length_cons, length_nil]
    omega
  have hroom : (UInt8.ofNat (tpdu.length + 12)).toNat = tpdu.length + 12 ↔ tpdu.length + 12 < 256 := by
    rw [UInt8.toNat_ofNat']
    omega
  simp only [gsm411RpSendmsg, gsm411CpSendmsg, decodeCpData, length_cons, hlength, Nat.add_assoc, Nat.reduceAdd,
    true_and, hroom]
  split
  case isFalse => rfl
  case isTrue hless =>
    simp only [decodeRpData, if_true, hfields]
    rw [takeLv_lv (by decide), bind_some, takeLv_lv (by decide), bind_some, takeLv_lv (by omega), bind_some, if_pos rfl]

theorem deliver_fields (p q : Prop) [Decidable p] [Decidable q] :
    ((if p then (0x20 : Octet) else 0) ||| if q then 0x40 else 0) &&& 3 = 0 ∧
      (((if p then (0x20 : Octet) else 0) ||| if q then 0x40 else 0) &&& 0x20 ≠ 0 ↔ p) ∧
      (((if p then (0x20 : Octet) else 0) ||| if q then 0x40 else 0) &&& 0x40 ≠ 0 ↔ q) := by
  by_cases hp : p <;> by_cases hq : q <;> simp only [hp, hq, if_true, if_false] <;> decide

/-- **What a phone makes** of a delivery. -/
theorem decodeDeliver_tpdu (hnumber : IsNumber sms.sender.extension) (hshort : sms.sender.extension.length ≤ 15) :
    decodeDeliver (deliverTpdu env sms) =
      if (deliveredData sms).length = userDataOctets sms.dataCodingScheme sms.userDataLen then
        some
          { statusReport := sms.statusRepReq ≠ 0
            headerIndicator := sms.udHdrInd ≠ 0
            originator := sms.sender.extension
            pid := sms.protocolId
            dcs := sms.dataCodingScheme
            udl := sms.userDataLen
            ud := deliveredData sms }
      else none := by
  have hdigits : (UInt8.ofNat sms.sender.extension.length).toNat = sms.sender.extension.length :=
    toNat_octetOf (by omega)
  have haddress : (semiOctets (digitsOf sms.sender.extension)).length = (sms.sender.extension.length + 1) / 2 := by
    rw [length_semiOctets, length_digitsOf]
  have hudl : ∀ fields, (gsm340GenScts env.localtime ++ fields).drop 7 = fields := fun _ => rfl
  have hud : ∀ o fields, (gsm340GenScts env.localtime ++ o :: fields).drop 8 = fields := fun _ _ => rfl
  obtain ⟨hmti, hsrr, hudhi⟩ := deliver_fields (sms.statusRepReq ≠ 0) (sms.udHdrInd ≠ 0)
  have hlength : 10 ≤ (sms.protocolId :: sms.dataCodingScheme ::
      (gsm340GenScts env.localtime ++ sms.userDataLen :: deliveredData sms)).length := by
    simp only [gsm340GenScts, length_cons, length_append, length_nil]
    omega
  have horiginator := take_ofSemiOctets (digitsOf_lt hnumber)
  rw [length_digitsOf] at horiginator
  unfold decodeDeliver deliverTpdu
  simp only [headD_cons, drop_succ_cons, drop_zero, hdigits, ← haddress, take_left, drop_left,
    hmti, hlength, hudl, hud, true_and, horiginator, numberOf_digitsOf hnumber]
  refine if_congr Iff.rfl (congrArg some ?_) rfl
  congr 1
  · exact decide_eq_decide.mpr hsrr
  · exact decide_eq_decide.mpr hudhi

/-- **A record is delivered** as it was submitted if it has what was submitted. -/
theorem delivered_iff (transactionId : Octet) (hnumber : IsNumber sms.sender.extension)
    (hshort : sms.sender.extension.length ≤ 15) (hpid : sms.protocolId = submit.pid)
    (hdcs : sms.dataCodingScheme = submit.dcs) (hudhi : sms.udHdrInd ≠ 0 ↔ submit.headerIndicator = true) :
    Delivered submit sms.sender (gsm411RpSendmsg transactionId 1 42
        (smscAddress ++ 0 :: UInt8.ofNat (deliverTpdu env sms).length :: deliverTpdu env sms)) ↔
      sms.userDataLen = submit.udl ∧ deliveredData sms = submit.ud := by
  unfold Delivered
  rw [decodeCpData_rp]
  constructor
  · rintro ⟨rp, deliver, hrp, hdeliver, -, -, -, -, hudl, hud⟩
    split at hrp
    case isFalse => exact absurd hrp nofun
    case isTrue =>
      cases hrp
      rw [decodeDeliver_tpdu hnumber hshort] at hdeliver
      split at hdeliver
      case isFalse => exact absurd hdeliver nofun
      case isTrue =>
        cases hdeliver
        exact ⟨hudl, hud⟩
  · rintro ⟨hudl, hud⟩
    have hroom : (deliverTpdu env sms).length + 12 < 256 := by
      have hfits := submit.fits
      simp only [deliverTpdu, length_cons, length_append, length_semiOctets, length_digitsOf, hud,
        gsm340GenScts, length_nil]
      omega
    have hlength : (deliveredData sms).length = userDataOctets sms.dataCodingScheme sms.userDataLen := by
      rw [hud, hdcs, hudl]
      exact submit.length
    rw [if_pos hroom]
    refine ⟨_, _, rfl, (decodeDeliver_tpdu hnumber hshort).trans (if_pos hlength), rfl, hpid, hdcs, ?_, hudl, hud⟩
    exact Bool.eq_iff_iff.mpr (decide_eq_true_iff.trans hudhi)

/-! ## The result -/

theorem and_three (o : Octet) : o &&& 3 = 0 ∨ o &&& 3 = 1 ∨ o &&& 3 = 2 ∨ o &&& 3 = 3 := by
  have hmod : (o &&& 3).toNat = o.toNat % 4 := by
    rw [UInt8.toNat_and]
    exact Nat.and_two_pow_sub_one_eq_mod o.toNat 2
  simp only [← UInt8.toNat_inj, hmod, UInt8.reduceToNat]
  omega

variable {alphabet : SmsAlphabet}

/-- The default alphabet is counted in characters, and so is what no alphabet is known for. -/
theorem codedInSeptets_iff {dcs : Octet} (h : gsm338GetSmsAlphabet dcs = some alphabet) :
    codedInSeptets dcs = true ↔ alphabet = .sevenBitDefault ∨ alphabet = .none := by
  unfold gsm338GetSmsAlphabet at h
  unfold codedInSeptets
  dsimp only at h ⊢
  by_cases hgeneral : dcs >>> 4 &&& 0xc = 0
  · rw [if_pos hgeneral] at h ⊢
    split at h
    case isTrue => cases h
    case isFalse hplain =>
      rw [not_not] at hplain
      rcases and_three (dcs >>> 2) with hbits | hbits | hbits | hbits
      all_goals
        rw [hbits] at h ⊢
        simp only [hplain] at h ⊢
        cases h
        decide
  · rw [if_neg hgeneral] at h ⊢
    split at h
    case isTrue hdefault =>
      cases h
      rcases hdefault with hgroup | hgroup
      all_goals
        rw [hgroup, if_neg (by decide), if_neg (by decide)]
        decide
    case isFalse =>
      split at h
      case isTrue hgroup =>
        cases h
        rw [if_pos hgroup]
        decide
      case isFalse hnot =>
        rw [if_neg hnot]
        split at h
        case isTrue hgroup =>
          rw [if_pos hgroup]
          split at h
          case isTrue hbit =>
            cases h
            simp only [hbit, decide_false]
            decide
          case isFalse hbit =>
            cases h
            rw [not_not] at hbit
            simp only [hbit]
            decide
        case isFalse hgroup =>
          cases h
          rw [if_neg hgroup]
          decide

theorem septetOctets_eq (n : Nat) : septetOctets n = (n * 7 + 7) / 8 := by
  unfold septetOctets
  dsimp only
  split <;> omega

theorem take_copied {n k : Nat} {buf : List Octet} (hn : k ≤ n) (hk : k ≤ buf.length) :
    (copied n buf).take k = buf.take k := by
  unfold copied
  rw [take_take, Nat.min_eq_left hn, take_append_of_le_length hk]

/-- The user data stand behind their length, and the scheme is one of those that an alphabet is known for. -/
def SmsSubmit.Forwardable (submit : SmsSubmit) : Prop :=
  ¬ submit.validity.Extended ∧ (gsm338GetSmsAlphabet submit.dcs ≠ some .none ∨ submit.udl = 0)

theorem afterValidityPeriod_plain {smsp : List Octet} (h : smsp.headD 0 &&& 0x80 = 0) :
    afterValidityPeriod 1 smsp = smsp.drop 7 := by
  unfold afterValidityPeriod
  rw [if_neg (by decide), if_neg (by decide), if_pos rfl, if_neg (not_not.mpr h)]

theorem afterValidityPeriod_extended {smsp : List Octet} (h : smsp.headD 0 &&& 0x80 ≠ 0) :
    afterValidityPeriod 1 smsp = smsp.drop 8 := by
  unfold afterValidityPeriod
  rw [if_neg (by decide), if_neg (by decide), if_pos rfl, if_pos h]

/-- The length is found behind the validity period, -/
theorem counted_of_not_extended (h : ¬ submit.validity.Extended) :
    submit.counted rest = submit.udl :: submit.ud ++ rest := by
  unfold SmsSubmit.counted
  rw [append_assoc]
  cases hvalidity : submit.validity with
  | none => rfl
  | relative period => rfl
  | absolute time hlength =>
    change (time ++ (submit.udl :: submit.ud ++ rest)).drop 7 = _
    rw [← hlength, drop_left]
  | enhanced indicator period hlength =>
    rw [hvalidity] at h
    have hplain : indicator &&& 0x80 = 0 := not_not.mp h
    refine Eq.trans (afterValidityPeriod_plain ?_) ?_
    · exact hplain
    change (period ++ (submit.udl :: submit.ud ++ rest)).drop 6 = _
    rw [← hlength, drop_left]

/-- or one octet later. -/
theorem counted_of_extended (h : submit.validity.Extended) : submit.counted rest = submit.ud ++ rest := by
  unfold SmsSubmit.counted
  rw [append_assoc]
  cases hvalidity : submit.validity with
  | none | relative | absolute =>
    rw [hvalidity] at h
    exact h.elim
  | enhanced indicator period hlength =>
    rw [hvalidity] at h
    refine Eq.trans (afterValidityPeriod_extended ?_) ?_
    · exact h
    change (period ++ (submit.udl :: submit.ud ++ rest)).drop (6 + 1) = _
    rw [← hlength, ← drop_drop, drop_left, cons_append, drop_succ_cons, drop_zero]

/-- Where an alphabet is known, as many octets are delivered as the length stands for. -/
theorem deliveredData_eq {buf : List Octet} (halphabet : gsm338GetSmsAlphabet sms.dataCodingScheme = some alphabet)
    (hknown : alphabet ≠ .none) (hdata : sms.userData = copied sms.userDataLen.toNat buf)
    (hlong : userDataOctets sms.dataCodingScheme sms.userDataLen ≤ buf.length) :
    deliveredData sms = buf.take (userDataOctets sms.dataCodingScheme sms.userDataLen) := by
  have hseptets := codedInSeptets_iff halphabet
  unfold userDataOctets at hlong ⊢
  unfold deliveredData
  rw [halphabet, hdata]
  cases alphabet with
  | none => exact absurd rfl hknown
  | sevenBitDefault =>
    rw [if_pos (hseptets.mpr (.inl rfl))] at hlong ⊢
    dsimp only
    rw [septetOctets_eq, take_copied (by omega) hlong]
  | ucs2 | eightBitData =>
    rw [if_neg fun h => absurd (hseptets.mp h) (by decide)] at hlong ⊢
    exact take_copied (Nat.le_refl _) hlong

theorem deliveredData_unknown (halphabet : gsm338GetSmsAlphabet sms.dataCodingScheme = some .none) :
    deliveredData sms = [] := by
  unfold deliveredData
  rw [halphabet]

theorem add_one_ne (o : Octet) : o + 1 ≠ o := by
  intro h
  have hval := congrArg UInt8.toNat h
  rw [UInt8.toNat_add] at hval
  simp only [UInt8.reduceToNat] at hval
  omega

variable {receiver : SmsSubscriber}

/-- What a record delivers, if the length is found where it says what it should. -/
theorem deliveredData_record {buf : List Octet} (halphabet : gsm338GetSmsAlphabet submit.dcs = some alphabet)
    (hknown : alphabet ≠ .none) (hcounted : submit.counted rest = submit.udl :: buf)
    (hlong : submit.ud.length ≤ buf.length) :
    deliveredData (submit.record env subscr receiver rest) = buf.take submit.ud.length := by
  have hlen : (submit.record env subscr receiver rest).userDataLen = submit.udl := by
    change (submit.counted rest).headD 0 = submit.udl
    rw [hcounted]
    rfl
  have hdata : (submit.record env subscr receiver rest).userData =
      copied (submit.record env subscr receiver rest).userDataLen.toNat buf := by
    change copied ((submit.counted rest).headD 0).toNat ((submit.counted rest).drop 1) = _
    rw [hlen, hcounted, headD_cons, drop_succ_cons, drop_zero]
  have hcount : userDataOctets (submit.record env subscr receiver rest).dataCodingScheme
      (submit.record env subscr receiver rest).userDataLen = submit.ud.length := by
    rw [hlen]
    exact submit.length.symm
  have hscheme : gsm338GetSmsAlphabet (submit.record env subscr receiver rest).dataCodingScheme = some alphabet :=
    halphabet
  rw [deliveredData_eq hscheme hknown hdata (hcount ▸ hlong), hcount]

/-- **A record holds what was submitted**, whatever follows it in memory, exactly if that is forwardable. -/
theorem record_iff (halphabet : gsm338GetSmsAlphabet submit.dcs = some alphabet) :
    (∀ rest, (submit.record env subscr receiver rest).userDataLen = submit.udl ∧
      deliveredData (submit.record env subscr receiver rest) = submit.ud) ↔ submit.Forwardable := by
  constructor
  · intro h
    by_cases hunknown : alphabet = .none
    · -- nothing is delivered, so nothing was submitted
      have hnone := (h []).2
      rw [deliveredData_unknown (hunknown ▸ halphabet)] at hnone
      have hempty := submit.length
      rw [← hnone, userDataOctets, if_pos ((codedInSeptets_iff halphabet).mpr (.inr hunknown))] at hempty
      have hudl : submit.udl = 0 := by
        rw [← UInt8.toNat_inj]
        simp only [length_nil, UInt8.reduceToNat] at hempty ⊢
        omega
      refine ⟨fun hextended => ?_, .inr hudl⟩
      have hnext := (h [submit.udl + 1]).1
      change (submit.counted _).headD 0 = submit.udl at hnext
      rw [counted_of_extended hextended, ← hnone] at hnext
      exact add_one_ne submit.udl hnext
    · refine ⟨fun hextended => ?_, .inl fun heq => hunknown (Option.some.inj (halphabet.symm.trans heq))⟩
      -- the first octet of the user data is taken for their length, and one of what follows for user data
      have hlen : ∀ rest, (submit.ud ++ rest).headD 0 = submit.udl := by
        intro rest
        rw [← counted_of_extended hextended]
        exact (h rest).1
      cases hud : submit.ud with
      | nil =>
        have hnext := hlen [submit.udl + 1]
        rw [hud] at hnext
        exact add_one_ne submit.udl hnext
      | cons u us =>
        have hu : u = submit.udl := by
          have hfirst := hlen []
          rw [hud] at hfirst
          exact hfirst
        obtain ⟨o, hlast⟩ : ∃ o, submit.ud.getLast? = some o := by
          rw [hud]
          exact ⟨_, getLast?_cons⟩
        have hcounted : submit.counted [o + 1] = submit.udl :: (us ++ [o + 1]) := by
          rw [counted_of_extended hextended, hud, ← hu]
          rfl
        have hlong : submit.ud.length = (us ++ [o + 1]).length := by
          rw [hud, length_append]
          rfl
        have hdelivered : deliveredData (submit.record env subscr receiver [o + 1]) = _ :=
          deliveredData_record halphabet hunknown hcounted (Nat.le_of_eq hlong)
        rw [(h _).2, hlong, take_length] at hdelivered
        rw [hdelivered, getLast?_concat] at hlast
        exact add_one_ne o (Option.some.inj hlast)
  · rintro ⟨hplain, hknown⟩ rest
    have hcounted : submit.counted rest = submit.udl :: (submit.ud ++ rest) := counted_of_not_extended hplain
    constructor
    · change (submit.counted rest).headD 0 = submit.udl
      rw [hcounted]
      rfl
    by_cases hunknown : alphabet = .none
    · rw [deliveredData_unknown (hunknown ▸ halphabet)]
      have hudl := hknown.resolve_left (not_not.mpr (hunknown ▸ halphabet))
      refine (eq_nil_of_length_eq_zero ?_).symm
      rw [submit.length, hudl, userDataOctets]
      split <;> rfl
    · have hlong : submit.ud.length ≤ (submit.ud ++ rest).length := by
        rw [length_append]
        exact Nat.le_add_right ..
      rw [deliveredData_record halphabet hunknown hcounted hlong, take_left]

theorem sent_record_iff (henc : EncodesBcd env'.encodeBcdNumber) (hnumber : IsNumber subscr.extension)
    (hshort : subscr.extension.length ≤ 15) (transactionId : Octet) :
    (∃ msg, gsm411SendSms env' transactionId (submit.record env subscr receiver rest) = some msg ∧
      Delivered submit subscr msg) ↔ (submit.record env subscr receiver rest).userDataLen = submit.udl ∧
        deliveredData (submit.record env subscr receiver rest) = submit.ud := by
  have hsender : (submit.record env subscr receiver rest).sender = subscr := rfl
  have hpid : (submit.record env subscr receiver rest).protocolId = submit.pid := rfl
  have hdcs : (submit.record env subscr receiver rest).dataCodingScheme = submit.dcs := rfl
  have hheader : (submit.record env subscr receiver rest).udHdrInd ≠ 0 ↔ submit.headerIndicator = true := by
    change (if submit.headerIndicator then (0x40 : Octet) else 0) ≠ 0 ↔ _
    cases submit.headerIndicator <;> decide
  rw [← delivered_iff transactionId (hsender.symm ▸ hnumber) (hsender.symm ▸ hshort) hpid hdcs hheader, hsender]
  unfold gsm411SendSms
  rw [gsm340GenTpdu_eq henc (hsender.symm ▸ hnumber) (hsender.symm ▸ hshort), map_some]
  exact ⟨fun ⟨msg, hmsg, h⟩ => Option.some.inj hmsg ▸ h, fun h => ⟨_, rfl, h⟩⟩

/-- **An accepted submission is delivered as it was submitted**, whatever follows it in memory, exactly if its length is
    found where it is and its coding scheme has an alphabet. -/
theorem forwards_iff (henc : EncodesBcd env'.encodeBcdNumber) (hnumber : IsNumber subscr.extension)
    (hshort : subscr.extension.length ≤ 15)
    (haccepts : ∃ rest sms, gsm340RxTpdu env subscr (submit.octets ++ rest) = .ok sms) :
    Forwards env env' subscr submit ↔ submit.Forwardable := by
  obtain ⟨rest, sms, haccept⟩ := haccepts
  obtain ⟨hknown, hstores, receiver, hreceiver, -⟩ := gsm340RxTpdu_submit_iff.mp haccept
  obtain ⟨alphabet, halphabet⟩ := ne_none_iff_exists'.mp hknown
  have hholds : (∀ rest, (submit.record env subscr receiver rest).userDataLen = submit.udl ∧
      deliveredData (submit.record env subscr receiver rest) = submit.ud) ↔ submit.Forwardable := record_iff halphabet
  rw [← hholds]
  constructor
  · intro h rest
    exact (sent_record_iff henc hnumber hshort 0).mp
      (h rest _ 0 (gsm340RxTpdu_submit_iff.mpr ⟨hknown, hstores, receiver, hreceiver, rfl⟩))
  · intro h rest sms transactionId haccept
    obtain ⟨-, -, receiver', hreceiver', rfl⟩ := gsm340RxTpdu_submit_iff.mp haccept
    cases hreceiver.symm.trans hreceiver'
    exact (sent_record_iff henc hnumber hshort transactionId).mpr (h rest)

theorem plainSmsEnv_encodes : EncodesBcd plainSmsEnv.encodeBcdNumber := by
  intro maxLen hLen number hnumber hfits
  refine if_pos ⟨all_eq_true.mpr fun c hc => ?_, hfits⟩
  exact contains_iff_mem.mpr (hnumber c hc)

/-- A subscriber with a number of five digits. -/
def plainSender : SmsSubscriber := ⟨octets "20042"⟩

theorem plainSender_number : IsNumber plainSender.extension ∧ plainSender.extension.length ≤ 15 := by
  refine ⟨?_, by decide⟩
  have hall : plainSender.extension.all (bcdNumDigits.contains ·) = true := by decide
  exact fun c hc => contains_iff_mem.mp (all_eq_true.mp hall c hc)

/-- A greeting of five characters. -/
def greeting (dcs : Octet) (h : userDataOctets dcs 5 = 5) : SmsSubmit where
  ref := 1
  typeOfAddress := 0x91
  destination := [2, 0, 0, 4, 3]
  digits := by decide
  few := by decide
  pid := 0
  dcs := dcs
  validity := .relative 0xa7
  udl := 5
  ud := [0xe8, 0x32, 0x9b, 0xfd, 0x06]
  length := h.symm
  fits := by decide

/-- In the default alphabet it is delivered. -/
theorem forwards_greeting : Forwards plainSmsEnv plainSmsEnv plainSender (greeting 0 rfl) :=
  (forwards_iff plainSmsEnv_encodes plainSender_number.1 plainSender_number.2
    ⟨[], _, gsm340RxTpdu_submit_iff.mpr ⟨by decide, rfl, _, rfl, rfl⟩⟩).mpr ⟨id, .inl (by decide)⟩

/-- In a reserved coding scheme its length is delivered without it. -/
theorem not_forwards_reserved : ¬ Forwards plainSmsEnv plainSmsEnv plainSender (greeting 0x80 rfl) := by
  intro h
  have hmsg := h [] _ 0 (gsm340RxTpdu_submit_iff.mpr ⟨by decide, rfl, _, rfl, rfl⟩)
  have hud := ((sent_record_iff plainSmsEnv_encodes plainSender_number.1 plainSender_number.2 0).mp hmsg).2
  exact absurd hud nofun

end OpenBsc.Libmsc
