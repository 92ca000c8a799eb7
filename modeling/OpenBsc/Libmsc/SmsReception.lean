import OpenBsc.Lib.Buffer
import OpenBsc.Libmsc.SmsTpdu

/-!
# `Libmsc.SmsReception` — which octets of a received short message are read (`gsm_04_11.c`)

An RP-DATA message that a phone sends names the lengths of the two addresses and of the TPDU, and the TPDU those of the
destination and of the user data; the format of the validity period says how long that is. Each of them moves the
pointer that the next is read through, and nothing compares the pointer with the end of the message.

`gsm340RxTpdu` here reads out of a memory and records what it reads; on a message it computes what the other model of it
computes. What libosmocore does to decode a number and a text is in an `SmsLib`, with what it says about the sizes.
-/

namespace OpenBsc.Libmsc.SmsReception

open Buffer Prog List Option

/-! ## The source -/

/-- `gsm48_decode_bcd_number` ends the number inside the space it is given; `gsm_7bit_decode` reads no more octets than
    there are characters, and writes the characters and a zero. -/
structure SmsLib extends SmsEnv where
  septetsRead : Nat → Nat
  septetsWritten : Nat → Nat
  decode_lt : ∀ size lv, 0 < size → (decodeBcdNumber size lv).length < size
  read_le : ∀ n, septetsRead n ≤ n
  written_le : ∀ n, septetsWritten n ≤ n + 1

/-- `gsm340_validity_period`, as far as what it reads. -/
def gsm340ValidityPeriod (smsVpf : Octet) (smsVp : Nat) : Prog (List Octet) :=
  if smsVpf = 2 then octets smsVp 1
  else if smsVpf = 3 then octets smsVp 7
  else if smsVpf = 1 then do
    let fi ← octet smsVp
    -- ignore additional fi
    let smsVp := if fi &&& 0x80 ≠ 0 then smsVp + 2 else smsVp + 1
    if fi &&& 7 = 1 ∨ fi &&& 7 = 2 then octets smsVp 1
    else if fi &&& 7 = 3 then octets smsVp 3
    else pure []
  else pure []

/-- Where the pointer is behind the validity period. -/
def skipValidityPeriod (smsVpf : Octet) (smsp : Nat) : Prog Nat :=
  if smsVpf = 2 then pure (smsp + 1)
  else if smsVpf = 3 then pure (smsp + 7)
  else if smsVpf = 1 then do
    -- the additional functionality indicator
    let indicator ← octet smsp
    pure (if indicator &&& 0x80 ≠ 0 then smsp + 8 else smsp + 7)
  else pure smsp

/-- The user data is copied, and its text decoded if it is of seven bits. -/
def rxUserData (lib : SmsLib) (smsAlphabet : SmsAlphabet) (smsp userDataLen : Nat) : Prog (List Octet) :=
  if userDataLen = 0 then pure []
  else do
    let userData ← octets smsp userDataLen
    write 256 userDataLen
    if smsAlphabet = .sevenBitDefault then do
      let _ ← octets smsp (lib.septetsRead userDataLen)
      write 256 (lib.septetsWritten userDataLen)
      pure userData
    else pure userData

/-- `gsm340_rx_tpdu` on a memory, where the TPDU begins at `smsp`. -/
def gsm340RxTpdu (lib : SmsLib) (subscr : SmsSubscriber) (smsp : Nat) : Prog (Except RpCause SmsRecord) := do
  let first ← octet smsp
  let msgRef ← octet (smsp + 1)
  let digits ← octet (smsp + 2)
  -- the length of the destination address in octets
  let daLenBytes := 2 + digits.toNat / 2 + digits.toNat % 2
  if 12 < daLenBytes then pure (.error .semantIncMsg)
  else do
    let address ← octets (smsp + 2) daLenBytes
    write 12 daLenBytes
    let addressLv := UInt8.ofNat (daLenBytes - 1) :: (copied 12 address).drop 1
    let destAddr := lib.decodeBcdNumber 21 addressLv
    write 21 (destAddr.length + 1)
    let protocolId ← octet (smsp + 2 + daLenBytes)
    let dataCodingScheme ← octet (smsp + 2 + daLenBytes + 1)
    match gsm338GetSmsAlphabet dataCodingScheme with
    | none => pure (.error .netOutOfOrder)
    | some smsAlphabet => do
        let smsVp := smsp + 2 + daLenBytes + 2
        let smsp ← skipValidityPeriod ((first &&& 0x18) >>> 3) smsVp
        let userDataLen ← octet smsp
        let userData ← rxUserData lib smsAlphabet (smsp + 1) userDataLen.toNat
        let _ ← gsm340ValidityPeriod ((first &&& 0x18) >>> 3) smsVp
        pure (match lib.byExtension destAddr with
          | none => .error .unknownSubscriber
          | some receiver =>
            if first &&& 3 = 1 then
              if lib.stores then
                .ok
                  { sender := subscr
                    receiver := receiver
                    statusRepReq := first &&& 0x20
                    udHdrInd := first &&& 0x40
                    protocolId := protocolId
                    dataCodingScheme := dataCodingScheme
                    msgRef := msgRef
                    destAddr := destAddr
                    userDataLen := userDataLen
                    userData := userData }
              else .error .netOutOfOrder
            else .error .ieNotexist)

/-- What the phone is answered: `GSM411_RP_CAUSE_INV_MAND_INF`, or what the TPDU leads to. -/
inductive RpAnswer where
  | invMandInf (msgRef : Octet)
  | tpdu (msgRef : Octet) (result : Except RpCause SmsRecord)

/-- `gsm411_rx_rp_ud`. The reference is in the header of the RP message, at offset 4 of the message. -/
def gsm411RxRpUd (lib : SmsLib) (subscr : SmsSubscriber) (dstLen dst tpduLen tpdu : Nat) : Prog RpAnswer :=
  if dstLen = 0 ∨ tpduLen = 0 then do
    let msgRef ← octet 4
    pure (.invMandInf msgRef)
  else do
    -- the destination is logged
    let _ ← octets dst dstLen
    let result ← gsm340RxTpdu lib subscr tpdu
    let msgRef ← octet 4
    pure (.tpdu msgRef result)

/-- `gsm411_rx_rp_data`. Two octets of header come first, and then the length, the type and the reference of the RP
    message; its data begin at offset 5. -/
def gsm411RxRpData (lib : SmsLib) (subscr : SmsSubscriber) : Prog RpAnswer := do
  -- in the MO case, this should always be zero length
  let srcLen ← octet 5
  let dstLen ← octet (5 + 1 + srcLen.toNat)
  let rpudLen ← octet (5 + 1 + srcLen.toNat + 1 + dstLen.toNat)
  gsm411RxRpUd lib subscr dstLen.toNat (5 + 1 + srcLen.toNat + 1) rpudLen.toNat
    (5 + 1 + srcLen.toNat + 1 + dstLen.toNat + 1)

/-! ## What lies behind the message -/

theorem honest_validityPeriod (smsVpf : Octet) (smsVp : Nat) : (gsm340ValidityPeriod smsVpf smsVp).Honest := by
  refine .ite (by simp) (.ite (by simp) (.ite (.bind (by simp) fun fi => ?_) (by simp)))
  exact .ite (by simp) (.ite (by simp) (by simp))

theorem honest_skip (smsVpf : Octet) (smsp : Nat) : (skipValidityPeriod smsVpf smsp).Honest := by
  refine .ite (by simp) (.ite (by simp) (.ite (.bind (by simp) fun fi => by simp) (by simp)))

variable (lib : SmsLib) (smsAlphabet : SmsAlphabet) (subscr : SmsSubscriber) (msg : List Octet)

theorem honest_userData (smsp n : Nat) :
    (rxUserData lib smsAlphabet smsp n).Honest := by
  refine .ite (by simp) (.bind (by simp) fun userData => .bind (by simp) fun _ => .ite ?_ (by simp))
  exact .bind (by simp) fun _ => .bind (by simp) fun _ => by simp

theorem honest_rxTpdu (smsp : Nat) :
    (gsm340RxTpdu lib subscr smsp).Honest := by
  refine .bind (by simp) fun first => .bind (by simp) fun msgRef => .bind (by simp) fun digits => ?_
  refine .ite (by simp) (.bind (by simp) fun address => .bind (by simp) fun _ => .bind (by simp) fun _ => ?_)
  refine .bind (by simp) fun protocolId => .bind (by simp) fun dataCodingScheme => ?_
  cases gsm338GetSmsAlphabet dataCodingScheme with
  | none => simp
  | some smsAlphabet =>
    refine .bind (honest_skip _ _) fun smsp => .bind (by simp) fun userDataLen => ?_
    refine .bind (honest_userData lib smsAlphabet _ _) fun userData => .bind (honest_validityPeriod _ _) fun _ => ?_
    simp

theorem honest_rxRpData : (gsm411RxRpData lib subscr).Honest := by
  refine .bind (by simp) fun srcLen => .bind (by simp) fun dstLen => .bind (by simp) fun rpudLen => ?_
  refine .ite (.bind (by simp) fun msgRef => by simp) (.bind (by simp) fun _ => ?_)
  exact .bind (honest_rxTpdu lib subscr _) fun result => .bind (by simp) fun msgRef => by simp

/-! ## What is computed

With zeros behind the message it is what the model on lists computes. -/

theorem getElem?_copied (n : Nat) (buf : List Octet) (k : Nat) :
    (copied n buf)[k]? = if k < n then some (buf.getD k 0) else none := by
  unfold copied
  by_cases hk : k < n
  · rw [if_pos hk, getElem?_take_of_lt hk, getD_eq_getElem?_getD]
    by_cases hlt : k < buf.length
    · rw [getElem?_append_left hlt, getElem?_eq_getElem hlt, getD_some]
    · rw [getElem?_append_right (Nat.le_of_not_lt hlt), getElem?_replicate_of_lt (by omega),
        getElem?_eq_none (Nat.le_of_not_lt hlt)]
      rfl
  · rw [if_neg hk, getElem?_take_eq_none (Nat.le_of_not_lt hk)]

theorem value_octets_zero (i n : Nat) :
    (octets i n).value (memory msg fun _ => 0) = copied n (msg.drop i) := by
  apply ext_getElem?
  intro k
  rw [value_octets, getElem?_copied, getElem?_map]
  by_cases hk : k < n
  · rw [if_pos hk, getElem?_range hk, map_some, memory_zero]
  · rw [if_neg hk, getElem?_eq_none (by simpa using hk), map_none]

theorem copied_copied (n m : Nat) (buf : List Octet) : copied n (copied m buf) = copied n (buf.take m) := by
  apply ext_getElem?
  intro k
  rw [getElem?_copied, getElem?_copied]
  by_cases hk : k < m
  · rw [getD_eq_getElem?_getD, getElem?_copied, if_pos hk, getD_some, getD_eq_getElem?_getD,
      getD_eq_getElem?_getD, getElem?_take_of_lt hk]
  · rw [getD_eq_getElem?_getD, getElem?_copied, if_neg hk, getD_eq_getElem?_getD,
      getElem?_take_eq_none (Nat.le_of_not_lt hk)]

theorem memory_zero_headD (i : Nat) : memory msg (fun _ => 0) i = (msg.drop i).headD 0 := by
  have h := memory_zero msg i 0
  rw [Nat.add_zero] at h
  rw [h, getD_eq_getElem?_getD, headD_eq_head?_getD, head?_eq_getElem?]

theorem value_skip (smsVpf : Octet) (smsp : Nat) :
    msg.drop ((skipValidityPeriod smsVpf smsp).value (memory msg fun _ => 0)) =
      afterValidityPeriod smsVpf (msg.drop smsp) := by
  unfold skipValidityPeriod afterValidityPeriod
  by_cases h2 : smsVpf = 2
  · rw [if_pos h2, if_pos h2, value_pure, drop_drop]
  · rw [if_neg h2, if_neg h2]
    by_cases h3 : smsVpf = 3
    · rw [if_pos h3, if_pos h3, value_pure, drop_drop]
    · rw [if_neg h3, if_neg h3]
      by_cases h1 : smsVpf = 1
      · rw [if_pos h1, if_pos h1, value_bind, value_octet, value_pure, memory_zero_headD]
        by_cases hind : (msg.drop smsp).headD 0 &&& 0x80 ≠ 0
        · rw [if_pos hind, if_pos hind, drop_drop]
        · rw [if_neg hind, if_neg hind, drop_drop]
      · rw [if_neg h1, if_neg h1, value_pure]

theorem value_userData (smsp n : Nat) :
    (rxUserData lib smsAlphabet (smsp + 1) n).value (memory msg fun _ => 0) = copied n ((msg.drop smsp).drop 1) := by
  unfold rxUserData
  by_cases hn : n = 0
  · rw [if_pos hn, hn]
    rfl
  · rw [if_neg hn]
    simp only [value_bind, value_ite, value_pure, value_octets_zero, drop_drop, ite_self]

/-- **The two models compute the same.** -/
theorem value_gsm340RxTpdu (smsp : Nat) :
    (gsm340RxTpdu lib subscr smsp).value (memory msg fun _ => 0) =
      Libmsc.gsm340RxTpdu lib.toSmsEnv subscr (msg.drop smsp) := by
  unfold gsm340RxTpdu Libmsc.gsm340RxTpdu
  simp only [value_bind, value_octet, value_ite, value_pure, memory_zero_headD,
    value_octets_zero, drop_drop, copied_copied, Nat.add_assoc, Nat.reduceAdd]
  refine if_congr Iff.rfl rfl ?_
  cases gsm338GetSmsAlphabet _ with
  | none => rfl
  | some smsAlphabet =>
    cases lib.byExtension _ with
    | none => rfl
    | some receiver =>
      simp only [value_bind, value_octet, value_pure, memory_zero_headD, value_userData, value_skip]

/-! ## What is accessed -/

/-- How many octets the validity period of a format takes, with the first of them. -/
def validityLen (smsVpf first : Octet) : Nat :=
  if smsVpf = 2 then 1
  else if smsVpf = 3 then 7
  else if smsVpf = 1 then if first &&& 0x80 ≠ 0 then 8 else 7
  else 0

/-- The end of what a TPDU says that it has: of the user data, or of the field that it is refused for. -/
def tpduEnd (mem : Nat → Octet) (smsp : Nat) : Nat :=
  let daLenBytes := 2 + (mem (smsp + 2)).toNat / 2 + (mem (smsp + 2)).toNat % 2
  let smsVp := smsp + 2 + daLenBytes + 2
  let udl := smsVp + validityLen ((mem smsp &&& 0x18) >>> 3) (mem smsVp)
  if 12 < daLenBytes then smsp + 3
  else if gsm338GetSmsAlphabet (mem (smsp + 2 + daLenBytes + 1)) = none then smsVp
  else udl + 1 + (mem udl).toNat

/-- The end of what an RP-DATA message says that it has. -/
def rpDataEnd (mem : Nat → Octet) : Nat :=
  let dstLen := 5 + 1 + (mem 5).toNat
  let rpudLen := dstLen + 1 + (mem dstLen).toNat
  if (mem dstLen).toNat = 0 ∨ (mem rpudLen).toNat = 0 then rpudLen + 1 else tpduEnd mem (rpudLen + 1)

variable {len : Nat} {mem : Nat → Octet}

theorem tpduEnd_ge (smsp : Nat) : smsp + 3 ≤ tpduEnd mem smsp := by
  unfold tpduEnd
  dsimp only
  split
  · exact le_refl _
  · split <;> omega

theorem value_skip_eq (smsVpf : Octet) (smsp : Nat) :
    (skipValidityPeriod smsVpf smsp).value mem = smsp + validityLen smsVpf (mem smsp) := by
  unfold skipValidityPeriod validityLen
  rw [value_ite, value_ite, value_ite, value_bind, value_octet]
  simp only [value_pure, Nat.add_zero, apply_ite (smsp + ·)]

/-- What reads the format of the validity period, and its octets, stays before the length of the user data. -/
theorem safe_skip {smsVpf : Octet} {smsp : Nat} (h : smsp + validityLen smsVpf (mem smsp) ≤ len) :
    (skipValidityPeriod smsVpf smsp).Safe len mem := by
  unfold skipValidityPeriod
  unfold validityLen at h
  simp only [safe_ite, safe_pure, safe_bind, safe_octet, and_true, implies_true, true_and]
  intro h2 h3 h1
  rw [if_neg h2, if_neg h3, if_pos h1] at h
  split at h <;> omega

theorem safe_validityPeriod {smsVpf : Octet} {smsVp : Nat} (h : smsVp + validityLen smsVpf (mem smsVp) ≤ len) :
    (gsm340ValidityPeriod smsVpf smsVp).Safe len mem := by
  unfold gsm340ValidityPeriod
  unfold validityLen at h
  by_cases h2 : smsVpf = 2
  · rw [if_pos h2] at h ⊢
    simp only [safe_octets]
    omega
  · rw [if_neg h2] at h ⊢
    by_cases h3 : smsVpf = 3
    · rw [if_pos h3] at h ⊢
      simp only [safe_octets]
      omega
    · rw [if_neg h3] at h ⊢
      by_cases h1 : smsVpf = 1
      · rw [if_pos h1] at h ⊢
        rw [safe_bind, safe_octet, value_octet]
        dsimp only
        simp only [safe_ite, safe_octets, safe_pure, implies_true, and_true]
        by_cases hfi : mem smsVp &&& 0x80 ≠ 0
        · rw [if_pos hfi] at h ⊢
          refine ⟨by omega, fun _ => by omega, fun _ _ => by omega⟩
        · rw [if_neg hfi] at h ⊢
          refine ⟨by omega, fun _ => by omega, fun _ _ => by omega⟩
      · rw [if_neg h1]
        simp

theorem safe_userData (smsp : Nat) (userDataLen : Octet) :
    (rxUserData lib smsAlphabet smsp userDataLen.toNat).Safe len mem ↔
      userDataLen.toNat = 0 ∨ smsp + userDataLen.toNat ≤ len := by
  have hlt : userDataLen.toNat < 256 := userDataLen.toNat_lt
  have hread := lib.read_le userDataLen.toNat
  have hwritten := lib.written_le userDataLen.toNat
  unfold rxUserData
  by_cases hn : userDataLen.toNat = 0
  · simp [hn]
  · rw [if_neg hn]
    simp only [safe_bind, safe_octets, safe_write, safe_ite, safe_pure, and_true, implies_true]
    constructor
    · rintro ⟨h, -⟩
      exact h
    · intro h
      exact ⟨h, by omega, fun _ => ⟨by omega, by omega⟩⟩

theorem safe_rxTpdu (smsp : Nat) :
    (gsm340RxTpdu lib subscr smsp).Safe len mem ↔ tpduEnd mem smsp ≤ len := by
  unfold gsm340RxTpdu tpduEnd
  rw [safe_bind, value_octet, safe_bind, value_octet, safe_bind, value_octet]
  generalize hda : 2 + (mem (smsp + 2)).toNat / 2 + (mem (smsp + 2)).toNat % 2 = daLenBytes
  simp only [safe_octet]
  by_cases h12 : 12 < daLenBytes
  · rw [if_pos h12, if_pos h12]
    simp only [safe_pure, and_true]
    omega
  · rw [if_neg h12, if_neg h12]
    rw [safe_bind, safe_bind, safe_bind, safe_bind, value_octet, safe_bind, value_octet]
    simp only [safe_octet, safe_octets, safe_write]
    have hnumber := lib.decode_lt 21 (UInt8.ofNat (daLenBytes - 1) ::
      (copied 12 ((octets (smsp + 2) daLenBytes).value mem)).drop 1) (by decide)
    cases gsm338GetSmsAlphabet (mem (smsp + 2 + daLenBytes + 1)) with
    | none =>
      rw [if_pos rfl]
      simp only [safe_pure, and_true]
      omega
    | some smsAlphabet =>
      rw [if_neg (some_ne_none _)]
      simp only [safe_bind, safe_octet, value_octet, safe_pure, value_skip_eq, safe_userData, and_true]
      constructor
      · rintro ⟨h1, h2, h3, h4, h5, h6, h7, h8, h9, h10, h11, h13⟩
        omega
      · intro h
        refine ⟨by omega, by omega, by omega, by omega, by omega, by omega, by omega, by omega, ?_, by omega,
          by omega, ?_⟩
        · exact safe_skip (by omega)
        · exact safe_validityPeriod (by omega)

theorem safe_rxRpData :
    (gsm411RxRpData lib subscr).Safe len mem ↔ rpDataEnd mem ≤ len := by
  unfold gsm411RxRpData gsm411RxRpUd rpDataEnd
  rw [safe_bind, value_octet, safe_bind, value_octet, safe_bind, value_octet]
  simp only [safe_octet]
  generalize hdst : 5 + 1 + (mem 5).toNat = dst
  generalize hlen : (mem dst).toNat = dstLen
  generalize hud : (mem (dst + 1 + dstLen)).toNat = rpudLen
  by_cases hnone : dstLen = 0 ∨ rpudLen = 0
  · rw [if_pos hnone, if_pos hnone]
    simp only [safe_bind, safe_octet, safe_pure, and_true]
    omega
  · have hend : dst + 1 + dstLen + 1 + 3 ≤ tpduEnd mem (dst + 1 + dstLen + 1) := tpduEnd_ge _
    rw [if_neg hnone, if_neg hnone]
    simp only [safe_bind, safe_octet, safe_octets, safe_pure, safe_rxTpdu, and_true]
    omega

/-- **An RP-DATA message is read inside its bounds, whatever lies behind it, if and only if it has what it says; and no
    field is written over its end.** -/
theorem rxRpData_safe_iff (lib : SmsLib) (subscr : SmsSubscriber) (msg : List Octet) :
    (∀ behind, (gsm411RxRpData lib subscr).Safe msg.length (memory msg behind)) ↔
      rpDataEnd (fun i => msg.getD i 0) ≤ msg.length := by
  rw [(honest_rxRpData lib subscr).safe_behind, safe_rxRpData]
  have hmem : memory msg (fun _ => 0) = fun i => msg.getD i 0 := rfl
  rw [hmem]

/-- The fields are never written over their end: what is wrong is only ever what is read. -/
theorem rxRpData_writes {size n : Nat}
    (h : .write size n ∈ (gsm411RxRpData lib subscr).trace mem) : n ≤ size :=
  (safe_rxRpData lib subscr).mpr (le_refl (rpDataEnd mem)) _ h

/-- A message that has what it says is answered by its TPDU alone. -/
theorem rxRpData_value {msg : List Octet}
    (h : rpDataEnd (fun i => msg.getD i 0) ≤ msg.length) (behind : Nat → Octet) :
    (gsm411RxRpData lib subscr).value (memory msg behind) =
      (let dst := 5 + 1 + octetAt msg 5
       let rpud := dst + 1 + octetAt msg dst
       if octetAt msg dst = 0 ∨ octetAt msg rpud = 0 then .invMandInf (msg.getD 4 0)
       else .tpdu (msg.getD 4 0) (Libmsc.gsm340RxTpdu lib.toSmsEnv subscr (msg.drop (rpud + 1)))) := by
  have hsafe : (gsm411RxRpData lib subscr).Safe msg.length (memory msg fun _ => 0) := (safe_rxRpData lib subscr).mpr h
  rw [(honest_rxRpData lib subscr).value_behind hsafe]
  unfold gsm411RxRpData gsm411RxRpUd
  rw [value_bind, value_bind, value_bind, value_ite]
  simp only [value_bind, value_octet, value_pure, value_gsm340RxTpdu]
  rfl

/-- What libosmocore does with numbers, and at most with a text. -/
def plainLib : SmsLib where
  toSmsEnv := plainSmsEnv
  septetsRead := id
  septetsWritten := (· + 1)
  decode_lt := fun size lv h => by
    have hle := List.length_take_le (size - 2) (SemiOctets.readNumber ((lv.drop 2).take (octetAt lv 0 - 1)))
    exact Nat.lt_of_le_of_lt hle (by omega)
  read_le := fun _ => le_refl _
  written_le := fun _ => le_refl _

/-- An RP-DATA message whose TPDU ends before its user data, of which it says that there are five octets. -/
def cutShort : List Octet := [0x09, 0x01, 13, 0, 1, 0, 1, 0x91, 7, 0x01, 0, 0, 0x81, 0, 0, 5]

theorem rxRpData_writes_cutShort :
    .write 256 6 ∈ (gsm411RxRpData plainLib ⟨[]⟩).trace (memory cutShort fun _ => 0) ∧ 6 ≤ 256 := by
  have hwrite : .write 256 6 ∈ (gsm411RxRpData plainLib ⟨[]⟩).trace (memory cutShort fun _ => 0) :=
    List.mem_of_getElem? (show _[25]? = some _ from rfl)
  exact ⟨hwrite, rxRpData_writes _ _ hwrite⟩

/-- A greeting to the subscriber 20043. -/
def whole : List Octet :=
  [0x09, 0x01, 24, 0, 1, 0, 4, 0x91, 0x94, 0x71, 0x10, 15,
    0x01, 1, 5, 0x91, 0x02, 0x40, 0xf3, 0, 0, 5, 0xe8, 0x32, 0x9b, 0xfd, 0x06]

/-- It is stored, whatever lies behind it. -/
theorem rxRpData_value_whole : ∃ sms : SmsRecord, sms.receiver = ⟨octets "20043"⟩ ∧ ∀ behind,
    (gsm411RxRpData plainLib ⟨[]⟩).value (memory whole behind) = .tpdu 1 (.ok sms) :=
  ⟨_, rfl, fun behind => (rxRpData_value _ _ (by decide) behind).trans rfl⟩

/-- **It is read over the end.** -/
theorem not_safe_cutShort : ¬ ∀ (lib : SmsLib) (subscr : SmsSubscriber) (msg : List Octet) (behind : Nat → Octet),
    (gsm411RxRpData lib subscr).Safe msg.length (memory msg behind) := by
  intro h
  have hsafe := h plainLib ⟨[]⟩ cutShort fun _ => 0
  rw [safe_rxRpData] at hsafe
  exact absurd hsafe (by decide)

end OpenBsc.Libmsc.SmsReception
