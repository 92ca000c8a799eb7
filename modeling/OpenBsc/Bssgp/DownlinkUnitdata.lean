import OpenBsc.Bssgp.FlowOrder
import OpenBsc.Bssgp.Receive
import OpenBsc.Lib.SemiOctets
import OpenBsc.Lib.Tvlv

/-!
# `Bssgp.DownlinkUnitdata` — LLC PDUs on their way to a BSS (`gprs_bssgp.c`)

`gprs_bssgp_tx_dl_ud` pushes the elements of a DL-UNITDATA and its header in front of an LLC PDU, the last one first,
and hands what results to the flow control of the mobile station, from where it goes on to that of the BVC and to NS.
`readDlUnitdata` is a parser of the format. It recovers what was put in (`readDlUnitdata_dlUdPdu`), but there is no
result

- without an MM context, whose flow control is used all the same;
- for an IMSI of sixteen digits, whose identity does not fit in `mi`;
- where a flow control has to queue the PDU and cannot: no list head is ever initialised, and until the BSS has said how
  fast it leaks the timer is a division by zero.

`transmitted_iff` says that these are all. What libosmocore writes is `GbLib`. The elements and the header need 88
octets of headroom at most, and every caller leaves more than that. Counters and log texts are left out.
-/

namespace OpenBsc.Bssgp

open SemiOctets Tvlv List

/-! ## Data model -/

/-- `isdigit`. -/
def IsDigit (c : Octet) : Prop := 48 ≤ c.toNat ∧ c.toNat ≤ 57

instance (c : Octet) : Decidable (IsDigit c) := inferInstanceAs (Decidable (_ ∧ _))

/-- `struct sgsn_mm_ctx`, what is used of it here. The IMSI is a string in seventeen octets. -/
structure MmCtx where
  imsi : List Octet
  imsi_digit : ∀ c ∈ imsi, IsDigit c
  imsi_lt : imsi.length < 17
  msRadioAccessCapa : List Octet
  capa_le : msRadioAccessCapa.length ≤ 52
  drxParms : BitVec 16
  fc : BssgpFlowControl (List Octet)

/-- A message with an LLC PDU, and the identifiers in its control block. The largest PDU of LLC is far shorter than
    what two octets of length are good for. -/
structure LlcMsg where
  data : List Octet
  data_lt : data.length < 2 ^ 15
  tlli : BitVec 32
  bvci : BitVec 16
  nsei : BitVec 16

/-- What `gsm48_generate_mid_from_imsi` writes to its buffer, whose length it returns, and what `tvlv_put` writes. -/
structure GbLib where
  generateMid : List Octet → List Octet
  tvlvPut : Octet → List Octet → List Octet

/-- A mobile identity that is an IMSI: its first digit, whether there is an odd number of them, and the type; then the
    other digits. -/
def imsiIdentity : List Octet → List Octet
  | [] => []
  | c :: rest =>
    UInt8.ofNat (16 * (c.toNat - 48) + 8 * ((rest.length + 1) % 2) + 1) ::
      semiOctets (rest.map fun c => c.toNat - 48)

/-- The identity is written with its tag and length, and a value that is not too long with its own. -/
structure GbLib.Lawful (lib : GbLib) : Prop where
  generateMid : ∀ imsi, imsi ≠ [] → (∀ c ∈ imsi, IsDigit c) →
    lib.generateMid imsi = 0x17 :: UInt8.ofNat (imsiIdentity imsi).length :: imsiIdentity imsi
  tvlvPut : ∀ tag val, val.length < 2 ^ 15 → lib.tvlvPut tag val = Tvlv.tvlv tag val

/-- The four readings of `gettimeofday`: for the bucket test and the record of transmission of the station and of the
    BVC. -/
structure DlUdTimes where
  mmNow : Timeval
  mmSent : Timeval
  bvcNow : Timeval
  bvcSent : Timeval

/-- The flow control of the station and of the BVC after a PDU was handed to them, and what NS was given. -/
structure HandedOn where
  fcMm : BssgpFlowControl (List Octet)
  fcBvc : BssgpFlowControl (List Octet)
  ns : List (List Octet)

/-- What is returned: an error, or what became of the PDU on the BVC whose context is `bctx`. -/
inductive DlUd where
  | refused (errno : Nat)
  | handedOn (bctx : Nat) (out : HandedOn)

def enodev : Nat := 19

/-- `BSSGP_IE_*` of a DL-UNITDATA. -/
def ieDrxParams : Octet := 0x0a
def ieImsi : Octet := 0x0d
def ieLlcPdu : Octet := 0x0e
def ieMsRadioAccessCap : Octet := 0x13
def iePduLifetime : Octet := 0x16

/-- `pdu_lifetime`, in centiseconds. -/
def pduLifetime : BitVec 16 := 1000

/-- `qos_profile_default`. -/
def qosProfileDefault : List Octet := [0x00, 0x00, 0x20]

/-! ## Transmission -/

/-- `htons` and `htonl`, as they stand in memory. -/
def htons (v : BitVec 16) : List Octet := [UInt8.ofNat (v.toNat / 256), UInt8.ofNat (v.toNat % 256)]
def htonl (v : BitVec 32) : List Octet := htons (v.extractLsb' 16 16) ++ htons (v.extractLsb' 0 16)

/-- The tag and the length that are put in front of the LLC PDU. -/
def llcPduTlvHdr (msgLen : Nat) : List Octet :=
  if 127 < msgLen then [ieLlcPdu, UInt8.ofNat (msgLen / 256), UInt8.ofNat (msgLen % 256)]
  else [ieLlcPdu, UInt8.ofNat (128 + msgLen % 128)]

/-- `struct bssgp_ud_hdr`. -/
def bssgpUdHdr (tlli : BitVec 32) : List Octet := 0x00 :: (htonl tlli ++ qosProfileDefault)

section Transmission

variable (lib : GbLib)

/-- `msgb_tvlv_push`. -/
def GbLib.msgbTvlvPush (tag : Octet) (val data : List Octet) : List Octet := lib.tvlvPut tag val ++ data

/-- The IMSI, if there is one. The array `mi` has ten octets, and there is no result where they are not enough. -/
def GbLib.pushImsi (imsi data : List Octet) : Option (List Octet) :=
  if imsi = [] then some data
  else
    let mi := lib.generateMid imsi
    if mi.length ≤ 10 then
      some (if 2 < mi.length then lib.msgbTvlvPush ieImsi (mi.drop 2) data else data)
    else none

/-- The elements that are known from the MM context. -/
def GbLib.pushMmctx (mmctx : MmCtx) (data : List Octet) : Option (List Octet) :=
  (lib.pushImsi mmctx.imsi data).map fun data =>
    let data := lib.msgbTvlvPush ieDrxParams (htons mmctx.drxParms) data
    if mmctx.msRadioAccessCapa.length ≠ 0 then lib.msgbTvlvPush ieMsRadioAccessCap mmctx.msRadioAccessCapa data
    else data

/-- The message when it is handed to flow control. -/
def GbLib.dlUdPdu (msg : LlcMsg) (mmctx : Option MmCtx) : Option (List Octet) :=
  let data := llcPduTlvHdr msg.data.length ++ msg.data
  (match mmctx with
    | none => some data
    | some mmctx => lib.pushMmctx mmctx data).map fun data =>
    bssgpUdHdr msg.tlli ++ lib.msgbTvlvPush iePduLifetime (htons pduLifetime) data

variable (headElement : BssgpFlowControl (List Octet) → BssgpFcQueueElement (List Octet))

/-- `bssgp_fc_in(&mmctx->fc, msg, msg_len, &bctx->fc)`: what the station's flow control passes on goes through the
    BVC's, whose output is given to NS. -/
def fcThrough (times : DlUdTimes) (fcMm fcBvc : BssgpFlowControl (List Octet))
    (fcqe : BssgpFcQueueElement (List Octet)) : Option HandedOn :=
  (bssgpFcIn headElement fcMm times.mmNow times.mmSent fcqe).toOption.bind fun mm =>
    match mm.2 with
    | [] => some ⟨mm.1, fcBvc, []⟩
    | fcqe :: _ =>
      (bssgpFcIn headElement fcBvc times.bvcNow times.bvcSent { fcqe with priv := 0 }).toOption.map fun bvc =>
        ⟨mm.1, bvc.1, bvc.2.map BssgpFcQueueElement.msg⟩

/-- `gprs_bssgp_tx_dl_ud`. -/
def gprsBssgpTxDlUd (times : DlUdTimes) (ctxts : BvcCtxts (List Octet)) (msg : LlcMsg) (mmctx : Option MmCtx) :
    Option DlUd :=
  if msg.bvci ≤ bvciPtm then some (.refused einval)
  else
    match btsctxByBvciNsei ctxts msg.bvci msg.nsei with
    | none => some (.refused enodev)
    | some (i, bctx) =>
      (lib.dlUdPdu msg mmctx).bind fun pdu =>
        -- `&mmctx->fc` is taken whether there is a context or not
        mmctx.bind fun mmctx =>
          (fcThrough headElement times mmctx.fc bctx.fc ⟨pdu, msg.data.length, i⟩).map (.handedOn i)

end Transmission

/-! ## Format -/

/-- What a DL-UNITDATA says. -/
structure DlUnitdata where
  tlli : BitVec 32
  qosProfile : List Octet
  pduLifetime : BitVec 16
  msRadioAccessCapa : Option (List Octet)
  drxParms : Option (BitVec 16)
  imsi : Option (List Octet)
  llcPdu : List Octet

/-- The digits of a mobile identity, if it is an IMSI. -/
def readImsi : List Octet → Option (List Octet)
  | [] => none
  | o :: rest =>
    if o.toNat % 8 = 1 then
      let digits := o.toNat / 16 :: ofSemiOctets rest
      some ((if o.toNat / 8 % 2 = 1 then digits else digits.dropLast).map fun d => UInt8.ofNat (48 + d))
    else none

/-- A parser of the format: the header, then elements in any order. -/
def readDlUnitdata (pdu : List Octet) : Option DlUnitdata :=
  if 8 ≤ pdu.length ∧ octetAt pdu 0 = 0x00 then
    (Tvlv.elements (pdu.drop 8)).bind fun tp =>
      (Tvlv.find iePduLifetime tp).bind fun lifetime =>
        (Tvlv.find ieLlcPdu tp).map fun llc =>
          { tlli := ntohlAt pdu 1
            qosProfile := (pdu.drop 5).take 3
            pduLifetime := ntohsAt lifetime 0
            msRadioAccessCapa := Tvlv.find ieMsRadioAccessCap tp
            drxParms := (Tvlv.find ieDrxParams tp).map fun val => ntohsAt val 0
            imsi := (Tvlv.find ieImsi tp).bind readImsi
            llcPdu := llc }
  else none

/-- A field of a context that may be empty. -/
def filled (field : List Octet) : Option (List Octet) := if field = [] then none else some field

/-- What is to be said of a message and the context, if there is one. -/
def saidOf (msg : LlcMsg) (mmctx : Option MmCtx) : DlUnitdata where
  tlli := msg.tlli
  qosProfile := qosProfileDefault
  pduLifetime := pduLifetime
  msRadioAccessCapa := mmctx.bind fun mmctx => filled mmctx.msRadioAccessCapa
  drxParms := mmctx.map MmCtx.drxParms
  imsi := mmctx.bind fun mmctx => filled mmctx.imsi
  llcPdu := msg.data

/-! ## Round trip -/

theorem ntohsAt_htons (v : BitVec 16) (rest : List Octet) : ntohsAt (htons v ++ rest) 0 = v := by
  have hlt : v.toNat < 2 ^ 16 := v.isLt
  have hhigh : (UInt8.ofNat (v.toNat / 256)).toNat = v.toNat / 256 := toNat_octetOf (by omega)
  have hlow : (UInt8.ofNat (v.toNat % 256)).toNat = v.toNat % 256 := toNat_octetOf (by omega)
  show BitVec.ofNat 16 ((UInt8.ofNat (v.toNat / 256)).toNat * 256 + (UInt8.ofNat (v.toNat % 256)).toNat) = v
  rw [hhigh, hlow, Nat.div_add_mod']
  exact BitVec.ofNat_toNat 16 v

theorem ntohlAt_htonl (v : BitVec 32) (rest : List Octet) : ntohlAt (htonl v ++ rest) 0 = v := by
  have hhigh : ntohsAt (htonl v ++ rest) 0 = v.extractLsb' 16 16 := by
    unfold htonl
    rw [append_assoc]
    exact ntohsAt_htons _ _
  have hlow : ntohsAt (htonl v ++ rest) 2 = v.extractLsb' 0 16 := ntohsAt_htons (v.extractLsb' 0 16) rest
  unfold ntohlAt
  rw [hhigh, hlow]
  exact BitVec.extractLsb'_append_extractLsb'_eq_extractLsb' (by omega) |>.trans (by simp)

theorem ntohlAt_bssgpUdHdr (tlli : BitVec 32) (rest : List Octet) : ntohlAt (bssgpUdHdr tlli ++ rest) 1 = tlli := by
  have hbehind : ntohlAt (bssgpUdHdr tlli ++ rest) 1 = ntohlAt (htonl tlli ++ (qosProfileDefault ++ rest)) 0 := rfl
  rw [hbehind]
  exact ntohlAt_htonl tlli _

/-! ### The identity -/

variable {imsi : List Octet}

theorem length_imsiIdentity (h : imsi ≠ []) : (imsiIdentity imsi).length = 1 + imsi.length / 2 := by
  cases imsi with
  | nil => exact absurd rfl h
  | cons c rest =>
    unfold imsiIdentity
    rw [length_cons, length_semiOctets, length_map, length_cons]
    omega

theorem ofNat_digit {c : Octet} (h : IsDigit c) : UInt8.ofNat (48 + (c.toNat - 48)) = c := by
  have heq : 48 + (c.toNat - 48) = c.toNat := Nat.add_sub_of_le h.1
  rw [heq]
  exact UInt8.ofNat_toNat

/-- **The IMSI is read back**, whether its digits are odd in number or even. -/
theorem readImsi_imsiIdentity (h : ∀ c ∈ imsi, IsDigit c) (hne : imsi ≠ []) :
    readImsi (imsiIdentity imsi) = some imsi := by
  cases imsi with
  | nil => exact absurd rfl hne
  | cons c rest =>
    have hc := h c mem_cons_self
    have hdigits : ∀ d ∈ rest.map fun c => c.toNat - 48, d < 16 := by
      intro d hd
      obtain ⟨e, he, rfl⟩ := mem_map.mp hd
      have hdigit := h e (mem_cons_of_mem _ he)
      unfold IsDigit at hdigit
      omega
    have hrest : (rest.map fun c => c.toNat - 48).map (fun d => UInt8.ofNat (48 + d)) = rest := by
      rw [map_map]
      refine (map_congr_left fun e he => ?_).trans (map_id rest)
      exact ofNat_digit (h e (mem_cons_of_mem _ he))
    unfold IsDigit at hc
    have hodd : (rest.length + 1) % 2 < 2 := Nat.mod_lt _ (by omega)
    have hval : (UInt8.ofNat (16 * (c.toNat - 48) + 8 * ((rest.length + 1) % 2) + 1)).toNat =
        16 * (c.toNat - 48) + 8 * ((rest.length + 1) % 2) + 1 := toNat_octetOf (by omega)
    unfold imsiIdentity readImsi
    dsimp only
    rw [hval, if_pos (by omega), ofSemiOctets_semiOctets hdigits, length_map]
    have hfirst : (16 * (c.toNat - 48) + 8 * ((rest.length + 1) % 2) + 1) / 16 = c.toNat - 48 := by omega
    have hflag : (16 * (c.toNat - 48) + 8 * ((rest.length + 1) % 2) + 1) / 8 % 2 = (rest.length + 1) % 2 := by omega
    rw [hfirst, hflag]
    by_cases hlen : (rest.length + 1) % 2 = 1
    · -- an even number of digits follows the first one, and there is no filler
      rw [if_pos hlen, if_neg (by omega), append_nil, map_cons, hrest, ofNat_digit hc]
    · rw [if_neg hlen, if_pos (by omega), ← cons_append, dropLast_concat, map_cons, hrest, ofNat_digit hc]

/-! ### The message -/

section Encoding

variable {lib : GbLib} {msg : LlcMsg} {mmctx : Option MmCtx}

/-- The elements of the message, in order. -/
def dlUdElements (msg : LlcMsg) (mmctx : Option MmCtx) : List Tvlv.Element :=
  (iePduLifetime, htons pduLifetime) ::
    ((match mmctx with
      | none => []
      | some mmctx =>
        Tvlv.optional ieMsRadioAccessCap mmctx.msRadioAccessCapa ++
          (ieDrxParams, htons mmctx.drxParms) :: Tvlv.optional ieImsi (imsiIdentity mmctx.imsi)) ++
      [(ieLlcPdu, msg.data)])

theorem llcPduTlvHdr_append {data : List Octet} (h : data.length < 2 ^ 15) :
    llcPduTlvHdr data.length ++ data = tvlv ieLlcPdu data := by
  unfold llcPduTlvHdr tvlv lengthOctets
  by_cases hlen : data.length ≤ 127
  · have hmod : data.length % 128 = data.length := Nat.mod_eq_of_lt (by omega)
    rw [if_pos hlen, if_neg (by omega), hmod]
    rfl
  · rw [if_neg hlen, if_pos (by omega)]
    rfl

theorem pushImsi_eq (hlib : lib.Lawful) (hdigits : ∀ c ∈ imsi, IsDigit c) (hlen : imsi.length ≤ 15)
    (data : List Octet) :
    lib.pushImsi imsi data = some (encode (optional ieImsi (imsiIdentity imsi)) ++ data) := by
  unfold GbLib.pushImsi
  by_cases hne : imsi = []
  · rw [if_pos hne, hne]
    rfl
  · have hlength := length_imsiIdentity hne
    have hnil : imsiIdentity imsi ≠ [] := by
      intro hnil
      rw [hnil, length_nil] at hlength
      omega
    rw [if_neg hne]
    dsimp only
    rw [hlib.generateMid imsi hne hdigits]
    simp only [length_cons, drop_succ_cons, drop_zero]
    rw [if_pos (by omega), if_pos (by omega)]
    unfold GbLib.msgbTvlvPush Tvlv.optional
    rw [hlib.tvlvPut _ _ (by omega), if_neg hnil, encode_cons]
    exact congrArg some (congrArg (· ++ data) (append_nil _).symm)

theorem pushImsi_eq_none (hlib : lib.Lawful) (hdigits : ∀ c ∈ imsi, IsDigit c) (hlen : ¬ imsi.length ≤ 15)
    (data : List Octet) : lib.pushImsi imsi data = none := by
  have hne : imsi ≠ [] := by
    rintro rfl
    exact hlen (Nat.zero_le _)
  have hlength := length_imsiIdentity hne
  unfold GbLib.pushImsi
  rw [if_neg hne]
  dsimp only
  rw [hlib.generateMid imsi hne hdigits]
  simp only [length_cons]
  exact if_neg (by omega)

theorem length_htons (v : BitVec 16) : (htons v).length = 2 := rfl

theorem pushMmctx_eq (hlib : lib.Lawful) {mm : MmCtx} (hlen : mm.imsi.length ≤ 15) (data : List Octet) :
    lib.pushMmctx mm data = some (encode (optional ieMsRadioAccessCap mm.msRadioAccessCapa ++
      (ieDrxParams, htons mm.drxParms) :: optional ieImsi (imsiIdentity mm.imsi)) ++ data) := by
  have hcapa := mm.capa_le
  have hdrx : lib.tvlvPut ieDrxParams (htons mm.drxParms) = tvlv ieDrxParams (htons mm.drxParms) :=
    hlib.tvlvPut _ _ (by rw [length_htons]; omega)
  unfold GbLib.pushMmctx GbLib.msgbTvlvPush
  rw [pushImsi_eq hlib mm.imsi_digit hlen, Option.map_some, encode_append, encode_cons, hdrx,
    hlib.tvlvPut _ mm.msRadioAccessCapa (by omega)]
  unfold Tvlv.optional
  by_cases hnil : mm.msRadioAccessCapa = []
  · rw [if_pos hnil, hnil]
    simp [encode]
  · have hpos : mm.msRadioAccessCapa.length ≠ 0 := mt length_eq_zero_iff.mp hnil
    rw [if_neg hnil]
    simp [encode, hpos]

variable (msg) in
/-- **The message consists of its header and its elements.** -/
theorem dlUdPdu_eq (hlib : lib.Lawful) (hlen : ∀ mm ∈ mmctx, mm.imsi.length ≤ 15) :
    lib.dlUdPdu msg mmctx = some (bssgpUdHdr msg.tlli ++ encode (dlUdElements msg mmctx)) := by
  have hlife : lib.tvlvPut iePduLifetime (htons pduLifetime) = tvlv iePduLifetime (htons pduLifetime) :=
    hlib.tvlvPut _ _ (by rw [length_htons]; omega)
  have hllc : encode [(ieLlcPdu, msg.data)] = tvlv ieLlcPdu msg.data := append_nil _
  unfold GbLib.dlUdPdu dlUdElements GbLib.msgbTvlvPush
  dsimp only
  rw [llcPduTlvHdr_append msg.data_lt, hlife, encode_cons, encode_append, hllc]
  cases mmctx with
  | none => rfl
  | some mm =>
    dsimp only
    rw [pushMmctx_eq hlib (hlen mm rfl)]
    rfl

variable (msg) in
theorem dlUdPdu_eq_none (hlib : lib.Lawful) {mm : MmCtx} (hlen : ¬ mm.imsi.length ≤ 15) :
    lib.dlUdPdu msg (some mm) = none := by
  unfold GbLib.dlUdPdu GbLib.pushMmctx
  dsimp only
  rw [pushImsi_eq_none hlib mm.imsi_digit hlen]
  rfl

theorem dlUdElements_some (msg : LlcMsg) (mm : MmCtx) :
    dlUdElements msg (some mm) = (iePduLifetime, htons pduLifetime) ::
      (optional ieMsRadioAccessCap mm.msRadioAccessCapa ++ (ieDrxParams, htons mm.drxParms) ::
        (optional ieImsi (imsiIdentity mm.imsi) ++ [(ieLlcPdu, msg.data)])) := by
  unfold dlUdElements
  dsimp only
  rw [append_assoc, cons_append]

theorem length_optional_lt {tag : Octet} {val : List Octet} (h : val.length < 2 ^ 15) :
    ∀ e ∈ optional tag val, e.2.length < 2 ^ 15 := by
  intro e he
  unfold Tvlv.optional at he
  split at he
  · exact absurd he not_mem_nil
  · rw [mem_singleton.mp he]
    exact h

theorem length_dlUdElements (hlen : ∀ mm ∈ mmctx, mm.imsi.length ≤ 15) :
    ∀ e ∈ dlUdElements msg mmctx, e.2.length < 2 ^ 15 := by
  have hllc : ∀ e ∈ [(ieLlcPdu, msg.data)], e.2.length < 2 ^ 15 := forall_mem_singleton.mpr msg.data_lt
  have hshort (v : BitVec 16) : (htons v).length < 2 ^ 15 := by
    rw [length_htons]
    omega
  cases mmctx with
  | none => exact forall_mem_cons.mpr ⟨hshort _, hllc⟩
  | some mm =>
    have himsi : (imsiIdentity mm.imsi).length < 2 ^ 15 := by
      have hfits := hlen mm rfl
      by_cases hne : mm.imsi = []
      · rw [hne]
        exact Nat.two_pow_pos 15
      · rw [length_imsiIdentity hne]
        omega
    have hcapa : mm.msRadioAccessCapa.length < 2 ^ 15 := Nat.lt_of_le_of_lt mm.capa_le (by omega)
    rw [dlUdElements_some]
    refine forall_mem_cons.mpr ⟨hshort _, forall_mem_append.mpr ⟨length_optional_lt hcapa, ?_⟩⟩
    exact forall_mem_cons.mpr ⟨hshort _, forall_mem_append.mpr ⟨length_optional_lt himsi, hllc⟩⟩

/-! What a parser finds under each tag. -/

theorem find_pduLifetime : find iePduLifetime (dlUdElements msg mmctx) = some (htons pduLifetime) :=
  find_cons_self _ _ _

theorem find_llcPdu : find ieLlcPdu (dlUdElements msg mmctx) = some msg.data := by
  cases mmctx with
  | none =>
    unfold dlUdElements
    rw [find_cons_of_ne (by decide)]
    exact find_cons_self _ _ _
  | some mm =>
    rw [dlUdElements_some, find_cons_of_ne (by decide), find_optional_of_ne (by decide),
      find_cons_of_ne (by decide), find_optional_of_ne (by decide)]
    exact find_cons_self _ _ _

theorem find_drxParams :
    find ieDrxParams (dlUdElements msg mmctx) = mmctx.map fun mm => htons mm.drxParms := by
  cases mmctx with
  | none =>
    unfold dlUdElements
    rw [find_cons_of_ne (by decide)]
    exact find_cons_of_ne (by decide) _ _
  | some mm =>
    rw [dlUdElements_some, find_cons_of_ne (by decide), find_optional_of_ne (by decide)]
    exact find_cons_self _ _ _

theorem find_msRadioAccessCap : find ieMsRadioAccessCap (dlUdElements msg mmctx) =
    mmctx.bind fun mm => filled mm.msRadioAccessCapa := by
  cases mmctx with
  | none =>
    unfold dlUdElements
    rw [find_cons_of_ne (by decide)]
    exact find_cons_of_ne (by decide) _ _
  | some mm =>
    rw [dlUdElements_some, find_cons_of_ne (by decide), find_optional_self,
      find_cons_of_ne (by decide), find_optional_of_ne (by decide), find_cons_of_ne (by decide)]
    rfl

theorem find_imsi : find ieImsi (dlUdElements msg mmctx) = mmctx.bind fun mm => filled (imsiIdentity mm.imsi) := by
  cases mmctx with
  | none =>
    unfold dlUdElements
    rw [find_cons_of_ne (by decide)]
    exact find_cons_of_ne (by decide) _ _
  | some mm =>
    rw [dlUdElements_some, find_cons_of_ne (by decide), find_optional_of_ne (by decide),
      find_cons_of_ne (by decide), find_optional_self, find_cons_of_ne (by decide)]
    rfl

theorem filled_bind_readImsi (mm : MmCtx) : (filled (imsiIdentity mm.imsi)).bind readImsi = filled mm.imsi := by
  unfold filled
  by_cases hne : mm.imsi = []
  · rw [hne]
    rfl
  · have hnil : imsiIdentity mm.imsi ≠ [] := by
      intro hnil
      have hlength := length_imsiIdentity hne
      rw [hnil, length_nil] at hlength
      omega
    rw [if_neg hnil, if_neg hne]
    exact readImsi_imsiIdentity mm.imsi_digit hne

variable (msg) in
/-- **What was put in is recovered.** -/
theorem readDlUnitdata_dlUdPdu (hlib : lib.Lawful) (hlen : ∀ mm ∈ mmctx, mm.imsi.length ≤ 15) :
    (lib.dlUdPdu msg mmctx).bind readDlUnitdata = some (saidOf msg mmctx) := by
  have hlength : 8 ≤ (bssgpUdHdr msg.tlli ++ encode (dlUdElements msg mmctx)).length := by
    rw [length_append]
    exact Nat.le_add_right 8 _
  have hdrop : (bssgpUdHdr msg.tlli ++ encode (dlUdElements msg mmctx)).drop 8 = encode (dlUdElements msg mmctx) := rfl
  have hqos : ((bssgpUdHdr msg.tlli ++ encode (dlUdElements msg mmctx)).drop 5).take 3 = qosProfileDefault := rfl
  have hlife : ntohsAt (htons pduLifetime) 0 = pduLifetime := ntohsAt_htons pduLifetime []
  rw [dlUdPdu_eq msg hlib hlen, Option.bind_some]
  unfold readDlUnitdata
  rw [if_pos ⟨hlength, rfl⟩, ntohlAt_bssgpUdHdr, hqos, hdrop, elements_encode (length_dlUdElements hlen),
    Option.bind_some,
    find_pduLifetime, Option.bind_some, find_llcPdu, Option.map_some, hlife, find_drxParams, find_msRadioAccessCap,
    find_imsi]
  unfold saidOf
  cases mmctx with
  | none => rfl
  | some mm =>
    have hdrx : ntohsAt (htons mm.drxParms) 0 = mm.drxParms := ntohsAt_htons mm.drxParms []
    simp only [Option.map_some, Option.bind_some, hdrx, filled_bind_readImsi]

end Encoding

/-! ## Handing on -/

/-- The messages that wait in an entity. -/
def waiting (fc : BssgpFlowControl (List Octet)) : List (List Octet) := fc.queue.toList.map BssgpFcQueueElement.msg

/-- A PDU is in one place that it was not in before: behind those that waited for the station or for the BVC, or with
    NS. -/
def HandedOn.Holds (out : HandedOn) (mm bvc : List (List Octet)) (pdu : List Octet) : Prop :=
  (waiting out.fcMm = mm ++ [pdu] ∧ waiting out.fcBvc = bvc ∧ out.ns = []) ∨
    (waiting out.fcMm = mm ∧ waiting out.fcBvc = bvc ++ [pdu] ∧ out.ns = []) ∨
      (waiting out.fcMm = mm ∧ waiting out.fcBvc = bvc ∧ out.ns = [pdu])

/-- The context of the BVC a message is for, if that is a point-to-point one and known. -/
def ptpBvc (ctxts : BvcCtxts (List Octet)) (msg : LlcMsg) : Option (Nat × BvcCtx (List Octet)) :=
  if msg.bvci ≤ bvciPtm then none else btsctxByBvciNsei ctxts msg.bvci msg.nsei

/-- What waits for the station. -/
def waitingFor (mmctx : Option MmCtx) : List (List Octet) := (mmctx.map fun mm => waiting mm.fc).getD []

/-- The flow control of the station takes a PDU of this length, and so does that of the BVC if it gets it. -/
def FcTakes (times : DlUdTimes) (fcMm fcBvc : BssgpFlowControl (List Octet)) (len : Nat) : Prop :=
  if PassesOn fcMm times.mmNow len then PassesOn fcBvc times.bvcNow len ∨ CanQueue fcBvc else CanQueue fcMm

instance (times : DlUdTimes) (fcMm fcBvc : BssgpFlowControl (List Octet)) (len : Nat) :
    Decidable (FcTakes times fcMm fcBvc len) :=
  inferInstanceAs (Decidable (ite _ _ _))

section HandingOn

variable (lib : GbLib) (headElement : BssgpFlowControl (List Octet) → BssgpFcQueueElement (List Octet))
  (times : DlUdTimes) (ctxts : BvcCtxts (List Octet)) (msg : LlcMsg) (mmctx : Option MmCtx)

/-- A message is refused only if it is not for a known point-to-point BVC, and otherwise a PDU is handed on from which
    everything is recovered. -/
def Transmitted : Prop :=
  ∃ out, gprsBssgpTxDlUd lib headElement times ctxts msg mmctx = some out ∧
    match out with
    | .refused _ => ptpBvc ctxts msg = none
    | .handedOn i handed =>
      ∃ bctx pdu, ptpBvc ctxts msg = some (i, bctx) ∧ readDlUnitdata pdu = some (saidOf msg mmctx) ∧
        handed.Holds (waitingFor mmctx) (waiting bctx.fc) pdu

/-- The condition: for a known BVC there is a context, whose IMSI has fifteen digits at most, and flow control takes the
    PDU. -/
def DlUdTaken : Prop :=
  ∀ found ∈ ptpBvc ctxts msg, ∃ mm ∈ mmctx, mm.imsi.length ≤ 15 ∧ FcTakes times mm.fc found.2.fc msg.data.length

end HandingOn

variable {lib : GbLib} {headElement : BssgpFlowControl (List Octet) → BssgpFcQueueElement (List Octet)}
  {times : DlUdTimes} {ctxts : BvcCtxts (List Octet)} {msg : LlcMsg} {mmctx : Option MmCtx}

theorem waiting_fcQueued (fc : BssgpFlowControl (List Octet)) (fcqe : BssgpFcQueueElement (List Octet)) :
    waiting (fcQueued fc fcqe) = waiting fc ++ [fcqe.msg] := map_append

theorem fcThrough_holds {fcMm fcBvc : BssgpFlowControl (List Octet)} {fcqe : BssgpFcQueueElement (List Octet)}
    (h : FcTakes times fcMm fcBvc fcqe.llcPduLen) :
    ∃ out, fcThrough headElement times fcMm fcBvc fcqe = some out ∧
      out.Holds (waiting fcMm) (waiting fcBvc) fcqe.msg := by
  unfold FcTakes at h
  unfold fcThrough
  by_cases hmm : PassesOn fcMm times.mmNow fcqe.llcPduLen
  · rw [if_pos hmm] at h
    rw [fcIn_passesOn headElement times.mmSent hmm]
    have hqueue : waiting (fcPassed fcMm times.mmNow times.mmSent fcqe.llcPduLen) = waiting fcMm := by
      unfold waiting
      rw [fcPassed_queue]
    by_cases hbvc : PassesOn fcBvc times.bvcNow fcqe.llcPduLen
    · have hpass : bssgpFcIn headElement fcBvc times.bvcNow times.bvcSent { fcqe with priv := 0 } = _ :=
        fcIn_passesOn headElement times.bvcSent hbvc
      simp only [Except.toOption, Option.bind_some, hpass, Option.map_some]
      refine ⟨_, rfl, .inr (.inr ⟨hqueue, ?_, rfl⟩)⟩
      unfold waiting
      rw [fcPassed_queue]
    · have hin : bssgpFcIn headElement fcBvc times.bvcNow times.bvcSent { fcqe with priv := 0 } = _ :=
        fcIn_queues headElement times.bvcSent hbvc (h.resolve_left hbvc)
      simp only [Except.toOption, Option.bind_some, hin, Option.map_some]
      exact ⟨_, rfl, .inr (.inl ⟨hqueue, waiting_fcQueued _ _, rfl⟩)⟩
  · rw [if_neg hmm] at h
    rw [fcIn_queues headElement times.mmSent hmm h]
    exact ⟨_, rfl, .inl ⟨waiting_fcQueued _ _, rfl, rfl⟩⟩

theorem fcThrough_eq_none {fcMm fcBvc : BssgpFlowControl (List Octet)} {fcqe : BssgpFcQueueElement (List Octet)}
    (h : ¬ FcTakes times fcMm fcBvc fcqe.llcPduLen) : fcThrough headElement times fcMm fcBvc fcqe = none := by
  unfold FcTakes at h
  unfold fcThrough
  by_cases hmm : PassesOn fcMm times.mmNow fcqe.llcPduLen
  · rw [if_pos hmm] at h
    obtain ⟨hbvc, hqueue⟩ := not_or.mp h
    have hdies : bssgpFcIn headElement fcBvc times.bvcNow times.bvcSent { fcqe with priv := 0 } = _ :=
      fcIn_dies headElement times.bvcSent hbvc hqueue
    rw [fcIn_passesOn headElement times.mmSent hmm]
    simp only [Except.toOption, Option.bind_some, hdies, Option.map_none]
  · rw [if_neg hmm] at h
    rw [fcIn_dies headElement times.mmSent hmm h]
    rfl

/-- A message that is not for a known point-to-point BVC is refused before anything is looked at. -/
theorem txDlUd_refused (h : ptpBvc ctxts msg = none) :
    ∃ errno, gprsBssgpTxDlUd lib headElement times ctxts msg mmctx = some (.refused errno) := by
  unfold ptpBvc at h
  unfold gprsBssgpTxDlUd
  by_cases hptm : msg.bvci ≤ bvciPtm
  · rw [if_pos hptm]
    exact ⟨_, rfl⟩
  · rw [if_neg hptm] at h ⊢
    rw [h]
    exact ⟨_, rfl⟩

theorem txDlUd_known {i : Nat} {bctx : BvcCtx (List Octet)} (h : ptpBvc ctxts msg = some (i, bctx)) :
    gprsBssgpTxDlUd lib headElement times ctxts msg mmctx = (lib.dlUdPdu msg mmctx).bind fun pdu =>
      mmctx.bind fun mm =>
        (fcThrough headElement times mm.fc bctx.fc ⟨pdu, msg.data.length, i⟩).map (.handedOn i) := by
  unfold ptpBvc at h
  unfold gprsBssgpTxDlUd
  by_cases hptm : msg.bvci ≤ bvciPtm
  · rw [if_pos hptm] at h
    cases h
  · rw [if_neg hptm] at h ⊢
    rw [h]

theorem transmitted_of_taken (hlib : lib.Lawful) (h : DlUdTaken times ctxts msg mmctx) :
    Transmitted lib headElement times ctxts msg mmctx := by
  cases hbvc : ptpBvc ctxts msg with
  | none =>
    have hout : ∃ errno, gprsBssgpTxDlUd lib headElement times ctxts msg mmctx = some (.refused errno) :=
      txDlUd_refused hbvc
    obtain ⟨errno, hrefused⟩ := hout
    exact ⟨_, hrefused, hbvc⟩
  | some found =>
    obtain ⟨i, bctx⟩ := found
    obtain ⟨mm, hmm, himsi, htakes⟩ := h _ hbvc
    obtain rfl := Option.mem_def.mp hmm
    have hlen : ∀ mm' ∈ some mm, mm'.imsi.length ≤ 15 := fun mm' hmm' => Option.some.inj hmm' ▸ himsi
    have hread := readDlUnitdata_dlUdPdu msg hlib hlen
    have hpdu := dlUdPdu_eq msg hlib hlen
    rw [hpdu, Option.bind_some] at hread
    obtain ⟨out, hout, hholds⟩ := @fcThrough_holds headElement times mm.fc bctx.fc
      ⟨bssgpUdHdr msg.tlli ++ encode (dlUdElements msg (some mm)), msg.data.length, i⟩ htakes
    refine ⟨.handedOn i out, ?_, bctx, _, hbvc, hread, hholds⟩
    rw [txDlUd_known hbvc, hpdu, Option.bind_some, Option.bind_some, hout]
    rfl

theorem taken_of_transmitted (hlib : lib.Lawful) (h : Transmitted lib headElement times ctxts msg mmctx) :
    DlUdTaken times ctxts msg mmctx := by
  rintro ⟨i, bctx⟩ hfound
  obtain ⟨out, hout, -⟩ := h
  rw [txDlUd_known hfound] at hout
  obtain ⟨pdu, hpdu, hthrough⟩ := Option.bind_eq_some_iff.mp hout
  obtain ⟨mm, rfl, hmap⟩ := Option.bind_eq_some_iff.mp hthrough
  refine ⟨mm, rfl, ?_, ?_⟩
  · by_contra hlen
    rw [dlUdPdu_eq_none msg hlib hlen] at hpdu
    cases hpdu
  · by_contra htakes
    rw [fcThrough_eq_none htakes] at hmap
    cases hmap

/-- **Everything is recovered of what is handed on, and all but what is for no known BVC is handed on, exactly if there
    is a context with an IMSI of fifteen digits at most and flow control takes the PDU.** -/
theorem transmitted_iff (hlib : lib.Lawful) :
    Transmitted lib headElement times ctxts msg mmctx ↔ DlUdTaken times ctxts msg mmctx :=
  ⟨taken_of_transmitted hlib, transmitted_of_taken hlib⟩

/-- libosmocore as it is documented. -/
def gbLib : GbLib where
  generateMid imsi := 0x17 :: UInt8.ofNat (imsiIdentity imsi).length :: imsiIdentity imsi
  tvlvPut := Tvlv.tvlv

theorem gbLib_lawful : gbLib.Lawful := ⟨fun _ _ _ => rfl, fun _ _ _ => rfl⟩

def timeZero : Timeval := ⟨0, 0, zero_usec_lt⟩

def allZero : DlUdTimes := ⟨timeZero, timeZero, timeZero, timeZero⟩

/-- An entity with a bucket of 1600 octets and no queue. -/
def fcSized : BssgpFlowControl (List Octet) :=
  { bucketSizeMax := 1600, bucketLeakRate := 100, bucketCounter := 0, timeLastPdu := timeZero, maxQueueDepth := 0,
    queueDepth := 0, queue := .null, timer := none }

/-- One BVC, after a FLOW-CONTROL-BVC. -/
def oneBvc : BvcCtxts (List Octet) := Pool.empty.alloc { bvci := 2, nsei := 1, fc := fcSized }

theorem attachedImsi_digit : ∀ c ∈ octets "262073900001234", IsDigit c := by decide +kernel

theorem attachedImsi_lt : (octets "262073900001234").length < 17 := by decide

theorem attachedCapa_le : [(0x18 : Octet), 0x0b].length ≤ 52 := by decide

/-- A station with an IMSI of fifteen digits. -/
def attachedMm : MmCtx where
  imsi := octets "262073900001234"
  imsi_digit := attachedImsi_digit
  imsi_lt := attachedImsi_lt
  msRadioAccessCapa := [0x18, 0x0b]
  capa_le := attachedCapa_le
  drxParms := 0x2008
  fc := fcSized

theorem statusData_lt : [(0x41 : Octet), 0xc0, 0x01, 0x08, 0x20, 0x60].length < 2 ^ 15 := by decide

/-- A short frame. -/
def statusMsg : LlcMsg where
  data := [0x41, 0xc0, 0x01, 0x08, 0x20, 0x60]
  data_lt := statusData_lt
  tlli := 0xc0123456
  bvci := 2
  nsei := 1

/-- A station that is attached is sent the frame. -/
theorem transmitted_attached : Transmitted gbLib (fun _ => ⟨[], 0, 0⟩) allZero oneBvc statusMsg (some attachedMm) := by
  refine (transmitted_iff gbLib_lawful).mpr fun found hfound => ⟨attachedMm, rfl, by decide, ?_⟩
  cases hfound
  decide

/-- A station without a context is not. -/
theorem not_transmitted_unattached :
    ¬ Transmitted gbLib (fun _ => ⟨[], 0, 0⟩) allZero oneBvc statusMsg none := by
  rintro ⟨out, hout, -⟩
  cases hout

end OpenBsc.Bssgp
