import OpenBsc.Libbsc.ChanAlloc

/-!
# `Libbsc.ChanRequest` — what a phone asks for on the RACH, and the messages that answer it

A CHANNEL REQUIRED brings the request reference and the access delay. The reference says what the phone wants, and the
network what channel that takes. It is answered by an IMMEDIATE ASSIGNMENT with a channel description, whose channel
number the BTS uses in its messages about the channel (`lchanLookup_ts2chanNr`), or by an IMMEDIATE ASSIGNMENT REJECT.
-/

namespace OpenBsc.Libbsc

/-! ## Requests -/

/-- `struct gsm48_req_ref`: the random access, and the frame number in two octets. -/
structure ReqRef where
  ra : Octet
  t1t3High : Octet
  t2t3Low : Octet
  deriving DecidableEq

/-- What `rsl_rx_chan_rqd` reads in the message: the request reference, and the access delay as timing advance. -/
def parseChanRqd : List Octet → Option (ReqRef × Octet)
  | ieRef :: ra :: t1t3High :: t2t3Low :: ieDelay :: ta :: _ =>
    if ieRef = 0x13 ∧ ieDelay = 0x11 then some (⟨ra, t1t3High, t2t3Low⟩, ta) else none
  | _ => none

/-- `enum chreq_type`. -/
inductive ChreqType where
  | emergCall | callReestTchF | callReestTchH | callReestTchHDbl | sdcch | tchF | voiceCallTchH | dataCallTchH
  | locationUpd | pagRAnyNeci1 | pagRAnyNeci0 | pagRTchF | pagRTchFH | lmu | reservedSdcch | reservedIgnore

/-- `enum gsm_chreq_reason_t`. -/
inductive ChreqReason where
  | emerg | pag | call | locationUpd | other
  deriving DecidableEq

/-- `struct chreq`. -/
structure Chreq where
  val : Octet
  mask : Octet
  type : ChreqType

/-- `chreq_type_neci1`: the NECI bit of SYSTEM INFORMATION TYPE 4 is 1. -/
def chreqTypeNeci1 : List Chreq :=
  [⟨0xa0, 0xe0, .emergCall⟩, ⟨0xc0, 0xe0, .callReestTchF⟩, ⟨0x68, 0xfc, .callReestTchH⟩,
    ⟨0x6c, 0xfc, .callReestTchHDbl⟩, ⟨0xe0, 0xe0, .tchF⟩, ⟨0x40, 0xf0, .voiceCallTchH⟩, ⟨0x50, 0xf0, .dataCallTchH⟩,
    ⟨0x00, 0xf0, .locationUpd⟩, ⟨0x10, 0xf0, .sdcch⟩, ⟨0x80, 0xe0, .pagRAnyNeci1⟩, ⟨0x20, 0xf0, .pagRTchF⟩,
    ⟨0x30, 0xf0, .pagRTchFH⟩, ⟨0x67, 0xff, .lmu⟩, ⟨0x60, 0xf9, .reservedSdcch⟩, ⟨0x61, 0xfb, .reservedSdcch⟩,
    ⟨0x63, 0xff, .reservedSdcch⟩, ⟨0x7f, 0xff, .reservedIgnore⟩]

/-- `chreq_type_neci0`: the NECI bit is 0. -/
def chreqTypeNeci0 : List Chreq :=
  [⟨0xa0, 0xe0, .emergCall⟩, ⟨0xc0, 0xe0, .callReestTchH⟩, ⟨0xe0, 0xe0, .tchF⟩, ⟨0x50, 0xf0, .dataCallTchH⟩,
    ⟨0x00, 0xe0, .locationUpd⟩, ⟨0x80, 0xe0, .pagRAnyNeci0⟩, ⟨0x20, 0xf0, .pagRTchF⟩, ⟨0x30, 0xf0, .pagRTchFH⟩,
    ⟨0x67, 0xff, .lmu⟩, ⟨0x60, 0xf9, .reservedSdcch⟩, ⟨0x61, 0xfb, .reservedSdcch⟩, ⟨0x63, 0xff, .reservedSdcch⟩,
    ⟨0x7f, 0xff, .reservedIgnore⟩]

/-- `ctype_by_chreq` as `gsm_net_update_ctype` leaves it. -/
def ctypeByChreq (neci pagAnyTch : Bool) : ChreqType → GsmChan
  | .emergCall => if neci then .tchH else .tchF
  | .callReestTchF | .tchF | .pagRTchF | .pagRTchFH => .tchF
  | .callReestTchH | .callReestTchHDbl | .voiceCallTchH | .dataCallTchH => .tchH
  | .pagRAnyNeci1 | .pagRAnyNeci0 => if pagAnyTch then (if neci then .tchH else .tchF) else .sdcch
  | .sdcch | .locationUpd | .lmu | .reservedSdcch => .sdcch
  | .reservedIgnore => .unknown

/-- `reason_by_chreq`. -/
def reasonByChreq : ChreqType → ChreqReason
  | .emergCall => .emerg
  | .callReestTchF | .callReestTchH | .callReestTchHDbl | .voiceCallTchH => .call
  | .locationUpd => .locationUpd
  | .pagRAnyNeci1 | .pagRAnyNeci0 | .pagRTchF | .pagRTchFH => .pag
  | .sdcch | .tchF | .dataCallTchH | .lmu | .reservedSdcch | .reservedIgnore => .other

/-- The first entry of the table that the random access matches. -/
def findChreq (neci : Bool) (ra : Octet) : Option ChreqType :=
  ((if neci then chreqTypeNeci1 else chreqTypeNeci0).find? fun chr => ra &&& chr.mask == chr.val).map Chreq.type

/-- `get_ctype_by_chreq`. -/
def getCtypeByChreq (neci pagAnyTch : Bool) (ra : Octet) : GsmChan :=
  match findChreq neci ra with
  | some type => ctypeByChreq neci pagAnyTch type
  | none => .sdcch

/-- `get_reason_by_chreq`. -/
def getReasonByChreq (neci : Bool) (ra : Octet) : ChreqReason :=
  match findChreq neci ra with
  | some type => reasonByChreq type
  | none => .other

/-! ## Channel numbers -/

/-- `gsm_ts2chan_nr`. -/
def gsmTs2chanNr (pchan : PhysChanConfig) (ts : Fin 8) (lchanNr : Fin 8) : Octet :=
  let lchanNr := UInt8.ofNat lchanNr.val
  let cbits : Octet :=
    match pchan with
    | .tchF | .pdch | .tchFPdch => 0x01
    | .tchH => 0x02 + lchanNr
    | .ccchSdcch4 => 0x04 + lchanNr
    | .sdcch8Sacch8c => 0x08 + lchanNr
    | .none | .ccch | .unknown => 0x10
  cbits <<< 3 ||| UInt8.ofNat ts.val

/-- `lchan_lookup`: the timeslot and the sub-slot. A combination that does not fit is only logged. -/
def lchanLookup (chanNr : Octet) : Option (Fin 8 × Fin 8) :=
  let ts := lowBits chanNr
  let cbits := chanNr >>> 3
  if cbits = 0x01 then some (ts, lowBits 0)
  else if cbits &&& 0x1e = 0x02 then some (ts, lowBits (cbits &&& 0x1))
  else if cbits &&& 0x1c = 0x04 then some (ts, lowBits (cbits &&& 0x3))
  else if cbits &&& 0x18 = 0x08 then some (ts, lowBits (cbits &&& 0x7))
  -- the first SDCCH/4 stands for the common channels
  else if cbits = 0x10 ∨ cbits = 0x11 ∨ cbits = 0x12 then some (ts, lowBits 0)
  else none

/-- The number of a channel that its combination has leads to the channel. -/
theorem lchanLookup_ts2chanNr (pchan : PhysChanConfig) (ts ss : Fin 8) (hsub : ss.val < subslotsPerPchan pchan) :
    lchanLookup (gsmTs2chanNr pchan ts ss) = some (ts, ss) := by
  cases pchan with
  | none | ccch | pdch | unknown => cases hsub
  | tchF | tchFPdch | tchH | ccchSdcch4 | sdcch8Sacch8c =>
    revert ts ss
    decide

/-! ## Answers -/

/-- `struct gsm_bts_trx_ts::hopping`, where hopping is enabled. -/
structure Hopping where
  maio : Octet
  hsn : Octet
  ma : List Octet

/-- The frequency of a timeslot: the ARFCN of its transceiver, the training sequence of the BTS, and hopping. -/
structure TsFrequency where
  arfcn : UInt16
  tsc : Octet
  hopping : Option Hopping := none

/-- `struct gsm48_chan_desc`: the frequency is an ARFCN of ten bits (`h0`), or an offset and a sequence (`h1`). -/
structure ChanDesc where
  chanNr : Octet
  tsc : Octet
  frequency : UInt16 ⊕ Octet × Octet
  deriving DecidableEq

/-- `gsm48_lchan2chan_desc`. -/
def gsm48Lchan2chanDesc (freq : TsFrequency) (chanNr : Octet) : ChanDesc where
  chanNr := chanNr
  tsc := freq.tsc
  frequency :=
    match freq.hopping with
    | none => .inl (freq.arfcn &&& 0x3ff)
    | some hopping => .inr (hopping.maio, hopping.hsn)

/-- `GSM48_LEN2PLEN`. -/
def gsm48Len2plen (len : Nat) : Nat := len <<< 2 ||| 1

/-- `struct gsm48_imm_ass`. -/
structure ImmAss where
  l2Plen : Nat
  protoDiscr : Octet
  msgType : Octet
  pageMode : Octet
  chanDesc : ChanDesc
  reqRef : ReqRef
  timingAdvance : Octet
  mobAlloc : List Octet
  deriving DecidableEq

/-- The message of `rsl_send_imm_assignment`. Twelve octets stand before the mobile allocation. -/
def immAssignment (freq : TsFrequency) (chanNr : Octet) (ref : ReqRef) (ta : Octet) : ImmAss :=
  let mobAlloc := (freq.hopping.map Hopping.ma).getD []
  { l2Plen := gsm48Len2plen (12 - 1 + mobAlloc.length)
    protoDiscr := 0x06
    msgType := 0x3f
    pageMode := 3
    chanDesc := gsm48Lchan2chanDesc freq chanNr
    reqRef := ref
    timingAdvance := ta
    mobAlloc := mobAlloc }

/-- `struct gsm48_imm_ass_rej`: four request references, each with a wait indication. -/
structure ImmAssRej where
  l2Plen : Nat
  protoDiscr : Octet
  msgType : Octet
  pageMode : Octet
  reqRefs : List (ReqRef × Octet)
  deriving DecidableEq

/-- The size of a pointer, which `rsl_send_imm_ass_rej` takes for that of the message. -/
def pointerSize : Nat := 8

/-- The message of `rsl_send_imm_ass_rej` for one request, and its length: `sizeof(iar)`, where `iar` is a pointer. -/
def immAssReject (ref : ReqRef) (waitInd : Octet) : ImmAssRej × Nat :=
  ({ l2Plen := 0, protoDiscr := 0x06, msgType := 0x3f, pageMode := 3, reqRefs := List.replicate 4 (ref, waitInd) },
    pointerSize)

/-- An IMMEDIATE ASSIGNMENT REJECT for a request: the message type and the pseudo length are its own, all of its twenty
    octets are there, and one of the references is that of the request. -/
def ImmAssRej.WellFormed (ref : ReqRef) (iar : ImmAssRej) (len : Nat) : Prop :=
  iar.protoDiscr = 0x06 ∧ iar.msgType = 0x3a ∧ iar.l2Plen = gsm48Len2plen 19 ∧ 20 ≤ len ∧ ref ∈ iar.reqRefs.map Prod.fst

/-- It is not: the message type is that of an IMMEDIATE ASSIGNMENT. -/
theorem not_wellFormed_immAssReject (ref : ReqRef) (waitInd : Octet) :
    ¬ (immAssReject ref waitInd).1.WellFormed ref (immAssReject ref waitInd).2 := by
  intro h
  exact absurd h.2.1 (show (0x3f : Octet) ≠ 0x3a by decide)

end OpenBsc.Libbsc
