import OpenBsc.Lib.Bitmask
import OpenBsc.Lib.Octets
import OpenBsc.Lib.Table
import OpenBsc.Lib.Transition

/-!
# `Sndcp.Entity` — SNDCP entities and their receiver (`gprs_sndcp.c`)

An entity reassembles the segments of one N-PDU at a time: `defrag_input` queues a segment and marks it
in a bitmap, and once the last segment was seen and the bitmap has no hole, `defrag_segments` takes the
segments off the queue in order and hands the N-PDU up. `sndcp_llunitdata_ind` is the entry point.
-/

namespace OpenBsc.Sndcp

open Transition

/-! ## Headers -/

/-- `struct sndcp_common_hdr`; the spare bit is never read. -/
structure SndcpCommonHdr where
  nsapi : Nat
  more : Bool
  type : Bool
  first : Bool

/-- `struct sndcp_comp_hdr`, in first segments only. -/
structure SndcpCompHdr where
  pcomp : Nat
  dcomp : Nat

/-- `struct sndcp_udata_hdr`. -/
structure SndcpUdataHdr where
  npduHigh : Nat
  segNr : Nat
  npduLow : Nat

/-- The bit fields are laid out from the least significant bit. -/
def SndcpCommonHdr.octets (h : SndcpCommonHdr) : List Octet :=
  [UInt8.ofNat (h.nsapi % 16 + 16 * h.more.toNat + 32 * h.type.toNat + 64 * h.first.toNat)]

def SndcpCompHdr.octets (h : SndcpCompHdr) : List Octet :=
  [UInt8.ofNat (h.pcomp % 16 + 16 * (h.dcomp % 16))]

def SndcpUdataHdr.octets (h : SndcpUdataHdr) : List Octet :=
  [UInt8.ofNat (h.npduHigh % 16 + 16 * (h.segNr % 16)), UInt8.ofNat (h.npduLow % 256)]

def SndcpCommonHdr.read (hdr : List Octet) : SndcpCommonHdr where
  nsapi := octetAt hdr 0 % 16
  more := octetAt hdr 0 / 16 % 2 == 1
  type := octetAt hdr 0 / 32 % 2 == 1
  first := octetAt hdr 0 / 64 % 2 == 1

def SndcpCompHdr.read (hdr : List Octet) : SndcpCompHdr where
  pcomp := octetAt hdr 1 % 16
  dcomp := octetAt hdr 1 / 16

/-- Where the user-data header starts: behind the compression header in a first segment. -/
def SndcpCommonHdr.suhOffset (sch : SndcpCommonHdr) : Nat := if sch.first then 2 else 1

def SndcpUdataHdr.read (hdr : List Octet) (offset : Nat) : SndcpUdataHdr where
  npduHigh := octetAt hdr offset % 16
  segNr := octetAt hdr offset / 16
  npduLow := octetAt hdr (offset + 1)

/-- `(suh->npdu_high << 8) | suh->npdu_low`. -/
def SndcpUdataHdr.npduNum (suh : SndcpUdataHdr) : Nat := suh.npduHigh * 256 + suh.npduLow

theorem SndcpUdataHdr.segNr_read_lt (hdr : List Octet) (offset : Nat) :
    (SndcpUdataHdr.read hdr offset).segNr < 16 := by
  have := octetAt_lt hdr offset
  simp only [SndcpUdataHdr.read]
  omega

/-! ## Entities -/

/-- `struct defrag_queue_entry`; `data_len` is the length of `data`. -/
structure DefragQueueEntry where
  segNr : Nat
  data : List Octet

/-- `struct defrag_state`. -/
structure DefragState where
  npdu : Nat := 0
  highestSeg : Nat := 0
  segHave : Nat := 0
  noMore : Bool := false
  totLen : Nat := 0
  fragList : List DefragQueueEntry := []

/-- `struct gprs_sndcp_entity`: the LLC entity below it, its NSAPI, the number of the next N-PDU it
    sends, and its defragmentation queue. -/
structure GprsSndcpEntity where
  lle : Nat
  nsapi : Nat
  txNpduNr : Nat := 0
  defrag : DefragState := {}

/-- What `gprs_sndcp_entity_by_lle` looks entities up by. -/
def GprsSndcpEntity.key (sne : GprsSndcpEntity) : Nat × Nat := (sne.lle, sne.nsapi)

/-- The list `gprs_sndcp_entities`. Activation refuses a second entity for the same LLC entity and
    NSAPI. -/
abbrev GprsSndcpEntities := Table GprsSndcpEntity.key

/-- `gprs_sndcp_entity_by_lle`. -/
def gprsSndcpEntityByLle (es : GprsSndcpEntities) (lle nsapi : Nat) : Option GprsSndcpEntity :=
  es.find? (lle, nsapi)

/-- `sndcp_sm_activate_ind`: `none` for `-EEXIST`. -/
def sndcpSmActivateInd (es : GprsSndcpEntities) (lle nsapi : Nat) : Option GprsSndcpEntities :=
  es.insert { lle := lle, nsapi := nsapi }

/-- `sndcp_sm_deactivate_ind`: `none` for `-ENOENT`. -/
def sndcpSmDeactivateInd (es : GprsSndcpEntities) (lle nsapi : Nat) : Option GprsSndcpEntities :=
  (gprsSndcpEntityByLle es lle nsapi).map fun _ => es.erase (lle, nsapi)

/-! ## Receiver -/

/-- What a call of the receiver comes to: an error, a segment that was queued (return code 0), or an
    N-PDU handed to `sgsn_rx_sndcp_ud_ind`. -/
inductive SndcpOutcome where
  | error (errno : Nat)
  | queued
  | udInd (npdu : List Octet)

/-- The size from which on talloc refuses a request. -/
def maxTallocSize : Nat := 0x10000000

/-- `defrag_enqueue` with what lies at the data pointer: `none` when the copy cannot be allocated. A
    segment number that is already there is not looked for. -/
def defragEnqueue (d : DefragState) (segNr : Nat) (data : List Octet) (dataLen : Nat) :
    Option DefragState :=
  if maxTallocSize ≤ dataLen then none
  else some { d with
    fragList := ⟨segNr, data.take dataLen⟩ :: d.fragList
    highestSeg := if d.highestSeg < segNr then segNr else d.highestSeg
    segHave := Bitmask.set d.segHave segNr
    totLen := (d.totLen + dataLen) % 2 ^ 32 }

/-- `defrag_have_all_segments`: the bits up to the highest segment are the ones that are set. -/
def defragHaveAllSegments (d : DefragState) : Bool :=
  Bitmask.below (d.highestSeg + 1) == d.segHave

/-- `defrag_get_seg`: the first queue entry with that segment number, and the queue without it. -/
def defragGetSeg (segNr : Nat) : List DefragQueueEntry → Option (DefragQueueEntry × List DefragQueueEntry)
  | [] => none
  | dqe :: frags =>
    if dqe.segNr = segNr then some (dqe, frags)
    else (defragGetSeg segNr frags).map fun (found, rest) => (found, dqe :: rest)

/-- The loop of `defrag_segments`: the queue it leaves, and the octets put into the message unless a
    segment is missing. -/
def defragCollect : List Nat → List DefragQueueEntry → List Octet → List DefragQueueEntry × Option (List Octet)
  | [], frags, msg => (frags, some msg)
  | segNr :: segNrs, frags, msg =>
    match defragGetSeg segNr frags with
    | none => (frags, none)
    | some (dqe, frags) => defragCollect segNrs frags (msg ++ dqe.data)

/-- `defrag_segments`. The length handed up is `tot_len`, whatever was put into the zeroed message. -/
def defragSegments (d : DefragState) : DefragState × SndcpOutcome :=
  match defragCollect (List.range (d.highestSeg + 1)) d.fragList [] with
  | (frags, none) => ({ d with fragList := frags }, .error eio)
  | (frags, some msg) =>
    ({ d with fragList := frags }, .udInd ((msg ++ List.replicate d.totLen 0).take d.totLen))

/-- What the LLC layer passes up: the octets from the SNDCP header to the end of the message, of which
    the first `len` are the SN-PDU. -/
structure LlUnitdata where
  octets : List Octet
  len : Nat
  len_le : len ≤ octets.length
  len_lt : len < 65536

def LlUnitdata.sch (pdu : LlUnitdata) : SndcpCommonHdr := .read pdu.octets

def LlUnitdata.suh (pdu : LlUnitdata) : SndcpUdataHdr := .read pdu.octets pdu.sch.suhOffset

/-- The offset of the user data. -/
def LlUnitdata.dataOffset (pdu : LlUnitdata) : Nat := pdu.sch.suhOffset + 2

/-- `len - (data - hdr)` in 32-bit unsigned arithmetic. -/
def LlUnitdata.dataLen (pdu : LlUnitdata) : Nat :=
  if pdu.dataOffset ≤ pdu.len then pdu.len - pdu.dataOffset
  else 2 ^ 32 - (pdu.dataOffset - pdu.len)

/-- The state in which a first segment is queued: whatever was left of an earlier N-PDU is dropped. -/
def defragReset (npduNum : Nat) : DefragState := { npdu := npduNum }

/-- The end of `defrag_input`: when the last segment was seen, deliver the N-PDU if it is complete. -/
def defragCheck (d : DefragState) : DefragState × SndcpOutcome :=
  if d.noMore && defragHaveAllSegments d then defragSegments d else (d, .queued)

/-- The part of `defrag_input` from queueing the segment on. -/
def defragStore (d : DefragState) (pdu : LlUnitdata) : DefragState × SndcpOutcome :=
  match defragEnqueue d pdu.suh.segNr (pdu.octets.drop pdu.dataOffset) pdu.dataLen with
  | none => (d, .error enomem)
  | some d => defragCheck { d with noMore := !pdu.sch.more || d.noMore }

/-- `defrag_input`. A segment of another N-PDU than the current one is only logged. -/
def defragInput (d : DefragState) (pdu : LlUnitdata) : DefragState × SndcpOutcome :=
  defragStore (if pdu.sch.first then defragReset pdu.suh.npduNum else d) pdu

/-- `sndcp_llunitdata_ind`. An SN-PDU that is neither continued nor a continuation is passed up from the
    end of its header to the end of the message. -/
def sndcpLlunitdataInd (es : GprsSndcpEntities) (lle : Nat) (pdu : LlUnitdata) :
    GprsSndcpEntities × SndcpOutcome :=
  let sch := pdu.sch
  if sch.type = false then (es, .error einval)
  else if pdu.len < 3 then (es, .error eio)
  else
    match gprsSndcpEntityByLle es lle sch.nsapi with
    | none => (es, .error eio)
    | some sne =>
      if sch.first = false ∨ sch.more = true then
        let (defrag, outcome) := defragInput sne.defrag pdu
        (es.set { sne with defrag := defrag }, outcome)
      else
        let scomph := SndcpCompHdr.read pdu.octets
        if scomph.pcomp ≠ 0 ∨ scomph.dcomp ≠ 0 then (es, .error eio)
        else if pdu.octets.length ≤ pdu.dataOffset then (es, .error eio)
        else (es, .udInd (pdu.octets.drop pdu.dataOffset))

/-! ## Runs -/

/-- A received segment: the LLC entity it came in on, and the SN-PDU. -/
structure Received where
  lle : Nat
  pdu : LlUnitdata

/-- An N-PDU handed to the SGSN core, with the LLC entity and the NSAPI it was handed up for. -/
structure Delivered where
  lle : Nat
  nsapi : Nat
  npdu : List Octet
  deriving DecidableEq

/-- The entities, with the segments received and the N-PDUs delivered so far, oldest first. -/
structure SndcpTrace where
  entities : GprsSndcpEntities
  received : List Received
  delivered : List Delivered

inductive SndcpEvent where
  | activate (lle nsapi : Nat)
  | deactivate (lle nsapi : Nat)
  | unitdata (r : Received)

/-- The N-PDU delivered by a call of the receiver, if any. -/
def SndcpOutcome.delivered (o : SndcpOutcome) (r : Received) : List Delivered :=
  match o with
  | .udInd npdu => [⟨r.lle, r.pdu.sch.nsapi, npdu⟩]
  | _ => []

def sndcpTraceStep (st : SndcpTrace) : SndcpEvent → SndcpTrace
  | .activate lle nsapi =>
    { st with entities := (sndcpSmActivateInd st.entities lle nsapi).getD st.entities }
  | .deactivate lle nsapi =>
    { st with entities := (sndcpSmDeactivateInd st.entities lle nsapi).getD st.entities }
  | .unitdata r =>
    let res := sndcpLlunitdataInd st.entities r.lle r.pdu
    { entities := res.1
      received := st.received ++ [r]
      delivered := st.delivered ++ res.2.delivered r }

/-- The runs of the SNDCP layer, from no entities. -/
def sndcpSystem : System SndcpTrace SndcpEvent where
  init st := st = ⟨.empty, [], []⟩
  step st ev st' := st' = sndcpTraceStep st ev

end OpenBsc.Sndcp
