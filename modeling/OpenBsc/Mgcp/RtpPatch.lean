import OpenBsc.Lib.Octets
import Mathlib.Data.List.Chain

/-!
# `Mgcp.RtpPatch` — counting lost RTP packets and patching their source (`mgcp_network.c`)

`patch_and_count` sees every RTP packet on its way out. It remembers the first source of the stream and the last
sequence number it forwarded; when the source changes while the endpoint allows patching, later packets are moved
behind what was forwarded and carry the first source. Sequence numbers are 16-bit and offsets are C integers.
-/

namespace OpenBsc.Mgcp

open List

/-! ## Headers -/

/-- `struct rtp_hdr`; `flags` is the octet of version, padding, extension and source count. -/
structure RtpHdr where
  flags : Octet
  marker : Bool
  payloadType : BitVec 7
  sequence : BitVec 16
  timestamp : BitVec 32
  ssrc : BitVec 32

/-- The header at the beginning of a datagram, and what follows it. -/
def RtpHdr.read : List Octet → Option (RtpHdr × List Octet)
  | b0 :: b1 :: s1 :: s0 :: t3 :: t2 :: t1 :: t0 :: c3 :: c2 :: c1 :: c0 :: body =>
    some (⟨b0, b1.toBitVec.msb, b1.toBitVec.setWidth 7, s1.toBitVec ++ s0.toBitVec,
      t3.toBitVec ++ t2.toBitVec ++ t1.toBitVec ++ t0.toBitVec,
      c3.toBitVec ++ c2.toBitVec ++ c1.toBitVec ++ c0.toBitVec⟩, body)
  | _ => none

/-- The octets of a header. -/
def RtpHdr.write (hdr : RtpHdr) : List Octet :=
  [hdr.flags, ⟨BitVec.ofBool hdr.marker ++ hdr.payloadType⟩,
    ⟨hdr.sequence.extractLsb' 8 8⟩, ⟨hdr.sequence.extractLsb' 0 8⟩,
    ⟨hdr.timestamp.extractLsb' 24 8⟩, ⟨hdr.timestamp.extractLsb' 16 8⟩,
    ⟨hdr.timestamp.extractLsb' 8 8⟩, ⟨hdr.timestamp.extractLsb' 0 8⟩,
    ⟨hdr.ssrc.extractLsb' 24 8⟩, ⟨hdr.ssrc.extractLsb' 16 8⟩,
    ⟨hdr.ssrc.extractLsb' 8 8⟩, ⟨hdr.ssrc.extractLsb' 0 8⟩]

theorem octets_of_sequence (seq : BitVec 16) : seq.extractLsb' 8 8 ++ seq.extractLsb' 0 8 = seq := by
  ext i hi
  simp only [BitVec.getElem_append, BitVec.getElem_extractLsb']
  split <;> rw [← BitVec.getLsbD_eq_getElem] <;> congr 1 <;> omega

theorem octets_of_word (w : BitVec 32) :
    w.extractLsb' 24 8 ++ w.extractLsb' 16 8 ++ w.extractLsb' 8 8 ++ w.extractLsb' 0 8 = w := by
  ext i hi
  simp only [BitVec.getElem_append, BitVec.getElem_extractLsb']
  split
  · rw [← BitVec.getLsbD_eq_getElem]; congr 1; omega
  · split
    · rw [← BitVec.getLsbD_eq_getElem]; congr 1; omega
    · split <;> rw [← BitVec.getLsbD_eq_getElem] <;> congr 1 <;> omega

/-- **What is written is read back.** -/
@[simp] theorem RtpHdr.read_write (hdr : RtpHdr) (body : List Octet) :
    RtpHdr.read (hdr.write ++ body) = some (hdr, body) := by
  have hmsb : (BitVec.ofBool hdr.marker ++ hdr.payloadType).msb = hdr.marker :=
    BitVec.msb_append.trans (by simp)
  have hlow : (BitVec.ofBool hdr.marker ++ hdr.payloadType).setWidth 7 = hdr.payloadType := by
    ext i hi
    rw [BitVec.getElem_setWidth, BitVec.getLsbD_append]
    simp [hi]
  simp only [RtpHdr.write, RtpHdr.read, cons_append, nil_append, octets_of_sequence, octets_of_word]
  rw [hmsb, hlow]

/-! ## The code -/

/-- `struct mgcp_rtp_state`; `timestamp_offset` counts modulo `2 ^ 32` wherever it is used. -/
structure RtpState where
  initialized : Bool := false
  patch : Bool := false
  origSsrc : BitVec 32 := 0
  ssrc : BitVec 32 := 0
  seqNo : BitVec 16 := 0
  lostNo : Int := 0
  seqOffset : Int := 0
  lastTimestamp : BitVec 32 := 0
  timestampOffset : BitVec 32 := 0
  deriving DecidableEq

namespace RtpState

/-- The first part of `patch_and_count`: the stream begins, or its source changes. -/
def sync (state : RtpState) (allowPatch : Bool) (hdr : RtpHdr) : RtpState :=
  if !state.initialized then
    { state with seqNo := hdr.sequence - 1, ssrc := hdr.ssrc, origSsrc := hdr.ssrc, initialized := true,
                 lastTimestamp := hdr.timestamp }
  else if state.ssrc ≠ hdr.ssrc then
    { state with ssrc := hdr.ssrc, seqOffset := (state.seqNo.toNat + 1 : Int) - hdr.sequence.toNat,
                 timestampOffset := state.lastTimestamp - hdr.timestamp, patch := allowPatch }
  else state

/-- The second part: the offsets are applied to the packet. -/
def patched (state : RtpState) (hdr : RtpHdr) : RtpHdr :=
  if state.patch then
    { hdr with sequence := hdr.sequence + BitVec.ofInt 16 state.seqOffset, ssrc := state.origSsrc,
               timestamp := hdr.timestamp + state.timestampOffset }
  else hdr

/-- The third part: the number after the last one is compared with the packet's, as integers. -/
def count (state : RtpState) (hdr : RtpHdr) : RtpState :=
  { state with
    lostNo := if state.seqNo.toNat + 1 ≠ hdr.sequence.toNat then
        ((hdr.sequence.toNat - (state.seqNo.toNat + 1) : Int).natAbs : Int) else state.lostNo
    seqNo := hdr.sequence
    lastTimestamp := hdr.timestamp }

/-- The last part: the payload type of the receiving side, if it is known. -/
def setPayload (payload : Int) (hdr : RtpHdr) : RtpHdr :=
  if payload < 0 then hdr else { hdr with payloadType := BitVec.ofInt 7 payload }

/-- `patch_and_count` on the header of a packet. -/
def patchHdr (state : RtpState) (allowPatch : Bool) (payload : Int) (hdr : RtpHdr) : RtpState × RtpHdr :=
  let state := state.sync allowPatch hdr
  let hdr := state.patched hdr
  (state.count hdr, setPayload payload hdr)

/-- `patch_and_count`. -/
def patchAndCount (state : RtpState) (allowPatch : Bool) (payload : Int) (data : List Octet) :
    RtpState × List Octet :=
  match RtpHdr.read data with
  | none => (state, data)
  | some (hdr, body) =>
    ((state.patchHdr allowPatch payload hdr).1, (state.patchHdr allowPatch payload hdr).2.write ++ body)

end RtpState

/-- A datagram that arrives, and what the endpoint says then: `allow_patch` and the payload type of the other side. -/
structure Arrival where
  allowPatch : Bool
  payload : Int
  data : List Octet

/-- A stream of datagrams on its way through the endpoint. -/
def forward (state : RtpState) : List Arrival → RtpState × List (List Octet)
  | [] => (state, [])
  | a :: arrivals =>
    let r := state.patchAndCount a.allowPatch a.payload a.data
    ((forward r.1 arrivals).1, r.2 :: (forward r.1 arrivals).2)

/-! ## What comes out -/

/-- An RTP packet as it arrives and as it is forwarded. -/
structure Passage where
  allowPatch : Bool
  arrived : RtpHdr
  sent : RtpHdr

/-- The passage of a datagram, if it is an RTP packet. -/
def Arrival.passage (a : Arrival) (out : List Octet) : Option Passage :=
  (RtpHdr.read a.data).bind fun arrived => (RtpHdr.read out).map fun sent => ⟨a.allowPatch, arrived.1, sent.1⟩

/-- The RTP packets of a stream that begins in a given state. -/
def passages (state : RtpState) (arrivals : List Arrival) : List Passage :=
  (arrivals.zip (forward state arrivals).2).filterMap fun p => p.1.passage p.2

/-- All packets are forwarded with one source. -/
def OneSsrc (ps : List Passage) : Prop := ∀ p ∈ ps, ∀ q ∈ ps, q.sent.ssrc = p.sent.ssrc

/-- A packet of another source than the one before it continues the forwarded numbers by one. -/
def Continues (ps : List Passage) : Prop :=
  ps.IsChain fun p q => q.arrived.ssrc ≠ p.arrived.ssrc → q.sent.sequence = p.sent.sequence + 1

/-- Between packets of one source, with no other source in between, the distance of the numbers is kept. -/
def Spaced (ps : List Passage) : Prop :=
  ∀ pre p mid q post, ps = pre ++ p :: (mid ++ q :: post) →
    (∀ x ∈ mid ++ [q], x.arrived.ssrc = p.arrived.ssrc) →
    q.sent.sequence - p.sent.sequence = q.arrived.sequence - p.arrived.sequence

/-- Each source counts its packets without a gap. -/
def GapFree (ps : List Passage) : Prop :=
  ps.IsChain fun p q => q.arrived.ssrc = p.arrived.ssrc → q.arrived.sequence = p.arrived.sequence + 1

/-- A packet of another source than the one before it continues the forwarded numbers by one if the endpoint allows
    patching then, and goes out with its own number and source otherwise. -/
def ChangesFollowed (ps : List Passage) : Prop :=
  ps.IsChain fun p q => q.arrived.ssrc ≠ p.arrived.ssrc →
    (q.allowPatch → q.sent.sequence = p.sent.sequence + 1) ∧
      (q.allowPatch = false → q.sent.sequence = q.arrived.sequence ∧ q.sent.ssrc = q.arrived.ssrc)

/-- The source changes only while the endpoint allows patching. -/
def ChangesAllowed (ps : List Passage) : Prop :=
  ps.IsChain fun p q => q.arrived.ssrc ≠ p.arrived.ssrc → q.allowPatch

/-! ## Steps and streams

Short datagrams change nothing, so a stream is what happens to the headers in it. -/

/-- The headers of a stream, each with what the endpoint says when it arrives. -/
def headers (arrivals : List Arrival) : List (Bool × Int × RtpHdr) :=
  arrivals.filterMap fun a => (RtpHdr.read a.data).map fun r => (a.allowPatch, a.payload, r.1)

/-- The passages of headers. -/
def RtpState.passagesOf (state : RtpState) : List (Bool × Int × RtpHdr) → List Passage
  | [] => []
  | (allowPatch, payload, hdr) :: hs =>
    ⟨allowPatch, hdr, (state.patchHdr allowPatch payload hdr).2⟩ ::
      (state.patchHdr allowPatch payload hdr).1.passagesOf hs

/-- The state after headers. -/
def RtpState.after (state : RtpState) : List (Bool × Int × RtpHdr) → RtpState
  | [] => state
  | (allowPatch, payload, hdr) :: hs => (state.patchHdr allowPatch payload hdr).1.after hs

theorem forward_headers (arrivals : List Arrival) (state : RtpState) :
    passages state arrivals = state.passagesOf (headers arrivals) ∧
      (forward state arrivals).1 = state.after (headers arrivals) := by
  induction arrivals generalizing state with
  | nil => exact ⟨rfl, rfl⟩
  | cons a arrivals ih =>
    cases hread : RtpHdr.read a.data with
    | none =>
      have hstep : state.patchAndCount a.allowPatch a.payload a.data = (state, a.data) := by
        simp [RtpState.patchAndCount, hread]
      have hhead : headers (a :: arrivals) = headers arrivals := by simp [headers, hread]
      rw [hhead, ← (ih state).1, ← (ih state).2]
      simp [passages, forward, hstep, Arrival.passage, hread]
    | some r =>
      obtain ⟨hdr, body⟩ := r
      have hstep : state.patchAndCount a.allowPatch a.payload a.data =
          ((state.patchHdr a.allowPatch a.payload hdr).1,
            (state.patchHdr a.allowPatch a.payload hdr).2.write ++ body) := by
        simp [RtpState.patchAndCount, hread]
      have hhead : headers (a :: arrivals) = (a.allowPatch, a.payload, hdr) :: headers arrivals := by
        simp [headers, hread]
      obtain ⟨hps, hst⟩ := ih (state.patchHdr a.allowPatch a.payload hdr).1
      rw [hhead, RtpState.passagesOf, RtpState.after, ← hps, ← hst]
      simp [passages, forward, hstep, Arrival.passage, hread]

/-- What is added to the sequence numbers of the current source. -/
def RtpState.shift (state : RtpState) : BitVec 16 := if state.patch then BitVec.ofInt 16 state.seqOffset else 0

/-- The state after a packet of a stream whose first source is `first`. -/
structure Forwarded (first : BitVec 32) (state : RtpState) (p : Passage) : Prop where
  initialized : state.initialized = true
  origSsrc : state.origSsrc = first
  ssrc : state.ssrc = p.arrived.ssrc
  seqNo : state.seqNo = p.sent.sequence
  shifted : p.sent.sequence = p.arrived.sequence + state.shift
  sentSsrc : p.sent.ssrc = if state.patch then first else p.arrived.ssrc

@[simp] theorem setPayload_sequence (payload : Int) (hdr : RtpHdr) :
    (RtpState.setPayload payload hdr).sequence = hdr.sequence := by
  unfold RtpState.setPayload
  split <;> rfl

@[simp] theorem setPayload_ssrc (payload : Int) (hdr : RtpHdr) :
    (RtpState.setPayload payload hdr).ssrc = hdr.ssrc := by
  unfold RtpState.setPayload
  split <;> rfl

theorem patched_sequence (state : RtpState) (hdr : RtpHdr) :
    (state.patched hdr).sequence = hdr.sequence + state.shift := by
  unfold RtpState.patched RtpState.shift
  split <;> simp

theorem patched_ssrc (state : RtpState) (hdr : RtpHdr) :
    (state.patched hdr).ssrc = if state.patch then state.origSsrc else hdr.ssrc := by
  unfold RtpState.patched
  split <;> rfl

section
variable (state : RtpState) (allowPatch : Bool) (payload : Int) (hdr : RtpHdr)

@[simp] theorem sync_initialized : (state.sync allowPatch hdr).initialized = true := by
  unfold RtpState.sync
  split
  · rfl
  · next h => split <;> simpa using h

@[simp] theorem sync_ssrc : (state.sync allowPatch hdr).ssrc = hdr.ssrc := by
  unfold RtpState.sync
  split
  · rfl
  · split
    · rfl
    · next h => exact not_not.mp h

/-- Whatever the state was: after a packet it fits that packet. -/
theorem forwarded_patchHdr :
    Forwarded (state.sync allowPatch hdr).origSsrc (state.patchHdr allowPatch payload hdr).1
      ⟨allowPatch, hdr, (state.patchHdr allowPatch payload hdr).2⟩ where
  initialized := sync_initialized ..
  origSsrc := rfl
  ssrc := sync_ssrc ..
  seqNo := (setPayload_sequence ..).symm
  shifted := (setPayload_sequence ..).trans (patched_sequence ..)
  sentSsrc := (setPayload_ssrc ..).trans (patched_ssrc ..)

variable {state allowPatch payload hdr} {first : BitVec 32} {p : Passage}

section

variable (h : Forwarded first state p)

include h

theorem sync_same (hsame : hdr.ssrc = p.arrived.ssrc) :
    state.sync allowPatch hdr = state := by
  simp [RtpState.sync, h.initialized, h.ssrc, hsame]

theorem sync_changed (hne : hdr.ssrc ≠ p.arrived.ssrc) :
    state.sync allowPatch hdr =
      { state with ssrc := hdr.ssrc, seqOffset := (state.seqNo.toNat + 1 : Int) - hdr.sequence.toNat,
                   timestampOffset := state.lastTimestamp - hdr.timestamp, patch := allowPatch } := by
  simp [RtpState.sync, h.initialized, h.ssrc, Ne.symm hne]

theorem sync_origSsrc : (state.sync allowPatch hdr).origSsrc = first := by
  by_cases hsame : hdr.ssrc = p.arrived.ssrc
  · rw [sync_same h hsame, h.origSsrc]
  · rw [sync_changed h hsame]
    exact h.origSsrc

theorem Forwarded.next :
    Forwarded first (state.patchHdr allowPatch payload hdr).1
      ⟨allowPatch, hdr, (state.patchHdr allowPatch payload hdr).2⟩ := by
  have hnext := forwarded_patchHdr state allowPatch payload hdr
  rwa [sync_origSsrc h] at hnext

/-- The number of a packet of the same source is as far from the last one as it was when it arrived. -/
theorem Forwarded.spaced (hsame : hdr.ssrc = p.arrived.ssrc) :
    (state.patchHdr allowPatch payload hdr).2.sequence - p.sent.sequence = hdr.sequence - p.arrived.sequence := by
  have hsent : (state.patchHdr allowPatch payload hdr).2.sequence = hdr.sequence + state.shift := by
    show (RtpState.setPayload payload ((state.sync allowPatch hdr).patched hdr)).sequence = _
    rw [setPayload_sequence, patched_sequence, sync_same h hsame]
  rw [hsent, h.shifted]
  bv_omega

/-- The first packet of another source continues the numbers, if patching is allowed. -/
theorem Forwarded.continues (hne : hdr.ssrc ≠ p.arrived.ssrc) (hallow : allowPatch) :
    (state.patchHdr allowPatch payload hdr).2.sequence = p.sent.sequence + 1 := by
  show (RtpState.setPayload payload ((state.sync allowPatch hdr).patched hdr)).sequence = _
  rw [setPayload_sequence, patched_sequence, sync_changed h hne, ← h.seqNo]
  have hsum : (hdr.sequence.toNat : Int) + ((state.seqNo.toNat + 1 : Int) - hdr.sequence.toNat) =
      (state.seqNo.toNat + 1 : Nat) := by omega
  calc hdr.sequence + RtpState.shift { state with patch := allowPatch, seqOffset := _, .. }
      = BitVec.ofInt 16 hdr.sequence.toNat + BitVec.ofInt 16 ((state.seqNo.toNat + 1 : Int) - hdr.sequence.toNat) := by
        simp [RtpState.shift, hallow]
    _ = BitVec.ofInt 16 (state.seqNo.toNat + 1 : Nat) := by rw [← BitVec.ofInt_add, hsum]
    _ = state.seqNo + 1 := by rw [BitVec.ofInt_natCast, BitVec.ofNat_add]; simp

/-- The first packet of another source is left as it is, if patching is not allowed. -/
theorem Forwarded.unpatched (hne : hdr.ssrc ≠ p.arrived.ssrc) (hallow : allowPatch = false) :
    (state.patchHdr allowPatch payload hdr).2.sequence = hdr.sequence ∧
      (state.patchHdr allowPatch payload hdr).2.ssrc = hdr.ssrc := by
  have hnext : Forwarded first (state.patchHdr allowPatch payload hdr).1
      ⟨allowPatch, hdr, (state.patchHdr allowPatch payload hdr).2⟩ := h.next
  have hpatch : (state.patchHdr allowPatch payload hdr).1.patch = false := by
    show (state.sync allowPatch hdr).patch = false
    rw [sync_changed h hne, hallow]
  refine ⟨?_, ?_⟩
  · simpa [RtpState.shift, hpatch] using hnext.shifted
  · simpa [hpatch] using hnext.sentSsrc

/-- The counter after a packet that continues the numbers: it changes only where they come round to zero. -/
theorem Forwarded.lostNo (hsucc : (state.patchHdr allowPatch payload hdr).2.sequence = p.sent.sequence + 1) :
    (state.patchHdr allowPatch payload hdr).1.lostNo =
      if (state.patchHdr allowPatch payload hdr).2.sequence = 0 then 65536 else state.lostNo := by
  have hsync : (state.sync allowPatch hdr).seqNo = p.sent.sequence ∧
      (state.sync allowPatch hdr).lostNo = state.lostNo := by
    by_cases hsame : hdr.ssrc = p.arrived.ssrc
    · rw [sync_same h hsame]
      exact ⟨h.seqNo, rfl⟩
    · rw [sync_changed h hsame]
      exact ⟨h.seqNo, rfl⟩
  have hout : ((state.sync allowPatch hdr).patched hdr).sequence = p.sent.sequence + 1 := by
    rw [← hsucc]
    exact (setPayload_sequence ..).symm
  rw [hsucc]
  show (if (state.sync allowPatch hdr).seqNo.toNat + 1 ≠ ((state.sync allowPatch hdr).patched hdr).sequence.toNat
    then _ else _) = _
  rw [hout, hsync.1, hsync.2]
  by_cases hzero : p.sent.sequence + 1 = 0
  · have hlast : p.sent.sequence.toNat = 65535 := by bv_omega
    rw [hzero, if_pos rfl, hlast]
    rfl
  · have hnext : (p.sent.sequence + 1).toNat = p.sent.sequence.toNat + 1 := by bv_omega
    rw [if_neg hzero, hnext, if_neg (fun hne => hne rfl)]

/-- A stream keeps its first source while changes are allowed. -/
theorem Forwarded.sent_ssrc (hp : p.sent.ssrc = first)
    (hallow : hdr.ssrc ≠ p.arrived.ssrc → allowPatch) :
    (state.patchHdr allowPatch payload hdr).2.ssrc = first := by
  show (RtpState.setPayload payload ((state.sync allowPatch hdr).patched hdr)).ssrc = _
  rw [setPayload_ssrc, patched_ssrc, sync_origSsrc h]
  by_cases hsame : hdr.ssrc = p.arrived.ssrc
  · rw [sync_same h hsame, hsame, ← h.sentSsrc, hp]
  · rw [sync_changed h hsame, hallow hsame]
    rfl

theorem Forwarded.succ_of_gapFree (hallow : hdr.ssrc ≠ p.arrived.ssrc → allowPatch)
    (hgap : hdr.ssrc = p.arrived.ssrc → hdr.sequence = p.arrived.sequence + 1) :
    (state.patchHdr allowPatch payload hdr).2.sequence = p.sent.sequence + 1 := by
  by_cases hsame : hdr.ssrc = p.arrived.ssrc
  · have hdist : (state.patchHdr allowPatch payload hdr).2.sequence - p.sent.sequence = _ := h.spaced hsame
    have hnext := hgap hsame
    bv_omega
  · exact h.continues hsame (hallow hsame)

end

end

/-! ### The first packet -/

section
variable (allowPatch : Bool) (payload : Int) (hdr : RtpHdr)

/-- The first packet of a stream goes out with its own number and source, which is the first source from then on. -/
theorem forwarded_first :
    Forwarded hdr.ssrc (RtpState.patchHdr {} allowPatch payload hdr).1
        ⟨allowPatch, hdr, (RtpState.patchHdr {} allowPatch payload hdr).2⟩ ∧
      (RtpState.patchHdr {} allowPatch payload hdr).2.ssrc = hdr.ssrc :=
  ⟨forwarded_patchHdr {} allowPatch payload hdr, setPayload_ssrc ..⟩

/-- It is counted against the number before its own, as a 16-bit number. -/
theorem lostNo_first (hzero : (RtpState.patchHdr {} allowPatch payload hdr).2.sequence ≠ 0) :
    (RtpState.patchHdr {} allowPatch payload hdr).1.lostNo = 0 := by
  have hseq : (RtpState.patchHdr {} allowPatch payload hdr).2.sequence = hdr.sequence := setPayload_sequence ..
  rw [hseq] at hzero
  have hback : (hdr.sequence - 1).toNat + 1 = hdr.sequence.toNat := by bv_omega
  show (if (hdr.sequence - 1).toNat + 1 ≠ hdr.sequence.toNat then _ else 0) = _
  rw [if_neg (not_not.mpr hback)]

end

/-! ### Whole streams -/

variable {first : BitVec 32}

variable {state : RtpState} {p : Passage}

theorem changesFollowed_passagesOf (hs : List (Bool × Int × RtpHdr)) (h : Forwarded first state p) :
    ChangesFollowed (p :: state.passagesOf hs) := by
  induction hs generalizing state p with
  | nil => exact isChain_singleton p
  | cons x hs ih =>
    exact isChain_cons_cons.mpr ⟨fun hne => ⟨h.continues hne, h.unpatched hne⟩, ih h.next⟩

theorem continues_of_changesFollowed {ps : List Passage} (hf : ChangesFollowed ps) (hc : ChangesAllowed ps) :
    Continues ps := by
  rw [ChangesFollowed, isChain_iff_getElem] at hf
  rw [ChangesAllowed, isChain_iff_getElem] at hc
  exact isChain_iff_getElem.mpr fun i hi hne => (hf i hi hne).1 (hc i hi hne)

/-- Neighbours of one source keep their distance. -/
def SpacedNext (ps : List Passage) : Prop :=
  ps.IsChain fun p q => q.arrived.ssrc = p.arrived.ssrc →
    q.sent.sequence - p.sent.sequence = q.arrived.sequence - p.arrived.sequence

theorem spacedNext_passagesOf (hs : List (Bool × Int × RtpHdr)) (h : Forwarded first state p) :
    SpacedNext (p :: state.passagesOf hs) := by
  induction hs generalizing state p with
  | nil => exact isChain_singleton p
  | cons x hs ih => exact isChain_cons_cons.mpr ⟨fun hsame => h.spaced hsame, ih h.next⟩

theorem distance_of_spacedNext (mid : List Passage) {q : Passage} {post : List Passage}
    (hsp : SpacedNext (p :: (mid ++ q :: post))) (hsame : ∀ x ∈ mid ++ [q], x.arrived.ssrc = p.arrived.ssrc) :
    q.sent.sequence - p.sent.sequence = q.arrived.sequence - p.arrived.sequence := by
  induction mid generalizing p with
  | nil => exact (isChain_cons_cons.mp hsp).1 (hsame q (by simp))
  | cons x mid ih =>
    obtain ⟨hx, hrest⟩ := isChain_cons_cons.mp hsp
    have hxp : x.arrived.ssrc = p.arrived.ssrc := hsame x (by simp)
    have hq := ih hrest fun y hy => (hsame y (by simp at hy ⊢; tauto)).trans hxp.symm
    have hpx := hx hxp
    bv_omega

theorem spaced_of_spacedNext {ps : List Passage} (hsp : SpacedNext ps) : Spaced ps := by
  intro pre p mid q post hps hsame
  subst hps
  exact distance_of_spacedNext mid (isChain_append.mp hsp).2.1 hsame

theorem oneSsrc_passagesOf (hs : List (Bool × Int × RtpHdr)) (h : Forwarded first state p) (hp : p.sent.ssrc = first)
    (hc : ChangesAllowed (p :: state.passagesOf hs)) : ∀ q ∈ p :: state.passagesOf hs, q.sent.ssrc = first := by
  induction hs generalizing state p with
  | nil => simpa [RtpState.passagesOf] using hp
  | cons x hs ih =>
    obtain ⟨allowPatch, payload, hdr⟩ := x
    obtain ⟨hallow, hrest⟩ := isChain_cons_cons.mp hc
    intro q hq
    cases hq with
    | head => exact hp
    | tail _ hq => exact ih h.next (h.sent_ssrc hp hallow) hrest q hq

/-- The counter of a stream whose numbers go on by one all the time: it stays where it was exactly as long as they do
    not come round to zero. -/
theorem lostNo_passagesOf (hs : List (Bool × Int × RtpHdr)) (h : Forwarded first state p)
    (hc : ChangesAllowed (p :: state.passagesOf hs)) (hg : GapFree (p :: state.passagesOf hs)) :
    (state.after hs).lostNo = 0 ↔ state.lostNo = 0 ∧ ∀ q ∈ state.passagesOf hs, q.sent.sequence ≠ 0 := by
  induction hs generalizing state p with
  | nil => simp [RtpState.after, RtpState.passagesOf]
  | cons x hs ih =>
    obtain ⟨allowPatch, payload, hdr⟩ := x
    obtain ⟨hallow, hcrest⟩ := isChain_cons_cons.mp hc
    obtain ⟨hgap, hgrest⟩ := isChain_cons_cons.mp hg
    have hsucc : (state.patchHdr allowPatch payload hdr).2.sequence = p.sent.sequence + 1 :=
      h.succ_of_gapFree hallow hgap
    have hlost := h.lostNo hsucc
    rw [RtpState.after, ih h.next hcrest hgrest, hlost, RtpState.passagesOf, forall_mem_cons, ← and_assoc]
    refine and_congr_left fun _ => ?_
    split
    · next hzero => simp [hzero]
    · next hzero => exact (and_iff_left hzero).symm

/-! ## The results -/

/-- A stream is forwarded with one source, continued where the source changes, with the distances kept, and nothing is
    counted as lost when nothing is missing. -/
structure StreamKept (arrivals : List Arrival) : Prop where
  oneSsrc : OneSsrc (passages {} arrivals)
  continues : Continues (passages {} arrivals)
  spaced : Spaced (passages {} arrivals)
  lossless : GapFree (passages {} arrivals) → (forward {} arrivals).1.lostNo = 0

/-- **What a stream is forwarded as.** Distances are kept in every stream, and every change of the source is followed;
    with patching allowed at each change the stream has one source, goes on by one at each change, and counts nothing as
    lost when it has no gap, up to where the forwarded numbers come round to zero. -/
theorem stream_forwarded (arrivals : List Arrival) :
    Spaced (passages {} arrivals) ∧ ChangesFollowed (passages {} arrivals) ∧
      (ChangesAllowed (passages {} arrivals) →
        OneSsrc (passages {} arrivals) ∧ Continues (passages {} arrivals) ∧
          (GapFree (passages {} arrivals) → (∀ p ∈ passages {} arrivals, p.sent.sequence ≠ 0) →
            (forward {} arrivals).1.lostNo = 0)) := by
  obtain ⟨hps, hst⟩ := forward_headers arrivals {}
  rw [hps, hst]
  cases headers arrivals with
  | nil =>
    refine ⟨?_, isChain_nil, fun _ => ⟨?_, isChain_nil, fun _ _ => rfl⟩⟩
    · intro pre p mid q post hnil
      simp [RtpState.passagesOf] at hnil
    · intro p hp
      cases hp
  | cons x hs =>
    obtain ⟨allowPatch, payload, hdr⟩ := x
    obtain ⟨hfirst, hssrc⟩ := forwarded_first allowPatch payload hdr
    have hfollow := changesFollowed_passagesOf hs hfirst
    refine ⟨spaced_of_spacedNext (spacedNext_passagesOf hs hfirst), hfollow, fun hc => ⟨?_, ?_, ?_⟩⟩
    · have hall := oneSsrc_passagesOf hs hfirst hssrc hc
      intro p hp q hq
      rw [hall p hp, hall q hq]
    · exact continues_of_changesFollowed hfollow hc
    · intro hg hzero
      obtain ⟨hz, hrest⟩ := forall_mem_cons.mp hzero
      exact (lostNo_passagesOf hs hfirst hc hg).mpr ⟨lostNo_first allowPatch payload hdr hz, hrest⟩

/-- A packet of one source and then one of another, while patching is allowed or not. -/
def twoSources (allowPatch : Bool) : List Arrival :=
  [⟨allowPatch, -1, [128, 3, 0, 1, 0, 0, 0, 0, 0, 0, 0, 7]⟩, ⟨allowPatch, -1, [128, 3, 0, 9, 0, 0, 0, 160, 0, 0, 0, 8]⟩]

/-- Patching makes one stream of them. -/
example : (forward {} (twoSources true)).2 =
    [[128, 3, 0, 1, 0, 0, 0, 0, 0, 0, 0, 7], [128, 3, 0, 2, 0, 0, 0, 0, 0, 0, 0, 7]] := by decide

/-- Without it they go out as two. -/
theorem not_streamKept_twoSources : ¬ StreamKept (twoSources false) := by
  intro h
  obtain ⟨p, hp, q, hq, hne⟩ : ∃ p ∈ passages {} (twoSources false), ∃ q ∈ passages {} (twoSources false),
      q.sent.ssrc ≠ p.sent.ssrc := by decide
  exact hne (h.oneSsrc p hp q hq)

end OpenBsc.Mgcp
