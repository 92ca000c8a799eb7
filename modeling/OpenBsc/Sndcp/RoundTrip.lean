import OpenBsc.Sndcp.Defrag
import OpenBsc.Sndcp.Fragment

/-!
# `Sndcp.RoundTrip` — from the fragmenting sender to the reassembling receiver

The frames `sndcp_unitdata_req` hands down for an N-PDU are fed into `sndcp_llunitdata_ind` of a peer, the
first one first and the others in any order. `RoundTrips` is that exactly this N-PDU is delivered then,
once, whatever the order.

Sender and receiver number the segments with four bits, but the sender counts them modulo 15, so the
sixteenth fragment is taken for the first one again. `roundTrips_iff` says which N-PDUs come through.
-/

namespace OpenBsc.Sndcp

open Fragment LlUnitdata SndcpOutcome Bitmask List

/-! ## Specification -/

/-- A frame as the receiving LLC layer passes it up, with what it leaves behind the SN-PDU. The length is a
    `uint16_t`. -/
def LlUnitdata.ofFrame (frame trailer : List Octet) : LlUnitdata where
  octets := frame ++ trailer
  len := frame.length % 65536
  len_le := by
    rw [List.length_append]
    exact (Nat.mod_le _ _).trans (Nat.le_add_right _ _)
  len_lt := Nat.mod_lt _ (by decide)

/-- SN-PDUs received one after the other on one LLC entity. -/
def receiveAll (st : SndcpTrace) (lle : Nat) (pdus : List LlUnitdata) : SndcpTrace :=
  pdus.foldl (fun st pdu => sndcpTraceStep st (.unitdata ⟨lle, pdu⟩)) st

/-- The N-PDUs delivered while these frames are received in this order. -/
def deliveries (es : GprsSndcpEntities) (lle : Nat) (trailer : List Octet) (frames : List (List Octet)) :
    List Delivered :=
  (receiveAll ⟨es, [], []⟩ lle (frames.map fun frame => .ofFrame frame trailer)).delivered

/-- Of the frames, the first one first and the others in any order, exactly this N-PDU is delivered. -/
def RoundTrips (frames : List (List Octet)) (es : GprsSndcpEntities) (lle nsapi : Nat)
    (trailer msg : List Octet) : Prop :=
  ∃ first rest, frames = first :: rest ∧
    ∀ rest', rest'.Perm rest → deliveries es lle trailer (first :: rest') = [⟨lle, nsapi, msg⟩]

/-- The N-PDU needs at least two and at most fifteen fragments; or it fits one frame, holds an octet, and
    nothing follows it in the message. -/
def SegmentNumbersSuffice (n201u : Nat) (msg trailer : List Octet) : Prop :=
  if msg.length ≤ n201u - 4 then msg ≠ [] ∧ trailer = []
  else msg.length ≤ (n201u - 4) + 14 * (n201u - 3)

/-! ## A received fragment -/

/-- A fragment as the receiving LLC layer passes it up. -/
def Fragment.segment (nsapi npduNr : Nat) (trailer : List Octet) (g : Fragment) : LlUnitdata :=
  .ofFrame (g.frame nsapi npduNr) trailer

section Segment

variable {nsapi : Nat} (npduNr : Nat) (trailer : List Octet) (g : Fragment)

theorem Fragment.length_frame (nsapi npduNr : Nat) (g : Fragment) :
    (g.frame nsapi npduNr).length = (if g.fragNr = 0 then 4 else 3) + g.data.length := by
  unfold frame
  split_ifs
  · simp only [SndcpCommonHdr.octets, SndcpCompHdr.octets, SndcpUdataHdr.octets, length_append, length_cons, length_nil]
  · simp only [SndcpCommonHdr.octets, SndcpUdataHdr.octets, append_nil, length_append, length_cons, length_nil]

theorem Fragments.length_frame_lt {n201u fragNr : Nat} {rest : List Octet} {gs : List Fragment}
    (h : Fragments n201u fragNr rest gs) (hn : 4 ≤ n201u) (hmax : n201u < 65536) {nsapi npduNr : Nat}
    {g : Fragment} (hg : g ∈ gs) : (g.frame nsapi npduNr).length < 65536 := by
  have hle := h.data_le g hg
  rw [maxPayloadLen] at hle
  rw [g.length_frame]
  split_ifs at hle ⊢ <;> omega

theorem sch_segment (hns : nsapi < 16) :
    (g.segment nsapi npduNr trailer).sch = ⟨nsapi, g.more, true, g.fragNr == 0⟩ := by
  have hoct : octetAt (g.segment nsapi npduNr trailer).octets 0 =
      nsapi + 16 * g.more.toNat + 32 + 64 * (g.fragNr == 0).toNat := by
    show (UInt8.ofNat (nsapi % 16 + 16 * g.more.toNat + 32 * 1 + 64 * (g.fragNr == 0).toNat)).toNat = _
    have := Bool.toNat_le g.more
    have := Bool.toNat_le (g.fragNr == 0)
    rw [toNat_octetOf (by omega), Nat.mod_eq_of_lt hns]
  unfold sch SndcpCommonHdr.read
  rw [hoct]
  generalize (g.fragNr == 0) = first
  cases hm : g.more <;> cases first <;>
    simp only [Bool.toNat_true, Bool.toNat_false, SndcpCommonHdr.mk.injEq, beq_iff_eq, beq_eq_false_iff_ne] <;>
    omega

theorem dataOffset_segment (hns : nsapi < 16) :
    (g.segment nsapi npduNr trailer).dataOffset = if g.fragNr = 0 then 4 else 3 := by
  unfold dataOffset SndcpCommonHdr.suhOffset
  rw [sch_segment npduNr trailer g hns]
  by_cases h0 : g.fragNr = 0
  · simp [h0]
  · simp [h0]

theorem suh_segment (hns : nsapi < 16) :
    (g.segment nsapi npduNr trailer).suh = ⟨npduNr / 256 % 16, g.fragNr % 15, npduNr % 256⟩ := by
  have hhigh : npduNr / 256 % 16 + 16 * (g.fragNr % 15 % 16) < 256 := by omega
  have hlow : npduNr % 256 < 256 := Nat.mod_lt _ (by decide)
  have hread : (g.segment nsapi npduNr trailer).suh = ⟨
      (UInt8.ofNat (npduNr / 256 % 16 + 16 * (g.fragNr % 15 % 16))).toNat % 16,
      (UInt8.ofNat (npduNr / 256 % 16 + 16 * (g.fragNr % 15 % 16))).toNat / 16,
      (UInt8.ofNat (npduNr % 256)).toNat⟩ := by
    unfold suh SndcpUdataHdr.read SndcpCommonHdr.suhOffset
    rw [sch_segment npduNr trailer g hns]
    unfold Fragment.segment ofFrame frame
    by_cases h0 : g.fragNr = 0
    · simp [h0, SndcpCommonHdr.octets, SndcpCompHdr.octets, SndcpUdataHdr.octets]
    · simp [h0, SndcpCommonHdr.octets, SndcpUdataHdr.octets]
  rw [hread, toNat_octetOf hhigh, toNat_octetOf hlow]
  congr 1 <;> omega

theorem len_segment (hlen : (g.frame nsapi npduNr).length < 65536) :
    (g.segment nsapi npduNr trailer).len = (if g.fragNr = 0 then 4 else 3) + g.data.length := by
  rw [← g.length_frame nsapi npduNr]
  exact Nat.mod_eq_of_lt hlen

theorem payload_segment (hns : nsapi < 16) (hlen : (g.frame nsapi npduNr).length < 65536) :
    (g.segment nsapi npduNr trailer).payload = g.data := by
  unfold payload
  rw [dataOffset_segment npduNr trailer g hns, len_segment npduNr trailer g hlen, Nat.add_sub_cancel_left]
  show (((g.frame nsapi npduNr) ++ trailer).drop _).take _ = _
  unfold frame
  by_cases h0 : g.fragNr = 0
  · simp [h0, SndcpCommonHdr.octets, SndcpCompHdr.octets, SndcpUdataHdr.octets]
  · simp [h0, SndcpCommonHdr.octets, SndcpUdataHdr.octets]

end Segment

/-! ## Receiving -/

/-- The entity for this LLC entity and NSAPI is in the defragmentation state `d`. -/
def Receives (st : SndcpTrace) (lle nsapi : Nat) (d : DefragState) : Prop :=
  ∃ sne, gprsSndcpEntityByLle st.entities lle nsapi = some sne ∧ sne.defrag = d

theorem sndcpTraceStep_unitdata (st : SndcpTrace) (r : Received) :
    sndcpTraceStep st (.unitdata r) =
      ⟨(sndcpLlunitdataInd st.entities r.lle r.pdu).1, st.received ++ [r],
        st.delivered ++ (sndcpLlunitdataInd st.entities r.lle r.pdu).2.delivered r⟩ := rfl

variable {d : DefragState}

theorem Receives.step {st : SndcpTrace} {r : Received} (h : Receives st r.lle r.pdu.sch.nsapi d)
    (htype : r.pdu.sch.type = true) (hlen : 3 ≤ r.pdu.len) (hseg : r.pdu.sch.first = false ∨ r.pdu.sch.more = true) :
    Receives (sndcpTraceStep st (.unitdata r)) r.lle r.pdu.sch.nsapi (defragInput d r.pdu).1 ∧
      (sndcpTraceStep st (.unitdata r)).delivered = st.delivered ++ (defragInput d r.pdu).2.delivered r := by
  obtain ⟨sne, hfind, rfl⟩ := h
  rw [sndcpTraceStep_unitdata, sndcpLlunitdataInd_segmented htype hlen hfind hseg]
  refine ⟨⟨{ sne with defrag := (defragInput sne.defrag r.pdu).1 }, ?_, rfl⟩, rfl⟩
  exact (find?_setDefrag hfind _).trans (if_pos rfl)

theorem receiveAll_cons (st : SndcpTrace) (lle : Nat) (pdu : LlUnitdata) (pdus : List LlUnitdata) :
    receiveAll st lle (pdu :: pdus) = receiveAll (sndcpTraceStep st (.unitdata ⟨lle, pdu⟩)) lle pdus := rfl

theorem receiveAll_append (st : SndcpTrace) (lle : Nat) (pdus pdus' : List LlUnitdata) :
    receiveAll st lle (pdus ++ pdus') = receiveAll (receiveAll st lle pdus) lle pdus' :=
  foldl_append

theorem delivered_prefix_receiveAll (lle : Nat) (pdus : List LlUnitdata) :
    ∀ st : SndcpTrace, st.delivered <+: (receiveAll st lle pdus).delivered := by
  induction pdus with
  | nil => exact fun st => prefix_refl _
  | cons pdu pdus ih =>
    intro st
    have hstep : st.delivered <+: (sndcpTraceStep st (.unitdata ⟨lle, pdu⟩)).delivered :=
      prefix_append _ _
    exact hstep.trans (ih _)

section Steps

variable {nsapi npduNr lle : Nat} {trailer : List Octet} {st : SndcpTrace} {d : DefragState} {g : Fragment}

theorem three_le_len_segment (hfit : (g.frame nsapi npduNr).length < 65536) :
    3 ≤ (g.segment nsapi npduNr trailer).len := by
  rw [len_segment npduNr trailer g hfit]
  split_ifs <;> omega

theorem dataOffset_le_len_segment (hns : nsapi < 16) (hfit : (g.frame nsapi npduNr).length < 65536) :
    (g.segment nsapi npduNr trailer).dataOffset ≤ (g.segment nsapi npduNr trailer).len := by
  rw [len_segment npduNr trailer g hfit, dataOffset_segment npduNr trailer g hns]
  exact Nat.le_add_right _ _

theorem Receives.fragment {d' : DefragState} (trailer : List Octet) (h : Receives st lle nsapi d) (hns : nsapi < 16)
    (hfit : (g.frame nsapi npduNr).length < 65536) (hseg : g.fragNr ≠ 0 ∨ g.more = true)
    (hd : d' = if g.fragNr = 0 then defragReset (g.segment nsapi npduNr trailer).suh.npduNum else d) :
    Receives (sndcpTraceStep st (.unitdata ⟨lle, g.segment nsapi npduNr trailer⟩)) lle nsapi
        (defragCheck (defragQueued d' (g.segment nsapi npduNr trailer))).1 ∧
      (sndcpTraceStep st (.unitdata ⟨lle, g.segment nsapi npduNr trailer⟩)).delivered = st.delivered ++
        (defragCheck (defragQueued d' (g.segment nsapi npduNr trailer))).2.delivered
          ⟨lle, g.segment nsapi npduNr trailer⟩ := by
  have hsch := sch_segment npduNr trailer g hns
  have hfirst : (g.segment nsapi npduNr trailer).sch.first = decide (g.fragNr = 0) := by
    rw [hsch]
    rfl
  have hinput : defragInput d (g.segment nsapi npduNr trailer) =
      defragCheck (defragQueued d' (g.segment nsapi npduNr trailer)) := by
    simp only [defragInput, hfirst, decide_eq_true_eq]
    rw [← hd, defragStore_pdu (dataOffset_le_len_segment hns hfit)]
  have hrecv : Receives st lle (g.segment nsapi npduNr trailer).sch.nsapi d := by
    rw [hsch]
    exact h
  have hstep := Receives.step (r := ⟨lle, g.segment nsapi npduNr trailer⟩) hrecv (by rw [hsch])
    (three_le_len_segment hfit) (by rw [hsch]; simpa using hseg)
  rw [hinput, hsch] at hstep
  exact hstep

end Steps

/-- The receiver holds the fragments `l`, whose segment numbers are their own numbers, and none of them
    was complete with the others. -/
structure Assembling (seg : Fragment → LlUnitdata) (d : DefragState) (l : List Fragment) : Prop where
  holds : Holds seg d l
  segNr : ∀ g ∈ l, (seg g).suh.segNr = g.fragNr
  highest : d.highestSeg = (l.map Fragment.fragNr).foldr max 0
  noMore : d.noMore = l.any fun g => !g.more

variable {seg : Fragment → LlUnitdata} {l : List Fragment}

theorem Assembling.map_segNr (h : Assembling seg d l) : (l.map fun g => (seg g).suh.segNr) = l.map fragNr :=
  map_congr_left h.segNr

variable {g : Fragment}

theorem Assembling.queued (h : Assembling seg d l) (hseg : (seg g).suh.segNr = g.fragNr)
    (hmore : (seg g).sch.more = g.more) (hnew : g.fragNr ∉ l.map fragNr) :
    Assembling seg (defragQueued d (seg g)) (g :: l) := by
  refine ⟨h.holds.queued ?_, ?_, ?_, ?_⟩
  · rw [h.holds.mask, testBit_ofList, h.map_segNr, hseg]
    exact decide_eq_false hnew
  · intro g' hg'
    rcases mem_cons.mp hg' with rfl | hg'
    · exact hseg
    · exact h.segNr g' hg'
  · rw [map_cons, foldr_cons, ← h.highest, ← hseg, max_comm, max_def_lt]
    rfl
  · rw [any_cons, ← h.noMore, ← hmore]
    rfl

/-- The N-PDU is complete when every segment number up to the highest one is there. -/
theorem Assembling.haveAll_iff (h : Assembling seg d l) :
    defragHaveAllSegments d = true ↔ ∀ j, j ∈ l.map fragNr ↔ j < d.highestSeg + 1 := by
  rw [defragHaveAllSegments, beq_iff_eq, eq_comm, h.holds.mask, h.map_segNr, ofList_eq_below]

theorem le_foldr_max {l : List Nat} {n : Nat} (h : n ∈ l) : n ≤ l.foldr max 0 := by
  induction l with
  | nil => simp at h
  | cons m l ih =>
    rw [foldr_cons]
    rcases mem_cons.mp h with rfl | h
    · exact le_max_left _ _
    · exact (ih h).trans (le_max_right _ _)

theorem foldr_max_range (n : Nat) : (range (n + 1)).foldr max 0 = n := by
  refine le_antisymm ?_ (le_foldr_max (mem_range.mpr (Nat.lt_succ_self n)))
  have hle : ∀ (l : List Nat) (m : Nat), (∀ i ∈ l, i ≤ m) → l.foldr max 0 ≤ m := by
    intro l m hl
    induction l with
    | nil => exact Nat.zero_le m
    | cons i l ih =>
      rw [foldr_cons]
      exact max_le (hl i mem_cons_self) (ih fun j hj => hl j (mem_cons_of_mem i hj))
  exact hle _ n fun i hi => Nat.lt_succ_iff.mp (mem_range.mp hi)

/-- A receiver that dropped its queue holds no fragment. -/
theorem assembling_reset (seg : Fragment → LlUnitdata) (num : Nat) : Assembling seg (defragReset num) [] :=
  ⟨holds_reset seg num, by simp, rfl, rfl⟩

/-- After the first fragment, when others follow, the receiver holds it and waits, whatever it held before. -/
theorem Receives.assembling_first {nsapi npduNr lle : Nat} (trailer : List Octet) {st : SndcpTrace}
    {d : DefragState} {g : Fragment} (h : Receives st lle nsapi d) (hns : nsapi < 16)
    (hfit : (g.frame nsapi npduNr).length < 65536) (hnr : g.fragNr = 0) (hmore : g.more = true) :
    ∃ d', Receives (sndcpTraceStep st (.unitdata ⟨lle, g.segment nsapi npduNr trailer⟩)) lle nsapi d' ∧
      Assembling (segment nsapi npduNr trailer) d' [g] ∧
      (sndcpTraceStep st (.unitdata ⟨lle, g.segment nsapi npduNr trailer⟩)).delivered = st.delivered := by
  obtain ⟨hrecv, hdel⟩ := Receives.fragment trailer h hns hfit (.inr hmore) (if_pos hnr).symm
  have hsegNr : (g.segment nsapi npduNr trailer).suh.segNr = g.fragNr := by
    rw [suh_segment npduNr trailer g hns, hnr]
  have hasm :=
    (assembling_reset (segment nsapi npduNr trailer) (g.segment nsapi npduNr trailer).suh.npduNum).queued hsegNr
    (by rw [sch_segment npduNr trailer g hns]) (by simp)
  have hcheck : defragCheck (defragQueued (defragReset (g.segment nsapi npduNr trailer).suh.npduNum)
      (g.segment nsapi npduNr trailer)) = (defragQueued (defragReset (g.segment nsapi npduNr trailer).suh.npduNum)
        (g.segment nsapi npduNr trailer), .queued) := by
    refine if_neg fun hc => ?_
    have hlast := (Bool.and_eq_true_iff.mp hc).1
    rw [hasm.noMore] at hlast
    simp [hmore] at hlast
  rw [hcheck] at hrecv hdel
  exact ⟨_, hrecv, hasm, hdel.trans (append_nil _)⟩

/-! ## Few fragments -/

/-- The fragments of a message that need not share a segment number. -/
structure FewFragments (gs : List Fragment) (nsapi npduNr : Nat) (msg : List Octet) : Prop where
  fragNrs : gs.map Fragment.fragNr = List.range gs.length
  more : ∀ g ∈ gs, g.more = decide (g.fragNr + 1 < gs.length)
  few : gs.length ≤ 15
  fits : ∀ g ∈ gs, (g.frame nsapi npduNr).length < 65536
  data : (gs.map Fragment.data).flatten = msg

section Few

variable {gs l : List Fragment} {nsapi npduNr : Nat} {msg trailer : List Octet} {d : DefragState}

section

variable (h : FewFragments gs nsapi npduNr msg)

include h

theorem FewFragments.fragNr_lt (hg : g ∈ gs) : g.fragNr < gs.length := by
  have hmem : g.fragNr ∈ gs.map fragNr := mem_map_of_mem hg
  rw [h.fragNrs] at hmem
  exact mem_range.mp hmem

theorem FewFragments.segNr (hns : nsapi < 16) (hg : g ∈ gs) :
    (g.segment nsapi npduNr trailer).suh.segNr = g.fragNr := by
  rw [suh_segment npduNr trailer g hns]
  exact Nat.mod_eq_of_lt ((h.fragNr_lt hg).trans_le h.few)

/-- While a fragment is missing, nothing is handed up. -/
theorem FewFragments.check_incomplete
    (hasm : Assembling (segment nsapi npduNr trailer) d l) (hsub : ∀ g ∈ l, g ∈ gs) (hg : g ∈ gs)
    (hmiss : g.fragNr ∉ l.map fragNr) : defragCheck d = (d, .queued) := by
  refine if_neg fun hcheck => ?_
  obtain ⟨hlast, hall⟩ := Bool.and_eq_true_iff.mp hcheck
  -- the last fragment is there, so the number of the missing one is below the highest
  rw [hasm.noMore, any_eq_true] at hlast
  obtain ⟨last, hl, hmore⟩ := hlast
  have hend : ¬ last.fragNr + 1 < gs.length := by
    simpa [h.more last (hsub last hl)] using hmore
  have hhigh : last.fragNr ≤ d.highestSeg := by
    rw [hasm.highest]
    exact le_foldr_max (mem_map_of_mem hl)
  have hlt := h.fragNr_lt hg
  exact hmiss ((hasm.haveAll_iff.mp hall g.fragNr).mpr (by omega))

theorem FewFragments.check_complete (hns : nsapi < 16)
    (hpos : gs ≠ []) (hasm : Assembling (Fragment.segment nsapi npduNr trailer) d l) (hperm : l.Perm gs) :
    (defragCheck d).2 = .udInd msg := by
  obtain ⟨n, hn⟩ : ∃ n, gs.length = n + 1 := Nat.exists_eq_succ_of_ne_zero (by simpa using hpos)
  have hnrs : (l.map Fragment.fragNr).Perm (range (n + 1)) := by
    rw [← hn, ← h.fragNrs]
    exact hperm.map _
  have hhigh : d.highestSeg = n := by
    rw [hasm.highest, hnrs.foldr_op_eq, foldr_max_range]
  have hall : defragHaveAllSegments d = true := by
    rw [hasm.haveAll_iff, hhigh]
    intro j
    rw [hnrs.mem_iff, mem_range]
  have hlast : d.noMore = true := by
    rw [hasm.noMore, any_eq_true]
    have hmem : n ∈ l.map Fragment.fragNr := hnrs.mem_iff.mpr (mem_range.mpr (Nat.lt_succ_self n))
    obtain ⟨g, hg, hgn⟩ := mem_map.mp hmem
    exact ⟨g, hg, by simp [h.more g (hperm.mem_iff.mp hg), hgn, hn]⟩
  obtain ⟨taken, htp, hs, hd⟩ := hasm.holds.segments hall
  -- what is taken off the queue and the fragments of the message are sorted by the same numbers
  have htaken : taken.Perm gs := htp.trans hperm
  have hsorted : ∀ {k : List Fragment} {m : Nat}, k.map Fragment.fragNr = range m →
      k.Pairwise fun a b => a.fragNr < b.fragNr := by
    intro k m hk
    rw [← pairwise_map, hk]
    exact pairwise_lt_range
  have hnr : taken.map Fragment.fragNr = range (d.highestSeg + 1) := by
    rw [← hs]
    exact map_congr_left fun g hg => (h.segNr hns (htaken.mem_iff.mp hg)).symm
  have heq : taken = gs := htaken.eq_of_pairwise (fun a b _ _ hab hba => absurd hab (lt_asymm hba))
    (hsorted hnr) (hsorted h.fragNrs)
  rw [defragCheck, hlast, hall, if_pos (by rfl), hd, heq]
  have hpayload : (gs.map fun g => (g.segment nsapi npduNr trailer).payload) = gs.map Fragment.data :=
    map_congr_left fun g hg => payload_segment npduNr trailer g hns (h.fits g hg)
  simp only [hpayload, h.data]

/-- The missing fragments may come in any order: the message is delivered with the last of them. Induction
    over the fragments still to come. -/
theorem FewFragments.delivered (hns : nsapi < 16) {lle : Nat}
    (todo : List Fragment) : ∀ {l : List Fragment} {st : SndcpTrace} {d : DefragState}, todo ≠ [] →
      (todo ++ l).Perm gs → (∀ g ∈ todo, g.fragNr ≠ 0) → Receives st lle nsapi d →
      Assembling (segment nsapi npduNr trailer) d l →
      (receiveAll st lle (todo.map (segment nsapi npduNr trailer))).delivered =
        st.delivered ++ [⟨lle, nsapi, msg⟩] := by
  induction todo with
  | nil =>
    intro l st d hne
    exact absurd rfl hne
  | cons g todo ih =>
    intro l st d _ hperm hnr hrecv hasm
    have hmem : ∀ g' ∈ g :: todo ++ l, g' ∈ gs := fun g' hg' => hperm.mem_iff.mp hg'
    have hg : g ∈ gs := hmem g mem_cons_self
    have hnodup : ((g :: todo ++ l).map fragNr).Nodup := by
      rw [(hperm.map fragNr).nodup_iff, h.fragNrs]
      exact nodup_range
    rw [cons_append, map_cons, nodup_cons, map_append, nodup_append] at hnodup
    obtain ⟨hnew, -, -, hdisj⟩ := hnodup
    have hsch := sch_segment npduNr trailer g hns
    have hasm' := hasm.queued (h.segNr hns hg) (by rw [hsch]) fun hc => hnew (mem_append_right _ hc)
    obtain ⟨hrecv', hdel⟩ :=
      hrecv.fragment trailer hns (h.fits g hg) (.inl (hnr g mem_cons_self)) (if_neg (hnr g mem_cons_self)).symm
    rw [map_cons, receiveAll_cons]
    cases todo with
    | nil =>
      have hcheck := h.check_complete hns (ne_nil_of_mem hg) hasm' hperm
      rw [hcheck] at hdel
      simp only [SndcpOutcome.delivered, hsch] at hdel
      exact hdel
    | cons g' todo =>
      have hcheck := h.check_incomplete hasm' (fun k hk => hmem k ?_) (hmem g' (by simp)) ?_
      · rw [hcheck] at hrecv' hdel
        have hperm' : ((g' :: todo) ++ (g :: l)).Perm gs := perm_middle.trans hperm
        have := ih (by simp) hperm' (fun k hk => hnr k (mem_cons_of_mem g hk)) hrecv' hasm'
        rw [this, hdel]
        simp [SndcpOutcome.delivered]
      · rcases mem_cons.mp hk with rfl | hk
        · exact mem_cons_self
        · exact mem_append_right _ hk
      · rw [map_cons, mem_cons]
        rintro (heq | hc)
        · exact hnew (heq ▸ mem_append_left _ (by simp))
        · exact hdisj _ (by simp) _ hc rfl

end

end Few

theorem Fragments.few {n201u nsapi npduNr : Nat} {msg : List Octet} {gs : List Fragment}
    (h : Fragments n201u 0 msg gs) (hn : 4 ≤ n201u) (hmax : n201u < 65536) (hfew : gs.length ≤ 15) :
    FewFragments gs nsapi npduNr msg := by
  have hnr : ∀ {i : Nat} {g : Fragment}, gs[i]? = some g → g.fragNr = i := by
    intro i g hi
    have hlt := (List.getElem?_eq_some_iff.mp hi).1
    rw [h.fragNr_eq (by decide) hi]
    omega
  refine ⟨?_, fun g hg => ?_, hfew, fun g hg => ?_, h.flatten⟩
  · refine ext_getElem (by simp) fun i hi _ => ?_
    rw [length_map] at hi
    rw [getElem_map, getElem_range]
    exact hnr (getElem?_eq_getElem hi)
  · obtain ⟨i, hi⟩ := mem_iff_getElem?.mp hg
    rw [h.more_eq hi, hnr hi]
  · exact h.length_frame_lt hn hmax hg

/-! ## One frame -/

/-- An SN-PDU of its own is handed up with what follows it, unless that is nothing at all. -/
theorem Receives.unsegmented {nsapi npduNr lle : Nat} (trailer : List Octet) {st : SndcpTrace}
    {d : DefragState} {g : Fragment} (h : Receives st lle nsapi d) (hns : nsapi < 16)
    (hfit : (g.frame nsapi npduNr).length < 65536) (hnr : g.fragNr = 0) (hmore : g.more = false) :
    (sndcpTraceStep st (.unitdata ⟨lle, g.segment nsapi npduNr trailer⟩)).delivered =
      st.delivered ++ if g.data ++ trailer = [] then [] else [⟨lle, nsapi, g.data ++ trailer⟩] := by
  obtain ⟨sne, hfind, -⟩ := h
  have hsch := sch_segment npduNr trailer g hns
  have hoff : (g.segment nsapi npduNr trailer).dataOffset = 4 := by
    rw [dataOffset_segment npduNr trailer g hns, if_pos hnr]
  have hoctets : (g.segment nsapi npduNr trailer).octets =
      SndcpCommonHdr.octets ⟨nsapi, g.more, true, g.fragNr == 0⟩ ++ (0 ::
        (SndcpUdataHdr.octets ⟨npduNr / 256, g.fragNr % 0xf, npduNr⟩ ++ (g.data ++ trailer))) := by
    unfold Fragment.segment ofFrame frame
    rw [if_pos hnr]
    simp [SndcpCommonHdr.octets, SndcpCompHdr.octets]
  have hdrop : (g.segment nsapi npduNr trailer).octets.drop 4 = g.data ++ trailer := by
    rw [hoctets]
    simp [SndcpCommonHdr.octets, SndcpUdataHdr.octets]
  have hcomp : SndcpCompHdr.read (g.segment nsapi npduNr trailer).octets = ⟨0, 0⟩ := by
    rw [hoctets]
    simp [SndcpCompHdr.read, SndcpCommonHdr.octets, octetAt]
  have hshort : (g.segment nsapi npduNr trailer).octets.length ≤ 4 ↔ g.data ++ trailer = [] := by
    rw [← hdrop, drop_eq_nil_iff]
  have hlen : ¬ (g.segment nsapi npduNr trailer).len < 3 := not_lt.mpr (three_le_len_segment hfit)
  have hfirst : (g.fragNr == 0) = true := by simpa using hnr
  rw [sndcpTraceStep_unitdata]
  simp only [sndcpLlunitdataInd, hsch, hlen, hfind, hmore, hfirst, hcomp, hoff, hshort, hdrop]
  by_cases hnil : g.data ++ trailer = []
  · simp [hnil, delivered]
  · simp [hnil, delivered, hsch]

/-! ## Too many fragments -/

/-- When every number up to the highest is queued, as many octets are handed up as were counted. -/
theorem defragSegments_length (h : ∀ n ≤ d.highestSeg, ∃ e ∈ d.fragList, e.segNr = n) :
    ∃ npdu, (defragSegments d).2 = .udInd npdu ∧ npdu.length = d.totLen := by
  have hcollect : ∀ (segNrs : List Nat) (frags : List DefragQueueEntry) (msg : List Octet), segNrs.Nodup →
      (∀ n ∈ segNrs, ∃ e ∈ frags, e.segNr = n) →
      ∃ rest octets, defragCollect segNrs frags msg = (rest, some octets) := by
    intro segNrs
    induction segNrs with
    | nil => exact fun frags msg _ _ => ⟨frags, msg, rfl⟩
    | cons n segNrs ih =>
      intro frags msg hnodup hall
      obtain ⟨hn, hrest⟩ := nodup_cons.mp hnodup
      cases hget : defragGetSeg n frags with
      | none =>
        obtain ⟨e, he, hen⟩ := hall n mem_cons_self
        exact absurd hen (defragGetSeg_eq_none.mp hget e he)
      | some r =>
        obtain ⟨dqe, frags'⟩ := r
        obtain ⟨before, after, rfl, rfl, hdqe⟩ := defragGetSeg_eq_some hget
        rw [defragCollect, hget]
        refine ih _ _ hrest fun m hm => ?_
        obtain ⟨e, he, hem⟩ := hall m (mem_cons_of_mem n hm)
        refine ⟨e, ?_, hem⟩
        -- the entry taken out has another number
        rcases mem_append.mp he with he | he
        · exact mem_append_left _ he
        · rcases mem_cons.mp he with rfl | he
          · exact absurd (hdqe ▸ hem ▸ hm) hn
          · exact mem_append_right _ he
  obtain ⟨rest, octets, hc⟩ := hcollect (range (d.highestSeg + 1)) d.fragList [] nodup_range
    fun n hn => h n (Nat.lt_succ_iff.mp (mem_range.mp hn))
  refine ⟨_, by rw [defragSegments, hc], ?_⟩
  rw [length_take, length_append, length_replicate]
  omega

section Many

variable {nsapi npduNr lle : Nat} {trailer : List Octet}

/-- Fragments that all announce another one are queued one after the other. -/
theorem Assembling.receiveAll (hns : nsapi < 16) (todo : List Fragment) :
    ∀ {l : List Fragment} {st : SndcpTrace} {d : DefragState}, Receives st lle nsapi d →
      Assembling (segment nsapi npduNr trailer) d l →
      (∀ g ∈ todo ++ l, g.more = true ∧ g.fragNr < 15 ∧ (g.frame nsapi npduNr).length < 65536) →
      (∀ g ∈ todo, g.fragNr ≠ 0) → ((todo ++ l).map fragNr).Nodup →
      ∃ d', Receives (receiveAll st lle (todo.map (segment nsapi npduNr trailer))) lle nsapi d' ∧
        Assembling (segment nsapi npduNr trailer) d' (todo.reverse ++ l) ∧
        (receiveAll st lle (todo.map (segment nsapi npduNr trailer))).delivered = st.delivered := by
  induction todo with
  | nil => exact fun hrecv hasm _ _ _ => ⟨_, hrecv, hasm, rfl⟩
  | cons g todo ih =>
    intro l st d hrecv hasm hall hnr hnodup
    obtain ⟨-, hlt, hfit⟩ := hall g (by simp)
    have hnew : g.fragNr ∉ l.map fragNr := by
      rw [cons_append, map_cons, nodup_cons, map_append] at hnodup
      exact fun hc => hnodup.1 (mem_append_right _ hc)
    have hsegNr : (g.segment nsapi npduNr trailer).suh.segNr = g.fragNr := by
      rw [suh_segment npduNr trailer g hns]
      exact Nat.mod_eq_of_lt hlt
    have hasm' := hasm.queued hsegNr (by rw [sch_segment npduNr trailer g hns]) hnew
    obtain ⟨hrecv', hdel⟩ :=
      hrecv.fragment trailer hns hfit (.inl (hnr g mem_cons_self)) (if_neg (hnr g mem_cons_self)).symm
    have hmiddle : (todo ++ g :: l).Perm (g :: todo ++ l) := perm_middle
    have hcheck : defragCheck (defragQueued d (g.segment nsapi npduNr trailer)) =
        (defragQueued d (g.segment nsapi npduNr trailer), .queued) := by
      refine if_neg fun hc => ?_
      have hlast := (Bool.and_eq_true_iff.mp hc).1
      rw [hasm'.noMore, any_eq_true] at hlast
      obtain ⟨k, hk, hmore⟩ := hlast
      have hk' : k ∈ g :: todo ++ l := hmiddle.mem_iff.mp (mem_append_right todo hk)
      simp [(hall k hk').1] at hmore
    rw [hcheck] at hrecv' hdel
    obtain ⟨d', hr, ha, hd⟩ := ih hrecv' hasm' (fun k hk => hall k (hmiddle.mem_iff.mp hk))
      (fun k hk => hnr k (mem_cons_of_mem g hk))
      ((hmiddle.map fragNr).nodup_iff.mpr hnodup)
    refine ⟨d', hr, ?_, hd.trans ?_⟩
    · rw [reverse_cons, append_assoc]
      exact ha
    · rw [hdel]
      exact append_nil _

/-- A last fragment whose segment number closes the gap, or repeats the first one, completes what is queued:
    as many octets are delivered as were received so far. -/
theorem Assembling.check_last (hns : nsapi < 16) {d : DefragState} {l : List Fragment} {g : Fragment}
    (h : Assembling (segment nsapi npduNr trailer) d l) (hmore : g.more = false) {k : Nat}
    (hl : (l.map fragNr).Perm (range (k - 1 + 1))) (hk : g.fragNr % 15 = k) :
    ∃ npdu, (defragCheck (defragQueued d (g.segment nsapi npduNr trailer))).2 = .udInd npdu ∧
      npdu.length ≤ (l.map fun g => (g.segment nsapi npduNr trailer).payload.length).sum +
        (g.segment nsapi npduNr trailer).payload.length := by
  have hsegNr : (g.segment nsapi npduNr trailer).suh.segNr = k := by
    rw [suh_segment npduNr trailer g hns]
    exact hk
  have hhigh : d.highestSeg = k - 1 := by
    rw [h.highest, hl.foldr_op_eq, foldr_max_range]
  have hhigh' : (defragQueued d (g.segment nsapi npduNr trailer)).highestSeg = k := by
    show (if d.highestSeg < _ then _ else _) = k
    rw [hsegNr, hhigh]
    split_ifs <;> omega
  have hlast : (defragQueued d (g.segment nsapi npduNr trailer)).noMore = true := by
    show (!(g.segment nsapi npduNr trailer).sch.more || d.noMore) = true
    rw [sch_segment npduNr trailer g hns, hmore]
    rfl
  have hall : defragHaveAllSegments (defragQueued d (g.segment nsapi npduNr trailer)) = true := by
    rw [defragHaveAllSegments, hhigh', beq_iff_eq, eq_comm]
    show set d.segHave _ = _
    rw [h.holds.mask, hsegNr, ← ofList_cons, ofList_eq_below, h.map_segNr]
    intro j
    rw [mem_cons, hl.mem_iff, mem_range]
    omega
  have hentries : ∀ n ≤ (defragQueued d (g.segment nsapi npduNr trailer)).highestSeg,
      ∃ e ∈ (defragQueued d (g.segment nsapi npduNr trailer)).fragList, e.segNr = n := by
    intro n hn
    rw [hhigh'] at hn
    by_cases hnk : n = k
    · exact ⟨_, mem_cons_self, hsegNr.trans hnk.symm⟩
    · have hmem : n ∈ l.map fragNr := hl.mem_iff.mpr (mem_range.mpr (by omega))
      rw [← h.map_segNr] at hmem
      obtain ⟨g', hg', hn'⟩ := mem_map.mp hmem
      refine ⟨(g'.segment nsapi npduNr trailer).entry, mem_cons_of_mem _ ?_, hn'⟩
      rw [h.holds.queue]
      exact mem_map_of_mem hg'
  obtain ⟨npdu, hd, hlen⟩ := defragSegments_length hentries
  refine ⟨npdu, ?_, ?_⟩
  · rw [defragCheck, hlast, hall]
    exact hd
  · rw [hlen, ← h.holds.total]
    exact Nat.mod_le _ _

end Many

theorem Fragments.rest_ne_nil {n201u fragNr : Nat} {rest : List Octet} {gs : List Fragment}
    (h : Fragments n201u fragNr rest gs) (h2 : 2 ≤ gs.length) : rest ≠ [] := by
  cases h with
  | last _ => simp at h2
  | more hlt _ => exact ne_nil_of_length_pos (by omega)

/-- The fragments after the first carry an octet each, up to where their numbers wrap. -/
theorem Fragments.le_sum {n201u : Nat} {msg : List Octet} {gs : List Fragment}
    (h : Fragments n201u 0 msg gs) (hn : 4 ≤ n201u) (hmsg : msg ≠ []) {m : Nat} :
    ∀ {i : Nat}, 1 ≤ i → i + m ≤ 256 → i + m ≤ gs.length →
      m ≤ (((gs.drop i).take m).map fun g => g.data.length).sum := by
  induction m with
  | zero => exact fun _ _ _ => Nat.zero_le _
  | succ m ih =>
    intro i hi hwrap hlen
    have hlt : i < gs.length := by omega
    have hnr := h.fragNr_eq (by decide) (getElem?_eq_getElem hlt)
    have hdata := h.data_ne_nil hn hmsg gs[i] (getElem_mem hlt) (.inl (by omega))
    have hpos := length_pos_of_ne_nil hdata
    have hrest := ih (i := i + 1) (by omega) (by omega) (by omega)
    rw [drop_eq_getElem_cons hlt, take_succ_cons, map_cons, sum_cons]
    omega

/-- The fragments of a message that needs more than one: the first, those in the middle, and the last. -/
structure Split (first : Fragment) (mid : List Fragment) (last : Fragment) : Prop where
  firstNr : first.fragNr = 0
  firstMore : first.more = true
  midNr : mid.map Fragment.fragNr = (List.range mid.length).map fun j => (j + 1) % 256
  midMore : ∀ g ∈ mid, g.more = true
  lastMore : last.more = false

theorem Fragments.split {n201u : Nat} {msg : List Octet} {gs : List Fragment}
    (h : Fragments n201u 0 msg gs) (h2 : 2 ≤ gs.length) :
    ∃ first mid last, gs = first :: (mid ++ [last]) ∧ Split first mid last := by
  obtain ⟨first, tail, rfl⟩ := exists_cons_of_ne_nil h.ne_nil
  have htail : tail ≠ [] := by
    rintro rfl
    simp at h2
  obtain ⟨mid, last, rfl⟩ : ∃ mid last, tail = mid ++ [last] :=
    ⟨tail.dropLast, tail.getLast htail, (dropLast_append_getLast htail).symm⟩
  have hget : ∀ {j : Nat} (hj : j < mid.length), (first :: (mid ++ [last]))[j + 1]? = some mid[j] := by
    intro j hj
    rw [getElem?_cons_succ, getElem?_append_left hj, getElem?_eq_getElem hj]
  refine ⟨first, mid, last, rfl, h.fragNr_eq (by decide) (i := 0) rfl, ?_, ?_, ?_, ?_⟩
  · rw [h.more_eq (i := 0) rfl]
    exact decide_eq_true (by omega)
  · refine ext_getElem (by simp) fun j hj _ => ?_
    rw [length_map] at hj
    rw [getElem_map, getElem_map, getElem_range, h.fragNr_eq (by decide) (hget hj), Nat.zero_add]
  · intro g hg
    obtain ⟨j, hj, rfl⟩ := mem_iff_getElem.mp hg
    rw [h.more_eq (hget hj)]
    simp only [length_cons, length_append, length_nil]
    exact decide_eq_true (by omega)
  · have hi : (first :: (mid ++ [last]))[mid.length + 1]? = some last := by simp
    rw [h.more_eq hi]
    simp

/-- The numbers of the fragments before the sixteenth are their positions. -/
theorem Split.fragNr_take {first last : Fragment} {mid : List Fragment} (h : Split first mid last) {a : Nat}
    (ha : a ≤ 14) (hmid : a ≤ mid.length) :
    (first :: mid.take a).map fragNr = range (a + 1) := by
  rw [map_cons, h.firstNr, map_take, h.midNr, ← map_take, take_range, Nat.min_eq_left hmid, range_succ_eq_map]
  congr 1
  refine map_congr_left fun j hj => ?_
  have := mem_range.mp hj
  exact Nat.mod_eq_of_lt (by omega)

/-- **Too many fragments.** Some order of arrival after the first fragment makes the receiver deliver an N-PDU
    that is too short: the fragments up to the one whose segment number precedes that of the last one, then
    the last one. -/
theorem exists_short_delivery (npduNr : Nat) {n201u nsapi lle : Nat} {msg trailer : List Octet}
    {gs : List Fragment} {st : SndcpTrace} {d : DefragState} (h : Fragments n201u 0 msg gs)
    (hn : 4 ≤ n201u) (hmax : n201u < 65536) (hns : nsapi < 16) (hmany : 15 < gs.length)
    (htr : trailer.length ≤ 3) (hrecv : Receives st lle nsapi d) :
    ∃ first rest rest' npdu, gs = first :: rest ∧ rest'.Perm rest ∧ npdu.length < msg.length ∧
      st.delivered ++ [⟨lle, nsapi, npdu⟩] <+:
        (receiveAll st lle ((first :: rest').map (segment nsapi npduNr trailer))).delivered := by
  obtain ⟨first, mid, last, rfl, hsplit⟩ := h.split (by omega)
  have hmid : 14 ≤ mid.length := by
    simp only [length_cons, length_append, length_nil] at hmany
    omega
  have hmsglen : msg.length = first.data.length + (mid.map fun g => g.data.length).sum + last.data.length := by
    rw [← h.flatten, length_flatten]
    simp [Function.comp_def, Nat.add_assoc]
  have hmsg : msg ≠ [] := h.rest_ne_nil (by omega)
  have hlastData : last.data ≠ [] := h.data_ne_nil hn hmsg last (by simp) (.inr hsplit.lastMore)
  have hfits : ∀ g ∈ first :: (mid ++ [last]), (g.frame nsapi npduNr).length < 65536 :=
    fun g hg => h.length_frame_lt hn hmax hg
  -- the first fragment and the `a` ones after it, up to the one before the segment number of the last
  obtain ⟨a, ha⟩ : ∃ a, a = last.fragNr % 15 - 1 := ⟨_, rfl⟩
  have hnrs := hsplit.fragNr_take (a := a) (by omega) (by omega)
  have hperm : (mid.take a ++ [first]).Perm (first :: mid.take a) := perm_append_comm
  obtain ⟨d₁, hrecv₁, hasm₁, hdel₁⟩ := hrecv.assembling_first trailer (g := first)
    hns (hfits first (by simp)) hsplit.firstNr hsplit.firstMore
  obtain ⟨d₂, hrecv₂, hasm₂, hdel₂⟩ := Assembling.receiveAll hns (mid.take a) hrecv₁ hasm₁
    (by
      intro g hg
      have hg' : g ∈ first :: mid.take a := hperm.mem_iff.mp hg
      have hnr : g.fragNr ∈ range (a + 1) := hnrs ▸ mem_map_of_mem hg'
      have hlt := mem_range.mp hnr
      refine ⟨?_, by omega, ?_⟩
      · rcases mem_cons.mp hg' with rfl | hg'
        · exact hsplit.firstMore
        · exact hsplit.midMore g (mem_of_mem_take hg')
      · rcases mem_cons.mp hg' with rfl | hg'
        · exact hfits g (by simp)
        · exact hfits g (by simp [mem_of_mem_take hg']))
    (by
      intro g hg hzero
      have hnodup : ((first :: mid.take a).map fragNr).Nodup := hnrs ▸ nodup_range
      rw [map_cons, nodup_cons] at hnodup
      exact hnodup.1 (mem_map.mpr ⟨g, hg, hzero.trans hsplit.firstNr.symm⟩))
    (by
      rw [(hperm.map fragNr).nodup_iff, hnrs]
      exact nodup_range)
  -- what is delivered with the last fragment stays delivered while the others arrive
  have hrun : ∀ npdu, (sndcpTraceStep (receiveAll (sndcpTraceStep st (.unitdata ⟨lle,
        first.segment nsapi npduNr trailer⟩)) lle ((mid.take a).map (segment nsapi npduNr trailer)))
          (.unitdata ⟨lle, last.segment nsapi npduNr trailer⟩)).delivered = st.delivered ++ [⟨lle, nsapi, npdu⟩] →
      st.delivered ++ [⟨lle, nsapi, npdu⟩] <+: (receiveAll st lle
        ((first :: (mid.take a ++ last :: mid.drop a)).map (segment nsapi npduNr trailer))).delivered := by
    intro npdu hnpdu
    rw [← hnpdu, map_cons, map_append, map_cons, receiveAll_cons, receiveAll_append, receiveAll_cons]
    exact delivered_prefix_receiveAll lle _ _
  have hrest : (mid.take a ++ last :: mid.drop a).Perm (mid ++ [last]) := by
    have hmiddle : (mid.take a ++ last :: mid.drop a).Perm (last :: (mid.take a ++ mid.drop a)) := perm_middle
    rw [take_append_drop] at hmiddle
    exact hmiddle.trans (perm_append_singleton last mid).symm
  by_cases hzero : last.fragNr = 0
  · -- the number of the last fragment has wrapped to that of a first one: it is an N-PDU of its own
    have hdel := hrecv₂.unsegmented trailer (g := last) hns (hfits last (by simp)) hzero
      hsplit.lastMore
    rw [if_neg (by simp [hlastData]), hdel₂, hdel₁] at hdel
    refine ⟨first, _, _, _, rfl, hrest, ?_, hrun _ hdel⟩
    have hsum := h.le_sum hn hmsg (i := 1) (m := 4) (by omega) (by omega) (by omega)
    rw [drop_one, tail_cons, take_append_of_le_length (by omega)] at hsum
    have hsplitsum := congrArg sum (congrArg (map fun g : Fragment => g.data.length)
      (take_append_drop 4 mid))
    rw [map_append, sum_append] at hsplitsum
    rw [length_append]
    omega
  · obtain ⟨-, hdel⟩ := hrecv₂.fragment trailer (g := last) hns (hfits last (by simp)) (.inl hzero)
      (if_neg hzero).symm
    have hheld : ((mid.take a).reverse ++ [first]).Perm (first :: mid.take a) :=
      ((reverse_perm _).append_right _).trans hperm
    obtain ⟨npdu, hnpdu, hlen⟩ := hasm₂.check_last (g := last) (k := last.fragNr % 15) hns hsplit.lastMore
      (by rw [← ha, ← hnrs]; exact hheld.map _) rfl
    rw [hnpdu, hdel₂, hdel₁] at hdel
    simp only [delivered, sch_segment npduNr trailer last hns] at hdel
    refine ⟨first, _, _, npdu, rfl, hrest, ?_, hrun _ hdel⟩
    have hpayload : ∀ g ∈ first :: (mid ++ [last]),
        (g.segment nsapi npduNr trailer).payload.length = g.data.length := fun g hg => by
      rw [payload_segment npduNr trailer g hns (hfits g hg)]
    have hheldsum : (((mid.take a).reverse ++ [first]).map fun g =>
        (g.segment nsapi npduNr trailer).payload.length).sum =
          first.data.length + ((mid.take a).map fun g => g.data.length).sum := by
      rw [(hheld.map _).sum_eq, map_cons, sum_cons, hpayload first (by simp)]
      congr 2
      exact map_congr_left fun g hg => hpayload g (by simp [mem_of_mem_take hg])
    rw [hheldsum, hpayload last (by simp)] at hlen
    -- the fragment after the `a` ones is left out, and it is not empty
    have hsum := h.le_sum hn hmsg (i := a + 1) (m := 1) (by omega) (by omega)
      (by simp only [length_cons, length_append, length_nil]; omega)
    rw [drop_succ_cons, drop_append_of_le_length (by omega),
      take_append_of_le_length (by rw [length_drop]; omega)] at hsum
    have hsplitsum := congrArg sum (congrArg (map fun g : Fragment => g.data.length)
      (take_append_drop a mid))
    have hdropsum := congrArg sum (congrArg (map fun g : Fragment => g.data.length)
      (take_append_drop 1 (mid.drop a)))
    rw [map_append, sum_append] at hsplitsum hdropsum
    omega

/-! ## The round trip -/

theorem Fragments.length_le_fifteen_iff {n201u : Nat} {msg : List Octet} {gs : List Fragment}
    (h : Fragments n201u 0 msg gs) (hn : 4 ≤ n201u) (hlong : ¬ msg.length ≤ n201u - 4) :
    gs.length ≤ 15 ↔ msg.length ≤ (n201u - 4) + 14 * (n201u - 3) := by
  have hmax : maxPayloadLen n201u 0 = n201u - 4 := rfl
  cases h with
  | last hle => exact absurd hle hlong
  | more hlt hgs =>
    have hiff := hgs.length_le_iff (m := 13) hn (by decide) (by decide)
    rw [length_drop, hmax] at hiff
    rw [length_cons]
    omega

theorem deliveries_map_frame (es : GprsSndcpEntities) (lle nsapi npduNr : Nat) (trailer : List Octet)
    (gs : List Fragment) : deliveries es lle trailer (gs.map fun g => g.frame nsapi npduNr) =
      (receiveAll ⟨es, [], []⟩ lle (gs.map (segment nsapi npduNr trailer))).delivered := by
  rw [deliveries, map_map]
  rfl

/-- One frame comes through when it holds an octet and nothing follows it. -/
theorem deliveries_single {es : GprsSndcpEntities} {lle nsapi npduNr n201u : Nat} {trailer msg : List Octet}
    {sne : GprsSndcpEntity} (hrecv : gprsSndcpEntityByLle es lle nsapi = some sne) (hns : nsapi < 16)
    (hmax : n201u < 65536) (hn : 4 ≤ n201u) (hshort : msg.length ≤ n201u - 4) :
    deliveries es lle trailer [frame ⟨0, false, msg⟩ nsapi npduNr] = [⟨lle, nsapi, msg⟩] ↔ msg ≠ [] ∧ trailer = [] := by
  have hfit : (frame ⟨0, false, msg⟩ nsapi npduNr).length < 65536 := by
    rw [length_frame, if_pos rfl]
    show 4 + msg.length < 65536
    omega
  have hrecv' : Receives ⟨es, [], []⟩ lle nsapi sne.defrag := ⟨sne, hrecv, rfl⟩
  have hdel := hrecv'.unsegmented trailer (g := ⟨0, false, msg⟩) hns hfit rfl rfl
  have hone : deliveries es lle trailer [frame ⟨0, false, msg⟩ nsapi npduNr] =
      (sndcpTraceStep ⟨es, [], []⟩
        (.unitdata ⟨lle, segment nsapi npduNr trailer ⟨0, false, msg⟩⟩)).delivered := rfl
  rw [hone, hdel, nil_append]
  by_cases hnil : msg ++ trailer = []
  · obtain ⟨rfl, rfl⟩ := append_eq_nil_iff.mp hnil
    simp
  · rw [if_neg hnil]
    constructor
    · intro heq
      have htrailer : trailer = [] := by simpa using heq
      refine ⟨?_, htrailer⟩
      rintro rfl
      exact hnil htrailer
    · rintro ⟨-, rfl⟩
      rw [append_nil]

theorem deliveries_few {es : GprsSndcpEntities} {lle nsapi npduNr : Nat} {trailer msg : List Octet}
    {sne : GprsSndcpEntity} {gs : List Fragment} (hrecv : gprsSndcpEntityByLle es lle nsapi = some sne)
    (hns : nsapi < 16) (h : FewFragments (g :: gs) nsapi npduNr msg) (hgs : gs ≠ []) (hl : l.Perm gs) :
    deliveries es lle trailer ((g :: l).map fun g => g.frame nsapi npduNr) = [⟨lle, nsapi, msg⟩] := by
  have hnrs := h.fragNrs
  rw [map_cons, length_cons, range_succ_eq_map] at hnrs
  obtain ⟨hnr, htail⟩ := cons_eq_cons.mp hnrs
  have hmore : g.more = true := by
    rw [h.more g mem_cons_self, hnr, length_cons]
    exact decide_eq_true (by have := length_pos_of_ne_nil hgs; omega)
  have hrecv' : Receives ⟨es, [], []⟩ lle nsapi sne.defrag := ⟨sne, hrecv, rfl⟩
  obtain ⟨d, hrecv₁, hasm, hdel⟩ := hrecv'.assembling_first trailer hns
    (h.fits g mem_cons_self) hnr hmore
  rw [deliveries_map_frame, map_cons, receiveAll_cons]
  have hrest := h.delivered hns l (fun hnil => hgs (hnil ▸ hl).nil_eq.symm)
    ((perm_append_singleton g l).trans (hl.cons g)) (fun k hk hzero => ?_) hrecv₁ hasm
  · rw [hrest, hdel]
    rfl
  · have hmem : k.fragNr ∈ gs.map fragNr := mem_map_of_mem (hl.mem_iff.mp hk)
    rw [htail, hzero] at hmem
    simp at hmem

section Sent

variable {txUi : List Octet → Int} {n201u : Nat} {es es' : GprsSndcpEntities} {lle lle' nsapi : Nat}
  {sne sne' : GprsSndcpEntity} {msg trailer : List Octet}

section

variable (htx : ∀ frame, 0 ≤ txUi frame) (hn : 4 ≤ n201u) (hmax : n201u < 65536) (hns : nsapi < 16)
    (hsend : gprsSndcpEntityByLle es lle nsapi = some sne) (hrecv : gprsSndcpEntityByLle es' lle' nsapi = some sne')

include htx hn hmax hns hsend hrecv

theorem roundTrips_single_iff (hshort : msg.length ≤ n201u - 4) :
    RoundTrips (sndcpUnitdataReq txUi es lle nsapi n201u msg).2.1 es' lle' nsapi trailer msg ↔
      msg ≠ [] ∧ trailer = [] := by
  have hframes : (sndcpUnitdataReq txUi es lle nsapi n201u msg).2.1 =
      [frame ⟨0, false, msg⟩ nsapi sne.txNpduNr] := by
    simp [sndcpUnitdataReq, hsend, not_lt.mpr hshort, htx]
  rw [hframes, ← deliveries_single hrecv hns hmax hn hshort]
  constructor
  · rintro ⟨first, rest, heq, hall⟩
    obtain ⟨rfl, rfl⟩ := cons_eq_cons.mp heq
    exact hall [] (.refl _)
  · intro hdel
    refine ⟨_, _, rfl, fun rest' hperm => ?_⟩
    rw [hperm.eq_nil]
    exact hdel

theorem roundTrips_fragmented_iff (htr : trailer.length ≤ 3)
    (hlong : ¬ msg.length ≤ n201u - 4) :
    RoundTrips (sndcpUnitdataReq txUi es lle nsapi n201u msg).2.1 es' lle' nsapi trailer msg ↔
      msg.length ≤ (n201u - 4) + 14 * (n201u - 3) := by
  obtain ⟨gs, hgs, hsent⟩ := sndcpSendFrags_eq htx hn sne ⟨0, msg⟩
  have hnsapi : sne.nsapi = nsapi := congrArg Prod.snd (Table.key_of_find? hsend)
  have hframes : (sndcpUnitdataReq txUi es lle nsapi n201u msg).2.1 = gs.map fun g => g.frame nsapi sne.txNpduNr := by
    rw [hnsapi] at hsent
    simp [sndcpUnitdataReq, hsend, hn, not_le.mp hlong, hsent]
  have h2 : 2 ≤ gs.length := by
    cases hgs with
    | last hle => exact absurd hle hlong
    | more hlt hgs' =>
      have := length_pos_of_ne_nil hgs'.ne_nil
      rw [length_cons]
      omega
  rw [hframes, ← hgs.length_le_fifteen_iff hn hlong]
  constructor
  · rintro ⟨first, rest, heq, hall⟩
    by_contra hmany
    -- one order of arrival delivers something too short first
    have hrecv' : Receives ⟨es', [], []⟩ lle' nsapi sne'.defrag := ⟨sne', hrecv, rfl⟩
    obtain ⟨g, l, l', npdu, rfl, hperm, hlen, hprefix⟩ :=
      exists_short_delivery sne.txNpduNr hgs hn hmax hns (not_le.mp hmany) htr hrecv'
    obtain ⟨rfl, rfl⟩ := cons_eq_cons.mp heq
    have hdel := hall (l'.map fun g => g.frame nsapi sne.txNpduNr) (hperm.map _)
    have hseen := deliveries_map_frame es' lle' nsapi sne.txNpduNr trailer (g :: l')
    rw [map_cons, hdel] at hseen
    rw [← hseen, nil_append, cons_prefix_cons] at hprefix
    have hsame : npdu = msg := congrArg Delivered.npdu hprefix.1
    rw [hsame] at hlen
    exact lt_irrefl _ hlen
  · intro hfew
    obtain ⟨g, l, rfl⟩ := exists_cons_of_ne_nil hgs.ne_nil
    refine ⟨_, _, rfl, fun rest' hperm => ?_⟩
    obtain ⟨l', hrest', hl'⟩ : ∃ l' : List Fragment,
        rest' = l'.map (fun g => g.frame nsapi sne.txNpduNr) ∧ l'.Perm l := by
      have hcomp := eq_map_comp_perm fun g : Fragment => g.frame nsapi sne.txNpduNr
      exact (congrFun (congrFun hcomp rest') l).mpr hperm
    rw [hrest']
    refine deliveries_few hrecv hns (hgs.few hn hmax hfew) ?_ hl'
    rintro rfl
    simp at h2

end

/-- **Which N-PDUs survive fragmentation.** For every N-PDU, every N201-U with room for a header, whatever the
    sender's N-PDU number and whatever the receiver held before: the frames sent for the N-PDU, the first one
    first and the others in any order, make the receiver deliver exactly this N-PDU if and only if it fits at
    most fifteen fragments or, as a single one, holds an octet and is followed by nothing. -/
theorem roundTrips_iff (htx : ∀ frame, 0 ≤ txUi frame) (hn : 4 ≤ n201u) (hmax : n201u < 65536)
    (hns : nsapi < 16) (hsend : gprsSndcpEntityByLle es lle nsapi = some sne)
    (hrecv : gprsSndcpEntityByLle es' lle' nsapi = some sne') (htr : trailer.length ≤ 3) :
    RoundTrips (sndcpUnitdataReq txUi es lle nsapi n201u msg).2.1 es' lle' nsapi trailer msg ↔
      SegmentNumbersSuffice n201u msg trailer := by
  rw [SegmentNumbersSuffice]
  by_cases hshort : msg.length ≤ n201u - 4
  · rw [if_pos hshort]
    exact roundTrips_single_iff htx hn hmax hns hsend hrecv hshort
  · rw [if_neg hshort]
    exact roundTrips_fragmented_iff htx hn hmax hns hsend hrecv htr hshort

end Sent

/-! ## Fourteen octets and fifteen, one to a frame -/

/-- One entity that was just activated. -/
def oneEntity : GprsSndcpEntities := ⟨[{ lle := 1, nsapi := 5 }], by decide⟩

/-- Frames of four octets have room for one octet of data after the first: 14 octets take 15 frames. -/
theorem roundTrips_fourteen :
    RoundTrips (sndcpUnitdataReq (fun _ => 0) oneEntity 1 5 4 (replicate 14 0xaa)).2.1 oneEntity 1 5
      [0, 0, 0] (replicate 14 0xaa) :=
  (roundTrips_iff (fun _ => Int.le_refl 0) (by decide) (by decide) (by decide) rfl rfl (by decide)).mpr
    (by simp [SegmentNumbersSuffice])

/-- The sixteenth frame of 15 octets is taken for the first one again. -/
theorem roundTrips_fifteen_fails :
    ¬ RoundTrips (sndcpUnitdataReq (fun _ => 0) oneEntity 1 5 4 (replicate 15 0xaa)).2.1 oneEntity 1 5
      [0, 0, 0] (replicate 15 0xaa) := by
  rw [roundTrips_fragmented_iff (fun _ => Int.le_refl 0) (by decide) (by decide) (by decide) rfl rfl (by decide)
    (by simp)]
  simp

end OpenBsc.Sndcp
