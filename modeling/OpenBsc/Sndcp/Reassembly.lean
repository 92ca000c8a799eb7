import OpenBsc.Sndcp.Defrag

/-!
# `Sndcp.Reassembly` — integrity of reassembled N-PDUs

The runs of all entities together: entities are activated and deactivated, and segments are received on
any LLC entity in any order, lost, repeated or interleaved. `Intact` says of a state that every N-PDU
delivered so far was assembled from received segments, in order and without gaps, and that no received
segment went into two of them.

The receiver does not compare the N-PDU number of a segment with the one it is assembling, queues a
segment number it already has, and passes the octets behind an unsegmented SN-PDU up with it. A segment
none of this applies to `Fits`, and `intact_of_fitting` is the invariant of the runs of such segments.
-/

namespace OpenBsc.Sndcp

open Transition SndcpOutcome Table List

/-! ## Specification -/

/-- The received segments with the given numbers. -/
def segments (received : List Received) (srcs : List Nat) : List Received :=
  srcs.filterMap fun i => received[i]?

/-- The N-PDU `d` was assembled from the segments that were received `srcs`-th: all of one N-PDU number on
    its own entity, with the segment numbers from 0 to the last in order, and its octets are theirs. -/
structure AssembledFrom (received : List Received) (d : Delivered) (srcs : List Nat) : Prop where
  valid : ∀ i ∈ srcs, i < received.length
  nonempty : srcs ≠ []
  entity : ∀ r ∈ segments received srcs, r.lle = d.lle ∧ r.pdu.sch.nsapi = d.nsapi
  number : ∃ num, ∀ r ∈ segments received srcs, r.pdu.suh.npduNum = num
  inOrder : ((segments received srcs).map fun r => r.pdu.suh.segNr) = List.range srcs.length
  octets : d.npdu = ((segments received srcs).map fun r => r.pdu.payload).flatten
  length : d.npdu.length = ((segments received srcs).map fun r => r.pdu.payload.length).sum

/-- Every delivered N-PDU was assembled from received segments, and no segment was used twice. -/
def Intact (st : SndcpTrace) : Prop :=
  ∃ srcs : List (List Nat), List.Forall₂ (AssembledFrom st.received) st.delivered srcs ∧ srcs.flatten.Nodup

/-- A segmented SN-PDU fits the defragmentation state: it is a first segment, or it carries the current
    N-PDU number and a segment number that is not there yet, or the N-PDU was delivered already and it is
    one of its later segments again. -/
def SegmentFits (d : DefragState) (pdu : LlUnitdata) : Prop :=
  pdu.sch.first = true ∨
    (pdu.suh.npduNum = d.npdu ∧ d.segHave.testBit pdu.suh.segNr = false) ∨
    (d.segHave.testBit 0 = true ∧ (∀ e ∈ d.fragList, e.segNr ≠ 0) ∧ pdu.suh.segNr ≠ 0)

/-- An unsegmented SN-PDU fits when nothing follows it in the message and its segment number is 0, or
    when it is going to be rejected. -/
def UnsegmentedFits (pdu : LlUnitdata) : Prop :=
  (pdu.octets.length = pdu.len ∧ pdu.suh.segNr = 0) ∨ pdu.octets.length ≤ pdu.dataOffset ∨
    (SndcpCompHdr.read pdu.octets).pcomp ≠ 0 ∨ (SndcpCompHdr.read pdu.octets).dcomp ≠ 0

/-- A segment fits the entity it is for; one that no entity takes fits anyway. -/
def Fits (st : SndcpTrace) : SndcpEvent → Prop
  | .unitdata r => ∀ sne, gprsSndcpEntityByLle st.entities r.lle r.pdu.sch.nsapi = some sne →
      r.pdu.sch.type = true → 3 ≤ r.pdu.len →
      if r.pdu.sch.first = false ∨ r.pdu.sch.more = true then SegmentFits sne.defrag r.pdu
      else UnsegmentedFits r.pdu
  | _ => True

instance (d : DefragState) (pdu : LlUnitdata) : Decidable (SegmentFits d pdu) :=
  inferInstanceAs (Decidable (_ ∨ _))

instance (pdu : LlUnitdata) : Decidable (UnsegmentedFits pdu) :=
  inferInstanceAs (Decidable (_ ∨ _))

instance (st : SndcpTrace) (ev : SndcpEvent) : Decidable (Fits st ev) :=
  match ev with
  | .activate _ _ => isTrue trivial
  | .deactivate _ _ => isTrue trivial
  | .unitdata r => inferInstanceAs (Decidable (∀ sne ∈ gprsSndcpEntityByLle st.entities r.lle r.pdu.sch.nsapi,
      r.pdu.sch.type = true → 3 ≤ r.pdu.len →
      if r.pdu.sch.first = false ∨ r.pdu.sch.more = true then SegmentFits sne.defrag r.pdu
      else UnsegmentedFits r.pdu))

/-! ## Segments received so far -/

variable {received : List Received}

theorem segments_append {srcs : List Nat} (r : Received) (h : ∀ i ∈ srcs, i < received.length) :
    segments (received ++ [r]) srcs = segments received srcs := by
  unfold segments
  refine filterMap_congr fun i hi => ?_
  rw [getElem?_append_left (h i hi)]

/-- Later segments change nothing about how an N-PDU was assembled. -/
theorem AssembledFrom.append {d : Delivered} {srcs : List Nat} (h : AssembledFrom received d srcs) (r : Received) :
    AssembledFrom (received ++ [r]) d srcs := by
  have hseg := segments_append r h.valid
  exact {
    valid := fun i hi => by
      have := h.valid i hi
      rw [length_append]
      omega
    nonempty := h.nonempty
    entity := hseg.symm ▸ h.entity
    number := hseg.symm ▸ h.number
    inOrder := hseg.symm ▸ h.inOrder
    octets := hseg.symm ▸ h.octets
    length := hseg.symm ▸ h.length }

/-- Segments that carry their numbers along are the ones with these numbers. -/
theorem segments_of_tagged {l : List (Nat × Received)} (h : ∀ t ∈ l, received[t.1]? = some t.2) :
    segments received (l.map Prod.fst) = l.map Prod.snd := by
  induction l with
  | nil => rfl
  | cons t l ih =>
    rw [map_cons, map_cons, ← ih fun t' ht' => h t' (mem_cons_of_mem t ht')]
    exact filterMap_cons_some (h t mem_cons_self)

theorem lt_of_tagged {t : Nat × Received} (h : received[t.1]? = some t.2) : t.1 < received.length :=
  (List.getElem?_eq_some_iff.mp h).1

/-! ## The two phases of an entity -/

/-- The entity with this key is collecting: its queue holds the segments `l` of one N-PDU, and no N-PDU was
    made of them yet. -/
structure Collecting (received : List Received) (used : List Nat) (key : Nat × Nat) (d : DefragState)
    (l : List (Nat × Received)) : Prop where
  holds : Holds (fun t : Nat × Received => t.2.pdu) d l
  source : ∀ t ∈ l, received[t.1]? = some t.2
  entity : ∀ t ∈ l, (t.2.lle, t.2.pdu.sch.nsapi) = key
  number : ∀ t ∈ l, t.2.pdu.suh.npduNum = d.npdu
  distinct : (l.map Prod.fst).Nodup
  unused : ∀ t ∈ l, t.1 ∉ used

/-- The entity has delivered its N-PDU: segment 0 is marked and no longer queued. -/
def Drained (d : DefragState) : Prop := d.segHave.testBit 0 = true ∧ ∀ e ∈ d.fragList, e.segNr ≠ 0

/-- The invariant of one entity. -/
def EntityInv (received : List Received) (used : List Nat) (key : Nat × Nat) (d : DefragState) : Prop :=
  (∃ l, Collecting received used key d l) ∨ Drained d

/-- The invariant of a run; `srcs` are the segments that went into the delivered N-PDUs. -/
structure ReassemblyInv (st : SndcpTrace) (srcs : List (List Nat)) : Prop where
  assembled : List.Forall₂ (AssembledFrom st.received) st.delivered srcs
  nodup : srcs.flatten.Nodup
  entities : ∀ key sne, st.entities.find? key = some sne → EntityInv st.received srcs.flatten key sne.defrag

/-- An entity that dropped its queue is collecting the N-PDU it was given, from nothing. -/
theorem collecting_reset (received : List Received) (used : List Nat) (key : Nat × Nat) (npdu : Nat) :
    Collecting received used key (defragReset npdu) [] :=
  ⟨holds_reset _ npdu, by simp, by simp, by simp, nodup_nil, by simp⟩

variable {received : List Received} {used : List Nat} {key : Nat × Nat} {d : DefragState}
  {l : List (Nat × Received)}

variable {r : Received}

/-- The segment kept in reserve, of the current N-PDU and with a segment number not there yet, joins the
    collection. -/
theorem Collecting.enqueue {i : Nat} (h : Collecting received (i :: used) key d l) (hsrc : received[i]? = some r)
    (hkey : (r.lle, r.pdu.sch.nsapi) = key) (hnum : r.pdu.suh.npduNum = d.npdu) (hunused : i ∉ used)
    (hseg : d.segHave.testBit r.pdu.suh.segNr = false) :
    Collecting received used key (defragQueued d r.pdu) ((i, r) :: l) := by
  refine ⟨h.holds.queued (t := (i, r)) hseg, ?_, ?_, ?_, ?_, ?_⟩
  · simpa using ⟨hsrc, fun a b hab => h.source (a, b) hab⟩
  · simpa using ⟨hkey, fun a b hab => h.entity (a, b) hab⟩
  · simpa using ⟨hnum, fun a b hab => h.number (a, b) hab⟩
  · rw [map_cons, nodup_cons]
    refine ⟨fun hmem => ?_, h.distinct⟩
    obtain ⟨t, ht, hi⟩ := mem_map.mp hmem
    exact h.unused t ht (hi ▸ mem_cons_self)
  · intro t ht
    rcases mem_cons.mp ht with rfl | ht
    · exact hunused
    · exact fun hmem => h.unused t ht (mem_cons_of_mem i hmem)

/-- When the mask is full, the collected segments are delivered in order and the entity is drained. -/
theorem Collecting.deliver (h : Collecting received used key d l) (hall : defragHaveAllSegments d = true) :
    ∃ npdu srcs, defragSegments d = ({ d with fragList := [] }, .udInd npdu) ∧
      srcs.Nodup ∧ (∀ i ∈ srcs, i ∉ used) ∧ AssembledFrom received ⟨key.1, key.2, npdu⟩ srcs ∧
      Drained { d with fragList := [] } := by
  obtain ⟨taken, htp, hs, hd⟩ := h.holds.segments hall
  have hsrc : ∀ t ∈ taken, received[t.1]? = some t.2 := fun t ht => h.source t (htp.mem_iff.mp ht)
  have hsegs := segments_of_tagged hsrc
  have hlen : taken.length = d.highestSeg + 1 := by
    simpa using congrArg length hs
  refine ⟨_, taken.map Prod.fst, hd, (htp.map Prod.fst).nodup_iff.mpr h.distinct, ?_, ?_, ?_, by simp⟩
  · intro i hi
    obtain ⟨t, ht, rfl⟩ := mem_map.mp hi
    exact h.unused t (htp.mem_iff.mp ht)
  · refine ⟨?_, ?_, ?_, ⟨d.npdu, ?_⟩, ?_, ?_, ?_⟩
    · intro i hi
      obtain ⟨t, ht, rfl⟩ := mem_map.mp hi
      exact lt_of_tagged (hsrc t ht)
    · intro hnil
      have := congrArg length hnil
      simp [hlen] at this
    · intro r hr
      rw [hsegs] at hr
      obtain ⟨t, ht, rfl⟩ := mem_map.mp hr
      exact Prod.mk.inj (h.entity t (htp.mem_iff.mp ht))
    · intro r hr
      rw [hsegs] at hr
      obtain ⟨t, ht, rfl⟩ := mem_map.mp hr
      exact h.number t (htp.mem_iff.mp ht)
    · rw [hsegs, map_map, length_map, hlen]
      exact hs
    · rw [hsegs, map_map]
      rfl
    · rw [hsegs, map_map, length_flatten, map_map]
      rfl
  · show d.segHave.testBit 0 = true
    rw [← eq_of_beq hall, Bitmask.testBit_below]
    exact decide_eq_true (by omega)

/-! ## One step of an entity -/

/-- What one call of `defrag_input` owes: what it delivers was assembled from segments not used before and
    leaves the entity drained; otherwise the entity keeps its invariant. -/
def StepKeeps (received : List Received) (used : List Nat) (key : Nat × Nat)
    (res : DefragState × SndcpOutcome) : Prop :=
  match res.2 with
  | .udInd npdu => ∃ srcs : List Nat, srcs.Nodup ∧ (∀ i ∈ srcs, i ∉ used) ∧
      AssembledFrom received ⟨key.1, key.2, npdu⟩ srcs ∧ Drained res.1
  | _ => EntityInv received used key res.1

/-- Fewer segments that must not be used leave an entity its invariant. -/
theorem EntityInv.mono (h : EntityInv received used key d) {used' : List Nat}
    (hsub : ∀ i ∈ used', i ∈ used) : EntityInv received used' key d := by
  rcases h with ⟨l, hl⟩ | hdrained
  · exact .inl ⟨l, { hl with unused := fun t ht hmem => hl.unused t ht (hsub _ hmem) }⟩
  · exact .inr hdrained

/-- A collecting entity keeps collecting, or delivers when this was the last segment missing. -/
theorem defragStore_collecting {i : Nat} (h : Collecting received (i :: used) key d l) (hlen : 3 ≤ r.pdu.len)
    (hsrc : received[i]? = some r) (hkey : (r.lle, r.pdu.sch.nsapi) = key) (hnum : r.pdu.suh.npduNum = d.npdu)
    (hunused : i ∉ used) (hseg : d.segHave.testBit r.pdu.suh.segNr = false) :
    StepKeeps received used key (defragStore d r.pdu) := by
  by_cases ho : r.pdu.dataOffset ≤ r.pdu.len
  · have henq := h.enqueue hsrc hkey hnum hunused hseg
    rw [defragStore_pdu ho, defragCheck]
    by_cases hall : ((defragQueued d r.pdu).noMore && defragHaveAllSegments (defragQueued d r.pdu)) = true
    · obtain ⟨npdu, srcs, hd, hnodup, hfree, hasm, hdrained⟩ := henq.deliver (Bool.and_eq_true_iff.mp hall).2
      rw [if_pos hall, hd]
      exact ⟨srcs, hnodup, hfree, hasm, hdrained⟩
    · rw [if_neg hall]
      exact .inl ⟨_, henq⟩
  · rw [defragStore_short hlen ho]
    exact EntityInv.mono (.inl ⟨l, h⟩) fun _ => mem_cons_of_mem i

/-- A drained entity stays drained and delivers nothing, as long as no segment 0 is queued again. -/
theorem defragStore_drained (h : Drained d) {pdu : LlUnitdata} (hlen : 3 ≤ pdu.len)
    (hseg : pdu.suh.segNr ≠ 0) : StepKeeps received used key (defragStore d pdu) := by
  by_cases ho : pdu.dataOffset ≤ pdu.len
  · have hmissing : ∀ e ∈ (defragQueued d pdu).fragList, e.segNr ≠ 0 := by
      intro e he
      rcases mem_cons.mp he with rfl | he
      · exact hseg
      · exact h.2 e he
    have hdrained : Drained (defragQueued d pdu) := by
      refine ⟨?_, hmissing⟩
      show (Bitmask.set d.segHave pdu.suh.segNr).testBit 0 = true
      rw [Bitmask.testBit_set, h.1]
      rfl
    rw [defragStore_pdu ho, defragCheck, defragSegments_missing hmissing]
    split
    · exact .inr hdrained
    · exact .inr hdrained
  · rw [defragStore_short hlen ho]
    exact .inr h

/-- **A segment that fits keeps the invariant of its entity.** A first segment starts the collection anew;
    any other one joins it, or comes too late and is never handed up. -/
theorem defragInput_keeps {i : Nat} (h : EntityInv received (i :: used) key d) (hlen : 3 ≤ r.pdu.len)
    (hsrc : received[i]? = some r) (hkey : (r.lle, r.pdu.sch.nsapi) = key) (hunused : i ∉ used)
    (hfits : SegmentFits d r.pdu) : StepKeeps received used key (defragInput d r.pdu) := by
  unfold defragInput
  by_cases hfirst : r.pdu.sch.first = true
  · rw [if_pos hfirst]
    exact defragStore_collecting (collecting_reset received (i :: used) key r.pdu.suh.npduNum) hlen hsrc hkey
      rfl hunused (Nat.zero_testBit _)
  · rw [if_neg hfirst]
    rcases hfits with hf | ⟨hnum, hseg⟩ | ⟨hbit, hqueue, hseg⟩
    · exact absurd hf hfirst
    · rcases h with ⟨l, hl⟩ | hdrained
      · exact defragStore_collecting hl hlen hsrc hkey hnum hunused hseg
      · refine defragStore_drained hdrained hlen fun hz => ?_
        rw [hz, hdrained.1] at hseg
        cases hseg
    · exact defragStore_drained ⟨hbit, hqueue⟩ hlen hseg

/-! ## One step of the layer -/

/-- The segment received next is nobody's yet: it is kept in reserve. -/
theorem EntityInv.append (h : EntityInv received used key d) (r : Received) :
    EntityInv (received ++ [r]) (received.length :: used) key d := by
  rcases h with ⟨l, hl⟩ | hdrained
  · refine .inl ⟨l, { hl with source := fun t ht => ?_, unused := fun t ht hmem => ?_ }⟩
    · rw [getElem?_append_left (lt_of_tagged (hl.source t ht))]
      exact hl.source t ht
    · rcases mem_cons.mp hmem with heq | hmem
      · have := lt_of_tagged (hl.source t ht)
        omega
      · exact hl.unused t ht hmem
  · exact .inr hdrained

theorem EntityInv.use (h : EntityInv received used key d) {srcs : List Nat}
    (hfree : ∀ l, Collecting received used key d l → ∀ t ∈ l, t.1 ∉ srcs) :
    EntityInv received (used ++ srcs) key d := by
  rcases h with ⟨l, hl⟩ | hdrained
  · refine .inl ⟨l, { hl with unused := fun t ht hmem => ?_ }⟩
    rcases mem_append.mp hmem with hm | hm
    · exact hl.unused t ht hm
    · exact hfree l hl t ht hm
  · exact .inr hdrained

/-- What was assembled for one entity holds nothing of what another one is collecting. -/
theorem Collecting.not_mem_of_ne {key' : Nat × Nat} (h : Collecting received used key d l) {npdu : List Octet}
    {srcs : List Nat} (hasm : AssembledFrom received ⟨key'.1, key'.2, npdu⟩ srcs) (hne : key ≠ key') :
    ∀ t ∈ l, t.1 ∉ srcs := by
  intro t ht hmem
  have hr : t.2 ∈ segments received srcs := mem_filterMap.mpr ⟨t.1, hmem, h.source t ht⟩
  obtain ⟨hlle, hnsapi⟩ := hasm.entity t.2 hr
  exact hne (by rw [← h.entity t ht, hlle, hnsapi])

variable {srcs : List (List Nat)}

theorem used_lt {delivered : List Delivered} (h : List.Forall₂ (AssembledFrom received) delivered srcs) :
    ∀ i ∈ srcs.flatten, i < received.length := by
  intro i hi
  induction h with
  | nil => simp at hi
  | cons hd _ ih =>
    rw [flatten_cons, mem_append] at hi
    rcases hi with hi | hi
    · exact hd.valid i hi
    · exact ih hi

variable {st : SndcpTrace}

theorem ReassemblyInv.receive (h : ReassemblyInv st srcs) (r : Received) :
    ReassemblyInv { st with received := st.received ++ [r] } srcs where
  assembled := h.assembled.imp fun _ _ hd => hd.append r
  nodup := h.nodup
  entities key sne hfind := ((h.entities key sne hfind).append r).mono fun _ => mem_cons_of_mem _

theorem ReassemblyInv.setEntity (h : ReassemblyInv st srcs) {sne : GprsSndcpEntity} {defrag : DefragState}
    {key : Nat × Nat} (hfind : st.entities.find? key = some sne)
    (hinv : EntityInv st.received srcs.flatten key defrag) :
    ReassemblyInv { st with entities := st.entities.set { sne with defrag := defrag } } srcs where
  assembled := h.assembled
  nodup := h.nodup
  entities key' sne' hfind' := by
    rw [find?_setDefrag hfind] at hfind'
    by_cases hk : key' = key
    · rw [if_pos hk] at hfind'
      cases hfind'
      exact hk ▸ hinv
    · rw [if_neg hk] at hfind'
      exact h.entities key' sne' hfind'

/-- A delivery from segments that were not used before and that no entity goes on collecting. -/
theorem ReassemblyInv.deliver (h : ReassemblyInv st srcs) {d : Delivered} {new : List Nat}
    (hasm : AssembledFrom st.received d new) (hnodup : new.Nodup) (hunused : ∀ i ∈ new, i ∉ srcs.flatten)
    (hentities : ∀ key sne, st.entities.find? key = some sne →
      EntityInv st.received (srcs.flatten ++ new) key sne.defrag) :
    ReassemblyInv { st with delivered := st.delivered ++ [d] } (srcs ++ [new]) where
  assembled := rel_append h.assembled (.cons hasm .nil)
  nodup := by
    rw [flatten_append, flatten_singleton, nodup_append]
    refine ⟨h.nodup, hnodup, fun a ha b hb hab => ?_⟩
    exact hunused b hb (hab ▸ ha)
  entities key sne hfind := by
    rw [flatten_append, flatten_singleton]
    exact hentities key sne hfind

theorem entityInv_fresh (received : List Received) (used : List Nat) (key : Nat × Nat) :
    EntityInv received used key {} := .inl ⟨[], collecting_reset received used key 0⟩

theorem reassemblyInv_activate (h : ReassemblyInv st srcs) (lle nsapi : Nat) :
    ReassemblyInv (sndcpTraceStep st (.activate lle nsapi)) srcs where
  assembled := h.assembled
  nodup := h.nodup
  entities key sne hfind := by
    show EntityInv st.received _ key _
    replace hfind : ((sndcpSmActivateInd st.entities lle nsapi).getD st.entities).find? key = some sne := hfind
    cases ha : sndcpSmActivateInd st.entities lle nsapi with
    | none =>
      rw [ha] at hfind
      exact h.entities key sne hfind
    | some es =>
      rw [ha] at hfind
      replace hfind : es.find? key = some sne := hfind
      by_cases hk : key = (lle, nsapi)
      · have hself := find?_insert_self ha
        rw [hk] at hfind
        cases hfind.symm.trans hself
        exact entityInv_fresh _ _ _
      · rw [find?_insert_ne ha hk] at hfind
        exact h.entities key sne hfind

theorem reassemblyInv_deactivate (h : ReassemblyInv st srcs) (lle nsapi : Nat) :
    ReassemblyInv (sndcpTraceStep st (.deactivate lle nsapi)) srcs where
  assembled := h.assembled
  nodup := h.nodup
  entities key sne hfind := by
    show EntityInv st.received _ key _
    replace hfind : ((sndcpSmDeactivateInd st.entities lle nsapi).getD st.entities).find? key = some sne :=
      hfind
    unfold sndcpSmDeactivateInd at hfind
    cases hl : gprsSndcpEntityByLle st.entities lle nsapi with
    | none =>
      rw [hl] at hfind
      exact h.entities key sne hfind
    | some _ =>
      rw [hl] at hfind
      replace hfind : (st.entities.erase (lle, nsapi)).find? key = some sne := hfind
      by_cases hk : key = (lle, nsapi)
      · rw [hk, find?_erase_self] at hfind
        cases hfind
      · rw [find?_erase_ne hk] at hfind
        exact h.entities key sne hfind

theorem assembledFrom_unsegmented (hlen : r.pdu.octets.length = r.pdu.len) (hseg : r.pdu.suh.segNr = 0) :
    AssembledFrom (received ++ [r])
      ⟨r.lle, r.pdu.sch.nsapi, r.pdu.octets.drop r.pdu.dataOffset⟩ [received.length] := by
  have hsegs : segments (received ++ [r]) [received.length] = [r] := by
    simp [segments]
  have hpayload : r.pdu.octets.drop r.pdu.dataOffset = r.pdu.payload := by
    rw [LlUnitdata.payload, take_of_length_le]
    rw [length_drop, hlen]
  refine ⟨by simp, by simp, ?_, ⟨r.pdu.suh.npduNum, ?_⟩, ?_, ?_, ?_⟩
  · rw [hsegs]
    simp
  · rw [hsegs]
    simp
  · rw [hsegs]
    simp [hseg]
  · rw [hsegs, hpayload]
    simp
  · rw [hsegs, hpayload]
    simp

theorem reassemblyInv_unitdata (h : ReassemblyInv st srcs) (hf : Fits st (.unitdata r)) :
    ∃ srcs', ReassemblyInv (sndcpTraceStep st (.unitdata r)) srcs' := by
  have hrecv := h.receive r
  have hunused : st.received.length ∉ srcs.flatten := fun hmem =>
    absurd (used_lt h.assembled _ hmem) (lt_irrefl _)
  -- nothing is delivered and no entity changes
  have hidle : ∀ errno, sndcpLlunitdataInd st.entities r.lle r.pdu = (st.entities, .error errno) →
      ∃ srcs', ReassemblyInv (sndcpTraceStep st (.unitdata r)) srcs' := by
    intro errno he
    refine ⟨srcs, ?_⟩
    simp only [sndcpTraceStep, he, delivered, append_nil]
    exact hrecv
  by_cases htype : r.pdu.sch.type = true
  swap
  · exact hidle einval (by simp [sndcpLlunitdataInd, htype])
  by_cases hlen : r.pdu.len < 3
  · exact hidle eio (by simp [sndcpLlunitdataInd, htype, hlen])
  cases hfind : gprsSndcpEntityByLle st.entities r.lle r.pdu.sch.nsapi with
  | none => exact hidle eio (by simp [sndcpLlunitdataInd, htype, hlen, hfind])
  | some sne =>
    have hfit := hf sne hfind htype (not_lt.mp hlen)
    by_cases hdefrag : r.pdu.sch.first = false ∨ r.pdu.sch.more = true
    · rw [if_pos hdefrag] at hfit
      have hkeeps := defragInput_keeps ((h.entities _ _ hfind).append r) (not_lt.mp hlen)
        getElem?_concat_length rfl hunused hfit
      simp only [sndcpTraceStep, sndcpLlunitdataInd_segmented htype (not_lt.mp hlen) hfind hdefrag]
      generalize defragInput sne.defrag r.pdu = res at hkeeps
      obtain ⟨defrag, outcome⟩ := res
      cases outcome with
      | error | queued =>
        refine ⟨srcs, ?_⟩
        simpa [delivered] using hrecv.setEntity hfind hkeeps
      | udInd npdu =>
        obtain ⟨new, hnodup, hfree, hasm, hdrained⟩ := hkeeps
        have hset := hrecv.setEntity hfind (.inr hdrained)
        refine ⟨srcs ++ [new], hset.deliver hasm hnodup hfree fun key sne' hfind' => ?_⟩
        -- the entity that delivered is drained, the others collect segments of their own
        by_cases hk : key = (r.lle, r.pdu.sch.nsapi)
        · replace hfind' : (st.entities.set { sne with defrag := defrag }).find? key = some sne' := hfind'
          rw [find?_setDefrag hfind, if_pos hk] at hfind'
          cases hfind'
          exact .inr hdrained
        · exact (hset.entities key sne' hfind').use fun l hl => hl.not_mem_of_ne hasm hk
    · rw [if_neg hdefrag] at hfit
      by_cases hcomp : (SndcpCompHdr.read r.pdu.octets).pcomp ≠ 0 ∨ (SndcpCompHdr.read r.pdu.octets).dcomp ≠ 0
      · exact hidle eio (by simp [sndcpLlunitdataInd, htype, hlen, hfind, hdefrag, hcomp])
      by_cases hshort : r.pdu.octets.length ≤ r.pdu.dataOffset
      · exact hidle eio (by simp [sndcpLlunitdataInd, htype, hlen, hfind, hdefrag, hcomp, hshort])
      · obtain ⟨hend, hseg⟩ : r.pdu.octets.length = r.pdu.len ∧ r.pdu.suh.segNr = 0 := by
          rcases hfit with hfit | hfit | hfit
          · exact hfit
          · exact absurd hfit hshort
          · exact absurd hfit hcomp
        have hstep : sndcpLlunitdataInd st.entities r.lle r.pdu =
            (st.entities, .udInd (r.pdu.octets.drop r.pdu.dataOffset)) := by
          simp [sndcpLlunitdataInd, htype, hlen, hfind, hdefrag, hcomp, hshort]
        simp only [sndcpTraceStep, hstep]
        refine ⟨srcs ++ [[st.received.length]], hrecv.deliver (assembledFrom_unsegmented hend hseg)
          (nodup_singleton _) (by simpa using hunused) fun key sne' hfind' => ?_⟩
        refine ((h.entities key sne' hfind').append r).mono fun i hi => ?_
        rcases mem_append.mp hi with hi | hi
        · exact mem_cons_of_mem _ hi
        · rw [mem_singleton.mp hi]
          exact mem_cons_self

/-! ## Whole runs -/

/-- **Reassembly keeps N-PDUs intact while every segment fits.** In every run of the SNDCP layer whose
    segments all fit the entity they are for, each N-PDU delivered so far consists of the octets of received
    segments of one N-PDU number, each segment number from 0 to the last once and in order, and no received
    segment went into two N-PDUs. -/
theorem intact_of_fitting {st : SndcpTrace} (h : ReachableBy sndcpSystem Fits st) : Intact st := by
  have hinv : ∃ srcs, ReassemblyInv st srcs := by
    refine ReachableBy.invariant (I := fun st => ∃ srcs, ReassemblyInv st srcs) ?_ ?_ h
    · rintro st rfl
      exact ⟨[], .nil, nodup_nil, fun key sne hfind => by simp [find?_empty] at hfind⟩
    · rintro st ev st' ⟨srcs, hinv⟩ hfits rfl
      cases ev with
      | activate lle nsapi => exact ⟨srcs, reassemblyInv_activate hinv lle nsapi⟩
      | deactivate lle nsapi => exact ⟨srcs, reassemblyInv_deactivate hinv lle nsapi⟩
      | unitdata r => exact reassemblyInv_unitdata hinv hfits
  obtain ⟨srcs, hinv⟩ := hinv
  exact ⟨srcs, hinv.assembled, hinv.nodup⟩

/-! ## Two segments, of one N-PDU and of two -/

/-- The first segment of N-PDU 1 on NSAPI 5, with one octet, and the last segment of N-PDU `num`. -/
def segmentFirst : Received := ⟨1, [0x75, 0x00, 0x00, 0x01, 0xaa], 5, by decide, by decide⟩

def segmentLast (num : Octet) : Received := ⟨1, [0x25, 0x10, num, 0xbb], 4, by simp, by decide⟩

/-- The run that receives these two segments on an entity that was just activated. -/
def twoSegments (num : Octet) : SndcpTrace :=
  [.activate 1 5, .unitdata segmentFirst, .unitdata (segmentLast num)].foldl sndcpTraceStep ⟨.empty, [], []⟩

/-- With the segments of one N-PDU the run stays intact. -/
theorem intact_twoSegments_same : Intact (twoSegments 1) :=
  intact_of_fitting (.step (.step (.step (.init rfl) (l := .activate 1 5) (by decide) rfl)
    (l := .unitdata segmentFirst) (by decide +kernel) rfl)
    (l := .unitdata (segmentLast 1)) (by decide +kernel) rfl)

theorem mem_received_of_mem_segments {srcs : List Nat} (h : r ∈ segments received srcs) : r ∈ received := by
  obtain ⟨i, -, hi⟩ := mem_filterMap.mp h
  exact mem_of_getElem? hi

/-- The last segment of N-PDU 2 completes N-PDU 1: what is delivered mixes the two. -/
theorem twoSegments_mixed_not_intact :
    ReachableBy sndcpSystem (fun _ _ => True) (twoSegments 2) ∧ ¬ Intact (twoSegments 2) := by
  refine ⟨.step (.step (.step (.init rfl) (l := .activate 1 5) trivial rfl)
    (l := .unitdata segmentFirst) trivial rfl) (l := .unitdata (segmentLast 2)) trivial rfl, ?_⟩
  rintro ⟨srcs, hasm, -⟩
  have hdelivered : (twoSegments 2).delivered = [⟨1, 5, [0xaa, 0xbb]⟩] := by decide +kernel
  have hreceived : (twoSegments 2).received = [segmentFirst, segmentLast 2] := rfl
  rw [hdelivered, hreceived] at hasm
  cases hasm with
  | cons hd _ =>
    obtain ⟨num, hnum⟩ := hd.number
    have hoctets : ([0xaa, 0xbb] : List Octet) = _ := hd.octets
    -- both segments are among the sources, since both octets were delivered
    have hsource : ∀ o ∈ ([0xaa, 0xbb] : List Octet),
        ∃ r ∈ [segmentFirst, segmentLast 2], r.pdu.suh.npduNum = num ∧ o ∈ r.pdu.payload := by
      intro o ho
      rw [hoctets] at ho
      obtain ⟨p, hp, hop⟩ := mem_flatten.mp ho
      obtain ⟨r, hr, rfl⟩ := mem_map.mp hp
      exact ⟨r, mem_received_of_mem_segments hr, hnum r hr, hop⟩
    have hone : num = 1 := by
      obtain ⟨r, hr, hn, ho⟩ := hsource 0xaa (by decide)
      rcases mem_pair.mp hr with rfl | rfl
      · exact hn.symm
      · exact absurd ho (by decide)
    have htwo : num = 2 := by
      obtain ⟨r, hr, hn, ho⟩ := hsource 0xbb (by decide)
      rcases mem_pair.mp hr with rfl | rfl
      · exact absurd ho (by decide)
      · exact hn.symm
    omega

end OpenBsc.Sndcp
