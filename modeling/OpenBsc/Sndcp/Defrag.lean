import Mathlib.Algebra.BigOperators.Group.List.Basic
import OpenBsc.Sndcp.Entity

/-!
# `Sndcp.Defrag` — what the defragmentation functions do

One lemma for each function of the receiver, over any queue. `defragCollect_of_perm` is the central one:
when the segment numbers in the queue are a rearrangement of the ones to be collected, the loop empties
the queue and puts the segments together in the order of their numbers. `Holds` is the state of a queue that
was filled with distinct segments; it is kept by queueing another one (`Holds.queued`), and a full one is
handed up in order (`Holds.segments`).
-/

namespace OpenBsc.Sndcp

open Bitmask List

/-! ## The user data of a segment -/

/-- The user data of an SN-PDU: what follows its header within its length. -/
def LlUnitdata.payload (pdu : LlUnitdata) : List Octet :=
  (pdu.octets.drop pdu.dataOffset).take (pdu.len - pdu.dataOffset)

theorem LlUnitdata.dataOffset_cases (pdu : LlUnitdata) :
    pdu.sch.first = true ∧ pdu.dataOffset = 4 ∨ pdu.sch.first = false ∧ pdu.dataOffset = 3 := by
  unfold dataOffset SndcpCommonHdr.suhOffset
  cases pdu.sch.first with
  | true => exact .inl ⟨rfl, rfl⟩
  | false => exact .inr ⟨rfl, rfl⟩

theorem LlUnitdata.length_payload (pdu : LlUnitdata) :
    pdu.payload.length = pdu.len - pdu.dataOffset := by
  have := pdu.len_le
  rw [payload, length_take, length_drop]
  omega

theorem LlUnitdata.length_payload_lt (pdu : LlUnitdata) : pdu.payload.length < 65536 := by
  have := pdu.len_lt
  rw [length_payload]
  omega

theorem LlUnitdata.segNr_lt (pdu : LlUnitdata) : pdu.suh.segNr < 16 :=
  SndcpUdataHdr.segNr_read_lt _ _

/-- The queue entry a segment becomes. -/
def LlUnitdata.entry (pdu : LlUnitdata) : DefragQueueEntry := ⟨pdu.suh.segNr, pdu.payload⟩

/-! ## Queueing a segment -/

/-- The state after a segment was queued, whatever is queued already. -/
def defragQueued (d : DefragState) (pdu : LlUnitdata) : DefragState where
  npdu := d.npdu
  highestSeg := if d.highestSeg < pdu.suh.segNr then pdu.suh.segNr else d.highestSeg
  segHave := Bitmask.set d.segHave pdu.suh.segNr
  noMore := !pdu.sch.more || d.noMore
  totLen := (d.totLen + pdu.payload.length) % 2 ^ 32
  fragList := pdu.entry :: d.fragList

variable {d : DefragState}

/-- A segment that holds its header is queued with its user data. -/
theorem defragStore_pdu {pdu : LlUnitdata} (h : pdu.dataOffset ≤ pdu.len) :
    defragStore d pdu = defragCheck (defragQueued d pdu) := by
  have hlt := pdu.len_lt
  have hlen : pdu.dataLen = pdu.len - pdu.dataOffset := if_pos h
  have hsmall : ¬ maxTallocSize ≤ pdu.dataLen := by
    rw [hlen, maxTallocSize]
    omega
  have henq : defragEnqueue d pdu.suh.segNr (pdu.octets.drop pdu.dataOffset) pdu.dataLen =
      some { defragQueued d pdu with noMore := d.noMore } := by
    have hdata : (pdu.octets.drop pdu.dataOffset).take pdu.dataLen = pdu.payload := by
      rw [hlen]
      rfl
    rw [defragEnqueue, if_neg hsmall, hdata, hlen, ← pdu.length_payload]
    rfl
  rw [defragStore, henq]
  rfl

/-- A first segment that ends inside its header asks for almost 2^32 octets and is not queued. -/
theorem defragStore_short {pdu : LlUnitdata} (h3 : 3 ≤ pdu.len) (h : ¬ pdu.dataOffset ≤ pdu.len) :
    defragStore d pdu = (d, .error enomem) := by
  have hlarge : maxTallocSize ≤ pdu.dataLen := by
    rw [LlUnitdata.dataLen, if_neg h, maxTallocSize]
    rcases pdu.dataOffset_cases with ⟨-, ho⟩ | ⟨-, ho⟩ <;> omega
  rw [defragStore, defragEnqueue, if_pos hlarge]

/-! ## Taking segments off the queue -/

variable {frags : List DefragQueueEntry}

/-- The entry found is taken out of its place in the queue. -/
theorem defragGetSeg_eq_some {segNr : Nat} {rest : List DefragQueueEntry} {dqe : DefragQueueEntry}
    (h : defragGetSeg segNr frags = some (dqe, rest)) :
    ∃ before after, frags = before ++ dqe :: after ∧ rest = before ++ after ∧ dqe.segNr = segNr := by
  induction frags generalizing rest with
  | nil => simp [defragGetSeg] at h
  | cons e frags ih =>
    rw [defragGetSeg] at h
    by_cases he : e.segNr = segNr
    · rw [if_pos he] at h
      cases h
      exact ⟨[], frags, rfl, rfl, he⟩
    · rw [if_neg he] at h
      obtain ⟨⟨found, rest'⟩, hr, heq⟩ := Option.map_eq_some_iff.mp h
      cases heq
      obtain ⟨before, after, rfl, rfl, hn⟩ := ih hr
      exact ⟨e :: before, after, rfl, rfl, hn⟩

theorem defragGetSeg_eq_none {segNr : Nat} : defragGetSeg segNr frags = none ↔ ∀ e ∈ frags, e.segNr ≠ segNr := by
  induction frags with
  | nil => simp [defragGetSeg]
  | cons e frags ih =>
    rw [defragGetSeg]
    by_cases he : e.segNr = segNr
    · simp [he]
    · simp [he, ih]

/-- **Collecting a complete queue.** When the segment numbers in the queue are a rearrangement of the ones
    to be collected, nothing stays behind and the segments are put together in that order. Induction
    over the numbers: each one is found, and what is left is a rearrangement of the others. The queue is
    the image under `f` of whatever the caller wants to keep track of. -/
theorem defragCollect_of_perm {τ : Type} (f : τ → DefragQueueEntry) (segNrs : List Nat) :
    ∀ (l : List τ) (msg : List Octet), (l.map fun t => (f t).segNr).Perm segNrs →
      ∃ taken : List τ, taken.Perm l ∧ (taken.map fun t => (f t).segNr) = segNrs ∧
        defragCollect segNrs (l.map f) msg = ([], some (msg ++ (taken.map fun t => (f t).data).flatten)) := by
  induction segNrs with
  | nil =>
    intro l msg h
    have hl : l = [] := by simpa using h.eq_nil
    subst hl
    exact ⟨[], .refl _, rfl, by simp [defragCollect]⟩
  | cons segNr segNrs ih =>
    intro l msg h
    have hex : ∃ e ∈ l.map f, e.segNr = segNr := by
      obtain ⟨t, ht, hn⟩ := mem_map.mp (h.mem_iff.mpr mem_cons_self)
      exact ⟨f t, mem_map_of_mem ht, hn⟩
    cases hg : defragGetSeg segNr (l.map f) with
    | none =>
      obtain ⟨e, he, hn⟩ := hex
      exact absurd hn (defragGetSeg_eq_none.mp hg e he)
    | some r =>
      obtain ⟨dqe, rest⟩ := r
      obtain ⟨before, after, hl, rfl, hn⟩ := defragGetSeg_eq_some hg
      -- pull the split of the queue back along `f`
      obtain ⟨l₁, l₂, rfl, rfl, h₂⟩ := map_eq_append_iff.mp hl
      obtain ⟨t, l₃, rfl, rfl, rfl⟩ := map_eq_cons_iff.mp h₂
      have hperm : (l₁ ++ t :: l₃).Perm (t :: (l₁ ++ l₃)) := perm_middle
      have hrest : ((l₁ ++ l₃).map fun t => (f t).segNr).Perm segNrs := by
        have hc := (hperm.map fun t => (f t).segNr).symm.trans h
        rw [map_cons, hn] at hc
        exact hc.cons_inv
      obtain ⟨taken, hp, hs, hc⟩ := ih (l₁ ++ l₃) (msg ++ (f t).data) hrest
      refine ⟨t :: taken, (hp.cons t).trans hperm.symm, ?_, ?_⟩
      · rw [map_cons, hs, hn]
      · rw [defragCollect, hg]
        simp only [← map_append]
        rw [hc]
        simp [append_assoc]

/-- A queue without the first number to be collected is left alone. -/
theorem defragCollect_missing {segNr : Nat} {segNrs : List Nat} (h : ∀ e ∈ frags, e.segNr ≠ segNr) (msg : List Octet) :
    defragCollect (segNr :: segNrs) frags msg = (frags, none) := by
  rw [defragCollect, defragGetSeg_eq_none.mpr h]

/-! ## Putting the N-PDU together -/

/-- Segments that are all there are handed up in order, as many octets of them as were counted. -/
theorem defragSegments_of_perm {τ : Type} (f : τ → DefragQueueEntry) {l : List τ} (hq : d.fragList = l.map f)
    (hp : (l.map fun t => (f t).segNr).Perm (range (d.highestSeg + 1)))
    (ht : d.totLen = (l.map fun t => (f t).data.length).sum) :
    ∃ taken : List τ, taken.Perm l ∧
      (taken.map fun t => (f t).segNr) = range (d.highestSeg + 1) ∧
      defragSegments d =
        ({ d with fragList := [] }, .udInd (taken.map fun t => (f t).data).flatten) := by
  obtain ⟨taken, htp, hs, hc⟩ := defragCollect_of_perm f _ l [] hp
  refine ⟨taken, htp, hs, ?_⟩
  have hlen : d.totLen = ((taken.map fun t => (f t).data).flatten).length := by
    rw [ht, length_flatten, map_map]
    exact ((htp.map fun t => (f t).data.length).sum_eq).symm
  rw [defragSegments, hq, hc]
  simp only [nil_append, hlen, take_append_of_le_length le_rfl, take_length]

theorem defragSegments_missing (h : ∀ e ∈ d.fragList, e.segNr ≠ 0) : defragSegments d = (d, .error eio) := by
  rw [defragSegments, range_succ_eq_map, defragCollect_missing h]

/-! ## Queues that account for what they hold -/

/-- The queue holds exactly the segments `l`, each segment number once, and the mask and the total length
    account for them. -/
structure Holds {τ : Type} (f : τ → LlUnitdata) (d : DefragState) (l : List τ) : Prop where
  queue : d.fragList = l.map fun t => (f t).entry
  segNrs : (l.map fun t => (f t).suh.segNr).Nodup
  mask : d.segHave = Bitmask.ofList (l.map fun t => (f t).suh.segNr)
  total : d.totLen = (l.map fun t => (f t).payload.length).sum

variable {τ : Type} {f : τ → LlUnitdata}

theorem holds_reset (f : τ → LlUnitdata) (npdu : Nat) : Holds f (defragReset npdu) [] :=
  ⟨rfl, nodup_nil, rfl, rfl⟩

/-- The octets in a queue without repeated segment numbers stay far below 2^32. -/
theorem sum_payload_le {l : List τ} (h : (l.map fun t => (f t).suh.segNr).Nodup) :
    (l.map fun t => (f t).payload.length).sum ≤ 16 * 65535 := by
  have hcount : l.length ≤ 16 := by
    have hsub : (l.map fun t => (f t).suh.segNr) ⊆ range 16 := by
      intro n hn
      obtain ⟨t, -, rfl⟩ := mem_map.mp hn
      exact mem_range.mpr (f t).segNr_lt
    have hle := (subperm_of_subset h hsub).length_le
    simpa using hle
  have hsum : (l.map fun t => (f t).payload.length).sum ≤ l.length * 65535 := by
    clear h hcount
    induction l with
    | nil => simp
    | cons t l ih =>
      have ht := (f t).length_payload_lt
      rw [map_cons, sum_cons, length_cons]
      omega
  exact hsum.trans (Nat.mul_le_mul_right _ hcount)

/-- A segment whose number is not marked yet joins the queue. -/
theorem Holds.queued {l : List τ} (h : Holds f d l) {t : τ} (hseg : d.segHave.testBit (f t).suh.segNr = false) :
    Holds f (defragQueued d (f t)) (t :: l) := by
  have hsegNr : (f t).suh.segNr ∉ l.map fun t => (f t).suh.segNr := by
    rw [h.mask, testBit_ofList] at hseg
    exact of_decide_eq_false hseg
  have hnodup : ((t :: l).map fun t => (f t).suh.segNr).Nodup := by
    rw [map_cons, nodup_cons]
    exact ⟨hsegNr, h.segNrs⟩
  have hsum := sum_payload_le hnodup
  refine ⟨?_, hnodup, ?_, ?_⟩
  · rw [map_cons, ← h.queue]
    rfl
  · rw [map_cons, ofList_cons, ← h.mask]
    rfl
  · rw [map_cons, sum_cons] at hsum ⊢
    show (d.totLen + (f t).payload.length) % 2 ^ 32 = _
    rw [h.total, Nat.add_comm]
    exact Nat.mod_eq_of_lt (lt_of_le_of_lt hsum (by decide))

/-- When the mask is full, what is handed up are the segments of the queue in the order of their numbers. -/
theorem Holds.segments {l : List τ} (h : Holds f d l) (hall : defragHaveAllSegments d = true) :
    ∃ taken : List τ, taken.Perm l ∧
      (taken.map fun t => (f t).suh.segNr) = range (d.highestSeg + 1) ∧
      defragSegments d =
        ({ d with fragList := [] }, .udInd (taken.map fun t => (f t).payload).flatten) := by
  have hmask : ofList (l.map fun t => (f t).suh.segNr) = below (d.highestSeg + 1) := by
    rw [← h.mask]
    exact (eq_of_beq hall).symm
  exact defragSegments_of_perm (fun t => (f t).entry) h.queue
    (perm_range_of_ofList_eq_below h.segNrs hmask) h.total

/-! ## The entry point -/

theorem find?_setDefrag {es : GprsSndcpEntities} {key key' : Nat × Nat} {sne : GprsSndcpEntity}
    (hfind : es.find? key = some sne) (defrag : DefragState) :
    (es.set { sne with defrag := defrag }).find? key' =
      if key' = key then some { sne with defrag := defrag } else es.find? key' := by
  have hkey : GprsSndcpEntity.key { sne with defrag := defrag } = key := by
    show GprsSndcpEntity.key sne = key
    exact Table.key_of_find? hfind
  by_cases hk : key' = key
  · rw [if_pos hk, hk, ← hkey]
    exact Table.find?_set_self (hkey ▸ hfind)
  · rw [if_neg hk, Table.find?_set_ne (hkey ▸ hk)]

theorem sndcpLlunitdataInd_segmented {es : GprsSndcpEntities} {lle : Nat} {pdu : LlUnitdata}
    {sne : GprsSndcpEntity} (htype : pdu.sch.type = true) (hlen : 3 ≤ pdu.len)
    (hfind : gprsSndcpEntityByLle es lle pdu.sch.nsapi = some sne)
    (hseg : pdu.sch.first = false ∨ pdu.sch.more = true) :
    sndcpLlunitdataInd es lle pdu =
      (es.set { sne with defrag := (defragInput sne.defrag pdu).1 }, (defragInput sne.defrag pdu).2) := by
  simp [sndcpLlunitdataInd, htype, not_lt.mpr hlen, hfind, hseg]

end OpenBsc.Sndcp
