import OpenBsc.Lib.Pairing
import OpenBsc.Lib.Transition

/-!
# `Libtrau.TrauMux` — the TRAU multiplexer map (`trau_mux.c`)

Which E1 sub-slot's speech goes where: to the sub-slot it is mapped to, or upwards to the call it is received
for. Two lists say so, `ss_map` and `ss_upqueue`, newest entry first. `trau_mux_unmap` removes one entry, by the
sub-slot or by the call reference; the two functions that add an entry call it "to get rid of any stale old
mappings".

`trau_mux_unmap` leaves nothing behind exactly when at most one entry bears the sub-slot or the call reference
(`noEntry_trauMuxUnmap_iff`). While that is so for every call of it, no sub-slot stands in two entries
(`FewEntries`, `trauMux_runs`); the map on its own is an involution in every run.
-/

namespace OpenBsc.Libtrau

open Transition Pairing ReachableBy List

/-! ## The source -/

/-- `struct gsm_e1_subslot`. -/
structure GsmE1Subslot where
  e1Nr : BitVec 8
  e1Ts : BitVec 8
  e1TsSs : BitVec 8
  deriving DecidableEq

/-- `struct map_entry`. -/
structure MapEntry where
  src : GsmE1Subslot
  dst : GsmE1Subslot

/-- `struct upqueue_entry`; networks are known by number. -/
structure UpqueueEntry where
  net : Nat
  src : GsmE1Subslot
  callref : BitVec 32

/-- `ss_map` and `ss_upqueue`. -/
structure TrauMux where
  ssMap : List MapEntry := []
  ssUpqueue : List UpqueueEntry := []

/-- The comparison of `trau_mux_unmap` with an entry of the map; without a sub-slot the map is not searched. -/
def MapEntry.bears (ss : Option GsmE1Subslot) (me : MapEntry) : Bool := ss = some me.src || ss = some me.dst

/-- The comparison of `trau_mux_unmap` with an entry of the upqueue. -/
def UpqueueEntry.bears (ss : Option GsmE1Subslot) (callref : BitVec 32) (ue : UpqueueEntry) : Bool :=
  ue.callref = callref || ss = some ue.src

namespace TrauMux

/-- `trau_mux_unmap`; `none` is `-ENOENT`. -/
def trauMuxUnmap (mux : TrauMux) (ss : Option GsmE1Subslot) (callref : BitVec 32) : Option TrauMux :=
  if mux.ssMap.any (MapEntry.bears ss) then
    some { mux with ssMap := mux.ssMap.eraseP (MapEntry.bears ss) }
  else if mux.ssUpqueue.any (UpqueueEntry.bears ss callref) then
    some { mux with ssUpqueue := mux.ssUpqueue.eraseP (UpqueueEntry.bears ss callref) }
  else none

/-- `trau_mux_unmap` for callers that do not look at what it returns. -/
def unmapped (mux : TrauMux) (ss : Option GsmE1Subslot) (callref : BitVec 32) : TrauMux :=
  (mux.trauMuxUnmap ss callref).getD mux

/-- `trau_mux_map`; without memory for the entry (`mem`) it returns `-ENOMEM`. -/
def trauMuxMap (mux : TrauMux) (mem : Bool) (src dst : GsmE1Subslot) : TrauMux :=
  if mem then
    let mux := mux.unmapped (some src) 0
    let mux := mux.unmapped (some dst) 0
    { mux with ssMap := ⟨src, dst⟩ :: mux.ssMap }
  else mux

/-- `trau_recv_lchan` for a channel with the E1 link `srcSs` in the network `net`. -/
def trauRecvLchan (mux : TrauMux) (mem : Bool) (net : Nat) (srcSs : GsmE1Subslot) (callref : BitVec 32) : TrauMux :=
  if mem then
    let mux := mux.unmapped (some srcSs) callref
    { mux with ssUpqueue := ⟨net, srcSs, callref⟩ :: mux.ssUpqueue }
  else mux

/-- `lookup_trau_mux_map`. -/
def lookupTrauMuxMap (mux : TrauMux) (src : GsmE1Subslot) : Option GsmE1Subslot :=
  mux.ssMap.findSome? fun me => if me.src = src then some me.dst else if me.dst = src then some me.src else none

/-- `lookup_trau_upqueue`. -/
def lookupTrauUpqueue (mux : TrauMux) (src : GsmE1Subslot) : Option UpqueueEntry :=
  mux.ssUpqueue.find? fun ue => ue.src = src

end TrauMux

/-- Where `trau_mux_input` sends a frame it could decode: to the multiplexer of another sub-slot, up to the call
    control, or nowhere (`-EINVAL`). -/
inductive TrauRoute where
  | subslot (dst : GsmE1Subslot)
  | mncc (net : Nat) (callref : BitVec 32)
  | einval

/-- `trau_mux_input`, for a frame that decodes. -/
def TrauMux.trauMuxInput (mux : TrauMux) (srcE1Ss : GsmE1Subslot) : TrauRoute :=
  match mux.lookupTrauMuxMap srcE1Ss with
  | some dst => .subslot dst
  | none =>
    match mux.lookupTrauUpqueue srcE1Ss with
    | none => .einval
    | some ue => if ue.callref = 0 then .einval else .mncc ue.net ue.callref

/-! ## Counting -/

namespace TrauMux

/-- In how many entries a sub-slot stands. -/
def entriesOf (mux : TrauMux) (ss : GsmE1Subslot) : Nat :=
  mux.ssMap.countP (MapEntry.bears (some ss)) + mux.ssUpqueue.countP (fun ue => decide (ue.src = ss))

/-- How many entries bear the sub-slot or the call reference. -/
def matching (mux : TrauMux) (ss : Option GsmE1Subslot) (callref : BitVec 32) : Nat :=
  mux.ssMap.countP (MapEntry.bears ss) + mux.ssUpqueue.countP (UpqueueEntry.bears ss callref)

/-- No entry bears the sub-slot or the call reference. -/
def NoEntry (mux : TrauMux) (ss : Option GsmE1Subslot) (callref : BitVec 32) : Prop :=
  (∀ me ∈ mux.ssMap, ss ≠ some me.src ∧ ss ≠ some me.dst) ∧
  ∀ ue ∈ mux.ssUpqueue, ue.callref ≠ callref ∧ ss ≠ some ue.src

end TrauMux

variable {mux mux' : TrauMux} {ss : Option GsmE1Subslot} {callref : BitVec 32}

theorem noEntry_iff : mux.NoEntry ss callref ↔ mux.matching ss callref = 0 := by
  unfold TrauMux.NoEntry TrauMux.matching
  rw [Nat.add_eq_zero_iff, countP_eq_zero, countP_eq_zero]
  simp only [MapEntry.bears, UpqueueEntry.bears, Bool.or_eq_true, decide_eq_true_eq, not_or]

/-- One element fewer with the property that was searched for, and no more with any other. -/
theorem countP_eraseP {α : Type*} {p : α → Bool} {l : List α} (h : l.any p = true) (q : α → Bool) :
    (l.eraseP p).countP p + 1 = l.countP p ∧ (l.eraseP p).countP q ≤ l.countP q := by
  obtain ⟨a, ha, hpa⟩ := any_eq_true.mp h
  obtain ⟨b, front, back, -, hpb, rfl, herase⟩ := exists_of_eraseP ha hpa
  rw [herase]
  constructor
  · rw [countP_append, countP_append, countP_cons, if_pos hpb]
    omega
  · rw [countP_append, countP_append, countP_cons]
    omega

section

variable (mux : TrauMux) (ss : Option GsmE1Subslot) (callref : BitVec 32)

/-- What `trau_mux_unmap` does: it removes an entry of the map, or one of the upqueue, or finds none. -/
theorem unmapped_cases :
    (mux.ssMap.any (MapEntry.bears ss) = true ∧
      mux.unmapped ss callref = { mux with ssMap := mux.ssMap.eraseP (MapEntry.bears ss) }) ∨
    (mux.ssMap.countP (MapEntry.bears ss) = 0 ∧ mux.ssUpqueue.any (UpqueueEntry.bears ss callref) = true ∧
      mux.unmapped ss callref = { mux with ssUpqueue := mux.ssUpqueue.eraseP (UpqueueEntry.bears ss callref) }) ∨
    (mux.matching ss callref = 0 ∧ mux.unmapped ss callref = mux) := by
  unfold TrauMux.unmapped TrauMux.trauMuxUnmap
  by_cases hmap : mux.ssMap.any (MapEntry.bears ss) = true
  · rw [if_pos hmap]
    exact .inl ⟨hmap, rfl⟩
  have hmapZero : mux.ssMap.countP (MapEntry.bears ss) = 0 := by
    rw [countP_eq_zero]
    simpa using hmap
  rw [if_neg hmap]
  by_cases hup : mux.ssUpqueue.any (UpqueueEntry.bears ss callref) = true
  · rw [if_pos hup]
    exact .inr (.inl ⟨hmapZero, hup, rfl⟩)
  · have hupZero : mux.ssUpqueue.countP (UpqueueEntry.bears ss callref) = 0 := by
      rw [countP_eq_zero]
      simpa using hup
    rw [if_neg hup]
    exact .inr (.inr ⟨by unfold TrauMux.matching; omega, rfl⟩)

theorem matching_unmapped :
    (mux.unmapped ss callref).matching ss callref = mux.matching ss callref - 1 := by
  obtain ⟨hmap, heq⟩ | ⟨hmap, hup, heq⟩ | ⟨hzero, heq⟩ := unmapped_cases mux ss callref
  · have hone := (countP_eraseP hmap (MapEntry.bears ss)).1
    rw [heq]
    simp only [TrauMux.matching]
    omega
  · have hone := (countP_eraseP hup (UpqueueEntry.bears ss callref)).1
    rw [heq]
    simp only [TrauMux.matching]
    omega
  · rw [heq, hzero]

/-- No sub-slot gains an entry of either list. -/
theorem countP_unmapped (p : MapEntry → Bool)
    (q : UpqueueEntry → Bool) :
    (mux.unmapped ss callref).ssMap.countP p ≤ mux.ssMap.countP p ∧
    (mux.unmapped ss callref).ssUpqueue.countP q ≤ mux.ssUpqueue.countP q := by
  obtain ⟨hmap, heq⟩ | ⟨-, hup, heq⟩ | ⟨-, heq⟩ := unmapped_cases mux ss callref
  · rw [heq]
    exact ⟨(countP_eraseP hmap p).2, Nat.le_refl _⟩
  · rw [heq]
    exact ⟨Nat.le_refl _, (countP_eraseP hup q).2⟩
  · rw [heq]
    exact ⟨Nat.le_refl _, Nat.le_refl _⟩

theorem entriesOf_unmapped (s : GsmE1Subslot) :
    (mux.unmapped ss callref).entriesOf s ≤ mux.entriesOf s :=
  Nat.add_le_add (countP_unmapped mux ss callref _ fun _ => false).1
    (countP_unmapped mux ss callref (fun _ => false) _).2

/-- A sub-slot that is unmapped stands in the map at most as often as before, less one. -/
theorem countP_bears_unmapped :
    (mux.unmapped ss callref).ssMap.countP (MapEntry.bears ss) ≤ mux.ssMap.countP (MapEntry.bears ss) - 1 := by
  obtain ⟨hmap, heq⟩ | ⟨hmap, -, heq⟩ | ⟨hzero, heq⟩ := unmapped_cases mux ss callref
  · have hone := (countP_eraseP hmap (MapEntry.bears ss)).1
    rw [heq]
    show (mux.ssMap.eraseP _).countP _ ≤ _
    omega
  · rewrite [heq, hmap]
    exact Nat.zero_le _
  · rw [heq]
    unfold TrauMux.matching at hzero
    omega

/-- **What is left behind.** `trau_mux_unmap` leaves no entry exactly where it had at most one to remove. -/
theorem noEntry_trauMuxUnmap_iff :
    (mux.unmapped ss callref).NoEntry ss callref ↔ mux.matching ss callref ≤ 1 := by
  rw [noEntry_iff, matching_unmapped]
  omega

end

theorem entriesOf_eq_zero {s : GsmE1Subslot} (h : mux.NoEntry (some s) callref) : mux.entriesOf s = 0 := by
  unfold TrauMux.entriesOf
  rw [Nat.add_eq_zero_iff, countP_eq_zero, countP_eq_zero]
  refine ⟨fun me hme => ?_, fun ue hue => ?_⟩
  · have := h.1 me hme
    simp only [MapEntry.bears, Bool.or_eq_true, decide_eq_true_eq, not_or]
    exact this
  · have := (h.2 ue hue).2
    rw [decide_eq_true_eq]
    exact fun hsrc => this (by rw [hsrc])

theorem entriesOf_consMap (mux : TrauMux) (me : MapEntry) (s : GsmE1Subslot) :
    TrauMux.entriesOf { mux with ssMap := me :: mux.ssMap } s =
      mux.entriesOf s + if me.bears (some s) then 1 else 0 := by
  simp only [TrauMux.entriesOf, countP_cons]
  omega

theorem entriesOf_consUpqueue (mux : TrauMux) (ue : UpqueueEntry) (s : GsmE1Subslot) :
    TrauMux.entriesOf { mux with ssUpqueue := ue :: mux.ssUpqueue } s =
      mux.entriesOf s + if ue.src = s then 1 else 0 := by
  simp only [TrauMux.entriesOf, countP_cons, decide_eq_true_eq]
  omega

/-! ## The map alone -/

/-- No sub-slot stands in two entries of the map. -/
def MapOnce (mux : TrauMux) : Prop := ∀ s, mux.ssMap.countP (MapEntry.bears (some s)) ≤ 1

theorem MapOnce.unmapped (h : MapOnce mux) (ss : Option GsmE1Subslot) (callref : BitVec 32) :
    MapOnce (mux.unmapped ss callref) := fun s =>
  Nat.le_trans (countP_unmapped mux ss callref _ fun _ => false).1 (h s)

/-- The new entry is the only one of its two sub-slots. -/
theorem MapOnce.trauMuxMap (h : MapOnce mux) (mem : Bool) (src dst : GsmE1Subslot) :
    MapOnce (mux.trauMuxMap mem src dst) := by
  unfold TrauMux.trauMuxMap
  cases mem with
  | false => exact h
  | true =>
    intro s
    have hfirst := h.unmapped (some src) 0
    have hboth := (hfirst.unmapped (some dst) 0) s
    have hdst := countP_bears_unmapped (mux.unmapped (some src) 0) (some dst) 0
    have hsrc := countP_bears_unmapped mux (some src) 0
    have hsrc' := (countP_unmapped (mux.unmapped (some src) 0) (some dst) 0 (MapEntry.bears (some src))
      fun _ => false).1
    have hsrcOnce := h src
    have hdstOnce := hfirst dst
    show (⟨src, dst⟩ :: _ : List MapEntry).countP _ ≤ 1
    rw [countP_cons]
    split
    case isTrue hs =>
      simp only [MapEntry.bears, Bool.or_eq_true, decide_eq_true_eq, Option.some.injEq] at hs
      rcases hs with rfl | rfl
      · omega
      · omega
    case isFalse => omega

theorem MapOnce.trauRecvLchan (h : MapOnce mux) (mem : Bool) (net : Nat) (srcSs : GsmE1Subslot)
    (callref : BitVec 32) : MapOnce (mux.trauRecvLchan mem net srcSs callref) := by
  unfold TrauMux.trauRecvLchan
  cases mem with
  | false => exact h
  | true => exact h.unmapped (some srcSs) callref

theorem lookupTrauMuxMap_eq (mux : TrauMux) (s : GsmE1Subslot) :
    mux.lookupTrauMuxMap s = partner (mux.ssMap.map fun me => (me.src, me.dst)) s := by
  unfold TrauMux.lookupTrauMuxMap partner
  rw [findSome?_map]
  rfl

/-- Where no sub-slot stands in two entries of the map, the lookup is an involution. -/
theorem MapOnce.mutual (h : MapOnce mux) : Mutual mux.lookupTrauMuxMap := by
  rw [funext (lookupTrauMuxMap_eq mux)]
  refine mutual_partner fun s => ?_
  rw [countP_map]
  refine Nat.le_trans (Nat.le_of_eq ?_) (h s)
  refine countP_congr fun me _ => ?_
  simp only [Function.comp_apply, touches, MapEntry.bears, Bool.or_eq_true, decide_eq_true_eq, Option.some.injEq]
  rw [eq_comm, @eq_comm _ me.dst]

/-! ## Runs -/

/-- The calls of the other files. -/
inductive TrauEvent where
  | map (mem : Bool) (src dst : GsmE1Subslot)
  | unmap (ss : Option GsmE1Subslot) (callref : BitVec 32)
  | recvLchan (mem : Bool) (net : Nat) (srcSs : GsmE1Subslot) (callref : BitVec 32)

namespace TrauMux

def step (mux : TrauMux) : TrauEvent → TrauMux
  | .map mem src dst => mux.trauMuxMap mem src dst
  | .unmap ss callref => mux.unmapped ss callref
  | .recvLchan mem net srcSs callref => mux.trauRecvLchan mem net srcSs callref

/-- The calls of `trau_mux_unmap` an event makes: the lists before it, the sub-slot and the call reference. -/
def unmapCalls (mux : TrauMux) : TrauEvent → List (TrauMux × Option GsmE1Subslot × BitVec 32)
  | .map true src dst => [(mux, some src, 0), (mux.unmapped (some src) 0, some dst, 0)]
  | .unmap ss callref => [(mux, ss, callref)]
  | .recvLchan true _ srcSs callref => [(mux, some srcSs, callref)]
  | .map false .. | .recvLchan false .. => []

/-- Every call of `trau_mux_unmap` the event makes leaves no entry that bears its sub-slot or call reference. -/
def Clears (mux : TrauMux) (ev : TrauEvent) : Prop :=
  ∀ call ∈ mux.unmapCalls ev, (call.1.unmapped call.2.1 call.2.2).NoEntry call.2.1 call.2.2

/-- At most one entry bears what the event unmaps; `trau_mux_map` unmaps its source with no call reference. -/
def FewEntries (mux : TrauMux) : TrauEvent → Prop
  | .map mem src _ => mem = true → mux.matching (some src) 0 ≤ 1
  | .unmap ss callref => mux.matching ss callref ≤ 1
  | .recvLchan mem _ srcSs callref => mem = true → mux.matching (some srcSs) callref ≤ 1

instance (mux : TrauMux) : (ev : TrauEvent) → Decidable (mux.FewEntries ev)
  | .map .. => inferInstanceAs (Decidable (_ → _))
  | .unmap .. => inferInstanceAs (Decidable (_ ≤ _))
  | .recvLchan .. => inferInstanceAs (Decidable (_ → _))

end TrauMux

def trauSystem : System TrauMux TrauEvent where
  init mux := mux = {}
  step mux ev mux' := mux' = mux.step ev

/-- No sub-slot stands in two entries, of whichever list. -/
def EntryOnce (mux : TrauMux) : Prop := ∀ s, mux.entriesOf s ≤ 1

theorem EntryOnce.unmapped (h : EntryOnce mux) (ss : Option GsmE1Subslot) (callref : BitVec 32) :
    EntryOnce (mux.unmapped ss callref) := fun s => Nat.le_trans (entriesOf_unmapped mux ss callref s) (h s)

/-- Once the source is unmapped no entry is left without a call reference, so the destination's is the only one
    that `trau_mux_unmap` can find for it. -/
theorem EntryOnce.matching_dst (h : EntryOnce mux) {src : Option GsmE1Subslot} (dst : GsmE1Subslot)
    (hsrc : mux.NoEntry src 0) : mux.matching (some dst) 0 ≤ 1 := by
  have hup : mux.ssUpqueue.countP (UpqueueEntry.bears (some dst) 0) =
      mux.ssUpqueue.countP (fun ue => decide (ue.src = dst)) := by
    refine countP_congr fun ue hue => ?_
    have := (hsrc.2 ue hue).1
    simp only [UpqueueEntry.bears, Bool.or_eq_true, decide_eq_true_eq, Option.some.injEq, this, false_or]
    exact eq_comm
  have := h dst
  unfold TrauMux.entriesOf at this
  unfold TrauMux.matching
  rw [hup]
  exact this

/-- **One event.** It leaves nothing behind exactly when few entries bear what it unmaps. -/
theorem clears_iff (h : EntryOnce mux) (ev : TrauEvent) : mux.Clears ev ↔ mux.FewEntries ev := by
  unfold TrauMux.Clears
  cases ev with
  | map mem src dst =>
    cases mem with
    | false => simp [TrauMux.unmapCalls, TrauMux.FewEntries]
    | true =>
      simp only [TrauMux.unmapCalls, TrauMux.FewEntries, forall_mem_cons, forall_const, noEntry_trauMuxUnmap_iff]
      constructor
      · exact fun hcalls => hcalls.1
      · intro hfew
        have hsrc := (noEntry_trauMuxUnmap_iff mux (some src) 0).mpr hfew
        refine ⟨hfew, ?_, fun call hcall => absurd hcall not_mem_nil⟩
        exact (h.unmapped (some src) 0).matching_dst dst hsrc
  | unmap ss callref =>
    simp only [TrauMux.unmapCalls, TrauMux.FewEntries, forall_mem_singleton]
    exact noEntry_trauMuxUnmap_iff mux ss callref
  | recvLchan mem net srcSs callref =>
    cases mem with
    | false => simp [TrauMux.unmapCalls, TrauMux.FewEntries]
    | true =>
      simp only [TrauMux.unmapCalls, TrauMux.FewEntries, forall_mem_singleton, forall_const]
      exact noEntry_trauMuxUnmap_iff mux (some srcSs) callref

/-- An event that leaves nothing behind keeps every sub-slot in one entry at most. -/
theorem EntryOnce.step (h : EntryOnce mux) {ev : TrauEvent} (hclears : mux.Clears ev) : EntryOnce (mux.step ev) := by
  unfold TrauMux.step TrauMux.trauMuxMap TrauMux.trauRecvLchan
  cases ev with
  | unmap ss callref => exact h.unmapped ss callref
  | map mem src dst =>
    cases mem with
    | false => exact h
    | true =>
      simp only [TrauMux.Clears, TrauMux.unmapCalls, forall_mem_cons] at hclears
      obtain ⟨hsrc, hdst, -⟩ := hclears
      intro s
      have hs := ((h.unmapped (some src) 0).unmapped (some dst) 0) s
      have hsrcZero := Nat.le_trans (entriesOf_unmapped (mux.unmapped (some src) 0) (some dst) 0 src)
        (Nat.le_of_eq (entriesOf_eq_zero hsrc))
      have hdstZero := entriesOf_eq_zero hdst
      refine Nat.le_trans (Nat.le_of_eq (entriesOf_consMap _ ⟨src, dst⟩ s)) ?_
      split
      case isTrue hbears =>
        simp only [MapEntry.bears, Bool.or_eq_true, decide_eq_true_eq, Option.some.injEq] at hbears
        rcases hbears with rfl | rfl
        · omega
        · omega
      case isFalse => omega
  | recvLchan mem net srcSs callref =>
    cases mem with
    | false => exact h
    | true =>
      simp only [TrauMux.Clears, TrauMux.unmapCalls, forall_mem_singleton] at hclears
      intro s
      have hs := (h.unmapped (some srcSs) callref) s
      have hzero := entriesOf_eq_zero hclears
      refine Nat.le_trans (Nat.le_of_eq (entriesOf_consUpqueue _ ⟨net, srcSs, callref⟩ s)) ?_
      split
      case isTrue hsrc =>
        obtain rfl : srcSs = s := hsrc
        omega
      case isFalse => omega

theorem MapOnce.reachable (h : Reachable trauSystem mux) : MapOnce mux := by
  refine h.invariant ?_ ?_
  · rintro mux rfl s
    exact Nat.zero_le _
  · rintro mux ev _ hmux - rfl
    cases ev with
    | map mem src dst => exact hmux.trauMuxMap mem src dst
    | unmap ss callref => exact hmux.unmapped ss callref
    | recvLchan mem net srcSs callref => exact hmux.trauRecvLchan mem net srcSs callref

theorem EntryOnce.reachable (h : ReachableBy trauSystem TrauMux.FewEntries mux) : EntryOnce mux := by
  refine h.invariant ?_ ?_
  · rintro mux rfl s
    exact Nat.zero_le _
  · rintro mux ev _ hmux hfew rfl
    exact hmux.step ((clears_iff hmux ev).mpr hfew)

/-- **Stale entries.** In every run in which no event unmaps more than one entry, each sub-slot stands in at most one
    entry of the two lists, the lookup is an involution, and the next event leaves no entry behind that bears what it
    unmaps exactly when it again has at most one to remove. -/
theorem trauMux_runs (h : ReachableBy trauSystem TrauMux.FewEntries mux) :
    (∀ s, mux.entriesOf s ≤ 1) ∧
    (∀ a b, mux.lookupTrauMuxMap a = some b → mux.lookupTrauMuxMap b = some a) ∧
    ∀ ev, mux.Clears ev ↔ mux.FewEntries ev := by
  have honce := EntryOnce.reachable h
  exact ⟨honce, (MapOnce.reachable h.reachable).mutual, clears_iff honce⟩

theorem trauMuxInput_eq_subslot {a b : GsmE1Subslot} :
    mux.trauMuxInput a = .subslot b ↔ mux.lookupTrauMuxMap a = some b := by
  unfold TrauMux.trauMuxInput
  cases mux.lookupTrauMuxMap a with
  | some dst => simp
  | none =>
    dsimp only
    constructor
    · intro h
      split at h
      · cases h
      · split at h <;> cases h
    · exact nofun

/-- **Where frames go.** In every run the switch goes both ways; and a sub-slot whose frames go up to a call stands in
    the entry of that call, and gets no frames from another sub-slot. -/
theorem trauMuxInput_routes (h : Reachable trauSystem mux) :
    (∀ a b, mux.trauMuxInput a = .subslot b → mux.trauMuxInput b = .subslot a) ∧
      ∀ a net callref, mux.trauMuxInput a = .mncc net callref →
        callref ≠ 0 ∧ ⟨net, a, callref⟩ ∈ mux.ssUpqueue ∧ ∀ b, mux.trauMuxInput b ≠ .subslot a := by
  have hback : ∀ a b, mux.trauMuxInput a = .subslot b → mux.trauMuxInput b = .subslot a := by
    intro a b hab
    exact trauMuxInput_eq_subslot.mpr ((MapOnce.reachable h).mutual a b (trauMuxInput_eq_subslot.mp hab))
  refine ⟨hback, fun a net callref hup => ?_⟩
  have hnever : ∀ b, mux.trauMuxInput b ≠ .subslot a := by
    intro b hba
    cases hup.symm.trans (hback b a hba)
  unfold TrauMux.trauMuxInput at hup
  split at hup
  · cases hup
  · split at hup
    · cases hup
    · rename_i ue hue
      split at hup
      · cases hup
      · rename_i hcall
        cases hup
        have hsrc : ue.src = a := by simpa using find?_some hue
        exact ⟨hcall, hsrc ▸ mem_of_find?_eq_some hue, hnever⟩

/-- The first sub-slots of an E1 timeslot. -/
def subslot (n : Nat) : GsmE1Subslot := ⟨0, 1, BitVec.ofNat 8 n⟩

/-- A call is received, mapped to a second channel and released. -/
theorem trauMux_runs_call :
    ∃ mux : TrauMux, mux.entriesOf (subslot 0) = 0 ∧ mux.lookupTrauMuxMap (subslot 2) = some (subslot 1) ∧
      (∀ a b, mux.lookupTrauMuxMap a = some b → mux.lookupTrauMuxMap b = some a) := by
  have hrun : ReachableBy trauSystem TrauMux.FewEntries
      ([.recvLchan true 0 (subslot 0) 1, .map true (subslot 1) (subslot 2), .unmap none 1].foldl TrauMux.step {}) :=
    along (fun _ _ => rfl) (.init rfl) (by decide)
  exact ⟨_, by decide, by decide, (trauMux_runs hrun).2.1⟩

/-- One sub-slot receives a call, and two others are switched. -/
theorem trauMuxInput_routes_call : ∃ mux : TrauMux, mux.trauMuxInput (subslot 2) = .subslot (subslot 1) ∧
    ⟨0, subslot 0, 1⟩ ∈ mux.ssUpqueue := by
  have hrun : Reachable trauSystem
      ([.recvLchan true 0 (subslot 0) 1, .map true (subslot 1) (subslot 2)].foldl TrauMux.step {}) :=
    ReachableBy.foldl (fun _ _ => rfl) _ (.init rfl)
  exact ⟨_, (trauMuxInput_routes hrun).1 _ _ rfl, ((trauMuxInput_routes hrun).2 _ _ _ rfl).2.1⟩

/-- A channel that stands in the map is used to receive the call of another: both keep an entry with its call
    reference, of which releasing the call removes one. And a channel that receives one call is used to receive
    the call of another: it stands in two entries. -/
theorem trauMux_stale :
    (∃ mux, Reachable trauSystem mux ∧ ¬(mux.unmapped none 1).NoEntry none 1) ∧
    ∃ mux, Reachable trauSystem mux ∧ mux.entriesOf (subslot 0) = 2 := by
  refine ⟨⟨[.recvLchan true 0 (subslot 0) 1, .map true (subslot 1) (subslot 2),
      .recvLchan true 0 (subslot 1) 1].foldl TrauMux.step {}, foldl (fun _ _ => rfl) _ (.init rfl), ?_⟩,
    [.recvLchan true 0 (subslot 0) 1, .recvLchan true 0 (subslot 1) 2,
      .recvLchan true 0 (subslot 0) 2].foldl TrauMux.step {}, foldl (fun _ _ => rfl) _ (.init rfl), ?_⟩
  · rw [noEntry_iff]
    decide
  · decide

end OpenBsc.Libtrau
