import Mathlib.Data.List.Nodup
import OpenBsc.Libbsc.Paging

/-!
# `Libbsc.PagingRuns` — what holds all through the paging of a network

As long as a BTS has pending requests one of its two timers runs. A request is removed once and its callback is invoked
at most once; for that, nobody may stop the paging of a subscriber while the callback of that very paging is at work:
T3113 removes its request before the callback is invoked, `_paging_request_stop` afterwards.
-/

namespace OpenBsc.Libbsc

open Transition PagingNet PagingOut List

variable {net net' : PagingNet}

/-! ## Timers -/

/-- The work timer or the credit timer of the BTS runs. -/
def ArmedAt (net : PagingNet) (b : Nat) : Prop :=
  ∃ bts, net.btsList[b]? = some bts ∧ (bts.workTimer = true ∨ bts.creditTimer = true)

/-- That is so for every BTS with pending requests. -/
def Armed (net : PagingNet) : Prop := ∀ r ∈ net.pending, ArmedAt net r.bts

theorem getElem?_modifyBts (net : PagingNet) (b i : Nat) (f : PagingBts → PagingBts) :
    (net.modifyBts b f).btsList[i]? = if b = i then net.btsList[i]?.map f else net.btsList[i]? := by
  show (net.btsList.modify b f)[i]? = _
  rw [getElem?_modify]
  split
  · rfl
  · simp

variable {b : Nat}

theorem ArmedAt.modifyBts {i : Nat} (h : ArmedAt net i) {f : PagingBts → PagingBts}
    (hf : ∀ bts, b = i → bts.workTimer = true ∨ bts.creditTimer = true →
      (f bts).workTimer = true ∨ (f bts).creditTimer = true) :
    ArmedAt (net.modifyBts b f) i := by
  obtain ⟨bts, hbts, htimer⟩ := h
  unfold ArmedAt
  rw [getElem?_modifyBts, hbts]
  by_cases hb : b = i
  · rw [if_pos hb]
    exact ⟨f bts, rfl, hf bts hb htimer⟩
  · rw [if_neg hb]
    exact ⟨bts, rfl, htimer⟩

theorem armedAt_modifyBts {bts : PagingBts} (hb : net.btsList[b]? = some bts) {f : PagingBts → PagingBts}
    (hf : (f bts).workTimer = true ∨ (f bts).creditTimer = true) : ArmedAt (net.modifyBts b f) b := by
  unfold ArmedAt
  rw [getElem?_modifyBts, if_pos rfl, hb]
  exact ⟨f bts, rfl, hf⟩

/-- The BTSs stay as they are, and every pending request is on a BTS that had one. -/
theorem Armed.of_pending (h : Armed net) (hbtsList : net'.btsList = net.btsList)
    (hpending : ∀ r ∈ net'.pending, ∃ q ∈ net.pending, q.bts = r.bts) : Armed net' := by
  intro r hr
  obtain ⟨q, hq, hbts⟩ := hpending r hr
  obtain ⟨bts, hget, htimer⟩ := h q hq
  exact ⟨bts, by rw [hbtsList, ← hbts, hget], htimer⟩

theorem Armed.modifyBts (h : Armed net) {f : PagingBts → PagingBts}
    (hf : ∀ bts, bts.workTimer = true ∨ bts.creditTimer = true →
      (f bts).workTimer = true ∨ (f bts).creditTimer = true) :
    Armed (net.modifyBts b f) :=
  fun r hr => (h r hr).modifyBts fun bts _ => hf bts

theorem Armed.pagingInitIfNeeded (h : Armed net) (b : Nat) : Armed (net.pagingInitIfNeeded b) := by
  refine h.modifyBts ?_
  intro bts htimer
  show (if bts.inited then bts else _).workTimer = true ∨ (if bts.inited then bts else _).creditTimer = true
  split
  · exact htimer
  · exact htimer

theorem Armed.pagingRemoveRequest (h : Armed net) (id : Nat) : Armed (net.pagingRemoveRequest id) :=
  h.of_pending rfl fun r hr => ⟨r, (mem_filter.mp hr).1, rfl⟩

/-- Wherever the timers of all other BTSs are right, those of this one are afterwards. -/
theorem armed_pagingHandlePendingRequests (hother : ∀ r ∈ net.pending, r.bts ≠ b → ArmedAt net r.bts)
    (hthere : ∀ r ∈ net.pending, r.bts = b → ∃ bts, net.btsList[b]? = some bts) :
    Armed (net.pagingHandlePendingRequests b) := by
  have hstart {f : PagingBts → PagingBts} (hf : ∀ bts, (f bts).workTimer = true ∨ (f bts).creditTimer = true) :
      Armed (net.modifyBts b f) := by
    intro r hr
    by_cases hb : r.bts = b
    · obtain ⟨bts, hbts⟩ := hthere r hr hb
      rw [hb]
      exact armedAt_modifyBts hbts (hf bts)
    · exact (hother r hr hb).modifyBts fun bts heq => absurd heq.symm hb
  unfold pagingHandlePendingRequests
  split
  · rename_i bts request hbts hfind
    split
    · exact hstart fun _ => .inr rfl
    · split
      · exact hstart fun _ => .inl rfl
      · have hrotated := hstart (f := fun bts =>
          { bts with availableSlots := bts.availableSlots - 1, workTimer := true }) fun _ => .inl rfl
        refine hrotated.of_pending rfl ?_
        intro r hr
        rcases mem_append.mp hr with hr | hr
        · exact ⟨r, (mem_filter.mp hr).1, rfl⟩
        · rw [mem_singleton.mp hr]
          exact ⟨request, mem_of_find?_eq_some hfind, rfl⟩
  · -- there is no such BTS, or no request for it
    rename_i hnone
    intro r hr
    by_cases hb : r.bts = b
    · obtain ⟨bts, hbts⟩ := hthere r hr hb
      cases hfind : net.pending.find? fun r => r.bts = b with
      | none =>
        have hne := find?_eq_none.mp hfind r hr
        exact absurd (decide_eq_true hb) hne
      | some request => exact absurd hfind (hnone bts request hbts)
    · exact hother r hr hb

theorem Armed.fired (h : Armed net) (f : PagingBts → PagingBts) :
    Armed ((net.modifyBts b f).pagingHandlePendingRequests b) := by
  refine armed_pagingHandlePendingRequests ?_ ?_
  · intro r hr hb
    exact (h r hr).modifyBts fun bts heq => absurd heq.symm hb
  · intro r hr hb
    obtain ⟨bts, hbts, -⟩ := h r hr
    rw [hb] at hbts
    rw [getElem?_modifyBts, if_pos rfl, hbts]
    exact ⟨f bts, rfl⟩

/-- `paging_schedule_if_needed` starts the work timer of a BTS with pending requests. -/
theorem armed_pagingScheduleIfNeeded (hother : ∀ r ∈ net.pending, r.bts ≠ b → ArmedAt net r.bts)
    (hthere : ∀ r ∈ net.pending, r.bts = b → ∃ bts, net.btsList[b]? = some bts) :
    Armed (net.pagingScheduleIfNeeded b) := by
  intro r hr
  unfold pagingScheduleIfNeeded at hr ⊢
  split
  · rename_i hempty
    rw [if_pos hempty] at hr
    refine hother r hr ?_
    intro hb
    have hmem : r ∈ net.pendingRequests b := mem_filter.mpr ⟨hr, decide_eq_true hb⟩
    rw [isEmpty_iff.mp hempty] at hmem
    exact not_mem_nil hmem
  · rename_i hempty
    rw [if_neg hempty] at hr
    by_cases hb : r.bts = b
    · obtain ⟨bts, hbts⟩ := hthere r hr hb
      rw [hb]
      exact armedAt_modifyBts hbts (.inl rfl)
    · exact (hother r hr hb).modifyBts fun bts heq => absurd heq.symm hb

theorem Armed.pagingUpdateBufferSpace (h : Armed net) (b : Nat) (freeSlots : UInt16) :
    Armed (net.pagingUpdateBufferSpace b freeSlots) := by
  have hinit := h.pagingInitIfNeeded b
  refine armed_pagingScheduleIfNeeded ?_ ?_
  · intro r hr hb
    exact (hinit r hr).modifyBts fun bts heq => absurd heq.symm hb
  · intro r hr hb
    obtain ⟨bts, hbts, -⟩ := hinit r hr
    rw [hb] at hbts
    rw [getElem?_modifyBts, if_pos rfl, hbts]
    exact ⟨_, rfl⟩

variable {subscr : Nat} {type : ChanNeeded} {cbfn : Option Nat}

theorem Armed.pagingRequestOn (h : Armed net) (hb : ∃ bts, net.btsList[b]? = some bts)
    (hreq : net.pagingRequestOn b subscr type cbfn = some net') : Armed net' := by
  unfold PagingNet.pagingRequestOn at hreq
  split at hreq
  · cases hreq
  · cases hreq
    refine armed_pagingScheduleIfNeeded ?_ fun _ _ _ => hb
    intro r hr hne
    rcases mem_append.mp hr with hr | hr
    · exact h r hr
    · rw [mem_singleton.mp hr] at hne
      exact absurd rfl hne

theorem Armed.pagingRequestLoop (bs : List Nat) (h : Armed net) (numPages : Nat) :
    Armed (pagingRequestLoop subscr type cbfn bs net numPages).1 := by
  induction bs generalizing net numPages with
  | nil => exact h
  | cons b bs ih =>
    unfold pagingRequestLoop
    split
    · exact ih h numPages
    · split
      · exact ih h numPages
      · rename_i husable
        have hb : ∃ bts, (net.pagingInitIfNeeded b).btsList[b]? = some bts := by
          show ∃ bts, (net.modifyBts b _).btsList[b]? = some bts
          rw [getElem?_modifyBts, if_pos rfl]
          cases hbts : net.btsList[b]? with
          | none => simp [hbts] at husable
          | some bts => exact ⟨_, rfl⟩
        dsimp only
        split
        · exact h.pagingInitIfNeeded b
        · rename_i hreq
          exact ih ((h.pagingInitIfNeeded b).pagingRequestOn hb hreq) _

theorem Armed.pagingStopSilently (h : Armed net) (subscr b : Nat) : Armed (pagingStopSilently subscr net b) := by
  unfold PagingNet.pagingStopSilently
  dsimp only
  split
  · exact h.pagingInitIfNeeded b
  · exact (h.pagingInitIfNeeded b).pagingRemoveRequest _

theorem Armed.pagingStopOthers (h : Armed net) (b? : Option Nat) (subscr : Nat) :
    Armed (net.pagingStopOthers b? subscr) := by
  unfold PagingNet.pagingStopOthers
  generalize (range net.btsList.length).filter _ = bs
  induction bs generalizing net with
  | nil => exact h
  | cons b bs ih => exact ih (h.pagingStopSilently subscr b)

theorem Armed.pagingRequestStop (h : Armed net) (b? : Option Nat) (subscr : Nat) (conn : Bool) :
    Armed (net.pagingRequestStop b? subscr conn) := by
  unfold PagingNet.pagingRequestStop
  split
  · exact (h.pagingInitIfNeeded _).of_pending rfl fun r hr => ⟨r, hr, rfl⟩
  · split
    · exact (h.pagingStopSilently subscr _).pagingStopOthers _ subscr
    · exact h.pagingStopOthers _ subscr

theorem Armed.pagingT3113Expired (h : Armed net) (req : GsmPagingRequest) : Armed (net.pagingT3113Expired req) := by
  unfold PagingNet.pagingT3113Expired
  dsimp only
  split
  · exact (h.pagingRemoveRequest req.id).of_pending rfl fun r hr => ⟨r, hr, rfl⟩
  · exact h.pagingRemoveRequest req.id

/-- **The step, for the timers.** -/
theorem Armed.step (h : Armed net) {ev : PagingNetEvent} (hstep : net.step ev = some net') : Armed net' := by
  cases ev with
  | addBts lac =>
    cases hstep
    intro r hr
    obtain ⟨bts, hbts, htimer⟩ := h r hr
    obtain ⟨hlt, -⟩ := List.getElem?_eq_some_iff.mp hbts
    exact ⟨bts, (List.getElem?_append_left hlt).trans hbts, htimer⟩
  | configure b lac usable load freeChansNeed =>
    cases hstep
    exact h.modifyBts fun _ htimer => htimer
  | setLac subscr lac =>
    cases hstep
    exact h
  | request subscr type cbfn =>
    cases hstep
    exact h.pagingRequestLoop _ 0
  | stop b? subscr conn =>
    cases hstep
    exact h.pagingRequestStop b? subscr conn
  | ret =>
    simp only [PagingNet.step] at hstep
    split at hstep
    · cases hstep
    · rename_i f stack hstack
      cases hstep
      have hpopped : Armed { net with stack := stack } := h
      exact (hpopped.pagingRemoveRequest f.id).pagingStopOthers _ _
  | workTimer | creditTimer =>
    simp only [PagingNet.step] at hstep
    split at hstep
    · cases hstep
      exact h.fired _
    · cases hstep
  | t3113 id =>
    simp only [PagingNet.step] at hstep
    split at hstep
    · obtain ⟨req, -, rfl⟩ := Option.map_eq_some_iff.mp hstep
      exact h.pagingT3113Expired req
    · cases hstep
  | pagingLoad b freeSlots =>
    simp only [PagingNet.step] at hstep
    split at hstep
    · cases hstep
      exact h.pagingUpdateBufferSpace b freeSlots
    · cases hstep

/-! ## Requests -/

/-- A request as the callback frames know it. -/
def GsmPagingRequest.frame (r : GsmPagingRequest) : StopFrame := ⟨r.id, r.bts, r.subscr⟩

/-- The pending requests, without what sending them changes. -/
def listed (net : PagingNet) : List StopFrame := net.pending.map GsmPagingRequest.frame

def PagingOut.id : PagingOut → Nat
  | .paged id _ | .callback id _ | .removed id => id

/-- The callback of the request is invoked. -/
def PagingOut.calls (id : Nat) : PagingOut → Bool
  | .callback id' _ => id' = id
  | .paged _ _ | .removed _ => false

/-- The pending requests have numbers of their own and differ in BTS or subscriber; each other request was removed once;
    no callback was invoked twice, and that of a pending request only where it is still at work. -/
structure PagingInv (net : PagingNet) : Prop where
  ids : ((listed net).map StopFrame.id).Nodup
  pairs : ∀ f ∈ listed net, ∀ g ∈ listed net, f.bts = g.bts → f.subscr = g.subscr → f = g
  fresh : ∀ f ∈ listed net, f.id < net.next
  known : ∀ out ∈ net.outs, out.id < net.next
  once : ∀ i < net.next, net.outs.count (.removed i) + (if i ∈ (listed net).map StopFrame.id then 1 else 0) = 1
  slots : ∀ i s, PagingOut.paged i s ∈ net.outs → s ≠ 0
  called : ∀ i, net.outs.countP (PagingOut.calls i) ≤ 1
  uncalled : ∀ f ∈ listed net, f ∉ net.stack → net.outs.countP (PagingOut.calls f.id) = 0
  frames : ∀ f ∈ net.stack, f ∈ listed net
  depth : net.stack.Nodup

section

variable (h : PagingInv net)

include h

/-- Two pending requests with one number are the same. -/
theorem PagingInv.eq_of_id {f g : StopFrame} (hf : f ∈ listed net) (hg : g ∈ listed net)
    (hid : f.id = g.id) : f = g :=
  inj_on_of_nodup_map h.ids hf hg hid

/-- **A quiet change.** The requests are pending in another order at most, and some were sent. -/
theorem PagingInv.quiet (outs : List PagingOut) (hlisted : (listed net').Perm (listed net))
    (hnext : net'.next = net.next) (hstack : net'.stack = net.stack) (hlog : net'.outs = net.outs ++ outs)
    (hpaged : ∀ out ∈ outs, ∃ f ∈ listed net, ∃ s, out = .paged f.id s ∧ s ≠ 0) : PagingInv net' := by
  have hremoved (i : Nat) : net'.outs.count (.removed i) = net.outs.count (.removed i) := by
    have hnone : outs.count (.removed i) = 0 := by
      refine count_eq_zero.mpr ?_
      intro hmem
      obtain ⟨f, -, s, heq, -⟩ := hpaged _ hmem
      cases heq
    rw [hlog, count_append, hnone, Nat.add_zero]
  have hcalls (i : Nat) : net'.outs.countP (calls i) = net.outs.countP (calls i) := by
    have hnone : outs.countP (calls i) = 0 := by
      refine countP_eq_zero.mpr ?_
      intro out hmem
      obtain ⟨f, -, s, rfl, -⟩ := hpaged out hmem
      exact Bool.false_ne_true
    rw [hlog, countP_append, hnone, Nat.add_zero]
  have hmem (f : StopFrame) : f ∈ listed net' ↔ f ∈ listed net := hlisted.mem_iff
  constructor
  case ids => exact (hlisted.map StopFrame.id).nodup_iff.mpr h.ids
  case pairs => exact fun f hf g hg => h.pairs f ((hmem f).mp hf) g ((hmem g).mp hg)
  case fresh =>
    intro f hf
    rw [hnext]
    exact h.fresh f ((hmem f).mp hf)
  case known =>
    intro out hout
    rw [hnext]
    rw [hlog, mem_append] at hout
    rcases hout with hout | hout
    · exact h.known out hout
    · obtain ⟨f, hf, s, rfl, -⟩ := hpaged out hout
      exact h.fresh f hf
  case once =>
    intro i hi
    rw [hnext] at hi
    simp only [hremoved, (hlisted.map StopFrame.id).mem_iff]
    exact h.once i hi
  case slots =>
    intro i s hout
    rw [hlog, mem_append] at hout
    rcases hout with hout | hout
    · exact h.slots i s hout
    · obtain ⟨f, -, s', heq, hs'⟩ := hpaged _ hout
      cases heq
      exact hs'
  case called =>
    intro i
    rw [hcalls]
    exact h.called i
  case uncalled =>
    intro f hf hfree
    rw [hcalls]
    exact h.uncalled f ((hmem f).mp hf) (hstack ▸ hfree)
  case frames =>
    intro f hf
    exact (hmem f).mpr (h.frames f (hstack ▸ hf))
  case depth => exact hstack ▸ h.depth

/-- A change of the BTSs only. -/
theorem PagingInv.same (hpending : net'.pending = net.pending) (hnext : net'.next = net.next)
    (hstack : net'.stack = net.stack) (houts : net'.outs = net.outs) : PagingInv net' := by
  refine h.quiet [] ?_ hnext hstack (by rw [houts, append_nil]) (forall_mem_nil _)
  unfold listed
  rw [hpending]

/-- **A new request**, for a subscriber for whom there is none on the BTS. -/
theorem PagingInv.add (b subscr : Nat)
    (hlisted : listed net' = listed net ++ [⟨net.next, b, subscr⟩]) (hnext : net'.next = net.next + 1)
    (hstack : net'.stack = net.stack) (houts : net'.outs = net.outs)
    (hnew : ∀ f ∈ listed net, ¬(f.bts = b ∧ f.subscr = subscr)) : PagingInv net' := by
  have hmem {f : StopFrame} (hf : f ∈ listed net') : f ∈ listed net ∨ f = ⟨net.next, b, subscr⟩ := by
    rw [hlisted, mem_append, mem_singleton] at hf
    exact hf
  have hunused : net.next ∉ (listed net).map StopFrame.id := by
    intro hin
    obtain ⟨f, hf, hid⟩ := mem_map.mp hin
    exact absurd (h.fresh f hf) (by rw [hid]; exact Nat.lt_irrefl _)
  have hunknown (q : PagingOut → Bool) (hq : ∀ out, q out = true → out.id = net.next) : net.outs.countP q = 0 := by
    refine countP_eq_zero.mpr ?_
    intro out hout hcall
    exact absurd (h.known out hout) (by rw [hq out hcall]; exact Nat.lt_irrefl _)
  constructor
  case ids =>
    rw [hlisted, map_append]
    refine nodup_append.mpr ⟨h.ids, nodup_singleton _, ?_⟩
    intro i hi j hj
    rintro rfl
    obtain rfl : i = net.next := by simpa using hj
    exact hunused hi
  case pairs =>
    intro f hf g hg hbts hsubscr
    rcases hmem hf with hf | rfl
    · rcases hmem hg with hg | rfl
      · exact h.pairs f hf g hg hbts hsubscr
      · exact absurd ⟨hbts, hsubscr⟩ (hnew f hf)
    · rcases hmem hg with hg | rfl
      · exact absurd ⟨hbts.symm, hsubscr.symm⟩ (hnew g hg)
      · rfl
  case fresh =>
    intro f hf
    rw [hnext]
    rcases hmem hf with hf | rfl
    · exact Nat.lt_succ_of_lt (h.fresh f hf)
    · exact Nat.lt_succ_self _
  case known =>
    intro out hout
    rw [hnext]
    exact Nat.lt_succ_of_lt (h.known out (houts ▸ hout))
  case once =>
    intro i hi
    rw [hnext] at hi
    rw [houts, hlisted, map_append]
    by_cases hnew : i = net.next
    · subst hnew
      have hzero : net.outs.count (.removed net.next) = 0 := by
        refine hunknown _ ?_
        intro out hout
        rw [eq_of_beq hout]
        rfl
      simp [hzero]
    · have honce := h.once i (by omega)
      simpa [hnew] using honce
  case slots =>
    intro i s hout
    exact h.slots i s (houts ▸ hout)
  case called =>
    intro i
    rw [houts]
    exact h.called i
  case uncalled =>
    intro f hf hfree
    rw [houts]
    rcases hmem hf with hf | rfl
    · exact h.uncalled f hf (hstack ▸ hfree)
    · refine hunknown _ ?_
      intro out hcall
      cases out with
      | callback id event => exact of_decide_eq_true hcall
      | _ => cases hcall
  case frames =>
    intro f hf
    rw [hlisted]
    exact mem_append_left _ (h.frames f (hstack ▸ hf))
  case depth => exact hstack ▸ h.depth

/-- **A request is removed** whose callback is not at work any more. -/
theorem PagingInv.remove {f : StopFrame} (hf : f ∈ listed net)
    (hlisted : listed net' = (listed net).filter fun g => g.id ≠ f.id) (hnext : net'.next = net.next)
    (hlog : net'.outs = net.outs ++ [.removed f.id]) (hstack : net'.stack.Sublist net.stack)
    (hdone : f ∉ net'.stack) (hothers : ∀ g ∈ net.stack, g ≠ f → g ∈ net'.stack) : PagingInv net' := by
  have hmem {g : StopFrame} : g ∈ listed net' ↔ g ∈ listed net ∧ g.id ≠ f.id := by
    rw [hlisted, mem_filter, decide_eq_true_eq]
  have hcalls (i : Nat) : net'.outs.countP (calls i) = net.outs.countP (calls i) := by
    rw [hlog, countP_append]
    rfl
  constructor
  case ids =>
    rw [hlisted]
    exact h.ids.sublist (filter_sublist.map StopFrame.id)
  case pairs => exact fun a ha b hb => h.pairs a (hmem.mp ha).1 b (hmem.mp hb).1
  case fresh =>
    intro g hg
    rw [hnext]
    exact h.fresh g (hmem.mp hg).1
  case known =>
    intro out hout
    rw [hnext]
    rw [hlog, mem_append, mem_singleton] at hout
    rcases hout with hout | rfl
    · exact h.known out hout
    · exact h.fresh f hf
  case once =>
    intro i hi
    rw [hnext] at hi
    have honce := h.once i hi
    have hids : i ∈ (listed net').map StopFrame.id ↔ i ∈ (listed net).map StopFrame.id ∧ i ≠ f.id := by
      simp only [mem_map, hmem]
      constructor
      · rintro ⟨g, ⟨hg, hne⟩, rfl⟩
        exact ⟨⟨g, hg, rfl⟩, hne⟩
      · rintro ⟨⟨g, hg, rfl⟩, hne⟩
        exact ⟨g, ⟨hg, hne⟩, rfl⟩
    rw [hlog, count_append]
    by_cases hif : i = f.id
    · subst hif
      have hin : f.id ∈ (listed net).map StopFrame.id := mem_map_of_mem hf
      rw [if_pos hin] at honce
      simp only [hids, ne_eq, not_true_eq_false, and_false, if_false, count_singleton_self]
      omega
    · have hother : [removed f.id].count (.removed i) = 0 := by
        simp [Ne.symm hif]
      simp only [hids, hother, ne_eq, hif, not_false_eq_true, and_true, Nat.add_zero]
      exact honce
  case slots =>
    intro i s hout
    rw [hlog, mem_append, mem_singleton] at hout
    rcases hout with hout | heq
    · exact h.slots i s hout
    · cases heq
  case called =>
    intro i
    rw [hcalls]
    exact h.called i
  case uncalled =>
    intro g hg hfree
    rw [hcalls]
    obtain ⟨hg, hne⟩ := hmem.mp hg
    refine h.uncalled g hg fun hin => hfree (hothers g hin ?_)
    rintro rfl
    exact hne rfl
  case frames =>
    intro g hg
    have hold := h.frames g (hstack.subset hg)
    refine hmem.mpr ⟨hold, ?_⟩
    intro hid
    rw [h.eq_of_id hold hf hid] at hg
    exact hdone hg
  case depth => exact h.depth.sublist hstack

/-- **A callback is invoked** for the first time: the request is pending and its callback at work from now on, or it is
    not pending. -/
theorem PagingInv.call {i : Nat} {event : GsmPagingEvent} (hlisted : listed net' = listed net)
    (hnext : net'.next = net.next) (hlog : net'.outs = net.outs ++ [.callback i event]) (hi : i < net.next)
    (hfirst : net.outs.countP (calls i) = 0)
    (hstack : net'.stack = net.stack ∧ i ∉ (listed net).map StopFrame.id ∨
      ∃ f ∈ listed net, f.id = i ∧ f ∉ net.stack ∧ net'.stack = f :: net.stack) : PagingInv net' := by
  have hcalls (j : Nat) : net'.outs.countP (calls j) = net.outs.countP (calls j) + if j = i then 1 else 0 := by
    rw [hlog, countP_append, countP_singleton]
    by_cases hj : j = i
    · simp [calls, hj]
    · simp [calls, hj, Ne.symm hj]
  have hsub : ∀ f ∈ net.stack, f ∈ net'.stack := by
    intro f hf
    rcases hstack with ⟨heq, -⟩ | ⟨g, -, -, -, heq⟩
    · exact heq ▸ hf
    · rw [heq]
      exact mem_cons_of_mem g hf
  constructor
  case ids => exact hlisted ▸ h.ids
  case pairs => exact hlisted ▸ h.pairs
  case fresh =>
    rw [hlisted, hnext]
    exact h.fresh
  case known =>
    intro out hout
    rw [hnext]
    rw [hlog, mem_append, mem_singleton] at hout
    rcases hout with hout | rfl
    · exact h.known out hout
    · exact hi
  case once =>
    intro j hj
    rw [hnext] at hj
    have hother : [callback i event].count (.removed j) = 0 := by
      simp
    rw [hlog, count_append, hother, Nat.add_zero, hlisted]
    exact h.once j hj
  case slots =>
    intro j s hout
    rw [hlog, mem_append, mem_singleton] at hout
    rcases hout with hout | heq
    · exact h.slots j s hout
    · cases heq
  case called =>
    intro j
    rw [hcalls]
    by_cases hj : j = i
    · subst hj
      exact Nat.le_of_eq (by rw [hfirst, if_pos rfl])
    · rw [if_neg hj]
      exact h.called j
  case uncalled =>
    intro f hf hfree
    rw [hlisted] at hf
    have hne : f.id ≠ i := by
      rcases hstack with ⟨-, hnot⟩ | ⟨g, hg, hid, -, heq⟩
      · rintro rfl
        exact hnot (mem_map_of_mem hf)
      · intro hfi
        rw [h.eq_of_id hf hg (hfi.trans hid.symm), heq] at hfree
        exact hfree mem_cons_self
    rw [hcalls, if_neg hne]
    exact h.uncalled f hf fun hin => hfree (hsub f hin)
  case frames =>
    intro f hf
    rw [hlisted]
    rcases hstack with ⟨heq, -⟩ | ⟨g, hg, -, -, heq⟩
    · exact h.frames f (heq ▸ hf)
    · rw [heq] at hf
      rcases mem_cons.mp hf with rfl | hf
      · exact hg
      · exact h.frames f hf
  case depth =>
    rcases hstack with ⟨heq, -⟩ | ⟨g, -, -, hnew, heq⟩
    · exact heq ▸ h.depth
    · rw [heq]
      exact nodup_cons.mpr ⟨hnew, h.depth⟩

end

/-! ## Handlers -/

variable {req : GsmPagingRequest}

theorem of_findRequest (h : net.findRequest b subscr = some req) :
    req ∈ net.pending ∧ req.bts = b ∧ req.subscr = subscr := by
  unfold findRequest at h
  exact ⟨mem_of_find?_eq_some h, by simpa using find?_some h⟩

theorem frame_mem_listed (h : req ∈ net.pending) : req.frame ∈ listed net :=
  mem_map_of_mem h

theorem listed_pagingRemoveRequest (net : PagingNet) (id : Nat) :
    listed (net.pagingRemoveRequest id) = (listed net).filter fun f => f.id ≠ id := by
  show (net.pending.filter fun r => r.id ≠ id).map GsmPagingRequest.frame = _
  unfold listed
  rw [filter_map]
  rfl

theorem PagingInv.modifyBts (h : PagingInv net) (b : Nat) (f : PagingBts → PagingBts) : PagingInv (net.modifyBts b f) :=
  h.same rfl rfl rfl rfl

theorem PagingInv.pagingScheduleIfNeeded (h : PagingInv net) (b : Nat) : PagingInv (net.pagingScheduleIfNeeded b) := by
  unfold PagingNet.pagingScheduleIfNeeded
  split
  · exact h
  · exact h.modifyBts b _

/-- The head is sent and put to the end of the list. -/
theorem PagingInv.pagingHandlePendingRequests (h : PagingInv net) (b : Nat) :
    PagingInv (net.pagingHandlePendingRequests b) := by
  unfold PagingNet.pagingHandlePendingRequests
  split
  · rename_i bts request hbts hfind
    split
    · exact h.modifyBts b _
    · rename_i hslots
      split
      · exact h.modifyBts b _
      · have hreq : request ∈ net.pending := mem_of_find?_eq_some hfind
        have hlisted : (net.pending.filter (fun r : GsmPagingRequest => r.id ≠ request.id) ++
              [{ request with attempts := request.attempts + 1 }]).map GsmPagingRequest.frame =
            ((listed net).filter fun f => f.id ≠ request.id) ++ [request.frame] := by
          rw [← listed_pagingRemoveRequest]
          exact map_append
        have hnodup : (listed net).Nodup := .of_map StopFrame.id h.ids
        have hperm : (((listed net).filter fun f => f.id ≠ request.id) ++ [request.frame]).Perm (listed net) := by
          refine (perm_ext_iff_of_nodup ?_ hnodup).mpr ?_
          · refine nodup_append.mpr ⟨hnodup.filter _, nodup_singleton _, ?_⟩
            intro f hf g hg
            rw [mem_singleton.mp hg]
            rintro rfl
            exact absurd rfl (of_decide_eq_true (mem_filter.mp hf).2)
          · intro f
            rw [mem_append, mem_filter, mem_singleton, decide_eq_true_eq]
            constructor
            · rintro (⟨hf, -⟩ | rfl)
              · exact hf
              · exact frame_mem_listed hreq
            · intro hf
              by_cases hid : f.id = request.id
              · exact .inr (h.eq_of_id hf (frame_mem_listed hreq) hid)
              · exact .inl ⟨hf, hid⟩
        refine h.quiet [.paged request.id bts.availableSlots] ?_ rfl rfl rfl ?_
        · exact (List.Perm.of_eq hlisted).trans hperm
        · intro out hout
          rw [mem_singleton.mp hout]
          exact ⟨request.frame, frame_mem_listed hreq, bts.availableSlots, rfl, hslots⟩
  · exact h

theorem PagingInv.pagingRequestOn (h : PagingInv net) (hreq : net.pagingRequestOn b subscr type cbfn = some net') :
    PagingInv net' := by
  unfold PagingNet.pagingRequestOn at hreq
  split at hreq
  · cases hreq
  · rename_i hnone
    cases hreq
    refine PagingInv.pagingScheduleIfNeeded ?_ b
    refine h.add b subscr map_append rfl rfl rfl ?_
    intro f hf hpair
    obtain ⟨r, hr, rfl⟩ := mem_map.mp hf
    have hfind : net.findRequest b subscr = none := Option.not_isSome_iff_eq_none.mp hnone
    exact find?_eq_none.mp hfind r hr (decide_eq_true hpair)

theorem PagingInv.pagingRequestLoop (bs : List Nat) (h : PagingInv net) (numPages : Nat) :
    PagingInv (pagingRequestLoop subscr type cbfn bs net numPages).1 := by
  induction bs generalizing net numPages with
  | nil => exact h
  | cons b bs ih =>
    unfold pagingRequestLoop
    split
    · exact ih h numPages
    · split
      · exact ih h numPages
      · dsimp only
        split
        · exact h.modifyBts b _
        · rename_i hreq
          exact ih ((h.modifyBts b _).pagingRequestOn hreq) _

/-- T3113 removes the request first, and nobody can stop its paging inside the callback. -/
theorem PagingInv.pagingT3113Expired (h : PagingInv net) (hstack : net.stack = []) (hreq : req ∈ net.pending) :
    PagingInv (net.pagingT3113Expired req) := by
  have hremoved : PagingInv (net.pagingRemoveRequest req.id) := by
    refine h.remove (frame_mem_listed hreq) (listed_pagingRemoveRequest net req.id) rfl rfl (.refl _) ?_ ?_
    · show req.frame ∉ net.stack
      rw [hstack]
      exact not_mem_nil
    · exact fun g hg _ => hg
  unfold PagingNet.pagingT3113Expired
  dsimp only
  split
  · refine hremoved.call rfl rfl rfl (h.fresh _ (frame_mem_listed hreq)) ?_ (.inl ⟨rfl, ?_⟩)
    · have hzero := h.uncalled _ (frame_mem_listed hreq) (by rw [hstack]; exact not_mem_nil)
      show (net.outs ++ [removed req.id]).countP (calls req.id) = 0
      rw [countP_append]
      exact Nat.add_eq_zero_iff.mpr ⟨hzero, rfl⟩
    · rw [listed_pagingRemoveRequest]
      intro hin
      obtain ⟨f, hf, hid⟩ := mem_map.mp hin
      exact of_decide_eq_true (mem_filter.mp hf).2 hid
  · exact hremoved

theorem PagingInv.pagingStopSilently (h : PagingInv net) (subscr b : Nat)
    (hwork : ∀ f ∈ net.stack, ¬(f.bts = b ∧ f.subscr = subscr)) :
    PagingInv (pagingStopSilently subscr net b) ∧ (pagingStopSilently subscr net b).stack = net.stack := by
  unfold PagingNet.pagingStopSilently
  dsimp only
  have hinit : PagingInv (net.pagingInitIfNeeded b) := h.modifyBts b _
  cases hfind : (net.pagingInitIfNeeded b).findRequest b subscr with
  | none => exact ⟨hinit, rfl⟩
  | some req =>
    obtain ⟨hreq, hbts, hsubscr⟩ := of_findRequest hfind
    refine ⟨?_, rfl⟩
    refine hinit.remove (frame_mem_listed hreq) (listed_pagingRemoveRequest _ req.id) rfl rfl (.refl _) ?_
      fun g hg _ => hg
    intro hin
    exact hwork _ hin ⟨hbts, hsubscr⟩

theorem PagingInv.pagingStopOthers (h : PagingInv net) {b? : Option Nat}
    (hwork : ∀ f ∈ net.stack, f.subscr = subscr → b? ≠ some f.bts → net.inLac (net.lacs subscr) f.bts = false) :
    PagingInv (net.pagingStopOthers b? subscr) := by
  unfold PagingNet.pagingStopOthers
  have hloop (bs : List Nat) {net : PagingNet} (h : PagingInv net)
      (hbs : ∀ b ∈ bs, ∀ f ∈ net.stack, ¬(f.bts = b ∧ f.subscr = subscr)) :
      PagingInv (bs.foldl (PagingNet.pagingStopSilently subscr) net) := by
    induction bs generalizing net with
    | nil => exact h
    | cons b bs ih =>
      obtain ⟨hnext, hstack⟩ := h.pagingStopSilently subscr b (hbs b mem_cons_self)
      refine ih hnext ?_
      rw [hstack]
      exact fun b' hb' => hbs b' (mem_cons_of_mem b hb')
  refine hloop _ h ?_
  rintro b hb f hf ⟨rfl, hsubscr⟩
  obtain ⟨-, hmatch⟩ := mem_filter.mp hb
  simp only [Bool.and_eq_true, decide_eq_true_eq] at hmatch
  rw [hwork f hf hsubscr hmatch.2] at hmatch
  exact absurd hmatch.1 Bool.false_ne_true

/-- The step stops the paging of a request whose callback is at work. -/
def stopsAtWork (net : PagingNet) : PagingNetEvent → Bool
  | .stop b? subscr conn =>
    net.stack.any fun f => f.subscr = subscr &&
      (b? = some f.bts || (net.invoked b? subscr conn).isNone && net.inLac (net.lacs subscr) f.bts)
  | .ret =>
    match net.stack with
    | [] => false
    | f :: stack => stack.any fun g => g.subscr = f.subscr && net.inLac (net.lacs f.subscr) g.bts
  | _ => false

theorem inLac_pagingStopSilently (net : PagingNet) (subscr b lac i : Nat) :
    (pagingStopSilently subscr net b).inLac lac i = net.inLac lac i := by
  have hbtsList : (pagingStopSilently subscr net b).btsList = (net.pagingInitIfNeeded b).btsList := by
    unfold pagingStopSilently
    dsimp only
    split
    · rfl
    · rfl
  unfold inLac
  rw [hbtsList]
  show ((net.modifyBts b _).btsList[i]?).any _ = _
  rw [getElem?_modifyBts]
  split
  · cases net.btsList[i]? with
    | none => rfl
    | some bts =>
      show decide (_ ∨ (if bts.inited then bts else _).locationAreaCode = lac) = _
      split
      · rfl
      · rfl
  · rfl

theorem PagingInv.pagingRequestStop (h : PagingInv net) {b? : Option Nat} {conn : Bool}
    (hwork : stopsAtWork net (.stop b? subscr conn) = false) : PagingInv (net.pagingRequestStop b? subscr conn) := by
  have hfree : ∀ f ∈ net.stack, f.subscr = subscr → b? ≠ some f.bts ∧
      (net.invoked b? subscr conn = none → net.inLac (net.lacs subscr) f.bts = false) := by
    intro f hf hsubscr
    have hnot := any_eq_false.mp hwork f hf
    simp only [hsubscr, decide_true, Bool.true_and, Bool.or_eq_true, decide_eq_true_eq, Bool.and_eq_true, not_or,
      not_and, Bool.not_eq_true, Option.isNone_iff_eq_none] at hnot
    exact hnot
  unfold PagingNet.pagingRequestStop
  cases hinvoked : net.invoked b? subscr conn with
  | some req =>
    obtain ⟨b, rfl, hfind⟩ := Option.bind_eq_some_iff.mp hinvoked
    obtain ⟨hfound, -⟩ := Option.filter_eq_some_iff.mp hfind
    obtain ⟨hreq, hbts, hsubscr⟩ := of_findRequest hfound
    have hnew : req.frame ∉ net.stack := by
      intro hin
      exact (hfree _ hin hsubscr).1 (congrArg some hbts.symm)
    have hlisted := frame_mem_listed hreq
    have hinit : PagingInv (net.pagingInitIfNeeded req.bts) := h.modifyBts req.bts _
    exact hinit.call rfl rfl rfl (h.fresh _ hlisted) (h.uncalled _ hlisted hnew)
      (.inr ⟨req.frame, hlisted, rfl, hnew, rfl⟩)
  | none =>
    have hothers : ∀ f ∈ net.stack, f.subscr = subscr → b? ≠ some f.bts → net.inLac (net.lacs subscr) f.bts = false :=
      fun f hf hsubscr _ => (hfree f hf hsubscr).2 hinvoked
    dsimp only
    cases b? with
    | none => exact h.pagingStopOthers hothers
    | some b =>
      obtain ⟨hstopped, hstack⟩ := h.pagingStopSilently subscr b (by
        rintro f hf ⟨rfl, hsubscr⟩
        exact (hfree f hf hsubscr).1 rfl)
      have hlacs : (PagingNet.pagingStopSilently subscr net b).lacs = net.lacs := by
        unfold PagingNet.pagingStopSilently
        dsimp only
        split
        · rfl
        · rfl
      refine hstopped.pagingStopOthers ?_
      rw [hstack, hlacs]
      intro f hf hsubscr hne
      rw [inLac_pagingStopSilently]
      exact hothers f hf hsubscr hne

/-- A callback returns, and its request is removed. -/
theorem PagingInv.pagingStopEnd (h : PagingInv net) {f : StopFrame} {stack : List StopFrame}
    (hstack : net.stack = f :: stack) (hwork : stopsAtWork net .ret = false) :
    PagingInv ({ net with stack := stack }.pagingStopEnd f) := by
  have hnodup : f ∉ stack ∧ stack.Nodup := by
    have hdepth := h.depth
    rw [hstack] at hdepth
    exact nodup_cons.mp hdepth
  have hremoved : PagingInv ({ net with stack := stack }.pagingRemoveRequest f.id) := by
    refine h.remove (h.frames f (by rw [hstack]; exact mem_cons_self))
      (listed_pagingRemoveRequest { net with stack := stack } f.id) rfl rfl ?_ hnodup.1 ?_
    · rw [hstack]
      exact sublist_cons_self f stack
    · intro g hg hne
      rw [hstack] at hg
      exact (mem_cons.mp hg).resolve_left hne
  refine hremoved.pagingStopOthers ?_
  intro g hg hsubscr _
  simp only [stopsAtWork, hstack] at hwork
  have hnot := any_eq_false.mp hwork g hg
  simp only [hsubscr, decide_true, Bool.true_and, Bool.not_eq_true] at hnot
  exact hnot

/-- **The step, for the requests.** -/
theorem PagingInv.step (h : PagingInv net) {ev : PagingNetEvent} (hwork : stopsAtWork net ev = false)
    (hstep : net.step ev = some net') : PagingInv net' := by
  cases ev with
  | addBts lac =>
    cases hstep
    exact h.same rfl rfl rfl rfl
  | configure b lac usable load freeChansNeed =>
    cases hstep
    exact h.modifyBts b _
  | setLac subscr lac =>
    cases hstep
    exact h.same rfl rfl rfl rfl
  | request subscr type cbfn =>
    cases hstep
    exact h.pagingRequestLoop _ 0
  | stop b? subscr conn =>
    cases hstep
    exact h.pagingRequestStop hwork
  | ret =>
    simp only [PagingNet.step] at hstep
    split at hstep
    · cases hstep
    · rename_i f stack hstack
      cases hstep
      exact h.pagingStopEnd hstack hwork
  | workTimer b =>
    simp only [PagingNet.step] at hstep
    split at hstep
    · cases hstep
      exact (h.modifyBts b _).pagingHandlePendingRequests b
    · cases hstep
  | creditTimer b =>
    simp only [PagingNet.step] at hstep
    split at hstep
    · cases hstep
      exact (h.modifyBts b _).pagingHandlePendingRequests b
    · cases hstep
  | t3113 id =>
    simp only [PagingNet.step] at hstep
    split at hstep
    · rename_i hstack
      obtain ⟨req, hreq, rfl⟩ := Option.map_eq_some_iff.mp hstep
      exact h.pagingT3113Expired hstack (mem_of_find?_eq_some hreq)
    · cases hstep
  | pagingLoad b freeSlots =>
    simp only [PagingNet.step] at hstep
    split at hstep
    · cases hstep
      exact ((h.modifyBts b _).modifyBts b _).pagingScheduleIfNeeded b
    · cases hstep

/-! ## The result -/

/-- What is expected of the paging scheduler: the timers run, no subscriber is paged twice on a BTS, a request is only
    sent where there are slots, and it is removed once with its callback invoked at most once. -/
structure PagedInOrder (net : PagingNet) : Prop where
  armed : ∀ b bts, net.btsList[b]? = some bts → net.pendingRequests b ≠ [] →
    bts.workTimer = true ∨ bts.creditTimer = true
  pairs : net.pending.Pairwise fun r q => ¬(r.bts = q.bts ∧ r.subscr = q.subscr)
  slots : ∀ id slots, PagingOut.paged id slots ∈ net.outs → slots ≠ 0
  removed : ∀ id < net.next,
    net.outs.count (.removed id) + (if id ∈ net.pending.map GsmPagingRequest.id then 1 else 0) = 1
  called : ∀ id, net.outs.countP (PagingOut.calls id) ≤ 1

theorem PagingInv.pagedInOrder (h : PagingInv net) (harmed : Armed net) : PagedInOrder net := by
  have hids : (listed net).map StopFrame.id = net.pending.map GsmPagingRequest.id := by
    unfold listed
    rw [map_map]
    rfl
  constructor
  case armed =>
    intro b bts hbts hne
    obtain ⟨r, hr⟩ := exists_mem_of_ne_nil _ hne
    obtain ⟨hr, hb⟩ := mem_filter.mp hr
    obtain ⟨bts', hbts', htimer⟩ := harmed r hr
    rw [of_decide_eq_true hb] at hbts'
    cases hbts.symm.trans hbts'
    exact htimer
  case pairs =>
    have hnodup := hids ▸ h.ids
    refine (pairwise_map.mp hnodup).imp_of_mem ?_
    rintro r q hr hq hne ⟨hbts, hsubscr⟩
    exact hne (congrArg StopFrame.id (h.pairs _ (frame_mem_listed hr) _ (frame_mem_listed hq) hbts hsubscr))
  case slots => exact h.slots
  case removed => exact hids ▸ h.once
  case called => exact h.called

theorem armed_of_reachable (h : Reachable pagingSystem net) : Armed net := by
  refine h.invariant ?_ fun _ _ _ harmed _ hstep => harmed.step hstep
  rintro _ ⟨pagAnyTch, neci, lacs, rfl⟩ r hr
  cases hr

/-- **Paging in order.** In a run in which nobody stops the paging whose callback is at work, the scheduler does what is
    expected of it. -/
theorem pagedInOrder_of_orderly (h : ReachableBy pagingSystem (fun net ev => stopsAtWork net ev = false) net) :
    PagedInOrder net := by
  have hinv : PagingInv net := by
    refine h.invariant ?_ fun _ _ _ hinv hwork hstep => hinv.step hwork hstep
    rintro _ ⟨pagAnyTch, neci, lacs, rfl⟩
    refine ⟨nodup_nil, ?_, ?_, ?_, ?_, ?_, ?_, ?_, ?_, nodup_nil⟩
    · exact fun f hf => absurd hf not_mem_nil
    · exact fun f hf => absurd hf not_mem_nil
    · exact fun out hout => absurd hout not_mem_nil
    · exact fun i hi => absurd hi (Nat.not_lt_zero i)
    · exact fun i s hout => absurd hout not_mem_nil
    · exact fun i => Nat.zero_le 1
    · exact fun f hf => absurd hf not_mem_nil
    · exact fun f hf => absurd hf not_mem_nil
  exact hinv.pagedInOrder (armed_of_reachable h.reachable)

/-- A subscriber is paged on two BTSs and answers on one; the callback asks for another subscriber. -/
def twoBtsPaged : List PagingNetEvent :=
  [.addBts 1, .addBts 1, .setLac 5 1, .setLac 6 1, .request 5 .sdcch (some 0), .workTimer 0, .pagingLoad 1 0,
    .workTimer 1,
    .stop (some 0) 5 true, .request 6 .tchF none, .ret, .creditTimer 1, .t3113 2]

theorem pagedInOrder_twoBtsPaged :
    ∃ net, guardedRun step (fun net ev => stopsAtWork net ev = false) {} twoBtsPaged = some net ∧ PagedInOrder net := by
  obtain ⟨net, hnet⟩ : ∃ net, guardedRun step (fun net ev => stopsAtWork net ev = false) {} twoBtsPaged =
      some net :=
    Option.isSome_iff_exists.mp (by decide +kernel)
  exact ⟨net, hnet, pagedInOrder_of_orderly
    (ReachableBy.guardedRun (fun _ _ _ h => h) (.init ⟨false, false, _, rfl⟩) hnet)⟩

/-- The callback of an answered request stops the paging of its subscriber, and the request is removed a second time
    when the callback returns. -/
theorem removed_twice : ∃ net, Reachable pagingSystem net ∧ ¬PagedInOrder net := by
  obtain ⟨net, hnet, hnext, hcount⟩ : ∃ net ∈ guardedRun step (fun _ _ => True) {}
      [.addBts 1, .setLac 5 1, .request 5 .sdcch (some 0), .workTimer 0, .stop (some 0) 5 true,
        .stop none 5 false, .ret],
      0 < net.next ∧ net.outs.count (.removed 0) = 2 := by
    decide +kernel
  refine ⟨net, ReachableBy.guardedRun (fun _ _ _ h => h) (.init ⟨false, false, _, rfl⟩) hnet, ?_⟩
  intro h
  have hremoved := h.removed 0 hnext
  omega

end OpenBsc.Libbsc
