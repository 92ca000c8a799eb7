import Mathlib.Logic.Relation

/-!
# `Lib.Transition` — labelled transition systems and their invariant rules

A `System` is a set of initial states and a labelled step relation; nothing here knows what the states
or the labels are. `ReachableBy M G` is the set of states reached by steps that each satisfy the guard
`G` (a condition on the state before the step and on its label), so a result about every run whose
steps meet a condition is a result about `ReachableBy`, and `Reachable` is the guard that is always met.
-/

namespace Transition

/-- A transition system: the initial states, and which labels lead from a state to which states. -/
structure System (σ ι : Type*) where
  init : σ → Prop
  step : σ → ι → σ → Prop

/-- The states reached from an initial one by steps that each meet the guard `G`. -/
inductive ReachableBy {σ ι : Type*} (M : System σ ι) (G : σ → ι → Prop) : σ → Prop where
  | init {s : σ} (h : M.init s) : ReachableBy M G s
  | step {s s' : σ} {l : ι} (h : ReachableBy M G s) (hg : G s l) (hs : M.step s l s') :
      ReachableBy M G s'

/-- The states reached from an initial one by any steps. -/
abbrev Reachable {σ ι : Type*} (M : System σ ι) : σ → Prop := ReachableBy M (fun _ _ => True)

variable {σ ι : Type*} {M : System σ ι} {G G' : σ → ι → Prop}

/-- A weaker guard reaches at least as many states. -/
theorem ReachableBy.mono (hG : ∀ s l, G s l → G' s l) {s : σ} (h : ReachableBy M G s) :
    ReachableBy M G' s := by
  induction h with
  | init hi => exact .init hi
  | step _ hg hs ih => exact .step ih (hG _ _ hg) hs

/-- Every guarded run is a run. -/
theorem ReachableBy.reachable {s : σ} (h : ReachableBy M G s) : Reachable M s :=
  h.mono (fun _ _ _ => trivial)

/-- **The invariant rule.** What holds initially, and is kept by every step that meets the guard, holds
    in every state such steps reach. -/
theorem ReachableBy.invariant {I : σ → Prop} (hinit : ∀ s, M.init s → I s)
    (hstep : ∀ s l s', I s → G s l → M.step s l s' → I s') {s : σ} (h : ReachableBy M G s) : I s := by
  induction h with
  | init hi => exact hinit _ hi
  | step _ hg hs ih => exact hstep _ _ _ ih hg hs

/-- The invariant rule over an invariant `J` that is already known of the reached states. -/
theorem ReachableBy.invariant_of {I J : σ → Prop} (hJ : ∀ s, ReachableBy M G s → J s)
    (hinit : ∀ s, M.init s → I s)
    (hstep : ∀ s l s', J s → I s → G s l → M.step s l s' → I s') {s : σ}
    (h : ReachableBy M G s) : I s := by
  induction h with
  | init hi => exact hinit _ hi
  | step hr hg hs ih => exact hstep _ _ _ (hJ _ hr) ih hg hs

/-- Where the steps are a function, a list of labels leads to a reachable state. -/
theorem ReachableBy.foldl {f : σ → ι → σ} (hf : ∀ s l, M.step s l (f s l)) (labels : List ι) {s : σ}
    (h : Reachable M s) : Reachable M (labels.foldl f s) := by
  induction labels generalizing s with
  | nil => exact h
  | cons l labels ih => exact ih (.step h trivial (hf s l))

/-- Where the steps are a function, every step along a list of labels meets the guard. -/
def Along (f : σ → ι → σ) (G : σ → ι → Prop) : σ → List ι → Prop
  | _, [] => True
  | s, l :: labels => G s l ∧ Along f G (f s l) labels

instance (f : σ → ι → σ) [∀ s l, Decidable (G s l)] : (s : σ) → (labels : List ι) → Decidable (Along f G s labels)
  | _, [] => inferInstanceAs (Decidable True)
  | s, l :: labels =>
    have : Decidable (Along f G (f s l) labels) := instDecidableAlong f (f s l) labels
    inferInstanceAs (Decidable (G s l ∧ Along f G (f s l) labels))

/-- A list of labels along which the guard is met leads to a state that is reached so. -/
theorem ReachableBy.along {f : σ → ι → σ} (hf : ∀ s l, M.step s l (f s l)) {labels : List ι} {s : σ}
    (h : ReachableBy M G s) (hG : Along f G s labels) : ReachableBy M G (labels.foldl f s) := by
  induction labels generalizing s with
  | nil => exact h
  | cons l labels ih => exact ih (.step h hG.1 (hf s l)) hG.2

/-- Where the steps are a partial function: the state a list of labels leads to, if every step along it exists and
    meets the guard. -/
def guardedRun (f : σ → ι → Option σ) (G : σ → ι → Prop) [∀ s l, Decidable (G s l)] : σ → List ι → Option σ
  | s, [] => some s
  | s, l :: labels => if G s l then (f s l).bind fun s' => guardedRun f G s' labels else none

theorem ReachableBy.guardedRun {f : σ → ι → Option σ} [∀ s l, Decidable (G s l)]
    (hf : ∀ s l s', f s l = some s' → M.step s l s') {labels : List ι} {s s' : σ} (h : ReachableBy M G s)
    (hrun : guardedRun f G s labels = some s') : ReachableBy M G s' := by
  induction labels generalizing s with
  | nil =>
    cases hrun
    exact h
  | cons l labels ih =>
    simp only [Transition.guardedRun] at hrun
    split at hrun
    case isTrue hg =>
      obtain ⟨mid, hmid, hrest⟩ := Option.bind_eq_some_iff.mp hrun
      exact ih (.step h hg (hf s l mid hmid)) hrest
    case isFalse => cases hrun

/-- A record of what happened is kept beside the state, and every step updates it. -/
def System.recording {τ : Type*} (M : System σ ι) (r : τ) (upd : τ → σ → ι → σ → τ) : System (σ × τ) ι where
  init p := M.init p.1 ∧ p.2 = r
  step p l p' := M.step p.1 l p'.1 ∧ p'.2 = upd p.2 p.1 l p'.1

/-- The steps of a partial function, with such a record. -/
def recorded {τ : Type*} (f : σ → ι → Option σ) (upd : τ → σ → ι → σ → τ) (p : σ × τ) (l : ι) : Option (σ × τ) :=
  (f p.1 l).map fun s' => (s', upd p.2 p.1 l s')

theorem step_recorded {τ : Type*} {f : σ → ι → Option σ} (hf : ∀ s l s', f s l = some s' → M.step s l s') {r : τ}
    {upd : τ → σ → ι → σ → τ} (p : σ × τ) (l : ι) (p' : σ × τ) (h : recorded f upd p l = some p') :
    (M.recording r upd).step p l p' := by
  obtain ⟨s', hs', rfl⟩ := Option.map_eq_some_iff.mp h
  exact ⟨hf _ _ _ hs', rfl⟩

/-- What every micro step keeps, a chain of micro steps keeps. -/
theorem closure_preserves {r : σ → σ → Prop} {I : σ → Prop} (hr : ∀ a b, I a → r a b → I b)
    {a b : σ} (hab : Relation.ReflTransGen r a b) (ha : I a) : I b := by
  induction hab with
  | refl => exact ha
  | tail _ hbc ih => exact hr _ _ ih hbc

/-- A loop over a list is a chain of micro steps when each of its rounds is one. -/
theorem closure_foldl {α : Type*} {r : σ → σ → Prop} {f : σ → α → σ}
    (hf : ∀ s a, Relation.ReflTransGen r s (f s a)) (l : List α) (s : σ) :
    Relation.ReflTransGen r s (l.foldl f s) := by
  induction l generalizing s with
  | nil => exact .refl
  | cons a l ih => exact (hf s a).trans (ih (f s a))

/-- What every round of a loop that may fail keeps, the loop keeps. -/
theorem foldlM_preserves {α : Type*} {f : σ → α → Option σ} {I : σ → Prop} {l : List α} {s s' : σ}
    (hf : ∀ s, ∀ a ∈ l, ∀ s', I s → f s a = some s' → I s') (hs : I s) (h : l.foldlM f s = some s') : I s' := by
  induction l generalizing s with
  | nil =>
    cases h
    exact hs
  | cons a l ih =>
    rw [List.foldlM_cons] at h
    obtain ⟨mid, hmid, hrest⟩ := Option.bind_eq_some_iff.mp h
    exact ih (fun s b hb => hf s b (List.mem_cons_of_mem _ hb)) (hf s a List.mem_cons_self mid hs hmid) hrest

/-- A chain of micro steps whose labels are allowed. -/
def Moves (r : σ → ι → σ → Prop) (allowed : ι → Prop) : σ → σ → Prop :=
  Relation.ReflTransGen fun a b => ∃ l, allowed l ∧ r a l b

section Moves

variable {r : σ → ι → σ → Prop} {allowed allowed' : ι → Prop} {a b c : σ}

theorem Moves.refl (a : σ) : Moves r allowed a a := Relation.ReflTransGen.refl

theorem Moves.one {l : ι} (hl : allowed l) (h : r a l b) : Moves r allowed a b := .single ⟨l, hl, h⟩

theorem Moves.trans (hab : Moves r allowed a b) (hbc : Moves r allowed b c) : Moves r allowed a c :=
  Relation.ReflTransGen.trans hab hbc

theorem Moves.snoc {l : ι} (hab : Moves r allowed a b) (hl : allowed l) (h : r b l c) : Moves r allowed a c :=
  hab.trans (.one hl h)

/-- What the micro steps with such labels keep. -/
theorem Moves.preserves {I : σ → Prop} (hI : ∀ a l b, I a → allowed l → r a l b → I b) (h : Moves r allowed a b)
    (ha : I a) : I b := by
  refine closure_preserves ?_ h ha
  rintro a b ha ⟨l, hl, hr⟩
  exact hI a l b ha hl hr

end Moves

end Transition
