import Mathlib.Data.List.Induction
import Mathlib.Data.List.TakeWhile
import Mathlib.Tactic.Common

/-!
# `Lib.Scan` — a list that is worked off until an element is refused

`scan refuses apply s l` applies the elements of `l` to the state one after the other, and ends at the first one that is
refused. What an element sets, the last one of its kind decides (`foldl_lastOf`). Nothing here knows what the elements
are.
-/

namespace Scan

open List

variable {α β ε σ : Type*}

/-! ## The scan -/

/-- The elements are applied until one is refused, with the state and the reason. -/
def scan (refuses : α → Option ε) (apply : σ → α → σ) (s : σ) : List α → σ × Option ε
  | [] => (s, none)
  | a :: l =>
    match refuses a with
    | some e => (s, some e)
    | none => scan refuses apply (apply s a) l

/-- The elements before the first one that is refused. -/
def accepted (refuses : α → Option ε) (l : List α) : List α := l.takeWhile fun a => (refuses a).isNone

variable {refuses : α → Option ε} {apply : σ → α → σ}

variable (value : α → Option β) (s : σ) (l l' : List α)

/-- **What a scan does.** -/
theorem scan_eq :
    scan refuses apply s l = ((accepted refuses l).foldl apply s, l.findSome? refuses) := by
  induction l generalizing s with
  | nil => rfl
  | cons a l ih =>
    unfold scan accepted
    cases ha : refuses a with
    | some e => simp [ha]
    | none =>
      simp only [takeWhile_cons, ha, Option.isNone_none, if_true, foldl_cons, List.findSome?_cons]
      exact ih (apply s a)

theorem mem_of_accepted {l : List α} {a : α} (h : a ∈ accepted refuses l) : a ∈ l ∧ refuses a = none := by
  refine ⟨(takeWhile_sublist _).subset h, ?_⟩
  simpa using mem_takeWhile_imp h

theorem accepted_eq_self {l : List α} (h : l.findSome? refuses = none) : accepted refuses l = l := by
  refine takeWhile_eq_self_iff.mpr fun a ha => ?_
  rw [List.findSome?_eq_none_iff.mp h a ha]
  rfl

/-- A scan with one reason for all. -/
theorem findSome?_ite (p : α → Bool) (e : ε) (l : List α) :
    (l.findSome? fun a => if p a then some e else none) = if l.any p then some e else none := by
  induction l with
  | nil => rfl
  | cons a l ih =>
    rw [List.findSome?_cons, any_cons, ih]
    cases p a <;> rfl

/-! ## Assignments -/

/-- The value that the last element with one has. -/
def lastOf (value : α → Option β) (l : List α) : Option β := (l.filterMap value).getLast?

theorem lastOf_append :
    lastOf value (l ++ l') = (lastOf value l').or (lastOf value l) := by
  unfold lastOf
  rw [filterMap_append, List.getLast?_append]

theorem lastOf_concat (a : α) :
    lastOf value (l ++ [a]) = (value a).or (lastOf value l) := by
  rw [lastOf_append]
  unfold lastOf
  cases ha : value a with
  | none | some => simp [ha]

/-- **The last assignment counts.** -/
theorem foldl_lastOf {get : σ → Option β} {value : α → Option β} (h : ∀ s a, get (apply s a) = (value a).or (get s))
    (s : σ) (l : List α) : get (l.foldl apply s) = (lastOf value l).or (get s) := by
  induction l using List.reverseRecOn with
  | nil => rfl
  | append_singleton l a ih =>
    rw [foldl_append, foldl_cons, foldl_nil, h, ih, lastOf_concat]
    cases value a with
    | none => rfl
    | some b => rfl

end Scan
