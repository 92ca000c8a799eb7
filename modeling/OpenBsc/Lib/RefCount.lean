import Mathlib.Logic.Function.Basic
import Mathlib.Tactic.Common

/-!
# `Lib.RefCount` — objects that are freed with their last reference

An object keeps the number of its references, and is freed when the last one is dropped, unless the program keeps such
objects until they are purged. `Counted` relates the numbers, which the code changes, to what is really held: an object
that exists has the number of those who hold it, and nobody holds one that was freed.
-/

namespace RefCount

open RefCount

variable {ι : Type*}

/-! ## Operations -/

section Operations

variable [DecidableEq ι]

/-- One more reference to an object. -/
def take (count : ι → Option Int) (i : ι) : ι → Option Int := Function.update count i ((count i).map (· + 1))

/-- What is left of an object with `n` references when one is dropped. -/
def dropped (keep : Bool) (n : Int) : Option Int := if n - 1 ≤ 0 && !keep then none else some (n - 1)

/-- A reference to an object is dropped. -/
def drop (keep : Bool) (count : ι → Option Int) (i : ι) : ι → Option Int :=
  Function.update count i ((count i).bind (dropped keep))

/-- A new object, for who made it. -/
def create (count : ι → Option Int) (i : ι) : ι → Option Int := Function.update count i (some 1)

end Operations

/-- The objects without references are freed. -/
def purge (count : ι → Option Int) (i : ι) : Option Int := (count i).filter fun n => decide (0 < n)

/-! ## Rules -/

/-- **The numbers are right**, and what was freed is not held. -/
structure Counted (count : ι → Option Int) (held : ι → Nat) : Prop where
  live : ∀ i n, count i = some n → n = held i
  gone : ∀ i, count i = none → held i = 0

namespace Counted

variable {count : ι → Option Int} {held held' : ι → Nat} {i : ι} {n : Int}

theorem exists_of_held (h : Counted count held) (hi : 0 < held i) : ∃ n, count i = some n := by
  cases hn : count i with
  | none =>
    rw [h.gone i hn] at hi
    exact absurd hi (Nat.lt_irrefl 0)
  | some n => exact ⟨n, rfl⟩

theorem congr (h : Counted count held) (hheld : ∀ j, held' j = held j) : Counted count held' := by
  obtain rfl : held' = held := funext hheld
  exact h

/-- An object without references is held by nobody, so it can be freed. -/
theorem purge (h : Counted count held) : Counted (purge count) held where
  live j n hn := h.live j n (Option.filter_eq_some_iff.mp hn).1
  gone j hj := by
    cases hn : count j with
    | none => exact h.gone j hn
    | some n =>
      have hle : ¬ 0 < n := by simpa [RefCount.purge, hn, Option.filter] using hj
      have heq := h.live j n hn
      omega

variable [DecidableEq ι]

/-- The number of one object is another one. -/
theorem update {o : Option Int} (h : Counted count held) (hother : ∀ j, j ≠ i → held' j = held j)
    (hlive : ∀ m, o = some m → m = held' i) (hgone : o = none → held' i = 0) :
    Counted (Function.update count i o) held' where
  live j m hm := by
    by_cases hj : j = i
    · subst hj
      rw [Function.update_self] at hm
      exact hlive m hm
    · rw [Function.update_of_ne hj] at hm
      rw [hother j hj]
      exact h.live j m hm
  gone j hm := by
    by_cases hj : j = i
    · subst hj
      rw [Function.update_self] at hm
      exact hgone hm
    · rw [Function.update_of_ne hj] at hm
      rw [hother j hj]
      exact h.gone j hm

theorem take (h : Counted count held) (hi : count i = some n)
    (hheld : ∀ j, held' j = held j + if j = i then 1 else 0) : Counted (take count i) held' := by
  have hn := h.live i n hi
  refine h.update (fun j hj => by rw [hheld j, if_neg hj, Nat.add_zero]) ?_ (by rw [hi]; exact nofun)
  intro m hm
  rw [hi] at hm
  have hm' : n + 1 = m := Option.some.inj hm
  rw [hheld i, if_pos rfl]
  omega

/-- Who drops a reference holds it no longer. The last one frees the object. -/
theorem drop (h : Counted count held) (keep : Bool) (hheld : ∀ j, held j = held' j + if j = i then 1 else 0) :
    Counted (drop keep count i) held' := by
  obtain ⟨n, hi⟩ := h.exists_of_held (i := i) (by rw [hheld i, if_pos rfl]; omega)
  have hn := h.live i n hi
  rw [hheld i, if_pos rfl] at hn
  have hdropped : (count i).bind (dropped keep) = if n - 1 ≤ 0 && !keep then none else some (n - 1) := by
    rw [hi]
    rfl
  refine h.update (fun j hj => by rw [hheld j, if_neg hj, Nat.add_zero]) (fun m hm => ?_) fun hnone => ?_
  · rw [hdropped] at hm
    split at hm
    · cases hm
    · have hm' : n - 1 = m := Option.some.inj hm
      omega
  · rw [hdropped] at hnone
    split at hnone
    next hlast =>
      have hle : n - 1 ≤ 0 := by simpa using (Bool.and_eq_true_iff.mp hlast).1
      omega
    next => cases hnone

theorem create (h : Counted count held) (hi : count i = none)
    (hheld : ∀ j, held' j = held j + if j = i then 1 else 0) : Counted (create count i) held' := by
  have hzero := h.gone i hi
  refine h.update (fun j hj => by rw [hheld j, if_neg hj, Nat.add_zero]) (fun m hm => ?_) nofun
  have hm' : 1 = m := Option.some.inj hm
  rw [hheld i, if_pos rfl]
  omega

end Counted

end RefCount
