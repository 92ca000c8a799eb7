import Mathlib.Data.List.Perm.Basic
import Mathlib.Data.List.Perm.Subperm
import Mathlib.Data.Nat.Bitwise
import Mathlib.Tactic.Common

/-!
# `Lib.Bitmask` — sets of small numbers kept in the bits of a number

`Bitmask.set m i` sets the bit `i`, `Bitmask.below n` has the bits under `n` set. A mask that was filled
bit by bit from a list is full exactly when the list holds every number below the bound, and then a list
without repetitions is a rearrangement of `0, …, n - 1` (`perm_range_of_ofList_eq_below`).
-/

namespace Bitmask

/-- `m | (1 << i)`. -/
def set (m i : Nat) : Nat := m ||| 1 <<< i

/-- The bits `0, …, n - 1`, set one by one from the lowest. -/
def below (n : Nat) : Nat := (List.range n).foldl set 0

/-- The mask filled from the entries of a list, the last one first. -/
def ofList (l : List Nat) : Nat := l.foldr (fun i m => set m i) 0

theorem testBit_set (m i j : Nat) : (set m i).testBit j = (m.testBit j || decide (i = j)) := by
  rw [set, Nat.testBit_or, Nat.one_shiftLeft, Nat.testBit_two_pow]

theorem testBit_foldl_set (l : List Nat) (m j : Nat) :
    (l.foldl set m).testBit j = (m.testBit j || decide (j ∈ l)) := by
  induction l generalizing m with
  | nil => simp
  | cons i l ih =>
    rw [List.foldl_cons, ih, testBit_set, Bool.or_assoc]
    simp [eq_comm]

theorem testBit_below (n j : Nat) : (below n).testBit j = decide (j < n) := by
  simp [below, testBit_foldl_set]

@[simp] theorem ofList_nil : ofList [] = 0 := rfl

theorem ofList_cons (i : Nat) (l : List Nat) : ofList (i :: l) = set (ofList l) i := rfl

theorem testBit_ofList (l : List Nat) (j : Nat) : (ofList l).testBit j = decide (j ∈ l) := by
  induction l with
  | nil => simp
  | cons i l ih =>
    rw [ofList_cons, testBit_set, ih]
    simp [Bool.or_comm, eq_comm]

/-- The mask of a list is the full one exactly when the list has the same members as the range. -/
theorem ofList_eq_below {l : List Nat} {n : Nat} : ofList l = below n ↔ ∀ j, j ∈ l ↔ j < n := by
  constructor
  · intro h j
    have hj := congrArg (Nat.testBit · j) h
    simpa [testBit_ofList, testBit_below] using hj
  · intro h
    refine Nat.eq_of_testBit_eq fun j => ?_
    rw [testBit_ofList, testBit_below, decide_eq_decide]
    exact h j

/-- A list without repetitions whose mask is full is a rearrangement of `0, …, n - 1`. -/
theorem perm_range_of_ofList_eq_below {l : List Nat} {n : Nat} (hl : l.Nodup)
    (h : ofList l = below n) : l.Perm (List.range n) :=
  (List.perm_ext_iff_of_nodup hl List.nodup_range).mpr fun j => by
    rw [ofList_eq_below.mp h j, List.mem_range]

end Bitmask
