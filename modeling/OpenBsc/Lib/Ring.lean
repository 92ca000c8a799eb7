import Mathlib.Algebra.BigOperators.Intervals
import Mathlib.Tactic.Common

/-!
# `Lib.Ring` — the last values written into a ring of cells

Values are written one after the other, the value with the number `i` into the cell `i % n`. So the cells keep the last
`n` values, and the cell of a value holds it until `n` more are written.
-/

namespace Ring

variable {α : Type} {n : Nat}

/-! ## Cells -/

/-- The cell of the value with the number `i`. -/
def cell [NeZero n] (cells : Vector α n) (i : Nat) : α := cells[Fin.ofNat n i]

/-- The value with the number `i` is written. -/
def write [NeZero n] (cells : Vector α n) (i : Nat) (v : α) : Vector α n :=
  cells.set (i % n) v (Nat.mod_lt i (NeZero.pos n))

theorem cell_congr [NeZero n] (cells : Vector α n) {i j : Nat} (h : i % n = j % n) : cell cells i = cell cells j :=
  congrArg (fun k : Fin n => cells[k]) (Fin.ext h)

theorem cell_write [NeZero n] (cells : Vector α n) (i j : Nat) (v : α) :
    cell (write cells i v) j = if j % n = i % n then v else cell cells j := by
  unfold cell write
  simp only [Fin.getElem_fin, Fin.val_ofNat]
  rw [Vector.getElem_set]
  simp only [eq_comm]

/-! ## Windows -/

/-- A loop that adds up. -/
theorem foldl_sum (f : Nat → Nat) (w : Nat) :
    (List.range w).foldl (fun sum i => sum + f i) 0 = ∑ i ∈ Finset.range w, f i := by
  induction w with
  | zero => rfl
  | succ w ih => rw [List.range_succ, List.foldl_append, ih, Finset.sum_range_succ, List.foldl_cons, List.foldl_nil]

/-- **The last `w` cells before the value `i + n`, from the oldest on, are those before it from the newest on.** -/
theorem sum_window [NeZero n] (cells : Vector Nat n) (i : Nat) {w : Nat} (hw : w ≤ n) :
    ∑ k ∈ Finset.range w, cell cells (i + n - w + k) = ∑ k ∈ Finset.range w, cell cells (i + n - 1 - k) := by
  rw [← Finset.sum_range_reflect]
  refine Finset.sum_congr rfl fun k hk => ?_
  rw [Finset.mem_range] at hk
  exact congrArg (cell cells) (by omega)

end Ring
