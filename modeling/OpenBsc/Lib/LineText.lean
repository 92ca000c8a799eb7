import Mathlib.Data.List.SplitOn
import Mathlib.Tactic.Common

/-!
# `Lib.LineText` — a text as lines

A text is lines that each end in a separator, and what follows the last one. Where no line contains the separator, the
text determines the lines (`textOf_inj`), and splitting it yields them (`splitOn_textOf`).
-/

namespace LineText

open List

variable {α : Type*} {sep : α} {lines lines' : List (List α)} {rest rest' : List α}

/-- The lines, each with its end. -/
def ended (sep : α) (lines : List (List α)) : List α := lines.flatMap fun line => line ++ [sep]

@[simp] theorem ended_cons (line : List α) : ended sep (line :: lines) = line ++ sep :: ended sep lines := by
  simp [ended]

/-- **Splitting a text** yields its lines and what follows them. -/
theorem splitOn_textOf [DecidableEq α] (h : ∀ line ∈ lines, sep ∉ line) (hrest : sep ∉ rest) :
    (ended sep lines ++ rest).splitOn sep = lines ++ [rest] := by
  induction lines with
  | nil => exact splitOn_eq_singleton hrest
  | cons line lines ih =>
    rw [ended_cons, append_assoc, cons_append,
      splitOn_append_cons_self_of_not_mem (h line mem_cons_self),
      ih fun line' hline' => h line' (mem_cons_of_mem _ hline'), cons_append]

/-- **A text determines its lines.** -/
theorem textOf_inj (h : ∀ line ∈ lines, sep ∉ line) (hrest : sep ∉ rest) (h' : ∀ line ∈ lines', sep ∉ line)
    (hrest' : sep ∉ rest') (heq : ended sep lines ++ rest = ended sep lines' ++ rest') :
    lines = lines' ∧ rest = rest' := by
  classical
  have hsplit : lines ++ [rest] = lines' ++ [rest'] := by
    rw [← splitOn_textOf h hrest, heq, splitOn_textOf h' hrest']
  obtain ⟨hlines, hlast⟩ := append_inj' hsplit rfl
  exact ⟨hlines, singleton_inj.mp hlast⟩

end LineText
