import Mathlib.Data.List.TakeWhile
import Mathlib.Tactic.Common

/-!
# `Lib.Strtok` — cutting a string into words

`strtok sep s` is one call of `strtok_r` on what `saveptr` points to: the separators at the front are skipped, the word
ends before the next separator, and that one separator is taken off. Nothing here knows what the characters are.
-/

namespace Strtok

open List

variable {α : Type*}

/-- `strtok_r`: the word, if there is one, and what `saveptr` points to. -/
def strtok (sep : α → Bool) (s : List α) : Option (List α) × List α :=
  match s.dropWhile sep with
  | [] => (none, [])
  | c :: rest => (some ((c :: rest).takeWhile fun a => !sep a), ((c :: rest).dropWhile fun a => !sep a).drop 1)

variable {sep : α → Bool} {word rest : List α} {c : α}

@[simp] theorem strtok_nil : strtok sep [] = (none, []) := rfl

/-- Where nothing is to be skipped, the word starts at once. -/
theorem strtok_cons (hc : sep c = false) :
    strtok sep (c :: rest) =
      (some ((c :: rest).takeWhile fun a => !sep a), ((c :: rest).dropWhile fun a => !sep a).drop 1) := by
  have hskip : (c :: rest).dropWhile sep = c :: rest := by
    simp [hc]
  unfold strtok
  rw [hskip]

theorem strtok_word (hword : ∀ a ∈ word, sep a = false) (hne : word ≠ []) (hc : sep c = true) :
    strtok sep (word ++ c :: rest) = (some word, rest) := by
  obtain ⟨a, as, rfl⟩ := exists_cons_of_ne_nil hne
  have hall : ∀ x ∈ a :: as, (!sep x) = true := by
    intro x hx
    simp [hword x hx]
  show strtok sep (a :: (as ++ c :: rest)) = _
  rw [strtok_cons (hword a mem_cons_self), ← cons_append, takeWhile_append_of_pos hall, dropWhile_append_of_pos hall]
  simp [hc]

theorem strtok_last (hword : ∀ a ∈ word, sep a = false) (hne : word ≠ []) : strtok sep word = (some word, []) := by
  obtain ⟨a, as, rfl⟩ := exists_cons_of_ne_nil hne
  have hall : ∀ x ∈ a :: as, (!sep x) = true := by
    intro x hx
    simp [hword x hx]
  rw [strtok_cons (hword a mem_cons_self), takeWhile_eq_self_iff.mpr hall, dropWhile_eq_nil_iff.mpr hall, drop_nil]

/-- Without separators all that is left is one word. -/
theorem strtok_all (hne : word ≠ []) : strtok (fun _ : α => false) word = (some word, []) :=
  strtok_last (fun _ _ => rfl) hne

theorem strtok_some {s : List α} (h : strtok sep s = (some word, rest)) : word ≠ [] ∧ ∀ a ∈ word, sep a = false := by
  unfold strtok at h
  split at h
  · cases h
  · rename_i a as hskip
    obtain ⟨hword, -⟩ := Prod.mk.inj h
    cases hword
    have ha : sep a = false := by
      have hpos : 0 < (s.dropWhile sep).length := by
        rw [hskip]
        exact Nat.succ_pos _
      have hhead := dropWhile_get_zero_not (p := sep) s hpos
      simpa [hskip] using hhead
    refine ⟨?_, ?_⟩
    · intro hnil
      simp [ha] at hnil
    · intro x hx
      simpa using mem_takeWhile_imp hx

end Strtok
