import Mathlib.Data.List.Count
import Mathlib.Data.List.Nodup
import Mathlib.Tactic.Common

/-!
# `Lib.Ledger` — what becomes of the items a queue is given

Items are submitted one after the other; each is done, waits, or is given up. `Ledger` says that nothing is lost,
done twice or done out of order: what is done and what waits stand, in this order, in what was submitted.
-/

variable {α : Type*} [DecidableEq α]

/-- Each item submitted is done, waits or is given up, once, and the first two in the order of submission. -/
structure Ledger (submitted done waiting givenUp : List α) : Prop where
  ordered : (done ++ waiting).Sublist submitted
  nodup : submitted.Nodup
  fates : ∀ a, submitted.count a = done.count a + waiting.count a + givenUp.count a

namespace Ledger

open List

variable {submitted done waiting givenUp : List α} {a : α}

protected theorem empty : Ledger ([] : List α) [] [] [] := ⟨.slnil, .nil, fun _ => rfl⟩

section

variable (h : Ledger submitted done waiting givenUp) (ha : a ∉ submitted)

include h ha

theorem nodup_snoc : (submitted ++ [a]).Nodup := by
  rw [nodup_append]
  refine ⟨h.nodup, nodup_singleton a, fun b hb c hc => ?_⟩
  rw [mem_singleton.mp hc]
  rintro rfl
  exact ha hb

theorem giveUp :
    Ledger (submitted ++ [a]) done waiting (givenUp ++ [a]) where
  ordered := h.ordered.trans (sublist_append_left submitted [a])
  nodup := h.nodup_snoc ha
  fates b := by
    rw [count_append, count_append, h.fates b]
    omega

theorem wait :
    Ledger (submitted ++ [a]) done (waiting ++ [a]) givenUp where
  ordered := by
    rw [← append_assoc]
    exact h.ordered.append (.refl [a])
  nodup := h.nodup_snoc ha
  fates b := by
    rw [count_append, count_append, h.fates b]
    omega

end

theorem done_snoc (h : Ledger submitted done [] givenUp) (ha : a ∉ submitted) :
    Ledger (submitted ++ [a]) (done ++ [a]) [] givenUp where
  ordered := by
    have hdone := h.ordered
    rw [append_nil] at hdone ⊢
    exact hdone.append (.refl [a])
  nodup := h.nodup_snoc ha
  fates b := by
    rw [count_append, count_append, h.fates b]
    omega

theorem drain (h : Ledger submitted done waiting givenUp) : Ledger submitted (done ++ waiting) [] givenUp where
  ordered := by
    rw [append_nil]
    exact h.ordered
  nodup := h.nodup
  fates b := by
    rw [count_append, h.fates b, count_nil, Nat.add_zero]

theorem clear (h : Ledger submitted done waiting givenUp) : Ledger submitted done [] (givenUp ++ waiting) where
  ordered := by
    rw [append_nil]
    exact (sublist_append_left done waiting).trans h.ordered
  nodup := h.nodup
  fates b := by
    rw [count_append, h.fates b, count_nil]
    omega

end Ledger
