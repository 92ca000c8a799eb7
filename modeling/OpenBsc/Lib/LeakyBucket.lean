import Mathlib.Algebra.BigOperators.Group.List.Basic
import Mathlib.Tactic.Linarith
import Mathlib.Tactic.Ring

/-!
# `Lib.LeakyBucket` — what a leaky bucket admits in an interval

A bucket of some size leaks at some rate, and what is let through is put into it. Whoever keeps track of a level
that is nowhere below the true one and never above the size lets through no more than the size and the leak in
any interval (`Levelled.conforms`). Times, amounts and the rate are in any units that fit.
-/

namespace LeakyBucket

open List

/-- An amount that was let through, and when. -/
structure Passed where
  time : Int
  amount : Int

/-- What was let through from `t₁` to `t₂`. -/
def total (t₁ t₂ : Int) (log : List Passed) : Int :=
  ((log.filter fun p => t₁ ≤ p.time ∧ p.time ≤ t₂).map Passed.amount).sum

/-- **Conformance**: in every interval at most the size and what leaks in that time. -/
def Conforms (size rate : Int) (log : List Passed) : Prop :=
  ∀ t₁ t₂, t₁ ≤ t₂ → total t₁ t₂ log ≤ size + rate * (t₂ - t₁)

/-- From the level at the time `t` on, there is a level after everything that is let through, which does not lose
    more than has leaked. -/
inductive Levelled (size rate : Int) : (t level : Int) → List Passed → Prop where
  | nil {t level : Int} : Levelled size rate t level []
  | cons {t level level' : Int} {p : Passed} {log : List Passed} (hlater : t ≤ p.time)
      (hleak : level + p.amount ≤ level' + rate * (p.time - t)) (hamount : p.amount ≤ level')
      (hsize : level' ≤ size) (hrest : Levelled size rate p.time level' log) : Levelled size rate t level (p :: log)

variable {size rate t level : Int} {log : List Passed}

theorem Levelled.later (h : Levelled size rate t level log) : ∀ p ∈ log, t ≤ p.time := by
  induction h with
  | nil => exact fun p hp => absurd hp not_mem_nil
  | cons hlater _ _ _ _ ih =>
    intro q hq
    rcases mem_cons.mp hq with rfl | hq
    · exact hlater
    · exact hlater.trans (ih q hq)

theorem total_cons (t₁ t₂ : Int) (p : Passed) (log : List Passed) :
    total t₁ t₂ (p :: log) = (if t₁ ≤ p.time ∧ p.time ≤ t₂ then p.amount else 0) + total t₁ t₂ log := by
  unfold total
  by_cases hp : t₁ ≤ p.time ∧ p.time ≤ t₂
  · rw [filter_cons_of_pos (by simpa using hp), if_pos hp, map_cons, sum_cons]
  · rw [filter_cons_of_neg (by simpa using hp), if_neg hp, zero_add]

/-- Nothing counts that comes after the interval. -/
theorem total_of_after {t₁ t₂ : Int} (h : ∀ p ∈ log, t₂ < p.time) : total t₁ t₂ log = 0 := by
  induction log with
  | nil => rfl
  | cons p log ih =>
    have hp : ¬ (t₁ ≤ p.time ∧ p.time ≤ t₂) := fun hin => absurd (h p mem_cons_self) (not_lt.mpr hin.2)
    rw [total_cons, if_neg hp, ih fun q hq => h q (mem_cons_of_mem _ hq), add_zero]

/-- The level at the beginning and what comes up to `t₂` fit into the bucket with its leak. -/
theorem Levelled.total_le (hrate : 0 ≤ rate) {t₁ t₂ : Int} (h : Levelled size rate t level log)
    (hlevel : level ≤ size) (ht : t ≤ t₂) (ht₁ : t₁ ≤ t) :
    level + total t₁ t₂ log ≤ size + rate * (t₂ - t) := by
  induction h with
  | @nil t level =>
    have hpos : 0 ≤ rate * (t₂ - t) := mul_nonneg hrate (by omega)
    show level + 0 ≤ size + rate * (t₂ - t)
    omega
  | @cons t level level' p log hlater hleak hamount hsize hrest ih =>
    rw [total_cons]
    by_cases hp : p.time ≤ t₂
    · have hrest' := ih hsize hp (ht₁.trans hlater)
      rw [if_pos ⟨ht₁.trans hlater, hp⟩]
      calc level + (p.amount + total t₁ t₂ log)
          ≤ rate * (p.time - t) + (level' + total t₁ t₂ log) := by omega
        _ ≤ rate * (p.time - t) + (size + rate * (t₂ - p.time)) := by omega
        _ = size + rate * (t₂ - t) := by ring
    · have hafter : total t₁ t₂ log = 0 :=
        total_of_after fun q hq => lt_of_lt_of_le (not_le.mp hp) (hrest.later q hq)
      have hpos : 0 ≤ rate * (t₂ - t) := mul_nonneg hrate (by omega)
      rw [if_neg fun hin => hp hin.2, hafter]
      omega

/-- **A levelled log conforms.** -/
theorem Levelled.conforms (hrate : 0 ≤ rate) (hsize : 0 ≤ size) (h : Levelled size rate t level log) :
    Conforms size rate log := by
  intro t₁ t₂ ht
  induction h with
  | nil =>
    have hpos : 0 ≤ rate * (t₂ - t₁) := mul_nonneg hrate (by omega)
    show 0 ≤ size + rate * (t₂ - t₁)
    omega
  | @cons t level level' p log hlater hleak hamount hle hrest ih =>
    rw [total_cons]
    by_cases hp : t₁ ≤ p.time ∧ p.time ≤ t₂
    · -- the first that counts is in the level behind it
      have hrest' := hrest.total_le hrate hle hp.2 hp.1
      have hfrom : rate * (t₂ - p.time) ≤ rate * (t₂ - t₁) := mul_le_mul_of_nonneg_left (by omega) hrate
      rw [if_pos hp]
      omega
    · rw [if_neg hp, zero_add]
      exact ih

end LeakyBucket
