import Mathlib.Algebra.Order.Group.Nat
import Mathlib.Data.List.Iterate
import Mathlib.Data.List.Nodup
import Mathlib.Data.Nat.ModEq
import Mathlib.Tactic.Common

/-!
# `Lib.Rotation` — going round a finite set

A step goes round a finite set when it takes each member to the one whose rank is next, and the last one to the first.
From any member on, as many steps as there are members meet each of them (`IsRotation.meets`), and none of them twice
(`IsRotation.nodup_iterate`). Nothing here knows what the members are.
-/

variable {α : Type*} {mem : α → Prop} {rank : α → Nat} {n : Nat} {next : α → α}

/-- `next` goes round the members, of which there are `n`. -/
structure IsRotation (mem : α → Prop) (rank : α → Nat) (n : Nat) (next : α → α) : Prop where
  mem_next : ∀ a, mem a → mem (next a)
  rank_lt : ∀ a, mem a → rank a < n
  rank_next : ∀ a, mem a → rank (next a) = (rank a + 1) % n
  rank_inj : ∀ a b, mem a → mem b → rank a = rank b → a = b

namespace IsRotation

section

variable (h : IsRotation mem rank n next)

include h

theorem mem_iterate {a : α} (ha : mem a) (k : Nat) : mem (next^[k] a) := by
  induction k with
  | zero => exact ha
  | succ k ih =>
    rw [Function.iterate_succ_apply']
    exact h.mem_next _ ih

theorem rank_iterate {a : α} (ha : mem a) (k : Nat) :
    rank (next^[k] a) = (rank a + k) % n := by
  induction k with
  | zero => exact (Nat.mod_eq_of_lt (h.rank_lt a ha)).symm
  | succ k ih =>
    rw [Function.iterate_succ_apply', h.rank_next _ (h.mem_iterate ha k), ih, Nat.mod_add_mod, Nat.add_assoc]

/-- **A whole round meets every member.** -/
theorem meets {a b : α} (ha : mem a) (hb : mem b) {times : Nat} (hn : n ≤ times) :
    b ∈ List.iterate next a times := by
  have hra := h.rank_lt a ha
  have hrb := h.rank_lt b hb
  rw [List.mem_iterate]
  -- the way from `a` to `b`, over the end or not
  rcases Nat.le_total (rank a) (rank b) with hle | hle
  · refine ⟨rank b - rank a, by omega, h.rank_inj _ _ hb (h.mem_iterate ha _) ?_⟩
    rw [h.rank_iterate ha, Nat.add_sub_cancel' hle, Nat.mod_eq_of_lt hrb]
  · by_cases heq : rank a = rank b
    · exact ⟨0, by omega, (h.rank_inj _ _ ha hb heq).symm⟩
    · refine ⟨n - rank a + rank b, by omega, h.rank_inj _ _ hb (h.mem_iterate ha _) ?_⟩
      have hsum : rank a + (n - rank a + rank b) = rank b + n := by omega
      rw [h.rank_iterate ha, hsum, Nat.add_mod_right, Nat.mod_eq_of_lt hrb]

/-- **Within a round no member is met twice.** -/
theorem nodup_iterate {a : α} (ha : mem a) {times : Nat} (hn : times ≤ n) :
    (List.iterate next a times).Nodup := by
  rw [← List.range_map_iterate]
  refine List.Nodup.map_on ?_ List.nodup_range
  intro j hj k hk heq
  rw [List.mem_range] at hj hk
  have hrank : (rank a + j) % n = (rank a + k) % n := by
    rw [← h.rank_iterate ha, ← h.rank_iterate ha, heq]
  have hmod : j % n = k % n := Nat.ModEq.add_left_cancel' (rank a) hrank
  rwa [Nat.mod_eq_of_lt (by omega), Nat.mod_eq_of_lt (by omega)] at hmod

end

end IsRotation
