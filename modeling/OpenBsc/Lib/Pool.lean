import Mathlib.Data.List.Nodup
import Mathlib.Order.Basic
import Mathlib.Tactic.Common

/-!
# `Lib.Pool` — records under identities that are handed out once

A `Pool` holds records in the order in which they were allocated, each under an identity no other record
ever had. Updating a record cannot touch its identity, and the invariant is a field, so every operation
keeps it by construction. It stands for a linked list of heap objects known by their addresses.
-/

/-- Records in order of allocation, with their identities. -/
structure Pool (α : Type*) where
  entries : List (Nat × α)
  next : Nat
  sorted : (entries.map Prod.fst).Pairwise (· < ·)
  below : ∀ e ∈ entries, e.1 < next

namespace Pool

open List

variable {α : Type*}

/-- The pool without records. -/
def empty : Pool α := ⟨[], 0, .nil, fun _ h => absurd h List.not_mem_nil⟩

/-- The record with that identity. -/
def get? (p : Pool α) (i : Nat) : Option α := (p.entries.find? fun e => e.1 = i).map Prod.snd

/-- The oldest record with the property. -/
def find? (p : Pool α) (q : α → Bool) : Option (Nat × α) := p.entries.find? fun e => q e.2

/-- The newest record with the property. -/
def findLast? (p : Pool α) (q : α → Bool) : Option (Nat × α) := p.entries.reverse.find? fun e => q e.2

/-- The identities in use, in order of allocation. -/
def ids (p : Pool α) : List Nat := p.entries.map Prod.fst

/-- The record `i` is changed by `f`; no change when there is none. -/
def modify (p : Pool α) (i : Nat) (f : α → α) : Pool α where
  entries := p.entries.map fun e => if e.1 = i then (e.1, f e.2) else e
  next := p.next
  sorted := by
    have hids : (p.entries.map fun e => if e.1 = i then (e.1, f e.2) else e).map Prod.fst = p.entries.map Prod.fst := by
      rw [List.map_map]
      refine List.map_congr_left fun e _ => ?_
      by_cases he : e.1 = i
      · simp [he]
      · simp [he]
    rw [hids]
    exact p.sorted
  below := by
    intro e he
    obtain ⟨d, hd, rfl⟩ := List.mem_map.mp he
    by_cases hdi : d.1 = i
    · rw [if_pos hdi]
      exact p.below d hd
    · rw [if_neg hdi]
      exact p.below d hd

/-- The pool without the record `i`. -/
def remove (p : Pool α) (i : Nat) : Pool α where
  entries := p.entries.filter fun e => e.1 ≠ i
  next := p.next
  sorted := p.sorted.sublist (List.filter_sublist.map Prod.fst)
  below e he := p.below e (List.mem_of_mem_filter he)

/-- The new record `a` under the next identity. -/
def alloc (p : Pool α) (a : α) : Pool α where
  entries := p.entries ++ [(p.next, a)]
  next := p.next + 1
  sorted := by
    rw [List.map_append, List.pairwise_append]
    refine ⟨p.sorted, List.pairwise_singleton _ _, ?_⟩
    intro i hi j hj
    obtain ⟨e, he, rfl⟩ := List.mem_map.mp hi
    obtain rfl : j = p.next := by simpa using hj
    exact p.below e he
  below := by
    intro e he
    rcases List.mem_append.mp he with he | he
    · exact Nat.lt_succ_of_lt (p.below e he)
    · obtain rfl : e = (p.next, a) := by simpa using he
      exact Nat.lt_succ_self _

/-! ## Lookup laws -/

variable {p : Pool α} {i : Nat} {a : α}

/-- Two records under one identity are the same. -/
theorem entry_unique {b : α} (ha : (i, a) ∈ p.entries) (hb : (i, b) ∈ p.entries) : a = b := by
  have hnodup : (p.entries.map Prod.fst).Nodup := p.sorted.imp fun h => Nat.ne_of_lt h
  exact congrArg Prod.snd (inj_on_of_nodup_map hnodup ha hb rfl)

theorem get?_eq_some : p.get? i = some a ↔ (i, a) ∈ p.entries := by
  constructor
  · intro h
    obtain ⟨e, he, rfl⟩ := Option.map_eq_some_iff.mp h
    have hi : e.1 = i := by simpa using find?_some he
    rw [← hi]
    exact mem_of_find?_eq_some he
  · intro h
    cases hf : p.entries.find? fun e => e.1 = i with
    | none =>
      have hne : ¬ (i, a).1 = i := by simpa using find?_eq_none.mp hf _ h
      exact absurd rfl hne
    | some e =>
      have hi : e.1 = i := by simpa using find?_some hf
      have he : (i, e.2) ∈ p.entries := by
        rw [← hi]
        exact mem_of_find?_eq_some hf
      rw [get?, hf, entry_unique h he]
      rfl

theorem get?_lt (h : p.get? i = some a) : i < p.next :=
  p.below _ (get?_eq_some.mp h)

theorem mem_ids : i ∈ p.ids ↔ ∃ a, p.get? i = some a := by
  constructor
  · intro h
    obtain ⟨e, he, rfl⟩ := mem_map.mp h
    exact ⟨e.2, get?_eq_some.mpr he⟩
  · rintro ⟨a, ha⟩
    exact mem_map.mpr ⟨_, get?_eq_some.mp ha, rfl⟩

@[simp] theorem get?_empty (i : Nat) : (empty : Pool α).get? i = none := rfl

theorem get?_modify (p : Pool α) (i j : Nat) (f : α → α) :
    (p.modify i f).get? j = if j = i then (p.get? j).map f else p.get? j := by
  ext a
  by_cases hj : j = i
  · subst hj
    rw [if_pos rfl, get?_eq_some, Option.map_eq_some_iff]
    constructor
    · intro h
      obtain ⟨e, he, hea⟩ := mem_map.mp h
      by_cases hei : e.1 = j
      · rw [if_pos hei] at hea
        cases hea
        exact ⟨e.2, get?_eq_some.mpr he, rfl⟩
      · rw [if_neg hei] at hea
        rw [hea] at hei
        exact absurd rfl hei
    · rintro ⟨b, hb, rfl⟩
      exact mem_map.mpr ⟨_, get?_eq_some.mp hb, if_pos rfl⟩
  · rw [if_neg hj, get?_eq_some, get?_eq_some]
    constructor
    · intro h
      obtain ⟨e, he, hea⟩ := mem_map.mp h
      by_cases hei : e.1 = i
      · rw [if_pos hei] at hea
        exact absurd (congrArg Prod.fst hea) (by simpa [hei] using Ne.symm hj)
      · rw [if_neg hei] at hea
        rwa [← hea]
    · intro h
      exact mem_map.mpr ⟨_, h, if_neg hj⟩

variable {f : α → α}

theorem get?_modify_self (h : p.get? i = some a) : (p.modify i f).get? i = some (f a) := by
  rw [get?_modify, if_pos rfl, h]
  rfl

theorem get?_modify_ne {j : Nat} (h : j ≠ i) : (p.modify i f).get? j = p.get? j := by
  rw [get?_modify, if_neg h]

theorem get?_remove (p : Pool α) (i j : Nat) :
    (p.remove i).get? j = if j = i then none else p.get? j := by
  ext a
  by_cases hj : j = i
  · rw [if_pos hj, get?_eq_some]
    simp [remove, hj]
  · rw [if_neg hj, get?_eq_some, get?_eq_some]
    simp [remove, hj]

/-- What is left after a removal was there before, and is another record. -/
theorem get?_of_remove {j : Nat} (h : (p.remove i).get? j = some a) : j ≠ i ∧ p.get? j = some a := by
  rw [get?_remove] at h
  by_cases hj : j = i
  · rw [if_pos hj] at h
    cases h
  · rw [if_neg hj] at h
    exact ⟨hj, h⟩

theorem remove_of_get?_none (h : p.get? i = none) : p.remove i = p := by
  have hentries : (p.entries.filter fun e => e.1 ≠ i) = p.entries := by
    refine filter_eq_self.mpr fun e he => ?_
    have hei : e.1 ≠ i := by
      rintro rfl
      rw [get?_eq_some.mpr he] at h
      cases h
    simpa using hei
  simp only [remove, hentries]

theorem get?_alloc (p : Pool α) (a : α) (j : Nat) :
    (p.alloc a).get? j = if j = p.next then some a else p.get? j := by
  ext b
  rw [get?_eq_some]
  show (j, b) ∈ p.entries ++ [(p.next, a)] ↔ _
  rw [mem_append]
  by_cases hj : j = p.next
  · have hnone : (p.next, b) ∉ p.entries := fun h => absurd (p.below _ h) (Nat.lt_irrefl _)
    rw [if_pos hj, hj]
    simp [hnone, eq_comm]
  · rw [if_neg hj, get?_eq_some]
    simp [hj]

theorem next_foldl_remove (ids : List Nat) (p : Pool α) : (ids.foldl remove p).next = p.next := by
  induction ids generalizing p with
  | nil => rfl
  | cons i ids ih => exact ih (p.remove i)

/-- Several records are taken out. -/
theorem get?_foldl_remove (ids : List Nat) (p : Pool α) (j : Nat) :
    (ids.foldl remove p).get? j = if j ∈ ids then none else p.get? j := by
  induction ids generalizing p with
  | nil => rw [foldl_nil, if_neg not_mem_nil]
  | cons i ids ih =>
    rw [foldl_cons, ih, get?_remove]
    by_cases hj : j = i
    · rw [if_pos hj, ite_self, if_pos (hj ▸ mem_cons_self)]
    · rw [if_neg hj]
      by_cases hmem : j ∈ ids
      · rw [if_pos hmem, if_pos (mem_cons_of_mem i hmem)]
      · rw [if_neg hmem, if_neg (not_mem_cons_of_ne_of_not_mem hj hmem)]

/-- A record that is made and taken out again leaves the others. -/
theorem get?_alloc_remove (p : Pool α) (a : α) (j : Nat) : ((p.alloc a).remove p.next).get? j = p.get? j := by
  rw [get?_remove, get?_alloc]
  split_ifs with hj
  · rw [hj]
    cases hnext : p.get? p.next with
    | none => rfl
    | some old => exact absurd (get?_lt hnext) (Nat.lt_irrefl _)
  · rfl

/-- A change depends only on what it makes of the record. -/
theorem modify_congr {g : α → α} (h : p.get? i = some a) (hfg : f a = g a) : p.modify i f = p.modify i g := by
  have hentries : (p.entries.map fun e => if e.1 = i then (e.1, f e.2) else e) =
      p.entries.map fun e => if e.1 = i then (e.1, g e.2) else e := by
    refine map_congr_left fun e he => ?_
    by_cases hei : e.1 = i
    · have hea : (i, e.2) ∈ p.entries := by
        rw [← hei]
        exact he
      rw [if_pos hei, if_pos hei, entry_unique hea (get?_eq_some.mp h), hfg]
    · rw [if_neg hei, if_neg hei]
  simp only [modify, hentries]

theorem modify_of_get?_none (h : p.get? i = none) : p.modify i f = p := by
  have hentries : (p.entries.map fun e => if e.1 = i then (e.1, f e.2) else e) = p.entries := by
    conv_rhs => rw [← map_id p.entries]
    refine map_congr_left fun e he => ?_
    apply if_neg
    rintro rfl
    rw [get?_eq_some.mpr he] at h
    cases h
  simp only [modify, hentries]

theorem modify_id (p : Pool α) (i : Nat) : (p.modify i fun a => a) = p := by
  have hentries : (p.entries.map fun e => if e.1 = i then (e.1, e.2) else e) = p.entries := by
    conv_rhs => rw [← map_id p.entries]
    refine map_congr_left fun e _ => ?_
    exact ite_self e
  simp only [modify, hentries]

/-- A record can be made and changed at once. -/
theorem modify_alloc (p : Pool α) (a : α) (f : α → α) : (p.alloc a).modify p.next f = p.alloc (f a) := by
  have hentries : (p.entries.map fun e => if e.1 = p.next then (e.1, f e.2) else e) = p.entries := by
    conv_rhs => rw [← map_id p.entries]
    refine map_congr_left fun e he => ?_
    exact if_neg (Nat.ne_of_lt (p.below e he))
  simp [modify, alloc, hentries]

theorem modify_modify (p : Pool α) (i : Nat) (f g : α → α) :
    (p.modify i f).modify i g = p.modify i fun a => g (f a) := by
  have hentries : ((p.entries.map fun e => if e.1 = i then (e.1, f e.2) else e).map fun e =>
      if e.1 = i then (e.1, g e.2) else e) = p.entries.map fun e => if e.1 = i then (e.1, g (f e.2)) else e := by
    rw [map_map]
    refine map_congr_left fun e _ => ?_
    by_cases he : e.1 = i
    · simp [he]
    · simp [he]
  simp only [modify, hentries]

/-- Changing a record before it is removed makes no difference. -/
theorem remove_modify (p : Pool α) (i : Nat) (f : α → α) : (p.modify i f).remove i = p.remove i := by
  have hentries : (p.entries.map fun e => if e.1 = i then (e.1, f e.2) else e).filter (fun e => e.1 ≠ i) =
      p.entries.filter fun e => e.1 ≠ i := by
    induction p.entries with
    | nil => rfl
    | cons e l ih =>
      by_cases he : e.1 = i
      · simpa [he] using ih
      · simpa [he] using ih
  simp only [remove, modify, hentries]

theorem forall_get?_iff {P : Nat → α → Prop} : (∀ i a, p.get? i = some a → P i a) ↔ ∀ e ∈ p.entries, P e.1 e.2 := by
  constructor
  · intro h e he
    exact h e.1 e.2 (get?_eq_some.mpr he)
  · intro h i a hi
    exact h (i, a) (get?_eq_some.mp hi)

instance {p : Pool α} {P : Nat → α → Prop} [∀ i a, Decidable (P i a)] :
    Decidable (∀ i a, p.get? i = some a → P i a) :=
  decidable_of_iff (∀ e ∈ p.entries, P e.1 e.2) forall_get?_iff.symm

/-! ## Records that differ -/

/-- Every record of the pool stands in the relation to every other. -/
def Pairwise (p : Pool α) (r : α → α → Prop) : Prop :=
  ∀ i a j b, p.get? i = some a → p.get? j = some b → i ≠ j → r a b

variable {r : α → α → Prop}

theorem pairwise_empty : (empty : Pool α).Pairwise r := fun _ _ _ _ h => nomatch h

/-- A changed record has to get on with the others. -/
theorem Pairwise.modify (h : p.Pairwise r) (hr : ∀ a b, r a b → r b a)
    (hfree : ∀ a, p.get? i = some a → ∀ j b, p.get? j = some b → j ≠ i → r (f a) b) : (p.modify i f).Pairwise r := by
  intro k a l b hk hl hkl
  rw [get?_modify] at hk hl
  by_cases hki : k = i
  · subst hki
    rw [if_pos rfl] at hk
    rw [if_neg (Ne.symm hkl)] at hl
    obtain ⟨old, hold, rfl⟩ := Option.map_eq_some_iff.mp hk
    exact hfree old hold l b hl (Ne.symm hkl)
  · rw [if_neg hki] at hk
    by_cases hli : l = i
    · subst hli
      rw [if_pos rfl] at hl
      obtain ⟨old, hold, rfl⟩ := Option.map_eq_some_iff.mp hl
      exact hr _ _ (hfree old hold k a hk hki)
    · rw [if_neg hli] at hl
      exact h k a l b hk hl hkl

/-- So has a new one. -/
theorem Pairwise.alloc (h : p.Pairwise r) (hr : ∀ a b, r a b → r b a) (hfree : ∀ j b, p.get? j = some b → r a b) :
    (p.alloc a).Pairwise r := by
  intro k c l b hk hl hkl
  rw [get?_alloc] at hk hl
  by_cases hkn : k = p.next
  · subst hkn
    rw [if_pos rfl] at hk
    rw [if_neg (Ne.symm hkl)] at hl
    cases hk
    exact hfree l b hl
  · rw [if_neg hkn] at hk
    by_cases hln : l = p.next
    · subst hln
      rw [if_pos rfl] at hl
      cases hl
      exact hr _ _ (hfree k c hk)
    · rw [if_neg hln] at hl
      exact h k c l b hk hl hkl

theorem Pairwise.remove (h : p.Pairwise r) (i : Nat) : (p.remove i).Pairwise r := by
  intro k a l b hk hl hkl
  rw [get?_remove] at hk hl
  split at hk
  · cases hk
  · split at hl
    · cases hl
    · exact h k a l b hk hl hkl

/-! ## Search laws -/

variable {q : α → Bool}

/-- The search finds the oldest record with the property. -/
theorem find?_eq_some :
    p.find? q = some (i, a) ↔ p.get? i = some a ∧ q a = true ∧ ∀ j b, p.get? j = some b → q b = true → i ≤ j := by
  rw [find?, find?_eq_some_iff_append]
  constructor
  · rintro ⟨hq, before, after, hsplit, hbefore⟩
    have hmem : (i, a) ∈ p.entries := by simp [hsplit]
    refine ⟨get?_eq_some.mpr hmem, hq, ?_⟩
    intro j b hj hb
    have hjmem := get?_eq_some.mp hj
    have hsorted := p.sorted
    rw [hsplit] at hjmem hsorted
    rcases mem_append.mp hjmem with hin | hin
    · exact absurd hb (by simpa using hbefore _ hin)
    · rcases mem_cons.mp hin with heq | hin
      · exact Nat.le_of_eq (congrArg Prod.fst heq).symm
      · rw [map_append, pairwise_append, map_cons, pairwise_cons] at hsorted
        exact Nat.le_of_lt (hsorted.2.1.1 j (mem_map.mpr ⟨_, hin, rfl⟩))
  · rintro ⟨hget, hq, hleast⟩
    obtain ⟨before, after, hsplit⟩ := append_of_mem (get?_eq_some.mp hget)
    refine ⟨hq, before, after, hsplit, ?_⟩
    -- what stands before it has a smaller identity, so it cannot have the property
    intro e he
    have hemem : e ∈ p.entries := by simp [hsplit, he]
    have hsorted := p.sorted
    rw [hsplit, map_append, pairwise_append] at hsorted
    have hlt : e.1 < i := hsorted.2.2 e.1 (mem_map.mpr ⟨e, he, rfl⟩) i (by simp)
    by_cases hqe : q e.2 = true
    · exact absurd (hleast e.1 e.2 (get?_eq_some.mpr hemem) hqe) (Nat.not_le_of_lt hlt)
    · simpa using hqe

theorem find?_eq_none : p.find? q = none ↔ ∀ i a, p.get? i = some a → q a = false := by
  rw [find?, List.find?_eq_none]
  constructor
  · intro h i a hi
    simpa using h (i, a) (get?_eq_some.mp hi)
  · intro h e he
    simpa using h e.1 e.2 (get?_eq_some.mpr he)

/-- A record that alone has the property is found. -/
theorem find?_unique (h : p.get? i = some a) (hq : q a = true)
    (huniq : ∀ j b, p.get? j = some b → q b = true → j = i) : p.find? q = some (i, a) :=
  find?_eq_some.mpr ⟨h, hq, fun j b hj hb => Nat.le_of_eq (huniq j b hj hb).symm⟩

/-- What the search for the newest record finds is in the pool and has the property. -/
theorem of_findLast? (h : p.findLast? q = some (i, a)) : p.get? i = some a ∧ q a = true := by
  refine ⟨get?_eq_some.mpr (mem_reverse.mp (mem_of_find?_eq_some h)), ?_⟩
  exact find?_some (p := fun e : Nat × α => q e.2) h

theorem findLast?_eq_none : p.findLast? q = none ↔ ∀ i a, p.get? i = some a → q a = false := by
  rw [findLast?, List.find?_eq_none]
  constructor
  · intro h i a hi
    simpa using h (i, a) (mem_reverse.mpr (get?_eq_some.mp hi))
  · intro h e he
    simpa using h e.1 e.2 (get?_eq_some.mpr (mem_reverse.mp he))

/-- A record that alone has the property is the newest that has it. -/
theorem findLast?_unique (h : p.get? i = some a) (hq : q a = true)
    (huniq : ∀ j b, p.get? j = some b → q b = true → j = i) : p.findLast? q = some (i, a) := by
  cases hfind : p.findLast? q with
  | none =>
    rw [findLast?_eq_none.mp hfind i a h] at hq
    cases hq
  | some found =>
    obtain ⟨j, b⟩ := found
    obtain ⟨hj, hqb⟩ := of_findLast? hfind
    obtain rfl := huniq j b hj hqb
    rw [h] at hj
    rw [Option.some.inj hj]

/-- A walk over the records meets the identity `i` once, if it is in use. -/
theorem countP_entries (p : Pool α) (i : Nat) (q : α → Bool) :
    p.entries.countP (fun e => decide (e.1 = i) && q e.2) = if (p.get? i).any q then 1 else 0 := by
  have hnodup : (p.entries.map Prod.fst).Nodup := p.sorted.imp fun h => Nat.ne_of_lt h
  unfold get?
  generalize p.entries = l at hnodup ⊢
  induction l with
  | nil => rfl
  | cons e l ih =>
    rw [map_cons, nodup_cons] at hnodup
    rw [countP_cons, find?_cons]
    by_cases he : e.1 = i
    · -- no later record has the identity
      have hrest : l.countP (fun e => decide (e.1 = i) && q e.2) = 0 := by
        rw [countP_eq_zero]
        intro d hd hdi
        have hd1 : d.1 = i := by simpa using (Bool.and_eq_true_iff.mp hdi).1
        exact hnodup.1 (mem_map.mpr ⟨d, hd, hd1.trans he.symm⟩)
      simp [hrest, he]
    · simp [he, ih hnodup.2]

/-! ## Counting -/

/-- How many records have the property. -/
def count (p : Pool α) (q : α → Bool) : Nat := p.entries.countP fun e => q e.2

theorem count_alloc (p : Pool α) (a : α) (q : α → Bool) : (p.alloc a).count q = p.count q + if q a then 1 else 0 := by
  show (p.entries ++ [(p.next, a)]).countP _ = _
  rw [countP_append, countP_singleton]
  rfl

/-- The record that is taken out is no longer counted. -/
theorem count_remove (h : p.get? i = some a) (q : α → Bool) :
    (p.remove i).count q + (if q a then 1 else 0) = p.count q := by
  have hone := countP_entries p i q
  rw [h, Option.any_some] at hone
  have hsplit := countP_eq_countP_filter_add p.entries (fun e => q e.2) fun e => decide (e.1 ≠ i)
  rw [countP_filter (p := fun e : Nat × α => q e.2) (q := fun e => !decide (e.1 ≠ i))] at hsplit
  have hswap : p.entries.countP (fun e => q e.2 && !decide (e.1 ≠ i)) =
      p.entries.countP fun e => decide (e.1 = i) && q e.2 := by
    refine countP_congr fun e _ => ?_
    rw [Bool.and_comm, decide_not, Bool.not_not]
  rw [hswap, hone] at hsplit
  exact hsplit.symm

theorem count_modify (p : Pool α) (i : Nat) (h : ∀ a, q (f a) = q a) : (p.modify i f).count q = p.count q := by
  show (p.entries.map _).countP _ = _
  rw [countP_map]
  refine countP_congr fun e _ => ?_
  by_cases hei : e.1 = i
  · simp [hei, h]
  · simp [hei]

/-- The record that is changed is counted as it is now. -/
theorem count_modify_get (h : p.get? i = some a) (f : α → α) (q : α → Bool) :
    (p.modify i f).count q + (if q a then 1 else 0) = p.count q + if q (f a) then 1 else 0 := by
  have hbefore := count_remove h q
  have hafter := count_remove (get?_modify_self (f := f) h) q
  rw [remove_modify] at hafter
  omega

theorem count_pos (h : p.get? i = some a) (hq : q a = true) : 0 < p.count q := by
  have hsplit := count_remove h q
  rw [if_pos hq] at hsplit
  omega

/-! ## Ageing -/

/-- A later pool: what was freed by then stays so. -/
structure Aged (p p' : Pool α) : Prop where
  next : p.next ≤ p'.next
  gone : ∀ i < p.next, p.get? i = none → p'.get? i = none

section Aged

variable {p p' p'' : Pool α}

theorem Aged.refl (p : Pool α) : Aged p p := ⟨Nat.le_refl _, fun _ _ h => h⟩

theorem Aged.trans (h : Aged p p') (h' : Aged p' p'') : Aged p p'' :=
  ⟨Nat.le_trans h.next h'.next, fun i hi hnone => h'.gone i (Nat.lt_of_lt_of_le hi h.next) (h.gone i hi hnone)⟩

theorem aged_modify (p : Pool α) (i : Nat) (f : α → α) : Aged p (p.modify i f) := by
  refine ⟨Nat.le_refl _, fun j _ hnone => ?_⟩
  rw [get?_modify, hnone]
  simp

theorem aged_remove (p : Pool α) (i : Nat) : Aged p (p.remove i) := by
  refine ⟨Nat.le_refl _, fun j _ hnone => ?_⟩
  rw [get?_remove, hnone, ite_self]

theorem aged_alloc (p : Pool α) (a : α) : Aged p (p.alloc a) := by
  refine ⟨Nat.le_succ _, fun j hj hnone => ?_⟩
  rw [get?_alloc, if_neg (Nat.ne_of_lt hj)]
  exact hnone

/-- The identities that are in use in `p` and no longer in `p'`. -/
def freedIn (p p' : Pool α) : List Nat := p.ids.filter fun i => (p'.get? i).isNone

theorem mem_freedIn : i ∈ p.freedIn p' ↔ (∃ a, p.get? i = some a) ∧ p'.get? i = none := by
  rw [freedIn, mem_filter, mem_ids, Option.isNone_iff_eq_none]

/-- A record of the identities that were freed. -/
structure Freed (p : Pool α) (freed : List Nat) : Prop where
  nodup : freed.Nodup
  gone : ∀ i ∈ freed, i < p.next ∧ p.get? i = none

theorem freed_nil (p : Pool α) : Freed p [] := ⟨nodup_nil, fun _ h => absurd h not_mem_nil⟩

/-- **No identity is freed twice.** -/
theorem Freed.step {freed : List Nat} (h : Freed p freed) (haged : Aged p p') : Freed p' (freed ++ p.freedIn p') := by
  have hids : p.ids.Nodup := p.sorted.imp fun hlt => Nat.ne_of_lt hlt
  refine ⟨nodup_append.mpr ⟨h.nodup, hids.filter _, ?_⟩, fun i hi => ?_⟩
  · rintro i hi j hj rfl
    obtain ⟨⟨a, ha⟩, -⟩ := mem_freedIn.mp hj
    rw [(h.gone i hi).2] at ha
    cases ha
  · rcases mem_append.mp hi with hi | hi
    · obtain ⟨hlt, hnone⟩ := h.gone i hi
      exact ⟨Nat.lt_of_lt_of_le hlt haged.next, haged.gone i hlt hnone⟩
    · obtain ⟨⟨a, ha⟩, hnone⟩ := mem_freedIn.mp hi
      exact ⟨Nat.lt_of_lt_of_le (get?_lt ha) haged.next, hnone⟩

end Aged

end Pool
