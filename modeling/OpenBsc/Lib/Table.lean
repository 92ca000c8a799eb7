import Mathlib.Data.List.Nodup
import Mathlib.Tactic.Common

/-!
# `Lib.Table` — lists of records with distinct keys

A `Table key` is a list of records no two of which have the same key; the invariant is a field, so every
operation keeps it by construction. The order of the records is kept: `insert` puts the new record first.
-/

/-- A list of records with pairwise distinct keys. -/
structure Table {κ α : Type*} (key : α → κ) where
  entries : List α
  nodup : (entries.map key).Nodup

namespace Table

open List

variable {κ α : Type*} {key : α → κ}

/-- The table without records. -/
def empty : Table key := ⟨[], nodup_nil⟩

variable [DecidableEq κ]

/-- The record with the key `k`. -/
def find? (t : Table key) (k : κ) : Option α := t.entries.find? fun a => key a = k

/-- The record `a` in place of the one with its key; no change when there is none. -/
def set (t : Table key) (a : α) : Table key where
  entries := t.entries.map fun b => if key b = key a then a else b
  nodup := by
    have hkey : (t.entries.map fun b => if key b = key a then a else b).map key = t.entries.map key := by
      rw [map_map]
      refine map_congr_left fun b _ => ?_
      by_cases hb : key b = key a
      · simp [hb]
      · simp [hb]
    rw [hkey]
    exact t.nodup

/-- The new record `a` before the others; refused when its key is taken. -/
def insert (t : Table key) (a : α) : Option (Table key) :=
  if h : ∀ b ∈ t.entries, key b ≠ key a then
    some ⟨a :: t.entries, by
      rw [map_cons, nodup_cons]
      refine ⟨?_, t.nodup⟩
      simpa using fun b hb => h b hb⟩
  else none

/-- The table without the record with the key `k`. -/
def erase (t : Table key) (k : κ) : Table key :=
  ⟨t.entries.filter fun a => key a ≠ k, t.nodup.sublist (filter_sublist.map key)⟩

/-! ## Lookup laws -/

variable {t : Table key} {a : α}

theorem find?_eq_some {k : κ} : t.find? k = some a ↔ a ∈ t.entries ∧ key a = k := by
  constructor
  · intro h
    exact ⟨mem_of_find?_eq_some h, by simpa using List.find?_some h⟩
  · rintro ⟨ha, rfl⟩
    cases hf : t.entries.find? fun b => key b = key a with
    | none => exact absurd (List.find?_eq_none.mp hf a ha) (by simp)
    | some b =>
      have hb : key b = key a := by simpa using List.find?_some hf
      rw [find?, hf, inj_on_of_nodup_map t.nodup (mem_of_find?_eq_some hf) ha hb]

theorem key_of_find? {k : κ} (h : t.find? k = some a) : key a = k :=
  (find?_eq_some.mp h).2

theorem find?_empty (k : κ) : (empty : Table key).find? k = none := rfl

theorem find?_set_self {b : α} (h : t.find? (key a) = some b) : (t.set a).find? (key a) = some a := by
  obtain ⟨hb, hk⟩ := find?_eq_some.mp h
  exact find?_eq_some.mpr ⟨mem_map.mpr ⟨b, hb, by simp [hk]⟩, rfl⟩

theorem find?_set_ne {k : κ} (h : k ≠ key a) : (t.set a).find? k = t.find? k := by
  ext c
  rw [find?_eq_some, find?_eq_some]
  constructor
  · rintro ⟨hc, rfl⟩
    obtain ⟨b, hb, rfl⟩ := mem_map.mp hc
    by_cases hba : key b = key a
    · rw [if_pos hba] at h
      exact absurd rfl h
    · rw [if_neg hba]
      exact ⟨hb, rfl⟩
  · rintro ⟨hc, rfl⟩
    exact ⟨mem_map.mpr ⟨c, hc, by simp [h]⟩, rfl⟩

theorem find?_insert_self {t' : Table key} (h : t.insert a = some t') : t'.find? (key a) = some a := by
  unfold insert at h
  split at h
  · injection h with h
    subst h
    exact find?_eq_some.mpr ⟨mem_cons_self, rfl⟩
  · cases h

theorem find?_insert_ne {t' : Table key} {k : κ} (h : t.insert a = some t') (hk : k ≠ key a) :
    t'.find? k = t.find? k := by
  unfold insert at h
  split at h
  · injection h with h
    subst h
    simp [find?, Ne.symm hk]
  · cases h

theorem find?_erase_self (t : Table key) (k : κ) : (t.erase k).find? k = none := by
  simp [find?, erase]

theorem find?_erase_ne {k k' : κ} (h : k ≠ k') : (t.erase k').find? k = t.find? k := by
  ext c
  rw [find?_eq_some, find?_eq_some]
  constructor
  · rintro ⟨hc, rfl⟩
    exact ⟨mem_of_mem_filter hc, rfl⟩
  · rintro ⟨hc, rfl⟩
    exact ⟨mem_filter.mpr ⟨hc, by simpa using h⟩, rfl⟩

end Table
