import Mathlib.Tactic.Common

/-!
# `Lib.Log` — logs in which every entry is justified by what stands before it

`Justified P log` holds when each entry `e` of the log, with the entries `before` it, satisfies `P before e`. It says
about a whole run what a handler may only do after something else was done.

`latest f k` is what the last entry about the key `k` says, where `f` tells what an entry says about which key.
-/

namespace Log

open List

/-- Every entry satisfies `P` of the entries before it. -/
def Justified {α : Type*} (P : List α → α → Prop) (log : List α) : Prop :=
  ∀ before e after, log = before ++ e :: after → P before e

variable {α : Type*} {P Q : List α → α → Prop} {log : List α} {e : α}

theorem Justified.nil : Justified P [] := by
  intro before e after h
  simp at h

/-- One more entry. -/
theorem Justified.snoc (h : Justified P log) (he : P log e) : Justified P (log ++ [e]) := by
  intro before x after hlog
  rcases eq_nil_or_concat after with rfl | ⟨after, y, rfl⟩
  · obtain ⟨rfl, hx⟩ := append_inj' hlog rfl
    obtain rfl : e = x := by simpa using hx
    exact he
  · -- the entry stands before the new one
    have hlast : log ++ [e] = (before ++ x :: after) ++ [y] := by simpa using hlog
    obtain ⟨rfl, -⟩ := append_inj' hlast rfl
    exact h before x after rfl

theorem Justified.of_append {rest : List α} (h : Justified P (log ++ rest)) : Justified P log := by
  rintro before e after rfl
  exact h before e (after ++ rest) (by simp)

theorem Justified.append_of {rest : List α} (h : Justified P log) (hrest : ∀ e ∈ rest, ∀ more, P (log ++ more) e) :
    Justified P (log ++ rest) := by
  induction rest generalizing log with
  | nil => rwa [append_nil]
  | cons e rest ih =>
    have he : P log e := by simpa using hrest e mem_cons_self []
    rw [← singleton_append, ← append_assoc]
    refine ih (h.snoc he) fun x hx more => ?_
    rw [append_assoc]
    exact hrest x (mem_cons_of_mem _ hx) ([e] ++ more)

/-- More entries that need no justification. -/
theorem Justified.append {rest : List α} (h : Justified P log) (hrest : ∀ e ∈ rest, ∀ before, P before e) :
    Justified P (log ++ rest) :=
  h.append_of fun e he _ => hrest e he _

/-! ## The latest entry -/

section Latest

variable {κ β : Type*} [DecidableEq κ] {f : α → Option (κ × β)} {k : κ} {b : β}

/-- What an entry says about a key, or what was known before. -/
def update (f : α → Option (κ × β)) (k : κ) (b : β) (e : α) : β :=
  match f e with
  | some (k', b') => if k' = k then b' else b
  | none => b

/-- What the last entry about a key says; `b` where there is none. -/
def latest (f : α → Option (κ × β)) (k : κ) (b : β) (log : List α) : β := log.foldl (update f k) b

theorem latest_append (f : α → Option (κ × β)) (k : κ) (b : β) (log rest : List α) :
    latest f k b (log ++ rest) = latest f k (latest f k b log) rest := foldl_append

theorem latest_cons (f : α → Option (κ × β)) (k : κ) (b : β) (e : α) (log : List α) :
    latest f k b (e :: log) = latest f k (update f k b e) log := rfl

theorem update_self {e : α} {b' : β} (h : f e = some (k, b')) : update f k b e = b' := by
  unfold update
  rw [h]
  exact if_pos rfl

theorem latest_of_other (h : ∀ e ∈ log, ∀ k' b', f e = some (k', b') → k' ≠ k) : latest f k b log = b := by
  induction log with
  | nil => rfl
  | cons e log ih =>
    have he : update f k b e = b := by
      unfold update
      cases hf : f e with
      | none => rfl
      | some found => exact if_neg (h e mem_cons_self _ _ hf)
    rw [latest_cons, he]
    exact ih fun e hmem => h e (mem_cons_of_mem _ hmem)

/-- Entries about no key. -/
theorem latest_of_none (h : ∀ e ∈ log, f e = none) : latest f k b log = b := by
  refine latest_of_other fun e he k' b' hf => ?_
  rw [h e he] at hf
  cases hf

end Latest

end Log
