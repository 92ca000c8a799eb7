import Mathlib.Tactic.Common

/-!
# `Lib.Pairing` — who is paired with whom, and when that is mutual

A pairing is a function `peer : κ → Option κ`. It is `Mutual` when everybody who has a peer is the peer of that
peer. A program rarely keeps such a function whole: it writes one end, or both ends of a new pair, and whether
the pairing stays mutual depends on who was paired before. The three laws say exactly when.

A list of pairs gives a pairing too, by its first pair with the element in it (`partner`).
-/

namespace Pairing

variable {κ : Type*} [DecidableEq κ]

/-- Everybody who has a peer is the peer of that peer. -/
def Mutual (peer : κ → Option κ) : Prop := ∀ a b, peer a = some b → peer b = some a

/-- `a` and `b` are each other's peer from now on. -/
def link (peer : κ → Option κ) (a b : κ) : κ → Option κ :=
  fun k => if k = b then some a else if k = a then some b else peer k

/-- `a` has no peer from now on; its peer is not told. -/
def drop (peer : κ → Option κ) (a : κ) : κ → Option κ := fun k => if k = a then none else peer k

/-- Neither `a` nor its peer has a peer from now on. -/
def part (peer : κ → Option κ) (a : κ) : κ → Option κ :=
  fun k => if k = a ∨ peer a = some k then none else peer k

variable {peer : κ → Option κ} {a b : κ}

theorem link_right (peer : κ → Option κ) (a b : κ) : link peer a b b = some a := if_pos rfl

theorem link_left (peer : κ → Option κ) (a b : κ) : link peer a b a = some b := by
  unfold link
  by_cases hab : a = b
  · rw [if_pos hab, hab]
  · rw [if_neg hab, if_pos rfl]

theorem link_other {k : κ} (ha : k ≠ a) (hb : k ≠ b) : link peer a b k = peer k := by
  unfold link
  rw [if_neg hb, if_neg ha]

/-- A new pair keeps the pairing mutual exactly when neither end was paired with a third. -/
theorem mutual_link_iff (h : Mutual peer) :
    Mutual (link peer a b) ↔ ∀ p, peer a = some p ∨ peer b = some p → p = a ∨ p = b := by
  constructor
  · intro hlink p hp
    by_contra hthird
    rw [not_or] at hthird
    obtain ⟨hpa, hpb⟩ := hthird
    -- the third still has the end as its peer
    rcases hp with hp | hp
    · have hpeer : link peer a b p = some a := by rw [link_other hpa hpb, h a p hp]
      have hback := hlink p a hpeer
      rw [link_left] at hback
      exact hpb (Option.some.inj hback).symm
    · have hpeer : link peer a b p = some b := by rw [link_other hpa hpb, h b p hp]
      have hback := hlink p b hpeer
      rw [link_right] at hback
      exact hpa (Option.some.inj hback).symm
  · intro hthird x y hxy
    by_cases hxb : x = b
    · subst hxb
      rw [link_right] at hxy
      cases hxy
      exact link_left peer a x
    by_cases hxa : x = a
    · subst hxa
      rw [link_left] at hxy
      cases hxy
      exact link_right peer x b
    rw [link_other hxa hxb] at hxy
    have hback := h x y hxy
    have hya : y ≠ a := by
      rintro rfl
      exact (hthird x (.inl hback)).elim hxa hxb
    have hyb : y ≠ b := by
      rintro rfl
      exact (hthird x (.inr hback)).elim hxa hxb
    rw [link_other hya hyb, hback]

/-- Forgetting one's peer keeps the pairing mutual exactly when nobody else is left behind. -/
theorem mutual_drop_iff (h : Mutual peer) : Mutual (drop peer a) ↔ ∀ p, peer a = some p → p = a := by
  constructor
  · intro hdrop p hp
    by_contra hpa
    have hpeer : drop peer a p = some a := by
      unfold drop
      rw [if_neg hpa, h a p hp]
    have hback := hdrop p a hpeer
    unfold drop at hback
    rw [if_pos rfl] at hback
    cases hback
  · intro hself x y hxy
    unfold drop at hxy ⊢
    by_cases hxa : x = a
    · rw [if_pos hxa] at hxy
      cases hxy
    rw [if_neg hxa] at hxy
    have hback := h x y hxy
    have hya : y ≠ a := by
      rintro rfl
      exact hxa (hself x hback)
    rw [if_neg hya, hback]

/-- Both ends forget each other. -/
theorem Mutual.part (h : Mutual peer) (a : κ) : Mutual (part peer a) := by
  intro x y hxy
  unfold Pairing.part at hxy ⊢
  by_cases hx : x = a ∨ peer a = some x
  · rw [if_pos hx] at hxy
    cases hxy
  rw [if_neg hx] at hxy
  have hback := h x y hxy
  have hy : ¬(y = a ∨ peer a = some y) := by
    rintro (rfl | hy)
    · exact hx (.inr hback)
    · have := h a y hy
      rw [hback] at this
      exact hx (.inl (Option.some.inj this))
  rw [if_neg hy, hback]

/-! ## Lists of pairs -/

/-- The other element of the first pair with `a` in it. -/
def partner (pairs : List (κ × κ)) (a : κ) : Option κ :=
  pairs.findSome? fun p => if p.1 = a then some p.2 else if p.2 = a then some p.1 else none

/-- Whether `a` stands in the pair. -/
def touches (a : κ) (p : κ × κ) : Bool := p.1 = a || p.2 = a

theorem touches_of_partner {pairs : List (κ × κ)} (h : partner pairs a = some b) :
    ∃ p ∈ pairs, p = (a, b) ∨ p = (b, a) := by
  obtain ⟨p, hp, hsome⟩ := List.exists_of_findSome?_eq_some h
  refine ⟨p, hp, ?_⟩
  by_cases h1 : p.1 = a
  · rw [if_pos h1] at hsome
    exact .inl (Prod.ext h1 (Option.some.inj hsome))
  · rw [if_neg h1] at hsome
    by_cases h2 : p.2 = a
    · rw [if_pos h2] at hsome
      exact .inr (Prod.ext (Option.some.inj hsome) h2)
    · rw [if_neg h2] at hsome
      cases hsome

/-- Where no element stands in two pairs, the partner's partner is oneself. -/
theorem mutual_partner {pairs : List (κ × κ)} (h : ∀ a, pairs.countP (touches a) ≤ 1) :
    Mutual (partner pairs) := by
  induction pairs with
  | nil => exact fun a b hab => by cases hab
  | cons p pairs ih =>
    have hrest : ∀ a, pairs.countP (touches a) ≤ 1 := fun a => by
      have := h a
      rw [List.countP_cons] at this
      omega
    -- an element of the first pair stands in no other
    have hfirst : ∀ a, touches a p = true → partner pairs a = none := by
      intro a ha
      have hzero := h a
      rw [List.countP_cons, if_pos ha] at hzero
      have hnone := List.countP_eq_zero.mp (show pairs.countP (touches a) = 0 by omega)
      cases hp : partner pairs a with
      | none => rfl
      | some b =>
        obtain ⟨q, hq, rfl | rfl⟩ := touches_of_partner hp
        · exact absurd (show touches a (a, b) = true by simp [touches]) (hnone _ hq)
        · exact absurd (show touches a (b, a) = true by simp [touches]) (hnone _ hq)
    have hcons : ∀ a, partner (p :: pairs) a =
        if p.1 = a then some p.2 else if p.2 = a then some p.1 else partner pairs a := by
      intro a
      unfold partner
      rw [List.findSome?_cons]
      split_ifs <;> rfl
    intro a b hab
    rw [hcons] at hab ⊢
    by_cases h1 : p.1 = a
    · rw [if_pos h1] at hab
      cases hab
      by_cases h2 : p.1 = p.2
      · rw [if_pos h2, ← h1, h2]
      · rw [if_neg h2, if_pos rfl, h1]
    rw [if_neg h1] at hab
    by_cases h2 : p.2 = a
    · rw [if_pos h2] at hab
      cases hab
      rw [if_pos rfl, h2]
    rw [if_neg h2] at hab
    have hback := ih hrest a b hab
    have hb : touches b p = false := by
      by_contra hb
      rw [Bool.not_eq_false] at hb
      rw [hfirst b hb] at hback
      cases hback
    simp only [touches, Bool.or_eq_false_iff, decide_eq_false_iff_not] at hb
    rw [if_neg hb.1, if_neg hb.2, hback]

end Pairing
