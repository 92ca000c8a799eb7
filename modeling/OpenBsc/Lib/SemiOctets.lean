import Mathlib.Data.List.TakeWhile
import OpenBsc.Lib.Octets

/-!
# `Lib.SemiOctets` — numbers in semi-octets, and fields with their length

A telephone number is written two digits to an octet, the first one in the lower half, and an odd one out is followed by
a filler. `take_ofSemiOctets` reads back as many digits as there were. A field that follows its length in octets is read
back by `takeLv`.
-/

namespace SemiOctets

open List

/-! ## Digits -/

/-- Digits below 16, two to an octet. -/
def semiOctets : List Nat → List Octet
  | [] => []
  | [a] => [UInt8.ofNat (a + 16 * 15)]
  | a :: b :: rest => UInt8.ofNat (a + 16 * b) :: semiOctets rest

/-- The digits in octets, and the filler if there is one. -/
def ofSemiOctets : List Octet → List Nat
  | [] => []
  | o :: rest => o.toNat % 16 :: o.toNat / 16 :: ofSemiOctets rest

theorem length_semiOctets (digits : List Nat) : (semiOctets digits).length = (digits.length + 1) / 2 := by
  fun_induction semiOctets digits with
  | case1 => rfl
  | case2 a => simp only [length_cons, length_nil]
  | case3 a b rest ih =>
    simp only [length_cons, ih]
    omega

/-- **The digits are read back.** -/
theorem take_ofSemiOctets {digits : List Nat} (h : ∀ d ∈ digits, d < 16) :
    (ofSemiOctets (semiOctets digits)).take digits.length = digits := by
  fun_induction semiOctets digits with
  | case1 => rfl
  | case2 a =>
    have ha := h a mem_cons_self
    have hval : (UInt8.ofNat (a + 16 * 15)).toNat = a + 16 * 15 := toNat_octetOf (by omega)
    simp only [ofSemiOctets, hval, length_cons, length_nil, take_succ_cons, take_zero, cons.injEq, and_true]
    omega
  | case3 a b rest ih =>
    have ha := h a mem_cons_self
    have hb := h b (mem_cons_of_mem _ mem_cons_self)
    have hval : (UInt8.ofNat (a + 16 * b)).toNat = a + 16 * b := toNat_octetOf (by omega)
    have hrest := ih fun d hd => h d (mem_cons_of_mem _ (mem_cons_of_mem _ hd))
    simp only [ofSemiOctets, hval, length_cons, take_succ_cons, hrest, cons.injEq, and_true]
    omega

/-- All that is read back: the digits, and the filler behind an odd number of them. -/
theorem ofSemiOctets_semiOctets {digits : List Nat} (h : ∀ d ∈ digits, d < 16) :
    ofSemiOctets (semiOctets digits) = digits ++ if digits.length % 2 = 1 then [15] else [] := by
  fun_induction semiOctets digits with
  | case1 => rfl
  | case2 a =>
    have ha := h a mem_cons_self
    have hval : (UInt8.ofNat (a + 16 * 15)).toNat = a + 16 * 15 := toNat_octetOf (by omega)
    have hlow : (a + 16 * 15) % 16 = a := by omega
    have hhigh : (a + 16 * 15) / 16 = 15 := by omega
    simp only [ofSemiOctets, hval, hlow, hhigh]
    rfl
  | case3 a b rest ih =>
    have ha := h a mem_cons_self
    have hb := h b (mem_cons_of_mem _ mem_cons_self)
    have hval : (UInt8.ofNat (a + 16 * b)).toNat = a + 16 * b := toNat_octetOf (by omega)
    have hlow : (a + 16 * b) % 16 = a := by omega
    have hhigh : (a + 16 * b) / 16 = b := by omega
    have hrest := ih fun d hd => h d (mem_cons_of_mem _ (mem_cons_of_mem _ hd))
    have hodd : (a :: b :: rest).length % 2 = rest.length % 2 := by
      simp only [length_cons]
      omega
    simp only [ofSemiOctets, hval, hlow, hhigh, hrest, hodd, cons_append]

/-! ## Numbers -/

/-- What stands for a digit in a number. -/
def bcdNumDigits : List Octet := octets "0123456789*#abc"

/-- A telephone number. -/
def IsNumber (number : List Octet) : Prop := ∀ c ∈ number, c ∈ bcdNumDigits

def digitsOf (number : List Octet) : List Nat := number.map bcdNumDigits.idxOf

def numberOf (digits : List Nat) : List Octet := digits.map fun d => bcdNumDigits.getD d 0

theorem length_digitsOf (number : List Octet) : (digitsOf number).length = number.length := length_map ..

variable {number : List Octet}

theorem digitsOf_lt (h : IsNumber number) : ∀ d ∈ digitsOf number, d < 16 := by
  intro d hd
  obtain ⟨c, hc, rfl⟩ := mem_map.mp hd
  exact Nat.lt_succ_of_lt (idxOf_lt_length_of_mem (h c hc))

theorem numberOf_digitsOf (h : IsNumber number) : numberOf (digitsOf number) = number := by
  unfold numberOf digitsOf
  rw [map_map]
  refine (map_congr_left fun c hc => ?_).trans (map_id number)
  have hlt := idxOf_lt_length_of_mem (h c hc)
  rw [Function.comp_apply, getD_eq_getElem?_getD, getElem?_eq_getElem hlt, Option.getD_some, getElem_idxOf, id_eq]

/-- The number that octets are read as: up to the first filler. -/
def readNumber (octets : List Octet) : List Octet := cString (numberOf (ofSemiOctets octets))

theorem not_mem_bcdNumDigits : (0 : Octet) ∉ bcdNumDigits := by decide

theorem cString_number (h : IsNumber number) (rest : List Octet) : cString (number ++ 0 :: rest) = number := by
  rw [cString_zero]
  exact takeWhile_eq_self_iff.mpr fun c hc => decide_eq_true fun hzero => not_mem_bcdNumDigits (hzero ▸ h c hc)

theorem not_mem_readNumber (octets : List Octet) : (0 : Octet) ∉ readNumber octets := by
  intro h
  have hne := mem_takeWhile_imp h
  exact of_decide_eq_true hne rfl

/-- **A number is read back**, whether it has a filler or not. -/
theorem readNumber_semiOctets (h : IsNumber number) : readNumber (semiOctets (digitsOf number)) = number := by
  unfold readNumber
  rw [ofSemiOctets_semiOctets (digitsOf_lt h)]
  split
  · have hfiller : numberOf (digitsOf number ++ [15]) = number ++ [0] := by
      unfold numberOf
      rw [map_append]
      exact congrArg₂ _ (numberOf_digitsOf h) rfl
    rw [hfiller, cString_number h]
  · rw [append_nil, numberOf_digitsOf h]
    have hself := cString_number h []
    rw [cString_zero] at hself
    exact hself

/-! ## Lengths -/

/-- A field after its length. -/
def lv (field : List Octet) : List Octet := UInt8.ofNat field.length :: field

/-- The field that follows its length, and what follows it. -/
def takeLv : List Octet → Option (List Octet × List Octet)
  | [] => none
  | n :: rest => if n.toNat ≤ rest.length then some (rest.take n.toNat, rest.drop n.toNat) else none

theorem takeLv_lv {field : List Octet} (h : field.length < 256) (rest : List Octet) :
    takeLv (lv field ++ rest) = some (field, rest) := by
  simp only [lv, cons_append, takeLv, toNat_octetOf h, length_append, Nat.le_add_right, if_true, take_left, drop_left]

end SemiOctets
