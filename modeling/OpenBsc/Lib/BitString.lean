import Mathlib.Data.Nat.Bitwise
import Mathlib.Tactic.Ring
import OpenBsc.Lib.Octets

/-!
# `Lib.BitString` — fields of bits without alignment

Fields, each with its width in bits, stand one after the other from the highest bit on; the number they make is cut into
octets. A field is read back from the number by where it ends (`field_pack`), and from the octets that it lies in with a
shift and a mask (`field_within`, `field_across`). Nothing here knows what the fields mean.
-/

namespace BitString

open Nat List

/-! ## Packing -/

/-- How many bits the fields take. -/
def width (fields : List (Nat × Nat)) : Nat := (fields.map Prod.fst).sum

/-- The number that the fields make, each a width and a value. -/
def pack : List (Nat × Nat) → Nat
  | [] => 0
  | (_, v) :: rest => v * 2 ^ width rest + pack rest

/-- The values fit into their widths. -/
def Fits (fields : List (Nat × Nat)) : Prop := ∀ f ∈ fields, f.2 < 2 ^ f.1

/-- The `w` bits of a number above the lowest `after` ones. -/
def field (n after w : Nat) : Nat := n / 2 ^ after % 2 ^ w

@[simp] theorem width_nil : width [] = 0 := rfl

@[simp] theorem width_cons (f : Nat × Nat) (rest : List (Nat × Nat)) : width (f :: rest) = f.1 + width rest := by
  simp [width]

theorem width_append (fields rest : List (Nat × Nat)) : width (fields ++ rest) = width fields + width rest := by
  simp [width]

theorem pack_lt {fields : List (Nat × Nat)} (h : Fits fields) : pack fields < 2 ^ width fields := by
  induction fields with
  | nil => simp [pack]
  | cons f rest ih =>
    obtain ⟨w, v⟩ := f
    have hv : v < 2 ^ w := h (w, v) mem_cons_self
    have hrest := ih fun f hf => h f (mem_cons_of_mem _ hf)
    rw [width_cons, pow_add, pack]
    calc v * 2 ^ width rest + pack rest < v * 2 ^ width rest + 2 ^ width rest := Nat.add_lt_add_left hrest _
      _ = (v + 1) * 2 ^ width rest := by ring
      _ ≤ 2 ^ w * 2 ^ width rest := mul_le_mul_right _ hv

/-- **A field is read back** from where it ends. -/
theorem field_pack {before rest : List (Nat × Nat)} {f : Nat × Nat} (h : Fits (before ++ f :: rest)) :
    field (pack (before ++ f :: rest)) (width rest) f.1 = f.2 := by
  have hrest : pack rest < 2 ^ width rest :=
    pack_lt fun g hg => h g (mem_append_right _ (mem_cons_of_mem _ hg))
  have hf : f.2 < 2 ^ f.1 := h f (mem_append_right _ mem_cons_self)
  induction before with
  | nil =>
    show (f.2 * 2 ^ width rest + pack rest) / 2 ^ width rest % 2 ^ f.1 = f.2
    rw [Nat.add_comm, Nat.add_mul_div_right _ _ (Nat.two_pow_pos _), Nat.div_eq_of_lt hrest, Nat.zero_add,
      mod_eq_of_lt hf]
  | cons g before ih =>
    -- what stands before the field does not reach into it
    have hback := ih fun g hg => h g (mem_cons_of_mem _ hg)
    have hwidth : width (before ++ f :: rest) = width before + f.1 + width rest := by
      rw [width_append, width_cons, add_assoc]
    have hfactor : g.2 * 2 ^ width (before ++ f :: rest) = g.2 * 2 ^ width before * 2 ^ f.1 * 2 ^ width rest := by
      rw [hwidth, pow_add, pow_add]
      ring
    show (g.2 * 2 ^ width (before ++ f :: rest) + pack (before ++ f :: rest)) / 2 ^ width rest % 2 ^ f.1 = f.2
    rw [hfactor, Nat.add_comm, Nat.add_mul_div_right _ _ (Nat.two_pow_pos _), Nat.add_mul_mod_self_right]
    exact hback

/-! ## Octets -/

/-- The octets of a number, the highest first. -/
def toOctets (n count : Nat) : List Octet :=
  (List.range count).map fun i => UInt8.ofNat (field n (8 * (count - 1 - i)) 8)

variable (n count k : Nat)

theorem length_toOctets : (toOctets n count).length = count := by simp [toOctets]

theorem octetAt_toOctets {count i : Nat} (hi : i < count) :
    octetAt (toOctets n count) i = field n (8 * (count - 1 - i)) 8 := by
  have hlt : field n (8 * (count - 1 - i)) 8 < 256 := mod_lt _ (by decide)
  unfold octetAt toOctets
  rw [getD_eq_getElem?_getD, List.getElem?_map, List.getElem?_range hi, Option.map_some, Option.getD_some,
    toNat_octetOf hlt]

variable {b : Nat}

theorem field_within {w : Nat} (h : b + w ≤ 8) : field n k 8 / 2 ^ b % 2 ^ w = field n (k + b) w := by
  unfold field
  have hsplit : 2 ^ 8 = 2 ^ b * 2 ^ (8 - b) := by rw [← Nat.pow_add, Nat.add_sub_cancel' (by omega)]
  have hdvd : 2 ^ w ∣ 2 ^ (8 - b) := Nat.pow_dvd_pow 2 (by omega)
  rw [hsplit, Nat.mod_mul_right_div_self, Nat.mod_mod_of_dvd _ hdvd, Nat.div_div_eq_div_mul, ← Nat.pow_add]

/-- The lowest bits of an octet with the highest of the next one. -/
theorem field_across {a : Nat} (ha : a ≤ 8) (hb : b ≤ 8) :
    field n (k + 8) 8 % 2 ^ a * 2 ^ (8 - b) + field n k 8 / 2 ^ b = field n (k + b) (a + (8 - b)) := by
  have hhigh : field n (k + 8) 8 % 2 ^ a = n / 2 ^ k / 2 ^ 8 % 2 ^ a := by
    unfold field
    rw [Nat.pow_add, ← Nat.div_div_eq_div_mul, Nat.mod_mod_of_dvd _ (Nat.pow_dvd_pow 2 ha)]
  have hlow : field n k 8 / 2 ^ b = n / 2 ^ k / 2 ^ b % 2 ^ (8 - b) := by
    unfold field
    have hsplit : 2 ^ 8 = 2 ^ b * 2 ^ (8 - b) := by rw [← Nat.pow_add, Nat.add_sub_cancel' hb]
    rw [hsplit, Nat.mod_mul_right_div_self]
  have hmid : n / 2 ^ k / 2 ^ 8 = n / 2 ^ k / 2 ^ b / 2 ^ (8 - b) := by
    rw [Nat.div_div_eq_div_mul (n / 2 ^ k), ← Nat.pow_add, Nat.add_sub_cancel' hb]
  rw [hhigh, hlow, hmid]
  unfold field
  rw [Nat.pow_add 2 k b, ← Nat.div_div_eq_div_mul, Nat.add_comm a, Nat.pow_add, Nat.mod_mul, Nat.mul_comm]
  omega

/-! ### With shifts and masks -/

theorem field_shift_mask {w : Nat} (h : b + w ≤ 8) :
    field n k 8 >>> b &&& 2 ^ w - 1 = field n (k + b) w := by
  rw [shiftRight_eq_div_pow, and_two_pow_sub_one_eq_mod, field_within n k h]

theorem field_mask {w : Nat} (h : w ≤ 8) : field n k 8 &&& 2 ^ w - 1 = field n k w :=
  field_shift_mask n k (b := 0) (by omega)

theorem field_shift (h : b ≤ 8) : field n k 8 >>> b = field n (k + b) (8 - b) := by
  have hlt : field n k 8 / 2 ^ b < 2 ^ (8 - b) := by
    rw [Nat.div_lt_iff_lt_mul (Nat.two_pow_pos b), ← Nat.pow_add, Nat.sub_add_cancel h]
    exact Nat.mod_lt _ (Nat.two_pow_pos 8)
  rw [shiftRight_eq_div_pow, ← field_within n k (by omega), mod_eq_of_lt hlt]

theorem field_bit (h : b < 8) : field n k 8 &&& 2 ^ b ≠ 0 ↔ field n (k + b) 1 = 1 := by
  rw [← field_within n k (by omega), and_two_pow, testBit_eq_decide_div_mod_eq, pow_one]
  by_cases hbit : field n k 8 / 2 ^ b % 2 = 1
  · simp [hbit]
  · simp [hbit]

theorem field_shift_or {a : Nat} (ha : a ≤ 8) (hb : b ≤ 8) :
    (field n (k + 8) 8 &&& 2 ^ a - 1) <<< (8 - b) ||| field n k 8 >>> b = field n (k + b) (a + (8 - b)) := by
  have hlt : field n k 8 >>> b < 2 ^ (8 - b) := by
    rw [field_shift n k hb]
    exact Nat.mod_lt _ (Nat.two_pow_pos _)
  rw [← shiftLeft_add_eq_or_of_lt hlt, and_two_pow_sub_one_eq_mod, shiftLeft_eq, shiftRight_eq_div_pow,
    field_across n k ha hb]

end BitString
