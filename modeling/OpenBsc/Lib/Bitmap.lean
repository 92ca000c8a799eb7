import Mathlib.Data.Finset.Image
import Mathlib.Data.Nat.Bitwise
import OpenBsc.Lib.Octets

/-!
# `Lib.Bitmap` — sets of numbers kept in the bits of a row of octets

The bits of a row of octets are numbered from the highest bit of the first octet on. `BitvecLib` is a library that reads
and sets them one by one; `orBit` sets one in the way C code does it itself, with a shifted one.
-/

namespace Bitmap

open List

/-! ## Bits -/

/-- The bit `n`. -/
def bit (d : List Octet) (n : Nat) : Bool := (octetAt d (n / 8)).testBit (7 - n % 8)

/-- `d[i] |= 1 << b`. -/
def orBit (d : List Octet) (i b : Nat) : List Octet := d.modify i (· ||| UInt8.ofNat (1 <<< b))

@[simp] theorem length_orBit (d : List Octet) (i b : Nat) : (orBit d i b).length = d.length :=
  length_modify ..

variable {d : List Octet} {i : Nat}

theorem octetAt_modify (hi : i < d.length) (f : Octet → Octet) (j : Nat) :
    octetAt (d.modify i f) j = if j = i then (f (d.getD i 0)).toNat else octetAt d j := by
  unfold octetAt
  rw [getD_eq_getElem?_getD, List.getElem?_modify]
  by_cases hj : j = i
  · subst hj
    simp [hi]
  · rw [if_neg hj, getD_eq_getElem?_getD]
    cases d[j]? <;> simp [Ne.symm hj]

theorem octetAt_orBit_of_ne {j : Nat} (b : Nat) (hi : i < d.length) (hj : j ≠ i) :
    octetAt (orBit d i b) j = octetAt d j := by
  rw [orBit, octetAt_modify hi, if_neg hj]

theorem octetAt_orBit {b : Nat} (hi : i < d.length) (hb : b < 8) :
    octetAt (orBit d i b) i = octetAt d i ||| 2 ^ b := by
  have hpow : 1 <<< b < 256 := by
    rw [Nat.one_shiftLeft]
    exact Nat.pow_lt_pow_right (by decide) hb
  rw [orBit, octetAt_modify hi, if_pos rfl, UInt8.toNat_or, toNat_octetOf hpow, Nat.one_shiftLeft]
  rfl

/-- **One bit is set, and no other changes.** -/
theorem bit_orBit {b : Nat} (hi : i < d.length) (hb : b < 8) (n : Nat) :
    bit (orBit d i b) n = (bit d n || decide (n = 8 * i + 7 - b)) := by
  unfold bit
  by_cases hn : n / 8 = i
  · rw [hn, octetAt_orBit hi hb, Nat.testBit_or, Nat.testBit_two_pow]
    congr 1
    rw [decide_eq_decide]
    omega
  · rw [octetAt_orBit_of_ne b hi hn]
    have hne : n ≠ 8 * i + 7 - b := by omega
    simp [hne]

theorem octetAt_eq_zero (h : ∀ n, n / 8 = i → bit d n = false) : octetAt d i = 0 := by
  refine Nat.eq_of_testBit_eq fun b => ?_
  rw [Nat.zero_testBit]
  by_cases hb : b < 8
  · have hbit := h (8 * i + (7 - b)) (by omega)
    unfold bit at hbit
    rwa [show (8 * i + (7 - b)) / 8 = i by omega, show 7 - (8 * i + (7 - b)) % 8 = b by omega] at hbit
  · refine Nat.testBit_lt_two_pow (Nat.lt_of_lt_of_le (octetAt_lt d i) ?_)
    exact Nat.pow_le_pow_right (show 2 > 0 by decide) (show 8 ≤ b by omega)

theorem eq_of_bit {d' : List Octet} (hlen : d.length = d'.length) (h : ∀ n < 8 * d.length, bit d n = bit d' n) :
    d = d' := by
  refine ext_getElem hlen fun i hi hi' => UInt8.toNat_inj.mp (Nat.eq_of_testBit_eq fun b => ?_)
  by_cases hb : b < 8
  · have hbit := h (8 * i + (7 - b)) (by omega)
    unfold bit octetAt at hbit
    rw [show (8 * i + (7 - b)) / 8 = i by omega, show 7 - (8 * i + (7 - b)) % 8 = b by omega] at hbit
    simpa [hi, hi'] using hbit
  · have hhigh : ∀ o : Octet, o.toNat.testBit b = false := fun o =>
      Nat.testBit_lt_two_pow (Nat.lt_of_lt_of_le o.toNat_lt
        (Nat.pow_le_pow_right (show 2 > 0 by decide) (show 8 ≤ b by omega)))
    rw [hhigh, hhigh]

theorem bit_replicate (k n : Nat) : bit (List.replicate k 0) n = false := by
  have hzero : octetAt (List.replicate k 0) (n / 8) = 0 := by
    unfold octetAt
    rw [getD_eq_getElem?_getD, List.getElem?_replicate]
    split <;> rfl
  rw [bit, hzero, Nat.zero_testBit]

/-! ## Bit vectors -/

/-- The library reads and sets the bits of a vector; it does nothing to a bit behind the end. -/
structure BitvecLib where
  getBitPos : List Octet → Nat → Int
  setBitPos : List Octet → Nat → Bool → List Octet
  getBitPos_eq : ∀ d n, n < 8 * d.length → getBitPos d n = if bit d n then 1 else 0
  length_setBitPos : ∀ d n b, (setBitPos d n b).length = d.length
  bit_setBitPos : ∀ d n b m, n < 8 * d.length → bit (setBitPos d n b) m = if m = n then b else bit d m
  setBitPos_behind : ∀ d n b, 8 * d.length ≤ n → setBitPos d n b = d

namespace BitvecLib

variable (lib : BitvecLib)

/-- The set that a vector holds. -/
def members (d : List Octet) : Finset Nat := (Finset.range (8 * d.length)).filter fun n => lib.getBitPos d n ≠ 0

variable {lib}

theorem mem_members {n : Nat} : n ∈ lib.members d ↔ n < 8 * d.length ∧ lib.getBitPos d n ≠ 0 := by
  rw [members, Finset.mem_filter, Finset.mem_range]

theorem getBitPos_ne_zero {n : Nat} (hn : n < 8 * d.length) : lib.getBitPos d n ≠ 0 ↔ bit d n = true := by
  rw [lib.getBitPos_eq d n hn]
  cases bit d n <;> simp

theorem members_replicate (k : Nat) : lib.members (List.replicate k 0) = ∅ := by
  ext n
  rw [mem_members]
  refine ⟨fun ⟨hn, h⟩ => ?_, fun h => absurd h (Finset.notMem_empty n)⟩
  rw [getBitPos_ne_zero hn, bit_replicate] at h
  exact absurd h Bool.false_ne_true

/-- A number is added; one that the vector has no bit for is left out. -/
theorem members_setBitPos (d : List Octet) (n : Nat) :
    lib.members (lib.setBitPos d n true) = if n < 8 * d.length then insert n (lib.members d) else lib.members d := by
  by_cases hn : n < 8 * d.length
  · rw [if_pos hn]
    ext m
    rw [Finset.mem_insert, mem_members, mem_members, lib.length_setBitPos]
    by_cases hm : m < 8 * d.length
    · have hm' : m < 8 * (lib.setBitPos d n true).length := by rwa [lib.length_setBitPos]
      rw [getBitPos_ne_zero hm', getBitPos_ne_zero hm, lib.bit_setBitPos d n true m hn]
      by_cases hmn : m = n
      · simp [hmn, hn]
      · simp [hmn, hm]
    · have hmn : m ≠ n := by omega
      simp [hm, hmn]
  · rw [if_neg hn, lib.setBitPos_behind d n true (by omega)]

/-- The octet with the bit `b` set or cleared. -/
def withBit (o : Octet) (b : Nat) (v : Bool) : Octet := if o.toNat.testBit b = v then o else o ^^^ UInt8.ofNat (1 <<< b)

theorem testBit_withBit (o : Octet) {b : Nat} (hb : b < 8) (v : Bool) (i : Nat) :
    (withBit o b v).toNat.testBit i = if i = b then v else o.toNat.testBit i := by
  have hpow : 1 <<< b < 256 := by
    rw [Nat.one_shiftLeft]
    exact Nat.pow_lt_pow_right (by decide) hb
  unfold withBit
  by_cases ho : o.toNat.testBit b = v
  · rw [if_pos ho]
    by_cases hi : i = b
    · rw [if_pos hi, hi, ho]
    · rw [if_neg hi]
  · rw [if_neg ho, UInt8.toNat_xor, toNat_octetOf hpow, Nat.one_shiftLeft, Nat.testBit_xor, Nat.testBit_two_pow]
    by_cases hi : i = b
    · subst hi
      cases hv : o.toNat.testBit i <;> cases v <;> simp_all
    · simp [hi, Ne.symm hi]

/-- The library on the octets themselves. -/
def onOctets : BitvecLib where
  getBitPos d n := if n < 8 * d.length then (if bit d n then 1 else 0) else -22
  setBitPos d n v := d.modify (n / 8) fun o => withBit o (7 - n % 8) v
  getBitPos_eq d n hn := if_pos hn
  length_setBitPos d n v := length_modify ..
  bit_setBitPos d n v m hn := by
    unfold bit
    rw [octetAt_modify (by omega)]
    by_cases hm : m / 8 = n / 8
    · rw [if_pos hm, testBit_withBit _ (by omega)]
      have hiff : 7 - m % 8 = 7 - n % 8 ↔ m = n := by omega
      simp only [hiff, hm]
      rfl
    · rw [if_neg hm, if_neg (by rintro rfl; exact hm rfl)]
  setBitPos_behind d n v hn := modify_eq_self (by omega)

end BitvecLib

end Bitmap
