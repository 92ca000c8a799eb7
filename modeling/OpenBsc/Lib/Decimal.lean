import OpenBsc.Lib.Octets

/-!
# `Lib.Decimal` — numbers as text

`decimal n` is what `%i` prints of a number that is not negative, and `atoi` reads it back; `printInt` is what it prints
of any number, and `hexadecimal` what `%x` prints. A text `Writes` a number if it consists of the digits of it, with or
without zeros in front.
-/

/-- `%i` of a number that is not negative. -/
def decimal (n : Nat) : List Octet := (Nat.toDigits 10 n).map octetOf

/-- `%i`. -/
def printInt (n : Int) : List Octet := if n < 0 then octetOf '-' :: decimal n.natAbs else decimal n.natAbs

/-- `%x`. -/
def hexadecimal (n : Nat) : List Octet := (Nat.toDigits 16 n).map octetOf

/-- `atoi`: what `strtol` yields with a 64-bit `long`, cut to an `int`. -/
def atoi (s : List Octet) : Int :=
  let (negative, digits) := takeSign (s.dropWhile isSpace)
  let value : Int := (takeDigits 10 digits 0 0).1
  let long := if negative then max (-2 ^ 63) (-value) else min (2 ^ 63 - 1) value
  (BitVec.ofInt 32 long).toInt

theorem toNat_of_isDigit {c : Char} (h : c.isDigit = true) : 48 ≤ c.toNat ∧ c.toNat ≤ 57 := by
  simp only [Char.isDigit, Bool.and_eq_true, decide_eq_true_eq, ge_iff_le] at h
  exact ⟨UInt32.le_iff_toNat_le.mp h.1, UInt32.le_iff_toNat_le.mp h.2⟩

theorem toNat_octetOf_digit {c : Char} (h : c.isDigit = true) : (octetOf c).toNat = c.toNat := by
  obtain ⟨hlow, hhigh⟩ := toNat_of_isDigit h
  exact toNat_octetOf (by omega)

theorem decimal_ne_nil (n : Nat) : decimal n ≠ [] := by
  simp [decimal, Nat.toDigits_ne_nil]

theorem mem_decimal {n : Nat} {o : Octet} (ho : o ∈ decimal n) : 48 ≤ o.toNat ∧ o.toNat ≤ 57 := by
  obtain ⟨c, hc, rfl⟩ := List.mem_map.mp ho
  have hdigit := Nat.isDigit_of_mem_toDigits (by decide) (by decide) hc
  rw [toNat_octetOf_digit hdigit]
  exact toNat_of_isDigit hdigit

/-- A number in hexadecimal consists of digits and letters. -/
theorem mem_hexadecimal {n : Nat} {o : Octet} (ho : o ∈ hexadecimal n) : 48 ≤ o.toNat ∧ o.toNat ≤ 102 := by
  have hdigit : ∀ d < 16, 48 ≤ (octetOf (Nat.digitChar d)).toNat ∧ (octetOf (Nat.digitChar d)).toNat ≤ 102 := by decide
  induction n using Nat.strongRecOn with
  | ind n ih =>
    rw [hexadecimal, Nat.toDigits_eq_if (by decide)] at ho
    split at ho
    · rw [List.map_singleton, List.mem_singleton] at ho
      rw [ho]
      exact hdigit n ‹_›
    · rw [List.map_append, List.mem_append] at ho
      rcases ho with hfront | hlast
      · exact ih (n / 16) (by omega) hfront
      · rw [List.map_singleton, List.mem_singleton] at hlast
        rw [hlast]
        exact hdigit (n % 16) (by omega)

theorem hexadecimal_ne_nil (n : Nat) : hexadecimal n ≠ [] := by
  simp [hexadecimal, Nat.toDigits_ne_nil]

/-- A number consists of digits, and perhaps a sign. -/
theorem mem_printInt {n : Int} {o : Octet} (ho : o ∈ printInt n) : 45 ≤ o.toNat ∧ o.toNat ≤ 57 := by
  unfold printInt at ho
  split at ho
  · rcases List.mem_cons.mp ho with rfl | hdigit
    · decide
    · have hbounds := mem_decimal hdigit
      omega
  · have hbounds := mem_decimal ho
    omega

/-! ## Texts of digits -/

/-- The text consists of digits, and this is their number. -/
def Writes (text : List Octet) (n : Nat) : Prop :=
  text ≠ [] ∧ (∀ o ∈ text, 48 ≤ o.toNat ∧ o.toNat ≤ 57) ∧ n = text.foldl (fun value o => value * 10 + (o.toNat - 48)) 0

instance (text : List Octet) (n : Nat) : Decidable (Writes text n) :=
  inferInstanceAs (Decidable (_ ∧ (∀ _ ∈ text, _) ∧ _))

theorem digitValue_of_digit {o : Octet} (h : 48 ≤ o.toNat ∧ o.toNat ≤ 57) : digitValue 10 o = some (o.toNat - 48) := by
  have hrange : 48 ≤ o ∧ o ≤ 57 := by
    rw [UInt8.le_iff_toNat_le, UInt8.le_iff_toNat_le]
    exact h
  simp only [digitValue, if_pos hrange]
  rw [if_pos (by omega)]

theorem takeDigits_octets {text : List Octet} (h : ∀ o ∈ text, 48 ≤ o.toNat ∧ o.toNat ≤ 57) (value count : Nat) :
    takeDigits 10 text value count =
      (text.foldl (fun value o => value * 10 + (o.toNat - 48)) value, count + text.length, []) := by
  induction text generalizing value count with
  | nil => rfl
  | cons o text ih =>
    rw [takeDigits, digitValue_of_digit (h o List.mem_cons_self)]
    show takeDigits 10 text (value * 10 + (o.toNat - 48)) (count + 1) = _
    rw [ih (fun o ho => h o (List.mem_cons_of_mem _ ho)), List.foldl_cons, List.length_cons]
    congr 2
    omega

/-- **A number that is written is read.** -/
theorem atoi_writes {text : List Octet} {n : Nat} (h : Writes text n) (hn : n < 2 ^ 31) : atoi text = n := by
  obtain ⟨hne, hdigits, heq⟩ := h
  obtain ⟨o, rest, hcons⟩ := List.exists_cons_of_ne_nil hne
  obtain ⟨hlow, hhigh⟩ := hdigits o (by rw [hcons]; exact List.mem_cons_self)
  have hblank : isSpace o = false := (isSpace_of_lt (by omega)).1
  have hskip : text.dropWhile isSpace = text := by
    rw [hcons]
    exact List.dropWhile_cons_of_neg (by rw [hblank]; decide)
  have hsign : takeSign text = (false, text) := by
    have hminus : o ≠ 45 := by
      rintro rfl
      exact absurd hlow (by decide)
    have hplus : o ≠ 43 := by
      rintro rfl
      exact absurd hlow (by decide)
    rw [hcons]
    simp only [takeSign, if_neg hminus, if_neg hplus]
  unfold atoi
  rw [hskip, hsign]
  simp only [takeDigits_octets hdigits, ← heq, Bool.false_eq_true, if_false]
  rw [BitVec.toInt_ofInt, Int.bmod_def]
  omega
