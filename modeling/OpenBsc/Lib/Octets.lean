import Mathlib.Algebra.Ring.Int.Defs
import Mathlib.Algebra.Ring.Nat
import Mathlib.Data.List.Basic
import Mathlib.Tactic.Common

/-!
# `Lib.Octets` — octets of a message buffer, and error numbers

`octetAt buf i` is what reading the `i`-th octet from a pointer into a buffer yields. Message buffers are
allocated zeroed and larger than what they hold, so what lies behind the last octet reads as zero. Strings in
a buffer end before a zero, as they do in C.
-/

/-- An octet of a message. -/
abbrev Octet := UInt8

/-- The value of the `i`-th octet. -/
def octetAt (buf : List Octet) (i : Nat) : Nat := (buf.getD i 0).toNat

variable (o : Octet) (buf : List Octet) (i base : Nat)

@[simp] theorem octetAt_zero : octetAt (o :: buf) 0 = o.toNat := rfl

@[simp] theorem octetAt_succ :
    octetAt (o :: buf) (i + 1) = octetAt buf i := rfl

theorem octetAt_lt : octetAt buf i < 256 :=
  (buf.getD i 0).toNat_lt

theorem toNat_octetOf {n : Nat} (h : n < 256) : (UInt8.ofNat n).toNat = n := by
  rw [UInt8.toNat_ofNat']
  exact Nat.mod_eq_of_lt h

/-- The lowest three bits. -/
def lowBits (o : Octet) : Fin 8 := ⟨o.toNat % 8, Nat.mod_lt _ (by decide)⟩

/-! ## Strings -/

/-- The octets of a text in ASCII. -/
def octets (s : String) : List Octet := s.toList.map fun c => UInt8.ofNat c.toNat

/-- The octet of a character. -/
def octetOf (c : Char) : Octet := UInt8.ofNat c.toNat

/-- The string that a pointer into a buffer points to: it ends before the first zero. -/
def cString (buf : List Octet) : List Octet := buf.takeWhile (· ≠ 0)

/-- `isspace` in the C locale. -/
def isSpace (o : Octet) : Bool := o = 32 ∨ (9 ≤ o ∧ o ≤ 13)

/-- `islower` in the C locale. -/
def isLower (o : Octet) : Bool := 97 ≤ o ∧ o ≤ 122

/-- The value of a digit in the base, if it is one. -/
def digitValue (base : Nat) (o : Octet) : Option Nat :=
  let value := if 48 ≤ o ∧ o ≤ 57 then o.toNat - 48
    else if 97 ≤ o ∧ o ≤ 122 then o.toNat - 87
    else if 65 ≤ o ∧ o ≤ 90 then o.toNat - 55 else base
  if value < base then some value else none

/-- The number that digits at the front stand for, how many there are, and what follows them. -/
def takeDigits (base : Nat) : List Octet → Nat → Nat → Nat × Nat × List Octet
  | [], value, count => (value, count, [])
  | o :: rest, value, count =>
    match digitValue base o with
    | some d => takeDigits base rest (value * base + d) (count + 1)
    | none => (value, count, o :: rest)

/-- A sign at the front is taken off. -/
def takeSign : List Octet → Bool × List Octet
  | [] => (false, [])
  | o :: rest => if o = 45 then (true, rest) else if o = 43 then (false, rest) else (false, o :: rest)

/-- `strtoul` with 64-bit `unsigned long`: the number and what `endptr` points to. -/
def strtoul (base : Nat) (s : List Octet) : Nat × List Octet :=
  let (negative, digits) := takeSign (s.dropWhile isSpace)
  let prefixed := base = 16 ∧ digits.head? = some 48 ∧ (digits[1]? = some 120 ∨ digits[1]? = some 88) ∧
    ((digits[2]?).bind (digitValue 16)).isSome
  let (value, count, rest) := takeDigits base (if prefixed then digits.drop 2 else digits) 0 0
  if count = 0 then (0, s)
  else if 2 ^ 64 ≤ value then (2 ^ 64 - 1, rest)
  else (if negative then (2 ^ 64 - value) % 2 ^ 64 else value, rest)

theorem digitValue_bounds {o : Octet} (h : (digitValue 10 o).isSome) : 48 ≤ o.toNat ∧ o.toNat ≤ 57 := by
  unfold digitValue at h
  dsimp only at h
  simp only [UInt8.le_iff_toNat_le] at h
  split at h
  · assumption
  · split at h
    · simp at *
      omega
    · split at h
      · simp at *
        omega
      · simp at h

theorem isSpace_of_lt {o : Octet} (h : 32 < o.toNat) : isSpace o = false ∧ o ≠ 0 := by
  refine ⟨decide_eq_false ?_, ?_⟩
  · simp only [UInt8.le_iff_toNat_le, UInt8.reduceToNat, ← UInt8.toNat_inj]
    omega
  · simp only [← UInt8.toNat_inj, UInt8.reduceToNat, ne_eq]
    omega

/-! ### Reading stops at a zero -/

theorem dropWhile_zero {p : Octet → Bool} (hp : p 0 = false) (s rest : List Octet) :
    (s ++ 0 :: rest).dropWhile p = s.dropWhile p ++ 0 :: rest := by
  induction s with
  | nil => simp [hp]
  | cons o s ih =>
    by_cases ho : p o = true
    · simp [ho, ih]
    · simp [ho]

theorem cString_zero (s rest : List Octet) : cString (s ++ 0 :: rest) = cString s := by
  induction s with
  | nil => simp [cString]
  | cons o s ih =>
    simp only [cString, List.cons_append, List.takeWhile_cons] at ih ⊢
    split
    · rw [ih]
    · rfl

theorem head?_zero {c : Octet} (hc : c ≠ 0) (s rest : List Octet) :
    (s ++ 0 :: rest).head? = some c ↔ s.head? = some c := by
  cases s with
  | nil => simp [Ne.symm hc]
  | cons o s => simp

theorem isPrefixOf_zero {text : List Octet} (htext : 0 ∉ text) (s rest : List Octet) :
    text.isPrefixOf (s ++ 0 :: rest) = text.isPrefixOf s := by
  induction text generalizing s with
  | nil => simp
  | cons c text ih =>
    obtain ⟨hc, htext⟩ : 0 ≠ c ∧ 0 ∉ text := by simpa using htext
    cases s with
    | nil => simp [List.isPrefixOf, Ne.symm hc]
    | cons o s => simp [List.isPrefixOf, ih htext]

theorem takeSign_zero (s rest : List Octet) :
    takeSign (s ++ 0 :: rest) = ((takeSign s).1, (takeSign s).2 ++ 0 :: rest) := by
  cases s with
  | nil => rfl
  | cons o s =>
    simp only [takeSign, List.cons_append]
    split
    · rfl
    · split <;> rfl

theorem digitValue_zero : digitValue base 0 = none := by
  simp [digitValue]

theorem takeDigits_zero (s rest : List Octet) (value count : Nat) :
    takeDigits base (s ++ 0 :: rest) value count =
      ((takeDigits base s value count).1, (takeDigits base s value count).2.1,
        (takeDigits base s value count).2.2 ++ 0 :: rest) := by
  induction s generalizing value count with
  | nil => simp [takeDigits, digitValue_zero]
  | cons o s ih =>
    simp only [takeDigits, List.cons_append]
    cases digitValue base o with
    | none => rfl
    | some d => exact ih _ _

/-- A hexadecimal prefix is a zero, an x and a digit. -/
def hexPrefixed (s : List Octet) : Prop :=
  s.head? = some 48 ∧ (s[1]? = some 120 ∨ s[1]? = some 88) ∧ ((s[2]?).bind (digitValue 16)).isSome

instance (s : List Octet) : Decidable (hexPrefixed s) :=
  inferInstanceAs (Decidable (_ ∧ (_ ∨ _) ∧ _))

theorem hexPrefixed_zero (s rest : List Octet) : hexPrefixed (s ++ 0 :: rest) ↔ hexPrefixed s := by
  match s with
  | [] => simp [hexPrefixed]
  | [_] => simp [hexPrefixed]
  | [_, _] => simp [hexPrefixed, digitValue_zero]
  | _ :: _ :: _ :: _ => simp [hexPrefixed]

/-- The digits behind sign and prefix. -/
def afterPrefix (base : Nat) (digits : List Octet) : List Octet :=
  if base = 16 ∧ hexPrefixed digits then digits.drop 2 else digits

theorem afterPrefix_zero (s rest : List Octet) :
    afterPrefix base (s ++ 0 :: rest) = afterPrefix base s ++ 0 :: rest := by
  unfold afterPrefix
  by_cases hp : base = 16 ∧ hexPrefixed s
  · rw [if_pos ⟨hp.1, (hexPrefixed_zero s rest).mpr hp.2⟩, if_pos hp]
    obtain ⟨-, -, -, hthird⟩ := hp
    match s with
    | [] => simp at hthird
    | [_] => simp at hthird
    | _ :: _ :: _ => rfl
  · rw [if_neg fun h => hp ⟨h.1, (hexPrefixed_zero s rest).mp h.2⟩, if_neg hp]

/-- What `strtoul` makes of the digits. -/
def strtoulValue (s : List Octet) (negative : Bool) (t : Nat × Nat × List Octet) : Nat × List Octet :=
  if t.2.1 = 0 then (0, s)
  else if 2 ^ 64 ≤ t.1 then (2 ^ 64 - 1, t.2.2)
  else (if negative then (2 ^ 64 - t.1) % 2 ^ 64 else t.1, t.2.2)

theorem strtoul_eq (s : List Octet) :
    strtoul base s = strtoulValue s (takeSign (s.dropWhile isSpace)).1
      (takeDigits base (afterPrefix base (takeSign (s.dropWhile isSpace)).2) 0 0) := rfl

/-- `strtoul` reads no further than the end of the string. -/
theorem strtoul_zero (s rest : List Octet) :
    strtoul base (s ++ 0 :: rest) = ((strtoul base s).1, (strtoul base s).2 ++ 0 :: rest) := by
  rw [strtoul_eq, strtoul_eq, dropWhile_zero (by decide), takeSign_zero, afterPrefix_zero, takeDigits_zero]
  unfold strtoulValue
  dsimp only
  split
  · rfl
  · split <;> rfl

/-! ## Error numbers -/

def eio : Nat := 5
def enomem : Nat := 12
def einval : Nat := 22
def efbig : Nat := 27
