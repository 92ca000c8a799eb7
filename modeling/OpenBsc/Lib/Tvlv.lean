import OpenBsc.Lib.Octets

/-!
# `Lib.Tvlv` — elements of a tag, a length and a value

The length of an element stands in one octet whose highest bit is set, or in two octets if seven bits are not enough for
it. What is written one element after the other is read back (`elements_encode`), as long as no value is too long for
two octets with the highest bit clear.
-/

namespace Tvlv

open List

/-- A tag and a value. -/
abbrev Element := Octet × List Octet

/-! ## Writing -/

/-- A length that fits in seven bits, and one that fits in fifteen. -/
def lengthOctets (n : Nat) : List Octet :=
  if n ≤ 127 then [UInt8.ofNat (128 + n)] else [UInt8.ofNat (n / 256), UInt8.ofNat (n % 256)]

/-- One element. -/
def tvlv (tag : Octet) (val : List Octet) : List Octet := tag :: (lengthOctets val.length ++ val)

/-- One element after the other. -/
def encode (elems : List Element) : List Octet := elems.flatMap fun e => tvlv e.1 e.2

variable (e : Element) (tag : Octet) (val : List Octet) (elems : List Element)

theorem encode_cons : encode (e :: elems) = tvlv e.1 e.2 ++ encode elems := rfl

theorem encode_append (elems elems' : List Element) : encode (elems ++ elems') = encode elems ++ encode elems' :=
  flatMap_append

/-! ## Reading -/

/-- The length at the front. -/
def takeLength : List Octet → Option (Nat × List Octet)
  | [] => none
  | n :: rest =>
    if 128 ≤ n.toNat then some (n.toNat - 128, rest)
    else rest.head?.map fun low => (n.toNat * 256 + low.toNat, rest.tail)

/-- The element at the front. -/
def takeTvlv : List Octet → Option (Element × List Octet)
  | [] => none
  | tag :: rest =>
    (takeLength rest).bind fun (n, rest) =>
      if n ≤ rest.length then some ((tag, rest.take n), rest.drop n) else none

/-- So many elements at most, up to the end. -/
def takeElements : Nat → List Octet → Option (List Element)
  | _, [] => some []
  | 0, _ :: _ => none
  | n + 1, buf => (takeTvlv buf).bind fun (e, rest) => (takeElements n rest).map fun elems => e :: elems

/-- The elements of a message. -/
def elements (buf : List Octet) : Option (List Element) := takeElements buf.length buf

/-- The value of the first element with the tag. -/
def find (tag : Octet) (elems : List Element) : Option (List Octet) :=
  (elems.find? fun e => e.1 = tag).map Prod.snd

theorem find_cons_self :
    find tag ((tag, val) :: elems) = some val := by
  unfold find
  simp only [find?_cons, decide_true, Option.map_some]

theorem find_cons_of_ne {tag other : Octet} (h : other ≠ tag) (val : List Octet) (elems : List Element) :
    find tag ((other, val) :: elems) = find tag elems := by
  unfold find
  simp only [find?_cons, decide_eq_false h]

/-- An element that is left out where it has no value. -/
def optional (tag : Octet) (val : List Octet) : List Element := if val = [] then [] else [(tag, val)]

theorem find_optional_of_ne {tag other : Octet} (h : other ≠ tag) (val : List Octet) (elems : List Element) :
    find tag (optional other val ++ elems) = find tag elems := by
  unfold optional
  by_cases hval : val = []
  · rw [if_pos hval, nil_append]
  · rw [if_neg hval]
    exact find_cons_of_ne h val elems

theorem find_optional_self :
    find tag (optional tag val ++ elems) = if val = [] then find tag elems else some val := by
  unfold optional
  by_cases hval : val = []
  · rw [if_pos hval, if_pos hval, nil_append]
  · rw [if_neg hval, if_neg hval]
    exact find_cons_self tag val elems

/-! ## Round trip -/

theorem takeLength_lengthOctets {n : Nat} (h : n < 2 ^ 15) (rest : List Octet) :
    takeLength (lengthOctets n ++ rest) = some (n, rest) := by
  unfold lengthOctets
  by_cases hn : n ≤ 127
  · have hval : (UInt8.ofNat (128 + n)).toNat = 128 + n := toNat_octetOf (by omega)
    rw [if_pos hn, cons_append, nil_append, takeLength, hval, if_pos (by omega)]
    rw [Nat.add_sub_cancel_left]
  · have hhigh : (UInt8.ofNat (n / 256)).toNat = n / 256 := toNat_octetOf (by omega)
    have hlow : (UInt8.ofNat (n % 256)).toNat = n % 256 := toNat_octetOf (by omega)
    have hsum : n / 256 * 256 + n % 256 = n := Nat.div_add_mod' n 256
    rw [if_neg hn, cons_append, takeLength, hhigh, if_neg (by omega)]
    show some (n / 256 * 256 + (UInt8.ofNat (n % 256)).toNat, rest) = some (n, rest)
    rw [hlow, hsum]

/-- An element is read back, whatever follows it. -/
theorem takeTvlv_tvlv {val : List Octet} (h : val.length < 2 ^ 15) (rest : List Octet) :
    takeTvlv (tvlv tag val ++ rest) = some ((tag, val), rest) := by
  unfold tvlv
  rw [cons_append, takeTvlv, append_assoc, takeLength_lengthOctets h, Option.bind_some]
  have hle : val.length ≤ (val ++ rest).length := by
    rw [length_append]
    exact Nat.le_add_right _ _
  show (if val.length ≤ (val ++ rest).length then _ else _) = _
  rw [if_pos hle, take_left, drop_left]

theorem length_le_encode : elems.length ≤ (encode elems).length := by
  induction elems with
  | nil => exact Nat.zero_le _
  | cons e elems ih =>
    rw [encode_cons, length_append]
    unfold tvlv
    simp only [length_cons]
    omega

theorem takeElements_encode {elems : List Element} (h : ∀ e ∈ elems, e.2.length < 2 ^ 15) {n : Nat}
    (hn : elems.length ≤ n) : takeElements n (encode elems) = some elems := by
  induction elems generalizing n with
  | nil =>
    cases n with
    | zero => rfl
    | succ n => rfl
  | cons e elems ih =>
    obtain ⟨m, rfl⟩ : ∃ m, n = m + 1 := Nat.exists_eq_add_one_of_ne_zero fun hzero => by simp [hzero] at hn
    have hrest := ih (fun f hf => h f (mem_cons_of_mem _ hf)) (n := m) (Nat.le_of_succ_le_succ hn)
    have hfront := takeTvlv_tvlv e.1 (h e mem_cons_self) (encode elems)
    rw [encode_cons]
    show (takeTvlv (tvlv e.1 e.2 ++ encode elems)).bind _ = _
    rw [hfront, Option.bind_some]
    show (takeElements m (encode elems)).map _ = _
    rw [hrest]
    rfl

/-- **The elements are read back.** -/
theorem elements_encode {elems : List Element} (h : ∀ e ∈ elems, e.2.length < 2 ^ 15) :
    elements (encode elems) = some elems :=
  takeElements_encode h (length_le_encode elems)

end Tvlv
