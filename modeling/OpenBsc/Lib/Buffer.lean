import OpenBsc.Lib.Octets

/-!
# `Lib.Buffer` — what is read of a message, and written to fields of fixed size

A `Prog` computes on the octets from the start of a message on, and records which of them it reads and how much it
writes to its own fields. Nothing stops it at the end of the message: what lies behind is read like the rest. It is
`Safe` on a memory if it reads only octets of the message, and writes to no field more than it holds. The rules take a
program apart step by step, so that what is left is arithmetic of offsets. Nothing here knows what the messages are.
-/

namespace Buffer

open List

/-! ## Programs -/

/-- The octet `i` of the message is read, or `n` octets are written to a field of `size` octets, or read from one. -/
inductive Access where
  | read (i : Nat)
  | write (size n : Nat)
  | readField (size n : Nat)

/-- It stays inside the message, and inside the field. -/
def Access.Within (len : Nat) : Access → Prop
  | .read i => i < len
  | .write size n => n ≤ size
  | .readField size n => n ≤ size

instance (len : Nat) : (a : Access) → Decidable (a.Within len)
  | .read i => inferInstanceAs (Decidable (i < len))
  | .write size n => inferInstanceAs (Decidable (n ≤ size))
  | .readField size n => inferInstanceAs (Decidable (n ≤ size))

/-- A computation on a memory: what it accesses, and its result. -/
def Prog (α : Type) : Type := (Nat → Octet) → List Access × α

namespace Prog

variable {α β : Type}

/-- The accesses of a program. -/
def trace (p : Prog α) (mem : Nat → Octet) : List Access := (p mem).1

/-- The result of a program. -/
def value (p : Prog α) (mem : Nat → Octet) : α := (p mem).2

instance : Monad Prog where
  pure a := fun _ => ([], a)
  bind p f := fun mem => ((p mem).1 ++ (f (p mem).2 mem).1, (f (p mem).2 mem).2)

/-- **Only octets of the message are read, and no field is written over its end.** -/
def Safe (len : Nat) (p : Prog α) (mem : Nat → Octet) : Prop := ∀ a ∈ p.trace mem, a.Within len

instance (len : Nat) (p : Prog α) (mem : Nat → Octet) : Decidable (p.Safe len mem) :=
  inferInstanceAs (Decidable (∀ a ∈ p.trace mem, a.Within len))

end Prog

/-- The octet `i` is read. -/
def octet (i : Nat) : Prog Octet := fun mem => ([.read i], mem i)

/-- `n` octets are read, from the octet `i` on. -/
def octets (i n : Nat) : Prog (List Octet) := fun mem =>
  ((List.range n).map fun k => .read (i + k), (List.range n).map fun k => mem (i + k))

/-- `n` octets are written to a field of `size` octets. -/
def write (size n : Nat) : Prog Unit := fun _ => ([.write size n], ())

/-- `n` octets are read from a field of `size` octets. -/
def readField (size n : Nat) : Prog Unit := fun _ => ([.readField size n], ())

/-! ## Memory -/

/-- A message, and what lies behind it. -/
def memory (msg : List Octet) (behind : Nat → Octet) (i : Nat) : Octet := (msg[i]?).getD (behind i)

theorem memory_of_lt {msg : List Octet} {i : Nat} (hi : i < msg.length) (behind : Nat → Octet) :
    (memory msg behind i).toNat = octetAt msg i := by
  unfold memory octetAt
  rw [getD_eq_getElem?_getD, getElem?_eq_getElem hi]
  rfl

/-- What is read of a message with zeros behind it. -/
theorem memory_zero (msg : List Octet) (i k : Nat) : memory msg (fun _ => 0) (i + k) = (msg.drop i).getD k 0 := by
  unfold memory
  rw [getD_eq_getElem?_getD, getElem?_drop]

theorem memory_behind (msg : List Octet) (behind behind' : Nat → Octet) :
    ∀ i < msg.length, memory msg behind i = memory msg behind' i := by
  intro i hi
  unfold memory
  rw [getElem?_eq_getElem hi]
  rfl

/-! ## Rules -/

namespace Prog

variable {α β : Type} {len : Nat} {mem : Nat → Octet}

@[simp] theorem value_pure (a : α) : (pure a : Prog α).value mem = a := rfl

@[simp] theorem value_bind (p : Prog α) (f : α → Prog β) : (p >>= f).value mem = (f (p.value mem)).value mem := rfl

variable (size i : Nat) (f : Octet → Prog β) (n : Nat)

@[simp] theorem value_octet : (octet i).value mem = mem i := rfl

@[simp] theorem value_octets : (octets i n).value mem = (range n).map fun k => mem (i + k) := rfl

theorem value_octets_take {msg : List Octet} {behind : Nat → Octet} {i n : Nat} (h : n ≤ msg.length - i) :
    (octets i n).value (memory msg behind) = (msg.drop i).take n := by
  rw [Prog.value_octets]
  refine ext_getElem (by simp; omega) fun k hk hk' => ?_
  have hlt : i + k < msg.length := by
    rw [length_map, length_range] at hk
    omega
  rw [getElem_map, getElem_range, getElem_take, getElem_drop]
  unfold memory
  rw [getElem?_eq_getElem hlt, Option.getD_some]

@[simp] theorem safe_pure (a : α) : (pure a : Prog α).Safe len mem ↔ True :=
  iff_true_intro fun _ h => absurd h not_mem_nil

@[simp] theorem safe_bind (p : Prog α) (f : α → Prog β) :
    (p >>= f).Safe len mem ↔ p.Safe len mem ∧ (f (p.value mem)).Safe len mem :=
  forall_mem_append

@[simp] theorem safe_octet : (octet i).Safe len mem ↔ i < len :=
  forall_mem_singleton

@[simp] theorem safe_octets : (octets i n).Safe len mem ↔ n = 0 ∨ i + n ≤ len := by
  have hall : (octets i n).Safe len mem ↔ ∀ k < n, i + k < len := by
    constructor
    · intro h k hk
      exact h (.read (i + k)) (mem_map.mpr ⟨k, mem_range.mpr hk, rfl⟩)
    · intro h a ha
      obtain ⟨k, hk, rfl⟩ := mem_map.mp ha
      exact h k (mem_range.mp hk)
  rw [hall]
  constructor
  · intro h
    rcases Nat.eq_zero_or_pos n with hn | hn
    · exact .inl hn
    · have hlast := h (n - 1) (by omega)
      exact .inr (by omega)
  · rintro (rfl | h) k hk
    · exact absurd hk (Nat.not_lt_zero k)
    · omega

theorem value_octet_bind : (octet i >>= f).value mem = (f (mem i)).value mem := rfl

theorem safe_octet_bind :
    (octet i >>= f).Safe len mem ↔ i < len ∧ (f (mem i)).Safe len mem := by
  rw [safe_bind, safe_octet, value_octet]

@[simp] theorem safe_write : (write size n).Safe len mem ↔ n ≤ size :=
  forall_mem_singleton

@[simp] theorem safe_readField : (readField size n).Safe len mem ↔ n ≤ size :=
  forall_mem_singleton

theorem value_ite (c : Prop) [Decidable c] (p q : Prog α) :
    (if c then p else q).value mem = if c then p.value mem else q.value mem := by
  split <;> rfl

theorem safe_ite (c : Prop) [Decidable c] (p q : Prog α) :
    (if c then p else q).Safe len mem ↔ (c → p.Safe len mem) ∧ (¬ c → q.Safe len mem) := by
  by_cases hc : c
  · simp [hc]
  · simp [hc]

theorem safe_foldlM {f : β → α → Prog β} {l : List α} (h : ∀ b, ∀ a ∈ l, (f b a).Safe len mem) (b : β) :
    (l.foldlM f b).Safe len mem := by
  induction l generalizing b with
  | nil => simp
  | cons a l ih =>
    rw [foldlM_cons, safe_bind]
    exact ⟨h b a mem_cons_self, ih (fun b a ha => h b a (mem_cons_of_mem _ ha)) _⟩

/-! ## What lies behind

An honest program records every octet that it depends on. If it is safe with some octets behind the message it is so
with any, and computes the same; so one can look at it with zeros behind the message. -/

/-- It does the same on memories that agree where it reads. -/
def Honest (p : Prog α) : Prop := ∀ mem mem', (∀ i, .read i ∈ p.trace mem → mem i = mem' i) → p mem = p mem'

@[simp] theorem honest_pure (a : α) : (pure a : Prog α).Honest := fun _ _ _ => rfl

variable {p : Prog α}

theorem Honest.bind {f : α → Prog β} (hp : p.Honest) (hf : ∀ a, (f a).Honest) : (p >>= f).Honest := by
  intro mem mem' hagree
  have htrace : (p >>= f).trace mem = p.trace mem ++ (f (p.value mem)).trace mem := rfl
  rw [htrace] at hagree
  have hfirst : p mem = p mem' := hp mem mem' fun i hi => hagree i (mem_append_left _ hi)
  have hrest : f (p.value mem) mem = f (p.value mem) mem' :=
    hf _ mem mem' fun i hi => hagree i (mem_append_right _ hi)
  have hvalue : p.value mem' = p.value mem := congrArg Prod.snd hfirst.symm
  calc (p >>= f) mem
      = ((p mem).1 ++ (f (p.value mem) mem).1, (f (p.value mem) mem).2) := rfl
    _ = ((p mem').1 ++ (f (p.value mem') mem').1, (f (p.value mem') mem').2) := by rw [hfirst, hrest, hvalue]
    _ = (p >>= f) mem' := rfl

@[simp] theorem honest_octet : (octet i).Honest := by
  intro mem mem' hagree
  have hi : mem i = mem' i := hagree i (mem_singleton.mpr rfl)
  unfold octet
  rw [hi]

@[simp] theorem honest_octets : (octets i n).Honest := by
  intro mem mem' hagree
  have hread : ∀ k ∈ range n, mem (i + k) = mem' (i + k) := fun k hk =>
    hagree (i + k) (mem_map.mpr ⟨k, hk, rfl⟩)
  unfold octets
  rw [map_congr_left hread]

@[simp] theorem honest_write : (write size n).Honest := fun _ _ _ => rfl

theorem Honest.ite {c : Prop} [Decidable c] {q : Prog α} (hp : p.Honest) (hq : q.Honest) :
    (if c then p else q).Honest := by
  split
  · exact hp
  · exact hq

/-- On memories that agree on the message, a program that is safe on one does the same on the other. -/
theorem Honest.eq_of_safe (hp : p.Honest) {mem' : Nat → Octet} (hagree : ∀ i < len, mem i = mem' i)
    (hsafe : p.Safe len mem) : p mem = p mem' :=
  hp mem mem' fun i hi => hagree i (hsafe (.read i) hi)

/-- **A program is safe whatever lies behind the message if it is so with zeros there.** -/
theorem Honest.safe_behind (hp : p.Honest) (msg : List Octet) :
    (∀ behind, p.Safe msg.length (memory msg behind)) ↔ p.Safe msg.length (memory msg fun _ => 0) := by
  constructor
  · intro h
    exact h _
  · intro hsafe behind
    have heq := hp.eq_of_safe (memory_behind msg _ behind) hsafe
    unfold Safe trace at hsafe ⊢
    rwa [← heq]

/-- **And then it computes the same.** -/
theorem Honest.value_behind (hp : p.Honest) {msg : List Octet} (hsafe : p.Safe msg.length (memory msg fun _ => 0))
    (behind : Nat → Octet) : p.value (memory msg behind) = p.value (memory msg fun _ => 0) := by
  have heq := hp.eq_of_safe (memory_behind msg _ behind) hsafe
  unfold value
  rw [heq]

end Prog

end Buffer
