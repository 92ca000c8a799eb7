import OpenBsc.Lib.SemiOctets

/-!
# `OsmoBscNat.NumberRules` — the rules that numbers are rewritten by (`bsc_nat_utils.c`)

A rule is for the subscribers whose IMSI matches, and for the numbers that do. It names a text that takes the place of
what stands before the first sub-match of the number. The first rule that applies is taken; the numbers that are dialled
in a call and those of the service centres of short messages have lists of their own, but go through the same loop.

Regular expressions are those of the C library.
-/

namespace OpenBsc.OsmoBscNat

open SemiOctets

/-! ## Rules -/

/-- `struct bsc_nat_num_rewr_entry`, with its expressions as they were written. -/
structure NumRewrEntry where
  msisdnReg : List Octet
  numReg : List Octet
  replace : List Octet
  terminated : (0 : Octet) ∉ replace

/-- `regexec`: whether a string matches, and where the first sub-match begins if it does and has one. -/
structure RegexLib where
  regexec : (preg string : List Octet) → Bool
  subMatch : (preg string : List Octet) → Option Nat

variable (lib : RegexLib)

/-- A rule is applied to a number: what stands before the sub-match is replaced. -/
def NumRewrEntry.apply (entry : NumRewrEntry) (imsi number : List Octet) : Option (List Octet) :=
  if lib.regexec entry.msisdnReg imsi then
    (lib.subMatch entry.numReg number).map fun so => entry.replace ++ number.drop so
  else none

/-- The loop of `rewrite_non_international` and of `rewrite_smsc`. -/
def newNumber (rewr : List NumRewrEntry) (imsi number : List Octet) : Option (List Octet) :=
  rewr.findSome? fun entry => entry.apply lib imsi number

/-! ## What they give -/

/-- **The first rule for the subscriber and the number** gives its replacement and the rest of the number from the
    sub-match on. -/
def RuleGives (rewr : List NumRewrEntry) (imsi number new : List Octet) : Prop :=
  ∃ before entry after so, rewr = before ++ entry :: after ∧ lib.regexec entry.msisdnReg imsi = true ∧
    lib.subMatch entry.numReg number = some so ∧ new = entry.replace ++ number.drop so ∧
      ∀ e ∈ before, lib.regexec e.msisdnReg imsi = true → lib.subMatch e.numReg number = none

theorem apply_eq_some_iff (entry : NumRewrEntry) (imsi number new : List Octet) :
    entry.apply lib imsi number = some new ↔
      lib.regexec entry.msisdnReg imsi = true ∧
        ∃ so, lib.subMatch entry.numReg number = some so ∧ new = entry.replace ++ number.drop so := by
  unfold NumRewrEntry.apply
  by_cases himsi : lib.regexec entry.msisdnReg imsi = true
  · rw [if_pos himsi, Option.map_eq_some_iff]
    simp only [himsi, true_and, eq_comm (a := new)]
  · rw [if_neg himsi]
    exact iff_of_false nofun fun h => himsi h.1

theorem apply_eq_none_iff (entry : NumRewrEntry) (imsi number : List Octet) :
    entry.apply lib imsi number = none ↔
      (lib.regexec entry.msisdnReg imsi = true → lib.subMatch entry.numReg number = none) := by
  unfold NumRewrEntry.apply
  by_cases himsi : lib.regexec entry.msisdnReg imsi = true
  · rw [if_pos himsi, Option.map_eq_none_iff]
    simp only [himsi, forall_const]
  · rw [if_neg himsi]
    exact iff_of_true rfl fun h => absurd h himsi

variable {rewr : List NumRewrEntry} {imsi number : List Octet}

theorem newNumber_eq_some_iff {new : List Octet} :
    newNumber lib rewr imsi number = some new ↔ RuleGives lib rewr imsi number new := by
  unfold newNumber RuleGives
  rw [List.findSome?_eq_some_iff]
  constructor
  · rintro ⟨before, entry, after, hrewr, happly, hbefore⟩
    obtain ⟨himsi, so, hso, hnew⟩ := (apply_eq_some_iff lib entry imsi number new).mp happly
    exact ⟨before, entry, after, so, hrewr, himsi, hso, hnew, fun e he =>
      (apply_eq_none_iff lib e imsi number).mp (hbefore e he)⟩
  · rintro ⟨before, entry, after, so, hrewr, himsi, hso, hnew, hbefore⟩
    exact ⟨before, entry, after, hrewr, (apply_eq_some_iff lib entry imsi number new).mpr ⟨himsi, so, hso, hnew⟩,
      fun e he => (apply_eq_none_iff lib e imsi number).mpr (hbefore e he)⟩

theorem RuleGives.terminated {new : List Octet} (h : RuleGives lib rewr imsi number new)
    (hnumber : (0 : Octet) ∉ number) : (0 : Octet) ∉ new := by
  obtain ⟨before, entry, after, so, -, -, -, rfl, -⟩ := h
  rw [List.mem_append, not_or]
  exact ⟨entry.terminated, fun hmem => hnumber (List.mem_of_mem_drop hmem)⟩

end OpenBsc.OsmoBscNat
