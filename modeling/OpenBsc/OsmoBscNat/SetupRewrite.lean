import OpenBsc.OsmoBscNat.NumberRules

/-!
# `OsmoBscNat.SetupRewrite` — the number that is dialled in a SETUP is rewritten (`bsc_nat_utils.c`)

`rewrite_setup` takes the called number out of a SETUP, lets the rules replace it, and writes a message with the new
number in the place of the old one. A new number that begins with 00 is written without them and as an international
one.

The number is kept in a field of 33 octets on the way in and on the way out. What libosmocore does with the elements of
the message is in a `SetupLib`.
-/

namespace OpenBsc.OsmoBscNat

open SemiOctets List

/-! ## Data -/

/-- `struct gsm_mncc_number`, as far as a called number has it; the number as a string. -/
structure GsmMnccNumber where
  type : Nat
  plan : Nat
  number : List Octet

/-- The size of the number in it. -/
def numberSize : Nat := 33

/-- The digits and what goes before them: the octet with the type and the plan. -/
def calledOf : List Octet → GsmMnccNumber
  | [] => ⟨0, 0, []⟩
  | o :: digits => ⟨o.toNat / 16 % 8, o.toNat % 16, readNumber digits⟩

/-- libosmocore. `tlv_parse` with `gsm48_att_tlvdef`, as the offset and the length of the called number if there is one;
    it is inside the message, behind its tag and its length. `gsm48_decode_called`, for the value of the element: a
    string ends two digits before the end of the field at the latest. `gsm48_encode_called`, as the value of the element
    that is put: none if there are other characters than digits in the number. -/
structure SetupLib extends RegexLib where
  tlvParse : List Octet → Option (Nat × Nat)
  decodeCalled : List Octet → GsmMnccNumber
  encodeCalled : GsmMnccNumber → Option (List Octet)
  called_inside : ∀ {data val len}, tlvParse data = some (val, len) → 2 ≤ val ∧ val + len ≤ data.length ∧ len < 256
  called_tagged : ∀ {data val len}, tlvParse data = some (val, len) →
    data[val - 2]? = some 0x5e ∧ data[val - 1]? = some (UInt8.ofNat len)
  decode_eq : ∀ value, decodeCalled value =
    { calledOf value with number := (calledOf value).number.take (numberSize - 2) }
  encode_number : ∀ called, called.type < 8 → called.plan < 16 → IsNumber called.number →
    called.number.length < numberSize →
      encodeCalled called =
        some (UInt8.ofNat (0x80 + 16 * called.type + called.plan) :: semiOctets (digitsOf called.number))
  encode_short : ∀ {called value}, encodeCalled called = some value → IsNumber called.number ∧ value.length < 256

/-! ## The source -/

variable (lib : SetupLib) (rewr : List NumRewrEntry) (imsi : List Octet)

/-- `rewrite_non_international`. -/
def rewriteNonInternational (called : GsmMnccNumber) : Option (List Octet) :=
  if called.plan ≠ 1 then none
  else if called.type = 1 then none
  else newNumber lib.toRegexLib rewr imsi called.number

/-- `strncpy` into the number, and what a string that begins there is then: with no zero in the field it goes on behind
    it. -/
def strncpyNumber (behind number : List Octet) : List Octet :=
  if number.length < numberSize then number else cString (number.take numberSize ++ behind)

/-- The called number that is written for a new number. -/
def newCalled (behind : List Octet) (called : GsmMnccNumber) (new : List Octet) : GsmMnccNumber :=
  if new.take 2 = octets "00" then { called with type := 1, number := strncpyNumber behind (new.drop 2) }
  else { called with number := strncpyNumber behind new }

/-- `gsm48_encode_called` puts the element, or nothing. -/
def putCalled (called : GsmMnccNumber) : List Octet :=
  match lib.encodeCalled called with
  | some value => 0x5e :: UInt8.ofNat value.length :: value
  | none => []

/-- `rewrite_setup`, for a message with its header of two octets; none if there is no new message. What lies behind the
    number on the stack is `behind`. -/
def rewriteSetup (behind msg : List Octet) : Option (List Octet) :=
  match lib.tlvParse (msg.drop 2) with
  | none => none
  | some (val, len) =>
    let called := lib.decodeCalled (((msg.drop 2).drop val).take len)
    match rewriteNonInternational lib rewr imsi called with
    | none => none
    | some new =>
      if numberSize < new.length then none
      else
        -- everything up to the number, the number, and the rest
        some (msg.take 2 ++ (msg.drop 2).take (val - 2) ++ putCalled lib (newCalled behind called new) ++
          (msg.drop 2).drop (val + len))

/-! ## What is to be -/

/-- The number that a rule prescribes for a called number: one that begins with 00 is international. -/
def prescribed (called : GsmMnccNumber) (new : List Octet) : GsmMnccNumber :=
  if new.take 2 = octets "00" then ⟨1, called.plan, new.drop 2⟩ else ⟨called.type, called.plan, new⟩

/-- The element of a called number. -/
def calledElement (value : List Octet) : List Octet := 0x5e :: UInt8.ofNat value.length :: value

/-- The called number of a message, and what is before and behind it. -/
def CalledAt (msg before value after : List Octet) : Prop :=
  lib.tlvParse (msg.drop 2) = some (before.length, value.length) ∧ msg = before ++ calledElement value ++ after

/-- **A new message** is the old one but for the called number, which decodes to what the rule prescribes that gives a
    new number for the old one. -/
def SetupRewritten (msg out : List Octet) : Prop :=
  ∃ before old after value new, CalledAt lib msg before old after ∧ value.length < 256 ∧
    out = before ++ calledElement value ++ after ∧
      RuleGives lib.toRegexLib rewr imsi (calledOf old).number new ∧ calledOf value = prescribed (calledOf old) new

/-- What is to become of a SETUP; without a rule for its number there is no new message. -/
def FaithfulSetup (msg : List Octet) (out : Option (List Octet)) : Prop :=
  (∀ m ∈ out, SetupRewritten lib rewr imsi msg m) ∧
    ((∀ before old after new, CalledAt lib msg before old after →
      ¬ RuleGives lib.toRegexLib rewr imsi (calledOf old).number new) → out = none)

/-- The number of a SETUP is one that the fields have room for: if the rules give a new number for what there is room
    for of the old one, they give it for the old one; and it is of digits, no more than the field holds with its end. -/
def SetupFits (msg : List Octet) : Prop :=
  ∀ before old after, CalledAt lib msg before old after → (calledOf old).plan = 1 → (calledOf old).type ≠ 1 →
    ∀ new, newNumber lib.toRegexLib rewr imsi ((calledOf old).number.take (numberSize - 2)) = some new →
      new.length ≤ numberSize → newNumber lib.toRegexLib rewr imsi (calledOf old).number = some new ∧
        IsNumber (prescribed (calledOf old) new).number ∧ (prescribed (calledOf old) new).number.length < numberSize

/-! ## What is -/

section Elements

variable {lib rewr imsi} {msg before old after : List Octet}

theorem calledAt_of_tlvParse {val len : Nat} (h : lib.tlvParse (msg.drop 2) = some (val, len)) :
    CalledAt lib msg (msg.take 2 ++ (msg.drop 2).take (val - 2)) (((msg.drop 2).drop val).take len)
      ((msg.drop 2).drop (val + len)) := by
  obtain ⟨hval, hend, -⟩ := lib.called_inside h
  obtain ⟨htag, hlen⟩ := lib.called_tagged h
  have hmsg : 2 + (msg.drop 2).length = msg.length := by
    rw [length_drop] at hend ⊢
    omega
  generalize hdata : msg.drop 2 = data at *
  have hvalue : ((data.drop val).take len).length = len := by
    rw [length_take, length_drop]
    omega
  have hbefore : (msg.take 2 ++ data.take (val - 2)).length = val := by
    rw [length_append, length_take, length_take]
    omega
  have hfront : data.drop (val - 2) = 0x5e :: UInt8.ofNat len :: data.drop val := by
    obtain ⟨htagLt, htag⟩ := List.getElem?_eq_some_iff.mp htag
    obtain ⟨hlenLt, hlen⟩ := List.getElem?_eq_some_iff.mp hlen
    rw [drop_eq_getElem_cons htagLt, htag]
    have hnext : val - 2 + 1 = val - 1 := by omega
    rw [hnext, drop_eq_getElem_cons hlenLt, hlen]
    have hlast : val - 1 + 1 = val := by omega
    rw [hlast]
  have hrest : data.drop val = (data.drop val).take len ++ data.drop (val + len) := by
    rw [← drop_drop, take_append_drop]
  refine ⟨by rw [hbefore, hvalue, hdata]; exact h, ?_⟩
  calc msg
      = msg.take 2 ++ data := by rw [← hdata, take_append_drop]
    _ = msg.take 2 ++ (data.take (val - 2) ++ data.drop (val - 2)) := by rw [take_append_drop]
    _ = msg.take 2 ++ (data.take (val - 2) ++
          (0x5e :: UInt8.ofNat len :: ((data.drop val).take len ++ data.drop (val + len)))) := by rw [hfront, ← hrest]
    _ = msg.take 2 ++ data.take (val - 2) ++ calledElement ((data.drop val).take len) ++ data.drop (val + len) := by
        unfold calledElement
        rw [hvalue]
        simp only [append_assoc, cons_append]

/-- There is no other. -/
theorem CalledAt.unique {before' old' after' : List Octet} (h : CalledAt lib msg before old after)
    (h' : CalledAt lib msg before' old' after') : before = before' ∧ old = old' ∧ after = after' := by
  obtain ⟨hparse, hmsg⟩ := h
  obtain ⟨hparse', hmsg'⟩ := h'
  have hlengths := Option.some.inj (hparse.symm.trans hparse')
  have hbefore : before.length = before'.length := congrArg Prod.fst hlengths
  have hold : old.length = old'.length := congrArg Prod.snd hlengths
  have heq : before ++ (calledElement old ++ after) = before' ++ (calledElement old' ++ after') := by
    rw [← append_assoc, ← append_assoc, ← hmsg, ← hmsg']
  obtain ⟨hbeforeEq, hrest⟩ := append_inj heq hbefore
  obtain ⟨helement, hafter⟩ := append_inj hrest (by simp [calledElement, hold])
  exact ⟨hbeforeEq, (cons.inj (cons.inj helement).2).2, hafter⟩

/-- Without an element there is no new message. -/
theorem rewriteSetup_of_none (h : ∀ before old after, ¬ CalledAt lib msg before old after) (behind : List Octet) :
    rewriteSetup lib rewr imsi behind msg = none := by
  unfold rewriteSetup
  cases hparse : lib.tlvParse (msg.drop 2) with
  | none => rfl
  | some found => exact absurd (calledAt_of_tlvParse hparse) (h _ _ _)

/-- With one, it is taken out and another is put in its place. -/
theorem rewriteSetup_of_calledAt (h : CalledAt lib msg before old after) (behind : List Octet) :
    rewriteSetup lib rewr imsi behind msg =
      (rewriteNonInternational lib rewr imsi (lib.decodeCalled old)).bind fun new =>
        if numberSize < new.length then none
        else some (before ++ putCalled lib (newCalled behind (lib.decodeCalled old) new) ++ after) := by
  obtain ⟨hbefore, hold, hafter⟩ := h.unique (calledAt_of_tlvParse h.1)
  unfold rewriteSetup
  rw [h.1]
  dsimp only
  rw [← hold, ← hbefore, ← hafter]
  cases rewriteNonInternational lib rewr imsi (lib.decodeCalled old) with
  | none => rfl
  | some new => rfl

end Elements

/-! ### Numbers -/

theorem calledOf_bounds (value : List Octet) : (calledOf value).type < 8 ∧ (calledOf value).plan < 16 := by
  cases value with
  | nil => exact ⟨by decide, by decide⟩
  | cons o digits => exact ⟨Nat.mod_lt _ (by decide), Nat.mod_lt _ (by decide)⟩

theorem prescribed_bounds (value new : List Octet) :
    (prescribed (calledOf value) new).type < 8 ∧ (prescribed (calledOf value) new).plan < 16 := by
  obtain ⟨htype, hplan⟩ := calledOf_bounds value
  unfold prescribed
  split
  · exact ⟨(by decide : 1 < 8), hplan⟩
  · exact ⟨htype, hplan⟩

variable {called : GsmMnccNumber}

theorem calledOf_encoded (htype : called.type < 8) (hplan : called.plan < 16) (hnumber : IsNumber called.number) :
    calledOf (UInt8.ofNat (0x80 + 16 * called.type + called.plan) :: semiOctets (digitsOf called.number)) = called := by
  have hfirst : (UInt8.ofNat (0x80 + 16 * called.type + called.plan)).toNat = 0x80 + 16 * called.type + called.plan :=
    toNat_octetOf (by omega)
  have htypeEq : (0x80 + 16 * called.type + called.plan) / 16 % 8 = called.type := by omega
  have hplanEq : (0x80 + 16 * called.type + called.plan) % 16 = called.plan := by omega
  unfold calledOf
  dsimp only
  rw [hfirst, htypeEq, hplanEq, readNumber_semiOctets hnumber]

variable {new : List Octet}

/-- Of a number that is not international, what is prescribed tells the new number. -/
theorem prescribed_inj (htype : called.type ≠ 1) {new' : List Octet}
    (h : prescribed called new = prescribed called new') : new = new' := by
  unfold prescribed at h
  by_cases hnew : new.take 2 = octets "00"
  · by_cases hnew' : new'.take 2 = octets "00"
    · rw [if_pos hnew, if_pos hnew'] at h
      have hdrop : new.drop 2 = new'.drop 2 := congrArg GsmMnccNumber.number h
      rw [← take_append_drop 2 new, ← take_append_drop 2 new', hnew, hnew', hdrop]
    · rw [if_pos hnew, if_neg hnew'] at h
      exact absurd (congrArg GsmMnccNumber.type h).symm htype
  · by_cases hnew' : new'.take 2 = octets "00"
    · rw [if_neg hnew, if_pos hnew'] at h
      exact absurd (congrArg GsmMnccNumber.type h) htype
    · rw [if_neg hnew, if_neg hnew'] at h
      exact congrArg GsmMnccNumber.number h

/-- What is written is what is prescribed, if the field has room for it. -/
theorem newCalled_decoded (behind value new : List Octet) :
    newCalled behind (lib.decodeCalled value) new =
      { prescribed (calledOf value) new with
        number := strncpyNumber behind (prescribed (calledOf value) new).number } := by
  rw [lib.decode_eq]
  unfold newCalled prescribed
  split
  · rfl
  · rfl

theorem prescribed_terminated (h : (0 : Octet) ∉ new) : (0 : Octet) ∉ (prescribed called new).number := by
  unfold prescribed
  split
  · exact fun hmem => h (mem_of_mem_drop hmem)
  · exact h

/-- A number that fills the field goes on with what lies behind it. -/
theorem strncpyNumber_long {number : List Octet} (hzero : (0 : Octet) ∉ number) (hlong : numberSize ≤ number.length) :
    (120 : Octet) ∈ strncpyNumber [120] number := by
  unfold strncpyNumber
  rw [if_neg (Nat.not_lt.mpr hlong)]
  have hself : cString (number.take numberSize ++ [120]) = number.take numberSize ++ [120] := by
    refine takeWhile_eq_self_iff.mpr fun c hc => decide_eq_true fun hczero => ?_
    rcases mem_append.mp hc with hc | hc
    · exact hzero (hczero ▸ mem_of_mem_take hc)
    · rw [hczero] at hc
      exact absurd hc (by decide)
  rw [hself]
  exact mem_append_right _ (mem_singleton.mpr rfl)

/-! ### Messages -/

section Messages

variable {lib rewr imsi} {msg before old after : List Octet}

/-- A number that fits is written as it is prescribed. -/
theorem putCalled_of_fits (behind : List Octet) {value : List Octet}
    (hnumber : IsNumber (prescribed (calledOf value) new).number)
    (hshort : (prescribed (calledOf value) new).number.length < numberSize) :
    ∃ encoded, encoded.length < 256 ∧ calledOf encoded = prescribed (calledOf value) new ∧
      putCalled lib (newCalled behind (lib.decodeCalled value) new) = calledElement encoded := by
  obtain ⟨htype, hplan⟩ := prescribed_bounds value new
  have hcopied : strncpyNumber behind (prescribed (calledOf value) new).number =
      (prescribed (calledOf value) new).number := if_pos hshort
  have hencode := lib.encode_number _ htype hplan hnumber hshort
  refine ⟨_, (lib.encode_short hencode).2, calledOf_encoded htype hplan hnumber, ?_⟩
  rw [newCalled_decoded, hcopied]
  unfold putCalled
  rw [hencode]
  rfl

/-- And if what is written is an element, whatever lies behind the number, the number fits. -/
theorem fits_of_putCalled {value encoded : List Octet} (hzero : (0 : Octet) ∉ new)
    (h : putCalled lib (newCalled [120] (lib.decodeCalled value) new) = calledElement encoded) :
    IsNumber (prescribed (calledOf value) new).number ∧
      (prescribed (calledOf value) new).number.length < numberSize ∧
        calledOf encoded = prescribed (calledOf value) new := by
  obtain ⟨htype, hplan⟩ := prescribed_bounds value new
  rw [newCalled_decoded] at h
  unfold putCalled at h
  cases hencode : lib.encodeCalled { prescribed (calledOf value) new with
      number := strncpyNumber [120] (prescribed (calledOf value) new).number } with
  | none =>
    rw [hencode] at h
    cases h
  | some written =>
    rw [hencode] at h
    obtain rfl : written = encoded := (cons.inj (cons.inj h).2).2
    have hnumber := (lib.encode_short hencode).1
    dsimp only at hnumber
    by_cases hshort : (prescribed (calledOf value) new).number.length < numberSize
    · have hcopied : strncpyNumber [120] (prescribed (calledOf value) new).number =
          (prescribed (calledOf value) new).number := if_pos hshort
      rw [hcopied] at hnumber hencode
      refine ⟨hnumber, hshort, ?_⟩
      have hwritten := Option.some.inj (hencode.symm.trans (lib.encode_number _ htype hplan hnumber hshort))
      rw [hwritten, calledOf_encoded htype hplan hnumber]
    · have hx := strncpyNumber_long (prescribed_terminated hzero) (Nat.le_of_not_lt hshort)
      exact absurd (hnumber _ hx) (by decide)

theorem rewriteNonInternational_eq (value : List Octet) :
    rewriteNonInternational lib rewr imsi (lib.decodeCalled value) =
      if (calledOf value).plan = 1 ∧ (calledOf value).type ≠ 1 then
        newNumber lib.toRegexLib rewr imsi ((calledOf value).number.take (numberSize - 2))
      else none := by
  rw [lib.decode_eq]
  unfold rewriteNonInternational
  dsimp only
  by_cases hplan : (calledOf value).plan = 1
  · rw [if_neg (not_not_intro hplan)]
    by_cases htype : (calledOf value).type = 1
    · rw [if_pos htype, if_neg fun h => h.2 htype]
    · rw [if_neg htype, if_pos ⟨hplan, htype⟩]
  · rw [if_pos hplan, if_neg fun h => hplan h.1]

/-- A new message is a rewritten one, for each that there is, says all. -/
theorem faithfulSetup_iff {out : Option (List Octet)} :
    FaithfulSetup lib rewr imsi msg out ↔ ∀ m ∈ out, SetupRewritten lib rewr imsi msg m := by
  refine ⟨And.left, fun h => ⟨h, fun hnone => ?_⟩⟩
  cases out with
  | none => rfl
  | some m =>
    obtain ⟨before, old, after, value, new, hcalled, -, -, hgives, -⟩ := h m rfl
    exact absurd hgives (hnone before old after new hcalled)

section

variable (hcalled : CalledAt lib msg before old after) (hplan : (calledOf old).plan = 1)
    (htype : (calledOf old).type ≠ 1)
    (hnew : newNumber lib.toRegexLib rewr imsi ((calledOf old).number.take (numberSize - 2)) = some new)
    (hlen : new.length ≤ numberSize)

include hcalled hplan htype hnew hlen

theorem rewriteSetup_of_new (behind : List Octet) :
    rewriteSetup lib rewr imsi behind msg =
      some (before ++ putCalled lib (newCalled behind (lib.decodeCalled old) new) ++ after) := by
  rw [rewriteSetup_of_calledAt hcalled, rewriteNonInternational_eq, if_pos ⟨hplan, htype⟩, hnew, Option.bind_some,
    if_neg (Nat.not_lt.mpr hlen)]

/-- If the new message is as it is to be when there is no zero behind the number, the numbers fit. -/
theorem fits_of_rewritten (h : ∀ m ∈ rewriteSetup lib rewr imsi [120] msg, SetupRewritten lib rewr imsi msg m) :
    newNumber lib.toRegexLib rewr imsi (calledOf old).number = some new ∧
      IsNumber (prescribed (calledOf old) new).number ∧ (prescribed (calledOf old) new).number.length < numberSize := by
  obtain ⟨before', old', after', value, new', hcalled', -, hout, hgives, hvalue⟩ :=
    h _ (rewriteSetup_of_new hcalled hplan htype hnew hlen [120])
  obtain ⟨rfl, rfl, rfl⟩ := hcalled.unique hcalled'
  have hput := append_cancel_left (append_cancel_right hout)
  have hzero : (0 : Octet) ∉ new := ((newNumber_eq_some_iff _).mp hnew).terminated _ fun hmem => by
    have hread := mem_of_mem_take hmem
    cases old with
    | nil => exact absurd hread not_mem_nil
    | cons o digits => exact not_mem_readNumber digits hread
  obtain ⟨hnumber, hshort, hwritten⟩ := fits_of_putCalled hzero hput
  obtain rfl : new = new' := prescribed_inj htype (hwritten.symm.trans hvalue)
  exact ⟨(newNumber_eq_some_iff _).mpr hgives, hnumber, hshort⟩

end

theorem rewritten_of_fits (hfits : SetupFits lib rewr imsi msg) (behind : List Octet) :
    ∀ m ∈ rewriteSetup lib rewr imsi behind msg, SetupRewritten lib rewr imsi msg m := by
  intro m hm
  by_cases hnone : ∀ before old after, ¬ CalledAt lib msg before old after
  · rw [rewriteSetup_of_none hnone] at hm
    cases hm
  · simp only [not_forall, not_not] at hnone
    obtain ⟨before, old, after, hcalled⟩ := hnone
    rw [rewriteSetup_of_calledAt hcalled, rewriteNonInternational_eq] at hm
    by_cases hrewrites : (calledOf old).plan = 1 ∧ (calledOf old).type ≠ 1
    · rw [if_pos hrewrites] at hm
      obtain ⟨new, hnew, hm⟩ := Option.bind_eq_some_iff.mp hm
      split at hm
      case isTrue => cases hm
      case isFalse hlen =>
        obtain ⟨hgives, hnumber, hshort⟩ :=
          hfits before old after hcalled hrewrites.1 hrewrites.2 new hnew (Nat.le_of_not_lt hlen)
        obtain ⟨encoded, hencoded, hdecoded, hput⟩ := putCalled_of_fits behind hnumber hshort
        refine ⟨before, old, after, encoded, new, hcalled, hencoded, ?_, (newNumber_eq_some_iff _).mp hgives, hdecoded⟩
        rw [← hput]
        exact (Option.some.inj hm).symm
    · rw [if_neg hrewrites] at hm
      cases hm

/-- **A SETUP is rewritten as it is to be**, whatever is on the stack, exactly if its number and the new one fit. -/
theorem rewriteSetup_faithful_iff (lib : SetupLib) (rewr : List NumRewrEntry) (imsi msg : List Octet) :
    (∀ behind, FaithfulSetup lib rewr imsi msg (rewriteSetup lib rewr imsi behind msg)) ↔
      SetupFits lib rewr imsi msg := by
  constructor
  · intro h before old after hcalled hplan htype new hnew hlen
    exact fits_of_rewritten hcalled hplan htype hnew hlen (faithfulSetup_iff.mp (h [120]))
  · intro hfits behind
    exact faithfulSetup_iff.mpr (rewritten_of_fits hfits behind)

end Messages

/-- The number of a message whose first element it is. -/
def firstElement : List Octet → Option (Nat × Nat)
  | tag :: len :: rest => if tag = 0x5e ∧ len.toNat ≤ rest.length then some (2, len.toNat) else none
  | _ => none

theorem firstElement_eq {data : List Octet} {val len : Nat} (h : firstElement data = some (val, len)) :
    ∃ n rest, data = 0x5e :: n :: rest ∧ n.toNat ≤ rest.length ∧ val = 2 ∧ len = n.toNat := by
  unfold firstElement at h
  split at h
  case h_2 => cases h
  case h_1 tag n rest =>
    split at h
    case isFalse => cases h
    case isTrue hfound =>
      obtain ⟨rfl, hlen⟩ := hfound
      cases h
      exact ⟨n, rest, rfl, hlen, rfl, rfl⟩

/-- Numbers as libosmocore writes and reads them, and an expression that matches from the second digit on. -/
def plainSetupLib : SetupLib where
  regexec := fun _ _ => true
  subMatch := fun _ _ => some 1
  tlvParse := firstElement
  decodeCalled := fun value => { calledOf value with number := (calledOf value).number.take (numberSize - 2) }
  encodeCalled := fun called =>
    if called.number.all (bcdNumDigits.contains ·) ∧ called.number.length ≤ 34 then
      some (UInt8.ofNat (0x80 + 16 * called.type + called.plan) :: semiOctets (digitsOf called.number))
    else none
  called_inside := fun h => by
    obtain ⟨n, rest, rfl, hlen, rfl, rfl⟩ := firstElement_eq h
    exact ⟨le_refl 2, by simp only [length_cons]; omega, n.toNat_lt⟩
  called_tagged := fun h => by
    obtain ⟨n, rest, rfl, hlen, rfl, rfl⟩ := firstElement_eq h
    exact ⟨rfl, by rw [UInt8.ofNat_toNat]; rfl⟩
  decode_eq := fun _ => rfl
  encode_number := fun called _ _ hnumber hshort => by
    refine if_pos ⟨all_eq_true.mpr fun c hc => contains_iff_mem.mpr (hnumber c hc), ?_⟩
    unfold numberSize at hshort
    omega
  encode_short := fun {called value} h => by
    split at h
    case isFalse => cases h
    case isTrue hfits =>
      obtain ⟨hall, hlen⟩ := hfits
      cases h
      refine ⟨fun c hc => contains_iff_mem.mp (all_eq_true.mp hall c hc), ?_⟩
      rw [length_cons, length_semiOctets, length_digitsOf]
      omega

/-- A number of 32 digits: a zero and ones. -/
def longNumber : List Octet := 0x81 :: 0x10 :: List.replicate 15 0x11

/-- A two takes the place of the zero. -/
def zeroRule : NumRewrEntry := ⟨octets "^27408", octets "^0([1-9])", octets "2", by decide⟩

/-- **The last digit is lost.** -/
theorem not_faithful_longNumber : ¬ ∀ (lib : SetupLib) (rewr : List NumRewrEntry) (imsi behind msg : List Octet),
    FaithfulSetup lib rewr imsi msg (rewriteSetup lib rewr imsi behind msg) := by
  intro h
  have hcalled : CalledAt plainSetupLib (0x03 :: 0x05 :: calledElement longNumber) [0x03, 0x05] longNumber [] :=
    ⟨by decide, by decide⟩
  have hnew : newNumber plainSetupLib.toRegexLib [zeroRule] (octets "274080000012345")
      ((calledOf longNumber).number.take (numberSize - 2)) = some (50 :: replicate 30 49) := rfl
  have hfits := fits_of_rewritten hcalled (by decide) (by decide) hnew (by decide)
    (faithfulSetup_iff.mp (h _ _ _ _ _))
  exact absurd hfits.1 (by decide)

end OpenBsc.OsmoBscNat
