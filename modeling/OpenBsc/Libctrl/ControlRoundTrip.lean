import OpenBsc.Libctrl.ControlCmd

/-!
# `Libctrl.ControlRoundTrip` — commands that survive being written and parsed

The words of a command are separated by blanks, and so is what the parser reads. An id and a variable without blanks are
read as they were written, and so is the text of an error. The value of a SET and the reply of a GET_REPLY, SET_REPLY
or TRAP are read up to the next blank only.
-/

namespace OpenBsc.Libctrl

open Strtok Option

/-! ## Fields -/

/-- A string of C that is not empty. -/
structure Text (s : List Octet) : Prop where
  nonempty : s ≠ []
  noZero : 0 ∉ s

/-- A string that is not empty and has no blank in it. -/
structure Name (s : List Octet) : Prop extends Text s where
  noBlank : 32 ∉ s

/-- A command of one of the six types. Its id and variable have no blanks, its value and reply may have. -/
structure Sendable (cmd : CtrlCmd) : Prop where
  type : cmd.type ≠ .unknown
  id : ∀ id ∈ cmd.id, Name id
  var : ∀ var ∈ cmd.var, Name var
  value : ∀ value ∈ cmd.value, Text value
  reply : ∀ reply ∈ cmd.reply, Text reply

/-- The command with those fields only that its type has on the wire. -/
def CtrlCmd.carried (cmd : CtrlCmd) : CtrlCmd :=
  match cmd.type with
  | .get => { type := cmd.type, id := cmd.id, var := cmd.var }
  | .set => { type := cmd.type, id := cmd.id, var := cmd.var, value := cmd.value }
  | .getReply | .setReply | .trap => { type := cmd.type, id := cmd.id, var := cmd.var, reply := cmd.reply }
  | .error => { type := cmd.type, id := cmd.id, reply := cmd.reply }
  | .unknown => { type := cmd.type, id := cmd.id }

/-- The value or reply that stands behind the variable. -/
def CtrlCmd.arg (cmd : CtrlCmd) : Option (List Octet) :=
  match cmd.type with
  | .set => cmd.value
  | .getReply | .setReply | .trap => cmd.reply
  | .get | .error | .unknown => none

theorem isBlank_eq {o : Octet} : isBlank o = true ↔ o = 32 := decide_eq_true_iff

theorem notBlank_of_notMem {s : List Octet} (h : 32 ∉ s) : ∀ o ∈ s, isBlank o = false := by
  intro o ho
  rw [Bool.eq_false_iff]
  intro hblank
  rw [isBlank_eq.mp hblank] at ho
  exact h ho

theorem type_name {type : CtrlType} {t : List Octet} (h : ctrlCmdType2str type = some t) :
    Name t ∧ ctrlCmdStr2type t = type := by
  cases type with
  | unknown => cases h
  | _ =>
    cases h
    exact ⟨⟨⟨by decide, by decide⟩, by decide⟩, by decide⟩

/-! ## Messages -/

/-- Where there is room for a zero, type and id are read and the rest is left to `parseArgs`. -/
theorem ctrlCmdParse_text {t id args : List Octet} {room : Nat} (ht : Name t) (hid : Name id) (hargs : 0 ∉ args) :
    ctrlCmdParse ⟨t ++ 32 :: (id ++ 32 :: args), room⟩ =
      if 0 < room then parseArgs (ctrlCmdStr2type t) id args else none := by
  have hblank : isBlank 32 = true := by decide
  have htext : cString (t ++ 32 :: (id ++ 32 :: args) ++ [0]) = t ++ 32 :: (id ++ 32 :: args) := by
    rw [cString_zero]
    refine List.takeWhile_eq_self_iff.mpr ?_
    intro o ho
    have hne : o ≠ 0 := by
      rintro rfl
      simp [ht.noZero, hid.noZero, hargs] at ho
    simpa using hne
  unfold ctrlCmdParse msgbPut
  by_cases hroom : 0 < room
  · have hput : [(0 : Octet)].length ≤ room := hroom
    rw [if_pos hput, if_pos hroom]
    simp only [bind_eq_bind, bind_some, htext,
      strtok_word (notBlank_of_notMem ht.noBlank) ht.nonempty hblank,
      strtok_word (notBlank_of_notMem hid.noBlank) hid.nonempty hblank]
  · have hput : ¬ [(0 : Octet)].length ≤ room := hroom
    rw [if_neg hput, if_neg hroom]
    rfl

/-- The word at the front of a text is the whole text when there is no blank in it. -/
theorem strtok_eq_self_iff {v : List Octet} (hv : Text v) : (strtok isBlank v).1 = some v ↔ 32 ∉ v := by
  constructor
  · intro h hmem
    have hword := (strtok_some (Prod.ext h rfl : strtok isBlank v = (some v, (strtok isBlank v).2))).2 32 hmem
    cases hword
  · intro h
    rw [strtok_last (notBlank_of_notMem h) hv.nonempty]

theorem parseArgs_set {id var value : List Octet} (hvar : Name var) (hvalue : Text value) :
    parseArgs .set id (var ++ 32 :: value) =
        some { type := .set, id := some id, var := some var, value := some value } ↔ 32 ∉ value := by
  rw [← strtok_eq_self_iff hvalue]
  unfold parseArgs
  rw [strtok_word (notBlank_of_notMem hvar.noBlank) hvar.nonempty (by decide)]
  cases hval : (strtok isBlank value).1 with
  | none | some => simp [hval]

theorem parseArgs_reply {type : CtrlType} {id var reply : List Octet} (hvar : Name var) (hreply : Text reply)
    (htype : type = .getReply ∨ type = .setReply ∨ type = .trap) :
    parseArgs type id (var ++ 32 :: reply) =
        some { type := type, id := some id, var := some var, reply := some reply } ↔ 32 ∉ reply := by
  rw [← strtok_eq_self_iff hreply]
  have hpair : parseArgs type id (var ++ 32 :: reply) =
      (strtok isBlank reply).1.map fun val => { type := type, id := some id, var := some var, reply := some val } := by
    have hword : strtok isBlank (var ++ 32 :: reply) = (some var, reply) :=
      strtok_word (notBlank_of_notMem hvar.noBlank) hvar.nonempty (show isBlank 32 = true by decide)
    rcases htype with rfl | rfl | rfl
    all_goals
      simp only [parseArgs, hword]
      cases (strtok isBlank reply).1 with
      | none => rfl
      | some val => rfl
  rw [hpair]
  cases hval : (strtok isBlank reply).1 with
  | none | some => simp

/-- **What is written.** Type and id come first, and what is behind them is parsed as it was unless there is a blank in
    the value or the reply. -/
theorem words_spec {cmd : CtrlCmd} (h : Sendable cmd) {words : List (List Octet)} (hwords : cmd.words = some words) :
    ∃ t id args, asprintf words = t ++ 32 :: (id ++ 32 :: args) ∧ Name t ∧ ctrlCmdStr2type t = cmd.type ∧ Name id ∧
      0 ∉ args ∧ (parseArgs cmd.type id args = some cmd.carried ↔ ∀ v ∈ cmd.arg, 32 ∉ v) := by
  obtain ⟨type, id, var, value, reply⟩ := cmd
  obtain ⟨hknown, hid, hvar, hvalue, hreply⟩ := h
  unfold CtrlCmd.words at hwords
  simp only [bind_eq_bind, bind_eq_some_iff] at hwords
  obtain ⟨i, rfl, t, ht, hwords⟩ := hwords
  obtain ⟨htname, htype⟩ := type_name ht
  have hiname : Name i := hid i rfl
  have hpair {v w : List Octet} (hv : 0 ∉ v) (hw : 0 ∉ w) : 0 ∉ v ++ 32 :: w := by
    simp [hv, hw]
  cases type with
  | unknown => exact absurd rfl hknown
  | get =>
    simp only [bind_eq_some_iff] at hwords
    obtain ⟨v, rfl, hw⟩ := hwords
    cases hw
    have hv : Name v := hvar v rfl
    refine ⟨t, i, v, by simp [asprintf, List.intercalate], htname, htype, hiname, hv.noZero, ?_⟩
    show parseArgs .get i v = some { type := .get, id := some i, var := some v } ↔ ∀ w ∈ (none : Option _), 32 ∉ w
    unfold parseArgs
    rw [strtok_last (notBlank_of_notMem hv.noBlank) hv.nonempty]
    simp
  | set =>
    simp only [bind_eq_some_iff] at hwords
    obtain ⟨v, rfl, w, rfl, hw⟩ := hwords
    cases hw
    have hv : Name v := hvar v rfl
    have hw : Text w := hvalue w rfl
    refine ⟨t, i, v ++ 32 :: w, by simp [asprintf, List.intercalate], htname, htype, hiname,
      hpair hv.noZero hw.noZero, (parseArgs_set hv hw).trans ?_⟩
    show 32 ∉ w ↔ ∀ x ∈ some w, 32 ∉ x
    simp
  | error =>
    simp only [bind_eq_some_iff] at hwords
    obtain ⟨w, rfl, hw⟩ := hwords
    cases hw
    have hw : Text w := hreply w rfl
    refine ⟨t, i, w, by simp [asprintf, List.intercalate], htname, htype, hiname, hw.noZero, ?_⟩
    show parseArgs .error i w = some { type := .error, id := some i, reply := some w } ↔ ∀ x ∈ (none : Option _), 32 ∉ x
    unfold parseArgs
    rw [strtok_all hw.nonempty]
    simp
  | getReply | setReply | trap =>
    simp only [bind_eq_some_iff] at hwords
    obtain ⟨v, rfl, w, rfl, hw⟩ := hwords
    cases hw
    have hv : Name v := hvar v rfl
    have hw : Text w := hreply w rfl
    refine ⟨t, i, v ++ 32 :: w, by simp [asprintf, List.intercalate], htname, htype, hiname,
      hpair hv.noZero hw.noZero, (parseArgs_reply hv hw (by simp)).trans ?_⟩
    show 32 ∉ w ↔ ∀ x ∈ some w, 32 ∉ x
    simp

/-! ## The result -/

/-- Whatever message is made of the command, parsing it gives the command back. -/
def RoundTrips (cmd : CtrlCmd) : Prop := ∀ msg, ctrlCmdMake cmd = some msg → ctrlCmdParse msg = some cmd.carried

/-- The command has a text that is too long for a message, or one that leaves room for a zero and has no blank in its
    value or reply. -/
def Intact (cmd : CtrlCmd) : Prop :=
  ∀ words ∈ cmd.words, messageRoom < (asprintf words).length ∨
    (asprintf words).length < messageRoom ∧ ∀ v ∈ cmd.arg, 32 ∉ v

/-- **When a command round-trips.** A command of any type with an id and a variable without blanks is parsed as it was
    written if and only if its message leaves room for a zero and there is no blank in the value of a SET or the reply
    of a GET_REPLY, SET_REPLY or TRAP. -/
theorem roundTrips_iff_intact {cmd : CtrlCmd} (h : Sendable cmd) : RoundTrips cmd ↔ Intact cmd := by
  unfold RoundTrips Intact ctrlCmdMake
  cases hwords : cmd.words with
  | none => simp
  | some words =>
    obtain ⟨t, id, args, htext, ht, htype, hid, hargs, hparse⟩ := words_spec h hwords
    have hput : msgbPut (msgbAllocHeadroom 4096 128) (asprintf words) =
        if (asprintf words).length ≤ messageRoom then some ⟨asprintf words, messageRoom - (asprintf words).length⟩
        else none := rfl
    simp only [bind_eq_bind, bind_some, mem_def, some.injEq, forall_eq', hput]
    by_cases hlong : messageRoom < (asprintf words).length
    · -- no message is made
      simp [hlong, Nat.not_le.mpr hlong]
    · have hfits : (asprintf words).length ≤ messageRoom := Nat.not_lt.mp hlong
      have hread : ctrlCmdParse ⟨asprintf words, messageRoom - (asprintf words).length⟩ =
          if (asprintf words).length < messageRoom then parseArgs cmd.type id args else none := by
        rw [htext] at hfits ⊢
        rw [ctrlCmdParse_text ht hid hargs, htype]
        simp only [Nat.sub_pos_iff_lt]
      simp only [if_pos hfits, some.injEq, forall_eq', hread, hlong, false_or]
      by_cases hshort : (asprintf words).length < messageRoom
      · simpa [hshort] using hparse
      · -- there is no room left for the zero
        simp [hshort]

/-- A BSC answers with the values of a group of counters. -/
def countersReply : CtrlCmd :=
  { type := .getReply, id := some (octets "7"), var := some (octets "rate_ctr.abs.bsc.0"),
    reply := some (octets "All counters in bsc.0") }

/-- Its location is one word. -/
def locationReply : CtrlCmd :=
  { type := .getReply, id := some (octets "8"), var := some (octets "location"),
    reply := some (octets "1375,fix3d,53.94,10.87,12.5") }

instance (s : List Octet) : Decidable (Text s) :=
  decidable_of_iff (s ≠ [] ∧ 0 ∉ s) ⟨fun ⟨h₁, h₂⟩ => ⟨h₁, h₂⟩, fun ⟨h₁, h₂⟩ => ⟨h₁, h₂⟩⟩

instance (s : List Octet) : Decidable (Name s) :=
  decidable_of_iff (Text s ∧ 32 ∉ s) ⟨fun ⟨h₁, h₂⟩ => ⟨h₁, h₂⟩, fun ⟨h₁, h₂⟩ => ⟨h₁, h₂⟩⟩

theorem sendable_locationReply : Sendable locationReply :=
  ⟨by decide, by decide, by decide, by decide, by decide⟩

theorem roundTrips_iff_intact_location : Sendable locationReply ∧ Intact locationReply ∧ RoundTrips locationReply := by
  have hintact : Intact locationReply := by
    unfold Intact
    decide
  exact ⟨sendable_locationReply, hintact, (roundTrips_iff_intact sendable_locationReply).mpr hintact⟩

/-- Of the counters only the first word arrives. -/
theorem not_roundTrips_counters : Sendable countersReply ∧
    (ctrlCmdMake countersReply).bind ctrlCmdParse = some { countersReply with reply := some (octets "All") } ∧
    ¬ RoundTrips countersReply := by
  have hcut : (ctrlCmdMake countersReply).bind ctrlCmdParse =
      some { countersReply with reply := some (octets "All") } := by decide
  refine ⟨⟨by decide, by decide, by decide, by decide, by decide⟩, hcut, fun h => ?_⟩
  obtain ⟨msg, hmsg, hparse⟩ := bind_eq_some_iff.mp hcut
  rw [h msg hmsg] at hparse
  revert hparse
  decide

end OpenBsc.Libctrl
