import OpenBsc.Lib.Octets
import OpenBsc.Lib.Strtok

/-!
# `Libctrl.ControlCmd` — commands of the control interface and their texts (`control_cmd.c`)

A command is written as words with a blank between them: its type, its id, and what belongs to the type. The parser
reads the words one after another with `strtok_r`, and only the text of an error is read to the end of the message.
-/

namespace OpenBsc.Libctrl

open Strtok

/-! ## Data -/

/-- `enum ctrl_type`. -/
inductive CtrlType where
  | unknown | get | set | getReply | setReply | trap | error
  deriving DecidableEq

/-- `struct ctrl_cmd` without the connection and the node; a null pointer is `none`. `var` is its `variable`. -/
structure CtrlCmd where
  type : CtrlType
  id : Option (List Octet) := none
  var : Option (List Octet) := none
  value : Option (List Octet) := none
  reply : Option (List Octet) := none
  deriving DecidableEq

/-- `ccm`. -/
def ccm : List (List Octet × CtrlType) :=
  [(octets "GET", .get), (octets "SET", .set), (octets "GET_REPLY", .getReply), (octets "SET_REPLY", .setReply),
    (octets "TRAP", .trap), (octets "ERROR", .error)]

/-- `tolower` in the C locale. -/
def toLower (o : Octet) : Octet := if 65 ≤ o ∧ o ≤ 90 then o + 32 else o

/-- `strcasecmp` finds no difference. -/
def equalsIgnoringCase (s t : List Octet) : Bool := s.map toLower == t.map toLower

/-- `ctrl_cmd_str2type`. -/
def ctrlCmdStr2type (s : List Octet) : CtrlType :=
  match ccm.find? fun e => equalsIgnoringCase s e.1 with
  | some e => e.2
  | none => .unknown

/-- `ctrl_cmd_type2str`. -/
def ctrlCmdType2str (type : CtrlType) : Option (List Octet) := (ccm.find? fun e => e.2 = type).map Prod.fst

/-- `struct msgb` from `l2h` on: what is in it, and how many more octets there is room for. -/
structure Msgb where
  l2 : List Octet
  tailroom : Nat

/-- `msgb_alloc_headroom`: all but the headroom is tail room. -/
def msgbAllocHeadroom (size headroom : Nat) : Msgb := ⟨[], size - headroom⟩

/-- `msgb_put`; the process ends where there is no room. -/
def msgbPut (msg : Msgb) (data : List Octet) : Option Msgb :=
  if data.length ≤ msg.tailroom then some ⟨msg.l2 ++ data, msg.tailroom - data.length⟩ else none

/-! ## Texts -/

/-- `talloc_asprintf` with one `%s` for each word and a blank between them. -/
def asprintf (words : List (List Octet)) : List Octet := [32].intercalate words

/-- The words that `ctrl_cmd_make` writes; none where something is missing, or the type has no text. -/
def CtrlCmd.words (cmd : CtrlCmd) : Option (List (List Octet)) := do
  let id ← cmd.id
  let type ← ctrlCmdType2str cmd.type
  match cmd.type with
  | .get =>
    let var ← cmd.var
    some [type, id, var]
  | .set =>
    let var ← cmd.var
    let value ← cmd.value
    some [type, id, var, value]
  | .getReply | .setReply | .trap =>
    let var ← cmd.var
    let reply ← cmd.reply
    some [type, id, var, reply]
  | .error =>
    let reply ← cmd.reply
    some [type, id, reply]
  | .unknown => none

/-- The room of a message before anything is written to it. -/
def messageRoom : Nat := 4096 - 128

/-- `ctrl_cmd_make`. -/
def ctrlCmdMake (cmd : CtrlCmd) : Option Msgb := do
  let words ← cmd.words
  msgbPut (msgbAllocHeadroom 4096 128) (asprintf words)

/-- The separator of `strtok_r(.., " ", ..)`. -/
def isBlank (o : Octet) : Bool := o = 32

/-- What `ctrl_cmd_parse` makes of the words behind type and id. On every error the command is freed. -/
def parseArgs (type : CtrlType) (id saveptr : List Octet) : Option CtrlCmd :=
  match type with
  | .get =>
    let (var, _) := strtok isBlank saveptr
    var.map fun var => { type := .get, id := some id, var := some var }
  | .set =>
    let (var, saveptr) := strtok isBlank saveptr
    let (val, _) := strtok isBlank saveptr
    match var, val with
    | some var, some val => some { type := .set, id := some id, var := some var, value := some val }
    | _, _ => none
  | .getReply | .setReply | .trap =>
    let (var, saveptr) := strtok isBlank saveptr
    let (val, _) := strtok isBlank saveptr
    match var, val with
    | some var, some val => some { type := type, id := some id, var := some var, reply := some val }
    | _, _ => none
  | .error =>
    -- the text of an error goes to the end of the message, blanks and all
    let (var, _) := strtok (fun _ => false) saveptr
    var.map fun var => { type := .error, id := some id, reply := some var }
  | .unknown => none

/-- `ctrl_cmd_parse`. The message is ended by a zero first, for which there has to be room. -/
def ctrlCmdParse (msg : Msgb) : Option CtrlCmd := do
  let msg ← msgbPut msg [0]
  let (type, saveptr) := strtok isBlank (cString msg.l2)
  let type ← type
  let (id, saveptr) := strtok isBlank saveptr
  let id ← id
  parseArgs (ctrlCmdStr2type type) id saveptr

end OpenBsc.Libctrl
