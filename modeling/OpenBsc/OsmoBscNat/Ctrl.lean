import OpenBsc.Lib.Decimal
import OpenBsc.Libctrl.ControlCmd
import OpenBsc.OsmoBscNat.Forward

/-!
# `OsmoBscNat.Ctrl` — control commands for the BSCs (`forward_to_bsc`, `handle_ctrlif_msg`)

An operator sends commands for a variable `bsc.<lac>.<name>` over a control connection. The NAT forwards them to the BSC
that handles the location area, as commands for `<name>` under an id of its own, and keeps a pending entry until the
BSC answers, the entry times out, or one of the two connections is closed.

The pending entries of all BSCs stand in one `Pool`; the list of a BSC are those that name it. The commands of an
operator that reach `forward_to_bsc` are GET and SET commands with an id and a variable.
-/

namespace OpenBsc.OsmoBscNat

open Libctrl Strtok Transition

/-! ## Data -/

/-- `struct ctrl_connection`: how many messages wait in its write queue. -/
structure CtrlConnection where
  queued : Nat := 0

/-- `struct bsc_connection`, as far as control commands need it. -/
structure CtrlBsc where
  authenticated : Bool := false
  cfg : Option BscConfig := none
  lastId : Nat := 0
  queued : Nat := 0

/-- `struct bsc_cmd_list`, with the BSC in whose list it stands. Its timer runs as long as it is in the list. -/
structure BscCmdList where
  bsc : Nat
  natId : Nat
  ccon : Nat
  cmd : CtrlCmd

/-- Why a command is answered: a message of the BSC, whose first location area is `lac`; the timer; or the end of the
    BSC's connection. -/
inductive AnswerCause where
  | reply (bsc lac : Nat) (cmd : CtrlCmd) | timeout | bscClosed
  deriving DecidableEq

/-- What happens to the commands: one is forwarded under a new entry, an entry is answered on a control connection,
    its answer is not sent to a connection with so many messages in its write queue, or it is dropped with its control
    connection; a command is refused, and a BSC is sent an error. -/
inductive CtrlOut where
  | forwarded (i : Nat) (ccon : Nat) (cmd : CtrlCmd) (bsc : Nat) (bscCmd : CtrlCmd)
  | answered (i : Nat) (ccon : Nat) (cmd : CtrlCmd) (cause : AnswerCause)
  | unsent (i : Nat) (cmd : CtrlCmd) (queued : Nat)
  | dropped (i : Nat)
  | refused (ccon : Nat) (cmd : CtrlCmd)
  | toBsc (bsc : Nat) (cmd : CtrlCmd)
  deriving DecidableEq

/-- The control side of the NAT. -/
structure CtrlNat where
  ccons : Pool CtrlConnection := .empty
  bscs : Pool CtrlBsc := .empty
  pending : Pool BscCmdList := .empty
  outs : List CtrlOut := []

namespace CtrlNat

def emit (nat : CtrlNat) (out : CtrlOut) : CtrlNat := { nat with outs := nat.outs ++ [out] }

def modifyCcon (nat : CtrlNat) (c : Nat) (f : CtrlConnection → CtrlConnection) : CtrlNat :=
  { nat with ccons := nat.ccons.modify c f }

def modifyBsc (nat : CtrlNat) (b : Nat) (f : CtrlBsc → CtrlBsc) : CtrlNat := { nat with bscs := nat.bscs.modify b f }

/-! ## Sending -/

/-- `max_length` of the write queues, of control connections and of BSCs. -/
def wqueueMax : Nat := 100

/-- `ctrl_cmd_send`: whether the command has a text and there is room for it in the queue. -/
def ctrlCmdSend (queued : Nat) (cmd : CtrlCmd) : Bool := (ctrlCmdMake cmd).isSome && decide (queued < wqueueMax)

/-- `ctrl_cmd_send` to the control connection of a pending entry; its result is not looked at. -/
def answer (nat : CtrlNat) (i c : Nat) (cmd : CtrlCmd) (cause : AnswerCause) : CtrlNat :=
  match nat.ccons.get? c with
  | none => nat.emit (.unsent i cmd 0)
  | some ccon =>
    if ctrlCmdSend ccon.queued cmd then
      (nat.modifyCcon c fun ccon => { ccon with queued := ccon.queued + 1 }).emit (.answered i c cmd cause)
    else nat.emit (.unsent i cmd ccon.queued)

/-- `bsc_del_pending`. -/
def bscDelPending (nat : CtrlNat) (i : Nat) : CtrlNat := { nat with pending := nat.pending.remove i }

/-- The entries with a property, in the order of the list. -/
def pendingIds (nat : CtrlNat) (q : BscCmdList → Bool) : List Nat :=
  (nat.pending.entries.filter fun e => q e.2).map Prod.fst

/-! ## Forwarding -/

/-- `NAT_MAX_CTRL_ID`. -/
def natMaxCtrlId : Nat := 65535

/-- `bsc_id_unused`. -/
def bscIdUnused (nat : CtrlNat) (b id : Nat) : Bool := (nat.pending.find? fun p => p.bsc = b ∧ p.natId = id).isNone

/-- The ids that `get_next_free_bsc_id` tries: those behind the last one, then all from 1, and 1 once more. -/
def triedIds (lastId : Nat) : List Nat :=
  List.range' (lastId + 1) (natMaxCtrlId - 1 - lastId) ++ List.range' 1 (natMaxCtrlId - 1) ++ [1]

/-- `get_next_free_bsc_id`. -/
def getNextFreeBscId (nat : CtrlNat) (b : Nat) (bsc : CtrlBsc) : Option Nat :=
  (triedIds bsc.lastId).find? fun id => nat.bscIdUnused b id

/-- `bsc_config_handles_lac` of a number that was read. -/
def handlesLac (cfg : BscConfig) (lac : Int) : Bool := decide (0 ≤ lac) && BscNat.bscConfigHandlesLac cfg lac.toNat

/-- The separator of `strtok_r(.., ".", ..)`. -/
def isDot (o : Octet) : Bool := o = 46

/-- What is left of a variable when its first word was cut off by `strtok_r`. -/
def firstCut (var : List Octet) : List Octet := var.takeWhile isDot ++ (var.dropWhile isDot).takeWhile fun o => !isDot o

/-- The location area and the name behind it, of a variable `bsc.<lac>.<name>`. -/
def splitVariable (var : List Octet) : Option (Int × List Octet) := do
  -- skip over the beginning (bsc.)
  let (_, saveptr) := strtok isDot var
  let (lacStr, saveptr) := strtok isDot saveptr
  let lacStr ← lacStr
  let (name, _) := strtok (fun _ => false) saveptr
  let name ← name
  some (atoi lacStr, name)

/-- The command is answered with an error at once. -/
def refuse (nat : CtrlNat) (c : Nat) (cmd : CtrlCmd) (reply : String) : CtrlNat :=
  let cmd := { cmd with type := .error, reply := some (octets reply) }
  match nat.ccons.get? c with
  | none => nat
  | some ccon =>
    if ctrlCmdSend ccon.queued cmd then
      (nat.modifyCcon c fun ccon => { ccon with queued := ccon.queued + 1 }).emit (.refused c cmd)
    else nat

/-- `forward_to_bsc`, and what `handle_control_read` does where it fails. -/
def forwardToBsc (nat : CtrlNat) (c : Nat) (cmd : CtrlCmd) (var : List Octet) : CtrlNat :=
  -- `strtok_r` cuts the variable of the command itself
  let cut := { cmd with var := some (firstCut var) }
  match splitVariable var with
  | none => nat.refuse c cut "command incomplete"
  | some (lac, name) =>
    match nat.bscs.findLast? fun bsc => bsc.authenticated && bsc.cfg.any fun cfg => handlesLac cfg lac with
    | none => nat.refuse c cut "no BSC with this LAC"
    | some (b, bsc) =>
      match nat.getNextFreeBscId b bsc with
      | none => nat.refuse c cut "No free ID found"
      | some natId =>
        let nat := nat.modifyBsc b fun bsc => { bsc with lastId := natId }
        let bscCmd := { cut with id := some (decimal natId), var := some name }
        if ctrlCmdSend bsc.queued bscCmd then
          let nat := nat.modifyBsc b fun bsc => { bsc with queued := bsc.queued + 1 }
          { nat with pending := nat.pending.alloc ⟨b, natId, c, cut⟩ }.emit
            (.forwarded nat.pending.next c { cmd with var := some var } b bscCmd)
        else nat.refuse c cut "Sending failed"

/-! ## Answers -/

/-- `bsc_get_pending`. -/
def bscGetPending (nat : CtrlNat) (b : Nat) (idStr : List Octet) : Option (Nat × BscCmdList) :=
  if atoi idStr = 0 then none else nat.pending.find? fun p => p.bsc = b ∧ (p.natId : Int) = atoi idStr

/-- The variable of a reply under the first location area of the BSC. -/
def prefixed (lac : Nat) (var : List Octet) : List Octet := octets "bsc." ++ decimal lac ++ [46] ++ var

/-- `ctrl_cmd_send` to a BSC. -/
def tellBsc (nat : CtrlNat) (b : Nat) (cmd : CtrlCmd) : CtrlNat :=
  match nat.bscs.get? b with
  | none => nat
  | some bsc =>
    if ctrlCmdSend bsc.queued cmd then
      (nat.modifyBsc b fun bsc => { bsc with queued := bsc.queued + 1 }).emit (.toBsc b cmd)
    else nat

/-- `handle_ctrlif_msg`. -/
def handleCtrlifMsg (nat : CtrlNat) (b : Nat) (bsc : CtrlBsc) (msg : Msgb) : CtrlNat :=
  match ctrlCmdParse msg with
  | none =>
    nat.tellBsc b { type := .error, id := some (octets "err"), reply := some (octets "Failed to parse command.") }
  | some cmd =>
    match (bsc.cfg.map BscConfig.lacList).getD [] with
    | [] => nat
    | lac :: _ =>
      let cmd' := { cmd with var := cmd.var.map (prefixed lac) }
      match nat.bscGetPending b (cmd.id.getD []) with
      | some (i, pending) =>
        (nat.answer i pending.ccon { cmd' with id := pending.cmd.id } (.reply b lac cmd)).bscDelPending i
      | none =>
        -- traps are not forwarded
        if cmd.type ≠ .error ∧ cmd.type ≠ .trap then
          nat.tellBsc b { cmd' with type := .error, reply := some (octets "No request outstanding") }
        else nat

/-- A pending entry is answered with an error and deleted. -/
def failPending (cause : AnswerCause) (reply : String) (nat : CtrlNat) (i : Nat) : CtrlNat :=
  match nat.pending.get? i with
  | none => nat
  | some pending =>
    (nat.answer i pending.ccon { pending.cmd with type := .error, reply := some (octets reply) } cause).bscDelPending i

/-- `pending_timeout_cb`. -/
def pendingTimeoutCb (nat : CtrlNat) (i : Nat) : CtrlNat := failPending .timeout "Command timed out" nat i

/-- A pending entry is deleted without an answer. -/
def dropPending (nat : CtrlNat) (i : Nat) : CtrlNat :=
  match nat.pending.get? i with
  | none => nat
  | some _ => (nat.bscDelPending i).emit (.dropped i)

/-- `control_close_conn` with `ctrl_conn_closed_cb`, which is set when the first command is forwarded. -/
def ctrlConnClosedCb (nat : CtrlNat) (c : Nat) : CtrlNat :=
  let nat := (nat.pendingIds fun p => p.ccon = c).foldl dropPending nat
  { nat with ccons := nat.ccons.remove c }

/-- `bsc_close_connection`. -/
def bscCloseConnection (nat : CtrlNat) (b : Nat) : CtrlNat :=
  let nat := (nat.pendingIds fun p => p.bsc = b).foldl (failPending .bscClosed "BSC closed the connection") nat
  { nat with bscs := nat.bscs.remove b }

end CtrlNat

/-! ## Runs -/

/-- What happens: a control connection or a BSC connects; a BSC is identified or the location areas of its
    configuration are changed; a command arrives on a control connection, or a control message from a BSC; an entry
    times out; a connection is closed; messages leave a write queue, or others are put into that of a BSC. -/
inductive CtrlEvent where
  | accept
  | bscConnect
  | bscConfigure (b : Nat) (authenticated : Bool) (cfg : Option BscConfig)
  | command (c : Nat) (id var : List Octet) (value : Option (List Octet))
  | bscMsg (b : Nat) (msg : Msgb)
  | timeout (i : Nat)
  | closeCcon (c : Nat)
  | closeBsc (b : Nat)
  | written (c : Nat)
  | bscQueue (b queued : Nat)

/-- The command that `ctrl_cmd_parse` makes of a GET or SET. -/
def operatorCmd (id var : List Octet) (value : Option (List Octet)) : CtrlCmd :=
  { type := if value.isSome then .set else .get, id := some id, var := some var, value := value }

/-- One step, where it can happen. -/
def ctrlStep (nat : CtrlNat) : CtrlEvent → Option CtrlNat
  | .accept => some { nat with ccons := nat.ccons.alloc {} }
  | .bscConnect => some { nat with bscs := nat.bscs.alloc {} }
  | .bscConfigure b authenticated cfg =>
    (nat.bscs.get? b).map fun _ => nat.modifyBsc b fun bsc => { bsc with authenticated := authenticated, cfg := cfg }
  | .command c id var value => (nat.ccons.get? c).map fun _ => nat.forwardToBsc c (operatorCmd id var value) var
  | .bscMsg b msg => (nat.bscs.get? b).map fun bsc => nat.handleCtrlifMsg b bsc msg
  | .timeout i => (nat.pending.get? i).map fun _ => nat.pendingTimeoutCb i
  | .closeCcon c => (nat.ccons.get? c).map fun _ => nat.ctrlConnClosedCb c
  | .closeBsc b => (nat.bscs.get? b).map fun _ => nat.bscCloseConnection b
  | .written c => (nat.ccons.get? c).map fun _ => nat.modifyCcon c fun ccon => { ccon with queued := ccon.queued - 1 }
  | .bscQueue b queued => (nat.bscs.get? b).map fun _ => nat.modifyBsc b fun bsc => { bsc with queued := queued }

/-- The control side of the NAT, with nobody connected at first. -/
def ctrlSystem : System CtrlNat CtrlEvent where
  init nat := nat = {}
  step nat ev nat' := ctrlStep nat ev = some nat'

end OpenBsc.OsmoBscNat
