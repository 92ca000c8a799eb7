import Mathlib.Logic.Function.Basic
import OpenBsc.Lib.Pool
import OpenBsc.Lib.Transition
import OpenBsc.Libbsc.ChanAlloc

/-!
# `Libbsc.Handover` — which connection a channel belongs to (`bsc_api.c`, `handover_logic.c`)

A connection has a channel, a second one while it is assigned that, and a third while it is handed over to it; each of
these points back to the connection. The record of a handover points to the old and the new channel. Channels are
numbers and connections are records of a `Pool`; a function that follows a pointer to nothing, or to what was freed, has
no result.

A channel that is released belongs to nobody; what becomes of it then is in `Libbsc.RadioChannels`. What is sent to the
phone, the BTS and the MSC, ciphering, the modes of a channel and the counters are left out. T10 and T3103 may expire at
any time while their connection and their handover are there, so that stopping them does nothing here.
-/

namespace OpenBsc.Libbsc

open Transition Function

/-! ## Data -/

/-- `struct gsm_subscriber_connection`: its channels. -/
structure HoConn where
  lchan : Option Nat := none
  secondaryLchan : Option Nat := none
  hoLchan : Option Nat := none

/-- `struct bsc_handover`. -/
structure BscHandover where
  oldLchan : Nat
  newLchan : Nat
  deriving DecidableEq

/-- The type and the connection of each channel, the connections, and the list of handovers. -/
structure HoNet where
  type : Nat → GsmChan := fun _ => .none
  conn : Nat → Option Nat := fun _ => none
  conns : Pool HoConn := .empty
  handovers : List BscHandover := []

namespace HoNet

def setConn (net : HoNet) (l : Nat) (c : Option Nat) : HoNet := { net with conn := update net.conn l c }

def setType (net : HoNet) (l : Nat) (type : GsmChan) : HoNet := { net with type := update net.type l type }

def modifyConn (net : HoNet) (c : Nat) (f : HoConn → HoConn) : HoNet := { net with conns := net.conns.modify c f }

/-- The connection of a channel, if the pointer to it can be followed. -/
def connOf (net : HoNet) (l : Nat) : Option (Nat × HoConn) :=
  (net.conn l).bind fun c => (net.conns.get? c).map fun con => (c, con)

/-- `lchan_release`, as far as it is about the connection. -/
def lchanRelease (net : HoNet) (l : Nat) : HoNet := net.setConn l none

/-- `lchan_release` of a pointer that may be `NULL`, which is then not called. -/
def releaseIf (net : HoNet) (l : Option Nat) : HoNet := l.elim net net.lchanRelease

/-! ## Handovers -/

/-- `bsc_ho_by_new_lchan`. -/
def bscHoByNewLchan (net : HoNet) (l : Nat) : Option BscHandover := net.handovers.find? (·.newLchan == l)

/-- `bsc_ho_by_old_lchan`. -/
def bscHoByOldLchan (net : HoNet) (l : Nat) : Option BscHandover := net.handovers.find? (·.oldLchan == l)

/-- The record is taken from the list. -/
def delHandover (net : HoNet) (ho : BscHandover) : HoNet := { net with handovers := net.handovers.erase ho }

/-- `bsc_handover_start`, where `lchan_alloc` has found a channel and its type, or none; `activates` says whether
    `rsl_chan_activate_lchan` succeeds. -/
def bscHandoverStart (net : HoNet) (old : Nat) (found : Option (Nat × GsmChan)) (activates : Bool) : Option HoNet :=
  if (net.bscHoByOldLchan old).isSome || (net.conn old).isNone then some net
  else
    match found, net.connOf old with
    | none, _ => some net
    | some _, none => none
    | some (new, type), some (c, _) =>
      if activates then
        let net :=
          ((net.setType new type).setConn new (some c)).modifyConn c fun con => { con with hoLchan := some new }
        some { net with handovers := { oldLchan := old, newLchan := new } :: net.handovers }
      else
        -- the channel is freed again, when it has no connection any more
        some ((net.setConn new none).modifyConn c fun con => { con with hoLchan := none })

/-- `bsc_clear_handover`; the new channel is released if `freeLchan` says so, which is all the same to its
    connection. -/
def bscClearHandover (net : HoNet) (c : Nat) : Option HoNet :=
  (net.conns.get? c).map fun con =>
    match con.hoLchan.bind net.bscHoByNewLchan with
    | none => net
    | some ho => ((net.lchanRelease ho.newLchan).modifyConn c fun con => { con with hoLchan := none }).delHandover ho

/-- `ho_T3103_cb`, and what `ho_chan_activ_nack` and `ho_gsm48_ho_fail` do with a record: the new channel is given
    up. -/
def giveUpHandover (net : HoNet) (ho : BscHandover) : Option HoNet :=
  (net.connOf ho.newLchan).map fun (c, _) =>
    ((net.lchanRelease ho.newLchan).modifyConn c fun con => { con with hoLchan := none }).delHandover ho

/-- `ho_chan_activ_nack`. -/
def hoChanActivNack (net : HoNet) (new : Nat) : Option HoNet :=
  (net.bscHoByNewLchan new).elim (some net) net.giveUpHandover

/-- `ho_gsm48_ho_fail`. -/
def hoGsm48HoFail (net : HoNet) (old : Nat) : Option HoNet :=
  (net.bscHoByOldLchan old).elim (some net) net.giveUpHandover

/-- `ho_gsm48_ho_compl`; the name of the subscriber is logged, so the old channel needs its connection as well. -/
def hoGsm48HoCompl (net : HoNet) (new : Nat) : Option HoNet :=
  match net.bscHoByNewLchan new with
  | none => some net
  | some ho =>
    match net.connOf ho.oldLchan, net.connOf new with
    | some _, some (c, _) =>
      some (((net.modifyConn c fun con => { con with hoLchan := none, lchan := some new }).lchanRelease
        ho.oldLchan).delHandover ho)
    | _, _ => none

/-! ## Assignments -/

/-- `gsm0808_assign_req`, with `handle_new_assignment`. -/
def gsm0808AssignReq (net : HoNet) (c : Nat) (found : Option (Nat × GsmChan)) (activates : Bool) : Option HoNet :=
  match (net.conns.get? c).bind (·.lchan) with
  | none => none
  | some l =>
    if net.type l = .sdcch then
      match found with
      | none => some net
      | some (new, type) =>
        if activates then
          some (((net.setType new type).setConn new (some c)).modifyConn c fun con =>
            { con with secondaryLchan := some new })
        else some net
    else some net

/-- `assignment_t10_timeout`. -/
def assignmentT10Timeout (net : HoNet) (c : Nat) : Option HoNet :=
  (net.conns.get? c).map fun con =>
    (net.releaseIf con.secondaryLchan).modifyConn c fun con => { con with secondaryLchan := none }

/-- `handle_ass_compl`, for a message of the right length or not. -/
def handleAssCompl (net : HoNet) (c l : Nat) (valid : Bool) : Option HoNet :=
  match net.conns.get? c with
  | none => none
  | some con =>
    if con.secondaryLchan ≠ some l ∨ valid = false then some net
    else
      con.lchan.map fun old =>
        (net.lchanRelease old).modifyConn c fun con =>
          { con with lchan := con.secondaryLchan, secondaryLchan := none }

/-- `handle_ass_fail`. -/
def handleAssFail (net : HoNet) (c l : Nat) : Option HoNet :=
  match net.conns.get? c with
  | none => none
  | some con =>
    if con.lchan ≠ some l then some net
    else
      con.secondaryLchan.map fun second =>
        (net.lchanRelease second).modifyConn c fun con => { con with secondaryLchan := none }

/-- `handle_chan_ack`: the ASSIGNMENT COMMAND goes over the first channel. -/
def handleChanAck (net : HoNet) (c l : Nat) : Option HoNet :=
  match net.conns.get? c with
  | none => none
  | some con => if con.secondaryLchan = some l then con.lchan.map fun _ => net else some net

/-- `handle_chan_nack`. -/
def handleChanNack (net : HoNet) (c l : Nat) : Option HoNet :=
  (net.conns.get? c).map fun con =>
    if con.secondaryLchan = some l then (net.setConn l none).modifyConn c fun con => { con with secondaryLchan := none }
    else net

/-! ## Connections -/

/-- `gsm0808_clear`. -/
def gsm0808Clear (net : HoNet) (c : Nat) : Option HoNet :=
  (net.conns.get? c).bind fun con =>
    (if con.hoLchan.isSome then net.bscClearHandover c else some net).map fun net =>
      ((net.releaseIf con.secondaryLchan).releaseIf con.lchan).modifyConn c fun _ => {}

/-- `subscr_con_free`. -/
def subscrConFree (net : HoNet) (c : Nat) : Option HoNet :=
  (net.conns.get? c).map fun con =>
    { ((net.releaseIf con.hoLchan).releaseIf con.lchan).releaseIf con.secondaryLchan with conns := net.conns.remove c }

/-- `gsm0408_rcvmsg`, for the first message on an active channel: the connection is allocated, and freed again unless
    the message is accepted. -/
def firstMessage (net : HoNet) (l : Nat) (accepted : Bool) : HoNet :=
  let c := net.conns.next
  let net := { net with conns := net.conns.alloc { lchan := some l } }
  if accepted then net.setConn l (some c) else { net.lchanRelease l with conns := net.conns.remove c }

/-- `handle_release`; `destruct` is what `clear_request` returns. -/
def handleRelease (net : HoNet) (c l : Nat) (destruct : Bool) : Option HoNet :=
  (net.conns.get? c).bind fun con =>
    let net :=
      if con.secondaryLchan = some l then net.modifyConn c fun con => { con with secondaryLchan := none } else net
    let net := if con.lchan = some l then net.modifyConn c fun con => { con with lchan := none } else net
    let cleared := if con.hoLchan = some l then
        (net.bscClearHandover c).map (·.modifyConn c fun con => { con with hoLchan := none })
      else some net
    (cleared.bind fun net => (net.setConn l none).gsm0808Clear c).bind fun net =>
      if destruct then net.subscrConFree c else some net

/-- `lchan_free`: the connection is told if there is one. The type, which nobody reads there, is `NONE` by then. -/
def lchanFree (net : HoNet) (l : Nat) (destruct : Bool) : Option HoNet :=
  ((net.conn l).elim (some net) fun c => net.handleRelease c l destruct).map fun net =>
    (net.setConn l none).setType l .none

/-- `rsl_rx_chan_act_nack`: the handlers of the signal, and the channel is freed. -/
def chanActNack (net : HoNet) (l : Nat) (destruct : Bool) : Option HoNet := do
  let net ← (net.conn l).elim (some net) fun c => net.handleChanNack c l
  let net ← net.hoChanActivNack l
  net.lchanFree l destruct

end HoNet

/-! ## Runs -/

/-- What happens. Channels are allocated for a phone that asks for one, for an assignment or a handover; messages come
    on channels; the timers expire; the MSC clears a connection. -/
inductive HoEvent where
  | alloc (l : Nat) (type : GsmChan)
  | firstMessage (l : Nat) (accepted : Bool)
  | assignReq (c : Nat) (found : Option (Nat × GsmChan)) (activates : Bool)
  | assCompl (l : Nat) (valid : Bool)
  | assFail (l : Nat)
  | t10 (c : Nat)
  | handover (old : Nat) (found : Option (Nat × GsmChan)) (activates : Bool)
  | hoCompl (new : Nat)
  | hoFail (old : Nat)
  | t3103 (ho : BscHandover)
  | chanActAck (l : Nat)
  | chanActNack (l : Nat) (destruct : Bool)
  | lchanFree (l : Nat) (destruct : Bool)
  | clear (c : Nat)

namespace HoNet

/-- The handler of an event. A message on a channel without a connection does not reach these handlers. -/
def handle (net : HoNet) : HoEvent → Option HoNet
  | .alloc l type => some (net.setType l type)
  | .firstMessage l accepted => some (net.firstMessage l accepted)
  | .assignReq c found activates => net.gsm0808AssignReq c found activates
  | .assCompl l valid => (net.conn l).elim (some net) fun c => net.handleAssCompl c l valid
  | .assFail l => (net.conn l).elim (some net) fun c => net.handleAssFail c l
  | .t10 c => net.assignmentT10Timeout c
  | .handover old found activates => net.bscHandoverStart old found activates
  | .hoCompl new => net.hoGsm48HoCompl new
  | .hoFail old => net.hoGsm48HoFail old
  | .t3103 ho => net.giveUpHandover ho
  | .chanActAck l => (net.conn l).elim (some net) fun c => net.handleChanAck c l
  | .chanActNack l destruct => net.chanActNack l destruct
  | .lchanFree l destruct => net.lchanFree l destruct
  | .clear c => (net.gsm0808Clear c).bind (·.subscrConFree c)

/-- `lchan_alloc` finds channels that are free. -/
def Finds (net : HoNet) (found : Option (Nat × GsmChan)) : Prop :=
  ∀ l type, found = some (l, type) → net.type l = .none ∧ type ≠ .none

/-- What can happen: channels that are found are free, a connection is made for a channel that has none, and the MSC and
    the timers know only connections and handovers that there are. -/
def Possible (net : HoNet) : HoEvent → Prop
  | .alloc l type => net.Finds (some (l, type))
  | .firstMessage l _ => net.type l ≠ .none ∧ net.conn l = none
  | .assignReq c found _ => (net.conns.get? c).isSome ∧ net.Finds found
  | .handover _ found _ => net.Finds found
  | .t10 c | .clear c => (net.conns.get? c).isSome
  | .t3103 ho => ho ∈ net.handovers
  | _ => True

end HoNet

/-- The network, from its start. -/
def hoSystem : System HoNet HoEvent where
  init net := net = {}
  step net ev net' := net.Possible ev ∧ net.handle ev = some net'

end OpenBsc.Libbsc
