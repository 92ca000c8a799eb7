import Mathlib.Logic.Function.Basic
import OpenBsc.Lib.Pool
import OpenBsc.Lib.Transition

/-!
# `OsmoBsc.Sccp` — the connections of a BSC to its MSC (`osmo_bsc_sccp.c`, `osmo_bsc_api.c`, `osmo_bsc_bssap.c`)

A mobile station on a channel has a subscriber connection. Its first message opens an SCCP connection to the MSC; the
record of that connection and the subscriber connection point to each other until one side lets go. Subscriber
connections, records and SCCP connections are records of a `Pool`, and a pointer is the identity it had when it was
set. A function that follows a pointer to nothing, or to something that was freed, has no result.

Of libosmo-sccp only this is modelled: a connection has a state, each change of it is reported to the callback, and
`sccp_connection_connect` may change it at once. Channels are numbers; what a channel is good for is left to the
events, and no second channel is assigned. A message to the MSC is the number under which it was created.
-/

namespace OpenBsc.OsmoBsc

open Transition

/-! ## Records -/

/-- `SCCP_CONNECTION_STATE_*` of libosmo-sccp, in their order. -/
inductive SccpConnectionState where
  | none | request | confirm | established | release | releaseComplete | refused | setupError
  deriving DecidableEq

/-- States are compared by their place in the enumeration. -/
def SccpConnectionState.toNat : SccpConnectionState → Nat
  | .none => 0
  | .request => 1
  | .confirm => 2
  | .established => 3
  | .release => 4
  | .releaseComplete => 5
  | .refused => 6
  | .setupError => 7

/-- `struct sccp_connection`, with the context of its callbacks. -/
structure SccpConnection where
  connectionState : SccpConnectionState := .none
  dataCtx : Option Nat

/-- `struct osmo_bsc_sccp_con`; the timers are pending or not. -/
structure OsmoBscSccpCon where
  cipheringHandled : Bool := false
  sccp : Option Nat
  sccpItTimeout : Bool := false
  sccpCcTimeout : Bool := false
  sccpQueue : List Nat := []
  sccpQueueSize : BitVec 32 := 0
  conn : Option Nat
  newSubscriber : Bool := false

/-- `struct gsm_subscriber_connection`. -/
structure GsmSubscriberConnection where
  lchan : Option Nat
  sccpCon : Option Nat := none

/-- Why a message is dropped: the connection is in that state, so many messages wait, or the connection is ended. -/
inductive DropCause where
  | closing (state : SccpConnectionState)
  | waiting (size : Nat)
  | forceFree

/-- What becomes of messages to the MSC, by the record of their connection. -/
inductive SccpEffect where
  | submitted (r nr : Nat)
  | established (r : Nat)
  | written (r nr : Nat)
  | dropped (r nr : Nat) (cause : DropCause)

/-- A BSC: `sub_connections`, `active_connections`, the connections of libosmo-sccp, `lchan->conn` of each channel, the
    number of the next message, and what became of messages. -/
structure Bsc where
  conns : Pool GsmSubscriberConnection := .empty
  cons : Pool OsmoBscSccpCon := .empty
  sccps : Pool SccpConnection := .empty
  lchanConn : Nat → Option Nat := fun _ => none
  nextMsgb : Nat := 0
  log : List SccpEffect := []

namespace Bsc

def emit (s : Bsc) (effects : List SccpEffect) : Bsc := { s with log := s.log ++ effects }

/-- A change of the record `r`. -/
def modifyCon (s : Bsc) (r : Nat) (f : OsmoBscSccpCon → OsmoBscSccpCon) : Bsc := { s with cons := s.cons.modify r f }

def modifyConn (s : Bsc) (c : Nat) (f : GsmSubscriberConnection → GsmSubscriberConnection) : Bsc :=
  { s with conns := s.conns.modify c f }

/-! ## The radio side -/

/-- `lchan_release`, which takes the channel from its connection. -/
def lchanRelease (s : Bsc) (l : Nat) : Bsc := { s with lchanConn := Function.update s.lchanConn l none }

/-- The channel of a connection, if it has one, is told that it has none. -/
def dropLchan (s : Bsc) (lchan : Option Nat) : Bsc :=
  match lchan with
  | none => s
  | some l => s.lchanRelease l

/-- `gsm0808_clear`. -/
def gsm0808Clear (s : Bsc) (c : Nat) : Option Bsc :=
  (s.conns.get? c).map fun conn => (s.dropLchan conn.lchan).modifyConn c fun conn => { conn with lchan := none }

/-- `subscr_con_free`; the channel should have been cleared. -/
def subscrConFree (s : Bsc) (c : Nat) : Option Bsc :=
  (s.conns.get? c).map fun conn =>
    let s := s.dropLchan conn.lchan
    { s with conns := s.conns.remove c }

/-- The subscriber connection of a record, if there is one, is cleared and freed. -/
def clearConn (s : Bsc) (r : Nat) : Option Bsc := do
  let con ← s.cons.get? r
  match con.conn with
  | none => some s
  | some c =>
    let s ← s.gsm0808Clear c
    let s ← s.subscrConFree c
    some (s.modifyCon r fun con => { con with conn := none })

/-! ## The queue -/

/-- `free_queued`. -/
def freeQueued (s : Bsc) (r : Nat) (cause : DropCause) : Option Bsc :=
  (s.cons.get? r).map fun con =>
    (s.modifyCon r fun con => { con with sccpQueue := [], sccpQueueSize := 0 }).emit
      (con.sccpQueue.map fun nr => .dropped r nr cause)

/-- One round of `send_queued`. -/
def sendFirst (r : Nat) (s : Bsc) (nr : Nat) : Bsc :=
  (s.modifyCon r fun con =>
    { con with sccpQueue := con.sccpQueue.tail, sccpQueueSize := con.sccpQueueSize - 1 }).emit [.written r nr]

/-- `send_queued`. -/
def sendQueued (s : Bsc) (r : Nat) : Option Bsc := do
  let con ← s.cons.get? r
  let k ← con.sccp
  let _ ← s.sccps.get? k
  some (con.sccpQueue.foldl (sendFirst r) s)

/-- `bsc_queue_for_msc`. -/
def bscQueueForMsc (s : Bsc) (r nr : Nat) : Option Bsc := do
  let con ← s.cons.get? r
  let k ← con.sccp
  let sccp ← s.sccps.get? k
  let s := s.emit [.submitted r nr]
  if SccpConnectionState.established.toNat < sccp.connectionState.toNat then
    some (s.emit [.dropped r nr (.closing sccp.connectionState)])
  else if sccp.connectionState = .established ∧ con.sccpQueueSize = 0 then some (s.emit [.written r nr])
  else if 10 < con.sccpQueueSize.toNat then some (s.emit [.dropped r nr (.waiting con.sccpQueueSize.toNat)])
  else
    some (s.modifyCon r fun con =>
      { con with sccpQueueSize := con.sccpQueueSize + 1, sccpQueue := con.sccpQueue ++ [nr] })

/-- `queue_msg_or_return`; `resp` says whether the message could be created. -/
def queueMsgOrReturn (s : Bsc) (r : Nat) (resp : Bool) : Option Bsc :=
  if resp then { s with nextMsgb := s.nextMsgb + 1 }.bscQueueForMsc r s.nextMsgb else some s

/-! ## The life of a connection -/

/-- `sccp_connection_free` and `sccp_connection_force_free`, for a connection that is not open or is to be gone. -/
def sccpConnectionFree (s : Bsc) (k : Nat) : Option Bsc :=
  (s.sccps.get? k).map fun _ => { s with sccps := s.sccps.remove k }

/-- `bsc_delete_connection`. -/
def bscDeleteConnection (s : Bsc) (r : Nat) : Option Bsc :=
  (s.cons.get? r).map fun _ => { s with cons := s.cons.remove r }

/-- `msc_outgoing_sccp_state`, for the connection `k`. -/
def mscOutgoingSccpState (s : Bsc) (k : Nat) : Option Bsc := do
  let conn ← s.sccps.get? k
  if SccpConnectionState.releaseComplete.toNat ≤ conn.connectionState.toNat then
    let r ← conn.dataCtx
    let s ← s.clearConn r
    let s := s.modifyCon r fun con => { con with sccp := none }
    let s ← s.freeQueued r (.closing conn.connectionState)
    let s ← s.sccpConnectionFree k
    s.bscDeleteConnection r
  else if conn.connectionState = .established then
    let r ← conn.dataCtx
    let _ ← s.cons.get? r
    ((s.modifyCon r fun con => { con with sccpCcTimeout := false, sccpItTimeout := true }).emit
      [.established r]).sendQueued r
  else some s

/-- libosmo-sccp changes the state of a connection. -/
def setConnectionState (s : Bsc) (k : Nat) (state : SccpConnectionState) : Option Bsc :=
  { s with sccps := s.sccps.modify k fun conn => { conn with connectionState := state } }.mscOutgoingSccpState k

/-- `bsc_sccp_force_free`. -/
def bscSccpForceFree (s : Bsc) (r : Nat) : Option Bsc := do
  let s ← s.clearConn r
  let s ← s.freeQueued r .forceFree
  let data ← s.cons.get? r
  let k ← data.sccp
  let s ← s.sccpConnectionFree k
  let s := s.modifyCon r fun con => { con with sccp := none }
  s.bscDeleteConnection r

/-- `sccp_it_timeout`, for a timer that has expired. -/
def sccpItTimeout (s : Bsc) (r : Nat) : Option Bsc := do
  let data ← s.cons.get? r
  let k ← data.sccp
  let _ ← s.sccps.get? k
  some (s.modifyCon r fun con => { con with sccpItTimeout := true })

/-- `sccp_cc_timeout`. -/
def sccpCcTimeout (s : Bsc) (r : Nat) : Option Bsc := do
  let data ← s.cons.get? r
  let k ← data.sccp
  let sccp ← s.sccps.get? k
  if SccpConnectionState.established.toNat ≤ sccp.connectionState.toNat then some s else s.bscSccpForceFree r

/-- `bsc_close_connections`, from the connection that was opened last. -/
def bscCloseConnections (s : Bsc) : Option Bsc := s.cons.ids.reverse.foldlM bscSccpForceFree s

end Bsc

/-- What a complete layer 3 message meets: an MSC or none, the grace period, an allocation that fails, a message that
    cannot be created, and the state that `sccp_connection_connect` sets, if it sets one. -/
structure ComplL3 where
  isAuthenticated : Bool := true
  graceAllows : Bool := true
  sccpLeft : Bool := true
  conLeft : Bool := true
  locUpdRequest : Bool := false
  resp : Bool := true
  connect : Option SccpConnectionState := some .request

namespace Bsc

/-- `bsc_create_new_connection`, and whether it returns 0. -/
def bscCreateNewConnection (s : Bsc) (c : Nat) (given : ComplL3) : Option (Bsc × Bool) := do
  let _ ← s.conns.get? c
  if given.isAuthenticated && given.graceAllows && given.sccpLeft then
    let k := s.sccps.next
    let s := { s with sccps := s.sccps.alloc { dataCtx := none } }
    if given.conLeft then
      let r := s.cons.next
      let s := { s with
        sccps := s.sccps.modify k fun sccp => { sccp with dataCtx := some r }
        cons := s.cons.alloc { sccp := some k, conn := some c } }
      some (s.modifyConn c fun conn => { conn with sccpCon := some r }, true)
    else (s.sccpConnectionFree k).map fun s => (s, false)
  else some (s, false)

/-- `bsc_open_connection`. -/
def bscOpenConnection (s : Bsc) (r : Nat) (connect : Option SccpConnectionState) : Option Bsc := do
  let con ← s.cons.get? r
  let s := s.modifyCon r fun con => { con with sccpCcTimeout := true }
  let k ← con.sccp
  let _ ← s.sccps.get? k
  match connect with
  | none => some s
  | some state => s.setConnectionState k state

/-! ## The BSC API and the MSC -/

/-- `bsc_scan_bts_msg`, for a location updating request with another location area, on the connection `c`. -/
def bscScanBtsMsg (s : Bsc) (c : Nat) (locUpdRequest : Bool) : Option Bsc := do
  let conn ← s.conns.get? c
  if locUpdRequest then
    let r ← conn.sccpCon
    let _ ← s.cons.get? r
    some (s.modifyCon r fun con => { con with newSubscriber := true })
  else some s

/-- `bsc_compl_l3`, and whether the connection is accepted. -/
def bscComplL3 (s : Bsc) (c : Nat) (given : ComplL3) : Option (Bsc × Bool) := do
  let (s, created) ← s.bscCreateNewConnection c given
  if created then
    let s ← s.bscScanBtsMsg c given.locUpdRequest
    let conn ← s.conns.get? c
    let r ← conn.sccpCon
    if given.resp then
      let s ← s.bscOpenConnection r given.connect
      some (s, true)
    else
      let con ← s.cons.get? r
      let k ← con.sccp
      let s ← s.sccpConnectionFree k
      let s ← s.bscDeleteConnection r
      some (s, false)
  else some (s, false)

/-- A message for the MSC from a subscriber connection that has none unless it was accepted: `bsc_sapi_n_reject`,
    `bsc_cipher_mode_compl`, `bsc_dtap`, `bsc_assign_compl`, `bsc_assign_fail`. -/
def bscApiMsg (s : Bsc) (c : Nat) (locUpdRequest resp : Bool) : Option Bsc := do
  let conn ← s.conns.get? c
  match conn.sccpCon with
  | none => some s
  | some r =>
    let s ← s.bscScanBtsMsg c locUpdRequest
    s.queueMsgOrReturn r resp

/-- `bsc_clear_request`. -/
def bscClearRequest (s : Bsc) (c : Nat) (resp : Bool) : Option Bsc := do
  let conn ← s.conns.get? c
  match conn.sccpCon with
  | none => some s
  | some r =>
    let _ ← s.cons.get? r
    let s := s.modifyCon r fun con => { con with conn := none }
    let s := s.modifyConn c fun conn => { conn with sccpCon := none }
    s.queueMsgOrReturn r resp

/-- `handle_release` of `bsc_api.c`. -/
def handleRelease (s : Bsc) (c l : Nat) (resp : Bool) : Option Bsc := do
  let s ← s.bscClearRequest c resp
  let _ ← s.conns.get? c
  let s := s.modifyConn c fun conn => if conn.lchan = some l then { conn with lchan := none } else conn
  let s := s.lchanRelease l
  let s ← s.gsm0808Clear c
  s.subscrConFree c

/-- `gsm0408_rcvmsg`: the first message on a channel, or one more. -/
def gsm0408Rcvmsg (s : Bsc) (l : Nat) (given : ComplL3) : Option Bsc :=
  match s.lchanConn l with
  | some c => s.bscApiMsg c given.locUpdRequest given.resp
  | none => do
      let c := s.conns.next
      let s :=
        { s with conns := s.conns.alloc { lchan := some l }, lchanConn := Function.update s.lchanConn l (some c) }
      let (s, accepted) ← s.bscComplL3 c given
      if accepted then some s
      else
        let c ← s.lchanConn l
        let _ ← s.conns.get? c
        let s := s.modifyConn c fun conn => { conn with lchan := none }
        let s ← s.subscrConFree c
        some (s.lchanRelease l)

/-- `bssmap_handle_clear_command`. -/
def bssmapHandleClearCommand (s : Bsc) (r : Nat) (resp : Bool) : Option Bsc := do
  let s ← s.clearConn r
  s.queueMsgOrReturn r resp

/-- `bssmap_handle_cipher_mode`; `selected` says whether an algorithm can be selected. -/
def bssmapHandleCipherMode (s : Bsc) (r : Nat) (selected resp : Bool) : Option Bsc := do
  let con ← s.cons.get? r
  match con.conn with
  | none => s.queueMsgOrReturn r resp
  | some c =>
    if con.cipheringHandled then s.queueMsgOrReturn r resp
    else
      let s := s.modifyCon r fun con => { con with cipheringHandled := true }
      let _ ← s.conns.get? c
      if selected then some s else s.queueMsgOrReturn r resp

/-- `bssmap_handle_assignm_req`; a request that asks for a channel that is there is left to the radio side. -/
def bssmapHandleAssignmReq (s : Bsc) (r : Nat) (served resp : Bool) : Option Bsc := do
  let con ← s.cons.get? r
  match con.conn with
  | none => some s
  | some c =>
    let _ ← s.conns.get? c
    if served then some s else s.queueMsgOrReturn r resp

/-- `dtap_rcvmsg`, with `bsc_scan_msc_msg` for a location updating accept. -/
def dtapRcvmsg (s : Bsc) (r : Nat) (locUpdAccept : Bool) : Option Bsc := do
  let con ← s.cons.get? r
  match con.conn with
  | none => some s
  | some c =>
    let conn ← s.conns.get? c
    if locUpdAccept then
      let r ← conn.sccpCon
      let _ ← s.cons.get? r
      some s
    else some s

end Bsc

/-! ## Steps -/

/-- A message of the MSC on a connection. -/
inductive Dt1 where
  | clearCmd (resp : Bool)
  | cipherModeCmd (selected resp : Bool)
  | assignmentRqst (served resp : Bool)
  | dtap (locUpdAccept : Bool)
  | other

inductive BscEvent where
  /-- A message on the channel `l`. -/
  | layer3 (l : Nat) (given : ComplL3)
  /-- Something else to tell the MSC about the connection on the channel `l`. -/
  | report (l : Nat) (resp : Bool)
  /-- `S_LCHAN_UNEXPECTED_RELEASE`. -/
  | radioFailure (l : Nat) (resp : Bool)
  | dt1 (k : Nat) (msg : Dt1)
  | sccpState (k : Nat) (state : SccpConnectionState)
  | ccTimeout (r : Nat)
  | itTimeout (r : Nat)
  /-- `S_MSC_LOST`. -/
  | mscLost

namespace Bsc

/-- `bsc_handle_dt1`, for the record that is the context of the connection. -/
def bscHandleDt1 (s : Bsc) (r : Nat) : Dt1 → Option Bsc
  | .clearCmd resp => s.bssmapHandleClearCommand r resp
  | .cipherModeCmd selected resp => s.bssmapHandleCipherMode r selected resp
  | .assignmentRqst served resp => s.bssmapHandleAssignmReq r served resp
  | .dtap locUpdAccept => s.dtapRcvmsg r locUpdAccept
  | .other => some s

/-- One event. Nothing happens on a channel without a connection, on an SCCP connection that is gone, or with a timer
    that is not pending. -/
def step (s : Bsc) : BscEvent → Option Bsc
  | .layer3 l given => s.gsm0408Rcvmsg l given
  | .report l resp =>
    match s.lchanConn l with
    | none => some s
    | some c => s.bscApiMsg c false resp
  | .radioFailure l resp =>
    match s.lchanConn l with
    | none => some s
    | some c => s.handleRelease c l resp
  | .dt1 k msg =>
    match s.sccps.get? k with
    | none => some s
    | some sccp => sccp.dataCtx.bind fun r => s.bscHandleDt1 r msg
  | .sccpState k state => if (s.sccps.get? k).isSome then s.setConnectionState k state else some s
  | .ccTimeout r =>
    if (s.cons.get? r).any (·.sccpCcTimeout) then
      (s.modifyCon r fun con => { con with sccpCcTimeout := false }).sccpCcTimeout r
    else some s
  | .itTimeout r =>
    if (s.cons.get? r).any (·.sccpItTimeout) then
      (s.modifyCon r fun con => { con with sccpItTimeout := false }).sccpItTimeout r
    else some s
  | .mscLost => s.bscCloseConnections

end Bsc

/-- A BSC without connections, with any events in any order. -/
def bscSystem : System Bsc BscEvent where
  init s := s = {}
  step s ev s' := s.step ev = some s'

end OpenBsc.OsmoBsc
