import Mathlib.Tactic.Common
import OpenBsc.Lib.Transition

/-!
# `OsmoBsc.MscLink` — the link of a BSC to its MSC (`bsc_msc.c`, `osmo_bsc_msc.c`)

The link is connected, connecting or waiting, which no field says: it follows from a descriptor, its callback, a flag
and four timers. Of libosmocore only this is modelled: a timer is set for a time, or not; a descriptor that is
registered is handed to its callback when it is ready for what it waits for; a write queue holds so many messages.

What the sockets and the MSC do is left to the events, and so is which of two timers that are due runs first, and how
late they are. A message that another part of the BSC sends is an event, too; of what the MSC sends, the messages that
have nothing to do with the link are one.
-/

namespace OpenBsc.OsmoBsc

open Transition

/-! ## The link -/

/-- `fd->fd`: −1, a socket, or the number of one that was closed. -/
inductive Descriptor where
  | invalid | opened | closed
  deriving DecidableEq

/-- `fd->cb`. -/
inductive FdCallback where
  | osmoWqueueBfdCb
  | mscConnectionConnect

/-- `BSC_FD_*`: what a descriptor waits for, or is ready for. -/
structure FdFlags where
  read : Bool := false
  write : Bool := false
  except : Bool := false

/-- The messages of the link itself, and those of others. -/
inductive MscMsg where
  | ping
  | idResp (token : String)
  | reset
  | lacs
  | other (nr : Nat)

/-- What becomes of the link; a PING has its time and the time to wait for the PONG. -/
inductive MscEffect where
  | connected
  | lost
  | ping (sent wait : Int)
  | pong

/-- `struct bsc_msc_dest`. -/
structure BscMscDest where
  ip : String
  port : Int
  dscp : Int

/-- What is configured of it: where the MSCs are, the timeouts, a token, and whether there is a BTS. -/
structure MscConfig where
  dests : List BscMscDest
  pingTimeout : Int := 20
  pongTimeout : Int := 5
  bscToken : Option String := none
  bts : Bool := true

/-- `struct osmo_msc_data` with its `struct bsc_msc_connection` and the descriptor of that; the timers by the time they
    are set for. -/
structure MscLink where
  config : MscConfig
  fd : Descriptor := .invalid
  cb : FdCallback := .osmoWqueueBfdCb
  when : FdFlags := {}
  registered : Bool := false
  msgQueue : List MscMsg := []
  isConnected : Bool := false
  isAuthenticated : Bool := false
  reconnectTimer : Option Int := none
  timeoutTimer : Option Int := none
  pingTimer : Option Int := none
  pongTimer : Option Int := none
  now : Int := 0
  log : List MscEffect := []

namespace MscLink

def emit (s : MscLink) (effect : MscEffect) : MscLink := { s with log := s.log ++ [effect] }

/-! ## Losing it -/

/-- `bsc_msc_schedule_connect`. -/
def bscMscScheduleConnect (s : MscLink) : MscLink := { s with reconnectTimer := some (s.now + 5) }

/-- `msc_connection_was_lost`. -/
def mscConnectionWasLost (s : MscLink) : MscLink :=
  let s := { s with pingTimer := none, pongTimer := none }
  let s := s.emit .lost
  { s with isAuthenticated := false }.bscMscScheduleConnect

/-- `connection_loss`. -/
def connectionLoss (s : MscLink) : MscLink :=
  mscConnectionWasLost
    { s with fd := .invalid, cb := .osmoWqueueBfdCb, when := {}, isConnected := false }

/-- `osmo_fd_unregister`. -/
def osmoFdUnregister (s : MscLink) : MscLink := { s with registered := false }

/-- `bsc_msc_lost`. -/
def bscMscLost (s : MscLink) : MscLink :=
  let s := { s with msgQueue := [], timeoutTimer := none }
  connectionLoss (if s.fd = .invalid then s else s.osmoFdUnregister)

/-! ## Sending -/

/-- `msc_queue_write`; the queue was made for a hundred messages. -/
def mscQueueWrite (s : MscLink) (msg : MscMsg) : MscLink :=
  if s.msgQueue.length < 100 then
    { s with msgQueue := s.msgQueue ++ [msg], when := { s.when with write := true } }
  else s

/-- `msc_ping_timeout_cb`. -/
def mscPingTimeoutCb (s : MscLink) : MscLink :=
  if s.config.pingTimeout < 0 then s
  else
    let s := (s.mscQueueWrite .ping).emit (.ping s.now s.config.pongTimeout)
    let s := { s with pingTimer := some (s.now + s.config.pingTimeout) }
    -- a PONG that is waited for already is waited for anew
    { s with pongTimer := some (s.now + s.config.pongTimeout) }

/-- `msc_pong_timeout_cb`. -/
def mscPongTimeoutCb (s : MscLink) : MscLink := s.bscMscLost

/-- `send_lacs`. -/
def sendLacs (s : MscLink) : MscLink := if s.config.bts then s.mscQueueWrite .lacs else s

/-- `send_id_get_response`. -/
def sendIdGetResponse (s : MscLink) : MscLink :=
  match s.config.bscToken with
  | none => s
  | some token => s.mscQueueWrite (.idResp token)

/-- `initialize_if_needed`. -/
def initializeIfNeeded (s : MscLink) : MscLink :=
  if s.isAuthenticated then s else { s.mscQueueWrite .reset with isAuthenticated := true }

end MscLink

/-! ## Connecting -/

/-- What `connect` says of a socket. -/
inductive ConnectResult where
  | done | inProgress | failed

/-- How an attempt to connect goes: whether there is a socket, whether it can be made non-blocking, what `connect` says
    of it and whether it can be registered. -/
structure ConnectAttempt where
  socket : Bool := true
  nonblocking : Bool := true
  connect : ConnectResult := .inProgress
  register : Bool := true

/-- The result of `connect`, which is called for −1 as well. -/
def ConnectAttempt.result (attempt : ConnectAttempt) (fd : Descriptor) : ConnectResult :=
  match fd with
  | .opened => attempt.connect
  | _ => .failed

namespace MscLink

/-- `msc_connection_connected`. -/
def mscConnectionConnected (s : MscLink) : MscLink := s.mscPingTimeoutCb.emit .connected

/-- `osmo_fd_register`, and what `bsc_msc_connect` does if it fails. -/
def osmoFdRegister (s : MscLink) (attempt : ConnectAttempt) : MscLink :=
  if attempt.register then { s with registered := true } else { s with fd := .closed }

/-- `bsc_msc_connect`. -/
def bscMscConnect (s : MscLink) (attempt : ConnectAttempt) : MscLink :=
  match s.config.dests with
  | [] => s.connectionLoss
  | dest :: dests =>
    -- move to the next connection
    let s := { s with config := { s.config with dests := dests ++ [dest] }, isConnected := false }
    if !attempt.socket then { s with fd := .invalid }
    else
      let s := { s with fd := if attempt.nonblocking then .opened else .invalid }
      match attempt.result s.fd with
      | .inProgress =>
        osmoFdRegister
          { s with
            when := { write := true }
            cb := .mscConnectionConnect
            timeoutTimer := some (s.now + 20) } attempt
      | .failed => s.connectionLoss
      | .done =>
        let s :=
          { s with
            when := { read := true, except := true }
            cb := .osmoWqueueBfdCb
            isConnected := true }
        s.mscConnectionConnected.osmoFdRegister attempt

/-- `msc_connection_connect`; `error` if the socket has one, or will not say. -/
def mscConnectionConnect (s : MscLink) (what : FdFlags) (error : Bool) : MscLink :=
  if !what.write then s
  else
    -- from here on it will either be connected or reconnect
    let s := { s with timeoutTimer := none }
    if error then s.osmoFdUnregister.connectionLoss
    else
      mscConnectionConnected
        { s with
          cb := .osmoWqueueBfdCb
          when := { read := true, except := true }
          isConnected := true }

end MscLink

/-! ## Receiving -/

/-- What comes from the MSC: the end of the stream, what cannot be read, or a message. -/
inductive MscRecv where
  | closed
  | unreadable
  | idAck
  | idGet
  | pong
  | lac
  | other

namespace MscLink

/-- `ipaccess_a_fd_cb`. -/
def ipaccessAFdCb (s : MscLink) : MscRecv → MscLink
  | .closed => s.bscMscLost
  | .unreadable => s
  | .idAck => s.initializeIfNeeded
  | .idGet => s.sendIdGetResponse
  | .pong => { s with pongTimer := none }.emit .pong
  | .lac => s.sendLacs
  | .other => s

/-- `osmo_wqueue_bfd_cb`: what can be read is read, then what waits is written. -/
def osmoWqueueBfdCb (s : MscLink) (what : FdFlags) (recv : MscRecv) : MscLink :=
  let s := if what.read then s.ipaccessAFdCb recv else s
  if what.write then
    match s.msgQueue with
    | [] => { s with when := { s.when with write := false } }
    | _ :: rest => { s with msgQueue := rest, when := { s.when with write := !rest.isEmpty } }
  else s

end MscLink

/-! ## Steps -/

/-- The timers of the link. -/
inductive MscTimer where
  | reconnect | timeout | ping | pong

/-- What can happen to the link. -/
inductive MscEvent where
  /-- The descriptor is ready; what is read from it, and whether the socket has an error. -/
  | ready (what : FdFlags) (recv : MscRecv) (error : Bool)
  /-- A timer expires; how an attempt to connect would go. -/
  | expire (timer : MscTimer) (attempt : ConnectAttempt)
  /-- Time passes. -/
  | elapse (seconds : Nat)
  /-- Another part of the BSC sends a message. -/
  | send (nr : Nat)
  /-- `SIGUSR2`. -/
  | drop
  /-- The operator changes the configuration. -/
  | configure (config : MscConfig)

namespace MscLink

/-- The time a timer is set for. -/
def timer (s : MscLink) : MscTimer → Option Int
  | .reconnect => s.reconnectTimer
  | .timeout => s.timeoutTimer
  | .ping => s.pingTimer
  | .pong => s.pongTimer

/-- A timer that expires is not set any more, then its callback is called. -/
def expire (s : MscLink) (attempt : ConnectAttempt) : MscTimer → MscLink
  | .reconnect => { s with reconnectTimer := none }.bscMscConnect attempt
  | .timeout => { s with timeoutTimer := none }.bscMscLost
  | .ping => { s with pingTimer := none }.mscPingTimeoutCb
  | .pong => { s with pongTimer := none }.mscPongTimeoutCb

/-- A registered descriptor is ready for what it waits for. There is no urgent data. -/
def Ready (s : MscLink) (what : FdFlags) : Prop :=
  s.registered ∧ (what.read → s.when.read) ∧ (what.write → s.when.write) ∧ ¬ what.except

/-- A timer is due. -/
def Due (s : MscLink) (timer : MscTimer) : Prop := ∃ due, s.timer timer = some due ∧ due ≤ s.now

/-- What can happen in a state. -/
def Enabled (s : MscLink) : MscEvent → Prop
  | .ready what _ _ => s.Ready what
  | .expire timer _ => s.Due timer
  | _ => True

def step (s : MscLink) : MscEvent → MscLink
  | .ready what recv error =>
    match s.cb with
    | .osmoWqueueBfdCb => s.osmoWqueueBfdCb what recv
    | .mscConnectionConnect => s.mscConnectionConnect what error
  | .expire timer attempt => s.expire attempt timer
  | .elapse seconds => { s with now := s.now + seconds }
  | .send nr => s.mscQueueWrite (.other nr)
  | .drop => if s.isConnected then s.bscMscLost else s
  | .configure config => { s with config := config }

end MscLink

/-- `osmo_bsc_msc_init`. -/
def osmoBscMscInit (config : MscConfig) (attempt : ConnectAttempt) : MscLink :=
  MscLink.bscMscConnect { config := config } attempt

/-- The link of a BSC that was started with a configuration, and with that outcome of its first attempt to connect. -/
def mscSystem (config : MscConfig) (attempt : ConnectAttempt) : System MscLink MscEvent where
  init s := s = osmoBscMscInit config attempt
  step s ev s' := s.Enabled ev ∧ s' = s.step ev

end OpenBsc.OsmoBsc
