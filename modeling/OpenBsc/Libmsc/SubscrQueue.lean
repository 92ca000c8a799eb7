import OpenBsc.Libmsc.SmsQueue

/-!
# `Libmsc.SubscrQueue` — channel requests of a subscriber (`gsm_subscriber.c`, `paging.c`)

Whoever needs a channel to a subscriber puts a request into its queue. The head of the queue is paged on every BTS of
the location area; the outcome is given to the callback of the head, and the next request is paged when the channel is
put or the paging failed.

The callback may itself ask for channels, so what is left to do after it is kept on an explicit stack.
-/

namespace OpenBsc.Libmsc

open Transition

/-! ## Data -/

/-- A BTS, as far as paging looks at it. -/
structure PagingBts where
  nr : Nat
  locationAreaCode : Nat
  usable : Bool := true

/-- `struct gsm_paging_request` of the subscriber, which remembers the channel request it was made for. -/
structure GsmPagingRequest where
  bts : Nat
  request : Nat
  /-- It was sent at least once. -/
  sent : Bool := false

/-- A security operation that ends in `subscr_paging_sec_cb`. -/
structure PagingSecOp where
  conn : Nat
  request : Nat
  deriving DecidableEq

/-- A callback was invoked: the request it belongs to, the one whose paging had this outcome, and the outcome. -/
structure PagingOutcome where
  request : Nat
  pagedFor : Option Nat
  event : PagingEvent

/-- What is left to do when a callback returns. -/
inductive PagingCont where
  /-- The rest of `subscr_paging_dispatch`. -/
  | dispatch (event : PagingEvent)
  /-- The rest of `paging_request_stop`, on the BTS of the paging response. -/
  | pagingStop (bts : Nat)

/-- How `gsm48_secure_channel` begins: the callback is invoked at once, another operation is pending, or an operation
    was started. -/
inductive SecureStart where
  | secured | busy | started
  deriving DecidableEq

/-- `GSM_SECURITY_*`. -/
inductive SecurityEvent where
  | noavail | authFailed | succeeded
  deriving DecidableEq

/-- The queue of one subscriber. Requests are known by the order in which they were made, `next` is the number of them;
    `held` are the connections given to requesters who did not put them yet. -/
structure SubscrNet where
  requests : List Nat := []
  next : Nat := 0
  inCallback : Bool := false
  lac : Nat
  btsList : List PagingBts
  paging : List GsmPagingRequest := []
  secOps : List PagingSecOp := []
  held : List Nat := []
  stack : List PagingCont := []
  log : List PagingOutcome := []
  fault : Bool := false

namespace SubscrNet

/-! ## Paging -/

/-- The loop of `paging_request` over the BTSs: what is pending then, and how many BTSs page; `none` stands for
    `-EEXIST`. -/
def pagingRequestLoop (lac request : Nat) :
    List PagingBts → List GsmPagingRequest → Nat → List GsmPagingRequest × Option Nat
  | [], paging, numPages => (paging, some numPages)
  | b :: l, paging, numPages =>
    if b.locationAreaCode ≠ lac then pagingRequestLoop lac request l paging numPages
    -- skip all currently inactive TRX
    else if !b.usable then pagingRequestLoop lac request l paging numPages
    else if paging.any fun p => p.bts == b.nr then (paging, none)
    else pagingRequestLoop lac request l (paging ++ [{ bts := b.nr, request := request }]) (numPages + 1)

/-- The BTS is in the location area of the subscriber. -/
def inLac (s : SubscrNet) (bts : Nat) : Bool := s.btsList.any fun b => b.locationAreaCode == s.lac && b.nr == bts

/-- `paging_request_stop`, without a connection: paging is stopped silently in the location area. -/
def pagingRequestStop (s : SubscrNet) : SubscrNet := { s with paging := s.paging.filter fun p => !s.inLac p.bts }

/-- The end of `paging_request_stop`: the answered request is removed, then paging is stopped on the other BTSs. -/
def pagingStopEnd (s : SubscrNet) (bts : Nat) : SubscrNet :=
  { s with
    paging := s.paging.filter fun p => p.bts != bts
    fault := s.fault || !s.paging.any fun p => p.bts == bts }.pagingRequestStop

/-! ## Queue -/

/-- `subscr_paging_dispatch`, up to the callback. -/
def dispatch (s : SubscrNet) (event : PagingEvent) (conn pagedFor : Option Nat) : SubscrNet :=
  match s.requests with
  -- there is no request anymore
  | [] => s
  | r :: rest =>
    { s with
      requests := rest
      inCallback := true
      log := s.log ++ [⟨r, pagedFor, event⟩]
      held := if event = .succeeded then conn.toList ++ s.held else s.held
      stack := .dispatch event :: s.stack }

/-- `subscr_send_paging_request`. -/
def sendPagingRequest (s : SubscrNet) : SubscrNet :=
  match s.requests with
  | [] => { s with fault := true }
  | r :: _ =>
    let paged := pagingRequestLoop s.lac r s.btsList s.paging 0
    let s := { s with paging := paged.1 }
    match paged.2 with
    | some (_ + 1) => s
    -- paging failed, quit now
    | some 0 => s.dispatch .busy none (some r)
    | none => s.dispatch .busy none none

/-- `subscr_get_channel`. -/
def getChannel (s : SubscrNet) : SubscrNet :=
  let queued := { s with requests := s.requests ++ [s.next], next := s.next + 1 }
  if !s.inCallback && s.requests.isEmpty then queued.sendPagingRequest else queued

/-- `subscr_put_channel`. -/
def putChannel (s : SubscrNet) : SubscrNet := if s.requests.isEmpty then s else s.sendPagingRequest

/-- What `paging_request_stop` has still to do is done as soon as the callback it has invoked returns. -/
def unwind (s : SubscrNet) : List PagingCont → SubscrNet
  | .pagingStop bts :: stack => (s.pagingStopEnd bts).unwind stack
  | stack => { s with stack := stack }

/-- The callback returns to `subscr_paging_dispatch`. -/
def dispatchEnd (s : SubscrNet) (event : PagingEvent) : SubscrNet :=
  let s := { s with inCallback := false }
  if event = .succeeded then s else s.pagingRequestStop.putChannel

/-- A paging response is received: `subscr_paging_cb` for the paging request of the BTS, if there is one. -/
def pagingResponse (s : SubscrNet) (bts conn : Nat) (start : SecureStart) : SubscrNet :=
  match s.paging.find? fun p => p.bts == bts with
  | none => s.pagingRequestStop
  | some p =>
    let s := { s with stack := .pagingStop bts :: s.stack }
    let s : SubscrNet :=
      match start with
      | .secured => s.dispatch .succeeded (some conn) (some p.request)
      | .busy => s
      | .started => { s with secOps := s.secOps ++ [⟨conn, p.request⟩] }
    s.unwind s.stack

/-- `paging_T3113_expired`. -/
def expired (s : SubscrNet) (p : GsmPagingRequest) : SubscrNet :=
  { s with paging := s.paging.filter fun p' => p'.bts != p.bts }.dispatch (if p.sent then .expired else .busy) none
    (some p.request)

/-- `subscr_paging_sec_cb`, when the operation ends. -/
def secResult (s : SubscrNet) (op : PagingSecOp) (event : SecurityEvent) : SubscrNet :=
  let s := { s with secOps := s.secOps.erase op }
  if event = .authFailed then s.dispatch .expired none (some op.request)
  else s.dispatch .succeeded (some op.conn) (some op.request)

end SubscrNet

/-! ## Runs -/

/-- What happens: a channel is requested or put (by the owner of a connection, or by someone else), a page is sent, a
    paging request expires or is answered, a security operation ends, a callback returns, the location area of the
    subscriber changes, a BTS comes or goes, and a connection is gone without being put. -/
inductive SubscrEvent where
  | getChannel
  | putChannel (conn : Option Nat)
  | pageSent (bts : Nat)
  | expired (bts : Nat)
  | pagingResponse (bts conn : Nat) (start : SecureStart)
  | secResult (conn : Nat) (event : SecurityEvent)
  | ret
  | setLac (lac : Nat)
  | setUsable (bts : Nat) (usable : Bool)
  | lost (conn : Nat)

namespace SubscrNet

/-- One event. Timers and messages wait until every callback has returned. -/
def step (s : SubscrNet) : SubscrEvent → Option SubscrNet
  | .getChannel => some s.getChannel
  | .putChannel conn => some { s with held := conn.elim s.held s.held.erase }.putChannel
  | .pageSent bts =>
    some { s with paging := s.paging.map fun p => if p.bts = bts then { p with sent := true } else p }
  | .expired bts => if s.stack = [] then (s.paging.find? fun p => p.bts == bts).map s.expired else none
  | .pagingResponse bts conn start => if s.stack = [] then some (s.pagingResponse bts conn start) else none
  | .secResult conn event =>
    if s.stack = [] then (s.secOps.find? fun op => op.conn == conn).map fun op => s.secResult op event else none
  | .ret =>
    match s.stack with
    | .dispatch event :: stack =>
      let s := { s with stack := stack }.dispatchEnd event
      some (s.unwind s.stack)
    | _ => none
  | .setLac lac => some { s with lac := lac }
  | .setUsable bts usable =>
    some { s with btsList := s.btsList.map fun b => if b.nr = bts then { b with usable := usable } else b }
  | .lost conn => some { s with held := s.held.erase conn }

end SubscrNet

/-- The queue of a subscriber, which is empty at first; every BTS has its own number. -/
def subscrSystem : System SubscrNet SubscrEvent where
  init s := ∃ lac btsList, (btsList.map PagingBts.nr).Nodup ∧ s = { lac := lac, btsList := btsList }
  step s ev s' := s.step ev = some s'

end OpenBsc.Libmsc
