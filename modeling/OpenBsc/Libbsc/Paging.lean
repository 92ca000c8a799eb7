import Mathlib.Tactic.Common
import OpenBsc.Lib.Transition

/-!
# `Libbsc.Paging` — paging requests and when they are sent (`paging.c`)

A subscriber is paged on every BTS of its location area. Each BTS has a list of pending requests, whose head is sent and
put to the end when the work timer fires, as long as the BTS has paging slots; without slots the credit timer is started
instead. A request ends with T3113 or when its subscriber answers.

The requests of all BTSs stand in one list; the list of a BTS are those that name it. A callback may itself page or stop
paging, so what `paging_request_stop` has left to do after it is kept on a stack. After the callback of T3113 nothing is
left to do.
-/

namespace OpenBsc.Libbsc

open Transition

/-! ## Data -/

/-- `RSL_CHANNEED_*`. -/
inductive ChanNeeded where
  | any | sdcch | tchF | tchForH | other

/-- `struct gsm_paging_request`, under a number of its own. T3113 runs as long as it is pending. -/
structure GsmPagingRequest where
  id : Nat
  bts : Nat
  subscr : Nat
  chanType : ChanNeeded
  attempts : Nat := 0
  /-- The callback, if there is one, with its parameter. -/
  cbfn : Option Nat

/-- `struct load_counter`. -/
structure LoadCounter where
  total : Nat := 0
  used : Nat := 0

/-- The channels that are not used. -/
def LoadCounter.free (c : LoadCounter) : Int := c.total - c.used

/-- `struct pchan_load`, for the combinations that paging looks at. -/
structure PchanLoad where
  sdcch8Sacch8c : LoadCounter := {}
  ccchSdcch4 : LoadCounter := {}
  tchF : LoadCounter := {}
  tchH : LoadCounter := {}

/-- `struct gsm_bts` with its `struct gsm_bts_paging_state`; `load` is what `bts_chan_load` counts. -/
structure PagingBts where
  locationAreaCode : Nat
  /-- `trx_is_usable` of `c0`. -/
  usable : Bool := true
  load : PchanLoad := {}
  /-- `paging.bts` is set. -/
  inited : Bool := false
  workTimer : Bool := false
  creditTimer : Bool := false
  freeChansNeed : Int := -1
  availableSlots : UInt16 := 0

/-- `GSM_PAGING_*`. -/
inductive GsmPagingEvent where
  | succeeded | expired | busy
  deriving DecidableEq

/-- What happens to a request: it is sent, when there were so many slots; its callback is invoked; it is removed. -/
inductive PagingOut where
  | paged (id : Nat) (slots : UInt16)
  | callback (id : Nat) (event : GsmPagingEvent)
  | removed (id : Nat)
  deriving DecidableEq

/-- A callback that `_paging_request_stop` has invoked, and the request it removes afterwards. -/
structure StopFrame where
  id : Nat
  bts : Nat
  subscr : Nat

/-- `struct gsm_network`, as far as paging looks at it. `lacs` are the location areas of the subscribers. -/
structure PagingNet where
  pagAnyTch : Bool := false
  neci : Bool := false
  btsList : List PagingBts := []
  lacs : Nat → Nat := fun _ => 0
  pending : List GsmPagingRequest := []
  next : Nat := 0
  stack : List StopFrame := []
  outs : List PagingOut := []

namespace PagingNet

def emit (net : PagingNet) (out : PagingOut) : PagingNet := { net with outs := net.outs ++ [out] }

def modifyBts (net : PagingNet) (b : Nat) (f : PagingBts → PagingBts) : PagingNet :=
  { net with btsList := net.btsList.modify b f }

/-- The pending requests of a BTS, in the order in which they will be sent. -/
def pendingRequests (net : PagingNet) (b : Nat) : List GsmPagingRequest := net.pending.filter fun r => r.bts = b

/-- The BTS is one that `gsm_bts_by_lac` returns: it is in the location area, or that stands for all of them. -/
def inLac (net : PagingNet) (lac b : Nat) : Bool :=
  net.btsList[b]?.any fun bts => lac = 0xfffe ∨ bts.locationAreaCode = lac

/-! ## Sending -/

/-- `paging_remove_request`. -/
def pagingRemoveRequest (net : PagingNet) (id : Nat) : PagingNet :=
  let net : PagingNet := { net with pending := net.pending.filter fun r => r.id ≠ id }
  net.emit (.removed id)

/-- `paging_schedule_if_needed`. -/
def pagingScheduleIfNeeded (net : PagingNet) (b : Nat) : PagingNet :=
  if (net.pendingRequests b).isEmpty then net else net.modifyBts b fun bts => { bts with workTimer := true }

/-- `can_send_pag_req`, which is true where there are fewer free channels than needed. -/
def canSendPagReq (net : PagingNet) (bts : PagingBts) (type : ChanNeeded) : Bool :=
  let sdcch := bts.freeChansNeed > bts.load.sdcch8Sacch8c.free + bts.load.ccchSdcch4.free
  let tch := bts.freeChansNeed > bts.load.tchF.free + if net.neci then bts.load.tchH.free else 0
  match type with
  | .tchF | .tchForH => tch
  | .sdcch => sdcch
  | .any | .other => if net.pagAnyTch then tch else sdcch

/-- `paging_handle_pending_requests`. -/
def pagingHandlePendingRequests (net : PagingNet) (b : Nat) : PagingNet :=
  match net.btsList[b]?, net.pending.find? fun r => r.bts = b with
  | some bts, some request =>
    -- the BTS might not provide us with load indication
    if bts.availableSlots = 0 then net.modifyBts b fun bts => { bts with creditTimer := true }
    else if bts.freeChansNeed ≠ -1 ∧ net.canSendPagReq bts request.chanType then
      net.modifyBts b fun bts => { bts with workTimer := true }
    else
      let net := net.emit (.paged request.id bts.availableSlots)
      -- take the current and add it to the back
      let net : PagingNet := { net with
        pending := net.pending.filter (fun r => r.id ≠ request.id) ++
          [{ request with attempts := request.attempts + 1 }] }
      net.modifyBts b fun bts => { bts with availableSlots := bts.availableSlots - 1, workTimer := true }
  | _, _ => net

/-- `paging_worker`, when its timer has fired. -/
def pagingWorker (net : PagingNet) (b : Nat) : PagingNet :=
  (net.modifyBts b fun bts => { bts with workTimer := false }).pagingHandlePendingRequests b

/-- `paging_give_credit`, when its timer has fired. -/
def pagingGiveCredit (net : PagingNet) (b : Nat) : PagingNet :=
  (net.modifyBts b fun bts => { bts with creditTimer := false, availableSlots := 20 }).pagingHandlePendingRequests b

/-- `paging_init_if_needed`. -/
def pagingInitIfNeeded (net : PagingNet) (b : Nat) : PagingNet :=
  net.modifyBts b fun bts => if bts.inited then bts else { bts with inited := true, availableSlots := 20 }

/-! ## Requests -/

/-- The pending request of the subscriber on the BTS. -/
def findRequest (net : PagingNet) (b subscr : Nat) : Option GsmPagingRequest :=
  net.pending.find? fun r => r.bts = b ∧ r.subscr = subscr

/-- `_paging_request`; `none` stands for `-EEXIST`. -/
def pagingRequestOn (net : PagingNet) (b subscr : Nat) (type : ChanNeeded) (cbfn : Option Nat) : Option PagingNet :=
  if (net.findRequest b subscr).isSome then none
  else
    let req : GsmPagingRequest := { id := net.next, bts := b, subscr := subscr, chanType := type, cbfn := cbfn }
    some ({ net with pending := net.pending ++ [req], next := net.next + 1 }.pagingScheduleIfNeeded b)

/-- The loop of `paging_request` over the BTSs from one on, with the pages so far. -/
def pagingRequestLoop (subscr : Nat) (type : ChanNeeded) (cbfn : Option Nat) :
    List Nat → PagingNet → Nat → PagingNet × Option Nat
  | [], net, numPages => (net, some numPages)
  | b :: bs, net, numPages =>
    if !net.inLac (net.lacs subscr) b then pagingRequestLoop subscr type cbfn bs net numPages
    -- skip all currently inactive TRX
    else if !net.btsList[b]?.any PagingBts.usable then pagingRequestLoop subscr type cbfn bs net numPages
    else
      let net := net.pagingInitIfNeeded b
      match net.pagingRequestOn b subscr type cbfn with
      | none => (net, none)
      | some net => pagingRequestLoop subscr type cbfn bs net (numPages + 1)

/-- `paging_request`, and how many BTSs page. -/
def pagingRequest (net : PagingNet) (subscr : Nat) (type : ChanNeeded) (cbfn : Option Nat) : PagingNet × Option Nat :=
  pagingRequestLoop subscr type cbfn (List.range net.btsList.length) net 0

/-- `paging_T3113_expired`. -/
def pagingT3113Expired (net : PagingNet) (req : GsmPagingRequest) : PagingNet :=
  -- did we ever manage to page the subscriber
  let msg := if req.attempts > 0 then GsmPagingEvent.expired else .busy
  let net := net.pagingRemoveRequest req.id
  if req.cbfn.isSome then net.emit (.callback req.id msg) else net

/-- `_paging_request_stop` without a connection. -/
def pagingStopSilently (subscr : Nat) (net : PagingNet) (b : Nat) : PagingNet :=
  let net := net.pagingInitIfNeeded b
  match net.findRequest b subscr with
  | none => net
  | some req => net.pagingRemoveRequest req.id

/-- The loop of `paging_request_stop` over the BTSs of the location area other than `b?`. -/
def pagingStopOthers (net : PagingNet) (b? : Option Nat) (subscr : Nat) : PagingNet :=
  ((List.range net.btsList.length).filter fun b => net.inLac (net.lacs subscr) b && b? ≠ some b).foldl
    (pagingStopSilently subscr) net

/-- The request whose callback `paging_request_stop` invokes. -/
def invoked (net : PagingNet) (b? : Option Nat) (subscr : Nat) (conn : Bool) : Option GsmPagingRequest :=
  b?.bind fun b => (net.findRequest b subscr).filter fun req => conn && req.cbfn.isSome

/-- `paging_request_stop`, up to the callback where there is one. -/
def pagingRequestStop (net : PagingNet) (b? : Option Nat) (subscr : Nat) (conn : Bool) : PagingNet :=
  match net.invoked b? subscr conn with
  | some req =>
    { net.pagingInitIfNeeded req.bts with stack := ⟨req.id, req.bts, req.subscr⟩ :: net.stack }.emit
      (.callback req.id .succeeded)
  | none =>
    match b? with
    | some b => (pagingStopSilently subscr net b).pagingStopOthers b? subscr
    | none => net.pagingStopOthers b? subscr

/-- The rest of `paging_request_stop`, when the callback has returned. -/
def pagingStopEnd (net : PagingNet) (f : StopFrame) : PagingNet :=
  (net.pagingRemoveRequest f.id).pagingStopOthers (some f.bts) f.subscr

/-- `paging_update_buffer_space`. -/
def pagingUpdateBufferSpace (net : PagingNet) (b : Nat) (freeSlots : UInt16) : PagingNet :=
  let net := net.pagingInitIfNeeded b
  let net := net.modifyBts b fun bts => { bts with creditTimer := false, availableSlots := freeSlots }
  net.pagingScheduleIfNeeded b

end PagingNet

/-! ## Runs -/

/-- What happens: a BTS is added, or its configuration, its state or its load changes; a subscriber moves; paging is
    requested or stopped, with a connection or without one; a callback returns; a timer fires; the BTS reports its
    paging slots. -/
inductive PagingNetEvent where
  | addBts (lac : Nat)
  | configure (b lac : Nat) (usable : Bool) (load : PchanLoad) (freeChansNeed : Int)
  | setLac (subscr lac : Nat)
  | request (subscr : Nat) (type : ChanNeeded) (cbfn : Option Nat)
  | stop (b? : Option Nat) (subscr : Nat) (conn : Bool)
  | ret
  | workTimer (b : Nat)
  | creditTimer (b : Nat)
  | t3113 (id : Nat)
  | pagingLoad (b : Nat) (freeSlots : UInt16)

namespace PagingNet

/-- One event. Timers and messages wait until every callback has returned. -/
def step (net : PagingNet) : PagingNetEvent → Option PagingNet
  | .addBts lac => some { net with btsList := net.btsList ++ [{ locationAreaCode := lac }] }
  | .configure b lac usable load freeChansNeed =>
    some (net.modifyBts b fun bts =>
      { bts with locationAreaCode := lac, usable := usable, load := load, freeChansNeed := freeChansNeed })
  | .setLac subscr lac => some { net with lacs := fun s => if s = subscr then lac else net.lacs s }
  | .request subscr type cbfn => some (net.pagingRequest subscr type cbfn).1
  | .stop b? subscr conn => some (net.pagingRequestStop b? subscr conn)
  | .ret =>
    match net.stack with
    | [] => none
    | f :: stack => some ({ net with stack := stack }.pagingStopEnd f)
  | .workTimer b =>
    if net.stack = [] ∧ net.btsList[b]?.any PagingBts.workTimer then some (net.pagingWorker b) else none
  | .creditTimer b =>
    if net.stack = [] ∧ net.btsList[b]?.any PagingBts.creditTimer then some (net.pagingGiveCredit b) else none
  | .t3113 id =>
    if net.stack = [] then (net.pending.find? fun r => r.id = id).map net.pagingT3113Expired else none
  | .pagingLoad b freeSlots => if net.stack = [] then some (net.pagingUpdateBufferSpace b freeSlots) else none

end PagingNet

/-- The paging of a network, with no BTS at first. -/
def pagingSystem : System PagingNet PagingNetEvent where
  init net := ∃ pagAnyTch neci lacs, net = { pagAnyTch := pagAnyTch, neci := neci, lacs := lacs }
  step net ev net' := net.step ev = some net'

end OpenBsc.Libbsc
