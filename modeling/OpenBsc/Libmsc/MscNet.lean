import OpenBsc.Libmsc.Connection
import OpenBsc.Libmsc.SubscrQueue

/-!
# `Libmsc.MscNet` — the subscribers of the MSC and who refers to them (`gsm_subscriber.c`, `gsm_04_08.c`, `paging.c`)

A subscriber in memory counts the references to it: of connections, transactions, channel requests and paging requests,
and of short messages. A lookup takes one for who looks up, who passes it on or drops it. The record is freed with the
last one, unless the network keeps its subscribers.

Which record an identity belongs to, whether a subscriber may enter and whether a channel has to be secured are
answers from outside (`NetAnswers`). A callback may go on with anything the MSC does by itself, so what is left to do
after it is kept on an explicit stack; messages, timers and commands wait until the stack is empty.
-/

namespace OpenBsc.Libmsc

open Transition

/-! ## Data -/

/-- `struct gsm_subscriber`, as far as references and paging look at it. -/
structure GsmSubscriber where
  useCount : Int := 1
  lac : Nat := 0
  inCallback : Bool := false

/-- `GSM_LAC_RESERVED_DETACHED`. -/
def lacDetached : Nat := 0

/-- `GSM_LAC_RESERVED_ALL_BTS`. -/
def lacAllBts : Nat := 0xfffe

/-- What there is under an identity: a record in memory, a row of the database with that location area, or nothing. -/
inductive Lookup where
  | active (i : Nat)
  | row (lac : Nat)
  | unknown

/-- `db_create_subscriber`, for an IMSI that is unknown. -/
def Lookup.orCreated : Lookup → Lookup
  | .unknown => .row lacDetached
  | found => found

/-- The callback of a channel request: `setup_trig_pag_evt`, with the paging token of a transaction, or
    `paging_cb_send_sms`. -/
inductive ChanCallback where
  | setupTrigPagEvt (trans : Nat)
  | sendSms
  deriving DecidableEq

/-- `struct subscr_request`. -/
structure SubscrRequest where
  subscr : Nat
  cbfn : ChanCallback
  deriving DecidableEq

/-- The callback of a paging request: `subscr_paging_cb` or `paging_cb_silent`. -/
inductive PagingCallback where
  | subscrPaging | silent

/-- `struct gsm_paging_request`. -/
structure BtsPagingRequest where
  bts : Nat
  subscr : Nat
  cbfn : PagingCallback

/-- The callback of a security operation, with the subscriber `subscr_paging_sec_cb` gets. -/
inductive SecParam where
  | authorize | servReq
  | paging (subscr : Nat)

/-- `struct gsm_subscriber_connection`. -/
structure NetConn where
  bts : Nat
  subscr : Option Nat := none
  locOperation : Option GsmLocUpdatingOperation := none
  secOperation : Option SecParam := none
  anchOperation : Bool := true
  silentCall : Bool := false
  inRelease : Bool := false
  putChannel : Bool := false

/-- What is left to do when a callback returns. -/
inductive NetCont where
  /-- The rest of `subscr_paging_dispatch`. -/
  | dispatch (subscr : Nat) (succeeded : Bool)
  /-- The caller drops the reference it looked up. -/
  | put (subscr : Nat)
  /-- The end of `gsm411_sapi_n_reject`. -/
  | sapiReject (subscr : Nat)
  /-- The rest of `paging_request_stop`, for the answered paging request of the BTS. -/
  | pagingStop (bts req subscr : Nat)
  /-- `subscr_con_free`, at the end of a release. -/
  | conFree (conn : Nat)
  /-- `release_security_operation`, after the callback of the operation. -/
  | releaseSec (conn : Nat)
  /-- The rest of `gsm0408_clear_request`, after the callback of the operation. -/
  | clearRest (conn : Nat)

/-- What was done: data of a subscriber was written, an operation was started, a LOCATION UPDATING ACCEPT or a
    CM SERVICE ACCEPT was sent, and somebody's paging succeeded. -/
inductive NetOut where
  | stored (subscr : Nat)
  | opStarted (conn : Nat)
  | served (conn : Nat)
  | pagingSucceeded (conn : Option Nat) (subscr : Nat)

/-- The subscribers of the network with all that refers to them. -/
structure MscNet where
  keepSubscr : Bool := false
  btsList : List PagingBts
  subscrs : Pool GsmSubscriber := .empty
  conns : Pool NetConn := .empty
  net : TransList Unit := {}
  requests : List SubscrRequest := []
  paging : Pool BtsPagingRequest := .empty
  /-- The references of short messages and of the queue they wait in. -/
  sms : List Nat := []
  stack : List NetCont := []
  log : List NetOut := []
  fault : Bool := false

/-- How the checks of `gsm48_secure_channel` end, with `auth_get_tuple_for_subscr`: the callback is invoked at once, or
    an operation is needed. -/
inductive SecureAnswer where
  | noavail | succeeded | needed

/-- The answers from outside to a message: whose identity it has, whether the policy lets the subscriber in, and whether
    the channel has to be secured. -/
structure NetAnswers where
  found : Lookup := .unknown
  lets : Bool := false
  secure : SecureAnswer := .noavail

namespace MscNet

def emit (s : MscNet) (out : NetOut) : MscNet := { s with log := s.log ++ [out] }

def modifyConn (s : MscNet) (c : Nat) (f : NetConn → NetConn) : MscNet := { s with conns := s.conns.modify c f }

def push (s : MscNet) (cont : NetCont) : MscNet := { s with stack := cont :: s.stack }

/-! ## References -/

/-- A subscriber is looked at. -/
def touch (s : MscNet) (i : Nat) : MscNet :=
  { s with fault := s.fault || (s.subscrs.get? i).isNone }

/-- `subscr_get`. -/
def subscrGet (s : MscNet) (i : Nat) : MscNet :=
  { s.touch i with subscrs := s.subscrs.modify i fun r => { r with useCount := r.useCount + 1 } }

/-- `subscr_put`. -/
def subscrPut (s : MscNet) (i : Nat) : MscNet :=
  match s.subscrs.get? i with
  | none => s.touch i
  | some r =>
    if r.useCount - 1 ≤ 0 && !s.keepSubscr then { s with subscrs := s.subscrs.remove i }
    else { s with subscrs := s.subscrs.modify i fun r => { r with useCount := r.useCount - 1 } }

/-- `subscr_get_by_…`, and `db_get_subscriber` where the record is not in memory. -/
def lookup (s : MscNet) : Lookup → MscNet × Option Nat
  | .active i => if (s.subscrs.get? i).isSome then (s.subscrGet i, some i) else (s, none)
  | .row lac => ({ s with subscrs := s.subscrs.alloc { lac := lac } }, some s.subscrs.next)
  | .unknown => (s, none)

/-- The subscribers that `subscr_purge_inactive` frees. -/
def inactive (s : MscNet) : List Nat :=
  (s.subscrs.entries.filter fun e => decide (e.2.useCount ≤ 0)).map Prod.fst

/-- `subscr_purge_inactive`. -/
def subscrPurgeInactive (s : MscNet) : MscNet := { s with subscrs := s.inactive.foldl Pool.remove s.subscrs }

/-! ## Paging -/

/-- `gsm_bts_by_lac`: the BTSs of the location area a subscriber is in. -/
def btsByLac (s : MscNet) (i : Nat) : List PagingBts :=
  s.btsList.filter fun b => (s.subscrs.get? i).any fun r => r.lac == lacAllBts || b.locationAreaCode == r.lac

/-- `paging_pending_request`, with the request. -/
def pendingRequest (s : MscNet) (bts i : Nat) : Option (Nat × BtsPagingRequest) :=
  s.paging.find? fun p => p.bts == bts && p.subscr == i

/-- `paging_remove_request`. -/
def pagingRemoveRequest (s : MscNet) (req : Nat) : MscNet :=
  match s.paging.get? req with
  | none => { s with fault := true }
  | some p => { s with paging := s.paging.remove req }.subscrPut p.subscr

/-- `_paging_request_stop`, without a connection. -/
def pagingStopOn (s : MscNet) (i : Nat) (bts : PagingBts) : MscNet :=
  match s.pendingRequest bts.nr i with
  | none => s
  | some p => s.pagingRemoveRequest p.1

/-- The loop of `paging_request_stop` over the other BTSs. The next BTS is found by the subscriber. -/
def pagingStopLoop (i : Nat) (but : Option Nat) : List PagingBts → MscNet → MscNet
  | [], s => s
  | bts :: l, s =>
    pagingStopLoop i but l ((if but = some bts.nr then s else s.pagingStopOn i bts).touch i)

/-- `paging_request_stop`, on all BTSs but one. -/
def pagingRequestStop (s : MscNet) (i : Nat) (but : Option Nat) : MscNet :=
  pagingStopLoop i but (s.btsByLac i) (s.touch i)

/-- The loop of `paging_request` over the BTSs: how many of them page; `none` stands for `-EEXIST`. -/
def pagingLoop (i : Nat) (cbfn : PagingCallback) : List PagingBts → MscNet → Nat → MscNet × Option Nat
  | [], s, numPages => (s, some numPages)
  | bts :: l, s, numPages =>
    -- skip all currently inactive TRX
    if !bts.usable then pagingLoop i cbfn l s numPages
    else if (s.pendingRequest bts.nr i).isSome then (s, none)
    else pagingLoop i cbfn l ({ s with paging := s.paging.alloc ⟨bts.nr, i, cbfn⟩ }.subscrGet i) (numPages + 1)

/-- `paging_request`. -/
def pagingRequest (s : MscNet) (i : Nat) (cbfn : PagingCallback) : MscNet × Option Nat :=
  pagingLoop i cbfn ((s.touch i).btsByLac i) (s.touch i) 0

/-- `trans_free`, for a transaction without a connection, or with one that is in release. -/
def transDrop (s : MscNet) (t : Nat) : MscNet :=
  match s.net.transList.get? t with
  | none => s
  | some u => { s with net := s.net.free t }.subscrPut u.subscr

/-- `setup_trig_pag_evt`. What call control does next is an event of its own. -/
def setupTrigPagEvt (s : MscNet) (t : Nat) (succeeded : Bool) (conn : Option Nat) : MscNet :=
  if (s.net.transList.get? t).any fun u => u.pagingRequest && u.conn.isNone then
    if succeeded then
      match conn with
      | none => s
      | some c =>
        { s with
          net.transList := s.net.transList.modify t fun u =>
            { u with conn := some c, pagingRequest := false } }.modifyConn c
          fun conn => { conn with putChannel := true }
    else s.transDrop t
  else
    match conn with
    | none => s
    -- the queue needs to be kicked
    | some c => s.modifyConn c fun conn => { conn with putChannel := true }

/-- A subscriber has requests for a channel. -/
def hasRequests (s : MscNet) (i : Nat) : Bool := s.requests.any fun r => r.subscr == i

/-- `subscr_paging_dispatch`, with the callback of the request. -/
def subscrPagingDispatch (s : MscNet) (i : Nat) (succeeded : Bool) (conn : Option Nat) : MscNet :=
  match s.requests.find? fun r => r.subscr == i with
  -- there is no request anymore
  | none => s.touch i
  | some r =>
    let s := if succeeded then (s.touch i).emit (.pagingSucceeded conn i) else s.touch i
    let s : MscNet :=
      { s with
        requests := s.requests.erase r
        subscrs := s.subscrs.modify i fun r => { r with inCallback := true } }.push (.dispatch i succeeded)
    match r.cbfn with
    | .setupTrigPagEvt t => s.setupTrigPagEvt t succeeded conn
    | .sendSms => s

/-- `subscr_send_paging_request`. -/
def subscrSendPagingRequest (s : MscNet) (i : Nat) : MscNet :=
  let paged := s.pagingRequest i .subscrPaging
  match paged.2 with
  | some (_ + 1) => paged.1
  -- paging failed, quit now
  | some 0 | none => paged.1.subscrPagingDispatch i false none

/-- `subscr_get_channel`. -/
def subscrGetChannel (s : MscNet) (i : Nat) (cbfn : ChanCallback) : MscNet :=
  let queued := { s.subscrGet i with requests := s.requests ++ [⟨i, cbfn⟩] }
  if (s.subscrs.get? i).any GsmSubscriber.inCallback || s.hasRequests i then queued
  else queued.subscrSendPagingRequest i

/-- `subscr_put_channel`. -/
def subscrPutChannel (s : MscNet) : Option Nat → MscNet
  | none => s
  | some i => if s.hasRequests i then (s.touch i).subscrSendPagingRequest i else s.touch i

/-- `subscr_pending_clear`. -/
def subscrPendingClear (s : MscNet) (i : Nat) : MscNet :=
  (s.requests.filter fun r => r.subscr == i).foldl
    (fun s r => { (s.subscrPut i).touch i with requests := s.requests.erase r }) s

/-! ## Connections -/

/-- A transaction is on the connection. -/
def hasTrans (s : MscNet) (c : Nat) : Bool := s.net.transList.entries.any fun e => e.2.conn == some c

/-- `subscr_con_free`. -/
def subscrConFree (s : MscNet) (c : Nat) : MscNet :=
  match s.conns.get? c with
  | none => s
  | some conn =>
    match conn.subscr with
    | none => { s with conns := s.conns.remove c }
    | some i => { s.subscrPut i with conns := s.conns.remove c }

/-- Nothing is left that holds the connection, and it is not in release. -/
def idle (s : MscNet) (c : Nat) (conn : NetConn) : Bool :=
  !conn.inRelease && !conn.silentCall &&
    !(conn.locOperation.isSome || conn.secOperation.isSome || conn.anchOperation) && !s.hasTrans c

/-- The channel is put, if the connection was given to a requester, before the connection is freed. -/
def putAndFree (s : MscNet) (c : Nat) (conn : NetConn) : MscNet :=
  if conn.putChannel then
    ((s.modifyConn c fun conn => { conn with putChannel := false }).push (.conFree c)).subscrPutChannel conn.subscr
  else s.subscrConFree c

/-- `msc_release_connection`. -/
def mscReleaseConnection (s : MscNet) (c : Nat) : MscNet :=
  match s.conns.get? c with
  | none => s
  | some conn =>
    if s.idle c conn then (s.modifyConn c fun conn => { conn with inRelease := true }).putAndFree c conn else s

/-- `trans_free`. -/
def transFree (s : MscNet) (t : Nat) : MscNet :=
  match s.net.transList.get? t with
  | none => s
  | some u =>
    match u.conn with
    | none => s.transDrop t
    | some c => (s.transDrop t).mscReleaseConnection c

/-- `release_anchor`. -/
def releaseAnchor (s : MscNet) (c : Nat) : MscNet := s.modifyConn c fun conn => { conn with anchOperation := false }

/-- `release_loc_updating_req`. -/
def releaseLocUpdatingReq (s : MscNet) (c : Nat) : MscNet :=
  if (s.conns.get? c).any fun conn => conn.locOperation.isSome then
    ((s.releaseAnchor c).modifyConn c fun conn => { conn with locOperation := none }).mscReleaseConnection c
  else s

/-- `release_security_operation`. -/
def releaseSecurityOperation (s : MscNet) (c : Nat) : MscNet :=
  if (s.conns.get? c).any fun conn => conn.secOperation.isSome then
    (s.modifyConn c fun conn => { conn with secOperation := none }).mscReleaseConnection c
  else s

/-- The BTS of a connection is in this location area. -/
def lacOf (s : MscNet) (bts : Nat) : Option Nat :=
  (s.btsList.find? fun b => b.nr == bts).map PagingBts.locationAreaCode

def setLac (s : MscNet) (i lac : Nat) : MscNet :=
  { s with subscrs := s.subscrs.modify i fun r => { r with lac := lac } }

/-- `_gsm0408_authorize_sec_cb`, where all is good, with `subscr_update`. -/
def acceptLocUpd (s : MscNet) (c : Nat) (conn : NetConn) : MscNet :=
  match conn.subscr with
  | none => s
  | some i => (((s.touch i).emit (.served c)).setLac i ((s.lacOf conn.bts).getD lacDetached)).emit (.stored i)

/-- The callback of a security operation is invoked. -/
def invoke (s : MscNet) (c : Nat) (conn : NetConn) : SecParam → GsmSecurity → MscNet
  | .authorize, .authFailed => s.releaseLocUpdatingReq c
  | .authorize, .noavail | .authorize, .succeeded => s.acceptLocUpd c conn
  | .servReq, .noavail => s.emit (.served c)
  -- CIPHER MODE COMMAND is implicit CM SERV ACK
  | .servReq, .authFailed | .servReq, .succeeded => s
  | .paging i, .authFailed => s.subscrPagingDispatch i false (some c)
  | .paging i, .noavail | .paging i, .succeeded => s.subscrPagingDispatch i true (some c)

/-- `gsm48_secure_channel`. -/
def gsm48SecureChannel (s : MscNet) (c : Nat) (cb : SecParam) (answer : SecureAnswer) : MscNet :=
  match s.conns.get? c with
  | none => s
  | some conn =>
    match answer with
    | .noavail => s.invoke c conn cb .noavail
    | .succeeded => s.invoke c conn cb .succeeded
    | .needed =>
      -- can't have more than one pending !!!
      if conn.secOperation.isSome then s
      else (s.modifyConn c fun conn => { conn with secOperation := some cb }).emit (.opStarted c)

/-- `gsm0408_clear_request`, up to the callback of the security operation. -/
def gsm0408ClearRequest (s : MscNet) (c : Nat) (conn : NetConn) : MscNet :=
  let s := ((s.modifyConn c fun conn => { conn with inRelease := true }).releaseLocUpdatingReq c).push (.clearRest c)
  -- we might need to cancel the paging response or such
  match conn.secOperation with
  | none => s
  | some cb => s.invoke c conn cb .authFailed

/-- The transactions of a connection that goes are freed. -/
def endTransactions (s : MscNet) (c : Nat) : MscNet :=
  ((s.net.transList.entries.filter fun e => e.2.conn == some c).map Prod.fst).foldl transDrop s

/-- The rest of `gsm0408_clear_request`, and of the BSC, which frees the connection then. -/
def clearRest (s : MscNet) (c : Nat) : MscNet :=
  match s.conns.get? c with
  | none => s
  | some conn =>
    ((s.modifyConn c fun conn => { conn with secOperation := none, anchOperation := false }).endTransactions
      c).putAndFree c conn

end MscNet

/-! ## Messages -/

namespace NetConn

/-- `silent_call_reroute`: on a silent call only two messages are handled. -/
def silentCallReroute (conn : NetConn) (msg : Gsm48Msg) : Bool :=
  conn.silentCall && !(msg.protoDiscr &&& 0x0f = 0x05 && (msg.msgType = 0x08 || msg.msgType = 0x24))

/-- The location update waits for an identity. -/
def waiting (conn : NetConn) : Bool := conn.locOperation.any fun op => op.waitingForImsi || op.waitingForImei

/-- `authorize_subscriber`. -/
def authorized (conn : NetConn) (lets : Bool) : Bool := conn.subscr.isSome && !conn.waiting && lets

/-- The IMSI has arrived. -/
def gotImsi (conn : NetConn) : NetConn :=
  { conn with locOperation := conn.locOperation.map fun op => { op with waitingForImsi := false } }

/-- The IMEI has arrived. -/
def gotImei (conn : NetConn) : NetConn :=
  { conn with locOperation := conn.locOperation.map fun op => { op with waitingForImei := false } }

end NetConn

/-- What `mm_rx_loc_upd_req` looks up. -/
def locUpdLookup (found : Lookup) : MobileIdentity → Lookup
  | .imsi _ => found.orCreated
  | .tmsi _ => found
  | .imei | .imeisv | .other => .unknown

/-- The identities `mm_rx_loc_upd_req` asks for and waits for, the IMSI and the IMEI. -/
def locUpdWaits (known : Bool) : MobileIdentity → Bool × Bool
  | .imsi _ => (false, true)
  | .tmsi _ => (!known, true)
  | .imei | .imeisv | .other => (false, false)

namespace MscNet

/-- The subscriber of a connection is set; the connection gets the reference. -/
def setSubscr (s : MscNet) (c i : Nat) : MscNet := s.modifyConn c fun conn => { conn with subscr := some i }

/-- `gsm0408_authorize`; `none` if it uses a location update that does not exist. -/
def gsm0408Authorize (s : MscNet) (c : Nat) (a : NetAnswers) : Option MscNet :=
  match s.conns.get? c with
  | none => some s
  | some conn =>
    if conn.authorized a.lets then
      if conn.locOperation.isSome then some (s.gsm48SecureChannel c .authorize a.secure) else none
    else some s

/-- `mm_rx_loc_upd_req`. -/
def mmRxLocUpdReq (s : MscNet) (c : Nat) (conn : NetConn) (msg : Gsm48Msg) (a : NetAnswers) : Option MscNet :=
  -- just drop a second/concurrent location updating request
  if conn.locOperation.isSome then some s
  else
    let found := s.lookup (locUpdLookup a.found msg.mi)
    let waits := locUpdWaits found.2.isSome msg.mi
    let s := found.1.modifyConn c fun conn => { conn with locOperation := some ⟨msg.keySeq, waits.1, waits.2, true⟩ }
    match found.2 with
    | none => some s
    | some i => ((s.setSubscr c i).emit (.stored i)).gsm0408Authorize c a

/-- The connection gets the subscriber with the IMSI, created if not found, unless it has one. -/
def nameByImsi (s : MscNet) (c : Nat) (conn : NetConn) (found : Lookup) : MscNet :=
  if conn.subscr.isNone then
    match (s.lookup found.orCreated).2 with
    | none => s
    | some i => (s.lookup found.orCreated).1.setSubscr c i
  else s

/-- The IMEI is stored for the subscriber. -/
def storeImei (s : MscNet) (conn : NetConn) : MscNet :=
  match conn.subscr with
  | none => s
  | some i => (s.touch i).emit (.stored i)

/-- `mm_rx_id_resp`. -/
def mmRxIdResp (s : MscNet) (c : Nat) (conn : NetConn) (msg : Gsm48Msg) (a : NetAnswers) : Option MscNet :=
  match msg.mi with
  | .imsi _ =>
    ((s.nameByImsi c conn a.found).modifyConn c NetConn.gotImsi).gsm0408Authorize c a
  | .imei | .imeisv =>
    ((s.storeImei conn).modifyConn c NetConn.gotImei).gsm0408Authorize c a
  | .tmsi _ | .other => s.gsm0408Authorize c a

/-- A looked up subscriber is the one of the connection if that has none yet. Otherwise the reference is dropped. -/
def nameOrPut (s : MscNet) (c : Nat) (conn : NetConn) (i : Nat) : MscNet :=
  if conn.subscr.isNone then s.setSubscr c i else s.subscrPut i

/-- `gsm48_rx_mm_serv_req`. -/
def gsm48RxMmServReq (s : MscNet) (c : Nat) (conn : NetConn) (msg : Gsm48Msg) (a : NetAnswers) : MscNet :=
  if msg.dataLen < 8 then s
  else if msg.dataLen < msg.miLen + 6 then s
  else
    match msg.mi with
    | .tmsi _ =>
      match (s.lookup a.found).2 with
      | none => s
      | some i =>
        -- the classmark is stored after the reference was dropped
        let s := (((s.lookup a.found).1.nameOrPut c conn i).touch i).emit (.stored i)
        s.gsm48SecureChannel c .servReq a.secure
    | .imsi _ | .imei | .imeisv | .other => s

/-- `gsm48_rx_mm_imsi_detach_ind`. -/
def gsm48RxMmImsiDetachInd (s : MscNet) (conn : NetConn) (msg : Gsm48Msg) (a : NetAnswers) : MscNet :=
  match msg.mi with
  | .tmsi _ | .imsi _ =>
    match (s.lookup a.found).2 with
    | none => s
    | some i =>
      let s := (s.lookup a.found).1
      -- only detach if we are currently in this area
      let s := if (s.subscrs.get? i).any fun r => s.lacOf conn.bts == some r.lac then s.setLac i lacDetached else s
      ((s.touch i).emit (.stored i)).subscrPut i
  | .imei | .imeisv | .other => s

/-- `gsm48_rx_mm_auth_resp`; the answer says whether the response is right. -/
def gsm48RxMmAuthResp (s : MscNet) (c : Nat) (conn : NetConn) (a : NetAnswers) : MscNet :=
  match conn.secOperation with
  | none => s
  | some cb => if a.lets then s else (s.push (.releaseSec c)).invoke c conn cb .authFailed

/-- `gsm0408_rcv_mm`. -/
def gsm0408RcvMm (s : MscNet) (c : Nat) (conn : NetConn) (msg : Gsm48Msg) (a : NetAnswers) : MmMsg → Option MscNet
  | .locUpdRequest => s.mmRxLocUpdReq c conn msg a
  | .idResp => s.mmRxIdResp c conn msg a
  | .cmServReq => some (s.gsm48RxMmServReq c conn msg a)
  | .tmsiReallCompl => some (s.releaseLocUpdatingReq c)
  | .imsiDetachInd => some (s.gsm48RxMmImsiDetachInd conn msg a)
  | .authResp => some (s.gsm48RxMmAuthResp c conn a)
  | .status | .cmReestReq | .unknown => some s

/-- `paging_request_stop`, for the connection of a paging response. -/
def pagingResponded (s : MscNet) (bts i c : Nat) (a : NetAnswers) : MscNet :=
  match s.pendingRequest bts i with
  | none => s.pagingRequestStop i (some bts)
  | some p =>
    let s := s.push (.pagingStop bts p.1 i)
    match p.2.cbfn with
    | .subscrPaging => s.gsm48SecureChannel c (.paging i) a.secure
    | .silent => (s.modifyConn c fun conn => { conn with silentCall := true }).emit (.pagingSucceeded (some c) i)

/-- `gsm48_rx_rr_pag_resp` and `gsm48_handle_paging_resp`. -/
def gsm48RxRrPagResp (s : MscNet) (c : Nat) (conn : NetConn) (msg : Gsm48Msg) (a : NetAnswers) : MscNet :=
  match msg.mi with
  | .tmsi _ | .imsi _ =>
    match (s.lookup a.found).2 with
    | none => s
    | some i =>
      let s := (((s.lookup a.found).1.touch i).emit (.stored i)).nameOrPut c conn i
      -- channel already owned by someone else?
      if conn.subscr.any fun owner => owner ≠ i then s else s.pagingResponded conn.bts i c a
  | .imei | .imeisv | .other => s

/-- `gsm48_rx_rr_ciph_m_compl`. -/
def gsm48RxRrCiphMCompl (s : MscNet) (c : Nat) (conn : NetConn) : MscNet :=
  match conn.secOperation with
  | none => s
  | some cb => (s.push (.releaseSec c)).invoke c conn cb .succeeded

/-- `gsm0408_rcv_rr`; `none` if the subscriber is used that a connection does not have. -/
def gsm0408RcvRr (s : MscNet) (c : Nat) (conn : NetConn) (msg : Gsm48Msg) (a : NetAnswers) : RrMsg → Option MscNet
  | .pagResp => some (s.gsm48RxRrPagResp c conn msg a)
  | .appInfo => conn.subscr.map fun i => (s.touch i).emit (.stored i)
  | .ciphMCompl => some (s.gsm48RxRrCiphMCompl c conn)
  | .clsmChg | .gprsSuspReq | .status | .measRep | .handoCompl | .handoFail | .unimplemented => some s

/-- The list of transactions after a message that may have made one for the subscriber. -/
def withTrans (s : MscNet) (i : Nat) (net : TransList Unit) : MscNet :=
  if net.transList.next = s.net.transList.next then s else { s with net := net }.subscrGet i

/-- `gsm0408_rcv_cc`, up to the routine of the transaction. -/
def gsm0408RcvCc (s : MscNet) (c : Nat) (conn : NetConn) (msg : Gsm48Msg) : Option MscNet :=
  if msg.msgType &&& 0xbf &&& 0x80 ≠ 0 then some s
  else conn.subscr.map fun i => s.withTrans i (s.net.rcvCc () c i msg.protoDiscr msg.msgType)

/-- `gsm0411_rcv_sms`, up to the state machine of the transaction. -/
def gsm0411RcvSms (s : MscNet) (c : Nat) (conn : NetConn) (msg : Gsm48Msg) : MscNet :=
  match conn.subscr with
  | none => s
  | some i => s.withTrans i (s.net.rcvSms () c i msg.protoDiscr)

/-- `handle_rcv_ussd`. -/
def handleRcvUssd (s : MscNet) (c : Nat) (conn : NetConn) (msg : Gsm48Msg) : Option MscNet :=
  -- Release-Complete
  if msg.text.head? = some 0xff then some s
  else if MscConn.asksOwnNumber msg.text && conn.subscr.isNone then none
  else some (s.mscReleaseConnection c)

/-- `gsm0408_dispatch`. -/
def gsm0408Dispatch (s : MscNet) (c : Nat) (conn : NetConn) (msg : Gsm48Msg) (a : NetAnswers) : Option MscNet :=
  if conn.silentCallReroute msg then some s
  else
    match msg.kind with
    | .cc => (s.releaseAnchor c).gsm0408RcvCc c conn msg
    | .mm type => s.gsm0408RcvMm c conn msg a type
    | .rr type => s.gsm0408RcvRr c conn msg a type
    | .sms => some ((s.releaseAnchor c).gsm0411RcvSms c conn msg)
    | .ncSs => (s.releaseAnchor c).handleRcvUssd c conn msg
    | .other => some s

/-! ## Calls and messages -/

/-- `connection_for_subscr`. Any connection may be on the first channel of a subscriber; `pick` says which. -/
def connectionForSubscr (s : MscNet) (i pick : Nat) : Option Nat :=
  if (s.conns.get? pick).any fun conn => conn.subscr == some i then some pick
  else (s.conns.find? fun conn => conn.subscr == some i).map Prod.fst

/-- A subscriber has another transaction. -/
def otherTrans (s : MscNet) (i t : Nat) : Bool :=
  s.net.transList.entries.any fun e => e.1 != t && e.2.subscr == i

/-- `mncc_tx_to_cc`, for the SETUP request of a call that is new. -/
def mnccSetupReq (s : MscNet) (found : Lookup) (pick : Nat) (callref : BitVec 32) : MscNet :=
  match (s.lookup found).2 with
  | none => s
  | some i =>
    let s := (s.lookup found).1
    -- not "attached"
    if (s.subscrs.get? i).all fun r => r.lac == lacDetached then (s.touch i).subscrPut i
    else
      let t := s.net.transList.next
      let conn := s.connectionForSubscr i pick
      let s := { s with net := s.net.mnccSetupReq () i conn callref }.subscrGet i
      if conn.isSome then s.subscrPut i
      -- paging already started
      else if s.otherTrans i t then (s.subscrPut i).transDrop t
      else (s.push (.put i)).subscrGetChannel i (.setupTrigPagEvt t)

/-- `gsm48_cc_tx_setup`, for a transaction that has its connection. -/
def ccTxSetup (s : MscNet) (t : Nat) : MscNet :=
  if (s.net.transList.get? t).any fun u => u.conn.isSome then
    if ((s.net.ccTxSetup t).transList.get? t).isNone then s.transFree t else { s with net := s.net.ccTxSetup t }
  else s

/-- `gsm411_send_sms`; `none` if the connection has no subscriber. -/
def sendSms (s : MscNet) (c : Nat) : Option MscNet :=
  match (s.conns.get? c).bind NetConn.subscr with
  | none => none
  | some i => some (s.withTrans i (s.net.sendSms () c i))

/-- A short message, or the queue it waits in, refers to the subscriber. -/
def smsRef (s : MscNet) (i : Nat) : MscNet := { s with sms := i :: s.sms }

/-- `gsm411_send_sms_subscr`, for a short message that refers to the subscriber. -/
def sendSmsSubscr (s : MscNet) (i pick : Nat) : Option MscNet :=
  if i ∈ s.sms then
    match s.connectionForSubscr i pick with
    | some c => s.sendSms c
    | none => some (s.subscrGetChannel i .sendSms)
  else none

/-- `gsm411_sapi_n_reject`, up to the transactions it frees, each by an event of its own. -/
def gsm411SapiNReject (s : MscNet) (c : Nat) : Option MscNet :=
  match (s.conns.get? c).bind NetConn.subscr with
  | none => none
  | some i => some ((s.subscrGet i).push (.sapiReject i))

end MscNet

namespace MscNet

variable {s : MscNet} {found : Lookup} {i c : Nat}

theorem lookup_frame (s : MscNet) (found : Lookup) :
    (s.lookup found).1.conns = s.conns ∧ (s.lookup found).1.net = s.net ∧ (s.lookup found).1.requests = s.requests ∧
    (s.lookup found).1.paging = s.paging ∧ (s.lookup found).1.log = s.log ∧ (s.lookup found).1.stack = s.stack := by
  cases found with
  | active i =>
    unfold lookup
    simp only
    split
    · exact ⟨rfl, rfl, rfl, rfl, rfl, rfl⟩
    · exact ⟨rfl, rfl, rfl, rfl, rfl, rfl⟩
  | row | unknown => exact ⟨rfl, rfl, rfl, rfl, rfl, rfl⟩

theorem lookup_eq_of_none (h : (s.lookup found).2 = none) : (s.lookup found).1 = s := by
  cases found with
  | active i =>
    unfold lookup at h ⊢
    by_cases hlive : (s.subscrs.get? i).isSome = true
    · simp [hlive] at h
    · simp [hlive]
  | row lac => cases h
  | unknown => rfl

/-- A transaction was made for the subscriber on the connection, or there was one. -/
def MadeFor (net net' : TransList Unit) (i c : Nat) : Prop :=
  net' = net ∨ ∃ u, u.subscr = i ∧ u.conn = some c ∧ net'.transList = net.transList.alloc u

section

variable (net : TransList Unit) (c i : Nat)

theorem madeFor_rcvCc (protoDiscr msgType : Octet) :
    MadeFor net (net.rcvCc () c i protoDiscr msgType) i c := by
  unfold TransList.rcvCc
  split
  · exact .inl rfl
  · split
    · exact .inl rfl
    · exact .inr ⟨_, rfl, rfl, rfl⟩

theorem madeFor_rcvSms (protoDiscr : Octet) :
    MadeFor net (net.rcvSms () c i protoDiscr) i c := by
  unfold TransList.rcvSms
  split
  · exact .inl rfl
  · exact .inr ⟨_, rfl, rfl, rfl⟩

theorem madeFor_sendSms : MadeFor net (net.sendSms () c i) i c := by
  unfold TransList.sendSms
  split
  · exact .inl rfl
  · exact .inr ⟨_, rfl, rfl, rfl⟩

end

end MscNet

/-! ## Runs -/

/-- The commands of the operator that name a subscriber. -/
inductive OperatorCmd where
  | clearRequests | kickPending | silentCallStart
  | silentCallStop (pick : Nat)
  | other

/-- What happens. The first ten wait until every callback has returned: a connection is made, a message, a timer, the
    loss of a channel, and the commands of the operator. The others are what the MSC does by itself: a callback returns,
    call control and short messages make and free transactions and put channels, short messages take and drop
    references, and a subscriber moves. -/
inductive NetEvent where
  | newConn (bts : Nat)
  | dtap (conn : Nat) (msg : Gsm48Msg) (answers : NetAnswers)
  | updatingTimer (conn : Nat)
  | anchorTimer (conn : Nat)
  | clearRequest (conn : Nat)
  | sapiNReject (conn : Nat)
  | expired (req : Nat)
  | operator (found : Lookup) (cmd : OperatorCmd)
  | purgeInactive
  | keepSubscr (keep : Bool)
  | ret
  | mnccSetupReq (found : Lookup) (pick : Nat) (callref : BitVec 32)
  | ccTxSetup (trans : Nat)
  | transFree (trans : Nat)
  | sendSms (conn : Nat)
  | sendSmsSubscr (subscr pick : Nat)
  | releaseSmsConn (conn : Nat)
  | smsTake (found : Lookup)
  | smsDrop (subscr : Nat)
  | setLac (subscr lac : Nat)

/-- The event comes from outside. -/
def NetEvent.external : NetEvent → Bool
  | .newConn _ | .dtap _ _ _ | .updatingTimer _ | .anchorTimer _ | .clearRequest _ | .sapiNReject _ | .expired _
  | .operator _ _ | .purgeInactive | .keepSubscr _ => true
  | _ => false

namespace MscNet

/-- `paging_T3113_expired`. -/
def pagingT3113Expired (s : MscNet) (req : Nat) (p : BtsPagingRequest) : MscNet :=
  match p.cbfn with
  | .subscrPaging => (s.pagingRemoveRequest req).subscrPagingDispatch p.subscr false none
  | .silent => s.pagingRemoveRequest req

/-- `gsm_silent_call_stop`. -/
def gsmSilentCallStop (s : MscNet) (i pick : Nat) : MscNet :=
  match s.connectionForSubscr i pick with
  | none => s
  | some c =>
    if (s.conns.get? c).any NetConn.silentCall then
      (s.modifyConn c fun conn => { conn with silentCall := false }).mscReleaseConnection c
    else s

/-- A command of the operator, for the subscriber that was looked up. The last thing it does is to drop the
    reference. -/
def operatorCmd (s : MscNet) (i : Nat) : OperatorCmd → MscNet
  | .clearRequests => (s.subscrPendingClear i).subscrPut i
  | .kickPending => (s.push (.put i)).subscrPutChannel (some i)
  | .silentCallStart => (s.pagingRequest i .silent).1.subscrPut i
  | .silentCallStop pick => (s.push (.put i)).gsmSilentCallStop i pick
  | .other => (s.touch i).subscrPut i

/-- What was left to do. -/
def resume (s : MscNet) : NetCont → MscNet
  | .dispatch i succeeded =>
    let s := { s.touch i with subscrs := s.subscrs.modify i fun r => { r with inCallback := false } }
    if succeeded then s.subscrPut i
    else ((s.pagingRequestStop i none).push (.put i)).subscrPutChannel (some i)
  | .put i => s.subscrPut i
  | .sapiReject i => (s.push (.put i)).subscrPutChannel (some i)
  | .pagingStop bts req i => (s.pagingRemoveRequest req).pagingRequestStop i (some bts)
  | .conFree c => s.subscrConFree c
  | .releaseSec c => s.releaseSecurityOperation c
  | .clearRest c => s.clearRest c

/-- One event, where it can happen. -/
def handle (s : MscNet) : NetEvent → Option MscNet
  | .newConn bts => some { s with conns := s.conns.alloc { bts := bts } }
  | .dtap c msg a => (s.conns.get? c).bind fun conn => s.gsm0408Dispatch c conn msg a
  | .updatingTimer c => some (s.releaseLocUpdatingReq c)
  | .anchorTimer c =>
    if (s.conns.get? c).any NetConn.anchOperation then some ((s.releaseAnchor c).mscReleaseConnection c) else none
  | .clearRequest c => (s.conns.get? c).map fun conn => s.gsm0408ClearRequest c conn
  | .sapiNReject c => s.gsm411SapiNReject c
  | .expired req => (s.paging.get? req).map fun p => s.pagingT3113Expired req p
  | .operator found cmd =>
    match (s.lookup found).2 with
    | none => some s
    | some i => some ((s.lookup found).1.operatorCmd i cmd)
  | .purgeInactive => some s.subscrPurgeInactive
  | .keepSubscr keep => some { s with keepSubscr := keep }
  | .ret =>
    match s.stack with
    | [] => none
    | cont :: stack => some ({ s with stack := stack }.resume cont)
  | .mnccSetupReq found pick callref => some (s.mnccSetupReq found pick callref)
  | .ccTxSetup t => some (s.ccTxSetup t)
  | .transFree t => some (s.transFree t)
  | .sendSms c => s.sendSms c
  | .sendSmsSubscr i pick => s.sendSmsSubscr i pick
  | .releaseSmsConn c => (s.conns.get? c).map fun conn => s.subscrPutChannel conn.subscr
  | .smsTake found =>
    match (s.lookup found).2 with
    | none => none
    | some i => some ((s.lookup found).1.smsRef i)
  | .smsDrop i => if i ∈ s.sms then some ({ s with sms := s.sms.erase i }.subscrPut i) else none
  | .setLac i lac => some (s.setLac i lac)

/-- What comes from outside waits for the callbacks; after a fault anything may happen, so there are no steps. -/
def step (s : MscNet) (ev : NetEvent) : Option MscNet :=
  if s.fault || ev.external && !s.stack.isEmpty then none else s.handle ev

end MscNet

/-- The MSC with its BTSs, without subscribers in memory. -/
def netSystem (btsList : List PagingBts) : System MscNet NetEvent where
  init s := s = { btsList := btsList }
  step s ev s' := s.step ev = some s'

end OpenBsc.Libmsc
