import OpenBsc.Libmsc.Transaction

/-!
# `Libmsc.CallControl` — the state machine of calls (`gsm_04_08.c`)

A call is a transaction between a phone and an MNCC application. Messages of the phone are looked up in one table,
requests of the application in another; timers guard what the phone has to answer. The application is called from
inside the handlers, and may make requests before it returns: what a handler has still to do then is on a stack.
-/

namespace OpenBsc.Libmsc

open Transition

/-! ## Data -/

/-- `GSM_CSTATE_*`. -/
inductive CcState where
  | null | initiated | mmConnectionPend | moCallProc | callDelivered | callPresent | callReceived | connectRequest
  | moTermCallConf | active | disconnectReq | disconnectInd | releaseReq | moOrigModify | moTermModify | connectInd
  deriving DecidableEq

/-- `ALL_STATES`. -/
def allStates : List CcState :=
  [.null, .initiated, .mmConnectionPend, .moCallProc, .callDelivered, .callPresent, .callReceived, .connectRequest,
    .moTermCallConf, .active, .disconnectReq, .disconnectInd, .releaseReq, .moOrigModify, .moTermModify, .connectInd]

/-- `ALL_STATES - …`. -/
def allStatesBut (states : List CcState) : List CcState := allStates.filter fun st => !states.contains st

/-- The timers of a call, one of which may be running. -/
inductive CcTimer where
  | t301 | t303 | t306 | t308 | t310 | t313 | t323
  deriving DecidableEq

/-- `GSM48_CAUSE_LOC_*`, as far as the network sets them. -/
inductive CauseLocation where
  | user | prnSLu | other (value : Octet)

/-- `GSM48_CC_CAUSE_*`, as far as the network sets them. -/
inductive CcCause where
  | unassignedNr | normCallClear | userNotrespond | destOoo | invNrFormat | normalUnspec | resourceUnavail
  | invalTransId | recoveryTimer | other (value : Octet)

/-- `struct gsm_mncc_cause`. -/
structure MnccCause where
  location : CauseLocation
  value : CcCause

/-- `struct gsm_mncc`: the reference and the cause, which the state machine sets. The other information elements are
    handed through by the library that codes them. -/
structure GsmMncc where
  callref : BitVec 32 := 0
  cause : Option MnccCause := none

/-- What the application is told. -/
inductive MnccInd where
  | setupInd | setupCnf | setupComplInd | callConfInd | alertInd | discInd | relInd | relCnf | rejInd | facilityInd
  | startDtmfInd | stopDtmfInd | holdInd | retrieveInd | modifyInd | modifyCnf | modifyRej | notifyInd | userinfoInd
  deriving DecidableEq

/-- What the application may request. The last three are about speech. -/
inductive MnccReq where
  | setupReq | callProcReq | alertReq | setupRsp | progressReq | setupComplReq | notifyReq | facilityReq | startDtmfRsp
  | startDtmfRej | stopDtmfRsp | holdCnf | holdRej | retrieveCnf | retrieveRej | modifyReq | modifyRsp | modifyRej
  | userinfoReq | rejReq | discReq | relReq | lchanModify | bridge | frameDrop | frameRecv
  deriving DecidableEq

/-- The messages of a phone; `undefined` has the bit set that no type has, `other` is in no row of the table. -/
inductive CcMsg where
  | setup | emergSetup | connectAck | callConf | alerting | connect | facility | notify | startDtmf | stopDtmf
  | statusEnq | hold | retr | modify | modifyCompl | modifyReject | userInfo | disconnect | release | releaseCompl
  | other | undefined
  deriving DecidableEq

/-- The messages to a phone. -/
inductive CcTx where
  | setup | callProc | alerting | progress | connect | connectAck | disconnect | release | releaseCompl | facility
  | holdAck | holdRej | retrAck | retrRej | startDtmfAck | startDtmfRej | stopDtmfAck | modify | modifyCompl
  | modifyReject | notify | userInfo | status
  deriving DecidableEq

/-- The part of a transaction that is a call. -/
structure CcBody where
  state : CcState := .null
  timer : Option CcTimer := none
  t308Second : Bool := false
  /-- The setup, disconnect or release message that is stored. -/
  msg : GsmMncc := {}

abbrev CcTrans := GsmTrans CcBody

/-- What a handler has still to do when the application returns. -/
inductive Cont where
  /-- The rest of `trans_free`, once the application was told. -/
  | transFree (i : Nat)
  /-- The reference is cleared and the transaction freed. -/
  | clearCallref (i : Nat)
  /-- The same, after the state was set to NULL (`gsm48_cc_rx_release`). -/
  | rxRelease (i : Nat)
  /-- The same, after the paging request was cleared (`setup_trig_pag_evt`). -/
  | pagingExpired (i : Nat)
  /-- `gsm48_cc_timeout` clears the reference and sends the RELEASE. -/
  | timeoutRelease (i : Nat) (rel : GsmMncc)
  /-- `gsm48_cc_timeout` sends the DISCONNECT. -/
  | timeoutDisconnect (i : Nat) (rel : GsmMncc)

/-- What call control tells the others: the phone, the application, the BSC and the paging, in this order. -/
inductive CcOut where
  | dtap (conn : Option Nat) (i transId : Nat) (type : CcTx) (cause : Option MnccCause)
  | mncc (i : Option Nat) (ind : MnccInd) (data : GsmMncc)
  | assignReq (conn : Option Nat)
  | getChannel (i : Nat)
  | releaseConnection (conn : Nat)

/-! ## State -/

/-- The calls of the network, what is left of the handlers the application was called from, and what was sent so far.
    `fault` is set when a handler goes on with a transaction that was freed in the meantime. -/
structure CcNet where
  transList : Pool CcTrans := .empty
  newCallref : BitVec 32 := 0x80000001
  stack : List Cont := []
  outs : List CcOut := []
  fault : Bool := false

namespace CcNet

def emit (s : CcNet) (out : CcOut) : CcNet := { s with outs := s.outs ++ [out] }

def modifyTrans (s : CcNet) (i : Nat) (f : CcTrans → CcTrans) : CcNet :=
  { s with transList := s.transList.modify i f }

/-- The handler goes on with the transaction, if it is still there. -/
def withTrans (s : CcNet) (i : Nat) (f : CcTrans → CcNet) : CcNet :=
  match s.transList.get? i with
  | some t => f t
  | none => { s with fault := true }

/-- `mncc_recvmsg` as the last thing a handler does. -/
def mnccRecvmsg (s : CcNet) (i : Option Nat) (ind : MnccInd) (data : GsmMncc) : CcNet := s.emit (.mncc i ind data)

/-- `mncc_recvmsg` from a handler that goes on afterwards. -/
def upcall (s : CcNet) (i : Nat) (ind : MnccInd) (data : GsmMncc) (cont : Cont) : CcNet :=
  { s.mnccRecvmsg (some i) ind data with stack := cont :: s.stack }

/-- `gsm48_conn_sendmsg` for a transaction. -/
def connSendmsg (s : CcNet) (i : Nat) (t : CcTrans) (type : CcTx) (cause : Option MnccCause) : CcNet :=
  s.emit (.dtap t.conn i t.transactionId type cause)

/-- The end of `trans_free`. -/
def transFreeEnd (s : CcNet) (i : Nat) : CcNet :=
  s.withTrans i fun t =>
    let s := { s with transList := s.transList.remove i }
    match t.conn with
    | some conn => s.emit (.releaseConnection conn)
    | none => s

/-- `gsm48_stop_cc_timer`. -/
def stopCcTimer (t : CcTrans) : CcTrans := { t with body := { t.body with timer := none } }

/-- `trans_free` of a call, with `_gsm48_cc_trans_free`: the application is told if the reference still exists. -/
def transFree (s : CcNet) (i : Nat) : CcNet :=
  s.withTrans i fun t =>
    let s := s.modifyTrans i stopCcTimer
    if t.callref ≠ 0 then
      s.upcall i .relInd { callref := t.callref, cause := some ⟨.prnSLu, .resourceUnavail⟩ } (.transFree i)
    else s.transFreeEnd i

/-- `trans->callref = 0; trans_free(trans);`, with another change before. -/
def clearAndFree (s : CcNet) (i : Nat) (f : CcTrans → CcTrans) : CcNet :=
  s.withTrans i fun _ => (s.modifyTrans i fun t => { f t with callref := 0 }).transFree i

end CcNet

/-! ## Handlers -/

/-- A routine of the downlink table. -/
abbrev TxRout := CcNet → Nat → CcTrans → GsmMncc → CcNet

/-- A routine of the uplink table. -/
abbrev RxRout := CcNet → Nat → CcTrans → Option MnccCause → CcNet

/-- The state of a call and its timer change. -/
def CcBody.to (state : CcState) (timer : Option CcTimer) (b : CcBody) : CcBody :=
  { b with state := state, timer := timer }

/-- A routine that changes the call and sends a message. -/
def ccTx (type : CcTx) (change : GsmMncc → CcBody → CcBody) (cause : GsmMncc → Option MnccCause) : TxRout :=
  fun s i t data => (s.modifyTrans i fun t => { t with body := change data t.body }).connSendmsg i t type (cause data)

/-- The cause of the message, or the default one. -/
def causeOrDefault (data : GsmMncc) : Option MnccCause := some (data.cause.getD ⟨.prnSLu, .normalUnspec⟩)

def gsm48CcTxCallProc : TxRout := ccTx .callProc (fun _ b => { b with state := .moCallProc }) fun _ => none
def gsm48CcTxAlerting : TxRout := ccTx .alerting (fun _ b => { b with state := .callDelivered }) fun _ => none
def gsm48CcTxProgress : TxRout := ccTx .progress (fun _ b => b) fun _ => none
def gsm48CcTxConnect : TxRout := ccTx .connect (fun _ => CcBody.to .connectInd (some .t313)) fun _ => none
def gsm48CcTxConnectAck : TxRout := ccTx .connectAck (fun _ b => { b with state := .active }) fun _ => none
def gsm48CcTxFacility : TxRout := ccTx .facility (fun _ b => b) fun _ => none
def gsm48CcTxHoldAck : TxRout := ccTx .holdAck (fun _ b => b) fun _ => none
def gsm48CcTxHoldRej : TxRout := ccTx .holdRej (fun _ b => b) causeOrDefault
def gsm48CcTxRetrieveAck : TxRout := ccTx .retrAck (fun _ b => b) fun _ => none
def gsm48CcTxRetrieveRej : TxRout := ccTx .retrRej (fun _ b => b) causeOrDefault
def gsm48CcTxStartDtmfAck : TxRout := ccTx .startDtmfAck (fun _ b => b) fun _ => none
def gsm48CcTxStartDtmfRej : TxRout := ccTx .startDtmfRej (fun _ b => b) causeOrDefault
def gsm48CcTxStopDtmfAck : TxRout := ccTx .stopDtmfAck (fun _ b => b) fun _ => none
def gsm48CcTxModify : TxRout := ccTx .modify (fun _ => CcBody.to .moTermModify (some .t323)) fun _ => none
def gsm48CcTxModifyComplete : TxRout := ccTx .modifyCompl (fun _ b => { b with state := .active }) fun _ => none
def gsm48CcTxModifyReject : TxRout := ccTx .modifyReject (fun _ b => { b with state := .active }) GsmMncc.cause
def gsm48CcTxNotify : TxRout := ccTx .notify (fun _ b => b) fun _ => none
def gsm48CcTxUserinfo : TxRout := ccTx .userInfo (fun _ b => b) fun _ => none

/-- `gsm48_cc_tx_disconnect` stores the cause for the expiry of T306. -/
def gsm48CcTxDisconnect : TxRout :=
  ccTx .disconnect (fun data b => { b with state := .disconnectInd, timer := some .t306, msg := data }) causeOrDefault

/-- `gsm48_cc_tx_setup`. -/
def gsm48CcTxSetup : TxRout := fun s i t _ =>
  let refuse := s.upcall i .relInd { callref := t.callref, cause := some ⟨.prnSLu, .resourceUnavail⟩ } (.clearCallref i)
  -- the transaction id must not be assigned
  if t.transactionId ≠ unassignedId then refuse
  else
    match transAssignTransId s.transList t.subscr .cc 0 with
    | none => refuse
    | some j =>
      (s.modifyTrans i fun t =>
        { t with transactionId := j, body := t.body.to .callPresent (some .t303) }).connSendmsg i
          { t with transactionId := j } .setup none

/-- `gsm48_cc_tx_release`. -/
def gsm48CcTxRelease : TxRout := fun s i t rel =>
  (s.modifyTrans i fun t =>
    { t with
      callref := 0
      body := { state := .releaseReq, timer := some .t308, t308Second := false, msg := rel } }).connSendmsg i t .release
        rel.cause

/-- `gsm48_cc_tx_release_compl`. -/
def gsm48CcTxReleaseCompl : TxRout := fun s i t rel =>
  ((s.modifyTrans i fun t => { t with callref := 0, body := { t.body with timer := none } }).connSendmsg i t
    .releaseCompl rel.cause).transFree i

/-- `_gsm48_lchan_modify`. -/
def gsm48LchanModify : TxRout := fun s _ t _ => s.emit (.assignReq t.conn)

/-- A routine that changes the call and tells the application, with the cause where the message has one. -/
def ccRx (ind : MnccInd) (change : CcBody → CcBody) (withCause : Bool) : RxRout := fun s i t cause =>
  (s.modifyTrans i fun t => { t with body := change t.body }).mnccRecvmsg (some i) ind
    { callref := t.callref, cause := if withCause then cause else none }

def gsm48CcRxSetup : RxRout := ccRx .setupInd (fun b => { b with state := .initiated }) false
def gsm48CcRxCallConf : RxRout := ccRx .callConfInd (CcBody.to .moTermCallConf (some .t310)) true
def gsm48CcRxAlerting : RxRout := ccRx .alertInd (CcBody.to .callReceived (some .t301)) false
def gsm48CcRxConnect : RxRout := ccRx .setupCnf (CcBody.to .connectRequest none) false
def gsm48CcRxConnectAck : RxRout := ccRx .setupComplInd (CcBody.to .active none) false
def gsm48CcRxDisconnect : RxRout := ccRx .discInd (CcBody.to .disconnectReq none) true
def gsm48CcRxFacility : RxRout := ccRx .facilityInd id false
def gsm48CcRxHold : RxRout := ccRx .holdInd id false
def gsm48CcRxRetrieve : RxRout := ccRx .retrieveInd id false
def gsm48CcRxStartDtmf : RxRout := ccRx .startDtmfInd id false
def gsm48CcRxStopDtmf : RxRout := ccRx .stopDtmfInd id false
def gsm48CcRxModify : RxRout := ccRx .modifyInd (fun b => { b with state := .moOrigModify }) false
def gsm48CcRxModifyComplete : RxRout := ccRx .modifyCnf (CcBody.to .active none) false
def gsm48CcRxModifyReject : RxRout := ccRx .modifyRej (CcBody.to .active none) true
def gsm48CcRxNotify : RxRout := ccRx .notifyInd id false
def gsm48CcRxUserinfo : RxRout := ccRx .userinfoInd id false

/-- `gsm48_cc_rx_status_enq`. -/
def gsm48CcRxStatusEnq : RxRout := fun s i t _ => s.connSendmsg i t .status none

/-- `gsm48_cc_rx_release`. -/
def gsm48CcRxRelease : RxRout := fun s i t cause =>
  let s := s.modifyTrans i CcNet.stopCcTimer
  if t.body.state = .releaseReq then
    -- release collision 5.4.5
    s.upcall i .relCnf { callref := t.callref, cause := cause } (.rxRelease i)
  else
    (s.connSendmsg i t .releaseCompl none).upcall i .relInd { callref := t.callref, cause := cause } (.rxRelease i)

/-- What `gsm48_cc_rx_release_compl` tells the application. -/
def releaseComplInd : CcState → MnccInd
  | .callPresent => .rejInd
  | .releaseReq => .relCnf
  | _ => .relInd

/-- `gsm48_cc_rx_release_compl`. -/
def gsm48CcRxReleaseCompl : RxRout := fun s i t cause =>
  let s := s.modifyTrans i CcNet.stopCcTimer
  if t.callref ≠ 0 then
    s.upcall i (releaseComplInd t.body.state) { callref := t.callref, cause := cause } (.clearCallref i)
  else s.clearAndFree i id

namespace CcNet

/-- `gsm48_cc_timeout`, on a timer after which the call is released. -/
def timeoutRelease (s : CcNet) (i : Nat) (t : CcTrans) (l4 mo : MnccCause) : CcNet :=
  let rel : GsmMncc := { callref := t.callref, cause := some mo }
  if t.callref ≠ 0 then s.upcall i .relInd { callref := t.callref, cause := some l4 } (.timeoutRelease i rel)
  else gsm48CcTxRelease s i t rel

/-- `gsm48_cc_timeout`, on a timer after which the call is disconnected. -/
def timeoutDisconnect (s : CcNet) (i : Nat) (t : CcTrans) (l4 : MnccCause) : CcNet :=
  let rel : GsmMncc := { callref := t.callref, cause := some ⟨.user, .recoveryTimer⟩ }
  if t.callref ≠ 0 then s.upcall i .discInd { callref := t.callref, cause := some l4 } (.timeoutDisconnect i rel)
  else gsm48CcTxDisconnect s i t rel

/-- `gsm48_cc_timeout`. -/
def gsm48CcTimeout (s : CcNet) (i : Nat) : CcNet :=
  s.withTrans i fun t =>
    let s := s.modifyTrans i stopCcTimer
    match t.body.timer with
    | none => s
    | some .t303 => s.timeoutRelease i t ⟨.prnSLu, .userNotrespond⟩ ⟨.user, .recoveryTimer⟩
    | some .t310 | some .t301 => s.timeoutDisconnect i t ⟨.prnSLu, .userNotrespond⟩
    | some .t313 | some .t323 => s.timeoutDisconnect i t ⟨.prnSLu, .normalUnspec⟩
    | some .t308 =>
      if t.body.t308Second then s.transFree i
      else
        -- restart T308 a second time; stay in release state
        (gsm48CcTxRelease s i t t.body.msg).modifyTrans i fun t =>
          { t with body := { t.body with t308Second := true } }
    | some .t306 =>
      s.timeoutRelease i t ⟨.prnSLu, .normalUnspec⟩ (t.body.msg.cause.getD ⟨.user, .other 0⟩)

/-- The application returns: the handler goes on. -/
def resume (s : CcNet) : Cont → CcNet
  | .transFree i => s.transFreeEnd i
  | .clearCallref i => s.clearAndFree i id
  | .rxRelease i => s.clearAndFree i fun t => { t with body := { t.body with state := .null } }
  | .pagingExpired i => s.clearAndFree i fun t => { t with pagingRequest := false }
  | .timeoutRelease i rel =>
    s.withTrans i fun t =>
      gsm48CcTxRelease (s.modifyTrans i fun t => { t with callref := 0 }) i { t with callref := 0 } rel
  | .timeoutDisconnect i rel => s.withTrans i fun t => gsm48CcTxDisconnect s i t rel

end CcNet

/-! ## Tables -/

/-- `struct downstate`. -/
structure Downstate where
  states : List CcState
  type : MnccReq
  rout : TxRout

/-- `downstatelist`. -/
def downstatelist : List Downstate :=
  [ -- mobile originating call establishment
    ⟨[.initiated], .callProcReq, gsm48CcTxCallProc⟩,
    ⟨[.initiated, .moCallProc], .alertReq, gsm48CcTxAlerting⟩,
    ⟨[.initiated, .moCallProc, .callDelivered], .setupRsp, gsm48CcTxConnect⟩,
    ⟨[.moCallProc], .progressReq, gsm48CcTxProgress⟩,
    -- mobile terminating call establishment
    ⟨[.null], .setupReq, gsm48CcTxSetup⟩,
    ⟨[.connectRequest], .setupComplReq, gsm48CcTxConnectAck⟩,
    -- signalling during call
    ⟨[.active], .notifyReq, gsm48CcTxNotify⟩,
    ⟨allStatesBut [.null, .releaseReq], .facilityReq, gsm48CcTxFacility⟩,
    ⟨allStates, .startDtmfRsp, gsm48CcTxStartDtmfAck⟩,
    ⟨allStates, .startDtmfRej, gsm48CcTxStartDtmfRej⟩,
    ⟨allStates, .stopDtmfRsp, gsm48CcTxStopDtmfAck⟩,
    ⟨[.active], .holdCnf, gsm48CcTxHoldAck⟩,
    ⟨[.active], .holdRej, gsm48CcTxHoldRej⟩,
    ⟨[.active], .retrieveCnf, gsm48CcTxRetrieveAck⟩,
    ⟨[.active], .retrieveRej, gsm48CcTxRetrieveRej⟩,
    ⟨[.active], .modifyReq, gsm48CcTxModify⟩,
    ⟨[.moOrigModify], .modifyRsp, gsm48CcTxModifyComplete⟩,
    ⟨[.moOrigModify], .modifyRej, gsm48CcTxModifyReject⟩,
    ⟨[.active], .userinfoReq, gsm48CcTxUserinfo⟩,
    -- clearing
    ⟨[.initiated], .rejReq, gsm48CcTxReleaseCompl⟩,
    ⟨allStatesBut [.null, .disconnectInd, .releaseReq, .disconnectReq], .discReq, gsm48CcTxDisconnect⟩,
    ⟨allStatesBut [.null, .releaseReq], .relReq, gsm48CcTxRelease⟩,
    -- special
    ⟨allStates, .lchanModify, gsm48LchanModify⟩]

/-- `struct datastate`. -/
structure Datastate where
  states : List CcState
  type : CcMsg
  rout : RxRout

/-- `datastatelist`. -/
def datastatelist : List Datastate :=
  [ -- mobile originating call establishment
    ⟨[.null], .setup, gsm48CcRxSetup⟩,
    ⟨[.null], .emergSetup, gsm48CcRxSetup⟩,
    ⟨[.connectInd], .connectAck, gsm48CcRxConnectAck⟩,
    -- mobile terminating call establishment
    ⟨[.callPresent], .callConf, gsm48CcRxCallConf⟩,
    ⟨[.callPresent, .moTermCallConf], .alerting, gsm48CcRxAlerting⟩,
    ⟨[.callPresent, .moTermCallConf, .callReceived], .connect, gsm48CcRxConnect⟩,
    -- signalling during call
    ⟨allStatesBut [.null], .facility, gsm48CcRxFacility⟩,
    ⟨[.active], .notify, gsm48CcRxNotify⟩,
    ⟨allStates, .startDtmf, gsm48CcRxStartDtmf⟩,
    ⟨allStates, .stopDtmf, gsm48CcRxStopDtmf⟩,
    ⟨allStates, .statusEnq, gsm48CcRxStatusEnq⟩,
    ⟨[.active], .hold, gsm48CcRxHold⟩,
    ⟨[.active], .retr, gsm48CcRxRetrieve⟩,
    ⟨[.active], .modify, gsm48CcRxModify⟩,
    ⟨[.moTermModify], .modifyCompl, gsm48CcRxModifyComplete⟩,
    ⟨[.moTermModify], .modifyReject, gsm48CcRxModifyReject⟩,
    ⟨[.active], .userInfo, gsm48CcRxUserinfo⟩,
    -- clearing
    ⟨allStatesBut [.null, .releaseReq], .disconnect, gsm48CcRxDisconnect⟩,
    ⟨allStatesBut [.null], .release, gsm48CcRxRelease⟩,
    ⟨allStates, .releaseCompl, gsm48CcRxReleaseCompl⟩]

/-- What `mncc_tx_to_cc` finds out about the called party: whether a number or an IMSI is given, the subscriber, whether
    it is attached, and its connection. -/
structure SetupLookup where
  hasNumber : Bool := true
  subscr : Option Nat := none
  attached : Bool := true
  conn : Option Nat := none

namespace CcNet

/-- The row for the state and the request, if any. -/
def txRow (t : CcTrans) (type : MnccReq) : Option Downstate :=
  downstatelist.find? fun row => row.type == type && row.states.contains t.body.state

/-- The end of `mncc_tx_to_cc`: the routine for the current state and the request. -/
def routDown (s : CcNet) (i : Nat) (type : MnccReq) (data : GsmMncc) : CcNet :=
  s.withTrans i fun t =>
    match txRow t type with
    | some row => row.rout s i t data
    | none => s

/-- `mncc_tx_to_cc` refuses a request for which there is no transaction. -/
def refuse (s : CcNet) (callref : BitVec 32) (value : CcCause) : CcNet :=
  s.mnccRecvmsg none .relInd { callref := callref, cause := some ⟨.prnSLu, value⟩ }

/-- `mncc_tx_to_cc`, a SETUP request for an attached subscriber. -/
def mnccSetup (s : CcNet) (subscr : Nat) (conn : Option Nat) (data : GsmMncc) : CcNet :=
  let i := s.transList.next
  let t : CcTrans := ⟨.cc, unassignedId, subscr, conn, data.callref, false, {}⟩
  match conn with
  | some _ => { s with transList := s.transList.alloc t }.routDown i .setupReq data
  | none =>
    -- paging has already started for another transaction with this subscriber
    if s.transList.entries.any fun e => e.2.subscr == subscr then
      { s with transList := s.transList.alloc t }.transFree i
    else
      { s with
        transList := s.transList.alloc { t with pagingRequest := true, body := { msg := data } } }.emit (.getChannel i)

/-- `mncc_tx_to_cc`. -/
def mnccTxToCc (s : CcNet) (type : MnccReq) (data : GsmMncc) (lookup : SetupLookup) : CcNet :=
  -- special messages
  if type = .bridge ∨ type = .frameDrop ∨ type = .frameRecv then s
  else
    match transFindByCallref s.transList data.callref with
    | none =>
      if type ≠ .setupReq then s.refuse data.callref .invalTransId
      else if !lookup.hasNumber then s.refuse data.callref .invNrFormat
      else
        match lookup.subscr with
        | none => s.refuse data.callref .unassignedNr
        | some subscr =>
          if !lookup.attached then s.refuse data.callref .destOoo
          else s.mnccSetup subscr lookup.conn data
    | some (i, t) =>
      match t.conn with
      | none =>
        -- paging did not respond yet
        s.upcall i (if type = .relReq then .relCnf else .relInd)
          { callref := data.callref, cause := some ⟨.prnSLu, .normCallClear⟩ } (.clearCallref i)
      | some _ => s.routDown i type data

/-- The row for the state and the message, if any. -/
def rxRow (t : CcTrans) (type : CcMsg) : Option Datastate :=
  datastatelist.find? fun row => row.type == type && row.states.contains t.body.state

/-- The end of `gsm0408_rcv_cc`: the routine for the current state and the message. -/
def routData (s : CcNet) (i : Nat) (type : CcMsg) (cause : Option MnccCause) : CcNet :=
  s.withTrans i fun t =>
    match rxRow t type with
    | some row => row.rout s i t cause
    | none => s

/-- `gsm0408_rcv_cc`. -/
def gsm0408RcvCc (s : CcNet) (conn subscr : Nat) (protoDiscr : Octet) (type : CcMsg) (cause : Option MnccCause) :
    CcNet :=
  if type = .undefined then s
  else
    match transFindById s.transList subscr .cc (ccTransId protoDiscr) with
    | some (i, _) => s.routData i type cause
    | none =>
      { s with
        transList := s.transList.alloc ⟨.cc, ccTransId protoDiscr, subscr, some conn, s.newCallref, false, {}⟩
        newCallref := s.newCallref + 1 }.routData s.transList.next type cause

/-- `setup_trig_pag_evt`, for the transaction whose paging request it was: with the connection, or expired. -/
def setupTrigPagEvt (s : CcNet) (i : Nat) (conn : Option Nat) : CcNet :=
  match s.transList.get? i with
  | none => s
  | some t =>
    if !t.pagingRequest || t.conn.isSome then s
    else
      match conn with
      | some conn =>
        gsm48CcTxSetup (s.modifyTrans i fun t => { t with pagingRequest := false, conn := some conn }) i
          { t with pagingRequest := false, conn := some conn } t.body.msg
      | none =>
        s.upcall i .relInd { callref := t.callref, cause := some ⟨.prnSLu, .destOoo⟩ } (.pagingExpired i)

end CcNet

/-! ## Runs -/

/-- What happens: a message of a phone, the expiry of a timer, a request of the application, its return, the result of
    a paging, the loss of the connection of a transaction, the end of all transactions. -/
inductive CcEvent where
  | rcvCc (conn subscr : Nat) (protoDiscr : Octet) (type : CcMsg) (cause : Option MnccCause)
  | timeout (i : Nat)
  | mncc (type : MnccReq) (data : GsmMncc) (lookup : SetupLookup)
  | ret
  | paging (i : Nat) (conn : Option Nat)
  | clear (i : Nat)
  | clearAll (i : Nat)

namespace CcNet

/-- One event. Messages of phones, timers and the loss of connections wait until every handler has come to its end; the
    application and the paging do not. -/
def step (s : CcNet) : CcEvent → Option CcNet
  | .rcvCc conn subscr protoDiscr type cause =>
    if s.stack = [] then some (s.gsm0408RcvCc conn subscr protoDiscr type cause) else none
  | .timeout i =>
    if s.stack = [] ∧ (s.transList.get? i).any (fun t => t.body.timer.isSome) = true then some (s.gsm48CcTimeout i)
    else none
  | .mncc type data lookup => some (s.mnccTxToCc type data lookup)
  | .ret =>
    match s.stack with
    | [] => none
    | cont :: stack => some ({ s with stack := stack }.resume cont)
  | .paging i conn => some (s.setupTrigPagEvt i conn)
  | .clear i =>
    if s.stack = [] ∧ (s.transList.get? i).any (fun t => t.conn.isSome) = true then some (s.transFree i) else none
  | .clearAll i =>
    if s.stack = [] ∧ (s.transList.get? i).isSome = true then some (s.clearAndFree i id) else none

end CcNet

/-- Call control, from a network without calls. -/
def ccSystem : System CcNet CcEvent where
  init s := s = {}
  step s ev s' := s.step ev = some s'

end OpenBsc.Libmsc
