import OpenBsc.Lib.Transition
import OpenBsc.Libbsc.ChanRequest

/-!
# `Libbsc.RadioChannels` — the life of radio channels (`abis_rsl.c`, `chan_alloc.c`)

A channel is allocated for a CHANNEL REQUIRED, an assignment or a handover, activated, released and freed. Its state and
its timers are set by the messages of the BTS, by the timers, and by those who hold it; connections are numbers here,
and what `bsc_api.c` and `handover_logic.c` do to a channel is an event for each call.
-/

namespace OpenBsc.Libbsc

open Transition

/-! ## Data -/

/-- A channel: the BTS, and the channel of it. -/
structure ChanId where
  bts : Nat
  ref : LchanRef
  deriving DecidableEq

/-- `lchan->rqd_ref` and `lchan->rqd_ta`. The messages are numbered. -/
structure ChanRqd where
  id : Nat
  ref : ReqRef
  ta : Octet

/-- The callback of `lchan->act_timer`: `lchan_act_tmr_cb` or `lchan_deact_tmr_cb`. -/
inductive ActTimerCb where
  | act | deact

/-- What the allocator does not look at in `struct gsm_lchan`: the connection, the request, the timers that run, and how
    the channel is released. `t10` is the T10 of the connection while this is its secondary channel. -/
structure LchanLife where
  conn : Option Nat := none
  rqd : Option ChanRqd := none
  actTimer : Option ActTimerCb := none
  t3101 : Bool := false
  t3111 : Bool := false
  errorTimer : Bool := false
  t10 : Bool := false
  sachDeact : Bool := false
  releaseReason : Octet := 0

/-- `S_LCHAN_*`, as far as others act on them. -/
inductive LchanSignal where
  | activateAck | activateNack | unexpectedRelease
  deriving DecidableEq

/-- What happens: a CHANNEL REQUIRED comes and is answered; a channel is allocated, for a CHANNEL REQUIRED or somebody
    else, and freed; RSL messages about a channel; its error timer expires, or its transceiver is reset. -/
inductive RadioOut where
  | chanRqd (n b : Nat) (ref : ReqRef) (ta : Octet)
  | immAss (n : Nat) (id : ChanId) (ia : ImmAss)
  | immAssRej (n b : Nat) (iar : ImmAssRej) (len : Nat)
  | allocated (id : ChanId) (n? : Option Nat)
  | freed (id : ChanId)
  | chanActiv (id : ChanId)
  | rfChanRel (id : ChanId) (error : Bool)
  | releaseRequest (id : ChanId) (linkId reason : Octet)
  | rrRelease (id : ChanId)
  | signal (id : ChanId) (s : LchanSignal)
  | errorTimeout (id : ChanId)
  | reset (id : ChanId)
  deriving DecidableEq

/-- A channel while a handler works on it, and what the handler has told others so far. -/
structure RadioChan where
  id : ChanId
  lchan : GsmLchan
  life : LchanLife
  outs : List RadioOut := []

/-- The cause of a CHANNEL ACTIVATION NACK. -/
inductive RslCause where
  | rchAlrActvAlloc | other
  deriving DecidableEq

/-- The cause of an ERROR INDICATION. -/
inductive RllCause where
  | t200Expired | other

/-! ## Handlers of one channel -/

namespace RadioChan

def emit (ch : RadioChan) (out : RadioOut) : RadioChan := { ch with outs := ch.outs ++ [out] }

/-- `rsl_lchan_set_state`. -/
def setState (ch : RadioChan) (state : LchanState) : RadioChan := { ch with lchan := { ch.lchan with state := state } }

def setLife (ch : RadioChan) (f : LchanLife → LchanLife) : RadioChan := { ch with life := f ch.life }

/-- `S_LCHAN_UNEXPECTED_RELEASE`: the connection gives the channel up, and stops T10 if it was its secondary one. -/
def unexpectedRelease (ch : RadioChan) : RadioChan :=
  match ch.life.conn with
  | none => ch
  | some _ => (ch.emit (.signal ch.id .unexpectedRelease)).setLife fun life => { life with conn := none, t10 := false }

/-- `lchan_free`. -/
def lchanFree (ch : RadioChan) : RadioChan :=
  let unused : RadioChan := { ch with lchan := { ch.lchan with type := .none, state := .none } }
  let alone := unused.unexpectedRelease
  (alone.setLife fun life =>
    { life with t3101 := false, rqd := none, sachDeact := false, releaseReason := 0 }).emit (.freed ch.id)

/-- `lchan_reset`. -/
def lchanReset (ch : RadioChan) : RadioChan :=
  let unused : RadioChan := { ch with lchan := { ch.lchan with type := .none, state := .none } }
  unused.setLife fun life => { life with t3101 := false, t3111 := false, errorTimer := false }

/-- `rsl_rf_chan_release`. -/
def rslRfChanRelease (ch : RadioChan) (error : Bool) : RadioChan :=
  if ch.lchan.state = .relErr then ch
  else
    let ch := if error then (ch.setState .relErr).setLife fun life => { life with errorTimer := true } else ch
    (ch.setLife fun life => { life with actTimer := some .deact }).emit (.rfChanRel ch.id error)

/-! ### The release sequence -/

/-- The first SAPI other than 0 that is up. -/
def nextSapi (ch : RadioChan) : Option Octet :=
  ([1, 2, 3, 4, 5, 6, 7].find? fun sapi : Nat => ch.lchan.sapis.getD sapi 0 ≠ 0).map UInt8.ofNat

/-- The channel is a TCH. -/
def isTch (ch : RadioChan) : Bool := ch.lchan.type == .tchF || ch.lchan.type == .tchH

/-- `_lchan_handle_release`. -/
def lchanHandleRelease (ch : RadioChan) : RadioChan :=
  match ch.nextSapi with
  | some sapi => ch.emit (.releaseRequest ch.id (if ch.isTch then sapi ||| 0x40 else sapi) ch.life.releaseReason)
  | none =>
    if ch.life.sachDeact then ch.emit (.rrRelease ch.id)
    else (ch.emit (.releaseRequest ch.id 0 ch.life.releaseReason)).setState .relReq

/-- `lchan_release`. Who releases a secondary channel has stopped T10. -/
def lchanRelease (ch : RadioChan) (sachDeact : Bool) (reason : Octet) : RadioChan :=
  ((ch.setState .relReq).setLife fun life =>
    { life with conn := none, t10 := false, releaseReason := reason, sachDeact := sachDeact }).lchanHandleRelease

/-- `rsl_handle_release`. -/
def rslHandleRelease (ch : RadioChan) : RadioChan :=
  -- maybe we have only brought down one RLL
  if ch.lchan.state ≠ .relReq ∨ ch.lchan.sapis.any (· ≠ 0) then ch
  else ch.setLife fun life => { life with t3111 := true }

/-- `rsl_lchan_rll_release`. -/
def rslLchanRllRelease (ch : RadioChan) (linkId : Octet) : RadioChan :=
  if ch.lchan.state ≠ .relReq ∨ linkId &&& 7 = 0 then ch else ch.lchanHandleRelease

/-! ### RSL messages -/

/-- `rsl_send_imm_assignment`, for the request that is parked on the channel. T3101 is started. -/
def rslSendImmAssignment (ch : RadioChan) (freq : TsFrequency) (chanNr : Octet) (rqd : ChanRqd) : RadioChan :=
  (ch.setLife fun life => { life with t3101 := true }).emit
    (.immAss rqd.id ch.id (immAssignment freq chanNr rqd.ref rqd.ta))

/-- `rsl_rx_chan_act_ack`; `ieChan` is whether the message has a channel number. -/
def rslRxChanActAck (ch : RadioChan) (freq : TsFrequency) (chanNr : Octet) (ieChan : Bool) : RadioChan :=
  if ieChan then
    let active := (ch.setLife fun life => { life with actTimer := none }).setState .active
    let answered :=
      match active.life.rqd with
      | none => active
      | some rqd => (active.rslSendImmAssignment freq chanNr rqd).setLife fun life => { life with rqd := none }
    answered.emit (.signal ch.id .activateAck)
  else ch

/-- `rsl_rx_chan_act_nack`; `givenUp` is whether the connection gives the channel up on the signal, as it does a
    secondary or a handover channel. -/
def rslRxChanActNack (ch : RadioChan) (ieChan : Bool) (cause : Option RslCause) (givenUp : Bool) : RadioChan :=
  let stopped := ch.setLife fun life => { life with actTimer := none }
  if ieChan then
    let refused :=
      match cause with
      | some .rchAlrActvAlloc => stopped.rslRfChanRelease true
      | some .other | none => stopped.setState .none
    let told := refused.emit (.signal ch.id .activateNack)
    (if givenUp then told.setLife fun life => { life with conn := none, t10 := false } else told).lchanFree
  else stopped

/-- `rsl_rx_rf_chan_rel_ack`. -/
def rslRxRfChanRelAck (ch : RadioChan) : RadioChan :=
  let stopped := ch.setLife fun life => { life with actTimer := none, t3111 := false }
  -- we have an error timer pending to release that
  (if stopped.lchan.state ≠ .relErr then stopped.setState .none else stopped).lchanFree

def setSapi (ch : RadioChan) (linkId sapi : Octet) : RadioChan :=
  { ch with lchan := { ch.lchan with sapis := ch.lchan.sapis.set (linkId &&& 7).toNat sapi } }

/-- ESTABLISH INDICATION: T3101 is stopped. -/
def estInd (ch : RadioChan) (linkId : Octet) : RadioChan :=
  (ch.setSapi linkId 1).setLife fun life => { life with t3101 := false }

/-- RELEASE INDICATION and RELEASE CONFIRM. -/
def sapiReleased (ch : RadioChan) (linkId : Octet) : RadioChan :=
  ((ch.setSapi linkId 0).rslHandleRelease).rslLchanRllRelease linkId

/-- `rsl_rx_rll_err_ind`. -/
def rslRxRllErrInd (ch : RadioChan) (cause : RllCause) : RadioChan :=
  match cause with
  | .t200Expired => ch.rslRfChanRelease true
  | .other => ch

/-! ### Timers -/

/-- `lchan_act_tmr_cb` and `lchan_deact_tmr_cb`. -/
def lchanActTmrCb (ch : RadioChan) : RadioChan :=
  ((ch.setLife fun life => { life with actTimer := none }).setState .none).lchanFree

/-- `t3101_expired`. -/
def t3101Expired (ch : RadioChan) : RadioChan :=
  (ch.setLife fun life => { life with t3101 := false }).rslRfChanRelease true

/-- `t3111_expired`. -/
def t3111Expired (ch : RadioChan) : RadioChan :=
  (ch.setLife fun life => { life with t3111 := false }).rslRfChanRelease false

/-- `error_timeout_cb`. -/
def errorTimeoutCb (ch : RadioChan) : RadioChan :=
  let expired := (ch.setLife fun life => { life with errorTimer := false }).emit (.errorTimeout ch.id)
  if expired.lchan.state ≠ .relErr then expired else expired.setState .none

/-- `assignment_t10_timeout`, on the secondary channel. -/
def assignmentT10Timeout (ch : RadioChan) : RadioChan := ch.lchanRelease false 1

/-! ### Activation and reset -/

/-- `rsl_rx_chan_rqd`, on the channel that was allocated. -/
def activateForRqd (ch : RadioChan) (rqd : ChanRqd) : RadioChan :=
  ((ch.setState .actReq).setLife fun life =>
    { life with rqd := some rqd, actTimer := some .act }).emit (.chanActiv ch.id)

/-- `handle_new_assignment` and `bsc_handover_start`, on the channel that was allocated; `sent` is whether
    `rsl_chan_activate_lchan` succeeds. Only an assignment has T10. -/
def activateForConn (ch : RadioChan) (c : Nat) (t10 sent : Bool) : RadioChan :=
  if sent then
    ((ch.emit (.chanActiv ch.id)).setState .actReq).setLife fun life => { life with conn := some c, t10 := t10 }
  else ch.lchanFree

/-- What `inp_sig_cb` does to a channel of a transceiver whose link is lost. -/
def trxReset (ch : RadioChan) : RadioChan :=
  ((if ch.lchan.state ≠ .none then ch.lchanFree else ch).lchanReset).emit (.reset ch.id)

end RadioChan

/-! ## The network -/

/-- A channel of a BTS. -/
def GsmBts.lchan? (bts : GsmBts) (ref : LchanRef) : Option GsmLchan :=
  bts.trxList[ref.trx]?.map fun trx => (trx.ts.get ref.ts).lchan.get ref.ss

/-- The combination of a timeslot. -/
def GsmBts.pchan? (bts : GsmBts) (trx : Nat) (ts : Fin 8) : Option PhysChanConfig :=
  bts.trxList[trx]?.map fun t => (t.ts.get ts).pchan

/-- The network: its BTSs, the life of their channels, the frequency of each timeslot, what `struct gsm_network` says
    about requests, and the number of CHANNEL REQUIRED so far. -/
structure RadioNet where
  btss : List GsmBts
  life : ChanId → LchanLife := fun _ => {}
  freq : Nat → Nat → Fin 8 → TsFrequency
  neci : Bool := false
  pagAnyTch : Bool := false
  t3122 : Nat := 10
  next : Nat := 0
  outs : List RadioOut := []

namespace RadioNet

def emit (net : RadioNet) (out : RadioOut) : RadioNet := { net with outs := net.outs ++ [out] }

def modifyBts (net : RadioNet) (b : Nat) (f : GsmBts → GsmBts) : RadioNet := { net with btss := net.btss.modify b f }

/-- A channel, as a handler finds it. -/
def chan? (net : RadioNet) (id : ChanId) : Option RadioChan :=
  (net.btss[id.bts]?.bind fun bts => bts.lchan? id.ref).map fun lchan =>
    { id := id, lchan := lchan, life := net.life id }

/-- A handler is done with a channel. -/
def put (net : RadioNet) (id : ChanId) (ch : RadioChan) : RadioNet :=
  { net with
    btss := net.btss.modify id.bts fun bts => bts.modifyLchan id.ref fun _ => ch.lchan
    life := fun i => if i = id then ch.life else net.life i
    outs := net.outs ++ ch.outs }

/-- A handler works on a channel. -/
def on (net : RadioNet) (id : ChanId) (f : RadioChan → RadioChan) : Option RadioNet :=
  (net.chan? id).map fun ch => net.put id (f ch)

/-- A handler works on a channel if a timer of the channel runs. -/
def onTimer (net : RadioNet) (id : ChanId) (running : LchanLife → Bool) (f : RadioChan → RadioChan) : Option RadioNet :=
  if running (net.life id) then net.on id f else none

/-- The channel number of a channel. -/
def chanNr (net : RadioNet) (id : ChanId) : Octet :=
  let pchan := (net.btss[id.bts]?.bind fun bts => bts.pchan? id.ref.trx id.ref.ts).getD .none
  gsmTs2chanNr pchan id.ref.ts id.ref.ss

/-- The frequency of a channel. -/
def freqOf (net : RadioNet) (id : ChanId) : TsFrequency := net.freq id.bts id.ref.trx id.ref.ts

/-- What `lchan_alloc` leaves of the network, and the channel it returns. -/
def lchanAlloc (net : RadioNet) (b : Nat) (bts : GsmBts) (type : GsmChan) (allowBigger : Bool) :
    RadioNet × Option ChanId :=
  let s := Libbsc.lchanAlloc bts type allowBigger
  ({ net with btss := net.btss.set b s.bts }, s.lchan.map fun ref => ⟨b, ref⟩)

/-- A CHANNEL REQUIRED is counted. -/
def chanRqdCame (net : RadioNet) (b : Nat) (ref : ReqRef) (ta : Octet) : RadioNet :=
  { net.emit (.chanRqd net.next b ref ta) with next := net.next + 1 }

/-- `lchan_alloc` for a request. A location update may get a TCH if there is no SDCCH. -/
def allocForRqd (net : RadioNet) (b : Nat) (bts : GsmBts) (ref : ReqRef) : RadioNet × Option ChanId :=
  net.lchanAlloc b bts (getCtypeByChreq net.neci net.pagAnyTch ref.ra)
    (getReasonByChreq net.neci ref.ra == .locationUpd)

/-- `rsl_send_imm_ass_rej`, unless T3122 is 0. -/
def rejectRqd (net : RadioNet) (n b : Nat) (ref : ReqRef) : RadioNet :=
  let (iar, len) := immAssReject ref (UInt8.ofNat net.t3122)
  if net.t3122 = 0 then net else net.emit (.immAssRej n b iar len)

/-- `rsl_rx_chan_rqd`, behind the parsing. -/
def rslRxChanRqd (net : RadioNet) (b : Nat) (bts : GsmBts) (ref : ReqRef) (ta : Octet) : Option RadioNet :=
  match (net.chanRqdCame b ref ta).allocForRqd b bts ref with
  | (net', none) => some (net'.rejectRqd net.next b ref)
  | (net', some id) =>
    (net'.emit (.allocated id (some net.next))).on id fun ch => ch.activateForRqd ⟨net.next, ref, ta⟩

/-- `handle_new_assignment` (with T10) or `bsc_handover_start`, for a connection. -/
def activate (net : RadioNet) (b : Nat) (bts : GsmBts) (type : GsmChan) (c : Nat) (t10 sent : Bool) : Option RadioNet :=
  match net.lchanAlloc b bts type false with
  | (net, none) => some net
  | (net, some id) => (net.emit (.allocated id none)).on id fun ch => ch.activateForConn c t10 sent

/-- The channels of a transceiver, in the order of `inp_sig_cb`. -/
def trxChannels (b trx : Nat) : List ChanId :=
  (List.finRange 8).flatMap fun ts => (List.finRange 8).map fun ss => ⟨b, trx, ts, ss⟩

/-- `inp_sig_cb` when a link of a transceiver is lost. -/
def trxReset (net : RadioNet) (b trx : Nat) : RadioNet :=
  (trxChannels b trx).foldl (fun net id => (net.on id RadioChan.trxReset).getD net) net

end RadioNet

/-! ## Runs -/

/-- The messages about a dedicated channel or a link on it. -/
inductive RslMsg where
  | chanActivAck (ieChan : Bool)
  | chanActivNack (ieChan : Bool) (cause : Option RslCause) (givenUp : Bool)
  | connFail
  | rfChanRelAck
  | estInd (linkId : Octet)
  | estConf (linkId : Octet)
  | relInd (linkId : Octet)
  | relConf (linkId : Octet)
  | errorInd (cause : RllCause)

/-- What happens: messages of the BTS; calls of `bsc_api.c` and `handover_logic.c`, which activate and release channels,
    take over one that is active, give one up, and stop T10; timers expire; the link of a transceiver is lost; the state
    of the equipment changes. -/
inductive RadioEvent where
  | chanRqd (b : Nat) (data : List Octet)
  | rsl (b trx : Nat) (chanNr : Octet) (msg : RslMsg)
  | assign (b : Nat) (type : GsmChan) (c : Nat) (sent : Bool)
  | handover (b : Nat) (type : GsmChan) (c : Nat) (sent : Bool)
  | newConn (id : ChanId) (c : Nat)
  | giveUp (id : ChanId)
  | release (id : ChanId) (sachDeact : Bool) (reason : Octet)
  | t10Stopped (id : ChanId)
  | t10 (id : ChanId)
  | actTimer (id : ChanId)
  | t3101 (id : ChanId)
  | t3111 (id : ChanId)
  | errorTimer (id : ChanId)
  | trxReset (b trx : Nat)
  | nmTrx (b trx : Nat) (state bbTransc : NmState)
  | nmTs (b trx : Nat) (ts : Fin 8) (state : NmState)
  | pdch (b trx : Nat) (ts : Fin 8) (active : Bool)

/-- What a message does to its channel. -/
def RadioChan.receive (ch : RadioChan) (freq : TsFrequency) (chanNr : Octet) : RslMsg → RadioChan
  | .chanActivAck ieChan => ch.rslRxChanActAck freq chanNr ieChan
  | .chanActivNack ieChan cause givenUp => ch.rslRxChanActNack ieChan cause givenUp
  | .connFail => ch.rslRfChanRelease true
  | .rfChanRelAck => ch.rslRxRfChanRelAck
  | .estInd linkId => ch.estInd linkId
  | .estConf linkId => ch.setSapi linkId 2
  | .relInd linkId | .relConf linkId => ch.sapiReleased linkId
  | .errorInd cause => ch.rslRxRllErrInd cause

namespace RadioNet

/-- The channel that a message of a transceiver is about. -/
def lookup (b trx : Nat) (chanNr : Octet) : Option ChanId :=
  (lchanLookup chanNr).map fun found => ⟨b, trx, found.1, found.2⟩

/-- `gsm0408_rcvmsg` takes a connection for the channel if it is active and has none. -/
def newConn (net : RadioNet) (id : ChanId) (c : Nat) : Option RadioNet :=
  (net.chan? id).bind fun ch =>
    if ch.lchan.state = .active ∧ ch.life.conn = none then
      some (net.put id (ch.setLife fun life => { life with conn := some c }))
    else none

/-- One event. -/
def step (net : RadioNet) : RadioEvent → Option RadioNet
  | .chanRqd b data =>
    net.btss[b]?.bind fun bts =>
      match parseChanRqd data with
      | none => some net
      | some (ref, ta) => net.rslRxChanRqd b bts ref ta
  | .rsl b trx chanNr msg =>
    (lookup b trx chanNr).bind fun id => net.on id fun ch => ch.receive (net.freqOf id) (net.chanNr id) msg
  | .assign b type c sent => net.btss[b]?.bind fun bts => net.activate b bts type c true sent
  | .handover b type c sent => net.btss[b]?.bind fun bts => net.activate b bts type c false sent
  | .newConn id c => net.newConn id c
  | .giveUp id => net.on id fun ch => ch.setLife fun life => { life with conn := none, t10 := false }
  | .release id sachDeact reason => net.on id fun ch => ch.lchanRelease sachDeact reason
  | .t10Stopped id => net.on id fun ch => ch.setLife fun life => { life with t10 := false }
  | .t10 id => net.onTimer id LchanLife.t10 RadioChan.assignmentT10Timeout
  | .actTimer id => net.onTimer id (fun life => life.actTimer.isSome) RadioChan.lchanActTmrCb
  | .t3101 id => net.onTimer id LchanLife.t3101 RadioChan.t3101Expired
  | .t3111 id => net.onTimer id LchanLife.t3111 RadioChan.t3111Expired
  | .errorTimer id => net.onTimer id LchanLife.errorTimer RadioChan.errorTimeoutCb
  | .trxReset b trx => some (net.trxReset b trx)
  | .nmTrx b trx state bbTransc =>
    some (net.modifyBts b fun bts =>
      { bts with trxList := bts.trxList.modify trx fun t => { t with nmState := state, bbTransc := bbTransc } })
  | .nmTs b trx ts state => some (net.modifyBts b fun bts => bts.modifyTs trx ts fun t => { t with nmState := state })
  | .pdch b trx ts active =>
    some (net.modifyBts b fun bts => bts.modifyTs trx ts fun t =>
      { t with flags := if active then t.flags ||| 0x1000 else t.flags &&& ~~~0x1000 })

end RadioNet

/-- A network in which no channel is in use yet. -/
structure RadioNet.Idle (net : RadioNet) : Prop where
  unused : ∀ id ch, net.chan? id = some ch → ch.lchan.isFree = true
  life : net.life = fun _ => {}
  outs : net.outs = []

/-- The channels of a network, none of which is in use at first. -/
def radioSystem : System RadioNet RadioEvent where
  init := RadioNet.Idle
  step net ev net' := net.step ev = some net'

end OpenBsc.Libbsc
