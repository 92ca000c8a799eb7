import OpenBsc.Lib.Transition
import OpenBsc.Sgsn.Gmm
import OpenBsc.Sgsn.Llgmm
import OpenBsc.Sgsn.Session

/-!
# `Sgsn.Runs` — an SGSN and what happens to it

An uplink frame is given to the LLME of its TLLI, which is made if need be, and its message to the layer above. What
that layer asks of the LLC layer is done at the end. Besides frames there are suspensions, timers and what libgtp
reports. Whether a frame is intact and in order is part of the event, and so are the numbers that `rand` gives.
-/

namespace OpenBsc.Sgsn

open Transition

/-! ## The LLC layer -/

/-- The information field of a frame, for the layer that its SAPI belongs to. An SN-PDU may complete an N-PDU. -/
inductive FrameData where
  | none
  | l3 (msg : L3Msg)
  | snPdu (completes : Bool)
  deriving DecidableEq

/-- An uplink LLC frame with a header that can be parsed, the identifiers that came with it and the routeing area of
    its cell; whether it is deciphered to what its FCS says, and whether `gprs_llc_hdr_rx` takes it. -/
structure UlFrame where
  id : MsgId
  cell : GprsRaId
  sapi : Nat := sapiGmm
  cmd : Llc.GprsLlcCmd := .ui
  intact : Bool := true
  inOrder : Bool := true
  data : FrameData
  deriving DecidableEq

/-- What a step gets from outside besides its event: the numbers of `rand`, and whether libgtp has a handle left. -/
structure Given where
  rands : List (BitVec 32) := []
  pdpLeft : Bool := true
  deriving DecidableEq

/-- The mobility and session management, and the LLC layer. -/
structure SgsnInstance where
  gmm : Gmm := {}
  llmes : Pool Llme := .empty

/-- What a handler has made, and what it asks of the LLC layer. -/
def SgsnInstance.ask (build : SgsnBuild) (s : SgsnInstance) (r : Gmm × List LlReq) : SgsnInstance :=
  ⟨r.1, r.2.foldl (LlReq.perform build) s.llmes⟩

/-- The LLME that a frame is given to. LLC belonging to an unassigned TLLI shall be discarded, except UID and XID
    frames with SAPI 1. -/
def llmeOfFrame (build : SgsnBuild) (llmes : Pool Llme) (f : UlFrame) : Option (Pool Llme × Nat) :=
  match lleByTlli build llmes f.id.tlli with
  | some (l, _) => some (llmes, l)
  | none =>
    if f.sapi = sapiGmm ∧ (f.cmd = .xid ∨ f.cmd = .ui) then some (llmeAlloc llmes f.id.tlli, llmes.next) else none

/-- The context of a message, which learns where the message came from. -/
def rcvCtx (build : SgsnBuild) (mms : Pool MmCtx) (id : MsgId) (cell : GprsRaId) (llme : Nat) :
    Pool MmCtx × Option Nat :=
  let found := sgsnMmCtxByTlli build mms id.tlli cell
  (onFound found.1 found.2 fun ctx => { ctx.msgid2mmctx id with llme := some llme }, found.2)

/-- `gsm0408_gprs_rcvmsg`. -/
def gsm0408GprsRcvmsg (build : SgsnBuild) (g : Gmm) (id : MsgId) (cell : GprsRaId) (llme : Nat) (msg : L3Msg)
    (given : Given) : Option (Gmm × List LlReq) :=
  let found := rcvCtx build g.mms id cell llme
  let g := { g with mms := found.1 }
  match msg with
  | .gmm msg => gsm0408RcvGmm build g found.2 id cell llme msg given.rands
  | .sm ti msg => some (gsm0408RcvGsm g found.2 id ti msg given.pdpLeft)
  | .other _ => some (g, [])

/-- The SAPIs of SNDCP. -/
def sapiSndcp (sapi : Nat) : Bool := sapi == 3 || sapi == 5 || sapi == 9 || sapi == 11

/-- The information field of a frame is handed to the layer above. -/
def dataInd (build : SgsnBuild) (s : SgsnInstance) (f : UlFrame) (l : Nat) (given : Given) : Option SgsnInstance :=
  match f.data with
  | .l3 msg =>
    if f.sapi = sapiGmm then (gsm0408GprsRcvmsg build s.gmm f.id f.cell l msg given).map (s.ask build) else some s
  | .snPdu completes =>
    match s.llmes.get? l with
    | some llme =>
      if sapiSndcp f.sapi = true ∧ completes = true then
        some { s with gmm := sgsnRxSndcpUdInd build s.gmm f.cell llme.tlli }
      else some s
    | none => some s
  | .none => some s

/-- `gprs_llc_rcvmsg`. -/
def gprsLlcRcvmsg (build : SgsnBuild) (s : SgsnInstance) (f : UlFrame) (given : Given) : Option SgsnInstance :=
  match llmeOfFrame build s.llmes f with
  | none => some s
  | some (llmes, l) =>
    if f.intact = false then some { s with llmes := llmes }
    else
      let s := { s with llmes := llmes.modify l (Llme.route f.id) }
      if f.inOrder = false then some s else dataInd build s f l given

/-! ## Steps -/

inductive SgsnEvent where
  | uplink (f : UlFrame) (given : Given)
  | suspend (raid : GprsRaId) (tlli : BitVec 32)
  | resume (raid : GprsRaId) (tlli : BitVec 32)
  /-- The timer of an MM context or a PDP context expires. -/
  | mmTimer (i : Nat)
  | pdpTimer (p : Nat)
  /-- libgtp confirms a request for a handle; it may pass the handle on, and may free it afterwards. -/
  | gtpConf (h : Nat) (req : GtpReq) (passed : Bool) (cause : Option GtpCause) (frees : Bool)
  | gtpDataInd (h : Nat) (sndcp : Bool)
  /-- libgtp frees a handle that the GGSN has deleted. -/
  | gtpDeleted (h : Nat)
  | recovery (peer : BitVec 32) (recovery : Nat)
  deriving DecidableEq

/-- A message of mobility management in a frame. -/
def SgsnEvent.gmm (tlli : BitVec 32) (cell : GprsRaId) (msg : GmmMsg) (rands : List (BitVec 32)) : SgsnEvent :=
  .uplink { id := { tlli := tlli }, cell := cell, data := .l3 (.gmm msg) } { rands := rands }

/-- An attach request with an IMSI. -/
def SgsnEvent.attachImsi (tlli : BitVec 32) (cell : GprsRaId) (imsi : MiString) (rands : List (BitVec 32)) :
    SgsnEvent := .gmm tlli cell (.attachReq { mi := { type := .imsi, str := imsi } }) rands

/-- An identity response. -/
def SgsnEvent.idResp (tlli : BitVec 32) (cell : GprsRaId) (type : MiType) (str : MiString) : SgsnEvent :=
  .gmm tlli cell (.idResp { type := type, str := str }) []

/-- A message of session management in a frame. -/
def SgsnEvent.sm (tlli : BitVec 32) (cell : GprsRaId) (ti : Nat) (msg : SmMsg) : SgsnEvent :=
  .uplink { id := { tlli := tlli }, cell := cell, data := .l3 (.sm ti msg) } {}

/-- A cell of the home network. -/
def homeCell : GprsRaId := { mcc := 262, mnc := 42, lac := 1, rac := 1 }

/-- An SGSN that checks IMSIs. -/
def checkingBuild : SgsnBuild := { coding := .ts23003, allowAllImsi := false }

/-- A confirmation, for a handle with that request out. -/
def gtpConf (g : Gmm) (h : Nat) (req : GtpReq) (passed : Bool) (cause : Option GtpCause) (frees : Bool) :
    Option (Gmm × List LlReq) :=
  if (g.libs.get? h).any fun lib => req ∈ lib.pending then
    let g := { g with libs := g.libs.modify h fun lib => { lib with pending := lib.pending.erase req } }
    let conf := cbConf g (if passed then some h else none) req cause
    some (if frees then { conf.1 with libs := conf.1.libs.remove h } else conf.1, conf.2)
  else none

/-- The timer of an MM context, if it is pending. -/
def mmTimer (g : Gmm) (i : Nat) : Option (Gmm × List LlReq) :=
  if (g.mms.get? i).any MmCtx.timer then some (g.onMm i fun ctx => mmctxTimerCb ctx.timerStop) else none

def pdpTimer (g : Gmm) (p : Nat) : Option (Gmm × List LlReq) :=
  match g.pdps.get? p with
  | some pdp => if pdp.timer then some (pdpctxTimerCb g p { pdp with timer := false }) else none
  | none => none

/-- One event. -/
def sgsnStep (build : SgsnBuild) (s : SgsnInstance) : SgsnEvent → Option SgsnInstance
  | .uplink f given => gprsLlcRcvmsg build s f given
  | .suspend raid tlli => some { s with gmm := gprsGmmRxSuspend build s.gmm raid tlli }
  | .resume raid tlli => some { s with gmm := gprsGmmRxResume build s.gmm raid tlli }
  | .mmTimer i => (mmTimer s.gmm i).map (s.ask build)
  | .pdpTimer p => (pdpTimer s.gmm p).map (s.ask build)
  | .gtpConf h req passed cause frees => (gtpConf s.gmm h req passed cause frees).map (s.ask build)
  | .gtpDataInd h sndcp => some (s.ask build (s.gmm, cbDataInd s.gmm h sndcp))
  | .gtpDeleted h => some { s with gmm := { s.gmm with libs := s.gmm.libs.remove h } }
  | .recovery peer recovery => some (s.ask build (cbRecovery s.gmm peer recovery))

/-- An SGSN that knows some GGSNs, with any events in any order. -/
def sgsnSystem (build : SgsnBuild) : System SgsnInstance SgsnEvent where
  init s := ∃ ggsns, s = { gmm := { ggsns := ggsns } }
  step s ev s' := sgsnStep build s ev = some s'

end OpenBsc.Sgsn
