import OpenBsc.Sgsn.Contexts

/-!
# `Sgsn.Gmm` — GPRS mobility management (`gprs_gmm.c`)

A message is handled for the MM context that its TLLI and the routeing area of its cell belong to, if there is one; an
attach request goes on to look for the identity in it, a routeing area update request for its TLLI in the old routeing
area. What it does to the context that is found in the end is a function of that context alone; that function also
says what is asked of the LLC layer. `PTMSI_ALLOC` is defined.

A handler that draws a P-TMSI has no result while `rand` gives none that is free.
-/

namespace OpenBsc.Sgsn

/-! ## Common procedures -/

namespace MmCtx

/-- `mmctx_timer_start`. -/
def timerStart (ctx : MmCtx) (T : TimerNr) : MmCtx := { ctx with T := T, numTExp := 0, timer := true }

/-- `mmctx_timer_stop`: the timer is stopped whatever runs. -/
def timerStop (ctx : MmCtx) : MmCtx := { ctx with timer := false }

/-- The `IDENTITY REQUEST` that `gsm48_gmm_authorize` starts with. -/
def requestId (ctx : MmCtx) (idType : MiType) : MmCtx × List LlReq :=
  let ctx := { ctx with mmState := .commonProcInit, t3370IdType := idType }.timerStart .t3370
  (ctx, [ctx.tx (.idReq idType)])

/-- `gsm48_gmm_authorize`. -/
def authorize (ctx : MmCtx) (t3350Mode : GprsT3350Mode) : MmCtx × List LlReq :=
  if ctx.imei ≠ [] ∧ ctx.imsi ≠ [] then
    let ctx := { { ctx with t3350Mode := t3350Mode }.timerStart .t3350 with mmState := .registeredNormal }
    (ctx, [ctx.tx (.attachAck ctx.ra ctx.pTmsi)])
  else if ctx.imei = [] then ctx.requestId .imei
  else ctx.requestId .imsi

/-! ## Attach -/

/-- A new P-TMSI, while the old one stays valid; the mobile station will switch to its local TLLI. -/
def reallocate (build : SgsnBuild) (ctx : MmCtx) (pTmsi : BitVec 32) : MmCtx :=
  { ctx with
    pTmsiOld := ctx.pTmsi
    pTmsi := pTmsi
    tlliNew := build.coding.gprsTmsi2tlli pTmsi .tlliLocal }

/-- An attach request updates its context, and the LLC layer is informed about the new TLLI. -/
def attach (build : SgsnBuild) (id : MsgId) (cell : GprsRaId) (llme : Nat) (pTmsi : BitVec 32) (ctx : MmCtx) :
    MmCtx × List LlReq :=
  let ctx := { ctx.msgid2mmctx id with tlli := id.tlli, llme := some llme, ra := cell }
  let ctx := ctx.reallocate build pTmsi
  let authorized := ctx.authorize .att
  (authorized.1, .assign ctx.llme ctx.tlli ctx.tlliNew :: authorized.2)

end MmCtx

/-- `"%03d%02d"` of the country and network codes. -/
def mccMnc (raId : GprsRaId) : MiString :=
  (Nat.toDigits 10 raId.mcc).leftpad 3 '0' ++ (Nat.toDigits 10 raId.mnc).leftpad 2 '0'

/-- The IMSI is part of the network of the routeing area. -/
def homeImsi (raId : GprsRaId) (imsi : MiString) : Bool := (mccMnc raId).take 5 == imsi.take 5

/-- The context of an attach request: one that is there, or a new one. -/
inductive AttReqCtx where
  | known (i : Nat)
  | new (ctx : MmCtx)

/-- The context that is known already, or that of the identity, or a new one. -/
def attReqCtx (build : SgsnBuild) (mms : Pool MmCtx) (ctx : Option Nat) (id : MsgId) (cell : GprsRaId)
    (mi : MobileId) : Except GmmCause AttReqCtx :=
  match mi.type with
  | .imsi =>
    match ctx.or ((sgsnMmCtxByImsi mms mi.str).map Prod.fst) with
    | some i => .ok (.known i)
    | none =>
      -- we simply assume that the IMSI exists, as long as it is part of our network
      if build.allowAllImsi = false ∧ homeImsi cell mi.str = false then .error .gprsNotallowed
      else .ok (.new { ra := cell, tlli := 0, imsi := strncpyImsi mi.str })
  | .tmsi =>
    match ctx.or ((sgsnMmCtxByPtmsi mms mi.tmsi).map Prod.fst) with
    | some i => .ok (.known i)
    -- the context will not have an IMSI until the identity response
    | none => .ok (.new { ra := cell, tlli := id.tlli, pTmsi := mi.tmsi })
  | _ => .error .msIdNotDerived

/-- A length that `gsm48_rx_gmm_att_req` checks is too large. -/
def AttachReq.invalid (req : AttachReq) : Bool := 8 < req.msncLen || 8 < req.miLen || 52 < req.msRaAccCapLen

/-- `gsm48_rx_gmm_att_req`. -/
def gsm48RxGmmAttReq (build : SgsnBuild) (g : Gmm) (ctx : Option Nat) (id : MsgId) (cell : GprsRaId) (llme : Nat)
    (req : AttachReq) (rands : List (BitVec 32)) : Option (Gmm × List LlReq) :=
  if req.invalid then some (g, [txOldmsg id (.attachRej .semIncorrMsg)])
  else
    match attReqCtx build g.mms ctx id cell req.mi with
    | .error cause => some (g, [txOldmsg id (.attachRej cause)])
    | .ok (.known i) =>
      (sgsnAllocPtmsi g.mms rands).map fun pTmsi => g.onMm i fun ctx => ctx.attach build id cell llme pTmsi
    | .ok (.new base) =>
      let i := g.mms.next
      let g := { g with mms := g.mms.alloc base }
      (sgsnAllocPtmsi g.mms rands).map fun pTmsi => g.onMm i fun ctx => ctx.attach build id cell llme pTmsi

/-! ## Identity response -/

/-- The timer of an identity request is stopped by the identity that was asked for. -/
def MmCtx.stopT3370 (mi : MobileId) (ctx : MmCtx) : MmCtx :=
  if mi.type = ctx.t3370IdType then ctx.timerStop else ctx

/-- The identity in a response, and whether the station can be let in. -/
def MmCtx.identify (mi : MobileId) (ctx : MmCtx) : MmCtx × List LlReq :=
  let ctx :=
    match mi.type with
    | .imsi => { ctx with imsi := strncpyImsi mi.str }
    | .imei => { ctx with imei := strncpyImsi mi.str }
    | _ => ctx
  ctx.authorize ctx.t3350Mode

/-- The context that has the IMSI of a response already, when the one that responds has none. -/
def oldCtxOf (mms : Pool MmCtx) (mi : MobileId) (ctx : MmCtx) : Option (Nat × MmCtx) :=
  if mi.type = .imsi ∧ ctx.imsi = [] then sgsnMmCtxByImsi mms mi.str else none

/-- `gsm48_rx_gmm_id_resp`. -/
def gsm48RxGmmIdResp (g : Gmm) (i : Nat) (mi : MobileId) : Gmm × List LlReq :=
  let g := { g with mms := g.mms.modify i (MmCtx.stopT3370 mi) }
  match (g.mms.get? i).bind (oldCtxOf g.mms mi) with
  | none => g.onMm i (MmCtx.identify mi)
  | some (j, ictx) =>
    let identified := (g.sgsnMmCtxFree j).onMm i (MmCtx.identify mi)
    (identified.1, .assign ictx.llme ictx.tlli tlliUnassigned :: identified.2)

/-! ## Detach -/

/-- The answer to a detach request, and the TLLI unassignment. -/
def MmCtx.detach (ctx : MmCtx) : MmCtx × List LlReq :=
  ({ ctx with mmState := .deregistered }, [ctx.tx .detachAck, .assign ctx.llme ctx.tlli tlliUnassigned])

/-- `gsm48_rx_gmm_det_req`. -/
def gsm48RxGmmDetReq (g : Gmm) (i : Nat) : Gmm × List LlReq :=
  ((g.pdpList i).foldl Gmm.sgsnDeletePdpCtx g).onMm i MmCtx.detach

/-! ## Routeing area update -/

/-- An accepted routeing area update request; the LLME stays the one of the context. -/
def MmCtx.raUpd (build : SgsnBuild) (id : MsgId) (cell : GprsRaId) (pTmsi : BitVec 32) (ctx : MmCtx) :
    MmCtx × List LlReq :=
  let ctx := { ctx.msgid2mmctx id with ra := cell, tlli := id.tlli }
  let ctx := { ctx.reallocate build pTmsi with t3350Mode := .rau }.timerStart .t3350
  (ctx, [.assign ctx.llme ctx.tlli ctx.tlliNew, ctx.tx (.raUpdAck ctx.ra ctx.pTmsi)])

/-- `process_ms_ctx_status`: what the mobile station has not active is dropped. -/
def processMsCtxStatus (g : Gmm) (i : Nat) (pdpStatus : BitVec 16) : Gmm :=
  ((g.pdpList i).filter fun p => (g.pdps.get? p).any fun pdp => !pdpStatus.getLsbD pdp.nsapi).foldl
    Gmm.sgsnDeletePdpCtx g

/-- The context of a routeing area update, looked up by the old routeing area and the TLLI, unless the mobile station
    has to perform an attach. -/
def raUpdCtx (build : SgsnBuild) (mms : Pool MmCtx) (id : MsgId) (req : RaUpdReq) : Pool MmCtx × Option Nat :=
  let found := sgsnMmCtxByTlli build mms id.tlli req.oldRaId
  (found.1, found.2.filter fun i => (found.1.get? i).any fun ctx => ctx.mmState != .deregistered)

/-- The request is rejected for a length or its type. -/
def RaUpdReq.unsupported (req : RaUpdReq) : Bool :=
  52 < req.msRaAccCapLen || req.updType == .raLa || req.updType == .raLaImsiAtt

/-- `gsm48_rx_gmm_ra_upd_req`. -/
def gsm48RxGmmRaUpdReq (build : SgsnBuild) (g : Gmm) (id : MsgId) (cell : GprsRaId) (req : RaUpdReq)
    (rands : List (BitVec 32)) : Option (Gmm × List LlReq) :=
  if req.unsupported then
    some (g, [txOldmsg id (.raUpdRej .protoErrUnspec)])
  else
    let found := raUpdCtx build g.mms id req
    let g := { g with mms := found.1 }
    match found.2 with
    | none => some (g, [txOldmsg id (.raUpdRej .msIdNotDerived)])
    | some i =>
      (sgsnAllocPtmsi g.mms rands).map fun pTmsi =>
        let updated := g.onMm i (MmCtx.raUpd build id cell pTmsi)
        match req.pdpStatus with
        | none => updated
        | some pdpStatus => (processMsCtxStatus updated.1 i pdpStatus, updated.2)

/-! ## Other messages and events -/

/-- `ATTACH COMPLETE` and `ROUTEING AREA UPDATE COMPLETE`; after `P-TMSI REALLOCATION COMPLETE` the LLC layer is not
    told. -/
def MmCtx.complete (reall : Bool) (ctx : MmCtx) : MmCtx × List LlReq :=
  ({ ctx.timerStop with pTmsiOld := 0, tlli := ctx.tlliNew },
    if reall then [] else [.assign ctx.llme tlliUnassigned ctx.tlliNew])

/-- `gsm0408_rcv_gmm`. -/
def gsm0408RcvGmm (build : SgsnBuild) (g : Gmm) (mmctx : Option Nat) (id : MsgId) (cell : GprsRaId) (llme : Nat)
    (msg : GmmMsg) (rands : List (BitVec 32)) : Option (Gmm × List LlReq) :=
  match msg, mmctx with
  | .attachReq req, _ => gsm48RxGmmAttReq build g mmctx id cell llme req rands
  | .raUpdReq req, _ => gsm48RxGmmRaUpdReq build g id cell req rands
  | _, none => some (g, [txOldmsg id (.gmmStatus .msIdNotDerived)])
  | .idResp mi, some i => some (gsm48RxGmmIdResp g i mi)
  | .status, some _ => some (g, [])
  | .detachReq, some i => some (gsm48RxGmmDetReq g i)
  | .attachCompl, some i => some (g.onMm i (MmCtx.complete false))
  | .raUpdCompl, some i => some (g.onMm i (MmCtx.complete false))
  | .ptmsiReallCompl, some i => some (g.onMm i (MmCtx.complete true))
  | .authCiphResp, some _ => some (g, [])
  | .other _, some i => some (g.onMm i fun ctx => (ctx, [ctx.tx (.gmmStatus .msgtNotexistNotimpl)]))

/-- `mmctx_timer_cb`, after the timer has expired; a retransmission starts it again. -/
def mmctxTimerCb (ctx : MmCtx) : MmCtx × List LlReq :=
  let ctx := { ctx with numTExp := ctx.numTExp + 1 }
  match ctx.T with
  | .t3350 =>
    if 5 ≤ ctx.numTExp then ({ ctx with mmState := .deregistered }, [])
    else
      ({ ctx with timer := true },
        match ctx.t3350Mode with
        | .att => [ctx.tx (.attachAck ctx.ra ctx.pTmsi)]
        | .rau => [ctx.tx (.raUpdAck ctx.ra ctx.pTmsi)]
        | .ptmsiReall => [])
  | .t3360 =>
    if 5 ≤ ctx.numTExp then ({ ctx with mmState := .deregistered }, [])
    else ({ ctx with timer := true }, [])
  | .t3370 =>
    if 5 ≤ ctx.numTExp then
      ({ ctx with mmState := .deregistered }, [ctx.tx (.attachRej .msIdNotDerived)])
    else ({ ctx with timer := true }, [ctx.tx (.idReq ctx.t3370IdType)])
  | _ => (ctx, [])

/-- Transition from `REGISTERED_NORMAL` to `REGISTERED_SUSPENDED`, -/
def MmCtx.suspend (ctx : MmCtx) : MmCtx :=
  if ctx.mmState = .registeredNormal then { ctx with mmState := .registeredSuspended } else ctx

/-- and back. -/
def MmCtx.resume (ctx : MmCtx) : MmCtx :=
  if ctx.mmState = .registeredSuspended then { ctx with mmState := .registeredNormal } else ctx

/-- `gprs_gmm_rx_suspend`. -/
def gprsGmmRxSuspend (build : SgsnBuild) (g : Gmm) (raid : GprsRaId) (tlli : BitVec 32) : Gmm :=
  let found := sgsnMmCtxByTlli build g.mms tlli raid
  { g with mms := onFound found.1 found.2 MmCtx.suspend }

/-- `gprs_gmm_rx_resume`. -/
def gprsGmmRxResume (build : SgsnBuild) (g : Gmm) (raid : GprsRaId) (tlli : BitVec 32) : Gmm :=
  let found := sgsnMmCtxByTlli build g.mms tlli raid
  { g with mms := onFound found.1 found.2 MmCtx.resume }

end OpenBsc.Sgsn
