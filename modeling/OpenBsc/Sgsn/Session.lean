import OpenBsc.Sgsn.Contexts

/-!
# `Sgsn.Session` — session management and the tunnels of libgtp (`gprs_gmm.c`, `sgsn_libgtp.c`, `gprs_sgsn.c`)

A PDP context is made together with a handle of libgtp, which points back to it. libgtp hands the PDP context back when
it confirms a request, and finds it through the handle when data comes. Of libgtp only this is modelled: it keeps
handles until they are freed, by `pdp_freepdp` or by itself, and confirms each request for a handle at most once.
-/

namespace OpenBsc.Sgsn

/-! ## Making PDP contexts -/

/-- A message for the MM context of a PDP context. -/
def Gmm.txFor (g : Gmm) (pdp : PdpCtx) (msg : Downlink) : List LlReq :=
  match g.mms.get? pdp.mm with
  | none => []
  | some ctx => [ctx.tx msg]

/-- The transaction identifier with the flag of the other side. -/
def flipTi (ti : Nat) : Nat := ti ^^^ 8

/-- `sgsn_create_pdp_ctx` for an NSAPI that is not in use. `pdpLeft` says whether libgtp has a handle left; if not, the
    PDP context stays without one and is not returned. -/
def sgsnCreatePdpCtx (g : Gmm) (ggsn : Nat × GgsnCtx) (mm nsapi sapi ti : Nat) (pdpLeft : Bool) : Gmm :=
  if pdpLeft then
    { g with
      pdps := g.pdps.alloc
        { mm := mm, nsapi := nsapi, lib := some g.libs.next, ggsn := some ggsn.1, state := .crReq,
          sapi := sapi, ti := ti }
      libs := g.libs.alloc
        { priv := some g.pdps.next, version := ggsn.2.gtpVersion, pending := [⟨.createPdp, g.pdps.next⟩] } }
  else { g with pdps := g.pdps.alloc { mm := mm, nsapi := nsapi } }

/-- `gsm48_rx_gsm_act_pdp_req`. -/
def gsm48RxGsmActPdpReq (g : Gmm) (i ti reqLlcSapi reqNsapi : Nat) (pdpLeft : Bool) : Gmm × List LlReq :=
  let answer (msg : Downlink) := g.onMm i fun ctx => (ctx, [ctx.tx msg])
  if reqNsapi < 5 ∨ 15 < reqNsapi then answer (.actPdpRej (flipTi ti) .invMandInfo)
  else
    match g.sgsnPdpCtxByNsapi i reqNsapi with
    | some (_, pdp) =>
      -- this apparently is a re-transmission
      if pdp.sapi = reqLlcSapi ∧ pdp.ti = ti then (g, g.txFor pdp (.actPdpAcc (flipTi pdp.ti) pdp.sapi))
      else answer (.actPdpRej (flipTi ti) .nsapiInUse)
    | none =>
      match g.ggsns.findLast? fun ggsn => ggsn.id == 0 with
      | none => (g, [])
      | some ggsn => (sgsnCreatePdpCtx g ggsn i reqNsapi reqLlcSapi ti pdpLeft, [])

/-! ## Session management -/

/-- `gsm48_rx_gsm_deact_pdp_req` and `gsm48_rx_gsm_deact_pdp_ack`, which answers nothing when there is no such PDP
    context. -/
def gsm48RxGsmDeactPdp (g : Gmm) (i ti : Nat) (ack : Bool) : Gmm × List LlReq :=
  match g.sgsnPdpCtxByTid i ti with
  | some (p, _) => (g.sgsnDeletePdpCtx p, [])
  | none => if ack then (g, []) else g.onMm i fun ctx => (ctx, [ctx.tx (.deactPdpAcc (flipTi ti))])

/-- `gsm0408_rcv_gsm`. -/
def gsm0408RcvGsm (g : Gmm) (mmctx : Option Nat) (id : MsgId) (ti : Nat) (msg : SmMsg) (pdpLeft : Bool) :
    Gmm × List LlReq :=
  match mmctx with
  | none => (g, [txOldmsg id (.gmmStatus .implDetached), txOldmsg id (.smStatus .protoErrUnspec)])
  | some i =>
    match msg with
    | .actPdpReq sapi nsapi => gsm48RxGsmActPdpReq g i ti sapi nsapi pdpLeft
    | .deactPdpReq => gsm48RxGsmDeactPdp g i ti false
    | .deactPdpAck => gsm48RxGsmDeactPdp g i ti true
    | .status => (g, [])
    | .other _ => g.onMm i fun ctx => (ctx, [ctx.tx (.smStatus .msgtNotexistNotimpl)])

/-- `gsm48_tx_gsm_deact_pdp_req`. -/
def gsm48TxGsmDeactPdpReq (g : Gmm) (p : Nat) (pdp : PdpCtx) (cause : SmCause) : Gmm × List LlReq :=
  ({ g with pdps := g.pdps.modify p fun pdp => { pdp with T := .t3395, numTExp := 0, timer := true } },
    g.txFor pdp (.deactPdpReq (flipTi pdp.ti) cause))

/-- `pdpctx_timer_cb`, after the timer has expired. -/
def pdpctxTimerCb (g : Gmm) (p : Nat) (pdp : PdpCtx) : Gmm × List LlReq :=
  let pdp := { pdp with numTExp := pdp.numTExp + 1 }
  let g := { g with pdps := g.pdps.modify p fun _ => pdp }
  match pdp.T with
  | .t3395 =>
    if 4 ≤ pdp.numTExp then
      ({ g with pdps := g.pdps.modify p fun pdp => { pdp with state := .none } }.sgsnDeletePdpCtx p, [])
    else gsm48TxGsmDeactPdpReq g p pdp .netFail
  | _ => (g, [])

/-! ## Confirmations -/

/-- `gtp2sm_cause_map`. -/
def gtp2smCause : GtpCause → SmCause
  | .noResources => .insuffRsrc
  | .notSupported => .servOptNotsupp
  | .manIeIncorrect => .invMandInfo
  | .manIeMissing => .invMandInfo
  | .optIeIncorrect => .protoErrUnspec
  | .sysFail => .netFail
  | .roamingRest => .reqServOptNotsub
  | .ptimsiMismatch => .protoErrUnspec
  | .connSusp => .protoErrUnspec
  | .authFail => .authFailed
  | .userAuthFail => .actRejGgsn
  | .contextNotFound => .protoErrUnspec
  | .addrOccupied => .insuffRsrc
  | .noMemory => .insuffRsrc
  | .relocFail => .protoErrUnspec
  | .unknownManExtheader => .protoErrUnspec
  | .missingApn => .missingApn
  | .unknownPdp => .unknownPdp
  | _ => .actRejGgsn

/-- The rejecting end of `create_pdp_conf`. -/
def createPdpReject (g : Gmm) (pdp : Option Nat) (p : Nat) (pctx : PdpCtx) (cause : SmCause) : Gmm × List LlReq :=
  let g := match pdp with
    | none => g
    | some h => { g with libs := g.libs.remove h }
  (g.sgsnPdpCtxFree p, g.txFor pctx (.actPdpRej (flipTi pctx.ti) cause))

/-- `create_pdp_conf`; there is no cause when the request timed out. A handle of version 1 is tried again with
    version 0. -/
def createPdpConf (g : Gmm) (pdp : Option Nat) (p : Nat) (cause : Option GtpCause) : Gmm × List LlReq :=
  match g.pdps.get? p with
  | none => (g, [])
  | some pctx =>
    match cause with
    | none =>
      match pdp with
      | none => createPdpReject g none p pctx .netFail
      | some h =>
        if (g.libs.get? h).any fun lib => lib.version = 1 then
          ({ g with libs := g.libs.modify h fun lib =>
              { lib with version := 0, pending := lib.pending ++ [⟨.createPdp, p⟩] } }, [])
        else createPdpReject g (some h) p pctx .netFail
    | some .accReq => (g, g.txFor pctx (.actPdpAcc (flipTi pctx.ti) pctx.sapi))
    | some cause => createPdpReject g pdp p pctx (gtp2smCause cause)

/-- `delete_pdp_conf`. -/
def deletePdpConf (g : Gmm) (p : Nat) : Gmm × List LlReq :=
  match g.pdps.get? p with
  | none => (g, [])
  | some pctx => (g.sgsnPdpCtxFree p, g.txFor pctx (.deactPdpAcc (flipTi pctx.ti)))

/-- `cb_conf`, for the request that is confirmed. -/
def cbConf (g : Gmm) (pdp : Option Nat) (req : GtpReq) (cause : Option GtpCause) : Gmm × List LlReq :=
  match req.type with
  | .createPdp => createPdpConf g pdp req.cbp cause
  | .deletePdp => deletePdpConf g req.cbp

/-! ## Indications -/

/-- `drop_one_pdp`. -/
def dropOnePdp (g : Gmm) (p : Nat) : Gmm × List LlReq :=
  match g.pdps.get? p with
  | none => (g, [])
  | some pdp =>
    if (g.mms.get? pdp.mm).any fun ctx => ctx.mmState = .registeredNormal then
      gsm48TxGsmDeactPdpReq g p pdp .netFail
    -- hard-dropping
    else (g.sgsnPdpCtxFree p, [])

/-- `drop_all_pdp_for_ggsn`: PDP context after PDP context of each MM context. The list is walked from the PDP context
    that was just dropped, even when it is free by then; here the walk goes on all the same. -/
def dropAllPdpForGgsn (g : Gmm) (ggsn : Nat) : Gmm × List LlReq :=
  let pdps := g.mms.ids.reverse.flatMap fun i =>
    (g.pdpList i).filter fun p => (g.pdps.get? p).any fun pdp => pdp.ggsn = some ggsn
  pdps.foldl (fun r p => ((dropOnePdp r.1 p).1, r.2 ++ (dropOnePdp r.1 p).2)) (g, [])

/-- `cb_recovery`: the restart counter of a GGSN. -/
def cbRecovery (g : Gmm) (peer : BitVec 32) (recovery : Nat) : Gmm × List LlReq :=
  match g.ggsns.findLast? fun ggsn => ggsn.remoteAddr == peer with
  | none => (g, [])
  | some (k, ggsn) =>
    let g := { g with ggsns := g.ggsns.modify k fun ggsn => { ggsn with remoteRestartCtr := some recovery } }
    match ggsn.remoteRestartCtr with
    | none => (g, [])
    | some ctr => if ctr = recovery then (g, []) else dropAllPdpForGgsn g k

/-- `cb_data_ind`; `sndcp` says whether SNDCP has an entity for the data. -/
def cbDataInd (g : Gmm) (h : Nat) (sndcp : Bool) : List LlReq :=
  match ((g.libs.get? h).bind PdpT.priv).bind g.pdps.get? with
  | none => []
  | some pdp =>
    match g.mms.get? pdp.mm with
    | none => []
    | some ctx =>
      if (ctx.mmState = .registeredSuspended ∨ ctx.mmState = .registeredNormal) ∧ sndcp = true then
        [.txUi ctx.msgId pdp.sapi (.snPdu pdp.nsapi)]
      else []

/-- `sgsn_rx_sndcp_ud_ind`: the look-up is all that is left of it here, the data goes to the GGSN. -/
def sgsnRxSndcpUdInd (build : SgsnBuild) (g : Gmm) (raId : GprsRaId) (tlli : BitVec 32) : Gmm :=
  { g with mms := (sgsnMmCtxByTlli build g.mms tlli raId).1 }

end OpenBsc.Sgsn
