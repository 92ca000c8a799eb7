import OpenBsc.Sgsn.MmReqs

/-!
# `Sgsn.LlReqs` — what a step does to the MM contexts and the LLMEs

The handlers do no more to the MM contexts than their requests say (`sgsnStep_mms`); session management and libgtp do
nothing to them. A frame may make an LLME before anything is done for it, and messages to stations may make more.
Besides, a handler asks for at most one assignment of TLLIs, and `MmReq.assigns` says which; an assignment comes before
all messages, except the unassignment at the end of a detach (`Asks`). An activation request is accepted or rejected
when it comes, or when the GGSN confirms the creation it led to; nothing else that happens makes the SGSN send an
`ACTIVATE PDP CONTEXT ACCEPT` or `REJECT` (`unanswering_step`).
-/

namespace OpenBsc.Sgsn

open MmReq MmCtx Pool Gmm LlReq Option List

/-! ## Assignments -/

/-- The arguments of `gprs_llgmm_assign`. -/
structure LlgmmAssign where
  llme : Option Nat
  oldTlli : BitVec 32
  newTlli : BitVec 32

/-- The LLMEs after at most one assignment. -/
def LlgmmAssign.performed (llmes : Pool Llme) : Option LlgmmAssign → Pool Llme
  | none => llmes
  | some a => gprsLlgmmAssign llmes a.llme a.oldTlli a.newTlli

/-- The context that an identity response takes the IMSI from, which is freed. -/
def idRespOld (mms : Pool MmCtx) (i : Nat) (mi : MobileId) : Option (Nat × MmCtx) :=
  ((mms.modify i (MmCtx.stopT3370 mi)).get? i).bind (oldCtxOf (mms.modify i (MmCtx.stopT3370 mi)) mi)

/-- The assignment that a request makes. -/
def MmReq.assigns (build : SgsnBuild) (mms : Pool MmCtx) (rands : List (BitVec 32)) : MmReq → Option LlgmmAssign
  | attach i id _ llme =>
    (sgsnAllocPtmsi mms rands).bind fun pTmsi => (mms.get? i).map fun _ =>
      ⟨some llme, id.tlli, build.coding.gprsTmsi2tlli pTmsi .tlliLocal⟩
  | attachNew base id _ llme =>
    (sgsnAllocPtmsi (mms.alloc base) rands).map fun pTmsi =>
      ⟨some llme, id.tlli, build.coding.gprsTmsi2tlli pTmsi .tlliLocal⟩
  | raUpd i id _ =>
    (sgsnAllocPtmsi mms rands).bind fun pTmsi => (mms.get? i).map fun ctx =>
      ⟨ctx.llme, id.tlli, build.coding.gprsTmsi2tlli pTmsi .tlliLocal⟩
  | complete i reall => if reall then none else (mms.get? i).map fun ctx => ⟨ctx.llme, tlliUnassigned, ctx.tlliNew⟩
  | detach i => (mms.get? i).map fun ctx => ⟨ctx.llme, ctx.tlli, tlliUnassigned⟩
  | idResp i mi => (idRespOld mms i mi).map fun old => ⟨old.2.llme, old.2.tlli, tlliUnassigned⟩
  | _ => none

/-- Messages, up or down, may open an LLME for a TLLI that has none. -/
inductive LlmeOpen (build : SgsnBuild) : Pool Llme → Pool Llme → Prop where
  | route (llmes : Pool Llme) (l : Nat) (id : MsgId) : LlmeOpen build llmes (llmes.modify l (Llme.route id))
  | alloc (llmes : Pool Llme) (tlli : BitVec 32) (hnone : lleByTlli build llmes tlli = none) :
      LlmeOpen build llmes (llmeAlloc llmes tlli)

/-- Any messages. -/
abbrev LlmesOpened (build : SgsnBuild) : Pool Llme → Pool Llme → Prop := Relation.ReflTransGen (LlmeOpen build)

/-- Only messages are sent. -/
def TxOnly (reqs : List LlReq) : Prop := ∀ req ∈ reqs, ∃ id sapi msg, req = .txUi id sapi msg

/-- What is asked of the LLC layer: messages, and at most this assignment. -/
inductive Asks : List LlReq → Option LlgmmAssign → Prop where
  | none {reqs : List LlReq} (htx : TxOnly reqs) : Asks reqs none
  | first {reqs : List LlReq} (a : LlgmmAssign) (htx : TxOnly reqs) :
      Asks (.assign a.llme a.oldTlli a.newTlli :: reqs) (some a)
  | last {reqs : List LlReq} (a : LlgmmAssign) (hnew : a.newTlli = tlliUnassigned) (htx : TxOnly reqs) :
      Asks (reqs ++ [.assign a.llme a.oldTlli a.newTlli]) (some a)

/-! ## Handlers -/

theorem llme_identify (mi : MobileId) (ctx : MmCtx) : (ctx.identify mi).1.llme = ctx.llme := by
  unfold identify
  cases mi.type with
  | imsi => exact llme_authorize { ctx with imsi := strncpyImsi mi.str } ctx.t3350Mode
  | imei => exact llme_authorize { ctx with imei := strncpyImsi mi.str } ctx.t3350Mode
  | _ => exact llme_authorize ctx ctx.t3350Mode

theorem llme_stopT3370 (mi : MobileId) (ctx : MmCtx) : (ctx.stopT3370 mi).llme = ctx.llme := by
  unfold stopT3370
  split <;> rfl

/-- After an identity response, the contexts that are left have their LLMEs. -/
theorem of_idRespMms {mms : Pool MmCtx} {i : Nat} {mi : MobileId} {k : Nat} {ctx' : MmCtx}
    (hget : (idRespMms mms i mi).get? k = some ctx') :
    ∃ ctx, mms.get? k = some ctx ∧ ctx'.llme = ctx.llme ∧ ∀ old ∈ idRespOld mms i mi, k ≠ old.1 := by
  have hmodify {mms : Pool MmCtx} {f : MmCtx → MmCtx} (hf : ∀ ctx, (f ctx).llme = ctx.llme) {ctx' : MmCtx}
      (hget : (mms.modify i f).get? k = some ctx') : ∃ ctx, mms.get? k = some ctx ∧ ctx'.llme = ctx.llme := by
    rw [get?_modify] at hget
    split at hget
    · obtain ⟨ctx, hctx, rfl⟩ := map_eq_some_iff.mp hget
      exact ⟨ctx, hctx, hf ctx⟩
    · exact ⟨ctx', hget, rfl⟩
  unfold idRespMms at hget
  dsimp only at hget
  obtain ⟨ctx₂, hctx₂, hllme₂⟩ := hmodify (llme_identify mi) hget
  unfold idRespOld
  cases hold : ((mms.modify i (stopT3370 mi)).get? i).bind (oldCtxOf (mms.modify i (stopT3370 mi)) mi) with
  | none =>
    rw [hold] at hctx₂
    obtain ⟨ctx, hctx, hllme⟩ := hmodify (llme_stopT3370 mi) hctx₂
    refine ⟨ctx, hctx, hllme₂.trans hllme, ?_⟩
    exact fun old hnone => nomatch hnone
  | some old =>
    obtain ⟨j, ictx⟩ := old
    rw [hold] at hctx₂
    dsimp only at hctx₂
    rw [get?_remove] at hctx₂
    split at hctx₂
    case isTrue => cases hctx₂
    case isFalse hne =>
      obtain ⟨ctx, hctx, hllme⟩ := hmodify (llme_stopT3370 mi) hctx₂
      refine ⟨ctx, hctx, hllme₂.trans hllme, ?_⟩
      intro old hsome
      cases hsome
      exact hne

theorem txOnly_nil : TxOnly [] := fun _ h => nomatch h

variable {reqs : List LlReq}

theorem txOnly_cons (id : MsgId) (sapi : Nat) (msg : Downlink) (h : TxOnly reqs) :
    TxOnly (.txUi id sapi msg :: reqs) := by
  intro req hreq
  rcases mem_cons.mp hreq with rfl | hreq
  · exact ⟨id, sapi, msg, rfl⟩
  · exact h req hreq

theorem txOnly_append {reqs' : List LlReq} (h : TxOnly reqs) (h' : TxOnly reqs') : TxOnly (reqs ++ reqs') := by
  intro req hreq
  rcases mem_append.mp hreq with hreq | hreq
  · exact h req hreq
  · exact h' req hreq

/-- No activation request is answered. -/
def Unanswering (reqs : List LlReq) : Prop := ∀ req ∈ reqs, req.answersAct = false

theorem unanswering_nil : Unanswering [] := fun _ h => nomatch h

theorem unanswering_cons {req : LlReq} (hreq : req.answersAct = false) (h : Unanswering reqs) :
    Unanswering (req :: reqs) := by
  intro r hr
  rcases mem_cons.mp hr with rfl | hr
  · exact hreq
  · exact h r hr

/-- Only messages are sent, and unless `answers` none of them answers an activation request. -/
structure Sends (answers : Prop) (reqs : List LlReq) : Prop where
  tx : TxOnly reqs
  silent : ¬ answers → Unanswering reqs

variable {answers : Prop} {g : Gmm} {r : Gmm × List LlReq}

theorem Sends.nil : Sends answers [] := ⟨txOnly_nil, fun _ => unanswering_nil⟩

theorem Sends.one {id : MsgId} {sapi : Nat} {msg : Downlink} (h : ¬ answers → (txUi id sapi msg).answersAct = false) :
    Sends answers [.txUi id sapi msg] :=
  ⟨txOnly_cons _ _ _ txOnly_nil, fun hnot => unanswering_cons (h hnot) unanswering_nil⟩

theorem Sends.append {reqs' : List LlReq} (h : Sends answers reqs) (h' : Sends answers reqs') :
    Sends answers (reqs ++ reqs') := by
  refine ⟨txOnly_append h.tx h'.tx, fun hnot req hreq => ?_⟩
  rcases mem_append.mp hreq with hreq | hreq
  · exact h.silent hnot req hreq
  · exact h'.silent hnot req hreq

theorem sends_txFor (g : Gmm) (pdp : PdpCtx) {msg : Downlink}
    (h : ∀ {id sapi}, ¬ answers → (txUi id sapi msg).answersAct = false) : Sends answers (g.txFor pdp msg) := by
  unfold txFor
  split
  · exact .nil
  · exact .one h

theorem sends_onMm (g : Gmm) (i : Nat) {f : MmCtx → MmCtx × List LlReq} (hf : ∀ ctx, Sends answers (f ctx).2) :
    Sends answers (g.onMm i f).2 := by
  unfold onMm
  split
  · exact .nil
  · exact hf _

theorem sends_authorize (ctx : MmCtx) (mode : GprsT3350Mode) : Sends answers (ctx.authorize mode).2 := by
  unfold authorize
  split
  · exact .one fun _ => rfl
  · split
    · exact .one fun _ => rfl
    · exact .one fun _ => rfl

theorem sends_timerCb (ctx : MmCtx) : Sends answers (mmctxTimerCb ctx).2 := by
  unfold mmctxTimerCb
  dsimp only
  split
  · split
    · exact .nil
    · dsimp only
      split
      · exact .one fun _ => rfl
      · exact .one fun _ => rfl
      · exact .nil
  · split <;> exact .nil
  · split <;> exact .one fun _ => rfl
  · exact .nil

/-! ### Session management -/

theorem mms_onMm (g : Gmm) (i : Nat) (f : MmCtx → MmCtx × List LlReq) :
    (g.onMm i f).1.mms = g.mms.modify i fun ctx => (f ctx).1 := by
  unfold onMm
  split
  · rename_i hget
    rw [modify_of_get?_none hget]
  · rfl

theorem mms_deletePdpCtx (g : Gmm) (p : Nat) : (g.sgsnDeletePdpCtx p).mms = g.mms := by
  unfold sgsnDeletePdpCtx
  split <;> rfl

theorem mms_pdpCtxFree (g : Gmm) (p : Nat) : (g.sgsnPdpCtxFree p).mms = g.mms := by
  unfold sgsnPdpCtxFree
  split <;> rfl

theorem mms_foldl {f : Gmm → Nat → Gmm} (hf : ∀ g p, (f g p).mms = g.mms) (pdps : List Nat) (g : Gmm) :
    (pdps.foldl f g).mms = g.mms := by
  induction pdps generalizing g with
  | nil => rfl
  | cons p pdps ih => exact (ih _).trans (hf g p)

theorem mms_mmCtxFree (g : Gmm) (j : Nat) : (g.sgsnMmCtxFree j).mms = g.mms.remove j := by
  unfold sgsnMmCtxFree
  split
  · rename_i hget
    rw [remove_of_get?_none hget]
  · exact mms_foldl mms_pdpCtxFree _ _

/-- The MM contexts stay as they are, and only messages are sent. -/
structure Calm (answers : Prop) (g : Gmm) (r : Gmm × List LlReq) : Prop where
  mms : r.1.mms = g.mms
  sends : Sends answers r.2

theorem Calm.refl (g : Gmm) : Calm answers g (g, []) := ⟨rfl, .nil⟩

theorem calm_answer (i : Nat) {msg : Downlink}
    (h : ∀ {id sapi}, ¬ answers → (txUi id sapi msg).answersAct = false) :
    Calm answers g (g.onMm i fun ctx => (ctx, [ctx.tx msg])) :=
  ⟨congrArg mms (onMm_answer g i msg), sends_onMm g i fun _ => .one h⟩

theorem calm_actPdpReq (hanswers : answers) (g : Gmm) (i ti sapi nsapi : Nat) (pdpLeft : Bool) :
    Calm answers g (gsm48RxGsmActPdpReq g i ti sapi nsapi pdpLeft) := by
  unfold gsm48RxGsmActPdpReq
  dsimp only
  split
  · exact calm_answer i (absurd hanswers)
  · split
    · split
      · exact ⟨rfl, sends_txFor _ _ (absurd hanswers)⟩
      · exact calm_answer i (absurd hanswers)
    · split
      · exact .refl g
      · refine ⟨?_, .nil⟩
        dsimp only
        unfold sgsnCreatePdpCtx
        split <;> rfl

theorem calm_deactPdp (g : Gmm) (i ti : Nat) (ack : Bool) : Calm answers g (gsm48RxGsmDeactPdp g i ti ack) := by
  unfold gsm48RxGsmDeactPdp
  split
  · exact ⟨mms_deletePdpCtx _ _, .nil⟩
  · split
    · exact .refl g
    · exact calm_answer i fun _ => rfl

theorem calm_rcvGsm (g : Gmm) (mmctx : Option Nat) (id : MsgId) (ti : Nat) (msg : SmMsg) (pdpLeft : Bool)
    (hanswers : ∀ i ∈ mmctx, ∀ sapi nsapi, msg = .actPdpReq sapi nsapi → answers) :
    Calm answers g (gsm0408RcvGsm g mmctx id ti msg pdpLeft) := by
  cases mmctx with
  | none => exact ⟨rfl, Sends.append (.one fun _ => rfl) (.one fun _ => rfl)⟩
  | some i =>
    cases msg with
    | actPdpReq sapi nsapi => exact calm_actPdpReq (hanswers i rfl sapi nsapi rfl) _ _ _ _ _ _
    | deactPdpReq | deactPdpAck => exact calm_deactPdp _ _ _ _
    | status => exact .refl g
    | other msgType => exact calm_answer i fun _ => rfl

theorem calm_pdpTimer {p : Nat} (h : pdpTimer g p = some r) : Calm answers g r := by
  unfold pdpTimer at h
  split at h
  · split_ifs at h
    cases h
    unfold pdpctxTimerCb
    dsimp only
    split
    · split
      · exact ⟨mms_deletePdpCtx _ _, .nil⟩
      · exact ⟨rfl, sends_txFor _ _ fun _ => rfl⟩
    · exact ⟨rfl, .nil⟩
  · cases h

theorem calm_createReject (hanswers : answers) (g : Gmm) (pdp : Option Nat) (p : Nat) (pctx : PdpCtx)
    (cause : SmCause) :
    Calm answers g (createPdpReject g pdp p pctx cause) := by
  refine ⟨?_, sends_txFor _ _ (absurd hanswers)⟩
  unfold createPdpReject
  dsimp only
  rw [mms_pdpCtxFree]
  cases pdp <;> rfl

theorem calm_cbConf (g : Gmm) (pdp : Option Nat) (req : GtpReq) (cause : Option GtpCause)
    (hanswers : req.type = .createPdp → answers) : Calm answers g (cbConf g pdp req cause) := by
  unfold cbConf
  split
  · rename_i htype
    have hanswers := hanswers htype
    unfold createPdpConf
    split
    · exact .refl g
    · split
      · split
        · exact calm_createReject hanswers _ _ _ _ _
        · split
          · exact ⟨rfl, .nil⟩
          · exact calm_createReject hanswers _ _ _ _ _
      · exact ⟨rfl, sends_txFor _ _ (absurd hanswers)⟩
      · exact calm_createReject hanswers _ _ _ _ _
  · unfold deletePdpConf
    split
    · exact .refl g
    · exact ⟨mms_pdpCtxFree _ _, sends_txFor _ _ fun _ => rfl⟩

theorem calm_gtpConf {h : Nat} {req : GtpReq} {passed : Bool} {cause : Option GtpCause} {frees : Bool}
    (hanswers : req.type = .createPdp → answers) (hconf : gtpConf g h req passed cause frees = some r) :
    Calm answers g r := by
  unfold gtpConf at hconf
  split at hconf
  · cases hconf
    obtain ⟨hmms, hsends⟩ := calm_cbConf { g with
      libs := g.libs.modify h fun lib => { lib with pending := lib.pending.erase req } } _ req cause hanswers
    refine ⟨?_, hsends⟩
    split
    · exact hmms
    · exact hmms
  · cases hconf

theorem calm_dropOne (g : Gmm) (p : Nat) : Calm answers g (dropOnePdp g p) := by
  unfold dropOnePdp
  split
  · exact .refl g
  · split
    · exact ⟨rfl, sends_txFor _ _ fun _ => rfl⟩
    · exact ⟨mms_pdpCtxFree _ _, .nil⟩

theorem calm_dropAll (g : Gmm) (ggsn : Nat) : Calm answers g (dropAllPdpForGgsn g ggsn) := by
  unfold dropAllPdpForGgsn
  dsimp only
  generalize g.mms.ids.reverse.flatMap _ = pdps
  have hfold (r : Gmm × List LlReq) (hr : Calm answers g r) :
      Calm answers g (pdps.foldl (fun r p => ((dropOnePdp r.1 p).1, r.2 ++ (dropOnePdp r.1 p).2)) r) := by
    induction pdps generalizing r with
    | nil => exact hr
    | cons p pdps ih =>
      obtain ⟨hmms, hsends⟩ := calm_dropOne r.1 p
      exact ih _ ⟨hmms.trans hr.mms, hr.sends.append hsends⟩
  exact hfold (g, []) (.refl g)

theorem calm_cbRecovery (g : Gmm) (peer : BitVec 32) (recovery : Nat) :
    Calm answers g (cbRecovery g peer recovery) := by
  unfold cbRecovery
  split
  · exact .refl g
  · rename_i k ggsn hfound
    dsimp only
    split
    · exact ⟨rfl, .nil⟩
    · split
      · exact ⟨rfl, .nil⟩
      · obtain ⟨hmms, hsends⟩ := calm_dropAll { g with
          ggsns := g.ggsns.modify k fun ggsn => { ggsn with remoteRestartCtr := some recovery } } k
        exact ⟨hmms, hsends⟩

theorem sends_cbDataInd (g : Gmm) (h : Nat) (sndcp : Bool) : Sends answers (cbDataInd g h sndcp) := by
  unfold cbDataInd
  split
  · exact .nil
  · split
    · exact .nil
    · split
      · exact .one fun _ => rfl
      · exact .nil

/-! ### Mobility management -/

theorem mms_idResp (g : Gmm) (i : Nat) (mi : MobileId) :
    (gsm48RxGmmIdResp g i mi).1.mms = idRespMms g.mms i mi := by
  unfold gsm48RxGmmIdResp idRespMms
  dsimp only
  cases ((g.mms.modify i (stopT3370 mi)).get? i).bind (oldCtxOf (g.mms.modify i (stopT3370 mi)) mi) with
  | none => exact mms_onMm _ _ _
  | some old =>
    dsimp only
    rw [mms_onMm, mms_mmCtxFree]

theorem mms_detReq (g : Gmm) (i : Nat) : (gsm48RxGmmDetReq g i).1.mms = g.mms.modify i fun ctx => ctx.detach.1 := by
  unfold gsm48RxGmmDetReq
  rw [mms_onMm, mms_foldl mms_deletePdpCtx]

variable {build : SgsnBuild} {rands : List (BitVec 32)} {found : Pool MmCtx × MmReq}

theorem GmmDone.mms (h : GmmDone build g rands found r) : found.2.apply build found.1 rands = some r.1.mms := by
  cases h with
  | kept htouch hlittle => rfl
  | attach hptmsi =>
    rw [mms_onMm]
    simp only [apply, hptmsi, map_some]
  | attachNew hptmsi =>
    rw [mms_onMm]
    simp only [apply, hptmsi, map_some, modify_alloc]
  | raUpd htouch hptmsi ps =>
    dsimp only
    rw [mms_foldl mms_deletePdpCtx, mms_onMm]
    simp only [apply, hptmsi, map_some]
  | idResp i mi => exact congrArg some (mms_idResp _ _ _).symm
  | detach i => exact congrArg some (mms_detReq _ _).symm
  | complete i reall => exact congrArg some (mms_onMm _ _ _).symm

/-- Messages, and at most this assignment; an activation request is answered only if `answers`. -/
def AsksOnly (answers : Prop) (reqs : List LlReq) (a : Option LlgmmAssign) : Prop :=
  Asks reqs a ∧ (¬ answers → Unanswering reqs)

theorem Sends.only (h : Sends answers reqs) : AsksOnly answers reqs none := ⟨.none h.tx, h.silent⟩

theorem Sends.first (a : LlgmmAssign) (h : Sends answers reqs) :
    AsksOnly answers (.assign a.llme a.oldTlli a.newTlli :: reqs) (some a) :=
  ⟨.first a h.tx, fun hnot => unanswering_cons rfl (h.silent hnot)⟩

/-- A function of a context, with the assignment that it makes. -/
theorem asks_onMm {i : Nat} {f : MmCtx → MmCtx × List LlReq} {a : MmCtx → LlgmmAssign}
    (hf : ∀ ctx, AsksOnly answers (f ctx).2 (some (a ctx))) :
    AsksOnly answers (g.onMm i f).2 ((g.mms.get? i).map a) := by
  unfold onMm
  cases g.mms.get? i with
  | none => exact Sends.nil.only
  | some ctx => exact hf ctx

theorem asks_attach (build : SgsnBuild) (id : MsgId) (cell : GprsRaId) (llme : Nat) (pTmsi : BitVec 32) (ctx : MmCtx) :
    AsksOnly answers (ctx.attach build id cell llme pTmsi).2
      (some ⟨some llme, id.tlli, build.coding.gprsTmsi2tlli pTmsi .tlliLocal⟩) :=
  (sends_authorize _ _).first ⟨some llme, id.tlli, build.coding.gprsTmsi2tlli pTmsi .tlliLocal⟩

theorem asks_idResp (build : SgsnBuild) (g : Gmm) (i : Nat) (mi : MobileId) (rands : List (BitVec 32)) :
    AsksOnly answers (gsm48RxGmmIdResp g i mi).2 ((idResp i mi).assigns build g.mms rands) := by
  have hsends (g : Gmm) : Sends answers (g.onMm i (identify mi)).2 := sends_onMm g i fun ctx => sends_authorize _ _
  unfold gsm48RxGmmIdResp assigns idRespOld
  dsimp only
  cases ((g.mms.modify i (stopT3370 mi)).get? i).bind (oldCtxOf (g.mms.modify i (stopT3370 mi)) mi) with
  | none => exact (hsends _).only
  | some old => exact (hsends _).first ⟨old.2.llme, old.2.tlli, tlliUnassigned⟩

theorem asks_detReq (build : SgsnBuild) (g : Gmm) (i : Nat) (rands : List (BitVec 32)) :
    AsksOnly answers (gsm48RxGmmDetReq g i).2 ((detach i).assigns build g.mms rands) := by
  unfold gsm48RxGmmDetReq assigns
  rw [← mms_foldl mms_deletePdpCtx (g.pdpList i) g]
  refine asks_onMm fun ctx => ⟨.last ⟨ctx.llme, ctx.tlli, tlliUnassigned⟩ rfl (txOnly_cons _ _ _ txOnly_nil), ?_⟩
  exact fun _ => unanswering_cons rfl (unanswering_cons rfl unanswering_nil)

theorem GmmDone.asks (h : GmmDone build g rands found r) :
    AsksOnly answers r.2 (found.2.assigns build found.1 rands) := by
  cases h with
  | kept htouch hlittle =>
    obtain rfl | ⟨id, msg, rfl, hmsg⟩ := hlittle
    · exact Sends.nil.only
    · exact (Sends.one fun _ => hmsg).only
  | attach hptmsi =>
    simp only [assigns, hptmsi, bind_some]
    exact asks_onMm (asks_attach build _ _ _ _)
  | @attachNew base id cell l pTmsi hptmsi =>
    simp only [assigns, hptmsi, map_some]
    have hget : (g.mms.alloc base).get? g.mms.next = some base := by
      rw [get?_alloc]
      exact if_pos rfl
    unfold onMm
    rw [hget]
    exact asks_attach build id cell l pTmsi base
  | @raUpd mms i id cell pTmsi htouch hptmsi ps =>
    simp only [assigns, hptmsi, bind_some]
    refine asks_onMm (g := { g with mms := mms }) fun ctx => ?_
    exact Sends.first ⟨ctx.llme, id.tlli, build.coding.gprsTmsi2tlli pTmsi .tlliLocal⟩ (.one fun _ => rfl)
  | idResp i mi => exact asks_idResp _ _ _ _ _
  | detach i => exact asks_detReq _ _ _ _
  | complete i reall =>
    cases reall with
    | true => exact (sends_onMm g i fun ctx => .nil).only
    | false => exact asks_onMm fun ctx => Sends.nil.first ⟨ctx.llme, tlliUnassigned, ctx.tlliNew⟩

/-! ## The step -/

variable {s s' : SgsnInstance} {f : UlFrame} {ev : SgsnEvent}

theorem DataDone.mms {l : Nat} {given : Given} (h : DataDone build g f l given found r) :
    found.2.apply build found.1 given.rands = some r.1.mms := by
  cases h with
  | looked htouch => rfl
  | gmm htouch h => exact (rcvGmm_done h).mms
  | @sm ti msg hreq =>
    have hcalm := calm_rcvGsm { g with mms := (rcvCtx build g.mms f.id f.cell l).1 } _ f.id ti msg given.pdpLeft
      fun i (_ : i ∈ (rcvCtx build g.mms f.id f.cell l).2) sapi nsapi _ => trivial
    exact congrArg some hcalm.mms.symm

theorem DataDone.asks {l : Nat} {given : Given} (h : DataDone build g f l given found r)
    (hact : ∀ req ∈ f.smReq build g.mms l given.pdpLeft, ∀ sapi nsapi, req.msg = .actPdpReq sapi nsapi → answers) :
    AsksOnly answers r.2 (found.2.assigns build found.1 given.rands) := by
  cases h with
  | looked htouch => exact Sends.nil.only
  | gmm htouch h => exact (rcvGmm_done h).asks
  | sm hreq => exact (calm_rcvGsm _ _ _ _ _ _ fun i hi sapi nsapi => hact _ (hreq i hi) sapi nsapi).sends.only

theorem mms_found (found : Pool MmCtx × Option Nat) (req : Nat → MmReq) (f : MmCtx → MmCtx)
    (hreq : ∀ build mms i, (req i).apply build mms [] = some (mms.modify i f)) (build : SgsnBuild) :
    (reqFor found req).2.apply build (reqFor found req).1 [] = some (onFound found.1 found.2 f) := by
  obtain ⟨mms, found⟩ := found
  cases found with
  | none => rfl
  | some i => exact hreq build mms i

theorem mmTimer_eq {i : Nat} (h : mmTimer g i = some r) : r = g.onMm i fun ctx => mmctxTimerCb ctx.timerStop := by
  unfold mmTimer at h
  split at h
  · exact (some.inj h).symm
  · cases h

/-- **What a step does to the MM contexts**: what its event is taken for. -/
theorem sgsnStep_mms (h : sgsnStep build s ev = some s') :
    (mmReq build s ev).2.apply build (mmReq build s ev).1 ev.rands = some s'.gmm.mms := by
  obtain ⟨reqs, hgmm, -⟩ := sgsnStep_gmm h
  generalize s'.gmm = g' at hgmm ⊢
  cases ev with
  | uplink f given =>
    simp only [gmmStep, mmReq] at hgmm ⊢
    cases hup : f.handedUp build s.llmes with
    | none =>
      rw [hup] at hgmm
      cases hgmm
      rfl
    | some found =>
      rw [hup] at hgmm
      exact (dataStep_done hgmm).mms
  | suspend | resume =>
    cases hgmm
    exact mms_found _ _ _ (fun _ _ _ => rfl) _
  | mmTimer i =>
    have hmms := congrArg (fun r => r.1.mms) (mmTimer_eq hgmm)
    exact congrArg some (hmms.trans (mms_onMm _ _ _)).symm
  | pdpTimer p =>
    have hcalm : Calm True s.gmm (g', reqs) := calm_pdpTimer hgmm
    exact congrArg some hcalm.mms.symm
  | gtpConf lib req passed cause frees => exact congrArg some (calm_gtpConf (fun _ => trivial) hgmm).mms.symm
  | gtpDataInd | gtpDeleted =>
    cases hgmm
    rfl
  | recovery peer recovery =>
    have hcalm : Calm True s.gmm (g', reqs) := some.inj hgmm ▸ calm_cbRecovery _ _ _
    exact congrArg some hcalm.mms.symm

/-- **What is asked for in a step**: messages, and the assignment of its request. Only an activation request and the
    confirmation of a creation have one answered. -/
theorem asks_step {g' : Gmm}
    (hact : ∀ req ∈ smReq build s ev, ∀ sapi nsapi, req.msg = .actPdpReq sapi nsapi → answers)
    (hconf : ∀ h p passed cause frees, ev = .gtpConf h ⟨.createPdp, p⟩ passed cause frees → answers)
    (h : gmmStep build s ev = some (g', reqs)) :
    AsksOnly answers reqs ((mmReq build s ev).2.assigns build (mmReq build s ev).1 ev.rands) := by
  have hreqFor (found : Pool MmCtx × Option Nat) (req : Nat → MmReq)
      (hreq : ∀ i, (req i).assigns build found.1 [] = none) :
      AsksOnly answers [] ((reqFor found req).2.assigns build (reqFor found req).1 []) := by
    obtain ⟨mms, found⟩ := found
    cases found with
    | none => exact Sends.nil.only
    | some i =>
      have hnone := hreq i
      simp only [reqFor, hnone]
      exact Sends.nil.only
  cases ev with
  | uplink f given =>
    simp only [gmmStep, mmReq, smReq] at h hact ⊢
    cases hup : f.handedUp build s.llmes with
    | none =>
      rw [hup] at h
      cases h
      exact Sends.nil.only
    | some found =>
      rw [hup] at h hact
      exact (dataStep_done h).asks hact
  | suspend | resume =>
    cases h
    exact hreqFor _ _ fun _ => rfl
  | mmTimer i =>
    rw [show reqs = _ from congrArg Prod.snd (mmTimer_eq h)]
    exact (sends_onMm s.gmm i fun ctx => sends_timerCb _).only
  | pdpTimer p => exact (calm_pdpTimer h).sends.only
  | gtpConf lib req passed cause frees =>
    refine (calm_gtpConf (fun htype => ?_) h).sends.only
    obtain ⟨type, p⟩ := req
    obtain rfl : type = .createPdp := htype
    exact hconf lib p passed cause frees rfl
  | gtpDataInd lib sndcp =>
    cases h
    exact (sends_cbDataInd _ _ _).only
  | gtpDeleted lib =>
    cases h
    exact Sends.nil.only
  | recovery peer recovery =>
    rw [← show _ = reqs from congrArg Prod.snd (some.inj h)]
    exact (calm_cbRecovery _ _ _).sends.only

/-- Nothing else has an activation request answered. -/
theorem unanswering_step {g' : Gmm} (hreq : ∀ req ∈ smReq build s ev, ∀ sapi nsapi, req.msg ≠ .actPdpReq sapi nsapi)
    (hconf : ∀ h p passed cause frees, ev ≠ .gtpConf h ⟨.createPdp, p⟩ passed cause frees)
    (hstep : gmmStep build s ev = some (g', reqs)) : Unanswering reqs :=
  (asks_step hreq hconf hstep).2 not_false

theorem opened_txUi (build : SgsnBuild) (llmes : Pool Llme) (id : MsgId) :
    LlmesOpened build llmes (gprsLlcTxUi build llmes id) := by
  unfold gprsLlcTxUi
  split
  · exact .single (.route _ _ _)
  · rename_i hnone
    apply Relation.ReflTransGen.tail (.single (.alloc llmes id.tlli hnone))
    exact .route _ _ _

theorem opened_foldl (h : TxOnly reqs) (llmes : Pool Llme) :
    LlmesOpened build llmes (reqs.foldl (perform build) llmes) := by
  induction reqs generalizing llmes with
  | nil => exact .refl
  | cons req reqs ih =>
    obtain ⟨id, sapi, msg, rfl⟩ := h req mem_cons_self
    have hrest : TxOnly reqs := fun r hr => h r (mem_cons_of_mem _ hr)
    exact (opened_txUi build llmes id).trans (ih hrest _)

theorem opened_llmeOfFrame {llmes llmes' : Pool Llme} {l : Nat} (h : llmeOfFrame build llmes f = some (llmes', l)) :
    LlmesOpened build llmes llmes' ∧ ∃ llme, llmes'.get? l = some llme := by
  unfold llmeOfFrame at h
  split at h
  · rename_i l' llme hfound
    cases h
    exact ⟨.refl, llme, (of_findLast? hfound).1⟩
  · rename_i hnone
    split at h
    · cases h
      refine ⟨.single (.alloc _ _ hnone), { tlli := f.id.tlli }, ?_⟩
      unfold llmeAlloc
      rw [get?_alloc]
      exact if_pos rfl
    · cases h

theorem opened_before (build : SgsnBuild) (s : SgsnInstance) (ev : SgsnEvent) :
    LlmesOpened build s.llmes (llmesBefore build s ev) := by
  cases ev with
  | uplink f given =>
    simp only [llmesBefore]
    split
    · exact .refl
    · rename_i hframe
      obtain ⟨hopened, -⟩ := opened_llmeOfFrame hframe
      split
      · exact hopened
      · exact hopened.tail (.route _ _ _)
  | _ => exact .refl

theorem llmesBefore_handedUp {llmes : Pool Llme} {l : Nat} (h : f.handedUp build s.llmes = some (llmes, l))
    (given : Given) : llmesBefore build s (.uplink f given) = llmes ∧ ∃ llme, llmes.get? l = some llme := by
  unfold UlFrame.handedUp at h
  split at h
  case isFalse => cases h
  case isTrue hup =>
    obtain ⟨found, hframe, heq⟩ := map_eq_some_iff.mp h
    cases heq
    obtain ⟨-, llme, hlive⟩ := opened_llmeOfFrame hframe
    constructor
    · simp only [llmesBefore, hframe]
      exact if_neg fun hintact => Bool.false_ne_true (hintact.symm.trans hup.1)
    · rw [get?_modify, if_pos rfl, hlive]
      exact ⟨_, rfl⟩

/-- **What a step does to the LLMEs**: messages open some, and between them there is the assignment of its request. One
    that does not unassign comes before the messages that are sent. -/
theorem sgsnStep_llmes {ev : SgsnEvent} (h : sgsnStep build s ev = some s') :
    ∃ mid, LlmesOpened build (llmesBefore build s ev) mid ∧
      (∀ a ∈ (mmReq build s ev).2.assigns build (mmReq build s ev).1 ev.rands, a.newTlli ≠ tlliUnassigned →
        mid = llmesBefore build s ev) ∧
      LlmesOpened build
        (LlgmmAssign.performed mid ((mmReq build s ev).2.assigns build (mmReq build s ev).1 ev.rands)) s'.llmes := by
  obtain ⟨reqs, hgmm, hs'⟩ := sgsnStep_gmm h
  obtain ⟨hasks, -⟩ := asks_step (fun _ _ _ _ _ => trivial) (fun _ _ _ _ _ _ => trivial) hgmm
  have hllmes : s'.llmes = reqs.foldl (perform build) (llmesBefore build s ev) := congrArg SgsnInstance.llmes hs'
  rw [hllmes]
  generalize (mmReq build s ev).2.assigns build (mmReq build s ev).1 ev.rands = assigns at hasks ⊢
  cases hasks with
  | none htx =>
    refine ⟨_, .refl, fun _ _ _ => rfl, ?_⟩
    exact opened_foldl htx _
  | first a htx =>
    refine ⟨_, .refl, fun _ _ _ => rfl, ?_⟩
    exact opened_foldl htx _
  | last a hnew htx =>
    refine ⟨_, opened_foldl htx _, ?_, ?_⟩
    · intro b hb hb'
      cases hb
      exact absurd hnew hb'
    · rw [foldl_append]
      exact .refl

end OpenBsc.Sgsn
