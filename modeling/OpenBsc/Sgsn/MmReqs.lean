import OpenBsc.Sgsn.Runs

/-!
# `Sgsn.MmReqs` — what is made of an event

A message is first taken for a context, which may change the TLLI of the context that it finds, and a timer belongs to
one. What is done then is an `MmReq`, and `MmReq.apply` says what becomes of the MM contexts. `gmmStep` is what mobility
and session management make of an event, with what they ask of the LLC layer; a step of the SGSN is that, performed
(`sgsnStep_gmm`).
-/

namespace OpenBsc.Sgsn

open Option

/-! ## Requests -/

/-- What is done for the MM context that a message or a timer is taken for. -/
inductive MmReq where
  | keep
  | attach (i : Nat) (id : MsgId) (cell : GprsRaId) (llme : Nat)
  | attachNew (base : MmCtx) (id : MsgId) (cell : GprsRaId) (llme : Nat)
  | idResp (i : Nat) (mi : MobileId)
  | raUpd (i : Nat) (id : MsgId) (cell : GprsRaId)
  | complete (i : Nat) (reall : Bool)
  | detach (i : Nat)
  | timer (i : Nat)
  | suspend (i : Nat)
  | resume (i : Nat)

/-- The contexts after an identity response: one that had the IMSI before is gone. -/
def idRespMms (mms : Pool MmCtx) (i : Nat) (mi : MobileId) : Pool MmCtx :=
  let mms := mms.modify i (MmCtx.stopT3370 mi)
  let mms :=
    match (mms.get? i).bind (oldCtxOf mms mi) with
    | none => mms
    | some (j, _) => mms.remove j
  mms.modify i fun ctx => (ctx.identify mi).1

namespace MmReq

/-- The MM contexts after it is done. -/
def apply (build : SgsnBuild) (mms : Pool MmCtx) (rands : List (BitVec 32)) : MmReq → Option (Pool MmCtx)
  | keep => some mms
  | attach i id cell llme =>
    (sgsnAllocPtmsi mms rands).map fun pTmsi => mms.modify i fun ctx => (ctx.attach build id cell llme pTmsi).1
  | attachNew base id cell llme =>
    (sgsnAllocPtmsi (mms.alloc base) rands).map fun pTmsi => mms.alloc (base.attach build id cell llme pTmsi).1
  | idResp i mi => some (idRespMms mms i mi)
  | raUpd i id cell =>
    (sgsnAllocPtmsi mms rands).map fun pTmsi => mms.modify i fun ctx => (ctx.raUpd build id cell pTmsi).1
  | complete i reall => some (mms.modify i fun ctx => (ctx.complete reall).1)
  | detach i => some (mms.modify i fun ctx => ctx.detach.1)
  | timer i => some (mms.modify i fun ctx => (mmctxTimerCb ctx.timerStop).1)
  | suspend i => some (mms.modify i MmCtx.suspend)
  | resume i => some (mms.modify i MmCtx.resume)

end MmReq

/-- A GMM message, for the context it was taken for. -/
def gmmReq (build : SgsnBuild) (mms : Pool MmCtx) (mmctx : Option Nat) (id : MsgId) (cell : GprsRaId) (llme : Nat)
    (msg : GmmMsg) : Pool MmCtx × MmReq :=
  match msg, mmctx with
  | .attachReq req, _ =>
    if req.invalid then (mms, .keep)
    else
      match attReqCtx build mms mmctx id cell req.mi with
      | .error _ => (mms, .keep)
      | .ok (.known i) => (mms, .attach i id cell llme)
      | .ok (.new base) => (mms, .attachNew base id cell llme)
  | .raUpdReq req, _ =>
    if req.unsupported then (mms, .keep)
    else
      match raUpdCtx build mms id req with
      | (mms, none) => (mms, .keep)
      | (mms, some i) => (mms, .raUpd i id cell)
  | .idResp mi, some i => (mms, .idResp i mi)
  | .detachReq, some i => (mms, .detach i)
  | .attachCompl, some i => (mms, .complete i false)
  | .raUpdCompl, some i => (mms, .complete i false)
  | .ptmsiReallCompl, some i => (mms, .complete i true)
  | _, _ => (mms, .keep)

/-- A context that is looked up by its TLLI, for what is done then. -/
def reqFor (found : Pool MmCtx × Option Nat) (req : Nat → MmReq) : Pool MmCtx × MmReq :=
  (found.1, match found.2 with
    | none => .keep
    | some i => req i)

/-- The LLMEs when the information field of a frame is handed up, and the one that does it. -/
def UlFrame.handedUp (build : SgsnBuild) (llmes : Pool Llme) (f : UlFrame) : Option (Pool Llme × Nat) :=
  if f.intact = true ∧ f.inOrder = true then
    (llmeOfFrame build llmes f).map fun found => (found.1.modify found.2 (Llme.route f.id), found.2)
  else none

/-- An information field, for what is done then. -/
def dataReq (build : SgsnBuild) (mms : Pool MmCtx) (llmes : Pool Llme) (f : UlFrame) (l : Nat) :
    Pool MmCtx × MmReq :=
  match f.data with
  | .l3 msg =>
    if f.sapi = sapiGmm then
      let found := rcvCtx build mms f.id f.cell l
      match msg with
      | .gmm msg => gmmReq build found.1 found.2 f.id f.cell l msg
      | _ => (found.1, .keep)
    else (mms, .keep)
  | .snPdu completes =>
    match llmes.get? l with
    | some llme =>
      if sapiSndcp f.sapi = true ∧ completes = true then
        ((sgsnMmCtxByTlli build mms llme.tlli f.cell).1, .keep)
      else (mms, .keep)
    | none => (mms, .keep)
  | .none => (mms, .keep)

/-- An event, as what is done for an MM context. -/
def mmReq (build : SgsnBuild) (s : SgsnInstance) : SgsnEvent → Pool MmCtx × MmReq
  | .uplink f _ =>
    match f.handedUp build s.llmes with
    | some (llmes, l) => dataReq build s.gmm.mms llmes f l
    | none => (s.gmm.mms, .keep)
  | .suspend raid tlli => reqFor (sgsnMmCtxByTlli build s.gmm.mms tlli raid) .suspend
  | .resume raid tlli => reqFor (sgsnMmCtxByTlli build s.gmm.mms tlli raid) .resume
  | .mmTimer i => (s.gmm.mms, .timer i)
  | _ => (s.gmm.mms, .keep)

/-- A message of session management for a known MM context. -/
structure SmReq where
  mm : Nat
  ti : Nat
  msg : SmMsg
  pdpLeft : Bool

/-- The message in a frame. -/
def UlFrame.smReq (build : SgsnBuild) (mms : Pool MmCtx) (f : UlFrame) (l : Nat) (pdpLeft : Bool) : Option SmReq :=
  match f.data with
  | .l3 (.sm ti msg) =>
    if f.sapi = sapiGmm then
      (rcvCtx build mms f.id f.cell l).2.map fun i => { mm := i, ti := ti, msg := msg, pdpLeft := pdpLeft }
    else none
  | _ => none

/-- An event, as a message of session management. -/
def smReq (build : SgsnBuild) (s : SgsnInstance) : SgsnEvent → Option SmReq
  | .uplink f given => (f.handedUp build s.llmes).bind fun found => f.smReq build s.gmm.mms found.2 given.pdpLeft
  | _ => none

/-- The numbers that `rand` gives in a step. -/
def SgsnEvent.rands : SgsnEvent → List (BitVec 32)
  | .uplink _ given => given.rands
  | _ => []

/-! ## Look-up -/

/-- A context but for what it learns from the message that it is found for. -/
def MmCtx.untouched (ctx : MmCtx) : MmCtx := { ctx with tlli := 0, bvci := 0, nsei := 0, llme := none }

/-- The contexts are the same but for that. -/
def Touches (mms mms' : Pool MmCtx) : Prop :=
  ∀ i, (mms'.get? i).map MmCtx.untouched = (mms.get? i).map MmCtx.untouched

theorem Touches.refl (mms : Pool MmCtx) : Touches mms mms := fun _ => rfl

variable {build : SgsnBuild} {id : MsgId} {cell : GprsRaId} {rands : List (BitVec 32)} {s s' : SgsnInstance}
  {mms mms' : Pool MmCtx}

theorem Touches.trans {mms'' : Pool MmCtx} (h : Touches mms mms') (h' : Touches mms' mms'') : Touches mms mms'' :=
  fun i => (h' i).trans (h i)

theorem touches_modify (mms : Pool MmCtx) (i : Nat) {f : MmCtx → MmCtx}
    (hf : ∀ ctx, (f ctx).untouched = ctx.untouched) :
    Touches mms (mms.modify i f) := by
  intro j
  rw [Pool.get?_modify]
  split
  · rw [map_map]
    exact congrFun (congrArg Option.map (funext hf)) _
  · rfl

theorem Touches.get? (h : Touches mms mms') {i : Nat} {ctx' : MmCtx} (hget : mms'.get? i = some ctx') :
    ∃ ctx, mms.get? i = some ctx ∧ ctx'.untouched = ctx.untouched := by
  have hi := h i
  rw [hget] at hi
  obtain ⟨ctx, hctx, hsame⟩ := map_eq_some_iff.mp hi.symm
  exact ⟨ctx, hctx, hsame.symm⟩

/-- The fields that are not touched. -/
theorem untouched_inj {ctx ctx' : MmCtx} (h : ctx'.untouched = ctx.untouched) :
    ctx'.imsi = ctx.imsi ∧ ctx'.imei = ctx.imei ∧ ctx'.pTmsi = ctx.pTmsi ∧ ctx'.pTmsiOld = ctx.pTmsiOld ∧
      ctx'.mmState = ctx.mmState ∧ ctx'.ra = ctx.ra ∧ ctx'.timer = ctx.timer := by
  simp only [MmCtx.untouched, MmCtx.mk.injEq] at h
  obtain ⟨himsi, hstate, hnew, hold, himei, hra, -, -, -, -, -, htimer, -⟩ := h
  exact ⟨himsi, himei, hnew, hold, hstate, hra, htimer⟩

theorem kept_modify (mms : Pool MmCtx) (i : Nat) (f : MmCtx → MmCtx) (j : Nat) (ctx : MmCtx)
    (hget : mms.get? j = some ctx) : ∃ ctx', (mms.modify i f).get? j = some ctx' := by
  rw [Pool.get?_modify, hget]
  split
  · exact ⟨f ctx, rfl⟩
  · exact ⟨ctx, rfl⟩

theorem kept_touched (htouch : Touches mms mms') (j : Nat) (ctx : MmCtx) (hget : mms.get? j = some ctx) :
    ∃ ctx', mms'.get? j = some ctx' := by
  have hj := htouch j
  rw [hget] at hj
  obtain ⟨ctx', hctx', -⟩ := map_eq_some_iff.mp hj
  exact ⟨ctx', hctx'⟩

theorem touches_onFound (mms : Pool MmCtx) (found : Option Nat) {f : MmCtx → MmCtx}
    (hf : ∀ ctx, (f ctx).untouched = ctx.untouched) : Touches mms (onFound mms found f) := by
  cases found with
  | none => exact Touches.refl mms
  | some i => exact touches_modify mms i hf

section

variable (build : SgsnBuild) (mms : Pool MmCtx)

theorem touches_byTlli (tlli : BitVec 32) (raid : GprsRaId) :
    Touches mms (sgsnMmCtxByTlli build mms tlli raid).1 := by
  unfold sgsnMmCtxByTlli
  split
  · exact Touches.refl mms
  · split
    · split
      · apply touches_modify
        exact fun ctx => rfl
      · exact Touches.refl mms
    · split <;> exact Touches.refl mms
    · exact Touches.refl mms

theorem touches_rcvCtx (id : MsgId) (cell : GprsRaId) (l : Nat) :
    Touches mms (rcvCtx build mms id cell l).1 := by
  apply (touches_byTlli build mms id.tlli cell).trans
  apply touches_onFound
  exact fun ctx => rfl

theorem touches_gmmReq (mmctx : Option Nat) (id : MsgId) (cell : GprsRaId)
    (l : Nat) (msg : GmmMsg) : Touches mms (gmmReq build mms mmctx id cell l msg).1 := by
  cases msg with
  | attachReq req =>
    unfold gmmReq
    dsimp only
    split
    · exact Touches.refl mms
    · split <;> exact Touches.refl mms
  | raUpdReq req =>
    have htouch : Touches mms (raUpdCtx build mms id req).1 := touches_byTlli _ _ _ _
    unfold gmmReq
    dsimp only
    split
    · exact Touches.refl mms
    · generalize raUpdCtx build mms id req = found at htouch ⊢
      obtain ⟨mms', found⟩ := found
      cases found <;> exact htouch
  | _ => cases mmctx <;> exact Touches.refl mms

theorem touches_dataReq (llmes : Pool Llme) (f : UlFrame) (l : Nat) :
    Touches mms (dataReq build mms llmes f l).1 := by
  unfold dataReq
  split
  · split
    · dsimp only
      split
      · exact (touches_rcvCtx _ _ _ _ _).trans (touches_gmmReq _ _ _ _ _ _ _)
      · exact touches_rcvCtx _ _ _ _ _
    · exact Touches.refl mms
  · split
    · split
      · exact touches_byTlli _ _ _ _
      · exact Touches.refl mms
    · exact Touches.refl mms
  · exact Touches.refl mms

end

/-- Before anything is done for a context, it is at most touched. -/
theorem touches_mmReq (build : SgsnBuild) (s : SgsnInstance) (ev : SgsnEvent) :
    Touches s.gmm.mms (mmReq build s ev).1 := by
  cases ev with
  | uplink f given =>
    simp only [mmReq]
    split
    · exact touches_dataReq _ _ _ _ _
    · exact Touches.refl _
  | suspend | resume => exact touches_byTlli _ _ _ _
  | _ => exact Touches.refl _

theorem authorize_cases (ctx : MmCtx) (mode : GprsT3350Mode) :
    (ctx.imei ≠ [] ∧ ctx.imsi ≠ [] ∧ (ctx.authorize mode).1 =
        { ctx with t3350Mode := mode, T := .t3350, numTExp := 0, timer := true, mmState := .registeredNormal }) ∨
      ((ctx.imei = [] ∨ ctx.imsi = []) ∧ ∃ idType, (ctx.authorize mode).1 =
        { ctx with mmState := .commonProcInit, t3370IdType := idType, T := .t3370, numTExp := 0, timer := true }) := by
  unfold MmCtx.authorize
  by_cases hboth : ctx.imei ≠ [] ∧ ctx.imsi ≠ []
  · rw [if_pos hboth]
    exact .inl ⟨hboth.1, hboth.2, rfl⟩
  · rw [if_neg hboth]
    refine .inr ⟨?_, ?_⟩
    · by_cases himei : ctx.imei = []
      · exact .inl himei
      · exact .inr (by_contra fun himsi => hboth ⟨himei, himsi⟩)
    · split
      · exact ⟨.imei, rfl⟩
      · exact ⟨.imsi, rfl⟩

theorem llme_authorize (ctx : MmCtx) (mode : GprsT3350Mode) : (ctx.authorize mode).1.llme = ctx.llme := by
  rcases authorize_cases ctx mode with ⟨-, -, heq⟩ | ⟨-, idType, heq⟩
  · rw [heq]
  · rw [heq]

theorem of_allocPtmsi {pTmsi : BitVec 32} (h : sgsnAllocPtmsi mms rands = some pTmsi) :
    pTmsi ∈ rands ∧ ptmsiInUse mms pTmsi = false := by
  refine ⟨List.mem_of_find?_eq_some h, ?_⟩
  simpa using List.find?_some h

/-! ## New contexts -/

theorem attachNew_of_gmmReq {mmctx : Option Nat} {id' : MsgId} {cell' : GprsRaId} {l l' : Nat} {msg : GmmMsg}
    {base : MmCtx} (h : (gmmReq build mms mmctx id cell l msg).2 = .attachNew base id' cell' l') :
    ∃ req, msg = .attachReq req ∧ attReqCtx build mms mmctx id cell req.mi = .ok (.new base) ∧
      (gmmReq build mms mmctx id cell l msg).1 = mms ∧ id' = id ∧ cell' = cell ∧ l' = l := by
  cases msg with
  | attachReq req =>
    refine ⟨req, rfl, ?_⟩
    unfold gmmReq at h ⊢
    dsimp only at h ⊢
    split at h
    · cases h
    · rename_i hvalid
      rw [if_neg hvalid]
      split at h
      · cases h
      · cases h
      · rename_i hctx
        cases h
        rw [hctx]
        exact ⟨rfl, rfl, rfl, rfl, rfl⟩
  | raUpdReq req =>
    unfold gmmReq at h
    dsimp only at h
    split at h
    · cases h
    · split at h <;> cases h
  | _ => cases mmctx <;> cases h

theorem attachNew_of_mmReq {ev : SgsnEvent} {base : MmCtx} {l : Nat}
    (h : (mmReq build s ev).2 = .attachNew base id cell l) :
    ∃ mmctx mi, attReqCtx build (mmReq build s ev).1 mmctx id cell mi = .ok (.new base) := by
  cases ev with
  | uplink f given =>
    simp only [mmReq] at h ⊢
    split at h
    · simp only [dataReq] at h ⊢
      split at h
      · split at h
        case isTrue hsapi =>
          rw [if_pos hsapi]
          split at h
          · obtain ⟨req, rfl, hctx, hmms, rfl, rfl, rfl⟩ := attachNew_of_gmmReq h
            rw [hmms]
            exact ⟨_, _, hctx⟩
          · cases h
        case isFalse => cases h
      · split at h
        · split at h <;> cases h
        · cases h
      · cases h
    · cases h
  | suspend | resume =>
    simp only [mmReq, reqFor] at h
    split at h <;> cases h
  | _ => cases h

/-! ## What is made of an event -/

/-- The information field of a frame, for the layer above. -/
def dataStep (build : SgsnBuild) (g : Gmm) (llmes : Pool Llme) (f : UlFrame) (l : Nat) (given : Given) :
    Option (Gmm × List LlReq) :=
  match f.data with
  | .l3 msg =>
    if f.sapi = sapiGmm then gsm0408GprsRcvmsg build g f.id f.cell l msg given else some (g, [])
  | .snPdu completes =>
    match llmes.get? l with
    | some llme =>
      if sapiSndcp f.sapi = true ∧ completes = true then some (sgsnRxSndcpUdInd build g f.cell llme.tlli, [])
      else some (g, [])
    | none => some (g, [])
  | .none => some (g, [])

/-- What is made of an event, and what is asked of the LLC layer. -/
def gmmStep (build : SgsnBuild) (s : SgsnInstance) : SgsnEvent → Option (Gmm × List LlReq)
  | .uplink f given =>
    match f.handedUp build s.llmes with
    | some found => dataStep build s.gmm found.1 f found.2 given
    | none => some (s.gmm, [])
  | .suspend raid tlli => some (gprsGmmRxSuspend build s.gmm raid tlli, [])
  | .resume raid tlli => some (gprsGmmRxResume build s.gmm raid tlli, [])
  | .mmTimer i => mmTimer s.gmm i
  | .pdpTimer p => pdpTimer s.gmm p
  | .gtpConf h req passed cause frees => gtpConf s.gmm h req passed cause frees
  | .gtpDataInd h sndcp => some (s.gmm, cbDataInd s.gmm h sndcp)
  | .gtpDeleted h => some ({ s.gmm with libs := s.gmm.libs.remove h }, [])
  | .recovery peer recovery => some (cbRecovery s.gmm peer recovery)

/-- The LLMEs when a handler starts: the frame has made one if need be. -/
def llmesBefore (build : SgsnBuild) (s : SgsnInstance) : SgsnEvent → Pool Llme
  | .uplink f _ =>
    match llmeOfFrame build s.llmes f with
    | none => s.llmes
    | some (llmes, l) => if f.intact = false then llmes else llmes.modify l (Llme.route f.id)
  | _ => s.llmes

variable {f : UlFrame} {l : Nat} {given : Given} {g : Gmm} {r : Gmm × List LlReq}

theorem dataInd_eq (build : SgsnBuild) (s : SgsnInstance) (f : UlFrame) (l : Nat) (given : Given) :
    dataInd build s f l given = (dataStep build s.gmm s.llmes f l given).map (s.ask build) := by
  unfold dataInd dataStep
  cases f.data with
  | none => rfl
  | snPdu completes =>
    dsimp only
    cases s.llmes.get? l with
    | none => rfl
    | some llme =>
      dsimp only
      split <;> rfl
  | l3 msg =>
    dsimp only
    split <;> rfl

/-- A frame that is not handed up only makes its LLME. -/
theorem rcvmsg_eq (build : SgsnBuild) (s : SgsnInstance) (f : UlFrame) (given : Given) :
    gprsLlcRcvmsg build s f given = (gmmStep build s (.uplink f given)).map
      (SgsnInstance.ask build { s with llmes := llmesBefore build s (.uplink f given) }) := by
  unfold gprsLlcRcvmsg
  simp only [gmmStep, llmesBefore, UlFrame.handedUp]
  cases llmeOfFrame build s.llmes f with
  | none =>
    rw [map_none, ite_self]
    rfl
  | some found =>
    dsimp only
    by_cases hintact : f.intact = false
    · have hup : ¬ (f.intact = true ∧ f.inOrder = true) := fun hup =>
        Bool.false_ne_true (hintact.symm.trans hup.1)
      rw [if_pos hintact, if_pos hintact, if_neg hup]
      rfl
    · rw [if_neg hintact, if_neg hintact]
      by_cases horder : f.inOrder = false
      · have hup : ¬ (f.intact = true ∧ f.inOrder = true) := fun hup =>
          Bool.false_ne_true (horder.symm.trans hup.2)
        rw [if_pos horder, if_neg hup]
        rfl
      · have hup : f.intact = true ∧ f.inOrder = true := ⟨eq_true_of_ne_false hintact, eq_true_of_ne_false horder⟩
        rw [if_neg horder, if_pos hup]
        exact dataInd_eq build _ f found.2 given

/-- **A step is what is made of its event**, and what is asked for is done after the LLMEs are known. -/
theorem sgsnStep_gmm {ev : SgsnEvent} (h : sgsnStep build s ev = some s') :
    ∃ reqs, gmmStep build s ev = some (s'.gmm, reqs) ∧
      s' = SgsnInstance.ask build { s with llmes := llmesBefore build s ev } (s'.gmm, reqs) := by
  have hstep : sgsnStep build s ev = (gmmStep build s ev).map
      (SgsnInstance.ask build { s with llmes := llmesBefore build s ev }) := by
    cases ev with
    | uplink f given => exact rcvmsg_eq build s f given
    | _ => rfl
  rw [hstep] at h
  obtain ⟨r, hr, rfl⟩ := map_eq_some_iff.mp h
  exact ⟨r.2, hr, rfl⟩

/-! ### Mobility management -/

/-- An answer to an activation request. -/
def LlReq.answersAct : LlReq → Bool
  | .txUi _ _ (.actPdpAcc ..) => true
  | .txUi _ _ (.actPdpRej ..) => true
  | _ => false

theorem onMm_answer (g : Gmm) (i : Nat) (msg : Downlink) : (g.onMm i fun ctx => (ctx, [ctx.tx msg])).1 = g := by
  unfold Gmm.onMm
  split
  · rfl
  · show ({ g with mms := g.mms.modify i fun ctx => ctx } : Gmm) = g
    rw [Pool.modify_id]

/-- Nothing is asked for, or a message is sent that answers no activation request. -/
def SaysLittle (reqs : List LlReq) : Prop :=
  reqs = [] ∨ ∃ id msg, reqs = [txOldmsg id msg] ∧ (txOldmsg id msg).answersAct = false

/-- **What `gsm0408_rcv_gmm` does**, by the request that its message comes to. -/
inductive GmmDone (build : SgsnBuild) (g : Gmm) (rands : List (BitVec 32)) :
    Pool MmCtx × MmReq → Gmm × List LlReq → Prop
  | kept {mms : Pool MmCtx} {reqs : List LlReq} (htouch : Touches g.mms mms) (hlittle : SaysLittle reqs) :
      GmmDone build g rands (mms, .keep) ({ g with mms := mms }, reqs)
  | attach {i : Nat} {id : MsgId} {cell : GprsRaId} {l : Nat} {pTmsi : BitVec 32}
      (hptmsi : sgsnAllocPtmsi g.mms rands = some pTmsi) :
      GmmDone build g rands (g.mms, .attach i id cell l) (g.onMm i fun ctx => ctx.attach build id cell l pTmsi)
  | attachNew {base : MmCtx} {id : MsgId} {cell : GprsRaId} {l : Nat} {pTmsi : BitVec 32}
      (hptmsi : sgsnAllocPtmsi (g.mms.alloc base) rands = some pTmsi) :
      GmmDone build g rands (g.mms, .attachNew base id cell l)
        ({ g with mms := g.mms.alloc base }.onMm g.mms.next fun ctx => ctx.attach build id cell l pTmsi)
  | raUpd {mms : Pool MmCtx} {i : Nat} {id : MsgId} {cell : GprsRaId} {pTmsi : BitVec 32} (htouch : Touches g.mms mms)
      (hptmsi : sgsnAllocPtmsi mms rands = some pTmsi) (ps : List Nat) :
      GmmDone build g rands (mms, .raUpd i id cell)
        (ps.foldl Gmm.sgsnDeletePdpCtx ({ g with mms := mms }.onMm i (MmCtx.raUpd build id cell pTmsi)).1,
          ({ g with mms := mms }.onMm i (MmCtx.raUpd build id cell pTmsi)).2)
  | idResp (i : Nat) (mi : MobileId) : GmmDone build g rands (g.mms, .idResp i mi) (gsm48RxGmmIdResp g i mi)
  | detach (i : Nat) : GmmDone build g rands (g.mms, .detach i) (gsm48RxGmmDetReq g i)
  | complete (i : Nat) (reall : Bool) :
      GmmDone build g rands (g.mms, .complete i reall) (g.onMm i (MmCtx.complete reall))

theorem saysLittle_one (id : MsgId) {msg : Downlink} (h : (txOldmsg id msg).answersAct = false) :
    SaysLittle [txOldmsg id msg] := .inr ⟨id, msg, rfl, h⟩

theorem attReq_done {mmctx : Option Nat} {req : AttachReq}
    (h : gsm48RxGmmAttReq build g mmctx id cell l req rands = some r) :
    GmmDone build g rands (gmmReq build g.mms mmctx id cell l (.attachReq req)) r := by
  unfold gsm48RxGmmAttReq at h
  simp only [gmmReq]
  split at h
  case isTrue hinvalid =>
    cases h
    rw [if_pos hinvalid]
    exact .kept (.refl _) (saysLittle_one id rfl)
  case isFalse hvalid =>
    rw [if_neg hvalid]
    cases hctx : attReqCtx build g.mms mmctx id cell req.mi with
    | error cause =>
      rw [hctx] at h
      cases h
      exact .kept (.refl _) (saysLittle_one id rfl)
    | ok found =>
      rw [hctx] at h
      cases found with
      | known i =>
        obtain ⟨pTmsi, hptmsi, rfl⟩ := map_eq_some_iff.mp h
        exact .attach hptmsi
      | new base =>
        obtain ⟨pTmsi, hptmsi, rfl⟩ := map_eq_some_iff.mp h
        exact .attachNew hptmsi

theorem raUpdReq_done {mmctx : Option Nat} {req : RaUpdReq}
    (h : gsm48RxGmmRaUpdReq build g id cell req rands = some r) :
    GmmDone build g rands (gmmReq build g.mms mmctx id cell l (.raUpdReq req)) r := by
  have htouch : Touches g.mms (raUpdCtx build g.mms id req).1 := touches_byTlli _ _ _ _
  unfold gsm48RxGmmRaUpdReq at h
  simp only [gmmReq]
  split at h
  case isTrue hinvalid =>
    cases h
    rw [if_pos hinvalid]
    exact .kept (.refl _) (saysLittle_one id rfl)
  case isFalse hvalid =>
    rw [if_neg hvalid]
    dsimp only at h
    generalize raUpdCtx build g.mms id req = found at h htouch ⊢
    obtain ⟨mms, found⟩ := found
    cases found with
    | none =>
      cases h
      exact .kept htouch (saysLittle_one id rfl)
    | some i =>
      obtain ⟨pTmsi, hptmsi, rfl⟩ := map_eq_some_iff.mp h
      cases req.pdpStatus with
      | none => exact .raUpd htouch hptmsi []
      | some pdpStatus => exact .raUpd htouch hptmsi _

theorem answer_done (i : Nat) {msg : Downlink} (hmsg : ∀ {id}, (txOldmsg id msg).answersAct = false) :
    GmmDone build g rands (g.mms, .keep) (g.onMm i fun ctx => (ctx, [ctx.tx msg])) := by
  have hlittle : SaysLittle (g.onMm i fun ctx => (ctx, [ctx.tx msg])).2 := by
    unfold Gmm.onMm
    split
    · exact .inl rfl
    · exact .inr ⟨_, msg, rfl, hmsg⟩
  have hsame : (g.onMm i fun ctx => (ctx, [ctx.tx msg])) = ({ g with mms := g.mms }, _) :=
    Prod.ext (onMm_answer g i msg) rfl
  rw [hsame]
  exact .kept (.refl _) hlittle

theorem rcvGmm_done {mmctx : Option Nat} {msg : GmmMsg}
    (h : gsm0408RcvGmm build g mmctx id cell l msg rands = some r) :
    GmmDone build g rands (gmmReq build g.mms mmctx id cell l msg) r := by
  cases msg with
  | attachReq req => exact attReq_done h
  | raUpdReq req => exact raUpdReq_done h
  | _ =>
    cases mmctx with
    | none =>
      cases h
      exact .kept (.refl _) (saysLittle_one id rfl)
    | some i =>
      cases h
      first
        | exact .idResp i _
        | exact .detach i
        | exact .complete i _
        | exact .kept (.refl _) (.inl rfl)
        | exact answer_done i rfl

/-! ### Information fields -/

/-- **What is made of an information field**: a context is looked up at most, or a message is handled for it. -/
inductive DataDone (build : SgsnBuild) (g : Gmm) (f : UlFrame) (l : Nat) (given : Given) :
    Pool MmCtx × MmReq → Gmm × List LlReq → Prop
  | looked {mms : Pool MmCtx} (htouch : Touches g.mms mms) :
      DataDone build g f l given (mms, .keep) ({ g with mms := mms }, [])
  | gmm {mms : Pool MmCtx} {mmctx : Option Nat} {msg : GmmMsg} {r : Gmm × List LlReq} (htouch : Touches g.mms mms)
      (h : gsm0408RcvGmm build { g with mms := mms } mmctx f.id f.cell l msg given.rands = some r) :
      DataDone build g f l given (gmmReq build mms mmctx f.id f.cell l msg) r
  | sm {ti : Nat} {msg : SmMsg} (hreq : ∀ i ∈ (rcvCtx build g.mms f.id f.cell l).2,
        f.smReq build g.mms l given.pdpLeft = some { mm := i, ti := ti, msg := msg, pdpLeft := given.pdpLeft }) :
      DataDone build g f l given ((rcvCtx build g.mms f.id f.cell l).1, .keep)
        (gsm0408RcvGsm { g with mms := (rcvCtx build g.mms f.id f.cell l).1 }
          (rcvCtx build g.mms f.id f.cell l).2 f.id ti
          msg given.pdpLeft)

theorem dataStep_done {llmes : Pool Llme} (h : dataStep build g llmes f l given = some r) :
    DataDone build g f l given (dataReq build g.mms llmes f l) r := by
  have hkept : DataDone build g f l given (g.mms, .keep) (g, []) := .looked (.refl _)
  unfold dataStep at h
  unfold dataReq
  cases hdata : f.data with
  | none =>
    rw [hdata] at h
    cases h
    exact hkept
  | snPdu completes =>
    rw [hdata] at h
    dsimp only at h ⊢
    cases hllme : llmes.get? l with
    | none =>
      rw [hllme] at h
      cases h
      exact hkept
    | some llme =>
      rw [hllme] at h
      dsimp only at h ⊢
      split_ifs at h ⊢
      · cases h
        exact .looked (touches_byTlli _ _ _ _)
      · cases h
        exact hkept
  | l3 msg =>
    rw [hdata] at h
    dsimp only at h ⊢
    split_ifs at h ⊢ with hsapi
    · have htouch := touches_rcvCtx build g.mms f.id f.cell l
      unfold gsm0408GprsRcvmsg at h
      cases msg with
      | gmm msg => exact .gmm htouch h
      | sm ti msg =>
        cases h
        refine .sm fun i hi => ?_
        unfold UlFrame.smReq
        rw [hdata]
        dsimp only
        rw [if_pos hsapi, show (rcvCtx build g.mms f.id f.cell l).2 = some i from hi]
        rfl
      | other pdisc =>
        cases h
        exact .looked htouch
    · cases h
      exact hkept

end OpenBsc.Sgsn
