import OpenBsc.Sgsn.Liveness

/-!
# `Sgsn.PdpMoves` — what a step does to the PDP contexts

To the PDP contexts and the handles of libgtp, what is made of an event is a chain of a few moves (`PdpMove`), and
`mayDo` says which of them an event can make: a PDP context is made by an activation request, it is freed with its MM
context, at a confirmation or when a GGSN has restarted, and so on (`gmmStep_moves`).
-/

namespace OpenBsc.Sgsn

open Transition Pool Gmm Option

variable {build : SgsnBuild} {s s' : SgsnInstance} {ev : SgsnEvent} {g g' : Gmm} {reqs : List LlReq}

/-- What is asked of the LLC layer in a step. -/
def sends (build : SgsnBuild) (s : SgsnInstance) (ev : SgsnEvent) : List LlReq :=
  ((gmmStep build s ev).map Prod.snd).getD []

theorem sends_of_step (h : gmmStep build s ev = some (g', reqs)) : sends build s ev = reqs := by
  unfold sends
  rw [h]
  rfl

/-! ## Moves -/

/-- A PDP context but for its state and its timer. -/
def PdpCtx.session (pdp : PdpCtx) : PdpCtx := { pdp with state := .none, timer := false, T := .none, numTExp := 0 }

/-- What happens at a time: MM contexts change, or a PDP context or a handle does. -/
inductive PdpLabel where
  | look
  | mmFreed (j : Nat)
  | freed (p : Nat)
  | deletion (p : Nat)
  | timer (p : Nat)
  | made (i nsapi sapi ti : Nat) (pdpLeft : Bool)
  | confirmed (h : Nat) (req : GtpReq)
  | retried (h p : Nat)
  | handleFreed (h : Nat)

inductive PdpMove (g : Gmm) : PdpLabel → Gmm → Prop where
  | look {g' : Gmm} (hpdps : g'.pdps = g.pdps) (hlibs : g'.libs = g.libs)
      (hmms : ∀ i, (g.mms.get? i).isSome = true → (g'.mms.get? i).isSome = true) : PdpMove g .look g'
  | mmFreed (j : Nat) : PdpMove g (.mmFreed j) (g.sgsnMmCtxFree j)
  | freed (p : Nat) : PdpMove g (.freed p) (g.sgsnPdpCtxFree p)
  | deletion (p : Nat) : PdpMove g (.deletion p) (g.sgsnDeletePdpCtx p)
  | timer (p : Nat) (f : PdpCtx → PdpCtx) (hf : ∀ pdp, (f pdp).session = pdp.session) :
      PdpMove g (.timer p) { g with pdps := g.pdps.modify p f }
  | made {i nsapi : Nat} (sapi ti : Nat) (pdpLeft : Bool) (ggsn : Nat × GgsnCtx)
      (hmm : (g.mms.get? i).isSome = true) (hfree : g.sgsnPdpCtxByNsapi i nsapi = none) :
      PdpMove g (.made i nsapi sapi ti pdpLeft) (sgsnCreatePdpCtx g ggsn i nsapi sapi ti pdpLeft)
  | confirmed (h : Nat) (req : GtpReq) :
      PdpMove g (.confirmed h req)
        { g with libs := g.libs.modify h fun lib => { lib with pending := lib.pending.erase req } }
  | retried (h p : Nat) :
      PdpMove g (.retried h p)
        { g with libs := g.libs.modify h fun lib =>
            { lib with version := 0, pending := lib.pending ++ [⟨.createPdp, p⟩] } }
  | handleFreed (h : Nat) : PdpMove g (.handleFreed h) { g with libs := g.libs.remove h }

theorem pdps_pdpCtxFree (g : Gmm) (p : Nat) : (g.sgsnPdpCtxFree p).pdps = g.pdps.remove p := by
  unfold sgsnPdpCtxFree
  split
  · rename_i hnone
    rw [remove_of_get?_none hnone]
  · rfl

theorem libs_pdpCtxFree (g : Gmm) (p : Nat) : (g.sgsnPdpCtxFree p).libs = g.libs := by
  unfold sgsnPdpCtxFree
  split <;> rfl

theorem pdps_deletePdpCtx (g : Gmm) (p : Nat) : (g.sgsnDeletePdpCtx p).pdps = g.pdps := by
  unfold sgsnDeletePdpCtx
  split <;> rfl

theorem mmCtxFree_eq (g : Gmm) (j : Nat) : (g.sgsnMmCtxFree j).libs = g.libs ∧
    ((g.sgsnMmCtxFree j).pdps = g.pdps ∧ g.mms.get? j = none ∨
      (g.sgsnMmCtxFree j).pdps = (g.pdpList j).foldl remove g.pdps) := by
  have hfold (ps : List Nat) (g : Gmm) : (ps.foldl sgsnPdpCtxFree g).libs = g.libs ∧
      (ps.foldl sgsnPdpCtxFree g).pdps = ps.foldl remove g.pdps := by
    induction ps generalizing g with
    | nil => exact ⟨rfl, rfl⟩
    | cons p ps ih =>
      obtain ⟨hlibs, hpdps⟩ := ih (g.sgsnPdpCtxFree p)
      rw [List.foldl_cons, hlibs, hpdps, libs_pdpCtxFree, pdps_pdpCtxFree]
      exact ⟨rfl, rfl⟩
  unfold sgsnMmCtxFree
  split
  · rename_i hnone
    exact ⟨rfl, .inl ⟨rfl, hnone⟩⟩
  · rename_i ctx hctx
    obtain ⟨hlibs, hpdps⟩ := hfold (g.pdpList j)
      { g with
        mms := g.mms.remove j
        freedMmTimers := if ctx.timer then j :: g.freedMmTimers else g.freedMmTimers }
    exact ⟨hlibs, .inr hpdps⟩

variable {p : Nat}

/-- What is left of the PDP contexts was there before. -/
theorem get?_mmCtxFree {g : Gmm} {j : Nat} {pdp : PdpCtx} (h : (g.sgsnMmCtxFree j).pdps.get? p = some pdp) :
    g.pdps.get? p = some pdp ∧ (pdp.mm = j → g.mms.get? j = none) := by
  rcases (mmCtxFree_eq g j).2 with ⟨hpdps, hnone⟩ | hpdps
  · rw [hpdps] at h
    exact ⟨h, fun _ => hnone⟩
  · rw [hpdps, get?_foldl_remove] at h
    split_ifs at h with hmem
    exact ⟨h, fun hmm => absurd (mem_pdpList.mpr ⟨pdp, h, hmm⟩) hmem⟩

/-! ## Events -/

/-- An activation request that makes a PDP context: its NSAPI is valid and not in use, and GGSN 0 is there. -/
def SmReq.activates (g : Gmm) (req : SmReq) : Bool :=
  match req.msg with
  | .actPdpReq _ nsapi =>
    decide (5 ≤ nsapi ∧ nsapi ≤ 15) && (g.sgsnPdpCtxByNsapi req.mm nsapi).isNone &&
      (g.ggsns.findLast? fun ggsn => ggsn.id == 0).isSome
  | _ => false

/-- A PDP context with a GGSN that has restarted whose station cannot be asked to deactivate it. -/
def endsHard (g : Gmm) (peer : BitVec 32) (recovery : Nat) (p : Nat) : Prop :=
  ∃ k pdp, restarted g peer recovery = some k ∧ g.pdps.get? p = some pdp ∧ pdp.ggsn = some k ∧
    (g.mms.get? pdp.mm).any (fun ctx => ctx.mmState = .registeredNormal) = false

/-- The MM context that an event frees: another one turns out to have its IMSI. -/
def freesMm (build : SgsnBuild) (s : SgsnInstance) (ev : SgsnEvent) : Option Nat :=
  match (mmReq build s ev).2 with
  | .idResp i mi => (idRespOld (mmReq build s ev).1 i mi).map Prod.fst
  | _ => none

/-- What an event can do. -/
def mayDo (build : SgsnBuild) (s : SgsnInstance) (ev : SgsnEvent) : PdpLabel → Prop
  | .look => True
  | .deletion _ => True
  | .mmFreed j => freesMm build s ev = some j
  | .made i nsapi sapi ti pdpLeft =>
    smReq build s ev = some { mm := i, ti := ti, msg := .actPdpReq sapi nsapi, pdpLeft := pdpLeft }
  | .timer p =>
    match ev with
    | .pdpTimer q => q = p
    | .recovery .. => True
    | _ => False
  | .freed p =>
    match ev with
    | .gtpConf h req passed cause _ => req.cbp = p ∧ endsPdp s.gmm h req passed cause
    | .recovery peer recovery => endsHard s.gmm peer recovery p
    | _ => False
  | .confirmed h req =>
    match ev with
    | .gtpConf h' req' _ _ _ => h' = h ∧ req' = req
    | _ => False
  | .retried h p =>
    match ev with
    | .gtpConf h' req passed cause _ =>
      h' = h ∧ req = ⟨.createPdp, p⟩ ∧ passed = true ∧ cause = none ∧ ¬ endsPdp s.gmm h req passed cause
    | _ => False
  | .handleFreed h =>
    match ev with
    | .gtpConf h' req passed cause frees =>
      h' = h ∧ (frees = true ∨ req.type = .createPdp ∧ endsPdp s.gmm h req passed cause)
    | .gtpDeleted h' => h' = h
    | _ => False

/-- A message of session management is handled for its MM context. -/
theorem gmmStep_sm {req : SmReq} (h : smReq build s ev = some req) :
    ∃ mms id, Touches s.gmm.mms mms ∧ (mms.get? req.mm).isSome = true ∧
      gmmStep build s ev =
        some (gsm0408RcvGsm { s.gmm with mms := mms } (some req.mm) id req.ti req.msg req.pdpLeft) := by
  cases ev with
  | uplink f given =>
    simp only [smReq] at h
    obtain ⟨found, hup, h⟩ := bind_eq_some_iff.mp h
    unfold UlFrame.smReq at h
    split at h
    · rename_i ti msg hdata
      split_ifs at h with hsapi
      obtain ⟨i, hi, rfl⟩ := map_eq_some_iff.mp h
      refine ⟨_, f.id, touches_rcvCtx build s.gmm.mms f.id f.cell found.2, ?_, ?_⟩
      · obtain ⟨ctx, hctx⟩ := live_rcvCtx build s.gmm.mms f.id f.cell found.2 i hi
        exact isSome_iff_exists.mpr ⟨ctx, hctx⟩
      · simp only [gmmStep, hup, dataStep, hdata, if_pos hsapi, gsm0408GprsRcvmsg, hi]
    · cases h
  | _ => cases h

/-! ## The step -/

/-- A chain of moves of these kinds. -/
abbrev PdpMoves (allowed : PdpLabel → Prop) : Gmm → Gmm → Prop := Moves PdpMove allowed

variable {allowed : PdpLabel → Prop}

theorem isSome_modify (mms : Pool MmCtx) (i : Nat) (f : MmCtx → MmCtx) (j : Nat)
    (h : (mms.get? j).isSome = true) : ((mms.modify i f).get? j).isSome = true := by
  obtain ⟨ctx, hctx⟩ := isSome_iff_exists.mp h
  obtain ⟨ctx', hctx'⟩ := kept_modify mms i f j ctx hctx
  rw [hctx']
  rfl

theorem isSome_touched {mms mms' : Pool MmCtx} (htouch : Touches mms mms') (j : Nat)
    (h : (mms.get? j).isSome = true) : (mms'.get? j).isSome = true := by
  obtain ⟨ctx, hctx⟩ := isSome_iff_exists.mp h
  obtain ⟨ctx', hctx'⟩ := kept_touched htouch j ctx hctx
  rw [hctx']
  rfl

section Look

variable (hlook : allowed .look)

include hlook

theorem moves_look {g' : Gmm} (hpdps : g'.pdps = g.pdps) (hlibs : g'.libs = g.libs)
    (hmms : ∀ i, (g.mms.get? i).isSome = true → (g'.mms.get? i).isSome = true) : PdpMoves allowed g g' :=
  .one hlook (.look hpdps hlibs hmms)

theorem moves_touched {mms : Pool MmCtx} (htouch : Touches g.mms mms) :
    PdpMoves allowed g { g with mms := mms } :=
  moves_look hlook rfl rfl (isSome_touched htouch)

theorem moves_onMm (g : Gmm) (i : Nat) (f : MmCtx → MmCtx × List LlReq) : PdpMoves allowed g (g.onMm i f).1 := by
  unfold onMm
  split
  · exact .refl g
  · exact moves_look hlook rfl rfl (isSome_modify g.mms i _)

end Look

theorem moves_deletions (hdel : ∀ p, allowed (.deletion p)) (ps : List Nat) (g : Gmm) :
    PdpMoves allowed g (ps.foldl sgsnDeletePdpCtx g) :=
  closure_foldl (fun _ p => Moves.one (hdel p) (.deletion p)) ps g

variable {id : MsgId} {cell : GprsRaId} {rands : List (BitVec 32)} {r : Gmm × List LlReq}

theorem moves_idResp (hlook : allowed .look) {i : Nat} {mi : MobileId}
    (hfree : ∀ old ∈ idRespOld g.mms i mi, allowed (.mmFreed old.1)) :
    PdpMoves allowed g (gsm48RxGmmIdResp g i mi).1 := by
  have hstart : PdpMoves allowed g { g with mms := g.mms.modify i (MmCtx.stopT3370 mi) } :=
    moves_look hlook rfl rfl (isSome_modify g.mms i _)
  unfold gsm48RxGmmIdResp
  dsimp only
  unfold idRespOld at hfree
  cases hold : ((g.mms.modify i (MmCtx.stopT3370 mi)).get? i).bind
      (oldCtxOf (g.mms.modify i (MmCtx.stopT3370 mi)) mi) with
  | none => exact hstart.trans (moves_onMm hlook _ _ _)
  | some old =>
    exact (hstart.snoc (hfree old hold) (.mmFreed old.1)).trans (moves_onMm hlook _ _ _)

variable {mmctx : Option Nat} {l : Nat}

theorem moves_rcvGmm (hlook : allowed .look) (hdel : ∀ p, allowed (.deletion p)) {msg : GmmMsg}
    (hfree : ∀ i mi, (gmmReq build g.mms mmctx id cell l msg).2 = .idResp i mi →
      ∀ old ∈ idRespOld (gmmReq build g.mms mmctx id cell l msg).1 i mi, allowed (.mmFreed old.1))
    (h : gsm0408RcvGmm build g mmctx id cell l msg rands = some r) : PdpMoves allowed g r.1 := by
  have hdone := rcvGmm_done h
  generalize gmmReq build g.mms mmctx id cell l msg = found at hdone hfree
  cases hdone with
  | kept htouch hlittle => exact moves_touched hlook htouch
  | attach hptmsi => exact moves_onMm hlook _ _ _
  | @attachNew base id cell l pTmsi hptmsi =>
    have hnew : PdpMoves allowed g { g with mms := g.mms.alloc base } := by
      refine moves_look hlook rfl rfl fun i hi => ?_
      rw [get?_alloc]
      split
      · rfl
      · exact hi
    exact hnew.trans (moves_onMm hlook _ _ _)
  | raUpd htouch hptmsi ps =>
    exact (moves_touched hlook htouch).trans ((moves_onMm hlook _ _ _).trans (moves_deletions hdel ps _))
  | idResp i mi => exact moves_idResp hlook (hfree i mi rfl)
  | detach i => exact (moves_deletions hdel _ _).trans (moves_onMm hlook _ _ _)
  | complete i reall => exact moves_onMm hlook _ _ _

variable {req : SmReq}

theorem actPdpReq_activates {sapi nsapi : Nat} (hmsg : req.msg = .actPdpReq sapi nsapi)
    (hact : req.activates g = true) (pdpLeft : Bool) :
    g.sgsnPdpCtxByNsapi req.mm nsapi = none ∧ ∃ ggsn,
      gsm48RxGsmActPdpReq g req.mm req.ti sapi nsapi pdpLeft =
        (sgsnCreatePdpCtx g ggsn req.mm nsapi sapi req.ti pdpLeft, []) := by
  unfold SmReq.activates at hact
  rw [hmsg] at hact
  dsimp only at hact
  obtain ⟨hrange, hggsn⟩ := Bool.and_eq_true_iff.mp hact
  obtain ⟨hrange, hfree⟩ := Bool.and_eq_true_iff.mp hrange
  obtain ⟨hlow, hhigh⟩ := of_decide_eq_true hrange
  have hnone := isNone_iff_eq_none.mp hfree
  obtain ⟨ggsn, hggsn⟩ := isSome_iff_exists.mp hggsn
  refine ⟨hnone, ggsn, ?_⟩
  unfold gsm48RxGsmActPdpReq
  rw [if_neg (by omega), hnone, hggsn]

/-- Any other one leaves the contexts. -/
theorem actPdpReq_quiet {sapi nsapi : Nat} (hmsg : req.msg = .actPdpReq sapi nsapi)
    (hact : req.activates g = false) (pdpLeft : Bool) :
    (gsm48RxGsmActPdpReq g req.mm req.ti sapi nsapi pdpLeft).1 = g := by
  unfold gsm48RxGsmActPdpReq
  dsimp only
  split
  · exact onMm_answer _ _ _
  · rename_i hrange
    split
    · split
      · rfl
      · exact onMm_answer _ _ _
    · rename_i hnone
      split
      · rfl
      · rename_i ggsn hggsn
        have hmakes : req.activates g = true := by
          unfold SmReq.activates
          rw [hmsg]
          dsimp only
          rw [hnone, hggsn, decide_eq_true (by omega : 5 ≤ nsapi ∧ nsapi ≤ 15)]
          rfl
        rw [hmakes] at hact
        cases hact

theorem moves_rcvGsm (hlook : allowed .look) (hdel : ∀ p, allowed (.deletion p)) {ti : Nat} {msg : SmMsg}
    {pdpLeft : Bool} (hmm : ∀ i ∈ mmctx, (g.mms.get? i).isSome = true)
    (hmade : ∀ i ∈ mmctx, ∀ sapi nsapi, msg = .actPdpReq sapi nsapi → allowed (.made i nsapi sapi ti pdpLeft)) :
    PdpMoves allowed g (gsm0408RcvGsm g mmctx id ti msg pdpLeft).1 := by
  have hdeact (i : Nat) (ack : Bool) : PdpMoves allowed g (gsm48RxGsmDeactPdp g i ti ack).1 := by
    unfold gsm48RxGsmDeactPdp
    split
    · exact .one (hdel _) (.deletion _)
    · split
      · exact .refl g
      · exact moves_onMm hlook _ _ _
  cases mmctx with
  | none => exact .refl g
  | some i =>
    cases msg with
    | actPdpReq sapi nsapi =>
      show PdpMoves allowed g (gsm48RxGsmActPdpReq g i ti sapi nsapi pdpLeft).1
      cases hact : SmReq.activates g ⟨i, ti, .actPdpReq sapi nsapi, pdpLeft⟩ with
      | true =>
        obtain ⟨hfree, ggsn, hreq⟩ := actPdpReq_activates rfl hact pdpLeft
        rw [show gsm48RxGsmActPdpReq g i ti sapi nsapi pdpLeft = _ from hreq]
        exact .one (hmade i rfl sapi nsapi rfl) (.made sapi ti pdpLeft ggsn (hmm i rfl) hfree)
      | false =>
        rw [show (gsm48RxGsmActPdpReq g i ti sapi nsapi pdpLeft).1 = g from actPdpReq_quiet rfl hact pdpLeft]
        exact .refl g
    | deactPdpReq => exact hdeact i false
    | deactPdpAck => exact hdeact i true
    | status => exact .refl g
    | other msgType => exact moves_onMm hlook _ _ _

/-! ### Timers and libgtp -/

theorem moves_txDeact (htimer : allowed (.timer p)) (pdp : PdpCtx) (cause : SmCause) :
    PdpMoves allowed g (gsm48TxGsmDeactPdpReq g p pdp cause).1 :=
  .one htimer (.timer p _ fun _ => rfl)

theorem moves_pdpTimer (hdel : ∀ p, allowed (.deletion p)) (htimer : allowed (.timer p))
    (h : pdpTimer g p = some (g', reqs)) : PdpMoves allowed g g' := by
  unfold pdpTimer at h
  split at h
  · rename_i pdp hpdp
    split_ifs at h with hrun
    have hg' : (pdpctxTimerCb g p { pdp with timer := false }).1 = g' := congrArg Prod.fst (some.inj h)
    rw [← hg']
    -- the PDP context is written back as it was, but for its timer
    have hback : PdpMoves allowed g
        { g with pdps := g.pdps.modify p fun _ => { pdp with timer := false, numTExp := pdp.numTExp + 1 } } := by
      have hmodify : (g.pdps.modify p fun _ => { pdp with timer := false, numTExp := pdp.numTExp + 1 }) =
          g.pdps.modify p fun pdp => { pdp with timer := false, numTExp := pdp.numTExp + 1 } :=
        modify_congr hpdp rfl
      rw [hmodify]
      exact .one htimer (.timer p _ fun _ => rfl)
    unfold pdpctxTimerCb
    dsimp only
    split
    · split
      · exact (hback.snoc htimer (.timer p (fun pdp => { pdp with state := .none }) fun _ => rfl)).snoc (hdel p)
          (.deletion p)
      · exact hback.trans (moves_txDeact htimer _ _)
    · exact hback
  · cases h

theorem moves_createReject {k : Option Nat} {pctx : PdpCtx} {cause : SmCause} (hfreed : allowed (.freed p))
    (hhandle : ∀ h ∈ k, allowed (.handleFreed h)) : PdpMoves allowed g (createPdpReject g k p pctx cause).1 := by
  unfold createPdpReject
  cases k with
  | none => exact .one hfreed (.freed p)
  | some h => exact (Moves.one (hhandle h rfl) (.handleFreed h)).snoc hfreed (.freed p)

variable {cause : Option GtpCause}

/-- A confirmation, with the request no longer pending. -/
theorem moves_cbConf {h : Nat} {req : GtpReq} {passed : Bool}
    (hfreed : endsPdp g h req passed cause → allowed (.freed req.cbp))
    (hhandle : req.type = .createPdp → endsPdp g h req passed cause → allowed (.handleFreed h))
    (hretry : req.type = .createPdp → passed = true → cause = none → ¬ endsPdp g h req passed cause →
      allowed (.retried h req.cbp)) :
    PdpMoves allowed g (cbConf g (if passed then some h else none) req cause).1 := by
  have hhandles : req.type = .createPdp → endsPdp g h req passed cause →
      ∀ k ∈ (if passed then some h else none), allowed (.handleFreed k) := by
    intro htype hends k hk
    cases passed with
    | false => cases hk
    | true =>
      cases hk
      exact hhandle htype hends
  unfold cbConf
  split
  · rename_i htype
    unfold createPdpConf
    split
    · exact .refl g
    · split
      · split
        · rename_i hnone
          have hends : endsPdp g h req passed none := by
            refine fun _ => ⟨by simp, fun htry => ?_⟩
            rw [if_pos htry.2.1] at hnone
            cases hnone
          exact moves_createReject (hfreed hends) fun k hk => nomatch hk
        · rename_i k hk
          have hpassed : passed = true := by
            cases passed with
            | false => cases hk
            | true => rfl
          rw [if_pos hpassed] at hk
          cases hk
          split_ifs with hversion
          · exact .one (hretry htype hpassed rfl fun hends => (hends htype).2 ⟨rfl, hpassed, hversion⟩)
              (.retried h req.cbp)
          · have hends : endsPdp g h req passed none :=
              fun _ => ⟨by simp, fun htry => hversion htry.2.2⟩
            refine moves_createReject (hfreed hends) fun k hk => ?_
            cases hk
            exact hhandle htype hends
      · exact .refl g
      · rename_i cause hcause
        have hends : endsPdp g h req passed (some cause) := by
          refine fun _ => ⟨fun hacc => hcause (some.inj hacc), fun htry => ?_⟩
          cases htry.1
        exact moves_createReject (hfreed hends) (hhandles htype hends)
  · rename_i htype
    unfold deletePdpConf
    split
    · exact .refl g
    · have hends : endsPdp g h req passed cause := fun hcreate => by rw [htype] at hcreate; cases hcreate
      exact .one (hfreed hends) (.freed _)

theorem moves_gtpConf {h : Nat} {req : GtpReq} {passed frees : Bool}
    (hconf : gtpConf g h req passed cause frees = some (g', reqs)) (hconfirmed : allowed (.confirmed h req))
    (hfreed : endsPdp g h req passed cause → allowed (.freed req.cbp))
    (hhandle : frees = true ∨ req.type = .createPdp ∧ endsPdp g h req passed cause → allowed (.handleFreed h))
    (hretry : req.type = .createPdp → passed = true → cause = none → ¬ endsPdp g h req passed cause →
      allowed (.retried h req.cbp)) :
    PdpMoves allowed g g' := by
  have hsame : endsPdp { g with libs := g.libs.modify h fun lib => { lib with pending := lib.pending.erase req } }
      h req passed cause ↔ endsPdp g h req passed cause := by
    unfold endsPdp
    dsimp only
    rw [get?_modify, if_pos rfl, any_map]
  have hchain : PdpMoves allowed g
      (cbConf { g with libs := g.libs.modify h fun lib => { lib with pending := lib.pending.erase req } }
        (if passed then some h else none) req cause).1 := by
    refine (Moves.one hconfirmed (.confirmed h req)).trans (moves_cbConf ?_ ?_ ?_)
    · exact fun hends => hfreed (hsame.mp hends)
    · exact fun htype hends => hhandle (.inr ⟨htype, hsame.mp hends⟩)
    · exact fun htype hpassed hcause hends => hretry htype hpassed hcause fun h => hends (hsame.mpr h)
  unfold gtpConf at hconf
  split at hconf
  case isFalse => cases hconf
  case isTrue =>
    have hg' := congrArg Prod.fst (some.inj hconf)
    dsimp only at hg'
    rw [← hg']
    cases frees with
    | true => exact hchain.snoc (hhandle (.inl rfl)) (.handleFreed h)
    | false => exact hchain

/-- PDP contexts with a GGSN that has restarted: a station is asked to deactivate them, or they are freed. -/
theorem moves_dropAll (htimer : ∀ p, allowed (.timer p)) {k : Nat}
    (hfreed : ∀ p pdp, g.pdps.get? p = some pdp → pdp.ggsn = some k →
      (g.mms.get? pdp.mm).any (fun ctx => ctx.mmState = .registeredNormal) = false → allowed (.freed p)) :
    PdpMoves allowed g (dropAllPdpForGgsn g k).1 := by
  unfold dropAllPdpForGgsn
  dsimp only
  generalize hpdps : (g.mms.ids.reverse.flatMap fun i => (g.pdpList i).filter fun p =>
    (g.pdps.get? p).any fun pdp => pdp.ggsn = some k) = pdps
  have hmem : ∀ p ∈ pdps, ∃ pdp, g.pdps.get? p = some pdp ∧ pdp.ggsn = some k := by
    intro p hp
    rw [← hpdps] at hp
    obtain ⟨i, -, hp⟩ := List.mem_flatMap.mp hp
    obtain ⟨pdp, hpdp, hggsn⟩ := (any_eq_true _ _).mp (List.mem_filter.mp hp).2
    exact ⟨pdp, hpdp, by simpa using hggsn⟩
  clear hpdps
  have hcalm (g : Gmm) (p : Nat) : Calm True g (dropOnePdp g p) := calm_dropOne g p
  -- what is left of the PDP contexts is as it was, but for the timers
  have hfold (r : Gmm × List LlReq) (hmms : r.1.mms = g.mms)
      (hkept : ∀ p pdp', r.1.pdps.get? p = some pdp' → ∃ pdp, g.pdps.get? p = some pdp ∧ pdp'.session = pdp.session) :
      PdpMoves allowed r.1 (pdps.foldl (fun r p => ((dropOnePdp r.1 p).1, r.2 ++ (dropOnePdp r.1 p).2)) r).1 := by
    induction pdps generalizing r with
    | nil => exact .refl r.1
    | cons p pdps ih =>
      rw [List.foldl_cons]
      have hone : PdpMoves allowed r.1 (dropOnePdp r.1 p).1 ∧ ∀ q pdp', (dropOnePdp r.1 p).1.pdps.get? q = some pdp' →
          ∃ pdp, g.pdps.get? q = some pdp ∧ pdp'.session = pdp.session := by
        unfold dropOnePdp
        split
        · exact ⟨.refl r.1, hkept⟩
        · rename_i pdp' hpdp'
          obtain ⟨pdp, hpdp, hsame⟩ := hkept p pdp' hpdp'
          split
          · refine ⟨moves_txDeact (htimer p) _ _, fun q new hnew => ?_⟩
            have hnew' : (r.1.pdps.modify p fun pdp => { pdp with T := .t3395, numTExp := 0, timer := true }).get? q =
                some new := hnew
            rw [get?_modify] at hnew'
            split_ifs at hnew'
            · obtain ⟨old, hold, rfl⟩ := map_eq_some_iff.mp hnew'
              exact hkept q old hold
            · exact hkept q new hnew'
          · rename_i hnormal
            have hmm : pdp'.mm = pdp.mm := congrArg (·.mm) hsame
            rw [hmms, hmm, Bool.not_eq_true] at hnormal
            obtain ⟨pdp₁, hpdp₁, hggsn⟩ := hmem p List.mem_cons_self
            rw [hpdp] at hpdp₁
            cases hpdp₁
            refine ⟨.one (hfreed p pdp hpdp hggsn hnormal) (.freed p), fun q new hnew => ?_⟩
            have hnew' : (r.1.pdps.remove p).get? q = some new := by
              unfold sgsnPdpCtxFree at hnew
              rw [hpdp'] at hnew
              exact hnew
            exact hkept q new (get?_of_remove hnew').2
      exact hone.1.trans (ih (fun q hq => hmem q (List.mem_cons_of_mem _ hq))
        ((dropOnePdp r.1 p).1, r.2 ++ (dropOnePdp r.1 p).2) ((hcalm r.1 p).mms.trans hmms) hone.2)
  exact hfold (g, []) rfl fun p pdp' hpdp' => ⟨pdp', hpdp', rfl⟩

theorem moves_cbRecovery (hlook : allowed .look) (htimer : ∀ p, allowed (.timer p)) {peer : BitVec 32} {recovery : Nat}
    (hfreed : ∀ p, endsHard g peer recovery p → allowed (.freed p)) :
    PdpMoves allowed g (cbRecovery g peer recovery).1 := by
  unfold cbRecovery
  split
  · exact .refl g
  · rename_i k ggsn hggsn
    have hstart : PdpMoves allowed g
        { g with ggsns := g.ggsns.modify k fun ggsn => { ggsn with remoteRestartCtr := some recovery } } :=
      moves_look hlook rfl rfl fun _ h => h
    dsimp only
    split
    · exact hstart
    · rename_i ctr hctr
      split
      · exact hstart
      · rename_i hdiffers
        refine hstart.trans (moves_dropAll htimer fun p pdp hpdp hof hnormal => ?_)
        refine hfreed p ⟨k, pdp, ?_, hpdp, hof, hnormal⟩
        unfold restarted
        rw [hggsn, bind_some, hctr, bind_some, if_neg hdiffers]

/-! ### Events -/

theorem dataStep_moves {llmes : Pool Llme} {f : UlFrame} {given : Given} (hlook : allowed .look)
    (hdel : ∀ p, allowed (.deletion p))
    (hmade : ∀ i sapi nsapi ti, f.smReq build g.mms l given.pdpLeft =
      some { mm := i, ti := ti, msg := .actPdpReq sapi nsapi, pdpLeft := given.pdpLeft } →
        allowed (.made i nsapi sapi ti given.pdpLeft))
    (hfree : ∀ i mi, (dataReq build g.mms llmes f l).2 = .idResp i mi →
      ∀ old ∈ idRespOld (dataReq build g.mms llmes f l).1 i mi, allowed (.mmFreed old.1))
    (h : dataStep build g llmes f l given = some (g', reqs)) : PdpMoves allowed g g' := by
  have hdone := dataStep_done h
  generalize dataReq build g.mms llmes f l = found at hdone hfree
  generalize hr : (g', reqs) = r at hdone
  rw [show g' = r.1 from congrArg Prod.fst hr]
  cases hdone with
  | looked htouch => exact moves_touched hlook htouch
  | gmm htouch hmsg => exact (moves_touched hlook htouch).trans (moves_rcvGmm hlook hdel hfree hmsg)
  | sm hreq =>
    refine (moves_touched hlook (touches_rcvCtx build g.mms f.id f.cell l)).trans (moves_rcvGsm hlook hdel ?_ ?_)
    · intro i hi
      obtain ⟨ctx, hctx⟩ := live_rcvCtx build g.mms f.id f.cell l i hi
      exact isSome_iff_exists.mpr ⟨ctx, hctx⟩
    · intro i hi sapi nsapi hact
      apply hmade
      rw [hreq i hi, hact]

/-- **What an event does to the PDP contexts.** -/
theorem gmmStep_moves (h : gmmStep build s ev = some (g', reqs)) : PdpMoves (mayDo build s ev) s.gmm g' := by
  have hlook : mayDo build s ev .look := trivial
  have hdel : ∀ p, mayDo build s ev (.deletion p) := fun _ => trivial
  cases ev with
  | uplink f given =>
    simp only [gmmStep] at h
    cases hup : f.handedUp build s.llmes with
    | none =>
      rw [hup] at h
      cases h
      exact .refl _
    | some found =>
      rw [hup] at h
      refine dataStep_moves hlook hdel ?_ ?_ h
      · intro i sapi nsapi ti hreq
        show smReq build s (.uplink f given) = _
        simp only [smReq, hup, bind_some]
        exact hreq
      · intro i mi hreq old hold
        show freesMm build s (.uplink f given) = _
        have hmm : mmReq build s (.uplink f given) = dataReq build s.gmm.mms found.1 f found.2 := by
          simp only [mmReq, hup]
        unfold freesMm
        rw [hmm, hreq]
        dsimp only
        rw [show idRespOld (dataReq build s.gmm.mms found.1 f found.2).1 i mi = some old from hold]
        rfl
  | suspend raid tlli | resume raid tlli =>
    cases h
    refine moves_look hlook rfl rfl fun i hi => ?_
    have htouched := isSome_touched (touches_byTlli build s.gmm.mms tlli raid) i hi
    show (get? (onFound _ _ _) i).isSome = true
    unfold onFound
    split
    · exact htouched
    · exact isSome_modify _ _ _ _ htouched
  | mmTimer i =>
    simp only [gmmStep, mmTimer] at h
    split at h
    · have hg' := congrArg Prod.fst (some.inj h)
      dsimp only at hg'
      rw [← hg']
      exact moves_onMm hlook _ _ _
    · cases h
  | pdpTimer p => exact moves_pdpTimer hdel (show mayDo build s (.pdpTimer p) (.timer p) from rfl) h
  | gtpConf k req passed cause frees =>
    refine moves_gtpConf h ⟨rfl, rfl⟩ (fun hends => ⟨rfl, hends⟩) (fun hfrees => ⟨rfl, hfrees⟩) ?_
    intro htype hpassed hcause hends
    obtain ⟨type, cbp⟩ := req
    obtain rfl : type = .createPdp := htype
    exact ⟨rfl, rfl, hpassed, hcause, hends⟩
  | gtpDataInd k sndcp =>
    cases h
    exact .refl _
  | gtpDeleted k =>
    cases h
    exact .one (show mayDo build s (.gtpDeleted k) (.handleFreed k) from rfl) (.handleFreed k)
  | recovery peer recovery =>
    have hg' := congrArg Prod.fst (some.inj h)
    dsimp only at hg'
    rw [← hg']
    exact moves_cbRecovery hlook (fun _ => trivial) fun p hends => hends

/-! ## What stays -/

/-- The PDP contexts that were there: each is gone, or the same session, with the same timer unless that is touched. -/
def Survives (allowed : PdpLabel → Prop) (g g' : Gmm) : Prop :=
  g.pdps.next ≤ g'.pdps.next ∧ ∀ p pdp', p < g.pdps.next → g'.pdps.get? p = some pdp' →
    ∃ pdp, g.pdps.get? p = some pdp ∧ pdp'.session = pdp.session ∧ (¬ allowed (.timer p) → pdp' = pdp)

theorem Survives.of_sub {a : Gmm} (h : Survives allowed g a) (hnext : g'.pdps.next = a.pdps.next)
    (hsub : ∀ p pdp, g'.pdps.get? p = some pdp → a.pdps.get? p = some pdp) : Survives allowed g g' :=
  ⟨hnext ▸ h.1, fun p pdp' hp hpdp' => h.2 p pdp' hp (hsub p pdp' hpdp')⟩

theorem survives_moves (h : PdpMoves allowed g g') : Survives allowed g g' := by
  refine h.preserves (I := Survives allowed g) ?_ ⟨Nat.le_refl _, fun p pdp _ hpdp => ⟨pdp, hpdp, rfl, fun _ => rfl⟩⟩
  intro a l b ha hl hmove
  cases hmove with
  | look hpdps => exact ha.of_sub (by rw [hpdps]) fun p pdp hpdp => by rwa [hpdps] at hpdp
  | mmFreed j =>
    refine ha.of_sub ?_ fun p pdp hpdp => (get?_mmCtxFree hpdp).1
    rcases (mmCtxFree_eq a j).2 with ⟨hpdps, -⟩ | hpdps
    · rw [hpdps]
    · rw [hpdps, next_foldl_remove]
  | freed q =>
    refine ha.of_sub (by rw [pdps_pdpCtxFree]; rfl) fun p pdp hpdp => ?_
    rw [pdps_pdpCtxFree] at hpdp
    exact (get?_of_remove hpdp).2
  | deletion q => exact ha.of_sub (by rw [pdps_deletePdpCtx]) fun p pdp hpdp => by rwa [pdps_deletePdpCtx] at hpdp
  | timer q f hf =>
    refine ⟨ha.1, fun p pdp' hp hpdp' => ?_⟩
    have hmodified : (a.pdps.modify q f).get? p = some pdp' := hpdp'
    rw [get?_modify] at hmodified
    split_ifs at hmodified with hpq
    · obtain ⟨mid, hmid, rfl⟩ := map_eq_some_iff.mp hmodified
      obtain ⟨pdp, hpdp, hsession, -⟩ := ha.2 p mid hp hmid
      exact ⟨pdp, hpdp, (hf mid).trans hsession, fun hnot => absurd (hpq ▸ hl) hnot⟩
    · exact ha.2 p pdp' hp hmodified
  | made sapi ti pdpLeft ggsn =>
    have halloc {b : Gmm} (new : PdpCtx) (hb : b.pdps = a.pdps.alloc new) : Survives allowed g b := by
      unfold Survives
      rw [hb]
      refine ⟨Nat.le_succ_of_le ha.1, fun p pdp' hp hpdp' => ha.2 p pdp' hp ?_⟩
      rwa [get?_alloc, if_neg (Nat.ne_of_lt (Nat.lt_of_lt_of_le hp ha.1))] at hpdp'
    unfold sgsnCreatePdpCtx
    split
    · exact halloc _ rfl
    · exact halloc _ rfl
  | confirmed | retried | handleFreed => exact ha

/-- Only an activation request makes a PDP context. -/
theorem next_moves (h : PdpMoves allowed g g')
    (hmade : ∀ i nsapi sapi ti pdpLeft, ¬ allowed (.made i nsapi sapi ti pdpLeft)) : g'.pdps.next = g.pdps.next := by
  refine h.preserves (I := fun a => a.pdps.next = g.pdps.next) ?_ rfl
  intro a l b ha hl hmove
  cases hmove with
  | look hpdps => rw [hpdps, ha]
  | mmFreed j =>
    rcases (mmCtxFree_eq a j).2 with ⟨hpdps, -⟩ | hpdps
    · rw [hpdps, ha]
    · rw [hpdps, next_foldl_remove, ha]
  | freed q => rw [pdps_pdpCtxFree]; exact ha
  | deletion q => rw [pdps_deletePdpCtx, ha]
  | made => exact absurd hl (hmade _ _ _ _ _)
  | _ => exact ha

/-! ## Activations -/

theorem pdps_activated (hreq : smReq build s ev = some req) (hact : req.activates s.gmm = true)
    (hstep : gmmStep build s ev = some (g', reqs)) :
    ∃ new : PdpCtx, g'.pdps = s.gmm.pdps.alloc new ∧ new.mm = req.mm ∧
      s.gmm.sgsnPdpCtxByNsapi req.mm new.nsapi = none ∧
      (req.pdpLeft = true → new.lib = some s.gmm.libs.next ∧ new.ti = req.ti) ∧
      (req.pdpLeft = false → new.lib = none) := by
  obtain ⟨mms, id, -, -, hsm⟩ := gmmStep_sm hreq
  rw [hsm] at hstep
  cases hmsg : req.msg with
  | actPdpReq sapi nsapi =>
    rw [hmsg] at hstep
    have hact' : req.activates { s.gmm with mms := mms } = true := hact
    obtain ⟨hfree, ggsn, hmade⟩ := actPdpReq_activates hmsg hact' req.pdpLeft
    obtain ⟨rfl, -⟩ := Prod.mk.inj ((some.inj hstep).symm.trans hmade)
    cases req.pdpLeft with
    | true => exact ⟨_, rfl, rfl, hfree, fun _ => ⟨rfl, rfl⟩, nofun⟩
    | false => exact ⟨_, rfl, rfl, hfree, nofun, fun _ => rfl⟩
  | _ =>
    unfold SmReq.activates at hact
    rw [hmsg] at hact
    cases hact

/-- None is made. -/
theorem pdps_kept (hno : ∀ req ∈ smReq build s ev, req.activates s.gmm = false)
    (hstep : gmmStep build s ev = some (g', reqs)) :
    g'.pdps.next = s.gmm.pdps.next ∧ ∀ p pdp', g'.pdps.get? p = some pdp' →
      ∃ pdp, s.gmm.pdps.get? p = some pdp ∧ pdp'.session = pdp.session := by
  by_cases hact : ∃ req sapi nsapi, smReq build s ev = some req ∧ req.msg = .actPdpReq sapi nsapi
  · obtain ⟨req, sapi, nsapi, hreq, hmsg⟩ := hact
    obtain ⟨mms, id, -, -, hsm⟩ := gmmStep_sm hreq
    have hquiet := actPdpReq_quiet (g := { s.gmm with mms := mms }) hmsg (hno req hreq) req.pdpLeft
    rw [hsm, hmsg] at hstep
    have hg' := congrArg Prod.fst (some.inj hstep)
    obtain rfl : g' = { s.gmm with mms := mms } := hg'.symm.trans hquiet
    exact ⟨rfl, fun p pdp hpdp => ⟨pdp, hpdp, rfl⟩⟩
  · have hmoves := gmmStep_moves hstep
    have hnext := next_moves hmoves fun i nsapi sapi ti pdpLeft hmade => hact ⟨_, sapi, nsapi, hmade, rfl⟩
    refine ⟨hnext, fun p pdp' hpdp' => ?_⟩
    have hlt := get?_lt hpdp'
    rw [hnext] at hlt
    obtain ⟨pdp, hpdp, hsession, -⟩ := (survives_moves hmoves).2 p pdp' hlt hpdp'
    exact ⟨pdp, hpdp, hsession⟩

theorem pdps_deletion {h : Nat} {passed frees : Bool}
    (hconf : gtpConf g h ⟨.deletePdp, p⟩ passed cause frees = some (g', reqs)) : g'.pdps = g.pdps.remove p := by
  have hdelete (g : Gmm) : (deletePdpConf g p).1.pdps = g.pdps.remove p := by
    unfold deletePdpConf
    split
    · rename_i hnone
      rw [remove_of_get?_none hnone]
    · exact pdps_pdpCtxFree g p
  unfold gtpConf at hconf
  split at hconf
  · have hg' := congrArg Prod.fst (some.inj hconf)
    rw [← show _ = g' from hg']
    cases frees with
    | true | false => exact hdelete _
  · cases hconf

end OpenBsc.Sgsn
