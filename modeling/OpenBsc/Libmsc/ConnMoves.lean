import OpenBsc.Libmsc.Connection

/-!
# `Libmsc.ConnMoves` — the moves the handlers of a connection are made of

Every handler of `Libmsc.Connection` is a chain of few kinds of moves. What each move keeps is kept by whole events, so
an invariant about the log, the operation or the subscriber looks at the moves only.

A handler reports the success of an operation in one place, `gsm48_rx_rr_ciph_m_compl`; the moves have a condition `G`
for it.
-/

namespace OpenBsc.Libmsc

open Transition
open Relation (ReflTransGen)

/-- What a handler may log without having decided anything that matters for security. -/
def MscOut.plain : MscOut → Bool
  | .locUpdRej _ | .identityReq _ | .mmInfo | .authReq _ _ | .authRej | .cmServRej _ | .pagingResult false | .ussdReject
  | .apduStored _ | .clear => true
  | .locUpdAcc _ | .cipherMode _ _ | .cmServAck | .pagingResult true | .ussdOwnNumber _ | .named _ _ | .opStarted _
  | .sresMatched | .secCallback _ _ _ | .transMade _ _ => false

/-- The last thing that happened: the callback was told that the channel is as secure as it has to be. -/
def PassedTo (cb : SecCallback) (log : List MscOut) : Prop :=
  ∃ before ofOp event, log = before ++ [.secCallback ofOp cb event] ∧ event ≠ .authFailed

namespace MscConn

/-- One move. -/
inductive Move (G : MscConn → Prop) : MscConn → MscConn → Prop where
  /-- Something else changes. -/
  | quiet {s s' : MscConn} (hlog : s'.log = s.log) (hsec : s'.secOperation = s.secOperation)
      (hsubscr : s'.subscr = s.subscr) (hnet : s'.net = s.net) : Move G s s'
  | plain {s : MscConn} {out : MscOut} (h : out.plain = true) : Move G s (s.emit out)
  | dropSec {s : MscConn} : Move G s { s with secOperation := none }
  | effect {s : MscConn} (e : TransEffect) : Move G s { s with net := e.apply s.net }
  | named {s : MscConn} (how : NamedBy) (subscr : Nat) : Move G s (s.name how subscr)
  | made {s : MscConn} {subscr : Nat} {proto : TransProto} (e : TransEffect) (h : s.subscr = some subscr) :
      Move G s ({ s with net := e.apply s.net }.emit (.transMade proto subscr))
  | ownNumber {s : MscConn} {subscr : Nat} (h : s.subscr = some subscr) : Move G s (s.emit (.ussdOwnNumber subscr))
  | callback {s : MscConn} {ofOp : Bool} {cb : SecCallback} {event : GsmSecurity}
      (h : ofOp = true → event ≠ .succeeded) : Move G s (s.emit (.secCallback ofOp cb event))
  | opSucceeded {s : MscConn} {op : GsmSecurityOperation} (h : s.secOperation = some op) (hG : G s) :
      Move G s (s.emit (.secCallback true op.cb .succeeded))
  | cmServAck {s : MscConn} (h : PassedTo .servReq s.log) : Move G s (s.emit .cmServAck)
  | locUpdAcc {s : MscConn} {subscr : Nat} (h : PassedTo .authorize s.log) (hsubscr : s.subscr = some subscr) :
      Move G s (s.emit (.locUpdAcc subscr))
  | paged {s : MscConn} (h : PassedTo .paging s.log) : Move G s (s.emit (.pagingResult true))
  | startAuth {s : MscConn} {op : GsmSecurityOperation} (hsec : s.secOperation = none) (h : s.subscr.isSome = true) :
      Move G s ({ s with secOperation := some op }.emit (.opStarted true))
  | startCiph {s : MscConn} (op : GsmSecurityOperation) (cipher : Octet) (hsec : s.secOperation = none)
      (h : s.subscr.isSome = true) :
      Move G s (({ s with secOperation := some op }.emit (.opStarted false)).gsm0808CipherMode cipher op.atuple.kc)
  | matched {s : MscConn} {op : GsmSecurityOperation} (cipher : Octet) (h : s.secOperation = some op) :
      Move G s ((s.emit .sresMatched).gsm0808CipherMode cipher op.atuple.kc)

abbrev Moves (G : MscConn → Prop) : MscConn → MscConn → Prop := ReflTransGen (Move G)

variable {G : MscConn → Prop} {env : MscEnv} {msg : Gsm48Msg} {s s' : MscConn}

theorem moves_emit {out : MscOut} (h : out.plain = true) : Moves G s (s.emit out) := .single (.plain h)

theorem moves_quiet (hlog : s'.log = s.log) (hsec : s'.secOperation = s.secOperation) (hsubscr : s'.subscr = s.subscr)
    (hnet : s'.net = s.net) : Moves G s s' :=
  .single (.quiet hlog hsec hsubscr hnet)

theorem moves_crash (use : NullUse) : Moves G s (s.crash use) := moves_quiet rfl rfl rfl rfl

theorem moves_proceed {f : MscConn → MscConn} (hf : ∀ s, Moves G s (f s)) (s : MscConn) : Moves G s (s.proceed f) := by
  unfold proceed
  split
  · exact .refl
  · exact hf s

/-! ## Moves that release and free -/

section

variable (s : MscConn)

theorem moves_mscReleaseConnection : Moves G s s.mscReleaseConnection := by
  unfold mscReleaseConnection
  split
  · exact .refl
  split
  · exact .refl
  split
  · exact .refl
  have hclear : Moves G s (s.emit .clear) := moves_emit rfl
  exact hclear.tail (.quiet rfl rfl rfl rfl)

theorem moves_releaseAnchor : Moves G s s.releaseAnchor := moves_quiet rfl rfl rfl rfl

theorem moves_releaseSecurityOperation : Moves G s s.releaseSecurityOperation := by
  unfold releaseSecurityOperation
  split
  · exact .refl
  · exact .head .dropSec (moves_mscReleaseConnection _)

theorem moves_releaseLocUpdatingReq : Moves G s s.releaseLocUpdatingReq := by
  unfold releaseLocUpdatingReq
  split
  · exact .refl
  · refine ReflTransGen.trans ?_ (moves_mscReleaseConnection _)
    exact moves_quiet rfl rfl rfl rfl

theorem moves_transEffect (e : TransEffect) : Moves G s (s.transEffect e) := by
  have happly : Moves G s { s with net := e.apply s.net } := .single (.effect e)
  simp only [transEffect]
  split
  · exact happly.trans (moves_mscReleaseConnection _)
  · exact happly

theorem moves_transEffects (es : List TransEffect) : Moves G s (s.transEffects es) :=
  closure_foldl (fun s e => moves_transEffect s e) es s

end

/-! ## Callbacks -/

variable {cb : SecCallback} {event : GsmSecurity}

theorem passedTo_emit {ofOp : Bool} (h : event ≠ .authFailed) :
    PassedTo cb (s.emit (.secCallback ofOp cb event)).log :=
  ⟨s.log, ofOp, event, rfl, h⟩

theorem moves_acceptLocUpd (h : PassedTo .authorize s.log) : Moves G s (s.acceptLocUpd env) := by
  unfold acceptLocUpd
  split
  · exact moves_crash _
  next subscr hsubscr =>
    refine .head (.locUpdAcc h hsubscr) (ReflTransGen.trans ?_ (moves_transEffects _ _))
    split
    · exact moves_emit rfl
    · exact .refl

theorem moves_authorizeSecCb (h : event ≠ .authFailed → PassedTo .authorize s.log) :
    Moves G s (s.authorizeSecCb env event) := by
  cases event with
  | authFailed => exact moves_releaseLocUpdatingReq s
  | noavail | succeeded => exact moves_acceptLocUpd (h (by decide))

theorem moves_servReqSecCb (h : event ≠ .authFailed → PassedTo .servReq s.log) : Moves G s (s.servReqSecCb event) := by
  cases event with
  | authFailed => exact .refl
  | noavail => exact .single (.cmServAck (h (by decide)))
  | succeeded => exact .refl

theorem moves_subscrPagingDispatch {succeeded : Bool} (h : succeeded = true → PassedTo .paging s.log) :
    Moves G s (s.subscrPagingDispatch env succeeded) := by
  unfold subscrPagingDispatch
  split
  · refine ReflTransGen.trans ?_ (moves_transEffects _ _)
    cases succeeded with
    | true => exact .single (.paged (h rfl))
    | false => exact moves_emit rfl
  · exact .refl

theorem moves_pagingSecCb (h : event ≠ .authFailed → PassedTo .paging s.log) :
    Moves G s (s.pagingSecCb env event) := by
  cases event with
  | authFailed => exact moves_subscrPagingDispatch (fun h => by cases h)
  | noavail | succeeded => exact moves_subscrPagingDispatch (fun _ => h (by decide))

theorem moves_after_callback {ofOp : Bool} (h : Moves G s (s.emit (.secCallback ofOp cb event))) :
    Moves G s (s.invoke env ofOp cb event) := by
  unfold invoke
  cases cb with
  | authorize => exact h.trans (moves_authorizeSecCb passedTo_emit)
  | servReq => exact h.trans (moves_servReqSecCb passedTo_emit)
  | paging => exact h.trans (moves_pagingSecCb passedTo_emit)

theorem moves_invoke {ofOp : Bool} (h : ofOp = true → event ≠ .succeeded) : Moves G s (s.invoke env ofOp cb event) :=
  moves_after_callback (.single (.callback h))

theorem moves_invoke_direct : Moves G s (s.invoke env false cb event) :=
  moves_invoke (fun h => by cases h)

theorem moves_gsm48SecureChannel (s : MscConn) (keySeq : Octet) (cb : SecCallback) :
    Moves G s (s.gsm48SecureChannel env keySeq cb) := by
  unfold gsm48SecureChannel
  split
  · exact moves_invoke_direct
  split
  · exact moves_invoke_direct
  split
  · exact moves_crash _
  next subscr hsubscr =>
    have hsome : s.subscr.isSome = true := by rw [hsubscr]; rfl
    split
    · exact moves_invoke_direct
    split
    case h_1 => exact moves_invoke_direct
    case h_2 atuple _ =>
      split
      · exact .refl
      · next hsec =>
          have hnone : s.secOperation = none := by simpa using hsec
          exact .head (.startAuth hnone hsome) (moves_emit rfl)
    case h_3 atuple _ =>
      split
      · exact .refl
      · next hsec =>
          have hnone : s.secOperation = none := by simpa using hsec
          exact .single (.startCiph ⟨cb, atuple⟩ _ hnone hsome)

theorem moves_gsm0408Authorize (s : MscConn) : Moves G s (s.gsm0408Authorize env) := by
  unfold gsm0408Authorize
  split
  · split
    · exact moves_crash _
    · exact moves_gsm48SecureChannel _ _ _
  · exact .refl

/-! ## Handlers -/

theorem moves_name (s : MscConn) (how : NamedBy) (subscr : Nat) : Moves G s (s.name how subscr) := .single (.named _ _)

theorem moves_nameByImsi (s : MscConn) (digits : List Octet) : Moves G s (s.nameByImsi env digits) := by
  unfold nameByImsi
  split
  · split
    · exact moves_name _ _ _
    · exact .refl
  · exact .refl

theorem moves_mapLocOperation (s : MscConn) (f : GsmLocUpdatingOperation → GsmLocUpdatingOperation) :
    Moves G s (s.mapLocOperation f) :=
  moves_quiet rfl rfl rfl rfl

theorem moves_takeIdentity (s : MscConn) (mi : MobileIdentity) : Moves G s (s.takeIdentity env mi) := by
  cases mi with
  | imsi digits => exact (moves_nameByImsi s _).trans (moves_mapLocOperation _ _)
  | imei | imeisv => exact moves_mapLocOperation s _
  | tmsi | other => exact .refl

theorem moves_mmRxIdResp (s : MscConn) : Moves G s (s.mmRxIdResp env msg) :=
  (moves_takeIdentity s msg.mi).trans (moves_gsm0408Authorize _)

theorem moves_requests (requests : List IdType) (s : MscConn) :
    Moves G s { s with log := s.log ++ requests.map .identityReq } := by
  induction requests generalizing s with
  | nil => exact moves_quiet (by simp) rfl rfl rfl
  | cons type requests ih =>
    have hrest := ih (s.emit (.identityReq type))
    simp only [emit, List.append_assoc, List.singleton_append] at hrest
    exact .head (.plain rfl) hrest

section

variable (s : MscConn)

theorem moves_startLocUpdating : Moves G s (s.startLocUpdating env msg) :=
  (moves_requests _ s).tail (.quiet rfl rfl rfl rfl)

theorem moves_mmRxLocUpdReq : Moves G s (s.mmRxLocUpdReq env msg) := by
  unfold mmRxLocUpdReq
  split
  · exact moves_emit rfl
  split
  · exact moves_startLocUpdating s
  · exact (moves_startLocUpdating s).trans ((moves_name _ _ _).trans (moves_gsm0408Authorize _))

theorem moves_nameIfNone (how : NamedBy) (subscr : Nat) : Moves G s (s.nameIfNone how subscr) := by
  unfold nameIfNone
  split
  · exact moves_name _ _ _
  · exact .refl

theorem moves_gsm48RxMmServReq : Moves G s (s.gsm48RxMmServReq env msg) := by
  unfold gsm48RxMmServReq
  split
  · exact moves_emit rfl
  split
  · exact moves_emit rfl
  split
  · split
    · exact moves_emit rfl
    · exact (moves_nameIfNone s _ _).trans (moves_gsm48SecureChannel _ _ _)
  all_goals exact moves_emit rfl

theorem moves_gsm48RxMmAuthResp : Moves G s (s.gsm48RxMmAuthResp env msg) := by
  unfold gsm48RxMmAuthResp
  split
  · exact .refl
  next op hop =>
    split
    · refine (moves_invoke (fun _ => by decide)).trans (moves_proceed (fun s => ?_) _)
      exact (moves_emit rfl).trans (moves_releaseSecurityOperation _)
    · exact .single (.matched _ hop)

theorem moves_gsm0408RcvMm (type : MmMsg) : Moves G s (s.gsm0408RcvMm env msg type) := by
  cases type with
  | locUpdRequest => exact moves_mmRxLocUpdReq s
  | idResp => exact moves_mmRxIdResp s
  | cmServReq => exact moves_gsm48RxMmServReq s
  | tmsiReallCompl => exact moves_releaseLocUpdatingReq s
  | authResp => exact moves_gsm48RxMmAuthResp s
  | status | imsiDetachInd | cmReestReq | unknown => exact .refl

theorem moves_pagingRequestStop (keySeq : Octet) : Moves G s (s.pagingRequestStop env keySeq) := by
  unfold pagingRequestStop
  split
  · exact .refl
  · exact moves_gsm48SecureChannel _ _ _
  · exact moves_quiet rfl rfl rfl rfl

theorem moves_gsm48RxRrPagResp : Moves G s (s.gsm48RxRrPagResp env msg) := by
  unfold gsm48RxRrPagResp
  split
  · exact .refl
  split
  · exact .refl
  · exact (moves_nameIfNone s _ _).trans (moves_pagingRequestStop _ _)

theorem moves_gsm48RxRrAppInfo : Moves G s s.gsm48RxRrAppInfo := by
  unfold gsm48RxRrAppInfo
  split
  · exact moves_crash _
  · exact moves_emit rfl

theorem moves_gsm48RxRrCiphMCompl (h : s.secOperation.isSome = true → G s) :
    Moves G s (s.gsm48RxRrCiphMCompl env) := by
  unfold gsm48RxRrCiphMCompl
  split
  · exact .refl
  next op hop =>
    have hG : G s := h (by rw [hop]; rfl)
    exact (moves_after_callback (.single (.opSucceeded hop hG))).trans (moves_proceed moves_releaseSecurityOperation _)

theorem moves_gsm0408RcvRr (type : RrMsg) (h : type = .ciphMCompl → s.secOperation.isSome = true → G s) :
    Moves G s (s.gsm0408RcvRr env msg type) := by
  cases type with
  | pagResp => exact moves_gsm48RxRrPagResp s
  | appInfo => exact moves_gsm48RxRrAppInfo s
  | ciphMCompl => exact moves_gsm48RxRrCiphMCompl s (h rfl)
  | clsmChg | gprsSuspReq | status | measRep | handoCompl | handoFail | unimplemented => exact .refl

theorem moves_routine (subscr : Nat) (proto : TransProto) (transId : Nat) :
    Moves G s (s.routine env subscr proto transId) := by
  unfold routine
  split
  · exact .refl
  split
  · exact moves_crash _
  · exact moves_transEffects _ _

end

theorem moves_makeTrans {subscr : Nat} (proto : TransProto) (transId : Nat) (e : TransEffect)
    (h : s.subscr = some subscr) : Moves G s (s.makeTrans subscr proto transId (e.apply s.net)) := by
  unfold makeTrans
  split
  · exact .refl
  · exact .single (.made e h)

theorem moves_gsm0408RcvCc (s : MscConn) : Moves G s (s.gsm0408RcvCc env msg) := by
  unfold gsm0408RcvCc
  split
  · exact .refl
  split
  · exact moves_crash _
  next subscr hsubscr =>
    have hmake := moves_makeTrans (G := G) .cc (ccTransId msg.protoDiscr)
      (.rcvCc thisConn subscr msg.protoDiscr msg.msgType) hsubscr
    exact hmake.trans (moves_routine _ _ _ _)

theorem moves_gsm0411RcvSms (s : MscConn) : Moves G s (s.gsm0411RcvSms env msg) := by
  unfold gsm0411RcvSms
  split
  · exact .refl
  next subscr hsubscr =>
    have hmake := moves_makeTrans (G := G) .sms (smsTransId msg.protoDiscr)
      (.rcvSms thisConn subscr msg.protoDiscr) hsubscr
    exact hmake.trans (moves_routine _ _ _ _)

theorem moves_handleRcvUssd (s : MscConn) : Moves G s (s.handleRcvUssd msg) := by
  unfold handleRcvUssd
  split
  · exact .refl
  split
  · split
    · exact moves_crash _
    next subscr hsubscr => exact .head (.ownNumber hsubscr) (moves_mscReleaseConnection _)
  · exact (moves_emit rfl).trans (moves_mscReleaseConnection _)

/-! ## Events -/

theorem moves_gsm0408Dispatch (s : MscConn)
    (h : s.silentCallReroute msg = false → msg.kind = .rr .ciphMCompl → s.secOperation.isSome = true → G s) :
    Moves G s (s.gsm0408Dispatch env msg) := by
  unfold gsm0408Dispatch
  split
  · exact .refl
  next hsilent =>
    have hhandled : s.silentCallReroute msg = false := by simpa using hsilent
    split
    · exact (moves_releaseAnchor s).trans (moves_gsm0408RcvCc _)
    · exact moves_gsm0408RcvMm s _
    next type hkind => exact moves_gsm0408RcvRr s type fun htype => h hhandled (htype ▸ hkind)
    · exact (moves_releaseAnchor s).trans (moves_gsm0411RcvSms _)
    · exact (moves_releaseAnchor s).trans (moves_handleRcvUssd _)
    · exact .refl

theorem moves_cancelOperations (s : MscConn) : Moves G s (s.cancelOperations env) := by
  have hloc : Moves G s { s with inRelease := true }.releaseLocUpdatingReq := by
    refine ReflTransGen.trans ?_ (moves_releaseLocUpdatingReq _)
    exact moves_quiet rfl rfl rfl rfl
  simp only [cancelOperations]
  refine hloc.trans ?_
  split
  · exact .refl
  · exact moves_invoke (fun _ => by decide)

theorem moves_gsm0408ClearRequest (s : MscConn) : Moves G s (s.gsm0408ClearRequest env) := by
  refine (moves_cancelOperations s).trans (moves_proceed (fun s => ?_) _)
  refine (moves_releaseSecurityOperation s).trans ((moves_releaseAnchor _).trans ?_)
  exact (moves_transEffects _ _).tail (.quiet rfl rfl rfl rfl)

/-- A CIPHERING MODE COMPLETE that finds an operation. -/
def CompletesOp (s : MscConn) : ConnEvent → Prop
  | .dtap _ msg => s.silentCallReroute msg = false ∧ msg.kind = .rr .ciphMCompl ∧ s.secOperation.isSome = true
  | .updatingTimer _ | .anchorTimer | .silentCallStop | .clearRequest _ | .transEffects _ => False

/-- **Every event is a chain of moves.** -/
theorem moves_handle (s : MscConn) (ev : ConnEvent) (h : s.CompletesOp ev → G s) : Moves G s (s.handle ev) := by
  cases ev with
  | dtap env msg => exact moves_gsm0408Dispatch s fun hsilent hkind hsec => h ⟨hsilent, hkind, hsec⟩
  | updatingTimer env =>
    simp only [handle]
    split
    · exact (moves_emit rfl).trans (moves_releaseLocUpdatingReq _)
    · exact .refl
  | anchorTimer =>
    simp only [handle]
    split
    · exact (moves_releaseAnchor s).trans (moves_mscReleaseConnection _)
    · exact .refl
  | silentCallStop =>
    simp only [handle, gsmSilentCallStop]
    split
    · refine ReflTransGen.trans ?_ (moves_mscReleaseConnection _)
      exact moves_quiet rfl rfl rfl rfl
    · exact .refl
  | clearRequest env => exact moves_gsm0408ClearRequest s
  | transEffects es => exact moves_transEffects s es

/-- **The invariant rule of the connection.** What a new connection has and every move keeps, every run keeps whose
    steps meet `C`, if that gives the condition of the moves. -/
theorem invariant_of_moves {C : MscConn → ConnEvent → Prop} {I : MscConn → Prop}
    (hC : ∀ s ev, C s ev → s.CompletesOp ev → G s)
    (hinit : ∀ s, connSystem.init s → I s) (hmove : ∀ a b, I a → Move G a b → I b) {s : MscConn}
    (h : ReachableBy connSystem C s) : I s := by
  refine h.invariant hinit ?_
  intro s ev s' hI hev hstep
  obtain ⟨-, -, rfl⟩ := of_step hstep
  exact closure_preserves hmove (moves_handle s ev (hC s ev hev)) hI

end MscConn

end OpenBsc.Libmsc
