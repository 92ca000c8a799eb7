import OpenBsc.Libmsc.ConnMoves

/-!
# `Libmsc.ConnOrder` — messages in any order

The handlers of a connection use its subscriber, its location updating operation and the connection of a transaction,
which other handlers have put there. Most of them look first, or can rely on the order: an operation is only started for
a subscriber, and a transaction that has an identifier has a connection. Four messages rely on the phone
(`no_null_use`).
-/

namespace OpenBsc.Libmsc

open Transition TransList MscConn Pool Option
open MscConn

/-! ## Standing facts -/

/-- An operation was started for a subscriber, and the identifiers are placed. -/
structure Standing (s : MscConn) : Prop where
  opNamed : s.secOperation.isSome = true → s.subscr.isSome = true
  placed : PlacedIds s.net

variable {net : TransList Unit}

section

variable (h : PlacedIds net)

include h

theorem placedIds_alloc {new : GsmTrans Unit}
    (hnew : new.transactionId ≠ unassignedId → new.conn.isSome = true) {ccRef smsRef : BitVec 32} :
    PlacedIds ⟨net.transList.alloc new, ccRef, smsRef⟩ := by
  intro i t hget hid
  rw [get?_alloc] at hget
  split at hget
  · cases hget
    exact hnew hid
  · exact h i t hget hid

theorem placedIds_modify {j : Nat} {f : GsmTrans Unit → GsmTrans Unit}
    (hf : ∀ t, net.transList.get? j = some t → (t.transactionId ≠ unassignedId → t.conn.isSome = true) →
      (f t).transactionId ≠ unassignedId → (f t).conn.isSome = true) :
    PlacedIds { net with transList := net.transList.modify j f } := by
  intro i t hget hid
  by_cases hij : i = j
  · subst hij
    cases hold : net.transList.get? i with
    | none =>
      rw [modify_of_get?_none hold] at hget
      exact h i t hget hid
    | some old =>
      rw [get?_modify_self hold] at hget
      cases hget
      exact hf old hold (h i old hold) hid
  · rw [get?_modify_ne hij] at hget
    exact h i t hget hid

theorem placedIds_free (j : Nat) : PlacedIds (net.free j) := by
  intro i t hget hid
  unfold free at hget
  rw [get?_remove] at hget
  split at hget
  · cases hget
  · exact h i t hget hid

theorem placedIds_ccTxSetup (j : Nat)
    (hconn : ((net.transList.get? j).bind GsmTrans.conn).isSome = true) : PlacedIds (net.ccTxSetup j) := by
  unfold ccTxSetup
  split
  · exact h
  split
  · exact placedIds_free h j
  split
  · exact placedIds_free h j
  · refine placedIds_modify h fun t hget _ _ => ?_
    rw [hget] at hconn
    exact hconn

theorem placedIds_apply (e : TransEffect) : PlacedIds (e.apply net) := by
  cases e with
  | free j => exact placedIds_free h j
  | mnccSetupReq subscr conn callref => exact placedIds_alloc h fun hid => absurd rfl hid
  | paged j conn =>
    refine placedIds_modify h fun t _ hold hid => ?_
    split at hid
    next hsome => rwa [if_pos hsome]
    next hnone =>
      rw [if_neg hnone]
      rfl
  | ccTxSetup j =>
    simp only [TransEffect.apply]
    split
    next hconn => exact placedIds_ccTxSetup h j hconn
    · exact h
  | sendSms conn subscr =>
    simp only [TransEffect.apply, sendSms]
    split
    · exact h
    · exact placedIds_alloc h fun _ => rfl
  | rcvCc conn subscr protoDiscr msgType =>
    simp only [TransEffect.apply, rcvCc]
    split
    · exact h
    split
    · exact h
    · exact placedIds_alloc h fun _ => rfl
  | rcvSms conn subscr protoDiscr =>
    simp only [TransEffect.apply, rcvSms]
    split
    · exact h
    · exact placedIds_alloc h fun _ => rfl

end

variable {s s' : MscConn} {env : MscEnv} {msg : Gsm48Msg}

theorem Standing.move (h : Standing s) (hmove : Move (fun _ => True) s s') : Standing s' := by
  cases hmove with
  | quiet _ hsec hsubscr hnet =>
    refine ⟨?_, ?_⟩
    · rw [hsec, hsubscr]
      exact h.opNamed
    · rw [hnet]
      exact h.placed
  | plain => exact ⟨h.opNamed, h.placed⟩
  | dropSec => exact ⟨(by simp), h.placed⟩
  | effect e => exact ⟨h.opNamed, placedIds_apply h.placed e⟩
  | named => exact ⟨fun _ => rfl, h.placed⟩
  | made e => exact ⟨h.opNamed, placedIds_apply h.placed e⟩
  | ownNumber | callback | opSucceeded | cmServAck | locUpdAcc | paged => exact ⟨h.opNamed, h.placed⟩
  | startAuth _ hsubscr => exact ⟨fun _ => hsubscr, h.placed⟩
  | startCiph _ _ _ hsubscr => exact ⟨fun _ => hsubscr, h.placed⟩
  | matched => exact ⟨h.opNamed, h.placed⟩

theorem standing_reachable (h : Reachable connSystem s) : Standing s := by
  refine invariant_of_moves (G := fun _ => True) (fun _ _ _ _ => trivial) ?_ (fun _ _ hI hmove => hI.move hmove) h
  rintro s ⟨net, rfl, -, hplaced⟩
  exact ⟨(by simp [newConn]), hplaced⟩

/-! ## Faults -/

namespace MscConn

@[simp] theorem fault_emit (s : MscConn) (out : MscOut) : (s.emit out).fault = s.fault := rfl

@[simp] theorem fault_releaseAnchor (s : MscConn) : s.releaseAnchor.fault = s.fault := rfl

@[simp] theorem fault_name (s : MscConn) (how : NamedBy) (subscr : Nat) : (s.name how subscr).fault = s.fault := rfl

@[simp] theorem fault_startLocUpdating (s : MscConn) : (s.startLocUpdating env msg).fault = s.fault := rfl

@[simp] theorem fault_mscReleaseConnection (s : MscConn) : s.mscReleaseConnection.fault = s.fault := by
  unfold mscReleaseConnection
  split
  · rfl
  split
  · rfl
  split
  · rfl
  · rfl

@[simp] theorem fault_releaseSecurityOperation (s : MscConn) : s.releaseSecurityOperation.fault = s.fault := by
  unfold releaseSecurityOperation
  split
  · rfl
  · exact fault_mscReleaseConnection _

@[simp] theorem fault_releaseLocUpdatingReq (s : MscConn) : s.releaseLocUpdatingReq.fault = s.fault := by
  unfold releaseLocUpdatingReq
  split
  · rfl
  · exact fault_mscReleaseConnection _

@[simp] theorem fault_transEffects (s : MscConn) (es : List TransEffect) : (s.transEffects es).fault = s.fault := by
  unfold transEffects
  induction es generalizing s with
  | nil => rfl
  | cons e es ih =>
    rw [List.foldl_cons, ih]
    simp only [transEffect]
    split
    · exact fault_mscReleaseConnection _
    · rfl

theorem fault_proceed {f : MscConn → MscConn} (hf : ∀ s, (f s).fault = s.fault) (s : MscConn) :
    (s.proceed f).fault = s.fault := by
  unfold proceed
  split
  · rfl
  · exact hf s

/-- The callback of a location update that goes on uses the subscriber. -/
theorem fault_authorizeSecCb (h : s.subscr.isSome = true) (event : GsmSecurity) :
    (s.authorizeSecCb env event).fault = s.fault := by
  have haccept : (s.acceptLocUpd env).fault = s.fault := by
    obtain ⟨subscr, hsubscr⟩ := isSome_iff_exists.mp h
    simp only [acceptLocUpd, hsubscr, fault_transEffects]
    split
    · rfl
    · rfl
  cases event with
  | authFailed => exact fault_releaseLocUpdatingReq s
  | noavail | succeeded => exact haccept

theorem fault_subscrPagingDispatch (s : MscConn) (succeeded : Bool) :
    (s.subscrPagingDispatch env succeeded).fault = s.fault := by
  unfold subscrPagingDispatch
  split
  · rw [fault_transEffects, fault_emit]
  · rfl

theorem fault_invoke (h : s.subscr.isSome = true) (ofOp : Bool) (cb : SecCallback) (event : GsmSecurity) :
    (s.invoke env ofOp cb event).fault = s.fault := by
  have hlogged : (s.emit (.secCallback ofOp cb event)).subscr.isSome = true := h
  unfold invoke
  cases cb with
  | authorize => exact fault_authorizeSecCb hlogged event
  | servReq =>
    cases event with
    | noavail | authFailed | succeeded => rfl
  | paging =>
    cases event with
    | noavail => exact fault_subscrPagingDispatch _ true
    | authFailed => exact fault_subscrPagingDispatch _ false
    | succeeded => exact fault_subscrPagingDispatch _ true

theorem fault_gsm48SecureChannel (h : s.subscr.isSome = true) (keySeq : Octet) (cb : SecCallback) :
    (s.gsm48SecureChannel env keySeq cb).fault = s.fault := by
  obtain ⟨subscr, hsubscr⟩ := isSome_iff_exists.mp h
  unfold gsm48SecureChannel
  split
  · exact fault_invoke h _ _ _
  split
  · exact fault_invoke h _ _ _
  rw [hsubscr]
  show (if (!env.cm2A5nSupport subscr) = true then _ else _ : MscConn).fault = _
  split
  · exact fault_invoke h _ _ _
  split
  · exact fault_invoke h _ _ _
  · split
    · rfl
    · rfl
  · split
    · rfl
    · rfl

theorem subscr_of_authorized {loc : Option GsmLocUpdatingOperation} {subscr : Option Nat}
    (h : authorizeSubscriber env loc subscr = true) : subscr.isSome = true := by
  cases subscr with
  | none => cases h
  | some subscr => rfl

theorem fault_gsm0408Authorize
    (h : s.locOperation.isSome = true ∨ authorizeSubscriber env s.locOperation s.subscr = false) :
    (s.gsm0408Authorize env).fault = s.fault := by
  unfold gsm0408Authorize
  split
  next hauthorized =>
    split
    next hnone =>
      rcases h with hsome | hrefused
      · rw [hnone] at hsome
        cases hsome
      · rw [hrefused] at hauthorized
        cases hauthorized
    · exact fault_gsm48SecureChannel (subscr_of_authorized hauthorized) _ _
  · rfl

/-- Who the connection belongs to after an identity response. -/
def idRespSubscr (env : MscEnv) (s : MscConn) : MobileIdentity → Option Nat
  | .imsi digits => s.subscr.or ((env.subscrByImsi digits).or (env.createSubscriber digits))
  | .tmsi _ | .imei | .imeisv | .other => s.subscr

theorem nameByImsi_spec (env : MscEnv) (s : MscConn) (digits : List Octet) :
    (s.nameByImsi env digits).fault = s.fault ∧ (s.nameByImsi env digits).locOperation = s.locOperation ∧
    (s.nameByImsi env digits).subscr = s.subscr.or ((env.subscrByImsi digits).or (env.createSubscriber digits)) := by
  unfold nameByImsi
  cases hsubscr : s.subscr with
  | none =>
    rw [none_or, isNone_none, if_pos rfl]
    split
    next subscr hfound => exact ⟨rfl, rfl, hfound.symm⟩
    next hmissing => exact ⟨rfl, rfl, hsubscr.trans hmissing.symm⟩
  | some subscr =>
    rw [isNone_some, if_neg (by decide)]
    exact ⟨rfl, rfl, hsubscr⟩

theorem takeIdentity_spec (env : MscEnv) (s : MscConn) (mi : MobileIdentity) :
    (s.takeIdentity env mi).fault = s.fault ∧
    (s.takeIdentity env mi).locOperation.isSome = s.locOperation.isSome ∧
    (s.takeIdentity env mi).subscr = idRespSubscr env s mi := by
  cases mi with
  | imsi digits =>
    obtain ⟨hfault, hloc, hsubscr⟩ := nameByImsi_spec env s digits
    refine ⟨hfault, ?_, hsubscr⟩
    show ((s.nameByImsi env digits).locOperation.map _).isSome = _
    rw [isSome_map, hloc]
  | imei | imeisv => exact ⟨rfl, isSome_map, rfl⟩
  | tmsi | other => exact ⟨rfl, rfl, rfl⟩

theorem fault_mmRxIdResp
    (h : s.locOperation.isSome = true ∨ authorizeSubscriber env none (idRespSubscr env s msg.mi) = false) :
    (s.mmRxIdResp env msg).fault = s.fault := by
  obtain ⟨hfault, hloc, hsubscr⟩ := takeIdentity_spec env s msg.mi
  unfold mmRxIdResp
  rw [fault_gsm0408Authorize, hfault]
  rw [← hloc] at h
  rcases h with hsome | hrefused
  · exact .inl hsome
  · by_cases hnone : (s.takeIdentity env msg.mi).locOperation.isSome = true
    · exact .inl hnone
    · refine .inr ?_
      rw [hsubscr, not_isSome_iff_eq_none.mp hnone]
      exact hrefused

theorem fault_mmRxLocUpdReq (s : MscConn) : (s.mmRxLocUpdReq env msg).fault = s.fault := by
  unfold mmRxLocUpdReq
  split
  · rfl
  split
  · rfl
  · rw [fault_gsm0408Authorize (.inl rfl), fault_name, fault_startLocUpdating]

theorem nameIfNone_spec (s : MscConn) (how : NamedBy) (subscr : Nat) :
    (s.nameIfNone how subscr).fault = s.fault ∧ (s.nameIfNone how subscr).subscr.isSome = true := by
  unfold nameIfNone
  split
  · exact ⟨rfl, rfl⟩
  next hsome => exact ⟨rfl, by simpa [isSome_iff_ne_none] using hsome⟩

theorem fault_gsm48RxMmServReq (s : MscConn) : (s.gsm48RxMmServReq env msg).fault = s.fault := by
  unfold gsm48RxMmServReq
  split
  · rfl
  split
  · rfl
  split
  · split
    · rfl
    next subscr _ =>
      obtain ⟨hfault, hsubscr⟩ := nameIfNone_spec s .servReq subscr
      rw [fault_gsm48SecureChannel hsubscr, hfault]
  all_goals rfl

theorem fault_gsm48RxMmAuthResp (h : Standing s) : (s.gsm48RxMmAuthResp env msg).fault = s.fault := by
  unfold gsm48RxMmAuthResp
  split
  · rfl
  next op hop =>
    have hsubscr : s.subscr.isSome = true := h.opNamed (by rw [hop]; rfl)
    split
    · rw [fault_proceed, fault_invoke hsubscr]
      intro s
      rw [fault_releaseSecurityOperation, fault_emit]
    · rfl

theorem fault_gsm48RxRrPagResp (s : MscConn) : (s.gsm48RxRrPagResp env msg).fault = s.fault := by
  unfold gsm48RxRrPagResp
  split
  · rfl
  next subscr _ =>
    split
    · rfl
    · obtain ⟨hfault, hsubscr⟩ := nameIfNone_spec s .pagResp subscr
      unfold pagingRequestStop
      split
      · exact hfault
      · rw [fault_gsm48SecureChannel hsubscr, hfault]
      · exact hfault

theorem fault_gsm48RxRrCiphMCompl (h : Standing s) : (s.gsm48RxRrCiphMCompl env).fault = s.fault := by
  unfold gsm48RxRrCiphMCompl
  split
  · rfl
  next op hop =>
    have hsubscr : s.subscr.isSome = true := h.opNamed (by rw [hop]; rfl)
    rw [fault_proceed fault_releaseSecurityOperation, fault_invoke hsubscr]

/-- The transaction that is found has a connection. -/
theorem fault_routine (h : PlacedIds s.net) {subscr : Nat} {proto : TransProto} {transId : Nat} (hid : transId < 16) :
    (s.routine env subscr proto transId).fault = s.fault := by
  unfold routine
  split
  · rfl
  next i t hfind =>
    obtain ⟨hget, hof, -⟩ := find?_eq_some.mp hfind
    obtain ⟨-, htrans⟩ := Bool.and_eq_true_iff.mp hof
    have hassigned : t.transactionId ≠ unassignedId := by
      rw [beq_iff_eq.mp htrans]
      unfold unassignedId
      omega
    have hconn := h i t hget hassigned
    rw [if_neg (by simpa [isSome_iff_ne_none] using hconn), fault_transEffects]

theorem makeTrans_spec (s : MscConn) (subscr : Nat) (proto : TransProto) (transId : Nat) {e : TransEffect}
    (h : PlacedIds s.net) :
    (s.makeTrans subscr proto transId (e.apply s.net)).fault = s.fault ∧
    PlacedIds (s.makeTrans subscr proto transId (e.apply s.net)).net := by
  unfold makeTrans
  split
  · exact ⟨rfl, h⟩
  · exact ⟨rfl, placedIds_apply h e⟩

theorem fault_gsm0408RcvCc (h : PlacedIds s.net)
    (hsubscr : msg.msgType &&& 0xbf &&& 0x80 = 0 → s.subscr.isSome = true) :
    (s.gsm0408RcvCc env msg).fault = s.fault := by
  unfold gsm0408RcvCc
  split
  · rfl
  next hdefined =>
    split
    next hnone =>
      have hsome := hsubscr (by simpa using hdefined)
      rw [hnone] at hsome
      cases hsome
    next subscr _ =>
      obtain ⟨hfault, hplaced⟩ := makeTrans_spec s subscr .cc (ccTransId msg.protoDiscr)
        (e := .rcvCc thisConn subscr msg.protoDiscr msg.msgType) h
      exact (fault_routine hplaced (ccTransId_lt _)).trans hfault

theorem fault_gsm0411RcvSms (h : PlacedIds s.net) : (s.gsm0411RcvSms env msg).fault = s.fault := by
  unfold gsm0411RcvSms
  split
  · rfl
  next subscr _ =>
    obtain ⟨hfault, hplaced⟩ := makeTrans_spec s subscr .sms (smsTransId msg.protoDiscr)
      (e := .rcvSms thisConn subscr msg.protoDiscr) h
    exact (fault_routine hplaced (smsTransId_lt _)).trans hfault

theorem fault_handleRcvUssd
    (h : msg.text.head? ≠ some 0xff → asksOwnNumber msg.text = true → s.subscr.isSome = true) :
    (s.handleRcvUssd msg).fault = s.fault := by
  unfold handleRcvUssd
  split
  · rfl
  next htext =>
    split
    next hown =>
      split
      next hnone =>
        have hsome := h htext hown
        rw [hnone] at hsome
        cases hsome
      · exact fault_mscReleaseConnection _
    · exact fault_mscReleaseConnection _

/-! ## Runs -/

/-- The message finds what its handler uses: a call control message, a request for the own number and an application
    information have a subscriber; an identity response has a location updating operation, or names nobody who is let
    in. -/
def finds (env : MscEnv) (s : MscConn) (msg : Gsm48Msg) : L3Kind → Prop
  | .cc => msg.msgType &&& 0xbf &&& 0x80 = 0 → s.subscr.isSome = true
  | .ncSs => msg.text.head? ≠ some 0xff → asksOwnNumber msg.text = true → s.subscr.isSome = true
  | .rr .appInfo => s.subscr.isSome = true
  | .mm .idResp => s.locOperation.isSome = true ∨ authorizeSubscriber env none (idRespSubscr env s msg.mi) = false
  | _ => True

/-- The condition on a step. -/
def InOrder (s : MscConn) : ConnEvent → Prop
  | .dtap env msg => s.silentCallReroute msg = false → s.finds env msg msg.kind
  | .updatingTimer _ | .anchorTimer | .silentCallStop | .clearRequest _ | .transEffects _ => True

theorem fault_gsm0408RcvMm (h : Standing s) (type : MmMsg) (hfinds : s.finds env msg (.mm type)) :
    (s.gsm0408RcvMm env msg type).fault = s.fault := by
  cases type with
  | locUpdRequest => exact fault_mmRxLocUpdReq s
  | idResp => exact fault_mmRxIdResp hfinds
  | cmServReq => exact fault_gsm48RxMmServReq s
  | tmsiReallCompl => exact fault_releaseLocUpdatingReq s
  | authResp => exact fault_gsm48RxMmAuthResp h
  | status | imsiDetachInd | cmReestReq | unknown => rfl

theorem fault_gsm0408RcvRr (h : Standing s) (type : RrMsg) (hfinds : s.finds env msg (.rr type)) :
    (s.gsm0408RcvRr env msg type).fault = s.fault := by
  cases type with
  | pagResp => exact fault_gsm48RxRrPagResp s
  | appInfo =>
    obtain ⟨subscr, hsubscr⟩ := isSome_iff_exists.mp hfinds
    simp only [gsm0408RcvRr, gsm48RxRrAppInfo, hsubscr, fault_emit]
  | ciphMCompl => exact fault_gsm48RxRrCiphMCompl h
  | clsmChg | gprsSuspReq | status | measRep | handoCompl | handoFail | unimplemented => rfl

theorem fault_gsm0408Dispatch (h : Standing s)
    (hfinds : s.silentCallReroute msg = false → s.finds env msg msg.kind) :
    (s.gsm0408Dispatch env msg).fault = s.fault := by
  unfold gsm0408Dispatch
  split
  · rfl
  next hsilent =>
    have hfound := hfinds (by simpa using hsilent)
    split
    next hkind =>
      rw [hkind] at hfound
      exact fault_gsm0408RcvCc (s := s.releaseAnchor) h.placed hfound
    next type hkind =>
      rw [hkind] at hfound
      exact fault_gsm0408RcvMm h type hfound
    next type hkind =>
      rw [hkind] at hfound
      exact fault_gsm0408RcvRr h type hfound
    · exact fault_gsm0411RcvSms (s := s.releaseAnchor) h.placed
    next hkind =>
      rw [hkind] at hfound
      exact fault_handleRcvUssd (s := s.releaseAnchor) hfound
    · rfl

theorem releaseLocUpdatingReq_keeps (s : MscConn) :
    s.releaseLocUpdatingReq.secOperation = s.secOperation ∧ s.releaseLocUpdatingReq.subscr = s.subscr := by
  unfold releaseLocUpdatingReq mscReleaseConnection
  split
  · exact ⟨rfl, rfl⟩
  split
  · exact ⟨rfl, rfl⟩
  split
  · exact ⟨rfl, rfl⟩
  split
  · exact ⟨rfl, rfl⟩
  · exact ⟨rfl, rfl⟩

theorem fault_gsm0408ClearRequest (h : Standing s) : (s.gsm0408ClearRequest env).fault = s.fault := by
  have hcancel : (s.cancelOperations env).fault = s.fault := by
    obtain ⟨hsec, hsubscr⟩ := releaseLocUpdatingReq_keeps { s with inRelease := true }
    simp only [cancelOperations]
    split
    · exact fault_releaseLocUpdatingReq _
    next op hop =>
      have hop' : s.secOperation = some op := hsec.symm.trans hop
      have hsome : s.subscr.isSome = true := h.opNamed (by rw [hop']; rfl)
      rw [fault_invoke (by rw [hsubscr]; exact hsome)]
      exact fault_releaseLocUpdatingReq _
  unfold gsm0408ClearRequest
  rw [fault_proceed, hcancel]
  intro s
  show s.releaseSecurityOperation.releaseAnchor.endTransactions.fault = s.fault
  rw [endTransactions, fault_transEffects, fault_releaseAnchor, fault_releaseSecurityOperation]

/-- **One event.** -/
theorem fault_handle (h : Standing s) (ev : ConnEvent) (horder : s.InOrder ev) : (s.handle ev).fault = s.fault := by
  cases ev with
  | dtap env msg => exact fault_gsm0408Dispatch h horder
  | updatingTimer env =>
    simp only [handle]
    split
    · rw [locUpdRejCb, fault_releaseLocUpdatingReq, fault_emit]
    · rfl
  | anchorTimer =>
    simp only [handle]
    split
    · rw [anchorTimeout, fault_mscReleaseConnection, fault_releaseAnchor]
    · rfl
  | silentCallStop =>
    simp only [handle, gsmSilentCallStop]
    split
    · exact fault_mscReleaseConnection _
    · rfl
  | clearRequest env => exact fault_gsm0408ClearRequest h
  | transEffects es => exact fault_transEffects s es

end MscConn

/-- **Any order of messages.** As long as four messages find what their handlers rely on, no handler uses anything that
    does not exist. -/
theorem no_null_use (s : MscConn) (h : ReachableBy connSystem MscConn.InOrder s) : s.fault = none := by
  refine h.invariant_of (I := fun s => s.fault = none) (J := Standing) ?_ ?_ ?_
  · intro s hs
    exact standing_reachable hs.reachable
  · rintro s ⟨net, rfl, -, -⟩
    rfl
  · intro s ev s' hstanding hnone hev hstep
    obtain ⟨-, -, rfl⟩ := of_step hstep
    rw [fault_handle hstanding ev hev, hnone]

instance (env : MscEnv) (s : MscConn) (msg : Gsm48Msg) : (kind : L3Kind) → Decidable (s.finds env msg kind)
  | .cc => inferInstanceAs (Decidable (msg.msgType &&& 0xbf &&& 0x80 = 0 → s.subscr.isSome = true))
  | .ncSs =>
    inferInstanceAs (Decidable
      (msg.text.head? ≠ some 0xff → MscConn.asksOwnNumber msg.text = true → s.subscr.isSome = true))
  | .rr .appInfo => inferInstanceAs (Decidable (s.subscr.isSome = true))
  | .mm .idResp =>
    inferInstanceAs (Decidable
      (s.locOperation.isSome = true ∨ authorizeSubscriber env none (MscConn.idRespSubscr env s msg.mi) = false))
  | .sms | .other | .mm .locUpdRequest | .mm .cmServReq | .mm .status | .mm .tmsiReallCompl | .mm .imsiDetachInd
  | .mm .cmReestReq | .mm .authResp | .mm .unknown | .rr .clsmChg | .rr .gprsSuspReq | .rr .pagResp | .rr .status
  | .rr .measRep | .rr .ciphMCompl | .rr .handoCompl | .rr .handoFail | .rr .unimplemented =>
    inferInstanceAs (Decidable True)

instance (s : MscConn) : (ev : ConnEvent) → Decidable (s.InOrder ev)
  | .dtap env msg => inferInstanceAs (Decidable (s.silentCallReroute msg = false → s.finds env msg msg.kind))
  | .updatingTimer _ | .anchorTimer | .silentCallStop | .clearRequest _ | .transEffects _ =>
    inferInstanceAs (Decidable True)

/-- A network that knows one subscriber, number 7, and uses no ciphering. -/
def openEnv : MscEnv where
  subscrByTmsi := fun _ => some 7
  subscrByImsi := fun _ => some 7

/-- A location update with its identity response, and then a call. -/
theorem no_null_use_locUpd :
    ∃ s, guardedRun step MscConn.InOrder (newConn {})
        [.dtap openEnv { protoDiscr := 0x05, msgType := 0x08, mi := .tmsi 1 },
          .dtap openEnv { protoDiscr := 0x05, msgType := 0x19, mi := .imei },
          .dtap openEnv { protoDiscr := 0x03, msgType := 0x05 }] = some s ∧
      .locUpdAcc 7 ∈ s.log ∧ .transMade .cc 7 ∈ s.log ∧ s.fault = none := by
  obtain ⟨s, hs, hacc, hmade⟩ :
      ∃ s ∈ guardedRun step MscConn.InOrder (newConn {})
          [.dtap openEnv { protoDiscr := 0x05, msgType := 0x08, mi := .tmsi 1 },
            .dtap openEnv { protoDiscr := 0x05, msgType := 0x19, mi := .imei },
            .dtap openEnv { protoDiscr := 0x03, msgType := 0x05 }],
        .locUpdAcc 7 ∈ s.log ∧ .transMade .cc 7 ∈ s.log := by decide +kernel
  have hinit : connSystem.init (newConn {}) := ⟨{}, rfl, rfl, fun i t h => by cases h⟩
  have hreach := ReachableBy.guardedRun (M := connSystem) (fun _ _ _ h => h) (.init hinit) hs
  exact ⟨s, hs, hacc, hmade, no_null_use s hreach⟩

/-- An IDENTITY RESPONSE nobody asked for: there is no location updating operation. -/
theorem null_use_idResp : ¬ ∀ s, Reachable connSystem s → s.fault = none := by
  intro hall
  obtain ⟨s, hs, hfault⟩ :
      ∃ s ∈ guardedRun step (fun _ _ => True) (newConn {})
          [.dtap openEnv { protoDiscr := 0x05, msgType := 0x19, mi := .imsi [1] }],
        s.fault = some .locOperation := by decide +kernel
  have hinit : connSystem.init (newConn {}) := ⟨{}, rfl, rfl, fun i t h => by cases h⟩
  have hreach := ReachableBy.guardedRun (M := connSystem) (fun _ _ _ h => h) (.init hinit) hs
  rw [hall s hreach] at hfault
  cases hfault

end OpenBsc.Libmsc
