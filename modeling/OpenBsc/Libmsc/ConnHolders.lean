import OpenBsc.Libmsc.Connection

/-!
# `Libmsc.ConnHolders` — what holds a connection

A connection stays open as long as something holds it: an operation with its timer, a security operation, a silent call
or a transaction. Every exit of a handler leaves a holder or asks for the release, but for four exits of the protocols
that drop the anchor first: they return without either (`held_or_closed`).
-/

namespace OpenBsc.Libmsc

open Transition TransList Pool MscConn

/-! ## Holders -/

/-- The connection has a reason to end. -/
def Holder (s : MscConn) : Prop :=
  s.locOperation.any GsmLocUpdatingOperation.updatingTimer = true ∨ s.secOperation.isSome = true ∨
  s.anchOperation.any GsmAnchorOperation.timeout = true ∨ s.silentCall = true ∨ s.hasTrans = true

instance (s : MscConn) : Decidable (Holder s) := by unfold Holder; infer_instance

/-- The operations have their timers running. -/
structure Running (s : MscConn) : Prop where
  updating : s.locOperation.all GsmLocUpdatingOperation.updatingTimer = true
  anchor : s.anchOperation.all GsmAnchorOperation.timeout = true

/-- Besides, a connection in release is gone. -/
structure Timed (s : MscConn) : Prop extends Running s where
  released : s.inRelease = true → s.freed = true ∨ s.fault.isSome = true

/-- The connection is held, or gone, or so is the program. -/
structure Kept (s : MscConn) : Prop extends Timed s where
  held : s.freed = true ∨ s.fault.isSome = true ∨ Holder s

namespace MscConn

variable {s s' : MscConn} {env : MscEnv} {msg : Gsm48Msg}

theorem any_of_all {α : Type} {o : Option α} {p : α → Bool} (hsome : o.isSome = true) (h : o.all p = true) :
    o.any p = true := by
  cases o with
  | none => cases hsome
  | some a => exact h

/-- **`msc_release_connection` releases nothing that is held.** -/
theorem mscReleaseConnection_of_holder (h : Holder s) : s.mscReleaseConnection = s := by
  unfold mscReleaseConnection
  split
  · rfl
  next hrel =>
    split
    · rfl
    next hop =>
      split
      · rfl
      next htrans =>
        -- none of the holders is left
        exfalso
        obtain ⟨-, hsilent⟩ : s.inRelease = false ∧ s.silentCall = false := by simpa using hrel
        obtain ⟨⟨hloc, hsec⟩, hanch⟩ :
            (s.locOperation = none ∧ s.secOperation = none) ∧ s.anchOperation = none := by simpa using hop
        rcases h with h | h | h | h | h
        · rw [hloc] at h
          cases h
        · rw [hsec] at h
          cases h
        · rw [hanch] at h
          cases h
        · rw [hsilent] at h
          cases h
        · exact htrans h

theorem kept_mscReleaseConnection (h : Timed s) : Kept s.mscReleaseConnection := by
  unfold mscReleaseConnection
  split
  next hrel =>
    refine ⟨h, ?_⟩
    rcases Bool.or_eq_true_iff.mp hrel with hrelease | hsilent
    · exact (h.released hrelease).imp_right .inl
    · exact .inr (.inr (.inr (.inr (.inr (.inl hsilent)))))
  split
  next hop =>
    refine ⟨h, .inr (.inr ?_)⟩
    rcases Bool.or_eq_true_iff.mp hop with hop | hanch
    · rcases Bool.or_eq_true_iff.mp hop with hloc | hsec
      · exact .inl (any_of_all hloc h.updating)
      · exact .inr (.inl hsec)
    · exact .inr (.inr (.inl (any_of_all hanch h.anchor)))
  split
  next htrans => exact ⟨h, .inr (.inr (.inr (.inr (.inr (.inr htrans)))))⟩
  · exact ⟨⟨⟨h.updating, h.anchor⟩, fun _ => .inl rfl⟩, .inl rfl⟩

/-- Nothing changes that holding depends on. -/
theorem kept_congr (h : Kept s) (hrel : s'.inRelease = s.inRelease) (hfreed : s'.freed = s.freed)
    (hfault : s'.fault = s.fault) (hloc : s'.locOperation = s.locOperation) (hsec : s'.secOperation = s.secOperation)
    (hanch : s'.anchOperation = s.anchOperation) (hsilent : s'.silentCall = s.silentCall)
    (htrans : s'.hasTrans = s.hasTrans) : Kept s' := by
  obtain ⟨⟨⟨hupdating, hanchor⟩, hreleased⟩, hheld⟩ := h
  refine ⟨⟨⟨?_, ?_⟩, ?_⟩, ?_⟩
  · rwa [hloc]
  · rwa [hanch]
  · rwa [hrel, hfreed, hfault]
  · unfold Holder at hheld ⊢
    rwa [hfreed, hfault, hloc, hsec, hanch, hsilent, htrans]

theorem kept_emit (h : Kept s) (out : MscOut) : Kept (s.emit out) := kept_congr h rfl rfl rfl rfl rfl rfl rfl rfl

theorem kept_crash (h : Timed s) (use : NullUse) : Kept (s.crash use) :=
  ⟨⟨⟨h.updating, h.anchor⟩, fun _ => .inr rfl⟩, .inr (.inl rfl)⟩

theorem kept_proceed {f : MscConn → MscConn} (hf : ∀ s, Kept s → Kept (f s)) (h : Kept s) : Kept (s.proceed f) := by
  unfold proceed
  split
  · exact h
  · exact hf s h

theorem timed_releaseAnchor (h : Timed s) : Timed s.releaseAnchor := ⟨⟨h.updating, rfl⟩, h.released⟩

theorem kept_releaseSecurityOperation (h : Kept s) : Kept s.releaseSecurityOperation := by
  unfold releaseSecurityOperation
  split
  · exact h
  · exact kept_mscReleaseConnection ⟨⟨h.updating, h.anchor⟩, h.released⟩

theorem kept_releaseLocUpdatingReq (h : Kept s) : Kept s.releaseLocUpdatingReq := by
  unfold releaseLocUpdatingReq
  split
  · exact h
  · exact kept_mscReleaseConnection ⟨⟨rfl, rfl⟩, h.released⟩

/-! ## Transactions -/

theorem hasTrans_iff : s.hasTrans = true ↔ ∃ i t, s.net.transList.get? i = some t ∧ t.conn = some thisConn := by
  unfold hasTrans
  rw [List.any_eq_true]
  constructor
  · rintro ⟨e, he, hconn⟩
    exact ⟨e.1, e.2, get?_eq_some.mpr he, beq_iff_eq.mp hconn⟩
  · rintro ⟨i, t, hget, hconn⟩
    exact ⟨(i, t), get?_eq_some.mp hget, beq_iff_eq.mpr hconn⟩

end MscConn

/-- The transaction is still there, and on its connection. -/
def StillOn (net : TransList Unit) (i c : Nat) : Prop := ∃ t, net.transList.get? i = some t ∧ t.conn = some c

variable {net : TransList Unit} {i c : Nat}

theorem stillOn_alloc (h : StillOn net i c) (new : GsmTrans Unit) {ccRef smsRef : BitVec 32} :
    StillOn ⟨net.transList.alloc new, ccRef, smsRef⟩ i c := by
  obtain ⟨t, hget, hconn⟩ := h
  have hold : i ≠ net.transList.next := Nat.ne_of_lt (get?_lt hget)
  exact ⟨t, by rw [get?_alloc, if_neg hold, hget], hconn⟩

theorem stillOn_modify {j : Nat} (h : StillOn net i c) {f : GsmTrans Unit → GsmTrans Unit}
    (hf : ∀ t, t.conn = some c → (f t).conn = some c) :
    StillOn { net with transList := net.transList.modify j f } i c := by
  obtain ⟨t, hget, hconn⟩ := h
  by_cases hij : i = j
  · subst hij
    exact ⟨f t, get?_modify_self hget, hf t hconn⟩
  · exact ⟨t, by rw [get?_modify_ne hij, hget], hconn⟩

section

variable (h : StillOn net i c)

include h

theorem stillOn_free (j : Nat) :
    StillOn (net.free j) i c ∨ (net.free j).transList.get? i = none := by
  obtain ⟨t, hget, hconn⟩ := h
  unfold free
  rw [get?_remove]
  by_cases hij : i = j
  · exact .inr (if_pos hij)
  · refine .inl ⟨t, ?_, hconn⟩
    rw [get?_remove, if_neg hij, hget]

theorem stillOn_ccTxSetup (j : Nat) :
    StillOn (net.ccTxSetup j) i c ∨ (net.ccTxSetup j).transList.get? i = none := by
  unfold ccTxSetup
  split
  · exact .inl h
  split
  · exact stillOn_free h j
  split
  · exact stillOn_free h j
  · exact .inl (stillOn_modify h fun t ht => ht)

theorem stillOn_rcvCc (conn subscr : Nat) (protoDiscr msgType : Octet) :
    StillOn (net.rcvCc () conn subscr protoDiscr msgType) i c := by
  unfold rcvCc
  split
  · exact h
  split
  · exact h
  · exact stillOn_alloc h _

theorem stillOn_rcvSms (conn subscr : Nat) (protoDiscr : Octet) :
    StillOn (net.rcvSms () conn subscr protoDiscr) i c := by
  unfold rcvSms
  split
  · exact h
  · exact stillOn_alloc h _

theorem stillOn_sendSms (conn subscr : Nat) : StillOn (net.sendSms () conn subscr) i c := by
  unfold sendSms
  split
  · exact h
  · exact stillOn_alloc h _

/-- **No transaction leaves its connection** before it ends. -/
theorem stillOn_apply (e : TransEffect) :
    StillOn (e.apply net) i c ∨ (e.apply net).transList.get? i = none := by
  cases e with
  | free j => exact stillOn_free h j
  | mnccSetupReq subscr conn callref => exact .inl (stillOn_alloc h _)
  | paged j conn =>
    refine .inl (stillOn_modify h fun t ht => ?_)
    rw [if_pos (by rw [ht]; rfl)]
    exact ht
  | ccTxSetup j =>
    simp only [TransEffect.apply]
    split
    · exact stillOn_ccTxSetup h j
    · exact .inl h
  | sendSms conn subscr => exact .inl (stillOn_sendSms h conn subscr)
  | rcvCc conn subscr protoDiscr msgType => exact .inl (stillOn_rcvCc h conn subscr protoDiscr msgType)
  | rcvSms conn subscr protoDiscr => exact .inl (stillOn_rcvSms h conn subscr protoDiscr)

end

namespace MscConn

variable {s s' : MscConn} {env : MscEnv} {msg : Gsm48Msg}

/-- The transactions change, but none that was here is gone. -/
theorem kept_withNet (h : Kept s) (hnet : ∀ i, StillOn s.net i thisConn → StillOn net i thisConn) :
    Kept { s with net := net } := by
  have htrans : s.hasTrans = true → { s with net := net }.hasTrans = true := by
    intro htrans
    obtain ⟨i, t, hget, hconn⟩ := hasTrans_iff.mp htrans
    obtain ⟨t', hget', hconn'⟩ := hnet i ⟨t, hget, hconn⟩
    exact hasTrans_iff.mpr ⟨i, t', hget', hconn'⟩
  refine ⟨⟨⟨h.updating, h.anchor⟩, h.released⟩, h.held.imp_right (Or.imp_right ?_)⟩
  rintro (hloc | hsec | hanch | hsilent | hhas)
  · exact .inl hloc
  · exact .inr (.inl hsec)
  · exact .inr (.inr (.inl hanch))
  · exact .inr (.inr (.inr (.inl hsilent)))
  · exact .inr (.inr (.inr (.inr (htrans hhas))))

theorem kept_transEffect (h : Kept s) (e : TransEffect) : Kept (s.transEffect e) := by
  simp only [transEffect]
  split
  · exact kept_mscReleaseConnection ⟨⟨h.updating, h.anchor⟩, h.released⟩
  next hended =>
    refine kept_withNet h fun i hi => ?_
    rcases stillOn_apply hi e with hstill | hgone
    · exact hstill
    · obtain ⟨t, hget, hconn⟩ := hi
      have hnot := List.any_eq_false.mp (Bool.eq_false_iff.mpr hended) (i, t) (get?_eq_some.mp hget)
      simp [hconn, hgone] at hnot

theorem kept_transEffects (h : Kept s) (es : List TransEffect) : Kept (s.transEffects es) := by
  unfold transEffects
  induction es generalizing s with
  | nil => exact h
  | cons e es ih => exact ih (kept_transEffect h e)

/-! ## Callbacks -/

theorem kept_acceptLocUpd (h : Kept s) : Kept (s.acceptLocUpd env) := by
  unfold acceptLocUpd
  split
  · exact kept_crash h.toTimed _
  · refine kept_transEffects ?_ _
    split
    · exact kept_emit (kept_emit h _) _
    · exact kept_emit h _

theorem kept_authorizeSecCb (h : Kept s) (event : GsmSecurity) : Kept (s.authorizeSecCb env event) := by
  cases event with
  | authFailed => exact kept_releaseLocUpdatingReq h
  | noavail | succeeded => exact kept_acceptLocUpd h

theorem kept_subscrPagingDispatch (h : Kept s) (succeeded : Bool) : Kept (s.subscrPagingDispatch env succeeded) := by
  unfold subscrPagingDispatch
  split
  · exact kept_transEffects (kept_emit h _) _
  · exact h

theorem kept_invoke (h : Kept s) (ofOp : Bool) (cb : SecCallback) (event : GsmSecurity) :
    Kept (s.invoke env ofOp cb event) := by
  unfold invoke
  have hlogged := kept_emit h (.secCallback ofOp cb event)
  cases cb with
  | authorize => exact kept_authorizeSecCb hlogged event
  | servReq =>
    cases event with
    | noavail => exact kept_emit hlogged _
    | authFailed | succeeded => exact hlogged
  | paging =>
    cases event with
    | noavail => exact kept_subscrPagingDispatch hlogged true
    | authFailed => exact kept_subscrPagingDispatch hlogged false
    | succeeded => exact kept_subscrPagingDispatch hlogged true

theorem kept_startOp (h : Timed s) (op : GsmSecurityOperation) : Kept { s with secOperation := some op } :=
  ⟨⟨⟨h.updating, h.anchor⟩, h.released⟩, .inr (.inr (.inr (.inl rfl)))⟩

theorem kept_cipherMode (h : Kept s) (cipher : Octet) (kc : BitVec 64) : Kept (s.gsm0808CipherMode cipher kc) :=
  kept_congr h rfl rfl rfl rfl rfl rfl rfl rfl

theorem kept_gsm48SecureChannel (h : Kept s) (keySeq : Octet) (cb : SecCallback) :
    Kept (s.gsm48SecureChannel env keySeq cb) := by
  unfold gsm48SecureChannel
  split
  · exact kept_invoke h _ _ _
  split
  · exact kept_invoke h _ _ _
  split
  · exact kept_crash h.toTimed _
  split
  · exact kept_invoke h _ _ _
  split
  · exact kept_invoke h _ _ _
  · split
    · exact h
    · exact kept_emit (kept_emit (kept_startOp h.toTimed _) _) _
  · split
    · exact h
    · exact kept_cipherMode (kept_emit (kept_startOp h.toTimed _) _) _ _

theorem kept_gsm0408Authorize (h : Kept s) : Kept (s.gsm0408Authorize env) := by
  unfold gsm0408Authorize
  split
  · split
    · exact kept_crash h.toTimed _
    · exact kept_gsm48SecureChannel h _ _
  · exact h

/-! ## Handlers -/

section

variable (h : Kept s)

include h

theorem kept_name (how : NamedBy) (subscr : Nat) : Kept (s.name how subscr) :=
  kept_congr h rfl rfl rfl rfl rfl rfl rfl rfl

theorem kept_nameIfNone (how : NamedBy) (subscr : Nat) : Kept (s.nameIfNone how subscr) := by
  unfold nameIfNone
  split
  · exact kept_name h _ _
  · exact h

theorem kept_nameByImsi (digits : List Octet) : Kept (s.nameByImsi env digits) := by
  unfold nameByImsi
  split
  · split
    · exact kept_name h _ _
    · exact h
  · exact h

theorem kept_mapLocOperation {f : GsmLocUpdatingOperation → GsmLocUpdatingOperation}
    (hf : ∀ op, (f op).updatingTimer = op.updatingTimer) : Kept (s.mapLocOperation f) := by
  obtain ⟨⟨⟨hupdating, hanchor⟩, hreleased⟩, hheld⟩ := h
  cases hloc : s.locOperation with
  | none =>
    refine kept_congr (s := s) ⟨⟨⟨hupdating, hanchor⟩, hreleased⟩, hheld⟩ rfl rfl rfl ?_ rfl rfl rfl rfl
    simp [mapLocOperation, hloc]
  | some op =>
    rw [hloc] at hupdating
    have hrunning : (f op).updatingTimer = true := (hf op).trans hupdating
    refine ⟨⟨⟨?_, hanchor⟩, hreleased⟩, .inr (.inr (.inl ?_))⟩
    · simpa [mapLocOperation, hloc] using hrunning
    · simpa [mapLocOperation, hloc] using hrunning

theorem kept_takeIdentity (mi : MobileIdentity) : Kept (s.takeIdentity env mi) := by
  cases mi with
  | imsi digits => exact kept_mapLocOperation (kept_nameByImsi h _) fun _ => rfl
  | imei | imeisv => exact kept_mapLocOperation h fun _ => rfl
  | tmsi | other => exact h

theorem kept_mmRxIdResp : Kept (s.mmRxIdResp env msg) := kept_gsm0408Authorize (kept_takeIdentity h msg.mi)

end

theorem kept_startLocUpdating (h : Timed s) : Kept (s.startLocUpdating env msg) :=
  ⟨⟨⟨rfl, h.anchor⟩, h.released⟩, .inr (.inr (.inl rfl))⟩

section

variable (h : Kept s)

include h

theorem kept_mmRxLocUpdReq : Kept (s.mmRxLocUpdReq env msg) := by
  unfold mmRxLocUpdReq
  split
  · exact kept_emit h _
  split
  · exact kept_startLocUpdating h.toTimed
  · exact kept_gsm0408Authorize (kept_name (kept_startLocUpdating h.toTimed) _ _)

theorem kept_gsm48RxMmServReq : Kept (s.gsm48RxMmServReq env msg) := by
  unfold gsm48RxMmServReq
  split
  · exact kept_emit h _
  split
  · exact kept_emit h _
  split
  · split
    · exact kept_emit h _
    · exact kept_gsm48SecureChannel (kept_nameIfNone h _ _) _ _
  all_goals exact kept_emit h _

theorem kept_gsm48RxMmAuthResp : Kept (s.gsm48RxMmAuthResp env msg) := by
  unfold gsm48RxMmAuthResp
  split
  · exact h
  split
  · exact kept_proceed (fun s h => kept_releaseSecurityOperation (kept_emit h _)) (kept_invoke h _ _ _)
  · exact kept_cipherMode (kept_emit h _) _ _

theorem kept_gsm0408RcvMm (type : MmMsg) : Kept (s.gsm0408RcvMm env msg type) := by
  cases type with
  | locUpdRequest => exact kept_mmRxLocUpdReq h
  | idResp => exact kept_mmRxIdResp h
  | cmServReq => exact kept_gsm48RxMmServReq h
  | tmsiReallCompl => exact kept_releaseLocUpdatingReq h
  | authResp => exact kept_gsm48RxMmAuthResp h
  | status | imsiDetachInd | cmReestReq | unknown => exact h

theorem kept_pagingRequestStop (keySeq : Octet) : Kept (s.pagingRequestStop env keySeq) := by
  unfold pagingRequestStop
  split
  · exact h
  · exact kept_gsm48SecureChannel h _ _
  · exact ⟨⟨⟨h.updating, h.anchor⟩, h.released⟩, .inr (.inr (.inr (.inr (.inr (.inl rfl)))))⟩

theorem kept_gsm48RxRrPagResp : Kept (s.gsm48RxRrPagResp env msg) := by
  unfold gsm48RxRrPagResp
  split
  · exact h
  split
  · exact h
  · exact kept_pagingRequestStop (kept_nameIfNone h _ _) _

theorem kept_gsm48RxRrAppInfo : Kept s.gsm48RxRrAppInfo := by
  unfold gsm48RxRrAppInfo
  split
  · exact kept_crash h.toTimed _
  · exact kept_emit h _

theorem kept_gsm48RxRrCiphMCompl : Kept (s.gsm48RxRrCiphMCompl env) := by
  unfold gsm48RxRrCiphMCompl
  split
  · exact h
  · exact kept_proceed (fun s h => kept_releaseSecurityOperation h) (kept_invoke h _ _ _)

theorem kept_gsm0408RcvRr (type : RrMsg) : Kept (s.gsm0408RcvRr env msg type) := by
  cases type with
  | pagResp => exact kept_gsm48RxRrPagResp h
  | appInfo => exact kept_gsm48RxRrAppInfo h
  | ciphMCompl => exact kept_gsm48RxRrCiphMCompl h
  | clsmChg | gprsSuspReq | status | measRep | handoCompl | handoFail | unimplemented => exact h

end

/-! ### The protocols that drop the anchor -/

/-- A holder other than the anchor. -/
def heldBesides (s : MscConn) : Bool :=
  s.locOperation.isSome || s.secOperation.isSome || s.silentCall || s.hasTrans

/-- The transaction of a message is on this connection, or will be made here. -/
def transHere (s : MscConn) (subscr : Nat) (proto : TransProto) (transId : Nat) : Bool :=
  (transFindById s.net.transList subscr proto transId).all fun e => e.2.conn == some thisConn

/-- What holds the connection besides the anchor, holds it without the anchor. -/
theorem kept_releaseAnchor (h : Timed s) (hbesides : s.heldBesides = true) : Kept s.releaseAnchor := by
  refine ⟨timed_releaseAnchor h, .inr (.inr ?_)⟩
  obtain hbesides | htrans := Bool.or_eq_true_iff.mp hbesides
  · obtain hop | hsilent := Bool.or_eq_true_iff.mp hbesides
    · obtain hloc | hsec := Bool.or_eq_true_iff.mp hop
      · exact .inl (any_of_all hloc h.updating)
      · exact .inr (.inl hsec)
    · exact .inr (.inr (.inr (.inl hsilent)))
  · exact .inr (.inr (.inr (.inr htrans)))

theorem kept_of_hasTrans (h : Timed s) (htrans : s.hasTrans = true) : Kept s :=
  ⟨h, .inr (.inr (.inr (.inr (.inr (.inr htrans)))))⟩

theorem kept_routine (h : Kept s) (subscr : Nat) (proto : TransProto) (transId : Nat) :
    Kept (s.routine env subscr proto transId) := by
  unfold routine
  split
  · exact h
  split
  · exact kept_crash h.toTimed _
  · exact kept_transEffects h _

theorem hasTrans_of_found {subscr : Nat} {proto : TransProto} {transId : Nat}
    (hfound : (transFindById s.net.transList subscr proto transId).isSome = true)
    (hhere : s.transHere subscr proto transId = true) : s.hasTrans = true := by
  obtain ⟨⟨i, t⟩, hfind⟩ := Option.isSome_iff_exists.mp hfound
  unfold transHere at hhere
  rw [hfind] at hhere
  obtain ⟨hget, -, -⟩ := find?_eq_some.mp hfind
  exact hasTrans_iff.mpr ⟨i, t, hget, beq_iff_eq.mp hhere⟩

/-- The transaction of the message holds the connection, be it found or made. -/
theorem kept_makeTrans (h : Timed s) {subscr : Nat} {proto : TransProto} {transId : Nat}
    (hhere : s.transHere subscr proto transId = true)
    (hnew : transFindById s.net.transList subscr proto transId = none → { s with net := net }.hasTrans = true) :
    Kept (s.makeTrans subscr proto transId net) := by
  unfold makeTrans
  split
  next hfound => exact kept_of_hasTrans h (hasTrans_of_found hfound hhere)
  next hnone =>
    have hmade := hnew (by simpa using hnone)
    exact kept_emit (kept_of_hasTrans (s := { s with net := net }) ⟨⟨h.updating, h.anchor⟩, h.released⟩ hmade) _

theorem hasTrans_alloc (s : MscConn) (proto : TransProto) (id subscr : Nat) (callref ccRef smsRef : BitVec 32) :
    { s with
      net := ⟨s.net.transList.alloc ⟨proto, id, subscr, some thisConn, callref, false, ()⟩, ccRef, smsRef⟩ }.hasTrans =
        true := by
  refine hasTrans_iff.mpr ⟨s.net.transList.next, ⟨proto, id, subscr, some thisConn, callref, false, ()⟩, ?_, rfl⟩
  rw [get?_alloc, if_pos rfl]

theorem kept_gsm0408RcvCc (h : Timed s) (hdefined : msg.msgType &&& 0xbf &&& 0x80 = 0)
    (hhere : ∀ subscr, s.subscr = some subscr → s.transHere subscr .cc (ccTransId msg.protoDiscr) = true) :
    Kept (s.gsm0408RcvCc env msg) := by
  unfold gsm0408RcvCc
  rw [if_neg (by simpa using hdefined)]
  split
  · exact kept_crash h _
  next subscr hsubscr =>
    refine kept_routine (kept_makeTrans h (hhere subscr hsubscr) fun hnone => ?_) _ _ _
    unfold rcvCc
    rw [if_neg (by simpa using hdefined), hnone]
    exact hasTrans_alloc s _ _ _ _ _ _

theorem kept_gsm0411RcvSms (h : Timed s) {subscr : Nat} (hsubscr : s.subscr = some subscr)
    (hhere : s.transHere subscr .sms (smsTransId msg.protoDiscr) = true) : Kept (s.gsm0411RcvSms env msg) := by
  unfold gsm0411RcvSms
  rw [hsubscr]
  refine kept_routine (kept_makeTrans h hhere fun hnone => ?_) _ _ _
  unfold rcvSms
  rw [hnone]
  exact hasTrans_alloc s _ _ _ _ _ _

/-- Where something else holds the connection, the transaction may be anywhere. -/
theorem kept_makeTrans_of_kept (h : Kept s) (subscr : Nat) (proto : TransProto) (transId : Nat)
    (hnet : ∀ i, StillOn s.net i thisConn → StillOn net i thisConn) : Kept (s.makeTrans subscr proto transId net) := by
  unfold makeTrans
  split
  · exact h
  · exact kept_emit (kept_withNet h hnet) _

theorem kept_gsm0408RcvCc_of_kept (h : Kept s) : Kept (s.gsm0408RcvCc env msg) := by
  unfold gsm0408RcvCc
  split
  · exact h
  split
  · exact kept_crash h.toTimed _
  · exact kept_routine (kept_makeTrans_of_kept h _ _ _ fun i hi => stillOn_rcvCc hi _ _ _ _) _ _ _

theorem kept_gsm0411RcvSms_of_kept (h : Kept s) : Kept (s.gsm0411RcvSms env msg) := by
  unfold gsm0411RcvSms
  split
  · exact h
  · exact kept_routine (kept_makeTrans_of_kept h _ _ _ fun i hi => stillOn_rcvSms hi _ _ _) _ _ _

/-- A supplementary service request is answered and asks for the release, unless it is a Release-Complete. -/
theorem kept_handleRcvUssd (h : Timed s) (htext : msg.text.head? ≠ some 0xff) : Kept (s.handleRcvUssd msg) := by
  unfold handleRcvUssd
  rw [if_neg htext]
  split
  · split
    · exact kept_crash h _
    · exact kept_mscReleaseConnection ⟨⟨h.updating, h.anchor⟩, h.released⟩
  · exact kept_mscReleaseConnection ⟨⟨h.updating, h.anchor⟩, h.released⟩

theorem kept_handleRcvUssd_of_kept (h : Kept s) : Kept (s.handleRcvUssd msg) := by
  by_cases htext : msg.text.head? = some 0xff
  · unfold handleRcvUssd
    rw [if_pos htext]
    exact h
  · exact kept_handleRcvUssd h.toTimed htext

/-- A message leaves a holder without the anchor: its transaction is on this connection, or it asks for the release. -/
def leavesHolder (s : MscConn) (msg : Gsm48Msg) : L3Kind → Bool
  | .cc =>
    msg.msgType &&& 0xbf &&& 0x80 = 0 && s.subscr.all fun subscr => s.transHere subscr .cc (ccTransId msg.protoDiscr)
  | .sms => s.subscr.any fun subscr => s.transHere subscr .sms (smsTransId msg.protoDiscr)
  | .ncSs => msg.text.head? ≠ some 0xff
  | .mm _ | .rr _ | .other => true

/-- The condition on a step: a message for the protocols that drop the anchor leaves a holder, or finds one besides. -/
def KeepsHolder (s : MscConn) : ConnEvent → Prop
  | .dtap _ msg => s.silentCallReroute msg = false → s.heldBesides = true ∨ s.leavesHolder msg msg.kind = true
  | .updatingTimer _ | .anchorTimer | .silentCallStop | .clearRequest _ | .transEffects _ => True

/-- **A message.** -/
theorem kept_gsm0408Dispatch (h : Kept s)
    (hleaves : s.silentCallReroute msg = false → s.heldBesides = true ∨ s.leavesHolder msg msg.kind = true) :
    Kept (s.gsm0408Dispatch env msg) := by
  unfold gsm0408Dispatch
  split
  · exact h
  next hsilent =>
    have hleft := hleaves (by simpa using hsilent)
    have htimed := timed_releaseAnchor h.toTimed
    split
    next hkind =>
      rcases hleft with hbesides | hleft
      · exact kept_gsm0408RcvCc_of_kept (kept_releaseAnchor h.toTimed hbesides)
      · rw [hkind] at hleft
        obtain ⟨hdefined, hhere⟩ := Bool.and_eq_true_iff.mp hleft
        refine kept_gsm0408RcvCc htimed (by simpa using hdefined) fun subscr hsubscr => ?_
        have hsome : s.subscr = some subscr := hsubscr
        rw [hsome] at hhere
        exact hhere
    · exact kept_gsm0408RcvMm h _
    · exact kept_gsm0408RcvRr h _
    next hkind =>
      rcases hleft with hbesides | hleft
      · exact kept_gsm0411RcvSms_of_kept (kept_releaseAnchor h.toTimed hbesides)
      · rw [hkind] at hleft
        obtain ⟨subscr, hsubscr, hhere⟩ := (Option.any_eq_true _ _).mp hleft
        exact kept_gsm0411RcvSms htimed hsubscr hhere
    next hkind =>
      rcases hleft with hbesides | hleft
      · exact kept_handleRcvUssd_of_kept (kept_releaseAnchor h.toTimed hbesides)
      · rw [hkind] at hleft
        exact kept_handleRcvUssd htimed (by simpa [leavesHolder] using hleft)
    · exact h

/-! ### The loss of the channel -/

section

variable (h : Running s)

include h

theorem running_mscReleaseConnection : Running s.mscReleaseConnection := by
  unfold mscReleaseConnection
  split
  · exact h
  split
  · exact h
  split
  · exact h
  · exact ⟨h.updating, h.anchor⟩

theorem running_transEffects (es : List TransEffect) : Running (s.transEffects es) := by
  unfold transEffects
  induction es generalizing s with
  | nil => exact h
  | cons e es ih =>
    refine ih ?_
    simp only [transEffect]
    split
    · exact running_mscReleaseConnection ⟨h.updating, h.anchor⟩
    · exact ⟨h.updating, h.anchor⟩

theorem running_endTransactions : Running s.endTransactions := running_transEffects h _

theorem running_releaseLocUpdatingReq : Running s.releaseLocUpdatingReq := by
  unfold releaseLocUpdatingReq
  split
  · exact h
  · exact running_mscReleaseConnection ⟨rfl, rfl⟩

theorem running_releaseSecurityOperation : Running s.releaseSecurityOperation := by
  unfold releaseSecurityOperation
  split
  · exact h
  · exact running_mscReleaseConnection ⟨h.updating, h.anchor⟩

theorem running_invoke_failed (cb : SecCallback) : Running (s.invoke env true cb .authFailed) := by
  have hlogged : Running (s.emit (.secCallback true cb .authFailed)) := ⟨h.updating, h.anchor⟩
  cases cb with
  | authorize => exact running_releaseLocUpdatingReq hlogged
  | servReq => exact hlogged
  | paging =>
    simp only [invoke, pagingSecCb, subscrPagingDispatch]
    split
    · refine running_transEffects ?_ _
      exact ⟨h.updating, h.anchor⟩
    · exact hlogged

end

/-- After the loss of the channel the connection is gone, or the program. -/
theorem kept_gsm0408ClearRequest (h : Timed s) : Kept (s.gsm0408ClearRequest env) := by
  have hloc : Running { s with inRelease := true }.releaseLocUpdatingReq :=
    running_releaseLocUpdatingReq ⟨h.updating, h.anchor⟩
  have hcancelled : Running (s.cancelOperations env) := by
    simp only [cancelOperations]
    split
    · exact hloc
    · exact running_invoke_failed hloc _
  unfold gsm0408ClearRequest proceed
  split
  next hfault => exact ⟨⟨hcancelled, fun _ => .inr hfault⟩, .inr (.inl hfault)⟩
  · have hreleased := running_releaseSecurityOperation hcancelled
    have hanchor : Running (s.cancelOperations env).releaseSecurityOperation.releaseAnchor := ⟨hreleased.updating, rfl⟩
    have hend := running_endTransactions hanchor
    exact ⟨⟨⟨hend.updating, hend.anchor⟩, fun _ => .inl rfl⟩, .inl rfl⟩

/-- **One event.** -/
theorem kept_handle (h : Kept s) (ev : ConnEvent) (hkeeps : s.KeepsHolder ev) : Kept (s.handle ev) := by
  cases ev with
  | dtap env msg => exact kept_gsm0408Dispatch h hkeeps
  | updatingTimer env =>
    simp only [handle]
    split
    · exact kept_releaseLocUpdatingReq (kept_emit h _)
    · exact h
  | anchorTimer =>
    simp only [handle]
    split
    · exact kept_mscReleaseConnection (timed_releaseAnchor h.toTimed)
    · exact h
  | silentCallStop =>
    simp only [handle, gsmSilentCallStop]
    split
    · exact kept_mscReleaseConnection ⟨⟨h.updating, h.anchor⟩, h.released⟩
    · exact h
  | clearRequest env => exact kept_gsm0408ClearRequest h.toTimed
  | transEffects es => exact kept_transEffects h es

end MscConn

theorem kept_newConn : Kept (newConn net) :=
  ⟨⟨⟨rfl, rfl⟩, fun h => by cases h⟩, .inr (.inr (.inr (.inr (.inl rfl))))⟩

/-- **No connection is orphaned.** As long as every message for the protocols that drop the anchor leaves a holder, an
    open connection is held; and what is held is not released. -/
theorem held_or_closed (s : MscConn) (h : ReachableBy connSystem MscConn.KeepsHolder s) :
    (s.freed = false → s.fault = none → Holder s) ∧ ∀ t : MscConn, Holder t → t.mscReleaseConnection = t := by
  refine ⟨fun hfreed hfault => ?_, fun t ht => mscReleaseConnection_of_holder ht⟩
  have hkept : Kept s := by
    refine h.invariant ?_ ?_
    · rintro s ⟨net, rfl, -, -⟩
      exact kept_newConn
    · intro s ev s' hs hev hstep
      obtain ⟨-, -, rfl⟩ := of_step hstep
      exact kept_handle hs ev hev
  rcases hkept.held with hgone | hcrashed | hheld
  · rw [hfreed] at hgone
    cases hgone
  · rw [hfault] at hcrashed
    cases hcrashed
  · exact hheld

instance (s : MscConn) : (ev : ConnEvent) → Decidable (s.KeepsHolder ev)
  | .dtap _ msg =>
    inferInstanceAs (Decidable
      (s.silentCallReroute msg = false → s.heldBesides = true ∨ s.leavesHolder msg msg.kind = true))
  | .updatingTimer _ | .anchorTimer | .silentCallStop | .clearRequest _ | .transEffects _ =>
    inferInstanceAs (Decidable True)

/-- A CM SERVICE REQUEST of subscriber 7, without security. -/
def plainServReq : ConnEvent :=
  .dtap { subscrByTmsi := fun _ => some 7 }
    { protoDiscr := 0x05, msgType := 0x24, mi := .tmsi 1, dataLen := 20, miLen := 5 }

/-- An empty SETUP. -/
def setupMsg : ConnEvent := .dtap {} { protoDiscr := 0x03, msgType := 0x05 }

/-- A call: its transaction holds the connection. -/
theorem held_or_closed_call :
    ∃ s, guardedRun step MscConn.KeepsHolder (newConn {}) [plainServReq, setupMsg] = some s ∧
      s.freed = false ∧ s.fault = none ∧ s.anchOperation = none ∧ Holder s := by
  obtain ⟨s, hs, hfreed, hfault, hanchor⟩ :
      ∃ s ∈ guardedRun step MscConn.KeepsHolder (newConn {}) [plainServReq, setupMsg],
        s.freed = false ∧ s.fault = none ∧ s.anchOperation = none := by decide +kernel
  have hinit : connSystem.init (newConn {}) := ⟨{}, rfl, rfl, fun i t h => by cases h⟩
  have hreach := ReachableBy.guardedRun (M := connSystem) (fun _ _ _ h => h) (.init hinit) hs
  exact ⟨s, hs, hfreed, hfault, hanchor, (held_or_closed s hreach).1 hfreed hfault⟩

/-- A call control message of no defined type drops the anchor and leaves nothing. -/
theorem orphaned_by_undefined :
    ¬ ∀ s, Reachable connSystem s → s.freed = false → s.fault = none → Holder s := by
  intro hall
  obtain ⟨s, hs, hfreed, hfault, hnone⟩ :
      ∃ s ∈ guardedRun step (fun _ _ => True) (newConn {}) [.dtap {} { protoDiscr := 0x03, msgType := 0x80 }],
        s.freed = false ∧ s.fault = none ∧ ¬ Holder s := by decide +kernel
  have hinit : connSystem.init (newConn {}) := ⟨{}, rfl, rfl, fun i t h => by cases h⟩
  have hreach := ReachableBy.guardedRun (M := connSystem) (fun _ _ _ h => h) (.init hinit) hs
  exact hnone (hall s hreach hfreed hfault)

end OpenBsc.Libmsc
