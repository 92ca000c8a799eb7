import OpenBsc.Libmsc.CallControl

/-!
# `Libmsc.CcSteps` — what the handlers of call control can do

The routines of the two tables come down to a few kinds of effects on their transaction (`RoutEffect`). Every invariant
of call control is proved along these, and none looks into a routine again.
-/

namespace OpenBsc.Libmsc

open Transition CcNet Pool Option

/-! ## Routines -/

/-- The timer that runs while the network waits for the phone. -/
def timerOf : CcState → Option CcTimer
  | .callPresent => some .t303
  | .moTermCallConf => some .t310
  | .callReceived => some .t301
  | .connectInd => some .t313
  | .disconnectInd => some .t306
  | .releaseReq => some .t308
  | .moTermModify => some .t323
  | _ => none

/-- The timer of the state is running. -/
def CcBody.Guarded (b : CcBody) : Prop := ∀ timer, timerOf b.state = some timer → b.timer = some timer

/-- The messages to the application after which it hears no more of a call. -/
def finalInds : List MnccInd := [.relInd, .relCnf, .rejInd]

/-- A message of a transaction that ends nothing. -/
inductive QuietOut (i : Nat) (t : CcTrans) : CcOut → Prop where
  | dtap {type : CcTx} {cause : Option MnccCause} (h : type ≠ .release ∧ type ≠ .disconnect) :
      QuietOut i t (.dtap t.conn i t.transactionId type cause)
  | mncc {ind : MnccInd} {cause : Option MnccCause} (h : ind ∉ finalInds) :
      QuietOut i t (.mncc (some i) ind { callref := t.callref, cause := cause })
  | assignReq : QuietOut i t (.assignReq t.conn)

/-- **What a routine does**, on a request of the application or on a message of the phone (`none`). It sends a message,
    and leaves the transaction as it is or moves it on to a state that is guarded; or it begins or ends the call. -/
inductive RoutEffect (req : Option MnccReq) (s : CcNet) (i : Nat) (t : CcTrans) : CcNet → Prop where
  | keep {out : CcOut} (hout : QuietOut i t out) : RoutEffect req s i t (s.emit out)
  | move {f : CcBody → CcBody} {out : CcOut} (hold : t.body.state ≠ .releaseReq)
      (hnew : (f t.body).state ≠ .null ∧ (f t.body).state ≠ .releaseReq) (hguarded : (f t.body).Guarded)
      (htimer : (f t.body).timer = some .t308 → t.body.timer = some .t308) (hout : QuietOut i t out) :
      RoutEffect req s i t ((s.modifyTrans i fun t => { t with body := f t.body }).emit out)
  | setup {data : GsmMncc} (hreq : req = some .setupReq) (h : t.body.state = .null) :
      RoutEffect req s i t (gsm48CcTxSetup s i t data)
  | disconnect {data : GsmMncc} (hreq : req = some .discReq) (h : t.body.state ≠ .null ∧ t.body.state ≠ .releaseReq) :
      RoutEffect req s i t (gsm48CcTxDisconnect s i t data)
  | release {data : GsmMncc} (hreq : req = some .relReq) (h : t.body.state ≠ .null ∧ t.body.state ≠ .releaseReq) :
      RoutEffect req s i t (gsm48CcTxRelease s i t data)
  | releaseCompl {data : GsmMncc} (hreq : req = some .rejReq) (h : t.body.state = .initiated) :
      RoutEffect req s i t (gsm48CcTxReleaseCompl s i t data)
  | rxRelease {cause : Option MnccCause} (hreq : req = none) (h : t.body.state ≠ .null) :
      RoutEffect req s i t (gsm48CcRxRelease s i t cause)
  | rxReleaseCompl {cause : Option MnccCause} (hreq : req = none) :
      RoutEffect req s i t (gsm48CcRxReleaseCompl s i t cause)

variable {s s' : CcNet} {i : Nat} {t : CcTrans} {req : Option MnccReq}

theorem CcNet.modifyTrans_body (s : CcNet) (i : Nat) (f : CcBody → CcBody) (hf : ∀ b, f b = b) :
    s.modifyTrans i (fun t => { t with body := f t.body }) = s := by
  unfold modifyTrans
  simp only [hf]
  rw [modify_id]

theorem ccTx_keep {rout : TxRout} {type : CcTx} {change : GsmMncc → CcBody → CcBody}
    {cause : GsmMncc → Option MnccCause} {data : GsmMncc} (hrout : rout = ccTx type change cause)
    (htype : type ≠ .release ∧ type ≠ .disconnect) (hchange : ∀ b, change data b = b) :
    RoutEffect req s i t (rout s i t data) := by
  subst hrout
  unfold ccTx
  rw [modifyTrans_body s i (change data) hchange]
  exact .keep (.dtap htype)

theorem ccTx_move {rout : TxRout} {type : CcTx} {change : GsmMncc → CcBody → CcBody}
    {cause : GsmMncc → Option MnccCause} {data : GsmMncc} (hrout : rout = ccTx type change cause)
    (htype : type ≠ .release ∧ type ≠ .disconnect) (hold : t.body.state ≠ .releaseReq)
    (hnew : (change data t.body).state ≠ .null ∧ (change data t.body).state ≠ .releaseReq)
    (hguarded : (change data t.body).Guarded)
    (htimer : (change data t.body).timer = some .t308 → t.body.timer = some .t308) :
    RoutEffect req s i t (rout s i t data) := by
  subst hrout
  exact .move hold hnew hguarded htimer (.dtap htype)

theorem ccRx_keep {rout : RxRout} {ind : MnccInd} {change : CcBody → CcBody} {withCause : Bool}
    {cause : Option MnccCause} (hrout : rout = ccRx ind change withCause) (hind : ind ∉ finalInds)
    (hchange : ∀ b, change b = b) : RoutEffect req s i t (rout s i t cause) := by
  subst hrout
  unfold ccRx
  rw [modifyTrans_body s i change hchange]
  exact .keep (.mncc hind)

theorem ccRx_move {rout : RxRout} {ind : MnccInd} {change : CcBody → CcBody} {withCause : Bool}
    {cause : Option MnccCause} (hrout : rout = ccRx ind change withCause) (hind : ind ∉ finalInds)
    (hold : t.body.state ≠ .releaseReq)
    (hnew : (change t.body).state ≠ .null ∧ (change t.body).state ≠ .releaseReq)
    (hguarded : (change t.body).Guarded)
    (htimer : (change t.body).timer = some .t308 → t.body.timer = some .t308) :
    RoutEffect req s i t (rout s i t cause) := by
  subst hrout
  exact .move hold hnew hguarded htimer (.mncc hind)

theorem state_ne {states : List CcState} {st : CcState} (h : states.contains t.body.state = true)
    (hst : states.contains st = false) : t.body.state ≠ st := by
  intro heq
  rw [heq, hst] at h
  cases h

theorem guarded_of_none {b : CcBody} (h : timerOf b.state = none) : b.Guarded := by
  intro timer htimer
  rw [h] at htimer
  cases htimer

theorem guarded_to {b : CcBody} {state : CcState} {timer : CcTimer} (h : timerOf state = some timer) :
    (b.to state (some timer)).Guarded := by
  intro timer' htimer'
  rw [← htimer']
  exact h.symm

/-- **The routines of the downlink table.** -/
theorem txRow_effect {type : MnccReq} {row : Downstate} (h : txRow t type = some row) (data : GsmMncc) :
    RoutEffect (some type) s i t (row.rout s i t data) := by
  have hmem := List.mem_of_find?_eq_some h
  obtain ⟨htype, hstates⟩ : row.type = type ∧ row.states.contains t.body.state = true := by
    have hrow := List.find?_some h
    rwa [Bool.and_eq_true, beq_iff_eq] at hrow
  subst htype
  simp only [downstatelist, List.mem_cons, List.not_mem_nil, or_false] at hmem
  obtain rfl | rfl | rfl | rfl | rfl | rfl | rfl | rfl | rfl | rfl | rfl | rfl | rfl | rfl | rfl | rfl | rfl | rfl |
    rfl | rfl | rfl | rfl | rfl := hmem
  all_goals dsimp only
  -- mobile originating call establishment
  · exact ccTx_move rfl (by decide) (state_ne hstates rfl) ⟨nofun, nofun⟩ (guarded_of_none rfl) id
  · exact ccTx_move rfl (by decide) (state_ne hstates rfl) ⟨nofun, nofun⟩ (guarded_of_none rfl) id
  · exact ccTx_move rfl (by decide) (state_ne hstates rfl) ⟨nofun, nofun⟩ (guarded_to rfl) nofun
  · exact ccTx_keep rfl (by decide) fun _ => rfl
  -- mobile terminating call establishment
  · exact .setup rfl (by simpa using hstates)
  · exact ccTx_move rfl (by decide) (state_ne hstates rfl) ⟨nofun, nofun⟩ (guarded_of_none rfl) id
  -- signalling during call
  · exact ccTx_keep rfl (by decide) fun _ => rfl
  · exact ccTx_keep rfl (by decide) fun _ => rfl
  · exact ccTx_keep rfl (by decide) fun _ => rfl
  · exact ccTx_keep rfl (by decide) fun _ => rfl
  · exact ccTx_keep rfl (by decide) fun _ => rfl
  · exact ccTx_keep rfl (by decide) fun _ => rfl
  · exact ccTx_keep rfl (by decide) fun _ => rfl
  · exact ccTx_keep rfl (by decide) fun _ => rfl
  · exact ccTx_keep rfl (by decide) fun _ => rfl
  · exact ccTx_move rfl (by decide) (state_ne hstates rfl) ⟨nofun, nofun⟩ (guarded_to rfl) nofun
  · exact ccTx_move rfl (by decide) (state_ne hstates rfl) ⟨nofun, nofun⟩ (guarded_of_none rfl) id
  · exact ccTx_move rfl (by decide) (state_ne hstates rfl) ⟨nofun, nofun⟩ (guarded_of_none rfl) id
  · exact ccTx_keep rfl (by decide) fun _ => rfl
  -- clearing
  · exact .releaseCompl rfl (by simpa using hstates)
  · exact .disconnect rfl ⟨state_ne hstates rfl, state_ne hstates rfl⟩
  · exact .release rfl ⟨state_ne hstates rfl, state_ne hstates rfl⟩
  -- special
  · exact .keep .assignReq

/-- **The routines of the uplink table.** -/
theorem rxRow_effect {type : CcMsg} {row : Datastate} (h : rxRow t type = some row) (cause : Option MnccCause) :
    RoutEffect none s i t (row.rout s i t cause) := by
  have hmem := List.mem_of_find?_eq_some h
  have hstates : row.states.contains t.body.state = true := by
    have hrow := List.find?_some h
    rw [Bool.and_eq_true] at hrow
    exact hrow.2
  simp only [datastatelist, List.mem_cons, List.not_mem_nil, or_false] at hmem
  obtain rfl | rfl | rfl | rfl | rfl | rfl | rfl | rfl | rfl | rfl | rfl | rfl | rfl | rfl | rfl | rfl | rfl | rfl |
    rfl | rfl := hmem
  all_goals dsimp only
  -- mobile originating call establishment
  · exact ccRx_move rfl (by decide) (state_ne hstates rfl) ⟨nofun, nofun⟩ (guarded_of_none rfl) id
  · exact ccRx_move rfl (by decide) (state_ne hstates rfl) ⟨nofun, nofun⟩ (guarded_of_none rfl) id
  · exact ccRx_move rfl (by decide) (state_ne hstates rfl) ⟨nofun, nofun⟩ (guarded_of_none rfl) nofun
  -- mobile terminating call establishment
  · exact ccRx_move rfl (by decide) (state_ne hstates rfl) ⟨nofun, nofun⟩ (guarded_to rfl) nofun
  · exact ccRx_move rfl (by decide) (state_ne hstates rfl) ⟨nofun, nofun⟩ (guarded_to rfl) nofun
  · exact ccRx_move rfl (by decide) (state_ne hstates rfl) ⟨nofun, nofun⟩ (guarded_of_none rfl) nofun
  -- signalling during call
  · exact ccRx_keep rfl (by decide) fun _ => rfl
  · exact ccRx_keep rfl (by decide) fun _ => rfl
  · exact ccRx_keep rfl (by decide) fun _ => rfl
  · exact ccRx_keep rfl (by decide) fun _ => rfl
  · exact .keep (.dtap (by decide))
  · exact ccRx_keep rfl (by decide) fun _ => rfl
  · exact ccRx_keep rfl (by decide) fun _ => rfl
  · exact ccRx_move rfl (by decide) (state_ne hstates rfl) ⟨nofun, nofun⟩ (guarded_of_none rfl) id
  · exact ccRx_move rfl (by decide) (state_ne hstates rfl) ⟨nofun, nofun⟩ (guarded_of_none rfl) nofun
  · exact ccRx_move rfl (by decide) (state_ne hstates rfl) ⟨nofun, nofun⟩ (guarded_of_none rfl) nofun
  · exact ccRx_keep rfl (by decide) fun _ => rfl
  -- clearing
  · exact ccRx_move rfl (by decide) (state_ne hstates rfl) ⟨nofun, nofun⟩ (guarded_of_none rfl) nofun
  · exact .rxRelease rfl (state_ne hstates rfl)
  · exact .rxReleaseCompl rfl

/-! ## The end of a transaction -/

variable {f : CcTrans → CcTrans}

namespace CcNet

section

variable (hget : s.transList.get? i = some t)

include hget

theorem withTrans_some (f : CcTrans → CcNet) : s.withTrans i f = f t := by
  unfold withTrans
  rw [hget]

theorem get?_modifyTrans (f : CcTrans → CcTrans) :
    (s.modifyTrans i f).transList.get? i = some (f t) := get?_modify_self hget

/-- A change of a transaction that is removed makes no difference. -/
theorem transFreeEnd_modifyTrans (hf : (f t).conn = t.conn) :
    (s.modifyTrans i f).transFreeEnd i = s.transFreeEnd i := by
  unfold transFreeEnd
  rw [withTrans_some hget, withTrans_some (get?_modifyTrans hget f), hf]
  unfold modifyTrans
  rw [remove_modify]

/-- The application is not told of the end of a transaction without a reference. -/
theorem transFree_of_callref_zero (hcallref : t.callref = 0) :
    s.transFree i = s.transFreeEnd i := by
  unfold transFree
  rw [withTrans_some hget]
  simp only [hcallref, ne_eq, not_true_eq_false, if_false]
  exact transFreeEnd_modifyTrans hget rfl

theorem clearAndFree_eq (hf : (f t).conn = t.conn) :
    s.clearAndFree i f = s.transFreeEnd i := by
  unfold clearAndFree
  rw [withTrans_some hget, transFree_of_callref_zero (get?_modifyTrans hget _) rfl]
  exact transFreeEnd_modifyTrans hget hf

end

end CcNet

/-! ## Events -/

/-- **What an event does.** -/
inductive CcDone (s : CcNet) : CcEvent → CcNet → Prop where
  | ignored {ev : CcEvent} (h : ∀ data lookup, ev ≠ .mncc .setupReq data lookup) : CcDone s ev s
  | message {conn subscr i : Nat} {protoDiscr : Octet} {type : CcMsg} {cause : Option MnccCause} {t : CcTrans}
      (hstack : s.stack = []) (hget : s.transList.get? i = some t) (hid : t.transactionId = ccTransId protoDiscr) :
      CcDone s (.rcvCc conn subscr protoDiscr type cause) (s.routData i type cause)
  | opened {conn subscr : Nat} {protoDiscr : Octet} {type : CcMsg} {cause : Option MnccCause} (hstack : s.stack = [])
      (htype : type ≠ .undefined) (hfind : transFindById s.transList subscr .cc (ccTransId protoDiscr) = none) :
      CcDone s (.rcvCc conn subscr protoDiscr type cause)
        (CcNet.routData { s with
          transList := s.transList.alloc ⟨.cc, ccTransId protoDiscr, subscr, some conn, s.newCallref, false, {}⟩
          newCallref := s.newCallref + 1 } s.transList.next type cause)
  | timeoutRelease {i : Nat} {t : CcTrans} {timer : CcTimer} {l4 mo : MnccCause} (hstack : s.stack = [])
      (hget : s.transList.get? i = some t) (htimer : t.body.timer = some timer) (hne : timer ≠ .t308) :
      CcDone s (.timeout i) ((s.modifyTrans i CcNet.stopCcTimer).timeoutRelease i t l4 mo)
  | timeoutDisconnect {i : Nat} {t : CcTrans} {timer : CcTimer} {l4 : MnccCause} (hstack : s.stack = [])
      (hget : s.transList.get? i = some t) (htimer : t.body.timer = some timer) (hne : timer ≠ .t308) :
      CcDone s (.timeout i) ((s.modifyTrans i CcNet.stopCcTimer).timeoutDisconnect i t l4)
  | firstT308 {i : Nat} {t : CcTrans} (hstack : s.stack = []) (hget : s.transList.get? i = some t)
      (htimer : t.body.timer = some .t308) :
      CcDone s (.timeout i)
        ((gsm48CcTxRelease (s.modifyTrans i CcNet.stopCcTimer) i t t.body.msg).modifyTrans i fun t =>
        { t with body := { t.body with t308Second := true } })
  | secondT308 {i : Nat} {t : CcTrans} (hstack : s.stack = []) (hget : s.transList.get? i = some t)
      (htimer : t.body.timer = some .t308) :
      CcDone s (.timeout i) ((s.modifyTrans i CcNet.stopCcTimer).transFree i)
  | refused {type : MnccReq} {data : GsmMncc} {lookup : SetupLookup} {value : CcCause}
      (hnone : ∀ i t, s.transList.get? i = some t → t.callref ≠ data.callref) :
      CcDone s (.mncc type data lookup) (s.refuse data.callref value)
  | setup {data : GsmMncc} {lookup : SetupLookup} {subscr : Nat}
      (hnone : ∀ i t, s.transList.get? i = some t → t.callref ≠ data.callref) :
      CcDone s (.mncc .setupReq data lookup) (s.mnccSetup subscr lookup.conn data)
  | unbound {type : MnccReq} {data : GsmMncc} {lookup : SetupLookup} {i : Nat} {t : CcTrans} {ind : MnccInd}
      {cause : Option MnccCause} (hget : s.transList.get? i = some t) (hcallref : t.callref = data.callref)
      (hind : ind ∈ finalInds) :
      CcDone s (.mncc type data lookup)
        (s.upcall i ind { callref := data.callref, cause := cause } (.clearCallref i))
  | request {type : MnccReq} {data : GsmMncc} {lookup : SetupLookup} {i : Nat} {t : CcTrans}
      (hget : s.transList.get? i = some t) (hcallref : t.callref = data.callref)
      (hfind : transFindByCallref s.transList data.callref = some (i, t)) (hconn : t.conn.isSome = true) :
      CcDone s (.mncc type data lookup) (s.routDown i type data)
  | returned {cont : Cont} {stack : List Cont} (hstack : s.stack = cont :: stack) :
      CcDone s .ret ({ s with stack := stack }.resume cont)
  | paged {i conn : Nat} {t : CcTrans} (hget : s.transList.get? i = some t) (hconn : t.conn = none) :
      CcDone s (.paging i (some conn))
        (gsm48CcTxSetup (s.modifyTrans i fun t => { t with pagingRequest := false, conn := some conn }) i
          { t with pagingRequest := false, conn := some conn } t.body.msg)
  | expired {i : Nat} {t : CcTrans} (hget : s.transList.get? i = some t) :
      CcDone s (.paging i none)
        (s.upcall i .relInd { callref := t.callref, cause := some ⟨.prnSLu, .destOoo⟩ } (.pagingExpired i))
  | cleared {i : Nat} {t : CcTrans} (hstack : s.stack = []) (hget : s.transList.get? i = some t) :
      CcDone s (.clear i) (s.transFree i)
  | clearedAll {i : Nat} {t : CcTrans} (hstack : s.stack = []) (hget : s.transList.get? i = some t) :
      CcDone s (.clearAll i) (s.clearAndFree i id)

namespace CcNet

theorem rcvCc_done (hstack : s.stack = []) (conn subscr : Nat) (protoDiscr : Octet) (type : CcMsg)
    (cause : Option MnccCause) :
    CcDone s (.rcvCc conn subscr protoDiscr type cause) (s.gsm0408RcvCc conn subscr protoDiscr type cause) := by
  unfold gsm0408RcvCc
  split
  · exact .ignored nofun
  next htype =>
    cases hfind : transFindById s.transList subscr .cc (ccTransId protoDiscr) with
    | none => exact .opened hstack htype hfind
    | some found =>
      obtain ⟨hget, hid, -⟩ := find?_eq_some.mp hfind
      rw [Bool.and_eq_true, beq_iff_eq] at hid
      exact .message hstack hget hid.2

theorem timeout_done (hstack : s.stack = []) (hget : s.transList.get? i = some t) :
    CcDone s (.timeout i) (s.gsm48CcTimeout i) ∨ t.body.timer = none := by
  unfold gsm48CcTimeout
  rw [withTrans_some hget]
  cases htimer : t.body.timer with
  | none => exact .inr rfl
  | some timer =>
    refine .inl ?_
    cases timer with
    | t301 => exact .timeoutDisconnect hstack hget htimer (by decide)
    | t303 | t306 => exact .timeoutRelease hstack hget htimer (by decide)
    | t310 | t313 | t323 => exact .timeoutDisconnect hstack hget htimer (by decide)
    | t308 =>
      simp only
      split
      · exact .secondT308 hstack hget htimer
      · exact .firstT308 hstack hget htimer

theorem mncc_done (type : MnccReq) (data : GsmMncc) (lookup : SetupLookup) :
    CcDone s (.mncc type data lookup) (s.mnccTxToCc type data lookup) := by
  unfold mnccTxToCc
  split
  next hspecial =>
    refine .ignored ?_
    rintro _ _ ⟨⟩
    revert hspecial
    decide
  cases hfind : transFindByCallref s.transList data.callref with
  | none =>
    have hnone : ∀ i t, s.transList.get? i = some t → t.callref ≠ data.callref := by
      intro i t ht
      simpa using find?_eq_none.mp hfind i t ht
    simp only
    split
    · exact .refused hnone
    next htype =>
      rw [not_not] at htype
      subst htype
      split
      · exact .refused hnone
      cases lookup.subscr with
      | none => exact .refused hnone
      | some subscr =>
        simp only
        split
        · exact .refused hnone
        · exact .setup hnone
  | some found =>
    obtain ⟨i, t⟩ := found
    obtain ⟨hget, hfound, -⟩ := find?_eq_some.mp hfind
    have hcallref : t.callref = data.callref := beq_iff_eq.mp hfound
    cases hconn : t.conn with
    | none =>
      simp only [hconn]
      refine .unbound hget hcallref ?_
      split <;> decide
    | some conn =>
      simp only [hconn]
      exact .request hget hcallref hfind (by rw [hconn]; rfl)

theorem paging_done (i : Nat) (conn : Option Nat) : CcDone s (.paging i conn) (s.setupTrigPagEvt i conn) := by
  unfold setupTrigPagEvt
  cases hget : s.transList.get? i with
  | none => exact .ignored nofun
  | some t =>
    simp only
    split
    · exact .ignored nofun
    next hpaging =>
      cases conn with
      | none => exact .expired hget
      | some conn => exact .paged hget (by simpa using (not_or.mp (mt Bool.or_eq_true_iff.mpr hpaging)).2)

theorem step_done {ev : CcEvent} (h : s.step ev = some s') : CcDone s ev s' := by
  cases ev with
  | rcvCc conn subscr protoDiscr type cause =>
    obtain ⟨hstack, hs'⟩ := ite_none_right_eq_some.mp h
    cases hs'
    exact rcvCc_done hstack _ _ _ _ _
  | timeout i =>
    obtain ⟨⟨hstack, htimer⟩, hs'⟩ := ite_none_right_eq_some.mp h
    cases hs'
    obtain ⟨t, hget, hsome⟩ := (any_eq_true _ _).mp htimer
    refine (timeout_done hstack hget).resolve_right fun hnone => ?_
    rw [hnone] at hsome
    cases hsome
  | mncc type data lookup =>
    cases h
    exact mncc_done type data lookup
  | ret =>
    cases hstack : s.stack with
    | nil => simp [step, hstack] at h
    | cons cont stack =>
      simp only [step, hstack, some.injEq] at h
      subst h
      exact .returned hstack
  | paging i conn =>
    cases h
    exact paging_done i conn
  | clear i =>
    obtain ⟨⟨hstack, hconn⟩, hs'⟩ := ite_none_right_eq_some.mp h
    cases hs'
    obtain ⟨t, hget, -⟩ := (any_eq_true _ _).mp hconn
    exact .cleared hstack hget
  | clearAll i =>
    obtain ⟨⟨hstack, hsome⟩, hs'⟩ := ite_none_right_eq_some.mp h
    cases hs'
    obtain ⟨t, hget⟩ := isSome_iff_exists.mp hsome
    exact .clearedAll hstack hget

end CcNet

/-! ## Connections -/

/-- A transaction without a connection has not begun. -/
def GsmTrans.Bound (t : CcTrans) : Prop :=
  t.conn = none → t.body.state = .null ∧ t.body.timer = none ∧ t.transactionId = unassignedId

/-- The transaction a handler is at work on. -/
def Cont.trans : Cont → Nat
  | .transFree i | .clearCallref i | .rxRelease i | .pagingExpired i | .timeoutRelease i _ | .timeoutDisconnect i _ => i

/-- The handler is that of an expired timer. -/
def Cont.isTimeout : Cont → Bool
  | .timeoutRelease _ _ | .timeoutDisconnect _ _ => true
  | _ => false

/-- **What is known of every transaction and handler.** A timer is handled before any other handler is at work, and only
    for a transaction with a connection. -/
structure ConnInv (s : CcNet) : Prop where
  bound : ∀ i t, s.transList.get? i = some t → t.Bound
  below : ∀ cont ∈ s.stack, cont.trans < s.transList.next
  bottom : ∀ cont ∈ s.stack.dropLast, cont.isTimeout = false
  timed : ∀ cont ∈ s.stack, cont.isTimeout = true → ∀ t, s.transList.get? cont.trans = some t → t.conn.isSome = true

namespace ConnInv

open CcNet (get?_modifyTrans)

theorem emit (h : ConnInv s) (out : CcOut) : ConnInv (s.emit out) := ⟨h.bound, h.below, h.bottom, h.timed⟩

theorem fault (h : ConnInv s) : ConnInv { s with fault := true } := ⟨h.bound, h.below, h.bottom, h.timed⟩

theorem modify (h : ConnInv s) (i : Nat)
    (hf : ∀ t, s.transList.get? i = some t → (f t).Bound ∧ (t.conn.isSome = true → (f t).conn.isSome = true)) :
    ConnInv (s.modifyTrans i f) where
  bound := by
    intro j t' hj
    change (s.transList.modify i f).get? j = some t' at hj
    rw [get?_modify] at hj
    split at hj
    · rename_i hji
      subst hji
      obtain ⟨t, ht, rfl⟩ := map_eq_some_iff.mp hj
      exact (hf t ht).1
    · exact h.bound j t' hj
  below := h.below
  bottom := h.bottom
  timed := by
    intro cont hcont htimeout t' hj
    change (s.transList.modify i f).get? cont.trans = some t' at hj
    rw [get?_modify] at hj
    split at hj
    · rename_i hji
      obtain ⟨t, ht, rfl⟩ := map_eq_some_iff.mp hj
      exact (hf t (hji ▸ ht)).2 (h.timed cont hcont htimeout t ht)
    · exact h.timed cont hcont htimeout t' hj

theorem remove (h : ConnInv s) (i : Nat) : ConnInv { s with transList := s.transList.remove i } where
  bound := by
    intro j t hj
    change (s.transList.remove i).get? j = some t at hj
    rw [get?_remove] at hj
    split at hj
    · cases hj
    · exact h.bound j t hj
  below := h.below
  bottom := h.bottom
  timed := by
    intro cont hcont htimeout t hj
    change (s.transList.remove i).get? cont.trans = some t at hj
    rw [get?_remove] at hj
    split at hj
    · cases hj
    · exact h.timed cont hcont htimeout t hj

theorem alloc (h : ConnInv s) {t : CcTrans} (ht : t.Bound) (newCallref : BitVec 32) :
    ConnInv { s with transList := s.transList.alloc t, newCallref := newCallref } where
  bound := by
    intro j t' hj
    change (s.transList.alloc t).get? j = some t' at hj
    rw [get?_alloc] at hj
    split at hj
    · cases hj
      exact ht
    · exact h.bound j t' hj
  below cont hcont := Nat.lt_succ_of_lt (h.below cont hcont)
  bottom := h.bottom
  timed := by
    intro cont hcont htimeout t' hj
    change (s.transList.alloc t).get? cont.trans = some t' at hj
    rw [get?_alloc, if_neg (Nat.ne_of_lt (h.below cont hcont))] at hj
    exact h.timed cont hcont htimeout t' hj

variable {cont : Cont}

/-- A handler leaves something to do. -/
theorem push (h : ConnInv s) (ht : ∃ t, s.transList.get? cont.trans = some t)
    (hcont : cont.isTimeout = true → s.stack = [] ∧ ∀ t, s.transList.get? cont.trans = some t → t.conn.isSome = true) :
    ConnInv { s with stack := cont :: s.stack } where
  bound := h.bound
  below := by
    obtain ⟨t, ht⟩ := ht
    rintro c (_ | ⟨_, hc⟩)
    · exact get?_lt ht
    · exact h.below c hc
  bottom := by
    intro c hc
    cases hstack : s.stack with
    | nil =>
      rw [hstack] at hc
      cases hc
    | cons d rest =>
      rw [hstack, List.dropLast_cons_cons, ← hstack] at hc
      obtain rfl | hc := List.mem_cons.mp hc
      · by_contra htimeout
        rw [Bool.not_eq_false] at htimeout
        rw [(hcont htimeout).1] at hstack
        cases hstack
      · exact h.bottom c hc
  timed := by
    rintro c (_ | ⟨_, hc⟩) htimeout
    · exact (hcont htimeout).2
    · exact h.timed c hc htimeout

variable {stack : List Cont}

/-- The application returns. -/
theorem pop (h : ConnInv s) (hstack : s.stack = cont :: stack) :
    ConnInv { s with stack := stack } where
  bound := h.bound
  below c hc := h.below c (hstack ▸ List.mem_cons_of_mem _ hc)
  bottom := by
    intro c hc
    refine h.bottom c ?_
    rw [hstack]
    cases stack with
    | nil => cases hc
    | cons d rest => exact List.mem_cons_of_mem _ hc
  timed c hc := h.timed c (hstack ▸ List.mem_cons_of_mem _ hc)

/-- What is left of the handler of a timer is at the bottom. -/
theorem rest_of_timeout (h : ConnInv s) (hstack : s.stack = cont :: stack) (htimeout : cont.isTimeout = true) :
    stack = [] := by
  cases stack with
  | nil => rfl
  | cons d rest =>
    have hfalse := h.bottom cont (by
      rw [hstack]
      exact List.mem_cons_self)
    rw [htimeout] at hfalse
    cases hfalse

/-! ### Kept by every function -/

section

variable (h : ConnInv s)

include h

/-- A handler that goes on with a transaction finds it, or stops. -/
theorem withTrans {f : CcTrans → CcNet} (hf : ∀ t, s.transList.get? i = some t → ConnInv (f t)) :
    ConnInv (s.withTrans i f) := by
  unfold CcNet.withTrans
  cases hget : s.transList.get? i with
  | none => exact h.fault
  | some t => exact hf t hget

theorem upcall (ind : MnccInd) (data : GsmMncc) {c : Cont}
    (ht : ∃ t, s.transList.get? c.trans = some t)
    (hcont : c.isTimeout = true → s.stack = [] ∧ ∀ t, s.transList.get? c.trans = some t → t.conn.isSome = true) :
    ConnInv (s.upcall i ind data c) :=
  (h.emit (.mncc (some i) ind data)).push ht hcont

/-- A change of the call of a transaction that has a connection. -/
theorem modify_conn (hget : s.transList.get? i = some t) (hconn : t.conn.isSome = true)
    (hf : (f t).conn = t.conn) : ConnInv (s.modifyTrans i f) := by
  refine h.modify i fun t' ht' => ?_
  cases hget.symm.trans ht'
  rw [hf]
  refine ⟨fun hnone => ?_, id⟩
  rw [hf] at hnone
  rw [hnone] at hconn
  cases hconn

theorem stopTimer (i : Nat) : ConnInv (s.modifyTrans i stopCcTimer) := by
  refine h.modify i fun t ht => ⟨fun hnone => ?_, id⟩
  obtain ⟨hstate, -, hid⟩ := h.bound i t ht hnone
  exact ⟨hstate, rfl, hid⟩

theorem transFreeEnd (i : Nat) : ConnInv (s.transFreeEnd i) := by
  refine h.withTrans fun t _ => ?_
  simp only
  split
  · exact (h.remove i).emit _
  · exact h.remove i

theorem transFree (i : Nat) : ConnInv (s.transFree i) := by
  refine h.withTrans fun t ht => ?_
  simp only
  split
  · exact (h.stopTimer i).upcall _ _ ⟨_, get?_modifyTrans ht _⟩ nofun
  · exact (h.stopTimer i).transFreeEnd i

theorem clearAndFree (i : Nat) (hf : ∀ t, t.Bound → (f t).Bound ∧ (f t).conn = t.conn) :
    ConnInv (s.clearAndFree i f) := by
  refine h.withTrans fun t _ => ?_
  refine (h.modify i fun t' ht' => ?_).transFree i
  obtain ⟨hbound, hconn⟩ := hf t' (h.bound i t' ht')
  refine ⟨hbound, fun hsome => ?_⟩
  rw [← hconn] at hsome
  exact hsome

theorem txSetup (hget : s.transList.get? i = some t) (hconn : t.conn.isSome = true) (data : GsmMncc) :
    ConnInv (gsm48CcTxSetup s i t data) := by
  have hrefuse := h.upcall (i := i) .relInd { callref := t.callref, cause := some ⟨.prnSLu, .resourceUnavail⟩ }
    (c := .clearCallref i) ⟨t, hget⟩ nofun
  unfold gsm48CcTxSetup
  simp only
  split
  · exact hrefuse
  · cases transAssignTransId s.transList t.subscr .cc 0 with
    | none => exact hrefuse
    | some j => exact (h.modify_conn hget hconn rfl).emit _

theorem txRelease {t' : CcTrans} (hget : s.transList.get? i = some t')
    (hconn : t'.conn.isSome = true) (rel : GsmMncc) : ConnInv (gsm48CcTxRelease s i t rel) :=
  (h.modify_conn hget hconn rfl).emit _

theorem rout (hget : s.transList.get? i = some t) (hconn : t.conn.isSome = true)
    (heffect : RoutEffect req s i t s') : ConnInv s' := by
  cases heffect with
  | keep hout => exact h.emit _
  | move hold hnew hguarded _ hout => exact (h.modify_conn hget hconn rfl).emit _
  | setup hreq hstate => exact h.txSetup hget hconn _
  | disconnect | release => exact (h.modify_conn hget hconn rfl).emit _
  | releaseCompl hreq hstate => exact ((h.modify_conn hget hconn rfl).emit _).transFree i
  | rxRelease hreq hstate =>
    unfold gsm48CcRxRelease
    simp only
    split
    · exact (h.stopTimer i).upcall _ _ ⟨_, get?_modifyTrans hget _⟩ nofun
    · exact ((h.stopTimer i).emit _).upcall _ _ ⟨_, get?_modifyTrans hget _⟩ nofun
  | rxReleaseCompl hreq =>
    unfold gsm48CcRxReleaseCompl
    simp only
    split
    · exact (h.stopTimer i).upcall _ _ ⟨_, get?_modifyTrans hget _⟩ nofun
    · exact (h.stopTimer i).clearAndFree i fun t ht => ⟨ht, rfl⟩

theorem routDown (hconn : ∀ t, s.transList.get? i = some t → t.conn.isSome = true) (type : MnccReq)
    (data : GsmMncc) : ConnInv (s.routDown i type data) := by
  refine h.withTrans fun t ht => ?_
  cases hrow : txRow t type with
  | none => exact h
  | some row => exact h.rout ht (hconn t ht) (txRow_effect hrow data)

theorem routData (hconn : ∀ t, s.transList.get? i = some t → t.conn.isSome = true) (type : CcMsg)
    (cause : Option MnccCause) : ConnInv (s.routData i type cause) := by
  refine h.withTrans fun t ht => ?_
  cases hrow : rxRow t type with
  | none => exact h
  | some row => exact h.rout ht (hconn t ht) (rxRow_effect hrow cause)

end

/-- A new transaction is found under the next identity. -/
theorem conn_of_alloc {l : Pool CcTrans} {new : CcTrans} (hconn : new.conn.isSome = true) :
    ∀ t, (l.alloc new).get? l.next = some t → t.conn.isSome = true := by
  intro t ht
  rw [get?_alloc, if_pos rfl] at ht
  cases ht
  exact hconn

section

variable (h : ConnInv s)

include h

theorem mnccSetup (subscr : Nat) (conn : Option Nat) (data : GsmMncc) :
    ConnInv (s.mnccSetup subscr conn data) := by
  unfold CcNet.mnccSetup
  cases conn with
  | some conn => exact (h.alloc (fun hnone => absurd hnone (some_ne_none _)) _).routDown (conn_of_alloc rfl) _ _
  | none =>
    simp only
    split
    · exact (h.alloc (fun _ => ⟨rfl, rfl, rfl⟩) _).transFree _
    · exact (h.alloc (fun _ => ⟨rfl, rfl, rfl⟩) _).emit _

theorem conn_of_assigned (hget : s.transList.get? i = some t)
    (hsome : t.transactionId ≠ unassignedId ∨ t.body.timer ≠ none) : t.conn.isSome = true := by
  by_contra hconn
  obtain ⟨-, htimer, hid⟩ := h.bound i t hget (not_isSome_iff_eq_none.mp hconn)
  exact hsome.elim (absurd hid) (absurd htimer)

theorem conn_of_timer (hget : s.transList.get? i = some t) {timer : CcTimer}
    (htimer : t.body.timer = some timer) : t.conn.isSome = true :=
  h.conn_of_assigned hget (.inr (by rw [htimer]; nofun))

theorem resume (hstack : s.stack = cont :: stack) :
    ConnInv ({ s with stack := stack }.resume cont) := by
  have hpop := h.pop hstack
  have htimed := h.timed cont (hstack ▸ List.mem_cons_self)
  cases cont with
  | transFree i => exact hpop.transFreeEnd i
  | clearCallref i => exact hpop.clearAndFree i fun t ht => ⟨ht, rfl⟩
  | rxRelease i => exact hpop.clearAndFree i fun t ht => ⟨fun hnone => ⟨rfl, (ht hnone).2⟩, rfl⟩
  | pagingExpired i => exact hpop.clearAndFree i fun t ht => ⟨ht, rfl⟩
  | timeoutRelease i rel =>
    refine hpop.withTrans fun t ht => ?_
    have hconn := htimed rfl t ht
    have hclear := hpop.modify_conn ht hconn (f := fun t => { t with callref := 0 }) rfl
    exact (hclear.modify_conn (get?_modifyTrans ht _) hconn rfl).emit _
  | timeoutDisconnect i rel =>
    refine hpop.withTrans fun t ht => ?_
    exact (hpop.modify_conn ht (htimed rfl t ht) rfl).emit _

/-- A handler of an expired timer tells the application first, before any other handler is at work. -/
theorem upcall_timeout (hstack : s.stack = []) (hget : s.transList.get? i = some t)
    (hconn : t.conn.isSome = true) (ind : MnccInd) (data : GsmMncc) {c : Cont} (hc : c.trans = i) :
    ConnInv (s.upcall i ind data c) := by
  subst hc
  refine h.upcall _ _ ⟨t, hget⟩ fun _ => ⟨hstack, fun t' ht' => ?_⟩
  cases hget.symm.trans ht'
  exact hconn

theorem step {ev : CcEvent} (hstep : s.step ev = some s') : ConnInv s' := by
  cases step_done hstep with
  | ignored => exact h
  | @message _ _ i protoDiscr _ _ t hstack hget hid =>
    refine h.routData (fun t' ht' => ?_) _ _
    cases hget.symm.trans ht'
    refine h.conn_of_assigned hget (.inl fun hnone => ?_)
    -- a transaction without a connection has no identifier yet
    have hlt := ccTransId_lt protoDiscr
    rw [← hid, hnone] at hlt
    exact absurd hlt (by decide)
  | opened => exact (h.alloc (fun hnone => absurd hnone (some_ne_none _)) _).routData (conn_of_alloc rfl) _ _
  | timeoutRelease hstack hget htimer =>
    have hconn := h.conn_of_timer hget htimer
    unfold timeoutRelease
    simp only
    split
    · exact (h.stopTimer _).upcall_timeout hstack (get?_modifyTrans hget _) hconn _ _ rfl
    · exact ((h.stopTimer _).modify_conn (get?_modifyTrans hget _) hconn rfl).emit _
  | timeoutDisconnect hstack hget htimer =>
    have hconn := h.conn_of_timer hget htimer
    unfold timeoutDisconnect
    simp only
    split
    · exact (h.stopTimer _).upcall_timeout hstack (get?_modifyTrans hget _) hconn _ _ rfl
    · exact ((h.stopTimer _).modify_conn (get?_modifyTrans hget _) hconn rfl).emit _
  | @firstT308 i t hstack hget htimer =>
    have hconn := h.conn_of_timer hget htimer
    have hget' := get?_modifyTrans (s := s) hget stopCcTimer
    have hrel := (h.stopTimer i).txRelease (t := t) hget' hconn t.body.msg
    exact hrel.modify_conn (get?_modifyTrans hget' _) hconn rfl
  | secondT308 => exact (h.stopTimer _).transFree _
  | refused => exact h.emit _
  | setup => exact h.mnccSetup _ _ _
  | unbound hget => exact h.upcall _ _ ⟨_, hget⟩ nofun
  | @request _ _ _ i t hget hcallref hfind hconn =>
    refine h.routDown (fun t' ht' => ?_) _ _
    cases hget.symm.trans ht'
    exact hconn
  | returned hstack => exact h.resume hstack
  | @paged i conn t hget =>
    have hassign : ConnInv (s.modifyTrans i fun t => { t with pagingRequest := false, conn := some conn }) :=
      h.modify i fun t' _ => ⟨(fun hnone => nomatch hnone), fun _ => rfl⟩
    exact hassign.txSetup (get?_modifyTrans hget _) rfl _
  | expired hget => exact h.upcall _ _ ⟨_, hget⟩ nofun
  | cleared => exact h.transFree _
  | clearedAll => exact h.clearAndFree _ fun t ht => ⟨ht, rfl⟩

end

theorem init : ConnInv {} where
  bound _ _ h := nomatch h
  below _ h := nomatch h
  bottom _ h := nomatch h
  timed _ h := nomatch h

end ConnInv

theorem connInv_of_reachableBy {G : CcNet → CcEvent → Prop} (h : ReachableBy ccSystem G s) : ConnInv s := by
  refine h.invariant ?_ ?_
  · rintro s rfl
    exact ConnInv.init
  · intro s ev s' hs _ hstep
    exact hs.step hstep

end OpenBsc.Libmsc
