import OpenBsc.Libmsc.CcSteps

/-!
# `Libmsc.CcIdle` — no call stands idle

A call that has begun stands in a state whose timer runs, on a connection whose loss ends it; one that has not begun
waits for its paging. This holds whenever no handler is at work, if the first message of a call is one that may begin or
refuse it (`no_idle_call`).

`gsm0408_rcv_cc` makes the transaction before it looks whether the message is one for a new call. Any other message
leaves a transaction in the state NULL, which nothing but the loss of the connection ends (`idle_call`).
-/

namespace OpenBsc.Libmsc

open Transition CcNet Pool Option

/-! ## The condition -/

/-- **The condition.** A message for which there is no transaction is a SETUP, an emergency SETUP or a RELEASE COMPLETE,
    or has no defined type. -/
def CcNet.opensWell (s : CcNet) : CcEvent → Bool
  | .rcvCc _ subscr protoDiscr type _ =>
    (transFindById s.transList subscr .cc (ccTransId protoDiscr)).isSome ||
      [CcMsg.setup, .emergSetup, .releaseCompl, .undefined].contains type
  | _ => true

/-! ## The invariant -/

/-- A handler is still at work on the transaction. -/
def CcNet.AtWork (s : CcNet) (i : Nat) : Prop := ∃ cont ∈ s.stack, cont.trans = i

/-- The call waits for its paging. -/
def GsmTrans.WaitsForPaging (t : CcTrans) : Prop := t.pagingRequest = true ∧ t.conn = none

/-- The call has begun, and the timer of its state is running. -/
def GsmTrans.Begun (t : CcTrans) : Prop := t.body.state ≠ .null ∧ t.body.Guarded

/-- Every call but `i` waits for its paging or has begun, or a handler is at work on it. -/
def IdleBut (i : Nat) (s : CcNet) : Prop :=
  ∀ j t, s.transList.get? j = some t → j ≠ i → s.AtWork j ∨ t.WaitsForPaging ∨ t.Begun

/-- **Every call waits for its paging or has begun, or a handler is at work on it.** -/
def IdleInv (s : CcNet) : Prop :=
  ∀ j t, s.transList.get? j = some t → s.AtWork j ∨ t.WaitsForPaging ∨ t.Begun

variable {s s' : CcNet} {i : Nat} {t : CcTrans} {req : Option MnccReq}

theorem IdleInv.but (h : IdleInv s) (i : Nat) : IdleBut i s := fun j t hj _ => h j t hj

variable {f : CcTrans → CcTrans}

namespace IdleBut

section

variable (h : IdleBut i s)

include h

/-- The transaction `i` is as it should be, too. -/
theorem done (hi : ∀ t, s.transList.get? i = some t → s.AtWork i ∨ t.WaitsForPaging ∨ t.Begun) : IdleInv s := by
  intro j t hj
  by_cases hji : j = i
  · subst hji
    exact hi t hj
  · exact h j t hj hji

theorem emit (out : CcOut) : IdleBut i (s.emit out) := h

theorem modify (f : CcTrans → CcTrans) : IdleBut i (s.modifyTrans i f) := by
  intro j t hj hji
  change (s.transList.modify i f).get? j = some t at hj
  rw [get?_modify_ne hji] at hj
  exact h j t hj hji

/-- What the transaction is changed to is as it should be. -/
theorem modify_done (hf : ∀ t, s.transList.get? i = some t → (f t).WaitsForPaging ∨ (f t).Begun) :
    IdleInv (s.modifyTrans i f) := by
  refine (h.modify f).done fun t' ht' => .inr ?_
  change (s.transList.modify i f).get? i = some t' at ht'
  rw [get?_modify, if_pos rfl] at ht'
  obtain ⟨t, ht, rfl⟩ := map_eq_some_iff.mp ht'
  exact hf t ht

/-- A handler stays at work on the transaction. -/
theorem upcall (ind : MnccInd) (data : GsmMncc) {cont : Cont} (hcont : cont.trans = i) :
    IdleInv (s.upcall i ind data cont) := by
  intro j t hj
  by_cases hji : j = i
  · subst hji
    exact .inl ⟨cont, List.mem_cons_self, hcont⟩
  · obtain ⟨c, hc, hcj⟩ | hrest := h j t hj hji
    · exact .inl ⟨c, List.mem_cons_of_mem _ hc, hcj⟩
    · exact .inr hrest

section

variable (hget : s.transList.get? i = some t)

include hget

theorem transFreeEnd : IdleInv (s.transFreeEnd i) := by
  have hremove : IdleInv { s with transList := s.transList.remove i } := by
    intro j t' hj
    change (s.transList.remove i).get? j = some t' at hj
    rw [get?_remove] at hj
    split at hj
    · cases hj
    · rename_i hji
      exact h j t' hj hji
  unfold CcNet.transFreeEnd
  rw [withTrans_some hget]
  simp only
  split
  · exact hremove
  · exact hremove

theorem transFree : IdleInv (s.transFree i) := by
  unfold CcNet.transFree
  rw [withTrans_some hget]
  simp only
  split
  · exact (h.modify _).upcall _ _ rfl
  · exact (h.modify _).transFreeEnd (get?_modifyTrans hget _)

theorem clearAndFree (hf : (f t).conn = t.conn) :
    IdleInv (s.clearAndFree i f) := by
  rw [clearAndFree_eq hget hf]
  exact h.transFreeEnd hget

end

theorem txSetup (t : CcTrans) (data : GsmMncc) : IdleInv (gsm48CcTxSetup s i t data) := by
  unfold gsm48CcTxSetup
  simp only
  split
  · exact h.upcall _ _ rfl
  · cases transAssignTransId s.transList t.subscr .cc 0 with
    | none => exact h.upcall _ _ rfl
    | some j => exact h.modify_done fun _ _ => .inr ⟨nofun, guarded_to rfl⟩

theorem txRelease (t : CcTrans) (rel : GsmMncc) : IdleInv (gsm48CcTxRelease s i t rel) :=
  h.modify_done fun _ _ => .inr ⟨nofun, fun _ htimer => htimer⟩

theorem txDisconnect (t : CcTrans) (data : GsmMncc) : IdleInv (gsm48CcTxDisconnect s i t data) :=
  h.modify_done fun _ _ => .inr ⟨nofun, fun _ htimer => htimer⟩

theorem rxReleaseCompl (hget : s.transList.get? i = some t) (cause : Option MnccCause) :
    IdleInv (gsm48CcRxReleaseCompl s i t cause) := by
  unfold gsm48CcRxReleaseCompl
  simp only
  split
  · exact (h.modify _).upcall _ _ rfl
  · exact (h.modify _).clearAndFree (get?_modifyTrans hget _) rfl

end

end IdleBut

namespace IdleInv

/-- A routine leaves the transaction as it was, or as it should be. -/
theorem rout (h : IdleInv s) (hget : s.transList.get? i = some t) (heffect : RoutEffect req s i t s') :
    IdleInv s' := by
  have hbut := h.but i
  cases heffect with
  | keep hout => exact h
  | move hold hnew hguarded _ hout =>
    refine hbut.modify_done fun t' ht' => .inr ?_
    cases hget.symm.trans ht'
    exact ⟨hnew.1, hguarded⟩
  | setup hreq hstate => exact hbut.txSetup t _
  | disconnect hreq hstate => exact hbut.txDisconnect t _
  | release hreq hstate => exact hbut.txRelease t _
  | releaseCompl hreq hstate => exact ((hbut.modify _).emit _).transFree (get?_modifyTrans hget _)
  | rxRelease hreq hstate =>
    unfold gsm48CcRxRelease
    simp only
    split
    · exact (hbut.modify _).upcall _ _ rfl
    · exact ((hbut.modify _).emit _).upcall _ _ rfl
  | rxReleaseCompl hreq => exact hbut.rxReleaseCompl hget _

theorem withTrans (h : IdleInv s) {f : CcTrans → CcNet} (hf : ∀ t, s.transList.get? i = some t → IdleInv (f t)) :
    IdleInv (s.withTrans i f) := by
  unfold CcNet.withTrans
  cases hget : s.transList.get? i with
  | none => exact h
  | some t => exact hf t hget

theorem routDown (h : IdleInv s) (i : Nat) (type : MnccReq) (data : GsmMncc) : IdleInv (s.routDown i type data) := by
  refine h.withTrans fun t ht => ?_
  cases hrow : txRow t type with
  | none => exact h
  | some row => exact h.rout ht (txRow_effect hrow data)

theorem routData (h : IdleInv s) (i : Nat) (type : CcMsg) (cause : Option MnccCause) :
    IdleInv (s.routData i type cause) := by
  refine h.withTrans fun t ht => ?_
  cases hrow : rxRow t type with
  | none => exact h
  | some row =>
    have heffect := rxRow_effect (s := s) (i := i) hrow cause
    exact h.rout ht heffect

theorem alloc (h : IdleInv s) (t : CcTrans) (newCallref : BitVec 32) :
    IdleBut s.transList.next { s with transList := s.transList.alloc t, newCallref := newCallref } := by
  intro j t' hj hne
  change (s.transList.alloc t).get? j = some t' at hj
  rw [get?_alloc, if_neg hne] at hj
  exact h j t' hj

theorem get?_alloc_next (l : Pool CcTrans) (t : CcTrans) : (l.alloc t).get? l.next = some t := by
  rw [get?_alloc, if_pos rfl]

theorem mnccSetup (h : IdleInv s) (subscr : Nat) (conn : Option Nat) (data : GsmMncc) :
    IdleInv (s.mnccSetup subscr conn data) := by
  unfold CcNet.mnccSetup
  cases conn with
  | some conn =>
    simp only
    unfold CcNet.routDown
    rw [withTrans_some (get?_alloc_next s.transList _)]
    -- the row of a SETUP request in the state NULL
    exact (h.alloc _ s.newCallref).txSetup _ data
  | none =>
    simp only
    split
    · exact (h.alloc _ s.newCallref).transFree (get?_alloc_next s.transList _)
    · refine (h.alloc _ s.newCallref).done fun t ht => .inr (.inl ?_)
      cases (get?_alloc_next s.transList _).symm.trans ht
      exact ⟨rfl, rfl⟩

/-- A message of a phone for a new transaction keeps the invariant, if it may open one. -/
theorem opened (h : IdleInv s) {conn subscr : Nat} {protoDiscr : Octet} {type : CcMsg} {cause : Option MnccCause}
    (hdefined : type ≠ .undefined) (hfind : transFindById s.transList subscr .cc (ccTransId protoDiscr) = none)
    (hopens : s.opensWell (.rcvCc conn subscr protoDiscr type cause) = true) :
    IdleInv (CcNet.routData { s with
      transList := s.transList.alloc ⟨.cc, ccTransId protoDiscr, subscr, some conn, s.newCallref, false, {}⟩
      newCallref := s.newCallref + 1 } s.transList.next type cause) := by
  have hnew := h.alloc ⟨.cc, ccTransId protoDiscr, subscr, some conn, s.newCallref, false, {}⟩ (s.newCallref + 1)
  have hget := get?_alloc_next s.transList ⟨.cc, ccTransId protoDiscr, subscr, some conn, s.newCallref, false, {}⟩
  unfold CcNet.routData
  rw [withTrans_some hget]
  simp only [opensWell, hfind, isSome_none, Bool.false_or] at hopens
  -- the rows of these messages in the state NULL
  cases type with
  | setup | emergSetup => exact hnew.modify_done fun _ _ => .inr ⟨nofun, guarded_of_none rfl⟩
  | releaseCompl => exact hnew.rxReleaseCompl hget cause
  | undefined => exact absurd rfl hdefined
  | _ => cases hopens

theorem firstT308 (h : IdleInv s) (hget : s.transList.get? i = some t) :
    IdleInv ((gsm48CcTxRelease (s.modifyTrans i stopCcTimer) i t t.body.msg).modifyTrans i fun t =>
      { t with body := { t.body with t308Second := true } }) := by
  have hbegun : IdleInv (((s.modifyTrans i stopCcTimer).modifyTrans i fun t' =>
      { t' with
        callref := 0
        body := { state := .releaseReq, timer := some .t308, t308Second := false, msg := t.body.msg } }).modifyTrans
          i fun t => { t with body := { t.body with t308Second := true } }) := by
    refine (((h.but i).modify stopCcTimer).modify _).modify_done fun t' ht' => .inr ?_
    have hlast := get?_modifyTrans (get?_modifyTrans hget stopCcTimer) fun t' =>
      { t' with
        callref := 0
        body := { state := .releaseReq, timer := some .t308, t308Second := false, msg := t.body.msg } }
    cases hlast.symm.trans ht'
    exact ⟨nofun, fun _ htimer => htimer⟩
  exact hbegun

/-- The application returns: the handler ends what it was at work on. -/
theorem resume (h : IdleInv s) {cont : Cont} {stack : List Cont} (hstack : s.stack = cont :: stack) :
    IdleInv ({ s with stack := stack }.resume cont) := by
  have hpop : IdleBut cont.trans { s with stack := stack } := by
    intro j t hj hne
    obtain ⟨c, hc, hcj⟩ | hrest := h j t hj
    · rw [hstack] at hc
      obtain rfl | hc := List.mem_cons.mp hc
      · exact absurd hcj.symm hne
      · exact .inl ⟨c, hc, hcj⟩
    · exact .inr hrest
  -- what is left has to find the transaction
  have hwith : ∀ {f : CcTrans → CcNet},
      (∀ t, s.transList.get? cont.trans = some t → IdleInv (f t)) →
        IdleInv (CcNet.withTrans { s with stack := stack } cont.trans f) := by
    intro f hf
    unfold CcNet.withTrans
    cases hget : s.transList.get? cont.trans with
    | none =>
      refine IdleBut.done (i := cont.trans) hpop fun t ht => ?_
      rw [hget] at ht
      cases ht
    | some t => exact hf t hget
  have hclear : ∀ {t}, s.transList.get? cont.trans = some t → ∀ f : CcTrans → CcTrans, (∀ t, (f t).conn = t.conn) →
      IdleInv ((modifyTrans { s with stack := stack } cont.trans
        fun t => { f t with callref := 0 }).transFree cont.trans) := by
    intro t hget f hf
    have hfree := IdleBut.clearAndFree (s := { s with stack := stack }) hpop hget (hf t)
    unfold clearAndFree at hfree
    rwa [withTrans_some (s := { s with stack := stack }) hget] at hfree
  cases cont with
  | transFree i =>
    refine hwith (f := fun t => _) fun t hget => ?_
    have hfree := IdleBut.transFreeEnd (s := { s with stack := stack }) hpop hget
    unfold transFreeEnd at hfree
    rwa [withTrans_some (s := { s with stack := stack }) hget] at hfree
  | clearCallref i => exact hwith fun t hget => hclear hget id fun _ => rfl
  | rxRelease | pagingExpired => exact hwith fun t hget => hclear hget _ fun _ => rfl
  | timeoutRelease i rel => exact hwith fun t hget => (hpop.modify _).txRelease _ rel
  | timeoutDisconnect i rel => exact hwith fun t hget => hpop.txDisconnect t rel

theorem step (h : IdleInv s) {ev : CcEvent} (hopens : s.opensWell ev = true) (hstep : s.step ev = some s') :
    IdleInv s' := by
  cases step_done hstep with
  | ignored => exact h
  | message => exact h.routData _ _ _
  | opened hstack htype hfind => exact h.opened htype hfind hopens
  | timeoutRelease =>
    unfold timeoutRelease
    simp only
    split
    · exact ((h.but _).modify _).upcall _ _ rfl
    · exact ((h.but _).modify _).txRelease _ _
  | timeoutDisconnect =>
    unfold timeoutDisconnect
    simp only
    split
    · exact ((h.but _).modify _).upcall _ _ rfl
    · exact ((h.but _).modify _).txDisconnect _ _
  | firstT308 hstack hget => exact h.firstT308 hget
  | secondT308 hstack hget => exact ((h.but _).modify _).transFree (get?_modifyTrans hget _)
  | refused => exact h
  | setup => exact h.mnccSetup _ _ _
  | unbound => exact (h.but _).upcall _ _ rfl
  | request => exact h.routDown _ _ _
  | returned hstack => exact h.resume hstack
  | paged => exact ((h.but _).modify _).txSetup _ _
  | expired => exact (h.but _).upcall _ _ rfl
  | cleared hstack hget => exact (h.but _).transFree hget
  | clearedAll hstack hget => exact (h.but _).clearAndFree hget rfl

theorem init : IdleInv {} := by
  intro j t hj
  cases hj

end IdleInv

theorem idleInv_of_reachableBy (h : ReachableBy ccSystem (fun s ev => s.opensWell ev = true) s) : IdleInv s := by
  refine h.invariant ?_ ?_
  · rintro s rfl
    exact IdleInv.init
  · intro s ev s' hs hopens hstep
    exact hs.step hopens hstep

/-! ## Refused messages -/

/-- The application returns at once. -/
def CcNet.returned (s : CcNet) : CcNet := (s.step .ret).getD s

theorem CcNet.returned_of_stack_nil (hstack : s.stack = []) : s.returned = s := by
  unfold returned step
  rw [hstack]
  rfl

theorem CcNet.transList_clearAndFree (hget : s.transList.get? i = some t) (hf : (f t).conn = t.conn) :
    (s.clearAndFree i f).transList = s.transList.remove i ∧ (s.clearAndFree i f).stack = s.stack := by
  rw [clearAndFree_eq hget hf]
  unfold transFreeEnd
  rw [withTrans_some hget]
  simp only
  split
  · exact ⟨rfl, rfl⟩
  · exact ⟨rfl, rfl⟩

/-- A RELEASE COMPLETE ends the transaction, and no other. -/
theorem CcNet.returned_rxReleaseCompl (hstack : s.stack = []) (hget : s.transList.get? i = some t)
    (cause : Option MnccCause) :
    (gsm48CcRxReleaseCompl s i t cause).returned.transList = s.transList.remove i ∧
      (gsm48CcRxReleaseCompl s i t cause).returned.stack = [] := by
  have hstop := get?_modifyTrans hget stopCcTimer
  unfold gsm48CcRxReleaseCompl
  simp only
  split
  · -- the application was told, and returns
    have hpop := transList_clearAndFree (f := id)
      (s := { (s.modifyTrans i stopCcTimer).mnccRecvmsg (some i) (releaseComplInd t.body.state)
        { callref := t.callref, cause := cause } with stack := s.stack }) hstop rfl
    rw [← hstack, ← remove_modify s.transList i stopCcTimer]
    exact hpop
  · have hfree := transList_clearAndFree (f := id) hstop rfl
    rw [returned_of_stack_nil (hfree.2.trans hstack), ← remove_modify s.transList i stopCcTimer]
    exact ⟨hfree.1, hfree.2.trans hstack⟩

/-- A message that is not a SETUP, and for which there is no transaction, leaves the transactions as they were. -/
theorem CcNet.refused_keeps {conn subscr : Nat} {protoDiscr : Octet} {type : CcMsg} {cause : Option MnccCause}
    (hstack : s.stack = []) (hfind : transFindById s.transList subscr .cc (ccTransId protoDiscr) = none)
    (hopens : s.opensWell (.rcvCc conn subscr protoDiscr type cause) = true)
    (htype : type ∉ [CcMsg.setup, .emergSetup]) :
    (s.gsm0408RcvCc conn subscr protoDiscr type cause).returned.stack = [] ∧
      ∀ j, (s.gsm0408RcvCc conn subscr protoDiscr type cause).returned.transList.get? j = s.transList.get? j := by
  unfold gsm0408RcvCc
  split
  · rw [returned_of_stack_nil hstack]
    exact ⟨hstack, fun j => rfl⟩
  · rename_i hdefined
    simp only [opensWell, hfind, isSome_none, Bool.false_or] at hopens
    rw [hfind]
    -- only a RELEASE COMPLETE is left
    obtain rfl : type = .releaseCompl := by
      cases type with
      | setup | emergSetup => exact absurd (by decide) htype
      | releaseCompl => rfl
      | undefined => exact absurd rfl hdefined
      | _ => cases hopens
    have hget := IdleInv.get?_alloc_next s.transList
      ⟨.cc, ccTransId protoDiscr, subscr, some conn, s.newCallref, false, {}⟩
    simp only
    unfold routData
    rw [withTrans_some hget]
    obtain ⟨hremove, hrest⟩ := returned_rxReleaseCompl (s := { s with
      transList := s.transList.alloc ⟨.cc, ccTransId protoDiscr, subscr, some conn, s.newCallref, false, {}⟩
      newCallref := s.newCallref + 1 }) hstack hget cause
    refine ⟨hrest, fun j => ?_⟩
    have hj : (s.transList.alloc ⟨.cc, ccTransId protoDiscr, subscr, some conn, s.newCallref, false, {}⟩).remove
        s.transList.next = _ := hremove.symm
    have hkeep := get?_remove
      (s.transList.alloc ⟨.cc, ccTransId protoDiscr, subscr, some conn, s.newCallref, false, {}⟩) s.transList.next j
    rw [hj, get?_alloc] at hkeep
    refine hkeep.trans ?_
    split
    · rename_i hj
      -- the new transaction had no place before
      cases hold : s.transList.get? j with
      | none => rfl
      | some told => exact absurd (get?_lt hold) (by rw [hj]; exact Nat.lt_irrefl _)
    · rfl

/-! ## The result -/

/-- **No call stands idle.** When every handler has come to its end, a call that does not wait for its paging has left
    the state NULL, the timer of its state is running, and it has a connection, whose loss ends it. -/
def NoIdleCall (s : CcNet) : Prop :=
  s.stack = [] → ∀ i t, s.transList.get? i = some t → t.WaitsForPaging ∨ t.Begun ∧ t.conn.isSome = true

/-- **A refused message changes no call.** A message that is no SETUP, and for which there is no transaction, leaves the
    transactions as they were, if it opens well. -/
def RefusedKeeps (s : CcNet) : Prop :=
  s.stack = [] → ∀ conn subscr protoDiscr type cause,
    transFindById s.transList subscr .cc (ccTransId protoDiscr) = none →
      s.opensWell (.rcvCc conn subscr protoDiscr type cause) = true → type ∉ [CcMsg.setup, .emergSetup] →
        (s.gsm0408RcvCc conn subscr protoDiscr type cause).returned.stack = [] ∧
          ∀ j, (s.gsm0408RcvCc conn subscr protoDiscr type cause).returned.transList.get? j = s.transList.get? j

/-- **In every run in which a message opens a transaction only to begin or to refuse a call, no call stands idle and no
    refused message changes a call.** -/
theorem no_idle_call (s : CcNet) (h : ReachableBy ccSystem (fun s ev => s.opensWell ev = true) s) :
    NoIdleCall s ∧ RefusedKeeps s := by
  refine ⟨?_, ?_⟩
  · intro hstack i t hget
    obtain ⟨cont, hcont, -⟩ | hpaging | hbegun := idleInv_of_reachableBy h i t hget
    · rw [hstack] at hcont
      cases hcont
    · exact .inl hpaging
    · refine .inr ⟨hbegun, ?_⟩
      cases hconn : t.conn with
      | none => exact absurd ((connInv_of_reachableBy h).bound i t hget hconn).1 hbegun.1
      | some conn => rfl
  · intro hstack conn subscr protoDiscr type cause hfind hopens htype
    exact refused_keeps hstack hfind hopens htype

/-- A call to a subscriber who is not on a channel, a call from it, which ends, and a message of no call. -/
def twoWays : List CcEvent :=
  [.mncc .setupReq { callref := 1 } { subscr := some 7 }, .rcvCc 0 7 0x03 .setup none,
    .rcvCc 0 7 0x03 .disconnect none, .rcvCc 0 7 0x13 .releaseCompl none, .ret]

theorem no_idle_call_twoWays :
    ∃ s, guardedRun step (fun s ev => s.opensWell ev = true) {} twoWays = some s ∧ NoIdleCall s ∧ RefusedKeeps s := by
  obtain ⟨s, hs⟩ : ∃ s, guardedRun step (fun s ev => s.opensWell ev = true) {} twoWays = some s :=
    isSome_iff_exists.mp (by decide +kernel)
  exact ⟨s, hs, no_idle_call s (ReachableBy.guardedRun (fun _ _ _ h => h) (.init rfl) hs)⟩

/-- A call that waits for its paging is in the state NULL while another call of the subscriber begins; and a STATUS
    ENQUIRY for which there is no call leaves one in the state NULL, which nothing but the loss of its connection
    ends. -/
theorem idle_call :
    (∃ s, Reachable ccSystem s ∧ s.stack = [] ∧ ∃ s', s.step (.rcvCc 0 7 0x03 .setup none) = some s' ∧ s'.stack = [] ∧
        ∃ t ∈ s'.transList.get? 0, t.subscr = 7 ∧ t.body.state = .null) ∧
      ∃ s, Reachable ccSystem s ∧ s.stack = [] ∧ (∀ i, s.transList.get? i = none) ∧
        ∃ s', s.step (.rcvCc 0 7 0x03 .statusEnq none) = some s' ∧ s'.stack = [] ∧
          ∃ t ∈ s'.transList.get? 0, t.body.state = .null ∧ t.body.timer = none ∧ t.pagingRequest = false := by
  refine ⟨?_, {}, .init rfl, rfl, fun _ => rfl, by decide +kernel⟩
  obtain ⟨s, hs, hrest⟩ : ∃ s ∈ step {} (.mncc .setupReq { callref := 1 } { subscr := some 7 }), s.stack = [] ∧
      ∃ s' ∈ s.step (.rcvCc 0 7 0x03 .setup none), s'.stack = [] ∧
        ∃ t ∈ s'.transList.get? 0, t.subscr = 7 ∧ t.body.state = .null := by
    decide +kernel
  exact ⟨s, .step (.init rfl) trivial hs, hrest⟩

end OpenBsc.Libmsc
