import Mathlib.Data.List.Induction
import OpenBsc.Libmsc.CcRefs

/-!
# `Libmsc.CcPaired` — every call reference has its final message

Every reference that the application introduced or was told of gets one final message, and nothing after it
(`references_paired`), unless the application ends the call itself: REJ_REQ and REL_REQ clear the reference at once.
-/

namespace OpenBsc.Libmsc

open Transition Log CcNet RefInv List

variable {s s' : CcNet} {i : Nat} {t : CcTrans} {req : Option MnccReq} {r : BitVec 32} {k k' : Prop}

/-! ## Handlers -/

/-- The request is one by which the application itself ends the call. -/
def CcNet.endsCall (s : CcNet) (type : MnccReq) (data : GsmMncc) : Bool :=
  (type == .relReq || type == .rejReq) &&
    (transFindByCallref s.transList data.callref).any fun found =>
      found.2.conn.isSome && (CcNet.txRow found.2 type).isSome

namespace RefInv

open CcNet (get?_modifyTrans)

section

variable (h : RefInv r k s)

include h

theorem withTrans {f : CcTrans → CcNet} (hf : ∀ t, s.transList.get? i = some t → RefInv r k (f t)) :
    RefInv r k (s.withTrans i f) := by
  unfold CcNet.withTrans
  cases hget : s.transList.get? i with
  | none => exact h.fault
  | some t => exact hf t hget

theorem transFree (hr : r ≠ 0)
    (hsilent : ∀ t, s.transList.get? i = some t → t.callref = r → ¬ s.FinalSent r) : RefInv r k (s.transFree i) := by
  refine h.withTrans fun t hget => ?_
  have hstop := h.stopTimer i
  have hget' := get?_modifyTrans hget stopCcTimer
  simp only
  split
  · refine hstop.tell hget' rfl ?_ ?_ (hsilent t hget)
    · decide
    · exact fun j => beq_iff_eq.trans eq_comm
  · rename_i hzero
    rw [not_not] at hzero
    exact (hstop.due_of_ne hget' (by rw [stopCcTimer, hzero]; exact hr.symm)).transFreeEnd

theorem txSetup (hget : s.transList.get? i = some t) (hsilent : t.callref = r → ¬ s.FinalSent r)
    (data : GsmMncc) : RefInv r k (gsm48CcTxSetup s i t data) := by
  have hrefuse : RefInv r k (s.upcall i .relInd
      { callref := t.callref, cause := some ⟨.prnSLu, .resourceUnavail⟩ } (.clearCallref i)) := by
    refine h.tell hget rfl ?_ ?_ hsilent
    · decide
    · exact fun j => beq_iff_eq.trans eq_comm
  unfold gsm48CcTxSetup
  simp only
  split
  · exact hrefuse
  · cases transAssignTransId s.transList t.subscr .cc 0 with
    | none => exact hrefuse
    | some j =>
      have hmod : RefInv r k (s.modifyTrans i fun t =>
          { t with transactionId := j, body := t.body.to .callPresent (some .t303) }) :=
        h.modify i fun _ _ => ⟨rfl, nofun⟩
      exact hmod.emit_dtap _ _ _ _ _

theorem txDisconnect (t : CcTrans) (data : GsmMncc) : RefInv r k (gsm48CcTxDisconnect s i t data) := by
  have hmod : RefInv r k (s.modifyTrans i fun t => { t with
      body := { t.body with state := .disconnectInd, timer := some .t306, msg := data } }) :=
    h.modify i fun _ _ => ⟨rfl, nofun⟩
  exact hmod.emit_dtap _ _ _ _ _

/-- **A routine.** The application does not end the call of `r` itself. -/
theorem rout (hr : r ≠ 0) (hget : s.transList.get? i = some t)
    (hsilent : t.callref = r → ¬ s.FinalSent r) (hclose : req = some .relReq ∨ req = some .rejReq → t.callref ≠ r)
    (heffect : RoutEffect req s i t s') : RefInv r k s' := by
  cases heffect with
  | keep hout => exact h.emit_quiet hget hsilent hout
  | @move f out hold hnew hguarded htimer hout =>
    have hmod : RefInv r k (s.modifyTrans i fun t => { t with body := f t.body }) := by
      refine h.modify i fun t' ht' => ⟨rfl, fun ht308 => ?_⟩
      cases hget.symm.trans ht'
      exact h.second i t hget (htimer ht308)
    refine hmod.emit_quiet (get?_modifyTrans hget _) hsilent ?_
    cases hout with
    | dtap htype => exact .dtap htype
    | mncc hind => exact .mncc hind
    | assignReq => exact .assignReq
  | setup hreq hstate => exact h.txSetup hget hsilent _
  | disconnect hreq hstate => exact h.txDisconnect _ _
  | release hreq hstate => exact (h.due_of_ne hget (hclose (.inl hreq))).txRelease hr _ _
  | @releaseCompl data hreq hstate =>
    have hclear :
        RefInv r k (s.modifyTrans i fun t => { t with callref := 0, body := { t.body with timer := none } }) :=
      (h.due_of_ne hget (hclose (.inr hreq))).clear hr fun _ => rfl
    have hsend := hclear.emit_dtap t.conn i t.transactionId .releaseCompl data.cause
    refine hsend.transFree hr fun t' ht' hr' => ?_
    cases (get?_modifyTrans hget _).symm.trans ht'
    exact absurd hr'.symm hr
  | rxRelease hreq hstate =>
    have hstop := h.stopTimer i
    have hget' := get?_modifyTrans hget stopCcTimer
    unfold gsm48CcRxRelease
    simp only
    split
    · refine hstop.tell hget' rfl ?_ ?_ hsilent
      · decide
      · exact fun j => beq_iff_eq.trans eq_comm
    · refine (hstop.emit_dtap _ _ _ _ _).tell hget' rfl ?_ ?_ ?_
      · decide
      · exact fun j => beq_iff_eq.trans eq_comm
      · intro hcallref hsent
        refine (finalSent_emit.mp hsent).elim (hsilent hcallref) ?_
        exact Bool.false_ne_true
  | rxReleaseCompl hreq =>
    have hstop := h.stopTimer i
    have hget' := get?_modifyTrans hget stopCcTimer
    unfold gsm48CcRxReleaseCompl
    simp only
    split
    · refine hstop.tell hget' rfl ?_ ?_ hsilent
      · unfold releaseComplInd
        split <;> decide
      · exact fun j => beq_iff_eq.trans eq_comm
    · rename_i hzero
      rw [not_not] at hzero
      exact (hstop.due_of_ne hget' fun hcallref => hr (hcallref.symm.trans hzero)).clearAndFree fun _ => rfl

section

variable (hr : r ≠ 0) (hsilent : ∀ t, s.transList.get? i = some t → t.callref = r → ¬ s.FinalSent r)

include hr hsilent

theorem routData (type : CcMsg)
    (cause : Option MnccCause) : RefInv r k (s.routData i type cause) := by
  refine h.withTrans fun t ht => ?_
  cases hrow : rxRow t type with
  | none => exact h
  | some row =>
    have heffect := rxRow_effect (s := s) (i := i) hrow cause
    refine h.rout hr ht (hsilent t ht) ?_ heffect
    rintro (hreq | hreq)
    · cases hreq
    · cases hreq

theorem routDown {type : MnccReq} (data : GsmMncc)
    (hclose : ∀ t, s.transList.get? i = some t → type = .relReq ∨ type = .rejReq → (txRow t type).isSome = true →
      t.callref ≠ r) : RefInv r k (s.routDown i type data) := by
  refine h.withTrans fun t ht => ?_
  cases hrow : txRow t type with
  | none => exact h
  | some row =>
    refine h.rout hr ht (hsilent t ht) (fun hreq => ?_) (txRow_effect hrow data)
    refine hclose t ht (hreq.imp Option.some.inj Option.some.inj) ?_
    rw [hrow]
    rfl

end

theorem refuse {callref : BitVec 32}
    (hnone : ∀ i t, s.transList.get? i = some t → t.callref ≠ callref) (hsilent : callref = r → ¬ s.FinalSent r)
    (hk : k' → k ∨ callref = r) (value : CcCause) : RefInv r k' (s.refuse callref value) := by
  have hbase : RefBase r k (s.refuse callref value) :=
    h.toRefBase.emit_mncc nofun hsilent fun _ => .inr (by decide)
  have hended : ∀ i t, s.transList.get? i = some t → t.callref = r →
      ((s.refuse callref value).Ending i ↔ (s.refuse callref value).FinalSent r) := by
    intro i t ht hr
    refine (h.ended i t ht hr).trans ⟨fun hsent => finalSent_emit.mpr (.inl hsent), fun hsent => ?_⟩
    refine (finalSent_emit.mp hsent).resolve_right fun hfinal => ?_
    exact hnone i t ht (hr.trans (isFinal_mncc.mp hfinal).2.symm)
  refine introduce ⟨hbase, hended⟩ fun hk' => ?_
  rcases hk hk' with hk | hr
  · exact hbase.known hk
  · exact .inr (finalSent_emit.mpr (.inr (isFinal_mncc.mpr ⟨by decide, hr⟩)))

/-- A new transaction, whose reference the application may have introduced. -/
theorem alloc_known (hbelow : ∀ cont ∈ s.stack, cont.trans < s.transList.next) (new : CcTrans)
    (htimer : new.body.timer = none) (hnew : new.callref = r → ¬ s.Live r ∧ ¬ s.FinalSent r)
    (hk : k' → k ∨ new.callref = r) : RefInv r k' { s with transList := s.transList.alloc new } := by
  have halloc := h.alloc hbelow new htimer hnew s.newCallref
  refine halloc.introduce fun hk' => ?_
  rcases hk hk' with hk | hr
  · exact halloc.known hk
  · refine .inl ⟨s.transList.next, new, ?_, hr⟩
    show (s.transList.alloc new).get? _ = _
    rw [Pool.get?_alloc, if_pos rfl]

end

/-- The new transaction is the only one of its reference, and nothing final was sent. -/
theorem silent_of_alloc {l : Pool CcTrans} {new : CcTrans} {P : Prop} (hnew : new.callref = r → ¬ P) :
    ∀ t, (l.alloc new).get? l.next = some t → t.callref = r → ¬ P := by
  intro t ht
  rw [Pool.get?_alloc, if_pos rfl] at ht
  cases ht
  exact hnew

theorem mnccSetup (h : RefInv r k s) (hr : r ≠ 0) (hconn : ConnInv s) {data : GsmMncc}
    (hnone : ∀ i t, s.transList.get? i = some t → t.callref ≠ data.callref)
    (hsilent : data.callref = r → ¬ s.FinalSent r) (hk : k' → k ∨ data.callref = r) (subscr : Nat)
    (conn : Option Nat) : RefInv r k' (s.mnccSetup subscr conn data) := by
  have hfresh : data.callref = r → ¬ s.Live r ∧ ¬ s.FinalSent r := by
    intro hcallref
    refine ⟨?_, hsilent hcallref⟩
    rintro ⟨i, t, ht, htr⟩
    exact hnone i t ht (htr.trans hcallref.symm)
  unfold CcNet.mnccSetup
  cases conn with
  | some conn =>
    have halloc := h.alloc_known hconn.below ⟨.cc, unassignedId, subscr, some conn, data.callref, false, {}⟩
        rfl hfresh hk
    refine halloc.routDown hr (silent_of_alloc hsilent) _ fun t ht hreq => ?_
    rcases hreq with hreq | hreq
    · cases hreq
    · cases hreq
  | none =>
    simp only
    split
    · have halloc := h.alloc_known hconn.below ⟨.cc, unassignedId, subscr, none, data.callref, false, {}⟩
        rfl hfresh hk
      exact halloc.transFree hr (silent_of_alloc hsilent)
    · have halloc := h.alloc_known hconn.below ⟨.cc, unassignedId, subscr, none, data.callref, true, { msg := data }⟩
        rfl hfresh hk
      exact halloc.emit_other rfl (fun _ => rfl) rfl

/-- Before any handler is at work, no final message was sent for a transaction that still has its reference. -/
theorem silent (h : RefInv r k s) (hidle : ¬ s.Ending i) (t : CcTrans) (ht : s.transList.get? i = some t)
    (hr : t.callref = r) : ¬ s.FinalSent r :=
  fun hsent => hidle ((h.ended i t ht hr).mpr hsent)

theorem not_ending (hstack : s.stack = []) (i : Nat) : ¬ s.Ending i := by
  rintro ⟨cont, hcont, -⟩
  rw [hstack] at hcont
  cases hcont

theorem not_ending_of_idle (hidle : ∀ cont ∈ s.stack, cont.trans ≠ i) : ¬ s.Ending i := by
  rintro ⟨cont, hcont, hends⟩
  cases cont with
  | timeoutDisconnect _ _ => cases hends
  | _ => exact hidle _ hcont (beq_iff_eq.mp hends)

theorem timeoutRelease (h : RefInv r k s) (hr : r ≠ 0) (hget : s.transList.get? i = some (stopCcTimer t))
    (hsilent : t.callref = r → ¬ s.FinalSent r) (l4 mo : MnccCause) : RefInv r k (s.timeoutRelease i t l4 mo) := by
  unfold CcNet.timeoutRelease
  simp only
  split
  · exact h.tell hget rfl (by decide) (fun j => beq_iff_eq.trans eq_comm) hsilent
  · rename_i hzero
    rw [not_not] at hzero
    exact (h.due_of_ne hget fun hcallref => hr (hcallref.symm.trans hzero)).txRelease hr _ _

theorem timeoutDisconnect (h : RefInv r k s) (hget : s.transList.get? i = some (stopCcTimer t))
    (hsilent : t.callref = r → ¬ s.FinalSent r) (l4 : MnccCause) : RefInv r k (s.timeoutDisconnect i t l4) := by
  unfold CcNet.timeoutDisconnect
  simp only
  split
  · exact h.tell_disc hget rfl hsilent _
  · exact h.txDisconnect _ _

/-- T308 has expired for the first time; it runs only after the reference was cleared. -/
theorem firstT308 (h : RefInv r k s) (hr : r ≠ 0) (hget : s.transList.get? i = some t)
    (htimer : t.body.timer = some .t308) :
    RefInv r k ((gsm48CcTxRelease (s.modifyTrans i stopCcTimer) i t t.body.msg).modifyTrans i fun t =>
      { t with body := { t.body with t308Second := true } }) := by
  have hget' := get?_modifyTrans hget stopCcTimer
  have hne : t.callref ≠ r := fun hcallref => hr (hcallref.symm.trans (h.second i t hget htimer))
  have hrel : RefInv r k (gsm48CcTxRelease (s.modifyTrans i stopCcTimer) i t t.body.msg) :=
    ((h.stopTimer i).due_of_ne hget' hne).txRelease hr _ _
  refine hrel.modify i fun t' ht' => ⟨rfl, fun _ => ?_⟩
  cases (get?_modifyTrans hget' _).symm.trans ht'
  rfl

/-- The application returns to the handler it was called from. -/
theorem resume (h : RefInv r k s) (hr : r ≠ 0) {cont : Cont} {stack : List Cont} (hstack : s.stack = cont :: stack) :
    RefInv r k ({ s with stack := stack }.resume cont) := by
  cases cont with
  | transFree i => exact (h.pop hstack fun j => beq_iff_eq.trans eq_comm).transFreeEnd
  | clearCallref i => exact (h.pop hstack fun j => beq_iff_eq.trans eq_comm).clearAndFree fun _ => rfl
  | rxRelease | pagingExpired => exact (h.pop hstack fun j => beq_iff_eq.trans eq_comm).clearAndFree fun _ => rfl
  | timeoutRelease i rel =>
    have hpop : RefDue r k i { s with stack := stack } := h.pop hstack fun j => beq_iff_eq.trans eq_comm
    show RefInv r k (CcNet.withTrans _ i _)
    unfold CcNet.withTrans
    cases hget : s.transList.get? i with
    | none => exact hpop.fault hget
    | some t =>
      have hclear : RefInv r k (modifyTrans { s with stack := stack } i fun t => { t with callref := 0 }) :=
        hpop.clear hr fun _ => rfl
      exact (hclear.due_of_ne (get?_modifyTrans hget _) hr.symm).txRelease hr _ _
  | timeoutDisconnect i rel =>
    refine (h.pop_disconnect hstack).withTrans fun t ht => ?_
    exact (h.pop_disconnect hstack).txDisconnect _ _

theorem init : RefInv r False {} where
  unique _ _ _ _ h := nomatch h
  known h := h.elim
  mentioned := by
    rintro ⟨out, hout, -⟩
    cases hout
  order := Justified.nil
  one := Justified.nil
  about _ h := nomatch h
  second _ _ h := nomatch h
  ended _ _ h := nomatch h

end RefInv

/-! ## Runs -/

namespace CcNet

/-- No final message was sent with the reference. -/
def Open (s : CcNet) (callref : BitVec 32) : Prop := s.outs.all (fun out => !out.isFinal callref) = true

/-- **Who keeps references in order**: the application makes no request for one after its final message, a new call of
    a phone gets one that is not in use, and no paging ends for a transaction that a handler is at work on. -/
def RefsInOrder (s : CcNet) : CcEvent → Prop
  | .rcvCc _ subscr protoDiscr type _ =>
    type ≠ .undefined → (transFindById s.transList subscr .cc (ccTransId protoDiscr)).isNone = true →
      (transFindByCallref s.transList s.newCallref).isNone = true ∧ s.Open s.newCallref
  | .mncc _ data _ => s.Open data.callref
  | .paging i _ => ∀ cont ∈ s.stack, cont.trans ≠ i
  | _ => True

instance (s : CcNet) (callref : BitVec 32) : Decidable (s.Open callref) := inferInstanceAs (Decidable (_ = true))

instance (s : CcNet) (ev : CcEvent) : Decidable (s.RefsInOrder ev) := by
  cases ev with
  | rcvCc conn subscr protoDiscr type cause => exact inferInstanceAs (Decidable (_ → _ → _ ∧ _))
  | mncc type data lookup => exact inferInstanceAs (Decidable (s.Open data.callref))
  | paging i conn => exact inferInstanceAs (Decidable (∀ cont ∈ s.stack, cont.trans ≠ i))
  | _ => exact inferInstanceAs (Decidable True)

theorem not_finalSent_of_open (h : s.Open r) : ¬ s.FinalSent r := by
  rintro ⟨out, hout, hfinal⟩
  have hnot := all_eq_true.mp h out hout
  rw [hfinal] at hnot
  cases hnot

/-- The final messages with the reference. -/
def finals (s : CcNet) (r : BitVec 32) : Nat := s.outs.countP (CcOut.isFinal r)

end CcNet

/-- The references the application introduced by a SETUP request, and those that it ended itself or that were dropped
    with all transactions. -/
structure AppRecord where
  introduced : List (BitVec 32) := []
  closed : List (BitVec 32) := []

def AppRecord.update (a : AppRecord) (s : CcNet) : CcEvent → CcNet → AppRecord
  | .mncc type data _, _ =>
    { introduced := if type = .setupReq then data.callref :: a.introduced else a.introduced
      closed := if s.endsCall type data then data.callref :: a.closed else a.closed }
  | .clearAll i, _ => { a with closed := ((s.transList.get? i).map GsmTrans.callref).toList ++ a.closed }
  | _, _ => a

/-- Call control, with what the application did. -/
def refSystem : System (CcNet × AppRecord) CcEvent := ccSystem.recording {} AppRecord.update

theorem refSystem_init : refSystem.init ({}, {}) := ⟨rfl, rfl⟩

/-! ## The result -/

/-- **A reference has its final message.** Nothing follows it, the messages about a transaction carry one reference,
    which the transaction has until it gives it up; and whenever no handler is at work either a transaction has the
    reference, or the final message was sent, once. -/
structure ReferencePaired (r : BitVec 32) (introduced : Prop) (s : CcNet) : Prop where
  order : NothingAfterFinal r s.outs
  one : OneReference r s.outs
  about : ∀ out ∈ s.outs, ∀ i, out.about? i = some r → ∀ t, s.transList.get? i = some t → t.callref = r ∨ t.callref = 0
  paired : s.stack = [] → introduced ∨ s.Mentioned r → s.Live r ∧ s.finals r = 0 ∨ ¬ s.Live r ∧ s.finals r = 1

theorem ref?_of_isFinal {out : CcOut} (h : out.isFinal r = true) : out.ref? = some r := by
  cases out with
  | mncc src ind data => exact congrArg some (isFinal_mncc.mp h).2
  | _ => cases h

theorem finals_le_one {outs : List CcOut} (h : NothingAfterFinal r outs) : outs.countP (CcOut.isFinal r) ≤ 1 := by
  induction outs using List.reverseRecOn with
  | nil => exact Nat.zero_le 1
  | append_singleton outs out ih =>
    rw [countP_append]
    cases hfinal : out.isFinal r with
    | false => simpa [hfinal] using ih (Justified.of_append h)
    | true =>
      have hbefore : outs.countP (CcOut.isFinal r) = 0 := by
        rw [countP_eq_zero]
        intro b hb
        rw [h outs out [] rfl (ref?_of_isFinal hfinal) b hb]
        exact Bool.false_ne_true
      rw [hbefore]
      simp [hfinal]

theorem finals_pos : 0 < s.finals r ↔ s.FinalSent r := countP_pos_iff

theorem RefInv.paired (h : RefInv r k s) : ReferencePaired r k s where
  order := h.order
  one := h.one
  about out hout i habout := (h.about out hout i habout).2
  paired hstack hk := by
    have hle := finals_le_one h.order
    have hlive : s.Live r → ¬ s.FinalSent r := by
      rintro ⟨i, t, ht, hr⟩
      exact h.silent (not_ending hstack i) t ht hr
    have hsome : s.Live r ∨ s.FinalSent r := hk.elim h.known h.mentioned
    rcases hsome with hl | hf
    · refine .inl ⟨hl, Nat.eq_zero_of_not_pos fun hpos => hlive hl (finals_pos.mp hpos)⟩
    · exact .inr ⟨fun hl => hlive hl hf, Nat.le_antisymm hle (finals_pos.mpr hf)⟩

/-- **One step**, for a reference that the application does not end itself. -/
theorem RefInv.step (h : RefInv r k s) (hr : r ≠ 0) (hconn : ConnInv s) {ev : CcEvent} (horder : s.RefsInOrder ev)
    {a : AppRecord} (hk : k' → k ∨ r ∈ (a.update s ev s').introduced ∧ r ∉ a.introduced)
    (hopen : r ∉ (a.update s ev s').closed) (hstep : s.step ev = some s') : RefInv r k' s' := by
  have hsame : (a.update s ev s').introduced = a.introduced → RefInv r k' s := by
    intro hintroduced
    refine h.introduce fun hk' => h.known ((hk hk').resolve_right ?_)
    rw [hintroduced]
    exact fun hboth => hboth.2 hboth.1
  -- what a request knows of its reference
  have hsilent : ∀ type data lookup, ev = .mncc type data lookup → data.callref = r → ¬ s.FinalSent r := by
    rintro type data lookup rfl rfl
    exact not_finalSent_of_open horder
  have hintro : ∀ type data lookup, ev = .mncc type data lookup → k' → k ∨ type = .setupReq ∧ data.callref = r := by
    rintro type data lookup rfl hk'
    refine (hk hk').imp_right fun hboth => ?_
    obtain ⟨hnew, hold⟩ := hboth
    simp only [AppRecord.update] at hnew
    split at hnew
    · rename_i htype
      exact ⟨htype, ((mem_cons.mp hnew).resolve_right hold).symm⟩
    · exact absurd hnew hold
  have hknown : ∀ type data lookup, ev = .mncc type data lookup → ∀ {i t}, s.transList.get? i = some t →
      t.callref = data.callref → RefInv r k' s := by
    intro type data lookup hev i t hget hcallref
    refine h.introduce fun hk' => ?_
    rcases hintro _ _ _ hev hk' with hk | ⟨-, hdata⟩
    · exact h.known hk
    · exact .inl ⟨i, t, hget, hcallref.trans hdata⟩
  cases step_done hstep with
  | ignored hev =>
    refine hsame ?_
    cases ev with
    | mncc type data lookup =>
      by_cases htype : type = .setupReq
      · exact absurd (congrArg (CcEvent.mncc · data lookup) htype) (hev _ _)
      · simp only [AppRecord.update, if_neg htype]
    | _ => rfl
  | message hstack => exact (hsame rfl).routData hr (h.silent (not_ending hstack _)) _ _
  | @opened conn subscr protoDiscr _ _ hstack htype hfind =>
    have hnew : s.newCallref = r → ¬ s.Live r ∧ ¬ s.FinalSent r := by
      intro hcallref
      obtain ⟨hnone, hopenRef⟩ := horder htype (Option.isNone_iff_eq_none.mpr hfind)
      rw [hcallref] at hnone hopenRef
      refine ⟨?_, not_finalSent_of_open hopenRef⟩
      rintro ⟨i, t, ht, htr⟩
      have hmiss := Pool.find?_eq_none.mp (Option.isNone_iff_eq_none.mp hnone) i t ht
      rw [htr, beq_self_eq_true] at hmiss
      cases hmiss
    have halloc := (hsame rfl).alloc hconn.below
      ⟨.cc, ccTransId protoDiscr, subscr, some conn, s.newCallref, false, {}⟩ rfl hnew (s.newCallref + 1)
    exact halloc.routData hr (silent_of_alloc fun hcallref => (hnew hcallref).2) _ _
  | timeoutRelease hstack hget =>
    exact ((hsame rfl).stopTimer _).timeoutRelease hr (get?_modifyTrans hget _)
      (h.silent (not_ending hstack _) _ hget) _ _
  | timeoutDisconnect hstack hget =>
    exact ((hsame rfl).stopTimer _).timeoutDisconnect (get?_modifyTrans hget _)
      (h.silent (not_ending hstack _) _ hget) _
  | firstT308 hstack hget htimer => exact (hsame rfl).firstT308 hr hget htimer
  | @secondT308 i t hstack hget =>
    refine ((hsame rfl).stopTimer i).transFree hr fun t' ht' hr' => ?_
    cases (get?_modifyTrans hget stopCcTimer).symm.trans ht'
    exact h.silent (not_ending hstack i) t hget hr'
  | refused hnone => exact h.refuse hnone (hsilent _ _ _ rfl) (fun hk' => (hintro _ _ _ rfl hk').imp_right And.right) _
  | setup hnone =>
    exact h.mnccSetup hr hconn hnone (hsilent _ _ _ rfl) (fun hk' => (hintro _ _ _ rfl hk').imp_right And.right) _ _
  | unbound hget hcallref hind =>
    refine (hknown _ _ _ rfl hget hcallref).tell hget hcallref.symm hind (fun j => beq_iff_eq.trans eq_comm)
      fun hr' => ?_
    exact hsilent _ _ _ rfl (hcallref.symm.trans hr')
  | @request type data _ i t hget hcallref hfind hbound =>
    refine (hknown _ _ _ rfl hget hcallref).routDown hr (fun t' ht' => ?_) _ fun t' ht' hreq hrow => ?_
    · cases hget.symm.trans ht'
      exact fun hr' => hsilent _ _ _ rfl (hcallref.symm.trans hr')
    · cases hget.symm.trans ht'
      rintro rfl
      have hends : s.endsCall type data = true := by
        rcases hreq with rfl | rfl
        · simp [endsCall, hfind, hbound, hrow]
        · simp [endsCall, hfind, hbound, hrow]
      refine hopen ?_
      simp only [AppRecord.update, hends, if_true, hcallref]
      exact mem_cons_self
  | returned hstack => exact (hsame rfl).resume hr hstack
  | @paged i conn t hget =>
    have hassign : RefInv r k' (s.modifyTrans i fun t => { t with pagingRequest := false, conn := some conn }) :=
      (hsame rfl).modify i fun t' ht' => ⟨rfl, h.second i t' ht'⟩
    exact hassign.txSetup (get?_modifyTrans hget _) (h.silent (not_ending_of_idle horder) t hget) _
  | expired hget =>
    exact (hsame rfl).tell hget rfl (by decide) (fun j => beq_iff_eq.trans eq_comm)
      (h.silent (not_ending_of_idle horder) _ hget)
  | cleared hstack => exact (hsame rfl).transFree hr (h.silent (not_ending hstack _))
  | clearedAll =>
    refine ((hsame rfl).due fun t ht htr => absurd ?_ hopen).clearAndFree fun _ => rfl
    simp [AppRecord.update, ht, htr]

/-- **Every reference is paired**, in every run in which the references are kept in order, unless the application ended
    its call itself. -/
theorem references_paired (p : CcNet × AppRecord)
    (h : ReachableBy refSystem (fun p ev => p.1.RefsInOrder ev) p) (r : BitVec 32) (hr : r ≠ 0)
    (hopen : r ∉ p.2.closed) : ReferencePaired r (r ∈ p.2.introduced) p.1 := by
  have hinv : ConnInv p.1 ∧ (r ∉ p.2.closed → RefInv r (r ∈ p.2.introduced) p.1) := by
    refine h.invariant (I := fun p => ConnInv p.1 ∧ (r ∉ p.2.closed → RefInv r (r ∈ p.2.introduced) p.1)) ?_ ?_
    · rintro ⟨s, a⟩ ⟨hs, ha⟩
      subst hs ha
      exact ⟨ConnInv.init, fun _ => init.introduce nofun⟩
    · rintro ⟨s, a⟩ ev ⟨s', a'⟩ ⟨hconn, hs⟩ horder ⟨hstep, ha'⟩
      obtain rfl : a' = a.update s ev s' := ha'
      refine ⟨hconn.step hstep, fun hopen' => ?_⟩
      have hopen : r ∉ a.closed := by
        intro hmem
        refine hopen' ?_
        cases ev with
        | mncc type data lookup =>
          simp only [AppRecord.update]
          split
          · exact mem_cons_of_mem _ hmem
          · exact hmem
        | clearAll i => exact mem_append_right _ hmem
        | _ => exact hmem
      refine (hs hopen).step hr hconn horder (fun hk => ?_) hopen' hstep
      by_cases hmem : r ∈ a.introduced
      · exact .inl hmem
      · exact .inr ⟨hk, hmem⟩
  exact (hinv.2 hopen).paired

/-- A call that the phone begins, the application accepts and the phone releases; and one that paging does not find. -/
def releasedByPhone : List CcEvent :=
  [.rcvCc 0 7 0x03 .setup none, .mncc .setupRsp { callref := 0x80000001 } {}, .rcvCc 0 7 0x03 .connectAck none,
    .mncc .setupReq { callref := 5 } { subscr := some 8 }, .rcvCc 0 7 0x03 .release none, .ret, .paging 1 none, .ret]

theorem references_paired_released :
    ∃ p, guardedRun (recorded step AppRecord.update) (fun p ev => p.1.RefsInOrder ev) ({}, {}) releasedByPhone =
        some p ∧
      ReferencePaired 5 (5 ∈ p.2.introduced) p.1 := by
  obtain ⟨p, hp, hopen⟩ : ∃ p ∈ guardedRun (recorded step AppRecord.update) (fun p ev => p.1.RefsInOrder ev)
      ({}, {}) releasedByPhone, 5 ∉ p.2.closed := by
    decide +kernel
  have hreach : ReachableBy refSystem (fun p ev => p.1.RefsInOrder ev) p :=
    ReachableBy.guardedRun (step_recorded fun _ _ _ h => h) (.init refSystem_init) hp
  exact ⟨p, hp, references_paired p hreach 5 (by decide) hopen⟩

/-- The application rejects a call. -/
def rejectedByApplication : List CcEvent := [.rcvCc 0 7 0x03 .setup none, .mncc .rejReq { callref := 0x80000001 } {}]

/-- No final message is sent for it. -/
theorem no_final_after_reject :
    ∃ p, ReachableBy refSystem (fun p ev => p.1.RefsInOrder ev) p ∧ p.1.stack = [] ∧ p.1.Mentioned 0x80000001 ∧
      (∀ i, p.1.transList.get? i = none) ∧ p.1.finals 0x80000001 = 0 := by
  obtain ⟨p, hp, hstack, hmentioned, hnone, hfinals⟩ : ∃ p ∈ guardedRun (recorded step AppRecord.update)
      (fun p ev => p.1.RefsInOrder ev) ({}, {}) rejectedByApplication, p.1.stack = [] ∧
        (∃ out ∈ p.1.outs, out.ref? = some 0x80000001) ∧ p.1.transList.entries = [] ∧ p.1.finals 0x80000001 = 0 := by
    decide +kernel
  refine ⟨p, ReachableBy.guardedRun (step_recorded fun _ _ _ h => h) (.init refSystem_init) hp, hstack, hmentioned, ?_,
    hfinals⟩
  intro i
  rw [Option.eq_none_iff_forall_not_mem]
  intro t ht
  have hmem := Pool.get?_eq_some.mp ht
  rw [hnone] at hmem
  cases hmem

end OpenBsc.Libmsc
