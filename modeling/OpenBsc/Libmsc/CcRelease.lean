import OpenBsc.Libmsc.CcSteps

/-!
# `Libmsc.CcRelease` — the release of a call

Once the network has sent a RELEASE, the call stays in the state RELEASE_REQ until it is gone, T308 is running, and no
DISCONNECT follows (`release_monotonic`).

The handler of an expired timer tells the application of the disconnection before it sends the DISCONNECT. An
application that answers with a release at once, as the built-in one does, gets both (`disconnect_after_release`).
-/

namespace OpenBsc.Libmsc

open Transition CcNet Pool List Option

/-! ## What was sent -/

/-- A RELEASE for the transaction. -/
def CcOut.isRelease (i : Nat) : CcOut → Bool
  | .dtap _ j _ .release _ => i == j
  | _ => false

/-- A DISCONNECT for the transaction. -/
def CcOut.isDisconnect (i : Nat) : CcOut → Bool
  | .dtap _ j _ .disconnect _ => i == j
  | _ => false

/-- The network has sent a RELEASE for the transaction. -/
def CcNet.Released (s : CcNet) (i : Nat) : Prop := ∃ out ∈ s.outs, out.isRelease i = true

/-- No DISCONNECT of a transaction comes after its RELEASE. -/
def DisconnectBeforeRelease (outs : List CcOut) : Prop :=
  outs.Pairwise fun a b => ∀ i, a.isRelease i = true → b.isDisconnect i = false

/-- The DISCONNECT of the transaction is still to be sent. -/
def Cont.disconnects (i : Nat) : Cont → Bool
  | .timeoutDisconnect j _ => j == i
  | _ => false

/-- **The condition.** The application releases a call from inside the indication that its timer has expired, before
    the handler of the timer has sent the DISCONNECT. -/
def CcNet.releasesInsideDisc (s : CcNet) : CcEvent → Bool
  | .mncc .relReq data _ =>
    (transFindByCallref s.transList data.callref).any fun found => s.stack.any fun cont => cont.disconnects found.1
  | _ => false

/-! ## The invariant -/

/-- **A call that was released stays so.** -/
structure RelInv (s : CcNet) : Prop where
  state : ∀ i t, s.transList.get? i = some t → s.Released i → t.body.state = .releaseReq ∧ t.callref = 0
  timer : ∀ i t, s.transList.get? i = some t → s.Released i →
    t.body.timer = some .t308 ∨ t.body.timer = none ∧ .rxRelease i ∈ s.stack
  entered : ∀ i t, s.transList.get? i = some t → t.body.state = .releaseReq → s.Released i
  pending : ∀ cont ∈ s.stack, ∀ i, cont.disconnects i = true → ¬ s.Released i
  known : ∀ i, s.Released i → i < s.transList.next
  order : DisconnectBeforeRelease s.outs

variable {s s' : CcNet} {i : Nat} {t : CcTrans} {req : Option MnccReq}

theorem released_emit {out : CcOut} : (s.emit out).Released i ↔ s.Released i ∨ out.isRelease i = true := by
  unfold CcNet.Released emit
  simp [or_and_right, exists_or]

theorem order_emit {outs : List CcOut} {out : CcOut} (h : DisconnectBeforeRelease outs)
    (hout : ∀ i, out.isDisconnect i = true → ∀ a ∈ outs, a.isRelease i = false) :
    DisconnectBeforeRelease (outs ++ [out]) := by
  refine pairwise_append.mpr ⟨h, pairwise_singleton _ _, ?_⟩
  intro a ha b hb i hrelease
  obtain rfl := mem_singleton.mp hb
  by_contra hdisconnect
  rw [Bool.not_eq_false] at hdisconnect
  rw [hout i hdisconnect a ha] at hrelease
  cases hrelease

namespace RelInv

open CcNet (get?_modifyTrans)

theorem emit (h : RelInv s) {o : CcOut} (hrelease : ∀ i, o.isRelease i = false)
    (hdisconnect : ∀ i, o.isDisconnect i = true → ¬ s.Released i) : RelInv (s.emit o) := by
  have hsame : ∀ i, (s.emit o).Released i → s.Released i := by
    intro i hi
    obtain hi | hi := released_emit.mp hi
    · exact hi
    · rw [hrelease i] at hi
      cases hi
  refine ⟨fun i t ht hi => h.state i t ht (hsame i hi), fun i t ht hi => h.timer i t ht (hsame i hi),
    fun i t ht hst => released_emit.mpr (.inl (h.entered i t ht hst)),
    fun cont hcont i hd hi => h.pending cont hcont i hd (hsame i hi), fun i hi => h.known i (hsame i hi), ?_⟩
  refine order_emit h.order fun i hi a ha => ?_
  by_contra hrel
  rw [Bool.not_eq_false] at hrel
  exact hdisconnect i hi ⟨a, ha, hrel⟩

theorem emit_quiet (h : RelInv s) {out : CcOut} (hout : QuietOut i t out) : RelInv (s.emit out) := by
  cases hout with
  | @dtap type cause htype =>
    refine h.emit (fun j => ?_) fun j hj => ?_
    · cases type with
      | release => exact absurd rfl htype.1
      | _ => rfl
    · cases type with
      | disconnect => exact absurd rfl htype.2
      | _ => cases hj
  | mncc | assignReq => exact h.emit (fun _ => rfl) nofun

theorem fault (h : RelInv s) : RelInv { s with fault := true } :=
  ⟨h.state, h.timer, h.entered, h.pending, h.known, h.order⟩

variable {f : CcTrans → CcTrans}

section

variable (h : RelInv s)

include h

/-- A transaction changes. -/
theorem modify (i : Nat)
    (hreleased : ∀ t, s.transList.get? i = some t → s.Released i →
      ((f t).body.state = .releaseReq ∧ (f t).callref = 0) ∧
        ((f t).body.timer = some .t308 ∨ (f t).body.timer = none ∧ .rxRelease i ∈ s.stack))
    (hnot : ∀ t, s.transList.get? i = some t → ¬ s.Released i → (f t).body.state ≠ .releaseReq) :
    RelInv (s.modifyTrans i f) := by
  have hlook : ∀ j t', (s.modifyTrans i f).transList.get? j = some t' →
      (j = i ∧ ∃ t, s.transList.get? i = some t ∧ t' = f t) ∨ s.transList.get? j = some t' := by
    intro j t' hj
    change (s.transList.modify i f).get? j = some t' at hj
    rw [get?_modify] at hj
    split at hj
    · rename_i hji
      obtain ⟨t, ht, rfl⟩ := map_eq_some_iff.mp hj
      exact .inl ⟨hji, t, hji ▸ ht, rfl⟩
    · exact .inr hj
  refine ⟨?_, ?_, ?_, h.pending, h.known, h.order⟩
  · intro j t' hj hrel
    obtain ⟨rfl, t, ht, rfl⟩ | hj := hlook j t' hj
    · exact (hreleased t ht hrel).1
    · exact h.state j t' hj hrel
  · intro j t' hj hrel
    obtain ⟨rfl, t, ht, rfl⟩ | hj := hlook j t' hj
    · exact (hreleased t ht hrel).2
    · exact h.timer j t' hj hrel
  · intro j t' hj hst
    obtain ⟨rfl, t, ht, rfl⟩ | hj := hlook j t' hj
    · by_contra hrel
      exact hnot t ht hrel hst
    · exact h.entered j t' hj hst

theorem modify_of_not (hrel : ¬ s.Released i)
    (hf : ∀ t, s.transList.get? i = some t → (f t).body.state ≠ .releaseReq) : RelInv (s.modifyTrans i f) :=
  h.modify i (fun _ _ hi => absurd hi hrel) fun t ht _ => hf t ht

theorem push {cont : Cont} (hcont : ∀ i, cont.disconnects i = true → ¬ s.Released i) :
    RelInv { s with stack := cont :: s.stack } where
  state := h.state
  timer i t ht hi := (h.timer i t ht hi).imp_right fun hnone => ⟨hnone.1, mem_cons_of_mem _ hnone.2⟩
  entered := h.entered
  pending := by
    rintro c (_ | ⟨_, hc⟩)
    · exact hcont
    · exact h.pending c hc
  known := h.known
  order := h.order

theorem upcall (ind : MnccInd) (data : GsmMncc) {c : Cont}
    (hcont : ∀ i, c.disconnects i = true → ¬ s.Released i) : RelInv (s.upcall i ind data c) := by
  have hemit : RelInv (s.emit (.mncc (some i) ind data)) := h.emit (fun _ => rfl) nofun
  refine hemit.push fun j hj hrel => ?_
  obtain hrel | hrel := released_emit.mp hrel
  · exact hcont j hj hrel
  · cases hrel

theorem remove (i : Nat) : RelInv { s with transList := s.transList.remove i } := by
  have hlook : ∀ j t, (s.transList.remove i).get? j = some t → s.transList.get? j = some t := by
    intro j t hj
    rw [get?_remove] at hj
    split at hj
    · cases hj
    · exact hj
  exact ⟨fun j t hj => h.state j t (hlook j t hj), fun j t hj => h.timer j t (hlook j t hj),
    fun j t hj => h.entered j t (hlook j t hj), h.pending, h.known, h.order⟩

theorem alloc {t : CcTrans} (ht : t.body.state ≠ .releaseReq) (newCallref : BitVec 32) :
    RelInv { s with transList := s.transList.alloc t, newCallref := newCallref } := by
  have hlook : ∀ j t', (s.transList.alloc t).get? j = some t' →
      (j = s.transList.next ∧ t' = t) ∨ s.transList.get? j = some t' := by
    intro j t' hj
    rw [get?_alloc] at hj
    split at hj
    · exact .inl ⟨‹_›, (Option.some.inj hj).symm⟩
    · exact .inr hj
  refine ⟨?_, ?_, ?_, h.pending, fun j hj => Nat.lt_succ_of_lt (h.known j hj), h.order⟩
  · intro j t' hj hrel
    obtain ⟨rfl, rfl⟩ | hj := hlook j t' hj
    · exact absurd (h.known _ hrel) (Nat.lt_irrefl _)
    · exact h.state j t' hj hrel
  · intro j t' hj hrel
    obtain ⟨rfl, rfl⟩ | hj := hlook j t' hj
    · exact absurd (h.known _ hrel) (Nat.lt_irrefl _)
    · exact h.timer j t' hj hrel
  · intro j t' hj hst
    obtain ⟨rfl, rfl⟩ | hj := hlook j t' hj
    · exact absurd hst ht
    · exact h.entered j t' hj hst

theorem alloc_null {t : CcTrans} (ht : t.body.state = .null) (newCallref : BitVec 32) :
    RelInv { s with transList := s.transList.alloc t, newCallref := newCallref } :=
  h.alloc (by rw [ht]; decide) newCallref

/-- The application returns to a handler that has nothing more to do with a release. -/
theorem pop {cont : Cont} {stack : List Cont} (hstack : s.stack = cont :: stack)
    (hcont : ∀ i, cont = .rxRelease i → s.transList.get? i = none) : RelInv { s with stack := stack } where
  state := h.state
  timer := by
    intro i t ht hi
    refine (h.timer i t ht hi).imp_right fun ⟨hnone, hmem⟩ => ⟨hnone, ?_⟩
    rw [hstack] at hmem
    obtain heq | hmem := mem_cons.mp hmem
    · rw [hcont i heq.symm] at ht
      cases ht
    · exact hmem
  entered := h.entered
  pending c hc := h.pending c (hstack ▸ mem_cons_of_mem _ hc)
  known := h.known
  order := h.order

end

/-! ### Kept by every function -/

section

variable (h : RelInv s)

include h

theorem withTrans {f : CcTrans → CcNet} (hf : ∀ t, s.transList.get? i = some t → RelInv (f t)) :
    RelInv (s.withTrans i f) := by
  unfold CcNet.withTrans
  cases hget : s.transList.get? i with
  | none => exact h.fault
  | some t => exact hf t hget

theorem not_released_of_state (hget : s.transList.get? i = some t)
    (hst : t.body.state ≠ .releaseReq) : ¬ s.Released i :=
  fun hi => hst (h.state i t hget hi).1

theorem not_released_of_callref (hget : s.transList.get? i = some t) (hcallref : t.callref ≠ 0) :
    ¬ s.Released i :=
  fun hi => hcallref (h.state i t hget hi).2

theorem state_of_not (hrel : ¬ s.Released i) (hget : s.transList.get? i = some t) :
    t.body.state ≠ .releaseReq :=
  fun hst => hrel (h.entered i t hget hst)

theorem stopTimer (hrel : ¬ s.Released i) : RelInv (s.modifyTrans i stopCcTimer) :=
  h.modify_of_not hrel fun t ht => h.state_of_not (t := t) hrel ht

theorem transFreeEnd (i : Nat) : RelInv (s.transFreeEnd i) := by
  refine h.withTrans fun t _ => ?_
  simp only
  split
  · exact (h.remove i).emit (fun _ => rfl) nofun
  · exact h.remove i

theorem transFree (i : Nat) : RelInv (s.transFree i) := by
  cases hget : s.transList.get? i with
  | none =>
    unfold CcNet.transFree CcNet.withTrans
    rw [hget]
    exact h.fault
  | some t =>
    by_cases hcallref : t.callref = 0
    · rw [transFree_of_callref_zero hget hcallref]
      exact h.transFreeEnd i
    · have hrel := h.not_released_of_callref hget hcallref
      unfold CcNet.transFree
      rw [withTrans_some hget]
      simp only [hcallref, ne_eq, not_false_eq_true, if_true]
      exact (h.stopTimer hrel).upcall _ _ nofun

theorem stop_transFree (hget : s.transList.get? i = some t) :
    RelInv ((s.modifyTrans i stopCcTimer).transFree i) := by
  by_cases hcallref : t.callref = 0
  · rw [transFree_of_callref_zero (get?_modifyTrans hget _) hcallref, transFreeEnd_modifyTrans hget rfl]
    exact h.transFreeEnd i
  · exact (h.stopTimer (h.not_released_of_callref hget hcallref)).transFree i

theorem clearAndFree (i : Nat) (hf : ∀ t, (f t).conn = t.conn) : RelInv (s.clearAndFree i f) := by
  cases hget : s.transList.get? i with
  | none =>
    unfold CcNet.clearAndFree CcNet.withTrans
    rw [hget]
    exact h.fault
  | some t =>
    rw [clearAndFree_eq hget (hf t)]
    exact h.transFreeEnd i

/-- **The network releases the call**, and no DISCONNECT is still to be sent. -/
theorem txRelease (hget : (s.transList.get? i).isSome = true)
    (hpending : ∀ cont ∈ s.stack, cont.disconnects i = false) (t : CcTrans) (rel : GsmMncc) :
    RelInv (gsm48CcTxRelease s i t rel) := by
  obtain ⟨t', ht'⟩ := isSome_iff_exists.mp hget
  have hreleased : ∀ j, (gsm48CcTxRelease s i t rel).Released j ↔ s.Released j ∨ j = i := by
    intro j
    refine released_emit.trans ?_
    simp [CcOut.isRelease, CcNet.Released, modifyTrans]
  have hlook : ∀ j t'', (gsm48CcTxRelease s i t rel).transList.get? j = some t'' →
      (j = i ∧ t''.body.state = .releaseReq ∧ t''.callref = 0 ∧ t''.body.timer = some .t308) ∨
        j ≠ i ∧ s.transList.get? j = some t'' := by
    intro j t'' hj
    change (s.transList.modify i _).get? j = some t'' at hj
    by_cases hji : j = i
    · subst hji
      rw [get?_modify_self ht'] at hj
      cases hj
      exact .inl ⟨rfl, rfl, rfl, rfl⟩
    · rw [get?_modify_ne hji] at hj
      exact .inr ⟨hji, hj⟩
  refine ⟨?_, ?_, ?_, ?_, ?_, ?_⟩
  · intro j t'' hj hrel
    obtain ⟨-, hst, hcallref, -⟩ | ⟨hji, hj⟩ := hlook j t'' hj
    · exact ⟨hst, hcallref⟩
    · exact h.state j t'' hj (((hreleased j).mp hrel).resolve_right hji)
  · intro j t'' hj hrel
    obtain ⟨-, -, -, htimer⟩ | ⟨hji, hj⟩ := hlook j t'' hj
    · exact .inl htimer
    · exact h.timer j t'' hj (((hreleased j).mp hrel).resolve_right hji)
  · intro j t'' hj hst
    obtain ⟨hji, -⟩ | ⟨-, hj⟩ := hlook j t'' hj
    · exact (hreleased j).mpr (.inr hji)
    · exact (hreleased j).mpr (.inl (h.entered j t'' hj hst))
  · intro cont hcont j hj hrel
    obtain hrel | rfl := (hreleased j).mp hrel
    · exact h.pending cont hcont j hj hrel
    · rw [hpending cont hcont] at hj
      cases hj
  · intro j hrel
    obtain hrel | rfl := (hreleased j).mp hrel
    · exact h.known j hrel
    · exact get?_lt (p := s.transList) ht'
  · exact order_emit h.order nofun

end

theorem txRelease_stopTimer (s : CcNet) (i : Nat) (t : CcTrans) (rel : GsmMncc) :
    gsm48CcTxRelease (s.modifyTrans i stopCcTimer) i t rel = gsm48CcTxRelease s i t rel := by
  unfold gsm48CcTxRelease modifyTrans
  simp only [modify_modify]
  rfl

theorem txRelease_clearCallref (s : CcNet) (i : Nat) (t : CcTrans) (rel : GsmMncc) :
    gsm48CcTxRelease (s.modifyTrans i fun t => { t with callref := 0 }) i t rel = gsm48CcTxRelease s i t rel := by
  unfold gsm48CcTxRelease modifyTrans
  simp only [modify_modify]

section

variable (h : RelInv s)

include h

theorem txDisconnect (hrel : ¬ s.Released i) (t : CcTrans) (data : GsmMncc) :
    RelInv (gsm48CcTxDisconnect s i t data) := by
  have hmod : RelInv (s.modifyTrans i fun t => { t with
      body := { t.body with state := .disconnectInd, timer := some .t306, msg := data } }) :=
    h.modify_of_not hrel fun _ _ => nofun
  refine hmod.emit (fun _ => rfl) fun j hj => ?_
  obtain rfl : j = i := by simpa [CcOut.isDisconnect] using hj
  exact hrel

theorem txSetup (hget : s.transList.get? i = some t) (hst : t.body.state = .null) (t' : CcTrans)
    (data : GsmMncc) : RelInv (gsm48CcTxSetup s i t' data) := by
  have hrel : ¬ s.Released i := h.not_released_of_state hget (by rw [hst]; decide)
  unfold gsm48CcTxSetup
  simp only
  split
  · exact h.upcall _ _ nofun
  · cases transAssignTransId s.transList t'.subscr .cc 0 with
    | none => exact h.upcall _ _ nofun
    | some j =>
      have hmod : RelInv (s.modifyTrans i fun t =>
          { t with transactionId := j, body := t.body.to .callPresent (some .t303) }) :=
        h.modify_of_not hrel fun _ _ => nofun
      exact hmod.emit (fun _ => rfl) nofun

theorem rout (hget : s.transList.get? i = some t)
    (hpending : req = some .relReq → ∀ cont ∈ s.stack, cont.disconnects i = false)
    (heffect : RoutEffect req s i t s') : RelInv s' := by
  cases heffect with
  | keep hout => exact h.emit_quiet hout
  | move hold hnew hguarded _ hout =>
    refine (h.modify_of_not (h.not_released_of_state hget hold) fun t' ht' => ?_).emit_quiet hout
    cases hget.symm.trans ht'
    exact hnew.2
  | setup hreq hstate => exact h.txSetup hget hstate _ _
  | disconnect hreq hstate => exact h.txDisconnect (h.not_released_of_state hget hstate.2) _ _
  | release hreq hstate =>
    refine h.txRelease ?_ (hpending hreq) _ _
    rw [hget]
    rfl
  | releaseCompl hreq hstate =>
    have hrel : ¬ s.Released i := h.not_released_of_state hget (by rw [hstate]; decide)
    have hmod : RelInv (s.modifyTrans i fun t => { t with callref := 0, body := { t.body with timer := none } }) :=
      h.modify_of_not hrel fun t ht => h.state_of_not (t := t) hrel ht
    exact (hmod.emit (o := .dtap t.conn i t.transactionId .releaseCompl _) (fun _ => rfl) nofun).transFree i
  | @rxRelease cause hreq hstate =>
    unfold gsm48CcRxRelease
    simp only
    split
    · -- the timer of a call in RELEASE_REQ is stopped while the application is told of its end
      have hup := h.upcall (i := i) .relCnf { callref := t.callref, cause := cause } (c := .rxRelease i) nofun
      refine hup.modify i (fun t' ht' hrel => ?_) fun t' ht' hrel => ?_
      · exact ⟨hup.state i t' ht' hrel, .inr ⟨rfl, mem_cons_self⟩⟩
      · exact fun hst => hrel (hup.entered i t' ht' hst)
    · rename_i hst
      have hrel := h.not_released_of_state hget hst
      have hsend :=
        (h.stopTimer hrel).emit (o := .dtap t.conn i t.transactionId .releaseCompl none) (fun _ => rfl) nofun
      exact hsend.upcall _ _ nofun
  | rxReleaseCompl hreq =>
    unfold gsm48CcRxReleaseCompl
    simp only
    split
    · rename_i hcallref
      exact (h.stopTimer (h.not_released_of_callref hget hcallref)).upcall _ _ nofun
    · rw [clearAndFree_eq (get?_modifyTrans hget _) rfl, transFreeEnd_modifyTrans hget rfl]
      exact h.transFreeEnd i

theorem routDown (type : MnccReq) (data : GsmMncc)
    (hpending : type = .relReq → ∀ cont ∈ s.stack, cont.disconnects i = false) : RelInv (s.routDown i type data) := by
  refine h.withTrans fun t ht => ?_
  cases hrow : txRow t type with
  | none => exact h
  | some row => exact h.rout ht (fun hreq => hpending (Option.some.inj hreq)) (txRow_effect hrow data)

theorem routData (type : CcMsg) (cause : Option MnccCause) : RelInv (s.routData i type cause) := by
  refine h.withTrans fun t ht => ?_
  cases hrow : rxRow t type with
  | none => exact h
  | some row =>
    have heffect := rxRow_effect (s := s) (i := i) hrow cause
    refine h.rout ht ?_ heffect
    nofun

theorem mnccSetup (subscr : Nat) (conn : Option Nat) (data : GsmMncc) :
    RelInv (s.mnccSetup subscr conn data) := by
  unfold CcNet.mnccSetup
  cases conn with
  | some conn => exact (h.alloc_null rfl _).routDown _ _ nofun
  | none =>
    simp only
    split
    · exact (h.alloc_null rfl _).transFree _
    · exact (h.alloc_null rfl _).emit (fun _ => rfl) nofun

theorem not_released_of_timer (hget : s.transList.get? i = some t) {timer : CcTimer}
    (htimer : t.body.timer = some timer) (hne : timer ≠ .t308) : ¬ s.Released i := by
  intro hrel
  obtain hst | ⟨hnone, -⟩ := h.timer i t hget hrel
  · rw [htimer] at hst
    exact hne (Option.some.inj hst)
  · rw [htimer] at hnone
    cases hnone

theorem timeoutRelease (hget : s.transList.get? i = some t) (hstack : s.stack = [])
    (hrel : ¬ s.Released i) (t' : CcTrans) (l4 mo : MnccCause) :
    RelInv ((s.modifyTrans i stopCcTimer).timeoutRelease i t' l4 mo) := by
  have hstop := h.stopTimer hrel
  unfold CcNet.timeoutRelease
  simp only
  split
  · exact hstop.upcall _ _ nofun
  · refine hstop.txRelease ?_ ?_ _ _
    · rw [get?_modifyTrans hget]
      rfl
    · intro cont hcont
      change cont ∈ s.stack at hcont
      rw [hstack] at hcont
      cases hcont

theorem timeoutDisconnect (hrel : ¬ s.Released i) (t' : CcTrans) (l4 : MnccCause) :
    RelInv ((s.modifyTrans i stopCcTimer).timeoutDisconnect i t' l4) := by
  have hstop := h.stopTimer hrel
  unfold CcNet.timeoutDisconnect
  simp only
  split
  · refine hstop.upcall _ _ fun j hj => ?_
    obtain rfl : i = j := by simpa [Cont.disconnects] using hj
    exact hrel
  · exact hstop.txDisconnect hrel _ _

/-- The application returns to the handler it was called from. -/
theorem resume (hconn : ConnInv s) {cont : Cont} {stack : List Cont} (hstack : s.stack = cont :: stack) :
    RelInv ({ s with stack := stack }.resume cont) := by
  cases cont with
  | transFree i => exact (h.pop hstack nofun).transFreeEnd i
  | clearCallref i => exact (h.pop hstack nofun).clearAndFree i fun _ => rfl
  | pagingExpired i => exact (h.pop hstack nofun).clearAndFree i fun _ => rfl
  | rxRelease i =>
    cases hget : s.transList.get? i with
    | none =>
      have hpop := h.pop hstack (by rintro j ⟨⟩; exact hget)
      exact hpop.clearAndFree i fun _ => rfl
    | some t =>
      -- the transaction is gone when the handler has come to its end
      have hremove : RelInv { s with transList := s.transList.remove i, stack := stack } := (h.remove i).pop hstack (by
        rintro j ⟨⟩
        rw [get?_remove, if_pos rfl])
      show RelInv (CcNet.clearAndFree { s with stack := stack } i _)
      rw [CcNet.clearAndFree_eq (s := { s with stack := stack }) hget rfl]
      unfold CcNet.transFreeEnd
      rw [CcNet.withTrans_some (s := { s with stack := stack }) hget]
      simp only
      split
      · exact hremove.emit (fun _ => rfl) nofun
      · exact hremove
  | timeoutRelease i rel =>
    have hrest := hconn.rest_of_timeout hstack rfl
    have hpop := h.pop hstack nofun
    refine hpop.withTrans fun t hget => ?_
    have hrelease := hpop.txRelease (i := i) (by rw [hget]; rfl) (by rw [hrest]; nofun) { t with callref := 0 } rel
    rw [← txRelease_clearCallref] at hrelease
    exact hrelease
  | timeoutDisconnect i rel =>
    have hrel : ¬ s.Released i :=
      h.pending (.timeoutDisconnect i rel) (hstack ▸ mem_cons_self) i (beq_self_eq_true i)
    have hpop := h.pop hstack nofun
    exact hpop.withTrans fun t hget => hpop.txDisconnect hrel t rel

/-- A step keeps the invariant, unless it releases a call inside its disconnection. -/
theorem step (hconn : ConnInv s) {ev : CcEvent} (hnot : s.releasesInsideDisc ev = false)
    (hstep : s.step ev = some s') : RelInv s' := by
  cases step_done hstep with
  | ignored => exact h
  | message => exact h.routData _ _
  | opened => exact (h.alloc_null rfl _).routData _ _
  | timeoutRelease hstack hget htimer hne =>
    exact h.timeoutRelease hget hstack (h.not_released_of_timer hget htimer hne) _ _ _
  | timeoutDisconnect hstack hget htimer hne => exact h.timeoutDisconnect (h.not_released_of_timer hget htimer hne) _ _
  | @firstT308 i t hstack hget htimer =>
    have hrelease := h.txRelease (i := i) (by rw [hget]; rfl) (by rw [hstack]; nofun) t t.body.msg
    rw [← txRelease_stopTimer] at hrelease
    refine hrelease.modify i (fun t' ht' hrel => ?_) fun t' ht' hrel => ?_
    · exact ⟨hrelease.state i t' ht' hrel, hrelease.timer i t' ht' hrel⟩
    · exact fun hst => hrel (hrelease.entered i t' ht' hst)
  | secondT308 hstack hget htimer => exact h.stop_transFree hget
  | refused => exact h.emit (fun _ => rfl) nofun
  | setup => exact h.mnccSetup _ _ _
  | unbound => exact h.upcall _ _ nofun
  | request hget hcallref hfind hbound =>
    refine h.routDown _ _ ?_
    rintro rfl cont hcont
    simp only [releasesInsideDisc, hfind, any_some] at hnot
    simpa using any_eq_false.mp hnot cont hcont
  | returned hstack => exact h.resume hconn hstack
  | @paged i conn t hget hnone =>
    have hst := (hconn.bound i t hget hnone).1
    have hrel : ¬ s.Released i := h.not_released_of_state hget (by rw [hst]; decide)
    have hassign : RelInv (s.modifyTrans i fun t => { t with pagingRequest := false, conn := some conn }) :=
      h.modify_of_not hrel fun t' ht' => h.state_of_not (t := t') hrel ht'
    exact hassign.txSetup (get?_modifyTrans hget _) hst _ _
  | expired => exact h.upcall _ _ nofun
  | cleared => exact h.transFree _
  | clearedAll => exact h.clearAndFree _ fun _ => rfl

end

theorem init : RelInv {} where
  state _ _ h := nomatch h
  timer _ _ h := nomatch h
  entered _ _ h := nomatch h
  pending _ h := nomatch h
  known := by
    rintro i ⟨out, hout, -⟩
    cases hout
  order := List.Pairwise.nil

end RelInv

/-! ## The result -/

/-- **The release is monotonic.** A call is in the state RELEASE_REQ only after its RELEASE was sent, and then in no
    state but this one or NULL; no DISCONNECT follows a RELEASE; and T308 is running for it, unless the application is
    being told that the phone has released the call, which is freed then. -/
structure ReleaseMonotonic (s : CcNet) : Prop where
  entered : ∀ i t, s.transList.get? i = some t → t.body.state = .releaseReq → s.Released i
  stays : ∀ i t, s.transList.get? i = some t → s.Released i → t.body.state = .releaseReq ∨ t.body.state = .null
  order : DisconnectBeforeRelease s.outs
  armed : ∀ i t, s.transList.get? i = some t → t.body.state = .releaseReq →
    t.body.timer = some .t308 ∨ t.body.timer = none ∧ .rxRelease i ∈ s.stack

/-- **In every run in which no call is released inside the indication that its timer has expired, the release is
    monotonic.** -/
theorem release_monotonic (s : CcNet)
    (h : ReachableBy ccSystem (fun s ev => s.releasesInsideDisc ev = false) s) : ReleaseMonotonic s := by
  have hinv : RelInv s := by
    refine h.invariant_of (J := ConnInv) (fun s hs => connInv_of_reachableBy hs) ?_ ?_
    · rintro s rfl
      exact RelInv.init
    · intro s ev s' hconn hs hnot hstep
      exact hs.step hconn hnot hstep
  refine ⟨hinv.entered, fun i t ht hi => .inl (hinv.state i t ht hi).1, hinv.order, fun i t ht hst => ?_⟩
  exact hinv.timer i t ht (hinv.entered i t ht hst)

/-- A phone sets up a call, which the application accepts, but the phone does not acknowledge; then both sides release
    the call. -/
def unacknowledged : List CcEvent :=
  [.rcvCc 0 7 0x03 .setup none, .mncc .setupRsp { callref := 0x80000001 } {}, .timeout 0, .ret,
    .mncc .relReq { callref := 0x80000001 } {}]

theorem release_monotonic_unacknowledged :
    ∃ s, guardedRun step (fun s ev => s.releasesInsideDisc ev = false) {} unacknowledged = some s ∧
      ReleaseMonotonic s := by
  obtain ⟨s, hs⟩ : ∃ s, guardedRun step (fun s ev => s.releasesInsideDisc ev = false) {} unacknowledged = some s :=
    isSome_iff_exists.mp (by decide +kernel)
  exact ⟨s, hs, release_monotonic s (ReachableBy.guardedRun (fun _ _ _ h => h) (.init rfl) hs)⟩

/-- The application releases the call as soon as it hears that the timer has expired. -/
def releasedAtOnce : List CcEvent :=
  [.rcvCc 0 7 0x03 .setup none, .mncc .setupRsp { callref := 0x80000001 } {}, .timeout 0,
    .mncc .relReq { callref := 0x80000001 } {}, .ret]

/-- The call leaves RELEASE_REQ, and a DISCONNECT follows the RELEASE. -/
theorem disconnect_after_release :
    ∃ s, Reachable ccSystem s ∧ s.Released 0 ∧ (∃ t ∈ s.transList.get? 0, t.body.state = .disconnectInd) ∧
      ¬ DisconnectBeforeRelease s.outs := by
  obtain ⟨s, hs, hreleased, hstate, houts⟩ : ∃ s ∈ guardedRun step (fun _ _ => True) {} releasedAtOnce,
      (∃ out ∈ s.outs, out.isRelease 0 = true) ∧ (∃ t ∈ s.transList.get? 0, t.body.state = .disconnectInd) ∧
      (s.outs.map fun out => (out.isRelease 0, out.isDisconnect 0)) =
        [(false, false), (false, false), (false, false), (true, false), (false, true)] := by
    decide +kernel
  refine ⟨s, ReachableBy.guardedRun (fun _ _ _ h => h) (.init rfl) hs, hreleased, hstate, fun horder => ?_⟩
  have hpairs : (s.outs.map fun out => (out.isRelease 0, out.isDisconnect 0)).Pairwise
      fun a b => a.1 = true → b.2 = false :=
    pairwise_map.mpr (horder.imp fun h => h 0)
  rw [houts] at hpairs
  revert hpairs
  decide

end OpenBsc.Libmsc
