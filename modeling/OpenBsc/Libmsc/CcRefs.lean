import OpenBsc.Lib.Log
import OpenBsc.Libmsc.CcSteps

/-!
# `Libmsc.CcRefs` — call references

The reference of a transaction says that the application is still interested in the call. A handler that ends a call
tells the application, and clears the reference when the application has returned: a transaction with a reference is
one for which no final message was sent, unless a handler is about to end it (`RefInv`).
-/

namespace OpenBsc.Libmsc

open Transition Log Pool Justified CcOut List

/-! ## Messages -/

/-- The reference in a message to the application. -/
def CcOut.ref? : CcOut → Option (BitVec 32)
  | .mncc _ _ data => some data.callref
  | _ => none

/-- A final message with the reference. -/
def CcOut.isFinal (r : BitVec 32) : CcOut → Bool
  | .mncc _ ind data => finalInds.contains ind && data.callref == r
  | _ => false

/-- The reference in a message about the transaction. -/
def CcOut.about? (i : Nat) : CcOut → Option (BitVec 32)
  | .mncc (some j) _ data => if j = i then some data.callref else none
  | _ => none

/-- After the final message nothing is sent with the reference. -/
def NothingAfterFinal (r : BitVec 32) (outs : List CcOut) : Prop :=
  Justified (fun before out => out.ref? = some r → ∀ b ∈ before, b.isFinal r = false) outs

/-- The messages about a transaction carry the reference `r` if one of them did, unless they carry none. -/
def OneReference (r : BitVec 32) (outs : List CcOut) : Prop :=
  Justified (fun before out => ∀ i c, out.about? i = some c → c ≠ 0 → ∀ b ∈ before, b.about? i = some r → c = r) outs

namespace CcNet

/-- A transaction has the reference. -/
def Live (s : CcNet) (r : BitVec 32) : Prop := ∃ i t, s.transList.get? i = some t ∧ t.callref = r

/-- The application was told that the call is over. -/
def FinalSent (s : CcNet) (r : BitVec 32) : Prop := ∃ out ∈ s.outs, out.isFinal r = true

/-- The application was told of the reference. -/
def Mentioned (s : CcNet) (r : BitVec 32) : Prop := ∃ out ∈ s.outs, out.ref? = some r

end CcNet

/-- When the application returns, the handler ends the call of the transaction, or clears its reference. -/
def Cont.ends (i : Nat) : Cont → Bool
  | .timeoutDisconnect _ _ => false
  | cont => cont.trans == i

/-- A handler is about to end the transaction. -/
def CcNet.Ending (s : CcNet) (i : Nat) : Prop := ∃ cont ∈ s.stack, cont.ends i = true

/-! ## The invariant -/

/-- What holds of the reference `r` whatever the handlers have still to do; `known` if the application introduced it. -/
structure RefBase (r : BitVec 32) (known : Prop) (s : CcNet) : Prop where
  unique : ∀ i j t u, s.transList.get? i = some t → s.transList.get? j = some u → t.callref = r → u.callref = r → i = j
  known : known → s.Live r ∨ s.FinalSent r
  mentioned : s.Mentioned r → s.Live r ∨ s.FinalSent r
  order : NothingAfterFinal r s.outs
  one : OneReference r s.outs
  about : ∀ out ∈ s.outs, ∀ i, out.about? i = some r →
    i < s.transList.next ∧ ∀ t, s.transList.get? i = some t → t.callref = r ∨ t.callref = 0
  second : ∀ i t, s.transList.get? i = some t → t.body.timer = some .t308 → t.callref = 0

/-- **The invariant of a reference.** The final message was sent when a handler is about to end the call. -/
structure RefInv (r : BitVec 32) (known : Prop) (s : CcNet) : Prop extends RefBase r known s where
  ended : ∀ i t, s.transList.get? i = some t → t.callref = r → (s.Ending i ↔ s.FinalSent r)

variable {s s' : CcNet} {i : Nat} {t : CcTrans} {req : Option MnccReq} {r : BitVec 32} {k k' : Prop}

variable {out : CcOut}

theorem finalSent_emit : (s.emit out).FinalSent r ↔ s.FinalSent r ∨ out.isFinal r = true := by
  unfold CcNet.FinalSent CcNet.emit
  simp [or_and_right, exists_or]

theorem mentioned_emit : (s.emit out).Mentioned r ↔ s.Mentioned r ∨ out.ref? = some r := by
  unfold CcNet.Mentioned CcNet.emit
  simp [or_and_right, exists_or]

variable {ind : MnccInd} {data : GsmMncc}

theorem isFinal_mncc {src : Option Nat} :
    (mncc src ind data).isFinal r = true ↔ ind ∈ finalInds ∧ data.callref = r := by
  simp [isFinal]

theorem about?_mncc {src : Option Nat} {j : Nat} {c : BitVec 32} :
    (mncc src ind data).about? j = some c ↔ src = some j ∧ data.callref = c := by
  cases src with
  | none | some => simp [about?]

namespace RefBase

/-- Something else is sent. -/
theorem emit_other (h : RefBase r k s) (href : out.ref? = none) (habout : ∀ i, out.about? i = none)
    (hfinal : out.isFinal r = false) : RefBase r k (s.emit out) where
  unique := h.unique
  known hk := (h.known hk).imp_right fun hsent => finalSent_emit.mpr (.inl hsent)
  mentioned hm := by
    rcases mentioned_emit.mp hm with hm | hnew
    · exact (h.mentioned hm).imp_right fun hsent => finalSent_emit.mpr (.inl hsent)
    · rw [href] at hnew
      cases hnew
  order := snoc h.order fun hnew => by
    rw [href] at hnew
    cases hnew
  one := snoc h.one fun i c hnew => by
    rw [habout i] at hnew
    cases hnew
  about := by
    intro o ho i hi
    rcases mem_append.mp ho with ho | ho
    · exact h.about o ho i hi
    · obtain rfl := mem_singleton.mp ho
      rw [habout i] at hi
      cases hi
  second := h.second

/-- **A message to the application**, about a transaction that has its reference or about none. Nothing final was sent
    with the reference so far. -/
theorem emit_mncc (h : RefBase r k s) {src : Option Nat}
    (hsrc : ∀ i, src = some i → ∃ t, s.transList.get? i = some t ∧ t.callref = data.callref)
    (hsilent : data.callref = r → ¬ s.FinalSent r) (hlive : data.callref = r → s.Live r ∨ ind ∈ finalInds) :
    RefBase r k (s.emit (.mncc src ind data)) where
  unique := h.unique
  known hk := (h.known hk).imp_right fun hsent => finalSent_emit.mpr (.inl hsent)
  mentioned hm := by
    rcases mentioned_emit.mp hm with hm | hnew
    · exact (h.mentioned hm).imp_right fun hsent => finalSent_emit.mpr (.inl hsent)
    · have hr : data.callref = r := Option.some.inj hnew
      exact (hlive hr).imp_right fun hind => finalSent_emit.mpr (.inr (isFinal_mncc.mpr ⟨hind, hr⟩))
  order := snoc h.order fun hnew b hb => by
    by_contra hfinal
    exact hsilent (Option.some.inj hnew) ⟨b, hb, by simpa using hfinal⟩
  one := snoc h.one fun j c hnew hc b hb hbr => by
    obtain ⟨hj, rfl⟩ := about?_mncc.mp hnew
    obtain ⟨t, hget, hcallref⟩ := hsrc j hj
    rw [← hcallref] at hc ⊢
    exact ((h.about b hb j hbr).2 t hget).resolve_right hc
  about := by
    intro o ho j hj
    rcases mem_append.mp ho with ho | ho
    · exact h.about o ho j hj
    · obtain rfl := mem_singleton.mp ho
      obtain ⟨hsrcj, hr⟩ := about?_mncc.mp hj
      obtain ⟨t, hget, hcallref⟩ := hsrc j hsrcj
      refine ⟨get?_lt hget, fun t' ht' => .inl ?_⟩
      cases hget.symm.trans ht'
      exact hcallref.trans hr
  second := h.second

/-- The transactions change. Those that have the reference had it before, and none loses it before the final message. -/
theorem of_net (h : RefBase r k s) (houts : s'.outs = s.outs) (hnext : s.transList.next ≤ s'.transList.next)
    (hold : ∀ j t', s'.transList.get? j = some t' → s.transList.next ≤ j ∨
      ∃ t, s.transList.get? j = some t ∧ (t'.callref = t.callref ∨ t'.callref = 0))
    (hunique : ∀ i j t u, s'.transList.get? i = some t → s'.transList.get? j = some u → t.callref = r → u.callref = r →
      i = j)
    (hlive : s.Live r → s'.Live r ∨ s.FinalSent r)
    (hsecond : ∀ j t', s'.transList.get? j = some t' → t'.body.timer = some .t308 → t'.callref = 0) :
    RefBase r k s' := by
  have hsent : ∀ r, s'.FinalSent r ↔ s.FinalSent r := by
    intro r
    unfold CcNet.FinalSent
    rw [houts]
  have hstays : s.Live r ∨ s.FinalSent r → s'.Live r ∨ s'.FinalSent r := by
    rintro (h | h)
    · exact (hlive h).imp_right (hsent r).mpr
    · exact .inr ((hsent r).mpr h)
  refine ⟨hunique, fun hk => hstays (h.known hk), fun hm => hstays (h.mentioned ?_), ?_, ?_, ?_, hsecond⟩
  · unfold CcNet.Mentioned at hm ⊢
    rwa [houts] at hm
  · rw [houts]
    exact h.order
  · rw [houts]
    exact h.one
  · intro out hout i hi
    rw [houts] at hout
    obtain ⟨hlt, hcallref⟩ := h.about out hout i hi
    refine ⟨Nat.lt_of_lt_of_le hlt hnext, fun t' ht' => ?_⟩
    rcases hold i t' ht' with hge | ⟨t, ht, hsame | hzero⟩
    · omega
    · rw [hsame]
      exact hcallref t ht
    · exact .inr hzero

end RefBase

variable {f : CcTrans → CcTrans}

namespace RefInv

open CcNet (get?_modifyTrans)

section

variable (h : RefInv r k s)

include h

theorem fault : RefInv r k { s with fault := true } :=
  ⟨⟨h.unique, h.known, h.mentioned, h.order, h.one, h.about, h.second⟩, h.ended⟩

theorem introduce (hk : k' → s.Live r ∨ s.FinalSent r) : RefInv r k' s :=
  ⟨⟨h.unique, hk, h.mentioned, h.order, h.one, h.about, h.second⟩, h.ended⟩

theorem emit_other (href : out.ref? = none) (habout : ∀ i, out.about? i = none)
    (hfinal : out.isFinal r = false) : RefInv r k (s.emit out) := by
  refine ⟨h.toRefBase.emit_other href habout hfinal, fun i t ht hr => ?_⟩
  refine (h.ended i t ht hr).trans ⟨fun hsent => finalSent_emit.mpr (.inl hsent), fun hsent => ?_⟩
  refine (finalSent_emit.mp hsent).resolve_right ?_
  rw [hfinal]
  exact Bool.false_ne_true

theorem emit_dtap (conn : Option Nat) (j transId : Nat) (type : CcTx) (cause : Option MnccCause) :
    RefInv r k (s.emit (.dtap conn j transId type cause)) :=
  h.emit_other rfl (fun _ => rfl) rfl

section

variable (hget : s.transList.get? i = some t)

include hget

/-- A message that ends nothing. -/
theorem emit_quiet (hsilent : t.callref = r → ¬ s.FinalSent r) (hout : QuietOut i t out) : RefInv r k (s.emit out) := by
  cases hout with
  | dtap htype => exact h.emit_dtap _ _ _ _ _
  | assignReq => exact h.emit_other rfl (fun _ => rfl) rfl
  | @mncc ind cause hind =>
    have hbase : RefBase r k (s.emit (.mncc (some i) ind { callref := t.callref, cause := cause })) := by
      refine h.toRefBase.emit_mncc ?_ hsilent fun hr => .inl ⟨i, t, hget, hr⟩
      intro j hj
      cases hj
      exact ⟨t, hget, rfl⟩
    refine ⟨hbase, fun j u hu hr => (h.ended j u hu hr).trans ?_⟩
    refine ⟨fun hsent => finalSent_emit.mpr (.inl hsent), fun hsent => ?_⟩
    exact (finalSent_emit.mp hsent).resolve_right fun hfinal => hind (isFinal_mncc.mp hfinal).1

theorem tell {cont : Cont} (hdata : data.callref = t.callref)
    (hind : ind ∈ finalInds) (hends : ∀ j, cont.ends j = true ↔ j = i) (hsilent : t.callref = r → ¬ s.FinalSent r) :
    RefInv r k (s.upcall i ind data cont) := by
  have hbase : RefBase r k (s.emit (.mncc (some i) ind data)) := by
    refine h.toRefBase.emit_mncc ?_ (fun hr => hsilent (hdata ▸ hr)) fun _ => .inr hind
    intro j hj
    cases hj
    exact ⟨t, hget, hdata.symm⟩
  refine ⟨⟨hbase.unique, hbase.known, hbase.mentioned, hbase.order, hbase.one, hbase.about, hbase.second⟩, ?_⟩
  intro j u hu hr
  have hold := h.ended j u hu hr
  have hsent : (s.upcall i ind data cont).FinalSent r ↔ s.FinalSent r ∨ data.callref = r :=
    finalSent_emit.trans (or_congr_right (isFinal_mncc.trans (and_iff_right hind)))
  have hending : (s.upcall i ind data cont).Ending j ↔ s.Ending j ∨ j = i := by
    show (∃ c ∈ cont :: s.stack, c.ends j = true) ↔ _
    rw [exists_mem_cons_iff, hends j, or_comm]
    rfl
  rw [hending, hsent, hold]
  refine or_congr_right ⟨?_, ?_⟩
  · rintro rfl
    cases hget.symm.trans hu
    exact hdata.trans hr
  · intro hcallref
    exact h.unique j i u t hu hget hr (hdata.symm.trans hcallref)

/-- The application is told of a disconnection; the handler goes on to send the DISCONNECT. -/
theorem tell_disc (hdata : data.callref = t.callref)
    (hsilent : t.callref = r → ¬ s.FinalSent r) (rel : GsmMncc) :
    RefInv r k (s.upcall i .discInd data (.timeoutDisconnect i rel)) := by
  obtain ⟨callref, cause⟩ := data
  obtain rfl : callref = t.callref := hdata
  have hout : QuietOut i t (.mncc (some i) .discInd { callref := t.callref, cause := cause }) := .mncc (by decide)
  have hquiet := h.emit_quiet hget hsilent hout
  refine ⟨⟨hquiet.unique, hquiet.known, hquiet.mentioned, hquiet.order, hquiet.one, hquiet.about, hquiet.second⟩, ?_⟩
  intro j u hu hr
  refine Iff.trans ?_ (hquiet.ended j u hu hr)
  show (∃ c ∈ Cont.timeoutDisconnect i rel :: s.stack, c.ends j = true) ↔ _
  rw [exists_mem_cons_iff]
  exact or_iff_right (by simp [Cont.ends])

end

/-- A transaction changes, but not its reference. -/
theorem modify (i : Nat)
    (hf : ∀ t, s.transList.get? i = some t →
      (f t).callref = t.callref ∧ ((f t).body.timer = some .t308 → t.callref = 0)) :
    RefInv r k (s.modifyTrans i f) := by
  have hlook : ∀ j t', (s.modifyTrans i f).transList.get? j = some t' →
      ∃ t, s.transList.get? j = some t ∧ t'.callref = t.callref ∧ (t'.body.timer = some .t308 → t.callref = 0) := by
    intro j t' hj
    by_cases hji : j = i
    · subst hji
      change (s.transList.modify j f).get? j = some t' at hj
      rw [get?_modify, if_pos rfl] at hj
      obtain ⟨t, ht, rfl⟩ := Option.map_eq_some_iff.mp hj
      exact ⟨t, ht, hf t ht⟩
    · change (s.transList.modify i f).get? j = some t' at hj
      rw [get?_modify_ne hji] at hj
      exact ⟨t', hj, rfl, h.second j t' hj⟩
  refine ⟨h.toRefBase.of_net rfl (Nat.le_refl _) ?_ ?_ ?_ ?_, ?_⟩
  · intro j t' hj
    obtain ⟨t, ht, hcallref, -⟩ := hlook j t' hj
    exact .inr ⟨t, ht, .inl hcallref⟩
  · intro a b t' u' ha hb htr hur
    obtain ⟨t, ht, htc, -⟩ := hlook a t' ha
    obtain ⟨u, hu, huc, -⟩ := hlook b u' hb
    exact h.unique a b t u ht hu (htc ▸ htr) (huc ▸ hur)
  · rintro ⟨j, t, ht, hr⟩
    by_cases hji : j = i
    · subst hji
      exact .inl ⟨j, f t, get?_modifyTrans ht f, (hf t ht).1.trans hr⟩
    · refine .inl ⟨j, t, ?_, hr⟩
      show (s.transList.modify i f).get? j = some t
      rw [get?_modify_ne hji, ht]
  · intro j t' hj htimer
    obtain ⟨t, ht, hcallref, hzero⟩ := hlook j t' hj
    exact hcallref.trans (hzero htimer)
  · intro j t' hj hr
    obtain ⟨t, ht, hcallref, -⟩ := hlook j t' hj
    exact h.ended j t ht (hcallref ▸ hr)

theorem stopTimer (i : Nat) : RefInv r k (s.modifyTrans i CcNet.stopCcTimer) :=
  h.modify i fun _ _ => ⟨rfl, fun htimer => by cases htimer⟩

theorem alloc (hbelow : ∀ cont ∈ s.stack, cont.trans < s.transList.next) (new : CcTrans)
    (htimer : new.body.timer = none) (hnew : new.callref = r → ¬ s.Live r ∧ ¬ s.FinalSent r) (newCallref : BitVec 32) :
    RefInv r k { s with transList := s.transList.alloc new, newCallref := newCallref } := by
  have hlook : ∀ j t', (s.transList.alloc new).get? j = some t' →
      (j = s.transList.next ∧ t' = new) ∨ s.transList.get? j = some t' := by
    intro j t' hj
    rw [get?_alloc] at hj
    split at hj
    · exact .inl ⟨‹_›, (Option.some.inj hj).symm⟩
    · exact .inr hj
  refine ⟨h.toRefBase.of_net rfl (Nat.le_succ _) ?_ ?_ ?_ ?_, ?_⟩
  · intro j t' hj
    rcases hlook j t' hj with ⟨rfl, rfl⟩ | hj
    · exact .inl (Nat.le_refl _)
    · exact .inr ⟨t', hj, .inl rfl⟩
  · intro a b t' u' ha hb htr hur
    rcases hlook a t' ha with ⟨hnexta, hta⟩ | hgeta
    · rcases hlook b u' hb with ⟨hnextb, -⟩ | hgetb
      · rw [hnexta, hnextb]
      · exact absurd ⟨b, u', hgetb, hur⟩ (hnew (hta ▸ htr)).1
    · rcases hlook b u' hb with ⟨-, hub⟩ | hgetb
      · exact absurd ⟨a, t', hgeta, htr⟩ (hnew (hub ▸ hur)).1
      · exact h.unique a b t' u' hgeta hgetb htr hur
  · rintro ⟨j, t, ht, hr⟩
    refine .inl ⟨j, t, ?_, hr⟩
    show (s.transList.alloc new).get? j = some t
    rw [get?_alloc, if_neg (Nat.ne_of_lt (get?_lt ht)), ht]
  · intro j t' hj ht308
    rcases hlook j t' hj with ⟨rfl, rfl⟩ | hj
    · rw [htimer] at ht308
      cases ht308
    · exact h.second j t' hj ht308
  · intro j t' hj hr
    rcases hlook j t' hj with ⟨rfl, rfl⟩ | hj
    · refine iff_of_false ?_ (hnew hr).2
      rintro ⟨cont, hcont, hends⟩
      have htrans : cont.trans = s.transList.next := by
        cases cont with
        | timeoutDisconnect _ _ => cases hends
        | _ => exact beq_iff_eq.mp hends
      exact absurd (hbelow cont hcont) (by omega)
    · exact h.ended j t' hj hr

end

end RefInv

/-- **A transaction that may lose its reference.** The final message was sent for its reference, if that is `r`. -/
structure RefDue (r : BitVec 32) (known : Prop) (i : Nat) (s : CcNet) : Prop extends RefBase r known s where
  due : ∀ t, s.transList.get? i = some t → t.callref = r → s.FinalSent r
  others : ∀ j t, j ≠ i → s.transList.get? j = some t → t.callref = r → (s.Ending j ↔ s.FinalSent r)

namespace RefInv

theorem due (h : RefInv r k s) (hdue : ∀ t, s.transList.get? i = some t → t.callref = r → s.FinalSent r) :
    RefDue r k i s :=
  ⟨h.toRefBase, hdue, fun j t _ => h.ended j t⟩

/-- A transaction with another reference. -/
theorem due_of_ne (h : RefInv r k s) (hget : s.transList.get? i = some t) (hne : t.callref ≠ r) : RefDue r k i s := by
  refine h.due fun t' ht' hr => ?_
  cases hget.symm.trans ht'
  exact absurd hr hne

theorem pop (h : RefInv r k s) {cont : Cont} {stack : List Cont} (hstack : s.stack = cont :: stack)
    (hends : ∀ j, cont.ends j = true ↔ j = i) : RefDue r k i { s with stack := stack } := by
  refine ⟨⟨h.unique, h.known, h.mentioned, h.order, h.one, h.about, h.second⟩, fun t ht hr => ?_,
    fun j t hji ht hr => ?_⟩
  · refine (h.ended i t ht hr).mp ⟨cont, ?_, (hends i).mpr rfl⟩
    rw [hstack]
    exact mem_cons_self
  · refine Iff.trans ?_ (h.ended j t ht hr)
    show (∃ c ∈ stack, c.ends j = true) ↔ ∃ c ∈ s.stack, c.ends j = true
    rw [hstack, exists_mem_cons_iff, hends j]
    exact (or_iff_right hji).symm

theorem pop_disconnect (h : RefInv r k s) {rel : GsmMncc} {stack : List Cont}
    (hstack : s.stack = .timeoutDisconnect i rel :: stack) : RefInv r k { s with stack := stack } := by
  refine ⟨⟨h.unique, h.known, h.mentioned, h.order, h.one, h.about, h.second⟩, fun j t ht hr => ?_⟩
  refine Iff.trans ?_ (h.ended j t ht hr)
  show (∃ c ∈ stack, c.ends j = true) ↔ ∃ c ∈ s.stack, c.ends j = true
  rw [hstack, exists_mem_cons_iff]
  exact (or_iff_right (by simp [Cont.ends])).symm

end RefInv

namespace RefDue

open CcNet (get?_modifyTrans)

section

variable (h : RefDue r k i s)

include h

theorem clear (hr : r ≠ 0) (hf : ∀ t, (f t).callref = 0) : RefInv r k (s.modifyTrans i f) := by
  have hlook : ∀ j t', (s.modifyTrans i f).transList.get? j = some t' →
      (∃ t, s.transList.get? j = some t) ∧ t'.callref = 0 ∨ j ≠ i ∧ s.transList.get? j = some t' := by
    intro j t' hj
    change (s.transList.modify i f).get? j = some t' at hj
    by_cases hji : j = i
    · subst hji
      rw [get?_modify, if_pos rfl] at hj
      obtain ⟨t, ht, rfl⟩ := Option.map_eq_some_iff.mp hj
      exact .inl ⟨⟨t, ht⟩, hf t⟩
    · rw [get?_modify_ne hji] at hj
      exact .inr ⟨hji, hj⟩
  have hkept : ∀ j t', (s.modifyTrans i f).transList.get? j = some t' → t'.callref = r →
      j ≠ i ∧ s.transList.get? j = some t' := by
    intro j t' hj hcallref
    rcases hlook j t' hj with ⟨-, hzero⟩ | hkept
    · exact absurd (hcallref.symm.trans hzero) hr
    · exact hkept
  refine ⟨h.toRefBase.of_net rfl (Nat.le_refl _) ?_ ?_ ?_ ?_, ?_⟩
  · intro j t' hj
    rcases hlook j t' hj with ⟨⟨t, ht⟩, hzero⟩ | ⟨-, ht'⟩
    · exact .inr ⟨t, ht, .inr hzero⟩
    · exact .inr ⟨t', ht', .inl rfl⟩
  · intro a b t u ha hb htr hur
    exact h.unique a b t u (hkept a t ha htr).2 (hkept b u hb hur).2 htr hur
  · rintro ⟨j, t, ht, htr⟩
    by_cases hji : j = i
    · subst hji
      exact .inr (h.due t ht htr)
    · refine .inl ⟨j, t, ?_, htr⟩
      show (s.transList.modify i f).get? j = some t
      rw [get?_modify_ne hji, ht]
  · intro j t' hj htimer
    rcases hlook j t' hj with ⟨-, hzero⟩ | ⟨-, ht'⟩
    · exact hzero
    · exact h.second j t' ht' htimer
  · intro j t' hj hcallref
    obtain ⟨hji, ht'⟩ := hkept j t' hj hcallref
    exact h.others j t' hji ht' hcallref

/-- The transaction is gone. -/
theorem remove : RefInv r k { s with transList := s.transList.remove i } := by
  have hlook : ∀ j t, (s.transList.remove i).get? j = some t → j ≠ i ∧ s.transList.get? j = some t := by
    intro j t hj
    rw [get?_remove] at hj
    split at hj
    · cases hj
    · exact ⟨‹_›, hj⟩
  refine ⟨h.toRefBase.of_net rfl (Nat.le_refl _) ?_ ?_ ?_ ?_, ?_⟩
  · intro j t hj
    exact .inr ⟨t, (hlook j t hj).2, .inl rfl⟩
  · intro a b t u ha hb
    exact h.unique a b t u (hlook a t ha).2 (hlook b u hb).2
  · rintro ⟨j, t, ht, htr⟩
    by_cases hji : j = i
    · subst hji
      exact .inr (h.due t ht htr)
    · refine .inl ⟨j, t, ?_, htr⟩
      show (s.transList.remove i).get? j = some t
      rw [get?_remove, if_neg hji, ht]
  · intro j t hj
    exact h.second j t (hlook j t hj).2
  · intro j t hj
    exact h.others j t (hlook j t hj).1 (hlook j t hj).2

/-- The transaction has gone in the meantime. -/
theorem fault (hget : s.transList.get? i = none) : RefInv r k { s with fault := true } := by
  refine RefInv.fault ⟨h.toRefBase, fun j t hj => h.others j t ?_ hj⟩
  rintro rfl
  rw [hget] at hj
  cases hj

theorem transFreeEnd : RefInv r k (s.transFreeEnd i) := by
  unfold CcNet.transFreeEnd CcNet.withTrans
  cases hget : s.transList.get? i with
  | none => exact h.fault hget
  | some t =>
    simp only
    split
    · exact h.remove.emit_other rfl (fun _ => rfl) rfl
    · exact h.remove

theorem clearAndFree (hf : ∀ t, (f t).conn = t.conn) : RefInv r k (s.clearAndFree i f) := by
  cases hget : s.transList.get? i with
  | none =>
    unfold CcNet.clearAndFree CcNet.withTrans
    rw [hget]
    exact h.fault hget
  | some t =>
    rw [CcNet.clearAndFree_eq hget (hf t)]
    exact h.transFreeEnd

theorem txRelease (hr : r ≠ 0) (t : CcTrans) (rel : GsmMncc) :
    RefInv r k (gsm48CcTxRelease s i t rel) :=
  (h.clear hr fun _ => rfl).emit_dtap _ _ _ _ _

end

end RefDue

end OpenBsc.Libmsc
