import OpenBsc.Sgsn.LlReqs

/-!
# `Sgsn.TlliChange` — a station is reached by its old and its new TLLI

An attach or a routeing area update gives a station a new TLLI; until the procedure completes, frames with the old one
and with the new one should reach the same LLME, and no TLLI should ever reach two. Procedures that are under way are
recorded beside the state. `gprs_llgmm_assign` takes for the old TLLI the one that the LLME has, whatever it is told.
That is not the TLLI of the request when the request is a retransmission, which shifts the pair, nor when the LLME was
made for a foreign TLLI, which it is not looked up by. And the new TLLI may reach another LLME already. Where none of
this happens (`StepRoutes`), both TLLIs stay routed.
-/

namespace OpenBsc.Sgsn

open Transition LlgmmAssign Pool MmReq TlliCoding Option

/-! ## The purpose -/

/-- The TLLI does not stand for no TLLI. -/
def IsTlli (build : SgsnBuild) (tlli : BitVec 32) : Prop := tlliForeign2local build tlli ≠ tlliUnassigned

/-- A change of the TLLI of an LLME. -/
structure TlliChange where
  llme : Nat
  oldTlli : BitVec 32
  newTlli : BitVec 32
  deriving DecidableEq

/-- The change that is under way for each context. -/
abbrev Pending := Nat → Option TlliChange

/-- The change of a context after a request, unless it is deregistered. -/
def MmReq.change (mms : Pool MmCtx) (pending : Pending) (i : Nat) (ctx : MmCtx) : MmReq → Option TlliChange
  | attach j id .. => if i = j then ctx.llme.map fun l => ⟨l, id.tlli, ctx.tlliNew⟩ else pending i
  | attachNew _ id .. => if i = mms.next then ctx.llme.map fun l => ⟨l, id.tlli, ctx.tlliNew⟩ else pending i
  | raUpd j id _ => if i = j then ctx.llme.map fun l => ⟨l, id.tlli, ctx.tlliNew⟩ else pending i
  | complete j false => if i = j then none else pending i
  | _ => pending i

/-- The changes that are under way after a request: those of contexts that are gone or deregistered are not. -/
def MmReq.underWay (mms mms' : Pool MmCtx) (pending : Pending) (req : MmReq) : Pending := fun i =>
  ((mms'.get? i).filter fun ctx => ctx.mmState != .deregistered).bind fun ctx => req.change mms pending i ctx

/-- The changes that are under way after a step. -/
def pendingAfter (build : SgsnBuild) (pending : Pending) (s : SgsnInstance) (ev : SgsnEvent) (s' : SgsnInstance) :
    Pending := (mmReq build s ev).2.underWay (mmReq build s ev).1 s'.gmm.mms pending

/-- An SGSN with that record. -/
def changeSystem (build : SgsnBuild) : System (SgsnInstance × Pending) SgsnEvent :=
  (sgsnSystem build).recording (fun _ => none) (pendingAfter build)

/-- While a change is under way, frames with the old and the new TLLI are given to the LLME, in whatever form the TLLI
    is, and no LLME is made for them; and no TLLI reaches two LLMEs. -/
structure TllisRouted (build : SgsnBuild) (t : SgsnInstance × Pending) : Prop where
  change : ∀ i c, t.2 i = some c → ∀ f : UlFrame, IsTlli build f.id.tlli →
    tlliForeign2local build f.id.tlli = tlliForeign2local build c.oldTlli ∨
      tlliForeign2local build f.id.tlli = tlliForeign2local build c.newTlli →
    llmeOfFrame build t.1.llmes f = some (t.1.llmes, c.llme)
  unique : ∀ tlli, IsTlli build tlli → ∀ k a l b, t.1.llmes.get? k = some a → t.1.llmes.get? l = some b →
    a.has (tlliForeign2local build tlli) = true → b.has (tlliForeign2local build tlli) = true → k = l

/-! ## The condition -/

/-- No other LLME is reached by the TLLI. -/
def NewFree (llmes : Pool Llme) (l : Nat) (tlli : BitVec 32) : Prop :=
  ∀ k llme, llmes.get? k = some llme → k ≠ l → llme.has tlli = false

/-- The LLME is in no change of another context. -/
def NotPending (mms : Pool MmCtx) (pending : Pending) (i l : Nat) : Prop :=
  ∀ k ctx, mms.get? k = some ctx → k ≠ i → ∀ c ∈ pending k, c.llme ≠ l

/-- The LLME has the old TLLI, in its local version, and the new one is one that reaches no other. -/
def ChangeFits (build : SgsnBuild) (llmes : Pool Llme) (l : Nat) (oldTlli newTlli : BitVec 32) : Prop :=
  (∃ llme ∈ llmes.get? l, llme.tlli = tlliForeign2local build oldTlli) ∧ newTlli ≠ tlliUnassigned ∧
    NewFree llmes l newTlli

/-- A request changes TLLIs as it should, and those of no other context that is changing them. -/
def ReqRoutes (build : SgsnBuild) (llmes : Pool Llme) (mms : Pool MmCtx) (pending : Pending)
    (rands : List (BitVec 32)) : MmReq → Prop
  | .attach i id _ l =>
    NotPending mms pending i l ∧ ∀ pTmsi ∈ sgsnAllocPtmsi mms rands,
      ChangeFits build llmes l id.tlli (build.coding.gprsTmsi2tlli pTmsi .tlliLocal)
  | .attachNew base id _ l =>
    NotPending mms pending mms.next l ∧ ∀ pTmsi ∈ sgsnAllocPtmsi (mms.alloc base) rands,
      ChangeFits build llmes l id.tlli (build.coding.gprsTmsi2tlli pTmsi .tlliLocal)
  | .raUpd i id _ =>
    ∀ ctx ∈ mms.get? i, ∀ l ∈ ctx.llme, NotPending mms pending i l ∧ ∀ pTmsi ∈ sgsnAllocPtmsi mms rands,
      ChangeFits build llmes l id.tlli (build.coding.gprsTmsi2tlli pTmsi .tlliLocal)
  | .complete i reall =>
    reall = false → ∀ ctx ∈ mms.get? i, ∀ l ∈ ctx.llme, ctx.tlliNew ≠ tlliUnassigned →
      NotPending mms pending i l ∧ NewFree llmes l ctx.tlliNew
  | .detach i => ∀ ctx ∈ mms.get? i, ∀ l ∈ ctx.llme, ctx.tlli ≠ tlliUnassigned → NotPending mms pending i l
  | .idResp i mi =>
    ∀ old ∈ idRespOld mms i mi, ∀ l ∈ old.2.llme, old.2.tlli ≠ tlliUnassigned → NotPending mms pending old.1 l
  | _ => True

/-- A step that does. -/
def StepRoutes (build : SgsnBuild) (t : SgsnInstance × Pending) (ev : SgsnEvent) : Prop :=
  ReqRoutes build (llmesBefore build t.1 ev) (mmReq build t.1 ev).1 t.2 ev.rands (mmReq build t.1 ev).2

instance (llmes : Pool Llme) (l : Nat) (tlli : BitVec 32) : Decidable (NewFree llmes l tlli) :=
  inferInstanceAs (Decidable (∀ k llme, llmes.get? k = some llme → k ≠ l → llme.has tlli = false))

instance (mms : Pool MmCtx) (pending : Pending) (i l : Nat) : Decidable (NotPending mms pending i l) :=
  inferInstanceAs (Decidable (∀ k ctx, mms.get? k = some ctx → k ≠ i → ∀ c ∈ pending k, c.llme ≠ l))

instance (build : SgsnBuild) (llmes : Pool Llme) (l : Nat) (oldTlli newTlli : BitVec 32) :
    Decidable (ChangeFits build llmes l oldTlli newTlli) :=
  inferInstanceAs (Decidable ((∃ llme ∈ llmes.get? l, _) ∧ _ ∧ _))

instance (build : SgsnBuild) (llmes : Pool Llme) (mms : Pool MmCtx) (pending : Pending) (rands : List (BitVec 32))
    (req : MmReq) : Decidable (ReqRoutes build llmes mms pending rands req) :=
  have (drawn : Option (BitVec 32)) (l : Nat) (tlli : BitVec 32) : Decidable (∀ pTmsi ∈ drawn,
      ChangeFits build llmes l tlli (build.coding.gprsTmsi2tlli pTmsi .tlliLocal)) := Option.decidableForallMem drawn
  match req with
  | .attach .. => inferInstanceAs (Decidable (_ ∧ _))
  | .attachNew .. => inferInstanceAs (Decidable (_ ∧ _))
  | .raUpd i .. => inferInstanceAs (Decidable (∀ ctx ∈ mms.get? i, ∀ l ∈ ctx.llme, _ ∧ _))
  | .complete i _ => inferInstanceAs (Decidable (_ → ∀ ctx ∈ mms.get? i, ∀ l ∈ ctx.llme, _ → _ ∧ _))
  | .detach i => inferInstanceAs (Decidable (∀ ctx ∈ mms.get? i, ∀ l ∈ ctx.llme, _ → _))
  | .idResp i mi => inferInstanceAs (Decidable (∀ old ∈ idRespOld mms i mi, ∀ l ∈ old.2.llme, _ → _))
  | .keep | .timer _ | .suspend _ | .resume _ => inferInstanceAs (Decidable True)

instance (build : SgsnBuild) (t : SgsnInstance × Pending) (ev : SgsnEvent) : Decidable (StepRoutes build t ev) :=
  inferInstanceAs (Decidable (ReqRoutes _ _ _ _ _ _))

/-! ## TLLIs -/

variable {build : SgsnBuild}

section

variable (hstd : build.coding.Standard)

include hstd

theorem foreign2local_of_local {tlli : BitVec 32}
    (hlocal : tlli &&& 0xc0000000 = 0xc0000000) : tlliForeign2local build tlli = tlli := by
  apply if_neg
  intro hforeign
  have hbits := (hstd.foreign_iff tlli).mp hforeign
  rw [hlocal] at hbits
  exact absurd hbits (by decide)

theorem foreign2local_idem (tlli : BitVec 32) :
    tlliForeign2local build (tlliForeign2local build tlli) = tlliForeign2local build tlli := by
  by_cases hforeign : build.coding.gprsTlliType tlli = .tlliForeign
  · have hlocal : tlliForeign2local build tlli = tlli ||| 0x40000000 := if_pos hforeign
    rw [hlocal]
    apply foreign2local_of_local hstd
    have hbits := (hstd.foreign_iff tlli).mp hforeign
    rw [BitVec.and_or_distrib_right, hbits]
    decide
  · have hsame : tlliForeign2local build tlli = tlli := if_neg hforeign
    rw [hsame, hsame]

theorem foreign2local_tmsi (pTmsi : BitVec 32) :
    tlliForeign2local build (build.coding.gprsTmsi2tlli pTmsi .tlliLocal) =
      build.coding.gprsTmsi2tlli pTmsi .tlliLocal := by
  apply foreign2local_of_local hstd
  rw [hstd.tmsi2tlli_local]
  ext i
  simp
  grind

theorem foreign2local_unassigned :
    tlliForeign2local build tlliUnassigned = tlliUnassigned :=
  foreign2local_of_local hstd (by decide)

end

/-! ## The step -/

/-- The LLME is reached by both TLLIs of the change, as far as they are TLLIs. -/
def Llme.Reached (build : SgsnBuild) (c : TlliChange) (llme : Llme) : Prop :=
  ∀ tlli, tlli = tlliForeign2local build c.oldTlli ∨ tlli = tlliForeign2local build c.newTlli →
    tlli ≠ tlliUnassigned → llme.has tlli = true

/-- No TLLI reaches both. -/
def Llme.Apart (build : SgsnBuild) (a b : Llme) : Prop :=
  ∀ tlli, IsTlli build tlli → a.has (tlliForeign2local build tlli) = true → b.has (tlliForeign2local build tlli) = false

/-- What is kept of the LLMEs. -/
structure Routes (build : SgsnBuild) (llmes : Pool Llme) (pending : Pending) : Prop where
  change : ∀ i c, pending i = some c → ∃ llme, llmes.get? c.llme = some llme ∧ llme.Reached build c
  apart : llmes.Pairwise (Llme.Apart build)

variable {llmes llmes' : Pool Llme} {pending pending' : Pending} {mms mms' : Pool MmCtx}

theorem has_iff {llme : Llme} {tlli : BitVec 32} : llme.has tlli = true ↔ llme.tlli = tlli ∨ llme.oldTlli = tlli := by
  simp [Llme.has]

theorem Llme.Apart.symm {a b : Llme} (h : Llme.Apart build a b) : Llme.Apart build b a := by
  intro tlli htlli hb
  by_contra ha
  rw [h tlli htlli (eq_true_of_ne_false ha)] at hb
  cases hb

theorem Routes.fewer (h : Routes build llmes pending) (hfewer : ∀ k c, pending' k = some c → pending k = some c) :
    Routes build llmes pending' :=
  ⟨fun i c hc => h.change i c (hfewer i c hc), h.apart⟩

theorem Routes.route (h : Routes build llmes pending) (l : Nat) (id : MsgId) :
    Routes build (llmes.modify l (Llme.route id)) pending where
  change i c hc := by
    obtain ⟨llme, hl, hreached⟩ := h.change i c hc
    rw [get?_modify, hl]
    split
    · exact ⟨llme.route id, rfl, hreached⟩
    · exact ⟨llme, rfl, hreached⟩
  apart := by
    apply h.apart.modify
    · exact fun a b hab => hab.symm
    · intro a ha k b hb hne
      exact h.apart l a k b ha hb hne.symm

theorem Routes.alloc (hstd : build.coding.Standard) (h : Routes build llmes pending) {tlli : BitVec 32}
    (hnone : lleByTlli build llmes tlli = none) : Routes build (llmeAlloc llmes tlli) pending where
  change i c hc := by
    obtain ⟨llme, hl, hreached⟩ := h.change i c hc
    refine ⟨llme, ?_, hreached⟩
    unfold llmeAlloc
    rw [get?_alloc, if_neg (Nat.ne_of_lt (get?_lt hl))]
    exact hl
  apart := by
    apply h.apart.alloc
    · exact fun a b hab => hab.symm
    · intro k b hb tlli' htlli' hnew
      have hfree := findLast?_eq_none.mp hnone k b hb
      rcases has_iff.mp hnew with hsame | hold
      · dsimp only at hsame
        rw [hsame, foreign2local_idem hstd] at hfree
        exact hfree
      · exact absurd hold.symm htlli'

theorem Routes.opened (hstd : build.coding.Standard) (h : Routes build llmes pending)
    (hopen : LlmesOpened build llmes llmes') : Routes build llmes' pending := by
  refine closure_preserves (I := fun llmes => Routes build llmes pending) ?_ hopen h
  intro a b ha hab
  cases hab with
  | route l id => exact ha.route l id
  | alloc tlli hnone => exact ha.alloc hstd hnone

variable {l : Nat}

theorem Routes.remove (h : Routes build llmes pending)
    (hother : ∀ k c, pending' k = some c → pending k = some c ∧ c.llme ≠ l) :
    Routes build (llmes.remove l) pending' where
  change i c hc := by
    obtain ⟨hc, hne⟩ := hother i c hc
    obtain ⟨llme, hl, hreached⟩ := h.change i c hc
    refine ⟨llme, ?_, hreached⟩
    rw [get?_remove, if_neg hne]
    exact hl
  apart := h.apart.remove l

variable {newTlli : BitVec 32}

/-- An LLME that is in no other change gets a TLLI that reaches no other, and has none but that and one that it had. -/
theorem Routes.assign (h : Routes build llmes pending) (hfree : NewFree llmes l newTlli) {f : Llme → Llme}
    (hf : ∀ llme, llmes.get? l = some llme → ∀ tlli, tlli ≠ tlliUnassigned → (f llme).has tlli = true →
      tlli = newTlli ∨ llme.has tlli = true)
    (hchange : ∀ k c, pending' k = some c →
      (pending k = some c ∧ c.llme ≠ l) ∨ (c.llme = l ∧ ∃ llme, llmes.get? l = some llme ∧ (f llme).Reached build c)) :
    Routes build (llmes.modify l f) pending' where
  change i c hc := by
    rw [get?_modify]
    rcases hchange i c hc with ⟨hold, hne⟩ | ⟨hl, llme, hlive, hreached⟩
    · rw [if_neg hne]
      exact h.change i c hold
    · rw [if_pos hl, hl, hlive]
      exact ⟨f llme, rfl, hreached⟩
  apart := by
    apply h.apart.modify
    · exact fun a b hab => hab.symm
    · intro a ha k b hb hne tlli htlli hhas
      rcases hf a ha _ htlli hhas with hnew | hold
      · rw [hnew]
        exact hfree k b hb hne
      · exact h.apart l a k b ha hb hne.symm tlli htlli hold

theorem Routes.changed (hstd : build.coding.Standard) (h : Routes build llmes pending) {oldTlli : BitVec 32}
    (hlocal : tlliForeign2local build newTlli = newTlli) (hfits : ChangeFits build llmes l oldTlli newTlli)
    (hpending : ∀ k c, pending' k = some c → (pending k = some c ∧ c.llme ≠ l) ∨ c = ⟨l, oldTlli, newTlli⟩) :
    Routes build (performed llmes (some ⟨some l, oldTlli, newTlli⟩)) pending' := by
  obtain ⟨⟨llme, hlive, htlli⟩, hnew, hfree⟩ := hfits
  have hlive : llmes.get? l = some llme := hlive
  have hchange (f : Llme → Llme) (hreached : (f llme).Reached build ⟨l, oldTlli, newTlli⟩) (k : Nat) (c : TlliChange)
      (hc : pending' k = some c) : (pending k = some c ∧ c.llme ≠ l) ∨
        (c.llme = l ∧ ∃ llme, llmes.get? l = some llme ∧ (f llme).Reached build c) := by
    apply (hpending k c hc).imp_right
    rintro rfl
    exact ⟨rfl, llme, hlive, hreached⟩
  simp only [performed, gprsLlgmmAssign, if_neg hnew]
  split
  case isTrue hold =>
    apply h.assign hfree
    · intro llme' _ tlli htlli hhas
      rcases has_iff.mp hhas with hsame | hsame
      · exact .inl hsame.symm
      · exact absurd hsame.symm htlli
    · apply hchange
      rintro tlli (rfl | rfl) htlli
      · rw [hold, foreign2local_unassigned hstd] at htlli
        exact absurd rfl htlli
      · exact has_iff.mpr (.inl hlocal.symm)
  case isFalse hold =>
    apply h.assign hfree
    · intro llme' _ tlli _ hhas
      rcases has_iff.mp hhas with hsame | hsame
      · exact .inl hsame.symm
      · exact .inr (has_iff.mpr (.inl hsame))
    · apply hchange
      rintro tlli (rfl | rfl) _
      · exact has_iff.mpr (.inr htlli)
      · exact has_iff.mpr (.inl hlocal.symm)

theorem Routes.completed (h : Routes build llmes pending) {llme : Option Nat}
    (hfree : ∀ l ∈ llme, newTlli ≠ tlliUnassigned → NewFree llmes l newTlli)
    (hother : ∀ k c, pending' k = some c → pending k = some c ∧ ∀ l ∈ llme, newTlli ≠ tlliUnassigned → c.llme ≠ l) :
    Routes build (performed llmes (some ⟨llme, tlliUnassigned, newTlli⟩)) pending' := by
  have hfewer : Routes build llmes pending' := h.fewer fun k c hc => (hother k c hc).1
  simp only [performed, gprsLlgmmAssign, if_true]
  split
  case h_1 => exact hfewer
  case h_2 l =>
    split
    case isTrue => exact hfewer
    case isFalse hnew =>
      apply h.assign (hfree l rfl hnew)
      · intro llme' _ tlli htlli hhas
        rcases has_iff.mp hhas with hsame | hsame
        · exact .inl hsame.symm
        · exact absurd hsame.symm htlli
      · intro k c hc
        obtain ⟨hold, hne⟩ := hother k c hc
        exact .inl ⟨hold, hne l rfl hnew⟩

theorem Routes.unassigned (h : Routes build llmes pending) {llme : Option Nat} {oldTlli : BitVec 32}
    (hother : ∀ k c, pending' k = some c → pending k = some c ∧ ∀ l ∈ llme, oldTlli ≠ tlliUnassigned → c.llme ≠ l) :
    Routes build (performed llmes (some ⟨llme, oldTlli, tlliUnassigned⟩)) pending' := by
  have hfewer : Routes build llmes pending' := h.fewer fun k c hc => (hother k c hc).1
  simp only [performed, gprsLlgmmAssign, if_true]
  split
  case h_1 => exact hfewer
  case h_2 l =>
    split
    case isTrue => exact hfewer
    case isFalse hold =>
      apply h.remove
      intro k c hc
      obtain ⟨hpending, hne⟩ := hother k c hc
      exact ⟨hpending, hne l rfl hold⟩

theorem of_underWay {req : MmReq} {k : Nat} {c : TlliChange} (h : req.underWay mms mms' pending k = some c) :
    ∃ ctx, mms'.get? k = some ctx ∧ ctx.mmState ≠ .deregistered ∧ req.change mms pending k ctx = some c := by
  obtain ⟨ctx, hctx, hchange⟩ := bind_eq_some_iff.mp h
  obtain ⟨hget, hstate⟩ := filter_eq_some_iff.mp hctx
  exact ⟨ctx, hget, by simpa using hstate, hchange⟩

theorem NotPending.llme_ne {i : Nat} (h : NotPending mms pending i l)
    (hlive : ∀ k c, pending k = some c → ∃ ctx, mms.get? k = some ctx) {k : Nat} (hk : k ≠ i) {c : TlliChange}
    (hc : pending k = some c) : c.llme ≠ l := by
  obtain ⟨ctx, hctx⟩ := hlive k c hc
  exact h k ctx hctx hk c hc

theorem tlliNew_authorize (ctx : MmCtx) (mode : GprsT3350Mode) : (ctx.authorize mode).1.tlliNew = ctx.tlliNew := by
  rcases authorize_cases ctx mode with ⟨-, -, heq⟩ | ⟨-, idType, heq⟩
  · rw [heq]
  · rw [heq]

theorem routes_attach (hstd : build.coding.Standard) (h : Routes build llmes pending)
    (hlive : ∀ k c, pending k = some c → ∃ ctx, mms.get? k = some ctx) {i : Nat} {id : MsgId} {cell : GprsRaId}
    {pTmsi : BitVec 32} (hnot : NotPending mms pending i l)
    (hfits : ChangeFits build llmes l id.tlli (build.coding.gprsTmsi2tlli pTmsi .tlliLocal)) {ctx : MmCtx}
    (hget : mms'.get? i = some (ctx.attach build id cell l pTmsi).1)
    (hpending : ∀ k c, pending' k = some c → (k ≠ i ∧ pending k = some c) ∨
      (k = i ∧ ∃ ctx', mms'.get? i = some ctx' ∧
        (ctx'.llme.map fun l => (⟨l, id.tlli, ctx'.tlliNew⟩ : TlliChange)) = some c)) :
    Routes build
      (performed llmes (some ⟨some l, id.tlli, build.coding.gprsTmsi2tlli pTmsi .tlliLocal⟩)) pending' := by
  apply h.changed hstd (foreign2local_tmsi hstd pTmsi) hfits
  intro k c hc
  rcases hpending k c hc with ⟨hk, hold⟩ | ⟨rfl, ctx', hctx', hchange⟩
  · exact .inl ⟨hold, hnot.llme_ne hlive hk hold⟩
  · right
    cases hget.symm.trans hctx'
    have hllme : (ctx.attach build id cell l pTmsi).1.llme = some l := llme_authorize _ _
    have hnew : (ctx.attach build id cell l pTmsi).1.tlliNew = build.coding.gprsTmsi2tlli pTmsi .tlliLocal :=
      tlliNew_authorize _ _
    rw [hllme, hnew] at hchange
    exact (some.inj hchange).symm

/-- **The step, for the assignment of a request.** -/
theorem routes_performed (hstd : build.coding.Standard) {before : Pool Llme} {req : MmReq} {rands : List (BitVec 32)}
    (h : Routes build llmes pending) (hlive : ∀ k c, pending k = some c → ∃ ctx, mms.get? k = some ctx)
    (hbefore : ∀ a ∈ req.assigns build mms rands, a.newTlli ≠ tlliUnassigned → llmes = before)
    (hreq : ReqRoutes build before mms pending rands req) (happly : req.apply build mms rands = some mms') :
    Routes build (performed llmes (req.assigns build mms rands)) (req.underWay mms mms' pending) := by
  cases req with
  | attach i id cell l =>
    obtain ⟨pTmsi, hdrawn, rfl⟩ := map_eq_some_iff.mp happly
    obtain ⟨hnot, hfits⟩ := hreq
    have hfits := hfits pTmsi hdrawn
    simp only [assigns, hdrawn, bind_some] at hbefore ⊢
    cases hctx : mms.get? i with
    | none =>
      apply h.fewer
      intro k c hc
      obtain ⟨ctx', hget, -, hchange⟩ := of_underWay hc
      by_cases hk : k = i
      · rw [hk, get?_modify, hctx, if_pos rfl] at hget
        cases hget
      · exact (if_neg hk).symm.trans hchange
    | some ctx =>
      rw [hctx] at hbefore
      obtain rfl := hbefore _ rfl hfits.2.1
      have hget : (mms.modify i fun ctx => (ctx.attach build id cell l pTmsi).1).get? i =
          some (ctx.attach build id cell l pTmsi).1 := by
        rw [get?_modify, if_pos rfl, hctx]
        rfl
      apply routes_attach hstd h hlive hnot hfits hget
      intro k c hc
      obtain ⟨ctx', hget', -, hchange⟩ := of_underWay hc
      by_cases hk : k = i
      · subst hk
        exact .inr ⟨rfl, ctx', hget', (if_pos rfl).symm.trans hchange⟩
      · exact .inl ⟨hk, (if_neg hk).symm.trans hchange⟩
  | attachNew base id cell l =>
    obtain ⟨pTmsi, hdrawn, rfl⟩ := map_eq_some_iff.mp happly
    obtain ⟨hnot, hfits⟩ := hreq
    have hfits := hfits pTmsi hdrawn
    simp only [assigns, hdrawn, map_some] at hbefore ⊢
    obtain rfl := hbefore _ rfl hfits.2.1
    have hget : (mms.alloc (base.attach build id cell l pTmsi).1).get? mms.next =
        some (base.attach build id cell l pTmsi).1 := by
      rw [get?_alloc]
      exact if_pos rfl
    apply routes_attach hstd h hlive hnot hfits hget
    intro k c hc
    obtain ⟨ctx', hget', -, hchange⟩ := of_underWay hc
    by_cases hk : k = mms.next
    · subst hk
      exact .inr ⟨rfl, ctx', hget', (if_pos rfl).symm.trans hchange⟩
    · exact .inl ⟨hk, (if_neg hk).symm.trans hchange⟩
  | raUpd i id cell =>
    obtain ⟨pTmsi, hdrawn, rfl⟩ := map_eq_some_iff.mp happly
    simp only [assigns, hdrawn, bind_some] at hbefore ⊢
    have hother {k : Nat} {c : TlliChange} {ctx' : MmCtx} (hk : k ≠ i)
        (hchange : (raUpd i id cell).change mms pending k ctx' = some c) : pending k = some c :=
      (if_neg hk).symm.trans hchange
    cases hctx : mms.get? i with
    | none =>
      apply h.fewer
      intro k c hc
      obtain ⟨ctx', hget, -, hchange⟩ := of_underWay hc
      by_cases hk : k = i
      · rw [hk, get?_modify, hctx, if_pos rfl] at hget
        cases hget
      · exact hother hk hchange
    | some ctx =>
      rw [hctx] at hbefore
      -- what the context is given for the change
      have hown {c : TlliChange} {ctx' : MmCtx}
          (hget : (mms.modify i fun ctx => (ctx.raUpd build id cell pTmsi).1).get? i = some ctx')
          (hchange : (raUpd i id cell).change mms pending i ctx' = some c) :
          (ctx.llme.map fun l => (⟨l, id.tlli, build.coding.gprsTmsi2tlli pTmsi .tlliLocal⟩ : TlliChange)) =
            some c := by
        rw [get?_modify, if_pos rfl, hctx] at hget
        cases hget
        exact (if_pos rfl).symm.trans hchange
      cases hllme : ctx.llme with
      | none =>
        simp only [map_some, hllme]
        apply h.fewer
        intro k c hc
        obtain ⟨ctx', hget, -, hchange⟩ := of_underWay hc
        by_cases hk : k = i
        · subst hk
          have hnone := hown hget hchange
          rw [hllme] at hnone
          cases hnone
        · exact hother hk hchange
      | some l =>
        obtain ⟨hnot, hfits⟩ := hreq ctx hctx l hllme
        have hfits := hfits pTmsi hdrawn
        obtain rfl := hbefore _ rfl hfits.2.1
        simp only [map_some, hllme]
        apply h.changed hstd (foreign2local_tmsi hstd pTmsi) hfits
        intro k c hc
        obtain ⟨ctx', hget, -, hchange⟩ := of_underWay hc
        by_cases hk : k = i
        · subst hk
          have hsome := hown hget hchange
          rw [hllme] at hsome
          exact .inr (some.inj hsome).symm
        · have hold := hother hk hchange
          exact .inl ⟨hold, hnot.llme_ne hlive hk hold⟩
  | complete i reall =>
    cases happly
    cases reall with
    | true =>
      apply h.fewer
      intro k c hc
      obtain ⟨ctx', -, -, hchange⟩ := of_underWay hc
      exact hchange
    | false =>
      have hother {k : Nat} {c : TlliChange} {ctx' : MmCtx}
          (hchange : (complete i false).change mms pending k ctx' = some c) : k ≠ i ∧ pending k = some c := by
        by_cases hk : k = i
        · have hnone : (none : Option TlliChange) = some c := (if_pos hk).symm.trans hchange
          cases hnone
        · exact ⟨hk, (if_neg hk).symm.trans hchange⟩
      have hassigns : (complete i false).assigns build mms rands =
          (mms.get? i).map fun ctx => ⟨ctx.llme, tlliUnassigned, ctx.tlliNew⟩ := rfl
      rw [hassigns] at hbefore ⊢
      cases hctx : mms.get? i with
      | none =>
        apply h.fewer
        intro k c hc
        obtain ⟨ctx', -, -, hchange⟩ := of_underWay hc
        exact (hother hchange).2
      | some ctx =>
        rw [hctx] at hbefore
        apply h.completed
        · intro l hl hnew
          obtain rfl := hbefore _ rfl hnew
          exact (hreq rfl ctx hctx l hl hnew).2
        · intro k c hc
          obtain ⟨ctx', -, -, hchange⟩ := of_underWay hc
          obtain ⟨hk, hold⟩ := hother hchange
          refine ⟨hold, ?_⟩
          intro l hl hnew
          exact (hreq rfl ctx hctx l hl hnew).1.llme_ne hlive hk hold
  | detach i =>
    cases happly
    have hother {k : Nat} {c : TlliChange} (hc : (detach i).underWay mms
        (mms.modify i fun ctx => ctx.detach.1) pending k = some c) : k ≠ i ∧ pending k = some c := by
      obtain ⟨ctx', hget, hstate, hchange⟩ := of_underWay hc
      refine ⟨?_, hchange⟩
      rintro rfl
      rw [get?_modify, if_pos rfl] at hget
      obtain ⟨ctx, -, rfl⟩ := map_eq_some_iff.mp hget
      exact hstate rfl
    simp only [assigns]
    cases hctx : mms.get? i with
    | none => exact h.fewer fun k c hc => (hother hc).2
    | some ctx =>
      apply h.unassigned
      intro k c hc
      obtain ⟨hk, hold⟩ := hother hc
      refine ⟨hold, ?_⟩
      intro l hl htlli
      exact (hreq ctx hctx l hl htlli).llme_ne hlive hk hold
  | idResp i mi =>
    cases happly
    simp only [assigns]
    cases hold : idRespOld mms i mi with
    | none =>
      apply h.fewer
      intro k c hc
      obtain ⟨ctx', -, -, hchange⟩ := of_underWay hc
      exact hchange
    | some old =>
      apply h.unassigned
      intro k c hc
      obtain ⟨ctx', hget, -, hchange⟩ := of_underWay hc
      obtain ⟨-, -, -, hne⟩ := of_idRespMms hget
      refine ⟨hchange, ?_⟩
      intro l hl htlli
      exact (hreq old hold l hl htlli).llme_ne hlive (hne old hold) hchange
  | _ =>
    apply h.fewer
    intro k c hc
    obtain ⟨ctx', -, -, hchange⟩ := of_underWay hc
    exact hchange

/-! ## The result -/

theorem routes_step (hstd : build.coding.Standard) {s s' : SgsnInstance} {ev : SgsnEvent}
    (h : Routes build s.llmes pending) (hlive : ∀ k c, pending k = some c → ∃ ctx, s.gmm.mms.get? k = some ctx)
    (hroutes : StepRoutes build (s, pending) ev) (hstep : sgsnStep build s ev = some s') :
    Routes build s'.llmes (pendingAfter build pending s ev s') := by
  obtain ⟨mid, hopened, hbefore, hopened'⟩ := sgsnStep_llmes hstep
  have hmid := (h.opened hstd (opened_before build s ev)).opened hstd hopened
  have htouched (k : Nat) (c : TlliChange) (hc : pending k = some c) :
      ∃ ctx, (mmReq build s ev).1.get? k = some ctx := by
    obtain ⟨ctx, hctx⟩ := hlive k c hc
    exact kept_touched (touches_mmReq build s ev) k ctx hctx
  exact (routes_performed hstd hmid htouched hbefore hroutes (sgsnStep_mms hstep)).opened hstd hopened'

/-- **Both TLLIs stay routed.** In every run in which all changes of TLLIs are as they should be, frames with the old
    and the new TLLI of a change that is under way reach the LLME of the change, and no TLLI reaches two LLMEs. -/
theorem tllisRouted_of_stepRoutes {build : SgsnBuild} (hstd : build.coding.Standard) {t : SgsnInstance × Pending}
    (h : ReachableBy (changeSystem build) (StepRoutes build) t) : TllisRouted build t := by
  have hroutes : Routes build t.1.llmes t.2 ∧ ∀ k c, t.2 k = some c → ∃ ctx, t.1.gmm.mms.get? k = some ctx := by
    refine h.invariant (I := fun t => Routes build t.1.llmes t.2 ∧
      ∀ k c, t.2 k = some c → ∃ ctx, t.1.gmm.mms.get? k = some ctx) ?_ ?_
    · rintro ⟨s, pending⟩ ⟨⟨ggsns, rfl⟩, rfl⟩
      exact ⟨⟨fun i c hc => (nomatch hc), pairwise_empty⟩, fun k c hc => (nomatch hc)⟩
    · rintro t ev t' ⟨hroutes, hlive⟩ hguard ⟨hstep, hrecord⟩
      rw [hrecord]
      refine ⟨routes_step hstd hroutes hlive hguard hstep, ?_⟩
      intro k c hc
      obtain ⟨ctx, hctx, -, -⟩ := of_underWay hc
      exact ⟨ctx, hctx⟩
  obtain ⟨⟨hchange, hapart⟩, -⟩ := hroutes
  have hunique (tlli : BitVec 32) (htlli : IsTlli build tlli) (k : Nat) (a : Llme) (l : Nat) (b : Llme)
      (ha : t.1.llmes.get? k = some a) (hb : t.1.llmes.get? l = some b)
      (hhas : a.has (tlliForeign2local build tlli) = true) (hhas' : b.has (tlliForeign2local build tlli) = true) :
      k = l := by
    by_contra hne
    rw [hapart k a l b ha hb hne tlli htlli hhas] at hhas'
    cases hhas'
  refine ⟨?_, hunique⟩
  intro i c hc f htlli hform
  obtain ⟨llme, hl, hreached⟩ := hchange i c hc
  have hhas := hreached _ hform htlli
  have hfound : lleByTlli build t.1.llmes f.id.tlli = some (c.llme, llme) := by
    apply findLast?_unique hl hhas
    intro k b hb hhas'
    exact hunique f.id.tlli htlli k b c.llme llme hb hl hhas' hhas
  unfold llmeOfFrame
  rw [hfound]

theorem standard_ts23003 : ts23003.Standard where
  local_iff tlli := by
    simp only [ts23003]
    constructor
    · intro h
      by_contra hbits
      rw [if_neg hbits] at h
      split at h
      · cases h
      · split at h
        · cases h
        · split at h <;> cases h
    · exact fun hbits => if_pos hbits
  foreign_iff tlli := by
    simp only [ts23003]
    constructor
    · intro h
      by_contra hbits
      rw [if_neg hbits] at h
      split at h
      · cases h
      · split at h
        · cases h
        · split at h <;> cases h
    · intro hbits
      have hnot : tlli &&& 0xc0000000 ≠ 0xc0000000 := by
        rw [hbits]
        decide
      rw [if_neg hnot, if_pos hbits]
  tmsi2tlli_local tmsi := rfl

/-- The SGSN with its record after such steps. -/
def changeRun (build : SgsnBuild) (G : SgsnInstance × Pending → SgsnEvent → Prop) [∀ t ev, Decidable (G t ev)]
    (evs : List SgsnEvent) : Option (SgsnInstance × Pending) :=
  guardedRun (recorded (sgsnStep build) (pendingAfter build)) G ({}, fun _ => none) evs

theorem reachableBy_changeRun {build : SgsnBuild} {G : SgsnInstance × Pending → SgsnEvent → Prop}
    [∀ t ev, Decidable (G t ev)] {evs : List SgsnEvent} {t : SgsnInstance × Pending}
    (h : changeRun build G evs = some t) : ReachableBy (changeSystem build) G t := by
  apply ReachableBy.guardedRun _ (.init _) h
  · apply step_recorded
    exact fun _ _ _ hstep => hstep
  · exact ⟨⟨.empty, rfl⟩, rfl⟩

/-- A station attaches, and updates its routeing area with the local TLLI that it has got. -/
def updated : Option (SgsnInstance × Pending) :=
  changeRun checkingBuild (StepRoutes checkingBuild)
    [.attachImsi 0x78000001 homeCell ['2', '6', '2', '4', '2', '1'] [1],
      .idResp 0x78000001 homeCell .imei ['9', '0'],
      .gmm 0xc0000001 homeCell .attachCompl [],
      .gmm 0x80000001 { homeCell with rac := 2 } (.raUpdReq { oldRaId := homeCell }) [2]]

theorem tllisRouted_updated : ∃ t ∈ updated, t.2 0 = some ⟨0, 0x80000001, 0xc0000002⟩ ∧
    TllisRouted checkingBuild t := by
  obtain ⟨t, ht, hpending⟩ : ∃ t ∈ updated, t.2 0 = some ⟨0, 0x80000001, 0xc0000002⟩ := by decide +kernel
  exact ⟨t, ht, hpending, tllisRouted_of_stepRoutes standard_ts23003 (reachableBy_changeRun ht)⟩

/-- A station attaches with a foreign TLLI. -/
def attachedForeign : Option (SgsnInstance × Pending) :=
  changeRun checkingBuild (fun _ _ => True) [.attachImsi 0x80000005 homeCell ['2', '6', '2', '4', '2', '1'] [1]]

theorem not_tllisRouted_attachedForeign : ∃ t, Reachable (changeSystem checkingBuild) t ∧
    ¬ TllisRouted checkingBuild t := by
  obtain ⟨t, ht, hpending, hnone, hnext⟩ : ∃ t ∈ attachedForeign, t.2 0 = some ⟨0, 0x80000005, 0xc0000001⟩ ∧
      lleByTlli checkingBuild t.1.llmes 0x80000005 = none ∧ t.1.llmes.next = 2 := by decide +kernel
  refine ⟨t, reachableBy_changeRun ht, ?_⟩
  intro hrouted
  have htlli : tlliForeign2local checkingBuild 0x80000005 ≠ tlliUnassigned := by decide
  have hframe := hrouted.change 0 _ hpending
    { id := { tlli := 0x80000005 }, cell := homeCell, data := .none } htlli (.inl rfl)
  unfold llmeOfFrame at hframe
  rw [hnone] at hframe
  -- the identity request has made a second LLME, which is not found either, and this frame makes a third
  obtain ⟨-, hsecond⟩ := Prod.mk.inj (some.inj hframe)
  rw [hnext] at hsecond
  cases hsecond

end OpenBsc.Sgsn
