import OpenBsc.Sgsn.LlReqs

/-!
# `Sgsn.Admission` — who is registered

A context should be registered only when an attach request was received on it since it was last deregistered, both
identities are known, and the IMSI is let into the network. Attach requests are recorded beside the state. The IMSI is
compared with the network only when an attach request with an IMSI makes a context, not when the context is there
already, nor when an identity response brings the IMSI; and an identity response completes an attach that was never
begun. Where none of this happens (`StepAdmits`), only those are registered that should be.
-/

namespace OpenBsc.Sgsn

open Transition MmCtx Pool List Option

/-! ## The purpose -/

/-- The IMSI is let into the network of the routeing area. -/
def ImsiAllowed (build : SgsnBuild) (raId : GprsRaId) (imsi : MiString) : Prop :=
  build.allowAllImsi = true ∨ homeImsi raId imsi = true

instance (build : SgsnBuild) (raId : GprsRaId) (imsi : MiString) : Decidable (ImsiAllowed build raId imsi) :=
  inferInstanceAs (Decidable (_ ∨ _))

/-- The context that an attach request is taken for, with the routeing area of its cell. -/
def MmReq.attaches (mms : Pool MmCtx) : MmReq → Option (Nat × GprsRaId)
  | attach i _ cell _ => some (i, cell)
  | attachNew _ _ cell _ => some (mms.next, cell)
  | _ => none

/-- Where the attach requests for each context came from. -/
abbrev Attached := Nat → List GprsRaId

/-- One more attach request. -/
def Attached.add (attached : Attached) : Option (Nat × GprsRaId) → Attached
  | none => attached
  | some (i, cell) => fun j => if j = i then cell :: attached j else attached j

/-- The attach requests for each context since it was last deregistered. -/
def attachedAfter (build : SgsnBuild) (attached : Attached) (s : SgsnInstance) (ev : SgsnEvent) (s' : SgsnInstance) :
    Attached := fun i =>
  if (s'.gmm.mms.get? i).any fun ctx => ctx.mmState == .deregistered then []
  else attached.add ((mmReq build s ev).2.attaches (mmReq build s ev).1) i

/-- An SGSN with that record. -/
def admSystem (build : SgsnBuild) : System (SgsnInstance × Attached) SgsnEvent :=
  (sgsnSystem build).recording (fun _ => []) (attachedAfter build)

/-- Both identities are known, and one of the attach requests came from a network that the IMSI is let into. -/
structure Admitted (build : SgsnBuild) (cells : List GprsRaId) (ctx : MmCtx) : Prop where
  imsi : ctx.imsi ≠ []
  imei : ctx.imei ≠ []
  attached : ∃ raId ∈ cells, ImsiAllowed build raId ctx.imsi

/-- Every context that is registered was admitted since it was last deregistered. -/
def AdmittedOnly (build : SgsnBuild) (t : SgsnInstance × Attached) : Prop :=
  ∀ i ctx, t.1.gmm.mms.get? i = some ctx → ctx.mmState = .registeredNormal → Admitted build (t.2 i) ctx

/-! ## The condition -/

/-- The context with the identity of a response. -/
def MmCtx.told (mi : MobileId) (ctx : MmCtx) : MmCtx :=
  match mi.type with
  | .imsi => { ctx with imsi := strncpyImsi mi.str }
  | .imei => { ctx with imei := strncpyImsi mi.str }
  | _ => ctx

/-- A request does not go past the checks: an attach request for a known context whose IMSI is let in, unless it is
    attaching already; an identity response that brings an IMSI that is let in, and completes the identities only of a
    context that is attaching. -/
def ReqAdmits (build : SgsnBuild) (mms : Pool MmCtx) (attached : Attached) : MmReq → Prop
  | .attach i _ cell _ =>
    ∀ ctx ∈ mms.get? i, attached i = [] → ctx.imsi ≠ [] → ImsiAllowed build cell ctx.imsi
  | .idResp i mi =>
    ∀ ctx ∈ mms.get? i,
      ((ctx.told mi).imei ≠ [] → (ctx.told mi).imsi ≠ [] → attached i ≠ []) ∧
        (mi.type = .imsi → attached i ≠ [] → strncpyImsi mi.str ≠ [] →
          ∃ raId ∈ attached i, ImsiAllowed build raId (strncpyImsi mi.str))
  | _ => True

/-- A step that does not. -/
def StepAdmits (build : SgsnBuild) (t : SgsnInstance × Attached) (ev : SgsnEvent) : Prop :=
  ReqAdmits build (mmReq build t.1 ev).1 t.2 (mmReq build t.1 ev).2

instance (build : SgsnBuild) (mms : Pool MmCtx) (attached : Attached) (req : MmReq) :
    Decidable (ReqAdmits build mms attached req) :=
  match req with
  | .attach i .. => inferInstanceAs (Decidable (∀ ctx ∈ mms.get? i, _))
  | .idResp i _ => inferInstanceAs (Decidable (∀ ctx ∈ mms.get? i, _))
  | .keep | .attachNew .. | .raUpd .. | .complete .. | .detach _ | .timer _ | .suspend _ | .resume _ =>
    inferInstanceAs (Decidable True)

instance (build : SgsnBuild) (t : SgsnInstance × Attached) (ev : SgsnEvent) : Decidable (StepAdmits build t ev) :=
  inferInstanceAs (Decidable (ReqAdmits build (mmReq build t.1 ev).1 t.2 (mmReq build t.1 ev).2))

/-! ## The step -/

/-- What is kept of a context: one that is registered is identified and attached, and the IMSI of one that is attached
    is let in. -/
structure Admits (build : SgsnBuild) (cells : List GprsRaId) (ctx : MmCtx) : Prop where
  identified : ctx.mmState = .registeredNormal ∨ ctx.mmState = .registeredSuspended →
    ctx.imsi ≠ [] ∧ ctx.imei ≠ [] ∧ cells ≠ []
  allowed : cells ≠ [] → ctx.imsi ≠ [] → ∃ raId ∈ cells, ImsiAllowed build raId ctx.imsi

variable {build : SgsnBuild} {mms mms' : Pool MmCtx} {attached : Attached} {cells : List GprsRaId}

variable {ctx : MmCtx}

theorem Admits.of_deregistered (h : ctx.mmState = .deregistered) : Admits build [] ctx where
  identified hreg := by rcases hreg with hreg | hreg <;> cases h.symm.trans hreg
  allowed hcells := absurd rfl hcells

theorem Admits.admitted (h : Admits build cells ctx) (hreg : ctx.mmState = .registeredNormal) :
    Admitted build cells ctx where
  imsi := (h.identified (.inl hreg)).1
  imei := (h.identified (.inl hreg)).2.1
  attached := h.allowed (h.identified (.inl hreg)).2.2 (h.identified (.inl hreg)).1

/-- A change of other fields, that registers nobody. -/
theorem Admits.same {ctx' : MmCtx} (h : Admits build cells ctx) (himsi : ctx'.imsi = ctx.imsi)
    (himei : ctx'.imei = ctx.imei)
    (hstate : ctx'.mmState = .registeredNormal ∨ ctx'.mmState = .registeredSuspended →
      ctx.mmState = .registeredNormal ∨ ctx.mmState = .registeredSuspended) :
    Admits build cells ctx' where
  identified hreg := by
    rw [himsi, himei]
    exact h.identified (hstate hreg)
  allowed := by
    rw [himsi]
    exact h.allowed

theorem Admits.authorize (hattached : ctx.imei ≠ [] → ctx.imsi ≠ [] → cells ≠ [])
    (hallowed : cells ≠ [] → ctx.imsi ≠ [] → ∃ raId ∈ cells, ImsiAllowed build raId ctx.imsi) (mode : GprsT3350Mode) :
    Admits build cells (ctx.authorize mode).1 := by
  rcases authorize_cases ctx mode with ⟨himei, himsi, heq⟩ | ⟨-, idType, heq⟩
  · rw [heq]
    exact { identified := fun _ => ⟨himsi, himei, hattached himei himsi⟩, allowed := hallowed }
  · rw [heq]
    refine { identified := ?_, allowed := hallowed }
    intro hreg
    rcases hreg with hreg | hreg <;> cases hreg

theorem timerCb_cases (ctx : MmCtx) : (mmctxTimerCb ctx).1.mmState = .deregistered ∨
    (mmctxTimerCb ctx).1.mmState = ctx.mmState ∧ (mmctxTimerCb ctx).1.imsi = ctx.imsi ∧
      (mmctxTimerCb ctx).1.imei = ctx.imei := by
  unfold mmctxTimerCb
  dsimp only
  split
  all_goals first
    | exact .inr ⟨rfl, rfl, rfl⟩
    | split
      · exact .inl rfl
      · exact .inr ⟨rfl, rfl, rfl⟩

/-- All contexts agree with the record. -/
def AllAdmit (build : SgsnBuild) (mms : Pool MmCtx) (attached : Attached) : Prop :=
  ∀ i ctx, mms.get? i = some ctx → Admits build (attached i) ctx

/-- All do that are not deregistered; the record does not know yet that the others are. -/
def RestAdmit (build : SgsnBuild) (mms : Pool MmCtx) (attached : Attached) : Prop :=
  ∀ i ctx, mms.get? i = some ctx → ctx.mmState ≠ .deregistered → Admits build (attached i) ctx

section

variable (h : AllAdmit build mms attached)

include h

theorem AllAdmit.rest : RestAdmit build mms attached := fun i ctx hget _ => h i ctx hget

theorem AllAdmit.touched (htouch : Touches mms mms') :
    AllAdmit build mms' attached := by
  intro i ctx' hget
  obtain ⟨ctx, hctx, hsame⟩ := htouch.get? hget
  obtain ⟨himsi, himei, -, -, hstate, -, -⟩ := untouched_inj hsame
  apply (h i ctx hctx).same himsi himei
  rw [hstate]
  exact id

theorem AllAdmit.remove (j : Nat) : AllAdmit build (mms.remove j) attached := by
  intro i ctx hget
  rw [get?_remove] at hget
  split at hget
  · cases hget
  · exact h i ctx hget

/-- A change of other fields of one context, that registers nobody. -/
theorem AllAdmit.same (i : Nat) {f : MmCtx → MmCtx}
    (hf : ∀ ctx, (f ctx).imsi = ctx.imsi ∧ (f ctx).imei = ctx.imei ∧
      ((f ctx).mmState = .registeredNormal ∨ (f ctx).mmState = .registeredSuspended →
        ctx.mmState = .registeredNormal ∨ ctx.mmState = .registeredSuspended)) :
    AllAdmit build (mms.modify i f) attached := by
  intro j ctx' hget
  rw [get?_modify] at hget
  split at hget
  · obtain ⟨ctx, hctx, rfl⟩ := map_eq_some_iff.mp hget
    exact (h j ctx hctx).same (hf ctx).1 (hf ctx).2.1 (hf ctx).2.2
  · exact h j ctx' hget

/-- A change of one context. -/
theorem AllAdmit.modify {i : Nat} {f : MmCtx → MmCtx} {attached' : Attached}
    (hf : ∀ ctx, mms.get? i = some ctx → (f ctx).mmState ≠ .deregistered → Admits build (attached' i) (f ctx))
    (hother : ∀ j, j ≠ i → attached' j = attached j) : RestAdmit build (mms.modify i f) attached' := by
  intro j ctx' hget hstate
  rw [get?_modify] at hget
  split at hget
  case isTrue heq =>
    subst heq
    obtain ⟨ctx, hctx, rfl⟩ := map_eq_some_iff.mp hget
    exact hf ctx hctx hstate
  case isFalse hne =>
    rw [hother j hne]
    exact h j ctx' hget

end

theorem Admits.attach (hcells : cells ≠ [])
    (hallowed : ctx.imsi ≠ [] → ∃ raId ∈ cells, ImsiAllowed build raId ctx.imsi) (id : MsgId) (cell : GprsRaId)
    (l : Nat) (pTmsi : BitVec 32) : Admits build cells (ctx.attach build id cell l pTmsi).1 := by
  unfold MmCtx.attach
  apply Admits.authorize
  · exact fun _ _ => hcells
  · exact fun _ => hallowed

theorem restAdmit_attach (h : AllAdmit build mms attached) {i : Nat} {id : MsgId} {cell : GprsRaId} {l : Nat}
    (hreq : ReqAdmits build mms attached (.attach i id cell l)) (pTmsi : BitVec 32) :
    RestAdmit build (mms.modify i fun ctx => (ctx.attach build id cell l pTmsi).1)
      (attached.add (some (i, cell))) := by
  have hi : attached.add (some (i, cell)) i = cell :: attached i := if_pos rfl
  apply h.modify
  · intro ctx hctx _
    rw [hi]
    apply Admits.attach (cons_ne_nil _ _)
    intro himsi
    by_cases hcells : attached i = []
    · exact ⟨cell, mem_cons_self, hreq ctx hctx hcells himsi⟩
    -- one that is attaching already was let in before
    · obtain ⟨raId, hmem, hallowed⟩ := (h i ctx hctx).allowed hcells himsi
      exact ⟨raId, mem_cons_of_mem cell hmem, hallowed⟩
  · intro j hj
    exact if_neg hj

theorem imsiAllowed_of_attReqCtx {ctx : Option Nat} {id : MsgId} {cell : GprsRaId} {mi : MobileId} {base : MmCtx}
    (h : attReqCtx build mms ctx id cell mi = .ok (.new base)) (himsi : base.imsi ≠ []) :
    ImsiAllowed build cell base.imsi := by
  unfold attReqCtx at h
  split at h
  · split at h
    · cases h
    · split at h
      · cases h
      · rename_i hchecked
        cases h
        have hfive : (strncpyImsi mi.str).take 5 = mi.str.take 5 := by
          rw [strncpyImsi, take_take]
          rfl
        unfold ImsiAllowed homeImsi
        rw [hfive]
        by_cases hall : build.allowAllImsi = false
        · exact .inr (eq_true_of_ne_false fun hhome => hchecked ⟨hall, hhome⟩)
        · exact .inl (eq_true_of_ne_false hall)
  · split at h
    · cases h
    · cases h
      exact absurd rfl himsi
  · cases h

theorem restAdmit_attachNew (h : AllAdmit build mms attached) {base : MmCtx} {id : MsgId} {cell : GprsRaId} {l : Nat}
    (himsi : base.imsi ≠ [] → ImsiAllowed build cell base.imsi) (pTmsi : BitVec 32) :
    RestAdmit build (mms.alloc (base.attach build id cell l pTmsi).1) (attached.add (some (mms.next, cell))) := by
  intro i ctx hget _
  rw [get?_alloc] at hget
  split at hget
  case isTrue hi =>
    subst hi
    cases hget
    have hcells : attached.add (some (mms.next, cell)) mms.next = cell :: attached mms.next := if_pos rfl
    rw [hcells]
    apply Admits.attach (cons_ne_nil _ _)
    exact fun hsome => ⟨cell, mem_cons_self, himsi hsome⟩
  case isFalse hi =>
    have hcells : attached.add (some (mms.next, cell)) i = attached i := if_neg hi
    rw [hcells]
    exact h i ctx hget

theorem told_imsi (mi : MobileId) (ctx : MmCtx) :
    (mi.type = .imsi ∧ (ctx.told mi).imsi = strncpyImsi mi.str) ∨ (ctx.told mi).imsi = ctx.imsi := by
  unfold told
  cases htype : mi.type with
  | imsi => exact .inl ⟨rfl, rfl⟩
  | _ => exact .inr rfl

/-- An identity response, to a context that is attaching if it completes the identities, with an IMSI that is let in. -/
theorem Admits.identify {mi : MobileId} (h : Admits build cells ctx)
    (hcomplete : (ctx.told mi).imei ≠ [] → (ctx.told mi).imsi ≠ [] → cells ≠ [])
    (himsi : mi.type = .imsi → cells ≠ [] → strncpyImsi mi.str ≠ [] →
      ∃ raId ∈ cells, ImsiAllowed build raId (strncpyImsi mi.str)) :
    Admits build cells (ctx.identify mi).1 := by
  have hauth : Admits build cells ((ctx.told mi).authorize (ctx.told mi).t3350Mode).1 := by
    apply Admits.authorize hcomplete
    intro hcells hsome
    rcases told_imsi mi ctx with ⟨htype, hnew⟩ | hkept
    · rw [hnew] at hsome ⊢
      exact himsi htype hcells hsome
    · rw [hkept] at hsome ⊢
      exact h.allowed hcells hsome
  exact hauth

/-- Stopping the timer changes nothing that the record is about. -/
theorem stopT3370_same (mi : MobileId) (ctx : MmCtx) : (ctx.stopT3370 mi).mmState = ctx.mmState ∧
    ((ctx.stopT3370 mi).told mi).imsi = (ctx.told mi).imsi ∧ ((ctx.stopT3370 mi).told mi).imei = (ctx.told mi).imei ∧
      (ctx.stopT3370 mi).imsi = ctx.imsi ∧ (ctx.stopT3370 mi).imei = ctx.imei := by
  unfold stopT3370 told
  split
  · cases mi.type <;> exact ⟨rfl, rfl, rfl, rfl, rfl⟩
  · exact ⟨rfl, rfl, rfl, rfl, rfl⟩

theorem restAdmit_idResp (h : AllAdmit build mms attached) {i : Nat} {mi : MobileId}
    (hreq : ReqAdmits build mms attached (.idResp i mi)) : RestAdmit build (idRespMms mms i mi) attached := by
  have hstopped : AllAdmit build (mms.modify i (stopT3370 mi)) attached := by
    apply h.same
    intro ctx
    obtain ⟨hstate, -, -, himsi, himei⟩ := stopT3370_same mi ctx
    refine ⟨himsi, himei, ?_⟩
    rw [hstate]
    exact id
  -- whether another context is freed makes no difference to this one
  have hidentify (mms' : Pool MmCtx) (hall : AllAdmit build mms' attached)
      (hget : ∀ ctx, mms'.get? i = some ctx → (mms.modify i (stopT3370 mi)).get? i = some ctx) :
      RestAdmit build (mms'.modify i fun ctx => (ctx.identify mi).1) attached := by
    apply hall.modify ?_ fun _ _ => rfl
    intro ctx hctx _
    have hold := hget ctx hctx
    rw [get?_modify, if_pos rfl] at hold
    obtain ⟨old, hmem, rfl⟩ := map_eq_some_iff.mp hold
    obtain ⟨hcomplete, himsi⟩ := hreq old hmem
    obtain ⟨-, htold, htold', -, -⟩ := stopT3370_same mi old
    apply (hall i _ hctx).identify
    · rw [htold, htold']
      exact hcomplete
    · exact himsi
  unfold idRespMms
  dsimp only
  split
  · exact hidentify _ hstopped fun ctx hctx => hctx
  · apply hidentify _ (hstopped.remove _)
    intro ctx hctx
    rw [get?_remove] at hctx
    split at hctx
    · cases hctx
    · exact hctx

/-- **The step.** After a request that does not go past the checks, what is not deregistered agrees with the record. -/
theorem restAdmit_apply (h : AllAdmit build mms attached) {req : MmReq} {rands : List (BitVec 32)}
    (hreq : ReqAdmits build mms attached req)
    (hnew : ∀ base id cell l, req = .attachNew base id cell l → base.imsi ≠ [] → ImsiAllowed build cell base.imsi)
    (happly : req.apply build mms rands = some mms') : RestAdmit build mms' (attached.add (req.attaches mms)) := by
  cases req with
  | keep =>
    cases happly
    exact h.rest
  | attach i id cell l =>
    obtain ⟨pTmsi, -, rfl⟩ := map_eq_some_iff.mp happly
    exact restAdmit_attach h hreq pTmsi
  | attachNew base id cell l =>
    obtain ⟨pTmsi, -, rfl⟩ := map_eq_some_iff.mp happly
    exact restAdmit_attachNew h (hnew base id cell l rfl) pTmsi
  | idResp i mi =>
    cases happly
    exact restAdmit_idResp h hreq
  | raUpd i _ cell =>
    obtain ⟨pTmsi, -, rfl⟩ := map_eq_some_iff.mp happly
    apply (h.same i _).rest
    exact fun ctx => ⟨rfl, rfl, id⟩
  | complete i reall =>
    cases happly
    apply (h.same i _).rest
    exact fun ctx => ⟨rfl, rfl, id⟩
  | detach i =>
    cases happly
    apply h.modify ?_ fun _ _ => rfl
    exact fun ctx _ hstate => absurd rfl hstate
  | timer i =>
    cases happly
    apply h.modify ?_ fun _ _ => rfl
    intro ctx hctx hstate
    rcases timerCb_cases ctx.timerStop with hdereg | ⟨hsame, himsi, himei⟩
    · exact absurd hdereg hstate
    · apply (h i ctx hctx).same himsi himei
      rw [hsame]
      exact id
  | suspend i =>
    cases happly
    apply (h.same i _).rest
    intro ctx
    unfold suspend
    split
    case isTrue hreg => exact ⟨rfl, rfl, fun _ => .inl hreg⟩
    case isFalse => exact ⟨rfl, rfl, id⟩
  | resume i =>
    cases happly
    apply (h.same i _).rest
    intro ctx
    unfold resume
    split
    case isTrue hreg => exact ⟨rfl, rfl, fun _ => .inr hreg⟩
    case isFalse => exact ⟨rfl, rfl, id⟩

/-! ## The result -/

/-- **Only those are registered that are admitted.** In every run in which no step goes past the checks, a context is
    registered only when both identities are known and, since it was last deregistered, an attach request came from a
    network that the IMSI is let into. -/
theorem admittedOnly_of_stepAdmits {build : SgsnBuild} {t : SgsnInstance × Attached}
    (h : ReachableBy (admSystem build) (StepAdmits build) t) : AdmittedOnly build t := by
  have hall : AllAdmit build t.1.gmm.mms t.2 := by
    refine h.invariant (I := fun t => AllAdmit build t.1.gmm.mms t.2) ?_ ?_
    · rintro ⟨s, attached⟩ ⟨⟨ggsns, rfl⟩, rfl⟩ i ctx hget
      cases hget
    · intro t ev t' hall hadmits ⟨hstep, hrecord⟩ i ctx hget
      have hrest := restAdmit_apply (hall.touched (touches_mmReq build t.1 ev)) hadmits
        (fun base id cell l hnew => by
          obtain ⟨mmctx, mi, hctx⟩ := attachNew_of_mmReq hnew
          exact imsiAllowed_of_attReqCtx hctx) (sgsnStep_mms hstep)
      rw [hrecord, attachedAfter, hget, any_some]
      by_cases hdereg : ctx.mmState = .deregistered
      · rw [if_pos (beq_iff_eq.mpr hdereg)]
        exact Admits.of_deregistered hdereg
      · rw [if_neg fun hbeq => hdereg (beq_iff_eq.mp hbeq)]
        exact hrest i ctx hget hdereg
  intro i ctx hget hreg
  exact (hall i ctx hget).admitted hreg

/-- An SGSN that lets all IMSIs in. -/
def openBuild : SgsnBuild := { coding := .ts23003, allowAllImsi := true }

/-- The SGSN with its record after such steps. -/
def admRun (build : SgsnBuild) (G : SgsnInstance × Attached → SgsnEvent → Prop) [∀ t ev, Decidable (G t ev)]
    (evs : List SgsnEvent) : Option (SgsnInstance × Attached) :=
  guardedRun (recorded (sgsnStep build) (attachedAfter build)) G ({}, fun _ => []) evs

theorem reachableBy_admRun {build : SgsnBuild} {G : SgsnInstance × Attached → SgsnEvent → Prop}
    [∀ t ev, Decidable (G t ev)] {evs : List SgsnEvent} {t : SgsnInstance × Attached}
    (h : admRun build G evs = some t) : ReachableBy (admSystem build) G t := by
  apply ReachableBy.guardedRun _ (.init _) h
  · apply step_recorded
    exact fun _ _ _ hstep => hstep
  · exact ⟨⟨.empty, rfl⟩, rfl⟩

/-- A station attaches, tells its IMEI, detaches and attaches again. -/
def attachedAgain : Option (SgsnInstance × Attached) :=
  admRun checkingBuild (StepAdmits checkingBuild)
    [.attachImsi 0x78000001 homeCell ['2', '6', '2', '4', '2', '1'] [1],
      .idResp 0x78000001 homeCell .imei ['9', '0'],
      .gmm 0x78000001 homeCell .detachReq [],
      .attachImsi 0x78000002 homeCell ['2', '6', '2', '4', '2', '1'] [2]]

theorem admittedOnly_attachedAgain : ∃ t ∈ attachedAgain, ∃ ctx ∈ t.1.gmm.mms.get? 0,
    ctx.mmState = .registeredNormal ∧ Admitted checkingBuild (t.2 0) ctx := by
  obtain ⟨t, ht, ctx, hctx, hreg⟩ : ∃ t ∈ attachedAgain, ∃ ctx ∈ t.1.gmm.mms.get? 0,
      ctx.mmState = .registeredNormal := by decide +kernel
  exact ⟨t, ht, ctx, hctx, hreg, admittedOnly_of_stepAdmits (reachableBy_admRun ht) 0 ctx hctx hreg⟩

/-- A station attaches, tells its IMEI, detaches, and tells its IMEI once more. -/
def toldAgain : Option (SgsnInstance × Attached) :=
  admRun openBuild (fun _ _ => True)
    [.attachImsi 0x78000001 homeCell ['2', '6', '2', '4', '2', '1'] [1],
      .idResp 0x78000001 homeCell .imei ['9', '0'],
      .gmm 0x78000001 homeCell .detachReq [],
      .idResp 0x78000001 homeCell .imei ['9', '0']]

theorem not_admittedOnly_toldAgain : ∃ t, Reachable (admSystem openBuild) t ∧ ¬ AdmittedOnly openBuild t := by
  obtain ⟨t, ht, ctx, hctx, hreg, hnone⟩ : ∃ t ∈ toldAgain, ∃ ctx ∈ t.1.gmm.mms.get? 0,
      ctx.mmState = .registeredNormal ∧ t.2 0 = [] := by decide +kernel
  refine ⟨t, reachableBy_admRun ht, ?_⟩
  intro hadmitted
  obtain ⟨raId, hmem, -⟩ := (hadmitted 0 ctx hctx hreg).attached
  rw [hnone] at hmem
  cases hmem

end OpenBsc.Sgsn
