import OpenBsc.Sgsn.LlReqs

/-!
# `Sgsn.Identity` — one MM context for a subscriber

No two MM contexts should have one IMSI, nor P-TMSIs that stand for one local TLLI. An identity response is only
checked against the other contexts when its own context has no IMSI; it can give any context the IMSI of another.
`sgsn_alloc_ptmsi` compares whole P-TMSIs, though the two highest bits do not reach the TLLI, and does not look at the
old P-TMSIs, which stay valid; and a P-TMSI that no context has is taken from an attach request as it is. Where none of
this happens (`StepFresh`), the identities stay apart.
-/

namespace OpenBsc.Sgsn

open Transition MmCtx Pool Pool.Pairwise List Option

/-! ## The purpose -/

/-- The P-TMSIs of a context; the old one counts until the new one is confirmed. -/
def MmCtx.ptmsis (ctx : MmCtx) : List (BitVec 32) := ctx.pTmsi :: if ctx.pTmsiOld = 0 then [] else [ctx.pTmsiOld]

/-- The local TLLI of a P-TMSI. -/
def TlliCoding.localTlli (coding : TlliCoding) (pTmsi : BitVec 32) : BitVec 32 :=
  coding.gprsTmsi2tlli pTmsi .tlliLocal

/-- Two contexts share no identity. -/
structure IdentitiesApart (coding : TlliCoding) (a b : MmCtx) : Prop where
  imsi : a.imsi ≠ [] → a.imsi ≠ b.imsi
  ptmsi : ∀ p ∈ a.ptmsis, ∀ q ∈ b.ptmsis, p ≠ q
  localTlli : ∀ p ∈ a.ptmsis, ∀ q ∈ b.ptmsis, coding.localTlli p ≠ coding.localTlli q

/-- No two contexts share an identity. -/
def UniqueIdentities (coding : TlliCoding) (mms : Pool MmCtx) : Prop := mms.Pairwise (IdentitiesApart coding)

/-! ## The condition -/

/-- No other context has a P-TMSI with the same local TLLI. -/
def PtmsiFree (coding : TlliCoding) (mms : Pool MmCtx) (i : Nat) (pTmsi : BitVec 32) : Prop :=
  ∀ j ctx, mms.get? j = some ctx → j ≠ i → ∀ q ∈ ctx.ptmsis, coding.localTlli pTmsi ≠ coding.localTlli q

/-- No other context has the IMSI, if it is one. -/
def ImsiFree (mms : Pool MmCtx) (i : Nat) (imsi : MiString) : Prop :=
  imsi ≠ [] → ∀ j ctx, mms.get? j = some ctx → j ≠ i → imsi ≠ ctx.imsi

/-- What `rand` gives is the P-TMSI of a context, and not taken, or free. -/
def RandsFree (coding : TlliCoding) (mms : Pool MmCtx) (i : Nat) (rands : List (BitVec 32)) : Prop :=
  ∀ pTmsi ∈ rands, ptmsiInUse mms pTmsi = true ∨ PtmsiFree coding mms i pTmsi

/-- A request gives a context no identity of another: what `rand` gives is free; so is the P-TMSI that a station brings
    along, and the IMSI in the response of a context that has one already. An IMSI that is cut off is free, too. -/
def ReqFresh (coding : TlliCoding) (mms : Pool MmCtx) (rands : List (BitVec 32)) : MmReq → Prop
  | .attach i .. => RandsFree coding mms i rands
  | .raUpd i .. => RandsFree coding mms i rands
  | .attachNew base .. =>
    RandsFree coding (mms.alloc base) mms.next rands ∧ (base.pTmsi ≠ 0 → PtmsiFree coding mms mms.next base.pTmsi) ∧
      (17 ≤ base.imsi.length → ImsiFree mms mms.next base.imsi)
  | .idResp i mi =>
    ∀ ctx ∈ mms.get? i, mi.type = .imsi → ctx.imsi ≠ [] ∨ 17 < mi.str.length → ImsiFree mms i (strncpyImsi mi.str)
  | _ => True

/-- A step that gives no context an identity of another. -/
def StepFresh (build : SgsnBuild) (s : SgsnInstance) (ev : SgsnEvent) : Prop :=
  ReqFresh build.coding (mmReq build s ev).1 ev.rands (mmReq build s ev).2

instance (coding : TlliCoding) (mms : Pool MmCtx) (i : Nat) (pTmsi : BitVec 32) :
    Decidable (PtmsiFree coding mms i pTmsi) :=
  have (ctx : MmCtx) : Decidable (∀ q ∈ ctx.ptmsis, coding.localTlli pTmsi ≠ coding.localTlli q) :=
    List.decidableBAll _ _
  inferInstanceAs (Decidable (∀ j ctx, mms.get? j = some ctx → j ≠ i → _))

instance (mms : Pool MmCtx) (i : Nat) (imsi : MiString) : Decidable (ImsiFree mms i imsi) :=
  inferInstanceAs (Decidable (imsi ≠ [] → ∀ j ctx, mms.get? j = some ctx → j ≠ i → imsi ≠ ctx.imsi))

instance (coding : TlliCoding) (mms : Pool MmCtx) (i : Nat) (rands : List (BitVec 32)) :
    Decidable (RandsFree coding mms i rands) :=
  List.decidableBAll (fun pTmsi => ptmsiInUse mms pTmsi = true ∨ PtmsiFree coding mms i pTmsi) rands

instance (coding : TlliCoding) (mms : Pool MmCtx) (rands : List (BitVec 32)) (req : MmReq) :
    Decidable (ReqFresh coding mms rands req) :=
  match req with
  | .attach i .. => inferInstanceAs (Decidable (RandsFree coding mms i rands))
  | .raUpd i .. => inferInstanceAs (Decidable (RandsFree coding mms i rands))
  | .attachNew .. => inferInstanceAs (Decidable (_ ∧ _ ∧ _))
  | .idResp i _ => inferInstanceAs (Decidable (∀ ctx ∈ mms.get? i, _))
  | .keep | .complete .. | .detach _ | .timer _ | .suspend _ | .resume _ => inferInstanceAs (Decidable True)

instance (build : SgsnBuild) (s : SgsnInstance) (ev : SgsnEvent) : Decidable (StepFresh build s ev) :=
  inferInstanceAs (Decidable (ReqFresh build.coding (mmReq build s ev).1 ev.rands (mmReq build s ev).2))

/-! ## The step -/

variable {coding : TlliCoding} {mms mms' : Pool MmCtx}

theorem identitiesApart {a b : MmCtx} (himsi : a.imsi ≠ [] → a.imsi ≠ b.imsi)
    (hlocal : ∀ p ∈ a.ptmsis, ∀ q ∈ b.ptmsis, coding.localTlli p ≠ coding.localTlli q) :
    IdentitiesApart coding a b where
  imsi := himsi
  localTlli := hlocal
  ptmsi p hp q hq hsame := hlocal p hp q hq (congrArg coding.localTlli hsame)

theorem IdentitiesApart.symm {a b : MmCtx} (h : IdentitiesApart coding a b) : IdentitiesApart coding b a := by
  apply identitiesApart
  · intro hb hsame
    apply h.imsi
    · rw [← hsame]
      exact hb
    · exact hsame.symm
  · intro p hp q hq hsame
    exact h.localTlli q hq p hp hsame.symm

/-- A context with fewer identities is apart from all that it was apart from. -/
theorem IdentitiesApart.of_fewer {a a' b : MmCtx} (h : IdentitiesApart coding a b) (himsi : a'.imsi = a.imsi)
    (hptmsis : ∀ p ∈ a'.ptmsis, p ∈ a.ptmsis) : IdentitiesApart coding a' b := by
  apply identitiesApart
  · rw [himsi]
    exact h.imsi
  · intro p hp
    exact h.localTlli p (hptmsis p hp)

theorem UniqueIdentities.touched (h : UniqueIdentities coding mms) (htouch : Touches mms mms') :
    UniqueIdentities coding mms' := by
  intro i a j b ha hb hij
  obtain ⟨a₀, ha₀, hsame⟩ := htouch.get? ha
  obtain ⟨b₀, hb₀, hsame'⟩ := htouch.get? hb
  have hapart := h i a₀ j b₀ ha₀ hb₀ hij
  obtain ⟨himsi, -, hnew, hold, -⟩ := untouched_inj hsame
  obtain ⟨himsi', -, hnew', hold', -⟩ := untouched_inj hsame'
  apply identitiesApart
  · rw [himsi, himsi']
    exact hapart.imsi
  · simp only [ptmsis, hnew, hold, hnew', hold']
    exact hapart.localTlli

variable {f : MmCtx → MmCtx}

theorem UniqueIdentities.fewer (h : UniqueIdentities coding mms) (i : Nat) (himsi : ∀ ctx, (f ctx).imsi = ctx.imsi)
    (hptmsis : ∀ ctx, ∀ p ∈ (f ctx).ptmsis, p ∈ ctx.ptmsis) : UniqueIdentities coding (mms.modify i f) := by
  apply modify h
  · exact fun a b => IdentitiesApart.symm
  · intro ctx hctx j other hother hne
    exact (h i ctx j other hctx hother hne.symm).of_fewer (himsi ctx) (hptmsis ctx)

theorem UniqueIdentities.same (h : UniqueIdentities coding mms) (i : Nat)
    (hf : ∀ ctx, (f ctx).imsi = ctx.imsi ∧ (f ctx).pTmsi = ctx.pTmsi ∧ (f ctx).pTmsiOld = ctx.pTmsiOld) :
    UniqueIdentities coding (mms.modify i f) := by
  apply h.fewer i
  · exact fun ctx => (hf ctx).1
  · intro ctx p hp
    rwa [ptmsis, (hf ctx).2.1, (hf ctx).2.2] at hp

variable {i : Nat} {pTmsi : BitVec 32}

/-- A context gets a P-TMSI that is free, and its P-TMSI becomes the old one. -/
theorem UniqueIdentities.realloc (h : UniqueIdentities coding mms) (hfree : PtmsiFree coding mms i pTmsi)
    (hf : ∀ ctx, (f ctx).imsi = ctx.imsi ∧ (f ctx).pTmsi = pTmsi ∧ (f ctx).pTmsiOld = ctx.pTmsi) :
    UniqueIdentities coding (mms.modify i f) := by
  apply modify h
  · exact fun a b => IdentitiesApart.symm
  · intro ctx hctx j other hother hne
    obtain ⟨himsi, hnew, hold⟩ := hf ctx
    have hapart := h i ctx j other hctx hother hne.symm
    apply identitiesApart
    · rw [himsi]
      exact hapart.imsi
    · intro p hp
      rw [ptmsis, hnew, hold] at hp
      rcases mem_cons.mp hp with rfl | hp
      · exact hfree j other hother hne
      · split at hp
        · cases hp
        · obtain rfl := mem_singleton.mp hp
          exact hapart.localTlli _ mem_cons_self

theorem identity_authorize (ctx : MmCtx) (mode : GprsT3350Mode) :
    (ctx.authorize mode).1.imsi = ctx.imsi ∧ (ctx.authorize mode).1.pTmsi = ctx.pTmsi ∧
      (ctx.authorize mode).1.pTmsiOld = ctx.pTmsiOld := by
  rcases authorize_cases ctx mode with ⟨-, -, heq⟩ | ⟨-, idType, heq⟩
  · rw [heq]
    exact ⟨rfl, rfl, rfl⟩
  · rw [heq]
    exact ⟨rfl, rfl, rfl⟩

theorem identity_attach (build : SgsnBuild) (id : MsgId) (cell : GprsRaId) (l : Nat) (pTmsi : BitVec 32)
    (ctx : MmCtx) : (ctx.attach build id cell l pTmsi).1.imsi = ctx.imsi ∧
      (ctx.attach build id cell l pTmsi).1.pTmsi = pTmsi ∧
      (ctx.attach build id cell l pTmsi).1.pTmsiOld = ctx.pTmsi := identity_authorize _ _

theorem identity_timerCb (ctx : MmCtx) :
    (mmctxTimerCb ctx).1.imsi = ctx.imsi ∧ (mmctxTimerCb ctx).1.pTmsi = ctx.pTmsi ∧
      (mmctxTimerCb ctx).1.pTmsiOld = ctx.pTmsiOld := by
  unfold mmctxTimerCb
  dsimp only
  split
  all_goals first
    | exact ⟨rfl, rfl, rfl⟩
    | split <;> exact ⟨rfl, rfl, rfl⟩

variable {rands : List (BitVec 32)}

theorem RandsFree.drawn (h : RandsFree coding mms i rands) (hdrawn : sgsnAllocPtmsi mms rands = some pTmsi) :
    PtmsiFree coding mms i pTmsi := by
  obtain ⟨hmem, hnot⟩ := of_allocPtmsi hdrawn
  rcases h pTmsi hmem with huse | hfree
  · rw [hnot] at huse
    cases huse
  · exact hfree

theorem UniqueIdentities.named (h : UniqueIdentities coding mms) {imsi : MiString} (hfree : ImsiFree mms i imsi)
    (hf : ∀ ctx, (f ctx).imsi = imsi ∧ (f ctx).pTmsi = ctx.pTmsi ∧ (f ctx).pTmsiOld = ctx.pTmsiOld) :
    UniqueIdentities coding (mms.modify i f) := by
  apply modify h
  · exact fun a b => IdentitiesApart.symm
  · intro ctx hctx j other hother hne
    obtain ⟨himsi, hnew, hold⟩ := hf ctx
    have hapart := h i ctx j other hctx hother hne.symm
    apply identitiesApart
    · rw [himsi]
      exact fun hsome => hfree hsome j other hother hne
    · rw [ptmsis, hnew, hold]
      exact hapart.localTlli

theorem ImsiFree.modify {imsi : MiString} (h : ImsiFree mms i imsi) (f : MmCtx → MmCtx) :
    ImsiFree (mms.modify i f) i imsi := by
  intro hsome j other hother hne
  rw [get?_modify_ne hne] at hother
  exact h hsome j other hother hne

theorem ImsiFree.remove {imsi : MiString} (h : ImsiFree mms i imsi) (j : Nat) : ImsiFree (mms.remove j) i imsi := by
  intro hsome k other hother hne
  rw [get?_remove] at hother
  split at hother
  · cases hother
  · exact h hsome k other hother hne

theorem imsiFree_of_notFound {str : MiString} (h : sgsnMmCtxByImsi mms str = none) (i : Nat) : ImsiFree mms i str := by
  intro _ j other hother _ hsame
  have hnot := findLast?_eq_none.mp h j other hother
  simp [hsame] at hnot

theorem UniqueIdentities.imsiFree_remove (h : UniqueIdentities coding mms) {str : MiString} {j : Nat} {ictx : MmCtx}
    (hfound : sgsnMmCtxByImsi mms str = some (j, ictx)) (i : Nat) : ImsiFree (mms.remove j) i str := by
  intro hsome k other hother _
  obtain ⟨hget, himsi⟩ := of_findLast? hfound
  have himsi : str = ictx.imsi := by simpa using himsi
  rw [get?_remove] at hother
  split at hother
  case isTrue => cases hother
  case isFalse hkj =>
    rw [himsi] at hsome ⊢
    exact (h j ictx k other hget hother (Ne.symm hkj)).imsi hsome

theorem imsiFree_of_attReqCtx {build : SgsnBuild} {ctx : Option Nat} {id : MsgId} {cell : GprsRaId} {mi : MobileId}
    {base : MmCtx} (h : attReqCtx build mms ctx id cell mi = .ok (.new base)) (hshort : base.imsi.length < 17)
    (i : Nat) : ImsiFree mms i base.imsi := by
  unfold attReqCtx at h
  split at h
  · split at h
    · cases h
    · rename_i hnone
      split at h
      · cases h
      · cases h
        have hfound : sgsnMmCtxByImsi mms mi.str = none := by
          have hor := (or_eq_none_iff.mp hnone).2
          exact map_eq_none_iff.mp hor
        have hlen : mi.str.length ≤ 17 := by
          simp only [strncpyImsi, length_take] at hshort
          omega
        simp only [strncpyImsi, take_of_length_le hlen]
        exact imsiFree_of_notFound hfound i
  · split at h
    · cases h
    · cases h
      intro hsome
      exact absurd rfl hsome
  · cases h

theorem identity_identify (mi : MobileId) (ctx : MmCtx) :
    (ctx.identify mi).1.imsi = (if mi.type = .imsi then strncpyImsi mi.str else ctx.imsi) ∧
      (ctx.identify mi).1.pTmsi = ctx.pTmsi ∧ (ctx.identify mi).1.pTmsiOld = ctx.pTmsiOld := by
  unfold identify
  cases mi.type with
  | imsi => exact identity_authorize { ctx with imsi := strncpyImsi mi.str } ctx.t3350Mode
  | imei => exact identity_authorize { ctx with imei := strncpyImsi mi.str } ctx.t3350Mode
  | _ => exact identity_authorize ctx ctx.t3350Mode

section

variable (h : UniqueIdentities coding mms)

include h

theorem UniqueIdentities.identify (i : Nat) {mi : MobileId}
    (hfree : mi.type = .imsi → ImsiFree mms i (strncpyImsi mi.str)) :
    UniqueIdentities coding (mms.modify i fun ctx => (ctx.identify mi).1) := by
  by_cases htype : mi.type = .imsi
  · apply h.named (hfree htype)
    intro ctx
    have hident := identity_identify mi ctx
    rwa [if_pos htype] at hident
  · apply h.same
    intro ctx
    have hident := identity_identify mi ctx
    rwa [if_neg htype] at hident

theorem uniqueIdentities_idResp {mi : MobileId}
    (hfresh : ReqFresh coding mms [] (.idResp i mi)) : UniqueIdentities coding (idRespMms mms i mi) := by
  have hstopped : UniqueIdentities coding (mms.modify i (stopT3370 mi)) := by
    apply h.same
    intro ctx
    unfold stopT3370
    split <;> exact ⟨rfl, rfl, rfl⟩
  -- an IMSI that the context may not have from the look-up
  have hgiven (ctx : MmCtx) (hget : (mms.modify i (stopT3370 mi)).get? i = some ctx) (htype : mi.type = .imsi)
      (hlong : ctx.imsi ≠ [] ∨ 17 < mi.str.length) :
      ImsiFree (mms.modify i (stopT3370 mi)) i (strncpyImsi mi.str) := by
    rw [get?_modify, if_pos rfl] at hget
    obtain ⟨old, hold, rfl⟩ := map_eq_some_iff.mp hget
    have himsi : (old.stopT3370 mi).imsi = old.imsi := by
      unfold stopT3370
      split <;> rfl
    rw [himsi] at hlong
    exact (hfresh old hold htype hlong).modify _
  unfold idRespMms
  dsimp only
  generalize mms.modify i (stopT3370 mi) = mms₁ at hstopped hgiven ⊢
  cases hget : mms₁.get? i with
  | none =>
    simp only [bind_none]
    rw [modify_of_get?_none hget]
    exact hstopped
  | some ctx =>
    simp only [bind_some, oldCtxOf]
    split
    case h_1 hold =>
      apply hstopped.identify i
      intro htype
      by_cases hlong : ctx.imsi ≠ [] ∨ 17 < mi.str.length
      · exact hgiven ctx hget htype hlong
      · obtain ⟨hempty, hlen⟩ := not_or.mp hlong
        rw [if_pos ⟨htype, not_not.mp hempty⟩] at hold
        rw [strncpyImsi, take_of_length_le (Nat.not_lt.mp hlen)]
        exact imsiFree_of_notFound hold i
    case h_2 j ictx hold =>
      apply UniqueIdentities.identify (hstopped.remove j)
      intro htype
      by_cases hlong : ctx.imsi ≠ [] ∨ 17 < mi.str.length
      · exact (hgiven ctx hget htype hlong).remove j
      · obtain ⟨hempty, hlen⟩ := not_or.mp hlong
        rw [if_pos ⟨htype, not_not.mp hempty⟩] at hold
        rw [strncpyImsi, take_of_length_le (Nat.not_lt.mp hlen)]
        exact hstopped.imsiFree_remove hold i

theorem UniqueIdentities.alloc {ctx : MmCtx} (himsi : ImsiFree mms mms.next ctx.imsi)
    (hptmsis : ∀ p ∈ ctx.ptmsis, PtmsiFree coding mms mms.next p) : UniqueIdentities coding (mms.alloc ctx) := by
  apply Pool.Pairwise.alloc h
  · exact fun a b => IdentitiesApart.symm
  · intro j other hother
    have hne : j ≠ mms.next := Nat.ne_of_lt (get?_lt hother)
    apply identitiesApart
    · exact fun hsome => himsi hsome j other hother hne
    · exact fun p hp => hptmsis p hp j other hother hne

end

theorem uniqueIdentities_attachNew (build : SgsnBuild) (h : UniqueIdentities coding mms) {base : MmCtx} {id : MsgId}
    {cell : GprsRaId} {l : Nat} (hfresh : ReqFresh coding mms rands (.attachNew base id cell l))
    (himsi : base.imsi.length < 17 → ImsiFree mms mms.next base.imsi)
    (hdrawn : sgsnAllocPtmsi (mms.alloc base) rands = some pTmsi) :
    UniqueIdentities coding (mms.alloc (base.attach build id cell l pTmsi).1) := by
  obtain ⟨hrands, hbase, hlong⟩ := hfresh
  obtain ⟨hsame, hnew, hold⟩ := identity_attach build id cell l pTmsi base
  apply h.alloc
  · rw [hsame]
    by_cases hlen : base.imsi.length < 17
    · exact himsi hlen
    · exact hlong (Nat.not_lt.mp hlen)
  · intro p hp
    rw [ptmsis, hnew, hold] at hp
    rcases mem_cons.mp hp with rfl | hp
    · intro j other hother hne
      apply hrands.drawn hdrawn j other ?_ hne
      rw [get?_alloc, if_neg hne, hother]
    · split at hp
      · cases hp
      · rename_i hzero
        obtain rfl := mem_singleton.mp hp
        exact hbase hzero

/-- **The step.** A request that gives no context an identity of another keeps the identities apart. -/
theorem uniqueIdentities_apply {build : SgsnBuild} (h : UniqueIdentities coding mms) {req : MmReq}
    (hfresh : ReqFresh coding mms rands req)
    (himsi : ∀ base id cell l, req = .attachNew base id cell l → base.imsi.length < 17 →
      ImsiFree mms mms.next base.imsi)
    (happly : req.apply build mms rands = some mms') : UniqueIdentities coding mms' := by
  cases req with
  | keep =>
    cases happly
    exact h
  | attach i id cell l =>
    obtain ⟨pTmsi, hdrawn, rfl⟩ := map_eq_some_iff.mp happly
    apply h.realloc (hfresh.drawn hdrawn)
    exact identity_attach build id cell l pTmsi
  | attachNew base id cell l =>
    obtain ⟨pTmsi, hdrawn, rfl⟩ := map_eq_some_iff.mp happly
    exact uniqueIdentities_attachNew build h hfresh (himsi base id cell l rfl) hdrawn
  | idResp i mi =>
    cases happly
    exact uniqueIdentities_idResp h hfresh
  | raUpd i id cell =>
    obtain ⟨pTmsi, hdrawn, rfl⟩ := map_eq_some_iff.mp happly
    apply h.realloc (hfresh.drawn hdrawn)
    exact fun ctx => ⟨rfl, rfl, rfl⟩
  | complete i reall =>
    cases happly
    apply h.fewer
    · exact fun ctx => rfl
    · intro ctx p hp
      obtain rfl : p = ctx.pTmsi := by simpa [ptmsis, complete, timerStop] using hp
      exact mem_cons_self
  | detach i =>
    cases happly
    apply h.same
    exact fun ctx => ⟨rfl, rfl, rfl⟩
  | timer i =>
    cases happly
    apply h.same
    exact fun ctx => identity_timerCb ctx.timerStop
  | suspend i =>
    cases happly
    apply h.same
    intro ctx
    unfold suspend
    split <;> exact ⟨rfl, rfl, rfl⟩
  | resume i =>
    cases happly
    apply h.same
    intro ctx
    unfold resume
    split <;> exact ⟨rfl, rfl, rfl⟩

/-! ## The result -/

/-- **One MM context for a subscriber, exactly.** In every run in which no step gives a context an identity of another,
    no two MM contexts have one IMSI, one P-TMSI, or P-TMSIs with one local TLLI. -/
theorem uniqueIdentities_of_fresh {build : SgsnBuild} {s : SgsnInstance}
    (h : ReachableBy (sgsnSystem build) (StepFresh build) s) : UniqueIdentities build.coding s.gmm.mms := by
  refine h.invariant (I := fun s => UniqueIdentities build.coding s.gmm.mms) ?_ ?_
  · rintro s ⟨ggsns, rfl⟩
    exact pairwise_empty
  · intro s ev s' hunique hfresh hstep
    apply uniqueIdentities_apply (hunique.touched (touches_mmReq build s ev)) hfresh ?_ (sgsnStep_mms hstep)
    intro base id cell l hnew hshort
    obtain ⟨mmctx, mi, hctx⟩ := attachNew_of_mmReq hnew
    exact imsiFree_of_attReqCtx hctx hshort _

/-- Two stations attach with their IMSIs and random TLLIs; the second number for the second one is taken. -/
def twoAttach : Option SgsnInstance :=
  guardedRun (sgsnStep checkingBuild) (StepFresh checkingBuild) {}
    [.attachImsi 0x78000001 homeCell ['2', '6', '2', '4', '2', '1'] [1],
      .attachImsi 0x78000002 homeCell ['2', '6', '2', '4', '2', '2'] [1, 2]]

theorem uniqueIdentities_twoAttach : ∃ s ∈ twoAttach, s.gmm.mms.ids = [0, 1] ∧ UniqueIdentities .ts23003 s.gmm.mms := by
  obtain ⟨s, hs, hids⟩ : ∃ s ∈ twoAttach, s.gmm.mms.ids = [0, 1] := by decide +kernel
  exact ⟨s, hs, hids, uniqueIdentities_of_fresh
    (ReachableBy.guardedRun (fun _ _ _ h => h) (.init ⟨.empty, rfl⟩) hs)⟩

/-- Two stations attach, and get P-TMSIs that differ in the second highest bit only. -/
def sameTlli : Option SgsnInstance :=
  guardedRun (sgsnStep checkingBuild) (fun _ _ => True) {}
    [.attachImsi 0x78000001 homeCell ['2', '6', '2', '4', '2', '1'] [1],
      .attachImsi 0x78000002 homeCell ['2', '6', '2', '4', '2', '2'] [0x40000001]]

theorem not_uniqueIdentities_sameTlli : ∃ s, Reachable (sgsnSystem checkingBuild) s ∧
    ¬ UniqueIdentities checkingBuild.coding s.gmm.mms := by
  obtain ⟨s, hs, a, ha, b, hb, hlocal⟩ : ∃ s ∈ sameTlli, ∃ a ∈ s.gmm.mms.get? 0, ∃ b ∈ s.gmm.mms.get? 1,
      TlliCoding.ts23003.localTlli a.pTmsi = TlliCoding.ts23003.localTlli b.pTmsi := by decide +kernel
  refine ⟨s, ReachableBy.guardedRun (fun _ _ _ h => h) (.init ⟨.empty, rfl⟩) hs, fun hunique => ?_⟩
  exact (hunique 0 a 1 b ha hb (by decide)).localTlli _ mem_cons_self _ mem_cons_self hlocal

end OpenBsc.Sgsn
