import OpenBsc.Sgsn.LlReqs

/-!
# `Sgsn.Liveness` — no step uses a context that is gone

An MM context refers to its LLME, a PDP context to its MM context, and libgtp to PDP contexts, by the private pointers
of its handles and by those that it hands back when it confirms a request. Contexts are freed without a look at who
refers to them and with their timers running: by a detach, by an identity response, by the end of a tunnel and when a
GGSN has restarted. Where what is freed is referred to by nobody (`StepSafe`), all references stay live.
-/

namespace OpenBsc.Sgsn

open Transition Pool MmCtx Gmm List Option

/-! ## The purpose -/

/-- libgtp refers to the PDP context, and may hand it back. -/
def PdpT.Refers (lib : PdpT) (p : Nat) : Prop := lib.priv = some p ∨ ∃ req ∈ lib.pending, req.cbp = p

/-- Whatever is referred to is there. -/
structure ContextsAlive (s : SgsnInstance) : Prop where
  llme : ∀ i ctx, s.gmm.mms.get? i = some ctx → ∃ l llme, ctx.llme = some l ∧ s.llmes.get? l = some llme
  mm : ∀ p pdp, s.gmm.pdps.get? p = some pdp → ∃ ctx, s.gmm.mms.get? pdp.mm = some ctx
  mmTimers : s.gmm.freedMmTimers = []
  pdpTimers : s.gmm.freedPdpTimers = []
  lib : ∀ h lib p, s.gmm.libs.get? h = some lib → lib.Refers p → ∃ pdp, s.gmm.pdps.get? p = some pdp

/-! ## The condition -/

/-- Nobody but itself refers to an MM context: no other has its LLME if that is freed, too, and no timer runs and no
    handle is there of it and its PDP contexts. -/
def FreeSafe (g : Gmm) (mms : Pool MmCtx) (i j : Nat) (ictx : MmCtx) : Prop :=
  j ≠ i ∧ ictx.timer = false ∧
    (ictx.tlli = tlliUnassigned ∨ ∀ k ctx, mms.get? k = some ctx → k ≠ j → ctx.llme ≠ ictx.llme) ∧
    ∀ p pdp, g.pdps.get? p = some pdp → pdp.mm = j → pdp.timer = false ∧ pdp.lib.bind g.libs.get? = none

/-- No number that is drawn stands for the value that unassigns a TLLI, if one is assigned. -/
def TlliAssigned (coding : TlliCoding) (mms : Pool MmCtx) (rands : List (BitVec 32)) (tlli : BitVec 32) : Prop :=
  tlli = tlliUnassigned ∨
    ∀ pTmsi ∈ rands, ptmsiInUse mms pTmsi = true ∨ coding.gprsTmsi2tlli pTmsi .tlliLocal ≠ tlliUnassigned

/-- A request frees nothing that is referred to. -/
def ReqSafe (coding : TlliCoding) (g : Gmm) (mms : Pool MmCtx) (rands : List (BitVec 32)) : MmReq → Prop
  | .attach _ id .. => TlliAssigned coding mms rands id.tlli
  | .attachNew base id .. => TlliAssigned coding (mms.alloc base) rands id.tlli
  | .raUpd _ id _ => TlliAssigned coding mms rands id.tlli
  | .detach i => ∀ ctx ∈ mms.get? i, ctx.tlli = tlliUnassigned
  | .idResp i mi => ∀ old ∈ idRespOld mms i mi, FreeSafe g mms i old.1 old.2
  | _ => True

/-- The confirmation of a request ends the PDP context; one that timed out is tried again with version 0. -/
def endsPdp (g : Gmm) (h : Nat) (req : GtpReq) (passed : Bool) (cause : Option GtpCause) : Prop :=
  req.type = .createPdp → cause ≠ some .accReq ∧
    ¬ (cause = none ∧ passed = true ∧ (g.libs.get? h).any (fun lib => lib.version = 1) = true)

/-- When a confirmation ends a PDP context, its handle goes, too, and its timer does not run. -/
def ConfSafe (g : Gmm) (h : Nat) (req : GtpReq) (passed : Bool) (cause : Option GtpCause) (frees : Bool) : Prop :=
  endsPdp g h req passed cause →
    (frees = true ∨ req.type = .createPdp ∧ passed = true) ∧ ∀ pctx ∈ g.pdps.get? req.cbp, pctx.timer = false

/-- The GGSN that has restarted. -/
def restarted (g : Gmm) (peer : BitVec 32) (recovery : Nat) : Option Nat :=
  (g.ggsns.findLast? fun ggsn => ggsn.remoteAddr == peer).bind fun found =>
    found.2.remoteRestartCtr.bind fun ctr => if ctr = recovery then none else some found.1

/-- All stations that have PDP contexts with a GGSN that has restarted are asked to deactivate them. -/
def RecoverySafe (g : Gmm) (peer : BitVec 32) (recovery : Nat) : Prop :=
  ∀ k ∈ restarted g peer recovery, ∀ p pdp, g.pdps.get? p = some pdp → pdp.ggsn = some k →
    ∀ ctx ∈ g.mms.get? pdp.mm, ctx.mmState = .registeredNormal

/-- What libgtp reports frees nothing that is referred to. -/
def GtpSafe (g : Gmm) : SgsnEvent → Prop
  | .gtpConf h req passed cause frees => ConfSafe g h req passed cause frees
  | .recovery peer recovery => RecoverySafe g peer recovery
  | _ => True

/-- A step that frees nothing that is referred to. -/
def StepSafe (build : SgsnBuild) (s : SgsnInstance) (ev : SgsnEvent) : Prop :=
  ReqSafe build.coding s.gmm (mmReq build s ev).1 ev.rands (mmReq build s ev).2 ∧ GtpSafe s.gmm ev

instance (g : Gmm) (mms : Pool MmCtx) (i j : Nat) (ictx : MmCtx) : Decidable (FreeSafe g mms i j ictx) :=
  inferInstanceAs (Decidable (_ ∧ _ ∧ (_ ∨ _) ∧ _))

instance (coding : TlliCoding) (mms : Pool MmCtx) (rands : List (BitVec 32)) (tlli : BitVec 32) :
    Decidable (TlliAssigned coding mms rands tlli) :=
  have : Decidable (∀ pTmsi ∈ rands,
      ptmsiInUse mms pTmsi = true ∨ coding.gprsTmsi2tlli pTmsi .tlliLocal ≠ tlliUnassigned) := List.decidableBAll _ _
  inferInstanceAs (Decidable (_ ∨ _))

instance (coding : TlliCoding) (g : Gmm) (mms : Pool MmCtx) (rands : List (BitVec 32)) (req : MmReq) :
    Decidable (ReqSafe coding g mms rands req) :=
  match req with
  | .attach _ id .. => inferInstanceAs (Decidable (TlliAssigned coding mms rands id.tlli))
  | .attachNew base id .. => inferInstanceAs (Decidable (TlliAssigned coding (mms.alloc base) rands id.tlli))
  | .raUpd _ id _ => inferInstanceAs (Decidable (TlliAssigned coding mms rands id.tlli))
  | .detach i => inferInstanceAs (Decidable (∀ ctx ∈ mms.get? i, _))
  | .idResp i mi => inferInstanceAs (Decidable (∀ old ∈ idRespOld mms i mi, _))
  | .keep | .complete .. | .timer _ | .suspend _ | .resume _ => inferInstanceAs (Decidable True)

instance (g : Gmm) (h : Nat) (req : GtpReq) (passed : Bool) (cause : Option GtpCause) :
    Decidable (endsPdp g h req passed cause) :=
  inferInstanceAs (Decidable (_ → _ ∧ ¬ _))

instance (g : Gmm) (h : Nat) (req : GtpReq) (passed : Bool) (cause : Option GtpCause) (frees : Bool) :
    Decidable (ConfSafe g h req passed cause frees) :=
  inferInstanceAs (Decidable (endsPdp g h req passed cause → _ ∧ _))

instance (g : Gmm) (peer : BitVec 32) (recovery : Nat) : Decidable (RecoverySafe g peer recovery) :=
  inferInstanceAs (Decidable (∀ k ∈ restarted g peer recovery, _))

instance (g : Gmm) (ev : SgsnEvent) : Decidable (GtpSafe g ev) :=
  match ev with
  | .gtpConf h req passed cause frees => inferInstanceAs (Decidable (ConfSafe g h req passed cause frees))
  | .recovery peer recovery => inferInstanceAs (Decidable (RecoverySafe g peer recovery))
  | .uplink .. | .suspend .. | .resume .. | .mmTimer _ | .pdpTimer _ | .gtpDataInd .. | .gtpDeleted _ =>
    inferInstanceAs (Decidable True)

instance (build : SgsnBuild) (s : SgsnInstance) (ev : SgsnEvent) : Decidable (StepSafe build s ev) :=
  inferInstanceAs (Decidable (ReqSafe _ _ _ _ _ ∧ GtpSafe _ _))

/-! ## PDP contexts and handles -/

/-- What is kept of the MM and PDP contexts and the handles; a handle that refers to a PDP context is its own. -/
structure GmmAlive (g : Gmm) : Prop where
  mm : ∀ p pdp, g.pdps.get? p = some pdp → ∃ ctx, g.mms.get? pdp.mm = some ctx
  mmTimers : g.freedMmTimers = []
  pdpTimers : g.freedPdpTimers = []
  linked : ∀ h lib p, g.libs.get? h = some lib → lib.Refers p → ∃ pdp, g.pdps.get? p = some pdp ∧ pdp.lib = some h

variable {g : Gmm}

section

variable (h : GmmAlive g)

include h

theorem GmmAlive.mms {mms : Pool MmCtx}
    (hkept : ∀ i ctx, g.mms.get? i = some ctx → ∃ ctx', mms.get? i = some ctx') : GmmAlive { g with mms := mms } where
  mm p pdp hp := by
    obtain ⟨ctx, hctx⟩ := h.mm p pdp hp
    exact hkept _ ctx hctx
  mmTimers := h.mmTimers
  pdpTimers := h.pdpTimers
  linked := h.linked

theorem alive_onMm (i : Nat) (f : MmCtx → MmCtx × List LlReq) : GmmAlive (g.onMm i f).1 := by
  unfold onMm
  split
  · exact h
  · exact h.mms (kept_modify _ _ _)

/-- A PDP context is changed, but belongs to the same MM context and has the same handle. -/
theorem GmmAlive.modifyPdp (p : Nat) {f : PdpCtx → PdpCtx}
    (hf : ∀ pdp, g.pdps.get? p = some pdp → (f pdp).mm = pdp.mm ∧ (f pdp).lib = pdp.lib) :
    GmmAlive { g with pdps := g.pdps.modify p f } where
  mm q pdp hq := by
    simp only [get?_modify] at hq
    split at hq
    case isTrue heq =>
      subst heq
      obtain ⟨old, hold, rfl⟩ := map_eq_some_iff.mp hq
      rw [(hf old hold).1]
      exact h.mm q old hold
    case isFalse => exact h.mm q pdp hq
  mmTimers := h.mmTimers
  pdpTimers := h.pdpTimers
  linked k lib q hk href := by
    obtain ⟨pdp, hpdp, hlib⟩ := h.linked k lib q hk href
    simp only [get?_modify]
    split
    case isTrue heq =>
      subst heq
      rw [hpdp]
      exact ⟨f pdp, rfl, (hf pdp hpdp).2.trans hlib⟩
    case isFalse => exact ⟨pdp, hpdp, hlib⟩

/-- A handle is changed, but refers to no more than it did, or to the PDP context that it belongs to. -/
theorem GmmAlive.modifyLib (k : Nat) {f : PdpT → PdpT}
    (hf : ∀ lib p, g.libs.get? k = some lib → (f lib).Refers p →
      lib.Refers p ∨ ∃ pdp, g.pdps.get? p = some pdp ∧ pdp.lib = some k) :
    GmmAlive { g with libs := g.libs.modify k f } where
  mm := h.mm
  mmTimers := h.mmTimers
  pdpTimers := h.pdpTimers
  linked k' lib p hk' href := by
    simp only [get?_modify] at hk'
    split at hk'
    case isTrue heq =>
      subst heq
      obtain ⟨old, hold, rfl⟩ := map_eq_some_iff.mp hk'
      rcases hf old p hold href with href | hown
      · exact h.linked k' old p hold href
      · exact hown
    case isFalse => exact h.linked k' lib p hk' href

theorem GmmAlive.removeLib (k : Nat) : GmmAlive { g with libs := g.libs.remove k } where
  mm := h.mm
  mmTimers := h.mmTimers
  pdpTimers := h.pdpTimers
  linked k' lib p hk' href := by
    simp only [get?_remove] at hk'
    split at hk'
    · cases hk'
    · exact h.linked k' lib p hk' href

theorem alive_deletePdpCtx (p : Nat) : GmmAlive (g.sgsnDeletePdpCtx p) := by
  unfold sgsnDeletePdpCtx
  cases hlib : (g.pdps.get? p).bind PdpCtx.lib with
  | none => exact h
  | some k =>
    obtain ⟨pdp, hpdp, hk⟩ := bind_eq_some_iff.mp hlib
    apply h.modifyLib
    intro lib q _ href
    rcases href with hpriv | ⟨req, hreq, hcbp⟩
    · exact .inl (.inl hpriv)
    · rcases mem_append.mp hreq with hreq | hreq
      · exact .inl (.inr ⟨req, hreq, hcbp⟩)
      · obtain rfl := mem_singleton.mp hreq
        obtain rfl : p = q := hcbp
        exact .inr ⟨pdp, hpdp, hk⟩

end

theorem alive_foldl {f : Gmm → Nat → Gmm} (hf : ∀ g p, GmmAlive g → GmmAlive (f g p)) (pdps : List Nat)
    (h : GmmAlive g) : GmmAlive (pdps.foldl f g) := by
  induction pdps generalizing g with
  | nil => exact h
  | cons p pdps ih => exact ih (hf g p h)

variable {p : Nat}

theorem alive_pdpCtxFree (h : GmmAlive g) (htimer : ∀ pdp, g.pdps.get? p = some pdp → pdp.timer = false)
    (hlib : ∀ k lib, g.libs.get? k = some lib → ¬ lib.Refers p) : GmmAlive (g.sgsnPdpCtxFree p) := by
  unfold sgsnPdpCtxFree
  split
  · exact h
  · rename_i pdp hpdp
    refine ⟨?_, h.mmTimers, ?_, ?_⟩
    · intro q pdp' hq
      simp only [get?_remove] at hq
      split at hq
      · cases hq
      · exact h.mm q pdp' hq
    · simp only [htimer pdp hpdp]
      exact h.pdpTimers
    · intro k lib q hk href
      obtain ⟨pdp', hq, hown⟩ := h.linked k lib q hk href
      refine ⟨pdp', ?_, hown⟩
      simp only [get?_remove]
      split
      case isTrue heq =>
        subst heq
        exact absurd href (hlib k lib hk)
      case isFalse => exact hq

theorem alive_createPdpCtx (h : GmmAlive g) (ggsn : Nat × GgsnCtx) {mm : Nat} {ctx : MmCtx}
    (hctx : g.mms.get? mm = some ctx) (nsapi sapi ti : Nat) (pdpLeft : Bool) :
    GmmAlive (sgsnCreatePdpCtx g ggsn mm nsapi sapi ti pdpLeft) := by
  -- a PDP context that is there is not the new one
  have hold {pdp new : PdpCtx} {q : Nat} (hq : g.pdps.get? q = some pdp) :
      (g.pdps.alloc new).get? q = some pdp := by
    rw [get?_alloc, if_neg (Nat.ne_of_lt (get?_lt hq))]
    exact hq
  have hmm {new pdp : PdpCtx} {q : Nat} (hnew : new.mm = mm) (hq : (g.pdps.alloc new).get? q = some pdp) :
      ∃ ctx, g.mms.get? pdp.mm = some ctx := by
    rw [get?_alloc] at hq
    split at hq
    · cases hq
      rw [hnew]
      exact ⟨ctx, hctx⟩
    · exact h.mm q pdp hq
  unfold sgsnCreatePdpCtx
  split
  · refine ⟨fun q pdp hq => hmm rfl hq, h.mmTimers, h.pdpTimers, ?_⟩
    intro k lib q hk href
    dsimp only at hk
    rw [get?_alloc] at hk
    split at hk
    case isTrue heq =>
      cases hk
      have hq : g.pdps.next = q := by
        rcases href with hpriv | ⟨req, hreq, hcbp⟩
        · exact some.inj hpriv
        · obtain rfl := mem_singleton.mp hreq
          exact hcbp
      subst hq heq
      dsimp only
      rw [get?_alloc, if_pos rfl]
      exact ⟨_, rfl, rfl⟩
    case isFalse =>
      obtain ⟨pdp, hpdp, hown⟩ := h.linked k lib q hk href
      exact ⟨pdp, hold hpdp, hown⟩
  · refine ⟨fun q pdp hq => hmm rfl hq, h.mmTimers, h.pdpTimers, ?_⟩
    intro k lib q hk href
    obtain ⟨pdp, hpdp, hown⟩ := h.linked k lib q hk href
    exact ⟨pdp, hold hpdp, hown⟩

theorem mem_pdpList {g : Gmm} {mm : Nat} : p ∈ g.pdpList mm ↔ ∃ pdp, g.pdps.get? p = some pdp ∧ pdp.mm = mm := by
  unfold pdpList
  constructor
  · intro hmem
    obtain ⟨e, he, rfl⟩ := mem_map.mp hmem
    obtain ⟨he, hmm⟩ := mem_filter.mp he
    exact ⟨e.2, get?_eq_some.mpr (mem_reverse.mp he), by simpa using hmm⟩
  · rintro ⟨pdp, hpdp, hmm⟩
    refine mem_map.mpr ⟨(p, pdp), ?_, rfl⟩
    refine mem_filter.mpr ⟨mem_reverse.mpr (get?_eq_some.mp hpdp), ?_⟩
    simpa using hmm

theorem foldl_pdpCtxFree (pdps : List Nat) (g : Gmm)
    (htimer : ∀ p ∈ pdps, ∀ pdp, g.pdps.get? p = some pdp → pdp.timer = false) :
    ∃ pdps', pdps.foldl sgsnPdpCtxFree g = { g with pdps := pdps' } ∧
      ∀ q pdp, pdps'.get? q = some pdp ↔ q ∉ pdps ∧ g.pdps.get? q = some pdp := by
  induction pdps generalizing g with
  | nil =>
    refine ⟨g.pdps, rfl, ?_⟩
    intro q pdp
    simp
  | cons p pdps ih =>
    have hfree : g.sgsnPdpCtxFree p = { g with pdps := g.pdps.remove p } := by
      unfold sgsnPdpCtxFree
      split
      · rename_i hnone
        rw [remove_of_get?_none hnone]
      · rename_i pdp hpdp
        simp only [htimer p mem_cons_self pdp hpdp, Bool.false_eq_true, if_false]
    rw [foldl_cons, hfree]
    obtain ⟨pdps', heq, hget⟩ := ih { g with pdps := g.pdps.remove p } (by
      intro q hq pdp hpdp
      simp only [get?_remove] at hpdp
      split at hpdp
      · cases hpdp
      · exact htimer q (mem_cons_of_mem p hq) pdp hpdp)
    refine ⟨pdps', heq, ?_⟩
    intro q pdp
    rw [hget q pdp, get?_remove, mem_cons, not_or]
    split
    case isTrue hqp => simp [hqp]
    case isFalse hqp => simp [hqp]

theorem alive_mmCtxFree (h : GmmAlive g) {j : Nat} {ictx : MmCtx} (hj : g.mms.get? j = some ictx)
    (htimer : ictx.timer = false)
    (hpdps : ∀ p pdp, g.pdps.get? p = some pdp → pdp.mm = j → pdp.timer = false ∧ pdp.lib.bind g.libs.get? = none) :
    GmmAlive (g.sgsnMmCtxFree j) := by
  unfold sgsnMmCtxFree
  rw [hj]
  simp only [htimer, Bool.false_eq_true, if_false]
  have hlist (p : Nat) (hp : p ∈ g.pdpList j) (pdp : PdpCtx) (hpdp : g.pdps.get? p = some pdp) :
      pdp.timer = false := by
    obtain ⟨pdp', hpdp', hmm⟩ := mem_pdpList.mp hp
    rw [hpdp] at hpdp'
    cases hpdp'
    exact (hpdps p pdp hpdp hmm).1
  obtain ⟨pdps', heq, hget⟩ := foldl_pdpCtxFree (g.pdpList j) { g with mms := g.mms.remove j } hlist
  rw [heq]
  refine ⟨?_, h.mmTimers, h.pdpTimers, ?_⟩
  · intro q pdp hq
    obtain ⟨hnot, hq⟩ := (hget q pdp).mp hq
    obtain ⟨ctx, hctx⟩ := h.mm q pdp hq
    refine ⟨ctx, ?_⟩
    dsimp only
    rw [get?_remove, if_neg fun hmm => hnot (mem_pdpList.mpr ⟨pdp, hq, hmm⟩)]
    exact hctx
  · intro k lib q hk href
    obtain ⟨pdp, hq, hown⟩ := h.linked k lib q hk href
    refine ⟨pdp, (hget q pdp).mpr ⟨?_, hq⟩, hown⟩
    intro hmem
    obtain ⟨pdp', hpdp', hmm⟩ := mem_pdpList.mp hmem
    rw [hq] at hpdp'
    cases hpdp'
    have hnone := (hpdps q pdp hq hmm).2
    rw [hown] at hnone
    rw [bind_some, hk] at hnone
    cases hnone

theorem alive_rcvGsm (h : GmmAlive g) {mmctx : Option Nat} (hfound : ∀ i ∈ mmctx, ∃ ctx, g.mms.get? i = some ctx)
    (id : MsgId) (ti : Nat) (msg : SmMsg) (pdpLeft : Bool) :
    GmmAlive (gsm0408RcvGsm g mmctx id ti msg pdpLeft).1 := by
  cases mmctx with
  | none => exact h
  | some i =>
    obtain ⟨ctx, hctx⟩ := hfound i rfl
    have hdeact (ack : Bool) : GmmAlive (gsm48RxGsmDeactPdp g i ti ack).1 := by
      unfold gsm48RxGsmDeactPdp
      split
      · exact alive_deletePdpCtx h _
      · split
        · exact h
        · exact alive_onMm h _ _
    cases msg with
    | actPdpReq sapi nsapi =>
      unfold gsm0408RcvGsm gsm48RxGsmActPdpReq
      dsimp only
      split
      · exact alive_onMm h _ _
      · split
        · split
          · exact h
          · exact alive_onMm h _ _
        · split
          · exact h
          · exact alive_createPdpCtx h _ hctx _ _ _ _
    | deactPdpReq => exact hdeact false
    | deactPdpAck => exact hdeact true
    | status => exact h
    | other msgType => exact alive_onMm h _ _

variable {r : Gmm × List LlReq}

theorem alive_pdpTimer (h : GmmAlive g) (hr : pdpTimer g p = some r) : GmmAlive r.1 := by
  unfold pdpTimer at hr
  split at hr
  case h_2 => cases hr
  case h_1 pdp hpdp =>
    split at hr
    case isFalse => cases hr
    case isTrue =>
      cases hr
      have hexpired : GmmAlive { g with
          pdps := g.pdps.modify p (fun _ => { pdp with timer := false, numTExp := pdp.numTExp + 1 }) } := by
        apply h.modifyPdp
        intro old hold
        rw [hpdp] at hold
        cases hold
        exact ⟨rfl, rfl⟩
      unfold pdpctxTimerCb
      dsimp only
      split
      · split
        · apply alive_deletePdpCtx
          apply hexpired.modifyPdp
          exact fun _ _ => ⟨rfl, rfl⟩
        · apply hexpired.modifyPdp
          exact fun _ _ => ⟨rfl, rfl⟩
      · exact hexpired

variable {k : Nat}

theorem alive_endPdp (h : GmmAlive g) {pctx : PdpCtx} (hp : g.pdps.get? p = some pctx) (hown : pctx.lib = some k)
    (htimer : pctx.timer = false) : GmmAlive ({ g with libs := g.libs.remove k }.sgsnPdpCtxFree p) := by
  apply alive_pdpCtxFree (h.removeLib k)
  · intro pdp hpdp
    cases hp.symm.trans hpdp
    exact htimer
  · intro k' lib hk' href
    dsimp only at hk'
    rw [get?_remove] at hk'
    split at hk'
    case isTrue => cases hk'
    case isFalse hne =>
      obtain ⟨pdp, hpdp, hown'⟩ := h.linked k' lib p hk' href
      cases hp.symm.trans hpdp
      exact hne (some.inj (hown'.symm.trans hown))

theorem pdpCtxFree_removeLib (g : Gmm) (p k : Nat) :
    { g.sgsnPdpCtxFree p with libs := (g.sgsnPdpCtxFree p).libs.remove k } =
      { g with libs := g.libs.remove k }.sgsnPdpCtxFree p := by
  unfold sgsnPdpCtxFree
  dsimp only
  cases g.pdps.get? p with
  | none => rfl
  | some pdp => rfl

/-- A confirmation, with what libgtp does to the handle then. -/
def confirmed (k : Nat) (frees : Bool) (g : Gmm) : Gmm := if frees then { g with libs := g.libs.remove k } else g

section

variable (h : GmmAlive g)

include h

theorem GmmAlive.confirmed (k : Nat) (frees : Bool) : GmmAlive (confirmed k frees g) := by
  unfold Sgsn.confirmed
  split
  · exact h.removeLib k
  · exact h

theorem alive_createReject {pctx : PdpCtx} (hp : g.pdps.get? p = some pctx)
    (hown : pctx.lib = some k) (htimer : pctx.timer = false) {passed frees : Bool}
    (hgoes : frees = true ∨ passed = true) (cause : SmCause) :
    GmmAlive (confirmed k frees (createPdpReject g (if passed then some k else none) p pctx cause).1) := by
  have hend := alive_endPdp h hp hown htimer
  cases passed with
  | true => exact hend.confirmed k frees
  | false =>
    obtain rfl : frees = true := hgoes.resolve_right Bool.false_ne_true
    rw [← pdpCtxFree_removeLib] at hend
    exact hend

theorem alive_createConf {req : GtpReq} {passed frees : Bool} {cause : Option GtpCause}
    {pctx : PdpCtx} (hp : g.pdps.get? req.cbp = some pctx) (hown : pctx.lib = some k)
    (hsafe : ConfSafe g k req passed cause frees) :
    GmmAlive (confirmed k frees (createPdpConf g (if passed then some k else none) req.cbp cause).1) := by
  have hreject (hcause : cause ≠ some .accReq)
      (hversion : ¬ (cause = none ∧ passed = true ∧ (g.libs.get? k).any (fun lib => lib.version = 1) = true))
      (smCause : SmCause) :
      GmmAlive (confirmed k frees (createPdpReject g (if passed then some k else none) req.cbp pctx smCause).1) := by
    obtain ⟨hgoes, htimer⟩ := hsafe fun _ => ⟨hcause, hversion⟩
    apply alive_createReject h hp hown (htimer pctx hp)
    exact hgoes.imp_right And.right
  unfold createPdpConf
  rw [hp]
  dsimp only
  split
  · cases passed with
    | false => exact hreject (by decide) (fun hretry => Bool.false_ne_true hretry.2.1) .netFail
    | true =>
      simp only [if_true]
      split
      case isTrue =>
        -- tried again with version 0
        apply GmmAlive.confirmed
        apply h.modifyLib
        intro lib p' _ href
        rcases href with hpriv | ⟨req', hreq', hcbp⟩
        · exact .inl (.inl hpriv)
        · rcases mem_append.mp hreq' with hreq' | hreq'
          · exact .inl (.inr ⟨req', hreq', hcbp⟩)
          · obtain rfl := mem_singleton.mp hreq'
            obtain rfl : req.cbp = p' := hcbp
            exact .inr ⟨pctx, hp, hown⟩
      case isFalse hversion => exact hreject (by decide) (fun hretry => hversion hretry.2.2) .netFail
  · exact h.confirmed k frees
  · rename_i cause hcause
    have hnot : some cause ≠ some .accReq := fun hacc => hcause (some.inj hacc)
    exact hreject hnot (fun hretry => nomatch hretry.1) _

theorem alive_gtpConf {req : GtpReq} {passed frees : Bool} {cause : Option GtpCause}
    (hsafe : ConfSafe g k req passed cause frees) (hr : gtpConf g k req passed cause frees = some r) :
    GmmAlive r.1 := by
  unfold gtpConf at hr
  split at hr
  case isFalse => cases hr
  case isTrue hpending =>
    cases hr
    obtain ⟨lib, hlib, hmem⟩ := (any_eq_true _ _).mp hpending
    obtain ⟨pctx, hp, hown⟩ := h.linked k lib req.cbp hlib (.inr ⟨req, of_decide_eq_true hmem, rfl⟩)
    -- the request is out no more
    generalize hg : { g with libs := g.libs.modify k (fun lib => { lib with pending := lib.pending.erase req }) } = g₁
    have halive : GmmAlive g₁ := by
      rw [← hg]
      apply h.modifyLib
      intro lib' p' _ href
      rcases href with hpriv | ⟨req', hreq', hcbp⟩
      · exact .inl (.inl hpriv)
      · exact .inl (.inr ⟨req', mem_of_mem_erase hreq', hcbp⟩)
    have hp₁ : g₁.pdps.get? req.cbp = some pctx := by
      rw [← hg]
      exact hp
    have hsafe₁ : ConfSafe g₁ k req passed cause frees := by
      have hversion : (g₁.libs.get? k).any (fun lib => lib.version = 1) =
          (g.libs.get? k).any (fun lib => lib.version = 1) := by
        rw [← hg]
        dsimp only
        rw [get?_modify, if_pos rfl, hlib]
        rfl
      unfold ConfSafe endsPdp at hsafe ⊢
      rw [hversion, hp₁]
      rwa [hp] at hsafe
    have hconf : GmmAlive (confirmed k frees (cbConf g₁ (if passed then some k else none) req cause).1) := by
      unfold cbConf
      cases htype : req.type with
      | createPdp => exact alive_createConf halive hp₁ hown hsafe₁
      | deletePdp =>
        obtain ⟨hgoes, htimer⟩ := hsafe₁ fun hcreate => nomatch htype.symm.trans hcreate
        obtain rfl : frees = true := by
          apply hgoes.resolve_right
          exact fun hcreate => nomatch htype.symm.trans hcreate.1
        have hend := alive_endPdp halive hp₁ hown (htimer pctx hp₁)
        rw [← pdpCtxFree_removeLib] at hend
        unfold deletePdpConf
        rw [hp₁]
        exact hend
    exact hconf

/-- A station is asked to deactivate a PDP context, which stays. -/
theorem alive_txDeact (p : Nat) (pdp : PdpCtx) (cause : SmCause) :
    GmmAlive (gsm48TxGsmDeactPdpReq g p pdp cause).1 := by
  apply h.modifyPdp
  exact fun _ _ => ⟨rfl, rfl⟩

theorem alive_dropAll
    (hreg : ∀ p pdp, g.pdps.get? p = some pdp → pdp.ggsn = some k →
      ∀ ctx ∈ g.mms.get? pdp.mm, ctx.mmState = .registeredNormal) :
    GmmAlive (dropAllPdpForGgsn g k).1 := by
  unfold dropAllPdpForGgsn
  dsimp only
  have hlist : ∀ p ∈ g.mms.ids.reverse.flatMap fun i =>
      (g.pdpList i).filter fun p => (g.pdps.get? p).any fun pdp => pdp.ggsn = some k,
      ∃ pdp, g.pdps.get? p = some pdp ∧ pdp.ggsn = some k := by
    intro p hp
    obtain ⟨i, -, hp⟩ := mem_flatMap.mp hp
    obtain ⟨pdp, hpdp, hggsn⟩ := (any_eq_true _ _).mp (mem_filter.mp hp).2
    exact ⟨pdp, hpdp, of_decide_eq_true hggsn⟩
  generalize g.mms.ids.reverse.flatMap _ = pdps at hlist ⊢
  -- no round changes what GGSN and what MM context a PDP context belongs to
  have hfold (r : Gmm × List LlReq) (halive : GmmAlive r.1) (hmms : r.1.mms = g.mms)
      (hsame : ∀ p pdp, r.1.pdps.get? p = some pdp → pdp.ggsn = some k →
        ∀ ctx ∈ g.mms.get? pdp.mm, ctx.mmState = .registeredNormal)
      (hggsn : ∀ p ∈ pdps, ∃ pdp, r.1.pdps.get? p = some pdp ∧ pdp.ggsn = some k) :
      GmmAlive (pdps.foldl (fun r p => ((dropOnePdp r.1 p).1, r.2 ++ (dropOnePdp r.1 p).2)) r).1 := by
    clear hlist
    induction pdps generalizing r with
    | nil => exact halive
    | cons p pdps ih =>
      obtain ⟨pdp, hpdp, hk⟩ := hggsn p mem_cons_self
      obtain ⟨ctx, hctx⟩ := halive.mm p pdp hpdp
      have hstate : ctx.mmState = .registeredNormal := by
        rw [hmms] at hctx
        exact hsame p pdp hpdp hk ctx hctx
      have hdrop : dropOnePdp r.1 p = gsm48TxGsmDeactPdpReq r.1 p pdp .netFail := by
        unfold dropOnePdp
        rw [hpdp]
        dsimp only
        rw [hctx, any_some, if_pos (decide_eq_true hstate)]
      rw [foldl_cons, hdrop]
      apply ih
      · exact alive_txDeact halive p pdp .netFail
      · exact hmms
      · intro q pdp' hq hk'
        simp only [gsm48TxGsmDeactPdpReq, get?_modify] at hq
        split at hq
        · obtain ⟨old, hold, rfl⟩ := map_eq_some_iff.mp hq
          exact hsame q old hold hk'
        · exact hsame q pdp' hq hk'
      · intro q hq
        obtain ⟨pdp', hpdp', hk'⟩ := hggsn q (mem_cons_of_mem p hq)
        simp only [gsm48TxGsmDeactPdpReq, get?_modify]
        split
        · rw [hpdp']
          exact ⟨_, rfl, hk'⟩
        · exact ⟨pdp', hpdp', hk'⟩
  exact hfold (g, []) h rfl hreg hlist

theorem GmmAlive.ggsns (ggsns : Pool GgsnCtx) : GmmAlive { g with ggsns := ggsns } :=
  ⟨h.mm, h.mmTimers, h.pdpTimers, h.linked⟩

theorem alive_cbRecovery {peer : BitVec 32} {recovery : Nat}
    (hsafe : RecoverySafe g peer recovery) : GmmAlive (cbRecovery g peer recovery).1 := by
  unfold RecoverySafe restarted at hsafe
  unfold cbRecovery
  cases hfound : g.ggsns.findLast? fun ggsn => ggsn.remoteAddr == peer with
  | none => exact h
  | some found =>
    obtain ⟨k, ggsn⟩ := found
    rw [hfound] at hsafe
    dsimp only
    have hset := h.ggsns (g.ggsns.modify k fun ggsn => { ggsn with remoteRestartCtr := some recovery })
    cases hctr : ggsn.remoteRestartCtr with
    | none => exact hset
    | some ctr =>
      dsimp only
      split
      case isTrue => exact hset
      case isFalse hne =>
        simp only [bind_some, hctr, if_neg hne] at hsafe
        apply alive_dropAll hset
        exact hsafe k rfl

theorem alive_idResp {i : Nat} {mi : MobileId}
    (hsafe : ∀ old ∈ idRespOld g.mms i mi, FreeSafe g g.mms i old.1 old.2) : GmmAlive (gsm48RxGmmIdResp g i mi).1 := by
  have hstopped : GmmAlive { g with mms := g.mms.modify i (stopT3370 mi) } := h.mms (kept_modify _ _ _)
  unfold idRespOld at hsafe
  unfold gsm48RxGmmIdResp
  dsimp only
  cases hold : ((g.mms.modify i (stopT3370 mi)).get? i).bind (oldCtxOf (g.mms.modify i (stopT3370 mi)) mi) with
  | none => exact alive_onMm hstopped _ _
  | some old =>
    obtain ⟨j, ictx⟩ := old
    rw [hold] at hsafe
    obtain ⟨hother, htimer, -, hpdps⟩ := hsafe (j, ictx) rfl
    obtain ⟨ctx, -, hold⟩ := bind_eq_some_iff.mp hold
    have hj : (g.mms.modify i (stopT3370 mi)).get? j = some ictx := by
      unfold oldCtxOf at hold
      split at hold
      · exact (of_findLast? hold).1
      · cases hold
    apply alive_onMm
    exact alive_mmCtxFree hstopped hj htimer hpdps

end

variable {build : SgsnBuild} {l : Nat} {rands : List (BitVec 32)}

theorem alive_rcvGmm (h : GmmAlive g) {mmctx : Option Nat} {id : MsgId} {cell : GprsRaId} {msg : GmmMsg}
    (hsafe : ReqSafe build.coding g (gmmReq build g.mms mmctx id cell l msg).1 rands
      (gmmReq build g.mms mmctx id cell l msg).2)
    (hr : gsm0408RcvGmm build g mmctx id cell l msg rands = some r) : GmmAlive r.1 := by
  have hdone := rcvGmm_done hr
  generalize gmmReq build g.mms mmctx id cell l msg = found at hdone hsafe
  cases hdone with
  | kept htouch hlittle => exact h.mms (kept_touched htouch)
  | attach hptmsi => exact alive_onMm h _ _
  | attachNew hptmsi =>
    apply alive_onMm
    apply h.mms
    intro j ctx hj
    rw [get?_alloc, if_neg (Nat.ne_of_lt (get?_lt hj))]
    exact ⟨ctx, hj⟩
  | raUpd htouch hptmsi ps =>
    have htouched := h.mms (kept_touched htouch)
    exact alive_foldl (fun g p hg => alive_deletePdpCtx hg p) ps (alive_onMm htouched _ _)
  | idResp i mi => exact alive_idResp h hsafe
  | detach i => exact alive_onMm (alive_foldl (fun g p hg => alive_deletePdpCtx hg p) _ h) _ _
  | complete i reall => exact alive_onMm h _ _

theorem live_byTlli (build : SgsnBuild) (mms : Pool MmCtx) (tlli : BitVec 32) (raid : GprsRaId) :
    ∀ i ∈ (sgsnMmCtxByTlli build mms tlli raid).2, ∃ ctx, mms.get? i = some ctx := by
  intro i hi
  have hfind {q : MmCtx → Bool} {j : Nat} {ctx : MmCtx} (hfound : mms.findLast? q = some (j, ctx))
      (hij : some j = some i) :
      ∃ ctx, mms.get? i = some ctx := by
    cases hij
    exact ⟨ctx, (of_findLast? hfound).1⟩
  unfold sgsnMmCtxByTlli at hi
  split at hi
  · rename_i hfound
    exact hfind hfound hi
  · split at hi
    · split at hi
      · rename_i hfound
        exact hfind hfound hi
      · cases hi
    · split at hi
      · rename_i hfound
        exact hfind hfound hi
      · cases hi
    · cases hi

theorem live_rcvCtx (build : SgsnBuild) (mms : Pool MmCtx) (id : MsgId) (cell : GprsRaId) (l : Nat) :
    ∀ i ∈ (rcvCtx build mms id cell l).2, ∃ ctx, (rcvCtx build mms id cell l).1.get? i = some ctx := by
  intro i hi
  obtain ⟨ctx, hctx⟩ := live_byTlli build mms id.tlli cell i hi
  exact kept_touched (touches_rcvCtx build mms id cell l) i ctx hctx

theorem alive_dataStep (h : GmmAlive g) {llmes : Pool Llme} {f : UlFrame} {given : Given}
    (hsafe : ReqSafe build.coding g (dataReq build g.mms llmes f l).1 given.rands (dataReq build g.mms llmes f l).2)
    (hr : dataStep build g llmes f l given = some r) : GmmAlive r.1 := by
  have hdone := dataStep_done hr
  generalize dataReq build g.mms llmes f l = found at hdone hsafe
  cases hdone with
  | looked htouch => exact h.mms (kept_touched htouch)
  | gmm htouch hmsg => exact alive_rcvGmm (h.mms (kept_touched htouch)) hsafe hmsg
  | sm hreq =>
    have htouched := h.mms (kept_touched (touches_rcvCtx build g.mms f.id f.cell l))
    exact alive_rcvGsm htouched (live_rcvCtx build g.mms f.id f.cell l) _ _ _ _

/-- **The step, above the LLC layer.** -/
theorem alive_step {s s' : SgsnInstance} {ev : SgsnEvent} (h : GmmAlive s.gmm) (hsafe : StepSafe build s ev)
    (hstep : sgsnStep build s ev = some s') : GmmAlive s'.gmm := by
  obtain ⟨hreq, hgtp⟩ := hsafe
  have hfound (tlli : BitVec 32) (raid : GprsRaId) (f : MmCtx → MmCtx) :
      GmmAlive { s.gmm with
        mms :=
          onFound (sgsnMmCtxByTlli build s.gmm.mms tlli raid).1 (sgsnMmCtxByTlli build s.gmm.mms tlli raid).2 f } := by
    apply h.mms
    intro i ctx hctx
    obtain ⟨ctx', hctx'⟩ := kept_touched (touches_byTlli build s.gmm.mms tlli raid) i ctx hctx
    unfold onFound
    split
    · exact ⟨ctx', hctx'⟩
    · exact kept_modify _ _ _ i ctx' hctx'
  obtain ⟨reqs, hgmm, -⟩ := sgsnStep_gmm hstep
  generalize s'.gmm = g' at hgmm ⊢
  cases ev with
  | uplink f given =>
    simp only [gmmStep, mmReq] at hgmm hreq
    cases hup : f.handedUp build s.llmes with
    | none =>
      rw [hup] at hgmm
      cases hgmm
      exact h
    | some found =>
      rw [hup] at hgmm hreq
      exact alive_dataStep h hreq hgmm
  | suspend raid tlli =>
    cases hgmm
    exact hfound tlli raid suspend
  | resume raid tlli =>
    cases hgmm
    exact hfound tlli raid resume
  | mmTimer i =>
    rw [show g' = _ from congrArg Prod.fst (mmTimer_eq hgmm)]
    exact alive_onMm h _ _
  | pdpTimer p => exact alive_pdpTimer h hgmm
  | gtpConf k req passed cause frees => exact alive_gtpConf h hgtp hgmm
  | gtpDataInd k sndcp =>
    cases hgmm
    exact h
  | gtpDeleted k =>
    cases hgmm
    exact h.removeLib k
  | recovery peer recovery =>
    rw [← show _ = g' from congrArg Prod.fst (some.inj hgmm)]
    exact alive_cbRecovery h hgtp

/-! ## LLMEs -/

/-- The LLME of every MM context is there. -/
def LlmesAlive (mms : Pool MmCtx) (llmes : Pool Llme) : Prop :=
  ∀ i ctx, mms.get? i = some ctx → ∃ l llme, ctx.llme = some l ∧ llmes.get? l = some llme

variable {build : SgsnBuild} {mms : Pool MmCtx} {llmes llmes' : Pool Llme}

theorem live_opened (h : LlmesOpened build llmes llmes') (hlive : ∃ llme, llmes.get? l = some llme) :
    ∃ llme, llmes'.get? l = some llme := by
  refine Transition.closure_preserves (I := fun llmes => ∃ llme, llmes.get? l = some llme) ?_ h hlive
  rintro a b ⟨llme, hl⟩ hopen
  cases hopen with
  | route l' id =>
    rw [get?_modify, hl]
    split
    · exact ⟨llme.route id, rfl⟩
    · exact ⟨llme, rfl⟩
  | alloc tlli hnone =>
    unfold llmeAlloc
    rw [get?_alloc, if_neg (Nat.ne_of_lt (get?_lt hl))]
    exact ⟨llme, hl⟩

theorem LlmesAlive.opened (h : LlmesAlive mms llmes) (hopen : LlmesOpened build llmes llmes') :
    LlmesAlive mms llmes' := by
  intro i ctx hctx
  obtain ⟨l, llme, hl, hlive⟩ := h i ctx hctx
  obtain ⟨llme', hlive'⟩ := live_opened hopen ⟨llme, hlive⟩
  exact ⟨l, llme', hl, hlive'⟩

theorem LlmesAlive.modify (h : LlmesAlive mms llmes) (i : Nat) {f : MmCtx → MmCtx}
    (hf : ∀ ctx, (f ctx).llme = ctx.llme ∨ ∃ l llme, (f ctx).llme = some l ∧ llmes.get? l = some llme) :
    LlmesAlive (mms.modify i f) llmes := by
  intro j ctx' hget
  rw [get?_modify] at hget
  split at hget
  · obtain ⟨ctx, hctx, rfl⟩ := map_eq_some_iff.mp hget
    rcases hf ctx with hsame | hnew
    · rw [hsame]
      exact h j ctx hctx
    · exact hnew
  · exact h j ctx' hget

theorem llmesAlive_byTlli (build : SgsnBuild) (h : LlmesAlive mms llmes) (tlli : BitVec 32) (raid : GprsRaId) :
    LlmesAlive (sgsnMmCtxByTlli build mms tlli raid).1 llmes := by
  unfold sgsnMmCtxByTlli
  split
  · exact h
  · split
    · split
      · apply h.modify
        exact fun ctx => .inl rfl
      · exact h
    · split <;> exact h
    · exact h

theorem llmesAlive_rcvCtx (h : LlmesAlive mms llmes) (id : MsgId) (cell : GprsRaId)
    (hl : ∃ llme, llmes.get? l = some llme) : LlmesAlive (rcvCtx build mms id cell l).1 llmes := by
  obtain ⟨llme, hl⟩ := hl
  have hfound := llmesAlive_byTlli build h id.tlli cell
  unfold rcvCtx onFound
  dsimp only
  split
  · exact hfound
  · apply hfound.modify
    exact fun ctx => .inr ⟨l, llme, rfl, hl⟩

theorem llmesAlive_gmmReq (h : LlmesAlive mms llmes) (mmctx : Option Nat) (id : MsgId) (cell : GprsRaId) (l : Nat)
    (msg : GmmMsg) : LlmesAlive (gmmReq build mms mmctx id cell l msg).1 llmes := by
  cases msg with
  | attachReq req =>
    unfold gmmReq
    dsimp only
    split
    · exact h
    · split <;> exact h
  | raUpdReq req =>
    have hfound : LlmesAlive (raUpdCtx build mms id req).1 llmes := llmesAlive_byTlli _ h _ _
    unfold gmmReq
    dsimp only
    split
    · exact h
    · generalize raUpdCtx build mms id req = found at hfound ⊢
      obtain ⟨mms', found⟩ := found
      cases found <;> exact hfound
  | _ => cases mmctx <;> exact h

theorem llmesAlive_dataReq (h : LlmesAlive mms llmes) (f : UlFrame) (hl : ∃ llme, llmes.get? l = some llme) :
    LlmesAlive (dataReq build mms llmes f l).1 llmes := by
  unfold dataReq
  split
  · split
    · dsimp only
      split
      · exact llmesAlive_gmmReq (llmesAlive_rcvCtx h _ _ hl) _ _ _ _ _
      · exact llmesAlive_rcvCtx h _ _ hl
    · exact h
  · split
    · split
      · exact llmesAlive_byTlli _ h _ _
      · exact h
    · exact h
  · exact h

/-- The LLME that a request brings along. -/
def MmReq.llme : MmReq → Option Nat
  | attach _ _ _ l => some l
  | attachNew _ _ _ l => some l
  | _ => none

theorem llme_gmmReq (build : SgsnBuild) (mms : Pool MmCtx) (mmctx : Option Nat) (id : MsgId) (cell : GprsRaId)
    (l : Nat) (msg : GmmMsg) : ∀ l' ∈ (gmmReq build mms mmctx id cell l msg).2.llme, l = l' := by
  intro l' hl'
  cases msg with
  | attachReq req =>
    unfold gmmReq at hl'
    dsimp only at hl'
    split at hl'
    · cases hl'
    · split at hl'
      · cases hl'
      · exact some.inj hl'
      · exact some.inj hl'
  | raUpdReq req =>
    unfold gmmReq at hl'
    dsimp only at hl'
    split at hl'
    · cases hl'
    · split at hl' <;> cases hl'
  | _ => cases mmctx <;> cases hl'

theorem llme_dataReq (build : SgsnBuild) (mms : Pool MmCtx) (llmes : Pool Llme) (f : UlFrame) (l : Nat) :
    ∀ l' ∈ (dataReq build mms llmes f l).2.llme, l = l' := by
  intro l' hl'
  unfold dataReq at hl'
  split at hl'
  · split at hl'
    · dsimp only at hl'
      split at hl'
      · exact llme_gmmReq _ _ _ _ _ _ _ l' hl'
      · cases hl'
    · cases hl'
  · split at hl'
    · split at hl' <;> cases hl'
    · cases hl'
  · cases hl'

/-- When a handler starts, the LLMEs of all contexts are there, and so is the one that its request brings along. -/
theorem llmesAlive_mmReq (build : SgsnBuild) {s : SgsnInstance} (h : LlmesAlive s.gmm.mms s.llmes) (ev : SgsnEvent) :
    LlmesAlive (mmReq build s ev).1 (llmesBefore build s ev) ∧
      ∀ l ∈ (mmReq build s ev).2.llme, ∃ llme, (llmesBefore build s ev).get? l = some llme := by
  have hreqFor (found : Pool MmCtx × Option Nat) (req : Nat → MmReq) (hreq : ∀ i, (req i).llme = none) :
      ∀ l ∈ (reqFor found req).2.llme, ∃ llme, s.llmes.get? l = some llme := by
    obtain ⟨mms, found⟩ := found
    intro l hl
    cases found with
    | none => cases hl
    | some i =>
      simp only [reqFor, hreq] at hl
      cases hl
  cases ev with
  | uplink f given =>
    simp only [mmReq]
    split
    case h_1 llmes l hup =>
      obtain ⟨heq, hlive⟩ := llmesBefore_handedUp hup given
      have hopened := opened_before build s (.uplink f given)
      rw [heq] at hopened ⊢
      refine ⟨llmesAlive_dataReq (h.opened hopened) f hlive, ?_⟩
      intro l' hl'
      obtain rfl := llme_dataReq _ _ _ _ _ l' hl'
      exact hlive
    case h_2 =>
      refine ⟨h.opened (opened_before build s _), ?_⟩
      intro l hl
      cases hl
  | suspend | resume => exact ⟨llmesAlive_byTlli _ h _ _, hreqFor _ _ fun _ => rfl⟩
  | _ =>
    refine ⟨h, ?_⟩
    intro l hl
    cases hl

theorem live_performed {assigns : Option LlgmmAssign} (hlive : ∃ llme, llmes.get? l = some llme)
    (hkeep : ∀ a ∈ assigns, a.newTlli = tlliUnassigned → a.oldTlli = tlliUnassigned ∨ a.llme ≠ some l) :
    ∃ llme, (LlgmmAssign.performed llmes assigns).get? l = some llme := by
  obtain ⟨llme, hl⟩ := hlive
  have hmodify (l' : Nat) (f : Llme → Llme) : ∃ llme, (llmes.modify l' f).get? l = some llme := by
    rw [get?_modify, hl]
    split
    · exact ⟨f llme, rfl⟩
    · exact ⟨llme, rfl⟩
  cases assigns with
  | none => exact ⟨llme, hl⟩
  | some a =>
    simp only [LlgmmAssign.performed, gprsLlgmmAssign]
    split
    · exact ⟨llme, hl⟩
    · rename_i l' hl'
      split
      case isTrue =>
        split
        · exact ⟨llme, hl⟩
        · exact hmodify _ _
      case isFalse hold =>
        split
        case isTrue hnew =>
          have hne := (hkeep a rfl hnew).resolve_left hold
          rw [hl'] at hne
          rw [get?_remove, if_neg fun heq => hne (congrArg some heq.symm)]
          exact ⟨llme, hl⟩
        case isFalse => exact hmodify _ _

theorem llme_timerCb (ctx : MmCtx) : (mmctxTimerCb ctx).1.llme = ctx.llme := by
  unfold mmctxTimerCb
  dsimp only
  split
  all_goals first
    | rfl
    | split <;> rfl

theorem TlliAssigned.drawn {coding : TlliCoding} {tlli pTmsi : BitVec 32} (h : TlliAssigned coding mms rands tlli)
    (hdrawn : sgsnAllocPtmsi mms rands = some pTmsi) (hnew : coding.gprsTmsi2tlli pTmsi .tlliLocal = tlliUnassigned) :
    tlli = tlliUnassigned := by
  obtain ⟨hmem, hnot⟩ := of_allocPtmsi hdrawn
  rcases h with hold | hrands
  · exact hold
  · rcases hrands pTmsi hmem with huse | hne
    · rw [hnot] at huse
      cases huse
    · exact absurd hnew hne

/-- After a request, the contexts have LLMEs that were there when its handler started. -/
theorem llmesAlive_apply {mms' : Pool MmCtx} {req : MmReq} (h : LlmesAlive mms llmes)
    (hl : ∀ l ∈ req.llme, ∃ llme, llmes.get? l = some llme) (happly : req.apply build mms rands = some mms') :
    LlmesAlive mms' llmes := by
  cases req with
  | keep =>
    cases happly
    exact h
  | attach i id cell l =>
    obtain ⟨pTmsi, -, rfl⟩ := map_eq_some_iff.mp happly
    obtain ⟨llme, hlive⟩ := hl l rfl
    apply h.modify
    exact fun ctx => .inr ⟨l, llme, llme_authorize _ _, hlive⟩
  | attachNew base id cell l =>
    obtain ⟨pTmsi, -, rfl⟩ := map_eq_some_iff.mp happly
    obtain ⟨llme, hlive⟩ := hl l rfl
    intro i ctx hget
    rw [get?_alloc] at hget
    split at hget
    · cases hget
      exact ⟨l, llme, llme_authorize _ _, hlive⟩
    · exact h i ctx hget
  | idResp i mi =>
    cases happly
    intro k ctx' hget
    obtain ⟨ctx, hctx, hllme, -⟩ := of_idRespMms hget
    rw [hllme]
    exact h k ctx hctx
  | raUpd i _ cell =>
    obtain ⟨pTmsi, -, rfl⟩ := map_eq_some_iff.mp happly
    apply h.modify
    exact fun ctx => .inl rfl
  | complete | detach =>
    cases happly
    apply h.modify
    exact fun ctx => .inl rfl
  | timer i =>
    cases happly
    apply h.modify
    exact fun ctx => .inl (llme_timerCb _)
  | suspend i =>
    cases happly
    apply h.modify
    intro ctx
    unfold suspend
    split <;> exact .inl rfl
  | resume i =>
    cases happly
    apply h.modify
    intro ctx
    unfold resume
    split <;> exact .inl rfl

theorem keep_of_reqSafe {mms' : Pool MmCtx} {req : MmReq} (hsafe : ReqSafe build.coding g mms rands req)
    (happly : req.apply build mms rands = some mms') {i : Nat} {ctx : MmCtx} (hctx : mms'.get? i = some ctx) :
    ∀ a ∈ req.assigns build mms rands, a.newTlli = tlliUnassigned → a.oldTlli = tlliUnassigned ∨ a.llme ≠ ctx.llme := by
  intro a ha hnew
  cases req with
  | attach i id cell l =>
    obtain ⟨pTmsi, hdrawn, ha⟩ := bind_eq_some_iff.mp ha
    obtain ⟨old, -, rfl⟩ := map_eq_some_iff.mp ha
    exact .inl (TlliAssigned.drawn hsafe hdrawn hnew)
  | attachNew base id cell l =>
    obtain ⟨pTmsi, hdrawn, rfl⟩ := map_eq_some_iff.mp ha
    exact .inl (TlliAssigned.drawn hsafe hdrawn hnew)
  | raUpd i id cell =>
    obtain ⟨pTmsi, hdrawn, ha⟩ := bind_eq_some_iff.mp ha
    obtain ⟨old, -, rfl⟩ := map_eq_some_iff.mp ha
    exact .inl (TlliAssigned.drawn hsafe hdrawn hnew)
  | complete i reall =>
    cases reall with
    | true =>
      have hnone : a ∈ (none : Option LlgmmAssign) := ha
      cases hnone
    | false =>
      obtain ⟨old, -, rfl⟩ := map_eq_some_iff.mp ha
      exact .inl rfl
  | detach i =>
    obtain ⟨old, hold, rfl⟩ := map_eq_some_iff.mp ha
    exact .inl (hsafe old hold)
  | idResp i mi =>
    cases happly
    obtain ⟨old, hold, rfl⟩ := map_eq_some_iff.mp ha
    obtain ⟨-, -, hllme, -⟩ := hsafe old hold
    obtain ⟨ctx₀, hctx₀, hsame, hne⟩ := of_idRespMms hctx
    apply hllme.imp_right
    intro hother hl
    exact hother _ ctx₀ hctx₀ (hne old hold) (hsame.symm.trans hl.symm)
  | _ => cases ha

/-! ## The result -/

/-- **All references stay live.** In every run in which no step frees what is referred to, the LLME of every MM context
    and the MM context of every PDP context are there, no timer is left of a context that was freed, and libgtp refers
    to no PDP context that was. -/
theorem contextsAlive_of_stepSafe {build : SgsnBuild} {s : SgsnInstance}
    (h : ReachableBy (sgsnSystem build) (StepSafe build) s) : ContextsAlive s := by
  have halive : GmmAlive s.gmm ∧ LlmesAlive s.gmm.mms s.llmes := by
    refine h.invariant (I := fun s => GmmAlive s.gmm ∧ LlmesAlive s.gmm.mms s.llmes) ?_ ?_
    · rintro s ⟨ggsns, rfl⟩
      constructor
      · exact ⟨fun p pdp hp => (nomatch hp), rfl, rfl, fun k lib p hk => (nomatch hk)⟩
      · exact fun i ctx hctx => nomatch hctx
    · rintro s ev s' ⟨hgmm, hllmes⟩ hsafe hstep
      refine ⟨alive_step hgmm hsafe hstep, ?_⟩
      obtain ⟨hbefore, hreq⟩ := llmesAlive_mmReq build hllmes ev
      have happly := sgsnStep_mms hstep
      have hafter := llmesAlive_apply hbefore hreq happly
      obtain ⟨mid, hopened, -, hopened'⟩ := sgsnStep_llmes hstep
      intro i ctx hctx
      obtain ⟨l, llme, hl, hlive⟩ := hafter i ctx hctx
      have hkeep := keep_of_reqSafe hsafe.1 happly hctx
      rw [hl] at hkeep
      obtain ⟨llme', hlive'⟩ := live_opened hopened' (live_performed (live_opened hopened ⟨llme, hlive⟩) hkeep)
      exact ⟨l, llme', hl, hlive'⟩
  obtain ⟨hgmm, hllmes⟩ := halive
  refine ⟨hllmes, hgmm.mm, hgmm.mmTimers, hgmm.pdpTimers, ?_⟩
  intro k lib p hk href
  obtain ⟨pdp, hpdp, -⟩ := hgmm.linked k lib p hk href
  exact ⟨pdp, hpdp⟩

/-- A station attaches, opens a session with a GGSN, ends it, and opens another. -/
def sessionAgain : Option SgsnInstance :=
  guardedRun (sgsnStep checkingBuild) (StepSafe checkingBuild) { gmm := { ggsns := Pool.empty.alloc { id := 0 } } }
    [.attachImsi 0x78000001 homeCell ['2', '6', '2', '4', '2', '1'] [1],
      .idResp 0x78000001 homeCell .imei ['9', '0'],
      .gmm 0x78000001 homeCell .attachCompl [],
      .sm 0xc0000001 homeCell 1 (.actPdpReq 3 5),
      .gtpConf 0 ⟨.createPdp, 0⟩ true (some .accReq) false,
      .sm 0xc0000001 homeCell 1 .deactPdpReq,
      .gtpConf 0 ⟨.deletePdp, 0⟩ true (some .accReq) true,
      .sm 0xc0000001 homeCell 1 (.actPdpReq 3 5)]

theorem contextsAlive_sessionAgain : ∃ s ∈ sessionAgain, s.gmm.mms.ids = [0] ∧ s.gmm.pdps.ids = [1] ∧
    s.gmm.libs.ids = [1] ∧ ContextsAlive s := by
  obtain ⟨s, hs, hmms, hpdps, hlibs⟩ : ∃ s ∈ sessionAgain, s.gmm.mms.ids = [0] ∧ s.gmm.pdps.ids = [1] ∧
      s.gmm.libs.ids = [1] := by decide +kernel
  exact ⟨s, hs, hmms, hpdps, hlibs, contextsAlive_of_stepSafe
    (ReachableBy.guardedRun (fun _ _ _ h => h) (.init ⟨_, rfl⟩) hs)⟩

/-- A station attaches and detaches. -/
def detached : Option SgsnInstance :=
  guardedRun (sgsnStep checkingBuild) (fun _ _ => True) {}
    [.attachImsi 0x78000001 homeCell ['2', '6', '2', '4', '2', '1'] [1], .gmm 0x78000001 homeCell .detachReq []]

theorem not_contextsAlive_detached : ∃ s, Reachable (sgsnSystem checkingBuild) s ∧ ¬ ContextsAlive s := by
  obtain ⟨s, hs, ctx, hctx, hllme, hgone⟩ : ∃ s ∈ detached, ∃ ctx ∈ s.gmm.mms.get? 0,
      ctx.llme = some 0 ∧ s.llmes.get? 0 = none := by decide +kernel
  refine ⟨s, ReachableBy.guardedRun (fun _ _ _ h => h) (.init ⟨.empty, rfl⟩) hs, ?_⟩
  intro halive
  obtain ⟨l, llme, hl, hlive⟩ := halive.llme 0 ctx hctx
  cases hllme.symm.trans hl
  rw [hgone] at hlive
  cases hlive

end OpenBsc.Sgsn
