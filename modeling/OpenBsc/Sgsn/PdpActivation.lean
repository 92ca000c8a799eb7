import OpenBsc.Sgsn.PdpTunnels

/-!
# `Sgsn.PdpActivation` — how activation requests are answered

An activation request that makes a PDP context is answered when the GGSN has confirmed the creation of the tunnel; a
repeated one is taken for one whose answer was lost, and is accepted at once. So where it comes while the creation is
pending, or after the tunnel was deleted, the station is told that a PDP context is active that is not. A request that
finds no GGSN or no handle is dropped, and in the latter case leaves its PDP context behind; one whose PDP context or
handle is freed before the confirmation is never answered.

Where none of this happens (`Undisturbed`), the protocol is as it should be (`Answered`): in every step requests and
confirmations have one answer or wait, a failure leaves no PDP context, and what is accepted is accepted by the GGSN.
-/

namespace OpenBsc.Sgsn

open Transition Pool GtpReq Option List

variable {build : SgsnBuild} {s s' : SgsnInstance} {ev : SgsnEvent} {g g' : Gmm} {reqs : List LlReq} {acc : List Nat}

/-! ## The purpose -/

/-- The PDP context whose creation the GGSN accepts. -/
def SgsnEvent.accepts : SgsnEvent → Option Nat
  | .gtpConf _ req _ cause _ => if req.type = .createPdp ∧ cause = some .accReq then some req.cbp else none
  | _ => none

/-- The tunnel of the PDP context is deleted: as the SGSN has asked, or its handle goes. -/
def SgsnEvent.deletes (g : Gmm) (p : Nat) : SgsnEvent → Bool
  | .gtpConf h req _ _ frees => req == ⟨.deletePdp, p⟩ || frees && (g.pdps.get? p).any fun pdp => pdp.lib == some h
  | .gtpDeleted h => (g.pdps.get? p).any fun pdp => pdp.lib == some h
  | _ => false

/-- The PDP contexts whose creation the GGSN has accepted and that have not been deleted since. -/
def acceptedAfter (acc : List Nat) (s : SgsnInstance) (ev : SgsnEvent) : List Nat :=
  (ev.accepts.toList ++ acc).filter fun p => !ev.deletes s.gmm p

/-- An SGSN, with those PDP contexts. -/
def activationSystem (build : SgsnBuild) : System (SgsnInstance × List Nat) SgsnEvent :=
  (sgsnSystem build).recording [] fun acc s ev _ => acceptedAfter acc s ev

/-- What an activation request leads to: it is accepted again where the GGSN has accepted it, or rejected, or a PDP
    context is made that waits for the GGSN. -/
inductive Requested (acc : List Nat) (s s' : SgsnInstance) (req : SmReq) (sapi nsapi : Nat) (ctx : MmCtx) :
    List LlReq → Prop where
  | again {p : Nat} {pdp : PdpCtx} (hpdp : s.gmm.pdps.get? p = some pdp) (hmm : pdp.mm = req.mm)
      (hnsapi : pdp.nsapi = nsapi) (hsapi : pdp.sapi = sapi) (hti : pdp.ti = req.ti) (hacc : p ∈ acc)
      (hsame : s'.gmm.pdps = s.gmm.pdps) :
      Requested acc s s' req sapi nsapi ctx [ctx.tx (.actPdpAcc (flipTi req.ti) sapi)]
  | rejected (cause : SmCause) (hsame : s'.gmm.pdps = s.gmm.pdps) :
      Requested acc s s' req sapi nsapi ctx [ctx.tx (.actPdpRej (flipTi req.ti) cause)]
  | waits {new : PdpCtx} (hmade : s'.gmm.pdps = s.gmm.pdps.alloc new) (hmm : new.mm = req.mm)
      (hnsapi : new.nsapi = nsapi) (hsapi : new.sapi = sapi) (hti : new.ti = req.ti)
      (hwaits : s'.gmm.view s.gmm.pdps.next = some (new.session, .creating)) :
      Requested acc s s' req sapi nsapi ctx []

/-- What the end of a creation leads to: the station is told, or the GGSN is asked again, but not in the same way. -/
inductive Confirmed (s s' : SgsnInstance) (h p : Nat) (cause : Option GtpCause) (pdp : PdpCtx) (ctx : MmCtx) :
    List LlReq → Prop where
  | accepted (hcause : cause = some .accReq) (hsame : s'.gmm.pdps = s.gmm.pdps) :
      Confirmed s s' h p cause pdp ctx [ctx.tx (.actPdpAcc (flipTi pdp.ti) pdp.sapi)]
  | rejected (hcause : cause ≠ some .accReq) (hfreed : s'.gmm.pdps = s.gmm.pdps.remove p) :
      Confirmed s s' h p cause pdp ctx [ctx.tx (.actPdpRej (flipTi pdp.ti) ((cause.map gtp2smCause).getD .netFail))]
  | retried (hcause : cause = none) (hold : (s.gmm.libs.get? h).any fun lib => lib.version = 1)
      (hnew : (s'.gmm.libs.get? h).any fun lib => lib.version = 0) (hsame : s'.gmm.pdps = s.gmm.pdps)
      (hwaits : s'.gmm.view p = some (pdp.session, .creating)) : Confirmed s s' h p cause pdp ctx []

/-- The activation protocol, in a step: what is accepted, how requests and confirmations are answered, that nothing else
    is answered, and that whoever waits goes on to wait. -/
structure Answered (build : SgsnBuild) (acc : List Nat) (s : SgsnInstance) (ev : SgsnEvent) (s' : SgsnInstance) :
    Prop where
  accepts : ∀ id llcSapi ti sapi, .txUi id llcSapi (.actPdpAcc ti sapi) ∈ sends build s ev →
    ∃ p pdp, s.gmm.pdps.get? p = some pdp ∧ ti = flipTi pdp.ti ∧ sapi = pdp.sapi ∧ (p ∈ acc ∨ ev.accepts = some p)
  request : ∀ req sapi nsapi, smReq build s ev = some req → req.msg = .actPdpReq sapi nsapi →
    ∃ ctx, s'.gmm.mms.get? req.mm = some ctx ∧ Requested acc s s' req sapi nsapi ctx (sends build s ev)
  confirmed : ∀ h p passed cause frees, ev = .gtpConf h ⟨.createPdp, p⟩ passed cause frees →
    ∃ pdp ctx, s.gmm.pdps.get? p = some pdp ∧ s.gmm.view p = some (pdp.session, .creating) ∧
      s'.gmm.mms.get? pdp.mm = some ctx ∧ Confirmed s s' h p cause pdp ctx (sends build s ev)
  silent : (∀ req ∈ smReq build s ev, ∀ sapi nsapi, req.msg ≠ .actPdpReq sapi nsapi) →
    (∀ h p passed cause frees, ev ≠ .gtpConf h ⟨.createPdp, p⟩ passed cause frees) →
    Unanswering (sends build s ev)
  waits : ∀ p sess, s.gmm.view p = some (sess, .creating) →
    (∀ h passed cause frees, ev ≠ .gtpConf h ⟨.createPdp, p⟩ passed cause frees) →
    s'.gmm.view p = some (sess, .creating)
  unknown : ∀ f given found ti msg, ev = .uplink f given → f.handedUp build s.llmes = some found →
    f.data = .l3 (.sm ti msg) → f.sapi = sapiGmm → (rcvCtx build s.gmm.mms f.id f.cell found.2).2 = none →
    sends build s ev = [txOldmsg f.id (.gmmStatus .implDetached), txOldmsg f.id (.smStatus .protoErrUnspec)]

/-! ## The condition -/

/-- An activation request is repeated only when the GGSN has created the tunnel, and there is still one; a new PDP
    context finds GGSN 0 and a handle. -/
def SmReq.proper (g : Gmm) (req : SmReq) : Bool :=
  match req.msg with
  | .actPdpReq sapi nsapi =>
    if nsapi < 5 ∨ 15 < nsapi then true
    else
      match g.sgsnPdpCtxByNsapi req.mm nsapi with
      | some found =>
        !(found.2.sapi == sapi && found.2.ti == req.ti) || decide (g.tunnel found.1 found.2 = .created)
      | none => (g.ggsns.findLast? fun ggsn => ggsn.id == 0).isSome && req.pdpLeft
  | _ => true

/-- An event frees the PDP context or its handle, other than by the confirmation of its creation. -/
def Abandons (build : SgsnBuild) (s : SgsnInstance) (ev : SgsnEvent) (p : Nat) (pdp : PdpCtx) : Prop :=
  freesMm build s ev = some pdp.mm ∨
  match ev with
  | .gtpConf h req passed cause frees =>
    req = ⟨.deletePdp, p⟩ ∨ frees = true ∧ pdp.lib = some h ∧
      (req = ⟨.createPdp, p⟩ → cause = none ∧ ¬ endsPdp s.gmm h req passed cause)
  | .gtpDeleted h => pdp.lib = some h
  | .recovery peer recovery => endsHard s.gmm peer recovery p
  | _ => False

/-- Activation requests find what they need, and nobody abandons a PDP context that waits for the GGSN. -/
def Undisturbed (build : SgsnBuild) (s : SgsnInstance) (ev : SgsnEvent) : Prop :=
  (∀ req ∈ smReq build s ev, req.proper s.gmm = true) ∧
    ∀ p pdp, s.gmm.pdps.get? p = some pdp → s.gmm.tunnel p pdp = .creating → ¬ Abandons build s ev p pdp

instance (g : Gmm) (peer : BitVec 32) (recovery p : Nat) : Decidable (endsHard g peer recovery p) :=
  decidable_of_iff ((restarted g peer recovery).any fun k => (g.pdps.get? p).any fun pdp =>
      decide (pdp.ggsn = some k) && !(g.mms.get? pdp.mm).any fun ctx => ctx.mmState = .registeredNormal) <| by
    unfold endsHard
    simp only [Option.any_eq_true, Bool.and_eq_true, decide_eq_true_eq, Bool.not_eq_true']
    constructor
    · rintro ⟨k, hk, pdp, hpdp, hggsn, hnormal⟩
      exact ⟨k, pdp, hk, hpdp, hggsn, hnormal⟩
    · rintro ⟨k, pdp, hk, hpdp, hggsn, hnormal⟩
      exact ⟨k, hk, pdp, hpdp, hggsn, hnormal⟩

instance (build : SgsnBuild) (s : SgsnInstance) (ev : SgsnEvent) (p : Nat) (pdp : PdpCtx) :
    Decidable (Abandons build s ev p pdp) :=
  match ev with
  | .gtpConf .. | .gtpDeleted _ | .recovery .. => inferInstanceAs (Decidable (_ = _ ∨ _))
  | .uplink .. | .suspend .. | .resume .. | .mmTimer _ | .pdpTimer _ | .gtpDataInd .. =>
    inferInstanceAs (Decidable (_ = _ ∨ False))

instance (build : SgsnBuild) (s : SgsnInstance) (ev : SgsnEvent) : Decidable (Undisturbed build s ev) :=
  inferInstanceAs (Decidable ((∀ req ∈ smReq build s ev, _ = true) ∧ ∀ p pdp, s.gmm.pdps.get? p = some pdp → _ → ¬ _))

/-! ## Confirmations -/

variable {h : Nat}

/-- The handle of another PDP context goes. -/
theorem view_removeLib_ne {q : Nat} (hq : ∀ sess t, g.view q = some (sess, t) → sess.lib ≠ some h) :
    ({ g with libs := g.libs.remove h } : Gmm).view q = g.view q := by
  rw [view_removeLib]
  cases hview : g.view q with
  | none => rfl
  | some v =>
    obtain ⟨sess, t⟩ := v
    rw [map_some, if_neg (hq sess t hview)]

/-- The state after the confirmation of a creation, for libgtp. -/
def Gmm.settled (g : Gmm) (h p : Nat) : Gmm :=
  { g with libs := g.libs.modify h fun lib => { lib with pending := lib.pending.erase ⟨.createPdp, p⟩ } }

variable {p : Nat} {pdp : PdpCtx}

theorem settled_spec (hg : Tunnels g) (hpdp : g.pdps.get? p = some pdp) (hlib : pdp.lib = some h)
    (hcreating : g.tunnel p pdp = .creating) :
    Tunnels (g.settled h p) ∧ (g.settled h p).view p = some (pdp.session, .created) ∧
      ∀ q, q ≠ p → (g.settled h p).view q = g.view q := by
  refine ⟨hg.modifyLib h fun lib q => erase_sublist.count_le _, ?_, fun q hq => ?_⟩
  · obtain ⟨k, lib, hk, hget, hmem⟩ := tunnel_creating.mp hcreating
    cases hlib.symm.trans hk
    rw [view_of_get? (g := g.settled h p) hpdp]
    refine congrArg some (Prod.ext rfl ?_)
    have hnone : ⟨.createPdp, p⟩ ∉ lib.pending.erase ⟨.createPdp, p⟩ := by
      rw [← count_eq_zero, count_erase_self]
      exact Nat.sub_eq_zero_of_le (hg.once h lib p hget)
    have hget' : (g.settled h p).libs.get? h = some { lib with pending := lib.pending.erase ⟨.createPdp, p⟩ } :=
      get?_modify_self hget
    show (g.settled h p).tunnel p pdp = .created
    unfold Gmm.tunnel
    rw [hlib, bind_some, hget']
    exact if_neg hnone
  · refine view_modifyLib g h q fun lib _ _ _ _ => mem_erase_of_ne ?_
    intro hsame
    exact hq (congrArg cbp hsame)

variable {ctx : MmCtx}

theorem txFor_eq (hctx : g.mms.get? pdp.mm = some ctx) (msg : Downlink) : g.txFor pdp msg = [ctx.tx msg] := by
  unfold Gmm.txFor
  rw [hctx]

/-- A PDP context whose creation failed goes, with its handle if that is passed on. -/
theorem createReject_spec (hg : Tunnels g) (k : Option Nat) (p : Nat) (pdp : PdpCtx) (cause : SmCause)
    (hcreated : ∀ sess, g.view p ≠ some (sess, .creating)) (hctx : g.mms.get? pdp.mm = some ctx)
    (hk : ∀ h ∈ k, ∀ q sess t, q ≠ p → g.view q = some (sess, t) → sess.lib ≠ some h) :
    (createPdpReject g k p pdp cause).2 = [ctx.tx (.actPdpRej (flipTi pdp.ti) cause)] ∧
      (createPdpReject g k p pdp cause).1.pdps = g.pdps.remove p ∧ Tunnels (createPdpReject g k p pdp cause).1 ∧
      ∀ q, q ≠ p → (createPdpReject g k p pdp cause).1.view q = g.view q := by
  unfold createPdpReject
  cases k with
  | none =>
    refine ⟨txFor_eq hctx _, pdps_pdpCtxFree g p, hg.freePdp hcreated, fun q hq => ?_⟩
    exact (view_pdpCtxFree g p q).trans (if_neg hq)
  | some h =>
    refine ⟨txFor_eq hctx _, pdps_pdpCtxFree _ p, (hg.removeLib h).freePdp ?_, fun q hq => ?_⟩
    · intro sess hview
      rw [view_removeLib] at hview
      obtain ⟨v, hv, hsame⟩ := map_eq_some_iff.mp hview
      split_ifs at hsame
      · cases hsame
      · exact hcreated sess (hv.trans (congrArg some hsame))
    · refine (view_pdpCtxFree _ p q).trans ((if_neg hq).trans ?_)
      exact view_removeLib_ne fun sess t => hk h rfl q sess t hq

/-- What a confirmation makes of the PDP context, whose creation is no longer pending. -/
theorem createConf_cases (hg : Tunnels g) {k : Option Nat} (cause : Option GtpCause)
    (hpdp : g.pdps.get? p = some pdp) (hlib : pdp.lib = some h) (hctx : g.mms.get? pdp.mm = some ctx)
    (hcreated : g.view p = some (pdp.session, .created)) (hk : ∀ l ∈ k, l = h) :
    (cause = some .accReq ∧ createPdpConf g k p cause = (g, [ctx.tx (.actPdpAcc (flipTi pdp.ti) pdp.sapi)])) ∨
    (cause ≠ some .accReq ∧
      (createPdpConf g k p cause).2 =
        [ctx.tx (.actPdpRej (flipTi pdp.ti) ((cause.map gtp2smCause).getD .netFail))] ∧
      (createPdpConf g k p cause).1.pdps = g.pdps.remove p ∧ Tunnels (createPdpConf g k p cause).1 ∧
      ∀ q, q ≠ p → (createPdpConf g k p cause).1.view q = g.view q) ∨
    (cause = none ∧ k = some h ∧ (g.libs.get? h).any (fun lib => lib.version = 1) = true ∧
      createPdpConf g k p cause = ({ g with libs := g.libs.modify h fun lib =>
        { lib with version := 0, pending := lib.pending ++ [⟨.createPdp, p⟩] } }, [])) := by
  have hreject (smCause : SmCause) := createReject_spec hg k p pdp smCause
    (fun sess hview => by rw [hcreated] at hview; cases hview) hctx <| by
      intro l hl q sess t hq hview hsame
      obtain ⟨pdq, hpdq, rfl, -⟩ := get?_of_view hview
      rw [hk l hl] at hsame
      exact hq (hg.own q pdq p pdp h hpdq hpdp hsame hlib)
  unfold createPdpConf
  rw [hpdp]
  dsimp only
  cases cause with
  | none =>
    cases k with
    | none => exact .inr (.inl ⟨nofun, hreject .netFail⟩)
    | some l =>
      obtain rfl := hk l rfl
      dsimp only
      split_ifs with hversion
      · exact .inr (.inr ⟨rfl, rfl, hversion, rfl⟩)
      · exact .inr (.inl ⟨nofun, hreject .netFail⟩)
  | some cause =>
    by_cases hacc : cause = .accReq
    · subst hacc
      exact .inl ⟨rfl, congrArg (Prod.mk g) (txFor_eq hctx _)⟩
    · refine .inr (.inl ⟨fun hsame => hacc (some.inj hsame), ?_⟩)
      cases cause with
      | accReq => exact absurd rfl hacc
      | _ => exact hreject _

theorem retried_spec (hg : Tunnels g) {lib : PdpT} (hpdp : g.pdps.get? p = some pdp) (hlib : pdp.lib = some h)
    (hget : g.libs.get? h = some lib) (hcreated : g.tunnel p pdp ≠ .creating)
    (hg' : g' = { g with libs := g.libs.modify h fun lib =>
      { lib with version := 0, pending := lib.pending ++ [⟨.createPdp, p⟩] } }) :
    Tunnels g' ∧ g'.view p = some (pdp.session, .creating) ∧ (g'.libs.get? h).any (fun lib => lib.version = 0) = true ∧
      ∀ q, q ≠ p → g'.view q = g.view q := by
  have hpdp' : g'.pdps.get? p = some pdp := by
    rw [hg']
    exact hpdp
  have hget' : g'.libs.get? h = some { lib with version := 0, pending := lib.pending ++ [⟨.createPdp, p⟩] } := by
    rw [hg']
    exact get?_modify_self hget
  refine ⟨hg' ▸ hg.retried hpdp hlib hcreated, ?_, ?_, fun q hq => ?_⟩
  · refine (view_of_get? hpdp').trans (congrArg some (Prod.ext rfl ?_))
    exact tunnel_creating.mpr ⟨h, _, hlib, hget', mem_append_right _ mem_cons_self⟩
  · rw [hget']
    rfl
  · rw [hg']
    refine view_modifyLib g h q fun lib _ _ _ _ => ?_
    rw [mem_append, or_iff_left]
    intro hmem
    exact hq (congrArg cbp (mem_singleton.mp hmem))

variable {cause : Option GtpCause}

/-- **The confirmation of a creation.** -/
theorem gtpConf_created (hg : Tunnels g) {passed frees : Bool}
    (hconf : gtpConf g h ⟨.createPdp, p⟩ passed cause frees = some (g', reqs)) :
    ∃ pdp ctx, g.pdps.get? p = some pdp ∧ pdp.lib = some h ∧ g.tunnel p pdp = .creating ∧
      g.mms.get? pdp.mm = some ctx ∧ Tunnels g' ∧ (∀ q, q ≠ p → g'.view q = g.view q) ∧
      ((cause = some .accReq ∧ reqs = [ctx.tx (.actPdpAcc (flipTi pdp.ti) pdp.sapi)] ∧ g'.pdps = g.pdps) ∨
        (cause ≠ some .accReq ∧
          reqs = [ctx.tx (.actPdpRej (flipTi pdp.ti) ((cause.map gtp2smCause).getD .netFail))] ∧
          g'.pdps = g.pdps.remove p) ∨
        (cause = none ∧ ¬ endsPdp g h ⟨.createPdp, p⟩ passed cause ∧
          (g.libs.get? h).any (fun lib => lib.version = 1) = true ∧ reqs = [] ∧ g'.pdps = g.pdps ∧
          (frees = false → g'.view p = some (pdp.session, .creating) ∧
            (g'.libs.get? h).any (fun lib => lib.version = 0) = true))) := by
  unfold gtpConf at hconf
  split at hconf
  case isFalse => cases hconf
  case isTrue hpending =>
    obtain ⟨lib, hget, hmem⟩ := (any_eq_true _ _).mp hpending
    have hmem := of_decide_eq_true hmem
    obtain ⟨pdp, hpdp, hlib⟩ := hg.created h lib p hget hmem
    obtain ⟨ctx, hctx⟩ := isSome_iff_exists.mp (hg.mm p pdp hpdp)
    have hcreating := tunnel_creating.mpr ⟨h, lib, hlib, hget, hmem⟩
    obtain ⟨hg₁, hview, hothers⟩ := settled_spec hg hpdp hlib hcreating
    have hget₁ : (g.settled h p).libs.get? h = some { lib with pending := lib.pending.erase ⟨.createPdp, p⟩ } :=
      get?_modify_self hget
    have hpassed : ∀ l ∈ (if passed then some h else none), l = h := by
      intro l hl
      split at hl
      · exact (some.inj hl).symm
      · cases hl
    obtain ⟨hg', hreqs⟩ := Prod.mk.inj (some.inj hconf)
    -- what libgtp does at the end
    have hfrees {g₂ : Gmm} (hg₂ : Tunnels g₂) (hview₂ : ∀ q, q ≠ p → g₂.view q = g.view q)
        (heq : (if frees then { g₂ with libs := g₂.libs.remove h } else g₂) = g') :
        Tunnels g' ∧ (∀ q, q ≠ p → g'.view q = g.view q) ∧ g'.pdps = g₂.pdps ∧ (frees = false → g' = g₂) := by
      cases frees with
      | false =>
        obtain rfl : g₂ = g' := heq
        exact ⟨hg₂, hview₂, rfl, fun _ => rfl⟩
      | true =>
        obtain rfl : { g₂ with libs := g₂.libs.remove h } = g' := heq
        refine ⟨hg₂.removeLib h, fun q hq => ?_, rfl, nofun⟩
        rw [← hview₂ q hq]
        refine view_removeLib_ne fun sess t hsess hsame => ?_
        rw [hview₂ q hq] at hsess
        obtain ⟨pdq, hpdq, rfl, -⟩ := get?_of_view hsess
        exact hq (hg.own q pdq p pdp h hpdq hpdp hsame hlib)
    have hcases := createConf_cases hg₁ cause hpdp hlib hctx hview hpassed
    refine ⟨pdp, ctx, hpdp, hlib, hcreating, hctx, ?_⟩
    rcases hcases with ⟨hcause, heq⟩ | ⟨hcause, hsends, hpdps, hg₂, hview₂⟩ | ⟨hcause, hk, hversion, heq⟩
    · obtain ⟨hgood, hviews, hpdps, -⟩ := hfrees hg₁ hothers
        ((congrArg (fun r : Gmm × List LlReq => if frees then { r.1 with libs := r.1.libs.remove h } else r.1)
          heq.symm).trans hg')
      refine ⟨hgood, hviews, .inl ⟨hcause, ?_, hpdps⟩⟩
      exact hreqs.symm.trans (congrArg Prod.snd heq)
    · obtain ⟨hgood, hviews, hpdps', -⟩ := hfrees hg₂ (fun q hq => (hview₂ q hq).trans (hothers q hq)) hg'
      exact ⟨hgood, hviews, .inr (.inl ⟨hcause, hreqs.symm.trans hsends, hpdps'.trans hpdps⟩)⟩
    · have hnot : (g.settled h p).tunnel p pdp ≠ .creating := by
        rw [view_of_get? (g := g.settled h p) hpdp] at hview
        have htunnel : (g.settled h p).tunnel p pdp = .created := congrArg Prod.snd (some.inj hview)
        rw [htunnel]
        nofun
      obtain ⟨hg₂, hwaits, hnew, hview₂⟩ := retried_spec hg₁ hpdp hlib hget₁ hnot rfl
      obtain ⟨hgood, hviews, hpdps, hsame⟩ := hfrees hg₂ (fun q hq => (hview₂ q hq).trans (hothers q hq))
        ((congrArg (fun r : Gmm × List LlReq => if frees then { r.1 with libs := r.1.libs.remove h } else r.1)
          heq.symm).trans hg')
      have hold : (g.libs.get? h).any (fun lib => lib.version = 1) = true := by
        rw [hget₁] at hversion
        rw [hget]
        exact hversion
      refine ⟨hgood, hviews, .inr (.inr ⟨hcause, ?_, hold, ?_, hpdps, fun hno => ?_⟩)⟩
      · intro hends
        refine (hends rfl).2 ⟨hcause, ?_, hold⟩
        cases passed with
        | true => rfl
        | false => cases hk
      · exact hreqs.symm.trans (congrArg Prod.snd heq)
      · rw [hsame hno]
        exact ⟨hwaits, hnew⟩

/-! ## Other events -/

theorem harmless_of_undisturbed (h : Undisturbed build s ev)
    (hreq : ∀ req ∈ smReq build s ev, ∀ sapi nsapi, req.msg ≠ .actPdpReq sapi nsapi)
    (hconf : ∀ h p passed cause frees, ev ≠ .gtpConf h ⟨.createPdp, p⟩ passed cause frees) (l : PdpLabel)
    (hl : mayDo build s ev l) : Harmless s.gmm l := by
  -- whoever waits is not abandoned
  have hkept {p : Nat} {sess : PdpCtx} (hview : s.gmm.view p = some (sess, .creating)) :
      ∃ pdp, pdp.session = sess ∧ ¬ Abandons build s ev p pdp := by
    obtain ⟨pdp, hpdp, hsess, ht⟩ := get?_of_view hview
    exact ⟨pdp, hsess, h.2 p pdp hpdp ht⟩
  cases l with
  | look => trivial
  | deletion p => trivial
  | timer p => trivial
  | mmFreed j =>
    intro p sess hview hmm
    obtain ⟨pdp, rfl, hnot⟩ := hkept hview
    exact hnot (.inl (Eq.trans hl (congrArg some hmm.symm)))
  | freed p =>
    intro sess hview
    obtain ⟨pdp, -, hnot⟩ := hkept hview
    cases ev with
    | gtpConf k req passed cause frees =>
      obtain ⟨type, cbp⟩ := req
      cases type with
      | createPdp => exact hconf k cbp passed cause frees rfl
      | deletePdp => exact hnot (.inr (.inl (congrArg (mk .deletePdp) hl.1)))
    | recovery peer recovery => exact hnot (.inr hl)
    | _ => exact hl
  | handleFreed k =>
    intro p sess hview hlib
    obtain ⟨pdp, rfl, hnot⟩ := hkept hview
    cases ev with
    | gtpConf k' req passed cause frees =>
      obtain ⟨type, cbp⟩ := req
      cases type with
      | createPdp => exact hconf k' cbp passed cause frees rfl
      | deletePdp =>
        obtain ⟨rfl, hfrees | ⟨hcreate, -⟩⟩ := hl
        · exact hnot (.inr (.inr ⟨hfrees, hlib, nofun⟩))
        · cases hcreate
    | gtpDeleted k' =>
      obtain rfl : k' = k := hl
      exact hnot (.inr hlib)
    | _ => exact hl
  | made i nsapi sapi ti pdpLeft => exact hreq _ hl sapi nsapi rfl
  | confirmed k req =>
    cases ev with
    | gtpConf k' req' passed cause frees =>
      obtain ⟨-, rfl⟩ := hl
      obtain ⟨type, cbp⟩ := req'
      cases type with
      | createPdp => exact absurd rfl (hconf k' cbp passed cause frees)
      | deletePdp => rfl
    | _ => exact absurd hl id
  | retried k p =>
    cases ev with
    | gtpConf k' req passed cause frees =>
      obtain ⟨-, rfl, -⟩ := hl
      exact hconf k' p passed cause frees rfl
    | _ => exact hl

/-! ## Requests -/

theorem onMm_tx {i : Nat} (hctx : g.mms.get? i = some ctx) (msg : Downlink) :
    (g.onMm i fun ctx => (ctx, [ctx.tx msg])) = (g, [ctx.tx msg]) := by
  refine Prod.ext (onMm_answer g i msg) ?_
  unfold Gmm.onMm
  rw [hctx]

/-- **An activation request.** -/
theorem act_request (hg : Tunnels s.gmm) (hacc : ∀ p sess, s.gmm.view p = some (sess, .created) → p ∈ acc)
    {req : SmReq} {sapi nsapi : Nat} (hreq : smReq build s ev = some req) (hmsg : req.msg = .actPdpReq sapi nsapi)
    (hproper : req.proper s.gmm = true) (hstep : gmmStep build s ev = some (s'.gmm, reqs)) :
    Tunnels s'.gmm ∧
      (∀ p, s'.gmm.view p = s.gmm.view p ∨ s.gmm.pdps.get? p = none ∧ ∃ sess, s'.gmm.view p = some (sess, .creating)) ∧
      ∃ ctx, s'.gmm.mms.get? req.mm = some ctx ∧ Requested acc s s' req sapi nsapi ctx reqs := by
  obtain ⟨mms, id, htouch, hlive, hsm⟩ := gmmStep_sm hreq
  rw [hsm, hmsg] at hstep
  obtain ⟨ctx, hctx⟩ := isSome_iff_exists.mp hlive
  have hstep : gsm48RxGsmActPdpReq { s.gmm with mms := mms } req.mm req.ti sapi nsapi req.pdpLeft = (s'.gmm, reqs) :=
    some.inj hstep
  have hg₁ : Tunnels { s.gmm with mms := mms } := hg.look rfl rfl (isSome_touched htouch)
  -- an answer at once
  have hanswer {msg : Downlink} (hr : Requested acc s { s' with gmm := { s.gmm with mms := mms } } req sapi nsapi ctx
      [ctx.tx msg]) (heq : ({ s.gmm with mms := mms }, [ctx.tx msg]) = (s'.gmm, reqs)) :
      Tunnels s'.gmm ∧
        (∀ p, s'.gmm.view p = s.gmm.view p ∨
          s.gmm.pdps.get? p = none ∧ ∃ sess, s'.gmm.view p = some (sess, .creating)) ∧
        ∃ ctx, s'.gmm.mms.get? req.mm = some ctx ∧ Requested acc s s' req sapi nsapi ctx reqs := by
    obtain ⟨hs', rfl⟩ := Prod.mk.inj heq
    rw [hs'] at hr hg₁
    refine ⟨hg₁, fun p => .inl (view_congr ?_ ?_ p), ctx, ?_, hr⟩
    · rw [← hs']
    · rw [← hs']
    · rw [← hs']
      exact hctx
  unfold SmReq.proper at hproper
  rw [hmsg] at hproper
  dsimp only at hproper
  unfold gsm48RxGsmActPdpReq at hstep
  dsimp only at hstep
  split at hstep
  · exact hanswer (.rejected _ rfl) ((onMm_tx hctx _).symm.trans hstep)
  · rename_i hrange
    rw [if_neg hrange] at hproper
    have hnsapi : Gmm.sgsnPdpCtxByNsapi { s.gmm with mms := mms } req.mm nsapi =
        s.gmm.sgsnPdpCtxByNsapi req.mm nsapi := rfl
    rw [hnsapi] at hstep
    cases hfound : s.gmm.sgsnPdpCtxByNsapi req.mm nsapi with
    | some found =>
      obtain ⟨p, pdp⟩ := found
      obtain ⟨hpdp, hsame⟩ := of_findLast? hfound
      obtain ⟨hmm, hn⟩ : pdp.mm = req.mm ∧ pdp.nsapi = nsapi := by simpa using hsame
      rw [hfound] at hstep hproper
      dsimp only at hstep hproper
      split_ifs at hstep with hagain
      · obtain ⟨hsapi, hti⟩ := hagain
        have hcreated : s.gmm.tunnel p pdp = .created := by simpa [hsapi, hti] using hproper
        have hctx' : get? mms pdp.mm = some ctx := by rw [hmm, hctx]
        have htx := txFor_eq (g := { s.gmm with mms := mms }) hctx' (.actPdpAcc (flipTi pdp.ti) pdp.sapi)
        rw [htx, hsapi, hti] at hstep
        refine hanswer (.again hpdp hmm hn hsapi hti (hacc p pdp.session ?_) rfl) hstep
        rw [view_of_get? hpdp, hcreated]
      · exact hanswer (.rejected _ rfl) ((onMm_tx hctx _).symm.trans hstep)
    | none =>
      rw [hfound] at hstep hproper
      dsimp only at hstep hproper
      obtain ⟨hggsn, hleft⟩ := Bool.and_eq_true_iff.mp hproper
      obtain ⟨ggsn, hggsn⟩ := isSome_iff_exists.mp hggsn
      rw [hggsn, hleft] at hstep
      obtain ⟨hs', rfl⟩ := Prod.mk.inj hstep
      have hview (p : Nat) := view_made hg₁ ggsn req.mm nsapi sapi req.ti p
      rw [hs'] at hview
      have hnew : s'.gmm.view s.gmm.pdps.next = _ := (hview _).trans (if_pos rfl)
      refine ⟨hs' ▸ hg₁.made ggsn nsapi sapi req.ti hlive, fun p => ?_, ctx, ?_, ?_⟩
      · by_cases hp : p = s.gmm.pdps.next
        · rw [hp]
          refine .inr ⟨?_, _, hnew⟩
          cases hget : s.gmm.pdps.get? s.gmm.pdps.next with
          | none => rfl
          | some pdp => exact absurd (get?_lt hget) (Nat.lt_irrefl _)
        · exact .inl ((hview p).trans (if_neg hp))
      · rw [← hs']
        exact hctx
      · exact .waits (congrArg Gmm.pdps hs'.symm) rfl rfl rfl rfl hnew

/-! ## The record -/

/-- libgtp frees a handle when it has confirmed a request for it. -/
theorem libs_gtpConf {req : GtpReq} {passed : Bool} (hconf : gtpConf g h req passed cause true = some (g', reqs)) :
    g'.libs.get? h = none := by
  unfold gtpConf at hconf
  split at hconf
  · have hg' := congrArg Prod.fst (some.inj hconf)
    rw [← show _ = g' from hg']
    exact (get?_remove _ h h).trans (if_pos rfl)
  · cases hconf

theorem not_created_of_deletes (hstep : gmmStep build s ev = some (g', reqs)) (hdel : ev.deletes s.gmm p = true)
    (sess : PdpCtx) : g'.view p ≠ some (sess, .created) := by
  intro hview
  obtain ⟨pdp', hpdp', -, ht⟩ := get?_of_view hview
  have hgone {h : Nat} (hlib : pdp'.lib = some h) (hnone : g'.libs.get? h = none) : False := by
    unfold Gmm.tunnel at ht
    rw [hlib, bind_some, hnone] at ht
    cases ht
  cases ev with
  | gtpConf h req passed cause frees =>
    obtain ⟨-, hkept⟩ := pdps_kept (by intro req hreq; cases hreq) hstep
    obtain ⟨pdp, hpdp, hsame⟩ := hkept p pdp' hpdp'
    rcases Bool.or_eq_true_iff.mp hdel with hreq | hfrees
    · obtain rfl : req = ⟨.deletePdp, p⟩ := by simpa using hreq
      rw [pdps_deletion hstep, get?_remove, if_pos rfl] at hpdp'
      cases hpdp'
    · obtain ⟨rfl, hlib⟩ := Bool.and_eq_true_iff.mp hfrees
      have hlib' : pdp'.lib = pdp.lib := congrArg (·.lib) hsame
      refine hgone (h := h) (hlib'.trans ?_) (libs_gtpConf hstep)
      simpa [hpdp] using hlib
  | gtpDeleted h =>
    cases hstep
    have hpdp : s.gmm.pdps.get? p = some pdp' := hpdp'
    have hlib : pdp'.lib = some h := by simpa [SgsnEvent.deletes, hpdp] using hdel
    exact hgone hlib ((get?_remove s.gmm.libs h h).trans (if_pos rfl))
  | _ => cases hdel

/-- The GGSN has accepted the creation of every tunnel that is there. -/
structure ActivationInv (g : Gmm) (acc : List Nat) : Prop where
  tunnels : Tunnels g
  accepted : ∀ p sess, g.view p = some (sess, .created) → p ∈ acc

theorem mem_acceptedAfter (hstep : gmmStep build s ev = some (g', reqs)) {sess : PdpCtx}
    (hview : g'.view p = some (sess, .created)) (hp : ev.accepts = some p ∨ p ∈ acc) : p ∈ acceptedAfter acc s ev := by
  unfold acceptedAfter
  refine mem_filter.mpr ⟨mem_append.mpr ?_, ?_⟩
  · rcases hp with hacc | hmem
    · exact .inl (mem_toList.mpr hacc)
    · exact .inr hmem
  · cases hdel : ev.deletes s.gmm p with
    | false => rfl
    | true => exact absurd hview (not_created_of_deletes hstep hdel sess)

theorem ActivationInv.after (h : ActivationInv s.gmm acc) (hstep : gmmStep build s ev = some (g', reqs))
    (hg' : Tunnels g') (hviews : ∀ p sess, g'.view p = some (sess, .created) →
      ev.accepts = some p ∨ s.gmm.view p = some (sess, .created)) : ActivationInv g' (acceptedAfter acc s ev) where
  tunnels := hg'
  accepted p sess hview := mem_acceptedAfter hstep hview ((hviews p sess hview).imp_right (h.accepted p sess))

/-! ## The result -/

theorem unknown_answered {f : UlFrame} {given : Given} {found : Pool Llme × Nat} {ti : Nat} {msg : SmMsg}
    (hup : f.handedUp build s.llmes = some found) (hdata : f.data = .l3 (.sm ti msg)) (hsapi : f.sapi = sapiGmm)
    (hnone : (rcvCtx build s.gmm.mms f.id f.cell found.2).2 = none) : sends build s (.uplink f given) =
      [txOldmsg f.id (.gmmStatus .implDetached), txOldmsg f.id (.smStatus .protoErrUnspec)] := by
  have hstep : gmmStep build s (.uplink f given) =
      some ({ s.gmm with mms := (rcvCtx build s.gmm.mms f.id f.cell found.2).1 },
        [txOldmsg f.id (.gmmStatus .implDetached), txOldmsg f.id (.smStatus .protoErrUnspec)]) := by
    simp only [gmmStep, hup, dataStep, hdata, if_pos hsapi, gsm0408GprsRcvmsg, hnone, gsm0408RcvGsm]
  exact sends_of_step hstep

theorem Requested.accepts {req : SmReq} {sapi nsapi : Nat} (h : Requested acc s s' req sapi nsapi ctx reqs)
    {id : MsgId} {llcSapi ti sapi' : Nat} (hmem : .txUi id llcSapi (.actPdpAcc ti sapi') ∈ reqs) :
    ∃ p pdp, s.gmm.pdps.get? p = some pdp ∧ ti = flipTi pdp.ti ∧ sapi' = pdp.sapi ∧
      (p ∈ acc ∨ ev.accepts = some p) := by
  cases h with
  | again hpdp _ _ hsapi hti hacc =>
    obtain ⟨-, -, hmsg⟩ := LlReq.txUi.inj (mem_singleton.mp hmem)
    cases hmsg
    exact ⟨_, _, hpdp, congrArg flipTi hti.symm, hsapi.symm, .inl hacc⟩
  | rejected cause =>
    obtain ⟨-, -, hmsg⟩ := LlReq.txUi.inj (mem_singleton.mp hmem)
    cases hmsg
  | waits => cases hmem

theorem Confirmed.accepts {passed frees : Bool} (hconf : Confirmed s s' h p cause pdp ctx reqs)
    (hpdp : s.gmm.pdps.get? p = some pdp) {id : MsgId} {llcSapi ti sapi : Nat}
    (hmem : .txUi id llcSapi (.actPdpAcc ti sapi) ∈ reqs) :
    ∃ q pdq, s.gmm.pdps.get? q = some pdq ∧ ti = flipTi pdq.ti ∧ sapi = pdq.sapi ∧
      (q ∈ acc ∨ (SgsnEvent.gtpConf h ⟨.createPdp, p⟩ passed cause frees).accepts = some q) := by
  cases hconf with
  | accepted hcause =>
    obtain ⟨-, -, hmsg⟩ := LlReq.txUi.inj (mem_singleton.mp hmem)
    cases hmsg
    exact ⟨p, pdp, hpdp, rfl, rfl, .inr (if_pos ⟨rfl, hcause⟩)⟩
  | rejected =>
    obtain ⟨-, -, hmsg⟩ := LlReq.txUi.inj (mem_singleton.mp hmem)
    cases hmsg
  | retried => cases hmem

theorem answered_step (h : ActivationInv s.gmm acc) (hund : Undisturbed build s ev)
    (hstep : sgsnStep build s ev = some s') :
    ActivationInv s'.gmm (acceptedAfter acc s ev) ∧ Answered build acc s ev s' := by
  obtain ⟨reqs, hgmm, -⟩ := sgsnStep_gmm hstep
  have hsends := sends_of_step hgmm
  have hunknown : ∀ f given found ti msg, ev = .uplink f given → f.handedUp build s.llmes = some found →
      f.data = .l3 (.sm ti msg) → f.sapi = sapiGmm → (rcvCtx build s.gmm.mms f.id f.cell found.2).2 = none →
      sends build s ev = [txOldmsg f.id (.gmmStatus .implDetached), txOldmsg f.id (.smStatus .protoErrUnspec)] := by
    rintro f given found ti msg rfl hup hdata hsapi hnone
    exact unknown_answered hup hdata hsapi hnone
  by_cases hact : ∃ req sapi nsapi, smReq build s ev = some req ∧ req.msg = .actPdpReq sapi nsapi
  · obtain ⟨req, sapi, nsapi, hreq, hmsg⟩ := hact
    have hconf : ∀ h p passed cause frees, ev ≠ .gtpConf h ⟨.createPdp, p⟩ passed cause frees := by
      rintro k p passed cause frees rfl
      cases hreq
    obtain ⟨hg', hviews, hanswer⟩ := act_request h.tunnels h.accepted hreq hmsg (hund.1 req hreq) hgmm
    refine ⟨h.after hgmm hg' fun p sess hview => ?_, ?_, ?_, ?_, ?_, ?_, hunknown⟩
    · rcases hviews p with hsame | ⟨-, new, hwaits⟩
      · exact .inr (hsame ▸ hview)
      · rw [hwaits] at hview
        cases hview
    · intro id llcSapi ti sapi' hmem
      rw [hsends] at hmem
      obtain ⟨ctx, -, hrequested⟩ := hanswer
      exact hrequested.accepts hmem
    · intro req' sapi' nsapi' hreq' hmsg'
      cases hreq.symm.trans hreq'
      cases hmsg.symm.trans hmsg'
      rw [hsends]
      exact hanswer
    · exact fun k p passed cause frees hev => absurd hev (hconf k p passed cause frees)
    · exact fun hno _ => absurd hmsg (hno req hreq sapi nsapi)
    · intro p sess hview _
      rcases hviews p with hsame | ⟨hnone, -⟩
      · rw [hsame, hview]
      · obtain ⟨pdp, hpdp, -⟩ := get?_of_view hview
        rw [hnone] at hpdp
        cases hpdp
  · have hreq : ∀ req ∈ smReq build s ev, ∀ sapi nsapi, req.msg ≠ .actPdpReq sapi nsapi :=
      fun req hreq sapi nsapi hmsg => hact ⟨req, sapi, nsapi, hreq, hmsg⟩
    by_cases hcreate : ∃ k p passed cause frees, ev = .gtpConf k ⟨.createPdp, p⟩ passed cause frees
    · obtain ⟨k, p, passed, cause, frees, rfl⟩ := hcreate
      obtain ⟨pdp, ctx, hpdp, hlib, hcreating, hctx, hg', hothers, houtcome⟩ := gtpConf_created h.tunnels hgmm
      have hview := view_of_get? hpdp
      rw [hcreating] at hview
      have hcalm : Calm True s.gmm (s'.gmm, reqs) := calm_gtpConf (fun _ => trivial) hgmm
      have hmms : s'.gmm.mms = s.gmm.mms := hcalm.mms
      -- libgtp keeps the handle when the creation is asked for again
      have hkeeps (hcause : cause = none) (hnot : ¬ endsPdp s.gmm k ⟨.createPdp, p⟩ passed cause) : frees = false := by
        cases frees with
        | false => rfl
        | true => exact absurd (.inr (.inr ⟨rfl, hlib, fun _ => ⟨hcause, hnot⟩⟩)) (hund.2 p pdp hpdp hcreating)
      have hcreated : ∀ q sess, s'.gmm.view q = some (sess, .created) →
          (SgsnEvent.gtpConf k ⟨.createPdp, p⟩ passed cause frees).accepts = some q ∨
            s.gmm.view q = some (sess, .created) := by
        intro q sess hsess
        by_cases hq : q = p
        · subst hq
          rcases houtcome with ⟨hcause, -⟩ | ⟨-, -, hpdps⟩ | ⟨hcause, hnot, -, -, -, hwaits⟩
          · exact .inl (if_pos ⟨rfl, hcause⟩)
          · obtain ⟨pdp', hpdp', -⟩ := get?_of_view hsess
            rw [hpdps, get?_remove, if_pos rfl] at hpdp'
            cases hpdp'
          · rw [(hwaits (hkeeps hcause hnot)).1] at hsess
            cases hsess
        · exact .inr ((hothers q hq).symm.trans hsess)
      have hconfirmed : Confirmed s s' k p cause pdp ctx reqs := by
        rcases houtcome with ⟨hcause, rfl, hpdps⟩ | ⟨hcause, rfl, hpdps⟩ | ⟨hcause, hnot, hold, rfl, hpdps, hwaits⟩
        · exact .accepted hcause hpdps
        · exact .rejected hcause hpdps
        · obtain ⟨hwaits, hnew⟩ := hwaits (hkeeps hcause hnot)
          exact .retried hcause hold hnew hpdps hwaits
      refine ⟨h.after hgmm hg' hcreated, ?_, ?_, ?_, ?_, ?_, hunknown⟩
      · exact fun id llcSapi ti sapi hmem => hconfirmed.accepts hpdp (hsends ▸ hmem)
      · exact fun req sapi nsapi hreq => nomatch hreq
      · intro k' p' passed' cause' frees' hev
        obtain ⟨rfl, hp, rfl, rfl, rfl⟩ := SgsnEvent.gtpConf.inj hev
        obtain rfl : p = p' := congrArg cbp hp
        exact ⟨pdp, ctx, hpdp, hview, by rw [hmms, hctx], hsends ▸ hconfirmed⟩
      · exact fun _ hno => absurd rfl (hno k p passed cause frees)
      · intro q sess hwaits hev
        rw [hothers q, hwaits]
        rintro rfl
        exact hev k passed cause frees rfl
    · have hconf : ∀ h p passed cause frees, ev ≠ .gtpConf h ⟨.createPdp, p⟩ passed cause frees :=
        fun k p passed cause frees hev => hcreate ⟨k, p, passed, cause, frees, hev⟩
      obtain ⟨hg', hdecays⟩ := decays_moves h.tunnels (harmless_of_undisturbed hund hreq hconf) (gmmStep_moves hgmm)
      have hsilent : Unanswering (sends build s ev) := hsends ▸ unanswering_step hreq hconf hgmm
      refine ⟨h.after hgmm hg' fun p sess hview => .inr ?_, ?_, ?_, ?_, ?_, ?_, hunknown⟩
      · have hdecay := hdecays p
        rw [hview] at hdecay
        exact hdecay.back nofun
      · exact fun id llcSapi ti sapi hmem => nomatch hsilent _ hmem
      · exact fun req sapi nsapi hsm hmsg => absurd hmsg (hreq req hsm sapi nsapi)
      · exact fun k p passed cause frees hev => absurd hev (hconf k p passed cause frees)
      · exact fun _ _ => hsilent
      · intro p sess hview _
        exact (hview ▸ hdecays p).of_creating

/-- **Every activation request is answered as the protocol has it**, in a run that is undisturbed. -/
theorem activations_answered {r : SgsnInstance × List Nat}
    (h : ReachableBy (activationSystem build) (fun r ev => Undisturbed build r.1 ev) r) {r' : SgsnInstance × List Nat}
    (hund : Undisturbed build r.1 ev) (hstep : (activationSystem build).step r ev r') :
    Answered build r.2 r.1 ev r'.1 := by
  have hinv : ActivationInv r.1.gmm r.2 := by
    refine h.invariant (I := fun r => ActivationInv r.1.gmm r.2) ?_ ?_
    · rintro ⟨s, acc⟩ ⟨⟨ggsns, rfl⟩, rfl⟩
      exact ⟨tunnels_init ggsns, nofun⟩
    · intro r ev r' hinv hund hstep
      rw [hstep.2]
      exact (answered_step hinv hund hstep.1).1
  exact (answered_step hinv hund hstep.1).2

/-- What the examples start with: GGSN 0, and a station that attaches. -/
def attachedWithGgsn : List SgsnEvent :=
  [.attachImsi 0x78000001 homeCell ['2', '6', '2', '4', '2', '1'] [1],
    .idResp 0x78000001 homeCell .imei ['9', '0'],
    .gmm 0x78000001 homeCell .attachCompl []]

/-- A station activates a PDP context, and the GGSN accepts. -/
theorem activations_answered_accepted : ∃ r r' : SgsnInstance × List Nat, r'.2 = [0] ∧
    Answered checkingBuild r.2 r.1 (.gtpConf 0 ⟨.createPdp, 0⟩ true (some .accReq) false) r'.1 := by
  obtain ⟨r, hr, r', hr', hund, hacc⟩ : ∃ r ∈ guardedRun
      (recorded (sgsnStep checkingBuild) fun acc s ev _ => acceptedAfter acc s ev)
      (fun r ev => Undisturbed checkingBuild r.1 ev) ({ gmm := { ggsns := empty.alloc { id := 0 } } }, [])
      (attachedWithGgsn ++ [.sm 0xc0000001 homeCell 1 (.actPdpReq 3 5)]),
      ∃ r' ∈ recorded (sgsnStep checkingBuild) (fun acc s ev _ => acceptedAfter acc s ev) r
        (.gtpConf 0 ⟨.createPdp, 0⟩ true (some .accReq) false),
      Undisturbed checkingBuild r.1 (.gtpConf 0 ⟨.createPdp, 0⟩ true (some .accReq) false) ∧ r'.2 = [0] := by
    decide +kernel
  have hreach := ReachableBy.guardedRun (M := activationSystem checkingBuild)
    (step_recorded fun _ _ _ h => h) (.init ⟨⟨_, rfl⟩, rfl⟩) hr
  exact ⟨r, r', hacc, activations_answered hreach hund (step_recorded (fun _ _ _ h => h) r _ r' hr')⟩

/-- The station repeats its request before the GGSN has answered, and is told that the PDP context is active. -/
theorem not_answered_repeated : ¬ ∀ r ev r', Reachable (activationSystem checkingBuild) r →
    (activationSystem checkingBuild).step r ev r' → Answered checkingBuild r.2 r.1 ev r'.1 := by
  intro hall
  obtain ⟨r, hr, r', hr', hnone, haccept⟩ : ∃ r ∈ guardedRun
      (recorded (sgsnStep checkingBuild) fun acc s ev _ => acceptedAfter acc s ev)
      (fun _ _ => True) ({ gmm := { ggsns := empty.alloc { id := 0 } } }, [])
      (attachedWithGgsn ++ [.sm 0xc0000001 homeCell 1 (.actPdpReq 3 5)]),
      ∃ r' ∈ recorded (sgsnStep checkingBuild) (fun acc s ev _ => acceptedAfter acc s ev) r
        (.sm 0xc0000001 homeCell 1 (.actPdpReq 3 5)),
      r.2 = [] ∧ .txUi { tlli := 0xc0000001 } sapiGmm (.actPdpAcc 9 3) ∈
        sends checkingBuild r.1 (.sm 0xc0000001 homeCell 1 (.actPdpReq 3 5)) := by
    decide +kernel
  have hreach := ReachableBy.guardedRun (M := activationSystem checkingBuild)
    (step_recorded fun _ _ _ h => h) (.init ⟨⟨_, rfl⟩, rfl⟩) hr
  have hanswered := hall r _ r' hreach (step_recorded (fun _ _ _ h => h) r _ r' hr')
  obtain ⟨p, pdp, -, -, -, hmem | hnow⟩ := hanswered.accepts _ _ _ _ haccept
  · rw [hnone] at hmem
    cases hmem
  · cases hnow

end OpenBsc.Sgsn
