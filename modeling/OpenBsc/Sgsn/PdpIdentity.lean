import OpenBsc.Sgsn.PdpMoves

/-!
# `Sgsn.PdpIdentity` — PDP contexts by NSAPI and by transaction identifier

A station names a PDP context by its NSAPI when it activates it, and by the transaction identifier of that request when
it deactivates it. An NSAPI that is in use is refused. The transaction identifier is stored as it comes, after the PDP
context is made and only if libgtp had a handle for it, so a station can have two PDP contexts with one, or one with
none; a deactivation then deletes whichever the look-up finds first.
-/

namespace OpenBsc.Sgsn

open Transition Pool List

variable {build : SgsnBuild} {s s' : SgsnInstance} {ev : SgsnEvent} {g g' : Gmm} {req : SmReq}

/-! ## The purpose -/

/-- An activation of a PDP context, with the transaction identifier of the request. -/
structure Activation where
  pdp : Nat
  mm : Nat
  ti : Nat
  deriving DecidableEq

/-- The activations, after an event. -/
def activationsAfter (build : SgsnBuild) (acts : List Activation) (s : SgsnInstance) (ev : SgsnEvent) :
    List Activation :=
  match smReq build s ev with
  | some req =>
    if req.activates s.gmm = true then { pdp := s.gmm.pdps.next, mm := req.mm, ti := req.ti } :: acts else acts
  | none => acts

/-- An SGSN, with the activations there have been. -/
def identitySystem (build : SgsnBuild) : System (SgsnInstance × List Activation) SgsnEvent :=
  (sgsnSystem build).recording [] fun acts s ev _ => activationsAfter build acts s ev

/-- The PDP contexts of an MM context differ in NSAPI and transaction identifier, and a deactivation, requested or
    accepted, deletes the one that was activated with its transaction identifier and no other. -/
structure Identified (g : Gmm) (acts : List Activation) : Prop where
  unique : g.pdps.Pairwise fun a b => a.mm = b.mm → a.nsapi ≠ b.nsapi ∧ a.ti ≠ b.ti
  deletes : ∀ act ∈ acts, ∀ pdp, g.pdps.get? act.pdp = some pdp → pdp.lib.isSome = true ∧
    ∀ ack, gsm48RxGsmDeactPdp g act.mm act.ti ack = (g.sgsnDeletePdpCtx act.pdp, [])
  keeps : ∀ i ti, (∀ act ∈ acts, act.mm = i → act.ti = ti → g.pdps.get? act.pdp = none) →
    ∀ ack, (gsm48RxGsmDeactPdp g i ti ack).1 = g

/-- An activation is given a handle, and its transaction identifier is not that of another PDP context. -/
def TiFree (build : SgsnBuild) (s : SgsnInstance) (ev : SgsnEvent) : Prop :=
  ∀ req ∈ smReq build s ev, req.activates s.gmm = true → req.pdpLeft = true ∧ s.gmm.sgsnPdpCtxByTid req.mm req.ti = none

instance (build : SgsnBuild) (s : SgsnInstance) (ev : SgsnEvent) : Decidable (TiFree build s ev) :=
  inferInstanceAs (Decidable (∀ req ∈ smReq build s ev, _ → _ ∧ _))

/-! ## The invariant -/

/-- Every PDP context was activated with its transaction identifier. -/
structure Recorded (g : Gmm) (acts : List Activation) : Prop where
  unique : g.pdps.Pairwise fun a b => a.mm = b.mm → a.nsapi ≠ b.nsapi ∧ a.ti ≠ b.ti
  known : ∀ p pdp, g.pdps.get? p = some pdp →
    pdp.lib.isSome = true ∧ { pdp := p, mm := pdp.mm, ti := pdp.ti : Activation } ∈ acts
  below : ∀ act ∈ acts, act.pdp < g.pdps.next
  once : ∀ act ∈ acts, ∀ pdp, g.pdps.get? act.pdp = some pdp → act.mm = pdp.mm ∧ act.ti = pdp.ti

variable {acts : List Activation}

theorem recorded_init (g : Gmm) (h : g.pdps = .empty) : Recorded g [] where
  unique := by rw [h]; exact pairwise_empty
  known p pdp hpdp := by rw [h] at hpdp; cases hpdp
  below _ hact := absurd hact not_mem_nil
  once _ hact := absurd hact not_mem_nil

section

variable (h : Recorded g acts)

include h

theorem Recorded.kept (hnext : g'.pdps.next = g.pdps.next)
    (hkept : ∀ p pdp', g'.pdps.get? p = some pdp' →
      ∃ pdp, g.pdps.get? p = some pdp ∧ pdp'.session = pdp.session) : Recorded g' acts where
  unique := by
    intro p a q b ha hb hpq hmm
    obtain ⟨olda, holda, hsamea⟩ := hkept p a ha
    obtain ⟨oldb, holdb, hsameb⟩ := hkept q b hb
    have hmma : a.mm = olda.mm := congrArg (·.mm) hsamea
    have hmmb : b.mm = oldb.mm := congrArg (·.mm) hsameb
    have hdiffer := h.unique p olda q oldb holda holdb hpq (by rw [← hmma, ← hmmb, hmm])
    have hnsapia : a.nsapi = olda.nsapi := congrArg (·.nsapi) hsamea
    have hnsapib : b.nsapi = oldb.nsapi := congrArg (·.nsapi) hsameb
    have htia : a.ti = olda.ti := congrArg (·.ti) hsamea
    have htib : b.ti = oldb.ti := congrArg (·.ti) hsameb
    rw [hnsapia, hnsapib, htia, htib]
    exact hdiffer
  known := by
    intro p pdp' hpdp'
    obtain ⟨pdp, hpdp, hsame⟩ := hkept p pdp' hpdp'
    have hlib : pdp'.lib = pdp.lib := congrArg (·.lib) hsame
    have hmm : pdp'.mm = pdp.mm := congrArg (·.mm) hsame
    have hti : pdp'.ti = pdp.ti := congrArg (·.ti) hsame
    rw [hlib, hmm, hti]
    exact h.known p pdp hpdp
  below act hact := hnext ▸ h.below act hact
  once := by
    intro act hact pdp' hpdp'
    obtain ⟨pdp, hpdp, hsame⟩ := hkept act.pdp pdp' hpdp'
    obtain ⟨hmm, hti⟩ := h.once act hact pdp hpdp
    exact ⟨hmm.trans (congrArg (·.mm) hsame).symm, hti.trans (congrArg (·.ti) hsame).symm⟩

/-- A PDP context is made with an NSAPI and a transaction identifier of its own. -/
theorem Recorded.made {new : PdpCtx} (hlib : new.lib.isSome = true)
    (hnsapi : g.sgsnPdpCtxByNsapi new.mm new.nsapi = none) (hti : g.sgsnPdpCtxByTid new.mm new.ti = none)
    (hpdps : g'.pdps = g.pdps.alloc new) :
    Recorded g' ({ pdp := g.pdps.next, mm := new.mm, ti := new.ti } :: acts) where
  unique := by
    rw [hpdps]
    refine h.unique.alloc ?_ ?_
    · intro a b hab hmm
      obtain ⟨hn, ht⟩ := hab hmm.symm
      exact ⟨hn.symm, ht.symm⟩
    · intro q old hold hmm
      have hnsapi' := findLast?_eq_none.mp hnsapi q old hold
      have hti' := findLast?_eq_none.mp hti q old hold
      refine ⟨fun hsame => ?_, fun hsame => ?_⟩
      · simp [hmm, hsame] at hnsapi'
      · simp [hmm, hsame] at hti'
  known := by
    intro p pdp hpdp
    rw [hpdps, get?_alloc] at hpdp
    split_ifs at hpdp with hp
    · cases hpdp
      rw [hp]
      exact ⟨hlib, mem_cons_self⟩
    · obtain ⟨hsome, hmem⟩ := h.known p pdp hpdp
      exact ⟨hsome, mem_cons_of_mem _ hmem⟩
  below := by
    intro act hact
    rw [hpdps]
    rcases mem_cons.mp hact with rfl | hold
    · exact Nat.lt_succ_self _
    · exact Nat.lt_succ_of_lt (h.below act hold)
  once := by
    intro act hact pdp hpdp
    rw [hpdps, get?_alloc] at hpdp
    rcases mem_cons.mp hact with rfl | hold
    · rw [if_pos rfl] at hpdp
      cases hpdp
      exact ⟨rfl, rfl⟩
    · rw [if_neg (Nat.ne_of_lt (h.below act hold))] at hpdp
      exact h.once act hold pdp hpdp

/-- The look-up by transaction identifier finds what was activated with it. -/
theorem Recorded.byTid {p : Nat} {pdp : PdpCtx} (hpdp : g.pdps.get? p = some pdp) :
    g.sgsnPdpCtxByTid pdp.mm pdp.ti = some (p, pdp) := by
  refine findLast?_unique hpdp (by simp) fun q other hother hsame => ?_
  by_contra hne
  obtain ⟨hmm, hti⟩ : other.mm = pdp.mm ∧ other.ti = pdp.ti := by simpa using hsame
  exact (h.unique q other p pdp hother hpdp hne hmm).2 hti

theorem Recorded.identified : Identified g acts where
  unique := h.unique
  deletes := by
    intro act hact pdp hpdp
    obtain ⟨hmm, hti⟩ := h.once act hact pdp hpdp
    refine ⟨(h.known act.pdp pdp hpdp).1, fun ack => ?_⟩
    unfold gsm48RxGsmDeactPdp
    rw [hmm, hti, h.byTid hpdp]
  keeps := by
    intro i ti hnone ack
    unfold gsm48RxGsmDeactPdp
    cases hfound : g.sgsnPdpCtxByTid i ti with
    | none =>
      cases ack with
      | true => rfl
      | false => exact onMm_answer g i _
    | some found =>
      obtain ⟨p, pdp⟩ := found
      obtain ⟨hpdp, hsame⟩ := of_findLast? hfound
      obtain ⟨hmm, hti⟩ : pdp.mm = i ∧ pdp.ti = ti := by simpa using hsame
      have hgone := hnone _ (h.known p pdp hpdp).2 hmm hti
      rw [hpdp] at hgone
      cases hgone

end

/-! ## Steps -/

theorem activationsAfter_made (hreq : smReq build s ev = some req) (hact : req.activates s.gmm = true) :
    activationsAfter build acts s ev = { pdp := s.gmm.pdps.next, mm := req.mm, ti := req.ti } :: acts := by
  unfold activationsAfter
  rw [hreq]
  exact if_pos hact

theorem activationsAfter_none (hno : ∀ req ∈ smReq build s ev, req.activates s.gmm = false) :
    activationsAfter build acts s ev = acts := by
  unfold activationsAfter
  cases hreq : smReq build s ev with
  | none => rfl
  | some req => exact if_neg (by rw [hno req hreq]; exact Bool.false_ne_true)

theorem recorded_step (h : Recorded s.gmm acts) (hfree : TiFree build s ev)
    (hstep : sgsnStep build s ev = some s') : Recorded s'.gmm (activationsAfter build acts s ev) := by
  obtain ⟨reqs, hgmm, -⟩ := sgsnStep_gmm hstep
  by_cases hmakes : ∃ req ∈ smReq build s ev, req.activates s.gmm = true
  · obtain ⟨req, hreq, hact⟩ := hmakes
    obtain ⟨hleft, hti⟩ := hfree req hreq hact
    obtain ⟨new, hpdps, hmm, hnsapi, hmade, -⟩ := pdps_activated hreq hact hgmm
    obtain ⟨hlib, hnewti⟩ := hmade hleft
    rw [activationsAfter_made hreq hact, ← hmm, ← hnewti]
    rw [← hmm] at hnsapi
    rw [← hmm, ← hnewti] at hti
    exact h.made (Option.isSome_of_eq_some hlib) hnsapi hti hpdps
  · have hno : ∀ req ∈ smReq build s ev, req.activates s.gmm = false := by
      intro req hreq
      exact Bool.eq_false_iff.mpr fun hact => hmakes ⟨req, hreq, hact⟩
    obtain ⟨hnext, hkept⟩ := pdps_kept hno hgmm
    rw [activationsAfter_none hno]
    exact h.kept hnext hkept

/-- What happens where the condition is not met. -/
theorem tiFree_of_identified (hstep : sgsnStep build s ev = some s')
    (h : Identified s'.gmm (activationsAfter build acts s ev)) : TiFree build s ev := by
  obtain ⟨reqs, hgmm, -⟩ := sgsnStep_gmm hstep
  intro req hreq hact
  obtain ⟨new, hpdps, hmm, -, hmade, hnone⟩ := pdps_activated hreq hact hgmm
  rw [activationsAfter_made hreq hact] at h
  have hnew : s'.gmm.pdps.get? s.gmm.pdps.next = some new := by
    rw [hpdps, get?_alloc, if_pos rfl]
  have hleft : req.pdpLeft = true := by
    by_contra hout
    have hlib := (h.deletes _ mem_cons_self new hnew).1
    rw [hnone (Bool.eq_false_iff.mpr hout)] at hlib
    cases hlib
  refine ⟨hleft, findLast?_eq_none.mpr fun q old hold => ?_⟩
  -- the two would not differ
  have hlt := get?_lt hold
  have hold' : s'.gmm.pdps.get? q = some old := by
    rw [hpdps, get?_alloc, if_neg (Nat.ne_of_lt hlt), hold]
  have hdiffer : old.mm = new.mm → old.nsapi ≠ new.nsapi ∧ old.ti ≠ new.ti :=
    h.unique q old _ new hold' hnew (Nat.ne_of_lt hlt)
  rw [hmm, (hmade hleft).2] at hdiffer
  simp only [Bool.and_eq_false_iff, beq_eq_false_iff_ne]
  by_cases hsame : old.mm = req.mm
  · exact .inr (hdiffer hsame).2
  · exact .inl hsame

/-! ## The result -/

/-- **PDP contexts are identified by NSAPI and by transaction identifier**, in a run where every activation is given a
    handle and a transaction identifier that is free, and just as long as that is so. -/
theorem pdp_identity {r : SgsnInstance × List Activation}
    (h : ReachableBy (identitySystem build) (fun r ev => TiFree build r.1 ev) r) :
    Identified r.1.gmm r.2 ∧
      (∀ ev r', (identitySystem build).step r ev r' → (Identified r'.1.gmm r'.2 ↔ TiFree build r.1 ev)) ∧
      ∀ k p passed cause frees s', sgsnStep build r.1 (.gtpConf k ⟨.deletePdp, p⟩ passed cause frees) = some s' →
        s'.gmm.pdps = r.1.gmm.pdps.remove p := by
  have hrecorded : Recorded r.1.gmm r.2 := by
    refine h.invariant (I := fun r => Recorded r.1.gmm r.2) ?_ ?_
    · rintro ⟨s, acts⟩ ⟨⟨ggsns, rfl⟩, rfl⟩
      exact recorded_init _ rfl
    · intro r ev r' hinv hfree hstep
      rw [hstep.2]
      exact recorded_step hinv hfree hstep.1
  refine ⟨hrecorded.identified, fun ev r' hstep => ?_, fun k p passed cause frees s' hstep => ?_⟩
  · rw [hstep.2]
    constructor
    · exact tiFree_of_identified hstep.1
    · intro hfree
      exact (recorded_step hrecorded hfree hstep.1).identified
  · obtain ⟨reqs, hgmm, -⟩ := sgsnStep_gmm hstep
    exact pdps_deletion hgmm

/-- A station has two PDP contexts. -/
theorem pdp_identity_two : ∃ r : SgsnInstance × List Activation,
    r.2 = [⟨1, 0, 2⟩, ⟨0, 0, 1⟩] ∧ r.1.gmm.pdps.ids = [0, 1] ∧ Identified r.1.gmm r.2 := by
  obtain ⟨r, hr, hacts, hids⟩ : ∃ r ∈ guardedRun
      (recorded (sgsnStep checkingBuild) fun acts s ev _ => activationsAfter checkingBuild acts s ev)
      (fun r ev => TiFree checkingBuild r.1 ev) ({ gmm := { ggsns := empty.alloc { id := 0 } } }, [])
      [.attachImsi 0x78000001 homeCell ['2', '6', '2', '4', '2', '1'] [1],
        .idResp 0x78000001 homeCell .imei ['9', '0'],
        .gmm 0x78000001 homeCell .attachCompl [],
        .sm 0xc0000001 homeCell 1 (.actPdpReq 3 5),
        .sm 0xc0000001 homeCell 2 (.actPdpReq 3 6)],
      r.2 = [⟨1, 0, 2⟩, ⟨0, 0, 1⟩] ∧ r.1.gmm.pdps.ids = [0, 1] := by decide +kernel
  have hreach := ReachableBy.guardedRun (M := identitySystem checkingBuild)
    (step_recorded fun _ _ _ h => h) (.init ⟨⟨_, rfl⟩, rfl⟩) hr
  exact ⟨r, hacts, hids, (pdp_identity hreach).1⟩

/-- The second one is activated with the transaction identifier of the first. -/
theorem not_identified_ti : ¬ ∀ r, Reachable (identitySystem checkingBuild) r → Identified r.1.gmm r.2 := by
  intro hall
  obtain ⟨r, hr, hfirst, hsecond⟩ : ∃ r ∈ guardedRun
      (recorded (sgsnStep checkingBuild) fun acts s ev _ => activationsAfter checkingBuild acts s ev)
      (fun _ _ => True) ({ gmm := { ggsns := empty.alloc { id := 0 } } }, [])
      [.attachImsi 0x78000001 homeCell ['2', '6', '2', '4', '2', '1'] [1],
        .idResp 0x78000001 homeCell .imei ['9', '0'],
        .gmm 0x78000001 homeCell .attachCompl [],
        .sm 0xc0000001 homeCell 1 (.actPdpReq 3 5),
        .sm 0xc0000001 homeCell 1 (.actPdpReq 3 6)],
      (r.1.gmm.pdps.get? 0).map (fun pdp => (pdp.mm, pdp.ti)) = some (0, 1) ∧
        (r.1.gmm.pdps.get? 1).map (fun pdp => (pdp.mm, pdp.ti)) = some (0, 1) := by decide +kernel
  have hreach := ReachableBy.guardedRun (M := identitySystem checkingBuild)
    (step_recorded fun _ _ _ h => h) (.init ⟨⟨_, rfl⟩, rfl⟩) hr
  obtain ⟨a, ha, hasame⟩ := Option.map_eq_some_iff.mp hfirst
  obtain ⟨b, hb, hbsame⟩ := Option.map_eq_some_iff.mp hsecond
  have hsame := hasame.trans hbsame.symm
  exact ((hall r hreach).unique 0 a 1 b ha hb (by decide) (congrArg Prod.fst hsame)).2 (congrArg Prod.snd hsame)

end OpenBsc.Sgsn
