import OpenBsc.Sgsn.PdpMoves

/-!
# `Sgsn.Supervision` — procedures that give up when a station does not answer

T3350 supervises the acceptance of an attach or a routeing area update, T3370 an identity request, both in an MM
context; T3395 supervises the deactivation of a PDP context. On expiry the message is repeated, and the fifth expiry
ends the procedure, as the comments say.

`Procedure.GivesUp` says so of a procedure that runs with some expiries behind it, over everything that can happen
while the station is silent. It holds for T3350 and T3370. The repetition of T3395 goes through the function that
starts the timer, which sets the counter back, so that procedure never gives up (`giveUp_iff`); only a PDP context with
three expiries behind it would, and none has any.
-/

namespace OpenBsc.Sgsn

open Transition Pool MmCtx Option

variable {build : SgsnBuild} {s s' : SgsnInstance} {ev : SgsnEvent} {T : TimerNr} {n : Nat}

/-! ## Procedures -/

/-- A procedure, by the context that has its timer. -/
inductive Procedure where
  | mm (i : Nat)
  | pdp (p : Nat)

namespace Procedure

/-- The timer that runs, and how often it expired. -/
def running (g : Gmm) : Procedure → Option (TimerNr × Nat)
  | mm i => ((g.mms.get? i).filter MmCtx.timer).map fun ctx => (ctx.T, ctx.numTExp)
  | pdp p => ((g.pdps.get? p).filter PdpCtx.timer).map fun pdp => (pdp.T, pdp.numTExp)

/-- The timers of procedures. -/
def Supervised : Procedure → TimerNr → Prop
  | mm _, T => T = .t3350 ∨ T = .t3370
  | pdp _, T => T = .t3395

def expiry : Procedure → SgsnEvent
  | mm i => .mmTimer i
  | pdp p => .pdpTimer p

/-- The station is deregistered, or the PDP context is no longer active; no timer runs. -/
def Ended (g : Gmm) : Procedure → Prop
  | mm i => ∀ ctx, g.mms.get? i = some ctx → ctx.timer = false ∧ ctx.mmState = .deregistered
  | pdp p => ∀ pdp, g.pdps.get? p = some pdp → pdp.timer = false ∧ pdp.state = .none

end Procedure

/-- A request starts a procedure of an MM context, or completes it. -/
def MmReq.disturbs (mms : Pool MmCtx) (i : Nat) : MmReq → Prop
  | attach j .. => j = i
  | attachNew .. => mms.next = i
  | idResp j _ => j = i
  | raUpd j .. => j = i
  | complete j _ => j = i
  | _ => False

/-- The station does not answer, and nothing starts the procedure anew. What else a station says makes no
    difference to the timers. -/
def Procedure.Silent (build : SgsnBuild) (s : SgsnInstance) (ev : SgsnEvent) : Procedure → Prop
  | mm i => ¬ (mmReq build s ev).2.disturbs (mmReq build s ev).1 i
  | pdp _ => ∀ peer recovery, ev ≠ .recovery peer recovery

/-! ## The purpose -/

/-- A message that is repeated. -/
def LlReq.supervised : LlReq → Bool
  | .txUi _ _ (.attachAck ..) | .txUi _ _ (.raUpdAck ..) | .txUi _ _ (.idReq _) | .txUi _ _ (.deactPdpReq ..) => true
  | _ => false

/-- How often a timer expired, and how often its message was repeated. -/
structure Tally where
  expiries : Nat := 0
  repeats : Nat := 0

def Tally.after (build : SgsnBuild) (proc : Procedure) (tally : Tally) (s : SgsnInstance) (ev : SgsnEvent) : Tally :=
  if ev = proc.expiry then ⟨tally.expiries + 1, tally.repeats + (sends build s ev).countP LlReq.supervised⟩ else tally

theorem Tally.after_expiry (build : SgsnBuild) (proc : Procedure) (tally : Tally) (s : SgsnInstance) :
    tally.after build proc s proc.expiry =
      ⟨tally.expiries + 1, tally.repeats + (sends build s proc.expiry).countP LlReq.supervised⟩ := if_pos rfl

/-- What happens from a state on, with the tally of a procedure. -/
def procSystem (build : SgsnBuild) (proc : Procedure) (s : SgsnInstance) : System (SgsnInstance × Tally) SgsnEvent :=
  System.recording { init := (· = s), step := fun s ev s' => sgsnStep build s ev = some s' } {}
    fun tally s ev _ => tally.after build proc s ev

/-- While the station is silent, the procedure goes on, with every expiry counted, until it has ended, at the fifth
    expiry at the latest; the message, sent once before each expiry, is not repeated more often. -/
def Procedure.GivesUp (build : SgsnBuild) (s : SgsnInstance) (proc : Procedure) (T : TimerNr) (n : Nat) : Prop :=
  ∀ r, ReachableBy (procSystem build proc s) (fun r ev => proc.Silent build r.1 ev) r →
    r.2.repeats ≤ 4 - n ∧
    (proc.running r.1.gmm = some (T, n + r.2.expiries) ∧ r.2.expiries ≤ 4 - n ∨ proc.Ended r.1.gmm)

/-! ## MM contexts -/

/-- What the timer of an MM context needs. -/
def MmCtx.clock (ctx : MmCtx) : Bool × TimerNr × Nat := (ctx.timer, ctx.T, ctx.numTExp)

/-- Its clock is the same, and a station that is deregistered stays so. -/
def MmCtx.Idles (ctx ctx' : MmCtx) : Prop :=
  ctx'.clock = ctx.clock ∧ (ctx.mmState = .deregistered → ctx'.mmState = .deregistered)

theorem MmCtx.Idles.trans {a b c : MmCtx} (hab : a.Idles b) (hbc : b.Idles c) : a.Idles c :=
  ⟨hbc.1.trans hab.1, fun h => hbc.2 (hab.2 h)⟩

variable {ctx : MmCtx}

theorem idles_untouched {ctx' : MmCtx} (h : ctx'.untouched = ctx.untouched) : ctx.Idles ctx' := by
  have hclock := congrArg clock h
  have hstate := congrArg mmState h
  exact ⟨hclock, fun hdereg => Eq.trans hstate hdereg⟩

/-- The context is gone or idles. -/
def Quiet (i : Nat) (mms mms' : Pool MmCtx) : Prop :=
  ∀ ctx', mms'.get? i = some ctx' → ∃ ctx, mms.get? i = some ctx ∧ ctx.Idles ctx'

variable {i : Nat}

theorem Quiet.trans {a b c : Pool MmCtx} (hab : Quiet i a b) (hbc : Quiet i b c) : Quiet i a c := by
  intro ctx' hctx'
  obtain ⟨mid, hmid, hidles'⟩ := hbc ctx' hctx'
  obtain ⟨ctx, hctx, hidles⟩ := hab mid hmid
  exact ⟨ctx, hctx, hidles.trans hidles'⟩

theorem quiet_touched {mms mms' : Pool MmCtx} (h : Touches mms mms') : Quiet i mms mms' := by
  intro ctx' hctx'
  obtain ⟨ctx, hctx, hsame⟩ := h.get? hctx'
  exact ⟨ctx, hctx, idles_untouched hsame⟩

theorem quiet_modify {j : Nat} {mms : Pool MmCtx} {f : MmCtx → MmCtx} (hf : j = i → ∀ ctx : MmCtx, ctx.Idles (f ctx)) :
    Quiet i mms (mms.modify j f) := by
  intro ctx' hctx'
  rw [get?_modify] at hctx'
  split_ifs at hctx' with hij
  · obtain ⟨ctx, hctx, rfl⟩ := map_eq_some_iff.mp hctx'
    exact ⟨ctx, hctx, hf hij.symm ctx⟩
  · exact ⟨ctx', hctx', rfl, id⟩

theorem quiet_remove (i j : Nat) (mms : Pool MmCtx) : Quiet i mms (mms.remove j) := by
  intro ctx' hctx'
  exact ⟨ctx', (get?_of_remove hctx').2, rfl, id⟩

theorem quiet_idResp {j : Nat} (hij : j ≠ i) (mms : Pool MmCtx) (mi : MobileId) :
    Quiet i mms (idRespMms mms j mi) := by
  have hother {mms : Pool MmCtx} (f : MmCtx → MmCtx) : Quiet i mms (mms.modify j f) :=
    quiet_modify fun h => absurd h hij
  unfold idRespMms
  dsimp only
  split
  · exact (hother _).trans (hother _)
  · exact ((hother _).trans (quiet_remove i _ _)).trans (hother _)

/-- What is done for other contexts, or leaves the timer. -/
theorem quiet_apply {mms mms' : Pool MmCtx} {rands : List (BitVec 32)} {req : MmReq} (hreq : ¬ req.disturbs mms i)
    (htimer : req ≠ .timer i) (h : req.apply build mms rands = some mms') : Quiet i mms mms' := by
  cases req with
  | keep =>
    cases h
    exact fun ctx hctx => ⟨ctx, hctx, rfl, id⟩
  | attach j id cell l =>
    obtain ⟨pTmsi, -, rfl⟩ := map_eq_some_iff.mp h
    exact quiet_modify fun hij => absurd hij hreq
  | attachNew base msgId cell l =>
    obtain ⟨pTmsi, -, rfl⟩ := map_eq_some_iff.mp h
    intro ctx' hctx'
    rw [get?_alloc, if_neg (Ne.symm hreq)] at hctx'
    exact ⟨ctx', hctx', rfl, id⟩
  | idResp j mi =>
    cases h
    exact quiet_idResp hreq mms mi
  | raUpd j id cell =>
    obtain ⟨pTmsi, -, rfl⟩ := map_eq_some_iff.mp h
    exact quiet_modify fun hij => absurd hij hreq
  | complete j reall =>
    cases h
    exact quiet_modify fun hij => absurd hij hreq
  | detach j =>
    cases h
    exact quiet_modify fun _ ctx => ⟨rfl, fun _ => rfl⟩
  | timer j =>
    cases h
    exact quiet_modify fun hij => absurd (congrArg MmReq.timer hij) htimer
  | suspend j =>
    cases h
    refine quiet_modify fun _ ctx => ?_
    unfold suspend
    split_ifs with hstate
    · exact ⟨rfl, fun hdereg => by rw [hstate] at hdereg; cases hdereg⟩
    · exact ⟨rfl, id⟩
  | resume j =>
    cases h
    refine quiet_modify fun _ ctx => ?_
    unfold resume
    split_ifs with hstate
    · exact ⟨rfl, fun hdereg => by rw [hstate] at hdereg; cases hdereg⟩
    · exact ⟨rfl, id⟩

theorem gmmReq_ne_timer (mms : Pool MmCtx) (mmctx : Option Nat) (id : MsgId) (cell : GprsRaId) (l : Nat) (msg : GmmMsg)
    (i : Nat) : (gmmReq build mms mmctx id cell l msg).2 ≠ .timer i := by
  intro h
  cases msg with
  | attachReq | raUpdReq =>
    unfold gmmReq at h
    dsimp only at h
    split at h
    · cases h
    · split at h <;> cases h
  | _ => cases mmctx <;> cases h

theorem mmReq_timer (h : (mmReq build s ev).2 = .timer i) : ev = .mmTimer i := by
  cases ev with
  | mmTimer j => exact congrArg SgsnEvent.mmTimer (MmReq.timer.inj h)
  | uplink f given =>
    simp only [mmReq] at h
    split at h
    · unfold dataReq at h
      split at h
      · split at h
        · dsimp only at h
          split at h
          · exact absurd h (gmmReq_ne_timer _ _ _ _ _ _ i)
          · cases h
        · cases h
      · split at h
        · split at h <;> cases h
        · cases h
      · cases h
    · cases h
  | suspend | resume =>
    simp only [mmReq, reqFor] at h
    split at h <;> cases h
  | _ => cases h

theorem quiet_step (hstep : sgsnStep build s ev = some s') (hsilent : (Procedure.mm i).Silent build s ev)
    (hev : ev ≠ .mmTimer i) : Quiet i s.gmm.mms s'.gmm.mms := by
  have htimer : (mmReq build s ev).2 ≠ .timer i := fun h => hev (mmReq_timer h)
  exact (quiet_touched (touches_mmReq build s ev)).trans (quiet_apply hsilent htimer (sgsnStep_mms hstep))

/-- What an expiry does: the fifth one ends the procedure. -/
theorem mmTimerCb_cases (hT : ctx.T = .t3350 ∨ ctx.T = .t3370) :
    (ctx.numTExp < 4 ∧ (mmctxTimerCb ctx.timerStop).1.clock = (true, ctx.T, ctx.numTExp + 1) ∧
        (mmctxTimerCb ctx.timerStop).2.countP LlReq.supervised ≤ 1) ∨
      (4 ≤ ctx.numTExp ∧ (mmctxTimerCb ctx.timerStop).1.timer = false ∧
        (mmctxTimerCb ctx.timerStop).1.mmState = .deregistered ∧
        (mmctxTimerCb ctx.timerStop).2.countP LlReq.supervised = 0) := by
  unfold mmctxTimerCb timerStop
  by_cases hlast : 4 ≤ ctx.numTExp
  · have hfive : 5 ≤ ctx.numTExp + 1 := Nat.succ_le_succ hlast
    refine .inr ⟨hlast, ?_⟩
    rcases hT with hT | hT
    · simp only [hT, if_pos hfive]
      exact ⟨trivial, trivial, rfl⟩
    · simp only [hT, if_pos hfive]
      exact ⟨trivial, trivial, rfl⟩
  · have hfive : ¬ 5 ≤ ctx.numTExp + 1 := fun h => hlast (Nat.le_of_succ_le_succ h)
    refine .inl ⟨Nat.lt_of_not_le hlast, ?_⟩
    rcases hT with hT | hT
    · simp only [hT, if_neg hfive]
      refine ⟨by simp only [clock], ?_⟩
      cases ctx.t3350Mode with
      | att | rau => exact List.countP_le_length
      | ptmsiReall => exact Nat.zero_le 1
    · simp only [hT, if_neg hfive]
      exact ⟨by simp only [clock], List.countP_le_length⟩

/-- The procedure goes on with the tally, or has ended. -/
def Procedure.OnTrack (proc : Procedure) (T : TimerNr) (n : Nat) (g : Gmm) (tally : Tally) : Prop :=
  proc.running g = some (T, n + tally.expiries) ∧ tally.expiries ≤ 4 - n ∧ tally.repeats ≤ tally.expiries ∨
    proc.Ended g ∧ tally.repeats ≤ 4 - n

theorem running_mm {g : Gmm} {m : Nat} :
    (Procedure.mm i).running g = some (T, m) ↔ ∃ ctx, g.mms.get? i = some ctx ∧ ctx.clock = (true, T, m) := by
  unfold Procedure.running
  rw [map_eq_some_iff]
  constructor
  · rintro ⟨ctx, hctx, hsame⟩
    obtain ⟨hget, htimer⟩ := filter_eq_some_iff.mp hctx
    exact ⟨ctx, hget, Prod.ext htimer hsame⟩
  · rintro ⟨ctx, hget, hclock⟩
    obtain ⟨htimer, hsame⟩ := Prod.mk.inj hclock
    exact ⟨ctx, filter_eq_some_iff.mpr ⟨hget, htimer⟩, hsame⟩

theorem mmTimer_step (hctx : s.gmm.mms.get? i = some ctx) (htimer : ctx.timer = true)
    (hstep : sgsnStep build s (.mmTimer i) = some s') :
    s'.gmm.mms.get? i = some (mmctxTimerCb ctx.timerStop).1 ∧
      sends build s (.mmTimer i) = (mmctxTimerCb ctx.timerStop).2 := by
  have hexpires : mmTimer s.gmm i = some (s.gmm.onMm i fun ctx => mmctxTimerCb ctx.timerStop) := by
    unfold mmTimer
    rw [hctx, any_some, if_pos htimer]
  have honMm : s.gmm.onMm i (fun ctx => mmctxTimerCb ctx.timerStop) =
      ({ s.gmm with mms := s.gmm.mms.modify i fun ctx => (mmctxTimerCb ctx.timerStop).1 },
        (mmctxTimerCb ctx.timerStop).2) := by
    unfold Gmm.onMm
    rw [hctx]
  rw [honMm] at hexpires
  obtain ⟨reqs, hgmm, -⟩ := sgsnStep_gmm hstep
  obtain ⟨hg, -⟩ := Prod.mk.inj (some.inj (hexpires.symm.trans hgmm))
  refine ⟨?_, sends_of_step hexpires⟩
  rw [← hg]
  exact get?_modify_self hctx

theorem onTrack_mm {tally : Tally} (hT : T = .t3350 ∨ T = .t3370) (htrack : (Procedure.mm i).OnTrack T n s.gmm tally)
    (hsilent : (Procedure.mm i).Silent build s ev) (hstep : sgsnStep build s ev = some s') :
    (Procedure.mm i).OnTrack T n s'.gmm (tally.after build (.mm i) s ev) := by
  by_cases hev : ev = (Procedure.mm i).expiry
  · subst hev
    rw [Tally.after_expiry]
    rcases htrack with ⟨hrun, hexpiries, hrepeats⟩ | ⟨hended, -⟩
    · obtain ⟨ctx, hctx, hclock⟩ := running_mm.mp hrun
      obtain ⟨htimer, hT', hcount⟩ : ctx.timer = true ∧ ctx.T = T ∧ ctx.numTExp = n + tally.expiries := by
        simpa only [clock, Prod.mk.injEq] using hclock
      obtain ⟨hctx', hsends⟩ := mmTimer_step hctx htimer hstep
      rw [show sends build s (Procedure.mm i).expiry = _ from hsends]
      rcases mmTimerCb_cases (hT'.symm ▸ hT) with ⟨hlt, hclock', hone⟩ | ⟨hle, htimer', hstate, hzero⟩
      · refine .inl ⟨running_mm.mpr ⟨_, hctx', ?_⟩, ?_, ?_⟩
        · rw [hclock', hT', hcount, Nat.add_assoc]
        · show tally.expiries + 1 ≤ 4 - n
          omega
        · exact Nat.add_le_add hrepeats hone
      · refine .inr ⟨fun new hnew => ?_, ?_⟩
        · rw [hctx'] at hnew
          cases hnew
          exact ⟨htimer', hstate⟩
        · rw [hzero]
          exact hrepeats.trans hexpiries
    · -- no timer runs that could expire
      exfalso
      obtain ⟨r, hr, -⟩ := map_eq_some_iff.mp hstep
      unfold mmTimer at hr
      split_ifs at hr with hany
      obtain ⟨ctx, hctx, htimer⟩ := (any_eq_true _ _).mp hany
      rw [(hended ctx hctx).1] at htimer
      cases htimer
  · have htally : tally.after build (.mm i) s ev = tally := if_neg hev
    have hquiet := quiet_step hstep hsilent hev
    rw [htally]
    rcases htrack with ⟨hrun, hexpiries, hrepeats⟩ | ⟨hended, hrepeats⟩
    · obtain ⟨ctx, hctx, hclock⟩ := running_mm.mp hrun
      cases hctx' : s'.gmm.mms.get? i with
      | none =>
        refine .inr ⟨fun new hnew => ?_, hrepeats.trans hexpiries⟩
        rw [hctx'] at hnew
        cases hnew
      | some ctx' =>
        obtain ⟨old, hold, hidles⟩ := hquiet ctx' hctx'
        rw [hctx] at hold
        cases hold
        exact .inl ⟨running_mm.mpr ⟨ctx', hctx', hidles.1.trans hclock⟩, hexpiries, hrepeats⟩
    · refine .inr ⟨fun ctx' hctx' => ?_, hrepeats⟩
      obtain ⟨ctx, hctx, hidles⟩ := hquiet ctx' hctx'
      obtain ⟨htimer, hstate⟩ := hended ctx hctx
      exact ⟨(congrArg Prod.fst hidles.1).trans htimer, hidles.2 hstate⟩

/-! ## PDP contexts -/

variable {p : Nat}

theorem running_pdp {g : Gmm} {m : Nat} : (Procedure.pdp p).running g = some (T, m) ↔
    ∃ pdp, g.pdps.get? p = some pdp ∧ pdp.timer = true ∧ pdp.T = T ∧ pdp.numTExp = m := by
  unfold Procedure.running
  rw [map_eq_some_iff]
  constructor
  · rintro ⟨pdp, hpdp, hsame⟩
    obtain ⟨hget, htimer⟩ := filter_eq_some_iff.mp hpdp
    obtain ⟨hT, hcount⟩ := Prod.mk.inj hsame
    exact ⟨pdp, hget, htimer, hT, hcount⟩
  · rintro ⟨pdp, hget, htimer, rfl, rfl⟩
    exact ⟨pdp, filter_eq_some_iff.mpr ⟨hget, htimer⟩, rfl⟩

/-- T3395 expires: three times before, the procedure ends, and otherwise it starts anew. -/
theorem pdpTimer_step {pdp : PdpCtx} (hpdp : s.gmm.pdps.get? p = some pdp) (htimer : pdp.timer = true)
    (hT : pdp.T = .t3395) (hstep : sgsnStep build s (.pdpTimer p) = some s') :
    (3 ≤ pdp.numTExp ∧ (∃ pdp', s'.gmm.pdps.get? p = some pdp' ∧ pdp'.timer = false ∧ pdp'.state = .none) ∧
        sends build s (.pdpTimer p) = []) ∨
      (pdp.numTExp < 3 ∧
        s'.gmm.pdps.get? p = some { pdp with T := .t3395, numTExp := 0, timer := true } ∧
        s'.gmm.mms = s.gmm.mms ∧
        sends build s (.pdpTimer p) = s.gmm.txFor pdp (.deactPdpReq (flipTi pdp.ti) .netFail)) := by
  have hexpires : gmmStep build s (.pdpTimer p) = some (pdpctxTimerCb s.gmm p { pdp with timer := false }) := by
    show pdpTimer s.gmm p = _
    unfold pdpTimer
    rw [hpdp]
    dsimp only
    rw [if_pos htimer]
  obtain ⟨reqs, hgmm, -⟩ := sgsnStep_gmm hstep
  have hresult := some.inj (hexpires.symm.trans hgmm)
  have hsends := sends_of_step hgmm
  have hg := congrArg Prod.fst hresult
  have hreqs := congrArg Prod.snd hresult
  dsimp only at hg hreqs
  rw [hsends, ← hg, ← hreqs]
  unfold pdpctxTimerCb
  simp only [hT]
  by_cases hlast : 4 ≤ pdp.numTExp + 1
  · rw [if_pos hlast]
    refine .inl ⟨Nat.le_of_succ_le_succ hlast, ?_, rfl⟩
    dsimp only
    rw [pdps_deletePdpCtx]
    exact ⟨_, get?_modify_self (get?_modify_self hpdp), rfl, rfl⟩
  · rw [if_neg hlast]
    refine .inr ⟨Nat.lt_of_not_le fun h => hlast (Nat.succ_le_succ h), ?_, rfl, rfl⟩
    -- the counter that was written back is overwritten by the start of the timer
    have hback := get?_modify_self
      (f := fun _ => { pdp with timer := false, T := .t3395, numTExp := pdp.numTExp + 1 }) hpdp
    have hstart := get?_modify_self
      (f := fun pdp : PdpCtx => { pdp with T := .t3395, numTExp := 0, timer := true }) hback
    exact hstart

theorem onTrack_pdp {tally : Tally} (hn : 3 ≤ n) (hp : p < s.gmm.pdps.next)
    (htrack : (Procedure.pdp p).OnTrack .t3395 n s.gmm tally) (hsilent : (Procedure.pdp p).Silent build s ev)
    (hstep : sgsnStep build s ev = some s') :
    p < s'.gmm.pdps.next ∧ (Procedure.pdp p).OnTrack .t3395 n s'.gmm (tally.after build (.pdp p) s ev) := by
  obtain ⟨reqs, hgmm, -⟩ := sgsnStep_gmm hstep
  have hmoves := gmmStep_moves hgmm
  by_cases hev : ev = (Procedure.pdp p).expiry
  · subst hev
    rw [Tally.after_expiry]
    obtain ⟨pdp, hpdp, hrunning⟩ : ∃ pdp, s.gmm.pdps.get? p = some pdp ∧ pdp.timer = true := by
      obtain ⟨r, hr, -⟩ := map_eq_some_iff.mp hstep
      unfold pdpTimer at hr
      split at hr
      · rename_i pdp hpdp
        split_ifs at hr with htimer
        exact ⟨pdp, hpdp, htimer⟩
      · cases hr
    rcases htrack with ⟨hrun, hexpiries, hrepeats⟩ | ⟨hended, -⟩
    · obtain ⟨pdp₁, hpdp₁, -, hT, hcount⟩ := running_pdp.mp hrun
      rw [hpdp] at hpdp₁
      cases hpdp₁
      rcases pdpTimer_step hpdp hrunning hT hstep with ⟨-, ⟨pdp', hpdp', htimer', hstate⟩, hsends⟩ | ⟨hlt, -⟩
      · refine ⟨get?_lt hpdp', .inr ⟨fun new hnew => ?_, ?_⟩⟩
        · rw [hpdp'] at hnew
          cases hnew
          exact ⟨htimer', hstate⟩
        · rw [show sends build s (Procedure.pdp p).expiry = _ from hsends]
          exact hrepeats.trans hexpiries
      · omega
    · rw [(hended pdp hpdp).1] at hrunning
      cases hrunning
  · have htally : tally.after build (.pdp p) s ev = tally := if_neg hev
    have htimer : ¬ mayDo build s ev (.timer p) := by
      intro hmay
      cases ev with
      | pdpTimer q =>
        obtain rfl : q = p := hmay
        exact hev rfl
      | recovery peer recovery => exact hsilent peer recovery rfl
      | _ => exact hmay
    obtain ⟨hnext, hsurvives⟩ := survives_moves hmoves
    have hkept (pdp : PdpCtx) (hpdp : s'.gmm.pdps.get? p = some pdp) : s.gmm.pdps.get? p = some pdp := by
      obtain ⟨old, hold, -, hsame⟩ := hsurvives p pdp hp hpdp
      rw [hsame htimer]
      exact hold
    refine ⟨Nat.lt_of_lt_of_le hp hnext, ?_⟩
    rw [htally]
    rcases htrack with ⟨hrun, hexpiries, hrepeats⟩ | ⟨hended, hrepeats⟩
    · obtain ⟨pdp, hpdp, hrunning⟩ := running_pdp.mp hrun
      cases hpdp' : s'.gmm.pdps.get? p with
      | none =>
        refine .inr ⟨fun new hnew => ?_, hrepeats.trans hexpiries⟩
        rw [hpdp'] at hnew
        cases hnew
      | some pdp' =>
        have hsame := hkept pdp' hpdp'
        rw [hpdp] at hsame
        cases hsame
        exact .inl ⟨running_pdp.mpr ⟨pdp, hpdp', hrunning⟩, hexpiries, hrepeats⟩
    · exact .inr ⟨fun pdp hpdp => hended pdp (hkept pdp hpdp), hrepeats⟩

/-! ## The result -/

theorem Procedure.OnTrack.start {proc : Procedure} (hrun : proc.running s.gmm = some (T, n)) :
    proc.OnTrack T n s.gmm {} := .inl ⟨hrun, Nat.zero_le _, Nat.le_refl 0⟩

theorem Procedure.OnTrack.result {proc : Procedure} {g : Gmm} {tally : Tally} (h : proc.OnTrack T n g tally) :
    tally.repeats ≤ 4 - n ∧
      (proc.running g = some (T, n + tally.expiries) ∧ tally.expiries ≤ 4 - n ∨ proc.Ended g) := by
  rcases h with ⟨hrun, hexpiries, hrepeats⟩ | ⟨hended, hrepeats⟩
  · exact ⟨hrepeats.trans hexpiries, .inl ⟨hrun, hexpiries⟩⟩
  · exact ⟨hrepeats, .inr hended⟩

theorem givesUp_mm (hT : T = .t3350 ∨ T = .t3370) (hrun : (Procedure.mm i).running s.gmm = some (T, n)) :
    (Procedure.mm i).GivesUp build s T n := by
  intro r hr
  have htrack : (Procedure.mm i).OnTrack T n r.1.gmm r.2 := by
    refine hr.invariant (I := fun r => (Procedure.mm i).OnTrack T n r.1.gmm r.2) ?_ ?_
    · rintro ⟨s₁, tally⟩ ⟨rfl, rfl⟩
      exact .start hrun
    · intro r ev r' htrack hsilent hstep
      have htally : r'.2 = r.2.after build (.mm i) r.1 ev := hstep.2
      rw [htally]
      exact onTrack_mm hT htrack hsilent hstep.1
  exact htrack.result

theorem givesUp_pdp (hn : 3 ≤ n) (hrun : (Procedure.pdp p).running s.gmm = some (.t3395, n)) :
    (Procedure.pdp p).GivesUp build s .t3395 n := by
  intro r hr
  have htrack : p < r.1.gmm.pdps.next ∧ (Procedure.pdp p).OnTrack .t3395 n r.1.gmm r.2 := by
    refine hr.invariant
      (I := fun r => p < r.1.gmm.pdps.next ∧ (Procedure.pdp p).OnTrack .t3395 n r.1.gmm r.2) ?_ ?_
    · rintro ⟨s₁, tally⟩ ⟨rfl, rfl⟩
      obtain ⟨pdp, hpdp, -⟩ := running_pdp.mp hrun
      exact ⟨get?_lt hpdp, .start hrun⟩
    · intro r ev r' htrack hsilent hstep
      have htally : r'.2 = r.2.after build (.pdp p) r.1 ev := hstep.2
      rw [htally]
      exact onTrack_pdp hn htrack.1 htrack.2 hsilent hstep.1
  exact htrack.2.result

variable (build) in
theorem pdpTimer_enabled {pdp : PdpCtx} (hpdp : s.gmm.pdps.get? p = some pdp) (htimer : pdp.timer = true) :
    ∃ s', sgsnStep build s (.pdpTimer p) = some s' := by
  refine ⟨s.ask build (pdpctxTimerCb s.gmm p { pdp with timer := false }), ?_⟩
  show (pdpTimer s.gmm p).map (s.ask build) = _
  unfold pdpTimer
  rw [hpdp]
  dsimp only
  rw [if_pos htimer]
  rfl

theorem silent_pdpTimer (p : Nat) : (Procedure.pdp p).Silent build s (.pdpTimer p) := fun _ _ h => nomatch h

/-- One expiry sets the counter back. -/
theorem not_givesUp_pdp (hn : n < 3) (hrun : (Procedure.pdp p).running s.gmm = some (.t3395, n)) :
    ¬ (Procedure.pdp p).GivesUp build s .t3395 n := by
  intro hgives
  obtain ⟨pdp, hpdp, htimer, hT, hcount⟩ := running_pdp.mp hrun
  obtain ⟨s', hstep⟩ := pdpTimer_enabled build hpdp htimer
  rcases pdpTimer_step hpdp htimer hT hstep with ⟨hle, -⟩ | ⟨-, hpdp', -⟩
  · omega
  · have hstart : ReachableBy (procSystem build (.pdp p) s) (fun r ev => (Procedure.pdp p).Silent build r.1 ev)
        (s, {}) := .init ⟨rfl, rfl⟩
    have hrecorded : (procSystem build (.pdp p) s).step (s, {}) (.pdpTimer p)
        (s', Tally.after build (.pdp p) {} s (.pdpTimer p)) := ⟨hstep, rfl⟩
    have hreach := hstart.step (silent_pdpTimer p) hrecorded
    rcases (hgives _ hreach).2 with ⟨hrun', -⟩ | hended
    · obtain ⟨pdp', hget', -, -, hcount'⟩ := running_pdp.mp hrun'
      rw [hpdp'] at hget'
      cases hget'
      have hexpiries : (Tally.after build (.pdp p) {} s (.pdpTimer p)).expiries = 1 :=
        congrArg Tally.expiries (Tally.after_expiry build (.pdp p) {} s)
      rw [hexpiries] at hcount'
      exact Nat.succ_ne_zero n hcount'.symm
    · cases (hended _ hpdp').1

/-- A station that does not answer is asked to deactivate a PDP context any number of times. -/
theorem repeats_forever {pdp : PdpCtx} (hctx : s.gmm.mms.get? pdp.mm = some ctx)
    (hpdp : s.gmm.pdps.get? p = some pdp) (hrun : (Procedure.pdp p).running s.gmm = some (.t3395, 0)) (m : Nat) :
    ∃ r, ReachableBy (procSystem build (.pdp p) s) (fun r ev => (Procedure.pdp p).Silent build r.1 ev) r ∧
      r.2.repeats = m ∧ (Procedure.pdp p).running r.1.gmm = some (.t3395, 0) := by
  have hruns : ∃ r, ReachableBy (procSystem build (.pdp p) s) (fun r ev => (Procedure.pdp p).Silent build r.1 ev) r ∧
      r.2.repeats = m ∧ (Procedure.pdp p).running r.1.gmm = some (.t3395, 0) ∧
      r.1.gmm.mms = s.gmm.mms ∧ ∃ pdp', r.1.gmm.pdps.get? p = some pdp' ∧ pdp'.mm = pdp.mm := by
    induction m with
    | zero => exact ⟨(s, {}), .init ⟨rfl, rfl⟩, rfl, hrun, rfl, pdp, hpdp, rfl⟩
    | succ m ih =>
      obtain ⟨r, hr, hm, hrun, hmms, pdp', hpdp', hmm⟩ := ih
      obtain ⟨pdp₁, hpdp₁, htimer, hT, hcount⟩ := running_pdp.mp hrun
      rw [hpdp'] at hpdp₁
      cases hpdp₁
      obtain ⟨s', hstep⟩ := pdpTimer_enabled build hpdp' htimer
      rcases pdpTimer_step hpdp' htimer hT hstep with ⟨hle, -⟩ | ⟨-, hnew, hmms', hsends⟩
      · omega
      · refine ⟨(s', r.2.after build (.pdp p) r.1 (.pdpTimer p)), hr.step (silent_pdpTimer p) ⟨hstep, rfl⟩, ?_, ?_,
          hmms'.trans hmms, _, hnew, hmm⟩
        · have hone : (sends build r.1 (.pdpTimer p)).countP LlReq.supervised = 1 := by
            rw [hsends]
            unfold Gmm.txFor
            rw [hmms, hmm, hctx]
            rfl
          have htally := congrArg Tally.repeats (Tally.after_expiry build (.pdp p) r.2 r.1)
          exact htally.trans (by rw [hm]; exact congrArg (m + ·) hone)
        · exact running_pdp.mpr ⟨_, hnew, rfl, rfl, rfl⟩
  obtain ⟨r, hr, hm, hrun, -⟩ := hruns
  exact ⟨r, hr, hm, hrun⟩

/-- **Which procedures give up.** Those of T3350 and T3370; that of T3395 only where three expiries were counted. -/
theorem giveUp_iff {proc : Procedure} (hT : proc.Supervised T) (hrun : proc.running s.gmm = some (T, n)) :
    proc.GivesUp build s T n ↔ (T = .t3395 → 3 ≤ n) := by
  cases proc with
  | mm i =>
    refine iff_of_true (givesUp_mm hT hrun) ?_
    rintro rfl
    rcases hT with h | h <;> cases h
  | pdp p =>
    obtain rfl : T = .t3395 := hT
    constructor
    · intro hgives _
      exact Nat.le_of_not_lt fun hlt => not_givesUp_pdp hlt hrun hgives
    · intro hn
      exact givesUp_pdp (hn rfl) hrun

/-- A station attaches and is asked for its IMEI. -/
theorem giveUp_iff_attached : ∃ s, (Procedure.mm 0).running s.gmm = some (.t3370, 0) ∧
    (Procedure.mm 0).GivesUp checkingBuild s .t3370 0 := by
  obtain ⟨s, -, hrun⟩ : ∃ s ∈ guardedRun (sgsnStep checkingBuild) (fun _ _ => True) {}
      [.attachImsi 0x78000001 homeCell ['2', '6', '2', '4', '2', '1'] [1]],
      (Procedure.mm 0).running s.gmm = some (.t3370, 0) := by decide +kernel
  exact ⟨s, hrun, (giveUp_iff (show (Procedure.mm 0).Supervised .t3370 from .inr rfl) hrun).mpr fun h => by cases h⟩

/-- The GGSN of a PDP context restarts, and the station does not answer to the deactivation. -/
theorem not_givesUp_restarted :
    ¬ ∀ s, Reachable (sgsnSystem checkingBuild) s → ∀ proc : Procedure, ∀ T n, proc.Supervised T →
      proc.running s.gmm = some (T, n) → proc.GivesUp checkingBuild s T n := by
  intro hall
  obtain ⟨s, hs, hrun⟩ : ∃ s ∈ guardedRun (sgsnStep checkingBuild) (fun _ _ => True)
      { gmm := { ggsns := empty.alloc { id := 0 } } }
      [.attachImsi 0x78000001 homeCell ['2', '6', '2', '4', '2', '1'] [1],
        .idResp 0x78000001 homeCell .imei ['9', '0'],
        .gmm 0x78000001 homeCell .attachCompl [],
        .sm 0xc0000001 homeCell 1 (.actPdpReq 3 5),
        .gtpConf 0 ⟨.createPdp, 0⟩ true (some .accReq) false,
        .recovery 0 1, .recovery 0 2],
      (Procedure.pdp 0).running s.gmm = some (.t3395, 0) := by decide +kernel
  have hreach : Reachable (sgsnSystem checkingBuild) s := ReachableBy.guardedRun (fun _ _ _ h => h) (.init ⟨_, rfl⟩) hs
  exact not_givesUp_pdp (by decide) hrun (hall s hreach (.pdp 0) .t3395 0 rfl hrun)

/-- A station that is asked to deactivate its PDP context. -/
def askedStation : SgsnInstance where
  gmm := {
    mms := empty.alloc { mmState := .registeredNormal, ra := homeCell, tlli := 0xc0000001 }
    pdps := empty.alloc { mm := 0, nsapi := 5, timer := true, T := .t3395 } }

theorem repeats_forever_seven : ∃ r, ReachableBy (procSystem checkingBuild (.pdp 0) askedStation)
    (fun r ev => (Procedure.pdp 0).Silent checkingBuild r.1 ev) r ∧ r.2.repeats = 7 ∧
      (Procedure.pdp 0).running r.1.gmm = some (.t3395, 0) :=
  repeats_forever rfl rfl rfl 7

end OpenBsc.Sgsn
