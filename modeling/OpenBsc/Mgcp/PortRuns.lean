import OpenBsc.Mgcp.Ports

/-!
# `Mgcp.PortRuns` — the ports of a gateway over whole runs

After the start, ends are given ports and release them in any order. No port is held twice, and what an end got
dynamically lies below the end of its range. It lies above the start as well where the cursor was set to a pair of the
range itself; `parse_range` sets it to the start of the BTS range. An allocation makes 200 attempts, so it fails only
when the pairs of the 200 attempts are taken, which in a range of at most 200 pairs are all.
-/

namespace OpenBsc.Mgcp

open Transition MgcpConfig MgcpRtpEnd MgcpPortRange MgcpEndpoint List Option

/-! ## Configurations -/

/-- The VTY commands for ranges; an end on a side stands for the range of its kind. -/
inductive PortCmd where
  | base (side : EndpSide) (port : Nat)
  | range (side : EndpSide) (start stop : Nat)

/-- A range begins below its end, and ports are at most 65534. -/
def PortCmd.Valid : PortCmd → Prop
  | base .. => True
  | range _ start stop => start < stop ∧ stop ≤ 65534

instance : DecidablePred PortCmd.Valid
  | .base .. => inferInstanceAs (Decidable True)
  | .range _ start stop => inferInstanceAs (Decidable (start < stop ∧ stop ≤ 65534))

/-- A command is executed. -/
def MgcpConfig.command (cfg : MgcpConfig) : PortCmd → MgcpConfig
  | .base side port => cfg.parseBase side port
  | .range side start stop => cfg.parseRange side start stop

/-- A configuration before the commands for ranges: the ranges are as `mgcp_config_alloc` leaves them, and the arrays of
    endpoints are not allocated. -/
structure Unstarted (cfg : MgcpConfig) : Prop where
  noEndps : ∀ r, cfg.endp? r = none
  ranges : ∀ side, ∃ basePort, cfg.range side = { basePort := basePort }

/-- The gateway has started with a configuration built by such commands. -/
def Started (cfg : MgcpConfig) : Prop :=
  ∃ (cfg0 : MgcpConfig) (cmds : List PortCmd), Unstarted cfg0 ∧ (∀ cmd ∈ cmds, cmd.Valid) ∧
    (cmds.foldl MgcpConfig.command cfg0).mgcpParseConfig = some cfg

/-! ## Runs -/

/-- An end is given ports, or its ports are released. -/
inductive PortEvent where
  | allocate (e : EndRef)
  | release (e : EndRef)

/-- Ports are given to an end that has none (what is fixed is only marked as in use). -/
def allocatable (cfg : MgcpConfig) (e : EndRef) : Prop :=
  (cfg.endp? e.endp).isSome ∧ ((cfg.rtpEnd e).localAlloc = none ∨ (cfg.range e.side).mode = .static)

/-- What an event does. -/
def portStep (cfg : MgcpConfig) : PortEvent → MgcpConfig
  | .allocate e => (cfg.allocatePort e).1
  | .release e => cfg.modifyEnd e MgcpRtpEnd.reset

/-- The gateway after its start with `cfg`. -/
def portSystem (cfg : MgcpConfig) : System MgcpConfig PortEvent where
  init s := s = cfg
  step s ev s' := (∀ e, ev = .allocate e → allocatable s e) ∧ s' = portStep s ev

/-- The cursor of the range of a kind stands on a pair of it, or behind its end. -/
def SeededKind (cfg : MgcpConfig) (kind : PortKind) : Prop :=
  ∀ side : EndpSide, side.kind = kind → (cfg.range side).Seeded

/-! ## The invariant -/

/-- No port is held twice. -/
def SocketsApart (cfg : MgcpConfig) : Prop :=
  ∀ e e', e ≠ e' → ∀ port ∈ (cfg.rtpEnd e).sockets, port ∉ (cfg.rtpEnd e').sockets

/-- What is kept by every step; `S` are the kinds whose cursor was set to a pair of its own range. -/
structure PortsKept (S : PortKind → Prop) (cfg : MgcpConfig) : Prop where
  nonempty : ∀ side, (cfg.range side).mode = .dynamic →
    (cfg.range side).rangeStart < (cfg.range side).rangeEnd ∧ (cfg.range side).rangeEnd ≤ 65534
  seeded : ∀ side, (cfg.range side).mode = .dynamic → S side.kind → (cfg.range side).Seeded
  apart : SocketsApart cfg
  dynamic : ∀ e, (cfg.rtpEnd e).localAlloc = some .dynamic →
    (cfg.range e.side).mode = .dynamic ∧
      (cfg.rtpEnd e).sockets = [(cfg.rtpEnd e).localPort, (cfg.rtpEnd e).localPort + 1] ∧
      (cfg.rtpEnd e).localPort + 1 ≤ (cfg.range e.side).rangeEnd ∧
      (S e.side.kind → (cfg.range e.side).rangeStart ≤ (cfg.rtpEnd e).localPort)
  idle : ∀ e, (cfg.range e.side).mode = .dynamic → (cfg.rtpEnd e).localAlloc ≠ some .dynamic →
    (cfg.rtpEnd e).sockets = []

variable {S : PortKind → Prop} {cfg : MgcpConfig} {e : EndRef}

/-- The end behind `e` becomes `x`, and nothing else about ends and ranges changes. -/
structure OnlyEnd (e : EndRef) (x : MgcpRtpEnd) (cfg cfg' : MgcpConfig) : Prop where
  self : cfg'.rtpEnd e = x
  others : ∀ e', e' ≠ e → cfg'.rtpEnd e' = cfg.rtpEnd e'

theorem onlyEnd_modifyEnd (f : MgcpRtpEnd → MgcpRtpEnd) (he : (cfg.endp? e.endp).isSome) :
    OnlyEnd e (f (cfg.rtpEnd e)) cfg (cfg.modifyEnd e f) :=
  ⟨rtpEnd_modifyEnd_self f he, fun _ hee => rtpEnd_modifyEnd_ne f hee⟩

variable {cfg' : MgcpConfig}

theorem SocketsApart.change {x : MgcpRtpEnd} (h : SocketsApart cfg) (hone : OnlyEnd e x cfg cfg')
    (hx : ∀ e', e' ≠ e → ∀ port ∈ x.sockets, port ∉ (cfg.rtpEnd e').sockets) : SocketsApart cfg' := by
  intro e₁ e₂ hne port hport
  by_cases h1 : e₁ = e
  · subst h1
    rw [hone.self] at hport
    rw [hone.others e₂ (Ne.symm hne)]
    exact hx e₂ (Ne.symm hne) port hport
  · rw [hone.others e₁ h1] at hport
    by_cases h2 : e₂ = e
    · subst h2
      rw [hone.self]
      exact fun hp => hx e₁ hne port hp hport
    · rw [hone.others e₂ h2]
      exact h e₁ e₂ hne port hport

variable {port : Nat}

theorem notMem_of_pairFree {x : MgcpRtpEnd} (hfree : cfg.PairFree e port) (hrtp : x.rtp = some (htons port))
    (hrtcp : x.rtcp = some (htons (port + 1))) : ∀ e', e' ≠ e → ∀ p ∈ x.sockets, p ∉ (cfg.rtpEnd e').sockets := by
  intro e' hee p hp
  obtain ⟨hfirst, hsecond⟩ := hfree e' hee
  rw [sockets, hrtp, hrtcp] at hp
  rcases mem_append.mp hp with hp | hp
  · rw [← some.inj (mem_toList.mp hp)]
    exact hfirst
  · rw [← some.inj (mem_toList.mp hp)]
    exact hsecond

/-- Two ranges differ at most in the cursor. -/
def SameRange (range range' : MgcpPortRange) : Prop :=
  range'.mode = range.mode ∧ range'.rangeStart = range.rangeStart ∧ range'.rangeEnd = range.rangeEnd

/-- **One end changes.** The invariant is kept if it holds for what that end becomes. -/
theorem PortsKept.change {x : MgcpRtpEnd} (h : PortsKept S cfg) (hone : OnlyEnd e x cfg cfg')
    (hsame : ∀ side, SameRange (cfg.range side) (cfg'.range side))
    (hseed : ∀ side, (cfg.range side).mode = .dynamic → S side.kind → (cfg'.range side).Seeded)
    (hdisj : ∀ e', e' ≠ e → ∀ port ∈ x.sockets, port ∉ (cfg.rtpEnd e').sockets)
    (hdyn : x.localAlloc = some .dynamic →
      (cfg.range e.side).mode = .dynamic ∧ x.sockets = [x.localPort, x.localPort + 1] ∧
        x.localPort + 1 ≤ (cfg.range e.side).rangeEnd ∧ (S e.side.kind → (cfg.range e.side).rangeStart ≤ x.localPort))
    (hidle : (cfg.range e.side).mode = .dynamic → x.localAlloc ≠ some .dynamic → x.sockets = []) :
    PortsKept S cfg' where
  nonempty side hmode := by
    obtain ⟨hm, hs, he⟩ := hsame side
    rw [hm] at hmode
    rw [hs, he]
    exact h.nonempty side hmode
  seeded side hmode hS := by
    rw [(hsame side).1] at hmode
    exact hseed side hmode hS
  apart := h.apart.change hone hdisj
  dynamic e₁ halloc := by
    obtain ⟨hm, hs, he⟩ := hsame e₁.side
    rw [hm, hs, he]
    by_cases h1 : e₁ = e
    · subst h1
      rw [hone.self] at halloc ⊢
      exact hdyn halloc
    · rw [hone.others e₁ h1] at halloc ⊢
      exact h.dynamic e₁ halloc
  idle e₁ hmode halloc := by
    rw [(hsame e₁.side).1] at hmode
    by_cases h1 : e₁ = e
    · subst h1
      rw [hone.self] at halloc ⊢
      exact hidle hmode halloc
    · rw [hone.others e₁ h1] at halloc ⊢
      exact h.idle e₁ hmode halloc

theorem sameRange_refl (range : MgcpPortRange) : SameRange range range := ⟨rfl, rfl, rfl⟩

theorem PortsKept.release (h : PortsKept S cfg) (e : EndRef) :
    PortsKept S (cfg.modifyEnd e reset) := by
  by_cases he : (cfg.endp? e.endp).isSome
  · have hreset : (cfg.rtpEnd e).reset.sockets ⊆ (cfg.rtpEnd e).sockets ∧ (cfg.rtpEnd e).reset.localAlloc = none ∧
        ((cfg.rtpEnd e).localAlloc = some .dynamic → (cfg.rtpEnd e).reset.sockets = []) := by
      by_cases hd : (cfg.rtpEnd e).localAlloc = some .dynamic
      · simp [reset, hd, freeRtpPort, sockets]
      · simp [reset, hd, sockets]
    obtain ⟨hsub, hnone, hfreed⟩ := hreset
    refine h.change (onlyEnd_modifyEnd _ he) (fun side => ?_) (fun side hmode hS => ?_) ?_ ?_ ?_
    · rw [range_modifyEnd]
      exact sameRange_refl _
    · rw [range_modifyEnd]
      exact h.seeded side hmode hS
    · intro e' hee port hport
      exact h.apart e e' (Ne.symm hee) port (hsub hport)
    · intro hdyn
      rw [hnone] at hdyn
      cases hdyn
    · intro hmode _
      by_cases hd : (cfg.rtpEnd e).localAlloc = some .dynamic
      · exact hfreed hd
      · exact subset_nil.mp (h.idle e hmode hd ▸ hsub)
  · have hsame : cfg.modifyEnd e reset = cfg := by
      have hnone : cfg.endp? e.endp = none := by simpa using he
      rw [modifyEnd, modifyEndp_congr (g := fun endp => endp.setSide (endp.side e.side) e.side)]
      · exact modifyEnd_id cfg e
      · intro endp hendp
        rw [hnone] at hendp
        cases hendp
    rw [hsame]
    exact h

/-- Where the pair of a range is free, the end holds exactly its two ports. -/
theorem sockets_taken (x : MgcpRtpEnd) (h : port + 1 ≤ 65534) :
    (taken port x).sockets = [port, port + 1] := by
  have hfirst : htons port = port := Nat.mod_eq_of_lt (by omega)
  have hsecond : htons (port + 1) = port + 1 := Nat.mod_eq_of_lt (by omega)
  simp [taken, bound, sockets, hfirst, hsecond]

/-- **What attempts leave behind.** An end of a dynamic range changes and the cursor of its range moves on. -/
theorem PortsKept.attempted (h : PortsKept S cfg) (he : (cfg.endp? e.endp).isSome)
    (hdynamic : (cfg.range e.side).mode = .dynamic) (f : MgcpRtpEnd → MgcpRtpEnd) (k : Nat)
    (hdisj : ∀ e', e' ≠ e → ∀ port ∈ (f (cfg.rtpEnd e)).sockets, port ∉ (cfg.rtpEnd e').sockets)
    (hdyn : (f (cfg.rtpEnd e)).localAlloc = some .dynamic →
      (f (cfg.rtpEnd e)).sockets = [(f (cfg.rtpEnd e)).localPort, (f (cfg.rtpEnd e)).localPort + 1] ∧
      (f (cfg.rtpEnd e)).localPort + 1 ≤ (cfg.range e.side).rangeEnd ∧
      (S e.side.kind → (cfg.range e.side).rangeStart ≤ (f (cfg.rtpEnd e)).localPort))
    (hidle : (f (cfg.rtpEnd e)).localAlloc ≠ some .dynamic → (f (cfg.rtpEnd e)).sockets = []) :
    PortsKept S ((cfg.modifyEnd e f).setRange (advance^[k] (cfg.range e.side)) e.side) := by
  obtain ⟨hlt, -⟩ := h.nonempty e.side hdynamic
  obtain ⟨hs, hend, hm⟩ := @iterate_advance (cfg.range e.side) k
  have hone := onlyEnd_modifyEnd f he
  have honly : OnlyEnd e (f (cfg.rtpEnd e)) cfg
      ((cfg.modifyEnd e f).setRange (advance^[k] (cfg.range e.side)) e.side) :=
    ⟨(rtpEnd_setRange ..).trans hone.self,
      fun e' hee => (rtpEnd_setRange ..).trans (hone.others e' hee)⟩
  refine h.change honly (fun side => ?_) (fun side hmode hS => ?_) hdisj (fun hd => ⟨hdynamic, hdyn hd⟩)
    (fun _ hno => hidle hno)
  · rw [range_setRange, range_modifyEnd]
    split
    · next hkind =>
        rw [range_of_kind hkind]
        exact ⟨hm, hs, hend⟩
    · exact sameRange_refl _
  · rw [range_setRange, range_modifyEnd]
    split
    · next hkind =>
        rw [hkind] at hS
        exact (h.seeded e.side hdynamic hS).iterate_advance k hlt
    · exact h.seeded side hmode hS

/-- An allocation keeps the invariant, whether it succeeds or not. -/
theorem PortsKept.allocate (h : PortsKept S cfg) (ha : allocatable cfg e) : PortsKept S (cfg.allocatePort e).1 := by
  obtain ⟨he, halloc⟩ := ha
  by_cases hstatic : (cfg.range e.side).mode = .static
  · rw [allocatePort, if_pos hstatic]
    show PortsKept S (cfg.modifyEnd e fun rtpEnd => { rtpEnd with localAlloc := some .static })
    refine h.change (onlyEnd_modifyEnd _ he) (fun side => ?_) (fun side hmode hS => ?_) ?_ ?_ ?_
    · rw [range_modifyEnd]
      exact sameRange_refl _
    · rw [range_modifyEnd]
      exact h.seeded side hmode hS
    · intro e' hee port hport
      exact h.apart e e' (Ne.symm hee) port hport
    · intro hdyn
      cases hdyn
    · intro hmode
      rw [hstatic] at hmode
      cases hmode
  · have hdynamic : (cfg.range e.side).mode = .dynamic := by
      cases hmode : (cfg.range e.side).mode with
      | static => exact absurd hmode hstatic
      | dynamic => rfl
    have hnone : (cfg.rtpEnd e).localAlloc = none := halloc.resolve_right hstatic
    have hempty : (cfg.rtpEnd e).sockets = [] := h.idle e hdynamic (by simp [hnone])
    obtain ⟨hlt, hmax⟩ := h.nonempty e.side hdynamic
    rw [allocatePort, if_neg hstatic]
    rcases allocAttempts_cases 200 he with ⟨port, hmem, hfree, k, heq⟩ | ⟨_, f, hf, heq⟩
    · -- the pair found is free, and the cursor was on it
      have hin := lt_of_mem_tries hlt hmem
      rw [heq]
      refine h.attempted he hdynamic _ k (notMem_of_pairFree hfree rfl rfl) (fun _ => ⟨?_, hin, fun hS => ?_⟩)
        (fun hno => absurd rfl hno)
      · exact sockets_taken (cfg.rtpEnd e) (show port + 1 ≤ 65534 by omega)
      · exact le_of_mem_tries (h.seeded e.side hdynamic hS) hlt hmem
    · -- nothing was found: the end is left without sockets
      have hx : (f (cfg.rtpEnd e)).sockets = [] ∧ (f (cfg.rtpEnd e)).localAlloc = none := by
        rcases hf with rfl | ⟨port, rfl⟩
        · exact ⟨hempty, hnone⟩
        · exact ⟨rfl, hnone⟩
      rw [heq]
      refine h.attempted he hdynamic f 200 ?_ ?_ (fun _ => hx.1)
      · intro e' _ p hp
        rw [hx.1] at hp
        cases hp
      · intro hdyn
        rw [hx.2] at hdyn
        cases hdyn

/-! ## The start -/

/-- What holds while the arrays are allocated and fixed ports are bound. -/
structure Starting (cfg : MgcpConfig) : Prop where
  apart : SocketsApart cfg
  notDynamic : ∀ e, (cfg.rtpEnd e).localAlloc ≠ some .dynamic
  idle : ∀ e, (cfg.range e.side).mode = .dynamic → (cfg.rtpEnd e).sockets = []

theorem Starting.congr (h : Starting cfg) (hends : ∀ e, cfg'.rtpEnd e = cfg.rtpEnd e)
    (hranges : ∀ side, cfg'.range side = cfg.range side) : Starting cfg' where
  apart e e' hne port hport := by
    rw [hends] at hport ⊢
    exact h.apart e e' hne port hport
  notDynamic e := by
    rw [hends]
    exact h.notDynamic e
  idle e hmode := by
    rw [hranges] at hmode
    rw [hends]
    exact h.idle e hmode

theorem of_bindStatic (he : (cfg.endp? e.endp).isSome) (hb : cfg.bindStatic e port = some cfg') :
    cfg.PairFree e port ∧ cfg' = cfg.modifyEnd e fun x => { bound port x with localAlloc := some .static } := by
  unfold bindStatic at hb
  by_cases hfree : cfg.PairFree e port
  · rw [intBind_of_free he hfree] at hb
    simp only [if_true, modifyEnd_modifyEnd, some.injEq] at hb
    exact ⟨hfree, hb.symm⟩
  · rw [intBind_of_not_free he hfree] at hb
    simp at hb

theorem Starting.bindStatic (h : Starting cfg) (he : (cfg.endp? e.endp).isSome)
    (hstatic : (cfg.range e.side).mode = .static) (hb : cfg.bindStatic e port = some cfg') : Starting cfg' := by
  obtain ⟨hfree, rfl⟩ := of_bindStatic he hb
  have hone := onlyEnd_modifyEnd (fun x => { bound port x with localAlloc := some .static }) he
  refine ⟨h.apart.change hone (notMem_of_pairFree hfree rfl rfl), fun e₁ => ?_, fun e₁ hmode => ?_⟩
  · by_cases h1 : e₁ = e
    · subst h1
      rw [hone.self]
      simp
    · rw [hone.others e₁ h1]
      exact h.notDynamic e₁
  · rw [range_modifyEnd] at hmode
    by_cases h1 : e₁ = e
    · subst h1
      rw [hstatic] at hmode
      cases hmode
    · rw [hone.others e₁ h1]
      exact h.idle e₁ hmode

/-- The same ranges and the same endpoints, whatever these hold. -/
structure SameShape (cfg cfg' : MgcpConfig) : Prop where
  ranges : ∀ side, cfg'.range side = cfg.range side
  endps : ∀ r, (cfg'.endp? r).isSome = (cfg.endp? r).isSome

theorem SameShape.refl (cfg : MgcpConfig) : SameShape cfg cfg := ⟨fun _ => rfl, fun _ => rfl⟩

theorem SameShape.trans {cfg'' : MgcpConfig} (h : SameShape cfg cfg') (h' : SameShape cfg' cfg'') :
    SameShape cfg cfg'' :=
  ⟨fun side => (h'.ranges side).trans (h.ranges side), fun r => (h'.endps r).trans (h.endps r)⟩

theorem shape_bindStatic (he : (cfg.endp? e.endp).isSome) (hb : cfg.bindStatic e port = some cfg') :
    SameShape cfg cfg' := by
  obtain ⟨-, rfl⟩ := of_bindStatic he hb
  exact ⟨fun side => range_modifyEnd .., fun r => isSome_endp?_modifyEndp ..⟩

/-- The ends of one endpoint are bound, as far as their ranges are fixed. -/
theorem Starting.earlyBind {r : EndpRef} (h : Starting cfg) (hr : (cfg.endp? r).isSome)
    (hb : cfg.earlyBind r = some cfg') : Starting cfg' ∧ SameShape cfg cfg' := by
  -- each of the fixed ends is bound or passed over
  have hbind : ∀ (c c' : MgcpConfig) (side : EndpSide) (port : Nat), Starting c ∧ SameShape cfg c →
      (c.range side).mode = .static → c.bindStatic ⟨r, side⟩ port = some c' → Starting c' ∧ SameShape cfg c' := by
    intro c c' side port hc hmode hstep
    have hvalid : (c.endp? r).isSome := (hc.2.endps r).trans hr
    exact ⟨hc.1.bindStatic hvalid hmode hstep, hc.2.trans (shape_bindStatic hvalid hstep)⟩
  unfold MgcpConfig.earlyBind at hb
  obtain ⟨c1, hb1, hb⟩ := bind_eq_some_iff.mp hb
  obtain ⟨c2, hb2, hb⟩ := bind_eq_some_iff.mp hb
  have h1 : Starting c1 ∧ SameShape cfg c1 := by
    unfold earlyBindBts at hb1
    split at hb1
    · next hmode =>
        refine hbind { cfg with lastBtsPort := cfg.lastBtsPort + 2 } c1 .bts _ ⟨?_, ?_⟩ hmode hb1
        · exact h.congr (fun _ => rfl) (fun _ => rfl)
        · exact ⟨fun _ => rfl, fun _ => rfl⟩
    · cases hb1
      exact ⟨h, SameShape.refl _⟩
  have h2 : Starting c2 ∧ SameShape cfg c2 := by
    unfold earlyBindNet at hb2
    split at hb2
    · next hmode =>
        refine hbind { c1 with lastNetPort := c1.lastNetPort + 2 } c2 .net _ ⟨?_, ?_⟩ hmode hb2
        · exact h1.1.congr (fun _ => rfl) (fun _ => rfl)
        · exact h1.2.trans ⟨fun _ => rfl, fun _ => rfl⟩
    · cases hb2
      exact h1
  unfold earlyBindTranscoder at hb
  split at hb
  · next hmode =>
      obtain ⟨c3, hb3, hb⟩ := bind_eq_some_iff.mp hb
      have h3 := hbind c2 c3 .transNet _ h2 hmode.2 hb3
      have hmode3 : (c3.range .transBts).mode = .static := by
        rw [h3.2.ranges, ← h2.2.ranges]
        exact hmode.2
      exact hbind c3 cfg' .transBts _ h3 hmode3 hb
  · cases hb
    exact h2

theorem endp?_freshTrunk (cfg : MgcpConfig) (k : Nat) (r : EndpRef) :
    (cfg.modifyTrunk (fun tcfg => { tcfg with endpoints := replicate tcfg.numberEndpoints {} }) k).endp? r =
      if r.trunk = k then
        (cfg.trunk? k).bind fun tcfg => if r.nr < tcfg.numberEndpoints then some {} else none
      else cfg.endp? r := by
  simp only [endp?, trunk?_modifyTrunk]
  split
  · next hk =>
      rw [hk]
      cases cfg.trunk? k with
      | none => rfl
      | some tcfg => simp [getElem?_replicate]
  · rfl

theorem rtpEnd_freshTrunk (cfg : MgcpConfig) (k : Nat) (e : EndRef) :
    (cfg.modifyTrunk (fun tcfg => { tcfg with endpoints := replicate tcfg.numberEndpoints {} }) k).rtpEnd e =
      if e.endp.trunk = k then {} else cfg.rtpEnd e := by
  rw [rtpEnd, endp?_freshTrunk]
  split
  · cases cfg.trunk? k with
    | none => exact side_default e.side
    | some tcfg =>
      simp only [bind_some]
      split <;> exact side_default e.side
  · rfl

theorem Starting.freshTrunk (h : Starting cfg) (k : Nat) :
    Starting (cfg.modifyTrunk (fun tcfg => { tcfg with endpoints := replicate tcfg.numberEndpoints {} }) k) where
  apart e e' hne port hport := by
    rw [rtpEnd_freshTrunk] at hport ⊢
    split at hport
    · cases hport
    · split
      · exact not_mem_nil
      · exact h.apart e e' hne port hport
  notDynamic e := by
    rw [rtpEnd_freshTrunk]
    split
    · simp
    · exact h.notDynamic e
  idle e hmode := by
    rw [range_modifyTrunk] at hmode
    rw [rtpEnd_freshTrunk]
    split
    · rfl
    · exact h.idle e hmode

theorem Starting.allocateTrunk {k : Nat} (h : Starting cfg) (hb : cfg.allocateTrunk k = some cfg') :
    Starting cfg' ∧ ∀ side, cfg'.range side = cfg.range side := by
  unfold MgcpConfig.allocateTrunk at hb
  have hloop : Starting cfg' ∧ SameShape (cfg.modifyTrunk (fun tcfg =>
      { tcfg with endpoints := replicate tcfg.numberEndpoints {} }) k) cfg' := by
    refine foldlM_preserves (I := fun c => Starting c ∧ SameShape (cfg.modifyTrunk (fun tcfg =>
      { tcfg with endpoints := replicate tcfg.numberEndpoints {} }) k) c) (fun c r hr c' hc hstep => ?_)
      ⟨h.freshTrunk k, SameShape.refl _⟩ hb
    have hvalid : (c.endp? r).isSome := by
      rw [hc.2.endps, endp?_freshTrunk]
      obtain ⟨i, hi, rfl⟩ := mem_map.mp hr
      rw [if_pos rfl]
      rw [mem_range'_1] at hi
      rw [trunk?_modifyTrunk, if_pos rfl] at hi
      cases ht : cfg.trunk? k with
      | none =>
        rw [ht] at hi
        simp at hi
        omega
      | some tcfg =>
        rw [ht] at hi
        simp only [map_some, getD_some] at hi
        have hlt : i < tcfg.numberEndpoints := by omega
        simp [hlt]
    obtain ⟨hs, hshape⟩ := hc.1.earlyBind hvalid hstep
    exact ⟨hs, hc.2.trans hshape⟩
  exact ⟨hloop.1, fun side => (hloop.2.ranges side).trans (range_modifyTrunk ..)⟩

/-! ## The commands -/

/-- Ranges that begin below their end. -/
def RangesValid (cfg : MgcpConfig) : Prop :=
  ∀ side, (cfg.range side).mode = .dynamic →
    (cfg.range side).rangeStart < (cfg.range side).rangeEnd ∧ (cfg.range side).rangeEnd ≤ 65534

theorem rangesValid_command {cmd : PortCmd} (h : RangesValid cfg) (hcmd : cmd.Valid) :
    RangesValid (cfg.command cmd) := by
  intro side hmode
  cases cmd with
  | base side' port =>
    simp only [command, parseBase, range_setRange] at hmode ⊢
    split at hmode
    · cases hmode
    · next hkind =>
        rw [if_neg hkind]
        exact h side hmode
  | range side' start stop =>
    simp only [command, parseRange, range_setRange, if_true] at hmode ⊢
    split
    · exact hcmd
    · next hkind =>
        rw [if_neg hkind, if_neg hkind] at hmode
        exact h side hmode

theorem endp?_command (cfg : MgcpConfig) (cmd : PortCmd) (r : EndpRef) : (cfg.command cmd).endp? r = cfg.endp? r := by
  cases cmd with
  | base side port => exact endp?_setRange ..
  | range side start stop => exact (endp?_setRange ..).trans (endp?_setRange ..)

theorem endp?_commands (cfg : MgcpConfig) (cmds : List PortCmd) (r : EndpRef) :
    (cmds.foldl command cfg).endp? r = cfg.endp? r := by
  induction cmds generalizing cfg with
  | nil => rfl
  | cons cmd cmds ih => exact (ih (cfg.command cmd)).trans (endp?_command cfg cmd r)

theorem rangesValid_commands {cmds : List PortCmd} (hcmds : ∀ cmd ∈ cmds, cmd.Valid) (h : RangesValid cfg) :
    RangesValid (cmds.foldl command cfg) := by
  induction cmds generalizing cfg with
  | nil => exact h
  | cons cmd cmds ih =>
    obtain ⟨hcmd, hrest⟩ := forall_mem_cons.mp hcmds
    exact ih hrest (rangesValid_command h hcmd)

/-- **At the start** the invariant holds, with the kinds whose cursor the commands have set to a pair of its own
    range. -/
theorem portsKept_started (h : Started cfg) :
    PortsKept (SeededKind cfg) cfg := by
  obtain ⟨cfg0, cmds, hun, hcmds, hstart⟩ := h
  have hfresh : RangesValid cfg0 := by
    intro side hmode
    obtain ⟨basePort, hrange⟩ := hun.ranges side
    rw [hrange] at hmode
    cases hmode
  have hvalid := rangesValid_commands hcmds hfresh
  have hnone := fun r => (endp?_commands cfg0 cmds r).trans (hun.noEndps r)
  have hbegin : Starting { cmds.foldl command cfg0 with
      lastBtsPort := rtpCalculatePort 0 (cmds.foldl command cfg0).btsPorts.basePort
      lastNetPort := rtpCalculatePort 0 (cmds.foldl command cfg0).netPorts.basePort } := by
    have hend : ∀ e, (cmds.foldl command cfg0).rtpEnd e = {} :=
      fun e => rtpEnd_of_none (hnone e.endp)
    have hempty : Starting (cmds.foldl command cfg0) := by
      refine ⟨fun e e' _ port hport => ?_, fun e => ?_, fun e _ => ?_⟩
      · rw [hend] at hport
        cases hport
      · rw [hend]
        simp
      · rw [hend]
        rfl
    exact hempty.congr (fun _ => rfl) (fun _ => rfl)
  have hdone : Starting cfg ∧ ∀ side, cfg.range side = (cmds.foldl command cfg0).range side := by
    refine foldlM_preserves (I := fun c => Starting c ∧ ∀ side : EndpSide,
      c.range side = (cmds.foldl command cfg0).range side) (fun c k _ c' hc hstep => ?_)
      ⟨hbegin, fun side => by cases side <;> rfl⟩ hstart
    obtain ⟨hs, hr⟩ := hc.1.allocateTrunk hstep
    exact ⟨hs, fun side => (hr side).trans (hc.2 side)⟩
  refine ⟨fun side hmode => ?_, fun side _ hS => hS side rfl, hdone.1.apart, ?_, fun e hmode _ => hdone.1.idle e hmode⟩
  · rw [hdone.2] at hmode ⊢
    exact hvalid side hmode
  · intro e halloc
    exact absurd halloc (hdone.1.notDynamic e)

/-! ## The results -/

/-- What one would expect of the ports: what is allocated dynamically lies in its range, nothing is held twice, and an
    allocation fails only when every pair of the range is taken. -/
structure PortsSound (s : MgcpConfig) : Prop where
  inRange : ∀ e, (s.rtpEnd e).localAlloc = some .dynamic →
    (s.range e.side).rangeStart ≤ (s.rtpEnd e).localPort ∧ (s.rtpEnd e).localPort + 1 ≤ (s.range e.side).rangeEnd
  apart : SocketsApart s ∧ ∀ e, (s.rtpEnd e).localAlloc = some .dynamic →
    (s.rtpEnd e).sockets = [(s.rtpEnd e).localPort, (s.rtpEnd e).localPort + 1]
  complete : ∀ e, allocatable s e → (s.allocatePort e).2 = false →
    ∀ t < (s.range e.side).pairs, ¬ s.PairFree e ((s.range e.side).rangeStart + 2 * t)

theorem portsKept_of_reachable {s : MgcpConfig} (hcfg : Started cfg) (hs : Reachable (portSystem cfg) s) :
    PortsKept (SeededKind cfg) s := by
  refine ReachableBy.invariant (fun s hs => ?_) (fun s ev s' h _ hstep => ?_) hs
  · rw [show s = cfg from hs]
    exact portsKept_started hcfg
  · obtain ⟨ha, rfl⟩ := hstep
    cases ev with
    | allocate e => exact h.allocate (ha e rfl)
    | release e => exact h.release e

/-- **An allocation that fails** has made 200 attempts at pairs that are taken. -/
theorem tries_of_failed (he : (cfg.endp? e.endp).isSome) (hfail : (cfg.allocatePort e).2 = false) :
    (cfg.range e.side).mode = .dynamic ∧ ∀ port ∈ (cfg.range e.side).tries 200, ¬ cfg.PairFree e port := by
  by_cases hstatic : (cfg.range e.side).mode = .static
  · rw [allocatePort, if_pos hstatic] at hfail
    cases hfail
  · rw [allocatePort, if_neg hstatic] at hfail
    refine ⟨?_, ?_⟩
    · cases hmode : (cfg.range e.side).mode with
      | static => exact absurd hmode hstatic
      | dynamic => rfl
    · rcases allocAttempts_cases 200 he with ⟨port, _, _, k, heq⟩ | ⟨hnone, _⟩
      · rw [heq] at hfail
        cases hfail
      · exact hnone

/-- **The ports of every run.** No port is held twice; a dynamically allocated end holds its port and the next one,
    below the end of its range, and above the start if the cursor of its kind was set to a pair of its own range; an
    allocation fails only after 200 attempts at taken pairs, which are all pairs if there are no more than 200 of
    them. -/
theorem ports_of_started {s : MgcpConfig} (hcfg : Started cfg) (hs : Reachable (portSystem cfg) s) :
    SocketsApart s ∧
    (∀ e, (s.rtpEnd e).localAlloc = some .dynamic →
      (s.rtpEnd e).sockets = [(s.rtpEnd e).localPort, (s.rtpEnd e).localPort + 1] ∧
      (s.rtpEnd e).localPort + 1 ≤ (s.range e.side).rangeEnd ∧
      (SeededKind cfg e.side.kind → (s.range e.side).rangeStart ≤ (s.rtpEnd e).localPort)) ∧
    (∀ e, allocatable s e → (s.allocatePort e).2 = false →
      (∀ port ∈ (s.range e.side).tries 200, ¬ s.PairFree e port) ∧
      (SeededKind cfg e.side.kind → (s.range e.side).pairs ≤ 200 →
        ∀ t < (s.range e.side).pairs, ¬ s.PairFree e ((s.range e.side).rangeStart + 2 * t))) := by
  have hkept := portsKept_of_reachable hcfg hs
  refine ⟨hkept.apart, fun e halloc => (hkept.dynamic e halloc).2, fun e ha hfail => ?_⟩
  obtain ⟨hmode, htries⟩ := tries_of_failed ha.1 hfail
  refine ⟨htries, fun hseed hfew t ht => htries _ ?_⟩
  exact pair_mem_tries (hkept.seeded e.side hmode hseed) (hkept.nonempty e.side hmode).1 hfew ht

/-! ### A range of 201 pairs -/

/-- A gateway with 201 endpoints and the ranges of `mgcp_config_alloc`. -/
def plainGateway : MgcpConfig where
  localIp := none
  sourceAddr := [48, 46, 48, 46, 48, 46, 48]
  transcoderIp := none
  transcoderRemoteBase := 4000
  btsPorts := { basePort := 4000 }
  netPorts := { basePort := 16000 }
  transcoderPorts := {}
  lastNetPort := 0
  lastBtsPort := 0
  resetCb := true
  lastCallId := 0
  trunk :=
    { trunkNr := 0, trunkType := .virtual, audioName := [65, 77, 82], audioPayload := 126, forceRealloc := false,
      numberEndpoints := 202, endpoints := [] }
  trunks := []

/-- That gateway with 201 pairs for the BTS, after its start. -/
def longRange : MgcpConfig :=
  { plainGateway with
    btsPorts := ⟨.dynamic, 4000, 4000, 4402, 4000⟩
    netPorts := ⟨.dynamic, 16000, 20000, 20402, 4000⟩
    lastBtsPort := 4000
    lastNetPort := 16000
    trunk := { plainGateway.trunk with endpoints := List.replicate 202 {} } }

theorem started_longRange : Started longRange := by
  refine ⟨plainGateway, [.range .bts 4000 4402, .range .net 20000 20402], ⟨?_, ?_⟩, by decide, ?_⟩
  · intro r
    obtain ⟨k, i⟩ := r
    cases k <;> rfl
  · intro side
    cases side
    · exact ⟨16000, rfl⟩
    · exact ⟨4000, rfl⟩
    · exact ⟨0, rfl⟩
    · exact ⟨0, rfl⟩
  · decide +kernel

/-- The end of the `i`-th endpoint to the BTS. -/
def btsOf (i : Nat) : EndRef := ⟨⟨0, i⟩, .bts⟩

/-- The first `n` endpoints have got the first `n` pairs. -/
structure Filled (n : Nat) (s : MgcpConfig) : Prop where
  range : s.range .bts = ⟨.dynamic, 4000, 4000, 4402, 4000 + 2 * n⟩
  valid : ∀ i ≤ 201, (s.endp? ⟨0, i⟩).isSome
  held : ∀ i < n, (s.rtpEnd (btsOf (i + 1))).sockets = [4000 + 2 * i, 4000 + 2 * i + 1] ∧
    (s.rtpEnd (btsOf (i + 1))).localAlloc = some .dynamic
  rest : ∀ e, (∀ i < n, e ≠ btsOf (i + 1)) → (s.rtpEnd e).sockets = [] ∧ (s.rtpEnd e).localAlloc = none

theorem filled_start : Filled 0 longRange where
  range := rfl
  valid i hi := by
    show ((replicate 202 ({} : MgcpEndpoint))[i]?).isSome
    rw [getElem?_replicate, if_pos (by omega)]
    rfl
  held i hi := absurd hi (Nat.not_lt_zero i)
  rest e _ := by
    have hend : longRange.rtpEnd e = {} := by
      obtain ⟨⟨k, i⟩, side⟩ := e
      cases k with
      | zero =>
        simp only [rtpEnd, endp?, trunk?, longRange, bind_some, getElem?_replicate]
        split <;> exact side_default side
      | succ k => exact side_default side
    rw [hend]
    exact ⟨rfl, rfl⟩

theorem Filled.next {n : Nat} {s : MgcpConfig} (h : Filled n s) (hn : n < 201) :
    allocatable s (btsOf (n + 1)) ∧ Filled (n + 1) (portStep s (.allocate (btsOf (n + 1)))) := by
  have hvalid : (s.endp? (btsOf (n + 1)).endp).isSome := h.valid (n + 1) (by omega)
  have hself := h.rest (btsOf (n + 1)) (fun i hi heq => by simp [btsOf] at heq; omega)
  have hnext : (s.range (btsOf (n + 1)).side).next = 4000 + 2 * n := by
    show (s.range .bts).next = _
    rw [h.range, MgcpPortRange.next, if_neg]
    show ¬ 4402 ≤ 4000 + 2 * n
    omega
  have hfree : s.PairFree (btsOf (n + 1)) (4000 + 2 * n) := by
    intro e' _
    by_cases hheld : ∃ i < n, e' = btsOf (i + 1)
    · obtain ⟨i, hi, rfl⟩ := hheld
      rw [(h.held i hi).1]
      simp only [htons, mem_cons, not_mem_nil, or_false]
      omega
    · rw [(h.rest e' fun i hi heq => hheld ⟨i, hi, heq⟩).1]
      exact ⟨not_mem_nil, not_mem_nil⟩
  refine ⟨⟨hvalid, .inl hself.2⟩, ?_⟩
  have hstep : portStep s (.allocate (btsOf (n + 1))) =
      (s.modifyEnd (btsOf (n + 1)) (taken (4000 + 2 * n))).setRange (s.range .bts).advance .bts := by
    have hmode : (s.range (btsOf (n + 1)).side).mode = .dynamic := by
      show (s.range .bts).mode = _
      rw [h.range]
    rw [portStep, allocatePort_of_next hvalid hmode (by rwa [hnext]), hnext]
    rfl
  rw [hstep]
  have hone := onlyEnd_modifyEnd (taken (4000 + 2 * n)) hvalid
  refine ⟨?_, fun i hi => ?_, fun i hi => ?_, fun e he => ?_⟩
  · have hadv : (s.range .bts).next = 4000 + 2 * n := hnext
    rw [range_setRange, if_pos rfl, advance, hadv, h.range]
    rfl
  · rw [endp?_setRange, modifyEnd, isSome_endp?_modifyEndp]
    exact h.valid i hi
  · rw [rtpEnd_setRange]
    by_cases hin : i = n
    · subst hin
      rw [hone.self]
      exact ⟨sockets_taken _ (by omega), rfl⟩
    · rw [hone.others _ (by simp [btsOf]; omega)]
      exact h.held i (by omega)
  · rw [rtpEnd_setRange, hone.others _ (he n (by omega))]
    exact h.rest e fun i hi => he i (by omega)

/-- All endpoints get a pair, and the last one releases it. -/
def longRun : List PortEvent :=
  (List.range 201).map (fun i => .allocate (btsOf (i + 1))) ++ [.release (btsOf 201)]

theorem filled_run (n : Nat) (hn : n ≤ 201) :
    ∃ s, s = ((range n).map fun i => PortEvent.allocate (btsOf (i + 1))).foldl portStep longRange ∧
      Reachable (portSystem longRange) s ∧ Filled n s := by
  induction n with
  | zero => exact ⟨longRange, rfl, .init rfl, filled_start⟩
  | succ n ih =>
    obtain ⟨s, hs, hreach, hfilled⟩ := ih (by omega)
    obtain ⟨ha, hnext⟩ := hfilled.next (by omega)
    refine ⟨portStep s (.allocate (btsOf (n + 1))), ?_, .step hreach trivial ⟨?_, rfl⟩, hnext⟩
    · rw [range_succ, map_append, foldl_append, ← hs]
      rfl
    · intro e he
      cases he
      exact ha

/-- Attempts that do not go round are at the pairs behind the cursor. -/
theorem of_mem_tries {n j port : Nat} {range : MgcpPortRange} (hnext : range.next = range.rangeStart + 2 * j)
    (hj : j + n ≤ range.pairs) (hport : port ∈ range.tries n) :
    ∃ i < n, port = range.rangeStart + 2 * (j + i) := by
  induction n generalizing range j with
  | zero => cases hport
  | succ n ih =>
    cases hport with
    | head => exact ⟨0, by omega, hnext⟩
    | tail _ hport =>
      cases n with
      | zero => cases hport
      | succ n =>
        have hround : range.advance.next = range.rangeStart + 2 * (j + 1) := by
          have hlast : range.advance.lastPort = range.rangeStart + 2 * (j + 1) := by
            show range.next + 2 = _
            omega
          rw [MgcpPortRange.next, hlast, advance_rangeEnd, if_neg]
          unfold pairs at hj
          omega
        obtain ⟨i, hi, heq⟩ := @ih (j + 1) range.advance hround (by simpa using by omega) hport
        refine ⟨i + 1, by omega, ?_⟩
        rw [heq]
        show range.rangeStart + 2 * (j + 1 + i) = _
        omega

theorem reachable_longRun :
    ∃ s, longRun.foldl portStep longRange = s.modifyEnd (btsOf 201) reset ∧ Filled 201 s ∧
      Reachable (portSystem longRange) (longRun.foldl portStep longRange) := by
  obtain ⟨s, hs, hreach, h⟩ := filled_run 201 (by omega)
  have hrun : longRun.foldl portStep longRange = s.modifyEnd (btsOf 201) reset := by
    rw [longRun, foldl_append, ← hs]
    rfl
  refine ⟨s, hrun, h, ?_⟩
  rw [hrun]
  refine .step (l := .release (btsOf 201)) hreach trivial ⟨fun e he => ?_, rfl⟩
  cases he

/-- In that run no port is held twice. -/
theorem ports_of_started_longRun :
    Started longRange ∧ Reachable (portSystem longRange) (longRun.foldl portStep longRange) ∧
      SocketsApart (longRun.foldl portStep longRange) := by
  obtain ⟨_, _, _, hreach⟩ := reachable_longRun
  exact ⟨started_longRange, hreach, (ports_of_started started_longRange hreach).1⟩

/-- **200 attempts are too few** for 201 pairs: after that run the last pair is free, and the last endpoint gets
    none. -/
theorem not_portsSound_longRun :
    Started longRange ∧ Reachable (portSystem longRange) (longRun.foldl portStep longRange) ∧
      ¬ PortsSound (longRun.foldl portStep longRange) := by
  obtain ⟨s, hrun, h, hreach⟩ := reachable_longRun
  refine ⟨started_longRange, hreach, fun hsound => ?_⟩
  rw [hrun] at hsound
  have hvalid : (s.endp? (btsOf 201).endp).isSome := h.valid 201 (by omega)
  have hone := onlyEnd_modifyEnd reset hvalid
  have hrange : (s.modifyEnd (btsOf 201) reset).range (btsOf 201).side = ⟨.dynamic, 4000, 4000, 4402, 4402⟩ := by
    rw [range_modifyEnd]
    exact h.range
  have hvalid' : ((s.modifyEnd (btsOf 201) reset).endp? (btsOf 201).endp).isSome := by
    rw [modifyEnd, isSome_endp?_modifyEndp]
    exact hvalid
  -- the pairs of the 200 attempts are those of the first 200 endpoints
  have hfail : ((s.modifyEnd (btsOf 201) reset).allocatePort (btsOf 201)).2 = false := by
    rw [allocatePort, if_neg (by rw [hrange]; decide)]
    rcases allocAttempts_cases 200 hvalid' with ⟨port, hport, hfree, -⟩ | ⟨-, f, -, heq⟩
    · rw [hrange] at hport
      obtain ⟨i, hi, rfl⟩ := @of_mem_tries 200 0 port ⟨.dynamic, 4000, 4000, 4402, 4402⟩ rfl (by decide) hport
      have hne : btsOf (i + 1) ≠ btsOf 201 := by
        simp [btsOf]
        omega
      have hnot := (hfree _ hne).1
      rw [hone.others _ hne, (h.held i (by omega)).1, Nat.zero_add] at hnot
      have hport' : htons (4000 + 2 * i) = 4000 + 2 * i := Nat.mod_eq_of_lt (by omega)
      rw [hport'] at hnot
      exact (hnot mem_cons_self).elim
    · rw [heq]
  have halloc : allocatable (s.modifyEnd (btsOf 201) reset) (btsOf 201) := by
    refine ⟨hvalid', .inl ?_⟩
    rw [hone.self]
    rfl
  have htaken := hsound.complete (btsOf 201) halloc hfail 200 (by rw [hrange]; decide)
  rw [hrange] at htaken
  refine htaken fun e' hee => ?_
  rw [hone.others e' hee]
  by_cases hheld : ∃ i < 201, e' = btsOf (i + 1)
  · obtain ⟨i, hi, rfl⟩ := hheld
    have hi' : i ≠ 200 := fun heq => hee (by rw [heq])
    rw [(h.held i hi).1]
    simp only [htons, mem_cons, not_mem_nil, or_false]
    omega
  · rw [(h.rest e' fun i hi heq => hheld ⟨i, hi, heq⟩).1]
    exact ⟨not_mem_nil, not_mem_nil⟩

end OpenBsc.Mgcp
