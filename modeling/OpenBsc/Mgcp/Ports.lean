import OpenBsc.Mgcp.Types
import OpenBsc.Lib.Transition

/-!
# `Mgcp.Ports` — local RTP ports (`mgcp_protocol.c`, `mgcp_network.c`, `mgcp_vty.c`)

Each end of an endpoint listens on a pair of ports. A range of the configuration either gives fixed ones, bound at the
start, or a range in which a cursor goes round in steps of two whenever an end needs a pair. A socket can be bound
exactly when no live socket of the process holds its port; the calls that register it with the select loop succeed.
-/

namespace OpenBsc.Mgcp

open MgcpPortRange MgcpRtpEnd List

/-! ## Sockets of an end -/

namespace MgcpRtpEnd

/-- The ports an end holds. -/
def sockets (e : MgcpRtpEnd) : List Nat := e.rtp.toList ++ e.rtcp.toList

/-- `mgcp_free_rtp_port`. -/
def freeRtpPort (e : MgcpRtpEnd) : MgcpRtpEnd := { e with rtp := none, rtcp := none }

/-- `mgcp_rtp_end_reset`. -/
def reset (e : MgcpRtpEnd) : MgcpRtpEnd :=
  let e := if e.localAlloc = some .dynamic then { e.freeRtpPort with localPort := 0 } else e
  { e with addr := 0, rtpPort := 0, rtcpPort := 0, payloadType := -1, localAlloc := none }

end MgcpRtpEnd

/-- `mgcp_free_endp`. -/
def MgcpEndpoint.free (endp : MgcpEndpoint) : MgcpEndpoint where
  allocated := false
  ci := ciUnused
  callid := none
  localOptions := none
  connMode := .none
  origMode := .none
  btsEnd := endp.btsEnd.reset
  netEnd := endp.netEnd.reset
  transBts := endp.transBts.reset
  transNet := endp.transNet.reset
  isTranscoded := false
  netState := {}
  btsState := {}
  allowPatch := false

/-- `htons`. -/
def htons (port : Nat) : Nat := port % 65536

/-- `rtp_calculate_port`. -/
def rtpCalculatePort (multiplex base : Nat) : Nat := base + multiplex * 2

/-- `endp_back_channel`. -/
def endpBackChannel (endpoint : Nat) : Nat := endpoint + 60

/-- The port the cursor of a range stands for: behind the end it goes back to the start. -/
def MgcpPortRange.next (range : MgcpPortRange) : Nat :=
  if range.rangeEnd ≤ range.lastPort then range.rangeStart else range.lastPort

/-- The range after an attempt. -/
def MgcpPortRange.advance (range : MgcpPortRange) : MgcpPortRange := { range with lastPort := range.next + 2 }

/-- The ports of the next attempts. -/
def MgcpPortRange.tries : Nat → MgcpPortRange → List Nat
  | 0, _ => []
  | n + 1, range => range.next :: range.advance.tries n

/-- The kinds of ranges; both ends to the transcoder have one. -/
inductive PortKind where
  | net
  | bts
  | transcoder
  deriving DecidableEq

/-- The kind of range an end takes its ports from. -/
def EndpSide.kind : EndpSide → PortKind
  | .net => .net
  | .bts => .bts
  | .transNet | .transBts => .transcoder

namespace MgcpConfig

/-! ## Configuration -/

/-- The range an end takes its ports from. -/
def range (cfg : MgcpConfig) : EndpSide → MgcpPortRange
  | .net => cfg.netPorts
  | .bts => cfg.btsPorts
  | .transNet | .transBts => cfg.transcoderPorts

/-- The configuration with another range for an end. -/
def setRange (cfg : MgcpConfig) (range : MgcpPortRange) : EndpSide → MgcpConfig
  | .net => { cfg with netPorts := range }
  | .bts => { cfg with btsPorts := range }
  | .transNet | .transBts => { cfg with transcoderPorts := range }

/-- `parse_base`. -/
def parseBase (cfg : MgcpConfig) (side : EndpSide) (port : Nat) : MgcpConfig :=
  cfg.setRange { cfg.range side with mode := .static, basePort := port } side

/-- `parse_range`. The cursor is set to `g_cfg->bts_ports.range_start` whichever range it is; that of the BTS range has
    its new start by then. -/
def parseRange (cfg : MgcpConfig) (side : EndpSide) (start stop : Nat) : MgcpConfig :=
  let cfg := cfg.setRange { cfg.range side with mode := .dynamic, rangeStart := start, rangeEnd := stop } side
  cfg.setRange { cfg.range side with lastPort := cfg.btsPorts.rangeStart } side

/-! ## Binding sockets -/

/-- A live socket of the process holds the port. -/
def live (cfg : MgcpConfig) (port : Nat) : Bool :=
  cfg.endpRefs.any fun r =>
    [EndpSide.net, .bts, .transNet, .transBts].any fun side => (cfg.rtpEnd ⟨r, side⟩).sockets.contains port

/-- `bind_rtp`, with `create_bind` for the port and the one after it. -/
def bindRtp (cfg : MgcpConfig) (e : EndRef) : MgcpConfig × Bool :=
  let port := (cfg.rtpEnd e).localPort
  if cfg.live (htons port) then (cfg, false)
  else
    let cfg := cfg.modifyEnd e fun rtpEnd => { rtpEnd with rtp := some (htons port) }
    if cfg.live (htons (port + 1)) then
      (cfg.modifyEnd e fun rtpEnd => { rtpEnd with rtp := none }, false)
    else (cfg.modifyEnd e fun rtpEnd => { rtpEnd with rtcp := some (htons (port + 1)) }, true)

/-- `int_bind`: what is still bound is closed first. -/
def intBind (cfg : MgcpConfig) (e : EndRef) (port : Nat) : MgcpConfig × Bool :=
  let cfg := if (cfg.rtpEnd e).sockets ≠ [] then cfg.modifyEnd e MgcpRtpEnd.freeRtpPort else cfg
  (cfg.modifyEnd e fun rtpEnd => { rtpEnd with localPort := port }).bindRtp e

/-! ## Allocation -/

/-- The attempts of `allocate_port` to find a port. -/
def allocAttempts (e : EndRef) : Nat → MgcpConfig → MgcpConfig × Bool
  | 0, cfg => (cfg, false)
  | n + 1, cfg =>
    let range := cfg.range e.side
    let r := cfg.intBind e range.next
    let cfg := r.1.setRange range.advance e.side
    if r.2 then (cfg.modifyEnd e fun rtpEnd => { rtpEnd with localAlloc := some .dynamic }, true)
    else allocAttempts e n cfg

/-- `allocate_port`. -/
def allocatePort (cfg : MgcpConfig) (e : EndRef) : MgcpConfig × Bool :=
  if (cfg.range e.side).mode = .static then
    (cfg.modifyEnd e fun rtpEnd => { rtpEnd with localAlloc := some .static }, true)
  else allocAttempts e 200 cfg

/-- The ends of `ends` are reset. -/
def resetEnds (cfg : MgcpConfig) (ends : List EndRef) : MgcpConfig :=
  ends.foldl (fun cfg e => cfg.modifyEnd e MgcpRtpEnd.reset) cfg

/-- The ends that `allocate_ports` gives ports to, in their order. -/
def sidesOf (cfg : MgcpConfig) (r : EndpRef) : List EndpSide :=
  if cfg.transcoderIp.isSome ∧ (cfg.trunk? r.trunk).any (·.trunkType = .virtual) then
    [.net, .bts, .transNet, .transBts]
  else [.net, .bts]

/-- `allocate_ports` for the ends that are left; those that have ports already are reset on a failure. -/
def allocateSides (r : EndpRef) : List EndpSide → List EndRef → MgcpConfig → MgcpConfig × Bool
  | [], _, cfg => (cfg, true)
  | side :: sides, done, cfg =>
    let a := cfg.allocatePort ⟨r, side⟩
    if a.2 then allocateSides r sides (done ++ [⟨r, side⟩]) a.1 else (a.1.resetEnds done, false)

/-- `allocate_ports`. -/
def allocatePorts (cfg : MgcpConfig) (r : EndpRef) : MgcpConfig × Bool :=
  let a := allocateSides r (cfg.sidesOf r) [] cfg
  if a.2 ∧ EndpSide.transNet ∈ cfg.sidesOf r then
    (a.1.modifyEndp r fun endp => { endp with isTranscoded := true }, true)
  else a

/-! ## Start -/

/-- An end is bound to a fixed port. -/
def bindStatic (cfg : MgcpConfig) (e : EndRef) (port : Nat) : Option MgcpConfig :=
  let r := cfg.intBind e port
  if r.2 then some (r.1.modifyEnd e fun rtpEnd => { rtpEnd with localAlloc := some .static }) else none

/-- The next fixed port for the BTS. -/
def earlyBindBts (cfg : MgcpConfig) (r : EndpRef) : Option MgcpConfig :=
  if cfg.btsPorts.mode = .static then
    ({ cfg with lastBtsPort := cfg.lastBtsPort + 2 } : MgcpConfig).bindStatic ⟨r, .bts⟩ (cfg.lastBtsPort + 2)
  else some cfg

/-- The next fixed port for the network. -/
def earlyBindNet (cfg : MgcpConfig) (r : EndpRef) : Option MgcpConfig :=
  if cfg.netPorts.mode = .static then
    ({ cfg with lastNetPort := cfg.lastNetPort + 2 } : MgcpConfig).bindStatic ⟨r, .net⟩ (cfg.lastNetPort + 2)
  else some cfg

/-- The fixed ports for the transcoder, which depend on the number of the endpoint. -/
def earlyBindTranscoder (cfg : MgcpConfig) (r : EndpRef) : Option MgcpConfig :=
  if EndpSide.transNet ∈ cfg.sidesOf r ∧ cfg.transcoderPorts.mode = .static then
    (cfg.bindStatic ⟨r, .transNet⟩ (rtpCalculatePort r.nr cfg.transcoderPorts.basePort)).bind fun cfg =>
      cfg.bindStatic ⟨r, .transBts⟩ (rtpCalculatePort (endpBackChannel r.nr) cfg.transcoderPorts.basePort)
  else some cfg

/-- The body of the loop of `allocate_trunk`. -/
def earlyBind (cfg : MgcpConfig) (r : EndpRef) : Option MgcpConfig :=
  (cfg.earlyBindBts r).bind fun cfg => (cfg.earlyBindNet r).bind fun cfg => cfg.earlyBindTranscoder r

/-- `allocate_trunk`. -/
def allocateTrunk (cfg : MgcpConfig) (k : Nat) : Option MgcpConfig :=
  let cfg := cfg.modifyTrunk (fun tcfg => { tcfg with endpoints := List.replicate tcfg.numberEndpoints {} }) k
  let count := ((cfg.trunk? k).map fun tcfg => tcfg.numberEndpoints).getD 0
  ((List.range' 1 (count - 1)).map (EndpRef.mk k)).foldlM earlyBind cfg

/-- `mgcp_parse_config`, after the file has been read. -/
def mgcpParseConfig (cfg : MgcpConfig) : Option MgcpConfig :=
  (List.range (cfg.trunks.length + 1)).foldlM allocateTrunk
    { cfg with lastBtsPort := rtpCalculatePort 0 cfg.btsPorts.basePort,
               lastNetPort := rtpCalculatePort 0 cfg.netPorts.basePort }

/-! ## Binding -/

variable {cfg : MgcpConfig} {e : EndRef} {port : Nat}

/-- No other end holds the port or the one after it. -/
def PairFree (cfg : MgcpConfig) (e : EndRef) (port : Nat) : Prop :=
  ∀ e', e' ≠ e → htons port ∉ (cfg.rtpEnd e').sockets ∧ htons (port + 1) ∉ (cfg.rtpEnd e').sockets

theorem live_iff : cfg.live port ↔ ∃ e, port ∈ (cfg.rtpEnd e).sockets := by
  simp only [live, any_eq_true, mem_endpRefs, contains_iff_mem]
  constructor
  · rintro ⟨r, _, side, _, hport⟩
    exact ⟨⟨r, side⟩, hport⟩
  · rintro ⟨⟨r, side⟩, hport⟩
    cases hendp : cfg.endp? r with
    | none => simp [rtpEnd_of_none (show cfg.endp? (EndRef.mk r side).endp = none from hendp), sockets] at hport
    | some endp => exact ⟨r, by simp [hendp], side, by cases side <;> simp, hport⟩

/-- An end with a pair of sockets. -/
def bound (port : Nat) (e : MgcpRtpEnd) : MgcpRtpEnd :=
  { e with localPort := port, rtp := some (htons port), rtcp := some (htons (port + 1)) }

/-- An end that could not be bound. -/
def unbound (port : Nat) (e : MgcpRtpEnd) : MgcpRtpEnd := { e with localPort := port, rtp := none, rtcp := none }

theorem htons_succ_ne (port : Nat) : htons (port + 1) ≠ htons port := by
  simp only [htons]
  omega

theorem intBind_unbound (cfg : MgcpConfig) (e : EndRef) (port : Nat) :
    cfg.intBind e port = (cfg.modifyEnd e (unbound port)).bindRtp e := by
  unfold intBind
  split
  · simp only [modifyEnd_modifyEnd]
    rfl
  · next hnone =>
      have hrtp : (cfg.rtpEnd e).rtp = none ∧ (cfg.rtpEnd e).rtcp = none := by
        simpa [sockets, append_eq_nil_iff, Option.toList_eq_nil_iff] using hnone
      have hsame :
          cfg.modifyEnd e (fun rtpEnd => { rtpEnd with localPort := port }) = cfg.modifyEnd e (unbound port) := by
        refine modifyEnd_congr ?_
        simp only [unbound]
        rw [hrtp.1, hrtp.2]
      simp only [hsame]

section

variable (he : (cfg.endp? e.endp).isSome)

include he

theorem live_modifyEnd (f : MgcpRtpEnd → MgcpRtpEnd) (p : Nat) :
    (cfg.modifyEnd e f).live p ↔ p ∈ (f (cfg.rtpEnd e)).sockets ∨ ∃ e', e' ≠ e ∧ p ∈ (cfg.rtpEnd e').sockets := by
  rw [live_iff]
  constructor
  · rintro ⟨e', hp⟩
    by_cases hee : e' = e
    · subst hee
      rw [rtpEnd_modifyEnd_self f he] at hp
      exact .inl hp
    · rw [rtpEnd_modifyEnd_ne f hee] at hp
      exact .inr ⟨e', hee, hp⟩
  · rintro (hp | ⟨e', hee, hp⟩)
    · exact ⟨e, by rwa [rtpEnd_modifyEnd_self f he]⟩
    · exact ⟨e', by rwa [rtpEnd_modifyEnd_ne f hee]⟩

/-- **An attempt to bind a free pair.** -/
theorem intBind_of_free (h : cfg.PairFree e port) :
    cfg.intBind e port = (cfg.modifyEnd e (bound port), true) := by
  have hport : ((cfg.modifyEnd e (unbound port)).rtpEnd e).localPort = port := by
    rw [rtpEnd_modifyEnd_self _ he]
    rfl
  have hfirst : ¬ (cfg.modifyEnd e (unbound port)).live (htons port) := by
    rw [live_modifyEnd he]
    rintro (hp | ⟨e', hee, hp⟩)
    · simp [unbound, sockets] at hp
    · exact (h e' hee).1 hp
  have hsecond : ¬ ((cfg.modifyEnd e (unbound port)).modifyEnd e
      fun rtpEnd => { rtpEnd with rtp := some (htons port) }).live (htons (port + 1)) := by
    rw [modifyEnd_modifyEnd, live_modifyEnd he]
    rintro (hp | ⟨e', hee, hp⟩)
    · simp [unbound, sockets, htons_succ_ne] at hp
    · exact (h e' hee).2 hp
  rw [intBind_unbound, bindRtp, hport]
  simp only [if_neg hfirst, if_neg hsecond]
  rw [modifyEnd_modifyEnd, modifyEnd_modifyEnd]
  rfl

/-- **An attempt to bind a pair that is not free.** -/
theorem intBind_of_not_free (h : ¬ cfg.PairFree e port) :
    cfg.intBind e port = (cfg.modifyEnd e (unbound port), false) := by
  have hport : ((cfg.modifyEnd e (unbound port)).rtpEnd e).localPort = port := by
    rw [rtpEnd_modifyEnd_self _ he]
    rfl
  rw [intBind_unbound, bindRtp, hport]
  by_cases hfirst : (cfg.modifyEnd e (unbound port)).live (htons port)
  · simp only [if_pos hfirst]
  · have hsecond : ((cfg.modifyEnd e (unbound port)).modifyEnd e
        fun rtpEnd => { rtpEnd with rtp := some (htons port) }).live (htons (port + 1)) := by
      by_contra hno
      rw [modifyEnd_modifyEnd, live_modifyEnd he] at hno
      rw [live_modifyEnd he] at hfirst
      refine h fun e' hee => ⟨fun hp => hfirst (.inr ⟨e', hee, hp⟩), fun hp => hno (.inr ⟨e', hee, hp⟩)⟩
    simp only [if_neg hfirst, if_pos hsecond]
    rw [modifyEnd_modifyEnd, modifyEnd_modifyEnd]
    rfl

end

end MgcpConfig

/-! ## The cursor -/

namespace MgcpPortRange

variable {range : MgcpPortRange}

/-- The cursor stands on a pair of the range, or behind its end. -/
def Seeded (range : MgcpPortRange) : Prop :=
  range.rangeEnd ≤ range.lastPort ∨ ∃ k, range.lastPort = range.rangeStart + 2 * k

/-- How many pairs a range has: those that begin an even number of ports behind its start. -/
def pairs (range : MgcpPortRange) : Nat := (range.rangeEnd - range.rangeStart + 1) / 2

@[simp] theorem advance_rangeStart : range.advance.rangeStart = range.rangeStart := rfl

@[simp] theorem advance_rangeEnd : range.advance.rangeEnd = range.rangeEnd := rfl

@[simp] theorem advance_pairs : range.advance.pairs = range.pairs := rfl

/-- The cursor never yields a port at the end of the range. -/
theorem next_lt (h : range.rangeStart < range.rangeEnd) : range.next < range.rangeEnd := by
  unfold next
  split <;> omega

theorem next_of_seeded (hs : range.Seeded) (h : range.rangeStart < range.rangeEnd) :
    ∃ k < range.pairs, range.next = range.rangeStart + 2 * k := by
  unfold next pairs
  split
  · exact ⟨0, by omega, rfl⟩
  · rcases hs with hend | ⟨k, hk⟩
    · omega
    · exact ⟨k, by omega, hk⟩

theorem Seeded.advance (hs : range.Seeded) (h : range.rangeStart < range.rangeEnd) : range.advance.Seeded := by
  obtain ⟨k, _, hk⟩ := next_of_seeded hs h
  refine .inr ⟨k + 1, ?_⟩
  show range.next + 2 = range.rangeStart + 2 * (k + 1)
  omega

theorem iterate_advance (k : Nat) :
    (advance^[k] range).rangeStart = range.rangeStart ∧
      (advance^[k] range).rangeEnd = range.rangeEnd ∧
      (advance^[k] range).mode = range.mode := by
  induction k with
  | zero => exact ⟨rfl, rfl, rfl⟩
  | succ k ih =>
    rw [Function.iterate_succ_apply']
    exact ih

theorem Seeded.iterate_advance (k : Nat) (hs : range.Seeded) (h : range.rangeStart < range.rangeEnd) :
    (MgcpPortRange.advance^[k] range).Seeded := by
  induction k with
  | zero => exact hs
  | succ k ih =>
    rw [Function.iterate_succ_apply']
    obtain ⟨hstart, hend, _⟩ := @MgcpPortRange.iterate_advance range k
    exact ih.advance (by rw [hstart, hend]; exact h)

theorem lt_of_mem_tries {n port : Nat} (h : range.rangeStart < range.rangeEnd) (hport : port ∈ range.tries n) :
    port + 1 ≤ range.rangeEnd := by
  induction n generalizing range with
  | zero => cases hport
  | succ n ih =>
    cases hport with
    | head => exact next_lt h
    | tail _ hport => exact @ih range.advance h hport

theorem le_of_mem_tries {n port : Nat} (hs : range.Seeded) (h : range.rangeStart < range.rangeEnd)
    (hport : port ∈ range.tries n) : range.rangeStart ≤ port := by
  induction n generalizing range with
  | zero => cases hport
  | succ n ih =>
    cases hport with
    | head =>
      obtain ⟨k, _, hk⟩ := next_of_seeded hs h
      omega
    | tail _ hport => exact @ih range.advance (hs.advance h) h hport

/-- The `i`-th attempt from a pair of the range is at the `i`-th pair behind it, going round. -/
theorem mem_tries (n : Nat) {j i : Nat} (hnext : range.next = range.rangeStart + 2 * j) (hj : j < range.pairs)
    (hi : i < n) : range.rangeStart + 2 * ((j + i) % range.pairs) ∈ range.tries n := by
  induction n generalizing range j i with
  | zero => omega
  | succ n ih =>
    cases i with
    | zero =>
      have hj0 : (j + 0) % range.pairs = j := Nat.mod_eq_of_lt hj
      rw [hj0, ← hnext]
      exact mem_cons_self
    | succ i =>
      have hround : range.advance.next = range.rangeStart + 2 * ((j + 1) % range.pairs) := by
        have hlast : range.advance.lastPort = range.rangeStart + 2 * (j + 1) := by
          show range.next + 2 = _
          omega
        by_cases hend : j + 1 = range.pairs
        · have hbehind : range.rangeEnd ≤ range.rangeStart + 2 * (j + 1) := by
            unfold pairs at hend
            omega
          rw [hend, Nat.mod_self, next, hlast, advance_rangeEnd, advance_rangeStart, if_pos hbehind]
          rfl
        · rw [Nat.mod_eq_of_lt (by omega), next, hlast, advance_rangeEnd, if_neg]
          unfold pairs at hj hend
          omega
      have hmem := @ih range.advance _ i hround (Nat.mod_lt _ (by omega)) (by omega)
      have hsum : ((j + 1) % range.pairs + i) % range.pairs = (j + (i + 1)) % range.pairs := by
        rw [Nat.mod_add_mod]
        congr 1
        omega
      rw [advance_rangeStart, advance_pairs, hsum] at hmem
      exact mem_cons_of_mem _ hmem

theorem pair_mem_tries {n t : Nat} (hs : range.Seeded) (h : range.rangeStart < range.rangeEnd) (hn : range.pairs ≤ n)
    (ht : t < range.pairs) : range.rangeStart + 2 * t ∈ range.tries n := by
  obtain ⟨j, hj, hnext⟩ := next_of_seeded hs h
  by_cases hjt : j ≤ t
  · have hmem := mem_tries n (i := t - j) hnext hj (by omega)
    rwa [Nat.add_sub_cancel' hjt, Nat.mod_eq_of_lt ht] at hmem
  · have hmem := mem_tries n (i := t + range.pairs - j) hnext hj (by omega)
    have hsum : j + (t + range.pairs - j) = t + range.pairs := by omega
    rwa [hsum, Nat.add_mod_right, Nat.mod_eq_of_lt ht] at hmem

end MgcpPortRange

namespace MgcpConfig

/-! ## Attempts -/

section
variable (cfg : MgcpConfig) (range range' : MgcpPortRange) (side side' : EndpSide) (e : EndRef)
  (f : MgcpRtpEnd → MgcpRtpEnd)

@[simp] theorem range_setRange :
    (cfg.setRange range side).range side' = if side'.kind = side.kind then range else cfg.range side' := by
  cases side <;> cases side' <;> rfl

theorem range_of_kind {cfg : MgcpConfig} {side side' : EndpSide} (h : side'.kind = side.kind) :
    cfg.range side' = cfg.range side := by
  cases side <;> cases side' <;> first | rfl | cases h

@[simp] theorem endp?_setRange (r : EndpRef) : (cfg.setRange range side).endp? r = cfg.endp? r := by
  cases side <;> rfl

@[simp] theorem rtpEnd_setRange : (cfg.setRange range side).rtpEnd e = cfg.rtpEnd e := by
  rw [rtpEnd, endp?_setRange, rtpEnd]

@[simp] theorem range_modifyTrunk (g : MgcpTrunkConfig → MgcpTrunkConfig) (k : Nat) :
    (cfg.modifyTrunk g k).range side = cfg.range side := by
  cases k <;> cases side <;> rfl

@[simp] theorem range_modifyEndp (r : EndpRef) (g : MgcpEndpoint → MgcpEndpoint) :
    (cfg.modifyEndp r g).range side = cfg.range side := range_modifyTrunk ..

@[simp] theorem range_modifyEnd : (cfg.modifyEnd e f).range side = cfg.range side := range_modifyTrunk ..

theorem setRange_setRange : (cfg.setRange range side).setRange range' side = cfg.setRange range' side := by
  cases side <;> rfl

theorem modifyEnd_setRange : (cfg.setRange range side).modifyEnd e f = (cfg.modifyEnd e f).setRange range side := by
  obtain ⟨⟨k, i⟩, s⟩ := e
  cases k <;> cases side <;> rfl

theorem modifyEnd_id : cfg.modifyEnd e (fun rtpEnd => rtpEnd) = cfg := by
  have hside : (fun endp : MgcpEndpoint => endp.setSide (endp.side e.side) e.side) = id := by
    funext endp
    cases e.side <;> rfl
  obtain ⟨⟨k, i⟩, s⟩ := e
  simp only [modifyEnd, hside, modifyEndp, modify_id]
  cases k with
  | zero => rfl
  | succ k =>
    show { cfg with trunks := cfg.trunks.modify k id } = cfg
    rw [modify_id]

theorem setRange_self : cfg.setRange (cfg.range side) side = cfg := by
  cases side <;> rfl

end

variable {cfg : MgcpConfig} {e : EndRef} {port : Nat}

/-- An end that has got a pair. -/
def taken (port : Nat) (e : MgcpRtpEnd) : MgcpRtpEnd := { bound port e with localAlloc := some .dynamic }

theorem pairFree_congr {cfg' : MgcpConfig} (h : ∀ e', e' ≠ e → cfg'.rtpEnd e' = cfg.rtpEnd e') :
    cfg'.PairFree e port ↔ cfg.PairFree e port := by
  constructor
  · intro hfree e' hee
    rw [← h e' hee]
    exact hfree e' hee
  · intro hfree e' hee
    rw [h e' hee]
    exact hfree e' hee

theorem allocAttempts_of_next (n : Nat) (he : (cfg.endp? e.endp).isSome)
    (hfree : cfg.PairFree e (cfg.range e.side).next) :
    allocAttempts e (n + 1) cfg =
      ((cfg.modifyEnd e (taken (cfg.range e.side).next)).setRange (cfg.range e.side).advance e.side, true) := by
  simp only [allocAttempts, intBind_of_free he hfree, if_true, modifyEnd_setRange, modifyEnd_modifyEnd]
  rfl

/-- **What the attempts of `allocate_port` do.** They end with the first free pair, or there is none among them. -/
theorem allocAttempts_cases (n : Nat) (he : (cfg.endp? e.endp).isSome) :
    (∃ port ∈ (cfg.range e.side).tries n, cfg.PairFree e port ∧ ∃ k,
      allocAttempts e n cfg =
        ((cfg.modifyEnd e (taken port)).setRange (advance^[k] (cfg.range e.side)) e.side, true)) ∨
    ((∀ port ∈ (cfg.range e.side).tries n, ¬ cfg.PairFree e port) ∧
      ∃ f, (f = (fun rtpEnd => rtpEnd) ∨ ∃ port, f = unbound port) ∧
      allocAttempts e n cfg =
        ((cfg.modifyEnd e f).setRange (advance^[n] (cfg.range e.side)) e.side, false)) := by
  induction n generalizing cfg with
  | zero =>
    refine .inr ⟨fun port hport => (not_mem_nil hport).elim, fun rtpEnd => rtpEnd, .inl rfl, ?_⟩
    simp [allocAttempts, modifyEnd_id, setRange_self]
  | succ n ih =>
    by_cases hfree : cfg.PairFree e (cfg.range e.side).next
    · exact .inl ⟨_, mem_cons_self, hfree, 1, allocAttempts_of_next n he hfree⟩
    · have hstep : allocAttempts e (n + 1) cfg = allocAttempts e n
          ((cfg.modifyEnd e (unbound (cfg.range e.side).next)).setRange (cfg.range e.side).advance e.side) := by
        simp only [allocAttempts, intBind_of_not_free he hfree]
        rfl
      have hothers : ∀ e', e' ≠ e →
          ((cfg.modifyEnd e (unbound (cfg.range e.side).next)).setRange (cfg.range e.side).advance e.side).rtpEnd e' =
            cfg.rtpEnd e' := by
        intro e' hee
        rw [rtpEnd_setRange, rtpEnd_modifyEnd_ne _ hee]
      have hrange : ((cfg.modifyEnd e (unbound (cfg.range e.side).next)).setRange
          (cfg.range e.side).advance e.side).range e.side = (cfg.range e.side).advance := by simp
      have hcases := @ih ((cfg.modifyEnd e (unbound (cfg.range e.side).next)).setRange
        (cfg.range e.side).advance e.side) (by simpa [modifyEnd] using he)
      rw [hrange] at hcases
      rcases hcases with ⟨port, hport, hfree', k, heq⟩ | ⟨hnone, f, hf, heq⟩
      · refine .inl ⟨port, mem_cons_of_mem _ hport, (pairFree_congr hothers).mp hfree', k + 1, ?_⟩
        rw [hstep, heq, modifyEnd_setRange, modifyEnd_modifyEnd, setRange_setRange]
        rfl
      · refine .inr ⟨?_, fun rtpEnd => f (unbound (cfg.range e.side).next rtpEnd), ?_, ?_⟩
        · intro port hport
          cases hport with
          | head => exact hfree
          | tail _ hport => exact fun hp => hnone port hport ((pairFree_congr hothers).mpr hp)
        · rcases hf with rfl | ⟨port, rfl⟩
          · exact .inr ⟨_, rfl⟩
          · exact .inr ⟨port, rfl⟩
        · rw [hstep, heq, modifyEnd_setRange, modifyEnd_modifyEnd, setRange_setRange]
          rfl

theorem allocatePort_of_next (he : (cfg.endp? e.endp).isSome) (hmode : (cfg.range e.side).mode = .dynamic)
    (hfree : cfg.PairFree e (cfg.range e.side).next) :
    cfg.allocatePort e =
      ((cfg.modifyEnd e (taken (cfg.range e.side).next)).setRange (cfg.range e.side).advance e.side, true) := by
  rw [allocatePort, if_neg (by simp [hmode])]
  exact allocAttempts_of_next 199 he hfree

end MgcpConfig

end OpenBsc.Mgcp
