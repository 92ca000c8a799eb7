import OpenBsc.Mgcp.RtpPatch

/-!
# `Mgcp.Types` — the media gateway's configuration and endpoints (`mgcp.h`, `mgcp_internal.h`)

A gateway has a virtual trunk and E1 trunks, each with an array of endpoints; an endpoint has four ends, each with a
pair of UDP sockets. Pointers to endpoints become `EndpRef`s: trunk 0 is the virtual trunk, trunk `k + 1` the `k`-th of
`cfg->trunks`. A socket is the port it is bound to. Statistics, taps and what only the log prints are left out.
-/

namespace OpenBsc.Mgcp

open List

/-! ## Data model -/

/-- `enum mgcp_connection_mode`. -/
inductive MgcpConnectionMode where
  | none
  | recvOnly
  | sendOnly
  | recvSend
  | loopback
  deriving DecidableEq

/-- `enum mgcp_trunk_type`. -/
inductive MgcpTrunkType where
  | virtual
  | e1
  deriving DecidableEq

/-- `PORT_ALLOC_STATIC` and `PORT_ALLOC_DYNAMIC`. -/
inductive PortAlloc where
  | static
  | dynamic
  deriving DecidableEq

/-- `struct mgcp_rtp_end`; `local_alloc` is -1 where nothing is allocated, and so are the descriptors of closed
    sockets. -/
structure MgcpRtpEnd where
  addr : BitVec 32 := 0
  rtpPort : Nat := 0
  rtcpPort : Nat := 0
  payloadType : Int := -1
  rtp : Option Nat := none
  rtcp : Option Nat := none
  localPort : Nat := 0
  localAlloc : Option PortAlloc := none
  deriving DecidableEq

/-- The four ends of an endpoint. -/
inductive EndpSide where
  | net
  | bts
  | transNet
  | transBts
  deriving DecidableEq

/-- `struct mgcp_endpoint`. -/
structure MgcpEndpoint where
  allocated : Bool := false
  ci : BitVec 32 := 0
  callid : Option (List Octet) := none
  localOptions : Option (List Octet) := none
  connMode : MgcpConnectionMode := .none
  origMode : MgcpConnectionMode := .none
  btsEnd : MgcpRtpEnd := {}
  netEnd : MgcpRtpEnd := {}
  transBts : MgcpRtpEnd := {}
  transNet : MgcpRtpEnd := {}
  isTranscoded : Bool := false
  netState : RtpState := {}
  btsState : RtpState := {}
  allowPatch : Bool := false
  deriving DecidableEq

/-- `CI_UNUSED`. -/
def ciUnused : BitVec 32 := 0

namespace MgcpEndpoint

/-- The end on one side. -/
def side (endp : MgcpEndpoint) : EndpSide → MgcpRtpEnd
  | .net => endp.netEnd
  | .bts => endp.btsEnd
  | .transNet => endp.transNet
  | .transBts => endp.transBts

/-- The endpoint with another end on one side. -/
def setSide (endp : MgcpEndpoint) (e : MgcpRtpEnd) : EndpSide → MgcpEndpoint
  | .net => { endp with netEnd := e }
  | .bts => { endp with btsEnd := e }
  | .transNet => { endp with transNet := e }
  | .transBts => { endp with transBts := e }

@[simp] theorem side_setSide (endp : MgcpEndpoint) (e : MgcpRtpEnd) (s s' : EndpSide) :
    (endp.setSide e s).side s' = if s' = s then e else endp.side s' := by
  cases s <;> cases s' <;> rfl

@[simp] theorem side_default (s : EndpSide) : ({} : MgcpEndpoint).side s = {} := by
  cases s <;> rfl

end MgcpEndpoint

/-- `struct mgcp_port_range`. -/
structure MgcpPortRange where
  mode : PortAlloc := .static
  basePort : Nat := 0
  rangeStart : Nat := 0
  rangeEnd : Nat := 0
  lastPort : Nat := 0
  deriving DecidableEq

/-- `struct mgcp_trunk_config`. -/
structure MgcpTrunkConfig where
  trunkNr : Int
  trunkType : MgcpTrunkType
  audioName : List Octet
  audioPayload : Int
  forceRealloc : Bool
  numberEndpoints : Nat
  endpoints : List MgcpEndpoint
  deriving DecidableEq

/-- `struct mgcp_config`. `resetCb`: the callback for RSIP is the one that resets the endpoints of the trunk. -/
structure MgcpConfig where
  localIp : Option (List Octet)
  sourceAddr : List Octet
  transcoderIp : Option (List Octet)
  transcoderRemoteBase : Nat
  btsPorts : MgcpPortRange
  netPorts : MgcpPortRange
  transcoderPorts : MgcpPortRange
  lastNetPort : Nat
  lastBtsPort : Nat
  resetCb : Bool
  lastCallId : BitVec 32
  trunk : MgcpTrunkConfig
  trunks : List MgcpTrunkConfig
  deriving DecidableEq

/-! ## Access -/

/-- A pointer to an endpoint. -/
structure EndpRef where
  trunk : Nat
  nr : Nat
  deriving DecidableEq

/-- A pointer to an end of an endpoint. -/
structure EndRef where
  endp : EndpRef
  side : EndpSide
  deriving DecidableEq

namespace MgcpConfig

/-- The trunk with an index. -/
def trunk? (cfg : MgcpConfig) : Nat → Option MgcpTrunkConfig
  | 0 => some cfg.trunk
  | k + 1 => cfg.trunks[k]?

/-- A trunk is changed by `f`. -/
def modifyTrunk (cfg : MgcpConfig) (f : MgcpTrunkConfig → MgcpTrunkConfig) : Nat → MgcpConfig
  | 0 => { cfg with trunk := f cfg.trunk }
  | k + 1 => { cfg with trunks := cfg.trunks.modify k f }

/-- What the pointer points to. -/
def endp? (cfg : MgcpConfig) (r : EndpRef) : Option MgcpEndpoint :=
  (cfg.trunk? r.trunk).bind fun tcfg => tcfg.endpoints[r.nr]?

/-- The endpoint behind the pointer is changed by `f`. -/
def modifyEndp (cfg : MgcpConfig) (r : EndpRef) (f : MgcpEndpoint → MgcpEndpoint) : MgcpConfig :=
  cfg.modifyTrunk (fun tcfg => { tcfg with endpoints := tcfg.endpoints.modify r.nr f }) r.trunk

/-- The end behind the pointer; where there is no endpoint, one without sockets. -/
def rtpEnd (cfg : MgcpConfig) (e : EndRef) : MgcpRtpEnd := ((cfg.endp? e.endp).getD {}).side e.side

/-- The end behind the pointer is changed by `f`. -/
def modifyEnd (cfg : MgcpConfig) (e : EndRef) (f : MgcpRtpEnd → MgcpRtpEnd) : MgcpConfig :=
  cfg.modifyEndp e.endp fun endp => endp.setSide (f (endp.side e.side)) e.side

/-- All endpoints of a gateway. -/
def endpRefs (cfg : MgcpConfig) : List EndpRef :=
  (List.range (cfg.trunks.length + 1)).flatMap fun k =>
    (List.range (((cfg.trunk? k).map fun tcfg => tcfg.endpoints.length).getD 0)).map (EndpRef.mk k)

theorem trunk?_modifyTrunk (cfg : MgcpConfig) (f : MgcpTrunkConfig → MgcpTrunkConfig) (k j : Nat) :
    (cfg.modifyTrunk f k).trunk? j = if j = k then (cfg.trunk? j).map f else cfg.trunk? j := by
  cases k with
  | zero => cases j <;> simp [modifyTrunk, trunk?]
  | succ k =>
    cases j with
    | zero => simp [modifyTrunk, trunk?]
    | succ j =>
      by_cases hjk : j = k
      · simp [modifyTrunk, trunk?, hjk]
      · simp [modifyTrunk, trunk?, hjk, Ne.symm hjk]

@[simp] theorem endp?_modifyEndp (cfg : MgcpConfig) (r r' : EndpRef) (f : MgcpEndpoint → MgcpEndpoint) :
    (cfg.modifyEndp r f).endp? r' = if r' = r then (cfg.endp? r').map f else cfg.endp? r' := by
  obtain ⟨k, i⟩ := r
  obtain ⟨k', i'⟩ := r'
  simp only [modifyEndp, endp?, trunk?_modifyTrunk, EndpRef.mk.injEq]
  by_cases hk : k' = k
  · subst hk
    cases cfg.trunk? k' with
    | none => simp
    | some tcfg =>
      by_cases hi : i' = i
      · simp [hi]
      · simp [hi, Ne.symm hi]
  · simp [hk]

variable {cfg : MgcpConfig}

theorem mem_endpRefs {r : EndpRef} : r ∈ cfg.endpRefs ↔ (cfg.endp? r).isSome := by
  obtain ⟨k, i⟩ := r
  simp only [endpRefs, mem_flatMap, mem_range, mem_map, EndpRef.mk.injEq, endp?]
  constructor
  · rintro ⟨k', _, i', hi, rfl, rfl⟩
    cases ht : cfg.trunk? k' with
    | none => simp [ht] at hi
    | some tcfg =>
      rw [ht] at hi
      simpa using hi
  · intro h
    cases ht : cfg.trunk? k with
    | none => simp [ht] at h
    | some tcfg =>
      refine ⟨k, ?_, i, by simpa [ht] using h, rfl, rfl⟩
      cases k with
      | zero => omega
      | succ k =>
        have hk := (List.getElem?_eq_some_iff.mp ht).1
        omega

theorem rtpEnd_of_none {e : EndRef} (h : cfg.endp? e.endp = none) : cfg.rtpEnd e = {} := by
  rw [rtpEnd, h]
  exact MgcpEndpoint.side_default e.side

theorem rtpEnd_modifyEnd_self {e : EndRef} (f : MgcpRtpEnd → MgcpRtpEnd) (h : (cfg.endp? e.endp).isSome) :
    (cfg.modifyEnd e f).rtpEnd e = f (cfg.rtpEnd e) := by
  obtain ⟨endp, hendp⟩ := Option.isSome_iff_exists.mp h
  simp [rtpEnd, modifyEnd, hendp]

theorem rtpEnd_modifyEnd_ne {e e' : EndRef} (f : MgcpRtpEnd → MgcpRtpEnd) (h : e' ≠ e) :
    (cfg.modifyEnd e f).rtpEnd e' = cfg.rtpEnd e' := by
  obtain ⟨r, s⟩ := e
  obtain ⟨r', s'⟩ := e'
  by_cases hr : r' = r
  · subst hr
    have hs : s' ≠ s := fun hs => h (by rw [hs])
    cases hendp : cfg.endp? r' with
    | none => simp [rtpEnd, modifyEnd, hendp]
    | some endp => simp [rtpEnd, modifyEnd, hendp, hs]
  · simp [rtpEnd, modifyEnd, hr]

theorem modifyTrunk_modifyTrunk (cfg : MgcpConfig) (f g : MgcpTrunkConfig → MgcpTrunkConfig) (k : Nat) :
    (cfg.modifyTrunk f k).modifyTrunk g k = cfg.modifyTrunk (fun tcfg => g (f tcfg)) k := by
  cases k with
  | zero => rfl
  | succ k =>
    simp only [modifyTrunk, modify_modify_eq]
    rfl

theorem modifyEndp_modifyEndp (cfg : MgcpConfig) (r : EndpRef) (f g : MgcpEndpoint → MgcpEndpoint) :
    (cfg.modifyEndp r f).modifyEndp r g = cfg.modifyEndp r fun endp => g (f endp) := by
  simp only [modifyEndp, modifyTrunk_modifyTrunk, modify_modify_eq]
  rfl

theorem modifyEnd_modifyEnd (cfg : MgcpConfig) (e : EndRef) (f g : MgcpRtpEnd → MgcpRtpEnd) :
    (cfg.modifyEnd e f).modifyEnd e g = cfg.modifyEnd e fun rtpEnd => g (f rtpEnd) := by
  have hside : ∀ (endp : MgcpEndpoint) (a b : MgcpRtpEnd),
      (endp.setSide a e.side).setSide b e.side = endp.setSide b e.side := by
    intro endp a b
    cases e.side <;> rfl
  simp only [modifyEnd, modifyEndp_modifyEndp, MgcpEndpoint.side_setSide, if_true, hside]

/-- Only what `f` does to the endpoint behind the pointer matters. -/
theorem modifyEndp_congr {r : EndpRef} {f g : MgcpEndpoint → MgcpEndpoint}
    (hfg : ∀ endp, cfg.endp? r = some endp → f endp = g endp) : cfg.modifyEndp r f = cfg.modifyEndp r g := by
  have hmodify : ∀ tcfg, cfg.trunk? r.trunk = some tcfg →
      tcfg.endpoints.modify r.nr f = tcfg.endpoints.modify r.nr g := by
    intro tcfg ht
    refine ext_getElem? fun i => ?_
    by_cases hi : i = r.nr
    · subst hi
      cases hendp : tcfg.endpoints[r.nr]? with
      | none => simp [hendp]
      | some endp => simp [hendp, hfg endp (by simp [endp?, ht, hendp])]
    · simp [Ne.symm hi]
  obtain ⟨k, i⟩ := r
  cases k with
  | zero =>
    have h := hmodify cfg.trunk rfl
    simp only at h
    simp only [modifyEndp, modifyTrunk, h]
  | succ k =>
    have h : cfg.trunks.modify k (fun tcfg => { tcfg with endpoints := tcfg.endpoints.modify i f }) =
        cfg.trunks.modify k (fun tcfg => { tcfg with endpoints := tcfg.endpoints.modify i g }) := by
      refine ext_getElem? fun j => ?_
      by_cases hj : j = k
      · subst hj
        cases ht : cfg.trunks[j]? with
        | none => simp [ht]
        | some tcfg =>
          have htcfg := hmodify tcfg (by simpa [trunk?] using ht)
          simp only at htcfg
          simp [ht, htcfg]
      · simp [Ne.symm hj]
    simp only [modifyEndp, modifyTrunk, h]

theorem modifyEnd_congr {e : EndRef} {f g : MgcpRtpEnd → MgcpRtpEnd} (hfg : f (cfg.rtpEnd e) = g (cfg.rtpEnd e)) :
    cfg.modifyEnd e f = cfg.modifyEnd e g := by
  refine modifyEndp_congr fun endp hendp => ?_
  rw [rtpEnd, hendp] at hfg
  simp only [Option.getD_some] at hfg
  rw [hfg]

@[simp] theorem isSome_endp?_modifyEndp (cfg : MgcpConfig) (r r' : EndpRef) (f : MgcpEndpoint → MgcpEndpoint) :
    ((cfg.modifyEndp r f).endp? r').isSome = (cfg.endp? r').isSome := by
  rw [endp?_modifyEndp]
  split <;> simp

end MgcpConfig

end OpenBsc.Mgcp
