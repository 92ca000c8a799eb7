import OpenBsc.Mgcp.Protocol
import OpenBsc.Mgcp.PortRuns
import Mathlib.Data.List.Perm.Subperm
import Mathlib.Data.List.Nodup
import Mathlib.Logic.Function.Iterate

/-!
# `Mgcp.Lifecycle` — endpoints over whole runs

What matters of an endpoint here is its *life*: whether it is allocated, its connection identifier and its call id. A
step frees endpoints, or it gives one a new life; allocating ports, answering and modifying change none. From that an
endpoint is allocated exactly when it has an identifier and a call id, and two endpoints of the virtual trunk have
different ones. `generate_call_id` looks at no endpoint of another trunk, so over all trunks the identifiers differ in
the runs in which none of these holds the one that is handed out.
-/

namespace OpenBsc.Mgcp

open Transition MgcpConfig MgcpEndpoint List

/-! ## Lives -/

/-- What is kept here of an endpoint. -/
structure Life where
  allocated : Bool
  ci : BitVec 32
  callid : Option (List Octet)
  deriving DecidableEq

/-- The life of an endpoint. -/
def MgcpEndpoint.life (endp : MgcpEndpoint) : Life := ⟨endp.allocated, endp.ci, endp.callid⟩

/-- The life of an endpoint that is free. -/
def Life.idle : Life := ⟨false, ciUnused, none⟩

variable {life : Life}

namespace MgcpConfig

/-- The life of the endpoint behind the pointer. -/
def life? (cfg : MgcpConfig) (r : EndpRef) : Option Life := (cfg.endp? r).map MgcpEndpoint.life

variable {cfg cfg' cfg'' : MgcpConfig} {r r' : EndpRef} {e : EndRef}

theorem life?_eq_some : cfg.life? r = some life ↔ ∃ endp, cfg.endp? r = some endp ∧ endp.life = life := by
  simp [life?]

variable (f : MgcpEndpoint → MgcpEndpoint) (port n : Nat)

theorem life?_modifyEndp :
    (cfg.modifyEndp r f).life? r' = if r' = r then (cfg.endp? r').map fun endp => (f endp).life else cfg.life? r' := by
  unfold life?
  rw [endp?_modifyEndp]
  split <;> simp [Function.comp_def]

/-- No life is changed, nor what the next identifier is. -/
structure SameLives (cfg cfg' : MgcpConfig) : Prop where
  life : ∀ r, cfg'.life? r = cfg.life? r
  lastCallId : cfg'.lastCallId = cfg.lastCallId

theorem SameLives.refl (cfg : MgcpConfig) : SameLives cfg cfg := ⟨fun _ => rfl, rfl⟩

theorem SameLives.trans (h : SameLives cfg cfg') (h' : SameLives cfg' cfg'') : SameLives cfg cfg'' :=
  ⟨fun r => (h'.life r).trans (h.life r), h'.lastCallId.trans h.lastCallId⟩

theorem lastCallId_modifyEndp : (cfg.modifyEndp r f).lastCallId = cfg.lastCallId := by
  obtain ⟨k, i⟩ := r
  cases k <;> rfl

/-- What changes no life of an endpoint changes none of the gateway. -/
theorem sameLives_modifyEndp {f : MgcpEndpoint → MgcpEndpoint}
    (hf : ∀ endp, cfg.endp? r = some endp → (f endp).life = endp.life) : SameLives cfg (cfg.modifyEndp r f) := by
  refine ⟨fun r' => ?_, lastCallId_modifyEndp f⟩
  rw [life?_modifyEndp]
  by_cases hr : r' = r
  · subst hr
    rw [if_pos rfl, life?]
    cases hendp : cfg.endp? r' with
    | none => rfl
    | some endp => simp [hf endp hendp]
  · rw [if_neg hr]

/-- What allocating ports consists of: changes of the endpoint that leave it its life and its mode, and of the
    ranges. -/
inductive PortOp (r : EndpRef) : MgcpConfig → MgcpConfig → Prop where
  | endp {cfg : MgcpConfig} (f : MgcpEndpoint → MgcpEndpoint)
      (hf : ∀ endp, (f endp).life = endp.life ∧ (f endp).origMode = endp.origMode) : PortOp r cfg (cfg.modifyEndp r f)
  | range {cfg : MgcpConfig} (range : MgcpPortRange) (side : EndpSide) : PortOp r cfg (cfg.setRange range side)

abbrev PortOps (r : EndpRef) : MgcpConfig → MgcpConfig → Prop := Relation.ReflTransGen (PortOp r)

section

variable (he : e.endp = r)

include he

theorem portOps_modifyEnd (f : MgcpRtpEnd → MgcpRtpEnd) : PortOps r cfg (cfg.modifyEnd e f) := by
  subst he
  refine .single (.endp _ fun endp => ?_)
  cases e.side <;> exact ⟨rfl, rfl⟩

theorem portOps_bindRtp : PortOps r cfg (cfg.bindRtp e).1 := by
  unfold bindRtp
  dsimp only
  split
  · exact .refl
  · split
    all_goals
      dsimp only
      exact (portOps_modifyEnd he _).trans (portOps_modifyEnd he _)

theorem portOps_intBind : PortOps r cfg (cfg.intBind e port).1 := by
  rw [intBind_unbound]
  exact (portOps_modifyEnd he _).trans (portOps_bindRtp he)

theorem portOps_allocAttempts : PortOps r cfg (allocAttempts e n cfg).1 := by
  induction n generalizing cfg with
  | zero => exact .refl
  | succ n ih =>
    have hbind : PortOps r cfg ((cfg.intBind e (cfg.range e.side).next).1.setRange (cfg.range e.side).advance e.side) :=
      (portOps_intBind _ he).tail (.range _ _)
    simp only [allocAttempts]
    split
    · dsimp only
      exact hbind.trans (portOps_modifyEnd he _)
    · exact hbind.trans ih

theorem portOps_allocatePort : PortOps r cfg (cfg.allocatePort e).1 := by
  unfold allocatePort
  split
  · dsimp only
    exact portOps_modifyEnd he _
  · exact portOps_allocAttempts 200 he

end

theorem portOps_resetEnds {ends : List EndRef} (h : ∀ e ∈ ends, e.endp = r) : PortOps r cfg (cfg.resetEnds ends) := by
  induction ends generalizing cfg with
  | nil => exact .refl
  | cons e ends ih =>
    exact (portOps_modifyEnd (h e mem_cons_self) _).trans (ih fun e' he' => h e' (mem_cons_of_mem _ he'))

theorem portOps_allocateSides (sides : List EndpSide) {done : List EndRef} (h : ∀ e ∈ done, e.endp = r) :
    PortOps r cfg (allocateSides r sides done cfg).1 := by
  induction sides generalizing cfg done with
  | nil => exact .refl
  | cons side sides ih =>
    have hport : PortOps r cfg (cfg.allocatePort ⟨r, side⟩).1 := portOps_allocatePort rfl
    simp only [allocateSides]
    split
    · refine hport.trans (ih fun e he => ?_)
      rcases mem_append.mp he with hdone | hnew
      · exact h e hdone
      · rw [mem_singleton.mp hnew]
    · exact hport.trans (portOps_resetEnds h)

/-- **Allocating ports** is a chain of these. -/
theorem portOps_allocatePorts : PortOps r cfg (cfg.allocatePorts r).1 := by
  have hsides : PortOps r cfg (allocateSides r (cfg.sidesOf r) [] cfg).1 :=
    portOps_allocateSides _ fun e he => absurd he not_mem_nil
  unfold allocatePorts
  dsimp only
  split
  · exact hsides.tail (.endp _ fun _ => ⟨rfl, rfl⟩)
  · exact hsides

theorem PortOps.sameLives (h : PortOps r cfg cfg') : SameLives cfg cfg' := by
  refine closure_preserves (I := SameLives cfg) (fun a b hsame hop => hsame.trans ?_) h (.refl cfg)
  cases hop with
  | endp f hf => exact sameLives_modifyEndp fun endp _ => (hf endp).1
  | range range side => cases side <;> exact ⟨fun _ => rfl, rfl⟩

/-- The life of the endpoint behind the pointer, and the mode it goes back to. -/
def call? (cfg : MgcpConfig) (r : EndpRef) : Option (Life × MgcpConnectionMode) :=
  (cfg.endp? r).map fun endp => (endp.life, endp.origMode)

theorem PortOps.call? (h : PortOps r cfg cfg') (r' : EndpRef) : cfg'.call? r' = cfg.call? r' := by
  refine closure_preserves (I := fun c => c.call? r' = cfg.call? r') (fun a b hsame hop => Eq.trans ?_ hsame) h rfl
  unfold MgcpConfig.call?
  cases hop with
  | endp f hf =>
    rw [endp?_modifyEndp]
    split
    · next heq =>
        rw [heq, Option.map_map]
        exact Option.map_congr fun endp _ => Prod.ext (hf endp).1 (hf endp).2
    · rfl
  | range range side => rw [endp?_setRange]

theorem sameLives_allocatePorts : SameLives cfg (cfg.allocatePorts r).1 := PortOps.sameLives portOps_allocatePorts

theorem sameLives_clearPeers (mode : MgcpConnectionMode) : SameLives cfg (cfg.clearPeers r mode) :=
  sameLives_modifyEndp fun _ _ => rfl

theorem sameLives_createTranscoder : SameLives cfg (cfg.createTranscoder r) := by
  refine sameLives_modifyEndp fun endp _ => ?_
  split <;> rfl

theorem life?_mgcpFreeEndp :
    (cfg.mgcpFreeEndp r).life? r' = if r' = r then (cfg.life? r').map fun _ => Life.idle else cfg.life? r' := by
  rw [mgcpFreeEndp, life?_modifyEndp]
  split
  · rw [life?, Option.map_map]
    rfl
  · rfl

/-! ## Identifiers -/

theorem nextCallId_ne (id : BitVec 32) : nextCallId id ≠ ciUnused := by
  unfold nextCallId
  split
  · next h =>
      rw [h]
      decide
  · assumption

variable {id : BitVec 32}

theorem searchCallId_spec {inUse : BitVec 32 → Bool} {n : Nat} {found : BitVec 32}
    (h : searchCallId inUse n id = some found) : found ≠ ciUnused ∧ inUse found = false := by
  induction n generalizing id with
  | zero => cases h
  | succ n ih =>
    simp only [searchCallId] at h
    split at h
    case isTrue => exact ih h
    case isFalse hfree =>
      cases h
      exact ⟨nextCallId_ne id, by simpa using hfree⟩

theorem callIdInUse_iff : cfg.callIdInUse id ↔ ∃ i, 1 ≤ i ∧ ∃ life, cfg.life? ⟨0, i⟩ = some life ∧ life.ci = id := by
  simp only [callIdInUse, any_eq_true, decide_eq_true_eq, mem_iff_getElem?, getElem?_drop]
  constructor
  · rintro ⟨endp, ⟨i, hi⟩, hci⟩
    exact ⟨1 + i, by omega, endp.life, life?_eq_some.mpr ⟨endp, hi, rfl⟩, hci⟩
  · rintro ⟨i, hi, life, hlife, hci⟩
    obtain ⟨endp, hendp, rfl⟩ := life?_eq_some.mp hlife
    refine ⟨endp, ⟨i - 1, ?_⟩, hci⟩
    rw [Nat.add_sub_cancel' hi]
    exact hendp

/-- **What `generate_call_id` yields**: no endpoint of the virtual trunk has it, except perhaps the first. -/
theorem generateCallId_spec (h : cfg.generateCallId ≠ ciUnused) {i : Nat} (hi : 1 ≤ i)
    (hlife : cfg.life? ⟨0, i⟩ = some life) : life.ci ≠ cfg.generateCallId := by
  unfold generateCallId at h ⊢
  cases hsearch : searchCallId cfg.callIdInUse (cfg.trunk.endpoints.length + 1) cfg.lastCallId with
  | none => simp [hsearch] at h
  | some found =>
    intro hci
    have huse : cfg.callIdInUse found := callIdInUse_iff.mpr ⟨i, hi, life, hlife, hci⟩
    rw [(searchCallId_spec hsearch).2] at huse
    cases huse

/-- Identifiers come round after all that are not `CI_UNUSED`. -/
theorem toNat_iterate_nextCallId (h : id ≠ ciUnused) (k : Nat) :
    (nextCallId^[k] id).toNat = (id.toNat - 1 + k) % (2 ^ 32 - 1) + 1 := by
  have hpos : id.toNat ≠ 0 := fun hid => h (BitVec.eq_of_toNat_eq hid)
  induction k with
  | zero =>
    have hlt := id.isLt
    simp only [Function.iterate_zero, id_eq]
    omega
  | succ k ih =>
    rw [Function.iterate_succ_apply', nextCallId]
    generalize nextCallId^[k] id = x at ih ⊢
    have hzero : (0 : BitVec 32).toNat = 0 := rfl
    have hone : (1 : BitVec 32).toNat = 1 := rfl
    by_cases hwrap : x + 1 = ciUnused
    · have hnat := congrArg BitVec.toNat hwrap
      rw [if_pos hwrap, hwrap]
      simp only [ciUnused, BitVec.toNat_add] at hnat ⊢
      omega
    · have hnat : (x + 1).toNat ≠ 0 := fun hid => hwrap (BitVec.eq_of_toNat_eq hid)
      rw [if_neg hwrap]
      simp only [BitVec.toNat_add] at hnat ⊢
      omega

theorem inUse_of_searchCallId {inUse : BitVec 32 → Bool} {n : Nat} (h : searchCallId inUse n id = none) {k : Nat}
    (hk : k < n) : inUse (nextCallId^[k] (nextCallId id)) := by
  induction n generalizing id k with
  | zero => omega
  | succ n ih =>
    simp only [searchCallId] at h
    split at h
    case isFalse => cases h
    case isTrue huse =>
      cases k with
      | zero => exact huse
      | succ k =>
        rw [Function.iterate_succ_apply]
        exact ih h (by omega)

/-- **One attempt more than there are endpoints is enough**, as long as there are fewer endpoints than identifiers. -/
theorem generateCallId_ne (h : cfg.trunk.endpoints.length < 2 ^ 32 - 1) : cfg.generateCallId ≠ ciUnused := by
  unfold generateCallId
  cases hsearch : searchCallId cfg.callIdInUse (cfg.trunk.endpoints.length + 1) cfg.lastCallId with
  | some found => exact (searchCallId_spec hsearch).1
  | none =>
    -- otherwise all the values tried are identifiers of endpoints, which are too few
    exfalso
    let tried := (List.range (cfg.trunk.endpoints.length + 1)).map fun k => nextCallId^[k] (nextCallId cfg.lastCallId)
    have hnodup : tried.Nodup := by
      refine List.Nodup.map_on (fun j hj k hk heq => ?_) List.nodup_range
      rw [List.mem_range] at hj hk
      have hnat := congrArg BitVec.toNat heq
      rw [toNat_iterate_nextCallId (nextCallId_ne _), toNat_iterate_nextCallId (nextCallId_ne _)] at hnat
      omega
    have hsub : tried ⊆ cfg.trunk.endpoints.map (·.ci) := by
      intro id hid
      obtain ⟨k, hk, rfl⟩ := List.mem_map.mp hid
      obtain ⟨endp, hendp, hci⟩ := List.any_eq_true.mp (inUse_of_searchCallId hsearch (List.mem_range.mp hk))
      exact List.mem_map.mpr ⟨endp, List.mem_of_mem_drop hendp, by simpa using hci⟩
    have hlen := (hnodup.subperm hsub).length_le
    simp only [tried, List.length_map, List.length_range] at hlen
    omega

/-- Only the identifiers of the endpoints and the last one handed out matter. -/
theorem generateCallId_congr (hci : ∀ i, (cfg'.life? ⟨0, i⟩).map Life.ci = (cfg.life? ⟨0, i⟩).map Life.ci)
    (hlast : cfg'.lastCallId = cfg.lastCallId) : cfg'.generateCallId = cfg.generateCallId := by
  have hcis : cfg'.trunk.endpoints.map (·.ci) = cfg.trunk.endpoints.map (·.ci) := by
    refine ext_getElem? fun i => ?_
    have h := hci i
    simp only [life?, Option.map_map] at h
    rw [getElem?_map, getElem?_map]
    exact h
  have hlen : cfg'.trunk.endpoints.length = cfg.trunk.endpoints.length := by
    have h := congrArg length hcis
    rwa [length_map, length_map] at h
  have huse : ∀ c : MgcpConfig, c.callIdInUse = fun id => ((c.trunk.endpoints.map (·.ci)).drop 1).any (· = id) := by
    intro c
    funext id
    rw [callIdInUse, ← map_drop, any_map]
    rfl
  rw [generateCallId, generateCallId, huse cfg', huse cfg, hcis, hlen, hlast]

theorem SameLives.generateCallId (h : SameLives cfg cfg') : cfg'.generateCallId = cfg.generateCallId :=
  generateCallId_congr (fun i => by rw [h.life]) h.lastCallId

/-! ## Steps -/

end MgcpConfig

/-- What happens to the gateway: a message arrives and `policy_cb` would answer so, or an endpoint is freed. -/
inductive MgcpEvent where
  | message (msg : List Octet) (policy : Option MgcpPolicy)
  | freeEndp (r : EndpRef)

namespace MgcpConfig

variable {cfg cfg' cfg'' : MgcpConfig} {r r' : EndpRef}

/-- What an event does. -/
def step (cfg : MgcpConfig) : MgcpEvent → MgcpConfig
  | .message msg policy => (cfg.mgcpHandleMessage msg policy).1
  | .freeEndp r => cfg.freeEndpCmd r

/-- The endpoint that a CRCX names. -/
def creates (cfg : MgcpConfig) : MgcpEvent → Option EndpRef
  | .message msg _ => if msg.take 4 = octets "CRCX" then (mgcpAnalyzeHeader cfg (msg.drop 4)).endp else none
  | .freeEndp _ => none

/-- The endpoint named by a request exists, and is not the first one of its trunk. -/
theorem findEndpoint_some {mgcp : List Octet} (h : cfg.findEndpoint mgcp = some r) :
    1 ≤ r.nr ∧ (cfg.endp? r).isSome := by
  unfold findEndpoint at h
  split at h
  case isTrue =>
    unfold findE1Endpoint at h
    dsimp only at h
    split at h
    · cases h
    · split at h
      · cases h
      · split at h
        · cases h
        · cases hk : cfg.mgcpTrunkNum (toInt32 (strtoul 10 (mgcp.drop 6)).1) with
          | none => simp [hk] at h
          | some k =>
            simp only [hk] at h
            split at h
            · cases h
            · next hnr =>
                cases h
                refine ⟨by simp only; omega, ?_⟩
                cases ht : cfg.trunk? k with
                | none => simp [ht] at hnr
                | some tcfg =>
                  rw [ht] at hnr
                  simp only [Option.map_some, Option.getD_some] at hnr
                  simp only [endp?, ht, Option.bind_some]
                  rw [getElem?_eq_getElem (by omega)]
                  rfl
  case isFalse =>
    dsimp only at h
    split at h
    · next hnr =>
        cases h
        refine ⟨hnr.1, ?_⟩
        simp only [endp?, trunk?, Option.bind_some]
        rw [getElem?_eq_getElem hnr.2.1]
        rfl
    · cases h

theorem mgcpAnalyzeHeader_some {l3h : List Octet} (h : (mgcpAnalyzeHeader cfg l3h).endp = some r) :
    1 ≤ r.nr ∧ (cfg.endp? r).isSome := by
  unfold mgcpAnalyzeHeader at h
  split at h
  · dsimp only at h
    split at h
    · exact findEndpoint_some h
    · cases h
  · cases h

/-- Two configurations have the same names of endpoints. -/
structure SameNames (cfg cfg' : MgcpConfig) : Prop where
  count : cfg'.trunk.endpoints.length = cfg.trunk.endpoints.length
  trunks : cfg'.trunks.map (fun tcfg => (tcfg.trunkNr, tcfg.endpoints.length)) =
    cfg.trunks.map fun tcfg => (tcfg.trunkNr, tcfg.endpoints.length)

theorem SameNames.findEndpoint (h : SameNames cfg cfg') (name : List Octet) :
    cfg'.findEndpoint name = cfg.findEndpoint name := by
  have hnum : ∀ nr, cfg'.mgcpTrunkNum nr = cfg.mgcpTrunkNum nr := by
    intro nr
    have hidx : ∀ c : MgcpConfig, c.mgcpTrunkNum nr =
        ((c.trunks.map fun tcfg => (tcfg.trunkNr, tcfg.endpoints.length)).findIdx? (·.1 = nr)).map (· + 1) := by
      intro c
      rw [findIdx?_map]
      rfl
    rw [hidx, hidx, h.trunks]
  have hcount : ∀ k, ((cfg'.trunk? k).map fun tcfg => tcfg.endpoints.length).getD 0 =
      ((cfg.trunk? k).map fun tcfg => tcfg.endpoints.length).getD 0 := by
    intro k
    cases k with
    | zero => exact h.count
    | succ k =>
      have hk := congrArg (fun l => (l[k]?).map Prod.snd) h.trunks
      simp only [getElem?_map, Option.map_map] at hk
      exact congrArg (fun o => o.getD 0) hk
  unfold MgcpConfig.findEndpoint
  split
  · unfold findE1Endpoint
    simp only [hnum, hcount]
  · rw [h.count]

theorem SameNames.header (h : SameNames cfg cfg') (l3h : List Octet) :
    mgcpAnalyzeHeader cfg' l3h = mgcpAnalyzeHeader cfg l3h := by
  unfold mgcpAnalyzeHeader
  simp only [h.findEndpoint]

theorem sameNames_modifyEndp (cfg : MgcpConfig) (r : EndpRef) (f : MgcpEndpoint → MgcpEndpoint) :
    SameNames cfg (cfg.modifyEndp r f) := by
  obtain ⟨k, i⟩ := r
  cases k with
  | zero => exact ⟨by simp [modifyEndp, modifyTrunk], rfl⟩
  | succ k =>
    refine ⟨rfl, ext_getElem? fun j => ?_⟩
    simp only [modifyEndp, modifyTrunk, getElem?_map, getElem?_modify]
    cases cfg.trunks[j]? with
    | none => rfl
    | some tcfg =>
      simp only [Option.map_some]
      split <;> simp

/-- All but the endpoint behind `r` have the life they had; that one, if there is one, has `life`. -/
def OnlyLife (cfg : MgcpConfig) (r : EndpRef) (life : Life) (cfg' : MgcpConfig) : Prop :=
  ∀ r', cfg'.life? r' = if r' = r then (cfg.life? r').map fun _ => life else cfg.life? r'

theorem onlyLife_mgcpFreeEndp : OnlyLife cfg r .idle (cfg.mgcpFreeEndp r) := fun _ => life?_mgcpFreeEndp

/-- A change of the endpoint that is overwritten afterwards does not matter. -/
theorem OnlyLife.after {life' : Life} (h : OnlyLife cfg r life cfg') (h' : OnlyLife cfg' r life' cfg'') :
    OnlyLife cfg r life' cfg'' := by
  intro r'
  rw [h' r', h r']
  split
  · rw [Option.map_map]
    rfl
  · rfl

theorem OnlyLife.same (h : OnlyLife cfg r life cfg') (h' : SameLives cfg' cfg'') : OnlyLife cfg r life cfg'' :=
  fun r' => (h'.life r').trans (h r')

variable (callid l3h : List Octet) (policy : Option MgcpPolicy)

theorem generateCallId_ports (localOptions : Option (List Octet)) (mode : MgcpConnectionMode) :
    (((cfg.copyParams r callid localOptions).clearPeers r mode).allocatePorts r).1.generateCallId =
      cfg.generateCallId := by
  rw [((sameLives_clearPeers mode).trans sameLives_allocatePorts).generateCallId]
  refine generateCallId_congr (fun i => ?_) (lastCallId_modifyEndp _)
  rw [copyParams, life?_modifyEndp]
  split
  · simp only [life?, Option.map_map]
    rfl
  · rfl

/-- The endpoint is free again, or has the next identifier. -/
theorem createOnFree_lives (trans callid mode : List Octet) (localOptions : Option (List Octet))
    (policy : Option MgcpPolicy) (hr : cfg.life? r = some .idle) :
    (OnlyLife cfg r .idle (cfg.createOnFree r trans callid mode localOptions policy).1 ∧
      ∃ code, (cfg.createOnFree r trans callid mode localOptions policy).2 = some (createErrResponse code trans)) ∨
    (cfg.generateCallId ≠ ciUnused ∧
      OnlyLife cfg r ⟨true, cfg.generateCallId, some callid⟩
        (cfg.createOnFree r trans callid mode localOptions policy).1 ∧
      ∀ resp, (cfg.createOnFree r trans callid mode localOptions policy).2 = some resp → resp.ok = true) := by
  have hcopy : OnlyLife cfg r ⟨false, ciUnused, some callid⟩ (cfg.copyParams r callid localOptions) := by
    intro r'
    rw [copyParams, life?_modifyEndp]
    split
    · next heq =>
        obtain ⟨endp, hendp, hlife⟩ := life?_eq_some.mp hr
        subst heq
        rw [life?, hendp]
        simp only [life, Life.idle, Life.mk.injEq] at hlife
        simp [life, hlife]
    · rfl
  cases hmode : parseConnMode mode with
  | none =>
    refine .inl ⟨?_, 517, by simp only [createOnFree, hmode]⟩
    simp only [createOnFree, hmode]
    exact hcopy.after onlyLife_mgcpFreeEndp
  | some connMode =>
    have hports := hcopy.same ((sameLives_clearPeers (r := r) connMode).trans (sameLives_allocatePorts (r := r)))
    have hnext := @generateCallId_ports cfg r callid localOptions connMode
    simp only [createOnFree, hmode]
    generalize ((cfg.copyParams r callid localOptions).clearPeers r connMode).allocatePorts r = ports
      at hports hnext ⊢
    by_cases hfail : ports.2
    · by_cases hid : ports.1.generateCallId = ciUnused
      · refine .inl ?_
        simp only [hfail, hid]
        exact ⟨hports.after onlyLife_mgcpFreeEndp, 400, rfl⟩
      · have hconnect : OnlyLife cfg r ⟨true, cfg.generateCallId, some callid⟩ (ports.1.connect r) := by
          intro r'
          have hself := hports r
          rw [if_pos rfl, hr] at hself
          obtain ⟨endp, hendp, hlife⟩ := life?_eq_some.mp hself
          simp only [life, Life.mk.injEq] at hlife
          rw [connect, hnext, life?_modifyEndp]
          split
          · next heq =>
              rw [heq, hr]
              show (ports.1.endp? r).map _ = _
              simp [hendp, life, hlife]
          · next hne =>
              show ports.1.life? r' = _
              rw [hports r', if_neg hne]
        simp only [hfail, hid]
        cases policy with
        | none =>
          refine .inr ⟨hnext ▸ hid, hconnect.same sameLives_createTranscoder, fun resp hresp => ?_⟩
          cases hresp
          rfl
        | some policy =>
          cases policy with
          | cont =>
            refine .inr ⟨hnext ▸ hid, hconnect.same sameLives_createTranscoder, fun resp hresp => ?_⟩
            cases hresp
            rfl
          | reject => exact .inl ⟨hconnect.after onlyLife_mgcpFreeEndp, 400, rfl⟩
          | defer =>
            refine .inr ⟨hnext ▸ hid, hconnect.same sameLives_createTranscoder, fun resp hresp => ?_⟩
            cases hresp
    · refine .inl ?_
      simp only [hfail]
      exact ⟨hports.after onlyLife_mgcpFreeEndp, 400, rfl⟩

/-- Each endpoint is free, or allocated with an identifier and a call id. -/
def Lively (cfg : MgcpConfig) : Prop :=
  ∀ r life, cfg.life? r = some life → life = .idle ∨ (life.allocated = true ∧ life.ci ≠ ciUnused ∧ life.callid.isSome)

theorem Lively.idle (h : Lively cfg) {endp : MgcpEndpoint} (hendp : cfg.endp? r = some endp)
    (hfree : endp.allocated = false) : cfg.life? r = some .idle := by
  have hlife : cfg.life? r = some endp.life := life?_eq_some.mpr ⟨endp, hendp, rfl⟩
  rcases h r endp.life hlife with hidle | ⟨hallocated, -⟩
  · rw [hlife, hidle]
  · rw [life, hfree] at hallocated
    cases hallocated

/-- Reallocation is forced on the trunk of the endpoint. -/
def forcesRealloc (cfg : MgcpConfig) (r : EndpRef) : Bool := ((cfg.trunk? r.trunk).map (·.forceRealloc)).getD false

/-- Freeing a free endpoint leaves the next identifier as it is. -/
theorem generateCallId_mgcpFreeEndp (hr : cfg.life? r = some .idle) :
    (cfg.mgcpFreeEndp r).generateCallId = cfg.generateCallId := by
  refine generateCallId_congr (fun i => ?_) (lastCallId_modifyEndp _)
  rw [life?_mgcpFreeEndp]
  split
  · next heq =>
      rw [heq, hr]
      rfl
  · rfl

/-- What a CRCX does to the endpoint it names: nothing, or it frees it, or it connects it. -/
inductive CreateStep (cfg : MgcpConfig) (r : EndpRef) : MgcpConfig × Option MgcpResponse → Prop where
  | same (answer : Option MgcpResponse) : CreateStep cfg r (cfg, answer)
  | freed {cfg' : MgcpConfig} (answer : Option MgcpResponse)
      (hforced : ∀ endp, cfg.endp? r = some endp → endp.allocated = true → cfg.forcesRealloc r = true)
      (hlife : OnlyLife cfg r .idle cfg') : CreateStep cfg r (cfg', answer)
  | connected {cfg' : MgcpConfig} {answer : Option MgcpResponse} (callid : List Octet)
      (hid : (cfg.mgcpFreeEndp r).generateCallId ≠ ciUnused)
      (hlife : OnlyLife cfg r ⟨true, (cfg.mgcpFreeEndp r).generateCallId, some callid⟩ cfg')
      (hok : ∀ resp, answer = some resp → resp.ok = true) : CreateStep cfg r (cfg', answer)

theorem createStep_createWith (h : Lively cfg) (hr : (cfg.endp? r).isSome) (trans : List Octet) (params : CreateParams)
    (policy : Option MgcpPolicy) : CreateStep cfg r (cfg.createWith r trans params policy) := by
  obtain ⟨endp, hendp⟩ := Option.isSome_iff_exists.mp hr
  cases hcallid : params.callid with
  | none =>
    simp only [createWith, hcallid]
    exact .same _
  | some callid =>
    cases hmode : params.mode with
    | none =>
      simp only [createWith, hcallid, hmode]
      exact .same _
    | some mode =>
      simp only [createWith, hcallid, hmode, hendp, Option.getD_some]
      by_cases hallocated : endp.allocated = true
      · rw [if_pos hallocated]
        split
        · exact .same _
        · split
          case isFalse => exact .same _
          case isTrue hforce =>
            have hidle : (cfg.mgcpFreeEndp r).life? r = some .idle := by
              rw [life?_mgcpFreeEndp, if_pos rfl, life?, hendp]
              rfl
            rcases createOnFree_lives trans callid mode params.localOptions policy hidle with
              ⟨hlife, -⟩ | ⟨hid, hlife, hok⟩
            · exact .freed _ (fun _ _ _ => hforce) (onlyLife_mgcpFreeEndp.after hlife)
            · exact .connected callid hid (onlyLife_mgcpFreeEndp.after hlife) hok
      · rw [if_neg hallocated]
        have hidle := h.idle hendp (by simpa using hallocated)
        rcases createOnFree_lives trans callid mode params.localOptions policy hidle with
          ⟨hlife, -⟩ | ⟨hid, hlife, hok⟩
        · refine .freed _ (fun endp' hendp' hallocated' => ?_) hlife
          rw [hendp] at hendp'
          cases hendp'
          exact absurd hallocated' hallocated
        · rw [← generateCallId_mgcpFreeEndp hidle] at hid hlife
          exact .connected callid hid hlife hok

/-- **What a CRCX does.** -/
theorem handleCreateCon_cases (h : Lively cfg) (l3h : List Octet) (policy : Option MgcpPolicy) :
    ((mgcpAnalyzeHeader cfg l3h).endp = none ∧ (cfg.handleCreateCon l3h policy).1 = cfg) ∨
    ∃ r, (mgcpAnalyzeHeader cfg l3h).endp = some r ∧ CreateStep cfg r (cfg.handleCreateCon l3h policy) := by
  unfold handleCreateCon
  dsimp only
  cases hr : (mgcpAnalyzeHeader cfg l3h).endp with
  | none => exact .inl ⟨rfl, rfl⟩
  | some r =>
    refine .inr ⟨r, rfl, ?_⟩
    rcases tokenize createLine 400 true [] {} (mgcpAnalyzeHeader cfg l3h).l3h with ⟨params, code⟩
    cases code with
    | some code => exact .same _
    | none => exact createStep_createWith h (mgcpAnalyzeHeader_some hr).2 _ _ _

/-- What a step can do to lives: free endpoints, or connect the one that is named. -/
inductive LifeStep (cfg : MgcpConfig) (named : Option EndpRef) (cfg' : MgcpConfig) : Prop where
  | freed (h : ∀ r, cfg'.life? r = cfg.life? r ∨ cfg'.life? r = some .idle)
  | connected (r : EndpRef) (callid : List Octet) (hnamed : named = some r) (hnr : 1 ≤ r.nr)
      (hid : (cfg.mgcpFreeEndp r).generateCallId ≠ ciUnused)
      (hlife : OnlyLife cfg r ⟨true, (cfg.mgcpFreeEndp r).generateCallId, some callid⟩ cfg')

variable {named : Option EndpRef}

theorem SameLives.lifeStep (h : SameLives cfg cfg') : LifeStep cfg named cfg' := .freed fun r => .inl (h.life r)

theorem OnlyLife.lifeStep (h : OnlyLife cfg r .idle cfg') : LifeStep cfg named cfg' := by
  refine .freed fun r' => ?_
  rw [h r']
  split
  · cases cfg.life? r' with
    | none => exact .inl rfl
    | some life => exact .inr rfl
  · exact .inl rfl

theorem lifeStep_handleCreateCon (h : Lively cfg) (l3h : List Octet) (policy : Option MgcpPolicy) :
    LifeStep cfg (mgcpAnalyzeHeader cfg l3h).endp (cfg.handleCreateCon l3h policy).1 := by
  rcases handleCreateCon_cases h l3h policy with ⟨-, heq⟩ | ⟨r, hr, hstep⟩
  · rw [heq]
    exact (SameLives.refl cfg).lifeStep
  · generalize cfg.handleCreateCon l3h policy = out at hstep ⊢
    cases hstep with
    | same => exact (SameLives.refl cfg).lifeStep
    | freed _ _ hlife => exact hlife.lifeStep
    | connected callid hid hlife _ => exact .connected r callid hr (mgcpAnalyzeHeader_some hr).1 hid hlife

/-- What every line keeps, the loop over the lines keeps. -/
theorem tokenize_preserves {σ : Type} {line : σ → List Octet → σ × Option Nat} {P : σ → Prop}
    (hline : ∀ s l, P s → P (line s l).1) (errorCode : Nat) (msg : List Octet) :
    ∀ (first : Bool) (cur : List Octet) (s : σ), P s → P (tokenize line errorCode first cur s msg).1 := by
  induction msg with
  | nil =>
    intro first cur s hs
    exact hs
  | cons o rest ih =>
    intro first cur s hs
    simp only [tokenize]
    split
    · split
      · exact ih _ _ _ hs
      · split
        · have hnext := hline s (chomp cur) hs
          generalize line s (chomp cur) = out at hnext ⊢
          obtain ⟨next, code⟩ := out
          cases code with
          | some code => exact hnext
          | none => exact ih _ _ _ hnext
        · exact hs
    · exact ih _ _ _ hs

theorem createLine_refusal (params : CreateParams) (cur : List Octet) : (createLine params cur).2 = none := by
  unfold createLine
  dsimp only
  repeat' split
  all_goals rfl

theorem life_modifyLine (s : MgcpEndpoint × Bool) (line : List Octet) : (modifyLine s line).1.1.life = s.1.life := by
  unfold modifyLine
  dsimp only
  repeat' split
  all_goals rfl

theorem sameLives_handleModifyCon :
    SameLives cfg (cfg.handleModifyCon l3h policy).1 := by
  unfold handleModifyCon
  dsimp only
  cases hr : (mgcpAnalyzeHeader cfg l3h).endp with
  | none => exact .refl cfg
  | some r =>
    dsimp only
    split
    · exact .refl cfg
    · have hlife := tokenize_preserves (P := fun s : MgcpEndpoint × Bool => s.1.life = ((cfg.endp? r).getD {}).life)
        (fun s line hs => (life_modifyLine s line).trans hs) 500 (mgcpAnalyzeHeader cfg l3h).l3h true []
        ((cfg.endp? r).getD {}, false) rfl
      have hsame : SameLives cfg (cfg.modifyEndp r fun _ =>
          (tokenize modifyLine 500 true [] ((cfg.endp? r).getD {}, false) (mgcpAnalyzeHeader cfg l3h).l3h).1.1) := by
        refine sameLives_modifyEndp fun endp hendp => ?_
        rw [hlife, hendp]
        rfl
      split
      · exact hsame
      · exact hsame

/-- A DLCX changes nothing, or frees an endpoint. -/
theorem handleDeleteCon_frees (l3h : List Octet) (policy : Option MgcpPolicy) :
    ∃ refs : List EndpRef, (cfg.handleDeleteCon l3h policy).1 = refs.foldl mgcpFreeEndp cfg := by
  unfold handleDeleteCon
  dsimp only
  cases (mgcpAnalyzeHeader cfg l3h).endp with
  | none => exact ⟨[], rfl⟩
  | some r =>
    dsimp only
    split
    · exact ⟨[], rfl⟩
    · split
      · exact ⟨[], rfl⟩
      · unfold deleted
        split
        · exact ⟨[], rfl⟩
        · exact ⟨[], rfl⟩
        · exact ⟨[r], rfl⟩

theorem lifeStep_foldl_mgcpFreeEndp (refs : List EndpRef) : LifeStep cfg named (refs.foldl mgcpFreeEndp cfg) := by
  have hfreed : ∀ r, (refs.foldl mgcpFreeEndp cfg).life? r = cfg.life? r ∨
      (refs.foldl mgcpFreeEndp cfg).life? r = some .idle := by
    induction refs generalizing cfg with
    | nil => exact fun r => .inl rfl
    | cons r refs ih =>
      intro r'
      have hfirst := @life?_mgcpFreeEndp cfg r r'
      rcases @ih (cfg.mgcpFreeEndp r) r' with hsame | hidle
      · rw [foldl_cons, hsame, hfirst]
        split
        · cases cfg.life? r' with
          | none => exact .inl rfl
          | some life => exact .inr rfl
        · exact .inl rfl
      · exact .inr hidle
  exact .freed hfreed

/-- What an event comes to: nothing, the work of a CRCX or an MDCX, or endpoints are freed. -/
inductive StepCase (cfg : MgcpConfig) : MgcpEvent → MgcpConfig → Prop where
  | same (ev : MgcpEvent) : StepCase cfg ev cfg
  | created {msg : List Octet} (policy : Option MgcpPolicy) (hverb : msg.take 4 = octets "CRCX") :
    StepCase cfg (.message msg policy) (cfg.handleCreateCon (msg.drop 4) policy).1
  | modified {msg : List Octet} (policy : Option MgcpPolicy) (hverb : msg.take 4 = octets "MDCX") :
    StepCase cfg (.message msg policy) (cfg.handleModifyCon (msg.drop 4) policy).1
  | freed (ev : MgcpEvent) (refs : List EndpRef) : StepCase cfg ev (refs.foldl mgcpFreeEndp cfg)

/-- **What an event comes to.** -/
theorem step_case (ev : MgcpEvent) : StepCase cfg ev (cfg.step ev) := by
  cases ev with
  | freeEndp r =>
    simp only [step, freeEndpCmd]
    split
    · exact .freed _ [r]
    · exact .same _
  | message msg policy =>
    simp only [step, mgcpHandleMessage]
    split
    · exact .same _
    split
    · exact .same _
    split
    · exact .same _
    split
    · next hverb => exact .created policy hverb
    split
    · obtain ⟨refs, hrefs⟩ := cfg.handleDeleteCon_frees (msg.drop 4) policy
      rw [hrefs]
      exact .freed _ refs
    split
    · next hverb => exact .modified policy hverb
    split
    · exact .same _
    split
    · unfold handleRsip
      split
      · exact .same _
      · split
        · exact .freed _ _
        · exact .same _
    · exact .same _

/-- **What an event does to lives.** -/
theorem lifeStep_step (h : Lively cfg) (ev : MgcpEvent) : LifeStep cfg (cfg.creates ev) (cfg.step ev) := by
  have hcase := cfg.step_case ev
  generalize cfg.step ev = cfg' at hcase ⊢
  cases hcase with
  | same => exact (SameLives.refl cfg).lifeStep
  | created policy hverb =>
    rw [creates, if_pos hverb]
    exact lifeStep_handleCreateCon h _ _
  | modified policy hverb => exact (sameLives_handleModifyCon _ _).lifeStep
  | freed _ refs => exact lifeStep_foldl_mgcpFreeEndp refs

end MgcpConfig

/-! ## Runs -/

/-- The gateway after its start with `cfg`. -/
def gateway (cfg : MgcpConfig) : System MgcpConfig MgcpEvent where
  init s := s = cfg
  step s ev s' := s' = s.step ev

variable {cfg s s' : MgcpConfig} {K : Nat → Prop}

/-- What every step keeps; the identifiers differ over the trunks in `K`. -/
structure EndpointsKept (K : Nat → Prop) (s : MgcpConfig) : Prop where
  lively : s.Lively
  first : ∀ k life, s.life? ⟨k, 0⟩ = some life → life = .idle
  apart : ∀ r r' life life', K r.trunk → K r'.trunk → r ≠ r' → s.life? r = some life → s.life? r' = some life' →
    life ≠ .idle → life' ≠ .idle → life.ci ≠ life'.ci

/-- No other endpoint of the trunks in `K`, the virtual one apart, has the identifier that `r` gets. -/
def IdFree (K : Nat → Prop) (s : MgcpConfig) (r : EndpRef) : Prop :=
  ∀ r' life, r' ≠ r → K r'.trunk → r'.trunk ≠ 0 → s.life? r' = some life → life.ci ≠ (s.mgcpFreeEndp r).generateCallId

theorem EndpointsKept.freed (h : EndpointsKept K s) (hlife : ∀ r, s'.life? r = s.life? r ∨ s'.life? r = some .idle) :
    EndpointsKept K s' := by
  have hback : ∀ r life, s'.life? r = some life → life ≠ .idle → s.life? r = some life := by
    intro r life hr hidle
    rcases hlife r with hsame | hfreed
    · rw [← hsame, hr]
    · rw [hr] at hfreed
      exact absurd (Option.some.inj hfreed) hidle
  refine ⟨fun r life hr => ?_, fun k life hk => ?_, fun r r' life life' hK hK' hne hr hr' hl hl' => ?_⟩
  · by_cases hidle : life = .idle
    · exact .inl hidle
    · exact h.lively r life (hback r life hr hidle)
  · by_contra hidle
    exact hidle (h.first k life (hback _ life hk hidle))
  · exact h.apart r r' life life' hK hK' hne (hback r life hr hl) (hback r' life' hr' hl') hl hl'

variable {r : EndpRef}

/-- What a new connection gets is held by no other endpoint. -/
theorem EndpointsKept.ci_ne (h : EndpointsKept K s) {r' : EndpRef} (hfree : IdFree K s r)
    (hid : (s.mgcpFreeEndp r).generateCallId ≠ ciUnused) (hne : r' ≠ r) (hK : K r'.trunk)
    (hr : s.life? r' = some life) (hidle : life ≠ .idle) : life.ci ≠ (s.mgcpFreeEndp r).generateCallId := by
  by_cases hvirtual : r'.trunk = 0
  · obtain ⟨k, i⟩ := r'
    simp only at hvirtual
    subst hvirtual
    have hi : 1 ≤ i := by
      rcases Nat.eq_zero_or_pos i with rfl | hi
      · exact absurd (h.first 0 life hr) hidle
      · exact hi
    refine generateCallId_spec hid hi ?_
    rw [life?_mgcpFreeEndp, if_neg hne]
    exact hr
  · exact hfree r' life hne hK hvirtual hr

theorem EndpointsKept.connected (h : EndpointsKept K s) {callid : List Octet} (hnr : 1 ≤ r.nr)
    (hid : (s.mgcpFreeEndp r).generateCallId ≠ ciUnused) (hfree : K r.trunk → IdFree K s r)
    (hlife : s.OnlyLife r ⟨true, (s.mgcpFreeEndp r).generateCallId, some callid⟩ s') : EndpointsKept K s' := by
  have hself : ∀ life, s'.life? r = some life → life = ⟨true, (s.mgcpFreeEndp r).generateCallId, some callid⟩ := by
    intro life hr
    rw [hlife r, if_pos rfl] at hr
    obtain ⟨_, _, heq⟩ := Option.map_eq_some_iff.mp hr
    exact heq.symm
  have hother : ∀ r', r' ≠ r → s'.life? r' = s.life? r' := by
    intro r' hne
    rw [hlife r', if_neg hne]
  refine ⟨fun r' life hr => ?_, fun k life hk => ?_, fun r₁ r₂ life₁ life₂ hK₁ hK₂ hne hr₁ hr₂ hl₁ hl₂ => ?_⟩
  · by_cases hrr : r' = r
    · subst hrr
      rw [hself life hr]
      exact .inr ⟨rfl, hid, rfl⟩
    · rw [hother r' hrr] at hr
      exact h.lively r' life hr
  · have hrr : (⟨k, 0⟩ : EndpRef) ≠ r := by
      rintro rfl
      simp only at hnr
      omega
    rw [hother _ hrr] at hk
    exact h.first k life hk
  · by_cases h1 : r₁ = r
    · subst h1
      rw [hother r₂ (Ne.symm hne)] at hr₂
      rw [hself life₁ hr₁]
      exact Ne.symm (h.ci_ne (hfree hK₁) hid (Ne.symm hne) hK₂ hr₂ hl₂)
    · rw [hother r₁ h1] at hr₁
      by_cases h2 : r₂ = r
      · subst h2
        rw [hself life₂ hr₂]
        exact h.ci_ne (hfree hK₂) hid hne hK₁ hr₁ hl₁
      · rw [hother r₂ h2] at hr₂
        exact h.apart r₁ r₂ life₁ life₂ hK₁ hK₂ hne hr₁ hr₂ hl₁ hl₂

/-- **A step keeps the invariant**, if the identifier of a new connection is free. -/
theorem EndpointsKept.step (h : EndpointsKept K s) (ev : MgcpEvent)
    (hfree : ∀ r, s.creates ev = some r → K r.trunk → IdFree K s r) : EndpointsKept K (s.step ev) := by
  cases lifeStep_step h.lively ev with
  | freed hlife => exact h.freed hlife
  | connected r callid hnamed hnr hid hlife => exact h.connected hnr hid (hfree r hnamed) hlife

namespace MgcpConfig

theorem call?_bindStatic {e : EndRef} {port : Nat} (h : cfg.bindStatic e port = some s) (r : EndpRef) :
    s.call? r = cfg.call? r := by
  unfold bindStatic at h
  dsimp only at h
  split at h
  · cases h
    exact PortOps.call? ((portOps_intBind port rfl).trans (portOps_modifyEnd rfl _)) r
  · cases h

theorem call?_earlyBind (h : cfg.earlyBind r = some s) (r' : EndpRef) : s.call? r' = cfg.call? r' := by
  obtain ⟨c₁, h₁, h⟩ := Option.bind_eq_some_iff.mp h
  obtain ⟨c₂, h₂, h₃⟩ := Option.bind_eq_some_iff.mp h
  have hbts : c₁.call? r' = cfg.call? r' := by
    unfold earlyBindBts at h₁
    split at h₁
    · exact call?_bindStatic h₁ r'
    · cases h₁
      rfl
  have hnet : c₂.call? r' = c₁.call? r' := by
    unfold earlyBindNet at h₂
    split at h₂
    · exact call?_bindStatic h₂ r'
    · cases h₂
      rfl
  have htrans : s.call? r' = c₂.call? r' := by
    unfold earlyBindTranscoder at h₃
    split at h₃
    · obtain ⟨c₃, hfirst, hsecond⟩ := Option.bind_eq_some_iff.mp h₃
      exact (call?_bindStatic hsecond r').trans (call?_bindStatic hfirst r')
    · cases h₃
      rfl
  exact htrans.trans (hnet.trans hbts)

/-- No endpoint has been used yet. -/
def AllFresh (cfg : MgcpConfig) : Prop := ∀ r call, cfg.call? r = some call → call = (.idle, .none)

theorem AllFresh.allocateTrunk {k : Nat} (h : AllFresh cfg) (hk : cfg.allocateTrunk k = some s) : AllFresh s := by
  unfold MgcpConfig.allocateTrunk at hk
  refine foldlM_preserves (I := AllFresh) (fun c r _ c' hc hstep r' call hr => ?_) ?_ hk
  · rw [call?_earlyBind hstep] at hr
    exact hc r' call hr
  · intro r call hr
    unfold call? at hr
    rw [endp?_freshTrunk] at hr
    split at hr
    · obtain ⟨endp, hendp, rfl⟩ := Option.map_eq_some_iff.mp hr
      obtain ⟨tcfg, _, hnew⟩ := Option.bind_eq_some_iff.mp hendp
      split at hnew
      · cases hnew
        rfl
      · cases hnew
    · exact h r call hr

/-- No endpoint is in use. -/
def AllIdle (cfg : MgcpConfig) : Prop := ∀ r life, cfg.life? r = some life → life = .idle

end MgcpConfig

theorem allFresh_started (hcfg : Started cfg) : cfg.AllFresh := by
  obtain ⟨cfg0, cmds, hun, -, hstart⟩ := hcfg
  refine foldlM_preserves (I := MgcpConfig.AllFresh) (fun c k _ c' hc hk => hc.allocateTrunk hk) ?_ hstart
  intro r call hr
  have hnone : (cmds.foldl command cfg0).endp? r = none := (endp?_commands cfg0 cmds r).trans (hun.noEndps r)
  obtain ⟨endp, hendp, -⟩ := Option.map_eq_some_iff.mp hr
  have hsome : (cmds.foldl command cfg0).endp? r = some endp := hendp
  rw [hnone] at hsome
  cases hsome

theorem allIdle_started (hcfg : Started cfg) : cfg.AllIdle := by
  intro r life hr
  obtain ⟨endp, hendp, rfl⟩ := life?_eq_some.mp hr
  exact congrArg Prod.fst (allFresh_started hcfg r (endp.life, endp.origMode) (by rw [call?, hendp]; rfl))

theorem endpointsKept_started (hcfg : Started cfg) : EndpointsKept K cfg where
  lively r life hr := .inl (allIdle_started hcfg r life hr)
  first _ life hk := allIdle_started hcfg _ life hk
  apart r _ life _ _ _ _ hr _ hlife _ := absurd (allIdle_started hcfg r life hr) hlife

/-- No step of the run hands out an identifier that another endpoint of an E1 trunk has. -/
def IdsFree (s : MgcpConfig) (ev : MgcpEvent) : Prop := ∀ r, s.creates ev = some r → IdFree (fun _ => True) s r

theorem endpointsKept_reachable (hcfg : Started cfg) (hs : Reachable (gateway cfg) s) : EndpointsKept (· = 0) s := by
  refine hs.invariant (fun _ hinit => hinit ▸ endpointsKept_started hcfg) fun s ev s' h _ hstep => ?_
  rw [hstep]
  exact h.step ev fun r _ _ r' _ _ hvirtual hne => absurd hvirtual hne

theorem endpointsKept_idsFree (hcfg : Started cfg) (hs : ReachableBy (gateway cfg) IdsFree s) :
    EndpointsKept (fun _ => True) s := by
  refine hs.invariant (fun _ hinit => hinit ▸ endpointsKept_started hcfg) fun s ev s' h hfree hstep => ?_
  rw [hstep]
  exact h.step ev fun r hr _ => hfree r hr

/-! ## The result -/

/-- A CRCX is answered with an error. -/
structure CreateRefused (s : MgcpConfig) (msg : List Octet) (policy : Option MgcpPolicy) : Prop where
  create : msg.take 4 = octets "CRCX"
  refused : ∃ resp, (s.mgcpHandleMessage msg policy).2 = some resp ∧ resp.ok = false

/-- What holds of the endpoints in a state. -/
structure EndpointsSound (s : MgcpConfig) : Prop where
  allocated : ∀ r endp, s.endp? r = some endp →
    (endp.allocated = true ↔ endp.ci ≠ ciUnused ∧ endp.callid.isSome)
  unnamed : ∀ msg policy, CreateRefused s msg policy → s.creates (.message msg policy) = none →
    (s.mgcpHandleMessage msg policy).1 = s
  busy : ∀ msg policy r endp, CreateRefused s msg policy → s.creates (.message msg policy) = some r →
    s.endp? r = some endp → endp.allocated = true →
    (s.mgcpHandleMessage msg policy).1 = s ∨
      (s.forcesRealloc r = true ∧ (s.mgcpHandleMessage msg policy).1.life? r = some .idle)
  free : ∀ msg policy r endp, CreateRefused s msg policy → s.creates (.message msg policy) = some r →
    s.endp? r = some endp → endp.allocated = false → (s.mgcpHandleMessage msg policy).1.life? r = some .idle
  apart : ∀ i j endp endp', i ≠ j → s.endp? ⟨0, i⟩ = some endp → s.endp? ⟨0, j⟩ = some endp' →
    endp.allocated = true → endp'.allocated = true → endp.ci ≠ endp'.ci

theorem CreateRefused.handled {msg : List Octet} {policy : Option MgcpPolicy} (h : CreateRefused s msg policy) :
    s.mgcpHandleMessage msg policy = s.handleCreateCon (msg.drop 4) policy := by
  obtain ⟨resp, hresp, -⟩ := h.refused
  unfold mgcpHandleMessage at hresp ⊢
  dsimp only at hresp ⊢
  rw [h.create] at hresp ⊢
  split
  · next hshort =>
      rw [if_pos hshort] at hresp
      cases hresp
  · next hlong =>
      rw [if_neg hlong] at hresp
      split
      · next hresponse =>
          rw [if_pos hresponse] at hresp
          cases hresp
      · rw [if_neg (by decide), if_pos rfl]

theorem MgcpConfig.OnlyLife.idle (h : s.OnlyLife r .idle s') (hr : (s.endp? r).isSome) : s'.life? r = some .idle := by
  obtain ⟨endp, hendp⟩ := Option.isSome_iff_exists.mp hr
  rw [h r, if_pos rfl, life?, hendp]
  rfl

/-- What a CRCX answered with an error has done. -/
theorem EndpointsKept.refused (h : EndpointsKept K s) {msg : List Octet} {policy : Option MgcpPolicy}
    (hrefused : CreateRefused s msg policy) :
    (s.mgcpHandleMessage msg policy).1 = s ∨
      ∃ r, s.creates (.message msg policy) = some r ∧ (s.mgcpHandleMessage msg policy).1.life? r = some .idle ∧
        ∀ endp, s.endp? r = some endp → endp.allocated = true → s.forcesRealloc r = true := by
  obtain ⟨resp, hresp, herr⟩ := hrefused.refused
  rw [hrefused.handled] at hresp ⊢
  rcases handleCreateCon_cases h.lively (msg.drop 4) policy with ⟨-, hsame⟩ | ⟨r, hr, hstep⟩
  · exact .inl hsame
  · have hvalid := (mgcpAnalyzeHeader_some hr).2
    have hnamed : s.creates (.message msg policy) = some r := by
      rw [creates, if_pos hrefused.create, hr]
    generalize s.handleCreateCon (msg.drop 4) policy = out at hstep hresp ⊢
    cases hstep with
    | same => exact .inl rfl
    | freed _ hforced hlife => exact .inr ⟨r, hnamed, hlife.idle hvalid, hforced⟩
    | connected callid hid hlife hok =>
      rw [hok resp hresp] at herr
      cases herr

theorem MgcpEndpoint.life_ne_idle {endp : MgcpEndpoint} (halloc : endp.allocated = true) : endp.life ≠ .idle := by
  intro hidle
  have h := congrArg Life.allocated hidle
  rw [life, halloc] at h
  cases h

theorem EndpointsKept.sound (h : EndpointsKept K s) (hK : K 0) : EndpointsSound s where
  allocated _ endp hendp := by
    rcases h.lively _ endp.life (life?_eq_some.mpr ⟨endp, hendp, rfl⟩) with hidle | ⟨halloc, hci, hcallid⟩
    · simp only [life, Life.idle, Life.mk.injEq] at hidle
      simp [hidle]
    · exact ⟨fun _ => ⟨hci, hcallid⟩, fun _ => halloc⟩
  unnamed msg policy hrefused hnone := by
    rcases h.refused hrefused with hsame | ⟨r, hr, -⟩
    · exact hsame
    · rw [hnone] at hr
      cases hr
  busy msg policy r endp hrefused hnamed hendp halloc := by
    rcases h.refused hrefused with hsame | ⟨r', hr, hidle, hforced⟩
    · exact .inl hsame
    · rw [hnamed] at hr
      cases hr
      exact .inr ⟨hforced endp hendp halloc, hidle⟩
  free msg policy r endp hrefused hnamed hendp hfree := by
    rcases h.refused hrefused with hsame | ⟨r', hr, hidle, -⟩
    · rw [hsame]
      exact h.lively.idle hendp hfree
    · rw [hnamed] at hr
      cases hr
      exact hidle
  apart i j endp endp' hne hendp hendp' halloc halloc' := by
    refine h.apart ⟨0, i⟩ ⟨0, j⟩ endp.life endp'.life hK hK (fun heq => hne ?_)
      (life?_eq_some.mpr ⟨endp, hendp, rfl⟩) (life?_eq_some.mpr ⟨endp', hendp', rfl⟩)
      (life_ne_idle halloc) (life_ne_idle halloc')
    simpa using heq

/-- **The endpoints of a gateway.** In every state it reaches they are sound; and over all trunks the identifiers of
    allocated endpoints differ, as long as none is handed out that another endpoint of an E1 trunk has. -/
theorem endpoints_of_started (hcfg : Started cfg) :
    (∀ s, Reachable (gateway cfg) s → EndpointsSound s) ∧
      ∀ s, ReachableBy (gateway cfg) IdsFree s → ∀ r r' endp endp', r ≠ r' → s.endp? r = some endp →
        s.endp? r' = some endp' → endp.allocated = true → endp'.allocated = true → endp.ci ≠ endp'.ci := by
  refine ⟨fun s hs => (endpointsKept_reachable hcfg hs).sound rfl, ?_⟩
  intro s hs r r' endp endp' hne hendp hendp' halloc halloc'
  exact (endpointsKept_idsFree hcfg hs).apart r r' endp.life endp'.life trivial trivial hne
    (life?_eq_some.mpr ⟨endp, hendp, rfl⟩) (life?_eq_some.mpr ⟨endp', hendp', rfl⟩)
    (life_ne_idle halloc) (life_ne_idle halloc')

/-! ### A forced CRCX -/

/-- A gateway with one endpoint and fixed ports, where reallocation is forced. -/
def forcedGateway : MgcpConfig :=
  { plainGateway with trunk := { plainGateway.trunk with forceRealloc := true, numberEndpoints := 2 } }

/-- That gateway after its start. -/
def forcedStart : MgcpConfig := forcedGateway.mgcpParseConfig.getD forcedGateway

theorem started_forcedStart : Started forcedStart := by
  refine ⟨forcedGateway, [], ⟨?_, ?_⟩, by decide, ?_⟩
  · intro r
    obtain ⟨k, i⟩ := r
    cases k <;> rfl
  · intro side
    cases side
    · exact ⟨16000, rfl⟩
    · exact ⟨4000, rfl⟩
    · exact ⟨0, rfl⟩
    · exact ⟨0, rfl⟩
  · decide +kernel

/-- The endpoint is connected, with call id 1. -/
def firstCall : List Octet := octets "CRCX 1 1@mgw MGCP 1.0\r\nM: recvonly\r\nC: 1\r\n"

/-- A call with another call id, and a mode that is none. -/
def secondCall : List Octet := octets "CRCX 2 1@mgw MGCP 1.0\r\nM: recvnone\r\nC: 2\r\n"

/-- After the first call. -/
def connectedState : MgcpConfig := forcedStart.step (.message firstCall none)

theorem reachable_connectedState : Reachable (gateway forcedStart) connectedState :=
  .step (l := .message firstCall none) (.init rfl) trivial rfl

/-- With the last identifier handed out, 0 is left out and 1 is that of the first call. -/
theorem generateCallId_wrapped :
    let s := { connectedState with lastCallId := 0xffffffff }
    s.generateCallId ≠ ciUnused ∧ s.callIdInUse 1 = true ∧ s.generateCallId = 2 :=
  ⟨MgcpConfig.generateCallId_ne (by decide +kernel), by decide +kernel, by decide +kernel⟩

/-- In that state the endpoints are sound, and the endpoint has been connected. -/
theorem endpoints_of_started_forced :
    EndpointsSound connectedState ∧ connectedState.life? ⟨0, 1⟩ = some ⟨true, 1, some [49]⟩ :=
  ⟨(endpoints_of_started started_forcedStart).1 _ reachable_connectedState, by decide +kernel⟩

/-- The call id that a CRCX gives. -/
def MgcpConfig.callidOf (s : MgcpConfig) (msg : List Octet) : Option (List Octet) :=
  (tokenize createLine 400 true [] {} (mgcpAnalyzeHeader s (msg.drop 4)).l3h).1.callid

/-- What is asked of the endpoints: a CRCX answered with an error leaves the one it names as it was if it was allocated
    to another call, and free otherwise, and no two allocated endpoints have the same identifier. -/
structure LifecycleSound (s : MgcpConfig) : Prop where
  allocated : ∀ r endp, s.endp? r = some endp →
    (endp.allocated = true ↔ endp.ci ≠ ciUnused ∧ endp.callid.isSome)
  oldCall : ∀ msg policy r endp, CreateRefused s msg policy → s.creates (.message msg policy) = some r →
    s.endp? r = some endp → endp.allocated = true → endp.callid ≠ s.callidOf msg →
    (s.mgcpHandleMessage msg policy).1.endp? r = some endp
  free : ∀ msg policy r endp, CreateRefused s msg policy → s.creates (.message msg policy) = some r →
    s.endp? r = some endp → endp.allocated = false → (s.mgcpHandleMessage msg policy).1.life? r = some .idle
  apart : ∀ r r' endp endp', r ≠ r' → s.endp? r = some endp → s.endp? r' = some endp' →
    endp.allocated = true → endp'.allocated = true → endp.ci ≠ endp'.ci

/-- **A forced CRCX with an invalid mode costs the old call.** -/
theorem not_lifecycleSound_forced :
    Started forcedStart ∧ Reachable (gateway forcedStart) connectedState ∧ ¬ LifecycleSound connectedState := by
  refine ⟨started_forcedStart, reachable_connectedState, fun hsound => ?_⟩
  have hrefused : CreateRefused connectedState secondCall none := by
    refine ⟨by decide +kernel, ?_⟩
    obtain ⟨resp, hresp, herr⟩ : ∃ resp ∈ (connectedState.mgcpHandleMessage secondCall none).2, resp.ok = false := by
      decide +kernel
    exact ⟨resp, hresp, herr⟩
  obtain ⟨endp, hendp, halloc, hother, hlost⟩ : ∃ endp ∈ connectedState.endp? ⟨0, 1⟩, endp.allocated = true ∧
      endp.callid ≠ connectedState.callidOf secondCall ∧
      (connectedState.mgcpHandleMessage secondCall none).1.endp? ⟨0, 1⟩ ≠ some endp := by decide +kernel
  exact hlost (hsound.oldCall secondCall none ⟨0, 1⟩ endp hrefused (by decide +kernel) hendp halloc hother)

end OpenBsc.Mgcp
