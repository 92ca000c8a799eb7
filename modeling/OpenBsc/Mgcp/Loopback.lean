import OpenBsc.Mgcp.CallIsolation

/-!
# `Mgcp.Loopback` — looping an endpoint and back (`mgcp_vty.c`)

`loop-endpoint` overwrites the mode of an endpoint, and gives it back the original mode when looping ends. An MDCX sets
both modes, but a CRCX only the first: until an MDCX has named a mode, the original mode of a call is none, so that a
call that was looped passes nothing on afterwards.
-/

namespace OpenBsc.Mgcp

open Transition Scan MgcpConfig Option

/-! ## The source -/

/-- The VTY command `loop-endpoint`. -/
def MgcpConfig.loopEndp (cfg : MgcpConfig) (r : EndpRef) (loop : Bool) : MgcpConfig :=
  if 1 ≤ r.nr ∧ (cfg.endp? r).isSome then
    cfg.modifyEndp r fun endp =>
      { endp with
        connMode := if loop then .loopback else endp.origMode
        allowPatch := true }
  else cfg

/-- What happens to the gateway, with the operator. -/
inductive LoopEvent where
  | agent (ev : MgcpEvent)
  | loop (r : EndpRef) (loop : Bool)

/-- What an event does. -/
def MgcpConfig.loopStep (cfg : MgcpConfig) : LoopEvent → MgcpConfig
  | .agent ev => cfg.step ev
  | .loop r loop => cfg.loopEndp r loop

/-! ## The purpose -/

/-- The mode commanded last for the call of an endpoint, and whether an MDCX did. -/
structure CallRecord where
  mode : MgcpConnectionMode := .none
  modified : Bool := false

/-- The mode that a CRCX commands. -/
def createMode (l3h : List Octet) : Option MgcpConnectionMode :=
  (tokenize createLine 400 true [] {} l3h).1.mode.bind parseConnMode

/-- The event is an MDCX for the endpoint. -/
def LoopEvent.Modifies (r : EndpRef) (s : MgcpConfig) : LoopEvent → Prop
  | .agent (.message msg _) => msg.take 4 = octets "MDCX" ∧ (mgcpAnalyzeHeader s (msg.drop 4)).endp = some r
  | _ => False

/-- The record after an event: there may be no call, or a new one, or a line of an MDCX commands a mode. -/
def CallRecord.update (r : EndpRef) (rec : CallRecord) (s : MgcpConfig) (ev : LoopEvent) (s' : MgcpConfig) :
    CallRecord :=
  let endp := (s.endp? r).getD {}
  let endp' := (s'.endp? r).getD {}
  if endp'.allocated = false then {}
  else match ev with
    | .agent (.message msg _) =>
      let hdr := mgcpAnalyzeHeader s (msg.drop 4)
      if endp'.life ≠ endp.life then { mode := (createMode hdr.l3h).getD .none }
      else if msg.take 4 = octets "MDCX" ∧ hdr.endp = some r then
        (lastOf lineMode (acceptedLines endp hdr.l3h)).elim rec fun mode => ⟨mode, true⟩
      else rec
    | _ => rec

/-- The gateway after its start with `cfg`, and what is commanded for the endpoint `r`. -/
def loopGateway (cfg : MgcpConfig) (r : EndpRef) : System (MgcpConfig × CallRecord) LoopEvent :=
  System.recording ⟨(· = cfg), fun s ev s' => s' = s.loopStep ev⟩ {} (CallRecord.update r)

/-- **The original mode is the one commanded**, and it is the mode of the endpoint when looping is switched off. -/
structure RestoresMode (r : EndpRef) (s : MgcpConfig) (rec : CallRecord) : Prop where
  orig : ∀ endp, s.endp? r = some endp → endp.origMode = rec.mode
  off : 1 ≤ r.nr → ∀ endp, (s.loopEndp r false).endp? r = some endp → endp.connMode = rec.mode

/-! ## A step -/

/-- **What the modes of an endpoint are**: without a call, with a call that no MDCX gave a mode, and with another
    one. -/
inductive ModeInv : Life × MgcpConnectionMode → CallRecord → Prop where
  | free : ModeInv (.idle, .none) {}
  | created {life : Life} {mode : MgcpConnectionMode} (halloc : life.allocated = true) (hci : life.ci ≠ ciUnused)
      (hmode : mode ≠ .none) : ModeInv (life, .none) ⟨mode, false⟩
  | modified {life : Life} (mode : MgcpConnectionMode) (halloc : life.allocated = true) (hci : life.ci ≠ ciUnused) :
    ModeInv (life, mode) ⟨mode, true⟩

section Step

/-- Only a free endpoint has no identifier. -/
theorem ModeInv.cases {call : Life × MgcpConnectionMode} {rec : CallRecord} (h : ModeInv call rec) :
    call = (.idle, .none) ∨ (call.1.allocated = true ∧ call.1.ci ≠ ciUnused) := by
  cases h with
  | free => exact .inl rfl
  | created halloc hci _ => exact .inr ⟨halloc, hci⟩
  | modified _ halloc hci => exact .inr ⟨halloc, hci⟩

/-- The original mode is the one commanded unless only a CRCX has commanded one. -/
theorem ModeInv.mode_eq_iff {call : Life × MgcpConnectionMode} {rec : CallRecord} (h : ModeInv call rec) :
    call.2 = rec.mode ↔ (call.1.allocated = true → rec.modified = true) := by
  cases h with
  | free => exact ⟨fun _ h => h, fun _ => rfl⟩
  | created halloc _ hmode => exact ⟨fun h => absurd h.symm hmode, fun h => absurd (h halloc) nofun⟩
  | modified => exact ⟨fun _ _ => rfl, fun _ => rfl⟩

variable {cfg cfg' : MgcpConfig} {r : EndpRef} {endp : MgcpEndpoint} {call : Life × MgcpConnectionMode}
  {l3h trans callid mode : List Octet} {localOptions : Option (List Octet)} {policy : Option MgcpPolicy}
  {rec : CallRecord}

theorem parseConnMode_ne {m : MgcpConnectionMode} (h : parseConnMode mode = some m) : m ≠ .none := by
  unfold parseConnMode at h
  split_ifs at h
  all_goals
    cases h
    decide

/-- The original mode of the endpoint is none. -/
def Unset (r : EndpRef) (cfg : MgcpConfig) : Prop := ∀ endp, cfg.endp? r = some endp → endp.origMode = .none

theorem Unset.modifyEndp (h : Unset r cfg) {f : MgcpEndpoint → MgcpEndpoint}
    (hf : ∀ endp, endp.origMode = .none → (f endp).origMode = .none) : Unset r (cfg.modifyEndp r f) := by
  intro endp hendp
  rw [endp?_modifyEndp, if_pos rfl] at hendp
  obtain ⟨endp, hold, rfl⟩ := map_eq_some_iff.mp hendp
  exact hf endp (h endp hold)

theorem Unset.allocatePorts (h : Unset r cfg) : Unset r (cfg.allocatePorts r).1 := by
  intro endp hendp
  have hcall : (cfg.allocatePorts r).1.call? r = cfg.call? r := PortOps.call? portOps_allocatePorts r
  rw [call?, call?, hendp] at hcall
  obtain ⟨endp', hold, hsame⟩ := map_eq_some_iff.mp hcall.symm
  exact (congrArg Prod.snd hsame).symm.trans (h endp' hold)

theorem Unset.createOnFree (h : Unset r cfg) :
    Unset r (cfg.createOnFree r trans callid mode localOptions policy).1 := by
  have hcopy : Unset r (cfg.copyParams r callid localOptions) := h.modifyEndp fun _ ho => ho
  have hfree {cfg' : MgcpConfig} (h' : Unset r cfg') : Unset r (cfg'.mgcpFreeEndp r) := h'.modifyEndp fun _ _ => rfl
  have htranscoder {cfg' : MgcpConfig} (h' : Unset r cfg') : Unset r (cfg'.createTranscoder r) := by
    refine h'.modifyEndp fun endp ho => ?_
    split
    · exact ho
    · exact ho
  unfold MgcpConfig.createOnFree
  dsimp only
  split
  · exact hfree hcopy
  next connMode _ =>
  have hclear : Unset r ((cfg.copyParams r callid localOptions).clearPeers r connMode) :=
    hcopy.modifyEndp fun _ ho => ho
  have hports := hclear.allocatePorts
  have hid (id : BitVec 32) : Unset r { (((cfg.copyParams r callid localOptions).clearPeers r
      connMode).allocatePorts r).1 with lastCallId := id } := hports
  have hconnect : Unset r
      ((((cfg.copyParams r callid localOptions).clearPeers r connMode).allocatePorts r).1.connect r) :=
    (hid _).modifyEndp fun _ ho => ho
  split
  · exact hfree hports
  split
  · exact hfree (hid _)
  split
  · exact hfree hconnect
  · exact htranscoder hconnect
  · exact htranscoder hconnect

theorem call?_eq {life : Life} (hlife : cfg.life? r = some life) (h : Unset r cfg) :
    cfg.call? r = some (life, .none) := by
  obtain ⟨endp, hendp, rfl⟩ := life?_eq_some.mp hlife
  rw [call?, hendp, map_some, h endp hendp]

theorem call?_createOnFree (hcall : cfg.call? r = some (.idle, .none)) :
    (cfg.createOnFree r trans callid mode localOptions policy).1.call? r = some (.idle, .none) ∨
      ∃ ci connMode, (cfg.createOnFree r trans callid mode localOptions policy).1.call? r =
        some (⟨true, ci, some callid⟩, .none) ∧ ci ≠ ciUnused ∧ parseConnMode mode = some connMode := by
  obtain ⟨endp, hendp, heq⟩ := map_eq_some_iff.mp hcall
  have hidle : cfg.life? r = some .idle := life?_eq_some.mpr ⟨endp, hendp, congrArg Prod.fst heq⟩
  have hunset : Unset r cfg := fun endp' hendp' => by
    cases hendp.symm.trans hendp'
    exact congrArg Prod.snd heq
  have hafter : Unset r (cfg.createOnFree r trans callid mode localOptions policy).1 := hunset.createOnFree
  cases hmode : parseConnMode mode with
  | none =>
    refine .inl (call?_eq ?_ hafter)
    simp only [createOnFree, hmode]
    rw [life?_mgcpFreeEndp, if_pos rfl, copyParams, life?_modifyEndp, if_pos rfl, hendp]
    rfl
  | some connMode =>
    rcases createOnFree_lives trans callid mode localOptions policy hidle with ⟨hlife, -⟩ | ⟨hid, hlife, -⟩
    · have hself := hlife r
      rw [if_pos rfl, hidle] at hself
      exact .inl (call?_eq hself hafter)
    · have hself := hlife r
      rw [if_pos rfl, hidle] at hself
      exact .inr ⟨_, connMode, call?_eq hself hafter, hid, rfl⟩

/-- What a CRCX does to the endpoint that it names: nothing, or it frees it, or there is a new call. -/
inductive Creates (call : Life × MgcpConnectionMode) (l3h : List Octet) :
    Option (Life × MgcpConnectionMode) → Prop where
  | same : Creates call l3h (some call)
  | freed : Creates call l3h (some (.idle, .none))
  | created {life : Life} {connMode : MgcpConnectionMode} (halloc : life.allocated = true) (hci : life.ci ≠ ciUnused)
    (hne : life ≠ call.1) (hmode : createMode l3h = some connMode) (hne' : connMode ≠ .none) :
    Creates call l3h (some (life, .none))

theorem creates_handleCreateCon (hr : (mgcpAnalyzeHeader cfg l3h).endp = some r) (hcall : cfg.call? r = some call)
    (hinv : ModeInv call rec) :
    Creates call (mgcpAnalyzeHeader cfg l3h).l3h ((cfg.handleCreateCon l3h policy).1.call? r) := by
  obtain ⟨endp, hendp, heq⟩ := map_eq_some_iff.mp hcall
  have hsame : Creates call (mgcpAnalyzeHeader cfg l3h).l3h (cfg.call? r) := hcall ▸ .same
  -- the endpoint is free, and the call identifier is not that of its call
  have hfree {cfg' : MgcpConfig} {params : CreateParams} {callid mode : List Octet}
      (hidle : cfg'.call? r = some (.idle, .none))
      (hmode : createMode (mgcpAnalyzeHeader cfg l3h).l3h = parseConnMode mode)
      (hne : call.1.allocated = true → call.1.callid ≠ some callid) :
      Creates call (mgcpAnalyzeHeader cfg l3h).l3h ((cfg'.createOnFree r (mgcpAnalyzeHeader cfg l3h).trans callid mode
        params.localOptions policy).1.call? r) := by
    rcases call?_createOnFree hidle with hafter | ⟨ci, connMode, hafter, hci, hparse⟩
    · rw [hafter]
      exact .freed
    · rw [hafter]
      refine .created rfl hci (fun hlife => ?_) (hmode.trans hparse) (parseConnMode_ne hparse)
      rw [← hlife] at hne
      exact hne rfl rfl
  unfold handleCreateCon
  dsimp only
  rw [hr]
  dsimp only
  generalize htokens : tokenize createLine 400 true [] {} (mgcpAnalyzeHeader cfg l3h).l3h = out
  obtain ⟨params, code⟩ := out
  cases code with
  | some code => exact hsame
  | none =>
    cases hcallid : params.callid with
    | none =>
      simp only [createWith, hcallid]
      exact hsame
    | some callid =>
      cases hmode : params.mode with
      | none =>
        simp only [createWith, hcallid, hmode]
        exact hsame
      | some mode =>
        have hparse : createMode (mgcpAnalyzeHeader cfg l3h).l3h = parseConnMode mode := by
          rw [createMode, htokens, hmode]
          rfl
        simp only [createWith, hcallid, hmode, hendp, getD_some]
        by_cases halloc : endp.allocated = true
        · rw [if_pos halloc]
          split
          · exact hsame
          · next hprefix =>
            split
            · have hfreed : (cfg.mgcpFreeEndp r).call? r = some (.idle, .none) := by
                rw [call?, mgcpFreeEndp, endp?_modifyEndp, if_pos rfl, hendp]
                rfl
              refine hfree hfreed hparse fun _ hid => ?_
              have hold : endp.callid = some callid := (congrArg (·.1.callid) heq).trans hid
              rw [hold] at hprefix
              exact hprefix (List.isPrefixOf_iff_prefix.mpr (List.prefix_refl callid))
            · exact hsame
        · rw [if_neg halloc]
          have hfalse : call.1.allocated ≠ true := fun h => halloc ((congrArg (·.1.allocated) heq).trans h)
          cases hinv with
          | free => exact hfree hcall hparse fun h => absurd h hfalse
          | created h _ _ => exact absurd h hfalse
          | modified _ h _ => exact absurd h hfalse

variable {s s' : MgcpConfig} {ev : LoopEvent}

theorem update_freed (hcall : s'.call? r = some (.idle, .none)) : rec.update r s ev s' = {} := by
  obtain ⟨endp', hendp', heq⟩ := map_eq_some_iff.mp hcall
  unfold CallRecord.update
  rw [hendp']
  exact if_pos (congrArg (·.1.allocated) heq)

/-- Nothing happens to the call, and no MDCX is about it. -/
theorem update_same (hcall : s.call? r = some call) (hinv : ModeInv call rec) (hsame : s'.call? r = some call)
    (hev : ¬ ev.Modifies r s) :
    rec.update r s ev s' = rec := by
  obtain ⟨endp, hendp, heq⟩ := map_eq_some_iff.mp hcall
  obtain ⟨endp', hendp', heq'⟩ := map_eq_some_iff.mp hsame
  have hlife : endp'.life = endp.life := (congrArg Prod.fst heq').trans (congrArg Prod.fst heq).symm
  unfold CallRecord.update
  rw [hendp, hendp']
  dsimp only [getD_some]
  split
  · next hfree =>
    cases hinv with
    | free => rfl
    | created h _ _ => exact absurd ((congrArg (·.1.allocated) heq').symm.trans hfree) (by simp [h])
    | modified _ h _ => exact absurd ((congrArg (·.1.allocated) heq').symm.trans hfree) (by simp [h])
  · split
    · rw [if_neg (not_not_intro hlife)]
      exact if_neg hev
    · rfl

theorem modeInv_mdcx (hinv : ∀ call, s.call? r = some call → ModeInv call rec) {msg : List Octet}
    {policy : Option MgcpPolicy} (hverb : msg.take 4 = octets "MDCX")
    (hr : (mgcpAnalyzeHeader s (msg.drop 4)).endp = some r) {call : Life × MgcpConnectionMode}
    (hcall : (s.handleModifyCon (msg.drop 4) policy).1.call? r = some call) :
    ModeInv call (rec.update r s (.agent (.message msg policy)) (s.handleModifyCon (msg.drop 4) policy).1) := by
  obtain ⟨endp, hendp⟩ := isSome_iff_exists.mp (mgcpAnalyzeHeader_some hr).2
  have hold : s.call? r = some (endp.life, endp.origMode) := by
    rw [call?, hendp]
    rfl
  rcases (hinv _ hold).cases with hidle | ⟨halloc, hci⟩
  · have hunused : endp.ci = ciUnused := congrArg (·.1.ci) hidle
    rw [handleModifyCon_unconnected fun r' endp' hr' hendp' => by
      cases hr.symm.trans hr'
      cases hendp.symm.trans hendp'
      exact hunused] at hcall ⊢
    rw [hold, hidle] at hcall
    cases hcall
    rw [update_freed (hold.trans (congrArg some hidle))]
    exact .free
  · have hafter : (s.handleModifyCon (msg.drop 4) policy).1.endp? r =
        some (afterLines endp (mgcpAnalyzeHeader s (msg.drop 4)).l3h) := by
      rw [handleModifyCon_connected hr hendp hci, endp?_modifyEndp, if_pos rfl, hendp]
      rfl
    rw [call?, hafter] at hcall
    cases hcall
    have hupdate : rec.update r s (.agent (.message msg policy)) (s.handleModifyCon (msg.drop 4) policy).1 =
        (lastOf lineMode (acceptedLines endp (mgcpAnalyzeHeader s (msg.drop 4)).l3h)).elim rec
          fun mode => ⟨mode, true⟩ := by
      unfold CallRecord.update
      rw [hendp, hafter]
      have hkept : (afterLines endp (mgcpAnalyzeHeader s (msg.drop 4)).l3h).allocated = true := halloc
      have hlife : (afterLines endp (mgcpAnalyzeHeader s (msg.drop 4)).l3h).life = endp.life := rfl
      dsimp only [getD_some]
      rw [if_neg (by rw [hkept]; decide), if_neg (not_not_intro hlife), if_pos ⟨hverb, hr⟩]
    rw [hupdate]
    unfold afterLines MgcpEndpoint.told
    cases lastOf lineMode (acceptedLines endp (mgcpAnalyzeHeader s (msg.drop 4)).l3h) with
    | none => exact hinv _ hold
    | some mode => exact .modified mode halloc hci

theorem modeInv_crcx (hinv : ∀ call, s.call? r = some call → ModeInv call rec) {msg : List Octet}
    {policy : Option MgcpPolicy} (hverb : msg.take 4 = octets "CRCX")
    (hr : (mgcpAnalyzeHeader s (msg.drop 4)).endp = some r) {call : Life × MgcpConnectionMode}
    (hcall : (s.handleCreateCon (msg.drop 4) policy).1.call? r = some call) :
    ModeInv call (rec.update r s (.agent (.message msg policy)) (s.handleCreateCon (msg.drop 4) policy).1) := by
  obtain ⟨endp, hendp⟩ := isSome_iff_exists.mp (mgcpAnalyzeHeader_some hr).2
  have hold : s.call? r = some (endp.life, endp.origMode) := by
    rw [call?, hendp]
    rfl
  have hcreates : Creates (endp.life, endp.origMode) (mgcpAnalyzeHeader s (msg.drop 4)).l3h
      ((s.handleCreateCon (msg.drop 4) policy).1.call? r) := creates_handleCreateCon hr hold (hinv _ hold)
  generalize hout : (s.handleCreateCon (msg.drop 4) policy).1 = s' at hcall hcreates ⊢
  rw [hcall] at hcreates
  cases hcreates with
  | same =>
    have hev : ¬ LoopEvent.Modifies r s (.agent (.message msg policy)) := fun h =>
      absurd (hverb.symm.trans h.1) (by decide)
    rw [update_same hold (hinv _ hold) hcall hev]
    exact hinv _ hold
  | freed =>
    rw [update_freed hcall]
    exact .free
  | @created life connMode halloc hci hne hmode hne' =>
    obtain ⟨endp', hendp', heq⟩ := map_eq_some_iff.mp hcall
    have hlife : endp'.life = life := congrArg Prod.fst heq
    have hupdate : rec.update r s (.agent (.message msg policy)) s' = ⟨connMode, false⟩ := by
      have hnew : endp'.allocated = true := (congrArg Life.allocated hlife).trans halloc
      unfold CallRecord.update
      rw [hendp, hendp']
      dsimp only [getD_some]
      rw [if_neg (by rw [hnew]; decide), if_pos (hlife ▸ hne), hmode]
      rfl
    rw [hupdate]
    exact .created halloc hci hne'

theorem call?_foldl_mgcpFreeEndp (refs : List EndpRef) (hcall : (refs.foldl mgcpFreeEndp s).call? r = some call) :
    call = (.idle, .none) ∨ s.call? r = some call := by
  induction refs generalizing s with
  | nil => exact .inr hcall
  | cons r' refs ih =>
    rcases ih hcall with hidle | hrest
    · exact .inl hidle
    · rw [call?, mgcpFreeEndp, endp?_modifyEndp] at hrest
      split at hrest
      · rw [map_map] at hrest
        obtain ⟨endp, -, rfl⟩ := map_eq_some_iff.mp hrest
        exact .inl rfl
      · exact .inr hrest

theorem call?_loopEndp (r' : EndpRef) (loop : Bool) : (s.loopEndp r' loop).call? r = s.call? r := by
  unfold loopEndp
  split
  · rw [call?, endp?_modifyEndp]
    split
    · rw [map_map]
      rfl
    · rfl
  · rfl

/-- **A step keeps the invariant.** -/
theorem modeInv_step (hinv : ∀ call, s.call? r = some call → ModeInv call rec) (ev : LoopEvent) :
    ∀ call, (s.loopStep ev).call? r = some call → ModeInv call (rec.update r s ev (s.loopStep ev)) := by
  have hkept {s' : MgcpConfig} (hev : ¬ ev.Modifies r s) (hsame : s'.call? r = s.call? r) :
      ∀ call, s'.call? r = some call → ModeInv call (rec.update r s ev s') := by
    intro call hcall
    have hold := hinv call (hsame ▸ hcall)
    rw [update_same (hsame ▸ hcall) hold hcall hev]
    exact hold
  by_cases hev : ev.Modifies r s
  · rcases ev with (⟨msg, policy⟩ | r') | ⟨r', loop⟩
    · have hstep : s.step (.message msg policy) = (s.handleModifyCon (msg.drop 4) policy).1 := by
        have hmsg : msg = CallVerb.mdcx.text ++ msg.drop 4 := by
          rw [CallVerb.text, ← hev.1, List.take_append_drop]
        rw [step, hmsg, mgcpHandleMessage_call]
        rfl
      intro call hcall
      rw [loopStep, hstep] at hcall ⊢
      exact modeInv_mdcx hinv hev.1 hev.2 hcall
    · exact hev.elim
    · exact hev.elim
  · cases ev with
    | loop r' loop => exact hkept hev (call?_loopEndp r' loop)
    | agent ev =>
      have hcase := s.step_case ev
      rw [loopStep]
      generalize s.step ev = s' at hcase ⊢
      cases hcase with
      | same => exact hkept hev rfl
      | @created msg policy hverb =>
        by_cases hr : (mgcpAnalyzeHeader s (msg.drop 4)).endp = some r
        · exact fun call hcall => modeInv_crcx hinv hverb hr hcall
        · obtain ⟨r', hne, hnamed⟩ := named_ne hr
          exact hkept hev (congrArg _ ((elsewhere_handleCreateCon hnamed).endp r hne))
      | @modified msg policy hverb =>
        obtain ⟨r', hne, hnamed⟩ := named_ne fun hr => hev ⟨hverb, hr⟩
        exact hkept hev (congrArg _ ((elsewhere_handleModifyCon hnamed).endp r hne))
      | freed _ refs =>
        intro call hcall
        rcases call?_foldl_mgcpFreeEndp refs hcall with rfl | hsame
        · rw [update_freed hcall]
          exact .free
        · rw [update_same hsame (hinv call hsame) hcall hev]
          exact hinv call hsame

end Step

/-! ## Runs -/

section Runs

variable {cfg s : MgcpConfig} {r : EndpRef} {rec : CallRecord} {endp : MgcpEndpoint}

theorem modeInv_reachable (hcfg : Started cfg) (h : Reachable (loopGateway cfg r) (s, rec))
    (hendp : s.endp? r = some endp) : ModeInv (endp.life, endp.origMode) rec := by
  have hrun : ∀ call, s.call? r = some call → ModeInv call rec := by
    refine h.invariant (I := fun p => ∀ call, p.1.call? r = some call → ModeInv call p.2) ?_ ?_
    · rintro ⟨s, rec⟩ ⟨rfl, rfl⟩ call hcall
      rw [allFresh_started hcfg r call hcall]
      exact .free
    · rintro ⟨s, rec⟩ ev ⟨s', rec'⟩ hinv - ⟨hs', hrec⟩
      dsimp only at hs' hrec hinv ⊢
      rw [hrec, hs']
      exact modeInv_step hinv ev
  exact hrun _ (by rw [call?, hendp]; rfl)

/-- **Looping gives a call back its mode** exactly when there is no call, or an MDCX has commanded one since the
    CRCX. -/
theorem restoresMode_iff (hcfg : Started cfg) (h : Reachable (loopGateway cfg r) (s, rec)) :
    RestoresMode r s rec ↔ ∀ endp, s.endp? r = some endp → endp.allocated = true → rec.modified = true := by
  constructor
  · intro hrestores endp hendp
    exact (modeInv_reachable hcfg h hendp).mode_eq_iff.mp (hrestores.orig endp hendp)
  · intro hmodified
    have horig : ∀ endp, s.endp? r = some endp → endp.origMode = rec.mode := fun endp hendp =>
      (modeInv_reachable hcfg h hendp).mode_eq_iff.mpr (hmodified endp hendp)
    refine ⟨horig, fun hnr endp hendp => ?_⟩
    unfold loopEndp at hendp
    split at hendp
    · rw [endp?_modifyEndp, if_pos rfl] at hendp
      obtain ⟨endp', hold, rfl⟩ := map_eq_some_iff.mp hendp
      exact horig endp' hold
    · next hno => exact absurd ⟨hnr, by rw [hendp]; rfl⟩ hno

/-- What a run of events comes to, from the start of the gateway with one endpoint. -/
def loopRun (evs : List LoopEvent) : MgcpConfig × CallRecord :=
  evs.foldl (fun p ev => (p.1.loopStep ev, p.2.update ⟨0, 1⟩ p.1 ev (p.1.loopStep ev))) (forcedStart, {})

theorem reachable_loopRun (evs : List LoopEvent) :
    Reachable (loopGateway forcedStart ⟨0, 1⟩) ((loopRun evs).1, (loopRun evs).2) :=
  ReachableBy.foldl (M := loopGateway forcedStart ⟨0, 1⟩)
    (f := fun p ev => (p.1.loopStep ev, p.2.update ⟨0, 1⟩ p.1 ev (p.1.loopStep ev))) (fun _ _ => ⟨rfl, rfl⟩) evs
    (.init ⟨rfl, rfl⟩)

/-- The first call, and an MDCX for it. -/
def modifiedCall : List LoopEvent :=
  [.agent (.message firstCall none),
    .agent (.message (octets "MDCX 2 1@mgw MGCP 1.0\r\nM: sendrecv\r\nC: 1\r\n") none), .loop ⟨0, 1⟩ true]

/-- After that the mode is restored. -/
theorem restoresMode_iff_modified :
    RestoresMode ⟨0, 1⟩ (loopRun modifiedCall).1 (loopRun modifiedCall).2 ∧ (loopRun modifiedCall).2.mode = .recvSend :=
  ⟨(restoresMode_iff started_forcedStart (reachable_loopRun modifiedCall)).mpr fun _ _ _ => by decide +kernel,
    by decide +kernel⟩

/-- The first call, and looping. -/
def loopedCall : List LoopEvent := [.agent (.message firstCall none), .loop ⟨0, 1⟩ true]

/-- **The mode of a call that only a CRCX has commanded** is lost. -/
theorem not_restoresMode :
    Reachable (loopGateway forcedStart ⟨0, 1⟩) ((loopRun loopedCall).1, (loopRun loopedCall).2) ∧
      ¬ RestoresMode ⟨0, 1⟩ (loopRun loopedCall).1 (loopRun loopedCall).2 := by
  refine ⟨reachable_loopRun loopedCall, fun hrestores => ?_⟩
  obtain ⟨endp, hendp, hmode⟩ : ∃ endp ∈ ((loopRun loopedCall).1.loopEndp ⟨0, 1⟩ false).endp? ⟨0, 1⟩,
      endp.connMode ≠ (loopRun loopedCall).2.mode := by decide +kernel
  exact hmode (hrestores.off (by decide) endp hendp)

end Runs

end OpenBsc.Mgcp
