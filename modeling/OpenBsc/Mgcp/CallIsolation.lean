import OpenBsc.Mgcp.LinesRead
import OpenBsc.Lib.Decimal

/-!
# `Mgcp.CallIsolation` — requests with the identifiers of another call (`mgcp_protocol.c`)

A CRCX for an endpoint in use compares as many octets as the call id of the endpoint has, so a call id that begins with
that one is taken for it. An MDCX and a DLCX compare call ids as strings, and of a connection id the number that it
begins with, modulo 2^32. An MDCX applies what stands before the line that is refused.

Nothing but the endpoint that is named is touched, and what the answer to a CRCX said of a connection stays so as long
as the connection lasts. So the identical CRCX repeats the answer, where the gateway takes it for that.
-/

namespace OpenBsc.Mgcp

open Scan Transition MgcpConfig List Option

/-! ## The other endpoints -/

variable {l3h : List Octet}

namespace MgcpConfig

/-- No other endpoint is changed, nor what an answer says of the gateway. -/
structure Elsewhere (r : EndpRef) (cfg cfg' : MgcpConfig) : Prop where
  endp : ∀ r', r' ≠ r → cfg'.endp? r' = cfg.endp? r'
  audio : ∀ k, (cfg'.trunk? k).map MgcpTrunkConfig.audioName = (cfg.trunk? k).map MgcpTrunkConfig.audioName
  localIp : cfg'.localIp = cfg.localIp
  sourceAddr : cfg'.sourceAddr = cfg.sourceAddr

section Elsewhere

variable {cfg cfg' cfg'' : MgcpConfig} {r : EndpRef} {e : EndRef}

theorem Elsewhere.refl (cfg : MgcpConfig) : Elsewhere r cfg cfg := ⟨fun _ _ => rfl, fun _ => rfl, rfl, rfl⟩

theorem Elsewhere.trans (h : Elsewhere r cfg cfg') (h' : Elsewhere r cfg' cfg'') : Elsewhere r cfg cfg'' where
  endp r' hr' := (h'.endp r' hr').trans (h.endp r' hr')
  audio k := (h'.audio k).trans (h.audio k)
  localIp := h'.localIp.trans h.localIp
  sourceAddr := h'.sourceAddr.trans h.sourceAddr

theorem elsewhere_modifyEndp (f : MgcpEndpoint → MgcpEndpoint) : Elsewhere r cfg (cfg.modifyEndp r f) := by
  refine ⟨fun r' hr' => ?_, fun k => ?_, ?_, ?_⟩
  · rw [endp?_modifyEndp, if_neg hr']
  · rw [modifyEndp, trunk?_modifyTrunk]
    split
    · rw [Option.map_map]
      rfl
    · rfl
  · obtain ⟨k, i⟩ := r
    cases k <;> rfl
  · obtain ⟨k, i⟩ := r
    cases k <;> rfl

theorem elsewhere_lastCallId (id : BitVec 32) : Elsewhere r cfg { cfg with lastCallId := id } :=
  ⟨fun r' _ => by obtain ⟨k, i⟩ := r'; cases k <;> rfl, fun k => by cases k <;> rfl, rfl, rfl⟩

theorem elsewhere_allocatePorts : Elsewhere r cfg (cfg.allocatePorts r).1 := by
  refine closure_preserves (I := Elsewhere r cfg) (fun a b h hop => h.trans ?_) portOps_allocatePorts (.refl cfg)
  cases hop with
  | endp f _ => exact elsewhere_modifyEndp f
  | range range side => cases side <;> exact ⟨fun _ _ => rfl, fun k => by cases k <;> rfl, rfl, rfl⟩

theorem elsewhere_createOnFree (trans callid mode : List Octet) (localOptions : Option (List Octet))
    (policy : Option MgcpPolicy) :
    Elsewhere r cfg (cfg.createOnFree r trans callid mode localOptions policy).1 := by
  have hfree : ∀ {cfg'}, Elsewhere r cfg cfg' → Elsewhere r cfg (cfg'.mgcpFreeEndp r) :=
    fun h => h.trans (elsewhere_modifyEndp _)
  have hcopy : Elsewhere r cfg (cfg.copyParams r callid localOptions) := elsewhere_modifyEndp _
  cases hmode : parseConnMode mode with
  | none =>
    simp only [createOnFree, hmode]
    exact hfree hcopy
  | some connMode =>
    have hclear : Elsewhere r cfg ((cfg.copyParams r callid localOptions).clearPeers r connMode) :=
      hcopy.trans (elsewhere_modifyEndp _)
    have hports := hclear.trans elsewhere_allocatePorts
    simp only [createOnFree, hmode]
    generalize ((cfg.copyParams r callid localOptions).clearPeers r connMode).allocatePorts r = ports at hports ⊢
    have hconnect : Elsewhere r cfg (ports.1.connect r) :=
      (hports.trans (elsewhere_lastCallId _)).trans (elsewhere_modifyEndp _)
    have htranscoder : Elsewhere r cfg ((ports.1.connect r).createTranscoder r) :=
      hconnect.trans (elsewhere_modifyEndp _)
    split
    · exact hfree hports
    · split
      · exact hfree (hports.trans (elsewhere_lastCallId _))
      · split
        · exact hfree hconnect
        · exact htranscoder
        · exact htranscoder

variable {policy : Option MgcpPolicy}

section

variable (hr : ∀ r', (mgcpAnalyzeHeader cfg l3h).endp = some r' → r' = r)

include hr

theorem elsewhere_handleCreateCon :
    Elsewhere r cfg (cfg.handleCreateCon l3h policy).1 := by
  unfold handleCreateCon
  dsimp only
  cases hnamed : (mgcpAnalyzeHeader cfg l3h).endp with
  | none => exact .refl cfg
  | some r' =>
    obtain rfl := hr r' hnamed
    dsimp only
    rcases tokenize createLine 400 true [] {} (mgcpAnalyzeHeader cfg l3h).l3h with ⟨params, code⟩
    cases code with
    | some code => exact .refl cfg
    | none =>
      dsimp only
      unfold createWith
      split
      · dsimp only
        split
        · split
          · exact .refl cfg
          · split
            · exact (elsewhere_modifyEndp _).trans (elsewhere_createOnFree _ _ _ _ _)
            · exact .refl cfg
        · exact elsewhere_createOnFree _ _ _ _ _
      · exact .refl cfg

theorem elsewhere_handleModifyCon :
    Elsewhere r cfg (cfg.handleModifyCon l3h policy).1 := by
  unfold handleModifyCon
  dsimp only
  cases hnamed : (mgcpAnalyzeHeader cfg l3h).endp with
  | none => exact .refl cfg
  | some r' =>
    obtain rfl := hr r' hnamed
    dsimp only
    split
    · exact .refl cfg
    · split
      all_goals exact elsewhere_modifyEndp _

theorem elsewhere_handleDeleteCon :
    Elsewhere r cfg (cfg.handleDeleteCon l3h policy).1 := by
  unfold handleDeleteCon
  dsimp only
  cases hnamed : (mgcpAnalyzeHeader cfg l3h).endp with
  | none => exact .refl cfg
  | some r' =>
    obtain rfl := hr r' hnamed
    dsimp only
    split
    · exact .refl cfg
    · split
      · exact .refl cfg
      · unfold deleted
        split
        · exact .refl cfg
        · exact .refl cfg
        · exact elsewhere_modifyEndp _

end

end Elsewhere

end MgcpConfig

/-! ## A CRCX for an endpoint in use -/

/-- A CRCX is taken for one of the call: its lines are well formed, it has a mode, and its call id begins with that of
    the call. -/
structure TakenFor (callid : List Octet) (lines : List (List Octet)) : Prop where
  proper : ∀ cur ∈ lines, properParam cur = true
  mode : lastValue 'M' lines ≠ none
  callid : ∃ id, lastValue 'C' lines = some id ∧ callid <+: id

/-- The endpoint is in use by the call with this id. -/
structure MgcpEndpoint.UsedBy (endp : MgcpEndpoint) (callid : List Octet) : Prop where
  allocated : endp.allocated = true
  ci : endp.ci ≠ ciUnused
  callid : endp.callid = some callid

namespace MgcpConfig

section CreateInUse

variable {cfg : MgcpConfig} {r : EndpRef} {endp : MgcpEndpoint} {l3h callid mode : List Octet}
  {policy : Option MgcpPolicy}

/-- An endpoint that is given to another call has another life. -/
theorem life?_createOnFree_ne {life : Life} {trans : List Octet} {localOptions : Option (List Octet)}
    (hr : (cfg.endp? r).isSome) (halloc : life.allocated = true) (hcallid : life.callid ≠ some callid) :
    ((cfg.mgcpFreeEndp r).createOnFree r trans callid mode localOptions policy).1.life? r ≠ some life := by
  obtain ⟨endp, hendp⟩ := isSome_iff_exists.mp hr
  have hidle : (cfg.mgcpFreeEndp r).life? r = some .idle := by
    rw [life?_mgcpFreeEndp, if_pos rfl, life?, hendp]
    rfl
  intro hlife
  rcases createOnFree_lives trans callid mode localOptions policy hidle with ⟨hfreed, -⟩ | ⟨-, hconnected, -⟩
  · rw [hfreed r, if_pos rfl, hidle] at hlife
    cases hlife
    cases halloc
  · rw [hconnected r, if_pos rfl, hidle] at hlife
    cases hlife
    exact hcallid rfl

/-- **A CRCX that is taken for one of the call** changes nothing and is answered with its connection. -/
theorem handleCreateCon_takenFor (hr : (mgcpAnalyzeHeader cfg l3h).endp = some r) (hendp : cfg.endp? r = some endp)
    (hused : endp.UsedBy callid) (h : TakenFor callid (linesRead l3h)) :
    cfg.handleCreateCon l3h policy = (cfg, some (cfg.createResponseWithSdp r (mgcpAnalyzeHeader cfg l3h).trans)) := by
  obtain ⟨id, hid, hpre⟩ := h.callid
  obtain ⟨mode, hmode⟩ := ne_none_iff_exists'.mp h.mode
  rw [handleCreateCon_lines hr, createParams, if_pos h.proper]
  unfold createWith
  dsimp only
  rw [hid, hmode]
  dsimp only
  rw [hendp, getD_some, if_pos hused.allocated, hused.callid, getD_some, if_pos (List.isPrefixOf_iff_prefix.mpr hpre)]

/-- What a request that replaces the call does: what it would do if the endpoint were free, and the call is gone. -/
structure Replaced (cfg : MgcpConfig) (r : EndpRef) (l3h : List Octet) (policy : Option MgcpPolicy)
    (out : MgcpConfig × Option MgcpResponse) : Prop where
  forced : cfg.forcesRealloc r = true
  asFree : out = (cfg.mgcpFreeEndp r).handleCreateCon l3h policy
  gone : out.1.life? r ≠ cfg.life? r

/-- **Any other CRCX** is refused, or replaces the call where that is forced. -/
theorem handleCreateCon_other (hr : (mgcpAnalyzeHeader cfg l3h).endp = some r) (hendp : cfg.endp? r = some endp)
    (hused : endp.UsedBy callid) (h : ¬ TakenFor callid (linesRead l3h)) :
    (∃ code, cfg.handleCreateCon l3h policy =
      (cfg, some (createErrResponse code (mgcpAnalyzeHeader cfg l3h).trans))) ∨
    Replaced cfg r l3h policy (cfg.handleCreateCon l3h policy) := by
  have hcreate : cfg.handleCreateCon l3h policy = _ := handleCreateCon_lines hr
  have hfreed : (cfg.mgcpFreeEndp r).handleCreateCon l3h policy =
      (cfg.mgcpFreeEndp r).createWith r (mgcpAnalyzeHeader cfg l3h).trans (createParams (linesRead l3h)) policy := by
    have hheader : mgcpAnalyzeHeader (cfg.mgcpFreeEndp r) l3h = mgcpAnalyzeHeader cfg l3h :=
      (sameNames_modifyEndp _ _ _).header _
    rw [handleCreateCon_lines (by rw [hheader, hr]), hheader]
  cases hid : (createParams (linesRead l3h)).callid with
  | none =>
    refine .inl ⟨400, ?_⟩
    rw [hcreate, createWith, hid]
  | some id =>
    cases hmode : (createParams (linesRead l3h)).mode with
    | none =>
      refine .inl ⟨400, ?_⟩
      rw [hcreate, createWith, hid, hmode]
    | some mode =>
      have hpre : ¬ callid <+: id := by
        intro hpre
        unfold createParams at hid hmode
        split at hid
        case isTrue hproper =>
          rw [if_pos hproper] at hmode
          exact h ⟨hproper, by rw [show lastValue 'M' _ = some mode from hmode]; exact some_ne_none _, id, hid, hpre⟩
        case isFalse => cases hid
      have hne : ¬ callid.isPrefixOf id = true := fun hpre' => hpre (List.isPrefixOf_iff_prefix.mp hpre')
      have hout : cfg.handleCreateCon l3h policy =
          if cfg.forcesRealloc r then
            (cfg.mgcpFreeEndp r).createOnFree r (mgcpAnalyzeHeader cfg l3h).trans id mode
              (createParams (linesRead l3h)).localOptions policy
          else (cfg, some (createErrResponse 400 (mgcpAnalyzeHeader cfg l3h).trans)) := by
        rw [hcreate, createWith, hid, hmode]
        dsimp only
        rw [hendp, getD_some, if_pos hused.allocated, hused.callid, getD_some, if_neg hne]
        rfl
      by_cases hforce : cfg.forcesRealloc r = true
      · rw [hout, if_pos hforce]
        refine .inr ⟨hforce, ?_, ?_⟩
        · rw [hfreed, createWith, hid, hmode]
          dsimp only
          rw [mgcpFreeEndp, endp?_modifyEndp, if_pos rfl, hendp]
          rfl
        · have hlife : cfg.life? r = some endp.life := life?_eq_some.mpr ⟨endp, hendp, rfl⟩
          rw [hlife]
          refine life?_createOnFree_ne (isSome_iff_exists.mpr ⟨endp, hendp⟩) hused.allocated fun heq => ?_
          have hsame : some callid = some id := hused.callid.symm.trans heq
          exact hpre (some.inj hsame ▸ prefix_rfl)
      · rw [hout, if_neg hforce]
        exact .inl ⟨400, rfl⟩

end CreateInUse

end MgcpConfig

namespace MgcpConfig

/-! ## The answer of a connection -/

/-- What an answer says of the connection. -/
def record (cfg : MgcpConfig) (r : EndpRef) : SdpRecord where
  ci := ((cfg.endp? r).getD {}).ci
  addr := cfg.localIp.getD cfg.sourceAddr
  port := ((cfg.endp? r).getD {}).netEnd.localPort
  payloadType := ((cfg.endp? r).getD {}).btsEnd.payloadType
  audioName := ((cfg.trunk? r.trunk).map (·.audioName)).getD []

section Record

variable {cfg cfg' : MgcpConfig} {r r' : EndpRef} {endp : MgcpEndpoint} {trans callid mode : List Octet}
  {localOptions : Option (List Octet)} {policy : Option MgcpPolicy}

theorem data_createResponseWithSdp (cfg : MgcpConfig) (r : EndpRef) (trans : List Octet) :
    (cfg.createResponseWithSdp r trans).data = some (cfg.record r) := rfl

theorem Elsewhere.record (h : Elsewhere r' cfg cfg') (hr : r ≠ r') : cfg'.record r = cfg.record r := by
  unfold MgcpConfig.record
  rw [h.endp r hr, h.audio, h.localIp, h.sourceAddr]

theorem record_modifyEndp {f : MgcpEndpoint → MgcpEndpoint} (hendp : cfg.endp? r = some endp)
    (hci : (f endp).ci = endp.ci) (hport : (f endp).netEnd.localPort = endp.netEnd.localPort)
    (hpayload : (f endp).btsEnd.payloadType = endp.btsEnd.payloadType) :
    (cfg.modifyEndp r f).record r = cfg.record r := by
  have helse : Elsewhere r cfg (cfg.modifyEndp r f) := elsewhere_modifyEndp f
  unfold record
  rw [helse.audio, helse.localIp, helse.sourceAddr, endp?_modifyEndp, if_pos rfl, hendp]
  simp only [map_some, getD_some, hci, hport, hpayload]

theorem named_ne (hr : (mgcpAnalyzeHeader cfg l3h).endp ≠ some r) :
    ∃ r', r ≠ r' ∧ ∀ r'', (mgcpAnalyzeHeader cfg l3h).endp = some r'' → r'' = r' := by
  cases hnamed : (mgcpAnalyzeHeader cfg l3h).endp with
  | none => exact ⟨⟨r.trunk, r.nr + 1⟩, fun heq => absurd (congrArg EndpRef.nr heq) (by simp), nofun⟩
  | some r' => exact ⟨r', fun heq => hr (hnamed.trans (congrArg some heq.symm)), fun r'' h => (some.inj h).symm⟩

theorem record_handleCreateCon (hendp : cfg.endp? r = some endp) (hused : endp.UsedBy callid)
    (hlife : (cfg.handleCreateCon l3h policy).1.life? r = cfg.life? r) :
    (cfg.handleCreateCon l3h policy).1.record r = cfg.record r := by
  by_cases hr : (mgcpAnalyzeHeader cfg l3h).endp = some r
  · by_cases htaken : TakenFor callid (linesRead l3h)
    · rw [handleCreateCon_takenFor hr hendp hused htaken]
    · rcases handleCreateCon_other hr hendp hused htaken with ⟨code, hrefused⟩ | hreplaced
      · rw [hrefused]
      · exact absurd hlife hreplaced.gone
  · obtain ⟨r', hne, hnamed⟩ := named_ne hr
    exact (elsewhere_handleCreateCon hnamed).record hne

theorem record_handleModifyCon (hendp : cfg.endp? r = some endp) (hused : endp.UsedBy callid) :
    (cfg.handleModifyCon l3h policy).1.record r = cfg.record r := by
  by_cases hr : (mgcpAnalyzeHeader cfg l3h).endp = some r
  · rw [handleModifyCon_connected hr hendp hused.ci]
    exact record_modifyEndp hendp rfl rfl rfl
  · obtain ⟨r', hne, hnamed⟩ := named_ne hr
    exact (elsewhere_handleModifyCon hnamed).record hne

theorem life?_foldl_mgcpFreeEndp (refs : List EndpRef) :
    (refs.foldl mgcpFreeEndp cfg).life? r = if r ∈ refs then (cfg.life? r).map fun _ => Life.idle else cfg.life? r := by
  induction refs generalizing cfg with
  | nil => rfl
  | cons r' refs ih =>
    rw [foldl_cons, ih, life?_mgcpFreeEndp]
    by_cases hr : r = r'
    · subst hr
      rw [if_pos rfl, if_pos mem_cons_self]
      split
      · rw [Option.map_map]
        rfl
      · rfl
    · simp only [mem_cons, hr, false_or, if_false]

/-- Freeing endpoints leaves a connection alone, or ends it. -/
theorem record_foldl_mgcpFreeEndp {refs : List EndpRef} (hendp : cfg.endp? r = some endp) (hused : endp.UsedBy callid)
    (hlife : (refs.foldl mgcpFreeEndp cfg).life? r = cfg.life? r) :
    (refs.foldl mgcpFreeEndp cfg).record r = cfg.record r := by
  have hne : r ∉ refs := by
    intro hmem
    have hold : cfg.life? r = some endp.life := life?_eq_some.mpr ⟨endp, hendp, rfl⟩
    rw [life?_foldl_mgcpFreeEndp, if_pos hmem, hold] at hlife
    have hidle : Life.idle = endp.life := some.inj hlife
    have halloc : endp.allocated = false := (congrArg Life.allocated hidle).symm
    rw [hused.allocated] at halloc
    cases halloc
  clear hlife hused hendp
  induction refs generalizing cfg with
  | nil => rfl
  | cons r' refs ih =>
    obtain ⟨hr, hrefs⟩ := not_or.mp (mt mem_cons.mpr hne)
    have hfirst : (cfg.mgcpFreeEndp r').record r = cfg.record r := (elsewhere_modifyEndp _).record hr
    rw [foldl_cons, ih hrefs, hfirst]

/-- **While a connection lasts, its record stays.** -/
theorem record_step {ev : MgcpEvent} (hendp : cfg.endp? r = some endp) (hused : endp.UsedBy callid)
    (hlife : (cfg.step ev).life? r = cfg.life? r) : (cfg.step ev).record r = cfg.record r := by
  have hcase := cfg.step_case ev
  generalize cfg.step ev = cfg' at hcase hlife ⊢
  cases hcase with
  | same => rfl
  | created policy _ => exact record_handleCreateCon hendp hused hlife
  | modified policy _ => exact record_handleModifyCon hendp hused
  | freed _ refs => exact record_foldl_mgcpFreeEndp hendp hused hlife

/-- What is answered of a connection is its record. -/
def AnswersRecord (r : EndpRef) (out : MgcpConfig × Option MgcpResponse) : Prop :=
  ∀ answer data, out.2 = some answer → answer.data = some data → out.1.record r = data

theorem answersRecord_error (code : Nat) : AnswersRecord r (cfg, some (createErrResponse code trans)) := by
  intro answer data hanswer hdata
  rw [← some.inj hanswer] at hdata
  cases hdata

theorem answersRecord_sdp : AnswersRecord r (cfg, some (cfg.createResponseWithSdp r trans)) := by
  intro answer data hanswer hdata
  rw [← some.inj hanswer, data_createResponseWithSdp] at hdata
  exact some.inj hdata

theorem answersRecord_createOnFree :
    AnswersRecord r (cfg.createOnFree r trans callid mode localOptions policy) := by
  unfold createOnFree
  dsimp only
  split
  · exact answersRecord_error 517
  split
  · exact answersRecord_error 400
  split
  · exact answersRecord_error 400
  split
  · exact answersRecord_error 400
  · exact nofun
  · exact answersRecord_sdp

theorem answersRecord_handleCreateCon (hr : (mgcpAnalyzeHeader cfg l3h).endp = some r) :
    AnswersRecord r (cfg.handleCreateCon l3h policy) := by
  unfold handleCreateCon
  dsimp only
  rw [hr]
  dsimp only
  split
  · exact answersRecord_error _
  · unfold createWith
    split
    · dsimp only
      split
      · split
        · exact answersRecord_sdp
        · split
          · exact answersRecord_createOnFree
          · exact answersRecord_error 400
      · exact answersRecord_createOnFree
    · exact answersRecord_error 400

/-- What a CRCX for the connection that the endpoint has was answered. -/
inductive AnsweredWith (r : EndpRef) (first : SdpRecord) : MgcpConfig → Prop where
  | created {cfg : MgcpConfig} {l3h : List Octet} {policy : Option MgcpPolicy} {answer : MgcpResponse}
      (hr : (mgcpAnalyzeHeader cfg l3h).endp = some r) (hanswer : (cfg.handleCreateCon l3h policy).2 = some answer)
      (hdata : answer.data = some first) : AnsweredWith r first (cfg.handleCreateCon l3h policy).1
  | kept {cfg : MgcpConfig} {ev : MgcpEvent} {endp : MgcpEndpoint} {callid : List Octet} (h : AnsweredWith r first cfg)
      (hendp : cfg.endp? r = some endp) (hused : endp.UsedBy callid)
      (hlife : (cfg.step ev).life? r = cfg.life? r) : AnsweredWith r first (cfg.step ev)

theorem AnsweredWith.record {first : SdpRecord} (h : AnsweredWith r first cfg) : cfg.record r = first := by
  induction h with
  | created hr hanswer hdata => exact answersRecord_handleCreateCon hr _ _ hanswer hdata
  | kept _ hendp hused hlife ih => exact (record_step hendp hused hlife).trans ih

end Record

end MgcpConfig

/-! ## Isolation -/

/-- The values of the lines with this letter, of those that are well formed. -/
def lineValues (c : Char) (l3h : List Octet) : List (List Octet) :=
  (((paramLines true [] l3h).filter properParam).map chomp).filterMap (lineValue c)

/-- The request carries a call id that is not this one, or a connection id that is not the text of this one. -/
def Foreign (ci : BitVec 32) (callid l3h : List Octet) : Prop :=
  (∃ id ∈ lineValues 'C' l3h, id ≠ callid) ∨ ∃ id ∈ lineValues 'I' l3h, id ≠ decimal ci.toNat

/-- The request carries this call id and no other. -/
def SameCall (callid l3h : List Octet) : Prop := lineValues 'C' l3h ≠ [] ∧ ∀ id ∈ lineValues 'C' l3h, id = callid

/-- The requests about connections. -/
inductive CallVerb where
  | crcx
  | mdcx
  | dlcx

/-- The verb as it stands in a request. -/
def CallVerb.text : CallVerb → List Octet
  | .crcx => octets "CRCX"
  | .mdcx => octets "MDCX"
  | .dlcx => octets "DLCX"

/-- What the verb is handled with. -/
def MgcpConfig.handleCall (cfg : MgcpConfig) (l3h : List Octet) (policy : Option MgcpPolicy) :
    CallVerb → MgcpConfig × Option MgcpResponse
  | .crcx => cfg.handleCreateCon l3h policy
  | .mdcx => cfg.handleModifyCon l3h policy
  | .dlcx => cfg.handleDeleteCon l3h policy

theorem mgcpHandleMessage_call (cfg : MgcpConfig) (verb : CallVerb) (l3h : List Octet) (policy : Option MgcpPolicy) :
    cfg.mgcpHandleMessage (verb.text ++ l3h) policy = cfg.handleCall l3h policy verb := by
  have hlength : verb.text.length = 4 := by cases verb <;> rfl
  have hscan : (scanInt 3 (verb.text ++ l3h)).isSome = false := by cases verb <;> rfl
  unfold mgcpHandleMessage
  rw [take_left' hlength, drop_left' hlength, hscan, if_neg (by simp [hlength])]
  cases verb <;> rfl

/-- The endpoint is not changed, and the answer has no data of its connection. -/
def Untouched (cfg : MgcpConfig) (r : EndpRef) (l3h : List Octet) (out : MgcpConfig × Option MgcpResponse) : Prop :=
  out.1.endp? r = cfg.endp? r ∧
    ((mgcpAnalyzeHeader cfg l3h).endp = some r → ∀ answer, out.2 = some answer → answer.data = none)

/-- Nothing is changed, and the answer has the data that a CRCX for the connection was answered with. -/
def RepeatsAnswer (cfg : MgcpConfig) (r : EndpRef) (out : MgcpConfig × Option MgcpResponse) : Prop :=
  out.1 = cfg ∧ ∃ answer data, out.2 = some answer ∧ answer.data = some data ∧
    ∀ first, cfg.AnsweredWith r first → first = data

/-- **Isolation of a call.** A request with the identifiers of another one leaves its endpoint alone, except that a CRCX
    where reallocation is forced replaces the call; and the identical CRCX repeats the answer. -/
structure CallIsolated (cfg : MgcpConfig) (r : EndpRef) (verb : CallVerb) (l3h : List Octet)
    (policy : Option MgcpPolicy) : Prop where
  foreign : ∀ endp callid, cfg.endp? r = some endp → endp.UsedBy callid → Foreign endp.ci callid l3h →
    Untouched cfg r l3h (cfg.mgcpHandleMessage (verb.text ++ l3h) policy) ∨
      (verb = .crcx ∧ cfg.Replaced r l3h policy (cfg.mgcpHandleMessage (verb.text ++ l3h) policy))
  same : ∀ endp callid, verb = .crcx → (mgcpAnalyzeHeader cfg l3h).endp = some r → cfg.endp? r = some endp →
    endp.UsedBy callid → SameCall callid l3h →
    RepeatsAnswer cfg r (cfg.mgcpHandleMessage (verb.text ++ l3h) policy)

/-- What lines of an MDCX say last, the endpoint has already. -/
structure SaysNothing (endp : MgcpEndpoint) (lines : List (List Octet)) : Prop where
  mode : ∀ mode, lastOf lineMode lines = some mode → mode = endp.connMode ∧ mode = endp.origMode
  media : ∀ port payload, lastOf lineMedia lines = some (port, payload) →
    (port % 65536).toNat = endp.netEnd.rtpPort ∧ ((port + 1) % 65536).toNat = endp.netEnd.rtcpPort ∧
      payload = endp.netEnd.payloadType
  addr : ∀ addr, lastOf lineAddr lines = some addr → addr = endp.netEnd.addr

/-- The policy rejects the request, or defers it. -/
def Stopped (policy : Option MgcpPolicy) : Prop := policy = some .reject ∨ policy = some .defer

/-- The request is refused at an endpoint in use as far as it has to be, and not where it must not be. Of the lines that
    are read one has to be malformed, or to have another string as call id, or another number modulo 2^32 as connection
    id, or in an MDCX a mode that is none; and those before it in an MDCX say nothing. -/
def Heeds (endp : MgcpEndpoint) (callid l3h : List Octet) (policy : Option MgcpPolicy) : CallVerb → Prop
  | .crcx => (Foreign endp.ci callid l3h → ¬ TakenFor callid (linesRead l3h)) ∧
      (SameCall callid l3h → TakenFor callid (linesRead l3h))
  | .mdcx => Foreign endp.ci callid l3h → SaysNothing endp (heeded callid endp.ci (linesRead l3h)) ∧
      ((∃ cur ∈ linesRead l3h, modifyError callid endp.ci cur ≠ none) ∨ Stopped policy ∨
        lastOf lineSilent (heeded callid endp.ci (linesRead l3h)) = some true)
  | .dlcx => Foreign endp.ci callid l3h →
      (∃ cur ∈ linesRead l3h, deleteRefused callid endp.ci cur = true) ∨ Stopped policy

/-- The request names another endpoint, or is refused as far as it has to be. -/
def KeepsApart (cfg : MgcpConfig) (r : EndpRef) (verb : CallVerb) (l3h : List Octet) (policy : Option MgcpPolicy) :
    Prop :=
  ∀ endp callid, (mgcpAnalyzeHeader cfg l3h).endp = some r → cfg.endp? r = some endp → endp.UsedBy callid →
    Heeds endp callid l3h policy verb

section Isolated

variable {cfg : MgcpConfig} {r : EndpRef} {endp : MgcpEndpoint} {verb : CallVerb} {l3h callid : List Octet}
  {policy : Option MgcpPolicy}

/-- A request for another endpoint. -/
theorem untouched_of_ne (hr : (mgcpAnalyzeHeader cfg l3h).endp ≠ some r) :
    Untouched cfg r l3h (cfg.handleCall l3h policy verb) := by
  obtain ⟨r', hne, hnamed⟩ := named_ne hr
  refine ⟨?_, fun h => absurd h hr⟩
  cases verb with
  | crcx => exact (elsewhere_handleCreateCon hnamed).endp r hne
  | mdcx => exact (elsewhere_handleModifyCon hnamed).endp r hne
  | dlcx => exact (elsewhere_handleDeleteCon hnamed).endp r hne

theorem saysNothing_iff {buf : List Octet} :
    SaysNothing endp (acceptedLines endp buf) ↔ afterLines endp buf = endp := by
  constructor
  · rintro ⟨hmode, hmedia, haddr⟩
    have hconnection := repeats_iff.mp ⟨fun mode hlast => (hmode mode hlast).1, hmedia, haddr⟩
    have hconn : (afterLines endp buf).connMode = endp.connMode := congrArg Prod.fst hconnection
    have hnet : (afterLines endp buf).netEnd = endp.netEnd := congrArg (·.2.2.1) hconnection
    have horig : (afterLines endp buf).origMode = endp.origMode :=
      getD_eq_self_iff.mpr fun mode hlast => (hmode mode hlast).2
    calc afterLines endp buf
        = { endp with connMode := (afterLines endp buf).connMode, origMode := (afterLines endp buf).origMode,
                      netEnd := (afterLines endp buf).netEnd } := rfl
      _ = endp := by rw [hconn, horig, hnet]
  · intro h
    obtain ⟨hmode, hmedia, haddr⟩ := repeats_iff.mpr (congrArg MgcpEndpoint.connection h)
    have horig := getD_eq_self_iff.mp (congrArg MgcpEndpoint.origMode h)
    exact ⟨fun mode hlast => ⟨hmode mode hlast, horig mode hlast⟩, hmedia, haddr⟩

section

variable (hr : (mgcpAnalyzeHeader cfg l3h).endp = some r) (hendp : cfg.endp? r = some endp) (hused : endp.UsedBy callid)

include hr hendp hused

theorem untouched_crcx_iff :
    Untouched cfg r l3h (cfg.handleCreateCon l3h policy) ∨ cfg.Replaced r l3h policy (cfg.handleCreateCon l3h policy) ↔
      ¬ TakenFor callid (linesRead l3h) := by
  constructor
  · rintro h htaken
    rw [handleCreateCon_takenFor hr hendp hused htaken] at h
    rcases h with huntouched | hreplaced
    · have hnone := huntouched.2 hr _ rfl
      cases hnone
    · exact hreplaced.gone rfl
  · intro h
    rcases handleCreateCon_other hr hendp hused h with ⟨code, hrefused⟩ | hreplaced
    · rw [hrefused]
      refine .inl ⟨rfl, fun _ answer hanswer => ?_⟩
      rw [← some.inj hanswer]
      rfl
    · exact .inr hreplaced

theorem repeatsAnswer_iff :
    RepeatsAnswer cfg r (cfg.handleCreateCon l3h policy) ↔ TakenFor callid (linesRead l3h) := by
  constructor
  · rintro ⟨hsame, answer, data, hanswer, hdata, -⟩
    by_contra h
    rcases handleCreateCon_other hr hendp hused h with ⟨code, hrefused⟩ | hreplaced
    · rw [hrefused] at hanswer
      rw [← some.inj hanswer] at hdata
      cases hdata
    · exact hreplaced.gone (by rw [hsame])
  · intro htaken
    rw [handleCreateCon_takenFor hr hendp hused htaken]
    exact ⟨rfl, _, _, rfl, rfl, fun first hfirst => hfirst.record.symm⟩

theorem untouched_mdcx_iff :
    Untouched cfg r l3h (cfg.handleModifyCon l3h policy) ↔
      SaysNothing endp (heeded callid endp.ci (linesRead l3h)) ∧
        ((∃ cur ∈ linesRead l3h, modifyError callid endp.ci cur ≠ none) ∨ Stopped policy ∨
          lastOf lineSilent (heeded callid endp.ci (linesRead l3h)) = some true) := by
  obtain ⟨hlines, hrefusal⟩ := modifyLines_eq hr endp
  have hsilent : silenced endp (mgcpAnalyzeHeader cfg l3h).l3h = true ↔
      lastOf lineSilent (acceptedLines endp (mgcpAnalyzeHeader cfg l3h).l3h) = some true := by
    unfold silenced
    cases lastOf lineSilent (acceptedLines endp (mgcpAnalyzeHeader cfg l3h).l3h) with
    | none | some => simp
  have hfirst : firstRefusal endp (mgcpAnalyzeHeader cfg l3h).l3h ≠ none ↔
      ∃ cur ∈ linesRead l3h, modifyError callid endp.ci cur ≠ none := by
    rw [hrefusal, hused.callid, Ne, findSome?_eq_none_iff]
    simp
  rw [← hused.callid, ← hlines, hused.callid, ← hsilent, ← hfirst, saysNothing_iff,
    handleModifyCon_connected hr hendp hused.ci]
  unfold Untouched
  dsimp only
  rw [endp?_modifyEndp, if_pos rfl, hendp, map_some, some.injEq]
  refine and_congr_right fun _ => ?_
  rw [forall_prop_of_true hr]
  cases firstRefusal endp (mgcpAnalyzeHeader cfg l3h).l3h with
  | some code => simp [createErrResponse]
  | none =>
    unfold Stopped modified
    cases silenced endp (mgcpAnalyzeHeader cfg l3h).l3h <;> rcases policy with - | (- | - | -) <;>
      simp [data_createResponseWithSdp, createErrResponse]

theorem untouched_dlcx_iff :
    Untouched cfg r l3h (cfg.handleDeleteCon l3h policy) ↔
      (∃ cur ∈ linesRead l3h, deleteRefused callid endp.ci cur = true) ∨ Stopped policy := by
  have hfreed : (cfg.mgcpFreeEndp r).endp? r ≠ cfg.endp? r := by
    rw [mgcpFreeEndp, endp?_modifyEndp, if_pos rfl, hendp, map_some]
    intro heq
    have halloc : false = endp.allocated := congrArg MgcpEndpoint.allocated (some.inj heq)
    rw [hused.allocated] at halloc
    cases halloc
  rw [← List.any_eq_true, handleDeleteCon_lines hr hendp hused.allocated, hused.callid]
  unfold Untouched
  cases (linesRead l3h).any (deleteRefused callid endp.ci) with
  | true => simp [createErrResponse, hendp]
  | false =>
    unfold Stopped deleted
    rw [hendp] at hfreed
    cases noAnswer (linesRead l3h) <;> rcases policy with - | (- | - | -) <;>
      simp [createErrResponse, hendp, hfreed]

end

/-- **MGCP call isolation.** A request keeps the calls apart exactly when it names another endpoint, or: a CRCX with
    another identifier has no call id that begins with that of the call, one with the same is complete; an MDCX with
    another identifier says nothing new before it is refused; a DLCX with another identifier is refused. -/
theorem callIsolated_iff : CallIsolated cfg r verb l3h policy ↔ KeepsApart cfg r verb l3h policy := by
  constructor
  · rintro ⟨hforeign, hsame⟩ endp callid hr hendp hused
    rw [mgcpHandleMessage_call] at hforeign hsame
    cases verb with
    | crcx =>
      refine ⟨fun hf => ?_, fun hs => ?_⟩
      · have hout := (hforeign endp callid hendp hused hf).imp_right And.right
        exact (untouched_crcx_iff hr hendp hused).mp hout
      · have hout := hsame endp callid rfl hr hendp hused hs
        exact (repeatsAnswer_iff hr hendp hused).mp hout
    | mdcx =>
      intro hf
      exact (untouched_mdcx_iff hr hendp hused).mp
        ((hforeign endp callid hendp hused hf).resolve_right fun h => absurd h.1 nofun)
    | dlcx =>
      intro hf
      exact (untouched_dlcx_iff hr hendp hused).mp
        ((hforeign endp callid hendp hused hf).resolve_right fun h => absurd h.1 nofun)
  · intro h
    refine ⟨fun endp callid hendp hused hf => ?_, fun endp callid hverb hr hendp hused hs => ?_⟩
    · rw [mgcpHandleMessage_call]
      by_cases hr : (mgcpAnalyzeHeader cfg l3h).endp = some r
      · have hheeds := h endp callid hr hendp hused
        cases verb with
        | crcx =>
          exact ((untouched_crcx_iff hr hendp hused).mpr (hheeds.1 hf)).imp_right fun hreplaced => ⟨rfl, hreplaced⟩
        | mdcx => exact .inl ((untouched_mdcx_iff hr hendp hused).mpr (hheeds hf))
        | dlcx => exact .inl ((untouched_dlcx_iff hr hendp hused).mpr (hheeds hf))
      · exact .inl (untouched_of_ne hr)
    · rw [mgcpHandleMessage_call]
      subst hverb
      exact (repeatsAnswer_iff hr hendp hused).mpr ((h endp callid hr hendp hused).2 hs)

/-- A CRCX for the endpoint with a call id that begins with that of the first call. -/
def longerCall : List Octet := octets " 3 1@mgw MGCP 1.0\r\nM: sendrecv\r\nC: 10\r\n"

/-- **A call id that begins with that of the call** is taken for it: call 10 is given the connection of call 1. -/
theorem not_callIsolated_longer :
    Reachable (gateway forcedStart) connectedState ∧ ¬ CallIsolated connectedState ⟨0, 1⟩ .crcx longerCall none := by
  refine ⟨reachable_connectedState, fun hisolated => ?_⟩
  obtain ⟨endp, hendp, halloc, hci, hcallid⟩ : ∃ endp ∈ connectedState.endp? ⟨0, 1⟩, endp.allocated = true ∧
      endp.ci ≠ ciUnused ∧ endp.callid = some (octets "1") := by decide +kernel
  have hforeign : Foreign endp.ci (octets "1") longerCall := .inl ⟨octets "10", by decide +kernel, by decide⟩
  rcases hisolated.foreign endp (octets "1") hendp ⟨halloc, hci, hcallid⟩ hforeign with huntouched | ⟨-, hreplaced⟩
  · obtain ⟨answer, hanswer, hdata⟩ : ∃ answer ∈ (connectedState.mgcpHandleMessage
        (CallVerb.crcx.text ++ longerCall) none).2, answer.data ≠ none := by decide +kernel
    exact hdata (huntouched.2 (by decide +kernel) answer hanswer)
  · refine hreplaced.gone ?_
    decide +kernel

end Isolated

end OpenBsc.Mgcp
