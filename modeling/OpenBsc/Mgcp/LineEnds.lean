import OpenBsc.Mgcp.LinesRead

/-!
# `Mgcp.LineEnds` — requests with bare line feeds

A request whose lines end with bare line feeds is meant to be handled like the same request with carriage returns. The
loop reads other lines then in two cases: the first parameter is lost where the fourth word ends the header line, and an
empty line, or one like `a=`, is malformed. So the two renderings are handled alike exactly when the lines that are left
say the same as all lines (`LineEndsAgree`): for a CRCX the last values, for a DLCX the identifiers, and for an MDCX
what stands before the first line that is refused, whatever call and connection the endpoint has.
-/

namespace OpenBsc.Mgcp

open Scan MgcpConfig List Option

/-! ## The lines of a rendering -/

variable {h : List Octet} {params : List (List Octet)}

theorem chomp_before (e : LineEnd) {cur : List Octet} (h : Plain cur) : chomp (cur ++ e.before) = cur := by
  cases e with
  | crlf => simp [chomp, LineEnd.before]
  | lf =>
    rw [LineEnd.before, append_nil, chomp, if_neg]
    intro hlast
    exact h.1 (mem_of_getLast? hlast)

theorem paramLines_render (e : LineEnd) (hp : ∀ cur ∈ params, Plain cur) :
    paramLines false [] (render e params) = params.map (· ++ e.before) := by
  induction params with
  | nil => rfl
  | cons cur params ih =>
    obtain ⟨hcur, hparams⟩ := forall_mem_cons.mp hp
    have hfront : lineFeed ∉ cur ++ e.before := by simp [hcur.2, not_mem_before]
    rw [render_cons, ← append_assoc, paramLines_append hfront, paramLines, if_pos rfl, if_neg (by decide), ih hparams]
    rfl

/-- The parameters that bare line feeds leave. -/
def leftParams (h : List Octet) (params : List (List Octet)) : List (List Octet) :=
  if versionLast h then params.tail else params

theorem linesRead_crlf (hh : Plain h) (hp : ∀ cur ∈ params, Plain cur) :
    linesRead (render .crlf (h :: params)) = params.map (· ++ [carriageReturn]) := by
  obtain ⟨htake, hdrop⟩ := endsHeader_append hh (.inl rfl) (lineFeed :: render .crlf params)
  rw [render_cons]
  show linesRead (h ++ carriageReturn :: lineFeed :: render .crlf params) = _
  rw [linesRead, htake, hdrop, head?_cons, if_neg fun hlost => absurd (some.inj hlost.2) (by decide),
    paramLines_skip hh.2]
  exact paramLines_render .crlf hp

theorem linesRead_lf (hh : Plain h) (hp : ∀ cur ∈ params, Plain cur) :
    linesRead (render .lf (h :: params)) = leftParams h params := by
  obtain ⟨htake, hdrop⟩ := endsHeader_append hh (.inr rfl) (render .lf params)
  have hlines : paramLines true [] (h ++ lineFeed :: render .lf params) = params := by
    rw [paramLines_skip hh.2]
    refine (paramLines_render .lf hp).trans ?_
    simp [LineEnd.before]
  rw [render_cons]
  show linesRead (h ++ lineFeed :: render .lf params) = _
  rw [linesRead, htake, hdrop, hlines, leftParams]
  simp

/-! ## A CRCX by what it asks -/

/-- What a CRCX asks for: nothing if it is incomplete, and only the call id where the mode is none. -/
def createAsks (params : CreateParams) : Option (List Octet × Option (MgcpConnectionMode × Option (List Octet))) :=
  match params.callid, params.mode with
  | some callid, some mode => some (callid, (parseConnMode mode).map fun m => (m, params.localOptions))
  | _, _ => none

namespace MgcpConfig

variable {cfg : MgcpConfig} {r : EndpRef} {trans : List Octet} {policy : Option MgcpPolicy}

/-- What a request with an invalid mode leaves behind does not depend on its options. -/
theorem mgcpFreeEndp_copyParams (callid callid' : List Octet) (localOptions localOptions' : Option (List Octet)) :
    (cfg.copyParams r callid localOptions).mgcpFreeEndp r =
      (cfg.copyParams r callid' localOptions').mgcpFreeEndp r := by
  simp only [mgcpFreeEndp, copyParams, modifyEndp_modifyEndp]
  rfl

theorem createOnFree_congr {callid mode mode' : List Octet} {localOptions localOptions' : Option (List Octet)}
    (h : (parseConnMode mode).map (fun m => (m, localOptions)) =
      (parseConnMode mode').map fun m => (m, localOptions')) :
    cfg.createOnFree r trans callid mode localOptions policy =
      cfg.createOnFree r trans callid mode' localOptions' policy := by
  cases hmode : parseConnMode mode with
  | none =>
    have hmode' : parseConnMode mode' = none := by simpa [hmode] using h.symm
    simp only [createOnFree, hmode, hmode', mgcpFreeEndp_copyParams callid callid localOptions localOptions']
  | some m =>
    rw [hmode] at h
    obtain ⟨m', hmode', heq⟩ := map_eq_some_iff.mp h.symm
    cases heq
    simp only [createOnFree, hmode, hmode']

variable {asked asked' : CreateParams}

theorem createWith_none (hasks : createAsks asked = none) :
    cfg.createWith r trans asked policy = (cfg, some (createErrResponse 400 trans)) := by
  obtain ⟨localOptions, callid, mode⟩ := asked
  cases callid with
  | none => rfl
  | some callid =>
    cases mode with
    | none => rfl
    | some mode => cases hasks

theorem createAsks_some {asks : List Octet × Option (MgcpConnectionMode × Option (List Octet))}
    (hasks : createAsks asked = some asks) :
    ∃ callid mode localOptions, asked = ⟨localOptions, some callid, some mode⟩ ∧
      asks = (callid, (parseConnMode mode).map fun m => (m, localOptions)) := by
  obtain ⟨localOptions, callid, mode⟩ := asked
  cases callid with
  | none => cases hasks
  | some callid =>
    cases mode with
    | none => cases hasks
    | some mode => exact ⟨callid, mode, localOptions, rfl, (some.inj hasks).symm⟩

theorem createWith_congr (h : createAsks asked = createAsks asked') :
    cfg.createWith r trans asked policy = cfg.createWith r trans asked' policy := by
  cases hasks : createAsks asked with
  | none => rw [createWith_none hasks, createWith_none (h ▸ hasks)]
  | some asks =>
    obtain ⟨callid, mode, localOptions, rfl, hvalue⟩ := createAsks_some hasks
    obtain ⟨callid', mode', localOptions', rfl, hvalue'⟩ := createAsks_some (h ▸ hasks)
    rw [hvalue] at hvalue'
    obtain ⟨rfl, hmode⟩ := Prod.mk.inj hvalue'
    simp only [createWith]
    split
    · split
      · rfl
      · split
        · exact createOnFree_congr hmode
        · rfl
    · exact createOnFree_congr hmode

/-! ## An MDCX by what it comes to -/

end MgcpConfig

/-- What the lines of an MDCX come to at an endpoint: what it becomes, the error, and whether no answer is wanted. -/
def modifyOutcome (endp : MgcpEndpoint) (lines : List (List Octet)) : MgcpEndpoint × Option Nat × Bool :=
  (endp.told (lastOf lineMode (heeded endp.callid endp.ci lines)) (lastOf lineMedia (heeded endp.callid endp.ci lines))
      (lastOf lineAddr (heeded endp.callid endp.ci lines)),
    lines.findSome? (modifyError endp.callid endp.ci),
    (lines.findSome? (modifyError endp.callid endp.ci)).isNone &&
      (lastOf lineSilent (heeded endp.callid endp.ci lines)).getD false)

namespace MgcpConfig

/-- What a gateway makes of it. -/
def modifyWith (cfg : MgcpConfig) (r : EndpRef) (trans : List Octet) (policy : Option MgcpPolicy)
    (out : MgcpEndpoint × Option Nat × Bool) : MgcpConfig × Option MgcpResponse :=
  (cfg.modifyEndp r fun _ => out.1,
    out.2.1.elim ((cfg.modifyEndp r fun _ => out.1).modified r trans out.2.2 policy) fun code =>
      some (createErrResponse code trans))

variable {cfg : MgcpConfig} {r : EndpRef} {endp : MgcpEndpoint} {l3h : List Octet} {policy : Option MgcpPolicy}

theorem handleModifyCon_lines (hr : (mgcpAnalyzeHeader cfg l3h).endp = some r) (hendp : cfg.endp? r = some endp)
    (hci : endp.ci ≠ ciUnused) :
    cfg.handleModifyCon l3h policy =
      cfg.modifyWith r (mgcpAnalyzeHeader cfg l3h).trans policy (modifyOutcome endp (linesRead l3h)) := by
  obtain ⟨hlines, hrefusal⟩ := modifyLines_eq hr endp
  rw [handleModifyCon_connected hr hendp hci, afterLines, silenced, hlines, hrefusal, modifyWith, modifyOutcome]
  cases (linesRead l3h).findSome? (modifyError endp.callid endp.ci) <;> rfl

/-- A gateway that does the same with two outcomes has the same before it. -/
theorem outcome_of_modifyWith {trans : List Octet} {out out' : MgcpEndpoint × Option Nat × Bool}
    (hr : (cfg.endp? r).isSome) (hsilent : ∀ code, out.2.1 = some code → out.2.2 = false)
    (hsilent' : ∀ code, out'.2.1 = some code → out'.2.2 = false)
    (h : cfg.modifyWith r trans none out = cfg.modifyWith r trans none out') : out = out' := by
  obtain ⟨endp, hendp⟩ := isSome_iff_exists.mp hr
  obtain ⟨endp, code, silent⟩ := out
  obtain ⟨endp', code', silent'⟩ := out'
  obtain ⟨hstate, hanswer⟩ := Prod.mk.inj h
  have hsame := congrArg (·.endp? r) hstate
  simp only [endp?_modifyEndp, if_true, hendp, map_some, some.injEq] at hsame
  subst hsame
  cases code with
  | some code =>
    cases code' with
    | some code' =>
      simp only [Option.elim, createErrResponse, some.injEq, MgcpResponse.mk.injEq] at hanswer
      obtain rfl : silent = false := hsilent code rfl
      obtain rfl : silent' = false := hsilent' code' rfl
      rw [hanswer.1]
    | none => cases silent' <;> simp [modified, createErrResponse, createResponseWithSdp] at hanswer
  | none =>
    cases code' with
    | some code' => cases silent <;> simp [modified, createErrResponse, createResponseWithSdp] at hanswer
    | none => cases silent <;> cases silent' <;> simp [modified] at hanswer ⊢

end MgcpConfig

/-! ## The condition -/

/-- A CRCX with these lines is complete: they are well formed, and there is a call id and a mode. -/
structure Complete (lines : List (List Octet)) : Prop where
  proper : ∀ cur ∈ lines, properParam cur = true
  callid : lastValue 'C' lines ≠ none
  mode : lastValue 'M' lines ≠ none

/-- All lines of a CRCX and those that are left: both are complete or none is, and if the mode is one, the same local
    options come last. -/
structure CreateAgrees (whole left : List (List Octet)) : Prop where
  complete : Complete whole ↔ Complete left
  options : Complete left → ∀ mode, lastValue 'M' left = some mode → parseConnMode mode ≠ none →
    lastValue 'L' whole = lastValue 'L' left

/-- All lines of an MDCX and those that are left, for an endpoint with this call and connection: the first line that is
    refused is refused with the same error, and the lines before it say the same mode, media (the port modulo 2^16) and
    address last; if none is refused, both ask for an answer or both do not. -/
structure ModifyAgrees (callid : Option (List Octet)) (ci : BitVec 32) (whole left : List (List Octet)) : Prop where
  error : whole.findSome? (modifyError callid ci) = left.findSome? (modifyError callid ci)
  mode : lastOf lineMode (heeded callid ci whole) = lastOf lineMode (heeded callid ci left)
  media : (lastOf lineMedia (heeded callid ci whole)).map (fun m => (m.1 % 65536, m.2)) =
    (lastOf lineMedia (heeded callid ci left)).map fun m => (m.1 % 65536, m.2)
  addr : lastOf lineAddr (heeded callid ci whole) = lastOf lineAddr (heeded callid ci left)
  silent : (∀ cur ∈ left, modifyError callid ci cur = none) →
    (lastOf lineSilent (heeded callid ci whole) = some true ↔ lastOf lineSilent (heeded callid ci left) = some true)

/-- The values that lines have under this letter. -/
def allValues (c : Char) (lines : List (List Octet)) : List (List Octet) := (lines.map chomp).filterMap (lineValue c)

/-- Some endpoint takes a DLCX with these lines: they are well formed, have one call id at most, and connection ids of
    one number at most. -/
structure Taken (lines : List (List Octet)) : Prop where
  proper : ∀ cur ∈ lines, properParam cur = true
  callid : ∀ id ∈ allValues 'C' lines, ∀ id' ∈ allValues 'C' lines, id = id'
  ci : ∀ id ∈ allValues 'I' lines, ∀ id' ∈ allValues 'I' lines,
    (strtoul 10 id).1 % 2 ^ 32 = (strtoul 10 id').1 % 2 ^ 32

/-- All lines of a DLCX and those that are left: some endpoint takes both or none does; if so, no call id and no
    connection id is lost with the only line that has one, and both ask for an answer or both do not. -/
structure DeleteAgrees (whole left : List (List Octet)) : Prop where
  taken : Taken whole ↔ Taken left
  callid : Taken left → allValues 'C' left = [] → allValues 'C' whole = []
  ci : Taken left → allValues 'I' left = [] → allValues 'I' whole = []
  silent : Taken left → noAnswer whole = noAnswer left

/-- A header names an endpoint in some configuration. -/
def Named (h : List Octet) : Prop := ∃ cfg, (requestHeader cfg h).endp.isSome

/-- The lines that bare line feeds leave to the loop say the same as all lines with their carriage returns. A request
    that is refused for its header says nothing. -/
structure LineEndsAgree (header : List Octet) (params : List (List Octet)) : Prop where
  create : header.take 4 = octets "CRCX" → Named (header.drop 4) →
    CreateAgrees (params.map (· ++ [carriageReturn])) (leftParams (header.drop 4) params)
  modify : header.take 4 = octets "MDCX" → Named (header.drop 4) → ∀ callid ci, ci ≠ ciUnused →
    ModifyAgrees callid ci (params.map (· ++ [carriageReturn])) (leftParams (header.drop 4) params)
  delete : header.take 4 = octets "DLCX" → Named (header.drop 4) →
    DeleteAgrees (params.map (· ++ [carriageReturn])) (leftParams (header.drop 4) params)

/-! ### It is what makes requests be handled alike -/

variable {whole left lost : List (List Octet)}

/-- What is left is a part of the whole, without the carriage returns. -/
theorem leftParams_append (hp : ∀ cur ∈ params, Plain cur) :
    ∃ lost, (params.map (· ++ [carriageReturn])).map chomp = lost ++ (leftParams h params).map chomp := by
  have hcr : (params.map (· ++ [carriageReturn])).map chomp = params := by
    rw [List.map_map]
    exact (map_congr_left fun cur hcur => chomp_before .crlf (hp cur hcur)).trans (map_id params)
  have hlf : ∀ lines : List (List Octet), (∀ cur ∈ lines, Plain cur) → lines.map chomp = lines := fun lines hlines =>
    (map_congr_left fun cur hcur => by
      simpa [LineEnd.before] using chomp_before .lf (hlines cur hcur)).trans (map_id lines)
  rw [hcr]
  unfold leftParams
  split
  · rw [hlf _ fun cur hcur => hp cur (mem_of_mem_tail hcur)]
    exact ⟨params.take 1, by cases params <;> rfl⟩
  · rw [hlf _ hp]
    exact ⟨[], rfl⟩

theorem lastValue_left (h : whole.map chomp = lost ++ left.map chomp) {c : Char} {value : List Octet}
    (hvalue : lastValue c left = some value) : lastValue c whole = some value := by
  unfold lastValue at hvalue ⊢
  rw [h, lastOf_append, hvalue]
  rfl

theorem createAsks_eq_none {lines : List (List Octet)} : createAsks (createParams lines) = none ↔ ¬ Complete lines := by
  unfold createParams
  split
  case isTrue hproper =>
    unfold createAsks
    dsimp only
    split
    · next hcallid hmode =>
        exact iff_of_false nofun fun h => h ⟨hproper, by rw [hcallid]; exact nofun, by rw [hmode]; exact nofun⟩
    · next hnone =>
        refine iff_of_true rfl fun hcomplete => ?_
        obtain ⟨callid, hcallid⟩ := ne_none_iff_exists'.mp hcomplete.callid
        obtain ⟨mode, hmode⟩ := ne_none_iff_exists'.mp hcomplete.mode
        exact hnone callid mode hcallid hmode
  case isFalse hproper => exact iff_of_true rfl fun hcomplete => hproper hcomplete.proper

theorem Complete.asks {lines : List (List Octet)} (h : Complete lines) :
    ∃ callid mode, lastValue 'C' lines = some callid ∧ lastValue 'M' lines = some mode ∧
      createAsks (createParams lines) = some (callid, (parseConnMode mode).map fun m => (m, lastValue 'L' lines)) := by
  obtain ⟨callid, hcallid⟩ := ne_none_iff_exists'.mp h.callid
  obtain ⟨mode, hmode⟩ := ne_none_iff_exists'.mp h.mode
  refine ⟨callid, mode, hcallid, hmode, ?_⟩
  rw [createParams, if_pos h.proper, createAsks, hcallid, hmode]

theorem createAgrees_iff (h : whole.map chomp = lost ++ left.map chomp) :
    createAsks (createParams whole) = createAsks (createParams left) ↔ CreateAgrees whole left := by
  constructor
  · intro heq
    have hcomplete : Complete whole ↔ Complete left := by
      rw [← not_iff_not, ← createAsks_eq_none, ← createAsks_eq_none, heq]
    refine ⟨hcomplete, fun hleft mode hmode hknown => ?_⟩
    obtain ⟨callid, mode', -, hmode', hasks⟩ := hleft.asks
    obtain ⟨callid', mode'', -, hmode'', hasks'⟩ := (hcomplete.mpr hleft).asks
    obtain rfl := some.inj (hmode'.symm.trans hmode)
    obtain rfl := some.inj (hmode''.symm.trans (lastValue_left h hmode'))
    obtain ⟨m, hm⟩ := ne_none_iff_exists'.mp hknown
    rw [hasks', hasks, hm] at heq
    simpa using (Prod.mk.inj (some.inj heq)).2
  · intro hagrees
    by_cases hleft : Complete left
    · obtain ⟨callid, mode, hcallid, hmode, hasks⟩ := hleft.asks
      obtain ⟨callid', mode', hcallid', hmode', hasks'⟩ := (hagrees.complete.mpr hleft).asks
      obtain rfl := some.inj (hcallid'.symm.trans (lastValue_left h hcallid))
      obtain rfl := some.inj (hmode'.symm.trans (lastValue_left h hmode))
      rw [hasks, hasks']
      cases hm : parseConnMode mode' with
      | none => rfl
      | some m => rw [hagrees.options hleft mode' hmode (by rw [hm]; exact nofun)]
    · rw [createAsks_eq_none.mpr hleft, createAsks_eq_none.mpr (mt hagrees.complete.mp hleft)]

theorem getD_injective {α : Type} {a b : α} (hne : a ≠ b) {o o' : Option α}
    (h : ∀ c, o.getD c = o'.getD c) : o = o' := by
  cases o with
  | none =>
    cases o' with
    | none => rfl
    | some v => exact absurd ((h a).trans (h b).symm) hne
  | some v =>
    cases o' with
    | none => exact absurd ((h a).symm.trans (h b)) hne
    | some v' => exact congrArg some (h a)

section Told

variable {callid : Option (List Octet)} {ci : BitVec 32} {mode mode' : Option MgcpConnectionMode}
  {media media' : Option (Int × Int)} {addr addr' : Option (BitVec 32)}

theorem told_congr (endp : MgcpEndpoint)
    (h : media.map (fun m => (m.1 % 65536, m.2)) = media'.map fun m => (m.1 % 65536, m.2)) :
    endp.told mode media addr = endp.told mode media' addr := by
  cases media with
  | none =>
    cases media' with
    | none => rfl
    | some media' => cases h
  | some media =>
    cases media' with
    | none => cases h
    | some media' =>
      obtain ⟨hport, hpayload⟩ := Prod.mk.inj (some.inj h)
      have hrtcp : (media.1 + 1) % 65536 = (media'.1 + 1) % 65536 := by omega
      simp [MgcpEndpoint.told, hport, hpayload, hrtcp]

/-- Endpoints that know other things tell what they are told. -/
theorem told_injective (h : ∀ old net, ({ callid := callid, ci := ci, connMode := old, netEnd := net } :
      MgcpEndpoint).told mode media addr =
    ({ callid := callid, ci := ci, connMode := old, netEnd := net } : MgcpEndpoint).told mode' media' addr') :
    mode = mode' ∧ media.map (fun m => (m.1 % 65536, m.2)) = media'.map (fun m => (m.1 % 65536, m.2)) ∧
      addr = addr' := by
  have hport : media.map (fun m => (m.1 % 65536).toNat) = media'.map fun m => (m.1 % 65536).toNat :=
    getD_injective (Nat.zero_ne_one) fun port => congrArg (·.netEnd.rtpPort) (h .none { rtpPort := port })
  have hpayload : media.map Prod.snd = media'.map Prod.snd :=
    getD_injective Int.zero_ne_one fun payload => congrArg (·.netEnd.payloadType) (h .none { payloadType := payload })
  refine ⟨getD_injective (by decide : MgcpConnectionMode.none ≠ .loopback)
      fun old => congrArg (·.connMode) (h old {}), ?_,
    getD_injective (by decide : (0 : BitVec 32) ≠ 1) fun addr => congrArg (·.netEnd.addr) (h .none { addr := addr })⟩
  cases media with
  | none =>
    cases media' with
    | none => rfl
    | some media' => cases hport
  | some media =>
    cases media' with
    | none => cases hport
    | some media' =>
      simp only [map_some, some.injEq] at hport hpayload
      simp only [map_some, some.injEq, Prod.mk.injEq]
      exact ⟨by omega, hpayload⟩

theorem getD_false_eq_iff {o o' : Option Bool} :
    o.getD false = o'.getD false ↔ (o = some true ↔ o' = some true) := by
  rcases o with _ | _ | _ <;> rcases o' with _ | _ | _ <;> decide

theorem modifyAgrees_iff :
    (∀ endp : MgcpEndpoint, endp.callid = callid → endp.ci = ci → modifyOutcome endp whole = modifyOutcome endp left) ↔
      ModifyAgrees callid ci whole left := by
  constructor
  · intro h
    have hout := fun old net => h { callid := callid, ci := ci, connMode := old, netEnd := net } rfl rfl
    simp only [modifyOutcome, Prod.mk.injEq] at hout
    obtain ⟨hmode, hmedia, haddr⟩ := told_injective fun old net => (hout old net).1
    obtain ⟨-, herror, hsilent⟩ := hout .none {}
    refine ⟨herror, hmode, hmedia, haddr, fun hnone => ?_⟩
    rw [herror, findSome?_eq_none_iff.mpr hnone] at hsilent
    exact getD_false_eq_iff.mp hsilent
  · rintro ⟨herror, hmode, hmedia, haddr, hsilent⟩ endp rfl rfl
    rw [modifyOutcome, modifyOutcome, hmode, haddr, told_congr endp hmedia, herror]
    cases hnone : left.findSome? (modifyError endp.callid endp.ci) with
    | some code => rfl
    | none =>
      have hsame := getD_false_eq_iff.mpr (hsilent (findSome?_eq_none_iff.mp hnone))
      simp [hsame]

end Told

theorem any_deleteRefused_eq_false {callid : Option (List Octet)} {ci : BitVec 32} {lines : List (List Octet)} :
    lines.any (deleteRefused callid ci) = false ↔ (∀ cur ∈ lines, properParam cur = true) ∧
      (∀ id ∈ allValues 'C' lines, callid = some id) ∧
        ∀ id ∈ allValues 'I' lines, (strtoul 10 id).1 % 2 ^ 32 = ci.toNat := by
  have hcur : ∀ cur, deleteRefused callid ci cur = false ↔ properParam cur = true ∧
      (∀ id, lineValue 'C' (chomp cur) = some id → callid = some id) ∧
        ∀ id, lineValue 'I' (chomp cur) = some id → (strtoul 10 id).1 % 2 ^ 32 = ci.toNat := by
    intro cur
    unfold deleteRefused namesOther
    cases properParam cur <;> cases lineValue 'C' (chomp cur) <;> cases lineValue 'I' (chomp cur) <;> simp
  simp only [List.any_eq_false, Bool.not_eq_true, hcur, allValues, mem_filterMap, List.mem_map]
  constructor
  · intro h
    refine ⟨fun cur hmem => (h cur hmem).1, ?_, ?_⟩
    · rintro id ⟨_, ⟨cur, hmem, rfl⟩, hid⟩
      exact (h cur hmem).2.1 id hid
    · rintro id ⟨_, ⟨cur, hmem, rfl⟩, hid⟩
      exact (h cur hmem).2.2 id hid
  · rintro ⟨hproper, hcallid, hci⟩ cur hmem
    exact ⟨hproper cur hmem, fun id hid => hcallid id ⟨_, ⟨cur, hmem, rfl⟩, hid⟩,
      fun id hid => hci id ⟨_, ⟨cur, hmem, rfl⟩, hid⟩⟩

/-- What can be taken is taken by an endpoint with the call and the connection that the lines name. -/
theorem taken_iff {lines : List (List Octet)} :
    Taken lines ↔ ∃ callid ci, lines.any (deleteRefused callid ci) = false := by
  constructor
  · rintro ⟨hproper, hcallid, hci⟩
    refine ⟨(allValues 'C' lines).head?, BitVec.ofNat 32 (((allValues 'I' lines).head?.map fun id =>
      (strtoul 10 id).1).getD 0), any_deleteRefused_eq_false.mpr ⟨hproper, fun id hid => ?_, fun id hid => ?_⟩⟩
    · obtain ⟨first, more, hvalues⟩ := exists_cons_of_ne_nil (ne_nil_of_mem hid)
      rw [hvalues, head?_cons, hcallid id hid first (by rw [hvalues]; exact mem_cons_self)]
    · obtain ⟨first, more, hvalues⟩ := exists_cons_of_ne_nil (ne_nil_of_mem hid)
      rw [hvalues, head?_cons, map_some, getD_some, BitVec.toNat_ofNat]
      exact hci id hid first (by rw [hvalues]; exact mem_cons_self)
  · rintro ⟨callid, ci, h⟩
    obtain ⟨hproper, hcallid, hci⟩ := any_deleteRefused_eq_false.mp h
    exact ⟨hproper, fun id hid id' hid' => some.inj ((hcallid id hid).symm.trans (hcallid id' hid')),
      fun id hid id' hid' => (hci id hid).trans (hci id' hid').symm⟩

theorem mem_allValues_left (h : whole.map chomp = lost ++ left.map chomp) {c : Char} {value : List Octet}
    (hvalue : value ∈ allValues c left) : value ∈ allValues c whole := by
  unfold allValues at hvalue ⊢
  rw [h, filterMap_append]
  exact mem_append_right _ hvalue

theorem deleteAgrees_iff (h : whole.map chomp = lost ++ left.map chomp) :
    (∀ callid ci, whole.any (deleteRefused callid ci) = left.any (deleteRefused callid ci) ∧
      (left.any (deleteRefused callid ci) = false → noAnswer whole = noAnswer left)) ↔ DeleteAgrees whole left := by
  constructor
  · intro hsame
    refine ⟨?_, fun htaken hnone => ?_, fun htaken hnone => ?_, fun htaken => ?_⟩
    · simp only [taken_iff, (hsame _ _).1]
    · obtain ⟨callid, ci, hleft⟩ := taken_iff.mp htaken
      obtain ⟨hproper, -, hci⟩ := any_deleteRefused_eq_false.mp hleft
      -- an endpoint without a call id
      have hany : left.any (deleteRefused none ci) = false :=
        any_deleteRefused_eq_false.mpr ⟨hproper, by rw [hnone]; exact nofun, hci⟩
      rw [← (hsame none ci).1] at hany
      exact eq_nil_iff_forall_not_mem.mpr fun id hid => nomatch (any_deleteRefused_eq_false.mp hany).2.1 id hid
    · obtain ⟨callid, ci, hleft⟩ := taken_iff.mp htaken
      obtain ⟨hproper, hcallid, -⟩ := any_deleteRefused_eq_false.mp hleft
      -- endpoints with two connection ids
      have hwhole : ∀ ci, whole.any (deleteRefused callid ci) = false := fun ci => by
        rw [(hsame callid ci).1]
        exact any_deleteRefused_eq_false.mpr ⟨hproper, hcallid, by rw [hnone]; exact nofun⟩
      refine eq_nil_iff_forall_not_mem.mpr fun id hid => ?_
      have hzero := (any_deleteRefused_eq_false.mp (hwhole 0)).2.2 id hid
      have hone := (any_deleteRefused_eq_false.mp (hwhole 1)).2.2 id hid
      exact absurd (hzero.symm.trans hone) (by decide)
    · obtain ⟨callid, ci, hleft⟩ := taken_iff.mp htaken
      exact (hsame callid ci).2 hleft
  · intro hagrees callid ci
    have hiff : whole.any (deleteRefused callid ci) = false ↔ left.any (deleteRefused callid ci) = false := by
      constructor
      · intro hwhole
        have htaken := hagrees.taken.mp (taken_iff.mpr ⟨callid, ci, hwhole⟩)
        obtain ⟨-, hcallid, hci⟩ := any_deleteRefused_eq_false.mp hwhole
        exact any_deleteRefused_eq_false.mpr ⟨htaken.proper, fun id hid => hcallid id (mem_allValues_left h hid),
          fun id hid => hci id (mem_allValues_left h hid)⟩
      · intro hleft
        have htaken := taken_iff.mpr ⟨callid, ci, hleft⟩
        have hwhole := hagrees.taken.mpr htaken
        obtain ⟨-, hcallid, hci⟩ := any_deleteRefused_eq_false.mp hleft
        refine any_deleteRefused_eq_false.mpr ⟨hwhole.proper, fun id hid => ?_, fun id hid => ?_⟩
        · obtain ⟨first, hfirst⟩ := exists_mem_of_ne_nil _ fun hnone => by
            rw [hagrees.callid htaken hnone] at hid
            cases hid
          rw [hwhole.callid id hid first (mem_allValues_left h hfirst)]
          exact hcallid first hfirst
        · obtain ⟨first, hfirst⟩ := exists_mem_of_ne_nil _ fun hnone => by
            rw [hagrees.ci htaken hnone] at hid
            cases hid
          rw [hwhole.ci id hid first (mem_allValues_left h hfirst)]
          exact hci first hfirst
    refine ⟨?_, fun hleft => hagrees.silent (taken_iff.mpr ⟨callid, ci, hleft⟩)⟩
    rw [Bool.eq_iff_iff, ← not_iff_not, Bool.not_eq_true, Bool.not_eq_true, hiff]

/-! ## Handlers -/

namespace MgcpConfig

variable {cfg : MgcpConfig} {r : EndpRef} {policy : Option MgcpPolicy}

theorem handleModifyCon_unused {l3h : List Octet} {endp : MgcpEndpoint} (hr : (mgcpAnalyzeHeader cfg l3h).endp = some r)
    (hendp : cfg.endp? r = some endp) (hci : endp.ci = ciUnused) :
    cfg.handleModifyCon l3h policy = (cfg, some (createErrResponse 400 (mgcpAnalyzeHeader cfg l3h).trans)) := by
  unfold handleModifyCon
  dsimp only
  rw [hr]
  dsimp only
  rw [hendp, getD_some, if_pos hci]

theorem handleDeleteCon_free {l3h : List Octet} {endp : MgcpEndpoint} (hr : (mgcpAnalyzeHeader cfg l3h).endp = some r)
    (hendp : cfg.endp? r = some endp) (halloc : ¬ endp.allocated = true) :
    cfg.handleDeleteCon l3h policy = (cfg, some (createErrResponse 400 (mgcpAnalyzeHeader cfg l3h).trans)) := by
  unfold handleDeleteCon
  dsimp only
  rw [hr]
  dsimp only
  rw [hendp, getD_some, if_pos (by simpa using halloc)]

theorem handlers_unnamed {l3h l3h' : List Octet}
    (htrans : (mgcpAnalyzeHeader cfg l3h).trans = (mgcpAnalyzeHeader cfg l3h').trans)
    (hendp : (mgcpAnalyzeHeader cfg l3h).endp = (mgcpAnalyzeHeader cfg l3h').endp)
    (hn : (mgcpAnalyzeHeader cfg l3h').endp = none) :
    cfg.handleCreateCon l3h policy = cfg.handleCreateCon l3h' policy ∧
      cfg.handleModifyCon l3h policy = cfg.handleModifyCon l3h' policy ∧
      cfg.handleDeleteCon l3h policy = cfg.handleDeleteCon l3h' policy := by
  refine ⟨?_, ?_, ?_⟩
  · simp only [handleCreateCon, htrans, hendp, hn]
  · simp only [handleModifyCon, htrans, hendp, hn]
  · simp only [handleDeleteCon, htrans, hendp, hn]

theorem handlers_header {l3h l3h' : List Octet}
    (htrans : (mgcpAnalyzeHeader cfg l3h).trans = (mgcpAnalyzeHeader cfg l3h').trans)
    (hendp : (mgcpAnalyzeHeader cfg l3h).endp = (mgcpAnalyzeHeader cfg l3h').endp) :
    cfg.handleAuditEndpoint l3h = cfg.handleAuditEndpoint l3h' ∧ cfg.handleNotiReq l3h = cfg.handleNotiReq l3h' ∧
      cfg.handleRsip l3h = cfg.handleRsip l3h' := by
  refine ⟨?_, ?_, ?_⟩
  · simp only [handleAuditEndpoint, htrans, hendp]
  · simp only [handleNotiReq, htrans, hendp]
  · simp only [handleRsip, hendp]

/-! ## Messages -/

/-- `mgcp_requests`. -/
def verbs : List (List Octet) :=
  [octets "AUEP", octets "CRCX", octets "DLCX", octets "MDCX", octets "RQNT", octets "RSIP"]

/-- What the handler of a request does. -/
def handleVerb (cfg : MgcpConfig) (verb l3h : List Octet) (policy : Option MgcpPolicy) :
    MgcpConfig × Option MgcpResponse :=
  if verb = octets "AUEP" then (cfg, some (cfg.handleAuditEndpoint l3h))
  else if verb = octets "CRCX" then cfg.handleCreateCon l3h policy
  else if verb = octets "DLCX" then cfg.handleDeleteCon l3h policy
  else if verb = octets "MDCX" then cfg.handleModifyCon l3h policy
  else if verb = octets "RQNT" then (cfg, some (cfg.handleNotiReq l3h))
  else if verb = octets "RSIP" then (cfg.handleRsip l3h, none)
  else (cfg, none)

theorem handleVerb_create (l3h : List Octet) :
    cfg.handleVerb (octets "CRCX") l3h policy = cfg.handleCreateCon l3h policy := by
  rw [handleVerb, if_neg (by decide), if_pos rfl]

theorem handleVerb_modify (l3h : List Octet) :
    cfg.handleVerb (octets "MDCX") l3h policy = cfg.handleModifyCon l3h policy := by
  rw [handleVerb, if_neg (by decide), if_neg (by decide), if_neg (by decide), if_pos rfl]

theorem handleVerb_delete (l3h : List Octet) :
    cfg.handleVerb (octets "DLCX") l3h policy = cfg.handleDeleteCon l3h policy := by
  rw [handleVerb, if_neg (by decide), if_neg (by decide), if_pos rfl]

theorem mgcpHandleMessage_eq (cfg : MgcpConfig) (msg : List Octet) (policy : Option MgcpPolicy) :
    cfg.mgcpHandleMessage msg policy =
      if msg.length < 4 ∨ (scanInt 3 msg).isSome then (cfg, none)
      else cfg.handleVerb (msg.take 4) (msg.drop 4) policy := by
  by_cases hshort : msg.length < 4
  · rw [if_pos (.inl hshort), mgcpHandleMessage, if_pos hshort]
  · by_cases hresponse : (scanInt 3 msg).isSome
    · rw [if_pos (.inr hresponse), mgcpHandleMessage, if_neg hshort, if_pos hresponse]
    · rw [if_neg (by simp [hshort, hresponse]), mgcpHandleMessage, if_neg hshort, if_neg hresponse]
      rfl

theorem handleVerb_ignored {verb l3h : List Octet} (h : verb ∉ verbs) :
    cfg.handleVerb verb l3h policy = (cfg, none) := by
  simp only [verbs, mem_cons, not_mem_nil, or_false, not_or] at h
  obtain ⟨h1, h2, h3, h4, h5, h6⟩ := h
  simp only [handleVerb, if_neg h1, if_neg h2, if_neg h3, if_neg h4, if_neg h5, if_neg h6]

theorem mgcpHandleMessage_ignored {msg : List Octet} (h : msg.take 4 ∉ verbs) :
    cfg.mgcpHandleMessage msg policy = (cfg, none) := by
  rw [mgcpHandleMessage_eq]
  split
  · rfl
  · exact handleVerb_ignored h

theorem scanInt_letter {o : Octet} (ho : isSpace o = false ∧ o ≠ 45 ∧ o ≠ 43 ∧ digitValue 10 o = none) (n : Nat)
    (rest : List Octet) : scanInt (n + 1) (o :: rest) = none := by
  obtain ⟨hspace, hminus, hplus, hdigit⟩ := ho
  simp [scanInt, hspace, takeSign, hminus, hplus, takeDigits, hdigit]

/-- **A request goes to its handler.** -/
theorem mgcpHandleMessage_verb {verb : List Octet} (hverb : verb ∈ verbs) (l3h : List Octet) :
    cfg.mgcpHandleMessage (verb ++ l3h) policy = cfg.handleVerb verb l3h policy := by
  have hletters : ∀ verb ∈ verbs, ∃ o rest, verb = o :: rest ∧ verb.length = 4 ∧
      isSpace o = false ∧ o ≠ 45 ∧ o ≠ 43 ∧ digitValue 10 o = none := by
    intro verb hverb
    simp only [verbs, mem_cons, not_mem_nil, or_false] at hverb
    rcases hverb with rfl | rfl | rfl | rfl | rfl | rfl
    all_goals exact ⟨_, _, rfl, by decide, by decide, by decide, by decide, by decide⟩
  obtain ⟨o, rest, rfl, hlen, ho⟩ := hletters verb hverb
  rw [mgcpHandleMessage_eq, if_neg, take_left' hlen, drop_left' hlen]
  rw [cons_append, scanInt_letter ho]
  simp only [length_cons, length_append] at hlen ⊢
  simp
  omega

end MgcpConfig

variable {cfg : MgcpConfig} {r : EndpRef} {policy : Option MgcpPolicy} {header : List Octet}

/-- The handlers treat both renderings alike. -/
theorem handleVerb_agree (h : LineEndsAgree header params) (hh : Plain (header.drop 4))
    (hp : ∀ cur ∈ params, Plain cur) :
    cfg.handleVerb (header.take 4) (render .crlf (header.drop 4 :: params)) policy =
      cfg.handleVerb (header.take 4) (render .lf (header.drop 4 :: params)) policy := by
  obtain ⟨htrans, hendp⟩ := header_render .crlf cfg hh params
  obtain ⟨htrans', hendp'⟩ := header_render .lf cfg hh params
  obtain ⟨haudit, hnoti, hrsip⟩ := handlers_header (htrans.trans htrans'.symm) (hendp.trans hendp'.symm)
  obtain ⟨lost, hlost⟩ := @leftParams_append (header.drop 4) params hp
  unfold handleVerb
  rw [haudit, hnoti, hrsip]
  cases hr : (requestHeader cfg (header.drop 4)).endp with
  | none =>
    obtain ⟨hcreate, hmodify, hdelete⟩ :=
      handlers_unnamed (htrans.trans htrans'.symm) (hendp.trans hendp'.symm) (hendp'.trans hr)
    rw [hcreate, hmodify, hdelete]
  | some r =>
    have hnamed : Named (header.drop 4) := ⟨cfg, by rw [hr]; rfl⟩
    obtain ⟨endp, hget⟩ := isSome_iff_exists.mp (mgcpAnalyzeHeader_some hr).2
    have hcrlf := hendp.trans hr
    have hlf := hendp'.trans hr
    split
    · rfl
    split
    · next hverb =>
      rw [handleCreateCon_lines hcrlf, handleCreateCon_lines hlf, linesRead_crlf hh hp, linesRead_lf hh hp,
        htrans, htrans']
      exact createWith_congr ((createAgrees_iff hlost).mpr (h.create hverb hnamed))
    split
    · next hverb =>
      by_cases halloc : endp.allocated = true
      · rw [handleDeleteCon_lines hcrlf hget halloc, handleDeleteCon_lines hlf hget halloc, linesRead_crlf hh hp,
          linesRead_lf hh hp, htrans, htrans']
        obtain ⟨hrefused, hsilent⟩ := (deleteAgrees_iff hlost).mpr (h.delete hverb hnamed) endp.callid endp.ci
        rw [hrefused]
        split
        · rfl
        · next htaken => rw [hsilent (Bool.not_eq_true _ ▸ htaken)]
      · rw [handleDeleteCon_free hcrlf hget halloc, handleDeleteCon_free hlf hget halloc, htrans, htrans']
    split
    · next hverb =>
      by_cases hci : endp.ci = ciUnused
      · rw [handleModifyCon_unused hcrlf hget hci, handleModifyCon_unused hlf hget hci, htrans, htrans']
      · rw [handleModifyCon_lines hcrlf hget hci, handleModifyCon_lines hlf hget hci, linesRead_crlf hh hp,
          linesRead_lf hh hp, htrans, htrans', modifyAgrees_iff.mpr (h.modify hverb hnamed _ _ hci) endp rfl rfl]
    · rfl

/-- A request with a whole verb goes to its handler, or is ignored. -/
theorem mgcpHandleMessage_render (e : LineEnd) (hlen : 4 ≤ header.length) :
    cfg.mgcpHandleMessage (render e (header :: params)) policy =
      cfg.handleVerb (header.take 4) (render e (header.drop 4 :: params)) policy := by
  have hsplit : render e (header :: params) = header.take 4 ++ render e (header.drop 4 :: params) := by
    rw [render_cons, render_cons, ← append_assoc (header.take 4), take_append_drop]
  rw [hsplit]
  by_cases hverb : header.take 4 ∈ verbs
  · exact mgcpHandleMessage_verb hverb _
  · have htake : (header.take 4).length = 4 := by
      rw [length_take]
      omega
    rw [mgcpHandleMessage_ignored (by rwa [take_left' htake]), handleVerb_ignored hverb]

/-- A line that is shorter than a verb is no request. -/
theorem mgcpHandleMessage_short (e : LineEnd) (hlen : header.length < 4) :
    cfg.mgcpHandleMessage (render e (header :: params)) policy = (cfg, none) := by
  refine mgcpHandleMessage_ignored ?_
  obtain ⟨o, after, ho, hend⟩ := before_cons e (render e params)
  have hmem : o ∈ (render e (header :: params)).take 4 := by
    rw [render_cons, hend, take_append, mem_append]
    right
    rw [show 4 - header.length = (3 - header.length) + 1 by omega, take_succ_cons]
    exact mem_cons_self
  intro hverb
  have hnone : ∀ verb ∈ verbs, carriageReturn ∉ verb ∧ lineFeed ∉ verb := by decide
  rcases ho with rfl | rfl
  · exact (hnone _ hverb).1 hmem
  · exact (hnone _ hverb).2 hmem

/-! ## Telling apart -/

namespace MgcpConfig

/-- The configuration with fixed ports, without transcoder, and with all endpoints free. -/
def blank (cfg : MgcpConfig) : MgcpConfig :=
  { cfg with
    transcoderIp := none
    btsPorts := {}
    netPorts := {}
    transcoderPorts := {}
    lastCallId := 0
    trunk := { cfg.trunk with endpoints := cfg.trunk.endpoints.map fun _ => {} }
    trunks := cfg.trunks.map fun tcfg => { tcfg with endpoints := tcfg.endpoints.map fun _ => {} } }

theorem sameNames_blank (cfg : MgcpConfig) : SameNames cfg cfg.blank :=
  ⟨by simp [blank], by simp [blank, Function.comp_def]⟩

theorem endp?_blank (cfg : MgcpConfig) (r : EndpRef) : cfg.blank.endp? r = (cfg.endp? r).map fun _ => {} := by
  obtain ⟨k, i⟩ := r
  cases k with
  | zero =>
    show (cfg.trunk.endpoints.map fun _ => ({} : MgcpEndpoint))[i]? = _
    rw [getElem?_map]
    rfl
  | succ k =>
    simp only [endp?, trunk?, blank, getElem?_map]
    cases cfg.trunks[k]? with
    | none => rfl
    | some tcfg => exact getElem?_map

theorem generateCallId_blank (cfg : MgcpConfig) : cfg.blank.generateCallId ≠ ciUnused := by
  have hnext : nextCallId 0 = 1 := by decide
  have hfree : cfg.blank.callIdInUse 1 = false := by
    rw [← Bool.not_eq_true, callIdInUse_iff]
    rintro ⟨i, -, life, hlife, hci⟩
    obtain ⟨endp, hendp, rfl⟩ := life?_eq_some.mp hlife
    rw [endp?_blank] at hendp
    obtain ⟨_, _, rfl⟩ := map_eq_some_iff.mp hendp
    revert hci
    decide
  have hlast : cfg.blank.lastCallId = 0 := rfl
  rw [generateCallId, hlast, searchCallId, hnext, hfree]
  show (1 : BitVec 32) ≠ ciUnused
  decide

theorem transcoderIp_modifyEndp (r : EndpRef) (f : MgcpEndpoint → MgcpEndpoint) :
    (cfg.modifyEndp r f).transcoderIp = cfg.transcoderIp := by
  obtain ⟨k, i⟩ := r
  cases k <;> rfl

theorem allocatePorts_static (hmode : ∀ side, (cfg.range side).mode = .static) (hip : cfg.transcoderIp = none) :
    cfg.allocatePorts r =
      ((cfg.modifyEnd ⟨r, .net⟩ fun rtpEnd => { rtpEnd with localAlloc := some .static }).modifyEnd ⟨r, .bts⟩
        fun rtpEnd => { rtpEnd with localAlloc := some .static }, true) := by
  have hsides : cfg.sidesOf r = [.net, .bts] := by simp [sidesOf, hip]
  rw [allocatePorts, hsides]
  simp [allocateSides, allocatePort, hmode]

/-- What a CRCX asks for, as an endpoint keeps it. -/
def asked (cfg : MgcpConfig) (r : EndpRef) :
    Option (Option (List Octet) × Option (List Octet) × MgcpConnectionMode) :=
  (cfg.endp? r).map fun endp => (endp.callid, endp.localOptions, endp.connMode)

theorem asked_modifyEndp {f : MgcpEndpoint → MgcpEndpoint}
    (hf : ∀ endp, ((f endp).callid, (f endp).localOptions, (f endp).connMode) =
      (endp.callid, endp.localOptions, endp.connMode)) : (cfg.modifyEndp r f).asked r = cfg.asked r := by
  rw [asked, endp?_modifyEndp, if_pos rfl, Option.map_map]
  exact congrArg (fun g => (cfg.endp? r).map g) (funext hf)

theorem asked_modifyEnd (side : EndpSide) (f : MgcpRtpEnd → MgcpRtpEnd) :
    (cfg.modifyEnd ⟨r, side⟩ f).asked r = cfg.asked r := by
  refine asked_modifyEndp fun endp => ?_
  cases side <;> rfl

theorem asked_connect : (cfg.connect r).asked r = cfg.asked r := by
  rw [connect, asked, endp?_modifyEndp, if_pos rfl, Option.map_map]
  rfl

theorem asked_createTranscoder : (cfg.createTranscoder r).asked r = cfg.asked r := by
  refine asked_modifyEndp fun endp => ?_
  split <;> rfl

/-- **A CRCX on a free endpoint with fixed ports** leaves there what it asks for. -/
theorem createOnFree_blank (hr : (cfg.endp? r).isSome) (trans callid mode : List Octet) {m : MgcpConnectionMode}
    (hmode : parseConnMode mode = some m) (localOptions : Option (List Octet)) :
    (cfg.blank.createOnFree r trans callid mode localOptions none).1.asked r = some (some callid, localOptions, m) ∧
      ∃ resp, (cfg.blank.createOnFree r trans callid mode localOptions none).2 = some resp ∧ resp.ok = true := by
  obtain ⟨endp, hendp⟩ := isSome_iff_exists.mp hr
  have hblank : cfg.blank.endp? r = some {} := by
    rw [endp?_blank, hendp]
    rfl
  have hports := @allocatePorts_static ((cfg.blank.copyParams r callid localOptions).clearPeers r m) r
    (fun side => by
      rw [clearPeers, copyParams, range_modifyEndp, range_modifyEndp]
      cases side <;> rfl)
    (by
      rw [clearPeers, copyParams, transcoderIp_modifyEndp, transcoderIp_modifyEndp]
      rfl)
  have hid := generateCallId_blank cfg
  rw [← @generateCallId_ports cfg.blank r callid localOptions m, hports] at hid
  simp only [createOnFree, hmode, hports, Bool.not_true, Bool.false_eq_true, if_false, if_neg hid]
  refine ⟨?_, _, rfl, rfl⟩
  rw [asked_createTranscoder, asked_connect, asked_modifyEnd, asked_modifyEnd, asked, clearPeers, copyParams,
    endp?_modifyEndp, if_pos rfl, endp?_modifyEndp, if_pos rfl, hblank]
  simp

end MgcpConfig

/-! ### Each handler tells apart what lines ask -/

variable {trans : List Octet}

/-- A DLCX at an allocated endpoint tells a refusal, and whether an answer is wanted. -/
theorem deleted_injective {refused refused' silent silent' : Bool}
    (h : (if refused = true then (cfg, some (createErrResponse 400 trans)) else cfg.deleted r trans silent none) =
      if refused' = true then (cfg, some (createErrResponse 400 trans)) else cfg.deleted r trans silent' none) :
    refused = refused' ∧ (refused' = false → silent = silent') := by
  have hanswer := congrArg Prod.snd h
  cases refused <;> cases refused' <;> cases silent <;> cases silent' <;>
    simp [deleted, createErrResponse, createOkResponse] at hanswer ⊢

variable {callid mode : List Octet} {localOptions : Option (List Octet)}

theorem createWith_blank (hr : (cfg.endp? r).isSome) :
    cfg.blank.createWith r trans ⟨localOptions, some callid, some mode⟩ none =
      cfg.blank.createOnFree r trans callid mode localOptions none := by
  obtain ⟨endp, hendp⟩ := isSome_iff_exists.mp hr
  have hblank : cfg.blank.endp? r = some {} := by
    rw [endp?_blank, hendp]
    rfl
  simp [createWith, hblank]

theorem createOnFree_invalid (hmode : parseConnMode mode = none) :
    (cfg.createOnFree r trans callid mode localOptions none).2 = some (createErrResponse 517 trans) := by
  simp only [createOnFree, hmode]

/-- The endpoint is allocated to a call. -/
def MgcpConfig.busy (cfg : MgcpConfig) (r : EndpRef) (callid : List Octet) : MgcpConfig :=
  cfg.modifyEndp r fun _ => { allocated := true, callid := some callid }

/-- A CRCX with an invalid mode is answered positively where it looks like a retransmission. -/
theorem prefix_of_busy (hr : (cfg.endp? r).isSome) {old : List Octet} {resp : MgcpResponse}
    (hmode : parseConnMode mode = none) (hok : resp.ok = true)
    (h : ((cfg.busy r old).createWith r trans ⟨localOptions, some callid, some mode⟩ none).2 = some resp) :
    old.isPrefixOf callid = true := by
  obtain ⟨endp, hendp⟩ := isSome_iff_exists.mp hr
  have hbusy : (cfg.busy r old).endp? r = some { allocated := true, callid := some old } := by
    simp [busy, hendp]
  simp only [createWith, hbusy, getD_some, if_true] at h
  split at h
  · assumption
  · split at h
    · rw [createOnFree_invalid hmode] at h
      cases h
      cases hok
    · cases h
      cases hok

theorem retransmission_of_busy (hr : (cfg.endp? r).isSome) :
    ∃ resp, ((cfg.busy r callid).createWith r trans ⟨localOptions, some callid, some mode⟩ none).2 =
      some resp ∧ resp.ok = true := by
  obtain ⟨endp, hendp⟩ := isSome_iff_exists.mp hr
  have hbusy : (cfg.busy r callid).endp? r = some { allocated := true, callid := some callid } := by
    simp [busy, hendp]
  simp only [createWith, hbusy, getD_some, if_true]
  rw [if_pos (List.isPrefixOf_iff_prefix.mpr (prefix_refl callid))]
  exact ⟨_, rfl, rfl⟩

/-- Endpoints that are busy with one call or the other tell two call ids apart. -/
theorem callid_eq_of_busy (hr : (cfg.endp? r).isSome) {callid' mode' : List Octet}
    {localOptions' : Option (List Octet)} (hmode : parseConnMode mode = none) (hmode' : parseConnMode mode' = none)
    (h : ∀ old, (cfg.busy r old).createWith r trans ⟨localOptions, some callid, some mode⟩ none =
      (cfg.busy r old).createWith r trans ⟨localOptions', some callid', some mode'⟩ none) :
    callid = callid' := by
  have hle : callid <+: callid' := by
    obtain ⟨resp, hresp, hok⟩ := @retransmission_of_busy cfg r trans callid mode localOptions hr
    rw [h] at hresp
    exact isPrefixOf_iff_prefix.mp (prefix_of_busy hr hmode' hok hresp)
  have hge : callid' <+: callid := by
    obtain ⟨resp, hresp, hok⟩ := @retransmission_of_busy cfg r trans callid' mode' localOptions' hr
    rw [← h] at hresp
    exact isPrefixOf_iff_prefix.mp (prefix_of_busy hr hmode hok hresp)
  exact hle.eq_of_length (Nat.le_antisymm hle.length_le hge.length_le)

/-- How a free endpoint answers what lines ask: 400 to an incomplete request, 517 to one with an invalid mode, and
    otherwise no error; `kept` is what the endpoint keeps then. -/
def Answers (resp : MgcpResponse) (kept : Option (Option (List Octet) × Option (List Octet) × MgcpConnectionMode)) :
    Option (List Octet × Option (MgcpConnectionMode × Option (List Octet))) → Prop
  | none => resp.ok = false ∧ resp.code = 400
  | some (_, none) => resp.ok = false ∧ resp.code = 517
  | some (callid, some (m, localOptions)) => resp.ok = true ∧ kept = some (some callid, localOptions, m)

theorem answers_blank (hr : (cfg.endp? r).isSome) (asked : CreateParams) :
    ∃ resp, (cfg.blank.createWith r trans asked none).2 = some resp ∧
      Answers resp ((cfg.blank.createWith r trans asked none).1.asked r) (createAsks asked) := by
  cases hasks : createAsks asked with
  | none =>
    rw [createWith_none hasks]
    exact ⟨_, rfl, rfl, rfl⟩
  | some asks =>
    obtain ⟨callid, mode, localOptions, rfl, rfl⟩ := createAsks_some hasks
    rw [createWith_blank hr]
    cases hmode : parseConnMode mode with
    | none =>
      rw [createOnFree_invalid hmode]
      exact ⟨_, rfl, rfl, rfl⟩
    | some m =>
      obtain ⟨hasked, resp, hresp, hok⟩ := createOnFree_blank hr trans callid mode hmode localOptions
      exact ⟨resp, hresp, hok, hasked⟩

/-- The answer and what is kept tell what was asked, up to the call id of a request with an invalid mode. -/
theorem Answers.unique {resp : MgcpResponse}
    {kept : Option (Option (List Octet) × Option (List Octet) × MgcpConnectionMode)}
    {asks asks' : Option (List Octet × Option (MgcpConnectionMode × Option (List Octet)))} (h : Answers resp kept asks)
    (h' : Answers resp kept asks')
    (hcallid : ∀ callid callid', asks = some (callid, none) → asks' = some (callid', none) → callid = callid') :
    asks = asks' := by
  match asks, asks', h, h' with
  | none, none, _, _ => rfl
  | some (callid, none), some (callid', none), _, _ => rw [hcallid callid callid' rfl rfl]
  | some (callid, some (m, localOptions)), some (callid', some (m', localOptions')), h, h' =>
    have hkept := h.2.symm.trans h'.2
    simp only [some.injEq, Prod.mk.injEq] at hkept
    obtain ⟨rfl, rfl, rfl⟩ := hkept
    rfl
  | none, some (_, none), h, h' => exact absurd (h.2.symm.trans h'.2) (by decide)
  | some (_, none), none, h, h' => exact absurd (h.2.symm.trans h'.2) (by decide)
  | none, some (_, some _), h, h' => exact absurd (h.1.symm.trans h'.1) (by decide)
  | some (_, none), some (_, some _), h, h' => exact absurd (h.1.symm.trans h'.1) (by decide)
  | some (_, some _), none, h, h' => exact absurd (h.1.symm.trans h'.1) (by decide)
  | some (_, some _), some (_, none), h, h' => exact absurd (h.1.symm.trans h'.1) (by decide)

/-- **CRCX.** What is answered alike in all configurations with these names asks the same. -/
theorem createAsks_of_alike (hr : (cfg.endp? r).isSome) {asked asked' : CreateParams}
    (h : ∀ cfg', cfg.SameNames cfg' → cfg'.createWith r trans asked none = cfg'.createWith r trans asked' none) :
    createAsks asked = createAsks asked' := by
  obtain ⟨resp, hresp, hanswers⟩ := @answers_blank cfg r trans hr asked
  obtain ⟨resp', hresp', hanswers'⟩ := @answers_blank cfg r trans hr asked'
  rw [h cfg.blank (sameNames_blank cfg)] at hresp hanswers
  rw [hresp] at hresp'
  cases hresp'
  refine hanswers.unique hanswers' fun callid callid' hasks hasks' => ?_
  obtain ⟨_, mode, localOptions, rfl, hvalue⟩ := createAsks_some hasks
  obtain ⟨_, mode', localOptions', rfl, hvalue'⟩ := createAsks_some hasks'
  obtain ⟨rfl, hmode⟩ := Prod.mk.inj hvalue
  obtain ⟨rfl, hmode'⟩ := Prod.mk.inj hvalue'
  exact callid_eq_of_busy hr (map_eq_none_iff.mp hmode.symm) (map_eq_none_iff.mp hmode'.symm)
    fun old => h (cfg.busy r old) (sameNames_modifyEndp cfg r _)

/-! ## The result -/

/-- The renderings of a request are handled alike, whatever the state of the gateway and the policy. -/
def HandledAlike (header : List Octet) (params : List (List Octet)) : Prop :=
  ∀ (cfg : MgcpConfig) (policy : Option MgcpPolicy),
    cfg.mgcpHandleMessage (render .crlf (header :: params)) policy =
      cfg.mgcpHandleMessage (replaceCrlf (render .crlf (header :: params))) policy

theorem plain_drop {line : List Octet} (h : Plain line) (n : Nat) : Plain (line.drop n) :=
  ⟨fun hmem => h.1 (mem_of_mem_drop hmem), fun hmem => h.2 (mem_of_mem_drop hmem)⟩

theorem named_with (h : Named header) (endp : MgcpEndpoint) :
    ∃ cfg r, (requestHeader cfg header).endp = some r ∧ cfg.endp? r = some endp := by
  obtain ⟨cfg, hsome⟩ := h
  obtain ⟨r, hr⟩ := isSome_iff_exists.mp hsome
  obtain ⟨old, hold⟩ := isSome_iff_exists.mp (mgcpAnalyzeHeader_some hr).2
  refine ⟨cfg.modifyEndp r fun _ => endp, r, ?_, by simp [hold]⟩
  rw [requestHeader, (sameNames_modifyEndp cfg r _).header]
  exact hr

theorem lineEndsAgree_of_alike (hplain : ∀ line ∈ header :: params, Plain line)
    (h : ∀ (cfg : MgcpConfig) (policy : Option MgcpPolicy),
      cfg.mgcpHandleMessage (render .crlf (header :: params)) policy =
        cfg.mgcpHandleMessage (render .lf (header :: params)) policy) : LineEndsAgree header params := by
  obtain ⟨hheader, hp⟩ := forall_mem_cons.mp hplain
  have hh := plain_drop hheader 4
  have hlen : ∀ verb ∈ verbs, header.take 4 = verb → 4 ≤ header.length := by
    intro verb hverb htake
    have hfour : ∀ verb ∈ verbs, verb.length = 4 := by decide
    have hl := hfour verb hverb
    rw [← htake, length_take] at hl
    omega
  have hverb : ∀ verb ∈ verbs, header.take 4 = verb → ∀ (cfg : MgcpConfig),
      cfg.handleVerb verb (render .crlf (header.drop 4 :: params)) none =
        cfg.handleVerb verb (render .lf (header.drop 4 :: params)) none := by
    intro verb hmem htake cfg
    have heq := h cfg none
    rw [mgcpHandleMessage_render .crlf (hlen verb hmem htake), mgcpHandleMessage_render .lf (hlen verb hmem htake),
      htake] at heq
    exact heq
  have hanalyze : ∀ (e : LineEnd) (cfg : MgcpConfig),
      (mgcpAnalyzeHeader cfg (render e (header.drop 4 :: params))).trans =
      (requestHeader cfg (header.drop 4)).trans ∧ (mgcpAnalyzeHeader cfg (render e (header.drop 4 :: params))).endp =
        (requestHeader cfg (header.drop 4)).endp := fun e cfg => header_render e cfg hh params
  obtain ⟨lost, hlost⟩ := @leftParams_append (header.drop 4) params hp
  refine ⟨fun htake hnamed => ?_, fun htake hnamed callid ci hci => ?_, fun htake hnamed => ?_⟩
  · obtain ⟨cfg, hsome⟩ := hnamed
    obtain ⟨r, hr⟩ := isSome_iff_exists.mp hsome
    refine (createAgrees_iff hlost).mp (@createAsks_of_alike cfg r (requestHeader cfg (header.drop 4)).trans
      (mgcpAnalyzeHeader_some hr).2 _ _ fun cfg' hnames => ?_)
    have hheader : requestHeader cfg' (header.drop 4) = requestHeader cfg (header.drop 4) := hnames.header _
    have hr' : (requestHeader cfg' (header.drop 4)).endp = some r := by rw [hheader, hr]
    have heq := hverb _ (by decide) htake cfg'
    rw [handleVerb_create, handleVerb_create, handleCreateCon_lines ((hanalyze .crlf cfg').2.trans hr'),
      handleCreateCon_lines ((hanalyze .lf cfg').2.trans hr'), (hanalyze .crlf cfg').1, (hanalyze .lf cfg').1,
      linesRead_crlf hh hp, linesRead_lf hh hp, hheader] at heq
    exact heq
  · refine modifyAgrees_iff.mp fun endp hcallid hendpci => ?_
    obtain ⟨cfg, r, hr, hendp⟩ := named_with hnamed endp
    have heq := hverb _ (by decide) htake cfg
    have hused : endp.ci ≠ ciUnused := by rwa [hendpci]
    rw [handleVerb_modify, handleVerb_modify, handleModifyCon_lines ((hanalyze .crlf cfg).2.trans hr) hendp hused,
      handleModifyCon_lines ((hanalyze .lf cfg).2.trans hr) hendp hused, (hanalyze .crlf cfg).1, (hanalyze .lf cfg).1,
      linesRead_crlf hh hp, linesRead_lf hh hp] at heq
    have hsilent : ∀ lines code, (modifyOutcome endp lines).2.1 = some code →
        (modifyOutcome endp lines).2.2 = false := by
      intro lines code hcode
      unfold modifyOutcome at hcode ⊢
      dsimp only at hcode ⊢
      rw [hcode]
      rfl
    exact outcome_of_modifyWith (by rw [hendp]; rfl) (hsilent _) (hsilent _) heq
  · refine (deleteAgrees_iff hlost).mp fun callid ci => ?_
    obtain ⟨cfg, r, hr, hendp⟩ := named_with hnamed { allocated := true, callid := callid, ci := ci }
    have heq := hverb _ (by decide) htake cfg
    rw [handleVerb_delete, handleVerb_delete, handleDeleteCon_lines ((hanalyze .crlf cfg).2.trans hr) hendp rfl,
      handleDeleteCon_lines ((hanalyze .lf cfg).2.trans hr) hendp rfl, (hanalyze .crlf cfg).1, (hanalyze .lf cfg).1,
      linesRead_crlf hh hp, linesRead_lf hh hp] at heq
    exact deleted_injective heq

/-- **Line ends.** A request and the same request with bare line feeds are handled alike exactly when the lines that are
    left ask the same. -/
theorem lineEnds_iff (hplain : ∀ line ∈ header :: params, Plain line) :
    HandledAlike header params ↔ LineEndsAgree header params := by
  obtain ⟨hheader, hp⟩ := forall_mem_cons.mp hplain
  unfold HandledAlike
  rw [replaceCrlf_render hplain]
  constructor
  · intro h
    exact lineEndsAgree_of_alike hplain h
  · intro h cfg policy
    by_cases hlen : 4 ≤ header.length
    · rw [mgcpHandleMessage_render .crlf hlen, mgcpHandleMessage_render .lf hlen]
      exact handleVerb_agree h (plain_drop hheader 4) hp
    · rw [mgcpHandleMessage_short .crlf (by omega), mgcpHandleMessage_short .lf (by omega)]

/-- No line is lost, and none is malformed only for want of the carriage return. -/
theorem lineEndsAgree_of_kept (hp : ∀ cur ∈ params, Plain cur)
    (hkept : versionLast (header.drop 4) = false ∨ params = [])
    (hproper : ∀ cur ∈ params, properParam (cur ++ [carriageReturn]) = properParam cur) :
    LineEndsAgree header params := by
  have hleft : leftParams (header.drop 4) params = params := by
    rcases hkept with hversion | rfl
    · simp [leftParams, hversion]
    · simp [leftParams]
  have hcr : ∀ cur ∈ params, chomp (cur ++ [carriageReturn]) = chomp cur := fun cur hcur => by
    have hbare := chomp_before .lf (hp cur hcur)
    rw [LineEnd.before, append_nil] at hbare
    exact (chomp_before .crlf (hp cur hcur)).trans hbare.symm
  have hmap : ∀ {β : Type} (f : List Octet → β), (∀ cur ∈ params, f (cur ++ [carriageReturn]) = f cur) →
      (params.map (· ++ [carriageReturn])).map f = params.map f := fun f hf => by
    rw [List.map_map]
    exact map_congr_left hf
  have hchomp := hmap chomp hcr
  have hall : (∀ cur ∈ params.map (· ++ [carriageReturn]), properParam cur = true) ↔
      ∀ cur ∈ params, properParam cur = true := by
    rw [List.forall_mem_map]
    exact forall₂_congr fun cur hcur => by rw [hproper cur hcur]
  have hlost : (params.map (· ++ [carriageReturn])).map chomp = [] ++ params.map chomp := hchomp
  refine ⟨fun _ _ => ?_, fun _ _ callid ci _ => ?_, fun _ _ => ?_⟩
  all_goals rw [hleft]
  · refine (createAgrees_iff hlost).mp ?_
    rw [createParams, createParams]
    simp only [lastValue, hchomp, hall]
  · have hsaid := hmap (fun cur => (modifyError callid ci cur, chomp cur)) fun cur hcur => by
      rw [modifyError, modifyError, hproper cur hcur, hcr cur hcur]
    have hheeded : ∀ lines : List (List Octet), heeded callid ci lines = ((lines.map fun cur =>
        (modifyError callid ci cur, chomp cur)).takeWhile (·.1.isNone)).map Prod.snd := fun lines => by
      rw [takeWhile_map, List.map_map]
      rfl
    have hfirst : ∀ lines : List (List Octet), lines.findSome? (modifyError callid ci) = (lines.map fun cur =>
        (modifyError callid ci cur, chomp cur)).findSome? Prod.fst := fun lines => by
      rw [findSome?_map]
      rfl
    have hsame : heeded callid ci (params.map (· ++ [carriageReturn])) = heeded callid ci params := by
      rw [hheeded, hsaid, ← hheeded]
    exact ⟨by rw [hfirst, hsaid, ← hfirst], by rw [hsame], by rw [hsame], by rw [hsame], fun _ => by rw [hsame]⟩
  · refine (deleteAgrees_iff hlost).mp fun callid ci => ?_
    have hrefused := hmap (deleteRefused callid ci) fun cur hcur => by
      rw [deleteRefused, deleteRefused, hproper cur hcur, hcr cur hcur]
    have hany : ∀ lines : List (List Octet),
        lines.any (deleteRefused callid ci) = (lines.map (deleteRefused callid ci)).any id := fun lines => by
      rw [List.any_map]
      rfl
    rw [hany, hrefused, ← hany]
    exact ⟨rfl, fun _ => by rw [noAnswer, hchomp, ← noAnswer]⟩

/-- With a space behind the version, such a CRCX is handled alike. -/
theorem lineEnds_iff_spaced :
    HandledAlike (octets "CRCX 2 1@mgw MGCP 1.0 ") [octets "M: recvonly", octets "C: 2"] :=
  (lineEnds_iff (by decide)).mpr (lineEndsAgree_of_kept (by decide) (.inl (by decide)) (by decide))

/-- **A CRCX that loses its mode.** With bare line feeds it is refused; with carriage returns the endpoint is
    connected. -/
theorem not_handledAlike_version :
    ¬ HandledAlike (octets "CRCX 2 1@mgw MGCP 1.0") [octets "M: recvonly", octets "C: 2"] := by
  intro h
  have hcode := congrArg (fun p => p.2.map (·.code)) (h forcedStart none)
  revert hcode
  decide +kernel

end OpenBsc.Mgcp
