import Mathlib.Data.List.Find
import Mathlib.Data.List.TakeWhile
import OpenBsc.OsmoBscNat.Ussd

/-!
# `OsmoBscNat.Tokens` — authentication by token (`bsc_nat.c`, `bsc_ussd.c`)

A peer names itself in its IPA identity response, and as many octets of a token are compared as the peer says that its
name has. A name that comes with its terminator is compared in full; any other one is taken for the first token that
begins with it (`strncmpEq_iff`), the empty name for any token.
-/

namespace OpenBsc.OsmoBscNat

open BscNat UssdNat List Option

/-! ## Comparison -/

/-- A name without a terminator has only to be the beginning of the token. -/
theorem strncmpEq_iff {token name : List Octet} (htoken : 0 ∉ token) :
    strncmpEq name.length token name = true ↔ if 0 ∈ name then cString name = token else name <+: token := by
  induction name generalizing token with
  | nil => simp [strncmpEq]
  | cons o name ih =>
    simp only [length_cons, strncmpEq, headD_cons, tail_cons, Bool.and_eq_true, Bool.or_eq_true, beq_iff_eq]
    cases token with
    | nil =>
      by_cases ho : o = 0
      · simp [ho, cString]
      · simp [ho, Ne.symm ho, cString]
    | cons t token =>
      obtain ⟨ht, htoken⟩ : 0 ≠ t ∧ 0 ∉ token := by simpa using htoken
      by_cases ho : o = 0
      · simp [ho, Ne.symm ht, cString]
      · have hih := ih htoken
        by_cases hmem : 0 ∈ name
        · simp only [hmem, if_true, cString] at hih
          simp [ho, Ne.symm ht, hmem, hih, cString, eq_comm]
        · simp only [hmem, if_false] at hih
          simp [Ne.symm ho, Ne.symm ht, hmem, hih, cons_prefix_cons, eq_comm]

/-- The name of a peer is its own text, if it comes without a terminator. -/
theorem cString_of_notMem {name : List Octet} (h : 0 ∉ name) : cString name = name := by
  refine takeWhile_eq_self_iff.mpr fun o ho => ?_
  have hne : o ≠ 0 := fun heq => h (heq ▸ ho)
  simpa using hne

/-- The token itself is taken for the token, with or without its terminator. -/
theorem strncmpEq_self {token name : List Octet} (htoken : 0 ∉ token) (hname : cString name = token) :
    strncmpEq name.length token name = true := by
  rw [strncmpEq_iff htoken]
  by_cases hmem : 0 ∈ name
  · rw [if_pos hmem]
    exact hname
  · rw [if_neg hmem]
    have hself : name = token := (cString_of_notMem hmem).symm.trans hname
    exact hself ▸ prefix_rfl

/-! ## BSCs -/

/-- The tokens of a configuration are strings, and no two BSCs have the same. -/
structure TokensConfigured (cfg : NatConfig) : Prop where
  plain : ∀ conf ∈ cfg.bscConfigs, 0 ∉ conf.token
  distinct : (cfg.bscConfigs.map BscConfig.token).Nodup

/-- **A BSC that has not authenticated is authenticated as the one whose token is its name**, and no other. -/
def AuthenticatesNamed (nat : BscNat) (b : Nat) (unitName : List Octet) : Prop :=
  ∀ bsc, nat.bscConnections.get? b = some bsc → bsc.cfg = none → ∀ conf ∈ nat.cfg.bscConfigs,
    ((nat.ipaccessAuthBsc b unitName).bscConnections.get? b =
      some { bsc with authenticated := true, cfg := some conf } ↔
      cString unitName = conf.token)

/-- The name comes with its terminator, or is the first token that begins with it, if there is one. -/
def NamedInFull (cfg : NatConfig) (unitName : List Octet) : Prop :=
  0 ∈ unitName ∨ ∀ conf, cfg.bscConfigs.find? (fun conf => unitName.isPrefixOf conf.token) = some conf →
    conf.token = unitName

section Bsc

variable {nat : BscNat} {b : Nat} {bsc : BscConnection} {unitName : List Octet}

/-- Whoever has authenticated stays who it is. -/
theorem ipaccessAuthBsc_again (hb : nat.bscConnections.get? b = some bsc) (hcfg : bsc.cfg.isSome = true) :
    (nat.ipaccessAuthBsc b unitName).bscConnections.get? b = some bsc := by
  show (nat.bscConnections.modify b _).get? b = _
  rw [Pool.get?_modify, if_pos rfl, hb, map_some, if_pos hcfg]

theorem ipaccessAuthBsc_found (hb : nat.bscConnections.get? b = some bsc) (hcfg : bsc.cfg = none) :
    (nat.ipaccessAuthBsc b unitName).bscConnections.get? b =
      some ((nat.cfg.bscConfigs.find? fun conf => strncmpEq unitName.length conf.token unitName).elim bsc
        fun conf => { bsc with authenticated := true, cfg := some conf }) := by
  show (nat.bscConnections.modify b _).get? b = _
  rw [Pool.get?_modify, if_pos rfl, hb, map_some, hcfg]
  cases nat.cfg.bscConfigs.find? fun conf => strncmpEq unitName.length conf.token unitName <;> rfl

section

variable (htokens : TokensConfigured nat.cfg) (hb : nat.bscConnections.get? b = some bsc) (hcfg : bsc.cfg = none)

include htokens hb hcfg

/-- The search finds the token if it is there, so only what else it finds matters. -/
theorem authenticatesNamed_iff_found :
    AuthenticatesNamed nat b unitName ↔
      ∀ conf, (nat.cfg.bscConfigs.find? fun conf => strncmpEq unitName.length conf.token unitName) = some conf →
        cString unitName = conf.token := by
  unfold AuthenticatesNamed
  constructor
  · intro h conf hfound
    refine (h bsc hb hcfg conf (mem_of_find?_eq_some hfound)).mp ?_
    rw [ipaccessAuthBsc_found hb hcfg, hfound, elim_some]
  · intro h bsc' hb' _ conf hconf
    cases hb.symm.trans hb'
    rw [ipaccessAuthBsc_found hb hcfg]
    cases hfound : nat.cfg.bscConfigs.find? fun conf => strncmpEq unitName.length conf.token unitName with
    | none =>
      rw [elim_none]
      refine ⟨fun heq => ?_, fun hname => ?_⟩
      · have hnone := congrArg BscConnection.cfg (Option.some.inj heq)
        rw [hcfg] at hnone
        cases hnone
      · have hno := List.find?_eq_none.mp hfound conf hconf
        exact absurd (strncmpEq_self (htokens.plain conf hconf) hname) hno
    | some found =>
      have hname := h found hfound
      rw [elim_some]
      refine ⟨fun heq => ?_, fun hname' => ?_⟩
      · have hsame := congrArg BscConnection.cfg (Option.some.inj heq)
        cases hsame
        exact hname
      · have hsame : found = conf := inj_on_of_nodup_map htokens.distinct (mem_of_find?_eq_some hfound) hconf
          (hname.symm.trans hname')
        rw [hsame]

theorem authenticatesNamed_iff : AuthenticatesNamed nat b unitName ↔ NamedInFull nat.cfg unitName := by
  rw [authenticatesNamed_iff_found htokens hb hcfg]
  unfold NamedInFull
  by_cases hmem : 0 ∈ unitName
  · refine ⟨fun _ => .inl hmem, fun _ conf hfound => ?_⟩
    have hplain := htokens.plain conf (mem_of_find?_eq_some hfound)
    have heq : strncmpEq unitName.length conf.token unitName = true := by simpa using List.find?_some hfound
    rw [strncmpEq_iff hplain, if_pos hmem] at heq
    exact heq
  · have hsearch : (nat.cfg.bscConfigs.find? fun conf => strncmpEq unitName.length conf.token unitName) =
        nat.cfg.bscConfigs.find? fun conf => unitName.isPrefixOf conf.token := by
      refine List.find?_congr fun conf hconf => ?_
      rw [Bool.eq_iff_iff, strncmpEq_iff (htokens.plain conf hconf), if_neg hmem, isPrefixOf_iff_prefix]
    rw [hsearch, cString_of_notMem hmem]
    simp only [hmem, false_or, eq_comm]

end

end Bsc

/-! ## The provider -/

/-- **A connection of the USSD port becomes the provider exactly when its name is the token**; else it is closed. -/
def AcceptsNamed (lib : Osmocore) (s : UssdNat) (u : Nat) (unitName : List Octet) : Prop :=
  if s.ussdToken = some (cString unitName) then
    (s.ussdAuthCon lib u unitName).ussdCon = some u ∧
      ((s.ussdAuthCon lib u unitName).ussdCons.get? u).any (·.authorized) = true
  else (s.ussdAuthCon lib u unitName).ussdCons.get? u = none

/-- The name comes with its terminator, or is no mere beginning of the token. -/
def ProviderNamedInFull (s : UssdNat) (unitName : List Octet) : Prop :=
  0 ∈ unitName ∨ ∀ token, s.ussdToken = some token → unitName <+: token → token = unitName

section Provider

variable {lib : Osmocore} {s : UssdNat} {u : Nat} {unitName : List Octet}

theorem ussdAuthCon_accepted (hu : (s.ussdCons.get? u).isSome = true) (h : s.tokenMatches unitName = true) :
    (s.ussdAuthCon lib u unitName).ussdCon = some u ∧
      ((s.ussdAuthCon lib u unitName).ussdCons.get? u).any (·.authorized) = true := by
  obtain ⟨con, hcon⟩ := isSome_iff_exists.mp hu
  unfold ussdAuthCon
  rw [if_pos h]
  refine ⟨rfl, ?_⟩
  show (((s.replaceProvider lib u).ussdCons.modify u _).get? u).any _ = true
  rw [Pool.get?_modify, if_pos rfl, get?_replaceProvider, hcon]
  rfl

theorem ussdAuthCon_refused (h : s.tokenMatches unitName = false) :
    (s.ussdAuthCon lib u unitName).ussdCons.get? u = none := by
  unfold ussdAuthCon
  rw [if_neg (by simp [h]), ussdCons_bscNatUssdDestroy, Pool.get?_remove, if_pos rfl]

theorem acceptsNamed_iff (htoken : ∀ token, s.ussdToken = some token → 0 ∉ token)
    (hu : (s.ussdCons.get? u).isSome = true) : AcceptsNamed lib s u unitName ↔ ProviderNamedInFull s unitName := by
  unfold AcceptsNamed ProviderNamedInFull
  by_cases hnamed : s.ussdToken = some (cString unitName)
  · rw [if_pos hnamed]
    have hmatches : s.tokenMatches unitName = true := by
      unfold tokenMatches
      rw [hnamed]
      exact strncmpEq_self (htoken _ hnamed) rfl
    refine ⟨fun _ => ?_, fun _ => ussdAuthCon_accepted hu hmatches⟩
    by_cases hmem : 0 ∈ unitName
    · exact .inl hmem
    · refine .inr fun token htok _ => ?_
      rw [cString_of_notMem hmem, htok] at hnamed
      exact Option.some.inj hnamed
  · rw [if_neg hnamed]
    constructor
    · intro h
      by_cases hmem : 0 ∈ unitName
      · exact .inl hmem
      · refine .inr fun token htok hprefix => ?_
        exfalso
        -- such a name is accepted
        have hmatches : s.tokenMatches unitName = true := by
          unfold tokenMatches
          rw [htok]
          show strncmpEq unitName.length token unitName = true
          rw [strncmpEq_iff (htoken token htok), if_neg hmem]
          exact hprefix
        have hsome : ((s.ussdAuthCon lib u unitName).ussdCons.get? u).any (·.authorized) = true :=
          (ussdAuthCon_accepted hu hmatches).2
        rw [h] at hsome
        cases hsome
    · intro h
      refine ussdAuthCon_refused ?_
      unfold tokenMatches
      cases htok : s.ussdToken with
      | none => rfl
      | some token =>
        show strncmpEq unitName.length token unitName = false
        rw [← Bool.not_eq_true, strncmpEq_iff (htoken token htok)]
        have hne : cString unitName ≠ token := fun heq => hnamed (htok.trans (congrArg some heq.symm))
        by_cases hmem : 0 ∈ unitName
        · rw [if_pos hmem]
          exact hne
        · rw [if_neg hmem]
          intro hprefix
          rw [cString_of_notMem hmem] at hne
          exact hne ((h.resolve_left hmem) token htok hprefix).symm

end Provider

/-! ## Both -/

/-- **Authentication by token.** A BSC that has not authenticated, and a connection of the USSD port, are taken for the
    one whose token is their name exactly where the name is in full; a BSC that has authenticated stays who it is. -/
theorem tokens_iff (lib : Osmocore) (s : UssdNat) (htokens : TokensConfigured s.nat.cfg)
    (htoken : ∀ token, s.ussdToken = some token → 0 ∉ token) (unitName : List Octet) :
    (∀ b bsc, s.nat.bscConnections.get? b = some bsc →
      (bsc.cfg = none → (AuthenticatesNamed s.nat b unitName ↔ NamedInFull s.nat.cfg unitName)) ∧
      (bsc.cfg.isSome = true → (s.nat.ipaccessAuthBsc b unitName).bscConnections.get? b = some bsc)) ∧
    ∀ u, (s.ussdCons.get? u).isSome = true → (AcceptsNamed lib s u unitName ↔ ProviderNamedInFull s unitName) :=
  ⟨fun _ _ hb => ⟨fun hcfg => authenticatesNamed_iff htokens hb hcfg, fun hcfg => ipaccessAuthBsc_again hb hcfg⟩,
    fun _ hu => acceptsNamed_iff htoken hu⟩

/-- A NAT with two BSCs, of which one has connected, and a token for the provider. -/
def tokenNat : UssdNat where
  nat :=
    { BscNat.start { plainConfig with bscConfigs := [⟨0, octets "bsc", none, false, [], none, 64⟩,
        ⟨1, octets "bsc2", none, false, [], none, 64⟩] } with
      bscConnections := Pool.empty.alloc {} }
  ussdToken := some (octets "ussd")
  ussdCons := Pool.empty.alloc {}

/-- The name `bsc` with its terminator is the first BSC, and `ussd` is the provider. -/
theorem tokens_iff_named :
    AuthenticatesNamed tokenNat.nat 0 (octets "bsc" ++ [0]) ∧ AcceptsNamed plainLib tokenNat 0 (octets "ussd") := by
  have hconfigured : TokensConfigured tokenNat.nat.cfg := ⟨by decide, by decide⟩
  have htoken : ∀ token, tokenNat.ussdToken = some token → 0 ∉ token := by
    intro token h
    cases h
    decide
  constructor
  · exact (((tokens_iff plainLib tokenNat hconfigured htoken _).1 0 {} (by decide)).1 rfl).mpr (.inl (by decide))
  · refine ((tokens_iff plainLib tokenNat hconfigured htoken _).2 0 (by decide)).mpr (.inr fun token h _ => ?_)
    exact (Option.some.inj h).symm

/-- **A name that is cut off.** Whoever sends no name at all is the first BSC of the configuration. -/
theorem not_authenticatesNamed_empty : ¬ AuthenticatesNamed tokenNat.nat 0 [] := by
  intro h
  have hnamed := (h {} (by decide) rfl ⟨0, octets "bsc", none, false, [], none, 64⟩ (by decide)).mp (by decide)
  exact absurd hnamed (by decide)

end OpenBsc.OsmoBscNat
