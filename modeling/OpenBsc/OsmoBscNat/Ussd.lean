import OpenBsc.OsmoBscNat.Gates

/-!
# `OsmoBscNat.Ussd` — the side of the USSD provider (`bsc_ussd.c`)

Whoever connects to the USSD port and names the token becomes the provider; the one before is closed. What the
provider sends goes to the BSC of the connection its destination reference names, and the references on this side
are the BSCs' own.

`forward_sccp` asks neither whether the TCP connection has authenticated nor whether the SCCP connection was
diverted to the provider, and it takes the oldest connection with that reference, of whichever BSC. So what arrives
is right exactly when those two hold of it by chance (`ProviderRoute`, `fromUssd_iff`).
-/

namespace OpenBsc.OsmoBscNat

open Transition Pool List

/-! ## The source -/

namespace BscNat

/-- `bsc_nat_find_con_by_bsc`: the oldest connection with this reference, whichever BSC chose it. -/
def bscNatFindConByBsc (nat : BscNat) (ref : SccpSourceReference) : Option (Nat × SccpConnections) :=
  nat.sccpConnections.find? fun conn => conn.realRef == ref

/-- `forward_sccp` of `bsc_ussd.c`. -/
def forwardSccp (nat : BscNat) (msg : SccpMsg) : BscNat :=
  if !msg.parses then nat
  else
    match msg.destLocalRef with
    | none => nat
    | some dest =>
      match nat.bscNatFindConByBsc dest with
      | none => nat
      | some (_, con) => nat.send (.toBsc con.bsc msg)

end BscNat

/-- `struct bsc_nat_ussd_con`; `authTimeout` is whether its timer runs. -/
structure BscNatUssdCon where
  authorized : Bool := false
  authTimeout : Bool := true
  deriving DecidableEq

/-- The NAT with the TCP connections of the USSD port; `ussdCon` is the one that is the provider. -/
structure UssdNat where
  nat : BscNat
  ussdToken : Option (List Octet) := none
  ussdCons : Pool BscNatUssdCon := .empty
  ussdCon : Option Nat := none

/-- What happens to the NAT, and on the USSD port. A connection that cannot be allocated or watched is not
    accepted; a message with malformed tags, or of another protocol, does nothing. -/
inductive UssdEvent where
  | nat (ev : NatEvent)
  | ussdToken (token : List Octet)
  | accept
  | idResp (u : Nat) (unitName : Option (List Octet))
  | sccp (u : Nat) (msg : SccpMsg)
  | lost (u : Nat)
  | authTimeout (u : Nat)

namespace UssdNat

/-- `bsc_nat_ussd_destroy`. -/
def bscNatUssdDestroy (lib : Osmocore) (s : UssdNat) (u : Nat) : UssdNat :=
  let s := if s.ussdCon = some u then { s with nat := natStep lib s.nat (.ussdCon false), ussdCon := none } else s
  { s with ussdCons := s.ussdCons.remove u }

/-- Whether the token of the NAT is the name, as far as the name goes. -/
def tokenMatches (s : UssdNat) (unitName : List Octet) : Bool :=
  s.ussdToken.any fun token => BscNat.strncmpEq unitName.length token unitName

/-- The provider before `u`, if there is another one, is closed. -/
def replaceProvider (lib : Osmocore) (s : UssdNat) (u : Nat) : UssdNat :=
  match s.ussdCon with
  | some v => if v = u then s else s.bscNatUssdDestroy lib v
  | none => s

/-- `ussd_auth_con`. -/
def ussdAuthCon (lib : Osmocore) (s : UssdNat) (u : Nat) (unitName : List Octet) : UssdNat :=
  if s.tokenMatches unitName then
    let s := s.replaceProvider lib u
    { s with
      nat := natStep lib s.nat (.ussdCon true)
      ussdCons := s.ussdCons.modify u fun con => { con with authTimeout := false, authorized := true }
      ussdCon := some u }
  else s.bscNatUssdDestroy lib u

/-- One event; messages arrive on connections that are not closed. -/
def step (lib : Osmocore) (s : UssdNat) : UssdEvent → UssdNat
  | .nat (.ussdCon _) => s
  | .nat ev => { s with nat := natStep lib s.nat ev }
  | .ussdToken token => { s with ussdToken := some token }
  | .accept => { s with ussdCons := s.ussdCons.alloc {} }
  | .idResp u (some unitName) => if (s.ussdCons.get? u).isSome then s.ussdAuthCon lib u unitName else s
  | .idResp _ none => s
  | .sccp u msg => if (s.ussdCons.get? u).isSome then { s with nat := s.nat.forwardSccp msg } else s
  | .lost u => if (s.ussdCons.get? u).isSome then s.bscNatUssdDestroy lib u else s
  | .authTimeout u => if (s.ussdCons.get? u).any (·.authTimeout) then s.bscNatUssdDestroy lib u else s

/-- The connection that names the token in an event. -/
def authenticates (s : UssdNat) : UssdEvent → Option Nat
  | .idResp u (some unitName) => if (s.ussdCons.get? u).isSome && s.tokenMatches unitName then some u else none
  | _ => none

end UssdNat

/-! ## Runs -/

def ussdSystem (lib : Osmocore) : System UssdNat UssdEvent where
  init s := ∃ cfg, s = { nat := BscNat.start cfg }
  step s ev s' := s' = s.step lib ev

/-- Runs with a record of the connections that named the token. -/
def ussdRecorded (lib : Osmocore) : System (UssdNat × List Nat) UssdEvent :=
  (ussdSystem lib).recording [] fun named s ev _ => named ++ (s.authenticates ev).toList

/-- A connection is authorized exactly when it named the token. -/
structure AuthInv (s : UssdNat) (named : List Nat) : Prop where
  authorized : ∀ u con, s.ussdCons.get? u = some con → (con.authorized = true ↔ u ∈ named)
  below : ∀ u ∈ named, u < s.ussdCons.next

section Authorized

variable {lib : Osmocore} {s : UssdNat} {named : List Nat}

theorem AuthInv.of_eq (h : AuthInv s named) {s' : UssdNat} (hcons : s'.ussdCons = s.ussdCons) : AuthInv s' named := by
  obtain ⟨hauth, hbelow⟩ := h
  rw [← hcons] at hauth hbelow
  exact ⟨hauth, hbelow⟩

theorem ussdCons_bscNatUssdDestroy (lib : Osmocore) (s : UssdNat) (u : Nat) :
    (s.bscNatUssdDestroy lib u).ussdCons = s.ussdCons.remove u := by
  unfold UssdNat.bscNatUssdDestroy
  split_ifs <;> rfl

theorem AuthInv.destroy (h : AuthInv s named) (u : Nat) : AuthInv (s.bscNatUssdDestroy lib u) named where
  authorized v con hv := by
    rw [ussdCons_bscNatUssdDestroy] at hv
    exact h.authorized v con (get?_of_remove hv).2
  below v hv := by
    rw [ussdCons_bscNatUssdDestroy]
    exact h.below v hv

theorem AuthInv.replaceProvider (h : AuthInv s named) (u : Nat) : AuthInv (s.replaceProvider lib u) named := by
  unfold UssdNat.replaceProvider
  split
  · split_ifs
    · exact h
    · exact h.destroy _
  · exact h

theorem get?_replaceProvider (lib : Osmocore) (s : UssdNat) (u : Nat) :
    (s.replaceProvider lib u).ussdCons.get? u = s.ussdCons.get? u := by
  unfold UssdNat.replaceProvider
  split
  case h_1 v hv =>
    split_ifs with hvu
    · rfl
    · rw [ussdCons_bscNatUssdDestroy, get?_remove, if_neg (Ne.symm hvu)]
  case h_2 => rfl

theorem AuthInv.authorize (h : AuthInv s named) {u : Nat} (hu : (s.ussdCons.get? u).isSome = true)
    {s' : UssdNat} (hcons : s'.ussdCons = s.ussdCons.modify u fun con =>
      { con with authTimeout := false, authorized := true }) : AuthInv s' (named ++ [u]) where
  authorized v con hv := by
    rw [hcons, get?_modify] at hv
    split_ifs at hv with hvu
    · obtain ⟨old, -, rfl⟩ := Option.map_eq_some_iff.mp hv
      simp [hvu]
    · rw [h.authorized v con hv]
      simp [hvu]
  below v hv := by
    rw [hcons]
    rcases mem_append.mp hv with hv | hv
    · exact h.below v hv
    · obtain ⟨con, hcon⟩ := Option.isSome_iff_exists.mp hu
      rw [mem_singleton.mp hv]
      show u < s.ussdCons.next
      exact get?_lt hcon

theorem AuthInv.accept (h : AuthInv s named) : AuthInv { s with ussdCons := s.ussdCons.alloc {} } named where
  authorized u con hu := by
    change (s.ussdCons.alloc {}).get? u = some con at hu
    rw [get?_alloc] at hu
    split_ifs at hu with hnew
    · cases hu
      refine ⟨fun h => (by cases h), fun hmem => ?_⟩
      have := h.below u hmem
      omega
    · exact h.authorized u con hu
  below u hu := Nat.lt_succ_of_lt (h.below u hu)

theorem AuthInv.step (h : AuthInv s named) (ev : UssdEvent) :
    AuthInv (s.step lib ev) (named ++ (s.authenticates ev).toList) := by
  have hnone : ∀ s', AuthInv s' named → s.authenticates ev = none →
      AuthInv s' (named ++ (s.authenticates ev).toList) := by
    intro s' hs' hev
    rw [hev]
    simpa using hs'
  cases ev with
  | nat ev =>
    refine hnone _ ?_ rfl
    cases ev with
    | ussdCon connected => exact h
    | _ => exact h.of_eq rfl
  | ussdToken token => exact hnone _ (h.of_eq rfl) rfl
  | accept => exact hnone _ h.accept rfl
  | idResp u unitName =>
    cases unitName with
    | none => exact hnone _ h rfl
    | some unitName =>
      show AuthInv (if (s.ussdCons.get? u).isSome then s.ussdAuthCon lib u unitName else s) _
      by_cases hu : (s.ussdCons.get? u).isSome = true
      · rw [if_pos hu]
        unfold UssdNat.ussdAuthCon
        by_cases htoken : s.tokenMatches unitName = true
        · have hev : s.authenticates (.idResp u (some unitName)) = some u := by
            unfold UssdNat.authenticates
            simp only [hu, htoken, Bool.and_self, if_true]
          rw [if_pos htoken, hev]
          exact (h.replaceProvider u).authorize (by rw [get?_replaceProvider]; exact hu) rfl
        · rw [if_neg htoken]
          refine hnone _ (h.destroy u) ?_
          unfold UssdNat.authenticates
          simp only [htoken, Bool.and_false, Bool.false_eq_true, if_false]
      · rw [if_neg hu]
        refine hnone _ h ?_
        unfold UssdNat.authenticates
        simp only [hu, Bool.false_and, Bool.false_eq_true, if_false]
  | sccp u msg =>
    refine hnone _ ?_ rfl
    dsimp only [UssdNat.step]
    split_ifs
    · exact h.of_eq rfl
    · exact h
  | lost u =>
    refine hnone _ ?_ rfl
    dsimp only [UssdNat.step]
    split_ifs
    · exact h.destroy u
    · exact h
  | authTimeout u =>
    refine hnone _ ?_ rfl
    dsimp only [UssdNat.step]
    split_ifs
    · exact h.destroy u
    · exact h

end Authorized

theorem AuthInv.reachable {lib : Osmocore} {p : UssdNat × List Nat} (h : Reachable (ussdRecorded lib) p) :
    AuthInv p.1 p.2 := by
  refine h.invariant (I := fun p => AuthInv p.1 p.2) ?_ ?_
  · rintro ⟨s, named⟩ ⟨⟨cfg, rfl⟩, rfl⟩
    exact ⟨fun u con hu => (by cases hu), fun u hu => absurd hu not_mem_nil⟩
  · rintro ⟨s, named⟩ ev ⟨s', named'⟩ hinv - ⟨hs', hnamed'⟩
    obtain rfl : s' = s.step lib ev := hs'
    obtain rfl : named' = named ++ (s.authenticates ev).toList := hnamed'
    exact hinv.step ev

/-! ## References -/

theorem refsDistinct_bscNatUssdDestroy {s : UssdNat} (h : RefsDistinct s.nat) (lib : Osmocore) (u : Nat) :
    RefsDistinct (s.bscNatUssdDestroy lib u).nat := by
  unfold UssdNat.bscNatUssdDestroy
  split_ifs
  · exact h.natStep lib (.ussdCon false)
  · exact h

/-- The events of the other side are those of the NAT; whether there is a provider is decided on this side. -/
theorem step_nat (lib : Osmocore) (s : UssdNat) (ev : NatEvent) :
    (s.step lib (.nat ev)).nat = s.nat ∨ (s.step lib (.nat ev)).nat = natStep lib s.nat ev := by
  cases ev with
  | ussdCon connected => exact .inl rfl
  | _ => exact .inr rfl

theorem refsDistinct_replaceProvider {s : UssdNat} (h : RefsDistinct s.nat) (lib : Osmocore) (u : Nat) :
    RefsDistinct (s.replaceProvider lib u).nat := by
  unfold UssdNat.replaceProvider
  split
  · split_ifs
    · exact h
    · exact refsDistinct_bscNatUssdDestroy h lib _
  · exact h

theorem quiet_forwardSccp (nat : BscNat) (msg : SccpMsg) : Quiet nat (nat.forwardSccp msg) := by
  have hrefl : Quiet nat nat := ⟨rfl, rfl, fun _ _ => rfl⟩
  unfold BscNat.forwardSccp
  split
  · exact hrefl
  · split
    · exact hrefl
    · split
      · exact hrefl
      · exact quiet_send nat _

theorem refsDistinct_step {s : UssdNat} (h : RefsDistinct s.nat) (lib : Osmocore) (ev : UssdEvent) :
    RefsDistinct (s.step lib ev).nat := by
  cases ev with
  | nat ev =>
    obtain heq | heq := step_nat lib s ev
    · rw [heq]
      exact h
    · rw [heq]
      exact h.natStep lib ev
  | ussdToken | accept => exact h
  | idResp u unitName =>
    cases unitName with
    | none => exact h
    | some unitName =>
      show RefsDistinct (if (s.ussdCons.get? u).isSome then s.ussdAuthCon lib u unitName else s).nat
      split_ifs
      · unfold UssdNat.ussdAuthCon
        split_ifs
        · exact (refsDistinct_replaceProvider h lib u).natStep lib (.ussdCon true)
        · exact refsDistinct_bscNatUssdDestroy h lib u
      · exact h
  | sccp u msg =>
    dsimp only [UssdNat.step]
    split_ifs
    · have hops : NatOps (fun _ => True) s.nat (s.nat.forwardSccp msg) := (quiet_forwardSccp s.nat msg).ops
      exact h.keeps (keeps_ops hops)
    · exact h
  | lost u =>
    dsimp only [UssdNat.step]
    split_ifs
    · exact refsDistinct_bscNatUssdDestroy h lib u
    · exact h
  | authTimeout u =>
    dsimp only [UssdNat.step]
    split_ifs
    · exact refsDistinct_bscNatUssdDestroy h lib u
    · exact h

theorem refsDistinct_reachable {lib : Osmocore} {p : UssdNat × List Nat} (h : Reachable (ussdRecorded lib) p) :
    RefsDistinct p.1.nat := by
  refine h.invariant (I := fun p => RefsDistinct p.1.nat) ?_ ?_
  · rintro ⟨s, named⟩ ⟨⟨cfg, rfl⟩, -⟩
    exact refsDistinct_start cfg
  · rintro ⟨s, named⟩ ev ⟨s', named'⟩ hinv - ⟨hs', -⟩
    obtain rfl : s' = s.step lib ev := hs'
    exact refsDistinct_step hinv lib ev

/-! ## What is forwarded -/

namespace BscNat

/-- The connection `i` was diverted to the provider, and has this reference. -/
def Diverted (nat : BscNat) (ref : SccpSourceReference) (i : Nat) (con : SccpConnections) : Prop :=
  nat.sccpConnections.get? i = some con ∧ con.conLocal = .ussd ∧ con.realRef = ref

/-- The reference designates a diverted connection of the BSC `b`: it is the only one with it. -/
def Designates (nat : BscNat) (ref : SccpSourceReference) (b : Nat) : Prop :=
  ∃ i con, nat.Diverted ref i con ∧ con.bsc = b ∧ ∀ j other, nat.Diverted ref j other → j = i

/-- A message arrives on a TCP connection that has authenticated, and the oldest connection with its destination
    reference is diverted, the only one that is; or there is no connection with that reference. -/
def ProviderRoute (nat : BscNat) (con : BscNatUssdCon) (msg : SccpMsg) : Prop :=
  msg.parses = true → ∀ dest, msg.destLocalRef = some dest →
    ∀ i conn, nat.bscNatFindConByBsc dest = some (i, conn) →
      con.authorized = true ∧ conn.conLocal = .ussd ∧ ∀ j other, nat.Diverted dest j other → j = i

end BscNat

variable {nat : BscNat} {msg : SccpMsg}

/-- What `forward_sccp` writes: the message, to the BSC of the oldest connection with its reference. -/
theorem written_forwardSccp (nat : BscNat) (msg : SccpMsg) :
    (∃ dest i conn, msg.parses = true ∧ msg.destLocalRef = some dest ∧
      nat.bscNatFindConByBsc dest = some (i, conn) ∧ written nat (nat.forwardSccp msg) = [.toBsc conn.bsc msg]) ∨
    (written nat (nat.forwardSccp msg) = [] ∧ (msg.parses = true → ∀ dest, msg.destLocalRef = some dest →
      nat.bscNatFindConByBsc dest = none)) := by
  unfold BscNat.forwardSccp
  by_cases hparses : msg.parses = true
  · simp only [hparses, Bool.not_true, Bool.false_eq_true, if_false]
    cases hdest : msg.destLocalRef with
    | none => exact .inr ⟨drop_length, fun _ dest h => by cases h⟩
    | some dest =>
      dsimp only
      cases hfind : nat.bscNatFindConByBsc dest with
      | none =>
        refine .inr ⟨drop_length, fun _ dest' h => ?_⟩
        rw [← Option.some.inj h]
        exact hfind
      | some found => exact .inl ⟨dest, found.1, found.2, trivial, rfl, hfind, drop_left⟩
  · simp only [hparses, Bool.not_false, if_true]
    exact .inr ⟨drop_length, fun h => absurd h (by simp)⟩

/-- The oldest connection with a reference, if its BSC is the one that the reference designates, is the diverted one:
    a BSC uses a reference once. -/
theorem designated_of_found (hrefs : RefsDistinct nat) {dest : SccpSourceReference} {i : Nat} {conn : SccpConnections}
    (hfind : nat.bscNatFindConByBsc dest = some (i, conn)) (h : nat.Designates dest conn.bsc) :
    conn.conLocal = .ussd ∧ ∀ j other, nat.Diverted dest j other → j = i := by
  obtain ⟨hconn, href, -⟩ := find?_eq_some.mp hfind
  have href : conn.realRef = dest := by simpa using href
  obtain ⟨j, other, ⟨hother, hlocal, hreal⟩, hbsc, honly⟩ := h
  obtain rfl : j = i := hrefs.real j i other conn hother hconn hbsc (hreal.trans href.symm)
  cases hother.symm.trans hconn
  exact ⟨hlocal, honly⟩

/-- **One message.** In every reachable state, what arrives on a TCP connection goes to the BSC its reference
    designates, and that only if the TCP connection named the token, exactly where it has such a route. -/
theorem fromUssd_iff (lib : Osmocore) {s : UssdNat} {named : List Nat} (h : Reachable (ussdRecorded lib) (s, named))
    {u : Nat} {con : BscNatUssdCon} (hu : s.ussdCons.get? u = some con) (msg : SccpMsg) :
    (∀ out ∈ written s.nat (s.step lib (.sccp u msg)).nat, u ∈ named ∧
      ∃ b dest, out = .toBsc b msg ∧ msg.destLocalRef = some dest ∧ s.nat.Designates dest b) ↔
    s.nat.ProviderRoute con msg := by
  have hauth := (AuthInv.reachable h).authorized u con hu
  have hrefs := refsDistinct_reachable h
  have hstep : (s.step lib (.sccp u msg)).nat = s.nat.forwardSccp msg := by
    dsimp only [UssdNat.step]
    rw [hu]
    rfl
  rw [hstep]
  obtain ⟨dest, i, conn, hparses, hdest, hfind, hout⟩ | ⟨hout, hnone⟩ := written_forwardSccp s.nat msg
  · rw [hout, forall_mem_singleton]
    constructor
    · rintro ⟨hnamed, b, dest', hto, hdest', hdesignates⟩ - dest'' hdest'' i' conn' hfind'
      -- there is one destination, and one oldest connection with it
      cases hdest'.symm.trans hdest
      cases hdest''.symm.trans hdest
      cases hfind'.symm.trans hfind
      cases hto
      exact ⟨hauth.mpr hnamed, designated_of_found hrefs hfind hdesignates⟩
    · intro hroute
      obtain ⟨hauthorized, hlocal, honly⟩ := hroute hparses dest hdest i conn hfind
      obtain ⟨hconn, href, -⟩ := find?_eq_some.mp hfind
      exact ⟨hauth.mp hauthorized, conn.bsc, dest, rfl, hdest, i, conn, ⟨hconn, hlocal, by simpa using href⟩, rfl,
        honly⟩
  · rw [hout]
    constructor
    · intro _ hparses dest hdest i conn hfind
      rw [hnone hparses dest hdest] at hfind
      cases hfind
    · exact fun _ out hmem => absurd hmem not_mem_nil

/-! ## Two runs -/

/-- The library code on the messages of these runs: the request asks for 1. -/
def ussdLib : Osmocore where
  tlvParse := plainLib.tlvParse
  gsm48MiToString := plainLib.gsm48MiToString
  regexec := plainLib.regexec
  gsm0480DecodeUssdRequest _ := some (octets "1")

/-- A NAT that diverts the request 1 of the subscriber 0. -/
def ussdConfig : NatConfig where
  bscConfigs := plainConfig.bscConfigs
  accLst := none
  ussdLst := some [⟨some (octets "0"), none⟩]
  ussdQuery := some (octets "1")
  numberEndpoints := 64

/-- A CM SERVICE REQUEST for supplementary services, with an IMSI. -/
def ssServiceRequest (src : SccpSourceReference) : SccpMsg :=
  requestOf src [0x05, 0x24, 0x08, 0x01, 0x00, 0x01, 0x09, 0x00]

/-- A BSC and the MSC open a connection, which the MSC orders to be ciphered. -/
def connected : List UssdEvent :=
  [.nat .mscConnected, .nat .accept, .nat (.fromBsc 0 0 (.idResp (some [7]))),
    .nat (.fromBsc 0 0 (.sccp (ssServiceRequest 2))), .nat (.fromMsc (.cc 0x50000 9 none)),
    .nat (.fromMsc (.dt1 0x50000 [0x00, 0x03, 0x53]))]

/-- A provider names the token. -/
def providerArrives : List UssdEvent := [.ussdToken (octets "t"), .accept, .idResp 0 (some (octets "t"))]

/-- A REGISTER on the connection. -/
def register : UssdEvent := .nat (.fromBsc 0 0 (.sccp (.dt1 9 [0x01, 0x00, 0x02, 0x0b, 0x3b])))

/-- The state after a list of events, with the connections that named the token. -/
def ussdRun (events : List UssdEvent) : UssdNat × List Nat :=
  events.foldl (fun p ev => (p.1.step ussdLib ev, p.2 ++ (p.1.authenticates ev).toList))
    ({ nat := BscNat.start ussdConfig }, [])

theorem reachable_ussdRun (events : List UssdEvent) :
    Reachable (ussdRecorded ussdLib) ((ussdRun events).1, (ussdRun events).2) := by
  have hstep : ∀ p ev, (ussdRecorded ussdLib).step p ev
      (p.1.step ussdLib ev, p.2 ++ (p.1.authenticates ev).toList) := fun _ _ => ⟨rfl, rfl⟩
  exact ReachableBy.foldl hstep events (.init ⟨⟨ussdConfig, rfl⟩, rfl⟩)

/-- A request is diverted, and the provider answers it. -/
theorem fromUssd_iff_answer :
    ∃ (s : UssdNat) (named : List Nat), written s.nat (s.step ussdLib (.sccp 0 (.dt1 2 [0x01, 0x00, 0x00]))).nat =
        [.toBsc 0 (.dt1 2 [0x01, 0x00, 0x00])] ∧ 0 ∈ named ∧ s.nat.Designates 2 0 := by
  have hreach := reachable_ussdRun (connected ++ providerArrives ++ [register])
  generalize hs : (ussdRun (connected ++ providerArrives ++ [register])).1 = s at hreach
  generalize (ussdRun (connected ++ providerArrives ++ [register])).2 = named at hreach
  have hu : s.ussdCons.get? 0 = some { authorized := true, authTimeout := false } := by
    rw [← hs]
    decide +kernel
  have hall : ∀ e ∈ s.nat.sccpConnections.entries, e.1 = 0 ∧ e.2.conLocal = .ussd := by
    rw [← hs]
    decide +kernel
  have hwritten : written s.nat (s.step ussdLib (.sccp 0 (.dt1 2 [0x01, 0x00, 0x00]))).nat =
      [.toBsc 0 (.dt1 2 [0x01, 0x00, 0x00])] := by
    rw [← hs]
    decide +kernel
  have hroute : s.nat.ProviderRoute { authorized := true, authTimeout := false } (.dt1 2 [0x01, 0x00, 0x00]) := by
    intro _ dest _ i conn hfind
    obtain ⟨hi, hlocal⟩ := hall _ (get?_eq_some.mp (find?_eq_some.mp hfind).1)
    refine ⟨rfl, hlocal, fun j other hj => ?_⟩
    exact (hall _ (get?_eq_some.mp hj.1)).1.trans hi.symm
  have hright := (fromUssd_iff ussdLib hreach hu (.dt1 2 [0x01, 0x00, 0x00])).mpr hroute
  rw [hwritten, forall_mem_singleton] at hright
  obtain ⟨hnamed, b, dest, hto, hdest, hdesignates⟩ := hright
  cases hto
  cases hdest
  exact ⟨s, named, hwritten, hnamed, hdesignates⟩

/-- A connection that has named no token sends to a BSC, on a connection that was not diverted. -/
theorem not_fromUssd_unauthorized :
    ¬∀ (lib : Osmocore) (s : UssdNat) (named : List Nat), Reachable (ussdRecorded lib) (s, named) →
      ∀ u con, s.ussdCons.get? u = some con → ∀ msg,
        ∀ out ∈ written s.nat (s.step lib (.sccp u msg)).nat, u ∈ named ∧
          ∃ b dest, out = .toBsc b msg ∧ msg.destLocalRef = some dest ∧ s.nat.Designates dest b := by
  intro h
  have hreach := reachable_ussdRun (connected ++ [.accept])
  have hnamed := (h ussdLib _ _ hreach 0 {} (by decide +kernel) (.dt1 2 [0x01, 0x00, 0x00])
    (.toBsc 0 (.dt1 2 [0x01, 0x00, 0x00])) (by decide +kernel)).1
  exact absurd hnamed (by decide +kernel)

end OpenBsc.OsmoBscNat
