import OpenBsc.OsmoBscNat.Translation

/-!
# `OsmoBscNat.Routing` — what a destination reference of a BSC selects

A BSC names the other end of a connection by the reference that end chose. The table finds it as the remote
reference, so two things can go wrong: zero stands for no reference yet, and a message that has a source
reference too is looked up by that one alone. A third is up to the history: the NAT and the MSC may confirm the
same reference, or the MSC confirm a connection that the NAT terminates (`ConfirmsApart` says they do not).
-/

namespace OpenBsc.OsmoBscNat

open Transition Relation

/-! ## Confirmed destinations -/

/-- The message of the BSC `b`, with the destination `dest`, selects only a connection of that BSC for which the
    peer that terminates it confirmed `dest`. -/
def RoutesConfirmed (t : NatTrace) (b : Nat) (msg : SccpMsg) (dest : SccpSourceReference) : Prop :=
  ∀ i con, (t.nat.patchSccpSrcRefToMsc b msg).1 = some (i, con) → con.bsc = b ∧ t.confirmed i = some ⟨dest, true⟩

/-- No two connections of the BSC can be selected by the destination `dest`. -/
def SelectedOnce (nat : BscNat) (b : Nat) (dest : SccpSourceReference) : Prop :=
  ∀ i j con con', nat.sccpConnections.get? i = some con → nat.sccpConnections.get? j = some con' →
    con.bsc = b → con'.bsc = b → con.remoteRef = dest → con'.remoteRef = dest → i = j

/-! ## Which confirmations keep it -/

/-- What the event confirms, the peer of the connection confirms, and no other connection of the BSC was
    confirmed with the same reference. -/
def ConfirmsApart (lib : Osmocore) (t : NatTrace) (ev : NatEvent) : Prop :=
  ∀ i b r, t.nat.retargeted (natEffect lib t.nat ev) = some (i, b, r) →
    ∀ c, t.confirmation (natEffect lib t.nat ev) i r = some c →
      c.byPeer = true ∧ ∀ j con, t.nat.sccpConnections.get? j = some con → con.bsc = b → j ≠ i →
        (t.confirmed j).map (·.ref) ≠ some r

instance (lib : Osmocore) (t : NatTrace) (ev : NatEvent) : Decidable (ConfirmsApart lib t ev) :=
  match htarget : t.nat.retargeted (natEffect lib t.nat ev) with
  | none => .isTrue fun i b r h => by
    rw [htarget] at h
    cases h
  | some (i, b, r) =>
    decidable_of_iff (∀ c ∈ t.confirmation (natEffect lib t.nat ev) i r, c.byPeer = true ∧
      ∀ j con, t.nat.sccpConnections.get? j = some con → con.bsc = b → j ≠ i →
        (t.confirmed j).map (·.ref) ≠ some r) <| by
      unfold ConfirmsApart
      rw [htarget]
      constructor
      · rintro h i' b' r' ⟨⟩
        exact h
      · intro h
        exact h i b r rfl

/-- Every confirmation came from the peer, and those of one BSC are apart. -/
structure PeerConfirmed (t : NatTrace) : Prop where
  byPeer : ∀ i con c, t.nat.sccpConnections.get? i = some con → t.confirmed i = some c → c.byPeer = true
  apart : ∀ i j con con' c c', t.nat.sccpConnections.get? i = some con →
    t.nat.sccpConnections.get? j = some con' → con.bsc = con'.bsc → t.confirmed i = some c →
    t.confirmed j = some c' → c.ref = c'.ref → i = j

variable {t : NatTrace}

theorem confirmation_ref {effect : NatEffect} {i : Nat} {r : SccpSourceReference} {c : Confirmation}
    (h : t.confirmation effect i r = some c) : c.ref = r := by
  cases effect with
  | none | opened => cases h
  | refused | confirmed =>
    cases h
    rfl
  | assigned j endp => cases h

theorem PeerConfirmed.traceStep {lib : Osmocore} {ev : NatEvent} (h : PeerConfirmed t)
    (hguard : ConfirmsApart lib t ev) : PeerConfirmed (traceStep lib t ev) := by
  have hretargets := retargets_natStep lib t.nat ev
  refine ⟨?_, ?_⟩
  · intro i con c hi hc
    rcases hretargets i con hi with ⟨b, r, htarget, -, -⟩ | ⟨hother, old, hold, -, -⟩
    · exact (hguard i b r htarget c ((confirmed_note_retargeted htarget).symm.trans hc)).1
    · exact h.byPeer i old c hold ((confirmed_note_other hold hother).symm.trans hc)
  · -- the new confirmation is apart from the old ones, which are apart from each other
    have hnew : ∀ i j con con' c c', (natStep lib t.nat ev).sccpConnections.get? i = some con →
        (natStep lib t.nat ev).sccpConnections.get? j = some con' → con.bsc = con'.bsc →
        (t.note (natEffect lib t.nat ev)).confirmed i = some c →
        (t.note (natEffect lib t.nat ev)).confirmed j = some c' → c.ref = c'.ref →
        (∃ b r, t.nat.retargeted (natEffect lib t.nat ev) = some (i, b, r)) → i = j := by
      rintro i j con con' c c' hi hj hbsc hc hc' href ⟨b, r, htarget⟩
      by_contra hne
      rcases hretargets i con hi with ⟨b₁, r₁, htarget₁, hb, -⟩ | ⟨hother, -⟩
      · rw [htarget] at htarget₁
        obtain ⟨-, rfl, rfl⟩ : i = i ∧ b = b₁ ∧ r = r₁ := by simpa using htarget₁
        have hci := (confirmed_note_retargeted htarget).symm.trans hc
        rcases hretargets j con' hj with ⟨b', r', htarget', -, -⟩ | ⟨hother', old', hold', hb', -⟩
        · rw [htarget] at htarget'
          injection htarget' with heq
          exact hne (congrArg Prod.fst heq)
        · refine (hguard i b r htarget c hci).2 j old' hold' (by rw [← hb', ← hbsc, hb]) (Ne.symm hne) ?_
          rw [← confirmed_note_other hold' hother', hc']
          exact congrArg some (href.symm.trans (confirmation_ref hci))
      · exact hother b r htarget
    intro i j con con' c c' hi hj hbsc hc hc' href
    by_cases htarget : ∃ b r, t.nat.retargeted (natEffect lib t.nat ev) = some (i, b, r)
    · exact hnew i j con con' c c' hi hj hbsc hc hc' href htarget
    · by_cases htarget' : ∃ b r, t.nat.retargeted (natEffect lib t.nat ev) = some (j, b, r)
      · exact (hnew j i con' con c' c hj hi hbsc.symm hc' hc href.symm htarget').symm
      · rcases hretargets i con hi with ⟨b, r, htgt, -⟩ | ⟨hother, old, hold, hb, -⟩
        · exact absurd ⟨b, r, htgt⟩ htarget
        · rcases hretargets j con' hj with ⟨b, r, htgt, -⟩ | ⟨hother', old', hold', hb', -⟩
          · exact absurd ⟨b, r, htgt⟩ htarget'
          · exact h.apart i j old old' c c' hold hold' (by rw [← hb, ← hb', hbsc])
              ((confirmed_note_other hold hother).symm.trans hc)
              ((confirmed_note_other hold' hother').symm.trans hc') href

theorem reachableBy_peerConfirmed {lib : Osmocore} (h : ReachableBy (natTraceSystem lib) (ConfirmsApart lib) t) :
    PeerConfirmed t := by
  refine h.invariant ?_ ?_
  · rintro t ⟨cfg, rfl⟩
    refine ⟨?_, ?_⟩
    · intro i con c hi
      cases hi
    · intro i j con con' c c' hi
      cases hi
  · rintro t ev t' hinv hguard rfl
    exact hinv.traceStep hguard

/-! ## Which messages are routed -/

/-- The oldest connection of the BSC with the remote reference zero, if there is one, was confirmed. -/
def ZeroConfirmed (t : NatTrace) (b : Nat) : Prop :=
  ∀ i con, t.nat.sccpConnections.get? i = some con → con.bsc = b → con.remoteRef = 0 →
    (∀ j con', t.nat.sccpConnections.get? j = some con' → con'.bsc = b → con'.remoteRef = 0 → i ≤ j) →
    (t.confirmed i).isSome

/-- A message with a source reference is on a connection with the remote reference `dest`, and zero is only named
    where it was confirmed. -/
def NamesConfirmed (t : NatTrace) (b : Nat) (msg : SccpMsg) (dest : SccpSourceReference) : Prop :=
  match msg.srcLocalRef with
  | some src => ∀ i con, t.nat.sccpConnections.get? i = some con → con.bsc = b → con.realRef = src →
      con.remoteRef = dest ∧ (dest = 0 → (t.confirmed i).isSome)
  | none => dest = 0 → ZeroConfirmed t b

/-- At most one connection of the BSC has the remote reference zero, for want of a confirmation or by one. -/
def HasOneZero (t : NatTrace) (b : Nat) : Prop :=
  ∀ i j con con', t.nat.sccpConnections.get? i = some con → t.nat.sccpConnections.get? j = some con' →
    con.bsc = b → con'.bsc = b → t.confirmedRef i = 0 → t.confirmedRef j = 0 → i = j

theorem confirmed_iff (hremote : RemoteConfirmed t) (hpeer : PeerConfirmed t) {i : Nat} {con : SccpConnections}
    (hi : t.nat.sccpConnections.get? i = some con) (dest : SccpSourceReference) :
    t.confirmed i = some ⟨dest, true⟩ ↔ con.remoteRef = dest ∧ (dest = 0 → (t.confirmed i).isSome) := by
  have href := hremote i con hi
  unfold NatTrace.confirmedRef at href
  cases hc : t.confirmed i with
  | none =>
    rw [hc] at href
    have hzero : con.remoteRef = 0 := href
    constructor
    · intro h
      cases h
    · rintro ⟨hdest, hsome⟩
      rw [hzero] at hdest
      cases hsome hdest.symm
  | some c =>
    rw [hc] at href
    have hcref : con.remoteRef = c.ref := href
    have hby := hpeer.byPeer i con c hi hc
    rw [hcref]
    constructor
    · rintro ⟨⟩
      exact ⟨rfl, fun _ => rfl⟩
    · rintro ⟨rfl, -⟩
      rw [← hby]

theorem routesConfirmed_names (hrefs : RefsDistinct t.nat) (hremote : RemoteConfirmed t) (hpeer : PeerConfirmed t)
    {b : Nat} {msg : SccpMsg} {dest : SccpSourceReference} (hdest : msg.destLocalRef = some dest) :
    RoutesConfirmed t b msg dest ↔ NamesConfirmed t b msg dest := by
  unfold RoutesConfirmed NamesConfirmed BscNat.patchSccpSrcRefToMsc
  cases hsrc : msg.srcLocalRef with
  | some src =>
    simp only
    constructor
    · intro h i con hi hb hreal
      have hfind := hrefs.findByRealRef hi
      rw [hb, hreal] at hfind
      rw [hfind] at h
      exact (confirmed_iff hremote hpeer hi dest).mp (h i con rfl).2
    · intro h i con hselect
      cases hfind : t.nat.findByRealRef b src with
      | none =>
        rw [hfind] at hselect
        cases hselect
      | some found =>
        rw [hfind] at hselect
        obtain rfl : found = (i, con) := Option.some.inj hselect
        obtain ⟨hi, hb, hreal⟩ := findByRealRef_some hfind
        exact ⟨hb, (confirmed_iff hremote hpeer hi dest).mpr (h i con hi hb hreal)⟩
  | none =>
    rw [hdest]
    simp only
    constructor
    · rintro h rfl i con hi hb hzero hleast
      have hfind : (t.nat.sccpConnections.find? fun conn => conn.bsc == b && conn.remoteRef == 0) =
          some (i, con) := by
        refine Pool.find?_eq_some.mpr ⟨hi, by simp [hb, hzero], ?_⟩
        intro j con' hj hq
        obtain ⟨hb', hzero'⟩ : con'.bsc = b ∧ con'.remoteRef = 0 := by simpa using hq
        exact hleast j con' hj hb' hzero'
      rw [(h i con hfind).2]
      rfl
    · intro h i con hfind
      obtain ⟨hi, hq, hleast⟩ := Pool.find?_eq_some.mp hfind
      obtain ⟨hb, hr⟩ : con.bsc = b ∧ con.remoteRef = dest := by simpa using hq
      refine ⟨hb, (confirmed_iff hremote hpeer hi dest).mpr ⟨hr, ?_⟩⟩
      rintro rfl
      refine h rfl i con hi hb hr ?_
      intro j con' hj hb' hr'
      exact hleast j con' hj (by simp [hb', hr'])

theorem selectedOnce_zero (hremote : RemoteConfirmed t) (hpeer : PeerConfirmed t) {b : Nat}
    {dest : SccpSourceReference} : SelectedOnce t.nat b dest ↔ (dest = 0 → HasOneZero t b) := by
  constructor
  · rintro h rfl i j con con' hi hj hb hb' hzero hzero'
    exact h i j con con' hi hj hb hb' ((hremote i con hi).trans hzero) ((hremote j con' hj).trans hzero')
  · intro h i j con con' hi hj hb hb' hr hr'
    have href := (hremote i con hi).symm.trans hr
    have href' := (hremote j con' hj).symm.trans hr'
    by_cases hzero : dest = 0
    · exact h hzero i j con con' hi hj hb hb' (href.trans hzero) (href'.trans hzero)
    · -- a reference other than zero was confirmed
      unfold NatTrace.confirmedRef at href href'
      cases hc : t.confirmed i with
      | none =>
        rw [hc] at href
        exact absurd href.symm hzero
      | some c =>
        cases hc' : t.confirmed j with
        | none =>
          rw [hc'] at href'
          exact absurd href'.symm hzero
        | some c' =>
          rw [hc] at href
          rw [hc'] at href'
          exact hpeer.apart i j con con' c c' hi hj (hb.trans hb'.symm) hc hc' (href.trans href'.symm)

/-! ## Runs -/

/-- **Where confirmations come from the peers and are apart, a message selects a confirmed connection exactly
    when it names one, and only zero can stand for two.** -/
theorem routesConfirmed_iff (lib : Osmocore) (t : NatTrace)
    (h : ReachableBy (natTraceSystem lib) (ConfirmsApart lib) t) :
    (∀ b msg dest, msg.destLocalRef = some dest → (RoutesConfirmed t b msg dest ↔ NamesConfirmed t b msg dest)) ∧
      ∀ b dest, SelectedOnce t.nat b dest ↔ (dest = 0 → HasOneZero t b) := by
  have hrefs := reachable_refsDistinct (reachable_nat.mpr ⟨t, h.reachable, rfl⟩)
  have hremote := reachable_remoteConfirmed h.reachable
  have hpeer := reachableBy_peerConfirmed h
  exact ⟨fun b msg dest hdest => routesConfirmed_names hrefs hremote hpeer hdest,
    fun b dest => selectedOnce_zero hremote hpeer⟩

/-- The MSC confirms a connection of its own, and the message behind it is routed there. -/
theorem routesConfirmed_after_cc :
    let t := List.foldl (traceStep plainLib) (NatTrace.start plainConfig)
      (.mscConnected :: bscArrives 0 ++ [.fromBsc 0 0 (.sccp (plainRequest 2)), .fromMsc (.cc 0x050000 7 none)])
    RoutesConfirmed t 0 (.dt1 7 []) 7 ∧ SelectedOnce t.nat 0 7 := by
  intro t
  have h := routesConfirmed_iff plainLib t
    (ReachableBy.along (fun _ _ => rfl) (.init ⟨plainConfig, rfl⟩) (by decide +kernel))
  refine ⟨(h.1 0 (.dt1 7 []) 7 rfl).mpr ?_, (h.2 0 7).mpr ?_⟩
  · intro hzero
    cases hzero
  · intro hzero
    cases hzero

/-- A run after which a BSC's message with the destination zero selects a connection that nobody confirmed. -/
def unconfirmedTrace : NatTrace :=
  List.foldl (traceStep plainLib) (NatTrace.start plainConfig)
    (.mscConnected :: bscArrives 0 ++ [.fromBsc 0 0 (.sccp (plainRequest 2))])

theorem not_routesConfirmed_zero :
    ¬ ∀ (lib : Osmocore) (t : NatTrace), Reachable (natTraceSystem lib) t →
      (∀ b msg dest, msg.destLocalRef = some dest → RoutesConfirmed t b msg dest) ∧
        ∀ b dest, SelectedOnce t.nat b dest := by
  intro h
  have hreach : Reachable (natTraceSystem plainLib) unconfirmedTrace :=
    ReachableBy.foldl (fun _ _ => rfl) _ (.init ⟨plainConfig, rfl⟩)
  have hselect : (unconfirmedTrace.nat.patchSccpSrcRefToMsc 0 (.dt1 0 [])).1.map Prod.fst = some 0 := by
    decide +kernel
  obtain ⟨⟨i, con⟩, hfound, rfl⟩ := Option.map_eq_some_iff.mp hselect
  have hconfirmed := ((h plainLib unconfirmedTrace hreach).1 0 (.dt1 0 []) 0 rfl 0 con hfound).2
  have hnone : unconfirmedTrace.confirmed 0 = none := by decide +kernel
  rw [hnone] at hconfirmed
  cases hconfirmed

end OpenBsc.OsmoBscNat
