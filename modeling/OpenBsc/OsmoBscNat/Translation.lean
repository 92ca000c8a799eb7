import OpenBsc.OsmoBscNat.Traces

/-!
# `OsmoBscNat.Translation` — both directions select the same connection

Messages of a BSC are looked up by its reference or, when they have none, by the remote one; messages of the MSC
by the patched one. The first and the last lookup are exact in every run. The one by the remote reference takes
the oldest connection of the BSC that has it, so it is only right while no confirmation puts a reference behind
an older one: `KeepsSelectable` says so of one event, and `translates_of_selectable` is the result for runs.
-/

namespace OpenBsc.OsmoBscNat

open Transition Relation

/-! ## Translated references -/

/-- The message, from a BSC, is on the connection with that reference of its own and that remote reference. -/
def NamesConnection (msg : SccpMsg) (real remote : SccpSourceReference) : Prop :=
  msg.srcLocalRef = some real ∨ msg.srcLocalRef = none ∧ msg.destLocalRef = some remote

/-- **References are translated.** They are distinct, and for every connection that was confirmed both lookups
    select it and restore the BSC's reference. -/
structure Translates (t : NatTrace) : Prop where
  refs : RefsDistinct t.nat
  toMsc : ∀ i con c, t.nat.sccpConnections.get? i = some con → t.confirmed i = some c →
    ∀ msg, NamesConnection msg con.realRef c.ref →
      (t.nat.patchSccpSrcRefToMsc con.bsc msg).1 = some (i, con)
  toBsc : ∀ i con c, t.nat.sccpConnections.get? i = some con → t.confirmed i = some c →
    ∀ msg, msg.destLocalRef = some con.patchedRef →
      t.nat.patchSccpSrcRefToBsc msg = (some (i, con), msg.setDest con.realRef)

/-! ## Which events keep it -/

/-- The effect confirms the connection whose remote reference it sets. -/
def NatEffect.confirms : NatEffect → Bool
  | .refused .. | .confirmed .. => true
  | .none | .opened .. | .assigned .. => false

/-- The remote reference that the event sets is not the one of an older connection of the BSC, if the event
    confirms it, nor of a newer one that was confirmed. -/
def KeepsSelectable (lib : Osmocore) (t : NatTrace) (ev : NatEvent) : Prop :=
  ∀ i b r, t.nat.retargeted (natEffect lib t.nat ev) = some (i, b, r) →
    ∀ j con, t.nat.sccpConnections.get? j = some con → con.bsc = b → con.remoteRef = r →
      (j < i → (natEffect lib t.nat ev).confirms = false) ∧ (i < j → t.confirmed j = none)

instance (lib : Osmocore) (t : NatTrace) (ev : NatEvent) : Decidable (KeepsSelectable lib t ev) :=
  match htarget : t.nat.retargeted (natEffect lib t.nat ev) with
  | none => .isTrue fun i b r h => by
    rw [htarget] at h
    cases h
  | some (i, b, r) =>
    decidable_of_iff (∀ j con, t.nat.sccpConnections.get? j = some con → con.bsc = b → con.remoteRef = r →
      (j < i → (natEffect lib t.nat ev).confirms = false) ∧ (i < j → t.confirmed j = none)) <| by
      unfold KeepsSelectable
      rw [htarget]
      constructor
      · rintro h i' b' r' ⟨⟩
        exact h
      · intro h
        exact h i b r rfl

/-- A connection that was confirmed is the oldest of its BSC with its remote reference. -/
def Selectable (t : NatTrace) : Prop :=
  ∀ i con c, t.nat.sccpConnections.get? i = some con → t.confirmed i = some c →
    ∀ j con', t.nat.sccpConnections.get? j = some con' → con'.bsc = con.bsc → con'.remoteRef = con.remoteRef → i ≤ j

variable {t : NatTrace}

theorem confirms_of_confirmation {effect : NatEffect} {i : Nat} {r : SccpSourceReference} {c : Confirmation}
    (h : t.confirmation effect i r = some c) : effect.confirms = true := by
  cases effect with
  | none | opened => cases h
  | refused b src now => rfl
  | confirmed j src => rfl
  | assigned j endp => cases h

theorem Selectable.traceStep {lib : Osmocore} {ev : NatEvent} (h : Selectable t) (hguard : KeepsSelectable lib t ev) :
    Selectable (traceStep lib t ev) := by
  have hretargets := retargets_natStep lib t.nat ev
  intro i con c hi hc j con' hj hbsc hremote
  rcases hretargets i con hi with ⟨b, r, htarget, hb, hr⟩ | ⟨hother, old, hold, hb, hr⟩
  · have hconfirms : (natEffect lib t.nat ev).confirms = true :=
      confirms_of_confirmation ((confirmed_note_retargeted htarget).symm.trans hc)
    rcases hretargets j con' hj with ⟨b', r', htarget', hb', hr'⟩ | ⟨hother', old', hold', hb', hr'⟩
    · -- there is only one target
      rw [htarget] at htarget'
      injection htarget' with heq
      exact Nat.le_of_eq (congrArg Prod.fst heq)
    · obtain ⟨holder, -⟩ := hguard i b r htarget j old' hold' (by rw [← hb', hbsc, hb]) (by rw [← hr', hremote, hr])
      by_contra hlt
      rw [holder (Nat.lt_of_not_le hlt)] at hconfirms
      cases hconfirms
  · have hcold : t.confirmed i = some c := (confirmed_note_other hold hother).symm.trans hc
    rcases hretargets j con' hj with ⟨b', r', htarget', hb', hr'⟩ | ⟨hother', old', hold', hb', hr'⟩
    · obtain ⟨-, hnewer⟩ := hguard j b' r' htarget' i old hold (by rw [← hb, ← hbsc, hb'])
        (by rw [← hr, ← hremote, hr'])
      by_contra hlt
      rw [hnewer (Nat.lt_of_not_le hlt)] at hcold
      cases hcold
    · exact h i old c hold hcold j old' hold' (by rw [← hb', hbsc, hb]) (by rw [← hr', hremote, hr])

theorem reachableBy_selectable {lib : Osmocore} (h : ReachableBy (natTraceSystem lib) (KeepsSelectable lib) t) :
    Selectable t := by
  refine h.invariant ?_ ?_
  · rintro t ⟨cfg, rfl⟩ i con c hi
    cases hi
  · rintro t ev t' hinv hguard rfl
    exact hinv.traceStep hguard

/-! ## Runs -/

theorem toMsc_of_selectable (hrefs : RefsDistinct t.nat) (hremote : RemoteConfirmed t) (hselect : Selectable t)
    {i : Nat} {con : SccpConnections} {c : Confirmation} (hi : t.nat.sccpConnections.get? i = some con)
    (hc : t.confirmed i = some c) {msg : SccpMsg} (hmsg : NamesConnection msg con.realRef c.ref) :
    (t.nat.patchSccpSrcRefToMsc con.bsc msg).1 = some (i, con) := by
  unfold BscNat.patchSccpSrcRefToMsc
  rcases hmsg with hsrc | ⟨hsrc, hdest⟩
  · rw [hsrc]
    simp only
    rw [hrefs.findByRealRef hi]
  · rw [hsrc, hdest]
    have href : con.remoteRef = c.ref := by
      have h := hremote i con hi
      unfold NatTrace.confirmedRef at h
      rw [hc] at h
      exact h
    show (t.nat.sccpConnections.find? fun conn => conn.bsc == con.bsc && conn.remoteRef == c.ref) = _
    rw [Pool.find?_eq_some]
    refine ⟨hi, by simp [href], ?_⟩
    intro j con' hj hq
    obtain ⟨hb, hr⟩ : con'.bsc = con.bsc ∧ con'.remoteRef = c.ref := by simpa using hq
    exact hselect i con c hi hc j con' hj hb (hr.trans href.symm)

theorem toBsc_of_refs {nat : BscNat} (hrefs : RefsDistinct nat) {i : Nat} {con : SccpConnections}
    (hi : nat.sccpConnections.get? i = some con) {msg : SccpMsg} (hmsg : msg.destLocalRef = some con.patchedRef) :
    nat.patchSccpSrcRefToBsc msg = (some (i, con), msg.setDest con.realRef) := by
  have hfind : nat.sccpConnections.find? (fun conn => conn.patchedRef == con.patchedRef) = some (i, con) := by
    refine Pool.find?_unique hi (by simp) ?_
    intro j d hj hq
    exact hrefs.patched j i d con hj hi (by simpa using hq)
  unfold BscNat.patchSccpSrcRefToBsc
  rw [hmsg]
  simp only
  rw [hfind]

/-- **Where no event puts a remote reference behind an older one, references are translated in every state.** -/
theorem translates_of_selectable (lib : Osmocore) (t : NatTrace)
    (h : ReachableBy (natTraceSystem lib) (KeepsSelectable lib) t) : Translates t := by
  have hrefs := reachable_refsDistinct (reachable_nat.mpr ⟨t, h.reachable, rfl⟩)
  have hremote := reachable_remoteConfirmed h.reachable
  have hselect := reachableBy_selectable h
  exact ⟨hrefs, fun i con c hi hc msg hmsg => toMsc_of_selectable hrefs hremote hselect hi hc hmsg,
    fun i con c hi hc msg hmsg => toBsc_of_refs hrefs hi hmsg⟩

/-- One request is refused, one is confirmed by the MSC. -/
theorem translates_two_connections : Translates (List.foldl (traceStep plainLib) (NatTrace.start plainConfig)
    (.mscConnected :: bscArrives 0 ++ [.fromBsc 0 0 (.sccp (cutRequest 1)),
      .fromBsc 0 0 (.sccp (plainRequest 2)), .fromMsc (.cc 0x050001 0x000007 none)])) :=
  translates_of_selectable plainLib _
    (ReachableBy.along (fun _ _ => rfl) (.init ⟨plainConfig, rfl⟩) (by decide +kernel))

/-- A run that selects the wrong connection: the NAT refuses a request on a connection of its own, whose remote
    reference is 0x050000, and then the MSC chooses 0x050000 for a connection of the same BSC. -/
def collidingTrace : NatTrace :=
  List.foldl (traceStep plainLib) (NatTrace.start plainConfig)
    (.mscConnected :: bscArrives 0 ++ [.fromBsc 0 0 (.sccp (cutRequest 1)),
      .fromBsc 0 0 (.sccp (plainRequest 2)), .fromMsc (.cc 0x050001 0x050000 none)])

theorem not_translates_colliding :
    ¬ ∀ (lib : Osmocore) (t : NatTrace), Reachable (natTraceSystem lib) t → Translates t := by
  intro h
  have hreach : Reachable (natTraceSystem plainLib) collidingTrace :=
    ReachableBy.foldl (fun _ _ => rfl) _ (.init ⟨plainConfig, rfl⟩)
  have hget : (collidingTrace.nat.sccpConnections.get? 1).map (fun con => (con.bsc, con.realRef)) = some (0, 2) := by
    decide +kernel
  obtain ⟨con, hcon, hkeys⟩ := Option.map_eq_some_iff.mp hget
  have hconfirmed : collidingTrace.confirmed 1 = some ⟨0x050000, true⟩ := by decide +kernel
  have hselect := (h plainLib collidingTrace hreach).toMsc 1 con _ hcon hconfirmed (.dt1 0x050000 [])
    (.inr ⟨rfl, rfl⟩)
  rw [(Prod.mk.inj hkeys).1] at hselect
  have hother : (collidingTrace.nat.patchSccpSrcRefToMsc 0 (.dt1 0x050000 [])).1.map Prod.fst = some 0 := by
    decide +kernel
  rw [hselect] at hother
  cases hother

end OpenBsc.OsmoBscNat
