import Mathlib.Logic.Function.Basic
import OpenBsc.OsmoBscNat.References

/-!
# `OsmoBscNat.Traces` — who confirmed which remote reference

The table keeps the remote reference of a connection, and zero before there is one. It does not say who
confirmed it: the MSC with a CC, or the NAT itself with the CC it makes up to refuse a request. A `NatTrace`
keeps that history beside the state. It decides nothing: the states of the
traces are the states of the NAT (`reachable_nat`).
-/

namespace OpenBsc.OsmoBscNat

open Transition Relation Option

/-! ## Histories -/

/-- A confirmation: the reference, and whether the peer that terminates the connection gave it. -/
structure Confirmation where
  ref : SccpSourceReference
  byPeer : Bool
  deriving DecidableEq

/-- The NAT, which connections are between their BSC and the MSC, and the last confirmation of each since it was
    requested. -/
structure NatTrace where
  nat : BscNat
  atMsc : Nat → Bool
  confirmed : Nat → Option Confirmation

namespace NatTrace

/-- Nothing has happened yet. -/
def start (cfg : NatConfig) : NatTrace := ⟨BscNat.start cfg, fun _ => false, fun _ => none⟩

/-- The history after an effect. A connection that is requested goes to the MSC and awaits its confirmation; one
    that is refused is confirmed by the NAT. A CC of the MSC comes from the peer if the connection is at the MSC. -/
def note (t : NatTrace) (effect : NatEffect) : NatTrace :=
  match effect with
  | .none | .assigned .. => t
  | .opened b src now =>
    match (t.nat.createSccpSrcRef b src now).2 with
    | none => t
    | some i =>
      { t with atMsc := Function.update t.atMsc i true, confirmed := Function.update t.confirmed i none }
  | .refused b src now =>
    match (t.nat.refuse b src now).2 with
    | none => t
    | some i =>
      let con := (t.nat.refuse b src now).1.sccpConnections.get? i
      let confirmation := con.map fun con => ⟨con.remoteRef, true⟩
      { t with
        atMsc := Function.update t.atMsc i false
        confirmed := Function.update t.confirmed i confirmation }
  | .confirmed i src =>
    let byPeer := t.atMsc i || t.confirmed i = some ⟨src, true⟩
    { t with confirmed := Function.update t.confirmed i (some ⟨src, byPeer⟩) }

end NatTrace

/-- The connection `i` was at the MSC, and is terminated elsewhere now. -/
def leftMsc (nat nat' : BscNat) (i : Nat) : Bool :=
  (nat.sccpConnections.get? i).any (·.conLocal = .msc) && (nat'.sccpConnections.get? i).any (·.conLocal ≠ .msc)

/-- The NAT and its history after an event. -/
def traceStep (lib : Osmocore) (t : NatTrace) (ev : NatEvent) : NatTrace where
  nat := natStep lib t.nat ev
  atMsc i := (t.note (natEffect lib t.nat ev)).atMsc i && !leftMsc t.nat (natStep lib t.nat ev) i
  confirmed := (t.note (natEffect lib t.nat ev)).confirmed

/-- The NAT with its history. -/
def natTraceSystem (lib : Osmocore) : System NatTrace NatEvent where
  init t := ∃ cfg, t = NatTrace.start cfg
  step t ev t' := t' = traceStep lib t ev

/-- **The states of the traces are the states of the NAT.** -/
theorem reachable_nat {lib : Osmocore} {nat : BscNat} :
    Reachable (natSystem lib) nat ↔ ∃ t, Reachable (natTraceSystem lib) t ∧ t.nat = nat := by
  constructor
  · intro h
    induction h with
    | init hinit =>
      obtain ⟨cfg, rfl⟩ := hinit
      exact ⟨.start cfg, .init ⟨cfg, rfl⟩, rfl⟩
    | step _ hg hs ih =>
      rename_i ev _
      obtain ⟨t, ht, rfl⟩ := ih
      cases hs
      exact ⟨traceStep lib t ev, .step ht hg rfl, rfl⟩
  · rintro ⟨t, h, rfl⟩
    induction h with
    | init hinit =>
      obtain ⟨cfg, rfl⟩ := hinit
      exact .init ⟨cfg, rfl⟩
    | step _ hg hs ih =>
      cases hs
      exact .step ih hg rfl

/-! ## Remote references -/

variable {t : NatTrace}

/-- The connection whose remote reference an effect sets, with its BSC and the reference. -/
def BscNat.retargeted (nat : BscNat) (effect : NatEffect) : Option (Nat × Nat × SccpSourceReference) :=
  match effect with
  | .none | .assigned .. => none
  | .opened b src now => (nat.createSccpSrcRef b src now).2.map fun i => (i, b, 0)
  | .refused b src now =>
    (nat.refuse b src now).2.bind fun i =>
      ((nat.refuse b src now).1.sccpConnections.get? i).map fun con => (i, b, con.remoteRef)
  | .confirmed i src => (nat.sccpConnections.get? i).map fun con => (i, con.bsc, src)

/-- The connection was there, with the same BSC and the same remote reference. -/
def KeptRemote (nat : BscNat) (j : Nat) (con' : SccpConnections) : Prop :=
  ∃ con, nat.sccpConnections.get? j = some con ∧ con'.bsc = con.bsc ∧ con'.remoteRef = con.remoteRef

/-- What an effect does to the remote references: it sets the one of the retargeted connection. -/
def Retargets (nat nat' : BscNat) (target : Option (Nat × Nat × SccpSourceReference)) : Prop :=
  ∀ j con', nat'.sccpConnections.get? j = some con' →
    (∃ b r, target = some (j, b, r) ∧ con'.bsc = b ∧ con'.remoteRef = r) ∨
      (∀ b r, target ≠ some (j, b, r)) ∧ KeptRemote nat j con'

theorem retargets_keeps {nat nat' : BscNat} (h : Keeps nat nat') : Retargets nat nat' none := by
  intro j con' hj
  obtain ⟨con, hcon, hsame⟩ := h.cons j con' hj
  refine .inr ⟨?_, con, hcon, hsame.bsc, hsame.remoteRef⟩
  rintro b r ⟨⟩

/-- What micro steps leave of it. -/
theorem Retargets.keeps {nat nat' nat'' : BscNat} {target : Option (Nat × Nat × SccpSourceReference)}
    (h : Retargets nat nat' target) (hkeeps : Keeps nat' nat'') : Retargets nat nat'' target := by
  intro j con'' hj
  obtain ⟨con', hcon', hsame⟩ := hkeeps.cons j con'' hj
  rcases h j con' hcon' with ⟨b, r, htarget, hb, hr⟩ | ⟨hother, con, hcon, hb, hr⟩
  · exact .inl ⟨b, r, htarget, hsame.bsc.trans hb, hsame.remoteRef.trans hr⟩
  · exact .inr ⟨hother, con, hcon, hsame.bsc.trans hb, hsame.remoteRef.trans hr⟩

variable (lib : Osmocore) (nat : BscNat) (b : Nat) (src : SccpSourceReference)

theorem retargets_create (now : Nat) :
    Retargets nat (nat.createSccpSrcRef b src now).1 (nat.retargeted (.opened b src now)) := by
  obtain ⟨hold, hnew, -, -⟩ := get?_createSccpSrcRef nat b src now
  intro j con hj
  by_cases hcj : (nat.createSccpSrcRef b src now).2 = some j
  · obtain ⟨hb, -, hremote, -⟩ := hnew j con hj hcj
    refine .inl ⟨b, 0, ?_, hb, hremote⟩
    show (nat.createSccpSrcRef b src now).2.map _ = _
    rw [hcj]
    rfl
  · refine .inr ⟨?_, con, (hold j con hj hcj).1, rfl, rfl⟩
    intro b' r htarget
    obtain ⟨i, hi, heq⟩ := map_eq_some_iff.mp htarget
    cases heq
    exact hcj hi

theorem retargets_refuse (now : Nat) :
    Retargets nat (nat.refuse b src now).1 (nat.retargeted (.refused b src now)) := by
  obtain ⟨hold, hnew, -⟩ := get?_refuse nat b src now
  intro j con hj
  by_cases hcj : (nat.refuse b src now).2 = some j
  · refine .inl ⟨b, con.remoteRef, ?_, (hnew j con hj hcj).1, rfl⟩
    show (nat.refuse b src now).2.bind _ = _
    rw [hcj]
    show ((nat.refuse b src now).1.sccpConnections.get? j).map _ = _
    rw [hj]
    rfl
  · refine .inr ⟨?_, con, (hold j con hj hcj).1, rfl, rfl⟩
    intro b' r htarget
    obtain ⟨i, hi, hcon⟩ := bind_eq_some_iff.mp htarget
    obtain ⟨d, -, heq⟩ := map_eq_some_iff.mp hcon
    cases heq
    exact hcj hi

theorem retargets_confirm (i : Nat) (src : SccpSourceReference) :
    Retargets nat (nat.updateSccpSrcRef i src) (nat.retargeted (.confirmed i src)) := by
  intro j con' hj
  have hmod : (nat.sccpConnections.modify i _).get? j = some con' := hj
  rw [Pool.get?_modify] at hmod
  by_cases hji : j = i
  · subst hji
    rw [if_pos rfl] at hmod
    obtain ⟨con, hcon, rfl⟩ := map_eq_some_iff.mp hmod
    refine .inl ⟨con.bsc, src, ?_, rfl, rfl⟩
    show (nat.sccpConnections.get? j).map _ = _
    rw [hcon]
    rfl
  · rw [if_neg hji] at hmod
    refine .inr ⟨?_, con', hmod, rfl, rfl⟩
    intro b r htarget
    obtain ⟨con, -, heq⟩ := map_eq_some_iff.mp htarget
    exact hji (congrArg Prod.fst heq).symm

theorem retargets_applyEffect (effect : NatEffect) :
    Retargets nat (nat.applyEffect effect) (nat.retargeted effect) := by
  cases effect with
  | none => exact retargets_keeps (.refl nat)
  | opened b src now => exact retargets_create nat b src now
  | refused b src now => exact retargets_refuse nat b src now
  | confirmed i src => exact retargets_confirm nat i src
  | assigned i endp => exact retargets_keeps (keeps_assignEndpoints nat i endp)

/-- **An event sets the remote reference of one connection at most.** -/
theorem retargets_natStep (ev : NatEvent) :
    Retargets nat (natStep lib nat ev) (nat.retargeted (natEffect lib nat ev)) :=
  (retargets_applyEffect nat _).keeps (keeps_ops (natStep_ops lib nat ev))

/-! ## Confirmations -/

/-- The confirmation of the retargeted connection. -/
def NatTrace.confirmation (t : NatTrace) (effect : NatEffect) (i : Nat) (r : SccpSourceReference) :
    Option Confirmation :=
  match effect with
  | .none | .assigned .. | .opened .. => none
  | .refused .. => some ⟨r, true⟩
  | .confirmed .. => some ⟨r, t.atMsc i || t.confirmed i = some ⟨r, true⟩⟩

theorem confirmed_note_retargeted {effect : NatEffect} {i b : Nat} {r : SccpSourceReference}
    (h : t.nat.retargeted effect = some (i, b, r)) : (t.note effect).confirmed i = t.confirmation effect i r := by
  cases effect with
  | none | assigned => cases h
  | opened b' src now =>
    obtain ⟨j, hj, heq⟩ := map_eq_some_iff.mp h
    cases heq
    unfold NatTrace.note
    simp only [hj]
    exact Function.update_self ..
  | refused b' src now =>
    obtain ⟨j, hj, hcon⟩ := bind_eq_some_iff.mp h
    obtain ⟨con, hget, heq⟩ := map_eq_some_iff.mp hcon
    obtain ⟨rfl, hrest⟩ := Prod.mk.inj heq
    cases hrest
    unfold NatTrace.note
    simp only [hj, hget]
    exact Function.update_self ..
  | confirmed j src =>
    obtain ⟨con, -, heq⟩ := map_eq_some_iff.mp h
    obtain ⟨rfl, hrest⟩ := Prod.mk.inj heq
    cases hrest
    exact Function.update_self ..

theorem confirmed_note_other {effect : NatEffect} {i : Nat} {con : SccpConnections}
    (hget : t.nat.sccpConnections.get? i = some con) (h : ∀ b r, t.nat.retargeted effect ≠ some (i, b, r)) :
    (t.note effect).confirmed i = t.confirmed i := by
  cases effect with
  | none => rfl
  | assigned j endp => rfl
  | opened b src now =>
    unfold NatTrace.note
    cases hcreated : (t.nat.createSccpSrcRef b src now).2 with
    | none => simp only [hcreated]
    | some j =>
      simp only [hcreated]
      refine Function.update_of_ne ?_ _ _
      rintro rfl
      refine h b 0 ?_
      show (t.nat.createSccpSrcRef b src now).2.map _ = _
      rw [hcreated]
      rfl
  | refused b src now =>
    unfold NatTrace.note
    cases hrefused : (t.nat.refuse b src now).2 with
    | none => simp only [hrefused]
    | some j =>
      simp only [hrefused]
      refine Function.update_of_ne ?_ _ _
      rintro rfl
      obtain ⟨d, hd⟩ := (get?_refuse t.nat b src now).live i hrefused
      refine h b d.remoteRef ?_
      show (t.nat.refuse b src now).2.bind _ = _
      rw [hrefused]
      show ((t.nat.refuse b src now).1.sccpConnections.get? i).map _ = _
      rw [hd]
      rfl
  | confirmed j src =>
    refine Function.update_of_ne ?_ _ _
    rintro rfl
    refine h con.bsc src ?_
    show (t.nat.sccpConnections.get? i).map _ = _
    rw [hget]
    rfl

/-! ## The invariant -/

/-- The reference that was confirmed for the connection `i`, or zero. -/
def NatTrace.confirmedRef (t : NatTrace) (i : Nat) : SccpSourceReference := ((t.confirmed i).map (·.ref)).getD 0

/-- **Every live connection has the remote reference that was confirmed for it, or zero.** -/
def RemoteConfirmed (t : NatTrace) : Prop :=
  ∀ i con, t.nat.sccpConnections.get? i = some con → con.remoteRef = t.confirmedRef i

theorem RemoteConfirmed.traceStep (h : RemoteConfirmed t) (lib : Osmocore) (ev : NatEvent) :
    RemoteConfirmed (traceStep lib t ev) := by
  intro i con' hi
  show con'.remoteRef = (((t.note (natEffect lib t.nat ev)).confirmed i).map (·.ref)).getD 0
  rcases retargets_natStep lib t.nat ev i con' hi with ⟨b, r, htarget, -, hr⟩ | ⟨hother, con, hcon, -, hr⟩
  · rw [hr, confirmed_note_retargeted htarget]
    unfold NatTrace.confirmation
    cases heffect : natEffect lib t.nat ev with
    | none | assigned =>
      rw [heffect] at htarget
      cases htarget
    | opened b' src now =>
      rw [heffect] at htarget
      obtain ⟨j, -, heq⟩ := map_eq_some_iff.mp htarget
      exact (congrArg (fun e : Nat × Nat × SccpSourceReference => e.2.2) heq).symm
    | refused b' src now => rfl
    | confirmed j src => rfl
  · rw [confirmed_note_other hcon hother, hr]
    exact h i con hcon

theorem reachable_remoteConfirmed {lib : Osmocore} (h : Reachable (natTraceSystem lib) t) : RemoteConfirmed t := by
  refine h.invariant ?_ ?_
  · rintro t ⟨cfg, rfl⟩ i con hi
    cases hi
  · rintro t ev t' hinv - rfl
    exact hinv.traceStep lib ev

end OpenBsc.OsmoBscNat
