import OpenBsc.GbProxy.Runs

/-!
# `GbProxy.Routing` — where downlink PDUs go

A peer is the NS-VC over which a BVC is reached. The proxy learns it from the first reset of the BVC and never again:
when another BSS resets the BVC the peer keeps its NS-VC, and when that gets another NSEI the peer follows it there.
A point-to-point PDU of the SGSN for a BVC that no BSS has reset makes a peer of the NS-VC it came from, and goes
back. Where none of this happens, the peers know who reset each BVC last (`PeersFollow`), and every downlink PDU goes
there and nowhere else (`routed_iff`). That no two peers have one BVCI holds in every run.
-/

namespace OpenBsc.GbProxy

open Ns Transition GbTrace Pool List Option

variable {μ : Type}

/-! ## The purpose -/

/-- The PDU is for the BVC: it comes from the SGSN over the BVC, or over the signalling BVC with the BVCI in it. -/
def DownlinkPdu (nsvc : GprsNsvc) (nsBvci : BitVec 16) (msg : GbMsg μ) (bvci : BitVec 16) : Prop :=
  nsvc.remoteEndIsSgsn = true ∧ 2 ≤ bvci ∧
    (nsBvci = bvci ∨
      (nsBvci = 0 ∨ nsBvci = 1) ∧ msg.ies.bvci = some bvci ∧
        msg.pduType ∈
          [.flushLl, .bvcReset, .bvcResetAck, .bvcBlockAck, .bvcUnblockAck, .pagingPs, .pagingCs, .status])

/-- The PDU goes once to the NSEI that reset the BVC last, unless it is a point-to-point PDU of a BVC that the SGSN
    has blocked; and it goes to no other NSEI, nor to that of the SGSN. -/
structure Routed (t : GbTrace μ) (i : Nat) (nsvc : GprsNsvc) (nsBvci : BitVec 16) (msg : GbMsg μ)
    (bvci : BitVec 16) : Prop where
  there : ∀ nsei, t.lastReset bvci = some nsei →
    (nsBvci = bvci → ∀ found ∈ peerByBvci t.gb.peers bvci, found.2.blocked = false) →
      (gbproxRcvmsg t.gb i nsvc msg nsBvci).2 = [.sendmsg nsei nsBvci msg]
  nowhereElse : ∀ nsei bvci', .sendmsg nsei bvci' msg ∈ (gbproxRcvmsg t.gb i nsvc msg nsBvci).2 →
    t.lastReset bvci = some nsei ∧ nsei ≠ t.gb.nsipSgsnNsei

/-- No two peers have the same BVCI. -/
def UniqueBvcis (gb : Gbprox μ) : Prop := gb.peers.Pairwise fun a b => a.bvci ≠ b.bvci

/-! ## One peer for a BVC -/

variable {peers : Pool GbproxPeer}

theorem unique_modify (h : peers.Pairwise fun a b => a.bvci ≠ b.bvci) {k : Nat} {f : GbproxPeer → GbproxPeer}
    (hf : ∀ peer, (f peer).bvci = peer.bvci) : (peers.modify k f).Pairwise fun a b => a.bvci ≠ b.bvci := by
  refine Pool.Pairwise.modify h (fun a b => Ne.symm) fun peer hpeer j other hother hne => ?_
  show (f peer).bvci ≠ other.bvci
  rw [hf peer]
  exact h k peer j other hpeer hother (Ne.symm hne)

variable {i : Nat} {bvci : BitVec 16}

theorem unique_alloc (h : peers.Pairwise fun a b => a.bvci ≠ b.bvci) (hnew : peerByBvci peers bvci = none) :
    (peers.alloc { nsvc := i, bvci := bvci }).Pairwise fun a b => a.bvci ≠ b.bvci := by
  refine Pool.Pairwise.alloc h (fun a b => Ne.symm) fun j other hpeer => ?_
  have hne : other.bvci ≠ bvci := by simpa using findLast?_eq_none.mp hnew j other hpeer
  exact hne.symm

theorem unique_learn (h : peers.Pairwise fun a b => a.bvci ≠ b.bvci) (i : Nat) (bvci : BitVec 16)
    (cellId : Option RawRa) : (learnPeer peers i bvci cellId).Pairwise fun a b => a.bvci ≠ b.bvci := by
  unfold learnPeer
  cases hfound : peerByBvci peers bvci with
  | none =>
    cases cellId with
    | none => exact unique_alloc h hfound
    | some ra => exact unique_modify (unique_alloc h hfound) fun peer => rfl
  | some found =>
    cases cellId with
    | none => exact h
    | some ra => exact unique_modify h fun peer => rfl

variable {t : GbTrace μ}

/-- Whatever PDU is handed up, a peer is only made for a BVC that has none. -/
theorem uniqueBvcis_indicate (h : UniqueBvcis t.gb) (out : NsOut (GbMsg μ)) : UniqueBvcis (t.indicate out).gb := by
  cases out with
  | tx nsvc addr pdu => exact h
  | signal i signal cause =>
    show UniqueBvcis (t.gb.indicate _)
    unfold Gbprox.indicate
    dsimp only
    split <;> exact h
  | unitdata i nsBvci msg =>
    show UniqueBvcis (t.gb.indicate _)
    unfold Gbprox.indicate
    dsimp only
    split
    · exact h
    · rename_i nsvc hget
      show (gbproxRcvmsg t.gb i nsvc msg nsBvci).1.Pairwise fun a b => a.bvci ≠ b.bvci
      have hchange := peerChange_rcvmsg hget msg nsBvci
      generalize (gbproxRcvmsg t.gb i nsvc msg nsBvci).1 = peers at hchange ⊢
      cases hchange with
      | keep => exact h
      | change _ k hf => exact unique_modify h fun peer => (hf peer).2
      | learn _ cellId => exact unique_learn h i _ cellId
      | sgsn _ _ _ hnew => exact unique_alloc h hnew

/-- **One peer for a BVC.** No two peers have the same BVCI, in any run. -/
theorem uniqueBvcis_of_reachable {nsipSgsnNsei : BitVec 16} (h : Reachable (gbSystem μ nsipSgsnNsei) t) :
    UniqueBvcis t.gb := by
  refine h.invariant (I := fun t => UniqueBvcis t.gb) ?_ ?_
  · rintro t rfl
    exact pairwise_empty
  · intro t ev t' hunique _ hstep
    obtain ⟨nsi, -, rfl⟩ := map_eq_some_iff.mp hstep
    have hfold (outs : List (NsOut (GbMsg μ))) (t : GbTrace μ) (h : UniqueBvcis t.gb) :
        UniqueBvcis (outs.foldl indicate t).gb := by
      induction outs generalizing t with
      | nil => exact h
      | cons out outs ih => exact ih _ (uniqueBvcis_indicate h out)
    exact hfold _ _ hunique

/-! ## The invariant -/

/-- Every peer is reached over the NSEI that reset its BVC last, which is not that of the SGSN, and every BVC that was
    reset has a peer. -/
structure PeersFollow (t : GbTrace μ) : Prop where
  unique : UniqueBvcis t.gb
  reached : ∀ k peer, t.gb.peers.get? k = some peer →
    ∃ nsei, nseiOf t.gb.nsi.nsvcs peer.nsvc = some nsei ∧ t.lastReset peer.bvci = some nsei ∧ nsei ≠ t.gb.nsipSgsnNsei
  known : ∀ bvci, t.lastReset bvci ≠ none → ∃ k peer, t.gb.peers.get? k = some peer ∧ peer.bvci = bvci

theorem PeersFollow.nsi (h : PeersFollow t) {nsi : GprsNsInst (GbMsg μ)}
    (hkeeps : KeepsNseis t.gb.peers t.gb.nsi.nsvcs nsi.nsvcs) :
    PeersFollow { t with gb := { t.gb with nsi := nsi } } where
  unique := h.unique
  known := h.known
  reached k peer hpeer := by
    obtain ⟨nsei, hnsei, hlast, hother⟩ := h.reached k peer hpeer
    refine ⟨nsei, ?_, hlast, hother⟩
    have hsame := hkeeps k peer hpeer (by rw [hnsei]; exact some_ne_none _)
    exact hsame.trans hnsei

/-- A peer may learn its routeing area, and be blocked and unblocked. -/
theorem PeersFollow.modify (h : PeersFollow t) {k : Nat} {f : GbproxPeer → GbproxPeer}
    (hf : ∀ peer, (f peer).nsvc = peer.nsvc ∧ (f peer).bvci = peer.bvci) :
    PeersFollow { t with gb := { t.gb with peers := t.gb.peers.modify k f } } where
  unique := unique_modify h.unique fun peer => (hf peer).2
  reached j peer hpeer := by
    replace hpeer : (t.gb.peers.modify k f).get? j = some peer := hpeer
    rw [get?_modify] at hpeer
    split at hpeer
    · obtain ⟨old, hold, rfl⟩ := map_eq_some_iff.mp hpeer
      rw [(hf old).1, (hf old).2]
      exact h.reached j old hold
    · exact h.reached j peer hpeer
  known bvci hreset := by
    obtain ⟨j, peer, hpeer, rfl⟩ := h.known bvci hreset
    refine ⟨j, if j = k then f peer else peer, ?_, ?_⟩
    · show (t.gb.peers.modify k f).get? j = _
      rw [get?_modify, hpeer]
      split <;> rfl
    · split
      · exact (hf peer).2
      · rfl

variable {nsei : BitVec 16}

theorem PeersFollow.alloc (h : PeersFollow t) (hnew : peerByBvci t.gb.peers bvci = none)
    (hnsei : nseiOf t.gb.nsi.nsvcs i = some nsei) (hother : nsei ≠ t.gb.nsipSgsnNsei) :
    PeersFollow
      { gb := { t.gb with peers := t.gb.peers.alloc { nsvc := i, bvci := bvci } }
        lastReset := Function.update t.lastReset bvci (some nsei) } where
  unique := unique_alloc h.unique hnew
  reached k peer hpeer := by
    replace hpeer : (t.gb.peers.alloc { nsvc := i, bvci := bvci }).get? k = some peer := hpeer
    rw [get?_alloc] at hpeer
    split at hpeer
    · cases hpeer
      exact ⟨nsei, hnsei, Function.update_self _ _ _, hother⟩
    · have hne : peer.bvci ≠ bvci := by simpa using findLast?_eq_none.mp hnew k peer hpeer
      show ∃ nsei', _ ∧ Function.update t.lastReset bvci (some nsei) peer.bvci = some nsei' ∧ _
      rw [Function.update_of_ne hne]
      exact h.reached k peer hpeer
  known b hreset := by
    by_cases hb : b = bvci
    · subst hb
      refine ⟨t.gb.peers.next, { nsvc := i, bvci := b }, ?_, rfl⟩
      show (t.gb.peers.alloc _).get? _ = _
      rw [get?_alloc, if_pos rfl]
    · replace hreset : Function.update t.lastReset bvci (some nsei) b ≠ none := hreset
      rw [Function.update_of_ne hb] at hreset
      obtain ⟨k, peer, hpeer, hbvci⟩ := h.known b hreset
      refine ⟨k, peer, ?_, hbvci⟩
      show (t.gb.peers.alloc _).get? k = _
      rw [get?_alloc, if_neg (Nat.ne_of_lt (get?_lt hpeer)), hpeer]

theorem PeersFollow.learn (h : PeersFollow t) (hnsei : nseiOf t.gb.nsi.nsvcs i = some nsei)
    (hother : nsei ≠ t.gb.nsipSgsnNsei) (hlast : t.lastReset bvci = none ∨ t.lastReset bvci = some nsei)
    (cellId : Option RawRa) :
    PeersFollow
      { gb := { t.gb with peers := learnPeer t.gb.peers i bvci cellId }
        lastReset := Function.update t.lastReset bvci (some nsei) } := by
  unfold learnPeer
  cases hfound : peerByBvci t.gb.peers bvci with
  | none =>
    have hnew := h.alloc hfound hnsei hother
    cases cellId with
    | none => exact hnew
    | some ra => exact hnew.modify fun peer => ⟨rfl, rfl⟩
  | some found =>
    obtain ⟨k, peer⟩ := found
    obtain ⟨hpeer, hbvci⟩ := of_findLast? hfound
    have hbvci : peer.bvci = bvci := by simpa using hbvci
    obtain ⟨nsei', -, hreset, -⟩ := h.reached k peer hpeer
    rw [hbvci] at hreset
    have hsame : t.lastReset bvci = some nsei := by
      rcases hlast with hnone | hsome
      · rw [hnone] at hreset
        cases hreset
      · exact hsome
    have hupdate : Function.update t.lastReset bvci (some nsei) = t.lastReset := by
      rw [← hsame]
      exact Function.update_eq_self _ _
    rw [hupdate]
    cases cellId with
    | none => exact h
    | some ra => exact h.modify fun peer => ⟨rfl, rfl⟩

theorem PeersFollow.blockUnblock (h : PeersFollow t) (bvci : BitVec 16) (blocked : Bool) :
    PeersFollow { t with gb := { t.gb with peers := blockUnblockPeer t.gb.peers bvci blocked } } := by
  unfold blockUnblockPeer
  split
  · exact h
  · exact h.modify fun peer => ⟨rfl, rfl⟩

/-! ## The step -/

/-- What is indicated leaves the peers right: a BVC is reset by the NSEI that reset it before, if there is one, which
    is not that of the SGSN; a point-to-point PDU of the SGSN is for a BVC that was reset; a new connection to the
    SGSN takes no NS-VC from a peer. -/
def OutFollows (t : GbTrace μ) (out : NsOut (GbMsg μ)) : Prop :=
  (∀ reset ∈ bvcReset t.gb out,
    reset.2 ≠ t.gb.nsipSgsnNsei ∧ (t.lastReset reset.1 = none ∨ t.lastReset reset.1 = some reset.2)) ∧
  match out with
  | .tx .. => True
  | .unitdata i nsBvci _ =>
    ∀ nsvc ∈ t.gb.nsi.nsvcs.get? i, nsvc.remoteEndIsSgsn = true → nsBvci ≠ 0 → nsBvci ≠ 1 → t.lastReset nsBvci ≠ none
  | .signal i signal _ => SignalApart t.gb i signal

instance (t : GbTrace μ) (out : NsOut (GbMsg μ)) : Decidable (OutFollows t out) :=
  -- the resets that there are, not all pairs of numbers, are gone through
  have : Decidable (∀ reset ∈ bvcReset t.gb out,
      reset.2 ≠ t.gb.nsipSgsnNsei ∧ (t.lastReset reset.1 = none ∨ t.lastReset reset.1 = some reset.2)) :=
    Option.decidableForallMem (bvcReset t.gb out)
  match out with
  | .tx .. => inferInstanceAs (Decidable (_ ∧ True))
  | .unitdata i _ _ => inferInstanceAs (Decidable (_ ∧ ∀ nsvc ∈ t.gb.nsi.nsvcs.get? i, _))
  | .signal i signal _ => inferInstanceAs (Decidable (_ ∧ SignalApart t.gb i signal))

variable {nsvc : GprsNsvc} {msg : GbMsg μ} {nsBvci : BitVec 16}

theorem peersFollow_rcvmsg (h : PeersFollow t) (hget : t.gb.nsi.nsvcs.get? i = some nsvc)
    (hout : OutFollows t (.unitdata i nsBvci msg)) :
    PeersFollow
      { gb := { t.gb with peers := (gbproxRcvmsg t.gb i nsvc msg nsBvci).1 }
        lastReset := (t.indicate (.unitdata i nsBvci msg)).lastReset } := by
  have hchange := peerChange_rcvmsg hget msg nsBvci
  generalize (gbproxRcvmsg t.gb i nsvc msg nsBvci).1 = peers at hchange ⊢
  cases hchange with
  | keep hreset =>
    simp only [indicate, hreset]
    exact h
  | change hreset k hf =>
    simp only [indicate, hreset]
    exact h.modify hf
  | learn hreset cellId =>
    simp only [indicate, hreset]
    obtain ⟨hother, hlast⟩ := hout.1 _ hreset
    exact h.learn (by simp [nseiOf, hget]) hother hlast cellId
  | sgsn _ hremote hptp hnew =>
    -- the BVC was reset, so it has a peer
    have hreset := hout.2 nsvc hget hremote (fun h => hptp (.inl h)) (fun h => hptp (.inr h))
    obtain ⟨k, peer, hpeer, hbvci⟩ := h.known nsBvci hreset
    have hother : (peer.bvci == nsBvci) = false := findLast?_eq_none.mp hnew k peer hpeer
    simp [hbvci] at hother

theorem peersFollow_indicate {out : NsOut (GbMsg μ)} (h : PeersFollow t) (hout : OutFollows t out) :
    PeersFollow (t.indicate out) := by
  cases out with
  | tx nsvc addr pdu => exact h
  | unitdata i nsBvci msg =>
    cases hget : t.gb.nsi.nsvcs.get? i with
    | none =>
      have hnone : bvcReset t.gb (.unitdata i nsBvci msg) = none := by simp [bvcReset, hget]
      simp only [indicate, Gbprox.indicate, hnone, hget]
      exact h
    | some nsvc =>
      have hpeers := peersFollow_rcvmsg h hget hout
      have hrun := hpeers.nsi (keepsNseis_rcvmsg t.gb i nsvc msg nsBvci _)
      have hgb : (t.indicate (.unitdata i nsBvci msg)).gb =
          { t.gb with
            peers := (gbproxRcvmsg t.gb i nsvc msg nsBvci).1
            nsi := (gbproxRcvmsg t.gb i nsvc msg nsBvci).2.foldl NsReq.perform t.gb.nsi } := by
        simp only [indicate, Gbprox.indicate, hget]
      have hsame : t.indicate (.unitdata i nsBvci msg) =
          ⟨(t.indicate (.unitdata i nsBvci msg)).gb, (t.indicate (.unitdata i nsBvci msg)).lastReset⟩ := rfl
      rw [hsame, hgb]
      exact hrun
  | signal i signal cause =>
    cases hget : t.gb.nsi.nsvcs.get? i with
    | none =>
      simp only [indicate, Gbprox.indicate, bvcReset, hget]
      exact h
    | some nsvc =>
      simp only [indicate, Gbprox.indicate, bvcReset, hget]
      exact h.nsi (keepsNseis_signal hget hout.2 cause)

/-- All that is indicated in a step leaves the peers right, and the NS layer sets no NSEI of a peer. -/
def StepFollows (t : GbTrace μ) (ev : NsEvent (GbMsg μ)) : Prop :=
  SetsNoNsei t.gb ev ∧ ∀ nsi ∈ nsStep t.gb.nsi ev,
    Along GbTrace.indicate OutFollows { t with gb := { t.gb with nsi := nsi } } (newOuts t.gb.nsi nsi)

instance (t : GbTrace μ) (ev : NsEvent (GbMsg μ)) : Decidable (StepFollows t ev) :=
  inferInstanceAs (Decidable (SetsNoNsei t.gb ev ∧ ∀ nsi ∈ nsStep t.gb.nsi ev, Along _ _ _ _))

theorem peersFollow_along {outs : List (NsOut (GbMsg μ))} (h : PeersFollow t)
    (houts : Along indicate OutFollows t outs) : PeersFollow (outs.foldl indicate t) := by
  induction outs generalizing t with
  | nil => exact h
  | cons out outs ih => exact ih (peersFollow_indicate h houts.1) houts.2

/-- **The step.** A step that leaves the peers right keeps the invariant. -/
theorem peersFollow_step {t' : GbTrace μ} {ev : NsEvent (GbMsg μ)} (h : PeersFollow t) (hfollows : StepFollows t ev)
    (hstep : gbStep t ev = some t') : PeersFollow t' := by
  obtain ⟨nsi, hnsi, rfl⟩ := map_eq_some_iff.mp hstep
  apply peersFollow_along
  · exact h.nsi (nseiOf_nsStep hfollows.1 hnsi)
  · exact hfollows.2 nsi hnsi

theorem peersFollow_of_reachable {nsipSgsnNsei : BitVec 16} (h : ReachableBy (gbSystem μ nsipSgsnNsei) StepFollows t) :
    PeersFollow t := by
  refine h.invariant (I := PeersFollow) ?_ fun t ev t' hinv hfollows hstep => peersFollow_step hinv hfollows hstep
  rintro t rfl
  exact ⟨pairwise_empty, fun k peer hpeer => (nomatch hpeer), fun bvci hreset => absurd rfl hreset⟩

/-! ## The result -/

/-- A PDU is not one that the proxy makes of it. -/
theorem status_ne (cause : BssgpCause) (bvci : Option (BitVec 16)) (msg : GbMsg μ) : .status cause bvci msg ≠ msg := by
  intro h
  have hsize := congrArg sizeOf h
  simp at hsize

/-- The proxy can route the PDU: the BVC of a point-to-point PDU was reset, and that of paging or a STATUS was not. -/
def Routable (t : GbTrace μ) (nsBvci : BitVec 16) (msg : GbMsg μ) (bvci : BitVec 16) : Prop :=
  (nsBvci = bvci → t.lastReset bvci ≠ none) ∧
    (nsBvci ≠ bvci → msg.pduType ∈ [.pagingPs, .pagingCs, .status] → t.lastReset bvci = none)

section

variable (h : PeersFollow t)

include h

theorem PeersFollow.peer (hlast : t.lastReset bvci = some nsei) :
    ∃ k peer, peerByBvci t.gb.peers bvci = some (k, peer) ∧ nseiOf t.gb.nsi.nsvcs peer.nsvc = some nsei ∧
      nsei ≠ t.gb.nsipSgsnNsei := by
  obtain ⟨j, other, hother, hbvci⟩ := h.known bvci (by rw [hlast]; exact some_ne_none _)
  cases hfound : peerByBvci t.gb.peers bvci with
  | none =>
    have hnot : (other.bvci == bvci) = false := findLast?_eq_none.mp hfound j other hother
    simp [hbvci] at hnot
  | some found =>
    obtain ⟨k, peer⟩ := found
    obtain ⟨hpeer, hpeerBvci⟩ := of_findLast? hfound
    have hpeerBvci : peer.bvci = bvci := by simpa using hpeerBvci
    obtain ⟨nsei', hnsei, hreset, hsgsn⟩ := h.reached k peer hpeer
    rw [hpeerBvci, hlast] at hreset
    cases hreset
    exact ⟨k, peer, rfl, hnsei, hsgsn⟩

theorem PeersFollow.noPeer (hlast : t.lastReset bvci = none) :
    peerByBvci t.gb.peers bvci = none := by
  refine findLast?_eq_none.mpr fun k peer hpeer => ?_
  obtain ⟨nsei, -, hreset, -⟩ := h.reached k peer hpeer
  have hne : peer.bvci ≠ bvci := by
    rintro rfl
    rw [hlast] at hreset
    cases hreset
  simpa using hne

theorem relay2bvci_of_reset (hlast : t.lastReset bvci = some nsei) (msg : GbMsg μ)
    (nsBvci : BitVec 16) :
    gbproxRelay2bvci t.gb.nsi.nsvcs t.gb.peers msg bvci nsBvci = [.sendmsg nsei nsBvci msg] := by
  obtain ⟨k, peer, hfound, hnsei, -⟩ := h.peer hlast
  simp [gbproxRelay2bvci, gbproxRelay2peer, hfound, hnsei]

theorem relay2bvci_of_unknown (hlast : t.lastReset bvci = none) (msg : GbMsg μ)
    (nsBvci : BitVec 16) : gbproxRelay2bvci t.gb.nsi.nsvcs t.gb.peers msg bvci nsBvci = [] := by
  simp [gbproxRelay2bvci, h.noPeer hlast]

theorem routed_of_relayed (hlast : t.lastReset bvci = some nsei)
    (hreqs : (gbproxRcvmsg t.gb i nsvc msg nsBvci).2 = [.sendmsg nsei nsBvci msg]) :
    Routed t i nsvc nsBvci msg bvci where
  there nsei' hlast' _ := by
    rw [hlast] at hlast'
    cases hlast'
    exact hreqs
  nowhereElse nsei' bvci' hmem := by
    rw [hreqs] at hmem
    cases mem_singleton.mp hmem
    obtain ⟨-, -, -, -, hsgsn⟩ := h.peer hlast
    exact ⟨hlast, hsgsn⟩

end

/-- The PDU is relayed nowhere, for a BVC that was not reset. -/
theorem routed_of_dropped (hlast : t.lastReset bvci = none)
    (hreqs : ∀ nsei bvci', .sendmsg nsei bvci' msg ∉ (gbproxRcvmsg t.gb i nsvc msg nsBvci).2) :
    Routed t i nsvc nsBvci msg bvci where
  there nsei hlast' := by
    rw [hlast] at hlast'
    cases hlast'
  nowhereElse nsei bvci' hmem := absurd hmem (hreqs nsei bvci')

theorem notMem_txStatus {cause : BssgpCause} : .sendmsg nsei bvci msg ∉ bssgpTxStatus nsvc cause msg := by
  intro h
  obtain ⟨-, -, hmsg⟩ := NsReq.sendmsg.inj (mem_singleton.mp h)
  exact status_ne _ _ _ hmsg.symm

theorem routed_ptp_iff (h : PeersFollow t) (hget : t.gb.nsi.nsvcs.get? i = some nsvc)
    (hremote : nsvc.remoteEndIsSgsn = true) (hsig : ¬ (bvci = 0 ∨ bvci = 1)) :
    Routed t i nsvc bvci msg bvci ↔ t.lastReset bvci ≠ none := by
  have hrcv : gbproxRcvmsg t.gb i nsvc msg bvci = rxPtpFromSgsn t.gb.nsi.nsvcs t.gb.peers i nsvc msg bvci := by
    unfold gbproxRcvmsg
    rw [if_neg hsig, hremote]
    rfl
  cases hlast : t.lastReset bvci with
  | none =>
    refine iff_of_false (fun hrouted => ?_) (fun hne => hne rfl)
    -- the PDU goes back to where it came from
    have hback : .sendmsg nsvc.nsei bvci msg ∈ (gbproxRcvmsg t.gb i nsvc msg bvci).2 := by
      rw [hrcv]
      simp [rxPtpFromSgsn, h.noPeer hlast, gbproxRelay2peer, nseiOf, hget]
    have hreset := (hrouted.nowhereElse _ _ hback).1
    rw [hlast] at hreset
    cases hreset
  | some nsei =>
    refine iff_of_true ?_ (some_ne_none _)
    obtain ⟨k, peer, hfound, hnsei, hsgsn⟩ := h.peer hlast
    cases hblocked : peer.blocked with
    | false =>
      apply routed_of_relayed h hlast
      rw [hrcv]
      simp [rxPtpFromSgsn, hfound, hblocked, gbproxRelay2peer, hnsei]
    | true =>
      constructor
      · intro nsei' _ hfree
        have hnot := hfree rfl (k, peer) hfound
        rw [hblocked] at hnot
        cases hnot
      · intro nsei' bvci' hmem
        rw [hrcv] at hmem
        simp only [rxPtpFromSgsn, hfound, hblocked, if_true] at hmem
        exact absurd hmem notMem_txStatus

theorem routed_sig_iff (h : PeersFollow t) (hremote : nsvc.remoteEndIsSgsn = true) (hsig : nsBvci = 0 ∨ nsBvci = 1)
    (hptp : 2 ≤ bvci) (hbvci : msg.ies.bvci = some bvci)
    (htype : msg.pduType ∈
      [.flushLl, .bvcReset, .bvcResetAck, .bvcBlockAck, .bvcUnblockAck, .pagingPs, .pagingCs, .status]) :
    Routed t i nsvc nsBvci msg bvci ↔
      (msg.pduType ∈ [.pagingPs, .pagingCs, .status] → t.lastReset bvci = none) := by
  have hrcv : gbproxRcvmsg t.gb i nsvc msg nsBvci = gbproxRxSigFromSgsn t.gb.nsi.nsvcs t.gb.peers nsvc msg nsBvci := by
    unfold gbproxRcvmsg
    rw [if_pos hsig, hremote]
    rfl
  -- the blocked state of a peer may change before the PDU is relayed
  have hby (peers : Pool GbproxPeer) (hfollow : PeersFollow { t with gb := { t.gb with peers := peers } })
      (hreqs : (gbproxRcvmsg t.gb i nsvc msg nsBvci).2 = gbproxRelay2bvci t.gb.nsi.nsvcs peers msg bvci nsBvci) :
      Routed t i nsvc nsBvci msg bvci := by
    cases hlast : t.lastReset bvci with
    | none =>
      refine routed_of_dropped hlast fun nsei bvci' hmem => ?_
      rw [hreqs, relay2bvci_of_unknown hfollow hlast] at hmem
      cases hmem
    | some nsei =>
      apply routed_of_relayed h hlast
      rw [hreqs]
      exact relay2bvci_of_reset hfollow hlast msg nsBvci
  have hzero : bvci ≠ 0 := by
    rintro rfl
    exact absurd hptp (by decide)
  have hne : nsBvci ≠ bvci := by
    rintro rfl
    rcases hsig with rfl | rfl
    · exact hzero rfl
    · exact absurd hptp (by decide)
  have hack (blocked : Bool)
      (heq : gbproxRxSigFromSgsn t.gb.nsi.nsvcs t.gb.peers nsvc msg nsBvci =
        rxBlockAckFromSgsn t.gb.nsi.nsvcs t.gb.peers nsvc msg nsBvci blocked) : Routed t i nsvc nsBvci msg bvci := by
    refine hby _ (h.blockUnblock bvci blocked) ?_
    rw [hrcv, heq]
    simp only [rxBlockAckFromSgsn, hbvci, if_neg hzero]
  have hunrelayed (hno : ∀ nsei bvci', .sendmsg nsei bvci' msg ∉ (gbproxRcvmsg t.gb i nsvc msg nsBvci).2) :
      Routed t i nsvc nsBvci msg bvci ↔ t.lastReset bvci = none := by
    constructor
    · intro hrouted
      by_contra hlast
      obtain ⟨nsei, hlast⟩ := ne_none_iff_exists'.mp hlast
      have hsent := hrouted.there nsei hlast fun heq => absurd heq hne
      exact hno nsei nsBvci (by rw [hsent]; exact mem_singleton_self _)
    · exact fun hlast => routed_of_dropped hlast hno
  have hpaging (heq : gbproxRxSigFromSgsn t.gb.nsi.nsvcs t.gb.peers nsvc msg nsBvci =
      (t.gb.peers, gbproxRxPaging t.gb.nsi.nsvcs t.gb.peers msg nsBvci)) :
      Routed t i nsvc nsBvci msg bvci ↔ t.lastReset bvci = none := by
    refine hunrelayed fun nsei bvci' hmem => ?_
    rw [hrcv, heq] at hmem
    simp only [gbproxRxPaging, hbvci] at hmem
    cases hmem
  have hstatus (heq : gbproxRxSigFromSgsn t.gb.nsi.nsvcs t.gb.peers nsvc msg nsBvci =
      (t.gb.peers, if msg.ies.cause = none then bssgpTxStatus nsvc .missingMandIe msg else [])) :
      Routed t i nsvc nsBvci msg bvci ↔ t.lastReset bvci = none := by
    refine hunrelayed fun nsei bvci' hmem => ?_
    rw [hrcv, heq] at hmem
    dsimp only at hmem
    split at hmem
    · exact notMem_txStatus hmem
    · cases hmem
  have hother (hrouted : Routed t i nsvc nsBvci msg bvci)
      (hno : msg.pduType ∉ [.pagingPs, .pagingCs, .status]) :
      Routed t i nsvc nsBvci msg bvci ↔
        (msg.pduType ∈ [.pagingPs, .pagingCs, .status] → t.lastReset bvci = none) :=
    iff_of_true hrouted fun hpaged => absurd hpaged hno
  simp only [mem_cons, not_mem_nil, or_false] at htype
  rcases htype with ht | ht | ht | ht | ht | ht | ht | ht
  · refine hother (hby _ h ?_) (by simp [ht])
    simp [hrcv, gbproxRxSigFromSgsn, ht, rxForBvciFromSgsn, hbvci]
  · refine hother ?_ (by simp [ht])
    have hreqs : (gbproxRcvmsg t.gb i nsvc msg nsBvci).2 =
        rxResetFromSgsn t.gb.nsi.nsvcs t.gb.peers nsvc msg nsBvci := by
      simp [hrcv, gbproxRxSigFromSgsn, ht]
    cases hlast : t.lastReset bvci with
    | none =>
      refine routed_of_dropped hlast fun nsei bvci' hmem => ?_
      rw [hreqs] at hmem
      simp only [rxResetFromSgsn, hbvci, if_pos hptp, h.noPeer hlast] at hmem
      exact notMem_txStatus hmem
    | some nsei =>
      apply routed_of_relayed h hlast
      obtain ⟨k, peer, hfound, hnsei, -⟩ := h.peer hlast
      rw [hreqs]
      simp only [rxResetFromSgsn, hbvci, if_pos hptp, hfound, gbproxRelay2peer, hnsei]
  · refine hother (hby _ h ?_) (by simp [ht])
    simp [hrcv, gbproxRxSigFromSgsn, ht, rxForBvciFromSgsn, hbvci]
  · exact hother (hack true (by simp [gbproxRxSigFromSgsn, ht])) (by simp [ht])
  · exact hother (hack false (by simp [gbproxRxSigFromSgsn, ht])) (by simp [ht])
  · rw [hpaging (by simp [gbproxRxSigFromSgsn, ht])]
    exact ⟨fun hlast _ => hlast, fun hlast => hlast (by simp [ht])⟩
  · rw [hpaging (by simp [gbproxRxSigFromSgsn, ht])]
    exact ⟨fun hlast _ => hlast, fun hlast => hlast (by simp [ht])⟩
  · rw [hstatus (by simp [gbproxRxSigFromSgsn, ht])]
    exact ⟨fun hlast _ => hlast, fun hlast => hlast (by simp [ht])⟩

theorem routed_iff (h : PeersFollow t) (hget : t.gb.nsi.nsvcs.get? i = some nsvc)
    (hdown : DownlinkPdu nsvc nsBvci msg bvci) : Routed t i nsvc nsBvci msg bvci ↔ Routable t nsBvci msg bvci := by
  obtain ⟨hremote, hptp, hfor⟩ := hdown
  have hnotSig : ¬ (bvci = 0 ∨ bvci = 1) := by
    rintro (rfl | rfl)
    · exact absurd hptp (by decide)
    · exact absurd hptp (by decide)
  unfold Routable
  rcases hfor with rfl | ⟨hsig, hbvci, htype⟩
  · rw [routed_ptp_iff h hget hremote hnotSig]
    exact ⟨fun hreset => ⟨fun _ => hreset, fun hne => absurd rfl hne⟩, fun hroutable => hroutable.1 rfl⟩
  · have hne : nsBvci ≠ bvci := by
      rintro rfl
      exact hnotSig hsig
    rw [routed_sig_iff h hremote hsig hptp hbvci htype]
    exact ⟨fun hpaging => ⟨fun heq => absurd heq hne, fun _ => hpaging⟩, fun hroutable => hroutable.2 hne⟩

/-- **Downlink routing, exactly.** In every run in which a BVC is reset by one NSEI only, which is not that of the SGSN
    and stays that of its NS-VC, and the SGSN sends over no BVC that was not reset, no two peers have the same BVCI;
    and a downlink PDU for a BVC goes once to the NSEI that reset it last, and to no other, if and only if the BVC of
    a point-to-point PDU was reset and that of paging or a STATUS was not. -/
theorem routed_of_follows {nsipSgsnNsei : BitVec 16} {t : GbTrace μ}
    (h : ReachableBy (gbSystem μ nsipSgsnNsei) StepFollows t) :
    UniqueBvcis t.gb ∧ ∀ i nsvc nsBvci msg bvci, t.gb.nsi.nsvcs.get? i = some nsvc →
      DownlinkPdu nsvc nsBvci msg bvci → (Routed t i nsvc nsBvci msg bvci ↔ Routable t nsBvci msg bvci) := by
  have hfollow := peersFollow_of_reachable h
  refine ⟨hfollow.unique, ?_⟩
  intro i nsvc nsBvci msg bvci hget hdown
  exact routed_iff hfollow hget hdown

/-- A BSS resets its NS-VC and has it unblocked. -/
def appears (bss : BitVec 32) (nsvci nsei : BitVec 16) : List (NsEvent (GbMsg Unit)) :=
  [.rcvmsg .udp { sinAddr := bss } (.reset (some ⟨some 1, some nsvci, some nsei⟩)),
    .rcvmsg .udp { sinAddr := bss } .unblock]

/-- A BSS resets BVC 5. -/
def resetsBvc (bss : BitVec 32) : NsEvent (GbMsg Unit) :=
  .rcvmsg .udp { sinAddr := bss } (.unitdata 0 (.pdu .bvcReset { bvci := some 5 } ()))

/-- A point-to-point PDU for BVC 5. -/
def downlink : GbMsg Unit := .pdu .dlUnitdata {} ()

/-- A BSS registers its BVC while the connection to the SGSN is being set up. -/
def oneRegisters : Option (GbTrace Unit) :=
  guardedRun gbStep StepFollows { gb := { nsipSgsnNsei := 100 } }
    (.connect { sinAddr := 0x7f000001, sinPort := 23000 } 100 101 :: appears 0x0a000001 11 10 ++
      [resetsBvc 0x0a000001])

theorem routed_oneRegisters : ∃ t ∈ oneRegisters, ∃ nsvc ∈ t.gb.nsi.nsvcs.get? 0,
    UniqueBvcis t.gb ∧ Routed t 0 nsvc 5 downlink 5 := by
  obtain ⟨t, ht, nsvc, hget, hremote, hlast⟩ : ∃ t ∈ oneRegisters, ∃ nsvc ∈ t.gb.nsi.nsvcs.get? 0,
      nsvc.remoteEndIsSgsn = true ∧ t.lastReset 5 = some 10 := by decide +kernel
  have hrouted := routed_of_follows (ReachableBy.guardedRun (fun _ _ _ h => h) (.init rfl) ht)
  refine ⟨t, ht, nsvc, hget, hrouted.1, ?_⟩
  refine (hrouted.2 0 nsvc 5 downlink 5 hget ⟨hremote, by decide, .inl rfl⟩).mpr ⟨?_, fun hne => absurd rfl hne⟩
  intro _
  rw [hlast]
  exact some_ne_none _

/-- The SGSN is set up and connected, two BSSs appear, and the second resets the BVC after the first. -/
def otherRegisters : Option (GbTrace Unit) :=
  guardedRun gbStep (fun _ _ => True) { gb := { nsipSgsnNsei := 100 } }
    ([.nseNsvc 100 101, .nseRemoteip 100 0x7f000001, .nseRemoterole 100 true, .reset 0 .omIntervention,
      .rcvmsg .udp { sinAddr := 0x7f000001 } .resetAck, .rcvmsg .udp { sinAddr := 0x7f000001 } .unblockAck] ++
      appears 0x0a000001 11 10 ++ appears 0x0a000002 21 20 ++ [resetsBvc 0x0a000001, resetsBvc 0x0a000002])

/-- The peer of the BVC is still the only one when a second BSS has reset it. -/
theorem uniqueBvcis_otherRegisters : ∃ t ∈ otherRegisters, UniqueBvcis t.gb := by
  obtain ⟨t, ht⟩ := isSome_iff_exists.mp (show otherRegisters.isSome = true by decide +kernel)
  exact ⟨t, ht, uniqueBvcis_of_reachable (ReachableBy.guardedRun (fun _ _ _ h => h) (.init rfl) ht)⟩

theorem not_routed_otherRegisters : ∃ t, Reachable (gbSystem Unit 100) t ∧ ∃ i nsvc nsBvci msg bvci,
    t.gb.nsi.nsvcs.get? i = some nsvc ∧ DownlinkPdu nsvc nsBvci msg bvci ∧ ¬ Routed t i nsvc nsBvci msg bvci := by
  obtain ⟨t, ht, nsvc, hget, hremote, hlast, hreqs⟩ : ∃ t ∈ otherRegisters, ∃ nsvc ∈ t.gb.nsi.nsvcs.get? 0,
      nsvc.remoteEndIsSgsn = true ∧ t.lastReset 5 = some 20 ∧
        (gbproxRcvmsg t.gb 0 nsvc downlink 5).2 = [.sendmsg 10 5 downlink] := by decide +kernel
  refine ⟨t, ReachableBy.guardedRun (fun _ _ _ h => h) (.init rfl) ht, 0, nsvc, 5, downlink, 5, hget,
    ⟨hremote, by decide, .inl rfl⟩, fun hrouted => ?_⟩
  -- the PDU goes to the first BSS
  have hfirst := (hrouted.nowhereElse 10 5 (by rw [hreqs]; exact mem_singleton.mpr rfl)).1
  rw [hlast] at hfirst
  exact absurd hfirst (by decide)

end OpenBsc.GbProxy
