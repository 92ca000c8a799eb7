import OpenBsc.GbProxy.Proxy
import OpenBsc.Ns.NsvcTable

/-!
# `GbProxy.Runs` — runs of the proxy, and who reset a BVC last

An event of the NS layer is handled there first; what comes out is indicated to the proxy piece by piece, which may
ask for more to be sent. `GbTrace` keeps besides the proxy which NS entity reset a BVC last.

What the proxy asks of the NS layer changes the NSEI of an NS-VC in one case only, when it connects to the SGSN again
(`nseiOf_perform`); an event of the NS layer does it by a complete reset (`nseiOf_nsStep`).
-/

namespace OpenBsc.GbProxy

open Ns Transition List

variable {μ : Type}

/-! ## Runs -/

/-- The proxy, and the NSEI that reset a point-to-point BVC last. -/
structure GbTrace (μ : Type) where
  gb : Gbprox μ
  lastReset : BitVec 16 → Option (BitVec 16) := fun _ => none

/-- The BVC that a BSS resets with a message, and its NSEI. -/
def bvcReset (gb : Gbprox μ) (out : NsOut (GbMsg μ)) : Option (BitVec 16 × BitVec 16) :=
  match out with
  | .unitdata i nsBvci msg =>
    match gb.nsi.nsvcs.get? i, msg.ies.bvci with
    | some nsvc, some bvci =>
      if (nsBvci = 0 ∨ nsBvci = 1) ∧ nsvc.remoteEndIsSgsn = false ∧ msg.pduType = .bvcReset ∧ bvci ≠ 0 then
        some (bvci, nsvc.nsei)
      else none
    | _, _ => none
  | _ => none

variable {gb : Gbprox μ} {i : Nat} {nsBvci : BitVec 16} {msg : GbMsg μ}

theorem bvcReset_of_other (h : msg.pduType ≠ .bvcReset) : bvcReset gb (.unitdata i nsBvci msg) = none := by
  simp only [bvcReset]
  split
  · exact if_neg fun hreset => h hreset.2.2.1
  · rfl

variable {nsvc : GprsNsvc}

theorem bvcReset_of_reset {bvci : BitVec 16} (hget : gb.nsi.nsvcs.get? i = some nsvc)
    (hsig : nsBvci = 0 ∨ nsBvci = 1) (hremote : nsvc.remoteEndIsSgsn = false) (htype : msg.pduType = .bvcReset)
    (hbvci : msg.ies.bvci = some bvci) :
    bvcReset gb (.unitdata i nsBvci msg) = if bvci = 0 then none else some (bvci, nsvc.nsei) := by
  simp only [bvcReset, hget, hbvci]
  by_cases hzero : bvci = 0
  · rw [if_pos hzero]
    exact if_neg fun hreset => hreset.2.2.2 hzero
  · rw [if_neg hzero]
    exact if_pos ⟨hsig, hremote, htype, hzero⟩

theorem bvcReset_of_ptp (h : ¬ (nsBvci = 0 ∨ nsBvci = 1)) : bvcReset gb (.unitdata i nsBvci msg) = none := by
  simp only [bvcReset]
  split
  · exact if_neg fun hreset => h hreset.1
  · rfl

theorem bvcReset_of_sgsn (hget : gb.nsi.nsvcs.get? i = some nsvc) (hremote : nsvc.remoteEndIsSgsn = true) :
    bvcReset gb (.unitdata i nsBvci msg) = none := by
  simp only [bvcReset, hget]
  split
  · rename_i hsome _
    cases hsome
    simp [hremote]
  · rfl

namespace GbTrace

def indicate (t : GbTrace μ) (out : NsOut (GbMsg μ)) : GbTrace μ where
  gb := t.gb.indicate out
  lastReset :=
    match bvcReset t.gb out with
    | none => t.lastReset
    | some (bvci, nsei) => Function.update t.lastReset bvci (some nsei)

end GbTrace

/-- What comes out of the NS layer in a step. -/
def newOuts (nsi nsi' : GprsNsInst (GbMsg μ)) : List (NsOut (GbMsg μ)) := nsi'.outbox.drop nsi.outbox.length

/-- The proxy after an event of the NS layer. -/
def gbStep (t : GbTrace μ) (ev : NsEvent (GbMsg μ)) : Option (GbTrace μ) :=
  (nsStep t.gb.nsi ev).map fun nsi =>
    (newOuts t.gb.nsi nsi).foldl GbTrace.indicate { t with gb := { t.gb with nsi := nsi } }

/-- A proxy for an SGSN with any events in any order. The persistent NS-VCs are reset after the start by events of
    their own. -/
def gbSystem (μ : Type) (nsipSgsnNsei : BitVec 16) : System (GbTrace μ) (NsEvent (GbMsg μ)) where
  init t := t = { gb := { nsipSgsnNsei := nsipSgsnNsei } }
  step t ev t' := gbStep t ev = some t'

/-! ## Peers -/

/-- What a PDU does to the peers. -/
inductive PeerChange (gb : Gbprox μ) (i : Nat) (nsvc : GprsNsvc) (msg : GbMsg μ) (nsBvci : BitVec 16) :
    Pool GbproxPeer → Prop where
  | keep (hreset : bvcReset gb (.unitdata i nsBvci msg) = none) : PeerChange gb i nsvc msg nsBvci gb.peers
  | change (hreset : bvcReset gb (.unitdata i nsBvci msg) = none) (k : Nat) {f : GbproxPeer → GbproxPeer}
      (hf : ∀ peer, (f peer).nsvc = peer.nsvc ∧ (f peer).bvci = peer.bvci) :
      PeerChange gb i nsvc msg nsBvci (gb.peers.modify k f)
  | learn {bvci : BitVec 16} (hreset : bvcReset gb (.unitdata i nsBvci msg) = some (bvci, nsvc.nsei))
      (cellId : Option RawRa) : PeerChange gb i nsvc msg nsBvci (learnPeer gb.peers i bvci cellId)
  | sgsn (hreset : bvcReset gb (.unitdata i nsBvci msg) = none) (hremote : nsvc.remoteEndIsSgsn = true)
      (hptp : ¬ (nsBvci = 0 ∨ nsBvci = 1)) (hnew : peerByBvci gb.peers nsBvci = none) :
      PeerChange gb i nsvc msg nsBvci (gb.peers.alloc { nsvc := i, bvci := nsBvci })

theorem peerChange_blockUnblock (hreset : bvcReset gb (.unitdata i nsBvci msg) = none) (bvci : BitVec 16)
    (blocked : Bool) : PeerChange gb i nsvc msg nsBvci (blockUnblockPeer gb.peers bvci blocked) := by
  unfold blockUnblockPeer
  split
  · exact .keep hreset
  · apply PeerChange.change hreset
    exact fun peer => ⟨rfl, rfl⟩

theorem peerChange_sigFromSgsn (hreset : bvcReset gb (.unitdata i nsBvci msg) = none) :
    PeerChange gb i nsvc msg nsBvci (gbproxRxSigFromSgsn gb.nsi.nsvcs gb.peers nsvc msg nsBvci).1 := by
  have hack (blocked : Bool) : PeerChange gb i nsvc msg nsBvci
      (rxBlockAckFromSgsn gb.nsi.nsvcs gb.peers nsvc msg nsBvci blocked).1 := by
    unfold rxBlockAckFromSgsn
    split
    · exact .keep hreset
    · dsimp only
      split
      · exact .keep hreset
      · exact peerChange_blockUnblock hreset _ _
  unfold gbproxRxSigFromSgsn
  cases msg.pduType with
  | bvcBlockAck => exact hack true
  | bvcUnblockAck => exact hack false
  | _ => exact .keep hreset

/-- The signalling of a BSS makes peers by resets, and tells the routeing area of a peer. -/
theorem peerChange_sigFromBss (hget : gb.nsi.nsvcs.get? i = some nsvc) (hsig : nsBvci = 0 ∨ nsBvci = 1)
    (hremote : nsvc.remoteEndIsSgsn = false) :
    PeerChange gb i nsvc msg nsBvci (gbproxRxSigFromBss gb.peers gb.nsipSgsnNsei i nsvc msg nsBvci).1 := by
  have hsnoop (hreset : bvcReset gb (.unitdata i nsBvci msg) = none) : PeerChange gb i nsvc msg nsBvci
      (snoopRa gb.peers gb.nsipSgsnNsei i nsvc msg nsBvci).1 := by
    unfold snoopRa
    split
    · exact .keep hreset
    · split
      · exact .keep hreset
      · dsimp only
        apply PeerChange.change hreset
        exact fun peer => ⟨rfl, rfl⟩
  unfold gbproxRxSigFromBss
  by_cases htype : msg.pduType = .bvcReset
  · simp only [htype]
    cases hbvci : msg.ies.bvci with
    | none => exact .keep (by simp [bvcReset, hbvci])
    | some bvci =>
      have hreset := bvcReset_of_reset hget hsig hremote htype hbvci
      by_cases hzero : bvci = 0
      · rw [if_pos hzero] at hreset
        simp only [if_pos hzero]
        exact .keep hreset
      · rw [if_neg hzero] at hreset
        simp only [if_neg hzero]
        exact .learn hreset _
  · have hreset := @bvcReset_of_other μ gb i nsBvci msg htype
    cases hpdu : msg.pduType with
    | bvcReset => exact absurd hpdu htype
    | suspend | resume => exact hsnoop hreset
    | _ => exact .keep hreset

/-- **What a PDU does to the peers.** -/
theorem peerChange_rcvmsg (hget : gb.nsi.nsvcs.get? i = some nsvc) (msg : GbMsg μ) (nsBvci : BitVec 16) :
    PeerChange gb i nsvc msg nsBvci (gbproxRcvmsg gb i nsvc msg nsBvci).1 := by
  unfold gbproxRcvmsg
  by_cases hsig : nsBvci = 0 ∨ nsBvci = 1
  · rw [if_pos hsig]
    cases hremote : nsvc.remoteEndIsSgsn with
    | true => exact peerChange_sigFromSgsn (bvcReset_of_sgsn hget hremote)
    | false => exact peerChange_sigFromBss hget hsig hremote
  · have hreset := @bvcReset_of_ptp μ gb i nsBvci msg hsig
    rw [if_neg hsig]
    cases hremote : nsvc.remoteEndIsSgsn with
    | false => exact .keep hreset
    | true =>
      unfold rxPtpFromSgsn
      cases hfound : peerByBvci gb.peers nsBvci with
      | none => exact .sgsn hreset hremote hsig hfound
      | some found => exact .keep hreset

/-! ## NSEIs -/

/-- The NS-VCs of the peers keep their NSEIs. -/
def KeepsNseis (peers : Pool GbproxPeer) (nsvcs nsvcs' : Pool GprsNsvc) : Prop :=
  ∀ k peer, peers.get? k = some peer → nseiOf nsvcs peer.nsvc ≠ none → nseiOf nsvcs' peer.nsvc = nseiOf nsvcs peer.nsvc

theorem KeepsNseis.refl (peers : Pool GbproxPeer) (nsvcs : Pool GprsNsvc) : KeepsNseis peers nsvcs nsvcs :=
  fun _ _ _ _ => rfl

variable {peers : Pool GbproxPeer}

theorem KeepsNseis.trans {n₁ n₂ n₃ : Pool GprsNsvc} (h₁ : KeepsNseis peers n₁ n₂) (h₂ : KeepsNseis peers n₂ n₃) :
    KeepsNseis peers n₁ n₃ := by
  intro k peer hpeer hlive
  have hsame := h₁ k peer hpeer hlive
  rw [← hsame]
  exact h₂ k peer hpeer (by rwa [hsame])

/-- An NS-VC is used by a peer. -/
def Used (peers : Pool GbproxPeer) (i : Nat) : Prop := ∃ e ∈ peers.entries, e.2.nsvc = i

instance (peers : Pool GbproxPeer) (i : Nat) : Decidable (Used peers i) :=
  inferInstanceAs (Decidable (∃ e ∈ peers.entries, e.2.nsvc = i))

theorem used_of_get? {k : Nat} {peer : GbproxPeer} (h : peers.get? k = some peer) : Used peers peer.nsvc :=
  ⟨(k, peer), Pool.get?_eq_some.mp h, rfl⟩

/-- A change of one NS-VC keeps the NSEIs when that one is not used, or keeps its own. -/
theorem keepsNseis_modify {nsvcs : Pool GprsNsvc} {f : GprsNsvc → GprsNsvc}
    (h : ∀ nsvc, nsvcs.get? i = some nsvc → Used peers i → (f nsvc).nsei = nsvc.nsei) :
    KeepsNseis peers nsvcs (nsvcs.modify i f) := by
  intro k peer hpeer _
  unfold nseiOf
  rw [Pool.get?_modify]
  by_cases hi : peer.nsvc = i
  · subst hi
    rw [if_pos rfl]
    cases hget : nsvcs.get? peer.nsvc with
    | none => rfl
    | some nsvc => exact congrArg some (h nsvc hget (used_of_get? hpeer))
  · rw [if_neg hi]

/-- A new NS-VC is used by no peer yet. -/
theorem keepsNseis_alloc {nsvcs : Pool GprsNsvc} (nsvc : GprsNsvc) : KeepsNseis peers nsvcs (nsvcs.alloc nsvc) := by
  intro k peer _ hlive
  unfold nseiOf at hlive ⊢
  cases hget : nsvcs.get? peer.nsvc with
  | none => exact absurd (by rw [hget]; rfl) hlive
  | some old => rw [Pool.get?_alloc, if_neg (Nat.ne_of_lt (Pool.get?_lt hget)), hget]

/-- The NSEI that an action sets. -/
def setsNsei : NsvcAct (GbMsg μ) → Option (BitVec 16)
  | .rx _ (.reset (some ⟨some _, some _, some nsei⟩)) => some nsei
  | .connect _ nsei _ => some nsei
  | _ => none

theorem nsei_run {act : NsvcAct (GbMsg μ)} (h : ∀ nsei ∈ setsNsei act, nsei = nsvc.nsei) :
    (act.run i nsvc).1.nsei = nsvc.nsei := by
  cases act with
  | rx moved pdu =>
    rcases numbers_nsRx i { nsvc with btsAddr := moved.getD nsvc.btsAddr } pdu with
      ⟨hnsei, -⟩ | ⟨cause, nsvci, nsei, rfl, hnsei, -⟩
    · exact hnsei
    · exact hnsei.trans (h nsei rfl)
  | connect dest nsei nsvci => exact h nsei rfl
  | timer retries =>
    simp only [NsvcAct.run]
    split
    · exact (@numbers_timer (GbMsg μ) retries i nsvc).1
    · rfl
  | remoteport ll port =>
    simp only [NsvcAct.run]
    split <;> rfl
  | _ => rfl

/-- The NS-VC that an operation numbers, and its NSEI then. -/
def numbers : NsOp (GbMsg μ) → Option (Nat × BitVec 16)
  | .on i act => (setsNsei act).map fun nsei => (i, nsei)
  | _ => none

/-- An event of the NS layer sets the NSEI of an NS-VC that a peer uses to what it is. -/
def SetsNoNsei (gb : Gbprox μ) (ev : NsEvent (GbMsg μ)) : Prop :=
  ∀ set ∈ numbers (gb.nsi.nsOp ev), Used gb.peers set.1 → nseiOf gb.nsi.nsvcs set.1 = some set.2

instance (gb : Gbprox μ) (ev : NsEvent (GbMsg μ)) : Decidable (SetsNoNsei gb ev) :=
  inferInstanceAs (Decidable (∀ set ∈ numbers (gb.nsi.nsOp ev), _))

theorem nseiOf_nsStep {ev : NsEvent (GbMsg μ)} {nsi' : GprsNsInst (GbMsg μ)} (h : SetsNoNsei gb ev)
    (hstep : nsStep gb.nsi ev = some nsi') : KeepsNseis gb.peers gb.nsi.nsvcs nsi'.nsvcs := by
  rw [(nsStep_does hstep).1]
  unfold SetsNoNsei at h
  cases hop : gb.nsi.nsOp ev with
  | idle outs => exact KeepsNseis.refl _ _
  | new base act => exact keepsNseis_alloc _
  | on i act =>
    rw [hop] at h
    apply keepsNseis_modify
    intro nsvc hget hused
    apply nsei_run
    intro nsei hsets
    have hnow := h (i, nsei) (Option.map_eq_some_iff.mpr ⟨nsei, hsets, rfl⟩) hused
    rw [nseiOf, hget] at hnow
    exact (Option.some.inj hnow).symm

theorem keepsNseis_handle {nsi : GprsNsInst (GbMsg μ)} {f : GprsNsvc → GprsNsvc × List (NsOut (GbMsg μ))}
    (h : ∀ nsvc, nsi.nsvcs.get? i = some nsvc → Used peers i → (f nsvc).1.nsei = nsvc.nsei) :
    KeepsNseis peers nsi.nsvcs (nsi.handle i f).nsvcs := by
  cases hget : nsi.nsvcs.get? i with
  | none =>
    rw [handle_of_none hget]
    exact KeepsNseis.refl _ _
  | some nsvc =>
    rw [handle_of_some hget]
    apply keepsNseis_modify
    intro old hold hused
    cases hget.symm.trans hold
    exact h nsvc hget hused

theorem nsvcs_sendmsg (nsi : GprsNsInst (GbMsg μ)) (nsei bvci : BitVec 16) (msg : GbMsg μ) :
    (nsi.gprsNsSendmsg nsei bvci msg).nsvcs = nsi.nsvcs := by
  unfold GprsNsInst.gprsNsSendmsg
  split
  · rfl
  · split
    · rfl
    · split <;> rfl

/-- A connection sets no NSEI of a peer: the NS-VC with the address is not used, or has the NSEI already. -/
def ConnectsApart (peers : Pool GbproxPeer) (nsi : GprsNsInst (GbMsg μ)) (dest : SockaddrIn) (nsei : BitVec 16) :
    Prop :=
  ∀ found ∈ nsi.nsvcByRemAddr dest, Used peers found.1 → found.2.nsei = nsei

instance (peers : Pool GbproxPeer) (nsi : GprsNsInst (GbMsg μ)) (dest : SockaddrIn) (nsei : BitVec 16) :
    Decidable (ConnectsApart peers nsi dest nsei) :=
  inferInstanceAs (Decidable (∀ found ∈ nsi.nsvcByRemAddr dest, Used peers found.1 → found.2.nsei = nsei))

variable {req : NsReq μ}

theorem keepsNseis_perform {nsi : GprsNsInst (GbMsg μ)}
    (h : ∀ dest nsei nsvci, req = .connect dest nsei nsvci → ConnectsApart peers nsi dest nsei) :
    KeepsNseis peers nsi.nsvcs (req.perform nsi).nsvcs := by
  cases req with
  | sendmsg nsei bvci msg =>
    show KeepsNseis peers nsi.nsvcs (nsi.gprsNsSendmsg nsei bvci msg).nsvcs
    rw [nsvcs_sendmsg]
    exact KeepsNseis.refl _ _
  | connect dest nsei nsvci =>
    have hop := (does_connect nsi dest nsei nsvci).1
    show KeepsNseis peers nsi.nsvcs (nsi.nsipConnect dest nsei nsvci).nsvcs
    rw [hop]
    simp only [GprsNsInst.nsOp]
    cases hfound : nsi.nsvcByRemAddr dest with
    | none => exact keepsNseis_alloc _
    | some found =>
      obtain ⟨j, old⟩ := found
      apply keepsNseis_modify
      intro nsvc hget hused
      cases (Pool.of_findLast? hfound).1.symm.trans hget
      exact (h dest nsei nsvci rfl (j, old) hfound hused).symm
  | _ => exact keepsNseis_handle fun nsvc _ _ => rfl

theorem keepsNseis_performAll {reqs : List (NsReq μ)}
    (h : ∀ req ∈ reqs, ∀ dest nsei nsvci, req ≠ .connect dest nsei nsvci) (nsi : GprsNsInst (GbMsg μ)) :
    KeepsNseis peers nsi.nsvcs (reqs.foldl NsReq.perform nsi).nsvcs := by
  induction reqs generalizing nsi with
  | nil => exact KeepsNseis.refl _ _
  | cons req reqs ih =>
    have hfirst : KeepsNseis peers nsi.nsvcs (req.perform nsi).nsvcs :=
      keepsNseis_perform fun dest nsei nsvci heq =>
        absurd heq (h req mem_cons_self dest nsei nsvci)
    exact hfirst.trans (ih (fun req hmem => h req (mem_cons_of_mem _ hmem)) _)

/-- A signal makes the proxy connect to the SGSN again when its NS-VC is gone. -/
def SignalApart (gb : Gbprox μ) (i : Nat) (signal : NsSignal) : Prop :=
  ∀ nsvc ∈ gb.nsi.nsvcs.get? i, signal = .aliveExp → nsvc.remoteEndIsSgsn = true →
    ConnectsApart gb.peers gb.nsi nsvc.btsAddr nsvc.nsei

/-- What is asked for is data to be sent. -/
def OnlySends (reqs : List (NsReq μ)) : Prop := ∀ req ∈ reqs, ∃ nsei bvci msg, req = .sendmsg nsei bvci msg

theorem onlySends_nil : OnlySends ([] : List (NsReq μ)) := fun _ h => nomatch h

theorem onlySends_one (nsei bvci : BitVec 16) (msg : GbMsg μ) : OnlySends [.sendmsg nsei bvci msg] := by
  intro req h
  exact ⟨nsei, bvci, msg, mem_singleton.mp h⟩

variable (nsvcs : Pool GprsNsvc)

theorem onlySends_relay2peer (msg : GbMsg μ) (peer : GbproxPeer) (nsBvci : BitVec 16) :
    OnlySends (gbproxRelay2peer nsvcs msg peer nsBvci) := by
  unfold gbproxRelay2peer
  split
  · exact onlySends_nil
  · exact onlySends_one _ _ _

section

variable (peers : Pool GbproxPeer)

theorem onlySends_relay2bvci (msg : GbMsg μ)
    (bvci nsBvci : BitVec 16) : OnlySends (gbproxRelay2bvci nsvcs peers msg bvci nsBvci) := by
  unfold gbproxRelay2bvci
  split
  · exact onlySends_nil
  · exact onlySends_relay2peer _ _ _ _

theorem onlySends_paging (msg : GbMsg μ) (nsBvci : BitVec 16) :
    OnlySends (gbproxRxPaging nsvcs peers msg nsBvci) := by
  unfold gbproxRxPaging
  dsimp only
  split
  · exact onlySends_nil
  · exact onlySends_relay2peer _ _ _ _

section

variable (nsvc : GprsNsvc) (msg : GbMsg μ) (nsBvci : BitVec 16)

theorem onlySends_reset : OnlySends (rxResetFromSgsn nsvcs peers nsvc msg nsBvci) := by
  unfold rxResetFromSgsn
  split
  · exact onlySends_one _ _ _
  · split
    · split
      · exact onlySends_one _ _ _
      · exact onlySends_relay2peer _ _ _ _
    · intro req h
      obtain ⟨e, -, he⟩ := mem_flatMap.mp h
      exact onlySends_relay2peer _ _ _ _ req he

theorem onlySends_blockAck (blocked : Bool) :
    OnlySends (rxBlockAckFromSgsn nsvcs peers nsvc msg nsBvci blocked).2 := by
  unfold rxBlockAckFromSgsn
  split
  · exact onlySends_one _ _ _
  · exact onlySends_relay2bvci _ _ _ _ _

theorem onlySends_forBvci : OnlySends (rxForBvciFromSgsn nsvcs peers nsvc msg nsBvci) := by
  unfold rxForBvciFromSgsn
  split
  · exact onlySends_one _ _ _
  · exact onlySends_relay2bvci _ _ _ _ _

theorem onlySends_forRa : OnlySends (rxForRaFromSgsn nsvcs peers nsvc msg nsBvci) := by
  unfold rxForRaFromSgsn
  split
  · exact onlySends_one _ _ _
  · split
    · exact onlySends_one _ _ _
    · exact onlySends_relay2peer _ _ _ _

theorem onlySends_sigFromSgsn : OnlySends (gbproxRxSigFromSgsn nsvcs peers nsvc msg nsBvci).2 := by
  unfold gbproxRxSigFromSgsn
  cases msg.pduType with
  | bvcReset => exact onlySends_reset _ _ _ _ _
  | flushLl | bvcResetAck => exact onlySends_forBvci _ _ _ _ _
  | pagingPs | pagingCs => exact onlySends_paging _ _ _ _
  | bvcBlockAck | bvcUnblockAck => exact onlySends_blockAck _ _ _ _ _ _
  | suspendAck | suspendNack | resumeAck | resumeNack => exact onlySends_forRa _ _ _ _ _
  | status =>
    dsimp only
    split
    · exact onlySends_one _ _ _
    · exact onlySends_nil
  | _ => exact onlySends_one _ _ _

end

theorem onlySends_sigFromBss (sgsnNsei : BitVec 16) (i : Nat) (nsvc : GprsNsvc)
    (msg : GbMsg μ) (nsBvci : BitVec 16) : OnlySends (gbproxRxSigFromBss peers sgsnNsei i nsvc msg nsBvci).2 := by
  have hsnoop : OnlySends (snoopRa peers sgsnNsei i nsvc msg nsBvci).2 := by
    unfold snoopRa
    split
    · exact onlySends_one _ _ _
    · split
      · exact onlySends_one _ _ _
      · exact onlySends_one _ _ _
  unfold gbproxRxSigFromBss
  cases msg.pduType with
  | ulUnitdata | dlUnitdata => exact onlySends_nil
  | suspend | resume => exact hsnoop
  | bvcReset =>
    dsimp only
    split
    · exact onlySends_one _ _ _
    · split
      · exact onlySends_one _ _ _
      · exact onlySends_one _ _ _
  | _ => exact onlySends_one _ _ _

end

theorem onlySends_rcvmsg (gb : Gbprox μ) (i : Nat) (nsvc : GprsNsvc) (msg : GbMsg μ) (nsBvci : BitVec 16) :
    OnlySends (gbproxRcvmsg gb i nsvc msg nsBvci).2 := by
  unfold gbproxRcvmsg
  split
  · split
    · exact onlySends_sigFromSgsn _ _ _ _ _
    · exact onlySends_sigFromBss _ _ _ _ _ _
  · split
    · exact onlySends_one _ _ _
    · unfold rxPtpFromSgsn
      split
      · exact onlySends_relay2peer _ _ _ _
      · dsimp only
        split
        · exact onlySends_one _ _ _
        · exact onlySends_relay2peer _ _ _ _

theorem keepsNseis_rcvmsg (gb : Gbprox μ) (i : Nat) (nsvc : GprsNsvc) (msg : GbMsg μ) (nsBvci : BitVec 16)
    (peers : Pool GbproxPeer) :
    KeepsNseis peers gb.nsi.nsvcs
      ((gbproxRcvmsg gb i nsvc msg nsBvci).2.foldl NsReq.perform gb.nsi).nsvcs := by
  apply keepsNseis_performAll
  rintro req hreq dest nsei nsvci rfl
  obtain ⟨_, _, _, hsend⟩ := onlySends_rcvmsg gb i nsvc msg nsBvci _ hreq
  cases hsend

variable {signal : NsSignal}

theorem ne_connect_of_signalFromBss (h : req ∈ signalFromBss peers i nsvc signal) (dest : SockaddrIn)
    (nsei nsvci : BitVec 16) : req ≠ .connect dest nsei nsvci := by
  rintro rfl
  unfold signalFromBss at h
  split at h
  · cases h
  · split at h
    all_goals first
      | cases h
      | split at h <;> simp at h

theorem ne_connect_of_signalFromSgsn {cause : NsCause} (h : req ∈ signalFromSgsn peers signal cause)
    (dest : SockaddrIn) (nsei nsvci : BitVec 16) : req ≠ .connect dest nsei nsvci := by
  rintro rfl
  obtain ⟨e, -, he⟩ := mem_flatMap.mp h
  cases signal <;> simp at he

theorem ne_connect_of_signal {cause : NsCause} (hsignal : signal ≠ .aliveExp)
    (h : req ∈ gbproxSignal gb i nsvc signal cause) (dest : SockaddrIn) (nsei nsvci : BitVec 16) :
    req ≠ .connect dest nsei nsvci := by
  simp only [gbproxSignal, hsignal, false_and, if_false, append_nil, mem_append] at h
  rcases h with h | h
  · split at h
    · rintro rfl
      simp at h
    · cases h
  · split at h
    · exact ne_connect_of_signalFromBss h dest nsei nsvci
    · exact ne_connect_of_signalFromSgsn h dest nsei nsvci

instance (gb : Gbprox μ) (i : Nat) (signal : NsSignal) : Decidable (SignalApart gb i signal) :=
  inferInstanceAs (Decidable (∀ nsvc ∈ gb.nsi.nsvcs.get? i, _))

theorem keepsNseis_signal (hget : gb.nsi.nsvcs.get? i = some nsvc) (h : SignalApart gb i signal) (cause : NsCause) :
    KeepsNseis gb.peers gb.nsi.nsvcs ((gbproxSignal gb i nsvc signal cause).foldl NsReq.perform gb.nsi).nsvcs := by
  by_cases hsignal : signal = .aliveExp
  · subst hsignal
    cases hremote : nsvc.remoteEndIsSgsn with
    | true =>
      have hreqs : gbproxSignal gb i nsvc .aliveExp cause = [.connect nsvc.btsAddr nsvc.nsei nsvc.nsvci] := by
        simp [gbproxSignal, hremote, signalFromSgsn]
      rw [hreqs, foldl_cons, foldl_nil]
      apply keepsNseis_perform
      intro dest nsei nsvci heq
      cases heq
      exact h nsvc hget rfl hremote
    | false =>
      have hreqs : gbproxSignal gb i nsvc .aliveExp cause = [] := by
        simp only [gbproxSignal, hremote, signalFromBss]
        cases peerByNsvc gb.peers i <;> simp
      rw [hreqs]
      exact KeepsNseis.refl _ _
  · exact keepsNseis_performAll (fun req hreq => ne_connect_of_signal hsignal hreq) gb.nsi

end OpenBsc.GbProxy
