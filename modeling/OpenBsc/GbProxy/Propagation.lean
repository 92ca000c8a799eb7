import OpenBsc.GbProxy.Proxy

/-!
# `GbProxy.Propagation` — what the SGSN hears of an NS-VC that fails

When the NS-VC of a BSS is blocked or reset, the BVCs behind it are out of service, and the SGSN should hear of each
of them. `gbprox_signal` takes the first peer of the NS-VC only, goes on when that is blocked already, and sends to the
NSEI the signal came from: it does what it should for an NS-VC without peers, and for no other.
-/

namespace OpenBsc.GbProxy

open Ns List

variable {μ : Type}

/-- An NS-VC to a BSS: the other end is not the SGSN, and it does not have the NSEI of the SGSN. -/
def BssSide (gb : Gbprox μ) (nsvc : GprsNsvc) : Prop :=
  nsvc.remoteEndIsSgsn = false ∧ nsvc.nsei ≠ gb.nsipSgsnNsei

/-- One BVC-BLOCK to the SGSN for each peer that uses the NS-VC and is not blocked. -/
def bvcBlocks (gb : Gbprox μ) (i : Nat) : List (NsReq μ) :=
  (gb.peers.entries.filter fun e => e.2.nsvc == i && !e.2.blocked).map fun e =>
    .sendmsg gb.nsipSgsnNsei 0 (.simple .bvcBlock e.2.bvci)

/-- The SGSN is told of every BVC that is out of service now, once, and nobody else is told anything. -/
def PropagatesFailure (gb : Gbprox μ) (i : Nat) (nsvc : GprsNsvc) (signal : NsSignal) (cause : NsCause) : Prop :=
  (gbproxSignal gb i nsvc signal cause).Perm (bvcBlocks gb i)

variable {signal : NsSignal}

theorem gbproxSignal_of_bssSide {gb : Gbprox μ} {nsvc : GprsNsvc} (hside : BssSide gb nsvc) (i : Nat)
    (hsignal : signal = .reset ∨ signal = .block) (cause : NsCause) :
    gbproxSignal gb i nsvc signal cause = signalFromBss gb.peers i nsvc signal := by
  obtain ⟨hremote, hnsei⟩ := hside
  rcases hsignal with rfl | rfl
  · simp [gbproxSignal, hremote, hnsei]
  · simp [gbproxSignal, hremote]

theorem nsei_of_mem_signalFromBss {peers : Pool GbproxPeer} {i : Nat} {nsvc : GprsNsvc} {req : NsReq μ}
    (h : req ∈ signalFromBss peers i nsvc signal) : ∃ msg, req = .sendmsg nsvc.nsei 0 msg := by
  unfold signalFromBss at h
  split at h
  · cases h
  · split at h
    all_goals first
      | cases h
      | split at h
        · cases h
        · exact ⟨_, mem_singleton.mp h⟩

theorem nsei_of_mem_bvcBlocks {gb : Gbprox μ} {i : Nat} {req : NsReq μ} (h : req ∈ bvcBlocks gb i) :
    ∃ msg, req = .sendmsg gb.nsipSgsnNsei 0 msg := by
  obtain ⟨e, -, rfl⟩ := mem_map.mp h
  exact ⟨_, rfl⟩

theorem bvcBlocks_ne_nil {gb : Gbprox μ} {i k : Nat} {peer : GbproxPeer} (hpeer : gb.peers.get? k = some peer)
    (huses : peer.nsvc = i) (hfree : peer.blocked = false) : bvcBlocks gb i ≠ [] := by
  intro hnil
  have hnone := filter_eq_nil_iff.mp (map_eq_nil_iff.mp hnil) _ (Pool.get?_eq_some.mp hpeer)
  simp [huses, hfree] at hnone

/-- The first peer of the NS-VC is blocked, or nothing is sent. -/
theorem signalFromBss_eq_nil {peers : Pool GbproxPeer} {i k : Nat} {peer : GbproxPeer} {nsvc : GprsNsvc}
    (hsignal : signal = .reset ∨ signal = .block) (hfound : peerByNsvc peers i = some (k, peer))
    (hnil : @signalFromBss μ peers i nsvc signal = []) : peer.blocked = false := by
  rcases hsignal with rfl | rfl
  · simpa [signalFromBss, hfound] using hnil
  · simpa [signalFromBss, hfound] using hnil

/-- **Propagation, exactly.** When the NS-VC of a BSS is blocked or reset, the SGSN is told what it should be told if
    and only if no peer uses the NS-VC. -/
theorem propagatesFailure_iff {gb : Gbprox μ} {nsvc : GprsNsvc} (hside : BssSide gb nsvc) (i : Nat)
    {signal : NsSignal} (hsignal : signal = .reset ∨ signal = .block) (cause : NsCause) :
    PropagatesFailure gb i nsvc signal cause ↔ ∀ k peer, gb.peers.get? k = some peer → peer.nsvc ≠ i := by
  unfold PropagatesFailure
  rw [gbproxSignal_of_bssSide hside i hsignal cause]
  constructor
  · intro hperm k peer hpeer huses
    -- nothing is sent at all: what is sent goes to the wrong NSEI
    have hnone : @signalFromBss μ gb.peers i nsvc signal = [] := by
      refine eq_nil_iff_forall_not_mem.mpr fun req hreq => ?_
      obtain ⟨msg, rfl⟩ := nsei_of_mem_signalFromBss hreq
      obtain ⟨msg', hother⟩ := nsei_of_mem_bvcBlocks (hperm.mem_iff.mp hreq)
      exact hside.2 (NsReq.sendmsg.inj hother).1
    rw [hnone] at hperm
    -- so the first peer is not blocked, and its block was due
    cases hfound : peerByNsvc gb.peers i with
    | none =>
      have hother : (peer.nsvc == i) = false := Pool.findLast?_eq_none.mp hfound k peer hpeer
      simp [huses] at hother
    | some found =>
      obtain ⟨k', first⟩ := found
      obtain ⟨hfirst, huses'⟩ := Pool.of_findLast? hfound
      have hfree := signalFromBss_eq_nil hsignal hfound hnone
      exact bvcBlocks_ne_nil hfirst (by simpa using huses') hfree hperm.symm.eq_nil
  · intro hunused
    have hfound : peerByNsvc gb.peers i = none := by
      refine Pool.findLast?_eq_none.mpr fun k peer hpeer => ?_
      simpa using hunused k peer hpeer
    have hblocks : bvcBlocks gb i = [] := by
      refine map_eq_nil_iff.mpr (filter_eq_nil_iff.mpr fun e he => ?_)
      have huses := hunused e.1 e.2 (Pool.get?_eq_some.mpr he)
      simp [huses]
    have hsent : @signalFromBss μ gb.peers i nsvc signal = [] := by simp [signalFromBss, hfound]
    rw [hblocks, hsent]

/-- The NS-VC of a BSS with one cell, and the proxy with and without its peer. -/
def bssNsvc : GprsNsvc := { nsei := 10, nsvci := 11, state := { blocked := true, alive := true } }

def oneCell (peers : List GbproxPeer) : Gbprox Unit :=
  { nsi := { nsvcs := Pool.empty.alloc bssNsvc, unknownNsvc := GprsNsInst.newNsvc 0xfffe }
    peers := peers.foldl Pool.alloc .empty
    nsipSgsnNsei := 100 }

theorem propagatesFailure_unused :
    BssSide (oneCell [{ nsvc := 1, bvci := 2 }]) bssNsvc ∧
      PropagatesFailure (oneCell [{ nsvc := 1, bvci := 2 }]) 0 bssNsvc .reset 1 := by
  have hside : BssSide (oneCell [{ nsvc := 1, bvci := 2 }]) bssNsvc := ⟨rfl, by decide⟩
  exact ⟨hside, (propagatesFailure_iff hside 0 (.inl rfl) 1).mpr (by decide)⟩

/-- The peer of the NS-VC is not blocked, and the SGSN is not told. -/
theorem not_propagatesFailure_oneCell :
    ¬ ∀ (gb : Gbprox Unit) (i : Nat) (nsvc : GprsNsvc) (signal : NsSignal) (cause : NsCause),
      gb.nsi.nsvcs.get? i = some nsvc → BssSide gb nsvc → (signal = .reset ∨ signal = .block) →
        PropagatesFailure gb i nsvc signal cause := by
  intro h
  have hperm := h (oneCell [{ nsvc := 0, bvci := 2 }]) 0 bssNsvc .block 1 rfl ⟨rfl, by decide⟩ (.inr rfl)
  have hlen : 0 = 1 := hperm.length_eq
  cases hlen

end OpenBsc.GbProxy
