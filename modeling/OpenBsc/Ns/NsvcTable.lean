import OpenBsc.Ns.Runs

/-!
# `Ns.NsvcTable` — what identifies an NS-VC

NS-VCs are looked up by NSEI, by NSVCI and by address. `gprs_ns_rcvmsg` looks for the NSEI of a reset only when the
address is unknown; a reset from a known address renumbers its NS-VC to whatever it carries, the NSVCI is never looked
for, and neither `nsip_connect` nor the commands of the operator look for the keys they set. Where the keys that are
set are free, the table stays unique, and each lookup finds one NS-VC only.
-/

namespace OpenBsc.Ns

open Transition Pool GprsNsInst

variable {β : Type}

/-! ## Keys -/

/-- Two NS-VCs that no lookup confuses. An NS-VC has a remote address once the IP address is known. -/
structure Distinct (a b : GprsNsvc) : Prop where
  nsei : a.nsei ≠ b.nsei
  nsvci : a.nsvci ≠ b.nsvci
  btsAddr : a.btsAddr.sinAddr ≠ 0 → a.btsAddr ≠ b.btsAddr

instance (a b : GprsNsvc) : Decidable (Distinct a b) :=
  decidable_of_iff (a.nsei ≠ b.nsei ∧ a.nsvci ≠ b.nsvci ∧ (a.btsAddr.sinAddr ≠ 0 → a.btsAddr ≠ b.btsAddr))
    ⟨fun ⟨h₁, h₂, h₃⟩ => ⟨h₁, h₂, h₃⟩, fun ⟨h₁, h₂, h₃⟩ => ⟨h₁, h₂, h₃⟩⟩

theorem Distinct.symm {a b : GprsNsvc} (h : Distinct a b) : Distinct b a where
  nsei := h.nsei.symm
  nsvci := h.nsvci.symm
  btsAddr hb hab := by
    rw [hab] at hb
    exact h.btsAddr hb hab.symm

/-- No two NS-VCs have the same NSEI, the same NSVCI or the same remote address. -/
def UniqueTable (nsi : GprsNsInst β) : Prop := nsi.nsvcs.Pairwise Distinct

/-- Every lookup by a key of an NS-VC finds that NS-VC. -/
def LookupsUnique (nsi : GprsNsInst β) : Prop :=
  ∀ i nsvc, nsi.nsvcs.get? i = some nsvc →
    nsi.nsvcByNsei nsvc.nsei = some (i, nsvc) ∧ nsi.nsvcByNsvci nsvc.nsvci = some (i, nsvc) ∧
      (nsvc.btsAddr.sinAddr ≠ 0 → nsi.nsvcByRemAddr nsvc.btsAddr = some (i, nsvc))

variable {nsi : GprsNsInst β}

theorem lookupsUnique_of_uniqueTable (h : UniqueTable nsi) : LookupsUnique nsi := by
  intro i nsvc hget
  refine ⟨?_, ?_, fun haddr => ?_⟩
  · refine findLast?_unique hget (by simp) fun j other hj hkey => ?_
    by_contra hne
    exact (h j other i nsvc hj hget hne).nsei (by simpa using hkey)
  · refine findLast?_unique hget (by simp) fun j other hj hkey => ?_
    by_contra hne
    exact (h j other i nsvc hj hget hne).nsvci (by simpa using hkey)
  · refine findLast?_unique hget (by simp) fun j other hj hkey => ?_
    by_contra hne
    have hsame : other.btsAddr = nsvc.btsAddr := by simpa using hkey
    exact (h j other i nsvc hj hget hne).btsAddr (hsame ▸ haddr) hsame

/-! ## The step -/

/-- No other NS-VC than `i` has the property. -/
def Free (nsvcs : Pool GprsNsvc) (i : Nat) (q : GprsNsvc → Prop) : Prop :=
  ∀ j nsvc, nsvcs.get? j = some nsvc → j ≠ i → ¬ q nsvc

instance (nsvcs : Pool GprsNsvc) (i : Nat) (q : GprsNsvc → Prop) [DecidablePred q] : Decidable (Free nsvcs i q) :=
  inferInstanceAs (Decidable (∀ j nsvc, nsvcs.get? j = some nsvc → j ≠ i → ¬ q nsvc))

/-- The keys that a reset, a connection or the operator sets are not those of another NS-VC. -/
def KeysFree (nsvcs : Pool GprsNsvc) (i : Nat) (old : GprsNsvc) (act : NsvcAct β) : Prop :=
  match act with
  | .rx _ (.reset (some ⟨some _, some nsvci, some nsei⟩)) | .connect _ nsei nsvci =>
    Free nsvcs i (·.nsei = nsei) ∧ Free nsvcs i (·.nsvci = nsvci)
  | .number nsvci => Free nsvcs i (·.nsvci = nsvci)
  | .remoteip addr =>
    addr = 0 ∨ Free nsvcs i (·.btsAddr = { old.btsAddr with sinAddr := addr })
  | .remoteport ll port =>
    old.ll ≠ ll ∨ old.btsAddr.sinAddr = 0 ∨ Free nsvcs i (·.btsAddr = { old.btsAddr with sinPort := port })
  | _ => True

/-- The event sets free keys. -/
def SetsFreeKeys (nsi : GprsNsInst β) (ev : NsEvent β) : Prop :=
  match nsi.nsOp ev with
  | .idle _ => True
  | .on i act =>
    match nsi.nsvcs.get? i with
    | none => True
    | some old => KeysFree nsi.nsvcs i old act
  | .new base act => KeysFree nsi.nsvcs nsi.nsvcs.next base act

instance (nsvcs : Pool GprsNsvc) (i : Nat) (old : GprsNsvc) (act : NsvcAct β) :
    Decidable (KeysFree nsvcs i old act) := by
  unfold KeysFree
  split <;> infer_instance

instance (nsi : GprsNsInst β) (ev : NsEvent β) : Decidable (SetsFreeKeys nsi ev) := by
  unfold SetsFreeKeys
  split
  · infer_instance
  · split <;> infer_instance
  · infer_instance

/-- The address an action moves the NS-VC to. -/
def NsvcAct.moves (act : NsvcAct β) : Option SockaddrIn :=
  match act with
  | .rx moved _ => moved
  | .connect dest _ _ => some dest
  | _ => none

theorem distinct_of_same {a a' b : GprsNsvc} (h : Distinct a b) (hnsei : a'.nsei = a.nsei)
    (hnsvci : a'.nsvci = a.nsvci) (haddr : a'.btsAddr = a.btsAddr) : Distinct a' b where
  nsei := hnsei ▸ h.nsei
  nsvci := hnsvci ▸ h.nsvci
  btsAddr := haddr ▸ h.btsAddr

variable (retries id : Nat) (nsvc : GprsNsvc) (pdu : NsPdu β)

/-- Receiving does not move an NS-VC, -/
theorem btsAddr_nsRx : (nsRx id nsvc pdu).1.btsAddr = nsvc.btsAddr := by
  cases pdu with
  | alive =>
    simp only [nsRx]
    split <;> rfl
  | reset ies =>
    simp only [nsRx, gprsNsRxReset]
    split <;> rfl
  | block ies =>
    simp only [nsRx, gprsNsRxBlock]
    split <;> rfl
  | _ => rfl

/-- and only a complete reset renumbers it. -/
theorem numbers_nsRx :
    ((nsRx id nsvc pdu).1.nsei = nsvc.nsei ∧ (nsRx id nsvc pdu).1.nsvci = nsvc.nsvci) ∨
    ∃ cause nsvci nsei, pdu = .reset (some ⟨some cause, some nsvci, some nsei⟩) ∧
      (nsRx id nsvc pdu).1.nsei = nsei ∧ (nsRx id nsvc pdu).1.nsvci = nsvci := by
  cases pdu with
  | alive =>
    simp only [nsRx]
    split <;> exact .inl ⟨rfl, rfl⟩
  | reset ies =>
    simp only [nsRx, gprsNsRxReset]
    split
    · exact .inl ⟨rfl, rfl⟩
    · exact .inr ⟨_, _, _, rfl, rfl, rfl⟩
    · exact .inl ⟨rfl, rfl⟩
  | block ies =>
    simp only [nsRx, gprsNsRxBlock]
    split <;> exact .inl ⟨rfl, rfl⟩
  | _ => exact .inl ⟨rfl, rfl⟩

theorem numbers_timer :
    (@gprsNsTimerCb β retries id nsvc).1.nsei = nsvc.nsei ∧
      (@gprsNsTimerCb β retries id nsvc).1.nsvci = nsvc.nsvci ∧
      (@gprsNsTimerCb β retries id nsvc).1.btsAddr = nsvc.btsAddr := by
  unfold gprsNsTimerCb
  cases nsvc.timerMode with
  | tnsTest | tnsReset => exact ⟨rfl, rfl, rfl⟩
  | tnsAlive =>
    dsimp only
    split <;> exact ⟨rfl, rfl, rfl⟩

/-- An NS-VC stays apart from another when the keys that are set, and the address it moves to, are not of that. -/
theorem distinct_run {nsvcs : Pool GprsNsvc} {i j : Nat} {old other : GprsNsvc} {act : NsvcAct β}
    (h : Distinct old other) (hother : nsvcs.get? j = some other) (hne : j ≠ i) (hkeys : KeysFree nsvcs i old act)
    (hmoves : ∀ saddr, act.moves = some saddr → saddr.sinAddr ≠ 0 → other.btsAddr ≠ saddr) :
    Distinct (act.run i old).1 other := by
  cases act with
  | rx moved pdu =>
    have haddr : ((NsvcAct.rx moved pdu).run i old).1.btsAddr = moved.getD old.btsAddr := btsAddr_nsRx _ _ _
    have hbts : (moved.getD old.btsAddr).sinAddr ≠ 0 → moved.getD old.btsAddr ≠ other.btsAddr := by
      cases moved with
      | none => exact h.btsAddr
      | some saddr => exact fun hset => (hmoves saddr rfl hset).symm
    rcases numbers_nsRx i { old with btsAddr := moved.getD old.btsAddr } pdu with
      ⟨hnsei, hnsvci⟩ | ⟨cause, nsvci, nsei, rfl, hnsei, hnsvci⟩
    · exact ⟨hnsei ▸ h.nsei, hnsvci ▸ h.nsvci, haddr ▸ hbts⟩
    · exact ⟨fun heq => hkeys.1 j other hother hne (heq.symm.trans hnsei),
        fun heq => hkeys.2 j other hother hne (heq.symm.trans hnsvci), haddr ▸ hbts⟩
  | connect dest nsei nsvci =>
    exact ⟨fun heq => hkeys.1 j other hother hne heq.symm, fun heq => hkeys.2 j other hother hne heq.symm,
      fun hset => (hmoves dest rfl hset).symm⟩
  | timer retries =>
    simp only [NsvcAct.run]
    split
    · obtain ⟨hnsei, hnsvci, haddr⟩ := @numbers_timer β retries i old
      exact distinct_of_same h hnsei hnsvci haddr
    · exact h
  | number nsvci => exact ⟨h.nsei, fun heq => hkeys j other hother hne heq.symm, h.btsAddr⟩
  | remoteip addr =>
    refine ⟨h.nsei, h.nsvci, fun hset heq => ?_⟩
    rcases hkeys with rfl | hfree
    · exact hset rfl
    · exact hfree j other hother hne heq.symm
  | remoteport ll port =>
    simp only [NsvcAct.run]
    split
    case isTrue => exact h
    case isFalse hll =>
      refine ⟨h.nsei, h.nsvci, fun hset heq => ?_⟩
      rcases hkeys with hkeep | hnone | hfree
      · exact hll hkeep
      · exact hset hnone
      · exact hfree j other hother hne heq.symm
  | _ => exact distinct_of_same h rfl rfl rfl

theorem moves_of_on {ev : NsEvent β} {i : Nat} {act : NsvcAct β} {saddr : SockaddrIn} (h : UniqueTable nsi)
    (hop : nsi.nsOp ev = .on i act) (hmoves : act.moves = some saddr) (hset : saddr.sinAddr ≠ 0) {j : Nat}
    {other : GprsNsvc} (hother : nsi.nsvcs.get? j = some other) (hne : j ≠ i) : other.btsAddr ≠ saddr := by
  have hstays {found : Option (Nat × GprsNsvc)} {a : NsvcAct β} (hfound : NsOp.onFound found a = .on i act)
      (ha : a.moves = none) : other.btsAddr ≠ saddr := by
    rw [(of_onFound_on hfound).1, hmoves] at ha
    cases ha
  cases ev with
  | rcvmsg ll from' pdu =>
    simp only [nsOp, rcvOp] at hop
    split at hop
    · obtain ⟨rfl, rfl⟩ := NsOp.on.inj hop
      cases hmoves
    · rename_i hunknown
      split at hop
      · -- the reset came from an address that was not known
        obtain ⟨rfl, -⟩ := of_onFoundOr_on hop
        obtain rfl := Option.some.inj hmoves
        simpa using findLast?_eq_none.mp hunknown j other hother
      all_goals cases hop
  | connect dest nsei nsvci =>
    obtain ⟨rfl, nsvc, hfound⟩ := of_onFoundOr_on hop
    obtain rfl := Option.some.inj hmoves
    obtain ⟨hget, haddr⟩ := of_findLast? hfound
    have haddr : nsvc.btsAddr = dest := by simpa using haddr
    rw [← haddr] at hset ⊢
    exact ((h i nsvc j other hget hother (Ne.symm hne)).btsAddr hset).symm
  | nseNsvc nsei nsvci =>
    obtain ⟨rfl, -⟩ := of_onFoundOr_on hop
    cases hmoves
  | sendmsg | nseRemoteip | nseRemoteport | nseFrDlci | nseEncaps | nseRemoterole | noNse => exact hstays hop rfl
  | aliveRetries => cases hop
  | _ =>
    obtain ⟨rfl, rfl⟩ := NsOp.on.inj hop
    cases hmoves

/-- An NS-VC that is created stays apart from all others. -/
theorem distinct_of_new {ev : NsEvent β} {base other : GprsNsvc} {act : NsvcAct β} {j : Nat}
    (hop : nsi.nsOp ev = .new base act) (hkeys : KeysFree nsi.nsvcs nsi.nsvcs.next base act)
    (hother : nsi.nsvcs.get? j = some other) : Distinct (act.run nsi.nsvcs.next base).1 other := by
  have hne : j ≠ nsi.nsvcs.next := Nat.ne_of_lt (get?_lt hother)
  cases ev with
  | rcvmsg ll from' pdu =>
    simp only [nsOp, rcvOp] at hop
    split at hop
    · cases hop
    · rename_i hunknown
      split at hop
      · obtain ⟨-, rfl, rfl⟩ := of_onFoundOr_new hop
        have haddr : other.btsAddr ≠ from' := by simpa using findLast?_eq_none.mp hunknown j other hother
        exact ⟨fun heq => hkeys.1 j other hother hne heq.symm, fun heq => hkeys.2 j other hother hne heq.symm,
          fun _ => haddr.symm⟩
      all_goals cases hop
  | connect dest nsei nsvci =>
    obtain ⟨hunknown, rfl, rfl⟩ := of_onFoundOr_new hop
    have haddr : other.btsAddr ≠ dest := by simpa using findLast?_eq_none.mp hunknown j other hother
    exact ⟨fun heq => hkeys.1 j other hother hne heq.symm, fun heq => hkeys.2 j other hother hne heq.symm,
      fun _ => haddr.symm⟩
  | nseNsvc nsei nsvci =>
    obtain ⟨hunknown, rfl, rfl⟩ := of_onFoundOr_new hop
    have hnsei : other.nsei ≠ nsei := by simpa using findLast?_eq_none.mp hunknown j other hother
    -- it has no address yet
    exact ⟨hnsei.symm, fun heq => hkeys j other hother hne heq.symm, fun hset => absurd rfl hset⟩
  | sendmsg => exact absurd hop onFound_ne_new
  | nseRemoteip | nseRemoteport | nseFrDlci | nseEncaps | nseRemoterole | noNse => exact absurd hop onFound_ne_new
  | _ => cases hop

/-- **The step.** The table stays unique when the event sets free keys. -/
theorem uniqueTable_step {nsi' : GprsNsInst β} {ev : NsEvent β} (h : UniqueTable nsi) (hfree : SetsFreeKeys nsi ev)
    (hstep : nsStep nsi ev = some nsi') : UniqueTable nsi' := by
  show nsi'.nsvcs.Pairwise Distinct
  rw [(nsStep_does hstep).1]
  unfold SetsFreeKeys at hfree
  cases hop : nsi.nsOp ev with
  | idle outs => exact h
  | on i act =>
    refine Pool.Pairwise.modify h (fun a b => Distinct.symm) fun old hold j other hother hne => ?_
    simp only [hop, hold] at hfree
    refine distinct_run (h i old j other hold hother (Ne.symm hne)) hother hne hfree ?_
    intro saddr hmoves hset
    exact moves_of_on h hop hmoves hset hother hne
  | new base act =>
    refine Pool.Pairwise.alloc h (fun a b => Distinct.symm) fun j other hother => ?_
    simp only [hop] at hfree
    exact distinct_of_new hop hfree hother

/-! ## The result -/

/-- **Free keys keep the table unique.** In every run whose events set only NSEIs, NSVCIs and addresses that no other
    NS-VC has, no two NS-VCs share one of the three, and every lookup finds one NS-VC only. -/
theorem uniqueTable_of_setsFreeKeys {nsi : GprsNsInst β} (h : ReachableBy (nsSystem β) SetsFreeKeys nsi) :
    UniqueTable nsi ∧ LookupsUnique nsi := by
  have hunique : UniqueTable nsi := by
    refine h.invariant (I := UniqueTable) ?_ fun nsi ev nsi' hu hfree hstep => uniqueTable_step hu hfree hstep
    rintro nsi rfl
    exact pairwise_empty
  exact ⟨hunique, lookupsUnique_of_uniqueTable hunique⟩

/-- Two BSSs reset their NS-VCs, and then one of them appears under another address. -/
def movedBss : Option (GprsNsInst Unit) :=
  guardedRun nsStep SetsFreeKeys .instantiate
    [.rcvmsg .udp { sinAddr := 0x0a000001, sinPort := 2157 } (.reset (some ⟨some 1, some 11, some 10⟩)),
      .rcvmsg .udp { sinAddr := 0x0a000002, sinPort := 2157 } (.reset (some ⟨some 1, some 21, some 20⟩)),
      .rcvmsg .udp { sinAddr := 0x0a000003, sinPort := 2157 } (.reset (some ⟨some 1, some 12, some 10⟩))]

theorem uniqueTable_movedBss : ∃ nsi ∈ movedBss, nsi.nsvcs.ids = [0, 1] ∧ UniqueTable nsi ∧ LookupsUnique nsi := by
  obtain ⟨nsi, hrun, hids⟩ : ∃ nsi ∈ movedBss, nsi.nsvcs.ids = [0, 1] := by decide +kernel
  refine ⟨nsi, hrun, hids, ?_⟩
  exact uniqueTable_of_setsFreeKeys (ReachableBy.guardedRun (fun _ _ _ h => h) (.init rfl) hrun)

/-- The second BSS resets its NS-VC again, with the NSEI of the first. -/
def reusedNsei : Option (GprsNsInst Unit) :=
  guardedRun nsStep (fun _ _ => True) .instantiate
    [.rcvmsg .udp { sinAddr := 0x0a000001, sinPort := 2157 } (.reset (some ⟨some 1, some 11, some 10⟩)),
      .rcvmsg .udp { sinAddr := 0x0a000002, sinPort := 2157 } (.reset (some ⟨some 1, some 21, some 20⟩)),
      .rcvmsg .udp { sinAddr := 0x0a000002, sinPort := 2157 } (.reset (some ⟨some 1, some 11, some 10⟩))]

theorem not_uniqueTable_reusedNsei :
    ∃ nsi, Reachable (nsSystem Unit) nsi ∧ ¬ UniqueTable nsi ∧ ¬ LookupsUnique nsi := by
  obtain ⟨nsi, hrun, h₀, h₁⟩ : ∃ nsi ∈ reusedNsei,
      (∃ a ∈ nsi.nsvcs.get? 0, a.nsei = 10 ∧ a.nsvci = 11) ∧
      ∃ b ∈ nsi.nsvcs.get? 1, b.nsei = 10 ∧ b.nsvci = 11 := by decide +kernel
  obtain ⟨a, hgeta, hnseia, -⟩ := h₀
  obtain ⟨b, hgetb, hnseib, -⟩ := h₁
  refine ⟨nsi, ReachableBy.guardedRun (fun _ _ _ h => h) (.init rfl) hrun, fun h => ?_, fun h => ?_⟩
  · exact (h 0 a 1 b hgeta hgetb (by decide)).nsei (hnseia.trans hnseib.symm)
  · -- the same search would have to find both
    have hfirst := (h 0 a hgeta).1
    have hsecond := (h 1 b hgetb).1
    rw [hnseia] at hfirst
    rw [hnseib, hfirst] at hsecond
    cases hsecond

end OpenBsc.Ns
