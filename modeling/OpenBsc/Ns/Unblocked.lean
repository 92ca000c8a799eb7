import OpenBsc.Ns.Runs

/-!
# `Ns.Unblocked` — when an NS-VC is unblocked, and where user data comes from

The handler of `NS_PDUT_UNBLOCK` clears the blocked bit whatever else is known of the NS-VC, and the one of
`NS_PDUT_UNBLOCK_ACK` sets the whole state: a peer that sends them unasked unblocks an NS-VC that is dead, or whose
reset is still under way. Every other handler keeps the order of the procedures, so the order holds in all runs in
which these two PDUs come at their time.
-/

namespace OpenBsc.Ns

open Transition NsvcAct NsOut

variable {β : Type}

/-! ## The order -/

/-- Unblocked only while alive, with the reset procedure complete. -/
def InOrder (nsvc : GprsNsvc) (past : NsvcPast) : Prop :=
  nsvc.state.blocked = false → nsvc.state.alive = true ∧ past.resetDone = true

/-- Every NS-VC is unblocked only while it is alive and its reset procedure is complete. -/
def UnblockedInOrder (t : NsTrace β) : Prop :=
  ∀ i nsvc, t.nsi.nsvcs.get? i = some nsvc → InOrder nsvc (t.past i)

instance (t : NsTrace β) : Decidable (UnblockedInOrder t) :=
  have (i : Nat) (nsvc : GprsNsvc) : Decidable (InOrder nsvc (t.past i)) := by
    unfold InOrder
    infer_instance
  inferInstanceAs (Decidable (∀ i nsvc, t.nsi.nsvcs.get? i = some nsvc → InOrder nsvc (t.past i)))

/-- Whatever happens next, user data is handed up only from an NS-VC that is alive and unblocked. -/
def DeliversUnblocked (nsi : GprsNsInst β) : Prop :=
  ∀ ev nsi' outs, nsStep nsi ev = some nsi' → nsi'.outbox = nsi.outbox ++ outs →
    ∀ i bvci sdu, NsOut.unitdata i bvci sdu ∈ outs →
      ∃ nsvc, nsi.nsvcs.get? i = some nsvc ∧ nsvc.state = { alive := true }

def NsvcAct.isUnblock : NsvcAct β → Bool
  | .rx _ .unblock => true
  | _ => false

def NsvcAct.isUnblockAck : NsvcAct β → Bool
  | .rx _ .unblockAck => true
  | _ => false

/-- `NS_PDUT_UNBLOCK` is for an NS-VC that is alive, `NS_PDUT_UNBLOCK_ACK` brings it to life itself, and both come
    after the reset procedure. -/
def UnblocksAtItsTime (act : NsvcAct β) (nsvc : GprsNsvc) (past : NsvcPast) : Prop :=
  (act.isUnblock = true → nsvc.state.alive = true ∧ past.resetDone = true) ∧
    (act.isUnblockAck = true → past.resetDone = true)

instance (act : NsvcAct β) (nsvc : GprsNsvc) (past : NsvcPast) : Decidable (UnblocksAtItsTime act nsvc past) :=
  inferInstanceAs (Decidable (_ ∧ _))

/-! ## The step -/

variable {nsvc : GprsNsvc} {past : NsvcPast}

theorem inOrder_of_blocked (h : nsvc.state.blocked = true) : InOrder nsvc past := by
  intro hfree
  rw [h] at hfree
  cases hfree

theorem inOrder_of_same {nsvc' : GprsNsvc} {past' : NsvcPast} (h : InOrder nsvc past)
    (hstate : nsvc'.state = nsvc.state) (hdone : past'.resetDone = past.resetDone) : InOrder nsvc' past' := by
  intro hfree
  rw [hstate] at hfree ⊢
  rw [hdone]
  exact h hfree

/-- The timer leaves the state alone, or finds the other end gone. -/
theorem inOrder_timer (h : InOrder nsvc past) (retries id : Nat) :
    InOrder (@gprsNsTimerCb β retries id nsvc).1 past := by
  unfold gprsNsTimerCb
  cases nsvc.timerMode with
  | tnsTest | tnsReset => exact inOrder_of_same h rfl rfl
  | tnsAlive =>
    dsimp only
    split
    · exact inOrder_of_blocked rfl
    · exact inOrder_of_same h rfl rfl

/-- Every PDU keeps the order, the two that unblock given that they come at their time. -/
theorem inOrder_rx (h : InOrder nsvc past) (id : Nat) (moved : Option SockaddrIn) (pdu : NsPdu β)
    (htime : UnblocksAtItsTime (.rx moved pdu) nsvc past) :
    InOrder ((rx moved pdu).run id nsvc).1 (past.after (.rx moved pdu) nsvc) := by
  cases pdu with
  | reset ies =>
    rcases @rxReset_cases β id { nsvc with btsAddr := moved.getD nsvc.btsAddr } past moved ies with
      ⟨cause, nsvci, nsei, rfl⟩ | ⟨hsame, hpast⟩
    · exact inOrder_of_blocked rfl
    · have hrun : ((@rx β moved (.reset ies)).run id nsvc).1 =
          { nsvc with btsAddr := moved.getD nsvc.btsAddr } := hsame
      exact inOrder_of_same h (by rw [hrun]) (congrArg NsvcPast.resetDone hpast)
  | resetAck => exact inOrder_of_blocked rfl
  | block ies =>
    apply inOrder_of_blocked
    exact congrArg (fun nsvc => nsvc.state.blocked) (@rxBlock_nsvc β id _ ies)
  | unblock => exact fun _ => htime.1 rfl
  | unblockAck => exact fun _ => ⟨rfl, htime.2 rfl⟩
  | alive =>
    simp only [run, nsRx, NsvcPast.after]
    split
    case isTrue hdead =>
      apply inOrder_of_blocked
      exact congrArg NseState.blocked hdead
    case isFalse => exact inOrder_of_same h rfl rfl
  | _ => exact inOrder_of_same h rfl rfl

/-- **The step.** Every action keeps the order, given that it does not unblock before its time. -/
theorem inOrder_run (id : Nat) (act : NsvcAct β) (nsvc : GprsNsvc) (past : NsvcPast) (h : InOrder nsvc past)
    (htime : UnblocksAtItsTime act nsvc past) : InOrder (act.run id nsvc).1 (past.after act nsvc) := by
  cases act with
  | rx moved pdu => exact inOrder_rx h id moved pdu htime
  | timer retries =>
    simp only [run]
    split
    · exact inOrder_timer h retries id
    · exact inOrder_of_same h rfl rfl
  | block | reset | connect => exact inOrder_of_blocked rfl
  | remoteport ll port =>
    simp only [run]
    split
    · exact inOrder_of_same h rfl rfl
    · exact inOrder_of_same h rfl rfl
  | _ => exact inOrder_of_same h rfl rfl

/-! ## Delivery -/

variable {i : Nat} {bvci : BitVec 16} {sdu : β}

@[simp] theorem unitdata_notMem_tx {id : Option Nat} {pdu : NsTx β} :
    unitdata i bvci sdu ∉ gprsNsTx id nsvc pdu := by
  unfold gprsNsTx
  cases nsvc.ll <;> simp

@[simp] theorem unitdata_notMem_txStatus {id : Option Nat} {cause : NsCause} {b : BitVec 16} {msg : NsPdu β} :
    unitdata i bvci sdu ∉ gprsNsTxStatus id nsvc cause b msg := unitdata_notMem_tx

@[simp] theorem unitdata_notMem_txReset {id : Option Nat} {cause : NsCause} :
    unitdata i bvci sdu ∉ gprsNsTxReset id nsvc cause := unitdata_notMem_tx

variable {id : Nat}

theorem unitdata_notMem_timer {retries : Nat} : unitdata i bvci sdu ∉ (gprsNsTimerCb retries id nsvc).2 := by
  unfold gprsNsTimerCb
  cases nsvc.timerMode with
  | tnsTest | tnsReset => simp
  | tnsAlive =>
    dsimp only
    split <;> simp

/-- A reset or a block is answered, with a signal if it is complete. -/
theorem unitdata_notMem_rxReset {ies : Option NsIes} : unitdata i bvci sdu ∉ (gprsNsRxReset id nsvc ies).2 := by
  unfold gprsNsRxReset
  split <;> simp

theorem unitdata_notMem_rxBlock {ies : Option NsIes} : unitdata i bvci sdu ∉ (gprsNsRxBlock id nsvc ies).2 := by
  unfold gprsNsRxBlock
  split <;> simp

/-- Only `gprs_ns_rx_unitdata` hands data to the user, and only of an NS-VC that is not blocked. -/
theorem unitdata_of_rx {pdu : NsPdu β} (h : .unitdata i bvci sdu ∈ (nsRx id nsvc pdu).2) :
    i = id ∧ nsvc.state.blocked = false := by
  cases pdu with
  | unitdata b data =>
    simp only [nsRx, gprsNsRxUnitdata] at h
    split at h
    case isTrue => simp at h
    case isFalse hfree =>
      have hid : i = id ∧ bvci = b ∧ sdu = data := by simpa using h
      exact ⟨hid.1, by simpa using hfree⟩
  | reset ies => exact absurd h unitdata_notMem_rxReset
  | block ies => exact absurd h unitdata_notMem_rxBlock
  | alive | aliveAck =>
    simp only [nsRx] at h
    split at h <;> simp at h
  | _ => simp [nsRx] at h

theorem unitdata_of_run {act : NsvcAct β} (h : .unitdata i bvci sdu ∈ (act.run id nsvc).2) :
    i = id ∧ nsvc.state.blocked = false := by
  cases act with
  | rx moved pdu =>
    obtain ⟨hid, hfree⟩ := unitdata_of_rx h
    exact ⟨hid, hfree⟩
  | timer retries =>
    simp only [run] at h
    split at h
    · exact absurd h unitdata_notMem_timer
    · cases h
  | send b data =>
    simp only [run] at h
    split at h <;> simp at h
  | _ => simp [run, gprsNsTxBlock, gprsNsvcReset] at h

/-- What an operation hands up comes from an NS-VC of the table that is not blocked. -/
theorem unitdata_of_outs {nsi : GprsNsInst β} {ev : NsEvent β}
    (h : .unitdata i bvci sdu ∈ (nsi.nsOp ev).outs nsi.nsvcs) :
    ∃ nsvc, nsi.nsvcs.get? i = some nsvc ∧ nsvc.state.blocked = false := by
  cases hop : nsi.nsOp ev with
  | on j act =>
    simp only [hop, NsOp.outs] at h
    cases hget : nsi.nsvcs.get? j with
    | none =>
      rw [hget] at h
      cases h
    | some nsvc =>
      rw [hget] at h
      obtain ⟨rfl, hfree⟩ := unitdata_of_run h
      exact ⟨nsvc, hget, hfree⟩
  | new base act =>
    -- a fresh NS-VC is blocked
    rw [hop] at h
    obtain ⟨-, hfree⟩ := unitdata_of_run h
    rw [(fresh_of_new hop).1] at hfree
    cases hfree
  | idle outs =>
    rw [hop] at h
    rcases outs_of_idle hop with rfl | ⟨ll, saddr, pdu, rfl⟩
    · cases h
    · exact absurd h unitdata_notMem_txStatus

/-! ## The result -/

/-- Data is only handed up from an NS-VC that is alive, as long as the order is kept. -/
theorem deliversUnblocked_of_inOrder {t : NsTrace β} (h : UnblockedInOrder t) : DeliversUnblocked t.nsi := by
  intro ev nsi' outs hstep houts i bvci sdu hmem
  have hnew : outs = (t.nsi.nsOp ev).outs t.nsi.nsvcs := by
    rw [(nsStep_does hstep).2] at houts
    exact (List.append_cancel_left houts).symm
  rw [hnew] at hmem
  obtain ⟨nsvc, hget, hfree⟩ := unitdata_of_outs hmem
  obtain ⟨halive, -⟩ := h i nsvc hget hfree
  refine ⟨nsvc, hget, ?_⟩
  rcases hstate : nsvc.state with ⟨blocked, alive⟩
  simp_all

/-- **Unblocked at its time.** In every run in which a peer unblocks an NS-VC only when it is alive and its reset
    procedure is complete, and acknowledges that only after the reset procedure, an NS-VC is unblocked only while it
    is alive with the reset procedure complete, and user data comes from an NS-VC that is alive and unblocked. -/
theorem inOrder_of_unblocksAtItsTime {t : NsTrace β}
    (h : ReachableBy (nsTraceSystem β) (Meets UnblocksAtItsTime) t) :
    UnblockedInOrder t ∧ DeliversUnblocked t.nsi := by
  have horder : UnblockedInOrder t :=
    reachableBy_each (fun nsvc hstate _ => inOrder_of_blocked (by rw [hstate])) inOrder_run h
  exact ⟨horder, deliversUnblocked_of_inOrder horder⟩

/-- The address of an SGSN, and the connection to it. -/
def sgsnAddr : SockaddrIn := { sinAddr := 0x7f000001, sinPort := 23000 }

def connectSgsn : NsEvent Unit := .connect sgsnAddr 100 101

/-- The SGSN acknowledges the reset and lets the NS-VC be unblocked. -/
def unblockedInOrder : Option (NsTrace Unit) :=
  guardedRun traceStep (Meets UnblocksAtItsTime) {}
    [connectSgsn, .rcvmsg .udp sgsnAddr .resetAck, .rcvmsg .udp sgsnAddr .aliveAck,
      .rcvmsg .udp sgsnAddr .unblockAck, .rcvmsg .udp sgsnAddr (.unitdata 2 ())]

theorem inOrder_unblockedInOrder : ∃ t ∈ unblockedInOrder, unitdata 0 2 () ∈ t.nsi.outbox ∧
    UnblockedInOrder t ∧ DeliversUnblocked t.nsi := by
  obtain ⟨t, ht, hdelivered⟩ : ∃ t ∈ unblockedInOrder, unitdata 0 2 () ∈ t.nsi.outbox := by decide +kernel
  refine ⟨t, ht, hdelivered, ?_⟩
  exact inOrder_of_unblocksAtItsTime (ReachableBy.guardedRun (fun _ _ _ h => h) (.init rfl) ht)

/-- The SGSN unblocks the NS-VC while the reset still waits for its acknowledgement. -/
def unblockedTooEarly : Option (NsTrace Unit) :=
  guardedRun traceStep (fun _ _ => True) {} [connectSgsn, .rcvmsg .udp sgsnAddr .unblock]

theorem not_inOrder_unblockedTooEarly : ∃ t, Reachable (nsTraceSystem Unit) t ∧
    ¬ UnblockedInOrder t ∧ ¬ DeliversUnblocked t.nsi := by
  obtain ⟨t, ht, hbroken, ⟨nsi', hstep, houts⟩, hdead⟩ : ∃ t ∈ unblockedTooEarly,
      ¬ UnblockedInOrder t ∧
      (∃ nsi' ∈ nsStep t.nsi (.rcvmsg .udp sgsnAddr (.unitdata 2 ())),
        nsi'.outbox = t.nsi.outbox ++ [.unitdata 0 2 ()]) ∧
      ∀ nsvc ∈ t.nsi.nsvcs.get? 0, nsvc.state ≠ { alive := true } := by decide +kernel
  refine ⟨t, ReachableBy.guardedRun (fun _ _ _ h => h) (.init rfl) ht, hbroken, fun h => ?_⟩
  obtain ⟨nsvc, hget, hstate⟩ := h _ nsi' [.unitdata 0 2 ()] hstep houts 0 2 () (List.mem_singleton.mpr rfl)
  exact hdead nsvc hget hstate

end OpenBsc.Ns
