import OpenBsc.Ns.Runs

/-!
# `Ns.AliveTest` — the test of an NS-VC

`Tns-test` sends an NS-ALIVE and leaves the timer to `Tns-alive`, whose expiries are counted in `alive_retries` until an
NS-ALIVE-ACK starts `Tns-test` again. One timer serves these two and the reset, and only an expiry of `Tns-test` clears
the counter. While the timer runs as `Tns-alive`, the counter is the number of expiries that have gone unanswered
(`AliveCount`), so an NS-VC is declared dead by just that one which is one too many (`Supervised`).
-/

namespace OpenBsc.Ns

open Transition NsvcAct

variable {β : Type}

/-! ## The count -/

/-- How many expiries of `Tns-alive` have come one after the other, with no NS-ALIVE-ACK in between. -/
def unanswered (missed : Nat) (nsvc : GprsNsvc) (act : NsvcAct β) : Nat :=
  match act with
  | .timer _ => if nsvc.timer then if nsvc.timerMode = .tnsAlive then missed + 1 else 0 else missed
  | .rx _ .aliveAck => 0
  | _ => missed

/-- The count of every NS-VC of an instance. -/
def unansweredOf (missed : Nat → Nat) (nsi : GprsNsInst β) (ev : NsEvent β) (_ : GprsNsInst β) : Nat → Nat :=
  match nsi.nsOp ev with
  | .idle _ => missed
  | .on i act =>
    match nsi.nsvcs.get? i with
    | none => missed
    | some nsvc => Function.update missed i (unanswered (missed i) nsvc act)
  | .new base act => Function.update missed nsi.nsvcs.next (unanswered 0 base act)

/-- The runs of an instance, with the counts. -/
def countedSystem (β : Type) : System (GprsNsInst β × (Nat → Nat)) (NsEvent β) :=
  (nsSystem β).recording (fun _ => 0) unansweredOf

/-! ## The counter -/

/-- **The counter** of a test that waits for an answer is the number of expiries without one. -/
def AliveCount (nsvc : GprsNsvc) (missed : Nat) : Prop :=
  nsvc.timer = true → nsvc.timerMode = .tnsAlive → nsvc.aliveRetries = missed

/-- What happens to an NS-VC, other than an expiry, starts its timer for something else, or leaves it alone. -/
theorem run_timer (id : Nat) (act : NsvcAct β) (nsvc : GprsNsvc) (hact : ∀ retries, act ≠ .timer retries) :
    (act.run id nsvc).1.timerMode ≠ .tnsAlive ∨ (∀ missed, unanswered missed nsvc act = missed) ∧
      (act.run id nsvc).1.timer = nsvc.timer ∧ (act.run id nsvc).1.timerMode = nsvc.timerMode ∧
      (act.run id nsvc).1.aliveRetries = nsvc.aliveRetries := by
  cases act with
  | timer retries => exact absurd rfl (hact retries)
  | reset | connect => exact .inl nofun
  | rx moved pdu =>
    cases pdu with
    | aliveAck | resetAck => exact .inl nofun
    | reset ies =>
      rcases ies with _ | ⟨_ | cause, _ | vci, _ | nsei⟩
      case rx.reset.some.some.some.some => exact .inl nofun
      all_goals exact .inr ⟨fun _ => rfl, rfl, rfl, rfl⟩
    | block ies =>
      rcases ies with _ | ⟨_ | cause, _ | vci, nsei⟩
      all_goals exact .inr ⟨fun _ => rfl, rfl, rfl, rfl⟩
    | alive =>
      refine .inr ⟨fun _ => rfl, ?_⟩
      simp only [run, nsRx]
      split
      all_goals exact ⟨rfl, rfl, rfl⟩
    | _ => exact .inr ⟨fun _ => rfl, rfl, rfl, rfl⟩
  | remoteport ll port =>
    refine .inr ⟨fun _ => rfl, ?_⟩
    simp only [run]
    split
    all_goals exact ⟨rfl, rfl, rfl⟩
  | _ => exact .inr ⟨fun _ => rfl, rfl, rfl, rfl⟩

variable {nsvc : GprsNsvc} {missed : Nat}

theorem AliveCount.timer (h : AliveCount nsvc missed) (id retries : Nat) (hpending : nsvc.timer = true) :
    AliveCount (@gprsNsTimerCb β retries id nsvc).1 (if nsvc.timerMode = .tnsAlive then missed + 1 else 0) := by
  intro htimer hmode
  unfold gprsNsTimerCb at htimer hmode ⊢
  cases hold : nsvc.timerMode with
  | tnsAlive =>
    simp only [hold, if_true] at htimer ⊢
    split at htimer
    case isTrue => cases htimer
    case isFalse hfew =>
      rw [if_neg hfew]
      exact congrArg (· + 1) (h hpending hold)
  | tnsTest => rfl
  | tnsReset =>
    simp only [hold] at hmode
    cases hmode

/-- **The step.** Whatever happens to the NS-VC, the counter stays right. -/
theorem AliveCount.run (h : AliveCount nsvc missed) (id : Nat) (act : NsvcAct β) :
    AliveCount (act.run id nsvc).1 (unanswered missed nsvc act) := by
  by_cases hact : ∃ retries, act = .timer retries
  · obtain ⟨retries, rfl⟩ := hact
    simp only [NsvcAct.run, unanswered]
    by_cases hpending : nsvc.timer = true
    · rw [if_pos hpending, if_pos hpending]
      exact h.timer id retries hpending
    · rw [if_neg hpending, if_neg hpending]
      exact h
  · rcases run_timer id act nsvc (not_exists.mp hact) with hother | ⟨hsame, htimer, hmode, hcount⟩
    · exact fun _ hmode => absurd hmode hother
    · rw [AliveCount, hsame, htimer, hmode, hcount]
      exact h

theorem aliveCount_fresh (htimer : nsvc.timer = false) : AliveCount nsvc missed := by
  intro hpending
  rw [htimer] at hpending
  cases hpending

variable {nsi : GprsNsInst β} {counts : Nat → Nat}

/-- **The run.** In an instance the counter of every NS-VC is right. -/
theorem aliveCount_of_reachable (h : Reachable (countedSystem β) (nsi, counts)) {i : Nat}
    (hget : nsi.nsvcs.get? i = some nsvc) : AliveCount nsvc (counts i) := by
  refine h.invariant (I := fun p => ∀ i nsvc, p.1.nsvcs.get? i = some nsvc → AliveCount nsvc (p.2 i)) ?_ ?_ i nsvc hget
  · rintro ⟨nsi, counts⟩ ⟨rfl, -⟩ i nsvc hget
    cases hget
  · rintro ⟨nsi, counts⟩ ev ⟨nsi', counts'⟩ ih - ⟨hstep, hcounts⟩ i nsvc hget
    dsimp only at ih hget hcounts ⊢
    rw [hcounts]
    rw [(nsStep_does hstep).1] at hget
    unfold unansweredOf
    cases hop : nsi.nsOp ev with
    | idle outs =>
      rw [hop] at hget
      exact ih i nsvc hget
    | on j act =>
      simp only [hop, NsOp.apply, Pool.get?_modify] at hget ⊢
      split at hget
      case isTrue hij =>
        subst hij
        obtain ⟨old, hold, rfl⟩ := Option.map_eq_some_iff.mp hget
        simp only [hold, Function.update_self]
        exact (ih i old hold).run i act
      case isFalse hij =>
        cases hold : nsi.nsvcs.get? j with
        | none => exact ih i nsvc hget
        | some old =>
          simp only [Function.update_of_ne hij]
          exact ih i nsvc hget
    | new base act =>
      simp only [hop, NsOp.apply, Pool.get?_alloc] at hget ⊢
      split at hget
      case isTrue hi =>
        cases hget
        rw [hi, Function.update_self]
        exact (aliveCount_fresh (fresh_of_new hop).2).run _ act
      case isFalse hi =>
        rw [Function.update_of_ne hi]
        exact ih i nsvc hget

/-! ## The test -/

/-- The NS-VC is declared dead. -/
def NsvcAct.Kills (act : NsvcAct β) (id : Nat) (nsvc : GprsNsvc) : Prop := .signal id .aliveExp 0 ∈ (act.run id nsvc).2

/-- The NS-ALIVE of an NS-VC: one, to its address; over E1 nothing is ever sent. -/
def nsAlive (id : Nat) (nsvc : GprsNsvc) : List (NsOut β) :=
  if nsvc.ll = .e1 then [] else [.tx (some id) nsvc.btsAddr .alive]

/-- **The test** of an NS-VC that has not answered `missed` times: an expiry of either timer sends an NS-ALIVE and waits
    for the answer, one of `Tns-alive` only while it is not one more than may go unanswered; that one alone declares
    the NS-VC dead, and nothing that is received does; an answer starts `Tns-test`. -/
structure Supervised (β : Type) (id : Nat) (nsvc : GprsNsvc) (missed : Nat) : Prop where
  test : ∀ retries, nsvc.timer = true → nsvc.timerMode = .tnsTest →
    (NsvcAct.timer (β := β) retries).run id nsvc =
      ({ nsvc with aliveRetries := 0, timer := true, timerMode := .tnsAlive }, nsAlive id nsvc)
  alive : ∀ retries, nsvc.timer = true → nsvc.timerMode = .tnsAlive → missed + 1 ≤ retries →
    (NsvcAct.timer (β := β) retries).run id nsvc =
      ({ nsvc with aliveRetries := missed + 1, timer := true, timerMode := .tnsAlive }, nsAlive id nsvc)
  dead : ∀ act : NsvcAct β, act.Kills id nsvc ↔
    ∃ retries, act = .timer retries ∧ nsvc.timer = true ∧ nsvc.timerMode = .tnsAlive ∧ retries < missed + 1
  ack : ∀ moved, ((NsvcAct.rx (β := β) moved .aliveAck).run id nsvc).1 =
    { nsvc with btsAddr := moved.getD nsvc.btsAddr, timer := true, timerMode := .tnsTest }

theorem signal_notMem_tx {id : Nat} {dest : Option Nat} {pdu : NsTx β} :
    NsOut.signal id .aliveExp 0 ∉ gprsNsTx dest nsvc pdu := by
  unfold gprsNsTx
  split
  all_goals simp

/-- Only an expiry declares an NS-VC dead. -/
theorem not_kills (id : Nat) (act : NsvcAct β) (nsvc : GprsNsvc) (hact : ∀ retries, act ≠ .timer retries) :
    ¬ act.Kills id nsvc := by
  unfold NsvcAct.Kills
  cases act with
  | timer retries => exact absurd rfl (hact retries)
  | reset | connect => exact signal_notMem_tx
  | _ =>
    simp only [run, nsRx, gprsNsRxReset, gprsNsRxBlock, gprsNsRxUnitdata, gprsNsTxBlock]
    repeat' split
    all_goals simp [signal_notMem_tx, gprsNsTxStatus, gprsNsTxReset]

theorem gprsNsTx_alive (id : Nat) (nsvc : GprsNsvc) : gprsNsTx id nsvc .alive = nsAlive (β := β) id nsvc := by
  unfold gprsNsTx nsAlive
  cases nsvc.ll <;> rfl

/-- **Every run.** Each NS-VC of an instance is declared dead exactly by the expiry of `Tns-alive` that is one more in a
    row, with no NS-ALIVE-ACK in between, than may go unanswered. -/
theorem supervised_of_reachable (h : Reachable (countedSystem β) (nsi, counts)) (i : Nat)
    (hget : nsi.nsvcs.get? i = some nsvc) : Supervised β i nsvc (counts i) := by
  have hcount := aliveCount_of_reachable h hget
  refine ⟨fun retries hpending hmode => ?_, fun retries hpending hmode hfew => ?_, fun act => ?_, fun moved => rfl⟩
  · rw [← gprsNsTx_alive]
    simp [run, gprsNsTimerCb, hpending, hmode, nsvcStartTimer, gprsNsTx]
  · have hmissed := hcount hpending hmode
    rw [← gprsNsTx_alive]
    simp [run, gprsNsTimerCb, hpending, hmode, hmissed, Nat.not_lt.mpr hfew, nsvcStartTimer, gprsNsTx]
  · constructor
    · intro hkills
      by_contra hnot
      refine not_kills i act nsvc (fun retries hact => ?_) hkills
      subst hact
      unfold NsvcAct.Kills at hkills
      simp only [run] at hkills
      by_cases hpending : nsvc.timer = true
      · rw [if_pos hpending] at hkills
        cases hmode : nsvc.timerMode with
        | tnsAlive =>
          have hfew : ¬ retries < counts i + 1 := fun hmany => hnot ⟨retries, rfl, hpending, hmode, hmany⟩
          simp [gprsNsTimerCb, hmode, hcount hpending hmode, hfew, signal_notMem_tx] at hkills
        | tnsTest | tnsReset => simp [gprsNsTimerCb, gprsNsTxReset, hmode, signal_notMem_tx] at hkills
      · rw [if_neg hpending] at hkills
        exact absurd hkills List.not_mem_nil
    · rintro ⟨retries, rfl, hpending, hmode, hmany⟩
      simp [NsvcAct.Kills, run, gprsNsTimerCb, hpending, hmode, hcount hpending hmode, hmany]

/-- A BSS that answers no NS-ALIVE after its reset: the next expiry is the second in a row. -/
def silentBss : Option (GprsNsInst Unit × (Nat → Nat)) :=
  guardedRun (recorded nsStep unansweredOf) (fun _ _ => True) (.instantiate, fun _ => 0)
    [.rcvmsg .udp { sinAddr := 0x0a000001, sinPort := 2157 } (.reset (some ⟨some 0, some 1, some 2⟩)),
      .timer 0, .timer 0]

theorem supervised_of_reachable_silent : ∃ p ∈ silentBss, ∃ nsvc ∈ p.1.nsvcs.get? 0, p.2 0 = 1 ∧
    Supervised Unit 0 nsvc 1 := by
  obtain ⟨p, hp, nsvc, hget, hcount⟩ : ∃ p ∈ silentBss, ∃ nsvc ∈ p.1.nsvcs.get? 0, p.2 0 = 1 := by decide +kernel
  have hinit : (countedSystem Unit).init (.instantiate, fun _ => 0) := ⟨rfl, rfl⟩
  have hrun : Reachable (countedSystem Unit) p :=
    ReachableBy.guardedRun (step_recorded fun _ _ _ h => h) (.init hinit) hp
  refine ⟨p, hp, nsvc, hget, hcount, ?_⟩
  rw [← hcount]
  exact supervised_of_reachable hrun 0 hget

end OpenBsc.Ns
