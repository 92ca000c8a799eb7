import OpenBsc.Ns.Runs

/-!
# `Ns.ResetTimer` — the timer of a reset that waits for its acknowledgement

An NS-VC has one timer for three procedures. A reset that was sent needs it in the mode `NSVC_TIMER_TNS_RESET` until
the acknowledgement comes, since only its expiry sends the reset again. `NS_PDUT_ALIVE_ACK` and a reset of the other
end start it in another mode whatever waits, and the reset that answers `NS_PDUT_ALIVE` on a dead NS-VC does not start
it at all. Everything else leaves it to the reset.
-/

namespace OpenBsc.Ns

open Transition NsvcAct GprsNsInst

variable {β : Type}

/-! ## The timer -/

/-- A reset that waits for its acknowledgement has the timer. -/
def ResetArmed (nsvc : GprsNsvc) (past : NsvcPast) : Prop :=
  past.pending = true → nsvc.timer = true ∧ nsvc.timerMode = .tnsReset

/-- Every reset that waits has its timer. -/
def ResetsArmed (t : NsTrace β) : Prop :=
  ∀ i nsvc, t.nsi.nsvcs.get? i = some nsvc → ResetArmed nsvc (t.past i)

instance (t : NsTrace β) : Decidable (ResetsArmed t) :=
  have (i : Nat) (nsvc : GprsNsvc) : Decidable (ResetArmed nsvc (t.past i)) := by
    unfold ResetArmed
    infer_instance
  inferInstanceAs (Decidable (∀ i nsvc, t.nsi.nsvcs.get? i = some nsvc → ResetArmed nsvc (t.past i)))

/-- The NS-RESET of an NS-VC: one, to its address, with its identifiers; over E1 nothing is ever sent. -/
def nsReset (id : Nat) (nsvc : GprsNsvc) : List (NsOut β) :=
  if nsvc.ll = .e1 then [] else [.tx (some id) nsvc.btsAddr (.reset .omIntervention nsvc.nsvci nsvc.nsei)]

theorem gprsNsTxReset_eq (id : Nat) (nsvc : GprsNsvc) :
    gprsNsTxReset id nsvc .omIntervention = nsReset (β := β) id nsvc := by
  unfold gprsNsTxReset gprsNsTx nsReset
  cases nsvc.ll <;> rfl

/-- The expiry of its timer sends every reset again that waits. -/
def ResetsSentAgain (t : NsTrace β) : Prop :=
  ∀ i nsvc, t.nsi.nsvcs.get? i = some nsvc → (t.past i).pending = true →
    ∃ t' ∈ traceStep t (.timer i), t'.nsi.outbox = t.nsi.outbox ++ nsReset i nsvc ∧
      ∀ nsvc', t'.nsi.nsvcs.get? i = some nsvc' → nsvc'.timer = true ∧ nsvc'.timerMode = .tnsReset

/-- `NS_PDUT_ALIVE_ACK` or a complete reset of the other end. -/
def NsvcAct.startsTest : NsvcAct β → Bool
  | .rx _ .aliveAck => true
  | .rx _ (.reset (some ⟨some _, some _, some _⟩)) => true
  | _ => false

def NsvcAct.isAlive : NsvcAct β → Bool
  | .rx _ .alive => true
  | _ => false

/-- A reset that waits keeps its timer: nothing comes that starts the test procedure, and it was not the answer to
    `NS_PDUT_ALIVE`. -/
def LeavesResetTimer (act : NsvcAct β) (nsvc : GprsNsvc) (past : NsvcPast) : Prop :=
  (act.startsTest = true → past.pending = false) ∧
    (act.isAlive = true → nsvc.state = { blocked := true, alive := false } → past.pending = true)

instance (act : NsvcAct β) (nsvc : GprsNsvc) (past : NsvcPast) : Decidable (LeavesResetTimer act nsvc past) :=
  inferInstanceAs (Decidable (_ ∧ _))

/-! ## The step -/

variable {nsvc : GprsNsvc} {past : NsvcPast}

theorem resetArmed_of_quiet (h : past.pending = false) : ResetArmed nsvc past := by
  intro hpending
  rw [h] at hpending
  cases hpending

theorem resetArmed_of_same {nsvc' : GprsNsvc} {past' : NsvcPast} (h : ResetArmed nsvc past)
    (htimer : nsvc'.timer = nsvc.timer) (hmode : nsvc'.timerMode = nsvc.timerMode)
    (hpending : past'.pending = past.pending) : ResetArmed nsvc' past' := by
  intro hwaits
  rw [htimer, hmode]
  exact h (hpending ▸ hwaits)

theorem resetArmed_timer (h : ResetArmed nsvc past) (retries id : Nat) :
    ResetArmed (@gprsNsTimerCb β retries id nsvc).1 past := by
  intro hwaits
  obtain ⟨-, hmode⟩ := h hwaits
  simp [gprsNsTimerCb, hmode, nsvcStartTimer]

theorem resetArmed_rx (h : ResetArmed nsvc past) (id : Nat) (moved : Option SockaddrIn) (pdu : NsPdu β)
    (hleaves : LeavesResetTimer (.rx moved pdu) nsvc past) :
    ResetArmed ((rx moved pdu).run id nsvc).1 (past.after (.rx moved pdu) nsvc) := by
  cases pdu with
  | alive =>
    simp only [run, nsRx, NsvcPast.after]
    split
    case isTrue hdead =>
      have hwaits : past.pending = true := hleaves.2 rfl hdead
      exact resetArmed_of_same h rfl rfl hwaits.symm
    case isFalse => exact resetArmed_of_same h rfl rfl rfl
  | aliveAck => exact resetArmed_of_quiet (hleaves.1 rfl)
  | resetAck => exact resetArmed_of_quiet rfl
  | reset ies =>
    rcases @rxReset_cases β id { nsvc with btsAddr := moved.getD nsvc.btsAddr } past moved ies with
      ⟨cause, nsvci, nsei, rfl⟩ | ⟨hsame, hpast⟩
    · exact resetArmed_of_quiet (hleaves.1 rfl)
    · have hrun : ((@rx β moved (.reset ies)).run id nsvc).1 =
          { nsvc with btsAddr := moved.getD nsvc.btsAddr } := hsame
      exact resetArmed_of_same h (by rw [hrun]) (by rw [hrun]) (congrArg NsvcPast.pending hpast)
  | block ies =>
    have hrun : ((@rx β moved (.block ies)).run id nsvc).1 =
        { nsvc with
          btsAddr := moved.getD nsvc.btsAddr
          state := { nsvc.state with blocked := true } } := rxBlock_nsvc id _ ies
    exact resetArmed_of_same h (by rw [hrun]) (by rw [hrun]) rfl
  | _ => exact resetArmed_of_same h rfl rfl rfl

/-- **The step.** Every action keeps the timer of a reset that waits, given that it leaves it alone. -/
theorem resetArmed_run (id : Nat) (act : NsvcAct β) (nsvc : GprsNsvc) (past : NsvcPast) (h : ResetArmed nsvc past)
    (hleaves : LeavesResetTimer act nsvc past) : ResetArmed (act.run id nsvc).1 (past.after act nsvc) := by
  cases act with
  | rx moved pdu => exact resetArmed_rx h id moved pdu hleaves
  | timer retries =>
    simp only [run]
    split
    · exact resetArmed_timer h retries id
    · exact resetArmed_of_same h rfl rfl rfl
  | reset | connect => exact fun _ => ⟨rfl, rfl⟩
  | remoteport ll port =>
    simp only [run]
    split
    · exact resetArmed_of_same h rfl rfl rfl
    · exact resetArmed_of_same h rfl rfl rfl
  | _ => exact resetArmed_of_same h rfl rfl rfl

/-! ## The result -/

theorem resetsSentAgain_of_armed {t : NsTrace β} (h : ResetsArmed t) : ResetsSentAgain t := by
  intro i nsvc hget hwaits
  obtain ⟨htimer, hmode⟩ := h i nsvc hget hwaits
  have hrun : (timer t.nsi.aliveRetries).run i nsvc =
      (nsvcStartTimer { nsvc with timer := false } .tnsReset,
        (gprsNsTxReset i nsvc .omIntervention : List (NsOut β))) := by
    simp only [run, htimer, gprsNsTimerCb, hmode]
    rfl
  obtain ⟨hnsvcs, houts⟩ := nsStep_does (show nsStep t.nsi (.timer i) = some _ from rfl)
  refine ⟨_, rfl, ?_, ?_⟩
  · show outbox _ = _
    rw [houts]
    simp only [nsOp, NsOp.outs, hget, hrun, gprsNsTxReset_eq]
  · intro nsvc' hget'
    rw [hnsvcs] at hget'
    simp only [nsOp, NsOp.apply] at hget'
    rw [Pool.get?_modify_self hget, hrun] at hget'
    cases hget'
    exact ⟨rfl, rfl⟩

/-- **A reset that is not overtaken cannot stall.** In every run in which nothing takes the timer from a reset that
    waits for its acknowledgement, the timer is pending in the mode of the reset as long as it waits, and sends it
    again. -/
theorem resetsSentAgain_of_leavesResetTimer {t : NsTrace β}
    (h : ReachableBy (nsTraceSystem β) (Meets LeavesResetTimer) t) : ResetsArmed t ∧ ResetsSentAgain t := by
  have harmed : ResetsArmed t := reachableBy_each (fun nsvc _ _ => resetArmed_of_quiet rfl) resetArmed_run h
  exact ⟨harmed, resetsSentAgain_of_armed harmed⟩

/-- A BSS that is reset while it is connected. -/
def bssAddr : SockaddrIn := { sinAddr := 0x0a000001, sinPort := 2157 }

def bssReset : NsEvent Unit := .rcvmsg .udp bssAddr (.reset (some ⟨some .omIntervention, some 7, some 8⟩))

/-- The operator resets the NS-VC, and the timer expires once before the acknowledgement comes. -/
def resetSentAgain : Option (NsTrace Unit) :=
  guardedRun traceStep (Meets LeavesResetTimer) {}
    [bssReset, .rcvmsg .udp bssAddr .aliveAck, .reset 0 .omIntervention, .timer 0]

theorem resetsSentAgain_resetSentAgain : ∃ t ∈ resetSentAgain, (t.past 0).pending = true ∧
    ResetsArmed t ∧ ResetsSentAgain t := by
  obtain ⟨t, ht, hwaits⟩ : ∃ t ∈ resetSentAgain, (t.past 0).pending = true := by decide +kernel
  refine ⟨t, ht, hwaits, ?_⟩
  exact resetsSentAgain_of_leavesResetTimer (ReachableBy.guardedRun (fun _ _ _ h => h) (.init rfl) ht)

/-- An acknowledgement of `NS_PDUT_ALIVE` arrives after the reset was sent. -/
def resetOvertaken : Option (NsTrace Unit) :=
  guardedRun traceStep (fun _ _ => True) {} [bssReset, .reset 0 .omIntervention, .rcvmsg .udp bssAddr .aliveAck]

theorem not_resetsSentAgain_resetOvertaken : ∃ t, Reachable (nsTraceSystem Unit) t ∧
    ¬ ResetsArmed t ∧ ¬ ResetsSentAgain t := by
  obtain ⟨t, ht, hwaits, hbroken, hsilent⟩ : ∃ t ∈ resetOvertaken, (t.past 0).pending = true ∧ ¬ ResetsArmed t ∧
      ∃ nsvc ∈ t.nsi.nsvcs.get? 0, ∀ t' ∈ traceStep t (.timer 0), t'.nsi.outbox ≠ t.nsi.outbox ++ nsReset 0 nsvc := by
    decide +kernel
  refine ⟨t, ReachableBy.guardedRun (fun _ _ _ h => h) (.init rfl) ht, hbroken, fun h => ?_⟩
  obtain ⟨nsvc, hget, hother⟩ := hsilent
  obtain ⟨t', hstep, houts, -⟩ := h 0 nsvc hget hwaits
  exact hother t' hstep houts

end OpenBsc.Ns
