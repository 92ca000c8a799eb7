import OpenBsc.Libbsc.RadioSteps

/-!
# `Libbsc.ChannelTimers` — channels that no timer moves on

A channel that is neither unused nor active is waiting for something, and a timer has to run for the case that it does
not come. None runs while the phone is asked to release a link (`lchan_release`) or a handover channel is activated; and
some late or malformed messages stop the only one, or activate a channel that nobody has allocated. In a run without
such steps no channel is lost.
-/

namespace OpenBsc.Libbsc

open Transition RadioNet RadioNet ReachableBy Bool

variable {net net' : RadioNet} {ch ch' : RadioChan} {ev : RadioEvent}

/-! ## Timers -/

/-- The activation timer, T3101 or T3111 runs; the latter two start the first. -/
def LchanLife.late (life : LchanLife) : Bool := life.actTimer.isSome || life.t3101 || life.t3111

/-- **A timer runs that moves the channel on from its state.** In the error state T3101 and T3111 do nothing when they
    expire, and the error timer does only there. T10 releases a channel, which moves it on while it is activated. -/
def movedOn (state : LchanState) (life : LchanLife) : Bool :=
  match state with
  | .none | .active => true
  | .actReq => life.late || life.t10
  | .relReq => life.late
  | .relErr => life.actTimer.isSome || life.errorTimer
  | .inactive => false

/-- The expiry of a timer. -/
inductive Expiry (ch : RadioChan) : RadioChan → Prop where
  | actTimer (h : ch.life.actTimer.isSome = true) : Expiry ch ch.lchanActTmrCb
  | t3101 (h : ch.life.t3101 = true) : Expiry ch ch.t3101Expired
  | t3111 (h : ch.life.t3111 = true) : Expiry ch ch.t3111Expired
  | errorTimer (h : ch.life.errorTimer = true) : Expiry ch ch.errorTimeoutCb
  | t10 (h : ch.life.t10 = true) : Expiry ch ch.assignmentT10Timeout

theorem Expiry.handled (net : RadioNet) (h : Expiry ch ch') : ∃ ev, Handled net ev ch ch' := by
  cases h with
  | actTimer h => exact ⟨_, .actTimer h⟩
  | t3101 h => exact ⟨_, .t3101 h⟩
  | t3111 h => exact ⟨_, .t3111 h⟩
  | errorTimer h => exact ⟨_, .errorTimer h⟩
  | t10 h => exact ⟨_, .t10 h⟩

theorem lchanActTmrCb_state (ch : RadioChan) : ch.lchanActTmrCb.lchan.state = .none := by
  unfold RadioChan.lchanActTmrCb
  rw [RadioChan.lchanFree_eq]

/-- **What `movedOn` promises.** One of the timers that run moves the channel to another state when it expires, or
    starts the one that does. -/
theorem moved_of_expiry (hnone : ch.lchan.state ≠ .none) (hactive : ch.lchan.state ≠ .active)
    (h : movedOn ch.lchan.state ch.life = true) :
    ∃ ch', Expiry ch ch' ∧
      (ch'.lchan.state ≠ ch.lchan.state ∨ ch'.life.actTimer.isSome = true ∧ ch'.lchanActTmrCb.lchan.state = .none) := by
  -- the activation timer ends every state
  have hact : ch.life.actTimer.isSome = true → ∃ ch', Expiry ch ch' ∧
      (ch'.lchan.state ≠ ch.lchan.state ∨ ch'.life.actTimer.isSome = true ∧ ch'.lchanActTmrCb.lchan.state = .none) := by
    intro hrunning
    refine ⟨_, .actTimer hrunning, .inl ?_⟩
    rw [lchanActTmrCb_state]
    exact hnone.symm
  have hlate : ch.lchan.state ≠ .relErr → ch.life.late = true → ∃ ch', Expiry ch ch' ∧
      (ch'.lchan.state ≠ ch.lchan.state ∨ ch'.life.actTimer.isSome = true ∧ ch'.lchanActTmrCb.lchan.state = .none) := by
    intro herr hrunning
    simp only [LchanLife.late, or_eq_true] at hrunning
    rcases hrunning with (hrunning | hrunning) | hrunning
    · exact hact hrunning
    · refine ⟨_, .t3101 hrunning, .inl ?_⟩
      unfold RadioChan.t3101Expired
      rw [RadioChan.rslRfChanRelease_error _ (show (ch.setLife _).lchan.state ≠ .relErr from herr)]
      exact herr.symm
    · refine ⟨_, .t3111 hrunning, .inr ⟨?_, lchanActTmrCb_state _⟩⟩
      unfold RadioChan.t3111Expired
      rw [RadioChan.rslRfChanRelease_normal _ (show (ch.setLife _).lchan.state ≠ .relErr from herr)]
      rfl
  cases hstate : ch.lchan.state with
  | none => exact absurd hstate hnone
  | active => exact absurd hstate hactive
  | inactive =>
    rw [hstate] at h
    cases h
  | relReq =>
    rw [hstate] at h hlate
    exact hlate (by decide) h
  | actReq =>
    rw [hstate] at h hlate
    simp only [movedOn, or_eq_true] at h
    rcases h with hrunning | hrunning
    · exact hlate (by decide) hrunning
    · refine ⟨_, .t10 hrunning, .inl ?_⟩
      unfold RadioChan.assignmentT10Timeout
      obtain ⟨out, -, heq⟩ := ch.lchanRelease_eq false 1
      rw [heq]
      exact LchanState.noConfusion
  | relErr =>
    rw [hstate] at h hact
    simp only [movedOn, or_eq_true] at h
    rcases h with hrunning | hrunning
    · exact hact hrunning
    · refine ⟨_, .errorTimer hrunning, .inl ?_⟩
      rw [RadioChan.errorTimeoutCb_eq, if_pos hstate]
      exact LchanState.noConfusion

/-- A channel whose link was released, and T3111 runs. -/
def quietChan : RadioChan := { id := firstChan, lchan := { state := .relReq }, life := { t3111 := true } }

theorem moved_of_expiry_quietChan : ∃ ch', Expiry quietChan ch' ∧
    (ch'.lchan.state ≠ .relReq ∨ ch'.life.actTimer.isSome = true ∧ ch'.lchanActTmrCb.lchan.state = .none) :=
  moved_of_expiry (by decide) (by decide) rfl

/-! ## Channels -/

/-- **The channel is not lost.** A timer moves it on unless it is unused or active; it is nobody's while it is unused,
    and allocated while it is active. -/
structure NotLost (ch : RadioChan) : Prop where
  moves : ch.lchan.state ≠ .none → ch.lchan.state ≠ .active → movedOn ch.lchan.state ch.life = true
  unused : ch.lchan.state = .none → ch.lchan.type = .none ∧ ch.life.conn = none
  used : ch.lchan.state = .active → ch.lchan.type ≠ .none

/-- No channel is lost. -/
def NoneLost (net : RadioNet) : Prop := ∀ id ch, net.chan? id = some ch → NotLost ch

theorem NotLost.of_waiting (hnone : ch.lchan.state ≠ .none) (hactive : ch.lchan.state ≠ .active)
    (h : movedOn ch.lchan.state ch.life = true) : NotLost ch :=
  ⟨fun _ _ => h, fun heq => absurd heq hnone, fun heq => absurd heq hactive⟩

/-- A channel that nobody has. -/
theorem NotLost.of_unused (hstate : ch.lchan.state = .none) (htype : ch.lchan.type = .none)
    (hconn : ch.life.conn = none) : NotLost ch :=
  ⟨fun hne _ => absurd hstate hne, fun _ => ⟨htype, hconn⟩, fun heq => absurd (hstate.symm.trans heq) (by decide)⟩

theorem notLost_lchanFree (ch : RadioChan) : NotLost ch.lchanFree := by
  rw [RadioChan.lchanFree_eq]
  exact .of_unused rfl rfl rfl

theorem NotLost.moving (h : NotLost ch) : movedOn ch.lchan.state ch.life = true := by
  cases hstate : ch.lchan.state with
  | none => rfl
  | active => rfl
  | actReq | relReq | relErr | inactive => exact hstate ▸ h.moves (by rw [hstate]; decide) (by rw [hstate]; decide)

/-- The state and the type stay, nobody takes the channel, and a timer still moves it on. -/
theorem NotLost.same (h : NotLost ch) (hstate : ch'.lchan.state = ch.lchan.state)
    (htype : ch'.lchan.type = ch.lchan.type)
    (hconn : ch.life.conn = none → ch'.life.conn = none) (hmoves : movedOn ch.lchan.state ch'.life = true) :
    NotLost ch' := by
  refine ⟨fun _ _ => hstate ▸ hmoves, fun heq => ?_, fun heq => ?_⟩
  · rw [hstate] at heq
    exact ⟨htype.trans (h.unused heq).1, hconn (h.unused heq).2⟩
  · rw [hstate] at heq
    rw [htype]
    exact h.used heq

theorem notLost_rslRfChanRelease (h : ch.lchan.state = .relErr → NotLost ch) : NotLost (ch.rslRfChanRelease true) := by
  by_cases herr : ch.lchan.state = .relErr
  · rw [ch.rslRfChanRelease_of_relErr true herr]
    exact h herr
  · rw [ch.rslRfChanRelease_error herr]
    exact .of_waiting LchanState.noConfusion LchanState.noConfusion rfl

/-- The release sequence starts; only a timer that runs already moves the channel on. -/
theorem notLost_lchanRelease_iff (ch : RadioChan) (sachDeact : Bool) (reason : Octet) :
    NotLost (ch.lchanRelease sachDeact reason) ↔ ch.life.late = true := by
  obtain ⟨out, -, heq⟩ := ch.lchanRelease_eq sachDeact reason
  rw [heq]
  constructor
  · exact fun h => h.moves LchanState.noConfusion LchanState.noConfusion
  · exact fun h => .of_waiting LchanState.noConfusion LchanState.noConfusion h

/-- Nothing changes but the timers, and nobody takes the channel. -/
theorem NotLost.setLife_iff (h : NotLost ch) {f : LchanLife → LchanLife}
    (hconn : ch.life.conn = none → (f ch.life).conn = none) :
    NotLost (ch.setLife f) ↔ movedOn ch.lchan.state (f ch.life) = true := by
  constructor
  · exact fun h' => h'.moving
  · exact fun hmoves => h.same rfl rfl hconn hmoves

/-! ### RSL messages -/

/-- The message stops no timer that has to run, and activates no channel that nobody has allocated. -/
def RadioChan.keepsTimer (ch : RadioChan) : RslMsg → Bool
  | .chanActivAck true => ch.lchan.type ≠ .none
  | .chanActivNack false _ _ => movedOn ch.lchan.state { ch.life with actTimer := none }
  | .estInd _ => movedOn ch.lchan.state { ch.life with t3101 := false }
  | _ => true

theorem movedOn_t3111 {state : LchanState} {life : LchanLife} {running : Bool}
    (hrunning : life.t3111 = true → running = true)
    (h : movedOn state life = true) : movedOn state { life with t3111 := running } = true := by
  cases state with
  | actReq =>
    simp only [movedOn, LchanLife.late, or_eq_true] at h ⊢
    exact h.imp_left fun hlate => hlate.imp_right hrunning
  | relReq =>
    simp only [movedOn, LchanLife.late, or_eq_true] at h ⊢
    exact h.imp_right hrunning
  | _ => exact h

theorem NotLost.receive_iff (h : NotLost ch) (freq : TsFrequency) (chanNr : Octet) (msg : RslMsg) :
    NotLost (ch.receive freq chanNr msg) ↔ ch.keepsTimer msg = true := by
  -- what most messages leave behind is not lost
  have hkept {ch' : RadioChan} (h' : NotLost ch') : NotLost ch' ↔ true = true := ⟨fun _ => rfl, fun _ => h'⟩
  cases msg with
  | chanActivAck ieChan =>
    cases ieChan with
    | false => exact hkept h
    | true =>
      have hlchan : (ch.receive freq chanNr (.chanActivAck true)).lchan = { ch.lchan with state := .active } :=
        ch.rslRxChanActAck_lchan freq chanNr
      constructor
      · intro h'
        have hused := h'.used (by rw [hlchan])
        rw [hlchan] at hused
        exact decide_eq_true hused
      · intro htype
        refine ⟨fun _ hactive => absurd (by rw [hlchan]) hactive, fun hnone => ?_, fun _ => ?_⟩
        · rw [hlchan] at hnone
          cases hnone
        · rw [hlchan]
          exact of_decide_eq_true htype
  | chanActivNack ieChan cause givenUp =>
    cases ieChan with
    | false =>
      show NotLost (ch.setLife fun life => { life with actTimer := none }) ↔ _
      exact h.setLife_iff id
    | true => exact hkept (notLost_lchanFree _)
  | connFail => exact hkept (notLost_rslRfChanRelease fun _ => h)
  | rfChanRelAck => exact hkept (notLost_lchanFree _)
  | estInd linkId =>
    have hsapi : NotLost (ch.setSapi linkId 1) := h.same rfl rfl id h.moving
    show NotLost ((ch.setSapi linkId 1).setLife fun life => { life with t3101 := false }) ↔ _
    exact hsapi.setLife_iff id
  | estConf linkId => exact hkept (h.same rfl rfl id h.moving)
  | relInd linkId =>
    obtain ⟨outs, -, heq, hstarted⟩ := ch.sapiReleased_cases linkId
    refine hkept ?_
    show NotLost (ch.sapiReleased linkId)
    rw [heq]
    exact h.same rfl rfl id (movedOn_t3111 hstarted h.moving)
  | relConf linkId =>
    obtain ⟨outs, -, heq, hstarted⟩ := ch.sapiReleased_cases linkId
    refine hkept ?_
    show NotLost (ch.sapiReleased linkId)
    rw [heq]
    exact h.same rfl rfl id (movedOn_t3111 hstarted h.moving)
  | errorInd cause =>
    cases cause with
    | t200Expired => exact hkept (notLost_rslRfChanRelease fun _ => h)
    | other => exact hkept h

/-! ### Timers -/

theorem NotLost.t3101Expired (h : NotLost ch) : NotLost ch.t3101Expired := by
  refine notLost_rslRfChanRelease fun herr => h.same rfl rfl id ?_
  have hmoves := h.moving
  rw [show ch.lchan.state = .relErr from herr] at hmoves ⊢
  exact hmoves

theorem NotLost.t3111Expired (h : NotLost ch) : NotLost ch.t3111Expired := by
  unfold RadioChan.t3111Expired
  by_cases herr : ch.lchan.state = .relErr
  · rw [RadioChan.rslRfChanRelease_of_relErr _ _ (show (ch.setLife _).lchan.state = .relErr from herr)]
    refine h.same rfl rfl id ?_
    have hmoves := h.moving
    rw [herr] at hmoves ⊢
    exact hmoves
  · rw [RadioChan.rslRfChanRelease_normal _ (show (ch.setLife _).lchan.state ≠ .relErr from herr)]
    refine h.same rfl rfl id ?_
    have hmoves := h.moving
    cases hstate : ch.lchan.state with
    | inactive =>
      rw [hstate] at hmoves
      cases hmoves
    | relErr => exact absurd hstate herr
    | _ => rfl

theorem NotLost.errorTimeoutCb_iff (h : NotLost ch) : NotLost ch.errorTimeoutCb ↔
    ((ch.lchan.state ≠ .relErr) || (ch.lchan.type = .none) && ch.life.conn = none) = true := by
  rw [ch.errorTimeoutCb_eq]
  by_cases herr : ch.lchan.state = .relErr
  · rw [if_pos herr]
    simp only [herr, ne_eq, not_true_eq_false, decide_false, Bool.false_or, Bool.and_eq_true, decide_eq_true_eq]
    exact ⟨fun h' => h'.unused rfl, fun hunused => .of_unused rfl hunused.1 hunused.2⟩
  · rw [if_neg herr]
    simp only [herr, ne_eq, not_false_eq_true, decide_true, Bool.true_or, iff_true]
    refine h.same rfl rfl id ?_
    have hmoves := h.moving
    cases hstate : ch.lchan.state with
    | relErr => exact absurd hstate herr
    | _ =>
      rw [hstate] at hmoves
      exact hmoves

/-! ## The result -/

/-- **The step leaves a timer to every channel that needs one.** No channel is released, and no handover channel is
    activated, without a timer; no message and nobody else stops the only one; no channel is activated that nobody has
    allocated; the error timer does not expire before the channel was freed. -/
def keepsTimer (net : RadioNet) : RadioEvent → Bool
  | .rsl b trx chanNr msg => ((lookup b trx chanNr).bind net.chan?).all fun ch => ch.keepsTimer msg
  | .handover b type c sent => !sent || (net.allocated? (.handover b type c sent)).all fun id => (net.life id).late
  | .release id _ _ | .t10 id => (net.life id).late
  | .giveUp id | .t10Stopped id => (net.chan? id).all fun ch => movedOn ch.lchan.state { ch.life with t10 := false }
  | .errorTimer id =>
    (net.chan? id).all fun ch =>
      (ch.lchan.state ≠ .relErr) || (ch.lchan.type = .none) && ch.life.conn = none
  | _ => true

theorem NotLost.handled_iff (h : NotLost ch) (hget : net.chan? ch.id = some ch) (hh : Handled net ev ch ch') :
    NotLost ch' ↔ keepsTimer net ev = true := by
  obtain ⟨-, hlife, -⟩ := of_chan? hget
  have hkept {ch' : RadioChan} (h' : NotLost ch') : NotLost ch' ↔ true = true := ⟨fun _ => rfl, fun _ => h'⟩
  cases hh with
  | @rsl b trx chanNr _ msg hlookup =>
    have hkeep : keepsTimer net (.rsl b trx chanNr msg) = ch.keepsTimer msg := by
      show ((lookup b trx chanNr).bind net.chan?).all _ = _
      rw [hlookup, Option.bind_some, hget]
      rfl
    rw [hkeep]
    exact h.receive_iff _ _ msg
  | newConn c hstate hconn =>
    refine hkept ⟨fun _ hne => absurd hstate hne, fun heq => ?_, h.used⟩
    exact absurd (hstate.symm.trans heq) (by decide)
  | giveUp =>
    have hkeep : keepsTimer net (.giveUp ch.id) = movedOn ch.lchan.state { ch.life with t10 := false } := by
      show (net.chan? ch.id).all _ = _
      rw [hget]
      rfl
    rw [hkeep]
    show NotLost (ch.setLife fun life => { life with conn := none, t10 := false }) ↔ _
    exact h.setLife_iff fun _ => rfl
  | release _ sachDeact reason =>
    show _ ↔ (net.life ch.id).late = true
    rw [← hlife]
    exact notLost_lchanRelease_iff ch sachDeact reason
  | t10Stopped =>
    have hkeep : keepsTimer net (.t10Stopped ch.id) = movedOn ch.lchan.state { ch.life with t10 := false } := by
      show (net.chan? ch.id).all _ = _
      rw [hget]
      rfl
    rw [hkeep]
    show NotLost (ch.setLife fun life => { life with t10 := false }) ↔ _
    exact h.setLife_iff fun hconn => hconn
  | t10 =>
    show _ ↔ (net.life ch.id).late = true
    rw [← hlife]
    exact notLost_lchanRelease_iff ch false 1
  | actTimer => exact hkept (notLost_lchanFree _)
  | t3101 => exact hkept h.t3101Expired
  | t3111 => exact hkept h.t3111Expired
  | errorTimer =>
    have hkeep : keepsTimer net (.errorTimer ch.id) =
        ((ch.lchan.state ≠ .relErr) || (ch.lchan.type = .none) && ch.life.conn = none) := by
      show (net.chan? ch.id).all _ = _
      rw [hget]
      rfl
    rw [hkeep]
    exact h.errorTimeoutCb_iff

/-- A handler works on a channel: the others are not lost anyway. -/
theorem NoneLost.put_iff (h : NoneLost net) (hget : net.chan? ch.id = some ch) (ch' : RadioChan) :
    NoneLost (net.put ch.id ch') ↔ NotLost ch' := by
  constructor
  · intro h'
    have hch' := h' ch.id { id := ch.id, lchan := ch'.lchan, life := ch'.life } (by rw [chan?_put hget, if_pos rfl])
    exact ⟨hch'.moves, hch'.unused, hch'.used⟩
  · intro hch' id found hfound
    rw [chan?_put hget] at hfound
    split at hfound
    · cases hfound
      exact ⟨hch'.moves, hch'.unused, hch'.used⟩
    · exact h id found hfound

theorem NoneLost.activated_iff (h : NoneLost net) {id : ChanId} {type : GsmChan} {f : RadioChan → RadioChan}
    (ha : Activated net net' id ch type f) :
    NoneLost net' ↔ NotLost (f { ch with lchan := ch.lchan.allocate type }) := by
  constructor
  · intro h'
    have hch' := h' id _ (by rw [ha.chan, if_pos rfl])
    exact ⟨hch'.moves, hch'.unused, hch'.used⟩
  · intro hch' i found hfound
    rw [ha.chan] at hfound
    split at hfound
    · cases hfound
      exact ⟨hch'.moves, hch'.unused, hch'.used⟩
    · exact h i found hfound

/-- A channel that is activated for a connection has T10, or a timer that runs from before. -/
theorem notLost_activateForConn_iff (ch : RadioChan) (c : Nat) (t10 sent : Bool) :
    NotLost (ch.activateForConn c t10 sent) ↔ (!sent || t10 || ch.life.late) = true := by
  cases sent with
  | false => exact ⟨fun _ => rfl, fun _ => notLost_lchanFree ch⟩
  | true =>
    simp only [Bool.not_true, Bool.false_or]
    constructor
    · intro h
      have hmoves : (ch.life.late || t10) = true := h.moves LchanState.noConfusion LchanState.noConfusion
      rwa [Bool.or_comm]
    · intro h
      rw [Bool.or_comm] at h
      exact .of_waiting LchanState.noConfusion LchanState.noConfusion h

theorem NotLost.trxReset (h : NotLost ch) : NotLost ch.trxReset := by
  refine .of_unused rfl rfl ?_
  show (if ch.lchan.state ≠ .none then ch.lchanFree else ch).life.conn = none
  by_cases hstate : ch.lchan.state = .none
  · rw [if_neg (not_not.mpr hstate)]
    exact (h.unused hstate).2
  · rw [if_pos hstate, ch.lchanFree_eq]

/-- **The step.** No channel is lost in it exactly if it leaves a timer to every channel that needs one. -/
theorem NoneLost.step_iff (h : NoneLost net) (hstep : net.step ev = some net') :
    NoneLost net' ↔ keepsTimer net ev = true := by
  have hkept {net' : RadioNet} (h' : NoneLost net') : NoneLost net' ↔ true = true := ⟨fun _ => rfl, fun _ => h'⟩
  cases stepped_of_step hstep with
  | handled hget hh => exact (h.put_iff hget _).trans ((h _ _ hget).handled_iff hget hh)
  | quiet hsame hev halloc =>
    have hkeep : keepsTimer net ev = true := by
      cases ev with
      | handover b type c sent =>
        show (!sent || (net.allocated? _).all _) = true
        rw [halloc, Option.all_none, Bool.or_true]
      | chanRqd | assign | nmTrx | nmTs | pdch => rfl
      | _ => cases hev
    exact ⟨fun _ => hkeep, fun _ id ch hget => h id ch (hsame.chan id ▸ hget)⟩
  | reset =>
    refine hkept (trxReset_keeps (fun net id ch h hget => ?_) _ _ h)
    obtain ⟨rfl, -⟩ := of_chan? hget
    exact (h.put_iff hget _).mpr (h _ _ hget).trxReset
  | rejected halloc hparse hchan => exact hkept fun id ch hget => h id ch (hchan id ▸ hget)
  | requested halloc hparse ha =>
    refine hkept ((h.activated_iff ha).mpr ?_)
    exact .of_waiting LchanState.noConfusion LchanState.noConfusion rfl
  | @activated _ c t10 sent id ch type type' _ hev halloc ha =>
    rw [h.activated_iff ha, notLost_activateForConn_iff]
    obtain ⟨-, hlife, -⟩ := of_chan? ha.get
    cases t10 with
    | true =>
      subst hev
      simp [keepsTimer]
    | false =>
      subst hev
      change net.allocated? (.handover id.bts type' c sent) = some id at halloc
      show _ ↔ keepsTimer net (.handover id.bts type' c sent) = true
      have hkeep : keepsTimer net (.handover id.bts type' c sent) = (!sent || (net.life id).late) := by
        show (!sent || (net.allocated? _).all _) = _
        rw [halloc]
        rfl
      rw [hkeep, ← hlife, Bool.or_false]

end OpenBsc.Libbsc
