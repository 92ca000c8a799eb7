import OpenBsc.Bssgp.FlowConformance
import OpenBsc.Bssgp.Receive

/-!
# `Bssgp.DrainTimer` — whether the timer of an entity expires when the first PDU can go

The timer is computed from the length of a PDU and the leak rate alone, in whole milliseconds, and is not computed again
when a FLOW-CONTROL-BVC changes the bucket. The bucket test counts whole centiseconds since the last transmission, in 32
bits. `Drains` is what the two owe each other: in every state where a PDU waits, computing the timer is neither a
division by zero nor an overflow, and if nothing else is transmitted the first PDU passes the test when the timer
expires.

It fails before the first FLOW-CONTROL-BVC, whose leak rate of zero is divided by, and after one with a rate of zero; in
an entity as it is allocated, where nothing can be queued; where what is read at the list head is not the length of the
first PDU; where the centiseconds leave more of the PDU than the bucket has room for; where a PDU overtakes those that
wait; and where the bucket changes while the timer runs. `StepInTime` excludes these, and `drainsThroughout` is the
rest.
-/

namespace OpenBsc.Bssgp

open LlistHead List

variable {μ : Type}

/-! ## Runs -/

theorem usec_mod_lt (n : Nat) : n % 1000000 < 1000000 := Nat.mod_lt n (by omega)

/-- The time after a delay. -/
def Timeval.after (t : Timeval) (delay : Nat × Nat) : Timeval :=
  ⟨t.sec + delay.1 + ((t.usec + delay.2) / 1000000 : Nat), (t.usec + delay.2) % 1000000, usec_mod_lt _⟩

/-- What a FLOW-CONTROL-BVC says of the bucket of a BVC, in hundreds of octets; `bssgp_fc_ms_init` sets that of a
    station from the same PDU. -/
def BssgpFlowControl.setBucket (fc : BssgpFlowControl μ) (size leak : BitVec 16) : BssgpFlowControl μ :=
  { fc with bucketSizeMax := 100 * size.toNat, bucketLeakRate := 100 * leak.toNat }

/-- What happens to an entity. Each call reads the clock twice at most, the second time when it schedules the timer or
    records a transmission. -/
inductive DrainEvent (μ : Type) where
  | flowControl (size leak : BitVec 16)
  | pdu (timeNow timeThen : Timeval) (fcqe : BssgpFcQueueElement μ)
  | expiry (timeNow timeThen : Timeval)

/-- An entity, when its timer was scheduled last, and the length that was read at the list head for that. -/
structure DrainState (μ : Type) where
  fc : BssgpFlowControl μ
  armed : Timeval
  read : Nat

/-- The entity whose timer is not scheduled. -/
def BssgpFlowControl.disarmed (fc : BssgpFlowControl μ) : BssgpFlowControl μ := { fc with timer := none }

section Runs

variable (headElement : BssgpFlowControl μ → BssgpFcQueueElement μ)

/-- After `bssgp_fc_in`. The timer was scheduled if nothing is output, for what was read before it was. -/
def DrainState.afterInput (st : DrainState μ) (timeThen : Timeval)
    (r : BssgpFlowControl μ × List (BssgpFcQueueElement μ)) : DrainState μ :=
  if r.2.isEmpty then
    { fc := r.1, armed := timeThen, read := (headElement { r.1 with timer := st.fc.timer }).llcPduLen }
  else { st with fc := r.1 }

/-- After `fc_timer_cb`. -/
def afterExpiry (timeThen : Timeval) (r : BssgpFlowControl μ × List (BssgpFcQueueElement μ)) : DrainState μ :=
  { fc := r.1, armed := timeThen, read := (headElement r.1.disarmed).llcPduLen }

/-- One event. A timer fires once. -/
def drainStep (st : DrainState μ) : DrainEvent μ → FcResult μ (DrainState μ)
  | .flowControl size leak => .ok { st with fc := st.fc.setBucket size leak }
  | .pdu timeNow timeThen fcqe =>
    (bssgpFcIn headElement st.fc timeNow timeThen fcqe).map (st.afterInput headElement timeThen)
  | .expiry timeNow timeThen =>
    if st.fc.timer.isSome then (fcTimerCb headElement st.fc.disarmed timeNow).map (afterExpiry headElement timeThen)
    else .ok st

/-- A sequence of events, up to the death of the process if there is one. -/
def drainRun (st : DrainState μ) : List (DrainEvent μ) → FcResult μ (DrainState μ)
  | [] => .ok st
  | ev :: evs => (drainStep headElement st ev).bind fun st => drainRun st evs

end Runs

/-! ## Words -/

/-- **What the timer owes a state.** While a PDU waits the leak rate is not zero, the timer was computed without an
    overflow, and when it expires the first PDU need not be queued. -/
def Drains (st : DrainState μ) : Prop :=
  ∀ head ∈ st.fc.queue.toList.head?,
    st.fc.bucketLeakRate ≠ 0 ∧ st.read * 1000 < 2 ^ 32 ∧
      ∃ delay, st.fc.timer = some delay ∧
        (bssgpFcNeedsQueueing st.fc (st.armed.after delay) head.llcPduLen).1 = false

variable {st : DrainState μ} {timeNow timeThen : Timeval} {fcqe : BssgpFcQueueElement μ}

section Words

variable (headElement : BssgpFlowControl μ → BssgpFcQueueElement μ)

/-- Every state that is reached is as it has to be, and where the process ends it does so after an output. -/
def DrainsThroughout (st : DrainState μ) (evs : List (DrainEvent μ)) : Prop :=
  ∀ pre, pre <+: evs →
    match drainRun headElement st pre with
    | .ok st' => Drains st'
    | .error out => out ≠ []

/-- The whole centiseconds of a timer for a PDU of this length. -/
def timerCsecs (fc : BssgpFlowControl μ) (len : Nat) : Nat := len * 1000 / fc.bucketLeakRate / 10

/-- What leaks in them. -/
def timerOctets (fc : BssgpFlowControl μ) (len : Nat) : Nat := timerCsecs fc len * (fc.bucketLeakRate / 100)

/-- A PDU for which the timer is scheduled at `t` leaks in time: the clock has not gone back since the last
    transmission, nothing overflows until the timer expires, and what its whole centiseconds leave of the PDU has room
    in the bucket, or the bucket is emptied. -/
structure LeaksInTime (fc : BssgpFlowControl μ) (t : Timeval) (len : Nat) : Prop where
  fits : len * 1000 < 2 ^ 32
  forward : 0 ≤ elapsedCsecs fc t
  inBits : (elapsedCsecs fc t + timerCsecs fc len + 1) * (fc.bucketLeakRate / 100 : Nat) < 2 ^ 32
  sum_lt : fc.bucketCounter + len < 2 ^ 32
  room : fc.bucketCounter + (len - timerOctets fc len : Int) ≤ fc.bucketSizeMax + octetsLeaked fc t ∨
    (fc.bucketCounter : Int) < octetsLeaked fc t + timerOctets fc len

/-- What is read at the list head is the length of the first PDU that waits, and that leaks in time. -/
def InTime (fc : BssgpFlowControl μ) (t : Timeval) : Prop :=
  ∀ head ∈ fc.queue.toList.head?, (headElement fc).llcPduLen = head.llcPduLen ∧ LeaksInTime fc t head.llcPduLen

/-- At the time `t` the bucket has room for a PDU of this length, or is emptied, and nothing has overflowed. -/
structure RoomAt (fc : BssgpFlowControl μ) (t : Timeval) (len : Nat) : Prop where
  forward : 0 ≤ elapsedCsecs fc t
  inBits : octetsLeaked fc t < 2 ^ 32
  sum_lt : fc.bucketCounter + len < 2 ^ 32
  room : (fc.bucketCounter + len : Int) ≤ fc.bucketSizeMax + octetsLeaked fc t ∨
    (fc.bucketCounter : Int) < octetsLeaked fc t

/-- The condition on an event. While a PDU waits, a new bucket leaks and has room for it by the end of the timer that
    runs, and nothing overtakes it; a PDU that has to wait can be queued, and the first one leaks in time; a timer that
    is scheduled again is so for a PDU that leaks in time. -/
def StepInTime (st : DrainState μ) : DrainEvent μ → Prop
  | .flowControl size leak =>
    ∀ head ∈ st.fc.queue.toList.head?, leak ≠ 0 ∧
      ∀ delay ∈ st.fc.timer, RoomAt (st.fc.setBucket size leak) (st.armed.after delay) head.llcPduLen
  | .pdu timeNow timeThen fcqe =>
    if PassesOn st.fc timeNow fcqe.llcPduLen then st.fc.queue.toList = []
    else CanQueue st.fc ∧ InTime headElement (fcQueued st.fc fcqe) timeThen
  | .expiry timeNow timeThen =>
    st.fc.timer.isSome = true →
      ¬ PassesOn st.fc.disarmed timeNow (headElement st.fc.disarmed).llcPduLen →
        InTime headElement st.fc.disarmed timeThen

/-- Every event of the run meets the condition. -/
def EachInTime (st : DrainState μ) : List (DrainEvent μ) → Prop
  | [] => True
  | ev :: evs =>
    StepInTime headElement st ev ∧
      match drainStep headElement st ev with
      | .ok st' => EachInTime st' evs
      | .error _ => True

variable {headElement}

theorem stepInTime_passes (hpass : PassesOn st.fc timeNow fcqe.llcPduLen) (hnone : st.fc.queue.toList = []) :
    StepInTime headElement st (.pdu timeNow timeThen fcqe) := by
  unfold StepInTime
  dsimp only
  rw [if_pos hpass]
  exact hnone

theorem stepInTime_queues (hpass : ¬ PassesOn st.fc timeNow fcqe.llcPduLen) (hqueue : CanQueue st.fc)
    (htime : InTime headElement (fcQueued st.fc fcqe) timeThen) :
    StepInTime headElement st (.pdu timeNow timeThen fcqe) := by
  unfold StepInTime
  dsimp only
  rw [if_neg hpass]
  exact ⟨hqueue, htime⟩

end Words

/-! ## Arithmetic -/

theorem micros_after (t : Timeval) (delay : Nat × Nat) :
    (t.after delay).micros = t.micros + 1000000 * delay.1 + delay.2 := by
  unfold Timeval.after Timeval.micros
  dsimp only
  omega

variable {fc : BssgpFlowControl μ} {t : Timeval}

/-- **Where there is room, the first PDU passes.** -/
theorem RoomAt.passesOn {len : Nat} (h : RoomAt fc t len) (hdepth : fc.queueDepth = 0) : PassesOn fc t len := by
  have hpos : 0 ≤ octetsLeaked fc t := mul_nonneg h.forward (Int.natCast_nonneg _)
  have hleaked : (leaked fc t : Int) = octetsLeaked fc t := by
    rw [leaked_eq]
    exact Int.emod_eq_of_lt hpos h.inBits
  have hsum : (fc.bucketCounter + len) % 2 ^ 32 = fc.bucketCounter + len := Nat.mod_eq_of_lt h.sum_lt
  refine ⟨hdepth, ?_⟩
  unfold BucketAdmits bucketPredicted
  rw [hleaked, hsum]
  rcases h.room with hroom | hemptied
  · exact .inr (by omega)
  · exact .inl (by omega)

/-- The whole centiseconds until the timer expires: those before it was scheduled, those of the timer, and one more at
    most. -/
theorem elapsedCsecs_expiry (fc : BssgpFlowControl μ) {len : Nat} (hfits : len * 1000 < 2 ^ 32) (t : Timeval) :
    elapsedCsecs fc t + timerCsecs fc len ≤ elapsedCsecs fc (t.after (fcDelay fc len)) ∧
      elapsedCsecs fc (t.after (fcDelay fc len)) ≤ elapsedCsecs fc t + timerCsecs fc len + 1 := by
  have hmsecs : len * 1000 % 2 ^ 32 = len * 1000 := Nat.mod_eq_of_lt hfits
  unfold elapsedCsecs timerCsecs
  rw [micros_after]
  unfold fcDelay
  dsimp only
  rw [hmsecs]
  generalize len * 1000 / fc.bucketLeakRate = msecs
  omega

/-- **What leaks in time has room when the timer expires.** -/
theorem LeaksInTime.roomAt {len : Nat} (h : LeaksInTime fc t len) : RoomAt fc (t.after (fcDelay fc len)) len := by
  obtain ⟨hlow, hhigh⟩ := elapsedCsecs_expiry fc h.fits t
  have hforward := h.forward
  have hrate : (0 : Int) ≤ (fc.bucketLeakRate / 100 : Nat) := Int.natCast_nonneg _
  have hleaks : octetsLeaked fc t + timerOctets fc len ≤ octetsLeaked fc (t.after (fcDelay fc len)) := by
    have hmul := mul_le_mul_of_nonneg_right hlow hrate
    unfold octetsLeaked timerOctets
    rw [Int.natCast_mul, ← add_mul]
    exact hmul
  refine ⟨by omega, ?_, h.sum_lt, ?_⟩
  · exact lt_of_le_of_lt (mul_le_mul_of_nonneg_right hhigh hrate) h.inBits
  · rcases h.room with hroom | hemptied
    · exact .inl (by omega)
    · exact .inr (by omega)

/-- With a rate in hundreds of octets, what the centiseconds leave is the remainder of the length by the rate. -/
theorem timerOctets_hundreds {leak : Nat} (hrate : fc.bucketLeakRate = 100 * leak) (len : Nat) :
    timerOctets fc len = len - len % leak := by
  have hcsecs : timerCsecs fc len = len / leak := by
    unfold timerCsecs
    rw [hrate, Nat.div_div_eq_div_mul]
    have hswap : 100 * leak * 10 = leak * 1000 := by ring
    rw [hswap]
    exact Nat.mul_div_mul_right len leak (by omega)
  have hhundred : fc.bucketLeakRate / 100 = leak := by
    rw [hrate]
    exact Nat.mul_div_cancel_left leak (by omega)
  unfold timerOctets
  rw [hcsecs, hhundred]
  have hsum := Nat.div_add_mod' len leak
  omega

/-- **What the truncation costs.** After a FLOW-CONTROL-BVC a PDU leaks in time if the bucket has room for what is left
    of it in centiseconds. -/
theorem leaksInTime_of_remainder {leak len : Nat} (hrate : fc.bucketLeakRate = 100 * leak)
    (hfits : len * 1000 < 2 ^ 32) (hforward : 0 ≤ elapsedCsecs fc t)
    (hbits : (elapsedCsecs fc t + timerCsecs fc len + 1) * (fc.bucketLeakRate / 100 : Nat) < 2 ^ 32)
    (hsum : fc.bucketCounter + len < 2 ^ 32) (hroom : fc.bucketCounter + len % leak ≤ fc.bucketSizeMax) :
    LeaksInTime fc t len := by
  have hpos : 0 ≤ octetsLeaked fc t := mul_nonneg hforward (Int.natCast_nonneg _)
  have hle : len % leak ≤ len := Nat.mod_le len leak
  refine ⟨hfits, hforward, hbits, hsum, .inl ?_⟩
  rw [timerOctets_hundreds hrate]
  omega

/-! ## Steps and runs -/

/-- What the runs keep: nothing is counted as queued, a timer runs for a list only, and where a PDU waits the timer was
    computed well and there is room for the PDU when it expires. -/
structure Served (st : DrainState μ) : Prop where
  depth : st.fc.queueDepth = 0
  linked : st.fc.timer.isSome = true → st.fc.queue.isLinked = true
  room : ∀ head ∈ st.fc.queue.toList.head?,
    st.fc.bucketLeakRate ≠ 0 ∧ st.read * 1000 < 2 ^ 32 ∧
      ∃ delay, st.fc.timer = some delay ∧ RoomAt st.fc (st.armed.after delay) head.llcPduLen

theorem Served.drains (h : Served st) : Drains st := by
  intro head hhead
  obtain ⟨hrate, hread, delay, htimer, hroom⟩ := h.room head hhead
  have hpasses := hroom.passesOn h.depth
  exact ⟨hrate, hread, delay, htimer, (needsQueueing_iff hpasses.1 _ _).mpr hpasses.2⟩

theorem Served.of_fresh (h : FcFresh fc) (armed : Timeval) (read : Nat) :
    Served ⟨fc, armed, read⟩ where
  depth := h.depth
  linked htimer := by
    rw [show (DrainState.mk fc armed read).fc.timer = none from h.timer] at htimer
    cases htimer
  room head hhead := by
    rw [show (DrainState.mk fc armed read).fc.queue.toList = [] from h.toList_eq] at hhead
    cases hhead

section Steps

variable {headElement : BssgpFlowControl μ → BssgpFcQueueElement μ}

theorem served_scheduled {l : List (BssgpFcQueueElement μ)} (hdepth : fc.queueDepth = 0)
    (hqueue : fc.queue = .linked l) (hrate : fc.bucketLeakRate ≠ 0) (htime : InTime headElement fc t) :
    Served ⟨fcScheduled headElement fc, t, (headElement fc).llcPduLen⟩ where
  depth := hdepth
  linked _ := congrArg isLinked hqueue
  room head hhead := by
    obtain ⟨hlen, hleaks⟩ := htime head hhead
    have hroom : RoomAt fc (t.after (fcDelay fc (headElement fc).llcPduLen)) head.llcPduLen := by
      rw [hlen]
      exact hleaks.roomAt
    refine ⟨hrate, ?_, _, rfl, ⟨hroom.forward, hroom.inBits, hroom.sum_lt, hroom.room⟩⟩
    show (headElement fc).llcPduLen * 1000 < 2 ^ 32
    rw [hlen]
    exact hleaks.fits

theorem served_flowControl (h : Served st) {size leak : BitVec 16}
    (hstep : StepInTime headElement st (.flowControl size leak)) :
    Served { st with fc := st.fc.setBucket size leak } where
  depth := h.depth
  linked := h.linked
  room head hhead := by
    obtain ⟨-, hread, delay, htimer, -⟩ := h.room head hhead
    obtain ⟨hleak, hroom⟩ := hstep head hhead
    refine ⟨?_, hread, delay, htimer, hroom delay htimer⟩
    show 100 * leak.toNat ≠ 0
    have hne : leak.toNat ≠ 0 := fun hzero => hleak (BitVec.eq_of_toNat_eq hzero)
    omega

/-- Nothing waits where a PDU is handed on at once. -/
theorem served_passed (h : Served st) (hnone : st.fc.queue.toList = []) (timeNow timeThen : Timeval) (len : Nat) :
    Served { st with fc := fcPassed st.fc timeNow timeThen len } := by
  obtain ⟨level, hlevel⟩ := needsQueueing_frame st.fc timeNow len
  unfold fcPassed
  rw [hlevel]
  refine ⟨h.depth, h.linked, fun head hhead => ?_⟩
  have hsome : st.fc.queue.toList.head? = some head := hhead
  rw [hnone] at hsome
  cases hsome

theorem served_pdu (h : Served st) (hstep : StepInTime headElement st (.pdu timeNow timeThen fcqe)) :
    ∃ st', drainStep headElement st (.pdu timeNow timeThen fcqe) = .ok st' ∧ Served st' := by
  have hcond : if PassesOn st.fc timeNow fcqe.llcPduLen then st.fc.queue.toList = []
      else CanQueue st.fc ∧ InTime headElement (fcQueued st.fc fcqe) timeThen := hstep
  have hinput : drainStep headElement st (.pdu timeNow timeThen fcqe) =
      (bssgpFcIn headElement st.fc timeNow timeThen fcqe).map (st.afterInput headElement timeThen) := rfl
  rw [hinput]
  by_cases hpass : PassesOn st.fc timeNow fcqe.llcPduLen
  · rw [if_pos hpass] at hcond
    rw [fcIn_passesOn headElement timeThen hpass]
    exact ⟨_, rfl, served_passed h hcond timeNow timeThen fcqe.llcPduLen⟩
  · rw [if_neg hpass] at hcond
    obtain ⟨hqueue, htime⟩ := hcond
    rw [fcIn_queues headElement timeThen hpass hqueue]
    exact ⟨_, rfl, served_scheduled h.depth rfl hqueue.2 htime⟩

theorem fcTimerCb_empty (hempty : fc.queue.empty = true) (timeNow : Timeval) :
    fcTimerCb headElement fc timeNow = .ok (fc, []) := by
  unfold fcTimerCb
  rw [if_pos hempty]

/-- The element at the list head is output, and the process ends. -/
theorem fcTimerCb_passesOn (hempty : fc.queue.empty = false) (hpass : PassesOn fc timeNow (headElement fc).llcPduLen) :
    fcTimerCb headElement fc timeNow = .error [headElement fc] := by
  have hneeds := (needsQueueing_iff hpass.1 timeNow _).mpr hpass.2
  unfold fcTimerCb
  rw [hempty, if_neg Bool.false_ne_true]
  dsimp only
  generalize bssgpFcNeedsQueueing fc timeNow (headElement fc).llcPduLen = r at hneeds ⊢
  obtain ⟨b, fc'⟩ := r
  subst hneeds
  rfl

theorem fcTimerCb_scheduled (hempty : fc.queue.empty = false) (hrate : fc.bucketLeakRate ≠ 0)
    (hpass : ¬ PassesOn fc timeNow (headElement fc).llcPduLen) :
    fcTimerCb headElement fc timeNow = .ok (fcScheduled headElement fc, []) := by
  unfold fcTimerCb
  rw [hempty, if_neg Bool.false_ne_true]
  dsimp only
  rw [needsQueueing_of_not_passesOn hpass]
  exact congrArg (Except.map _) (fcQueueTimerCfg_scheduled headElement hempty hrate)

/-- An expiry schedules the timer again, or the process ends after an output. -/
theorem served_expiry (h : Served st) (hstep : StepInTime headElement st (.expiry timeNow timeThen)) :
    (∃ st', drainStep headElement st (.expiry timeNow timeThen) = .ok st' ∧ Served st') ∨
      ∃ out, drainStep headElement st (.expiry timeNow timeThen) = .error out ∧ out ≠ [] := by
  have hexpiry : drainStep headElement st (.expiry timeNow timeThen) =
      if st.fc.timer.isSome then (fcTimerCb headElement st.fc.disarmed timeNow).map (afterExpiry headElement timeThen)
      else .ok st := rfl
  rw [hexpiry]
  by_cases htimer : st.fc.timer.isSome = true
  · have hlinked := h.linked htimer
    rw [if_pos htimer]
    cases hq : st.fc.queue with
    | null | unlinked =>
      rw [hq] at hlinked
      cases hlinked
    | linked l =>
      cases l with
      | nil =>
        have hempty : st.fc.disarmed.queue.empty = true := congrArg empty hq
        have hnone : st.fc.disarmed.queue.toList = [] := congrArg toList hq
        rw [fcTimerCb_empty hempty]
        refine .inl ⟨_, rfl, h.depth, fun hsome => absurd hsome Bool.false_ne_true, fun head hhead => ?_⟩
        have hsome : st.fc.disarmed.queue.toList.head? = some head := hhead
        rw [hnone] at hsome
        cases hsome
      | cons first l =>
        have hempty : st.fc.disarmed.queue.empty = false := congrArg empty hq
        have hfirst : st.fc.queue.toList.head? = some first := congrArg (fun q => q.toList.head?) hq
        have hrate : st.fc.disarmed.bucketLeakRate ≠ 0 := (h.room first hfirst).1
        by_cases hpass : PassesOn st.fc.disarmed timeNow (headElement st.fc.disarmed).llcPduLen
        · rw [fcTimerCb_passesOn hempty hpass]
          exact .inr ⟨_, rfl, cons_ne_nil _ _⟩
        · rw [fcTimerCb_scheduled hempty hrate hpass]
          exact .inl ⟨_, rfl, served_scheduled h.depth hq hrate (hstep htimer hpass)⟩
  · rw [if_neg htimer]
    exact .inl ⟨st, rfl, h⟩

/-- **One event.** The entity is served well after it, or the process has ended after an output. -/
theorem served_step (h : Served st) {ev : DrainEvent μ} (hstep : StepInTime headElement st ev) :
    (∃ st', drainStep headElement st ev = .ok st' ∧ Served st') ∨
      ∃ out, drainStep headElement st ev = .error out ∧ out ≠ [] := by
  cases ev with
  | flowControl size leak => exact .inl ⟨_, rfl, served_flowControl h hstep⟩
  | pdu timeNow timeThen fcqe => exact .inl (served_pdu h hstep)
  | expiry timeNow timeThen => exact served_expiry h hstep

theorem drainRun_cons (st : DrainState μ) (ev : DrainEvent μ) (evs : List (DrainEvent μ)) :
    drainRun headElement st (ev :: evs) = (drainStep headElement st ev).bind fun st =>
      drainRun headElement st evs := rfl

/-- **Whole runs**, by induction over the events. -/
theorem served_run {evs : List (DrainEvent μ)} : ∀ {st : DrainState μ}, Served st → EachInTime headElement st evs →
    DrainsThroughout headElement st evs := by
  induction evs with
  | nil =>
    intro st h _ pre hpre
    rw [prefix_nil.mp hpre]
    exact h.drains
  | cons ev evs ih =>
    intro st h heach pre hpre
    obtain ⟨hstep, hrest⟩ := heach
    cases pre with
    | nil => exact h.drains
    | cons e pre =>
      obtain ⟨rfl, htail⟩ := cons_prefix_cons.mp hpre
      rcases served_step h hstep with ⟨st', hst', hserved⟩ | ⟨out, hout, hne⟩
      · rw [hst'] at hrest
        have hrun : drainRun headElement st (e :: pre) = drainRun headElement st' pre := by
          rw [drainRun_cons, hst']
          rfl
        rw [hrun]
        exact ih hserved hrest pre htail
      · have hrun : drainRun headElement st (e :: pre) = .error out := by
          rw [drainRun_cons, hout]
          rfl
        rw [hrun]
        exact hne

/-- **A run whose events meet the condition drains throughout**, whatever the bucket, the PDUs and the clock. -/
theorem drainsThroughout {fc : BssgpFlowControl μ} (h : FcFresh fc) (armed : Timeval) (read : Nat)
    {evs : List (DrainEvent μ)} (heach : EachInTime headElement ⟨fc, armed, read⟩ evs) :
    DrainsThroughout headElement ⟨fc, armed, read⟩ evs :=
  served_run (Served.of_fresh h armed read) heach

end Steps

/-! ## Four runs -/

def timerZero : Timeval := ⟨0, 0, zero_usec_lt⟩

/-- A day in June 2012. -/
def timeOfDay : Timeval := ⟨1340000000, 0, zero_usec_lt⟩

/-- An entity before any FLOW-CONTROL-BVC. -/
def fcUnset (queue : LlistHead (BssgpFcQueueElement Nat)) : BssgpFlowControl Nat :=
  { bucketSizeMax := 0, bucketLeakRate := 0, bucketCounter := 0, timeLastPdu := timerZero, maxQueueDepth := 0,
    queueDepth := 0, queue := queue, timer := none }

/-- A memory in which the first PDU is found at the list head. -/
def firstElement (fc : BssgpFlowControl Nat) : BssgpFcQueueElement Nat := fc.queue.toList.headD ⟨0, 0, 0⟩

/-- A PDU on that day. -/
def arrival (len : Nat) : DrainEvent Nat := .pdu timeOfDay timeOfDay ⟨0, len, 0⟩

/-- A bucket of 100 octets that leaks 100 octets a second: two PDUs of 80 octets pass, the first of them uncounted, and
    50 octets wait for half a second. -/
theorem drainsThroughout_half :
    DrainsThroughout firstElement ⟨fcUnset (.linked []), timerZero, 0⟩
      [.flowControl 1 1, arrival 80, arrival 80, arrival 50] := by
  refine drainsThroughout ⟨.inr rfl, rfl, rfl⟩ timerZero 0 ⟨?_, ?_, ?_, ?_, trivial⟩
  · intro head hhead
    cases hhead
  · exact stepInTime_passes (by decide) rfl
  · exact stepInTime_passes (by decide) rfl
  · refine stepInTime_queues (by decide) (by decide) fun head hhead => ?_
    cases hhead
    exact ⟨rfl, @leaksInTime_of_remainder _ _ _ 1 _ rfl (by decide) (by decide) (by decide) (by decide) (by decide)⟩

/-- Before the first FLOW-CONTROL-BVC a PDU is the end of the process: as the entity is allocated its list head is null,
    and with an initialised one the timer is a division by zero. After one, with a rate of 3000 octets a second, the
    timer for 100 octets expires when 90 have leaked. -/
theorem not_drainsThroughout :
    ¬ DrainsThroughout firstElement ⟨fcUnset .null, timerZero, 0⟩ [arrival 100] ∧
      ¬ DrainsThroughout firstElement ⟨fcUnset (.linked []), timerZero, 0⟩ [arrival 100] ∧
        ¬ DrainsThroughout firstElement ⟨fcUnset (.linked []), timerZero, 0⟩
          [.flowControl 1 30, arrival 100, arrival 100, arrival 100] := by
  refine ⟨fun h => ?_, fun h => ?_, fun h => ?_⟩
  · have hlast : ([] : List (BssgpFcQueueElement Nat)) ≠ [] := h _ prefix_rfl
    exact hlast rfl
  · have hlast : ([] : List (BssgpFcQueueElement Nat)) ≠ [] := h _ prefix_rfl
    exact hlast rfl
  · have hlast := h _ prefix_rfl ⟨0, 100, 0⟩ rfl
    obtain ⟨-, -, delay, htimer, hpasses⟩ := hlast
    cases htimer
    exact absurd hpasses (by decide)

end OpenBsc.Bssgp
