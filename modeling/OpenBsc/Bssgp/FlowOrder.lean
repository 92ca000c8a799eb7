import OpenBsc.Bssgp.FlowControl

/-!
# `Bssgp.FlowOrder` — order and accounting of one flow-control entity

`FcTrace.InOrder` is what flow control owes its user in every state: what was output, followed by what
still waits, is what was accepted; the depth counter counts the queue within its bound; and a waiting
PDU has the timer running. `FcKeepsOrder` says so of every prefix of a run, the survival of the process
included.

`bssgp_fc_in` never counts what it queues, so the property lasts exactly as long as nothing has to wait
(`fcKeepsOrder_iff`).
-/

namespace OpenBsc.Bssgp

open LlistHead List

variable {μ : Type} (headElement : BssgpFlowControl μ → BssgpFcQueueElement μ)

/-- What flow control owes its user in a state of a run. -/
structure FcTrace.InOrder (st : FcTrace μ) : Prop where
  order : st.accepted = st.output ++ st.fc.queue.toList
  depth : st.fc.queueDepth = st.fc.queue.toList.length
  bound : st.fc.queueDepth ≤ st.fc.maxQueueDepth
  armed : st.fc.queue.toList ≠ [] → st.fc.timer.isSome

/-- Every prefix of the run ends alive, in a state that is in order. -/
def FcKeepsOrder (st : FcTrace μ) (evs : List (FcEvent μ)) : Prop :=
  ∀ pre, pre <+: evs → ∃ st', fcRun headElement st pre = .ok st' ∧ st'.InOrder

/-- An entity nothing was queued in yet: as `talloc_zero` leaves it, or with an initialised list head. -/
structure FcFresh (fc : BssgpFlowControl μ) : Prop where
  queue : fc.queue = .null ∨ fc.queue = .linked []
  depth : fc.queueDepth = 0
  timer : fc.timer = none

/-- The entity after a PDU went straight through. -/
def fcPassed (fc : BssgpFlowControl μ) (timeNow timeSent : Timeval) (pduLen : Nat) :
    BssgpFlowControl μ :=
  { (bssgpFcNeedsQueueing fc timeNow pduLen).2 with timeLastPdu := timeSent }

/-- Every PDU of the run finds room in the bucket when it arrives. -/
def EachAdmitted (fc : BssgpFlowControl μ) : List (FcEvent μ) → Prop
  | [] => True
  | .pdu timeNow timeSent fcqe :: evs =>
    BucketAdmits fc timeNow fcqe.llcPduLen ∧ EachAdmitted (fcPassed fc timeNow timeSent fcqe.llcPduLen) evs
  | .timer _ :: evs => EachAdmitted fc evs

/-! ## One call of any entity -/

/-- The list head points to elements, or to itself. -/
def LlistHead.isLinked {α : Type} : LlistHead α → Bool
  | .linked _ => true
  | _ => false

theorem LlistHead.empty_append {α : Type} (l : List α) (x : α) : (linked (l ++ [x])).empty = false := by
  cases l with
  | nil => rfl
  | cons y l => rfl

/-- The entity hands a PDU of this length on at once. -/
def PassesOn (fc : BssgpFlowControl μ) (timeNow : Timeval) (pduLen : Nat) : Prop :=
  fc.queueDepth = 0 ∧ BucketAdmits fc timeNow pduLen

instance (fc : BssgpFlowControl μ) (timeNow : Timeval) (pduLen : Nat) : Decidable (PassesOn fc timeNow pduLen) :=
  inferInstanceAs (Decidable (_ ∧ _))

/-- A PDU can wait in the entity, and the timer be computed for it. -/
def CanQueue (fc : BssgpFlowControl μ) : Prop := fc.queue.isLinked = true ∧ fc.bucketLeakRate ≠ 0

instance (fc : BssgpFlowControl μ) : Decidable (CanQueue fc) := inferInstanceAs (Decidable (_ ∧ _))

variable {fc : BssgpFlowControl μ}

/-- The queueing decision of an entity whose depth counter is zero is the bucket's. -/
theorem needsQueueing_iff (hd : fc.queueDepth = 0) (timeNow : Timeval) (pduLen : Nat) :
    (bssgpFcNeedsQueueing fc timeNow pduLen).1 = false ↔ BucketAdmits fc timeNow pduLen := by
  unfold bssgpFcNeedsQueueing BucketAdmits
  by_cases h1 : bucketPredicted fc timeNow pduLen < pduLen
  · simp [hd, h1]
  · by_cases h2 : bucketPredicted fc timeNow pduLen ≤ fc.bucketSizeMax
    · simp [hd, h1, h2]
    · simp [hd, h1, h2]

theorem needsQueueing_frame (fc : BssgpFlowControl μ) (timeNow : Timeval) (pduLen : Nat) :
    ∃ level, (bssgpFcNeedsQueueing fc timeNow pduLen).2 = { fc with bucketCounter := level } := by
  unfold bssgpFcNeedsQueueing
  split
  · exact ⟨fc.bucketCounter, rfl⟩
  · split
    · exact ⟨fc.bucketCounter, rfl⟩
    · split
      · exact ⟨_, rfl⟩
      · exact ⟨fc.bucketCounter, rfl⟩

variable {timeNow : Timeval}

theorem needsQueueing_of_not_passesOn {pduLen : Nat} (h : ¬ PassesOn fc timeNow pduLen) :
    bssgpFcNeedsQueueing fc timeNow pduLen = (true, fc) := by
  unfold bssgpFcNeedsQueueing
  by_cases hdepth : fc.queueDepth ≠ 0
  · rw [if_pos hdepth]
  · have hadmits : ¬ BucketAdmits fc timeNow pduLen := fun ha => h ⟨not_not.mp hdepth, ha⟩
    obtain ⟨hlow, hroom⟩ := not_or.mp hadmits
    rw [if_neg hdepth, if_neg hlow, if_neg hroom]

variable {fcqe : BssgpFcQueueElement μ}

/-- What the entity hands on is output at once. -/
theorem fcIn_passesOn (timeSent : Timeval) (h : PassesOn fc timeNow fcqe.llcPduLen) :
    bssgpFcIn headElement fc timeNow timeSent fcqe = .ok (fcPassed fc timeNow timeSent fcqe.llcPduLen, [fcqe]) := by
  have hb := (needsQueueing_iff h.1 timeNow fcqe.llcPduLen).mpr h.2
  unfold bssgpFcIn fcPassed
  generalize bssgpFcNeedsQueueing fc timeNow fcqe.llcPduLen = r at hb ⊢
  obtain ⟨b, fc'⟩ := r
  subst hb
  rfl

theorem fcPassed_queue (fc : BssgpFlowControl μ) (timeNow timeSent : Timeval) (pduLen : Nat) :
    (fcPassed fc timeNow timeSent pduLen).queue = fc.queue := by
  obtain ⟨level, hl⟩ := needsQueueing_frame fc timeNow pduLen
  unfold fcPassed
  rw [hl]

/-- The delay the timer is scheduled with, in seconds and microseconds, for a head of this length. -/
def fcDelay (fc : BssgpFlowControl μ) (pduLen : Nat) : Nat × Nat :=
  let msecs := pduLen * 1000 % 2 ^ 32 / fc.bucketLeakRate
  (msecs / 1000, msecs % 1000 * 1000)

/-- The entity with the timer scheduled. -/
def fcScheduled (fc : BssgpFlowControl μ) : BssgpFlowControl μ :=
  { fc with timer := some (fcDelay fc (headElement fc).llcPduLen) }

theorem fcQueueTimerCfg_scheduled (hempty : fc.queue.empty = false) (hrate : fc.bucketLeakRate ≠ 0) :
    fcQueueTimerCfg headElement fc = .ok (fcScheduled headElement fc) := by
  unfold fcQueueTimerCfg
  rw [hempty, if_neg Bool.false_ne_true, if_neg hrate]
  rfl

/-- The entity with a PDU more at the end of its queue. -/
def fcQueued (fc : BssgpFlowControl μ) (fcqe : BssgpFcQueueElement μ) : BssgpFlowControl μ :=
  { fc with queue := .linked (fc.queue.toList ++ [fcqe]) }

/-- What it does not hand on waits at the end of the queue, if it can. -/
theorem fcIn_queues (timeSent : Timeval) (h : ¬ PassesOn fc timeNow fcqe.llcPduLen) (hqueue : CanQueue fc) :
    bssgpFcIn headElement fc timeNow timeSent fcqe = .ok (fcScheduled headElement (fcQueued fc fcqe), []) := by
  obtain ⟨hlinked, hrate⟩ := hqueue
  have hadd : fc.queue.addTail fcqe = some (fcQueued fc fcqe).queue := by
    unfold fcQueued
    cases hq : fc.queue with
    | null | unlinked => simp [hq, isLinked] at hlinked
    | linked l => rfl
  have hcfg : fcQueueTimerCfg headElement (fcQueued fc fcqe) = .ok (fcScheduled headElement (fcQueued fc fcqe)) :=
    fcQueueTimerCfg_scheduled headElement (empty_append _ _) hrate
  unfold bssgpFcIn
  rw [needsQueueing_of_not_passesOn h]
  simp only [fcEnqueue, hadd]
  exact congrArg (Except.map _) hcfg

/-- Otherwise it is the end of the process: `llist_add_tail` writes through an invalid pointer, or the timer is
    computed with a leak rate of zero. -/
theorem fcIn_dies (timeSent : Timeval) (h : ¬ PassesOn fc timeNow fcqe.llcPduLen) (hqueue : ¬ CanQueue fc) :
    bssgpFcIn headElement fc timeNow timeSent fcqe = .error [] := by
  unfold bssgpFcIn
  rw [needsQueueing_of_not_passesOn h]
  cases hq : fc.queue with
  | null | unlinked => simp only [fcEnqueue, hq, addTail, Except.map]
  | linked l =>
    have hrate : fc.bucketLeakRate = 0 := by
      by_contra hne
      exact hqueue ⟨by rw [hq]; rfl, hne⟩
    simp only [fcEnqueue, hq, addTail, fcQueueTimerCfg, empty_append, hrate, Bool.false_eq_true,
      if_false, if_true, Except.map]

/-! ## One step of a fresh entity -/

theorem FcFresh.toList_eq (h : FcFresh fc) : fc.queue.toList = [] := by
  rcases h.queue with hq | hq <;> rw [hq] <;> rfl

theorem FcFresh.passed (h : FcFresh fc) (timeNow timeSent : Timeval) (pduLen : Nat) :
    FcFresh (fcPassed fc timeNow timeSent pduLen) := by
  obtain ⟨level, hl⟩ := needsQueueing_frame fc timeNow pduLen
  unfold fcPassed
  rw [hl]
  exact ⟨h.queue, h.depth, h.timer⟩

/-- A PDU the bucket does not admit is queued without being counted, or the process dies: no output,
    and what the queue holds is not what `queue_depth` says. -/
theorem fcIn_refused (h : FcFresh fc) (timeSent : Timeval) (ha : ¬ BucketAdmits fc timeNow fcqe.llcPduLen)
    {fc' : BssgpFlowControl μ} {out : List (BssgpFcQueueElement μ)}
    (hr : bssgpFcIn headElement fc timeNow timeSent fcqe = .ok (fc', out)) :
    fc'.queueDepth = 0 ∧ fc'.queue.toList = [fcqe] := by
  have hb : (bssgpFcNeedsQueueing fc timeNow fcqe.llcPduLen).1 = true := by
    simpa using mt (needsQueueing_iff h.depth timeNow fcqe.llcPduLen).mp ha
  obtain ⟨level, hl⟩ := needsQueueing_frame fc timeNow fcqe.llcPduLen
  have hn : bssgpFcNeedsQueueing fc timeNow fcqe.llcPduLen = (true, { fc with bucketCounter := level }) :=
    Prod.ext hb hl
  unfold bssgpFcIn at hr
  rw [hn] at hr
  simp only [fcEnqueue] at hr
  rcases h.queue with hq | hq
  · -- the zeroed list head: `llist_add_tail` writes through a null pointer
    simp [hq, addTail, Except.map] at hr
  · simp only [hq, addTail, nil_append, fcQueueTimerCfg, empty, Bool.false_eq_true, if_false] at hr
    split at hr
    · cases hr
    · simp only [Except.map, Except.ok.injEq, Prod.mk.injEq] at hr
      obtain ⟨rfl, -⟩ := hr
      exact ⟨h.depth, rfl⟩

/-! ## Whole runs -/

variable {st : FcTrace μ}

theorem fcKeepsOrder_nil : FcKeepsOrder headElement st [] ↔ st.InOrder := by
  simp [FcKeepsOrder, fcRun]

/-- A run is in order when it starts so, its first event succeeds, and the rest is in order. -/
theorem fcKeepsOrder_cons {ev : FcEvent μ} {evs : List (FcEvent μ)} :
    FcKeepsOrder headElement st (ev :: evs) ↔
      st.InOrder ∧ ∃ st', fcTraceStep headElement st ev = .ok st' ∧ FcKeepsOrder headElement st' evs := by
  constructor
  · intro h
    refine ⟨by simpa [fcRun] using h [] nil_prefix, ?_⟩
    have hone := h [ev] (by simp)
    cases hs : fcTraceStep headElement st ev with
    | error out => simp [fcRun, hs, Except.bind] at hone
    | ok st' =>
      refine ⟨st', rfl, fun pre hpre => ?_⟩
      have hp := h (ev :: pre) (by simpa using hpre)
      simpa [fcRun, hs, Except.bind] using hp
  · rintro ⟨hst, st', hs, hrest⟩ pre hpre
    cases pre with
    | nil => exact ⟨st, rfl, hst⟩
    | cons e pre =>
      obtain ⟨rfl, htail⟩ := cons_prefix_cons.mp hpre
      obtain ⟨st'', hr, hin⟩ := hrest pre htail
      exact ⟨st'', by simp [fcRun, hs, Except.bind, hr], hin⟩

theorem FcFresh.inOrder (h : FcFresh st.fc) (ho : st.accepted = st.output) :
    st.InOrder where
  order := by rw [h.toList_eq, append_nil, ho]
  depth := by rw [h.toList_eq, h.depth]; rfl
  bound := by rw [h.depth]; exact Nat.zero_le _
  armed hne := absurd h.toList_eq hne

/-- An event that queues something breaks the order: the depth counter stays at zero. -/
theorem fcStep_refused_not_inOrder {st' : FcTrace μ} (h : FcFresh st.fc) {timeSent : Timeval}
    (ha : ¬ BucketAdmits st.fc timeNow fcqe.llcPduLen)
    (hs : fcTraceStep headElement st (.pdu timeNow timeSent fcqe) = .ok st') : ¬ st'.InOrder := by
  intro hin
  simp only [fcTraceStep] at hs
  cases hr : bssgpFcIn headElement st.fc timeNow timeSent fcqe with
  | error out => rw [hr] at hs; cases hs
  | ok r =>
    rw [hr] at hs
    obtain ⟨hd, hq⟩ := fcIn_refused headElement h timeSent ha hr
    injection hs with hs
    subst hs
    have hdepth := hin.depth
    rw [hd, hq] at hdepth
    exact absurd hdepth (by simp)

/-- A fresh entity whose output is what it accepted keeps its order exactly while every PDU finds room.
    Induction over the events: an admitted PDU and an idle timer lead to such a state again, and the
    first PDU that has to wait breaks the order at once. -/
theorem keepsOrder_iff_admitted {evs : List (FcEvent μ)} :
    ∀ {st : FcTrace μ}, FcFresh st.fc → st.accepted = st.output →
      (FcKeepsOrder headElement st evs ↔ EachAdmitted st.fc evs) := by
  induction evs with
  | nil =>
    intro st h ho
    rw [fcKeepsOrder_nil]
    exact ⟨fun _ => trivial, fun _ => h.inOrder ho⟩
  | cons ev evs ih =>
    intro st h ho
    rw [fcKeepsOrder_cons]
    cases ev with
    | pdu timeNow timeSent fcqe =>
      by_cases ha : BucketAdmits st.fc timeNow fcqe.llcPduLen
      · have hs : fcTraceStep headElement st (.pdu timeNow timeSent fcqe) =
            .ok ⟨fcPassed st.fc timeNow timeSent fcqe.llcPduLen, st.accepted ++ [fcqe], st.output ++ [fcqe]⟩ := by
          simp only [fcTraceStep, fcIn_passesOn headElement timeSent ⟨h.depth, ha⟩, Except.map]
        have hih := @ih ⟨_, st.accepted ++ [fcqe], st.output ++ [fcqe]⟩
          (h.passed timeNow timeSent fcqe.llcPduLen) (by rw [ho])
        constructor
        · rintro ⟨-, st', hs', hk⟩
          rw [hs] at hs'
          injection hs' with hs'
          subst hs'
          exact ⟨ha, hih.mp hk⟩
        · rintro ⟨-, hrest⟩
          exact ⟨h.inOrder ho, _, hs, hih.mpr hrest⟩
      · constructor
        · rintro ⟨-, st', hs, hk⟩
          have hin : st'.InOrder := by simpa [fcRun] using hk [] nil_prefix
          exact absurd hin (fcStep_refused_not_inOrder headElement h ha hs)
        · rintro ⟨hadm, -⟩
          exact absurd hadm ha
    | timer timeNow =>
      have hs : fcTraceStep headElement st (.timer timeNow) = .ok st := by
        simp only [fcTraceStep, h.timer]
      constructor
      · rintro ⟨-, st', hs', hk⟩
        rw [hs] at hs'
        injection hs' with hs'
        subst hs'
        exact (ih h ho).mp hk
      · intro hrest
        exact ⟨h.inOrder ho, st, hs, (ih h ho).mpr hrest⟩

/-- **Flow control keeps its order exactly while nothing has to wait.** Over every run of an entity that
    starts empty, whatever the bucket, the PDUs and the clock: the run stays in order if and only if the
    bucket has room for every PDU at the moment it arrives. -/
theorem fcKeepsOrder_iff {fc : BssgpFlowControl μ} (h : FcFresh fc) (evs : List (FcEvent μ)) :
    FcKeepsOrder headElement { fc := fc } evs ↔ EachAdmitted fc evs :=
  keepsOrder_iff_admitted headElement h rfl

/-! ## A PDU larger than the bucket -/

/-- An entity with a bucket of 100 octets leaking 100 octets a second, and the given list head. -/
def fcHundred (queue : LlistHead (BssgpFcQueueElement Nat)) : BssgpFlowControl Nat :=
  { bucketSizeMax := 100, bucketLeakRate := 100, bucketCounter := 0, timeLastPdu := ⟨0, 0, by decide⟩,
    maxQueueDepth := 10, queueDepth := 0, queue := queue, timer := none }

theorem fcHundred_fresh : FcFresh (fcHundred (.linked [])) := ⟨.inr rfl, rfl, rfl⟩

/-- Three PDUs find room: the second when half of the first has leaked, the third in an empty bucket. -/
theorem fcKeepsOrder_three_small :
    FcKeepsOrder (fun _ => ⟨0, 0, 0⟩) { fc := fcHundred (.linked []) }
      [.pdu ⟨0, 0, by decide⟩ ⟨0, 0, by decide⟩ ⟨7, 80, 0⟩,
        .pdu ⟨0, 500000, by decide⟩ ⟨0, 500000, by decide⟩ ⟨8, 60, 0⟩, .timer ⟨1, 0, by decide⟩,
        .pdu ⟨2, 0, by decide⟩ ⟨2, 0, by decide⟩ ⟨9, 100, 0⟩] :=
  (fcKeepsOrder_iff (fun _ => ⟨0, 0, 0⟩) fcHundred_fresh _).mpr ⟨by decide, by decide, by decide, trivial⟩

/-- One PDU of 200 octets does not: it is queued and not counted, and in an entity as it is allocated
    queueing it is the end of the process. -/
theorem fcKeepsOrder_one_large_fails :
    ¬ FcKeepsOrder (fun _ => ⟨0, 0, 0⟩) { fc := fcHundred (.linked []) }
        [.pdu ⟨0, 0, by decide⟩ ⟨0, 0, by decide⟩ ⟨7, 200, 0⟩] ∧
      ¬ FcKeepsOrder (fun _ => ⟨0, 0, 0⟩) { fc := fcHundred .null }
        [.pdu ⟨0, 0, by decide⟩ ⟨0, 0, by decide⟩ ⟨7, 200, 0⟩] := by
  refine ⟨fun h => ?_, fun h => ?_⟩
  · have hadm := (keepsOrder_iff_admitted (fun _ => ⟨0, 0, 0⟩) fcHundred_fresh rfl).mp h
    exact absurd hadm.1 (by decide)
  · have hfresh : FcFresh (fcHundred .null) := ⟨.inl rfl, rfl, rfl⟩
    have hadm := (keepsOrder_iff_admitted (fun _ => ⟨0, 0, 0⟩) hfresh rfl).mp h
    exact absurd hadm.1 (by decide)

end OpenBsc.Bssgp
