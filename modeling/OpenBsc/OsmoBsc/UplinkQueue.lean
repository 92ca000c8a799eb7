import OpenBsc.Lib.Ledger
import OpenBsc.Lib.Log
import OpenBsc.OsmoBsc.ConnPairing

/-!
# `OsmoBsc.UplinkQueue` — messages to the MSC keep their order

`bsc_queue_for_msc` writes a message at once, queues it or drops it; the queue is drained when the connection is
established. Which of these happens depends on the state of the SCCP connection and on a counter. `UplinkOk` says what
comes of it, and every move keeps it, whatever states the connection goes through.
-/

namespace OpenBsc.OsmoBsc

open Transition Relation Log Pool Bsc List Nat Option

/-! ## What became of messages -/

namespace SccpEffect

/-- The message that an effect says was submitted on the connection of `r`, -/
def submitted? (r : Nat) : SccpEffect → Option Nat
  | .submitted q nr => if q = r then some nr else none
  | _ => none

/-- written, -/
def written? (r : Nat) : SccpEffect → Option Nat
  | .written q nr => if q = r then some nr else none
  | _ => none

/-- or dropped. -/
def dropped? (r : Nat) : SccpEffect → Option Nat
  | .dropped q nr _ => if q = r then some nr else none
  | _ => none

/-- The record that an effect is about. -/
def con : SccpEffect → Nat
  | .submitted r _ => r
  | .established r => r
  | .written r _ => r
  | .dropped r _ _ => r

end SccpEffect

def submittedOn (r : Nat) (log : List SccpEffect) : List Nat := log.filterMap (SccpEffect.submitted? r)

def writtenOn (r : Nat) (log : List SccpEffect) : List Nat := log.filterMap (SccpEffect.written? r)

def droppedOn (r : Nat) (log : List SccpEffect) : List Nat := log.filterMap (SccpEffect.dropped? r)

/-- The messages that wait on the connection of `r`. -/
def Bsc.queuedOn (s : Bsc) (r : Nat) : List Nat := ((s.cons.get? r).map (·.sccpQueue)).getD []

/-- A message is written only after the connection was established. -/
def WrittenLate (before : List SccpEffect) (e : SccpEffect) : Prop :=
  ∀ r nr, e = .written r nr → .established r ∈ before

/-- On every connection, messages are written in the order in which they were submitted and only once it is
    established; each is written, waits or was dropped, for one of the causes; the counter counts those that wait, and
    none does while the connection is established. -/
structure UplinkOk (s : Bsc) : Prop where
  ledger : ∀ r, Ledger (submittedOn r s.log) (writtenOn r s.log) (s.queuedOn r) (droppedOn r s.log)
  late : Justified WrittenLate s.log
  causes : ∀ r nr cause, .dropped r nr cause ∈ s.log → cause.Allowed
  ended : ∀ r nr, .dropped r nr .forceFree ∈ s.log → s.cons.get? r = none
  size : ∀ r con, s.cons.get? r = some con → con.sccpQueueSize.toNat = con.sccpQueue.length
  drained : ∀ r con k sccp, s.cons.get? r = some con → con.sccp = some k → s.sccps.get? k = some sccp →
    sccp.connectionState = .established → con.sccpQueue = []

/-! ## Moves -/

/-- Records and messages have numbers below the next one, at most eleven messages wait, and a connection that is
    established was reported to be. -/
structure UplinkInv (s : Bsc) : Prop extends UplinkOk s where
  below : ∀ e ∈ s.log, e.con < s.cons.next
  numbered : ∀ r, ∀ nr ∈ submittedOn r s.log, nr < s.nextMsgb
  few : ∀ r con, s.cons.get? r = some con → con.sccpQueue.length ≤ 11
  reported : ∀ r con k sccp, s.cons.get? r = some con → con.sccp = some k → s.sccps.get? k = some sccp →
    sccp.connectionState = .established → .established r ∈ s.log

variable {s s' : Bsc} {r k nr : Nat} {con : OsmoBscSccpCon} {sccp : SccpConnection}

theorem queuedOn_of_get? (hr : s.cons.get? r = some con) : s.queuedOn r = con.sccpQueue := by
  unfold queuedOn
  rw [hr]
  rfl

/-- What a record has to do with messages. -/
def OsmoBscSccpCon.uplink (con : OsmoBscSccpCon) : Option Nat × List Nat × BitVec 32 :=
  (con.sccp, con.sccpQueue, con.sccpQueueSize)

section

variable (h : UplinkInv s)

include h

/-- A move that has nothing to do with messages; new records have empty queues. -/
theorem UplinkInv.quiet (hlog : s'.log = s.log) (hnext : s'.nextMsgb = s.nextMsgb)
    (hcnext : s.cons.next ≤ s'.cons.next)
    (hcons : ∀ r con, s'.cons.get? r = some con →
      (∃ old, s.cons.get? r = some old ∧ old.uplink = con.uplink) ∨
        (s.cons.next ≤ r ∧ con.sccpQueue = [] ∧ con.sccpQueueSize = 0 ∧
          ∀ k sccp, con.sccp = some k → s'.sccps.get? k = some sccp → sccp.connectionState ≠ .established))
    (hkeep : ∀ r con, s.cons.get? r = some con → ∃ new, s'.cons.get? r = some new)
    (hsccps : ∀ k sccp, s'.sccps.get? k = some sccp → sccp.connectionState = .established →
      ∀ r con, s.cons.get? r = some con → con.sccp = some k →
        ∃ old, s.sccps.get? k = some old ∧ old.connectionState = .established) : UplinkInv s' := by
  have hqueued : ∀ r, s'.queuedOn r = s.queuedOn r := by
    intro r
    cases hr : s'.cons.get? r with
    | none =>
      cases hold : s.cons.get? r with
      | none => simp only [queuedOn, hr, hold]
      | some old =>
        obtain ⟨new, hnew⟩ := hkeep r old hold
        rw [hr] at hnew
        cases hnew
    | some con =>
      rw [queuedOn_of_get? hr]
      obtain ⟨old, hold, hsame⟩ | ⟨hfresh, hempty, -⟩ := hcons r con hr
      · rw [queuedOn_of_get? hold]
        exact (congrArg (fun u => u.2.1) hsame).symm
      · have hnone : s.cons.get? r = none := by
          cases hold : s.cons.get? r with
          | none => rfl
          | some old => exact absurd (get?_lt hold) (Nat.not_lt.mpr hfresh)
        simp only [queuedOn, hnone, hempty, map_none, getD_none]
  refine { ledger := ?_, late := ?_, causes := ?_, ended := ?_, size := ?_, drained := ?_, below := ?_, numbered := ?_,
           few := ?_, reported := ?_ }
  · intro r
    rw [hlog, hqueued]
    exact h.ledger r
  · rw [hlog]
    exact h.late
  · rw [hlog]
    exact h.causes
  · intro r nr hdropped
    rw [hlog] at hdropped
    cases hr : s'.cons.get? r with
    | none => rfl
    | some con =>
      obtain ⟨old, hold, -⟩ | ⟨hfresh, -⟩ := hcons r con hr
      · rw [h.ended r nr hdropped] at hold
        cases hold
      · exact absurd (h.below _ hdropped) (Nat.not_lt.mpr hfresh)
  · intro r con hr
    obtain ⟨old, hold, hsame⟩ | ⟨-, hempty, hzero, -⟩ := hcons r con hr
    · have hqueue : old.sccpQueue = con.sccpQueue := congrArg (fun u => u.2.1) hsame
      have hsize : old.sccpQueueSize = con.sccpQueueSize := congrArg (fun u => u.2.2) hsame
      rw [← hqueue, ← hsize]
      exact h.size r old hold
    · rw [hempty, hzero]
      rfl
  · intro r con k sccp hr hk hsccp hest
    obtain ⟨old, hold, hsame⟩ | ⟨-, hempty, -⟩ := hcons r con hr
    · have hqueue : old.sccpQueue = con.sccpQueue := congrArg (fun u => u.2.1) hsame
      have holdk : old.sccp = some k := (congrArg (fun u => u.1) hsame).trans hk
      obtain ⟨osccp, hosccp, hoest⟩ := hsccps k sccp hsccp hest r old hold holdk
      rw [← hqueue]
      exact h.drained r old k osccp hold holdk hosccp hoest
    · exact hempty
  · intro e he
    rw [hlog] at he
    exact Nat.lt_of_lt_of_le (h.below e he) hcnext
  · rw [hlog, hnext]
    exact h.numbered
  · intro r con hr
    obtain ⟨old, hold, hsame⟩ | ⟨-, hempty, -⟩ := hcons r con hr
    · have hqueue : old.sccpQueue = con.sccpQueue := congrArg (fun u => u.2.1) hsame
      rw [← hqueue]
      exact h.few r old hold
    · rw [hempty]
      exact zero_le _
  · intro r con k sccp hr hk hsccp hest
    obtain ⟨old, hold, hsame⟩ | ⟨-, -, -, hnot⟩ := hcons r con hr
    · have holdk : old.sccp = some k := (congrArg (fun u => u.1) hsame).trans hk
      obtain ⟨osccp, hosccp, hoest⟩ := hsccps k sccp hsccp hest r old hold holdk
      rw [hlog]
      exact h.reported r old k osccp hold holdk hosccp hoest
    · exact absurd hest (hnot k sccp hk hsccp)

theorem UplinkInv.aside (hlog : s'.log = s.log) (hnext : s'.nextMsgb = s.nextMsgb)
    (hcons : s'.cons = s.cons) (hsccps : ∀ k, s'.sccps.get? k = s.sccps.get? k) : UplinkInv s' := by
  refine h.quiet hlog hnext (Nat.le_of_eq (by rw [hcons])) ?_ ?_ ?_
  · intro r con hr
    rw [hcons] at hr
    exact .inl ⟨con, hr, rfl⟩
  · intro r con hr
    exact ⟨con, by rw [hcons, hr]⟩
  · intro k sccp hk hest r con _ _
    rw [hsccps] at hk
    exact ⟨sccp, hk, hest⟩

theorem UplinkInv.modifyCon (r : Nat) {f : OsmoBscSccpCon → OsmoBscSccpCon}
    (hf : ∀ con, (f con).uplink = con.uplink) : UplinkInv (s.modifyCon r f) := by
  have hcons : ∀ q, (s.modifyCon r f).cons.get? q = if q = r then (s.cons.get? q).map f else s.cons.get? q :=
    fun q => get?_modify _ _ _ _
  refine h.quiet rfl rfl (Nat.le_refl s.cons.next) ?_ ?_ fun k sccp hk hest r con _ _ => ⟨sccp, hk, hest⟩
  · intro q con hq
    rw [hcons] at hq
    split_ifs at hq
    · obtain ⟨old, hold, rfl⟩ := map_eq_some_iff.mp hq
      exact .inl ⟨old, hold, (hf old).symm⟩
    · exact .inl ⟨con, hq, rfl⟩
  · intro q con hq
    rw [hcons]
    split_ifs
    · exact ⟨f con, by rw [hq]; rfl⟩
    · exact ⟨con, hq⟩

theorem UplinkInv.join (c : Nat) : UplinkInv (s.join c) := by
  refine h.quiet rfl rfl (le_succ s.cons.next) ?_ ?_ ?_
  · intro q con hq
    rw [get?_join_cons] at hq
    split_ifs at hq with hqn
    · cases hq
      refine .inr ⟨Nat.le_of_eq hqn.symm, rfl, rfl, fun k sccp hk hsccp => ?_⟩
      cases hk
      rw [get?_join_sccps, if_pos rfl] at hsccp
      cases hsccp
      exact nofun
    · exact .inl ⟨con, hq, rfl⟩
  · intro q con hq
    exact ⟨con, by rw [get?_join_cons, if_neg (Nat.ne_of_lt (get?_lt hq)), hq]⟩
  · intro k sccp hk hest q con hq hqk
    rw [get?_join_sccps] at hk
    split_ifs at hk
    · cases hk
      cases hest
    · exact ⟨sccp, hk, hest⟩

theorem UplinkInv.setState (k : Nat) {state : SccpConnectionState} (hstate : state ≠ .established) :
    UplinkInv (s.setState k state) := by
  have hsccps : ∀ q, (s.setState k state).sccps.get? q =
      if q = k then (s.sccps.get? q).map fun conn => { conn with connectionState := state } else s.sccps.get? q :=
    fun q => get?_modify _ _ _ _
  refine h.quiet rfl rfl (Nat.le_refl s.cons.next) (fun r con hr => .inl ⟨con, hr, rfl⟩) (fun r con hr => ⟨con, hr⟩) ?_
  intro q sccp hq hest r con _ _
  rw [hsccps] at hq
  split_ifs at hq
  · obtain ⟨old, -, rfl⟩ := map_eq_some_iff.mp hq
    exact absurd hest hstate
  · exact ⟨sccp, hq, hest⟩

end

variable {f : SccpEffect → Option Nat}

section Effects

variable {effects : List SccpEffect} {q : Nat}

theorem submitted?_of_ne {e : SccpEffect} (h : e.con ≠ q) : e.submitted? q = none := by
  cases e with
  | submitted r nr => exact if_neg h
  | _ => rfl

theorem written?_of_ne {e : SccpEffect} (h : e.con ≠ q) : e.written? q = none := by
  cases e with
  | written r nr => exact if_neg h
  | _ => rfl

theorem dropped?_of_ne {e : SccpEffect} (h : e.con ≠ q) : e.dropped? q = none := by
  cases e with
  | dropped r nr cause => exact if_neg h
  | _ => rfl

theorem filterMap_other (hf : ∀ e : SccpEffect, e.con ≠ q → f e = none) (h : ∀ e ∈ effects, e.con = r) (hq : q ≠ r)
    (log : List SccpEffect) : (log ++ effects).filterMap f = log.filterMap f := by
  have hnone : effects.filterMap f = [] := by
    refine filterMap_eq_nil_iff.mpr fun e he => hf e ?_
    rw [h e he]
    exact Ne.symm hq
  rw [filterMap_append, hnone, append_nil]

section

variable (h : UplinkInv s) (hr : s.cons.get? r = some con) (hlog : s'.log = s.log ++ effects)
    (habout : ∀ e ∈ effects, e.con = r)

include h hr hlog habout

theorem UplinkInv.of_record (hcnext : s'.cons.next = s.cons.next) (hnext : s.nextMsgb ≤ s'.nextMsgb)
    (hother : ∀ q, q ≠ r → s'.cons.get? q = s.cons.get? q)
    (hledger : Ledger (submittedOn r s'.log) (writtenOn r s'.log) (s'.queuedOn r) (droppedOn r s'.log))
    (hlate : Justified WrittenLate s'.log)
    (hcauses : ∀ nr cause, .dropped r nr cause ∈ effects → cause.Allowed ∧ (cause = .forceFree → s'.cons.get? r = none))
    (hnumbered : ∀ nr ∈ submittedOn r s'.log, nr < s'.nextMsgb)
    (hsize : ∀ con, s'.cons.get? r = some con →
      con.sccpQueueSize.toNat = con.sccpQueue.length ∧ con.sccpQueue.length ≤ 11)
    (hself : ∀ con k sccp, s'.cons.get? r = some con → con.sccp = some k → s'.sccps.get? k = some sccp →
      sccp.connectionState = .established → con.sccpQueue = [] ∧ .established r ∈ s'.log)
    (hest : ∀ q con k sccp, q ≠ r → s.cons.get? q = some con → con.sccp = some k → s'.sccps.get? k = some sccp →
      sccp.connectionState = .established → ∃ old, s.sccps.get? k = some old ∧ old.connectionState = .established) :
    UplinkInv s' := by
  refine { ledger := ?_, late := hlate, causes := ?_, ended := ?_, size := ?_, drained := ?_, below := ?_,
           numbered := ?_, few := ?_, reported := ?_ }
  · intro q
    by_cases hq : q = r
    · subst hq
      exact hledger
    · have hqueued : s'.queuedOn q = s.queuedOn q := by
        unfold queuedOn
        rw [hother q hq]
      have hsubmitted : submittedOn q s'.log = submittedOn q s.log := by
        rw [hlog]
        exact filterMap_other (fun e => submitted?_of_ne) habout hq s.log
      have hwritten : writtenOn q s'.log = writtenOn q s.log := by
        rw [hlog]
        exact filterMap_other (fun e => written?_of_ne) habout hq s.log
      have hdropped : droppedOn q s'.log = droppedOn q s.log := by
        rw [hlog]
        exact filterMap_other (fun e => dropped?_of_ne) habout hq s.log
      rw [hqueued, hsubmitted, hwritten, hdropped]
      exact h.ledger q
  · intro q nr cause hdropped
    rw [hlog] at hdropped
    rcases mem_append.mp hdropped with hold | hnew
    · exact h.causes q nr cause hold
    · obtain rfl : q = r := habout _ hnew
      exact (hcauses nr cause hnew).1
  · intro q nr hdropped
    rw [hlog] at hdropped
    rcases mem_append.mp hdropped with hold | hnew
    · have hnone := h.ended q nr hold
      have hq : q ≠ r := by
        rintro rfl
        rw [hr] at hnone
        cases hnone
      rw [hother q hq, hnone]
    · obtain rfl : q = r := habout _ hnew
      exact (hcauses nr _ hnew).2 rfl
  · intro q con' hq'
    by_cases hq : q = r
    · subst hq
      exact (hsize con' hq').1
    · rw [hother q hq] at hq'
      exact h.size q con' hq'
  · intro q con' k sccp hq' hk hsccp hstate
    by_cases hq : q = r
    · subst hq
      exact (hself con' k sccp hq' hk hsccp hstate).1
    · rw [hother q hq] at hq'
      obtain ⟨old, hold, hoest⟩ := hest q con' k sccp hq hq' hk hsccp hstate
      exact h.drained q con' k old hq' hk hold hoest
  · intro e he
    rw [hcnext]
    rw [hlog] at he
    rcases mem_append.mp he with hold | hnew
    · exact h.below e hold
    · rw [habout e hnew]
      exact get?_lt hr
  · intro q nr hnr
    by_cases hq : q = r
    · subst hq
      exact hnumbered nr hnr
    · have hsubmitted : submittedOn q s'.log = submittedOn q s.log := by
        rw [hlog]
        exact filterMap_other (fun e => submitted?_of_ne) habout hq s.log
      rw [hsubmitted] at hnr
      exact Nat.lt_of_lt_of_le (h.numbered q nr hnr) hnext
  · intro q con' hq'
    by_cases hq : q = r
    · subst hq
      exact (hsize con' hq').2
    · rw [hother q hq] at hq'
      exact h.few q con' hq'
  · intro q con' k sccp hq' hk hsccp hstate
    by_cases hq : q = r
    · subst hq
      exact (hself con' k sccp hq' hk hsccp hstate).2
    · rw [hother q hq] at hq'
      obtain ⟨old, hold, hoest⟩ := hest q con' k sccp hq hq' hk hsccp hstate
      rw [hlog]
      exact mem_append_left _ (h.reported q con' k old hq' hk hold hoest)

theorem UplinkInv.of_same_record (hcons : s'.cons = s.cons) (hsccps : s'.sccps = s.sccps)
    (hnext : s.nextMsgb ≤ s'.nextMsgb)
    (hledger : Ledger (submittedOn r s'.log) (writtenOn r s'.log) (s'.queuedOn r) (droppedOn r s'.log))
    (hlate : Justified WrittenLate s'.log)
    (hcauses : ∀ nr cause, .dropped r nr cause ∈ effects → cause.Allowed ∧ (cause = .forceFree → s'.cons.get? r = none))
    (hnumbered : ∀ nr ∈ submittedOn r s'.log, nr < s'.nextMsgb) : UplinkInv s' := by
  refine h.of_record hr hlog habout (by rw [hcons]) hnext (fun q _ => by rw [hcons]) hledger hlate hcauses hnumbered
    ?_ ?_ ?_
  · intro con' hr'
    rw [hcons] at hr'
    exact ⟨h.size r con' hr', h.few r con' hr'⟩
  · intro con' k' sccp' hr' hk' hsccp' hest
    rw [hcons] at hr'
    rw [hsccps] at hsccp'
    rw [hlog]
    exact ⟨h.drained r con' k' sccp' hr' hk' hsccp' hest,
      mem_append_left _ (h.reported r con' k' sccp' hr' hk' hsccp' hest)⟩
  · intro q con' k' sccp' _ _ _ hsccp' hest
    rw [hsccps] at hsccp'
    exact ⟨sccp', hsccp', hest⟩

end

end Effects

theorem filterMap_map_some {g : Nat → SccpEffect} (h : ∀ nr, f (g nr) = some nr) (queue : List Nat) :
    (queue.map g).filterMap f = queue := by
  rw [filterMap_map]
  exact (filterMap_congr fun nr _ => h nr).trans filterMap_some

theorem filterMap_map_none {g : Nat → SccpEffect} (h : ∀ nr, f (g nr) = none) (queue : List Nat) :
    (queue.map g).filterMap f = [] := by
  refine filterMap_eq_nil_iff.mpr fun e he => ?_
  obtain ⟨nr, -, rfl⟩ := mem_map.mp he
  exact h nr

section

variable (h : UplinkInv s)

include h

/-- The number of a new message is new. -/
theorem UplinkInv.fresh (r : Nat) : s.nextMsgb ∉ submittedOn r s.log :=
  fun hmem => absurd (h.numbered r _ hmem) (Nat.lt_irrefl _)

theorem UplinkInv.numbered_snoc (r : Nat) :
    ∀ nr ∈ submittedOn r s.log ++ [s.nextMsgb], nr < s.nextMsgb + 1 := by
  intro nr hnr
  rcases mem_append.mp hnr with hold | hnew
  · exact lt_succ_of_lt (h.numbered r nr hold)
  · rw [mem_singleton.mp hnew]
    exact lt_succ_self _

/-- `bsc_queue_for_msc`, for a new message. -/
theorem UplinkInv.submit
    (hqueue : { s with nextMsgb := s.nextMsgb + 1 }.bscQueueForMsc r s.nextMsgb = some s') : UplinkInv s' := by
  have hledger := h.ledger r
  have hfresh := h.fresh r
  obtain ⟨con, k, sccp, hr, hk, hsccp, ⟨cause, hallowed, hnot, rfl⟩ | ⟨hest, hzero, rfl⟩ | ⟨hbusy, hten, rfl⟩⟩ :=
    bscQueueForMsc_cases hqueue
  · -- it is dropped
    change s.cons.get? r = some con at hr
    have hsubmitted : submittedOn r (s.log ++ [.submitted r s.nextMsgb, .dropped r s.nextMsgb cause]) =
        submittedOn r s.log ++ [s.nextMsgb] := by simp [submittedOn, SccpEffect.submitted?]
    have hwritten : writtenOn r (s.log ++ [.submitted r s.nextMsgb, .dropped r s.nextMsgb cause]) =
        writtenOn r s.log := by simp [writtenOn, SccpEffect.written?]
    have hdropped : droppedOn r (s.log ++ [.submitted r s.nextMsgb, .dropped r s.nextMsgb cause]) =
        droppedOn r s.log ++ [s.nextMsgb] := by simp [droppedOn, SccpEffect.dropped?, filterMap_cons]
    refine h.of_same_record hr rfl ?_ rfl rfl (le_succ s.nextMsgb) ?_ ?_ ?_ ?_
    · simp [SccpEffect.con]
    · show Ledger (submittedOn r (s.log ++ _)) (writtenOn r (s.log ++ _)) (s.queuedOn r) (droppedOn r (s.log ++ _))
      rw [hsubmitted, hwritten, hdropped]
      exact hledger.giveUp hfresh
    · refine h.late.append ?_
      simp [WrittenLate]
    · intro nr cause' hmem
      obtain ⟨-, rfl⟩ : nr = s.nextMsgb ∧ cause' = cause := by simpa using hmem
      exact ⟨hallowed, fun heq => absurd heq hnot⟩
    · intro nr hnr
      change nr ∈ submittedOn r (s.log ++ _) at hnr
      rw [hsubmitted] at hnr
      exact h.numbered_snoc r nr hnr
  · -- it is written
    change s.cons.get? r = some con at hr
    have hsubmitted : submittedOn r (s.log ++ [.submitted r s.nextMsgb, .written r s.nextMsgb]) =
        submittedOn r s.log ++ [s.nextMsgb] := by simp [submittedOn, SccpEffect.submitted?]
    have hwritten : writtenOn r (s.log ++ [.submitted r s.nextMsgb, .written r s.nextMsgb]) =
        writtenOn r s.log ++ [s.nextMsgb] := by simp [writtenOn, SccpEffect.written?, filterMap_cons]
    have hdropped : droppedOn r (s.log ++ [.submitted r s.nextMsgb, .written r s.nextMsgb]) =
        droppedOn r s.log := by simp [droppedOn, SccpEffect.dropped?]
    have hqueued : s.queuedOn r = [] := by
      rw [queuedOn_of_get? hr]
      exact h.drained r con k sccp hr hk hsccp hest
    rw [hqueued] at hledger
    refine h.of_same_record hr rfl ?_ rfl rfl (le_succ s.nextMsgb) ?_ ?_ ?_ ?_
    · simp [SccpEffect.con]
    · show Ledger (submittedOn r (s.log ++ _)) (writtenOn r (s.log ++ _)) (s.queuedOn r) (droppedOn r (s.log ++ _))
      rw [hsubmitted, hwritten, hdropped, hqueued]
      exact hledger.done_snoc hfresh
    · have hlog : s.log ++ [.submitted r s.nextMsgb, .written r s.nextMsgb] =
          (s.log ++ [.submitted r s.nextMsgb]) ++ [.written r s.nextMsgb] := by simp
      show Justified WrittenLate (s.log ++ _)
      rw [hlog]
      refine (h.late.append ?_).snoc ?_
      · simp [WrittenLate]
      · rintro q nr ⟨rfl, rfl⟩
        exact mem_append_left _ (h.reported r con k sccp hr hk hsccp hest)
    · intro nr cause' hmem
      simp at hmem
    · intro nr hnr
      change nr ∈ submittedOn r (s.log ++ _) at hnr
      rw [hsubmitted] at hnr
      exact h.numbered_snoc r nr hnr
  · -- it waits
    change s.cons.get? r = some con at hr
    have hsubmitted : submittedOn r (s.log ++ [.submitted r s.nextMsgb]) = submittedOn r s.log ++ [s.nextMsgb] := by
      simp [submittedOn, SccpEffect.submitted?]
    have hwritten : writtenOn r (s.log ++ [.submitted r s.nextMsgb]) = writtenOn r s.log := by
      simp [writtenOn, SccpEffect.written?]
    have hdropped : droppedOn r (s.log ++ [.submitted r s.nextMsgb]) = droppedOn r s.log := by
      simp [droppedOn, SccpEffect.dropped?]
    have hsize := h.size r con hr
    have hnew : ((s.cons.modify r fun con =>
        { con with sccpQueueSize := con.sccpQueueSize + 1, sccpQueue := con.sccpQueue ++ [s.nextMsgb] }).get? r) =
          some { con with sccpQueueSize := con.sccpQueueSize + 1, sccpQueue := con.sccpQueue ++ [s.nextMsgb] } :=
      get?_modify_self hr
    refine h.of_record hr rfl ?_ rfl (le_succ s.nextMsgb) (fun q hq => get?_modify_ne hq) ?_ ?_ ?_ ?_ ?_ ?_ ?_
    · simp [SccpEffect.con]
    · show Ledger (submittedOn r (s.log ++ _)) (writtenOn r (s.log ++ _)) _ (droppedOn r (s.log ++ _))
      rw [hsubmitted, hwritten, hdropped, queuedOn_of_get? hnew]
      rw [queuedOn_of_get? hr] at hledger
      exact hledger.wait hfresh
    · refine h.late.append ?_
      simp [WrittenLate]
    · intro nr cause' hmem
      simp at hmem
    · intro nr hnr
      change nr ∈ submittedOn r (s.log ++ _) at hnr
      rw [hsubmitted] at hnr
      exact h.numbered_snoc r nr hnr
    · intro con' hr'
      change (s.cons.modify r _).get? r = some con' at hr'
      rw [hnew] at hr'
      cases hr'
      have hlength : (con.sccpQueue ++ [s.nextMsgb]).length = con.sccpQueue.length + 1 := length_append
      constructor
      · have hone : (1 : BitVec 32).toNat = 1 := rfl
        show (con.sccpQueueSize + 1).toNat = (con.sccpQueue ++ [s.nextMsgb]).length
        rw [BitVec.toNat_add, hone, hlength, ← hsize]
        exact mod_eq_of_lt (by omega)
      · show (con.sccpQueue ++ [s.nextMsgb]).length ≤ 11
        omega
    · intro con' k' sccp' hr' hk' hsccp' hest
      -- were the connection established, nothing would wait, and the message would have been written
      change (s.cons.modify r _).get? r = some con' at hr'
      rw [hnew] at hr'
      cases hr'
      have hempty := h.drained r con k' sccp' hr hk' hsccp' hest
      rw [hk] at hk'
      cases hk'
      change s.sccps.get? k = some sccp at hsccp
      change s.sccps.get? k = some sccp' at hsccp'
      rw [hsccp] at hsccp'
      cases hsccp'
      rw [hempty] at hsize
      exact absurd ⟨hest, BitVec.eq_of_toNat_eq hsize⟩ hbusy
    · exact fun _ _ _ sccp' _ _ _ hsccp' hest => ⟨sccp', hsccp', hest⟩

/-- A connection is established, and what waits is written. -/
theorem UplinkInv.drain (hpaired : Paired s) (hr : s.cons.get? r = some con)
    (hk : con.sccp = some k) : UplinkInv (((s.setState k .established).emit [.established r]).drained r con) := by
  have hledger := h.ledger r
  rw [queuedOn_of_get? hr] at hledger
  have hlogs : (((s.setState k .established).emit [.established r]).drained r con).log =
      s.log ++ (.established r :: con.sccpQueue.map (.written r)) := by
    show (s.log ++ [.established r]) ++ con.sccpQueue.map (.written r) = _
    rw [append_assoc]
    rfl
  have hsubmitted : submittedOn r (s.log ++ (.established r :: con.sccpQueue.map (.written r))) =
      submittedOn r s.log := by
    rw [submittedOn, filterMap_append, filterMap_cons_none rfl, filterMap_map_none fun _ => rfl, append_nil]
    rfl
  have hwritten : writtenOn r (s.log ++ (.established r :: con.sccpQueue.map (.written r))) =
      writtenOn r s.log ++ con.sccpQueue := by
    rw [writtenOn, filterMap_append, filterMap_cons_none rfl, filterMap_map_some fun _ => if_pos rfl]
    rfl
  have hdropped : droppedOn r (s.log ++ (.established r :: con.sccpQueue.map (.written r))) = droppedOn r s.log := by
    rw [droppedOn, filterMap_append, filterMap_cons_none rfl, filterMap_map_none fun _ => rfl, append_nil]
    rfl
  have hnew : (((s.setState k .established).emit [.established r]).drained r con).cons.get? r =
      some { con with
        sccpQueue := [], sccpQueueSize := con.sccpQueueSize - BitVec.ofNat 32 con.sccpQueue.length } :=
    get?_modify_self hr
  have hsccps : ∀ q, (((s.setState k .established).emit [.established r]).drained r con).sccps.get? q =
      if q = k then (s.sccps.get? q).map fun conn => { conn with connectionState := .established }
      else s.sccps.get? q := fun q => get?_modify _ _ _ _
  refine h.of_record hr hlogs ?_ rfl (Nat.le_refl s.nextMsgb) (fun q hq => get?_modify_ne hq) ?_ ?_ ?_ ?_ ?_ ?_ ?_
  · intro e he
    rcases mem_cons.mp he with rfl | he
    · rfl
    · obtain ⟨nr, -, rfl⟩ := mem_map.mp he
      rfl
  · rw [hlogs, hsubmitted, hwritten, hdropped, queuedOn_of_get? hnew]
    exact hledger.drain
  · rw [hlogs]
    -- what is written now stands after the report
    have hreport : Justified WrittenLate (s.log ++ [.established r]) := h.late.append (by simp [WrittenLate])
    rw [← singleton_append, ← append_assoc]
    refine hreport.append_of fun e he more q nr heq => ?_
    obtain ⟨nr', -, rfl⟩ := mem_map.mp he
    cases heq
    exact mem_append_left _ (mem_append_right _ mem_cons_self)
  · intro nr cause hmem
    rcases mem_cons.mp hmem with heq | hmem
    · cases heq
    · obtain ⟨nr', -, heq⟩ := mem_map.mp hmem
      cases heq
  · intro nr hnr
    rw [hlogs, hsubmitted] at hnr
    exact h.numbered r nr hnr
  · intro con' hr'
    rw [hnew] at hr'
    cases hr'
    refine ⟨?_, zero_le _⟩
    have hsize : con.sccpQueueSize = BitVec.ofNat 32 con.sccpQueue.length := by
      rw [← h.size r con hr, BitVec.ofNat_toNat, BitVec.setWidth_eq]
    show (con.sccpQueueSize - BitVec.ofNat 32 con.sccpQueue.length).toNat = 0
    rw [hsize, BitVec.sub_self]
    rfl
  · intro con' k' sccp' hr' _ _ _
    rw [hnew] at hr'
    cases hr'
    refine ⟨rfl, ?_⟩
    rw [hlogs]
    exact mem_append_right _ mem_cons_self
  · intro q con' k' sccp' hq hq' hk' hsccp' hest
    have hne : k' ≠ k := by
      rintro rfl
      exact hq (hpaired.sccp_unique hr hk hq' hk')
    rw [hsccps, if_neg hne] at hsccp'
    exact ⟨sccp', hsccp', hest⟩

/-- A record is gone, and what waits is dropped. -/
theorem UplinkInv.end (hr : s.cons.get? r = some con) (k : Nat) {cause : DropCause}
    (hcause : cause.Allowed) : UplinkInv (s.ended r k con cause) := by
  have hledger := h.ledger r
  rw [queuedOn_of_get? hr] at hledger
  have hsubmitted : submittedOn r (s.log ++ con.sccpQueue.map fun nr => .dropped r nr cause) = submittedOn r s.log := by
    rw [submittedOn, filterMap_append, filterMap_map_none fun _ => rfl, append_nil]
    rfl
  have hwritten : writtenOn r (s.log ++ con.sccpQueue.map fun nr => .dropped r nr cause) = writtenOn r s.log := by
    rw [writtenOn, filterMap_append, filterMap_map_none fun _ => rfl, append_nil]
    rfl
  have hdropped : droppedOn r (s.log ++ con.sccpQueue.map fun nr => .dropped r nr cause) =
      droppedOn r s.log ++ con.sccpQueue := by
    rw [droppedOn, filterMap_append, filterMap_map_some fun _ => if_pos rfl]
    rfl
  have hgone : (s.ended r k con cause).cons.get? r = none := by
    show (s.cons.remove r).get? r = none
    rw [get?_remove, if_pos rfl]
  have hsccps : ∀ q sccp, (s.ended r k con cause).sccps.get? q = some sccp → s.sccps.get? q = some sccp :=
    fun q sccp hq => (get?_of_remove hq).2
  refine h.of_record hr rfl ?_ rfl (Nat.le_refl s.nextMsgb) ?_ ?_ ?_ ?_ ?_ ?_ ?_ ?_
  · intro e he
    obtain ⟨nr, -, rfl⟩ := mem_map.mp he
    rfl
  · intro q hq
    show (s.cons.remove r).get? q = _
    rw [get?_remove, if_neg hq]
  · have hqueued : (s.ended r k con cause).queuedOn r = [] := by
      unfold queuedOn
      rw [hgone]
      rfl
    show Ledger (submittedOn r (s.log ++ _)) (writtenOn r (s.log ++ _)) _ (droppedOn r (s.log ++ _))
    rw [hsubmitted, hwritten, hdropped, hqueued]
    exact hledger.clear
  · refine h.late.append fun e he before q nr heq => ?_
    obtain ⟨nr', -, rfl⟩ := mem_map.mp he
    cases heq
  · intro nr cause' hmem
    obtain ⟨nr', -, heq⟩ := mem_map.mp hmem
    cases heq
    exact ⟨hcause, fun _ => hgone⟩
  · intro nr hnr
    change nr ∈ submittedOn r (s.log ++ _) at hnr
    rw [hsubmitted] at hnr
    exact h.numbered r nr hnr
  · intro con' hr'
    rw [hgone] at hr'
    cases hr'
  · intro con' _ _ hr'
    rw [hgone] at hr'
    cases hr'
  · exact fun q con' k' sccp' _ _ _ hsccp' hest => ⟨sccp', hsccps k' sccp' hsccp', hest⟩

theorem UplinkInv.move (hpaired : Paired s) (hmove : Move s s') : UplinkInv s' := by
  cases hmove with
  | touch r f hf =>
    refine h.modifyCon r fun con => ?_
    obtain ⟨hlinks, hqueue, hsize⟩ := hf con
    have hsccp : (f con).sccp = con.sccp := congrArg Prod.fst hlinks
    exact Prod.ext hsccp (Prod.ext hqueue hsize)
  | unlink hr hc =>
    refine (h.modifyCon _ (f := fun con => { con with conn := none }) fun _ => rfl).aside rfl rfl rfl fun _ => rfl
  | endConn hc hnone =>
    rename_i c conn
    unfold endConn
    cases conn.lchan <;> exact h.aside rfl rfl rfl fun _ => rfl
  | enter l => exact h.aside rfl rfl rfl fun _ => rfl
  | join hc hnone => exact h.join _
  | spare =>
    exact h.aside rfl rfl rfl fun q => get?_alloc_remove s.sccps _ q
  | submit hqueue => exact h.submit hqueue
  | setState hk state hstate => exact h.setState _ hstate
  | drain hr hk => exact h.drain hpaired hr hk
  | ended hr hk hconn cause hcause => exact h.end hr _ hcause

end

/-! ## Runs -/

theorem uplinkInv_start : UplinkInv {} where
  ledger _ := .empty
  late := .nil
  causes _ _ _ h := absurd h not_mem_nil
  ended _ _ h := absurd h not_mem_nil
  size _ _ h := by cases h
  drained _ _ _ _ h := by cases h
  below _ h := absurd h not_mem_nil
  numbered _ _ h := absurd h not_mem_nil
  few _ _ h := by cases h
  reported _ _ _ _ h := by cases h

/-- **Messages to the MSC keep their order**, in every state that is reached. -/
theorem uplink_ordered (h : Reachable bscSystem s) : UplinkOk s := by
  have hinv : UplinkInv s := by
    refine h.invariant_of (J := Paired) (fun s hs => paired_of_reachable hs) ?_ ?_
    · rintro s rfl
      exact uplinkInv_start
    · intro s ev s' hpaired hs _ hstep
      obtain ⟨s'', hs'', hmoves⟩ := step_moves hpaired ev
      change s.step ev = some s' at hstep
      rw [hs''] at hstep
      obtain rfl := Option.some.inj hstep
      have hboth : Paired s'' ∧ UplinkInv s'' :=
        closure_preserves (I := fun s => Paired s ∧ UplinkInv s)
          (fun _ _ h hmove => ⟨h.1.move hmove, h.2.move h.1 hmove⟩) hmoves ⟨hpaired, hs⟩
      exact hboth.2
  exact hinv.toUplinkOk

theorem uplink_ordered_cleared : ∃ s : Bsc, writtenOn 0 s.log = [0, 1] ∧ UplinkOk s := by
  obtain ⟨s, hs, hwritten⟩ : ∃ s ∈ guardedRun step (fun _ _ => True) {} clearedEvents,
      writtenOn 0 s.log = [0, 1] := by decide +kernel
  exact ⟨s, hwritten, uplink_ordered (reachable_events hs)⟩

end OpenBsc.OsmoBsc
