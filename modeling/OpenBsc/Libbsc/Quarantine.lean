import OpenBsc.Lib.Log
import OpenBsc.Libbsc.RadioSteps

/-!
# `Libbsc.Quarantine` — channels that are not used again for a while after an error

A channel that is released after an error goes to the error state, and its error timer is to take it back. But whoever
frees the channel ends that state: the acknowledgement of the release, the timer that waits for it, a refusal of its
activation; and so do those who set another one. In a run without such steps the channel is not allocated before the
timer has expired or its transceiver was reset.
-/

namespace OpenBsc.Libbsc

open Transition RadioNet RadioChan Log RadioOut List Option

variable {net net' : RadioNet} {ch ch' : RadioChan} {ev : RadioEvent} {id : ChanId} {log outs : List RadioOut}

/-! ## The log -/

/-- The quarantine of a channel begins or ends. -/
def RadioOut.marks : RadioOut → Option (ChanId × Bool)
  | .rfChanRel id true => some (id, true)
  | .errorTimeout id | .reset id => some (id, false)
  | _ => none

/-- The channel was released after an error, and neither has its error timer expired nor was its transceiver reset. -/
def quarantined (id : ChanId) (log : List RadioOut) : Bool := Log.latest RadioOut.marks id false log

/-- **No channel is allocated in quarantine.** -/
def NotReallocated (log : List RadioOut) : Prop :=
  Log.Justified (fun before out => ∀ id n?, out = .allocated id n? → quarantined id before = false) log

theorem quarantined_append (id : ChanId) (log outs : List RadioOut) :
    quarantined id (log ++ outs) = latest marks id (quarantined id log) outs :=
  latest_append marks id false log outs

/-- The entry is an allocation. -/
def RadioOut.allocates : RadioOut → Bool
  | .allocated .. => true
  | _ => false

theorem NotReallocated.append (h : NotReallocated log) (houts : ∀ out ∈ outs, out.allocates = false) :
    NotReallocated (log ++ outs) := by
  refine Log.Justified.append h fun out hout before id n? heq => ?_
  rw [heq] at hout
  cases houts _ hout

/-! ## Channels -/

/-- The channel is in the error state, and its error timer runs. -/
def RadioChan.Quarantine (ch : RadioChan) : Prop := ch.lchan.state = .relErr ∧ ch.life.errorTimer = true

/-- **What a handler does to the quarantine of its channel.** -/
inductive QuarantineStep (ch ch' : RadioChan) : Prop where
  | keeps (houts : ∀ out ∈ ch'.outs, out.marks = none ∧ out.allocates = false)
      (hkept : ch.Quarantine → ch'.Quarantine)
  | begins (houts : ch'.outs = [.rfChanRel ch.id true]) (h : ch'.Quarantine)
  | ends {before : List RadioOut} {out : RadioOut} (houts : ch'.outs = before ++ [out])
      (hbefore : ∀ o ∈ before, o.marks = none ∧ o.allocates = false) (hmarks : out.marks = some (ch.id, false))
      (hallocates : out.allocates = false)

/-- The handler tells nobody anything. -/
theorem QuarantineStep.silent (houts : ch'.outs = []) (hkept : ch.Quarantine → ch'.Quarantine) :
    QuarantineStep ch ch' := by
  refine .keeps (fun out hout => ?_) hkept
  rw [houts] at hout
  cases hout

theorem QuarantineStep.elsewhere (hstate : ch.lchan.state ≠ .relErr)
    (houts : ∀ out ∈ ch'.outs, out.marks = none ∧ out.allocates = false) : QuarantineStep ch ch' :=
  .keeps houts fun h => absurd h.1 hstate

theorem unmarked_of_isRelease {out : RadioOut} (h : RadioChan.IsRelease id out) :
    out.marks = none ∧ out.allocates = false := by
  rcases h with rfl | ⟨linkId, reason, rfl⟩
  · exact ⟨rfl, rfl⟩
  · exact ⟨rfl, rfl⟩

theorem unmarked_lchanFree (ch : RadioChan) (h : ∀ out ∈ ch.outs, out.marks = none ∧ out.allocates = false) :
    ∀ out ∈ ch.lchanFree.outs, out.marks = none ∧ out.allocates = false := by
  rw [ch.lchanFree_eq]
  intro out hout
  rcases mem_append.mp hout with hout | hout
  · exact h out hout
  · rcases mem_append.mp hout with hout | hout
    · split at hout
      · obtain rfl := mem_singleton.mp hout
        exact ⟨rfl, rfl⟩
      · cases hout
    · obtain rfl := mem_singleton.mp hout
      exact ⟨rfl, rfl⟩

theorem RadioChan.Quarantine.setLife (h : ch.Quarantine) {f : LchanLife → LchanLife}
    (hf : ch.life.errorTimer = true → (f ch.life).errorTimer = true) : (ch.setLife f).Quarantine := ⟨h.1, hf h.2⟩

/-- A channel is released after an error, which begins the quarantine unless it is on. -/
theorem quarantineStep_rslRfChanRelease (houts : ch.outs = []) : QuarantineStep ch (ch.rslRfChanRelease true) := by
  by_cases herr : ch.lchan.state = .relErr
  · rw [ch.rslRfChanRelease_of_relErr true herr]
    exact .silent houts id
  · rw [ch.rslRfChanRelease_error herr]
    refine .begins ?_ ⟨rfl, rfl⟩
    show ch.outs ++ _ = _
    rw [houts]
    rfl

/-- The message does not end the quarantine of the channel: it is not in the error state, or the message neither frees
    nor activates it; and it is not refused for being active, which begins the quarantine and ends it at once. -/
def RadioChan.keepsQuarantine (ch : RadioChan) : RslMsg → Bool
  | .chanActivNack true (some .rchAlrActvAlloc) _ => false
  | .chanActivAck true | .chanActivNack true _ _ | .rfChanRelAck => ch.lchan.state ≠ .relErr
  | _ => true

theorem unmarked_rslRxChanActAck (freq : TsFrequency) (chanNr : Octet) (houts : ch.outs = []) :
    ∀ out ∈ (ch.rslRxChanActAck freq chanNr true).outs, out.marks = none ∧ out.allocates = false := by
  unfold RadioChan.rslRxChanActAck
  rw [if_pos rfl]
  cases hrqd : ch.life.rqd with
  | none =>
    intro out hout
    simp only [RadioChan.setLife, RadioChan.setState, RadioChan.emit, hrqd, houts, nil_append, mem_singleton] at hout
    obtain rfl := hout
    exact ⟨rfl, rfl⟩
  | some rqd =>
    intro out hout
    simp only [RadioChan.setLife, RadioChan.setState, RadioChan.emit, RadioChan.rslSendImmAssignment, hrqd, houts,
      nil_append, mem_append, mem_singleton] at hout
    rcases hout with rfl | rfl
    · exact ⟨rfl, rfl⟩
    · exact ⟨rfl, rfl⟩

theorem quarantineStep_receive (houts : ch.outs = []) (freq : TsFrequency) (chanNr : Octet) {msg : RslMsg}
    (hkeep : ch.keepsQuarantine msg = true) : QuarantineStep ch (ch.receive freq chanNr msg) := by
  have hsilent {out : RadioOut} (hout : out ∈ ch.outs) : out.marks = none ∧ out.allocates = false := by
    rw [houts] at hout
    cases hout
  have hreleased (linkId : Octet) : QuarantineStep ch (ch.sapiReleased linkId) := by
    obtain ⟨outs, hrelease, heq, -⟩ := ch.sapiReleased_cases linkId
    rw [heq]
    refine .keeps (fun out hout => ?_) fun h => h
    rcases mem_append.mp hout with hout | hout
    · exact hsilent hout
    · exact unmarked_of_isRelease (hrelease out hout)
  cases msg with
  | chanActivAck ieChan =>
    cases ieChan with
    | false => exact .silent houts id
    | true => exact .elsewhere (of_decide_eq_true hkeep) (unmarked_rslRxChanActAck freq chanNr houts)
  | chanActivNack ieChan cause givenUp =>
    cases ieChan with
    | false => exact .silent houts id
    | true =>
      -- the refusal frees the channel
      have hrefused {cause : Option RslCause} (hcause : cause ≠ some .rchAlrActvAlloc) :
          ∀ out ∈ (ch.rslRxChanActNack true cause givenUp).outs, out.marks = none ∧ out.allocates = false := by
        have hstate : ch.rslRxChanActNack true cause givenUp = RadioChan.lchanFree
            (let told := ((ch.setLife fun life => { life with actTimer := none }).setState .none).emit
                (.signal ch.id .activateNack)
              if givenUp then told.setLife fun life => { life with conn := none, t10 := false } else told) := by
          rcases cause with _ | cause
          · rfl
          · cases cause with
            | rchAlrActvAlloc => exact absurd rfl hcause
            | other => rfl
        rw [hstate]
        refine unmarked_lchanFree _ fun out hout => ?_
        have hout : out ∈ ch.outs ++ [signal ch.id .activateNack] := by
          cases givenUp with
          | true | false => exact hout
        rcases mem_append.mp hout with hout | hout
        · exact hsilent hout
        · obtain rfl := mem_singleton.mp hout
          exact ⟨rfl, rfl⟩
      rcases cause with _ | cause
      · exact .elsewhere (of_decide_eq_true hkeep) (hrefused (by decide))
      · cases cause with
        | rchAlrActvAlloc => cases hkeep
        | other => exact .elsewhere (of_decide_eq_true hkeep) (hrefused (by decide))
  | connFail => exact quarantineStep_rslRfChanRelease houts
  | rfChanRelAck =>
    refine .elsewhere (of_decide_eq_true hkeep) (unmarked_lchanFree _ fun out hout => ?_)
    split at hout
    · exact hsilent hout
    · exact hsilent hout
  | estInd | estConf => exact .silent houts id
  | relInd linkId => exact hreleased linkId
  | relConf linkId => exact hreleased linkId
  | errorInd cause =>
    cases cause with
    | t200Expired => exact quarantineStep_rslRfChanRelease houts
    | other => exact .silent houts id

theorem quarantineStep_lchanRelease (hstate : ch.lchan.state ≠ .relErr) (houts : ch.outs = []) (sachDeact : Bool)
    (reason : Octet) : QuarantineStep ch (ch.lchanRelease sachDeact reason) := by
  obtain ⟨out, hrelease, heq⟩ := ch.lchanRelease_eq sachDeact reason
  rw [heq]
  refine .elsewhere hstate fun o ho => ?_
  have ho : o ∈ ch.outs ++ [out] := ho
  rw [houts, nil_append, mem_singleton] at ho
  exact ho ▸ unmarked_of_isRelease hrelease

theorem quarantineStep_trxReset (houts : ch.outs = []) : QuarantineStep ch ch.trxReset := by
  refine QuarantineStep.ends
    (rfl : ch.trxReset.outs = (if ch.lchan.state ≠ .none then ch.lchanFree else ch).outs ++ _) ?_ rfl rfl
  intro out hout
  split at hout
  · refine unmarked_lchanFree ch (fun o ho => ?_) out hout
    rw [houts] at ho
    cases ho
  · have hout : out ∈ ch.outs := hout
    rw [houts] at hout
    cases hout

/-! ## The result -/

/-- No channel of a timeslot without a combination is in the error state; `ts_alloc` does not look. -/
def GsmBts.unassignedQuiet (bts : GsmBts) : Bool :=
  bts.trxList.all fun trx => (List.finRange 8).all fun j => ((trx.ts.get j).pchan ≠ .none) ||
    (List.finRange 8).all fun ss => ((trx.ts.get j).lchan.get ss).state ≠ .relErr

/-- **The step leaves the channels in the error state to their error timers.** They are not freed, activated or
    released, and none is on a timeslot that a channel is allocated from for the first time. -/
def keepsQuarantine (net : RadioNet) : RadioEvent → Bool
  | .rsl b trx chanNr msg => ((lookup b trx chanNr).bind net.chan?).all fun ch => ch.keepsQuarantine msg
  | .actTimer id | .release id _ _ | .t10 id => (net.chan? id).all fun ch => ch.lchan.state ≠ .relErr
  | .chanRqd b _ | .assign b _ _ _ | .handover b _ _ _ => net.btss[b]?.all GsmBts.unassignedQuiet
  | _ => true

theorem quarantineStep_handled (hget : net.chan? ch.id = some ch) (hh : Handled net ev ch ch')
    (hkeep : keepsQuarantine net ev = true) : QuarantineStep ch ch' := by
  obtain ⟨-, -, houts, -⟩ := of_chan? hget
  -- the events that are for channels which are not in the error state
  have hstate : ((net.chan? ch.id).all fun ch => ch.lchan.state ≠ .relErr) = true → ch.lchan.state ≠ .relErr := by
    intro hall
    rw [hget] at hall
    exact of_decide_eq_true hall
  cases hh with
  | @rsl b trx chanNr _ msg hlookup =>
    refine quarantineStep_receive houts _ _ ?_
    have hall : ((lookup b trx chanNr).bind net.chan?).all (fun ch => ch.keepsQuarantine msg) = true := hkeep
    rw [hlookup, bind_some, hget] at hall
    exact hall
  | newConn | giveUp => exact .silent houts fun h => h.setLife id
  | release _ sachDeact reason => exact quarantineStep_lchanRelease (hstate hkeep) houts sachDeact reason
  | t10Stopped => exact .silent houts fun h => h.setLife id
  | t10 => exact quarantineStep_lchanRelease (hstate hkeep) houts false 1
  | actTimer =>
    refine .elsewhere (hstate hkeep) (unmarked_lchanFree _ fun out hout => ?_)
    have hout : out ∈ ch.outs := hout
    rw [houts] at hout
    cases hout
  | t3101 =>
    unfold t3101Expired
    by_cases herr : ch.lchan.state = .relErr
    · rw [rslRfChanRelease_of_relErr _ _ (show (ch.setLife _).lchan.state = .relErr from herr)]
      exact .silent houts fun h => h.setLife id
    · rw [rslRfChanRelease_error _ (show (ch.setLife _).lchan.state ≠ .relErr from herr)]
      refine .begins ?_ ⟨rfl, rfl⟩
      show ch.outs ++ _ = _
      rw [houts]
      rfl
  | t3111 =>
    unfold t3111Expired
    by_cases herr : ch.lchan.state = .relErr
    · rw [rslRfChanRelease_of_relErr _ _ (show (ch.setLife _).lchan.state = .relErr from herr)]
      exact .silent houts fun h => h.setLife id
    · rw [rslRfChanRelease_normal _ (show (ch.setLife _).lchan.state ≠ .relErr from herr)]
      refine .elsewhere herr fun out hout => ?_
      have hout : out ∈ ch.outs ++ [rfChanRel ch.id false] := hout
      rw [houts, nil_append, mem_singleton] at hout
      subst hout
      exact ⟨rfl, rfl⟩
  | errorTimer =>
    rw [ch.errorTimeoutCb_eq]
    exact .ends rfl (fun o ho => by rw [houts] at ho; cases ho) rfl rfl

/-- A channel in quarantine is in the error state, and its error timer runs; none was allocated. -/
structure QuarantineInv (net : RadioNet) : Prop where
  kept : ∀ id, quarantined id net.outs = true → ∃ ch, net.chan? id = some ch ∧ ch.Quarantine
  log : NotReallocated net.outs

theorem marks_of_quarantineStep (h : QuarantineStep ch ch') :
    (∀ out ∈ ch'.outs, out.allocates = false) ∧ ∀ out ∈ ch'.outs, ∀ i q, out.marks = some (i, q) → i = ch.id := by
  cases h with
  | keeps houts hkept =>
    refine ⟨fun out hout => (houts out hout).2, fun out hout i q hmarks => ?_⟩
    rw [(houts out hout).1] at hmarks
    cases hmarks
  | begins houts =>
    rw [houts]
    refine ⟨fun out hout => ?_, fun out hout i q hmarks => ?_⟩
    · obtain rfl := mem_singleton.mp hout
      rfl
    · obtain rfl := mem_singleton.mp hout
      exact (Prod.mk.inj (Option.some.inj hmarks)).1.symm
  | ends houts hbefore hmark hallocates =>
    rw [houts]
    refine ⟨fun out hout => ?_, fun out hout i q hmarks => ?_⟩
    · rcases mem_append.mp hout with hout | hout
      · exact (hbefore out hout).2
      · exact mem_singleton.mp hout ▸ hallocates
    · rcases mem_append.mp hout with hout | hout
      · rw [(hbefore out hout).1] at hmarks
        cases hmarks
      · rw [mem_singleton.mp hout, hmark] at hmarks
        exact (Prod.mk.inj (Option.some.inj hmarks)).1.symm

theorem quarantine_of_quarantineStep (h : QuarantineStep ch ch') {q : Bool} (hq : q = true → ch.Quarantine)
    (hafter : latest marks ch.id q ch'.outs = true) : ch'.Quarantine := by
  cases h with
  | keeps houts hkept =>
    rw [latest_of_none fun out hout => (houts out hout).1] at hafter
    exact hkept (hq hafter)
  | begins houts h => exact h
  | ends houts hbefore hmark =>
    rw [houts, latest_append, latest_cons, update_self hmark] at hafter
    cases hafter

section

variable (h : QuarantineInv net)

include h

theorem QuarantineInv.put (hget : net.chan? ch.id = some ch) (hch : QuarantineStep ch ch') :
    QuarantineInv (net.put ch.id ch') := by
  obtain ⟨hallocates, hmarks⟩ := marks_of_quarantineStep hch
  refine ⟨fun id hid => ?_, h.log.append hallocates⟩
  have hid : quarantined id (net.outs ++ ch'.outs) = true := hid
  rw [quarantined_append] at hid
  rw [chan?_put hget]
  by_cases hsame : id = ch.id
  · subst hsame
    refine ⟨_, if_pos rfl, ?_⟩
    have hq : quarantined ch.id net.outs = true → ch.Quarantine := by
      intro hq
      obtain ⟨found, hfound, hquarantine⟩ := h.kept _ hq
      rw [hget] at hfound
      exact Option.some.inj hfound ▸ hquarantine
    have hafter : ch'.Quarantine := quarantine_of_quarantineStep hch hq hid
    exact hafter
  · rw [latest_of_other fun out hout i q hi heq => hsame (heq.symm.trans (hmarks out hout i q hi))] at hid
    rw [if_neg hsame]
    exact h.kept id hid

theorem QuarantineInv.quiet (outs : List RadioOut) (hchan : ∀ i, net'.chan? i = net.chan? i)
    (houts : net'.outs = net.outs ++ outs) (hunmarked : ∀ out ∈ outs, out.marks = none ∧ out.allocates = false) :
    QuarantineInv net' := by
  refine ⟨fun id hid => ?_, houts ▸ h.log.append fun out hout => (hunmarked out hout).2⟩
  rw [houts, quarantined_append, latest_of_none fun out hout => (hunmarked out hout).1] at hid
  rw [hchan]
  exact h.kept id hid

theorem QuarantineInv.notQuarantined {type : GsmChan} {f : RadioChan → RadioChan}
    (ha : Activated net net' id ch type f) (hquiet : net.btss[id.bts]?.all GsmBts.unassignedQuiet = true) :
    quarantined id net.outs = false := by
  by_contra hq
  rw [Bool.not_eq_false] at hq
  obtain ⟨found, hfound, hquarantine⟩ := h.kept id hq
  cases ha.get.symm.trans hfound
  rcases ha.takeable with hfree | ⟨hpchan, -⟩
  · simp only [GsmLchan.isFree, Bool.and_eq_true, beq_iff_eq] at hfree
    exact absurd (hfree.2.symm.trans hquarantine.1) (by decide)
  · obtain ⟨bts, hbts, hpchan⟩ := bind_eq_some_iff.mp hpchan
    obtain ⟨trx, htrx, hpchan⟩ := map_eq_some_iff.mp hpchan
    obtain ⟨-, -, -, hlchan⟩ := of_chan? ha.get
    rw [hbts, bind_some, lchan?_of_get htrx] at hlchan
    rw [hbts] at hquiet
    have htrx := all_eq_true.mp hquiet trx (mem_of_getElem? htrx)
    have hts := all_eq_true.mp htrx id.ref.ts (mem_finRange _)
    rw [hpchan] at hts
    have hss := all_eq_true.mp hts id.ref.ss (mem_finRange _)
    rw [Option.some.inj hlchan] at hss
    exact of_decide_eq_true hss hquarantine.1

theorem QuarantineInv.activated {type : GsmChan} {f : RadioChan → RadioChan}
    (ha : Activated net net' id ch type f) (hquiet : net.btss[id.bts]?.all GsmBts.unassignedQuiet = true)
    (before outs : List RadioOut) (n? : Option Nat) (houts : net'.outs = net.outs ++ before ++ .allocated id n? :: outs)
    (hbefore : ∀ out ∈ before, out.marks = none ∧ out.allocates = false)
    (hunmarked : ∀ out ∈ outs, out.marks = none ∧ out.allocates = false) : QuarantineInv net' := by
  have hnot := h.notQuarantined ha hquiet
  have hmarks (i : ChanId) : quarantined i net'.outs = quarantined i net.outs := by
    rw [houts, quarantined_append, quarantined_append, latest_of_none (fun out hout => (hbefore out hout).1),
      latest_cons]
    exact latest_of_none fun out hout => (hunmarked out hout).1
  refine ⟨fun i hi => ?_, ?_⟩
  · rw [hmarks] at hi
    have hne : i ≠ id := by
      rintro rfl
      exact Bool.false_ne_true (hnot.symm.trans hi)
    rw [ha.chan, if_neg hne]
    exact h.kept i hi
  · rw [houts, ← singleton_append, ← append_assoc]
    refine NotReallocated.append ?_ fun out hout => (hunmarked out hout).2
    refine (h.log.append fun out hout => (hbefore out hout).2).snoc ?_
    rintro i n heq
    cases heq
    rw [quarantined_append, latest_of_none fun out hout => (hbefore out hout).1]
    exact hnot

end

/-- The messages that are about no quarantine. -/
theorem unmarked_activateForConn (houts : ch.outs = []) (type : GsmChan) (c : Nat) (t10 sent : Bool) :
    ∀ out ∈ ({ ch with lchan := ch.lchan.allocate type : RadioChan }.activateForConn c t10 sent).outs,
      out.marks = none ∧ out.allocates = false := by
  cases sent with
  | false =>
    refine unmarked_lchanFree _ fun out hout => ?_
    have hout : out ∈ ch.outs := hout
    rw [houts] at hout
    cases hout
  | true =>
    intro out hout
    have hout : out ∈ ch.outs ++ [chanActiv ch.id] := hout
    rw [houts, nil_append, mem_singleton] at hout
    subst hout
    exact ⟨rfl, rfl⟩

theorem QuarantineInv.step (h : QuarantineInv net) (hkeep : keepsQuarantine net ev = true)
    (hstep : net.step ev = some net') : QuarantineInv net' := by
  cases stepped_of_step hstep with
  | handled hget hh => exact h.put hget (quarantineStep_handled hget hh hkeep)
  | quiet hsame =>
    refine h.quiet [] hsame.chan ?_ (forall_mem_nil _)
    rw [hsame.outs, append_nil]
  | reset =>
    refine trxReset_keeps (fun net id ch h hget => ?_) _ _ h
    obtain ⟨rfl, -, houts, -⟩ := of_chan? hget
    exact h.put hget (quarantineStep_trxReset houts)
  | rejected halloc hparse hchan hcombined hnext houts =>
    refine h.quiet _ hchan houts ?_
    intro out hout
    rcases mem_cons.mp hout with rfl | hout
    · exact ⟨rfl, rfl⟩
    · split at hout
      · cases hout
      · obtain rfl := mem_singleton.mp hout
        exact ⟨rfl, rfl⟩
  | @requested data ref ta id ch type _ halloc hparse ha hnext houts =>
    refine h.activated ha hkeep [.chanRqd net.next id.bts ref ta] [.chanActiv id] (some net.next) ?_ ?_ ?_
    · rw [houts, append_assoc]
      rfl
    · exact forall_mem_singleton.mpr ⟨rfl, rfl⟩
    · exact forall_mem_singleton.mpr ⟨rfl, rfl⟩
  | @activated _ c t10 sent id ch type type' _ hev halloc ha hnext houts =>
    obtain ⟨-, -, hnone, -⟩ := of_chan? ha.get
    have hquiet : net.btss[id.bts]?.all GsmBts.unassignedQuiet = true := by
      subst hev
      cases t10 with
      | true | false => exact hkeep
    refine h.activated ha hquiet [] _ none ?_ (forall_mem_nil _) (unmarked_activateForConn hnone type c t10 sent)
    rw [houts, append_nil]

theorem quarantineInv_idle (h : net.Idle) : QuarantineInv net := by
  refine ⟨fun id hid => ?_, ?_⟩
  · rw [h.outs] at hid
    cases hid
  · rw [h.outs]
    exact .nil

/-- **No channel is used again in quarantine.** In a run whose steps leave the channels in the error state to their
    error timers, a channel that was released after an error is not allocated before its error timer expires or its
    transceiver is reset; until then it is in the error state, and the timer runs. -/
theorem notReallocated_of_keepsQuarantine
    (h : ReachableBy radioSystem (fun net ev => keepsQuarantine net ev = true) net) :
    NotReallocated net.outs ∧
      ∀ id, quarantined id net.outs = true → ∃ ch, net.chan? id = some ch ∧ ch.lchan.state = .relErr ∧
        ch.life.errorTimer = true := by
  have hinv : QuarantineInv net :=
    h.invariant (fun _ hidle => quarantineInv_idle hidle) fun _ _ _ hinv hkeep hstep => hinv.step hkeep hstep
  exact ⟨hinv.log, hinv.kept⟩

/-- A phone does not come, and another one asks for a channel before the error timer expires, and one after it. -/
def quarantineRun : List RadioEvent :=
  [.chanRqd 0 [0x13, 0, 0, 0, 0x11, 5], .rsl 0 0 0x20 (.chanActivAck true), .t3101 firstChan,
    .chanRqd 0 [0x13, 1, 0, 0, 0x11, 5], .errorTimer firstChan, .actTimer firstChan,
    .chanRqd 0 [0x13, 2, 0, 0, 0x11, 5]]

theorem notReallocated_quarantineRun :
    ∃ net, guardedRun RadioNet.step (fun net ev => keepsQuarantine net ev = true) smallRadioNet quarantineRun =
      some net ∧ NotReallocated net.outs := by
  obtain ⟨net, hnet⟩ : ∃ net, guardedRun RadioNet.step (fun net ev => keepsQuarantine net ev = true) smallRadioNet
      quarantineRun = some net :=
    isSome_iff_exists.mp (by decide +kernel)
  exact ⟨net, hnet, (notReallocated_of_keepsQuarantine
    (ReachableBy.guardedRun (fun _ _ _ h => h) (.init idle_smallRadioNet) hnet)).1⟩

/-- The link of a channel fails, and its release is acknowledged: the next phone gets the channel at once. -/
theorem reallocated_in_quarantine :
    ∃ net, Reachable radioSystem net ∧ quarantined firstChan (net.outs.take 8) = true ∧ ¬NotReallocated net.outs := by
  obtain ⟨net, hnet, hquarantined, hsplit⟩ : ∃ net ∈ guardedRun RadioNet.step (fun _ _ => True) smallRadioNet
      [.chanRqd 0 [0x13, 0, 0, 0, 0x11, 5], .rsl 0 0 0x20 (.chanActivAck true), .rsl 0 0 0x20 .connFail,
        .rsl 0 0 0x20 .rfChanRelAck, .chanRqd 0 [0x13, 1, 0, 0, 0x11, 5]],
      quarantined firstChan (net.outs.take 8) = true ∧
        net.outs = net.outs.take 8 ++ .allocated firstChan (some 1) :: net.outs.drop 9 := by
    decide +kernel
  refine ⟨net, ReachableBy.guardedRun (fun _ _ _ h => h) (.init idle_smallRadioNet) hnet, hquarantined, fun h => ?_⟩
  have hnot := h _ _ _ hsplit _ _ rfl
  exact Bool.false_ne_true (hnot.symm.trans hquarantined)

end OpenBsc.Libbsc
