import Mathlib.Data.List.Nodup
import OpenBsc.Lib.Log
import OpenBsc.Libbsc.RadioSteps

/-!
# `Libbsc.ImmAssignment` — every phone that asks for a channel gets its own

The request of a phone is parked on the channel that is allocated for it, until the BTS has activated the channel; then
it is answered. A request that is parked is the one its channel was allocated for last, and no answer was sent to it.

A request for which there is no channel is answered with a message that is no IMMEDIATE ASSIGNMENT REJECT
(`not_wellFormed_immAssReject`), or not at all.
-/

namespace OpenBsc.Libbsc

open Transition RadioNet RadioChan RadioOut Log ReachableBy List Option

variable {net net' : RadioNet} {ch ch' : RadioChan} {ev : RadioEvent} {id : ChanId} {log outs : List RadioOut} {n : Nat}

/-! ## The log -/

/-- The CHANNEL REQUIRED that a message answers. -/
def RadioOut.answers : RadioOut → Option Nat
  | .immAss n _ _ | .immAssRej n _ _ _ => some n
  | _ => none

/-- For which CHANNEL REQUIRED a channel is allocated from now on, if for one. -/
def RadioOut.holds : RadioOut → Option (ChanId × Option Nat)
  | .allocated id n? => some (id, n?)
  | .freed id => some (id, none)
  | _ => none

/-- The CHANNEL REQUIRED that an entry is about. -/
def RadioOut.about : RadioOut → Option Nat
  | .chanRqd n _ _ _ | .immAss n _ _ | .immAssRej n _ _ _ => some n
  | .allocated _ n? => n?
  | _ => none

/-- The CHANNEL REQUIRED for which the channel was allocated and not freed since. -/
def holder (id : ChanId) (log : List RadioOut) : Option Nat := Log.latest RadioOut.holds id none log

/-- The CHANNEL REQUIRED that were answered. -/
def answered (log : List RadioOut) : List Nat := log.filterMap RadioOut.answers

/-- An IMMEDIATE ASSIGNMENT, and what stands before it in the log: the channel is allocated for the request, whose
    reference and timing advance the message has, with the frequency of the channel and a number that leads to it. -/
structure Answering (freq : ChanId → TsFrequency) (before : List RadioOut) (n : Nat) (id : ChanId) (ia : ImmAss) :
    Prop where
  requested : ∃ ref ta chanNr, .chanRqd n id.bts ref ta ∈ before ∧ ia = immAssignment (freq id) chanNr ref ta ∧
    lchanLookup chanNr = some (id.ref.ts, id.ref.ss)
  allocated : holder id before = some n
  unanswered : n ∉ answered before

/-- A CHANNEL REQUIRED got a channel, or a well-formed IMMEDIATE ASSIGNMENT REJECT. -/
def Served (log : List RadioOut) (n b : Nat) (ref : ReqRef) : Prop :=
  (∃ id, .allocated id (some n) ∈ log) ∨ ∃ iar len, .immAssRej n b iar len ∈ log ∧ iar.WellFormed ref len

/-- **Every request is answered by the channel that is allocated for it.** -/
structure PairedAnswers (net : RadioNet) : Prop where
  paired : Log.Justified (fun before out => ∀ n id ia, out = .immAss n id ia → Answering net.freqOf before n id ia)
    net.outs
  once : (answered net.outs).Nodup
  served : ∀ n b ref ta, .chanRqd n b ref ta ∈ net.outs → Served net.outs n b ref

theorem holder_append (id : ChanId) (log outs : List RadioOut) :
    holder id (log ++ outs) = latest holds id (holder id log) outs :=
  latest_append holds id none log outs

theorem answered_append (log outs : List RadioOut) : answered (log ++ outs) = answered log ++ answered outs :=
  filterMap_append

/-- The entry neither asks nor answers, and gives a channel to nobody. -/
def RadioOut.aside (id : ChanId) : RadioOut → Bool
  | .chanRqd .. | .immAss .. | .immAssRej .. | .allocated .. => false
  | .freed i => i = id
  | _ => true

/-- Nor does it take one from anybody. -/
def RadioOut.silent : RadioOut → Bool
  | .chanRqd .. | .immAss .. | .immAssRej .. | .allocated .. | .freed _ => false
  | _ => true

variable {out : RadioOut}

theorem RadioOut.aside_of_silent (h : out.silent = true) (id : ChanId) : out.aside id = true := by
  cases out with
  | chanRqd | immAss | immAssRej | allocated | freed => cases h
  | _ => rfl

theorem RadioOut.about_of_aside (h : out.aside id = true) : out.about = none := by
  cases out with
  | chanRqd | immAss | immAssRej | allocated => cases h
  | _ => rfl

theorem RadioOut.answers_of_aside (h : out.aside id = true) : out.answers = none := by
  cases out with
  | chanRqd | immAss | immAssRej | allocated => cases h
  | _ => rfl

theorem RadioOut.holds_of_aside (h : out.aside id = true) {i : ChanId} {n? : Option Nat}
    (hholds : out.holds = some (i, n?)) : i = id := by
  cases out with
  | allocated => cases h
  | freed j =>
    cases hholds
    exact of_decide_eq_true h
  | _ => cases hholds

theorem RadioOut.holds_of_silent (h : out.silent = true) : out.holds = none := by
  cases out with
  | allocated | freed => cases h
  | _ => rfl

theorem answered_of_aside (h : ∀ out ∈ outs, out.aside id = true) : answered outs = [] :=
  filterMap_eq_nil_iff.mpr fun out hout => answers_of_aside (h out hout)

/-! ## Channels -/

/-- **What a handler does to the request that is parked on its channel.** -/
inductive RqdStep (freq : TsFrequency) (chanNr : Octet) (ch ch' : RadioChan) : Prop where
  | parked (houts : ∀ out ∈ ch'.outs, out.silent = true) (hrqd : ch'.life.rqd = ch.life.rqd)
  | dropped (houts : ∀ out ∈ ch'.outs, out.aside ch.id = true) (hrqd : ch'.life.rqd = none)
  | answered {rqd : ChanRqd} (hparked : ch.life.rqd = some rqd)
      (houts : ch'.outs = [.immAss rqd.id ch.id (immAssignment freq chanNr rqd.ref rqd.ta), .signal ch.id .activateAck])
      (hrqd : ch'.life.rqd = none)

section Handlers

variable {freq : TsFrequency} {chanNr : Octet}

/-- The handler tells nobody anything. -/
theorem RqdStep.quiet (houts : ch'.outs = []) (hrqd : ch'.life.rqd = ch.life.rqd) : RqdStep freq chanNr ch ch' := by
  refine .parked (fun out hout => ?_) hrqd
  rw [houts] at hout
  cases hout

theorem RqdStep.tells {out : RadioOut} (houts : ch'.outs = ch.outs ++ [out]) (hch : ch.outs = [])
    (hsilent : out.silent = true) (hrqd : ch'.life.rqd = ch.life.rqd) : RqdStep freq chanNr ch ch' := by
  refine .parked (fun o hout => ?_) hrqd
  rw [houts, hch, nil_append, mem_singleton] at hout
  exact hout ▸ hsilent

theorem silent_of_isRelease (h : RadioChan.IsRelease id out) : out.silent = true := by
  rcases h with rfl | ⟨linkId, reason, rfl⟩
  · rfl
  · rfl

/-- A channel is released by the handler of a message or a timer. -/
theorem rqdStep_rslRfChanRelease_setLife (houts : ch.outs = []) (error : Bool) {f : LchanLife → LchanLife}
    (hf : (f ch.life).rqd = ch.life.rqd) : RqdStep freq chanNr ch ((ch.setLife f).rslRfChanRelease error) := by
  by_cases herr : (ch.setLife f).lchan.state = .relErr
  · rw [rslRfChanRelease_of_relErr _ error herr]
    exact .quiet houts hf
  · cases error with
    | true =>
      rw [rslRfChanRelease_error _ herr]
      exact .tells rfl houts rfl hf
    | false =>
      rw [rslRfChanRelease_normal _ herr]
      exact .tells rfl houts rfl hf

theorem rqdStep_rslRfChanRelease (houts : ch.outs = []) (error : Bool) :
    RqdStep freq chanNr ch (ch.rslRfChanRelease error) :=
  rqdStep_rslRfChanRelease_setLife houts error (show (id ch.life).rqd = ch.life.rqd from rfl)

theorem aside_lchanFree (ch : RadioChan) (h : ∀ out ∈ ch.outs, out.silent = true) :
    ∀ out ∈ ch.lchanFree.outs, out.aside ch.id = true := by
  rw [ch.lchanFree_eq]
  intro out hout
  rcases mem_append.mp hout with hout | hout
  · exact aside_of_silent (h out hout) ch.id
  · rcases mem_append.mp hout with hout | hout
    · split at hout
      · obtain rfl := mem_singleton.mp hout
        rfl
      · cases hout
    · obtain rfl := mem_singleton.mp hout
      exact decide_eq_true rfl

theorem rqd_lchanFree (ch : RadioChan) : ch.lchanFree.life.rqd = none := by
  rw [ch.lchanFree_eq]

/-- A channel is freed by a handler that has told nothing about requests before. -/
theorem rqdStep_lchanFree (hid : ch'.id = ch.id) (h : ∀ out ∈ ch'.outs, out.silent = true) :
    RqdStep freq chanNr ch ch'.lchanFree :=
  .dropped (hid ▸ aside_lchanFree ch' h) (rqd_lchanFree ch')

section

variable (houts : ch.outs = [])

include houts

theorem rqdStep_lchanRelease (sachDeact : Bool) (reason : Octet) :
    RqdStep freq chanNr ch (ch.lchanRelease sachDeact reason) := by
  obtain ⟨out, hout, heq⟩ := ch.lchanRelease_eq sachDeact reason
  rw [heq]
  exact .tells rfl houts (silent_of_isRelease hout) rfl

theorem rqdStep_rslRxChanActAck (ieChan : Bool) :
    RqdStep freq chanNr ch (ch.rslRxChanActAck freq chanNr ieChan) := by
  cases ieChan with
  | false => exact .quiet houts rfl
  | true =>
    unfold RadioChan.rslRxChanActAck
    rw [if_pos rfl]
    cases hrqd : ch.life.rqd with
    | none =>
      refine @RqdStep.tells _ _ _ _ (.signal ch.id .activateAck) ?_ houts rfl ?_
      · simp [RadioChan.setLife, RadioChan.setState, RadioChan.emit, hrqd]
      · simp [RadioChan.setLife, RadioChan.setState, RadioChan.emit, hrqd]
    | some rqd =>
      refine .answered hrqd ?_ ?_
      · simp [RadioChan.setLife, RadioChan.setState, RadioChan.emit, RadioChan.rslSendImmAssignment, hrqd, houts]
      · simp [RadioChan.setLife, RadioChan.setState, RadioChan.emit, RadioChan.rslSendImmAssignment, hrqd]

theorem rqdStep_rslRxChanActNack (ieChan : Bool) (cause : Option RslCause) (givenUp : Bool) :
    RqdStep freq chanNr ch (ch.rslRxChanActNack ieChan cause givenUp) := by
  cases ieChan with
  | false => exact .quiet houts rfl
  | true =>
    have hrefused : ∀ refused : RadioChan, refused.id = ch.id → (∀ out ∈ refused.outs, out.silent = true) →
        RqdStep freq chanNr ch
          (if givenUp then
            (refused.emit (.signal ch.id .activateNack)).setLife fun life => { life with conn := none, t10 := false }
          else refused.emit (.signal ch.id .activateNack)).lchanFree := by
      intro refused hid hsilent
      have htold : ∀ out ∈ refused.outs ++ [.signal ch.id .activateNack], silent out = true := by
        intro out hout
        rcases mem_append.mp hout with hout | hout
        · exact hsilent out hout
        · exact mem_singleton.mp hout ▸ rfl
      cases givenUp with
      | true | false => exact rqdStep_lchanFree hid htold
    have hnothing : ∀ out ∈ ch.outs, silent out = true := by
      rw [houts]
      exact forall_mem_nil _
    cases cause with
    | none => exact hrefused _ rfl hnothing
    | some cause =>
      cases cause with
      | other => exact hrefused _ rfl hnothing
      | rchAlrActvAlloc =>
        refine hrefused ((ch.setLife fun life => { life with actTimer := none }).rslRfChanRelease true) ?_ ?_
        · unfold rslRfChanRelease
          split
          · rfl
          · rfl
        · by_cases herr : ch.lchan.state = .relErr
          · rw [rslRfChanRelease_of_relErr _ _ (show (ch.setLife _).lchan.state = .relErr from herr)]
            exact hnothing
          · rw [rslRfChanRelease_error _ (show (ch.setLife _).lchan.state ≠ .relErr from herr)]
            show ∀ out ∈ ch.outs ++ [.rfChanRel ch.id true], silent out = true
            rw [houts]
            exact forall_mem_singleton.mpr rfl

theorem rqdStep_receive (msg : RslMsg) : RqdStep freq chanNr ch (ch.receive freq chanNr msg) := by
  have hreleased (linkId : Octet) : RqdStep freq chanNr ch (ch.sapiReleased linkId) := by
    obtain ⟨outs, hrelease, heq, -⟩ := ch.sapiReleased_cases linkId
    rw [heq]
    refine .parked (fun out hout => ?_) rfl
    have hout : out ∈ ch.outs ++ outs := hout
    rw [houts, nil_append] at hout
    exact silent_of_isRelease (hrelease out hout)
  cases msg with
  | chanActivAck ieChan => exact rqdStep_rslRxChanActAck houts ieChan
  | chanActivNack ieChan cause givenUp => exact rqdStep_rslRxChanActNack houts ieChan cause givenUp
  | connFail => exact rqdStep_rslRfChanRelease houts true
  | rfChanRelAck =>
    show RqdStep freq chanNr ch ch.rslRxRfChanRelAck
    unfold rslRxRfChanRelAck
    refine rqdStep_lchanFree ?_ ?_
    · split
      · rfl
      · rfl
    · have hnothing : ∀ out ∈ ch.outs, silent out = true := by
        rw [houts]
        exact forall_mem_nil _
      split
      · exact hnothing
      · exact hnothing
  | estInd | estConf => exact .quiet houts rfl
  | relInd linkId => exact hreleased linkId
  | relConf linkId => exact hreleased linkId
  | errorInd cause =>
    cases cause with
    | t200Expired => exact rqdStep_rslRfChanRelease houts true
    | other => exact .quiet houts rfl

theorem rqdStep_trxReset : RqdStep freq chanNr ch ch.trxReset := by
  unfold RadioChan.trxReset
  by_cases hstate : ch.lchan.state = .none
  · rw [if_neg (not_not.mpr hstate)]
    exact .tells rfl houts rfl rfl
  · rw [if_pos hstate]
    refine .dropped (fun out hout => ?_) ?_
    · rcases mem_append.mp hout with hout | hout
      · refine aside_lchanFree ch (fun o ho => ?_) out hout
        rw [houts] at ho
        cases ho
      · exact mem_singleton.mp hout ▸ rfl
    · exact rqd_lchanFree ch

end

end Handlers

theorem rqdStep_handled (hget : net.chan? ch.id = some ch) (hh : Handled net ev ch ch') :
    RqdStep (net.freqOf ch.id) (net.chanNr ch.id) ch ch' := by
  obtain ⟨-, -, houts, -⟩ := of_chan? hget
  cases hh with
  | rsl msg => exact rqdStep_receive houts msg
  | newConn | giveUp => exact .quiet houts rfl
  | release _ sachDeact reason => exact rqdStep_lchanRelease houts sachDeact reason
  | t10Stopped => exact .quiet houts rfl
  | t10 => exact rqdStep_lchanRelease houts false 1
  | actTimer =>
    refine rqdStep_lchanFree rfl fun out hout => ?_
    have hout : out ∈ ch.outs := hout
    rw [houts] at hout
    cases hout
  | t3101 => exact rqdStep_rslRfChanRelease_setLife houts true rfl
  | t3111 => exact rqdStep_rslRfChanRelease_setLife houts false rfl
  | errorTimer =>
    rw [ch.errorTimeoutCb_eq]
    exact .tells rfl houts rfl rfl

/-! ## The result -/

/-- **A phone that asks for a channel gets one, and a channel that is activated for a connection has no request.** A
    request stays on a channel whose transceiver is reset after its error timer has expired. -/
def answersRqd (net : RadioNet) : RadioEvent → Bool
  | .chanRqd b data => (parseChanRqd data).isNone || (net.allocated? (.chanRqd b data)).isSome
  | .assign b type c sent => !sent || (net.allocated? (.assign b type c sent)).all fun id => (net.life id).rqd = none
  | .handover b type c sent =>
    !sent || (net.allocated? (.handover b type c sent)).all fun id => (net.life id).rqd = none
  | _ => true

/-- A request that is parked on a channel: the channel is allocated for it, and it is not answered yet. -/
structure Parked (net : RadioNet) (id : ChanId) (rqd : ChanRqd) : Prop where
  requested : .chanRqd rqd.id id.bts rqd.ref rqd.ta ∈ net.outs
  allocated : holder id net.outs = some rqd.id
  unanswered : rqd.id ∉ answered net.outs
  combined : net.Combined id

/-- Every request that is parked is its channel's own, and no request is parked twice; the next one has a new number. -/
structure PairingInv (net : RadioNet) : Prop where
  parked : ∀ id ch rqd, net.chan? id = some ch → ch.life.rqd = some rqd → Parked net id rqd
  distinct : ∀ i j ch ch' rqd rqd', net.chan? i = some ch → net.chan? j = some ch' → ch.life.rqd = some rqd →
    ch'.life.rqd = some rqd' → rqd.id = rqd'.id → i = j
  fresh : ∀ out ∈ net.outs, ∀ n, out.about = some n → n < net.next
  answers : PairedAnswers net

theorem about_of_answered (h : n ∈ answered log) : ∃ out ∈ log, out.about = some n := by
  obtain ⟨out, hout, hanswers⟩ := mem_filterMap.mp h
  refine ⟨out, hout, ?_⟩
  cases out with
  | immAss | immAssRej => exact hanswers
  | _ => cases hanswers

theorem PairingInv.notAnswered (h : PairingInv net) : net.next ∉ answered net.outs := by
  intro hanswered
  obtain ⟨out, hout, habout⟩ := about_of_answered hanswered
  exact lt_irrefl _ (h.fresh out hout _ habout)

variable {b : Nat}

theorem Served.append {ref : ReqRef} (h : Served log n b ref) (outs : List RadioOut) :
    Served (log ++ outs) n b ref := by
  rcases h with ⟨id, hmem⟩ | ⟨iar, len, hmem, hwell⟩
  · exact .inl ⟨id, mem_append_left _ hmem⟩
  · exact .inr ⟨iar, len, mem_append_left _ hmem, hwell⟩

theorem PairedAnswers.append (h : PairedAnswers net) (hfreq : net'.freq = net.freq)
    (houts : net'.outs = net.outs ++ outs)
    (hanswers : ∀ out ∈ outs, out.answers = none)
    (hserved : ∀ n b ref ta, .chanRqd n b ref ta ∈ outs → Served net'.outs n b ref) : PairedAnswers net' := by
  have hnone : answered outs = [] := filterMap_eq_nil_iff.mpr hanswers
  refine ⟨?_, ?_, ?_⟩
  · have hfreqOf : net'.freqOf = net.freqOf := by
      unfold freqOf
      rw [hfreq]
    rw [hfreqOf, houts]
    refine h.paired.append fun out hout before n id ia heq => ?_
    rw [heq] at hout
    cases hanswers _ hout
  · rw [houts, answered_append, hnone, append_nil]
    exact h.once
  · intro n b ref ta hmem
    rw [houts] at hmem
    rcases mem_append.mp hmem with hmem | hmem
    · rw [houts]
      exact (h.served n b ref ta hmem).append outs
    · exact hserved n b ref ta hmem

theorem Parked.mono {rqd : ChanRqd} (h : Parked net id rqd) (hcombined : net.Combined id → net'.Combined id)
    (houts : net'.outs = net.outs ++ outs) (hholds : ∀ out ∈ outs, ∀ i n?, out.holds = some (i, n?) → i ≠ id)
    (hanswered : rqd.id ∉ answered outs) : Parked net' id rqd := by
  refine ⟨?_, ?_, ?_, hcombined h.combined⟩
  · rw [houts]
    exact mem_append_left _ h.requested
  · rw [houts, holder_append, h.allocated]
    exact latest_of_other hholds
  · rw [houts, answered_append, mem_append]
    exact not_or.mpr ⟨h.unanswered, hanswered⟩

section Steps

variable {freq : TsFrequency} {chanNr : Octet}

section

variable (h : RqdStep freq chanNr ch ch')

include h

/-- A handler gives or takes no channel but its own. -/
theorem RqdStep.holds (hout : out ∈ ch'.outs) {i : ChanId} {n? : Option Nat}
    (hholds : out.holds = some (i, n?)) : i = ch.id := by
  cases h with
  | parked houts =>
    rw [holds_of_silent (houts out hout)] at hholds
    cases hholds
  | dropped houts => exact holds_of_aside (houts out hout) hholds
  | answered hparked houts =>
    rw [houts] at hout
    rcases mem_pair.mp hout with rfl | rfl
    · cases hholds
    · cases hholds

/-- A handler tells nothing about any request but the one on its channel. -/
theorem RqdStep.about (hout : out ∈ ch'.outs) (habout : out.about = some n) :
    ∃ rqd, ch.life.rqd = some rqd ∧ rqd.id = n := by
  cases h with
  | parked houts =>
    rw [about_of_aside (aside_of_silent (houts out hout) ch.id)] at habout
    cases habout
  | dropped houts =>
    rw [about_of_aside (houts out hout)] at habout
    cases habout
  | @answered rqd hparked houts =>
    rw [houts] at hout
    rcases mem_pair.mp hout with rfl | rfl
    · exact ⟨rqd, hparked, some.inj habout⟩
    · cases habout

/-- A request that is on the channel afterwards was there before, and nothing happened to it. -/
theorem RqdStep.still {rqd : ChanRqd} (hrqd : ch'.life.rqd = some rqd) :
    ch.life.rqd = some rqd ∧ ∀ out ∈ ch'.outs, out.silent = true := by
  cases h with
  | parked houts hsame => exact ⟨hsame.symm.trans hrqd, houts⟩
  | dropped houts hnone =>
    rw [hnone] at hrqd
    cases hrqd
  | answered hparked houts hnone =>
    rw [hnone] at hrqd
    cases hrqd

end

end Steps

/-- The channel number that a channel has in its combination leads to the channel. -/
theorem lookup_chanNr (h : net.Combined id) : lchanLookup (net.chanNr id) = some (id.ref.ts, id.ref.ss) := by
  obtain ⟨pchan, hpchan, hsub⟩ := h
  have hchanNr : net.chanNr id = gsmTs2chanNr pchan id.ref.ts id.ref.ss := by
    have hpchan : (net.btss[id.bts]?.bind fun bts => bts.pchan? id.ref.trx id.ref.ts) = some pchan := hpchan
    unfold chanNr
    rw [hpchan]
    rfl
  rw [hchanNr]
  exact lchanLookup_ts2chanNr pchan id.ref.ts id.ref.ss hsub

section

variable (h : PairingInv net) (hget : net.chan? ch.id = some ch)
    (hch : RqdStep (net.freqOf ch.id) (net.chanNr ch.id) ch ch')

include h hget hch

/-- The handler of a channel says what it says, and nothing of it is wrong. -/
theorem PairedAnswers.put : PairedAnswers (net.put ch.id ch') := by
  have haside (haside : ∀ out ∈ ch'.outs, out.aside ch.id = true) : PairedAnswers (net.put ch.id ch') := by
    refine h.answers.append rfl rfl (fun out hout => answers_of_aside (haside out hout)) ?_
    intro n b ref ta hmem
    cases haside _ hmem
  cases hch with
  | parked houts => exact haside fun out hout => aside_of_silent (houts out hout) ch.id
  | dropped houts => exact haside houts
  | @answered rqd hparked houts =>
    have hown := h.parked ch.id ch rqd hget hparked
    have hlog : (net.put ch.id ch').outs = (net.outs ++
        [.immAss rqd.id ch.id (immAssignment (net.freqOf ch.id) (net.chanNr ch.id) rqd.ref rqd.ta)]) ++
          [.signal ch.id .activateAck] := by
      show net.outs ++ ch'.outs = _
      rw [houts, append_assoc]
      rfl
    refine ⟨?_, ?_, ?_⟩
    · rw [hlog]
      refine Log.Justified.snoc (h.answers.paired.snoc ?_) ?_
      · intro n id ia heq
        cases heq
        exact ⟨⟨rqd.ref, rqd.ta, net.chanNr ch.id, hown.requested, rfl, lookup_chanNr hown.combined⟩, hown.allocated,
          hown.unanswered⟩
      · intro n id ia heq
        cases heq
    · rw [hlog, answered_append, answered_append]
      show ((answered net.outs ++ [rqd.id]) ++ []).Nodup
      rw [append_nil]
      refine nodup_append'.mpr ⟨h.answers.once, nodup_singleton _, ?_⟩
      rw [disjoint_singleton]
      exact hown.unanswered
    · intro n b ref ta hmem
      rw [hlog, append_assoc] at hmem ⊢
      rcases mem_append.mp hmem with hmem | hmem
      · exact (h.answers.served n b ref ta hmem).append _
      · rcases mem_pair.mp hmem with heq | heq
        · cases heq
        · cases heq

theorem PairingInv.put : PairingInv (net.put ch.id ch') := by
  -- a request that is parked afterwards was parked on the same channel before
  have hbefore {i : ChanId} {found : RadioChan} {rqd : ChanRqd} (hfound : (net.put ch.id ch').chan? i = some found)
      (hrqd : found.life.rqd = some rqd) : ∃ old, net.chan? i = some old ∧ old.life.rqd = some rqd := by
    rw [chan?_put hget] at hfound
    split at hfound
    case isTrue hi =>
      cases hfound
      exact ⟨ch, hi ▸ hget, (hch.still hrqd).1⟩
    case isFalse => exact ⟨found, hfound, hrqd⟩
  refine ⟨?_, ?_, ?_, .put h hget hch⟩
  · intro i found rqd hfound hrqd
    obtain ⟨old, hold, hparked⟩ := hbefore hfound hrqd
    have hmine := h.parked i old rqd hold hparked
    by_cases hi : i = ch.id
    · subst hi
      cases hget.symm.trans hold
      rw [chan?_put hget, if_pos rfl] at hfound
      cases hfound
      have hsilent := (hch.still hrqd).2
      refine hmine.mono combined_put rfl (fun out hout i n? hholds => ?_) ?_
      · rw [holds_of_silent (hsilent out hout)] at hholds
        cases hholds
      · rw [answered_of_aside fun out hout => aside_of_silent (hsilent out hout) ch.id]
        exact not_mem_nil
    · refine hmine.mono combined_put rfl (fun out hout j n? hholds heq => hi ?_) fun hanswered => hi ?_
      · exact heq ▸ hch.holds hout hholds
      · obtain ⟨out, hout, habout⟩ := about_of_answered hanswered
        obtain ⟨rqd', hrqd', hsame⟩ := hch.about hout habout
        exact h.distinct i ch.id old ch rqd rqd' hold hget hparked hrqd' hsame.symm
  · intro i j found found' rqd rqd' hfound hfound' hrqd hrqd' hsame
    obtain ⟨old, hold, hparked⟩ := hbefore hfound hrqd
    obtain ⟨old', hold', hparked'⟩ := hbefore hfound' hrqd'
    exact h.distinct i j old old' rqd rqd' hold hold' hparked hparked' hsame
  · intro out hout n habout
    rcases mem_append.mp hout with hout | hout
    · exact h.fresh out hout n habout
    · obtain ⟨rqd, hrqd, rfl⟩ := hch.about hout habout
      exact h.fresh _ (h.parked ch.id ch rqd hget hrqd).requested _ rfl

end

/-- The equipment changes, and no channel. -/
theorem PairingInv.quiet (h : PairingInv net) (hsame : Kept net net') (hfreq : net'.freq = net.freq) :
    PairingInv net' := by
  have houts : net'.outs = net.outs ++ [] := by rw [hsame.outs, append_nil]
  refine ⟨?_, ?_, ?_, h.answers.append hfreq houts (forall_mem_nil _) fun _ _ _ _ hmem => absurd hmem not_mem_nil⟩
  · intro id ch rqd hget hrqd
    rw [hsame.chan] at hget
    exact (h.parked id ch rqd hget hrqd).mono (hsame.combined id) houts (forall_mem_nil _) not_mem_nil
  · intro i j ch ch' rqd rqd' hget hget'
    rw [hsame.chan] at hget hget'
    exact h.distinct i j ch ch' rqd rqd' hget hget'
  · rw [hsame.outs, hsame.next]
    exact h.fresh

variable {type : GsmChan}

/-- A channel is activated that was allocated; what is parked on it is a new request. -/
theorem PairingInv.activated (h : PairingInv net) {f : RadioChan → RadioChan} (ha : Activated net net' id ch type f)
    (hfreq : net'.freq = net.freq) (hnext : net.next ≤ net'.next) (houts : net'.outs = net.outs ++ outs)
    (hanswers : ∀ out ∈ outs, out.answers = none) (hholds : ∀ out ∈ outs, ∀ i n?, out.holds = some (i, n?) → i = id)
    (hfresh : ∀ out ∈ outs, ∀ n, out.about = some n → n < net'.next)
    (hserved : ∀ n b ref ta, .chanRqd n b ref ta ∈ outs → Served net'.outs n b ref)
    (hown : ∀ rqd, (f { ch with lchan := ch.lchan.allocate type }).life.rqd = some rqd →
      rqd.id = net.next ∧ Parked net' id rqd) :
    PairingInv net' := by
  -- a channel has a new request, or it is another one
  have hcases {i : ChanId} {found : RadioChan} {rqd : ChanRqd} (hfound : net'.chan? i = some found)
      (hrqd : found.life.rqd = some rqd) :
      (i = id ∧ rqd.id = net.next ∧ Parked net' id rqd) ∨ (i ≠ id ∧ net.chan? i = some found) := by
    rw [ha.chan] at hfound
    split at hfound
    case isTrue hi =>
      cases hfound
      exact .inl ⟨hi, hown rqd hrqd⟩
    case isFalse hi => exact .inr ⟨hi, hfound⟩
  -- the number of a request that was parked before is not new
  have hold {i : ChanId} {found : RadioChan} {rqd : ChanRqd} (hfound : net.chan? i = some found)
      (hrqd : found.life.rqd = some rqd) : rqd.id < net.next :=
    h.fresh _ (h.parked i found rqd hfound hrqd).requested _ rfl
  have hnone : answered outs = [] := filterMap_eq_nil_iff.mpr hanswers
  refine ⟨?_, ?_, ?_, h.answers.append hfreq houts hanswers hserved⟩
  · intro i found rqd hfound hrqd
    rcases hcases hfound hrqd with ⟨rfl, -, hparked⟩ | ⟨hi, hbefore⟩
    · exact hparked
    · refine (h.parked i found rqd hbefore hrqd).mono (ha.kept i) houts ?_ (hnone ▸ not_mem_nil)
      exact fun out hout j n? hh heq => hi (heq.symm.trans (hholds out hout j n? hh))
  · intro i j found found' rqd rqd' hfound hfound' hrqd hrqd' hsame
    rcases hcases hfound hrqd with ⟨rfl, hnew, -⟩ | ⟨-, hbefore⟩
    · rcases hcases hfound' hrqd' with ⟨rfl, -, -⟩ | ⟨-, hbefore'⟩
      · rfl
      · exact absurd (hold hbefore' hrqd') (by rw [← hsame, hnew]; exact lt_irrefl _)
    · rcases hcases hfound' hrqd' with ⟨rfl, hnew', -⟩ | ⟨-, hbefore'⟩
      · exact absurd (hold hbefore hrqd) (by rw [hsame, hnew']; exact lt_irrefl _)
      · exact h.distinct i j found found' rqd rqd' hbefore hbefore' hrqd hrqd' hsame
  · intro out hout n habout
    rw [houts] at hout
    rcases mem_append.mp hout with hout | hout
    · exact lt_of_lt_of_le (h.fresh out hout n habout) hnext
    · exact hfresh out hout n habout

/-- A channel is activated for a CHANNEL REQUIRED, which is parked on it. -/
theorem PairingInv.requested (h : PairingInv net) {ref : ReqRef} {ta : Octet}
    (ha : Activated net net' id ch type fun ch => ch.activateForRqd ⟨net.next, ref, ta⟩)
    (hfreq : net'.freq = net.freq) (hnext : net'.next = net.next + 1)
    (houts : net'.outs = net.outs ++ [.chanRqd net.next id.bts ref ta, .allocated id (some net.next), .chanActiv id]) :
    PairingInv net' := by
  have hlt : net.next < net'.next := by
    rw [hnext]
    exact Nat.lt_succ_self _
  have hthree {out : RadioOut}
      (hout : out ∈ [.chanRqd net.next id.bts ref ta, .allocated id (some net.next), .chanActiv id]) :
      out = .chanRqd net.next id.bts ref ta ∨ out = .allocated id (some net.next) ∨ out = .chanActiv id := by
    simpa using hout
  refine h.activated ha hfreq hlt.le houts ?_ ?_ ?_ ?_ ?_
  · intro out hout
    rcases hthree hout with rfl | rfl | rfl
    · rfl
    · rfl
    · rfl
  · intro out hout i n? hholds
    rcases hthree hout with rfl | rfl | rfl
    · cases hholds
    · exact (Prod.mk.inj (some.inj hholds)).1.symm
    · cases hholds
  · intro out hout n habout
    rcases hthree hout with rfl | rfl | rfl
    · exact some.inj habout ▸ hlt
    · exact some.inj habout ▸ hlt
    · cases habout
  · intro n b ref' ta' hmem
    rcases hthree hmem with heq | heq | heq
    · cases heq
      rw [houts]
      exact .inl ⟨id, mem_append_right _ (mem_cons_of_mem _ mem_cons_self)⟩
    · cases heq
    · cases heq
  · intro rqd hrqd
    obtain rfl : (⟨net.next, ref, ta⟩ : ChanRqd) = rqd := some.inj hrqd
    refine ⟨rfl, ?_, ?_, ?_, ha.combined⟩
    · rw [houts]
      exact mem_append_right _ mem_cons_self
    · rw [houts, holder_append]
      show latest _ _ _ [_, allocated id (some net.next), _] = _
      have hgiven : holds (.allocated id (some net.next)) = some (id, some net.next) := rfl
      rw [latest_cons, latest_cons, update_self hgiven]
      exact latest_of_none (forall_mem_singleton.mpr rfl)
    · rw [houts, answered_append]
      show net.next ∉ answered net.outs ++ []
      rw [append_nil]
      exact h.notAnswered

/-- A channel is activated for a connection. No request is parked on it. -/
theorem PairingInv.activatedForConn (h : PairingInv net) {c : Nat} {t10 sent : Bool}
    (ha : Activated net net' id ch type fun ch => ch.activateForConn c t10 sent)
    (hrqd : sent = true → ch.life.rqd = none) (hfreq : net'.freq = net.freq) (hnext : net'.next = net.next)
    (houts : net'.outs = net.outs ++
      .allocated id none :: ({ ch with lchan := ch.lchan.allocate type : RadioChan }.activateForConn c t10 sent).outs) :
    PairingInv net' := by
  obtain ⟨hid, -, hnone, -⟩ := of_chan? ha.get
  have haside : ∀ out ∈ ({ ch with lchan := ch.lchan.allocate type : RadioChan }.activateForConn c t10 sent).outs,
      out.aside id = true := by
    cases sent with
    | true =>
      intro out hout
      have hout : out ∈ ch.outs ++ [chanActiv ch.id] := hout
      rw [hnone, nil_append, mem_singleton] at hout
      exact hout ▸ rfl
    | false =>
      rw [← hid]
      refine aside_lchanFree _ fun out hout => ?_
      have hout : out ∈ ch.outs := hout
      rw [hnone] at hout
      cases hout
  refine h.activated ha hfreq hnext.ge houts ?_ ?_ ?_ ?_ ?_
  · intro out hout
    rcases mem_cons.mp hout with rfl | hout
    · rfl
    · exact answers_of_aside (haside out hout)
  · intro out hout i n? hholds
    rcases mem_cons.mp hout with rfl | hout
    · exact (Prod.mk.inj (some.inj hholds)).1.symm
    · exact holds_of_aside (haside out hout) hholds
  · intro out hout n habout
    rcases mem_cons.mp hout with rfl | hout
    · cases habout
    · rw [about_of_aside (haside out hout)] at habout
      cases habout
  · intro n b ref ta hmem
    rcases mem_cons.mp hmem with heq | hmem
    · cases heq
    · cases haside _ hmem
  · intro rqd hparked
    cases sent with
    | true =>
      have hparked : ch.life.rqd = some rqd := hparked
      rw [hrqd rfl] at hparked
      cases hparked
    | false =>
      have hparked : (RadioChan.lchanFree _).life.rqd = some rqd := hparked
      rw [rqd_lchanFree] at hparked
      cases hparked

theorem freq_lchanAlloc {bts : GsmBts} {allowBigger : Bool} {id? : Option ChanId}
    (h : net.lchanAlloc b bts type allowBigger = (net', id?)) : net'.freq = net.freq := by
  cases h
  rfl

theorem freq_on {f : RadioChan → RadioChan} (h : net.on id f = some net') : net'.freq = net.freq := by
  obtain ⟨ch, -, -, rfl⟩ := of_on h
  rfl

theorem freq_rslRxChanRqd {bts : GsmBts} {ref : ReqRef} {ta : Octet} (h : net.rslRxChanRqd b bts ref ta = some net') :
    net'.freq = net.freq := by
  unfold RadioNet.rslRxChanRqd at h
  split at h
  case h_1 net1 halloc =>
    cases h
    have hfreq : net1.freq = (net.chanRqdCame b ref ta).freq :=
      freq_lchanAlloc (show RadioNet.lchanAlloc _ _ _ _ _ = _ from halloc)
    change net1.freq = net.freq at hfreq
    unfold RadioNet.rejectRqd
    by_cases ht3122 : net1.t3122 = 0
    · simp [ht3122, hfreq]
    · simp [ht3122, RadioNet.emit, hfreq]
  case h_2 net1 id halloc =>
    have hfreq : net1.freq = (net.chanRqdCame b ref ta).freq :=
      freq_lchanAlloc (show RadioNet.lchanAlloc _ _ _ _ _ = _ from halloc)
    exact (freq_on h).trans hfreq

theorem freq_activate {c : Nat} {bts : GsmBts} {t10 sent : Bool} (h : net.activate b bts type c t10 sent = some net') :
    net'.freq = net.freq := by
  unfold activate at h
  split at h
  case h_1 net1 halloc =>
    cases h
    exact freq_lchanAlloc halloc
  case h_2 net1 id halloc =>
    have hfreq : net1.freq = net.freq := freq_lchanAlloc halloc
    exact (freq_on h).trans hfreq

/-- **No event changes the frequency of a timeslot.** -/
theorem freq_of_step (h : net.step ev = some net') : net'.freq = net.freq := by
  have htimer {id : ChanId} {running : LchanLife → Bool} {f : RadioChan → RadioChan}
      (h : net.onTimer id running f = some net') : net'.freq = net.freq := by
    obtain ⟨ch, -, -, -, rfl⟩ := of_onTimer h
    rfl
  cases ev with
  | chanRqd b data =>
    obtain ⟨bts, -, h⟩ := bind_eq_some_iff.mp h
    split at h
    · obtain rfl := some.inj h
      rfl
    · exact freq_rslRxChanRqd h
  | rsl b trx chanNr msg =>
    obtain ⟨id, -, h⟩ := bind_eq_some_iff.mp h
    exact freq_on h
  | assign | handover =>
    obtain ⟨bts, -, h⟩ := bind_eq_some_iff.mp h
    exact freq_activate h
  | newConn id c =>
    obtain ⟨ch, -, h⟩ := bind_eq_some_iff.mp h
    split at h
    · obtain rfl := some.inj h
      rfl
    · cases h
  | giveUp | release | t10Stopped => exact freq_on h
  | t10 id => exact htimer h
  | actTimer id =>
    have h : net.onTimer id (fun life => life.actTimer.isSome) lchanActTmrCb = some net' := h
    exact htimer h
  | t3101 | t3111 | errorTimer => exact htimer h
  | trxReset b trx =>
    obtain rfl := some.inj h
    have hsame := @trxReset_keeps net (fun start => start.freq = net.freq) (fun _ _ _ hstart _ => hstart) b trx rfl
    exact hsame
  | nmTrx | nmTs | pdch =>
    obtain rfl := some.inj h
    rfl

theorem PairingInv.step (h : PairingInv net) (hanswers : answersRqd net ev = true) (hstep : net.step ev = some net') :
    PairingInv net' := by
  have hfreq := freq_of_step hstep
  cases stepped_of_step hstep with
  | handled hget hh => exact h.put hget (rqdStep_handled hget hh)
  | quiet hsame => exact h.quiet hsame hfreq
  | reset =>
    refine trxReset_keeps (fun net id ch h hget => ?_) _ _ h
    obtain ⟨rfl, -, houts, -⟩ := of_chan? hget
    exact h.put hget (rqdStep_trxReset houts)
  | @rejected b data ref ta _ halloc hparse =>
    have hserved : ((parseChanRqd data).isNone || (net.allocated? (.chanRqd b data)).isSome) = true := hanswers
    rw [hparse, halloc] at hserved
    cases hserved
  | requested halloc hparse ha hnext houts => exact h.requested ha hfreq hnext houts
  | @activated _ c t10 sent id ch type type' _ hev halloc ha hnext houts =>
    refine h.activatedForConn ha (fun hsent => ?_) hfreq hnext houts
    obtain ⟨-, hlife, -⟩ := of_chan? ha.get
    have hfree : (net.allocated? ev).all (fun id => (net.life id).rqd = none) = true := by
      cases t10 with
      | true | false =>
        subst hev hsent
        exact hanswers
    rw [halloc] at hfree
    rw [hlife]
    exact of_decide_eq_true hfree

theorem pairingInv_idle (h : net.Idle) : PairingInv net := by
  have hrqd {id : ChanId} {ch : RadioChan} (hget : net.chan? id = some ch) : ch.life.rqd = none := by
    obtain ⟨-, hlife, -⟩ := of_chan? hget
    rw [hlife, h.life]
  refine ⟨?_, ?_, ?_, ?_, ?_, ?_⟩
  · intro id ch rqd hget hparked
    rw [hrqd hget] at hparked
    cases hparked
  · intro i j ch ch' rqd rqd' hget hget' hparked
    rw [hrqd hget] at hparked
    cases hparked
  · rw [h.outs]
    exact forall_mem_nil _
  · rw [h.outs]
    exact .nil
  · rw [h.outs]
    exact nodup_nil
  · intro n b ref ta hmem
    rw [h.outs] at hmem
    cases hmem

/-- **A phone asks for a channel.** Its request is served exactly if it gets one: the message that rejects it is no
    IMMEDIATE ASSIGNMENT REJECT. -/
theorem PairingInv.chanRqd_iff (h : PairingInv net) {data : List Octet}
    (hstep : net.step (.chanRqd b data) = some net') :
    PairedAnswers net' ↔ answersRqd net (.chanRqd b data) = true := by
  refine ⟨fun hpaired => ?_, fun hanswers => (h.step hanswers hstep).answers⟩
  show ((parseChanRqd data).isNone || (net.allocated? (.chanRqd b data)).isSome) = true
  cases stepped_of_step hstep with
  | handled hget hh => cases hh
  | quiet hsame hev =>
    have hev : (parseChanRqd data).isNone = true := hev
    rw [hev, Bool.true_or]
  | @rejected _ _ ref ta _ halloc hparse hchan hcombined hnext houts =>
    exfalso
    have hserved : Served net'.outs net.next b ref := by
      refine hpaired.served net.next b ref ta ?_
      rw [houts]
      exact mem_append_right _ mem_cons_self
    -- nothing in the log is about a new request, and what follows it does not serve it
    have hold {out : RadioOut} (habout : out.about = some net.next) : out ∉ net.outs := fun hmem =>
      lt_irrefl _ (h.fresh out hmem _ habout)
    rcases hserved with ⟨id, hmem⟩ | ⟨iar, len, hmem, hwell⟩
    · rw [houts] at hmem
      rcases mem_append.mp hmem with hmem | hmem
      · exact hold rfl hmem
      · rcases mem_cons.mp hmem with heq | hmem
        · cases heq
        · split at hmem
          · cases hmem
          · cases mem_singleton.mp hmem
    · rw [houts] at hmem
      rcases mem_append.mp hmem with hmem | hmem
      · exact hold rfl hmem
      · rcases mem_cons.mp hmem with heq | hmem
        · cases heq
        · split at hmem
          · cases hmem
          · cases mem_singleton.mp hmem
            exact not_wellFormed_immAssReject ref _ hwell
  | requested halloc => rw [halloc, isSome_some, Bool.or_true]
  | @activated _ c t10 sent id ch type type' _ hev =>
    cases t10 with
    | true | false => cases hev

/-- **Immediate assignments are paired with their requests.** In a run in which every phone that asks gets a channel,
    and no channel with a request is activated for a connection, every IMMEDIATE ASSIGNMENT has the channel that is
    allocated for its request; and the first phone that gets no channel gets no IMMEDIATE ASSIGNMENT REJECT either. -/
theorem pairedAnswers_of_answersRqd (h : ReachableBy radioSystem (fun net ev => answersRqd net ev = true) net) :
    PairedAnswers net ∧ ∀ b data net', net.step (.chanRqd b data) = some net' →
      (PairedAnswers net' ↔ answersRqd net (.chanRqd b data) = true) := by
  have hinv : PairingInv net :=
    h.invariant (fun _ hidle => pairingInv_idle hidle) fun _ _ _ hinv hanswers hstep => hinv.step hanswers hstep
  exact ⟨hinv.answers, fun _ _ _ hstep => hinv.chanRqd_iff hstep⟩

/-- A phone gets a channel and does not come, and a second one gets the channel after it. -/
def twoPhones : List RadioEvent :=
  [.chanRqd 0 [0x13, 7, 1, 2, 0x11, 5], .rsl 0 0 0x20 (.chanActivAck true), .t3101 firstChan,
    .rsl 0 0 0x20 .rfChanRelAck, .chanRqd 0 [0x13, 8, 3, 4, 0x11, 9], .rsl 0 0 0x20 (.chanActivAck true)]

theorem pairedAnswers_twoPhones :
    ∃ net, guardedRun step (fun net ev => answersRqd net ev = true) smallRadioNet twoPhones = some net ∧
      PairedAnswers net ∧ ∃ net', net.step (.chanRqd 0 [0x13, 9, 5, 6, 0x11, 1]) = some net' ∧
        (PairedAnswers net' ↔ answersRqd net (.chanRqd 0 [0x13, 9, 5, 6, 0x11, 1]) = true) := by
  obtain ⟨net, hnet, hnext⟩ : ∃ net ∈ guardedRun step (fun net ev => answersRqd net ev = true) smallRadioNet
      twoPhones, (net.step (.chanRqd 0 [0x13, 9, 5, 6, 0x11, 1])).isSome = true := by
    decide +kernel
  obtain ⟨net', hstep⟩ := isSome_iff_exists.mp hnext
  have hresult := pairedAnswers_of_answersRqd (guardedRun (fun _ _ _ h => h) (.init idle_smallRadioNet) hnet)
  exact ⟨net, hnet, hresult.1, net', hstep, hresult.2 _ _ _ hstep⟩

/-- Eight phones ask for traffic channels, of which there are seven: what the last one gets is an IMMEDIATE ASSIGNMENT
    by its type, and not by its contents. An activation fails, the error timer expires and the transceiver is reset: the
    request is answered when the channel is activated for a connection. -/
theorem request_not_served :
    (∃ net iar, Reachable radioSystem net ∧ .immAssRej 7 0 iar 8 ∈ net.outs ∧ iar.msgType = 0x3f ∧ ¬PairedAnswers net) ∧
      ∃ net ia, Reachable radioSystem net ∧ .immAss 0 firstChan ia ∈ net.outs ∧ ¬PairedAnswers net := by
  have hinit : Reachable radioSystem smallRadioNet := .init idle_smallRadioNet
  constructor
  · obtain ⟨net, hnet, habout⟩ : ∃ net ∈ guardedRun step (fun _ _ => True) smallRadioNet
        (replicate 8 (.chanRqd 0 [0x13, 0xe0, 1, 2, 0x11, 5])),
        net.outs.filter (fun out => out.about = some 7) =
          [.chanRqd 7 0 ⟨0xe0, 1, 2⟩ 5, .immAssRej 7 0 (immAssReject ⟨0xe0, 1, 2⟩ 10).1 8] := by
      decide +kernel
    have hmem {out : RadioOut} (hout : out ∈ net.outs) (h : out.about = some 7) :
        out = .chanRqd 7 0 ⟨0xe0, 1, 2⟩ 5 ∨ out = .immAssRej 7 0 (immAssReject ⟨0xe0, 1, 2⟩ 10).1 8 := by
      have hboth : out ∈ net.outs.filter fun out => out.about = some 7 := mem_filter.mpr ⟨hout, decide_eq_true h⟩
      rw [habout] at hboth
      exact mem_pair.mp hboth
    have hrejected : .immAssRej 7 0 (immAssReject ⟨0xe0, 1, 2⟩ 10).1 8 ∈ net.outs :=
      (mem_filter.mp (habout ▸ mem_cons_of_mem _ mem_cons_self)).1
    refine ⟨net, _, guardedRun (fun _ _ _ h => h) hinit hnet, hrejected, rfl, fun h => ?_⟩
    have hasked : .chanRqd 7 0 ⟨0xe0, 1, 2⟩ 5 ∈ net.outs := (mem_filter.mp (habout ▸ mem_cons_self)).1
    rcases h.served 7 0 ⟨0xe0, 1, 2⟩ 5 hasked with ⟨id, hout⟩ | ⟨iar, len, hout, hwell⟩
    · rcases hmem hout rfl with heq | heq
      · cases heq
      · cases heq
    · rcases hmem hout rfl with heq | heq
      · cases heq
      · cases heq
        exact absurd hwell.2.1 (show (0x3f : Octet) ≠ 0x3a by decide)
  · obtain ⟨net, hnet, hholder, hsplit⟩ : ∃ net ∈ guardedRun step (fun _ _ => True) smallRadioNet
        [.chanRqd 0 [0x13, 0, 0, 0, 0x11, 5], .rsl 0 0 0x20 .connFail, .errorTimer firstChan, .trxReset 0 0,
          .assign 0 .sdcch 1 true, .rsl 0 0 0x20 (.chanActivAck true)],
        holder firstChan (net.outs.take 71) = none ∧
          net.outs = net.outs.take 71 ++ .immAss 0 firstChan (immAssignment ⟨871, 7, none⟩ 0x20 ⟨0, 0, 0⟩ 5) ::
            net.outs.drop 72 := by
      decide +kernel
    have hsent : .immAss 0 firstChan (immAssignment ⟨871, 7, none⟩ 0x20 ⟨0, 0, 0⟩ 5) ∈ net.outs := by
      rw [hsplit]
      exact mem_append_right _ mem_cons_self
    refine ⟨net, _, guardedRun (fun _ _ _ h => h) hinit hnet, hsent, fun h => ?_⟩
    have hallocated := (h.paired _ _ _ hsplit _ _ _ rfl).allocated
    rw [hholder] at hallocated
    cases hallocated

end OpenBsc.Libbsc
