import Mathlib.Logic.Function.Basic
import OpenBsc.Lib.Pool
import OpenBsc.Lib.Transition

/-!
# `Libmsc.SmsQueue` — the queue of stored messages (`sms_queue.c`)

The queue takes stored messages from the database and hands them to the SMS layer, at most one for each subscriber. The
SMS layer reports what became of a message by a signal; where it cannot even begin, the signal is sent before
`gsm411_send_sms_subscr` returns.

What sends the messages is a parameter, the `SmsTransport`.
-/

namespace OpenBsc.Libmsc

open Transition

/-! ## Database -/

/-- A row of the table `SMS`. -/
structure StoredSms where
  id : Nat
  receiver : Nat
  sent : Bool := false
  deliverAttempts : Nat := 0

/-- The stored messages, and the location area of each subscriber; 0 (`GSM_LAC_RESERVED_DETACHED`) if it is detached. -/
structure SmsDb where
  sms : List StoredSms := []
  lac : Nat → Nat := fun _ => 0

/-- `struct gsm_sms`: the id in the database and the receiver. -/
structure GsmSms where
  id : Nat
  receiver : Nat

/-- `sms_from_result`. -/
def smsFromResult (row : StoredSms) : GsmSms := ⟨row.id, row.receiver⟩

/-- `ORDER BY … LIMIT 1`. -/
def firstBy (before : StoredSms → StoredSms → Bool) : List StoredSms → Option StoredSms
  | [] => none
  | a :: l =>
    match firstBy before l with
    | none => some a
    | some b => if before b a then some b else some a

/-- The rows are ordered by the receiver and then by the id. -/
def byReceiver (a b : StoredSms) : Bool := decide (a.receiver < b.receiver ∨ a.receiver = b.receiver ∧ a.id < b.id)

/-- The rows are ordered by the id. -/
def byId (a b : StoredSms) : Bool := decide (a.id < b.id)

namespace SmsDb

/-- `db_sms_get`. -/
def smsGet (db : SmsDb) (id : Nat) : Option GsmSms := (db.sms.find? fun row => row.id == id).map smsFromResult

/-- `db_sms_get_unsent_by_subscr`. -/
def smsGetUnsentBySubscr (db : SmsDb) (minSubscrId failed : Nat) : Option GsmSms :=
  (firstBy byReceiver (db.sms.filter fun row =>
    decide (minSubscrId ≤ row.receiver) && !row.sent && decide (0 < db.lac row.receiver) &&
      decide (row.deliverAttempts < failed))).map smsFromResult

/-- `db_sms_get_unsent_for_subscr`. -/
def smsGetUnsentForSubscr (db : SmsDb) (subscr : Nat) : Option GsmSms :=
  (firstBy byId (db.sms.filter fun row =>
    row.receiver == subscr && !row.sent && decide (0 < db.lac row.receiver))).map smsFromResult

/-- The rows of a message are changed by `f`. -/
def modifySms (db : SmsDb) (id : Nat) (f : StoredSms → StoredSms) : SmsDb :=
  { db with sms := db.sms.map fun row => if row.id = id then f row else row }

/-- `db_sms_inc_deliver_attempts`. -/
def smsIncDeliverAttempts (db : SmsDb) (id : Nat) : SmsDb :=
  db.modifySms id fun row => { row with deliverAttempts := row.deliverAttempts + 1 }

/-- The subscriber is recorded as detached. -/
def detach (db : SmsDb) (subscr : Nat) : SmsDb := { db with lac := Function.update db.lac subscr 0 }

end SmsDb

/-! ## Entries -/

/-- `enum gsm_paging_event`. -/
inductive PagingEvent where
  | succeeded | expired | oom | busy
  deriving DecidableEq

/-- `enum signal_sms`. -/
inductive SignalSms where
  | submitted | delivered | smma | memExceeded | unknownError
  deriving DecidableEq

/-- `struct gsm_sms_pending`. -/
structure GsmSmsPending where
  subscr : Nat
  smsId : Nat
  failedAttempts : Int := 0
  resend : Bool := false
  noDetach : Bool := false

/-- `struct gsm_sms_queue`, with the references its entries hold on each subscriber. `fault` is set when an entry is
    used after it was freed. -/
structure SmsQueue where
  maxFail : Int := 1
  maxPending : Int
  pending : Int := 0
  pendingSms : Pool GsmSmsPending := .empty
  lastSubscrId : Nat := 0
  /-- The timers are scheduled. -/
  resendPending : Bool := false
  pushQueue : Bool := false
  refs : Nat → Int := fun _ => 0
  fault : Bool := false

namespace SmsQueue

/-- `sms_find_pending`. -/
def smsFindPending (q : SmsQueue) (smsId : Nat) : Option (Nat × GsmSmsPending) :=
  q.pendingSms.find? fun p => p.smsId == smsId

/-- `sms_subscriber_find_pending`. -/
def smsSubscriberFindPending (q : SmsQueue) (subscr : Nat) : Option (Nat × GsmSmsPending) :=
  q.pendingSms.find? fun p => p.subscr == subscr

/-- `sms_pending_from`, and the entry is added to the list. -/
def smsPendingFrom (q : SmsQueue) (sms : GsmSms) : SmsQueue :=
  { q with
    pendingSms := q.pendingSms.alloc { subscr := sms.receiver, smsId := sms.id }
    refs := Function.update q.refs sms.receiver (q.refs sms.receiver + 1) }

/-- `sms_pending_free`. -/
def smsPendingFree (q : SmsQueue) (i : Nat) : SmsQueue :=
  match q.pendingSms.get? i with
  | some p =>
    { q with
      pendingSms := q.pendingSms.remove i
      refs := Function.update q.refs p.subscr (q.refs p.subscr - 1) }
  | none => { q with fault := true }

def modifyPending (q : SmsQueue) (i : Nat) (f : GsmSmsPending → GsmSmsPending) : SmsQueue :=
  { q with pendingSms := q.pendingSms.modify i f }

/-- `smsq->pending += n`. -/
def addPending (q : SmsQueue) (n : Int) : SmsQueue := { q with pending := q.pending + n }

/-- `sms_queue_trigger`. -/
def smsQueueTrigger (q : SmsQueue) : SmsQueue := { q with pushQueue := true }

/-- `sms_pending_resend`. -/
def smsPendingResend (q : SmsQueue) (i : Nat) : SmsQueue :=
  { q.modifyPending i fun p => { p with resend := true } with resendPending := true }

/-- An entry is given up, and another message may be submitted. -/
def giveUp (q : SmsQueue) (i : Nat) : SmsQueue := ((q.smsPendingFree i).addPending (-1)).smsQueueTrigger

/-- `sms_queue_clear`. -/
def smsQueueClear (q : SmsQueue) : SmsQueue :=
  { q.pendingSms.ids.foldl smsPendingFree q with pending := 0 }

end SmsQueue

/-! ## Submission -/

/-- What sends messages: which subscribers have a connection, `gsm411_send_sms` and `subscr_get_channel`. If they fail
    at once they say with which result that is signalled. -/
structure SmsTransport (ε : Type) where
  connectionForSubscr : ε → Nat → Option Nat
  gsm411SendSms : SmsDb × ε → Nat → GsmSms → (SmsDb × ε) × Option PagingEvent
  subscrGetChannel : SmsDb × ε → GsmSms → (SmsDb × ε) × Option PagingEvent

/-- The queue, the database and the rest of the network. -/
structure SmsNet (ε : Type) where
  queue : SmsQueue
  db : SmsDb
  env : ε

variable {ε : Type}

namespace SmsNet

def onQueue (s : SmsNet ε) (f : SmsQueue → SmsQueue) : SmsNet ε := { s with queue := f s.queue }

/-- `sms_pending_failed`. -/
def smsPendingFailed (s : SmsNet ε) (i : Nat) (pagingError : Bool) : SmsNet ε :=
  match s.queue.pendingSms.get? i with
  | none => s.onQueue fun q => { q with fault := true }
  | some p =>
    let q := s.queue.modifyPending i fun p => { p with failedAttempts := p.failedAttempts + 1 }
    if p.failedAttempts + 1 < q.maxFail then { s with queue := q.smsPendingResend i }
    else
      { s with
        queue := q.giveUp i
        db := if pagingError && !p.noDetach then s.db.detach p.subscr else s.db }

/-- `sms_sms_cb`, on `S_SMS_UNKNOWN_ERROR`. -/
def smsUnknownError (s : SmsNet ε) (sms : GsmSms) (pagingResult : PagingEvent) : SmsNet ε :=
  match s.queue.smsFindPending sms.id with
  | none => s
  | some (i, _) =>
    match pagingResult with
    | .succeeded => { s with db := s.db.smsIncDeliverAttempts sms.id }.smsPendingFailed i false
    | .expired => s.smsPendingFailed i true
    | .oom | .busy => s.onQueue fun q => q.giveUp i

/-- What was begun, or the signal that it failed. -/
def signalled (s : SmsNet ε) (sms : GsmSms) (sent : (SmsDb × ε) × Option PagingEvent) : SmsNet ε :=
  let s := { s with db := sent.1.1, env := sent.1.2 }
  match sent.2 with
  | none => s
  | some pagingResult => s.smsUnknownError sms pagingResult

variable (tp : SmsTransport ε)

/-- `gsm411_send_sms`, with the signal if it fails. -/
def gsm411SendSms (s : SmsNet ε) (conn : Nat) (sms : GsmSms) : SmsNet ε :=
  s.signalled sms (tp.gsm411SendSms (s.db, s.env) conn sms)

/-- `gsm411_send_sms_subscr`. -/
def gsm411SendSmsSubscr (s : SmsNet ε) (sms : GsmSms) : SmsNet ε :=
  match tp.connectionForSubscr s.env sms.receiver with
  | some conn => s.gsm411SendSms tp conn sms
  | none => s.signalled sms (tp.subscrGetChannel (s.db, s.env) sms)

/-- The message `take_next_sms` finds. -/
def nextSms (s : SmsNet ε) : Option GsmSms :=
  (s.db.smsGetUnsentBySubscr s.queue.lastSubscrId 10).or (s.db.smsGetUnsentBySubscr 0 10)

/-- `take_next_sms`. -/
def takeNextSms (s : SmsNet ε) : SmsNet ε :=
  s.onQueue fun q => { q with lastSubscrId := (s.nextSms.map fun sms => sms.receiver + 1).getD 0 }

/-- The message or its subscriber has an entry. -/
def isPending (s : SmsNet ε) (sms : GsmSms) : Bool :=
  (s.queue.smsFindPending sms.id).isSome || (s.queue.smsSubscriberFindPending sms.receiver).isSome

/-- `sms_submit_pending` submits a message. -/
def submit (s : SmsNet ε) (sms : GsmSms) : SmsNet ε :=
  (s.onQueue fun q => (q.addPending 1).smsPendingFrom sms).gsm411SendSmsSubscr tp sms

/-- The loop of `sms_submit_pending`: `rounds` are left of the 1000, `firstSub` is the subscriber seen first, if any,
    and `left` messages are still to be attempted. The loop ends after the round in which none is left. -/
def submitLoop : Nat → Option Nat → Int → SmsNet ε → SmsNet ε
  | 0, _, _, s => s
  | rounds + 1, firstSub, left, s =>
    match s.nextSms with
    | none => s.takeNextSms
    | some sms =>
      let s := s.takeNextSms
      -- every other subscriber was seen before this one is seen again
      if firstSub = some sms.receiver then s
      else
        let firstSub := firstSub.or (some sms.receiver)
        if s.isPending sms then if 0 < left then submitLoop rounds firstSub left s else s
        else
          let s := s.submit tp sms
          if 0 < left - 1 then submitLoop rounds firstSub (left - 1) s else s

/-- `sms_submit_pending`. -/
def smsSubmitPending (s : SmsNet ε) : SmsNet ε :=
  submitLoop tp 1000 none (s.queue.maxPending - s.queue.pending) s

/-- `sms_resend_pending`, one entry. -/
def resendOne (s : SmsNet ε) (i : Nat) : SmsNet ε :=
  match s.queue.pendingSms.get? i with
  | none => s.onQueue fun q => { q with fault := true }
  | some p =>
    if !p.resend then s
    else
      match s.db.smsGet p.smsId with
      -- the sms is gone
      | none => s.onQueue fun q => q.giveUp i
      | some sms =>
        (s.onQueue fun q => q.modifyPending i fun p => { p with resend := false }).gsm411SendSmsSubscr tp sms

/-- `sms_resend_pending`. -/
def smsResendPending (s : SmsNet ε) : SmsNet ε := s.queue.pendingSms.ids.foldl (resendOne tp) s

/-! ## Events -/

/-- `sms_sms_cb`. -/
def smsSmsCb (s : SmsNet ε) (signal : SignalSms) (sms : Option GsmSms) (pagingResult : PagingEvent) : SmsNet ε :=
  if signal = .submitted ∨ signal = .smma then s.onQueue SmsQueue.smsQueueTrigger
  else
    match sms with
    | none => s
    | some sms =>
      match s.queue.smsFindPending sms.id with
      | none => s
      | some (i, _) =>
        match signal with
        | .delivered =>
          -- the entry stays while the place is given to another message
          ((s.onQueue fun q => q.addPending (-1)).smsSubmitPending tp).onQueue fun q => q.smsPendingFree i
        | .memExceeded => s.onQueue fun q => q.giveUp i
        | .unknownError => s.smsUnknownError sms pagingResult
        | .submitted | .smma => s

/-- `sub_ready_for_sm`. -/
def subReadyForSm (s : SmsNet ε) (subscr : Nat) : SmsNet ε :=
  match s.queue.smsSubscriberFindPending subscr with
  | some (i, _) => s.onQueue fun q => q.modifyPending i fun p => { p with noDetach := true }
  | none =>
    match tp.connectionForSubscr s.env subscr with
    | none => s
    | some conn =>
      match s.db.smsGetUnsentForSubscr subscr with
      | none => s
      | some sms => s.gsm411SendSms tp conn sms

end SmsNet

/-- What happens to the queue: its timers expire, the SMS layer signals, a subscriber attaches, an operator triggers or
    clears it or sets the number of failures, and others change the database and the rest of the network. -/
inductive SmsqEvent (ε : Type) where
  | push
  | resend
  | signal (signal : SignalSms) (sms : Option GsmSms) (pagingResult : PagingEvent)
  | attached (subscr : Nat)
  | trigger
  | clear
  | setMaxFailure (maxFail : Int)
  | others (db : SmsDb) (env : ε)

namespace SmsNet

/-- `sms_queue_start`. -/
def smsQueueStart (tp : SmsTransport ε) (maxPending : Int) (db : SmsDb) (env : ε) : SmsNet ε :=
  smsSubmitPending tp ⟨{ maxPending := maxPending }, db, env⟩

/-- One event. -/
def step (tp : SmsTransport ε) (s : SmsNet ε) : SmsqEvent ε → Option (SmsNet ε)
  | .push =>
    if s.queue.pushQueue then some ((s.onQueue fun q => { q with pushQueue := false }).smsSubmitPending tp) else none
  | .resend =>
    if s.queue.resendPending then
      some ((s.onQueue fun q => { q with resendPending := false }).smsResendPending tp)
    else none
  | .signal signal sms pagingResult => some (s.smsSmsCb tp signal sms pagingResult)
  | .attached subscr => some (s.subReadyForSm tp subscr)
  | .trigger => some (s.onQueue SmsQueue.smsQueueTrigger)
  | .clear => some (s.onQueue SmsQueue.smsQueueClear)
  | .setMaxFailure maxFail => some (s.onQueue fun q => { q with maxFail := maxFail })
  | .others db env => some { s with db := db, env := env }

end SmsNet

/-- The queue, started with room for `maxPending` messages. -/
def smsqSystem (tp : SmsTransport ε) (maxPending : Int) : System (SmsNet ε) (SmsqEvent ε) where
  init s := ∃ db env, s = SmsNet.smsQueueStart tp maxPending db env
  step s ev s' := s.step tp ev = some s'

end OpenBsc.Libmsc
