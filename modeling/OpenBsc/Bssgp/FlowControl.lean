import Mathlib.Algebra.Ring.Int.Defs
import Mathlib.Algebra.Ring.Nat
import Mathlib.Data.List.Infix
import Mathlib.Tactic.Common

/-!
# `Bssgp.FlowControl` — the leaky bucket and its queue (`gprs_bssgp.c`, section 8.2)

`bssgp_fc_in` passes a PDU on at once when the bucket has room for it and otherwise appends it to the
entity's queue and schedules the timer; `fc_timer_cb` drains the queue. Octet counts and centiseconds
are 32-bit unsigned in the source and wrap here by an explicit `% 2 ^ 32`; only `bucket_predicted` is
signed. Time is an input: each call names what `gettimeofday` reads, first for the bucket test and then
for the transmission record.

The timer functions take the head of the queue by `llist_entry(&fc->queue.next, …)`, that is, at the
address of the list head itself. What such a read yields depends on the memory behind `fc->queue` (the
timer structure of libosmocore), so it is the parameter `headElement`.
-/

namespace OpenBsc.Bssgp

/-! ## Data model -/

/-- `struct timeval` as `gettimeofday` and `timersub` leave it: the microseconds are normalised. -/
structure Timeval where
  sec : Int
  usec : Nat
  usec_lt : usec < 1000000

theorem zero_usec_lt : 0 < 1000000 := by decide

/-- `timersub(a, b, result)`. -/
def timersub (a b : Timeval) : Timeval :=
  if h : b.usec ≤ a.usec then
    ⟨a.sec - b.sec, a.usec - b.usec, by have := a.usec_lt; omega⟩
  else
    ⟨a.sec - b.sec - 1, a.usec + 1000000 - b.usec, by have := b.usec_lt; omega⟩

/-- A list head of libosmocore: all zero as `talloc_zero` leaves it, linked to its elements in order,
    or unlinked from elements that remain in memory. -/
inductive LlistHead (α : Type) where
  | null
  | linked (l : List α)
  | unlinked (lost : List α)

/-- `llist_empty`: the head points to itself. A zeroed or an unlinked head does not. -/
def LlistHead.empty {α : Type} : LlistHead α → Bool
  | .linked [] => true
  | _ => false

/-- `llist_add_tail`; on a zeroed or an unlinked head it writes through an invalid pointer. -/
def LlistHead.addTail {α : Type} (x : α) : LlistHead α → Option (LlistHead α)
  | .linked l => some (.linked (l ++ [x]))
  | _ => none

/-- The elements put on the list and not taken off it. -/
def LlistHead.toList {α : Type} : LlistHead α → List α
  | .null => []
  | .linked l => l
  | .unlinked lost => lost

/-- `struct bssgp_fc_queue_element`: a message, the length of its LLC PDU, and the pointer handed to
    the output callback. -/
structure BssgpFcQueueElement (μ : Type) where
  msg : μ
  llcPduLen : Nat
  priv : Nat

/-- `struct bssgp_flow_control`; the timer is the delay (seconds, microseconds) it was scheduled with. -/
structure BssgpFlowControl (μ : Type) where
  bucketSizeMax : Nat
  bucketLeakRate : Nat
  bucketCounter : Nat
  timeLastPdu : Timeval
  maxQueueDepth : Nat
  queueDepth : Nat
  queue : LlistHead (BssgpFcQueueElement μ)
  timer : Option (Nat × Nat)

variable {μ : Type}

/-- What a call leaves: a result, or the death of the process after some PDUs were output. -/
abbrev FcResult (μ α : Type) := Except (List (BssgpFcQueueElement μ)) α

/-! ## The bucket -/

/-- The centiseconds since the last transmitted PDU, as a `uint32_t`. -/
def csecsElapsed (fc : BssgpFlowControl μ) (timeNow : Timeval) : Nat :=
  let timeDiff := timersub timeNow fc.timeLastPdu
  ((timeDiff.sec * 100 + (timeDiff.usec / 10000 : Nat)) % 2 ^ 32).toNat

/-- The octets that leaked in that time, as a `uint32_t`. -/
def leaked (fc : BssgpFlowControl μ) (timeNow : Timeval) : Nat :=
  csecsElapsed fc timeNow * (fc.bucketLeakRate / 100) % 2 ^ 32

/-- The bucket level `B' = B + L(p) - (Tc - Tp) * R` a PDU of this length would lead to. The sum is a
    32-bit one, the difference a 64-bit signed one. -/
def bucketPredicted (fc : BssgpFlowControl μ) (timeNow : Timeval) (pduLen : Nat) : Int :=
  ((fc.bucketCounter + pduLen) % 2 ^ 32 : Nat) - (leaked fc timeNow : Int)

/-- `bssgp_fc_needs_queueing`: whether the PDU must wait, and the entity afterwards. -/
def bssgpFcNeedsQueueing (fc : BssgpFlowControl μ) (timeNow : Timeval) (pduLen : Nat) :
    Bool × BssgpFlowControl μ :=
  if fc.queueDepth ≠ 0 then (true, fc)
  else if bucketPredicted fc timeNow pduLen < pduLen then (false, fc)
  else if bucketPredicted fc timeNow pduLen ≤ fc.bucketSizeMax then
    (false, { fc with bucketCounter := (bucketPredicted fc timeNow pduLen).toNat })
  else (true, fc)

/-- The bucket has room for a PDU of this length: the level it leads to is below the PDU's own length
    (the bucket had drained) or within the bucket. -/
def BucketAdmits (fc : BssgpFlowControl μ) (timeNow : Timeval) (pduLen : Nat) : Prop :=
  bucketPredicted fc timeNow pduLen < pduLen ∨ bucketPredicted fc timeNow pduLen ≤ fc.bucketSizeMax

instance (fc : BssgpFlowControl μ) (timeNow : Timeval) (pduLen : Nat) :
    Decidable (BucketAdmits fc timeNow pduLen) :=
  inferInstanceAs (Decidable (_ ∨ _))

/-! ## Queue, timer and input -/

section Queue

variable (headElement : BssgpFlowControl μ → BssgpFcQueueElement μ)

/-- `fc_queue_timer_cfg`: schedule the timer for the time the head PDU needs to leak. A leak rate of
    zero is a division by zero. -/
def fcQueueTimerCfg (fc : BssgpFlowControl μ) : FcResult μ (BssgpFlowControl μ) :=
  if fc.queue.empty then .ok fc
  else if fc.bucketLeakRate = 0 then .error []
  else
    let msecs := (headElement fc).llcPduLen * 1000 % 2 ^ 32 / fc.bucketLeakRate
    .ok { fc with timer := some (msecs / 1000, msecs % 1000 * 1000) }

/-- `fc_enqueue`. Neither `queue_depth` nor `max_queue_depth` is touched. -/
def fcEnqueue (fc : BssgpFlowControl μ) (fcqe : BssgpFcQueueElement μ) :
    FcResult μ (BssgpFlowControl μ) :=
  match fc.queue.addTail fcqe with
  | none => .error []
  | some queue => fcQueueTimerCfg headElement { fc with queue := queue }

/-- `bssgp_fc_in`: the entity afterwards and the PDUs handed to the output callback. -/
def bssgpFcIn (fc : BssgpFlowControl μ) (timeNow timeSent : Timeval) (fcqe : BssgpFcQueueElement μ) :
    FcResult μ (BssgpFlowControl μ × List (BssgpFcQueueElement μ)) :=
  match bssgpFcNeedsQueueing fc timeNow fcqe.llcPduLen with
  | (true, fc) => (fcEnqueue headElement fc fcqe).map fun fc => (fc, [])
  | (false, fc) => .ok ({ fc with timeLastPdu := timeSent }, [fcqe])

/-- `fc_timer_cb`. When the element read at the head passes the bucket it is the list head itself that
    is unlinked, that element is output, and `talloc_free` is given an address inside the entity, on
    which talloc aborts. -/
def fcTimerCb (fc : BssgpFlowControl μ) (timeNow : Timeval) :
    FcResult μ (BssgpFlowControl μ × List (BssgpFcQueueElement μ)) :=
  if fc.queue.empty then .ok (fc, [])
  else
    let fcqe := headElement fc
    match bssgpFcNeedsQueueing fc timeNow fcqe.llcPduLen with
    | (true, fc) => (fcQueueTimerCfg headElement fc).map fun fc => (fc, [])
    | (false, _) => .error [fcqe]

/-! ## Runs of one entity -/

/-- What happens to an entity: a PDU arrives, or its timer expires. -/
inductive FcEvent (μ : Type) where
  | pdu (timeNow timeSent : Timeval) (fcqe : BssgpFcQueueElement μ)
  | timer (timeNow : Timeval)

/-- An entity with the PDUs accepted by it and output by it so far, oldest first. -/
structure FcTrace (μ : Type) where
  fc : BssgpFlowControl μ
  accepted : List (BssgpFcQueueElement μ) := []
  output : List (BssgpFcQueueElement μ) := []

/-- One event. An expiry needs a scheduled timer, and a timer fires once. -/
def fcTraceStep (st : FcTrace μ) : FcEvent μ → FcResult μ (FcTrace μ)
  | .pdu timeNow timeSent fcqe =>
    (bssgpFcIn headElement st.fc timeNow timeSent fcqe).map fun (fc, out) =>
      { fc := fc, accepted := st.accepted ++ [fcqe], output := st.output ++ out }
  | .timer timeNow =>
    match st.fc.timer with
    | none => .ok st
    | some _ =>
      (fcTimerCb headElement { st.fc with timer := none } timeNow).map fun (fc, out) =>
        { st with fc := fc, output := st.output ++ out }

/-- A sequence of events, up to the death of the process if there is one. -/
def fcRun (st : FcTrace μ) : List (FcEvent μ) → FcResult μ (FcTrace μ)
  | [] => .ok st
  | ev :: evs => (fcTraceStep headElement st ev).bind fun st => fcRun st evs

end Queue

end OpenBsc.Bssgp
