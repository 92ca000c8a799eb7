import OpenBsc.Bssgp.FlowOrder
import OpenBsc.Lib.LeakyBucket

/-!
# `Bssgp.FlowConformance` — what the bucket lets through in an interval

A leaky bucket lets through no more than its size and its leak in any interval, and does not refuse later what
it would pass now. The level the entity keeps is good for the first as long as it counts what passes: the branch
for an emptied bucket does not, so a PDU that is longer than the old level escapes it (`CountsWhatPasses`
excludes that). The second fails when the 32-bit leak wraps around, and exactly then (`passesLater_iff`).
-/

namespace OpenBsc.Bssgp

open LeakyBucket

variable {μ : Type}

/-- The time in microseconds. -/
def Timeval.micros (t : Timeval) : Int := t.sec * 1000000 + t.usec

/-! ## Runs -/

/-- A call of `bssgp_fc_in`; the length is an `uint32_t`. -/
structure FcCall (μ : Type) where
  timeNow : Timeval
  timeSent : Timeval
  fcqe : BssgpFcQueueElement μ
  len_lt : fcqe.llcPduLen < 2 ^ 32

/-- The clock does not go back from `t` on. -/
def Chronological (t : Int) : List (FcCall μ) → Prop
  | [] => True
  | call :: calls => t ≤ call.timeNow.micros ∧ call.timeNow.micros ≤ call.timeSent.micros ∧
      Chronological call.timeSent.micros calls

variable {calls : List (FcCall μ)}

theorem Chronological.mono {t t' : Int} (h : Chronological t calls) (ht : t' ≤ t) : Chronological t' calls := by
  cases calls with
  | nil => trivial
  | cons call calls => exact ⟨ht.trans h.1, h.2⟩

section Runs

variable (headElement : BssgpFlowControl μ → BssgpFcQueueElement μ)

/-- The PDUs that `bssgp_fc_in` passes on without queueing, up to the death of the process if there is one. Times
    are in microseconds, amounts in millionths of an octet. -/
def fcLog (fc : BssgpFlowControl μ) : List (FcCall μ) → List Passed
  | [] => []
  | call :: calls =>
    match bssgpFcIn headElement fc call.timeNow call.timeSent call.fcqe with
    | .error _ => []
    | .ok (fc, out) =>
      (out.map fun fcqe => ⟨call.timeSent.micros, 1000000 * fcqe.llcPduLen⟩) ++ fcLog fc calls

/-- The entity after the calls, if the process lives. -/
def fcState (fc : BssgpFlowControl μ) : List (FcCall μ) → FcResult μ (BssgpFlowControl μ)
  | [] => .ok fc
  | call :: calls =>
    (bssgpFcIn headElement fc call.timeNow call.timeSent call.fcqe).bind fun (fc, _) => fcState fc calls

/-- A PDU that finds the bucket emptied is not longer than the level that stays, and its addition to the level
    does not wrap around. -/
def CountsWhatPasses (fc : BssgpFlowControl μ) (call : FcCall μ) : Prop :=
  bucketPredicted fc call.timeNow call.fcqe.llcPduLen < call.fcqe.llcPduLen →
    call.fcqe.llcPduLen ≤ fc.bucketCounter ∧ fc.bucketCounter + call.fcqe.llcPduLen < 2 ^ 32

/-- Every call of the run counts what passes. -/
def EachCounted (fc : BssgpFlowControl μ) : List (FcCall μ) → Prop
  | [] => True
  | call :: calls =>
    CountsWhatPasses fc call ∧
      match bssgpFcIn headElement fc call.timeNow call.timeSent call.fcqe with
      | .error _ => True
      | .ok (fc, _) => EachCounted fc calls

end Runs

/-! ## The leak -/

theorem micros_timersub (a b : Timeval) : (timersub a b).micros = a.micros - b.micros := by
  unfold timersub Timeval.micros
  split
  · simp only
    omega
  · have := b.usec_lt
    simp only
    omega

/-- The centiseconds from the last PDU to `t`, without a bound. -/
def elapsedCsecs (fc : BssgpFlowControl μ) (t : Timeval) : Int := (t.micros - fc.timeLastPdu.micros) / 10000

/-- What leaks from the last PDU to `t`, in whole centiseconds. -/
def octetsLeaked (fc : BssgpFlowControl μ) (t : Timeval) : Int := elapsedCsecs fc t * (fc.bucketLeakRate / 100 : Nat)

theorem csecsElapsed_eq (fc : BssgpFlowControl μ) (t : Timeval) :
    (csecsElapsed fc t : Int) = elapsedCsecs fc t % 2 ^ 32 := by
  have hdiff := micros_timersub t fc.timeLastPdu
  have hcsecs : (timersub t fc.timeLastPdu).sec * 100 + ((timersub t fc.timeLastPdu).usec / 10000 : Nat) =
      elapsedCsecs fc t := by
    unfold elapsedCsecs
    rw [← hdiff]
    unfold Timeval.micros
    omega
  unfold csecsElapsed
  simp only
  rw [hcsecs]
  exact Int.toNat_of_nonneg (Int.emod_nonneg _ (by omega))

theorem leaked_eq (fc : BssgpFlowControl μ) (t : Timeval) : (leaked fc t : Int) = octetsLeaked fc t % 2 ^ 32 := by
  unfold leaked octetsLeaked
  rw [Int.natCast_emod, Int.natCast_mul, csecsElapsed_eq, Int.mul_emod, Int.mul_emod (elapsedCsecs fc t)]
  exact congrArg (fun r => r * _ % _) (Int.emod_emod_of_dvd _ (dvd_refl _))

variable {fc : BssgpFlowControl μ}

/-- No more leaks than the rate allows, if the clock does not go back. -/
theorem leaked_le {t : Timeval} (h : fc.timeLastPdu.micros ≤ t.micros) :
    1000000 * (leaked fc t : Int) ≤ fc.bucketLeakRate * (t.micros - fc.timeLastPdu.micros) := by
  have helapsed : 0 ≤ elapsedCsecs fc t := Int.ediv_nonneg (by omega) (by omega)
  have hcsecs : 10000 * elapsedCsecs fc t ≤ t.micros - fc.timeLastPdu.micros := by
    unfold elapsedCsecs
    omega
  have hrate : 100 * ((fc.bucketLeakRate / 100 : Nat) : Int) ≤ fc.bucketLeakRate := by omega
  have hleaked : (leaked fc t : Int) ≤ octetsLeaked fc t := by
    have hpos : 0 ≤ octetsLeaked fc t := mul_nonneg helapsed (Int.natCast_nonneg _)
    rw [leaked_eq]
    omega
  calc 1000000 * (leaked fc t : Int)
      ≤ 1000000 * octetsLeaked fc t := by omega
    _ = 100 * ((fc.bucketLeakRate / 100 : Nat) : Int) * (10000 * elapsedCsecs fc t) := by
        unfold octetsLeaked
        ring
    _ ≤ fc.bucketLeakRate * (t.micros - fc.timeLastPdu.micros) := by
        apply mul_le_mul hrate hcsecs
        · omega
        · omega

/-! ## Conformance -/

/-- The bucket of the entity is the same. -/
structure SameBucket (fc fc' : BssgpFlowControl μ) : Prop where
  size : fc'.bucketSizeMax = fc.bucketSizeMax
  rate : fc'.bucketLeakRate = fc.bucketLeakRate
  counter : fc'.bucketCounter = fc.bucketCounter
  last : fc'.timeLastPdu = fc.timeLastPdu

section Calls

variable {headElement : BssgpFlowControl μ → BssgpFcQueueElement μ}

theorem sameBucket_enqueue {fc' : BssgpFlowControl μ} {fcqe : BssgpFcQueueElement μ}
    (h : fcEnqueue headElement fc fcqe = .ok fc') : SameBucket fc fc' := by
  unfold fcEnqueue at h
  split at h
  · cases h
  · unfold fcQueueTimerCfg at h
    split at h
    · cases h
      exact ⟨rfl, rfl, rfl, rfl⟩
    · split at h
      · cases h
      · cases h
        exact ⟨rfl, rfl, rfl, rfl⟩

/-- **What a call does.** The PDU is queued, or the process dies over it; it passes an emptied bucket, whose level
    stays; or it passes and is counted. -/
inductive Called (fc : BssgpFlowControl μ) (call : FcCall μ) :
    FcResult μ (BssgpFlowControl μ × List (BssgpFcQueueElement μ)) → Prop where
  | died {lost : List (BssgpFcQueueElement μ)} : Called fc call (.error lost)
  | queued {fc' : BssgpFlowControl μ} (hsame : SameBucket fc fc') : Called fc call (.ok (fc', []))
  | emptied (hlow : bucketPredicted fc call.timeNow call.fcqe.llcPduLen < call.fcqe.llcPduLen) :
      Called fc call (.ok ({ fc with timeLastPdu := call.timeSent }, [call.fcqe]))
  | counted (hlevel : call.fcqe.llcPduLen ≤ bucketPredicted fc call.timeNow call.fcqe.llcPduLen)
      (hroom : bucketPredicted fc call.timeNow call.fcqe.llcPduLen ≤ fc.bucketSizeMax) :
      Called fc call (.ok
        ({ fc with
            bucketCounter := (bucketPredicted fc call.timeNow call.fcqe.llcPduLen).toNat
            timeLastPdu := call.timeSent },
          [call.fcqe]))

theorem bssgpFcIn_cases (fc : BssgpFlowControl μ) (call : FcCall μ) :
    Called fc call (bssgpFcIn headElement fc call.timeNow call.timeSent call.fcqe) := by
  have hqueue : Called fc call ((fcEnqueue headElement fc call.fcqe).map fun fc => (fc, [])) := by
    cases henqueue : fcEnqueue headElement fc call.fcqe with
    | error lost => exact .died
    | ok fc' => exact .queued (sameBucket_enqueue henqueue)
  unfold bssgpFcIn bssgpFcNeedsQueueing
  by_cases hdepth : fc.queueDepth ≠ 0
  · rw [if_pos hdepth]
    exact hqueue
  · rw [if_neg hdepth]
    by_cases hlow : bucketPredicted fc call.timeNow call.fcqe.llcPduLen < call.fcqe.llcPduLen
    · rw [if_pos hlow]
      exact .emptied hlow
    · rw [if_neg hlow]
      by_cases hroom : bucketPredicted fc call.timeNow call.fcqe.llcPduLen ≤ fc.bucketSizeMax
      · rw [if_pos hroom]
        exact .counted (not_lt.mp hlow) hroom
      · rw [if_neg hroom]
        exact hqueue

/-- The level after a counted PDU is the old one with the PDU, less the leak. -/
theorem bucketPredicted_of_le {t : Timeval} {len : Nat} (hcounter : fc.bucketCounter < 2 ^ 32) (hlen : len < 2 ^ 32)
    (h : len ≤ bucketPredicted fc t len) : bucketPredicted fc t len = fc.bucketCounter + len - leaked fc t := by
  unfold bucketPredicted at h ⊢
  omega

/-- A PDU that an emptied bucket passes is shorter than the leak, if it is counted. -/
theorem lt_leaked_of_counted {call : FcCall μ}
    (hlow : bucketPredicted fc call.timeNow call.fcqe.llcPduLen < call.fcqe.llcPduLen)
    (hcounts : CountsWhatPasses fc call) : call.fcqe.llcPduLen ≤ fc.bucketCounter ∧
      call.fcqe.llcPduLen < leaked fc call.timeNow := by
  obtain ⟨hlen, hwrap⟩ := hcounts hlow
  unfold bucketPredicted at hlow
  exact ⟨hlen, by omega⟩

/-- **A run that counts what passes is levelled.** -/
theorem fcLog_levelled (hsize : fc.bucketSizeMax < 2 ^ 32) (hcounter : fc.bucketCounter ≤ fc.bucketSizeMax)
    (hchron : Chronological fc.timeLastPdu.micros calls) (hcounts : EachCounted headElement fc calls) :
    Levelled (1000000 * fc.bucketSizeMax) fc.bucketLeakRate fc.timeLastPdu.micros (1000000 * fc.bucketCounter)
      (fcLog headElement fc calls) := by
  induction calls generalizing fc with
  | nil => exact .nil
  | cons call calls ih =>
    obtain ⟨hnow, hsent, hrest⟩ := hchron
    obtain ⟨hcount, hcounts⟩ := hcounts
    -- what leaks until the clock is read has leaked when the PDU is sent
    have hleak : 1000000 * (leaked fc call.timeNow : Int) ≤
        fc.bucketLeakRate * (call.timeSent.micros - fc.timeLastPdu.micros) :=
      (leaked_le hnow).trans (mul_le_mul_of_nonneg_left (by omega) (Int.natCast_nonneg _))
    have hcases := @bssgpFcIn_cases μ headElement fc call
    unfold fcLog
    generalize bssgpFcIn headElement fc call.timeNow call.timeSent call.fcqe = result at hcases hcounts
    cases hcases with
    | died => exact .nil
    | queued hsame =>
      rename_i fc'
      have hih := @ih fc'
      rw [hsame.size, hsame.rate, hsame.last, hsame.counter] at hih
      exact hih hsize hcounter (hrest.mono (hnow.trans hsent)) hcounts
    | emptied hlow =>
      obtain ⟨hlen, hlt⟩ := lt_leaked_of_counted hlow hcount
      have hih := @ih { fc with timeLastPdu := call.timeSent } hsize hcounter hrest hcounts
      refine .cons (hnow.trans hsent) ?_ ?_ ?_ hih
      · show 1000000 * (fc.bucketCounter : Int) + 1000000 * (call.fcqe.llcPduLen : Int) ≤
          1000000 * (fc.bucketCounter : Int) + fc.bucketLeakRate * (call.timeSent.micros - fc.timeLastPdu.micros)
        omega
      · show 1000000 * (call.fcqe.llcPduLen : Int) ≤ 1000000 * (fc.bucketCounter : Int)
        omega
      · show 1000000 * (fc.bucketCounter : Int) ≤ 1000000 * (fc.bucketSizeMax : Int)
        omega
    | counted hlevel hroom =>
      have hpredicted := bucketPredicted_of_le (by omega) call.len_lt hlevel
      have hnat : ((bucketPredicted fc call.timeNow call.fcqe.llcPduLen).toNat : Int) =
          bucketPredicted fc call.timeNow call.fcqe.llcPduLen := Int.toNat_of_nonneg (by omega)
      have hih := @ih { fc with
          bucketCounter := (bucketPredicted fc call.timeNow call.fcqe.llcPduLen).toNat
          timeLastPdu := call.timeSent } hsize (by simp only; omega) hrest hcounts
      refine .cons (hnow.trans hsent) ?_ ?_ ?_ hih
      · show 1000000 * (fc.bucketCounter : Int) + 1000000 * (call.fcqe.llcPduLen : Int) ≤
          1000000 * ((bucketPredicted fc call.timeNow call.fcqe.llcPduLen).toNat : Int) +
            fc.bucketLeakRate * (call.timeSent.micros - fc.timeLastPdu.micros)
        rw [hnat, hpredicted]
        omega
      · show 1000000 * (call.fcqe.llcPduLen : Int) ≤
          1000000 * ((bucketPredicted fc call.timeNow call.fcqe.llcPduLen).toNat : Int)
        rw [hnat]
        omega
      · show 1000000 * ((bucketPredicted fc call.timeNow call.fcqe.llcPduLen).toNat : Int) ≤
          1000000 * (fc.bucketSizeMax : Int)
        rw [hnat]
        omega

theorem fcState_counter_le {fc' : BssgpFlowControl μ} (hcounter : fc.bucketCounter ≤ fc.bucketSizeMax)
    (h : fcState headElement fc calls = .ok fc') :
    fc'.bucketCounter ≤ fc'.bucketSizeMax ∧ fc'.bucketSizeMax = fc.bucketSizeMax := by
  induction calls generalizing fc with
  | nil =>
    cases h
    exact ⟨hcounter, rfl⟩
  | cons call calls ih =>
    have hcases := @bssgpFcIn_cases μ headElement fc call
    unfold fcState at h
    generalize bssgpFcIn headElement fc call.timeNow call.timeSent call.fcqe = result at hcases h
    cases hcases with
    | died => cases h
    | queued hsame =>
      rename_i fc₁
      have hih := @ih fc₁
      rw [hsame.size, hsame.counter] at hih
      exact hih hcounter h
    | emptied hlow => exact @ih { fc with timeLastPdu := call.timeSent } hcounter h
    | counted hlevel hroom =>
      exact @ih { fc with
        bucketCounter := (bucketPredicted fc call.timeNow call.fcqe.llcPduLen).toNat
        timeLastPdu := call.timeSent } (by simp only; omega) h

end Calls

/-! ## Passing later -/

/-- A PDU that would be passed on at `t` would be passed on at `t'` too. -/
def PassesLater (fc : BssgpFlowControl μ) (t t' : Timeval) : Prop :=
  ∀ len, len < 2 ^ 32 → (bssgpFcNeedsQueueing fc t len).1 = false → (bssgpFcNeedsQueueing fc t' len).1 = false

/-- What has leaked until `t'`, in 32 bits, is no less than until `t`, or more than the level, or so much that
    nothing is refused. -/
def LeakSuffices (fc : BssgpFlowControl μ) (t t' : Timeval) : Prop :=
  octetsLeaked fc t % 2 ^ 32 ≤ octetsLeaked fc t' % 2 ^ 32 ∨ fc.bucketCounter < octetsLeaked fc t' % 2 ^ 32 ∨
    2 ^ 32 ≤ fc.bucketSizeMax + octetsLeaked fc t' % 2 ^ 32 + 1

theorem passes_iff (fc : BssgpFlowControl μ) (t : Timeval) (len : Nat) :
    (bssgpFcNeedsQueueing fc t len).1 = false ↔ fc.queueDepth = 0 ∧ BucketAdmits fc t len := by
  by_cases hdepth : fc.queueDepth = 0
  · rw [needsQueueing_iff hdepth, and_iff_right hdepth]
  · unfold bssgpFcNeedsQueueing
    rw [if_pos hdepth]
    simp [hdepth]

/-- **A PDU passes later too, for every length, exactly if the leak suffices** (or nothing passes at all). -/
theorem passesLater_iff (hsize : fc.bucketSizeMax < 2 ^ 32) (hcounter : fc.bucketCounter ≤ fc.bucketSizeMax)
    (t t' : Timeval) : PassesLater fc t t' ↔ fc.queueDepth ≠ 0 ∨ LeakSuffices fc t t' := by
  unfold PassesLater LeakSuffices
  simp only [passes_iff, ← leaked_eq]
  by_cases hdepth : fc.queueDepth = 0
  · simp only [hdepth, true_and, ne_eq, not_true_eq_false, false_or]
    unfold BucketAdmits bucketPredicted
    constructor
    · intro h
      -- a PDU that fills the bucket to just what leaks until the first instant
      by_contra hnot
      have hlen := h (fc.bucketSizeMax - fc.bucketCounter + (leaked fc t' + 1)) (by omega)
      omega
    · intro h len hlen hpass
      omega
  · simp [hdepth]

/-! ## Both -/

/-- **A run that counts what passes conforms, and in every state it reaches a PDU passes later too, exactly if the
    leak suffices.** -/
theorem conforms_of_counted (headElement : BssgpFlowControl μ → BssgpFcQueueElement μ) (fc : BssgpFlowControl μ)
    (hsize : fc.bucketSizeMax < 2 ^ 32) (hcounter : fc.bucketCounter ≤ fc.bucketSizeMax) (calls : List (FcCall μ))
    (hchron : Chronological fc.timeLastPdu.micros calls) (hcounts : EachCounted headElement fc calls) :
    Conforms (1000000 * fc.bucketSizeMax) fc.bucketLeakRate (fcLog headElement fc calls) ∧
      ∀ fc', fcState headElement fc calls = .ok fc' → ∀ t t',
        PassesLater fc' t t' ↔ fc'.queueDepth ≠ 0 ∨ LeakSuffices fc' t t' := by
  refine ⟨?_, ?_⟩
  · have hlevelled := fcLog_levelled hsize hcounter hchron hcounts
    exact hlevelled.conforms (Int.natCast_nonneg _) (by omega)
  · intro fc' hstate t t'
    obtain ⟨hle, heq⟩ := fcState_counter_le hcounter hstate
    exact passesLater_iff (heq ▸ hsize) hle t t'

/-- A bucket of 100 octets that leaks 150 octets in a second, one in each centisecond. -/
def smallBucket : BssgpFlowControl Unit :=
  ⟨100, 150, 0, ⟨1, 0, zero_usec_lt⟩, 10, 0, .linked [], none⟩

/-- A call at a time in milliseconds. -/
def callAt (sec usec : Nat) (h : usec < 1000000) (len : Nat) (hlen : len < 2 ^ 32) : FcCall Unit :=
  ⟨⟨sec, usec, h⟩, ⟨sec, usec, h⟩, ⟨(), len, 0⟩, hlen⟩

/-- Two PDUs, the second when half of the first has leaked. -/
def twoCalls : List (FcCall Unit) :=
  [callAt 1 5000 (by decide) 40 (by decide), callAt 1 205000 (by decide) 30 (by decide)]

theorem conforms_two_calls :
    Conforms (1000000 * 100) 150 (fcLog (fun _ => ⟨(), 0, 0⟩) smallBucket twoCalls) := by
  have hchron : Chronological smallBucket.timeLastPdu.micros twoCalls :=
    ⟨by decide, by decide, by decide, by decide, trivial⟩
  have hcounts : EachCounted (fun _ => ⟨(), 0, 0⟩) smallBucket twoCalls := by
    refine ⟨?_, ?_, trivial⟩
    · unfold CountsWhatPasses
      decide
    · unfold CountsWhatPasses
      decide
  exact (conforms_of_counted _ smallBucket (by decide) (by decide) twoCalls hchron hcounts).1

/-- After a second of silence the bucket is found empty, and a PDU of 1000 octets passes it. -/
theorem not_conforms_oversized :
    ¬ ∀ (headElement : BssgpFlowControl Unit → BssgpFcQueueElement Unit) (fc : BssgpFlowControl Unit), FcFresh fc →
      fc.bucketSizeMax < 2 ^ 32 → fc.bucketCounter = 0 → ∀ calls, Chronological fc.timeLastPdu.micros calls →
        Conforms (1000000 * fc.bucketSizeMax) fc.bucketLeakRate (fcLog headElement fc calls) ∧
          ∀ fc', fcState headElement fc calls = .ok fc' → ∀ t t', fc'.timeLastPdu.micros ≤ t.micros →
            t.micros ≤ t'.micros → PassesLater fc' t t' := by
  intro h
  have hconforms := (h (fun _ => ⟨(), 0, 0⟩) smallBucket ⟨.inr rfl, rfl, rfl⟩ (by decide) rfl
    [callAt 2 0 (by decide) 1000 (by decide)] ⟨by decide, by decide, trivial⟩).1 2000000 2000000 le_rfl
  have htotal : total 2000000 2000000 (fcLog (fun _ => ⟨(), 0, 0⟩) smallBucket
      [callAt 2 0 (by decide) 1000 (by decide)]) = 1000000000 := by decide
  rw [htotal] at hconforms
  exact absurd hconforms (by decide)

end OpenBsc.Bssgp
