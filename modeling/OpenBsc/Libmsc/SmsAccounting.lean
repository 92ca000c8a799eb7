import OpenBsc.Libmsc.SmsQueue

/-!
# `Libmsc.SmsAccounting` — the accounts of the message queue

The counter of the queue is the number of its entries, no subscriber and no message has two of them, and each holds one
reference on its subscriber. The counter stays within `max_pending` as long as the queue is not pushed when it is full
and finds a message for a subscriber who has no entry (`accounted_of_notOverfilled`): `sms_submit_pending` computes what
it may submit before a loop that runs at least once (`overfilled_by_push`).
-/

namespace OpenBsc.Libmsc

open Transition SmsQueue SmsNet Pool

/-! ## Accounts -/

/-- **The accounts of the queue**, where the places of `k` entries were already given away. -/
structure AccountedBut (k : Nat) (q : SmsQueue) : Prop where
  counted : q.pending + k = q.pendingSms.count fun _ => true
  distinct : q.pendingSms.Pairwise fun a b => a.subscr ≠ b.subscr ∧ a.smsId ≠ b.smsId
  refs : ∀ x, q.refs x = q.pendingSms.count fun p => p.subscr == x
  sound : q.fault = false

variable {q q' : SmsQueue} {k i : Nat} {p : GsmSmsPending} {sms : GsmSms}

theorem distinct_symm (a b : GsmSmsPending) (h : a.subscr ≠ b.subscr ∧ a.smsId ≠ b.smsId) :
    b.subscr ≠ a.subscr ∧ b.smsId ≠ a.smsId := ⟨Ne.symm h.1, Ne.symm h.2⟩

namespace AccountedBut

/-- An entry is changed, but neither its subscriber nor its message. -/
theorem modifyPending (h : AccountedBut k q) (i : Nat) {f : GsmSmsPending → GsmSmsPending}
    (hf : ∀ p, (f p).subscr = p.subscr ∧ (f p).smsId = p.smsId) : AccountedBut k (q.modifyPending i f) where
  counted := by
    rw [show (q.modifyPending i f).pendingSms = q.pendingSms.modify i f from rfl, count_modify]
    · exact h.counted
    · intro a
      rfl
  distinct := by
    refine h.distinct.modify distinct_symm fun a ha j b hb hji => ?_
    rw [(hf a).1, (hf a).2]
    exact h.distinct i a j b ha hb (Ne.symm hji)
  refs := by
    intro x
    rw [show (q.modifyPending i f).pendingSms = q.pendingSms.modify i f from rfl, count_modify]
    · exact h.refs x
    · intro a
      rw [(hf a).1]
  sound := h.sound

/-- A message without an entry gets one, and a place. -/
theorem smsPendingFrom (h : AccountedBut k q) (hsms : q.smsFindPending sms.id = none)
    (hsubscr : q.smsSubscriberFindPending sms.receiver = none) :
    AccountedBut k ((q.addPending 1).smsPendingFrom sms) where
  counted := by
    have hcount := count_alloc q.pendingSms { subscr := sms.receiver, smsId := sms.id } fun _ => true
    rw [if_pos rfl] at hcount
    show q.pending + 1 + k = ((q.pendingSms.alloc _).count fun _ => true : Nat)
    have hcounted := h.counted
    omega
  distinct := by
    refine h.distinct.alloc distinct_symm fun j b hb => ?_
    have hb1 := find?_eq_none.mp hsubscr j b hb
    have hb2 := find?_eq_none.mp hsms j b hb
    exact ⟨Ne.symm (by simpa using hb1), Ne.symm (by simpa using hb2)⟩
  refs := by
    intro x
    have hcount := count_alloc q.pendingSms { subscr := sms.receiver, smsId := sms.id } fun p => p.subscr == x
    show Function.update q.refs sms.receiver (q.refs sms.receiver + 1) x = ((q.pendingSms.alloc _).count _ : Nat)
    rw [hcount]
    push_cast
    rw [← h.refs x]
    by_cases hx : x = sms.receiver
    · subst hx
      simp
    · simp [Function.update_of_ne hx, Ne.symm hx]
  sound := h.sound

theorem smsPendingFree (h : AccountedBut (k + 1) q) (hget : q.pendingSms.get? i = some p) :
    AccountedBut k (q.smsPendingFree i) := by
  unfold SmsQueue.smsPendingFree
  rw [hget]
  refine ⟨?_, h.distinct.remove i, fun x => ?_, h.sound⟩
  · have hcount := count_remove hget fun _ => true
    rw [if_pos rfl] at hcount
    have hcounted := h.counted
    show q.pending + k = ((q.pendingSms.remove i).count fun _ => true : Nat)
    omega
  · have hcount := count_remove hget fun p => p.subscr == x
    have hrefs := h.refs x
    show Function.update q.refs p.subscr (q.refs p.subscr - 1) x = ((q.pendingSms.remove i).count _ : Nat)
    by_cases hx : x = p.subscr
    · subst hx
      rw [beq_self_eq_true, if_pos rfl] at hcount
      rw [Function.update_self]
      omega
    · rw [Function.update_of_ne hx, hrefs, ← hcount]
      simp [Ne.symm hx]

theorem addPending_neg (h : AccountedBut k q) : AccountedBut (k + 1) (q.addPending (-1)) where
  counted := by
    show q.pending + -1 + (k + 1 : Nat) = (q.pendingSms.count fun _ => true : Nat)
    have hcounted := h.counted
    omega
  distinct := h.distinct
  refs := h.refs
  sound := h.sound

end AccountedBut

theorem SmsQueue.giveUp_eq (hget : q.pendingSms.get? i = some p) :
    q.giveUp i = ((q.addPending (-1)).smsPendingFree i).smsQueueTrigger := by
  unfold giveUp smsPendingFree
  rw [show (q.addPending (-1)).pendingSms.get? i = some p from hget, hget]
  rfl

theorem AccountedBut.giveUp (h : AccountedBut k q) (hget : q.pendingSms.get? i = some p) :
    AccountedBut k (q.giveUp i) := by
  rw [giveUp_eq hget]
  have hfree := h.addPending_neg.smsPendingFree (i := i) (p := p) hget
  exact ⟨hfree.counted, hfree.distinct, hfree.refs, hfree.sound⟩

/-! ## Signals -/

variable {ε : Type} {s s' : SmsNet ε} {t : SmsTransport ε}

/-- The entry `i` is kept for another attempt or given up. -/
inductive Failed (q : SmsQueue) (i : Nat) : SmsQueue → Prop where
  | kept {f : GsmSmsPending → GsmSmsPending} (hf : ∀ p, (f p).subscr = p.subscr ∧ (f p).smsId = p.smsId) :
      Failed q i { q.modifyPending i f with resendPending := true }
  | givenUp {f : GsmSmsPending → GsmSmsPending} (hf : ∀ p, (f p).subscr = p.subscr ∧ (f p).smsId = p.smsId) :
      Failed q i ((q.modifyPending i f).giveUp i)

theorem SmsQueue.modifyPending_modifyPending (q : SmsQueue) (i : Nat) (f g : GsmSmsPending → GsmSmsPending) :
    (q.modifyPending i f).modifyPending i g = q.modifyPending i fun p => g (f p) := by
  unfold modifyPending
  rw [modify_modify]

theorem SmsQueue.modifyPending_id (q : SmsQueue) (i : Nat) : (q.modifyPending i fun p => p) = q := by
  unfold modifyPending
  rw [modify_id]

theorem smsPendingFailed_cases (hget : s.queue.pendingSms.get? i = some p) (pagingError : Bool) :
    Failed s.queue i (s.smsPendingFailed i pagingError).queue := by
  unfold smsPendingFailed
  rw [hget]
  simp only
  split
  · show Failed s.queue i { (s.queue.modifyPending i _).modifyPending i _ with resendPending := true }
    rw [modifyPending_modifyPending]
    exact .kept fun _ => ⟨rfl, rfl⟩
  · exact .givenUp fun _ => ⟨rfl, rfl⟩

/-- The signal that a message could not be sent is about its entry, if it has one. -/
theorem smsUnknownError_cases (s : SmsNet ε) (sms : GsmSms) (pagingResult : PagingEvent) :
    (s.smsUnknownError sms pagingResult).queue = s.queue ∨
      ∃ i p, s.queue.smsFindPending sms.id = some (i, p) ∧
        Failed s.queue i (s.smsUnknownError sms pagingResult).queue := by
  unfold smsUnknownError
  cases hfind : s.queue.smsFindPending sms.id with
  | none => exact .inl rfl
  | some found =>
    obtain ⟨i, p⟩ := found
    have hget : s.queue.pendingSms.get? i = some p := (find?_eq_some.mp hfind).1
    refine .inr ⟨i, p, rfl, ?_⟩
    have hgive : Failed s.queue i (s.queue.giveUp i) := by
      have hid := Failed.givenUp (q := s.queue) (i := i) (f := fun p => p) fun _ => ⟨rfl, rfl⟩
      rwa [modifyPending_id] at hid
    cases pagingResult with
    | succeeded => exact smsPendingFailed_cases (s := { s with db := s.db.smsIncDeliverAttempts sms.id }) hget false
    | expired => exact smsPendingFailed_cases hget true
    | oom | busy => exact hgive

/-- What was begun changed nothing in the queue, or the message failed. -/
theorem signalled_cases (s : SmsNet ε) (sms : GsmSms) (sent : (SmsDb × ε) × Option PagingEvent) :
    (s.signalled sms sent).queue = s.queue ∨
      ∃ i p, s.queue.smsFindPending sms.id = some (i, p) ∧ Failed s.queue i (s.signalled sms sent).queue := by
  unfold signalled
  cases sent.2 with
  | none => exact .inl rfl
  | some pagingResult => exact smsUnknownError_cases _ sms pagingResult

theorem gsm411SendSmsSubscr_cases (s : SmsNet ε) (sms : GsmSms) :
    (s.gsm411SendSmsSubscr t sms).queue = s.queue ∨
      ∃ i p, s.queue.smsFindPending sms.id = some (i, p) ∧ Failed s.queue i (s.gsm411SendSmsSubscr t sms).queue := by
  unfold gsm411SendSmsSubscr
  split
  · exact signalled_cases s sms _
  · exact signalled_cases s sms _

namespace Failed

/-- The entries but `i` stay as they were. -/
theorem old (h : Failed q i q') {j : Nat} (hji : j ≠ i) : q'.pendingSms.get? j = q.pendingSms.get? j := by
  have hmodify : ∀ f, (q.modifyPending i f).pendingSms.get? j = q.pendingSms.get? j := fun f => get?_modify_ne hji
  cases h with
  | @kept f hf => exact hmodify f
  | @givenUp f hf =>
    rw [← hmodify f]
    unfold giveUp smsPendingFree
    split
    · show ((q.modifyPending i f).pendingSms.remove i).get? j = _
      rw [get?_remove, if_neg hji]
    · rfl

theorem bounds (h : Failed q i q') :
    q'.pendingSms.next = q.pendingSms.next ∧ q'.maxPending = q.maxPending ∧ q'.pending ≤ q.pending := by
  cases h with
  | kept hf => exact ⟨rfl, rfl, Int.le_refl _⟩
  | @givenUp f hf =>
    unfold giveUp smsPendingFree
    have hless : q.pending + -1 ≤ q.pending := by omega
    split
    · exact ⟨rfl, rfl, hless⟩
    · exact ⟨rfl, rfl, hless⟩

theorem accounted (h : Failed q i q') (hq : AccountedBut k q) (hget : q.pendingSms.get? i = some p) :
    AccountedBut k q' := by
  cases h with
  | kept hf =>
    have hkept := hq.modifyPending i hf
    exact ⟨hkept.counted, hkept.distinct, hkept.refs, hkept.sound⟩
  | @givenUp f hf =>
    have hnew : (q.modifyPending i f).pendingSms.get? i = some (f p) := get?_modify_self hget
    exact (hq.modifyPending i hf).giveUp hnew

end Failed

/-! ## Submission -/

/-- **What submitting does.** The accounts are in order, the entries that were there before are untouched, and the
    counter has grown by at most `n`. -/
structure Grown (k : Nat) (n : Int) (q q' : SmsQueue) : Prop where
  accounted : AccountedBut k q'
  old : ∀ i, i < q.pendingSms.next → q'.pendingSms.get? i = q.pendingSms.get? i
  next : q.pendingSms.next ≤ q'.pendingSms.next
  maxPending : q'.maxPending = q.maxPending
  pending : q'.pending ≤ q.pending + n

namespace Grown

theorem trans {m n : Int} {q₁ q₂ q₃ : SmsQueue} (h : Grown k m q₁ q₂) (h' : Grown k n q₂ q₃) :
    Grown k (m + n) q₁ q₃ where
  accounted := h'.accounted
  old i hi := (h'.old i (Nat.lt_of_lt_of_le hi h.next)).trans (h.old i hi)
  next := Nat.le_trans h.next h'.next
  maxPending := h'.maxPending.trans h.maxPending
  pending := by
    have h1 := h.pending
    have h2 := h'.pending
    omega

theorem mono {m n : Int} (h : Grown k m q q') (hmn : m ≤ n) : Grown k n q q' where
  accounted := h.accounted
  old := h.old
  next := h.next
  maxPending := h.maxPending
  pending := by
    have h1 := h.pending
    omega

theorem takeNextSms (h : AccountedBut k s.queue) : Grown k 0 s.queue s.takeNextSms.queue :=
  ⟨⟨h.counted, h.distinct, h.refs, h.sound⟩, fun _ _ => rfl, Nat.le_refl _, rfl, Int.le_of_eq (Int.add_zero _).symm⟩

/-- A message that is submitted has the newest entry, and only this one may be lost again. -/
theorem submit (h : AccountedBut k s.queue) (hpending : s.isPending sms = false) :
    Grown k 1 s.queue (s.submit t sms).queue := by
  simp only [isPending, Bool.or_eq_false_iff, Option.isSome_eq_false_iff, Option.isNone_iff_eq_none] at hpending
  have hentry := h.smsPendingFrom hpending.1 hpending.2
  have hnext : ((s.queue.addPending 1).smsPendingFrom sms).pendingSms.next = s.queue.pendingSms.next + 1 := rfl
  have hold : ∀ i, i < s.queue.pendingSms.next →
      ((s.queue.addPending 1).smsPendingFrom sms).pendingSms.get? i = s.queue.pendingSms.get? i := by
    intro i hi
    show (s.queue.pendingSms.alloc _).get? i = _
    rw [get?_alloc, if_neg (Nat.ne_of_lt hi)]
  have hentered : Grown k 1 s.queue ((s.queue.addPending 1).smsPendingFrom sms) :=
    ⟨hentry, hold, Nat.le_succ _, rfl, Int.le_refl _⟩
  unfold SmsNet.submit
  obtain hsame | ⟨i, p, hfind, hfailed⟩ :=
    gsm411SendSmsSubscr_cases (t := t) (s.onQueue fun q => (q.addPending 1).smsPendingFrom sms) sms
  · rw [hsame]
    exact hentered
  · obtain ⟨hget, hid, -⟩ := find?_eq_some.mp hfind
    -- no older entry is about this message
    have hi : ¬ i < s.queue.pendingSms.next := by
      intro hlt
      have hnot := find?_eq_none.mp hpending.1 i p ((hold i hlt).symm.trans hget)
      rw [hid] at hnot
      cases hnot
    obtain ⟨hn, hmax, hless⟩ := hfailed.bounds
    refine ⟨hfailed.accounted hentry hget, fun j hj => ?_, ?_, hmax, ?_⟩
    · rw [hfailed.old fun hji => hi (hji ▸ hj)]
      exact hold j hj
    · rw [hn]
      exact Nat.le_succ _
    · exact hless

end Grown

theorem submitLoop_spec (rounds : Nat) (firstSub : Option Nat) {left : Int} (hleft : 0 < left) {s : SmsNet ε}
    (h : AccountedBut k s.queue) : Grown k left s.queue (s.submitLoop t rounds firstSub left).queue := by
  have hleft0 : 0 ≤ left := Int.le_of_lt hleft
  induction rounds generalizing firstSub left s with
  | zero => exact ⟨h, fun _ _ => rfl, Nat.le_refl _, rfl, Int.le_add_of_nonneg_right hleft0⟩
  | succ rounds ih =>
    have htake := Grown.takeNextSms h
    unfold submitLoop
    cases s.nextSms with
    | none => exact htake.mono hleft0
    | some sms =>
      simp only
      split
      · exact htake.mono hleft0
      · split
        · exact (htake.trans (ih _ hleft htake.accounted hleft0)).mono (by omega)
        · rename_i hpending
          rw [Bool.not_eq_true] at hpending
          have hsubmit := htake.trans (Grown.submit (t := t) htake.accounted hpending)
          split
          · rename_i hmore
            exact (hsubmit.trans (ih _ hmore hsubmit.accounted (Int.le_of_lt hmore))).mono (by omega)
          · exact hsubmit.mono (by omega)

/-- The queue is full, and there is a message for a subscriber who has no entry. -/
def SmsNet.overfull (s : SmsNet ε) : Bool :=
  decide (s.queue.maxPending ≤ s.queue.pending) && s.nextSms.any fun sms => !s.isPending sms

/-- A full queue gets no new entry, unless there is a message for a subscriber who has none. -/
theorem smsSubmitPending_spec (h : AccountedBut k s.queue) (hfull : s.overfull = false)
    (hmax : s.queue.pending ≤ s.queue.maxPending) :
    Grown k (s.queue.maxPending - s.queue.pending) s.queue (s.smsSubmitPending t).queue := by
  unfold smsSubmitPending
  by_cases hroom : 0 < s.queue.maxPending - s.queue.pending
  · exact submitLoop_spec 1000 none hroom h
  · -- there is one round, and it submits nothing
    have htake := (Grown.takeNextSms h).mono (n := s.queue.maxPending - s.queue.pending) (by omega)
    have hle : s.queue.maxPending ≤ s.queue.pending := by omega
    simp only [overfull, hle, decide_true, Bool.true_and] at hfull
    unfold submitLoop
    cases hnext : s.nextSms with
    | none => exact htake
    | some sms =>
      rw [hnext, Option.any_some, Bool.not_eq_false'] at hfull
      have hpending : s.takeNextSms.isPending sms = true := hfull
      simp only [if_neg hroom, hpending, if_true]
      split
      · exact htake
      · exact htake

/-! ## The result -/

/-- **The accounts of the queue.** The counter is the number of the entries, and within `max_pending`; no subscriber has
    two of them; each holds one reference on its subscriber; and no entry was used after it was freed. -/
structure Accounted (s : SmsNet ε) : Prop where
  counted : s.queue.pending = s.queue.pendingSms.entries.length
  within : s.queue.pending ≤ s.queue.maxPending
  oneEach : s.queue.pendingSms.Pairwise fun a b => a.subscr ≠ b.subscr
  refs : ∀ x, s.queue.refs x = s.queue.pendingSms.count fun p => p.subscr == x
  sound : s.queue.fault = false

/-- The accounts are in order, with room for `maxPending` messages. -/
def AccountsKept (maxPending : Int) (s : SmsNet ε) : Prop :=
  AccountedBut 0 s.queue ∧ s.queue.pending ≤ maxPending ∧ s.queue.maxPending = maxPending

namespace AccountsKept

variable {maxPending : Int}

section

variable (h : AccountsKept maxPending s)

include h

theorem grown (hgrown : Grown 0 (s.queue.maxPending - s.queue.pending) s.queue s'.queue) :
    AccountsKept maxPending s' := by
  obtain ⟨-, -, hmax⟩ := h
  refine ⟨hgrown.accounted, ?_, hgrown.maxPending.trans hmax⟩
  have hpending := hgrown.pending
  omega

theorem failed (hcases : s'.queue = s.queue ∨
      ∃ i p, s.queue.smsFindPending sms.id = some (i, p) ∧ Failed s.queue i s'.queue) : AccountsKept maxPending s' := by
  obtain ⟨hq, hless, hmax⟩ := h
  obtain hsame | ⟨i, p, hfind, hfailed⟩ := hcases
  · unfold AccountsKept
    rw [hsame]
    exact ⟨hq, hless, hmax⟩
  · obtain ⟨-, hmax', hless'⟩ := hfailed.bounds
    exact ⟨hfailed.accounted hq (find?_eq_some.mp hfind).1, Int.le_trans hless' hless, hmax'.trans hmax⟩

theorem giveUp (hget : s.queue.pendingSms.get? i = some p) :
    AccountsKept maxPending (s.onQueue fun q => q.giveUp i) := by
  have hfailed := Failed.givenUp (q := s.queue) (i := i) (f := fun p => p) fun _ => ⟨rfl, rfl⟩
  rw [modifyPending_id] at hfailed
  obtain ⟨-, hmax, hless⟩ := hfailed.bounds
  exact ⟨h.1.giveUp hget, Int.le_trans hless h.2.1, hmax.trans h.2.2⟩

theorem modifyPending (i : Nat) {f : GsmSmsPending → GsmSmsPending}
    (hf : ∀ p, (f p).subscr = p.subscr ∧ (f p).smsId = p.smsId) :
    AccountsKept maxPending (s.onQueue fun q => q.modifyPending i f) :=
  ⟨h.1.modifyPending i hf, h.2⟩

theorem smsUnknownError (sms : GsmSms) (pagingResult : PagingEvent) :
    AccountsKept maxPending (s.smsUnknownError sms pagingResult) :=
  h.failed (smsUnknownError_cases s sms pagingResult)

/-- An entry is sent again, or given up because its message is gone; the others stay. -/
theorem resendOne (hget : s.queue.pendingSms.get? i = some p) :
    AccountsKept maxPending (s.resendOne t i) ∧
      ∀ j, j ≠ i → (s.resendOne t i).queue.pendingSms.get? j = s.queue.pendingSms.get? j := by
  unfold SmsNet.resendOne
  rw [hget]
  simp only
  split
  · exact ⟨h, fun _ _ => rfl⟩
  · cases hsms : s.db.smsGet p.smsId with
    | none =>
      have hgiven := Failed.givenUp (q := s.queue) (i := i) (f := fun p => p) fun _ => ⟨rfl, rfl⟩
      rw [modifyPending_id] at hgiven
      exact ⟨h.giveUp hget, fun j hji => hgiven.old hji⟩
    | some sms =>
      simp only
      have hid : sms.id = p.smsId := by
        obtain ⟨row, hrow, rfl⟩ := Option.map_eq_some_iff.mp hsms
        exact eq_of_beq (List.find?_some (p := fun row : StoredSms => row.id == p.smsId) hrow)
      have hmod := h.modifyPending i (f := fun p => { p with resend := false }) fun _ => ⟨rfl, rfl⟩
      have hnew := get?_modify_self (f := fun p : GsmSmsPending => { p with resend := false }) hget
      have hold : ∀ j, j ≠ i → (s.queue.modifyPending i fun p => { p with resend := false }).pendingSms.get? j =
          s.queue.pendingSms.get? j := fun j hji => get?_modify_ne hji
      have hcases := gsm411SendSmsSubscr_cases (t := t)
        (s.onQueue fun q => q.modifyPending i fun p => { p with resend := false }) sms
      refine ⟨hmod.failed hcases, fun j hji => ?_⟩
      obtain hsame | ⟨j', p', hfind, hfailed⟩ := hcases
      · rw [hsame]
        exact hold j hji
      · -- no other entry is about this message
        obtain ⟨hget', hid', -⟩ := find?_eq_some.mp hfind
        obtain rfl : j' = i := by
          by_contra hne
          refine (hmod.1.distinct j' p' i _ hget' hnew hne).2 ?_
          exact (eq_of_beq hid').trans hid
        exact (hfailed.old hji).trans (hold j hji)

theorem resendAll {l : List Nat} (hl : l.Nodup)
    (hall : ∀ i ∈ l, ∃ p, s.queue.pendingSms.get? i = some p) :
    AccountsKept maxPending (l.foldl (SmsNet.resendOne t) s) := by
  induction l generalizing s with
  | nil => exact h
  | cons i l ih =>
    obtain ⟨p, hget⟩ := hall i List.mem_cons_self
    obtain ⟨hkept, hold⟩ := h.resendOne (t := t) hget
    obtain ⟨hi, hl⟩ := List.nodup_cons.mp hl
    refine ih hkept hl fun j hj => ?_
    obtain ⟨pj, hpj⟩ := hall j (List.mem_cons_of_mem _ hj)
    exact ⟨pj, (hold j fun hji => hi (hji ▸ hj)).trans hpj⟩

end

theorem nodup_ids (l : Pool GsmSmsPending) : l.ids.Nodup := l.sorted.imp fun h => Nat.ne_of_lt h

/-- The place of a delivered message is given away before its entry is freed. -/
theorem delivered (h : AccountsKept maxPending s) (hget : s.queue.pendingSms.get? i = some p) :
    AccountsKept maxPending
      (((s.onQueue fun q => q.addPending (-1)).smsSubmitPending t).onQueue fun q => q.smsPendingFree i) := by
  obtain ⟨hq, hless, hmax⟩ := h
  have hroom : s.queue.pending + -1 < s.queue.maxPending := by omega
  have hfull : (s.onQueue fun q => q.addPending (-1)).overfull = false := by
    have hnot : ¬ s.queue.maxPending ≤ s.queue.pending + -1 := by omega
    show (decide (s.queue.maxPending ≤ s.queue.pending + -1) && _) = false
    rw [decide_eq_false hnot, Bool.false_and]
  have hgrown := smsSubmitPending_spec (t := t) (s := s.onQueue fun q => q.addPending (-1)) hq.addPending_neg hfull
    (Int.le_of_lt hroom)
  have hkept := (hgrown.old i (get?_lt hget)).trans hget
  have hfree := hgrown.accounted.smsPendingFree hkept
  have hgrew := hgrown.pending
  have hbound : ((s.onQueue fun q => q.addPending (-1)).smsSubmitPending t).queue.pending ≤ maxPending := by
    change _ ≤ (s.queue.pending + -1) + (s.queue.maxPending - (s.queue.pending + -1)) at hgrew
    omega
  refine ⟨hfree, ?_, ?_⟩
  · simp only [onQueue, smsPendingFree]
    split
    · exact hbound
    · exact hbound
  · simp only [onQueue, smsPendingFree]
    split
    · exact hgrown.maxPending.trans hmax
    · exact hgrown.maxPending.trans hmax

theorem smsSmsCb (h : AccountsKept maxPending s) (signal : SignalSms) (sms : Option GsmSms)
    (pagingResult : PagingEvent) : AccountsKept maxPending (s.smsSmsCb t signal sms pagingResult) := by
  unfold SmsNet.smsSmsCb
  split
  · exact ⟨⟨h.1.counted, h.1.distinct, h.1.refs, h.1.sound⟩, h.2⟩
  · cases sms with
    | none => exact h
    | some sms =>
      simp only
      cases hfind : s.queue.smsFindPending sms.id with
      | none => exact h
      | some found =>
        obtain ⟨i, p⟩ := found
        have hget : s.queue.pendingSms.get? i = some p := (find?_eq_some.mp hfind).1
        cases signal with
        | submitted | smma => exact h
        | delivered => exact h.delivered hget
        | memExceeded => exact h.giveUp hget
        | unknownError => exact h.smsUnknownError sms pagingResult

theorem subReadyForSm (h : AccountsKept maxPending s) (subscr : Nat) :
    AccountsKept maxPending (s.subReadyForSm t subscr) := by
  unfold SmsNet.subReadyForSm
  cases s.queue.smsSubscriberFindPending subscr with
  | some found => exact h.modifyPending _ fun _ => ⟨rfl, rfl⟩
  | none =>
    cases t.connectionForSubscr s.env subscr with
    | none => exact h
    | some conn =>
      simp only
      cases s.db.smsGetUnsentForSubscr subscr with
      | none => exact h
      | some sms => exact h.failed (signalled_cases s sms _)

theorem freeAll {l : List Nat} {q : SmsQueue} (h : AccountedBut l.length q) (hl : l.Nodup)
    (hall : ∀ i ∈ l, ∃ p, q.pendingSms.get? i = some p) : AccountedBut 0 (l.foldl smsPendingFree q) := by
  induction l generalizing q with
  | nil => exact h
  | cons i l ih =>
    obtain ⟨p, hget⟩ := hall i List.mem_cons_self
    obtain ⟨hi, hl⟩ := List.nodup_cons.mp hl
    refine ih (h.smsPendingFree hget) hl fun j hj => ?_
    obtain ⟨pj, hpj⟩ := hall j (List.mem_cons_of_mem _ hj)
    refine ⟨pj, ?_⟩
    unfold smsPendingFree
    rw [hget]
    show (q.pendingSms.remove i).get? j = some pj
    rw [get?_remove, if_neg fun hji : j = i => hi (hji ▸ hj)]
    exact hpj

theorem foldl_smsPendingFree_pending (l : List Nat) (q : SmsQueue) (n : Int) :
    { l.foldl smsPendingFree q with pending := n } = l.foldl smsPendingFree { q with pending := n } := by
  induction l generalizing q with
  | nil => rfl
  | cons i l ih =>
    rw [List.foldl_cons, List.foldl_cons, ih]
    congr 1
    unfold smsPendingFree
    cases q.pendingSms.get? i with
    | none => rfl
    | some p => rfl

theorem foldl_smsPendingFree_maxPending (l : List Nat) (q : SmsQueue) :
    (l.foldl smsPendingFree q).maxPending = q.maxPending := by
  induction l generalizing q with
  | nil => rfl
  | cons i l ih =>
    rw [List.foldl_cons, ih]
    unfold smsPendingFree
    cases q.pendingSms.get? i with
    | none => rfl
    | some p => rfl

theorem smsQueueClear (h : AccountsKept maxPending s) (hmax : 0 ≤ maxPending) :
    AccountsKept maxPending (s.onQueue smsQueueClear) := by
  have hlength : (s.queue.pendingSms.count fun _ => true) = s.queue.pendingSms.ids.length := by
    unfold count ids
    rw [List.countP_true, List.length_map]
  have hnone : AccountedBut s.queue.pendingSms.ids.length { s.queue with pending := 0 } := by
    refine ⟨?_, h.1.distinct, h.1.refs, h.1.sound⟩
    rw [← hlength]
    exact Int.zero_add _
  have hfree := freeAll hnone (nodup_ids _) fun i hi => mem_ids.mp hi
  rw [← foldl_smsPendingFree_pending] at hfree
  exact ⟨hfree, hmax, (foldl_smsPendingFree_maxPending _ _).trans h.2.2⟩

end AccountsKept

/-- **The condition fails:** the queue is pushed while it is overfull. -/
def SmsNet.overfilledBy (s : SmsNet ε) : SmsqEvent ε → Bool
  | .push => s.overfull
  | _ => false

namespace AccountsKept

variable {maxPending : Int}

theorem step (h : AccountsKept maxPending s) (hmax : 1 ≤ maxPending) {ev : SmsqEvent ε}
    (hfull : s.overfilledBy ev = false) (hstep : s.step t ev = some s') : AccountsKept maxPending s' := by
  have htimers : ∀ resend push, AccountsKept maxPending
      (s.onQueue fun q => { q with resendPending := resend, pushQueue := push }) := by
    intro resend push
    exact ⟨⟨h.1.counted, h.1.distinct, h.1.refs, h.1.sound⟩, h.2⟩
  cases ev with
  | push =>
    obtain ⟨-, hs'⟩ := Option.ite_none_right_eq_some.mp hstep
    cases hs'
    have hoff := htimers s.queue.resendPending false
    have hless : s.queue.pending ≤ s.queue.maxPending := by
      rw [h.2.2]
      exact h.2.1
    exact hoff.grown (smsSubmitPending_spec (t := t) hoff.1 hfull hless)
  | resend =>
    obtain ⟨-, hs'⟩ := Option.ite_none_right_eq_some.mp hstep
    cases hs'
    exact (htimers false s.queue.pushQueue).resendAll (nodup_ids _) fun i hi => mem_ids.mp hi
  | signal signal sms pagingResult =>
    cases hstep
    exact h.smsSmsCb signal sms pagingResult
  | attached subscr =>
    cases hstep
    exact h.subReadyForSm subscr
  | trigger =>
    cases hstep
    exact htimers s.queue.resendPending true
  | clear =>
    cases hstep
    exact h.smsQueueClear (by omega)
  | setMaxFailure maxFail =>
    cases hstep
    exact ⟨⟨h.1.counted, h.1.distinct, h.1.refs, h.1.sound⟩, h.2⟩
  | others db env =>
    cases hstep
    exact h

theorem smsQueueStart (hmax : 1 ≤ maxPending) (db : SmsDb) (env : ε) :
    AccountsKept maxPending (smsQueueStart t maxPending db env) := by
  have hempty : AccountsKept maxPending (⟨{ maxPending := maxPending }, db, env⟩ : SmsNet ε) :=
    ⟨⟨rfl, pairwise_empty, fun _ => rfl, rfl⟩, Int.le_trans Int.one_nonneg hmax, rfl⟩
  have hfull : (⟨{ maxPending := maxPending }, db, env⟩ : SmsNet ε).overfull = false := by
    have hnot : ¬ maxPending ≤ 0 := by omega
    show (decide (maxPending ≤ 0) && _) = false
    rw [decide_eq_false hnot, Bool.false_and]
  exact hempty.grown (smsSubmitPending_spec hempty.1 hfull (Int.le_trans Int.one_nonneg hmax))

theorem accounted (h : AccountsKept maxPending s) : Accounted s := by
  obtain ⟨hq, hless, hmax⟩ := h
  refine ⟨?_, ?_, fun i a j b ha hb hij => (hq.distinct i a j b ha hb hij).1, hq.refs, hq.sound⟩
  · have hcounted := hq.counted
    unfold count at hcounted
    rw [List.countP_true] at hcounted
    exact (Int.add_zero _).symm.trans hcounted
  · rw [hmax]
    exact hless

end AccountsKept

/-- **In every run in which the queue is not pushed while it is overfull, its accounts are in order.** -/
theorem accounted_of_notOverfilled (t : SmsTransport ε) (maxPending : Int) (hmax : 1 ≤ maxPending) (s : SmsNet ε)
    (h : ReachableBy (smsqSystem t maxPending) (fun s ev => s.overfilledBy ev = false) s) : Accounted s := by
  have hkept : AccountsKept maxPending s := by
    refine h.invariant ?_ ?_
    · rintro s ⟨db, env, rfl⟩
      exact AccountsKept.smsQueueStart hmax db env
    · intro s ev s' hs hfull hstep
      exact hs.step hmax hfull hstep
  exact hkept.accounted

/-- Subscribers without a connection, all of whom are paged. -/
def pagedTransport : SmsTransport Unit where
  connectionForSubscr _ _ := none
  gsm411SendSms net _ _ := (net, none)
  subscrGetChannel net _ := (net, none)

/-- Messages for two subscribers in the location area 1. -/
def twoReceivers : SmsDb := { sms := [⟨1, 5, false, 0⟩, ⟨2, 6, false, 0⟩], lac := fun _ => 1 }

theorem accounted_twoReceivers :
    ∃ s, guardedRun (step pagedTransport) (fun s ev => s.overfilledBy ev = false)
        (smsQueueStart pagedTransport 2 twoReceivers ())
        [.trigger, .push, .signal .delivered (some ⟨1, 5⟩) .succeeded, .signal .unknownError (some ⟨2, 6⟩) .expired] =
          some s ∧ Accounted s := by
  obtain ⟨s, hs⟩ : ∃ s, guardedRun (step pagedTransport) (fun s ev => s.overfilledBy ev = false)
      (smsQueueStart pagedTransport 2 twoReceivers ())
      [.trigger, .push, .signal .delivered (some ⟨1, 5⟩) .succeeded, .signal .unknownError (some ⟨2, 6⟩) .expired] =
        some s :=
    Option.isSome_iff_exists.mp (by decide +kernel)
  exact ⟨s, hs, accounted_of_notOverfilled pagedTransport 2 (by decide) s
    (ReachableBy.guardedRun (fun _ _ _ h => h) (.init ⟨twoReceivers, (), rfl⟩) hs)⟩

/-- A full queue that is pushed again submits another message. -/
theorem overfilled_by_push :
    ∃ s, Reachable (smsqSystem pagedTransport 1) s ∧ s.queue.maxPending = 1 ∧ s.queue.pending = 2 := by
  obtain ⟨s, hs, hmax, hpending⟩ : ∃ s ∈ guardedRun (step pagedTransport) (fun _ _ => True)
      (smsQueueStart pagedTransport 1 twoReceivers ()) [.trigger, .push],
      s.queue.maxPending = 1 ∧ s.queue.pending = 2 := by
    decide +kernel
  exact ⟨s, ReachableBy.guardedRun (fun _ _ _ h => h) (.init ⟨twoReceivers, (), rfl⟩) hs, hmax, hpending⟩

end OpenBsc.Libmsc
