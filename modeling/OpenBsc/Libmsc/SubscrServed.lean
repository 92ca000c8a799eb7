import OpenBsc.Libmsc.SubscrQueue

/-!
# `Libmsc.SubscrServed` — channel requests are served in order

Every request is answered once, in the order of the requests, by the outcome of its own paging, and while requests wait
the head of the queue is being served (`served_of_orderly`). This holds as long as nobody puts a channel while the head
is paged or secured, the subscriber does not move while it is paged, it answers where it was paged and can be secured
then, and nobody loses the channel the queue waits for (`orderly`). Without this a late expiry answers the next request,
and a channel that cannot be secured leaves the queue waiting for ever (`misanswered_and_stalled`).
-/

namespace OpenBsc.Libmsc

open Transition SubscrNet PagingBts List Bool

/-! ## The condition -/

/-- The head of the queue will be looked at again without a channel being put: it is paged, its channel is secured, or
    a failed request is just being answered. -/
def SubscrNet.underWay (s : SubscrNet) : Bool :=
  match s.stack with
  | [] => !s.paging.isEmpty || !s.secOps.isEmpty
  | .dispatch event :: _ => event != .succeeded
  | .pagingStop _ :: _ => false

/-- **The condition.** A channel is put when nothing is paged or secured and no callback is at work; the subscriber
    answers where it was paged, on a connection on which no operation is pending; it does not move while it is paged;
    and a connection is lost only if the queue does not wait for it. -/
def SubscrNet.orderly (s : SubscrNet) : SubscrEvent → Bool
  | .putChannel _ => s.stack.isEmpty && s.paging.isEmpty && s.secOps.isEmpty
  | .pagingResponse bts _ start => s.paging.isEmpty || (s.paging.any fun p => p.bts == bts) && start != .busy
  | .setLac _ => s.paging.isEmpty
  | .lost conn => !(s.held.erase conn).isEmpty || s.underWay || s.stack.isEmpty && s.requests.isEmpty
  | _ => true

/-! ## Paging -/

variable {s s' : SubscrNet}

/-- Every BTS of the location area that is in use pages, if none has a request yet. -/
theorem pagingRequestLoop_eq (lac request : Nat) (l : List PagingBts) (hl : (l.map nr).Nodup)
    (paging : List GsmPagingRequest) (hfree : ∀ b ∈ l, ∀ p ∈ paging, p.bts ≠ b.nr) (numPages : Nat) :
    pagingRequestLoop lac request l paging numPages =
      (paging ++ (l.filter fun b => b.locationAreaCode == lac && b.usable).map fun b => ⟨b.nr, request, false⟩,
        some (numPages + (l.filter fun b => b.locationAreaCode == lac && b.usable).length)) := by
  induction l generalizing paging numPages with
  | nil => simp [pagingRequestLoop]
  | cons b l ih =>
    rw [map_cons, nodup_cons] at hl
    have hrest : ∀ c ∈ l, ∀ p ∈ paging, p.bts ≠ c.nr := fun c hc => hfree c (mem_cons_of_mem _ hc)
    unfold pagingRequestLoop
    by_cases hlac : b.locationAreaCode = lac
    · cases husable : b.usable with
      | false => simp [hlac, husable, ih hl.2 paging hrest]
      | true =>
        have hnone : (paging.any fun p => p.bts == b.nr) = false := by
          rw [any_eq_false]
          intro p hp
          simpa using hfree b mem_cons_self p hp
        have hnew : ∀ c ∈ l, ∀ p ∈ paging ++ [⟨b.nr, request, false⟩], p.bts ≠ c.nr := by
          intro c hc p hp
          obtain hp | hp := mem_append.mp hp
          · exact hrest c hc p hp
          · obtain rfl := mem_singleton.mp hp
            exact fun heq => hl.1 (mem_map.mpr ⟨c, hc, heq.symm⟩)
        simp only [hlac, hnone, ne_eq, not_true_eq_false, if_false, Bool.not_true, Bool.false_eq_true]
        rw [ih hl.2 _ hnew]
        simp [hlac, husable, Nat.add_assoc, Nat.add_comm]
    · simp [hlac, ih hl.2 paging hrest]

/-- The paging requests for a channel request, one for each BTS of the location area that is in use. -/
def SubscrNet.pagesFor (s : SubscrNet) (request : Nat) : List GsmPagingRequest :=
  (s.btsList.filter fun b => b.locationAreaCode == s.lac && b.usable).map fun b => ⟨b.nr, request, false⟩

variable {r : Nat} {rest : List Nat}

theorem sendPagingRequest_eq (hr : s.requests = r :: rest) (hpaging : s.paging = [])
    (hdistinct : (s.btsList.map nr).Nodup) :
    s.sendPagingRequest =
      if s.pagesFor r = [] then { s with paging := [] }.dispatch .busy none (some r)
      else { s with paging := s.pagesFor r } := by
  have hloop := pagingRequestLoop_eq s.lac r s.btsList hdistinct [] (fun _ _ _ hp => nomatch hp) 0
  rw [nil_append, Nat.zero_add, ← length_map (fun b : PagingBts => (⟨b.nr, r, false⟩ : GsmPagingRequest))] at hloop
  change _ = (s.pagesFor r, some (s.pagesFor r).length) at hloop
  unfold sendPagingRequest
  split
  · rename_i hnone
    rw [hr] at hnone
    cases hnone
  · rename_i r' rest' hcons
    rw [hr] at hcons
    cases hcons
    simp only [hpaging, hloop]
    cases s.pagesFor r with
    | nil => rfl
    | cons p l => rfl

section

variable (hnear : ∀ p ∈ s.paging, s.inLac p.bts = true)

include hnear

/-- Paging is stopped silently everywhere, if the subscriber is paged only where it is. -/
theorem paging_pagingRequestStop : s.pagingRequestStop.paging = [] := by
  show s.paging.filter _ = []
  rw [filter_eq_nil_iff]
  intro p hp
  rw [hnear p hp]
  nofun

theorem pagingRequestStop_eq :
    s.pagingRequestStop = { s with paging := [] } := by
  have hnil := paging_pagingRequestStop hnear
  unfold pagingRequestStop at hnil ⊢
  rw [show s.paging.filter _ = [] from hnil]

/-- The answered request is still there to be removed, and no other is left. -/
theorem pagingStopEnd_eq {bts : Nat} (hp : ∃ p ∈ s.paging, p.bts = bts) :
    s.pagingStopEnd bts = { s with paging := [] } := by
  have hany : (s.paging.any fun p => p.bts == bts) = true := by
    obtain ⟨p, hmem, hbts⟩ := hp
    exact any_eq_true.mpr ⟨p, hmem, beq_iff_eq.mpr hbts⟩
  have hstop :=
    pagingRequestStop_eq (s := { s with paging := s.paging.filter fun p => p.bts != bts, fault := s.fault || !true })
    fun p hp => hnear p (mem_of_mem_filter hp)
  unfold pagingStopEnd
  rw [hany, hstop, Bool.not_true, Bool.or_false]

end

theorem dispatch_eq (hr : s.requests = r :: rest) (event : PagingEvent) (conn pagedFor : Option Nat) :
    s.dispatch event conn pagedFor =
      { s with
        requests := rest
        inCallback := true
        log := s.log ++ [⟨r, pagedFor, event⟩]
        held := if event = .succeeded then conn.toList ++ s.held else s.held
        stack := .dispatch event :: s.stack } := by
  unfold dispatch
  rw [hr]

/-! ## The invariant -/

/-- What holds in every phase: the requests are answered in order, each by the outcome of its own paging, and paging is
    under way only in the location area. -/
structure SubscrBase (s : SubscrNet) : Prop where
  fifo : s.log.map PagingOutcome.request ++ s.requests = List.range s.next
  own : ∀ o ∈ s.log, o.pagedFor = some o.request
  near : ∀ p ∈ s.paging, s.inLac p.bts = true
  distinct : (s.btsList.map PagingBts.nr).Nodup
  sound : s.fault = false

/-- **The phases of the queue.** No callback is at work and the head is being served; or a failure is being answered; or
    a channel has just been given away, while the paging that was answered may not have been stopped yet. -/
inductive QueuePhase (s : SubscrNet) : Prop where
  | rest (hstack : s.stack = []) (hcallback : s.inCallback = false)
      (hpaging : ∀ p ∈ s.paging, s.requests.head? = some p.request)
      (hsec : s.secOps = [] ∨ s.paging = [] ∧ ∃ op, s.secOps = [op] ∧ s.requests.head? = some op.request)
      (hserved : s.requests = [] ∨ s.paging ≠ [] ∨ s.secOps ≠ [] ∨ s.held ≠ [])
  | failed (event : PagingEvent) (hevent : event ≠ .succeeded) (hstack : s.stack = [.dispatch event])
      (hcallback : s.inCallback = true) (hsec : s.secOps = [])
  | given (hstack : s.stack = [.dispatch .succeeded]) (hcallback : s.inCallback = true) (hsec : s.secOps = [])
      (hheld : s.held ≠ []) (hpaging : s.paging = [])
  | answered (bts : Nat) (hstack : s.stack = [.dispatch .succeeded, .pagingStop bts]) (hcallback : s.inCallback = true)
      (hsec : s.secOps = []) (hheld : s.held ≠ []) (hpaging : ∃ p ∈ s.paging, p.bts = bts)

/-- **The invariant of the queue.** -/
structure SubscrInv (s : SubscrNet) : Prop extends SubscrBase s where
  phase : QueuePhase s

namespace SubscrBase

/-- The head is answered by the outcome of its own paging. -/
theorem dispatch (h : SubscrBase s) (hr : s.requests = r :: rest) (event : PagingEvent) (conn : Option Nat) :
    SubscrBase (s.dispatch event conn (some r)) := by
  have hfifo := h.fifo
  unfold SubscrNet.dispatch
  rw [hr]
  refine ⟨?_, ?_, h.near, h.distinct, h.sound⟩
  · show (s.log ++ [(⟨r, some r, event⟩ : PagingOutcome)]).map PagingOutcome.request ++ rest = range s.next
    rw [hr] at hfifo
    rw [← hfifo, map_append, append_assoc]
    rfl
  · intro o ho
    obtain ho | ho := mem_append.mp ho
    · exact h.own o ho
    · obtain rfl := mem_singleton.mp ho
      rfl

theorem filter_paging (h : SubscrBase s) (q : GsmPagingRequest → Bool) :
    SubscrBase { s with paging := s.paging.filter q } where
  fifo := h.fifo
  own := h.own
  near p hp := h.near p (mem_of_mem_filter hp)
  distinct := h.distinct
  sound := h.sound

/-- The head is paged, or it fails because there is no BTS. -/
theorem sendPagingRequest (h : SubscrBase s) (hr : s.requests = r :: rest) (hstack : s.stack = [])
    (hcallback : s.inCallback = false) (hpaging : s.paging = []) (hsec : s.secOps = []) :
    SubscrInv s.sendPagingRequest := by
  rw [sendPagingRequest_eq hr hpaging h.distinct]
  split
  · -- no BTS pages
    have hfailed : SubscrBase { s with paging := [] } := ⟨h.fifo, h.own, (fun _ hp => nomatch hp), h.distinct, h.sound⟩
    refine ⟨hfailed.dispatch hr .busy none, .failed .busy nofun ?_ ?_ ?_⟩
    · unfold SubscrNet.dispatch
      simp only [hr, hstack]
    · unfold SubscrNet.dispatch
      simp only [hr]
    · unfold SubscrNet.dispatch
      simp only [hr, hsec]
  · rename_i hpages
    refine ⟨⟨h.fifo, h.own, ?_, h.distinct, h.sound⟩, .rest hstack hcallback ?_ (.inl hsec) (.inr (.inl hpages))⟩
    · intro p hp
      obtain ⟨c, hc, rfl⟩ := mem_map.mp hp
      obtain ⟨hmem, hc⟩ := mem_filter.mp hc
      refine any_eq_true.mpr ⟨c, hmem, ?_⟩
      rw [(and_eq_true_iff.mp hc).1, beq_self_eq_true]
      rfl
    · intro p hp
      obtain ⟨c, -, rfl⟩ := mem_map.mp hp
      show s.requests.head? = some r
      rw [hr]
      rfl

/-- The next request is looked at, when the head is neither paged nor secured. -/
theorem putChannel (h : SubscrBase s) (hstack : s.stack = []) (hcallback : s.inCallback = false)
    (hpaging : s.paging = []) (hsec : s.secOps = []) : SubscrInv s.putChannel := by
  unfold SubscrNet.putChannel
  split
  · rename_i hempty
    refine ⟨h, .rest hstack hcallback ?_ (.inl hsec) (.inl (isEmpty_iff.mp hempty))⟩
    intro p hp
    rw [hpaging] at hp
    cases hp
  · rename_i hsome
    obtain ⟨r, rest, hr⟩ := exists_cons_of_ne_nil fun hnil : s.requests = [] => hsome (isEmpty_iff.mpr hnil)
    exact h.sendPagingRequest hr hstack hcallback hpaging hsec

end SubscrBase

namespace SubscrInv

theorem enqueue (h : SubscrBase s) : SubscrBase { s with requests := s.requests ++ [s.next], next := s.next + 1 } where
  fifo := by
    show s.log.map PagingOutcome.request ++ (s.requests ++ [s.next]) = range (s.next + 1)
    rw [← append_assoc, h.fifo, range_succ]
  own := h.own
  near := h.near
  distinct := h.distinct
  sound := h.sound

theorem getChannel (h : SubscrInv s) : SubscrInv s.getChannel := by
  have hbase := enqueue h.toSubscrBase
  -- inside a callback the request is only queued
  have hqueued : s.inCallback = true →
      s.getChannel = { s with requests := s.requests ++ [s.next], next := s.next + 1 } := by
    intro hcallback
    have hcond : (!s.inCallback && s.requests.isEmpty) = false := by
      rw [hcallback]
      rfl
    simp only [SubscrNet.getChannel, hcond, false_eq_true, if_false]
  cases h.phase with
  | rest hstack hcallback hpaging hsec hserved =>
    by_cases hr : s.requests = []
    · -- the queue was empty, so nothing is under way
      have hnone : s.paging = [] := eq_nil_iff_forall_not_mem.mpr fun p hp => by
        have hhead := hpaging p hp
        rw [hr] at hhead
        cases hhead
      have hidle : s.secOps = [] := by
        obtain hidle | ⟨-, op, -, hop⟩ := hsec
        · exact hidle
        · rw [hr] at hop
          cases hop
      have hcond : (!s.inCallback && s.requests.isEmpty) = true := by
        rw [hcallback, hr]
        rfl
      simp only [SubscrNet.getChannel, hcond, if_true]
      have hhead : s.requests ++ [s.next] = s.next :: [] := by
        rw [hr]
        rfl
      exact hbase.sendPagingRequest hhead hstack hcallback hnone hidle
    · obtain ⟨r, rest, hcons⟩ := exists_cons_of_ne_nil hr
      have hcond : (!s.inCallback && s.requests.isEmpty) = false := by
        rw [hcons]
        exact and_false _
      simp only [SubscrNet.getChannel, hcond, false_eq_true, if_false]
      have hhead : (s.requests ++ [s.next]).head? = s.requests.head? := by
        rw [hcons]
        rfl
      refine ⟨hbase, .rest hstack hcallback ?_ ?_ (.inr (hserved.resolve_left hr))⟩
      · intro p hp
        exact hhead.trans (hpaging p hp)
      · refine hsec.imp_right fun hop => ⟨hop.1, ?_⟩
        obtain ⟨op, hops, hreq⟩ := hop.2
        exact ⟨op, hops, hhead.trans hreq⟩
  | failed event hevent hstack hcallback hsec =>
    rw [hqueued hcallback]
    exact ⟨hbase, .failed event hevent hstack hcallback hsec⟩
  | given hstack hcallback hsec hheld hpaging =>
    rw [hqueued hcallback]
    exact ⟨hbase, .given hstack hcallback hsec hheld hpaging⟩
  | answered bts hstack hcallback hsec hheld hpaging =>
    rw [hqueued hcallback]
    exact ⟨hbase, .answered bts hstack hcallback hsec hheld hpaging⟩

theorem dispatch_failed (h : SubscrBase s) (hr : s.requests.head? = some r) (hstack : s.stack = [])
    (hsec : s.secOps = []) {event : PagingEvent} (hevent : event ≠ .succeeded) :
    SubscrInv (s.dispatch event none (some r)) := by
  obtain ⟨rest, hcons⟩ := head?_eq_some_iff.mp hr
  refine ⟨h.dispatch hcons event none, .failed event hevent ?_ ?_ ?_⟩
  · rw [dispatch_eq hcons]
    show PagingCont.dispatch event :: s.stack = _
    rw [hstack]
  · rw [dispatch_eq hcons]
  · rw [dispatch_eq hcons]
    exact hsec

section

variable (h : SubscrInv s)

include h

theorem expired {p : GsmPagingRequest} (hp : p ∈ s.paging) (hstack : s.stack = []) :
    SubscrInv (s.expired p) := by
  have hbase := h.toSubscrBase.filter_paging fun p' => p'.bts != p.bts
  have hevent : (if p.sent then PagingEvent.expired else .busy) ≠ .succeeded := by
    split
    · nofun
    · nofun
  cases h.phase with
  | rest hstack' hcallback hpaging hsec hserved =>
    have hidle : s.secOps = [] := by
      obtain hidle | ⟨hnone, -⟩ := hsec
      · exact hidle
      · rw [hnone] at hp
        cases hp
    exact dispatch_failed hbase (hpaging p hp) hstack hidle hevent
  | failed event hevent hstack' hcallback hsec => exact nomatch hstack.symm.trans hstack'
  | given hstack' hcallback hsec hheld hpaging => exact nomatch hstack.symm.trans hstack'
  | answered bts hstack' hcallback hsec hheld hpaging => exact nomatch hstack.symm.trans hstack'

theorem secResult {op : PagingSecOp} (hop : op ∈ s.secOps) (hstack : s.stack = [])
    (event : SecurityEvent) : SubscrInv (s.secResult op event) := by
  cases h.phase with
  | rest hstack' hcallback hpaging hsec hserved =>
    obtain hidle | ⟨hnone, op', hops, hhead⟩ := hsec
    · rw [hidle] at hop
      cases hop
    · rw [hops] at hop
      obtain rfl := mem_singleton.mp hop
      have herase : s.secOps.erase op = [] := by
        rw [hops]
        exact erase_cons_head op []
      have hbase : SubscrBase { s with secOps := s.secOps.erase op } :=
        ⟨h.fifo, h.own, h.near, h.distinct, h.sound⟩
      unfold SubscrNet.secResult
      simp only
      split
      · exact dispatch_failed hbase hhead hstack herase nofun
      · obtain ⟨rest, hcons⟩ := head?_eq_some_iff.mp hhead
        have hcons' : ({ s with secOps := s.secOps.erase op } : SubscrNet).requests = op.request :: rest := hcons
        refine ⟨hbase.dispatch hcons' .succeeded _, ?_⟩
        rw [dispatch_eq hcons']
        refine .given ?_ rfl herase nofun hnone
        show PagingCont.dispatch .succeeded :: s.stack = _
        rw [hstack]
  | failed event hevent hstack' hcallback hsec => exact nomatch hstack.symm.trans hstack'
  | given hstack' hcallback hsec hheld hpaging => exact nomatch hstack.symm.trans hstack'
  | answered bts hstack' hcallback hsec hheld hpaging => exact nomatch hstack.symm.trans hstack'

theorem pagingResponse {bts conn : Nat} {start : SecureStart} (hstack : s.stack = [])
    (horderly : s.orderly (.pagingResponse bts conn start) = true) : SubscrInv (s.pagingResponse bts conn start) := by
  unfold SubscrNet.pagingResponse
  cases hfind : s.paging.find? fun p => p.bts == bts with
  | none =>
    have hany : (s.paging.any fun p => p.bts == bts) = false := by
      rw [any_eq_false]
      intro p hp
      exact find?_eq_none.mp hfind p hp
    simp only [orderly, hany, Bool.false_and, Bool.or_false] at horderly
    have hnil := isEmpty_iff.mp horderly
    rw [pagingRequestStop_eq h.near, ← hnil]
    exact h
  | some p =>
    have hmem := mem_of_find?_eq_some hfind
    have hbts : p.bts = bts := eq_of_beq (find?_some (p := fun p : GsmPagingRequest => p.bts == bts) hfind)
    have hsome : s.paging.isEmpty = false := by
      rw [isEmpty_eq_false_iff]
      exact ne_nil_of_mem hmem
    simp only [orderly, hsome, Bool.false_or] at horderly
    cases h.phase with
    | rest hstack' hcallback hpaging hsec hserved =>
      have hidle : s.secOps = [] := by
        obtain hidle | ⟨hnone, -⟩ := hsec
        · exact hidle
        · rw [hnone] at hmem
          cases hmem
      obtain ⟨rest, hcons⟩ := head?_eq_some_iff.mp (hpaging p hmem)
      have hbase : SubscrBase { s with stack := .pagingStop bts :: s.stack } :=
        ⟨h.fifo, h.own, h.near, h.distinct, h.sound⟩
      have hcons' : ({ s with stack := .pagingStop bts :: s.stack } : SubscrNet).requests = p.request :: rest := hcons
      cases start with
      | busy => exact absurd horderly (by rw [Bool.and_eq_true]; exact fun hand => nomatch hand.2)
      | secured =>
        have hdispatch := hbase.dispatch hcons' .succeeded (some conn)
        simp only
        rw [dispatch_eq hcons'] at hdispatch ⊢
        refine ⟨hdispatch, .answered bts ?_ rfl hidle nofun ⟨p, hmem, hbts⟩⟩
        show PagingCont.dispatch .succeeded :: .pagingStop bts :: s.stack = _
        rw [hstack]
      | started =>
        have hend : (pagingStopEnd { s with
            stack := .pagingStop bts :: s.stack
            secOps := s.secOps ++ [⟨conn, p.request⟩] } bts).unwind s.stack =
            { s with secOps := s.secOps ++ [⟨conn, p.request⟩], paging := [] } := by
          rw [pagingStopEnd_eq (s := { s with
            stack := .pagingStop bts :: s.stack
            secOps := s.secOps ++ [⟨conn, p.request⟩] }) h.near ⟨p, hmem, hbts⟩]
          rw [hstack]
          rfl
        have hsecured : SubscrInv { s with secOps := s.secOps ++ [⟨conn, p.request⟩], paging := [] } := by
          refine ⟨⟨h.fifo, h.own, (fun _ hp => nomatch hp), h.distinct, h.sound⟩, ?_⟩
          refine .rest hstack hcallback (fun _ hp => nomatch hp) (.inr ⟨rfl, ⟨conn, p.request⟩, ?_, ?_⟩) ?_
          · show s.secOps ++ [⟨conn, p.request⟩] = _
            rw [hidle]
            rfl
          · exact hpaging p hmem
          · refine .inr (.inr (.inl ?_))
            show s.secOps ++ [⟨conn, p.request⟩] ≠ []
            rw [hidle]
            nofun
        rw [← hend] at hsecured
        exact hsecured
    | failed event hevent hstack' hcallback hsec => exact nomatch hstack.symm.trans hstack'
    | given hstack' hcallback hsec hheld hpaging => exact nomatch hstack.symm.trans hstack'
    | answered bts hstack' hcallback hsec hheld hpaging => exact nomatch hstack.symm.trans hstack'

/-- No callback is left that `paging_request_stop` waits for, unless a channel was given away. -/
theorem unwind_stack : SubscrInv (s.unwind s.stack) := by
  have hunwind : s.unwind s.stack = s := by
    cases h.phase with
    | rest hstack hcallback hpaging hsec hserved =>
      rw [hstack]
      unfold unwind
      rw [← hstack]
    | failed event hevent hstack hcallback hsec =>
      rw [hstack]
      unfold unwind
      rw [← hstack]
    | given hstack hcallback hsec hheld hpaging =>
      rw [hstack]
      unfold unwind
      rw [← hstack]
    | answered bts hstack hcallback hsec hheld hpaging =>
      rw [hstack]
      unfold unwind
      rw [← hstack]
  rw [hunwind]
  exact h

/-- A callback returns: after a failure the next request is looked at, after a success the channel is in use. -/
theorem ret (hstep : s.step .ret = some s') : SubscrInv s' := by
  cases h.phase with
  | rest hstack hcallback hpaging hsec hserved =>
    simp only [step, hstack] at hstep
    cases hstep
  | failed event hevent hstack hcallback hsec =>
    simp only [step, hstack, Option.some.injEq] at hstep
    have hput :
        SubscrInv ((({ s with stack := [], inCallback := false } : SubscrNet)).pagingRequestStop).putChannel := by
      rw [pagingRequestStop_eq (s := { s with stack := [], inCallback := false }) h.near]
      have hbase : SubscrBase { s with stack := [], inCallback := false, paging := [] } :=
        ⟨h.fifo, h.own, (fun _ hp => nomatch hp), h.distinct, h.sound⟩
      exact hbase.putChannel rfl rfl rfl hsec
    have hend : ({ s with stack := [] } : SubscrNet).dispatchEnd event =
        ((({ s with stack := [], inCallback := false } : SubscrNet)).pagingRequestStop).putChannel := by
      unfold dispatchEnd
      rw [if_neg hevent]
    rw [hend] at hstep
    rw [← hstep]
    exact unwind_stack hput
  | given hstack hcallback hsec hheld hpaging =>
    simp only [step, hstack, Option.some.injEq] at hstep
    obtain rfl := hstep
    refine ⟨⟨h.fifo, h.own, h.near, h.distinct, h.sound⟩, ?_⟩
    refine .rest rfl rfl (fun p hp => ?_) (.inl hsec) (.inr (.inr (.inr hheld)))
    rw [show s.paging = [] from hpaging] at hp
    cases hp
  | answered bts hstack hcallback hsec hheld hpaging =>
    simp only [step, hstack, Option.some.injEq] at hstep
    have hend := pagingStopEnd_eq (s := { s with stack := [.pagingStop bts], inCallback := false }) h.near hpaging
    obtain rfl : s' = { s with stack := [], inCallback := false, paging := [] } := by
      rw [← hstep]
      show (pagingStopEnd { s with stack := [.pagingStop bts], inCallback := false } bts).unwind [] = _
      rw [hend]
      rfl
    refine ⟨⟨h.fifo, h.own, (fun _ hp => nomatch hp), h.distinct, h.sound⟩, ?_⟩
    exact .rest rfl rfl (fun _ hp => nomatch hp) (.inl hsec) (.inr (.inr (.inr hheld)))

theorem putChannel {conn : Option Nat} (horderly : s.orderly (.putChannel conn) = true) :
    SubscrInv (putChannel { s with held := conn.elim s.held s.held.erase }) := by
  simp only [orderly, and_eq_true, List.isEmpty_iff] at horderly
  obtain ⟨⟨hstack, hpaging⟩, hsec⟩ := horderly
  have hbase : SubscrBase { s with held := conn.elim s.held s.held.erase } :=
    ⟨h.fifo, h.own, h.near, h.distinct, h.sound⟩
  cases h.phase with
  | rest hstack' hcallback hpaging' hsec' hserved => exact hbase.putChannel hstack hcallback hpaging hsec
  | failed event hevent hstack' hcallback hsec => exact nomatch hstack.symm.trans hstack'
  | given hstack' hcallback hsec hheld hpaging => exact nomatch hstack.symm.trans hstack'
  | answered bts hstack' hcallback hsec hheld hpaging => exact nomatch hstack.symm.trans hstack'

/-- The location area and the BTSs are of importance only for what is paged. -/
theorem moved {lac : Nat} {btsList : List PagingBts} (hdistinct : (btsList.map nr).Nodup)
    (hnear : ∀ p ∈ s.paging, ({ s with lac := lac, btsList := btsList } : SubscrNet).inLac p.bts = true) :
    SubscrInv { s with lac := lac, btsList := btsList } := by
  refine ⟨⟨h.fifo, h.own, hnear, hdistinct, h.sound⟩, ?_⟩
  cases h.phase with
  | rest hstack hcallback hpaging hsec hserved => exact .rest hstack hcallback hpaging hsec hserved
  | failed event hevent hstack hcallback hsec => exact .failed event hevent hstack hcallback hsec
  | given hstack hcallback hsec hheld hpaging => exact .given hstack hcallback hsec hheld hpaging
  | answered bts hstack hcallback hsec hheld hpaging => exact .answered bts hstack hcallback hsec hheld hpaging

theorem pageSent (bts : Nat) :
    SubscrInv { s with paging := s.paging.map fun p => if p.bts = bts then { p with sent := true } else p } := by
  have hsame : ∀ p' ∈ s.paging.map fun p => if p.bts = bts then { p with sent := true } else p,
      ∃ p ∈ s.paging, p'.bts = p.bts ∧ p'.request = p.request := by
    intro p' hp'
    obtain ⟨p, hp, rfl⟩ := mem_map.mp hp'
    refine ⟨p, hp, ?_⟩
    split
    · exact ⟨rfl, rfl⟩
    · exact ⟨rfl, rfl⟩
  refine ⟨⟨h.fifo, h.own, fun p' hp' => ?_, h.distinct, h.sound⟩, ?_⟩
  · obtain ⟨p, hp, hbts, -⟩ := hsame p' hp'
    rw [hbts]
    exact h.near p hp
  · cases h.phase with
    | rest hstack hcallback hpaging hsec hserved =>
      refine .rest hstack hcallback (fun p' hp' => ?_) ?_ ?_
      · obtain ⟨p, hp, -, hreq⟩ := hsame p' hp'
        rw [hreq]
        exact hpaging p hp
      · refine hsec.imp_right fun hop => ⟨?_, hop.2⟩
        show s.paging.map _ = []
        rw [hop.1]
        rfl
      · refine hserved.imp_right (.imp_left fun hne hnil => hne ?_)
        exact map_eq_nil_iff.mp hnil
    | failed event hevent hstack hcallback hsec => exact .failed event hevent hstack hcallback hsec
    | given hstack hcallback hsec hheld hpaging =>
      refine .given hstack hcallback hsec hheld ?_
      show s.paging.map _ = []
      rw [hpaging]
      rfl
    | answered b hstack hcallback hsec hheld hpaging =>
      obtain ⟨p, hp, hbts⟩ := hpaging
      refine .answered b hstack hcallback hsec hheld ⟨_, mem_map.mpr ⟨p, hp, rfl⟩, ?_⟩
      split
      · exact hbts
      · exact hbts

theorem lost {conn : Nat} (horderly : s.orderly (.lost conn) = true) :
    SubscrInv { s with held := s.held.erase conn } := by
  refine ⟨⟨h.fifo, h.own, h.near, h.distinct, h.sound⟩, ?_⟩
  simp only [orderly, or_eq_true, not_eq_true', List.isEmpty_eq_false_iff, and_eq_true, List.isEmpty_iff] at horderly
  cases h.phase with
  | rest hstack hcallback hpaging hsec hserved =>
    refine .rest hstack hcallback hpaging hsec ?_
    obtain (hheld | hunderway) | hempty := horderly
    · exact .inr (.inr (.inr hheld))
    · simp only [underWay, hstack, or_eq_true, not_eq_true', List.isEmpty_eq_false_iff] at hunderway
      obtain hpaged | hsecured := hunderway
      · exact .inr (.inl hpaged)
      · exact .inr (.inr (.inl hsecured))
    · exact .inl hempty.2
  | failed event hevent hstack hcallback hsec => exact .failed event hevent hstack hcallback hsec
  | given hstack hcallback hsec hheld hpaging =>
    refine .given hstack hcallback hsec ?_ hpaging
    obtain (hheld' | hunderway) | hempty := horderly
    · exact hheld'
    · simp [underWay, hstack] at hunderway
    · exact nomatch hempty.1.symm.trans hstack
  | answered bts hstack hcallback hsec hheld hpaging =>
    refine .answered bts hstack hcallback hsec ?_ hpaging
    obtain (hheld' | hunderway) | hempty := horderly
    · exact hheld'
    · simp [underWay, hstack] at hunderway
    · exact nomatch hempty.1.symm.trans hstack

theorem step {ev : SubscrEvent} (horderly : s.orderly ev = true) (hstep : s.step ev = some s') :
    SubscrInv s' := by
  cases ev with
  | getChannel =>
    cases hstep
    exact h.getChannel
  | putChannel conn =>
    cases hstep
    exact h.putChannel horderly
  | pageSent bts =>
    cases hstep
    exact h.pageSent bts
  | expired bts =>
    obtain ⟨hstack, hs'⟩ := Option.ite_none_right_eq_some.mp hstep
    obtain ⟨p, hfind, rfl⟩ := Option.map_eq_some_iff.mp hs'
    exact h.expired (mem_of_find?_eq_some hfind) hstack
  | pagingResponse bts conn start =>
    obtain ⟨hstack, hs'⟩ := Option.ite_none_right_eq_some.mp hstep
    cases hs'
    exact h.pagingResponse hstack horderly
  | secResult conn event =>
    obtain ⟨hstack, hs'⟩ := Option.ite_none_right_eq_some.mp hstep
    obtain ⟨op, hfind, rfl⟩ := Option.map_eq_some_iff.mp hs'
    exact h.secResult (mem_of_find?_eq_some hfind) hstack event
  | ret => exact h.ret hstep
  | setLac lac =>
    cases hstep
    have hnil : s.paging = [] := isEmpty_iff.mp horderly
    refine h.moved h.distinct fun p hp => ?_
    rw [hnil] at hp
    cases hp
  | setUsable bts usable =>
    cases hstep
    -- neither the numbers nor the location areas change
    refine h.moved ?_ fun p hp => ?_
    · rw [map_map]
      refine (congrArg List.Nodup (map_congr_left fun b _ => ?_)).mpr h.distinct
      show (if b.nr = bts then { b with usable := usable } else b).nr = b.nr
      split
      · rfl
      · rfl
    · obtain ⟨b, hb, hat⟩ := any_eq_true.mp (h.near p hp)
      refine any_eq_true.mpr ⟨_, mem_map.mpr ⟨b, hb, rfl⟩, ?_⟩
      split
      · exact hat
      · exact hat
  | lost conn =>
    cases hstep
    exact h.lost horderly

end

theorem init {lac : Nat} {btsList : List PagingBts} (hdistinct : (btsList.map nr).Nodup) :
    SubscrInv { lac := lac, btsList := btsList } where
  fifo := rfl
  own _ ho := nomatch ho
  near _ hp := nomatch hp
  distinct := hdistinct
  sound := rfl
  phase := .rest rfl rfl (fun _ hp => nomatch hp) (.inl rfl) (.inl rfl)

end SubscrInv

/-! ## The result -/

/-- **The requests are served in order.** Those that were answered and those that wait are all that were made, in the
    order in which they were made, so none is answered twice or lost; each was answered by the outcome of its own
    paging; and when no callback is at work and requests wait, the head is paged, or its channel is secured, or a
    channel is in use after which it will be looked at. -/
structure ServedInOrder (s : SubscrNet) : Prop where
  fifo : s.log.map PagingOutcome.request ++ s.requests = List.range s.next
  own : ∀ o ∈ s.log, o.pagedFor = some o.request
  served : s.stack = [] → ∀ r, s.requests.head? = some r →
    (∃ p ∈ s.paging, p.request = r) ∨ (∃ op ∈ s.secOps, op.request = r) ∨ s.held ≠ []

/-- **In every orderly run the requests are served in order.** -/
theorem served_of_orderly (s : SubscrNet) (h : ReachableBy subscrSystem (fun s ev => s.orderly ev = true) s) :
    ServedInOrder s := by
  have hinv : SubscrInv s := by
    refine h.invariant ?_ ?_
    · rintro s ⟨lac, btsList, hdistinct, rfl⟩
      exact SubscrInv.init hdistinct
    · intro s ev s' hs horderly hstep
      exact hs.step horderly hstep
  refine ⟨hinv.fifo, hinv.own, fun hstack r hr => ?_⟩
  cases hinv.phase with
  | rest hstack' hcallback hpaging hsec hserved =>
    obtain hnone | hpaged | hsecured | hheld := hserved
    · rw [hnone] at hr
      cases hr
    · obtain ⟨p, hp⟩ := exists_mem_of_ne_nil _ hpaged
      exact .inl ⟨p, hp, Option.some.inj ((hpaging p hp).symm.trans hr)⟩
    · obtain hidle | ⟨-, op, hops, hhead⟩ := hsec
      · exact absurd hidle hsecured
      · exact .inr (.inl ⟨op, hops ▸ mem_singleton_self op, Option.some.inj (hhead.symm.trans hr)⟩)
    · exact .inr (.inr hheld)
  | failed event hevent hstack' hcallback hsec => exact nomatch hstack.symm.trans hstack'
  | given hstack' hcallback hsec hheld hpaging => exact nomatch hstack.symm.trans hstack'
  | answered bts hstack' hcallback hsec hheld hpaging => exact nomatch hstack.symm.trans hstack'

/-- Two BTSs in the location area 1, and one in the location area 2. -/
def threeBts : List PagingBts := [⟨0, 1, true⟩, ⟨1, 1, true⟩, ⟨2, 2, true⟩]

/-- A channel is requested three times; the first page expires, the second is answered and secured, and the channel is
    put. -/
def threeRequests : List SubscrEvent :=
  [.getChannel, .getChannel, .getChannel, .pageSent 0, .expired 0, .ret, .pagingResponse 1 7 .started,
    .secResult 7 .succeeded, .ret, .putChannel (some 7)]

theorem served_threeRequests :
    ∃ s, guardedRun step (fun s ev => s.orderly ev = true) { lac := 1, btsList := threeBts } threeRequests =
      some s ∧ ServedInOrder s := by
  obtain ⟨s, hs⟩ : ∃ s, guardedRun step (fun s ev => s.orderly ev = true) { lac := 1, btsList := threeBts }
      threeRequests = some s :=
    Option.isSome_iff_exists.mp (by decide +kernel)
  exact ⟨s, hs, served_of_orderly s
    (ReachableBy.guardedRun (fun _ _ _ h => h) (.init ⟨1, threeBts, by decide, rfl⟩) hs)⟩

/-- The subscriber is recorded in another location area by the callback of the first request, and the expiry on a BTS of
    the old one answers the second request. And an answer on a connection on which an operation is pending leaves the
    request waiting for nothing. -/
theorem misanswered_and_stalled :
    (∃ s, Reachable subscrSystem s ∧ ∃ o ∈ s.log, o.request = 1 ∧ o.pagedFor = some 0) ∧
      ∃ s, Reachable subscrSystem s ∧ s.stack = [] ∧ s.requests = [0] ∧ s.paging = [] ∧ s.secOps = [] ∧
        s.held = [] := by
  have hinit : Reachable subscrSystem { lac := 1, btsList := threeBts } := .init ⟨1, threeBts, by decide, rfl⟩
  constructor
  · obtain ⟨s, hs, hlog⟩ : ∃ s ∈ guardedRun step (fun _ _ => True) { lac := 1, btsList := threeBts }
        [.getChannel, .getChannel, .expired 0, .setLac 2, .ret, .expired 1],
        ∃ o ∈ s.log, o.request = 1 ∧ o.pagedFor = some 0 := by
      decide +kernel
    exact ⟨s, ReachableBy.guardedRun (fun _ _ _ h => h) hinit hs, hlog⟩
  · obtain ⟨s, hs, hstalled⟩ : ∃ s ∈ guardedRun step (fun _ _ => True) { lac := 1, btsList := threeBts }
        [.getChannel, .pagingResponse 0 7 .busy],
        s.stack = [] ∧ s.requests = [0] ∧ s.paging = [] ∧ s.secOps = [] ∧ s.held = [] := by
      decide +kernel
    exact ⟨s, ReachableBy.guardedRun (fun _ _ _ h => h) hinit hs, hstalled⟩

end OpenBsc.Libmsc
