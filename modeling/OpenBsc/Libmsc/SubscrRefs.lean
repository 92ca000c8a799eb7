import OpenBsc.Lib.RefCount
import OpenBsc.Libmsc.MscNet

/-!
# `Libmsc.SubscrRefs` — who refers to a subscriber

The use count of a subscriber is right if it is the number of those who refer to it (`RefsAccounted`). While a function
is at work it has references of its own, and `AccountsWith hand` counts those too: every function keeps the account, as
long as the subscriber it works on is in memory.

A subscriber stays in memory while a function drops references to it if it has more of them (`Outlasts`). This matters
where paging requests are removed and the subscriber is looked at afterwards.
-/

namespace OpenBsc.Libmsc

open Transition RefCount MscNet Pool PagingBts Option

/-! ## Holders -/

theorem ite_beq (i j : Nat) : (if (i == j) = true then 1 else 0) = if j = i then 1 else 0 := by
  by_cases hj : j = i
  · simp [hj]
  · simp [hj, Ne.symm hj]

/-- What is left to do holds a reference to the subscriber. -/
def NetCont.holds (i : Nat) : NetCont → Bool
  | .dispatch j _ | .put j | .sapiReject j => j == i
  | .pagingStop _ _ _ | .conFree _ | .releaseSec _ | .clearRest _ => false

namespace MscNet

/-- **Who refers to a subscriber:** connections, transactions, pending channel requests and paging requests, the short
    messages, and what is left to do. -/
def holders (s : MscNet) (i : Nat) : Nat :=
  s.conns.count (fun conn => conn.subscr == some i) + s.net.transList.count (fun u => u.subscr == i) +
    s.requests.countP (fun r => r.subscr == i) + s.paging.count (fun p => p.subscr == i) + s.sms.count i +
    s.stack.countP (NetCont.holds i)

/-- `use_count`, of the subscribers in memory. -/
def useCount (s : MscNet) (i : Nat) : Option Int := (s.subscrs.get? i).map GsmSubscriber.useCount

end MscNet

/-- **The references are accounted for.** -/
structure RefsAccounted (s : MscNet) : Prop where
  sound : s.fault = false
  counted : Counted s.useCount s.holders

/-- The references are accounted for, and `hand` are those of the code at work. An operation that ends in
    `subscr_paging_sec_cb` is about the subscriber of its connection. -/
structure AccountsWith (hand : List Nat) (s : MscNet) : Prop where
  sound : s.fault = false
  counted : Counted s.useCount fun i => s.holders i + hand.count i
  secured : ∀ c conn i, s.conns.get? c = some conn → conn.secOperation = some (.paging i) → conn.subscr = some i

namespace MscNet

/-- The subscriber is in memory. -/
def Live (s : MscNet) (i : Nat) : Prop := ∃ r, s.subscrs.get? i = some r

/-- The subscriber stays in memory when `n` references to it are dropped. -/
def Outlasts (s : MscNet) (i n : Nat) : Prop :=
  s.keepSubscr = true ∨ ∀ r, s.subscrs.get? i = some r → (n : Int) < r.useCount

/-- How many paging requests of a subscriber there are on these BTSs. -/
def pagedOn (s : MscNet) (i : Nat) (l : List Nat) : Nat :=
  s.paging.count fun p => p.subscr == i && l.contains p.bts

variable {s s' : MscNet} {hand : List Nat} {i : Nat} {c : Nat} {conn : NetConn}

theorem Outlasts.mono {m n : Nat} (h : s.Outlasts i n) (hmn : m ≤ n) : s.Outlasts i m := by
  refine h.imp_right fun hcount r hr => ?_
  have hlt := hcount r hr
  omega

theorem live_iff : s.Live i ↔ (s.subscrs.get? i).isSome = true := isSome_iff_exists.symm

theorem touch_of_live (h : s.Live i) : s.touch i = s := by
  obtain ⟨r, hr⟩ := h
  unfold touch
  rw [hr, isNone_some, Bool.or_false]

theorem lookup_active (s : MscNet) (i : Nat) :
    s.lookup (.active i) = if (s.subscrs.get? i).isSome then (s.subscrGet i, some i) else (s, none) := rfl

theorem useCount_eq_some {n : Int} : s.useCount i = some n ↔ ∃ r, s.subscrs.get? i = some r ∧ r.useCount = n :=
  map_eq_some_iff

theorem live_iff_useCount : s.Live i ↔ ∃ n, s.useCount i = some n := by
  simp [Live, useCount]

end MscNet

namespace AccountsWith

open MscNet

variable {s s' : MscNet} {hand : List Nat} {i : Nat} {c : Nat} {conn : NetConn}

/-! ## References -/

section

variable (h : AccountsWith hand s)

include h

theorem live (hi : 0 < s.holders i + hand.count i) : s.Live i :=
  live_iff_useCount.mpr (h.counted.exists_of_held hi)

/-- What the code at work refers to is in memory. -/
theorem live_of_hand (hi : i ∈ hand) : s.Live i :=
  h.live (Nat.lt_of_lt_of_le (List.count_pos_iff.mpr hi) (Nat.le_add_left _ _))

theorem live_of_conn (hc : s.conns.get? c = some conn) (hi : conn.subscr = some i) :
    s.Live i := by
  have hpos : 0 < s.conns.count fun conn => conn.subscr == some i := count_pos hc (by rw [hi, beq_self_eq_true])
  refine h.live ?_
  unfold holders
  omega

/-- The subscriber refers elsewhere, not who refers to it. -/
theorem congr (hsubscrs : s'.useCount = s.useCount) (hfault : s'.fault = s.fault)
    (hholders : ∀ i, s'.holders i = s.holders i)
    (hsecured : ∀ c conn i, s'.conns.get? c = some conn → conn.secOperation = some (.paging i) →
      conn.subscr = some i) : AccountsWith hand s' where
  sound := hfault.trans h.sound
  counted := by
    rw [hsubscrs]
    exact h.counted.congr fun i => by rw [hholders i]
  secured := hsecured

end

/-- A reference of the code at work is kept by somebody. -/
theorem handOver (h : AccountsWith (i :: hand) s) (hsubscrs : s'.useCount = s.useCount) (hfault : s'.fault = s.fault)
    (hholders : ∀ j, s'.holders j = s.holders j + if j = i then 1 else 0)
    (hsecured : ∀ c conn i, s'.conns.get? c = some conn → conn.secOperation = some (.paging i) →
      conn.subscr = some i) : AccountsWith hand s' where
  sound := hfault.trans h.sound
  counted := by
    rw [hsubscrs]
    refine h.counted.congr fun j => ?_
    rw [hholders j, List.count_cons]
    rw [ite_beq]
    omega
  secured := hsecured

/-- A reference somebody kept is taken over by the code at work. -/
theorem takeOver (h : AccountsWith hand s) (hsubscrs : s'.useCount = s.useCount) (hfault : s'.fault = s.fault)
    (hholders : ∀ j, s.holders j = s'.holders j + if j = i then 1 else 0)
    (hsecured : ∀ c conn i, s'.conns.get? c = some conn → conn.secOperation = some (.paging i) →
      conn.subscr = some i) : AccountsWith (i :: hand) s' where
  sound := hfault.trans h.sound
  counted := by
    rw [hsubscrs]
    refine h.counted.congr fun j => ?_
    rw [hholders j, List.count_cons]
    rw [ite_beq]
    omega
  secured := hsecured

theorem emit (h : AccountsWith hand s) (out : NetOut) : AccountsWith hand (s.emit out) :=
  ⟨h.sound, h.counted, h.secured⟩

theorem touch (h : AccountsWith hand s) (hi : s.Live i) : AccountsWith hand (s.touch i) := by
  rw [touch_of_live hi]
  exact h

theorem useCount_modify (s : MscNet) (i : Nat) {f : GsmSubscriber → GsmSubscriber}
    (hf : ∀ r, (f r).useCount = r.useCount) :
    useCount { s with subscrs := s.subscrs.modify i f } = s.useCount := by
  funext j
  unfold useCount
  rw [show ({ s with subscrs := s.subscrs.modify i f } : MscNet).subscrs = s.subscrs.modify i f from rfl, get?_modify]
  split
  · rw [map_map]
    exact congrArg (fun g => (s.subscrs.get? j).map g) (funext hf)
  · rfl

theorem modifySubscr (h : AccountsWith hand s) (i : Nat) {f : GsmSubscriber → GsmSubscriber}
    (hf : ∀ r, (f r).useCount = r.useCount) : AccountsWith hand { s with subscrs := s.subscrs.modify i f } :=
  h.congr (useCount_modify s i hf) rfl (fun _ => rfl) h.secured

theorem setLac (h : AccountsWith hand s) (i lac : Nat) : AccountsWith hand (s.setLac i lac) :=
  h.congr (useCount_modify s i fun _ => rfl) rfl (fun _ => rfl) h.secured

theorem useCount_subscrGet (s : MscNet) (i : Nat) : (s.subscrGet i).useCount = take s.useCount i := by
  funext j
  unfold useCount take
  rw [show (s.subscrGet i).subscrs = s.subscrs.modify i fun r => { r with useCount := r.useCount + 1 } from rfl,
    get?_modify]
  by_cases hj : j = i
  · subst hj
    rw [if_pos rfl, Function.update_self, map_map, map_map]
    rfl
  · rw [if_neg hj, Function.update_of_ne hj]

/-- **`subscr_get`.** -/
theorem subscrGet (h : AccountsWith hand s) (hi : s.Live i) : AccountsWith (i :: hand) (s.subscrGet i) where
  sound := by
    obtain ⟨r, hr⟩ := hi
    show (s.fault || (s.subscrs.get? i).isNone) = false
    rw [h.sound, hr]
    rfl
  counted := by
    obtain ⟨n, hn⟩ := live_iff_useCount.mp hi
    rw [useCount_subscrGet]
    refine h.counted.take hn fun j => ?_
    rw [List.count_cons, ← Nat.add_assoc]
    rw [ite_beq]
    rfl
  secured := h.secured

theorem useCount_subscrPut (hi : s.Live i) : (s.subscrPut i).useCount = drop s.keepSubscr s.useCount i := by
  obtain ⟨r, hr⟩ := hi
  funext j
  unfold subscrPut
  simp only [hr]
  unfold drop
  by_cases hj : j = i
  · subst hj
    rw [Function.update_self]
    unfold useCount
    rw [hr, map_some, bind_some, dropped]
    split
    · rw [show ({ s with subscrs := s.subscrs.remove j } : MscNet).subscrs = s.subscrs.remove j from rfl,
        get?_remove, if_pos rfl]
      rfl
    · exact congrArg (Option.map GsmSubscriber.useCount) (get?_modify_self hr)
  · rw [Function.update_of_ne hj]
    unfold useCount
    split
    · rw [show ({ s with subscrs := s.subscrs.remove i } : MscNet).subscrs = s.subscrs.remove i from rfl,
        get?_remove, if_neg hj]
    · exact congrArg (Option.map GsmSubscriber.useCount) (get?_modify_ne hj)

theorem subscrPut_frame (s : MscNet) (i : Nat) :
    (s.subscrPut i).conns = s.conns ∧ (s.subscrPut i).net = s.net ∧ (s.subscrPut i).requests = s.requests ∧
    (s.subscrPut i).paging = s.paging ∧ (s.subscrPut i).sms = s.sms ∧ (s.subscrPut i).stack = s.stack ∧
    (s.subscrPut i).keepSubscr = s.keepSubscr ∧ (s.subscrPut i).btsList = s.btsList := by
  unfold subscrPut
  split
  · exact ⟨rfl, rfl, rfl, rfl, rfl, rfl, rfl, rfl⟩
  · split
    · exact ⟨rfl, rfl, rfl, rfl, rfl, rfl, rfl, rfl⟩
    · exact ⟨rfl, rfl, rfl, rfl, rfl, rfl, rfl, rfl⟩

theorem holders_subscrPut (s : MscNet) (i j : Nat) : (s.subscrPut i).holders j = s.holders j := by
  obtain ⟨hconns, hnet, hrequests, hpaging, hsms, hstack, -⟩ := subscrPut_frame s i
  unfold holders
  rw [hconns, hnet, hrequests, hpaging, hsms, hstack]

theorem fault_subscrPut (hi : s.Live i) : (s.subscrPut i).fault = s.fault := by
  obtain ⟨r, hr⟩ := hi
  unfold subscrPut
  simp only [hr]
  split
  · rfl
  · rfl

/-- **`subscr_put`.** -/
theorem subscrPut (h : AccountsWith (i :: hand) s) : AccountsWith hand (s.subscrPut i) where
  sound := (fault_subscrPut (h.live_of_hand List.mem_cons_self)).trans h.sound
  counted := by
    rw [useCount_subscrPut (h.live_of_hand List.mem_cons_self)]
    refine h.counted.drop s.keepSubscr fun j => ?_
    rw [holders_subscrPut, List.count_cons, ← Nat.add_assoc]
    rw [ite_beq]
  secured := by
    rw [(subscrPut_frame s i).1]
    exact h.secured

/-- **A lookup** takes a reference to what it finds. -/
theorem lookup (h : AccountsWith hand s) {found : Lookup} (hi : (s.lookup found).2 = some i) :
    AccountsWith (i :: hand) (s.lookup found).1 := by
  cases found with
  | active j =>
    by_cases hlive : (s.subscrs.get? j).isSome = true
    · rw [lookup_active, if_pos hlive] at hi ⊢
      cases hi
      exact h.subscrGet (live_iff.mpr hlive)
    · rw [lookup_active, if_neg hlive] at hi
      cases hi
  | row lac =>
    cases hi
    have hnone : s.useCount s.subscrs.next = none := by
      cases hn : s.useCount s.subscrs.next with
      | none => rfl
      | some n =>
        obtain ⟨r, hr, -⟩ := useCount_eq_some.mp hn
        exact absurd (get?_lt hr) (Nat.lt_irrefl _)
    refine ⟨h.sound, ?_, h.secured⟩
    have hcount : (s.lookup (.row lac)).1.useCount = create s.useCount s.subscrs.next := by
      funext j
      unfold useCount create
      rw [show (s.lookup (.row lac)).1.subscrs = s.subscrs.alloc { lac := lac } from rfl, get?_alloc]
      by_cases hj : j = s.subscrs.next
      · rw [if_pos hj, hj, Function.update_self]
        rfl
      · rw [if_neg hj, Function.update_of_ne hj]
    rw [hcount]
    refine h.counted.create hnone fun j => ?_
    rw [List.count_cons, ← Nat.add_assoc]
    rw [ite_beq]
    rfl
  | unknown => cases hi

/-! ## Holders that come and go -/

theorem holders_modifyConn (s : MscNet) (c i : Nat) {f : NetConn → NetConn}
    (hf : ∀ conn, (f conn).subscr = conn.subscr) : (s.modifyConn c f).holders i = s.holders i := by
  unfold holders modifyConn
  simp only
  rw [count_modify]
  intro conn
  rw [hf conn]

/-- A connection changes, but neither its subscriber nor what its operation is about. -/
theorem modifyConn (h : AccountsWith hand s) (c : Nat) {f : NetConn → NetConn}
    (hf : ∀ conn, (f conn).subscr = conn.subscr)
    (hsec : ∀ conn, (f conn).secOperation = conn.secOperation ∨ (f conn).secOperation = none) :
    AccountsWith hand (s.modifyConn c f) := by
  refine h.congr rfl rfl (fun i => holders_modifyConn s c i hf) fun d conn i hd hop => ?_
  rw [show (s.modifyConn c f).conns = s.conns.modify c f from rfl, get?_modify] at hd
  split at hd
  · obtain ⟨old, hold, rfl⟩ := map_eq_some_iff.mp hd
    rw [hf old]
    rcases hsec old with hsame | hnone
    · exact h.secured d old i hold (hsame.symm.trans hop)
    · rw [hnone] at hop
      cases hop
  · exact h.secured d conn i hd hop

/-- An operation is started on a connection, about its subscriber if it is for paging. -/
theorem startOp (h : AccountsWith hand s) (hc : s.conns.get? c = some conn) {cb : SecParam}
    (hcb : ∀ i, cb = .paging i → conn.subscr = some i) :
    AccountsWith hand (s.modifyConn c fun conn => { conn with secOperation := some cb }) := by
  refine h.congr rfl rfl (fun i => holders_modifyConn s c i fun _ => rfl) fun d other i hd hop => ?_
  rw [show (s.modifyConn c fun conn => { conn with secOperation := some cb }).conns =
    s.conns.modify c fun conn => { conn with secOperation := some cb } from rfl, get?_modify] at hd
  split at hd
  next hdc =>
    obtain ⟨old, hold, rfl⟩ := map_eq_some_iff.mp hd
    rw [hdc, hc] at hold
    cases hold
    exact hcb i (some.inj hop)
  next => exact h.secured d other i hd hop

/-- **The subscriber of a connection is set**, which had none. -/
theorem setSubscr (h : AccountsWith (i :: hand) s) (hc : s.conns.get? c = some conn) (hnone : conn.subscr = none) :
    AccountsWith hand (s.setSubscr c i) := by
  refine h.handOver rfl rfl (fun j => ?_) fun d other j hd hop => ?_
  · have hcount := count_modify_get hc (fun conn => { conn with subscr := some i })
      fun conn => conn.subscr == some j
    rw [hnone] at hcount
    simp only [beq_iff_eq, reduceCtorEq, if_false, some.injEq, Nat.add_zero] at hcount
    unfold holders MscNet.setSubscr MscNet.modifyConn
    simp only
    rw [hcount]
    by_cases hj : j = i
    · rw [if_pos hj.symm, if_pos hj]
      omega
    · rw [if_neg (Ne.symm hj), if_neg hj]
      omega
  · rw [show (s.setSubscr c i).conns = s.conns.modify c fun conn => { conn with subscr := some i } from rfl,
      get?_modify] at hd
    split at hd
    next hdc =>
      obtain ⟨old, hold, rfl⟩ := map_eq_some_iff.mp hd
      have hsec := h.secured d old j hold hop
      rw [hdc, hc] at hold
      cases hold
      rw [hnone] at hsec
      cases hsec
    next => exact h.secured d other j hd hop

theorem holders_push (s : MscNet) (cont : NetCont) (i : Nat) :
    (s.push cont).holders i = s.holders i + if cont.holds i then 1 else 0 := by
  unfold holders push
  simp only
  rw [List.countP_cons]
  omega

variable {cont : NetCont}

/-- Something is left to do for which no reference is kept. -/
theorem push (h : AccountsWith hand s) (hcont : ∀ i, cont.holds i = false) : AccountsWith hand (s.push cont) := by
  refine h.congr rfl rfl (fun i => ?_) h.secured
  rw [holders_push, hcont i]
  rfl

/-- Something is left to do for which a reference is kept. -/
theorem pushHeld (h : AccountsWith (i :: hand) s) (hcont : ∀ j, cont.holds j = (i == j)) :
    AccountsWith hand (s.push cont) := by
  refine h.handOver rfl rfl (fun j => ?_) h.secured
  rw [holders_push, hcont j]
  rw [ite_beq]

/-- The reference kept for what is left to do is taken over. -/
theorem pop {stack : List NetCont} (h : AccountsWith hand s) (hs : s.stack = cont :: stack)
    (hcont : ∀ j, cont.holds j = (i == j)) : AccountsWith (i :: hand) { s with stack := stack } := by
  refine h.takeOver rfl rfl (fun j => ?_) h.secured
  have hholders := holders_push { s with stack := stack } cont j
  rw [show ({ s with stack := stack } : MscNet).push cont = { s with stack := cont :: stack } from rfl, ← hs,
    hcont j] at hholders
  rw [show s.holders j = ({ s with stack := s.stack } : MscNet).holders j from rfl, hholders]
  rw [ite_beq]

theorem popNone {stack : List NetCont} (h : AccountsWith hand s) (hs : s.stack = cont :: stack)
    (hcont : ∀ j, cont.holds j = false) : AccountsWith hand { s with stack := stack } := by
  refine h.congr rfl rfl (fun j => ?_) h.secured
  have hholders := holders_push { s with stack := stack } cont j
  rw [show ({ s with stack := stack } : MscNet).push cont = { s with stack := cont :: stack } from rfl, ← hs,
    hcont j] at hholders
  exact hholders.symm

variable {p : BtsPagingRequest}

theorem pagingRemoveRequest (h : AccountsWith hand s) {req : Nat} (hp : s.paging.get? req = some p) :
    AccountsWith hand (s.pagingRemoveRequest req) := by
  unfold MscNet.pagingRemoveRequest
  rw [hp]
  refine subscrPut (h.takeOver (i := p.subscr) rfl rfl (fun j => ?_) h.secured)
  have hcount := count_remove hp fun p => p.subscr == j
  unfold holders
  simp only
  rw [ite_beq] at hcount
  omega

/-- A transaction without a connection, or with one in release, is freed. -/
theorem transDrop (h : AccountsWith hand s) (t : Nat) : AccountsWith hand (s.transDrop t) := by
  unfold MscNet.transDrop
  split
  next => exact h
  next u hu =>
    refine subscrPut (h.takeOver (i := u.subscr) rfl rfl (fun j => ?_) h.secured)
    have hcount := count_remove hu fun u => u.subscr == j
    unfold holders TransList.free
    simp only
    rw [ite_beq] at hcount
    omega

/-! ## Paging -/

theorem pagedOn_mono {l l' : List Nat} (hl : ∀ b ∈ l, b ∈ l') : s.pagedOn i l ≤ s.pagedOn i l' := by
  refine List.countP_mono_left fun e _ he => ?_
  obtain ⟨hsubscr, hbts⟩ := Bool.and_eq_true_iff.mp he
  exact Bool.and_eq_true_iff.mpr ⟨hsubscr, List.contains_iff_mem.mpr (hl _ (List.contains_iff_mem.mp hbts))⟩

theorem pagedOn_le (l : List Nat) : s.pagedOn i l ≤ s.paging.count fun p => p.subscr == i :=
  List.countP_mono_left fun _ _ he => (Bool.and_eq_true_iff.mp he).1

/-- A reference is dropped, and it is not the last one. -/
theorem outlasts_subscrPut {n : Nat} (h : s.Outlasts i (n + 1)) (hi : s.Live i) :
    (s.subscrPut i).Live i ∧ (s.subscrPut i).Outlasts i n := by
  obtain ⟨r, hr⟩ := hi
  have hkeep : (r.useCount - 1 ≤ 0 && !s.keepSubscr) = false := by
    rcases h with hkeep | hcount
    · rw [hkeep, Bool.not_true, Bool.and_false]
    · have hlt := hcount r hr
      rw [Bool.and_eq_false_iff]
      exact .inl (decide_eq_false (by omega))
  have hput : s.subscrPut i =
      { s with subscrs := s.subscrs.modify i fun r => { r with useCount := r.useCount - 1 } } := by
    unfold MscNet.subscrPut
    simp only [hr, hkeep, Bool.false_eq_true, if_false]
  rw [hput]
  refine ⟨⟨_, get?_modify_self hr⟩, h.imp_right fun hcount r' hr' => ?_⟩
  rw [show ({ s with subscrs := s.subscrs.modify i fun r => { r with useCount := r.useCount - 1 } } : MscNet).subscrs =
    s.subscrs.modify i fun r => { r with useCount := r.useCount - 1 } from rfl, get?_modify_self hr] at hr'
  cases hr'
  have hlt := hcount r hr
  show (n : Int) < r.useCount - 1
  omega

/-- Paging requests are not all that refers to a subscriber the code at work refers to. -/
theorem outlasts_of_held (h : AccountsWith hand s) (hi : 0 < s.conns.count (fun conn => conn.subscr == some i) +
    hand.count i) (l : List Nat) : s.Outlasts i (s.pagedOn i l) := by
  refine .inr fun r hr => ?_
  have hcount := h.counted.live i r.useCount (useCount_eq_some.mpr ⟨r, hr, rfl⟩)
  have hle := pagedOn_le (s := s) (i := i) l
  unfold holders at hcount
  omega

theorem outlasts_of_hand (h : AccountsWith hand s) (hi : i ∈ hand) (l : List Nat) :
    s.Outlasts i (s.pagedOn i l) :=
  h.outlasts_of_held (Nat.lt_of_lt_of_le (List.count_pos_iff.mpr hi) (Nat.le_add_left _ _)) l

theorem outlasts_of_conn (h : AccountsWith hand s) (hc : s.conns.get? c = some conn) (hi : conn.subscr = some i)
    (l : List Nat) : s.Outlasts i (s.pagedOn i l) := by
  have hpos : 0 < s.conns.count fun conn => conn.subscr == some i := count_pos hc (by rw [hi, beq_self_eq_true])
  exact h.outlasts_of_held (Nat.lt_of_lt_of_le hpos (Nat.le_add_right _ _)) l

theorem pendingRequest_some {bts req : Nat} (hp : s.pendingRequest bts i = some (req, p)) :
    s.paging.get? req = some p ∧ p.bts = bts ∧ p.subscr = i := by
  obtain ⟨hget, hq, -⟩ := find?_eq_some.mp hp
  obtain ⟨hbts, hsubscr⟩ := Bool.and_eq_true_iff.mp hq
  exact ⟨hget, eq_of_beq hbts, eq_of_beq hsubscr⟩

theorem pagingRemoveRequest_eq {req : Nat} (hp : s.paging.get? req = some p) :
    s.pagingRemoveRequest req = { s with paging := s.paging.remove req }.subscrPut p.subscr := by
  unfold MscNet.pagingRemoveRequest
  rw [hp]

/-- A paging request is removed on a BTS, and there are so many references that the subscriber stays. -/
theorem outlasts_pagingRemoveRequest {req : Nat} (hp : s.paging.get? req = some p) {l l' : List Nat}
    (hi : s.Live p.subscr) (h : s.Outlasts p.subscr (s.pagedOn p.subscr l')) (hbts : p.bts ∈ l')
    (hl : ∀ b ∈ l, b ∈ l') :
    (s.pagingRemoveRequest req).Live p.subscr ∧
    (s.pagingRemoveRequest req).Outlasts p.subscr ((s.pagingRemoveRequest req).pagedOn p.subscr l) := by
  have hcount :
      ({ s with paging := s.paging.remove req } : MscNet).pagedOn p.subscr l' + 1 = s.pagedOn p.subscr l' := by
    have hremove := count_remove hp fun q => q.subscr == p.subscr && l'.contains q.bts
    rwa [if_pos (by rw [beq_self_eq_true, List.contains_iff_mem.mpr hbts]; rfl)] at hremove
  have hless := pagedOn_mono (s := { s with paging := s.paging.remove req }) (i := p.subscr) hl
  rw [pagingRemoveRequest_eq hp]
  obtain ⟨hlive, hlast⟩ := outlasts_subscrPut (s := { s with paging := s.paging.remove req }) (i := p.subscr)
    (n := ({ s with paging := s.paging.remove req } : MscNet).pagedOn p.subscr l)
    (Outlasts.mono (s := { s with paging := s.paging.remove req }) h (by omega)) hi
  refine ⟨hlive, ?_⟩
  have hsame : ({ s with paging := s.paging.remove req }.subscrPut p.subscr).pagedOn p.subscr l =
      ({ s with paging := s.paging.remove req } : MscNet).pagedOn p.subscr l := by
    unfold pagedOn
    rw [(subscrPut_frame _ _).2.2.2.1]
  rw [hsame]
  exact hlast

/-- **`paging_request_stop`**, where the subscriber stays in memory while its paging requests are removed. -/
theorem pagingStopLoop (but : Option Nat) (l : List PagingBts) (h : AccountsWith hand s) (hi : s.Live i)
    (hlast : s.Outlasts i (s.pagedOn i (l.map nr))) : AccountsWith hand (pagingStopLoop i but l s) := by
  induction l generalizing s with
  | nil => exact h
  | cons b l ih =>
    have hrest : s.Outlasts i (s.pagedOn i (l.map nr)) :=
      hlast.mono (pagedOn_mono fun _ hb => List.mem_cons_of_mem b.nr hb)
    unfold pagingStopLoop
    by_cases hbut : but = some b.nr
    · rw [if_pos hbut, touch_of_live hi]
      exact ih h hi hrest
    · rw [if_neg hbut]
      cases hp : s.pendingRequest b.nr i with
      | none =>
        unfold pagingStopOn
        rw [hp, touch_of_live hi]
        exact ih h hi hrest
      | some found =>
        obtain ⟨req, p⟩ := found
        obtain ⟨hget, hbts, rfl⟩ := pendingRequest_some hp
        have hin : p.bts ∈ (b :: l).map nr := by
          rw [hbts]
          exact List.mem_cons_self
        obtain ⟨hlive', hlast'⟩ := outlasts_pagingRemoveRequest hget hi hlast hin fun _ hb =>
          List.mem_cons_of_mem b.nr hb
        unfold pagingStopOn
        rw [hp]
        rw [touch_of_live hlive']
        exact ih (h.pagingRemoveRequest hget) hlive' hlast'

theorem pagingRequestStop (h : AccountsWith hand s) (but : Option Nat) (hi : s.Live i)
    (hlast : s.Outlasts i (s.pagedOn i ((s.btsByLac i).map nr))) :
    AccountsWith hand (s.pagingRequestStop i but) := by
  unfold MscNet.pagingRequestStop
  rw [touch_of_live hi]
  exact h.pagingStopLoop but _ hi hlast

/-- **`paging_request`** takes a reference for each BTS. -/
theorem pagingLoop (cbfn : PagingCallback) (l : List PagingBts) (h : AccountsWith hand s) (hi : s.Live i)
    (numPages : Nat) :
    AccountsWith hand (pagingLoop i cbfn l s numPages).1 ∧ (pagingLoop i cbfn l s numPages).1.Live i := by
  induction l generalizing s numPages with
  | nil => exact ⟨h, hi⟩
  | cons b l ih =>
    unfold pagingLoop
    split
    · exact ih h hi numPages
    · split
      · exact ⟨h, hi⟩
      · refine ih ?_ ?_ (numPages + 1)
        · refine (h.subscrGet hi).handOver rfl rfl (fun j => ?_) h.secured
          unfold holders MscNet.subscrGet MscNet.touch
          simp only
          rw [count_alloc]
          simp only [ite_beq]
          omega
        · obtain ⟨r, hr⟩ := hi
          exact ⟨_, get?_modify_self hr⟩

theorem pagingRequest (h : AccountsWith hand s) (cbfn : PagingCallback) (hi : s.Live i) :
    AccountsWith hand (s.pagingRequest i cbfn).1 ∧ (s.pagingRequest i cbfn).1.Live i := by
  unfold MscNet.pagingRequest
  rw [touch_of_live hi]
  exact h.pagingLoop cbfn _ hi 0

/-! ## The queue of channel requests -/

section

variable (h : AccountsWith hand s)

include h

theorem modifyTrans (t : Nat) {f : GsmTrans Unit → GsmTrans Unit}
    (hf : ∀ u, (f u).subscr = u.subscr) :
    AccountsWith hand { s with net.transList := s.net.transList.modify t f } := by
  refine h.congr rfl rfl (fun j => ?_) h.secured
  unfold holders
  simp only
  rw [count_modify]
  intro u
  rw [hf u]

theorem putsChannel (c : Nat) (put : Bool) :
    AccountsWith hand (s.modifyConn c fun conn => { conn with putChannel := put }) :=
  h.modifyConn c (fun _ => rfl) fun _ => .inl rfl

theorem setupTrigPagEvt (t : Nat) (succeeded : Bool) (conn : Option Nat) :
    AccountsWith hand (s.setupTrigPagEvt t succeeded conn) := by
  unfold MscNet.setupTrigPagEvt
  split
  · split
    · split
      · exact h
      next c =>
        have hbound := h.modifyTrans t (f := fun u => { u with conn := some c, pagingRequest := false }) fun _ => rfl
        exact hbound.putsChannel c true
    · exact h.transDrop t
  · split
    · exact h
    next c => exact h.putsChannel c true

/-- **`subscr_paging_dispatch`.** The reference of the request is kept until the callback returns. -/
theorem subscrPagingDispatch (hi : s.Live i) (succeeded : Bool) (conn : Option Nat) :
    AccountsWith hand (s.subscrPagingDispatch i succeeded conn) := by
  have htouched : AccountsWith hand (if succeeded then (s.touch i).emit (.pagingSucceeded conn i) else s.touch i) := by
    split
    · exact (h.touch hi).emit _
    · exact h.touch hi
  unfold MscNet.subscrPagingDispatch
  split
  next => exact h.touch hi
  next r hr =>
    have hmem : r ∈ s.requests := List.mem_of_find?_eq_some hr
    have hsubscr : r.subscr = i := by simpa using List.find?_some hr
    simp only
    generalize hs' : (if succeeded then (s.touch i).emit (.pagingSucceeded conn i) else s.touch i) = s' at htouched ⊢
    have hmem' : r ∈ s'.requests := by
      rw [← hs']
      split
      · exact hmem
      · exact hmem
    have hqueued : AccountsWith hand
        (({ s' with
          requests := s'.requests.erase r
          subscrs := s'.subscrs.modify i fun r => { r with inCallback := true } } : MscNet).push
          (.dispatch i succeeded)) := by
      refine htouched.congr (useCount_modify s' i fun _ => rfl) rfl (fun j => ?_) htouched.secured
      rw [holders_push]
      have hcount := (List.perm_cons_erase hmem').countP_eq fun r => r.subscr == j
      rw [List.countP_cons, hsubscr] at hcount
      unfold holders NetCont.holds
      simp only
      omega
    split
    next t _ => exact hqueued.setupTrigPagEvt t succeeded conn
    next => exact hqueued

theorem subscrSendPagingRequest (hi : s.Live i) :
    AccountsWith hand (s.subscrSendPagingRequest i) := by
  obtain ⟨hpaged, hlive⟩ := h.pagingRequest .subscrPaging hi
  unfold MscNet.subscrSendPagingRequest
  simp only
  split
  · exact hpaged
  · exact hpaged.subscrPagingDispatch hlive false none
  · exact hpaged.subscrPagingDispatch hlive false none

/-- **`subscr_get_channel`** takes a reference for the request. -/
theorem subscrGetChannel (hi : s.Live i) (cbfn : ChanCallback) :
    AccountsWith hand (s.subscrGetChannel i cbfn) := by
  have hqueued : AccountsWith hand { s.subscrGet i with requests := s.requests ++ [⟨i, cbfn⟩] } := by
    refine (h.subscrGet hi).handOver rfl rfl (fun j => ?_) h.secured
    unfold holders MscNet.subscrGet MscNet.touch
    simp only
    rw [List.countP_append, List.countP_singleton]
    simp only [ite_beq]
    omega
  have hlive : MscNet.Live { s.subscrGet i with requests := s.requests ++ [⟨i, cbfn⟩] } i := by
    obtain ⟨r, hr⟩ := hi
    exact ⟨_, get?_modify_self hr⟩
  unfold MscNet.subscrGetChannel
  simp only
  split
  · exact hqueued
  · exact hqueued.subscrSendPagingRequest hlive

theorem subscrPutChannel {o : Option Nat} (hi : ∀ i, o = some i → s.Live i) :
    AccountsWith hand (s.subscrPutChannel o) := by
  cases o with
  | none => exact h
  | some i =>
    have hlive := hi i rfl
    unfold MscNet.subscrPutChannel
    simp only [touch_of_live hlive]
    split
    · exact h.subscrSendPagingRequest hlive
    · exact h

/-- **`subscr_pending_clear`**, for who looked the subscriber up. -/
theorem subscrPendingClear (hi : i ∈ hand) : AccountsWith hand (s.subscrPendingClear i) := by
  have hloop : ∀ (l : List SubscrRequest) (s : MscNet), (∀ r ∈ l, r.subscr = i) → l.Sublist s.requests →
      AccountsWith hand s → AccountsWith hand (l.foldl
        (fun s r => { (s.subscrPut i).touch i with requests := s.requests.erase r }) s) := by
    intro l
    induction l with
    | nil => exact fun _ _ _ h => h
    | cons r l ih =>
      intro s hall hsub h
      have hmem : r ∈ s.requests := hsub.subset List.mem_cons_self
      have htaken : AccountsWith (i :: hand) { s with requests := s.requests.erase r } := by
        refine h.takeOver rfl rfl (fun j => ?_) h.secured
        have hcount := (List.perm_cons_erase hmem).countP_eq fun r => r.subscr == j
        rw [List.countP_cons, hall r List.mem_cons_self] at hcount
        unfold holders
        simp only
        rw [ite_beq] at hcount
        omega
      have hput := htaken.subscrPut
      have hlive := hput.live_of_hand hi
      have heq : ({ (s.subscrPut i).touch i with requests := s.requests.erase r } : MscNet) =
          (({ s with requests := s.requests.erase r } : MscNet).subscrPut i).touch i := by
        unfold MscNet.subscrPut MscNet.touch
        simp only
        split
        · rfl
        · split
          · rfl
          · rfl
      rw [List.foldl_cons, heq, touch_of_live hlive]
      refine ih _ (fun r' hr' => hall r' (List.mem_cons_of_mem r hr')) ?_ hput
      rw [(subscrPut_frame _ _).2.2.1]
      have hrest := hsub.erase r
      rwa [List.erase_cons_head] at hrest
  exact hloop _ s (fun r hr => by simpa using (List.mem_filter.mp hr).2) List.filter_sublist h

end

/-! ## Connections -/

theorem conns_subscrPut (s : MscNet) (i : Nat) (conns : Pool NetConn) :
    ({ s.subscrPut i with conns := conns } : MscNet) = ({ s with conns := conns } : MscNet).subscrPut i := by
  unfold MscNet.subscrPut MscNet.touch
  simp only
  split
  · rfl
  · split
    · rfl
    · rfl

section

variable (h : AccountsWith hand s)

include h

/-- **`subscr_con_free`** drops the reference of the connection. -/
theorem subscrConFree (c : Nat) : AccountsWith hand (s.subscrConFree c) := by
  have hsecured : ∀ d conn i, (s.conns.remove c).get? d = some conn → conn.secOperation = some (.paging i) →
      conn.subscr = some i := fun d conn i hd => h.secured d conn i (get?_of_remove hd).2
  unfold MscNet.subscrConFree
  split
  next => exact h
  next conn hc =>
    split
    next hnone =>
      refine h.congr rfl rfl (fun j => ?_) hsecured
      have hcount := count_remove hc fun conn => conn.subscr == some j
      rw [hnone] at hcount
      unfold holders
      simp only
      simp only [beq_iff_eq, reduceCtorEq, if_false, Nat.add_zero] at hcount
      omega
    next i hi =>
      rw [conns_subscrPut]
      refine subscrPut (h.takeOver rfl rfl (fun j => ?_) hsecured)
      have hcount := count_remove hc fun conn => conn.subscr == some j
      rw [hi] at hcount
      simp only [beq_iff_eq, some.injEq] at hcount
      unfold holders
      simp only
      by_cases hj : j = i
      · rw [if_pos hj.symm] at hcount
        rw [if_pos hj]
        omega
      · rw [if_neg (Ne.symm hj)] at hcount
        rw [if_neg hj]
        omega

theorem putAndFree (c : Nat) (hi : ∀ i, conn.subscr = some i → s.Live i) :
    AccountsWith hand (s.putAndFree c conn) := by
  unfold MscNet.putAndFree
  split
  · exact ((h.putsChannel c false).push fun _ => rfl).subscrPutChannel hi
  · exact h.subscrConFree c

theorem mscReleaseConnection (c : Nat) : AccountsWith hand (s.mscReleaseConnection c) := by
  unfold MscNet.mscReleaseConnection
  split
  next => exact h
  next conn hc =>
    split
    · have hrel := h.modifyConn c (f := fun conn => { conn with inRelease := true }) (fun _ => rfl) fun _ => .inl rfl
      exact hrel.putAndFree c fun i hi => h.live_of_conn hc hi
    · exact h

theorem transFree (t : Nat) : AccountsWith hand (s.transFree t) := by
  unfold MscNet.transFree
  split
  · exact h
  · split
    · exact h.transDrop t
    next c _ => exact (h.transDrop t).mscReleaseConnection c

theorem releaseAnchor (c : Nat) : AccountsWith hand (s.releaseAnchor c) :=
  h.modifyConn c (fun _ => rfl) fun _ => .inl rfl

theorem releaseLocUpdatingReq (c : Nat) : AccountsWith hand (s.releaseLocUpdatingReq c) := by
  unfold MscNet.releaseLocUpdatingReq
  split
  · have hnone := (h.releaseAnchor c).modifyConn c (f := fun conn => { conn with locOperation := none })
      (fun _ => rfl) fun _ => .inl rfl
    exact hnone.mscReleaseConnection c
  · exact h

theorem releaseSecurityOperation (c : Nat) :
    AccountsWith hand (s.releaseSecurityOperation c) := by
  unfold MscNet.releaseSecurityOperation
  split
  · have hnone := h.modifyConn c (f := fun conn => { conn with secOperation := none }) (fun _ => rfl) fun _ => .inr rfl
    exact hnone.mscReleaseConnection c
  · exact h

theorem acceptLocUpd (c : Nat) (hi : ∀ i, conn.subscr = some i → s.Live i) :
    AccountsWith hand (s.acceptLocUpd c conn) := by
  unfold MscNet.acceptLocUpd
  split
  next => exact h
  next i hsubscr => exact (((h.touch (hi i hsubscr)).emit (.served c)).setLac i _).emit (.stored i)

/-- **The callback of an operation is invoked.** -/
theorem invoke (c : Nat) {cb : SecParam} (event : GsmSecurity)
    (hi : ∀ i, conn.subscr = some i → s.Live i) (hcb : ∀ i, cb = .paging i → s.Live i) :
    AccountsWith hand (s.invoke c conn cb event) := by
  cases cb with
  | authorize =>
    cases event with
    | authFailed => exact h.releaseLocUpdatingReq c
    | noavail | succeeded => exact h.acceptLocUpd c hi
  | servReq =>
    cases event with
    | noavail => exact h.emit _
    | authFailed | succeeded => exact h
  | paging i =>
    cases event with
    | authFailed => exact h.subscrPagingDispatch (hcb i rfl) false (some c)
    | noavail | succeeded => exact h.subscrPagingDispatch (hcb i rfl) true (some c)

theorem gsm48SecureChannel (c : Nat) {cb : SecParam} (answer : SecureAnswer)
    (hcb : ∀ conn i, s.conns.get? c = some conn → cb = .paging i → conn.subscr = some i) :
    AccountsWith hand (s.gsm48SecureChannel c cb answer) := by
  unfold MscNet.gsm48SecureChannel
  split
  next => exact h
  next conn hc =>
    have hi : ∀ i, conn.subscr = some i → s.Live i := fun i hi => h.live_of_conn hc hi
    have hpaging : ∀ i, cb = .paging i → s.Live i := fun i heq => hi i (hcb conn i hc heq)
    split
    · exact h.invoke c .noavail hi hpaging
    · exact h.invoke c .succeeded hi hpaging
    · split
      · exact h
      · exact (h.startOp hc fun i heq => hcb conn i hc heq).emit _

end

theorem mscReleaseConnection_inRelease (hc : s.conns.get? c = some conn) (hrel : conn.inRelease = true) :
    s.mscReleaseConnection c = s := by
  unfold MscNet.mscReleaseConnection MscNet.idle
  simp only [hc, hrel]
  rfl

theorem releaseLocUpdatingReq_inRelease (hc : s.conns.get? c = some conn) (hrel : conn.inRelease = true) :
    (s.releaseLocUpdatingReq c).subscrs = s.subscrs := by
  unfold MscNet.releaseLocUpdatingReq
  split
  · have hget : ((s.releaseAnchor c).modifyConn c fun conn => { conn with locOperation := none }).conns.get? c =
        some { conn with anchOperation := false, locOperation := none } := by
      unfold MscNet.releaseAnchor MscNet.modifyConn
      simp only
      rw [modify_modify]
      exact get?_modify_self hc
    rw [mscReleaseConnection_inRelease hget hrel]
    rfl
  · rfl

/-- **`gsm0408_clear_request`**, up to the callback of the operation. -/
theorem gsm0408ClearRequest (h : AccountsWith hand s) (hc : s.conns.get? c = some conn) :
    AccountsWith hand (s.gsm0408ClearRequest c conn) := by
  have hreleased := (h.modifyConn c (f := fun conn => { conn with inRelease := true }) (fun _ => rfl) fun _ =>
    .inl rfl).releaseLocUpdatingReq c
  have hsubscrs : ((s.modifyConn c fun conn => { conn with inRelease := true }).releaseLocUpdatingReq c).subscrs =
      s.subscrs := releaseLocUpdatingReq_inRelease (get?_modify_self hc) rfl
  have hlive : ∀ i, s.Live i →
      (((s.modifyConn c fun conn => { conn with inRelease := true }).releaseLocUpdatingReq c).push
        (.clearRest c)).Live i := by
    rintro i ⟨r, hr⟩
    exact ⟨r, (congrArg (fun p => get? p i) hsubscrs).trans hr⟩
  unfold MscNet.gsm0408ClearRequest
  simp only
  split
  · exact hreleased.push fun _ => rfl
  next cb hop =>
    refine (hreleased.push fun _ => rfl).invoke c .authFailed (fun i hi => hlive i (h.live_of_conn hc hi))
      fun i heq => ?_
    exact hlive i (h.live_of_conn hc (h.secured c conn i hc (hop.trans (congrArg some heq))))

theorem conns_transDrop (s : MscNet) (t : Nat) : (s.transDrop t).conns = s.conns := by
  unfold MscNet.transDrop
  split
  · rfl
  · rw [(subscrPut_frame _ _).1]

theorem conns_endTransactions (s : MscNet) (c : Nat) : (s.endTransactions c).conns = s.conns := by
  unfold endTransactions
  generalize (s.net.transList.entries.filter fun e => e.2.conn == some c).map Prod.fst = l
  induction l generalizing s with
  | nil => rfl
  | cons t l ih => exact (ih (s.transDrop t)).trans (conns_transDrop s t)

theorem endTransactions (h : AccountsWith hand s) (c : Nat) : AccountsWith hand (s.endTransactions c) := by
  unfold MscNet.endTransactions
  generalize (s.net.transList.entries.filter fun e => e.2.conn == some c).map Prod.fst = l
  induction l generalizing s with
  | nil => exact h
  | cons t l ih => exact ih (h.transDrop t)

/-- **The rest of `gsm0408_clear_request`.** -/
theorem clearRest (h : AccountsWith hand s) (c : Nat) : AccountsWith hand (s.clearRest c) := by
  unfold MscNet.clearRest
  split
  next => exact h
  next conn hc =>
    have hended := (h.modifyConn c (f := fun conn => { conn with secOperation := none, anchOperation := false })
      (fun _ => rfl) fun _ => .inr rfl).endTransactions c
    have hget : (((s.modifyConn c fun conn =>
        { conn with secOperation := none, anchOperation := false }).endTransactions c).conns.get? c) =
        some { conn with secOperation := none, anchOperation := false } := by
      rw [conns_endTransactions]
      exact get?_modify_self hc
    exact hended.putAndFree c fun i hi => hended.live_of_conn hget hi

end AccountsWith

end OpenBsc.Libmsc
