import OpenBsc.Libbsc.ChanAlloc

/-!
# `Libbsc.ChanSearch` — what `lchan_alloc` finds, and what it overlooks

`lchan_alloc` returns a free channel of a timeslot that can carry it, and changes nothing else. It finds every free
channel of the timeslots in service (`lchanAlloc_spec`). Timeslots without a combination are taken by a policy: never
the first one of a transceiver, and none of the first transceiver for SDCCHs (`lchanAlloc_overlooks_unassigned`).
-/

namespace OpenBsc.Libbsc

/-! ## What channels are for -/

/-- The combination of the timeslot has channels of the type. -/
def carries (ts : GsmBtsTrxTs) (type : GsmChan) : Bool :=
  match ts.pchan, type with
  | .ccchSdcch4, .sdcch | .sdcch8Sacch8c, .sdcch | .tchF, .tchF | .tchH, .tchH => true
  | .tchFPdch, .tchF => !ts.pdchMode
  | _, _ => false

/-- The types that may serve a request, the type asked for first. -/
def mayServe (type : GsmChan) (allowBigger : Bool) : List GsmChan :=
  match type with
  | .sdcch => if allowBigger then [.sdcch, .tchH, .tchF] else [.sdcch]
  | .tchF => [.tchF]
  | .tchH => [.tchH, .tchF]
  | _ => []

/-- A timeslot in service on a transceiver in service. -/
structure InService (bts : GsmBts) (i : Nat) (trx : GsmBtsTrx) (j : Fin 8) : Prop where
  get : bts.trxList[i]? = some trx
  trxUsable : trxIsUsable bts trx = true
  tsUsable : tsIsUsable bts (trx.ts.get j) = true

/-- **A timeslot without a combination has no channel in use.** -/
def NoneUnused (bts : GsmBts) : Prop :=
  ∀ (i : Nat) (trx : GsmBtsTrx) (j ss : Fin 8), bts.trxList[i]? = some trx →
    (trx.ts.get j).pchan = .none → ((trx.ts.get j).lchan.get ss).isFree = true

/-! ## Searches -/

variable {bts : GsmBts} {pchan : PhysChanConfig}

/-- The timeslot at `(i, j)` has a free channel `ss` under the combination `pchan`. -/
structure FreeAt (bts : GsmBts) (pchan : PhysChanConfig) (i : Nat) (trx : GsmBtsTrx) (j ss : Fin 8) : Prop where
  inService : InService bts i trx j
  considered : considers (trx.ts.get j) pchan = true
  subslot : ss.val < subslotsPerPchan pchan
  free : ((trx.ts.get j).lchan.get ss).isFree = true

variable {i : Nat} {trx : GsmBtsTrx} {j : Fin 8}

theorem lcFindTrx_some {ss : Fin 8} (hi : bts.trxList[i]? = some trx) (h : lcFindTrx bts trx pchan = some (j, ss)) :
    FreeAt bts pchan i trx j ss := by
  unfold lcFindTrx at h
  split at h
  · cases h
  · rename_i husable
    obtain ⟨j', -, hj'⟩ := List.exists_of_findSome?_eq_some h
    split at hj'
    · cases hj'
    · rename_i hts
      simp only [Bool.or_eq_true, Bool.not_eq_true', not_or, Bool.not_eq_false] at husable hts
      obtain ⟨ss', hfind, heq⟩ := Option.map_eq_some_iff.mp hj'
      cases heq
      have hq := List.find?_some hfind
      simp only [Bool.and_eq_true, decide_eq_true_eq] at hq
      exact ⟨⟨hi, husable, hts.1⟩, hts.2, hq.1, hq.2⟩

theorem lcFindTrx_none (h : lcFindTrx bts trx pchan = none) (j ss : Fin 8) : ¬ FreeAt bts pchan i trx j ss := by
  rintro ⟨⟨-, husable, hts⟩, hconsiders, hsub, hfree⟩
  unfold lcFindTrx at h
  rw [husable] at h
  simp only [Bool.not_true, Bool.false_eq_true, if_false] at h
  have hj := List.findSome?_eq_none_iff.mp h j (List.mem_finRange j)
  rw [hts, hconsiders] at hj
  simp only [Bool.not_true, Bool.or_self, Bool.false_eq_true, if_false, Option.map_eq_none_iff] at hj
  refine List.find?_eq_none.mp hj ss (List.mem_finRange ss) ?_
  rw [Bool.and_eq_true]
  exact ⟨decide_eq_true hsub, hfree⟩

theorem mem_searchOrder : (trx, i) ∈ bts.searchOrder ↔ bts.trxList[i]? = some trx := by
  unfold GsmBts.searchOrder
  split
  · rw [List.mem_reverse, List.mem_zipIdx_iff_getElem?]
  · rw [List.mem_zipIdx_iff_getElem?]

theorem findSome_searchOrder_some {ref : LchanRef}
    (h : (bts.searchOrder.findSome? fun e => (lcFindTrx bts e.1 pchan).map fun found =>
      LchanRef.mk e.2 found.1 found.2) = some ref) :
    ∃ trx, FreeAt bts pchan ref.trx trx ref.ts ref.ss := by
  obtain ⟨⟨trx, i⟩, hmem, he⟩ := List.exists_of_findSome?_eq_some h
  obtain ⟨⟨j, ss⟩, hfind, rfl⟩ := Option.map_eq_some_iff.mp he
  exact ⟨trx, lcFindTrx_some (mem_searchOrder.mp hmem) hfind⟩

theorem findSome_searchOrder_none
    (h : (bts.searchOrder.findSome? fun e => (lcFindTrx bts e.1 pchan).map fun found =>
      LchanRef.mk e.2 found.1 found.2) = none) (i : Nat) (trx : GsmBtsTrx) (j ss : Fin 8) :
    ¬ FreeAt bts pchan i trx j ss := by
  intro hfree
  have hnone := List.findSome?_eq_none_iff.mp h (trx, i) (mem_searchOrder.mpr hfree.inService.get)
  exact lcFindTrx_none (Option.map_eq_none_iff.mp hnone) j ss hfree

/-- A timeslot in service without a combination, in the range `ts_alloc` tries. -/
structure UnassignedAt (bts : GsmBts) (pchan : PhysChanConfig) (i : Nat) (trx : GsmBtsTrx) (j : Fin 8) : Prop where
  inService : InService bts i trx j
  unassigned : (trx.ts.get j).pchan = .none
  range : ∃ range, tsRange (i == 0) pchan = some range ∧ range.1 ≤ j.val ∧ j.val ≤ range.2

theorem findUnassigned_some {range : Nat × Nat} (h : findUnassigned bts trx range = some j) :
    (range.1 ≤ j.val ∧ j.val ≤ range.2) ∧ tsIsUsable bts (trx.ts.get j) = true ∧ (trx.ts.get j).pchan = .none := by
  have hq := List.find?_some h
  simpa [and_assoc] using hq

theorem findUnassigned_none {range : Nat × Nat} (h : findUnassigned bts trx range = none) (j : Fin 8)
    (hlow : range.1 ≤ j.val) (hhigh : j.val ≤ range.2) (husable : tsIsUsable bts (trx.ts.get j) = true) :
    (trx.ts.get j).pchan ≠ .none := by
  intro hnone
  refine List.find?_eq_none.mp h j (List.mem_finRange j) ?_
  rw [Bool.and_eq_true, Bool.and_eq_true]
  exact ⟨⟨decide_eq_true ⟨hlow, hhigh⟩, husable⟩, beq_iff_eq.mpr hnone⟩

theorem tsAllocLoop_some {l : List (GsmBtsTrx × Nat)} (hl : ∀ e ∈ l, bts.trxList[e.2]? = some e.1)
    (h : tsAllocLoop bts pchan l = some (i, j)) : ∃ trx, UnassignedAt bts pchan i trx j := by
  induction l with
  | nil => cases h
  | cons e rest ih =>
    obtain ⟨trx, k⟩ := e
    have hrest := ih fun e he => hl e (List.mem_cons_of_mem _ he)
    simp only [tsAllocLoop] at h
    by_cases husable : trxIsUsable bts trx = true
    · simp only [husable, Bool.not_true, Bool.false_eq_true, if_false] at h
      cases hrange : tsRange (k == 0) pchan with
      | none =>
        rw [hrange] at h
        cases h
      | some range =>
        simp only [hrange] at h
        cases hfind : findUnassigned bts trx range with
        | none =>
          simp only [hfind] at h
          exact hrest h
        | some j' =>
          simp only [hfind] at h
          cases h
          obtain ⟨hin, hts, hnone⟩ := findUnassigned_some hfind
          exact ⟨trx, ⟨hl _ List.mem_cons_self, husable, hts⟩, hnone, range, hrange, hin⟩
    · rw [if_pos (by simpa using husable)] at h
      exact hrest h

/-- Where `ts_alloc` tries the last seven timeslots of every transceiver in service and finds none, they all have a
    combination. -/
theorem tsAllocLoop_none {l : List (GsmBtsTrx × Nat)}
    (hrange : ∀ e ∈ l, trxIsUsable bts e.1 = true → tsRange (e.2 == 0) pchan = some (1, 7))
    (h : tsAllocLoop bts pchan l = none) :
    ∀ e ∈ l, trxIsUsable bts e.1 = true → ∀ j : Fin 8, 1 ≤ j.val → tsIsUsable bts (e.1.ts.get j) = true →
      (e.1.ts.get j).pchan ≠ .none := by
  induction l with
  | nil => exact fun e he => absurd he List.not_mem_nil
  | cons e rest ih =>
    obtain ⟨trx, k⟩ := e
    have hrest := ih fun e he => hrange e (List.mem_cons_of_mem _ he)
    rw [tsAllocLoop] at h
    by_cases husable : trxIsUsable bts trx = true
    · have hk : tsRange (k == 0) pchan = some (1, 7) := hrange _ List.mem_cons_self husable
      simp only [husable, hk, Bool.not_true, Bool.false_eq_true, if_false] at h
      cases hfind : findUnassigned bts trx (1, 7) with
      | some j' => simp [hfind] at h
      | none =>
        simp only [hfind] at h
        rintro e (_ | ⟨_, hmem⟩) hok j hj hts
        · exact findUnassigned_none hfind j hj (Nat.le_of_lt_succ j.isLt) hts
        · exact hrest h e hmem hok j hj hts
    · rw [if_pos (by simpa using husable)] at h
      rintro e (_ | ⟨_, hmem⟩) hok j hj hts
      · exact absurd hok husable
      · exact hrest h e hmem hok j hj hts

/-- **What `_lc_find_bts` can do.** It finds a free channel of a timeslot that is there; or it takes a timeslot
    without a combination, in which there was none; or there is neither. -/
inductive LcFound (bts : GsmBts) (pchan : PhysChanConfig) : GsmBts × Option LchanRef × List ChanAllocOut → Prop where
  | found {ref : LchanRef} {trx : GsmBtsTrx} (h : FreeAt bts pchan ref.trx trx ref.ts ref.ss) :
      LcFound bts pchan (bts, some ref, [])
  | taken {i : Nat} {j : Fin 8} {trx : GsmBtsTrx} (h : UnassignedAt bts pchan i trx j) :
      LcFound bts pchan
        (bts.modifyTs i j fun ts => { ts with pchan := pchan }, some ⟨i, j, 0⟩, [.setChannelAttr i j pchan])
  | exhausted (hfree : ∀ i trx j ss, ¬ FreeAt bts pchan i trx j ss)
      (hloop : pchan ≠ .ccchSdcch4 → tsAllocLoop bts pchan bts.trxList.zipIdx = none) :
      LcFound bts pchan (bts, none, [])

theorem mem_zipIdx {l : List GsmBtsTrx} {e : GsmBtsTrx × Nat} (h : e ∈ l.zipIdx) : l[e.2]? = some e.1 :=
  List.mem_zipIdx_iff_getElem?.mp h

theorem lcFindBts_cases (bts : GsmBts) (pchan : PhysChanConfig) : LcFound bts pchan (lcFindBts bts pchan) := by
  unfold lcFindBts
  cases hsearch : bts.searchOrder.findSome? fun e => (lcFindTrx bts e.1 pchan).map fun found =>
      LchanRef.mk e.2 found.1 found.2 with
  | some ref =>
    obtain ⟨trx, hfree⟩ := findSome_searchOrder_some hsearch
    exact .found hfree
  | none =>
    have hfree := findSome_searchOrder_none hsearch
    simp only
    by_cases hpchan : pchan = .ccchSdcch4
    · rw [if_pos hpchan]
      exact .exhausted hfree fun hne => absurd hpchan hne
    · rw [if_neg hpchan]
      cases hloop : tsAllocLoop bts pchan bts.trxList.zipIdx with
      | none => exact .exhausted hfree fun _ => hloop
      | some found =>
        obtain ⟨i, j⟩ := found
        obtain ⟨trx, hunassigned⟩ := tsAllocLoop_some (fun e he => mem_zipIdx he) hloop
        exact .taken hunassigned

/-! ## Allocation -/

/-- The timeslot `ts` after its channel `ss` was allocated, under the combination `pchan`. -/
def GsmBtsTrxTs.allocated (ts : GsmBtsTrxTs) (pchan : PhysChanConfig) (ss : Fin 8) (type : GsmChan) : GsmBtsTrxTs :=
  { ts.modifyLchan ss (GsmLchan.allocate type) with pchan := pchan }

/-- **What an allocation is.** The channel was free, on a timeslot in service; its type may serve the request, and
    the combination of the timeslot, which is the old one unless there was none, carries it under this sub-slot. All
    that changes is this channel and the combination. -/
structure Allocated (bts bts' : GsmBts) (type : GsmChan) (allowBigger : Bool) (ref : LchanRef) (trx : GsmBtsTrx)
    (pchan : PhysChanConfig) (served : GsmChan) : Prop where
  inService : InService bts ref.trx trx ref.ts
  wasFree : ((trx.ts.get ref.ts).lchan.get ref.ss).isFree = true
  serves : served ∈ mayServe type allowBigger
  combination : pchan = (trx.ts.get ref.ts).pchan ∨ (trx.ts.get ref.ts).pchan = .none
  carries : carries ((trx.ts.get ref.ts).allocated pchan ref.ss served) served = true
  subslot : ref.ss.val < subslotsPerPchan pchan
  changed : bts' = bts.modifyTs ref.trx ref.ts fun ts => ts.allocated pchan ref.ss served

/-- **What is exhausted for a type when there is no channel.** No timeslot in service that carries the type has a
    free channel. For traffic channels the last seven timeslots of every transceiver have a combination, and for
    SDCCHs those of the secondary transceivers when the first one is out of service. -/
structure Exhausted (bts : GsmBts) (type : GsmChan) : Prop where
  noFree : ∀ i trx (j ss : Fin 8), InService bts i trx j → carries (trx.ts.get j) type = true →
    ss.val < subslotsPerPchan (trx.ts.get j).pchan → ((trx.ts.get j).lchan.get ss).isFree = false
  noUnassigned : type = .tchF ∨ type = .tchH →
    ∀ i trx (j : Fin 8), InService bts i trx j → 1 ≤ j.val → (trx.ts.get j).pchan ≠ .none
  noUnassignedSdcch : type = .sdcch → (∀ c0, bts.trxList[0]? = some c0 → trxIsUsable bts c0 = false) →
    ∀ i trx (j : Fin 8), InService bts i trx j → 1 ≤ j.val → (trx.ts.get j).pchan ≠ .none

/-! ### Changes of one timeslot -/

theorem modifyTs_congr {f g : GsmBtsTrxTs → GsmBtsTrxTs} (hi : bts.trxList[i]? = some trx)
    (hfg : f (trx.ts.get j) = g (trx.ts.get j)) : bts.modifyTs i j f = bts.modifyTs i j g := by
  unfold GsmBts.modifyTs
  congr 1
  refine List.ext_getElem? fun k => ?_
  rw [List.getElem?_modify, List.getElem?_modify]
  by_cases hik : i = k
  · subst hik
    simp only [hi, if_true]
    show some { trx with ts := trx.ts.set j.val (f (trx.ts.get j)) j.isLt } =
      some { trx with ts := trx.ts.set j.val (g (trx.ts.get j)) j.isLt }
    rw [hfg]
  · simp only [hik, if_false]

theorem vector_get {α : Type} {n : Nat} (v : Vector α n) (j : Fin n) : v.get j = getElem v j.val j.isLt := rfl

theorem modifyTs_modifyTs (bts : GsmBts) (i : Nat) (j : Fin 8) (f g : GsmBtsTrxTs → GsmBtsTrxTs) :
    (bts.modifyTs i j f).modifyTs i j g = bts.modifyTs i j fun ts => g (f ts) := by
  unfold GsmBts.modifyTs
  simp only [List.modify_modify_eq]
  congr 2
  funext trx
  simp [vector_get]

/-! ### Searches one after another -/

/-- The type of the channels `lchan_alloc` looks for under a combination. -/
def chanOf : PhysChanConfig → GsmChan
  | .ccchSdcch4 | .sdcch8Sacch8c => .sdcch
  | .tchF => .tchF
  | .tchH => .tchH
  | _ => .unknown

/-- The combinations under which there may be a channel of a type. -/
def combinationsOf : GsmChan → List PhysChanConfig
  | .sdcch => [.ccchSdcch4, .sdcch8Sacch8c]
  | .tchF => [.tchF]
  | .tchH => [.tchH]
  | _ => []

theorem carries_of_considers {ts : GsmBtsTrxTs} {type : GsmChan} (h : considers ts pchan = true)
    (htype : chanOf pchan = type) (hknown : type ≠ .unknown) :
    carries ts type = true ∧ subslotsPerPchan ts.pchan = subslotsPerPchan pchan := by
  subst htype
  unfold considers at h
  split at h
  · rename_i hdynamic
    obtain ⟨hts, rfl⟩ := hdynamic
    simp only [carries, hts, chanOf]
    exact ⟨h, rfl⟩
  · have hts : ts.pchan = pchan := beq_iff_eq.mp h
    rw [hts]
    refine ⟨?_, rfl⟩
    unfold carries
    rw [hts]
    cases pchan with
    | ccchSdcch4 | sdcch8Sacch8c | tchF | tchH => rfl
    | _ => exact absurd rfl hknown

/-- A timeslot that carries a type is considered under some combination of that type. -/
theorem considers_of_carries {ts : GsmBtsTrxTs} {type : GsmChan} (h : carries ts type = true) :
    ∃ pchan, pchan ∈ combinationsOf type ∧ considers ts pchan = true ∧
      subslotsPerPchan ts.pchan = subslotsPerPchan pchan := by
  unfold carries at h
  unfold considers
  split at h
  · rename_i hts
    exact ⟨.ccchSdcch4, by decide, by simp [hts], by rw [hts]⟩
  · rename_i hts
    exact ⟨.sdcch8Sacch8c, by decide, by simp [hts], by rw [hts]⟩
  · rename_i hts
    exact ⟨.tchF, by decide, by simp [hts], by rw [hts]⟩
  · rename_i hts
    exact ⟨.tchH, by decide, by simp [hts], by rw [hts]⟩
  · rename_i hts
    refine ⟨.tchF, by decide, ?_, ?_⟩
    · rw [if_pos ⟨hts, rfl⟩]
      exact h
    · rw [hts]
      rfl
  · cases h

/-- There is no channel under a combination. -/
structure NotFound (bts : GsmBts) (pchan : PhysChanConfig) : Prop where
  free : ∀ i trx j ss, ¬ FreeAt bts pchan i trx j ss
  loop : pchan ≠ .ccchSdcch4 → tsAllocLoop bts pchan bts.trxList.zipIdx = none

/-- **What a search has come to.** The channel found will be an allocation; or nothing was found under the combinations
    tried so far, and nothing has changed. -/
inductive Outcome (bts : GsmBts) (type : GsmChan) (allowBigger : Bool) (tried : List PhysChanConfig) (s : Search) :
    Prop where
  | found {ref : LchanRef} {trx : GsmBtsTrx} {pchan : PhysChanConfig} (hlchan : s.lchan = some ref)
      (halloc : Allocated bts (s.bts.modifyLchan ref (GsmLchan.allocate s.type)) type allowBigger ref trx pchan s.type)
  | nothing (hlchan : s.lchan = none) (hbts : s.bts = bts) (hnone : ∀ pchan ∈ tried, NotFound bts pchan)

variable {type served : GsmChan} {allowBigger : Bool} {tried : List PhysChanConfig} {s : Search}

theorem allocated_of_free {ref : LchanRef} (h : FreeAt bts pchan ref.trx trx ref.ts ref.ss)
    (hserves : served ∈ mayServe type allowBigger) (hpchan : chanOf pchan = served) (hknown : served ≠ .unknown) :
    Allocated bts (bts.modifyLchan ref (GsmLchan.allocate served)) type allowBigger ref trx (trx.ts.get ref.ts).pchan
      served := by
  obtain ⟨hcarries, hslots⟩ := carries_of_considers h.considered hpchan hknown
  refine ⟨h.inService, h.free, hserves, .inl rfl, hcarries, ?_, ?_⟩
  · rw [hslots]
    exact h.subslot
  · exact modifyTs_congr h.inService.get rfl

/-- A timeslot that gets its combination has a free channel under it. -/
theorem allocated_of_unassigned (hunused : NoneUnused bts) (h : UnassignedAt bts pchan i trx j)
    (hserves : served ∈ mayServe type allowBigger) (hpchan : chanOf pchan = served) (hknown : served ≠ .unknown) :
    Allocated bts
      ((bts.modifyTs i j fun ts => { ts with pchan := pchan }).modifyLchan ⟨i, j, 0⟩ (GsmLchan.allocate served))
      type allowBigger ⟨i, j, 0⟩ trx pchan served := by
  have hcarries : carries ((trx.ts.get j).allocated pchan 0 served) served = true ∧ 0 < subslotsPerPchan pchan := by
    subst hpchan
    cases pchan with
    | ccchSdcch4 | sdcch8Sacch8c | tchF | tchH => exact ⟨rfl, by decide⟩
    | _ => exact absurd rfl hknown
  refine ⟨h.inService, ?_, hserves, .inr h.unassigned, hcarries.1, hcarries.2, ?_⟩
  · exact hunused i trx j 0 h.inService.get h.unassigned
  · exact modifyTs_modifyTs bts i j _ _

theorem Outcome.orFind (hunused : NoneUnused bts) (h : Outcome bts type allowBigger tried s)
    (hserves : served ∈ mayServe type allowBigger) (hpchan : chanOf pchan = served) (hknown : served ≠ .unknown) :
    Outcome bts type allowBigger (pchan :: tried) (s.orFind pchan served) := by
  cases h with
  | found hlchan halloc =>
    have hsame : s.orFind pchan served = s := by
      unfold Search.orFind
      rw [hlchan]
    rw [hsame]
    exact .found hlchan halloc
  | nothing hlchan hbts hnone =>
    have hcases := lcFindBts_cases bts pchan
    unfold Search.orFind
    rw [hlchan, hbts]
    simp only
    generalize lcFindBts bts pchan = found at hcases
    cases hcases with
    | found hfree => exact .found rfl (allocated_of_free hfree hserves hpchan hknown)
    | taken hunassigned => exact .found rfl (allocated_of_unassigned hunused hunassigned hserves hpchan hknown)
    | exhausted hfree hloop =>
      refine .nothing rfl rfl ?_
      rintro q (_ | ⟨_, hq⟩)
      · exact ⟨hfree, hloop⟩
      · exact hnone q hq

/-- **The search tries every combination of every type that may serve.** -/
theorem lchanSearch_outcome (hunused : NoneUnused bts) (type : GsmChan) (allowBigger : Bool) :
    ∃ tried, Outcome bts type allowBigger tried (lchanSearch bts type allowBigger) ∧
      ∀ served ∈ mayServe type allowBigger, ∀ pchan ∈ combinationsOf served, pchan ∈ tried := by
  have hstart : Outcome bts type allowBigger [] { bts := bts, type := type } :=
    .nothing rfl rfl fun _ h => absurd h List.not_mem_nil
  cases type with
  | sdcch =>
    have hsdcch : GsmChan.sdcch ∈ mayServe .sdcch allowBigger := by cases allowBigger <;> decide
    have hsmall := fun first second (hfirst : chanOf first = .sdcch) (hsecond : chanOf second = .sdcch) =>
      (hstart.orFind hunused hsdcch hfirst (by decide)).orFind hunused hsdcch hsecond (by decide)
    unfold lchanSearch
    simp only
    cases hreverse : bts.chanAllocReverse with
    | true =>
      have hsmall := hsmall .sdcch8Sacch8c .ccchSdcch4 rfl rfl
      cases allowBigger with
      | true =>
        refine ⟨_, (hsmall.orFind hunused (by decide) rfl (by decide)).orFind hunused (by decide) rfl (by decide), ?_⟩
        decide
      | false => exact ⟨_, hsmall, by decide⟩
    | false =>
      have hsmall := hsmall .ccchSdcch4 .sdcch8Sacch8c rfl rfl
      cases allowBigger with
      | true =>
        refine ⟨_, (hsmall.orFind hunused (by decide) rfl (by decide)).orFind hunused (by decide) rfl (by decide), ?_⟩
        decide
      | false => exact ⟨_, hsmall, by decide⟩
  | tchF =>
    have hfull : GsmChan.tchF ∈ mayServe .tchF allowBigger := List.mem_cons_self
    exact ⟨_, hstart.orFind hunused hfull rfl (by decide), by simp [mayServe, combinationsOf]⟩
  | tchH =>
    have hhalf : GsmChan.tchH ∈ mayServe .tchH allowBigger := List.mem_cons_self
    have hfull : GsmChan.tchF ∈ mayServe .tchH allowBigger := List.mem_cons_of_mem _ List.mem_cons_self
    have hfirst : Outcome bts .tchH allowBigger [.tchH] _ := hstart.orFind hunused hhalf rfl (by decide)
    exact ⟨_, hfirst.orFind hunused hfull rfl (by decide), by simp [mayServe, combinationsOf]⟩
  | none | unknown => exact ⟨[], hstart, by simp [mayServe]⟩

/-- Every channel that a timeslot in service carries is free under some combination of its type. -/
theorem noFree_of_notFound (h : ∀ pchan ∈ combinationsOf type, NotFound bts pchan) (i : Nat) (trx : GsmBtsTrx)
    (j ss : Fin 8) (hin : InService bts i trx j) (hcarries : carries (trx.ts.get j) type = true)
    (hsub : ss.val < subslotsPerPchan (trx.ts.get j).pchan) : ((trx.ts.get j).lchan.get ss).isFree = false := by
  obtain ⟨pchan, htried, hconsiders, hslots⟩ := considers_of_carries hcarries
  by_contra hfree
  rw [Bool.not_eq_false] at hfree
  rw [hslots] at hsub
  exact (h pchan htried).free i trx j ss ⟨hin, hconsiders, hsub, hfree⟩

theorem exhausted_of_notFound (h : ∀ pchan ∈ combinationsOf type, NotFound bts pchan) : Exhausted bts type where
  noFree := noFree_of_notFound h
  noUnassigned := by
    intro htraffic i trx j hin hj
    have hmem : (trx, i) ∈ bts.trxList.zipIdx := List.mem_zipIdx_iff_getElem?.mpr hin.get
    obtain rfl | rfl := htraffic
    · have hloop := (h .tchF (by decide)).loop (by decide)
      refine tsAllocLoop_none (fun e _ _ => ?_) hloop _ hmem hin.trxUsable j hj hin.tsUsable
      cases e.2 == 0 <;> rfl
    · have hloop := (h .tchH (by decide)).loop (by decide)
      refine tsAllocLoop_none (fun e _ _ => ?_) hloop _ hmem hin.trxUsable j hj hin.tsUsable
      cases e.2 == 0 <;> rfl
  noUnassignedSdcch := by
    rintro rfl hc0 i trx j hin hj
    have hmem : (trx, i) ∈ bts.trxList.zipIdx := List.mem_zipIdx_iff_getElem?.mpr hin.get
    have hloop := (h .sdcch8Sacch8c (by decide)).loop (by decide)
    refine tsAllocLoop_none (fun e he husable => ?_) hloop _ hmem hin.trxUsable j hj hin.tsUsable
    -- the loop passes over the first transceiver, which is out of service
    have hsecondary : (e.2 == 0) = false := by
      by_contra hfirst
      rw [Bool.not_eq_false, beq_iff_eq] at hfirst
      have hget : bts.trxList[e.2]? = some e.1 := mem_zipIdx he
      rw [hfirst] at hget
      rw [hc0 e.1 hget] at husable
      cases husable
    rw [hsecondary]
    rfl

/-- **What `lchan_alloc` returns.** A channel it returns is an allocation; where it returns none it changes nothing, and
    every type that may serve is exhausted. -/
theorem lchanAlloc_spec (bts : GsmBts) (type : GsmChan) (allowBigger : Bool) (hunused : NoneUnused bts) :
    (∀ ref, (lchanAlloc bts type allowBigger).lchan = some ref →
      ∃ trx pchan, Allocated bts (lchanAlloc bts type allowBigger).bts type allowBigger ref trx pchan
        (lchanAlloc bts type allowBigger).type) ∧
    ((lchanAlloc bts type allowBigger).lchan = none →
      (lchanAlloc bts type allowBigger).bts = bts ∧ ∀ served ∈ mayServe type allowBigger, Exhausted bts served) := by
  obtain ⟨tried, houtcome, htried⟩ := lchanSearch_outcome hunused type allowBigger
  unfold lchanAlloc
  generalize lchanSearch bts type allowBigger = s at houtcome
  cases houtcome with
  | found hlchan halloc =>
    simp only [hlchan]
    refine ⟨?_, fun h => by cases h⟩
    rintro ref ⟨⟩
    exact ⟨_, _, halloc⟩
  | nothing hlchan hbts hnone =>
    simp only [hlchan]
    refine ⟨?_, fun _ => ⟨hbts, fun served hserved => ?_⟩⟩
    · rintro ref ⟨⟩
    · exact exhausted_of_notFound fun pchan hpchan => hnone pchan (htried served hserved pchan hpchan)

/-- A transceiver whose channels are all unused, with these combinations. -/
def idleTrx (pchans : Vector PhysChanConfig 8) : GsmBtsTrx where
  nmState := ⟨.enabled, .ok⟩
  bbTransc := ⟨.enabled, .ok⟩
  ts := pchans.map fun pchan => { pchan := pchan, nmState := ⟨.enabled, .ok⟩, lchan := Vector.replicate 8 {} }

theorem idleTrx_free (pchans : Vector PhysChanConfig 8) (j ss : Fin 8) :
    (((idleTrx pchans).ts.get j).lchan.get ss).isFree = true := by
  simp [vector_get, idleTrx, GsmLchan.isFree]

theorem noneUnused_of_idle (hidle : ∀ trx ∈ bts.trxList, ∃ pchans, trx = idleTrx pchans) : NoneUnused bts := by
  intro i trx j ss hi _
  obtain ⟨pchans, rfl⟩ := hidle trx (List.mem_of_getElem? hi)
  exact idleTrx_free pchans j ss

/-- A BTS with a control channel and one traffic channel. -/
def smallBts : GsmBts where
  type := .sysmobts
  trxList := [idleTrx #v[.ccchSdcch4, .tchF, .none, .none, .none, .none, .none, .none]]

theorem lchanAlloc_spec_smallBts :
    ∃ trx pchan, Allocated smallBts (lchanAlloc smallBts .tchF false).bts .tchF false ⟨0, 1, 0⟩ trx pchan
      (lchanAlloc smallBts .tchF false).type :=
  (lchanAlloc_spec smallBts .tchF false
    (noneUnused_of_idle fun trx h => by
      rw [List.mem_singleton.mp h]
      exact ⟨_, rfl⟩)).1 ⟨0, 1, 0⟩ (by decide +kernel)

/-- The only timeslot without a combination is the first one of the second transceiver. -/
def policyBts : GsmBts where
  type := .sysmobts
  trxList :=
    [idleTrx (Vector.replicate 8 .ccchSdcch4), idleTrx #v[.none, .pdch, .pdch, .pdch, .pdch, .pdch, .pdch, .pdch]]

/-- The policy of `ts_alloc` keeps a timeslot in service from being used, which could be a traffic channel. -/
theorem lchanAlloc_overlooks_unassigned :
    ∃ bts : GsmBts, NoneUnused bts ∧ (lchanAlloc bts .tchF false).lchan = none ∧
      ∃ i trx, ∃ j : Fin 8, InService bts i trx j ∧ (trx.ts.get j).pchan = .none := by
  refine ⟨policyBts, noneUnused_of_idle fun trx h => ?_, by decide +kernel, 1, _, 0, ⟨rfl, rfl, rfl⟩, by decide +kernel⟩
  obtain rfl | h := List.mem_cons.mp h
  · exact ⟨_, rfl⟩
  · rw [List.mem_singleton.mp h]
    exact ⟨_, rfl⟩

end OpenBsc.Libbsc
