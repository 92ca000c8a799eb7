import OpenBsc.Lib.Ring
import OpenBsc.Lib.Transition
import OpenBsc.Libbsc.ChanAlloc
import OpenBsc.Libbsc.MeasRep

/-!
# `Libbsc.NeighMeas` — how well a phone receives the neighbour cells (`handover_decision.c`)

A channel tracks up to ten neighbour cells. Each has a ring with its levels in the last ten reports; a report that does
not name the neighbour counts as level 0. A cell that is not tracked yet gets a slot, that of the worst neighbour if
none is empty. Neither a change of the neighbour nor `lchan_free` clears the ring of a slot.

Of a handover, only what it is decided by is here: the averages.
-/

namespace OpenBsc.Libbsc

open Transition Ring

/-! ## The table -/

/-- `struct neigh_meas_proc`: a slot. An empty one has `arfcn` 0. -/
structure NeighMeasProc where
  arfcn : Nat := 0
  bsic : Nat := 0
  rxlev : Vector Nat 10 := .replicate 10 0
  rxlevCnt : Nat := 0
  lastSeenNr : Nat := 0

/-- `calc_initial_idx`. -/
def calcInitialIdx (arraySize measRepIdx numValues : Nat) : Nat :=
  let offs : Int := (measRepIdx : Int) - numValues
  (if offs < 0 then arraySize + offs else offs).toNat

/-- `neigh_meas_avg`. -/
def neighMeasAvg (nmp : NeighMeasProc) (window : Nat) : Nat :=
  let idx := calcInitialIdx 10 (nmp.rxlevCnt % 10) window
  (List.range window).foldl (fun avg i => avg + Ring.cell nmp.rxlev (idx + i)) 0 / window

/-- `rxlev_for_cell_in_rep`; `none` is `-ENODEV`. -/
def rxlevForCellInRep (mr : GsmMeasRep) (arfcn bsic : Nat) : Option Nat × GsmMeasRep :=
  match (List.finRange 6).find? fun i =>
      decide (i.val < mr.numCell ∧ (mr.cell.get i).arfcn = arfcn ∧ (mr.cell.get i).bsic = bsic) with
  | some i => (some (mr.cell.get i).rxlev, mr.setProcessed i)
  | none => (none, mr)

/-- A level is written into the ring. -/
def NeighMeasProc.put (nmp : NeighMeasProc) (rxlev : Nat) : NeighMeasProc :=
  { nmp with
    rxlev := Ring.write nmp.rxlev nmp.rxlevCnt rxlev
    rxlevCnt := (nmp.rxlevCnt + 1) % 2 ^ 32 }

/-- `find_evict_neigh`. -/
def findEvictNeigh (neighMeas : Vector NeighMeasProc 10) : Fin 10 :=
  match (List.finRange 10).find? fun j => decide (neighMeas[j].arfcn = 0) with
  | some j => j
  | none =>
    let nmpWorst := (List.finRange 10).foldl (fun (nmpWorst, worst) j =>
      let avg := neighMeasAvg neighMeas[j] 10
      if nmpWorst = none ∨ avg < worst then (some j, avg) else (nmpWorst, worst)) (none, 999999)
    nmpWorst.1.getD 0

/-- `process_meas_neigh`, the first loop: the slot `j`. -/
def updateNeigh (found : Vector NeighMeasProc 10 × GsmMeasRep) (j : Fin 10) : Vector NeighMeasProc 10 × GsmMeasRep :=
  let nmp := found.1[j]
  if nmp.arfcn = 0 then found
  else
    let (rxlev, mr) := rxlevForCellInRep found.2 nmp.arfcn nmp.bsic
    match rxlev with
    | some rxlev => (found.1.set j { nmp.put rxlev with lastSeenNr := mr.nr }, mr)
    | none => (found.1.set j (nmp.put 0), mr)

/-- A slot is given to a cell of the report. -/
def NeighMeasProc.giveTo (nmp : NeighMeasProc) (mrc : GsmMeasRepCell) (nr : Nat) : NeighMeasProc :=
  { { nmp with arfcn := mrc.arfcn, bsic := mrc.bsic }.put mrc.rxlev with lastSeenNr := nr }

/-- `process_meas_neigh`, the second loop: the cell `i` of the report. Last comes which slots were given away. -/
def admitCell (found : Vector NeighMeasProc 10 × GsmMeasRep × List (Fin 10)) (i : Fin 6) :
    Vector NeighMeasProc 10 × GsmMeasRep × List (Fin 10) :=
  let (neighMeas, mr, given) := found
  let mrc := mr.cell.get i
  if mrc.processed then found
  else
    let j := findEvictNeigh neighMeas
    (neighMeas.set j (neighMeas[j].giveTo mrc mr.nr), mr.setProcessed i, given ++ [j])

/-- `process_meas_neigh`. -/
def processMeasNeigh (neighMeas : Vector NeighMeasProc 10) (mr : GsmMeasRep) :
    Vector NeighMeasProc 10 × GsmMeasRep × List (Fin 10) :=
  let (neighMeas, mr) := (List.finRange 10).foldl updateNeigh (neighMeas, mr)
  ((List.finRange 6).take mr.numCell).foldl admitCell (neighMeas, mr, [])

/-! ## The channel -/

/-- What the code does not keep of a slot: how many levels of its neighbour were written into the ring since the
    neighbour got the slot, and how many levels before. -/
structure Tenure where
  held : Nat := 0
  before : Nat := 0

/-- Another level of the same neighbour. -/
def Tenure.goOn (t : Tenure) : Tenure := { t with held := t.held + 1 }

/-- The first level of another neighbour. -/
def Tenure.change (t : Tenure) : Tenure where
  held := 1
  before := t.before + t.held

/-- The slot is empty. -/
def Tenure.stop (t : Tenure) : Tenure where
  held := 0
  before := t.before + t.held

/-- Slots are given away, one after the other. -/
def changeTenures (tenure : Vector Tenure 10) (given : List (Fin 10)) : Vector Tenure 10 :=
  given.foldl (fun tenure (j : Fin 10) => tenure.set j tenure[j].change) tenure

/-- `struct gsm_lchan`. The code does not keep `log`, the reports with neighbours since the activation, the last one
    first, nor `tenure`. -/
structure NeighChan where
  type : GsmChan := .none
  neighMeas : Vector NeighMeasProc 10 := .replicate 10 {}
  log : List GsmMeasRep := []
  tenure : Vector Tenure 10 := .replicate 10 {}

/-- `process_meas_rep`, up to the averages. -/
def processMeasRep (ch : NeighChan) (mr : GsmMeasRep) : NeighChan :=
  if (ch.type = .tchF ∨ ch.type = .tchH) ∧ 0 < mr.numCell ∧ mr.numCell < 7 then
    let (neighMeas, _, given) := processMeasNeigh ch.neighMeas mr
    { ch with
      neighMeas := neighMeas
      log := mr :: ch.log
      tenure := changeTenures
        (.ofFn fun j => if ch.neighMeas[j].arfcn = 0 then ch.tenure[j] else ch.tenure[j].goOn) given }
  else ch

/-- `lchan_free`. -/
def lchanFreeNeigh (ch : NeighChan) : NeighChan where
  type := .none
  neighMeas := ch.neighMeas.map fun nmp => { nmp with arfcn := 0 }
  log := []
  tenure := ch.tenure.map Tenure.stop

/-- What happens to a channel. -/
inductive NeighEvent where
  | alloc (type : GsmChan)
  | measRep (mr : GsmMeasRep)
  | free

/-- A channel that is in use is not allocated again. -/
def neighStep (ch : NeighChan) : NeighEvent → NeighChan
  | .alloc type => if ch.type = .none then { ch with type := type } else ch
  | .measRep mr => processMeasRep ch mr
  | .free => lchanFreeNeigh ch

/-- All runs of a channel, from its creation on. -/
def neighSystem : System NeighChan NeighEvent where
  init ch := ch = {}
  step ch ev ch' := ch' = neighStep ch ev

/-! ## One report -/

/-- The level of a neighbour in a report: one that the report has of it, or 0 if it has none. -/
def LevelIn (mr : GsmMeasRep) (arfcn bsic rxlev : Nat) : Prop :=
  (∃ i : Fin 6, i.val < mr.numCell ∧ (mr.cell.get i).arfcn = arfcn ∧ (mr.cell.get i).bsic = bsic ∧
      (mr.cell.get i).rxlev = rxlev) ∨
    (∀ i : Fin 6, i.val < mr.numCell → ¬ ((mr.cell.get i).arfcn = arfcn ∧ (mr.cell.get i).bsic = bsic)) ∧ rxlev = 0

/-- The reports differ in the flags of the cells at most. -/
structure SameCells (mr mr' : GsmMeasRep) : Prop where
  numCell : mr'.numCell = mr.numCell
  cell : ∀ i : Fin 6, (mr'.cell.get i).arfcn = (mr.cell.get i).arfcn ∧ (mr'.cell.get i).bsic = (mr.cell.get i).bsic ∧
    (mr'.cell.get i).rxlev = (mr.cell.get i).rxlev

theorem SameCells.refl (mr : GsmMeasRep) : SameCells mr mr := ⟨rfl, fun _ => ⟨rfl, rfl, rfl⟩⟩

theorem SameCells.setProcessed {mr mr' : GsmMeasRep} (h : SameCells mr mr') (i : Fin 6) :
    SameCells mr (mr'.setProcessed i) := by
  refine ⟨h.numCell, fun k => ?_⟩
  have hcell : (mr'.setProcessed i).cell.get k =
      if i.val = k.val then { mr'.cell.get i with processed := true } else mr'.cell.get k :=
    Vector.getElem_set i.isLt k.isLt
  rw [hcell]
  by_cases hik : i = k
  · subst hik
    rw [if_pos rfl]
    exact h.cell i
  · rw [if_neg (Fin.val_ne_of_ne hik)]
    exact h.cell k

/-- The level that is found is one of the neighbour, and without one it counts as 0. -/
theorem rxlevForCellInRep_spec {mr mr' : GsmMeasRep} (h : SameCells mr mr') (arfcn bsic : Nat) :
    LevelIn mr arfcn bsic ((rxlevForCellInRep mr' arfcn bsic).1.getD 0) ∧
      SameCells mr (rxlevForCellInRep mr' arfcn bsic).2 := by
  unfold rxlevForCellInRep
  cases hfind : (List.finRange 6).find? fun i =>
      decide (i.val < mr'.numCell ∧ (mr'.cell.get i).arfcn = arfcn ∧ (mr'.cell.get i).bsic = bsic) with
  | some i =>
    have hfound := List.find?_some hfind
    obtain ⟨hlt, harfcn, hbsic⟩ := of_decide_eq_true hfound
    obtain ⟨hcArfcn, hcBsic, hcRxlev⟩ := h.cell i
    exact ⟨.inl ⟨i, h.numCell ▸ hlt, hcArfcn ▸ harfcn, hcBsic ▸ hbsic, hcRxlev.symm⟩, h.setProcessed i⟩
  | none =>
    refine ⟨.inr ⟨fun i hlt hmatch => ?_, rfl⟩, h⟩
    have hnot := List.find?_eq_none.mp hfind i (List.mem_finRange i)
    obtain ⟨hcArfcn, hcBsic, _⟩ := h.cell i
    exact hnot (decide_eq_true ⟨h.numCell.symm ▸ hlt, hcArfcn ▸ hmatch.1, hcBsic ▸ hmatch.2⟩)

/-- A slot in use gets the level of its neighbour, whatever it notes besides. -/
def Updated (mr : GsmMeasRep) (nmp nmp' : NeighMeasProc) : Prop :=
  if nmp.arfcn = 0 then nmp' = nmp
  else ∃ rxlev nr, LevelIn mr nmp.arfcn nmp.bsic rxlev ∧ nmp' = { nmp.put rxlev with lastSeenNr := nr }

/-- One round of the first loop. -/
theorem updateNeigh_spec {mr : GsmMeasRep} {found : Vector NeighMeasProc 10 × GsmMeasRep} (h : SameCells mr found.2)
    (j : Fin 10) : SameCells mr (updateNeigh found j).2 ∧ Updated mr found.1[j] (updateNeigh found j).1[j] ∧
      ∀ k ≠ j, (updateNeigh found j).1[k] = found.1[k] := by
  obtain ⟨hlevel, hsame⟩ := rxlevForCellInRep_spec h found.1[j].arfcn found.1[j].bsic
  have hset : ∀ nmp, (found.1.set j nmp)[j] = nmp ∧ ∀ k ≠ j, (found.1.set j nmp)[k] = found.1[k] := by
    intro nmp
    refine ⟨by simp, fun k hk => ?_⟩
    simp only [Fin.getElem_fin]
    exact Vector.getElem_set_ne _ _ fun h => hk (Fin.ext h).symm
  unfold updateNeigh Updated
  by_cases hempty : found.1[j].arfcn = 0
  · rw [if_pos hempty, if_pos hempty]
    exact ⟨h, rfl, fun _ _ => rfl⟩
  · rw [if_neg hempty, if_neg hempty]
    generalize rxlevForCellInRep found.2 found.1[j].arfcn found.1[j].bsic = out at hlevel hsame
    obtain ⟨rxlev, mr'⟩ := out
    cases rxlev with
    | some rxlev => exact ⟨hsame, ⟨rxlev, mr'.nr, hlevel, (hset _).1⟩, (hset _).2⟩
    | none => exact ⟨hsame, ⟨0, found.1[j].lastSeenNr, hlevel, (hset _).1⟩, (hset _).2⟩

/-- **The first loop: each slot in use gets the level of its neighbour in the report.** -/
theorem updateNeighs_spec (mr : GsmMeasRep) (l : List (Fin 10)) (hl : l.Nodup)
    (found : Vector NeighMeasProc 10 × GsmMeasRep) (h : SameCells mr found.2) :
    SameCells mr (l.foldl updateNeigh found).2 ∧ (∀ j ∈ l, Updated mr found.1[j] (l.foldl updateNeigh found).1[j]) ∧
      ∀ j ∉ l, (l.foldl updateNeigh found).1[j] = found.1[j] := by
  induction l generalizing found with
  | nil => exact ⟨h, fun _ hj => absurd hj List.not_mem_nil, fun _ _ => rfl⟩
  | cons i l ih =>
    obtain ⟨hi, hl⟩ := List.nodup_cons.mp hl
    obtain ⟨hsame, hthis, hothers⟩ := updateNeigh_spec h i
    obtain ⟨hsame', hin, hout⟩ := ih hl (updateNeigh found i) hsame
    rw [List.foldl_cons]
    refine ⟨hsame', fun j hj => ?_, fun j hj => ?_⟩
    · rcases List.mem_cons.mp hj with rfl | hmem
      · rw [hout j hi]
        exact hthis
      · have hne : j ≠ i := by
          rintro rfl
          exact hi hmem
        have hupd := hin j hmem
        rwa [hothers j hne] at hupd
    · rw [List.mem_cons, not_or] at hj
      rw [hout j hj.2, hothers j hj.1]

/-! ## All reports -/

/-- A slot counts what is written into its ring; the last levels are those of its neighbour in the last reports; and as
    long as it has had one neighbour only, the rest of the ring is zero. -/
structure SlotInv (log : List GsmMeasRep) (nmp : NeighMeasProc) (t : Tenure) : Prop where
  count : nmp.rxlevCnt = (t.before + t.held) % 2 ^ 32
  logged : nmp.arfcn ≠ 0 → t.held ≤ log.length
  levels : nmp.arfcn ≠ 0 → ∀ k mr, k < t.held → k < 10 → k < nmp.rxlevCnt → log[k]? = some mr →
    LevelIn mr nmp.arfcn nmp.bsic (Ring.cell nmp.rxlev (nmp.rxlevCnt + 9 - k))
  unused : t.before = 0 → ∀ p, t.held ≤ p → p < 10 → Ring.cell nmp.rxlev p = 0

variable {log : List GsmMeasRep} {nmp : NeighMeasProc} {t : Tenure} {mr : GsmMeasRep} {rxlev : Nat}

/-- **A level more of the same neighbour.** -/
theorem SlotInv.goOn (h : SlotInv log nmp t) (hused : nmp.arfcn ≠ 0) (hlevel : LevelIn mr nmp.arfcn nmp.bsic rxlev)
    (nr : Nat) : SlotInv (mr :: log) { nmp.put rxlev with lastSeenNr := nr } t.goOn := by
  have hcount := h.count
  refine ⟨?_, fun _ => Nat.succ_le_succ (h.logged hused), fun _ k mr' hk hten hcnt hat => ?_,
    fun hbefore p hp hten => ?_⟩
  · change (nmp.rxlevCnt + 1) % 2 ^ 32 = (t.before + (t.held + 1)) % 2 ^ 32
    omega
  · -- the counter has not just gone round, so the levels before are in the cells before
    change k < (nmp.rxlevCnt + 1) % 2 ^ 32 at hcnt
    have hnext : (nmp.rxlevCnt + 1) % 2 ^ 32 = nmp.rxlevCnt + 1 := by omega
    change LevelIn mr' nmp.arfcn nmp.bsic
      (cell (write nmp.rxlev nmp.rxlevCnt rxlev) ((nmp.rxlevCnt + 1) % 2 ^ 32 + 9 - k))
    rw [hnext, cell_write]
    rw [hnext] at hcnt
    cases k with
    | zero =>
      rw [if_pos (by omega)]
      obtain rfl : mr = mr' := by simpa using hat
      exact hlevel
    | succ k =>
      change k + 1 < t.held + 1 at hk
      rw [if_neg (by omega), show nmp.rxlevCnt + 1 + 9 - (k + 1) = nmp.rxlevCnt + 9 - k by omega]
      exact h.levels hused k mr' (by omega) (by omega) (by omega) (by simpa using hat)
  · change t.before = 0 at hbefore
    change t.held + 1 ≤ p at hp
    change cell (write nmp.rxlev nmp.rxlevCnt rxlev) p = 0
    rw [cell_write, if_neg (by omega)]
    exact h.unused hbefore p (by omega) hten

/-- **The first level of another neighbour.** -/
theorem SlotInv.change {log' : List GsmMeasRep} (h : SlotInv log' nmp t) {mrc : GsmMeasRepCell}
    (hlevel : LevelIn mr mrc.arfcn mrc.bsic mrc.rxlev) (nr : Nat) :
    SlotInv (mr :: log) (nmp.giveTo mrc nr) t.change := by
  have hcount := h.count
  refine ⟨?_, fun _ => Nat.succ_le_succ (Nat.zero_le _), fun _ k mr' hk hten hcnt hat => ?_,
    fun hbefore p hp hten => ?_⟩
  · change (nmp.rxlevCnt + 1) % 2 ^ 32 = (t.before + t.held + 1) % 2 ^ 32
    omega
  · obtain rfl : k = 0 := Nat.lt_one_iff.mp hk
    change 0 < (nmp.rxlevCnt + 1) % 2 ^ 32 at hcnt
    obtain rfl : mr = mr' := by simpa using hat
    change LevelIn mr mrc.arfcn mrc.bsic
      (cell (write nmp.rxlev nmp.rxlevCnt mrc.rxlev) ((nmp.rxlevCnt + 1) % 2 ^ 32 + 9 - 0))
    rw [cell_write, if_pos (by omega)]
    exact hlevel
  · change t.before + t.held = 0 at hbefore
    change 1 ≤ p at hp
    change cell (write nmp.rxlev nmp.rxlevCnt mrc.rxlev) p = 0
    rw [cell_write, if_neg (by omega)]
    exact h.unused (by omega) p (by omega) hten

theorem SlotInv.stop (h : SlotInv log nmp t) : SlotInv [] { nmp with arfcn := 0 } t.stop := by
  refine ⟨by rw [h.count]; rfl, fun hne => absurd rfl hne, fun hne => absurd rfl hne, fun hbefore p hp hten => ?_⟩
  change t.before + t.held = 0 at hbefore
  exact h.unused (by omega) p (by omega) hten

theorem SlotInv.skip (h : SlotInv log nmp t) (hempty : nmp.arfcn = 0) : SlotInv (mr :: log) nmp t :=
  ⟨h.count, fun hne => absurd hempty hne, fun hne => absurd hempty hne, h.unused⟩

theorem changeTenures_concat (tenure : Vector Tenure 10) (given : List (Fin 10)) (j : Fin 10) :
    changeTenures tenure (given ++ [j]) =
      (changeTenures tenure given).set j (changeTenures tenure given)[j].change := by
  unfold changeTenures
  rw [List.foldl_append]
  rfl

/-- **The second loop: a slot that is given away has one level of its new neighbour.** -/
theorem admitCells_spec (mr : GsmMeasRep) (log : List GsmMeasRep) (tenure : Vector Tenure 10) (l : List (Fin 6))
    (hl : ∀ i ∈ l, i.val < mr.numCell) (found : Vector NeighMeasProc 10 × GsmMeasRep × List (Fin 10))
    (hsame : SameCells mr found.2.1)
    (hinv : ∀ j : Fin 10, SlotInv (mr :: log) found.1[j] (changeTenures tenure found.2.2)[j]) (j : Fin 10) :
    SlotInv (mr :: log) (l.foldl admitCell found).1[j] (changeTenures tenure (l.foldl admitCell found).2.2)[j] := by
  induction l generalizing found with
  | nil => exact hinv j
  | cons i l ih =>
    obtain ⟨neighMeas, mr', given⟩ := found
    rw [List.foldl_cons]
    by_cases hprocessed : (mr'.cell.get i).processed = true
    · have hstep : admitCell (neighMeas, mr', given) i = (neighMeas, mr', given) := if_pos hprocessed
      rw [hstep]
      exact ih (fun i' hi' => hl i' (List.mem_cons_of_mem i hi')) _ hsame hinv
    · have hstep : admitCell (neighMeas, mr', given) i = (neighMeas.set (findEvictNeigh neighMeas)
          (neighMeas[findEvictNeigh neighMeas].giveTo (mr'.cell.get i) mr'.nr), mr'.setProcessed i,
            given ++ [findEvictNeigh neighMeas]) := if_neg hprocessed
      rw [hstep]
      refine ih (fun i' hi' => hl i' (List.mem_cons_of_mem i hi')) _ (hsame.setProcessed i) fun k => ?_
      dsimp only
      rw [changeTenures_concat]
      simp only [Fin.getElem_fin, Vector.getElem_set]
      by_cases hk : (findEvictNeigh neighMeas).val = k.val
      · rw [if_pos hk, if_pos hk]
        obtain ⟨hcArfcn, hcBsic, hcRxlev⟩ := hsame.cell i
        exact (hinv (findEvictNeigh neighMeas)).change
          (.inl ⟨i, hl i List.mem_cons_self, hcArfcn.symm, hcBsic.symm, hcRxlev.symm⟩) _
      · rw [if_neg hk, if_neg hk]
        exact hinv k

/-- What holds of all slots. -/
def ChanInv (ch : NeighChan) : Prop := ∀ j : Fin 10, SlotInv ch.log ch.neighMeas[j] ch.tenure[j]

/-- **A report.** -/
theorem ChanInv.processMeasRep {ch : NeighChan} (h : ChanInv ch) (mr : GsmMeasRep) :
    ChanInv (processMeasRep ch mr) := by
  unfold Libbsc.processMeasRep
  split
  case isFalse => exact h
  case isTrue =>
    obtain ⟨hsame, hupdated, _⟩ := updateNeighs_spec mr (List.finRange 10) (List.nodup_finRange 10) (ch.neighMeas, mr)
      (.refl mr)
    intro j
    unfold processMeasNeigh
    generalize (List.finRange 10).foldl updateNeigh (ch.neighMeas, mr) = found at hsame hupdated
    obtain ⟨neighMeas, mr'⟩ := found
    have hcells : ∀ i ∈ (List.finRange 6).take mr'.numCell, i.val < mr.numCell := by
      intro i hi
      obtain ⟨k, hk, hat⟩ := List.mem_take_iff_getElem.mp hi
      have hnum : mr'.numCell = mr.numCell := hsame.numCell
      have hval : i.val = k := by
        rw [← hat]
        simp
      omega
    refine admitCells_spec mr ch.log _ _ hcells (neighMeas, mr', []) hsame (fun k => ?_) j
    have hupd := hupdated k (List.mem_finRange k)
    unfold Updated at hupd
    have hold := h k
    simp only [changeTenures, List.foldl_nil, Fin.getElem_fin, Vector.getElem_ofFn] at hupd hold ⊢
    by_cases hempty : ch.neighMeas[k.val].arfcn = 0
    · rw [if_pos hempty] at hupd ⊢
      rw [hupd]
      exact hold.skip hempty
    · rw [if_neg hempty] at hupd ⊢
      obtain ⟨rxlev, nr, hlevel, heq⟩ := hupd
      rw [heq]
      exact hold.goOn hempty hlevel nr

/-- Every run keeps the slots. -/
theorem chanInv_of_reachable {ch : NeighChan} (h : Reachable neighSystem ch) : ChanInv ch := by
  refine h.invariant (I := ChanInv) ?_ ?_
  · rintro ch rfl j
    have hslot : ({} : NeighChan).neighMeas[j] = {} := by simp
    have htenure : ({} : NeighChan).tenure[j] = {} := by simp
    rw [hslot, htenure]
    refine ⟨rfl, fun _ => Nat.zero_le _, fun hne => absurd rfl hne, fun _ p _ _ => ?_⟩
    simp [cell]
  · rintro ch ev ch' hch _ rfl
    cases ev with
    | alloc type =>
      unfold neighStep
      dsimp only
      split
      · exact hch
      · exact hch
    | measRep mr => exact hch.processMeasRep mr
    | free =>
      intro j
      have hstop := (hch j).stop
      simpa [neighStep, lchanFreeNeigh] using hstop

/-- The window reaches back no further than the present neighbour has had the slot, and the counter has not gone round
    in it; or nothing but levels of this neighbour was ever written into the slot. -/
def OwnWindow (nmp : NeighMeasProc) (t : Tenure) (window : Nat) : Prop :=
  (window ≤ t.held ∧ window ≤ nmp.rxlevCnt) ∨ (t.before = 0 ∧ t.held < 2 ^ 32)

instance (nmp : NeighMeasProc) (t : Tenure) (window : Nat) : Decidable (OwnWindow nmp t window) :=
  inferInstanceAs (Decidable (_ ∨ _))

/-- The average is that of the last cells of the ring. -/
theorem neighMeasAvg_eq (nmp : NeighMeasProc) {window : Nat} (hhigh : window ≤ 10) :
    neighMeasAvg nmp window =
      (∑ k ∈ Finset.range window, cell nmp.rxlev (nmp.rxlevCnt + 10 - 1 - k)) / window := by
  have hidx : ∀ i, (calcInitialIdx 10 (nmp.rxlevCnt % 10) window + i) % 10 =
      (nmp.rxlevCnt + 10 - window + i) % 10 := by
    intro i
    unfold calcInitialIdx
    dsimp only
    split <;> omega
  unfold neighMeasAvg
  dsimp only
  rw [foldl_sum, ← sum_window nmp.rxlev nmp.rxlevCnt hhigh]
  congr 1
  exact Finset.sum_congr rfl fun i _ => cell_congr _ (hidx i)

/-- **The average of a neighbour.** In every run, and for every window: a neighbour that is tracked has as its average
    the levels that the last reports since the activation give for it, as many as the window has and as it has had its
    slot for, divided by the window; unless the window reaches what the slot held before. -/
theorem neighMeasAvg_of_run {ch : NeighChan} (h : Reachable neighSystem ch) (j : Fin 10) {window : Nat}
    (hlow : 1 ≤ window) (hhigh : window ≤ 10) (htracked : ch.neighMeas[j].arfcn ≠ 0)
    (hown : OwnWindow ch.neighMeas[j] ch.tenure[j] window) :
    min window ch.tenure[j].held ≤ ch.log.length ∧ ∃ level : Nat → Nat,
      (∀ k mr, k < min window ch.tenure[j].held → ch.log[k]? = some mr →
        LevelIn mr ch.neighMeas[j].arfcn ch.neighMeas[j].bsic (level k)) ∧
      neighMeasAvg ch.neighMeas[j] window =
        (∑ k ∈ Finset.range (min window ch.tenure[j].held), level k) / window := by
  obtain ⟨hcount, hlogged, hlevels, hunused⟩ := chanInv_of_reachable h j
  generalize ch.neighMeas[j] = nmp at *
  generalize ch.tenure[j] = t at *
  have hfew := hlogged htracked
  refine ⟨by omega, fun k => cell nmp.rxlev (nmp.rxlevCnt + 9 - k), fun k mr hk hat => ?_, ?_⟩
  · refine hlevels htracked k mr (by omega) (by omega) ?_ hat
    rcases hown with ⟨_, hcnt⟩ | ⟨hbefore, hheld⟩
    · omega
    · rw [hcount, hbefore, Nat.zero_add, Nat.mod_eq_of_lt hheld]
      omega
  · rw [neighMeasAvg_eq nmp hhigh]
    congr 1
    rcases hown with ⟨hheld, _⟩ | ⟨hbefore, hheld⟩
    · rw [Nat.min_eq_left hheld]
      rfl
    · -- what no report has filled is zero
      have hcnt : nmp.rxlevCnt = t.held := by
        rw [hcount, hbefore, Nat.zero_add, Nat.mod_eq_of_lt hheld]
      refine (Finset.sum_subset (Finset.range_mono (Nat.min_le_left ..)) fun k hk hnot => ?_).symm
      rw [Finset.mem_range] at hk hnot
      rw [hcnt]
      exact hunused hbefore _ (by omega) (by omega)

/-- A report of one neighbour. -/
def reportOf (arfcn bsic rxlev : Nat) : GsmMeasRep :=
  { numCell := 1,
    cell := (Vector.replicate 6 ({} : GsmMeasRepCell)).set 0 { arfcn := arfcn, bsic := bsic, rxlev := rxlev } }

/-- A channel for calls, and what was reported on it. -/
def reportedChan (reports : List GsmMeasRep) : NeighChan :=
  (.alloc .tchF :: reports.map NeighEvent.measRep).foldl neighStep {}

theorem reachable_reportedChan (reports : List GsmMeasRep) : Reachable neighSystem (reportedChan reports) :=
  .foldl (fun _ _ => rfl) _ (.init rfl)

/-- Two reports of one neighbour. -/
theorem neighMeasAvg_of_run_two :
    min 2 (reportedChan [reportOf 50 1 40, reportOf 50 1 30]).tenure[0].held ≤
        (reportedChan [reportOf 50 1 40, reportOf 50 1 30]).log.length ∧ ∃ level : Nat → Nat,
      (∀ k mr, k < min 2 (reportedChan [reportOf 50 1 40, reportOf 50 1 30]).tenure[0].held →
        (reportedChan [reportOf 50 1 40, reportOf 50 1 30]).log[k]? = some mr →
        LevelIn mr (reportedChan [reportOf 50 1 40, reportOf 50 1 30]).neighMeas[0].arfcn
          (reportedChan [reportOf 50 1 40, reportOf 50 1 30]).neighMeas[0].bsic (level k)) ∧
      neighMeasAvg (reportedChan [reportOf 50 1 40, reportOf 50 1 30]).neighMeas[0] 2 =
        (∑ k ∈ Finset.range (min 2 (reportedChan [reportOf 50 1 40, reportOf 50 1 30]).tenure[0].held), level k) / 2 :=
  neighMeasAvg_of_run (reachable_reportedChan _) 0 (by decide) (by decide) (by decide) (by decide)

/-- The levels of a neighbour in those reports that name it. -/
def ownLevels (log : List GsmMeasRep) (arfcn bsic : Nat) : List Nat :=
  log.filterMap fun mr => (rxlevForCellInRep mr arfcn bsic).1

/-- A neighbour with the level 40 that the next report does not name has the average 20. -/
theorem not_mean_of_ownLevels :
    ¬ ∀ (ch : NeighChan) (j : Fin 10) (window : Nat), Reachable neighSystem ch → ch.neighMeas[j].arfcn ≠ 0 →
      1 ≤ window → window ≤ 10 → neighMeasAvg ch.neighMeas[j] window =
        ((ownLevels ch.log ch.neighMeas[j].arfcn ch.neighMeas[j].bsic).take window).sum /
          ((ownLevels ch.log ch.neighMeas[j].arfcn ch.neighMeas[j].bsic).take window).length := by
  intro hall
  have hmean := hall (reportedChan [reportOf 50 1 40, reportOf 60 2 30]) 0 2 (reachable_reportedChan _) (by decide)
    (by decide) (by decide)
  revert hmean
  decide

/-- The slot of an earlier call, after `lchan_free`: the next neighbour in it has the old levels in its average. -/
example : neighMeasAvg ([.free, .alloc .tchF, .measRep (reportOf 60 2 10)].foldl neighStep
    (reportedChan [reportOf 50 1 40])).neighMeas[0] 2 = 25 := by decide +kernel

end OpenBsc.Libbsc
