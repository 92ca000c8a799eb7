import Mathlib.Data.List.Nodup
import OpenBsc.Libbsc.SystemInformation

/-!
# `Libbsc.MobileAllocation` — the frequencies that a timeslot hops over (`bsc_init.c`)

The mobile allocation of a timeslot has a bit for each ARFCN of its cell, which tells whether the timeslot hops over it.
The bits are counted from the end of the element: the lowest ARFCN has the last bit, and ARFCN 0 comes behind all the
others. `generate_ma_for_ts` writes the element into an array of 8 octets in the timeslot.
-/

namespace OpenBsc.Libbsc

open Bitmap ArfcnBits

/-! ## Encoding -/

/-- The ARFCNs from 1 to 1023. -/
def arfcnsAbove0 : List Nat := List.range' 1 1023

/-- `num_cell_arfcns`. -/
def countCellArfcns (lib : BitvecLib) (cellChan : ArfcnBits) : Nat :=
  arfcnsAbove0.foldl (fun num i => if lib.getBitPos cellChan.data i ≠ 0 then num + 1 else num) 0

/-- `bitvec_set_bit_pos` on the mobile allocation; a number below zero is a large one when it has no sign. -/
def setMaBit (lib : BitvecLib) (ma : Vector Octet 8) (bitnum : Int) (v : Bool) : Vector Octet 8 :=
  ⟨(lib.setBitPos ma.toList (bitnum % 2 ^ 32).toNat v).toArray, by
    rw [List.size_toArray, lib.length_setBitPos, Vector.length_toList]⟩

/-- One round of the loop over the ARFCNs from 1 on: `n_chan`, and `ma`. -/
def maRound (lib : BitvecLib) (cellChan tsArfcn : ArfcnBits) (maLen : Nat) (found : Nat × Vector Octet 8) (i : Nat) :
    Nat × Vector Octet 8 :=
  if lib.getBitPos cellChan.data i = 0 then found
  else
    let bitnum : Int := maLen * 8 - 1 - found.1
    (found.1 + 1, setMaBit lib found.2 bitnum (decide (lib.getBitPos tsArfcn.data i ≠ 0)))

/-- `generate_ma_for_ts`. -/
def generateMaForTs (lib : BitvecLib) (cellChan : ArfcnBits) (hopping : TsHopping) : TsHopping :=
  let hopping := { hopping with maLen := 0, ma := .replicate 8 0 }
  if hopping.enabled = false then hopping
  else
    let numCellArfcns := countCellArfcns lib cellChan
    let maLen := numCellArfcns / 8 + if numCellArfcns % 8 ≠ 0 then 1 else 0
    let (nChan, ma) := arfcnsAbove0.foldl (maRound lib cellChan hopping.arfcns maLen) (0, hopping.ma)
    if lib.getBitPos cellChan.data 0 ≠ 0 then
      let nChan := nChan + 1
      let bitnum : Int := maLen * 8 - 1 - nChan
      { hopping with maLen := maLen, ma := setMaBit lib ma bitnum (decide (lib.getBitPos hopping.arfcns.data 0 ≠ 0)) }
    else { hopping with maLen := maLen, ma := ma }

/-! ## Decoding -/

/-- The ARFCNs of a cell in the order of their bits: the lowest first, but 0 last. -/
def cellOrder (cell : Finset Nat) : List Nat :=
  arfcnsAbove0.filter (fun i => decide (i ∈ cell)) ++ if 0 ∈ cell then [0] else []

/-- The ARFCNs that an element of `len` octets designates: the one with the number `k` has the bit `k`, counted from the
    end. An element that has not all of its octets designates nothing. -/
def decodeMobileAllocation (cell : Finset Nat) (len : Nat) (data : List Octet) : Option (Finset Nat) :=
  if len ≤ data.length then
    some (((cellOrder cell).zipIdx.filter fun p => decide (p.2 < 8 * len) && bit data (8 * len - 1 - p.2)).map
      Prod.fst).toFinset
  else none

/-- The element has as few octets as hold a bit for each ARFCN of the cell, they designate what the timeslot hops over
    of the cell, and the octets behind them stay clear. -/
structure DesignatesHopping (lib : BitvecLib) (cellChan : ArfcnBits) (hopping out : TsHopping) : Prop where
  decoded : decodeMobileAllocation (cellChan.arfcns lib) out.maLen out.ma.toList =
    some (hopping.arfcns.arfcns lib ∩ cellChan.arfcns lib)
  least : IsLeast {len | (cellChan.arfcns lib).card ≤ 8 * len} out.maLen
  outside : ∀ i, out.maLen ≤ i → octetAt out.ma.toList i = 0
  arfcns : out.arfcns = hopping.arfcns

/-- Up to 64 ARFCNs; and if 0 is one of them, the timeslot does not hop over it, and the number of the others is no
    multiple of eight. -/
def MaFits (cell hopping : Finset Nat) : Prop :=
  cell.card ≤ 64 ∧ (0 ∈ cell → 0 ∉ hopping ∧ (cell.erase 0).card % 8 ≠ 0)

/-! ## The order of the cell -/

/-- The ARFCNs of a cell but 0, the lowest first. -/
def orderAbove0 (cell : Finset Nat) : List Nat := arfcnsAbove0.filter fun i => decide (i ∈ cell)

theorem mem_arfcnsAbove0 {i : Nat} : i ∈ arfcnsAbove0 ↔ 1 ≤ i ∧ i < 1024 := List.mem_range'_1

variable {cellChan : ArfcnBits}

theorem mem_orderAbove0 {lib : BitvecLib} {i : Nat} :
    i ∈ orderAbove0 (cellChan.arfcns lib) ↔ i ≠ 0 ∧ i ∈ cellChan.arfcns lib := by
  rw [orderAbove0, List.mem_filter, decide_eq_true_eq, mem_arfcnsAbove0]
  constructor
  · exact fun ⟨hrange, hmem⟩ => ⟨by omega, hmem⟩
  · exact fun ⟨hne, hmem⟩ => ⟨⟨by omega, (mem_arfcns.mp hmem).1⟩, hmem⟩

variable (lib : BitvecLib) (ma : Vector Octet 8)

theorem length_orderAbove0 (cellChan : ArfcnBits) :
    (orderAbove0 (cellChan.arfcns lib)).length = ((cellChan.arfcns lib).erase 0).card := by
  have hnodup : (orderAbove0 (cellChan.arfcns lib)).Nodup := List.Nodup.filter _ List.nodup_range'
  rw [← List.toFinset_card_of_nodup hnodup]
  congr 1
  ext i
  rw [List.mem_toFinset, mem_orderAbove0, Finset.mem_erase]

theorem filter_chosen (cellChan : ArfcnBits) :
    arfcnsAbove0.filter (fun i => decide (lib.getBitPos cellChan.data i ≠ 0)) = orderAbove0 (cellChan.arfcns lib) := by
  refine List.filter_congr fun i hi => ?_
  rw [decide_eq_decide]
  exact getBitPos_ne_zero (mem_arfcnsAbove0.mp hi).2

theorem countCellArfcns_eq (cellChan : ArfcnBits) :
    countCellArfcns lib cellChan = (orderAbove0 (cellChan.arfcns lib)).length := by
  have hcount : ∀ (l : List Nat) (num : Nat),
      l.foldl (fun num i => if lib.getBitPos cellChan.data i ≠ 0 then num + 1 else num) num =
        num + (l.filter fun i => decide (lib.getBitPos cellChan.data i ≠ 0)).length := by
    intro l
    induction l with
    | nil => simp
    | cons i l ih =>
      intro num
      rw [List.foldl_cons, ih]
      by_cases hi : lib.getBitPos cellChan.data i ≠ 0
      · rw [if_pos hi, List.filter_cons_of_pos (by simpa using hi), List.length_cons]
        omega
      · rw [if_neg hi, List.filter_cons_of_neg (by simpa using hi)]
  rw [countCellArfcns, hcount, filter_chosen, Nat.zero_add]

theorem mem_decoded {order : List Nat} {len : Nat} {data : List Octet} {i : Nat} :
    i ∈ ((order.zipIdx.filter fun p => decide (p.2 < 8 * len) && bit data (8 * len - 1 - p.2)).map Prod.fst).toFinset ↔
      ∃ k, order[k]? = some i ∧ k < 8 * len ∧ bit data (8 * len - 1 - k) = true := by
  rw [List.mem_toFinset, List.mem_map]
  constructor
  · rintro ⟨⟨j, k⟩, hmem, rfl⟩
    obtain ⟨hin, hset⟩ := List.mem_filter.mp hmem
    rw [Bool.and_eq_true, decide_eq_true_eq] at hset
    exact ⟨k, List.mem_zipIdx_iff_getElem?.mp hin, hset⟩
  · rintro ⟨k, hat, hlt, hset⟩
    refine ⟨(i, k), List.mem_filter.mpr ⟨List.mem_zipIdx_iff_getElem?.mpr hat, ?_⟩, rfl⟩
    rw [Bool.and_eq_true, decide_eq_true_eq]
    exact ⟨hlt, hset⟩

/-! ## The loop -/

theorem toList_setMaBit (bitnum : Int) (v : Bool) :
    (setMaBit lib ma bitnum v).toList = lib.setBitPos ma.toList (bitnum % 2 ^ 32).toNat v := rfl

theorem bit_setMaBit {n : Nat} (hn : n < 64) (v : Bool) (m : Nat) :
    bit (setMaBit lib ma n v).toList m = if m = n then v else bit ma.toList m := by
  have hpos : ((n : Int) % 2 ^ 32).toNat = n := by omega
  rw [toList_setMaBit, hpos]
  exact lib.bit_setBitPos ma.toList n v m (by rw [Vector.length_toList]; omega)

/-- A bit before the first one is none of the array's. -/
theorem setMaBit_before {n : Nat} (hn : 0 < n) (hmax : n < 2 ^ 31) (v : Bool) :
    setMaBit lib ma (-n) v = ma := by
  have hpos : ((-n : Int) % 2 ^ 32).toNat = 2 ^ 32 - n := by omega
  refine Vector.toList_inj.mp ?_
  rw [toList_setMaBit, hpos]
  exact lib.setBitPos_behind ma.toList (2 ^ 32 - n) v (by rw [Vector.length_toList]; omega)

/-- **Each ARFCN of the cell gets the next bit from the end.** -/
theorem maLoop_spec (cellChan tsArfcn : ArfcnBits) {maLen : Nat} (hlen : maLen ≤ 8) (l : List Nat)
    (found : Nat × Vector Octet 8)
    (hroom : found.1 + (l.filter fun i => decide (lib.getBitPos cellChan.data i ≠ 0)).length ≤ 8 * maLen)
    (hclear : ∀ m, m + found.1 < 8 * maLen → bit found.2.toList m = false) :
    let out := l.foldl (maRound lib cellChan tsArfcn maLen) found
    let order := l.filter fun i => decide (lib.getBitPos cellChan.data i ≠ 0)
    out.1 = found.1 + order.length ∧ ∀ m, bit out.2.toList m = true ↔ bit found.2.toList m = true ∨
      ∃ k i, order[k]? = some i ∧ m + 1 + found.1 + k = 8 * maLen ∧ lib.getBitPos tsArfcn.data i ≠ 0 := by
  induction l generalizing found with
  | nil => simp
  | cons i l ih =>
    by_cases hi : lib.getBitPos cellChan.data i = 0
    · have hskip : maRound lib cellChan tsArfcn maLen found i = found := if_pos hi
      have hfilter : (i :: l).filter (fun i => decide (lib.getBitPos cellChan.data i ≠ 0)) =
          l.filter fun i => decide (lib.getBitPos cellChan.data i ≠ 0) :=
        List.filter_cons_of_neg (by simp [hi])
      rw [hfilter] at hroom
      simp only [List.foldl_cons, hskip, hfilter]
      exact ih found hroom hclear
    · have hfilter : (i :: l).filter (fun i => decide (lib.getBitPos cellChan.data i ≠ 0)) =
          i :: l.filter fun i => decide (lib.getBitPos cellChan.data i ≠ 0) :=
        List.filter_cons_of_pos (by simp [hi])
      rw [hfilter, List.length_cons] at hroom
      have hnum : ((maLen : Int) * 8 - 1 - found.1) = ((8 * maLen - 1 - found.1 : Nat) : Int) := by omega
      have hround : maRound lib cellChan tsArfcn maLen found i = (found.1 + 1,
          setMaBit lib found.2 ((8 * maLen - 1 - found.1 : Nat) : Int)
            (decide (lib.getBitPos tsArfcn.data i ≠ 0))) := by
        rw [maRound, if_neg hi]
        simp only [hnum]
      have hbit := bit_setMaBit lib found.2 (show 8 * maLen - 1 - found.1 < 64 by omega)
        (decide (lib.getBitPos tsArfcn.data i ≠ 0))
      simp only [List.foldl_cons, hround, hfilter]
      obtain ⟨hcount, hbits⟩ := ih (found.1 + 1, setMaBit lib found.2 ((8 * maLen - 1 - found.1 : Nat) : Int)
        (decide (lib.getBitPos tsArfcn.data i ≠ 0))) (by dsimp only; omega) (by
          intro m hm
          dsimp only at hm ⊢
          rw [hbit, if_neg (by omega)]
          exact hclear m (by omega))
      refine ⟨by rw [hcount, List.length_cons]; dsimp only; omega, fun m => ?_⟩
      rw [hbits m, hbit m]
      constructor
      · rintro (hset | ⟨k, j, hat, hm, hhop⟩)
        · by_cases hm : m = 8 * maLen - 1 - found.1
          · rw [if_pos hm, decide_eq_true_eq] at hset
            exact .inr ⟨0, i, rfl, by omega, hset⟩
          · rw [if_neg hm] at hset
            exact .inl hset
        · dsimp only at hm
          exact .inr ⟨k + 1, j, hat, by omega, hhop⟩
      · rintro (hset | ⟨k, j, hat, hm, hhop⟩)
        · have hm : m ≠ 8 * maLen - 1 - found.1 := by
            rintro rfl
            rw [hclear _ (by omega)] at hset
            exact Bool.false_ne_true hset
          rw [if_neg hm]
          exact .inl hset
        · cases k with
          | zero =>
            obtain rfl : i = j := by simpa using hat
            rw [if_pos (by omega)]
            exact .inl (decide_eq_true hhop)
          | succ k => exact .inr ⟨k, j, by simpa using hat, by dsimp only; omega, hhop⟩

/-! ## What a phone is told -/

theorem isLeast_octets {c len : Nat} : IsLeast {n | c ≤ 8 * n} len ↔ len = (c + 7) / 8 := by
  constructor
  · rintro ⟨hin, hleast⟩
    have hfit : c ≤ 8 * len := hin
    have hle : len ≤ (c + 7) / 8 := hleast (show c ≤ 8 * ((c + 7) / 8) by omega)
    omega
  · rintro rfl
    refine ⟨show c ≤ 8 * ((c + 7) / 8) by omega, fun n hn => ?_⟩
    have hfit : c ≤ 8 * n := hn
    omega

theorem arfcn0_chosen (bv : ArfcnBits) : lib.getBitPos bv.data 0 ≠ 0 ↔ 0 ∈ bv.arfcns lib :=
  getBitPos_ne_zero (by decide)

/-- The octets of the element, as the code counts them. -/
def maOctets (lib : BitvecLib) (cellChan : ArfcnBits) : Nat := (((cellChan.arfcns lib).erase 0).card + 7) / 8

theorem octets_eq (cellChan : ArfcnBits) :
    countCellArfcns lib cellChan / 8 + (if countCellArfcns lib cellChan % 8 ≠ 0 then 1 else 0) =
      maOctets lib cellChan := by
  rw [maOctets, ← length_orderAbove0, ← countCellArfcns_eq]
  split <;> omega

theorem length_orderAbove0_le (cellChan : ArfcnBits) :
    (orderAbove0 (cellChan.arfcns lib)).length ≤ 8 * maOctets lib cellChan := by
  rw [maOctets, length_orderAbove0]
  omega

/-- `n_chan` and `ma` after the loop. -/
def maLoop (lib : BitvecLib) (cellChan tsArfcn : ArfcnBits) : Nat × Vector Octet 8 :=
  arfcnsAbove0.foldl (maRound lib cellChan tsArfcn (maOctets lib cellChan)) (0, .replicate 8 0)

theorem maLoop_bits (cellChan tsArfcn : ArfcnBits) (hlen : maOctets lib cellChan ≤ 8) :
    (maLoop lib cellChan tsArfcn).1 = (orderAbove0 (cellChan.arfcns lib)).length ∧
      ∀ m, bit (maLoop lib cellChan tsArfcn).2.toList m = true ↔
        ∃ k i, (orderAbove0 (cellChan.arfcns lib))[k]? = some i ∧ m + 1 + k = 8 * maOctets lib cellChan ∧
          i ∈ tsArfcn.arfcns lib := by
  have hzeros : ∀ m, bit (0, Vector.replicate 8 (0 : Octet)).2.toList m = false := bit_replicate 8
  have hroom := length_orderAbove0_le lib cellChan
  rw [← filter_chosen] at hroom
  have hrun := maLoop_spec lib cellChan tsArfcn hlen arfcnsAbove0 (0, .replicate 8 0) (by dsimp only; omega)
    (fun m _ => hzeros m)
  rw [filter_chosen] at hrun
  obtain ⟨hnum, hbits⟩ := hrun
  refine ⟨hnum.trans (Nat.zero_add _), fun m => ?_⟩
  rw [maLoop, hbits m, hzeros m]
  simp only [Bool.false_eq_true, false_or]
  refine exists_congr fun k => exists_congr fun i => and_congr_right fun hat => and_congr Iff.rfl ?_
  have hmem := List.mem_of_getElem? hat
  exact getBitPos_ne_zero (mem_arfcns.mp (mem_orderAbove0.mp hmem).2).1

variable {hopping : TsHopping}

theorem generateMaForTs_arfcn0 (henabled : hopping.enabled = true)
    (hzero : lib.getBitPos cellChan.data 0 ≠ 0) :
    generateMaForTs lib cellChan hopping = { hopping with
      maLen := maOctets lib cellChan
      ma := setMaBit lib (maLoop lib cellChan hopping.arfcns).2
        (maOctets lib cellChan * 8 - 1 - (((maLoop lib cellChan hopping.arfcns).1 + 1 : Nat) : Int))
        (decide (lib.getBitPos hopping.arfcns.data 0 ≠ 0)) } := by
  unfold generateMaForTs maLoop
  simp only [henabled, octets_eq, if_pos hzero]
  rfl

theorem generateMaForTs_others (henabled : hopping.enabled = true)
    (hzero : ¬ lib.getBitPos cellChan.data 0 ≠ 0) :
    generateMaForTs lib cellChan hopping =
      { hopping with maLen := maOctets lib cellChan, ma := (maLoop lib cellChan hopping.arfcns).2 } := by
  unfold generateMaForTs maLoop
  simp only [henabled, octets_eq, if_neg hzero]
  rfl

/-- **What is written: the bits of the ARFCNs above 0, and for ARFCN 0 the bit behind its own.** -/
theorem generateMaForTs_bits (cellChan : ArfcnBits) (hopping : TsHopping)
    (henabled : hopping.enabled = true) :
    let out := generateMaForTs lib cellChan hopping
    let order := orderAbove0 (cellChan.arfcns lib)
    out.maLen = maOctets lib cellChan ∧ out.arfcns = hopping.arfcns ∧ (out.maLen ≤ 8 → ∀ m, bit out.ma.toList m = true ↔
      (∃ k i, order[k]? = some i ∧ m + 1 + k = 8 * out.maLen ∧ i ∈ hopping.arfcns.arfcns lib) ∨
        (0 ∈ cellChan.arfcns lib ∧ m + 2 + order.length = 8 * out.maLen ∧ 0 ∈ hopping.arfcns.arfcns lib)) := by
  have hspec := maLoop_bits lib cellChan hopping.arfcns
  have hlenOrder := length_orderAbove0_le lib cellChan
  have hzeroCell := arfcn0_chosen lib cellChan
  have hzeroTs := arfcn0_chosen lib hopping.arfcns
  by_cases hzero : lib.getBitPos cellChan.data 0 ≠ 0
  · simp only [generateMaForTs_arfcn0 lib henabled hzero]
    refine ⟨trivial, trivial, fun hlen m => ?_⟩
    generalize maLoop lib cellChan hopping.arfcns = loop at hspec
    generalize maOctets lib cellChan = maLen at hspec hlenOrder hlen
    obtain ⟨hnum, hbits⟩ := hspec hlen
    by_cases hroom : (orderAbove0 (cellChan.arfcns lib)).length + 2 ≤ 8 * maLen
    · have hpos : ((maLen : Int) * 8 - 1 - ((loop.1 + 1 : Nat) : Int)) =
          ((8 * maLen - 2 - (orderAbove0 (cellChan.arfcns lib)).length : Nat) : Int) := by omega
      rw [hpos, bit_setMaBit lib loop.2 (by omega)]
      by_cases hm : m = 8 * maLen - 2 - (orderAbove0 (cellChan.arfcns lib)).length
      · rw [if_pos hm, decide_eq_true_eq, hzeroTs]
        constructor
        · exact fun hhop => .inr ⟨hzeroCell.mp hzero, by omega, hhop⟩
        · rintro (⟨k, i, hat, hk, _⟩ | ⟨_, _, hhop⟩)
          · have hlt := (List.getElem?_eq_some_iff.mp hat).1
            omega
          · exact hhop
      · rw [if_neg hm, hbits m]
        exact (or_iff_left fun h => hm (by omega)).symm
    · -- the number of the bit is below zero
      have hpos : ((maLen : Int) * 8 - 1 - ((loop.1 + 1 : Nat) : Int)) =
          -((2 + (orderAbove0 (cellChan.arfcns lib)).length - 8 * maLen : Nat) : Int) := by omega
      rw [hpos, setMaBit_before lib loop.2 (by omega) (by omega), hbits m]
      exact (or_iff_left fun h => by omega).symm
  · simp only [generateMaForTs_others lib henabled hzero]
    refine ⟨trivial, trivial, fun hlen m => ?_⟩
    rw [(hspec hlen).2 m]
    exact (or_iff_left fun h => hzero (hzeroCell.mpr h.1)).symm

theorem generateMaForTs_behind (cellChan : ArfcnBits) (henabled : hopping.enabled = true)
    (hlen : (generateMaForTs lib cellChan hopping).maLen ≤ 8) {i : Nat}
    (hi : (generateMaForTs lib cellChan hopping).maLen ≤ i) :
    octetAt (generateMaForTs lib cellChan hopping).ma.toList i = 0 := by
  refine octetAt_eq_zero fun n hn => ?_
  rw [← Bool.not_eq_true, (generateMaForTs_bits lib cellChan hopping henabled).2.2 hlen]
  rintro (⟨k, _, _, hk, _⟩ | ⟨_, hk, _⟩) <;> omega

/-- An element that designates something has all of its octets. -/
theorem maLen_le_of_decoded {cell arfcns : Finset Nat} {out : TsHopping}
    (h : decodeMobileAllocation cell out.maLen out.ma.toList = some arfcns) : out.maLen ≤ 8 := by
  by_contra hlong
  rw [decodeMobileAllocation, if_neg (by rwa [Vector.length_toList])] at h
  cases h

/-- A phone takes the right ARFCNs out of the element unless the timeslot hops over ARFCN 0. -/
theorem decoded_eq (cellChan : ArfcnBits) (hopping : TsHopping) (henabled : hopping.enabled = true)
    (hlen : (generateMaForTs lib cellChan hopping).maLen ≤ 8) :
    decodeMobileAllocation (cellChan.arfcns lib) (generateMaForTs lib cellChan hopping).maLen
        (generateMaForTs lib cellChan hopping).ma.toList = some (hopping.arfcns.arfcns lib ∩ cellChan.arfcns lib) ↔
      (0 ∈ cellChan.arfcns lib → 0 ∉ hopping.arfcns.arfcns lib) := by
  obtain ⟨hocts, _, hbits⟩ := generateMaForTs_bits lib cellChan hopping henabled
  replace hbits := hbits hlen
  generalize generateMaForTs lib cellChan hopping = out at *
  have hroom : (orderAbove0 (cellChan.arfcns lib)).length ≤ 8 * out.maLen := by
    rw [hocts, maOctets, length_orderAbove0]
    omega
  have hinside : out.maLen ≤ out.ma.toList.length := by rwa [Vector.length_toList]
  rw [decodeMobileAllocation, if_pos hinside, Option.some.injEq, Finset.ext_iff]
  simp only [mem_decoded, Finset.mem_inter]
  -- of the bit with the number of an ARFCN, only that ARFCN decides, but for the one that ARFCN 0 spoils
  have hbit : ∀ k, k < 8 * out.maLen → (bit out.ma.toList (8 * out.maLen - 1 - k) = true ↔
      (∃ i, (orderAbove0 (cellChan.arfcns lib))[k]? = some i ∧ i ∈ hopping.arfcns.arfcns lib) ∨
        (0 ∈ cellChan.arfcns lib ∧ k = (orderAbove0 (cellChan.arfcns lib)).length + 1 ∧
          0 ∈ hopping.arfcns.arfcns lib)) := by
    intro k hk
    rw [hbits]
    refine or_congr ⟨?_, ?_⟩ (and_congr_right fun _ => and_congr_left fun _ => by omega)
    · rintro ⟨k', i, hat, hsum, hhop⟩
      obtain rfl : k' = k := by omega
      exact ⟨i, hat, hhop⟩
    · rintro ⟨i, hat, hhop⟩
      exact ⟨k, i, hat, by omega, hhop⟩
  constructor
  · intro hall hcell hhop
    obtain ⟨k, hat, hk, hset⟩ := (hall 0).mpr ⟨hhop, hcell⟩
    rw [cellOrder, if_pos hcell] at hat
    change (orderAbove0 (cellChan.arfcns lib) ++ [0])[k]? = some 0 at hat
    rw [List.getElem?_append] at hat
    rcases (hbit k hk).mp hset with ⟨i, hati, _⟩ | ⟨_, hlast, _⟩
    · rw [if_pos (List.getElem?_eq_some_iff.mp hati).1] at hat
      exact (mem_orderAbove0.mp (List.mem_of_getElem? hat)).1 rfl
    · rw [if_neg (by omega), hlast, Nat.add_sub_cancel_left] at hat
      simp at hat
  · intro hzero i
    constructor
    · rintro ⟨k, hat, hk, hset⟩
      rcases (hbit k hk).mp hset with ⟨j, hatj, hhop⟩ | ⟨hcell, _, hhop⟩
      · change (orderAbove0 (cellChan.arfcns lib) ++ _)[k]? = some i at hat
        rw [List.getElem?_append_left (List.getElem?_eq_some_iff.mp hatj).1, hatj] at hat
        obtain rfl : j = i := by simpa using hat
        exact ⟨hhop, (mem_orderAbove0.mp (List.mem_of_getElem? hatj)).2⟩
      · exact absurd hhop (hzero hcell)
    · rintro ⟨hhop, hcell⟩
      have hne : i ≠ 0 := by
        rintro rfl
        exact hzero hcell hhop
      obtain ⟨k, hk, hat⟩ := List.mem_iff_getElem.mp (mem_orderAbove0.mpr ⟨hne, hcell⟩)
      have hatk : (orderAbove0 (cellChan.arfcns lib))[k]? = some i := List.getElem?_eq_some_iff.mpr ⟨hk, hat⟩
      refine ⟨k, ?_, by omega, (hbit k (by omega)).mpr (.inl ⟨i, hatk, hhop⟩)⟩
      change (orderAbove0 (cellChan.arfcns lib) ++ _)[k]? = some i
      rw [List.getElem?_append_left hk, hatk]

/-- **A mobile allocation designates what the timeslot hops over exactly if the cell has at most 64 ARFCNs and, with
    ARFCN 0 in it, the number of the others is no multiple of eight and the timeslot does not hop over ARFCN 0.** -/
theorem mobileAllocation_designates_iff (lib : BitvecLib) (cellChan : ArfcnBits) (hopping : TsHopping)
    (henabled : hopping.enabled = true) :
    DesignatesHopping lib cellChan hopping (generateMaForTs lib cellChan hopping) ↔
      MaFits (cellChan.arfcns lib) (hopping.arfcns.arfcns lib) := by
  obtain ⟨hocts, harfcns, _⟩ := generateMaForTs_bits lib cellChan hopping henabled
  have hdecoded := decoded_eq lib cellChan hopping henabled
  have hbehind := generateMaForTs_behind lib cellChan henabled
  rw [maOctets] at hocts
  by_cases hcell : 0 ∈ cellChan.arfcns lib
  · have hcard := Finset.card_erase_add_one hcell
    constructor
    · rintro ⟨hdec, hleast, _, _⟩
      have hlen := maLen_le_of_decoded hdec
      have hneeded := isLeast_octets.mp hleast
      exact ⟨by omega, fun _ => ⟨(hdecoded hlen).mp hdec hcell, by omega⟩⟩
    · rintro ⟨hmax, hzero⟩
      obtain ⟨hhop, hmod⟩ := hzero hcell
      have hlen : (generateMaForTs lib cellChan hopping).maLen ≤ 8 := by omega
      exact ⟨(hdecoded hlen).mpr fun _ => hhop, isLeast_octets.mpr (by omega), fun i hi => hbehind hlen hi, harfcns⟩
  · have hcard : ((cellChan.arfcns lib).erase 0).card = (cellChan.arfcns lib).card := by
      rw [Finset.erase_eq_of_notMem hcell]
    constructor
    · rintro ⟨hdec, _, _, _⟩
      have hlen := maLen_le_of_decoded hdec
      exact ⟨by omega, fun h => absurd h hcell⟩
    · rintro ⟨hmax, _⟩
      have hlen : (generateMaForTs lib cellChan hopping).maLen ≤ 8 := by omega
      exact ⟨(hdecoded hlen).mpr fun h => absurd h hcell, isLeast_octets.mpr (by omega),
        fun i hi => hbehind hlen hi, harfcns⟩

/-- A timeslot that hops over the two ARFCNs of its cell. -/
theorem mobileAllocation_designates_two :
    DesignatesHopping .onOctets ((zero.set .onOctets 1).set .onOctets 2)
      { enabled := true, arfcns := (zero.set .onOctets 1).set .onOctets 2 }
      (generateMaForTs .onOctets ((zero.set .onOctets 1).set .onOctets 2)
        { enabled := true, arfcns := (zero.set .onOctets 1).set .onOctets 2 }) := by
  refine (mobileAllocation_designates_iff _ _ _ rfl).mpr ?_
  dsimp only
  rw [arfcns_set (by decide), arfcns_set (by decide), arfcns_zero]
  exact ⟨by decide, by decide⟩

/-- A timeslot that hops over ARFCN 0: a phone does not learn it. -/
theorem not_designates_arfcn0 :
    ¬ ∀ (lib : BitvecLib) (cellChan : ArfcnBits) (hopping : TsHopping), hopping.enabled = true →
      DesignatesHopping lib cellChan hopping (generateMaForTs lib cellChan hopping) := by
  intro hall
  have hset : (((zero.set .onOctets 0).set .onOctets 1).arfcns .onOctets) = insert 1 (insert 0 ∅) := by
    rw [arfcns_set (by decide), arfcns_set (by decide), arfcns_zero]
  generalize (zero.set .onOctets 0).set .onOctets 1 = both at hset
  have hright := hall .onOctets both { enabled := true, arfcns := both } rfl
  have hocts := (generateMaForTs_bits .onOctets both { enabled := true, arfcns := both } rfl).1
  have hlen : (generateMaForTs .onOctets both { enabled := true, arfcns := both }).maLen ≤ 8 := by
    rw [hocts, maOctets, hset]
    decide
  have hzero : 0 ∈ both.arfcns .onOctets := by
    rw [hset]
    decide
  exact (decoded_eq .onOctets both { enabled := true, arfcns := both } rfl hlen).mp hright.decoded hzero hzero

end OpenBsc.Libbsc
