import Mathlib.Order.Interval.Finset.Nat
import OpenBsc.Lib.Bitmap

/-!
# `Libbsc.SystemInformation` — the frequency lists of the system information (`system_information.c`)

A BTS tells the phones the ARFCNs of its own cell and those of its neighbours, each set as an element of 16 octets. In
the 900 MHz band it is sent as bit map 0, a bit for each of the ARFCNs 1 to 124, the lowest in the last octet. In the
other bands it is sent as a variable bit map: the lowest ARFCN as a number, spread over three octets, and a bit for each
of the 111 ARFCNs above it, the nearest first.
-/

namespace OpenBsc.Libbsc

open Bitmap

/-! ## Sets of ARFCNs -/

/-- A bit vector with a bit for each ARFCN, of `1024/8` octets. -/
structure ArfcnBits where
  data : List Octet
  length_data : data.length = 1024 / 8

namespace ArfcnBits

/-- `memset(bv->data, 0, bv->data_len)`. -/
def zero : ArfcnBits := ⟨List.replicate (1024 / 8) 0, List.length_replicate⟩

/-- `bitvec_set_bit_pos(bv, arfcn, 1)`. -/
def set (lib : BitvecLib) (bv : ArfcnBits) (arfcn : Nat) : ArfcnBits :=
  ⟨lib.setBitPos bv.data arfcn true, by rw [lib.length_setBitPos, bv.length_data]⟩

/-- The set of ARFCNs. -/
def arfcns (lib : BitvecLib) (bv : ArfcnBits) : Finset Nat := lib.members bv.data

variable {lib : BitvecLib} {bv : ArfcnBits} {n : Nat}

theorem mem_arfcns : n ∈ bv.arfcns lib ↔ n < 1024 ∧ lib.getBitPos bv.data n ≠ 0 := by
  rw [arfcns, BitvecLib.mem_members, bv.length_data]

theorem getBitPos_ne_zero (hn : n < 1024) : lib.getBitPos bv.data n ≠ 0 ↔ n ∈ bv.arfcns lib := by
  rw [mem_arfcns]
  exact (and_iff_right hn).symm

@[simp] theorem arfcns_zero : zero.arfcns lib = ∅ := BitvecLib.members_replicate _

theorem arfcns_set (hn : n < 1024) : (bv.set lib n).arfcns lib = insert n (bv.arfcns lib) := by
  have hset : lib.members (lib.setBitPos bv.data n true) = _ := BitvecLib.members_setBitPos bv.data n
  unfold arfcns set
  rw [hset, bv.length_data, if_pos (show n < 8 * (1024 / 8) from hn)]

theorem mem_arfcns_set (m : Nat) : m ∈ (bv.set lib n).arfcns lib ↔ (m = n ∧ n < 1024) ∨ m ∈ bv.arfcns lib := by
  by_cases hn : n < 1024
  · rw [arfcns_set hn, Finset.mem_insert, and_iff_left hn]
  · have hsame : (bv.set lib n).data = bv.data :=
      lib.setBitPos_behind bv.data n true (by rw [bv.length_data]; omega)
    rw [arfcns, hsame]
    exact (or_iff_right fun h => hn h.2).symm

end ArfcnBits

/-- `struct gsm_bts_trx_ts::hopping`. -/
structure TsHopping where
  enabled : Bool := false
  arfcns : ArfcnBits := .zero
  /-- `ma_len`: the octets of `ma` that are used. -/
  maLen : Nat := 0
  ma : Vector Octet 8 := .replicate 8 0

/-- `struct gsm_bts_trx`. -/
structure SiTrx where
  arfcn : Nat
  ts : Vector TsHopping 8 := .replicate 8 {}

/-- `enum gsm_band`. -/
inductive GsmBand where
  | gsm850 | gsm900 | gsm1800 | gsm1900 | other
  deriving DecidableEq

/-- `NL_MODE_*`. -/
inductive NeighListMode where
  | automatic | manual | manualSi5sep
  deriving DecidableEq

/-- `struct gsm_bts`; `c0` is the first of its transceivers. -/
structure SiBts where
  band : GsmBand
  c0 : SiTrx
  moreTrx : List SiTrx := []
  neighListManualMode : NeighListMode := .automatic
  cellAlloc : ArfcnBits := .zero
  neighList : ArfcnBits := .zero
  si5NeighList : ArfcnBits := .zero

/-- `bts->trx_list`. -/
def SiBts.trxList (bts : SiBts) : List SiTrx := bts.c0 :: bts.moreTrx

/-! ## Encoding -/

/-- `GSM48_CELL_CHAN_DESC_SIZE`. -/
def gsm48CellChanDescSize : Nat := 16

/-- `freq_list_bm0_set_arfcn`: the return value, and `chan_list`. -/
def freqListBm0SetArfcn (chanList : List Octet) (arfcn : Nat) : Int × List Octet :=
  if 124 < arfcn ∨ arfcn < 1 then (-einval, chanList)
  else (0, orBit chanList (gsm48CellChanDescSize - 1 - (arfcn - 1) / 8) ((arfcn - 1) % 8))

/-- `min_arfcn`, taken out of the list again. -/
def minArfcn (chanList : List Octet) : Nat :=
  ((octetAt chanList 0 &&& 1) <<< 9 ||| octetAt chanList 1 <<< 1) ||| (octetAt chanList 2 >>> 7 &&& 1)

/-- `freq_list_bmrel_set_arfcn`. -/
def freqListBmrelSetArfcn (chanList : List Octet) (arfcn : Nat) : Int × List Octet :=
  if arfcn = minArfcn chanList then (0, chanList)
  else if arfcn < minArfcn chanList then (-einval, chanList)
  else if minArfcn chanList + 111 < arfcn then (-einval, chanList)
  else
    let bitno := arfcn - minArfcn chanList
    (0, orBit chanList (2 + bitno / 8) (7 - bitno % 8))

/-- The loop of `bitvec2freq_list` that sets each ARFCN of the set, until one cannot be set. -/
def setArfcns (lib : BitvecLib) (bv : ArfcnBits) (setArfcn : List Octet → Nat → Int × List Octet) :
    List Nat → List Octet → Int × List Octet
  | [], chanList => (0, chanList)
  | i :: is, chanList =>
    if lib.getBitPos bv.data i ≠ 0 then
      let (rc, chanList) := setArfcn chanList i
      if rc < 0 then (rc, chanList) else setArfcns lib bv setArfcn is chanList
    else setArfcns lib bv setArfcn is chanList

/-- One round of the loop that looks for the lowest and the highest ARFCN. -/
def minMaxStep (lib : BitvecLib) (bv : ArfcnBits) (found : Int × Int) (i : Nat) : Int × Int :=
  if lib.getBitPos bv.data i ≠ 0 then
    (if (i : Int) < found.1 then i else found.1, if (i : Int) > found.2 then i else found.2)
  else found

/-- `min` and `max`. -/
def minMax (lib : BitvecLib) (bv : ArfcnBits) : Int × Int :=
  (List.range (bv.data.length * 8)).foldl (minMaxStep lib bv) (1024, -1)

/-- `bitvec2freq_list`: the return value, and the 16 octets. -/
def bitvec2freqList (lib : BitvecLib) (bv : ArfcnBits) (band : GsmBand) : Int × List Octet :=
  let chanList := List.replicate 16 0
  if band = .gsm900 then
    setArfcns lib bv freqListBm0SetArfcn (List.range (bv.data.length * 8)) (chanList.set 0 0)
  else
    let chanList := chanList.set 0 0x8e
    let (min, max) := minMax lib bv
    if max = -1 then (0, chanList.set 0 0)
    else if max - min > 111 then (-einval, chanList)
    else
      let min := min.toNat
      let chanList := chanList.set 0 (chanList.getD 0 0 ||| UInt8.ofNat (min >>> 9 &&& 1))
      let chanList := chanList.set 1 (UInt8.ofNat (min >>> 1))
      let chanList := chanList.set 2 (UInt8.ofNat ((min &&& 1) <<< 7))
      setArfcns lib bv freqListBmrelSetArfcn (List.range (bv.data.length * 8)) chanList

/-! ## The lists of a BTS -/

/-- The ARFCN of a transceiver and those that its timeslots hop over are added. -/
def addTrxArfcns (lib : BitvecLib) (bv : ArfcnBits) (trx : SiTrx) : ArfcnBits :=
  trx.ts.toList.foldl (fun bv ts =>
    (List.range 1024).foldl (fun bv j => if lib.getBitPos ts.arfcns.data j ≠ 0 then bv.set lib j else bv) bv)
    (bv.set lib trx.arfcn)

/-- `generate_cell_chan_list`: the BTS keeps the set. -/
def generateCellChanList (lib : BitvecLib) (bts : SiBts) : (Int × List Octet) × SiBts :=
  let bv := bts.trxList.foldl (addTrxArfcns lib) .zero
  (bitvec2freqList lib bv bts.band, { bts with cellAlloc := bv })

/-- The ARFCNs of the other BTSs of the network; `self` is the place of the BTS among them. -/
def neighArfcns (lib : BitvecLib) (btsList : List SiBts) (self : Nat) : ArfcnBits :=
  btsList.zipIdx.foldl (fun bv (curBts, i) => if i = self then bv else bv.set lib curBts.c0.arfcn) .zero

/-- `generate_bcch_chan_list`. -/
def generateBcchChanList (lib : BitvecLib) (btsList : List SiBts) (self : Nat) (bts : SiBts) (si5 : Bool) :
    (Int × List Octet) × SiBts :=
  let manualSi5 := si5 = true ∧ bts.neighListManualMode = .manualSi5sep
  let bv := if manualSi5 then bts.si5NeighList else bts.neighList
  if bts.neighListManualMode = .automatic then
    let bv := neighArfcns lib btsList self
    (bitvec2freqList lib bv bts.band, { bts with neighList := bv })
  else (bitvec2freqList lib bv bts.band, bts)

/-! ## Decoding -/

/-- The bits of the first octet say that the list is bit map 0. -/
def isBitMap0 (cell : List Octet) : Bool := !bit cell 0 && !bit cell 1

/-- The bits of the first octet say that the list is a variable bit map. -/
def isVariableBitMap (cell : List Octet) : Bool := bit cell 0 && !bit cell 1 && bit cell 4 && bit cell 5 && bit cell 6

/-- The ARFCNs of bit map 0. -/
def bitMap0 (cell : List Octet) : Finset Nat := (Finset.Icc 1 124).filter fun arfcn => bit cell (128 - arfcn) = true

/-- `ORIG-ARFCN`: the last bit of the first octet, the second octet, the first bit of the third. -/
def origArfcn (cell : List Octet) : Nat := 512 * (bit cell 7).toNat + 2 * octetAt cell 1 + (bit cell 16).toNat

/-- The ARFCNs of a variable bit map: the origin, and those whose distance from it, which goes round at 1024, has its
    bit set. -/
def variableBitMap (cell : List Octet) : Finset Nat :=
  ((Finset.range 112).filter fun n => n = 0 ∨ bit cell (16 + n) = true).image fun n => (origArfcn cell + n) % 1024

/-- What a phone takes out of a frequency list, of the two formats that are sent. -/
def decodeFreqList (cell : List Octet) : Option (Finset Nat) :=
  if isBitMap0 cell then some (bitMap0 cell)
  else if isVariableBitMap cell then some (variableBitMap cell)
  else none

/-- The list stands for the set in the format that the band uses: bit map 0, or a variable bit map from the lowest ARFCN
    of the set, but for the empty set. -/
structure Represents (band : GsmBand) (arfcns : Finset Nat) (cell : List Octet) : Prop where
  length : cell.length = gsm48CellChanDescSize
  decoded : decodeFreqList cell = some arfcns
  format : if band = .gsm900 ∨ arfcns = ∅ then isBitMap0 cell = true
    else isBitMap0 cell = false ∧ ∀ arfcn ∈ arfcns, origArfcn cell ≤ arfcn

/-- In the 900 MHz band an ARFCN is outside the bit map; in the others, the highest is more than 111 above the
    lowest. -/
def Unrepresentable (band : GsmBand) (arfcns : Finset Nat) : Prop :=
  if band = .gsm900 then ∃ arfcn ∈ arfcns, arfcn < 1 ∨ 124 < arfcn
  else ∃ low ∈ arfcns, ∃ high ∈ arfcns, low + 111 < high

/-! ## The loop -/

/-- What setting one ARFCN does: it fails for one that does not fit, and else sets the bit at its place. -/
structure SetsBits (setArfcn : List Octet → Nat → Int × List Octet) (Inv : List Octet → Prop) (fits : Nat → Prop)
    (place : Nat → Nat → Prop) : Prop where
  fails : ∀ c arfcn, Inv c → ¬ fits arfcn → (setArfcn c arfcn).1 < 0
  done : ∀ c arfcn, Inv c → fits arfcn → (setArfcn c arfcn).1 = 0
  keeps : ∀ c arfcn, Inv c → fits arfcn → Inv (setArfcn c arfcn).2
  bits : ∀ c arfcn, Inv c → fits arfcn → ∀ n, bit (setArfcn c arfcn).2 n = true ↔ bit c n = true ∨ place arfcn n

/-- An ARFCN that does not fit makes the loop fail; without one, the loop sets the bits of all of them. -/
theorem setArfcns_spec (lib : BitvecLib) (bv : ArfcnBits) {setArfcn : List Octet → Nat → Int × List Octet}
    {Inv : List Octet → Prop} {fits : Nat → Prop} {place : Nat → Nat → Prop} (hset : SetsBits setArfcn Inv fits place)
    (l : List Nat) (c : List Octet) (hc : Inv c) :
    let out := setArfcns lib bv setArfcn l c
    let chosen := fun arfcn => arfcn ∈ l ∧ lib.getBitPos bv.data arfcn ≠ 0
    ((∃ arfcn, chosen arfcn ∧ ¬ fits arfcn) → out.1 < 0) ∧
      ((∀ arfcn, chosen arfcn → fits arfcn) →
        out.1 = 0 ∧ Inv out.2 ∧ ∀ n, bit out.2 n = true ↔ bit c n = true ∨ ∃ arfcn, chosen arfcn ∧ place arfcn n) := by
  induction l generalizing c with
  | nil => simp [setArfcns, hc]
  | cons i l ih =>
    by_cases hi : lib.getBitPos bv.data i = 0
    · have hskip : setArfcns lib bv setArfcn (i :: l) c = setArfcns lib bv setArfcn l c := by simp [setArfcns, hi]
      have hchosen : ∀ arfcn, (arfcn ∈ i :: l ∧ lib.getBitPos bv.data arfcn ≠ 0) ↔
          (arfcn ∈ l ∧ lib.getBitPos bv.data arfcn ≠ 0) := by
        intro arfcn
        rw [List.mem_cons]
        constructor
        · rintro ⟨rfl | h, hne⟩
          · exact absurd hi hne
          · exact ⟨h, hne⟩
        · exact fun ⟨h, hne⟩ => ⟨.inr h, hne⟩
      simp only [hskip, hchosen]
      exact ih c hc
    · by_cases hfits : fits i
      · have hrc := hset.done c i hc hfits
        have hnext : setArfcns lib bv setArfcn (i :: l) c = setArfcns lib bv setArfcn l (setArfcn c i).2 := by
          simp [setArfcns, hi, hrc]
        obtain ⟨hfails, hdone⟩ := ih (setArfcn c i).2 (hset.keeps c i hc hfits)
        simp only [hnext]
        refine ⟨?_, fun hall => ?_⟩
        · rintro ⟨arfcn, ⟨hmem, hne⟩, hnot⟩
          rcases List.mem_cons.mp hmem with rfl | hmem
          · exact absurd hfits hnot
          · exact hfails ⟨arfcn, ⟨hmem, hne⟩, hnot⟩
        · obtain ⟨hzero, hinv, hbits⟩ := hdone fun arfcn h => hall arfcn ⟨List.mem_cons_of_mem i h.1, h.2⟩
          refine ⟨hzero, hinv, fun n => ?_⟩
          rw [hbits n, hset.bits c i hc hfits n, or_assoc]
          refine or_congr_right ⟨?_, ?_⟩
          · rintro (hat | ⟨arfcn, ⟨hmem, hne⟩, hat⟩)
            · exact ⟨i, ⟨List.mem_cons_self, hi⟩, hat⟩
            · exact ⟨arfcn, ⟨List.mem_cons_of_mem i hmem, hne⟩, hat⟩
          · rintro ⟨arfcn, ⟨hmem, hne⟩, hat⟩
            rcases List.mem_cons.mp hmem with rfl | hmem
            · exact .inl hat
            · exact .inr ⟨arfcn, ⟨hmem, hne⟩, hat⟩
      · have hrc := hset.fails c i hc hfits
        have hstop : setArfcns lib bv setArfcn (i :: l) c = ((setArfcn c i).1, (setArfcn c i).2) := by
          simp [setArfcns, hi, hrc]
        simp only [hstop]
        exact ⟨fun _ => hrc, fun hall => absurd (hall i ⟨List.mem_cons_self, hi⟩) hfits⟩

theorem mem_range_arfcns {lib : BitvecLib} {bv : ArfcnBits} (arfcn : Nat) :
    (arfcn ∈ List.range (bv.data.length * 8) ∧ lib.getBitPos bv.data arfcn ≠ 0) ↔ arfcn ∈ bv.arfcns lib := by
  rw [List.mem_range, bv.length_data, ArfcnBits.mem_arfcns]

/-! ## Bit map 0 -/

theorem bm0_setsBits : SetsBits freqListBm0SetArfcn (fun c => c.length = 16) (fun arfcn => 1 ≤ arfcn ∧ arfcn ≤ 124)
    fun arfcn n => n = 128 - arfcn := by
  have hfit : ∀ (c : List Octet) (arfcn : Nat), 1 ≤ arfcn ∧ arfcn ≤ 124 → freqListBm0SetArfcn c arfcn =
      (0, orBit c (gsm48CellChanDescSize - 1 - (arfcn - 1) / 8) ((arfcn - 1) % 8)) := by
    intro c arfcn ⟨hlow, hhigh⟩
    exact if_neg (by omega)
  refine ⟨?_, ?_, ?_, ?_⟩
  · intro c arfcn _ hnot
    have hout : 124 < arfcn ∨ arfcn < 1 := by omega
    rw [freqListBm0SetArfcn, if_pos hout]
    simp [einval]
  · intro c arfcn _ hfits
    rw [hfit c arfcn hfits]
  · intro c arfcn hc hfits
    rw [hfit c arfcn hfits]
    exact (length_orBit ..).trans hc
  · intro c arfcn hc hfits n
    rw [hfit c arfcn hfits]
    dsimp only
    rw [bit_orBit (by unfold gsm48CellChanDescSize; omega) (Nat.mod_lt _ (by decide)), Bool.or_eq_true,
      decide_eq_true_eq]
    have hplace : 8 * (gsm48CellChanDescSize - 1 - (arfcn - 1) / 8) + 7 - (arfcn - 1) % 8 = 128 - arfcn := by
      unfold gsm48CellChanDescSize
      omega
    rw [hplace]

theorem bitvec2freqList_bm0 (lib : BitvecLib) (bv : ArfcnBits) :
    let out := bitvec2freqList lib bv .gsm900
    ((∃ arfcn ∈ bv.arfcns lib, arfcn < 1 ∨ 124 < arfcn) → out.1 < 0) ∧
      ((∀ arfcn ∈ bv.arfcns lib, 1 ≤ arfcn ∧ arfcn ≤ 124) → out.1 = 0 ∧ out.2.length = 16 ∧ isBitMap0 out.2 = true ∧
        bitMap0 out.2 = bv.arfcns lib) := by
  have hspec := setArfcns_spec lib bv bm0_setsBits (List.range (bv.data.length * 8))
    (List.replicate 16 0) List.length_replicate
  simp only [mem_range_arfcns] at hspec
  obtain ⟨hfails, hdone⟩ := hspec
  have hout : bitvec2freqList lib bv .gsm900 =
      setArfcns lib bv freqListBm0SetArfcn (List.range (bv.data.length * 8)) (List.replicate 16 0) := rfl
  simp only [hout]
  refine ⟨?_, fun hall => ?_⟩
  · rintro ⟨arfcn, hmem, hnot⟩
    exact hfails ⟨arfcn, hmem, by omega⟩
  · obtain ⟨hrc, hlen, hbits⟩ := hdone hall
    simp only [bit_replicate, Bool.false_eq_true, false_or] at hbits
    -- no ARFCN has its bit in the places of the format
    have hformat : ∀ n < 4, bit (setArfcns lib bv freqListBm0SetArfcn (List.range (bv.data.length * 8))
        (List.replicate 16 0)).2 n = false := by
      intro n hn
      rw [← Bool.not_eq_true, hbits n]
      rintro ⟨arfcn, hmem, hat⟩
      have hle := (hall arfcn hmem).2
      omega
    refine ⟨hrc, hlen, ?_, ?_⟩
    · rw [isBitMap0, hformat 0 (by decide), hformat 1 (by decide)]
      rfl
    · ext arfcn
      rw [bitMap0, Finset.mem_filter, Finset.mem_Icc, hbits]
      constructor
      · rintro ⟨hrange, other, hmem, hat⟩
        have hother := hall other hmem
        obtain rfl : arfcn = other := by omega
        exact hmem
      · intro hmem
        exact ⟨hall arfcn hmem, arfcn, hmem, rfl⟩

/-! ## Variable bit maps -/

/-- A list of 16 octets that holds the number of its lowest ARFCN. -/
structure FromLowest (low : Nat) (c : List Octet) : Prop where
  length : c.length = 16
  first : octetAt c 0 = 0x8e + low / 512
  second : octetAt c 1 = low / 2 % 256
  third : bit c 16 = decide (low % 2 = 1)

variable {low : Nat}

/-- The number is put together from its three parts. -/
theorem minArfcn_eq {c : List Octet} (hlow : low < 1024) (hc : FromLowest low c) : minArfcn c = low := by
  have hlast : octetAt c 2 >>> 7 &&& 1 = low % 2 := by
    have hbit := congrArg Bool.toNat hc.third
    unfold bit at hbit
    rw [Nat.toNat_testBit] at hbit
    rw [Nat.and_one_is_mod, Nat.shiftRight_eq_div_pow]
    have hvalue : (decide (low % 2 = 1)).toNat = low % 2 := by
      rcases Nat.mod_two_eq_zero_or_one low with h | h
      · simp [h]
      · simp [h]
    exact hbit.trans hvalue
  have hmiddle : octetAt c 1 <<< 1 ||| low % 2 = octetAt c 1 <<< 1 + low % 2 :=
    (Nat.shiftLeft_add_eq_or_of_lt (Nat.mod_lt _ (by decide)) _).symm
  have hhigh : (octetAt c 0 &&& 1) <<< 9 ||| (octetAt c 1 <<< 1 + low % 2) =
      (octetAt c 0 &&& 1) <<< 9 + (octetAt c 1 <<< 1 + low % 2) := by
    refine (Nat.shiftLeft_add_eq_or_of_lt ?_ _).symm
    have hoctet := octetAt_lt c 1
    rw [Nat.shiftLeft_eq]
    omega
  rw [minArfcn, hlast, Nat.or_assoc, hmiddle, hhigh, hc.first, hc.second, Nat.and_one_is_mod, Nat.shiftLeft_eq,
    Nat.shiftLeft_eq]
  omega

theorem bmrel_setsBits (hlow : low < 1024) :
    SetsBits freqListBmrelSetArfcn (FromLowest low) (fun arfcn => low ≤ arfcn ∧ arfcn ≤ low + 111)
      fun arfcn n => arfcn ≠ low ∧ n = 16 + (arfcn - low) := by
  have hfit : ∀ c arfcn, FromLowest low c → low < arfcn → arfcn ≤ low + 111 → freqListBmrelSetArfcn c arfcn =
      (0, orBit c (2 + (arfcn - low) / 8) (7 - (arfcn - low) % 8)) := by
    intro c arfcn hc hlt hle
    rw [freqListBmrelSetArfcn, minArfcn_eq hlow hc, if_neg (by omega), if_neg (by omega), if_neg (by omega)]
  have hsame : ∀ c, FromLowest low c → freqListBmrelSetArfcn c low = (0, c) := by
    intro c hc
    rw [freqListBmrelSetArfcn, minArfcn_eq hlow hc, if_pos rfl]
  have hbit : ∀ c arfcn, FromLowest low c → low < arfcn → arfcn ≤ low + 111 → ∀ n,
      bit (orBit c (2 + (arfcn - low) / 8) (7 - (arfcn - low) % 8)) n = true ↔
        bit c n = true ∨ n = 16 + (arfcn - low) := by
    intro c arfcn hc hlt hle n
    rw [bit_orBit (by rw [hc.length]; omega) (by omega), Bool.or_eq_true, decide_eq_true_eq]
    have hplace : 8 * (2 + (arfcn - low) / 8) + 7 - (7 - (arfcn - low) % 8) = 16 + (arfcn - low) := by omega
    rw [hplace]
  refine ⟨?_, ?_, ?_, ?_⟩
  · intro c arfcn hc hnot
    rw [freqListBmrelSetArfcn, minArfcn_eq hlow hc]
    rw [if_neg (by rintro rfl; exact hnot ⟨Nat.le_refl _, Nat.le_add_right ..⟩)]
    by_cases hlt : arfcn < low
    · rw [if_pos hlt]
      simp [einval]
    · rw [if_neg hlt, if_pos (by omega)]
      simp [einval]
  · intro c arfcn hc hfits
    by_cases hne : arfcn = low
    · rw [hne, hsame c hc]
    · rw [hfit c arfcn hc (by omega) hfits.2]
  · intro c arfcn hc hfits
    by_cases hne : arfcn = low
    · rw [hne, hsame c hc]
      exact hc
    · rw [hfit c arfcn hc (by omega) hfits.2]
      have hin : 2 + (arfcn - low) / 8 < c.length := by
        rw [hc.length]
        omega
      refine ⟨(length_orBit ..).trans hc.length, ?_, ?_, ?_⟩
      · exact (octetAt_orBit_of_ne _ hin (by omega)).trans hc.first
      · exact (octetAt_orBit_of_ne _ hin (by omega)).trans hc.second
      · rw [← hc.third, Bool.eq_iff_iff, hbit c arfcn hc (by omega) hfits.2]
        exact or_iff_left (by omega)
  · intro c arfcn hc hfits n
    by_cases hne : arfcn = low
    · rw [hne, hsame c hc]
      simp
    · rw [hfit c arfcn hc (by omega) hfits.2, hbit c arfcn hc (by omega) hfits.2 n, and_iff_right hne]

/-- The origin is the lowest ARFCN, and the format is that of a variable bit map. -/
theorem FromLowest.decoded {c : List Octet} (hlow : low < 1024) (hc : FromLowest low c) :
    origArfcn c = low ∧ isBitMap0 c = false ∧ decodeFreqList c = some (variableBitMap c) := by
  have hfirst : octetAt c 0 = 0x8e ∨ octetAt c 0 = 0x8f := by
    have h := hc.first
    omega
  have hbits : ∀ n < 8, bit c n = (octetAt c 0).testBit (7 - n) := by
    intro n hn
    rw [bit, Nat.div_eq_of_lt hn, Nat.mod_eq_of_lt hn]
  have hformat : isBitMap0 c = false ∧ isVariableBitMap c = true := by
    unfold isBitMap0 isVariableBitMap
    rw [hbits 0 (by decide), hbits 1 (by decide), hbits 4 (by decide), hbits 5 (by decide), hbits 6 (by decide)]
    rcases hfirst with h | h
    · rw [h]
      decide
    · rw [h]
      decide
  refine ⟨?_, hformat.1, ?_⟩
  · have hhigh : (bit c 7).toNat = low / 512 := by
      rw [hbits 7 (by decide), Nat.toNat_testBit, hc.first]
      omega
    have hlast : (bit c 16).toNat = low % 2 := by
      rw [hc.third]
      rcases Nat.mod_two_eq_zero_or_one low with h | h
      · simp [h]
      · simp [h]
    rw [origArfcn, hhigh, hlast, hc.second]
    omega
  · rw [decodeFreqList, if_neg (by simp [hformat.1]), if_pos hformat.2]

section

variable (lib : BitvecLib) (bv : ArfcnBits)

/-- A round takes an ARFCN of the set into account, and passes over any other. -/
theorem minMaxStep_spec (found : Int × Int) (i : Nat) :
    (lib.getBitPos bv.data i = 0 ∧ minMaxStep lib bv found i = found) ∨
      (lib.getBitPos bv.data i ≠ 0 ∧ (minMaxStep lib bv found i).1 = min (i : Int) found.1 ∧
        (minMaxStep lib bv found i).2 = max (i : Int) found.2) := by
  unfold minMaxStep
  by_cases hi : lib.getBitPos bv.data i = 0
  · exact .inl ⟨hi, if_neg (not_not.mpr hi)⟩
  · rw [if_pos hi]
    refine .inr ⟨hi, ?_, ?_⟩
    · dsimp only
      split <;> omega
    · dsimp only
      split <;> omega

theorem minMax_fold (l : List Nat) (found : Int × Int) :
    let out := l.foldl (minMaxStep lib bv) found
    let chosen := fun arfcn => arfcn ∈ l ∧ lib.getBitPos bv.data arfcn ≠ 0
    (out.1 ≤ found.1 ∧ found.2 ≤ out.2 ∧ ∀ i, chosen i → out.1 ≤ i ∧ i ≤ out.2) ∧
      (out.1 = found.1 ∨ ∃ i, chosen i ∧ out.1 = i) ∧ (out.2 = found.2 ∨ ∃ i, chosen i ∧ out.2 = i) := by
  induction l generalizing found with
  | nil => simp
  | cons i l ih =>
    obtain ⟨⟨hlow, hhigh, hall⟩, hmin, hmax⟩ := ih (minMaxStep lib bv found i)
    have hlater : ∀ j, (j ∈ l ∧ lib.getBitPos bv.data j ≠ 0) → j ∈ i :: l ∧ lib.getBitPos bv.data j ≠ 0 :=
      fun j h => ⟨List.mem_cons_of_mem i h.1, h.2⟩
    simp only [List.foldl_cons]
    rcases minMaxStep_spec lib bv found i with ⟨hskip, hsame⟩ | ⟨hi, hstepMin, hstepMax⟩
    · rw [hsame] at hlow hhigh hall hmin hmax ⊢
      refine ⟨⟨hlow, hhigh, ?_⟩, hmin.imp_right fun ⟨j, hj, h⟩ => ⟨j, hlater j hj, h⟩,
        hmax.imp_right fun ⟨j, hj, h⟩ => ⟨j, hlater j hj, h⟩⟩
      rintro j ⟨hj, hchosen⟩
      rcases List.mem_cons.mp hj with rfl | hj
      · exact absurd hskip hchosen
      · exact hall j ⟨hj, hchosen⟩
    · refine ⟨⟨by omega, by omega, ?_⟩, ?_, ?_⟩
      · rintro j ⟨hj, hchosen⟩
        rcases List.mem_cons.mp hj with rfl | hj
        · omega
        · exact hall j ⟨hj, hchosen⟩
      · rcases hmin with h | ⟨j, hj, h⟩
        · rcases min_choice (i : Int) found.1 with hchoice | hchoice
          · exact .inr ⟨i, ⟨List.mem_cons_self, hi⟩, by rw [h, hstepMin, hchoice]⟩
          · exact .inl (by rw [h, hstepMin, hchoice])
        · exact .inr ⟨j, hlater j hj, h⟩
      · rcases hmax with h | ⟨j, hj, h⟩
        · rcases max_choice (i : Int) found.2 with hchoice | hchoice
          · exact .inr ⟨i, ⟨List.mem_cons_self, hi⟩, by rw [h, hstepMax, hchoice]⟩
          · exact .inl (by rw [h, hstepMax, hchoice])
        · exact .inr ⟨j, hlater j hj, h⟩

/-- **The lowest and the highest ARFCN are found.** -/
theorem minMax_spec :
    (bv.arfcns lib = ∅ ∧ (minMax lib bv).2 = -1) ∨
      ∃ low ∈ bv.arfcns lib, ∃ high ∈ bv.arfcns lib, minMax lib bv = (↑low, ↑high) ∧
        ∀ arfcn ∈ bv.arfcns lib, low ≤ arfcn ∧ arfcn ≤ high := by
  have hfold := minMax_fold lib bv (List.range (bv.data.length * 8)) (1024, -1)
  simp only [mem_range_arfcns] at hfold
  obtain ⟨⟨_, _, hbounds⟩, hmin, hmax⟩ := hfold
  change ∀ arfcn ∈ bv.arfcns lib, (minMax lib bv).1 ≤ arfcn ∧ arfcn ≤ (minMax lib bv).2 at hbounds
  change (minMax lib bv).1 = 1024 ∨ ∃ arfcn ∈ bv.arfcns lib, (minMax lib bv).1 = arfcn at hmin
  change (minMax lib bv).2 = -1 ∨ ∃ arfcn ∈ bv.arfcns lib, (minMax lib bv).2 = arfcn at hmax
  rcases Finset.eq_empty_or_nonempty (bv.arfcns lib) with hempty | ⟨some, hsome⟩
  · rw [hempty] at hmax
    exact .inl ⟨hempty, hmax.resolve_right fun ⟨i, hi, _⟩ => Finset.notMem_empty i hi⟩
  · have hsomeBounds := hbounds some hsome
    have hlt := (ArfcnBits.mem_arfcns.mp hsome).1
    obtain ⟨low, hlow, hminEq⟩ := hmin.resolve_left (by omega)
    obtain ⟨high, hhigh, hmaxEq⟩ := hmax.resolve_left (by omega)
    refine .inr ⟨low, hlow, high, hhigh, Prod.ext hminEq hmaxEq, fun arfcn hmem => ?_⟩
    have hbound := hbounds arfcn hmem
    omega

end

/-- The three octets that hold the lowest ARFCN. -/
def variableHeader (low : Nat) : List Octet :=
  (((List.replicate 16 (0 : Octet)).set 0 ((0x8e : Octet) ||| UInt8.ofNat (low >>> 9 &&& 1))).set 1
    (UInt8.ofNat (low >>> 1))).set 2 (UInt8.ofNat ((low &&& 1) <<< 7))

theorem variableHeader_fromLowest (hlow : low < 1024) :
    FromLowest low (variableHeader low) ∧ ∀ n, 16 < n → bit (variableHeader low) n = false := by
  have hthird : UInt8.ofNat ((low &&& 1) <<< 7) = if low % 2 = 1 then 0x80 else 0 := by
    rw [Nat.and_one_is_mod]
    rcases Nat.mod_two_eq_zero_or_one low with h | h
    · rw [h]
      rfl
    · rw [h]
      rfl
  have hfirst : ((0x8e : Octet) ||| UInt8.ofNat (low >>> 9 &&& 1)).toNat = 0x8e + low / 512 := by
    rw [Nat.and_one_is_mod, Nat.shiftRight_eq_div_pow]
    have hhigh : low / 512 = 0 ∨ low / 512 = 1 := by omega
    rcases hhigh with h | h
    · rw [h]
      rfl
    · rw [h]
      rfl
  refine ⟨⟨rfl, hfirst, ?_, ?_⟩, ?_⟩
  · change (UInt8.ofNat (low >>> 1)).toNat = low / 2 % 256
    rw [UInt8.toNat_ofNat', Nat.shiftRight_eq_div_pow]
  · change (UInt8.ofNat ((low &&& 1) <<< 7)).toNat.testBit 7 = decide (low % 2 = 1)
    rw [hthird]
    by_cases h : low % 2 = 1
    · simp [h]
      decide
    · simp [h]
  · intro n hn
    by_cases hthree : n / 8 = 2
    · change (octetAt (variableHeader low) (n / 8)).testBit (7 - n % 8) = false
      rw [hthree]
      change (UInt8.ofNat ((low &&& 1) <<< 7)).toNat.testBit (7 - n % 8) = false
      rw [hthird]
      have hoff : 7 - n % 8 < 7 := by omega
      by_cases h : low % 2 = 1
      · simp only [h, if_true]
        change Nat.testBit (2 ^ 7) (7 - n % 8) = false
        rw [Nat.testBit_two_pow]
        exact decide_eq_false (by omega)
      · simp [h]
    · have hzero : octetAt (variableHeader low) (n / 8) = octetAt (List.replicate 16 0) (n / 8) := by
        unfold octetAt variableHeader
        rw [List.getD_eq_getElem?_getD, List.getD_eq_getElem?_getD]
        rw [List.getElem?_set_ne (by omega), List.getElem?_set_ne (by omega), List.getElem?_set_ne (by omega)]
      have hbit := bit_replicate 16 n
      rw [bit, ← hzero] at hbit
      exact hbit

/-- The bit map from the lowest ARFCN on, with a bit for each of the others, stands for the set. -/
theorem variableBitMap_eq {arfcns : Finset Nat} {c : List Octet} (hlow : low ∈ arfcns)
    (hlt : ∀ arfcn ∈ arfcns, arfcn < 1024) (hfit : ∀ arfcn ∈ arfcns, low ≤ arfcn ∧ arfcn ≤ low + 111)
    (horig : origArfcn c = low) (hbits : ∀ n, 0 < n → (bit c (16 + n) = true ↔ ∃ arfcn ∈ arfcns, arfcn = low + n)) :
    variableBitMap c = arfcns := by
  ext arfcn
  rw [variableBitMap, Finset.mem_image, horig]
  constructor
  · rintro ⟨n, hn, rfl⟩
    have hset := (Finset.mem_filter.mp hn).2
    rcases Nat.eq_zero_or_pos n with rfl | hpos
    · rw [Nat.add_zero, Nat.mod_eq_of_lt (hlt low hlow)]
      exact hlow
    · obtain ⟨other, hmem, rfl⟩ := (hbits n hpos).mp (hset.resolve_left hpos.ne')
      rw [Nat.mod_eq_of_lt (hlt _ hmem)]
      exact hmem
  · intro hmem
    have harfcn := hfit arfcn hmem
    refine ⟨arfcn - low, Finset.mem_filter.mpr ⟨Finset.mem_range.mpr (by omega), ?_⟩, ?_⟩
    · rcases Nat.eq_zero_or_pos (arfcn - low) with hzero | hpos
      · exact .inl hzero
      · exact .inr ((hbits _ hpos).mpr ⟨arfcn, hmem, (Nat.add_sub_cancel' harfcn.1).symm⟩)
    · rw [Nat.add_sub_cancel' harfcn.1, Nat.mod_eq_of_lt (hlt arfcn hmem)]

section

variable {band : GsmBand} (hband : band ≠ .gsm900)

include hband

theorem bitvec2freqList_empty (hmax : (minMax lib bv).2 = -1) :
    bitvec2freqList lib bv band = (0, List.replicate 16 0) := by
  unfold bitvec2freqList
  simp only [if_neg hband]
  rw [if_pos hmax]
  rfl

theorem bitvec2freqList_spread {high : Nat} (hminMax : minMax lib bv = (↑low, ↑high)) (hspan : low + 111 < high) :
    bitvec2freqList lib bv band = (-(einval : Int), (List.replicate 16 0).set 0 0x8e) := by
  unfold bitvec2freqList
  simp only [if_neg hband, hminMax]
  rw [if_neg (by omega), if_pos (by omega)]

theorem bitvec2freqList_variable {high : Nat} (hminMax : minMax lib bv = (↑low, ↑high)) (hspan : ¬ low + 111 < high) :
    bitvec2freqList lib bv band =
      setArfcns lib bv freqListBmrelSetArfcn (List.range (bv.data.length * 8)) (variableHeader low) := by
  unfold bitvec2freqList
  simp only [if_neg hband, hminMax]
  rw [if_neg (by omega), if_neg (by omega)]
  rfl

/-- What is written for a set that fits stands for it. -/
theorem represents_variable (hlow : low ∈ bv.arfcns lib)
    (hfit : ∀ arfcn ∈ bv.arfcns lib, low ≤ arfcn ∧ arfcn ≤ low + 111) :
    let out := setArfcns lib bv freqListBmrelSetArfcn (List.range (bv.data.length * 8)) (variableHeader low)
    out.1 = 0 ∧ Represents band (bv.arfcns lib) out.2 := by
  have hlt : ∀ arfcn ∈ bv.arfcns lib, arfcn < 1024 := fun arfcn hmem => (ArfcnBits.mem_arfcns.mp hmem).1
  obtain ⟨hheader, hclear⟩ := variableHeader_fromLowest (hlt low hlow)
  have hspec := setArfcns_spec lib bv (bmrel_setsBits (hlt low hlow)) (List.range (bv.data.length * 8))
    (variableHeader low) hheader
  simp only [mem_range_arfcns] at hspec
  obtain ⟨hrc, hfrom, hbits⟩ := hspec.2 hfit
  obtain ⟨horig, hnot, hdecoded⟩ := hfrom.decoded (hlt low hlow)
  refine ⟨hrc, hfrom.length, ?_, ?_⟩
  · rw [hdecoded, variableBitMap_eq hlow hlt hfit horig]
    intro n hpos
    rw [hbits, hclear (16 + n) (by omega)]
    constructor
    · intro h
      obtain ⟨other, hmem, hne, hat⟩ := h.resolve_left Bool.false_ne_true
      have hother := hfit other hmem
      exact ⟨other, hmem, by omega⟩
    · rintro ⟨other, hmem, rfl⟩
      exact .inr ⟨low + n, hmem, by omega, by omega⟩
  · have hne : bv.arfcns lib ≠ ∅ := by
      rintro h
      rw [h] at hlow
      exact absurd hlow (Finset.notMem_empty low)
    rw [if_neg (by simp [hband, hne])]
    exact ⟨hnot, fun arfcn hmem => horig.le.trans (hfit arfcn hmem).1⟩

end

theorem bitvec2freqList_bmrel (lib : BitvecLib) (bv : ArfcnBits) {band : GsmBand} (hband : band ≠ .gsm900) :
    let out := bitvec2freqList lib bv band
    ((∃ low ∈ bv.arfcns lib, ∃ high ∈ bv.arfcns lib, low + 111 < high) → out.1 < 0) ∧
      ((∀ low ∈ bv.arfcns lib, ∀ high ∈ bv.arfcns lib, high ≤ low + 111) →
        out.1 = 0 ∧ Represents band (bv.arfcns lib) out.2) := by
  rcases minMax_spec lib bv with ⟨hempty, hmax⟩ | ⟨low, hlow, high, hhigh, hminMax, hbounds⟩
  · simp only [bitvec2freqList_empty hband hmax, hempty]
    refine ⟨fun ⟨low, hmem, _⟩ => absurd hmem (Finset.notMem_empty low), fun _ => ⟨trivial, rfl, ?_, ?_⟩⟩
    · decide
    · rw [if_pos (.inr rfl)]
      decide
  · by_cases hspan : low + 111 < high
    · simp only [bitvec2freqList_spread hband hminMax hspan]
      refine ⟨fun _ => by simp [einval], fun hall => ?_⟩
      exact absurd hspan (Nat.not_lt.mpr (hall low hlow high hhigh))
    · have hfit : ∀ arfcn ∈ bv.arfcns lib, low ≤ arfcn ∧ arfcn ≤ low + 111 := by
        intro arfcn hmem
        have h := hbounds arfcn hmem
        omega
      simp only [bitvec2freqList_variable hband hminMax hspan]
      refine ⟨?_, fun _ => represents_variable hband hlow hfit⟩
      rintro ⟨one, hone, other, hother, hfar⟩
      have h1 := hfit one hone
      have h2 := hfit other hother
      omega

/-! ## What is sent -/

/-- **A set has no representation exactly if it does not fit into the bit map of the band.** -/
theorem unrepresentable_of_not_represents {band : GsmBand} {arfcns : Finset Nat} {cell : List Octet}
    (h : Represents band arfcns cell) : ¬ Unrepresentable band arfcns := by
  obtain ⟨_, hdecoded, hformat⟩ := h
  unfold Unrepresentable
  by_cases hband : band = .gsm900
  · rw [if_pos hband]
    rw [if_pos (.inl hband)] at hformat
    rw [decodeFreqList, if_pos hformat, Option.some.injEq] at hdecoded
    subst hdecoded
    rintro ⟨arfcn, hmem, hout⟩
    have hin := Finset.mem_Icc.mp (Finset.mem_filter.mp hmem).1
    omega
  · rw [if_neg hband]
    rintro ⟨low, hlow, high, hhigh, hfar⟩
    have hne : arfcns ≠ ∅ := by
      rintro rfl
      exact absurd hlow (Finset.notMem_empty low)
    rw [if_neg (by simp [hband, hne])] at hformat
    obtain ⟨hnot, horig⟩ := hformat
    rw [decodeFreqList, if_neg (by simp [hnot])] at hdecoded
    split at hdecoded
    · rw [Option.some.injEq] at hdecoded
      subst hdecoded
      obtain ⟨n, hn, hat⟩ := Finset.mem_image.mp hhigh
      have hrange := Finset.mem_range.mp (Finset.mem_filter.mp hn).1
      have hleast := horig low hlow
      omega
    · exact absurd hdecoded (by simp)

theorem bitvec2freqList_represents (lib : BitvecLib) (bv : ArfcnBits) (band : GsmBand) :
    let out := bitvec2freqList lib bv band
    (Unrepresentable band (bv.arfcns lib) → out.1 < 0) ∧
      (¬ Unrepresentable band (bv.arfcns lib) → out.1 = 0 ∧ Represents band (bv.arfcns lib) out.2) := by
  unfold Unrepresentable
  by_cases hband : band = .gsm900
  · subst hband
    obtain ⟨hfails, hdone⟩ := bitvec2freqList_bm0 lib bv
    rw [if_pos rfl]
    refine ⟨hfails, fun hnot => ?_⟩
    obtain ⟨hrc, hlen, hformat, hset⟩ := hdone fun arfcn hmem => by
      by_contra hout
      exact hnot ⟨arfcn, hmem, by omega⟩
    refine ⟨hrc, hlen, ?_, ?_⟩
    · rw [decodeFreqList, if_pos hformat, hset]
    · rw [if_pos (.inl rfl)]
      exact hformat
  · obtain ⟨hfails, hdone⟩ := bitvec2freqList_bmrel lib bv hband
    rw [if_neg hband]
    refine ⟨hfails, fun hnot => hdone fun low hlow high hhigh => ?_⟩
    by_contra hfar
    exact hnot ⟨low, hlow, high, hhigh, by omega⟩

theorem bitvec2freqList_decodes (lib : BitvecLib) (bv : ArfcnBits) (band : GsmBand)
    (hrc : 0 ≤ (bitvec2freqList lib bv band).1) :
    decodeFreqList (bitvec2freqList lib bv band).2 = some (bv.arfcns lib) := by
  obtain ⟨hfails, hdone⟩ := bitvec2freqList_represents lib bv band
  by_cases hun : Unrepresentable band (bv.arfcns lib)
  · exact absurd (hfails hun) (not_lt.mpr hrc)
  · exact (hdone hun).2.decoded

/-- **A frequency list that is sent designates exactly the set it was made from, and none is made only if the set has no
    representation.** -/
theorem bitvec2freqList_exact (lib : BitvecLib) (bv : ArfcnBits) (band : GsmBand) :
    (0 ≤ (bitvec2freqList lib bv band).1 → decodeFreqList (bitvec2freqList lib bv band).2 = some (bv.arfcns lib)) ∧
    ((bitvec2freqList lib bv band).1 < 0 ↔ Unrepresentable band (bv.arfcns lib)) ∧
    ((bitvec2freqList lib bv band).1 < 0 ↔ ¬ ∃ cell, Represents band (bv.arfcns lib) cell) := by
  obtain ⟨hfails, hdone⟩ := bitvec2freqList_represents lib bv band
  by_cases hun : Unrepresentable band (bv.arfcns lib)
  · have hrc := hfails hun
    refine ⟨fun h => absurd hrc (by omega), iff_of_true hrc hun, iff_of_true hrc ?_⟩
    rintro ⟨cell, hcell⟩
    exact unrepresentable_of_not_represents hcell hun
  · obtain ⟨hrc, hrep⟩ := hdone hun
    refine ⟨fun _ => hrep.decoded, iff_of_false (by omega) hun, iff_of_false (by omega) ?_⟩
    exact fun hnone => hnone ⟨_, hrep⟩

/-! ### The sets of a BTS -/

theorem mem_arfcns_foldl {α : Type} {lib : BitvecLib} {step : ArfcnBits → α → ArfcnBits} (adds : α → Nat → Prop)
    (hstep : ∀ bv a n, n ∈ (step bv a).arfcns lib ↔ adds a n ∨ n ∈ bv.arfcns lib) (l : List α)
    (bv : ArfcnBits) (n : Nat) :
    n ∈ (l.foldl step bv).arfcns lib ↔ (∃ a ∈ l, adds a n) ∨ n ∈ bv.arfcns lib := by
  induction l generalizing bv with
  | nil => simp
  | cons a l ih =>
    rw [List.foldl_cons, ih, hstep, List.exists_mem_cons_iff, ← or_assoc, or_comm (b := adds a n)]

theorem mem_addTrxArfcns {lib : BitvecLib} (bv : ArfcnBits) (trx : SiTrx) (n : Nat) :
    n ∈ (addTrxArfcns lib bv trx).arfcns lib ↔
      ((trx.arfcn = n ∧ n < 1024) ∨ ∃ ts ∈ trx.ts.toList, n ∈ ts.arfcns.arfcns lib) ∨ n ∈ bv.arfcns lib := by
  have hts : ∀ (bv : ArfcnBits) (ts : TsHopping) n, n ∈ ((List.range 1024).foldl (fun bv j =>
      if lib.getBitPos ts.arfcns.data j ≠ 0 then bv.set lib j else bv) bv).arfcns lib ↔
        n ∈ ts.arfcns.arfcns lib ∨ n ∈ bv.arfcns lib := by
    intro bv ts n
    rw [mem_arfcns_foldl fun j n => lib.getBitPos ts.arfcns.data j ≠ 0 ∧ n = j ∧ j < 1024]
    · refine or_congr_left ⟨?_, fun h => ?_⟩
      · rintro ⟨j, _, hset, rfl, hlt⟩
        exact ArfcnBits.mem_arfcns.mpr ⟨hlt, hset⟩
      · obtain ⟨hlt, hset⟩ := ArfcnBits.mem_arfcns.mp h
        exact ⟨n, List.mem_range.mpr hlt, hset, rfl, hlt⟩
    · intro bv j n
      by_cases hset : lib.getBitPos ts.arfcns.data j ≠ 0
      · rw [if_pos hset, ArfcnBits.mem_arfcns_set, and_iff_right hset]
      · rw [if_neg hset]
        exact (or_iff_right fun h => hset h.1).symm
  rw [addTrxArfcns, mem_arfcns_foldl (fun ts n => n ∈ ts.arfcns.arfcns lib) hts, ArfcnBits.mem_arfcns_set, ← or_assoc]
  refine or_congr_left ?_
  rw [or_comm]
  refine or_congr_left ⟨fun ⟨h, hlt⟩ => ⟨h.symm, h ▸ hlt⟩, fun ⟨h, hlt⟩ => ⟨h.symm, h ▸ hlt⟩⟩

/-- **The cell allocation has the ARFCNs of the transceivers, and those that their timeslots hop over.** -/
theorem generateCellChanList_exact (lib : BitvecLib) (bts : SiBts) :
    (∀ n, n ∈ (generateCellChanList lib bts).2.cellAlloc.arfcns lib ↔ ∃ trx ∈ bts.trxList,
      (trx.arfcn = n ∧ n < 1024) ∨ ∃ ts ∈ trx.ts.toList, n ∈ ts.arfcns.arfcns lib) ∧
    (0 ≤ (generateCellChanList lib bts).1.1 → decodeFreqList (generateCellChanList lib bts).1.2 =
      some ((generateCellChanList lib bts).2.cellAlloc.arfcns lib)) := by
  refine ⟨fun n => ?_, bitvec2freqList_decodes lib _ bts.band⟩
  change n ∈ (bts.trxList.foldl (addTrxArfcns lib) .zero).arfcns lib ↔ _
  rw [mem_arfcns_foldl _ mem_addTrxArfcns, ArfcnBits.arfcns_zero]
  exact or_iff_left (Finset.notMem_empty n)

/-- **The neighbours of a BTS are the other BTSs, unless the operator has given a list.** -/
theorem generateBcchChanList_exact (lib : BitvecLib) (btsList : List SiBts) (self : Nat) (bts : SiBts) (si5 : Bool) :
    ∃ bv : ArfcnBits,
      (bts.neighListManualMode = .automatic → ∀ n, n ∈ bv.arfcns lib ↔
        ∃ i other, btsList[i]? = some other ∧ i ≠ self ∧ other.c0.arfcn = n ∧ n < 1024) ∧
      (bts.neighListManualMode = .manual → bv = bts.neighList) ∧
      (bts.neighListManualMode = .manualSi5sep → bv = if si5 then bts.si5NeighList else bts.neighList) ∧
      (0 ≤ (generateBcchChanList lib btsList self bts si5).1.1 →
        decodeFreqList (generateBcchChanList lib btsList self bts si5).1.2 = some (bv.arfcns lib)) := by
  cases hmode : bts.neighListManualMode with
  | automatic =>
    refine ⟨neighArfcns lib btsList self, fun _ n => ?_, nofun, nofun, ?_⟩
    · rw [neighArfcns, mem_arfcns_foldl fun (p : SiBts × Nat) n =>
        p.2 ≠ self ∧ n = p.1.c0.arfcn ∧ p.1.c0.arfcn < 1024]
      · rw [ArfcnBits.arfcns_zero]
        constructor
        · rintro (⟨⟨other, i⟩, hmem, hne, rfl, hlt⟩ | h)
          · exact ⟨i, other, List.mem_zipIdx_iff_getElem?.mp hmem, hne, rfl, hlt⟩
          · exact absurd h (Finset.notMem_empty n)
        · rintro ⟨i, other, hat, hne, rfl, hlt⟩
          exact .inl ⟨(other, i), List.mem_zipIdx_iff_getElem?.mpr hat, hne, rfl, hlt⟩
      · rintro bv ⟨other, i⟩ n
        by_cases hself : i = self
        · simp [hself]
        · simp only [if_neg hself]
          rw [ArfcnBits.mem_arfcns_set]
          simp [hself]
    · have hout : (generateBcchChanList lib btsList self bts si5).1 =
          bitvec2freqList lib (neighArfcns lib btsList self) bts.band := by
        simp [generateBcchChanList, hmode]
      rw [hout]
      exact bitvec2freqList_decodes lib _ bts.band
  | manual =>
    refine ⟨bts.neighList, nofun, fun _ => rfl, nofun, ?_⟩
    have hout : (generateBcchChanList lib btsList self bts si5).1 = bitvec2freqList lib bts.neighList bts.band := by
      simp [generateBcchChanList, hmode]
    rw [hout]
    exact bitvec2freqList_decodes lib _ bts.band
  | manualSi5sep =>
    refine ⟨if si5 then bts.si5NeighList else bts.neighList, nofun, nofun, fun _ => rfl, ?_⟩
    have hout : (generateBcchChanList lib btsList self bts si5).1 =
        bitvec2freqList lib (if si5 then bts.si5NeighList else bts.neighList) bts.band := by
      simp [generateBcchChanList, hmode]
    rw [hout]
    exact bitvec2freqList_decodes lib _ bts.band

end OpenBsc.Libbsc
