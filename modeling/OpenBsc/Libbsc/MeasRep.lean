import OpenBsc.Lib.BitString
import OpenBsc.Lib.Buffer

/-!
# `Libbsc.MeasRep` — the measurement results of a phone (`gsm_04_08_utils.c`)

A phone on a channel reports how well it receives the serving cell and up to six neighbours. The report is a string of
128 bits; each neighbour takes 17 of them, so no two have their fields at the same places of an octet.
`gsm48_parse_meas_rep` takes each field out with its own shifts and masks.

Of the record, what the report of the BTS sets, and not the parser, is left out but for the flags.
-/

namespace OpenBsc.Libbsc

open Buffer BitString Prog

/-! ## The record -/

/-- `struct gsm_meas_rep_cell`; `processed` is the flag `MRC_F_PROCESSED`. -/
structure GsmMeasRepCell where
  rxlev : Nat := 0
  bsic : Nat := 0
  neighIdx : Nat := 0
  arfcn : Nat := 0
  processed : Bool := false

/-- `struct gsm_rx_lev_qual`. -/
structure GsmRxLevQual where
  rxLev : Nat := 0
  rxQual : Nat := 0

/-- `struct gsm_meas_rep_unidir`. -/
structure GsmMeasRepUnidir where
  full : GsmRxLevQual := {}
  sub : GsmRxLevQual := {}

/-- `MEAS_REP_F_*`. -/
structure MeasRepFlags where
  ulDtx : Bool := false
  dlValid : Bool := false
  ba1 : Bool := false
  dlDtx : Bool := false
  msTo : Bool := false
  msL1 : Bool := false
  fpc : Bool := false

/-- `struct gsm_meas_rep`. -/
structure GsmMeasRep where
  nr : Nat := 0
  flags : MeasRepFlags := {}
  dl : GsmMeasRepUnidir := {}
  numCell : Nat := 0
  cell : Vector GsmMeasRepCell 6 := .replicate 6 {}

/-! ## The parser -/

/-- What the report says of the serving cell, and of how many neighbours it has. The information begins behind the
    header of two octets. -/
def measRepServing (rep : GsmMeasRep) : Prog GsmMeasRep := do
  let d0 ← octet 2
  let d1 ← octet 3
  let d3 ← octet 5
  let d2 ← octet 4
  return { rep with
    flags := { rep.flags with
      ba1 := rep.flags.ba1 || decide (d0.toNat &&& 0x80 ≠ 0)
      ulDtx := rep.flags.ulDtx || decide (d0.toNat &&& 0x40 ≠ 0)
      dlValid := rep.flags.dlValid || decide (d1.toNat &&& 0x40 = 0) }
    dl :=
      { full := { rxLev := d0.toNat &&& 0x3f, rxQual := d3.toNat >>> 4 &&& 0x7 }
        sub := { rxLev := d1.toNat &&& 0x3f, rxQual := d3.toNat >>> 1 &&& 0x7 } }
    numCell := (d3.toNat >>> 6 &&& 0x3) ||| (d2.toNat &&& 0x01) <<< 2 }

/-- Level, index and identity code of a neighbour: an encoding nightmare in perfection. -/
def measRepCell : Fin 6 → Prog (Nat × Nat × Nat)
  | 0 => do
      let d3 ← octet 5
      let d4 ← octet 6
      let d5 ← octet 7
      return (d3.toNat &&& 0x3f, d4.toNat >>> 3, (d4.toNat &&& 0x07) <<< 3 ||| d5.toNat >>> 5)
  | 1 => do
      let d5 ← octet 7
      let d6 ← octet 8
      let d7 ← octet 9
      return ((d5.toNat &&& 0x1f) <<< 1 ||| d6.toNat >>> 7, d6.toNat >>> 2 &&& 0x1f,
        (d6.toNat &&& 0x03) <<< 4 ||| d7.toNat >>> 4)
  | 2 => do
      let d7 ← octet 9
      let d8 ← octet 10
      let d9 ← octet 11
      return ((d7.toNat &&& 0x0f) <<< 2 ||| d8.toNat >>> 6, d8.toNat >>> 1 &&& 0x1f,
        (d8.toNat &&& 0x01) <<< 5 ||| d9.toNat >>> 3)
  | 3 => do
      let d9 ← octet 11
      let d10 ← octet 12
      let d11 ← octet 13
      return ((d9.toNat &&& 0x07) <<< 3 ||| d10.toNat >>> 5, d10.toNat &&& 0x1f, d11.toNat >>> 2)
  | 4 => do
      let d11 ← octet 13
      let d12 ← octet 14
      let d13 ← octet 15
      return ((d11.toNat &&& 0x03) <<< 4 ||| d12.toNat >>> 4, (d12.toNat &&& 0xf) <<< 1 ||| d13.toNat >>> 7,
        d13.toNat >>> 1 &&& 0x3f)
  | 5 => do
      let d13 ← octet 15
      let d14 ← octet 16
      let d15 ← octet 17
      return ((d13.toNat &&& 0x01) <<< 5 ||| d14.toNat >>> 3, (d14.toNat &&& 0x07) <<< 2 ||| d15.toNat >>> 6,
        d15.toNat &&& 0x3f)

/-- An entry of the record is filled. `arfcnOf` is `bitvec_get_nth_set_bit` on the neighbour list of the cell. -/
def fillCell (arfcnOf : Nat → Nat) (rep : GsmMeasRep) (k : Fin 6) : Prog GsmMeasRep := do
  let (rxlev, neighIdx, bsic) ← measRepCell k
  write 6 (k + 1)
  let mrc := { rep.cell[k] with rxlev := rxlev, neighIdx := neighIdx, arfcn := arfcnOf (neighIdx + 1), bsic := bsic }
  return { rep with cell := rep.cell.set k mrc }

/-- The flag `MRC_F_PROCESSED` of a cell is set. -/
def GsmMeasRep.setProcessed (mr : GsmMeasRep) (i : Fin 6) : GsmMeasRep :=
  { mr with cell := mr.cell.set i { mr.cell[i] with processed := true } }

/-- `gsm48_parse_meas_rep`: what it returns, and the record afterwards. -/
def gsm48ParseMeasRep (arfcnOf : Nat → Nat) (rep : GsmMeasRep) : Prog (Int × GsmMeasRep) := do
  let msgType ← octet 1
  if msgType ≠ 0x15 then return (-einval, rep)
  else
    let rep ← measRepServing rep
    if rep.numCell < 1 ∨ 6 < rep.numCell then return (0, rep)
    else
      -- after each entry it ends if there are no more
      let rep ← ((List.finRange 6).take rep.numCell).foldlM (fillCell arfcnOf) rep
      return (0, rep)

variable (arfcnOf : Nat → Nat) (rep : GsmMeasRep) (r : MeasResults) (behind : Nat → Octet)

/-- **Whatever is received, only the 16 octets of information and the header are read, and six entries are filled at
    most.** -/
theorem safe_gsm48ParseMeasRep (mem : Nat → Octet) :
    (gsm48ParseMeasRep arfcnOf rep).Safe 18 mem := by
  have hcell : ∀ (rep : GsmMeasRep), ∀ k ∈ (List.finRange 6), (fillCell arfcnOf rep k).Safe 18 mem := by
    intro rep k _
    have hread : (measRepCell k).Safe 18 mem := by
      unfold measRepCell
      split <;> simp
    simp only [fillCell, safe_bind, safe_write, safe_pure, and_true]
    exact ⟨hread, k.isLt⟩
  have hserving : (measRepServing rep).Safe 18 mem := by
    simp [measRepServing]
  simp only [gsm48ParseMeasRep, safe_bind, safe_octet, safe_ite, safe_pure]
  refine ⟨by omega, fun _ => trivial, fun _ => ⟨hserving, fun _ => trivial, fun _ => ⟨?_, trivial⟩⟩⟩
  exact safe_foldlM (fun rep k hk => hcell rep k (List.mem_of_mem_take hk)) _

/-! ## The format -/

/-- What is reported of a neighbour: the level, the index of its frequency, and its identity code. -/
structure NeighbourResult where
  rxlev : Fin 64
  bcchFreq : Fin 32
  bsic : Fin 64

/-- The measurement results of a report. -/
structure MeasResults where
  ba1 : Bool
  dtx : Bool
  valid : Bool
  rxlevFull : Fin 64
  rxlevSub : Fin 64
  rxqualFull : Fin 8
  rxqualSub : Fin 8
  neighbours : List NeighbourResult
  few : neighbours.length ≤ 6

/-- A neighbour by its number; the places of those there are not are zero. -/
def MeasResults.neighbour (r : MeasResults) (k : Nat) : NeighbourResult := r.neighbours.getD k ⟨0, 0, 0⟩

def NeighbourResult.fields (c : NeighbourResult) : List (Nat × Nat) := [(6, c.rxlev), (5, c.bcchFreq), (6, c.bsic)]

/-- The fields that are not about a neighbour. -/
def MeasResults.servingFields (r : MeasResults) : List (Nat × Nat) :=
  [(1, r.ba1.toNat), (1, r.dtx.toNat), (6, r.rxlevFull), (1, 0), (1, (!r.valid).toNat), (6, r.rxlevSub), (1, 0),
    (3, r.rxqualFull), (3, r.rxqualSub), (3, r.neighbours.length)]

/-- The fields of the measurement results element, one after the other. -/
def MeasResults.fields (r : MeasResults) : List (Nat × Nat) :=
  r.servingFields ++ (List.range 6).flatMap fun k => (r.neighbour k).fields

/-- The element, in 16 octets. -/
def MeasResults.packed (r : MeasResults) : List Octet := toOctets (pack r.fields) 16

theorem NeighbourResult.fits (c : NeighbourResult) : Fits c.fields := by
  intro f hf
  simp only [NeighbourResult.fields, List.mem_cons, List.not_mem_nil, or_false] at hf
  rcases hf with rfl | rfl | rfl
  · exact c.rxlev.isLt
  · exact c.bcchFreq.isLt
  · exact c.bsic.isLt

theorem MeasResults.fits : Fits r.fields := by
  have hfew := r.few
  intro f hf
  rcases List.mem_append.mp hf with hf | hf
  · simp only [servingFields, List.mem_cons, List.not_mem_nil, or_false] at hf
    rcases hf with rfl | rfl | rfl | rfl | rfl | rfl | rfl | rfl | rfl | rfl
    · exact Bool.toNat_lt _
    · exact Bool.toNat_lt _
    · exact r.rxlevFull.isLt
    · exact Nat.zero_lt_two
    · exact Bool.toNat_lt _
    · exact r.rxlevSub.isLt
    · exact Nat.zero_lt_two
    · exact r.rxqualFull.isLt
    · exact r.rxqualSub.isLt
    · show r.neighbours.length < 8
      omega
  · obtain ⟨k, -, hf⟩ := List.mem_flatMap.mp hf
    exact NeighbourResult.fits _ f hf

theorem width_neighbours (ks : List Nat) :
    width (ks.flatMap fun k => (r.neighbour k).fields) = 17 * ks.length := by
  induction ks with
  | nil => rfl
  | cons k ks ih =>
    rw [List.flatMap_cons, width_append, ih, List.length_cons]
    simp only [NeighbourResult.fields, width_cons, width_nil]
    omega

/-! ## What is parsed -/

variable {n : Nat} {mem : Nat → Octet}

/-- Each expression of the parser takes the field out that it is for. -/
theorem value_measRepCell (hmem : ∀ i < 16, (mem (i + 2)).toNat = field n (8 * (15 - i)) 8) (k : Fin 6) :
    (measRepCell k).value mem =
      (field n (17 * (5 - k) + 11) 6, field n (17 * (5 - k) + 6) 5, field n (17 * (5 - k)) 6) := by
  match k with
  | 0 =>
    show ((mem (3 + 2)).toNat &&& 0x3f, (mem (4 + 2)).toNat >>> 3,
      ((mem (4 + 2)).toNat &&& 0x07) <<< 3 ||| (mem (5 + 2)).toNat >>> 5) = _
    rw [hmem 3 (by omega), hmem 4 (by omega), hmem 5 (by omega)]
    exact Prod.ext (field_mask n 96 (w := 6) (by omega))
      (Prod.ext (field_shift n 88 (b := 3) (by omega)) (field_shift_or n 80 (a := 3) (b := 5) (by omega) (by omega)))
  | 1 =>
    show (((mem (5 + 2)).toNat &&& 0x1f) <<< 1 ||| (mem (6 + 2)).toNat >>> 7, (mem (6 + 2)).toNat >>> 2 &&& 0x1f,
      ((mem (6 + 2)).toNat &&& 0x03) <<< 4 ||| (mem (7 + 2)).toNat >>> 4) = _
    rw [hmem 5 (by omega), hmem 6 (by omega), hmem 7 (by omega)]
    exact Prod.ext (field_shift_or n 72 (a := 5) (b := 7) (by omega) (by omega))
      (Prod.ext (field_shift_mask n 72 (b := 2) (w := 5) (by omega))
        (field_shift_or n 64 (a := 2) (b := 4) (by omega) (by omega)))
  | 2 =>
    show (((mem (7 + 2)).toNat &&& 0x0f) <<< 2 ||| (mem (8 + 2)).toNat >>> 6, (mem (8 + 2)).toNat >>> 1 &&& 0x1f,
      ((mem (8 + 2)).toNat &&& 0x01) <<< 5 ||| (mem (9 + 2)).toNat >>> 3) = _
    rw [hmem 7 (by omega), hmem 8 (by omega), hmem 9 (by omega)]
    exact Prod.ext (field_shift_or n 56 (a := 4) (b := 6) (by omega) (by omega))
      (Prod.ext (field_shift_mask n 56 (b := 1) (w := 5) (by omega))
        (field_shift_or n 48 (a := 1) (b := 3) (by omega) (by omega)))
  | 3 =>
    show (((mem (9 + 2)).toNat &&& 0x07) <<< 3 ||| (mem (10 + 2)).toNat >>> 5, (mem (10 + 2)).toNat &&& 0x1f,
      (mem (11 + 2)).toNat >>> 2) = _
    rw [hmem 9 (by omega), hmem 10 (by omega), hmem 11 (by omega)]
    exact Prod.ext (field_shift_or n 40 (a := 3) (b := 5) (by omega) (by omega))
      (Prod.ext (field_mask n 40 (w := 5) (by omega)) (field_shift n 32 (b := 2) (by omega)))
  | 4 =>
    show (((mem (11 + 2)).toNat &&& 0x03) <<< 4 ||| (mem (12 + 2)).toNat >>> 4,
      ((mem (12 + 2)).toNat &&& 0xf) <<< 1 ||| (mem (13 + 2)).toNat >>> 7, (mem (13 + 2)).toNat >>> 1 &&& 0x3f) = _
    rw [hmem 11 (by omega), hmem 12 (by omega), hmem 13 (by omega)]
    exact Prod.ext (field_shift_or n 24 (a := 2) (b := 4) (by omega) (by omega))
      (Prod.ext (field_shift_or n 16 (a := 4) (b := 7) (by omega) (by omega))
        (field_shift_mask n 16 (b := 1) (w := 6) (by omega)))
  | 5 =>
    show (((mem (13 + 2)).toNat &&& 0x01) <<< 5 ||| (mem (14 + 2)).toNat >>> 3,
      ((mem (14 + 2)).toNat &&& 0x07) <<< 2 ||| (mem (15 + 2)).toNat >>> 6, (mem (15 + 2)).toNat &&& 0x3f) = _
    rw [hmem 13 (by omega), hmem 14 (by omega), hmem 15 (by omega)]
    exact Prod.ext (field_shift_or n 8 (a := 1) (b := 3) (by omega) (by omega))
      (Prod.ext (field_shift_or n 0 (a := 3) (b := 6) (by omega) (by omega)) (field_mask n 0 (w := 6) (by omega)))

theorem MeasResults.cell_eq {k : Nat} (hk : k < 6) :
    field (pack r.fields) (17 * (5 - k) + 11) 6 = (r.neighbour k).rxlev ∧
    field (pack r.fields) (17 * (5 - k) + 6) 5 = (r.neighbour k).bcchFreq ∧
    field (pack r.fields) (17 * (5 - k)) 6 = (r.neighbour k).bsic := by
  have hrange : ∀ k < 6, List.range 6 = List.range k ++ k :: List.range' (k + 1) (5 - k) := by decide
  obtain ⟨before, rest, hsplit, hrest⟩ : ∃ before rest, r.fields = before ++ (r.neighbour k).fields ++ rest ∧
      width rest = 17 * (5 - k) := by
    refine ⟨r.servingFields ++ (List.range k).flatMap fun k => (r.neighbour k).fields, _, ?_,
      (width_neighbours r (List.range' (k + 1) (5 - k))).trans (by rw [List.length_range'])⟩
    rw [fields, hrange k hk, List.flatMap_append, List.flatMap_cons, ← List.append_assoc, ← List.append_assoc]
  have hfits := r.fits
  simp only [NeighbourResult.fields, List.append_assoc, List.cons_append, List.nil_append] at hsplit
  rw [hsplit] at hfits ⊢
  rw [← hrest]
  have hfirst := field_pack hfits
  have hsecond : field (pack ((before ++ [(6, ((r.neighbour k).rxlev : Nat))]) ++
      (5, ((r.neighbour k).bcchFreq : Nat)) :: (6, ((r.neighbour k).bsic : Nat)) :: rest))
      (width ((6, ((r.neighbour k).bsic : Nat)) :: rest)) 5 = (r.neighbour k).bcchFreq :=
    field_pack (by simpa using hfits)
  have hthird : field (pack ((before ++ [(6, ((r.neighbour k).rxlev : Nat)), (5, ((r.neighbour k).bcchFreq : Nat))]) ++
      (6, ((r.neighbour k).bsic : Nat)) :: rest)) (width rest) 6 = (r.neighbour k).bsic :=
    field_pack (by simpa using hfits)
  simp only [width_cons, List.append_assoc, List.cons_append, List.nil_append] at hfirst hsecond hthird
  have hwhere : width rest + 11 = 5 + (6 + width rest) := by omega
  rw [hwhere, Nat.add_comm (width rest) 6]
  exact ⟨hfirst, hsecond, hthird⟩

/-- The results are those that were reported. -/
structure Decodes (r : MeasResults) (rep : GsmMeasRep) : Prop where
  ba1 : rep.flags.ba1 = r.ba1
  dtx : rep.flags.ulDtx = r.dtx
  valid : rep.flags.dlValid = r.valid
  rxlevFull : rep.dl.full.rxLev = r.rxlevFull
  rxlevSub : rep.dl.sub.rxLev = r.rxlevSub
  rxqualFull : rep.dl.full.rxQual = r.rxqualFull
  rxqualSub : rep.dl.sub.rxQual = r.rxqualSub
  numCell : rep.numCell = r.neighbours.length
  cell : ∀ (k : Nat) (hk : k < 6) (c : NeighbourResult), r.neighbours[k]? = some c →
    rep.cell[k].rxlev = c.rxlev ∧ rep.cell[k].neighIdx = c.bcchFreq ∧ rep.cell[k].bsic = c.bsic

/-- The report in memory, from its header on. -/
def reported (r : MeasResults) (behind : Nat → Octet) : Nat → Octet := memory ([0x06, 0x15] ++ r.packed) behind

theorem reported_eq {i : Nat} (hi : i < 16) :
    (reported r behind (i + 2)).toNat = field (pack r.fields) (8 * (15 - i)) 8 := by
  have hlen : r.packed.length = 16 := length_toOctets _ _
  unfold reported
  rw [memory_of_lt (by simp [hlen]; omega)]
  exact octetAt_toOctets _ hi

/-- Where the other fields are. The two qualities are in the octet before the one they are looked for in. -/
theorem MeasResults.serving_eq :
    field (pack r.fields) 127 1 = r.ba1.toNat ∧ field (pack r.fields) 126 1 = r.dtx.toNat ∧
    field (pack r.fields) 120 6 = r.rxlevFull ∧ field (pack r.fields) 118 1 = (!r.valid).toNat ∧
    field (pack r.fields) 112 6 = r.rxlevSub ∧ field (pack r.fields) 102 3 = r.neighbours.length := by
  have hwidth := width_neighbours r (List.range 6)
  obtain ⟨rest, hsplit, hrest⟩ : ∃ rest, r.fields = r.servingFields ++ rest ∧ width rest = 102 :=
    ⟨_, rfl, hwidth⟩
  have hfits := r.fits
  rw [hsplit] at hfits ⊢
  have hfield : ∀ before f after, r.servingFields = before ++ f :: after →
      field (pack (r.servingFields ++ rest)) (width after + 102) f.1 = f.2 := by
    intro before f after hparts
    rw [hparts, List.append_assoc, List.cons_append] at hfits ⊢
    rw [← hrest, ← width_append]
    exact field_pack hfits
  have hba1 := hfield [] (1, r.ba1.toNat) _ rfl
  have hdtx := hfield [_] (1, r.dtx.toNat) _ rfl
  have hfull := hfield [_, _] (6, (r.rxlevFull : Nat)) _ rfl
  have hvalid := hfield [_, _, _, _] (1, (!r.valid).toNat) _ rfl
  have hsub := hfield [_, _, _, _, _] (6, (r.rxlevSub : Nat)) _ rfl
  have hnum := hfield [_, _, _, _, _, _, _, _, _] (3, r.neighbours.length) _ rfl
  simp only [width_cons, width_nil] at hba1 hdtx hfull hvalid hsub hnum
  exact ⟨hba1, hdtx, hfull, hvalid, hsub, hnum⟩

/-- The parser takes the qualities from bits of the number of neighbours and of the level of the first one. -/
theorem MeasResults.misread_eq :
    field (pack r.fields) 100 3 = 4 * (r.neighbours.length % 2) + (r.neighbour 0).rxlev / 16 ∧
    field (pack r.fields) 97 3 = (r.neighbour 0).rxlev / 2 % 8 := by
  have hnum := r.serving_eq.2.2.2.2.2
  have hlev := (r.cell_eq (k := 0) (by omega)).1
  have hdiv : ∀ j, pack r.fields / 2 ^ (96 + j) = pack r.fields / 2 ^ 96 / 2 ^ j := by
    intro j
    rw [Nat.div_div_eq_div_mul, ← Nat.pow_add]
  unfold field at hnum hlev ⊢
  rw [show 102 = 96 + 6 from rfl, hdiv] at hnum
  rw [show 100 = 96 + 4 from rfl, show 97 = 96 + 1 from rfl, hdiv, hdiv]
  simp only [Nat.sub_zero] at hlev
  generalize pack r.fields / 2 ^ 96 = m at *
  have hlev : m % 64 = (r.neighbour 0).rxlev := hlev
  omega

/-! ### The record afterwards -/

/-- The record with the serving cell in it, as the parser takes it from a report. -/
def servingParsed (rep : GsmMeasRep) (r : MeasResults) : GsmMeasRep :=
  { rep with
    flags := { rep.flags with
      ba1 := rep.flags.ba1 || r.ba1
      ulDtx := rep.flags.ulDtx || r.dtx
      dlValid := rep.flags.dlValid || r.valid }
    dl :=
      { full := { rxLev := r.rxlevFull, rxQual := 4 * (r.neighbours.length % 2) + (r.neighbour 0).rxlev / 16 }
        sub := { rxLev := r.rxlevSub, rxQual := (r.neighbour 0).rxlev / 2 % 8 } }
    numCell := r.neighbours.length }

theorem value_measRepServing :
    (measRepServing rep).value (reported r behind) = servingParsed rep r := by
  obtain ⟨hba1, hdtx, hfull, hvalid, hsub, hnum⟩ := r.serving_eq
  obtain ⟨hqualFull, hqualSub⟩ := r.misread_eq
  have h0 := reported_eq r behind (i := 0) (by omega)
  have h1 := reported_eq r behind (i := 1) (by omega)
  have h2 := reported_eq r behind (i := 2) (by omega)
  have h3 := reported_eq r behind (i := 3) (by omega)
  have hone : ∀ b : Bool, decide (b.toNat = 1) = b := by decide
  have hbit : ∀ n k (b : Nat), b < 8 → decide (field n k 8 &&& 2 ^ b ≠ 0) = decide (field n (k + b) 1 = 1) :=
    fun n k b hb => decide_eq_decide.mpr (field_bit n k hb)
  unfold servingParsed
  simp only [measRepServing, value_bind, value_octet, value_pure, h0, h1, h2, h3]
  have hflagBa1 : decide (field (pack r.fields) 120 8 &&& 0x80 ≠ 0) = r.ba1 := by
    rw [← hone r.ba1, ← hba1]
    exact hbit _ 120 7 (by omega)
  have hflagDtx : decide (field (pack r.fields) 120 8 &&& 0x40 ≠ 0) = r.dtx := by
    rw [← hone r.dtx, ← hdtx]
    exact hbit _ 120 6 (by omega)
  have hflagValid : decide (field (pack r.fields) 112 8 &&& 0x40 = 0) = r.valid := by
    have hset : decide (field (pack r.fields) 112 8 &&& 0x40 ≠ 0) = !r.valid := by
      rw [← hone (!r.valid), ← hvalid]
      exact hbit _ 112 6 (by omega)
    simpa using hset
  have hlevFull : field (pack r.fields) 120 8 &&& 0x3f = r.rxlevFull :=
    (field_mask _ 120 (w := 6) (by omega)).trans hfull
  have hlevSub : field (pack r.fields) 112 8 &&& 0x3f = r.rxlevSub := (field_mask _ 112 (w := 6) (by omega)).trans hsub
  have hmisFull :
      field (pack r.fields) 96 8 >>> 4 &&& 0x7 = 4 * (r.neighbours.length % 2) + (r.neighbour 0).rxlev / 16 :=
    (field_shift_mask _ 96 (b := 4) (w := 3) (by omega)).trans hqualFull
  have hmisSub : field (pack r.fields) 96 8 >>> 1 &&& 0x7 = (r.neighbour 0).rxlev / 2 % 8 :=
    (field_shift_mask _ 96 (b := 1) (w := 3) (by omega)).trans hqualSub
  have hcount : (field (pack r.fields) 96 8 >>> 6 &&& 0x3) ||| (field (pack r.fields) 104 8 &&& 0x01) <<< 2 =
      r.neighbours.length := by
    have hlow : field (pack r.fields) 96 8 >>> 6 &&& 0x3 = field (pack r.fields) 96 8 >>> 6 :=
      (field_shift_mask _ 96 (b := 6) (w := 2) (by omega)).trans (field_shift _ 96 (b := 6) (by omega)).symm
    rw [hlow, Nat.lor_comm]
    exact (field_shift_or _ 96 (a := 1) (b := 6) (by omega) (by omega)).trans hnum
  simp only [hflagBa1, hflagDtx, hflagValid, hlevFull, hlevSub, hmisFull, hmisSub, hcount]

/-- The entry holds what was reported of the neighbour `k`. -/
def Reports (r : MeasResults) (mrc : GsmMeasRepCell) (k : Nat) : Prop :=
  mrc.rxlev = (r.neighbour k).rxlev ∧ mrc.neighIdx = (r.neighbour k).bcchFreq ∧ mrc.bsic = (r.neighbour k).bsic

theorem value_fillCell (k : Fin 6) :
    ∃ mrc, (fillCell arfcnOf rep k).value (reported r behind) = { rep with cell := rep.cell.set k mrc } ∧
      Reports r mrc k := by
  obtain ⟨hlev, hfreq, hbsic⟩ := r.cell_eq k.isLt
  have hcell := value_measRepCell (fun i hi => reported_eq r behind hi) k
  rw [hlev, hfreq, hbsic] at hcell
  refine ⟨{ rep.cell[k] with
    rxlev := (r.neighbour k).rxlev
    neighIdx := (r.neighbour k).bcchFreq
    arfcn := arfcnOf ((r.neighbour k).bcchFreq + 1)
    bsic := (r.neighbour k).bsic }, ?_, rfl, rfl, rfl⟩
  simp only [fillCell, value_bind, hcell, value_pure]

/-- The entries that are filled hold what was reported, and nothing else changes. -/
theorem value_fillCells (ks : List (Fin 6))
    (rep : GsmMeasRep) :
    ∃ cells, (ks.foldlM (fillCell arfcnOf) rep).value (reported r behind) = { rep with cell := cells } ∧
      ∀ j : Fin 6, (j ∈ ks → Reports r cells[j] j) ∧ (j ∉ ks → cells[j] = rep.cell[j]) := by
  induction ks generalizing rep with
  | nil => exact ⟨rep.cell, rfl, fun j => ⟨fun h => absurd h List.not_mem_nil, fun _ => rfl⟩⟩
  | cons k ks ih =>
    obtain ⟨mrc, hfill, hreports⟩ := value_fillCell arfcnOf rep r behind k
    obtain ⟨cells, hrest, hcells⟩ := ih { rep with cell := rep.cell.set k mrc }
    refine ⟨cells, ?_, fun j => ⟨fun hj => ?_, fun hj => ?_⟩⟩
    · rw [List.foldlM_cons, value_bind, hfill, hrest]
    · by_cases hmem : j ∈ ks
      · exact (hcells j).1 hmem
      · have hjk : j = k := (List.mem_cons.mp hj).resolve_right hmem
        have hset : cells[j] = mrc := by
          rw [(hcells j).2 hmem, hjk]
          simp
        rw [hset, hjk]
        exact hreports
    · obtain ⟨hjk, hmem⟩ : j ≠ k ∧ j ∉ ks := by simpa using hj
      rw [(hcells j).2 hmem]
      exact Vector.getElem_set_ne k.isLt j.isLt fun h => hjk (Fin.ext h.symm)

theorem reported_msgType : reported r behind 1 = 0x15 := by
  simp [reported, memory]

/-- **What the parser makes of a report.** -/
theorem value_gsm48ParseMeasRep :
    ∃ cells,
      (gsm48ParseMeasRep arfcnOf rep).value (reported r behind) = (0, { servingParsed rep r with cell := cells }) ∧
      ∀ (k : Nat) (hk : k < 6), k < r.neighbours.length → Reports r cells[k] k := by
  have hfew := r.few
  unfold gsm48ParseMeasRep
  rw [value_bind, value_octet, reported_msgType, if_neg (not_not_intro rfl), value_bind, value_measRepServing]
  by_cases hnone : (servingParsed rep r).numCell < 1 ∨ 6 < (servingParsed rep r).numCell
  · rw [if_pos hnone]
    have hnum : r.neighbours.length < 1 ∨ 6 < r.neighbours.length := hnone
    exact ⟨rep.cell, rfl, fun k _ hk => by omega⟩
  · rw [if_neg hnone]
    obtain ⟨cells, hvalue, hcells⟩ := value_fillCells arfcnOf r behind
      ((List.finRange 6).take (servingParsed rep r).numCell) (servingParsed rep r)
    refine ⟨cells, ?_, fun k hk hlen => (hcells ⟨k, hk⟩).1 ?_⟩
    · rw [value_bind, hvalue]
      rfl
    · have hnum : (servingParsed rep r).numCell = r.neighbours.length := rfl
      exact List.mem_take_iff_getElem.mpr ⟨k, by simp [hnum]; omega, by simp⟩

/-- The two qualities are those bits that the parser takes for them: the lowest bit of the number of neighbours with the
    two highest of the first one's level, and the three below the highest two. And no flag is set in the record that the
    report does not set. -/
structure ParsedRightly (rep : GsmMeasRep) (r : MeasResults) : Prop where
  rxqualFull : (r.rxqualFull : Nat) = 4 * (r.neighbours.length % 2) + (r.neighbour 0).rxlev / 16
  rxqualSub : (r.rxqualSub : Nat) = (r.neighbour 0).rxlev / 2 % 8
  ba1 : rep.flags.ba1 = true → r.ba1 = true
  dtx : rep.flags.ulDtx = true → r.dtx = true
  valid : rep.flags.dlValid = true → r.valid = true

/-- **Measurement results.** Whatever a phone reports, and whatever the record held before: the results parsed are those
    reported exactly if the qualities happen to be read rightly. And whatever is received, the parser reads the 16
    octets of information only, and fills six entries at most. -/
theorem measRep_decodes_iff (arfcnOf : Nat → Nat) (rep : GsmMeasRep) :
    (∀ (r : MeasResults) (behind : Nat → Octet),
      Decodes r ((gsm48ParseMeasRep arfcnOf rep).value (reported r behind)).2 ↔ ParsedRightly rep r) ∧
    ∀ mem, (gsm48ParseMeasRep arfcnOf rep).Safe 18 mem := by
  refine ⟨fun r behind => ?_, safe_gsm48ParseMeasRep arfcnOf rep⟩
  obtain ⟨cells, hvalue, hcells⟩ := value_gsm48ParseMeasRep arfcnOf rep r behind
  have hor : ∀ a b : Bool, (a || b) = b ↔ (a = true → b = true) := by decide
  rw [hvalue]
  constructor
  · intro h
    exact ⟨h.rxqualFull.symm, h.rxqualSub.symm, (hor _ _).mp h.ba1, (hor _ _).mp h.dtx, (hor _ _).mp h.valid⟩
  · intro h
    refine ⟨(hor _ _).mpr h.ba1, (hor _ _).mpr h.dtx, (hor _ _).mpr h.valid, rfl, rfl, h.rxqualFull.symm,
      h.rxqualSub.symm, rfl, fun k hk c hc => ?_⟩
    obtain ⟨hlt, hget⟩ := List.getElem?_eq_some_iff.mp hc
    have hneighbour : r.neighbour k = c := by
      unfold MeasResults.neighbour
      rw [List.getD_eq_getElem?_getD, hc, Option.getD_some]
    have hreports := hcells k hk hlt
    unfold Reports at hreports
    rw [hneighbour] at hreports
    exact hreports

/-- A phone that receives the serving cell well, and no neighbour, in the best quality but for errors. -/
def plainResults (rxqual : Fin 8) : MeasResults :=
  { ba1 := false, dtx := false, valid := true, rxlevFull := 40, rxlevSub := 41, rxqualFull := rxqual,
    rxqualSub := rxqual,
    neighbours := [], few := by decide }

/-- **A quality of 5 is parsed as 0.** -/
theorem not_decodes_quality : ¬ ∀ (arfcnOf : Nat → Nat) (r : MeasResults) (behind : Nat → Octet),
    Decodes r ((gsm48ParseMeasRep arfcnOf {}).value (reported r behind)).2 := by
  intro h
  have hqual := (h id (plainResults 5) fun _ => 0).rxqualFull
  revert hqual
  decide

end OpenBsc.Libbsc
