import OpenBsc.Lib.Bitmap
import OpenBsc.Libtrau.RtpProxy
import OpenBsc.Libtrau.TrauMux

/-!
# `Libtrau.TrauFrames` — full rate speech between TRAU and RTP (`trau_mux.c`)

Both have the 260 bits of a frame in the order of the codec parameters; a TRAU frame has each parameter's bits the other
way round (`mirror`). `trau_mux_input` and `trau_send_frame` walk over the bits with the same counters, which `RoundInv`
relates to one another. They convert every frame rightly (`converts`) and stay inside it, but the round of the last bit
already looks up the width of the next parameter, behind the end of the table (`not_convertsWell`).
-/

namespace OpenBsc.Libtrau

open List Bitmap

/-! ## The source -/

/-- `gsm_fr_map`: the widths of the codec parameters. -/
def gsmFrMap : List Nat :=
  [6, 6, 5, 5, 4, 4, 3, 3,
   7, 2, 2, 6, 3, 3, 3, 3, 3, 3, 3, 3, 3, 3, 3, 3, 3,
   7, 2, 2, 6, 3, 3, 3, 3, 3, 3, 3, 3, 3, 3, 3, 3, 3,
   7, 2, 2, 6, 3, 3, 3, 3, 3, 3, 3, 3, 3, 3, 3, 3, 3,
   7, 2, 2, 6, 3, 3, 3, 3, 3, 3, 3, 3, 3, 3, 3, 3, 3]

/-- An element of the table; `behind` lies behind its end. -/
def frWidth (behind : Octet) (l : Nat) : Nat := gsmFrMap.getD l behind.toNat

/-- The counters of the two loops, but for `i`. -/
structure FrCounters where
  j : Nat
  k : Int
  l : Nat
  o : Nat
  deriving DecidableEq

/-- What a round does to the counters. -/
def FrCounters.next (behind : Octet) (c : FrCounters) : FrCounters :=
  if c.k - 1 < 0 then
    { j := c.j + 1, k := frWidth behind (c.l + 1) - 1, l := c.l + 1, o := c.o + frWidth behind c.l }
  else { c with j := c.j + 1, k := c.k - 1 }

/-- The counters in the round `i`. -/
def frCounters (behind : Octet) : Nat → FrCounters
  | 0 => { j := 4, k := frWidth behind 0 - 1, l := 0, o := 0 }
  | i + 1 => (frCounters behind i).next behind

/-- `while (i < n)`, with what both loops do to the counters. -/
def frLoop {σ : Type} (behind : Octet) (body : FrCounters → σ → σ) (s : σ) : Nat → σ
  | 0 => s
  | i + 1 => body (frCounters behind i) (frLoop behind body s i)

/-- The bit `j` of an RTP frame: `(data[j/8] >> (7-(j%8))) & 1`. -/
def frameBit (data : List Octet) (j : Nat) : Bool := (data.getD (j / 8) 0).toBitVec.getLsbD (7 - j % 8)

/-- `data[j/8] |= (tf.d_bits[k+o] << (7-(j%8)))`; the bits of a TRAU frame are 0 or 1. -/
def putBit (dBits : List Bool) (c : FrCounters) (data : List Octet) : List Octet :=
  data.modify (c.j / 8) fun octet =>
    octet ||| ⟨(BitVec.ofBool (dBits.getD (c.k + c.o).toNat false)).setWidth 8 <<< (7 - c.j % 8)⟩

/-- The D-bits that `trau_mux_input` reassembles. -/
def reassembled (behind : Octet) (dBits : List Bool) : List Octet :=
  frLoop behind (putBit dBits) (0xd0 :: List.replicate 32 0) 260

/-- `trau_mux_input`, for a frame that decodes and a sub-slot that is not mapped; `none` is an error. -/
def TrauMux.frameUp (mux : TrauMux) (mem : Bool) (behind : Octet) (srcE1Ss : GsmE1Subslot) (dBits : List Bool) :
    Option GsmDataFrame :=
  match mux.trauMuxInput srcE1Ss with
  | .mncc _ callref => if mem then some ⟨.tchfFrame, callref, reassembled behind dBits⟩ else none
  | .subslot _ | .einval => none

/-- `struct decoded_trau_frame`. -/
structure DecodedTrauFrame where
  cBits : List Bool
  dBits : List Bool
  tBits : List Bool
  deriving DecidableEq

/-- The D-bits that `trau_send_frame` reassembles; `stack` is what the array holds before. -/
def spread (behind : Octet) (stack : List Bool) (data : List Octet) : List Bool :=
  frLoop behind (fun c dBits => dBits.set (c.k + c.o).toNat (frameBit data c.j)) stack 260

/-- `trau_send_frame`: the frame for the multiplexer of the E1 timeslot, if there is one (`mx`). -/
def trauSendFrame (mx : Bool) (behind : Octet) (stack : List Bool) (frame : GsmDataFrame) : Option DecodedTrauFrame :=
  if mx then
    match frame.msgType with
    | .tchfFrame => some
        { cBits := [true, true, true, false, false] ++ List.replicate 6 false ++ List.replicate 10 true
          dBits := spread behind stack frame.data
          tBits := List.replicate 4 true }
    | .tchfFrameEfr => none
  else none

/-! ## The purpose -/

/-- Where a bit goes if each of the fields has its bits reversed in place. -/
def mirror : List Nat → Nat → Nat
  | [], n => n
  | w :: ws, n => if n < w then w - 1 - n else w + mirror ws (n - w)

/-- An element of the table, of the D-bits or of the data. -/
inductive FrAccess where
  | map (l : Nat)
  | dBits (i : Int)
  | data (i : Nat)
  deriving DecidableEq

def FrAccess.Within : FrAccess → Prop
  | .map l => l < gsmFrMap.length
  | .dBits i => 0 ≤ i ∧ i < 260
  | .data i => i < 33

/-- What a round accesses: the two bits, and at the end of a parameter its width and that of the next. -/
def FrCounters.accesses (c : FrCounters) : List FrAccess :=
  .dBits (c.k + c.o) :: .data (c.j / 8) :: if c.k - 1 < 0 then [.map c.l, .map (c.l + 1)] else []

/-- What either conversion accesses. -/
def frAccesses (behind : Octet) : List FrAccess :=
  .map 0 :: (List.range 260).flatMap fun i => (frCounters behind i).accesses

/-- **Both conversions are right**, on this TRAU frame and that RTP frame: they are inverse to each other, mirror each
    parameter and sign the RTP frame; so frames for a call come back as they were. -/
structure Converts (behind : Octet) (stack dBits : List Bool) (data : List Octet) : Prop where
  up : spread behind stack (reassembled behind dBits) = dBits
  down : reassembled behind (spread behind stack data) = data
  parameters : ∀ n < 260, frameBit (reassembled behind dBits) (n + 4) = dBits.getD (mirror gsmFrMap n) false
  signature : (reassembled behind dBits).getD 0 0 >>> 4 = 0xd
  relayed : ∀ (mux : TrauMux) (srcE1Ss : GsmE1Subslot) (net : Nat) (callref : BitVec 32),
    mux.trauMuxInput srcE1Ss = .mncc net callref →
      ((mux.frameUp true behind srcE1Ss dBits).bind (trauSendFrame true behind stack)).map (·.dBits) = some dBits ∧
      ((trauSendFrame true behind stack ⟨.tchfFrame, callref, data⟩).bind fun tf =>
        mux.frameUp true behind srcE1Ss tf.dBits).map (·.data) = some data

/-- **They do what they are for**, and access nothing else. -/
structure ConvertsWell (behind : Octet) (stack dBits : List Bool) (data : List Octet) : Prop
    extends Converts behind stack dBits data where
  within : ∀ a ∈ frAccesses behind, a.Within

/-! ## Mirrors -/

theorem mirror_lt (ws : List Nat) {n : Nat} (h : n < ws.sum) : mirror ws n < ws.sum := by
  induction ws generalizing n with
  | nil => exact h
  | cons w ws ih =>
    rw [sum_cons] at h ⊢
    unfold mirror
    split
    · omega
    · have hrest := ih (n := n - w) (by omega)
      omega

theorem mirror_mirror {ws : List Nat} {n : Nat} (h : n < ws.sum) : mirror ws (mirror ws n) = n := by
  induction ws generalizing n with
  | nil => rfl
  | cons w ws ih =>
    rw [sum_cons] at h
    rw [mirror, mirror]
    by_cases hn : n < w
    · rw [if_pos hn, if_pos (by omega)]
      omega
    · rw [if_neg hn, if_neg (by omega), Nat.add_sub_cancel_left, ih (by omega)]
      omega

theorem mirror_append {front back : List Nat} {w n : Nat} (hle : front.sum ≤ n) (hlt : n < front.sum + w) :
    mirror (front ++ w :: back) n = front.sum + (w - 1 - (n - front.sum)) := by
  induction front generalizing n with
  | nil => simpa [mirror] using fun hn => absurd hlt (by simpa using hn)
  | cons v front ih =>
    rw [sum_cons] at hle hlt ⊢
    rw [cons_append, mirror, if_neg (by omega), ih (by omega) (by omega)]
    omega

/-! ## The loop -/

/-- **The counters in a round.** The parameter `l` begins at the bit `o`, and `k` of its bits come after this one. -/
structure RoundInv (i : Nat) (c : FrCounters) : Prop where
  parameter : ∃ (front back : List Nat) (w : Nat), gsmFrMap = front ++ w :: back ∧ c.l = front.length ∧
    c.o = front.sum ∧
    c.o ≤ i ∧ i + c.k + 1 = c.o + w
  bit : c.j = i + 4
  nonneg : 0 ≤ c.k

theorem totals {front back : List Nat} {w : Nat} (h : gsmFrMap = front ++ w :: back) :
    front.sum + (w + back.sum) = 260 ∧ front.length + (back.length + 1) = 76 := by
  have hsum := congrArg List.sum h
  have hlen := congrArg List.length h
  rw [sum_append, sum_cons] at hsum
  rw [length_append, length_cons] at hlen
  exact ⟨hsum.symm, hlen.symm⟩

theorem frWidth_at {front back : List Nat} {w : Nat} (behind : Octet) (h : gsmFrMap = front ++ w :: back) :
    frWidth behind front.length = w := by
  rw [frWidth, h]
  simp

theorem roundInv (behind : Octet) : ∀ {i : Nat}, i < 260 → RoundInv i (frCounters behind i)
  | 0, _ => ⟨⟨[], _, 6, rfl, rfl, rfl, Nat.le_refl _, rfl⟩, rfl, (by decide : (0 : Int) ≤ 6 - 1)⟩
  | i + 1, hi => by
    obtain ⟨⟨front, back, w, hmap, hl, ho, hle, hk⟩, hj, hnonneg⟩ := roundInv behind (Nat.lt_of_succ_lt hi)
    rw [frCounters, FrCounters.next]
    split
    case isTrue hlast =>
      cases back with
      | nil =>
        have hsum := (totals hmap).1
        rw [sum_nil] at hsum
        omega
      | cons w' back =>
        have hmap' : gsmFrMap = (front ++ [w]) ++ w' :: back := by rw [hmap]; simp
        have hpos : ∀ v ∈ gsmFrMap, 0 < v := by decide
        have hw' := hpos w' (by rw [hmap']; simp)
        have hwidth : frWidth behind (frCounters behind i).l = w := hl ▸ frWidth_at behind hmap
        have hnext : frWidth behind ((frCounters behind i).l + 1) = w' := by
          rw [hl, ← frWidth_at behind hmap', length_append, length_singleton]
        rw [hwidth, hnext]
        refine ⟨⟨front ++ [w], back, w', hmap', ?_, ?_, ?_, ?_⟩, ?_, ?_⟩
        all_goals simp only [hl, ho, hj, length_append, length_singleton, sum_append, sum_singleton]
        all_goals omega
    case isFalse hmore =>
      refine ⟨⟨front, back, w, hmap, hl, ho, ?_, ?_⟩, ?_, ?_⟩
      all_goals simp only
      all_goals omega

theorem RoundInv.index {i : Nat} {c : FrCounters} (h : RoundInv i c) : (c.k + c.o).toNat = mirror gsmFrMap i := by
  obtain ⟨⟨front, back, w, hmap, -, ho, hle, hk⟩, -, hnonneg⟩ := h
  rw [hmap, mirror_append (by omega) (by omega)]
  omega

/-! ## Every bit -/

section

variable (behind : Octet) {stack dBits : List Bool} {data : List Octet}

theorem spread_loop (hstack : stack.length = 260) {n : Nat} (hn : n ≤ 260) :
    (frLoop behind (fun c dBits => dBits.set (c.k + c.o).toNat (frameBit data c.j)) stack n).length = 260 ∧ ∀ i < n,
      (frLoop behind (fun c dBits => dBits.set (c.k + c.o).toNat (frameBit data c.j)) stack n)[mirror gsmFrMap i]? =
        some (frameBit data (i + 4)) := by
  induction n with
  | zero => exact ⟨hstack, nofun⟩
  | succ n ih =>
    obtain ⟨hlen, hbits⟩ := ih (by omega)
    have hround := roundInv behind (i := n) hn
    rw [frLoop, hround.index, hround.bit]
    refine ⟨by rw [length_set, hlen], fun i hi => ?_⟩
    by_cases hlast : i = n
    · subst hlast
      exact getElem?_set_self (hlen ▸ mirror_lt gsmFrMap hn)
    · have hne : mirror gsmFrMap n ≠ mirror gsmFrMap i := fun heq => hlast <| by
        have hback := congrArg (mirror gsmFrMap) heq
        rwa [mirror_mirror (show n < gsmFrMap.sum from hn),
          mirror_mirror (show i < gsmFrMap.sum from Nat.lt_of_lt_of_le hi hn), eq_comm] at hback
      rw [getElem?_set_ne hne]
      exact hbits i (by omega)

/-- Where a bit of an RTP frame goes. -/
theorem getElem?_spread (hstack : stack.length = 260) {m : Nat} (hm : m < 260) :
    (spread behind stack data)[m]? = some (frameBit data (mirror gsmFrMap m + 4)) := by
  have hm' : mirror gsmFrMap m < 260 := mirror_lt gsmFrMap hm
  have hbit : (spread behind stack data)[mirror gsmFrMap (mirror gsmFrMap m)]? = _ :=
    (spread_loop behind hstack (Nat.le_refl 260)).2 _ hm'
  rwa [mirror_mirror (show m < gsmFrMap.sum from hm)] at hbit

theorem frameBit_putBit {c : FrCounters} (hj : c.j / 8 < data.length) (n : Nat) :
    frameBit (putBit dBits c data) n =
      (frameBit data n || (decide (n = c.j) && dBits.getD (c.k + c.o).toNat false)) := by
  unfold putBit
  cases dBits.getD (c.k + c.o).toNat false with
  | false =>
    rw [Bool.and_false, Bool.or_false]
    have hzero : ∀ b < 8, (⟨(BitVec.ofBool false).setWidth 8 <<< b⟩ : Octet) = 0 := by decide
    rw [hzero _ (by omega)]
    simp only [UInt8.or_zero]
    exact congrArg (frameBit · n) (modify_id _ _)
  | true =>
    have hone : ∀ b < 8, (⟨(BitVec.ofBool true).setWidth 8 <<< b⟩ : Octet) = UInt8.ofNat (1 <<< b) := by decide
    rw [hone _ (by omega), Bool.and_true]
    refine (bit_orBit hj (by omega) n).trans ?_
    congr 2
    exact propext (by omega)

theorem reassembled_loop {n : Nat} (hn : n ≤ 260) :
    (frLoop behind (putBit dBits) (0xd0 :: replicate 32 0) n).length = 33 ∧
      ∀ j < 264, frameBit (frLoop behind (putBit dBits) (0xd0 :: replicate 32 0) n) j =
        (frameBit (0xd0 :: replicate 32 0) j ||
          (decide (4 ≤ j ∧ j < n + 4) && dBits.getD (mirror gsmFrMap (j - 4)) false)) := by
  induction n with
  | zero =>
    refine ⟨rfl, fun j _ => ?_⟩
    rw [decide_eq_false (by omega), Bool.false_and, Bool.or_false]
    rfl
  | succ n ih =>
    obtain ⟨hlen, hbits⟩ := ih (by omega)
    have hround := roundInv behind (i := n) hn
    refine ⟨by rw [frLoop, putBit, length_modify, hlen], fun j hj => ?_⟩
    have hinside : (frCounters behind n).j / 8 <
        (frLoop behind (putBit dBits) (0xd0 :: replicate 32 0) n).length := by
      rw [hlen, hround.bit]
      omega
    rw [frLoop, frameBit_putBit hinside, hbits j hj, hround.index, hround.bit, Bool.or_assoc]
    congr 1
    by_cases hlast : j = n + 4
    · subst hlast
      simp
    · have hsame : (4 ≤ j ∧ j < n + 1 + 4) ↔ (4 ≤ j ∧ j < n + 4) := by omega
      simp [hlast, hsame]

theorem length_reassembled : (reassembled behind dBits).length = 33 := (reassembled_loop behind (Nat.le_refl 260)).1

/-- The bits of the signature, and where a bit of a TRAU frame goes. -/
theorem frameBit_reassembled {j : Nat} (hj : j < 264) :
    frameBit (reassembled behind dBits) j =
      if j < 4 then frameBit [0xd0] j else dBits.getD (mirror gsmFrMap (j - 4)) false := by
  refine ((reassembled_loop behind (Nat.le_refl 260)).2 j hj).trans ?_
  have hfirst : ∀ j < 264, frameBit (0xd0 :: replicate 32 0) j = (decide (j < 4) && frameBit [0xd0] j) := by
    decide +kernel
  rw [hfirst j hj]
  by_cases hsign : j < 4
  · rw [if_pos hsign, decide_eq_true hsign, decide_eq_false (by omega)]
    simp
  · rw [if_neg hsign, decide_eq_false hsign, decide_eq_true (by omega)]
    simp

/-- What is signed begins with the bits of the signature. -/
theorem signed_iff : data.getD 0 0 >>> 4 = 0xd ↔ ∀ j < 4, frameBit data j = frameBit [0xd0] j := by
  have hall : ∀ n < 256, (UInt8.ofNat n >>> 4 = 0xd ↔ ∀ j < 4, frameBit [UInt8.ofNat n] j = frameBit [0xd0] j) := by
    decide +kernel
  have hfirst := hall _ (data.getD 0 0).toNat_lt
  rw [UInt8.ofNat_toNat] at hfirst
  refine hfirst.trans (forall₂_congr fun j hj => ?_)
  unfold frameBit
  rw [Nat.div_eq_of_lt (by omega)]
  rfl

/-- **Frames are converted** rightly, if they are of full length and the RTP frame is signed. -/
theorem converts (hstack : stack.length = 260) (hbits : dBits.length = 260) (hdata : data.length = 33)
    (hsigned : data.getD 0 0 >>> 4 = 0xd) : Converts behind stack dBits data := by
  have hparameters : ∀ n < 260, frameBit (reassembled behind dBits) (n + 4) = dBits.getD (mirror gsmFrMap n) false := by
    intro n hn
    rw [frameBit_reassembled behind (by omega), if_neg (by omega), Nat.add_sub_cancel]
  have hup : spread behind stack (reassembled behind dBits) = dBits := by
    refine ext_getElem? fun m => ?_
    by_cases hm : m < 260
    · rw [getElem?_spread behind hstack hm, hparameters _ (mirror_lt gsmFrMap hm),
        mirror_mirror (show m < gsmFrMap.sum from hm)]
      simp [hbits, hm]
    · have hlen : (spread behind stack (reassembled behind dBits)).length = 260 :=
        (spread_loop behind hstack (Nat.le_refl 260)).1
      rw [getElem?_eq_none (l := dBits) (by omega)]
      exact getElem?_eq_none (by omega)
  have hdown : reassembled behind (spread behind stack data) = data := by
    refine eq_of_bit (by rw [length_reassembled, hdata]) fun j hj => ?_
    rw [length_reassembled] at hj
    refine (frameBit_reassembled behind hj).trans ?_
    split
    case isTrue hsign => exact (signed_iff.mp hsigned j hsign).symm
    case isFalse hrest =>
      have hj' : j - 4 < gsmFrMap.sum := show j - 4 < 260 by omega
      rw [getD_eq_getElem?_getD, getElem?_spread behind hstack (mirror_lt _ hj'), mirror_mirror hj',
        Nat.sub_add_cancel (by omega)]
      rfl
  exact
    { up := hup
      down := hdown
      parameters := hparameters
      signature := signed_iff.mpr fun j hj => by rw [frameBit_reassembled behind (by omega), if_pos hj]
      relayed := fun mux srcE1Ss net callref hroute => by
        simp [TrauMux.frameUp, hroute, trauSendFrame, hup, hdown] }

end

/-! ## Every frame -/

/-- Only the round of the last bit looks behind the end of the table, -/
theorem RoundInv.accesses {i : Nat} {c : FrCounters} (h : RoundInv i c) (hi : i < 260) :
    ∀ a ∈ c.accesses, a.Within ∨ a = .map 76 := by
  obtain ⟨⟨front, back, w, hmap, hl, ho, hle, hk⟩, hj, hnonneg⟩ := h
  obtain ⟨hsum, hlen⟩ := totals hmap
  rw [← ho] at hsum
  rw [← hl] at hlen
  intro a ha
  rw [FrCounters.accesses] at ha
  rcases mem_cons.mp ha with rfl | ha
  · exact .inl ⟨by omega, by omega⟩
  rcases mem_cons.mp ha with rfl | ha
  · exact .inl (show c.j / 8 < 33 by omega)
  split at ha
  case isTrue =>
    rcases mem_cons.mp ha with rfl | ha
    · exact .inl (show c.l < 76 by omega)
    · cases mem_singleton.mp ha
      by_cases hlast : c.l + 1 = 76
      · exact .inr (by rw [hlast])
      · exact .inl (show c.l + 1 < 76 by omega)
  case isFalse => exact absurd ha not_mem_nil

/-- and that one does. -/
theorem map_mem_frAccesses (behind : Octet) : .map 76 ∈ frAccesses behind := by
  refine mem_cons_of_mem _ (mem_flatMap.mpr ⟨259, mem_range.mpr (by decide), ?_⟩)
  obtain ⟨⟨front, back, w, hmap, hl, ho, -, hk⟩, -, hnonneg⟩ := roundInv behind (i := 259) (by decide)
  have hpos : ∀ v ∈ gsmFrMap, 0 < v := by decide
  obtain ⟨hsum, hlen⟩ := totals hmap
  rw [← ho] at hsum
  rw [← hl] at hlen
  cases back with
  | cons v back =>
    have hv := hpos v (by rw [hmap]; simp)
    rw [sum_cons] at hsum
    omega
  | nil =>
    rw [sum_nil] at hsum
    rw [length_nil] at hlen
    have hnext : (frCounters behind 259).l + 1 = 76 := by omega
    rw [FrCounters.accesses, if_pos (by omega), hnext]
    exact mem_cons_of_mem _ (mem_cons_of_mem _ (mem_cons_of_mem _ mem_cons_self))

/-- **Every frame.** It is converted rightly if it is of full length and signed; but each of the two conversions reads
    the octet behind the table, and nothing else outside. -/
theorem not_convertsWell (behind : Octet) (stack dBits : List Bool) (data : List Octet) :
    (stack.length = 260 ∧ dBits.length = 260 ∧ data.length = 33 ∧ data.getD 0 0 >>> 4 = 0xd →
        Converts behind stack dBits data) ∧
      (∀ a ∈ frAccesses behind, a.Within ∨ a = .map 76) ∧ ¬ ConvertsWell behind stack dBits data := by
  refine ⟨fun ⟨hstack, hbits, hdata, hsigned⟩ => converts behind hstack hbits hdata hsigned, fun a ha => ?_,
    fun hwell => ?_⟩
  · rcases mem_cons.mp ha with rfl | ha
    · exact .inl (show 0 < 76 by decide)
    · obtain ⟨i, hi, ha⟩ := mem_flatMap.mp ha
      exact (roundInv behind (mem_range.mp hi)).accesses (mem_range.mp hi) a ha
  · exact absurd (hwell.within _ (map_mem_frAccesses behind)) (by decide : ¬ 76 < 76)

/-- Half a frame of ones, and a frame of alternating bits. -/
theorem converts_alternating :
    Converts 0 (replicate 260 true) (replicate 130 true ++ replicate 130 false) (0xda :: replicate 32 0xaa) :=
  (not_convertsWell 0 _ _ _).1 ⟨length_replicate, by rw [length_append, length_replicate, length_replicate], rfl, rfl⟩

/-- Not even silence is converted well. -/
theorem not_convertsWell_silence : ¬ ConvertsWell 0 (List.replicate 260 true) (List.replicate 260 false)
    (0xd0 :: List.replicate 32 0) :=
  fun hwell => absurd (hwell.within _ (map_mem_frAccesses 0)) (by decide : ¬ 76 < 76)

end OpenBsc.Libtrau
