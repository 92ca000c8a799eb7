import Mathlib.Tactic.IntervalCases
import OpenBsc.Lib.Buffer
import OpenBsc.Llc.Entity

/-!
# `Llc.FrameParsing` — what `gprs_llc_hdr_parse` reads of a frame, and what it says of it

A frame is an address octet, a control field of one to three octets by its format, an information field for some of the
formats, and three octets of FCS. The parser asks for four octets before it knows the format, so the control field of a
short frame is read from the FCS, or from behind the frame, and the length of the information field wraps around.
-/

namespace OpenBsc.Llc

open Buffer Prog

/-! ## Reads -/

/-- `ctrl[i]`. -/
def ctrlOctet (i : Nat) : Prog Nat := do
  let o ← octet (1 + i)
  pure o.toNat

/-- `(llc_hdr + len - 3) - ghp->data` as a `uint16_t`, by the length of the frame. -/
def dataLen16 (len data : Nat) : Nat := (((len : Int) - 3 - data) % 65536).toNat

/-- I format: the bitmap of a SACK frame is behind a fourth octet, which has its length. -/
def parseIProg (ghp : GprsLlcHdrParsed) (len : Nat) : Prog GprsLlcHdrParsed := do
  let ctrl0 ← ctrlOctet 0
  let ctrl1 ← ctrlOctet 1
  let ctrl2 ← ctrlOctet 2
  let cmd := supervisoryCmd (ctrl2 &&& 0x03)
  let data ←
    if cmd = .sack then do
      let ctrl3 ← ctrlOctet 3
      pure (1 + 3 + (1 + (ctrl3 &&& 0x1f)))
    else pure (1 + 3)
  pure { ghp with
    ackReq := ctrl0 &&& 0x40 != 0
    seqTx := (ctrl0 &&& 0x1f) <<< 4 ||| ctrl1 >>> 4
    seqRx := (ctrl1 &&& 0x7) <<< 6 ||| ctrl2 >>> 2
    cmd := cmd
    data := some data
    dataLen := dataLen16 len data }

/-- S format. -/
def parseSProg (ghp : GprsLlcHdrParsed) : Prog GprsLlcHdrParsed := do
  let ctrl0 ← ctrlOctet 0
  let ctrl1 ← ctrlOctet 1
  pure { ghp with
    ackReq := ctrl0 &&& 0x20 != 0
    seqRx := (ctrl0 &&& 0x7) <<< 6 ||| ctrl1 >>> 2
    cmd := supervisoryCmd (ctrl1 &&& 0x03)
    data := none
    dataLen := 0 }

/-- UI format. -/
def parseUiProg (ghp : GprsLlcHdrParsed) (len : Nat) : Prog GprsLlcHdrParsed := do
  let ctrl0 ← ctrlOctet 0
  let ctrl1 ← ctrlOctet 1
  pure { ghp with
    cmd := .ui
    data := some 3
    dataLen := dataLen16 len 3
    seqTx := (ctrl0 &&& 0x7) <<< 6 ||| ctrl1 >>> 2
    isEncrypted := ctrl1 &&& 0x02 != 0
    crcLength := if ctrl1 &&& 0x01 = 0 ∧ 3 + 4 < ghp.crcLength then 3 + 4 else ghp.crcLength }

/-- U format. -/
def parseUProg (ghp : GprsLlcHdrParsed) (len : Nat) : Prog (Except Nat GprsLlcHdrParsed) := do
  let ctrl0 ← ctrlOctet 0
  pure <|
    match ctrl0 &&& 0xf with
    | 0x00 => .ok { ghp with cmd := .null }
    | 0x01 => .ok { ghp with cmd := .dm }
    | 0x04 => .ok { ghp with cmd := .disc }
    | 0x06 => .ok { ghp with cmd := .ua }
    | 0x07 => .ok { ghp with cmd := .sabm }
    | 0x08 => .ok { ghp with cmd := .frmr }
    | 0x0b => .ok { ghp with cmd := .xid, data := some 2, dataLen := dataLen16 len 2 }
    | _ => .error eio

/-- A SACK frame is not supported. -/
def refuseSack : Except Nat GprsLlcHdrParsed → Except Nat GprsLlcHdrParsed
  | .ok ghp => if ghp.cmd = .sack then .error eio else .ok ghp
  | .error errno => .error errno

/-- `gprs_llc_hdr_parse` on `len` octets, for a `ghp` that is all zeros, as `gprs_llc_rcvmsg` hands it in. -/
def gprsLlcHdrParseProg (len : Nat) : Prog (Except Nat GprsLlcHdrParsed) :=
  if len ≤ 3 then pure (.error eio)
  else do
    let fcs0 ← octet (len - 3)
    let fcs1 ← octet (len - 2)
    let fcs2 ← octet (len - 1)
    let addr ← octet 0
    let ghp : GprsLlcHdrParsed :=
      { crcLength := (len - 3) % 65536
        fcs := fcsOfOctets [fcs0, fcs1, fcs2] 0
        isCmd := addr.toNat &&& 0x40 == 0
        sapi := addr.toNat &&& 0xf }
    if addr.toNat &&& 0x80 ≠ 0 then pure (.error eio)
    else if reservedSapi ghp.sapi then pure (.error einval)
    else do
      let ctrl ← ctrlOctet 0
      let parsed ←
        if ctrl &&& 0x80 = 0 then do
          let ghp ← parseIProg ghp len
          pure (.ok ghp)
        else if ctrl &&& 0xc0 = 0x80 then do
          let ghp ← parseSProg ghp
          pure (.ok ghp)
        else if ctrl &&& 0xe0 = 0xc0 then do
          let ghp ← parseUiProg ghp len
          pure (.ok ghp)
        else parseUProg ghp len
      pure (refuseSack parsed)

/-! ## The parser with its reads, and the parser -/

section

variable {ghp : GprsLlcHdrParsed} {frame : List Octet}

/-- A frame in memory, with zeros behind it, is read as the list of its octets is. -/
theorem memory_toNat (frame : List Octet) (i : Nat) : (memory frame (fun _ => 0) i).toNat = octetAt frame i := by
  unfold memory octetAt
  rw [List.getD_eq_getElem?_getD]

@[simp] theorem value_ctrlOctet (i : Nat) : (ctrlOctet i).value (memory frame fun _ => 0) = octetAt frame (1 + i) :=
  memory_toNat frame (1 + i)

theorem value_parseIProg :
    (parseIProg ghp frame.length).value (memory frame fun _ => 0) = parseI ghp frame := by
  unfold parseIProg parseI
  simp only [value_bind, value_ite, value_pure, value_ctrlOctet]
  by_cases hsack : supervisoryCmd (octetAt frame (1 + 2) &&& 0x03) = .sack
  · simp only [if_pos hsack]
    rfl
  · simp only [if_neg hsack]
    rfl

theorem value_parseSProg : (parseSProg ghp).value (memory frame fun _ => 0) = parseS ghp frame := by
  unfold parseSProg parseS
  simp only [value_bind, value_pure, value_ctrlOctet]

theorem value_parseUiProg :
    (parseUiProg ghp frame.length).value (memory frame fun _ => 0) = parseUi ghp frame := by
  unfold parseUiProg parseUi
  simp only [value_bind, value_pure, value_ctrlOctet]
  rfl

theorem value_parseUProg :
    (parseUProg ghp frame.length).value (memory frame fun _ => 0) = parseU ghp frame := by
  unfold parseUProg parseU
  simp only [value_bind, value_pure, value_ctrlOctet]
  rfl

/-- What the parser knows of a frame before it looks at the format. -/
def hdrStart (frame : List Octet) : GprsLlcHdrParsed where
  crcLength := (frame.length - 3) % 65536
  fcs := fcsOfOctets frame (frame.length - 3)
  isCmd := octetAt frame 0 &&& 0x40 == 0
  sapi := octetAt frame 0 &&& 0xf

/-- What it makes of the format. -/
def hdrByFormat (frame : List Octet) : Except Nat GprsLlcHdrParsed :=
  if octetAt frame 1 &&& 0x80 = 0 then .ok (parseI (hdrStart frame) frame)
  else if octetAt frame 1 &&& 0xc0 = 0x80 then .ok (parseS (hdrStart frame) frame)
  else if octetAt frame 1 &&& 0xe0 = 0xc0 then .ok (parseUi (hdrStart frame) frame)
  else parseU (hdrStart frame) frame

/-- The parser in one line for each of its checks. -/
theorem gprsLlcHdrParse_eq (frame : List Octet) :
    gprsLlcHdrParse frame =
      if frame.length ≤ 3 then .error eio
      else if octetAt frame 0 &&& 0x80 ≠ 0 then .error eio
      else if reservedSapi (octetAt frame 0 &&& 0xf) then .error einval
      else refuseSack (hdrByFormat frame) := by
  unfold gprsLlcHdrParse
  by_cases hlen : frame.length ≤ 3
  · rw [if_pos hlen, if_pos hlen]
  · rw [if_neg hlen, if_neg hlen]
    by_cases hpd : octetAt frame 0 &&& 0x80 ≠ 0
    · rw [if_pos hpd, if_pos hpd]
    · rw [if_neg hpd, if_neg hpd]
      by_cases hsapi : reservedSapi (octetAt frame 0 &&& 0xf) = true
      · rw [if_pos hsapi, if_pos hsapi]
      · rw [if_neg hsapi, if_neg hsapi]
        unfold hdrByFormat
        split_ifs
        · rfl
        · rfl
        · rfl
        · show (parseU (hdrStart frame) frame >>= _) = _
          cases parseU (hdrStart frame) frame with
          | error errno => rfl
          | ok ghp => rfl

/-- The program computes the parser. -/
theorem value_gprsLlcHdrParseProg (frame : List Octet) :
    (gprsLlcHdrParseProg frame.length).value (memory frame fun _ => 0) = gprsLlcHdrParse frame := by
  rw [gprsLlcHdrParse_eq]
  unfold gprsLlcHdrParseProg
  rw [value_ite]
  by_cases hlen : frame.length ≤ 3
  · rw [if_pos hlen, if_pos hlen]
    rfl
  · rw [if_neg hlen, if_neg hlen]
    have hfcs : fcsOfOctets [memory frame (fun _ => 0) (frame.length - 3), memory frame (fun _ => 0) (frame.length - 2),
        memory frame (fun _ => 0) (frame.length - 1)] 0 = fcsOfOctets frame (frame.length - 3) := by
      show (memory frame (fun _ => 0) (frame.length - 3)).toNat +
          (memory frame (fun _ => 0) (frame.length - 2)).toNat * 256 +
          (memory frame (fun _ => 0) (frame.length - 1)).toNat * 65536 = _
      rw [memory_toNat, memory_toNat, memory_toNat, show frame.length - 2 = frame.length - 3 + 1 by omega,
        show frame.length - 1 = frame.length - 3 + 2 by omega]
      rfl
    simp only [value_octet_bind, memory_toNat, hfcs, value_ite, value_pure]
    refine if_congr Iff.rfl rfl (if_congr Iff.rfl rfl ?_)
    simp only [value_bind, value_ite, value_ctrlOctet, value_pure]
    unfold hdrByFormat
    split_ifs
    · exact congrArg refuseSack (congrArg Except.ok value_parseIProg)
    · exact congrArg refuseSack (congrArg Except.ok value_parseSProg)
    · exact congrArg refuseSack (congrArg Except.ok value_parseUiProg)
    · exact congrArg refuseSack value_parseUProg

end

/-! ## Formats -/

/-- The four formats of the control field. -/
inductive LlcFormat where
  | i | s | ui | u
  deriving DecidableEq

/-- The format by the first bits of the control field: 0, 10, 110, 111. -/
def llcFormat (frame : List Octet) : LlcFormat :=
  let ctrl := octetAt frame 1
  if ctrl < 128 then .i else if ctrl < 192 then .s else if ctrl < 224 then .ui else .u

/-- The address and the control field. -/
def LlcFormat.headerLen : LlcFormat → Nat
  | .i => 4
  | .s | .ui => 3
  | .u => 2

/-- The commands and responses of the U format. -/
def unnumberedCmd : Nat → Option GprsLlcCmd
  | 0x00 => some .null
  | 0x01 => some .dm
  | 0x04 => some .disc
  | 0x06 => some .ua
  | 0x07 => some .sabm
  | 0x08 => some .frmr
  | 0x0b => some .xid
  | _ => none

/-- The command or response that a frame is. -/
def encodedCmd (frame : List Octet) : Option GprsLlcCmd :=
  match llcFormat frame with
  | .i => some (supervisoryCmd (octetAt frame 3 % 4))
  | .s => some (supervisoryCmd (octetAt frame 2 % 4))
  | .ui => some .ui
  | .u => unnumberedCmd (octetAt frame 1 % 16)

/-- N(S) of an I frame and N(U) of a UI frame, of nine bits each. -/
def numberSent (frame : List Octet) : Nat :=
  match llcFormat frame with
  | .i => octetAt frame 1 % 32 * 16 + octetAt frame 2 / 16
  | .ui => octetAt frame 1 % 8 * 64 + octetAt frame 2 / 4
  | .s | .u => 0

/-- N(R) of an I frame and of an S frame. -/
def numberReceived (frame : List Octet) : Nat :=
  match llcFormat frame with
  | .i => octetAt frame 2 % 8 * 64 + octetAt frame 3 / 4
  | .s => octetAt frame 1 % 8 * 64 + octetAt frame 2 / 4
  | .ui | .u => 0

/-- The A bit, which I and S frames have. -/
def ackBit (frame : List Octet) : Bool :=
  match llcFormat frame with
  | .i => octetAt frame 1 / 64 % 2 == 1
  | .s => octetAt frame 1 / 32 % 2 == 1
  | .ui | .u => false

/-- The E bit, which UI frames have. -/
def encryptionBit (frame : List Octet) : Bool := llcFormat frame == .ui && octetAt frame 2 / 2 % 2 == 1

/-- All frames are protected but the UI frames without the PM bit. -/
def isProtected (frame : List Octet) : Bool := !(llcFormat frame == .ui && octetAt frame 2 % 2 == 0)

/-- I and UI frames have an information field, and of the U frames XID. -/
def hasInformation (frame : List Octet) : Bool :=
  match llcFormat frame with
  | .i | .ui => true
  | .s => false
  | .u => encodedCmd frame == some .xid

/-- **What a frame says.** It has room for its header and the FCS; the fields are those of its format, and zero where
    the format has none; the information field is what lies between header and FCS. The FCS covers all that is before
    it, but for UI frames in unprotected mode only the header and the first four octets (N202) of the information
    field. -/
structure Encodes (frame : List Octet) (ghp : GprsLlcHdrParsed) : Prop where
  complete : (llcFormat frame).headerLen + 3 ≤ frame.length
  valid : octetAt frame 0 < 128 ∧ reservedSapi ghp.sapi = false
  sapi : ghp.sapi = octetAt frame 0 % 16
  isCmd : ghp.isCmd = (octetAt frame 0 / 64 % 2 == 0)
  cmd : encodedCmd frame = some ghp.cmd
  seqTx : ghp.seqTx = numberSent frame
  seqRx : ghp.seqRx = numberReceived frame
  ackReq : ghp.ackReq = ackBit frame
  isEncrypted : ghp.isEncrypted = encryptionBit frame
  fcs : ghp.fcs = fcsOfOctets frame (frame.length - 3)
  information : hasInformation frame = true → ghp.data = some (llcFormat frame).headerLen ∧
    (llcFormat frame).headerLen + ghp.dataLen + 3 = frame.length
  noInformation : hasInformation frame = false → ghp.data = none ∧ ghp.dataLen = 0
  covered : ghp.crcLength = if isProtected frame = true then frame.length - 3 else min (frame.length - 3) (3 + 4)

/-! ## What the parser reports -/

/-- The parser looks at the format: there are four octets, the PD bit is zero, and the SAPI is not reserved. -/
structure Headed (frame : List Octet) : Prop where
  long : 3 < frame.length
  pd : octetAt frame 0 < 128
  sapi : reservedSapi (octetAt frame 0 % 16) = false

instance (frame : List Octet) : Decidable (Headed frame) :=
  decidable_of_iff (3 < frame.length ∧ octetAt frame 0 < 128 ∧ reservedSapi (octetAt frame 0 % 16) = false)
    ⟨fun h => ⟨h.1, h.2.1, h.2.2⟩, fun h => ⟨h.1, h.2, h.3⟩⟩

/-- What is reported of a frame, with the lengths in sixteen bits. -/
def reported (frame : List Octet) : GprsLlcHdrParsed where
  sapi := octetAt frame 0 % 16
  isCmd := octetAt frame 0 / 64 % 2 == 0
  ackReq := ackBit frame
  isEncrypted := encryptionBit frame
  seqRx := numberReceived frame
  seqTx := numberSent frame
  fcs := fcsOfOctets frame (frame.length - 3)
  data := if hasInformation frame then some (llcFormat frame).headerLen else none
  dataLen := if hasInformation frame then dataLen16 frame.length (llcFormat frame).headerLen else 0
  crcLength :=
    if isProtected frame then (frame.length - 3) % 65536 else min ((frame.length - 3) % 65536) (3 + 4)
  cmd := (encodedCmd frame).getD .null

section

variable {frame : List Octet} {ghp : GprsLlcHdrParsed}

theorem mask_spec : ∀ x < 256, (x &&& 0x80 = 0 ↔ x < 128) ∧ (x &&& 0xc0 = 0x80 ↔ 128 ≤ x ∧ x < 192) ∧
    (x &&& 0xe0 = 0xc0 ↔ 192 ≤ x ∧ x < 224) ∧ (x &&& 0x40 == 0) = (x / 64 % 2 == 0) ∧
    (x &&& 0x40 != 0) = (x / 64 % 2 == 1) ∧ (x &&& 0x20 != 0) = (x / 32 % 2 == 1) ∧
    (x &&& 0x02 != 0) = (x / 2 % 2 == 1) ∧ (x &&& 0x01 = 0 ↔ x % 2 = 0) := by
  decide +kernel

theorem number_eq (a b m k : Nat) (hb : b < 256) (hk : k ≤ 8) :
    (a &&& (2 ^ m - 1)) <<< (8 - k) ||| b >>> k = a % 2 ^ m * 2 ^ (8 - k) + b / 2 ^ k := by
  have hlt : b / 2 ^ k < 2 ^ (8 - k) := by
    rw [Nat.div_lt_iff_lt_mul (Nat.two_pow_pos k), ← Nat.pow_add, Nat.sub_add_cancel hk]
    exact hb
  rw [Nat.and_two_pow_sub_one_eq_mod, Nat.shiftRight_eq_div_pow, ← Nat.shiftLeft_add_eq_or_of_lt hlt, Nat.shiftLeft_eq]

/-- `&&&` with ones in the lowest bits. -/
theorem and_low (x m : Nat) : x &&& (2 ^ m - 1) = x % 2 ^ m := Nat.and_two_pow_sub_one_eq_mod x m

theorem hdrStart_eq : (hdrStart frame).sapi = octetAt frame 0 % 16 ∧
    (hdrStart frame).isCmd = (octetAt frame 0 / 64 % 2 == 0) :=
  ⟨and_low _ 4, (mask_spec _ (octetAt_lt frame 0)).2.2.2.1⟩

theorem parseI_eq (hfmt : llcFormat frame = .i) (hcmd : supervisoryCmd (octetAt frame 3 % 4) ≠ .sack) :
    parseI (hdrStart frame) frame = reported frame := by
  have hbits : octetAt frame (1 + 2) &&& 0x03 = octetAt frame 3 % 4 := and_low _ 2
  have hack : (octetAt frame (1 + 0) &&& 0x40 != 0) = (octetAt frame 1 / 64 % 2 == 1) :=
    (mask_spec _ (octetAt_lt frame 1)).2.2.2.2.1
  have hsent : (octetAt frame (1 + 0) &&& 0x1f) <<< 4 ||| octetAt frame (1 + 1) >>> 4 =
      octetAt frame 1 % 32 * 16 + octetAt frame 2 / 16 := number_eq _ _ 5 4 (octetAt_lt frame 2) (by decide)
  have hreceived : (octetAt frame (1 + 1) &&& 0x7) <<< 6 ||| octetAt frame (1 + 2) >>> 2 =
      octetAt frame 2 % 8 * 64 + octetAt frame 3 / 4 := number_eq _ _ 3 2 (octetAt_lt frame 3) (by decide)
  unfold parseI reported
  simp only [hdrStart_eq.1, hdrStart_eq.2, hbits, hack, hsent, hreceived, if_neg hcmd, numberSent,
    numberReceived, ackBit,
    encryptionBit, isProtected, hasInformation, encodedCmd, hfmt]
  rfl

theorem parseS_eq (hfmt : llcFormat frame = .s) : parseS (hdrStart frame) frame = reported frame := by
  have hbits : octetAt frame (1 + 1) &&& 0x03 = octetAt frame 2 % 4 := and_low _ 2
  have hack : (octetAt frame (1 + 0) &&& 0x20 != 0) = (octetAt frame 1 / 32 % 2 == 1) :=
    (mask_spec _ (octetAt_lt frame 1)).2.2.2.2.2.1
  have hreceived : (octetAt frame (1 + 0) &&& 0x7) <<< 6 ||| octetAt frame (1 + 1) >>> 2 =
      octetAt frame 1 % 8 * 64 + octetAt frame 2 / 4 := number_eq _ _ 3 2 (octetAt_lt frame 2) (by decide)
  unfold parseS reported
  simp only [hdrStart_eq.1, hdrStart_eq.2, hbits, hack, hreceived, numberSent, numberReceived, ackBit,
    encryptionBit, isProtected, hasInformation, encodedCmd, hfmt]
  rfl

theorem parseUi_eq (hfmt : llcFormat frame = .ui) : parseUi (hdrStart frame) frame = reported frame := by
  have henc : (octetAt frame (1 + 1) &&& 0x02 != 0) = (octetAt frame 2 / 2 % 2 == 1) :=
    (mask_spec _ (octetAt_lt frame 2)).2.2.2.2.2.2.1
  have hsent : (octetAt frame (1 + 0) &&& 0x7) <<< 6 ||| octetAt frame (1 + 1) >>> 2 =
      octetAt frame 1 % 8 * 64 + octetAt frame 2 / 4 := number_eq _ _ 3 2 (octetAt_lt frame 2) (by decide)
  have hcrc : (if octetAt frame (1 + 1) &&& 0x01 = 0 ∧ 3 + 4 < (hdrStart frame).crcLength then 3 + 4
      else (hdrStart frame).crcLength) =
      if isProtected frame = true then (frame.length - 3) % 65536 else min ((frame.length - 3) % 65536) (3 + 4) := by
    have hpm : octetAt frame (1 + 1) &&& 0x01 = 0 ↔ octetAt frame 2 % 2 = 0 :=
      (mask_spec _ (octetAt_lt frame 2)).2.2.2.2.2.2.2
    have hprot : isProtected frame = true ↔ ¬ octetAt frame 2 % 2 = 0 := by
      simp [isProtected, hfmt]
    show (if octetAt frame (1 + 1) &&& 0x01 = 0 ∧ 3 + 4 < (frame.length - 3) % 65536 then 3 + 4
      else (frame.length - 3) % 65536) = _
    by_cases hzero : octetAt frame 2 % 2 = 0
    · rw [if_neg (fun h => hprot.mp h hzero)]
      by_cases hlong : 3 + 4 < (frame.length - 3) % 65536
      · rw [if_pos ⟨hpm.mpr hzero, hlong⟩, Nat.min_eq_right (Nat.le_of_lt hlong)]
      · rw [if_neg (fun h => hlong h.2), Nat.min_eq_left (Nat.le_of_not_lt hlong)]
    · rw [if_pos (hprot.mpr hzero), if_neg (fun h => hzero (hpm.mp h.1))]
  unfold parseUi reported
  simp only [hdrStart_eq.1, hdrStart_eq.2, henc, hsent, hcrc, numberSent, numberReceived, ackBit,
    encryptionBit, hasInformation, encodedCmd, hfmt]
  rfl

theorem parseU_eq (hfmt : llcFormat frame = .u) :
    parseU (hdrStart frame) frame = if encodedCmd frame = none then .error eio else .ok (reported frame) := by
  have hbits : octetAt frame 1 &&& 0xf = octetAt frame 1 % 16 := and_low _ 4
  have hreported : reported frame =
      { hdrStart frame with
        data := if encodedCmd frame == some .xid then some 2 else none
        dataLen := if encodedCmd frame == some .xid then dataLen16 frame.length 2 else 0
        cmd := (encodedCmd frame).getD .null } := by
    unfold reported
    simp only [hdrStart_eq.1, hdrStart_eq.2, numberSent, numberReceived, ackBit, encryptionBit, isProtected,
      hasInformation, hfmt]
    rfl
  have hcmd : encodedCmd frame = unnumberedCmd (octetAt frame 1 % 16) := by
    simp only [encodedCmd, hfmt]
  have hlt : octetAt frame 1 % 16 < 16 := Nat.mod_lt _ (by decide)
  unfold parseU
  rw [hreported, hcmd, hbits]
  generalize octetAt frame 1 % 16 = m at hlt ⊢
  interval_cases m <;> rfl

theorem hdrByFormat_eq : hdrByFormat frame =
    match llcFormat frame with
    | .i => .ok (parseI (hdrStart frame) frame)
    | .s => .ok (parseS (hdrStart frame) frame)
    | .ui => .ok (parseUi (hdrStart frame) frame)
    | .u => parseU (hdrStart frame) frame := by
  have hlt := octetAt_lt frame 1
  obtain ⟨hi, hs, hui, -⟩ := mask_spec _ hlt
  unfold hdrByFormat llcFormat
  simp only [hi, hs, hui]
  by_cases h1 : octetAt frame 1 < 128
  · simp only [if_pos h1]
  · by_cases h2 : octetAt frame 1 < 192
    · have hmid : 128 ≤ octetAt frame 1 ∧ octetAt frame 1 < 192 := ⟨by omega, h2⟩
      simp only [if_neg h1, if_pos h2, if_pos hmid]
    · have hnot : ¬ (128 ≤ octetAt frame 1 ∧ octetAt frame 1 < 192) := fun h => h2 h.2
      by_cases h3 : octetAt frame 1 < 224
      · have hmid : 192 ≤ octetAt frame 1 ∧ octetAt frame 1 < 224 := ⟨by omega, h3⟩
        simp only [if_neg h1, if_neg h2, if_neg hnot, if_pos h3, if_pos hmid]
      · have hnot' : ¬ (192 ≤ octetAt frame 1 ∧ octetAt frame 1 < 224) := fun h => h3 h.2
        simp only [if_neg h1, if_neg h2, if_neg hnot, if_neg h3, if_neg hnot']

/-- What the parser says of a frame it looks at: the command of a SACK frame, and the bits that are no command, are
    errors, and otherwise it reports the fields of the format. -/
theorem refuseSack_hdrByFormat :
    refuseSack (hdrByFormat frame) =
      if encodedCmd frame = none ∨ encodedCmd frame = some .sack then .error eio else .ok (reported frame) := by
  have hrefuse : ∀ parsed : GprsLlcHdrParsed, encodedCmd frame = some parsed.cmd →
      (parsed.cmd ≠ .sack → parsed = reported frame) →
      refuseSack (.ok parsed) =
        if encodedCmd frame = none ∨ encodedCmd frame = some .sack then .error eio else .ok (reported frame) := by
    intro parsed hcmd hparsed
    unfold refuseSack
    by_cases hsack : parsed.cmd = .sack
    · rw [if_pos (.inr (by rw [hcmd, hsack]))]
      exact if_pos hsack
    · have hnot : ¬ (encodedCmd frame = none ∨ encodedCmd frame = some .sack) := by
        rw [hcmd]
        rintro (h | h)
        · cases h
        · exact hsack (Option.some.inj h)
      rw [if_neg hnot, ← hparsed hsack]
      exact if_neg hsack
  rw [hdrByFormat_eq]
  cases hfmt : llcFormat frame with
  | i =>
    have hbits : octetAt frame (1 + 2) &&& 0x03 = octetAt frame 3 % 4 := and_low _ 2
    have hcmd : (parseI (hdrStart frame) frame).cmd = supervisoryCmd (octetAt frame 3 % 4) :=
      congrArg supervisoryCmd hbits
    refine hrefuse _ ?_ fun hsack => parseI_eq hfmt (hcmd ▸ hsack)
    rw [hcmd]
    simp only [encodedCmd, hfmt]
  | s =>
    have hbits : octetAt frame (1 + 1) &&& 0x03 = octetAt frame 2 % 4 := and_low _ 2
    refine hrefuse _ ?_ fun _ => parseS_eq hfmt
    simp only [encodedCmd, hfmt]
    exact congrArg (fun bits => some (supervisoryCmd bits)) hbits.symm
  | ui =>
    refine hrefuse _ ?_ fun _ => parseUi_eq hfmt
    simp only [encodedCmd, hfmt]
    rfl
  | u =>
    show refuseSack (parseU (hdrStart frame) frame) = _
    rw [parseU_eq hfmt]
    cases hcmd : encodedCmd frame with
    | none => rfl
    | some cmd =>
      rw [if_neg (Option.some_ne_none cmd), ← hcmd]
      exact hrefuse _ (by simp [reported, hcmd]) fun _ => rfl

/-- **When the parser succeeds, and with what.** -/
theorem gprsLlcHdrParse_ok_iff :
    gprsLlcHdrParse frame = .ok ghp ↔
      Headed frame ∧ encodedCmd frame ≠ none ∧ encodedCmd frame ≠ some .sack ∧ ghp = reported frame := by
  have hpd : octetAt frame 0 &&& 0x80 ≠ 0 ↔ ¬ octetAt frame 0 < 128 :=
    not_congr (mask_spec _ (octetAt_lt frame 0)).1
  have hsapi : octetAt frame 0 &&& 0xf = octetAt frame 0 % 16 := and_low _ 4
  rw [gprsLlcHdrParse_eq, refuseSack_hdrByFormat, hsapi]
  constructor
  · intro h
    split_ifs at h with hlen hbad hreserved hcmd
    have hcmd := not_or.mp hcmd
    exact ⟨⟨by omega, not_not.mp (mt hpd.mpr hbad), Bool.eq_false_iff.mpr hreserved⟩, hcmd.1, hcmd.2,
      (Except.ok.inj h).symm⟩
  · rintro ⟨⟨hlong, hlow, hfree⟩, hknown, hsack, rfl⟩
    rw [if_neg (by omega), if_neg (mt hpd.mp (not_not.mpr hlow)), if_neg (by rw [hfree]; exact Bool.false_ne_true),
      if_neg (not_or.mpr ⟨hknown, hsack⟩)]

/-! ## What holds -/

/-- The parser records what it reads. -/
theorem honest_gprsLlcHdrParseProg (len : Nat) : (gprsLlcHdrParseProg len).Honest := by
  have hctrl : ∀ i, (ctrlOctet i).Honest := fun i => (honest_octet _).bind fun _ => honest_pure _
  have hi : ∀ ghp, (parseIProg ghp len).Honest := fun ghp =>
    (hctrl 0).bind fun _ => (hctrl 1).bind fun _ => (hctrl 2).bind fun _ =>
      .ite ((hctrl 3).bind fun _ => (honest_pure _).bind fun _ => honest_pure _)
        ((honest_pure _).bind fun _ => honest_pure _)
  have hs : ∀ ghp, (parseSProg ghp).Honest := fun ghp =>
    (hctrl 0).bind fun _ => (hctrl 1).bind fun _ => honest_pure _
  have hui : ∀ ghp, (parseUiProg ghp len).Honest := fun ghp =>
    (hctrl 0).bind fun _ => (hctrl 1).bind fun _ => honest_pure _
  have hu : ∀ ghp, (parseUProg ghp len).Honest := fun ghp => (hctrl 0).bind fun _ => honest_pure _
  unfold gprsLlcHdrParseProg
  refine .ite (honest_pure _) ?_
  refine (honest_octet _).bind fun _ => (honest_octet _).bind fun _ => (honest_octet _).bind fun _ =>
    (honest_octet _).bind fun _ => .ite (honest_pure _) (.ite (honest_pure _) ?_)
  refine (hctrl 0).bind fun _ => .ite ?_ (.ite ?_ (.ite ?_ ?_))
  · exact (hi _).bind fun _ => honest_pure _
  · exact (hs _).bind fun _ => honest_pure _
  · exact (hui _).bind fun _ => honest_pure _
  · exact (hu _).bind fun _ => honest_pure _

/-- The fourth octet of the control field is the only one that can be behind the frame. -/
theorem safe_parseIProg (frame : List Octet) (hlong : 3 < frame.length) (ghp : GprsLlcHdrParsed) :
    (parseIProg ghp frame.length).Safe frame.length (memory frame fun _ => 0) ↔
      (supervisoryCmd (octetAt frame 3 % 4) = .sack → 5 ≤ frame.length) := by
  have hbits : octetAt frame (1 + 2) &&& 0x03 = octetAt frame 3 % 4 := and_low _ 2
  unfold parseIProg
  simp only [safe_bind, safe_ite, safe_pure, safe_octet, ctrlOctet, value_bind, value_octet,
    value_pure, memory_toNat, hbits]
  constructor
  · intro h hsack
    have hread := (h.2.2.2.1 hsack).1.1
    omega
  · intro h
    refine ⟨⟨by omega, trivial⟩, ⟨by omega, trivial⟩, ⟨by omega, trivial⟩, fun hsack => ?_, fun _ => ⟨trivial, trivial⟩⟩
    have := h hsack
    exact ⟨⟨by omega, trivial⟩, trivial, trivial⟩

theorem llcFormat_i : llcFormat frame = .i ↔ octetAt frame 1 < 128 := by
  unfold llcFormat
  simp only
  split_ifs with h1 h2 h3 <;> simp [h1]

theorem safe_ctrlOctet (mem : Nat → Octet) (len i : Nat) : (ctrlOctet i).Safe len mem ↔ 1 + i < len := by
  unfold ctrlOctet
  simp only [safe_bind, safe_octet, safe_pure, and_true]

/-- **Which frames the parser reads within.** -/
theorem safe_gprsLlcHdrParseProg_iff :
    (gprsLlcHdrParseProg frame.length).Safe frame.length (memory frame fun _ => 0) ↔
      (Headed frame → llcFormat frame = .i → supervisoryCmd (octetAt frame 3 % 4) = .sack → 5 ≤ frame.length) := by
  obtain ⟨hi, -⟩ := mask_spec _ (octetAt_lt frame 1)
  have hpd : octetAt frame 0 &&& 0x80 ≠ 0 ↔ ¬ octetAt frame 0 < 128 :=
    not_congr (mask_spec _ (octetAt_lt frame 0)).1
  have hsapi : octetAt frame 0 &&& 0xf = octetAt frame 0 % 16 := and_low _ 4
  unfold gprsLlcHdrParseProg
  by_cases hlen : frame.length ≤ 3
  · rw [if_pos hlen]
    exact iff_of_true ((safe_pure _).mpr trivial) fun h => absurd h.long (by omega)
  · rw [if_neg hlen]
    have hs : ∀ ghp, (parseSProg ghp).Safe frame.length (memory frame fun _ => 0) := fun ghp => by
      simp only [parseSProg, safe_bind, safe_ctrlOctet, safe_pure, and_true]
      omega
    have hui : ∀ ghp, (parseUiProg ghp frame.length).Safe frame.length (memory frame fun _ => 0) := fun ghp => by
      simp only [parseUiProg, safe_bind, safe_ctrlOctet, safe_pure, and_true]
      omega
    have hu : ∀ ghp, (parseUProg ghp frame.length).Safe frame.length (memory frame fun _ => 0) := fun ghp => by
      simp only [parseUProg, safe_bind, safe_ctrlOctet, safe_pure, and_true]
      omega
    simp only [safe_bind, safe_octet, value_octet, safe_ite, safe_pure, safe_ctrlOctet,
      memory_toNat, value_ctrlOctet, hs, hui, hu, hpd, hsapi, safe_parseIProg frame (by omega), implies_true, and_true,
      true_and]
    constructor
    · rintro ⟨-, -, -, -, h⟩ hheaded hfmt hsack
      have hfree : ¬ reservedSapi (octetAt frame 0 % 16) = true := by
        rw [hheaded.sapi]
        exact Bool.false_ne_true
      exact (h (not_not.mpr hheaded.pd) hfree).2 (hi.mpr (llcFormat_i.mp hfmt)) hsack
    · intro h
      refine ⟨by omega, by omega, by omega, by omega, fun hlow hfree => ⟨by omega, fun hctrl hsack => ?_⟩⟩
      exact h ⟨by omega, not_not.mp hlow, Bool.eq_false_iff.mpr hfree⟩ (llcFormat_i.mpr (hi.mp hctrl)) hsack

/-- A length of sixteen bits, where the header and the FCS fit. -/
theorem dataLen16_eq {len d : Nat} (h : d + 3 ≤ len) : dataLen16 len d = (len - 3 - d) % 65536 := by
  unfold dataLen16
  omega

/-- What is reported is what the frame says if header and FCS fit, and the lengths have sixteen bits. -/
theorem encodes_reported_iff (hheaded : Headed frame) (hknown : encodedCmd frame ≠ none) :
    Encodes frame (reported frame) ↔
      (llcFormat frame).headerLen + 3 ≤ frame.length ∧ frame.length ≤ 65535 + 3 := by
  constructor
  · intro h
    have hcomplete := h.complete
    refine ⟨hcomplete, ?_⟩
    have hcovered : (if isProtected frame = true then (frame.length - 3) % 65536
        else min ((frame.length - 3) % 65536) (3 + 4)) =
        if isProtected frame = true then frame.length - 3 else min (frame.length - 3) (3 + 4) := h.covered
    by_cases hprot : isProtected frame = true
    · rw [if_pos hprot, if_pos hprot] at hcovered
      omega
    · rw [if_neg hprot, if_neg hprot] at hcovered
      -- only the UI frames are unprotected, and they have information
      have hfmt : llcFormat frame = .ui := by
        by_contra hne
        exact hprot (by simp [isProtected, hne])
      have hinfo : hasInformation frame = true := by
        simp only [hasInformation, hfmt]
      have hlen := (h.information hinfo).2
      have hdata : (reported frame).dataLen = dataLen16 frame.length (llcFormat frame).headerLen := if_pos hinfo
      have hthree : (llcFormat frame).headerLen = 3 := by
        rw [hfmt]
        rfl
      rw [hdata, dataLen16_eq hcomplete, hthree] at hlen
      omega
  · rintro ⟨hcomplete, hshort⟩
    refine ⟨hcomplete, ⟨hheaded.pd, hheaded.sapi⟩, rfl, rfl, ?_, rfl, rfl, rfl, rfl, rfl, fun hinfo => ?_,
      fun hinfo => ?_, ?_⟩
    · obtain ⟨cmd, hcmd⟩ := Option.ne_none_iff_exists'.mp hknown
      show encodedCmd frame = some ((encodedCmd frame).getD .null)
      rw [hcmd]
      rfl
    · have hdata : (reported frame).dataLen = dataLen16 frame.length (llcFormat frame).headerLen := if_pos hinfo
      refine ⟨if_pos hinfo, ?_⟩
      rw [hdata, dataLen16_eq hcomplete]
      omega
    · have hnot : ¬ hasInformation frame = true := by
        rw [hinfo]
        exact Bool.false_ne_true
      exact ⟨if_neg hnot, if_neg hnot⟩
    · show (if isProtected frame = true then (frame.length - 3) % 65536
        else min ((frame.length - 3) % 65536) (3 + 4)) = _
      rw [Nat.mod_eq_of_lt (by omega)]

end

/-- **Only octets of the frame are read, and what is reported is what the frame says**, whatever lies behind it. -/
def FrameParsed (frame : List Octet) : Prop :=
  ∀ behind, (gprsLlcHdrParseProg frame.length).Safe frame.length (memory frame behind) ∧
    ∀ ghp, (gprsLlcHdrParseProg frame.length).value (memory frame behind) = .ok ghp → Encodes frame ghp

/-- The lengths for which this is so, of a frame that the parser looks at: an I frame with the SACK bits has a fourth
    octet of the control field, which is read before the frame is refused; a frame that is not refused has its header
    and the FCS, and no more than 65538 octets. -/
def LengthFits (frame : List Octet) : Prop :=
  match encodedCmd frame with
  | none => True
  | some .sack => llcFormat frame = .i → 5 ≤ frame.length
  | some _ => (llcFormat frame).headerLen + 3 ≤ frame.length ∧ frame.length ≤ 65535 + 3

/-- **When the parser keeps to the frame and to what it says.** -/
theorem frameParsed_iff (frame : List Octet) : FrameParsed frame ↔ (Headed frame → LengthFits frame) := by
  have hhonest := honest_gprsLlcHdrParseProg frame.length
  have hsafe := @safe_gprsLlcHdrParseProg_iff frame
  have hvalue := value_gprsLlcHdrParseProg frame
  constructor
  · intro h hheaded
    obtain ⟨hreads, hencodes⟩ := h fun _ => 0
    rw [hvalue] at hencodes
    unfold LengthFits
    cases hcmd : encodedCmd frame with
    | none => trivial
    | some cmd =>
      by_cases hsack : cmd = .sack
      · subst hsack
        intro hfmt
        refine hsafe.mp hreads hheaded hfmt ?_
        simp only [encodedCmd, hfmt] at hcmd
        exact Option.some.inj hcmd
      · have hknown : encodedCmd frame ≠ none := by
          rw [hcmd]
          exact Option.some_ne_none cmd
        have hne : encodedCmd frame ≠ some .sack := by
          rw [hcmd]
          exact fun h => hsack (Option.some.inj h)
        have hfits := (encodes_reported_iff hheaded hknown).mp
          (hencodes _ (gprsLlcHdrParse_ok_iff.mpr ⟨hheaded, hknown, hne, rfl⟩))
        cases cmd <;> first | exact absurd rfl hsack | exact hfits
  · intro h behind
    have hreads : (gprsLlcHdrParseProg frame.length).Safe frame.length (memory frame fun _ => 0) := by
      refine hsafe.mpr fun hheaded hfmt hsack => ?_
      have hcmd : encodedCmd frame = some .sack := by
        simp only [encodedCmd, hfmt, hsack]
      have hfits := h hheaded
      simp only [LengthFits, hcmd] at hfits
      exact hfits hfmt
    refine ⟨(hhonest.safe_behind frame).mpr hreads behind, fun ghp hok => ?_⟩
    rw [hhonest.value_behind hreads behind, hvalue] at hok
    obtain ⟨hheaded, hknown, hne, rfl⟩ := gprsLlcHdrParse_ok_iff.mp hok
    refine (encodes_reported_iff hheaded hknown).mpr ?_
    have hfits := h hheaded
    unfold LengthFits at hfits
    cases hcmd : encodedCmd frame with
    | none => exact absurd hcmd hknown
    | some cmd =>
      rw [hcmd] at hfits hne
      cases cmd <;> first | exact absurd rfl hne | exact hfits

/-- An I frame of five octets: its control field goes on in the FCS, and the length of its information field is
    65534. -/
theorem not_frameParsed_short : ¬ FrameParsed [0x01, 0x00, 0x00, 0x00, 0x00] := by
  intro h
  have hok : ∃ ghp, gprsLlcHdrParse [0x01, 0x00, 0x00, 0x00, 0x00] = .ok ghp := ⟨_, rfl⟩
  obtain ⟨ghp, hok⟩ := hok
  have hvalue := value_gprsLlcHdrParseProg [0x01, 0x00, 0x00, 0x00, 0x00]
  have hencodes := (h fun _ => 0).2 ghp (hvalue.trans hok)
  exact absurd hencodes.complete (by decide)

end OpenBsc.Llc
