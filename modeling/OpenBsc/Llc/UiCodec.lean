import OpenBsc.Llc.Entity

/-!
# `Llc.UiCodec` — what is read from a UI frame that was sent

`UiDecodes` says that a peer reads from a frame what `gprs_llc_tx_ui` was given: the SAPI, the UI command,
the N(U), whether the frame is ciphered, the payload after deciphering, and a correct FCS.

The sender marks a ciphered frame in a copy of its control field when the header is already in the frame, so
the frame on the wire never says that it is ciphered (`parse_uiFrame`), and only frames in the clear decode
(`uiDecodes_iff`).
-/

namespace OpenBsc.Llc

/-! ## Specification -/

/-- An entity at the other end, with the same cipher parameters and the overflow counter of the sender. -/
def GprsLlcLle.peer (lle : GprsLlcLle) : GprsLlcLle := { lle with ocUiRecv := lle.ocUiSend }

/-- The frame is read by the peer as what the sender meant. -/
def UiDecodes (cipher : GprsCipher) (lle : GprsLlcLle) (msg frame : List Octet) : Prop :=
  ∃ ghp clear, gprsLlcHdrParse frame = .ok ghp ∧ ghp.sapi = lle.sapi ∧ ghp.cmd = .ui ∧
    ghp.seqTx = lle.vuSend ∧ ghp.isEncrypted = decide (lle.algo ≠ .gea0) ∧
    llcDecipher cipher lle.peer ghp frame = .ok clear ∧
    (clear.drop (ghp.data.getD 0)).take ghp.dataLen = msg ∧
    ghp.fcs = gprsLlcFcs (clear.take ghp.crcLength)

/-! ## The header -/

/-- The address field holds the SAPI, and a clear PD bit. -/
theorem llcAddr_spec : ∀ (sapi : Fin 16) (command : Bool), llcAddr sapi command < 256 ∧
    llcAddr sapi command &&& 0x80 = 0 ∧ llcAddr sapi command &&& 0xf = sapi := by
  decide

/-- The first octet of the control field names the UI format. -/
theorem uiCtrl0_spec : ∀ nu : Fin 512, 0xc0 ||| nu.val >>> 6 < 256 ∧
    (0xc0 ||| nu.val >>> 6) &&& 0x80 ≠ 0 ∧ (0xc0 ||| nu.val >>> 6) &&& 0xc0 ≠ 0x80 ∧
    (0xc0 ||| nu.val >>> 6) &&& 0xe0 = 0xc0 := by
  decide +kernel

/-- The second one says that the frame is protected and not ciphered. -/
theorem uiCtrl1_spec : ∀ nu : Fin 512, ((nu.val <<< 2) &&& 0xfc) ||| 0x01 < 256 ∧
    (((nu.val <<< 2) &&& 0xfc) ||| 0x01) &&& 0x02 = 0 ∧
    (((nu.val <<< 2) &&& 0xfc) ||| 0x01) &&& 0x01 ≠ 0 := by
  decide +kernel

/-- The number is split over the two octets and put together again. -/
theorem uiNumber_spec : ∀ nu : Fin 512, ((0xc0 ||| nu.val >>> 6) &&& 0x7) <<< 6 |||
    (((nu.val <<< 2) &&& 0xfc) ||| 0x01) >>> 2 = nu.val := by
  decide +kernel

/-- What the parser finds in a UI frame whose information field and FCS are `info`. -/
def uiParsed (sapi : Fin 16) (command : Bool) (nu : Fin 512) (info : List Octet) : GprsLlcHdrParsed :=
  { sapi := sapi
    isCmd := llcAddr sapi command &&& 0x40 == 0
    seqTx := nu
    fcs := fcsOfOctets (uiHeader sapi command nu ++ info) info.length
    data := some 3
    dataLen := info.length - 3
    crcLength := info.length
    cmd := .ui }

/-- **The parser on a UI frame.** Whether the sender ciphered the frame makes no difference. -/
theorem parse_uiFrame (sapi : Fin 16) (command : Bool) (nu : Fin 512) (info : List Octet)
    (h3 : 3 ≤ info.length) (hmax : info.length + 3 < 65536) :
    gprsLlcHdrParse (uiHeader sapi command nu ++ info) =
      if reservedSapi sapi then .error einval else .ok (uiParsed sapi command nu info) := by
  obtain ⟨ha, hpd, hsapi⟩ := llcAddr_spec sapi command
  obtain ⟨h0, hi, hs, hui⟩ := uiCtrl0_spec nu
  obtain ⟨h1, he, hpm⟩ := uiCtrl1_spec nu
  have hlen : (uiHeader sapi command nu ++ info).length = info.length + 3 := rfl
  have haddr : octetAt (uiHeader sapi command nu ++ info) 0 = llcAddr sapi command := toNat_octetOf ha
  have hctrl0 : octetAt (uiHeader sapi command nu ++ info) 1 = 0xc0 ||| nu.val >>> 6 := toNat_octetOf h0
  have hctrl1 : octetAt (uiHeader sapi command nu ++ info) 2 = ((nu.val <<< 2) &&& 0xfc) ||| 0x01 :=
    toNat_octetOf h1
  have hdata : dataLenFrom (uiHeader sapi command nu ++ info) 3 = info.length - 3 := by
    rw [dataLenFrom, hlen]
    omega
  unfold gprsLlcHdrParse
  rw [if_neg (by omega)]
  simp only [haddr, hctrl0, hlen, Nat.add_sub_cancel, hpd, hsapi, ne_eq, not_true_eq_false, if_false]
  by_cases hres : reservedSapi sapi = true
  · rw [if_pos hres, if_pos hres]
  · rw [if_neg hres, if_neg hres, if_neg hi, if_neg hs, if_pos hui]
    have hcrc : info.length % 65536 = info.length := Nat.mod_eq_of_lt (by omega)
    simp only [parseUi, hctrl0, hctrl1, he, hpm, hdata, hcrc, uiNumber_spec nu, bne_self_eq_false, false_and, if_false]
    rfl

/-! ## The frames of a sender -/

/-- What a UI frame carries behind its header: the payload and the FCS over header and payload. -/
def uiInfo (lle : GprsLlcLle) (command : Bool) (msg : LlcSdu) : List Octet :=
  msg.octets ++ fcsOctets (gprsLlcFcs (uiHeader lle.sapi command lle.vuSend ++ msg.octets))

theorem length_uiInfo (lle : GprsLlcLle) (command : Bool) (msg : LlcSdu) :
    (uiInfo lle command msg).length = msg.octets.length + 3 := by
  simp [uiInfo, fcsOctets]

variable {cipher : GprsCipher} {lle' : GprsLlcLle} {frame : List Octet}

/-- A frame that is sent is the header with the information field and FCS behind it, in the clear or under
    a key stream; the LLE has numbered it. -/
theorem txUi_cases {lle : GprsLlcLle} {command : Bool} {msg : LlcSdu}
    (h : gprsLlcTxUi cipher lle command msg = (.ok frame, lle')) :
    lle' = lle.numberUi ∧
      (lle.algo = .gea0 ∧ frame = uiHeader lle.sapi command lle.vuSend ++ uiInfo lle command msg ∨
        lle.algo ≠ .gea0 ∧ ∃ keystream,
          frame = uiHeader lle.sapi command lle.vuSend ++ xorKeystream keystream (uiInfo lle command msg)) := by
  unfold gprsLlcTxUi at h
  split at h
  · cases h
  · by_cases halgo : lle.algo = .gea0
    · simp only [if_pos halgo] at h
      obtain ⟨hframe, rfl⟩ := Prod.mk.inj h
      exact ⟨rfl, .inl ⟨halgo, (Except.ok.inj hframe).symm⟩⟩
    · simp only [if_neg halgo] at h
      split at h
      · cases h
      · rename_i keystream _
        obtain ⟨hframe, rfl⟩ := Prod.mk.inj h
        exact ⟨rfl, .inr ⟨halgo, keystream, (Except.ok.inj hframe).symm⟩⟩

theorem parse_sent {lle : GprsLlcLle} {command : Bool} {msg : LlcSdu}
    (h : gprsLlcTxUi cipher lle command msg = (.ok frame, lle')) :
    ∃ info, info.length = msg.octets.length + 3 ∧ frame = uiHeader lle.sapi command lle.vuSend ++ info ∧
      gprsLlcHdrParse frame =
        if reservedSapi lle.sapi then .error einval else .ok (uiParsed lle.sapi command lle.vuSend info) := by
  have hroom := msg.room
  have hlen := length_uiInfo lle command msg
  obtain ⟨-, ⟨-, rfl⟩ | ⟨-, keystream, rfl⟩⟩ := txUi_cases h
  · exact ⟨_, hlen, rfl, parse_uiFrame _ _ _ _ (by omega) (by omega)⟩
  · have hxor : (xorKeystream keystream (uiInfo lle command msg)).length = msg.octets.length + 3 := by
      rw [xorKeystream, List.length_mapIdx, hlen]
    exact ⟨_, hxor, rfl, parse_uiFrame _ _ _ _ (by omega) (by omega)⟩

/-- A ciphered frame is not read as the sender meant it: the E bit is missing. -/
theorem not_uiDecodes_of_ciphered {lle : GprsLlcLle} {command : Bool} {msg : LlcSdu}
    (h : gprsLlcTxUi cipher lle command msg = (.ok frame, lle')) (halgo : lle.algo ≠ .gea0) :
    ¬ UiDecodes cipher lle msg.octets frame := by
  rintro ⟨ghp, clear, hparse, -, -, -, henc, -⟩
  obtain ⟨info, -, -, hsent⟩ := parse_sent h
  rw [hsent] at hparse
  split at hparse
  · cases hparse
  · cases hparse
    simp [uiParsed, halgo] at henc

theorem clear_payload (lle : GprsLlcLle) (command : Bool) (msg : LlcSdu) :
    ((uiHeader lle.sapi command lle.vuSend ++ uiInfo lle command msg).drop 3).take
        ((uiInfo lle command msg).length - 3) = msg.octets ∧
      fcsOfOctets (uiHeader lle.sapi command lle.vuSend ++ uiInfo lle command msg)
        (uiInfo lle command msg).length =
        gprsLlcFcs ((uiHeader lle.sapi command lle.vuSend ++ uiInfo lle command msg).take
          (uiInfo lle command msg).length) := by
  have hlen := length_uiInfo lle command msg
  have hcovered : (uiHeader lle.sapi command lle.vuSend ++ msg.octets).length = msg.octets.length + 3 := rfl
  constructor
  · rw [hlen, Nat.add_sub_cancel]
    show (uiInfo lle command msg).take msg.octets.length = msg.octets
    rw [uiInfo, List.take_left]
  · rw [hlen, ← hcovered, uiInfo, ← List.append_assoc, fcsOfOctets_append (gprsLlcFcs_lt _), List.take_left]

/-- **UI frames decode exactly when they are not ciphered.** For every SAPI, command or response, N(U), cipher
    and payload for which a frame is sent: the peer reads from it what the sender meant if and only if no
    cipher is in use and the SAPI is not a reserved one. -/
theorem uiDecodes_iff {cipher : GprsCipher} {lle lle' : GprsLlcLle} {command : Bool} {msg : LlcSdu}
    {frame : List Octet} (h : gprsLlcTxUi cipher lle command msg = (.ok frame, lle')) :
    UiDecodes cipher lle msg.octets frame ↔ lle.algo = .gea0 ∧ reservedSapi lle.sapi = false := by
  constructor
  · intro hdec
    by_cases halgo : lle.algo = .gea0
    · obtain ⟨ghp, -, hparse, -⟩ := hdec
      obtain ⟨info, -, -, hsent⟩ := parse_sent h
      rw [hsent] at hparse
      by_cases hres : reservedSapi lle.sapi = true
      · rw [if_pos hres] at hparse
        cases hparse
      · exact ⟨halgo, by simpa using hres⟩
    · exact absurd hdec (not_uiDecodes_of_ciphered h halgo)
  · rintro ⟨halgo, hres⟩
    have hroom := msg.room
    have hlen := length_uiInfo lle command msg
    obtain ⟨-, ⟨-, rfl⟩ | ⟨hciph, -⟩⟩ := txUi_cases h
    · obtain ⟨hpayload, hfcs⟩ := clear_payload lle command msg
      have hparse := parse_uiFrame lle.sapi command lle.vuSend (uiInfo lle command msg)
        (by omega) (by omega)
      rw [hres, if_neg Bool.false_ne_true] at hparse
      refine ⟨_, _, hparse, rfl, rfl, rfl, by simp [uiParsed, halgo], ?_, hpayload, hfcs⟩
      simp [llcDecipher, uiParsed, GprsLlcLle.peer, halgo]
    · exact absurd halgo hciph

/-! ## One frame in the clear, and one ciphered -/

/-- A cipher with a constant key stream. -/
def constCipher : GprsCipher where
  genInputUi _ _ _ _ := 0
  run _ _ _ _ _ := .ok fun _ => 0x5a

/-- An LLE of SAPI 3 after assignment, with the given cipher. -/
def lleThree (algo : GprsCiphAlgo) : GprsLlcLle := lleAssigned 3 algo 0 0 500

/-- A message of two octets. -/
def sduTwo : LlcSdu := ⟨[0xca, 0xfe], by decide⟩

theorem uiDecodes_clear :
    ∃ frame, gprsLlcTxUi constCipher (lleThree .gea0) true sduTwo =
        (.ok frame, (lleThree .gea0).numberUi) ∧
      UiDecodes constCipher (lleThree .gea0) sduTwo.octets frame := by
  have hsent : gprsLlcTxUi constCipher (lleThree .gea0) true sduTwo =
      (.ok (uiHeader 3 true 0 ++ uiInfo (lleThree .gea0) true sduTwo),
        (lleThree .gea0).numberUi) := rfl
  exact ⟨_, hsent, (uiDecodes_iff hsent).mpr ⟨rfl, rfl⟩⟩

/-- With GEA1 the frame is sent, but not as a ciphered one. -/
theorem uiDecodes_ciphered_fails :
    ∃ frame, gprsLlcTxUi constCipher (lleThree .gea1) true sduTwo =
        (.ok frame, (lleThree .gea1).numberUi) ∧
      ¬ UiDecodes constCipher (lleThree .gea1) sduTwo.octets frame := by
  have hsent : gprsLlcTxUi constCipher (lleThree .gea1) true sduTwo =
      (.ok (uiHeader 3 true 0 ++ xorKeystream (fun _ => 0x5a) (uiInfo (lleThree .gea1) true sduTwo)),
        (lleThree .gea1).numberUi) := rfl
  exact ⟨_, hsent, not_uiDecodes_of_ciphered hsent (by decide)⟩

end OpenBsc.Llc
