import OpenBsc.Lib.Buffer
import OpenBsc.Libtrau.RtpProxy

/-!
# `Libtrau.RtpDecode` — speech frames in RTP packets (`rtp_proxy.c`)

`rtp_decode` leaves out the header, the contributing sources, the extension and the padding, and hands on what is
between them. It checks each of these against what is left of the datagram, so it reads nothing else; but a padding
count of zero passes, where the padding counts its own last octet. What `rtp_send_frame` sends has none of the optional
parts.
-/

namespace OpenBsc.Libtrau

open Buffer Prog List Option

/-! ## The source -/

/-- The length of the extension header at `payload`, if it fits. -/
def rtpExtension (flags : Octet) (payload payloadLen : Nat) : Prog (Option Nat) :=
  if flags.toNat / 16 % 2 = 1 then
    if payloadLen < 4 then pure none else do
    let high ← octet (payload + 2)
    let low ← octet (payload + 3)
    let xLen := (high.toNat * 256 + low.toNat) * 4 + 4
    pure (if payloadLen < xLen then none else some xLen)
  else pure (some 0)

/-- The padding count, if it fits. -/
def rtpPadding (flags : Octet) (payload payloadLen : Nat) : Prog (Option Nat) :=
  if flags.toNat / 32 % 2 = 1 then do
    let count ← octet (payload + payloadLen - 1)
    pure (if payloadLen < count.toNat then none else some count.toNat)
  else pure (some 0)

/-- The frame, once it is known where the payload is. -/
def rtpPayload (callref : BitVec 32) (payload payloadLen : Nat) : Prog (Option GsmDataFrame) := do
  let payloadType ← octet 1
  match rtpPayloadType (payloadType.toNat % 128) payloadLen with
  | none => pure none
  | some msgType => do
    let data ← octets payload payloadLen
    pure (some ⟨msgType, callref, data⟩)

/-- `rtp_decode` of a datagram of `len` octets. -/
def rtpDecodeFrom (len : Nat) (callref : BitVec 32) : Prog (Option GsmDataFrame) :=
  if len < 12 then pure none else do
  let flags ← octet 0
  if flags.toNat / 64 ≠ 2 then pure none else
  let payload := 12 + flags.toNat % 16 * 4
  if len < payload then pure none else do
  match ← rtpExtension flags payload (len - payload) with
  | none => pure none
  | some xLen =>
    match ← rtpPadding flags (payload + xLen) (len - payload - xLen) with
    | none => pure none
    | some padding => rtpPayload callref (payload + xLen) (len - payload - xLen - padding)

/-- `struct rtp_socket.transmit`; a time is in seconds and microseconds. -/
structure RtpTransmit where
  ssrc : BitVec 32 := 0
  sequence : BitVec 16 := 0
  timestamp : BitVec 32 := 0
  lastTv : Int × Int := (0, 0)

/-- `tv_difference`: "to - from". -/
def tvDifference (last tv : Int × Int) : Int × Int :=
  if tv.2 < last.2 then (tv.1 - 1 - last.1, tv.2 + 1000000 - last.2) else (tv.1 - last.1, tv.2 - last.2)

/-- The payload type and the length of the payload. -/
def GsmTchType.rtp : GsmTchType → Nat × Nat
  | .tchfFrame => (3, 33)
  | .tchfFrameEfr => (97, 31)

/-- A frame with as many octets as its type has. -/
structure SpeechFrame extends GsmDataFrame where
  length_data : data.length = msgType.rtp.2

/-- A word in network byte order. -/
def networkOctets (n : Nat) (width : Nat) : List Octet :=
  (List.range width).map fun i => UInt8.ofNat (n / 256 ^ (width - 1 - i) % 256)

/-- `rtp_send_frame` at the time `tv`: the transmitter and the packet. `random` is what a transmitter starts with that
    did not send before. `abs` takes an `int`. -/
def rtpSendFrame (random : Option RtpTransmit) (transmit : RtpTransmit) (tv : Int × Int) (frame : GsmDataFrame) :
    RtpTransmit × List Octet :=
  let transmit := random.elim transmit fun random => { random with lastTv := transmit.lastTv }
  let diff := tvDifference transmit.lastTv tv
  let frameDiff := (diff.1 * 1000000 + diff.2).tdiv 20000
  let excess := if 1 < (frameDiff.bmod (2 ^ 32)).natAbs then frameDiff - 1 else 0
  let sequence := transmit.sequence + BitVec.ofInt 16 excess
  let timestamp := transmit.timestamp + BitVec.ofInt 32 (excess * 160)
  ({ transmit with sequence := sequence + 1, timestamp := timestamp + 160, lastTv := tv },
    0x80 :: UInt8.ofNat frame.msgType.rtp.1 :: (networkOctets sequence.toNat 2 ++ networkOctets timestamp.toNat 4 ++
      networkOctets transmit.ssrc.toNat 4 ++ frame.data.take frame.msgType.rtp.2))

/-! ## Packets -/

/-- **The parts of a packet of version 2**: the first octet says which there are, and each has the length it says. -/
structure RtpPacket (msg header csrc extension payload padding : List Octet) : Prop where
  parts : msg = header ++ csrc ++ extension ++ payload ++ padding
  version : octetAt msg 0 / 64 = 2
  header : header.length = 12
  csrc : csrc.length = octetAt msg 0 % 16 * 4
  extension : if octetAt msg 0 / 16 % 2 = 1
    then extension.length = (octetAt extension 2 * 256 + octetAt extension 3) * 4 + 4 else extension = []
  padding : if octetAt msg 0 / 32 % 2 = 1
    then 1 ≤ padding.length ∧ octetAt msg (msg.length - 1) = padding.length else padding = []

/-- Only octets of the datagram are read, and what is accepted is the payload of a packet. -/
def DecodesWell (msg : List Octet) (callref : BitVec 32) : Prop :=
  ∀ behind, (rtpDecodeFrom msg.length callref).Safe msg.length (memory msg behind) ∧
    ∀ frame, (rtpDecodeFrom msg.length callref).value (memory msg behind) = some frame →
      rtpPayloadType (octetAt msg 1 % 128) frame.data.length = some frame.msgType ∧ frame.callref = callref ∧
      ∃ header csrc extension padding, RtpPacket msg header csrc extension frame.data padding

/-! ## Reading -/

section

variable {msg : List Octet} {behind : Nat → Octet} {flags : Octet} {payload payloadLen : Nat} {callref : BitVec 32}

/-- The length of the extension. -/
def rtpExtensionLen (msg : List Octet) : Nat :=
  let payload := 12 + octetAt msg 0 % 16 * 4
  if octetAt msg 0 / 16 % 2 = 1 then (octetAt msg (payload + 2) * 256 + octetAt msg (payload + 3)) * 4 + 4 else 0

/-- Where the payload starts. -/
def rtpStart (msg : List Octet) : Nat := 12 + octetAt msg 0 % 16 * 4 + rtpExtensionLen msg

/-- The padding count, which the last octet is. -/
def rtpPaddingCount (msg : List Octet) : Nat :=
  if octetAt msg 0 / 32 % 2 = 1 then octetAt msg (msg.length - 1) else 0

/-- **What is accepted**: version 2, all parts fit, and the frame is what is between them. -/
structure RtpAccepts (msg : List Octet) (callref : BitVec 32) (frame : GsmDataFrame) : Prop where
  version : octetAt msg 0 / 64 = 2
  fit : rtpStart msg + rtpPaddingCount msg ≤ msg.length
  type : rtpPayloadType (octetAt msg 1 % 128) (msg.length - rtpStart msg - rtpPaddingCount msg) = some frame.msgType
  callref : frame.callref = callref
  data : frame.data = (msg.drop (rtpStart msg)).take (msg.length - rtpStart msg - rtpPaddingCount msg)

theorem four_le_rtpExtensionLen (hx : octetAt msg 0 / 16 % 2 = 1) : 4 ≤ rtpExtensionLen msg := by
  unfold rtpExtensionLen
  rw [if_pos hx]
  exact Nat.le_add_left 4 _

theorem some_frame_iff {t : GsmTchType} {data : List Octet} {frame : GsmDataFrame} :
    some (⟨t, callref, data⟩ : GsmDataFrame) = some frame ↔
      t = frame.msgType ∧ frame.callref = callref ∧ frame.data = data := by
  cases frame
  simp only [Option.some.injEq, GsmDataFrame.mk.injEq]
  constructor
  · rintro ⟨rfl, rfl, rfl⟩
    exact ⟨rfl, rfl, rfl⟩
  · rintro ⟨rfl, rfl, rfl⟩
    exact ⟨rfl, rfl, rfl⟩

theorem rtpDecode_eq_some {frame : GsmDataFrame} :
    rtpDecode msg callref = some frame ↔ RtpAccepts msg callref frame := by
  have hextension : octetAt msg 0 / 16 % 2 = 1 → 4 ≤ rtpExtensionLen msg := four_le_rtpExtensionLen
  have hlen : (if octetAt msg 0 / 16 % 2 = 1
      then (octetAt msg (12 + octetAt msg 0 % 16 * 4 + 2) * 256 + octetAt msg (12 + octetAt msg 0 % 16 * 4 + 3)) * 4 + 4
      else 0) = rtpExtensionLen msg := rfl
  have hnone : ¬octetAt msg 0 / 16 % 2 = 1 → rtpExtensionLen msg = 0 := fun hx => if_neg hx
  have hcount (hfit : rtpStart msg ≤ msg.length) :
      (if octetAt msg 0 / 32 % 2 = 1 then
        octetAt msg (rtpStart msg + (msg.length - (12 + octetAt msg 0 % 16 * 4) - rtpExtensionLen msg) - 1) else 0) =
      rtpPaddingCount msg := by
    unfold rtpPaddingCount
    unfold rtpStart at *
    rw [show 12 + octetAt msg 0 % 16 * 4 + rtpExtensionLen msg +
      (msg.length - (12 + octetAt msg 0 % 16 * 4) - rtpExtensionLen msg) = msg.length by omega]
  have hstart : 12 + octetAt msg 0 % 16 * 4 + rtpExtensionLen msg = rtpStart msg := rfl
  have hrest : msg.length - (12 + octetAt msg 0 % 16 * 4) - rtpExtensionLen msg = msg.length - rtpStart msg :=
    Nat.sub_sub ..
  unfold rtpDecode
  simp only [ite_none_left_eq_some, bind_eq_bind, bind_eq_some_iff, some_frame_iff, hlen, hstart]
  constructor
  · rintro ⟨-, hversion, hcsrc, hx, hpadding, t, htype, rfl, hcallref, hdata⟩
    have hfit : rtpStart msg ≤ msg.length := by omega
    rw [hcount hfit, hrest] at hpadding htype hdata
    exact ⟨by omega, by omega, htype, hcallref, hdata⟩
  · rintro ⟨hversion, hfit, htype, hcallref, hdata⟩
    rw [hcount (by omega), hrest]
    exact ⟨by omega, by omega, by omega, by omega, by omega, frame.msgType, htype, rfl, hcallref, hdata⟩

/-- The extension header, where the list of sources fits. -/
theorem rtpExtension_run (behind : Nat → Octet) (hflags : flags.toNat = octetAt msg 0)
    (hpayload : payload = 12 + octetAt msg 0 % 16 * 4) (hlen : payload + payloadLen = msg.length) :
    (rtpExtension flags payload payloadLen).Safe msg.length (memory msg behind) ∧
      (rtpExtension flags payload payloadLen).value (memory msg behind) =
        if payloadLen < rtpExtensionLen msg then none else some (rtpExtensionLen msg) := by
  have hextension : octetAt msg 0 / 16 % 2 = 1 → 4 ≤ rtpExtensionLen msg := four_le_rtpExtensionLen
  unfold rtpExtension
  rw [hflags]
  by_cases hx : octetAt msg 0 / 16 % 2 = 1
  · rw [if_pos hx]
    by_cases hshort : payloadLen < 4
    · rw [if_pos hshort, if_pos (by have := hextension hx; omega)]
      exact ⟨by simp, rfl⟩
    · have hbody : (octetAt msg (payload + 2) * 256 + octetAt msg (payload + 3)) * 4 + 4 = rtpExtensionLen msg := by
        unfold rtpExtensionLen
        rw [if_pos hx, hpayload]
      rw [if_neg hshort, safe_octet_bind, safe_octet_bind, value_octet_bind, value_octet_bind,
        memory_of_lt (by omega), memory_of_lt (by omega), hbody]
      exact ⟨⟨by omega, by omega, by simp⟩, rfl⟩
  · have hnone : rtpExtensionLen msg = 0 := by
      unfold rtpExtensionLen
      exact if_neg hx
    rw [if_neg hx, hnone]
    exact ⟨by simp, rfl⟩

/-- The padding count is read inside the datagram also where there is no payload. -/
theorem rtpPadding_run (behind : Nat → Octet) (hflags : flags.toNat = octetAt msg 0) (hpayload : 12 ≤ payload)
    (hlen : payload + payloadLen = msg.length) :
    (rtpPadding flags payload payloadLen).Safe msg.length (memory msg behind) ∧
      (rtpPadding flags payload payloadLen).value (memory msg behind) =
        if payloadLen < rtpPaddingCount msg then none else some (rtpPaddingCount msg) := by
  unfold rtpPadding rtpPaddingCount
  rw [hflags, hlen]
  by_cases hp : octetAt msg 0 / 32 % 2 = 1
  · rw [if_pos hp, if_pos hp, safe_octet_bind, value_octet_bind, memory_of_lt (by omega)]
    exact ⟨⟨by omega, by simp⟩, rfl⟩
  · rw [if_neg hp, if_neg hp]
    exact ⟨by simp, rfl⟩

theorem rtpPayload_run (behind : Nat → Octet) (callref : BitVec 32) (hshort : 1 < msg.length)
    (hfit : payload + payloadLen ≤ msg.length) :
    (rtpPayload callref payload payloadLen).Safe msg.length (memory msg behind) ∧
      ∀ frame, (rtpPayload callref payload payloadLen).value (memory msg behind) = some frame ↔
        rtpPayloadType (octetAt msg 1 % 128) payloadLen = some frame.msgType ∧ frame.callref = callref ∧
          frame.data = (msg.drop payload).take payloadLen := by
  unfold rtpPayload
  rw [safe_octet_bind, value_octet_bind, memory_of_lt hshort]
  cases htype : rtpPayloadType (octetAt msg 1 % 128) payloadLen with
  | none => exact ⟨⟨hshort, by simp⟩, fun frame => by simp⟩
  | some t =>
    refine ⟨⟨hshort, by simp [hfit]⟩, fun frame => ?_⟩
    rw [value_bind, value_octets_take (by omega), value_pure, some_frame_iff, Option.some.injEq]

/-- **Only octets of the datagram are read, and the frame is what is accepted.** -/
theorem rtpDecodeFrom_run (msg : List Octet) (callref : BitVec 32) (behind : Nat → Octet) :
    (rtpDecodeFrom msg.length callref).Safe msg.length (memory msg behind) ∧
      ∀ frame, (rtpDecodeFrom msg.length callref).value (memory msg behind) = some frame ↔
        RtpAccepts msg callref frame := by
  have hrefused (hrefused : msg.length < rtpStart msg + rtpPaddingCount msg) (frame : GsmDataFrame) :
      (none : Option GsmDataFrame) = some frame ↔ RtpAccepts msg callref frame :=
    iff_of_false nofun fun h => absurd h.fit (by omega)
  have hstart : rtpStart msg = 12 + octetAt msg 0 % 16 * 4 + rtpExtensionLen msg := rfl
  unfold rtpDecodeFrom
  by_cases hshort : msg.length < 12
  · rw [if_pos hshort]
    exact ⟨by simp, hrefused (by omega)⟩
  rw [if_neg hshort, safe_octet_bind, value_octet_bind]
  have hflags : (memory msg behind 0).toNat = octetAt msg 0 := memory_of_lt (by omega) behind
  generalize memory msg behind 0 = flags at hflags
  rw [hflags]
  by_cases hversion : octetAt msg 0 / 64 = 2
  case neg =>
    rw [if_pos hversion]
    exact ⟨⟨by omega, by simp⟩, fun frame => iff_of_false nofun fun h => hversion h.version⟩
  rw [if_neg (not_not_intro hversion)]
  by_cases hcsrc : msg.length < 12 + octetAt msg 0 % 16 * 4
  · rw [if_pos hcsrc]
    exact ⟨⟨by omega, by simp⟩, hrefused (by omega)⟩
  rw [if_neg hcsrc]
  obtain ⟨hsafe, hvalue⟩ := rtpExtension_run behind hflags rfl (Nat.add_sub_cancel' (Nat.le_of_not_lt hcsrc))
  rw [safe_bind, value_bind, hvalue]
  by_cases hx : msg.length - (12 + octetAt msg 0 % 16 * 4) < rtpExtensionLen msg
  · rw [if_pos hx]
    exact ⟨⟨by omega, hsafe, by simp⟩, hrefused (by omega)⟩
  rw [if_neg hx]
  dsimp only
  have hrest : msg.length - (12 + octetAt msg 0 % 16 * 4) - rtpExtensionLen msg = msg.length - rtpStart msg :=
    Nat.sub_sub ..
  rw [← hstart, hrest]
  have hfit : rtpStart msg ≤ msg.length := by omega
  obtain ⟨hsafe', hvalue'⟩ := rtpPadding_run behind hflags (by omega) (Nat.add_sub_cancel' hfit)
  rw [safe_bind, value_bind, hvalue']
  by_cases hpadding : msg.length - rtpStart msg < rtpPaddingCount msg
  · rw [if_pos hpadding]
    exact ⟨⟨by omega, hsafe, hsafe', by simp⟩, hrefused (by omega)⟩
  rw [if_neg hpadding]
  have hpart : rtpStart msg + (msg.length - rtpStart msg - rtpPaddingCount msg) ≤ msg.length := by omega
  obtain ⟨hsafe'', hvalue''⟩ := rtpPayload_run behind callref (by omega) hpart
  refine ⟨⟨by omega, hsafe, hsafe', hsafe''⟩, fun frame => ?_⟩
  dsimp only
  rw [hvalue'']
  constructor
  · rintro ⟨htype, hcallref, hdata⟩
    exact ⟨hversion, by omega, htype, hcallref, hdata⟩
  · intro h
    exact ⟨h.type, h.callref, h.data⟩

/-! ## Every datagram -/

/-- A packet that would be accepted if it had no padding, whose padding has the count zero. -/
structure ZeroPadded (msg : List Octet) : Prop where
  version : octetAt msg 0 / 64 = 2
  padding : octetAt msg 0 / 32 % 2 = 1
  zero : octetAt msg (msg.length - 1) = 0
  fit : rtpStart msg ≤ msg.length
  type : (rtpPayloadType (octetAt msg 1 % 128) (msg.length - rtpStart msg)).isSome = true

theorem octetAt_part {a n i : Nat} (hi : i < n) : octetAt ((msg.drop a).take n) i = octetAt msg (a + i) := by
  unfold octetAt
  rw [getD_eq_getElem?_getD, getElem?_take_of_lt hi, getElem?_drop, ← getD_eq_getElem?_getD]

theorem RtpAccepts.packet {frame : GsmDataFrame} (h : RtpAccepts msg callref frame) (hzero : ¬ZeroPadded msg) :
    ∃ header csrc extension padding, RtpPacket msg header csrc extension frame.data padding := by
  have hfit := h.fit
  have hstart : rtpStart msg = 12 + octetAt msg 0 % 16 * 4 + rtpExtensionLen msg := rfl
  refine ⟨msg.take 12, (msg.drop 12).take (octetAt msg 0 % 16 * 4),
    (msg.drop (12 + octetAt msg 0 % 16 * 4)).take (rtpExtensionLen msg),
      msg.drop (msg.length - rtpPaddingCount msg), ?_⟩
  constructor
  case parts =>
    rw [h.data, ← take_add, ← take_add, ← hstart, ← take_add,
      show rtpStart msg + (msg.length - rtpStart msg - rtpPaddingCount msg) = msg.length - rtpPaddingCount msg by omega,
      take_append_drop]
  case version => exact h.version
  case header =>
    rw [length_take]
    omega
  case csrc =>
    rw [length_take, length_drop]
    omega
  case extension =>
    split
    case isTrue hx =>
      have hextension := four_le_rtpExtensionLen hx
      rw [length_take, length_drop, Nat.min_eq_left (by omega), octetAt_part (by omega), octetAt_part (by omega)]
      exact if_pos hx
    case isFalse hx =>
      have hextension : rtpExtensionLen msg = 0 := if_neg hx
      rw [hextension, take_zero]
  case padding =>
    rw [length_drop]
    split
    case isTrue hp =>
      have hcount : rtpPaddingCount msg = octetAt msg (msg.length - 1) := if_pos hp
      have hne : octetAt msg (msg.length - 1) ≠ 0 := by
        intro h0
        have htype := h.type
        rw [hcount, h0] at htype
        exact hzero ⟨h.version, hp, h0, by omega, isSome_of_eq_some htype⟩
      omega
    case isFalse hp =>
      have hcount : rtpPaddingCount msg = 0 := if_neg hp
      rw [hcount]
      exact drop_eq_nil_of_le (Nat.le_refl _)

theorem ZeroPadded.not_decodesWell (h : ZeroPadded msg) (callref : BitVec 32) : ¬DecodesWell msg callref := by
  intro hwell
  obtain ⟨t, ht⟩ := isSome_iff_exists.mp h.type
  have hcount : rtpPaddingCount msg = 0 := (if_pos h.padding).trans h.zero
  have hfit := h.fit
  have haccepts : RtpAccepts msg callref ⟨t, callref, _⟩ :=
    ⟨h.version, by omega, by rw [hcount]; exact ht, rfl, rfl⟩
  obtain ⟨-, -, header, csrc, extension, padding, hpacket⟩ :=
    (hwell fun _ => 0).2 _ (((rtpDecodeFrom_run msg callref _).2 _).mpr haccepts)
  have hpadding := hpacket.padding
  rw [if_pos h.padding, h.zero] at hpadding
  omega

theorem rtpDecode_sent (frame : SpeechFrame) (header : List Octet) (hheader : header.length = 10) :
    rtpDecode (0x80 :: UInt8.ofNat frame.msgType.rtp.1 :: (header ++ frame.data.take frame.msgType.rtp.2)) callref =
      some ⟨frame.msgType, callref, frame.data⟩ := by
  rw [← frame.length_data, take_length, rtpDecode_eq_some]
  have hstart (rest : List Octet) : rtpStart (0x80 :: rest) = 12 := by
    simp [rtpStart, rtpExtensionLen]
  have hcount (rest : List Octet) : rtpPaddingCount (0x80 :: rest) = 0 := by
    simp [rtpPaddingCount]
  have hlen : (0x80 :: UInt8.ofNat frame.msgType.rtp.1 :: (header ++ frame.data)).length = 12 + frame.data.length := by
    rw [length_cons, length_cons, length_append, hheader]
    omega
  have hdata : frame.data.length = 12 + frame.data.length - 12 - 0 := by omega
  have htype :
      rtpPayloadType ((UInt8.ofNat frame.msgType.rtp.1).toNat % 128) frame.data.length = some frame.msgType := by
    rw [frame.length_data]
    cases frame.msgType <;> rfl
  refine ⟨by simp, ?_, ?_, rfl, ?_⟩
  · rw [hstart, hcount, hlen]
    omega
  · rw [hstart, hcount, hlen, ← hdata]
    exact htype
  · rw [hstart, hcount, hlen, ← hdata]
    show frame.data = ((header ++ frame.data).drop 10).take _
    rw [← hheader, drop_left, take_length]

end

/-- **Every datagram whose padding does not count zero is decoded as it should be, and so is every packet sent.** -/
theorem decodesWell_iff (msg : List Octet) (callref : BitVec 32) (random : Option RtpTransmit) (transmit : RtpTransmit)
    (tv : Int × Int) (frame : SpeechFrame) :
    (DecodesWell msg callref ↔ ¬ZeroPadded msg) ∧
      rtpDecode (rtpSendFrame random transmit tv frame.toGsmDataFrame).2 callref =
        some ⟨frame.msgType, callref, frame.data⟩ := by
  refine ⟨⟨fun h hzero => hzero.not_decodesWell callref h, fun hzero behind => ?_⟩, ?_⟩
  · obtain ⟨hsafe, hvalue⟩ := rtpDecodeFrom_run msg callref behind
    refine ⟨hsafe, fun frame hframe => ?_⟩
    have haccepts := (hvalue frame).mp hframe
    refine ⟨?_, haccepts.callref, haccepts.packet hzero⟩
    rw [haccepts.data, length_take, length_drop, Nat.min_eq_left (Nat.sub_le ..)]
    exact haccepts.type
  · exact rtpDecode_sent frame _ (by simp only [networkOctets, length_append, length_map, length_range])

/-- An enhanced full rate packet of zeros that says it is padded. -/
theorem not_decodesWell_zero : ¬DecodesWell ([0xa0, 0x61] ++ replicate 41 0) 1 :=
  ZeroPadded.not_decodesWell ⟨by decide, by decide, by decide, by decide, by decide⟩ 1

end OpenBsc.Libtrau
