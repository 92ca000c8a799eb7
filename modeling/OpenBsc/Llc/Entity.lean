import OpenBsc.Llc.Crc24

/-!
# `Llc.Entity` — logical link entities, UI frames in and out (`gprs_llc.c`)

An LLE numbers the UI frames it sends with 9 bits (`vu_send`) and expects a number from its peer
(`vu_recv`); beside each goes an overflow counter for the cipher. `gprs_llc_tx_ui` builds a frame,
`gprs_llc_hdr_parse` reads one, and `gprs_llc_rcvmsg` deciphers, checks and passes on a received one.

The cipher (`gprs_cipher_run` and `gprs_cipher_gen_input_ui` of libosmocore, with whatever cipher is
plugged in) is the parameter `GprsCipher`. The LLE for the TLLI and SAPI of a message is taken as found.
-/

namespace OpenBsc.Llc

/-! ## Data model -/

/-- `enum gprs_ciph_algo`. -/
inductive GprsCiphAlgo where
  | gea0 | gea1 | gea2 | gea3 | gea4
  deriving DecidableEq

inductive CiphDirection where
  | ms2sgsn | sgsn2ms

/-- The cipher: the input parameter of a UI frame from its IOV, SAPI, frame number and overflow counter, and
    the key stream for so many octets, or a negative return code. -/
structure GprsCipher where
  genInputUi : (iovUi sapi lfn oc : Nat) → Nat
  run : GprsCiphAlgo → (kc iv : Nat) → CiphDirection → (len : Nat) → Except Int (Nat → Octet)

/-- `enum gprs_llc_lle_state`. -/
inductive GprsLlcLleState where
  | unassigned | assignedAdm | localEst | remoteEst | abm | localRel | timerRec
  deriving DecidableEq

/-- `struct gprs_llc_lle`, with the cipher parameters of its LLME. -/
structure GprsLlcLle where
  sapi : Fin 16
  algo : GprsCiphAlgo
  kc : Nat
  state : GprsLlcLleState
  vSent : Nat
  vAck : Nat
  vRecv : Nat
  vuSend : Fin 512
  vuRecv : Fin 512
  ocUiSend : Nat
  ocUiRecv : Nat
  n201u : Nat
  deriving DecidableEq

/-- An LLE as `lle_init` and the assignment of a TLLI (`gprs_llgmm_assign`) leave it. -/
def lleAssigned (sapi : Fin 16) (algo : GprsCiphAlgo) (kc oc n201u : Nat) : GprsLlcLle where
  sapi := sapi
  algo := algo
  kc := kc
  state := .assignedAdm
  vSent := 0
  vAck := 0
  vRecv := 0
  vuSend := 0
  vuRecv := 0
  ocUiSend := oc
  ocUiRecv := oc
  n201u := n201u

/-- What an upper layer hands down: a message with room for the header and the frame check sequence. The
    lengths of message buffers are 16-bit. -/
structure LlcSdu where
  octets : List Octet
  room : octets.length + 6 < 65536

/-- `enum gprs_llc_cmd`. -/
inductive GprsLlcCmd where
  | null | rr | ack | rnr | sack | dm | disc | ua | sabm | frmr | xid | ui
  deriving DecidableEq

/-- `struct gprs_llc_hdr_parsed` as `memset` leaves it and the parser fills it; `data` is an offset into the
    frame. -/
structure GprsLlcHdrParsed where
  sapi : Nat := 0
  isCmd : Bool := false
  ackReq : Bool := false
  isEncrypted : Bool := false
  seqRx : Nat := 0
  seqTx : Nat := 0
  fcs : Nat := 0
  data : Option Nat := none
  dataLen : Nat := 0
  crcLength : Nat := 0
  cmd : GprsLlcCmd := .null

/-! ## Sender -/

/-- The address field. -/
def llcAddr (sapi : Nat) (command : Bool) : Nat := (sapi &&& 0xf) ||| (if command then 0x40 else 0)

/-- `gprs_llc_tx_u`: the frame for an unnumbered command, of which `xid` is the only one sent. -/
def gprsLlcTxU (msg : List Octet) (sapi : Nat) (command : Bool) (uCmd : Nat) (pfBit : Bool) : List Octet :=
  let frame := UInt8.ofNat (llcAddr sapi command) ::
    UInt8.ofNat ((0xe0 ||| uCmd) ||| (if pfBit then 0x10 else 0)) :: msg
  frame ++ fcsOctets (gprsLlcFcs frame)

/-- `gprs_llc_tx_xid`. -/
def gprsLlcTxXid (lle : GprsLlcLle) (msg : List Octet) : List Octet :=
  gprsLlcTxU msg lle.sapi false 0x0b true

/-- The header of a UI frame. The E bit is not set: the cipher marks a copy of the control field after the
    header was written. -/
def uiHeader (sapi : Nat) (command : Bool) (nu : Nat) : List Octet :=
  [UInt8.ofNat (llcAddr sapi command), UInt8.ofNat (0xc0 ||| nu >>> 6), UInt8.ofNat (((nu <<< 2) &&& 0xfc) ||| 0x01)]

/-- The key stream on the octets from the first one on. -/
def xorKeystream (keystream : Nat → Octet) (octets : List Octet) : List Octet :=
  octets.mapIdx fun i o => o ^^^ keystream i

/-- The LLE after a UI frame was numbered. The overflow counter goes up when the next number is 511. -/
def GprsLlcLle.numberUi (lle : GprsLlcLle) : GprsLlcLle :=
  { lle with
    vuSend := lle.vuSend + 1
    ocUiSend := if ((lle.vuSend + 1 : Fin 512).val + 1) / 512 ≠ 0 then (lle.ocUiSend + 512) % 2 ^ 32
      else lle.ocUiSend }

/-- `gprs_llc_tx_ui`: the frame for the BSSGP layer or a negative return code, and the LLE afterwards. -/
def gprsLlcTxUi (cipher : GprsCipher) (lle : GprsLlcLle) (command : Bool) (msg : LlcSdu) :
    Except Int (List Octet) × GprsLlcLle :=
  if lle.n201u < msg.octets.length then (.error (-efbig), lle)
  else
    let nu := lle.vuSend
    let oc := lle.ocUiSend
    let header := uiHeader lle.sapi command nu
    let info := msg.octets ++ fcsOctets (gprsLlcFcs (header ++ msg.octets))
    if lle.algo = .gea0 then (.ok (header ++ info), lle.numberUi)
    else
      match cipher.run lle.algo lle.kc (cipher.genInputUi 0 lle.sapi nu oc) .sgsn2ms info.length with
      | .error rc => (.error rc, lle.numberUi)
      | .ok keystream => (.ok (header ++ xorKeystream keystream info), lle.numberUi)

/-! ## Parser -/

/-- Section 6.2.3: the reserved SAPIs. -/
def reservedSapi (sapi : Nat) : Bool :=
  sapi == 0 || sapi == 4 || sapi == 6 || sapi == 0xa || sapi == 0xc || sapi == 0xd || sapi == 0xf

/-- `(llc_hdr + len - 3) - ghp->data` as a `uint16_t`. -/
def dataLenFrom (frame : List Octet) (data : Nat) : Nat :=
  (((frame.length : Int) - 3 - data) % 65536).toNat

/-- The supervisory function bits of I and S frames. -/
def supervisoryCmd (bits : Nat) : GprsLlcCmd :=
  match bits with
  | 0 => .rr
  | 1 => .ack
  | 2 => .rnr
  | _ => .sack

/-- I (Information transfer + Supervisory) format. -/
def parseI (ghp : GprsLlcHdrParsed) (frame : List Octet) : GprsLlcHdrParsed :=
  let ctrl i := octetAt frame (1 + i)
  let cmd := supervisoryCmd (ctrl 2 &&& 0x03)
  let data := if cmd = .sack then 1 + 3 + (1 + (ctrl 3 &&& 0x1f)) else 1 + 3
  { ghp with
    ackReq := ctrl 0 &&& 0x40 != 0
    seqTx := (ctrl 0 &&& 0x1f) <<< 4 ||| ctrl 1 >>> 4
    seqRx := (ctrl 1 &&& 0x7) <<< 6 ||| ctrl 2 >>> 2
    cmd := cmd
    data := some data
    dataLen := dataLenFrom frame data }

/-- S (Supervisory) format. -/
def parseS (ghp : GprsLlcHdrParsed) (frame : List Octet) : GprsLlcHdrParsed :=
  let ctrl i := octetAt frame (1 + i)
  { ghp with
    ackReq := ctrl 0 &&& 0x20 != 0
    seqRx := (ctrl 0 &&& 0x7) <<< 6 ||| ctrl 1 >>> 2
    cmd := supervisoryCmd (ctrl 1 &&& 0x03)
    data := none
    dataLen := 0 }

/-- UI (Unconfirmed Information) format. Without the PM bit the FCS covers the header and N202 octets. -/
def parseUi (ghp : GprsLlcHdrParsed) (frame : List Octet) : GprsLlcHdrParsed :=
  let ctrl i := octetAt frame (1 + i)
  { ghp with
    cmd := .ui
    data := some 3
    dataLen := dataLenFrom frame 3
    seqTx := (ctrl 0 &&& 0x7) <<< 6 ||| ctrl 1 >>> 2
    isEncrypted := ctrl 1 &&& 0x02 != 0
    crcLength := if ctrl 1 &&& 0x01 = 0 ∧ 3 + 4 < ghp.crcLength then 3 + 4 else ghp.crcLength }

/-- U (Unnumbered) format: 1 1 1 P/F M4 M3 M2 M1. -/
def parseU (ghp : GprsLlcHdrParsed) (frame : List Octet) : Except Nat GprsLlcHdrParsed :=
  match octetAt frame 1 &&& 0xf with
  | 0x00 => .ok { ghp with cmd := .null }
  | 0x01 => .ok { ghp with cmd := .dm }
  | 0x04 => .ok { ghp with cmd := .disc }
  | 0x06 => .ok { ghp with cmd := .ua }
  | 0x07 => .ok { ghp with cmd := .sabm }
  | 0x08 => .ok { ghp with cmd := .frmr }
  | 0x0b => .ok { ghp with cmd := .xid, data := some 2, dataLen := dataLenFrom frame 2 }
  | _ => .error eio

/-- `gprs_llc_hdr_parse`. The command/response bit is read for the direction from the mobile station. -/
def gprsLlcHdrParse (frame : List Octet) : Except Nat GprsLlcHdrParsed :=
  if frame.length ≤ 3 then .error eio
  else
    let addr := octetAt frame 0
    let ctrl := octetAt frame 1
    let ghp : GprsLlcHdrParsed :=
      { crcLength := (frame.length - 3) % 65536
        fcs := fcsOfOctets frame (frame.length - 3)
        isCmd := addr &&& 0x40 == 0
        sapi := addr &&& 0xf }
    if addr &&& 0x80 ≠ 0 then .error eio
    else if reservedSapi ghp.sapi then .error einval
    else do
      let ghp ←
        if ctrl &&& 0x80 = 0 then .ok (parseI ghp frame)
        else if ctrl &&& 0xc0 = 0x80 then .ok (parseS ghp frame)
        else if ctrl &&& 0xe0 = 0xc0 then .ok (parseUi ghp frame)
        else parseU ghp frame
      if ghp.cmd = .sack then .error eio else .ok ghp

/-! ## Receiver -/

/-- What comes of a received frame: a negative return code, nothing, or it was processed, with the XID
    response sent and the information field handed to the layer above, if any. -/
inductive LlcOutcome where
  | error (rc : Int)
  | dropped
  | processed (xid info : Option (List Octet))
  deriving DecidableEq

/-- The deciphering step of `gprs_llc_rcvmsg`: the frame with its information field and FCS in the clear. -/
def llcDecipher (cipher : GprsCipher) (lle : GprsLlcLle) (ghp : GprsLlcHdrParsed) (frame : List Octet) :
    Except LlcOutcome (List Octet) :=
  if ghp.isEncrypted then
    if lle.algo = .gea0 then .error .dropped
    else
      let data := ghp.data.getD 0
      let cryptLen := (ghp.dataLen + 3) % 65536
      match cipher.run lle.algo lle.kc (cipher.genInputUi 0 lle.sapi ghp.seqTx lle.ocUiRecv) .ms2sgsn
          cryptLen with
      | .error rc => .error (.error rc)
      | .ok keystream =>
        .ok (frame.take data ++ xorKeystream keystream ((frame.drop data).take cryptLen) ++
          frame.drop (data + cryptLen))
  else if lle.algo = .gea0 then .ok frame
  else .error .dropped

/-- `gprs_llc_hdr_rx`: the LLE afterwards, and the XID response if one is sent; `none` when the frame is to
    be dropped. -/
def gprsLlcHdrRx (ghp : GprsLlcHdrParsed) (info : List Octet) (lle : GprsLlcLle) :
    Option (GprsLlcLle × Option (List Octet)) :=
  match ghp.cmd with
  | .sabm => some ({ lle with vSent := 0, vAck := 0, vRecv := 0, state := .abm }, none)
  | .disc => some ({ lle with state := .assignedAdm }, none)
  | .ua => some ((if lle.state = .localEst then { lle with state := .abm } else lle), none)
  | .dm => some ((if lle.state = .localEst then { lle with state := .assignedAdm } else lle), none)
  | .xid => some (lle, some (gprsLlcTxXid lle info))
  | .ui =>
    if ghp.seqTx < lle.vuRecv then none
    else some ({ lle with
      vuRecv := ⟨(ghp.seqTx + 1) % 512, Nat.mod_lt _ (by decide)⟩
      ocUiRecv := if (ghp.seqTx + 1) / 512 ≠ 0 then (lle.ocUiRecv + 512) % 2 ^ 32 else lle.ocUiRecv },
      none)
  | _ => some (lle, none)

/-- The SAPIs whose information fields the SGSN has a layer for: GMM and the four of SNDCP. -/
def servedSapi (sapi : Nat) : Bool := sapi == 1 || sapi == 3 || sapi == 5 || sapi == 9 || sapi == 11

/-- `gprs_llc_rcvmsg` on the frame of an existing LLE. The FCS is the one read before deciphering. -/
def gprsLlcRcvmsg (cipher : GprsCipher) (lle : GprsLlcLle) (frame : List Octet) : GprsLlcLle × LlcOutcome :=
  match gprsLlcHdrParse frame with
  | .error errno => (lle, .error (-errno))
  | .ok ghp =>
    match llcDecipher cipher lle ghp frame with
    | .error outcome => (lle, outcome)
    | .ok frame =>
      if ghp.fcs ≠ gprsLlcFcs (frame.take ghp.crcLength) then (lle, .error (-eio))
      else
        let info := (frame.drop (ghp.data.getD 0)).take ghp.dataLen
        match gprsLlcHdrRx ghp info lle with
        | none => (lle, .error (-eio))
        | some (lle, xid) =>
          match ghp.data with
          | none => (lle, .processed xid none)
          | some _ =>
            if servedSapi ghp.sapi then (lle, .processed xid (some info))
            else (lle, .error (-einval))

end OpenBsc.Llc
