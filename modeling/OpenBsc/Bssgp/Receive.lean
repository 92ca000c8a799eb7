import OpenBsc.Bssgp.FlowControl
import OpenBsc.Lib.Octets
import OpenBsc.Sgsn.Types

/-!
# `Bssgp.Receive` — PDUs from a BSS and the contexts of its BVCs (`gprs_bssgp.c`)

An SGSN keeps a context for each BVC, known by its BVCI and the NSEI it is reached over. A context is made for a
BVC-RESET and never freed. A PDU is received on an NS-level BVCI, while a reset, a block or an unblock names another
BVCI inside; the list is searched from the context that was made last.

`bssgp_tlv_parse` hands over the elements of a PDU, each as the octets from its value on: no handler looks at a
length. What libosmocore, GMM and the memory allocator do is part of what is received (`BssgpRx`). A handler has no
result where it follows a pointer that leads nowhere. Counters and log texts are left out.
-/

namespace OpenBsc.Bssgp

open Sgsn (GprsRaId)

/-! ## Data model -/

/-- `enum bssgp_pdu_type`. -/
inductive BssgpPduType where
  | dlUnitdata | ulUnitdata | raCapability | ptmUnitdata
  | pagingPs | pagingCs | raCapaUpdate | raCapaUpdateAck | radioStatus
  | suspend | suspendAck | suspendNack | resume | resumeAck | resumeNack
  | bvcBlock | bvcBlockAck | bvcReset | bvcResetAck | bvcUnblock | bvcUnblockAck
  | flowControlBvc | flowControlBvcAck | flowControlMs | flowControlMsAck
  | flushLl | flushLlAck | llcDiscard | sgsnInvokeTrace | status
  | downloadBssPfc | createBssPfc | createBssPfcAck | createBssPfcNack
  | modifyBssPfc | modifyBssPfcAck | deleteBssPfc | deleteBssPfcAck
  | other (pduType : Octet)
  deriving DecidableEq

/-- `BSSGP_IE_*`, the elements that are looked at. -/
inductive BssgpIe where
  | bmaxDefaultMs | bucketLeakRate | bvci | bvcBucketSize | cause | cellId | llcPdu | llcFramesDiscarded
  | msBucketSize | routeingArea | rDefaultMs | suspendRefNr | tag | tlli | numOctAff

/-- `BSSGP_CAUSE_*`, those that are sent. -/
inductive BssgpCause where
  | unknownBvci | bvciBlocked | missingMandIe | protoErrUnspec | pduIncompFeat

/-- `BVCI_SIGNALLING` and `BVCI_PTM`. -/
def bvciSignalling : BitVec 16 := 0
def bvciPtm : BitVec 16 := 1

/-- `BVC_S_BLOCKED`. -/
def bvcSBlocked : BitVec 32 := 1

/-- `struct bssgp_bvc_ctx`. -/
structure BvcCtx (μ : Type) where
  raId : GprsRaId := { mcc := 0, mnc := 0 }
  cellId : BitVec 16 := 0
  bvci : BitVec 16
  nsei : BitVec 16
  state : BitVec 32 := 0
  fc : BssgpFlowControl μ :=
    { bucketSizeMax := 0, bucketLeakRate := 0, bucketCounter := 0, timeLastPdu := ⟨0, 0, Nat.zero_lt_succ _⟩,
      maxQueueDepth := 0, queueDepth := 0, queue := .null, timer := none }
  bmaxDefaultMs : Nat := 0
  rDefaultMs : Nat := 0

/-- A PDU that is received, with the identifiers of the NS level and the elements the parser found; `tlli` is the one
    in the header of a unitdata. `alloc` says whether there is memory for a context, and `gmm` whether GMM knows the
    station of a SUSPEND or a RESUME. -/
structure BssgpRx where
  nsei : BitVec 16
  nsBvci : BitVec 16
  pduType : BssgpPduType
  tlli : BitVec 32 := 0
  tp : BssgpIe → Option (List Octet)
  alloc : Bool := true
  gmm : Bool := true

/-- What is sent to the BSS or handed to LLC. -/
inductive BssgpOut where
  | status (cause : BssgpCause) (bvci : Option (BitVec 16))
  | simpleBvci (pduType : BssgpPduType) (bvci nsBvci : BitVec 16)
  | fcBvcAck (tag : Nat) (nsBvci : BitVec 16)
  | fcMsAck (tlli : BitVec 32) (tag : Nat) (nsBvci : BitVec 16)
  | suspendAck (tlli : BitVec 32) (raId : GprsRaId) (suspendRef : Nat)
  | suspendNack (tlli : BitVec 32) (raId : GprsRaId)
  | resumeAck (tlli : BitVec 32) (raId : GprsRaId)
  | resumeNack (tlli : BitVec 32) (raId : GprsRaId)
  | llcRcvmsg (tlli : BitVec 32) (llch bcid : List Octet)

/-- What a handler returns: zero, `-EINVAL`, or what NS or LLC returned. -/
inductive BssgpRc where
  | zero | einval | passed
  deriving DecidableEq

/-- `bssgp_bvc_ctxts`. -/
abbrev BvcCtxts (μ : Type) := Pool (BvcCtx μ)

/-- The contexts afterwards, what is sent, and what is returned. -/
structure Handled (μ : Type) where
  ctxts : BvcCtxts μ
  outs : List BssgpOut := []
  rc : BssgpRc := .zero

variable {μ : Type}

/-- `ntohs` and `ntohl` of what stands at a pointer. -/
def ntohsAt (val : List Octet) (i : Nat) : BitVec 16 := BitVec.ofNat 16 (octetAt val i * 256 + octetAt val (i + 1))
def ntohlAt (val : List Octet) (i : Nat) : BitVec 32 := ntohsAt val i ++ ntohsAt val (i + 2)

/-- A message goes out, and what NS says of it is returned. -/
def sends (ctxts : BvcCtxts μ) (out : BssgpOut) : Handled μ := { ctxts := ctxts, outs := [out], rc := .passed }

/-- `return bssgp_tx_status(cause, bvci, msg)`. -/
def bssgpTxStatus (ctxts : BvcCtxts μ) (cause : BssgpCause) (bvci : Option (BitVec 16)) : Handled μ :=
  sends ctxts (.status cause bvci)

/-! ## Contexts -/

/-- `btsctx_by_bvci_nsei`. -/
def btsctxByBvciNsei (ctxts : BvcCtxts μ) (bvci nsei : BitVec 16) : Option (Nat × BvcCtx μ) :=
  ctxts.findLast? fun ctx => ctx.nsei = nsei && ctx.bvci = bvci

/-- `btsctx_alloc`. -/
def btsctxAlloc (alloc : Bool) (ctxts : BvcCtxts μ) (bvci nsei : BitVec 16) : Option (Nat × BvcCtxts μ) :=
  if alloc then some (ctxts.next, ctxts.alloc { bvci := bvci, nsei := nsei }) else none

/-- `bctx->…`: the context behind a pointer. -/
def deref (ctxts : BvcCtxts μ) (bctx : Option Nat) : Option (BvcCtx μ) := bctx.bind ctxts.get?

def BvcCtx.block (ctx : BvcCtx μ) : BvcCtx μ := { ctx with state := ctx.state ||| bvcSBlocked }
def BvcCtx.unblock (ctx : BvcCtx μ) : BvcCtx μ := { ctx with state := ctx.state &&& ~~~bvcSBlocked }

/-! ## Reset, block and unblock -/

section Handlers

variable (gsm48ParseRa : List Octet → GprsRaId)

/-- `bssgp_parse_cell_id`, stored in a context. -/
def BvcCtx.parseCellId (val : List Octet) (ctx : BvcCtx μ) : BvcCtx μ :=
  { ctx with raId := gsm48ParseRa val, cellId := ntohsAt val 6 }

/-- The look-up at the start of `bssgp_rx_bvc_reset`, which makes the context that is not there. -/
def btsctxForReset (ctxts : BvcCtxts μ) (rx : BssgpRx) (bvci : BitVec 16) : Option (Nat × BvcCtxts μ) :=
  match btsctxByBvciNsei ctxts bvci rx.nsei with
  | some found => some (found.1, ctxts)
  | none => btsctxAlloc rx.alloc ctxts bvci rx.nsei

/-- `bssgp_rx_bvc_reset`. The context is there, and no longer blocked, before the cell identity is looked for. -/
def bssgpRxBvcReset (ctxts : BvcCtxts μ) (rx : BssgpRx) : Option (Handled μ) :=
  (rx.tp .bvci).bind fun val =>
    let bvci := ntohsAt val 0
    (btsctxForReset ctxts rx bvci).bind fun found =>
      let ctxts := found.2.modify found.1 BvcCtx.unblock
      let ack := BssgpOut.simpleBvci .bvcResetAck bvci rx.nsBvci
      if bvci ≠ 0 ∧ bvci ≠ 1 then
        match rx.tp .cellId with
        | none => some { ctxts := ctxts, rc := .einval }
        | some cell =>
          some { ctxts := ctxts.modify found.1 (BvcCtx.parseCellId gsm48ParseRa cell), outs := [ack] }
      else some { ctxts := ctxts, outs := [ack] }

/-- A block or an unblock: the context named in the PDU is changed, and that is acknowledged. -/
def bssgpRxBvcChange (f : BvcCtx μ → BvcCtx μ) (ack : BssgpPduType) (ctxts : BvcCtxts μ) (rx : BssgpRx) :
    Option (Handled μ) :=
  (rx.tp .bvci).bind fun val =>
    let bvci := ntohsAt val 0
    if bvci = bvciSignalling then some { ctxts := ctxts }
    else
      match btsctxByBvciNsei ctxts bvci rx.nsei with
      | none => some (bssgpTxStatus ctxts .unknownBvci (some bvci))
      | some found => some (sends (ctxts.modify found.1 f) (.simpleBvci ack bvci rx.nsBvci))

/-- `bssgp_rx_bvc_block`. -/
def bssgpRxBvcBlock : BvcCtxts μ → BssgpRx → Option (Handled μ) :=
  bssgpRxBvcChange BvcCtx.block .bvcBlockAck

/-- `bssgp_rx_bvc_unblock`. -/
def bssgpRxBvcUnblock : BvcCtxts μ → BssgpRx → Option (Handled μ) :=
  bssgpRxBvcChange BvcCtx.unblock .bvcUnblockAck

/-! ## The other handlers -/

/-- `bssgp_rx_ul_ud`. -/
def bssgpRxUlUd (ctxts : BvcCtxts μ) (rx : BssgpRx) : Handled μ :=
  match rx.tp .cellId, rx.tp .llcPdu with
  | some cell, some llc => sends ctxts (.llcRcvmsg rx.tlli llc cell)
  | _, _ => bssgpTxStatus ctxts .missingMandIe none

/-- `bssgp_rx_suspend`. -/
def bssgpRxSuspend (ctxts : BvcCtxts μ) (rx : BssgpRx) (bctx : Option Nat) : Option (Handled μ) :=
  (deref ctxts bctx).map fun _ =>
    match rx.tp .tlli, rx.tp .routeingArea with
    | some val, some ra =>
      let tlli := ntohlAt val 0
      if rx.gmm then { ctxts := ctxts, outs := [.suspendAck tlli (gsm48ParseRa ra) 0] }
      else sends ctxts (.suspendNack tlli (gsm48ParseRa ra))
    | _, _ => bssgpTxStatus ctxts .missingMandIe none

/-- `bssgp_rx_resume`. -/
def bssgpRxResume (ctxts : BvcCtxts μ) (rx : BssgpRx) (bctx : Option Nat) : Option (Handled μ) :=
  (deref ctxts bctx).map fun _ =>
    match rx.tp .tlli, rx.tp .routeingArea, rx.tp .suspendRefNr with
    | some val, some ra, some _ =>
      let tlli := ntohlAt val 0
      if rx.gmm then { ctxts := ctxts, outs := [.resumeAck tlli (gsm48ParseRa ra)] }
      else sends ctxts (.resumeNack tlli (gsm48ParseRa ra))
    | _, _, _ => bssgpTxStatus ctxts .missingMandIe none

/-- `bssgp_rx_llc_disc`. An element that is missing is logged, and nothing more. -/
def bssgpRxLlcDisc (ctxts : BvcCtxts μ) (bctx : Option Nat) : Option (Handled μ) :=
  (deref ctxts bctx).map fun _ => { ctxts := ctxts }

/-- What `bssgp_rx_fc_bvc` stores in the context. -/
def BvcCtx.setFlowControl (size leak bmax r : List Octet) (ctx : BvcCtx μ) : BvcCtx μ :=
  { ctx with
    fc := { ctx.fc with
      bucketSizeMax := 100 * (ntohsAt size 0).toNat
      bucketLeakRate := 100 * (ntohsAt leak 0).toNat }
    bmaxDefaultMs := 100 * (ntohsAt bmax 0).toNat
    rDefaultMs := 100 * (ntohsAt r 0).toNat }

/-- `bssgp_rx_fc_bvc`. -/
def bssgpRxFcBvc (ctxts : BvcCtxts μ) (rx : BssgpRx) (i : Nat) : Handled μ :=
  match rx.tp .tag, rx.tp .bvcBucketSize, rx.tp .bucketLeakRate, rx.tp .bmaxDefaultMs, rx.tp .rDefaultMs with
  | some tag, some size, some leak, some bmax, some r =>
    sends (ctxts.modify i (BvcCtx.setFlowControl size leak bmax r)) (.fcBvcAck (octetAt tag 0) rx.nsBvci)
  | _, _, _, _, _ => bssgpTxStatus ctxts .missingMandIe none

/-- `bssgp_rx_fc_ms`. -/
def bssgpRxFcMs (ctxts : BvcCtxts μ) (rx : BssgpRx) : Handled μ :=
  match rx.tp .tlli, rx.tp .tag, rx.tp .msBucketSize, rx.tp .bucketLeakRate with
  | some val, some tag, some _, some _ => sends ctxts (.fcMsAck (ntohlAt val 0) (octetAt tag 0) rx.nsBvci)
  | _, _, _, _ => bssgpTxStatus ctxts .missingMandIe none

/-! ## Entry point -/

/-- A PDU of the other direction: a STATUS is sent, and `-EINVAL` returned. -/
def onlyInDl (ctxts : BvcCtxts μ) : Handled μ :=
  { ctxts := ctxts, outs := [.status .protoErrUnspec none], rc := .einval }

/-- `gprs_bssgp_rx_ptp`. -/
def gprsBssgpRxPtp (ctxts : BvcCtxts μ) (rx : BssgpRx) (bctx : Option Nat) : Option (Handled μ) :=
  bctx.bind fun i => (ctxts.get? i).map fun ctx =>
    if ctx.state &&& bvcSBlocked ≠ 0 ∧ rx.pduType ≠ .status then
      bssgpTxStatus ctxts .bvciBlocked (some rx.nsBvci)
    else
      match rx.pduType with
      | .ulUnitdata => bssgpRxUlUd ctxts rx
      | .raCapaUpdate | .radioStatus => { ctxts := ctxts }
      | .flowControlBvc => bssgpRxFcBvc ctxts rx i
      | .flowControlMs => bssgpRxFcMs ctxts rx
      -- a STATUS falls through to what is not implemented
      | .status | .downloadBssPfc | .createBssPfcAck | .createBssPfcNack | .modifyBssPfc | .deleteBssPfcAck =>
        bssgpTxStatus ctxts .pduIncompFeat none
      | .dlUnitdata | .pagingPs | .pagingCs | .raCapaUpdateAck | .flowControlBvcAck | .flowControlMsAck
      | .raCapability => onlyInDl ctxts
      | _ => bssgpTxStatus ctxts .protoErrUnspec none

/-- `gprs_bssgp_rx_sign`. -/
def gprsBssgpRxSign (ctxts : BvcCtxts μ) (rx : BssgpRx) (bctx : Option Nat) : Option (Handled μ) :=
  match rx.pduType with
  | .suspend => bssgpRxSuspend gsm48ParseRa ctxts rx bctx
  | .resume => bssgpRxResume gsm48ParseRa ctxts rx bctx
  | .flushLlAck | .status => (deref ctxts bctx).map fun _ => { ctxts := ctxts }
  | .llcDiscard => bssgpRxLlcDisc ctxts bctx
  | .bvcBlock =>
    if (rx.tp .bvci).isSome ∧ (rx.tp .cause).isSome then bssgpRxBvcBlock ctxts rx
    else some (bssgpTxStatus ctxts .missingMandIe none)
  | .bvcUnblock =>
    if (rx.tp .bvci).isSome then bssgpRxBvcUnblock ctxts rx
    else some (bssgpTxStatus ctxts .missingMandIe none)
  | .bvcReset =>
    if (rx.tp .bvci).isSome ∧ (rx.tp .cause).isSome then bssgpRxBvcReset gsm48ParseRa ctxts rx
    else some (bssgpTxStatus ctxts .missingMandIe none)
  | .pagingPs | .pagingCs | .suspendAck | .suspendNack | .resumeAck | .resumeNack | .flushLl | .bvcBlockAck
  | .bvcUnblockAck | .sgsnInvokeTrace => (deref ctxts bctx).map fun _ => onlyInDl ctxts
  | _ => (deref ctxts bctx).map fun _ => bssgpTxStatus ctxts .protoErrUnspec none

/-- `gprs_bssgp_rcvmsg`. -/
def gprsBssgpRcvmsg (ctxts : BvcCtxts μ) (rx : BssgpRx) : Option (Handled μ) :=
  let bctx := (btsctxByBvciNsei ctxts rx.nsBvci rx.nsei).map Prod.fst
  -- only a RESET can make a context
  if bctx = none ∧ rx.pduType ≠ .bvcReset then some (bssgpTxStatus ctxts .unknownBvci none)
  else if rx.nsBvci = bvciSignalling then gprsBssgpRxSign gsm48ParseRa ctxts rx bctx
  else if rx.nsBvci = bvciPtm then some (bssgpTxStatus ctxts .pduIncompFeat none)
  else gprsBssgpRxPtp ctxts rx bctx

end Handlers

end OpenBsc.Bssgp
