import OpenBsc.Ns.Runs

/-!
# `GbProxy.Proxy` — the proxy between one SGSN and many BSSs (`gb_proxy.c`)

The proxy has one NS instance. What an NS-VC hands up is relayed to the SGSN's NSEI, or to a peer: the NS-VC that a
point-to-point BVC is reached over. Peers are learned from BVC resets and looked up by BVCI, by NS-VC or by routeing
area; they are never freed. A search walks the list from the peer that was added last.

A handler returns the peers afterwards and what it asks of the NS layer (`NsReq`), in order. `bssgp_tlv_parse` hands
over the elements of a PDU as `BssgpIes`, and the rest of it is the parameter `μ`. Log texts are left out.
-/

namespace OpenBsc.GbProxy

open Ns

variable {μ : Type}

/-! ## PDUs -/

/-- `BSSGP_PDUT_*`, the types that are told apart. -/
inductive BssgpPduType where
  | dlUnitdata | ulUnitdata | pagingPs | pagingCs
  | suspend | suspendAck | suspendNack | resume | resumeAck | resumeNack
  | bvcBlock | bvcBlockAck | bvcReset | bvcResetAck | bvcUnblock | bvcUnblockAck
  | flushLl | sgsnInvokeTrace | status
  | other (pduType : Octet)
  deriving DecidableEq

/-- `BSSGP_CAUSE_*`. -/
inductive BssgpCause where
  | unknownBvci | bvciBlocked | protoErrUnspec | missingMandIe | pduIncompFeat
  | other (cause : Octet)
  deriving DecidableEq

/-- A routeing area in the raw encoding: five octets of the location area and the routeing area code. -/
structure RawRa where
  la : BitVec 40 := 0
  rac : BitVec 8 := 0
  deriving DecidableEq

/-- The elements that are looked at; of the cell identity, the routeing area it starts with. -/
structure BssgpIes where
  cause : Option BssgpCause := none
  bvci : Option (BitVec 16) := none
  cellId : Option RawRa := none
  routeingArea : Option RawRa := none
  locationArea : Option (BitVec 40) := none
  deriving DecidableEq

/-- What is carried in a unitdata: a PDU of a BSS or of the SGSN, or one that the proxy makes itself
    (`bssgp_tx_simple_bvci`, `bssgp_tx_status`). -/
inductive GbMsg (μ : Type) where
  | pdu (pduType : BssgpPduType) (ies : BssgpIes) (rest : μ)
  | simple (pduType : BssgpPduType) (bvci : BitVec 16)
  | status (cause : BssgpCause) (bvci : Option (BitVec 16)) (pduInError : GbMsg μ)
  deriving DecidableEq

namespace GbMsg

def pduType : GbMsg μ → BssgpPduType
  | pdu t _ _ => t
  | simple t _ => t
  | status .. => .status

def ies : GbMsg μ → BssgpIes
  | pdu _ ies _ => ies
  | simple _ bvci => { bvci := some bvci }
  | status cause bvci _ => { cause := some cause, bvci := bvci }

end GbMsg

/-! ## State -/

/-- `struct gbprox_peer`. -/
structure GbproxPeer where
  nsvc : Nat
  bvci : BitVec 16
  blocked : Bool := false
  ra : RawRa := {}

/-- What the proxy asks of the NS layer. -/
inductive NsReq (μ : Type) where
  | sendmsg (nsei bvci : BitVec 16) (msg : GbMsg μ)
  | txReset (nsvc : Nat) (cause : NsCause)
  | txBlock (nsvc : Nat) (cause : NsCause)
  | txUnblock (nsvc : Nat)
  | remoteEndIsSgsn (nsvc : Nat)
  | connect (dest : SockaddrIn) (nsei nsvci : BitVec 16)
  deriving DecidableEq

/-- The proxy: its NS instance, the list of peers and the NSEI of the SGSN. -/
structure Gbprox (μ : Type) where
  nsi : GprsNsInst (GbMsg μ) := GprsNsInst.instantiate
  peers : Pool GbproxPeer := .empty
  nsipSgsnNsei : BitVec 16

/-- `peer_by_bvci`. -/
def peerByBvci (peers : Pool GbproxPeer) (bvci : BitVec 16) : Option (Nat × GbproxPeer) :=
  peers.findLast? fun peer => peer.bvci == bvci

/-- `peer_by_nsvc`. -/
def peerByNsvc (peers : Pool GbproxPeer) (nsvc : Nat) : Option (Nat × GbproxPeer) :=
  peers.findLast? fun peer => peer.nsvc == nsvc

/-- `peer_by_rac`. -/
def peerByRac (peers : Pool GbproxPeer) (ra : RawRa) : Option (Nat × GbproxPeer) :=
  peers.findLast? fun peer => peer.ra == ra

/-- `peer_by_lac`. -/
def peerByLac (peers : Pool GbproxPeer) (la : BitVec 40) : Option (Nat × GbproxPeer) :=
  peers.findLast? fun peer => peer.ra.la == la

/-! ## Relaying -/

/-- The NSEI that an NS-VC has now. -/
def nseiOf (nsvcs : Pool GprsNsvc) (nsvc : Nat) : Option (BitVec 16) := (nsvcs.get? nsvc).map GprsNsvc.nsei

/-- `gbprox_relay2peer`. -/
def gbproxRelay2peer (nsvcs : Pool GprsNsvc) (msg : GbMsg μ) (peer : GbproxPeer) (nsBvci : BitVec 16) :
    List (NsReq μ) :=
  match nseiOf nsvcs peer.nsvc with
  | none => []
  | some nsei => [.sendmsg nsei nsBvci msg]

/-- `gbprox_relay2bvci`. -/
def gbproxRelay2bvci (nsvcs : Pool GprsNsvc) (peers : Pool GbproxPeer) (msg : GbMsg μ) (ptpBvci nsBvci : BitVec 16) :
    List (NsReq μ) :=
  match peerByBvci peers ptpBvci with
  | none => []
  | some (_, peer) => gbproxRelay2peer nsvcs msg peer nsBvci

/-- `bssgp_tx_status`: to where the PDU came from. -/
def bssgpTxStatus (nsvc : GprsNsvc) (cause : BssgpCause) (origMsg : GbMsg μ) : List (NsReq μ) :=
  [.sendmsg nsvc.nsei 0 (.status cause none origMsg)]

/-! ## From a BSS -/

/-- `BSSGP_PDUT_BVC_RESET` of `gbprox_rx_sig_from_bss` for a BVCI that is not 0: the peer is added if it is new, and
    learns its routeing area. -/
def learnPeer (peers : Pool GbproxPeer) (nsvc : Nat) (bvci : BitVec 16) (cellId : Option RawRa) : Pool GbproxPeer :=
  let (peers, i) := match peerByBvci peers bvci with
    | some (i, _) => (peers, i)
    -- if a PTP-BVC is reset, and we don't know that PTP-BVCI yet, we should allocate a new peer
    | none => (peers.alloc { nsvc := nsvc, bvci := bvci }, peers.next)
  match cellId with
  | none => peers
  | some ra => peers.modify i fun peer => { peer with ra := ra }

/-- `BSSGP_PDUT_SUSPEND` and `BSSGP_PDUT_RESUME` of `gbprox_rx_sig_from_bss`: RAC snooping. -/
def snoopRa (peers : Pool GbproxPeer) (sgsnNsei : BitVec 16) (i : Nat) (nsvc : GprsNsvc) (msg : GbMsg μ)
    (nsBvci : BitVec 16) : Pool GbproxPeer × List (NsReq μ) :=
  match msg.ies.routeingArea with
  | none => (peers, bssgpTxStatus nsvc .missingMandIe msg)
  | some ra =>
    match peerByNsvc peers i with
    | none => (peers, bssgpTxStatus nsvc .unknownBvci msg)
    | some (k, _) => (peers.modify k fun peer => { peer with ra := ra }, [.sendmsg sgsnNsei nsBvci msg])

/-- `gbprox_rx_sig_from_bss`. -/
def gbproxRxSigFromBss (peers : Pool GbproxPeer) (sgsnNsei : BitVec 16) (i : Nat) (nsvc : GprsNsvc)
    (msg : GbMsg μ) (nsBvci : BitVec 16) : Pool GbproxPeer × List (NsReq μ) :=
  match msg.pduType with
  | .ulUnitdata | .dlUnitdata => (peers, [])
  | .suspend | .resume => snoopRa peers sgsnNsei i nsvc msg nsBvci
  | .bvcReset =>
    match msg.ies.bvci with
    | none => (peers, [.sendmsg sgsnNsei nsBvci msg])
    | some bvci =>
      -- the signalling endpoint is common to all BTSs: a fake BVC RESET ACK
      if bvci = 0 then (peers, [.sendmsg nsvc.nsei nsBvci (.simple .bvcResetAck 0)])
      else (learnPeer peers i bvci msg.ies.cellId, [.sendmsg sgsnNsei nsBvci msg])
  | _ => (peers, [.sendmsg sgsnNsei nsBvci msg])

/-! ## From the SGSN -/

/-- `gbprox_rx_paging`; no peer is looked for when the BVCI is there. -/
def gbproxRxPaging (nsvcs : Pool GprsNsvc) (peers : Pool GbproxPeer) (msg : GbMsg μ) (nsBvci : BitVec 16) :
    List (NsReq μ) :=
  let peer := match msg.ies.bvci, msg.ies.routeingArea, msg.ies.locationArea with
    | some _, _, _ => none
    | none, some ra, _ => peerByRac peers ra
    | none, none, some la => peerByLac peers la
    | none, none, none => none
  match peer with
  | none => []
  | some (_, peer) => gbproxRelay2peer nsvcs msg peer nsBvci

/-- `rx_reset_from_sgsn`: of the signalling BVC it goes to every peer. -/
def rxResetFromSgsn (nsvcs : Pool GprsNsvc) (peers : Pool GbproxPeer) (nsvc : GprsNsvc) (msg : GbMsg μ)
    (nsBvci : BitVec 16) : List (NsReq μ) :=
  match msg.ies.bvci with
  | none => bssgpTxStatus nsvc .missingMandIe msg
  | some ptpBvci =>
    if 2 ≤ ptpBvci then
      match peerByBvci peers ptpBvci with
      | none => bssgpTxStatus nsvc .unknownBvci msg
      | some (_, peer) => gbproxRelay2peer nsvcs msg peer nsBvci
    else peers.entries.reverse.flatMap fun e => gbproxRelay2peer nsvcs msg e.2 nsBvci

/-- `block_unblock_peer`. -/
def blockUnblockPeer (peers : Pool GbproxPeer) (ptpBvci : BitVec 16) (blocked : Bool) : Pool GbproxPeer :=
  match peerByBvci peers ptpBvci with
  | none => peers
  | some (i, _) => peers.modify i fun peer => { peer with blocked := blocked }

/-- `BSSGP_PDUT_BVC_BLOCK_ACK` and `BSSGP_PDUT_BVC_UNBLOCK_ACK` of `gbprox_rx_sig_from_sgsn`. -/
def rxBlockAckFromSgsn (nsvcs : Pool GprsNsvc) (peers : Pool GbproxPeer) (nsvc : GprsNsvc) (msg : GbMsg μ)
    (nsBvci : BitVec 16) (blocked : Bool) : Pool GbproxPeer × List (NsReq μ) :=
  match msg.ies.bvci with
  | none => (peers, bssgpTxStatus nsvc .missingMandIe msg)
  | some bvci =>
    let peers := if bvci = 0 then peers else blockUnblockPeer peers bvci blocked
    (peers, gbproxRelay2bvci nsvcs peers msg bvci nsBvci)

/-- `BSSGP_PDUT_FLUSH_LL` and `BSSGP_PDUT_BVC_RESET_ACK` of `gbprox_rx_sig_from_sgsn`. -/
def rxForBvciFromSgsn (nsvcs : Pool GprsNsvc) (peers : Pool GbproxPeer) (nsvc : GprsNsvc) (msg : GbMsg μ)
    (nsBvci : BitVec 16) : List (NsReq μ) :=
  match msg.ies.bvci with
  | none => bssgpTxStatus nsvc .missingMandIe msg
  | some bvci => gbproxRelay2bvci nsvcs peers msg bvci nsBvci

/-- The answers to suspend and resume of `gbprox_rx_sig_from_sgsn`, which go by the routeing area. -/
def rxForRaFromSgsn (nsvcs : Pool GprsNsvc) (peers : Pool GbproxPeer) (nsvc : GprsNsvc) (msg : GbMsg μ)
    (nsBvci : BitVec 16) : List (NsReq μ) :=
  match msg.ies.routeingArea with
  | none => bssgpTxStatus nsvc .missingMandIe msg
  | some ra =>
    match peerByRac peers ra with
    | none => bssgpTxStatus nsvc .unknownBvci msg
    | some (_, peer) => gbproxRelay2peer nsvcs msg peer nsBvci

/-- `gbprox_rx_sig_from_sgsn`. -/
def gbproxRxSigFromSgsn (nsvcs : Pool GprsNsvc) (peers : Pool GbproxPeer) (nsvc : GprsNsvc) (msg : GbMsg μ)
    (nsBvci : BitVec 16) : Pool GbproxPeer × List (NsReq μ) :=
  match msg.pduType with
  | .ulUnitdata | .dlUnitdata => (peers, bssgpTxStatus nsvc .protoErrUnspec msg)
  | .bvcReset => (peers, rxResetFromSgsn nsvcs peers nsvc msg nsBvci)
  | .flushLl | .bvcResetAck => (peers, rxForBvciFromSgsn nsvcs peers nsvc msg nsBvci)
  | .pagingPs | .pagingCs => (peers, gbproxRxPaging nsvcs peers msg nsBvci)
  | .status => (peers, if msg.ies.cause = none then bssgpTxStatus nsvc .missingMandIe msg else [])
  | .suspendAck | .suspendNack | .resumeAck | .resumeNack => (peers, rxForRaFromSgsn nsvcs peers nsvc msg nsBvci)
  | .bvcBlockAck => rxBlockAckFromSgsn nsvcs peers nsvc msg nsBvci true
  | .bvcUnblockAck => rxBlockAckFromSgsn nsvcs peers nsvc msg nsBvci false
  | .sgsnInvokeTrace => (peers, bssgpTxStatus nsvc .pduIncompFeat msg)
  | _ => (peers, bssgpTxStatus nsvc .protoErrUnspec msg)

/-! ## Entry points -/

/-- `gbprox_rcvmsg` on a PDU of a point-to-point BVC that comes from the SGSN. -/
def rxPtpFromSgsn (nsvcs : Pool GprsNsvc) (peers : Pool GbproxPeer) (i : Nat) (nsvc : GprsNsvc) (msg : GbMsg μ)
    (nsBvci : BitVec 16) : Pool GbproxPeer × List (NsReq μ) :=
  match peerByBvci peers nsBvci with
  | none =>
    let peer := { nsvc := i, bvci := nsBvci }
    (peers.alloc peer, gbproxRelay2peer nsvcs msg peer nsBvci)
  | some (_, peer) =>
    (peers,
      if peer.blocked then bssgpTxStatus nsvc .bvciBlocked msg else gbproxRelay2peer nsvcs msg peer nsBvci)

/-- `gbprox_rcvmsg`, for an NS-VC that is there. -/
def gbproxRcvmsg (gb : Gbprox μ) (i : Nat) (nsvc : GprsNsvc) (msg : GbMsg μ) (nsBvci : BitVec 16) :
    Pool GbproxPeer × List (NsReq μ) :=
  if nsBvci = 0 ∨ nsBvci = 1 then
    if nsvc.remoteEndIsSgsn then gbproxRxSigFromSgsn gb.nsi.nsvcs gb.peers nsvc msg nsBvci
    else gbproxRxSigFromBss gb.peers gb.nsipSgsnNsei i nsvc msg nsBvci
  -- all other BVCI are PTP and thus can be simply forwarded
  else if !nsvc.remoteEndIsSgsn then (gb.peers, [.sendmsg gb.nsipSgsnNsei nsBvci msg])
  else rxPtpFromSgsn gb.nsi.nsvcs gb.peers i nsvc msg nsBvci

/-- `gbprox_signal` on the side of a BSS. -/
def signalFromBss (peers : Pool GbproxPeer) (i : Nat) (nsvc : GprsNsvc) (signal : NsSignal) : List (NsReq μ) :=
  match peerByNsvc peers i with
  | none => []
  | some (_, peer) =>
    match signal with
    | .reset | .block => if !peer.blocked then [] else [.sendmsg nsvc.nsei 0 (.simple .bvcBlock peer.bvci)]
    | _ => []

/-- `gbprox_signal` on the side of the SGSN: iterate over all BTS peers and send the respective PDU. -/
def signalFromSgsn (peers : Pool GbproxPeer) (signal : NsSignal) (cause : NsCause) : List (NsReq μ) :=
  peers.entries.reverse.flatMap fun e =>
    match signal with
    | .reset => [.txReset e.2.nsvc cause]
    | .block => [.txBlock e.2.nsvc cause]
    | .unblock => [.txUnblock e.2.nsvc]
    | .aliveExp => []

/-- `gbprox_signal`, for an NS-VC that is there. -/
def gbproxSignal (gb : Gbprox μ) (i : Nat) (nsvc : GprsNsvc) (signal : NsSignal) (cause : NsCause) :
    List (NsReq μ) :=
  -- an SGSN may start its own NS-RESET procedure without waiting for ours
  let resets := signal = .reset ∧ nsvc.nsei = gb.nsipSgsnNsei
  let sgsn := nsvc.remoteEndIsSgsn ∨ resets
  (if resets then [.remoteEndIsSgsn i] else []) ++
  (if signal = .aliveExp ∧ sgsn then [.connect nsvc.btsAddr nsvc.nsei nsvc.nsvci] else []) ++
  if ¬ sgsn then signalFromBss gb.peers i nsvc signal else signalFromSgsn gb.peers signal cause

/-- The NS layer does what it is asked. -/
def NsReq.perform (nsi : GprsNsInst (GbMsg μ)) (req : NsReq μ) : GprsNsInst (GbMsg μ) :=
  match req with
  | .sendmsg nsei bvci msg => nsi.gprsNsSendmsg nsei bvci msg
  | .txReset i cause => nsi.handle i fun nsvc => (nsvc, gprsNsTxReset i nsvc cause)
  | .txBlock i cause => nsi.handle i fun nsvc => gprsNsTxBlock i nsvc cause
  | .txUnblock i => nsi.handle i fun nsvc => (nsvc, gprsNsTx i nsvc .unblock)
  | .remoteEndIsSgsn i => nsi.handle i fun nsvc => ({ nsvc with remoteEndIsSgsn := true }, [])
  | .connect dest nsei nsvci => nsi.nsipConnect dest nsei nsvci

namespace Gbprox

/-- `proxy_ns_cb` and the signal handler: the proxy learns what the NS layer hands up. -/
def indicate (gb : Gbprox μ) (out : NsOut (GbMsg μ)) : Gbprox μ :=
  match out with
  | .tx .. => gb
  | .unitdata i bvci msg =>
    match gb.nsi.nsvcs.get? i with
    | none => gb
    | some nsvc =>
      let (peers, reqs) := gbproxRcvmsg gb i nsvc msg bvci
      { gb with peers := peers, nsi := reqs.foldl NsReq.perform gb.nsi }
  | .signal i signal cause =>
    match gb.nsi.nsvcs.get? i with
    | none => gb
    | some nsvc => { gb with nsi := (gbproxSignal gb i nsvc signal cause).foldl NsReq.perform gb.nsi }

end Gbprox

end OpenBsc.GbProxy
