import OpenBsc.Ns.Types

/-!
# `Ns.Protocol` — the handlers of the Network Service (`gprs_ns.c`)

Every handler works on one NS-VC: it returns the NS-VC afterwards and what comes out. The instance finds the NS-VC
an address belongs to, or makes one for a reset from an unknown address.
-/

namespace OpenBsc.Ns

variable {β : Type}

/-! ## Sending -/

/-- `gprs_ns_tx`: to the address of the NS-VC, over a link layer that is supported. -/
def gprsNsTx (id : Option Nat) (nsvc : GprsNsvc) (pdu : NsTx β) : List (NsOut β) :=
  match nsvc.ll with
  | .udp | .frGre => [.tx id nsvc.btsAddr pdu]
  | .e1 => []

/-- `gprs_ns_tx_reset`. -/
def gprsNsTxReset (id : Option Nat) (nsvc : GprsNsvc) (cause : NsCause) : List (NsOut β) :=
  gprsNsTx id nsvc (.reset cause nsvc.nsvci nsvc.nsei)

/-- `gprs_ns_tx_status`; which elements it has depends on the cause. -/
def gprsNsTxStatus (id : Option Nat) (nsvc : GprsNsvc) (cause : NsCause) (bvci : BitVec 16)
    (origMsg : NsPdu β) : List (NsOut β) :=
  let vci := if cause = .nsvcBlocked ∨ cause = .nsvcUnknown then some nsvc.nsvci
    else if cause = .bvciUnknown then some bvci
    else none
  let original := if cause ∈ [0x08, 0x0a, 0x0b, 0x0c, 0x0d] then some origMsg else none
  gprsNsTx id nsvc (.status cause vci original)

/-- `gprs_ns_tx_block`: be conservative and mark it as blocked even now. -/
def gprsNsTxBlock (id : Option Nat) (nsvc : GprsNsvc) (cause : NsCause) : GprsNsvc × List (NsOut β) :=
  let nsvc := { nsvc with state := { nsvc.state with blocked := true } }
  (nsvc, gprsNsTx id nsvc (.block cause nsvc.nsvci))

/-! ## The timer -/

/-- `nsvc_start_timer`. -/
def nsvcStartTimer (nsvc : GprsNsvc) (mode : NsvcTimerMode) : GprsNsvc :=
  { nsvc with timer := true, timerMode := mode }

/-- `gprs_ns_timer_cb`; a timer that fires is not pending any more. -/
def gprsNsTimerCb (retries id : Nat) (nsvc : GprsNsvc) : GprsNsvc × List (NsOut β) :=
  let nsvc := { nsvc with timer := false }
  match nsvc.timerMode with
  | .tnsAlive =>
    let nsvc := { nsvc with aliveRetries := nsvc.aliveRetries + 1 }
    if retries < nsvc.aliveRetries then
      -- mark as dead and blocked
      ({ nsvc with state := { blocked := true } },
        [.signal id .aliveExp 0, .signal id .block .nsvcBlocked])
    else (nsvcStartTimer nsvc .tnsAlive, gprsNsTx id nsvc .alive)
  | .tnsTest => (nsvcStartTimer { nsvc with aliveRetries := 0 } .tnsAlive, gprsNsTx id nsvc .alive)
  | .tnsReset => (nsvcStartTimer nsvc .tnsReset, gprsNsTxReset id nsvc .omIntervention)

/-- `gprs_nsvc_reset`. -/
def gprsNsvcReset (id : Nat) (nsvc : GprsNsvc) (cause : NsCause) : GprsNsvc × List (NsOut β) :=
  -- mark the NS-VC locally as blocked and dead
  let nsvc := { nsvc with state := { blocked := true } }
  (nsvcStartTimer nsvc .tnsReset, gprsNsTxReset id nsvc cause)

/-! ## Receiving -/

/-- `gprs_ns_rx_unitdata`. -/
def gprsNsRxUnitdata (id : Nat) (nsvc : GprsNsvc) (bvci : BitVec 16) (sdu : β) : List (NsOut β) :=
  if nsvc.state.blocked then gprsNsTxStatus id nsvc .nsvcBlocked 0 (.unitdata bvci sdu)
  else [.unitdata id bvci sdu]

/-- `gprs_ns_rx_reset`. -/
def gprsNsRxReset (id : Nat) (nsvc : GprsNsvc) (ies : Option NsIes) : GprsNsvc × List (NsOut β) :=
  match ies with
  | none => (nsvc, [])
  | some ⟨some cause, some vci, some nsei⟩ =>
    -- mark the NS-VC as blocked and alive
    let nsvc := { nsvc with
      state := { blocked := true, alive := true }
      nsei := nsei
      nsvci := vci }
    (nsvcStartTimer nsvc .tnsTest,
      gprsNsTx id nsvc .alive ++ [.signal id .reset cause] ++ gprsNsTx id nsvc (.resetAck vci nsei))
  | some _ => (nsvc, gprsNsTxStatus id nsvc .missingEssentIe 0 (.reset ies))

/-- `gprs_ns_rx_block`. -/
def gprsNsRxBlock (id : Nat) (nsvc : GprsNsvc) (ies : Option NsIes) : GprsNsvc × List (NsOut β) :=
  let nsvc := { nsvc with state := { nsvc.state with blocked := true } }
  match ies with
  | none => (nsvc, [])
  | some ⟨some cause, some _, _⟩ => (nsvc, [.signal id .block cause] ++ gprsNsTx id nsvc .blockAck)
  | some _ => (nsvc, gprsNsTxStatus id nsvc .missingEssentIe 0 (.block ies))

/-- The `switch` of `gprs_ns_rcvmsg`. -/
def nsRx (id : Nat) (nsvc : GprsNsvc) (pdu : NsPdu β) : GprsNsvc × List (NsOut β) :=
  match pdu with
  | .alive =>
    -- dead and blocked, and the other end is there: send a reset to make sure everything recovers
    if nsvc.state = { blocked := true, alive := false } then (nsvc, gprsNsTxReset id nsvc .pduIncompPstate)
    else (nsvc, gprsNsTx id nsvc .aliveAck)
  | .aliveAck =>
    (nsvcStartTimer nsvc .tnsTest,
      if nsvc.remoteEndIsSgsn && nsvc.state.blocked then gprsNsTx id nsvc .unblock else [])
  | .unitdata bvci sdu => (nsvc, gprsNsRxUnitdata id nsvc bvci sdu)
  | .status _ => (nsvc, [])
  | .reset ies => gprsNsRxReset id nsvc ies
  | .resetAck =>
    -- mark the NS-VC as blocked and active
    let nsvc := { nsvc with
      state := { blocked := true, alive := true }
      remoteState := { blocked := true, alive := true } }
    (nsvcStartTimer nsvc .tnsTest, gprsNsTx id nsvc .alive)
  | .unblock =>
    let nsvc := { nsvc with state := { nsvc.state with blocked := false } }
    (nsvc, [.signal id .unblock 0] ++ gprsNsTx id nsvc .unblockAck)
  | .unblockAck =>
    -- mark the NS-VC as unblocked and active
    ({ nsvc with state := { alive := true }, remoteState := { alive := true } }, [.signal id .unblock 0])
  | .block ies => gprsNsRxBlock id nsvc ies
  | .blockAck => ({ nsvc with remoteState := { blocked := true, alive := true } }, [])
  | .unknown _ => (nsvc, [])

/-! ## The instance -/

namespace GprsNsInst

/-- Things come out. -/
def put (nsi : GprsNsInst β) (outs : List (NsOut β)) : GprsNsInst β := { nsi with outbox := nsi.outbox ++ outs }

/-- A handler works on the NS-VC `i`. -/
def handle (nsi : GprsNsInst β) (i : Nat) (f : GprsNsvc → GprsNsvc × List (NsOut β)) : GprsNsInst β :=
  match nsi.nsvcs.get? i with
  | none => nsi
  | some nsvc => { nsi with nsvcs := nsi.nsvcs.modify i fun _ => (f nsvc).1 }.put (f nsvc).2

/-- `nsvc_by_nsvci`. -/
def nsvcByNsvci (nsi : GprsNsInst β) (nsvci : BitVec 16) : Option (Nat × GprsNsvc) :=
  nsi.nsvcs.findLast? fun nsvc => nsvc.nsvci == nsvci

/-- `nsvc_by_nsei`. -/
def nsvcByNsei (nsi : GprsNsInst β) (nsei : BitVec 16) : Option (Nat × GprsNsvc) :=
  nsi.nsvcs.findLast? fun nsvc => nsvc.nsei == nsei

/-- `nsvc_by_rem_addr`. -/
def nsvcByRemAddr (nsi : GprsNsInst β) (sin : SockaddrIn) : Option (Nat × GprsNsvc) :=
  nsi.nsvcs.findLast? fun nsvc => nsvc.btsAddr == sin

/-- `nsvc_create`: before the reset procedure it is blocked and dead. -/
def nsvcCreate (nsi : GprsNsInst β) (nsvc : GprsNsvc) : GprsNsInst β :=
  { nsi with nsvcs := nsi.nsvcs.alloc nsvc }

/-- The NS-VC that `nsvc_create` makes. -/
def newNsvc (nsvci : BitVec 16) : GprsNsvc := { nsvci := nsvci, state := { blocked := true } }

/-- `gprs_ns_rcvmsg` on a PDU from an unknown address that is no reset: the dummy NS-VC answers. -/
def rejectUnknown (nsi : GprsNsInst β) (ll : GprsNsLl) (saddr : SockaddrIn) (pdu : NsPdu β) : GprsNsInst β :=
  let nsvc := { nsi.unknownNsvc with
    nsvci := 0xfffe
    nsei := 0xfffe
    btsAddr := saddr
    state := { alive := true }
    ll := ll }
  { nsi with unknownNsvc := nsvc }.put (gprsNsTxStatus none nsvc .pduIncompPstate 0 pdu)

/-- The NS-VC a reset from an unknown address is for: one with that NSEI, or a new one. It moves to the address. -/
def nsvcForReset (nsi : GprsNsInst β) (ll : GprsNsLl) (saddr : SockaddrIn) (nsei : BitVec 16) :
    GprsNsInst β × Nat :=
  match nsi.nsvcByNsei nsei with
  | some (i, _) => ({ nsi with nsvcs := nsi.nsvcs.modify i fun nsvc => { nsvc with btsAddr := saddr } }, i)
  | none => (nsi.nsvcCreate { newNsvc 0xffff with ll := ll, btsAddr := saddr }, nsi.nsvcs.next)

/-- `gprs_ns_rcvmsg`. A reset from an unknown address that lacks an element is answered by way of a null pointer. -/
def gprsNsRcvmsg (nsi : GprsNsInst β) (ll : GprsNsLl) (saddr : SockaddrIn) (pdu : NsPdu β) :
    Option (GprsNsInst β) :=
  match nsi.nsvcByRemAddr saddr with
  | some (i, _) => some (nsi.handle i fun nsvc => nsRx i nsvc pdu)
  | none =>
    match pdu with
    | .status _ => some nsi
    | .reset none => some nsi
    | .reset (some ⟨some _, some _, some nsei⟩) =>
      let (nsi, i) := nsi.nsvcForReset ll saddr nsei
      some (nsi.handle i fun nsvc => nsRx i nsvc pdu)
    | .reset (some _) => none
    | _ => some (nsi.rejectUnknown ll saddr pdu)

/-- `nsip_connect`. -/
def nsipConnect (nsi : GprsNsInst β) (dest : SockaddrIn) (nsei nsvci : BitVec 16) : GprsNsInst β :=
  let (nsi, i) := match nsi.nsvcByRemAddr dest with
    | some (i, _) => (nsi, i)
    | none => (nsi.nsvcCreate (newNsvc nsvci), nsi.nsvcs.next)
  nsi.handle i fun nsvc =>
    gprsNsvcReset i { nsvc with
      btsAddr := dest
      nsei := nsei
      nsvci := nsvci
      remoteEndIsSgsn := true } .omIntervention

/-- `gprs_ns_sendmsg`: data is sent on an NS-VC that is alive and not blocked. -/
def gprsNsSendmsg (nsi : GprsNsInst β) (nsei bvci : BitVec 16) (sdu : β) : GprsNsInst β :=
  match nsi.nsvcByNsei nsei with
  | none => nsi
  | some (i, nsvc) =>
    if !nsvc.state.alive then nsi
    else if nsvc.state.blocked then nsi
    else nsi.put (gprsNsTx (some i) nsvc (.unitdata bvci sdu))

/-- The commands of the operator work on the NS-VC with an NSEI, if there is one. -/
def configure (nsi : GprsNsInst β) (nsei : BitVec 16) (f : GprsNsvc → GprsNsvc) : GprsNsInst β :=
  match nsi.nsvcByNsei nsei with
  | none => nsi
  | some (i, _) => { nsi with nsvcs := nsi.nsvcs.modify i f }

/-- `cfg_nse_nsvc`: creates the NS-VC if there is none. -/
def cfgNseNsvc (nsi : GprsNsInst β) (nsei nsvci : BitVec 16) : GprsNsInst β :=
  match nsi.nsvcByNsei nsei with
  | none => nsi.nsvcCreate { newNsvc nsvci with nsei := nsei, persistent := true }
  | some (i, _) =>
    { nsi with nsvcs := nsi.nsvcs.modify i fun nsvc => { nsvc with nsvci := nsvci, persistent := true } }

/-- `cfg_nse_remoteip`. -/
def cfgNseRemoteip (nsi : GprsNsInst β) (nsei : BitVec 16) (addr : BitVec 32) : GprsNsInst β :=
  nsi.configure nsei fun nsvc => { nsvc with btsAddr := { nsvc.btsAddr with sinAddr := addr } }

/-- `cfg_nse_remoteport` and `cfg_nse_fr_dlci`, which differ in the link layer they ask for. -/
def cfgNsePort (nsi : GprsNsInst β) (ll : GprsNsLl) (nsei port : BitVec 16) : GprsNsInst β :=
  nsi.configure nsei fun nsvc =>
    if nsvc.ll ≠ ll then nsvc else { nsvc with btsAddr := { nsvc.btsAddr with sinPort := port } }

/-- `cfg_nse_remoteport`. -/
def cfgNseRemoteport (nsi : GprsNsInst β) (nsei port : BitVec 16) : GprsNsInst β := nsi.cfgNsePort .udp nsei port

/-- `cfg_nse_fr_dlci`. -/
def cfgNseFrDlci (nsi : GprsNsInst β) (nsei dlci : BitVec 16) : GprsNsInst β := nsi.cfgNsePort .frGre nsei dlci

/-- `cfg_nse_encaps`. -/
def cfgNseEncaps (nsi : GprsNsInst β) (nsei : BitVec 16) (udp : Bool) : GprsNsInst β :=
  nsi.configure nsei fun nsvc => { nsvc with ll := if udp then .udp else .frGre }

/-- `cfg_nse_remoterole`. -/
def cfgNseRemoterole (nsi : GprsNsInst β) (nsei : BitVec 16) (sgsn : Bool) : GprsNsInst β :=
  nsi.configure nsei fun nsvc => { nsvc with remoteEndIsSgsn := sgsn }

/-- `cfg_no_nse`: it is not deleted, it only is not persistent any more. -/
def cfgNoNse (nsi : GprsNsInst β) (nsei : BitVec 16) : GprsNsInst β :=
  nsi.configure nsei fun nsvc => { nsvc with persistent := false }

/-- `gprs_ns_instantiate`: the dummy NS-VC is taken off the list. -/
def instantiate : GprsNsInst β := { unknownNsvc := newNsvc 0xfffe }

end GprsNsInst

end OpenBsc.Ns
