import OpenBsc.OsmoBscNat.Types

/-!
# `OsmoBscNat.Mgcp` — endpoints at the BSCs and at the call agent (`bsc_mgcp_utils.c`)

The MSC names a circuit in its ASSIGNMENT REQUEST; the NAT takes a free endpoint of the BSC for it, writes
that endpoint's circuit into the message, and remembers both endpoints in the SCCP connection. MGCP commands
of the call agent name the MSC's endpoint and go on to the BSC under its own.

The texts of MGCP messages are left out: whether `bsc_mgcp_rewrite` yields a message is a parameter.
-/

namespace OpenBsc.OsmoBscNat

/-! ## Endpoint numbers -/

/-- `bsc_mgcp_nr_multiplexes`. -/
def bscMgcpNrMultiplexes (maxEndpoints : Nat) : Nat :=
  if maxEndpoints % 32 ≠ 0 then maxEndpoints / 32 + 1 else maxEndpoints / 32

/-- `mgcp_timeslot_to_endpoint`. -/
def mgcpTimeslotToEndpoint (multiplex timeslot : Nat) : Nat :=
  (if timeslot = 0 then 255 else timeslot) + 32 * multiplex

/-- `create_cic`. -/
def createCic (endpoint : Nat) : Nat := (endpoint / 32) <<< 5 ||| endpoint % 32 &&& 0x1f

/-! ## Release -/

namespace BscNat

/-- `nat->bsc_endpoints[i]` is changed by `f`. -/
def modifyEndpoint (nat : BscNat) (i : Nat) (f : BscEndpoint → BscEndpoint) : BscNat :=
  { nat with bscEndpoints := nat.bscEndpoints.modify i f }

/-- `bsc_mgcp_free_endpoint`. -/
def bscMgcpFreeEndpoint (nat : BscNat) (i : Nat) : BscNat := nat.modifyEndpoint i fun _ => {}

/-- The endpoint `e` of the BSC connection `b` is marked as not in use. -/
def releaseEndpoint (nat : BscNat) (b e : Nat) : BscNat :=
  nat.modifyBsc b fun bsc => { bsc with endpointStatus := bsc.endpointStatus.map (·.set e false) }

/-- `bsc_mgcp_init`. -/
def bscMgcpInit (nat : BscNat) (i : Nat) : BscNat :=
  nat.modifyCon i fun con => { con with mscEndp := none, bscEndp := none }

/-- The first part of `bsc_mgcp_dlcx`: a DLCX is sent down the stream if there is an endpoint to free. -/
def freeEndpointOf (nat : BscNat) (con : SccpConnections) : BscNat :=
  match con.bscEndp, nat.bscConnections.get? con.bsc with
  | some e, some bsc =>
    if bsc.endpointStatus.isSome then
      ((nat.releaseEndpoint con.bsc e).send (.dlcx con.bsc (some e))).bscMgcpFreeEndpoint (con.mscEndp.getD 0)
    else nat
  | _, _ => nat

/-- `bsc_mgcp_dlcx`. -/
def bscMgcpDlcx (nat : BscNat) (i : Nat) : BscNat :=
  match nat.sccpConnections.get? i with
  | none => nat
  | some con => (nat.freeEndpointOf con).bscMgcpInit i

/-- `bsc_mgcp_free_endpoints`. -/
def bscMgcpFreeEndpoints (nat : BscNat) : BscNat :=
  (List.range' 1 (nat.cfg.numberEndpoints - 1)).foldl bscMgcpFreeEndpoint nat

/-- `bsc_mgcp_clear_endpoints_for`. -/
def bscMgcpClearEndpointsFor (nat : BscNat) (b : Nat) : BscNat :=
  (List.range' 1 (nat.cfg.numberEndpoints - 1)).foldl
    (fun nat i => if (nat.bscEndpoints.getD i {}).bsc = some b then nat.bscMgcpFreeEndpoint i else nat) nat

end BscNat

/-! ## Allocation -/

/-- `bsc_init_endps_if_needed`; fails without a configuration. -/
def bscInitEndpsIfNeeded (bsc : BscConnection) : Option BscConnection :=
  match bsc.endpointStatus, bsc.cfg with
  | some _, _ => some bsc
  | none, none => none
  | none, some cfg =>
    let multiplexes := bscMgcpNrMultiplexes cfg.maxEndpoints
    some { bsc with
      numberMultiplexes := multiplexes
      maxEndpoints := cfg.maxEndpoints
      endpointStatus := some (List.replicate (32 * multiplexes + 1) false) }

/-- The multiplex and timeslot that the loop of `bsc_assign_endpoint` looks at next. -/
def nextSlot (bsc : BscConnection) (slot : Nat × Nat) : Nat × Nat :=
  -- wrap around timeslots
  let timeslot := if slot.2 = 0 then 1 else slot.2
  let (multiplex, timeslot) := if timeslot = 0x1f then (slot.1 + 1, 1) else (slot.1, timeslot)
  -- wrap around the multiplex
  let multiplex := if bsc.numberMultiplexes ≤ multiplex then 0 else multiplex
  if bsc.maxEndpoints ≤ mgcpTimeslotToEndpoint multiplex timeslot then (0, 1) else (multiplex, timeslot)

/-- The loop of `bsc_assign_endpoint`, so many times: the first endpoint on its way that is not in use. -/
def findEndpoint (bsc : BscConnection) : (times : Nat) → (slot : Nat × Nat) → Option Nat
  | 0, _ => none
  | times + 1, slot =>
    let slot := nextSlot bsc slot
    let endpoint := mgcpTimeslotToEndpoint slot.1 slot.2
    if bsc.endpointStatus.any (·[endpoint]? = some false) then some endpoint
    else findEndpoint bsc times (slot.1, slot.2 + 1)

/-- `bsc_assign_endpoint`: the endpoint taken and the BSC connection afterwards. -/
def bscAssignEndpoint (bsc : BscConnection) : Option (Nat × BscConnection) :=
  match findEndpoint bsc bsc.maxEndpoints (bsc.lastEndpoint / 32, bsc.lastEndpoint % 32 + 1) with
  | none => none
  | some endpoint =>
    some (endpoint, { bsc with
      endpointStatus := bsc.endpointStatus.map (·.set endpoint true)
      lastEndpoint := endpoint })

namespace BscNat

/-- Stale connections using the endpoint of the MSC side lose it. -/
def clearStale (nat : BscNat) (endp : Nat) : BscNat :=
  nat.sccpConnections.ids.foldl (fun nat j =>
    if (nat.sccpConnections.get? j).bind (·.mscEndp) = some endp then nat.bscMgcpDlcx j else nat) nat

/-- The end of `bsc_mgcp_assign_patch`: the connection `i` takes the endpoint `endp` of the MSC side and some
    endpoint of its BSC, which is returned. -/
def assignEndpoints (nat : BscNat) (i endp : Nat) : BscNat × Option Nat :=
  let nat := (nat.clearStale endp).modifyCon i fun con => { con with mscEndp := some endp }
  match nat.sccpConnections.get? i with
  | none => (nat, none)
  | some con =>
    match (nat.bscConnections.get? con.bsc).bind bscInitEndpsIfNeeded with
    | none => (nat, none)
    | some bsc =>
      let nat := nat.modifyBsc con.bsc fun _ => bsc
      match bscAssignEndpoint bsc with
      | none => (nat, none)
      | some (endpoint, bsc) =>
        ((nat.modifyBsc con.bsc fun _ => bsc).modifyCon i fun con =>
          { con with bscEndp := some endpoint }, some endpoint)

end BscNat

/-- The circuit identity code of an ASSIGNMENT REQUEST: where it stands in the message, and its value. -/
def circuitIdentityCode (lib : Osmocore) (l3 : List Octet) : Option (Nat × Nat) :=
  (lib.tlvParse (l3.drop 3) 0x01).map fun (offset, _) =>
    (3 + offset, octetAt l3 (3 + offset) * 256 + octetAt l3 (3 + offset + 1))

/-- The endpoint of the MSC side that a circuit identity code stands for; the multiplex is kept in an octet. -/
def cicEndpoint (cic : Nat) : Nat := mgcpTimeslotToEndpoint (cic / 32 % 256) (cic &&& 0x1f)

/-- The endpoint the MSC asks for, and where its code stands, if the NAT knows that endpoint. -/
def assignmentEndpoint (lib : Osmocore) (numberEndpoints : Nat) (l3 : List Octet) : Option (Nat × Nat) :=
  match circuitIdentityCode lib l3 with
  | none => none
  | some (offset, cic) =>
    if numberEndpoints ≤ cicEndpoint cic then none else some (offset, cicEndpoint cic)

/-- Two octets in network order at an offset of the data. -/
def patchCic (l3 : List Octet) (offset cic : Nat) : List Octet :=
  (l3.set offset (UInt8.ofNat (cic / 256))).set (offset + 1) (UInt8.ofNat cic)

/-- `bsc_mgcp_assign_patch`; the data of the message is returned patched, or as it was. -/
def bscMgcpAssignPatch (lib : Osmocore) (nat : BscNat) (i : Nat) (l3 : List Octet) : BscNat × List Octet :=
  match assignmentEndpoint lib nat.cfg.numberEndpoints l3 with
  | none => (nat, l3)
  | some (offset, endp) =>
    match nat.assignEndpoints i endp with
    | (nat, none) => (nat, l3)
    | (nat, some endpoint) => (nat, patchCic l3 offset (createCic endpoint))

/-! ## MGCP -/

/-- `MGCP_POLICY_*`. -/
inductive MgcpPolicy where
  | cont | reject | defer

namespace BscNat

/-- `bsc_mgcp_find_con`: the last one of the list. -/
def bscMgcpFindCon (nat : BscNat) (endpoint : Nat) : Option (Nat × SccpConnections) :=
  nat.sccpConnections.findLast? fun con => con.mscEndp == some endpoint

/-- `bsc_mgcp_policy_cb`. -/
def bscMgcpPolicyCb (nat : BscNat) (endpoint : Nat) (state : MgcpEndpState) (transactionId : List Octet)
    (rewritten : Bool) : BscNat × MgcpPolicy :=
  -- a pending transaction is given up
  let nat := nat.modifyEndpoint endpoint fun bscEndp =>
    if bscEndp.transactionId.isSome then {} else { bscEndp with bsc := none }
  match nat.bscMgcpFindCon endpoint with
  | none => (nat, if state = .crcx then .reject else .cont)
  | some (i, sccp) =>
    if !rewritten then (nat, .cont)
    else
      let nat := nat.modifyEndpoint endpoint fun _ => ⟨some state, some transactionId, some sccp.bsc⟩
      match state with
      | .dlcx => (nat.bscMgcpDlcx i, .cont)
      | _ => (nat.send (.mgcpCommand sccp.bsc state sccp.bscEndp), .defer)

/-- `free_chan_downstream`. -/
def freeChanDownstream (nat : BscNat) (i : Nat) (b : Nat) : BscNat :=
  let nat := if (nat.bscEndpoints.getD i {}).transactionState = some .crcx then
      match nat.bscMgcpFindCon i with
      | none => nat
      | some (_, con) => if con.bsc = b then nat.send (.dlcx b con.bscEndp) else nat
    else nat
  nat.bscMgcpFreeEndpoint i

/-- `bsc_mgcp_forward`: a response of the BSC to the transaction pending at an endpoint. -/
def bscMgcpForward (nat : BscNat) (b : Nat) (response : MgcpResponse) : BscNat :=
  match response.transaction with
  | none => nat
  | some transaction =>
    let listening i := (nat.bscEndpoints.getD i {}).bsc = some b ∧
      (nat.bscEndpoints.getD i {}).transactionId = some transaction
    match (List.range' 1 (nat.cfg.numberEndpoints - 1)).find? fun i => decide (listening i) with
    | none => nat
    | some i =>
      if response.ci.isNone then nat.freeChanDownstream i b
      else
        (nat.modifyEndpoint i fun bscEndp =>
          { bscEndp with transactionId := none, transactionState := none }).send
            (.mgcpResponse response)

end BscNat

end OpenBsc.OsmoBscNat
