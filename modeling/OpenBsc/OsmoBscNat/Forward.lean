import Mathlib.Data.List.Infix
import OpenBsc.Lib.SemiOctets
import OpenBsc.Lib.Transition
import OpenBsc.OsmoBscNat.Filter
import OpenBsc.OsmoBscNat.Sccp

/-!
# `OsmoBscNat.Forward` — the dispatcher between BSCs and MSC (`bsc_nat.c`)

`forwardSccpToMsc` takes what a BSC sends, `forwardSccpToBts` what the MSC sends. Besides there are the ends
of connections (a BSC is lost, the MSC is lost, a connection is never confirmed) and what the operator does.
-/

namespace OpenBsc.OsmoBscNat

open Transition

/-! ## Payloads -/

/-- `gsm48_create_loc_upd_rej` and `gsm48_create_mm_serv_rej`, cause PLMN not allowed, behind a DTAP header. -/
def rejectPayload (conType : NatConType) : Option (List Octet) :=
  match conType with
  | .lu => some [0x01, 0x00, 0x03, 0x05, 0x04, 0x0b]
  | .cmServReq => some [0x01, 0x00, 0x03, 0x05, 0x22, 0x0b]
  | _ => none

/-- `gsm0808_create_clear_command`. -/
def clearCommand (cause : Octet) : List Octet := [0x00, 0x04, 0x20, 0x04, 0x01, cause]

namespace BscNat

/-- The SCCP connection `i` becomes `con`. -/
def setCon (nat : BscNat) (i : Nat) (con : SccpConnections) : BscNat := nat.modifyCon i fun _ => con

/-- Messages are written in order. -/
def sendAll (nat : BscNat) (outs : List NatOut) : BscNat := outs.foldl send nat

/-! ## Ends of connections -/

/-- What `bsc_close_connection` tells the other end of a connection. -/
def tellPeer (nat : BscNat) (conn : SccpConnections) : BscNat :=
  let rlsd : SccpMsg := .rlsd conn.remoteRef conn.patchedRef none
  if !conn.hasRemoteRef then nat
  else
    match conn.conLocal with
    | .msc => nat.queueForMsc conn.mscCon rlsd
    | .ussd => if nat.ussdCon then nat.send (.toUssd rlsd) else nat
    | .localMachine => nat

/-- One round of the first loop of `bsc_close_connection`. -/
def closeSccp (nat : BscNat) (b : Nat) (i : Nat) : BscNat :=
  match nat.sccpConnections.get? i with
  | none => nat
  | some conn => if conn.bsc ≠ b then nat else (nat.tellPeer conn).sccpConnectionDestroy i

/-- `bsc_close_connection`. -/
def bscCloseConnection (nat : BscNat) (b : Nat) : BscNat :=
  let nat := nat.sccpConnections.ids.foldl (fun nat i => nat.closeSccp b i) nat
  let nat := nat.bscMgcpClearEndpointsFor b
  { nat with bscConnections := nat.bscConnections.remove b }

/-- `bsc_maybe_close`: in blocking mode, and when no connection of the BSC is left. -/
def bscMaybeClose (nat : BscNat) (b : Nat) : BscNat :=
  if !nat.blocked then nat
  else if (nat.sccpConnections.find? fun sccp => sccp.bsc == b).isSome then nat
  else nat.bscCloseConnection b

/-- The BSC connections, the last accepted one first. -/
def bscIds (nat : BscNat) : List Nat := nat.bscConnections.ids.reverse

/-- The connection `i` was never confirmed, and is 19 minutes old. -/
def overdue (nat : BscNat) (now : Nat) (i : Nat) : Bool :=
  match nat.sccpConnections.get? i with
  | none => false
  | some conn => !conn.hasRemoteRef && 19 ≤ (now - conn.creationTime) / 60

/-- `sccp_close_unconfirmed`. -/
def sccpCloseUnconfirmed (nat : BscNat) (now : Nat) : BscNat :=
  let overdue := nat.sccpConnections.ids.filter fun i => nat.overdue now i
  let nat := overdue.foldl sccpConnectionDestroy nat
  if overdue.isEmpty then nat else nat.bscIds.foldl bscMaybeClose nat

/-- `msc_connection_was_lost`. -/
def mscConnectionWasLost (nat : BscNat) : BscNat :=
  (nat.bscIds.foldl bscCloseConnection { nat with mscConnected := false }).bscMgcpFreeEndpoints

/-- `bsc_close_ussd_connections`: only messages, the connections stay. -/
def bscCloseUssdConnections (nat : BscNat) : BscNat :=
  nat.sendAll (nat.sccpConnections.entries.flatMap fun (_, con) =>
    if con.conLocal = .ussd then
      [.toBsc con.bsc (.dt1 con.realRef (clearCommand 0x20)), .toBsc con.bsc (.rlsd con.realRef con.remoteRef none)]
    else [])

/-! ## From a BSC -/

/-- `bsc_send_con_release`: the network is released at once, the BSC's side ends with its RLC. -/
def bscSendConRelease (nat : BscNat) (b i : Nat) (con : SccpConnections) : BscNat :=
  let nat := nat.queueForMsc con.mscCon (.rlsd con.remoteRef con.patchedRef none)
  let nat := nat.sendAll
    ((if con.conType = .lu then
        (rejectPayload .lu).toList.map fun payload => NatOut.toBsc b (.dt1 con.realRef payload)
      else []) ++
      [.toBsc b (.dt1 con.realRef (clearCommand 0x20)), .toBsc b (.rlsd con.realRef con.remoteRef none)])
  nat.setCon i { con with conLocal := .localMachine, mscCon := false, conType := .localReject }

/-- The fields `bsc_send_con_refuse` sets: declare it local and assign a unique remote_ref. -/
def declareLocal (con : SccpConnections) : SccpConnections :=
  { con with
    conType := .localReject
    conLocal := .localMachine
    hasRemoteRef := true
    remoteRef := con.patchedRef }

/-- What is sent to the BSC on a connection that is refused after a confirmation. -/
def refusal (b : Nat) (con : SccpConnections) (payload : List Octet) : List NatOut :=
  [.toBsc b (.cc con.realRef con.remoteRef none), .toBsc b (.dt1 con.realRef payload),
    .toBsc b (.dt1 con.realRef (clearCommand 0x20)), .toBsc b (.rlsd con.realRef con.remoteRef none)]

/-- `bsc_send_con_refuse`. Some BSCs do not handle the payload inside a CREF, so a connection of the NAT's own
    carries it. -/
def bscSendConRefuse (nat : BscNat) (b : Nat) (src : SccpSourceReference) (conType : NatConType) (now : Nat) :
    BscNat :=
  match rejectPayload conType with
  | none => nat.send (.toBsc b (.cref src none))
  | some payload =>
    match nat.createSccpSrcRef b src now with
    | (nat, none) => nat.send (.toBsc b (.cref src none))
    | (nat, some i) =>
      let nat := nat.modifyCon i declareLocal
      match nat.sccpConnections.get? i with
      | none => nat
      | some con => nat.sendAll (refusal b con payload)

/-- The fields a connection request sets. -/
def acceptCr (verdict : CrVerdict) (con : SccpConnections) : SccpConnections :=
  { con with
    mscCon := true
    conType := verdict.conType
    imsiChecked := verdict.filter != 0
    imsi := verdict.imsi.or con.imsi }

/-- The verdict on a connection request of the BSC connection `bsc`. -/
def crVerdict (lib : Osmocore) (nat : BscNat) (bsc : BscConnection) (msg : SccpMsg) : CrVerdict :=
  bscNatFilterSccpCr lib nat.cfg.accLst (bsc.cfg.bind (·.accLst)) msg

/-- `forward_sccp_to_msc` on a connection request. -/
def forwardCr (lib : Osmocore) (nat : BscNat) (b : Nat) (bsc : BscConnection) (now : Nat)
    (src : SccpSourceReference) (msg : SccpMsg) : BscNat :=
  let verdict := nat.crVerdict lib bsc msg
  if verdict.filter < 0 then nat.bscSendConRefuse b src verdict.conType now
  else
    match nat.createSccpSrcRef b src now with
    | (nat, none) => nat
    | (nat, some _) =>
      match nat.patchSccpSrcRefToMsc b msg with
      | (none, _) => nat
      | (some (i, _), msg) => (nat.modifyCon i (acceptCr verdict)).queueForMsc true msg

/-- The connection after `bsc_check_ussd`, which hands data to a side channel. -/
def UssdCheck.mark (check : UssdCheck) : SccpConnections :=
  if check.handled then { check.con with conLocal := .ussd } else check.con

/-- `forward_sccp_to_msc` on a message with data: only connections to the MSC are filtered. -/
def forwardData (lib : Osmocore) (nat : BscNat) (b : Nat) (bsc : BscConnection) (msg : SccpMsg) : BscNat :=
  match nat.patchSccpSrcRefToMsc b msg with
  | (none, _) => nat
  | (some (i, con), msg) =>
    match con.conLocal with
    | .msc =>
      let (filter, con) := bscNatFilterDt lib nat.cfg.accLst (bsc.cfg.bind (·.accLst)) msg con
      if filter < 0 then nat.bscSendConRelease b i con
      else
        let check := bscCheckUssd lib nat.cfg nat.ussdCon msg con
        let nat := (nat.sendAll check.sent).setCon i (UssdCheck.mark check)
        if check.handled then nat else nat.queueForMsc con.mscCon msg
    | .ussd =>
      let check := bscCheckUssd lib nat.cfg nat.ussdCon msg con
      (nat.sendAll check.sent).setCon i check.con
    | .localMachine => nat

/-- `forward_sccp_to_msc` on a release complete. -/
def forwardRlc (nat : BscNat) (b : Nat) (src : SccpSourceReference) (msg : SccpMsg) : BscNat :=
  match nat.patchSccpSrcRefToMsc b msg with
  | (none, _) => (nat.removeSccpSrcRef src).bscMaybeClose b
  | (some (_, con), msg) =>
    let nat := (nat.removeSccpSrcRef con.patchedRef).bscMaybeClose b
    if con.conLocal = .msc then nat.queueForMsc con.mscCon msg else nat

/-- `strncmp(token, name, len) == 0` for a string and `len` octets of a name. -/
def strncmpEq : (len : Nat) → (token name : List Octet) → Bool
  | 0, _, _ => true
  | len + 1, token, name =>
    token.headD 0 == name.headD 0 && (token.headD 0 == 0 || strncmpEq len token.tail name.tail)

/-- `ipaccess_auth_bsc`. -/
def ipaccessAuthBsc (nat : BscNat) (b : Nat) (unitName : List Octet) : BscNat :=
  nat.modifyBsc b fun bsc =>
    if bsc.cfg.isSome then bsc
    else
      match nat.cfg.bscConfigs.find? fun conf => strncmpEq unitName.length conf.token unitName with
      | none => bsc
      | some conf => { bsc with authenticated := true, cfg := some conf }

/-- `forward_sccp_to_msc` on SCCP, after the filter and the check that the BSC is authenticated. -/
def sccpToMsc (lib : Osmocore) (nat : BscNat) (b : Nat) (bsc : BscConnection) (now : Nat) (msg : SccpMsg) :
    BscNat :=
  match msg with
  | .cr src _ _ => nat.forwardCr lib b bsc now src msg
  | .rlsd .. | .cref .. | .dt1 .. | .cc .. | .it .. => nat.forwardData lib b bsc msg
  | .rlc _ src => nat.forwardRlc b src msg
  -- an UDT has no connection, and nothing is forwarded without one
  | .udt .. | .err _ => nat

/-- `forward_sccp_to_msc`. -/
def forwardSccpToMsc (lib : Osmocore) (nat : BscNat) (b : Nat) (now : Nat) (msg : BscMsg) : BscNat :=
  match nat.bscConnections.get? b with
  | none => nat
  | some bsc =>
    match msg with
    | .sccp msg =>
      if !msg.parses then nat
      else if bscNatFilterIpa .msc msg then nat.sendAll [.resetAck b, .resetAck b]
      else if !bsc.authenticated then nat
      else nat.sccpToMsc lib b bsc now msg
    | .mgcp response => if !bsc.authenticated then nat else nat.bscMgcpForward b response
    | .idResp (some unitName) => nat.ipaccessAuthBsc b unitName
    | .idResp none | .ipa => nat

/-! ## From the MSC -/

/-- `bsc_nat_find_paging`: the list of cells, if it is one of location areas. -/
def bscNatFindPaging (lib : Osmocore) (l3 : List Octet) : Option (List Octet) :=
  match lib.tlvParse (l3.drop 3) 0x1a with
  | none => none
  | some (offset, length) =>
    let data := (l3.drop (3 + offset)).take length
    if octetAt data 0 = 5 then some (data.drop 1) else none

/-- `bsc_config_handles_lac`. -/
def bscConfigHandlesLac (cfg : BscConfig) (lac : Nat) : Bool :=
  cfg.lacList.contains lac || (cfg.pagingGroup.getD []).contains lac

/-- The messages of `bsc_nat_handle_paging`: for each location area, to each BSC that handles it. -/
def bscNatHandlePaging (nat : BscNat) (msg : SccpMsg) (paging : List Octet) : List NatOut :=
  (List.range ((paging.length + 1) / 2)).flatMap fun k =>
    let lac := octetAt paging (2 * k) * 256 + octetAt paging (2 * k + 1)
    nat.bscConnections.entries.reverse.filterMap fun (b, bsc) =>
      match bsc.cfg with
      | none => none
      | some cfg =>
        if bsc.authenticated && bscConfigHandlesLac cfg lac && !cfg.forbidPaging then some (.toBsc b msg)
        else none

/-- The `send_to_all` part of `forward_sccp_to_bts`. -/
def sendToAll (lib : Osmocore) (nat : BscNat) (msg : SccpMsg) : BscNat :=
  if msg.gsmType = some 0x52 then
    match bscNatFindPaging lib (msg.l3.getD []) with
    | none => nat
    | some paging => nat.sendAll (nat.bscNatHandlePaging msg paging)
  else
    nat.sendAll (nat.bscConnections.entries.reverse.filterMap fun (b, bsc) =>
      if bsc.authenticated then some (.toBsc b msg) else none)

/-- The end of `forward_sccp_to_bts`: the message goes to the BSC of the connection. -/
def deliverToBsc (nat : BscNat) (i : Nat) (msg : SccpMsg) : BscNat :=
  match nat.sccpConnections.get? i with
  | none => nat
  | some con =>
    match nat.bscConnections.get? con.bsc with
    | none => nat
    | some bsc =>
      if !bsc.authenticated then nat
      else (nat.modifyCon i (updateConAuthorize msg)).send (.toBsc con.bsc msg)

/-- What the MSC gets for an RLSD of a connection the NAT does not know: an RLC with the references
    exchanged. -/
def unknownConnection (nat : BscNat) (msg : SccpMsg) : BscNat :=
  match msg with
  | .rlsd dest src _ => nat.queueForMsc true (.rlc src dest)
  | _ => nat

/-- `forward_sccp_to_bts` on a message with data. The type octet of the data is not asked for. -/
def dataToBts (lib : Osmocore) (nat : BscNat) (msg : SccpMsg) : BscNat :=
  match nat.patchSccpSrcRefToBsc msg with
  | (none, msg) => nat.unknownConnection msg
  | (some (i, con), msg) =>
    if msg.gsmType = some 0x01 then
      let (nat, l3) := bscMgcpAssignPatch lib nat i (msg.l3.getD [])
      nat.deliverToBsc i (msg.setL3 l3)
    else if con.conLocal = .ussd ∧ msg.gsmType = some 0x20 then nat.unknownConnection msg
    else nat.deliverToBsc i msg

/-- `forward_sccp_to_bts`. -/
def forwardSccpToBts (lib : Osmocore) (nat : BscNat) (msg : SccpMsg) : BscNat :=
  if !msg.parses then nat
  else if bscNatFilterIpa .bsc msg then nat
  else
    match msg with
    | .udt .. => nat.sendToAll lib msg
    | .rlsd .. | .cref .. | .dt1 .. | .it .. => nat.dataToBts lib msg
    | .cc _ src _ =>
      match nat.patchSccpSrcRefToBsc msg with
      | (none, _) => nat
      | (some (i, _), msg) => (nat.updateSccpSrcRef i src).deliverToBsc i msg
    -- the MSC never opens a connection, and its RLC is not expected
    | .rlc .. | .cr .. | .err _ => nat

end BscNat

/-! ## Runs -/

/-- What can happen to the NAT. A message comes with the identity of the BSC connection it arrived on; times
    are in seconds. -/
inductive NatEvent where
  | accept
  | fromBsc (b : Nat) (now : Nat) (msg : BscMsg)
  | fromMsc (msg : SccpMsg)
  | mgcpCommand (endpoint : Nat) (state : MgcpEndpState) (transactionId : List Octet) (rewritten : Bool)
  | closeBsc (b : Nat)
  | closeUnconfirmed (now : Nat)
  | mscConnected
  | mscLost
  | block (blocked : Bool)
  | ussdCon (connected : Bool)
  | setLastEndpoint (nr endp : Nat)

/-- The NAT after an event. -/
def natStep (lib : Osmocore) (nat : BscNat) (ev : NatEvent) : BscNat :=
  match ev with
  | .accept =>
    if nat.mscConnected && !nat.blocked then
      { nat with bscConnections := nat.bscConnections.alloc {} }
    else nat
  | .fromBsc b now msg => nat.forwardSccpToMsc lib b now msg
  | .fromMsc msg => nat.forwardSccpToBts lib msg
  | .mgcpCommand endpoint state transactionId rewritten =>
    (nat.bscMgcpPolicyCb endpoint state transactionId rewritten).1
  | .closeBsc b => nat.bscCloseConnection b
  | .closeUnconfirmed now => nat.sccpCloseUnconfirmed now
  | .mscConnected => { nat with mscConnected := true }
  | .mscLost => nat.mscConnectionWasLost
  | .block blocked => { nat with blocked := blocked }
  | .ussdCon true => { nat with ussdCon := true }
  | .ussdCon false => { nat.bscCloseUssdConnections with ussdCon := false }
  | .setLastEndpoint nr endp =>
    nat.bscIds.foldl (fun nat b => nat.modifyBsc b fun con =>
      if con.cfg.any (·.nr = nr) then { con with lastEndpoint := endp } else con) nat

/-- The NAT when it is started. -/
def BscNat.start (cfg : NatConfig) : BscNat :=
  { cfg := cfg, bscEndpoints := List.replicate cfg.numberEndpoints {} }

/-- The NAT with any configuration, and any events in any order. -/
def natSystem (lib : Osmocore) : System BscNat NatEvent where
  init nat := ∃ cfg, nat = BscNat.start cfg
  step nat ev nat' := nat' = natStep lib nat ev

/-! ## Fixed inputs -/

/-- `gsm48_mi_to_string` for an IMSI, whose first digit follows its type. -/
def imsiDigits (mi : List Octet) : List Octet :=
  let digits := (SemiOctets.ofSemiOctets mi).tail
  let even := octetAt mi 0 &&& 8 = 0
  if octetAt mi 0 &&& 7 = 1 then
    (if even ∧ 1 < mi.length then digits.dropLast else digits).map fun d =>
      UInt8.ofNat (if d < 10 then 48 + d else 55 + d)
  else []

/-- The library code on messages with one element and IMSIs, with expressions that have no special characters. -/
def plainLib : Osmocore where
  tlvParse octets tag :=
    if octetAt octets 0 ≠ tag then none
    else if tag = 0x01 then some (1, 2)
    else some (2, octetAt octets 1)
  gsm48MiToString := imsiDigits
  regexec pattern string := pattern <:+: string
  gsm0480DecodeUssdRequest _ := none

/-- A NAT that knows one kind of BSC, by the token 7, and no access list. -/
def plainConfig : NatConfig where
  bscConfigs := [⟨0, [7], none, false, [], none, 64⟩]
  accLst := none
  ussdLst := none
  ussdQuery := none
  numberEndpoints := 64

/-- A BSC connects and says its token. -/
def bscArrives (b : Nat) : List NatEvent := [.accept, .fromBsc b 0 (.idResp (some [7]))]

/-- A connection request with a GSM 04.08 message in it. The octet that ends the optional parameters of the
    request comes after the data. -/
def requestOf (src : SccpSourceReference) (hdr48 : List Octet) : SccpMsg :=
  let header : List Octet := [0x00, UInt8.ofNat (hdr48.length + 3), 0x57, 0x17, UInt8.ofNat hdr48.length]
  .cr src 0xfe (some (header ++ hdr48 ++ [0x00]))

/-- A request that no list is asked about. -/
def plainRequest (src : SccpSourceReference) : SccpMsg := requestOf src [0x05, 0x28]

/-- A LOCATION UPDATING REQUEST that is cut off. -/
def cutRequest (src : SccpSourceReference) : SccpMsg := requestOf src [0x05, 0x08]

end OpenBsc.OsmoBscNat
