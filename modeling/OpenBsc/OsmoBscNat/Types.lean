import OpenBsc.Lib.Octets
import OpenBsc.Lib.Pool

/-!
# `OsmoBscNat.Types` — the data of the BSC-NAT (`bsc_nat.h`, `bsc_nat_sccp.h`)

The NAT stands between many BSCs and one MSC. Each BSC chooses SCCP references of its own, so the NAT
gives every connection a second, patched reference towards the MSC and keeps a table of them.

Heap objects (SCCP connections, BSC connections) are records of a `Pool`; their identities stand for
pointers. What the NAT sends is collected in `outbox`, oldest first. Counters and log texts are left out.
-/

namespace OpenBsc.OsmoBscNat

/-! ## Messages -/

/-- `struct sccp_source_reference`. -/
abbrev SccpSourceReference := BitVec 24

/-- An SCCP message with the references its format has, and its data if it has any. -/
inductive SccpMsg where
  | cr (src : SccpSourceReference) (calledSsn : Nat) (data : Option (List Octet))
  | cc (dest src : SccpSourceReference) (data : Option (List Octet))
  | cref (dest : SccpSourceReference) (data : Option (List Octet))
  | rlsd (dest src : SccpSourceReference) (data : Option (List Octet))
  | rlc (dest src : SccpSourceReference)
  | dt1 (dest : SccpSourceReference) (data : List Octet)
  | it (dest src : SccpSourceReference)
  | err (dest : SccpSourceReference)
  | udt (calledSsn : Nat) (data : List Octet)
  deriving DecidableEq

namespace SccpMsg

/-- `parsed->src_local_ref`. -/
def srcLocalRef : SccpMsg → Option SccpSourceReference
  | cr src _ _ | cc _ src _ | rlsd _ src _ | rlc _ src | it _ src => some src
  | cref .. | dt1 .. | err _ | udt .. => none

/-- `parsed->dest_local_ref`. -/
def destLocalRef : SccpMsg → Option SccpSourceReference
  | cc dest _ _ | cref dest _ | rlsd dest _ _ | rlc dest _ | dt1 dest _ | it dest _ | err dest => some dest
  | cr .. | udt .. => none

/-- The message with its source reference overwritten. -/
def setSrc (r : SccpSourceReference) : SccpMsg → SccpMsg
  | cr _ ssn data => cr r ssn data
  | cc dest _ data => cc dest r data
  | rlsd dest _ data => rlsd dest r data
  | rlc dest _ => rlc dest r
  | it dest _ => it dest r
  | msg => msg

/-- The message with its destination reference overwritten. -/
def setDest (r : SccpSourceReference) : SccpMsg → SccpMsg
  | cc _ src data => cc r src data
  | cref _ data => cref r data
  | rlsd _ src data => rlsd r src data
  | rlc _ src => rlc r src
  | dt1 _ data => dt1 r data
  | it _ src => it r src
  | err _ => err r
  | msg => msg

/-- What `msg->l3h` points to, if it is set. -/
def l3 : SccpMsg → Option (List Octet)
  | cr _ _ data | cc _ _ data | cref _ data | rlsd _ _ data => data
  | dt1 _ data | udt _ data => some data
  | rlc .. | it .. | err _ => none

/-- The message with other data in it. -/
def setL3 (data : List Octet) : SccpMsg → SccpMsg
  | cr src ssn _ => cr src ssn (some data)
  | cc dest src _ => cc dest src (some data)
  | cref dest _ => cref dest (some data)
  | rlsd dest src _ => rlsd dest src (some data)
  | dt1 dest _ => dt1 dest data
  | udt ssn _ => udt ssn data
  | msg => msg

/-- `parsed->called_ssn`; connectionless and connection requests name the subsystem. -/
def calledSsn : SccpMsg → Option Nat
  | cr _ ssn _ | udt ssn _ => some ssn
  | _ => none

/-- `parsed->bssap`: the first octet of the data. -/
def bssap (msg : SccpMsg) : Option Nat := msg.l3.map fun data => octetAt data 0

/-- `parsed->gsm_type`: the third octet of the data, whatever the first one says. -/
def gsmType (msg : SccpMsg) : Option Nat := msg.l3.map fun data => octetAt data 2

/-- `bsc_nat_parse` refuses data of less than three octets. -/
def parses (msg : SccpMsg) : Bool :=
  match msg.l3 with
  | some data => decide (3 ≤ data.length)
  | none => true

end SccpMsg

/-- A response to an MGCP command, as far as `bsc_mgcp_forward` reads it: the transaction it answers when
    `bsc_mgcp_parse_response` succeeds, and the connection identifier `bsc_mgcp_extract_ci` finds. -/
structure MgcpResponse where
  transaction : Option (List Octet)
  ci : Option Nat
  deriving DecidableEq

/-- What arrives from a BSC: SCCP, MGCP, or the IPA protocol, of which the identity response (with the
    unit name in it) matters. -/
inductive BscMsg where
  | sccp (msg : SccpMsg)
  | mgcp (response : MgcpResponse)
  | idResp (unitName : Option (List Octet))
  | ipa

/-- `MGCP_ENDP_CRCX`, `MGCP_ENDP_DLCX`, `MGCP_ENDP_MDCX`. -/
inductive MgcpEndpState where
  | crcx | dlcx | mdcx
  deriving DecidableEq

/-- What the NAT writes: SCCP messages to the MSC, to a BSC or to the USSD provider (with the state message
    before a diverted request), the DLCX it makes up, the MGCP command of the call agent rewritten for a BSC,
    and the response of a BSC for the call agent. -/
inductive NatOut where
  | toMsc (msg : SccpMsg)
  | toBsc (bsc : Nat) (msg : SccpMsg)
  | toUssd (msg : SccpMsg)
  | ussdState (src dst : SccpSourceReference) (imsi : List Octet)
  | dlcx (bsc : Nat) (endpoint : Option Nat)
  | mgcpCommand (bsc : Nat) (state : MgcpEndpState) (endpoint : Option Nat)
  | mgcpResponse (response : MgcpResponse)
  | resetAck (bsc : Nat)
  deriving DecidableEq

/-! ## Configuration -/

/-- `struct bsc_nat_acc_lst_entry`: the patterns of IMSIs to allow and to deny. -/
structure BscNatAccLstEntry where
  imsiAllow : Option (List Octet)
  imsiDeny : Option (List Octet)
  deriving DecidableEq

abbrev BscNatAccLst := List BscNatAccLstEntry

/-- `struct bsc_config`, with the access list and the paging group its names stand for. -/
structure BscConfig where
  nr : Nat
  token : List Octet
  accLst : Option BscNatAccLst
  forbidPaging : Bool
  lacList : List Nat
  pagingGroup : Option (List Nat)
  maxEndpoints : Nat
  deriving DecidableEq

/-- What the NAT is configured with. -/
structure NatConfig where
  bscConfigs : List BscConfig
  accLst : Option BscNatAccLst
  ussdLst : Option BscNatAccLst
  ussdQuery : Option (List Octet)
  numberEndpoints : Nat

/-- The library code the NAT relies on (libosmocore and the C library): `tlv_parse` with the definitions of
    GSM 08.08, as the offset and length of the element with a tag; `gsm48_mi_to_string`; `regexec`, true for
    a match; and `gsm0480_decode_ussd_request`, as the text of the request. -/
structure Osmocore where
  tlvParse : (octets : List Octet) → (tag : Nat) → Option (Nat × Nat)
  gsm48MiToString : List Octet → List Octet
  regexec : (pattern string : List Octet) → Bool
  gsm0480DecodeUssdRequest : List Octet → Option (List Octet)

/-! ## State -/

/-- `NAT_CON_TYPE_*`. -/
inductive NatConType where
  | none | lu | cmServReq | pagResp | ssa | localReject | other
  deriving DecidableEq

/-- `NAT_CON_END_*`: is this terminated to the MSC, to the local machine or to a USSD provider? -/
inductive NatConEnd where
  | msc | localMachine | ussd
  deriving DecidableEq

/-- `struct sccp_connections`. `bsc` is the BSC connection it belongs to, `mscCon` whether the MSC connection
    is set, bit `ti` of `ussdTi` is `ussd_ti[ti]`, and an endpoint of -1 is `none`. -/
structure SccpConnections where
  bsc : Nat
  mscCon : Bool := false
  realRef : SccpSourceReference := 0
  patchedRef : SccpSourceReference := 0
  remoteRef : SccpSourceReference := 0
  hasRemoteRef : Bool := false
  conType : NatConType := .none
  conLocal : NatConEnd := .msc
  authorized : Bool := false
  imsiChecked : Bool := false
  imsi : Option (List Octet) := none
  ussdTi : BitVec 8 := 0
  mscEndp : Option Nat := none
  bscEndp : Option Nat := none
  creationTime : Nat := 0
  deriving DecidableEq

/-- `struct bsc_connection`; `endpointStatus` is `_endpoint_status`, `none` before it is allocated. -/
structure BscConnection where
  authenticated : Bool := false
  cfg : Option BscConfig := none
  endpointStatus : Option (List Bool) := none
  numberMultiplexes : Nat := 0
  maxEndpoints : Nat := 0
  lastEndpoint : Nat := 0
  deriving DecidableEq

/-- `_endpoint_status[e]`; false before the array is allocated. -/
def BscConnection.inUse (bsc : BscConnection) (e : Nat) : Bool :=
  match bsc.endpointStatus with
  | some status => (status[e]?).getD false
  | none => false

/-- `struct bsc_endpoint`: the transaction pending at an endpoint of the MSC side, and with which BSC. -/
structure BscEndpoint where
  transactionState : Option MgcpEndpState := none
  transactionId : Option (List Octet) := none
  bsc : Option Nat := none

/-- `struct bsc_nat`, with `last_ref` of `assign_src_local_reference`. -/
structure BscNat where
  cfg : NatConfig
  sccpConnections : Pool SccpConnections := .empty
  bscConnections : Pool BscConnection := .empty
  bscEndpoints : List BscEndpoint
  lastRef : Nat := 0x50000
  mscConnected : Bool := false
  blocked : Bool := false
  ussdCon : Bool := false
  outbox : List NatOut := []

namespace BscNat

/-- A message is written. -/
def send (nat : BscNat) (out : NatOut) : BscNat := { nat with outbox := nat.outbox ++ [out] }

/-- The SCCP connection `i` is changed by `f`. -/
def modifyCon (nat : BscNat) (i : Nat) (f : SccpConnections → SccpConnections) : BscNat :=
  { nat with sccpConnections := nat.sccpConnections.modify i f }

/-- The BSC connection `b` is changed by `f`. -/
def modifyBsc (nat : BscNat) (b : Nat) (f : BscConnection → BscConnection) : BscNat :=
  { nat with bscConnections := nat.bscConnections.modify b f }

/-- `queue_for_msc`: without an MSC connection the message is freed. -/
def queueForMsc (nat : BscNat) (mscCon : Bool) (msg : SccpMsg) : BscNat :=
  if mscCon then nat.send (.toMsc msg) else nat

/-- Whether the endpoint `e` of the BSC connection `b` is in use. -/
def endpointInUse (nat : BscNat) (b e : Nat) : Bool := (nat.bscConnections.get? b).any (·.inUse e)

end BscNat

end OpenBsc.OsmoBscNat
