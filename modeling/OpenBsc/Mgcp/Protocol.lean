import OpenBsc.Mgcp.Message

/-!
# `Mgcp.Protocol` — the requests of a call agent (`mgcp_protocol.c`)

`mgcp_handle_message` finds the handler of a request and answers it. What `policy_cb` answers is an input (none where no
callback is set); the callback for RSIP resets the trunk's endpoints once the request is handled (`mgcp_main.c`). The
other callbacks only inform, and messages to the transcoder are left out.
-/

namespace OpenBsc.Mgcp

/-! ## Answers -/

/-- What an answer with SDP says. -/
structure SdpRecord where
  ci : BitVec 32
  addr : List Octet
  port : Nat
  payloadType : Int
  audioName : List Octet

/-- An answer: code, transaction, text, and the record if there is one. -/
structure MgcpResponse where
  code : Nat
  trans : List Octet
  ok : Bool
  data : Option SdpRecord := none

/-- `create_ok_response`. -/
def createOkResponse (code : Nat) (trans : List Octet) : MgcpResponse := { code, trans, ok := true }

/-- `create_err_response`. -/
def createErrResponse (code : Nat) (trans : List Octet) : MgcpResponse := { code, trans, ok := false }

/-- What `policy_cb` answers. -/
inductive MgcpPolicy where
  | cont
  | reject
  | defer

namespace MgcpConfig

/-- `create_response_with_sdp`. -/
def createResponseWithSdp (cfg : MgcpConfig) (r : EndpRef) (trans : List Octet) : MgcpResponse :=
  let endp := (cfg.endp? r).getD {}
  { code := 200, trans, ok := true,
    data := some
      { ci := endp.ci
        addr := cfg.localIp.getD cfg.sourceAddr
        port := endp.netEnd.localPort
        payloadType := endp.btsEnd.payloadType
        audioName := ((cfg.trunk? r.trunk).map (·.audioName)).getD [] } }

/-! ## Connections -/

/-- The next value of `last_call_id`. -/
def nextCallId (id : BitVec 32) : BitVec 32 := if id + 1 = ciUnused then id + 1 + 1 else id + 1

/-- The search of `generate_call_id`, which calls itself while the value is in use. -/
def searchCallId (inUse : BitVec 32 → Bool) : Nat → BitVec 32 → Option (BitVec 32)
  | 0, _ => none
  | n + 1, id => if inUse (nextCallId id) then searchCallId inUse n (nextCallId id) else some (nextCallId id)

/-- An endpoint of the virtual trunk has the identifier; the first one is not looked at. -/
def callIdInUse (cfg : MgcpConfig) (id : BitVec 32) : Bool := (cfg.trunk.endpoints.drop 1).any (·.ci = id)

/-- `generate_call_id`. As many calls are enough as the virtual trunk has endpoints, as long as these are fewer than the
    identifiers. -/
def generateCallId (cfg : MgcpConfig) : BitVec 32 :=
  (searchCallId cfg.callIdInUse (cfg.trunk.endpoints.length + 1) cfg.lastCallId).getD ciUnused

/-- `create_transcoder`, up to the messages it sends. -/
def createTranscoder (cfg : MgcpConfig) (r : EndpRef) : MgcpConfig :=
  cfg.modifyEndp r fun endp =>
    if endp.isTranscoded then
      let port := rtpCalculatePort r.nr cfg.transcoderRemoteBase
      let back := rtpCalculatePort (endpBackChannel r.nr) cfg.transcoderRemoteBase
      { endp with
        transBts := { endp.transBts with rtpPort := htons port, rtcpPort := htons (port + 1) }
        transNet := { endp.transNet with rtpPort := htons back, rtcpPort := htons (back + 1) } }
    else endp

/-- `mgcp_free_endp`. -/
def mgcpFreeEndp (cfg : MgcpConfig) (r : EndpRef) : MgcpConfig := cfg.modifyEndp r MgcpEndpoint.free

/-! ## Creating a connection -/

end MgcpConfig

/-- What the lines of a CRCX say. -/
structure CreateParams where
  localOptions : Option (List Octet) := none
  callid : Option (List Octet) := none
  mode : Option (List Octet) := none

/-- A line of a CRCX. -/
def createLine (params : CreateParams) (line : List Octet) : CreateParams × Option Nat :=
  let option := line.headD 0
  if option = octetOf 'L' then ({ params with localOptions := some (paramValue line) }, none)
  else if option = octetOf 'C' then ({ params with callid := some (paramValue line) }, none)
  else if option = octetOf 'M' then ({ params with mode := some (paramValue line) }, none)
  else (params, none)

namespace MgcpConfig

/-- The endpoint gets what the request says, as far as it has no ports and no connection yet. -/
def copyParams (cfg : MgcpConfig) (r : EndpRef) (callid : List Octet) (localOptions : Option (List Octet)) :
    MgcpConfig :=
  cfg.modifyEndp r fun endp =>
    { endp with callid := some callid, localOptions := localOptions.or endp.localOptions }

/-- Addresses and ports of the peers are not known yet. -/
def clearPeers (cfg : MgcpConfig) (r : EndpRef) (mode : MgcpConnectionMode) : MgcpConfig :=
  cfg.modifyEndp r fun endp =>
    { endp with
      connMode := mode
      netEnd := { endp.netEnd with rtpPort := 0, rtcpPort := 0, addr := 0 }
      btsEnd := { endp.btsEnd with rtpPort := 0, rtcpPort := 0 } }

/-- The connection has its identifier. -/
def connect (cfg : MgcpConfig) (r : EndpRef) : MgcpConfig :=
  let ci := cfg.generateCallId
  let payload := ((cfg.trunk? r.trunk).map (·.audioPayload)).getD 0
  ({ cfg with lastCallId := ci } : MgcpConfig).modifyEndp r fun endp =>
    { endp with allocated := true, ci := ci, btsEnd := { endp.btsEnd with payloadType := payload } }

/-- `handle_create_con` where the endpoint is free. -/
def createOnFree (cfg : MgcpConfig) (r : EndpRef) (trans callid mode : List Octet) (localOptions : Option (List Octet))
    (policy : Option MgcpPolicy) : MgcpConfig × Option MgcpResponse :=
  let cfg := cfg.copyParams r callid localOptions
  match parseConnMode mode with
  | none => (cfg.mgcpFreeEndp r, some (createErrResponse 517 trans))
  | some connMode =>
    let ports := (cfg.clearPeers r connMode).allocatePorts r
    if !ports.2 then (ports.1.mgcpFreeEndp r, some (createErrResponse 400 trans))
    else if ports.1.generateCallId = ciUnused then
      (({ ports.1 with lastCallId := ciUnused } : MgcpConfig).mgcpFreeEndp r, some (createErrResponse 400 trans))
    else
      let cfg := ports.1.connect r
      match policy with
      | some .reject => (cfg.mgcpFreeEndp r, some (createErrResponse 400 trans))
      | some .defer => (cfg.createTranscoder r, none)
      | _ => (cfg.createTranscoder r, some ((cfg.createTranscoder r).createResponseWithSdp r trans))

/-- `handle_create_con` with what the lines say. -/
def createWith (cfg : MgcpConfig) (r : EndpRef) (trans : List Octet) (params : CreateParams)
    (policy : Option MgcpPolicy) : MgcpConfig × Option MgcpResponse :=
  match params.callid, params.mode with
  | some callid, some mode =>
    let endp := (cfg.endp? r).getD {}
    if endp.allocated then
      -- the call identifier of the endpoint need only be a prefix of the one in the request
      if (endp.callid.getD []).isPrefixOf callid then (cfg, some (cfg.createResponseWithSdp r trans))
      else if ((cfg.trunk? r.trunk).map (·.forceRealloc)).getD false then
        (cfg.mgcpFreeEndp r).createOnFree r trans callid mode params.localOptions policy
      else (cfg, some (createErrResponse 400 trans))
    else cfg.createOnFree r trans callid mode params.localOptions policy
  | _, _ => (cfg, some (createErrResponse 400 trans))

/-- `handle_create_con`. -/
def handleCreateCon (cfg : MgcpConfig) (l3h : List Octet) (policy : Option MgcpPolicy) :
    MgcpConfig × Option MgcpResponse :=
  let hdr := mgcpAnalyzeHeader cfg l3h
  match hdr.endp with
  | none => (cfg, some (createErrResponse 510 hdr.trans))
  | some r =>
    match tokenize createLine 400 true [] {} hdr.l3h with
    | (_, some code) => (cfg, some (createErrResponse code hdr.trans))
    | (params, none) => cfg.createWith r hdr.trans params policy

end MgcpConfig

/-! ## Modifying a connection -/

/-- `verify_call_id`. -/
def verifyCallId (endp : MgcpEndpoint) (callid : List Octet) : Bool := endp.callid = some callid

/-- `verify_ci`. -/
def verifyCi (endp : MgcpEndpoint) (ci : List Octet) : Bool := BitVec.ofNat 32 (strtoul 10 ci).1 = endp.ci

/-- A line of an MDCX: the endpoint and whether no answer is wanted. -/
def modifyLine (s : MgcpEndpoint × Bool) (line : List Octet) : (MgcpEndpoint × Bool) × Option Nat :=
  let endp := s.1
  let option := line.headD 0
  if option = octetOf 'C' then (s, if verifyCallId endp (paramValue line) then none else some 500)
  else if option = octetOf 'I' then (s, if verifyCi endp (paramValue line) then none else some 500)
  else if option = octetOf 'M' then
    match parseConnMode (paramValue line) with
    | none => (s, some 517)
    | some mode => (({ endp with connMode := mode, origMode := mode }, s.2), none)
  else if option = octetOf 'Z' then ((endp, paramValue line = octets "noanswer"), none)
  else if option = octetOf 'm' then
    match scanMedia line with
    | none => (s, none)
    | some (port, payload) =>
      (({ endp with netEnd := { endp.netEnd with
            rtpPort := (port % 65536).toNat, rtcpPort := ((port + 1) % 65536).toNat, payloadType := payload } }, s.2),
        none)
  else if option = octetOf 'c' then
    match (scanConnection line).bind inetAton with
    | none => (s, none)
    | some addr => (({ endp with netEnd := { endp.netEnd with addr := addr } }, s.2), none)
  else (s, none)

namespace MgcpConfig

/-- `handle_modify_con` after the lines. -/
def modified (cfg : MgcpConfig) (r : EndpRef) (trans : List Octet) (silent : Bool) (policy : Option MgcpPolicy) :
    Option MgcpResponse :=
  match policy with
  | some .reject => if silent then none else some (createErrResponse 400 trans)
  | some .defer => none
  | _ => if silent then none else some (cfg.createResponseWithSdp r trans)

/-- `handle_modify_con`. -/
def handleModifyCon (cfg : MgcpConfig) (l3h : List Octet) (policy : Option MgcpPolicy) :
    MgcpConfig × Option MgcpResponse :=
  let hdr := mgcpAnalyzeHeader cfg l3h
  match hdr.endp with
  | none => (cfg, some (createErrResponse 510 hdr.trans))
  | some r =>
    let endp := (cfg.endp? r).getD {}
    if endp.ci = ciUnused then (cfg, some (createErrResponse 400 hdr.trans))
    else
      let lines := tokenize modifyLine 500 true [] (endp, false) hdr.l3h
      let cfg := cfg.modifyEndp r fun _ => lines.1.1
      match lines.2 with
      | some code => (cfg, some (createErrResponse code hdr.trans))
      | none => (cfg, cfg.modified r hdr.trans lines.1.2 policy)

end MgcpConfig

/-! ## Deleting a connection -/

/-- A line of a DLCX: whether no answer is wanted. -/
def deleteLine (endp : MgcpEndpoint) (silent : Bool) (line : List Octet) : Bool × Option Nat :=
  let option := line.headD 0
  if option = octetOf 'C' then (silent, if verifyCallId endp (paramValue line) then none else some 400)
  else if option = octetOf 'I' then (silent, if verifyCi endp (paramValue line) then none else some 400)
  else if option = octetOf 'Z' then (paramValue line = octets "noanswer", none)
  else (silent, none)

namespace MgcpConfig

/-- `handle_delete_con` after the lines. -/
def deleted (cfg : MgcpConfig) (r : EndpRef) (trans : List Octet) (silent : Bool) (policy : Option MgcpPolicy) :
    MgcpConfig × Option MgcpResponse :=
  match policy with
  | some .reject => (cfg, if silent then none else some (createErrResponse 400 trans))
  | some .defer => (cfg, none)
  | _ => (cfg.mgcpFreeEndp r, if silent then none else some (createOkResponse 250 trans))

/-- `handle_delete_con`. -/
def handleDeleteCon (cfg : MgcpConfig) (l3h : List Octet) (policy : Option MgcpPolicy) :
    MgcpConfig × Option MgcpResponse :=
  let hdr := mgcpAnalyzeHeader cfg l3h
  match hdr.endp with
  | none => (cfg, some (createErrResponse 400 hdr.trans))
  | some r =>
    let endp := (cfg.endp? r).getD {}
    if !endp.allocated then (cfg, some (createErrResponse 400 hdr.trans))
    else
      match tokenize (deleteLine endp) 400 true [] false hdr.l3h with
      | (_, some code) => (cfg, some (createErrResponse code hdr.trans))
      | (silent, none) => cfg.deleted r hdr.trans silent policy

/-! ## Other requests -/

/-- `handle_audit_endpoint`. -/
def handleAuditEndpoint (cfg : MgcpConfig) (l3h : List Octet) : MgcpResponse :=
  let hdr := mgcpAnalyzeHeader cfg l3h
  match hdr.endp with
  | none => createErrResponse 500 hdr.trans
  | some _ => createOkResponse 200 hdr.trans

/-- `handle_noti_req`. -/
def handleNotiReq (cfg : MgcpConfig) (l3h : List Octet) : MgcpResponse :=
  let hdr := mgcpAnalyzeHeader cfg l3h
  match hdr.endp with
  | none => createErrResponse 400 hdr.trans
  | some r =>
    if ((cfg.endp? r).getD {}).allocated then createOkResponse 200 hdr.trans
    else createErrResponse 400 hdr.trans

/-- `mgcp_rsip_cb`, and what `read_call_agent` does once it was called: all endpoints of the trunk but the first are
    freed. -/
def resetTrunk (cfg : MgcpConfig) (k : Nat) : MgcpConfig :=
  let count := ((cfg.trunk? k).map fun tcfg => tcfg.endpoints.length).getD 0
  ((List.range' 1 (count - 1)).map (EndpRef.mk k)).foldl mgcpFreeEndp cfg

/-- `handle_rsip`. -/
def handleRsip (cfg : MgcpConfig) (l3h : List Octet) : MgcpConfig :=
  match (mgcpAnalyzeHeader cfg l3h).endp with
  | none => cfg
  | some r => if cfg.resetCb then cfg.resetTrunk r.trunk else cfg

/-! ## The gateway -/

/-- `mgcp_handle_message`, with what follows from an RSIP. -/
def mgcpHandleMessage (cfg : MgcpConfig) (msg : List Octet) (policy : Option MgcpPolicy) :
    MgcpConfig × Option MgcpResponse :=
  if msg.length < 4 then (cfg, none)
  else if (scanInt 3 msg).isSome then (cfg, none)
  else
    let verb := msg.take 4
    let l3h := msg.drop 4
    if verb = octets "AUEP" then (cfg, some (cfg.handleAuditEndpoint l3h))
    else if verb = octets "CRCX" then cfg.handleCreateCon l3h policy
    else if verb = octets "DLCX" then cfg.handleDeleteCon l3h policy
    else if verb = octets "MDCX" then cfg.handleModifyCon l3h policy
    else if verb = octets "RQNT" then (cfg, some (cfg.handleNotiReq l3h))
    else if verb = octets "RSIP" then (cfg.handleRsip l3h, none)
    else (cfg, none)

/-- The VTY command `free-endpoint`. -/
def freeEndpCmd (cfg : MgcpConfig) (r : EndpRef) : MgcpConfig :=
  if 1 ≤ r.nr ∧ (cfg.endp? r).isSome then cfg.mgcpFreeEndp r else cfg

end MgcpConfig

end OpenBsc.Mgcp
