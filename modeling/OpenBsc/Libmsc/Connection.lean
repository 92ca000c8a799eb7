import OpenBsc.Libmsc.Transaction

/-!
# `Libmsc.Connection` — a subscriber connection of the MSC (`osmo_msc.c`, `gsm_04_08.c`, `ussd.c`, `auth.c`)

A connection carries the layer 3 messages of one phone. Mobility management names the subscriber and secures the
channel; call control, short messages and supplementary services put transactions on it. Whatever is still going on
holds the connection: an operation, a silent call or a transaction. Who drops his hold asks for the release.

What the routines of call control and short messages, the timers of transactions and the applications do to the
transactions of the network is a list of `TransEffect`s, which is free. The databases answer as `MscEnv` has it, at
each step anew.
-/

namespace OpenBsc.Libmsc

open Transition

/-! ## Data -/

/-- `struct gsm_auth_tuple`, as far as the MSC uses it. -/
structure GsmAuthTuple where
  keySeq : Octet := 0
  rand : BitVec 128 := 0
  sres : BitVec 32 := 0
  kc : BitVec 64 := 0

/-- `auth_get_tuple_for_subscr`: no tuple, or one and what is to be done with it. -/
inductive AuthAnswer where
  | notAvail
  | doAuthThanCiph (atuple : GsmAuthTuple)
  | doCiph (atuple : GsmAuthTuple)

/-- The callbacks of `gsm48_secure_channel`: `_gsm0408_authorize_sec_cb`, `_gsm48_rx_mm_serv_req_sec_cb` and
    `subscr_paging_sec_cb`. -/
inductive SecCallback where
  | authorize | servReq | paging
  deriving DecidableEq

/-- `GSM_SECURITY_*`. -/
inductive GsmSecurity where
  | noavail | authFailed | succeeded
  deriving DecidableEq

/-- `struct gsm_security_operation`. -/
structure GsmSecurityOperation where
  cb : SecCallback
  atuple : GsmAuthTuple

/-- `struct gsm_loc_updating_operation`. -/
structure GsmLocUpdatingOperation where
  keySeq : Octet
  waitingForImsi : Bool := false
  waitingForImei : Bool := false
  updatingTimer : Bool := false

/-- `struct gsm_anchor_operation`. -/
structure GsmAnchorOperation where
  timeout : Bool

/-- The mobile identity in a message. -/
inductive MobileIdentity where
  | imsi (digits : List Octet)
  | tmsi (tmsi : BitVec 32)
  | imei | imeisv | other

/-- `GSM48_REJECT_*`, as far as the MSC gives them itself. -/
inductive RejectCause where
  | imsiUnknownInHlr | incorrectMessage | protocolError | other (value : Octet)
  deriving DecidableEq

/-- The identities the network asks for. -/
inductive IdType where
  | imsi | imei
  deriving DecidableEq

/-- What a handler used although it does not exist. -/
inductive NullUse where
  | subscr | locOperation | transConn
  deriving DecidableEq

/-- The messages that name the subscriber of a connection. -/
inductive NamedBy where
  | locUpdReq | idResp | servReq | pagResp
  deriving DecidableEq

/-- What happened on a connection: messages to the phone and the BSC, a paging request answered, a number looked up.
    The others are the decisions: the subscriber was named, an operation was started, the response to it was right, its
    callback was invoked (`ofOp`), or a callback without any operation, and the phone got a transaction. -/
inductive MscOut where
  | locUpdRej (cause : RejectCause)
  | locUpdAcc (subscr : Nat)
  | identityReq (type : IdType)
  | mmInfo
  | authReq (keySeq : Octet) (rand : BitVec 128)
  | authRej
  | cipherMode (cipher : Octet) (kc : BitVec 64)
  | cmServAck
  | cmServRej (cause : RejectCause)
  | pagingResult (succeeded : Bool)
  | ussdOwnNumber (subscr : Nat)
  | ussdReject
  | apduStored (subscr : Nat)
  | clear
  | named (how : NamedBy) (subscr : Nat)
  | opStarted (authenticate : Bool)
  | sresMatched
  | secCallback (ofOp : Bool) (cb : SecCallback) (event : GsmSecurity)
  | transMade (proto : TransProto) (subscr : Nat)
  deriving DecidableEq

/-- `struct gsm_subscriber_connection`, with the transactions of the network. -/
structure MscConn where
  subscr : Option Nat := none
  locOperation : Option GsmLocUpdatingOperation := none
  secOperation : Option GsmSecurityOperation := none
  anchOperation : Option GsmAnchorOperation := none
  /-- The ciphering of the channel, `lchan->encr.alg_id`. -/
  encrAlgId : Octet := 0
  silentCall : Bool := false
  inRelease : Bool := false
  freed : Bool := false
  net : TransList Unit := {}
  log : List MscOut := []
  fault : Option NullUse := none

/-- By this number transactions refer to the connection. -/
def thisConn : Nat := 0

/-! ### Messages -/

/-- What the handlers read in a message. -/
structure Gsm48Msg where
  protoDiscr : Octet
  msgType : Octet
  /-- `key_seq` of a LOCATION UPDATING REQUEST, a CM SERVICE REQUEST or a PAGING RESPONSE. -/
  keySeq : Octet := 0
  mi : MobileIdentity := .other
  dataLen : Nat := 0
  miLen : Nat := 0
  sres : BitVec 32 := 0
  /-- The text of a supplementary service request. -/
  text : List Octet := []

/-- The types of mobility management that are told apart. -/
inductive MmMsg where
  | locUpdRequest | idResp | cmServReq | status | tmsiReallCompl | imsiDetachInd | cmReestReq | authResp | unknown
  deriving DecidableEq

/-- The types of radio resource management that are told apart. -/
inductive RrMsg where
  | clsmChg | gprsSuspReq | pagResp | status | measRep | appInfo | ciphMCompl | handoCompl | handoFail | unimplemented
  deriving DecidableEq

/-- `GSM48_MT_MM_*`. -/
def MmMsg.ofType (type : Octet) : MmMsg :=
  if type = 0x08 then .locUpdRequest
  else if type = 0x19 then .idResp
  else if type = 0x24 then .cmServReq
  else if type = 0x31 then .status
  else if type = 0x1b then .tmsiReallCompl
  else if type = 0x01 then .imsiDetachInd
  else if type = 0x28 then .cmReestReq
  else if type = 0x14 then .authResp
  else .unknown

/-- `GSM48_MT_RR_*`. -/
def RrMsg.ofType (type : Octet) : RrMsg :=
  if type = 0x16 then .clsmChg
  else if type = 0x34 then .gprsSuspReq
  else if type = 0x27 then .pagResp
  else if type = 0x12 then .status
  else if type = 0x15 then .measRep
  else if type = 0x38 then .appInfo
  else if type = 0x32 then .ciphMCompl
  else if type = 0x2c then .handoCompl
  else if type = 0x28 then .handoFail
  else .unimplemented

/-- Where `gsm0408_dispatch` hands a message to. -/
inductive L3Kind where
  | cc | mm (type : MmMsg) | rr (type : RrMsg) | sms | ncSs | other
  deriving DecidableEq

/-- `GSM48_PDISC_*`, and the type where the protocol looks at it. -/
def Gsm48Msg.kind (msg : Gsm48Msg) : L3Kind :=
  let pdisc := msg.protoDiscr &&& 0x0f
  if pdisc = 0x03 then .cc
  else if pdisc = 0x05 then .mm (.ofType (msg.msgType &&& 0xbf))
  else if pdisc = 0x06 then .rr (.ofType msg.msgType)
  else if pdisc = 0x09 then .sms
  else if pdisc = 0x0b then .ncSs
  else .other

/-! ### The surroundings -/

/-- `GSM_AUTH_POLICY_*`. -/
inductive AuthPolicy where
  | closed | acceptAll | token | unknown

/-- Which paging request of the subscriber is pending on the BTS. -/
inductive PagingRequest where
  | subscrQueue | silentCall

/-- What is done to the transactions of the network, besides what a message on the connection does. -/
inductive TransEffect where
  | free (i : Nat)
  | mnccSetupReq (subscr : Nat) (conn : Option Nat) (callref : BitVec 32)
  | paged (i conn : Nat)
  | ccTxSetup (i : Nat)
  | sendSms (conn subscr : Nat)
  | rcvCc (conn subscr : Nat) (protoDiscr msgType : Octet)
  | rcvSms (conn subscr : Nat) (protoDiscr : Octet)

/-- The configuration and the answers of the databases at one step, and what the code of the transactions, the
    application and the SMS queue do there. -/
structure MscEnv where
  a5Encryption : Octet := 0
  cm2A5nSupport : Nat → Bool := fun _ => true
  authGetTuple : Nat → Octet → AuthAnswer := fun _ _ => .notAvail
  authPolicy : AuthPolicy := .acceptAll
  authorized : Nat → Bool := fun _ => false
  firstContact : Nat → Bool := fun _ => false
  subscrByImsi : List Octet → Option Nat := fun _ => none
  subscrByTmsi : BitVec 32 → Option Nat := fun _ => none
  createSubscriber : List Octet → Option Nat := fun _ => none
  sendMmInfo : Bool := false
  rejectCause : Octet := 0x0d
  paging : Option PagingRequest := none
  /-- The queue of channel requests of the subscriber is not empty. -/
  requested : Bool := true
  effects : List TransEffect := []

namespace MscConn

/-! ## Holding -/

/-- A transaction is on the connection. -/
def hasTrans (s : MscConn) : Bool := s.net.transList.entries.any fun e => e.2.conn == some thisConn

def emit (s : MscConn) (out : MscOut) : MscConn := { s with log := s.log ++ [out] }

/-- Something that does not exist was used. -/
def crash (s : MscConn) (use : NullUse) : MscConn := { s with fault := some use }

/-- What is left of a handler after a call, unless the program crashed there. -/
def proceed (s : MscConn) (f : MscConn → MscConn) : MscConn := if s.fault.isSome then s else f s

/-- `msc_release_connection`. -/
def mscReleaseConnection (s : MscConn) : MscConn :=
  -- skip when we are in release, and releasing of silent calls
  if s.inRelease || s.silentCall then s
  -- check if there is a pending operation
  else if s.locOperation.isSome || s.secOperation.isSome || s.anchOperation.isSome then s
  else if s.hasTrans then s
  else { s.emit .clear with inRelease := true, freed := true }

/-- `release_security_operation`. -/
def releaseSecurityOperation (s : MscConn) : MscConn :=
  if s.secOperation.isNone then s else { s with secOperation := none }.mscReleaseConnection

/-- `release_anchor`. -/
def releaseAnchor (s : MscConn) : MscConn := { s with anchOperation := none }

/-- `release_loc_updating_req`. -/
def releaseLocUpdatingReq (s : MscConn) : MscConn :=
  if s.locOperation.isNone then s else { s.releaseAnchor with locOperation := none }.mscReleaseConnection

end MscConn

/-- What becomes of the list of transactions. One that is still paged gets its connection from the paging response, and
    no request of the application is passed on to it before. -/
def TransEffect.apply (net : TransList Unit) : TransEffect → TransList Unit
  | .free i => net.free i
  | .mnccSetupReq subscr conn callref => net.mnccSetupReq () subscr conn callref
  | .paged i conn =>
    { net with
      transList := net.transList.modify i fun t =>
        if t.conn.isSome then t else { t with conn := some conn, pagingRequest := false } }
  | .ccTxSetup i => if ((net.transList.get? i).bind GsmTrans.conn).isSome then net.ccTxSetup i else net
  | .sendSms conn subscr => net.sendSms () conn subscr
  | .rcvCc conn subscr protoDiscr msgType => net.rcvCc () conn subscr protoDiscr msgType
  | .rcvSms conn subscr protoDiscr => net.rcvSms () conn subscr protoDiscr

namespace MscConn

/-- A transaction that was on the connection has ended. -/
def endedHere (before after : TransList Unit) : Bool :=
  before.transList.entries.any fun e => e.2.conn == some thisConn && (after.transList.get? e.1).isNone

/-- One effect; `trans_free` asks for the release of the connection the transaction was on. -/
def transEffect (s : MscConn) (e : TransEffect) : MscConn :=
  let s' := { s with net := e.apply s.net }
  if endedHere s.net s'.net then s'.mscReleaseConnection else s'

def transEffects (s : MscConn) (es : List TransEffect) : MscConn := es.foldl transEffect s

/-! ## Security -/

/-- `_gsm0408_authorize_sec_cb`, where all is good. -/
def acceptLocUpd (env : MscEnv) (s : MscConn) : MscConn :=
  match s.subscr with
  | none => s.crash .subscr
  | some subscr =>
    let s := s.emit (.locUpdAcc subscr)
    let s := if env.sendMmInfo then s.emit .mmInfo else s
    -- S_SUBSCR_ATTACHED might trigger further action like SMS delivery
    s.transEffects env.effects

/-- `_gsm0408_authorize_sec_cb`. -/
def authorizeSecCb (env : MscEnv) (s : MscConn) : GsmSecurity → MscConn
  | .authFailed => s.releaseLocUpdatingReq
  | .noavail | .succeeded => s.acceptLocUpd env

/-- `_gsm48_rx_mm_serv_req_sec_cb`. -/
def servReqSecCb (s : MscConn) : GsmSecurity → MscConn
  | .authFailed => s
  | .noavail => s.emit .cmServAck
  -- CIPHER MODE COMMAND is implicit CM SERV ACK
  | .succeeded => s

/-- `subscr_paging_dispatch`. -/
def subscrPagingDispatch (env : MscEnv) (s : MscConn) (succeeded : Bool) : MscConn :=
  if env.requested then (s.emit (.pagingResult succeeded)).transEffects env.effects else s

/-- `subscr_paging_sec_cb`. -/
def pagingSecCb (env : MscEnv) (s : MscConn) : GsmSecurity → MscConn
  | .authFailed => s.subscrPagingDispatch env false
  | .noavail | .succeeded => s.subscrPagingDispatch env true

/-- A callback is invoked, of an operation or without one. -/
def invoke (env : MscEnv) (s : MscConn) (ofOp : Bool) (cb : SecCallback) (event : GsmSecurity) : MscConn :=
  let s := s.emit (.secCallback ofOp cb event)
  match cb with
  | .authorize => s.authorizeSecCb env event
  | .servReq => s.servReqSecCb event
  | .paging => s.pagingSecCb env event

end MscConn

/-- `RSL_ENC_ALG_A5`. -/
def rslEncAlgA5 (x : Octet) : Octet := x + 1

namespace MscConn

/-- `gsm0808_cipher_mode`. -/
def gsm0808CipherMode (s : MscConn) (cipher : Octet) (kc : BitVec 64) : MscConn :=
  { s.emit (.cipherMode cipher kc) with encrAlgId := rslEncAlgA5 cipher }

/-- `gsm48_secure_channel`. -/
def gsm48SecureChannel (env : MscEnv) (s : MscConn) (keySeq : Octet) (cb : SecCallback) : MscConn :=
  if env.a5Encryption = 0 then s.invoke env false cb .noavail
  -- Requesting to secure an already secure channel
  else if rslEncAlgA5 0 < s.encrAlgId then s.invoke env false cb .succeeded
  else
    match s.subscr with
    | none => s.crash .subscr
    | some subscr =>
      if !env.cm2A5nSupport subscr then s.invoke env false cb .noavail
      else
        match env.authGetTuple subscr keySeq with
        | .notAvail => s.invoke env false cb .noavail
        | .doAuthThanCiph atuple =>
          -- can't have more than one pending !!!
          if s.secOperation.isSome then s
          else
            ({ s with secOperation := some ⟨cb, atuple⟩ }.emit (.opStarted true)).emit
              (.authReq atuple.keySeq atuple.rand)
        | .doCiph atuple =>
          if s.secOperation.isSome then s
          else
            ({ s with secOperation := some ⟨cb, atuple⟩ }.emit (.opStarted false)).gsm0808CipherMode
              env.a5Encryption atuple.kc

end MscConn

/-- `authorize_subscriber`. -/
def authorizeSubscriber (env : MscEnv) (loc : Option GsmLocUpdatingOperation) (subscriber : Option Nat) : Bool :=
  match subscriber with
  | none => false
  | some subscr =>
    -- Do not send accept yet as more information should arrive.
    if loc.any fun op => op.waitingForImsi || op.waitingForImei then false
    else
      match env.authPolicy with
      | .closed => env.authorized subscr
      | .token => env.authorized subscr || env.firstContact subscr
      | .acceptAll => true
      | .unknown => false

namespace MscConn

/-- `gsm0408_authorize`. -/
def gsm0408Authorize (env : MscEnv) (s : MscConn) : MscConn :=
  if authorizeSubscriber env s.locOperation s.subscr then
    match s.locOperation with
    | none => s.crash .locOperation
    | some op => s.gsm48SecureChannel env op.keySeq .authorize
  else s

/-! ## Handlers -/

/-- The connection gets its subscriber. -/
def name (s : MscConn) (how : NamedBy) (subscr : Nat) : MscConn :=
  { s with subscr := some subscr }.emit (.named how subscr)

/-- The subscriber with that IMSI, created if not found, unless the connection has one. -/
def nameByImsi (env : MscEnv) (s : MscConn) (digits : List Octet) : MscConn :=
  if s.subscr.isNone then
    match (env.subscrByImsi digits).or (env.createSubscriber digits) with
    | some subscr => s.name .idResp subscr
    | none => s
  else s

/-- The location updating operation changes, if there is one. -/
def mapLocOperation (s : MscConn) (f : GsmLocUpdatingOperation → GsmLocUpdatingOperation) : MscConn :=
  { s with locOperation := s.locOperation.map f }

/-- What `mm_rx_id_resp` takes from the identity. -/
def takeIdentity (env : MscEnv) (s : MscConn) : MobileIdentity → MscConn
  | .imsi digits => (s.nameByImsi env digits).mapLocOperation fun op => { op with waitingForImsi := false }
  | .imei | .imeisv => s.mapLocOperation fun op => { op with waitingForImei := false }
  | .tmsi _ | .other => s

/-- `mm_rx_id_resp`. -/
def mmRxIdResp (env : MscEnv) (s : MscConn) (msg : Gsm48Msg) : MscConn :=
  -- Check if we can let the mobile station enter
  (s.takeIdentity env msg.mi).gsm0408Authorize env

/-- The requests for identities `mm_rx_loc_upd_req` sends for the identity in the message, and whether the operation
    waits for the IMSI and the IMEI. -/
def identityRequests (env : MscEnv) : MobileIdentity → List IdType × Bool × Bool
  | .imsi _ => ([.imei], false, true)
  | .tmsi tmsi => if (env.subscrByTmsi tmsi).isNone then ([.imsi, .imei], true, true) else ([.imei], false, true)
  | .imei | .imeisv | .other => ([], false, false)

/-- The subscriber `mm_rx_loc_upd_req` finds. -/
def locUpdSubscr (env : MscEnv) : MobileIdentity → Option Nat
  | .imsi digits => (env.subscrByImsi digits).or (env.createSubscriber digits)
  | .tmsi tmsi => env.subscrByTmsi tmsi
  | .imei | .imeisv | .other => none

/-- The start of the operation in `mm_rx_loc_upd_req`: the identities are asked for, and the reject timer runs. -/
def startLocUpdating (env : MscEnv) (s : MscConn) (msg : Gsm48Msg) : MscConn :=
  let (requests, imsi, imei) := identityRequests env msg.mi
  { s with
    locOperation := some ⟨msg.keySeq, imsi, imei, true⟩
    log := s.log ++ requests.map .identityReq }

/-- `mm_rx_loc_upd_req`. -/
def mmRxLocUpdReq (env : MscEnv) (s : MscConn) (msg : Gsm48Msg) : MscConn :=
  -- just drop a second/concurrent location updating request
  if s.locOperation.isSome then s.emit (.locUpdRej .protocolError)
  else
    match locUpdSubscr env msg.mi with
    | none => s.startLocUpdating env msg
    | some subscr => ((s.startLocUpdating env msg).name .locUpdReq subscr).gsm0408Authorize env

/-- The connection gets its subscriber, unless it has one. -/
def nameIfNone (s : MscConn) (how : NamedBy) (subscr : Nat) : MscConn :=
  if s.subscr.isNone then s.name how subscr else s

/-- `gsm48_rx_mm_serv_req`. -/
def gsm48RxMmServReq (env : MscEnv) (s : MscConn) (msg : Gsm48Msg) : MscConn :=
  if msg.dataLen < 8 then s.emit (.cmServRej .incorrectMessage)
  else if msg.dataLen < msg.miLen + 6 then s.emit (.cmServRej .incorrectMessage)
  else
    match msg.mi with
    | .tmsi tmsi =>
      match env.subscrByTmsi tmsi with
      | none => s.emit (.cmServRej .imsiUnknownInHlr)
      | some subscr => (s.nameIfNone .servReq subscr).gsm48SecureChannel env msg.keySeq .servReq
    | .imsi _ | .imei | .imeisv | .other => s.emit (.cmServRej .incorrectMessage)

/-- `gsm48_rx_mm_auth_resp`. -/
def gsm48RxMmAuthResp (env : MscEnv) (s : MscConn) (msg : Gsm48Msg) : MscConn :=
  match s.secOperation with
  | none => s
  | some op =>
    -- Validate SRES
    if op.atuple.sres ≠ msg.sres then
      (s.invoke env true op.cb .authFailed).proceed fun s => (s.emit .authRej).releaseSecurityOperation
    else (s.emit .sresMatched).gsm0808CipherMode env.a5Encryption op.atuple.kc

/-- `gsm0408_rcv_mm`. -/
def gsm0408RcvMm (env : MscEnv) (s : MscConn) (msg : Gsm48Msg) : MmMsg → MscConn
  | .locUpdRequest => s.mmRxLocUpdReq env msg
  | .idResp => s.mmRxIdResp env msg
  | .cmServReq => s.gsm48RxMmServReq env msg
  | .tmsiReallCompl => s.releaseLocUpdatingReq
  | .authResp => s.gsm48RxMmAuthResp env msg
  | .status | .imsiDetachInd | .cmReestReq | .unknown => s

/-- The subscriber `gsm48_rx_rr_pag_resp` finds. -/
def pagRespSubscr (env : MscEnv) : MobileIdentity → Option Nat
  | .tmsi tmsi => env.subscrByTmsi tmsi
  | .imsi digits => env.subscrByImsi digits
  | .imei | .imeisv | .other => none

/-- `paging_request_stop` on the BTS of the response: `subscr_paging_cb` or `paging_cb_silent`. -/
def pagingRequestStop (env : MscEnv) (s : MscConn) (keySeq : Octet) : MscConn :=
  match env.paging with
  | none => s
  | some .subscrQueue => s.gsm48SecureChannel env keySeq .paging
  | some .silentCall => { s with silentCall := true }

/-- `gsm48_rx_rr_pag_resp` and `gsm48_handle_paging_resp`. -/
def gsm48RxRrPagResp (env : MscEnv) (s : MscConn) (msg : Gsm48Msg) : MscConn :=
  match pagRespSubscr env msg.mi with
  | none => s
  | some subscr =>
    -- Channel already owned by someone else?
    if s.subscr.any fun owner => owner ≠ subscr then s
    else (s.nameIfNone .pagResp subscr).pagingRequestStop env msg.keySeq

/-- `gsm48_rx_rr_app_info`. -/
def gsm48RxRrAppInfo (s : MscConn) : MscConn :=
  match s.subscr with
  | none => s.crash .subscr
  | some subscr => s.emit (.apduStored subscr)

/-- `gsm48_rx_rr_ciph_m_compl`. -/
def gsm48RxRrCiphMCompl (env : MscEnv) (s : MscConn) : MscConn :=
  match s.secOperation with
  | none => s
  | some op => (s.invoke env true op.cb .succeeded).proceed releaseSecurityOperation

/-- `gsm0408_rcv_rr`. -/
def gsm0408RcvRr (env : MscEnv) (s : MscConn) (msg : Gsm48Msg) : RrMsg → MscConn
  | .pagResp => s.gsm48RxRrPagResp env msg
  | .appInfo => s.gsm48RxRrAppInfo
  | .ciphMCompl => s.gsm48RxRrCiphMCompl env
  | .clsmChg | .gprsSuspReq | .status | .measRep | .handoCompl | .handoFail | .unimplemented => s

/-- The transaction a message belongs to goes on, wherever it is. -/
def routine (env : MscEnv) (s : MscConn) (subscr : Nat) (proto : TransProto) (transId : Nat) : MscConn :=
  match transFindById s.net.transList subscr proto transId with
  | none => s
  | some (_, t) => if t.conn.isNone then s.crash .transConn else s.transEffects env.effects

/-- A message of a phone makes its transaction, unless there is one already. -/
def makeTrans (s : MscConn) (subscr : Nat) (proto : TransProto) (transId : Nat) (net : TransList Unit) : MscConn :=
  if (transFindById s.net.transList subscr proto transId).isSome then s
  else { s with net := net }.emit (.transMade proto subscr)

/-- `gsm0408_rcv_cc`. -/
def gsm0408RcvCc (env : MscEnv) (s : MscConn) (msg : Gsm48Msg) : MscConn :=
  if msg.msgType &&& 0xbf &&& 0x80 ≠ 0 then s
  else
    match s.subscr with
    | none => s.crash .subscr
    | some subscr =>
      (s.makeTrans subscr .cc (ccTransId msg.protoDiscr)
        (s.net.rcvCc () thisConn subscr msg.protoDiscr msg.msgType)).routine env subscr .cc (ccTransId msg.protoDiscr)

/-- `gsm0411_rcv_sms`. -/
def gsm0411RcvSms (env : MscEnv) (s : MscConn) (msg : Gsm48Msg) : MscConn :=
  match s.subscr with
  | none => s
  | some subscr =>
    (s.makeTrans subscr .sms (smsTransId msg.protoDiscr)
      (s.net.rcvSms () thisConn subscr msg.protoDiscr)).routine env subscr .sms (smsTransId msg.protoDiscr)

/-- `USSD_TEXT_OWN_NUMBER`, that is `*#100#`. -/
def ussdTextOwnNumber : List Octet := [0x2a, 0x23, 0x31, 0x30, 0x30, 0x23]

/-- `strstr(USSD_TEXT_OWN_NUMBER, req.text) != NULL`: any part of the code asks for the number. -/
def asksOwnNumber (text : List Octet) : Bool := ussdTextOwnNumber.tails.any fun tail => text.isPrefixOf tail

/-- `handle_rcv_ussd` and `send_own_number`. -/
def handleRcvUssd (s : MscConn) (msg : Gsm48Msg) : MscConn :=
  -- Release-Complete
  if msg.text.head? = some 0xff then s
  else if asksOwnNumber msg.text then
    match s.subscr with
    | none => s.crash .subscr
    | some subscr => (s.emit (.ussdOwnNumber subscr)).mscReleaseConnection
  else (s.emit .ussdReject).mscReleaseConnection

/-- `silent_call_reroute`: on a silent call only two messages are handled. -/
def silentCallReroute (s : MscConn) (msg : Gsm48Msg) : Bool :=
  s.silentCall && !(msg.protoDiscr &&& 0x0f = 0x05 && (msg.msgType = 0x08 || msg.msgType = 0x24))

/-- `gsm0408_dispatch`. -/
def gsm0408Dispatch (env : MscEnv) (s : MscConn) (msg : Gsm48Msg) : MscConn :=
  if s.silentCallReroute msg then s
  else
    match msg.kind with
    | .cc => s.releaseAnchor.gsm0408RcvCc env msg
    | .mm type => s.gsm0408RcvMm env msg type
    | .rr type => s.gsm0408RcvRr env msg type
    | .sms => s.releaseAnchor.gsm0411RcvSms env msg
    | .ncSs => s.releaseAnchor.handleRcvUssd msg
    | .other => s

/-! ## Runs -/

/-- `gsm0408_clear_request` cancels the location update, and fails the security operation. -/
def cancelOperations (env : MscEnv) (s : MscConn) : MscConn :=
  let s := { s with inRelease := true }.releaseLocUpdatingReq
  -- We might need to cancel the paging response or such.
  match s.secOperation with
  | none => s
  | some op => s.invoke env true op.cb .authFailed

/-- All transactions of the connection are freed. -/
def endTransactions (s : MscConn) : MscConn :=
  s.transEffects ((s.net.transList.entries.filter fun e => e.2.conn == some thisConn).map fun e => .free e.1)

/-- `gsm0408_clear_request`; the BSC frees the connection afterwards. -/
def gsm0408ClearRequest (env : MscEnv) (s : MscConn) : MscConn :=
  (s.cancelOperations env).proceed fun s =>
    { s.releaseSecurityOperation.releaseAnchor.endTransactions with freed := true }

/-- `loc_upd_rej_cb`. -/
def locUpdRejCb (env : MscEnv) (s : MscConn) : MscConn :=
  (s.emit (.locUpdRej (.other env.rejectCause))).releaseLocUpdatingReq

/-- `anchor_timeout`. -/
def anchorTimeout (s : MscConn) : MscConn := s.releaseAnchor.mscReleaseConnection

/-- `gsm_silent_call_stop`. -/
def gsmSilentCallStop (s : MscConn) : MscConn :=
  if s.silentCall then { s with silentCall := false }.mscReleaseConnection else s

end MscConn

/-- A message of the phone, the two timers, a silent call stopped by the operator, the loss of the channel, and
    whatever happens to the transactions of the network. -/
inductive ConnEvent where
  | dtap (env : MscEnv) (msg : Gsm48Msg)
  | updatingTimer (env : MscEnv)
  | anchorTimer
  | silentCallStop
  | clearRequest (env : MscEnv)
  | transEffects (es : List TransEffect)

namespace MscConn

/-- One event; a timer expires if it is running. -/
def handle (s : MscConn) : ConnEvent → MscConn
  | .dtap env msg => s.gsm0408Dispatch env msg
  | .updatingTimer env => if s.locOperation.any GsmLocUpdatingOperation.updatingTimer then s.locUpdRejCb env else s
  | .anchorTimer => if s.anchOperation.any GsmAnchorOperation.timeout then s.anchorTimeout else s
  | .silentCallStop => s.gsmSilentCallStop
  | .clearRequest env => s.gsm0408ClearRequest env
  | .transEffects es => s.transEffects es

/-- Nothing happens any more on a connection that was freed, or when the program has crashed. -/
def step (s : MscConn) (ev : ConnEvent) : Option MscConn :=
  if s.freed || s.fault.isSome then none else some (s.handle ev)

theorem of_step {s s' : MscConn} {ev : ConnEvent} (h : s.step ev = some s') :
    s.freed = false ∧ s.fault = none ∧ s' = s.handle ev := by
  unfold step at h
  split at h
  · cases h
  next hgo =>
    obtain ⟨hfreed, hfault⟩ : s.freed = false ∧ s.fault = none := by simpa using hgo
    exact ⟨hfreed, hfault, (Option.some.inj h).symm⟩

end MscConn

/-- A transaction with an identifier has a connection. -/
def PlacedIds (net : TransList Unit) : Prop :=
  ∀ i t, net.transList.get? i = some t → t.transactionId ≠ unassignedId → t.conn.isSome = true

/-- `gsm0408_new_conn`: a new connection, with the anchor, in a network that has its transactions elsewhere. -/
def newConn (net : TransList Unit) : MscConn := { anchOperation := some ⟨true⟩, net := net }

/-- The runs of a connection. -/
def connSystem : System MscConn ConnEvent where
  init s := ∃ net, s = newConn net ∧ s.hasTrans = false ∧ PlacedIds net
  step s ev s' := s.step ev = some s'

end OpenBsc.Libmsc
