import OpenBsc.Lib.Pool

/-!
# `Sgsn.Types` — the contexts of mobile stations in an SGSN (`gprs_sgsn.h`, `gprs_llc.h`)

An SGSN keeps an MM context for each mobile station and PDP contexts for its sessions; the LLC layer keeps an LLME for
each TLLI, and libgtp a PDP handle for each tunnel. All are records of a `Pool`, and a pointer from one to another is
the identity it had when it was set, so a pointer to a freed record designates none.

Elements of a message are as the parsers hand them over: digits of a mobile identity (`gsm48_mi_to_string`), routeing
areas, the PDP context status. Counters, log texts, capabilities of the station and the bodies of user data are left
out, and so are the LLEs of an LLME; what one does with a frame is in `Llc.Entity`.
-/

namespace OpenBsc.Sgsn

/-! ## Identities -/

/-- Digits as `gsm48_mi_to_string` writes them. -/
abbrev MiString := List Char

/-- `GSM_MI_TYPE_*`. -/
inductive MiType where
  | none | imsi | imei | imeisv | tmsi
  | other (type : Nat)
  deriving DecidableEq

/-- A mobile identity: its type, its digits, and the four octets after the first as a TMSI. -/
structure MobileId where
  type : MiType
  str : MiString := []
  tmsi : BitVec 32 := 0
  deriving DecidableEq

/-- `TLLI_*`. -/
inductive TlliType where
  | tlliLocal | tlliForeign | tlliRandom | tlliAuxiliary | tlliReserved
  deriving DecidableEq

/-- `gprs_tlli_type` and `gprs_tmsi2tlli` of libosmocore. -/
structure TlliCoding where
  gprsTlliType : BitVec 32 → TlliType
  gprsTmsi2tlli : BitVec 32 → TlliType → BitVec 32

/-- TS 23.003, section 2.6: the two highest bits tell a local and a foreign TLLI, and the local one of a P-TMSI has
    them set. -/
structure TlliCoding.Standard (coding : TlliCoding) : Prop where
  local_iff : ∀ tlli, coding.gprsTlliType tlli = .tlliLocal ↔ tlli &&& 0xc0000000 = 0xc0000000
  foreign_iff : ∀ tlli, coding.gprsTlliType tlli = .tlliForeign ↔ tlli &&& 0xc0000000 = 0x80000000
  tmsi2tlli_local : ∀ tmsi, coding.gprsTmsi2tlli tmsi .tlliLocal = tmsi ||| 0xc0000000

/-- The coding of TS 23.003. -/
def TlliCoding.ts23003 : TlliCoding where
  gprsTlliType tlli :=
    if tlli &&& 0xc0000000 = 0xc0000000 then .tlliLocal
    else if tlli &&& 0xc0000000 = 0x80000000 then .tlliForeign
    else if tlli &&& 0xf8000000 = 0x78000000 then .tlliRandom
    else if tlli &&& 0xf8000000 = 0x70000000 then .tlliAuxiliary
    else .tlliReserved
  gprsTmsi2tlli tmsi
    | .tlliLocal => tmsi ||| 0xc0000000
    | .tlliForeign => (tmsi ||| 0x80000000) &&& ~~~0x40000000
    | _ => 0

/-- The value that stands for no TLLI. -/
def tlliUnassigned : BitVec 32 := 0xffffffff

/-- `struct gprs_ra_id`. -/
structure GprsRaId where
  mcc : Nat
  mnc : Nat
  lac : Nat := 0
  rac : Nat := 0
  deriving DecidableEq

/-- What the SGSN is built with: the coding of TLLIs, and whether `ALLOW_ALL_IMSI` is defined. -/
structure SgsnBuild where
  coding : TlliCoding
  allowAllImsi : Bool

/-! ## Contexts -/

/-- `enum gprs_mm_state`. -/
inductive GprsMmState where
  | deregistered | commonProcInit | registeredNormal | registeredSuspended | deregisteredInit
  deriving DecidableEq

/-- `enum gprs_t3350_mode`. -/
inductive GprsT3350Mode where
  | att | rau | ptmsiReall

/-- The number of the timer that is started last. -/
inductive TimerNr where
  | none | t3350 | t3360 | t3370 | t3395
  deriving DecidableEq

/-- `struct sgsn_mm_ctx`; `timer` says whether the timer is pending. -/
structure MmCtx where
  imsi : MiString := []
  mmState : GprsMmState := .deregistered
  pTmsi : BitVec 32 := 0
  pTmsiOld : BitVec 32 := 0
  imei : MiString := []
  ra : GprsRaId
  llme : Option Nat := none
  tlli : BitVec 32
  tlliNew : BitVec 32 := 0
  nsei : BitVec 16 := 0
  bvci : BitVec 16 := 0
  timer : Bool := false
  T : TimerNr := .none
  numTExp : Nat := 0
  t3350Mode : GprsT3350Mode := .att
  t3370IdType : MiType := .none

/-- `enum pdp_ctx_state`. -/
inductive PdpCtxState where
  | none | crReq | crConf | inactPend

/-- `struct sgsn_pdp_ctx`; `timer` says whether the timer is pending. -/
structure PdpCtx where
  mm : Nat
  ggsn : Option Nat := none
  lib : Option Nat := none
  state : PdpCtxState := .none
  nsapi : Nat
  sapi : Nat := 0
  ti : Nat := 0
  timer : Bool := false
  T : TimerNr := .none
  numTExp : Nat := 0

/-- `struct sgsn_ggsn_ctx`. -/
structure GgsnCtx where
  id : Nat
  gtpVersion : Nat := 1
  remoteAddr : BitVec 32 := 0
  remoteRestartCtr : Option Nat := none

/-- `GTP_CREATE_PDP_REQ` and `GTP_DELETE_PDP_REQ`. -/
inductive GtpReqType where
  | createPdp | deletePdp
  deriving DecidableEq

/-- A request that libgtp has sent and will confirm, with the pointer it hands back then. -/
structure GtpReq where
  type : GtpReqType
  cbp : Nat
  deriving DecidableEq

/-- `struct pdp_t` of libgtp, with the requests that are out for it. -/
structure PdpT where
  priv : Option Nat
  version : Nat
  pending : List GtpReq := []

/-- The lists of `gprs_sgsn.c` and the PDP handles of libgtp. A context may be freed while its timer is pending; those
    timers are listed by the context they were in. -/
structure Gmm where
  mms : Pool MmCtx := .empty
  pdps : Pool PdpCtx := .empty
  ggsns : Pool GgsnCtx := .empty
  libs : Pool PdpT := .empty
  freedMmTimers : List Nat := []
  freedPdpTimers : List Nat := []

/-- `enum gprs_llc_llme_state`. -/
inductive GprsLlcLlmeState where
  | unassigned | assigned

/-- `struct gprs_llc_llme`. -/
structure Llme where
  state : GprsLlcLlmeState := .unassigned
  tlli : BitVec 32
  oldTlli : BitVec 32 := tlliUnassigned
  bvci : BitVec 16 := 0
  nsei : BitVec 16 := 0

/-! ## Messages -/

/-- `GMM_CAUSE_*`, those that are sent. -/
inductive GmmCause where
  | gprsNotallowed | msIdNotDerived | implDetached | semIncorrMsg | msgtNotexistNotimpl | protoErrUnspec
  deriving DecidableEq

/-- `GSM_CAUSE_*`, those that are sent. -/
inductive SmCause where
  | insuffRsrc | missingApn | unknownPdp | authFailed | actRejGgsn | servOptNotsupp | reqServOptNotsub | nsapiInUse
  | netFail | invMandInfo | msgtNotexistNotimpl | protoErrUnspec
  deriving DecidableEq

/-- `GTPCAUSE_*`. -/
inductive GtpCause where
  | accReq | noResources | notSupported | manIeIncorrect | manIeMissing | optIeIncorrect | sysFail
  | roamingRest | ptimsiMismatch | connSusp | authFail | userAuthFail | contextNotFound | addrOccupied | noMemory
  | relocFail | unknownManExtheader | missingApn | unknownPdp
  | other (cause : Nat)
  deriving DecidableEq

/-- `GPRS_UPD_T_*`. -/
inductive RaUpdType where
  | ra | raLa | raLaImsiAtt | periodic
  | other (type : Nat)
  deriving DecidableEq

/-- The elements of an attach request: the lengths that are checked, and the identity. -/
structure AttachReq where
  msncLen : Nat := 2
  miLen : Nat := 8
  msRaAccCapLen : Nat := 0
  mi : MobileId
  deriving DecidableEq

/-- The elements of a routeing area update request. -/
structure RaUpdReq where
  updType : RaUpdType := .ra
  oldRaId : GprsRaId
  msRaAccCapLen : Nat := 0
  pdpStatus : Option (BitVec 16) := none
  deriving DecidableEq

/-- `GSM48_MT_GMM_*`. -/
inductive GmmMsg where
  | raUpdReq (req : RaUpdReq)
  | attachReq (req : AttachReq)
  | idResp (mi : MobileId)
  | status
  | detachReq
  | attachCompl
  | raUpdCompl
  | ptmsiReallCompl
  | authCiphResp
  | other (msgType : Nat)
  deriving DecidableEq

/-- `GSM48_MT_GSM_*`. -/
inductive SmMsg where
  | actPdpReq (reqLlcSapi reqNsapi : Nat)
  | deactPdpReq
  | deactPdpAck
  | status
  | other (msgType : Nat)
  deriving DecidableEq

/-- A message by its protocol discriminator; one of session management has a transaction identifier. -/
inductive L3Msg where
  | gmm (msg : GmmMsg)
  | sm (transactionId : Nat) (msg : SmMsg)
  | other (pdisc : Nat)
  deriving DecidableEq

/-- The identifiers that go with a message through the layers. -/
structure MsgId where
  tlli : BitVec 32
  bvci : BitVec 16 := 0
  nsei : BitVec 16 := 0
  deriving DecidableEq

/-- What is sent to a mobile station. -/
inductive Downlink where
  | attachAck (raId : GprsRaId) (pTmsi : BitVec 32)
  | attachRej (cause : GmmCause)
  | detachAck
  | idReq (idType : MiType)
  | raUpdAck (raId : GprsRaId) (pTmsi : BitVec 32)
  | raUpdRej (cause : GmmCause)
  | gmmStatus (cause : GmmCause)
  | smStatus (cause : SmCause)
  | actPdpAcc (ti sapi : Nat)
  | actPdpRej (ti : Nat) (cause : SmCause)
  | deactPdpReq (ti : Nat) (cause : SmCause)
  | deactPdpAcc (ti : Nat)
  | snPdu (nsapi : Nat)
  deriving DecidableEq

/-- What is asked of the LLC layer: `gprs_llc_tx_ui` and `gprs_llgmm_assign`. -/
inductive LlReq where
  | txUi (id : MsgId) (sapi : Nat) (msg : Downlink)
  | assign (llme : Option Nat) (oldTlli newTlli : BitVec 32)
  deriving DecidableEq

end OpenBsc.Sgsn
