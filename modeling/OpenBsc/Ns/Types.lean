import OpenBsc.Lib.Octets
import OpenBsc.Lib.Pool

/-!
# `Ns.Types` — virtual connections of the Network Service (`gprs_ns.h`)

The Network Service carries the user's data between two ends over virtual connections (NS-VCs). Each has a state
of two bits, blocked and alive, and one timer in one of three modes. The NS-VCs are records of a `Pool`, found by
their address, their NSEI or their NSVCI; a search finds the one that was created last.

What an instance sends, hands to its user and signals is collected in `outbox`, oldest first. Counters, log texts
and the sockets are left out; `tlv_parse` hands over the elements of a PDU as `NsIes`. The data of the user is a
parameter.
-/

namespace OpenBsc.Ns

/-! ## Protocol -/

/-- `enum ns_cause`, as the octet that is sent. -/
abbrev NsCause := Octet

namespace NsCause

def omIntervention : NsCause := 0x01
def nsvcBlocked : NsCause := 0x03
def nsvcUnknown : NsCause := 0x04
def bvciUnknown : NsCause := 0x05
def pduIncompPstate : NsCause := 0x0a
def missingEssentIe : NsCause := 0x0d

end NsCause

/-- The elements of a PDU that are looked at: `NS_IE_CAUSE`, `NS_IE_VCI` and `NS_IE_NSEI`. -/
structure NsIes where
  cause : Option NsCause
  vci : Option (BitVec 16)
  nsei : Option (BitVec 16)
  deriving DecidableEq

/-- An NS PDU as `gprs_ns_rcvmsg` reads it; elements are missing altogether when `tlv_parse` fails. -/
inductive NsPdu (β : Type) where
  | unitdata (bvci : BitVec 16) (sdu : β)
  | reset (ies : Option NsIes)
  | resetAck
  | block (ies : Option NsIes)
  | blockAck
  | unblock
  | unblockAck
  | status (ies : Option NsIes)
  | alive
  | aliveAck
  | unknown (pduType : Octet)
  deriving DecidableEq

/-- What is sent. -/
inductive NsTx (β : Type) where
  | unitdata (bvci : BitVec 16) (sdu : β)
  | reset (cause : NsCause) (nsvci nsei : BitVec 16)
  | resetAck (nsvci nsei : BitVec 16)
  | block (cause : NsCause) (nsvci : BitVec 16)
  | blockAck
  | unblock
  | unblockAck
  | status (cause : NsCause) (vci : Option (BitVec 16)) (original : Option (NsPdu β))
  | alive
  | aliveAck
  deriving DecidableEq

/-- `S_NS_*`. -/
inductive NsSignal where
  | reset | block | unblock | aliveExp
  deriving DecidableEq

/-- `enum gprs_ns_ll`. -/
inductive GprsNsLl where
  | udp | e1 | frGre
  deriving DecidableEq

/-- `struct sockaddr_in`. -/
structure SockaddrIn where
  sinAddr : BitVec 32 := 0
  sinPort : BitVec 16 := 0
  deriving DecidableEq

/-- What comes out of an instance: a PDU to an address, data for the user, a signal. All name the NS-VC; the dummy
    for unknown addresses is `none`. -/
inductive NsOut (β : Type) where
  | tx (nsvc : Option Nat) (addr : SockaddrIn) (pdu : NsTx β)
  | unitdata (nsvc : Nat) (bvci : BitVec 16) (sdu : β)
  | signal (nsvc : Nat) (signal : NsSignal) (cause : NsCause)
  deriving DecidableEq

/-! ## State -/

/-- `NSE_S_BLOCKED` and `NSE_S_ALIVE`. -/
structure NseState where
  blocked : Bool := false
  alive : Bool := false
  deriving DecidableEq

/-- `enum nsvc_timer_mode`. -/
inductive NsvcTimerMode where
  | tnsTest | tnsAlive | tnsReset
  deriving DecidableEq

/-- `struct gprs_nsvc`; `timer` says whether the timer is pending. -/
structure GprsNsvc where
  nsei : BitVec 16 := 0
  nsvci : BitVec 16
  state : NseState
  remoteState : NseState := {}
  timer : Bool := false
  timerMode : NsvcTimerMode := .tnsTest
  aliveRetries : Nat := 0
  remoteEndIsSgsn : Bool := false
  persistent : Bool := false
  ll : GprsNsLl := .udp
  btsAddr : SockaddrIn := {}

/-- `struct gprs_ns_inst`; of the timeouts only the number of retries decides anything. -/
structure GprsNsInst (β : Type) where
  nsvcs : Pool GprsNsvc := .empty
  unknownNsvc : GprsNsvc
  aliveRetries : Nat := 10
  outbox : List (NsOut β) := []

end OpenBsc.Ns
