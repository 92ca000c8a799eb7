import OpenBsc.Lib.Octets
import OpenBsc.Lib.Pairing
import OpenBsc.Lib.Transition

/-!
# `Libtrau.RtpProxy` — RTP sockets and whom they are bound together with (`rtp_proxy.c`)

A pair of sockets in proxy mode hands every packet that one of them receives to the other; a socket in upstream mode
decodes what it receives for the call control. The peer of a proxy and the network of an upstream share storage
(`RtpWord`), and the mode says how it is read.

A socket that is bound to another, or switched upstream, does not tell the peer it had. The pairs stay mutual, and
no socket is left with a reference to a freed one, exactly while nobody is left behind that way
(`KeepsPairs`, `rtpSocket_runs`).

Sockets are known by number; a freed number may be allocated again, as an address may. What the library's `read`
returned is part of the event. Binding, connecting and sending downstream do not touch the mode and are left out.
-/

namespace OpenBsc.Libtrau

open Transition Pairing

/-! ## The source -/

/-- `GSM_TCHF_FRAME`, `GSM_TCHF_FRAME_EFR`. -/
inductive GsmTchType where
  | tchfFrame | tchfFrameEfr

/-- `struct gsm_data_frame`. -/
structure GsmDataFrame where
  msgType : GsmTchType
  callref : BitVec 32
  data : List Octet

/-- The frame type `rtp_decode` finds for a payload type; a full rate frame has 33 octets. -/
def rtpPayloadType (payloadType payloadLen : Nat) : Option GsmTchType :=
  if payloadType = 3 then
    if payloadLen = 33 then some .tchfFrame else none
  else if payloadType = 97 then some .tchfFrameEfr
  else none

/-- `rtp_decode`; `none` is `-EINVAL`. The padding length is the last octet of the payload, or the octet before an
    empty one. -/
def rtpDecode (msg : List Octet) (callref : BitVec 32) : Option GsmDataFrame := do
  let flags := octetAt msg 0
  if msg.length < 12 then none else
  if flags / 64 ≠ 2 then none else
  let payload := 12 + flags % 16 * 4
  if msg.length < payload then none else
  let payloadLen := msg.length - payload
  let xLen := if flags / 16 % 2 = 1 then (octetAt msg (payload + 2) * 256 + octetAt msg (payload + 3)) * 4 + 4 else 0
  if flags / 16 % 2 = 1 ∧ (payloadLen < 4 ∨ payloadLen < xLen) then none else
  let payload := payload + xLen
  let payloadLen := payloadLen - xLen
  let padding := if flags / 32 % 2 = 1 then octetAt msg (payload + payloadLen - 1) else 0
  if payloadLen < padding then none else
  let payloadLen := payloadLen - padding
  let msgType ← rtpPayloadType (octetAt msg 1 % 128) payloadLen
  some ⟨msgType, callref, (msg.drop payload).take payloadLen⟩

/-- `enum rtp_rx_action`. -/
inductive RtpRxAction where
  | none | proxy | recvUpstream
  deriving DecidableEq

/-- The storage `proxy.other_sock` and `receive.net` share: a null pointer, a socket or a network. -/
inductive RtpWord where
  | null
  | sock (id : Nat)
  | net (n : Nat)
  deriving DecidableEq

/-- `RTP_PRIV_RTP`, `RTP_PRIV_RTCP`. -/
inductive RtpBfdPriv where
  | rtp | rtcp
  deriving DecidableEq

/-- `struct rtp_sub_socket`: the queue, and whether its file descriptor is watched for reading and writing. -/
structure RtpSubSocket where
  txQueue : List (List Octet) := []
  whenRead : Bool := true
  whenWrite : Bool := false

/-- `struct rtp_socket`. -/
structure RtpSocket where
  rtp : RtpSubSocket := {}
  rtcp : RtpSubSocket := {}
  rxAction : RtpRxAction := .none
  word : RtpWord := .null
  callref : BitVec 32 := 0

namespace RtpSocket

def sub (rs : RtpSocket) : RtpBfdPriv → RtpSubSocket
  | .rtp => rs.rtp
  | .rtcp => rs.rtcp

def modifySub (rs : RtpSocket) (priv : RtpBfdPriv) (f : RtpSubSocket → RtpSubSocket) : RtpSocket :=
  match priv with
  | .rtp => { rs with rtp := f rs.rtp }
  | .rtcp => { rs with rtcp := f rs.rtcp }

/-- The socket a socket in proxy mode hands its packets to. -/
def peer (rs : RtpSocket) : Option Nat :=
  match rs.rxAction, rs.word with
  | .proxy, .sock p => some p
  | _, _ => none

end RtpSocket

/-- The sockets that are not freed, and the frames handed to the call control of a network, oldest first. -/
structure RtpNet where
  sockets : Nat → Option RtpSocket := fun _ => none
  mncc : List (Nat × GsmDataFrame) := []

namespace RtpNet

/-- The socket `id` is now `rs`; with `none` it is freed. -/
def put (net : RtpNet) (id : Nat) (rs : Option RtpSocket) : RtpNet :=
  { net with sockets := fun k => if k = id then rs else net.sockets k }

/-- The socket `id` is changed by `f`; `none` where it is freed memory. -/
def modify (net : RtpNet) (id : Nat) (f : RtpSocket → RtpSocket) : Option RtpNet :=
  (net.sockets id).map fun rs => net.put id (some (f rs))

/-- `rtp_socket_create`, with the address it got. -/
def rtpSocketCreate (net : RtpNet) (id : Nat) : RtpNet := net.put id (some {})

/-- `rtp_socket_proxy`. -/
def rtpSocketProxy (net : RtpNet) (this other : Nat) : Option RtpNet :=
  (net.modify this fun rs => { rs with rxAction := .proxy, word := .sock other }).bind fun net =>
    net.modify other fun rs => { rs with rxAction := .proxy, word := .sock this }

/-- `rtp_socket_upstream`; the network may be a null pointer. -/
def rtpSocketUpstream (net : RtpNet) (this : Nat) (n : Option Nat) (callref : BitVec 32) : Option RtpNet :=
  net.modify this fun rs =>
    if callref ≠ 0 then
      { rs with
        rxAction := .recvUpstream
        word := n.elim .null .net
        callref := callref }
    else { rs with rxAction := .none }

/-- `rtp_socket_free`: the reference of the peer is cleared, whatever mode the peer is in. -/
def rtpSocketFree (net : RtpNet) (id : Nat) : Option RtpNet := do
  let rs ← net.sockets id
  let net ← match rs.peer with
    | some p => net.modify p fun other => { other with word := .null }
    | none => some net
  some (net.put id none)

/-- `msgb_enqueue` on a sub-socket, which is now watched for writing. -/
def enqueue (net : RtpNet) (id : Nat) (priv : RtpBfdPriv) (msg : List Octet) : Option RtpNet :=
  net.modify id fun rs => rs.modifySub priv fun rss =>
    { rss with txQueue := rss.txQueue ++ [msg], whenWrite := true }

/-- `rtp_socket_read`, where `read` returned the packet or nothing. The CNAME of RTCP is not mangled: nothing ever
    sets `mangle_rtcp_cname`, so that `rtcp_mangle` returns at once and RTCP is not sent upstream. -/
def rtpSocketRead (net : RtpNet) (id : Nat) (priv : RtpBfdPriv) (packet : Option (List Octet)) : Option RtpNet := do
  let rs ← net.sockets id
  match packet with
  | none => net.modify id fun rs => rs.modifySub priv fun rss => { rss with whenRead := false }
  | some msg =>
    match rs.rxAction with
    | .proxy =>
      match rs.word with
      | .null => some net
      | .sock other => net.enqueue other priv msg
      | .net _ => none
    | .recvUpstream =>
      match rs.word, priv with
      | .net n, .rtp =>
        match if rs.callref = 0 then none else rtpDecode msg rs.callref with
        | some frame => some { net with mncc := net.mncc ++ [(n, frame)] }
        | none => some net
      | .sock _, _ => none
      | _, _ => some net
    | .none => some net

/-- `rtp_socket_write`; whether `write` sent the packet makes no difference to the queue. -/
def rtpSocketWrite (net : RtpNet) (id : Nat) (priv : RtpBfdPriv) : Option RtpNet :=
  net.modify id fun rs => rs.modifySub priv fun rss =>
    match rss.txQueue with
    | [] => { rss with whenWrite := false }
    | _ :: rest => { rss with txQueue := rest }

end RtpNet

/-- The calls of the other files, and what the select loop does. -/
inductive RtpEvent where
  | create (id : Nat)
  | proxy (this other : Nat)
  | upstream (this : Nat) (n : Option Nat) (callref : BitVec 32)
  | free (id : Nat)
  | read (id : Nat) (priv : RtpBfdPriv) (packet : Option (List Octet))
  | write (id : Nat) (priv : RtpBfdPriv)

namespace RtpNet

def Live (net : RtpNet) (id : Nat) : Prop := (net.sockets id).isSome = true

/-- The sockets an event is about are not freed, and a new one has an address that is not in use. -/
def Applies (net : RtpNet) : RtpEvent → Prop
  | .create id => ¬net.Live id
  | .proxy this other => net.Live this ∧ net.Live other
  | .upstream this _ _ => net.Live this
  | .free id => net.Live id
  | .read id _ _ => net.Live id
  | .write id _ => net.Live id

/-- `none` where freed memory would be used. -/
def step (net : RtpNet) : RtpEvent → Option RtpNet
  | .create id => some (net.rtpSocketCreate id)
  | .proxy this other => net.rtpSocketProxy this other
  | .upstream this n callref => net.rtpSocketUpstream this n callref
  | .free id => net.rtpSocketFree id
  | .read id priv packet => net.rtpSocketRead id priv packet
  | .write id priv => net.rtpSocketWrite id priv

end RtpNet

def rtpSystem : System RtpNet RtpEvent where
  init net := net = {}
  step net ev net' := net.Applies ev ∧ net.step ev = some net'

end OpenBsc.Libtrau
