import OpenBsc.Lib.Transition
import OpenBsc.Libbsc.ChanAlloc

/-!
# `Libbsc.Rll` — radio links that are asked for, and the messages that wait for them (`bsc_rll.c`, `bsc_api.c`)

A message for a SAPI that is not up waits in a request for the link. The requests of all channels stand in one list, the
newest first; an indication of the BTS completes the first one of its link, and each is completed by its timer or when
its channel is freed. The connection pointers of the channels, which other procedures set, change in any way.
-/

namespace OpenBsc.Libbsc

open Transition

/-! ## Data -/

/-- `enum gsm_lchan_sapi`. -/
inductive LchanSapi where
  | unused | ms | net
  deriving DecidableEq

/-- `enum bsc_rllr_ind`. -/
inductive BscRllrInd where
  | estConf | relInd | errInd | timeout
  deriving DecidableEq

/-- `struct gsm_lchan`, as far as links need it. -/
structure RllLchan where
  type : GsmChan := .none
  sapis : Vector LchanSapi 8 := .replicate 8 .unused
  conn : Option Nat := none

/-- `struct bsc_rll_req`. Its timer runs as long as it is in the list. The callback is `rll_ind_cb` with a message,
    whose `OBSC_LINKID_CB` is `msg`, or that of somebody else. -/
structure BscRllReq where
  id : Nat
  lchan : Nat
  linkId : Octet
  msg : Option Octet

/-- What happens: a message waits in a request, and it is sent, rejected or freed; a message is sent at once; the
    callback of a request is invoked. -/
inductive RllOut where
  | queued (id lchan : Nat) (linkId : Octet)
  | callback (id : Nat) (ind : BscRllrInd)
  | data (id lchan : Nat) (linkId : Octet)
  | reject (id : Nat) (linkId : Octet)
  | freed (id : Nat)
  | direct (lchan : Nat) (linkId : Octet)
  deriving DecidableEq

/-- The channels, `conn->lchan` of each connection, and `bsc_rll_reqs`. -/
structure RllNet where
  lchans : List RllLchan
  connLchan : Nat → Option Nat := fun _ => none
  reqs : List BscRllReq := []
  next : Nat := 0
  outs : List RllOut := []

/-- `LINKID_MASK`: only C1, C2 and SAPI are compared. -/
def linkidMask : Octet := 0xC7

/-- Two link identifiers are those of one link. -/
def sameLink (a b : Octet) : Bool := a &&& linkidMask == b &&& linkidMask

/-- The SAPI of a link identifier. -/
def sapiOf (linkId : Octet) : Fin 8 := lowBits linkId

/-- The channel is a TCH. -/
def RllLchan.isTch (lchan : RllLchan) : Bool := lchan.type == .tchF || lchan.type == .tchH

namespace RllNet

def emit (net : RllNet) (out : RllOut) : RllNet := { net with outs := net.outs ++ [out] }

def modifyLchan (net : RllNet) (l : Nat) (f : RllLchan → RllLchan) : RllNet :=
  { net with lchans := net.lchans.modify l f }

def setSapi (net : RllNet) (l : Nat) (linkId : Octet) (sapi : LchanSapi) : RllNet :=
  net.modifyLchan l fun lchan => { lchan with sapis := lchan.sapis.set (sapiOf linkId) sapi }

/-- `lchan->conn`. -/
def connOf (net : RllNet) (l : Nat) : Option Nat := net.lchans[l]?.bind RllLchan.conn

/-! ## Messages that waited -/

/-- `rll_ind_cb`. -/
def rllIndCb (net : RllNet) (r : BscRllReq) (msgLink : Octet) (ind : BscRllrInd) : RllNet :=
  match net.connOf r.lchan with
  -- the timer can fire after a release and before the channel is freed
  | none => net
  | some _ =>
    match ind with
    | .estConf => net.emit (.data r.id r.lchan msgLink)
    | .relInd | .errInd | .timeout => (net.emit (.reject r.id msgLink)).emit (.freed r.id)

/-! ## Requests -/

/-- `complete_rllr`. -/
def completeRllr (net : RllNet) (r : BscRllReq) (ind : BscRllrInd) : RllNet :=
  let removed : RllNet := { net with reqs := net.reqs.filter fun q => q.id ≠ r.id }
  let net := removed.emit (.callback r.id ind)
  match r.msg with
  | none => net
  | some msgLink => net.rllIndCb r msgLink ind

/-- The link identifier that `rll_establish` asks for: that of the SACCH on a TCH. -/
def rllLinkId (lchan : RllLchan) (sapi : Octet) : Octet := if lchan.isTch ∧ sapi ≠ 0 then sapi ||| 0x40 else sapi

/-- `rll_establish`, up to sending the request. -/
def rllEstablish (net : RllNet) (l : Nat) (lchan : RllLchan) (sapi : Octet) (msg : Option Octet) : RllNet :=
  { net with reqs := ⟨net.next, l, rllLinkId lchan sapi, msg⟩ :: net.reqs, next := net.next + 1 }

/-- The request that an indication is for. -/
def findReq (net : RllNet) (l : Nat) (linkId : Octet) : Option BscRllReq :=
  net.reqs.find? fun r => r.lchan = l ∧ sameLink r.linkId linkId

/-- `rll_indication`. -/
def rllIndication (net : RllNet) (l : Nat) (linkId : Octet) (ind : BscRllrInd) : RllNet :=
  match net.findReq l linkId with
  | none => net
  | some r => net.completeRllr r ind

/-- `lchan_free`: the connection gives the channel up (`S_LCHAN_UNEXPECTED_RELEASE`), then the requests of the channel
    are completed (`S_CHALLOC_FREED`). -/
def lchanFreed (net : RllNet) (l : Nat) : RllNet :=
  let net := net.modifyLchan l fun lchan => { lchan with type := .none, conn := none }
  (net.reqs.filter fun r => r.lchan = l).foldl (fun net r => net.completeRllr r .errInd) net

/-! ## Messages -/

/-- `link_id` of the message, which goes to the SACCH of a TCH where that is allowed. -/
def dtapLinkId (lchan : RllLchan) (linkId : Octet) (allowSach : Bool) : Octet :=
  if allowSach ∧ linkId &&& 7 ≠ 0 ∧ lchan.isTch then linkId ||| 0x40 else linkId

/-- `gsm0808_submit_dtap`; `sent` is whether `rsl_establish_request` succeeds. -/
def gsm0808SubmitDtap (net : RllNet) (c : Nat) (linkId : Octet) (allowSach sent : Bool) : RllNet :=
  match net.connLchan c with
  | none => net
  | some l =>
    match net.lchans[l]? with
    | none => net
    | some lchan =>
      let msgLink := dtapLinkId lchan linkId allowSach
      if lchan.sapis[sapiOf linkId] = .unused then
        let sapi := linkId &&& 7
        let queued := (net.emit (.queued net.next l (rllLinkId lchan sapi))).rllEstablish l lchan sapi (some msgLink)
        if sent then queued else (queued.emit (.freed net.next)).emit (.reject net.next msgLink)
      else net.emit (.direct l msgLink)

end RllNet

/-! ## Runs -/

/-- What happens: a pointer between a channel and a connection is set; a channel is allocated or freed; a message is
    submitted, or somebody else asks for a link; the BTS says something about a link; a timer fires. -/
inductive RllEvent where
  | setConn (l : Nat) (c? : Option Nat)
  | setLchan (c : Nat) (l? : Option Nat)
  | alloc (l : Nat) (type : GsmChan)
  | freed (l : Nat)
  | submit (c : Nat) (linkId : Octet) (allowSach sent : Bool)
  | establish (l : Nat) (sapi : Octet)
  | estInd (l : Nat) (linkId : Octet)
  | estConf (l : Nat) (linkId : Octet)
  | relInd (l : Nat) (linkId : Octet)
  | relConf (l : Nat) (linkId : Octet)
  | errInd (l : Nat) (linkId : Octet)
  | timeout (id : Nat)

namespace RllNet

/-- One event. -/
def step (net : RllNet) : RllEvent → Option RllNet
  | .setConn l c? => some (net.modifyLchan l fun lchan => { lchan with conn := c? })
  | .setLchan c l? => some { net with connLchan := fun c' => if c' = c then l? else net.connLchan c' }
  | .alloc l type => some (net.modifyLchan l fun lchan => { lchan with type := type, sapis := .replicate 8 .unused })
  | .freed l => some (net.lchanFreed l)
  | .submit c linkId allowSach sent => some (net.gsm0808SubmitDtap c linkId allowSach sent)
  | .establish l sapi => net.lchans[l]?.map fun lchan => net.rllEstablish l lchan sapi none
  | .estInd l linkId => some (net.setSapi l linkId .ms)
  | .estConf l linkId => some ((net.setSapi l linkId .net).rllIndication l linkId .estConf)
  | .relInd l linkId => some ((net.setSapi l linkId .unused).rllIndication l linkId .relInd)
  | .relConf l linkId => some (net.setSapi l linkId .unused)
  | .errInd l linkId => some (net.rllIndication l linkId .errInd)
  | .timeout id => (net.reqs.find? fun r => r.id = id).map fun r => net.completeRllr r .timeout

end RllNet

/-- The links of some channels, with no request at first. -/
def rllSystem : System RllNet RllEvent where
  init net := ∃ lchans, net = { lchans := lchans }
  step net ev net' := net.step ev = some net'

end OpenBsc.Libbsc
