import OpenBsc.OsmoBscNat.Mgcp

/-!
# `OsmoBscNat.Sccp` — the table of SCCP references (`bsc_sccp.c`)

A connection has the reference its BSC chose (`real_ref`), the one the NAT shows the MSC instead
(`patched_ref`), and the one of the other end (`remote_ref`, zero before it is known). Messages from a BSC
are looked up by the BSC and its reference, or by the BSC and the remote one; messages from the MSC by the
patched one.
-/

namespace OpenBsc.OsmoBscNat

/-! ## Allocation -/

/-- The loop of `assign_src_local_reference`, with the reference it found and `last_ref` afterwards; it ends
    without one when it wrapped around twice. The counter is written in the low 24 bits. -/
def assignLoop (isFree : SccpSourceReference → Bool) (lastRef wrapped : Nat) :
    Option SccpSourceReference × Nat :=
  let reference := BitVec.ofNat 24 lastRef
  -- do not use the reserved word and wrap around
  if (lastRef + 1) % 2 ^ 24 = 0xffffff then
    if isFree reference then (some reference, 0)
    else if wrapped + 1 < 2 then assignLoop isFree 0 (wrapped + 1)
    else (none, 0)
  else
    if isFree reference then (some reference, lastRef + 1)
    else assignLoop isFree (lastRef + 1) wrapped
termination_by (2 - wrapped) * 2 ^ 24 + (0xfffffe + 2 ^ 24 - lastRef % 2 ^ 24) % 2 ^ 24
decreasing_by all_goals omega

namespace BscNat

/-- `sccp_ref_is_free`. -/
def sccpRefIsFree (nat : BscNat) (ref : SccpSourceReference) : Bool :=
  (nat.sccpConnections.find? fun conn => conn.patchedRef == ref).isNone

/-- `assign_src_local_reference`. -/
def assignSrcLocalReference (nat : BscNat) : Option SccpSourceReference × BscNat :=
  let (ref, lastRef) := assignLoop nat.sccpRefIsFree nat.lastRef 0
  (ref, { nat with lastRef := lastRef })

/-! ## Connections -/

/-- `llist_del` and `talloc_free`. -/
def removeCon (nat : BscNat) (i : Nat) : BscNat :=
  { nat with sccpConnections := nat.sccpConnections.remove i }

/-- `sccp_connection_destroy`. -/
def sccpConnectionDestroy (nat : BscNat) (i : Nat) : BscNat := (nat.bscMgcpDlcx i).removeCon i

/-- A connection as `create_sccp_src_ref` makes a new one: zeroed memory and four fields. -/
def newConnection (b : Nat) (src patched : SccpSourceReference) (now : Nat) : SccpConnections :=
  { bsc := b, realRef := src, patchedRef := patched, creationTime := now }

/-- The connection of the BSC connection `b` with this reference. -/
def findByRealRef (nat : BscNat) (b : Nat) (src : SccpSourceReference) : Option (Nat × SccpConnections) :=
  nat.sccpConnections.find? fun conn => conn.bsc == b && conn.realRef == src

/-- `create_sccp_src_ref`: the connection it returns. Some commercial BSCs like to reassign their SRC ref, so
    there may be one already; it keeps its place and all but three of its fields. -/
def createSccpSrcRef (nat : BscNat) (b : Nat) (src : SccpSourceReference) (now : Nat) :
    BscNat × Option Nat :=
  match nat.findByRealRef b src with
  | some (i, _) =>
    let nat := nat.modifyCon i fun conn => { conn with remoteRef := 0 }
    match nat.assignSrcLocalReference with
    | (none, nat) => (nat.sccpConnectionDestroy i, none)
    | (some patched, nat) =>
      let nat := nat.modifyCon i fun conn => { conn with patchedRef := patched, creationTime := now }
      (nat.bscMgcpDlcx i, some i)
  | none =>
    match nat.assignSrcLocalReference with
    | (none, nat) => (nat, none)
    | (some patched, nat) =>
      ({ nat with sccpConnections := nat.sccpConnections.alloc (newConnection b src patched now) },
        some nat.sccpConnections.next)

/-- `update_sccp_src_ref`. -/
def updateSccpSrcRef (nat : BscNat) (i : Nat) (src : SccpSourceReference) : BscNat :=
  nat.modifyCon i fun sccp => { sccp with remoteRef := src, hasRemoteRef := true }

/-- `remove_sccp_src_ref`: by the patched reference, whoever the connection belongs to. -/
def removeSccpSrcRef (nat : BscNat) (src : SccpSourceReference) : BscNat :=
  match nat.sccpConnections.find? fun conn => conn.patchedRef == src with
  | none => nat
  | some (i, _) => nat.sccpConnectionDestroy i

/-! ## Lookup -/

/-- `patch_sccp_src_ref_to_bsc`: the connection, and the message with the reference of the BSC in it. -/
def patchSccpSrcRefToBsc (nat : BscNat) (msg : SccpMsg) : Option (Nat × SccpConnections) × SccpMsg :=
  match msg.destLocalRef with
  | none => (none, msg)
  | some dest =>
    match nat.sccpConnections.find? fun conn => conn.patchedRef == dest with
    | none => (none, msg)
    | some (i, conn) => (some (i, conn), msg.setDest conn.realRef)

/-- `patch_sccp_src_ref_to_msc`: by the source reference if the message has one, else by the destination. -/
def patchSccpSrcRefToMsc (nat : BscNat) (b : Nat) (msg : SccpMsg) : Option (Nat × SccpConnections) × SccpMsg :=
  match msg.srcLocalRef, msg.destLocalRef with
  | some src, _ =>
    match nat.findByRealRef b src with
    | none => (none, msg)
    | some (i, conn) => (some (i, conn), msg.setSrc conn.patchedRef)
  | none, some dest =>
    (nat.sccpConnections.find? fun conn => conn.bsc == b && conn.remoteRef == dest, msg)
  | none, none => (none, msg)

end BscNat

end OpenBsc.OsmoBscNat
