import OpenBsc.Llc.Entity
import OpenBsc.Sgsn.Types

/-!
# `Sgsn.Llgmm` — the LLMEs and their TLLIs (`gprs_llc.c`)

An LLME is looked up by its TLLI and by the old one while that is still assigned. A foreign TLLI is converted to the
local one for the look-up, but not when an LLME is made for it. The cipher is never switched on, so an assignment only
changes TLLIs; the LLEs of an LLME are left out.
-/

namespace OpenBsc.Sgsn

/-! ## Look-up -/

/-- If the TLLI is foreign, its local version. -/
def tlliForeign2local (build : SgsnBuild) (tlli : BitVec 32) : BitVec 32 :=
  if build.coding.gprsTlliType tlli = .tlliForeign then tlli ||| 0x40000000 else tlli

/-- The LLME is reached by a TLLI, in its local version. -/
def Llme.has (llme : Llme) (tlli : BitVec 32) : Bool := llme.tlli == tlli || llme.oldTlli == tlli

/-- `lle_by_tlli_sapi`: the LLME that the entity belongs to. -/
def lleByTlli (build : SgsnBuild) (llmes : Pool Llme) (tlli : BitVec 32) : Option (Nat × Llme) :=
  llmes.findLast? fun llme => llme.has (tlliForeign2local build tlli)

/-! ## Changes -/

/-- `llme_alloc`. -/
def llmeAlloc (llmes : Pool Llme) (tlli : BitVec 32) : Pool Llme := llmes.alloc { tlli := tlli }

/-- The (BVCI, NSEI) tuple of a message. -/
def Llme.route (id : MsgId) (llme : Llme) : Llme := { llme with bvci := id.bvci, nsei := id.nsei }

/-- `gprs_llc_tx_ui`: the entity is looked up or created. -/
def gprsLlcTxUi (build : SgsnBuild) (llmes : Pool Llme) (id : MsgId) : Pool Llme :=
  match lleByTlli build llmes id.tlli with
  | some (l, _) => llmes.modify l (Llme.route id)
  | none => (llmeAlloc llmes id.tlli).modify llmes.next (Llme.route id)

/-- TLLI Assignment, 8.3.1: only the new TLLI shall be accepted. -/
def Llme.assigned (newTlli : BitVec 32) (llme : Llme) : Llme :=
  { llme with
    oldTlli := tlliUnassigned
    tlli := newTlli
    state := if llme.oldTlli = tlliUnassigned then .assigned else llme.state }

/-- TLLI Change, 8.3.2: both TLLI Old and TLLI New are assigned. The old one is the one that the LLME has. -/
def Llme.changed (newTlli : BitVec 32) (llme : Llme) : Llme :=
  { llme with oldTlli := llme.tlli, tlli := newTlli, state := .assigned }

/-- `gprs_llgmm_assign`. -/
def gprsLlgmmAssign (llmes : Pool Llme) (llme : Option Nat) (oldTlli newTlli : BitVec 32) : Pool Llme :=
  match llme with
  | none => llmes
  | some l =>
    if oldTlli = tlliUnassigned then
      if newTlli = tlliUnassigned then llmes else llmes.modify l (Llme.assigned newTlli)
    else if newTlli = tlliUnassigned then llmes.remove l
    else llmes.modify l (Llme.changed newTlli)

/-- A request to the LLC layer. -/
def LlReq.perform (build : SgsnBuild) (llmes : Pool Llme) : LlReq → Pool Llme
  | .txUi id _ _ => gprsLlcTxUi build llmes id
  | .assign llme oldTlli newTlli => gprsLlgmmAssign llmes llme oldTlli newTlli

end OpenBsc.Sgsn
