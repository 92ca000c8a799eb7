import OpenBsc.Sgsn.Types

/-!
# `Sgsn.Contexts` — looking contexts up, making and freeing them (`gprs_sgsn.c`)

Every list is searched from the context that was added last. A freed context takes its PDP contexts along, but no
timer is stopped, and no handle of libgtp learns that its PDP context is gone. What is done with a context that is
freed has no effect here.
-/

namespace OpenBsc.Sgsn

/-! ## MM contexts -/

/-- See 03.02, chapter 2.6. -/
def tlliForeign (tlli : BitVec 32) : BitVec 32 := (tlli ||| 0x80000000) &&& ~~~0x40000000

/-- The context found by the TLLI of one of its P-TMSIs. -/
def MmCtx.hasLocalTlli (ctx : MmCtx) (tlli : BitVec 32) : Bool :=
  (ctx.pTmsi ||| 0xc0000000) == tlli || (ctx.pTmsiOld != 0 && (ctx.pTmsiOld ||| 0xc0000000) == tlli)

/-- Look-up by TLLI and routeing area, with the contexts afterwards. -/
def sgsnMmCtxByTlli (build : SgsnBuild) (mms : Pool MmCtx) (tlli : BitVec 32) (raid : GprsRaId) :
    Pool MmCtx × Option Nat :=
  match mms.findLast? fun ctx => tlli == ctx.tlli && raid == ctx.ra with
  | some (i, _) => (mms, some i)
  | none =>
    match build.coding.gprsTlliType tlli with
    | .tlliLocal =>
      match mms.findLast? fun ctx => ctx.hasLocalTlli tlli with
      | some (i, _) => (mms.modify i fun ctx => { ctx with tlli := tlli }, some i)
      | none => (mms, none)
    | .tlliForeign =>
      match mms.findLast? fun ctx => tlli == tlliForeign ctx.tlli && raid == ctx.ra with
      | some (i, _) => (mms, some i)
      | none => (mms, none)
    | _ => (mms, none)

/-- What is done to the context that a look-up has found. -/
def onFound (mms : Pool MmCtx) (found : Option Nat) (f : MmCtx → MmCtx) : Pool MmCtx :=
  match found with
  | none => mms
  | some i => mms.modify i f

def sgsnMmCtxByPtmsi (mms : Pool MmCtx) (pTmsi : BitVec 32) : Option (Nat × MmCtx) :=
  mms.findLast? fun ctx => pTmsi == ctx.pTmsi || (ctx.pTmsiOld != 0 && ctx.pTmsiOld == pTmsi)

def sgsnMmCtxByImsi (mms : Pool MmCtx) (imsi : MiString) : Option (Nat × MmCtx) :=
  mms.findLast? fun ctx => imsi == ctx.imsi

/-- What is left of a string in an array of `GSM_IMSI_LENGTH` characters. -/
def strncpyImsi (str : MiString) : MiString := str.take 17

/-- A number is the P-TMSI of a context. -/
def ptmsiInUse (mms : Pool MmCtx) (pTmsi : BitVec 32) : Bool := mms.entries.any fun e => e.2.pTmsi == pTmsi

/-- The first number of `rand` that is no P-TMSI; `none` while there is none. -/
def sgsnAllocPtmsi (mms : Pool MmCtx) (rands : List (BitVec 32)) : Option (BitVec 32) :=
  rands.find? fun pTmsi => !ptmsiInUse mms pTmsi

/-! ## PDP contexts -/

namespace Gmm

/-- The PDP contexts of an MM context, `pdp_list`. -/
def pdpList (g : Gmm) (mm : Nat) : List Nat :=
  (g.pdps.entries.reverse.filter fun e => e.2.mm == mm).map Prod.fst

def sgsnPdpCtxByNsapi (g : Gmm) (mm nsapi : Nat) : Option (Nat × PdpCtx) :=
  g.pdps.findLast? fun pdp => pdp.mm == mm && pdp.nsapi == nsapi

def sgsnPdpCtxByTid (g : Gmm) (mm tid : Nat) : Option (Nat × PdpCtx) :=
  g.pdps.findLast? fun pdp => pdp.mm == mm && pdp.ti == tid

def sgsnPdpCtxFree (g : Gmm) (p : Nat) : Gmm :=
  match g.pdps.get? p with
  | none => g
  | some pdp =>
    { g with
      pdps := g.pdps.remove p
      freedPdpTimers := if pdp.timer then p :: g.freedPdpTimers else g.freedPdpTimers }

def sgsnMmCtxFree (g : Gmm) (i : Nat) : Gmm :=
  match g.mms.get? i with
  | none => g
  | some ctx =>
    (g.pdpList i).foldl sgsnPdpCtxFree
      { g with
        mms := g.mms.remove i
        freedMmTimers := if ctx.timer then i :: g.freedMmTimers else g.freedMmTimers }

/-- `sgsn_delete_pdp_ctx`: a request to delete the tunnel is out. -/
def sgsnDeletePdpCtx (g : Gmm) (p : Nat) : Gmm :=
  match (g.pdps.get? p).bind PdpCtx.lib with
  | none => g
  | some h =>
    { g with libs := g.libs.modify h fun lib => { lib with pending := lib.pending ++ [⟨.deletePdp, p⟩] } }

/-- A function of an MM context, with what it asks of the LLC layer. -/
def onMm (g : Gmm) (i : Nat) (f : MmCtx → MmCtx × List LlReq) : Gmm × List LlReq :=
  match g.mms.get? i with
  | none => (g, [])
  | some ctx => ({ g with mms := g.mms.modify i fun ctx => (f ctx).1 }, (f ctx).2)

end Gmm

/-! ## Sending -/

/-- `GPRS_SAPI_GMM`. -/
def sapiGmm : Nat := 1

/-- `mmctx2msgid`. -/
def MmCtx.msgId (ctx : MmCtx) : MsgId := ⟨ctx.tlli, ctx.bvci, ctx.nsei⟩

/-- A message for a context. -/
def MmCtx.tx (ctx : MmCtx) (msg : Downlink) : LlReq := .txUi ctx.msgId sapiGmm msg

/-- A message to where an old one came from. -/
def txOldmsg (id : MsgId) (msg : Downlink) : LlReq := .txUi id sapiGmm msg

/-- `msgid2mmctx`. -/
def MmCtx.msgid2mmctx (ctx : MmCtx) (id : MsgId) : MmCtx := { ctx with bvci := id.bvci, nsei := id.nsei }

end OpenBsc.Sgsn
