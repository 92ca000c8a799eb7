import OpenBsc.OsmoBscNat.Access
import OpenBsc.OsmoBscNat.Dt1
import OpenBsc.OsmoBscNat.Ussd

/-!
# `OsmoBscNat.Diversion` — how a connection of the USSD provider ends (`bsc_nat.c`, `bsc_ussd.c`)

A connection that is diverted to the provider has three ends, and each of them may release it. A CLEAR COMMAND of the
MSC is ignored; its RLSD should be too, but `forward_sccp_to_bts` looks at `con_local` before it has looked the
connection up, so the RLSD goes to the BSC and the MSC gets no answer. An RLSD of the BSC is answered by nobody.

If the MSC only releases what has ended, and the BSC waits to be released, then every end is released once.
-/

namespace OpenBsc.OsmoBscNat

open Transition BscNat SccpConnections Pool UssdNat SccpMsg

/-! ## Records -/

/-- An RLSD. -/
structure Rlsd where
  dest : SccpSourceReference
  src : SccpSourceReference
  data : Option (List Octet)

def Rlsd.msg (rlsd : Rlsd) : SccpMsg := .rlsd rlsd.dest rlsd.src rlsd.data

/-- The answer to it, with the references exchanged. -/
def Rlsd.answer (rlsd : Rlsd) : SccpMsg := .rlc rlsd.src rlsd.dest

/-- The references of a message that ends a connection: that of its sender, and that of its receiver. -/
def SccpMsg.endRefs : SccpMsg → Option (SccpSourceReference × SccpSourceReference)
  | .rlsd dest src _ | .rlc dest src => some (src, dest)
  | _ => none

/-- The RLSD of the MSC that arrives. -/
def UssdEvent.mscRlsd? : UssdEvent → Option Rlsd
  | .nat (.fromMsc (.rlsd dest src data)) => some ⟨dest, src, data⟩
  | _ => none

/-- The RLSD of a BSC that arrives. -/
def UssdEvent.bscRlsd? : UssdEvent → Option (Nat × Rlsd)
  | .nat (.fromBsc b _ (.sccp (.rlsd dest src data))) => some (b, ⟨dest, src, data⟩)
  | _ => none

/-- A connection that was diverted to the provider. -/
def SccpConnections.diverted (con : SccpConnections) : Bool := con.conLocal = .ussd

/-- The diverted connection with this reference towards the MSC. -/
def BscNat.divertedBy (nat : BscNat) (ref : SccpSourceReference) : Option (Nat × SccpConnections) :=
  nat.sccpConnections.find? fun con => con.diverted && con.patchedRef == ref

/-- What happened to diverted connections: which there were, and the references the MSC knows them by; the connections
    that were freed, of any kind; the RLSDs of the MSC for diverted ones, and what the NAT wrote to it to end them. -/
structure Diversions where
  ids : List Nat := []
  refs : List (SccpSourceReference × SccpSourceReference) := []
  freed : List Nat := []
  released : List Rlsd := []
  told : List NatOut := []

/-- The RLSD is for a diverted connection: for one that is left, or for one that has ended, if no other connection has
    its references by now. -/
def Diversions.names (d : Diversions) (nat : BscNat) (rlsd : Rlsd) : Bool :=
  (nat.divertedBy rlsd.dest).isSome ||
    ((rlsd.dest, rlsd.src) ∈ d.refs &&
      (nat.sccpConnections.find? fun con => con.patchedRef == rlsd.dest && con.remoteRef == rlsd.src).isNone)

/-- The NAT tells the MSC that a diverted connection ends. -/
def Diversions.tells (d : Diversions) (nat : BscNat) : NatOut → Bool
  | .toMsc msg => msg.endRefs.any fun refs =>
    (nat.divertedBy refs.1).isSome || (refs ∈ d.refs && nat.sccpRefIsFree refs.1)
  | _ => false

/-- The record after a step. -/
def Diversions.note (d : Diversions) (s : UssdNat) (ev : UssdEvent) (s' : UssdNat) : Diversions where
  ids := d.ids ++ (s'.nat.sccpConnections.entries.filter fun e => e.2.diverted).map Prod.fst
  refs := d.refs ++ (s'.nat.sccpConnections.entries.filter fun e => e.2.diverted).map fun e =>
    (e.2.patchedRef, e.2.remoteRef)
  freed := d.freed ++ s.nat.sccpConnections.freedIn s'.nat.sccpConnections
  released := d.released ++ (ev.mscRlsd?.filter fun rlsd => d.names s.nat rlsd).toList
  told := d.told ++ (written s.nat s'.nat).filter fun out => d.tells s.nat out

/-- Runs with the record. -/
def diversionSystem (lib : Osmocore) : System (UssdNat × Diversions) UssdEvent :=
  (ussdSystem lib).recording {} Diversions.note

/-! ## The condition -/

/-- **The provider ends a diverted connection first.** The MSC sends a well-formed RLSD for it when the NAT has no
    connection with that reference any more, and its BSC sends none. -/
structure EndsInOrder (p : UssdNat × Diversions) (ev : UssdEvent) : Prop where
  msc : ∀ rlsd ∈ ev.mscRlsd?, p.2.names p.1.nat rlsd = true →
    rlsd.msg.parses = true ∧ p.1.nat.sccpRefIsFree rlsd.dest = true
  bsc : ∀ r ∈ ev.bscRlsd?, ((p.1.nat.findByRealRef r.1 r.2.src).any fun found => found.2.diverted) = false

/-! ## Ageing -/

section Aged

variable {nat nat' : BscNat}

theorem aged_of_cons (h : nat'.sccpConnections = nat.sccpConnections) :
    Pool.Aged nat.sccpConnections nat'.sccpConnections := by
  rw [h]
  exact .refl _

theorem aged_modifyCon (nat : BscNat) (i : Nat) (f : SccpConnections → SccpConnections) :
    Pool.Aged nat.sccpConnections (nat.modifyCon i f).sccpConnections := aged_modify nat.sccpConnections i f

theorem aged_bscMgcpDlcx (nat : BscNat) (i : Nat) :
    Pool.Aged nat.sccpConnections (nat.bscMgcpDlcx i).sccpConnections := by
  unfold bscMgcpDlcx
  split
  · exact .refl _
  · exact (aged_of_cons (freeEndpointOf_sccpConnections nat _)).trans (aged_modifyCon _ i _)

theorem aged_op {own : Nat → Prop} (h : NatOp own nat nat') :
    Pool.Aged nat.sccpConnections nat'.sccpConnections := by
  cases h with
  | quiet h => exact aged_of_cons h.cons
  | touch h hown hkeys => exact aged_modifyCon nat _ _
  | dlcx h hown => exact aged_bscMgcpDlcx nat _
  | remove h hown hendp => exact aged_remove nat.sccpConnections _
  | bscGone hnone => exact .refl _

theorem aged_ops {own : Nat → Prop} (h : NatOps own nat nat') :
    Pool.Aged nat.sccpConnections nat'.sccpConnections :=
  closure_preserves (I := fun nat' => Pool.Aged nat.sccpConnections nat'.sccpConnections)
    (fun _ _ ha hop => ha.trans (aged_op hop)) h (.refl _)

theorem aged_createSccpSrcRef (nat : BscNat) (b : Nat) (src : SccpSourceReference) (now : Nat) :
    Pool.Aged nat.sccpConnections (nat.createSccpSrcRef b src now).1.sccpConnections := by
  have hcases := createSccpSrcRef_cases nat b src now
  generalize nat.createSccpSrcRef b src now = out at hcases ⊢
  cases hcases with
  | renewed hfind hfree hok =>
    rename_i i con ref last
    exact (aged_modifyCon { nat with lastRef := last } i _).trans (aged_bscMgcpDlcx _ i)
  | dropped hfind hok =>
    rename_i i con last
    exact (aged_bscMgcpDlcx { nat with lastRef := last } i).trans (aged_remove _ _)
  | new hfind hfree hok => exact aged_alloc _ _
  | failed hfind hok => exact .refl _

theorem aged_assignEndpoints (nat : BscNat) (i endp : Nat) :
    Pool.Aged nat.sccpConnections (nat.assignEndpoints i endp).1.sccpConnections := by
  have hstale : Pool.Aged nat.sccpConnections (nat.clearStale endp).sccpConnections := by
    unfold clearStale
    generalize nat.sccpConnections.ids = ids
    induction ids generalizing nat with
    | nil => exact .refl _
    | cons j ids ih =>
      rw [List.foldl_cons]
      refine Pool.Aged.trans ?_ (ih _)
      split
      · exact aged_bscMgcpDlcx nat j
      · exact .refl _
  have hcon := hstale.trans (aged_modifyCon _ i fun con => { con with mscEndp := some endp })
  unfold assignEndpoints
  simp only
  split
  · exact hcon
  · split
    · exact hcon
    · split
      · exact hcon
      · refine hcon.trans (Pool.Aged.trans ?_ (aged_modifyCon _ i _))
        exact .refl _

theorem aged_applyEffect (nat : BscNat) (effect : NatEffect) :
    Pool.Aged nat.sccpConnections (nat.applyEffect effect).sccpConnections := by
  cases effect with
  | none => exact .refl _
  | opened b src now => exact aged_createSccpSrcRef nat b src now
  | refused b src now =>
    have hcreate := aged_createSccpSrcRef nat b src now
    show Pool.Aged _ (nat.refuse b src now).1.sccpConnections
    unfold refuse
    split
    · rename_i heq
      rw [heq] at hcreate
      exact hcreate
    · rename_i heq
      rw [heq] at hcreate
      exact hcreate.trans (aged_modifyCon _ _ _)
  | confirmed i src => exact aged_modifyCon nat i _
  | assigned i endp => exact aged_assignEndpoints nat i endp

/-- **No identity of a connection is used again.** -/
theorem aged_natStep (lib : Osmocore) (nat : BscNat) (ev : NatEvent) :
    Pool.Aged nat.sccpConnections (natStep lib nat ev).sccpConnections :=
  (aged_applyEffect nat _).trans (aged_ops (natStep_ops lib nat ev))

end Aged

/-! ## What is written for the MSC -/

/-- What a message to the MSC ends is a connection to it. -/
def Owned (nat : BscNat) (out : NatOut) : Prop :=
  ∀ msg refs, out = .toMsc msg → msg.endRefs = some refs →
    ∃ i con, nat.sccpConnections.get? i = some con ∧ con.conLocal = .msc ∧ con.patchedRef = refs.1

variable {i : Nat} {con : SccpConnections}

section Owned

variable {lib : Osmocore} {nat nat' : BscNat}

theorem owned_of_not_forMsc {out : NatOut} (h : out.forMsc = false) : Owned nat out := by
  rintro msg refs rfl
  cases h

theorem wrote_owned (h : Wrote (·.forMsc = false) nat nat') : Wrote (Owned nat) nat nat' :=
  h.mono fun _ hout => owned_of_not_forMsc hout

theorem wrote_of_dlcx (h : Wrote (·.isDlcx = true) nat nat') : Wrote (·.forMsc = false) nat nat' :=
  h.mono fun _ hout => (aside_of_isDlcx hout).1

theorem wrote_foldl {α : Type*} {P : NatOut → Prop} {f : BscNat → α → BscNat} (hf : ∀ nat a, Wrote P nat (f nat a))
    (l : List α) (nat : BscNat) : Wrote P nat (l.foldl f nat) := by
  induction l generalizing nat with
  | nil => exact .of_eq rfl
  | cons a l ih => exact (hf nat a).trans (ih (f nat a))

/-! ### Messages of the MSC -/

theorem wrote_assignEndpoints (nat : BscNat) (i endp : Nat) :
    Wrote (·.isDlcx = true) nat (nat.assignEndpoints i endp).1 := by
  have hstale : Wrote (·.isDlcx = true) nat (nat.clearStale endp) := by
    refine wrote_foldl (fun nat j => ?_) _ nat
    split
    · exact wrote_bscMgcpDlcx nat j
    · exact .of_eq rfl
  have hcon : Wrote (·.isDlcx = true) nat ((nat.clearStale endp).modifyCon i fun con =>
      { con with mscEndp := some endp }) := hstale.trans (.of_eq rfl)
  unfold assignEndpoints
  simp only
  split
  · exact hcon
  · split
    · exact hcon
    · split
      · exact hcon.trans (.of_eq rfl)
      · exact hcon.trans (.of_eq rfl)

theorem wrote_deliverToBsc (nat : BscNat) (i : Nat) (msg : SccpMsg) :
    Wrote (·.forMsc = false) nat (nat.deliverToBsc i msg) := by
  unfold deliverToBsc
  split
  · exact .of_eq rfl
  · split
    · exact .of_eq rfl
    · split
      · exact .of_eq rfl
      · exact Wrote.trans (.of_eq rfl) (wrote_send _ rfl)

variable {msg : SccpMsg}

/-- What the MSC sends for a connection goes to a BSC, if it is not ignored. -/
theorem wrote_dataToBts_found {msg' : SccpMsg} (hpatch : nat.patchSccpSrcRefToBsc msg = (some (i, con), msg'))
    (h : ¬ (con.conLocal = .ussd ∧ msg'.gsmType = some 0x20)) :
    Wrote (·.forMsc = false) nat (nat.dataToBts lib msg) := by
  unfold dataToBts
  rw [hpatch]
  simp only
  split
  · have hassign : Wrote (·.forMsc = false) nat (bscMgcpAssignPatch lib nat i (msg'.l3.getD [])).1 := by
      rw [bscMgcpAssignPatch_fst]
      split
      · exact .of_eq rfl
      · exact wrote_of_dlcx (wrote_assignEndpoints nat i _)
    exact hassign.trans (wrote_deliverToBsc _ i _)
  · exact wrote_deliverToBsc nat i _

theorem unknownConnection_of_not_rlsd (h : ∀ dest src data, msg ≠ .rlsd dest src data) :
    nat.unknownConnection msg = nat := by
  unfold unknownConnection
  split
  · exact absurd rfl (h _ _ _)
  · rfl

theorem setDest_ne_rlsd (h : ∀ dest src data, msg ≠ .rlsd dest src data) (r : SccpSourceReference) :
    ∀ dest src data, msg.setDest r ≠ .rlsd dest src data := by
  intro dest src data heq
  cases msg with
  | rlsd dest' src' data' => exact h _ _ _ rfl
  | _ => cases heq

theorem patchSccpSrcRefToBsc_none {msg' : SccpMsg} (h : nat.patchSccpSrcRefToBsc msg = (none, msg')) : msg' = msg := by
  unfold patchSccpSrcRefToBsc at h
  split at h
  · exact (Prod.mk.inj h).2.symm
  · split at h
    · exact (Prod.mk.inj h).2.symm
    · cases h

theorem wrote_dataToBts (h : ∀ dest src data, msg ≠ .rlsd dest src data) :
    Wrote (·.forMsc = false) nat (nat.dataToBts lib msg) := by
  cases hpatch : nat.patchSccpSrcRefToBsc msg with
  | mk found msg' =>
    cases found with
    | none =>
      unfold dataToBts
      rw [hpatch]
      show Wrote _ nat (nat.unknownConnection msg')
      rw [patchSccpSrcRefToBsc_none hpatch, unknownConnection_of_not_rlsd h]
      exact .of_eq rfl
    | some found =>
      obtain ⟨i, con⟩ := found
      by_cases hignored : con.conLocal = .ussd ∧ msg'.gsmType = some 0x20
      · obtain ⟨-, -, rfl⟩ := patchSccpSrcRefToBsc_some hpatch
        unfold dataToBts
        rw [hpatch]
        simp only
        rw [if_neg (by rw [hignored.2]; decide), if_pos hignored, unknownConnection_of_not_rlsd (setDest_ne_rlsd h _)]
        exact .of_eq rfl
      · exact wrote_dataToBts_found hpatch hignored

theorem wrote_sendToAll (nat : BscNat) (msg : SccpMsg) : Wrote (·.forMsc = false) nat (nat.sendToAll lib msg) := by
  unfold sendToAll
  split
  · split
    · exact .of_eq rfl
    · rename_i paging hpaging
      refine wrote_sendAll nat fun out hout => ?_
      obtain ⟨k, -, hk⟩ := List.mem_flatMap.mp hout
      obtain ⟨e, -, he⟩ := List.mem_filterMap.mp hk
      dsimp only at he
      cases hcfg : e.2.cfg with
      | none =>
        rw [hcfg] at he
        cases he
      | some cfg =>
        rw [hcfg] at he
        obtain ⟨-, he⟩ := Option.ite_none_right_eq_some.mp he
        rw [← Option.some.inj he]
        rfl
  · refine wrote_sendAll nat fun out hout => ?_
    obtain ⟨e, -, he⟩ := List.mem_filterMap.mp hout
    obtain ⟨-, he⟩ := Option.ite_none_right_eq_some.mp he
    rw [← Option.some.inj he]
    rfl

/-- Nothing that the MSC sends is sent back to it, but the answer to an RLSD. -/
theorem wrote_forwardSccpToBts (h : ∀ dest src data, msg ≠ .rlsd dest src data) :
    Wrote (·.forMsc = false) nat (nat.forwardSccpToBts lib msg) := by
  have hrefl : Wrote (·.forMsc = false) nat nat := .of_eq rfl
  have hdata : Wrote (·.forMsc = false) nat (nat.dataToBts lib msg) := wrote_dataToBts h
  unfold forwardSccpToBts
  split
  · exact hrefl
  · split
    · exact hrefl
    · cases msg with
      | udt ssn data => exact wrote_sendToAll nat _
      | rlsd | cref | dt1 | it => exact hdata
      | cc dest src data =>
        simp only
        split
        · exact hrefl
        · exact Wrote.trans (.of_eq rfl) (wrote_deliverToBsc _ _ _)
      | rlc | cr | err => exact hrefl

/-! ### Messages of a BSC -/

theorem owned_toMsc (hget : nat.sccpConnections.get? i = some con) (hlocal : con.conLocal = .msc)
    (h : ∀ refs, msg.endRefs = some refs → refs.1 = con.patchedRef) : Owned nat (.toMsc msg) := by
  intro msg' refs heq hrefs
  cases heq
  exact ⟨i, con, hget, hlocal, (h refs hrefs).symm⟩

/-- A message that a BSC sends for a connection has its reference towards the MSC afterwards. -/
theorem endRefs_patchSccpSrcRefToMsc {b : Nat} {msg' : SccpMsg}
    (h : nat.patchSccpSrcRefToMsc b msg = (some (i, con), msg')) :
    ∀ refs, msg'.endRefs = some refs → refs.1 = con.patchedRef := by
  intro refs hrefs
  unfold patchSccpSrcRefToMsc at h
  split at h
  · split at h
    · cases h
    · obtain ⟨hfound, rfl⟩ := Prod.mk.inj h
      obtain ⟨-, rfl⟩ := Prod.mk.inj (Option.some.inj hfound)
      cases msg with
      | rlsd | rlc =>
        cases hrefs
        rfl
      | _ => cases hrefs
  · rename_i hsrc _
    obtain ⟨-, rfl⟩ := Prod.mk.inj h
    cases msg with
    | rlsd | rlc => cases hsrc
    | _ => cases hrefs
  · cases h

section

variable (nat : BscNat)

theorem wrote_forwardCr (b now ssn : Nat) (bsc : BscConnection) (src : SccpSourceReference)
    (data : Option (List Octet)) : Wrote (Owned nat) nat (nat.forwardCr lib b bsc now src (.cr src ssn data)) := by
  by_cases hrejected : (nat.crVerdict lib bsc (.cr src ssn data)).filter < 0
  · exact wrote_owned (forwardCr_of_rejected b now src hrejected).2
  · have hcreated := wrote_owned (wrote_of_dlcx (wrote_createSccpSrcRef nat b src now))
    have hcr : ∀ src', Owned nat (.toMsc (.cr src' ssn data)) := by
      intro src' msg refs heq hrefs
      cases heq
      cases hrefs
    unfold forwardCr
    simp only [if_neg hrejected]
    split
    · rename_i heq
      rw [heq] at hcreated
      exact hcreated
    · rename_i nat₁ i heq
      rw [heq] at hcreated
      split
      · exact hcreated
      · rename_i j con msg' hpatch
        refine (hcreated.trans (.of_eq rfl)).trans (wrote_queueForMsc _ _ ?_)
        unfold patchSccpSrcRefToMsc at hpatch
        dsimp only [srcLocalRef] at hpatch
        split at hpatch
        · cases hpatch
        · cases hpatch
          exact hcr _

theorem wrote_forwardData (b : Nat) (bsc : BscConnection) (msg : SccpMsg) :
    Wrote (Owned nat) nat (nat.forwardData lib b bsc msg) := by
  have hnil : Wrote (Owned nat) nat nat := .of_eq rfl
  unfold forwardData
  split
  · exact hnil
  · rename_i i con msg' hpatch
    obtain ⟨hget, -⟩ := patchSccpSrcRefToMsc_some hpatch
    have hsent : ∀ con, Wrote (Owned nat) nat (nat.sendAll (bscCheckUssd lib nat.cfg nat.ussdCon msg' con).sent) :=
      fun con => wrote_sendAll nat fun out hout => owned_of_not_forMsc (aside_sent _ _ _ _ _ out hout).1
    split
    · rename_i hlocal
      have hfilter := bscNatFilterDt_cases lib nat.cfg.accLst (bsc.cfg.bind (·.accLst)) msg' con
      split
      rename_i code con₁ hdt
      rw [hdt] at hfilter
      split
      · -- the connection is released
        refine (wrote_bscSendConRelease nat b i con₁).mono fun out hout => ?_
        rintro rlsd refs rfl hrefs
        rw [NatOut.toMsc.inj (hout rfl)] at hrefs
        cases hrefs
        exact ⟨i, con, hget, hlocal, hfilter.sameRefs.2.symm⟩
      · dsimp only
        split
        · exact (hsent con₁).trans (.of_eq rfl)
        · refine ((hsent con₁).trans (.of_eq rfl)).trans (wrote_queueForMsc _ _ ?_)
          exact owned_toMsc hget hlocal (endRefs_patchSccpSrcRefToMsc hpatch)
    · exact (hsent con).trans (.of_eq rfl)
    · exact hnil

theorem wrote_forwardRlc_owned (b : Nat) (src dest : SccpSourceReference) :
    Wrote (Owned nat) nat (nat.forwardRlc b src (.rlc dest src)) := by
  have hgone : ∀ r, Wrote (Owned nat) nat ((nat.removeSccpSrcRef r).bscMaybeClose b) := fun r =>
    (wrote_owned (wrote_of_dlcx (wrote_removeSccpSrcRef nat r))).trans (.of_eq (bscMaybeClose_outbox _ b))
  unfold forwardRlc
  split
  · exact hgone src
  · rename_i i con msg' hpatch
    obtain ⟨hget, -⟩ := patchSccpSrcRefToMsc_some hpatch
    simp only
    split
    · rename_i hlocal
      exact (hgone _).trans (wrote_queueForMsc _ _ (owned_toMsc hget hlocal (endRefs_patchSccpSrcRefToMsc hpatch)))
    · exact hgone _

theorem wrote_sccpToMsc (b now : Nat) (bsc : BscConnection) (msg : SccpMsg) :
    Wrote (Owned nat) nat (nat.sccpToMsc lib b bsc now msg) := by
  cases msg with
  | cr src ssn data => exact wrote_forwardCr nat b now ssn bsc src data
  | rlc dest src => exact wrote_forwardRlc_owned nat b src dest
  | udt | err => exact .of_eq rfl
  | cc | cref | rlsd | dt1 | it => exact wrote_forwardData nat b bsc _

theorem wrote_bscMgcpForward (b : Nat) (response : MgcpResponse) :
    Wrote (·.forMsc = false) nat (nat.bscMgcpForward b response) := by
  unfold bscMgcpForward
  split
  · exact .of_eq rfl
  · simp only
    split
    · exact .of_eq rfl
    · split
      · unfold freeChanDownstream
        refine Wrote.trans ?_ (.of_eq rfl)
        split
        · split
          · exact .of_eq rfl
          · split
            · exact wrote_send nat rfl
            · exact .of_eq rfl
        · exact .of_eq rfl
      · exact Wrote.trans (.of_eq rfl) (wrote_send _ rfl)

theorem wrote_forwardSccpToMsc (b now : Nat) (msg : BscMsg) :
    Wrote (Owned nat) nat (nat.forwardSccpToMsc lib b now msg) := by
  have hrefl : Wrote (Owned nat) nat nat := .of_eq rfl
  unfold forwardSccpToMsc
  split
  · exact hrefl
  · split
    · split
      · exact hrefl
      · split
        · refine wrote_sendAll nat fun out hout => ?_
          simp only [List.mem_cons, List.not_mem_nil, or_false, or_self] at hout
          obtain rfl := hout
          exact owned_of_not_forMsc rfl
        · split
          · exact hrefl
          · exact wrote_sccpToMsc nat b now _ _
    · split
      · exact hrefl
      · exact wrote_owned (wrote_bscMgcpForward nat b _)
    · exact .of_eq rfl
    · exact hrefl
    · exact hrefl

end

/-! ### Ends of connections -/

/-- Every connection was there before, as it is. -/
def Fewer (nat nat' : BscNat) : Prop :=
  ∀ i con, nat'.sccpConnections.get? i = some con → nat.sccpConnections.get? i = some con

theorem Owned.fewer {out : NatOut} (h : Owned nat' out) (hfewer : Fewer nat nat') : Owned nat out := by
  intro msg refs heq hrefs
  obtain ⟨i, con, hget, hlocal, href⟩ := h msg refs heq hrefs
  exact ⟨i, con, hfewer i con hget, hlocal, href⟩

/-- A loop whose rounds only remove connections and write for their owners. -/
theorem fewer_foldl {α : Type*} {f : BscNat → α → BscNat}
    (hf : ∀ nat a, Fewer nat (f nat a) ∧ Wrote (Owned nat) nat (f nat a)) (l : List α) (nat : BscNat) :
    Fewer nat (l.foldl f nat) ∧ Wrote (Owned nat) nat (l.foldl f nat) := by
  induction l generalizing nat with
  | nil => exact ⟨fun _ _ h => h, .of_eq rfl⟩
  | cons a l ih =>
    obtain ⟨hfewer, hwrote⟩ := hf nat a
    obtain ⟨hfewer', hwrote'⟩ := ih (f nat a)
    exact ⟨fun i con h => hfewer i con (hfewer' i con h), hwrote.trans (hwrote'.mono fun out hout => hout.fewer hfewer)⟩

theorem wrote_tellPeer {conn : SccpConnections} (hget : nat.sccpConnections.get? i = some conn) :
    Wrote (Owned nat) nat (nat.tellPeer conn) := by
  have hrefl : Wrote (Owned nat) nat nat := .of_eq rfl
  unfold tellPeer
  simp only
  split
  · exact hrefl
  · split
    · rename_i hlocal
      refine wrote_queueForMsc nat _ (owned_toMsc hget hlocal fun refs hrefs => ?_)
      rw [← Option.some.inj hrefs]
    · split
      · exact wrote_send nat (owned_of_not_forMsc rfl)
      · exact hrefl
    · exact hrefl

theorem fewer_closeSccp (b : Nat) (nat : BscNat) (i : Nat) :
    Fewer nat (nat.closeSccp b i) ∧ Wrote (Owned nat) nat (nat.closeSccp b i) := by
  constructor
  · intro j con hj
    rw [get?_closeSccp] at hj
    split at hj
    · cases hj
    · exact hj
  · unfold closeSccp
    split
    · exact .of_eq rfl
    · rename_i conn hget
      split
      · exact .of_eq rfl
      · exact (wrote_tellPeer hget).trans ((wrote_sccpConnectionDestroy _ i).mono fun out hout =>
          owned_of_not_forMsc (aside_of_isDlcx hout).1)

theorem fewer_bscCloseConnection (nat : BscNat) (b : Nat) :
    Fewer nat (nat.bscCloseConnection b) ∧ Wrote (Owned nat) nat (nat.bscCloseConnection b) := by
  obtain ⟨hfewer, hwrote⟩ := fewer_foldl (fewer_closeSccp b) nat.sccpConnections.ids nat
  have hcons : ∀ nat : BscNat, (nat.bscMgcpClearEndpointsFor b).sccpConnections = nat.sccpConnections := by
    intro nat
    unfold bscMgcpClearEndpointsFor
    induction List.range' 1 (nat.cfg.numberEndpoints - 1) generalizing nat with
    | nil => rfl
    | cons k l ih =>
      rw [List.foldl_cons, ih]
      split <;> rfl
  refine ⟨fun i con h => hfewer i con ?_, hwrote.trans (.of_eq (bscMgcpClearEndpointsFor_outbox _ b))⟩
  rw [← hcons]
  exact h

theorem wrote_sccpCloseUnconfirmed (nat : BscNat) (now : Nat) :
    Wrote (·.forMsc = false) nat (nat.sccpCloseUnconfirmed now) := by
  have hdestroy := wrote_foldl (fun nat i => wrote_of_dlcx (wrote_sccpConnectionDestroy nat i))
    (nat.sccpConnections.ids.filter fun i => nat.overdue now i) nat
  have hmaybe : ∀ (l : List Nat) (nat : BscNat), Wrote (·.forMsc = false) nat (l.foldl bscMaybeClose nat) :=
    wrote_foldl fun nat b => .of_eq (bscMaybeClose_outbox nat b)
  unfold sccpCloseUnconfirmed
  simp only
  split
  · exact hdestroy
  · exact hdestroy.trans (hmaybe _ _)

theorem wrote_mscConnectionWasLost (nat : BscNat) : Wrote (Owned nat) nat nat.mscConnectionWasLost := by
  have hfree : ∀ nat : BscNat, nat.bscMgcpFreeEndpoints.outbox = nat.outbox := by
    intro nat
    unfold bscMgcpFreeEndpoints
    induction List.range' 1 (nat.cfg.numberEndpoints - 1) generalizing nat with
    | nil => rfl
    | cons k l ih => rw [List.foldl_cons, ih]; rfl
  have hclose := (fewer_foldl fewer_bscCloseConnection nat.bscIds { nat with mscConnected := false }).2
  have hstart : Wrote (Owned nat) nat { nat with mscConnected := false } := .of_eq rfl
  exact (hstart.trans hclose).trans (.of_eq (hfree _))

theorem wrote_bscMgcpPolicyCb (nat : BscNat) (endpoint : Nat) (state : MgcpEndpState) (transactionId : List Octet)
    (rewritten : Bool) :
    Wrote (·.forMsc = false) nat (nat.bscMgcpPolicyCb endpoint state transactionId rewritten).1 := by
  unfold bscMgcpPolicyCb
  simp only
  split
  · exact .of_eq rfl
  · split
    · exact .of_eq rfl
    · split
      · exact Wrote.trans (.of_eq rfl) (wrote_of_dlcx (wrote_bscMgcpDlcx _ _))
      · exact Wrote.trans (.of_eq rfl) (wrote_send _ rfl)

/-- **Only an RLSD of the MSC makes the NAT end a connection that is not the MSC's.** -/
theorem wrote_natStep (nat : BscNat) {ev : NatEvent} (h : ∀ dest src data, ev ≠ .fromMsc (.rlsd dest src data)) :
    Wrote (Owned nat) nat (natStep lib nat ev) := by
  cases ev with
  | accept =>
    show Wrote (Owned nat) nat (if _ then _ else nat)
    split
    · exact .of_eq rfl
    · exact .of_eq rfl
  | fromBsc b now msg => exact wrote_forwardSccpToMsc nat b now msg
  | fromMsc msg =>
    refine wrote_owned (wrote_forwardSccpToBts fun dest src data heq => ?_)
    rw [heq] at h
    exact h dest src data rfl
  | mgcpCommand endpoint state transactionId rewritten =>
    exact wrote_owned (wrote_bscMgcpPolicyCb nat endpoint state transactionId rewritten)
  | closeBsc b => exact (fewer_bscCloseConnection nat b).2
  | closeUnconfirmed now => exact wrote_owned (wrote_sccpCloseUnconfirmed nat now)
  | mscConnected => exact .of_eq rfl
  | mscLost => exact wrote_mscConnectionWasLost nat
  | block blocked => exact .of_eq rfl
  | ussdCon connected =>
    cases connected with
    | true => exact .of_eq rfl
    | false =>
      refine Wrote.trans (wrote_sendAll nat fun out hout => ?_) (.of_eq rfl)
      obtain ⟨e, -, he⟩ := List.mem_flatMap.mp hout
      dsimp only at he
      split at he
      · simp only [List.mem_cons, List.not_mem_nil, or_false] at he
        rcases he with rfl | rfl <;> exact owned_of_not_forMsc rfl
      · cases he
  | setLastEndpoint nr endp =>
    refine wrote_foldl (fun nat b => ?_) nat.bscIds nat
    exact .of_eq rfl

end Owned

/-! ## One step -/

/-- **A step keeps diverted connections from the MSC.** Its CLEAR COMMAND is ignored, and its RLSD gets one answer and
    goes no further. What is diverted stays so for as long as it has its reference. The RLC of the BSC ends the
    connection without a word to the MSC, and its RLSD would be answered. -/
structure Shielded (lib : Osmocore) (s : UssdNat) (d : Diversions) (ev : UssdEvent) : Prop where
  rlsd : ∀ rlsd ∈ ev.mscRlsd?, d.names s.nat rlsd = true → written s.nat (s.step lib ev).nat = [.toMsc rlsd.answer]
  clearCommand : ∀ dest data, ev = .nat (.fromMsc (.dt1 dest data)) → IsBssmap 0x20 data →
    (s.nat.divertedBy dest).isSome = true → (s.step lib ev).nat = s.nat
  stays : ∀ i con con', s.nat.sccpConnections.get? i = some con → con.diverted = true →
    (s.step lib ev).nat.sccpConnections.get? i = some con' → con'.patchedRef = con.patchedRef → con'.diverted = true
  rlc : ∀ b now dest src bsc i con, ev = .nat (.fromBsc b now (.sccp (.rlc dest src))) →
    s.nat.takenUp b (.rlc dest src) = some bsc → s.nat.findByRealRef b src = some (i, con) → con.diverted = true →
    (s.step lib ev).nat.sccpConnections.get? i = none ∧ ∀ out ∈ written s.nat (s.step lib ev).nat, out.forMsc = false
  bscRlsd : ∀ b r bsc i con, ev.bscRlsd? = some (b, r) → s.nat.takenUp b r.msg = some bsc →
    s.nat.findByRealRef b r.src = some (i, con) → con.diverted = true →
    (s.step lib ev).nat.sccpConnections.get? i = none ∧ written s.nat (s.step lib ev).nat = [.toBsc b r.answer]

section Step

variable {lib : Osmocore} {s : UssdNat} {d : Diversions} {ev : UssdEvent} {nat : BscNat}

variable {ref : SccpSourceReference}

theorem divertedBy_eq_some (h : nat.divertedBy ref = some (i, con)) :
    nat.sccpConnections.get? i = some con ∧ con.conLocal = .ussd ∧ con.patchedRef = ref := by
  obtain ⟨hget, hq, -⟩ := find?_eq_some.mp h
  simpa [diverted, hget] using hq

/-- What is owned by a connection to the MSC is not told of a diverted one. -/
theorem tells_of_owned (hrefs : RefsDistinct nat) {out : NatOut} (h : Owned nat out) : d.tells nat out = false := by
  cases out with
  | toMsc msg =>
    unfold Diversions.tells
    dsimp only
    cases hends : msg.endRefs with
    | none => rfl
    | some refs =>
      obtain ⟨i, con, hget, hlocal, href⟩ := h msg refs rfl hends
      have hfree : nat.sccpRefIsFree refs.1 = false := by
        rw [← Bool.not_eq_true, sccpRefIsFree_iff]
        exact fun hall => hall i con hget href
      have hnone : nat.divertedBy refs.1 = none := by
        cases hfound : nat.divertedBy refs.1 with
        | none => rfl
        | some found =>
          obtain ⟨j, other⟩ := found
          obtain ⟨hother, hussd, href'⟩ := divertedBy_eq_some hfound
          -- there is one connection with this reference
          obtain rfl := hrefs.patched j i other con hother hget (href'.trans href.symm)
          cases hother.symm.trans hget
          rw [hlocal] at hussd
          cases hussd
      simp [hfree, hnone]
  | _ => rfl

theorem filter_tells_of_owned (hrefs : RefsDistinct s.nat) {nat' : BscNat} (h : Wrote (Owned s.nat) s.nat nat') :
    (written s.nat nat').filter (fun out => d.tells s.nat out) = [] := by
  refine List.filter_eq_nil_iff.mpr fun out hout => ?_
  rw [tells_of_owned hrefs (h.written out hout)]
  exact Bool.false_ne_true

variable {rlsd : Rlsd}

theorem forwardSccpToBts_rlsd_free (h : nat.sccpRefIsFree rlsd.dest = true) :
    nat.forwardSccpToBts lib rlsd.msg = if rlsd.msg.parses then nat.send (.toMsc rlsd.answer) else nat := by
  obtain ⟨dest, src, data⟩ := rlsd
  have hnone : nat.sccpConnections.find? (fun conn => conn.patchedRef == dest) = none :=
    Option.isNone_iff_eq_none.mp h
  have hpatch : nat.patchSccpSrcRefToBsc (.rlsd dest src data) = (none, .rlsd dest src data) := by
    unfold patchSccpSrcRefToBsc
    dsimp only [destLocalRef]
    rw [hnone]
  unfold forwardSccpToBts Rlsd.msg
  cases hparses : (rlsd dest src data).parses with
  | false => rfl
  | true =>
    show nat.dataToBts lib (.rlsd dest src data) = _
    unfold dataToBts
    rw [hpatch]
    rfl

theorem wrote_forwardSccpToBts_rlsd (h : nat.sccpRefIsFree rlsd.dest = false)
    (hnone : nat.divertedBy rlsd.dest = none) : Wrote (·.forMsc = false) nat (nat.forwardSccpToBts lib rlsd.msg) := by
  obtain ⟨dest, src, data⟩ := rlsd
  obtain ⟨found, hfound⟩ := Option.ne_none_iff_exists'.mp fun heq =>
    Bool.false_ne_true (h.symm.trans (Option.isNone_iff_eq_none.mpr heq))
  obtain ⟨i, con⟩ := found
  have hpatch : nat.patchSccpSrcRefToBsc (.rlsd dest src data) = (some (i, con), .rlsd con.realRef src data) := by
    unfold patchSccpSrcRefToBsc
    dsimp only [destLocalRef]
    rw [hfound]
    rfl
  have hlocal : con.conLocal ≠ .ussd := by
    intro hussd
    obtain ⟨hget, hq, -⟩ := find?_eq_some.mp hfound
    have hq' := find?_eq_none.mp hnone i con hget
    simp [diverted, hussd] at hq'
    exact hq' (by simpa using hq)
  have hdata : Wrote (·.forMsc = false) nat (nat.dataToBts lib (.rlsd dest src data)) :=
    wrote_dataToBts_found hpatch fun hignored => hlocal hignored.1
  unfold forwardSccpToBts
  split
  · exact .of_eq rfl
  · split
    · exact .of_eq rfl
    · exact hdata

/-- The connections are as they were, and nothing is written for the MSC. -/
structure Away (nat nat' : BscNat) : Prop where
  cons : nat'.sccpConnections = nat.sccpConnections
  wrote : Wrote (·.forMsc = false) nat nat'

theorem Away.refl (nat : BscNat) : Away nat nat := ⟨rfl, .of_eq rfl⟩

theorem Away.trans {a b c : BscNat} (h : Away a b) (h' : Away b c) : Away a c :=
  ⟨h'.cons.trans h.cons, h.wrote.trans h'.wrote⟩

theorem away_ussdCon (lib : Osmocore) (nat : BscNat) (connected : Bool) :
    Away nat (natStep lib nat (.ussdCon connected)) := by
  cases connected with
  | true => exact ⟨rfl, .of_eq rfl⟩
  | false =>
    refine ⟨(quiet_sendAll nat _).cons, Wrote.trans (wrote_sendAll nat fun out hout => ?_) (.of_eq rfl)⟩
    obtain ⟨e, -, he⟩ := List.mem_flatMap.mp hout
    dsimp only at he
    split at he
    · simp only [List.mem_cons, List.not_mem_nil, or_false] at he
      rcases he with rfl | rfl <;> rfl
    · cases he

theorem away_bscNatUssdDestroy (lib : Osmocore) (s : UssdNat) (u : Nat) :
    Away s.nat (s.bscNatUssdDestroy lib u).nat := by
  unfold bscNatUssdDestroy
  split_ifs
  · exact away_ussdCon lib s.nat false
  · exact .refl _

/-- The provider and its port have no part in the table of connections. -/
theorem away_step (lib : Osmocore) (s : UssdNat) {ev : UssdEvent} (h : ∀ ev', ev ≠ .nat ev') :
    Away s.nat (s.step lib ev).nat := by
  cases ev with
  | nat ev => exact absurd rfl (h ev)
  | ussdToken | accept => exact .refl _
  | idResp u unitName =>
    cases unitName with
    | none => exact .refl _
    | some unitName =>
      show Away s.nat (if (s.ussdCons.get? u).isSome then s.ussdAuthCon lib u unitName else s).nat
      split_ifs
      · have hreplace : Away s.nat (s.replaceProvider lib u).nat := by
          unfold replaceProvider
          split
          · split_ifs
            · exact .refl _
            · exact away_bscNatUssdDestroy lib s _
          · exact .refl _
        unfold ussdAuthCon
        split_ifs
        · exact hreplace.trans (away_ussdCon lib _ true)
        · exact away_bscNatUssdDestroy lib s u
      · exact .refl _
  | sccp u msg =>
    dsimp only [step]
    split_ifs
    · unfold forwardSccp
      split
      · exact .refl _
      · split
        · exact .refl _
        · split
          · exact .refl _
          · exact ⟨rfl, wrote_send _ rfl⟩
    · exact .refl _
  | lost u =>
    dsimp only [step]
    split_ifs
    · exact away_bscNatUssdDestroy lib s u
    · exact .refl _
  | authTimeout u =>
    dsimp only [step]
    split_ifs
    · exact away_bscNatUssdDestroy lib s u
    · exact .refl _

theorem aged_step (lib : Osmocore) (s : UssdNat) (ev : UssdEvent) :
    Pool.Aged s.nat.sccpConnections (s.step lib ev).nat.sccpConnections := by
  cases ev with
  | nat ev =>
    obtain heq | heq := step_nat lib s ev
    · rw [heq]
      exact .refl _
    · rw [heq]
      exact aged_natStep lib s.nat ev
  | _ => exact aged_of_cons (away_step lib s fun ev' heq => (by cases heq)).cons

/-- Without an RLSD of the MSC, it is told of no diverted connection. -/
theorem wrote_step (hnone : ev.mscRlsd? = none) : Wrote (Owned s.nat) s.nat (s.step lib ev).nat := by
  cases ev with
  | nat ev =>
    obtain heq | heq := step_nat lib s ev
    · rw [heq]
      exact .of_eq rfl
    · rw [heq]
      refine wrote_natStep s.nat fun dest src data hev => ?_
      rw [hev] at hnone
      cases hnone
  | _ => exact wrote_owned (away_step lib s fun ev' heq => (by cases heq)).wrote

theorem step_of_mscRlsd (h : ev.mscRlsd? = some rlsd) : (s.step lib ev).nat = s.nat.forwardSccpToBts lib rlsd.msg := by
  unfold UssdEvent.mscRlsd? at h
  split at h
  · cases h
    rfl
  · cases h

/-- **An RLSD of the MSC that meets the condition is answered once, if it is for a diverted connection.** -/
theorem written_mscRlsd (hcond : EndsInOrder (s, d) ev) (h : ev.mscRlsd? = some rlsd)
    (hnames : d.names s.nat rlsd = true) : written s.nat (s.step lib ev).nat = [.toMsc rlsd.answer] := by
  obtain ⟨hparses, hfree⟩ := hcond.msc rlsd h hnames
  rw [step_of_mscRlsd h, forwardSccpToBts_rlsd_free hfree, if_pos hparses]
  exact List.drop_left

theorem tells_answer (hfree : s.nat.sccpRefIsFree rlsd.dest = true) :
    d.tells s.nat (.toMsc rlsd.answer) = d.names s.nat rlsd := by
  have hnone : (s.nat.sccpConnections.find? fun con =>
      con.patchedRef == rlsd.dest && con.remoteRef == rlsd.src) = none := by
    refine find?_eq_none.mpr fun i con hget => ?_
    simp [sccpRefIsFree_iff.mp hfree i con hget]
  unfold Diversions.tells Diversions.names
  rw [hnone]
  simp [Rlsd.answer, endRefs, hfree]

theorem told_step (hrefs : RefsDistinct s.nat) (hcond : EndsInOrder (s, d) ev) :
    (written s.nat (s.step lib ev).nat).filter (fun out => d.tells s.nat out) =
      (ev.mscRlsd?.filter fun rlsd => d.names s.nat rlsd).toList.map fun rlsd => .toMsc rlsd.answer := by
  cases hev : ev.mscRlsd? with
  | none => exact filter_tells_of_owned hrefs (wrote_step hev)
  | some rlsd =>
    cases hnames : d.names s.nat rlsd with
    | true =>
      have hfree := (hcond.msc rlsd hev hnames).2
      rw [written_mscRlsd hcond hev hnames, Option.filter_some, if_pos hnames]
      simp [tells_answer hfree, hnames]
    | false =>
      rw [Option.filter_some, if_neg (by rw [hnames]; exact Bool.false_ne_true), step_of_mscRlsd hev]
      cases hfree : s.nat.sccpRefIsFree rlsd.dest with
      | true =>
        rw [forwardSccpToBts_rlsd_free hfree]
        split
        · have hout : written s.nat (s.nat.send (.toMsc rlsd.answer)) = [.toMsc rlsd.answer] := List.drop_left
          rw [hout]
          simp [tells_answer hfree, hnames]
        · exact filter_tells_of_owned hrefs (.of_eq rfl)
      | false =>
        have hnone : s.nat.divertedBy rlsd.dest = none := by
          unfold Diversions.names at hnames
          rw [Bool.or_eq_false_iff, Option.isSome_eq_false_iff, Option.isNone_iff_eq_none] at hnames
          exact hnames.1
        exact filter_tells_of_owned hrefs (wrote_owned (wrote_forwardSccpToBts_rlsd hfree hnone))

theorem find?_of_divertedBy (hrefs : RefsDistinct nat) (h : nat.divertedBy ref = some (i, con)) :
    nat.sccpConnections.find? (fun conn => conn.patchedRef == ref) = some (i, con) := by
  obtain ⟨hget, -, href⟩ := divertedBy_eq_some h
  refine find?_unique hget (by simpa using href) fun j other hother hq => ?_
  have href' : other.patchedRef = ref := by simpa using hq
  exact hrefs.patched j i other con hother hget (href'.trans href.symm)

theorem clearCommand_ignored (hrefs : RefsDistinct s.nat) {dest : SccpSourceReference} {data : List Octet}
    (hclear : IsBssmap 0x20 data) (h : (s.nat.divertedBy dest).isSome = true) :
    (s.step lib (.nat (.fromMsc (.dt1 dest data)))).nat = s.nat := by
  obtain ⟨found, hfound⟩ := Option.isSome_iff_exists.mp h
  obtain ⟨i, con⟩ := found
  have hkind : dt1Kind con data = .refused ∨ dt1Kind con data = .clearCommand := by
    unfold dt1Kind
    by_cases hlen : data.length < 3
    · exact .inl (if_pos hlen)
    · have hassign : octetAt data 2 ≠ 0x01 := by
        rw [hclear.2]
        decide
      rw [if_neg hlen, if_neg hassign, if_pos ⟨(divertedBy_eq_some hfound).2.1, hclear.2⟩]
      exact .inr rfl
  show s.nat.forwardSccpToBts lib (.dt1 dest data) = s.nat
  rw [forwardSccpToBts_dt1 (find?_of_divertedBy hrefs hfound)]
  unfold forwardDt1
  obtain hkind | hkind := hkind <;> rw [hkind]

/-! ### What is diverted stays so -/

/-- A connection that was there before keeps its end, if it keeps its reference. -/
def StaysDiverted (nat nat' : BscNat) : Prop :=
  ∀ i con con', nat.sccpConnections.get? i = some con → con.diverted = true →
    nat'.sccpConnections.get? i = some con' → con'.patchedRef = con.patchedRef → con'.diverted = true

theorem staysDiverted_of_gatesKept {nat' : BscNat} (h : GatesKept nat nat') : StaysDiverted nat nat' := by
  intro i con con' hget hdiverted hget' _
  obtain ⟨con₀, hcon₀, hsame⟩ := h i con' hget'
  cases hget.symm.trans hcon₀
  unfold diverted at hdiverted ⊢
  rw [hsame.conLocal]
  exact hdiverted

/-- A request gives the connection it is taken for a new reference. -/
theorem staysDiverted_forwardCr (nat : BscNat) (hrefs : RefsDistinct nat) (b now ssn : Nat) (bsc : BscConnection)
    (src : SccpSourceReference) (data : Option (List Octet)) :
    StaysDiverted nat (nat.forwardCr lib b bsc now src (.cr src ssn data)) := by
  intro i con con' hget hdiverted hget' href
  have hsame : nat.sccpConnections.get? i = some con' → con'.diverted = true := by
    intro h
    rw [Option.some.inj (h.symm.trans hget)]
    exact hdiverted
  have hnotFree : nat.sccpRefIsFree con'.patchedRef ≠ true := by
    intro hfree
    exact sccpRefIsFree_iff.mp hfree i con hget href.symm
  by_cases hrejected : (nat.crVerdict lib bsc (.cr src ssn data)).filter < 0
  · obtain ⟨hcons, -⟩ := forwardCr_of_rejected b now src hrejected
    rw [hcons] at hget'
    unfold crEffect at hget'
    simp only [if_pos hrejected] at hget'
    split at hget'
    · obtain ⟨hold, hnew, -⟩ := get?_refuse nat b src now
      by_cases hcreated : (nat.refuse b src now).2 = some i
      · exact absurd (hnew i con' hget' hcreated).2.2.2 hnotFree
      · exact hsame (hold i con' hget' hcreated).1
    · exact hsame hget'
  · obtain ⟨hold, hnew, -, -⟩ := get?_createSccpSrcRef nat b src now
    cases hcreated : (nat.createSccpSrcRef b src now).2 with
    | none =>
      have hdropped : nat.forwardCr lib b bsc now src (.cr src ssn data) = (nat.createSccpSrcRef b src now).1 := by
        unfold forwardCr
        simp only [if_neg hrejected]
        split
        · rename_i heq
          rw [heq]
        · rename_i heq
          rw [heq] at hcreated
          cases hcreated
      rw [hdropped] at hget'
      exact hsame (hold i con' hget' (by rw [hcreated]; exact fun heq => by cases heq)).1
    | some j =>
      obtain ⟨msg', hforward⟩ := forwardCr_of_created hrefs hrejected hcreated
      rw [hforward, queueForMsc_sccpConnections] at hget'
      change ((nat.createSccpSrcRef b src now).1.sccpConnections.modify j _).get? i = some con' at hget'
      rw [get?_modify] at hget'
      split at hget'
      · rename_i hij
        obtain ⟨created, hget₁, rfl⟩ := Option.map_eq_some_iff.mp hget'
        exact absurd (hnew i created hget₁ (hij ▸ hcreated)).2.2.2.1 hnotFree
      · rename_i hij
        refine hsame (hold i con' hget' ?_).1
        rw [hcreated]
        exact fun heq => hij (Option.some.inj heq).symm

theorem staysDiverted_forwardData (nat : BscNat) (b : Nat) (bsc : BscConnection) (msg : SccpMsg) :
    StaysDiverted nat (nat.forwardData lib b bsc msg) := by
  cases hpatch : nat.patchSccpSrcRefToMsc b msg with
  | mk found msg' =>
    cases found with
    | none =>
      have hnone : nat.forwardData lib b bsc msg = nat := by
        unfold forwardData
        rw [hpatch]
      rw [hnone]
      exact staysDiverted_of_gatesKept (.refl nat)
    | some found =>
      obtain ⟨j, conn⟩ := found
      obtain ⟨hfound, -⟩ := patchSccpSrcRefToMsc_some hpatch
      have hhandled := forwardData_handled lib bsc hpatch
      intro i con con' hget hdiverted hget' _
      -- a connection to the MSC is not diverted yet, and all others are as they were
      have hother : ∀ con₂, (nat.forwardData lib b bsc msg).sccpConnections = (nat.setCon j con₂).sccpConnections →
          (conn.diverted = true → con₂.diverted = true) → con'.diverted = true := by
        intro con₂ hcons hcon₂
        rw [hcons, setCon_sccpConnections, get?_modify] at hget'
        split at hget'
        · rename_i hij
          obtain rfl := hij
          cases hget.symm.trans hfound
          rw [hget] at hget'
          rw [← Option.some.inj hget']
          exact hcon₂ hdiverted
        · rw [Option.some.inj (hget'.symm.trans hget)]
          exact hdiverted
      have hnot : conn.conLocal = .msc → ∀ con₂ : SccpConnections, conn.diverted = true → con₂.diverted = true := by
        intro hmsc con₂ h
        rw [diverted, hmsc] at h
        cases h
      generalize hresult : nat.forwardData lib b bsc msg = nat' at hhandled hother
      cases hhandled with
      | released hmsc hfilter hcode =>
        rename_i code con₁
        refine hother { con₁ with conLocal := .localMachine, mscCon := false, conType := .localReject } ?_
          (hnot hmsc _)
        unfold bscSendConRelease
        rw [setCon_sccpConnections, setCon_sccpConnections, sendAll_sccpConnections, queueForMsc_sccpConnections]
      | passed hmsc hfilter hcode hgate hcons hout => exact hother _ hcons (hnot hmsc _)
      | side hlocal hgate hcons hout =>
        refine hother _ hcons fun h => ?_
        unfold diverted at h ⊢
        rw [hgate.conLocal]
        exact h

theorem staysDiverted_step (hrefs : RefsDistinct s.nat) : StaysDiverted s.nat (s.step lib ev).nat := by
  have hrefl : StaysDiverted s.nat s.nat := staysDiverted_of_gatesKept (.refl _)
  cases ev with
  | nat ev =>
    obtain heq | heq := step_nat lib s ev
    · rw [heq]
      exact hrefl
    · rw [heq]
      by_cases hsccp : ev.isBscSccp = false
      · exact staysDiverted_of_gatesKept (gatesKept_natStep lib s.nat hsccp)
      · cases ev with
        | fromBsc b now msg =>
          cases msg with
          | sccp msg =>
            show StaysDiverted s.nat (s.nat.forwardSccpToMsc lib b now (.sccp msg))
            cases htaken : s.nat.takenUp b msg with
            | none =>
              obtain ⟨hcons, -⟩ := forwardSccpToMsc_of_not_takenUp htaken
              exact staysDiverted_of_gatesKept (gatesKept_of_cons hcons)
            | some bsc =>
              rw [forwardSccpToMsc_of_takenUp htaken]
              cases msg with
              | cr src ssn data => exact staysDiverted_forwardCr s.nat hrefs b now ssn bsc src data
              | rlc dest src => exact staysDiverted_of_gatesKept (gatesKept_forwardRlc _ _ _ _)
              | udt | err => exact hrefl
              | cc | cref | rlsd | dt1 | it => exact staysDiverted_forwardData _ _ _ _
          | _ => exact absurd rfl hsccp
        | _ => exact absurd rfl hsccp
  | _ => exact staysDiverted_of_gatesKept (gatesKept_of_cons (away_step lib s fun ev' heq => (by cases heq)).cons)

/-! ### The release complete -/

theorem forwardRlc_diverted (hrefs : RefsDistinct nat) {b : Nat} {src dest : SccpSourceReference}
    (hfind : nat.findByRealRef b src = some (i, con)) (hdiverted : con.diverted = true) :
    (nat.forwardRlc b src (.rlc dest src)).sccpConnections.get? i = none ∧
      ∀ out ∈ written nat (nat.forwardRlc b src (.rlc dest src)), out.forMsc = false := by
  obtain ⟨hget, -, -⟩ := findByRealRef_some hfind
  have hlocal : con.conLocal = .ussd := by simpa [diverted] using hdiverted
  have hpatch : nat.patchSccpSrcRefToMsc b (.rlc dest src) = (some (i, con), .rlc dest con.patchedRef) := by
    unfold patchSccpSrcRefToMsc
    dsimp only [srcLocalRef]
    rw [hfind]
    rfl
  have hremove : nat.removeSccpSrcRef con.patchedRef = nat.sccpConnectionDestroy i := by
    have hfound : (nat.sccpConnections.find? fun conn => conn.patchedRef == con.patchedRef) = some (i, con) := by
      refine find?_unique hget (by simp) fun j other hother hq => ?_
      exact hrefs.patched j i other con hother hget (by simpa using hq)
    unfold removeSccpSrcRef
    rw [hfound]
  have hgone : ((nat.removeSccpSrcRef con.patchedRef).bscMaybeClose b).sccpConnections.get? i = none := by
    have hfewer : Fewer (nat.removeSccpSrcRef con.patchedRef)
        ((nat.removeSccpSrcRef con.patchedRef).bscMaybeClose b) := by
      unfold bscMaybeClose
      split
      · exact fun _ _ h => h
      · split
        · exact fun _ _ h => h
        · exact (fewer_bscCloseConnection _ b).1
    cases hlast : ((nat.removeSccpSrcRef con.patchedRef).bscMaybeClose b).sccpConnections.get? i with
    | none => rfl
    | some left =>
      have hdestroyed := hfewer i left hlast
      rw [hremove, get?_sccpConnectionDestroy, if_pos rfl] at hdestroyed
      cases hdestroyed
  refine ⟨?_, fun out hout => ?_⟩
  · unfold forwardRlc
    rw [hpatch]
    show (if con.conLocal = .msc then _ else _ : BscNat).sccpConnections.get? i = none
    rw [if_neg (by rw [hlocal]; decide)]
    exact hgone
  · have hmsc := ((wrote_forwardRlc hpatch).written out hout).1
    by_contra hfor
    rw [hlocal] at hmsc
    cases hmsc (by simpa using hfor)

/-- **Every step that meets the condition shields.** -/
theorem shielded_step (hrefs : RefsDistinct s.nat) (hcond : EndsInOrder (s, d) ev) : Shielded lib s d ev where
  rlsd rlsd hmem hnames := written_mscRlsd hcond hmem hnames
  clearCommand dest data hev hclear hdiverted := by
    rw [hev]
    exact clearCommand_ignored hrefs hclear hdiverted
  stays := staysDiverted_step hrefs
  rlc b now dest src bsc i con hev htaken hfind hdiverted := by
    have hstep : (s.step lib ev).nat = s.nat.forwardRlc b src (.rlc dest src) := by
      rw [hev]
      exact forwardSccpToMsc_of_takenUp htaken now
    rw [hstep]
    exact forwardRlc_diverted hrefs hfind hdiverted
  bscRlsd b r bsc i con hev htaken hfind hdiverted := by
    have hnone := hcond.bsc (b, r) hev
    rw [hfind, Option.any_some, hdiverted] at hnone
    cases hnone

end Step

/-! ## Runs -/

/-- **Every end of a diverted connection is released once.** The MSC is told what it asked for, in order; no connection
    is freed twice, and one that was diverted is freed when it is gone. -/
structure ReleasedOnce (s : UssdNat) (d : Diversions) : Prop where
  msc : d.told = d.released.map fun rlsd => .toMsc rlsd.answer
  nodup : d.freed.Nodup
  bsc : ∀ i ∈ d.ids, i ∈ d.freed ↔ s.nat.sccpConnections.get? i = none

/-- What the induction over a run carries. -/
structure DiversionInv (s : UssdNat) (d : Diversions) : Prop where
  refs : RefsDistinct s.nat
  freed : Pool.Freed s.nat.sccpConnections d.freed
  ids : ∀ i ∈ d.ids, i ∈ d.freed ∨ ∃ con, s.nat.sccpConnections.get? i = some con
  msc : d.told = d.released.map fun rlsd => .toMsc rlsd.answer

section Run

variable {lib : Osmocore} {s : UssdNat} {d : Diversions} {ev : UssdEvent}

theorem DiversionInv.releasedOnce (h : DiversionInv s d) : ReleasedOnce s d := by
  refine ⟨h.msc, h.freed.nodup, fun i hi => ⟨fun hfreed => (h.freed.gone i hfreed).2, fun hnone => ?_⟩⟩
  obtain hfreed | ⟨con, hcon⟩ := h.ids i hi
  · exact hfreed
  · rw [hnone] at hcon
    cases hcon

theorem DiversionInv.step (h : DiversionInv s d) (hcond : EndsInOrder (s, d) ev) :
    DiversionInv (s.step lib ev) (d.note s ev (s.step lib ev)) where
  refs := refsDistinct_step h.refs lib ev
  freed := h.freed.step (aged_step lib s ev)
  ids i hi := by
    show i ∈ d.freed ++ s.nat.sccpConnections.freedIn (s.step lib ev).nat.sccpConnections ∨ _
    rw [List.mem_append, mem_freedIn]
    rcases List.mem_append.mp hi with hi | hi
    · obtain hfreed | hlive := h.ids i hi
      · exact .inl (.inl hfreed)
      · cases hafter : (s.step lib ev).nat.sccpConnections.get? i with
        | none => exact .inl (.inr ⟨hlive, rfl⟩)
        | some con => exact .inr ⟨con, rfl⟩
    · obtain ⟨e, he, rfl⟩ := List.mem_map.mp hi
      exact .inr ⟨e.2, get?_eq_some.mpr (List.mem_of_mem_filter he)⟩
  msc := by
    show d.told ++ _ = (d.released ++ _).map _
    rw [h.msc, List.map_append, told_step h.refs hcond]

theorem DiversionInv.reachable {p : UssdNat × Diversions} (h : ReachableBy (diversionSystem lib) EndsInOrder p) :
    DiversionInv p.1 p.2 := by
  refine h.invariant (I := fun p => DiversionInv p.1 p.2) ?_ ?_
  · rintro ⟨s, d⟩ ⟨⟨cfg, rfl⟩, rfl⟩
    exact ⟨refsDistinct_start cfg, freed_nil _, fun i hi => absurd hi List.not_mem_nil, rfl⟩
  · rintro ⟨s, d⟩ ev ⟨s', d'⟩ hinv hcond ⟨hs', hd'⟩
    obtain rfl : s' = s.step lib ev := hs'
    obtain rfl : d' = d.note s ev (s.step lib ev) := hd'
    exact hinv.step hcond

/-- **Diverted connections.** In every run in which the provider ends them first, each of their ends is released once,
    and every further step keeps them from the MSC. -/
theorem diversion_shields {lib : Osmocore} {s : UssdNat} {d : Diversions}
    (h : ReachableBy (diversionSystem lib) EndsInOrder (s, d)) :
    ReleasedOnce s d ∧ ∀ ev, EndsInOrder (s, d) ev → Shielded lib s d ev :=
  ⟨(DiversionInv.reachable h).releasedOnce, fun _ hcond => shielded_step (DiversionInv.reachable h).refs hcond⟩

end Run

/-! ## Two runs -/

instance (p : UssdNat × Diversions) (ev : UssdEvent) : Decidable (EndsInOrder p ev) :=
  decidable_of_iff
    ((∀ rlsd ∈ ev.mscRlsd?, p.2.names p.1.nat rlsd = true →
        rlsd.msg.parses = true ∧ p.1.nat.sccpRefIsFree rlsd.dest = true) ∧
      ∀ r ∈ ev.bscRlsd?, ((p.1.nat.findByRealRef r.1 r.2.src).any fun found => found.2.diverted) = false)
    ⟨fun h => ⟨h.1, h.2⟩, fun h => ⟨h.msc, h.bsc⟩⟩

/-- A step with its record, as a function. -/
def diversionStep (p : UssdNat × Diversions) (ev : UssdEvent) : UssdNat × Diversions :=
  (p.1.step ussdLib ev, p.2.note p.1 ev (p.1.step ussdLib ev))

/-- The NAT before anything happened. -/
def undiverted : UssdNat × Diversions := ({ nat := BscNat.start ussdConfig }, {})

/-- A request is diverted. -/
def diversion : List UssdEvent := connected ++ providerArrives ++ [register]

/-- The provider releases the connection, and the BSC completes that; then the MSC releases it. -/
def providerFirst : List UssdEvent :=
  diversion ++ [.sccp 0 (.rlsd 2 9 none), .nat (.fromBsc 0 0 (.sccp (.rlc 9 2))),
    .nat (.fromMsc (.rlsd 0x50000 9 none))]

theorem step_diversionStep (p : UssdNat × Diversions) (ev : UssdEvent) :
    (diversionSystem ussdLib).step p ev (diversionStep p ev) := ⟨rfl, rfl⟩

/-- The provider is first: the connection is freed, and the MSC gets one answer. -/
theorem diversion_shields_providerFirst :
    ∃ s d, d.freed = [0] ∧ d.told = [.toMsc (.rlc 9 0x50000)] ∧ ReleasedOnce s d := by
  have hreach : ReachableBy (diversionSystem ussdLib) EndsInOrder (providerFirst.foldl diversionStep undiverted) :=
    ReachableBy.along step_diversionStep (.init ⟨⟨ussdConfig, rfl⟩, rfl⟩) (by decide +kernel)
  exact ⟨_, _, by decide +kernel, by decide +kernel, (diversion_shields hreach).1⟩

/-- **The MSC is first**: its RLSD goes to the BSC, and it gets no answer. -/
theorem not_diversion_shields_mscFirst :
    ¬∀ (lib : Osmocore) (s : UssdNat) (d : Diversions), Reachable (diversionSystem lib) (s, d) →
      ReleasedOnce s d ∧ ∀ ev, Shielded lib s d ev := by
  intro h
  have hreach : Reachable (diversionSystem ussdLib) (diversion.foldl diversionStep undiverted) :=
    ReachableBy.foldl step_diversionStep diversion (.init ⟨⟨ussdConfig, rfl⟩, rfl⟩)
  have hanswered := ((h ussdLib _ _ hreach).2 (.nat (.fromMsc (.rlsd 0x50000 9 none)))).rlsd ⟨0x50000, 9, none⟩ rfl
    (by decide +kernel)
  exact absurd hanswered (by decide +kernel)

end OpenBsc.OsmoBscNat
