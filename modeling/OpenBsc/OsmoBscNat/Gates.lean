import OpenBsc.OsmoBscNat.References

/-!
# `OsmoBscNat.Gates` — what decides whether a connection is filtered, and what is written

Two fields of a connection decide whether its data is filtered: where it is terminated, and whether its IMSI was
checked. Every function but the dispatcher of SCCP messages from a BSC leaves them alone (`GatesKept`). `Wrote`
says what a step adds to the messages written.
-/

namespace OpenBsc.OsmoBscNat

open Transition Relation BscNat List

/-! ## Frames -/

/-- The connection is filtered as it was. -/
structure SameGate (con con' : SccpConnections) : Prop where
  conLocal : con'.conLocal = con.conLocal
  imsiChecked : con'.imsiChecked = con.imsiChecked

theorem SameGate.refl (con : SccpConnections) : SameGate con con := ⟨rfl, rfl⟩

/-- Every connection was there before, and is filtered as it was. -/
def GatesKept (nat nat' : BscNat) : Prop :=
  ∀ i con', nat'.sccpConnections.get? i = some con' → ∃ con, nat.sccpConnections.get? i = some con ∧ SameGate con con'

theorem GatesKept.refl (nat : BscNat) : GatesKept nat nat := fun _ con h => ⟨con, h, .refl con⟩

theorem GatesKept.trans {a b c : BscNat} (h : GatesKept a b) (h' : GatesKept b c) : GatesKept a c := by
  intro i con' hi
  obtain ⟨con, hcon, hsame⟩ := h' i con' hi
  obtain ⟨con₀, hcon₀, hsame₀⟩ := h i con hcon
  exact ⟨con₀, hcon₀, hsame.conLocal.trans hsame₀.conLocal, hsame.imsiChecked.trans hsame₀.imsiChecked⟩

variable {nat nat' : BscNat}

theorem gatesKept_of_cons (h : nat'.sccpConnections = nat.sccpConnections) : GatesKept nat nat' := by
  intro i con hi
  rw [h] at hi
  exact ⟨con, hi, .refl con⟩

theorem gatesKept_foldl {α : Type*} {f : BscNat → α → BscNat} (hf : ∀ nat a, GatesKept nat (f nat a))
    (l : List α) (nat : BscNat) : GatesKept nat (l.foldl f nat) := by
  induction l generalizing nat with
  | nil => exact .refl nat
  | cons a l ih => exact (hf nat a).trans (ih (f nat a))

section

variable (nat : BscNat)

theorem gatesKept_modifyCon (i : Nat) {f : SccpConnections → SccpConnections}
    (hf : ∀ con, SameGate con (f con)) : GatesKept nat (nat.modifyCon i f) := by
  intro j con' hj
  have hmod : (nat.sccpConnections.modify i f).get? j = some con' := hj
  rw [Pool.get?_modify] at hmod
  by_cases hji : j = i
  · rw [if_pos hji] at hmod
    obtain ⟨con, hcon, rfl⟩ := Option.map_eq_some_iff.mp hmod
    exact ⟨con, hcon, hf con⟩
  · rw [if_neg hji] at hmod
    exact ⟨con', hmod, .refl con'⟩

theorem gatesKept_bscMgcpDlcx (i : Nat) : GatesKept nat (nat.bscMgcpDlcx i) := by
  intro j con' hj
  rw [get?_bscMgcpDlcx] at hj
  by_cases hji : j = i
  · rw [if_pos hji] at hj
    obtain ⟨con, hcon, rfl⟩ := Option.map_eq_some_iff.mp hj
    exact ⟨con, hcon, rfl, rfl⟩
  · rw [if_neg hji] at hj
    exact ⟨con', hj, .refl con'⟩

theorem gatesKept_sccpConnectionDestroy (i : Nat) : GatesKept nat (nat.sccpConnectionDestroy i) := by
  intro j con' hj
  rw [get?_sccpConnectionDestroy] at hj
  by_cases hji : j = i
  · rw [if_pos hji] at hj
    cases hj
  · rw [if_neg hji] at hj
    exact ⟨con', hj, .refl con'⟩

theorem gatesKept_removeSccpSrcRef (src : SccpSourceReference) :
    GatesKept nat (nat.removeSccpSrcRef src) := by
  unfold removeSccpSrcRef
  split
  · exact .refl nat
  · exact gatesKept_sccpConnectionDestroy nat _

theorem gatesKept_closeSccp (b i : Nat) : GatesKept nat (nat.closeSccp b i) := by
  intro j con' hj
  rw [get?_closeSccp] at hj
  split at hj
  · cases hj
  · exact ⟨con', hj, .refl con'⟩

theorem gatesKept_bscMgcpFreeEndpoints : GatesKept nat nat.bscMgcpFreeEndpoints :=
  gatesKept_foldl (f := bscMgcpFreeEndpoint) (fun _ _ => gatesKept_of_cons rfl) _ nat

theorem gatesKept_bscMgcpClearEndpointsFor (b : Nat) :
    GatesKept nat (nat.bscMgcpClearEndpointsFor b) := by
  refine gatesKept_foldl (fun nat i => ?_) _ nat
  split
  · exact gatesKept_of_cons rfl
  · exact .refl nat

theorem gatesKept_bscCloseConnection (b : Nat) : GatesKept nat (nat.bscCloseConnection b) := by
  have hloop := gatesKept_foldl (fun nat i => gatesKept_closeSccp nat b i) nat.sccpConnections.ids nat
  exact (hloop.trans (gatesKept_bscMgcpClearEndpointsFor _ b)).trans (gatesKept_of_cons rfl)

theorem gatesKept_bscMaybeClose (b : Nat) : GatesKept nat (nat.bscMaybeClose b) := by
  unfold bscMaybeClose
  split
  · exact .refl nat
  · split
    · exact .refl nat
    · exact gatesKept_bscCloseConnection nat b

theorem gatesKept_sccpCloseUnconfirmed (now : Nat) : GatesKept nat (nat.sccpCloseUnconfirmed now) := by
  have hdestroy := gatesKept_foldl gatesKept_sccpConnectionDestroy
    (nat.sccpConnections.ids.filter fun i => nat.overdue now i) nat
  unfold sccpCloseUnconfirmed
  simp only
  split
  · exact hdestroy
  · exact hdestroy.trans (gatesKept_foldl gatesKept_bscMaybeClose _ _)

theorem gatesKept_mscConnectionWasLost : GatesKept nat nat.mscConnectionWasLost := by
  have hlost : GatesKept nat { nat with mscConnected := false } := gatesKept_of_cons rfl
  exact (hlost.trans (gatesKept_foldl gatesKept_bscCloseConnection _ _)).trans (gatesKept_bscMgcpFreeEndpoints _)

end

/-! ### From the MSC and the call agent -/

theorem sameGate_updateConAuthorize (msg : SccpMsg) (con : SccpConnections) :
    SameGate con (updateConAuthorize msg con) := by
  have hrefl := SameGate.refl con
  unfold updateConAuthorize
  split
  · exact hrefl
  · split
    · exact ⟨rfl, rfl⟩
    · split
      · split
        · exact hrefl
        · split
          · exact ⟨rfl, rfl⟩
          · exact hrefl
      · exact hrefl

theorem gatesKept_deliverToBsc (nat : BscNat) (i : Nat) (msg : SccpMsg) : GatesKept nat (nat.deliverToBsc i msg) := by
  unfold deliverToBsc
  split
  · exact .refl nat
  · split
    · exact .refl nat
    · split
      · exact .refl nat
      · exact (gatesKept_modifyCon nat i (sameGate_updateConAuthorize msg)).trans (gatesKept_of_cons rfl)

theorem gatesKept_clearStale (nat : BscNat) (endp : Nat) : GatesKept nat (nat.clearStale endp) := by
  refine gatesKept_foldl (fun nat j => ?_) _ nat
  split
  · exact gatesKept_bscMgcpDlcx nat j
  · exact .refl nat

theorem gatesKept_assignEndpoints (nat : BscNat) (i endp : Nat) : GatesKept nat (nat.assignEndpoints i endp).1 := by
  have hstale := (gatesKept_clearStale nat endp).trans
    (gatesKept_modifyCon _ i (f := fun con => { con with mscEndp := some endp }) fun con => ⟨rfl, rfl⟩)
  unfold assignEndpoints
  simp only
  split
  · exact hstale
  · split
    · exact hstale
    · split
      · exact hstale.trans (gatesKept_of_cons rfl)
      · refine GatesKept.trans ?_ (gatesKept_modifyCon _ i fun con => ⟨rfl, rfl⟩)
        exact hstale.trans (gatesKept_of_cons rfl)

theorem gatesKept_unknownConnection (nat : BscNat) (msg : SccpMsg) : GatesKept nat (nat.unknownConnection msg) :=
  gatesKept_of_cons (quiet_unknownConnection nat msg).cons

theorem gatesKept_dataToBts (lib : Osmocore) (nat : BscNat) (msg : SccpMsg) :
    GatesKept nat (nat.dataToBts lib msg) := by
  unfold dataToBts
  split
  · exact gatesKept_unknownConnection nat _
  · rename_i i con msg' hpatch
    split
    · have hassign : GatesKept nat (bscMgcpAssignPatch lib nat i (msg'.l3.getD [])).1 := by
        rw [bscMgcpAssignPatch_fst]
        split
        · exact .refl nat
        · exact gatesKept_assignEndpoints nat i _
      exact hassign.trans (gatesKept_deliverToBsc _ i _)
    · split
      · exact gatesKept_unknownConnection nat _
      · exact gatesKept_deliverToBsc nat i _

theorem gatesKept_forwardSccpToBts (lib : Osmocore) (nat : BscNat) (msg : SccpMsg) :
    GatesKept nat (nat.forwardSccpToBts lib msg) := by
  have hdata := gatesKept_dataToBts lib nat msg
  have hall : GatesKept nat (nat.sendToAll lib msg) := by
    unfold sendToAll
    split
    · split
      · exact .refl nat
      · exact gatesKept_of_cons (quiet_sendAll nat _).cons
    · exact gatesKept_of_cons (quiet_sendAll nat _).cons
  unfold forwardSccpToBts
  split
  · exact .refl nat
  · split
    · exact .refl nat
    · cases msg with
      | udt ssn data => exact hall
      | rlsd | cref | dt1 | it => exact hdata
      | cc dest src data =>
        simp only
        split
        · exact .refl nat
        · rename_i i con' msg' hpatch
          have hconfirm : GatesKept nat (nat.updateSccpSrcRef i src) :=
            gatesKept_modifyCon nat i fun con => ⟨rfl, rfl⟩
          exact hconfirm.trans (gatesKept_deliverToBsc _ i _)
      | rlc | cr | err => exact .refl nat

theorem gatesKept_bscMgcpForward (nat : BscNat) (b : Nat) (response : MgcpResponse) :
    GatesKept nat (nat.bscMgcpForward b response) := by
  unfold bscMgcpForward
  split
  · exact .refl nat
  · simp only
    split
    · exact .refl nat
    · split
      · unfold freeChanDownstream
        refine GatesKept.trans ?_ (gatesKept_of_cons rfl)
        split
        · split
          · exact .refl nat
          · split
            · exact gatesKept_of_cons rfl
            · exact .refl nat
        · exact .refl nat
      · exact gatesKept_of_cons rfl

theorem gatesKept_bscMgcpPolicyCb (nat : BscNat) (endpoint : Nat) (state : MgcpEndpState)
    (transactionId : List Octet) (rewritten : Bool) :
    GatesKept nat (nat.bscMgcpPolicyCb endpoint state transactionId rewritten).1 := by
  unfold bscMgcpPolicyCb
  simp only
  split
  · exact gatesKept_of_cons rfl
  · split
    · exact gatesKept_of_cons rfl
    · split
      · refine GatesKept.trans ?_ (gatesKept_bscMgcpDlcx _ _)
        exact gatesKept_of_cons rfl
      · exact gatesKept_of_cons rfl

/-- An SCCP message of a BSC. -/
def NatEvent.isBscSccp : NatEvent → Bool
  | .fromBsc _ _ (.sccp _) => true
  | _ => false

/-- **Only an SCCP message of a BSC changes how a connection is filtered.** -/
theorem gatesKept_natStep (lib : Osmocore) (nat : BscNat) {ev : NatEvent} (h : ev.isBscSccp = false) :
    GatesKept nat (natStep lib nat ev) := by
  cases ev with
  | accept =>
    show GatesKept nat (if _ then _ else nat)
    split
    · exact gatesKept_of_cons rfl
    · exact .refl nat
  | fromBsc b now msg =>
    show GatesKept nat (nat.forwardSccpToMsc lib b now msg)
    unfold forwardSccpToMsc
    split
    · exact .refl nat
    · cases msg with
      | sccp msg => cases h
      | mgcp response =>
        simp only
        split
        · exact .refl nat
        · exact gatesKept_bscMgcpForward nat b response
      | idResp unitName =>
        cases unitName with
        | none => exact .refl nat
        | some unitName => exact gatesKept_of_cons rfl
      | ipa => exact .refl nat
  | fromMsc msg => exact gatesKept_forwardSccpToBts lib nat msg
  | mgcpCommand endpoint state transactionId rewritten =>
    exact gatesKept_bscMgcpPolicyCb nat endpoint state transactionId rewritten
  | closeBsc b => exact gatesKept_bscCloseConnection nat b
  | closeUnconfirmed now => exact gatesKept_sccpCloseUnconfirmed nat now
  | mscConnected => exact gatesKept_of_cons rfl
  | mscLost => exact gatesKept_mscConnectionWasLost nat
  | block blocked => exact gatesKept_of_cons rfl
  | ussdCon connected =>
    cases connected with
    | true => exact gatesKept_of_cons rfl
    | false => exact gatesKept_of_cons (quiet_sendAll nat _).cons
  | setLastEndpoint nr endp =>
    refine gatesKept_foldl (fun nat b => ?_) _ nat
    exact gatesKept_of_cons rfl

/-! ## Outputs -/

/-- Only such messages are written. -/
def Wrote (P : NatOut → Prop) (nat nat' : BscNat) : Prop :=
  ∃ outs, nat'.outbox = nat.outbox ++ outs ∧ ∀ out ∈ outs, P out

/-- What is written in a step. -/
def written (nat nat' : BscNat) : List NatOut := nat'.outbox.drop nat.outbox.length

variable {P Q : NatOut → Prop}

theorem Wrote.of_eq (h : nat'.outbox = nat.outbox) : Wrote P nat nat' :=
  ⟨[], by rw [h, append_nil], by simp⟩

theorem Wrote.trans {a b c : BscNat} (h : Wrote P a b) (h' : Wrote P b c) : Wrote P a c := by
  obtain ⟨outs, heq, hall⟩ := h
  obtain ⟨outs', heq', hall'⟩ := h'
  refine ⟨outs ++ outs', by rw [heq', heq, append_assoc], ?_⟩
  intro out hout
  rcases mem_append.mp hout with hout | hout
  · exact hall out hout
  · exact hall' out hout

theorem Wrote.mono (h : Wrote P nat nat') (hPQ : ∀ out, P out → Q out) : Wrote Q nat nat' := by
  obtain ⟨outs, heq, hall⟩ := h
  exact ⟨outs, heq, fun out hout => hPQ out (hall out hout)⟩

theorem Wrote.written (h : Wrote P nat nat') : ∀ out ∈ written nat nat', P out := by
  obtain ⟨outs, heq, hall⟩ := h
  unfold OsmoBscNat.written
  rw [heq, drop_left]
  exact hall

theorem wrote_send (nat : BscNat) {out : NatOut} (h : P out) : Wrote P nat (nat.send out) :=
  ⟨[out], rfl, by simpa using h⟩

theorem wrote_sendAll (nat : BscNat) {outs : List NatOut} (h : ∀ out ∈ outs, P out) :
    Wrote P nat (nat.sendAll outs) := by
  unfold sendAll
  induction outs generalizing nat with
  | nil => exact .of_eq rfl
  | cons out outs ih =>
    have hhead := wrote_send nat (h out mem_cons_self)
    exact hhead.trans (ih (nat.send out) fun out' hout => h out' (mem_cons_of_mem _ hout))

theorem wrote_queueForMsc (nat : BscNat) (mscCon : Bool) {msg : SccpMsg} (h : P (.toMsc msg)) :
    Wrote P nat (nat.queueForMsc mscCon msg) := by
  unfold queueForMsc
  split
  · exact wrote_send nat h
  · exact .of_eq rfl

/-- A DLCX the NAT makes up. -/
def NatOut.isDlcx : NatOut → Bool
  | .dlcx .. => true
  | _ => false

section

variable (nat : BscNat)

theorem wrote_bscMgcpDlcx (i : Nat) : Wrote (·.isDlcx = true) nat (nat.bscMgcpDlcx i) := by
  unfold bscMgcpDlcx
  split
  · exact .of_eq rfl
  · rename_i con hget
    show Wrote _ nat (nat.freeEndpointOf con)
    unfold freeEndpointOf
    split
    · split
      · exact ⟨[.dlcx con.bsc _], rfl, by simp [NatOut.isDlcx]⟩
      · exact .of_eq rfl
    · exact .of_eq rfl

theorem wrote_sccpConnectionDestroy (i : Nat) :
    Wrote (·.isDlcx = true) nat (nat.sccpConnectionDestroy i) :=
  (wrote_bscMgcpDlcx nat i).trans (.of_eq rfl)

theorem wrote_removeSccpSrcRef (src : SccpSourceReference) :
    Wrote (·.isDlcx = true) nat (nat.removeSccpSrcRef src) := by
  unfold removeSccpSrcRef
  split
  · exact .of_eq rfl
  · exact wrote_sccpConnectionDestroy nat _

theorem wrote_createSccpSrcRef (b : Nat) (src : SccpSourceReference) (now : Nat) :
    Wrote (·.isDlcx = true) nat (nat.createSccpSrcRef b src now).1 := by
  have hcases := createSccpSrcRef_cases nat b src now
  generalize nat.createSccpSrcRef b src now = out at hcases ⊢
  cases hcases with
  | renewed hfind hfree hok =>
    rename_i i con ref last
    have hlast : Wrote (·.isDlcx = true) nat
        (modifyCon { nat with lastRef := last } i fun con => renewed con ref now) := .of_eq rfl
    exact hlast.trans (wrote_bscMgcpDlcx _ i)
  | dropped hfind hok =>
    rename_i i con last
    have hlast : Wrote (·.isDlcx = true) nat { nat with lastRef := last } := .of_eq rfl
    exact hlast.trans (wrote_sccpConnectionDestroy _ i)
  | new | failed => exact .of_eq rfl

theorem bscMgcpClearEndpointsFor_outbox (b : Nat) :
    (nat.bscMgcpClearEndpointsFor b).outbox = nat.outbox := by
  unfold bscMgcpClearEndpointsFor
  induction List.range' 1 (nat.cfg.numberEndpoints - 1) generalizing nat with
  | nil => rfl
  | cons i l ih =>
    rw [foldl_cons, ih]
    split <;> rfl

theorem bscMaybeClose_outbox (b : Nat) : (nat.bscMaybeClose b).outbox = nat.outbox := by
  unfold bscMaybeClose
  split
  · rfl
  · split
    · rfl
    · rename_i hnone
      have hother : ∀ i con, nat.sccpConnections.get? i = some con → con.bsc ≠ b := by
        intro i con hi hb
        rw [Option.not_isSome_iff_eq_none] at hnone
        have hq := Pool.find?_eq_none.mp hnone i con hi
        simp [hb] at hq
      have hloop : ∀ l : List Nat, l.foldl (fun nat i => nat.closeSccp b i) nat = nat := by
        intro l
        induction l with
        | nil => rfl
        | cons i l ih =>
          have hround : nat.closeSccp b i = nat := by
            unfold closeSccp
            cases hget : nat.sccpConnections.get? i with
            | none => rfl
            | some conn =>
              simp only
              rw [if_pos (hother i conn hget)]
          rw [foldl_cons, hround, ih]
      show (bscMgcpClearEndpointsFor _ b).outbox = _
      rw [bscMgcpClearEndpointsFor_outbox, hloop]

end

end OpenBsc.OsmoBscNat
