import OpenBsc.OsmoBscNat.Forward

/-!
# `OsmoBscNat.Ops` — the steps the handlers are made of

Most of what the NAT does to its tables is a chain of five kinds of micro steps (`NatOp`): nothing at all,
a change of a connection that leaves its references and endpoints alone, the release of its endpoints, its
removal, and the end of a BSC connection that has none. `NatOp own` only touches connections of the BSCs in
`own`. What the rest does is said by `createSccpSrcRef`, `updateSccpSrcRef` and `assignEndpoints` themselves.
-/

namespace OpenBsc.OsmoBscNat

open Transition Relation BscNat Pool BscNat.UssdCheck BscConnection

/-! ## Micro steps -/

/-- The tables are as they were. -/
structure Quiet (nat nat' : BscNat) : Prop where
  cons : nat'.sccpConnections = nat.sccpConnections
  lastRef : nat'.lastRef = nat.lastRef
  inUse : ∀ b e, nat'.endpointInUse b e = nat.endpointInUse b e

/-- The connection belongs to the same BSC, with the same references and endpoints. -/
structure SameKeys (con con' : SccpConnections) : Prop where
  bsc : con'.bsc = con.bsc
  realRef : con'.realRef = con.realRef
  patchedRef : con'.patchedRef = con.patchedRef
  remoteRef : con'.remoteRef = con.remoteRef
  mscEndp : con'.mscEndp = con.mscEndp
  bscEndp : con'.bscEndp = con.bscEndp

theorem SameKeys.refl (con : SccpConnections) : SameKeys con con := ⟨rfl, rfl, rfl, rfl, rfl, rfl⟩

theorem SameKeys.trans {a b c : SccpConnections} (h : SameKeys a b) (h' : SameKeys b c) : SameKeys a c :=
  ⟨h'.bsc.trans h.bsc, h'.realRef.trans h.realRef, h'.patchedRef.trans h.patchedRef,
    h'.remoteRef.trans h.remoteRef, h'.mscEndp.trans h.mscEndp, h'.bscEndp.trans h.bscEndp⟩

/-- The micro steps that touch only connections of the BSCs in `own`. -/
inductive NatOp (own : Nat → Prop) : BscNat → BscNat → Prop where
  | quiet {nat nat' : BscNat} (h : Quiet nat nat') : NatOp own nat nat'
  | touch {nat : BscNat} {i : Nat} {con con' : SccpConnections} (h : nat.sccpConnections.get? i = some con)
      (hown : own con.bsc) (hkeys : SameKeys con con') : NatOp own nat (nat.setCon i con')
  | dlcx {nat : BscNat} {i : Nat} {con : SccpConnections} (h : nat.sccpConnections.get? i = some con)
      (hown : own con.bsc) : NatOp own nat (nat.bscMgcpDlcx i)
  | remove {nat : BscNat} {i : Nat} {con : SccpConnections} (h : nat.sccpConnections.get? i = some con)
      (hown : own con.bsc) (hendp : con.bscEndp = none) : NatOp own nat (nat.removeCon i)
  | bscGone {nat : BscNat} {b : Nat}
      (hnone : ∀ i con, nat.sccpConnections.get? i = some con → con.bsc ≠ b) :
      NatOp own nat { nat with bscConnections := nat.bscConnections.remove b }

/-- Chains of micro steps. -/
abbrev NatOps (own : Nat → Prop) : BscNat → BscNat → Prop := ReflTransGen (NatOp own)

theorem NatOp.mono {own own' : Nat → Prop} (hown : ∀ b, own b → own' b) {nat nat' : BscNat}
    (h : NatOp own nat nat') : NatOp own' nat nat' := by
  cases h with
  | quiet h => exact .quiet h
  | touch h ho hk => exact .touch h (hown _ ho) hk
  | dlcx h ho => exact .dlcx h (hown _ ho)
  | remove h ho he => exact .remove h (hown _ ho) he
  | bscGone h => exact .bscGone h

theorem NatOps.mono {own own' : Nat → Prop} (hown : ∀ b, own b → own' b) {nat nat' : BscNat}
    (h : NatOps own nat nat') : NatOps own' nat nat' :=
  ReflTransGen.mono (fun _ _ hop => NatOp.mono hown hop) _ _ h

theorem Quiet.ops {own : Nat → Prop} {nat nat' : BscNat} (h : Quiet nat nat') : NatOps own nat nat' :=
  .single (.quiet h)

/-! ## What is quiet -/

theorem quiet_send (nat : BscNat) (out : NatOut) : Quiet nat (nat.send out) := ⟨rfl, rfl, fun _ _ => rfl⟩

theorem quiet_sendAll (nat : BscNat) (outs : List NatOut) : Quiet nat (nat.sendAll outs) := by
  unfold sendAll
  induction outs generalizing nat with
  | nil => exact ⟨rfl, rfl, fun _ _ => rfl⟩
  | cons out outs ih =>
    obtain ⟨hcons, hlast, huse⟩ := ih (nat.send out)
    exact ⟨hcons, hlast, huse⟩

theorem quiet_queueForMsc (nat : BscNat) (mscCon : Bool) (msg : SccpMsg) :
    Quiet nat (nat.queueForMsc mscCon msg) := by
  unfold queueForMsc
  split
  · exact quiet_send nat _
  · exact ⟨rfl, rfl, fun _ _ => rfl⟩

theorem quiet_modifyEndpoint (nat : BscNat) (i : Nat) (f : BscEndpoint → BscEndpoint) :
    Quiet nat (nat.modifyEndpoint i f) := ⟨rfl, rfl, fun _ _ => rfl⟩

variable {nat : BscNat}

/-- Which endpoints are in use depends on the status arrays only. -/
theorem quiet_modifyBsc {b : Nat} {f : BscConnection → BscConnection}
    (hf : ∀ bsc, nat.bscConnections.get? b = some bsc → ∀ e, (f bsc).inUse e = bsc.inUse e) :
    Quiet nat (nat.modifyBsc b f) := by
  refine ⟨rfl, rfl, ?_⟩
  intro b' e
  show ((nat.bscConnections.modify b f).get? b').any _ = (nat.bscConnections.get? b').any _
  rw [get?_modify]
  by_cases hb : b' = b
  · subst hb
    rw [if_pos rfl]
    cases hbsc : nat.bscConnections.get? b' with
    | none => rfl
    | some bsc => exact hf bsc hbsc e
  · rw [if_neg hb]

@[simp] theorem sendAll_sccpConnections (nat : BscNat) (outs : List NatOut) :
    (nat.sendAll outs).sccpConnections = nat.sccpConnections := (quiet_sendAll nat outs).cons

@[simp] theorem queueForMsc_sccpConnections (nat : BscNat) (mscCon : Bool) (msg : SccpMsg) :
    (nat.queueForMsc mscCon msg).sccpConnections = nat.sccpConnections := (quiet_queueForMsc nat mscCon msg).cons

variable {own : Nat → Prop}

theorem ops_bscMgcpClearEndpointsFor (nat : BscNat) (b : Nat) :
    NatOps own nat (nat.bscMgcpClearEndpointsFor b) := by
  refine closure_foldl (fun nat i => ?_) _ nat
  split
  · exact (quiet_modifyEndpoint nat i _).ops
  · exact .refl

theorem ops_bscMgcpFreeEndpoints (nat : BscNat) : NatOps own nat nat.bscMgcpFreeEndpoints :=
  closure_foldl (fun nat i => (quiet_modifyEndpoint nat i _).ops) _ nat

/-! ## The release of endpoints -/

theorem freeEndpointOf_sccpConnections (nat : BscNat) (con : SccpConnections) :
    (nat.freeEndpointOf con).sccpConnections = nat.sccpConnections := by
  unfold freeEndpointOf
  split
  · split <;> rfl
  · rfl

theorem freeEndpointOf_lastRef (nat : BscNat) (con : SccpConnections) :
    (nat.freeEndpointOf con).lastRef = nat.lastRef := by
  unfold freeEndpointOf
  split
  · split <;> rfl
  · rfl

theorem inUse_set (bsc : BscConnection) (e e' : Nat) :
    { bsc with endpointStatus := bsc.endpointStatus.map (·.set e false) : BscConnection }.inUse e' =
      if e' = e then false else bsc.inUse e' := by
  unfold inUse
  cases bsc.endpointStatus with
  | none => simp
  | some status =>
    show ((status.set e false)[e']?).getD false = _
    rw [List.getElem?_set]
    by_cases he : e = e'
    · rw [if_pos he, if_pos he.symm]
      split <;> rfl
    · rw [if_neg he, if_neg (Ne.symm he)]

theorem inUse_releaseEndpoint (nat : BscNat) (b e b' e' : Nat) :
    (nat.releaseEndpoint b e).endpointInUse b' e' =
      if b' = b ∧ e' = e then false else nat.endpointInUse b' e' := by
  show ((nat.bscConnections.modify b _).get? b').any _ = _
  rw [get?_modify]
  by_cases hb : b' = b
  · subst hb
    unfold endpointInUse
    rw [if_pos rfl]
    cases nat.bscConnections.get? b' with
    | none => simp
    | some bsc =>
      show inUse _ e' = _
      rw [inUse_set]
      simp
  · rw [if_neg hb, if_neg fun h => hb h.1]
    rfl

/-- The status of an endpoint after the one of a connection is freed. An array that was never allocated has
    no endpoint in use. -/
theorem inUse_freeEndpointOf (nat : BscNat) (con : SccpConnections) (b e : Nat) :
    (nat.freeEndpointOf con).endpointInUse b e =
      if con.bsc = b ∧ con.bscEndp = some e then false else nat.endpointInUse b e := by
  unfold freeEndpointOf
  cases hendp : con.bscEndp with
  | none => simp
  | some e' =>
    cases hbsc : nat.bscConnections.get? con.bsc with
    | none =>
      by_cases hb : con.bsc = b
      · subst hb
        simp [endpointInUse, hbsc]
      · rw [if_neg fun h => hb h.1]
    | some bsc =>
      by_cases hstatus : bsc.endpointStatus.isSome = true
      · simp only [if_pos hstatus]
        refine (inUse_releaseEndpoint nat con.bsc e' b e).trans ?_
        simp only [Option.some.injEq, eq_comm]
      · simp only [if_neg hstatus]
        have hnone : bsc.endpointStatus = none := by simpa using hstatus
        by_cases hb : con.bsc = b
        · subst hb
          simp [endpointInUse, hbsc, inUse, hnone]
        · rw [if_neg fun h => hb h.1]

theorem get?_bscMgcpDlcx (nat : BscNat) (i j : Nat) :
    (nat.bscMgcpDlcx i).sccpConnections.get? j =
      if j = i then (nat.sccpConnections.get? j).map fun con => { con with mscEndp := none, bscEndp := none }
      else nat.sccpConnections.get? j := by
  unfold bscMgcpDlcx
  cases hcon : nat.sccpConnections.get? i with
  | none =>
    by_cases hj : j = i
    · subst hj
      rw [if_pos rfl, hcon]
      rfl
    · rw [if_neg hj]
  | some con =>
    rw [← freeEndpointOf_sccpConnections nat con]
    exact get?_modify _ _ _ _

theorem lastRef_bscMgcpDlcx (nat : BscNat) (i : Nat) : (nat.bscMgcpDlcx i).lastRef = nat.lastRef := by
  unfold bscMgcpDlcx
  split
  · rfl
  · exact freeEndpointOf_lastRef nat _

variable {i : Nat} {con : SccpConnections}

theorem inUse_bscMgcpDlcx (h : nat.sccpConnections.get? i = some con) (b e : Nat) :
    (nat.bscMgcpDlcx i).endpointInUse b e =
      if con.bsc = b ∧ con.bscEndp = some e then false else nat.endpointInUse b e := by
  unfold bscMgcpDlcx
  rw [h]
  exact inUse_freeEndpointOf nat con b e

/-! ## Ends of connections -/

theorem get?_sccpConnectionDestroy (nat : BscNat) (i j : Nat) :
    (nat.sccpConnectionDestroy i).sccpConnections.get? j =
      if j = i then none else nat.sccpConnections.get? j := by
  show ((nat.bscMgcpDlcx i).sccpConnections.remove i).get? j = _
  rw [get?_remove, get?_bscMgcpDlcx]
  split <;> rfl

theorem ops_sccpConnectionDestroy (h : nat.sccpConnections.get? i = some con) (hown : own con.bsc) :
    NatOps own nat (nat.sccpConnectionDestroy i) := by
  have hcon := get?_bscMgcpDlcx nat i i
  rw [if_pos rfl, h] at hcon
  exact (ReflTransGen.single (.dlcx h hown)).tail (.remove hcon hown rfl)

/-- Destroying a connection of which only other fields were changed before is destroying it. -/
theorem destroy_modifyCon {f : SccpConnections → SccpConnections} (h : nat.sccpConnections.get? i = some con)
    (hbsc : (f con).bsc = con.bsc) (hmsc : (f con).mscEndp = con.mscEndp) (hendp : (f con).bscEndp = con.bscEndp) :
    (nat.modifyCon i f).sccpConnectionDestroy i = nat.sccpConnectionDestroy i := by
  have hcon : (nat.modifyCon i f).sccpConnections.get? i = some (f con) := get?_modify_self h
  have hfree : (nat.modifyCon i f).freeEndpointOf (f con) =
      { nat.freeEndpointOf con with sccpConnections := nat.sccpConnections.modify i f } := by
    have hsame : (nat.modifyCon i f).bscConnections = nat.bscConnections := rfl
    unfold freeEndpointOf
    rw [hbsc, hmsc, hendp, hsame]
    cases con.bscEndp with
    | none => rfl
    | some e =>
      cases nat.bscConnections.get? con.bsc with
      | none => rfl
      | some bsc =>
        by_cases hstatus : bsc.endpointStatus.isSome = true
        · simp only [if_pos hstatus]
          rfl
        · simp only [if_neg hstatus]
          rfl
  unfold sccpConnectionDestroy bscMgcpDlcx
  rw [hcon, h]
  simp only [hfree]
  unfold removeCon bscMgcpInit modifyCon
  simp only [remove_modify, freeEndpointOf_sccpConnections]

theorem quiet_tellPeer (nat : BscNat) (conn : SccpConnections) : Quiet nat (nat.tellPeer conn) := by
  have hrefl : Quiet nat nat := ⟨rfl, rfl, fun _ _ => rfl⟩
  unfold tellPeer
  split
  · exact hrefl
  · cases conn.conLocal with
    | msc => exact quiet_queueForMsc _ _ _
    | ussd =>
      show Quiet nat (if nat.ussdCon then _ else _)
      split
      · exact quiet_send _ _
      · exact hrefl
    | localMachine => exact hrefl

theorem get?_closeSccp (nat : BscNat) (b i j : Nat) :
    (nat.closeSccp b i).sccpConnections.get? j =
      if j = i ∧ (nat.sccpConnections.get? i).any (·.bsc = b) then none
      else nat.sccpConnections.get? j := by
  unfold closeSccp
  cases hcon : nat.sccpConnections.get? i with
  | none => simp
  | some conn =>
    by_cases hb : conn.bsc = b
    · simp only [hb, ne_eq, not_true_eq_false, if_false]
      rw [get?_sccpConnectionDestroy, (quiet_tellPeer nat conn).cons]
      simp [hb]
    · simp [hb]

theorem ops_closeSccp (nat : BscNat) (b i : Nat) : NatOps (· = b) nat (nat.closeSccp b i) := by
  unfold closeSccp
  cases hcon : nat.sccpConnections.get? i with
  | none => exact .refl
  | some conn =>
    by_cases hb : conn.bsc = b
    · have hquiet := quiet_tellPeer nat conn
      rw [← hquiet.cons] at hcon
      simp only [if_neg (not_not_intro hb)]
      exact hquiet.ops.trans (ops_sccpConnectionDestroy hcon hb)
    · simp only [if_pos hb]
      exact .refl

/-- After the first loop of `bsc_close_connection` no connection of the BSC is left. -/
theorem get?_foldl_closeSccp (b : Nat) (l : List Nat) (nat : BscNat) {j : Nat}
    (h : (l.foldl (fun nat i => nat.closeSccp b i) nat).sccpConnections.get? j = some con) (hb : con.bsc = b) :
    nat.sccpConnections.get? j = some con ∧ j ∉ l := by
  induction l generalizing nat with
  | nil => exact ⟨h, List.not_mem_nil⟩
  | cons i l ih =>
    obtain ⟨hj, hnot⟩ := ih (nat.closeSccp b i) h
    rw [get?_closeSccp] at hj
    split at hj
    · cases hj
    · rename_i hkept
      refine ⟨hj, ?_⟩
      rintro (_ | ⟨_, hmem⟩)
      · exact hkept ⟨rfl, by simp [hj, hb]⟩
      · exact hnot hmem

theorem ops_bscCloseConnection (nat : BscNat) (b : Nat) : NatOps (· = b) nat (nat.bscCloseConnection b) := by
  have hloop : NatOps (· = b) nat (nat.sccpConnections.ids.foldl (fun nat i => nat.closeSccp b i) nat) :=
    closure_foldl (fun nat i => ops_closeSccp nat b i) _ nat
  refine (hloop.trans (ops_bscMgcpClearEndpointsFor _ b)).tail (.bscGone ?_)
  intro i con hcon hb
  -- freeing endpoints of the MSC side does not touch the connections
  have hsame : ∀ (l : List Nat) (nat : BscNat), (l.foldl (fun nat i =>
      if (nat.bscEndpoints.getD i {}).bsc = some b then nat.bscMgcpFreeEndpoint i else nat) nat).sccpConnections =
        nat.sccpConnections := by
    intro l
    induction l with
    | nil => exact fun _ => rfl
    | cons k l ih =>
      intro nat
      rw [List.foldl_cons, ih]
      split <;> rfl
  rw [bscMgcpClearEndpointsFor, hsame] at hcon
  obtain ⟨hlive, hnot⟩ := get?_foldl_closeSccp b _ nat hcon hb
  exact hnot (mem_ids.mpr ⟨con, hlive⟩)

theorem ops_bscMaybeClose (nat : BscNat) (b : Nat) : NatOps (· = b) nat (nat.bscMaybeClose b) := by
  unfold bscMaybeClose
  split
  · exact .refl
  · split
    · exact .refl
    · exact ops_bscCloseConnection nat b

theorem ops_removeSccpSrcRef {nat : BscNat} {src : SccpSourceReference}
    (hown : ∀ i con, (nat.sccpConnections.find? fun conn => conn.patchedRef == src) = some (i, con) →
      own con.bsc) : NatOps own nat (nat.removeSccpSrcRef src) := by
  unfold removeSccpSrcRef
  cases hfind : nat.sccpConnections.find? fun conn => conn.patchedRef == src with
  | none => exact .refl
  | some found =>
    obtain ⟨i, con⟩ := found
    exact ops_sccpConnectionDestroy (find?_eq_some.mp hfind).1 (hown i con hfind)

/-! ## What the filters change -/

variable (lib : Osmocore) (cfg : NatConfig) (ussdCon : Bool) (msg : SccpMsg)

theorem sameKeys_bscNatFilterDt (natLst bscLst : Option BscNatAccLst) (msg : SccpMsg)
    (con : SccpConnections) : SameKeys con (bscNatFilterDt lib natLst bscLst msg con).2 := by
  have hrefl := SameKeys.refl con
  unfold bscNatFilterDt
  split
  · exact hrefl
  · split
    · exact hrefl
    · split
      · exact hrefl
      · split
        · unfold dtCheckIdResp
          split
          · exact hrefl
          · split
            · exact hrefl
            · split
              · exact hrefl
              · exact ⟨rfl, rfl, rfl, rfl, rfl, rfl⟩
        · exact hrefl

theorem sameKeys_checkUssdMsg
    (hdr48 : List Octet) (len : Nat) (imsi : List Octet) (con : SccpConnections) :
    SameKeys con (checkUssdMsg lib cfg ussdCon msg hdr48 len imsi con).con := by
  have hrefl := SameKeys.refl con
  unfold checkUssdMsg
  simp only
  split
  · split
    · split
      · exact ⟨rfl, rfl, rfl, rfl, rfl, rfl⟩
      · exact ⟨rfl, rfl, rfl, rfl, rfl, rfl⟩
    · exact hrefl
  · split
    · split <;> exact hrefl
    · exact hrefl

theorem sameKeys_bscCheckUssd
    (con : SccpConnections) : SameKeys con (bscCheckUssd lib cfg ussdCon msg con).con := by
  have hrefl := SameKeys.refl con
  unfold bscCheckUssd
  split
  · exact hrefl
  · split
    · exact hrefl
    · split
      · exact hrefl
      · split
        · exact hrefl
        · exact sameKeys_checkUssdMsg ..

theorem sameKeys_mark (check : UssdCheck) : SameKeys check.con (mark check) := by
  unfold mark
  split
  · exact ⟨rfl, rfl, rfl, rfl, rfl, rfl⟩
  · exact .refl _

theorem sameKeys_updateConAuthorize (con : SccpConnections) :
    SameKeys con (updateConAuthorize msg con) := by
  have hrefl := SameKeys.refl con
  unfold updateConAuthorize
  split
  · exact hrefl
  · split
    · exact ⟨rfl, rfl, rfl, rfl, rfl, rfl⟩
    · split
      · split
        · exact hrefl
        · split
          · exact ⟨rfl, rfl, rfl, rfl, rfl, rfl⟩
          · exact hrefl
      · exact hrefl

theorem ops_setCon {nat' : BscNat} {con' : SccpConnections} (hquiet : Quiet nat nat')
    (h : nat.sccpConnections.get? i = some con) (hown : own con.bsc) (hkeys : SameKeys con con') :
    NatOps own nat (nat'.setCon i con') := by
  rw [← hquiet.cons] at h
  exact hquiet.ops.tail (.touch h hown hkeys)

theorem ops_modifyCon {f : SccpConnections → SccpConnections} (h : nat.sccpConnections.get? i = some con)
    (hown : own con.bsc) (hkeys : SameKeys con (f con)) : NatOps own nat (nat.modifyCon i f) := by
  have hset : nat.modifyCon i f = nat.setCon i (f con) :=
    congrArg (fun cons => { nat with sccpConnections := cons }) (modify_congr (g := fun _ => f con) h rfl)
  rw [hset]
  exact .single (.touch h hown hkeys)

/-! ## Messages of a BSC -/

theorem findByRealRef_some {b : Nat} {src : SccpSourceReference} (h : nat.findByRealRef b src = some (i, con)) :
    nat.sccpConnections.get? i = some con ∧ con.bsc = b ∧ con.realRef = src := by
  obtain ⟨hget, hq, -⟩ := find?_eq_some.mp h
  obtain ⟨hb, hsrc⟩ : con.bsc = b ∧ con.realRef = src := by simpa using hq
  exact ⟨hget, hb, hsrc⟩

theorem patchSccpSrcRefToMsc_some {b : Nat} {msg msg' : SccpMsg}
    (h : nat.patchSccpSrcRefToMsc b msg = (some (i, con), msg')) :
    nat.sccpConnections.get? i = some con ∧ con.bsc = b := by
  unfold patchSccpSrcRefToMsc at h
  split at h
  · split at h
    · cases h
    · rename_i hfind
      cases h
      obtain ⟨hget, hb, -⟩ := findByRealRef_some hfind
      exact ⟨hget, hb⟩
  · obtain ⟨hget, hq, -⟩ := find?_eq_some.mp (Prod.mk.inj h).1
    exact ⟨hget, by simpa using (by simpa using hq : con.bsc = b ∧ _).1⟩
  · cases h

theorem ops_bscSendConRelease {b : Nat} {con' : SccpConnections} (h : nat.sccpConnections.get? i = some con)
    (hown : own con.bsc) (hkeys : SameKeys con con') : NatOps own nat (nat.bscSendConRelease b i con') := by
  have hmsc := quiet_queueForMsc nat con'.mscCon (.rlsd con'.remoteRef con'.patchedRef none)
  have hall := quiet_sendAll (nat.queueForMsc con'.mscCon (.rlsd con'.remoteRef con'.patchedRef none))
  refine hmsc.ops.trans (ops_setCon (hall _) ?_ hown (hkeys.trans ⟨rfl, rfl, rfl, rfl, rfl, rfl⟩))
  rw [hmsc.cons]
  exact h

/-- Data is handed to the provider, and the connection marked if the provider takes it. -/
theorem ops_handData {check : UssdCheck} (h : nat.sccpConnections.get? i = some con) (hown : own con.bsc)
    (hkeys : SameKeys con check.con) :
    NatOps own nat ((nat.sendAll check.sent).setCon i (mark check)) :=
  ops_setCon (quiet_sendAll nat _) h hown (hkeys.trans (sameKeys_mark check))

theorem ops_forwardData (nat : BscNat) (b : Nat) (bsc : BscConnection) (msg : SccpMsg) :
    NatOps (· = b) nat (nat.forwardData lib b bsc msg) := by
  unfold forwardData
  cases hpatch : nat.patchSccpSrcRefToMsc b msg with
  | mk found msg' =>
    cases found with
    | none => exact .refl
    | some found =>
      obtain ⟨i, con⟩ := found
      obtain ⟨hget, hb⟩ := patchSccpSrcRefToMsc_some hpatch
      cases hlocal : con.conLocal with
      | msc =>
        simp only [hlocal]
        have hdt := sameKeys_bscNatFilterDt lib nat.cfg.accLst (bsc.cfg.bind (·.accLst)) msg' con
        split
        · exact ops_bscSendConRelease hget hb hdt
        · have hcheck := hdt.trans (sameKeys_bscCheckUssd lib nat.cfg nat.ussdCon msg' _)
          have hset : NatOps (· = b) nat _ := ops_handData hget hb hcheck
          split
          · exact hset
          · exact hset.trans (quiet_queueForMsc _ _ _).ops
      | ussd =>
        simp only [hlocal]
        exact ops_setCon (quiet_sendAll nat _) hget hb (sameKeys_bscCheckUssd ..)
      | localMachine =>
        simp only [hlocal]
        exact .refl

theorem ops_forwardRlc {nat : BscNat} {b : Nat} {src : SccpSourceReference}
    (hsrc : msg.srcLocalRef = some src) (hb : own b)
    (hown : nat.findByRealRef b src = none → ∀ i con,
      (nat.sccpConnections.find? fun conn => conn.patchedRef == src) = some (i, con) → own con.bsc)
    (hfound : ∀ i con, nat.findByRealRef b src = some (i, con) → ∀ j d,
      (nat.sccpConnections.find? fun conn => conn.patchedRef == con.patchedRef) = some (j, d) → own d.bsc) :
    NatOps own nat (nat.forwardRlc b src msg) := by
  have hclose : ∀ nat : BscNat, NatOps own nat (nat.bscMaybeClose b) := fun nat =>
    (ops_bscMaybeClose nat b).mono fun b' hb' => hb' ▸ hb
  unfold forwardRlc patchSccpSrcRefToMsc
  simp only [hsrc]
  cases hfind : nat.findByRealRef b src with
  | none => exact (ops_removeSccpSrcRef (hown hfind)).trans (hclose _)
  | some found =>
    obtain ⟨i, con⟩ := found
    have hgone := (ops_removeSccpSrcRef (hfound i con hfind)).trans (hclose _)
    simp only
    split
    · exact hgone.trans (quiet_queueForMsc _ _ _).ops
    · exact hgone

theorem quiet_ipaccessAuthBsc (nat : BscNat) (b : Nat) (unitName : List Octet) :
    Quiet nat (nat.ipaccessAuthBsc b unitName) := by
  apply quiet_modifyBsc
  intro bsc _ e
  split
  · rfl
  · split <;> rfl

theorem ops_bscMgcpForward (nat : BscNat) (b : Nat) (response : MgcpResponse) :
    NatOps own nat (nat.bscMgcpForward b response) := by
  unfold bscMgcpForward
  split
  · exact .refl
  · simp only
    split
    · exact .refl
    · split
      · unfold freeChanDownstream
        refine ReflTransGen.trans ?_ (quiet_modifyEndpoint _ _ _).ops
        split
        · split
          · exact .refl
          · split
            · exact (quiet_send _ _).ops
            · exact .refl
        · exact .refl
      · exact (quiet_modifyEndpoint _ _ _).ops.trans (quiet_send _ _).ops

/-! ## Messages of the MSC -/

theorem patchSccpSrcRefToBsc_some {msg msg' : SccpMsg} (h : nat.patchSccpSrcRefToBsc msg = (some (i, con), msg')) :
    nat.sccpConnections.get? i = some con ∧ msg.destLocalRef = some con.patchedRef ∧
      msg' = msg.setDest con.realRef := by
  unfold patchSccpSrcRefToBsc at h
  split at h
  · cases h
  · rename_i dest hdest
    split at h
    · cases h
    · rename_i hfind
      cases h
      obtain ⟨hget, hq, -⟩ := find?_eq_some.mp hfind
      have hpatched : con.patchedRef = dest := by simpa using hq
      exact ⟨hget, hpatched ▸ hdest, rfl⟩

theorem ops_deliverToBsc (nat : BscNat) (i : Nat) (msg : SccpMsg) :
    NatOps (fun _ => True) nat (nat.deliverToBsc i msg) := by
  unfold deliverToBsc
  split
  · exact .refl
  · rename_i con hget
    split
    · exact .refl
    · split
      · exact .refl
      · exact (ops_modifyCon hget trivial (sameKeys_updateConAuthorize msg con)).trans (quiet_send _ _).ops

theorem quiet_unknownConnection (nat : BscNat) (msg : SccpMsg) : Quiet nat (nat.unknownConnection msg) := by
  unfold unknownConnection
  split
  · exact quiet_queueForMsc _ _ _
  · exact ⟨rfl, rfl, fun _ _ => rfl⟩

theorem ops_sendToAll (nat : BscNat) (msg : SccpMsg) : NatOps own nat (nat.sendToAll lib msg) := by
  unfold sendToAll
  split
  · split
    · exact .refl
    · exact (quiet_sendAll _ _).ops
  · exact (quiet_sendAll _ _).ops

theorem ops_bscMgcpPolicyCb (nat : BscNat) (endpoint : Nat) (state : MgcpEndpState)
    (transactionId : List Octet) (rewritten : Bool) :
    NatOps (fun _ => True) nat (nat.bscMgcpPolicyCb endpoint state transactionId rewritten).1 := by
  unfold bscMgcpPolicyCb
  simp only
  split
  · exact (quiet_modifyEndpoint nat endpoint _).ops
  · rename_i i sccp hfind
    split
    · exact (quiet_modifyEndpoint nat endpoint _).ops
    · have htransaction : ∀ f g, NatOps (fun _ => True) nat
          ((nat.modifyEndpoint endpoint f).modifyEndpoint endpoint g) := fun f g =>
        (quiet_modifyEndpoint nat endpoint f).ops.trans (quiet_modifyEndpoint _ endpoint g).ops
      split
      · have hlive : nat.sccpConnections.get? i = some sccp := (of_findLast? hfind).1
        exact (htransaction _ _).tail (.dlcx hlive trivial)
      · exact (htransaction _ _).trans (quiet_send _ _).ops

end OpenBsc.OsmoBscNat
