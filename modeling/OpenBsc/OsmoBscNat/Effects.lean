import OpenBsc.OsmoBscNat.Ops

/-!
# `OsmoBscNat.Effects` — the abstract effect of every event

An event has at most one effect on the tables that is more than a chain of micro steps: a connection request
opens a connection, or is refused on one; a connection confirm of the MSC confirms one; an ASSIGNMENT REQUEST
gives one its endpoints. `natEffect` reads the effect off the event and the state, `applyEffect` applies it,
and `natStep_ops` says that the NAT does nothing else but micro steps besides.
-/

namespace OpenBsc.OsmoBscNat

open Transition Relation BscNat Quiet

/-- The effects. -/
inductive NatEffect where
  | none
  | opened (b : Nat) (src : SccpSourceReference) (now : Nat)
  | refused (b : Nat) (src : SccpSourceReference) (now : Nat)
  | confirmed (i : Nat) (src : SccpSourceReference)
  | assigned (i endp : Nat)

namespace BscNat

/-- The connection the NAT makes for itself to refuse a request on. -/
def refuse (nat : BscNat) (b : Nat) (src : SccpSourceReference) (now : Nat) : BscNat × Option Nat :=
  match nat.createSccpSrcRef b src now with
  | (nat, none) => (nat, none)
  | (nat, some i) => (nat.modifyCon i declareLocal, some i)

/-- The tables after an effect. -/
def applyEffect (nat : BscNat) (effect : NatEffect) : BscNat :=
  match effect with
  | .none => nat
  | .opened b src now => (nat.createSccpSrcRef b src now).1
  | .refused b src now => (nat.refuse b src now).1
  | .confirmed i src => nat.updateSccpSrcRef i src
  | .assigned i endp => (nat.assignEndpoints i endp).1

/-- The effect of a connection request. -/
def crEffect (lib : Osmocore) (nat : BscNat) (b : Nat) (bsc : BscConnection) (now : Nat)
    (src : SccpSourceReference) (msg : SccpMsg) : NatEffect :=
  let verdict := nat.crVerdict lib bsc msg
  if verdict.filter < 0 then
    if (rejectPayload verdict.conType).isSome then .refused b src now else .none
  else .opened b src now

/-- The effect of a message of a BSC. -/
def bscEffect (lib : Osmocore) (nat : BscNat) (b : Nat) (now : Nat) (msg : SccpMsg) : NatEffect :=
  match nat.bscConnections.get? b with
  | none => .none
  | some bsc =>
    if !msg.parses || bscNatFilterIpa .msc msg || !bsc.authenticated then .none
    else
      match msg with
      | .cr src _ _ => nat.crEffect lib b bsc now src msg
      | _ => .none

/-- The effect of a message with data for the connection `i`. -/
def dataEffect (lib : Osmocore) (nat : BscNat) (i : Nat) (msg : SccpMsg) : NatEffect :=
  if msg.gsmType = some 0x01 then
    match assignmentEndpoint lib nat.cfg.numberEndpoints (msg.l3.getD []) with
    | none => .none
    | some (_, endp) => .assigned i endp
  else .none

/-- The effect of a message of the MSC. -/
def mscEffect (lib : Osmocore) (nat : BscNat) (msg : SccpMsg) : NatEffect :=
  if !msg.parses || bscNatFilterIpa .bsc msg then .none
  else
    match nat.patchSccpSrcRefToBsc msg with
    | (none, _) => .none
    | (some (i, _), _) =>
      match msg with
      | .cc _ src _ => .confirmed i src
      | .rlsd .. | .cref .. | .dt1 .. | .it .. => nat.dataEffect lib i msg
      | _ => .none

end BscNat

/-- The effect of an event. -/
def natEffect (lib : Osmocore) (nat : BscNat) (ev : NatEvent) : NatEffect :=
  match ev with
  | .fromBsc b now (.sccp msg) => nat.bscEffect lib b now msg
  | .fromMsc msg => nat.mscEffect lib msg
  | _ => .none

/-! ## From a BSC -/

/-- A release complete by which a connection of another BSC goes: it names none of the sender's own
    connections, but a patched reference of another's. -/
def ReleasesForeign (nat : BscNat) (b : Nat) (msg : SccpMsg) : Prop :=
  ∃ dest src, msg = .rlc dest src ∧ nat.findByRealRef b src = none ∧
    ∃ i con, nat.sccpConnections.get? i = some con ∧ con.patchedRef = src ∧ con.bsc ≠ b

variable {own : Nat → Prop}

variable (lib : Osmocore) (nat : BscNat) (now : Nat) (msg : SccpMsg)

theorem ops_forwardCr {b : Nat} (bsc : BscConnection) (now : Nat)
    (src : SccpSourceReference) (msg : SccpMsg) (hb : own b) :
    NatOps own (nat.applyEffect (nat.crEffect lib b bsc now src msg)) (nat.forwardCr lib b bsc now src msg) := by
  unfold forwardCr crEffect
  simp only
  split
  · -- the request is refused
    unfold bscSendConRefuse
    cases hpayload : rejectPayload (nat.crVerdict lib bsc msg).conType with
    | none => exact (quiet_send nat _).ops
    | some payload =>
      show NatOps own (nat.refuse b src now).1 _
      unfold refuse
      simp only
      cases nat.createSccpSrcRef b src now with
      | mk nat₁ created =>
        cases created with
        | none => exact (quiet_send nat₁ _).ops
        | some i =>
          simp only
          split
          · exact .refl
          · exact (quiet_sendAll _ _).ops
  · show NatOps own (nat.createSccpSrcRef b src now).1 _
    cases nat.createSccpSrcRef b src now with
    | mk nat₁ created =>
      cases created with
      | none => exact .refl
      | some i =>
        simp only
        split
        · exact .refl
        · rename_i j con msg' hpatch
          obtain ⟨hget, hbsc⟩ := patchSccpSrcRefToMsc_some hpatch
          exact (ops_modifyCon hget (hbsc ▸ hb) ⟨rfl, rfl, rfl, rfl, rfl, rfl⟩).trans
            (quiet_queueForMsc _ _ _).ops

/-- What a BSC's message does besides its effect touches connections of `own`, if releases do. -/
theorem ops_forwardSccpToMsc {b : Nat} (hb : own b)
    (hrlc : ∀ dest src, msg = .rlc dest src → NatOps own nat (nat.forwardRlc b src msg)) :
    NatOps own (nat.applyEffect (nat.bscEffect lib b now msg)) (nat.forwardSccpToMsc lib b now (.sccp msg)) := by
  unfold forwardSccpToMsc bscEffect
  cases nat.bscConnections.get? b with
  | none => exact .refl
  | some bsc =>
    simp only
    by_cases hparses : msg.parses = true
    · by_cases hfilter : bscNatFilterIpa .msc msg = true
      · rw [hparses, hfilter]
        exact (quiet_sendAll nat _).ops
      · by_cases hauth : bsc.authenticated = true
        · have hdata : NatOps own nat (nat.forwardData lib b bsc msg) :=
            (ops_forwardData lib nat b bsc msg).mono fun b' hb' => hb' ▸ hb
          simp only [hparses, hfilter, hauth, Bool.not_true, Bool.or_false, Bool.false_eq_true, if_false]
          cases msg with
          | cr src ssn data => exact ops_forwardCr lib nat bsc now src _ hb
          | rlc dest src => exact hrlc dest src rfl
          | udt | err => exact .refl
          | cc | cref | rlsd | dt1 | it => exact hdata
        · simp only [hparses, hfilter, hauth, Bool.not_true, Bool.not_false, Bool.or_true, if_true,
            Bool.false_eq_true, if_false]
          exact .refl
    · simp only [hparses, Bool.not_false, Bool.true_or, if_true]
      exact .refl

/-! ## From the MSC -/

theorem l3_setDest (r : SccpSourceReference) : (msg.setDest r).l3 = msg.l3 := by
  cases msg <;> rfl

theorem gsmType_setDest (r : SccpSourceReference) : (msg.setDest r).gsmType = msg.gsmType := by
  unfold SccpMsg.gsmType
  rw [l3_setDest]

theorem bscMgcpAssignPatch_fst (i : Nat) (l3 : List Octet) :
    (bscMgcpAssignPatch lib nat i l3).1 =
      match assignmentEndpoint lib nat.cfg.numberEndpoints l3 with
      | none => nat
      | some (_, endp) => (nat.assignEndpoints i endp).1 := by
  unfold bscMgcpAssignPatch
  cases assignmentEndpoint lib nat.cfg.numberEndpoints l3 with
  | none => rfl
  | some found =>
    obtain ⟨offset, endp⟩ := found
    simp only
    cases nat.assignEndpoints i endp with
    | mk nat₁ taken => cases taken <;> rfl

theorem ops_dataToBts {i : Nat} {con : SccpConnections} {msg msg' : SccpMsg}
    (hpatch : nat.patchSccpSrcRefToBsc msg = (some (i, con), msg')) :
    NatOps (fun _ => True) (nat.applyEffect (nat.dataEffect lib i msg)) (nat.dataToBts lib msg) := by
  obtain ⟨-, -, rfl⟩ := patchSccpSrcRefToBsc_some hpatch
  unfold dataToBts dataEffect
  rw [hpatch]
  simp only [gsmType_setDest, l3_setDest]
  by_cases hassign : msg.gsmType = some 0x01
  · simp only [if_pos hassign]
    have hpatched := bscMgcpAssignPatch_fst lib nat i (msg.l3.getD [])
    cases hcall : bscMgcpAssignPatch lib nat i (msg.l3.getD []) with
    | mk nat₁ l3 =>
      rw [hcall] at hpatched
      simp only at hpatched ⊢
      have heffect : nat.applyEffect
          (match assignmentEndpoint lib nat.cfg.numberEndpoints (msg.l3.getD []) with
          | none => .none
          | some (_, endp) => .assigned i endp) = nat₁ := by
        rw [hpatched]
        split <;> rfl
      rw [heffect]
      exact ops_deliverToBsc nat₁ i _
  · simp only [if_neg hassign]
    split
    · exact (quiet_unknownConnection nat _).ops
    · exact ops_deliverToBsc nat i _

theorem ops_forwardSccpToBts :
    NatOps (fun _ => True) (nat.applyEffect (nat.mscEffect lib msg)) (nat.forwardSccpToBts lib msg) := by
  unfold forwardSccpToBts mscEffect
  by_cases hparses : msg.parses = true
  · by_cases hfilter : bscNatFilterIpa .bsc msg = true
    · simp only [hparses, hfilter, Bool.not_true, Bool.or_true, if_true, Bool.false_eq_true, if_false]
      exact .refl
    · simp only [hparses, hfilter, Bool.not_true, Bool.or_false, Bool.false_eq_true, if_false]
      cases hpatch : nat.patchSccpSrcRefToBsc msg with
      | mk found msg' =>
        cases found with
        | none =>
          -- nothing is found, so nothing but the reply to an RLSD happens
          have hdata : NatOps (fun _ => True) nat (nat.dataToBts lib msg) := by
            unfold dataToBts
            rw [hpatch]
            exact (quiet_unknownConnection nat _).ops
          cases msg with
          | cc dest src data =>
            simp only
            exact .refl
          | udt ssn data => exact ops_sendToAll lib nat _
          | cr | rlc | err => exact .refl
          | cref | rlsd | dt1 | it => exact hdata
        | some found =>
          obtain ⟨i, con⟩ := found
          have hdata := ops_dataToBts lib nat hpatch
          cases msg with
          | cc dest src data =>
            simp only
            exact ops_deliverToBsc _ i _
          | udt ssn data => exact ops_sendToAll lib nat _
          | cr | rlc | err => exact .refl
          | cref | rlsd | dt1 | it => exact hdata
  · simp only [hparses, Bool.not_false, Bool.true_or, if_true]
    exact .refl

/-! ## All events -/

theorem ops_sccpCloseUnconfirmed :
    NatOps (fun _ => True) nat (nat.sccpCloseUnconfirmed now) := by
  have hmaybe : ∀ (l : List Nat) (nat : BscNat), NatOps (fun _ => True) nat (l.foldl bscMaybeClose nat) :=
    fun l nat => closure_foldl (fun nat b => (ops_bscMaybeClose nat b).mono fun _ _ => trivial) l nat
  have hdestroy : ∀ (l : List Nat) (nat : BscNat), NatOps (fun _ => True) nat (l.foldl sccpConnectionDestroy nat) := by
    intro l nat
    refine closure_foldl (fun nat i => ?_) l nat
    cases hget : nat.sccpConnections.get? i with
    | some con => exact ops_sccpConnectionDestroy hget trivial
    | none =>
      -- without the connection there is nothing to remove
      unfold sccpConnectionDestroy bscMgcpDlcx
      rw [hget]
      refine ops ⟨?_, rfl, fun _ _ => rfl⟩
      exact Pool.remove_of_get?_none hget
  unfold sccpCloseUnconfirmed
  simp only
  split
  · exact hdestroy _ nat
  · exact (hdestroy _ nat).trans (hmaybe _ _)

theorem ops_mscConnectionWasLost : NatOps (fun _ => True) nat nat.mscConnectionWasLost := by
  have hquiet : Quiet nat { nat with mscConnected := false } := ⟨rfl, rfl, fun _ _ => rfl⟩
  refine (hquiet.ops.trans ?_).trans (ops_bscMgcpFreeEndpoints _)
  exact closure_foldl (fun nat b => (ops_bscCloseConnection nat b).mono fun _ _ => trivial) _ _

theorem quiet_accept :
    Quiet nat { nat with bscConnections := nat.bscConnections.alloc {} } := by
  refine ⟨rfl, rfl, ?_⟩
  intro b e
  show ((nat.bscConnections.alloc {}).get? b).any _ = (nat.bscConnections.get? b).any _
  rw [Pool.get?_alloc]
  split
  · rename_i hb
    cases hget : nat.bscConnections.get? b with
    | none => rfl
    | some bsc => exact absurd (Pool.get?_lt hget) (by omega)
  · rfl

/-- **The NAT does what the effect says, and nothing but micro steps besides.** -/
theorem natStep_ops (ev : NatEvent) :
    NatOps (fun _ => True) (nat.applyEffect (natEffect lib nat ev)) (natStep lib nat ev) := by
  cases ev with
  | accept =>
    show NatOps _ nat (if _ then _ else nat)
    split
    · exact (quiet_accept nat).ops
    · exact .refl
  | fromBsc b now msg =>
    cases msg with
    | sccp msg =>
      refine ops_forwardSccpToMsc lib nat now msg trivial ?_
      rintro dest src rfl
      exact ops_forwardRlc _ rfl trivial (fun _ _ _ _ => trivial) fun _ _ _ _ _ _ => trivial
    | mgcp response =>
      show NatOps _ nat (nat.forwardSccpToMsc lib b now (.mgcp response))
      unfold forwardSccpToMsc
      split
      · exact .refl
      · simp only
        split
        · exact .refl
        · exact ops_bscMgcpForward nat b response
    | idResp unitName =>
      show NatOps _ nat (nat.forwardSccpToMsc lib b now (.idResp unitName))
      unfold forwardSccpToMsc
      split
      · exact .refl
      · cases unitName with
        | none => exact .refl
        | some unitName => exact (quiet_ipaccessAuthBsc nat b unitName).ops
    | ipa =>
      show NatOps _ nat (nat.forwardSccpToMsc lib b now .ipa)
      unfold forwardSccpToMsc
      split <;> exact .refl
  | fromMsc msg => exact ops_forwardSccpToBts lib nat msg
  | mgcpCommand endpoint state transactionId rewritten =>
    exact ops_bscMgcpPolicyCb nat endpoint state transactionId rewritten
  | closeBsc b => exact (ops_bscCloseConnection nat b).mono fun _ _ => trivial
  | closeUnconfirmed now => exact ops_sccpCloseUnconfirmed nat now
  | mscConnected => exact ops ⟨rfl, rfl, fun _ _ => rfl⟩
  | mscLost => exact ops_mscConnectionWasLost nat
  | block blocked => exact ops ⟨rfl, rfl, fun _ _ => rfl⟩
  | ussdCon connected =>
    cases connected with
    | true => exact ops ⟨rfl, rfl, fun _ _ => rfl⟩
    | false =>
      have hall : Quiet nat nat.bscCloseUssdConnections := quiet_sendAll nat _
      exact ops ⟨hall.cons, hall.lastRef, hall.inUse⟩
  | setLastEndpoint nr endp =>
    refine closure_foldl (fun nat b => ops (quiet_modifyBsc ?_)) _ nat
    intro bsc _ e
    split <;> rfl

end OpenBsc.OsmoBscNat
