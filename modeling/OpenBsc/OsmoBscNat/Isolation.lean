import OpenBsc.OsmoBscNat.References

/-!
# `OsmoBscNat.Isolation` — what a BSC can do to the connections of the others

Every path from a BSC asks for a connection of that BSC, but one: the release complete that names none of the
sender's connections removes whatever connection has the reference in it as its patched one.
`foreignKept_iff` says that this is the only way, in every state.
-/

namespace OpenBsc.OsmoBscNat

open Transition Relation BscNat Pool

/-- Every connection of a BSC other than `b` is as it was. -/
def ForeignKept (b : Nat) (nat nat' : BscNat) : Prop :=
  ∀ i con, nat.sccpConnections.get? i = some con → con.bsc ≠ b → nat'.sccpConnections.get? i = some con

variable {b : Nat} {nat : BscNat}

theorem ForeignKept.trans {nat' nat'' : BscNat} (h : ForeignKept b nat nat') (h' : ForeignKept b nat' nat'') :
    ForeignKept b nat nat'' :=
  fun i con hi hb => h' i con (h i con hi hb) hb

/-! ## Steps -/

theorem foreignKept_modifyCon {i : Nat} {f : SccpConnections → SccpConnections}
    (h : ∀ con, nat.sccpConnections.get? i = some con → con.bsc = b) : ForeignKept b nat (nat.modifyCon i f) := by
  intro j con hj hb
  show (nat.sccpConnections.modify i f).get? j = some con
  have hji : j ≠ i := by
    rintro rfl
    exact hb (h con hj)
  rw [get?_modify_ne hji]
  exact hj

theorem foreignKept_bscMgcpDlcx {i : Nat} (h : ∀ con, nat.sccpConnections.get? i = some con → con.bsc = b) :
    ForeignKept b nat (nat.bscMgcpDlcx i) := by
  intro j con hj hb
  have hji : j ≠ i := by
    rintro rfl
    exact hb (h con hj)
  rw [get?_bscMgcpDlcx, if_neg hji]
  exact hj

/-- What touches only connections of `b` keeps the others. -/
theorem foreignKept_op {nat' : BscNat} (h : NatOp (· = b) nat nat') : ForeignKept b nat nat' := by
  cases h with
  | quiet h =>
    intro j con hj hb
    rw [h.cons]
    exact hj
  | touch hget hown hkeys =>
    refine foreignKept_modifyCon fun con hcon => ?_
    rw [hget] at hcon
    cases hcon
    exact hown
  | dlcx hget hown =>
    refine foreignKept_bscMgcpDlcx fun con hcon => ?_
    rw [hget] at hcon
    cases hcon
    exact hown
  | remove hget hown hendp =>
    rename_i i con
    intro j d hj hb
    show (nat.sccpConnections.remove i).get? j = some d
    have hji : j ≠ i := by
      rintro rfl
      rw [hget] at hj
      cases hj
      exact hb hown
    rw [get?_remove, if_neg hji]
    exact hj
  | bscGone hnone => exact fun j con hj _ => hj

theorem foreignKept_ops {nat' : BscNat} (h : NatOps (· = b) nat nat') : ForeignKept b nat nat' :=
  closure_preserves (I := ForeignKept b nat) (fun _ _ hkept hop => hkept.trans (foreignKept_op hop)) h
    fun _ _ hi _ => hi

theorem foreignKept_create (nat : BscNat) (b : Nat) (src : SccpSourceReference) (now : Nat) :
    ForeignKept b nat (nat.createSccpSrcRef b src now).1 := by
  have hcases := createSccpSrcRef_cases nat b src now
  intro j con hj hb
  cases hcreate : nat.createSccpSrcRef b src now with
  | mk nat' created =>
    rw [hcreate] at hcases
    cases hcases with
    | renewed hfind hfree hok =>
      obtain ⟨hget, hbsc, -⟩ := findByRealRef_some hfind
      show (renew nat _ _ _ _).sccpConnections.get? j = some con
      rw [get?_renew hget, if_neg]
      · exact hj
      · rintro rfl
        rw [hget] at hj
        cases hj
        exact hb hbsc
    | dropped hfind hok =>
      obtain ⟨hget, hbsc, -⟩ := findByRealRef_some hfind
      show (sccpConnectionDestroy _ _).sccpConnections.get? j = some con
      rw [get?_sccpConnectionDestroy, if_neg]
      · exact hj
      · rintro rfl
        rw [hget] at hj
        cases hj
        exact hb hbsc
    | new hfind hfree hok =>
      show (nat.sccpConnections.alloc _).get? j = some con
      rw [get?_alloc, if_neg (Nat.ne_of_lt (get?_lt hj))]
      exact hj
    | failed hfind hok => exact hj

theorem foreignKept_refuse (nat : BscNat) (b : Nat) (src : SccpSourceReference) (now : Nat) :
    ForeignKept b nat (nat.refuse b src now).1 := by
  have hcreate := foreignKept_create nat b src now
  have hnew := (get?_createSccpSrcRef nat b src now).new
  unfold refuse
  cases hcall : nat.createSccpSrcRef b src now with
  | mk nat' created =>
    rw [hcall] at hcreate hnew
    cases created with
    | none => exact hcreate
    | some i => exact hcreate.trans (foreignKept_modifyCon fun con hcon => (hnew i con hcon rfl).1)

theorem foreignKept_bscEffect (lib : Osmocore) (nat : BscNat) (b now : Nat) (msg : SccpMsg) :
    ForeignKept b nat (nat.applyEffect (nat.bscEffect lib b now msg)) := by
  have hrefl : ForeignKept b nat nat := fun _ _ hi _ => hi
  unfold bscEffect
  split
  · exact hrefl
  · split
    · exact hrefl
    · split
      · unfold crEffect
        simp only
        split
        · split
          · exact foreignKept_refuse nat b _ now
          · exact hrefl
        · exact foreignKept_create nat b _ now
      · exact hrefl

/-! ## Runs -/

/-- A release complete that does not reach a foreign connection only touches the sender's. -/
theorem ops_forwardRlc_own (hrefs : RefsDistinct nat) {dest src : SccpSourceReference}
    (hforeign : ¬ ReleasesForeign nat b (.rlc dest src)) :
    NatOps (· = b) nat (nat.forwardRlc b src (.rlc dest src)) := by
  refine ops_forwardRlc _ rfl rfl ?_ ?_
  · intro hnone i con hfind
    obtain ⟨hget, hq, -⟩ := find?_eq_some.mp hfind
    by_contra hb
    exact hforeign ⟨dest, src, rfl, hnone, i, con, hget, by simpa using hq, hb⟩
  · intro i con hfind j d hpatched
    obtain ⟨hget, hb, -⟩ := findByRealRef_some hfind
    obtain ⟨hgetj, hq, -⟩ := find?_eq_some.mp hpatched
    obtain rfl : j = i := hrefs.patched j i d con hgetj hget (by simpa using hq)
    rw [hget] at hgetj
    cases hgetj
    exact hb

/-- The other way round, it removes the connection it reaches. -/
theorem not_foreignKept_rlc (hrefs : RefsDistinct nat) {dest src : SccpSourceReference}
    (hnone : nat.findByRealRef b src = none) {i : Nat} {con : SccpConnections}
    (hi : nat.sccpConnections.get? i = some con) (hpatched : con.patchedRef = src) (hb : con.bsc ≠ b) :
    ¬ ForeignKept b nat (nat.forwardRlc b src (.rlc dest src)) := by
  intro hkept
  have hfind : (nat.sccpConnections.find? fun conn => conn.patchedRef == src) = some (i, con) := by
    refine find?_unique hi (by simp [hpatched]) ?_
    intro j d hj hq
    exact hrefs.patched j i d con hj hi ((by simpa using hq : d.patchedRef = src).trans hpatched.symm)
  have hgone : (nat.removeSccpSrcRef src).sccpConnections.get? i = none := by
    unfold removeSccpSrcRef
    rw [hfind]
    simp only
    rw [get?_sccpConnectionDestroy, if_pos rfl]
  have hlive : ((nat.removeSccpSrcRef src).bscMaybeClose b).sccpConnections.get? i = some con := by
    have h := hkept i con hi hb
    unfold forwardRlc patchSccpSrcRefToMsc at h
    simp only [SccpMsg.srcLocalRef, hnone] at h
    exact h
  obtain ⟨d, hd, -⟩ := (keeps_ops (ops_bscMaybeClose (nat.removeSccpSrcRef src) b)).cons i con hlive
  rw [hgone] at hd
  cases hd

/-- **A message of an authenticated BSC leaves the connections of all others alone, exactly if it is no release
    complete for one of them.** -/
theorem foreignKept_iff (lib : Osmocore) (nat : BscNat) (h : Reachable (natSystem lib) nat) (b now : Nat)
    (bsc : BscConnection) (hbsc : nat.bscConnections.get? b = some bsc) (hauth : bsc.authenticated = true)
    (msg : SccpMsg) :
    ForeignKept b nat (natStep lib nat (.fromBsc b now (.sccp msg))) ↔ ¬ ReleasesForeign nat b msg := by
  have hrefs := reachable_refsDistinct h
  constructor
  · rintro hkept ⟨dest, src, rfl, hnone, i, con, hi, hpatched, hb⟩
    apply not_foreignKept_rlc hrefs hnone hi hpatched hb
    have hstep : natStep lib nat (.fromBsc b now (.sccp (.rlc dest src))) = nat.forwardRlc b src (.rlc dest src) := by
      show nat.forwardSccpToMsc lib b now (.sccp (.rlc dest src)) = _
      unfold forwardSccpToMsc
      rw [hbsc]
      simp only [hauth]
      rfl
    rw [← hstep]
    exact hkept
  · intro hforeign
    refine (foreignKept_bscEffect lib nat b now msg).trans (foreignKept_ops ?_)
    refine ops_forwardSccpToMsc lib nat now msg rfl ?_
    rintro dest src rfl
    exact ops_forwardRlc_own hrefs hforeign

/-- A release of an own connection, with a connection of another BSC in the table. -/
theorem foreignKept_release :
    let nat := List.foldl (natStep plainLib) (start plainConfig)
      (.mscConnected :: bscArrives 0 ++ bscArrives 1 ++ [.fromBsc 0 0 (.sccp (plainRequest 2)),
        .fromBsc 1 0 (.sccp (plainRequest 3))])
    ForeignKept 1 nat (natStep plainLib nat (.fromBsc 1 0 (.sccp (.rlc 0 3)))) := by
  intro nat
  have hreach : Reachable (natSystem plainLib) nat :=
    ReachableBy.foldl (fun _ _ => rfl) _ (.init ⟨plainConfig, rfl⟩)
  have hget : (nat.bscConnections.get? 1).map (·.authenticated) = some true := by decide +kernel
  obtain ⟨bsc, hbsc, hauth⟩ := Option.map_eq_some_iff.mp hget
  refine (foreignKept_iff plainLib nat hreach 1 0 bsc hbsc hauth (.rlc 0 3)).mpr ?_
  rintro ⟨dest, src, ⟨⟩, hnone, -⟩
  have hfound : (nat.findByRealRef 1 3).isSome = true := by decide +kernel
  rw [hnone] at hfound
  cases hfound

/-- The BSC 1 has no connection and sends an RLC with the source reference 0x050000, the patched one of a
    connection of the BSC 0. -/
theorem not_foreignKept_foreign_rlc :
    ¬ ∀ (lib : Osmocore) (nat : BscNat), Reachable (natSystem lib) nat →
      ∀ b now bsc, nat.bscConnections.get? b = some bsc → bsc.authenticated = true →
        ∀ msg, ForeignKept b nat (natStep lib nat (.fromBsc b now (.sccp msg))) := by
  intro h
  let nat := List.foldl (natStep plainLib) (start plainConfig)
    (.mscConnected :: bscArrives 0 ++ bscArrives 1 ++ [.fromBsc 0 0 (.sccp (plainRequest 2))])
  have hreach : Reachable (natSystem plainLib) nat :=
    ReachableBy.foldl (fun _ _ => rfl) _ (.init ⟨plainConfig, rfl⟩)
  have hget : (nat.bscConnections.get? 1).map (·.authenticated) = some true := by decide +kernel
  obtain ⟨bsc, hbsc, hauth⟩ := Option.map_eq_some_iff.mp hget
  have hkept := h plainLib nat hreach 1 0 bsc hbsc hauth (.rlc 0 0x050000)
  have hcon : (nat.sccpConnections.get? 0).map (·.bsc) = some 0 := by decide +kernel
  obtain ⟨con, hi, hb⟩ := Option.map_eq_some_iff.mp hcon
  have hlive := hkept 0 con hi (by rw [hb]; exact Nat.zero_ne_one)
  have hgone : ((natStep plainLib nat (.fromBsc 1 0 (.sccp (.rlc 0 0x050000)))).sccpConnections.get? 0).isNone =
      true := by
    decide +kernel
  rw [hlive] at hgone
  cases hgone

end OpenBsc.OsmoBscNat
