import OpenBsc.OsmoBscNat.References

/-!
# `OsmoBscNat.Endpoints` — every endpoint in use belongs to one connection

An endpoint of a BSC is in use exactly while one connection has it. Every release keeps this, in every run. An
assignment keeps it unless the connection has an endpoint already: then the old one stays in use and nobody has
it (`AssignsOnce` excludes that, `endpointsAccounted_of_assignsOnce` is the result for runs).

An endpoint of the MSC side has one holder at most, in every run: who is assigned one takes it from the others first
(`bscMgcpFindCon_of_reachable`).
-/

namespace OpenBsc.OsmoBscNat

open Transition Relation BscNat Pool Option

/-! ## Endpoints and their holders -/

/-- The connection `i` is one of the BSC `b` and has its endpoint `e`. -/
def HoldsEndpoint (nat : BscNat) (b e i : Nat) : Prop :=
  ∃ con, nat.sccpConnections.get? i = some con ∧ con.bsc = b ∧ con.bscEndp = some e

/-- **An endpoint in use has exactly one holder, an endpoint not in use has none.** -/
def EndpointsAccounted (nat : BscNat) : Prop :=
  ∀ b e, (nat.endpointInUse b e = true ∧ ∃ i, HoldsEndpoint nat b e i ∧ ∀ j, HoldsEndpoint nat b e j → j = i) ∨
    nat.endpointInUse b e = false ∧ ∀ i, ¬ HoldsEndpoint nat b e i

/-- The same in three parts. -/
structure Accounted (nat : BscNat) : Prop where
  marked : ∀ b e i, HoldsEndpoint nat b e i → nat.endpointInUse b e = true
  held : ∀ b e, nat.endpointInUse b e = true → ∃ i, HoldsEndpoint nat b e i
  once : ∀ b e i j, HoldsEndpoint nat b e i → HoldsEndpoint nat b e j → i = j

variable {nat : BscNat}

theorem Accounted.endpointsAccounted (h : Accounted nat) : EndpointsAccounted nat := by
  intro b e
  cases huse : nat.endpointInUse b e with
  | true =>
    obtain ⟨i, hi⟩ := h.held b e huse
    exact .inl ⟨rfl, i, hi, fun j hj => h.once b e j i hj hi⟩
  | false =>
    refine .inr ⟨rfl, fun i hi => ?_⟩
    rw [h.marked b e i hi] at huse
    cases huse

/-! ## Frames -/

/-- The same endpoints are in use, with the same holders. -/
structure SameHolders (nat nat' : BscNat) : Prop where
  holds : ∀ b e i, HoldsEndpoint nat' b e i ↔ HoldsEndpoint nat b e i
  inUse : ∀ b e, nat'.endpointInUse b e = nat.endpointInUse b e

variable {nat' : BscNat}

theorem Accounted.sameHolders (h : Accounted nat) (hsame : SameHolders nat nat') : Accounted nat' := by
  refine ⟨?_, ?_, ?_⟩
  · intro b e i hi
    rw [hsame.inUse]
    exact h.marked b e i ((hsame.holds b e i).mp hi)
  · intro b e huse
    rw [hsame.inUse] at huse
    obtain ⟨i, hi⟩ := h.held b e huse
    exact ⟨i, (hsame.holds b e i).mpr hi⟩
  · intro b e i j hi hj
    exact h.once b e i j ((hsame.holds b e i).mp hi) ((hsame.holds b e j).mp hj)

variable {i : Nat}

/-- A change that leaves a connection its BSC and its endpoint. -/
theorem sameHolders_modifyCon {f : SccpConnections → SccpConnections}
    (hf : ∀ con, nat.sccpConnections.get? i = some con → (f con).bsc = con.bsc ∧ (f con).bscEndp = con.bscEndp) :
    SameHolders nat (nat.modifyCon i f) := by
  refine ⟨?_, fun _ _ => rfl⟩
  intro b e j
  have hmod : (nat.modifyCon i f).sccpConnections.get? j = _ := get?_modify nat.sccpConnections i j f
  unfold HoldsEndpoint
  rw [hmod]
  by_cases hji : j = i
  · rw [if_pos hji]
    constructor
    · rintro ⟨con', hcon', hb, he⟩
      obtain ⟨con, hcon, rfl⟩ := map_eq_some_iff.mp hcon'
      obtain ⟨hfb, hfe⟩ := hf con (hji ▸ hcon)
      exact ⟨con, hcon, hfb ▸ hb, hfe ▸ he⟩
    · rintro ⟨con, hcon, hb, he⟩
      obtain ⟨hfb, hfe⟩ := hf con (hji ▸ hcon)
      exact ⟨f con, by rw [hcon]; rfl, hfb.trans hb, hfe.trans he⟩
  · rw [if_neg hji]

variable {con : SccpConnections}

/-- The removal of a connection without an endpoint. -/
theorem sameHolders_removeCon (hget : nat.sccpConnections.get? i = some con) (hendp : con.bscEndp = none) :
    SameHolders nat (nat.removeCon i) := by
  refine ⟨?_, fun _ _ => rfl⟩
  intro b e j
  have hrem : (nat.removeCon i).sccpConnections.get? j = _ := get?_remove nat.sccpConnections i j
  unfold HoldsEndpoint
  rw [hrem]
  by_cases hji : j = i
  · rw [if_pos hji]
    constructor
    · rintro ⟨con', hcon', -⟩
      cases hcon'
    · rintro ⟨con', hcon', -, he⟩
      rw [hji, hget] at hcon'
      cases hcon'
      rw [hendp] at he
      cases he
  · rw [if_neg hji]

/-- A new connection has no endpoint. -/
theorem sameHolders_alloc (nat : BscNat) (last : Nat) (hendp : con.bscEndp = none) :
    SameHolders nat { nat with lastRef := last, sccpConnections := nat.sccpConnections.alloc con } := by
  refine ⟨?_, fun _ _ => rfl⟩
  intro b e j
  unfold HoldsEndpoint
  show (∃ con', (nat.sccpConnections.alloc con).get? j = some con' ∧ _) ↔ _
  rw [get?_alloc]
  by_cases hj : j = nat.sccpConnections.next
  · rw [if_pos hj]
    constructor
    · rintro ⟨con', hcon', -, he⟩
      cases hcon'
      rw [hendp] at he
      cases he
    · rintro ⟨con', hcon', -⟩
      exact absurd (get?_lt hcon') (by omega)
  · rw [if_neg hj]

/-! ## Steps -/

theorem holds_bscMgcpDlcx (nat : BscNat) (i b e j : Nat) :
    HoldsEndpoint (nat.bscMgcpDlcx i) b e j ↔ HoldsEndpoint nat b e j ∧ j ≠ i := by
  unfold HoldsEndpoint
  rw [get?_bscMgcpDlcx]
  by_cases hji : j = i
  · rw [if_pos hji]
    constructor
    · rintro ⟨con', hcon', -, he⟩
      obtain ⟨con, -, rfl⟩ := map_eq_some_iff.mp hcon'
      cases he
    · rintro ⟨-, hne⟩
      exact absurd hji hne
  · rw [if_neg hji]
    exact ⟨fun h => ⟨h, hji⟩, fun h => h.1⟩

/-- A DLCX takes the endpoint from its one holder and frees it. -/
theorem accounted_dlcx (h : Accounted nat) (i : Nat) : Accounted (nat.bscMgcpDlcx i) := by
  cases hget : nat.sccpConnections.get? i with
  | none =>
    have hsame : nat.bscMgcpDlcx i = nat := by
      unfold bscMgcpDlcx
      rw [hget]
    rw [hsame]
    exact h
  | some con =>
    have huse := inUse_bscMgcpDlcx hget
    refine ⟨?_, ?_, ?_⟩
    · intro b e j hj
      obtain ⟨hj, hne⟩ := (holds_bscMgcpDlcx nat i b e j).mp hj
      rw [huse, if_neg]
      · exact h.marked b e j hj
      · rintro ⟨hb, he⟩
        exact hne (h.once b e j i hj ⟨con, hget, hb, he⟩)
    · intro b e hinUse
      rw [huse] at hinUse
      split at hinUse
      · cases hinUse
      · rename_i hother
        obtain ⟨j, hj⟩ := h.held b e hinUse
        refine ⟨j, (holds_bscMgcpDlcx nat i b e j).mpr ⟨hj, ?_⟩⟩
        rintro rfl
        obtain ⟨con', hcon', hb, he⟩ := hj
        rw [hget] at hcon'
        cases hcon'
        exact hother ⟨hb, he⟩
    · intro b e j k hj hk
      exact h.once b e j k ((holds_bscMgcpDlcx nat i b e j).mp hj).1 ((holds_bscMgcpDlcx nat i b e k).mp hk).1

theorem Accounted.quiet (h : Accounted nat) (hquiet : Quiet nat nat') : Accounted nat' := by
  refine h.sameHolders ⟨?_, hquiet.inUse⟩
  intro b e i
  unfold HoldsEndpoint
  rw [hquiet.cons]

/-- **Every micro step keeps the account.** -/
theorem accounted_op {own : Nat → Prop} (h : Accounted nat) (hop : NatOp own nat nat') : Accounted nat' := by
  cases hop with
  | quiet hquiet => exact h.quiet hquiet
  | touch hget hown hkeys =>
    refine h.sameHolders (sameHolders_modifyCon fun con hcon => ?_)
    rw [hget] at hcon
    cases hcon
    exact ⟨hkeys.bsc, hkeys.bscEndp⟩
  | dlcx hget hown => exact accounted_dlcx h _
  | remove hget hown hendp => exact h.sameHolders (sameHolders_removeCon hget hendp)
  | bscGone hnone =>
    rename_i b
    refine h.sameHolders ⟨fun _ _ _ => Iff.rfl, ?_⟩
    intro b' e
    show ((nat.bscConnections.remove b).get? b').any _ = nat.endpointInUse b' e
    rw [get?_remove]
    by_cases hb : b' = b
    · -- nobody held an endpoint of the BSC, so none was in use
      rw [if_pos hb]
      cases huse : nat.endpointInUse b' e with
      | false => rfl
      | true =>
        obtain ⟨i, con, hi, hbsc, -⟩ := h.held b' e huse
        exact absurd (hbsc.trans hb) (hnone i con hi)
    · rw [if_neg hb]
      rfl

theorem accounted_ops {own : Nat → Prop} (h : Accounted nat) (hops : NatOps own nat nat') : Accounted nat' :=
  closure_preserves (I := Accounted) (fun _ _ hacc hop => accounted_op hacc hop) hops h

theorem accounted_destroy (h : Accounted nat) (hget : nat.sccpConnections.get? i = some con) :
    Accounted (nat.sccpConnectionDestroy i) := by
  have hops : NatOps (fun _ => True) nat (nat.sccpConnectionDestroy i) := ops_sccpConnectionDestroy hget trivial
  exact accounted_ops h hops

theorem accounted_lastRef (h : Accounted nat) (last : Nat) : Accounted { nat with lastRef := last } :=
  h.sameHolders ⟨fun _ _ _ => Iff.rfl, fun _ _ => rfl⟩

theorem accounted_create (h : Accounted nat) (b : Nat) (src : SccpSourceReference) (now : Nat) :
    Accounted (nat.createSccpSrcRef b src now).1 := by
  have hcases := createSccpSrcRef_cases nat b src now
  generalize nat.createSccpSrcRef b src now = out at hcases ⊢
  cases hcases with
  | renewed hfind hfree hok =>
    rename_i i con ref last
    have hsame := (accounted_lastRef h last).sameHolders
      (sameHolders_modifyCon (i := i) (f := fun con => renewed con ref now) fun con _ => ⟨rfl, rfl⟩)
    exact accounted_dlcx hsame i
  | dropped hfind hok =>
    obtain ⟨hget, -, -⟩ := findByRealRef_some hfind
    exact accounted_destroy (accounted_lastRef h _) hget
  | new hfind hfree hok => exact h.sameHolders (sameHolders_alloc nat _ rfl)
  | failed hfind hok => exact accounted_lastRef h _

theorem accounted_refuse (h : Accounted nat) (b : Nat) (src : SccpSourceReference) (now : Nat) :
    Accounted (nat.refuse b src now).1 := by
  have hcreate := accounted_create h b src now
  unfold refuse
  cases hcall : nat.createSccpSrcRef b src now with
  | mk nat' created =>
    rw [hcall] at hcreate
    cases created with
    | none => exact hcreate
    | some i => exact hcreate.sameHolders (sameHolders_modifyCon fun con _ => ⟨rfl, rfl⟩)

/-! ## Assignments -/

variable {bsc : BscConnection}

theorem findEndpoint_free {times : Nat} {slot : Nat × Nat} {e : Nat} (h : findEndpoint bsc times slot = some e) :
    bsc.endpointStatus.any (·[e]? = some false) = true := by
  induction times generalizing slot with
  | zero => cases h
  | succ times ih =>
    unfold findEndpoint at h
    simp only at h
    split at h
    · rename_i hfree
      cases h
      exact hfree
    · exact ih h

variable {bsc' : BscConnection}

/-- The endpoint taken was free, and it is the only one whose status changes. -/
theorem bscAssignEndpoint_inUse {e : Nat} (h : bscAssignEndpoint bsc = some (e, bsc')) :
    bsc.inUse e = false ∧ ∀ e', bsc'.inUse e' = if e' = e then true else bsc.inUse e' := by
  unfold bscAssignEndpoint at h
  split at h
  · cases h
  · rename_i endpoint hfind
    cases h
    have hfree := findEndpoint_free hfind
    cases hstatus : bsc.endpointStatus with
    | none =>
      rw [hstatus] at hfree
      cases hfree
    | some status =>
      rw [hstatus] at hfree
      have hslot : status[e]? = some false := by simpa using hfree
      have hlt : e < status.length := (List.getElem?_eq_some_iff.mp hslot).1
      unfold BscConnection.inUse
      simp only [hstatus, map_some]
      refine ⟨by rw [hslot]; rfl, ?_⟩
      intro e'
      rw [List.getElem?_set]
      by_cases he : e = e'
      · rw [if_pos he, if_pos he.symm, if_pos hlt]
        rfl
      · rw [if_neg he, if_neg (Ne.symm he)]

/-- An array that is allocated only now has no endpoint in use. -/
theorem bscInitEndpsIfNeeded_inUse (h : bscInitEndpsIfNeeded bsc = some bsc') (e : Nat) :
    bsc'.inUse e = bsc.inUse e := by
  unfold bscInitEndpsIfNeeded at h
  split at h
  · cases h
    rfl
  · cases h
  · rename_i cfg hstatus hcfg
    cases h
    unfold BscConnection.inUse
    rw [hstatus]
    simp only [List.getElem?_replicate]
    split <;> rfl

theorem accounted_clearStale (h : Accounted nat) (endp : Nat) : Accounted (nat.clearStale endp) := by
  unfold clearStale
  induction nat.sccpConnections.ids generalizing nat with
  | nil => exact h
  | cons j l ih =>
    rw [List.foldl_cons]
    apply ih
    split
    · exact accounted_dlcx h j
    · exact h

/-- The search of `bsc_assign_endpoint` finds nothing, once the stale connections have lost theirs. -/
def SearchFails (nat : BscNat) (b endp : Nat) : Prop :=
  ∀ bsc, ((nat.clearStale endp).bscConnections.get? b).bind bscInitEndpsIfNeeded = some bsc →
    findEndpoint bsc bsc.maxEndpoints (bsc.lastEndpoint / 32, bsc.lastEndpoint % 32 + 1) = none

/-- The connection that gets an endpoint has none: it had none before, or loses it as the stale user of the
    endpoint of the MSC side, or there is none to get. -/
def AssignsOnce (lib : Osmocore) (nat : BscNat) (ev : NatEvent) : Prop :=
  ∀ i endp, natEffect lib nat ev = .assigned i endp → ∀ con, nat.sccpConnections.get? i = some con →
    con.bscEndp = none ∨ con.mscEndp = some endp ∨ SearchFails nat con.bsc endp

instance (nat : BscNat) (b endp : Nat) : Decidable (SearchFails nat b endp) :=
  decidable_of_iff (∀ bsc ∈ ((nat.clearStale endp).bscConnections.get? b).bind bscInitEndpsIfNeeded,
    findEndpoint bsc bsc.maxEndpoints (bsc.lastEndpoint / 32, bsc.lastEndpoint % 32 + 1) = none) Iff.rfl

instance (lib : Osmocore) (nat : BscNat) (ev : NatEvent) : Decidable (AssignsOnce lib nat ev) :=
  match heffect : natEffect lib nat ev with
  | .none | .opened .. | .refused .. | .confirmed .. => .isTrue fun i endp h => by
    rw [heffect] at h
    cases h
  | .assigned i endp =>
    decidable_of_iff (∀ con, nat.sccpConnections.get? i = some con →
      con.bscEndp = none ∨ con.mscEndp = some endp ∨ SearchFails nat con.bsc endp) <| by
      unfold AssignsOnce
      rw [heffect]
      constructor
      · rintro h i' endp' ⟨⟩
        exact h
      · intro h
        exact h i endp rfl

/-- The connection without its endpoints, if it uses the endpoint `endp` of the MSC side. -/
def unstale (endp : Nat) (con : SccpConnections) : SccpConnections :=
  if con.mscEndp = some endp then { con with mscEndp := none, bscEndp := none } else con

theorem get?_clearStaleLoop (endp : Nat) (l : List Nat) (nat : BscNat) (i : Nat) :
    (l.foldl (fun nat j =>
      if (nat.sccpConnections.get? j).bind (·.mscEndp) = some endp then nat.bscMgcpDlcx j else nat) nat
      ).sccpConnections.get? i =
      if i ∈ l then (nat.sccpConnections.get? i).map (unstale endp) else nat.sccpConnections.get? i := by
  induction l generalizing nat with
  | nil => rfl
  | cons j l ih =>
    rw [List.foldl_cons, ih]
    have hround : (if (nat.sccpConnections.get? j).bind (·.mscEndp) = some endp then nat.bscMgcpDlcx j
        else nat).sccpConnections.get? i =
        if i = j then (nat.sccpConnections.get? i).map (unstale endp) else nat.sccpConnections.get? i := by
      by_cases hij : i = j
      · subst hij
        rw [if_pos rfl]
        cases hget : nat.sccpConnections.get? i with
        | none => simp [hget]
        | some con =>
          unfold unstale
          by_cases hstale : con.mscEndp = some endp
          · simp [hstale, get?_bscMgcpDlcx, hget]
          · simp [hstale, hget]
      · rw [if_neg hij]
        split
        · rw [get?_bscMgcpDlcx, if_neg hij]
        · rfl
    -- a connection that was cleared is not stale any more
    have hidem : ∀ con, unstale endp (unstale endp con) = unstale endp con := by
      intro con
      unfold unstale
      by_cases hstale : con.mscEndp = some endp
      · simp [hstale]
      · simp [hstale]
    rw [hround]
    by_cases hij : i = j
    · rw [if_pos hij, if_pos (List.mem_cons.mpr (.inl hij)), Option.map_map]
      split
      · exact congrArg (Option.map · _) (funext hidem)
      · rfl
    · simp only [List.mem_cons, hij, false_or, if_false]

theorem get?_clearStale (nat : BscNat) (endp i : Nat) :
    (nat.clearStale endp).sccpConnections.get? i = (nat.sccpConnections.get? i).map (unstale endp) := by
  unfold clearStale
  rw [get?_clearStaleLoop]
  by_cases hmem : i ∈ nat.sccpConnections.ids
  · rw [if_pos hmem]
  · rw [if_neg hmem]
    cases hget : nat.sccpConnections.get? i with
    | none => rfl
    | some con => exact absurd (mem_ids.mpr ⟨con, hget⟩) hmem

theorem accounted_take (h : Accounted nat) {e : Nat} (hcon : nat.sccpConnections.get? i = some con)
    (hendp : con.bscEndp = none) (hbsc : nat.bscConnections.get? con.bsc = some bsc)
    (htake : bscAssignEndpoint bsc = some (e, bsc')) :
    Accounted ((nat.modifyBsc con.bsc fun _ => bsc').modifyCon i fun con => { con with bscEndp := some e }) := by
  obtain ⟨hfree, hstatus⟩ := bscAssignEndpoint_inUse htake
  have hholds : ∀ b e' j,
      HoldsEndpoint ((nat.modifyBsc con.bsc fun _ => bsc').modifyCon i fun con => { con with bscEndp := some e })
        b e' j ↔ (j = i ∧ b = con.bsc ∧ e' = e) ∨ j ≠ i ∧ HoldsEndpoint nat b e' j := by
    intro b e' j
    unfold HoldsEndpoint
    show (∃ con', (nat.sccpConnections.modify i _).get? j = some con' ∧ _) ↔ _
    rw [get?_modify]
    by_cases hji : j = i
    · rw [hji, if_pos rfl, hcon]
      simp [eq_comm]
    · rw [if_neg hji]
      simp [hji]
  have huse : ∀ b e',
      ((nat.modifyBsc con.bsc fun _ => bsc').modifyCon i fun con => { con with bscEndp := some e }).endpointInUse
        b e' = if b = con.bsc ∧ e' = e then true else nat.endpointInUse b e' := by
    intro b e'
    show ((nat.bscConnections.modify con.bsc _).get? b).any _ = _
    rw [get?_modify]
    by_cases hb : b = con.bsc
    · rw [if_pos hb, hb]
      unfold endpointInUse
      rw [hbsc]
      simpa using hstatus e'
    · rw [if_neg hb, if_neg fun h => hb h.1]
      rfl
  -- nobody had the endpoint before
  have hnobody : ∀ j, ¬ HoldsEndpoint nat con.bsc e j := by
    intro j hj
    have hmarked := h.marked con.bsc e j hj
    unfold endpointInUse at hmarked
    rw [hbsc] at hmarked
    have hbusy : bsc.inUse e = true := hmarked
    rw [hfree] at hbusy
    cases hbusy
  refine ⟨?_, ?_, ?_⟩
  · intro b e' j hj
    rw [huse]
    split
    · rfl
    · rename_i hother
      rcases (hholds b e' j).mp hj with ⟨-, hb, he⟩ | ⟨-, hold⟩
      · exact absurd ⟨hb, he⟩ hother
      · exact h.marked b e' j hold
  · intro b e' hinUse
    rw [huse] at hinUse
    by_cases hnew : b = con.bsc ∧ e' = e
    · exact ⟨i, (hholds b e' i).mpr (.inl ⟨rfl, hnew⟩)⟩
    · rw [if_neg hnew] at hinUse
      obtain ⟨j, hj⟩ := h.held b e' hinUse
      refine ⟨j, (hholds b e' j).mpr (.inr ⟨?_, hj⟩)⟩
      -- the connection itself had no endpoint
      rintro rfl
      obtain ⟨d, hd, -, he⟩ := hj
      rw [hcon] at hd
      cases hd
      rw [hendp] at he
      cases he
  · intro b e' j k hj hk
    rcases (hholds b e' j).mp hj with ⟨hji, hb, he⟩ | ⟨hji, hold⟩
    · rcases (hholds b e' k).mp hk with ⟨hki, -⟩ | ⟨-, hold'⟩
      · exact hji.trans hki.symm
      · exact absurd (hb ▸ he ▸ hold') (hnobody k)
    · rcases (hholds b e' k).mp hk with ⟨-, hb, he⟩ | ⟨-, hold'⟩
      · exact absurd (hb ▸ he ▸ hold) (hnobody j)
      · exact h.once b e' j k hold hold'

theorem accounted_assign (h : Accounted nat) {endp : Nat}
    (honce : ∀ con, nat.sccpConnections.get? i = some con → con.bscEndp = none ∨ con.mscEndp = some endp ∨
      SearchFails nat con.bsc endp) :
    Accounted (nat.assignEndpoints i endp).1 := by
  have hmsc : Accounted ((nat.clearStale endp).modifyCon i fun con => { con with mscEndp := some endp }) :=
    (accounted_clearStale h endp).sameHolders (sameHolders_modifyCon fun con _ => ⟨rfl, rfl⟩)
  have hget : ((nat.clearStale endp).modifyCon i fun con => { con with mscEndp := some endp }).sccpConnections.get? i =
      ((nat.sccpConnections.get? i).map (unstale endp)).map fun con => { con with mscEndp := some endp } := by
    rw [← get?_clearStale]
    exact (get?_modify _ i i _).trans (if_pos rfl)
  unfold assignEndpoints
  simp only
  split
  · exact hmsc
  · rename_i con hcon
    split
    · exact hmsc
    · rename_i bsc hinit
      obtain ⟨bsc₀, hbsc₀, hneeded⟩ := bind_eq_some_iff.mp hinit
      have hbscs : (nat.clearStale endp).bscConnections.get? con.bsc = some bsc₀ := hbsc₀
      have hallocated : Accounted (modifyBsc
          ((nat.clearStale endp).modifyCon i fun con => { con with mscEndp := some endp }) con.bsc fun _ => bsc) := by
        refine hmsc.quiet (quiet_modifyBsc ?_)
        intro bsc₁ hbsc₁ e
        have heq : bsc₀ = bsc₁ := Option.some.inj (hbscs.symm.trans hbsc₁)
        rw [← heq]
        exact bscInitEndpsIfNeeded_inUse hneeded e
      split
      · exact hallocated
      · rename_i e bsc' htake
        have hendp : con.bscEndp = none := by
          rw [hget] at hcon
          obtain ⟨con₁, hcon₁, rfl⟩ := map_eq_some_iff.mp hcon
          obtain ⟨con₀, hcon₀, rfl⟩ := map_eq_some_iff.mp hcon₁
          have hbsc : (unstale endp con₀).bsc = con₀.bsc := by
            unfold unstale
            split <;> rfl
          rcases honce con₀ hcon₀ with hnone | hstale | hfails
          · show (unstale endp con₀).bscEndp = none
            unfold unstale
            split
            · rfl
            · exact hnone
          · show (unstale endp con₀).bscEndp = none
            unfold unstale
            rw [if_pos hstale]
          · have hsearch := hfails bsc (by rw [← hbsc]; exact hinit)
            unfold bscAssignEndpoint at htake
            rw [hsearch] at htake
            cases htake
        exact accounted_take hallocated hcon hendp (get?_modify_self hbscs) htake

/-! ## Runs -/

theorem accounted_applyEffect {lib : Osmocore} {ev : NatEvent} (h : Accounted nat) (honce : AssignsOnce lib nat ev) :
    Accounted (nat.applyEffect (natEffect lib nat ev)) := by
  cases heffect : natEffect lib nat ev with
  | none => exact h
  | opened b src now => exact accounted_create h b src now
  | refused b src now => exact accounted_refuse h b src now
  | confirmed i src => exact h.sameHolders (sameHolders_modifyCon fun con _ => ⟨rfl, rfl⟩)
  | assigned i endp => exact accounted_assign h (honce i endp heffect)

theorem accounted_start (cfg : NatConfig) : Accounted (start cfg) := by
  refine ⟨?_, ?_, ?_⟩
  · rintro b e i ⟨con, hcon, -⟩
    cases hcon
  · intro b e huse
    cases huse
  · rintro b e i j ⟨con, hcon, -⟩
    cases hcon

/-- **Where no connection is assigned an endpoint while it has one, the endpoints are accounted for in every
    state.** -/
theorem endpointsAccounted_of_assignsOnce (lib : Osmocore) (nat : BscNat)
    (h : ReachableBy (natSystem lib) (AssignsOnce lib) nat) : EndpointsAccounted nat := by
  refine Accounted.endpointsAccounted (h.invariant ?_ ?_)
  · rintro nat ⟨cfg, rfl⟩
    exact accounted_start cfg
  · rintro nat ev nat' hacc honce rfl
    exact accounted_ops (accounted_applyEffect hacc honce) (natStep_ops lib nat ev)

/-- An ASSIGNMENT REQUEST of the MSC for the circuit `cic`. -/
def assignmentRequest (dest : SccpSourceReference) (cic : Octet) : SccpMsg :=
  .dt1 dest [0x00, 0x04, 0x01, 0x01, 0x00, cic]

/-- One connection is assigned an endpoint, and then assigned another for the same circuit. -/
theorem endpointsAccounted_reassigned : EndpointsAccounted (List.foldl (natStep plainLib) (start plainConfig)
    (.mscConnected :: bscArrives 0 ++ [.fromBsc 0 0 (.sccp (plainRequest 2)),
      .fromMsc (assignmentRequest 0x050000 5), .fromMsc (assignmentRequest 0x050000 5)])) :=
  endpointsAccounted_of_assignsOnce plainLib _
    (ReachableBy.along (fun _ _ => rfl) (.init ⟨plainConfig, rfl⟩) (by decide +kernel))

/-- The connection is assigned an endpoint for another circuit. -/
def leakingRun : BscNat :=
  List.foldl (natStep plainLib) (BscNat.start plainConfig)
    (.mscConnected :: bscArrives 0 ++ [.fromBsc 0 0 (.sccp (plainRequest 2)),
      .fromMsc (assignmentRequest 0x050000 5), .fromMsc (assignmentRequest 0x050000 6)])

/-- The endpoint of the first circuit stays in use, and nobody has it. -/
theorem not_endpointsAccounted_leaking :
    ¬ ∀ (lib : Osmocore) (nat : BscNat), Reachable (natSystem lib) nat → EndpointsAccounted nat := by
  intro h
  have hreach : Reachable (natSystem plainLib) leakingRun :=
    ReachableBy.foldl (fun _ _ => rfl) _ (.init ⟨plainConfig, rfl⟩)
  have huse : leakingRun.endpointInUse 0 1 = true := by decide +kernel
  have hnobody : ∀ i con, leakingRun.sccpConnections.get? i = some con → con.bscEndp ≠ some 1 := by
    decide +kernel
  rcases h plainLib leakingRun hreach 0 1 with ⟨-, i, ⟨con, hcon, -, he⟩, -⟩ | ⟨hfree, -⟩
  · exact hnobody i con hcon he
  · rw [huse] at hfree
    cases hfree

/-! ## Endpoints of the MSC side -/

/-- The endpoint of the MSC side that the connection `i` has. -/
def mscEndpOf (nat : BscNat) (i : Nat) : Option Nat := (nat.sccpConnections.get? i).bind (·.mscEndp)

/-- **An endpoint of the MSC side has one holder at most.** -/
def MscApart (nat : BscNat) : Prop := ∀ endp i j, mscEndpOf nat i = some endp → mscEndpOf nat j = some endp → i = j

/-- A connection keeps its endpoint of the MSC side or loses it, and none takes one. -/
def Releases (nat nat' : BscNat) : Prop := ∀ i, mscEndpOf nat' i = none ∨ mscEndpOf nat' i = mscEndpOf nat i

theorem MscApart.releases (h : MscApart nat) (hrel : Releases nat nat') : MscApart nat' := by
  have hback : ∀ endp i, mscEndpOf nat' i = some endp → mscEndpOf nat i = some endp := by
    intro endp i hi
    rcases hrel i with hnone | hkept
    · cases hnone.symm.trans hi
    · exact hkept.symm.trans hi
  exact fun endp i j hi hj => h endp i j (hback endp i hi) (hback endp j hj)

theorem releases_modifyCon {f : SccpConnections → SccpConnections}
    (hf : ∀ con, nat.sccpConnections.get? i = some con → (f con).mscEndp = con.mscEndp) :
    Releases nat (nat.modifyCon i f) := by
  intro j
  show ((nat.sccpConnections.modify i f).get? j).bind _ = _ ∨ ((nat.sccpConnections.modify i f).get? j).bind _ = _
  rw [get?_modify, mscEndpOf]
  split
  · rename_i hji
    subst hji
    cases hget : nat.sccpConnections.get? j with
    | none => exact .inl rfl
    | some con => exact .inr (hf con hget)
  · exact .inr rfl

theorem releases_op {own : Nat → Prop} (h : NatOp own nat nat') : Releases nat nat' := by
  cases h with
  | quiet h => exact fun i => .inr (by rw [mscEndpOf, h.cons, mscEndpOf])
  | touch hget hown hkeys =>
    refine releases_modifyCon fun con hcon => ?_
    cases hget.symm.trans hcon
    exact hkeys.mscEndp
  | dlcx =>
    intro j
    rw [mscEndpOf, get?_bscMgcpDlcx]
    split
    · exact .inl (by cases nat.sccpConnections.get? j <;> rfl)
    · exact .inr rfl
  | remove =>
    rename_i i _ _ _ _
    intro j
    show ((nat.sccpConnections.remove i).get? j).bind _ = _ ∨ ((nat.sccpConnections.remove i).get? j).bind _ = _
    rw [get?_remove]
    split
    · exact .inl rfl
    · exact .inr rfl
  | bscGone => exact fun _ => .inr rfl

theorem releases_create (nat : BscNat) (b : Nat) (src : SccpSourceReference) (now : Nat) :
    Releases nat (nat.createSccpSrcRef b src now).1 := by
  intro j
  by_cases hcreated : (nat.createSccpSrcRef b src now).2 = some j
  · obtain ⟨con, _, hcon, hcreatedAs⟩ := created_con hcreated
    refine .inl ?_
    rw [mscEndpOf, hcon]
    rcases hcreatedAs with ⟨-, -, rfl⟩ | ⟨-, rfl⟩
    · rfl
    · rfl
  · cases hget : (nat.createSccpSrcRef b src now).1.sccpConnections.get? j with
    | none => simp [mscEndpOf, hget]
    | some con =>
      simp [mscEndpOf, hget, ((get?_createSccpSrcRef nat b src now).old j con hget hcreated).1]

theorem MscApart.refuse (h : MscApart nat) (b : Nat) (src : SccpSourceReference) (now : Nat) :
    MscApart (nat.refuse b src now).1 := by
  have hcreate := h.releases (releases_create nat b src now)
  unfold BscNat.refuse
  cases hcall : nat.createSccpSrcRef b src now with
  | mk nat' created =>
    rw [hcall] at hcreate
    cases created with
    | none => exact hcreate
    | some i => exact hcreate.releases (releases_modifyCon fun con _ => rfl)

/-- The connection takes the endpoint when nobody has it any more. -/
theorem MscApart.assign (h : MscApart nat) (i endp : Nat) : MscApart (nat.assignEndpoints i endp).1 := by
  have htake : MscApart ((nat.clearStale endp).modifyCon i fun con => { con with mscEndp := some endp }) := by
    have hback : ∀ e j, mscEndpOf ((nat.clearStale endp).modifyCon i fun con =>
        { con with mscEndp := some endp }) j = some e → if e = endp then j = i else mscEndpOf nat j = some e := by
      intro e j hj
      replace hj : (((nat.clearStale endp).sccpConnections.modify i _).get? j).bind _ = some e := hj
      rw [get?_modify, get?_clearStale] at hj
      unfold mscEndpOf
      cases hget : nat.sccpConnections.get? j with
      | none => simp [hget] at hj
      | some con => grind [unstale]
    intro e j k hj hk
    have hj := hback e j hj
    have hk := hback e k hk
    split at hj
    · rename_i he
      rw [if_pos he] at hk
      exact hj.trans hk.symm
    · rename_i he
      rw [if_neg he] at hk
      exact h e j k hj hk
  unfold assignEndpoints
  simp only
  split
  · exact htake
  · split
    · exact htake
    · split
      · exact htake
      · exact htake.releases (releases_modifyCon fun con _ => rfl)

theorem mscApart_of_reachable {lib : Osmocore} (h : Reachable (natSystem lib) nat) : MscApart nat := by
  refine h.invariant ?_ ?_
  · rintro nat ⟨cfg, rfl⟩ endp i j hi
    cases hi
  · rintro nat ev nat' hinv - rfl
    refine closure_preserves (I := MscApart) (fun _ _ h hop => h.releases (releases_op hop)) (natStep_ops lib nat ev) ?_
    cases natEffect lib nat ev with
    | none => exact hinv
    | opened b src now => exact hinv.releases (releases_create nat b src now)
    | refused b src now => exact hinv.refuse b src now
    | confirmed i src => exact hinv.releases (releases_modifyCon fun con _ => rfl)
    | assigned i endp => exact hinv.assign i endp

/-- **In every state of every run `bsc_mgcp_find_con` finds the connection that has the endpoint:** the last one
    of the list is the only one. -/
theorem bscMgcpFindCon_of_reachable {lib : Osmocore} {endp : Nat} (h : Reachable (natSystem lib) nat)
    (hget : nat.sccpConnections.get? i = some con) (hendp : con.mscEndp = some endp) :
    nat.bscMgcpFindCon endp = some (i, con) := by
  refine findLast?_unique hget (by simpa using hendp) fun j other hj hother => ?_
  exact mscApart_of_reachable h endp j i (by simpa [mscEndpOf, hj] using hother) (by rw [mscEndpOf, hget]; exact hendp)

theorem bscMgcpFindCon_leaking : ∃ con, leakingRun.bscMgcpFindCon 6 = some (0, con) := by
  have hreach : Reachable (natSystem plainLib) leakingRun :=
    ReachableBy.foldl (fun _ _ => rfl) _ (.init ⟨plainConfig, rfl⟩)
  obtain ⟨con, hget, hendp⟩ : ∃ con ∈ leakingRun.sccpConnections.get? 0, con.mscEndp = some 6 := by decide +kernel
  exact ⟨con, bscMgcpFindCon_of_reachable hreach hget hendp⟩

end OpenBsc.OsmoBscNat
