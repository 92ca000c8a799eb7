import OpenBsc.OsmoBscNat.Effects

/-!
# `OsmoBscNat.References` — what the table of references looks like in every state

The patched references are distinct and none is reserved, and no BSC has two connections with one reference of
its own. This holds in every run (`reachable_refsDistinct`): the allocator only hands out what is free, and
everything else leaves these references alone.
-/

namespace OpenBsc.OsmoBscNat

open Transition Relation BscNat Pool Option

/-! ## The allocator -/

/-- `last_ref` is never left at the reserved reference. -/
def LastRefOk (nat : BscNat) : Prop := nat.lastRef % 2 ^ 24 ≠ 0xffffff

theorem assignLoop_free (isFree : SccpSourceReference → Bool) (last wrapped : Nat) :
    ∀ ref, (assignLoop isFree last wrapped).1 = some ref → isFree ref = true := by
  fun_induction assignLoop isFree last wrapped with
  | case1 last wrapped reference hwrap hfree =>
    rintro ref ⟨⟩
    exact hfree
  | case2 last wrapped reference hwrap hfree hagain ih => exact ih
  | case3 last wrapped reference hwrap hfree hagain =>
    intro ref href
    cases href
  | case4 last wrapped reference hwrap hfree =>
    rintro ref ⟨⟩
    exact hfree
  | case5 last wrapped reference hwrap hfree ih => exact ih

theorem ofNat_ne_reserved {last : Nat} (h : last % 2 ^ 24 ≠ 0xffffff) : BitVec.ofNat 24 last ≠ 0xffffff := by
  intro heq
  have hval := congrArg BitVec.toNat heq
  rw [BitVec.toNat_ofNat] at hval
  exact h hval

/-- What the search finds is not reserved, and neither is what it leaves. -/
theorem assignLoop_reserved (isFree : SccpSourceReference → Bool) (last wrapped : Nat)
    (h : last % 2 ^ 24 ≠ 0xffffff) :
    (assignLoop isFree last wrapped).2 % 2 ^ 24 ≠ 0xffffff ∧
      ∀ ref, (assignLoop isFree last wrapped).1 = some ref → ref ≠ 0xffffff := by
  have hzero : 0 % 2 ^ 24 ≠ 0xffffff := by omega
  fun_induction assignLoop isFree last wrapped with
  | case1 last wrapped reference hwrap hfree =>
    refine ⟨hzero, ?_⟩
    rintro ref ⟨⟩
    exact ofNat_ne_reserved h
  | case2 last wrapped reference hwrap hfree hagain ih => exact ih hzero
  | case3 last wrapped reference hwrap hfree hagain =>
    refine ⟨hzero, ?_⟩
    intro ref href
    cases href
  | case4 last wrapped reference hwrap hfree =>
    refine ⟨hwrap, ?_⟩
    rintro ref ⟨⟩
    exact ofNat_ne_reserved h
  | case5 last wrapped reference hwrap hfree ih => exact ih hwrap

variable {nat : BscNat}

theorem sccpRefIsFree_iff {ref : SccpSourceReference} :
    nat.sccpRefIsFree ref = true ↔ ∀ i con, nat.sccpConnections.get? i = some con → con.patchedRef ≠ ref := by
  unfold sccpRefIsFree
  rw [isNone_iff_eq_none, find?_eq_none]
  simp

/-- The connection an old one becomes when its BSC uses the reference again. -/
def renewed (con : SccpConnections) (patched : SccpSourceReference) (now : Nat) : SccpConnections :=
  { con with remoteRef := 0, patchedRef := patched, creationTime := now }

/-- The connection `i` under its new reference, with its endpoints released. -/
def BscNat.renew (nat : BscNat) (i : Nat) (patched : SccpSourceReference) (now last : Nat) : BscNat :=
  (BscNat.modifyCon { nat with lastRef := last } i fun con => renewed con patched now).bscMgcpDlcx i

/-- **What `create_sccp_src_ref` can do.** There is an old connection, or there is none; the allocator finds a
    reference, or it does not. -/
inductive Created (nat : BscNat) (b : Nat) (src : SccpSourceReference) (now : Nat) :
    BscNat × Option Nat → Prop where
  | renewed {i : Nat} {con : SccpConnections} {ref : SccpSourceReference} {last : Nat}
      (hfind : nat.findByRealRef b src = some (i, con)) (hfree : nat.sccpRefIsFree ref = true)
      (hok : LastRefOk nat → last % 2 ^ 24 ≠ 0xffffff ∧ ref ≠ 0xffffff) :
      Created nat b src now (nat.renew i ref now last, some i)
  | dropped {i : Nat} {con : SccpConnections} {last : Nat}
      (hfind : nat.findByRealRef b src = some (i, con)) (hok : LastRefOk nat → last % 2 ^ 24 ≠ 0xffffff) :
      Created nat b src now (BscNat.sccpConnectionDestroy { nat with lastRef := last } i, none)
  | new {ref : SccpSourceReference} {last : Nat}
      (hfind : nat.findByRealRef b src = none) (hfree : nat.sccpRefIsFree ref = true)
      (hok : LastRefOk nat → last % 2 ^ 24 ≠ 0xffffff ∧ ref ≠ 0xffffff) :
      Created nat b src now
        ({ nat with
            lastRef := last
            sccpConnections := nat.sccpConnections.alloc (BscNat.newConnection b src ref now) },
          some nat.sccpConnections.next)
  | failed {last : Nat} (hfind : nat.findByRealRef b src = none)
      (hok : LastRefOk nat → last % 2 ^ 24 ≠ 0xffffff) :
      Created nat b src now ({ nat with lastRef := last }, none)

variable {f : SccpConnections → SccpConnections}

/-- Clearing a remote reference does not change which references are free. -/
theorem sccpRefIsFree_modifyCon {i : Nat} (hf : ∀ con, (f con).patchedRef = con.patchedRef) :
    (nat.modifyCon i f).sccpRefIsFree = nat.sccpRefIsFree := by
  funext ref
  rw [Bool.eq_iff_iff, sccpRefIsFree_iff, sccpRefIsFree_iff]
  have hget : ∀ j, (nat.modifyCon i f).sccpConnections.get? j = _ := fun j =>
    get?_modify nat.sccpConnections i j f
  constructor
  · intro h j con hj
    have hmod := hget j
    rw [hj] at hmod
    by_cases hji : j = i
    · rw [if_pos hji] at hmod
      rw [← hf con]
      exact h j _ hmod
    · rw [if_neg hji] at hmod
      exact h j _ hmod
  · intro h j con hj
    rw [hget] at hj
    by_cases hji : j = i
    · rw [if_pos hji] at hj
      obtain ⟨old, hold, rfl⟩ := map_eq_some_iff.mp hj
      rw [hf]
      exact h j old hold
    · rw [if_neg hji] at hj
      exact h j con hj

theorem modifyCon_modifyCon (nat : BscNat) (i : Nat) (f g : SccpConnections → SccpConnections) :
    (nat.modifyCon i f).modifyCon i g = nat.modifyCon i fun con => g (f con) := by
  unfold modifyCon
  rw [modify_modify]

theorem assignSrcLocalReference_modifyCon {i : Nat} (hf : ∀ con, (f con).patchedRef = con.patchedRef) :
    (nat.modifyCon i f).assignSrcLocalReference =
      (nat.assignSrcLocalReference.1, nat.assignSrcLocalReference.2.modifyCon i f) := by
  unfold assignSrcLocalReference
  rw [sccpRefIsFree_modifyCon hf]
  rfl

variable {nat' : BscNat}

/-- The allocator changes nothing but `last_ref`. -/
theorem assignSrcLocalReference_spec (nat : BscNat) {found : Option SccpSourceReference}
    (h : nat.assignSrcLocalReference = (found, nat')) :
    ∃ last, nat' = { nat with lastRef := last } ∧ (LastRefOk nat → last % 2 ^ 24 ≠ 0xffffff) ∧
      ∀ ref, found = some ref → nat.sccpRefIsFree ref = true ∧ (LastRefOk nat → ref ≠ 0xffffff) := by
  cases h
  have hok := assignLoop_reserved nat.sccpRefIsFree nat.lastRef 0
  refine ⟨_, rfl, fun h => (hok h).1, ?_⟩
  intro ref href
  exact ⟨assignLoop_free _ _ _ ref href, fun h => (hok h).2 ref href⟩

theorem createSccpSrcRef_cases (nat : BscNat) (b : Nat) (src : SccpSourceReference) (now : Nat) :
    Created nat b src now (nat.createSccpSrcRef b src now) := by
  unfold createSccpSrcRef
  cases hfind : nat.findByRealRef b src with
  | none =>
    simp only
    cases hassign : nat.assignSrcLocalReference with
    | mk found nat' =>
      obtain ⟨last, rfl, hlast, href⟩ := assignSrcLocalReference_spec nat hassign
      cases found with
      | none => exact .failed hfind hlast
      | some ref =>
        obtain ⟨hfree, hreserved⟩ := href ref rfl
        exact .new hfind hfree fun h => ⟨hlast h, hreserved h⟩
  | some found =>
    obtain ⟨i, con⟩ := found
    obtain ⟨hget, -, -⟩ := findByRealRef_some hfind
    simp only
    rw [assignSrcLocalReference_modifyCon (f := fun conn => { conn with remoteRef := 0 }) fun _ => rfl]
    cases hassign : nat.assignSrcLocalReference with
    | mk found nat' =>
      obtain ⟨last, rfl, hlast, href⟩ := assignSrcLocalReference_spec nat hassign
      cases found with
      | none =>
        simp only
        have hdrop : (modifyCon { nat with lastRef := last } i fun conn =>
            { conn with remoteRef := 0 }).sccpConnectionDestroy i =
            sccpConnectionDestroy { nat with lastRef := last } i :=
          destroy_modifyCon hget rfl rfl rfl
        rw [hdrop]
        exact .dropped hfind hlast
      | some ref =>
        -- the two changes of the connection are one
        have hrenew : (modifyCon { nat with lastRef := last } i fun conn =>
            { conn with remoteRef := 0 }).modifyCon i (fun conn =>
            { conn with patchedRef := ref, creationTime := now }) =
            modifyCon { nat with lastRef := last } i fun con => renewed con ref now :=
          modifyCon_modifyCon _ i _ _
        obtain ⟨hfree, hreserved⟩ := href ref rfl
        simp only
        rw [hrenew]
        exact .renewed hfind hfree fun h => ⟨hlast h, hreserved h⟩

/-- **The connection that `create_sccp_src_ref` returns, and all others.** It is the one the BSC had under this
    reference, or a new one; the others are as they were. -/
structure CreatedGet (nat : BscNat) (b : Nat) (src : SccpSourceReference) (nat' : BscNat) (created : Option Nat) :
    Prop where
  old : ∀ j con, nat'.sccpConnections.get? j = some con → created ≠ some j →
    nat.sccpConnections.get? j = some con ∧ nat.findByRealRef b src ≠ some (j, con)
  new : ∀ i con, nat'.sccpConnections.get? i = some con → created = some i →
    con.bsc = b ∧ con.realRef = src ∧ con.remoteRef = 0 ∧ nat.sccpRefIsFree con.patchedRef = true ∧
      (LastRefOk nat → con.patchedRef ≠ 0xffffff)
  place : ∀ i, created = some i → (∃ con, nat.findByRealRef b src = some (i, con)) ∨
    nat.findByRealRef b src = none ∧ i = nat.sccpConnections.next
  lastRef : LastRefOk nat → LastRefOk nat'

theorem get?_renew {i : Nat} {con : SccpConnections} (h : nat.sccpConnections.get? i = some con)
    (patched : SccpSourceReference) (now last j : Nat) :
    (nat.renew i patched now last).sccpConnections.get? j =
      if j = i then some { renewed con patched now with mscEndp := none, bscEndp := none }
      else nat.sccpConnections.get? j := by
  unfold renew
  rw [get?_bscMgcpDlcx]
  show (if j = i then ((nat.sccpConnections.modify i _).get? j).map _
    else (nat.sccpConnections.modify i _).get? j) = _
  by_cases hj : j = i
  · subst hj
    rw [if_pos rfl, if_pos rfl, get?_modify_self h]
    rfl
  · rw [if_neg hj, if_neg hj, get?_modify_ne hj]

theorem get?_createSccpSrcRef (nat : BscNat) (b : Nat) (src : SccpSourceReference) (now : Nat) :
    CreatedGet nat b src (nat.createSccpSrcRef b src now).1 (nat.createSccpSrcRef b src now).2 := by
  have hcases := createSccpSrcRef_cases nat b src now
  generalize nat.createSccpSrcRef b src now = out at hcases ⊢
  cases hcases with
  | renewed hfind hfree hok =>
    rename_i i con ref last
    obtain ⟨hget, hb, hsrc⟩ := findByRealRef_some hfind
    refine ⟨?_, ?_, ?_, ?_⟩
    · intro j d hj hne
      have hji : j ≠ i := fun heq => hne (congrArg some heq.symm)
      rw [get?_renew hget, if_neg hji] at hj
      refine ⟨hj, fun h => hji ?_⟩
      rw [hfind] at h
      injection h with h
      exact (congrArg Prod.fst h).symm
    · rintro j d hj ⟨⟩
      rw [get?_renew hget, if_pos rfl] at hj
      cases hj
      exact ⟨hb, hsrc, rfl, hfree, fun h => (hok h).2⟩
    · rintro j ⟨⟩
      exact .inl ⟨con, hfind⟩
    · intro h
      show lastRef (bscMgcpDlcx _ i) % 2 ^ 24 ≠ _
      rw [lastRef_bscMgcpDlcx]
      exact (hok h).1
  | dropped hfind hok =>
    rename_i i con last
    refine ⟨?_, ?_, ?_, ?_⟩
    · intro j d hj _
      rw [get?_sccpConnectionDestroy] at hj
      by_cases hji : j = i
      · rw [if_pos hji] at hj
        cases hj
      · rw [if_neg hji] at hj
        refine ⟨hj, fun h => hji ?_⟩
        rw [hfind] at h
        injection h with h
        exact (congrArg Prod.fst h).symm
    · rintro j d hj ⟨⟩
    · rintro j ⟨⟩
    · intro h
      show lastRef (bscMgcpDlcx _ i) % 2 ^ 24 ≠ _
      rw [lastRef_bscMgcpDlcx]
      exact hok h
  | new hfind hfree hok =>
    rename_i ref last
    have hget := get?_alloc nat.sccpConnections (newConnection b src ref now)
    refine ⟨?_, ?_, ?_, fun h => (hok h).1⟩
    · intro j d hj hne
      rw [hget, if_neg fun heq => hne (congrArg some heq.symm)] at hj
      refine ⟨hj, ?_⟩
      rw [hfind]
      exact fun h => by cases h
    · rintro j d hj ⟨⟩
      rw [hget, if_pos rfl] at hj
      cases hj
      exact ⟨rfl, rfl, rfl, hfree, fun h => (hok h).2⟩
    · rintro j ⟨⟩
      exact .inr ⟨hfind, rfl⟩
  | failed hfind hok =>
    refine ⟨?_, ?_, ?_, hok⟩
    · intro j d hj _
      refine ⟨hj, ?_⟩
      rw [hfind]
      exact fun h => by cases h
    · rintro j d hj ⟨⟩
    · rintro j ⟨⟩

/-- **The connection a request is refused on, and all others.** It has its own patched reference for the remote
    one. -/
structure RefusedGet (nat : BscNat) (b : Nat) (src : SccpSourceReference) (nat' : BscNat) (created : Option Nat) :
    Prop where
  old : ∀ j con, nat'.sccpConnections.get? j = some con → created ≠ some j →
    nat.sccpConnections.get? j = some con ∧ nat.findByRealRef b src ≠ some (j, con)
  new : ∀ i con, nat'.sccpConnections.get? i = some con → created = some i →
    con.bsc = b ∧ con.realRef = src ∧ con.remoteRef = con.patchedRef ∧ nat.sccpRefIsFree con.patchedRef = true
  live : ∀ i, created = some i → ∃ con, nat'.sccpConnections.get? i = some con

/-- The connection that `create_sccp_src_ref` returns is the renewed old one, or a new one. -/
theorem created_con {nat : BscNat} {b : Nat} {src : SccpSourceReference} {now i : Nat}
    (h : (nat.createSccpSrcRef b src now).2 = some i) :
    ∃ con patched, (nat.createSccpSrcRef b src now).1.sccpConnections.get? i = some con ∧
      ((∃ old, nat.findByRealRef b src = some (i, old) ∧
        con = { renewed old patched now with mscEndp := none, bscEndp := none }) ∨
      nat.findByRealRef b src = none ∧ con = newConnection b src patched now) := by
  have hcases := createSccpSrcRef_cases nat b src now
  generalize nat.createSccpSrcRef b src now = out at hcases h ⊢
  cases hcases with
  | renewed hfind hfree hok =>
    cases h
    obtain ⟨hget, -, -⟩ := findByRealRef_some hfind
    exact ⟨_, _, (get?_renew hget _ _ _ i).trans (if_pos rfl), .inl ⟨_, hfind, rfl⟩⟩
  | dropped => cases h
  | new hfind hfree hok =>
    cases h
    exact ⟨_, _, (get?_alloc nat.sccpConnections _ _).trans (if_pos rfl), .inr ⟨hfind, rfl⟩⟩
  | failed => cases h

theorem get?_refuse (nat : BscNat) (b : Nat) (src : SccpSourceReference) (now : Nat) :
    RefusedGet nat b src (nat.refuse b src now).1 (nat.refuse b src now).2 := by
  obtain ⟨hold, hnew, -, -⟩ := get?_createSccpSrcRef nat b src now
  have hlive := @created_con nat b src now
  unfold refuse
  cases hcreate : nat.createSccpSrcRef b src now with
  | mk nat₁ created =>
    rw [hcreate] at hold hnew hlive
    cases created with
    | none => exact ⟨hold, fun _ _ _ h => (nomatch h), fun _ h => (nomatch h)⟩
    | some i =>
      have hmod := fun j => get?_modify nat₁.sccpConnections i j declareLocal
      refine ⟨?_, ?_, ?_⟩
      · intro j con hj hne
        have hji : j ≠ i := fun heq => hne (congrArg some heq.symm)
        have hget : (nat₁.sccpConnections.modify i _).get? j = some con := hj
        rw [hmod, if_neg hji] at hget
        exact hold j con hget hne
      · rintro j con hj ⟨⟩
        have hget : (nat₁.sccpConnections.modify i _).get? i = some con := hj
        rw [hmod, if_pos rfl] at hget
        obtain ⟨d, hd, rfl⟩ := map_eq_some_iff.mp hget
        obtain ⟨hb, hsrc, -, hfree, -⟩ := hnew i d hd rfl
        exact ⟨hb, hsrc, rfl, hfree⟩
      · rintro j ⟨⟩
        obtain ⟨con, -, hcon, -⟩ := hlive rfl
        exact ⟨_, get?_modify_self hcon⟩

/-! ## Frames -/

/-- The connection has the same references. -/
structure SameRefs (con con' : SccpConnections) : Prop where
  bsc : con'.bsc = con.bsc
  realRef : con'.realRef = con.realRef
  patchedRef : con'.patchedRef = con.patchedRef
  remoteRef : con'.remoteRef = con.remoteRef

/-- Every connection was there before, with the same references. -/
structure Keeps (nat nat' : BscNat) : Prop where
  lastRef : nat'.lastRef = nat.lastRef
  cons : ∀ i con', nat'.sccpConnections.get? i = some con' →
    ∃ con, nat.sccpConnections.get? i = some con ∧ SameRefs con con'

theorem SameRefs.refl (con : SccpConnections) : SameRefs con con := ⟨rfl, rfl, rfl, rfl⟩

theorem Keeps.refl (nat : BscNat) : Keeps nat nat := ⟨rfl, fun _ con h => ⟨con, h, .refl con⟩⟩

theorem Keeps.trans {a b c : BscNat} (h : Keeps a b) (h' : Keeps b c) : Keeps a c := by
  refine ⟨h'.lastRef.trans h.lastRef, ?_⟩
  intro i con' hi
  obtain ⟨con, hcon, hsame⟩ := h'.cons i con' hi
  obtain ⟨con₀, hcon₀, hsame₀⟩ := h.cons i con hcon
  exact ⟨con₀, hcon₀, hsame.bsc.trans hsame₀.bsc, hsame.realRef.trans hsame₀.realRef,
    hsame.patchedRef.trans hsame₀.patchedRef, hsame.remoteRef.trans hsame₀.remoteRef⟩

theorem keeps_modifyCon (nat : BscNat) (i : Nat)
    (hf : ∀ con, nat.sccpConnections.get? i = some con → SameRefs con (f con)) : Keeps nat (nat.modifyCon i f) := by
  refine ⟨rfl, ?_⟩
  intro j con' hj
  have hmod : (nat.sccpConnections.modify i f).get? j = some con' := hj
  rw [get?_modify] at hmod
  by_cases hji : j = i
  · subst hji
    rw [if_pos rfl] at hmod
    obtain ⟨con, hcon, rfl⟩ := map_eq_some_iff.mp hmod
    exact ⟨con, hcon, hf con hcon⟩
  · rw [if_neg hji] at hmod
    exact ⟨con', hmod, .refl con'⟩

theorem keeps_bscMgcpDlcx (nat : BscNat) (i : Nat) : Keeps nat (nat.bscMgcpDlcx i) := by
  refine ⟨lastRef_bscMgcpDlcx nat i, ?_⟩
  intro j con' hj
  rw [get?_bscMgcpDlcx] at hj
  by_cases hji : j = i
  · rw [if_pos hji] at hj
    obtain ⟨con, hcon, rfl⟩ := map_eq_some_iff.mp hj
    exact ⟨con, hcon, rfl, rfl, rfl, rfl⟩
  · rw [if_neg hji] at hj
    exact ⟨con', hj, .refl con'⟩

theorem keeps_op {own : Nat → Prop} (h : NatOp own nat nat') : Keeps nat nat' := by
  cases h with
  | quiet h => exact ⟨h.lastRef, fun i con hi => ⟨con, h.cons ▸ hi, .refl con⟩⟩
  | touch hget hown hkeys =>
    refine keeps_modifyCon nat _ fun con hcon => ?_
    rw [hget] at hcon
    cases hcon
    exact ⟨hkeys.bsc, hkeys.realRef, hkeys.patchedRef, hkeys.remoteRef⟩
  | dlcx hget hown => exact keeps_bscMgcpDlcx nat _
  | remove hget hown hendp =>
    rename_i i con
    refine ⟨rfl, ?_⟩
    intro j con' hj
    have hrem : (nat.sccpConnections.remove i).get? j = some con' := hj
    rw [get?_remove] at hrem
    by_cases hji : j = i
    · rw [if_pos hji] at hrem
      cases hrem
    · rw [if_neg hji] at hrem
      exact ⟨con', hrem, .refl con'⟩
  | bscGone hnone => exact ⟨rfl, fun i con hi => ⟨con, hi, .refl con⟩⟩

theorem keeps_ops {own : Nat → Prop} (h : NatOps own nat nat') : Keeps nat nat' :=
  closure_preserves (I := Keeps nat) (fun _ _ hkeeps hop => hkeeps.trans (keeps_op hop)) h (.refl nat)

theorem keeps_clearStale (nat : BscNat) (endp : Nat) : Keeps nat (nat.clearStale endp) := by
  have hround : ∀ (nat : BscNat) (j : Nat), Keeps nat
      (if (nat.sccpConnections.get? j).bind (·.mscEndp) = some endp then nat.bscMgcpDlcx j else nat) := by
    intro nat j
    split
    · exact keeps_bscMgcpDlcx nat j
    · exact .refl nat
  unfold clearStale
  induction nat.sccpConnections.ids generalizing nat with
  | nil => exact .refl nat
  | cons j l ih => exact (hround nat j).trans (ih _)

theorem keeps_assignEndpoints (nat : BscNat) (i endp : Nat) : Keeps nat (nat.assignEndpoints i endp).1 := by
  have hstale := (keeps_clearStale nat endp).trans
    (keeps_modifyCon _ i (f := fun con => { con with mscEndp := some endp }) fun con _ => ⟨rfl, rfl, rfl, rfl⟩)
  have hbsc : ∀ (nat : BscNat) (b : Nat) (f : BscConnection → BscConnection), Keeps nat (nat.modifyBsc b f) :=
    fun nat b f => ⟨rfl, fun i con hi => ⟨con, hi, .refl con⟩⟩
  unfold assignEndpoints
  simp only
  split
  · exact hstale
  · split
    · exact hstale
    · split
      · exact hstale.trans (hbsc _ _ _)
      · show Keeps nat (modifyCon (modifyBsc (modifyBsc _ _ _) _ _) i _)
        refine Keeps.trans ?_ (keeps_modifyCon _ i fun con _ => ⟨rfl, rfl, rfl, rfl⟩)
        refine Keeps.trans ?_ (hbsc _ _ _)
        exact hstale.trans (hbsc _ _ _)

/-! ## The invariant -/

/-- **The references of the live connections.** The patched ones are distinct and not reserved, and a BSC has
    one connection for each of its own. -/
structure RefsDistinct (nat : BscNat) : Prop where
  patched : ∀ i j con con', nat.sccpConnections.get? i = some con → nat.sccpConnections.get? j = some con' →
    con.patchedRef = con'.patchedRef → i = j
  notReserved : ∀ i con, nat.sccpConnections.get? i = some con → con.patchedRef ≠ 0xffffff
  real : ∀ i j con con', nat.sccpConnections.get? i = some con → nat.sccpConnections.get? j = some con' →
    con.bsc = con'.bsc → con.realRef = con'.realRef → i = j
  lastRef : LastRefOk nat

section

variable (h : RefsDistinct nat)

include h

theorem RefsDistinct.keeps (hkeeps : Keeps nat nat') : RefsDistinct nat' := by
  refine ⟨?_, ?_, ?_, ?_⟩
  · intro i j con con' hi hj heq
    obtain ⟨c, hc, hsame⟩ := hkeeps.cons i con hi
    obtain ⟨c', hc', hsame'⟩ := hkeeps.cons j con' hj
    exact h.patched i j c c' hc hc' (by rw [← hsame.patchedRef, ← hsame'.patchedRef, heq])
  · intro i con hi
    obtain ⟨c, hc, hsame⟩ := hkeeps.cons i con hi
    rw [hsame.patchedRef]
    exact h.notReserved i c hc
  · intro i j con con' hi hj hbsc hreal
    obtain ⟨c, hc, hsame⟩ := hkeeps.cons i con hi
    obtain ⟨c', hc', hsame'⟩ := hkeeps.cons j con' hj
    exact h.real i j c c' hc hc' (by rw [← hsame.bsc, ← hsame'.bsc, hbsc])
      (by rw [← hsame.realRef, ← hsame'.realRef, hreal])
  · show nat'.lastRef % 2 ^ 24 ≠ 0xffffff
    rw [hkeeps.lastRef]
    exact h.lastRef

/-- Changing a connection's remote reference and state keeps the others distinct. -/
theorem RefsDistinct.modifyCon (i : Nat)
    (hf : ∀ con, (f con).bsc = con.bsc ∧ (f con).realRef = con.realRef ∧ (f con).patchedRef = con.patchedRef) :
    RefsDistinct (nat.modifyCon i f) := by
  have hback : ∀ j con', (nat.modifyCon i f).sccpConnections.get? j = some con' → ∃ con,
      nat.sccpConnections.get? j = some con ∧ con'.bsc = con.bsc ∧ con'.realRef = con.realRef ∧
        con'.patchedRef = con.patchedRef := by
    intro j con' hj
    have hmod : (nat.sccpConnections.modify i f).get? j = some con' := hj
    rw [get?_modify] at hmod
    by_cases hji : j = i
    · rw [if_pos hji] at hmod
      obtain ⟨con, hcon, rfl⟩ := map_eq_some_iff.mp hmod
      exact ⟨con, hcon, hf con⟩
    · rw [if_neg hji] at hmod
      exact ⟨con', hmod, rfl, rfl, rfl⟩
  refine ⟨?_, ?_, ?_, h.lastRef⟩
  · intro j k con con' hj hk heq
    obtain ⟨c, hc, -, -, hp⟩ := hback j con hj
    obtain ⟨c', hc', -, -, hp'⟩ := hback k con' hk
    exact h.patched j k c c' hc hc' (by rw [← hp, ← hp', heq])
  · intro j con hj
    obtain ⟨c, hc, -, -, hp⟩ := hback j con hj
    rw [hp]
    exact h.notReserved j c hc
  · intro j k con con' hj hk hbsc hreal
    obtain ⟨c, hc, hb, hr, -⟩ := hback j con hj
    obtain ⟨c', hc', hb', hr', -⟩ := hback k con' hk
    exact h.real j k c c' hc hc' (by rw [← hb, ← hb', hbsc]) (by rw [← hr, ← hr', hreal])

/-- A connection that is found by its BSC's reference is the only one. -/
theorem RefsDistinct.findByRealRef {i : Nat} {con : SccpConnections}
    (hi : nat.sccpConnections.get? i = some con) : nat.findByRealRef con.bsc con.realRef = some (i, con) := by
  refine find?_unique hi (by simp) ?_
  intro j d hj hq
  obtain ⟨hb, hr⟩ : d.bsc = con.bsc ∧ d.realRef = con.realRef := by simpa using hq
  exact h.real j i d con hj hi hb hr

/-- The connection `create_sccp_src_ref` returns is distinct from all others. -/
theorem RefsDistinct.create (b : Nat) (src : SccpSourceReference) (now : Nat) :
    RefsDistinct (nat.createSccpSrcRef b src now).1 := by
  obtain ⟨hold, hnew, -, hlast⟩ := get?_createSccpSrcRef nat b src now
  -- no old connection has the references of the returned one
  have hfresh : ∀ i j con con', (nat.createSccpSrcRef b src now).1.sccpConnections.get? i = some con →
      (nat.createSccpSrcRef b src now).1.sccpConnections.get? j = some con' →
      (nat.createSccpSrcRef b src now).2 = some i → (nat.createSccpSrcRef b src now).2 ≠ some j →
      con.patchedRef ≠ con'.patchedRef ∧ ¬ (con.bsc = con'.bsc ∧ con.realRef = con'.realRef) := by
    intro i j con con' hi hj hcreated hother
    obtain ⟨hb, hsrc, -, hfree, -⟩ := hnew i con hi hcreated
    obtain ⟨hjold, hnot⟩ := hold j con' hj hother
    refine ⟨fun heq => sccpRefIsFree_iff.mp hfree j con' hjold heq.symm, ?_⟩
    rintro ⟨hbsc, hreal⟩
    have hfind := h.findByRealRef hjold
    rw [← hbsc, ← hreal, hb, hsrc] at hfind
    exact hnot hfind
  refine ⟨?_, ?_, ?_, hlast h.lastRef⟩
  · intro i j con con' hi hj heq
    by_cases hci : (nat.createSccpSrcRef b src now).2 = some i
    · by_cases hcj : (nat.createSccpSrcRef b src now).2 = some j
      · exact Option.some.inj (hci.symm.trans hcj)
      · exact absurd heq (hfresh i j con con' hi hj hci hcj).1
    · by_cases hcj : (nat.createSccpSrcRef b src now).2 = some j
      · exact absurd heq.symm (hfresh j i con' con hj hi hcj hci).1
      · exact h.patched i j con con' (hold i con hi hci).1 (hold j con' hj hcj).1 heq
  · intro i con hi
    by_cases hci : (nat.createSccpSrcRef b src now).2 = some i
    · exact (hnew i con hi hci).2.2.2.2 h.lastRef
    · exact h.notReserved i con (hold i con hi hci).1
  · intro i j con con' hi hj hbsc hreal
    by_cases hci : (nat.createSccpSrcRef b src now).2 = some i
    · by_cases hcj : (nat.createSccpSrcRef b src now).2 = some j
      · exact Option.some.inj (hci.symm.trans hcj)
      · exact absurd ⟨hbsc, hreal⟩ (hfresh i j con con' hi hj hci hcj).2
    · by_cases hcj : (nat.createSccpSrcRef b src now).2 = some j
      · exact absurd ⟨hbsc.symm, hreal.symm⟩ (hfresh j i con' con hj hi hcj hci).2
      · exact h.real i j con con' (hold i con hi hci).1 (hold j con' hj hcj).1 hbsc hreal

theorem RefsDistinct.refuse (b : Nat) (src : SccpSourceReference) (now : Nat) :
    RefsDistinct (nat.refuse b src now).1 := by
  have hcreate := h.create b src now
  unfold BscNat.refuse
  cases hcall : nat.createSccpSrcRef b src now with
  | mk nat' created =>
    rw [hcall] at hcreate
    cases created with
    | none => exact hcreate
    | some i => exact hcreate.modifyCon i fun con => ⟨rfl, rfl, rfl⟩

theorem RefsDistinct.applyEffect (effect : NatEffect) :
    RefsDistinct (nat.applyEffect effect) := by
  cases effect with
  | none => exact h
  | opened b src now => exact h.create b src now
  | refused b src now => exact h.refuse b src now
  | confirmed i src => exact h.modifyCon i fun con => ⟨rfl, rfl, rfl⟩
  | assigned i endp => exact h.keeps (keeps_assignEndpoints nat i endp)

theorem RefsDistinct.natStep (lib : Osmocore) (ev : NatEvent) :
    RefsDistinct (natStep lib nat ev) :=
  (h.applyEffect _).keeps (keeps_ops (natStep_ops lib nat ev))

end

theorem refsDistinct_start (cfg : NatConfig) : RefsDistinct (start cfg) := by
  refine ⟨?_, ?_, ?_, ?_⟩
  · intro i j con con' hi
    cases hi
  · intro i con hi
    cases hi
  · intro i j con con' hi
    cases hi
  · show (0x50000 : Nat) % 2 ^ 24 ≠ 0xffffff
    omega

/-- **In every state of every run the references are distinct.** -/
theorem reachable_refsDistinct {lib : Osmocore} (h : Reachable (natSystem lib) nat) : RefsDistinct nat := by
  refine h.invariant ?_ ?_
  · rintro nat ⟨cfg, rfl⟩
    exact refsDistinct_start cfg
  · rintro nat ev nat' hinv - rfl
    exact hinv.natStep lib ev

end OpenBsc.OsmoBscNat
