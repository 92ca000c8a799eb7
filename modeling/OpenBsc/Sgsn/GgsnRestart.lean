import Mathlib.Data.List.Induction
import OpenBsc.Sgsn.Liveness

/-!
# `Sgsn.GgsnRestart` — PDP contexts with a GGSN that has restarted (`gprs_sgsn.c`)

When the restart counter of a GGSN changes, `cb_recovery` has every PDP context with it dropped: the station is asked to
deactivate it, or, if the station is not registered as usual, it is freed at once. The lists are walked with
`llist_for_each_entry`, which reads the next element from the one it has just dealt with; `sgsn_mm_ctx_free`, which
frees PDP contexts too, walks its list with `llist_for_each_entry_safe`.
-/

namespace OpenBsc.Sgsn

open List

/-! ## The walk -/

/-- What the walk has done so far: the contexts, the messages, the PDP contexts that were dropped, and their number. -/
structure Restart where
  gmm : Gmm
  reqs : List LlReq := []
  dropped : List Nat := []
  num : Nat := 0

/-- The walk goes through to the end, or it reads the next element from a PDP context that is free. -/
inductive PdpWalk where
  | done (r : Restart)
  | usedFree (p : Nat)

/-- `drop_one_pdp(pdp); num++;`. -/
def Restart.drop (r : Restart) (p : Nat) : Restart where
  gmm := (dropOnePdp r.gmm p).1
  reqs := r.reqs ++ (dropOnePdp r.gmm p).2
  dropped := r.dropped ++ [p]
  num := r.num + 1

/-- `pdp->ggsn == ggsn`. -/
def ofGgsn (g : Gmm) (ggsn p : Nat) : Bool := (g.pdps.get? p).any fun pdp => pdp.ggsn = some ggsn

/-- The inner loop of `drop_all_pdp_for_ggsn`, over what is left of the PDP contexts of an MM context. -/
def walkPdpList (ggsn : Nat) : List Nat → Restart → PdpWalk
  | [], r => .done r
  | p :: rest, r =>
    if ofGgsn r.gmm ggsn p then
      -- the pointer to the next element is in the PDP context that was dropped
      if ((r.drop p).gmm.pdps.get? p).isNone then .usedFree p else walkPdpList ggsn rest (r.drop p)
    else walkPdpList ggsn rest r

/-- The outer loop, over what is left of the MM contexts. -/
def walkMmList (ggsn : Nat) : List Nat → Restart → PdpWalk
  | [], r => .done r
  | i :: rest, r =>
    match walkPdpList ggsn (r.gmm.pdpList i) r with
    | .done r => walkMmList ggsn rest r
    | .usedFree p => .usedFree p

/-- `drop_all_pdp_for_ggsn`, as the lists are walked. -/
def dropAllPdpWalk (g : Gmm) (ggsn : Nat) : PdpWalk := walkMmList ggsn g.mms.ids.reverse { gmm := g }

/-! ## What holds -/

/-- The deactivation of a PDP context has begun: T3395 runs. -/
def PdpCtx.deactivating (pdp : PdpCtx) : PdpCtx := { pdp with T := .t3395, numTExp := 0, timer := true }

/-- The request to the station of a PDP context to deactivate it. -/
def deactReqs (g : Gmm) (p : Nat) : List LlReq :=
  match g.pdps.get? p with
  | none => []
  | some pdp => g.txFor pdp (.deactPdpReq (flipTi pdp.ti) .netFail)

/-- **All PDP contexts with the GGSN are dropped, and nothing else**: each of them once, so that it is free, or its
    deactivation has begun with one request to its station; their number is returned. -/
structure DroppedAll (g : Gmm) (ggsn : Nat) (r : Restart) : Prop where
  nodup : r.dropped.Nodup
  each : ∀ p, p ∈ r.dropped ↔ ∃ pdp, g.pdps.get? p = some pdp ∧ pdp.ggsn = some ggsn
  num : r.num = r.dropped.length
  begun : ∀ p ∈ r.dropped, r.gmm.pdps.get? p = none ∨ r.gmm.pdps.get? p = (g.pdps.get? p).map PdpCtx.deactivating
  reqs : r.reqs = (r.dropped.filter fun p => (r.gmm.pdps.get? p).isSome).flatMap (deactReqs g)
  others : ∀ p pdp, g.pdps.get? p = some pdp → pdp.ggsn ≠ some ggsn → r.gmm.pdps.get? p = some pdp

/-- The walk touches no PDP context after it was freed, and drops all that there are with the GGSN. -/
def GgsnRestarted (g : Gmm) (ggsn : Nat) : Prop := ∃ r, dropAllPdpWalk g ggsn = .done r ∧ DroppedAll g ggsn r

/-- The station of a PDP context is registered as usual. -/
def StationRegistered (g : Gmm) (p : Nat) : Prop :=
  ∃ pdp ctx, g.pdps.get? p = some pdp ∧ g.mms.get? pdp.mm = some ctx ∧ ctx.mmState = .registeredNormal

/-! ## Without a free -/

/-- The PDP contexts after the deactivation of some of them has begun. -/
def deactivateAll (pdps : Pool PdpCtx) (ps : List Nat) : Pool PdpCtx :=
  ps.foldl (fun pdps p => pdps.modify p PdpCtx.deactivating) pdps

/-- What the walk has done after the deactivation of the PDP contexts `ps` has begun. -/
def Restart.after (g : Gmm) (ps : List Nat) : Restart where
  gmm := { g with pdps := deactivateAll g.pdps ps }
  reqs := ps.flatMap (deactReqs g)
  dropped := ps
  num := ps.length

section

variable {g : Gmm} {ggsn : Nat}

theorem deactivateAll_concat (pdps : Pool PdpCtx) (ps : List Nat) (p : Nat) :
    deactivateAll pdps (ps ++ [p]) = (deactivateAll pdps ps).modify p PdpCtx.deactivating := by
  unfold deactivateAll
  rw [foldl_append]
  rfl

/-- A PDP context whose deactivation has begun is another record, and the others stay. -/
theorem get?_deactivateAll (pdps : Pool PdpCtx) (ps : List Nat) (q : Nat) :
    (deactivateAll pdps ps).get? q =
      if q ∈ ps then (pdps.get? q).map PdpCtx.deactivating else pdps.get? q := by
  induction ps using reverseRecOn with
  | nil => rfl
  | append_singleton ps p ih =>
    rw [deactivateAll_concat, Pool.get?_modify, ih]
    by_cases hqp : q = p
    · subst hqp
      rw [if_pos rfl, if_pos (mem_append_right _ (mem_singleton.mpr rfl))]
      by_cases hq : q ∈ ps
      · rw [if_pos hq, Option.map_map]
        rfl
      · rw [if_neg hq]
    · rw [if_neg hqp]
      by_cases hq : q ∈ ps
      · rw [if_pos hq, if_pos (mem_append_left _ hq)]
      · have hnot : q ∉ ps ++ [p] := by
          intro h
          rcases mem_append.mp h with h | h
          · exact hq h
          · exact hqp (mem_singleton.mp h)
        rw [if_neg hq, if_neg hnot]

/-- It has the same MM context and the same GGSN. -/
theorem get?_after (ps : List Nat) (q : Nat) :
    (Restart.after g ps).gmm.pdps.get? q =
      (g.pdps.get? q).map fun pdp => if q ∈ ps then pdp.deactivating else pdp := by
  show (deactivateAll g.pdps ps).get? q = _
  rw [get?_deactivateAll]
  by_cases hq : q ∈ ps
  · simp only [if_pos hq]
  · simp only [if_neg hq]
    exact Option.map_id'.symm

theorem ofGgsn_after (ps : List Nat) (p : Nat) : ofGgsn (Restart.after g ps).gmm ggsn p = ofGgsn g ggsn p := by
  unfold ofGgsn
  rw [get?_after]
  cases g.pdps.get? p with
  | none => rfl
  | some pdp =>
    rw [Option.map_some, Option.any_some, Option.any_some]
    split <;> rfl

variable {ps : List Nat} {p : Nat}

/-- A round with a station that is registered: the deactivation of one more has begun. -/
theorem drop_after (hreg : StationRegistered g p) : (Restart.after g ps).drop p = Restart.after g (ps ++ [p]) := by
  obtain ⟨pdp, ctx, hpdp, hctx, hstate⟩ := hreg
  obtain ⟨pdp', hpdp', hmm, hti⟩ : ∃ pdp', (Restart.after g ps).gmm.pdps.get? p = some pdp' ∧ pdp'.mm = pdp.mm ∧
      pdp'.ti = pdp.ti := by
    rw [get?_after, hpdp]
    by_cases hp : p ∈ ps
    · exact ⟨_, congrArg some (if_pos hp), rfl, rfl⟩
    · exact ⟨_, congrArg some (if_neg hp), rfl, rfl⟩
  have hmms : (Restart.after g ps).gmm.mms = g.mms := rfl
  have hnormal :
      ((Restart.after g ps).gmm.mms.get? pdp'.mm).any (fun ctx => ctx.mmState = .registeredNormal) = true := by
    rw [hmms, hmm, hctx, Option.any_some]
    exact decide_eq_true hstate
  have hdrop :
      dropOnePdp (Restart.after g ps).gmm p = gsm48TxGsmDeactPdpReq (Restart.after g ps).gmm p pdp' .netFail := by
    unfold dropOnePdp
    rw [hpdp']
    exact if_pos hnormal
  have hreq : (gsm48TxGsmDeactPdpReq (Restart.after g ps).gmm p pdp' .netFail).2 = deactReqs g p := by
    unfold gsm48TxGsmDeactPdpReq deactReqs Gmm.txFor
    rw [hpdp, hti, hmm]
    rfl
  unfold Restart.drop
  rw [hdrop, hreq]
  unfold Restart.after
  rw [deactivateAll_concat, flatMap_append, flatMap_singleton, length_append]
  rfl

/-- A round with a station that is not: the PDP context is free, and the next element is read from it. -/
theorem get?_drop_of_not_registered {r : Restart} (hreg : ¬ StationRegistered r.gmm p) :
    (r.drop p).gmm.pdps.get? p = none := by
  show (dropOnePdp r.gmm p).1.pdps.get? p = none
  unfold dropOnePdp
  cases hpdp : r.gmm.pdps.get? p with
  | none => exact hpdp
  | some pdp =>
    have hnot : ¬ (r.gmm.mms.get? pdp.mm).any (fun ctx => ctx.mmState = .registeredNormal) = true := by
      intro h
      obtain ⟨ctx, hctx, hstate⟩ := (Option.any_eq_true _ _).mp h
      exact hreg ⟨pdp, ctx, hpdp, hctx, of_decide_eq_true hstate⟩
    dsimp only
    rw [if_neg hnot]
    unfold Gmm.sgsnPdpCtxFree
    rw [hpdp]
    show (r.gmm.pdps.remove p).get? p = none
    rw [Pool.get?_remove, if_pos rfl]

theorem registered_after (h : StationRegistered (Restart.after g ps).gmm p) : StationRegistered g p := by
  obtain ⟨pdp', ctx, hpdp', hctx, hstate⟩ := h
  rw [get?_after] at hpdp'
  obtain ⟨pdp, hpdp, rfl⟩ := Option.map_eq_some_iff.mp hpdp'
  refine ⟨pdp, ctx, hpdp, ?_, hstate⟩
  split at hctx <;> exact hctx

/-- The stations of the PDP contexts with the GGSN are registered, as far as the PDP contexts are in a list. -/
def AllRegistered (g : Gmm) (ggsn : Nat) (ps : List Nat) : Prop :=
  ∀ p ∈ ps, ofGgsn g ggsn p = true → StationRegistered g p

theorem allRegistered_append {ps' : List Nat} :
    AllRegistered g ggsn (ps ++ ps') ↔ AllRegistered g ggsn ps ∧ AllRegistered g ggsn ps' :=
  forall_mem_append

/-- What comes of a walk over some PDP contexts: if the stations are registered, it goes through, and otherwise it reads
    the next element from a PDP context that is free. -/
inductive WalkEnd (g : Gmm) (ggsn : Nat) (ps before : List Nat) : PdpWalk → Prop where
  | through (h : AllRegistered g ggsn ps) :
    WalkEnd g ggsn ps before (.done (.after g (before ++ ps.filter (ofGgsn g ggsn))))
  | broken (h : ¬ AllRegistered g ggsn ps) (p : Nat) : WalkEnd g ggsn ps before (.usedFree p)

theorem WalkEnd.behind {before first : List Nat} {walk : PdpWalk} (hfirst : AllRegistered g ggsn first)
    (h : WalkEnd g ggsn ps (before ++ first.filter (ofGgsn g ggsn)) walk) :
    WalkEnd g ggsn (first ++ ps) before walk := by
  cases h with
  | through h =>
    rw [append_assoc, ← filter_append]
    exact .through (allRegistered_append.mpr ⟨hfirst, h⟩)
  | broken h p => exact .broken (fun hall => h (allRegistered_append.mp hall).2) p

/-- One that broke off among the first. -/
theorem WalkEnd.within {before first : List Nat} (hfirst : ¬ AllRegistered g ggsn first) (p : Nat) :
    WalkEnd g ggsn (first ++ ps) before (.usedFree p) :=
  .broken (fun hall => hfirst (allRegistered_append.mp hall).1) p

theorem walkEnd_nil (before : List Nat) : WalkEnd g ggsn [] before (.done (.after g before)) := by
  have hnone : AllRegistered g ggsn [] := fun p hp => nomatch hp
  have hend : WalkEnd g ggsn [] before _ := .through hnone
  rw [filter_nil, append_nil] at hend
  exact hend

theorem allRegistered_singleton : AllRegistered g ggsn [p] ↔ (ofGgsn g ggsn p = true → StationRegistered g p) :=
  forall_mem_singleton

/-- The inner loop, by induction on the PDP contexts that are left. -/
theorem walkPdpList_end (ps before : List Nat) : WalkEnd g ggsn ps before (walkPdpList ggsn ps (.after g before)) := by
  induction ps generalizing before with
  | nil => exact walkEnd_nil before
  | cons p ps ih =>
    unfold walkPdpList
    rw [ofGgsn_after]
    by_cases hof : ofGgsn g ggsn p = true
    · rw [if_pos hof]
      by_cases hreg : StationRegistered g p
      · obtain ⟨pdp, -, hpdp, -, -⟩ := id hreg
        have hthere : ¬ (((Restart.after g before).drop p).gmm.pdps.get? p).isNone = true := by
          rw [drop_after hreg, get?_after, hpdp]
          exact Bool.false_ne_true
        rw [if_neg hthere, drop_after hreg]
        have hfirst : AllRegistered g ggsn [p] := allRegistered_singleton.mpr fun _ => hreg
        refine WalkEnd.behind hfirst ?_
        rw [filter_cons_of_pos hof, filter_nil]
        exact ih (before ++ [p])
      · have hgone : (((Restart.after g before).drop p).gmm.pdps.get? p).isNone = true := by
          rw [get?_drop_of_not_registered fun h => hreg (registered_after h)]
          rfl
        rw [if_pos hgone]
        have hfirst : ¬ AllRegistered g ggsn [p] := fun h => hreg (allRegistered_singleton.mp h hof)
        exact .within hfirst p
    · rw [if_neg hof]
      have hfirst : AllRegistered g ggsn [p] := allRegistered_singleton.mpr fun h => absurd h hof
      refine WalkEnd.behind hfirst ?_
      rw [filter_cons_of_neg hof, filter_nil, append_nil]
      exact ih before

theorem pdpList_after (ps : List Nat) (i : Nat) : (Restart.after g ps).gmm.pdpList i = g.pdpList i := by
  have hmodify : ∀ (pdps : Pool PdpCtx) (p : Nat),
      (((pdps.modify p PdpCtx.deactivating).entries.reverse.filter fun e => e.2.mm == i).map Prod.fst) =
        (pdps.entries.reverse.filter fun e => e.2.mm == i).map Prod.fst := by
    intro pdps p
    show (((pdps.entries.map fun e => if e.1 = p then (e.1, e.2.deactivating) else e).reverse.filter
      fun e => e.2.mm == i).map Prod.fst) = _
    rw [← map_reverse, filter_map, map_map]
    have hmm : ∀ e : Nat × PdpCtx,
        ((fun e : Nat × PdpCtx => e.2.mm == i) ∘ fun e => if e.1 = p then (e.1, e.2.deactivating) else e) e =
          (e.2.mm == i) := by
      intro e
      by_cases he : e.1 = p
      · simp only [Function.comp, if_pos he]
        rfl
      · simp only [Function.comp, if_neg he]
    rw [filter_congr fun e _ => hmm e]
    refine map_congr_left fun e _ => ?_
    by_cases he : e.1 = p
    · simp only [Function.comp, if_pos he]
    · simp only [Function.comp, if_neg he]
  show (((deactivateAll g.pdps ps).entries.reverse.filter fun e => e.2.mm == i).map Prod.fst) = _
  induction ps using reverseRecOn with
  | nil => rfl
  | append_singleton ps p ih =>
    rw [deactivateAll_concat, hmodify]
    exact ih

/-- The outer loop, by induction on the MM contexts that are left. -/
theorem walkMmList_end (ids before : List Nat) :
    WalkEnd g ggsn (ids.flatMap g.pdpList) before (walkMmList ggsn ids (.after g before)) := by
  induction ids generalizing before with
  | nil => exact walkEnd_nil before
  | cons i ids ih =>
    have hinner : WalkEnd g ggsn (g.pdpList i) before _ := walkPdpList_end (g.pdpList i) before
    unfold walkMmList
    rw [pdpList_after, flatMap_cons]
    cases hwalk : walkPdpList ggsn (g.pdpList i) (.after g before) with
    | done r =>
      rw [hwalk] at hinner
      cases hinner with
      | through h => exact .behind h (ih _)
    | usedFree p =>
      rw [hwalk] at hinner
      cases hinner with
      | broken h => exact .within h p

/-- All PDP contexts of the lists of the MM contexts, in the order of the walk. -/
def walkOrder (g : Gmm) : List Nat := g.mms.ids.reverse.flatMap g.pdpList

theorem dropAllPdpWalk_end : WalkEnd g ggsn (walkOrder g) [] (dropAllPdpWalk g ggsn) := walkMmList_end _ []

theorem ofGgsn_iff : ofGgsn g ggsn p = true ↔ ∃ pdp, g.pdps.get? p = some pdp ∧ pdp.ggsn = some ggsn := by
  unfold ofGgsn
  rw [Option.any_eq_true]
  constructor
  · rintro ⟨pdp, hpdp, h⟩
    exact ⟨pdp, hpdp, of_decide_eq_true h⟩
  · rintro ⟨pdp, hpdp, h⟩
    exact ⟨pdp, hpdp, decide_eq_true h⟩

/-- The PDP contexts whose MM context is there are in a list. -/
theorem mem_walkOrder_of_registered (h : StationRegistered g p) : p ∈ walkOrder g := by
  obtain ⟨pdp, ctx, hpdp, hctx, -⟩ := h
  refine mem_flatMap.mpr ⟨pdp.mm, mem_reverse.mpr (Pool.mem_ids.mpr ⟨ctx, hctx⟩), ?_⟩
  exact mem_pdpList.mpr ⟨pdp, hpdp, rfl⟩

/-- No PDP context is in the lists twice. -/
theorem nodup_walkOrder (g : Gmm) : (walkOrder g).Nodup := by
  have hnodup : ∀ {α : Type} (p : Pool α), p.ids.Nodup := fun p => p.sorted.imp Nat.ne_of_lt
  refine nodup_flatMap.mpr ⟨fun i _ => ?_, ?_⟩
  · have hsub : ((g.pdps.entries.reverse.filter fun e => e.2.mm == i).map Prod.fst).Sublist
        (g.pdps.entries.reverse.map Prod.fst) := filter_sublist.map Prod.fst
    refine List.Nodup.sublist hsub ?_
    rw [map_reverse, nodup_reverse]
    exact hnodup g.pdps
  · refine (nodup_reverse.mpr (hnodup g.mms)).imp fun {i j} hij => ?_
    intro p hp hp'
    obtain ⟨pdp, hpdp, rfl⟩ := mem_pdpList.mp hp
    obtain ⟨pdp', hpdp', rfl⟩ := mem_pdpList.mp hp'
    rw [hpdp] at hpdp'
    exact hij (congrArg PdpCtx.mm (Option.some.inj hpdp'))

/-- What the walk leaves if it goes through, and the lists have all PDP contexts with the GGSN. -/
theorem droppedAll_after (hlisted : ∀ p, ofGgsn g ggsn p = true → p ∈ walkOrder g) :
    DroppedAll g ggsn (.after g ((walkOrder g).filter (ofGgsn g ggsn))) where
  nodup := (nodup_walkOrder g).filter _
  each p := by
    rw [← ofGgsn_iff]
    exact ⟨fun h => (mem_filter.mp h).2, fun h => mem_filter.mpr ⟨hlisted p h, h⟩⟩
  num := rfl
  begun p hp := by
    refine .inr ?_
    rw [get?_after]
    have hp : p ∈ (walkOrder g).filter (ofGgsn g ggsn) := hp
    simp only [if_pos hp]
  reqs := by
    have hall : (((walkOrder g).filter (ofGgsn g ggsn)).filter fun p =>
        ((Restart.after g ((walkOrder g).filter (ofGgsn g ggsn))).gmm.pdps.get? p).isSome) =
        (walkOrder g).filter (ofGgsn g ggsn) := by
      refine filter_eq_self.mpr fun p hp => ?_
      obtain ⟨pdp, hpdp, -⟩ := ofGgsn_iff.mp (mem_filter.mp hp).2
      rw [get?_after, hpdp]
      rfl
    exact congrArg (fun ps => ps.flatMap (deactReqs g)) hall.symm
  others p pdp hpdp hggsn := by
    have hp : p ∉ (walkOrder g).filter (ofGgsn g ggsn) := by
      intro hp
      obtain ⟨pdp', hpdp', hggsn'⟩ := ofGgsn_iff.mp (mem_filter.mp hp).2
      rw [hpdp] at hpdp'
      cases hpdp'
      exact hggsn hggsn'
    rw [get?_after, hpdp, Option.map_some, if_neg hp]

end

/-- **The restart of a GGSN is dealt with exactly if every station that has a PDP context with it is registered.** -/
theorem ggsnRestarted_iff (g : Gmm) (ggsn : Nat) :
    GgsnRestarted g ggsn ↔ ∀ p pdp, g.pdps.get? p = some pdp → pdp.ggsn = some ggsn → StationRegistered g p := by
  have hend : WalkEnd g ggsn (walkOrder g) [] (dropAllPdpWalk g ggsn) := dropAllPdpWalk_end
  constructor
  · rintro ⟨r, hdone, hdropped⟩ p pdp hpdp hggsn
    rw [hdone] at hend
    cases hend with
    | through hall =>
      have hmem := (hdropped.each p).mpr ⟨pdp, hpdp, hggsn⟩
      have hmem : p ∈ (walkOrder g).filter (ofGgsn g ggsn) := hmem
      exact hall p (mem_filter.mp hmem).1 (mem_filter.mp hmem).2
  · intro hreg
    have hof : ∀ p, ofGgsn g ggsn p = true → StationRegistered g p := by
      intro p hp
      obtain ⟨pdp, hpdp, hggsn⟩ := ofGgsn_iff.mp hp
      exact hreg p pdp hpdp hggsn
    have hall : AllRegistered g ggsn (walkOrder g) := fun p _ hp => hof p hp
    revert hend
    generalize hwalk : dropAllPdpWalk g ggsn = walk
    intro hend
    cases hend with
    | through _ => exact ⟨_, hwalk, droppedAll_after fun p hp => mem_walkOrder_of_registered (hof p hp)⟩
    | broken hnot _ => exact absurd hall hnot

/-- A station that is suspended, with a PDP context on the GGSN 0. -/
def suspendedGmm : Gmm where
  mms := Pool.empty.alloc { mmState := .registeredSuspended, ra := homeCell, tlli := 0xc0000001 }
  pdps := Pool.empty.alloc { mm := 0, ggsn := some 0, nsapi := 5 }

/-- Its PDP context is freed, and the walk goes on from there. -/
theorem not_ggsnRestarted_suspended : ¬ GgsnRestarted suspendedGmm 0 := by
  rintro ⟨r, hdone, -⟩
  have hwalk : dropAllPdpWalk suspendedGmm 0 = .usedFree 0 := rfl
  rw [hwalk] at hdone
  cases hdone

/-! ## The restart counter -/

/-- `cb_recovery` with the lists as they are walked. -/
def cbRecoveryWalk (g : Gmm) (peer : BitVec 32) (recovery : Nat) : PdpWalk :=
  match g.ggsns.findLast? fun ggsn => ggsn.remoteAddr == peer with
  | none => .done { gmm := g }
  | some (k, ggsn) =>
    let g := { g with ggsns := g.ggsns.modify k fun ggsn => { ggsn with remoteRestartCtr := some recovery } }
    match ggsn.remoteRestartCtr with
    | none => .done { gmm := g }
    | some ctr => if ctr = recovery then .done { gmm := g } else dropAllPdpWalk g k

theorem foldl_dropOnePdp {g : Gmm} (ps before : List Nat) (hreg : ∀ p ∈ ps, StationRegistered g p) :
    ps.foldl (fun r p => ((dropOnePdp r.1 p).1, r.2 ++ (dropOnePdp r.1 p).2))
        ((Restart.after g before).gmm, (Restart.after g before).reqs) =
      ((Restart.after g (before ++ ps)).gmm, (Restart.after g (before ++ ps)).reqs) := by
  induction ps generalizing before with
  | nil => rw [append_nil, foldl_nil]
  | cons p ps ih =>
    have hround : ((dropOnePdp (Restart.after g before).gmm p).1,
        (Restart.after g before).reqs ++ (dropOnePdp (Restart.after g before).gmm p).2) =
        ((Restart.after g (before ++ [p])).gmm, (Restart.after g (before ++ [p])).reqs) := by
      rw [← drop_after (hreg p mem_cons_self)]
      rfl
    rw [foldl_cons, hround, ih _ fun q hq => hreg q (mem_cons_of_mem p hq), append_assoc]
    rfl

/-- **Where the walk goes through, the walk over the lists as they were at first does the same.** -/
theorem dropAllPdpForGgsn_of_walk {g : Gmm} {ggsn : Nat} {r : Restart} (h : dropAllPdpWalk g ggsn = .done r) :
    dropAllPdpForGgsn g ggsn = (r.gmm, r.reqs) := by
  have hend : WalkEnd g ggsn (walkOrder g) [] (dropAllPdpWalk g ggsn) := dropAllPdpWalk_end
  rw [h] at hend
  cases hend with
  | through hall =>
    have hlist : (g.mms.ids.reverse.flatMap fun i => (g.pdpList i).filter fun p =>
        (g.pdps.get? p).any fun pdp => pdp.ggsn = some ggsn) = (walkOrder g).filter (ofGgsn g ggsn) :=
      filter_flatMap.symm
    unfold dropAllPdpForGgsn
    rw [hlist]
    exact foldl_dropOnePdp _ [] fun p hp => hall p (mem_filter.mp hp).1 (mem_filter.mp hp).2

/-- **And so does `cb_recovery`**, whose counter the walk leaves alone. -/
theorem cbRecovery_of_walk {g : Gmm} {peer : BitVec 32} {recovery : Nat} {r : Restart}
    (h : cbRecoveryWalk g peer recovery = .done r) : cbRecovery g peer recovery = (r.gmm, r.reqs) := by
  unfold cbRecoveryWalk at h
  unfold cbRecovery
  cases hfound : g.ggsns.findLast? fun ggsn => ggsn.remoteAddr == peer with
  | none =>
    rw [hfound] at h
    cases h
    rfl
  | some found =>
    obtain ⟨k, ggsn⟩ := found
    rw [hfound] at h
    dsimp only at h ⊢
    cases hctr : ggsn.remoteRestartCtr with
    | none =>
      rw [hctr] at h
      cases h
      rfl
    | some ctr =>
      rw [hctr] at h
      dsimp only at h ⊢
      split
      case isTrue hsame =>
        rw [if_pos hsame] at h
        cases h
        rfl
      case isFalse hchanged =>
        rw [if_neg hchanged] at h
        exact dropAllPdpForGgsn_of_walk h

/-- Two stations: the first has two PDP contexts on the GGSN 0 and one on the GGSN 1, the second one on the GGSN 0. -/
def restartedGmm : Gmm where
  mms := (Pool.empty.alloc { mmState := .registeredNormal, ra := homeCell, tlli := 0xc0000001, llme := some 0 }).alloc
    { mmState := .registeredNormal, ra := homeCell, tlli := 0xc0000002, llme := some 1 }
  pdps := (((Pool.empty.alloc { mm := 0, ggsn := some 0, nsapi := 5, ti := 1 }).alloc
    { mm := 0, ggsn := some 1, nsapi := 6, ti := 2 }).alloc { mm := 0, ggsn := some 0, nsapi := 7, ti := 3 }).alloc
    { mm := 1, ggsn := some 0, nsapi := 5, ti := 1 }
  ggsns := (Pool.empty.alloc { id := 0, remoteAddr := 1, remoteRestartCtr := some 7 }).alloc
    { id := 1, remoteAddr := 2, remoteRestartCtr := some 7 }

/-- The GGSN 0 has restarted. -/
theorem cbRecovery_of_walk_restarted :
    ∃ r, cbRecoveryWalk restartedGmm 1 8 = .done r ∧ r.num = 3 ∧ r.reqs.length = 3 ∧
      cbRecovery restartedGmm 1 8 = (r.gmm, r.reqs) :=
  ⟨_, rfl, rfl, rfl, cbRecovery_of_walk rfl⟩

end OpenBsc.Sgsn
