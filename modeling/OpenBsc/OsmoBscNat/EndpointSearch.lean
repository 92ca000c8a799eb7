import Mathlib.Data.List.Chain
import Mathlib.Data.List.Infix
import OpenBsc.Lib.Rotation
import OpenBsc.OsmoBscNat.Endpoints

/-!
# `OsmoBscNat.EndpointSearch` — how an endpoint is found (`bsc_mgcp_utils.c`)

`bsc_assign_endpoint` begins behind the endpoint it assigned last and goes round the timeslots 1 to 30 of all
multiplexes. It does as many rounds of its loop as the BSC has endpoints, the reserved timeslots counted. So it meets
every endpoint that it may assign before it gives up, and some of them again.
-/

namespace OpenBsc.OsmoBscNat

open List

/-! ## Eligible endpoints -/

/-- An endpoint below the bound whose timeslot is not reserved. -/
def Eligible (maxEndpoints e : Nat) : Prop := e < maxEndpoints ∧ e % 32 ≠ 0 ∧ e % 32 ≠ 31

instance (maxEndpoints e : Nat) : Decidable (Eligible maxEndpoints e) :=
  inferInstanceAs (Decidable (_ ∧ _))

/-- How many endpoints below the bound are eligible. -/
def eligibleCount (maxEndpoints : Nat) : Nat := 30 * (maxEndpoints / 32) + min 30 (maxEndpoints % 32 - 1)

/-- How many eligible endpoints are below an eligible one. -/
def eligibleRank (e : Nat) : Nat := 30 * (e / 32) + (e % 32 - 1)

/-- The next eligible endpoint: the lowest one above, or the lowest of all if there is none above. -/
def Follows (maxEndpoints e e' : Nat) : Prop :=
  Eligible maxEndpoints e' ∧
    (e < e' ∧ (∀ d, Eligible maxEndpoints d → e < d → e' ≤ d) ∨
      (∀ d, Eligible maxEndpoints d → d ≤ e) ∧ ∀ d, Eligible maxEndpoints d → e' ≤ d)

/-- The endpoint that the loop of `bsc_assign_endpoint` looks at after the endpoint `e`. -/
def nextEndpoint (bsc : BscConnection) (e : Nat) : Nat :=
  let slot := nextSlot bsc (e / 32, e % 32 + 1)
  mgcpTimeslotToEndpoint slot.1 slot.2

/-- `bsc_init_endps_if_needed` has been called, and these are the entries of `_endpoint_status`. -/
structure Initialised (bsc : BscConnection) (status : List Bool) : Prop where
  multiplexes : bsc.numberMultiplexes = bscMgcpNrMultiplexes bsc.maxEndpoints
  allocated : bsc.endpointStatus = some status
  length : status.length = 32 * bsc.numberMultiplexes + 1

variable {bsc : BscConnection} {status : List Bool} {e : Nat}

/-- The slot looked at next is that of the next endpoint, in a timeslot that is not reserved. -/
theorem nextSlot_eq (he : e % 32 ≠ 31) :
    nextSlot bsc (e / 32, e % 32 + 1) = (nextEndpoint bsc e / 32, nextEndpoint bsc e % 32) ∧
      nextEndpoint bsc e % 32 ≠ 0 ∧ nextEndpoint bsc e % 32 ≠ 31 := by
  have hslot : ∀ slot : Nat × Nat, 1 ≤ slot.2 → slot.2 ≤ 30 → slot =
      (mgcpTimeslotToEndpoint slot.1 slot.2 / 32, mgcpTimeslotToEndpoint slot.1 slot.2 % 32) ∧
      mgcpTimeslotToEndpoint slot.1 slot.2 % 32 ≠ 0 ∧ mgcpTimeslotToEndpoint slot.1 slot.2 % 32 ≠ 31 := by
    intro slot hlow hhigh
    unfold mgcpTimeslotToEndpoint
    rw [if_neg (by omega)]
    exact ⟨Prod.ext (by dsimp only; omega) (by dsimp only; omega), by omega, by omega⟩
  refine hslot _ ?_ ?_
  all_goals
    unfold nextSlot
    dsimp only
    split_ifs <;> dsimp only <;> omega

/-- The next endpoint is the one above, over the reserved timeslots, or endpoint 1. -/
theorem nextEndpoint_cases (hinit : bsc.numberMultiplexes = bscMgcpNrMultiplexes bsc.maxEndpoints)
    (hlt : e < bsc.maxEndpoints) :
    nextEndpoint bsc e = (if e % 32 = 30 then e + 3 else e + 1) ∧ nextEndpoint bsc e < bsc.maxEndpoints ∨
      nextEndpoint bsc e = 1 ∧ bsc.maxEndpoints ≤ if e % 32 = 30 then e + 3 else e + 1 := by
  unfold bscMgcpNrMultiplexes at hinit
  unfold nextEndpoint nextSlot mgcpTimeslotToEndpoint
  dsimp only
  split_ifs at hinit ⊢ <;> dsimp only at * <;> omega

/-- Whatever endpoint the search begins behind, the first one it looks at is eligible. -/
theorem eligible_nextEndpoint (he : e % 32 ≠ 31) (hmax : 2 ≤ bsc.maxEndpoints) :
    Eligible bsc.maxEndpoints (nextEndpoint bsc e) := by
  obtain ⟨-, hlow, hhigh⟩ : _ ∧ nextEndpoint bsc e % 32 ≠ 0 ∧ nextEndpoint bsc e % 32 ≠ 31 := nextSlot_eq he
  refine ⟨?_, hlow, hhigh⟩
  unfold nextEndpoint nextSlot mgcpTimeslotToEndpoint
  dsimp only
  split_ifs <;> dsimp only at * <;> omega

section

variable (hinit : bsc.numberMultiplexes = bscMgcpNrMultiplexes bsc.maxEndpoints) (hmax : 2 ≤ bsc.maxEndpoints)

include hinit hmax

theorem follows_nextEndpoint (he : e % 32 ≠ 31) (hlt : e < bsc.maxEndpoints) :
    Follows bsc.maxEndpoints e (nextEndpoint bsc e) := by
  refine ⟨eligible_nextEndpoint he hmax, ?_⟩
  unfold Eligible
  rcases nextEndpoint_cases hinit hlt with ⟨heq, -⟩ | ⟨heq, hend⟩
  · rw [heq]
    refine .inl ⟨by split <;> omega, fun d hd hed => ?_⟩
    split <;> omega
  · rw [heq]
    refine .inr ⟨fun d hd => ?_, fun d hd => by omega⟩
    split at hend <;> omega

/-- **The loop goes round the eligible endpoints.** -/
theorem isRotation_nextEndpoint :
    IsRotation (Eligible bsc.maxEndpoints) eligibleRank (eligibleCount bsc.maxEndpoints) (nextEndpoint bsc) := by
  have hlt : ∀ d, Eligible bsc.maxEndpoints d → eligibleRank d < eligibleCount bsc.maxEndpoints := by
    rintro d ⟨hd, hlow, hhigh⟩
    unfold eligibleRank eligibleCount
    omega
  refine ⟨fun d hd => eligible_nextEndpoint hd.2.2 hmax, hlt, ?_, ?_⟩
  · rintro d ⟨hd, hlow, hhigh⟩
    have helig : Eligible bsc.maxEndpoints (nextEndpoint bsc d) := eligible_nextEndpoint hhigh hmax
    rcases nextEndpoint_cases hinit hd with ⟨heq, hnext⟩ | ⟨heq, hend⟩
    · have hrank : eligibleRank (nextEndpoint bsc d) = eligibleRank d + 1 := by
        rw [heq]
        unfold eligibleRank
        split <;> omega
      rw [← hrank, Nat.mod_eq_of_lt (hlt _ helig)]
    · -- behind the last one comes the first
      have hlast : eligibleRank d + 1 = eligibleCount bsc.maxEndpoints := by
        unfold eligibleRank eligibleCount
        split at hend <;> omega
      rw [hlast, Nat.mod_self, heq]
      rfl
  · rintro d d' ⟨-, hlow, hhigh⟩ ⟨-, hlow', hhigh'⟩ heq
    unfold eligibleRank at heq
    omega

end

theorem eligibleCount_le (maxEndpoints : Nat) : eligibleCount maxEndpoints ≤ maxEndpoints := by
  unfold eligibleCount
  omega

/-! ## The loop -/

/-- The endpoints whose status the loop of `bsc_assign_endpoint` looks at, in so many rounds at most. -/
def visitedFrom (bsc : BscConnection) : (times : Nat) → (slot : Nat × Nat) → List Nat
  | 0, _ => []
  | times + 1, slot =>
    let slot := nextSlot bsc slot
    let endpoint := mgcpTimeslotToEndpoint slot.1 slot.2
    if bsc.endpointStatus.any (·[endpoint]? = some false) then [endpoint]
    else endpoint :: visitedFrom bsc times (slot.1, slot.2 + 1)

/-- The endpoints that `bsc_assign_endpoint` visits. -/
def visited (bsc : BscConnection) : List Nat :=
  visitedFrom bsc bsc.maxEndpoints (bsc.lastEndpoint / 32, bsc.lastEndpoint % 32 + 1)

section

variable (he : e % 32 ≠ 31)

include he

theorem findEndpoint_succ (times : Nat) :
    findEndpoint bsc (times + 1) (e / 32, e % 32 + 1) =
      if bsc.endpointStatus.any (·[nextEndpoint bsc e]? = some false) then some (nextEndpoint bsc e)
      else findEndpoint bsc times (nextEndpoint bsc e / 32, nextEndpoint bsc e % 32 + 1) := by
  show (if bsc.endpointStatus.any (·[nextEndpoint bsc e]? = some false) then some (nextEndpoint bsc e)
    else findEndpoint bsc times ((nextSlot bsc (e / 32, e % 32 + 1)).1, (nextSlot bsc (e / 32, e % 32 + 1)).2 + 1)) = _
  rw [(nextSlot_eq he).1]

theorem visitedFrom_succ (times : Nat) :
    visitedFrom bsc (times + 1) (e / 32, e % 32 + 1) =
      if bsc.endpointStatus.any (·[nextEndpoint bsc e]? = some false) then [nextEndpoint bsc e]
      else nextEndpoint bsc e :: visitedFrom bsc times (nextEndpoint bsc e / 32, nextEndpoint bsc e % 32 + 1) := by
  show (if bsc.endpointStatus.any (·[nextEndpoint bsc e]? = some false) then [nextEndpoint bsc e]
    else nextEndpoint bsc e ::
      visitedFrom bsc times ((nextSlot bsc (e / 32, e % 32 + 1)).1, (nextSlot bsc (e / 32, e % 32 + 1)).2 + 1)) = _
  rw [(nextSlot_eq he).1]

theorem findEndpoint_eq (times : Nat) :
    findEndpoint bsc times (e / 32, e % 32 + 1) =
      (iterate (nextEndpoint bsc) (nextEndpoint bsc e) times).find?
        fun d => bsc.endpointStatus.any (·[d]? = some false) := by
  induction times generalizing e with
  | zero => rfl
  | succ times ih =>
    rw [findEndpoint_succ he, iterate, find?_cons, ← ih (nextSlot_eq he).2.2]
    cases bsc.endpointStatus.any (·[nextEndpoint bsc e]? = some false) with
    | true => rfl
    | false => rfl

theorem visitedFrom_prefix (times : Nat) :
    visitedFrom bsc times (e / 32, e % 32 + 1) <+: iterate (nextEndpoint bsc) (nextEndpoint bsc e) times := by
  induction times generalizing e with
  | zero => exact prefix_refl _
  | succ times ih =>
    rw [visitedFrom_succ he, iterate]
    split
    · exact ⟨_, rfl⟩
    · exact prefix_cons_inj _ |>.mpr (ih (nextSlot_eq he).2.2)

theorem visitedFrom_eq {times : Nat} (h : findEndpoint bsc times (e / 32, e % 32 + 1) = none) :
    visitedFrom bsc times (e / 32, e % 32 + 1) = iterate (nextEndpoint bsc) (nextEndpoint bsc e) times := by
  induction times generalizing e with
  | zero => rfl
  | succ times ih =>
    rw [findEndpoint_succ he] at h
    rw [visitedFrom_succ he, iterate]
    split at h
    · cases h
    · rename_i hbusy
      rw [if_neg hbusy, ih (nextSlot_eq he).2.2 h]

end

/-! ## The search -/

/-- `bsc_assign_endpoint`, with the connection that the endpoint is recorded in. -/
def bscAssignEndpointTo (bsc : BscConnection) (con : SccpConnections) : Option (BscConnection × SccpConnections) :=
  (bscAssignEndpoint bsc).map fun (endpoint, bsc) => (bsc, { con with bscEndp := some endpoint })

/-- **An eligible endpoint is assigned if there is a free one**: one is marked and recorded, and all else stays as it
    was. -/
structure Assigns (bsc : BscConnection) (status : List Bool) (con : SccpConnections) : Prop where
  succeeds : (bscAssignEndpointTo bsc con).isSome = true ↔ ∃ e, Eligible bsc.maxEndpoints e ∧ status[e]? = some false
  marks : ∀ bsc' con', bscAssignEndpointTo bsc con = some (bsc', con') →
    ∃ e, Eligible bsc.maxEndpoints e ∧ status[e]? = some false ∧
      bsc' = { bsc with endpointStatus := some (status.set e true), lastEndpoint := e } ∧
      con' = { con with bscEndp := some e }

/-- **The search goes round the eligible endpoints**, in their order and beginning behind the one assigned last. It
    visits each of them before it gives up, and none twice before it has visited all. -/
structure GoesRound (bsc : BscConnection) : Prop where
  eligible : ∀ e ∈ visited bsc, Eligible bsc.maxEndpoints e
  order : bsc.lastEndpoint < bsc.maxEndpoints →
    (bsc.lastEndpoint :: visited bsc).IsChain (Follows bsc.maxEndpoints)
  meets : bscAssignEndpoint bsc = none → ∀ e, Eligible bsc.maxEndpoints e → e ∈ visited bsc
  round : ((visited bsc).take (eligibleCount bsc.maxEndpoints)).Nodup

/-- The search visits every eligible endpoint exactly once before it gives up. -/
def VisitsOnce (bsc : BscConnection) : Prop :=
  bscAssignEndpoint bsc = none → ∀ e, Eligible bsc.maxEndpoints e → (visited bsc).count e = 1

theorem isChain_iterate (hinit : bsc.numberMultiplexes = bscMgcpNrMultiplexes bsc.maxEndpoints)
    (hmax : 2 ≤ bsc.maxEndpoints) (he : e % 32 ≠ 31) (hlt : e < bsc.maxEndpoints) (times : Nat) :
    (e :: iterate (nextEndpoint bsc) (nextEndpoint bsc e) times).IsChain (Follows bsc.maxEndpoints) := by
  induction times generalizing e with
  | zero => exact .singleton _
  | succ times ih =>
    have helig : Eligible bsc.maxEndpoints (nextEndpoint bsc e) := eligible_nextEndpoint he hmax
    exact .cons_cons (follows_nextEndpoint hinit hmax he hlt) (ih helig.2.2 helig.1)

theorem bscAssignEndpoint_eq_none (h : bscAssignEndpoint bsc = none) :
    findEndpoint bsc bsc.maxEndpoints (bsc.lastEndpoint / 32, bsc.lastEndpoint % 32 + 1) = none := by
  unfold bscAssignEndpoint at h
  split at h
  · assumption
  · cases h

section

variable (hinit : Initialised bsc status)

include hinit

theorem goesRound (hmax : bsc.maxEndpoints ≠ 1) (hlast : bsc.lastEndpoint % 32 ≠ 31) :
    GoesRound bsc := by
  rcases Nat.lt_or_ge bsc.maxEndpoints 2 with hlow | hmax
  · -- without endpoints nothing is visited
    have hzero : bsc.maxEndpoints = 0 := by omega
    have hnone : visited bsc = [] := by
      unfold visited
      rw [hzero]
      rfl
    refine ⟨?_, fun h => by omega, fun _ e he => absurd he.1 (by omega), ?_⟩
    · rw [hnone]
      exact fun e he => absurd he not_mem_nil
    · rw [hnone]
      simp
  · have hround := isRotation_nextEndpoint hinit.multiplexes hmax
    have hfirst : Eligible bsc.maxEndpoints (nextEndpoint bsc bsc.lastEndpoint) := eligible_nextEndpoint hlast hmax
    have hfront : visited bsc <+:
        iterate (nextEndpoint bsc) (nextEndpoint bsc bsc.lastEndpoint) bsc.maxEndpoints :=
      visitedFrom_prefix hlast bsc.maxEndpoints
    refine ⟨?_, fun hlt => ?_, fun h e he => ?_, ?_⟩
    · intro e he
      obtain ⟨k, -, rfl⟩ := mem_iterate.mp (hfront.subset he)
      exact hround.mem_iterate hfirst k
    · obtain ⟨behind, hbehind⟩ := hfront
      have hchain := isChain_iterate hinit.multiplexes hmax hlast hlt bsc.maxEndpoints
      rw [← hbehind, ← cons_append] at hchain
      exact hchain.left_of_append
    · unfold visited
      rw [visitedFrom_eq hlast (bscAssignEndpoint_eq_none h)]
      exact hround.meets hfirst he (eligibleCount_le _)
    · have htake := hfront.take (eligibleCount bsc.maxEndpoints)
      rw [take_iterate] at htake
      exact (hround.nodup_iterate hfirst (Nat.min_le_left _ _)).sublist htake.sublist

theorem any_status (d : Nat) :
    bsc.endpointStatus.any (·[d]? = some false) = true ↔ status[d]? = some false := by
  rw [hinit.allocated, Option.any_some, decide_eq_true_iff]

/-- What is found is eligible, and free; and something is found if there is something to find. -/
theorem findEndpoint_spec (hmax : bsc.maxEndpoints ≠ 1)
    (hlast : bsc.lastEndpoint % 32 ≠ 31) :
    (∀ e, findEndpoint bsc bsc.maxEndpoints (bsc.lastEndpoint / 32, bsc.lastEndpoint % 32 + 1) = some e →
      Eligible bsc.maxEndpoints e ∧ status[e]? = some false) ∧
    (findEndpoint bsc bsc.maxEndpoints (bsc.lastEndpoint / 32, bsc.lastEndpoint % 32 + 1) = none →
      ∀ e, Eligible bsc.maxEndpoints e → status[e]? ≠ some false) := by
  rw [findEndpoint_eq hlast]
  rcases Nat.lt_or_ge bsc.maxEndpoints 2 with hlow | hmax
  · have hzero : bsc.maxEndpoints = 0 := by omega
    refine ⟨fun e h => ?_, fun _ e he => absurd he.1 (by omega)⟩
    rw [hzero] at h
    cases h
  · have hround := isRotation_nextEndpoint hinit.multiplexes hmax
    have hfirst : Eligible bsc.maxEndpoints (nextEndpoint bsc bsc.lastEndpoint) := eligible_nextEndpoint hlast hmax
    constructor
    · intro e h
      obtain ⟨k, -, rfl⟩ := mem_iterate.mp (mem_of_find?_eq_some h)
      have hfree := find?_some h
      exact ⟨hround.mem_iterate hfirst k, (any_status hinit _).mp hfree⟩
    · intro h e he hfree
      have hmeets := hround.meets hfirst he (eligibleCount_le bsc.maxEndpoints)
      exact find?_eq_none.mp h e hmeets ((any_status hinit e).mpr hfree)

theorem assigns_of_initialised (hmax : bsc.maxEndpoints ≠ 1)
    (hlast : bsc.lastEndpoint % 32 ≠ 31) (con : SccpConnections) : Assigns bsc status con := by
  obtain ⟨hfound, hnone⟩ := findEndpoint_spec hinit hmax hlast
  cases hfind : findEndpoint bsc bsc.maxEndpoints (bsc.lastEndpoint / 32, bsc.lastEndpoint % 32 + 1) with
  | none =>
    have hassign : bscAssignEndpointTo bsc con = none := by
      unfold bscAssignEndpointTo bscAssignEndpoint
      rw [hfind]
      rfl
    refine ⟨?_, fun bsc' con' h => ?_⟩
    · rw [hassign]
      constructor
      · intro h
        cases h
      · rintro ⟨e, he, hfree⟩
        exact absurd hfree (hnone hfind e he)
    · rw [hassign] at h
      cases h
  | some e =>
    obtain ⟨he, hfree⟩ := hfound e hfind
    have hassign : bscAssignEndpointTo bsc con =
        some ({ bsc with endpointStatus := some (status.set e true), lastEndpoint := e },
          { con with bscEndp := some e }) := by
      unfold bscAssignEndpointTo bscAssignEndpoint
      rw [hfind, hinit.allocated]
      rfl
    refine ⟨?_, fun bsc' con' h => ?_⟩
    · rw [hassign]
      exact ⟨fun _ => ⟨e, he, hfree⟩, fun _ => rfl⟩
    · rw [hassign] at h
      cases h
      exact ⟨e, he, hfree, rfl, rfl⟩

end

/-- **The search for an endpoint.** Whatever the configuration and whichever endpoints are in use, an endpoint is
    assigned if and only if an eligible one is free, and the search goes round all of them. Left out are a BSC with the
    bound 1, and an operator who sets the last endpoint to a timeslot 31. -/
theorem endpoint_search (bsc : BscConnection) (status : List Bool) (con : SccpConnections)
    (hinit : Initialised bsc status) (hmax : bsc.maxEndpoints ≠ 1) (hlast : bsc.lastEndpoint % 32 ≠ 31) :
    Assigns bsc status con ∧ GoesRound bsc :=
  ⟨assigns_of_initialised hinit hmax hlast con, goesRound hinit hmax hlast⟩

/-- A BSC with 32 endpoints, all in use but some. -/
def searchedBsc (free : List Nat) : BscConnection :=
  { numberMultiplexes := 1
    maxEndpoints := 32
    endpointStatus := some ((List.range 33).map fun e => !free.contains e) }

theorem initialised_searchedBsc (free : List Nat) :
    Initialised (searchedBsc free) ((range 33).map fun e => !free.contains e) := by
  refine ⟨?_, rfl, by simp [searchedBsc]⟩
  show 1 = bscMgcpNrMultiplexes 32
  decide

/-- Endpoint 30 is the only free one. -/
theorem endpoint_search_last :
    Assigns (searchedBsc [30]) ((range 33).map fun e => !([30] : List Nat).contains e) { bsc := 0 } ∧
      GoesRound (searchedBsc [30]) :=
  endpoint_search _ _ _ (initialised_searchedBsc [30]) (by decide) (by decide)

/-- **Some endpoints are visited twice**: where all 30 are in use, the loop still does 32 rounds. -/
theorem not_visitsOnce_full : ¬ ∀ (bsc : BscConnection) (status : List Bool) (con : SccpConnections),
    Initialised bsc status → Assigns bsc status con ∧ VisitsOnce bsc := by
  intro h
  have honce := (h _ _ { bsc := 0 } (initialised_searchedBsc [])).2
  have htwice := honce (by decide) 1 (by decide)
  revert htwice
  decide

/-- A bound of 1 leaves no endpoint to assign, and endpoint 1 is assigned. -/
example : (bscAssignEndpoint { numberMultiplexes := 1, maxEndpoints := 1, endpointStatus := some [false, false] }).map
    (·.1) = some 1 := by decide

end OpenBsc.OsmoBscNat
