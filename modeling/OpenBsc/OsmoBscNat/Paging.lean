import OpenBsc.OsmoBscNat.Gates

/-!
# `OsmoBscNat.Paging` — paging commands and the BSCs they go to

A paging command of the MSC is not sent to every BSC. For each location area in its list of cells, it goes to
each authenticated BSC that handles this location area, by its own list or by its paging group, unless paging is
forbidden for the BSC (`count_written`).
-/

namespace OpenBsc.OsmoBscNat

open Transition BscNat SccpMsg List

/-! ## Lists of cells -/

/-- The location areas of a list of cells, each in two octets. -/
def encodeLacs (lacs : List (BitVec 16)) : List Octet :=
  lacs.flatMap fun lac => [UInt8.ofNat (lac.toNat / 256), UInt8.ofNat lac.toNat]

/-- The cell identifier list of a paging command. -/
def cellIdentifierList (lib : Osmocore) (l3 : List Octet) : Option (List Octet) :=
  (lib.tlvParse (l3.drop 3) 0x1a).map fun (offset, length) => (l3.drop (3 + offset)).take length

/-- The location area code at the `k`-th place of a list of cells. -/
def lacAt (paging : List Octet) (k : Nat) : Nat := octetAt paging (2 * k) * 256 + octetAt paging (2 * k + 1)

theorem length_encodeLacs (lacs : List (BitVec 16)) : (encodeLacs lacs).length = 2 * lacs.length := by
  induction lacs with
  | nil => rfl
  | cons lac lacs ih =>
    show (encodeLacs lacs).length + 2 = 2 * (lacs.length + 1)
    omega

theorem lacAt_encodeLacs_zero (lac : BitVec 16) (lacs : List (BitVec 16)) :
    lacAt (encodeLacs (lac :: lacs)) 0 = lac.toNat := by
  have hlt := lac.isLt
  show (UInt8.ofNat (lac.toNat / 256)).toNat * 256 + (UInt8.ofNat lac.toNat).toNat = _
  rw [UInt8.toNat_ofNat', UInt8.toNat_ofNat']
  omega

/-- What is done for each place of a list is done for each location area in it. -/
theorem flatMap_lacAt {α : Type*} (f : Nat → List α) (lacs : List (BitVec 16)) :
    (range (((encodeLacs lacs).length + 1) / 2)).flatMap (fun k => f (lacAt (encodeLacs lacs) k)) =
      lacs.flatMap fun lac => f lac.toNat := by
  have hhalf : ((encodeLacs lacs).length + 1) / 2 = lacs.length := by
    rw [length_encodeLacs]
    omega
  rw [hhalf]
  clear hhalf
  induction lacs with
  | nil => rfl
  | cons lac lacs ih =>
    rw [length_cons, range_succ_eq_map, flatMap_cons, flatMap_cons, lacAt_encodeLacs_zero, ← ih, flatMap_map]
    rfl

variable (lib : Osmocore) (nat : BscNat) (outs : List NatOut)

theorem bscNatFindPaging_eq (l3 : List Octet) :
    bscNatFindPaging lib l3 = (cellIdentifierList lib l3).bind fun data =>
      if octetAt data 0 = 5 then some (data.drop 1) else none := by
  unfold bscNatFindPaging cellIdentifierList
  cases lib.tlvParse (l3.drop 3) 0x1a with
  | none => rfl
  | some found => rfl

/-! ## Copies -/

/-- The BSC is paged for a location area: it is authenticated and handles it, and paging is not forbidden. -/
def BscConnection.pagedFor (bsc : BscConnection) (lac : Nat) : Bool :=
  bsc.cfg.any fun cfg => bsc.authenticated && BscNat.bscConfigHandlesLac cfg lac && !cfg.forbidPaging

/-- What `bsc_nat_handle_paging` sends for one location area. -/
def BscNat.pageLac (nat : BscNat) (msg : SccpMsg) (lac : Nat) : List NatOut :=
  nat.bscConnections.entries.reverse.filterMap fun e => if e.2.pagedFor lac then some (.toBsc e.1 msg) else none

theorem bscNatHandlePaging_encodeLacs (msg : SccpMsg) (lacs : List (BitVec 16)) :
    nat.bscNatHandlePaging msg (encodeLacs lacs) = lacs.flatMap fun lac => nat.pageLac msg lac.toNat := by
  rw [← flatMap_lacAt fun lac => nat.pageLac msg lac]
  unfold bscNatHandlePaging pageLac BscConnection.pagedFor
  refine flatMap_congr fun k _ => filterMap_congr fun e _ => ?_
  obtain ⟨b, bsc⟩ := e
  simp only
  cases bsc.cfg with
  | none => rfl
  | some cfg => rfl

/-- For one location area a BSC gets one copy at most. -/
theorem count_pageLac (msg : SccpMsg) (lac b : Nat) :
    (nat.pageLac msg lac).count (.toBsc b msg) =
      if (nat.bscConnections.get? b).any (·.pagedFor lac) then 1 else 0 := by
  unfold pageLac
  rw [count_filterMap, countP_reverse, ← Pool.countP_entries]
  refine countP_congr fun e _ => ?_
  by_cases hpaged : e.2.pagedFor lac = true
  · simp [hpaged]
  · simp [hpaged]

/-- **A BSC gets one copy for each place of the list that it is paged for.** -/
theorem count_paged (msg : SccpMsg) (lacs : List (BitVec 16)) (b : Nat) :
    (nat.bscNatHandlePaging msg (encodeLacs lacs)).count (.toBsc b msg) =
      lacs.countP fun lac => (nat.bscConnections.get? b).any (·.pagedFor lac.toNat) := by
  rw [bscNatHandlePaging_encodeLacs]
  induction lacs with
  | nil => rfl
  | cons lac lacs ih =>
    rw [flatMap_cons, count_append, ih, count_pageLac, countP_cons]
    omega

variable {msg : SccpMsg} {lacs : List (BitVec 16)}

/-- Nothing but copies is sent. -/
theorem mem_paged {nat : BscNat} {out : NatOut} (h : out ∈ nat.bscNatHandlePaging msg (encodeLacs lacs)) :
    ∃ b, out = .toBsc b msg := by
  rw [bscNatHandlePaging_encodeLacs] at h
  obtain ⟨lac, -, hlac⟩ := mem_flatMap.mp h
  obtain ⟨e, -, he⟩ := mem_filterMap.mp hlac
  split at he
  · exact ⟨e.1, (Option.some.inj he).symm⟩
  · cases he

/-! ## Steps -/

/-- A PAGING COMMAND. -/
def IsPaging (msg : SccpMsg) : Prop :=
  (∃ ssn data, msg = .udt ssn data ∧ 3 ≤ data.length) ∧ msg.gsmType = some 0x52

/-- The BSC handles the location area, and paging is not forbidden for it. -/
def Paged (nat : BscNat) (b : Nat) (lac : BitVec 16) : Prop :=
  ∃ bsc cfg, nat.bscConnections.get? b = some bsc ∧ bsc.cfg = some cfg ∧ bsc.authenticated = true ∧
    cfg.forbidPaging = false ∧ BscNat.bscConfigHandlesLac cfg lac.toNat = true

theorem any_pagedFor_iff {nat : BscNat} {b : Nat} {lac : BitVec 16} :
    (nat.bscConnections.get? b).any (·.pagedFor lac.toNat) = true ↔ Paged nat b lac := by
  constructor
  · intro h
    obtain ⟨bsc, hget, hpaged⟩ := (Option.any_eq_true _ _).mp h
    obtain ⟨cfg, hcfg, hall⟩ := (Option.any_eq_true _ _).mp hpaged
    simp only [Bool.and_eq_true, Bool.not_eq_true'] at hall
    exact ⟨bsc, cfg, hget, hcfg, hall.1.1, hall.2, hall.1.2⟩
  · rintro ⟨bsc, cfg, hget, hcfg, hauth, hforbid, hhandles⟩
    simp [hget, BscConnection.pagedFor, hcfg, hauth, hforbid, hhandles]

instance (nat : BscNat) (b : Nat) (lac : BitVec 16) : Decidable (Paged nat b lac) :=
  decidable_of_iff _ any_pagedFor_iff

/-- **What becomes of a paging command with a list of location areas.** It goes to the BSCs that are paged for one of
    them, once if for one place of the list, and nothing else is sent. -/
structure PagingFanOut (nat nat' : BscNat) (msg : SccpMsg) (lacs : List (BitVec 16)) : Prop where
  received : ∀ b, .toBsc b msg ∈ written nat nat' ↔ ∃ lac ∈ lacs, Paged nat b lac
  once : ∀ b, lacs.countP (fun lac => decide (Paged nat b lac)) = 1 → (written nat nat').count (.toBsc b msg) = 1
  only : ∀ out ∈ written nat nat', ∃ b, out = .toBsc b msg

theorem sendAll_outbox : (nat.sendAll outs).outbox = nat.outbox ++ outs := by
  unfold sendAll
  induction outs generalizing nat with
  | nil => exact (append_nil _).symm
  | cons out outs ih =>
    rw [foldl_cons, ih]
    show nat.outbox ++ [out] ++ outs = _
    rw [append_assoc]
    rfl

theorem written_sendAll : written nat (nat.sendAll outs) = outs := by
  unfold written
  rw [sendAll_outbox, drop_left]

theorem natStep_paging (h : IsPaging msg) :
    natStep lib nat (.fromMsc msg) = ((bscNatFindPaging lib (msg.l3.getD [])).map fun paging =>
      nat.sendAll (nat.bscNatHandlePaging msg paging)).getD nat := by
  obtain ⟨⟨ssn, data, rfl, hlength⟩, htype⟩ := h
  have hparses : (udt ssn data).parses = true := by simpa [parses, l3] using hlength
  have hfilter : bscNatFilterIpa .bsc (.udt ssn data) = false := by
    simp [bscNatFilterIpa, htype]
  show nat.forwardSccpToBts lib (.udt ssn data) = _
  unfold forwardSccpToBts sendToAll
  simp only [hparses, hfilter, htype, Bool.not_true, Bool.false_eq_true, if_false, if_true]
  cases bscNatFindPaging lib ((udt ssn data).l3.getD []) <;> rfl

section

variable (h : IsPaging msg) (hlist : cellIdentifierList lib (msg.l3.getD []) = some (5 :: encodeLacs lacs))

include h hlist

theorem written_paging :
    written nat (natStep lib nat (.fromMsc msg)) = nat.bscNatHandlePaging msg (encodeLacs lacs) := by
  rw [natStep_paging lib nat h, bscNatFindPaging_eq, hlist]
  exact written_sendAll nat _

/-- **How many copies a BSC gets.** -/
theorem count_written (b : Nat) :
    (written nat (natStep lib nat (.fromMsc msg))).count (.toBsc b msg) =
      lacs.countP fun lac => decide (Paged nat b lac) := by
  rw [written_paging lib nat h hlist, count_paged]
  refine countP_congr fun lac _ => ?_
  rw [any_pagedFor_iff, decide_eq_true_iff]

end

/-- **Every paging command goes to the BSCs of its location areas**, in every state; one without a list of location
    areas goes to nobody. -/
theorem paging_fanOut (lib : Osmocore) (nat : BscNat) (msg : SccpMsg) (h : IsPaging msg) :
    (∀ lacs, cellIdentifierList lib (msg.l3.getD []) = some (5 :: encodeLacs lacs) →
        PagingFanOut nat (natStep lib nat (.fromMsc msg)) msg lacs) ∧
      ((∀ data, cellIdentifierList lib (msg.l3.getD []) = some data → octetAt data 0 ≠ 5) →
        written nat (natStep lib nat (.fromMsc msg)) = []) := by
  constructor
  · intro lacs hlist
    have hcount := count_written lib nat h hlist
    refine ⟨?_, ?_, ?_⟩
    · intro b
      rw [← count_pos_iff, hcount, countP_pos_iff]
      simp only [decide_eq_true_eq]
    · intro b hone
      rw [hcount]
      exact hone
    · intro out hout
      rw [written_paging lib nat h hlist] at hout
      exact mem_paged hout
  · intro hother
    have hnone : bscNatFindPaging lib (msg.l3.getD []) = none := by
      rw [bscNatFindPaging_eq]
      cases hlist : cellIdentifierList lib (msg.l3.getD []) with
      | none => rfl
      | some data => exact if_neg (hother data hlist)
    rw [natStep_paging lib nat h, hnone]
    exact drop_length

/-! ### Fixed inputs -/

/-- A NAT with one kind of BSC, in the location area 23, that may be forbidden to page. -/
def pagingConfig (forbidPaging : Bool) : NatConfig :=
  { plainConfig with bscConfigs := [⟨0, [7], none, forbidPaging, [23], none, 64⟩] }

/-- A PAGING COMMAND with these location areas. -/
def pagingCommand (lacs : List (BitVec 16)) : SccpMsg :=
  let list := 5 :: encodeLacs lacs
  .udt 254 ([0x00, UInt8.ofNat (list.length + 3), 0x52, 0x1a, UInt8.ofNat list.length] ++ list)

/-- Two location areas, the second of which the BSC handles. -/
theorem paging_fanOut_second :
    let nat := foldl (natStep plainLib) (start (pagingConfig false)) (.mscConnected :: bscArrives 0)
    PagingFanOut nat (natStep plainLib nat (.fromMsc (pagingCommand [22, 23]))) (pagingCommand [22, 23]) [22, 23] :=
  (paging_fanOut plainLib _ (pagingCommand [22, 23]) ⟨⟨254, _, rfl, by decide⟩, rfl⟩).1 [22, 23] (by decide)

/-- An authenticated BSC in the location area that is paged gets nothing, because paging is forbidden for it. -/
theorem not_paged_forbidden :
    ¬ ∀ (lib : Osmocore) (nat : BscNat), Reachable (natSystem lib) nat →
      ∀ (msg : SccpMsg) (lacs : List (BitVec 16)), IsPaging msg →
        cellIdentifierList lib (msg.l3.getD []) = some (5 :: encodeLacs lacs) →
        ∀ b bsc cfg, nat.bscConnections.get? b = some bsc → bsc.authenticated = true → bsc.cfg = some cfg →
          (∃ lac ∈ lacs, bscConfigHandlesLac cfg lac.toNat = true) →
          (written nat (natStep lib nat (.fromMsc msg))).count (.toBsc b msg) = 1 := by
  intro h
  let nat := foldl (natStep plainLib) (start (pagingConfig true)) (.mscConnected :: bscArrives 0)
  have hreach : Reachable (natSystem plainLib) nat :=
    ReachableBy.foldl (fun _ _ => rfl) _ (.init ⟨pagingConfig true, rfl⟩)
  have hget : nat.bscConnections.get? 0 =
      some { authenticated := true, cfg := some ⟨0, [7], none, true, [23], none, 64⟩ } := by decide +kernel
  have hone := h plainLib nat hreach (pagingCommand [23]) [23] ⟨⟨254, _, rfl, by decide⟩, rfl⟩ (by decide) 0 _ _ hget
    rfl rfl ⟨23, mem_cons_self, by decide⟩
  have hnone : (written nat (natStep plainLib nat (.fromMsc (pagingCommand [23])))).count
      (.toBsc 0 (pagingCommand [23])) = 0 := by decide +kernel
  rw [hnone] at hone
  cases hone

end OpenBsc.OsmoBscNat
