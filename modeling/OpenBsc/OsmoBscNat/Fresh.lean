import OpenBsc.OsmoBscNat.References

/-!
# `OsmoBscNat.Fresh` — what a connection inherits when its reference is used again

When a BSC requests a connection with a reference it has in use, the old connection is kept and three of its
fields are reset, with the endpoints. `fresh_iff` says for which old connections the rest does not matter to
anything that is decided later (`SameDecisions`): those that never got beyond their own request.
-/

namespace OpenBsc.OsmoBscNat

open Transition Relation BscNat

/-! ## A fresh entry -/

/-- The fields that decide whether later messages are filtered, forwarded or dropped are the same. -/
structure SameDecisions (con con' : SccpConnections) : Prop where
  remoteRef : con.remoteRef = con'.remoteRef
  hasRemoteRef : con.hasRemoteRef = con'.hasRemoteRef
  conLocal : con.conLocal = con'.conLocal
  authorized : con.authorized = con'.authorized
  imsi : con.imsi = con'.imsi
  ussdTi : con.ussdTi = con'.ussdTi

/-- What the request makes of a connection: one to the MSC, or one of the NAT's own to refuse it on. -/
def requested (verdict : CrVerdict) (con : SccpConnections) : SccpConnections :=
  if verdict.filter < 0 then BscNat.declareLocal con else BscNat.acceptCr verdict con

/-! ## What is inherited -/

/-- The old connection has nothing that the request does not overwrite: it was not authorised, has no USSD
    transaction and no IMSI (unless the request brings one), and, if it goes to the MSC, was neither confirmed
    nor terminated elsewhere. -/
def Unused (verdict : CrVerdict) (old : SccpConnections) : Prop :=
  old.authorized = false ∧ old.ussdTi = 0 ∧
    if verdict.filter < 0 then old.imsi = none
    else (verdict.imsi.isSome = true ∨ old.imsi = none) ∧ old.hasRemoteRef = false ∧ old.conLocal = .msc

theorem sameDecisions_iff (verdict : CrVerdict) (old : SccpConnections) (b : Nat)
    (src patched : SccpSourceReference) (now : Nat) :
    SameDecisions (requested verdict { renewed old patched now with mscEndp := none, bscEndp := none })
      (requested verdict (newConnection b src patched now)) ↔ Unused verdict old := by
  unfold requested Unused
  by_cases hfilter : verdict.filter < 0
  · simp only [if_pos hfilter]
    constructor
    · rintro ⟨-, -, -, hauth, himsi, hussd⟩
      exact ⟨hauth, hussd, himsi⟩
    · rintro ⟨hauth, hussd, himsi⟩
      exact ⟨rfl, rfl, rfl, hauth, himsi, hussd⟩
  · simp only [if_neg hfilter]
    -- the IMSI of the request goes before the old one
    have himsi : verdict.imsi.or old.imsi = verdict.imsi.or none ↔ verdict.imsi.isSome = true ∨ old.imsi = none := by
      cases verdict.imsi with
      | none | some => simp
    constructor
    · rintro ⟨-, hremote, hlocal, hauth, hor, hussd⟩
      exact ⟨hauth, hussd, himsi.mp hor, hremote, hlocal⟩
    · rintro ⟨hauth, hussd, hor, hremote, hlocal⟩
      exact ⟨rfl, hremote, hlocal, hauth, himsi.mpr hor, hussd⟩

/-! ## Runs -/

/-- The connection after the request is what the request makes of the one that was created. -/
theorem get?_forwardCr (lib : Osmocore) {nat : BscNat} (hrefs : RefsDistinct nat) {b now i ssn : Nat}
    {bsc : BscConnection} {src : SccpSourceReference} {data : Option (List Octet)} {con : SccpConnections}
    (hcalled : (nat.crVerdict lib bsc (.cr src ssn data)).filter < 0 →
      (rejectPayload (nat.crVerdict lib bsc (.cr src ssn data)).conType).isSome = true)
    (hcreated : (nat.createSccpSrcRef b src now).2 = some i)
    (hcon : (nat.createSccpSrcRef b src now).1.sccpConnections.get? i = some con) :
    (nat.forwardCr lib b bsc now src (.cr src ssn data)).sccpConnections.get? i =
      some (requested (nat.crVerdict lib bsc (.cr src ssn data)) con) := by
  obtain ⟨hb, hsrc, -, -, -⟩ := (get?_createSccpSrcRef nat b src now).new i con hcon hcreated
  have hdistinct := hrefs.create b src now
  unfold forwardCr requested
  cases hcreate : nat.createSccpSrcRef b src now with
  | mk nat' created =>
    rw [hcreate] at hcreated hcon hdistinct
    obtain rfl : created = some i := hcreated
    by_cases hfilter : (nat.crVerdict lib bsc (.cr src ssn data)).filter < 0
    · simp only [if_pos hfilter]
      obtain ⟨payload, hpayload⟩ := Option.isSome_iff_exists.mp (hcalled hfilter)
      have hlocal : (nat'.modifyCon i declareLocal).sccpConnections.get? i =
          some (declareLocal con) := Pool.get?_modify_self hcon
      unfold bscSendConRefuse
      rw [hpayload, hcreate]
      simp only [hlocal]
      rw [sendAll_sccpConnections]
      exact hlocal
    · simp only [if_neg hfilter]
      have hfind := hdistinct.findByRealRef hcon
      rw [hb, hsrc] at hfind
      unfold patchSccpSrcRefToMsc
      simp only [SccpMsg.srcLocalRef, hfind]
      rw [queueForMsc_sccpConnections]
      exact Pool.get?_modify_self hcon

/-- **A requested connection is decided on like a new one, exactly if the old connection with its reference,
    where there is one, has nothing left to inherit.** -/
theorem fresh_iff (lib : Osmocore) (nat : BscNat) (h : Reachable (natSystem lib) nat) (b : Nat)
    (bsc : BscConnection) (now : Nat) (src : SccpSourceReference) (ssn : Nat) (data : Option (List Octet)) (i : Nat)
    (hcalled : (nat.crVerdict lib bsc (.cr src ssn data)).filter < 0 →
      (rejectPayload (nat.crVerdict lib bsc (.cr src ssn data)).conType).isSome = true)
    (hcreated : (nat.createSccpSrcRef b src now).2 = some i) :
    (∀ con, (nat.forwardCr lib b bsc now src (.cr src ssn data)).sccpConnections.get? i = some con →
      SameDecisions con (requested (nat.crVerdict lib bsc (.cr src ssn data))
        (newConnection b src con.patchedRef now))) ↔
      ∀ old, nat.findByRealRef b src = some (i, old) → Unused (nat.crVerdict lib bsc (.cr src ssn data)) old := by
  obtain ⟨created, patched, hcon, horigin⟩ := created_con hcreated
  have hget := get?_forwardCr lib (reachable_refsDistinct h) hcalled hcreated hcon
  have hpatched : (requested (nat.crVerdict lib bsc (.cr src ssn data)) created).patchedRef = created.patchedRef := by
    unfold requested
    split <;> rfl
  rcases horigin with ⟨old, hfind, rfl⟩ | ⟨hnone, rfl⟩
  · constructor
    · rintro hsame old' hold
      rw [hfind] at hold
      cases hold
      have hdecide := hsame _ hget
      rw [hpatched] at hdecide
      exact (sameDecisions_iff _ old b src patched now).mp hdecide
    · rintro hunused con hi
      rw [hget] at hi
      cases hi
      rw [hpatched]
      exact (sameDecisions_iff _ old b src patched now).mpr (hunused old hfind)
  · constructor
    · rintro - old hold
      rw [hnone] at hold
      cases hold
    · rintro - con hi
      rw [hget] at hi
      cases hi
      rw [hpatched]
      exact ⟨rfl, rfl, rfl, rfl, rfl, rfl⟩

/-- A BSC that has asked for one connection, which the MSC has not answered. -/
def askedOnce : BscNat :=
  List.foldl (natStep plainLib) (BscNat.start plainConfig)
    (.mscConnected :: bscArrives 0 ++ [.fromBsc 0 0 (.sccp (plainRequest 2))])

/-- It asks again with the same reference. -/
theorem fresh_asked_again :
    (askedOnce.createSccpSrcRef 0 2 5).2 = some 0 ∧
      ∀ con, (askedOnce.forwardCr plainLib 0 {} 5 2 (plainRequest 2)).sccpConnections.get? 0 = some con →
        SameDecisions con (requested (askedOnce.crVerdict plainLib {} (plainRequest 2))
          (newConnection 0 2 con.patchedRef 5)) := by
  have hreach : Reachable (natSystem plainLib) askedOnce :=
    ReachableBy.foldl (fun _ _ => rfl) _ (.init ⟨plainConfig, rfl⟩)
  have hcreated : (askedOnce.createSccpSrcRef 0 2 5).2 = some 0 := by decide +kernel
  refine ⟨hcreated, ?_⟩
  refine (fresh_iff plainLib askedOnce hreach 0 {} 5 2 0xfe _ 0 (by decide +kernel) hcreated).mpr ?_
  intro old hold
  have hunused : (askedOnce.findByRealRef 0 2).map (fun found =>
      (found.2.authorized, found.2.ussdTi, found.2.imsi, found.2.hasRemoteRef, found.2.conLocal)) =
      some (false, 0, none, false, .msc) := by
    decide +kernel
  rw [hold] at hunused
  simp only [Option.map_some, Option.some.injEq, Prod.mk.injEq] at hunused
  obtain ⟨hauth, hussd, himsi, hremote, hlocal⟩ := hunused
  exact ⟨hauth, hussd, .inr himsi, hremote, hlocal⟩

/-- A BSC whose request was refused, on a connection of the NAT's own. -/
def refusedOnce : BscNat :=
  List.foldl (natStep plainLib) (BscNat.start plainConfig)
    (.mscConnected :: bscArrives 0 ++ [.fromBsc 0 0 (.sccp (cutRequest 1))])

/-- It asks for another connection with that reference. The request goes to the MSC, but the connection is still
    the NAT's own, so what comes after is dropped. -/
theorem not_fresh_after_refusal :
    ¬ ∀ (lib : Osmocore) (nat : BscNat), Reachable (natSystem lib) nat → ∀ b bsc now src ssn data i,
      ((nat.crVerdict lib bsc (.cr src ssn data)).filter < 0 →
        (rejectPayload (nat.crVerdict lib bsc (.cr src ssn data)).conType).isSome = true) →
      (nat.createSccpSrcRef b src now).2 = some i →
      ∀ con, (nat.forwardCr lib b bsc now src (.cr src ssn data)).sccpConnections.get? i = some con →
        SameDecisions con (requested (nat.crVerdict lib bsc (.cr src ssn data))
          (newConnection b src con.patchedRef now)) := by
  intro h
  have hreach : Reachable (natSystem plainLib) refusedOnce :=
    ReachableBy.foldl (fun _ _ => rfl) _ (.init ⟨plainConfig, rfl⟩)
  have hlocal : ((refusedOnce.forwardCr plainLib 0 {} 5 1 (plainRequest 1)).sccpConnections.get? 0).map
      (·.conLocal) = some .localMachine := by
    decide +kernel
  obtain ⟨con, hcon, hmachine⟩ := Option.map_eq_some_iff.mp hlocal
  have hsame : SameDecisions con (requested (refusedOnce.crVerdict plainLib {} (plainRequest 1))
      (newConnection 0 1 con.patchedRef 5)) :=
    h plainLib refusedOnce hreach 0 {} 5 1 0xfe _ 0 (by decide +kernel) (by decide +kernel) con hcon
  have hfilter : ¬ (refusedOnce.crVerdict plainLib {} (plainRequest 1)).filter < 0 := by decide +kernel
  have hmsc := hsame.conLocal
  unfold requested at hmsc
  rw [if_neg hfilter, hmachine] at hmsc
  cases hmsc

end OpenBsc.OsmoBscNat
