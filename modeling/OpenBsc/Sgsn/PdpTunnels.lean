import OpenBsc.Sgsn.PdpMoves

/-!
# `Sgsn.PdpTunnels` — the tunnel of each PDP context

A PDP context is there before its tunnel: the GGSN is asked to create that, and libgtp has the request for the handle of
the PDP context until it is confirmed. All that the procedures of session management depend on is this much of a PDP
context (`Gmm.view`): its session, and whether its tunnel is being created, has been created or is gone.

Where nothing frees a PDP context whose tunnel is being created, nor its handle, such a PDP context stays as it is, and
any other can only lose its tunnel or go (`Decays`).
-/

namespace OpenBsc.Sgsn

open Transition Pool Gmm Option

variable {g g' : Gmm} {p q : Nat} {pdp : PdpCtx}

/-! ## Views -/

/-- What libgtp has of a PDP context: nothing, a tunnel that is being created, or one that was created. -/
inductive Tunnel where
  | gone | creating | created
  deriving DecidableEq

namespace Gmm

def tunnel (g : Gmm) (p : Nat) (pdp : PdpCtx) : Tunnel :=
  match pdp.lib.bind g.libs.get? with
  | none => .gone
  | some lib => if ⟨.createPdp, p⟩ ∈ lib.pending then .creating else .created

/-- A PDP context, but for its state and its timer, with its tunnel. -/
def view (g : Gmm) (p : Nat) : Option (PdpCtx × Tunnel) :=
  (g.pdps.get? p).map fun pdp => (pdp.session, g.tunnel p pdp)

end Gmm

theorem view_of_get? (h : g.pdps.get? p = some pdp) : g.view p = some (pdp.session, g.tunnel p pdp) := by
  unfold view
  rw [h]
  rfl

theorem get?_of_view {sess : PdpCtx} {t : Tunnel} (h : g.view p = some (sess, t)) :
    ∃ pdp, g.pdps.get? p = some pdp ∧ pdp.session = sess ∧ g.tunnel p pdp = t := by
  obtain ⟨pdp, hpdp, hsame⟩ := map_eq_some_iff.mp h
  obtain ⟨hsess, ht⟩ := Prod.mk.inj hsame
  exact ⟨pdp, hpdp, hsess, ht⟩

theorem tunnel_creating : g.tunnel p pdp = .creating ↔
    ∃ h lib, pdp.lib = some h ∧ g.libs.get? h = some lib ∧ ⟨.createPdp, p⟩ ∈ lib.pending := by
  unfold tunnel
  constructor
  · intro hcreating
    split at hcreating
    · cases hcreating
    · rename_i lib hlib
      split_ifs at hcreating with hmem
      obtain ⟨h, hh, hget⟩ := bind_eq_some_iff.mp hlib
      exact ⟨h, lib, hh, hget, hmem⟩
  · rintro ⟨h, lib, hh, hlib, hmem⟩
    simp [hh, hlib, hmem]

theorem tunnel_session {pdp' : PdpCtx} (h : pdp'.session = pdp.session) : g.tunnel p pdp' = g.tunnel p pdp := by
  have hlib : pdp'.lib = pdp.lib := congrArg (·.lib) h
  unfold tunnel
  rw [hlib]

theorem view_congr (hpdps : g'.pdps = g.pdps) (hlibs : g'.libs = g.libs) (p : Nat) : g'.view p = g.view p := by
  unfold view tunnel
  rw [hpdps, hlibs]

theorem view_pdpCtxFree (g : Gmm) (q p : Nat) : (g.sgsnPdpCtxFree q).view p = if p = q then none else g.view p := by
  unfold view tunnel
  rw [pdps_pdpCtxFree, libs_pdpCtxFree, get?_remove]
  split_ifs
  · rfl
  · rfl

theorem view_mmCtxFree (g : Gmm) (j p : Nat) : (g.sgsnMmCtxFree j).view p = g.view p ∨
    (g.sgsnMmCtxFree j).view p = none ∧ ∃ pdp, g.pdps.get? p = some pdp ∧ pdp.mm = j := by
  obtain ⟨hlibs, hpdps⟩ := mmCtxFree_eq g j
  rcases hpdps with ⟨hpdps, -⟩ | hpdps
  · exact .inl (view_congr hpdps hlibs p)
  · unfold view tunnel
    rw [hlibs, hpdps, get?_foldl_remove]
    split_ifs with hmem
    · exact .inr ⟨rfl, mem_pdpList.mp hmem⟩
    · exact .inl rfl

theorem view_modifyPdp (g : Gmm) (q p : Nat) {f : PdpCtx → PdpCtx} (hf : ∀ pdp, (f pdp).session = pdp.session) :
    ({ g with pdps := g.pdps.modify q f } : Gmm).view p = g.view p := by
  unfold view
  rw [get?_modify]
  split_ifs
  · rw [map_map]
    refine congrFun (congrArg Option.map (funext fun pdp => ?_)) _
    exact Prod.ext (hf pdp) (tunnel_session (hf pdp))
  · rfl

/-- A handle is changed. -/
theorem view_modifyLib (g : Gmm) (h p : Nat) {f : PdpT → PdpT}
    (hf : ∀ lib, g.libs.get? h = some lib → ∀ pdp, g.pdps.get? p = some pdp → pdp.lib = some h →
      (⟨.createPdp, p⟩ ∈ (f lib).pending ↔ ⟨.createPdp, p⟩ ∈ lib.pending)) :
    ({ g with libs := g.libs.modify h f } : Gmm).view p = g.view p := by
  unfold view
  cases hpdp : g.pdps.get? p with
  | none => rfl
  | some pdp =>
    have htunnel : ({ g with libs := g.libs.modify h f } : Gmm).tunnel p pdp = g.tunnel p pdp := by
      unfold tunnel
      cases hk : pdp.lib with
      | none => rfl
      | some k =>
        rw [bind_some, bind_some, get?_modify]
        split_ifs with hkh
        · subst hkh
          cases hlib : g.libs.get? k with
          | none => rfl
          | some lib => simp only [map_some, hf lib hlib pdp hpdp hk]
        · rfl
    simp only [map_some, htunnel]

theorem view_removeLib (g : Gmm) (h p : Nat) : ({ g with libs := g.libs.remove h } : Gmm).view p =
    (g.view p).map fun v => if v.1.lib = some h then (v.1, .gone) else v := by
  unfold view
  cases hpdp : g.pdps.get? p with
  | none => rfl
  | some pdp =>
    have hlib : pdp.session.lib = pdp.lib := rfl
    simp only [map_some, hlib]
    congr 1
    unfold tunnel
    cases hk : pdp.lib with
    | none => rfl
    | some k =>
      rw [bind_some, bind_some, get?_remove]
      split_ifs with hkh hkh' hkh'
      · rfl
      · exact absurd (congrArg some hkh) hkh'
      · exact absurd (some.inj hkh') hkh
      · rfl

/-! ## The invariant -/

/-- PDP contexts belong to MM contexts, and each handle to a PDP context; what is pending is for a PDP context that is
    there, and once at most. -/
structure Tunnels (g : Gmm) : Prop where
  mm : ∀ p pdp, g.pdps.get? p = some pdp → (g.mms.get? pdp.mm).isSome = true
  below : ∀ p pdp h, g.pdps.get? p = some pdp → pdp.lib = some h → h < g.libs.next
  own : ∀ p pdp q pdq h, g.pdps.get? p = some pdp → g.pdps.get? q = some pdq →
    pdp.lib = some h → pdq.lib = some h → p = q
  created : ∀ h lib p, g.libs.get? h = some lib → ⟨.createPdp, p⟩ ∈ lib.pending →
    ∃ pdp, g.pdps.get? p = some pdp ∧ pdp.lib = some h
  once : ∀ h lib p, g.libs.get? h = some lib → lib.pending.count ⟨.createPdp, p⟩ ≤ 1

theorem tunnels_init (ggsns : Pool GgsnCtx) : Tunnels { ggsns := ggsns } where
  mm _ _ h := nomatch h
  below _ _ _ h := nomatch h
  own _ _ _ _ _ h := nomatch h
  created _ _ _ h := nomatch h
  once _ _ _ h := nomatch h

section

variable (h : Tunnels g)

include h

theorem Tunnels.look (hpdps : g'.pdps = g.pdps) (hlibs : g'.libs = g.libs)
    (hmms : ∀ i, (g.mms.get? i).isSome = true → (g'.mms.get? i).isSome = true) : Tunnels g' where
  mm p pdp hpdp := hmms _ (h.mm p pdp (hpdps ▸ hpdp))
  below := by rw [hpdps, hlibs]; exact h.below
  own := by rw [hpdps]; exact h.own
  created := by rw [hpdps, hlibs]; exact h.created
  once := by rw [hlibs]; exact h.once

theorem Tunnels.pdps (hlibs : g'.libs = g.libs)
    (hsub : ∀ p pdp', g'.pdps.get? p = some pdp' →
      (∃ pdp, g.pdps.get? p = some pdp ∧ pdp'.session = pdp.session) ∧ (g'.mms.get? pdp'.mm).isSome = true)
    (hkept : ∀ p pdp, g.pdps.get? p = some pdp → g.tunnel p pdp = .creating →
      ∃ pdp', g'.pdps.get? p = some pdp' ∧ pdp'.session = pdp.session) : Tunnels g' where
  mm p pdp hpdp := (hsub p pdp hpdp).2
  below := by
    intro p pdp' k hpdp' hk
    obtain ⟨⟨pdp, hpdp, hsame⟩, -⟩ := hsub p pdp' hpdp'
    have hlib : pdp'.lib = pdp.lib := congrArg (·.lib) hsame
    rw [hlibs]
    exact h.below p pdp k hpdp (hlib.symm.trans hk)
  own := by
    intro p a q b k ha hb hak hbk
    obtain ⟨⟨olda, holda, hsamea⟩, -⟩ := hsub p a ha
    obtain ⟨⟨oldb, holdb, hsameb⟩, -⟩ := hsub q b hb
    have hliba : a.lib = olda.lib := congrArg (·.lib) hsamea
    have hlibb : b.lib = oldb.lib := congrArg (·.lib) hsameb
    exact h.own p olda q oldb k holda holdb (hliba.symm.trans hak) (hlibb.symm.trans hbk)
  created := by
    intro k lib p hlib hmem
    rw [hlibs] at hlib
    obtain ⟨pdp, hpdp, hk⟩ := h.created k lib p hlib hmem
    obtain ⟨pdp', hpdp', hsame⟩ := hkept p pdp hpdp (tunnel_creating.mpr ⟨k, lib, hk, hlib, hmem⟩)
    have hlib' : pdp'.lib = pdp.lib := congrArg (·.lib) hsame
    exact ⟨pdp', hpdp', hlib'.trans hk⟩
  once := by rw [hlibs]; exact h.once

theorem Tunnels.freePdp (hq : ∀ sess, g.view q ≠ some (sess, .creating)) :
    Tunnels (g.sgsnPdpCtxFree q) := by
  refine h.pdps (libs_pdpCtxFree g q) ?_ ?_
  · intro p pdp hpdp
    rw [pdps_pdpCtxFree] at hpdp
    have hold := (get?_of_remove hpdp).2
    rw [mms_pdpCtxFree]
    exact ⟨⟨pdp, hold, rfl⟩, h.mm p pdp hold⟩
  · intro p pdp hpdp hcreating
    refine ⟨pdp, ?_, rfl⟩
    rw [pdps_pdpCtxFree, get?_remove, if_neg, hpdp]
    rintro rfl
    exact hq _ (by rw [view_of_get? hpdp, hcreating])

theorem Tunnels.freeMm {j : Nat}
    (hj : ∀ p sess, g.view p = some (sess, .creating) → sess.mm ≠ j) : Tunnels (g.sgsnMmCtxFree j) := by
  obtain ⟨hlibs, hpdps⟩ := mmCtxFree_eq g j
  refine h.pdps hlibs ?_ ?_
  · intro p pdp hpdp
    obtain ⟨hold, hgone⟩ := get?_mmCtxFree hpdp
    have hmm := h.mm p pdp hold
    refine ⟨⟨pdp, hold, rfl⟩, ?_⟩
    rw [mms_mmCtxFree, get?_remove, if_neg]
    · exact hmm
    · intro hj
      rw [hj, hgone hj] at hmm
      cases hmm
  · intro p pdp hpdp hcreating
    refine ⟨pdp, ?_, rfl⟩
    rcases hpdps with ⟨hpdps, -⟩ | hpdps
    · rw [hpdps, hpdp]
    · rw [hpdps, get?_foldl_remove, if_neg, hpdp]
      intro hmem
      obtain ⟨pdp', hpdp', hmm⟩ := mem_pdpList.mp hmem
      rw [hpdp] at hpdp'
      cases hpdp'
      exact hj p pdp.session (by rw [view_of_get? hpdp, hcreating]) hmm

theorem Tunnels.modifyPdp (q : Nat) {f : PdpCtx → PdpCtx} (hf : ∀ pdp, (f pdp).session = pdp.session) :
    Tunnels { g with pdps := g.pdps.modify q f } := by
  refine h.pdps rfl ?_ ?_
  · intro p pdp' hpdp'
    have hpdp' : (g.pdps.modify q f).get? p = some pdp' := hpdp'
    rw [get?_modify] at hpdp'
    split_ifs at hpdp'
    · obtain ⟨pdp, hpdp, rfl⟩ := map_eq_some_iff.mp hpdp'
      have hmm : (f pdp).mm = pdp.mm := congrArg (·.mm) (hf pdp)
      rw [hmm]
      exact ⟨⟨pdp, hpdp, hf pdp⟩, h.mm p pdp hpdp⟩
    · exact ⟨⟨pdp', hpdp', rfl⟩, h.mm p pdp' hpdp'⟩
  · intro p pdp hpdp _
    show ∃ pdp', (g.pdps.modify q f).get? p = some pdp' ∧ _
    rw [get?_modify]
    split_ifs
    · rw [hpdp]
      exact ⟨f pdp, rfl, hf pdp⟩
    · exact ⟨pdp, hpdp, rfl⟩

/-- No creation is asked for in addition. -/
theorem Tunnels.modifyLib (k : Nat) {f : PdpT → PdpT}
    (hf : ∀ lib p, (f lib).pending.count ⟨.createPdp, p⟩ ≤ lib.pending.count ⟨.createPdp, p⟩) :
    Tunnels { g with libs := g.libs.modify k f } := by
  have hold {l : Nat} {lib' : PdpT} (hlib' : (g.libs.modify k f).get? l = some lib') :
      ∃ lib, g.libs.get? l = some lib ∧
        ∀ p, lib'.pending.count ⟨.createPdp, p⟩ ≤ lib.pending.count ⟨.createPdp, p⟩ := by
    rw [get?_modify] at hlib'
    split_ifs at hlib'
    · obtain ⟨lib, hlib, rfl⟩ := map_eq_some_iff.mp hlib'
      exact ⟨lib, hlib, hf lib⟩
    · exact ⟨lib', hlib', fun _ => Nat.le_refl _⟩
  refine ⟨h.mm, h.below, h.own, ?_, ?_⟩
  · intro l lib' p hlib' hmem
    obtain ⟨lib, hlib, hcount⟩ := hold hlib'
    refine h.created l lib p hlib (List.count_pos_iff.mp ?_)
    exact Nat.lt_of_lt_of_le (List.count_pos_iff.mpr hmem) (hcount p)
  · intro l lib' p hlib'
    obtain ⟨lib, hlib, hcount⟩ := hold hlib'
    exact (hcount p).trans (h.once l lib p hlib)

theorem Tunnels.removeLib (k : Nat) : Tunnels { g with libs := g.libs.remove k } where
  mm := h.mm
  below := h.below
  own := h.own
  created l lib p hlib := h.created l lib p (get?_of_remove hlib).2
  once l lib p hlib := h.once l lib p (get?_of_remove hlib).2

/-- A creation is asked for again. -/
theorem Tunnels.retried {k : Nat} (hpdp : g.pdps.get? p = some pdp) (hk : pdp.lib = some k)
    (hcreated : g.tunnel p pdp ≠ .creating) :
    Tunnels { g with libs := g.libs.modify k fun lib =>
      { lib with version := 0, pending := lib.pending ++ [⟨.createPdp, p⟩] } } := by
  have hcount (lib : PdpT) (hlib : g.libs.get? k = some lib) : lib.pending.count ⟨.createPdp, p⟩ = 0 := by
    refine List.count_eq_zero.mpr fun hmem => hcreated ?_
    exact tunnel_creating.mpr ⟨k, lib, hk, hlib, hmem⟩
  refine ⟨h.mm, h.below, h.own, ?_, ?_⟩
  · intro l lib' q hlib' hmem
    have hget : (g.libs.modify k _).get? l = some lib' := hlib'
    rw [get?_modify] at hget
    split_ifs at hget with hlk
    · subst hlk
      obtain ⟨lib, hlib, rfl⟩ := map_eq_some_iff.mp hget
      rcases List.mem_append.mp hmem with hmem | hmem
      · exact h.created l lib q hlib hmem
      · have hqp : q = p := by simpa using hmem
        rw [hqp]
        exact ⟨pdp, hpdp, hk⟩
    · exact h.created l lib' q hget hmem
  · intro l lib' q hlib'
    have hget : (g.libs.modify k _).get? l = some lib' := hlib'
    rw [get?_modify] at hget
    split_ifs at hget with hlk
    · subst hlk
      obtain ⟨lib, hlib, rfl⟩ := map_eq_some_iff.mp hget
      rw [List.count_append]
      by_cases hqp : q = p
      · rw [hqp, hcount lib hlib, List.count_singleton_self]
      · have hnone : [(⟨.createPdp, p⟩ : GtpReq)].count ⟨.createPdp, q⟩ = 0 := by
          simp [Ne.symm hqp]
        rw [hnone]
        exact h.once l lib q hlib
    · exact h.once l lib' q hget

/-- A PDP context with a new handle, for which its creation is asked for. -/
theorem Tunnels.made (ggsn : Nat × GgsnCtx) {i : Nat} (nsapi sapi ti : Nat)
    (hmm : (g.mms.get? i).isSome = true) : Tunnels (sgsnCreatePdpCtx g ggsn i nsapi sapi ti true) := by
  -- what the new PDP context and the new handle are, and what is left of the others
  have hpdp {p : Nat} {pdp : PdpCtx} (hpdp : (sgsnCreatePdpCtx g ggsn i nsapi sapi ti true).pdps.get? p = some pdp) :
      p = g.pdps.next ∧ pdp.mm = i ∧ pdp.lib = some g.libs.next ∨ p ≠ g.pdps.next ∧ g.pdps.get? p = some pdp := by
    have hpdp : (g.pdps.alloc _).get? p = some pdp := hpdp
    rw [get?_alloc] at hpdp
    split_ifs at hpdp with hp
    · cases hpdp
      exact .inl ⟨hp, rfl, rfl⟩
    · exact .inr ⟨hp, hpdp⟩
  have hlib {k : Nat} {lib : PdpT} (hlib : (sgsnCreatePdpCtx g ggsn i nsapi sapi ti true).libs.get? k = some lib) :
      k = g.libs.next ∧ lib.pending = [⟨.createPdp, g.pdps.next⟩] ∨ g.libs.get? k = some lib := by
    have hlib : (g.libs.alloc _).get? k = some lib := hlib
    rw [get?_alloc] at hlib
    split_ifs at hlib with hk
    · cases hlib
      exact .inl ⟨hk, rfl⟩
    · exact .inr hlib
  refine ⟨?_, ?_, ?_, ?_, ?_⟩
  · intro p pdp hp
    rcases hpdp hp with ⟨-, hi, -⟩ | ⟨-, hold⟩
    · rw [hi]
      exact hmm
    · exact h.mm p pdp hold
  · intro p pdp k hp hk
    rcases hpdp hp with ⟨-, -, hnew⟩ | ⟨-, hold⟩
    · cases hnew.symm.trans hk
      exact Nat.lt_succ_self _
    · exact Nat.lt_succ_of_lt (h.below p pdp k hold hk)
  · intro p a q b k hp hq ha hb
    rcases hpdp hp with ⟨rfl, -, hanew⟩ | ⟨-, hpold⟩
    · rcases hpdp hq with ⟨rfl, -, -⟩ | ⟨-, hqold⟩
      · rfl
      · cases hanew.symm.trans ha
        exact absurd (h.below q b _ hqold hb) (Nat.lt_irrefl _)
    · rcases hpdp hq with ⟨rfl, -, hbnew⟩ | ⟨-, hqold⟩
      · cases hbnew.symm.trans hb
        exact absurd (h.below p a _ hpold ha) (Nat.lt_irrefl _)
      · exact h.own p a q b k hpold hqold ha hb
  · intro k lib p hk hmem
    rcases hlib hk with ⟨rfl, hpending⟩ | hold
    · have hp : p = g.pdps.next := by simpa [hpending] using hmem
      rw [hp]
      exact ⟨_, (get?_alloc _ _ _).trans (if_pos rfl), rfl⟩
    · obtain ⟨pdp, hpdp, hlib⟩ := h.created k lib p hold hmem
      refine ⟨pdp, (get?_alloc _ _ _).trans ?_, hlib⟩
      rw [if_neg (Nat.ne_of_lt (get?_lt hpdp)), hpdp]
  · intro k lib p hk
    rcases hlib hk with ⟨rfl, hpending⟩ | hold
    · rw [hpending]
      exact List.count_le_length
    · exact h.once k lib p hold

/-- A new PDP context waits, and the others are as they were. -/
theorem view_made (ggsn : Nat × GgsnCtx) (i nsapi sapi ti p : Nat) :
    (sgsnCreatePdpCtx g ggsn i nsapi sapi ti true).view p =
      if p = g.pdps.next then
        some (({ mm := i, nsapi := nsapi, lib := some g.libs.next, ggsn := some ggsn.1, sapi := sapi, ti := ti } :
          PdpCtx), .creating)
      else g.view p := by
  have hpdps : (sgsnCreatePdpCtx g ggsn i nsapi sapi ti true).pdps.get? p = _ := get?_alloc g.pdps _ p
  have hlibs (k : Nat) : (sgsnCreatePdpCtx g ggsn i nsapi sapi ti true).libs.get? k = _ := get?_alloc g.libs _ k
  split_ifs with hp
  · rw [if_pos hp] at hpdps
    rw [view_of_get? hpdps]
    refine congrArg some (Prod.ext rfl (tunnel_creating.mpr ⟨_, _, rfl, (hlibs _).trans (if_pos rfl), ?_⟩))
    rw [hp]
    exact List.mem_cons_self
  · rw [if_neg hp] at hpdps
    unfold view
    rw [hpdps]
    cases hpdp : g.pdps.get? p with
    | none => rfl
    | some pdp =>
      refine congrArg some (Prod.ext rfl ?_)
      show tunnel _ p pdp = g.tunnel p pdp
      unfold tunnel
      cases hk : pdp.lib with
      | none => rfl
      | some k => rw [bind_some, bind_some, hlibs, if_neg (Nat.ne_of_lt (h.below p pdp k hpdp hk))]

end

/-! ## Moves -/

/-- What may become of a PDP context whose tunnel nothing ends while it is being created. -/
inductive Decays : Option (PdpCtx × Tunnel) → Option (PdpCtx × Tunnel) → Prop where
  | same (v : Option (PdpCtx × Tunnel)) : Decays v v
  | freed {sess : PdpCtx} {t : Tunnel} (h : t ≠ .creating) : Decays (some (sess, t)) none
  | deleted (sess : PdpCtx) : Decays (some (sess, .created)) (some (sess, .gone))

theorem Decays.trans {a b c : Option (PdpCtx × Tunnel)} (hab : Decays a b) (hbc : Decays b c) : Decays a c := by
  cases hab with
  | same => exact hbc
  | freed h =>
    cases hbc
    exact .freed h
  | deleted sess =>
    cases hbc with
    | same => exact .deleted sess
    | freed => exact .freed nofun

theorem Decays.back {v : Option (PdpCtx × Tunnel)} {sess : PdpCtx} {t : Tunnel} (h : Decays v (some (sess, t)))
    (ht : t ≠ .gone) : v = some (sess, t) := by
  cases h with
  | same => rfl
  | deleted => exact absurd rfl ht

theorem Decays.of_creating {v : Option (PdpCtx × Tunnel)} {sess : PdpCtx} (h : Decays (some (sess, .creating)) v) :
    v = some (sess, .creating) := by
  cases h with
  | same => rfl
  | freed hne => exact absurd rfl hne

/-- A move that ends nothing while it is being created, and creates nothing. -/
def Harmless (g : Gmm) : PdpLabel → Prop
  | .mmFreed j => ∀ p sess, g.view p = some (sess, .creating) → sess.mm ≠ j
  | .freed p => ∀ sess, g.view p ≠ some (sess, .creating)
  | .handleFreed h => ∀ p sess, g.view p = some (sess, .creating) → sess.lib ≠ some h
  | .made .. => False
  | .confirmed _ req => req.type = .deletePdp
  | .retried .. => False
  | .look => True
  | .deletion _ => True
  | .timer _ => True

theorem Harmless.decayed {l : PdpLabel} (h : Harmless g l) (hdecays : ∀ p, Decays (g.view p) (g'.view p)) :
    Harmless g' l := by
  have hback {p : Nat} {sess : PdpCtx} (hcreating : g'.view p = some (sess, .creating)) :
      g.view p = some (sess, .creating) := (hcreating ▸ hdecays p).back nofun
  cases l with
  | mmFreed j => exact fun p sess hp => h p sess (hback hp)
  | freed p => exact fun sess hp => h sess (hback hp)
  | handleFreed k => exact fun p sess hp => h p sess (hback hp)
  | made | confirmed | retried => exact h
  | look => trivial
  | deletion p => trivial
  | timer p => trivial

theorem decays_move {l : PdpLabel} (h : Tunnels g) (hl : Harmless g l) (hmove : PdpMove g l g') :
    Tunnels g' ∧ ∀ p, Decays (g.view p) (g'.view p) := by
  have hsame (hview : ∀ p, g'.view p = g.view p) (p : Nat) : Decays (g.view p) (g'.view p) := by
    rw [hview p]
    exact .same _
  have hfreed {p : Nat} (hnone : g'.view p = none) (hnot : ∀ sess, g.view p ≠ some (sess, .creating)) :
      Decays (g.view p) (g'.view p) := by
    rw [hnone]
    cases hview : g.view p with
    | none => exact .same _
    | some v =>
      obtain ⟨sess, t⟩ := v
      exact .freed fun ht => hnot sess (by rw [hview, ht])
  cases hmove with
  | look hpdps hlibs hmms => exact ⟨h.look hpdps hlibs hmms, hsame (view_congr hpdps hlibs)⟩
  | mmFreed j =>
    refine ⟨h.freeMm hl, fun p => ?_⟩
    rcases view_mmCtxFree g j p with hview | ⟨hnone, pdp, hpdp, hmm⟩
    · rw [hview]
      exact .same _
    · refine hfreed hnone fun sess hcreating => ?_
      rw [view_of_get? hpdp] at hcreating
      obtain ⟨rfl, ht⟩ := Prod.mk.inj (some.inj hcreating)
      exact hl p pdp.session (by rw [view_of_get? hpdp, ht]) hmm
  | freed q =>
    refine ⟨h.freePdp hl, fun p => ?_⟩
    have hview := view_pdpCtxFree g q p
    split_ifs at hview with hpq
    · rw [hpq] at hview ⊢
      exact hfreed hview hl
    · rw [hview]
      exact .same _
  | deletion q =>
    unfold sgsnDeletePdpCtx
    split
    · exact ⟨h, fun p => .same _⟩
    · refine ⟨h.modifyLib _ fun lib p => ?_, fun p => ?_⟩
      · simp
      · rw [view_modifyLib]
        · exact .same _
        · intro lib _ _ _ _
          simp
  | timer q f hf => exact ⟨h.modifyPdp q hf, hsame fun p => view_modifyPdp g q p hf⟩
  | made => exact absurd hl id
  | confirmed k req =>
    obtain ⟨type, cbp⟩ := req
    obtain rfl : type = .deletePdp := hl
    refine ⟨h.modifyLib k fun lib p => List.erase_sublist.count_le _, hsame fun p => ?_⟩
    refine view_modifyLib g k p fun lib _ _ _ _ => ?_
    exact List.mem_erase_of_ne nofun
  | retried => exact absurd hl id
  | handleFreed k =>
    refine ⟨h.removeLib k, fun p => ?_⟩
    rw [view_removeLib]
    cases hview : g.view p with
    | none => exact .same _
    | some v =>
      obtain ⟨sess, t⟩ := v
      rw [map_some]
      split_ifs with hk
      · cases t with
        | gone => exact .same _
        | creating => exact absurd hk (hl p sess hview)
        | created => exact .deleted sess
      · exact .same _

/-- **What harmless moves make of the PDP contexts.** -/
theorem decays_moves {allowed : PdpLabel → Prop} (h : Tunnels g) (hallowed : ∀ l, allowed l → Harmless g l)
    (hmoves : PdpMoves allowed g g') : Tunnels g' ∧ ∀ p, Decays (g.view p) (g'.view p) := by
  refine hmoves.preserves (I := fun a => Tunnels a ∧ ∀ p, Decays (g.view p) (a.view p)) ?_ ⟨h, fun p => .same _⟩
  intro a l b ⟨ha, hdecays⟩ hl hmove
  obtain ⟨hb, hdecays'⟩ := decays_move ha ((hallowed l hl).decayed hdecays) hmove
  exact ⟨hb, fun p => (hdecays p).trans (hdecays' p)⟩

end OpenBsc.Sgsn
