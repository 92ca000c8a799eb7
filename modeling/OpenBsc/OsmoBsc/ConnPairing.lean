import OpenBsc.OsmoBsc.Sccp

/-!
# `OsmoBsc.ConnPairing` — a subscriber connection and its SCCP record belong to each other

`Paired` says that the pointers between subscriber connections, records and SCCP connections lead to live objects that
point back. Whatever happens is a chain of a few moves (`Move`), each of which keeps that; in a `Paired` state every
function follows live pointers only, so every event has a result (`step_moves`).

The way there matters in one place: when the complete layer 3 message cannot be created, the record is freed under a
subscriber connection that still points to it, which the caller frees before anything looks at it.
-/

namespace OpenBsc.OsmoBsc

open Transition Relation Bsc Pool ReflTransGen Option

/-! ## Pairs -/

/-- Every pointer designates a live object that points back. -/
structure Paired (s : Bsc) : Prop where
  conOf : ∀ c conn r, s.conns.get? c = some conn → conn.sccpCon = some r →
    ∃ con, s.cons.get? r = some con ∧ con.conn = some c
  connOf : ∀ r con c, s.cons.get? r = some con → con.conn = some c →
    ∃ conn, s.conns.get? c = some conn ∧ conn.sccpCon = some r
  sccpOf : ∀ r con, s.cons.get? r = some con →
    ∃ k sccp, con.sccp = some k ∧ s.sccps.get? k = some sccp ∧ sccp.dataCtx = some r
  ownerOf : ∀ k sccp, s.sccps.get? k = some sccp →
    ∃ r con, sccp.dataCtx = some r ∧ s.cons.get? r = some con ∧ con.sccp = some k
  lchanOf : ∀ l c, s.lchanConn l = some c → ∃ conn, s.conns.get? c = some conn ∧ conn.lchan = some l

/-- The pointers of a record. -/
def OsmoBscSccpCon.links (con : OsmoBscSccpCon) : Option Nat × Option Nat := (con.sccp, con.conn)

variable {s s' : Bsc} {r c k l : Nat} {con : OsmoBscSccpCon} {conn : GsmSubscriberConnection}
  {sccp : SccpConnection}

/-- Nothing but the pointers matters. -/
theorem Paired.congr (h : Paired s) (hconns : s'.conns = s.conns) (hlchan : s'.lchanConn = s.lchanConn)
    (hcons : ∀ r, (s'.cons.get? r).map (·.links) = (s.cons.get? r).map (·.links))
    (hsccps : ∀ k, (s'.sccps.get? k).map (·.dataCtx) = (s.sccps.get? k).map (·.dataCtx)) : Paired s' := by
  have hback : ∀ r con, s'.cons.get? r = some con → ∃ old, s.cons.get? r = some old ∧ old.links = con.links := by
    intro r con hr
    have := hcons r
    rw [hr, map_some, eq_comm, map_eq_some_iff] at this
    exact this
  have hforth : ∀ r con, s.cons.get? r = some con → ∃ new, s'.cons.get? r = some new ∧ new.links = con.links := by
    intro r con hr
    have := hcons r
    rw [hr, map_some, map_eq_some_iff] at this
    exact this
  have hsback : ∀ k sccp, s'.sccps.get? k = some sccp →
      ∃ old, s.sccps.get? k = some old ∧ old.dataCtx = sccp.dataCtx := by
    intro k sccp hk
    have := hsccps k
    rw [hk, map_some, eq_comm, map_eq_some_iff] at this
    exact this
  have hsforth : ∀ k sccp, s.sccps.get? k = some sccp →
      ∃ new, s'.sccps.get? k = some new ∧ new.dataCtx = sccp.dataCtx := by
    intro k sccp hk
    have := hsccps k
    rw [hk, map_some, map_eq_some_iff] at this
    exact this
  constructor
  · intro c conn r hc hr
    rw [hconns] at hc
    obtain ⟨con, hcon, hconn⟩ := h.conOf c conn r hc hr
    obtain ⟨new, hnew, hlinks⟩ := hforth r con hcon
    exact ⟨new, hnew, (congrArg Prod.snd hlinks).trans hconn⟩
  · intro r con c hr hc
    obtain ⟨old, hold, hlinks⟩ := hback r con hr
    rw [hconns]
    exact h.connOf r old c hold ((congrArg Prod.snd hlinks).trans hc)
  · intro r con hr
    obtain ⟨old, hold, hlinks⟩ := hback r con hr
    obtain ⟨k, sccp, hk, hsccp, hctx⟩ := h.sccpOf r old hold
    obtain ⟨new, hnew, hsame⟩ := hsforth k sccp hsccp
    exact ⟨k, new, (congrArg Prod.fst hlinks).symm.trans hk, hnew, hsame.trans hctx⟩
  · intro k sccp hk
    obtain ⟨old, hold, hsame⟩ := hsback k sccp hk
    obtain ⟨r, con, hctx, hr, hcon⟩ := h.ownerOf k old hold
    obtain ⟨new, hnew, hlinks⟩ := hforth r con hr
    exact ⟨r, new, hsame.symm.trans hctx, hnew, (congrArg Prod.fst hlinks).trans hcon⟩
  · intro l c hl
    rw [hlchan] at hl
    rw [hconns]
    exact h.lchanOf l c hl

/-! ## Moves -/

/-- The causes for which a message may be dropped. -/
def DropCause.Allowed : DropCause → Prop
  | .closing state => SccpConnectionState.established.toNat < state.toNat
  | .waiting size => 10 < size
  | .forceFree => True

/-- A change of a record that leaves its pointers and its queue. -/
def Touches (f : OsmoBscSccpCon → OsmoBscSccpCon) : Prop :=
  ∀ con, (f con).links = con.links ∧ (f con).sccpQueue = con.sccpQueue ∧ (f con).sccpQueueSize = con.sccpQueueSize

namespace Bsc

/-- A record and a subscriber connection let go of each other. -/
def unlink (s : Bsc) (r c : Nat) : Bsc :=
  (s.modifyCon r fun con => { con with conn := none }).modifyConn c fun conn => { conn with sccpCon := none }

/-- A subscriber connection is gone, and its channel knows. -/
def endConn (s : Bsc) (c : Nat) (conn : GsmSubscriberConnection) : Bsc :=
  { s.dropLchan conn.lchan with conns := s.conns.remove c }

/-- A new subscriber connection on a channel. -/
def enter (s : Bsc) (l : Nat) : Bsc :=
  { s with conns := s.conns.alloc { lchan := some l }, lchanConn := Function.update s.lchanConn l (some s.conns.next) }

/-- A new SCCP connection with its record, for a subscriber connection. -/
def join (s : Bsc) (c : Nat) : Bsc :=
  { s with
    sccps := s.sccps.alloc { dataCtx := some s.cons.next }
    cons := s.cons.alloc { sccp := some s.sccps.next, conn := some c }
    conns := s.conns.modify c fun conn => { conn with sccpCon := some s.cons.next } }

/-- The state of an SCCP connection is another one. -/
def setState (s : Bsc) (k : Nat) (state : SccpConnectionState) : Bsc :=
  { s with sccps := s.sccps.modify k fun conn => { conn with connectionState := state } }

/-- A record and its SCCP connection are gone, and so is what waits there. -/
def ended (s : Bsc) (r k : Nat) (con : OsmoBscSccpCon) (cause : DropCause) : Bsc :=
  { s with
    cons := s.cons.remove r
    sccps := s.sccps.remove k
    log := s.log ++ con.sccpQueue.map fun nr => .dropped r nr cause }

/-- Everything that waits on a connection is written. -/
def drained (s : Bsc) (r : Nat) (con : OsmoBscSccpCon) : Bsc :=
  (s.modifyCon r fun con =>
    { con with sccpQueue := [], sccpQueueSize := con.sccpQueueSize - BitVec.ofNat 32 con.sccpQueue.length }).emit
      (con.sccpQueue.map (.written r))

end Bsc

/-- What can happen at a time. -/
inductive Move (s : Bsc) : Bsc → Prop where
  | touch (r : Nat) (f : OsmoBscSccpCon → OsmoBscSccpCon) (hf : Touches f) : Move s (s.modifyCon r f)
  | unlink {r c : Nat} {con : OsmoBscSccpCon} (hr : s.cons.get? r = some con) (hc : con.conn = some c) :
      Move s (s.unlink r c)
  | endConn {c : Nat} {conn : GsmSubscriberConnection} (hc : s.conns.get? c = some conn)
      (hnone : conn.sccpCon = none) : Move s (s.endConn c conn)
  | enter (l : Nat) : Move s (s.enter l)
  | join {c : Nat} {conn : GsmSubscriberConnection} (hc : s.conns.get? c = some conn)
      (hnone : conn.sccpCon = none) : Move s (s.join c)
  /-- An SCCP connection is made and freed for want of a record. -/
  | spare : Move s { s with sccps := (s.sccps.alloc { dataCtx := none }).remove s.sccps.next }
  | submit {r : Nat} {s' : Bsc}
      (h : { s with nextMsgb := s.nextMsgb + 1 }.bscQueueForMsc r s.nextMsgb = some s') : Move s s'
  | setState {k : Nat} {sccp : SccpConnection} (hk : s.sccps.get? k = some sccp) (state : SccpConnectionState)
      (hstate : state ≠ .established) : Move s (s.setState k state)
  | drain {r k : Nat} {con : OsmoBscSccpCon} (hr : s.cons.get? r = some con) (hk : con.sccp = some k) :
      Move s (((s.setState k .established).emit [.established r]).drained r con)
  | ended {r k : Nat} {con : OsmoBscSccpCon} (hr : s.cons.get? r = some con) (hk : con.sccp = some k)
      (hconn : con.conn = none) (cause : DropCause) (hcause : cause.Allowed) : Move s (s.ended r k con cause)

/-- What `bsc_queue_for_msc` does with a message, on a connection that is there. -/
theorem bscQueueForMsc_cases {nr : Nat} (h : s.bscQueueForMsc r nr = some s') :
    ∃ con k sccp, s.cons.get? r = some con ∧ con.sccp = some k ∧ s.sccps.get? k = some sccp ∧
      ((∃ cause : DropCause, cause.Allowed ∧ cause ≠ .forceFree ∧ s' = s.emit [.submitted r nr, .dropped r nr cause]) ∨
        (sccp.connectionState = .established ∧ con.sccpQueueSize = 0 ∧ s' = s.emit [.submitted r nr, .written r nr]) ∨
        (¬(sccp.connectionState = .established ∧ con.sccpQueueSize = 0) ∧ con.sccpQueueSize.toNat ≤ 10 ∧
          s' = (s.emit [.submitted r nr]).modifyCon r fun con =>
            { con with sccpQueueSize := con.sccpQueueSize + 1, sccpQueue := con.sccpQueue ++ [nr] })) := by
  have hemit : ∀ e, (s.emit [.submitted r nr]).emit [e] = s.emit [.submitted r nr, e] := fun e => by
    simp [emit, List.append_assoc]
  obtain ⟨con, hr, h⟩ := bind_eq_some_iff.mp h
  obtain ⟨k, hk, h⟩ := bind_eq_some_iff.mp h
  obtain ⟨sccp, hsccp, h⟩ := bind_eq_some_iff.mp h
  refine ⟨con, k, sccp, hr, hk, hsccp, ?_⟩
  dsimp only at h
  split_ifs at h with hclosing hwrite hfull
  · rw [hemit] at h
    exact .inl ⟨.closing sccp.connectionState, hclosing, nofun, (some.inj h).symm⟩
  · rw [hemit] at h
    exact .inr (.inl ⟨hwrite.1, hwrite.2, (some.inj h).symm⟩)
  · rw [hemit] at h
    exact .inl ⟨.waiting con.sccpQueueSize.toNat, hfull, nofun, (some.inj h).symm⟩
  · exact .inr (.inr ⟨hwrite, by omega, (some.inj h).symm⟩)

/-- On a connection that is there, it has a result. -/
theorem bscQueueForMsc_isSome (nr : Nat) (hr : s.cons.get? r = some con) (hk : con.sccp = some k)
    (hsccp : s.sccps.get? k = some sccp) : ∃ s', s.bscQueueForMsc r nr = some s' := by
  simp only [bscQueueForMsc, hr, hk, hsccp, bind_eq_bind, bind_some]
  split_ifs <;> exact ⟨_, rfl⟩

variable {f : OsmoBscSccpCon → OsmoBscSccpCon}

theorem links_modifyCon (hf : ∀ con, (f con).links = con.links) (s : Bsc) (r q : Nat) :
    ((s.modifyCon r f).cons.get? q).map (·.links) = (s.cons.get? q).map (·.links) := by
  show ((s.cons.modify r f).get? q).map (·.links) = _
  rw [get?_modify]
  split_ifs
  · rw [Option.map_map]
    exact congrArg (Option.map · (s.cons.get? q)) (funext hf)
  · rfl

section

variable (h : Paired s)

include h

theorem Paired.modifyCon (r : Nat) (hf : ∀ con, (f con).links = con.links) : Paired (s.modifyCon r f) :=
  h.congr rfl rfl (links_modifyCon hf s r) fun _ => rfl

theorem Paired.emit (effects : List SccpEffect) : Paired (s.emit effects) :=
  h.congr rfl rfl (fun _ => rfl) fun _ => rfl

theorem Paired.drained (r : Nat) (con : OsmoBscSccpCon) : Paired (s.drained r con) := by
  refine Paired.emit (h.modifyCon r ?_) _
  exact fun _ => rfl

theorem Paired.setState (k : Nat) (state : SccpConnectionState) : Paired (s.setState k state) := by
  refine h.congr rfl rfl (fun _ => rfl) fun q => ?_
  show ((s.sccps.modify k _).get? q).map (·.dataCtx) = _
  rw [get?_modify]
  split_ifs
  · rw [Option.map_map]
    rfl
  · rfl

theorem Paired.conn_unique (hr : s.cons.get? r = some con) (hc : con.conn = some c) {q : Nat}
    {con' : OsmoBscSccpCon} (hq : s.cons.get? q = some con') (hc' : con'.conn = some c) : q = r := by
  obtain ⟨conn, hconn, hback⟩ := h.connOf r con c hr hc
  obtain ⟨conn', hconn', hback'⟩ := h.connOf q con' c hq hc'
  rw [hconn] at hconn'
  cases hconn'
  rw [hback] at hback'
  exact (some.inj hback').symm

/-- A subscriber connection without record is no record's. -/
theorem Paired.conn_ne (hc : s.conns.get? c = some conn) (hnone : conn.sccpCon = none)
    (hr : s.cons.get? r = some con) : con.conn ≠ some c := by
  intro hconn
  obtain ⟨conn', hconn', hback⟩ := h.connOf r con c hr hconn
  rw [hc] at hconn'
  cases hconn'
  rw [hnone] at hback
  cases hback

/-- A connection is the connection of one record. -/
theorem Paired.sccp_unique (hr : s.cons.get? r = some con) (hk : con.sccp = some k) {q : Nat}
    {con' : OsmoBscSccpCon} (hq : s.cons.get? q = some con') (hk' : con'.sccp = some k) : q = r := by
  obtain ⟨k₁, sccp, hk₁, hsccp, hctx⟩ := h.sccpOf r con hr
  obtain ⟨k₂, sccp', hk₂, hsccp', hctx'⟩ := h.sccpOf q con' hq
  rw [hk] at hk₁
  rw [hk'] at hk₂
  cases hk₁
  cases hk₂
  rw [hsccp] at hsccp'
  cases hsccp'
  rw [hctx] at hctx'
  exact (some.inj hctx').symm

theorem Paired.unlink (hr : s.cons.get? r = some con) (hc : con.conn = some c) :
    Paired (s.unlink r c) := by
  have hcons : ∀ q, (s.unlink r c).cons.get? q =
      if q = r then (s.cons.get? q).map fun con => { con with conn := none } else s.cons.get? q :=
    fun q => get?_modify _ _ _ _
  have hconns : ∀ d, (s.unlink r c).conns.get? d =
      if d = c then (s.conns.get? d).map fun conn => { conn with sccpCon := none } else s.conns.get? d :=
    fun d => get?_modify _ _ _ _
  constructor
  · intro d conn q hd hq
    rw [hconns] at hd
    split_ifs at hd with hdc
    · obtain ⟨old, -, rfl⟩ := map_eq_some_iff.mp hd
      cases hq
    · obtain ⟨con', hcon', hback⟩ := h.conOf d conn q hd hq
      have hqr : q ≠ r := by
        rintro rfl
        rw [hr] at hcon'
        cases hcon'
        rw [hc] at hback
        exact hdc (some.inj hback).symm
      exact ⟨con', by rw [hcons, if_neg hqr, hcon'], hback⟩
  · intro q con' d hq hd
    rw [hcons] at hq
    split_ifs at hq with hqr
    · obtain ⟨old, -, rfl⟩ := map_eq_some_iff.mp hq
      cases hd
    · obtain ⟨conn, hconn, hback⟩ := h.connOf q con' d hq hd
      have hdc : d ≠ c := by
        rintro rfl
        exact hqr (h.conn_unique hr hc hq hd)
      exact ⟨conn, by rw [hconns, if_neg hdc, hconn], hback⟩
  · intro q con' hq
    rw [hcons] at hq
    split_ifs at hq
    · obtain ⟨old, hold, rfl⟩ := map_eq_some_iff.mp hq
      exact h.sccpOf q old hold
    · exact h.sccpOf q con' hq
  · intro k sccp hk
    obtain ⟨q, con', hctx, hq, hsccp⟩ := h.ownerOf k sccp hk
    by_cases hqr : q = r
    · exact ⟨q, { con' with conn := none }, hctx, by rw [hcons, if_pos hqr, hq]; rfl, hsccp⟩
    · exact ⟨q, con', hctx, by rw [hcons, if_neg hqr, hq], hsccp⟩
  · intro l d hl
    obtain ⟨conn, hconn, hlchan⟩ := h.lchanOf l d hl
    by_cases hdc : d = c
    · exact ⟨{ conn with sccpCon := none }, by rw [hconns, if_pos hdc, hconn]; rfl, hlchan⟩
    · exact ⟨conn, by rw [hconns, if_neg hdc, hconn], hlchan⟩

end

theorem lchanConn_dropLchan {s : Bsc} {lchan : Option Nat} (h : (s.dropLchan lchan).lchanConn l = some c) :
    s.lchanConn l = some c ∧ lchan ≠ some l := by
  cases lchan with
  | none => exact ⟨h, nofun⟩
  | some l' =>
    change Function.update s.lchanConn l' none l = some c at h
    rw [Function.update_apply] at h
    split_ifs at h with hl
    exact ⟨h, fun heq => hl (some.inj heq).symm⟩

theorem dropLchan_cons (s : Bsc) (lchan : Option Nat) : (s.dropLchan lchan).cons = s.cons := by cases lchan <;> rfl

theorem dropLchan_sccps (s : Bsc) (lchan : Option Nat) : (s.dropLchan lchan).sccps = s.sccps := by cases lchan <;> rfl

theorem dropLchan_conns (s : Bsc) (lchan : Option Nat) : (s.dropLchan lchan).conns = s.conns := by cases lchan <;> rfl

theorem Paired.endConn (h : Paired s) (hc : s.conns.get? c = some conn) (hnone : conn.sccpCon = none) :
    Paired (s.endConn c conn) := by
  have hcons : (s.endConn c conn).cons = s.cons := dropLchan_cons s conn.lchan
  have hsccps : (s.endConn c conn).sccps = s.sccps := dropLchan_sccps s conn.lchan
  have hconns : ∀ d, (s.endConn c conn).conns.get? d = if d = c then none else s.conns.get? d :=
    fun d => get?_remove _ _ _
  constructor
  · intro d conn' q hd hq
    rw [hconns] at hd
    split_ifs at hd
    rw [hcons]
    exact h.conOf d conn' q hd hq
  · intro q con' d hq hd
    rw [hcons] at hq
    obtain ⟨conn', hconn', hback⟩ := h.connOf q con' d hq hd
    have hdc : d ≠ c := by
      rintro rfl
      exact h.conn_ne hc hnone hq hd
    exact ⟨conn', by rw [hconns, if_neg hdc, hconn'], hback⟩
  · intro q con' hq
    rw [hcons] at hq
    rw [hsccps]
    exact h.sccpOf q con' hq
  · intro k sccp hk
    rw [hsccps] at hk
    rw [hcons]
    exact h.ownerOf k sccp hk
  · intro l d hl
    obtain ⟨hold, hne⟩ := lchanConn_dropLchan hl
    obtain ⟨conn', hconn', hlchan⟩ := h.lchanOf l d hold
    have hdc : d ≠ c := by
      rintro rfl
      rw [hc] at hconn'
      cases hconn'
      exact hne hlchan
    exact ⟨conn', by rw [hconns, if_neg hdc, hconn'], hlchan⟩

theorem Paired.enter (h : Paired s) (l : Nat) : Paired (s.enter l) := by
  have hconns : ∀ d, (s.enter l).conns.get? d = if d = s.conns.next then some { lchan := some l } else s.conns.get? d :=
    fun d => get?_alloc _ _ _
  have hkeep : ∀ {d conn}, s.conns.get? d = some conn → (s.enter l).conns.get? d = some conn := by
    intro d conn hd
    rw [hconns, if_neg (Nat.ne_of_lt (get?_lt hd)), hd]
  constructor
  · intro d conn q hd hq
    rw [hconns] at hd
    split_ifs at hd
    · cases hd
      cases hq
    · exact h.conOf d conn q hd hq
  · intro q con' d hq hd
    obtain ⟨conn, hconn, hback⟩ := h.connOf q con' d hq hd
    exact ⟨conn, hkeep hconn, hback⟩
  · exact h.sccpOf
  · exact h.ownerOf
  · intro l' d hl
    change Function.update s.lchanConn l (some s.conns.next) l' = some d at hl
    rw [Function.update_apply] at hl
    split_ifs at hl with hl'
    · cases hl
      exact ⟨{ lchan := some l }, by rw [hconns, if_pos rfl], congrArg some hl'.symm⟩
    · obtain ⟨conn, hconn, hlchan⟩ := h.lchanOf l' d hl
      exact ⟨conn, hkeep hconn, hlchan⟩

theorem get?_join_cons (c q : Nat) : (s.join c).cons.get? q =
    if q = s.cons.next then some { sccp := some s.sccps.next, conn := some c } else s.cons.get? q :=
  get?_alloc _ _ _

theorem get?_join_sccps (c q : Nat) : (s.join c).sccps.get? q =
    if q = s.sccps.next then some { dataCtx := some s.cons.next } else s.sccps.get? q :=
  get?_alloc _ _ _

theorem Paired.join (h : Paired s) (hc : s.conns.get? c = some conn) (hnone : conn.sccpCon = none) :
    Paired (s.join c) := by
  have hconns : ∀ d, (s.join c).conns.get? d =
      if d = c then (s.conns.get? d).map fun conn => { conn with sccpCon := some s.cons.next } else s.conns.get? d :=
    fun d => get?_modify _ _ _ _
  have hold : ∀ {q con}, s.cons.get? q = some con → (s.join c).cons.get? q = some con := by
    intro q con hq
    rw [get?_join_cons, if_neg (Nat.ne_of_lt (get?_lt hq)), hq]
  have holds : ∀ {q sccp}, s.sccps.get? q = some sccp → (s.join c).sccps.get? q = some sccp := by
    intro q sccp hq
    rw [get?_join_sccps, if_neg (Nat.ne_of_lt (get?_lt hq)), hq]
  constructor
  · intro d conn' q hd hq
    rw [hconns] at hd
    split_ifs at hd with hdc
    · obtain ⟨old, -, rfl⟩ := map_eq_some_iff.mp hd
      cases hq
      exact ⟨_, by rw [get?_join_cons, if_pos rfl], congrArg some hdc.symm⟩
    · obtain ⟨con', hcon', hback⟩ := h.conOf d conn' q hd hq
      exact ⟨con', hold hcon', hback⟩
  · intro q con' d hq hd
    rw [get?_join_cons] at hq
    split_ifs at hq with hqn
    · cases hq
      cases hd
      exact ⟨{ conn with sccpCon := some s.cons.next }, by rw [hconns, if_pos rfl, hc]; rfl, congrArg some hqn.symm⟩
    · obtain ⟨conn', hconn', hback⟩ := h.connOf q con' d hq hd
      have hdc : d ≠ c := by
        rintro rfl
        exact h.conn_ne hc hnone hq hd
      exact ⟨conn', by rw [hconns, if_neg hdc, hconn'], hback⟩
  · intro q con' hq
    rw [get?_join_cons] at hq
    split_ifs at hq with hqn
    · cases hq
      exact ⟨s.sccps.next, _, rfl, by rw [get?_join_sccps, if_pos rfl], congrArg some hqn.symm⟩
    · obtain ⟨k, sccp, hk, hsccp, hctx⟩ := h.sccpOf q con' hq
      exact ⟨k, sccp, hk, holds hsccp, hctx⟩
  · intro k sccp hk
    rw [get?_join_sccps] at hk
    split_ifs at hk with hkn
    · cases hk
      exact ⟨s.cons.next, _, rfl, by rw [get?_join_cons, if_pos rfl], congrArg some hkn.symm⟩
    · obtain ⟨q, con', hctx, hq, hsccp⟩ := h.ownerOf k sccp hk
      exact ⟨q, con', hctx, hold hq, hsccp⟩
  · intro l d hl
    obtain ⟨conn', hconn', hlchan⟩ := h.lchanOf l d hl
    by_cases hdc : d = c
    · exact ⟨{ conn' with sccpCon := some s.cons.next }, by rw [hconns, if_pos hdc, hconn']; rfl, hlchan⟩
    · exact ⟨conn', by rw [hconns, if_neg hdc, hconn'], hlchan⟩

theorem Paired.ended (h : Paired s) (hr : s.cons.get? r = some con) (hk : con.sccp = some k)
    (hconn : con.conn = none) (cause : DropCause) : Paired (s.ended r k con cause) := by
  have hcons : ∀ q, (s.ended r k con cause).cons.get? q = if q = r then none else s.cons.get? q :=
    fun q => get?_remove _ _ _
  have hsccps : ∀ q, (s.ended r k con cause).sccps.get? q = if q = k then none else s.sccps.get? q :=
    fun q => get?_remove _ _ _
  constructor
  · intro d conn q hd hq
    obtain ⟨con', hcon', hback⟩ := h.conOf d conn q hd hq
    have hqr : q ≠ r := by
      rintro rfl
      rw [hr] at hcon'
      cases hcon'
      rw [hconn] at hback
      cases hback
    exact ⟨con', by rw [hcons, if_neg hqr, hcon'], hback⟩
  · intro q con' d hq hd
    rw [hcons] at hq
    split_ifs at hq
    exact h.connOf q con' d hq hd
  · intro q con' hq
    rw [hcons] at hq
    split_ifs at hq with hqr
    obtain ⟨k', sccp, hk', hsccp, hctx⟩ := h.sccpOf q con' hq
    have hne : k' ≠ k := by
      rintro rfl
      exact hqr (h.sccp_unique hr hk hq hk')
    exact ⟨k', sccp, hk', by rw [hsccps, if_neg hne, hsccp], hctx⟩
  · intro k' sccp hk'
    rw [hsccps] at hk'
    split_ifs at hk' with hne
    obtain ⟨q, con', hctx, hq, hsccp⟩ := h.ownerOf k' sccp hk'
    have hqr : q ≠ r := by
      rintro rfl
      rw [hr] at hq
      cases hq
      rw [hk] at hsccp
      exact hne (some.inj hsccp).symm
    exact ⟨q, con', hctx, by rw [hcons, if_neg hqr, hq], hsccp⟩
  · exact h.lchanOf

theorem Paired.move (h : Paired s) (hmove : Move s s') : Paired s' := by
  cases hmove with
  | touch r f hf => exact h.modifyCon r fun con => (hf con).1
  | unlink hr hc => exact h.unlink hr hc
  | endConn hc hnone => exact h.endConn hc hnone
  | enter l => exact h.enter l
  | join hc hnone => exact h.join hc hnone
  | spare =>
    exact h.congr rfl rfl (fun _ => rfl) fun q => congrArg (Option.map _) (get?_alloc_remove s.sccps _ q)
  | submit hqueue =>
    have hnext : Paired { s with nextMsgb := s.nextMsgb + 1 } := h.congr rfl rfl (fun _ => rfl) fun _ => rfl
    obtain ⟨con, k, sccp, -, -, -, ⟨cause, -, -, rfl⟩ | ⟨-, -, rfl⟩ | ⟨-, -, rfl⟩⟩ := bscQueueForMsc_cases hqueue
    · exact hnext.emit _
    · exact hnext.emit _
    · exact (hnext.emit _).modifyCon _ fun _ => rfl
  | setState hk state _ => exact h.setState _ state
  | drain hr hk => exact ((h.setState _ _).emit _).drained _ _
  | ended hr hk hconn cause _ => exact h.ended hr hk hconn cause

/-! ## Functions -/

theorem get?_modifyCon (hr : s.cons.get? r = some con) : (s.modifyCon r f).cons.get? r = some (f con) :=
  get?_modify_self hr

theorem clear_free (hc : s.conns.get? c = some conn) :
    (s.gsm0808Clear c).bind (·.subscrConFree c) = some (s.endConn c conn) := by
  have hget : ((s.dropLchan conn.lchan).modifyConn c fun conn => { conn with lchan := none }).conns.get? c =
      some { conn with lchan := none } := by
    refine get?_modify_self ?_
    rw [dropLchan_conns]
    exact hc
  rw [gsm0808Clear, hc, map_some, bind_some, subscrConFree, hget, map_some]
  simp only [dropLchan, modifyConn, remove_modify, endConn]
  cases conn.lchan <;> rfl

/-- The subscriber connection of a record is gone afterwards. -/
theorem clearConn_moves (h : Paired s) (hr : s.cons.get? r = some con) :
    ∃ s', s.clearConn r = some s' ∧ ReflTransGen Move s s' ∧ s'.sccps = s.sccps ∧
      s'.cons = s.cons.modify r fun con => { con with conn := none } := by
  cases hconn : con.conn with
  | none =>
    have hsame : s.cons.modify r (fun con => { con with conn := none }) = s.cons := by
      rw [modify_congr (g := fun con => con) hr (by rw [← hconn]), modify_id]
    refine ⟨s, ?_, .refl, rfl, hsame.symm⟩
    simp only [clearConn, hr, hconn, bind_eq_bind, bind_some]
  | some c =>
    obtain ⟨conn, hc, hback⟩ := h.connOf r con c hr hconn
    have hc' : (s.unlink r c).conns.get? c = some { conn with sccpCon := none } := get?_modify_self hc
    have hmoves : ReflTransGen Move s ((s.unlink r c).endConn c { conn with sccpCon := none }) :=
      (single (.unlink hr hconn)).tail (.endConn hc' rfl)
    have hend : (s.unlink r c).endConn c { conn with sccpCon := none } =
        (s.endConn c conn).modifyCon r fun con => { con with conn := none } := by
      simp only [endConn, unlink, modifyConn, remove_modify]
      cases conn.lchan <;> rfl
    refine ⟨_, ?_, hmoves, ?_, ?_⟩
    · simp only [clearConn, hr, hconn, bind_eq_bind, bind_some]
      rw [← bind_assoc, clear_free hc, hend]
      rfl
    · rw [hend]
      exact dropLchan_sccps s conn.lchan
    · rw [hend]
      exact congrArg (fun cons : Pool OsmoBscSccpCon => cons.modify r fun con => { con with conn := none })
        (dropLchan_cons s conn.lchan)

/-- A record without subscriber connection is freed, with its SCCP connection. -/
theorem end_eq (hr : s.cons.get? r = some con) (hsccp : s.sccps.get? k = some sccp) (cause : DropCause)
    (f : OsmoBscSccpCon → OsmoBscSccpCon) (hf : ∀ con, (f con).sccpQueue = con.sccpQueue) :
    (do
      let s ← (s.modifyCon r f).freeQueued r cause
      let s ← s.sccpConnectionFree k
      s.bscDeleteConnection r) = some (s.ended r k con cause) := by
  have hfree : (s.modifyCon r f).freeQueued r cause =
      some (((s.modifyCon r f).modifyCon r fun con => { con with sccpQueue := [], sccpQueueSize := 0 }).emit
        (con.sccpQueue.map fun nr => .dropped r nr cause)) := by
    rw [freeQueued, get?_modifyCon hr, map_some, hf]
  have hget : (((s.cons.modify r f).modify r fun con => { con with sccpQueue := [], sccpQueueSize := 0 }).get? r) =
      some { f con with sccpQueue := [], sccpQueueSize := 0 } :=
    get?_modify_self (get?_modify_self hr)
  simp only [bind_eq_bind]
  rw [hfree, bind_some]
  simp only [bind_some, sccpConnectionFree, bscDeleteConnection, emit, modifyCon, hsccp, hget,
    map_some, ended, remove_modify]

theorem Paired.moves (h : Paired s) (hmoves : ReflTransGen Move s s') : Paired s' :=
  closure_preserves (fun _ _ h => h.move) hmoves h

theorem forceFree_moves (h : Paired s) (hr : s.cons.get? r = some con) :
    ∃ s', s.bscSccpForceFree r = some s' ∧ ReflTransGen Move s s' ∧ s'.cons = s.cons.remove r := by
  obtain ⟨s₁, hclear, hmoves, hsccps, hcons⟩ := clearConn_moves h hr
  have hr₁ : s₁.cons.get? r = some { con with conn := none } := by
    rw [hcons]
    exact get?_modify_self hr
  obtain ⟨k, sccp, hk, hsccp, -⟩ := h.sccpOf r con hr
  have hsccp₁ : s₁.sccps.get? k = some sccp := by rw [hsccps, hsccp]
  refine ⟨s₁.ended r k { con with conn := none } .forceFree, ?_, hmoves.tail (.ended hr₁ hk rfl _ trivial), ?_⟩
  · have hfree : s₁.freeQueued r .forceFree =
        some ((s₁.modifyCon r fun con => { con with sccpQueue := [], sccpQueueSize := 0 }).emit
          (con.sccpQueue.map fun nr => .dropped r nr .forceFree)) := by
      rw [freeQueued, hr₁, map_some]
    have hget : (s₁.cons.modify r fun con => { con with sccpQueue := [], sccpQueueSize := 0 }).get? r =
        some { con with conn := none, sccpQueue := [], sccpQueueSize := 0 } := get?_modify_self hr₁
    have hlast : ((s₁.cons.modify r fun con => { con with sccpQueue := [], sccpQueueSize := 0 }).modify r
        fun con => { con with sccp := none }).get? r =
          some { con with conn := none, sccpQueue := [], sccpQueueSize := 0, sccp := none } :=
      get?_modify_self hget
    simp only [bscSccpForceFree, bind_eq_bind]
    rw [hclear, bind_some, hfree, bind_some]
    simp only [bind_some, sccpConnectionFree, bscDeleteConnection, emit, modifyCon, hget, hk,
      hsccp₁, hlast, map_some, ended, remove_modify]
  · show s₁.cons.remove r = _
    rw [hcons, remove_modify]

/-- One round of the loop takes the first message off. -/
theorem foldl_sendFirst (r : Nat) (queue : List Nat) (s : Bsc) :
    queue.foldl (sendFirst r) s =
      (s.modifyCon r fun con =>
        { con with
          sccpQueue := con.sccpQueue.drop queue.length
          sccpQueueSize := con.sccpQueueSize - BitVec.ofNat 32 queue.length }).emit (queue.map (.written r)) := by
  induction queue generalizing s with
  | nil =>
    have hsame : s.cons.modify r (fun con => { con with sccpQueueSize := con.sccpQueueSize - BitVec.ofNat 32 0 }) =
        s.cons := by
      simp only [BitVec.sub_zero]
      exact modify_id s.cons r
    simp only [List.foldl_nil, List.length_nil, List.drop_zero, List.map_nil, emit, modifyCon, List.append_nil, hsame]
  | cons nr queue ih =>
    rw [List.foldl_cons, ih]
    simp only [sendFirst, emit, modifyCon, modify_modify, List.map_cons, List.append_assoc,
      List.singleton_append, List.length_cons, List.drop_tail]
    have hsize : ∀ size : BitVec 32, size - 1 - BitVec.ofNat 32 queue.length =
        size - BitVec.ofNat 32 (queue.length + 1) := by
      intro size
      rw [BitVec.ofNat_add]
      bv_omega
    simp only [hsize]

section

variable (h : Paired s)

include h

theorem setConnectionState_moves (hsccp : s.sccps.get? k = some sccp) (state : SccpConnectionState) :
    ∃ s', s.setConnectionState k state = some s' ∧ ReflTransGen Move s s' := by
  obtain ⟨r, con, hctx, hr, hk⟩ := h.ownerOf k sccp hsccp
  have hsccp₀ : (s.setState k state).sccps.get? k = some { sccp with connectionState := state } :=
    get?_modify_self hsccp
  have hset : s.setConnectionState k state = (s.setState k state).mscOutgoingSccpState k := rfl
  rw [hset]
  by_cases hclosing : SccpConnectionState.releaseComplete.toNat ≤ state.toNat
  · have hnot : state ≠ .established := by
      rintro rfl
      exact absurd hclosing (by decide)
    obtain ⟨s₁, hclear, hmoves, hsccps, hcons⟩ := clearConn_moves (h.setState k state) (r := r) hr
    have hr₁ : s₁.cons.get? r = some { con with conn := none } := by
      rw [hcons]
      exact get?_modify_self hr
    have hcause : (DropCause.closing state).Allowed := Nat.lt_of_lt_of_le (by decide) hclosing
    refine ⟨s₁.ended r k { con with conn := none } (.closing state), ?_,
      (head (.setState hsccp state hnot) hmoves).tail (.ended hr₁ hk rfl _ hcause)⟩
    simp only [mscOutgoingSccpState, hsccp₀, bind_eq_bind, bind_some, if_pos hclosing, hctx, hclear]
    exact end_eq hr₁ (by rw [hsccps]; exact hsccp₀) _ (fun con => { con with sccp := none }) fun _ => rfl
  by_cases hest : state = .established
  · subst hest
    have htouch : Touches fun con => { con with sccpCcTimeout := false, sccpItTimeout := true } :=
      fun _ => ⟨rfl, rfl, rfl⟩
    have hr₁ := get?_modifyCon (f := fun con => { con with sccpCcTimeout := false, sccpItTimeout := true }) hr
    refine ⟨_, ?_, (single (.touch r _ htouch)).tail (.drain hr₁ hk)⟩
    have hr₀ : (s.setState k .established).cons.get? r = some con := hr
    simp only [mscOutgoingSccpState, hsccp₀, bind_eq_bind, bind_some, if_neg hclosing, if_true, hctx, hr₀]
    show sendQueued _ r = _
    have hget : ((((s.setState k .established).modifyCon r fun con =>
        { con with sccpCcTimeout := false, sccpItTimeout := true }).emit [.established r]).cons.get? r) =
          some { con with sccpCcTimeout := false, sccpItTimeout := true } := hr₁
    have hsccp₂ : (((s.setState k .established).modifyCon r fun con =>
        { con with sccpCcTimeout := false, sccpItTimeout := true }).emit [.established r]).sccps.get? k =
          some { sccp with connectionState := .established } := hsccp₀
    simp only [sendQueued, hget, hk, hsccp₂, bind_eq_bind, bind_some, foldl_sendFirst]
    unfold drained
    refine congrArg (fun cons : Pool OsmoBscSccpCon => some (emit { (_ : Bsc) with cons := cons } _)) ?_
    refine modify_congr hget ?_
    simp only [List.drop_length]
  · refine ⟨s.setState k state, ?_, .single (.setState hsccp state hest)⟩
    simp only [mscOutgoingSccpState, hsccp₀, bind_eq_bind, bind_some, if_neg hclosing, if_neg hest]

section

variable (hr : s.cons.get? r = some con)

include hr

/-- A message for a record that is there. -/
theorem queueMsgOrReturn_moves (resp : Bool) :
    ∃ s', s.queueMsgOrReturn r resp = some s' ∧ ReflTransGen Move s s' ∧ s'.conns = s.conns := by
  cases resp with
  | false => exact ⟨s, rfl, .refl, rfl⟩
  | true =>
    obtain ⟨k, sccp, hk, hsccp, -⟩ := h.sccpOf r con hr
    obtain ⟨s', hs'⟩ : ∃ s', ({ s with nextMsgb := s.nextMsgb + 1 } : Bsc).bscQueueForMsc r s.nextMsgb = some s' :=
      bscQueueForMsc_isSome s.nextMsgb (s := { s with nextMsgb := s.nextMsgb + 1 }) hr hk hsccp
    refine ⟨s', hs', .single (.submit hs'), ?_⟩
    obtain ⟨_, _, _, -, -, -, ⟨_, -, -, rfl⟩ | ⟨-, -, rfl⟩ | ⟨-, -, rfl⟩⟩ := bscQueueForMsc_cases hs' <;> rfl

theorem clearCommand_moves (resp : Bool) :
    ∃ s', s.bssmapHandleClearCommand r resp = some s' ∧ ReflTransGen Move s s' := by
  obtain ⟨s₁, hclear, hmoves, -, hcons⟩ := clearConn_moves h hr
  have hr₁ : s₁.cons.get? r = some { con with conn := none } := by
    rw [hcons]
    exact get?_modify_self hr
  obtain ⟨s', hs', hqueue, -⟩ := queueMsgOrReturn_moves (h.moves hmoves) hr₁ resp
  refine ⟨s', ?_, hmoves.trans hqueue⟩
  simp only [bssmapHandleClearCommand, hclear, bind_eq_bind, bind_some, hs']

theorem cipherMode_moves (selected resp : Bool) :
    ∃ s', s.bssmapHandleCipherMode r selected resp = some s' ∧ ReflTransGen Move s s' := by
  obtain ⟨s', hs', hqueue, -⟩ := queueMsgOrReturn_moves h hr resp
  cases hconn : con.conn with
  | none =>
    refine ⟨s', ?_, hqueue⟩
    simp only [bssmapHandleCipherMode, hr, hconn, bind_eq_bind, bind_some, hs']
  | some c =>
    obtain ⟨conn, hc, -⟩ := h.connOf r con c hr hconn
    by_cases hhandled : con.cipheringHandled = true
    · refine ⟨s', ?_, hqueue⟩
      simp only [bssmapHandleCipherMode, hr, hconn, bind_eq_bind, bind_some, if_pos hhandled, hs']
    · have htouch : Move s (s.modifyCon r fun con => { con with cipheringHandled := true }) :=
        .touch r _ fun _ => ⟨rfl, rfl, rfl⟩
      have hc₁ : (s.modifyCon r fun con => { con with cipheringHandled := true }).conns.get? c = some conn := hc
      have hunfold : s.bssmapHandleCipherMode r selected resp =
          if selected then some (s.modifyCon r fun con => { con with cipheringHandled := true })
          else (s.modifyCon r fun con => { con with cipheringHandled := true }).queueMsgOrReturn r resp := by
        simp only [bssmapHandleCipherMode, hr, hconn, bind_eq_bind, bind_some, if_neg hhandled, hc₁]
      rw [hunfold]
      split_ifs
      · exact ⟨_, rfl, .single htouch⟩
      · obtain ⟨s'', hs'', hqueue', -⟩ := queueMsgOrReturn_moves (h.move htouch) (get?_modifyCon hr) resp
        exact ⟨s'', hs'', .head htouch hqueue'⟩

theorem assignmReq_moves (served resp : Bool) :
    ∃ s', s.bssmapHandleAssignmReq r served resp = some s' ∧ ReflTransGen Move s s' := by
  cases hconn : con.conn with
  | none =>
    refine ⟨s, ?_, .refl⟩
    simp only [bssmapHandleAssignmReq, hr, hconn, bind_eq_bind, bind_some]
  | some c =>
    obtain ⟨conn, hc, -⟩ := h.connOf r con c hr hconn
    have hunfold : s.bssmapHandleAssignmReq r served resp =
        if served then some s else s.queueMsgOrReturn r resp := by
      simp only [bssmapHandleAssignmReq, hr, hconn, bind_eq_bind, bind_some, hc]
    rw [hunfold]
    split_ifs
    · exact ⟨s, rfl, .refl⟩
    · obtain ⟨s', hs', hqueue, -⟩ := queueMsgOrReturn_moves h hr resp
      exact ⟨s', hs', hqueue⟩

/-- A record points to a subscriber connection only while that points back, so the welcome message finds its record. -/
theorem dtapRcvmsg_isSome (locUpdAccept : Bool) :
    s.dtapRcvmsg r locUpdAccept = some s := by
  cases hconn : con.conn with
  | none => simp only [dtapRcvmsg, hr, hconn, bind_eq_bind, bind_some]
  | some c =>
    obtain ⟨conn, hc, hback⟩ := h.connOf r con c hr hconn
    simp only [dtapRcvmsg, hr, hconn, hc, hback, bind_eq_bind, bind_some, ite_self]

theorem handleDt1_moves (msg : Dt1) :
    ∃ s', s.bscHandleDt1 r msg = some s' ∧ ReflTransGen Move s s' := by
  cases msg with
  | clearCmd resp => exact clearCommand_moves h hr resp
  | cipherModeCmd selected resp => exact cipherMode_moves h hr selected resp
  | assignmentRqst served resp => exact assignmReq_moves h hr served resp
  | dtap locUpdAccept => exact ⟨s, dtapRcvmsg_isSome h hr locUpdAccept, .refl⟩
  | other => exact ⟨s, rfl, .refl⟩

end

end

theorem scanBtsMsg_eq (hc : s.conns.get? c = some conn) (hback : conn.sccpCon = some r)
    (hr : s.cons.get? r = some con) (locUpdRequest : Bool) :
    ∃ f, Touches f ∧ s.bscScanBtsMsg c locUpdRequest = some (s.modifyCon r f) := by
  cases locUpdRequest with
  | false =>
    refine ⟨fun con => con, fun _ => ⟨rfl, rfl, rfl⟩, ?_⟩
    simp only [bscScanBtsMsg, hc, bind_eq_bind, bind_some, Bool.false_eq_true, if_false, modifyCon, modify_id]
  | true =>
    refine ⟨fun con => { con with newSubscriber := true }, fun _ => ⟨rfl, rfl, rfl⟩, ?_⟩
    simp only [bscScanBtsMsg, hc, hback, hr, bind_eq_bind, bind_some, if_true]

theorem apiMsg_moves (h : Paired s) (hc : s.conns.get? c = some conn) (locUpdRequest resp : Bool) :
    ∃ s', s.bscApiMsg c locUpdRequest resp = some s' ∧ ReflTransGen Move s s' := by
  cases hback : conn.sccpCon with
  | none =>
    refine ⟨s, ?_, .refl⟩
    simp only [bscApiMsg, hc, hback, bind_eq_bind, bind_some]
  | some r =>
    obtain ⟨con, hr, -⟩ := h.conOf c conn r hc hback
    obtain ⟨f, hf, hscan⟩ := scanBtsMsg_eq hc hback hr locUpdRequest
    have htouch : Move s (s.modifyCon r f) := .touch r f hf
    obtain ⟨s', hs', hqueue, -⟩ := queueMsgOrReturn_moves (h.move htouch) (get?_modifyCon hr) resp
    refine ⟨s', ?_, .head htouch hqueue⟩
    simp only [bscApiMsg, hc, hback, hscan, hs', bind_eq_bind, bind_some]

/-- `bsc_clear_request`: the subscriber connection has no record afterwards. -/
theorem clearRequest_moves (h : Paired s) (hc : s.conns.get? c = some conn) (resp : Bool) :
    ∃ s', s.bscClearRequest c resp = some s' ∧ ReflTransGen Move s s' ∧
      s'.conns.get? c = some { conn with sccpCon := none } := by
  cases hback : conn.sccpCon with
  | none =>
    refine ⟨s, ?_, .refl, by rw [hc, ← hback]⟩
    simp only [bscClearRequest, hc, hback, bind_eq_bind, bind_some]
  | some r =>
    obtain ⟨con, hr, hconn⟩ := h.conOf c conn r hc hback
    have hunlink : Move s (s.unlink r c) := .unlink hr hconn
    have hr₁ : (s.unlink r c).cons.get? r = some { con with conn := none } := get?_modifyCon hr
    obtain ⟨s', hs', hqueue, hconns⟩ := queueMsgOrReturn_moves (h.move hunlink) hr₁ resp
    refine ⟨s', ?_, .head hunlink hqueue, ?_⟩
    · simp only [bscClearRequest, hc, hback, hr, bind_eq_bind, bind_some]
      exact hs'
    · rw [hconns]
      exact get?_modify_self hc

theorem handleRelease_moves (h : Paired s) (hl : s.lchanConn l = some c) (resp : Bool) :
    ∃ s', s.handleRelease c l resp = some s' ∧ ReflTransGen Move s s' := by
  obtain ⟨conn, hc, hlchan⟩ := h.lchanOf l c hl
  obtain ⟨s₁, hreq, hmoves, hc₁⟩ := clearRequest_moves h hc resp
  refine ⟨_, ?_, hmoves.tail (.endConn hc₁ rfl)⟩
  have hc₂ :
      ((s₁.modifyConn c fun conn => if conn.lchan = some l then { conn with lchan := none } else conn).lchanRelease
      l).conns.get? c = some { conn with sccpCon := none, lchan := none } := by
    refine (get?_modify_self hc₁).trans ?_
    rw [if_pos hlchan]
  have hend := clear_free hc₂
  simp only [handleRelease, hreq, hc₁, bind_eq_bind, bind_some]
  refine hend.trans (congrArg some ?_)
  simp only [endConn, modifyConn, lchanRelease, dropLchan, remove_modify, hlchan]

theorem openConnection_moves (h : Paired s) (hr : s.cons.get? r = some con) (connect : Option SccpConnectionState) :
    ∃ s', s.bscOpenConnection r connect = some s' ∧ ReflTransGen Move s s' := by
  obtain ⟨k, sccp, hk, hsccp, -⟩ := h.sccpOf r con hr
  have htouch : Move s (s.modifyCon r fun con => { con with sccpCcTimeout := true }) :=
    .touch r _ fun _ => ⟨rfl, rfl, rfl⟩
  have hsccp₁ : (s.modifyCon r fun con => { con with sccpCcTimeout := true }).sccps.get? k = some sccp := hsccp
  cases connect with
  | none =>
    refine ⟨_, ?_, .single htouch⟩
    simp only [bscOpenConnection, hr, hk, hsccp₁, bind_eq_bind, bind_some]
  | some state =>
    obtain ⟨s', hs', hmoves⟩ := setConnectionState_moves (h.move htouch) hsccp₁ state
    refine ⟨s', ?_, .head htouch hmoves⟩
    simp only [bscOpenConnection, hr, hk, hsccp₁, hs', bind_eq_bind, bind_some]

theorem createNewConnection_cases (hc : s.conns.get? c = some conn) (given : ComplL3) :
    s.bscCreateNewConnection c given = some (s.join c, true) ∨
      ∃ s', s.bscCreateNewConnection c given = some (s', false) ∧ ReflTransGen Move s s' ∧
        s'.conns = s.conns ∧ s'.lchanConn = s.lchanConn := by
  have hnew : (s.sccps.alloc { dataCtx := none }).get? s.sccps.next = some { dataCtx := none } := by
    rw [get?_alloc, if_pos rfl]
  simp only [bscCreateNewConnection, hc, bind_eq_bind, bind_some]
  split_ifs
  · refine .inl ?_
    simp only [modify_alloc]
    rfl
  · refine .inr ⟨_, ?_, .single .spare, rfl, rfl⟩
    simp only [sccpConnectionFree, hnew, map_some]
  · exact .inr ⟨s, rfl, .refl, rfl, rfl⟩

/-- `bsc_compl_l3`, for a new subscriber connection. When it is not accepted, its caller frees it, and nothing is left
    of what was made for it. -/
theorem complL3_moves (h : Paired s) (hc : s.conns.get? c = some conn) (hnone : conn.sccpCon = none)
    (given : ComplL3) :
    (∃ s', s.bscComplL3 c given = some (s', true) ∧ ReflTransGen Move s s') ∨
      ∃ s' conn', s.bscComplL3 c given = some (s', false) ∧ s'.lchanConn = s.lchanConn ∧
        s'.conns.get? c = some conn' ∧ conn'.lchan = conn.lchan ∧
        ReflTransGen Move s (s'.endConn c conn') := by
  obtain hcreate | ⟨s', hcreate, hmoves, hconns, hlchan⟩ := createNewConnection_cases hc given
  · have hjoin : Move s (s.join c) := .join hc hnone
    have hc₁ : (s.join c).conns.get? c = some { conn with sccpCon := some s.cons.next } := get?_modify_self hc
    have hr₁ : (s.join c).cons.get? s.cons.next = some { sccp := some s.sccps.next, conn := some c } := by
      show (s.cons.alloc _).get? s.cons.next = _
      rw [get?_alloc, if_pos rfl]
    obtain ⟨f, hf, hscan⟩ := scanBtsMsg_eq hc₁ rfl hr₁ given.locUpdRequest
    have htouch : Move (s.join c) ((s.join c).modifyCon s.cons.next f) := .touch _ f hf
    have hc₂ : ((s.join c).modifyCon s.cons.next f).conns.get? c = some { conn with sccpCon := some s.cons.next } := hc₁
    have hr₂ := get?_modifyCon (f := f) hr₁
    have hpaired := (h.move hjoin).move htouch
    by_cases hresp : given.resp = true
    · obtain ⟨s', hs', hopen⟩ := openConnection_moves hpaired hr₂ given.connect
      refine .inl ⟨s', ?_, .head hjoin (.head htouch hopen)⟩
      simp only [bscComplL3, hcreate, hscan, hc₂, hs', if_pos hresp, if_true, bind_eq_bind, bind_some]
    · -- the subscriber connection still points to the record that is freed
      have hsccp₂ : ((s.join c).modifyCon s.cons.next f).sccps.get? s.sccps.next =
          some { dataCtx := some s.cons.next } := by
        show (s.sccps.alloc _).get? s.sccps.next = _
        rw [get?_alloc, if_pos rfl]
      obtain ⟨hlinks, hqueue, -⟩ := hf { sccp := some s.sccps.next, conn := some c }
      have hk : (f { sccp := some s.sccps.next, conn := some c }).sccp = some s.sccps.next := congrArg Prod.fst hlinks
      have hconn : (f { sccp := some s.sccps.next, conn := some c }).conn = some c := congrArg Prod.snd hlinks
      refine .inr ⟨{ (s.join c).modifyCon s.cons.next f with
        sccps := (s.join c).sccps.remove s.sccps.next, cons := (s.join c).cons.remove s.cons.next }, _, ?_, rfl, hc₂,
        rfl, ?_⟩
      · simp only [bscComplL3, hcreate, hscan, hc₂, hr₂, hk, hsccp₂, if_neg hresp, if_true, bind_eq_bind,
          bind_some, sccpConnectionFree, bscDeleteConnection, map_some]
        simp only [modifyCon, remove_modify]
      · have hunlink : Move _ (((s.join c).modifyCon s.cons.next f).unlink s.cons.next c) := .unlink hr₂ hconn
        have hr₃ : (((s.join c).modifyCon s.cons.next f).unlink s.cons.next c).cons.get? s.cons.next =
            some { f { sccp := some s.sccps.next, conn := some c } with conn := none } := get?_modifyCon hr₂
        have hended := Move.ended hr₃ hk rfl .forceFree trivial
        have hc₃ : (((s.join c).modifyCon s.cons.next f).unlink s.cons.next c).conns.get? c =
            some { conn with sccpCon := none } := by
          have hmodify := get?_modify_self (f := fun conn : GsmSubscriberConnection =>
            { conn with sccpCon := none }) hc₂
          exact hmodify
        have hc₄ : ((((s.join c).modifyCon s.cons.next f).unlink s.cons.next c).ended s.cons.next s.sccps.next
            { f { sccp := some s.sccps.next, conn := some c } with conn := none } .forceFree).conns.get? c =
              some { conn with sccpCon := none } := hc₃
        have hlast := Move.endConn hc₄ rfl
        have hmoves := (((single hjoin).tail htouch).tail hunlink).tail hended
        have hsame := hmoves.tail hlast
        convert hsame using 1
        simp only [endConn, ended, unlink, modifyConn, modifyCon, remove_modify, hqueue, List.map_nil, List.append_nil]
        cases conn.lchan <;> rfl
  · refine .inr ⟨s', conn, ?_, hlchan, by rw [hconns, hc], rfl, hmoves.tail (.endConn (by rw [hconns, hc]) hnone)⟩
    simp only [bscComplL3, hcreate, bind_eq_bind, bind_some, Bool.false_eq_true, if_false]

theorem rcvmsg_moves (h : Paired s) (l : Nat) (given : ComplL3) :
    ∃ s', s.gsm0408Rcvmsg l given = some s' ∧ ReflTransGen Move s s' := by
  unfold gsm0408Rcvmsg
  cases hl : s.lchanConn l with
  | some c =>
    obtain ⟨conn, hc, -⟩ := h.lchanOf l c hl
    exact apiMsg_moves h hc given.locUpdRequest given.resp
  | none =>
    have henter : Move s (s.enter l) := .enter l
    have hc : (s.enter l).conns.get? s.conns.next = some { lchan := some l } := by
      show (s.conns.alloc _).get? s.conns.next = _
      rw [get?_alloc, if_pos rfl]
    have hlchan : (s.enter l).lchanConn l = some s.conns.next := Function.update_self l _ _
    have hstart : ({ s with
        conns := s.conns.alloc { lchan := some l }
        lchanConn := Function.update s.lchanConn l (some s.conns.next) } : Bsc) = s.enter l := rfl
    dsimp only
    rw [hstart]
    obtain ⟨s', hs', hmoves⟩ | ⟨s', conn, hs', hsame, hc', hconn, hmoves⟩ :=
      complL3_moves (h.move henter) hc rfl given
    · refine ⟨s', ?_, .head henter hmoves⟩
      simp only [hs', bind_eq_bind, bind_some, if_true]
    · refine ⟨_, ?_, .head henter hmoves⟩
      have hget : (s'.modifyConn s.conns.next fun conn => { conn with lchan := none }).conns.get? s.conns.next =
          some { conn with lchan := none } := get?_modify_self hc'
      rw [hsame.symm] at hlchan
      simp only [hs', hlchan, hc', bind_eq_bind, bind_some, Bool.false_eq_true, if_false, subscrConFree, hget, map_some]
      simp only [dropLchan, modifyConn, lchanRelease, endConn, remove_modify, hconn]

/-- A loop over records that are there. -/
theorem foldlM_forceFree (rs : List Nat) (hnodup : rs.Nodup) (h : Paired s)
    (hrs : ∀ r ∈ rs, ∃ con, s.cons.get? r = some con) :
    ∃ s', rs.foldlM bscSccpForceFree s = some s' ∧ ReflTransGen Move s s' := by
  induction rs generalizing s with
  | nil => exact ⟨s, rfl, .refl⟩
  | cons r rs ih =>
    obtain ⟨hnot, hrest⟩ := List.nodup_cons.mp hnodup
    obtain ⟨con, hr⟩ := hrs r List.mem_cons_self
    obtain ⟨s₁, hfree, hmoves, hcons⟩ := forceFree_moves h hr
    have hrs₁ : ∀ q ∈ rs, ∃ con, s₁.cons.get? q = some con := by
      intro q hq
      have hqr : q ≠ r := by
        rintro rfl
        exact hnot hq
      rw [hcons, get?_remove, if_neg hqr]
      exact hrs q (List.mem_cons_of_mem _ hq)
    obtain ⟨s', hs', hmoves'⟩ := ih hrest (h.moves hmoves) hrs₁
    refine ⟨s', ?_, hmoves.trans hmoves'⟩
    rw [List.foldlM_cons, hfree]
    exact hs'

/-! ## Runs -/

theorem step_moves (h : Paired s) (ev : BscEvent) : ∃ s', s.step ev = some s' ∧ ReflTransGen Move s s' := by
  cases ev with
  | layer3 l given => exact rcvmsg_moves h l given
  | report l resp =>
    simp only [step]
    cases hl : s.lchanConn l with
    | none => exact ⟨s, rfl, .refl⟩
    | some c =>
      obtain ⟨conn, hc, -⟩ := h.lchanOf l c hl
      exact apiMsg_moves h hc false resp
  | radioFailure l resp =>
    simp only [step]
    cases hl : s.lchanConn l with
    | none => exact ⟨s, rfl, .refl⟩
    | some c => exact handleRelease_moves h hl resp
  | dt1 k msg =>
    simp only [step]
    cases hk : s.sccps.get? k with
    | none => exact ⟨s, rfl, .refl⟩
    | some sccp =>
      obtain ⟨r, con, hctx, hr, -⟩ := h.ownerOf k sccp hk
      simp only [hctx, bind_some]
      exact handleDt1_moves h hr msg
  | sccpState k state =>
    simp only [step]
    split_ifs with hsome
    · obtain ⟨sccp, hsccp⟩ := isSome_iff_exists.mp hsome
      exact setConnectionState_moves h hsccp state
    · exact ⟨s, rfl, .refl⟩
  | ccTimeout r =>
    simp only [step]
    split_ifs with hany
    · obtain ⟨con, hr, -⟩ := (any_eq_true _ _).mp hany
      have htouch : Move s (s.modifyCon r fun con => { con with sccpCcTimeout := false }) :=
        .touch r _ fun _ => ⟨rfl, rfl, rfl⟩
      obtain ⟨k, sccp, hk, hsccp, -⟩ := h.sccpOf r con hr
      have hr₁ := get?_modifyCon (f := fun con => { con with sccpCcTimeout := false }) hr
      have hsccp₁ : (s.modifyCon r fun con => { con with sccpCcTimeout := false }).sccps.get? k = some sccp := hsccp
      obtain ⟨s', hs', hmoves, -⟩ := forceFree_moves (h.move htouch) hr₁
      simp only [sccpCcTimeout, hr₁, hk, hsccp₁, bind_eq_bind, bind_some]
      split_ifs
      · exact ⟨_, rfl, .single htouch⟩
      · exact ⟨s', hs', .head htouch hmoves⟩
    · exact ⟨s, rfl, .refl⟩
  | itTimeout r =>
    simp only [step]
    split_ifs with hany
    · obtain ⟨con, hr, -⟩ := (any_eq_true _ _).mp hany
      obtain ⟨k, sccp, hk, hsccp, -⟩ := h.sccpOf r con hr
      have hr₁ := get?_modifyCon (f := fun con => { con with sccpItTimeout := false }) hr
      have hsccp₁ : (s.modifyCon r fun con => { con with sccpItTimeout := false }).sccps.get? k = some sccp := hsccp
      refine ⟨_, ?_, (single (.touch r (fun con => { con with sccpItTimeout := false })
        fun _ => ⟨rfl, rfl, rfl⟩)).tail (.touch r (fun con => { con with sccpItTimeout := true })
        fun _ => ⟨rfl, rfl, rfl⟩)⟩
      simp only [sccpItTimeout, hr₁, hk, hsccp₁, bind_eq_bind, bind_some]
    · exact ⟨s, rfl, .refl⟩
  | mscLost =>
    refine foldlM_forceFree _ ?_ h fun r hr => mem_ids.mp (List.mem_reverse.mp hr)
    exact List.nodup_reverse.mpr (s.cons.sorted.imp fun h => Nat.ne_of_lt h)

theorem paired_start : Paired {} where
  conOf _ _ _ h := by cases h
  connOf _ _ _ h := by cases h
  sccpOf _ _ h := by cases h
  ownerOf _ _ h := by cases h
  lchanOf _ _ h := by cases h

theorem paired_of_reachable (h : Reachable bscSystem s) : Paired s := by
  refine h.invariant ?_ ?_
  · rintro s rfl
    exact paired_start
  · intro s ev s' hs _ hstep
    obtain ⟨s'', hs'', hmoves⟩ := step_moves hs ev
    change s.step ev = some s' at hstep
    rw [hs''] at hstep
    cases hstep
    exact hs.moves hmoves

/-- **Connections are paired.** In every state that is reached, subscriber connections and records refer to each other,
    every record owns an SCCP connection whose callbacks carry it, and no event frees or follows a pointer to what is
    gone. -/
theorem connections_paired (h : Reachable bscSystem s) : Paired s ∧ ∀ ev, ∃ s', s.step ev = some s' :=
  have hpaired := paired_of_reachable h
  ⟨hpaired, fun ev => (step_moves hpaired ev).imp fun _ hs' => hs'.1⟩

/-- A mobile station talks to the MSC, which clears the connection. -/
def clearedEvents : List BscEvent :=
  [.layer3 0 {}, .layer3 0 {}, .sccpState 0 .established, .dt1 0 (.clearCmd true)]

theorem reachable_events {events : List BscEvent} (h : s ∈ guardedRun step (fun _ _ => True) {} events) :
    Reachable bscSystem s := by
  have hinit : Reachable bscSystem {} := .init rfl
  exact hinit.guardedRun (fun _ _ _ hstep => hstep) h

theorem connections_paired_cleared :
    ∃ s : Bsc, s.cons.ids = [0] ∧ s.conns.ids = [] ∧ Paired s ∧ ∀ ev, ∃ s', s.step ev = some s' := by
  obtain ⟨s, hs, hcons, hconns⟩ : ∃ s ∈ guardedRun step (fun _ _ => True) {} clearedEvents,
      s.cons.ids = [0] ∧ s.conns.ids = [] := by decide +kernel
  exact ⟨s, hcons, hconns, connections_paired (reachable_events hs)⟩

end OpenBsc.OsmoBsc
