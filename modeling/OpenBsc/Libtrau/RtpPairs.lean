import OpenBsc.Libtrau.RtpProxy

/-!
# `Libtrau.RtpPairs` — whom a socket in proxy mode hands its packets to

Binding two sockets is `link` on the pairs, switching one upstream is `drop`, freeing one is `part`; the laws of
`Lib.Pairing` say when the pairs stay mutual. What a socket has in the storage its mode does not read is kept apart
(`SocketOk`): only a socket that was bound to itself keeps a reference after it left proxy mode.
-/

namespace OpenBsc.Libtrau

open Transition Pairing RtpNet RtpSocket Option List

variable {net net' : RtpNet} {id : Nat}

/-- The socket that a socket hands its packets to. -/
def peerOf (net : RtpNet) (id : Nat) : Option Nat := (net.sockets id).bind RtpSocket.peer

variable {rs : RtpSocket}

theorem peer_eq_some {p : Nat} : rs.peer = some p ↔ rs.rxAction = .proxy ∧ rs.word = .sock p := by
  unfold peer
  split
  case h_1 q haction hword => simp [haction, hword]
  case h_2 hother =>
    constructor
    · intro h
      cases h
    · rintro ⟨haction, hword⟩
      exact absurd hword (hother p haction)

theorem peerOf_eq_some {p : Nat} :
    peerOf net id = some p ↔ ∃ rs, net.sockets id = some rs ∧ rs.rxAction = .proxy ∧ rs.word = .sock p := by
  unfold peerOf
  rw [bind_eq_some_iff]
  simp only [peer_eq_some]

theorem live_of_peerOf {p : Nat} (h : peerOf net id = some p) : net.Live id := by
  obtain ⟨rs, hrs, -⟩ := peerOf_eq_some.mp h
  rw [RtpNet.Live, hrs]
  rfl

theorem sockets_put (net : RtpNet) (id : Nat) (rs : Option RtpSocket) (k : Nat) :
    (net.put id rs).sockets k = if k = id then rs else net.sockets k := rfl

theorem peerOf_put (net : RtpNet) (id : Nat) (rs : Option RtpSocket) (k : Nat) :
    peerOf (net.put id rs) k = if k = id then rs.bind peer else peerOf net k := by
  unfold peerOf
  rw [sockets_put]
  split_ifs <;> rfl

theorem peerOf_put_same (h : rs.peer = peerOf net id) : peerOf (net.put id (some rs)) = peerOf net := by
  funext k
  rw [peerOf_put]
  split_ifs with hk
  · rw [hk]
    exact h
  · rfl

theorem modify_eq_some {f : RtpSocket → RtpSocket} :
    net.modify id f = some net' ↔ ∃ rs, net.sockets id = some rs ∧ net.put id (some (f rs)) = net' :=
  map_eq_some_iff

theorem peerOf_of_sockets (h : net.sockets id = some rs) : peerOf net id = rs.peer := by
  unfold peerOf
  rw [h]
  rfl

/-! ## What each function does to the pairs -/

variable {this : Nat}

theorem sockets_rtpSocketProxy {other : Nat} (h : net.rtpSocketProxy this other = some net') :
    ∃ a b : RtpSocket, net' = (net.put this (some { a with rxAction := .proxy, word := .sock other })).put other
      (some { b with rxAction := .proxy, word := .sock this }) := by
  obtain ⟨mid, hmid, hnet⟩ := bind_eq_some_iff.mp h
  obtain ⟨a, -, rfl⟩ := modify_eq_some.mp hmid
  obtain ⟨b, -, rfl⟩ := modify_eq_some.mp hnet
  exact ⟨a, b, rfl⟩

theorem peerOf_rtpSocketProxy {other : Nat} (h : net.rtpSocketProxy this other = some net') :
    peerOf net' = link (peerOf net) this other := by
  obtain ⟨a, b, rfl⟩ := sockets_rtpSocketProxy h
  funext k
  rw [peerOf_put, peerOf_put]
  rfl

theorem peerOf_rtpSocketUpstream {n : Option Nat} {callref : BitVec 32}
    (h : net.rtpSocketUpstream this n callref = some net') : peerOf net' = drop (peerOf net) this := by
  obtain ⟨rs, -, rfl⟩ := modify_eq_some.mp h
  funext k
  rw [peerOf_put]
  refine if_congr Iff.rfl ?_ rfl
  by_cases hcallref : callref ≠ 0
  · rw [if_pos hcallref]
    rfl
  · rw [if_neg hcallref]
    rfl

theorem sockets_rtpSocketFree (h : net.rtpSocketFree id = some net') :
    (peerOf net id = none ∧ net' = net.put id none) ∨
    ∃ p other, peerOf net id = some p ∧ net.sockets p = some other ∧
      net' = (net.put p (some { other with word := .null })).put id none := by
  unfold rtpSocketFree at h
  obtain ⟨rs, hrs, h⟩ := bind_eq_some_iff.mp h
  rw [peerOf_of_sockets hrs]
  cases hpeer : rs.peer with
  | none =>
    rw [hpeer] at h
    exact .inl ⟨rfl, (some.inj h).symm⟩
  | some p =>
    rw [hpeer] at h
    obtain ⟨mid, hmid, h⟩ := bind_eq_some_iff.mp h
    obtain ⟨other, hother, rfl⟩ := modify_eq_some.mp hmid
    exact .inr ⟨p, other, rfl, hother, (some.inj h).symm⟩

theorem peerOf_rtpSocketFree (h : net.rtpSocketFree id = some net') : peerOf net' = part (peerOf net) id := by
  funext k
  unfold part
  obtain ⟨hnone, rfl⟩ | ⟨p, other, hpeer, -, rfl⟩ := sockets_rtpSocketFree h
  · rw [peerOf_put, hnone]
    simp
  · rw [peerOf_put, peerOf_put, hpeer]
    have hnull : peer { other with word := .null } = none := by simp [peer]
    by_cases hid : k = id
    · rw [if_pos hid, if_pos (.inl hid)]
      rfl
    rw [if_neg hid]
    by_cases hp : k = p
    · rw [if_pos hp, if_pos (.inr (by rw [hp])), bind_some, hnull]
    · rw [if_neg hp, if_neg]
      rintro (h | h)
      · exact hid h
      · exact hp (some.inj h).symm

theorem peer_modifySub (rs : RtpSocket) (priv : RtpBfdPriv) (f : RtpSubSocket → RtpSubSocket) :
    (rs.modifySub priv f).peer = rs.peer := by
  cases priv with
  | rtp => rfl
  | rtcp => rfl

variable {priv : RtpBfdPriv}

/-- What reading does: nothing to the sockets, or it changes one of the two descriptors of one of them. -/
theorem sockets_rtpSocketRead {packet : Option (List Octet)} (h : net.rtpSocketRead id priv packet = some net') :
    net'.sockets = net.sockets ∨
    (∃ rs, net.sockets id = some rs ∧
      net' = net.put id (some (rs.modifySub priv fun rss => { rss with whenRead := false }))) ∨
    ∃ msg q other, packet = some msg ∧ peerOf net id = some q ∧ net.sockets q = some other ∧
      net' = net.put q (some (other.modifySub priv fun rss =>
        { rss with txQueue := rss.txQueue ++ [msg], whenWrite := true })) := by
  unfold rtpSocketRead at h
  obtain ⟨rs, hrs, h⟩ := bind_eq_some_iff.mp h
  cases packet with
  | none =>
    obtain ⟨rs', hrs', rfl⟩ := modify_eq_some.mp h
    exact .inr (.inl ⟨rs', hrs', rfl⟩)
  | some msg =>
    dsimp only at h
    cases haction : rs.rxAction with
    | none =>
      rw [haction] at h
      exact .inl (by rw [some.inj h])
    | proxy =>
      rw [haction] at h
      dsimp only at h
      cases hword : rs.word with
      | null =>
        rw [hword] at h
        exact .inl (by rw [some.inj h])
      | net n =>
        rw [hword] at h
        cases h
      | sock q =>
        rw [hword] at h
        obtain ⟨other, hother, rfl⟩ := modify_eq_some.mp h
        exact .inr (.inr ⟨msg, q, other, rfl, peerOf_eq_some.mpr ⟨rs, hrs, haction, hword⟩, hother, rfl⟩)
    | recvUpstream =>
      rw [haction] at h
      dsimp only at h
      refine .inl ?_
      split at h
      · split at h
        · rw [← some.inj h]
        · rw [some.inj h]
      · cases h
      · rw [some.inj h]

/-! ## The storage that is not read -/

/-- What the shared storage of the socket `id` may hold in its mode. -/
def SocketOk (id : Nat) (rs : RtpSocket) : Prop :=
  (∀ n, rs.word = .net n → rs.rxAction ≠ .proxy) ∧
  ∀ p, rs.word = .sock p → rs.rxAction = .proxy ∨ rs.rxAction = .none ∧ p = id

/-- The pairs are mutual, and no storage holds what its mode would misread. -/
structure PairInv (net : RtpNet) : Prop where
  pairs : Mutual (peerOf net)
  ok : ∀ id rs, net.sockets id = some rs → SocketOk id rs

theorem SocketOk.proxy (id p : Nat) (rs : RtpSocket) :
    SocketOk id { rs with rxAction := .proxy, word := .sock p } :=
  ⟨fun n hn => (by cases hn), fun q _ => .inl rfl⟩

theorem SocketOk.null (id : Nat) (rs : RtpSocket) : SocketOk id { rs with word := .null } :=
  ⟨fun n hn => (by cases hn), fun q hq => (by cases hq)⟩

theorem SocketOk.modifySub (h : SocketOk id rs) (priv : RtpBfdPriv) (f : RtpSubSocket → RtpSubSocket) :
    SocketOk id (rs.modifySub priv f) := by
  cases priv with
  | rtp | rtcp => exact h

theorem ok_put (h : ∀ k rs, net.sockets k = some rs → SocketOk k rs) {rs : Option RtpSocket}
    (hnew : ∀ new, rs = some new → SocketOk id new) :
    ∀ k rs', (net.put id rs).sockets k = some rs' → SocketOk k rs' := by
  intro k rs' hk
  rw [sockets_put] at hk
  split_ifs at hk with heq
  · rw [heq]
    exact hnew rs' hk
  · exact h k rs' hk

namespace PairInv

theorem init : PairInv {} where
  pairs a b hab := by cases hab
  ok id rs hrs := by cases hrs

section

variable (h : PairInv net)

include h

theorem create (hfree : ¬net.Live id) : PairInv (net.rtpSocketCreate id) where
  pairs := by
    have hnone : peerOf net id = none := by
      cases hp : peerOf net id with
      | none => rfl
      | some p => exact absurd (live_of_peerOf hp) hfree
    rw [show peerOf (net.rtpSocketCreate id) = peerOf net from peerOf_put_same hnone.symm]
    exact h.pairs
  ok := ok_put h.ok fun new hnew => by
    cases hnew
    exact SocketOk.null id {}

theorem rtpSocketProxy {other : Nat} (hnet : net.rtpSocketProxy this other = some net')
    (hpairs : ∀ p, peerOf net this = some p ∨ peerOf net other = some p → p = this ∨ p = other) :
    PairInv net' where
  pairs := by
    rw [peerOf_rtpSocketProxy hnet]
    exact (mutual_link_iff h.pairs).mpr hpairs
  ok := by
    obtain ⟨a, b, rfl⟩ := sockets_rtpSocketProxy hnet
    refine ok_put (ok_put h.ok fun new hnew => ?_) fun new hnew => ?_
    · cases hnew
      exact .proxy this other a
    · cases hnew
      exact .proxy other this b

theorem rtpSocketUpstream {n : Option Nat} {callref : BitVec 32}
    (hnet : net.rtpSocketUpstream this n callref = some net') (hpairs : ∀ p, peerOf net this = some p → p = this) :
    PairInv net' where
  pairs := by
    rw [peerOf_rtpSocketUpstream hnet]
    exact (mutual_drop_iff h.pairs).mpr hpairs
  ok := by
    obtain ⟨rs, hrs, rfl⟩ := modify_eq_some.mp hnet
    refine ok_put h.ok fun new hnew => ?_
    cases hnew
    by_cases hcallref : callref ≠ 0
    · rw [if_pos hcallref]
      refine ⟨fun n _ haction => (by cases haction), fun p hp => ?_⟩
      cases n with
      | none | some => cases hp
    · -- the storage is left as it is
      rw [if_neg hcallref]
      refine ⟨fun n _ haction => (by cases haction), fun p hp => .inr ⟨rfl, ?_⟩⟩
      obtain haction | ⟨-, hself⟩ := (h.ok this rs hrs).2 p hp
      · exact hpairs p (peerOf_eq_some.mpr ⟨rs, hrs, haction, hp⟩)
      · exact hself

theorem rtpSocketFree (hnet : net.rtpSocketFree id = some net') : PairInv net' where
  pairs := by
    rw [peerOf_rtpSocketFree hnet]
    exact h.pairs.part id
  ok := by
    obtain ⟨-, rfl⟩ | ⟨p, other, -, -, rfl⟩ := sockets_rtpSocketFree hnet
    · exact ok_put h.ok fun new hnew => by cases hnew
    · refine ok_put (ok_put h.ok fun new hnew => ?_) fun new hnew => by cases hnew
      cases hnew
      exact .null p other

/-- A change of one of the two descriptors of a socket. -/
theorem modifySub (hrs : net.sockets id = some rs) (priv : RtpBfdPriv)
    (f : RtpSubSocket → RtpSubSocket) : PairInv (net.put id (some (rs.modifySub priv f))) where
  pairs := by
    rw [peerOf_put_same (by rw [peer_modifySub, peerOf_of_sockets hrs])]
    exact h.pairs
  ok := ok_put h.ok fun new hnew => by
    cases hnew
    exact (h.ok id rs hrs).modifySub priv f

theorem rtpSocketRead {packet : Option (List Octet)}
    (hnet : net.rtpSocketRead id priv packet = some net') : PairInv net' := by
  obtain heq | ⟨rs, hrs, rfl⟩ | ⟨msg, q, other, -, -, hother, rfl⟩ := sockets_rtpSocketRead hnet
  · have hpeer : peerOf net' = peerOf net := by
      funext k
      unfold peerOf
      rw [heq]
    refine ⟨?_, ?_⟩
    · rw [hpeer]
      exact h.pairs
    · rw [heq]
      exact h.ok
  · exact h.modifySub hrs priv _
  · exact h.modifySub hother priv _

theorem live_peer {p : Nat} (hp : peerOf net id = some p) : net.Live p :=
  live_of_peerOf (h.pairs id p hp)

end

end PairInv

/-! ## Queues -/

/-- What is queued on one of the two descriptors of a socket. -/
def txQueue (net : RtpNet) (id : Nat) (priv : RtpBfdPriv) : List (List Octet) :=
  ((net.sockets id).map fun rs => (rs.sub priv).txQueue).getD []

theorem txQueue_put (net : RtpNet) (id : Nat) (rs : Option RtpSocket) (k : Nat) (priv : RtpBfdPriv) :
    txQueue (net.put id rs) k priv =
      if k = id then (rs.map fun rs => (rs.sub priv).txQueue).getD [] else txQueue net k priv := by
  unfold txQueue
  rw [sockets_put]
  split_ifs <;> rfl

/-- A socket that keeps what it has queued, or loses some of it from the front. -/
theorem txQueue_put_suffix {s : Option RtpSocket}
    (h : (s.map fun rs => (rs.sub priv).txQueue).getD [] <:+ txQueue net id priv) (k : Nat) :
    txQueue (net.put id s) k priv <:+ txQueue net k priv := by
  rw [txQueue_put]
  split_ifs with hk
  · rw [hk]
    exact h
  · exact suffix_refl _

theorem sub_modifySub (rs : RtpSocket) (priv priv' : RtpBfdPriv) (f : RtpSubSocket → RtpSubSocket) :
    (rs.modifySub priv f).sub priv' = if priv' = priv then f (rs.sub priv') else rs.sub priv' := by
  cases priv with
  | rtp | rtcp =>
    cases priv' with
    | rtp => rfl
    | rtcp => rfl

theorem txQueue_of_sockets (h : net.sockets id = some rs) (priv : RtpBfdPriv) :
    txQueue net id priv = (rs.sub priv).txQueue := by
  unfold txQueue
  rw [h]
  rfl

/-- The mode of a socket and the storage that goes with it say nothing about its queues. -/
theorem txQueue_mode_suffix (h : net.sockets id = some rs) (priv : RtpBfdPriv) (action : RtpRxAction)
    (word : RtpWord) (callref : BitVec 32) :
    ((some { rs with rxAction := action, word := word, callref := callref } : Option RtpSocket).map
      fun rs => (rs.sub priv).txQueue).getD [] <:+ txQueue net id priv := by
  rw [txQueue_of_sockets h]
  cases priv with
  | rtp | rtcp => exact suffix_refl _

/-- Only a packet that a proxy receives is added to a queue, and to its peer's. -/
theorem txQueue_step {ev : RtpEvent} (happlies : net.Applies ev) (h : net.step ev = some net') (q : Nat)
    (priv : RtpBfdPriv) :
    txQueue net' q priv <:+ txQueue net q priv ∨
    ∃ rs packet, ev = .read rs priv (some packet) ∧ peerOf net rs = some q ∧
      txQueue net' q priv = txQueue net q priv ++ [packet] := by
  cases ev with
  | create id =>
    cases h
    refine .inl (txQueue_put_suffix ?_ q)
    cases priv with
    | rtp | rtcp => exact nil_suffix
  | proxy this other =>
    obtain ⟨mid, hmid, hnet⟩ := bind_eq_some_iff.mp h
    obtain ⟨a, ha, rfl⟩ := modify_eq_some.mp hmid
    obtain ⟨b, hb, rfl⟩ := modify_eq_some.mp hnet
    refine .inl ((txQueue_put_suffix ?_ q).trans (txQueue_put_suffix ?_ q))
    · exact txQueue_mode_suffix hb priv .proxy (.sock this) b.callref
    · exact txQueue_mode_suffix ha priv .proxy (.sock other) a.callref
  | upstream this n callref =>
    obtain ⟨rs, hrs, rfl⟩ := modify_eq_some.mp h
    refine .inl (txQueue_put_suffix ?_ q)
    split_ifs
    · exact txQueue_mode_suffix hrs priv .recvUpstream (n.elim .null .net) callref
    · exact txQueue_mode_suffix hrs priv .none rs.word rs.callref
  | free id =>
    refine .inl ?_
    obtain ⟨-, rfl⟩ | ⟨p, other, -, hother, rfl⟩ := sockets_rtpSocketFree h
    · exact txQueue_put_suffix (s := none) nil_suffix q
    · refine (txQueue_put_suffix (s := none) nil_suffix q).trans (txQueue_put_suffix ?_ q)
      exact txQueue_mode_suffix hother priv other.rxAction .null other.callref
  | read id priv' packet =>
    obtain heq | ⟨rs, hrs, rfl⟩ | ⟨msg, p, other, rfl, hpeer, hother, rfl⟩ := sockets_rtpSocketRead h
    · refine .inl ?_
      unfold txQueue
      rewrite [heq]
      exact suffix_refl _
    · refine .inl (txQueue_put_suffix ?_ q)
      rw [map_some, getD_some, txQueue_of_sockets hrs, sub_modifySub]
      split_ifs
      · exact suffix_refl _
      · exact suffix_refl _
    · by_cases hq : q = p ∧ priv = priv'
      · obtain ⟨rfl, rfl⟩ := hq
        refine .inr ⟨id, msg, rfl, hpeer, ?_⟩
        rw [txQueue_put, if_pos rfl, map_some, getD_some, sub_modifySub, if_pos rfl, txQueue_of_sockets hother]
      · refine .inl ?_
        rw [txQueue_put]
        split_ifs with hqp
        · have hpriv : priv ≠ priv' := fun hpriv => hq ⟨hqp, hpriv⟩
          rewrite [map_some, getD_some, sub_modifySub, if_neg hpriv, hqp, txQueue_of_sockets hother]
          exact suffix_refl _
        · exact suffix_refl _
  | write id priv' =>
    obtain ⟨rs, hrs, rfl⟩ := modify_eq_some.mp h
    refine .inl (txQueue_put_suffix ?_ q)
    rw [map_some, getD_some, txQueue_of_sockets hrs, sub_modifySub]
    split_ifs
    · cases hqueue : (rs.sub priv).txQueue with
      | nil => exact nil_suffix
      | cons msg rest => exact suffix_cons msg rest
    · exact suffix_refl _

/-! ## Runs -/

/-- A socket in proxy mode has no peer, or a socket in proxy mode that has it as its peer. -/
def Paired (net : RtpNet) : Prop :=
  ∀ id rs, net.sockets id = some rs → rs.rxAction = .proxy →
    rs.word = .null ∨
    ∃ p other, rs.word = .sock p ∧ net.sockets p = some other ∧ other.rxAction = .proxy ∧ other.word = .sock id

/-- No reference to a freed socket. -/
def NoDangling (net : RtpNet) : Prop :=
  ∀ id rs p, net.sockets id = some rs → rs.word = .sock p → net.Live p

/-- Nobody is left behind: a socket that is bound to another, or switched upstream, has no third one as its peer. -/
def RtpNet.KeepsPairs (net : RtpNet) : RtpEvent → Prop
  | .proxy this other => ∀ p, peerOf net this = some p ∨ peerOf net other = some p → p = this ∨ p = other
  | .upstream this _ _ => ∀ p, peerOf net this = some p → p = this
  | .create _ | .free _ | .read .. | .write .. => True

theorem PairInv.paired (h : PairInv net) : Paired net := by
  intro id rs hrs haction
  cases hword : rs.word with
  | null => exact .inl rfl
  | net n => exact absurd haction ((h.ok id rs hrs).1 n hword)
  | sock p =>
    have hback := h.pairs id p (peerOf_eq_some.mpr ⟨rs, hrs, haction, hword⟩)
    obtain ⟨other, hother, hmode, hpeer⟩ := peerOf_eq_some.mp hback
    exact .inr ⟨p, other, rfl, hother, hmode, hpeer⟩

theorem PairInv.noDangling (h : PairInv net) : NoDangling net := by
  intro id rs p hrs hword
  obtain haction | ⟨-, rfl⟩ := (h.ok id rs hrs).2 p hword
  · exact h.live_peer (peerOf_eq_some.mpr ⟨rs, hrs, haction, hword⟩)
  · rw [RtpNet.Live, hrs]
    rfl

theorem Paired.mutual (h : Paired net) : Mutual (peerOf net) := by
  intro a b hab
  obtain ⟨rs, hrs, haction, hword⟩ := peerOf_eq_some.mp hab
  obtain hnull | ⟨p, other, hp, hother, hmode, hpeer⟩ := h a rs hrs haction
  · rw [hword] at hnull
    cases hnull
  · rw [hword] at hp
    cases hp
    exact peerOf_eq_some.mpr ⟨other, hother, hmode, hpeer⟩

/-- **One event.** The pairs stay mutual exactly when nobody is left behind. -/
theorem PairInv.step_iff (h : PairInv net) {ev : RtpEvent} (happlies : net.Applies ev)
    (hnet : net.step ev = some net') : (Paired net' ↔ net.KeepsPairs ev) ∧ (net.KeepsPairs ev → PairInv net') := by
  have hkeeps : net.KeepsPairs ev → PairInv net' := by
    intro hpairs
    cases ev with
    | create id =>
      cases hnet
      exact h.create happlies
    | proxy this other => exact h.rtpSocketProxy hnet hpairs
    | upstream this n callref => exact h.rtpSocketUpstream hnet hpairs
    | free id => exact h.rtpSocketFree hnet
    | read id priv packet => exact h.rtpSocketRead hnet
    | write id priv =>
      obtain ⟨rs, hrs, rfl⟩ := modify_eq_some.mp hnet
      exact h.modifySub hrs priv _
  refine ⟨⟨fun hpaired => ?_, fun hpairs => (hkeeps hpairs).paired⟩, hkeeps⟩
  have hmutual := hpaired.mutual
  cases ev with
  | proxy this other =>
    rw [peerOf_rtpSocketProxy hnet] at hmutual
    exact (mutual_link_iff h.pairs).mp hmutual
  | upstream this n callref =>
    rw [peerOf_rtpSocketUpstream hnet] at hmutual
    exact (mutual_drop_iff h.pairs).mp hmutual
  | create id => trivial
  | free id => trivial
  | read id priv packet => trivial
  | write id priv => trivial

theorem modify_isSome {f : RtpSocket → RtpSocket} (h : net.Live id) : ∃ net', net.modify id f = some net' :=
  isSome_iff_exists.mp (by rw [RtpNet.modify, isSome_map]; exact h)

theorem PairInv.step_isSome (h : PairInv net) {ev : RtpEvent} (happlies : net.Applies ev) :
    ∃ net', net.step ev = some net' := by
  cases ev with
  | create id => exact ⟨_, rfl⟩
  | proxy this other =>
    obtain ⟨hthis, hother⟩ := happlies
    obtain ⟨mid, hmid⟩ := modify_isSome (f := fun rs => { rs with rxAction := .proxy, word := .sock other }) hthis
    have hlive : mid.Live other := by
      obtain ⟨rs, -, rfl⟩ := modify_eq_some.mp hmid
      rw [RtpNet.Live, sockets_put]
      split_ifs
      · rfl
      · exact hother
    obtain ⟨net', hnet'⟩ := modify_isSome (f := fun rs => { rs with rxAction := .proxy, word := .sock this }) hlive
    exact ⟨net', bind_eq_some_iff.mpr ⟨mid, hmid, hnet'⟩⟩
  | upstream | write => exact modify_isSome happlies
  | free id =>
    obtain ⟨rs, hrs⟩ := isSome_iff_exists.mp happlies
    show ∃ net', net.rtpSocketFree id = some net'
    unfold RtpNet.rtpSocketFree
    cases hpeer : rs.peer with
    | none => exact ⟨_, bind_eq_some_iff.mpr ⟨rs, hrs, by rw [hpeer]; rfl⟩⟩
    | some p =>
      have hlive := h.live_peer ((peerOf_of_sockets hrs).trans hpeer)
      obtain ⟨mid, hmid⟩ := modify_isSome (f := fun other => { other with word := .null }) hlive
      refine ⟨mid.put id none, bind_eq_some_iff.mpr ⟨rs, hrs, ?_⟩⟩
      rw [hpeer]
      exact bind_eq_some_iff.mpr ⟨mid, hmid, rfl⟩
  | read id priv packet =>
    obtain ⟨rs, hrs⟩ := isSome_iff_exists.mp happlies
    show ∃ net', net.rtpSocketRead id priv packet = some net'
    unfold RtpNet.rtpSocketRead
    rw [hrs]
    cases packet with
    | none => exact modify_isSome happlies
    | some msg =>
      dsimp only [bind_eq_bind, bind_some]
      cases haction : rs.rxAction with
      | none => exact ⟨_, rfl⟩
      | proxy =>
        cases hword : rs.word with
        | null => exact ⟨_, rfl⟩
        | net n => exact absurd haction ((h.ok id rs hrs).1 n hword)
        | sock q => exact modify_isSome (h.live_peer (peerOf_eq_some.mpr ⟨rs, hrs, haction, hword⟩))
      | recvUpstream =>
        dsimp only
        split
        · split
          · exact ⟨_, rfl⟩
          · exact ⟨_, rfl⟩
        case h_2 _ q hword =>
          -- the storage holds no socket in this mode
          obtain hmode | ⟨hmode, -⟩ := (h.ok id rs hrs).2 q hword
          · rw [haction] at hmode
            cases hmode
          · rw [haction] at hmode
            cases hmode
        · exact ⟨_, rfl⟩

theorem PairInv.reachable (h : ReachableBy rtpSystem RtpNet.KeepsPairs net) : PairInv net := by
  refine h.invariant ?_ ?_
  · rintro net rfl
    exact .init
  · rintro net ev net' hinv hpairs ⟨happlies, hnet⟩
    exact (hinv.step_iff happlies hnet).2 hpairs

/-- **Pairs of sockets.** In every run that leaves nobody behind, a socket in proxy mode has a peer that is in proxy
    mode with it as its peer, or none; no socket refers to a freed one; no event uses freed memory; a packet is only
    queued on the peer of the socket that received it; and the pairs outlast the next event exactly when it leaves
    nobody behind. -/
theorem rtpSocket_runs (h : ReachableBy rtpSystem RtpNet.KeepsPairs net) :
    Paired net ∧ NoDangling net ∧
    ∀ ev, net.Applies ev → ∃ net', net.step ev = some net' ∧ (Paired net' ↔ net.KeepsPairs ev) ∧
      ∀ q priv, txQueue net' q priv <:+ txQueue net q priv ∨
        ∃ rs packet, ev = .read rs priv (some packet) ∧ peerOf net rs = some q ∧
          txQueue net' q priv = txQueue net q priv ++ [packet] := by
  have hinv := PairInv.reachable h
  refine ⟨hinv.paired, hinv.noDangling, fun ev happlies => ?_⟩
  obtain ⟨net', hnet'⟩ := hinv.step_isSome happlies
  exact ⟨net', hnet', (hinv.step_iff happlies hnet').1, txQueue_step happlies hnet'⟩

/-! ## Two runs -/

instance (net : RtpNet) (id : Nat) : Decidable (net.Live id) := inferInstanceAs (Decidable (_ = true))

instance (net : RtpNet) : (ev : RtpEvent) → Decidable (net.Applies ev)
  | .create _ => inferInstanceAs (Decidable (¬_))
  | .proxy .. => inferInstanceAs (Decidable (_ ∧ _))
  | .upstream .. | .free _ | .read .. | .write .. => inferInstanceAs (Decidable (RtpNet.Live _ _))

instance (net : RtpNet) : (ev : RtpEvent) → Decidable (net.KeepsPairs ev)
  | .proxy this other =>
    decidable_of_iff
      ((∀ p ∈ peerOf net this, p = this ∨ p = other) ∧ ∀ p ∈ peerOf net other, p = this ∨ p = other)
      ⟨fun h p hp => hp.elim (h.1 p) (h.2 p), fun h => ⟨fun p hp => h p (.inl hp), fun p hp => h p (.inr hp)⟩⟩
  | .upstream this _ _ => inferInstanceAs (Decidable (∀ p ∈ peerOf net this, p = this))
  | .create _ | .free _ | .read .. | .write .. => inferInstanceAs (Decidable True)

/-- An event whose sockets are not freed. -/
def RtpNet.applied (net : RtpNet) (ev : RtpEvent) : Option RtpNet := if net.Applies ev then net.step ev else none

theorem rtpSystem_step_of_applied (net : RtpNet) (ev : RtpEvent) (net' : RtpNet) (h : net.applied ev = some net') :
    rtpSystem.step net ev net' := by
  unfold applied at h
  split_ifs at h with happlies
  exact ⟨happlies, h⟩

/-- Two sockets are bound together, and one of them is freed. -/
theorem rtpSocket_runs_freed :
    ∃ net, peerOf net 1 = none ∧ net.Live 1 ∧ Paired net ∧ NoDangling net := by
  obtain ⟨net, hnet, hpeer, hlive⟩ : ∃ net ∈ guardedRun applied RtpNet.KeepsPairs {}
      [.create 0, .create 1, .proxy 0 1, .free 0], peerOf net 1 = none ∧ net.Live 1 := by
    decide +kernel
  have hruns := rtpSocket_runs (ReachableBy.guardedRun rtpSystem_step_of_applied (.init rfl) hnet)
  exact ⟨net, hpeer, hlive, hruns.1, hruns.2.1⟩

/-- A socket is bound to a second peer and then freed: the first peer keeps a reference to freed memory. -/
theorem rtpSocket_dangling :
    ∃ net rs, Reachable rtpSystem net ∧ net.sockets 1 = some rs ∧ rs.rxAction = .proxy ∧ rs.word = .sock 0 ∧
      ¬net.Live 0 ∧ net.step (.read 1 .rtp (some [])) = none := by
  obtain ⟨net, hnet, ⟨rs, hrs, haction, hword⟩, hfreed, hread⟩ :
      ∃ net ∈ guardedRun applied (fun _ _ => True) {}
        [.create 0, .create 1, .create 2, .proxy 0 1, .proxy 0 2, .free 0],
      (∃ rs ∈ net.sockets 1, rs.rxAction = .proxy ∧ rs.word = .sock 0) ∧ ¬net.Live 0 ∧
        (net.step (.read 1 .rtp (some []))).isNone = true := by
    decide +kernel
  exact ⟨net, rs, ReachableBy.guardedRun rtpSystem_step_of_applied (.init rfl) hnet, hrs, haction, hword, hfreed,
    isNone_iff_eq_none.mp hread⟩

end OpenBsc.Libtrau
