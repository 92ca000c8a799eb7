import OpenBsc.OsmoBsc.MscLink

/-!
# `OsmoBsc.MscReconnect` — a BSC does not give up on its MSC

A link that is lost is connected again, because something always comes next: its descriptor becomes ready, the timeout
of the attempt expires, or the time to wait for the next attempt is over. `MscLink.Kept` says so, and that a PING that
the MSC does not answer loses the link.

An attempt that gets no socket, or cannot register it, ends with nothing to come next (`Unlinked.kept_iff`). A PING that
is sent while the answer to another one is waited for sets the time for that anew (`not_kept_pinged`), so an MSC that
answers none of them is kept for good if they are sent often enough. In a run without these the link is kept
(`link_kept`); there is no such PING if the time to wait for an answer is the shorter one (`spares_ping`).
-/

namespace OpenBsc.OsmoBsc

open Transition MscLink

namespace MscLink

variable {s : MscLink} {attempt : ConnectAttempt}

/-! ## The purpose -/

/-- What comes from the MSC is read. -/
structure Connected (s : MscLink) : Prop where
  isConnected : s.isConnected = true
  fd : s.fd = .opened
  registered : s.registered = true
  cb : s.cb = .osmoWqueueBfdCb
  read : s.when.read = true

/-- The outcome of an attempt to connect is waited for, but not for ever. -/
structure Connecting (s : MscLink) : Prop where
  isConnected : s.isConnected = false
  fd : s.fd = .opened
  registered : s.registered = true
  cb : s.cb = .mscConnectionConnect
  write : s.when.write = true
  timeout : s.timeoutTimer.isSome = true

/-- The next attempt is waited for. -/
structure Waiting (s : MscLink) : Prop where
  isConnected : s.isConnected = false
  fd : s.fd = .invalid
  registered : s.registered = false
  reconnect : s.reconnectTimer.isSome = true

/-- The first PING that is not answered, after what becomes of the link. -/
def unansweredAfter (u : Option (Int × Int)) : MscEffect → Option (Int × Int)
  | .connected => u
  | .lost => none
  | .ping sent wait => u.or (some (sent, wait))
  | .pong => none

/-- The first PING that the MSC did not answer: when it was sent, and the time to wait for the PONG. -/
def unanswered (s : MscLink) : Option (Int × Int) := s.log.foldl unansweredAfter none

theorem unanswered_emit (s : MscLink) (effect : MscEffect) :
    (s.emit effect).unanswered = unansweredAfter s.unanswered effect := by
  unfold unanswered emit
  rw [List.foldl_append, List.foldl_cons, List.foldl_nil]

/-- **The link is kept.** It is connected, connecting or waiting. PINGs are sent and answers waited for only while it is
    connected. A timer is set for the time that an answer may take, and drops the link, which is connected anew. -/
structure Kept (s : MscLink) : Prop where
  link : s.Connected ∨ s.Connecting ∨ s.Waiting
  supervised : s.pingTimer.isSome ∨ s.pongTimer.isSome → s.Connected
  dropped : ∀ sent wait, s.unanswered = some (sent, wait) →
    (∃ due, s.pongTimer = some due ∧ due ≤ sent + wait) ∧ ∀ attempt, (s.expire attempt .pong).Waiting

/-! ## What spares it -/

end MscLink

/-- An attempt, if there is an MSC to connect to, gets a socket, and registers it if there is something to wait for. -/
def ConnectAttempt.Sound (attempt : ConnectAttempt) (config : MscConfig) : Prop :=
  config.dests = [] ∨ attempt.socket ∧ (attempt.nonblocking → attempt.connect ≠ .failed → attempt.register)

namespace MscLink

variable {s : MscLink} {attempt : ConnectAttempt}

/-- Attempts to connect are sound, and no PING is sent while the answer to another one is waited for. -/
def Spares (s : MscLink) : MscEvent → Prop
  | .expire .reconnect attempt => attempt.Sound s.config
  | .expire .ping _ => s.config.pingTimeout < 0 ∨ s.pongTimer = none
  | _ => True

/-! ## Operations -/

/-- A timer is set that drops the link in time if a PING is not answered. -/
def Watched (s : MscLink) : Prop :=
  ∀ sent wait, s.unanswered = some (sent, wait) → ∃ due, s.pongTimer = some due ∧ due ≤ sent + wait

/-- The link is kept, and no timer runs in vain. -/
structure Steady (s : MscLink) : Prop where
  link : (s.Connected ∧ s.timeoutTimer = none ∧ s.reconnectTimer = none) ∨
    (s.Connecting ∧ s.reconnectTimer = none) ∨ s.Waiting ∧ s.timeoutTimer = none
  idle : s.isConnected = false → s.pingTimer = none ∧ s.pongTimer = none ∧ s.unanswered = none
  watched : s.Watched

theorem waiting_connectionLoss (hregistered : s.registered = false) : s.connectionLoss.Waiting :=
  ⟨rfl, rfl, hregistered, rfl⟩

theorem unanswered_connectionLoss : s.connectionLoss.unanswered = none :=
  unanswered_emit { s with
    fd := .invalid, cb := .osmoWqueueBfdCb, when := {}, isConnected := false, pingTimer := none,
    pongTimer := none } .lost

theorem steady_connectionLoss (hregistered : s.registered = false) (htimeout : s.timeoutTimer = none) :
    s.connectionLoss.Steady where
  link := .inr (.inr ⟨waiting_connectionLoss hregistered, htimeout⟩)
  idle _ := ⟨rfl, rfl, unanswered_connectionLoss⟩
  watched sent wait h := by
    rw [unanswered_connectionLoss] at h
    exact absurd h nofun

section

variable (h : s.fd = .invalid → s.registered = false)

include h

theorem registered_bscMscLost : s.bscMscLost.registered = false := by
  unfold bscMscLost
  by_cases hfd : s.fd = .invalid
  · simp only [hfd, if_true]
    exact h hfd
  · simp only [hfd, if_false]
    rfl

theorem waiting_bscMscLost : s.bscMscLost.Waiting :=
  ⟨rfl, rfl, registered_bscMscLost h, rfl⟩

theorem steady_bscMscLost : s.bscMscLost.Steady := by
  unfold bscMscLost
  by_cases hfd : s.fd = .invalid
  · simp only [hfd, if_true]
    exact steady_connectionLoss (h hfd) rfl
  · simp only [hfd, if_false]
    exact steady_connectionLoss rfl rfl

end

theorem Steady.registered (h : s.Steady) (hfd : s.fd = .invalid) : s.registered = false := by
  rcases h.link with ⟨hlink, -, -⟩ | ⟨hlink, -⟩ | ⟨hlink, -⟩
  · exact absurd (hlink.fd.symm.trans hfd) nofun
  · exact absurd (hlink.fd.symm.trans hfd) nofun
  · exact hlink.registered

theorem Steady.kept (h : s.Steady) : s.Kept where
  link := h.link.imp And.left (Or.imp And.left And.left)
  supervised hrun := by
    rcases h.link with ⟨hlink, -, -⟩ | ⟨hlink, -⟩ | ⟨hlink, -⟩
    · exact hlink
    all_goals
      obtain ⟨hping, hpong, -⟩ := h.idle hlink.isConnected
      rw [hping, hpong] at hrun
      exact absurd hrun (by decide)
  dropped sent wait hunanswered :=
    ⟨h.watched sent wait hunanswered, fun _ => waiting_bscMscLost fun hfd => h.registered hfd⟩

/-- What is configured, queued or known about the MSC, and the time, do not matter. -/
theorem Steady.aside {config : MscConfig} {write : Bool} {queue : List MscMsg} {authenticated : Bool} {now : Int}
    (h : s.Steady) (hwrite : s.Connecting → write = true) :
    Steady { s with
      config := config, when := { s.when with write := write }, msgQueue := queue, isAuthenticated := authenticated,
      now := now } where
  link := by
    rcases h.link with ⟨hlink, htimers⟩ | ⟨hlink, htimer⟩ | ⟨hlink, htimer⟩
    · exact .inl ⟨⟨hlink.isConnected, hlink.fd, hlink.registered, hlink.cb, hlink.read⟩, htimers⟩
    · exact .inr (.inl ⟨⟨hlink.isConnected, hlink.fd, hlink.registered, hlink.cb, hwrite hlink, hlink.timeout⟩, htimer⟩)
    · exact .inr (.inr ⟨⟨hlink.isConnected, hlink.fd, hlink.registered, hlink.reconnect⟩, htimer⟩)
  idle := h.idle
  watched := h.watched

/-- A message to the MSC changes only what is queued, and that the descriptor waits to be written to. -/
theorem mscQueueWrite_eq (msg : MscMsg) : ∃ queue write, (s.when.write = true → write = true) ∧
    s.mscQueueWrite msg = { s with msgQueue := queue, when := { s.when with write := write } } := by
  unfold mscQueueWrite
  split
  · exact ⟨_, true, fun _ => rfl, rfl⟩
  · exact ⟨s.msgQueue, s.when.write, id, rfl⟩

theorem Steady.mscQueueWrite (h : s.Steady) (msg : MscMsg) : (s.mscQueueWrite msg).Steady := by
  obtain ⟨queue, write, hwrite, heq⟩ := s.mscQueueWrite_eq msg
  rw [heq]
  exact h.aside fun hconnecting => hwrite hconnecting.write

/-- It is connected, registered or not, and no timer runs in vain. -/
structure Online (s : MscLink) : Prop where
  isConnected : s.isConnected = true
  fd : s.fd = .opened
  cb : s.cb = .osmoWqueueBfdCb
  read : s.when.read = true
  timeout : s.timeoutTimer = none
  reconnect : s.reconnectTimer = none
  watched : s.Watched

theorem Online.steady (h : s.Online) (hregistered : s.registered = true) : s.Steady where
  link := .inl ⟨⟨h.isConnected, h.fd, hregistered, h.cb, h.read⟩, h.timeout, h.reconnect⟩
  idle hidle := absurd (h.isConnected.symm.trans hidle) nofun
  watched := h.watched

theorem Steady.online (h : s.Steady) (hconnected : s.isConnected = true) : s.registered = true ∧ s.Online := by
  rcases h.link with ⟨hlink, htimeout, hreconnect⟩ | ⟨hlink, -⟩ | ⟨hlink, -⟩
  · exact ⟨hlink.registered, hlink.isConnected, hlink.fd, hlink.cb, hlink.read, htimeout, hreconnect, h.watched⟩
  · exact absurd (hconnected.symm.trans hlink.isConnected) nofun
  · exact absurd (hconnected.symm.trans hlink.isConnected) nofun

/-- A PING is the first that is not answered, if no answer was waited for. -/
theorem Online.mscPingTimeoutCb (h : s.Online) (hspares : s.config.pingTimeout < 0 ∨ s.pongTimer = none) :
    s.mscPingTimeoutCb.Online := by
  unfold MscLink.mscPingTimeoutCb
  split
  case isTrue => exact h
  case isFalse hping =>
    obtain ⟨queue, write, -, heq⟩ := s.mscQueueWrite_eq .ping
    rw [heq]
    refine ⟨h.isConnected, h.fd, h.cb, h.read, h.timeout, h.reconnect, fun sent wait hunanswered => ?_⟩
    have hnone : s.unanswered = none := by
      refine Option.eq_none_iff_forall_not_mem.mpr fun u hu => ?_
      obtain ⟨due, hdue, -⟩ := h.watched u.1 u.2 hu
      exact absurd ((hspares.resolve_left hping).symm.trans hdue) nofun
    have hemit := unanswered_emit s (.ping s.now s.config.pongTimeout)
    rw [hnone] at hemit
    cases hemit.symm.trans hunanswered
    exact ⟨_, rfl, Int.le_refl _⟩

theorem registered_mscPingTimeoutCb : s.mscPingTimeoutCb.registered = s.registered := by
  unfold mscPingTimeoutCb
  split
  · rfl
  · obtain ⟨queue, write, -, heq⟩ := s.mscQueueWrite_eq .ping
    rw [heq]
    rfl

theorem Online.emit_connected (h : s.Online) : (s.emit .connected).Online :=
  ⟨h.isConnected, h.fd, h.cb, h.read, h.timeout, h.reconnect, fun sent wait hunanswered =>
    h.watched sent wait ((unanswered_emit s .connected).symm.trans hunanswered)⟩

/-- The descriptor is new, so nothing is waited for on it. -/
theorem Online.mscConnectionConnected (h : s.Online) (hpong : s.pongTimer = none) : s.mscConnectionConnected.Online :=
  (h.mscPingTimeoutCb (.inr hpong)).emit_connected

theorem Online.pong (h : s.Online) : Online ({ s with pongTimer := none }.emit .pong) :=
  ⟨h.isConnected, h.fd, h.cb, h.read, h.timeout, h.reconnect, fun _ _ hunanswered =>
    absurd ((unanswered_emit { s with pongTimer := none } .pong).symm.trans hunanswered) nofun⟩

theorem Steady.ipaccessAFdCb (h : s.Steady) (hconnected : s.isConnected = true) (recv : MscRecv) :
    (s.ipaccessAFdCb recv).Steady := by
  obtain ⟨hregistered, honline⟩ := h.online hconnected
  cases recv with
  | closed => exact steady_bscMscLost fun hfd => h.registered hfd
  | unreadable => exact h
  | idAck =>
    change s.initializeIfNeeded.Steady
    unfold initializeIfNeeded
    split
    · exact h
    · exact (h.mscQueueWrite .reset).aside Connecting.write
  | idGet =>
    change s.sendIdGetResponse.Steady
    unfold sendIdGetResponse
    split
    · exact h
    · exact h.mscQueueWrite _
  | pong => exact honline.pong.steady hregistered
  | lac =>
    change s.sendLacs.Steady
    unfold sendLacs
    split
    · exact h.mscQueueWrite _
    · exact h
  | other => exact h

theorem not_connecting_of_cb (hcb : s.cb = .osmoWqueueBfdCb) : ¬ s.Connecting := fun h =>
  absurd (hcb.symm.trans h.cb) nofun

/-- A message from the MSC does not change who handles the descriptor. -/
theorem cb_ipaccessAFdCb (recv : MscRecv) (hcb : s.cb = .osmoWqueueBfdCb) :
    (s.ipaccessAFdCb recv).cb = .osmoWqueueBfdCb := by
  have hqueue : ∀ msg, (s.mscQueueWrite msg).cb = .osmoWqueueBfdCb := by
    intro msg
    obtain ⟨queue, write, -, heq⟩ := s.mscQueueWrite_eq msg
    rw [heq]
    exact hcb
  cases recv with
  | closed => rfl
  | unreadable | pong | other => exact hcb
  | idAck =>
    change s.initializeIfNeeded.cb = _
    unfold initializeIfNeeded
    split
    · exact hcb
    · exact hqueue .reset
  | idGet =>
    change s.sendIdGetResponse.cb = _
    unfold sendIdGetResponse
    split
    · exact hcb
    · exact hqueue _
  | lac =>
    change s.sendLacs.cb = _
    unfold sendLacs
    split
    · exact hqueue _
    · exact hcb

theorem Steady.osmoWqueueBfdCb (h : s.Steady) (hconnected : s.Connected) (what : FdFlags) (recv : MscRecv) :
    (s.osmoWqueueBfdCb what recv).Steady := by
  have hread : (if what.read then s.ipaccessAFdCb recv else s).Steady := by
    split
    · exact h.ipaccessAFdCb hconnected.isConnected recv
    · exact h
  have hcb : ¬ (if what.read then s.ipaccessAFdCb recv else s).Connecting := by
    apply not_connecting_of_cb
    split
    · exact cb_ipaccessAFdCb recv hconnected.cb
    · exact hconnected.cb
  unfold MscLink.osmoWqueueBfdCb
  dsimp only
  split
  · split
    · exact hread.aside fun hconnecting => absurd hconnecting hcb
    · exact hread.aside fun hconnecting => absurd hconnecting hcb
  · exact hread

/-! ## Attempts to connect -/

theorem Connecting.mscConnectionConnect (h : s.Connecting) (hsteady : s.Steady) (what : FdFlags) (error : Bool) :
    (s.mscConnectionConnect what error).Steady := by
  obtain ⟨hping, hpong, hunanswered⟩ := hsteady.idle h.isConnected
  have hreconnect : s.reconnectTimer = none := by
    rcases hsteady.link with ⟨hlink, -⟩ | ⟨-, htimer⟩ | ⟨hlink, -⟩
    · exact absurd (h.isConnected.symm.trans hlink.isConnected) nofun
    · exact htimer
    · exact absurd (h.fd.symm.trans hlink.fd) nofun
  unfold MscLink.mscConnectionConnect
  split
  · exact hsteady
  dsimp only
  split
  · exact steady_connectionLoss rfl rfl
  · have honline : Online { s with
        timeoutTimer := none, cb := .osmoWqueueBfdCb, when := { read := true, except := true }, isConnected := true } :=
      ⟨rfl, h.fd, rfl, rfl, rfl, hreconnect, hsteady.watched⟩
    exact (honline.mscConnectionConnected hpong).steady (registered_mscPingTimeoutCb.trans h.registered)

/-- There is no link, and nothing is waited for. -/
structure Unlinked (s : MscLink) : Prop where
  isConnected : s.isConnected = false
  registered : s.registered = false
  timeout : s.timeoutTimer = none
  reconnect : s.reconnectTimer = none
  ping : s.pingTimer = none
  pong : s.pongTimer = none
  unanswered : s.unanswered = none

theorem unlinked_init (config : MscConfig) : Unlinked { config := config } := ⟨rfl, rfl, rfl, rfl, rfl, rfl, rfl⟩

theorem Waiting.unlinked (h : s.Waiting) (hsteady : s.Steady) : Unlinked { s with reconnectTimer := none } := by
  obtain ⟨hping, hpong, hunanswered⟩ := hsteady.idle h.isConnected
  rcases hsteady.link with ⟨hlink, -⟩ | ⟨hlink, -⟩ | ⟨-, htimeout⟩
  · exact absurd (h.isConnected.symm.trans hlink.isConnected) nofun
  · exact absurd (h.fd.symm.trans hlink.fd) nofun
  · exact ⟨h.isConnected, h.registered, htimeout, rfl, hping, hpong, hunanswered⟩

theorem Unlinked.watched (h : s.Unlinked) : s.Watched := fun _ _ hunanswered =>
  absurd (h.unanswered.symm.trans hunanswered) nofun

theorem Unlinked.steady_bscMscConnect (h : s.Unlinked) (hsound : attempt.Sound s.config) :
    (s.bscMscConnect attempt).Steady := by
  unfold bscMscConnect
  split
  case h_1 => exact steady_connectionLoss h.registered h.timeout
  case h_2 dest dests hdests =>
    rcases hsound with hnone | ⟨hsocket, hregister⟩
    · exact absurd (hdests.symm.trans hnone) nofun
    simp only [hsocket, Bool.not_true, Bool.false_eq_true, if_false]
    cases hnonblocking : attempt.nonblocking with
    | false => exact steady_connectionLoss h.registered h.timeout
    | true =>
      simp only [if_true, ConnectAttempt.result]
      cases hconnect : attempt.connect with
      | failed => exact steady_connectionLoss h.registered h.timeout
      | inProgress =>
        have hreg : attempt.register = true := hregister hnonblocking (by rw [hconnect]; exact nofun)
        simp only [osmoFdRegister, hreg, if_true]
        exact
          { link := .inr (.inl ⟨⟨rfl, rfl, rfl, rfl, rfl, rfl⟩, h.reconnect⟩)
            idle := fun _ => ⟨h.ping, h.pong, h.unanswered⟩
            watched := h.watched }
      | done =>
        have hreg : attempt.register = true := hregister hnonblocking (by rw [hconnect]; exact nofun)
        simp only [osmoFdRegister, hreg, if_true]
        have honline : Online { s with
            config := { s.config with dests := dests ++ [dest] }, fd := .opened,
            when := { read := true, except := true }, cb := .osmoWqueueBfdCb, isConnected := true } :=
          ⟨rfl, rfl, rfl, rfl, h.timeout, h.reconnect, h.watched⟩
        have hconnected := honline.mscConnectionConnected h.pong
        exact Online.steady (s := { mscConnectionConnected _ with registered := true })
          ⟨hconnected.isConnected, hconnected.fd, hconnected.cb, hconnected.read, hconnected.timeout,
            hconnected.reconnect, hconnected.watched⟩ rfl

/-- A link whose socket was closed is none of the three, -/
theorem not_link_of_closed (hfd : s.fd = .closed) : ¬ (s.Connected ∨ s.Connecting ∨ s.Waiting) := by
  rintro (hlink | hlink | hlink)
  · exact absurd (hfd.symm.trans hlink.fd) nofun
  · exact absurd (hfd.symm.trans hlink.fd) nofun
  · exact absurd (hfd.symm.trans hlink.fd) nofun

/-- and neither is one that has no socket, if no attempt comes next. -/
theorem not_link_of_invalid (hfd : s.fd = .invalid) (hreconnect : s.reconnectTimer = none) :
    ¬ (s.Connected ∨ s.Connecting ∨ s.Waiting) := by
  rintro (hlink | hlink | hlink)
  · exact absurd (hfd.symm.trans hlink.fd) nofun
  · exact absurd (hfd.symm.trans hlink.fd) nofun
  · exact absurd (hreconnect ▸ hlink.reconnect) nofun

/-- **An attempt** leads to a link that is kept exactly if it is sound. -/
theorem Unlinked.kept_iff (h : s.Unlinked) : (s.bscMscConnect attempt).Kept ↔ attempt.Sound s.config := by
  refine ⟨fun hkept => ?_, fun hsound => (h.steady_bscMscConnect hsound).kept⟩
  have hlink := hkept.link
  unfold bscMscConnect at hlink
  split at hlink
  case h_1 hdests => exact .inl hdests
  case h_2 dest dests hdests =>
    refine .inr ?_
    cases hsocket : attempt.socket with
    | false =>
      simp only [hsocket, Bool.not_false, if_true] at hlink
      exact absurd hlink (not_link_of_invalid rfl h.reconnect)
    | true =>
      refine ⟨rfl, fun hnonblocking hconnect => ?_⟩
      cases hregister : attempt.register with
      | true => rfl
      | false =>
        simp only [hsocket, Bool.not_true, Bool.false_eq_true, if_false, hnonblocking, if_true,
          ConnectAttempt.result, osmoFdRegister, hregister] at hlink
        cases hresult : attempt.connect with
        | failed => exact absurd hresult hconnect
        | inProgress | done =>
          rw [hresult] at hlink
          exact absurd hlink (not_link_of_closed rfl)

/-- A PING that is sent while the answer to another one is waited for sets the time for that anew. -/
theorem not_kept_pinged {sent wait : Int} (hunanswered : s.unanswered = some (sent, wait))
    (hping : 0 ≤ s.config.pingTimeout) (hlater : sent + wait < s.now + s.config.pongTimeout) :
    ¬ (s.expire attempt .ping).Kept := by
  intro hkept
  have hexpired : s.expire attempt .ping = { s with pingTimer := none }.mscPingTimeoutCb := rfl
  unfold mscPingTimeoutCb at hexpired
  rw [if_neg (Int.not_lt.mpr hping)] at hexpired
  obtain ⟨queue, write, -, heq⟩ := mscQueueWrite_eq (s := { s with pingTimer := none }) .ping
  rw [heq] at hexpired
  have hstill : (s.expire attempt .ping).unanswered = some (sent, wait) := by
    rw [hexpired]
    refine (unanswered_emit s (.ping s.now s.config.pongTimeout)).trans ?_
    rw [hunanswered]
    rfl
  obtain ⟨⟨due, hdue, hle⟩, -⟩ := hkept.dropped sent wait hstill
  rw [hexpired] at hdue
  cases hdue
  exact absurd hlater (Int.not_lt.mpr hle)

/-! ## Timeouts -/

/-- The time, and the timeouts. -/
def clock (s : MscLink) : Int × Int × Int := (s.now, s.config.pingTimeout, s.config.pongTimeout)

/-- Neither the time to the next PING nor that for the answer to the last one changes, except that it ends, or the next
    PING is sent and both begin. -/
structure Moves (s s' : MscLink) : Prop where
  clock : s'.clock = s.clock
  timers : ((s'.pingTimer = none ∨ s'.pingTimer = s.pingTimer) ∧ (s'.pongTimer = none ∨ s'.pongTimer = s.pongTimer)) ∨
    0 ≤ s.config.pingTimeout ∧ s'.pingTimer = some (s.now + s.config.pingTimeout) ∧
      s'.pongTimer = some (s.now + s.config.pongTimeout)

/-- Both stay as they are. -/
theorem Moves.same {s' : MscLink} (hclock : s'.clock = s.clock) (hping : s'.pingTimer = s.pingTimer)
    (hpong : s'.pongTimer = s.pongTimer) : Moves s s' := ⟨hclock, .inl ⟨.inr hping, .inr hpong⟩⟩

theorem moves_connectionLoss : Moves s s.connectionLoss := ⟨rfl, .inl ⟨.inl rfl, .inl rfl⟩⟩

theorem moves_bscMscLost : Moves s s.bscMscLost := by
  unfold bscMscLost
  dsimp only
  split
  · exact ⟨rfl, .inl ⟨.inl rfl, .inl rfl⟩⟩
  · exact ⟨rfl, .inl ⟨.inl rfl, .inl rfl⟩⟩

theorem moves_mscQueueWrite (msg : MscMsg) : Moves s (s.mscQueueWrite msg) := by
  obtain ⟨queue, write, -, heq⟩ := s.mscQueueWrite_eq msg
  rw [heq]
  exact .same rfl rfl rfl

theorem moves_mscPingTimeoutCb : Moves s s.mscPingTimeoutCb := by
  unfold mscPingTimeoutCb
  split
  case isTrue => exact .same rfl rfl rfl
  case isFalse hping =>
    obtain ⟨queue, write, -, heq⟩ := s.mscQueueWrite_eq .ping
    rw [heq]
    exact ⟨rfl, .inr ⟨Int.not_lt.mp hping, rfl, rfl⟩⟩

theorem moves_mscConnectionConnected {t : MscLink} (hclock : t.clock = s.clock) (hping : t.pingTimer = s.pingTimer)
    (hpong : t.pongTimer = s.pongTimer) : Moves s t.mscConnectionConnected := by
  obtain ⟨hafter, htimers⟩ := moves_mscPingTimeoutCb (s := t)
  obtain ⟨hnow, htimeouts⟩ := Prod.mk.inj hclock
  obtain ⟨hpingTimeout, hpongTimeout⟩ := Prod.mk.inj htimeouts
  rw [hping, hpong, hnow, hpingTimeout, hpongTimeout] at htimers
  exact ⟨hafter.trans hclock, htimers⟩

theorem Moves.osmoFdRegister {t : MscLink} (h : Moves s t) : Moves s (t.osmoFdRegister attempt) := by
  unfold MscLink.osmoFdRegister
  split <;> exact ⟨h.clock, h.timers⟩

theorem moves_bscMscConnect : Moves s (s.bscMscConnect attempt) := by
  unfold bscMscConnect
  split
  · exact moves_connectionLoss
  dsimp only
  split
  · exact .same rfl rfl rfl
  split
  · exact Moves.osmoFdRegister (.same rfl rfl rfl)
  · exact ⟨rfl, .inl ⟨.inl rfl, .inl rfl⟩⟩
  · refine Moves.osmoFdRegister ?_
    exact moves_mscConnectionConnected rfl rfl rfl

theorem moves_mscConnectionConnect (what : FdFlags) (error : Bool) : Moves s (s.mscConnectionConnect what error) := by
  unfold mscConnectionConnect
  split
  · exact .same rfl rfl rfl
  dsimp only
  split
  · exact ⟨rfl, .inl ⟨.inl rfl, .inl rfl⟩⟩
  · exact moves_mscConnectionConnected rfl rfl rfl

theorem moves_ipaccessAFdCb (recv : MscRecv) : Moves s (s.ipaccessAFdCb recv) := by
  cases recv with
  | closed => exact moves_bscMscLost
  | unreadable | other => exact .same rfl rfl rfl
  | idAck =>
    change Moves s s.initializeIfNeeded
    unfold initializeIfNeeded
    split
    · exact .same rfl rfl rfl
    · have hreset := moves_mscQueueWrite (s := s) .reset
      exact ⟨hreset.clock, hreset.timers⟩
  | idGet =>
    change Moves s s.sendIdGetResponse
    unfold sendIdGetResponse
    split
    · exact .same rfl rfl rfl
    · exact moves_mscQueueWrite _
  | pong => exact ⟨rfl, .inl ⟨.inr rfl, .inl rfl⟩⟩
  | lac =>
    change Moves s s.sendLacs
    unfold sendLacs
    split
    · exact moves_mscQueueWrite _
    · exact .same rfl rfl rfl

theorem moves_osmoWqueueBfdCb (what : FdFlags) (recv : MscRecv) : Moves s (s.osmoWqueueBfdCb what recv) := by
  have hread : Moves s (if what.read then s.ipaccessAFdCb recv else s) := by
    split
    · exact moves_ipaccessAFdCb recv
    · exact .same rfl rfl rfl
  unfold osmoWqueueBfdCb
  dsimp only
  split
  · split <;> exact ⟨hread.clock, hread.timers⟩
  · exact hread

theorem moves_expire (timer : MscTimer) : Moves s (s.expire attempt timer) := by
  cases timer with
  | reconnect =>
    have hconnect : Moves { s with reconnectTimer := none } (s.expire attempt .reconnect) := moves_bscMscConnect
    exact ⟨hconnect.clock, hconnect.timers⟩
  | timeout =>
    have hlost := moves_bscMscLost (s := { s with timeoutTimer := none })
    exact ⟨hlost.clock, hlost.timers⟩
  | ping =>
    obtain ⟨hclock, hsame | hsent⟩ := moves_mscPingTimeoutCb (s := { s with pingTimer := none })
    · exact ⟨hclock, .inl ⟨.inl (or_self_iff.mp hsame.1), hsame.2⟩⟩
    · exact ⟨hclock, .inr hsent⟩
  | pong =>
    obtain ⟨hclock, hsame | hsent⟩ := moves_bscMscLost (s := { s with pongTimer := none })
    · exact ⟨hclock, .inl ⟨hsame.1, .inl (or_self_iff.mp hsame.2)⟩⟩
    · exact ⟨hclock, .inr hsent⟩

/-! ## Runs -/

theorem step_ready_link (h : s.cb = .osmoWqueueBfdCb) (what : FdFlags) (recv : MscRecv) (error : Bool) :
    s.step (.ready what recv error) = s.osmoWqueueBfdCb what recv := by
  simp only [step, h]

theorem step_ready_connect (h : s.cb = .mscConnectionConnect) (what : FdFlags) (recv : MscRecv) (error : Bool) :
    s.step (.ready what recv error) = s.mscConnectionConnect what error := by
  simp only [step, h]

/-- **The step.** -/
theorem Steady.step {ev : MscEvent} (h : s.Steady) (henabled : s.Enabled ev) (hspares : s.Spares ev) :
    (s.step ev).Steady := by
  cases ev with
  | ready what recv error =>
    rcases h.link with ⟨hlink, -⟩ | ⟨hlink, -⟩ | ⟨hlink, -⟩
    · rw [step_ready_link hlink.cb]
      exact h.osmoWqueueBfdCb hlink what recv
    · rw [step_ready_connect hlink.cb]
      exact hlink.mscConnectionConnect h what error
    · exact absurd (hlink.registered.symm.trans henabled.1) nofun
  | expire timer attempt =>
    obtain ⟨due, hdue, -⟩ := henabled
    cases timer with
    | reconnect =>
      rcases h.link with ⟨-, -, hreconnect⟩ | ⟨-, hreconnect⟩ | ⟨hlink, -⟩
      · exact absurd (hreconnect.symm.trans hdue) nofun
      · exact absurd (hreconnect.symm.trans hdue) nofun
      · exact (hlink.unlinked h).steady_bscMscConnect hspares
    | timeout => exact steady_bscMscLost h.registered
    | ping =>
      cases hconnected : s.isConnected with
      | false => exact absurd ((h.idle hconnected).1.symm.trans hdue) nofun
      | true =>
        obtain ⟨hregistered, honline⟩ := h.online hconnected
        have hexpired : Online { s with pingTimer := none } :=
          ⟨honline.isConnected, honline.fd, honline.cb, honline.read, honline.timeout, honline.reconnect,
            honline.watched⟩
        exact (hexpired.mscPingTimeoutCb hspares).steady (registered_mscPingTimeoutCb.trans hregistered)
    | pong => exact steady_bscMscLost h.registered
  | elapse seconds => exact h.aside Connecting.write
  | send nr => exact h.mscQueueWrite _
  | drop =>
    change (if s.isConnected then s.bscMscLost else s).Steady
    split
    · exact steady_bscMscLost h.registered
    · exact h
  | configure config => exact h.aside Connecting.write

end MscLink

variable {config : MscConfig} {attempt : ConnectAttempt} {s : MscLink}

theorem steady_of_spares (hfirst : attempt.Sound config) (h : ReachableBy (mscSystem config attempt) MscLink.Spares s) :
    s.Steady := by
  refine h.invariant (fun s hinit => ?_) fun s ev s' hs hspares hstep => ?_
  · rw [hinit]
    exact (unlinked_init config).steady_bscMscConnect hfirst
  · rw [hstep.2]
    exact hs.step hstep.1 hspares

/-- **The link is kept** in every run whose attempts to connect are sound, and in which no PING is sent while the answer
    to another one is waited for; and not by a PING that gives more time for that answer. -/
theorem link_kept (hfirst : attempt.Sound config) (h : ReachableBy (mscSystem config attempt) MscLink.Spares s) :
    s.Kept ∧ ∀ sent wait, s.unanswered = some (sent, wait) → 0 ≤ s.config.pingTimeout →
      sent + wait < s.now + s.config.pongTimeout → ∀ next, ¬ (s.step (.expire .ping next)).Kept := by
  refine ⟨(steady_of_spares hfirst h).kept, fun sent wait hunanswered hping hlater next hkept => ?_⟩
  change (s.expire next .ping).Kept at hkept
  exact not_kept_pinged hunanswered hping hlater hkept

/-- One MSC, and the timeouts as they are without a configuration. -/
def localMsc : MscConfig := { dests := [⟨"127.0.0.1", 5000, 0⟩] }

/-- An attempt that gets no socket gives the MSC up. -/
theorem Unlinked.kept_iff_socket : ¬ (bscMscConnect { config := localMsc } { socket := false }).Kept :=
  fun h => absurd ((unlinked_init localMsc).kept_iff.mp h) (by rintro (h | ⟨h, -⟩) <;> cases h)

/-- The MSC is there at once and answers the PING, and when it is time the next one is sent. -/
theorem link_kept_answered :
    MscLink.Kept ((((osmoBscMscInit localMsc { connect := .done }).step (.ready { read := true } .pong false)).step
      (.elapse 20)).step (.expire .ping {})) := by
  have hfirst : ConnectAttempt.Sound { connect := .done } localMsc := .inr ⟨rfl, fun _ _ => rfl⟩
  have hanswered : ReachableBy (mscSystem localMsc { connect := .done }) MscLink.Spares _ :=
    .step (l := .ready { read := true } .pong false) (.init rfl) trivial ⟨⟨rfl, fun _ => rfl, nofun, nofun⟩, rfl⟩
  have hlater : ReachableBy (mscSystem localMsc { connect := .done }) MscLink.Spares _ :=
    .step (l := .elapse 20) hanswered trivial ⟨trivial, rfl⟩
  exact (link_kept hfirst (.step (l := .expire .ping {}) hlater (.inr rfl) ⟨⟨20, rfl, by decide⟩, rfl⟩)).1

/-- The MSC closes the connection; when it is time to connect again, there is no socket to be had. -/
theorem not_link_kept_socket : ¬ ∀ s, Reachable (mscSystem localMsc { connect := .done }) s → s.Kept := by
  intro h
  have hclosed : Reachable (mscSystem localMsc { connect := .done }) _ :=
    .step (l := .ready { read := true } .closed false) (.init rfl) trivial ⟨⟨rfl, fun _ => rfl, nofun, nofun⟩, rfl⟩
  have hlater : Reachable (mscSystem localMsc { connect := .done }) _ :=
    .step (l := .elapse 5) hclosed trivial ⟨trivial, rfl⟩
  have htried : Reachable (mscSystem localMsc { connect := .done }) _ :=
    .step (l := .expire .reconnect { socket := false }) hlater trivial ⟨⟨5, rfl, by decide⟩, rfl⟩
  exact not_link_of_invalid rfl rfl (h _ htried).link

/-- The next PING is sent after the time for the answer to this one. -/
def MscConfig.Patient (config : MscConfig) : Prop :=
  config.pingTimeout < 0 ∨ 0 < config.pingTimeout ∧ config.pongTimeout < config.pingTimeout

/-- Attempts to connect are sound, timers expire when they are due, and the operator knows how to set them. -/
def MscLink.Timely (s : MscLink) : MscEvent → Prop
  | .expire .reconnect attempt => attempt.Sound s.config
  | .elapse seconds => ∀ timer due, s.timer timer = some due → s.now + seconds ≤ max s.now due
  | .configure config => config.Patient
  | _ => True

/-- The next PING is sent later than an answer is waited for. -/
structure MscLink.Ordered (s : MscLink) : Prop where
  patient : s.config.Patient
  later : ∀ ping pong, s.pingTimer = some ping → s.pongTimer = some pong → s.now < ping ∧ pong < ping

theorem MscLink.Ordered.moves {s s' : MscLink} (h : s.Ordered) (hmoves : MscLink.Moves s s') : s'.Ordered := by
  obtain ⟨hclock, htimers⟩ := hmoves
  obtain ⟨hnow, htimeouts⟩ := Prod.mk.inj hclock
  obtain ⟨hping, hpong⟩ := Prod.mk.inj htimeouts
  have hpatient : s'.config.Patient := by
    unfold MscConfig.Patient
    rw [hping, hpong]
    exact h.patient
  refine ⟨hpatient, fun ping pong hping' hpong' => ?_⟩
  rw [hnow]
  rcases htimers with ⟨hsamePing, hsamePong⟩ | ⟨hnonneg, hsetPing, hsetPong⟩
  · exact h.later ping pong (hsamePing.resolve_left (by rw [hping']; exact nofun) ▸ hping')
      (hsamePong.resolve_left (by rw [hpong']; exact nofun) ▸ hpong')
  · obtain ⟨hpositive, hless⟩ := h.patient.resolve_left (by omega)
    cases hsetPing.symm.trans hping'
    cases hsetPong.symm.trans hpong'
    omega

/-- **No PING is sent while the answer to another one is waited for**, if timers expire when they are due and the time
    to wait for an answer is always the shorter one. -/
theorem spares_ping (hfirst : config.Patient) (h : ReachableBy (mscSystem config attempt) MscLink.Timely s)
    (hdue : s.Due .ping) : s.Spares (.expire .ping attempt) := by
  have hordered : s.Ordered := by
    refine h.invariant (fun s hinit => ?_) fun s ev s' hs htimely hstep => ?_
    · rw [hinit]
      have hbefore : MscLink.Ordered { config := config } := ⟨hfirst, nofun⟩
      exact hbefore.moves moves_bscMscConnect
    · rw [hstep.2]
      cases ev with
      | ready what recv error =>
        cases hcb : s.cb with
        | osmoWqueueBfdCb =>
          rw [step_ready_link hcb]
          exact hs.moves (moves_osmoWqueueBfdCb what recv)
        | mscConnectionConnect =>
          rw [step_ready_connect hcb]
          exact hs.moves (moves_mscConnectionConnect what error)
      | expire timer attempt => exact hs.moves (moves_expire timer)
      | elapse seconds =>
        refine ⟨hs.patient, fun ping pong hping hpong => ?_⟩
        obtain ⟨hlater, hless⟩ := hs.later ping pong hping hpong
        have hnow : s.now + seconds ≤ max s.now pong := htimely .pong pong hpong
        refine ⟨?_, hless⟩
        change s.now + seconds < ping
        omega
      | send nr => exact hs.moves (moves_mscQueueWrite _)
      | drop =>
        change MscLink.Ordered (if s.isConnected then s.bscMscLost else s)
        split
        · exact hs.moves moves_bscMscLost
        · exact hs
      | configure config => exact ⟨htimely, hs.later⟩
  obtain ⟨ping, hping, hnow⟩ := hdue
  refine .inr (Option.eq_none_iff_forall_not_mem.mpr fun pong hpong => ?_)
  exact absurd (hordered.later ping pong hping hpong).1 (by omega)

/-- So the link is kept in such a run. -/
theorem kept_of_patient (hsound : attempt.Sound config) (hpatient : config.Patient)
    (h : ReachableBy (mscSystem config attempt) MscLink.Timely s) : s.Kept := by
  refine (steady_of_spares hsound ?_).kept
  induction h with
  | init hinit => exact .init hinit
  | @step s s' ev hreach htimely hstep ih =>
    refine .step ih ?_ hstep
    cases ev with
    | expire timer attempt =>
      cases timer with
      | reconnect => exact htimely
      | ping =>
        have hspares := spares_ping hpatient hreach hstep.1
        exact hspares
      | timeout | pong => trivial
    | ready | elapse | send | drop | configure => trivial

/-- With the timeouts as they are without a configuration, the MSC answers the first PING, and the next one is sent. -/
theorem kept_of_patient_local :
    MscLink.Kept ((((osmoBscMscInit localMsc { connect := .done }).step (.ready { read := true } .pong false)).step
      (.elapse 20)).step (.expire .ping {})) := by
  have hanswered : ReachableBy (mscSystem localMsc { connect := .done }) MscLink.Timely _ :=
    .step (l := .ready { read := true } .pong false) (.init rfl) trivial ⟨⟨rfl, fun _ => rfl, nofun, nofun⟩, rfl⟩
  have htimely : MscLink.Timely ((osmoBscMscInit localMsc { connect := .done }).step
      (.ready { read := true } .pong false)) (.elapse 20) := by
    intro timer due hdue
    cases timer with
    | ping =>
      cases hdue
      decide
    | reconnect | timeout | pong => cases hdue
  have hlater : ReachableBy (mscSystem localMsc { connect := .done }) MscLink.Timely _ :=
    .step (l := .elapse 20) hanswered htimely ⟨trivial, rfl⟩
  exact kept_of_patient (.inr ⟨rfl, fun _ _ => rfl⟩) (.inr ⟨by decide, by decide⟩)
    (.step (l := .expire .ping {}) hlater trivial ⟨⟨20, rfl, by decide⟩, rfl⟩)

end OpenBsc.OsmoBsc
