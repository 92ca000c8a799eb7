import Mathlib.Data.List.Induction
import OpenBsc.Lib.Log
import OpenBsc.Libmsc.ConnMoves

/-!
# `Libmsc.ConnSecurity` — what authentication is worth on a connection

An operation does not record which step it is in. The handler of AUTHENTICATION RESPONSE compares the SRES and sends
the CIPHERING MODE COMMAND; the handler of CIPHERING MODE COMPLETE completes whatever operation there is. So the
success of an operation that authenticates follows a right response as long as the phone completes the ciphering only
after the command (`success_after_sres`), and otherwise need not.

The protocols above ask nobody: they look at the subscriber of the connection, which is named before the operation is
started. What waits for the operation are the answers the callbacks give (`service_gate`).
-/

namespace OpenBsc.Libmsc

open Transition Log Justified MscConn ReachableBy MscOut
open MscConn

/-! ## Authentication -/

/-- The entry is the start of an operation, which authenticates or not. -/
def MscOut.started? : MscOut → Option Bool
  | .opStarted authenticate => some authenticate
  | _ => none

def MscOut.isCipherMode : MscOut → Bool
  | .cipherMode _ _ => true
  | _ => false

/-- One more entry, for the operation that was started last. -/
def recordOp (op : Option (Bool × List MscOut)) (out : MscOut) : Option (Bool × List MscOut) :=
  match out.started? with
  | some authenticate => some (authenticate, [])
  | none => op.map fun o => (o.1, o.2 ++ [out])

/-- Whether the operation that was started last authenticates, and what was logged since. -/
def lastOp (log : List MscOut) : Option (Bool × List MscOut) := log.foldl recordOp none

/-- The network has sent its CIPHERING MODE COMMAND in the operation that was started last. -/
def commandSent (log : List MscOut) : Bool := (lastOp log).any fun o => o.2.any MscOut.isCipherMode

/-- An operation that authenticates succeeds only after the right response to it. -/
def AuthEnforced (log : List MscOut) : Prop :=
  Justified (fun before out => ∀ cb entries, out = .secCallback true cb .succeeded →
    lastOp before = some (true, entries) → .sresMatched ∈ entries) log

/-- Where an operation authenticates, the command follows the right response. -/
def CommandAfterMatch (log : List MscOut) : Prop :=
  ∀ entries, lastOp log = some (true, entries) → entries.any MscOut.isCipherMode = true → .sresMatched ∈ entries

/-- A CIPHERING MODE COMPLETE finds an operation only after the command in it was sent. -/
def CiphComplInTurn (s : MscConn) (ev : ConnEvent) : Prop := s.CompletesOp ev → commandSent s.log = true

variable {s s' : MscConn} {log : List MscOut} {out : MscOut}

theorem lastOp_snoc (log : List MscOut) (out : MscOut) : lastOp (log ++ [out]) = recordOp (lastOp log) out := by
  simp [lastOp, List.foldl_append]

theorem lastOp_snoc_of_not_start (h : out.started? = none) :
    lastOp (log ++ [out]) = (lastOp log).map fun o => (o.1, o.2 ++ [out]) := by
  rw [lastOp_snoc, recordOp, h]

theorem not_start_of_plain (h : out.plain = true) : out.started? = none ∧ out.isCipherMode = false := by
  cases out <;> first | exact ⟨rfl, rfl⟩ | cases h

theorem CommandAfterMatch.snoc (h : CommandAfterMatch log) (hstart : out.started? = none)
    (hcipher : out.isCipherMode = false) : CommandAfterMatch (log ++ [out]) := by
  intro entries hlast hany
  rw [lastOp_snoc_of_not_start hstart] at hlast
  obtain ⟨⟨b, old⟩, hold, heq⟩ := Option.map_eq_some_iff.mp hlast
  cases heq
  have hbefore : old.any isCipherMode = true := by simpa [hcipher] using hany
  exact List.mem_append_left _ (h old hold hbefore)

theorem CommandAfterMatch.start (authenticate : Bool) : CommandAfterMatch (log ++ [.opStarted authenticate]) := by
  intro entries hlast hany
  rw [lastOp_snoc] at hlast
  cases hlast
  cases hany

theorem CommandAfterMatch.matched (cipher : Octet) (kc : BitVec 64) :
    CommandAfterMatch (log ++ [.sresMatched] ++ [.cipherMode cipher kc]) := by
  intro entries hlast _
  rw [lastOp_snoc_of_not_start rfl, lastOp_snoc_of_not_start rfl, Option.map_map] at hlast
  obtain ⟨o, -, heq⟩ := Option.map_eq_some_iff.mp hlast
  obtain ⟨-, rfl⟩ := Prod.mk.inj heq
  simp

theorem CommandAfterMatch.ciph (cipher : Octet) (kc : BitVec 64) :
    CommandAfterMatch (log ++ [.opStarted false] ++ [.cipherMode cipher kc]) := by
  intro entries hlast
  rw [lastOp_snoc_of_not_start rfl, lastOp_snoc] at hlast
  simp [recordOp, started?] at hlast

/-- An entry that reports no success of an operation. -/
theorem AuthEnforced.snoc (h : AuthEnforced log) (hout : ∀ cb, out ≠ .secCallback true cb .succeeded) :
    AuthEnforced (log ++ [out]) :=
  Justified.snoc h fun cb _ heq => absurd heq (hout cb)

theorem not_success_of_plain (h : out.plain = true) (cb : SecCallback) : out ≠ .secCallback true cb .succeeded := by
  rintro rfl
  cases h

/-- What the log of a connection is like. -/
structure SecInv (s : MscConn) : Prop where
  enforced : AuthEnforced s.log
  command : CommandAfterMatch s.log

theorem SecInv.emit (h : SecInv s) (hstart : out.started? = none) (hcipher : out.isCipherMode = false)
    (hout : ∀ cb, out ≠ .secCallback true cb .succeeded) : SecInv (s.emit out) :=
  ⟨h.enforced.snoc hout, h.command.snoc hstart hcipher⟩

/-- **One move.** Success is reported where the command was sent, so after the right response. -/
theorem SecInv.move (h : SecInv s) (hmove : Move (fun s => commandSent s.log = true) s s') : SecInv s' := by
  cases hmove with
  | quiet hlog =>
    refine ⟨?_, ?_⟩
    · rw [hlog]
      exact h.enforced
    · rw [hlog]
      exact h.command
  | plain hplain =>
    exact h.emit (not_start_of_plain hplain).1 (not_start_of_plain hplain).2 (not_success_of_plain hplain)
  | dropSec | effect => exact ⟨h.enforced, h.command⟩
  | named | made => exact ⟨h.enforced.snoc (by simp), h.command.snoc rfl rfl⟩
  | ownNumber => exact h.emit rfl rfl (by simp)
  | callback hcb =>
    refine h.emit rfl rfl fun cb heq => ?_
    obtain ⟨hop, -, hsucceeded⟩ := secCallback.inj heq
    exact hcb hop hsucceeded
  | opSucceeded hop hsent =>
    refine ⟨snoc h.enforced fun cb entries _ hlast => ?_, h.command.snoc rfl rfl⟩
    rw [commandSent, hlast] at hsent
    exact h.command entries hlast hsent
  | cmServAck | locUpdAcc | paged => exact h.emit rfl rfl (by simp)
  | startAuth => exact ⟨h.enforced.snoc (by simp), CommandAfterMatch.start true⟩
  | startCiph => exact ⟨(h.enforced.snoc (by simp)).snoc (by simp), CommandAfterMatch.ciph _ _⟩
  | matched => exact ⟨(h.enforced.snoc (by simp)).snoc (by simp), CommandAfterMatch.matched _ _⟩

theorem secInv_init (h : connSystem.init s) : SecInv s := by
  obtain ⟨net, rfl, -, -⟩ := h
  refine ⟨nil, fun entries hlast => ?_⟩
  cases hlast

/-- **Authentication.** As long as CIPHERING MODE COMPLETE comes after the command, an operation that authenticates
    succeeds only after the right response. -/
theorem success_after_sres (s : MscConn) (h : ReachableBy connSystem CiphComplInTurn s) : AuthEnforced s.log :=
  (invariant_of_moves (I := SecInv) (fun _ _ hturn hcompletes => hturn hcompletes) (fun _ hs => secInv_init hs)
    (fun _ _ hI hmove => hI.move hmove) h).enforced

instance (s : MscConn) : (ev : ConnEvent) → Decidable (s.CompletesOp ev)
  | .dtap _ msg =>
    inferInstanceAs (Decidable
      (s.silentCallReroute msg = false ∧ msg.kind = .rr .ciphMCompl ∧ s.secOperation.isSome = true))
  | .updatingTimer _ | .anchorTimer | .silentCallStop | .clearRequest _ | .transEffects _ =>
    inferInstanceAs (Decidable False)

instance (s : MscConn) (ev : ConnEvent) : Decidable (CiphComplInTurn s ev) :=
  inferInstanceAs (Decidable (s.CompletesOp ev → commandSent s.log = true))

/-- One subscriber, number 7, who has to authenticate; A5/1 is used. -/
def authEnv : MscEnv where
  a5Encryption := 1
  authGetTuple := fun _ _ => .doAuthThanCiph { sres := 0xcafe }
  subscrByTmsi := fun _ => some 7

def mmMsg (type : Octet) (sres : BitVec 32) : ConnEvent :=
  .dtap authEnv { protoDiscr := 0x05, msgType := type, mi := .tmsi 1, dataLen := 20, miLen := 5, sres := sres }

def ciphMComplMsg : ConnEvent := .dtap authEnv { protoDiscr := 0x06, msgType := 0x32 }

/-- A CM SERVICE REQUEST, the response and the end of ciphering. -/
theorem success_after_sres_service :
    ∃ s, guardedRun step CiphComplInTurn (newConn {}) [mmMsg 0x24 0, mmMsg 0x14 0xcafe, ciphMComplMsg] = some s ∧
      .secCallback true .servReq .succeeded ∈ s.log ∧ AuthEnforced s.log := by
  obtain ⟨s, hs, hmem⟩ :
      ∃ s ∈ guardedRun step CiphComplInTurn (newConn {}) [mmMsg 0x24 0, mmMsg 0x14 0xcafe, ciphMComplMsg],
        .secCallback true .servReq .succeeded ∈ s.log := by decide +kernel
  have hinit : connSystem.init (newConn {}) := ⟨{}, rfl, rfl, fun i t h => by cases h⟩
  exact ⟨s, hs, hmem, success_after_sres s (guardedRun (fun _ _ _ h => h) (.init hinit) hs)⟩

/-- A CIPHERING MODE COMPLETE instead of the response completes the operation. -/
theorem success_without_sres : ¬ ∀ s, Reachable connSystem s → AuthEnforced s.log := by
  intro hall
  obtain ⟨s, hs, hlog⟩ :
      ∃ s ∈ guardedRun step (fun _ _ => True) (newConn {}) [mmMsg 0x24 0, ciphMComplMsg],
        s.log = [.named .servReq 7, .opStarted true, .authReq 0 0, .secCallback true .servReq .succeeded] := by
    decide +kernel
  have hinit : connSystem.init (newConn {}) := ⟨{}, rfl, rfl, fun i t h => by cases h⟩
  have henforced := hall s (guardedRun (fun _ _ _ h => h) (.init hinit) hs)
  have hmatched := henforced [.named .servReq 7, .opStarted true, .authReq 0 0] _ [] hlog _ _ rfl rfl
  exact absurd hmatched (by decide)

/-! ## Service -/

/-- The entry names the subscriber of the connection. -/
def MscOut.named? : MscOut → Option Nat
  | .named _ subscr => some subscr
  | _ => none

/-- Who was named last on the connection. -/
def lastNamed (log : List MscOut) : Option Nat := log.foldl (fun subscr out => out.named?.or subscr) none

/-- What stands before a transaction for the phone, or the answer to its request, and before the three answers that
    wait for security. -/
def ServedAfter (before : List MscOut) : MscOut → Prop
  | .transMade _ subscr => lastNamed before = some subscr
  | .ussdOwnNumber subscr => lastNamed before = some subscr
  | .cmServAck => PassedTo .servReq before
  | .locUpdAcc subscr => PassedTo .authorize before ∧ lastNamed before = some subscr
  | .pagingResult true => PassedTo .paging before
  | _ => True

/-- The gate of the services. -/
def ServiceGate (log : List MscOut) : Prop := Justified ServedAfter log

theorem lastNamed_snoc (log : List MscOut) (out : MscOut) :
    lastNamed (log ++ [out]) = out.named?.or (lastNamed log) := by
  simp [lastNamed, List.foldl_append]

theorem lastNamed_snoc_of_not_named (h : out.named? = none) : lastNamed (log ++ [out]) = lastNamed log := by
  rw [lastNamed_snoc, h]
  rfl

theorem named_of_lastNamed {subscr : Nat} (h : lastNamed log = some subscr) : ∃ how, .named how subscr ∈ log := by
  induction log using List.reverseRecOn with
  | nil => cases h
  | append_singleton log out ih =>
    rw [lastNamed_snoc] at h
    cases hout : out.named? with
    | none =>
      rw [hout] at h
      obtain ⟨how, hmem⟩ := ih h
      exact ⟨how, List.mem_append_left _ hmem⟩
    | some other =>
      rw [hout] at h
      cases h
      unfold named? at hout
      split at hout
      next how subscr =>
        cases hout
        exact ⟨how, by simp⟩
      · cases hout

theorem plain_served (before : List MscOut) (h : out.plain = true) : out.named? = none ∧ ServedAfter before out := by
  cases out with
  | pagingResult succeeded =>
    cases succeeded with
    | true => cases h
    | false => exact ⟨rfl, trivial⟩
  | _ => first | exact ⟨rfl, trivial⟩ | cases h

/-- The subscriber of the connection is the one named last, and the gate was kept. -/
structure GateInv (s : MscConn) : Prop where
  gated : ServiceGate s.log
  subscr : lastNamed s.log = s.subscr

theorem GateInv.emit (h : GateInv s) (hnamed : out.named? = none) (hserved : ServedAfter s.log out) :
    GateInv (s.emit out) :=
  ⟨snoc h.gated hserved, (lastNamed_snoc_of_not_named hnamed).trans h.subscr⟩

/-- **One move.** Whoever is served is the subscriber of the connection. -/
theorem GateInv.move (h : GateInv s) (hmove : Move (fun _ => True) s s') : GateInv s' := by
  cases hmove with
  | quiet hlog _ hsubscr =>
    refine ⟨?_, ?_⟩
    · rw [hlog]
      exact h.gated
    · rw [hlog, hsubscr]
      exact h.subscr
  | plain hplain => exact h.emit (plain_served s.log hplain).1 (plain_served s.log hplain).2
  | dropSec | effect => exact ⟨h.gated, h.subscr⟩
  | named how subscr => exact ⟨snoc h.gated trivial, lastNamed_snoc _ _⟩
  | made e hsubscr =>
    have hlast := h.subscr.trans hsubscr
    exact ⟨snoc h.gated hlast, (lastNamed_snoc_of_not_named rfl).trans h.subscr⟩
  | ownNumber hsubscr => exact h.emit rfl (h.subscr.trans hsubscr)
  | callback | opSucceeded => exact h.emit rfl trivial
  | cmServAck hpassed => exact h.emit rfl hpassed
  | locUpdAcc hpassed hsubscr => exact h.emit rfl ⟨hpassed, h.subscr.trans hsubscr⟩
  | paged hpassed => exact h.emit rfl hpassed
  | startAuth =>
    exact ⟨snoc h.gated trivial, (lastNamed_snoc_of_not_named rfl).trans h.subscr⟩
  | startCiph | matched =>
    refine ⟨snoc (snoc h.gated trivial) trivial, ?_⟩
    exact (lastNamed_snoc_of_not_named rfl).trans ((lastNamed_snoc_of_not_named rfl).trans h.subscr)

theorem gateInv_reachable (h : Reachable connSystem s) : GateInv s := by
  refine invariant_of_moves (G := fun _ => True) (fun _ _ _ _ => trivial) ?_ (fun _ _ hI hmove => hI.move hmove) h
  rintro s ⟨net, rfl, -, -⟩
  exact ⟨nil, rfl⟩

/-- **The gate.** A message of the phone makes a transaction, and a request is answered with the number, only for the
    subscriber whom a message on the connection named last; a CM SERVICE REQUEST, a location update and a paging request
    are answered right after their callback was told that the channel is as secure as it has to be. -/
theorem service_gate (s : MscConn) (h : Reachable connSystem s) :
    ServiceGate s.log ∧
    ∀ before out after, s.log = before ++ out :: after → ∀ subscr,
      (∃ proto, out = .transMade proto subscr) ∨ out = .ussdOwnNumber subscr → ∃ how, .named how subscr ∈ before := by
  have hgate := (gateInv_reachable h).gated
  refine ⟨hgate, ?_⟩
  rintro before out after hlog subscr (⟨proto, rfl⟩ | rfl)
  · exact named_of_lastNamed (hgate before _ after hlog)
  · exact named_of_lastNamed (hgate before _ after hlog)

/-- A call: the service is requested and secured before the SETUP. -/
theorem service_gate_call :
    ∃ s, guardedRun step (fun _ _ => True) (newConn {})
        [mmMsg 0x24 0, mmMsg 0x14 0xcafe, ciphMComplMsg,
          .dtap authEnv { protoDiscr := 0x03, msgType := 0x05 }] = some s ∧
      .transMade .cc 7 ∈ s.log ∧ ServiceGate s.log := by
  obtain ⟨s, hs, hmem⟩ :
      ∃ s ∈ guardedRun step (fun _ _ => True) (newConn {})
          [mmMsg 0x24 0, mmMsg 0x14 0xcafe, ciphMComplMsg, .dtap authEnv { protoDiscr := 0x03, msgType := 0x05 }],
        .transMade .cc 7 ∈ s.log := by decide +kernel
  have hinit : connSystem.init (newConn {}) := ⟨{}, rfl, rfl, fun i t h => by cases h⟩
  exact ⟨s, hs, hmem, (service_gate s (guardedRun (fun _ _ _ h => h) (.init hinit) hs)).1⟩

/-- A transaction for the phone comes after a callback that was told no failure. -/
def MadeAfterSecurity (log : List MscOut) : Prop :=
  Justified (fun before out => ∀ proto subscr, out = .transMade proto subscr →
    ∃ ofOp cb event, .secCallback ofOp cb event ∈ before ∧ event ≠ .authFailed) log

/-- A SETUP instead of the AUTHENTICATION RESPONSE makes a transaction. -/
theorem setup_before_security : ¬ ∀ s, Reachable connSystem s → MadeAfterSecurity s.log := by
  intro hall
  obtain ⟨s, hs, hlog⟩ :
      ∃ s ∈ guardedRun step (fun _ _ => True) (newConn {})
          [mmMsg 0x24 0, .dtap authEnv { protoDiscr := 0x03, msgType := 0x05 }],
        s.log = [.named .servReq 7, .opStarted true, .authReq 0 0, .transMade .cc 7] := by
    decide +kernel
  have hinit : connSystem.init (newConn {}) := ⟨{}, rfl, rfl, fun i t h => by cases h⟩
  have hmade := hall s (guardedRun (fun _ _ _ h => h) (.init hinit) hs)
  obtain ⟨ofOp, cb, event, hmem, -⟩ := hmade [.named .servReq 7, .opStarted true, .authReq 0 0] _ [] hlog .cc 7 rfl
  simp at hmem

end OpenBsc.Libmsc
