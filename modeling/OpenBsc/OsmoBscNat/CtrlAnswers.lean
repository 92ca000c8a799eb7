import OpenBsc.OsmoBscNat.Ctrl

/-!
# `OsmoBscNat.CtrlAnswers` — every forwarded command and its one answer

A command that is forwarded is pending until one of four things ends it: a message of its BSC with its id, the timer,
the end of the BSC's connection, or the end of the connection it came from. The first three answer it under its own id.
The variable of a reply is put together from the first location area of the BSC, whichever the operator named.
-/

namespace OpenBsc.OsmoBscNat

open Libctrl Strtok Transition CtrlNat CtrlOut Pool ReachableBy List Option

/-! ## Entries -/

/-- The pending entry an output is about. -/
def CtrlOut.entry? : CtrlOut → Option Nat
  | .forwarded i _ _ _ _ | .answered i _ _ _ | .unsent i _ _ | .dropped i => some i
  | .refused _ _ | .toBsc _ _ => none

/-- The output ends the entry `i`. -/
def CtrlOut.ends (i : Nat) : CtrlOut → Bool
  | .answered j _ _ _ | .unsent j _ _ | .dropped j => j = i
  | .forwarded _ _ _ _ _ | .refused _ _ | .toBsc _ _ => false

/-- The command `answer` on the control connection `c` answers `cmd`, which came from `ccon` and went to `bsc` as
    `bscCmd`. -/
structure Fits (ccon : Nat) (cmd : CtrlCmd) (bsc : Nat) (bscCmd : CtrlCmd) (c : Nat) (answer : CtrlCmd)
    (cause : AnswerCause) : Prop where
  ccon : c = ccon
  id : answer.id = cmd.id
  reply : ∀ b lac raw, cause = .reply b lac raw →
    b = bsc ∧ (∃ natId : Nat, bscCmd.id = some (decimal natId) ∧ atoi (raw.id.getD []) = natId) ∧
      answer = { raw with id := cmd.id, var := raw.var.map (CtrlNat.prefixed lac) }
  timeout : cause = .timeout → answer.type = .error ∧ answer.reply = some (octets "Command timed out")
  bscClosed : cause = .bscClosed → answer.type = .error ∧ answer.reply = some (octets "BSC closed the connection")

variable {i : Nat}

theorem entry?_of_ends {out : CtrlOut} (h : out.ends i = true) : out.entry? = some i := by
  cases out with
  | answered | unsent | dropped => exact congrArg some (of_decide_eq_true h)
  | _ => cases h

theorem ends_of_entry {out : CtrlOut} (h : out.entry? ≠ some i) : out.ends i = false := by
  rw [Bool.eq_false_iff]
  intro hends
  exact h (entry?_of_ends hends)

/-- The command `bscCmd` is `cmd` for a BSC: under an id of the NAT, and for the name behind the location area. -/
def SentAs (cmd bscCmd : CtrlCmd) : Prop :=
  ∃ var lac name natId, cmd.var = some var ∧ splitVariable var = some (lac, name) ∧
    bscCmd = { cmd with id := some (decimal natId), var := some name }

/-! ## The invariant -/

/-- Of the commands that were forwarded each is pending or was ended once. `closing` are control connections that are
    being closed. -/
structure CtrlInv (closing : Nat → Prop) (nat : CtrlNat) : Prop where
  ids : nat.pending.Pairwise fun p q => p.bsc = q.bsc → p.natId ≠ q.natId
  linked : ∀ i p, nat.pending.get? i = some p →
    (nat.ccons.get? p.ccon).isSome ∧ (nat.bscs.get? p.bsc).isSome
  listed : ∀ i p, nat.pending.get? i = some p → ∃ cmd bscCmd, CtrlOut.forwarded i p.ccon cmd p.bsc bscCmd ∈ nat.outs
  entries : ∀ i p, nat.pending.get? i = some p → ∀ c cmd b bscCmd, CtrlOut.forwarded i c cmd b bscCmd ∈ nat.outs →
    c = p.ccon ∧ b = p.bsc ∧ p.cmd.id = cmd.id ∧ bscCmd.id = some (decimal p.natId)
  known : ∀ out ∈ nat.outs, ∀ i, out.entry? = some i → i < nat.pending.next
  once : ∀ i < nat.pending.next, nat.outs.countP (CtrlOut.ends i) + (if (nat.pending.get? i).isSome then 1 else 0) = 1
  fits : ∀ i c cmd b bscCmd, CtrlOut.forwarded i c cmd b bscCmd ∈ nat.outs →
    ∀ c' answer cause, CtrlOut.answered i c' answer cause ∈ nat.outs → Fits c cmd b bscCmd c' answer cause
  unsent : ∀ i cmd queued, CtrlOut.unsent i cmd queued ∈ nat.outs → ctrlCmdSend queued cmd = false
  sent : ∀ i c cmd b bscCmd, CtrlOut.forwarded i c cmd b bscCmd ∈ nat.outs → SentAs cmd bscCmd
  opened : ∀ i c cmd b bscCmd, CtrlOut.forwarded i c cmd b bscCmd ∈ nat.outs → c < nat.ccons.next
  gone : ∀ i c cmd b bscCmd, CtrlOut.forwarded i c cmd b bscCmd ∈ nat.outs → CtrlOut.dropped i ∈ nat.outs →
    nat.ccons.get? c = none ∨ closing c

variable {closing : Nat → Prop} {nat nat' : CtrlNat}

/-- The same connections are there. -/
structure SameLinks (nat nat' : CtrlNat) : Prop where
  ccons : ∀ c, (nat'.ccons.get? c).isSome = (nat.ccons.get? c).isSome
  next : nat'.ccons.next = nat.ccons.next
  bscs : ∀ b, (nat'.bscs.get? b).isSome = (nat.bscs.get? b).isSome

theorem isSome_get?_modify {α : Type} (p : Pool α) (i j : Nat) (f : α → α) :
    ((p.modify i f).get? j).isSome = (p.get? j).isSome := by
  rw [get?_modify]
  split
  · rw [isSome_map]
  · rfl

theorem SameLinks.refl (nat : CtrlNat) : SameLinks nat nat := ⟨fun _ => rfl, rfl, fun _ => rfl⟩

/-- What else changes does not matter. -/
theorem SameLinks.of_eq {nat'' : CtrlNat} (h : SameLinks nat nat') (hccons : nat''.ccons = nat'.ccons)
    (hbscs : nat''.bscs = nat'.bscs) : SameLinks nat nat'' := by
  obtain ⟨hc, hn, hb⟩ := h
  rw [← hccons] at hc hn
  rw [← hbscs] at hb
  exact ⟨hc, hn, hb⟩

theorem SameLinks.trans {nat'' : CtrlNat} (h : SameLinks nat nat') (h' : SameLinks nat' nat'') :
    SameLinks nat nat'' :=
  ⟨fun c => (h'.ccons c).trans (h.ccons c), h'.next.trans h.next, fun b => (h'.bscs b).trans (h.bscs b)⟩

theorem SameLinks.modifyCcon (nat : CtrlNat) (c : Nat) (f : CtrlConnection → CtrlConnection) :
    SameLinks nat (nat.modifyCcon c f) :=
  ⟨fun c' => isSome_get?_modify nat.ccons c c' f, rfl, fun _ => rfl⟩

theorem SameLinks.modifyBsc (nat : CtrlNat) (b : Nat) (f : CtrlBsc → CtrlBsc) : SameLinks nat (nat.modifyBsc b f) :=
  ⟨fun _ => rfl, rfl, fun b' => isSome_get?_modify nat.bscs b b' f⟩

variable {c : Nat}

theorem SameLinks.get?_none (h : SameLinks nat nat') (hc : nat.ccons.get? c = none) : nat'.ccons.get? c = none := by
  have hsame := h.ccons c
  rw [hc] at hsame
  exact not_isSome_iff_eq_none.mp (by simp [hsame])

/-- **A quiet change.** The entries stay, what is written is about none of them, and the connections of the entries
    stay. -/
theorem CtrlInv.quiet {closing' : Nat → Prop} (h : CtrlInv closing nat) (outs : List CtrlOut)
    (houts : ∀ out ∈ outs, out.entry? = none) (hpending : nat'.pending = nat.pending)
    (hlog : nat'.outs = nat.outs ++ outs)
    (hlinked : ∀ i p, nat.pending.get? i = some p → (nat'.ccons.get? p.ccon).isSome ∧ (nat'.bscs.get? p.bsc).isSome)
    (hnext : nat.ccons.next ≤ nat'.ccons.next)
    (hgone : ∀ c < nat.ccons.next, nat.ccons.get? c = none ∨ closing c → nat'.ccons.get? c = none ∨ closing' c) :
    CtrlInv closing' nat' := by
  have hold {out : CtrlOut} {i : Nat} (hentry : out.entry? = some i) (hmem : out ∈ nat'.outs) : out ∈ nat.outs := by
    rw [hlog, mem_append] at hmem
    rcases hmem with hmem | hmem
    · exact hmem
    · rw [houts out hmem] at hentry
      cases hentry
  have hcount (i : Nat) : nat'.outs.countP (ends i) = nat.outs.countP (ends i) := by
    have hnone : outs.countP (ends i) = 0 := by
      refine countP_eq_zero.mpr ?_
      intro out hout
      rw [ends_of_entry (by simp [houts out hout])]
      exact Bool.false_ne_true
    rw [hlog, countP_append, hnone, Nat.add_zero]
  constructor
  case ids => exact hpending ▸ h.ids
  case linked =>
    intro i p hp
    exact hlinked i p (hpending ▸ hp)
  case listed =>
    intro i p hp
    obtain ⟨cmd, bscCmd, hmem⟩ := h.listed i p (hpending ▸ hp)
    exact ⟨cmd, bscCmd, hlog ▸ mem_append_left _ hmem⟩
  case entries =>
    intro i p hp c cmd b bscCmd hmem
    exact h.entries i p (hpending ▸ hp) c cmd b bscCmd (hold rfl hmem)
  case known =>
    intro out hmem i hi
    rw [hpending]
    exact h.known out (hold hi hmem) i hi
  case once =>
    intro i hi
    rw [hpending] at hi ⊢
    rw [hcount]
    exact h.once i hi
  case fits =>
    intro i c cmd b bscCmd hmem c' answer cause hanswer
    exact h.fits i c cmd b bscCmd (hold rfl hmem) c' answer cause (hold rfl hanswer)
  case unsent =>
    intro i cmd queued hmem
    exact h.unsent i cmd queued (hold rfl hmem)
  case sent =>
    intro i c cmd b bscCmd hmem
    exact h.sent i c cmd b bscCmd (hold rfl hmem)
  case opened =>
    intro i c cmd b bscCmd hmem
    exact Nat.lt_of_lt_of_le (h.opened i c cmd b bscCmd (hold rfl hmem)) hnext
  case gone =>
    intro i c cmd b bscCmd hmem hdropped
    have hlt := h.opened i c cmd b bscCmd (hold rfl hmem)
    exact hgone c hlt (h.gone i c cmd b bscCmd (hold rfl hmem) (hold rfl hdropped))

theorem CtrlInv.same (h : CtrlInv closing nat) (outs : List CtrlOut) (houts : ∀ out ∈ outs, out.entry? = none)
    (hpending : nat'.pending = nat.pending) (hlog : nat'.outs = nat.outs ++ outs) (hlinks : SameLinks nat nat') :
    CtrlInv closing nat' := by
  refine h.quiet outs houts hpending hlog ?_ (Nat.le_of_eq hlinks.next.symm) ?_
  · intro i p hp
    rw [hlinks.ccons, hlinks.bscs]
    exact h.linked i p hp
  · intro c _ hc
    exact hc.imp_left hlinks.get?_none

variable {p : BscCmdList}

/-- **The end of an entry.** It is taken out, and one output says how it ended. -/
theorem CtrlInv.finish (h : CtrlInv closing nat) (hp : nat.pending.get? i = some p) (out : CtrlOut)
    (hpending : nat'.pending = nat.pending.remove i) (hlog : nat'.outs = nat.outs ++ [out])
    (hlinks : SameLinks nat nat') (hends : out.ends i = true)
    (hanswer : ∀ j c answer cause, out = .answered j c answer cause →
      ∀ ccon cmd b bscCmd, forwarded i ccon cmd b bscCmd ∈ nat.outs → Fits ccon cmd b bscCmd c answer cause)
    (hunsent : ∀ j cmd queued, out = .unsent j cmd queued → ctrlCmdSend queued cmd = false)
    (hdrop : out = .dropped i → closing p.ccon) : CtrlInv closing nat' := by
  have hentry : out.entry? = some i := entry?_of_ends hends
  have hforwarded {j c : Nat} {cmd : CtrlCmd} {b : Nat} {bscCmd : CtrlCmd}
      (hmem : forwarded j c cmd b bscCmd ∈ nat'.outs) : forwarded j c cmd b bscCmd ∈ nat.outs := by
    rw [hlog, mem_append, mem_singleton] at hmem
    rcases hmem with hmem | rfl
    · exact hmem
    · cases hends
  have hget {j : Nat} {q : BscCmdList} (hq : nat'.pending.get? j = some q) : nat.pending.get? j = some q := by
    rw [hpending] at hq
    exact (get?_of_remove hq).2
  have hcount (j : Nat) : nat'.outs.countP (ends j) = nat.outs.countP (ends j) + if j = i then 1 else 0 := by
    rw [hlog, countP_append, countP_singleton]
    by_cases hj : j = i
    · rw [hj, hends]
      simp
    · rw [ends_of_entry (by rw [hentry]; exact fun heq => hj (some.inj heq).symm)]
      simp [hj]
  constructor
  case ids =>
    rw [hpending]
    exact h.ids.remove i
  case linked =>
    intro j q hq
    rw [hlinks.ccons, hlinks.bscs]
    exact h.linked j q (hget hq)
  case listed =>
    intro j q hq
    obtain ⟨cmd, bscCmd, hmem⟩ := h.listed j q (hget hq)
    exact ⟨cmd, bscCmd, hlog ▸ mem_append_left _ hmem⟩
  case entries =>
    intro j q hq c cmd b bscCmd hmem
    exact h.entries j q (hget hq) c cmd b bscCmd (hforwarded hmem)
  case known =>
    intro o hmem j hj
    rw [hpending]
    show j < nat.pending.next
    rw [hlog, mem_append, mem_singleton] at hmem
    rcases hmem with hmem | rfl
    · exact h.known o hmem j hj
    · cases hentry.symm.trans hj
      exact get?_lt hp
  case once =>
    intro j hj
    rw [hpending] at hj ⊢
    have honce := h.once j hj
    rw [hcount, get?_remove]
    by_cases hji : j = i
    · subst hji
      rw [hp] at honce
      simpa using honce
    · simpa [hji] using honce
  case fits =>
    intro j c cmd b bscCmd hmem c' answer cause hans
    rw [hlog, mem_append, mem_singleton] at hans
    rcases hans with hans | hans
    · exact h.fits j c cmd b bscCmd (hforwarded hmem) c' answer cause hans
    · obtain rfl : j = i := by
        rw [← hans] at hentry
        exact some.inj hentry
      exact hanswer j c' answer cause hans.symm c cmd b bscCmd (hforwarded hmem)
  case unsent =>
    intro j cmd queued hmem
    rw [hlog, mem_append, mem_singleton] at hmem
    rcases hmem with hmem | hmem
    · exact h.unsent j cmd queued hmem
    · exact hunsent j cmd queued hmem.symm
  case sent =>
    intro j c cmd b bscCmd hmem
    exact h.sent j c cmd b bscCmd (hforwarded hmem)
  case opened =>
    intro j c cmd b bscCmd hmem
    rw [hlinks.next]
    exact h.opened j c cmd b bscCmd (hforwarded hmem)
  case gone =>
    intro j c cmd b bscCmd hmem hdropped
    rw [hlog, mem_append, mem_singleton] at hdropped
    rcases hdropped with hdropped | hdropped
    · exact (h.gone j c cmd b bscCmd (hforwarded hmem) hdropped).imp_left hlinks.get?_none
    · obtain rfl : j = i := by
        rw [← hdropped] at hentry
        exact some.inj hentry
      rw [(h.entries j p hp c cmd b bscCmd (hforwarded hmem)).1]
      exact .inr (hdrop hdropped.symm)

/-- **A forwarded command.** A new entry under an id that no entry of its BSC has. -/
theorem CtrlInv.forward (h : CtrlInv closing nat) {cmd bscCmd : CtrlCmd}
    (hpending : nat'.pending = nat.pending.alloc p)
    (hlog : nat'.outs = nat.outs ++ [.forwarded nat.pending.next p.ccon cmd p.bsc bscCmd])
    (hlinks : SameLinks nat nat') (hccon : (nat.ccons.get? p.ccon).isSome) (hbsc : (nat.bscs.get? p.bsc).isSome)
    (hfree : ∀ j q, nat.pending.get? j = some q → p.bsc = q.bsc → p.natId ≠ q.natId) (hid : p.cmd.id = cmd.id)
    (hbscId : bscCmd.id = some (decimal p.natId)) (hsent : SentAs cmd bscCmd) : CtrlInv closing nat' := by
  have hold {out : CtrlOut} {i : Nat} (hmem : out ∈ nat'.outs) (hentry : out.entry? = some i)
      (hi : i ≠ nat.pending.next) : out ∈ nat.outs := by
    rw [hlog, mem_append, mem_singleton] at hmem
    rcases hmem with hmem | rfl
    · exact hmem
    · exact absurd (some.inj hentry).symm hi
  have hnew {c : Nat} {cmd' : CtrlCmd} {b : Nat} {bscCmd' : CtrlCmd}
      (hmem : forwarded nat.pending.next c cmd' b bscCmd' ∈ nat'.outs) :
      c = p.ccon ∧ cmd' = cmd ∧ b = p.bsc ∧ bscCmd' = bscCmd := by
    rw [hlog, mem_append, mem_singleton] at hmem
    rcases hmem with hmem | heq
    · exact absurd (h.known _ hmem _ rfl) (Nat.lt_irrefl _)
    · cases heq
      exact ⟨rfl, rfl, rfl, rfl⟩
  have hending {out : CtrlOut} (hmem : out ∈ nat'.outs) (hne : ∀ c cmd b bscCmd i, out ≠ .forwarded i c cmd b bscCmd) :
      out ∈ nat.outs := by
    rw [hlog, mem_append, mem_singleton] at hmem
    exact hmem.resolve_right (hne _ _ _ _ _)
  have hcount (i : Nat) : nat'.outs.countP (ends i) = nat.outs.countP (ends i) := by
    rw [hlog, countP_append, countP_singleton]
    simp [ends]
  constructor
  case ids =>
    rw [hpending]
    exact h.ids.alloc (fun a b hab heq hid => hab heq.symm hid.symm) fun j q hq heq => hfree j q hq heq
  case linked =>
    intro i q hq
    rw [hlinks.ccons, hlinks.bscs]
    rw [hpending, get?_alloc] at hq
    by_cases hi : i = nat.pending.next
    · rw [if_pos hi] at hq
      cases hq
      exact ⟨hccon, hbsc⟩
    · rw [if_neg hi] at hq
      exact h.linked i q hq
  case listed =>
    intro i q hq
    rw [hlog]
    rw [hpending, get?_alloc] at hq
    by_cases hi : i = nat.pending.next
    · rw [if_pos hi] at hq
      cases hq
      exact ⟨cmd, bscCmd, by simp [hi]⟩
    · rw [if_neg hi] at hq
      obtain ⟨cmd', bscCmd', hmem⟩ := h.listed i q hq
      exact ⟨cmd', bscCmd', mem_append_left _ hmem⟩
  case entries =>
    intro i q hq c cmd' b bscCmd' hmem
    rw [hpending, get?_alloc] at hq
    by_cases hi : i = nat.pending.next
    · rw [if_pos hi] at hq
      cases hq
      subst hi
      obtain ⟨rfl, rfl, rfl, rfl⟩ := hnew hmem
      exact ⟨rfl, rfl, hid, hbscId⟩
    · rw [if_neg hi] at hq
      exact h.entries i q hq c cmd' b bscCmd' (hold hmem rfl hi)
  case known =>
    intro out hmem i hi
    rw [hpending]
    show i < nat.pending.next + 1
    by_cases heq : i = nat.pending.next
    · rw [heq]
      exact Nat.lt_succ_self _
    · exact Nat.lt_succ_of_lt (h.known out (hold hmem hi heq) i hi)
  case once =>
    intro i hi
    rw [hcount, hpending, get?_alloc]
    by_cases heq : i = nat.pending.next
    · have hnone : nat.outs.countP (ends i) = 0 := by
        refine countP_eq_zero.mpr ?_
        intro out hmem hends
        have hlt := h.known out hmem i (entry?_of_ends hends)
        exact absurd heq (Nat.ne_of_lt hlt)
      rw [hnone, if_pos heq]
      rfl
    · have hlt : i < nat.pending.next := by
        rw [hpending] at hi
        exact Nat.lt_of_le_of_ne (Nat.le_of_lt_succ hi) heq
      rw [if_neg heq]
      exact h.once i hlt
  case fits =>
    intro i c cmd' b bscCmd' hmem c' answer cause hans
    have hans := hending hans fun _ _ _ _ _ => CtrlOut.noConfusion
    have hlt := h.known _ hans i rfl
    exact h.fits i c cmd' b bscCmd' (hold hmem rfl (Nat.ne_of_lt hlt)) c' answer cause hans
  case unsent =>
    intro i cmd' queued hmem
    exact h.unsent i cmd' queued (hending hmem fun _ _ _ _ _ => CtrlOut.noConfusion)
  case sent =>
    intro i c cmd' b bscCmd' hmem
    by_cases hi : i = nat.pending.next
    · subst hi
      obtain ⟨-, rfl, -, rfl⟩ := hnew hmem
      exact hsent
    · exact h.sent i c cmd' b bscCmd' (hold hmem rfl hi)
  case opened =>
    intro i c cmd' b bscCmd' hmem
    rw [hlinks.next]
    by_cases heq : i = nat.pending.next
    · subst heq
      obtain ⟨rfl, -⟩ := hnew hmem
      obtain ⟨ccon, hget⟩ := isSome_iff_exists.mp hccon
      exact get?_lt hget
    · exact h.opened i c cmd' b bscCmd' (hold hmem rfl heq)
  case gone =>
    intro i c cmd' b bscCmd' hmem hdropped
    have hdropped := hending hdropped fun _ _ _ _ _ => CtrlOut.noConfusion
    have hlt := h.known _ hdropped i rfl
    exact (h.gone i c cmd' b bscCmd' (hold hmem rfl (Nat.ne_of_lt hlt)) hdropped).imp_left hlinks.get?_none

/-! ## Handlers -/

@[simp] theorem pending_answer (nat : CtrlNat) (i c : Nat) (cmd : CtrlCmd) (cause : AnswerCause) :
    (nat.answer i c cmd cause).pending = nat.pending := by
  unfold answer
  cases nat.ccons.get? c with
  | none => rfl
  | some ccon =>
    dsimp only
    split
    · rfl
    · rfl

/-- An answer on a connection that is there ends its entry, whether it is sent or not. -/
theorem answer_spec {nat : CtrlNat} (hc : (nat.ccons.get? c).isSome) (i : Nat) (cmd : CtrlCmd) (cause : AnswerCause) :
    ∃ out, (nat.answer i c cmd cause).outs = nat.outs ++ [out] ∧ SameLinks nat (nat.answer i c cmd cause) ∧
      (out = .answered i c cmd cause ∨ ∃ queued, out = .unsent i cmd queued ∧ ctrlCmdSend queued cmd = false) := by
  obtain ⟨ccon, hccon⟩ := isSome_iff_exists.mp hc
  unfold answer
  rw [hccon]
  dsimp only
  split
  · refine ⟨_, rfl, ?_, .inl rfl⟩
    exact (SameLinks.modifyCcon nat c fun ccon => { ccon with queued := ccon.queued + 1 }).of_eq rfl rfl
  · rename_i hsend
    exact ⟨_, rfl, (SameLinks.refl nat).of_eq rfl rfl, .inr ⟨ccon.queued, rfl, Bool.eq_false_iff.mpr hsend⟩⟩

variable {cause : AnswerCause}

theorem CtrlInv.answer (h : CtrlInv closing nat) (hp : nat.pending.get? i = some p) {cmd : CtrlCmd}
    (hfits : ∀ ccon cmd' b bscCmd, forwarded i ccon cmd' b bscCmd ∈ nat.outs →
      Fits ccon cmd' b bscCmd p.ccon cmd cause) :
    CtrlInv closing ((nat.answer i p.ccon cmd cause).bscDelPending i) := by
  obtain ⟨out, hlog, hlinks, hout⟩ := answer_spec (h.linked i p hp).1 i cmd cause
  have hpending : ((nat.answer i p.ccon cmd cause).bscDelPending i).pending = nat.pending.remove i :=
    congrArg (remove · i) (pending_answer nat i p.ccon cmd cause)
  refine h.finish hp out hpending hlog (hlinks.of_eq rfl rfl) ?_ ?_ ?_ ?_
  · rcases hout with rfl | ⟨queued, rfl, -⟩
    · exact decide_eq_true rfl
    · exact decide_eq_true rfl
  · intro j c answer cause' heq
    rcases hout with rfl | ⟨queued, rfl, -⟩
    · cases heq
      exact hfits
    · cases heq
  · intro j cmd' queued' heq
    rcases hout with rfl | ⟨queued, rfl, hsend⟩
    · cases heq
    · cases heq
      exact hsend
  · rintro rfl
    rcases hout with heq | ⟨queued, heq, -⟩
    · cases heq
    · cases heq

/-- An entry is answered with an error. -/
theorem CtrlInv.failPending (h : CtrlInv closing nat) (i : Nat) {reply : String}
    (hcause : cause = .timeout ∧ reply = "Command timed out" ∨
      cause = .bscClosed ∧ reply = "BSC closed the connection") :
    CtrlInv closing (failPending cause reply nat i) := by
  unfold CtrlNat.failPending
  cases hp : nat.pending.get? i with
  | none => exact h
  | some p =>
    refine h.answer hp ?_
    intro ccon cmd b bscCmd hmem
    obtain ⟨hccon, -, hid, -⟩ := h.entries i p hp ccon cmd b bscCmd hmem
    rcases hcause with ⟨rfl, rfl⟩ | ⟨rfl, rfl⟩
    · exact ⟨hccon.symm, hid, nofun, fun _ => ⟨rfl, rfl⟩, nofun⟩
    · exact ⟨hccon.symm, hid, nofun, nofun, fun _ => ⟨rfl, rfl⟩⟩

/-- An entry of a connection that is being closed is dropped. -/
theorem CtrlInv.dropPending (h : CtrlInv closing nat) (i : Nat)
    (hclosing : ∀ p, nat.pending.get? i = some p → closing p.ccon) : CtrlInv closing (dropPending nat i) := by
  unfold CtrlNat.dropPending
  cases hp : nat.pending.get? i with
  | none => exact h
  | some p =>
    refine h.finish hp (.dropped i) rfl rfl ((SameLinks.refl nat).of_eq rfl rfl) (decide_eq_true rfl) ?_ ?_ ?_
    · intro j c answer cause heq
      cases heq
    · intro j cmd queued heq
      cases heq
    · intro _
      exact hclosing p hp

theorem mem_pendingIds {q : BscCmdList → Bool} :
    i ∈ nat.pendingIds q ↔ ∃ p, nat.pending.get? i = some p ∧ q p = true := by
  unfold pendingIds
  rw [List.mem_map]
  constructor
  · rintro ⟨⟨j, p⟩, hmem, rfl⟩
    obtain ⟨hentry, hq⟩ := mem_filter.mp hmem
    exact ⟨p, get?_eq_some.mpr hentry, hq⟩
  · rintro ⟨p, hp, hq⟩
    exact ⟨(i, p), mem_filter.mpr ⟨get?_eq_some.mp hp, hq⟩, rfl⟩

theorem pending_failPending (cause : AnswerCause) (reply : String) (nat : CtrlNat) (i : Nat) :
    (failPending cause reply nat i).pending = nat.pending.remove i := by
  unfold failPending
  cases hp : nat.pending.get? i with
  | none => exact (remove_of_get?_none hp).symm
  | some p => exact congrArg (remove · i) (pending_answer nat i p.ccon _ cause)

theorem pending_dropPending (nat : CtrlNat) (i : Nat) : (dropPending nat i).pending = nat.pending.remove i := by
  unfold dropPending
  cases hp : nat.pending.get? i with
  | none => exact (remove_of_get?_none hp).symm
  | some p => rfl

variable {f : CtrlNat → Nat → CtrlNat}

/-- A loop that takes out the entries of a list leaves those that are not in it. -/
theorem get?_foldl_remove (hf : ∀ nat i, (f nat i).pending = nat.pending.remove i) (l : List Nat) {nat : CtrlNat}
    (h : (l.foldl f nat).pending.get? i = some p) : nat.pending.get? i = some p ∧ i ∉ l := by
  induction l generalizing nat with
  | nil => exact ⟨h, not_mem_nil⟩
  | cons j l ih =>
    obtain ⟨hget, hmem⟩ := ih h
    rw [hf] at hget
    obtain ⟨hij, hget⟩ := get?_of_remove hget
    exact ⟨hget, by simp [hij, hmem]⟩

/-- After such a loop over all entries with a property there is none left. -/
theorem not_of_foldl_pendingIds (hf : ∀ nat i, (f nat i).pending = nat.pending.remove i) {q : BscCmdList → Bool}
    (h : ((nat.pendingIds q).foldl f nat).pending.get? i = some p) : ¬ q p = true := by
  obtain ⟨hget, hnot⟩ := get?_foldl_remove hf _ h
  intro hq
  exact hnot (mem_pendingIds.mpr ⟨p, hget, hq⟩)

theorem CtrlInv.foldl {l : List Nat} (h : CtrlInv closing nat)
    (hf : ∀ nat, CtrlInv closing nat → ∀ i ∈ l, CtrlInv closing (f nat i)) : CtrlInv closing (l.foldl f nat) := by
  induction l generalizing nat with
  | nil => exact h
  | cons i l ih =>
    exact ih (hf nat h i mem_cons_self) fun nat h j hj => hf nat h j (mem_cons_of_mem i hj)

/-- A control connection is closed, and with it the entries of its commands. -/
theorem CtrlInv.ctrlConnClosedCb (h : CtrlInv (fun _ => False) nat) (c : Nat) :
    CtrlInv (fun _ => False) (nat.ctrlConnClosedCb c) := by
  have hstart : CtrlInv (· = c) nat :=
    h.quiet [] (forall_mem_nil _) rfl (by simp) h.linked (Nat.le_refl _) fun _ _ hc => hc.imp_right False.elim
  -- all through the loop the entries are those of the beginning that are left
  have hloop (l : List Nat) {nat' : CtrlNat} (hinv : CtrlInv (· = c) nat')
      (hl : ∀ i ∈ l, ∀ p, nat'.pending.get? i = some p → p.ccon = c) :
      CtrlInv (· = c) (l.foldl CtrlNat.dropPending nat') := by
    induction l generalizing nat' with
    | nil => exact hinv
    | cons i l ih =>
      refine ih (hinv.dropPending i (hl i mem_cons_self)) ?_
      intro j hj p hp
      rw [pending_dropPending] at hp
      exact hl j (mem_cons_of_mem i hj) p (get?_of_remove hp).2
  have hdone := hloop (nat.pendingIds fun p => p.ccon = c) hstart ?_
  · refine hdone.quiet [] (forall_mem_nil _) rfl (by simp [CtrlNat.ctrlConnClosedCb]) ?_ (Nat.le_refl _) ?_
    · intro i p hp
      have hne : p.ccon ≠ c := by
        simpa using not_of_foldl_pendingIds pending_dropPending hp
      obtain ⟨hccon, hbsc⟩ := hdone.linked i p hp
      refine ⟨?_, hbsc⟩
      show ((remove _ c).get? p.ccon).isSome
      rw [get?_remove, if_neg hne]
      exact hccon
    · intro c' _ hc'
      refine .inl ?_
      show (remove _ c).get? c' = none
      rw [get?_remove]
      rcases hc' with hnone | rfl
      · rw [hnone, ite_self]
      · exact if_pos rfl
  · intro i hi p hp
    obtain ⟨q, hq, hqc⟩ := mem_pendingIds.mp hi
    cases hp.symm.trans hq
    exact of_decide_eq_true hqc

theorem CtrlInv.bscCloseConnection (h : CtrlInv (fun _ => False) nat) (b : Nat) :
    CtrlInv (fun _ => False) (nat.bscCloseConnection b) := by
  have hdone : CtrlInv (fun _ => False) ((nat.pendingIds fun p => p.bsc = b).foldl
      (CtrlNat.failPending .bscClosed "BSC closed the connection") nat) :=
    h.foldl fun nat h i _ => h.failPending i (.inr ⟨rfl, rfl⟩)
  refine hdone.quiet [] (forall_mem_nil _) rfl (by simp [CtrlNat.bscCloseConnection]) ?_ (Nat.le_refl _)
    fun _ _ hc => hc
  intro i p hp
  have hne : p.bsc ≠ b := by
    simpa using not_of_foldl_pendingIds (pending_failPending .bscClosed "BSC closed the connection") hp
  obtain ⟨hccon, hbsc⟩ := hdone.linked i p hp
  refine ⟨hccon, ?_⟩
  show ((remove _ b).get? p.bsc).isSome
  rw [get?_remove, if_neg hne]
  exact hbsc

theorem CtrlInv.refuse (h : CtrlInv closing nat) (c : Nat) (cmd : CtrlCmd) (reply : String) :
    CtrlInv closing (nat.refuse c cmd reply) := by
  unfold CtrlNat.refuse
  dsimp only
  cases nat.ccons.get? c with
  | none => exact h
  | some ccon =>
    dsimp only
    split
    · exact h.same [_] (by simp [CtrlOut.entry?]) rfl rfl 
        ((SameLinks.modifyCcon nat c fun ccon => { ccon with queued := ccon.queued + 1 }).of_eq rfl rfl)
    · exact h

theorem CtrlInv.tellBsc (h : CtrlInv closing nat) (b : Nat) (cmd : CtrlCmd) : CtrlInv closing (nat.tellBsc b cmd) := by
  unfold CtrlNat.tellBsc
  cases nat.bscs.get? b with
  | none => exact h
  | some bsc =>
    dsimp only
    split
    · exact h.same [_] (by simp [CtrlOut.entry?]) rfl rfl 
        ((SameLinks.modifyBsc nat b fun bsc => { bsc with queued := bsc.queued + 1 }).of_eq rfl rfl)
    · exact h

theorem CtrlInv.modifyBsc (h : CtrlInv closing nat) (b : Nat) (f : CtrlBsc → CtrlBsc) :
    CtrlInv closing (nat.modifyBsc b f) :=
  h.same [] (forall_mem_nil _) rfl (by simp [CtrlNat.modifyBsc]) (SameLinks.modifyBsc nat b f)

theorem free_of_getNextFreeBscId {b natId : Nat} {bsc : CtrlBsc} (h : nat.getNextFreeBscId b bsc = some natId) {j : Nat}
    {q : BscCmdList} (hq : nat.pending.get? j = some q) (hbsc : b = q.bsc) : natId ≠ q.natId := by
  have hunused := find?_some h
  rw [bscIdUnused, isNone_iff_eq_none] at hunused
  have hnone := find?_eq_none.mp hunused j q hq
  intro hid
  simp [hbsc, hid] at hnone

/-- **A command arrives.** It is refused, and the entries stay as they are; or it is forwarded under a new entry. -/
theorem forwardToBsc_cases (nat : CtrlNat) (c : Nat) (cmd : CtrlCmd) (var : List Octet) :
    (∃ reply b natId, nat.forwardToBsc c cmd var = nat.refuse c { cmd with var := some (firstCut var) } reply ∨
      nat.forwardToBsc c cmd var = (nat.modifyBsc b fun bsc => { bsc with lastId := natId }).refuse c
        { cmd with var := some (firstCut var) } reply) ∨
    ∃ lac name b bsc natId, splitVariable var = some (lac, name) ∧ nat.bscs.get? b = some bsc ∧
      nat.getNextFreeBscId b bsc = some natId ∧ SameLinks nat (nat.forwardToBsc c cmd var) ∧
      (nat.forwardToBsc c cmd var).pending = nat.pending.alloc ⟨b, natId, c, { cmd with var := some (firstCut var) }⟩ ∧
      (nat.forwardToBsc c cmd var).outs = nat.outs ++ [.forwarded nat.pending.next c { cmd with var := some var } b
        { cmd with id := some (decimal natId), var := some name }] := by
  unfold forwardToBsc
  dsimp only
  cases hsplit : splitVariable var with
  | none => exact .inl ⟨_, 0, 0, .inl rfl⟩
  | some found =>
    obtain ⟨lac, name⟩ := found
    dsimp only
    cases hbsc : nat.bscs.findLast? fun bsc => bsc.authenticated && bsc.cfg.any fun cfg => handlesLac cfg lac with
    | none => exact .inl ⟨_, 0, 0, .inl rfl⟩
    | some found =>
      obtain ⟨b, bsc⟩ := found
      dsimp only
      cases hid : nat.getNextFreeBscId b bsc with
      | none => exact .inl ⟨_, 0, 0, .inl rfl⟩
      | some natId =>
        dsimp only
        split
        · refine .inr ⟨lac, name, b, bsc, natId, rfl, (of_findLast? hbsc).1, hid, ?_, rfl, rfl⟩
          have hlast := SameLinks.modifyBsc nat b fun bsc => { bsc with lastId := natId }
          have hqueued := SameLinks.modifyBsc (nat.modifyBsc b fun bsc => { bsc with lastId := natId }) b
            fun bsc => { bsc with queued := bsc.queued + 1 }
          exact (hlast.trans hqueued).of_eq rfl rfl
        · exact .inl ⟨_, b, natId, .inr rfl⟩

theorem CtrlInv.forwardToBsc (h : CtrlInv closing nat) (hc : (nat.ccons.get? c).isSome) (cmd : CtrlCmd)
    (var : List Octet) : CtrlInv closing (nat.forwardToBsc c cmd var) := by
  rcases forwardToBsc_cases nat c cmd var with
    ⟨reply, b, natId, heq | heq⟩ | ⟨lac, name, b, bsc, natId, hsplit, hbsc, hid, hlinks, hpending, hlog⟩
  · rw [heq]
    exact h.refuse c _ reply
  · rw [heq]
    exact (h.modifyBsc b _).refuse c _ reply
  · refine h.forward hpending hlog hlinks hc ?_ ?_ rfl rfl ⟨var, lac, name, natId, rfl, hsplit, rfl⟩
    · show (nat.bscs.get? b).isSome
      rw [hbsc]
      rfl
    · intro j q hq heq
      exact free_of_getNextFreeBscId hid hq heq

theorem of_bscGetPending {b : Nat} {idStr : List Octet} (h : nat.bscGetPending b idStr = some (i, p)) :
    nat.pending.get? i = some p ∧ p.bsc = b ∧ (p.natId : Int) = atoi idStr := by
  unfold bscGetPending at h
  split at h
  · cases h
  · obtain ⟨hget, hq, -⟩ := find?_eq_some.mp h
    exact ⟨hget, of_decide_eq_true hq⟩

/-- **A control message arrives from a BSC.** Where it has the id of an entry, it answers that entry. -/
theorem CtrlInv.handleCtrlifMsg (h : CtrlInv closing nat) (b : Nat) (bsc : CtrlBsc) (msg : Msgb) :
    CtrlInv closing (nat.handleCtrlifMsg b bsc msg) := by
  unfold CtrlNat.handleCtrlifMsg
  cases ctrlCmdParse msg with
  | none => exact h.tellBsc b _
  | some cmd =>
    dsimp only
    split
    · exact h
    · rename_i lac rest hlacs
      cases hfound : nat.bscGetPending b (cmd.id.getD []) with
      | some found =>
        obtain ⟨i, p⟩ := found
        obtain ⟨hp, hbsc, hid⟩ := of_bscGetPending hfound
        refine h.answer hp ?_
        intro ccon cmd' b' bscCmd hmem
        obtain ⟨hccon, hb', hcmd, hnat⟩ := h.entries i p hp ccon cmd' b' bscCmd hmem
        refine ⟨hccon.symm, hcmd, ?_, nofun, nofun⟩
        intro b'' lac' raw heq
        cases heq
        refine ⟨hbsc.symm.trans hb'.symm, ⟨p.natId, hnat, hid.symm⟩, ?_⟩
        rw [← hcmd]
      | none =>
        dsimp only
        split
        · exact h.tellBsc b _
        · exact h

/-- **The step.** -/
theorem CtrlInv.step (h : CtrlInv (fun _ => False) nat) {ev : CtrlEvent} (hstep : ctrlStep nat ev = some nat') :
    CtrlInv (fun _ => False) nat' := by
  cases ev with
  | accept =>
    cases hstep
    refine h.quiet [] (forall_mem_nil _) rfl (by simp) ?_ (Nat.le_succ _) ?_
    · intro i p hp
      obtain ⟨hccon, hbsc⟩ := h.linked i p hp
      refine ⟨?_, hbsc⟩
      show ((nat.ccons.alloc {}).get? p.ccon).isSome
      rw [get?_alloc]
      split
      · rfl
      · exact hccon
    · intro c hc hnone
      show (nat.ccons.alloc {}).get? c = none ∨ False
      rw [get?_alloc, if_neg (Nat.ne_of_lt hc)]
      exact hnone
  | bscConnect =>
    cases hstep
    refine h.quiet [] (forall_mem_nil _) rfl (by simp) ?_ (Nat.le_refl _) fun _ _ hc => hc
    intro i p hp
    obtain ⟨hccon, hbsc⟩ := h.linked i p hp
    refine ⟨hccon, ?_⟩
    show ((nat.bscs.alloc {}).get? p.bsc).isSome
    rw [get?_alloc]
    split
    · rfl
    · exact hbsc
  | bscConfigure b authenticated cfg =>
    obtain ⟨bsc, -, rfl⟩ := map_eq_some_iff.mp hstep
    exact h.modifyBsc b _
  | command c id var value =>
    obtain ⟨ccon, hccon, rfl⟩ := map_eq_some_iff.mp hstep
    exact h.forwardToBsc (by rw [hccon]; rfl) _ var
  | bscMsg b msg =>
    obtain ⟨bsc, -, rfl⟩ := map_eq_some_iff.mp hstep
    exact h.handleCtrlifMsg b bsc msg
  | timeout i =>
    obtain ⟨p, -, rfl⟩ := map_eq_some_iff.mp hstep
    exact h.failPending i (.inl ⟨rfl, rfl⟩)
  | closeCcon c =>
    obtain ⟨ccon, -, rfl⟩ := map_eq_some_iff.mp hstep
    exact h.ctrlConnClosedCb c
  | closeBsc b =>
    obtain ⟨bsc, -, rfl⟩ := map_eq_some_iff.mp hstep
    exact h.bscCloseConnection b
  | written c =>
    obtain ⟨ccon, -, rfl⟩ := map_eq_some_iff.mp hstep
    exact h.same [] (forall_mem_nil _) rfl (by simp [CtrlNat.modifyCcon]) (SameLinks.modifyCcon nat c _)
  | bscQueue b queued =>
    obtain ⟨bsc, -, rfl⟩ := map_eq_some_iff.mp hstep
    exact h.modifyBsc b _

theorem ctrlInv_init : CtrlInv (fun _ => False) {} := by
  have hnone (i : Nat) (p : BscCmdList) : ({} : CtrlNat).pending.get? i ≠ some p := by
    show empty.get? i ≠ some p
    rw [get?_empty]
    exact fun h => nomatch h
  constructor
  case ids => exact pairwise_empty
  case linked => exact fun i p hp => absurd hp (hnone i p)
  case listed => exact fun i p hp => absurd hp (hnone i p)
  case entries => exact fun i p hp => absurd hp (hnone i p)
  case known => exact fun out hmem => absurd hmem not_mem_nil
  case once => exact fun i hi => absurd hi (Nat.not_lt_zero i)
  case fits => exact fun i c cmd b bscCmd hmem => absurd hmem not_mem_nil
  case unsent => exact fun i cmd queued hmem => absurd hmem not_mem_nil
  case sent => exact fun i c cmd b bscCmd hmem => absurd hmem not_mem_nil
  case opened => exact fun i c cmd b bscCmd hmem => absurd hmem not_mem_nil
  case gone => exact fun i c cmd b bscCmd hmem => absurd hmem not_mem_nil

theorem ctrlInv_of_reachable (h : Reachable ctrlSystem nat) : CtrlInv (fun _ => False) nat := by
  refine h.invariant ?_ fun _ _ _ hinv _ hstep => hinv.step hstep
  rintro _ rfl
  exact ctrlInv_init

/-! ## The result -/

/-- The variable under a location area falls apart into the two again. -/
theorem name_of_splitVariable_prefixed {lac : Nat} {name name' : List Octet} {lac' : Int}
    (h : splitVariable (prefixed lac name) = some (lac', name')) : name' = name := by
  have hbsc : strtok isDot (prefixed lac name) = (some (octets "bsc"), decimal lac ++ 46 :: name) := by
    have heq : prefixed lac name = octets "bsc" ++ 46 :: (decimal lac ++ 46 :: name) := by
      have hdot : octets "bsc." = octets "bsc" ++ [46] := by decide
      simp [prefixed, hdot]
    have hdots : (octets "bsc").all (fun o => !isDot o) = true := by decide
    rw [heq]
    refine strtok_word ?_ (by decide) rfl
    intro o ho
    simpa using all_eq_true.mp hdots o ho
  have hlac : strtok isDot (decimal lac ++ 46 :: name) = (some (decimal lac), name) := by
    refine strtok_word ?_ (decimal_ne_nil lac) rfl
    intro o ho
    have hdigit := mem_decimal ho
    refine decide_eq_false ?_
    rintro rfl
    exact absurd hdigit.1 (by decide)
  cases name with
  | nil => simp [splitVariable, hbsc, hlac] at h
  | cons o name =>
    have hname : strtok (fun _ => false) (o :: name) = (some (o :: name), []) := strtok_all (cons_ne_nil o name)
    simp [splitVariable, hbsc, hlac, hname] at h
    exact h.2.symm

/-- A reply with the variable the BSC was sent has the original one, where the operator named the first location area of
    the BSC. -/
theorem Fits.var {ccon : Nat} {cmd : CtrlCmd} {b : Nat} {bscCmd : CtrlCmd} {answer : CtrlCmd}
    (h : Fits ccon cmd b bscCmd c answer cause) (hsent : SentAs cmd bscCmd) {lac : Nat} {name : List Octet}
    {raw : CtrlCmd} (hvar : cmd.var = some (prefixed lac name)) (hcause : cause = .reply b lac raw)
    (hraw : raw.var = bscCmd.var) : answer.var = cmd.var := by
  obtain ⟨var, lac', name', natId, hcmd, hsplit, hbscCmd⟩ := hsent
  cases hvar.symm.trans hcmd
  obtain rfl := name_of_splitVariable_prefixed hsplit
  obtain ⟨-, -, hanswer⟩ := h.reply b lac raw hcause
  rw [hanswer, hvar]
  show raw.var.map (prefixed lac) = some (prefixed lac name')
  rw [hraw, hbscCmd]
  rfl

/-- What a command does to the entries: none, and nothing is forwarded; or one more, for the command that is. -/
theorem pending_command {id var : List Octet} {value : Option (List Octet)}
    (hstep : ctrlStep nat (.command c id var value) = some nat') :
    (nat'.pending = nat.pending ∧ ∀ out ∈ nat'.outs, out.entry?.isSome → out ∈ nat.outs) ∨
      ∃ p bscCmd, nat'.pending = nat.pending.alloc p ∧
        nat'.outs = nat.outs ++ [.forwarded nat.pending.next c (operatorCmd id var value) p.bsc bscCmd] := by
  have hrefuse (nat : CtrlNat) (cmd : CtrlCmd) (reply : String) :
      (nat.refuse c cmd reply).pending = nat.pending ∧
        ∀ out ∈ (nat.refuse c cmd reply).outs, out.entry?.isSome → out ∈ nat.outs := by
    unfold CtrlNat.refuse
    dsimp only
    cases nat.ccons.get? c with
    | none => exact ⟨rfl, fun out hmem _ => hmem⟩
    | some ccon =>
      dsimp only
      split
      · refine ⟨rfl, ?_⟩
        intro out hmem hentry
        rcases mem_append.mp hmem with hmem | hmem
        · exact hmem
        · rw [mem_singleton.mp hmem] at hentry
          cases hentry
      · exact ⟨rfl, fun out hmem _ => hmem⟩
  obtain ⟨ccon, -, rfl⟩ := map_eq_some_iff.mp hstep
  rcases forwardToBsc_cases nat c (operatorCmd id var value) var with
    ⟨reply, b, natId, heq | heq⟩ | ⟨lac, name, b, bsc, natId, -, -, -, -, hpending, hlog⟩
  · rw [heq]
    exact .inl (hrefuse nat _ reply)
  · rw [heq]
    exact .inl (hrefuse (nat.modifyBsc b _) _ reply)
  · exact .inr ⟨_, _, hpending, hlog⟩

/-- **Forwarded commands are answered once.** The entries at one BSC have different ids, and each belongs to a command
    that was forwarded; a command that is refused leaves none. A forwarded command is pending, and its timer ends that,
    or it was ended once: it was dropped because its own connection was closed, its answer was not sent because it has
    no text or the write queue was full, or it was answered, on the connection it came from and under its own id. -/
theorem commands_answered (h : Reachable ctrlSystem nat) :
    (nat.pending.Pairwise fun p q => p.bsc = q.bsc → p.natId ≠ q.natId) ∧
    (∀ i p, nat.pending.get? i = some p →
      (∃ cmd bscCmd, forwarded i p.ccon cmd p.bsc bscCmd ∈ nat.outs ∧ bscCmd.id = some (decimal p.natId)) ∧
      ∃ nat', ctrlStep nat (.timeout i) = some nat' ∧ nat'.pending.get? i = none) ∧
    (∀ i c cmd b bscCmd, forwarded i c cmd b bscCmd ∈ nat.outs →
      nat.outs.countP (ends i) + (if (nat.pending.get? i).isSome then 1 else 0) = 1 ∧
      (dropped i ∈ nat.outs → nat.ccons.get? c = none) ∧
      (∀ answer queued, unsent i answer queued ∈ nat.outs → ctrlCmdSend queued answer = false) ∧
      ∀ c' answer cause, answered i c' answer cause ∈ nat.outs →
        Fits c cmd b bscCmd c' answer cause ∧
        ∀ lac name raw, cmd.var = some (prefixed lac name) → cause = .reply b lac raw → raw.var = bscCmd.var →
          answer.var = cmd.var) ∧
    ∀ c id var value nat', ctrlStep nat (.command c id var value) = some nat' →
      (nat'.pending = nat.pending ∧ ∀ out ∈ nat'.outs, out.entry?.isSome → out ∈ nat.outs) ∨
        ∃ p bscCmd, nat'.pending = nat.pending.alloc p ∧
          nat'.outs = nat.outs ++ [.forwarded nat.pending.next c (operatorCmd id var value) p.bsc bscCmd] := by
  have hinv := ctrlInv_of_reachable h
  refine ⟨hinv.ids, ?_, ?_, fun c id var value nat' hstep => pending_command hstep⟩
  · intro i p hp
    obtain ⟨cmd, bscCmd, hmem⟩ := hinv.listed i p hp
    obtain ⟨-, -, -, hid⟩ := hinv.entries i p hp _ _ _ _ hmem
    refine ⟨⟨cmd, bscCmd, hmem, hid⟩, nat.pendingTimeoutCb i, ?_, ?_⟩
    · simp [ctrlStep, hp]
    · show (failPending .timeout "Command timed out" nat i).pending.get? i = none
      rw [pending_failPending, get?_remove, if_pos rfl]
  · intro i c cmd b bscCmd hmem
    refine ⟨hinv.once i (hinv.known _ hmem i rfl), ?_, fun answer queued => hinv.unsent i answer queued, ?_⟩
    · intro hdropped
      exact (hinv.gone i c cmd b bscCmd hmem hdropped).resolve_right id
    · intro c' answer cause hanswer
      have hfits := hinv.fits i c cmd b bscCmd hmem c' answer cause hanswer
      exact ⟨hfits, fun lac name raw hvar hcause hraw =>
        hfits.var (hinv.sent i c cmd b bscCmd hmem) hvar hcause hraw⟩

/-- A BSC for the location areas 1 and 2. -/
def twoLacs : BscConfig := ⟨0, octets "token", none, false, [1, 2], none, 32⟩

/-- The BSC is identified, and a GET of `bsc.<lac>.location` is forwarded to it. -/
def getLocation (lac : Nat) : List CtrlEvent :=
  [.accept, .bscConnect, .bscConfigure 0 true (some twoLacs),
    .command 0 (octets "7") (prefixed lac (octets "location")) none]

/-- What the BSC says to the first command. -/
def locationReply : Msgb := ⟨octets "GET_REPLY 1 location 52,13", 100⟩

theorem commands_answered_location :
    ∃ nat, guardedRun ctrlStep (fun _ _ => True) {} (getLocation 1 ++ [.bscMsg 0 locationReply]) = some nat ∧
      ∀ i c cmd b bscCmd, forwarded i c cmd b bscCmd ∈ nat.outs →
        nat.outs.countP (ends i) + (if (nat.pending.get? i).isSome then 1 else 0) = 1 := by
  obtain ⟨nat, hnat⟩ : ∃ nat, guardedRun ctrlStep (fun _ _ => True) {} (getLocation 1 ++ [.bscMsg 0 locationReply]) =
      some nat :=
    isSome_iff_exists.mp (by decide +kernel)
  obtain ⟨-, -, hforwarded, -⟩ := commands_answered (guardedRun (fun _ _ _ h => h) (.init rfl) hnat)
  exact ⟨nat, hnat, fun i c cmd b bscCmd hmem => (hforwarded i c cmd b bscCmd hmem).1⟩

/-- A command for the second location area is answered under the first one; and a command is answered neither by its BSC
    nor by the timer when the connection of the BSC ends. -/
theorem other_variable_other_cause :
    (∃ nat, Reachable ctrlSystem nat ∧ ∃ cmd bscCmd answer raw, forwarded 0 0 cmd 0 bscCmd ∈ nat.outs ∧
      answered 0 0 answer (.reply 0 1 raw) ∈ nat.outs ∧ cmd.var = some (octets "bsc.2.location") ∧
      answer.var = some (octets "bsc.1.location")) ∧
    ∃ nat, Reachable ctrlSystem nat ∧ ∃ cmd bscCmd answer, forwarded 0 0 cmd 0 bscCmd ∈ nat.outs ∧
      answered 0 0 answer .bscClosed ∈ nat.outs := by
  constructor
  · obtain ⟨nat, hnat, hout⟩ : ∃ nat ∈ guardedRun ctrlStep (fun _ _ => True) {}
        (getLocation 2 ++ [.bscMsg 0 locationReply]), nat.outs =
          [.forwarded 0 0 (operatorCmd (octets "7") (octets "bsc.2.location") none) 0
              { type := .get, id := some (octets "1"), var := some (octets "location") },
            .answered 0 0 { type := .getReply, id := some (octets "7"), var := some (octets "bsc.1.location"),
                            reply := some (octets "52,13") }
              (.reply 0 1 { type := .getReply, id := some (octets "1"), var := some (octets "location"),
                            reply := some (octets "52,13") })] := by
      decide +kernel
    refine ⟨nat, guardedRun (fun _ _ _ h => h) (.init rfl) hnat, ?_⟩
    rw [hout]
    exact ⟨_, _, _, _, .head _, .tail _ (.head _), rfl, rfl⟩
  · obtain ⟨nat, hnat, hout⟩ : ∃ nat ∈ guardedRun ctrlStep (fun _ _ => True) {} (getLocation 1 ++ [.closeBsc 0]),
        nat.outs =
          [.forwarded 0 0 (operatorCmd (octets "7") (octets "bsc.1.location") none) 0
              { type := .get, id := some (octets "1"), var := some (octets "location") },
            .answered 0 0 { type := .error, id := some (octets "7"), var := some (octets "bsc"),
                            reply := some (octets "BSC closed the connection") } .bscClosed] := by
      decide +kernel
    refine ⟨nat, guardedRun (fun _ _ _ h => h) (.init rfl) hnat, ?_⟩
    rw [hout]
    exact ⟨_, _, _, .head _, .tail _ (.head _)⟩

end OpenBsc.OsmoBscNat
