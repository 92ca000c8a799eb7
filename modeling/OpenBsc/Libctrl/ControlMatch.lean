import OpenBsc.Libctrl.ControlCmd

/-!
# `Libctrl.ControlMatch` — which command a request is for (`ctrl_cmd_get_element_match`)

A command is installed under a node by its name, which is split into words. A request is a sequence of words too, and
the first command that fits it is taken. A word that starts with an asterisk stands for the rest of the request. The
loop goes by the words of the request, and reads the word of the command at the same place.
-/

namespace OpenBsc.Libctrl

open List

/-! ## Data -/

/-- A C string, without the zero that ends it. -/
abbrev Word := List Octet

/-- `struct ctrl_cmd_element`: its name, the words of `strcmd`, and its functions. -/
structure CtrlCmdElement (H : Type) where
  name : List Octet
  strcmd : List Word := []
  functions : H
  deriving DecidableEq

/-- `vector` of a node: a slot may be empty. -/
abbrev CmdVector (H : Type) := List (Option (CtrlCmdElement H))

/-- The characters that `create_cmd_struct` refuses: optionals are not supported. -/
def isOptional (o : Octet) : Bool := o = 40 ∨ o = 41 ∨ o = 124

/-- The loop of `create_cmd_struct`: the word that has begun, and the words so far. None are left after a failure. -/
def createCmdStruct : (name : List Octet) → (word : Option Word) → (command : List Word) → List Word
  | [], none, command => command
  | [], some word, command => command ++ [word]
  | c :: cur, word, command =>
    if isOptional c then []
    else if isSpace c then
      match word with
      | some word => createCmdStruct cur none (command ++ [word])
      | none => createCmdStruct cur none command
    else createCmdStruct cur (some (word.getD [] ++ [c])) command

/-- `ctrl_cmd_install`. -/
def ctrlCmdInstall {H : Type} (node : CmdVector H) (cmd : CtrlCmdElement H) : CmdVector H :=
  node ++ [some { cmd with strcmd := createCmdStruct cmd.name none cmd.strcmd }]

/-! ## Search -/

/-- How the loop over the words of the request ends: at an asterisk, at place `j`, or behind the words of the
    command. -/
inductive WordLoop where
  | partialMatch
  | stopped (j : Nat)
  | outOfBounds

/-- `desc[0] == '*'`. -/
def isStar (desc : Word) : Bool := desc.head? == some 42

/-- The loop over the words of the request from place `j` on. -/
def wordLoop (command : List Word) : (vline : List Word) → (j : Nat) → WordLoop
  | [], j => .stopped j
  | str :: vline, j =>
    match command[j]? with
    | none => .outOfBounds
    | some desc =>
      if isStar desc then .partialMatch
      else if desc ≠ str then .stopped j
      else wordLoop command vline (j + 1)

/-- What is found, for an element or for the vector; the search may also read behind the words of a command. -/
inductive ElementMatch (H : Type) where
  | found (el : CtrlCmdElement H)
  | nothing
  | outOfBounds
  deriving DecidableEq

/-- The search at one element. -/
def elementMatch {H : Type} (vline : List Word) (el : CtrlCmdElement H) : ElementMatch H :=
  if vline.length < el.strcmd.length then .nothing
  else
    match wordLoop el.strcmd vline 0 with
    | .partialMatch => .found el
    | .stopped j => if j = el.strcmd.length then .found el else .nothing
    | .outOfBounds => .outOfBounds

/-- `ctrl_cmd_get_element_match`. -/
def ctrlCmdGetElementMatch {H : Type} (vline : List Word) : CmdVector H → ElementMatch H
  | [] => .nothing
  | none :: node => ctrlCmdGetElementMatch vline node
  | some el :: node =>
    match elementMatch vline el with
    | .found el => .found el
    | .nothing => ctrlCmdGetElementMatch vline node
    | .outOfBounds => .outOfBounds

/-! ## What fits -/

/-- The words of a command up to its first asterisk. -/
def beforeStar (command : List Word) : List Word := command.takeWhile fun desc => !isStar desc

/-- The command has no asterisk. -/
def IsExact (command : List Word) : Prop := ∀ desc ∈ command, isStar desc = false

/-- The words of the command up to its first asterisk are those of the request, and a command without one has as many
    words as the request. -/
def Fits (command vline : List Word) : Prop :=
  beforeStar command <+: vline ∧ (IsExact command → command.length = vline.length)

/-- The command fits, and has no more words than the request, its asterisk and what is behind it included. -/
def Answers (command vline : List Word) : Prop := command.length ≤ vline.length ∧ Fits command vline

/-- The request goes on behind all of the words of a command without an asterisk. -/
def Overruns (command vline : List Word) : Prop :=
  IsExact command ∧ command <+: vline ∧ command.length < vline.length

instance (command : List Word) : Decidable (IsExact command) := inferInstanceAs (Decidable (∀ _ ∈ command, _ = _))

instance (command vline : List Word) : Decidable (Fits command vline) := inferInstanceAs (Decidable (_ ∧ (_ → _)))

instance (command vline : List Word) : Decidable (Answers command vline) := inferInstanceAs (Decidable (_ ∧ _))

instance (command vline : List Word) : Decidable (Overruns command vline) := inferInstanceAs (Decidable (_ ∧ _ ∧ _))

/-- The elements that are installed, in the order of the vector. -/
def CmdVector.elements {H : Type} (node : CmdVector H) : List (CtrlCmdElement H) := node.filterMap id

/-- A search that ends with the first element that `p` holds of, or without one. -/
def ElementMatch.ofFind {H : Type} : Option (CtrlCmdElement H) → ElementMatch H
  | some el => .found el
  | none => .nothing

/-! ## The loop over the words -/

section

variable {desc str : Word} {rest vline command : List Word}

/-- Nothing stands before an asterisk. -/
theorem beforeStar_star (h : isStar desc = true) : beforeStar (desc :: rest) = [] := by
  simp [beforeStar, h]

/-- Another word does. -/
theorem beforeStar_cons (h : isStar desc = false) : beforeStar (desc :: rest) = desc :: beforeStar rest := by
  simp [beforeStar, h]

theorem isExact_cons : IsExact (desc :: rest) ↔ isStar desc = false ∧ IsExact rest := by
  simp [IsExact]

/-- All of a command without an asterisk stands before one. -/
theorem IsExact.beforeStar_eq (h : IsExact rest) : beforeStar rest = rest := by
  refine takeWhile_eq_self_iff.mpr fun desc hdesc => ?_
  simp [h desc hdesc]

/-- How the loop ends, for the words `rest` of the command from the place on, where the request has as many: at an
    asterisk behind equal words, behind all of both, behind all of the command with the request going on, or at a
    difference. -/
inductive WordLoopEnd (rest vline : List Word) (j : Nat) : WordLoop → Prop where
  | star (hnot : ¬ IsExact rest) (hbefore : beforeStar rest <+: vline) : WordLoopEnd rest vline j .partialMatch
  | equal (hexact : IsExact rest) (heq : rest = vline) : WordLoopEnd rest vline j (.stopped (j + rest.length))
  | overrun (h : Overruns rest vline) : WordLoopEnd rest vline j .outOfBounds
  | differs (k : Nat) (hk : k < j + rest.length) (hnot : ¬ beforeStar rest <+: vline) :
      WordLoopEnd rest vline j (.stopped k)

/-- An equal word before the place changes none of this. -/
theorem WordLoopEnd.cons {j : Nat} {out : WordLoop} (h : WordLoopEnd rest vline (j + 1) out)
    (hdesc : isStar desc = false) : WordLoopEnd (desc :: rest) (desc :: vline) j out := by
  cases h with
  | star hnot hbefore =>
    refine .star (fun h => hnot (isExact_cons.mp h).2) ?_
    rw [beforeStar_cons hdesc]
    exact cons_prefix_cons.mpr ⟨rfl, hbefore⟩
  | equal hexact heq =>
    have hend : j + 1 + rest.length = j + (desc :: rest).length := by
      rw [length_cons]
      omega
    rw [hend]
    exact .equal (isExact_cons.mpr ⟨hdesc, hexact⟩) (by rw [heq])
  | overrun h =>
    obtain ⟨hexact, hpre, hlen⟩ := h
    exact .overrun ⟨isExact_cons.mpr ⟨hdesc, hexact⟩, cons_prefix_cons.mpr ⟨rfl, hpre⟩, Nat.succ_lt_succ hlen⟩
  | differs k hk hnot =>
    refine .differs k (by rw [length_cons]; omega) fun hpre => hnot ?_
    rw [beforeStar_cons hdesc] at hpre
    exact (cons_prefix_cons.mp hpre).2

theorem wordLoop_end (j : Nat) (hrest : command.drop j = rest) (hlen : rest.length ≤ vline.length) :
    WordLoopEnd rest vline j (wordLoop command vline j) := by
  induction vline generalizing j rest with
  | nil =>
    obtain rfl : rest = [] := length_eq_zero_iff.mp (Nat.le_zero.mp hlen)
    exact .equal (fun desc hdesc => absurd hdesc not_mem_nil) rfl
  | cons str vline ih =>
    cases rest with
    | nil =>
      have hnone : command[j]? = none := getElem?_eq_none (drop_eq_nil_iff.mp hrest)
      unfold wordLoop
      rw [hnone]
      exact .overrun ⟨fun desc hdesc => absurd hdesc not_mem_nil, nil_prefix, Nat.succ_pos _⟩
    | cons desc rest =>
      have hget : command[j]? = some desc := by
        have h : (command.drop j)[0]? = command[j + 0]? := getElem?_drop
        rw [hrest] at h
        exact h.symm
      have hnext : command.drop (j + 1) = rest := by
        rw [← drop_drop, hrest]
        rfl
      unfold wordLoop
      rw [hget]
      show WordLoopEnd _ _ _ (if isStar desc then _ else _)
      cases hstar : isStar desc with
      | true =>
        refine .star (fun h => ?_) ?_
        · rw [(isExact_cons.mp h).1] at hstar
          cases hstar
        · rw [beforeStar_star hstar]
          exact nil_prefix
      | false =>
        rw [if_neg (by decide)]
        by_cases heq : desc = str
        · rw [if_neg (not_not.mpr heq), ← heq]
          exact (ih (j + 1) hnext (Nat.le_of_succ_le_succ hlen)).cons hstar
        · rw [if_pos heq]
          refine .differs j (by rw [length_cons]; omega) fun hpre => heq ?_
          rw [beforeStar_cons hstar] at hpre
          exact (cons_prefix_cons.mp hpre).1

end

/-! ## The first that fits -/

section

variable {H : Type} {vline : List Word} {el : CtrlCmdElement H}

/-- An element is found if it answers the request; its words are overrun if the request goes on behind them; otherwise
    the search goes on. -/
theorem elementMatch_eq (vline : List Word) (el : CtrlCmdElement H) :
    elementMatch vline el =
      if Answers el.strcmd vline then .found el else if Overruns el.strcmd vline then .outOfBounds else .nothing := by
  unfold elementMatch
  by_cases hlen : vline.length < el.strcmd.length
  · rw [if_pos hlen, if_neg (fun h => absurd h.1 (by omega)), if_neg (fun h => absurd h.2.2 (by omega))]
  · rw [if_neg hlen]
    have hle : el.strcmd.length ≤ vline.length := by omega
    have hend := wordLoop_end 0 (drop_zero (l := el.strcmd)) hle
    revert hend
    generalize wordLoop el.strcmd vline 0 = out
    rintro (⟨hnot, hbefore⟩ | ⟨hexact, heq⟩ | h | ⟨k, hk, hnot⟩)
    · have hans : Answers el.strcmd vline := ⟨hle, hbefore, fun hexact => absurd hexact hnot⟩
      rw [if_pos hans]
    · have hbefore : beforeStar el.strcmd = vline := hexact.beforeStar_eq.trans heq
      have hpre : beforeStar el.strcmd <+: vline := hbefore ▸ prefix_rfl
      have hans : Answers el.strcmd vline := ⟨hle, hpre, fun _ => by rw [heq]⟩
      rw [if_pos hans]
      exact if_pos (Nat.zero_add _)
    · have hnot : ¬ Answers el.strcmd vline := fun hans => by
        have := hans.2.2 h.1
        have := h.2.2
        omega
      rw [if_neg hnot, if_pos h]
    · have hne : k ≠ el.strcmd.length := by omega
      rw [if_neg (fun hans : Answers _ _ => hnot hans.2.1),
        if_neg (fun h : Overruns _ _ => hnot (by rw [h.1.beforeStar_eq]; exact h.2.1))]
      exact if_neg hne

/-- The search ends with the first element that answers the request or is overrun by it. -/
theorem ctrlCmdGetElementMatch_eq (vline : List Word) (node : CmdVector H) :
    ctrlCmdGetElementMatch vline node =
      match node.elements.find? fun el => decide (Answers el.strcmd vline ∨ Overruns el.strcmd vline) with
      | some el => if Answers el.strcmd vline then .found el else .outOfBounds
      | none => .nothing := by
  induction node with
  | nil => rfl
  | cons slot node ih =>
    cases slot with
    | none => exact ih
    | some el =>
      have helements : CmdVector.elements (some el :: node) = el :: CmdVector.elements node := rfl
      rw [helements]
      unfold ctrlCmdGetElementMatch
      rw [elementMatch_eq]
      by_cases hans : Answers el.strcmd vline
      · rw [if_pos hans, find?_cons_of_pos (by simp [hans])]
        simp only [if_pos hans]
      · by_cases hover : Overruns el.strcmd vline
        · rw [if_neg hans, if_pos hover, find?_cons_of_pos (by simp [hover])]
          simp only [if_neg hans]
        · rw [if_neg hans, if_neg hover, find?_cons_of_neg (by simp [hans, hover])]
          exact ih

/-- The first element that `p` holds of is the first one of which `p` or `q` does, if `q` holds of none before it. -/
theorem find?_or_of_takeWhile {α : Type} {p q : α → Prop} [DecidablePred p] [DecidablePred q] {l : List α}
    (h : ∀ a ∈ l.takeWhile fun a => !decide (p a), ¬ q a) :
    (l.find? fun a => decide (p a ∨ q a)) = l.find? fun a => decide (p a) := by
  induction l with
  | nil => rfl
  | cons a l ih =>
    by_cases hp : p a
    · rw [find?_cons_of_pos (by simp [hp]), find?_cons_of_pos (by simp [hp])]
    · rw [takeWhile_cons_of_pos (by simp [hp])] at h
      have hq : ¬ q a := h a mem_cons_self
      rw [find?_cons_of_neg (by simp [hp, hq]), find?_cons_of_neg (by simp [hp])]
      exact ih fun b hb => h b (mem_cons_of_mem _ hb)

/-- The first element that answers the request is found, and none if there is none, where no element before it is
    overrun by the request. -/
theorem ctrlCmdGetElementMatch_first (vline : List Word) (node : CmdVector H)
    (hbounded : ∀ el ∈ node.elements.takeWhile fun el => !decide (Answers el.strcmd vline),
      ¬ Overruns el.strcmd vline) :
    ctrlCmdGetElementMatch vline node = .ofFind (node.elements.find? fun el => decide (Answers el.strcmd vline)) := by
  rw [ctrlCmdGetElementMatch_eq,
    find?_or_of_takeWhile (p := fun el : CtrlCmdElement H => Answers el.strcmd vline) hbounded]
  cases hfind : node.elements.find? fun el => decide (Answers el.strcmd vline) with
  | none => rfl
  | some el =>
    have hans : Answers el.strcmd vline :=
      of_decide_eq_true (find?_some (p := fun el : CtrlCmdElement H => decide (Answers el.strcmd vline)) hfind)
    exact if_pos hans

end

/-- A node with the commands `rate_ctr *` and `location`. -/
def twoCommands : CmdVector Unit :=
  ctrlCmdInstall (ctrlCmdInstall [] ⟨octets "rate_ctr *", [], ()⟩) ⟨octets "location", [], ()⟩

theorem ctrlCmdGetElementMatch_first_location :
    (∀ el ∈ twoCommands.elements.takeWhile fun el => !decide (Answers el.strcmd [octets "location"]),
        ¬ Overruns el.strcmd [octets "location"]) ∧
      ctrlCmdGetElementMatch [octets "location"] twoCommands =
        .ofFind (twoCommands.elements.find? fun el => decide (Answers el.strcmd [octets "location"])) :=
  ⟨by decide, ctrlCmdGetElementMatch_first _ _ (by decide)⟩

/-- A command with an asterisk that is longer than the request is not found, although its words before the asterisk are
    those of the request. -/
theorem ctrlCmdGetElementMatch_shorter :
    ctrlCmdGetElementMatch [octets "rate_ctr"] twoCommands ≠
      .ofFind (twoCommands.elements.find? fun el => decide (Fits el.strcmd [octets "rate_ctr"])) := by
  decide

end OpenBsc.Libctrl
