import OpenBsc.Lib.Decimal
import OpenBsc.Libcommon.OmlObjects
import OpenBsc.Libctrl.ControlMatch

/-!
# `Libctrl.ControlNodes` — the object that a command is for (`ctrl_cmd_handle`, `ctrl_cmd_exec`)

The name of a variable is a path of objects, `net.bts0.trx1.ts2`, and a command behind it. `ctrl_cmd_handle` goes from
word to word with a pointer to the last object of each kind. A word that is out of its place is not refused: it is
looked up from what the pointers are, and a pointer that an earlier word set is still set when a later one finds
nothing.

`PathTo` says which words are a path to which object. The look-ups are said again from the end of the words backwards
(`nodeBefore`): where a word finds its object depends on the nearest word before it that names the parent. `resolve_eq`
says that the loop comes to the same, and `ctrlCmdHandle_iff` when it executes commands only where they belong.
-/

namespace OpenBsc.Libctrl

open OpenBsc.Libcommon (OmlBts Consistent gsmBtsTrxNum gsmBtsTrxNum_eq)

/-! ## Data -/

/-- `struct gsm_network`, as far as the BTSs: `gsm_bts_alloc_register` numbers them in the order of the list, with eight
    bits. -/
structure CtrlNet where
  btsList : List OmlBts
  numbered : ∀ i bts, btsList[i]? = some bts → bts.nr = UInt8.ofNat i
  consistent : ∀ bts ∈ btsList, Consistent bts

/-- `net->num_bts`. -/
def CtrlNet.numBts (net : CtrlNet) : Nat := net.btsList.length

/-- `cmd->node`, an object by its place: the network, a BTS, a transceiver of it, a timeslot of that. -/
inductive CtrlNode where
  | root
  | net
  | bts (i : Nat)
  | trx (i j : Nat)
  | ts (i j : Nat) (k : Fin 8)

/-- `enum ctrl_node_type`. -/
inductive CtrlNodeType where
  | root | net | bts | trx | ts

def CtrlNode.type : CtrlNode → CtrlNodeType
  | .root => .root
  | .net => .net
  | .bts _ => .bts
  | .trx _ _ => .trx
  | .ts _ _ _ => .ts

/-- `CTRL_CMD_ERROR`, `CTRL_CMD_HANDLED` and `CTRL_CMD_REPLY`. -/
inductive CtrlRet where
  | error | handled | reply

/-- The functions of an element: what they return, and the reply that they leave in the command. `verify` returns
    whether the value is refused. -/
structure CtrlFunctions where
  get : Option (CtrlNode → CtrlCmd → CtrlRet × Option (List Octet)) := none
  set : Option (CtrlNode → CtrlCmd → CtrlRet × Option (List Octet)) := none
  verify : Option (CtrlNode → CtrlCmd → List Octet → Bool × Option (List Octet)) := none

/-- `get` or `set` of an element is called for a node, for the words of a command. -/
structure CtrlCall where
  node : CtrlNode
  element : CtrlCmdElement CtrlFunctions
  words : List Word

/-- What comes of a command: a call or none, what is returned, and the command as it is then; or a read behind the words
    of an element. -/
inductive CtrlHandled where
  | done (call : Option CtrlCall) (ret : CtrlRet) (cmd : CtrlCmd)
  | outOfBounds

/-! ## The source -/

/-- `gsm_bts_num`. A negative number is a large one when it is compared with the count. -/
def gsmBtsNum (net : CtrlNet) (num : Int) : Option Nat :=
  if net.numBts ≤ (num % 2 ^ 32).toNat then none
  else net.btsList.findIdx? fun bts => (bts.nr.toNat : Int) == num

/-- `gsm_bts_trx_num` of the BTS at a place, for an `int`. No transceiver has a negative number. -/
def btsTrxNum (net : CtrlNet) (i : Nat) (num : Int) : Option Nat :=
  if num < 0 then none else net.btsList[i]?.bind fun bts => gsmBtsTrxNum bts num.toNat

/-- `&trx->ts[num]`, if there is one. -/
def tsNum (num : Int) : Option (Fin 8) :=
  if num < 0 then none else if h : num.toNat < 8 then some ⟨num.toNat, h⟩ else none

/-- What a word is taken for. -/
inductive WordKind where
  | net | bts | trx | ts | command
  deriving DecidableEq

/-- The conditions of the loop, by the start of the word. -/
def wordKind (token : Word) : WordKind :=
  if token = octets "net" then .net
  else if (octets "bts").isPrefixOf token then .bts
  else if (octets "trx").isPrefixOf token then .trx
  else if (octets "ts").isPrefixOf token then .ts
  else .command

/-- The variables of the loop. -/
structure Pointers where
  net : Bool := false
  bts : Option Nat := none
  trx : Option (Nat × Nat) := none
  ts : Option (Nat × Nat × Fin 8) := none
  node : CtrlNode := .root

/-- A round of the loop for a word that is not a command; none if the loop is left. There is a network. -/
def stepToken (net : CtrlNet) (p : Pointers) (token : Word) : Option Pointers :=
  match wordKind token with
  | .net => some { p with net := true, node := .net }
  | .bts =>
    if p.net then
      (gsmBtsNum net (atoi (token.drop 3))).map fun i => { p with bts := some i, node := .bts i }
    else none
  | .trx =>
    p.bts.bind fun i => (btsTrxNum net i (atoi (token.drop 3))).map fun j =>
      { p with trx := some (i, j), node := .trx i j }
  | .ts =>
    p.trx.bind fun (i, j) =>
      -- the pointer keeps its value if the number is none of a timeslot
      (((tsNum (atoi (token.drop 2))).map fun k => (i, j, k)).or p.ts).map fun (i, j, k) =>
        { p with ts := some (i, j, k), node := .ts i j k }
  | .command => none

/-- The loop: the node that a command is for and the words of the command, if it comes to one. -/
def resolve (net : CtrlNet) : List Word → Pointers → Option (CtrlNode × List Word)
  | [], _ => none
  | token :: vline, p =>
    if wordKind token = .command then some (p.node, token :: vline)
    else (stepToken net p token).bind fun p => resolve net vline p

/-- `out:` in `ctrl_cmd_exec`, behind a call. -/
def ctrlCmdOut (call : CtrlCall) (cmd : CtrlCmd) (result : CtrlRet × Option (List Octet)) : CtrlHandled :=
  match result.1 with
  | .reply =>
    .done (some call) .reply { cmd with
      type := match cmd.type with
        | .set => .setReply
        | .get => .getReply
        | type => type
      reply := result.2 }
  | .error => .done (some call) .error { cmd with type := .error, reply := result.2 }
  | .handled => .done (some call) .handled { cmd with reply := result.2 }

/-- An error without a call. -/
def ctrlCmdFails (cmd : CtrlCmd) (reply : Option (List Octet)) : CtrlHandled :=
  .done none .error { cmd with type := .error, reply := reply }

/-- `ctrl_cmd_exec` for an element. -/
def ctrlCmdCall (node : CtrlNode) (vline : List Word) (cmd : CtrlCmd) (el : CtrlCmdElement CtrlFunctions) :
    CtrlHandled :=
  if cmd.type = .set then
    match el.functions.set with
    | none => ctrlCmdFails cmd (octets "SET not implemented")
    | some set =>
      match el.functions.verify with
      | some verify =>
        let (refused, reply) := verify node cmd (cmd.value.getD [])
        if refused then ctrlCmdFails cmd (reply.getD (octets "Value failed verification."))
        else ctrlCmdOut ⟨node, el, vline⟩ { cmd with reply := reply } (set node { cmd with reply := reply })
      | none => ctrlCmdOut ⟨node, el, vline⟩ cmd (set node cmd)
  else
    match el.functions.get with
    | none => ctrlCmdFails cmd (octets "GET not implemented")
    | some get => ctrlCmdOut ⟨node, el, vline⟩ cmd (get node cmd)

/-- `ctrl_cmd_exec`. -/
def ctrlCmdExec (node : CtrlNode) (vline : List Word) (cmd : CtrlCmd) (cmds : CmdVector CtrlFunctions) : CtrlHandled :=
  if cmd.type ≠ .get ∧ cmd.type ≠ .set then
    ctrlCmdFails cmd (octets "Trying to execute something not GET or SET")
  else if cmd.type = .set ∧ cmd.value = none then ctrlCmdFails cmd (octets "SET without a value")
  else
    match ctrlCmdGetElementMatch vline cmds with
    | .outOfBounds => .outOfBounds
    | .nothing => ctrlCmdFails cmd (octets "Command not found")
    | .found el => ctrlCmdCall node vline cmd el

/-- The dots of a name become blanks. -/
def dotsToBlanks (name : List Octet) : List Octet := name.map fun o => if o = 46 then 32 else o

/-- The words of a name: `cmd_make_strvec` splits a string at its blanks, and refuses some. -/
def nameWords (cmdMakeStrvec : List Octet → Option (List Word)) (name : Option (List Octet)) : List Word :=
  ((name.map dotsToBlanks).bind cmdMakeStrvec).getD []

/-- The reply that is there before anything is done. -/
def presetReply (cmd : CtrlCmd) : CtrlCmd :=
  { cmd with reply := some (octets "Someone forgot to fill in the reply.") }

/-- `ctrl_cmd_handle`. Where the loop is left, the reply is the one from before. -/
def ctrlCmdHandle (cmdMakeStrvec : List Octet → Option (List Word)) (net : CtrlNet)
    (ctrlNodeVec : CtrlNodeType → Option (CmdVector CtrlFunctions)) (cmd : CtrlCmd) : CtrlHandled :=
  match resolve net (nameWords cmdMakeStrvec cmd.var) {} with
  | none => ctrlCmdFails (presetReply cmd) (presetReply cmd).reply
  | some (node, vline) =>
    match ctrlNodeVec node.type with
    | none => ctrlCmdFails (presetReply cmd) (octets "Command not found")
    | some cmds => ctrlCmdExec node vline (presetReply cmd) cmds

/-! ## Paths -/

/-- The network has a BTS of this number, -/
def CtrlNet.HasBts (net : CtrlNet) (n : Nat) : Prop := ∃ bts, net.btsList[n]? = some bts ∧ bts.nr.toNat = n

/-- and the BTS a transceiver of that number. -/
def CtrlNet.HasTrx (net : CtrlNet) (n m : Nat) : Prop :=
  ∃ bts trx, net.btsList[n]? = some bts ∧ bts.trxList[m]? = some trx ∧ trx.nr.toNat = m

/-- The words are a path of existing objects to the object: the network, a BTS of it, a transceiver of that, a timeslot
    of that, with their numbers in digits. -/
inductive PathTo (net : CtrlNet) : List Word → CtrlNode → Prop where
  | root : PathTo net [] .root
  | net : PathTo net [octets "net"] .net
  | bts {words : List Word} {text : List Octet} {n : Nat} (h : PathTo net words .net) (hn : Writes text n)
      (hbts : net.HasBts n) : PathTo net (words ++ [octets "bts" ++ text]) (.bts n)
  | trx {words : List Word} {text : List Octet} {n m : Nat} (h : PathTo net words (.bts n)) (hm : Writes text m)
      (htrx : net.HasTrx n m) : PathTo net (words ++ [octets "trx" ++ text]) (.trx n m)
  | ts {words : List Word} {text : List Octet} {n m : Nat} {k : Fin 8} (h : PathTo net words (.trx n m))
      (hk : Writes text k) : PathTo net (words ++ [octets "ts" ++ text]) (.ts n m k)

/-- **A command is executed where it belongs.** It is called for the object that the words before it are a path to, and
    is a command of that kind of object which the words fit; otherwise there is an error with a reply, and no call. -/
inductive NodeResolved (net : CtrlNet) (ctrlNodeVec : CtrlNodeType → Option (CmdVector CtrlFunctions))
    (vline : List Word) : CtrlHandled → Prop where
  | executed {call : CtrlCall} {ret : CtrlRet} {cmd : CtrlCmd} {path : List Word} {cmds : CmdVector CtrlFunctions}
      (hvline : vline = path ++ call.words) (hpath : PathTo net path call.node)
      (hcmds : ctrlNodeVec call.node.type = some cmds) (hmem : call.element ∈ cmds.elements)
      (hfits : Answers call.element.strcmd call.words) : NodeResolved net ctrlNodeVec vline (.done (some call) ret cmd)
  | refused {cmd : CtrlCmd} (htype : cmd.type = .error) (hreply : cmd.reply.isSome) :
      NodeResolved net ctrlNodeVec vline (.done none .error cmd)

/-! ## Looking back

The words of a name in front of a place, from the last to the first. -/

/-- The BTS that the last word for one is looked up as, -/
def btsBefore (net : CtrlNet) : List Word → Option Nat
  | [] => none
  | token :: back =>
    if wordKind token = .bts then gsmBtsNum net (atoi (token.drop 3)) else btsBefore net back

/-- the transceiver of the BTS at that place, -/
def trxBefore (net : CtrlNet) : List Word → Option (Nat × Nat)
  | [] => none
  | token :: back =>
    if wordKind token = .trx then
      (btsBefore net back).bind fun i => (btsTrxNum net i (atoi (token.drop 3))).map fun j => (i, j)
    else trxBefore net back

/-- and the timeslot of the last word that has the number of one. -/
def tsBefore (net : CtrlNet) : List Word → Option (Nat × Nat × Fin 8)
  | [] => none
  | token :: back =>
    if wordKind token = .ts then
      match tsNum (atoi (token.drop 2)) with
      | some k => (trxBefore net back).map fun (i, j) => (i, j, k)
      | none => tsBefore net back
    else tsBefore net back

/-- The object that the last word finds, if it finds one. -/
def nodeBefore (net : CtrlNet) : List Word → Option CtrlNode
  | [] => some .root
  | token :: back =>
    match wordKind token with
    | .net => some .net
    | .bts => if octets "net" ∈ back then (btsBefore net (token :: back)).map .bts else none
    | .trx => (trxBefore net (token :: back)).map fun (i, j) => .trx i j
    | .ts =>
      if (trxBefore net back).isSome then (tsBefore net (token :: back)).map fun (i, j, k) => .ts i j k else none
    | .command => none

/-- Every word finds an object behind the words `back`. -/
def allFound (net : CtrlNet) : (back : List Word) → List Word → Bool
  | _, [] => true
  | back, token :: rest => (nodeBefore net (token :: back)).isSome && allFound net (token :: back) rest

/-- A word for an object. -/
def isObject (token : Word) : Bool := wordKind token != .command

/-! ## The loop -/

variable {node : CtrlNode}

section Loop

variable {net : CtrlNet}

/-- What the words before a place leave in the variables. -/
def Pointers.after (net : CtrlNet) (back : List Word) : Pointers where
  net := octets "net" ∈ back
  bts := btsBefore net back
  trx := trxBefore net back
  ts := tsBefore net back
  node := (nodeBefore net back).getD .root

theorem wordKind_net : wordKind (octets "net") = .net := if_pos rfl

theorem eq_net_of_wordKind {token : Word} (h : wordKind token = .net) : token = octets "net" := by
  unfold wordKind at h
  split_ifs at h with hnet
  exact hnet

/-- Another word for an object is not that for the network. -/
theorem net_mem_cons {token : Word} {back : List Word} (h : wordKind token ≠ .net) :
    octets "net" ∈ token :: back ↔ octets "net" ∈ back := by
  rw [List.mem_cons, or_iff_right]
  rintro rfl
  exact h wordKind_net

variable (text : List Octet) (back path : List Word) (token : Word)

/-- A round of the loop is a look at the words before. -/
theorem stepToken_eq :
    stepToken net (.after net back) token =
      if (nodeBefore net (token :: back)).isSome then some (.after net (token :: back)) else none := by
  unfold stepToken
  cases hkind : wordKind token with
  | net =>
    have hmem : octets "net" ∈ token :: back := by
      rw [eq_net_of_wordKind hkind]
      exact List.mem_cons_self
    simp only [nodeBefore, Pointers.after, btsBefore, trxBefore, tsBefore, hkind, hmem, reduceCtorEq, if_false,
      Option.isSome_some, if_true, decide_true, Option.getD_some]
  | bts =>
    have hmem := @net_mem_cons token back (by rw [hkind]; decide)
    simp only [nodeBefore, Pointers.after, btsBefore, trxBefore, tsBefore, hkind, hmem, reduceCtorEq, if_false, if_true]
    by_cases hnet : octets "net" ∈ back
    · cases gsmBtsNum net (atoi (token.drop 3)) with
      | none | some => simp [hnet]
    · simp [hnet]
  | trx =>
    have hmem := @net_mem_cons token back (by rw [hkind]; decide)
    simp only [nodeBefore, Pointers.after, btsBefore, trxBefore, tsBefore, hkind, hmem, reduceCtorEq, if_false, if_true]
    cases btsBefore net back with
    | none => rfl
    | some i =>
      simp only [Option.bind_some]
      cases btsTrxNum net i (atoi (token.drop 3)) with
      | none | some => simp
  | ts =>
    have hmem := @net_mem_cons token back (by rw [hkind]; decide)
    simp only [nodeBefore, Pointers.after, btsBefore, trxBefore, tsBefore, hkind, hmem, reduceCtorEq, if_false, if_true]
    cases trxBefore net back with
    | none => simp
    | some trx =>
      cases tsNum (atoi (token.drop 2)) with
      | none =>
        cases tsBefore net back with
        | none | some => simp
      | some k => simp
  | command => simp only [nodeBefore, hkind, Option.isSome_none, Bool.false_eq_true, if_false]

/-- The loop comes to a command exactly if there is one and every word before it finds its object; the node is that of
    the last word. By induction on the words that are left. -/
theorem resolve_eq (vline back : List Word) :
    resolve net vline (.after net back) =
      if vline.dropWhile isObject ≠ [] ∧ allFound net back (vline.takeWhile isObject) = true then
        some ((nodeBefore net ((vline.takeWhile isObject).reverse ++ back)).getD .root, vline.dropWhile isObject)
      else none := by
  induction vline generalizing back with
  | nil => rfl
  | cons token vline ih =>
    unfold resolve
    by_cases hcommand : wordKind token = .command
    · have hnot : ¬ isObject token = true := by simp [isObject, hcommand]
      rw [if_pos hcommand, List.takeWhile_cons_of_neg hnot, List.dropWhile_cons_of_neg hnot,
        if_pos ⟨List.cons_ne_nil _ _, rfl⟩]
      rfl
    · have hobject : isObject token = true := by simpa [isObject] using hcommand
      rw [if_neg hcommand, stepToken_eq, List.takeWhile_cons_of_pos hobject, List.dropWhile_cons_of_pos hobject]
      unfold allFound
      by_cases hfound : (nodeBefore net (token :: back)).isSome = true
      · rw [if_pos hfound, Option.bind_some, ih, hfound, Bool.true_and, List.reverse_cons, List.append_assoc]
        rfl
      · rw [if_neg hfound, Option.bind_none, if_neg]
        rintro ⟨-, hall⟩
        exact hfound (Bool.and_eq_true_iff.mp hall).1

/-! ### Words of a path -/

/-- Words that begin differently differ. -/
theorem ne_net_of_head {w : Word} {o : Octet} (hw : w.head? = some o) (ho : o ≠ 110) : w ≠ octets "net" := by
  rintro rfl
  exact ho (Option.some.inj hw).symm

theorem wordKind_bts : wordKind (octets "bts" ++ text) = .bts := by
  have hnet : octets "bts" ++ text ≠ octets "net" := ne_net_of_head rfl (by decide)
  have hbts : (octets "bts").isPrefixOf (octets "bts" ++ text) = true :=
    List.isPrefixOf_iff_prefix.mpr (List.prefix_append _ _)
  unfold wordKind
  rw [if_neg hnet, if_pos hbts]

theorem wordKind_trx : wordKind (octets "trx" ++ text) = .trx := by
  have hnet : octets "trx" ++ text ≠ octets "net" := ne_net_of_head rfl (by decide)
  have hbts : ¬ (octets "bts").isPrefixOf (octets "trx" ++ text) = true := Bool.false_ne_true
  have htrx : (octets "trx").isPrefixOf (octets "trx" ++ text) = true :=
    List.isPrefixOf_iff_prefix.mpr (List.prefix_append _ _)
  unfold wordKind
  rw [if_neg hnet, if_neg hbts, if_pos htrx]

theorem wordKind_ts : wordKind (octets "ts" ++ text) = .ts := by
  have hnet : octets "ts" ++ text ≠ octets "net" := ne_net_of_head rfl (by decide)
  have hbts : ¬ (octets "bts").isPrefixOf (octets "ts" ++ text) = true := Bool.false_ne_true
  have htrx : ¬ (octets "trx").isPrefixOf (octets "ts" ++ text) = true := Bool.false_ne_true
  have hts : (octets "ts").isPrefixOf (octets "ts" ++ text) = true :=
    List.isPrefixOf_iff_prefix.mpr (List.prefix_append _ _)
  unfold wordKind
  rw [if_neg hnet, if_neg hbts, if_neg htrx, if_pos hts]

theorem gsmBtsNum_eq {n : Nat} (h : net.HasBts n) : gsmBtsNum net n = some n := by
  obtain ⟨bts, hget, hnr⟩ := h
  obtain ⟨hlt, hbts⟩ := List.getElem?_eq_some_iff.mp hget
  have h256 : n < 256 := hnr ▸ bts.nr.toNat_lt
  have hcount : ((n : Int) % 2 ^ 32).toNat = n := by omega
  unfold gsmBtsNum
  rw [hcount, if_neg (show ¬ net.numBts ≤ n from Nat.not_le_of_lt hlt), List.findIdx?_eq_some_iff_getElem]
  refine ⟨hlt, ?_, fun j hj => ?_⟩
  · rw [hbts, hnr, beq_self_eq_true]
  · rw [net.numbered j _ (List.getElem?_eq_getElem (by omega)), toNat_octetOf (by omega)]
    simp only [beq_iff_eq, Nat.cast_inj]
    omega

/-- a transceiver by its own, -/
theorem btsTrxNum_eq {n m : Nat} (h : net.HasTrx n m) : btsTrxNum net n m = some m := by
  obtain ⟨bts, trx, hbts, htrx, hnr⟩ := h
  have hconsistent : Consistent bts := net.consistent bts (List.mem_of_getElem? hbts)
  obtain ⟨hlt, -⟩ := List.getElem?_eq_some_iff.mp htrx
  have hcount : trx.nr.toNat < bts.numTrx := by
    rw [hconsistent.numTrx_eq, hnr]
    exact hlt
  have hfound := gsmBtsTrxNum_eq hconsistent trx.nr hcount
  rw [hnr] at hfound
  unfold btsTrxNum
  rw [if_neg (by omega), hbts, Option.bind_some, Int.toNat_natCast, hfound]

/-- and a timeslot. -/
theorem tsNum_eq (k : Fin 8) : tsNum k.val = some k := by
  unfold tsNum
  rw [if_neg (by omega)]
  exact dif_pos k.isLt

/-- The last word of a path is behind a word that names the parent: it finds what the path is to. -/
theorem nodeBefore_net {back : List Word} (h : nodeBefore net back = some .net) : octets "net" ∈ back := by
  cases back with
  | nil => cases h
  | cons token back =>
    unfold nodeBefore at h
    cases hkind : wordKind token with
    | net => exact eq_net_of_wordKind hkind ▸ List.mem_cons_self
    | bts =>
      simp only [hkind] at h
      split_ifs at h with hnet
      exact List.mem_cons_of_mem _ hnet
    | trx => simp [hkind] at h
    | ts =>
      simp only [hkind] at h
      split_ifs at h
      simp at h
    | command => simp [hkind] at h

theorem nodeBefore_bts {back : List Word} {n : Nat} (h : nodeBefore net back = some (.bts n)) :
    btsBefore net back = some n := by
  cases back with
  | nil => cases h
  | cons token back =>
    unfold nodeBefore at h
    cases hkind : wordKind token with
    | bts =>
      simp only [hkind] at h
      split_ifs at h with hnet
      simpa using h
    | net | trx => simp [hkind] at h
    | ts =>
      simp only [hkind] at h
      split_ifs at h
      simp at h
    | command => simp [hkind] at h

theorem nodeBefore_trx {back : List Word} {n m : Nat} (h : nodeBefore net back = some (.trx n m)) :
    trxBefore net back = some (n, m) := by
  cases back with
  | nil => cases h
  | cons token back =>
    unfold nodeBefore at h
    cases hkind : wordKind token with
    | trx => simpa [hkind, Prod.ext_iff] using h
    | net => simp [hkind] at h
    | bts | ts =>
      simp only [hkind] at h
      split_ifs at h
      simp at h
    | command => simp [hkind] at h

theorem allFound_append :
    allFound net back (path ++ [token]) =
      (allFound net back path && (nodeBefore net (token :: (path.reverse ++ back))).isSome) := by
  induction path generalizing back with
  | nil => simp [allFound]
  | cons first path ih =>
    rw [List.cons_append]
    unfold allFound
    rw [ih, List.reverse_cons, List.append_assoc, Bool.and_assoc]
    rfl

theorem found_append {path : List Word} {token : Word}
    (hpath : (∀ w ∈ path, isObject w = true) ∧ allFound net [] path = true) (hobject : wordKind token ≠ .command)
    (hnode : nodeBefore net (token :: path.reverse) = some node) :
    (∀ w ∈ path ++ [token], isObject w = true) ∧ allFound net [] (path ++ [token]) = true ∧
      nodeBefore net (path ++ [token]).reverse = some node := by
  refine ⟨fun w hw => ?_, ?_, ?_⟩
  · rcases List.mem_append.mp hw with hw | hw
    · exact hpath.1 w hw
    · rw [List.mem_singleton.mp hw]
      simpa [isObject] using hobject
  · rw [allFound_append, List.append_nil, hpath.2, hnode]
    rfl
  · rw [List.reverse_append]
    exact hnode

/-- **A path is found.** -/
theorem PathTo.found {path : List Word} (h : PathTo net path node) :
    (∀ w ∈ path, isObject w = true) ∧ allFound net [] path = true ∧ nodeBefore net path.reverse = some node := by
  induction h with
  | root => exact ⟨fun w hw => absurd hw List.not_mem_nil, rfl, rfl⟩
  | net => exact ⟨by decide, by simp [allFound, nodeBefore, wordKind_net], by simp [nodeBefore, wordKind_net]⟩
  | @bts words text n h hn hbts ih =>
    obtain ⟨hobjects, hall, hnode⟩ := ih
    have hlt : n < 2 ^ 31 := by
      obtain ⟨bts, -, hnr⟩ := hbts
      have := bts.nr.toNat_lt
      omega
    refine found_append ⟨hobjects, hall⟩ (by rw [wordKind_bts]; decide) ?_
    have hnumber : atoi ((octets "bts" ++ text).drop 3) = n := atoi_writes hn hlt
    simp only [nodeBefore, btsBefore, wordKind_bts, if_true, if_pos (nodeBefore_net hnode), hnumber,
      gsmBtsNum_eq hbts, Option.map_some]
  | @trx words text n m h hm htrx ih =>
    obtain ⟨hobjects, hall, hnode⟩ := ih
    have hlt : m < 2 ^ 31 := by
      obtain ⟨bts, trx, -, -, hnr⟩ := htrx
      have := trx.nr.toNat_lt
      omega
    refine found_append ⟨hobjects, hall⟩ (by rw [wordKind_trx]; decide) ?_
    have hnumber : atoi ((octets "trx" ++ text).drop 3) = m := atoi_writes hm hlt
    simp only [nodeBefore, trxBefore, wordKind_trx, if_true, nodeBefore_bts hnode, hnumber, Option.bind_some,
      btsTrxNum_eq htrx, Option.map_some]
  | @ts words text n m k h hk ih =>
    obtain ⟨hobjects, hall, hnode⟩ := ih
    refine found_append ⟨hobjects, hall⟩ (by rw [wordKind_ts]; decide) ?_
    have hnumber : atoi ((octets "ts" ++ text).drop 2) = k.val := atoi_writes hk (by omega)
    simp only [nodeBefore, tsBefore, wordKind_ts, if_true, nodeBefore_trx hnode, hnumber, tsNum_eq,
      Option.isSome_some, Option.map_some]

end Loop

/-! ## Nodes -/

section Nodes

variable {net : CtrlNet} {ctrlNodeVec : CtrlNodeType → Option (CmdVector CtrlFunctions)} {vline : List Word}

/-- A command that `ctrl_cmd_exec` looks for: GET, or SET with a value. -/
def Requests (cmd : CtrlCmd) : Prop := cmd.type = .get ∨ (cmd.type = .set ∧ cmd.value ≠ none)

/-- The element has the function that is asked for, and does not refuse the value. -/
def Executes (node : CtrlNode) (cmd : CtrlCmd) (el : CtrlCmdElement CtrlFunctions) : Prop :=
  if cmd.type = .set then
    el.functions.set.isSome ∧
      ∀ verify, el.functions.verify = some verify → (verify node cmd (cmd.value.getD [])).1 = false
  else el.functions.get.isSome

/-- The name is right, as far as anything is done: if every word for an object in front of the command finds one where
    it stands, and the kind of object that the last one finds has a command which the words of the name fit or go on
    behind, then they fit the first such command, and if this is executed, the words for objects are a path. -/
def NameHolds (net : CtrlNet) (ctrlNodeVec : CtrlNodeType → Option (CmdVector CtrlFunctions)) (vline : List Word)
    (cmd : CtrlCmd) : Prop :=
  let words := vline.dropWhile isObject
  let node := (nodeBefore net (vline.takeWhile isObject).reverse).getD .root
  words ≠ [] → allFound net [] (vline.takeWhile isObject) = true → Requests cmd →
    ∀ cmds, ctrlNodeVec node.type = some cmds →
      ∀ el, (cmds.elements.find? fun el => decide (Answers el.strcmd words ∨ Overruns el.strcmd words)) = some el →
        Answers el.strcmd words ∧ (Executes node cmd el → ∃ node, PathTo net (vline.takeWhile isObject) node)

theorem nodeResolved_fails (cmd : CtrlCmd) (reply : List Octet) :
    NodeResolved net ctrlNodeVec vline (ctrlCmdFails cmd reply) := .refused rfl rfl

theorem ctrlCmdOut_done (call : CtrlCall) (cmd : CtrlCmd) (result : CtrlRet × Option (List Octet)) :
    ∃ ret cmd', ctrlCmdOut call cmd result = .done (some call) ret cmd' := by
  unfold ctrlCmdOut
  cases result.1 with
  | error | handled | reply => exact ⟨_, _, rfl⟩

variable {cmd : CtrlCmd}

theorem ctrlCmdCall_executes {el : CtrlCmdElement CtrlFunctions} (words : List Word) (h : Executes node cmd el) :
    ∃ ret cmd', ctrlCmdCall node words cmd el = .done (some ⟨node, el, words⟩) ret cmd' := by
  unfold Executes at h
  unfold ctrlCmdCall
  by_cases hset : cmd.type = .set
  · rw [if_pos hset] at h
    rw [if_pos hset]
    obtain ⟨set, hfunction⟩ := Option.isSome_iff_exists.mp h.1
    rw [hfunction]
    cases hverify : el.functions.verify with
    | none => exact ctrlCmdOut_done _ _ _
    | some verify =>
      have hpassed := h.2 verify hverify
      dsimp only
      rw [hpassed]
      exact ctrlCmdOut_done _ _ _
  · rw [if_neg hset] at h
    rw [if_neg hset]
    obtain ⟨get, hfunction⟩ := Option.isSome_iff_exists.mp h
    rw [hfunction]
    exact ctrlCmdOut_done _ _ _

theorem ctrlCmdCall_fails {el : CtrlCmdElement CtrlFunctions} (words : List Word) (h : ¬ Executes node cmd el) :
    ∃ reply : List Octet, ctrlCmdCall node words cmd el = ctrlCmdFails cmd reply := by
  unfold Executes at h
  unfold ctrlCmdCall
  by_cases hset : cmd.type = .set
  · rw [if_pos hset] at h
    rw [if_pos hset]
    cases hfunction : el.functions.set with
    | none => exact ⟨_, rfl⟩
    | some set =>
      cases hverify : el.functions.verify with
      | none =>
        refine absurd ⟨by rw [hfunction]; rfl, fun verify hsome => ?_⟩ h
        rw [hverify] at hsome
        cases hsome
      | some verify =>
        dsimp only
        cases hrefused : (verify node cmd (cmd.value.getD [])).1 with
        | true => exact ⟨_, rfl⟩
        | false =>
          refine absurd ⟨by rw [hfunction]; rfl, fun verify' hsome => ?_⟩ h
          rw [hverify] at hsome
          cases hsome
          exact hrefused
  · rw [if_neg hset] at h
    rw [if_neg hset]
    cases hfunction : el.functions.get with
    | none => exact ⟨_, rfl⟩
    | some get => exact absurd (by rw [hfunction]; rfl) h

theorem ctrlCmdExec_not_requests (node : CtrlNode) (words : List Word) (cmds : CmdVector CtrlFunctions)
    (h : ¬ Requests cmd) : ∃ reply : List Octet, ctrlCmdExec node words cmd cmds = ctrlCmdFails cmd reply := by
  unfold ctrlCmdExec
  by_cases htype : cmd.type ≠ .get ∧ cmd.type ≠ .set
  · rw [if_pos htype]
    exact ⟨_, rfl⟩
  · rw [if_neg htype, if_pos]
    · exact ⟨_, rfl⟩
    · have hget : cmd.type ≠ .get := fun hget => h (.inl hget)
      have hset : cmd.type = .set := not_not.mp fun hset => htype ⟨hget, hset⟩
      exact ⟨hset, not_not.mp fun hvalue => h (.inr ⟨hset, hvalue⟩)⟩

theorem ctrlCmdExec_requests {words : List Word} {cmds : CmdVector CtrlFunctions} (h : Requests cmd) :
    ctrlCmdExec node words cmd cmds =
      match ctrlCmdGetElementMatch words cmds with
      | .outOfBounds => .outOfBounds
      | .nothing => ctrlCmdFails cmd (octets "Command not found")
      | .found el => ctrlCmdCall node words cmd el := by
  have htype : ¬ (cmd.type ≠ .get ∧ cmd.type ≠ .set) := fun hnot => h.elim hnot.1 fun hset => hnot.2 hset.1
  have hvalue : ¬ (cmd.type = .set ∧ cmd.value = none) := by
    rintro ⟨hset, hnone⟩
    rcases h with hget | ⟨-, hsome⟩
    · rw [hset] at hget
      cases hget
    · exact hsome hnone
  unfold ctrlCmdExec
  rw [if_neg htype, if_neg hvalue]

/-- A command whose words are those of the name from its first word that is not for an object on. -/
theorem ctrlCmdExec_iff (cmd : CtrlCmd) (cmds : CmdVector CtrlFunctions) (node : CtrlNode)
    (hnode : ∀ node', PathTo net (vline.takeWhile isObject) node' → node' = node)
    (hcmds : ctrlNodeVec node.type = some cmds) :
    NodeResolved net ctrlNodeVec vline (ctrlCmdExec node (vline.dropWhile isObject) cmd cmds) ↔
      (Requests cmd → ∀ el, (cmds.elements.find? fun el =>
          decide (Answers el.strcmd (vline.dropWhile isObject) ∨ Overruns el.strcmd (vline.dropWhile isObject))) =
            some el →
        Answers el.strcmd (vline.dropWhile isObject) ∧
          (Executes node cmd el → ∃ node, PathTo net (vline.takeWhile isObject) node)) := by
  have hsplit : vline = vline.takeWhile isObject ++ vline.dropWhile isObject := List.takeWhile_append_dropWhile.symm
  by_cases hrequests : Requests cmd
  · rw [ctrlCmdExec_requests hrequests, imp_iff_right hrequests, ctrlCmdGetElementMatch_eq]
    cases hfind : cmds.elements.find? fun el =>
        decide (Answers el.strcmd (vline.dropWhile isObject) ∨ Overruns el.strcmd (vline.dropWhile isObject)) with
    | none =>
      refine iff_of_true (nodeResolved_fails _ _) fun el h => ?_
      cases h
    | some el =>
      simp only [Option.some.injEq, forall_eq']
      by_cases hanswers : Answers el.strcmd (vline.dropWhile isObject)
      · rw [if_pos hanswers, and_iff_right hanswers]
        dsimp only
        by_cases hexecutes : Executes node cmd el
        · obtain ⟨ret, cmd', hdone⟩ := ctrlCmdCall_executes (vline.dropWhile isObject) hexecutes
          rw [hdone, imp_iff_right hexecutes]
          constructor
          · intro h
            cases h with
            | @executed _ _ _ path _ hvline hpath _ _ _ =>
              have heq : path = vline.takeWhile isObject := List.append_cancel_right (hvline.symm.trans hsplit)
              exact ⟨node, heq ▸ hpath⟩
          · rintro ⟨node', hpath⟩
            have hthis : PathTo net (vline.takeWhile isObject) node := hnode node' hpath ▸ hpath
            exact .executed hsplit hthis hcmds (List.mem_of_find?_eq_some hfind) hanswers
        · obtain ⟨reply, hfails⟩ := ctrlCmdCall_fails (vline.dropWhile isObject) hexecutes
          rw [hfails]
          exact iff_of_true (nodeResolved_fails _ _) fun h => absurd h hexecutes
      · rw [if_neg hanswers]
        refine iff_of_false (fun h => ?_) fun h => hanswers h.1
        cases h
  · obtain ⟨reply, hfails⟩ := ctrlCmdExec_not_requests node (vline.dropWhile isObject) cmds hrequests
    rw [hfails]
    exact iff_of_true (nodeResolved_fails _ _) fun h => absurd h hrequests

end Nodes

/-- **Commands are executed where they belong exactly if the name is right as far as anything is done.** -/
theorem ctrlCmdHandle_iff (cmdMakeStrvec : List Octet → Option (List Word)) (net : CtrlNet)
    (ctrlNodeVec : CtrlNodeType → Option (CmdVector CtrlFunctions)) (cmd : CtrlCmd) :
    NodeResolved net ctrlNodeVec (nameWords cmdMakeStrvec cmd.var)
        (ctrlCmdHandle cmdMakeStrvec net ctrlNodeVec cmd) ↔
      NameHolds net ctrlNodeVec (nameWords cmdMakeStrvec cmd.var) (presetReply cmd) := by
  generalize hvline : nameWords cmdMakeStrvec cmd.var = vline
  have hresolve := @resolve_eq net vline []
  rw [List.append_nil] at hresolve
  have hstart : Pointers.after net [] = {} := rfl
  rw [hstart] at hresolve
  unfold ctrlCmdHandle NameHolds
  rw [hvline, hresolve]
  by_cases hfound : vline.dropWhile isObject ≠ [] ∧ allFound net [] (vline.takeWhile isObject) = true
  · rw [if_pos hfound]
    dsimp only
    rw [imp_iff_right hfound.1, imp_iff_right hfound.2]
    cases hcmds : ctrlNodeVec ((nodeBefore net (vline.takeWhile isObject).reverse).getD .root).type with
    | none =>
      refine iff_of_true (nodeResolved_fails _ _) fun _ cmds h => ?_
      cases h
    | some cmds =>
      have hnode : ∀ node', PathTo net (vline.takeWhile isObject) node' →
          node' = (nodeBefore net (vline.takeWhile isObject).reverse).getD .root := by
        intro node' hpath
        rw [hpath.found.2.2]
        rfl
      dsimp only
      rw [ctrlCmdExec_iff (presetReply cmd) cmds _ hnode hcmds]
      simp only [Option.some.injEq, forall_eq']
  · rw [if_neg hfound]
    refine iff_of_true (.refused rfl rfl) fun hwords hall => absurd ⟨hwords, hall⟩ hfound

theorem PathTo.bts_notMem {net : CtrlNet} {path : List Word} (h : PathTo net path node) : octets "bts" ∉ path := by
  induction h with
  | root => exact List.not_mem_nil
  | net => decide
  | bts _ hn _ ih =>
    intro hmem
    rcases List.mem_append.mp hmem with hmem | hmem
    · exact ih hmem
    · exact hn.1 (List.append_cancel_left ((List.append_nil _).trans (List.mem_singleton.mp hmem))).symm
  | trx _ _ _ ih =>
    intro hmem
    rcases List.mem_append.mp hmem with hmem | hmem
    · exact ih hmem
    · exact absurd (congrArg wordKind (List.mem_singleton.mp hmem)) (by rw [wordKind_trx]; decide)
  | ts _ _ ih =>
    intro hmem
    rcases List.mem_append.mp hmem with hmem | hmem
    · exact ih hmem
    · exact absurd (congrArg wordKind (List.mem_singleton.mp hmem)) (by rw [wordKind_ts]; decide)

/-- A network with one BTS and one transceiver. -/
def oneBts : CtrlNet where
  btsList := [Libcommon.gsmBtsAlloc]
  numbered := by
    intro i bts h
    cases i with
    | zero => exact Option.some.inj h ▸ rfl
    | succ i => cases h
  consistent := by
    intro bts h
    rw [List.mem_singleton.mp h]
    exact Libcommon.Configured.alloc.consistent

/-- The command `rf_locked` of transceivers. -/
def rfLocked : CtrlNodeType → Option (CmdVector CtrlFunctions)
  | .trx => some (ctrlCmdInstall [] ⟨octets "rf_locked", [], { get := some fun _ _ => (.reply, octets "0") }⟩)
  | _ => none

/-- A name without the numbers is taken for BTS 0 and transceiver 0. -/
theorem not_nodeResolved_numbers :
    ¬ NodeResolved oneBts rfLocked
      (nameWords (fun s => some (createCmdStruct s none [])) (some (octets "net.bts.trx.rf_locked")))
      (ctrlCmdHandle (fun s => some (createCmdStruct s none [])) oneBts rfLocked
        { type := .get, id := some (octets "1"), var := some (octets "net.bts.trx.rf_locked") }) := by
  have hhandled : ∃ el ret cmd, ctrlCmdHandle (fun s => some (createCmdStruct s none [])) oneBts rfLocked
      { type := .get, id := some (octets "1"), var := some (octets "net.bts.trx.rf_locked") } =
        .done (some ⟨.trx 0 0, el, [octets "rf_locked"]⟩) ret cmd := ⟨_, _, _, rfl⟩
  obtain ⟨el, ret, cmd, heq⟩ := hhandled
  have hwords : nameWords (fun s => some (createCmdStruct s none [])) (some (octets "net.bts.trx.rf_locked")) =
      [octets "net", octets "bts", octets "trx"] ++ [octets "rf_locked"] := by decide
  rw [heq, hwords]
  intro h
  cases h with
  | @executed _ _ _ path _ hvline hpath _ _ _ =>
    have hthis : [octets "net", octets "bts", octets "trx"] = path := List.append_cancel_right hvline
    exact hpath.bts_notMem (hthis ▸ by decide)

end OpenBsc.Libctrl
