import OpenBsc.Lib.Bitmask
import OpenBsc.Lib.Octets
import OpenBsc.Lib.Pool
import OpenBsc.Lib.Transition

/-!
# `Libmsc.Transaction` — the transactions of the network (`transaction.c`)

A transaction belongs to a subscriber, lives within a protocol and has an identifier, which the phone or the network
chooses. The network searches an unused one in a bitmask it fills from the list of all transactions.

No two transactions of a subscriber and a protocol have the same identifier, in whatever order they are made and freed
(`transactionIds_unique`).
-/

namespace OpenBsc.Libmsc

open Transition Pool.Pairwise Pool List

/-! ## Transactions -/

/-- The protocols that have transactions: `GSM48_PDISC_CC` and `GSM48_PDISC_SMS`. -/
inductive TransProto where
  | cc | sms
  deriving DecidableEq

/-- `struct gsm_trans`; `body` is the part of the protocol. The paging request of a transaction is its own, so it is
    known by whose it is. -/
structure GsmTrans (β : Type*) where
  protocol : TransProto
  transactionId : Nat
  subscr : Nat
  conn : Option Nat := none
  callref : BitVec 32
  pagingRequest : Bool := false
  body : β

/-- The identifier of a transaction that has none yet. -/
def unassignedId : Nat := 0xff

variable {β : Type*}

/-- The transaction is one of this subscriber and protocol. -/
def GsmTrans.isOf (t : GsmTrans β) (subscr : Nat) (proto : TransProto) : Bool :=
  t.subscr == subscr && t.protocol == proto

/-- `trans_find_by_id`. -/
def transFindById (l : Pool (GsmTrans β)) (subscr : Nat) (proto : TransProto) (transId : Nat) :
    Option (Nat × GsmTrans β) :=
  l.find? fun t => t.isOf subscr proto && t.transactionId == transId

/-- `trans_find_by_callref`. -/
def transFindByCallref (l : Pool (GsmTrans β)) (callref : BitVec 32) : Option (Nat × GsmTrans β) :=
  l.find? fun t => t.callref == callref

/-! ## Identifiers -/

/-- The bitmask of already-used identifiers for this (subscr, proto). -/
def usedTidBitmask (l : Pool (GsmTrans β)) (subscr : Nat) (proto : TransProto) : Nat :=
  l.entries.foldl (fun mask e =>
    if !e.2.isOf subscr proto || e.2.transactionId == unassignedId then mask
    else Bitmask.set mask e.2.transactionId) 0

/-- Where the circular search starts: the highest of the identifiers `h`, …, `1` in use, or `0`. -/
def searchStart (mask tiFlag : Nat) : Nat → Nat
  | 0 => 0
  | h + 1 => if mask.testBit ((h + 1) ||| tiFlag) then h + 1 else searchStart mask tiFlag h

/-- `trans_assign_trans_id`. -/
def transAssignTransId (l : Pool (GsmTrans β)) (subscr : Nat) (proto : TransProto) (tiFlag : Octet) : Option Nat :=
  let flag := if tiFlag ≠ 0 then 8 else 0
  let mask := usedTidBitmask l subscr proto
  let h := searchStart mask flag 6
  -- find a new one, trying to go in a 'circular' pattern
  ((List.range 7).map fun i => ((h + i) % 7) ||| flag).find? fun j => !mask.testBit j

/-- The identifier `j` is used by a transaction of this (subscr, proto). -/
def UsedId (l : Pool (GsmTrans β)) (subscr : Nat) (proto : TransProto) (j : Nat) : Prop :=
  ∃ i t, l.get? i = some t ∧ t.isOf subscr proto = true ∧ t.transactionId = j

variable {proto : TransProto} {j : Nat}

theorem testBit_usedTidBitmask {l : Pool (GsmTrans β)} {subscr : Nat} (hj : j ≠ unassignedId) :
    (usedTidBitmask l subscr proto).testBit j = true ↔ UsedId l subscr proto j := by
  have hfold : ∀ (es : List (Nat × GsmTrans β)) (mask : Nat),
      (es.foldl (fun mask e =>
        if !e.2.isOf subscr proto || e.2.transactionId == unassignedId then mask
        else Bitmask.set mask e.2.transactionId) mask).testBit j = true ↔
      mask.testBit j = true ∨ ∃ e ∈ es, e.2.isOf subscr proto = true ∧ e.2.transactionId = j := by
    intro es
    induction es with
    | nil => simp
    | cons e es ih =>
      intro mask
      rw [foldl_cons, ih]
      by_cases hskip : (!e.2.isOf subscr proto || e.2.transactionId == unassignedId) = true
      · have hnot : ¬ (e.2.isOf subscr proto = true ∧ e.2.transactionId = j) := by
          rintro ⟨hof, rfl⟩
          simp [hof, hj] at hskip
        rw [if_pos hskip]
        simp [hnot]
      · rw [if_neg hskip, Bitmask.testBit_set]
        have hof : e.2.isOf subscr proto = true := by
          by_contra hof
          simp [hof] at hskip
        simp [hof, or_assoc]
  unfold usedTidBitmask UsedId
  rw [hfold]
  constructor
  · rintro (h | ⟨e, he, hof, hid⟩)
    · simp at h
    · exact ⟨e.1, e.2, get?_eq_some.mpr he, hof, hid⟩
  · rintro ⟨i, t, hget, hof, hid⟩
    exact .inr ⟨(i, t), get?_eq_some.mp hget, hof, hid⟩

theorem searchStart_le (mask tiFlag n : Nat) : searchStart mask tiFlag n ≤ n := by
  induction n with
  | zero => exact Nat.le_refl 0
  | succ h ih =>
    rw [searchStart]
    split
    · exact Nat.le_refl _
    · exact Nat.le_succ_of_le ih

/-- The circular search meets every identifier. -/
theorem mem_circle {h k flag : Nat} (hh : h ≤ 6) (hk : k < 7) :
    k ||| flag ∈ (List.range 7).map fun i => ((h + i) % 7) ||| flag := by
  refine mem_map.mpr ⟨if h ≤ k then k - h else k + 7 - h, ?_, ?_⟩
  · rw [mem_range]
    split <;> omega
  · have hround : (h + if h ≤ k then k - h else k + 7 - h) % 7 = k := by split <;> omega
    rw [hround]

/-- The seven identifiers with a TI flag. -/
def IdWithFlag (tiFlag : Octet) (j : Nat) : Prop := ∃ k < 7, j = k ||| if tiFlag ≠ 0 then 8 else 0

theorem idWithFlag_mod (tiFlag : Octet) (n : Nat) : IdWithFlag tiFlag ((n % 7) ||| if tiFlag ≠ 0 then 8 else 0) :=
  ⟨n % 7, Nat.mod_lt _ (by omega), rfl⟩

theorem IdWithFlag.lt {tiFlag : Octet} (h : IdWithFlag tiFlag j) : j < 15 := by
  obtain ⟨k, hk, rfl⟩ := h
  have hall : ∀ k < 7, k ||| 8 < 15 ∧ k ||| 0 < 15 := by decide
  split
  · exact (hall k hk).1
  · exact (hall k hk).2

theorem IdWithFlag.ne_unassigned {tiFlag : Octet} (h : IdWithFlag tiFlag j) : j ≠ unassignedId := by
  have hlt := h.lt
  unfold unassignedId
  omega

/-- **What `trans_assign_trans_id` returns.** An identifier with the flag that is unused; it fails exactly when all
    seven are in use. -/
theorem assign_spec (l : Pool (GsmTrans β)) (subscr : Nat) (proto : TransProto) (tiFlag : Octet) :
    (∀ j, transAssignTransId l subscr proto tiFlag = some j → IdWithFlag tiFlag j ∧ ¬ UsedId l subscr proto j) ∧
    (transAssignTransId l subscr proto tiFlag = none ↔ ∀ j, IdWithFlag tiFlag j → UsedId l subscr proto j) := by
  have hstart := searchStart_le (usedTidBitmask l subscr proto) (if tiFlag ≠ 0 then 8 else 0) 6
  constructor
  · intro j hj
    obtain ⟨i, -, rfl⟩ := mem_map.mp (mem_of_find?_eq_some hj)
    have hflag :=
      idWithFlag_mod tiFlag (searchStart (usedTidBitmask l subscr proto) (if tiFlag ≠ 0 then 8 else 0) 6 + i)
    refine ⟨hflag, fun hused => ?_⟩
    have hfree := List.find?_some hj
    rw [(testBit_usedTidBitmask hflag.ne_unassigned).mpr hused] at hfree
    cases hfree
  · unfold transAssignTransId
    rw [List.find?_eq_none]
    constructor
    · rintro hall j hflag
      obtain ⟨k, hk, rfl⟩ := id hflag
      have htaken := hall _ (mem_circle hstart hk)
      rw [Bool.not_eq_true, Bool.not_eq_false'] at htaken
      exact (testBit_usedTidBitmask hflag.ne_unassigned).mp htaken
    · intro hall j hj
      obtain ⟨i, -, rfl⟩ := mem_map.mp hj
      have hflag :=
        idWithFlag_mod tiFlag (searchStart (usedTidBitmask l subscr proto) (if tiFlag ≠ 0 then 8 else 0) 6 + i)
      rw [(testBit_usedTidBitmask hflag.ne_unassigned).mpr (hall _ hflag)]
      decide

/-! ## Who makes transactions -/

/-- The list of transactions, with the counters for call references of the two protocols. -/
structure TransList (β : Type*) where
  transList : Pool (GsmTrans β) := .empty
  newCcCallref : BitVec 32 := 0x80000001
  newSmsCallref : BitVec 32 := 0x40000001

/-- What is done to the list: a CC or SMS message of a phone, a SETUP request for a subscriber, the SETUP for it, an SMS
    to be sent, any other change of a transaction, and its end. -/
inductive TransEvent (β : Type*) where
  | rcvCc (conn subscr : Nat) (protoDiscr msgType : Octet)
  | rcvSms (conn subscr : Nat) (protoDiscr : Octet)
  | mnccSetupReq (subscr : Nat) (conn : Option Nat) (callref : BitVec 32)
  | ccTxSetup (i : Nat)
  | sendSms (conn subscr : Nat)
  | change (i : Nat) (conn : Option Nat) (callref : BitVec 32) (pagingRequest : Bool) (body : β)
  | free (i : Nat)

/-- The identifier in an uplink CC message, with the flag flipped. -/
def ccTransId (protoDiscr : Octet) : Nat := (((protoDiscr &&& 0xf0) ^^^ 0x80) >>> 4).toNat

/-- The identifier in an uplink SMS message, with the flag flipped. -/
def smsTransId (protoDiscr : Octet) : Nat := ((protoDiscr >>> 4) ^^^ 0x8).toNat

namespace TransList

/-- `gsm0408_rcv_cc` finds or makes the transaction; `zero` is what a protocol keeps of a new one. -/
def rcvCc (zero : β) (s : TransList β) (conn subscr : Nat) (protoDiscr msgType : Octet) : TransList β :=
  -- a message not defined for the protocol; 0xbf hides the send sequence number
  if msgType &&& 0xbf &&& 0x80 ≠ 0 then s
  else
    match transFindById s.transList subscr .cc (ccTransId protoDiscr) with
    | some _ => s
    | none =>
      { s with
        transList := s.transList.alloc
          ⟨.cc, ccTransId protoDiscr, subscr, some conn, s.newCcCallref, false, zero⟩
        newCcCallref := s.newCcCallref + 1 }

/-- `gsm0411_rcv_sms` finds or makes the transaction. -/
def rcvSms (zero : β) (s : TransList β) (conn subscr : Nat) (protoDiscr : Octet) : TransList β :=
  match transFindById s.transList subscr .sms (smsTransId protoDiscr) with
  | some _ => s
  | none =>
    { s with
      transList := s.transList.alloc
        ⟨.sms, smsTransId protoDiscr, subscr, some conn, s.newSmsCallref, false, zero⟩
      newSmsCallref := s.newSmsCallref + 1 }

/-- `mncc_tx_to_cc` makes the transaction of a SETUP request; it asks for paging where there is no connection. -/
def mnccSetupReq (zero : β) (s : TransList β) (subscr : Nat) (conn : Option Nat) (callref : BitVec 32) : TransList β :=
  { s with
    transList := s.transList.alloc ⟨.cc, unassignedId, subscr, conn, callref, conn.isNone, zero⟩ }

/-- `trans_free`. -/
def free (s : TransList β) (i : Nat) : TransList β := { s with transList := s.transList.remove i }

/-- `gsm48_cc_tx_setup` assigns the identifier; a transaction that has one, or that gets none, is freed. -/
def ccTxSetup (s : TransList β) (i : Nat) : TransList β :=
  match s.transList.get? i with
  | none => s
  | some t =>
    if t.transactionId ≠ unassignedId then s.free i
    else
      match transAssignTransId s.transList t.subscr .cc 0 with
      | none => s.free i
      | some j => { s with transList := s.transList.modify i fun t => { t with transactionId := j } }

/-- `gsm411_send_sms` assigns the identifier, and makes the transaction if there is one. -/
def sendSms (zero : β) (s : TransList β) (conn subscr : Nat) : TransList β :=
  match transAssignTransId s.transList subscr .sms 0 with
  | none => s
  | some j =>
    { s with
      transList := s.transList.alloc ⟨.sms, j, subscr, some conn, s.newSmsCallref, false, zero⟩
      newSmsCallref := s.newSmsCallref + 1 }

/-- The fields of a transaction that have nothing to do with its identifier change. -/
def change (s : TransList β) (i : Nat) (conn : Option Nat) (callref : BitVec 32) (pagingRequest : Bool) (body : β) :
    TransList β :=
  { s with
    transList := s.transList.modify i fun t =>
      { t with conn := conn, callref := callref, pagingRequest := pagingRequest, body := body } }

/-- One event. -/
def step (zero : β) (s : TransList β) : TransEvent β → TransList β
  | .rcvCc conn subscr protoDiscr msgType => s.rcvCc zero conn subscr protoDiscr msgType
  | .rcvSms conn subscr protoDiscr => s.rcvSms zero conn subscr protoDiscr
  | .mnccSetupReq subscr conn callref => s.mnccSetupReq zero subscr conn callref
  | .ccTxSetup i => s.ccTxSetup i
  | .sendSms conn subscr => s.sendSms zero conn subscr
  | .change i conn callref pagingRequest body => s.change i conn callref pagingRequest body
  | .free i => s.free i

end TransList

/-- The transactions of the network, from the empty list. -/
def transSystem (zero : β) : System (TransList β) (TransEvent β) where
  init s := s = {}
  step s ev s' := s' = s.step zero ev

/-! ## Uniqueness -/

/-- Two transactions of a subscriber and a protocol have different identifiers, if they have any. -/
def IdsApart (a b : GsmTrans β) : Prop :=
  a.subscr = b.subscr → a.protocol = b.protocol → a.transactionId = b.transactionId → a.transactionId = unassignedId

/-- **No two transactions of the same subscriber and protocol share an assigned identifier.** -/
def UniqueIds (l : Pool (GsmTrans β)) : Prop := l.Pairwise IdsApart

variable {l : Pool (GsmTrans β)} {s : TransList β} {zero : β}

theorem IdsApart.symm {a b : GsmTrans β} (h : IdsApart a b) : IdsApart b a := by
  intro hsubscr hproto hid
  rw [hid]
  exact h hsubscr.symm hproto.symm hid.symm

theorem idsApart_of_unused {t b : GsmTrans β} {i : Nat} (hb : l.get? i = some b)
    (hunused : t.transactionId = unassignedId ∨ ¬ UsedId l t.subscr t.protocol t.transactionId) : IdsApart t b := by
  intro hsubscr hproto hid
  refine hunused.resolve_right fun hnot => hnot ⟨i, b, hb, ?_, hid.symm⟩
  unfold GsmTrans.isOf
  rw [hsubscr, hproto, beq_self_eq_true, beq_self_eq_true]
  rfl

theorem UniqueIds.alloc (h : UniqueIds l) {t : GsmTrans β}
    (hunused : t.transactionId = unassignedId ∨ ¬ UsedId l t.subscr t.protocol t.transactionId) :
    UniqueIds (l.alloc t) :=
  Pool.Pairwise.alloc h (fun _ _ => IdsApart.symm) fun _ _ hb => idsApart_of_unused hb hunused

theorem unused_of_not_found {subscr : Nat} (h : transFindById l subscr proto j = none) :
    ¬ UsedId l subscr proto j := by
  rintro ⟨i, t, hget, hof, hid⟩
  have hnone := find?_eq_none.mp h i t hget
  rw [hof, hid, beq_self_eq_true] at hnone
  cases hnone

theorem UniqueIds.change (h : UniqueIds l) {i : Nat} {f : GsmTrans β → GsmTrans β}
    (hf : ∀ t, (f t).subscr = t.subscr ∧ (f t).protocol = t.protocol ∧ (f t).transactionId = t.transactionId) :
    UniqueIds (l.modify i f) := by
  refine modify h (fun _ _ => IdsApart.symm) fun t ht j b hb hji => ?_
  obtain ⟨hsubscr, hproto, hid⟩ := hf t
  have hapart := h i t j b ht hb (Ne.symm hji)
  unfold IdsApart
  rwa [hsubscr, hproto, hid]

/-- Every identifier fits into four bits; only a CC transaction may have none yet. -/
def ValidIds (l : Pool (GsmTrans β)) : Prop :=
  ∀ i t, l.get? i = some t → t.transactionId < 16 ∨ t.protocol = .cc ∧ t.transactionId = unassignedId

theorem UniqueIds.ccTxSetup (h : UniqueIds s.transList) (hvalid : ValidIds s.transList) (i : Nat) :
    UniqueIds (s.ccTxSetup i).transList := by
  unfold TransList.ccTxSetup
  cases hget : s.transList.get? i with
  | none => exact h
  | some t =>
    simp only
    split
    · exact remove h i
    · rename_i hnone
      have hcc : t.protocol = .cc := by
        obtain hlt | hcc := hvalid i t hget
        · unfold unassignedId at hnone
          omega
        · exact hcc.1
      cases hassign : transAssignTransId s.transList t.subscr .cc 0 with
      | none => exact remove h i
      | some j =>
        have hunused := ((assign_spec s.transList t.subscr .cc 0).1 j hassign).2
        refine modify h (fun _ _ => IdsApart.symm) fun t' ht' k b hb hki => ?_
        cases hget.symm.trans ht'
        refine idsApart_of_unused (t := { t with transactionId := j }) hb (.inr ?_)
        show ¬ UsedId s.transList t.subscr t.protocol j
        rw [hcc]
        exact hunused

/-- **Every event keeps the identifiers apart.** -/
theorem UniqueIds.step (h : UniqueIds s.transList) (hvalid : ValidIds s.transList) (ev : TransEvent β) :
    UniqueIds (s.step zero ev).transList := by
  cases ev with
  | rcvCc conn subscr protoDiscr msgType =>
    unfold TransList.step TransList.rcvCc
    simp only
    split
    · exact h
    · cases hfind : transFindById s.transList subscr .cc (ccTransId protoDiscr) with
      | some found => exact h
      | none => exact h.alloc (.inr (unused_of_not_found hfind))
  | rcvSms conn subscr protoDiscr =>
    unfold TransList.step TransList.rcvSms
    simp only
    cases hfind : transFindById s.transList subscr .sms (smsTransId protoDiscr) with
    | some found => exact h
    | none => exact h.alloc (.inr (unused_of_not_found hfind))
  | mnccSetupReq subscr conn callref => exact h.alloc (.inl rfl)
  | ccTxSetup i => exact h.ccTxSetup hvalid i
  | sendSms conn subscr =>
    unfold TransList.step TransList.sendSms
    simp only
    cases hassign : transAssignTransId s.transList subscr .sms 0 with
    | none => exact h
    | some j => exact h.alloc (.inr ((assign_spec s.transList subscr .sms 0).1 j hassign).2)
  | change i conn callref pagingRequest body => exact UniqueIds.change h fun t => ⟨rfl, rfl, rfl⟩
  | free i => exact remove h i

theorem shiftRight_lt (x : Octet) : (x >>> 4).toNat < 16 := by
  have hlt := x.toNat_lt
  rw [UInt8.toNat_shiftRight, Nat.shiftRight_eq_div_pow]
  show x.toNat / 2 ^ 4 < 16
  omega

theorem ccTransId_lt (protoDiscr : Octet) : ccTransId protoDiscr < 16 := shiftRight_lt _

theorem smsTransId_lt (protoDiscr : Octet) : smsTransId protoDiscr < 16 := by
  unfold smsTransId
  rw [UInt8.toNat_xor]
  have hflag : (0x8 : Octet).toNat < 2 ^ 4 := by decide
  exact Nat.xor_lt_two_pow (shiftRight_lt protoDiscr) hflag

theorem ValidIds.alloc (h : ValidIds l) {t : GsmTrans β}
    (ht : t.transactionId < 16 ∨ t.protocol = .cc ∧ t.transactionId = unassignedId) : ValidIds (l.alloc t) := by
  intro i t' hi
  rw [get?_alloc] at hi
  split at hi
  · cases hi
    exact ht
  · exact h i t' hi

theorem ValidIds.modify (h : ValidIds l) {i : Nat} {f : GsmTrans β → GsmTrans β}
    (hf : ∀ t, (f t).protocol = t.protocol ∧ ((f t).transactionId = t.transactionId ∨ (f t).transactionId < 16)) :
    ValidIds (l.modify i f) := by
  intro j t' hj
  rw [get?_modify] at hj
  split at hj
  · obtain ⟨t, ht, rfl⟩ := Option.map_eq_some_iff.mp hj
    obtain ⟨hproto, hid | hid⟩ := hf t
    · rw [hproto, hid]
      exact h j t ht
    · exact .inl hid
  · exact h j t' hj

theorem ValidIds.remove (h : ValidIds l) (i : Nat) : ValidIds (l.remove i) := by
  intro j t hj
  rw [get?_remove] at hj
  split at hj
  · cases hj
  · exact h j t hj

theorem assigned_lt {subscr : Nat} (h : transAssignTransId l subscr proto 0 = some j) : j < 16 :=
  Nat.lt_succ_of_lt ((assign_spec l subscr proto 0).1 j h).1.lt

theorem ValidIds.ccTxSetup (h : ValidIds s.transList) (i : Nat) : ValidIds (s.ccTxSetup i).transList := by
  unfold TransList.ccTxSetup
  cases hget : s.transList.get? i with
  | none => exact h
  | some t =>
    simp only
    split
    · exact h.remove i
    · cases hassign : transAssignTransId s.transList t.subscr .cc 0 with
      | none => exact h.remove i
      | some j => exact h.modify fun t => ⟨rfl, .inr (assigned_lt hassign)⟩

theorem ValidIds.step (h : ValidIds s.transList) (ev : TransEvent β) : ValidIds (s.step zero ev).transList := by
  cases ev with
  | rcvCc conn subscr protoDiscr msgType =>
    unfold TransList.step TransList.rcvCc
    simp only
    split
    · exact h
    · split
      · exact h
      · exact h.alloc (.inl (ccTransId_lt protoDiscr))
  | rcvSms conn subscr protoDiscr =>
    unfold TransList.step TransList.rcvSms
    simp only
    split
    · exact h
    · exact h.alloc (.inl (smsTransId_lt protoDiscr))
  | mnccSetupReq subscr conn callref => exact h.alloc (.inr ⟨rfl, rfl⟩)
  | ccTxSetup i => exact h.ccTxSetup i
  | sendSms conn subscr =>
    unfold TransList.step TransList.sendSms
    simp only
    cases hassign : transAssignTransId s.transList subscr .sms 0 with
    | none => exact h
    | some j => exact h.alloc (.inl (assigned_lt hassign))
  | change i conn callref pagingRequest body => exact h.modify fun t => ⟨rfl, .inl rfl⟩
  | free i => exact h.remove i

theorem ids_reachable (h : Reachable (transSystem zero) s) : UniqueIds s.transList ∧ ValidIds s.transList := by
  refine h.invariant (I := fun s => UniqueIds s.transList ∧ ValidIds s.transList) ?_ ?_
  · rintro s rfl
    exact ⟨pairwise_empty, fun i t h => nomatch h⟩
  · rintro s ev s' ⟨hunique, hvalid⟩ - rfl
    exact ⟨hunique.step hvalid ev, hvalid.step ev⟩

/-- **Transaction identifiers.** In every reachable state they are unique for each subscriber and protocol, and
    `trans_assign_trans_id` returns an unused one with the flag asked for, or fails because all seven are in use. -/
theorem transactionIds_unique (zero : β) (s : TransList β) (h : Reachable (transSystem zero) s) :
    UniqueIds s.transList ∧
    ∀ subscr proto tiFlag,
      (∀ j, transAssignTransId s.transList subscr proto tiFlag = some j →
        IdWithFlag tiFlag j ∧ ¬ UsedId s.transList subscr proto j) ∧
      (transAssignTransId s.transList subscr proto tiFlag = none ↔
        ∀ j, IdWithFlag tiFlag j → UsedId s.transList subscr proto j) :=
  ⟨(ids_reachable h).1, assign_spec s.transList⟩

/-- A phone sets up a call, and the network sets one up for the same subscriber. -/
def twoCalls : List (TransEvent Unit) := [.rcvCc 0 7 0x03 0x05, .mnccSetupReq 7 (some 0) 1, .ccTxSetup 1]

theorem transactionIds_unique_twoCalls :
    UniqueIds (twoCalls.foldl (TransList.step ()) {}).transList :=
  (transactionIds_unique () _
    (ReachableBy.foldl (f := TransList.step ()) (fun _ _ => rfl) twoCalls (.init rfl))).1

end OpenBsc.Libmsc
