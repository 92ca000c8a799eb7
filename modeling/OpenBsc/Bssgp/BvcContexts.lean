import OpenBsc.Bssgp.Receive
import OpenBsc.Lib.Transition

/-!
# `Bssgp.BvcContexts` — which contexts there are, and which PDUs leave them alone

Over any sequence of PDUs there is one context at most for a BVCI and an NSEI. `RightlyHandled` says of one PDU that
the handlers find the contexts they use, that a PDU that is rejected leaves every context as it was, that a context is
made for a reset that is acknowledged, and that user data is handed up from a BVC that is known and not blocked.

Three resets are not handled so, and `KeepsTable` names them: one on the BVCI of a cell without a context, where the
context that is not there is used; one without a cell identity, which is refused after the context was made or
unblocked; and one that finds no memory for its context.
-/

namespace OpenBsc.Bssgp

open Sgsn (GprsRaId)
open Transition List Option

variable {μ : Type} {gsm48ParseRa : List Octet → GprsRaId} {ctxts : BvcCtxts μ} {rx : BssgpRx} {out : Handled μ}

/-! ## Words -/

/-- What a context is known by. -/
def BvcCtx.key (ctx : BvcCtx μ) : BitVec 16 × BitVec 16 := (ctx.bvci, ctx.nsei)

/-- The blocked flag is not set. -/
def BvcCtx.Unblocked (ctx : BvcCtx μ) : Prop := ctx.state &&& bvcSBlocked = 0

instance (ctx : BvcCtx μ) : Decidable ctx.Unblocked := inferInstanceAs (Decidable (_ = _))

def BssgpOut.isStatus : BssgpOut → Bool
  | .status _ _ => true
  | _ => false

def BssgpOut.isUserData : BssgpOut → Bool
  | .llcRcvmsg _ _ _ => true
  | _ => false

/-- The BVC whose reset is acknowledged. -/
def BssgpOut.resetAck : BssgpOut → Option (BitVec 16)
  | .simpleBvci .bvcResetAck bvci _ => some bvci
  | _ => none

/-- A STATUS is sent, or `-EINVAL` returned. -/
def Handled.Rejected (out : Handled μ) : Prop := (∃ msg ∈ out.outs, msg.isStatus = true) ∨ out.rc = .einval

/-- The handlers find the contexts they use, and what they do is right. -/
structure RightlyHandled (gsm48ParseRa : List Octet → GprsRaId) (ctxts : BvcCtxts μ) (rx : BssgpRx)
    (out : Handled μ) : Prop where
  handled : gprsBssgpRcvmsg gsm48ParseRa ctxts rx = some out
  rejected : out.Rejected → out.ctxts = ctxts
  created : ∀ i ctx, out.ctxts.get? i = some ctx → ctxts.get? i = none →
    ctx.nsei = rx.nsei ∧ ∃ msg ∈ out.outs, msg.resetAck = some ctx.bvci
  userData : ∀ msg ∈ out.outs, msg.isUserData = true →
    ∃ i ctx, btsctxByBvciNsei ctxts rx.nsBvci rx.nsei = some (i, ctx) ∧ ctx.Unblocked

/-- The reset says which cell it is about, if it has to. -/
def NamesCell (rx : BssgpRx) (bvci : BitVec 16) : Prop := bvci = 0 ∨ bvci = 1 ∨ (rx.tp .cellId).isSome = true

instance (bvci : BitVec 16) : Decidable (NamesCell rx bvci) := inferInstanceAs (Decidable (_ ∨ _))

/-- A reset of a BVC changes nothing, or is acknowledged. -/
def ResetKept (ctxts : BvcCtxts μ) (rx : BssgpRx) (bvci : BitVec 16) : Prop :=
  (∃ found ∈ btsctxByBvciNsei ctxts bvci rx.nsei, NamesCell rx bvci ∨ found.2.Unblocked) ∨
    (btsctxByBvciNsei ctxts bvci rx.nsei).isNone = true ∧ rx.alloc = true ∧ NamesCell rx bvci

instance (bvci : BitVec 16) : Decidable (ResetKept ctxts rx bvci) := inferInstanceAs (Decidable (_ ∨ _))

/-- The condition: a reset on the BVCI of a cell finds a context, and one on the signalling BVCI is acknowledged
    unless it has nothing to change. -/
def KeepsTable (ctxts : BvcCtxts μ) (rx : BssgpRx) : Prop :=
  rx.pduType = .bvcReset →
    (rx.nsBvci = bvciSignalling → (rx.tp .cause).isSome = true →
      ∀ val ∈ rx.tp .bvci, ResetKept ctxts rx (ntohsAt val 0)) ∧
    (rx.nsBvci ≠ bvciSignalling → rx.nsBvci ≠ bvciPtm →
      (btsctxByBvciNsei ctxts rx.nsBvci rx.nsei).isSome = true)

instance : Decidable (KeepsTable ctxts rx) := inferInstanceAs (Decidable (_ → _))

/-! ## Look-up -/

variable {bvci : BitVec 16} {i : Nat} {ctx : BvcCtx μ}

theorem of_btsctx {nsei : BitVec 16} (h : btsctxByBvciNsei ctxts bvci nsei = some (i, ctx)) :
    ctxts.get? i = some ctx ∧ ctx.key = (bvci, nsei) := by
  obtain ⟨hi, hkey⟩ := Pool.of_findLast? h
  rw [Bool.and_eq_true, decide_eq_true_eq, decide_eq_true_eq] at hkey
  exact ⟨hi, Prod.ext hkey.2 hkey.1⟩

theorem btsctx_eq_none {nsei : BitVec 16} :
    btsctxByBvciNsei ctxts bvci nsei = none ↔ ∀ i ctx, ctxts.get? i = some ctx → ctx.key ≠ (bvci, nsei) := by
  refine Pool.findLast?_eq_none.trans (forall_congr' fun i => forall_congr' fun ctx => imp_congr_right fun _ => ?_)
  rw [Bool.and_eq_false_iff, decide_eq_false_iff_not, decide_eq_false_iff_not, BvcCtx.key, Ne, Prod.mk.injEq]
  tauto

theorem BvcCtx.unblock_eq_self : ctx.unblock = ctx ↔ ctx.Unblocked := by
  constructor
  · intro h
    have hstate : ctx.state &&& ~~~bvcSBlocked = ctx.state := congrArg BvcCtx.state h
    unfold BvcCtx.Unblocked
    rw [← hstate, BitVec.and_assoc]
    exact BitVec.and_zero
  · intro h
    have hall : ctx.state &&& (bvcSBlocked ||| ~~~bvcSBlocked) = ctx.state := BitVec.and_allOnes
    have hstate : ctx.state &&& ~~~bvcSBlocked = ctx.state := by
      rw [BitVec.and_or_distrib_left] at hall
      rw [show ctx.state &&& bvcSBlocked = 0 from h] at hall
      simpa using hall
    unfold BvcCtx.unblock
    rw [hstate]

/-! ## Handlers -/

/-- What a PDU does that meets the condition. -/
inductive Received (ctxts : BvcCtxts μ) (rx : BssgpRx) : Handled μ → Prop where
  | quiet (rc : BssgpRc) (outs : List BssgpOut) (houts : ∀ msg ∈ outs, msg.isUserData = false) :
      Received ctxts rx { ctxts := ctxts, outs := outs, rc := rc }
  | userData {i : Nat} {ctx : BvcCtx μ} (hfind : btsctxByBvciNsei ctxts rx.nsBvci rx.nsei = some (i, ctx))
      (hctx : ctx.Unblocked) (tlli : BitVec 32) (llch bcid : List Octet) :
      Received ctxts rx (sends ctxts (.llcRcvmsg tlli llch bcid))
  | changed (i : Nat) (f : BvcCtx μ → BvcCtx μ) (hkey : ∀ ctx, (f ctx).key = ctx.key) (msg : BssgpOut)
      (hmsg : msg.isUserData = false ∧ msg.isStatus = false) (rc : BssgpRc) (hrc : rc ≠ .einval) :
      Received ctxts rx { ctxts := ctxts.modify i f, outs := [msg], rc := rc }
  | made (ctx : BvcCtx μ) (hfree : ∀ i old, ctxts.get? i = some old → old.key ≠ ctx.key)
      (hnsei : ctx.nsei = rx.nsei) :
      Received ctxts rx { ctxts := ctxts.alloc ctx, outs := [.simpleBvci .bvcResetAck ctx.bvci rx.nsBvci] }

theorem Received.nothing : Received ctxts rx { ctxts := ctxts } := .quiet _ [] fun _ h => absurd h not_mem_nil

theorem Received.reply (rc : BssgpRc) {msg : BssgpOut} (hmsg : msg.isUserData = false) :
    Received ctxts rx { ctxts := ctxts, outs := [msg], rc := rc } := by
  refine .quiet _ _ fun m hm => ?_
  rw [mem_singleton.mp hm]
  exact hmsg

theorem Received.status (cause : BssgpCause) (bvci : Option (BitVec 16)) :
    Received ctxts rx (bssgpTxStatus ctxts cause bvci) := .reply _ rfl

theorem ulUd_received (hfind : btsctxByBvciNsei ctxts rx.nsBvci rx.nsei = some (i, ctx)) (hctx : ctx.Unblocked) :
    Received ctxts rx (bssgpRxUlUd ctxts rx) := by
  unfold bssgpRxUlUd
  split
  · exact .userData hfind hctx _ _ _
  · exact .status _ _

theorem fcBvc_received (i : Nat) : Received ctxts rx (bssgpRxFcBvc ctxts rx i) := by
  unfold bssgpRxFcBvc
  split
  · exact .changed _ _ (by intro ctx; rfl) _ ⟨rfl, rfl⟩ _ (by decide)
  · exact .status _ _

theorem fcMs_received : Received ctxts rx (bssgpRxFcMs ctxts rx) := by
  unfold bssgpRxFcMs
  split
  · exact .reply _ rfl
  · exact .status _ _

theorem rxPtp_received (hfind : btsctxByBvciNsei ctxts rx.nsBvci rx.nsei = some (i, ctx)) :
    ∃ out, gprsBssgpRxPtp ctxts rx (some i) = some out ∧ Received ctxts rx out := by
  unfold gprsBssgpRxPtp
  rw [bind_some, (of_btsctx hfind).1, map_some]
  refine ⟨_, rfl, ?_⟩
  split_ifs with hblocked
  · exact .status _ _
  · split
    case h_1 htype =>
      have hctx : ctx.Unblocked := by
        by_contra hset
        exact hblocked ⟨hset, by rw [htype]; decide⟩
      exact ulUd_received hfind hctx
    case h_4 => exact fcBvc_received i
    case h_5 => exact fcMs_received
    all_goals first
      | exact .nothing
      | exact .reply _ rfl

theorem suspend_received (hi : ctxts.get? i = some ctx) :
    ∃ out, bssgpRxSuspend gsm48ParseRa ctxts rx (some i) = some out ∧ Received ctxts rx out := by
  unfold bssgpRxSuspend deref
  rw [bind_some, hi, map_some]
  refine ⟨_, rfl, ?_⟩
  split
  · split_ifs
    · exact .reply _ rfl
    · exact .reply _ rfl
  · exact .status _ _

theorem resume_received (hi : ctxts.get? i = some ctx) :
    ∃ out, bssgpRxResume gsm48ParseRa ctxts rx (some i) = some out ∧ Received ctxts rx out := by
  unfold bssgpRxResume deref
  rw [bind_some, hi, map_some]
  refine ⟨_, rfl, ?_⟩
  split
  · split_ifs
    · exact .reply _ rfl
    · exact .reply _ rfl
  · exact .status _ _

/-- A block or an unblock, wherever its context is. -/
theorem bvcChange_received {f : BvcCtx μ → BvcCtx μ} (hkey : ∀ ctx, (f ctx).key = ctx.key) (ack : BssgpPduType)
    (hbvci : (rx.tp .bvci).isSome = true) :
    ∃ out, bssgpRxBvcChange f ack ctxts rx = some out ∧ Received ctxts rx out := by
  obtain ⟨val, hval⟩ := isSome_iff_exists.mp hbvci
  unfold bssgpRxBvcChange
  rw [hval, bind_some]
  dsimp only
  split_ifs
  · exact ⟨_, rfl, .nothing⟩
  · split
    · exact ⟨_, rfl, .status _ _⟩
    · exact ⟨_, rfl, .changed _ _ hkey _ ⟨rfl, rfl⟩ _ (by decide)⟩

/-- A PDU other than a reset on the signalling BVCI, where that has a context. -/
theorem rxSign_received (hi : ctxts.get? i = some ctx) (htype : rx.pduType ≠ .bvcReset) :
    ∃ out, gprsBssgpRxSign gsm48ParseRa ctxts rx (some i) = some out ∧ Received ctxts rx out := by
  have hderef : deref ctxts (some i) = some ctx := hi
  unfold gprsBssgpRxSign
  split
  case h_1 => exact suspend_received hi
  case h_2 => exact resume_received hi
  case h_6 =>
    split_ifs with hie
    · exact bvcChange_received (f := BvcCtx.block) (fun _ => rfl) _ hie.1
    · exact ⟨_, rfl, .status _ _⟩
  case h_7 =>
    split_ifs with hie
    · exact bvcChange_received (f := BvcCtx.unblock) (fun _ => rfl) _ hie
    · exact ⟨_, rfl, .status _ _⟩
  case h_8 hreset => exact absurd hreset htype
  all_goals
    unfold bssgpRxLlcDisc at *
    rw [hderef]
    exact ⟨_, rfl, by first | exact .nothing | exact .reply _ rfl⟩

/-! ## Resets -/

variable {val : List Octet} {found : Nat × BvcCtxts μ}

variable (gsm48ParseRa) in
/-- A reset that names its cell is acknowledged; another one is refused, with the context there and unblocked. -/
theorem bvcReset_eq (hval : rx.tp .bvci = some val) (hfound : btsctxForReset ctxts rx (ntohsAt val 0) = some found) :
    (NamesCell rx (ntohsAt val 0) →
      ∃ f : BvcCtx μ → BvcCtx μ, (∀ ctx, (f ctx).key = ctx.key) ∧ bssgpRxBvcReset gsm48ParseRa ctxts rx =
        some { ctxts := found.2.modify found.1 f, outs := [.simpleBvci .bvcResetAck (ntohsAt val 0) rx.nsBvci] }) ∧
    (¬ NamesCell rx (ntohsAt val 0) → bssgpRxBvcReset gsm48ParseRa ctxts rx =
      some { ctxts := found.2.modify found.1 BvcCtx.unblock, rc := .einval }) := by
  unfold bssgpRxBvcReset
  rw [hval, bind_some]
  dsimp only
  rw [hfound, bind_some]
  by_cases hptp : ntohsAt val 0 ≠ 0 ∧ ntohsAt val 0 ≠ 1
  · rw [if_pos hptp]
    cases hcell : rx.tp .cellId with
    | none =>
      refine ⟨fun hnames => ?_, fun _ => rfl⟩
      rcases hnames with h | h | h
      · exact absurd h hptp.1
      · exact absurd h hptp.2
      · rw [hcell] at h
        cases h
    | some cell =>
      refine ⟨fun _ => ⟨fun ctx => ctx.unblock.parseCellId gsm48ParseRa cell, fun _ => rfl, ?_⟩, fun hnot => ?_⟩
      · dsimp only
        rw [Pool.modify_modify]
      · exact absurd (.inr (.inr (by rw [hcell]; rfl))) hnot
  · rw [if_neg hptp]
    refine ⟨fun _ => ⟨BvcCtx.unblock, fun _ => rfl, rfl⟩, fun hnot => ?_⟩
    rw [not_and_or, not_not, not_not] at hptp
    exact absurd (hptp.imp_right .inl) hnot

theorem btsctxForReset_known (h : btsctxByBvciNsei ctxts bvci rx.nsei = some (i, ctx)) :
    btsctxForReset ctxts rx bvci = some (i, ctxts) := by
  unfold btsctxForReset
  rw [h]

variable (rx) in
theorem btsctxForReset_unknown (h : btsctxByBvciNsei ctxts bvci rx.nsei = none) :
    btsctxForReset ctxts rx bvci =
      if rx.alloc then some (ctxts.next, ctxts.alloc { bvci := bvci, nsei := rx.nsei }) else none := by
  unfold btsctxForReset
  rw [h]
  rfl

theorem bvcReset_received (hval : rx.tp .bvci = some val) (hkept : ResetKept ctxts rx (ntohsAt val 0)) :
    ∃ out, bssgpRxBvcReset gsm48ParseRa ctxts rx = some out ∧ Received ctxts rx out := by
  rcases hkept with ⟨⟨i, ctx⟩, hfind, hcond⟩ | ⟨hnone, halloc, hnames⟩
  · obtain ⟨hack, hrefused⟩ := bvcReset_eq gsm48ParseRa hval (btsctxForReset_known hfind)
    by_cases hnames : NamesCell rx (ntohsAt val 0)
    · obtain ⟨f, hkey, hreset⟩ := hack hnames
      exact ⟨_, hreset, .changed _ f hkey _ ⟨rfl, rfl⟩ _ (by decide)⟩
    · -- there was nothing to unblock
      have hctx : ctx.unblock = ctx := BvcCtx.unblock_eq_self.mpr (hcond.resolve_left hnames)
      have hsame : ctxts.modify i BvcCtx.unblock = ctxts :=
        (Pool.modify_congr (of_btsctx hfind).1 hctx).trans (Pool.modify_id ctxts i)
      refine ⟨_, hrefused hnames, ?_⟩
      rw [hsame]
      exact .quiet _ [] fun _ h => absurd h not_mem_nil
  · rw [isNone_iff_eq_none] at hnone
    have hfound := btsctxForReset_unknown rx hnone
    rw [if_pos halloc] at hfound
    obtain ⟨f, hkey, hreset⟩ := (bvcReset_eq gsm48ParseRa hval hfound).1 hnames
    refine ⟨_, hreset, ?_⟩
    rw [Pool.modify_alloc]
    have hnew := hkey { bvci := ntohsAt val 0, nsei := rx.nsei }
    have hbvci : (f { bvci := ntohsAt val 0, nsei := rx.nsei }).bvci = ntohsAt val 0 := congrArg Prod.fst hnew
    have hmade := @Received.made μ ctxts rx (f { bvci := ntohsAt val 0, nsei := rx.nsei })
      (fun j old hold => by rw [hnew]; exact btsctx_eq_none.mp hnone j old hold) (congrArg Prod.snd hnew)
    rw [hbvci] at hmade
    exact hmade

/-! ## One PDU -/

variable (gsm48ParseRa) in
/-- **What a PDU does that meets the condition.** -/
theorem rcvmsg_received (hkeeps : KeepsTable ctxts rx) :
    ∃ out, gprsBssgpRcvmsg gsm48ParseRa ctxts rx = some out ∧ Received ctxts rx out := by
  unfold gprsBssgpRcvmsg
  dsimp only
  cases hfind : btsctxByBvciNsei ctxts rx.nsBvci rx.nsei with
  | none =>
    rw [map_none]
    split_ifs with hunknown hsign hptm
    · exact ⟨_, rfl, .status _ _⟩
    all_goals have htype : rx.pduType = .bvcReset := by simpa using hunknown
    · -- a reset on a signalling BVCI that has no context yet
      unfold gprsBssgpRxSign
      rw [htype]
      dsimp only
      split_ifs with hie
      · obtain ⟨val, hval⟩ := isSome_iff_exists.mp hie.1
        exact bvcReset_received hval ((hkeeps htype).1 hsign hie.2 val hval)
      · exact ⟨_, rfl, .status _ _⟩
    · exact ⟨_, rfl, .status _ _⟩
    · have hsome := (hkeeps htype).2 hsign hptm
      rw [hfind] at hsome
      cases hsome
  | some found =>
    obtain ⟨i, ctx⟩ := found
    rw [map_some, if_neg (fun h => nomatch h.1)]
    split_ifs with hsign hptm
    · by_cases htype : rx.pduType = .bvcReset
      · unfold gprsBssgpRxSign
        rw [htype]
        dsimp only
        split_ifs with hie
        · obtain ⟨val, hval⟩ := isSome_iff_exists.mp hie.1
          exact bvcReset_received hval ((hkeeps htype).1 hsign hie.2 val hval)
        · exact ⟨_, rfl, .status _ _⟩
      · exact rxSign_received (of_btsctx hfind).1 htype
    · exact ⟨_, rfl, .status _ _⟩
    · exact rxPtp_received hfind

theorem Received.rightly (h : Received ctxts rx out) (hout : gprsBssgpRcvmsg gsm48ParseRa ctxts rx = some out) :
    RightlyHandled gsm48ParseRa ctxts rx out := by
  refine ⟨hout, ?_, ?_, ?_⟩
  · intro hrejected
    cases h with
    | quiet => rfl
    | userData => rfl
    | changed i f hkey msg hmsg rc hrc =>
      rcases hrejected with ⟨m, hm, hstatus⟩ | heinval
      · rw [mem_singleton.mp hm, hmsg.2] at hstatus
        cases hstatus
      · exact absurd heinval hrc
    | made ctx =>
      rcases hrejected with ⟨m, hm, hstatus⟩ | heinval
      · rw [mem_singleton.mp hm] at hstatus
        cases hstatus
      · cases heinval
  · intro j new hnew hold
    cases h with
    | quiet => rw [hold] at hnew; cases hnew
    | userData => rw [show (sends ctxts _).ctxts.get? j = none from hold] at hnew; cases hnew
    | changed i f =>
      dsimp only at hnew
      rw [Pool.get?_modify, hold, map_none, ite_self] at hnew
      cases hnew
    | made ctx hfree hnsei =>
      dsimp only at hnew
      rw [Pool.get?_alloc, hold] at hnew
      split_ifs at hnew
      cases hnew
      exact ⟨hnsei, _, mem_singleton_self _, rfl⟩
  · intro msg hmsg huser
    cases h with
    | quiet rc outs houts =>
      rw [houts msg hmsg] at huser
      cases huser
    | userData hfind hctx => exact ⟨_, _, hfind, hctx⟩
    | changed i f hkey m hm =>
      rw [mem_singleton.mp hmsg, hm.1] at huser
      cases huser
    | made =>
      rw [mem_singleton.mp hmsg] at huser
      cases huser

theorem rcvmsg_reset (htype : rx.pduType = .bvcReset) (hsign : rx.nsBvci = bvciSignalling)
    (hval : rx.tp .bvci = some val) (hcause : (rx.tp .cause).isSome = true) :
    gprsBssgpRcvmsg gsm48ParseRa ctxts rx = bssgpRxBvcReset gsm48ParseRa ctxts rx := by
  unfold gprsBssgpRcvmsg
  dsimp only
  rw [if_neg (fun h => h.2 htype), if_pos hsign]
  unfold gprsBssgpRxSign
  rw [htype]
  dsimp only
  rw [if_pos ⟨by rw [hval]; rfl, hcause⟩]

/-- A reset on the signalling BVCI that is handled rightly meets the condition. -/
theorem RightlyHandled.resetKept (h : RightlyHandled gsm48ParseRa ctxts rx out) (htype : rx.pduType = .bvcReset)
    (hsign : rx.nsBvci = bvciSignalling) (hval : rx.tp .bvci = some val) (hcause : (rx.tp .cause).isSome = true) :
    ResetKept ctxts rx (ntohsAt val 0) := by
  have hreset := (rcvmsg_reset htype hsign hval hcause).symm.trans h.handled
  cases hfind : btsctxByBvciNsei ctxts (ntohsAt val 0) rx.nsei with
  | some found =>
    obtain ⟨i, ctx⟩ := found
    refine .inl ⟨_, hfind, ?_⟩
    by_contra hnot
    rw [not_or] at hnot
    cases ((bvcReset_eq gsm48ParseRa hval (btsctxForReset_known hfind)).2 hnot.1).symm.trans hreset
    have hsame : ctxts.modify i BvcCtx.unblock = ctxts := h.rejected (.inr rfl)
    have hget := Pool.get?_modify_self (f := BvcCtx.unblock) (of_btsctx hfind).1
    rw [hsame, (of_btsctx hfind).1] at hget
    exact hnot.2 (BvcCtx.unblock_eq_self.mp (Option.some.inj hget).symm)
  | none =>
    have hfound := btsctxForReset_unknown rx hfind
    have halloc : rx.alloc = true := by
      by_contra hno
      rw [if_neg hno] at hfound
      unfold bssgpRxBvcReset at hreset
      rw [hval, bind_some] at hreset
      dsimp only at hreset
      rw [hfound] at hreset
      cases hreset
    rw [if_pos halloc] at hfound
    refine .inr ⟨by rw [hfind]; rfl, halloc, ?_⟩
    by_contra hnot
    cases ((bvcReset_eq gsm48ParseRa hval hfound).2 hnot).symm.trans hreset
    have hsame := congrArg Pool.next (h.rejected (.inr rfl))
    exact absurd hsame (Nat.succ_ne_self _)

/-- **A PDU is handled rightly exactly under the condition.** -/
theorem rightlyHandled_iff : (∃ out, RightlyHandled gsm48ParseRa ctxts rx out) ↔ KeepsTable ctxts rx := by
  constructor
  · rintro ⟨out, h⟩ htype
    refine ⟨fun hsign hcause val hval => h.resetKept htype hsign hval hcause, fun hsign hptm => ?_⟩
    by_contra hnone
    rw [not_isSome_iff_eq_none] at hnone
    have hout := h.handled
    unfold gprsBssgpRcvmsg at hout
    dsimp only at hout
    rw [hnone, if_neg (fun h => h.2 htype), if_neg hsign, if_neg hptm] at hout
    cases hout
  · intro hkeeps
    obtain ⟨out, hout, hreceived⟩ := rcvmsg_received gsm48ParseRa hkeeps
    exact ⟨out, hreceived.rightly hout⟩

/-! ## Runs -/

/-- The contexts, and the BVCs whose reset was acknowledged so far. -/
structure Bvcs (μ : Type) where
  ctxts : BvcCtxts μ := .empty
  resets : List (BitVec 16 × BitVec 16) := []

/-- The BVCs whose reset is acknowledged in what is sent to an NSEI. -/
def resetsAcked (nsei : BitVec 16) (outs : List BssgpOut) : List (BitVec 16 × BitVec 16) :=
  (outs.filterMap BssgpOut.resetAck).map fun bvci => (bvci, nsei)

/-- A PDU is received. -/
def bvcsStep (gsm48ParseRa : List Octet → GprsRaId) (s : Bvcs μ) (rx : BssgpRx) : Option (Bvcs μ) :=
  (gprsBssgpRcvmsg gsm48ParseRa s.ctxts rx).map fun out =>
    { ctxts := out.ctxts, resets := s.resets ++ resetsAcked rx.nsei out.outs }

/-- Any sequence of PDUs. -/
def bvcsSystem (μ : Type) (gsm48ParseRa : List Octet → GprsRaId) : System (Bvcs μ) BssgpRx where
  init s := s = {}
  step s rx s' := bvcsStep gsm48ParseRa s rx = some s'

/-- One context for a BVCI and an NSEI, made for a reset that was acknowledged. -/
structure BvcsInv (s : Bvcs μ) : Prop where
  unique : s.ctxts.Pairwise fun a b => a.key ≠ b.key
  created : ∀ i ctx, s.ctxts.get? i = some ctx → ctx.key ∈ s.resets

theorem Received.keepsUnique (h : Received ctxts rx out) (hunique : ctxts.Pairwise fun a b => a.key ≠ b.key) :
    out.ctxts.Pairwise fun a b => a.key ≠ b.key := by
  cases h with
  | quiet | userData => exact hunique
  | changed i f hkey =>
    refine hunique.modify (fun _ _ => Ne.symm) fun ctx hctx j other hother hne => ?_
    rw [hkey]
    exact hunique i ctx j other hctx hother (Ne.symm hne)
  | made ctx hfree => exact hunique.alloc (fun _ _ => Ne.symm) fun j old hold => Ne.symm (hfree j old hold)

/-- A context that was there has kept its key, and a new one is acknowledged. -/
theorem Received.created (h : Received ctxts rx out) (hi : out.ctxts.get? i = some ctx) :
    (∃ old, ctxts.get? i = some old ∧ old.key = ctx.key) ∨ ctx.key ∈ resetsAcked rx.nsei out.outs := by
  cases h with
  | quiet | userData => exact .inl ⟨ctx, hi, rfl⟩
  | changed j f hkey =>
    dsimp only at hi
    rw [Pool.get?_modify] at hi
    split_ifs at hi
    · obtain ⟨old, hold, rfl⟩ := map_eq_some_iff.mp hi
      exact .inl ⟨old, hold, (hkey old).symm⟩
    · exact .inl ⟨ctx, hi, rfl⟩
  | made new hfree hnsei =>
    dsimp only at hi
    rw [Pool.get?_alloc] at hi
    split_ifs at hi
    · obtain rfl := Option.some.inj hi
      refine .inr (mem_map.mpr ⟨new.bvci, mem_singleton_self _, ?_⟩)
      rw [← hnsei]
      rfl
    · exact .inl ⟨ctx, hi, rfl⟩

/-- **The contexts of an SGSN.** Over PDUs that meet the condition there is one context at most for a BVCI and an NSEI,
    made for a reset that was acknowledged, and the next PDU is handled rightly exactly under the condition. -/
theorem bvc_contexts {s : Bvcs μ}
    (h : ReachableBy (bvcsSystem μ gsm48ParseRa) (fun s rx => KeepsTable s.ctxts rx) s) :
    BvcsInv s ∧ ∀ rx, (∃ out, RightlyHandled gsm48ParseRa s.ctxts rx out) ↔ KeepsTable s.ctxts rx := by
  refine ⟨?_, fun rx => rightlyHandled_iff⟩
  refine h.invariant ?_ ?_
  · rintro s rfl
    exact ⟨Pool.pairwise_empty, fun _ _ hi => nomatch hi⟩
  · intro s rx s' hs hkeeps hstep
    obtain ⟨out, hout, rfl⟩ := map_eq_some_iff.mp (show bvcsStep gsm48ParseRa s rx = some s' from hstep)
    obtain ⟨out', hout', hreceived⟩ := rcvmsg_received gsm48ParseRa hkeeps
    rw [hout] at hout'
    cases hout'
    refine ⟨hreceived.keepsUnique hs.unique, fun i ctx hi => mem_append.mpr ?_⟩
    rcases hreceived.created hi with ⟨old, hold, hkey⟩ | hack
    · exact .inl (hkey ▸ hs.created i old hold)
    · exact .inr hack

/-- A PDU with a BVCI and a cause, and a cell identity. -/
def bvcPdu (nsBvci bvci : BitVec 16) (pduType : BssgpPduType) (cell : Option (List Octet)) : BssgpRx where
  nsei := 101
  nsBvci := nsBvci
  pduType := pduType
  tp ie :=
    match ie with
    | .bvci => some [0, UInt8.ofNat bvci.toNat]
    | .cause => some [0]
    | .cellId => cell
    | _ => none

/-- `gsm48_parse_ra`: three digits, two or three, and two numbers. -/
def plainParseRa (buf : List Octet) : GprsRaId :=
  let b := fun n => (buf.getD n 0).toNat
  { mcc := b 0 % 16 * 100 + b 0 / 16 * 10 + b 1 % 16
    mnc := if b 1 / 16 = 15 then b 2 % 16 * 10 + b 2 / 16 else b 2 % 16 * 100 + b 2 / 16 * 10 + b 1 / 16
    lac := b 3 * 256 + b 4
    rac := b 5 }

/-- The signalling BVC and a cell are reset, and the cell is blocked. -/
theorem bvc_contexts_blocked :
    ∃ s : Bvcs Unit, s.resets = [(0, 101), (5, 101)] ∧
      (∃ ctx ∈ s.ctxts.get? 1, ¬ ctx.Unblocked ∧ ctx.raId = ⟨1, 1, 1, 0⟩ ∧ ctx.cellId = 7) ∧ BvcsInv s := by
  obtain ⟨s, hs, hresets, hblocked⟩ :
      ∃ s ∈ guardedRun (@bvcsStep Unit plainParseRa) (fun s rx => KeepsTable s.ctxts rx) {}
        [bvcPdu 0 0 .bvcReset none, bvcPdu 0 5 .bvcReset (some [0, 241, 16, 0, 1, 0, 0, 7]), bvcPdu 0 5 .bvcBlock none],
        s.resets = [(0, 101), (5, 101)] ∧
          ∃ ctx ∈ s.ctxts.get? 1, ¬ ctx.Unblocked ∧ ctx.raId = ⟨1, 1, 1, 0⟩ ∧ ctx.cellId = 7 := by
    decide +kernel
  exact ⟨s, hresets, hblocked,
    (bvc_contexts (ReachableBy.guardedRun (M := bvcsSystem Unit _) (fun _ _ _ h => h) (.init rfl) hs)).1⟩

/-- The first PDU of a BSS is a reset on the BVCI of a cell: a context is used that is not there. -/
theorem bvc_reset_without_context :
    ¬ ∀ s, Reachable (bvcsSystem Unit plainParseRa) s → ∀ rx, ∃ out, RightlyHandled plainParseRa s.ctxts rx out := by
  intro hall
  obtain ⟨out, hout⟩ := hall {} (.init rfl) (bvcPdu 5 5 .bvcReset (some [0, 241, 16, 0, 1, 0, 0, 7]))
  have hnone : (@gprsBssgpRcvmsg Unit plainParseRa .empty
      (bvcPdu 5 5 .bvcReset (some [0, 241, 16, 0, 1, 0, 0, 7]))).isNone = true := by decide +kernel
  exact nomatch (isNone_iff_eq_none.mp hnone).symm.trans hout.handled

end OpenBsc.Bssgp
