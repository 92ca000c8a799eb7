import OpenBsc.Llc.Overflow

/-!
# `Llc.Window` — the receive window for UI frames over a lossy channel

One LLE sends UI frames to another over a channel that keeps their order, loses fewer than 256 in a row, and may
repeat the last one that was accepted (`uiLossy`). The receiver compares the 9-bit number of a frame with the one it
expects as plain numbers.

A frame numbered 511 is where the two differ from what is meant: when it is lost, the number expected stays at 511 or
below and the frames after the wrap are dropped; when it was accepted, the number expected is 0 and the frame is
accepted again. Everything else is right (`UiKeepsWindow`, `window_iff`).
-/

namespace OpenBsc.Llc

open Transition

/-! ## One frame -/

/-- What comes of a UI frame that is accepted: its payload goes up, if the SGSN has a layer for the SAPI. -/
def uiPassed (sapi : Fin 16) (msg : List Octet) : LlcOutcome :=
  if servedSapi sapi then .processed none (some msg) else .error (-einval)

/-- The LLE after it accepted the number `nu`. -/
def GprsLlcLle.takeUi (lle : GprsLlcLle) (nu : Fin 512) : GprsLlcLle :=
  { lle with
    vuRecv := ⟨(nu.val + 1) % 512, Nat.mod_lt _ (by decide)⟩
    ocUiRecv := if (nu.val + 1) / 512 ≠ 0 then (lle.ocUiRecv + 512) % 2 ^ 32 else lle.ocUiRecv }

/-- A frame in the clear is accepted exactly when its number is not below the one that is expected. -/
theorem rcvmsg_uiFrame (cipher : GprsCipher) {lle peer : GprsLlcLle} (command : Bool) (msg : LlcSdu)
    (hres : reservedSapi lle.sapi = false) (halgo : peer.algo = .gea0) :
    gprsLlcRcvmsg cipher peer (uiHeader lle.sapi command lle.vuSend ++ uiInfo lle command msg) =
      if lle.vuSend.val < peer.vuRecv.val then (peer, .error (-eio))
      else (peer.takeUi lle.vuSend, uiPassed lle.sapi msg.octets) := by
  have hroom := msg.room
  have hlen := length_uiInfo lle command msg
  have hparse := parse_uiFrame lle.sapi command lle.vuSend (uiInfo lle command msg) (by omega) (by omega)
  rw [hres, if_neg Bool.false_ne_true] at hparse
  obtain ⟨hpayload, hfcs⟩ := clear_payload lle command msg
  have hclear : llcDecipher cipher peer (uiParsed lle.sapi command lle.vuSend (uiInfo lle command msg))
      (uiHeader lle.sapi command lle.vuSend ++ uiInfo lle command msg) =
        .ok (uiHeader lle.sapi command lle.vuSend ++ uiInfo lle command msg) := by
    simp [llcDecipher, uiParsed, halgo]
  unfold gprsLlcRcvmsg
  simp only [hparse, hclear]
  have hcorrect : (uiParsed lle.sapi command lle.vuSend (uiInfo lle command msg)).fcs =
      gprsLlcFcs ((uiHeader lle.sapi command lle.vuSend ++ uiInfo lle command msg).take
        (uiParsed lle.sapi command lle.vuSend (uiInfo lle command msg)).crcLength) := hfcs
  rw [if_neg (not_not_intro hcorrect)]
  by_cases hbelow : lle.vuSend.val < peer.vuRecv.val
  · have hrx : ∀ info, gprsLlcHdrRx (uiParsed lle.sapi command lle.vuSend (uiInfo lle command msg)) info peer = none :=
      fun info => if_pos hbelow
    simp only [hrx, if_pos hbelow]
  · have hrx : ∀ info, gprsLlcHdrRx (uiParsed lle.sapi command lle.vuSend (uiInfo lle command msg)) info peer =
        some (peer.takeUi lle.vuSend, none) := fun info => if_neg hbelow
    simp only [hrx, if_neg hbelow]
    show (if servedSapi lle.sapi then (_, LlcOutcome.processed none (some _)) else _) = _
    unfold uiPassed
    rw [← hpayload]
    split_ifs <;> rfl

/-! ## The system -/

/-- The two entities, how many frames the sender has numbered, how many were lost since one last arrived, and the
    last frame that was accepted. -/
structure UiLossy where
  sender : GprsLlcLle
  receiver : GprsLlcLle
  sent : Nat := 0
  lost : Nat := 0
  last : Option (List Octet) := none

/-- The sender sends a frame, which is lost or arrives; or the last one that was accepted arrives once more. -/
inductive UiLossyEvent where
  | lose (command : Bool) (msg : LlcSdu)
  | deliver (command : Bool) (msg : LlcSdu)
  | again

/-- A frame was accepted when the receiving LLE moved on. -/
def UiLossy.delivered (cipher : GprsCipher) (st : UiLossy) (sender : GprsLlcLle) (frame : List Octet) : UiLossy :=
  let receiver := (gprsLlcRcvmsg cipher st.receiver frame).1
  { sender := sender
    receiver := receiver
    sent := st.sent + 1
    lost := 0
    last := if receiver = st.receiver then st.last else some frame }

/-- Both ends were assigned with these cipher parameters. Fewer than 256 frames are lost in a row; an attempt that
    sends no frame is no step. -/
def uiLossy (cipher : GprsCipher) (sapi : Fin 16) (algo : GprsCiphAlgo) (oc : Nat) : System UiLossy UiLossyEvent where
  init st := (UiExchange.mk st.sender st.receiver []).Assigned sapi algo oc ∧ st.sent = 0 ∧ st.lost = 0 ∧ st.last = none
  step st ev st' :=
    match ev with
    | .lose command msg => ∃ frame sender, gprsLlcTxUi cipher st.sender command msg = (.ok frame, sender) ∧
        st.lost + 1 < 256 ∧ st' = { st with sender := sender, sent := st.sent + 1, lost := st.lost + 1 }
    | .deliver command msg => ∃ frame sender, gprsLlcTxUi cipher st.sender command msg = (.ok frame, sender) ∧
        st' = st.delivered cipher sender frame
    | .again => ∃ frame, st.last = some frame ∧ st' = { st with receiver := (gprsLlcRcvmsg cipher st.receiver frame).1 }

/-! ## Runs -/

/-- What an event is meant to do. The frame that arrives is accepted, and the overflow counter counts the wraps of the
    number that is expected next; the last one that was accepted is discarded when it arrives again. -/
def UiRight (cipher : GprsCipher) (oc : Nat) (st : UiLossy) : UiLossyEvent → Prop
  | .lose .. => True
  | .deliver command msg => ∀ frame sender, gprsLlcTxUi cipher st.sender command msg = (.ok frame, sender) →
      (gprsLlcRcvmsg cipher st.receiver frame).1 ≠ st.receiver ∧
      (gprsLlcRcvmsg cipher st.receiver frame).2 = uiPassed st.sender.sapi msg.octets ∧
      (gprsLlcRcvmsg cipher st.receiver frame).1.ocUiRecv = (oc + 512 * ((st.sent + 1) / 512)) % 2 ^ 32
  | .again => ∀ frame, st.last = some frame → gprsLlcRcvmsg cipher st.receiver frame = (st.receiver, .error (-eio))

/-- None of the frames lost before one that arrives was numbered 511, nor is one that arrives again; and the frames are
    sent in the clear, for a SAPI that is not reserved. -/
def UiKeepsWindow (st : UiLossy) : UiLossyEvent → Prop
  | .lose .. => True
  | .deliver .. => st.sender.algo = .gea0 ∧ reservedSapi st.sender.sapi = false ∧ st.lost ≤ st.sender.vuSend.val
  | .again => ∀ frame ghp, st.last = some frame → gprsLlcHdrParse frame = .ok ghp → ghp.seqTx ≠ 511

/-- Where sender and receiver are. The frame numbered `sent - lost - 1` is the last one that arrived. -/
structure WindowInv (sapi : Fin 16) (algo : GprsCiphAlgo) (oc : Nat) (st : UiLossy) : Prop where
  sapi_sender : st.sender.sapi = sapi
  algo_sender : st.sender.algo = algo
  algo_receiver : st.receiver.algo = algo
  lost : st.lost ≤ st.sent ∧ st.lost < 256
  vuSend : st.sender.vuSend.val = st.sent % 512
  vuRecv : st.receiver.vuRecv.val = (st.sent - st.lost) % 512
  ocUiRecv : st.receiver.ocUiRecv = (oc + 512 * ((st.sent - st.lost) / 512)) % 2 ^ 32
  last : ∀ frame, st.last = some frame → ∃ lle : GprsLlcLle, ∃ command msg,
    frame = uiHeader lle.sapi command lle.vuSend ++ uiInfo lle command msg ∧ lle.sapi = sapi ∧ algo = .gea0 ∧
    reservedSapi sapi = false ∧ st.sent - st.lost ≠ 0 ∧ lle.vuSend.val = (st.sent - st.lost - 1) % 512

variable {cipher : GprsCipher} {sapi : Fin 16} {algo : GprsCiphAlgo} {oc : Nat} {st st' : UiLossy}

theorem windowInv_init (hoc : oc < 2 ^ 32) (h : (uiLossy cipher sapi algo oc).init st) : WindowInv sapi algo oc st := by
  obtain ⟨hassigned, hsent, hlost, hlast⟩ := h
  refine ⟨hassigned.sapi_sender, hassigned.algo_sender, hassigned.algo_receiver, ?_, ?_, ?_, ?_, ?_⟩
  · rw [hsent, hlost]
    decide
  · rw [hsent]
    exact congrArg Fin.val hassigned.vuSend
  · rw [hsent, hlost]
    exact congrArg Fin.val hassigned.vuRecv
  · rw [hsent, hlost]
    have hreceiver : st.receiver.ocUiRecv = oc := hassigned.ocUiRecv
    rw [hreceiver]
    exact (Nat.mod_eq_of_lt hoc).symm
  · intro frame hframe
    rw [hlast] at hframe
    cases hframe

/-- A frame that comes after no lost one numbered 511: it is accepted, and its number is the one expected before plus
    the frames lost. -/
theorem WindowInv.taken (h : WindowInv sapi algo oc st) (hkeeps : st.lost ≤ st.sender.vuSend.val) :
    ¬st.sender.vuSend.val < st.receiver.vuRecv.val ∧
    (st.receiver.takeUi st.sender.vuSend).vuRecv.val = (st.sent + 1) % 512 ∧
    (st.receiver.takeUi st.sender.vuSend).ocUiRecv = (oc + 512 * ((st.sent + 1) / 512)) % 2 ^ 32 := by
  obtain ⟨hle, hfew⟩ := h.lost
  have hsend := h.vuSend
  have hrecv := h.vuRecv
  -- no wrap between the number expected and the one that comes
  have hsame : (st.sent - st.lost) / 512 = st.sent / 512 := by omega
  refine ⟨by omega, ?_, ?_⟩
  · show (st.sender.vuSend.val + 1) % 512 = _
    omega
  · show (if (st.sender.vuSend.val + 1) / 512 ≠ 0 then _ else _) = _
    rw [h.ocUiRecv, hsame, hsend]
    exact overflow_step oc st.sent

theorem WindowInv.below (h : WindowInv sapi algo oc st) (hlost : ¬st.lost ≤ st.sender.vuSend.val) :
    st.sender.vuSend.val < st.receiver.vuRecv.val := by
  obtain ⟨hle, hfew⟩ := h.lost
  have hsend := h.vuSend
  have hrecv := h.vuRecv
  omega

variable {frame : List Octet}

/-- What the receiver makes of the next frame, when both ends use no cipher and the SAPI is not reserved. -/
theorem WindowInv.rcvmsg (h : WindowInv sapi algo oc st) {command : Bool} {msg : LlcSdu} {sender : GprsLlcLle}
    (htx : gprsLlcTxUi cipher st.sender command msg = (.ok frame, sender)) (halgo : algo = .gea0)
    (hres : reservedSapi sapi = false) :
    frame = uiHeader st.sender.sapi command st.sender.vuSend ++ uiInfo st.sender command msg ∧
    gprsLlcRcvmsg cipher st.receiver frame =
      if st.sender.vuSend.val < st.receiver.vuRecv.val then (st.receiver, .error (-eio))
      else (st.receiver.takeUi st.sender.vuSend, uiPassed st.sender.sapi msg.octets) := by
  obtain ⟨-, ⟨-, hframe⟩ | ⟨hciph, -⟩⟩ := txUi_cases htx
  · refine ⟨hframe, ?_⟩
    rw [hframe]
    exact rcvmsg_uiFrame cipher command msg (by rw [h.sapi_sender]; exact hres) (h.algo_receiver.trans halgo)
  · exact absurd (h.algo_sender.trans halgo) hciph

/-- An LLE that accepts a frame moves on: it expects another number, or its overflow counter has changed. -/
theorem takeUi_ne {lle : GprsLlcLle} (hoc : lle.ocUiRecv < 2 ^ 32) {nu : Fin 512} (h : ¬nu.val < lle.vuRecv.val) :
    lle.takeUi nu ≠ lle := by
  intro heq
  have hvu : (nu.val + 1) % 512 = lle.vuRecv.val := congrArg (fun l => l.vuRecv.val) heq
  have hcounter : (if (nu.val + 1) / 512 ≠ 0 then (lle.ocUiRecv + 512) % 2 ^ 32 else lle.ocUiRecv) = lle.ocUiRecv :=
    congrArg GprsLlcLle.ocUiRecv heq
  split_ifs at hcounter with hwrap
  · have hsame : (lle.ocUiRecv + 512) % 2 ^ 32 = lle.ocUiRecv % 2 ^ 32 := hcounter.trans (Nat.mod_eq_of_lt hoc).symm
    omega
  · omega

/-- **The next frame.** It is accepted, with the right counter, exactly when none of the frames lost before it was
    numbered 511. -/
theorem WindowInv.deliver_iff (h : WindowInv sapi algo oc st) {command : Bool} {msg : LlcSdu} {sender : GprsLlcLle}
    (htx : gprsLlcTxUi cipher st.sender command msg = (.ok frame, sender)) :
    UiRight cipher oc st (.deliver command msg) ↔ UiKeepsWindow st (.deliver command msg) := by
  unfold UiRight UiKeepsWindow
  rw [h.algo_sender, h.sapi_sender]
  constructor
  · intro hright
    obtain ⟨hmoved, -, -⟩ := hright frame sender htx
    by_cases hclear : algo = .gea0 ∧ reservedSapi sapi = false
    · refine ⟨hclear.1, hclear.2, ?_⟩
      by_contra hlost
      rw [(h.rcvmsg htx hclear.1 hclear.2).2, if_pos (h.below hlost)] at hmoved
      exact hmoved rfl
    · -- the receiver takes no frame
      obtain ⟨info, hinfo, rfl, -⟩ := parse_sent htx
      have hroom := msg.room
      refine absurd (rcvmsg_refused cipher _ _ _ (by omega) (by omega) ?_) hmoved
      rw [h.sapi_sender, h.algo_receiver]
      by_cases halgo : algo = .gea0
      · exact .inl (by simpa using fun hres => hclear ⟨halgo, hres⟩)
      · exact .inr halgo
  · rintro ⟨halgo, hres, hlost⟩ frame' sender' htx'
    obtain ⟨htaken, -, hcounter⟩ := h.taken hlost
    have hoc : st.receiver.ocUiRecv < 2 ^ 32 := by
      rw [h.ocUiRecv]
      exact Nat.mod_lt _ (by decide)
    rw [(h.rcvmsg htx' halgo hres).2, if_neg htaken, h.sapi_sender]
    exact ⟨takeUi_ne hoc htaken, rfl, hcounter⟩

/-- **The same frame again.** It is discarded exactly when it is not the one numbered 511. -/
theorem WindowInv.again_iff (h : WindowInv sapi algo oc st) (hlast : st.last = some frame) :
    UiRight cipher oc st .again ↔ UiKeepsWindow st .again := by
  obtain ⟨lle, command, msg, rfl, hsapi, halgo, hres, hsome, hnumber⟩ := h.last frame hlast
  have hroom := msg.room
  have hlen := length_uiInfo lle command msg
  have hparse := parse_uiFrame lle.sapi command lle.vuSend (uiInfo lle command msg) (by omega) (by omega)
  rw [hsapi, hres, if_neg Bool.false_ne_true] at hparse
  have hrcv := @rcvmsg_uiFrame cipher lle st.receiver command msg (by rw [hsapi]; exact hres)
    (h.algo_receiver.trans halgo)
  have hrecv := h.vuRecv
  unfold UiRight UiKeepsWindow
  constructor
  · intro hright frame' ghp hframe' hghp hlast511
    cases hlast.symm.trans hframe'
    rw [hsapi, hparse] at hghp
    cases hghp
    have hnu : lle.vuSend.val = 511 := hlast511
    have hdropped := hright _ hlast
    rw [hrcv, if_neg (by omega)] at hdropped
    -- an accepted frame is no error of the window
    have houtcome := congrArg Prod.snd hdropped
    unfold uiPassed at houtcome
    by_cases hserved : servedSapi lle.sapi = true
    · rw [if_pos hserved] at houtcome
      cases houtcome
    · rw [if_neg hserved] at houtcome
      dsimp only at houtcome
      exact absurd houtcome (by decide)
  · intro hkeeps frame' hframe'
    cases hlast.symm.trans hframe'
    have hnot : lle.vuSend.val ≠ 511 := hkeeps _ _ hlast (by rw [hsapi]; exact hparse)
    rw [hrcv, if_pos (by omega)]

theorem WindowInv.step (h : WindowInv sapi algo oc st) {ev : UiLossyEvent} (hkeeps : UiKeepsWindow st ev)
    (hstep : (uiLossy cipher sapi algo oc).step st ev st') : WindowInv sapi algo oc st' := by
  obtain ⟨hle, hfew⟩ := h.lost
  have hnext : (st.sender.vuSend + 1 : Fin 512).val = (st.sent + 1) % 512 := by
    rw [Fin.val_add, h.vuSend]
    show (st.sent % 512 + 1) % 512 = _
    omega
  cases ev with
  | lose command msg =>
    obtain ⟨frame, sender, htx, hlost, rfl⟩ := hstep
    obtain rfl := (txUi_cases htx).1
    have hsame : st.sent + 1 - (st.lost + 1) = st.sent - st.lost := by omega
    exact {
      sapi_sender := h.sapi_sender
      algo_sender := h.algo_sender
      algo_receiver := h.algo_receiver
      lost := ⟨Nat.succ_le_succ hle, hlost⟩
      vuSend := hnext
      vuRecv := by
        show st.receiver.vuRecv.val = (st.sent + 1 - (st.lost + 1)) % 512
        rw [hsame]
        exact h.vuRecv
      ocUiRecv := by
        show st.receiver.ocUiRecv = (oc + 512 * ((st.sent + 1 - (st.lost + 1)) / 512)) % 2 ^ 32
        rw [hsame]
        exact h.ocUiRecv
      last := by
        show ∀ frame, st.last = some frame → _
        rw [hsame]
        exact h.last }
  | deliver command msg =>
    obtain ⟨frame, sender, htx, rfl⟩ := hstep
    obtain rfl := (txUi_cases htx).1
    obtain ⟨halgo, hres, hlost⟩ := hkeeps
    rw [h.algo_sender] at halgo
    rw [h.sapi_sender] at hres
    obtain ⟨hframe, hrcv⟩ := h.rcvmsg htx halgo hres
    obtain ⟨htaken, hvu, hcounter⟩ := h.taken hlost
    rw [if_neg htaken] at hrcv
    have hreceiver : (gprsLlcRcvmsg cipher st.receiver frame).1 = st.receiver.takeUi st.sender.vuSend := by rw [hrcv]
    unfold UiLossy.delivered
    rw [hreceiver]
    refine ⟨h.sapi_sender, h.algo_sender, h.algo_receiver, ⟨Nat.zero_le _, Nat.succ_pos 255⟩, hnext, hvu, hcounter, ?_⟩
    intro frame' hframe'
    dsimp only at hframe'
    have hoc : st.receiver.ocUiRecv < 2 ^ 32 := by
      rw [h.ocUiRecv]
      exact Nat.mod_lt _ (by decide)
    rw [if_neg (takeUi_ne hoc htaken)] at hframe'
    cases hframe'
    exact ⟨st.sender, command, msg, hframe, h.sapi_sender, halgo, hres, Nat.succ_ne_zero _, h.vuSend⟩
  | again =>
    obtain ⟨frame, hlast, rfl⟩ := hstep
    have hright : UiRight cipher oc st .again := (h.again_iff hlast).mpr hkeeps
    rw [hright frame hlast]
    exact ⟨h.sapi_sender, h.algo_sender, h.algo_receiver, h.lost, h.vuSend, h.vuRecv, h.ocUiRecv, h.last⟩

theorem WindowInv.reachable (hoc : oc < 2 ^ 32) (h : ReachableBy (uiLossy cipher sapi algo oc) UiKeepsWindow st) :
    WindowInv sapi algo oc st :=
  h.invariant (fun _ hinit => windowInv_init hoc hinit) fun _ _ _ hinv hkeeps hstep => hinv.step hkeeps hstep

/-- **The receive window.** In every run that loses no frame numbered 511 before one that arrives, and repeats none:
    what arrives next is accepted with the right overflow counter, or discarded if it is the last one again, exactly
    when that holds of it too. -/
theorem window_iff (hoc : oc < 2 ^ 32) (h : ReachableBy (uiLossy cipher sapi algo oc) UiKeepsWindow st)
    {ev : UiLossyEvent} (hstep : (uiLossy cipher sapi algo oc).step st ev st') :
    UiRight cipher oc st ev ↔ UiKeepsWindow st ev := by
  have hinv := WindowInv.reachable hoc h
  cases ev with
  | lose command msg => exact Iff.rfl
  | deliver command msg =>
    obtain ⟨frame, sender, htx, -⟩ := hstep
    exact hinv.deliver_iff htx
  | again =>
    obtain ⟨frame, hlast, -⟩ := hstep
    exact hinv.again_iff hlast

/-! ## Runs in the clear -/

/-- Two entities of SAPI 3 as assignment leaves them, without a cipher. -/
def windowAssigned : UiLossy := { sender := lleThree .gea0, receiver := lleThree .gea0 }

theorem lossy_sends {st : UiLossy} (hroom : st.sender.n201u = 500) (halgo : st.sender.algo = .gea0) :
    gprsLlcTxUi constCipher st.sender true sduTwo =
      (.ok (uiHeader st.sender.sapi true st.sender.vuSend ++ uiInfo st.sender true sduTwo), st.sender.numberUi) := by
  have hshort : ¬st.sender.n201u < sduTwo.octets.length := by
    rw [hroom]
    decide
  unfold gprsLlcTxUi
  rw [if_neg hshort]
  exact if_pos halgo

/-- The first frame is accepted. -/
theorem window_iff_first : UiRight constCipher 0 windowAssigned (.deliver true sduTwo) :=
  (window_iff (by decide) (.init ⟨⟨rfl, rfl, rfl, rfl, rfl, rfl, rfl, rfl⟩, rfl, rfl, rfl⟩ :
      ReachableBy (uiLossy constCipher 3 .gea0 0) UiKeepsWindow windowAssigned)
    (show (uiLossy constCipher 3 .gea0 0).step windowAssigned (.deliver true sduTwo) _ from
      ⟨_, _, lossy_sends rfl rfl, rfl⟩)).mpr ⟨rfl, by decide, by decide⟩

/-- Any number of frames arrive. -/
theorem exists_reachable_window (n : Nat) :
    ∃ st, ReachableBy (uiLossy constCipher 3 .gea0 0) UiKeepsWindow st ∧ st.sent = n ∧ st.lost = 0 ∧
      st.sender.n201u = 500 := by
  induction n with
  | zero => exact ⟨windowAssigned, .init ⟨⟨rfl, rfl, rfl, rfl, rfl, rfl, rfl, rfl⟩, rfl, rfl, rfl⟩, rfl, rfl, rfl⟩
  | succ n ih =>
    obtain ⟨st, hst, hsent, hlost, hroom⟩ := ih
    have hinv := WindowInv.reachable (by decide) hst
    have hkeeps : UiKeepsWindow st (.deliver true sduTwo) := by
      refine ⟨hinv.algo_sender, ?_, ?_⟩
      · rw [hinv.sapi_sender]
        decide
      · rw [hlost]
        exact Nat.zero_le _
    refine ⟨_, hst.step hkeeps ⟨_, _, lossy_sends hroom hinv.algo_sender, rfl⟩, ?_, rfl, hroom⟩
    show st.sent + 1 = n + 1
    rw [hsent]

/-- After 511 frames the next one is lost, and the one after it arrives: it is dropped. -/
theorem window_lost_511 :
    ∃ st, Reachable (uiLossy constCipher 3 .gea0 0) st ∧ st.lost = 1 ∧
      ¬UiRight constCipher 0 st (.deliver true sduTwo) := by
  obtain ⟨st, hst, hsent, hlost, hroom⟩ := exists_reachable_window 511
  have hinv := WindowInv.reachable (by decide) hst
  have hlose : (uiLossy constCipher 3 .gea0 0).step st (.lose true sduTwo)
      { st with sender := st.sender.numberUi, sent := st.sent + 1, lost := st.lost + 1 } :=
    ⟨_, _, lossy_sends hroom hinv.algo_sender, by rw [hlost]; decide, rfl⟩
  have hinv' := hinv.step (show UiKeepsWindow st (.lose true sduTwo) from trivial) hlose
  refine ⟨_, hst.reachable.step trivial hlose, ?_, ?_⟩
  · show st.lost + 1 = 1
    rw [hlost]
  · rw [hinv'.deliver_iff (lossy_sends hroom hinv'.algo_sender)]
    rintro ⟨-, -, hkept⟩
    have hnumber := hinv'.vuSend
    dsimp only at hkept hnumber
    omega

end OpenBsc.Llc
