import OpenBsc.Lib.Transition
import OpenBsc.Llc.UiCodec

/-!
# `Llc.Overflow` — the overflow counters of two LLEs over an in-order channel

One LLE sends UI frames to another over a channel that keeps their order and loses none. `uiExchange` is
that system; it records for each frame the overflow counter the sender takes for the cipher and the one the
receiver has when the frame arrives.

The sender raises its counter when the number it will use next is 511, the receiver when it has received
number 511: on every frame numbered 511 the two differ. And of ciphered frames the receiver sees none as
ciphered, so it drops them all and its counter stays where it was. `counters_eq_iff` is the exact picture.
-/

namespace OpenBsc.Llc

open Transition

/-! ## The system -/

/-- The two entities, and for each frame so far the overflow counters used at both ends. -/
structure UiExchange where
  sender : GprsLlcLle
  receiver : GprsLlcLle
  counters : List (Nat × Nat)

/-- Both ends were assigned with these cipher parameters, and their overflow counters agree. -/
structure UiExchange.Assigned (st : UiExchange) (sapi : Fin 16) (algo : GprsCiphAlgo) (oc : Nat) : Prop where
  sapi_sender : st.sender.sapi = sapi
  algo_sender : st.sender.algo = algo
  algo_receiver : st.receiver.algo = algo
  vuSend : st.sender.vuSend = 0
  vuRecv : st.receiver.vuRecv = 0
  ocUiSend : st.sender.ocUiSend = oc
  ocUiRecv : st.receiver.ocUiRecv = oc
  counters : st.counters = []

/-- A frame is sent and received. An attempt that sends no frame is no step: a message that is too long
    changes nothing, and the cipher is taken not to fail. -/
def uiExchange (cipher : GprsCipher) (sapi : Fin 16) (algo : GprsCiphAlgo) (oc : Nat) :
    System UiExchange (Bool × LlcSdu) where
  init st := st.Assigned sapi algo oc
  step st ev st' := ∃ frame sender, gprsLlcTxUi cipher st.sender ev.1 ev.2 = (.ok frame, sender) ∧
    st' = ⟨sender, (gprsLlcRcvmsg cipher st.receiver frame).1,
      st.counters ++ [(st.sender.ocUiSend, st.receiver.ocUiRecv)]⟩

/-- Whether the counters agree on the `k`-th frame, counted from 0. In the clear they differ on the last frame
    of every 512; when the receiver takes no frame, they agree until the sender raises its counter for the
    first time, and again when it has come round. -/
def CountersAgree (sapi : Fin 16) (algo : GprsCiphAlgo) (k : Nat) : Prop :=
  if algo = .gea0 ∧ reservedSapi sapi = false then k % 512 ≠ 511 else (k + 1) / 512 % 2 ^ 23 = 0

instance (sapi : Fin 16) (algo : GprsCiphAlgo) (k : Nat) : Decidable (CountersAgree sapi algo k) := by
  unfold CountersAgree
  infer_instance

/-! ## One frame -/

variable {cipher : GprsCipher}

/-- A frame that is deciphered, has a correct FCS and is not out of sequence leaves the LLE as the header
    processing does, whoever gets the information field. -/
theorem rcvmsg_accepted {lle lle' : GprsLlcLle} {frame clear : List Octet} {ghp : GprsLlcHdrParsed}
    {xid : Option (List Octet)} (hparse : gprsLlcHdrParse frame = .ok ghp)
    (hclear : llcDecipher cipher lle ghp frame = .ok clear) (hfcs : ghp.fcs = gprsLlcFcs (clear.take ghp.crcLength))
    (hrx : gprsLlcHdrRx ghp ((clear.drop (ghp.data.getD 0)).take ghp.dataLen) lle = some (lle', xid)) :
    (gprsLlcRcvmsg cipher lle frame).1 = lle' := by
  unfold gprsLlcRcvmsg
  simp only [hparse, hclear]
  rw [if_neg (not_not_intro hfcs)]
  simp only [hrx]
  split
  · rfl
  · split <;> rfl

/-- A frame in the clear with the expected number moves the receiver on. -/
theorem rcvmsg_clear (cipher : GprsCipher) {lle peer : GprsLlcLle} (command : Bool) (msg : LlcSdu)
    (hres : reservedSapi lle.sapi = false) (halgo : peer.algo = .gea0) (hnu : peer.vuRecv = lle.vuSend) :
    (gprsLlcRcvmsg cipher peer (uiHeader lle.sapi command lle.vuSend ++ uiInfo lle command msg)).1 =
      { peer with
        vuRecv := peer.vuRecv + 1
        ocUiRecv := if (peer.vuRecv.val + 1) / 512 ≠ 0 then (peer.ocUiRecv + 512) % 2 ^ 32
          else peer.ocUiRecv } := by
  have hroom := msg.room
  have hlen := length_uiInfo lle command msg
  have hparse := parse_uiFrame lle.sapi command lle.vuSend (uiInfo lle command msg) (by omega) (by omega)
  rw [hres, if_neg Bool.false_ne_true] at hparse
  have hclear : llcDecipher cipher peer (uiParsed lle.sapi command lle.vuSend (uiInfo lle command msg))
      (uiHeader lle.sapi command lle.vuSend ++ uiInfo lle command msg) =
        .ok (uiHeader lle.sapi command lle.vuSend ++ uiInfo lle command msg) := by
    simp [llcDecipher, uiParsed, halgo]
  apply rcvmsg_accepted hparse hclear (clear_payload lle command msg).2
  show (if lle.vuSend.val < peer.vuRecv.val then none else _) = _
  rw [hnu, if_neg (lt_irrefl _)]
  rfl

/-- A frame for a reserved SAPI, or to an entity that expects ciphered frames, changes nothing. -/
theorem rcvmsg_refused (cipher : GprsCipher) (sapi : Fin 16) (command : Bool) (nu : Fin 512) {info : List Octet}
    {peer : GprsLlcLle} (h3 : 3 ≤ info.length) (hmax : info.length + 3 < 65536)
    (h : reservedSapi sapi = true ∨ peer.algo ≠ .gea0) :
    (gprsLlcRcvmsg cipher peer (uiHeader sapi command nu ++ info)).1 = peer := by
  unfold gprsLlcRcvmsg
  rw [parse_uiFrame sapi command nu info h3 hmax]
  by_cases hres : reservedSapi sapi = true
  · rw [if_pos hres]
  · have halgo : peer.algo ≠ .gea0 := h.resolve_left hres
    rw [if_neg hres]
    simp [llcDecipher, uiParsed, halgo]

/-! ## Whole runs -/

/-- Where sender and receiver are after some frames, and which counters they used on the way. -/
structure ExchangeInv (sapi : Fin 16) (algo : GprsCiphAlgo) (oc : Nat) (st : UiExchange) : Prop where
  sapi_sender : st.sender.sapi = sapi
  algo_sender : st.sender.algo = algo
  algo_receiver : st.receiver.algo = algo
  vuSend : st.sender.vuSend.val = st.counters.length % 512
  ocUiSend : st.sender.ocUiSend = (oc + 512 * ((st.counters.length + 1) / 512)) % 2 ^ 32
  receiver : if algo = .gea0 ∧ reservedSapi sapi = false then
      st.receiver.vuRecv = st.sender.vuSend ∧ st.receiver.ocUiRecv = (oc + 512 * (st.counters.length / 512)) % 2 ^ 32
    else st.receiver.ocUiRecv = oc % 2 ^ 32
  counters : ∀ k (h : k < st.counters.length), st.counters[k] =
    ((oc + 512 * ((k + 1) / 512)) % 2 ^ 32,
      if algo = .gea0 ∧ reservedSapi sapi = false then (oc + 512 * (k / 512)) % 2 ^ 32 else oc % 2 ^ 32)

/-- A counter that goes up when the number `n` is the last of its 512 counts the numbers passed. -/
theorem overflow_step (oc n : Nat) :
    (if (n % 512 + 1) / 512 ≠ 0 then ((oc + 512 * (n / 512)) % 2 ^ 32 + 512) % 2 ^ 32
      else (oc + 512 * (n / 512)) % 2 ^ 32) = (oc + 512 * ((n + 1) / 512)) % 2 ^ 32 := by
  by_cases hwrap : (n % 512 + 1) / 512 = 0
  · have hsame : (n + 1) / 512 = n / 512 := by omega
    rw [if_neg (not_not_intro hwrap), hsame]
  · have hnext : (n + 1) / 512 = n / 512 + 1 := by omega
    rw [if_pos hwrap, hnext]
    omega

theorem numberUi_counters {lle : GprsLlcLle} {oc n : Nat} (hvu : lle.vuSend.val = n % 512)
    (hoc : lle.ocUiSend = (oc + 512 * ((n + 1) / 512)) % 2 ^ 32) :
    lle.numberUi.vuSend.val = (n + 1) % 512 ∧ lle.numberUi.ocUiSend = (oc + 512 * ((n + 1 + 1) / 512)) % 2 ^ 32 := by
  have hnext : (lle.vuSend + 1 : Fin 512).val = (n + 1) % 512 := by
    rw [Fin.val_add, hvu]
    show (n % 512 + 1) % 512 = _
    omega
  refine ⟨hnext, ?_⟩
  show (if ((lle.vuSend + 1 : Fin 512).val + 1) / 512 ≠ 0 then _ else _) = _
  rw [hnext, hoc]
  exact overflow_step oc (n + 1)

variable {algo : GprsCiphAlgo}

theorem exchangeInv_init {sapi : Fin 16} {oc : Nat} (hoc : oc < 2 ^ 32) {st : UiExchange}
    (h : st.Assigned sapi algo oc) : ExchangeInv sapi algo oc st := by
  have hmod : oc % 2 ^ 32 = oc := Nat.mod_eq_of_lt hoc
  refine ⟨h.sapi_sender, h.algo_sender, h.algo_receiver, ?_, ?_, ?_, ?_⟩
  · rw [h.vuSend, h.counters]
    rfl
  · rw [h.ocUiSend, h.counters]
    simpa using hmod.symm
  · rw [h.vuSend, h.vuRecv, h.ocUiRecv, h.counters]
    split_ifs
    · exact ⟨rfl, by simpa using hmod.symm⟩
    · exact hmod.symm
  · rw [h.counters]
    intro k hk
    exact absurd hk (Nat.not_lt_zero k)

theorem exchangeInv_step {sapi : Fin 16} {oc : Nat} {st st' : UiExchange} {ev : Bool × LlcSdu}
    (h : ExchangeInv sapi algo oc st) (hstep : (uiExchange cipher sapi algo oc).step st ev st') :
    ExchangeInv sapi algo oc st' := by
  obtain ⟨frame, sender, htx, rfl⟩ := hstep
  have hsent := txUi_cases htx
  obtain rfl := hsent.1
  obtain ⟨hvu, hocSend⟩ := numberUi_counters h.vuSend h.ocUiSend
  have hlen : (st.counters ++ [(st.sender.ocUiSend, st.receiver.ocUiRecv)]).length = st.counters.length + 1 := by simp
  -- what the receiver makes of the frame
  have hrecv := h.receiver
  have hrx : (gprsLlcRcvmsg cipher st.receiver frame).1 =
      if algo = .gea0 ∧ reservedSapi sapi = false then
        { st.receiver with
          vuRecv := st.receiver.vuRecv + 1
          ocUiRecv := if (st.receiver.vuRecv.val + 1) / 512 ≠ 0 then (st.receiver.ocUiRecv + 512) % 2 ^ 32
            else st.receiver.ocUiRecv }
      else st.receiver := by
    by_cases hclear : algo = .gea0 ∧ reservedSapi sapi = false
    · rw [if_pos hclear] at hrecv ⊢
      rcases hsent.2 with ⟨-, rfl⟩ | ⟨hciph, -⟩
      · exact rcvmsg_clear cipher ev.1 ev.2 (by rw [h.sapi_sender]; exact hclear.2)
          (by rw [h.algo_receiver]; exact hclear.1) hrecv.1
      · exact absurd (h.algo_sender.trans hclear.1) hciph
    · rw [if_neg hclear]
      obtain ⟨info, hinfo, rfl, -⟩ := parse_sent htx
      have hroom := ev.2.room
      refine rcvmsg_refused cipher _ _ _ (by omega) (by omega) ?_
      rw [h.sapi_sender, h.algo_receiver]
      by_cases halgo : algo = .gea0
      · exact .inl (by simpa using fun hres => hclear ⟨halgo, hres⟩)
      · exact .inr halgo
  refine ⟨h.sapi_sender, h.algo_sender, ?_, ?_, ?_, ?_, ?_⟩
  · show (gprsLlcRcvmsg cipher st.receiver frame).1.algo = algo
    rw [hrx]
    by_cases hclear : algo = .gea0 ∧ reservedSapi sapi = false
    · rw [if_pos hclear]
      exact h.algo_receiver
    · rw [if_neg hclear]
      exact h.algo_receiver
  · rw [hlen]
    exact hvu
  · rw [hlen]
    exact hocSend
  · rw [hrx, hlen]
    by_cases hclear : algo = .gea0 ∧ reservedSapi sapi = false
    · rw [if_pos hclear] at hrecv
      rw [if_pos hclear, if_pos hclear]
      refine ⟨congrArg (· + 1) hrecv.1, ?_⟩
      show (if _ then _ else _) = _
      rw [hrecv.1, hrecv.2, h.vuSend]
      exact overflow_step oc st.counters.length
    · rw [if_neg hclear] at hrecv
      rw [if_neg hclear, if_neg hclear]
      exact hrecv
  · intro k hk
    rw [hlen] at hk
    by_cases hlast : k < st.counters.length
    · simp only [List.getElem_append_left hlast]
      exact h.counters k hlast
    · obtain rfl : k = st.counters.length := by omega
      simp only [List.getElem_concat_length]
      rw [h.ocUiSend]
      by_cases hclear : algo = .gea0 ∧ reservedSapi sapi = false
      · rw [if_pos hclear] at hrecv ⊢
        rw [hrecv.2]
      · rw [if_neg hclear] at hrecv ⊢
        rw [hrecv]

theorem exchangeInv_of_reachable {sapi : Fin 16} {oc : Nat} (hoc : oc < 2 ^ 32) {st : UiExchange}
    (h : Reachable (uiExchange cipher sapi algo oc) st) : ExchangeInv sapi algo oc st :=
  h.invariant (fun _ hinit => exchangeInv_init hoc hinit) fun _ _ _ hinv _ hstep => exchangeInv_step hinv hstep

/-- **Which frames are ciphered and deciphered with the same counter.** In every run, for every frame of it: the
    overflow counter the sender uses is the one the receiver has exactly when `CountersAgree`. -/
theorem counters_eq_iff {cipher : GprsCipher} {sapi : Fin 16} {algo : GprsCiphAlgo} {oc : Nat}
    (hoc : oc < 2 ^ 32) {st : UiExchange} (h : Reachable (uiExchange cipher sapi algo oc) st) {k : Nat}
    (hk : k < st.counters.length) :
    st.counters[k].1 = st.counters[k].2 ↔ CountersAgree sapi algo k := by
  have hinv := exchangeInv_of_reachable hoc h
  rw [hinv.counters k hk, CountersAgree]
  by_cases hclear : algo = .gea0 ∧ reservedSapi sapi = false
  · rw [if_pos hclear, if_pos hclear]
    omega
  · rw [if_neg hclear, if_neg hclear]
    omega

/-! ## A run in the clear -/

/-- Two entities of SAPI 3 as assignment leaves them, without a cipher. -/
def exchangeAssigned : UiExchange := ⟨lleThree .gea0, lleThree .gea0, []⟩

/-- The same message over and over: the run has no end. -/
theorem exists_reachable_clear (n : Nat) :
    ∃ st, Reachable (uiExchange constCipher 3 .gea0 0) st ∧ st.counters.length = n ∧
      st.sender.n201u = 500 ∧ st.sender.algo = .gea0 := by
  induction n with
  | zero => exact ⟨exchangeAssigned, .init ⟨rfl, rfl, rfl, rfl, rfl, rfl, rfl, rfl⟩, rfl, rfl, rfl⟩
  | succ n ih =>
    obtain ⟨st, hst, hlen, hroom, halgo⟩ := ih
    have hshort : ¬ st.sender.n201u < sduTwo.octets.length := by
      rw [hroom]
      decide
    have hsent : gprsLlcTxUi constCipher st.sender true sduTwo =
        (.ok (uiHeader st.sender.sapi true st.sender.vuSend ++ uiInfo st.sender true sduTwo), st.sender.numberUi) := by
      unfold gprsLlcTxUi
      rw [if_neg hshort]
      exact if_pos halgo
    refine ⟨_, .step (l := (true, sduTwo)) hst trivial ⟨_, _, hsent, rfl⟩, ?_, hroom, halgo⟩
    rw [List.length_append, hlen]
    rfl

/-- The frame 600 is deciphered with the counter that it is ciphered with. -/
theorem counters_eq_iff_later :
    ∃ st, Reachable (uiExchange constCipher 3 .gea0 0) st ∧ ∃ hk : 600 < st.counters.length,
      st.counters[600].1 = st.counters[600].2 := by
  obtain ⟨st, hst, hlen, -⟩ := exists_reachable_clear 601
  have hk : 600 < st.counters.length := by omega
  exact ⟨st, hst, hk, (counters_eq_iff (by decide) hst hk).mpr (by decide)⟩

/-- The frame numbered 511 is sent with the next overflow counter, and received with the last one. -/
theorem counters_eq_last_fails :
    ∃ st, Reachable (uiExchange constCipher 3 .gea0 0) st ∧ ∃ hk : 511 < st.counters.length,
      st.counters[511] = (512, 0) := by
  obtain ⟨st, hst, hlen, -⟩ := exists_reachable_clear 512
  have hk : 511 < st.counters.length := by omega
  exact ⟨st, hst, hk, (exchangeInv_of_reachable (by decide) hst).counters 511 hk⟩

end OpenBsc.Llc
