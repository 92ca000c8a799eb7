import OpenBsc.Libbsc.ChanRequest
import OpenBsc.Libbsc.ChanSearch

/-!
# `Libbsc.RslDispatch` — the channel that a message of the BTS is about

`abis_rsl_rcvmsg` sorts the messages by their discriminator. For four of the discriminators the channel number is looked
up first, and what the lookup returns, which may be no channel, is put into `msg->lchan` without a check. A message
about a dedicated channel uses it at once, for its name in the log.
-/

namespace OpenBsc.Libbsc

open List

/-! ## Reception -/

/-- A message from its layer 2 header on: the octets that were received, and what the buffer holds behind them. -/
structure RslMsgb where
  l2len : Nat
  l2h : Nat → Octet

namespace RslMsgb

/-- `rslh->msg_discr`. -/
def msgDiscr (msg : RslMsgb) : Octet := msg.l2h 0

/-- `rslh->c.msg_type`. -/
def msgType (msg : RslMsgb) : Octet := msg.l2h 1

/-- `rslh->chan_nr` and `rllh->chan_nr`, behind the tag of the element. -/
def chanNr (msg : RslMsgb) : Octet := msg.l2h 3

/-- The first octets of `rqd_hdr->data` in a CHANNEL REQUIRED. -/
def rqdData (msg : RslMsgb) : List Octet := (List.range 6).map fun i => msg.l2h (4 + i)

/-- A radio link message has layer 3 information: there is more than both headers, and its tag is behind them. -/
def hasL3Info (msg : RslMsgb) : Bool := decide (2 + 6 < msg.l2len) && msg.l2h 6 == 0x0b

end RslMsgb

/-- What the branches of the three receivers do with `msg->lchan`. -/
inductive RslHandler where
  | chanActAck | chanActNack | connFail | measRes | handoDet | rfChanRelAck | pdchActAck | pdchDeactAck
  | gsm0408Rcvmsg | estInd | estConf | relInd | relConf | rllErrInd
  | ipaccCrcxAck | ipaccMdcxAck | ipaccDlcxInd

/-- What reads the channel: `gsm_lchan_name`, a handler, or the log of a CHANNEL REQUIRED without resources. -/
inductive ChanUse where
  | lchanName
  | handler (h : RslHandler)
  | noResources

/-- What a message comes to: `msg->lchan`, which is `NULL` where it was not looked up, and what reads it, in order. -/
structure RslReception where
  lchan : Option (Fin 8 × Fin 8) := none
  uses : List ChanUse := []

/-- The branch of `abis_rsl_rx_dchan` for a message type; the other types are only written to the log. -/
def dchanHandler (msgType : Octet) : Option RslHandler :=
  if msgType = 0x22 then some .chanActAck
  else if msgType = 0x23 then some .chanActNack
  else if msgType = 0x24 then some .connFail
  else if msgType = 0x28 then some .measRes
  else if msgType = 0x27 then some .handoDet
  else if msgType = 0x33 then some .rfChanRelAck
  else if msgType = 0x49 then some .pdchActAck
  else if msgType = 0x4c then some .pdchDeactAck
  else none

/-- The branches of `abis_rsl_rx_rll`. -/
def rllHandlers (msg : RslMsgb) : List RslHandler :=
  if msg.msgType = 0x02 then (if msg.hasL3Info then [.gsm0408Rcvmsg] else [])
  else if msg.msgType = 0x06 then .estInd :: (if msg.hasL3Info then [.gsm0408Rcvmsg] else [])
  else if msg.msgType = 0x05 then [.estConf]
  else if msg.msgType = 0x09 then [.relInd]
  else if msg.msgType = 0x08 then [.relConf]
  else if msg.msgType = 0x03 then [.rllErrInd]
  else []

/-- The branch of `abis_rsl_rx_ipacc` for a message type. -/
def ipaccHandler (msgType : Octet) : Option RslHandler :=
  if msgType = 0x71 then some .ipaccCrcxAck
  else if msgType = 0x74 then some .ipaccMdcxAck
  else if msgType = 0x76 then some .ipaccDlcxInd
  else none

/-- `abis_rsl_rx_dchan`. The name of the channel is made before the switch. -/
def abisRslRxDchan (msg : RslMsgb) : RslReception where
  lchan := lchanLookup msg.chanNr
  uses := .lchanName :: (dchanHandler msg.msgType).toList.map .handler

/-- `abis_rsl_rx_rll`. -/
def abisRslRxRll (msg : RslMsgb) : RslReception where
  lchan := lchanLookup msg.chanNr
  uses := .lchanName :: (rllHandlers msg).map .handler

/-- `abis_rsl_rx_ipacc`. -/
def abisRslRxIpacc (msg : RslMsgb) : RslReception where
  lchan := lchanLookup msg.chanNr
  uses := .lchanName :: (ipaccHandler msg.msgType).toList.map .handler

/-- The settings of the network that say what channel a random access takes. -/
structure ChreqPolicy where
  neci : Bool
  pagAnyTch : Bool

/-- No channel is allocated for the CHANNEL REQUIRED, although its elements are in place. -/
def chanRqdWithoutResources (policy : ChreqPolicy) (bts : GsmBts) (msg : RslMsgb) : Bool :=
  match parseChanRqd msg.rqdData with
  | none => false
  | some (ref, _) =>
    (lchanAlloc bts (getCtypeByChreq policy.neci policy.pagAnyTch ref.ra)
      (getReasonByChreq policy.neci ref.ra == .locationUpd)).lchan.isNone

/-- `abis_rsl_rx_cchan`. `rsl_rx_chan_rqd` works on the channel it allocates; only its log of a failure names the BTS by
    way of the channel of the message. The load and overload indications do not look at it. -/
def abisRslRxCchan (policy : ChreqPolicy) (bts : GsmBts) (msg : RslMsgb) : RslReception where
  lchan := lchanLookup msg.chanNr
  uses := if msg.msgType = 0x13 ∧ chanRqdWithoutResources policy bts msg = true then [.noResources] else []

/-- `abis_rsl_rcvmsg` for a message of a transceiver of the BTS. -/
def abisRslRcvmsg (policy : ChreqPolicy) (bts : GsmBts) (msg : RslMsgb) : RslReception :=
  let mdisc := msg.msgDiscr &&& 0xfe
  if msg.l2len < 2 then {}
  else if mdisc = 0x02 then abisRslRxRll msg
  else if mdisc = 0x08 then abisRslRxDchan msg
  else if mdisc = 0x0c then abisRslRxCchan policy bts msg
  -- the messages about the transceiver and about location services have no channel
  else if mdisc = 0x10 then {}
  else if mdisc = 0x20 then {}
  else if mdisc = 0x7e then abisRslRxIpacc msg
  else {}

/-! ## Sub-slots -/

/-- The values of the channel bits whose sub-slot is one of the combination's. A number of another combination passes if
    its sub-slot is low enough, and the common channels go for the first sub-slot. -/
def cbitsOfCombination : PhysChanConfig → List Octet
  | .tchF | .tchFPdch => [0x01, 0x02, 0x04, 0x08, 0x10, 0x11, 0x12]
  | .tchH => [0x01, 0x02, 0x03, 0x04, 0x05, 0x08, 0x09, 0x10, 0x11, 0x12]
  | .ccchSdcch4 =>
    [0x01, 0x02, 0x03, 0x04, 0x05, 0x06, 0x07, 0x08, 0x09, 0x0a, 0x0b, 0x10, 0x11, 0x12]
  | .sdcch8Sacch8c =>
    [0x01, 0x02, 0x03, 0x04, 0x05, 0x06, 0x07, 0x08, 0x09, 0x0a, 0x0b, 0x0c, 0x0d, 0x0e, 0x0f, 0x10, 0x11, 0x12]
  | .none | .ccch | .pdch | .unknown => []

/-- The channel number is one whose sub-slot the combination of its timeslot has. -/
def ChanNrFits (trx : GsmBtsTrx) (chanNr : Octet) : Prop :=
  chanNr >>> 3 ∈ cbitsOfCombination (trx.ts.get (lowBits chanNr)).pchan

/-- The channel of a reception is there, and is a sub-slot of its timeslot's combination. -/
def RslReception.InCombination (trx : GsmBtsTrx) (r : RslReception) : Prop :=
  ∃ ts ss, r.lchan = some (ts, ss) ∧ ss.val < subslotsPerPchan (trx.ts.get ts).pchan

/-- The sub-slot that the channel bits stand for. -/
def subslotOf (cbits : Octet) : Option (Fin 8) :=
  if cbits = 0x01 then some (lowBits 0)
  else if cbits &&& 0x1e = 0x02 then some (lowBits (cbits &&& 0x1))
  else if cbits &&& 0x1c = 0x04 then some (lowBits (cbits &&& 0x3))
  else if cbits &&& 0x18 = 0x08 then some (lowBits (cbits &&& 0x7))
  else if cbits = 0x10 ∨ cbits = 0x11 ∨ cbits = 0x12 then some (lowBits 0)
  else none

variable (trx : GsmBtsTrx) (pchan : PhysChanConfig) (chanNr : Octet)

/-- The timeslot of a channel number is in its lowest bits, and the rest of it says which sub-slot. -/
theorem lchanLookup_eq :
    lchanLookup chanNr = (subslotOf (chanNr >>> 3)).map fun ss => (lowBits chanNr, ss) := by
  unfold lchanLookup subslotOf
  simp only
  split_ifs <;> rfl

/-- The channel bits are five. -/
theorem cbits_eq : ∃ k : Fin 32, chanNr >>> 3 = UInt8.ofNat k.val := by
  have hlt : chanNr.toNat / 8 < 32 := by
    have := chanNr.toNat_lt
    omega
  refine ⟨⟨chanNr.toNat / 8, hlt⟩, UInt8.toNat_inj.mp ?_⟩
  rw [toNat_octetOf (by show chanNr.toNat / 8 < 256; omega), UInt8.toNat_shiftRight]
  show chanNr.toNat >>> (3 % 8) = chanNr.toNat / 8
  rw [Nat.shiftRight_eq_div_pow]

/-- The table says where the sub-slot of a channel number is one of the combination's. -/
theorem subslotOf_lt_iff :
    (∃ ss, subslotOf (chanNr >>> 3) = some ss ∧ ss.val < subslotsPerPchan pchan) ↔
      chanNr >>> 3 ∈ cbitsOfCombination pchan := by
  obtain ⟨k, hk⟩ := cbits_eq chanNr
  rw [hk]
  clear hk
  cases pchan with
  | none | ccch | pdch | unknown => simp [subslotsPerPchan, cbitsOfCombination]
  | tchF | tchFPdch | tchH | ccchSdcch4 | sdcch8Sacch8c =>
    revert k
    decide

/-- The lookup ends in the combination of the timeslot for the channel numbers that fit it. -/
theorem exists_subslot_iff (uses : List ChanUse) :
    RslReception.InCombination trx ⟨lchanLookup chanNr, uses⟩ ↔ ChanNrFits trx chanNr := by
  show (∃ ts ss, lchanLookup chanNr = some (ts, ss) ∧ ss.val < subslotsPerPchan (trx.ts.get ts).pchan) ↔ _
  rw [lchanLookup_eq, ChanNrFits, ← subslotOf_lt_iff]
  cases subslotOf (chanNr >>> 3) with
  | none | some => simp

/-! ## What holds -/

/-- The mapping between channels and channel numbers, for a message of the transceiver `trx`: every sub-slot of the
    combination of every timeslot is found by its number, and the channel of the message is a sub-slot of the
    combination, or nothing uses it. -/
structure RslChannelMapped (policy : ChreqPolicy) (bts : GsmBts) (trx : GsmBtsTrx) (msg : RslMsgb) : Prop where
  usable : ∀ ts ss : Fin 8, ss.val < subslotsPerPchan (trx.ts.get ts).pchan →
    lchanLookup (gsmTs2chanNr (trx.ts.get ts).pchan ts ss) = some (ts, ss)
  received : (abisRslRcvmsg policy bts msg).InCombination trx ∨ (abisRslRcvmsg policy bts msg).uses = []

/-- The message is about a channel, or a link on one: the three discriminators whose receivers name the channel. -/
def RslMsgb.aboutChannel (msg : RslMsgb) : Prop :=
  2 ≤ msg.l2len ∧ msg.msgDiscr &&& 0xfe ∈ [(0x02 : Octet), 0x08, 0x7e]

/-- The message is a CHANNEL REQUIRED for which there is no channel. -/
def RslMsgb.unserved (policy : ChreqPolicy) (bts : GsmBts) (msg : RslMsgb) : Prop :=
  2 ≤ msg.l2len ∧ msg.msgDiscr &&& 0xfe = 0x0c ∧ msg.msgType = 0x13 ∧ chanRqdWithoutResources policy bts msg = true

section

variable {policy : ChreqPolicy} {msg : RslMsgb}

variable (bts : GsmBts)

/-- A message about a channel is given to a receiver that looks the channel up and names it. -/
theorem abisRslRcvmsg_aboutChannel (habout : msg.aboutChannel) :
    (abisRslRcvmsg policy bts msg).lchan = lchanLookup msg.chanNr ∧ (abisRslRcvmsg policy bts msg).uses ≠ [] := by
  obtain ⟨hlen, hmem⟩ := habout
  unfold abisRslRcvmsg
  rw [if_neg (show ¬ msg.l2len < 2 by omega)]
  simp only [mem_cons, not_mem_nil, or_false] at hmem
  rcases hmem with hmdisc | hmdisc | hmdisc
  · rw [hmdisc]
    exact ⟨rfl, cons_ne_nil _ _⟩
  · rw [hmdisc]
    exact ⟨rfl, cons_ne_nil _ _⟩
  · rw [hmdisc]
    exact ⟨rfl, cons_ne_nil _ _⟩

/-- A CHANNEL REQUIRED without resources: the log of the failure goes by the channel of the message. -/
theorem abisRslRcvmsg_unserved (hunserved : msg.unserved policy bts) :
    (abisRslRcvmsg policy bts msg).lchan = lchanLookup msg.chanNr ∧ (abisRslRcvmsg policy bts msg).uses ≠ [] := by
  obtain ⟨hlen, hmdisc, htype, hnone⟩ := hunserved
  have heq : abisRslRcvmsg policy bts msg = abisRslRxCchan policy bts msg := by
    unfold abisRslRcvmsg
    rw [if_neg (show ¬ msg.l2len < 2 by omega), hmdisc]
    rfl
  rw [heq]
  refine ⟨rfl, ?_⟩
  show (if msg.msgType = 0x13 ∧ chanRqdWithoutResources policy bts msg = true then [ChanUse.noResources] else []) ≠ []
  rw [if_pos ⟨htype, hnone⟩]
  exact cons_ne_nil _ _

theorem abisRslRcvmsg_other (hnot : ¬ msg.aboutChannel) (hserved : ¬ msg.unserved policy bts) :
    (abisRslRcvmsg policy bts msg).uses = [] := by
  unfold abisRslRcvmsg
  by_cases hlen : msg.l2len < 2
  · rw [if_pos hlen]
  · rw [if_neg hlen]
    have hmdisc : msg.msgDiscr &&& 0xfe ∉ [(0x02 : Octet), 0x08, 0x7e] := fun hmem => hnot ⟨by omega, hmem⟩
    simp only [mem_cons, not_mem_nil, or_false, not_or] at hmdisc
    rw [if_neg hmdisc.1, if_neg hmdisc.2.1]
    by_cases hcchan : msg.msgDiscr &&& 0xfe = 0x0c
    · rw [if_pos hcchan]
      exact if_neg fun h => hserved ⟨by omega, hcchan, h.1, h.2⟩
    · rw [if_neg hcchan, if_neg hmdisc.2.2]
      split_ifs <;> rfl

end

/-- The mapping holds of exactly the messages whose channel number fits the combination of the timeslot, and of those
    that are not about a channel and not a CHANNEL REQUIRED without resources. -/
theorem rslChannelMapped_iff (policy : ChreqPolicy) (bts : GsmBts) (trx : GsmBtsTrx) (msg : RslMsgb) :
    RslChannelMapped policy bts trx msg ↔
      (msg.aboutChannel ∨ msg.unserved policy bts → ChanNrFits trx msg.chanNr) := by
  have husable : ∀ ts ss : Fin 8, ss.val < subslotsPerPchan (trx.ts.get ts).pchan →
      lchanLookup (gsmTs2chanNr (trx.ts.get ts).pchan ts ss) = some (ts, ss) :=
    fun ts ss hss => lchanLookup_ts2chanNr _ ts ss hss
  have hfits : (abisRslRcvmsg policy bts msg).lchan = lchanLookup msg.chanNr →
      ((abisRslRcvmsg policy bts msg).InCombination trx ↔ ChanNrFits trx msg.chanNr) := by
    intro hlookup
    rw [← exists_subslot_iff trx msg.chanNr (abisRslRcvmsg policy bts msg).uses]
    simp only [RslReception.InCombination, hlookup]
  by_cases hused : msg.aboutChannel ∨ msg.unserved policy bts
  · have huses : (abisRslRcvmsg policy bts msg).lchan = lchanLookup msg.chanNr ∧
        (abisRslRcvmsg policy bts msg).uses ≠ [] :=
      hused.elim (abisRslRcvmsg_aboutChannel bts) (abisRslRcvmsg_unserved bts)
    constructor
    · intro h _
      exact (hfits huses.1).mp (h.received.resolve_right huses.2)
    · intro h
      exact ⟨husable, .inl ((hfits huses.1).mpr (h hused))⟩
  · have hnone := abisRslRcvmsg_other bts (fun h => hused (.inl h)) (fun h => hused (.inr h))
    constructor
    · intro _ h
      exact absurd h hused
    · intro _
      exact ⟨husable, .inr hnone⟩

/-- An ESTABLISH INDICATION whose channel number is zero. -/
def estIndOfNothing : RslMsgb where
  l2len := 6
  l2h i := [0x02, 0x06, 0x01, 0x00, 0x02, 0x00].getD i 0

/-- No channel has the number, and its name is made all the same. -/
theorem not_rslChannelMapped_estInd :
    ¬ RslChannelMapped ⟨false, false⟩ policyBts (idleTrx (.replicate 8 .ccchSdcch4)) estIndOfNothing := by
  intro h
  rcases h.received with ⟨ts, ss, hlookup, -⟩ | huses
  · cases hlookup
  · cases huses

end OpenBsc.Libbsc
