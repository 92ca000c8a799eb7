import OpenBsc.Libbsc.ChanSearch
import OpenBsc.Libbsc.RadioChannels

/-!
# `Libbsc.RadioSteps` — what an event does to each channel

A handler changes its channel and no other, and the allocator changes the type of the channel it returns. That channel
was free, or it is the first one of a timeslot that had no combination (`searched_lchanSearch`).
-/

namespace OpenBsc.Libbsc

open Transition RadioNet Option

/-! ## Handlers -/

namespace RadioChan

variable (ch : RadioChan)

theorem unexpectedRelease_eq : ch.unexpectedRelease =
    { ch with life := { ch.life with conn := none, t10 := ch.life.t10 && ch.life.conn.isNone }
              outs := ch.outs ++ if ch.life.conn.isSome then [.signal ch.id .unexpectedRelease] else [] } := by
  obtain ⟨id, lchan, ⟨conn, rqd, actTimer, t3101, t3111, errorTimer, t10, sachDeact, releaseReason⟩, outs⟩ := ch
  cases conn with
  | none => simp [unexpectedRelease]
  | some c => simp [unexpectedRelease, emit, setLife]

/-- A channel that is freed has no type, no connection and no request. -/
theorem lchanFree_eq : ch.lchanFree =
    { id := ch.id
      lchan := { ch.lchan with type := .none, state := .none }
      life :=
        { ch.life with
          conn := none, t10 := ch.life.t10 && ch.life.conn.isNone, t3101 := false, rqd := none, sachDeact := false
          releaseReason := 0 }
      outs :=
        ch.outs ++ ((if ch.life.conn.isSome then [.signal ch.id .unexpectedRelease] else []) ++ [.freed ch.id]) } := by
  unfold lchanFree
  simp only [unexpectedRelease_eq]
  simp [setLife, emit]

theorem rslRfChanRelease_of_relErr (error : Bool) (h : ch.lchan.state = .relErr) : ch.rslRfChanRelease error = ch := by
  unfold rslRfChanRelease
  rw [if_pos h]

theorem rslRfChanRelease_error (h : ch.lchan.state ≠ .relErr) : ch.rslRfChanRelease true =
    { ch with
      lchan := { ch.lchan with state := .relErr }
      life := { ch.life with errorTimer := true, actTimer := some .deact }
      outs := ch.outs ++ [.rfChanRel ch.id true] } := by
  unfold rslRfChanRelease
  rw [if_neg h]
  rfl

theorem rslRfChanRelease_normal (h : ch.lchan.state ≠ .relErr) : ch.rslRfChanRelease false =
    { ch with
      life := { ch.life with actTimer := some .deact }
      outs := ch.outs ++ [.rfChanRel ch.id false] } := by
  unfold rslRfChanRelease
  rw [if_neg h]
  rfl

/-- A message of the release sequence. -/
def IsRelease (id : ChanId) (out : RadioOut) : Prop :=
  out = .rrRelease id ∨ ∃ linkId reason, out = .releaseRequest id linkId reason

/-- One step of the release sequence sends a message. -/
theorem lchanHandleRelease_eq (h : ch.lchan.state = .relReq) :
    ∃ out, IsRelease ch.id out ∧ ch.lchanHandleRelease = ch.emit out := by
  unfold lchanHandleRelease
  split
  · exact ⟨_, .inr ⟨_, _, rfl⟩, rfl⟩
  · split
    · exact ⟨_, .inl rfl, rfl⟩
    · refine ⟨.releaseRequest ch.id 0 ch.life.releaseReason, .inr ⟨_, _, rfl⟩, ?_⟩
      unfold setState emit
      rw [← h]

theorem lchanRelease_eq (sachDeact : Bool) (reason : Octet) :
    ∃ out, IsRelease ch.id out ∧ ch.lchanRelease sachDeact reason =
      { ch with
        lchan := { ch.lchan with state := .relReq }
        life := { ch.life with conn := none, t10 := false, releaseReason := reason, sachDeact := sachDeact }
        outs := ch.outs ++ [out] } := by
  obtain ⟨out, hout, heq⟩ := lchanHandleRelease_eq ((ch.setState .relReq).setLife fun life =>
    { life with conn := none, t10 := false, releaseReason := reason, sachDeact := sachDeact }) rfl
  exact ⟨out, hout, heq⟩

theorem rslRxChanActAck_lchan (freq : TsFrequency) (chanNr : Octet) :
    (ch.rslRxChanActAck freq chanNr true).lchan = { ch.lchan with state := .active } := by
  unfold rslRxChanActAck
  rw [if_pos rfl]
  cases hrqd : ch.life.rqd with
  | none => simp [setLife, setState, emit, hrqd]
  | some rqd => simp [setLife, setState, emit, rslSendImmAssignment, hrqd]

theorem errorTimeoutCb_eq : ch.errorTimeoutCb =
    { ch with
      lchan := { ch.lchan with state := if ch.lchan.state = .relErr then .none else ch.lchan.state }
      life := { ch.life with errorTimer := false }
      outs := ch.outs ++ [.errorTimeout ch.id] } := by
  unfold errorTimeoutCb
  by_cases h : ch.lchan.state = .relErr
  · rw [if_pos h]
    exact if_neg (not_not.mpr h)
  · rw [if_neg h]
    exact if_pos h

/-- A SAPI is down: T3111 may be started, and the release sequence may go on. -/
theorem sapiReleased_cases (linkId : Octet) :
    ∃ outs, (∀ out ∈ outs, IsRelease ch.id out) ∧ ch.sapiReleased linkId =
      { ch.setSapi linkId 0 with
        life := { ch.life with t3111 := ((ch.setSapi linkId 0).rslHandleRelease).life.t3111 }
        outs := ch.outs ++ outs } ∧
      (ch.life.t3111 = true → ((ch.setSapi linkId 0).rslHandleRelease).life.t3111 = true) := by
  have hhandled : (ch.setSapi linkId 0).rslHandleRelease =
      { ch.setSapi linkId 0 with
        life := { ch.life with t3111 := ((ch.setSapi linkId 0).rslHandleRelease).life.t3111 } } := by
    unfold rslHandleRelease
    split
    · rfl
    · rfl
  have hstarted : ch.life.t3111 = true → ((ch.setSapi linkId 0).rslHandleRelease).life.t3111 = true := by
    intro h
    unfold rslHandleRelease
    split
    · exact h
    · rfl
  unfold sapiReleased rslLchanRllRelease
  split
  · refine ⟨[], List.forall_mem_nil _, ?_, hstarted⟩
    rw [List.append_nil]
    exact hhandled
  · rename_i hgoes
    rw [not_or, not_not] at hgoes
    obtain ⟨out, hout, heq⟩ := lchanHandleRelease_eq _ hgoes.1
    rw [hhandled] at hout
    refine ⟨[out], fun o ho => List.mem_singleton.mp ho ▸ hout, ?_, hstarted⟩
    rw [heq, hhandled]
    rfl

end RadioChan

/-! ## Channels of a BTS -/

section Bts

variable (bts : GsmBts)

theorem get?_modifyTs (i k : Nat) (j : Fin 8) (f : GsmBtsTrxTs → GsmBtsTrxTs) :
    (bts.modifyTs i j f).trxList[k]? =
      (bts.trxList[k]?).map fun trx =>
        if k = i then { trx with ts := trx.ts.set j.val (f (trx.ts.get j)) j.isLt } else trx := by
  unfold GsmBts.modifyTs
  rw [List.getElem?_modify]
  by_cases hik : i = k
  · subst hik
    simp
  · simp [hik, Ne.symm hik]

/-- A timeslot is changed; its channels stay what they are. -/
theorem GsmBts.lchan?_modifyTs (i : Nat) (j : Fin 8) (f : GsmBtsTrxTs → GsmBtsTrxTs)
    (hf : ∀ ts, (f ts).lchan = ts.lchan) (r : LchanRef) : (bts.modifyTs i j f).lchan? r = bts.lchan? r := by
  unfold GsmBts.lchan?
  rw [get?_modifyTs, map_map]
  congr 1
  funext trx
  by_cases htrx : r.trx = i
  · by_cases hts : r.ts = j
    · subst hts
      simp [htrx, vector_get, hf]
    · have hne : j.val ≠ r.ts.val := fun heq => hts (Fin.ext heq.symm)
      simp [htrx, vector_get, Vector.getElem_set_ne _ _ hne]
  · simp [htrx]

/-- One channel is changed. -/
theorem GsmBts.lchan?_modifyLchan (ref : LchanRef) (f : GsmLchan → GsmLchan) (r : LchanRef) :
    (bts.modifyLchan ref f).lchan? r = if r = ref then (bts.lchan? r).map f else bts.lchan? r := by
  unfold GsmBts.modifyLchan GsmBts.lchan?
  rw [get?_modifyTs]
  obtain ⟨i, j, ss⟩ := ref
  obtain ⟨i', j', ss'⟩ := r
  simp only [LchanRef.mk.injEq]
  by_cases htrx : i' = i
  · by_cases hts : j' = j
    · by_cases hss : ss' = ss
      · subst htrx hts hss
        simp [vector_get, GsmBtsTrxTs.modifyLchan, Function.comp_def]
      · have hne : ss.val ≠ ss'.val := fun heq => hss (Fin.ext heq.symm)
        subst htrx hts
        simp [hss, vector_get, GsmBtsTrxTs.modifyLchan, Function.comp_def, Vector.getElem_set_ne _ _ hne]
    · have hne : j.val ≠ j'.val := fun heq => hts (Fin.ext heq.symm)
      simp [htrx, hts, vector_get, Function.comp_def, Vector.getElem_set_ne _ _ hne]
  · simp [htrx]

/-- The combination of a timeslot that is changed. -/
theorem GsmBts.pchan?_modifyTs (i k : Nat) (j l : Fin 8) (f : GsmBtsTrxTs → GsmBtsTrxTs) :
    (bts.modifyTs i j f).pchan? k l =
      (bts.trxList[k]?).map fun trx => if k = i ∧ l = j then (f (trx.ts.get j)).pchan else (trx.ts.get l).pchan := by
  unfold GsmBts.pchan?
  rw [get?_modifyTs, map_map]
  congr 1
  funext trx
  by_cases htrx : k = i
  · by_cases hts : l = j
    · subst hts
      simp [htrx, vector_get]
    · have hne : j.val ≠ l.val := fun heq => hts (Fin.ext heq.symm)
      simp [htrx, hts, vector_get, Vector.getElem_set_ne _ _ hne]
  · simp [htrx]

/-- No combination changes with a channel. -/
theorem GsmBts.pchan?_modifyLchan (ref : LchanRef) (f : GsmLchan → GsmLchan) (k : Nat) (l : Fin 8) :
    (bts.modifyLchan ref f).pchan? k l = bts.pchan? k l := by
  unfold GsmBts.modifyLchan
  rw [GsmBts.pchan?_modifyTs]
  unfold GsmBts.pchan?
  congr 1
  funext trx
  by_cases h : k = ref.trx ∧ l = ref.ts
  · simp [h, GsmBtsTrxTs.modifyLchan]
  · simp [h]

end Bts

/-! ## The allocator -/

variable {bts : GsmBts} {s : Search}

/-- A channel that `lchan_alloc` may return: it is free, or the first one of a timeslot without a combination, which
    nobody looks at. -/
def Takeable (bts : GsmBts) (ref : LchanRef) : Prop :=
  ∃ lc, bts.lchan? ref = some lc ∧ (lc.isFree = true ∨ bts.pchan? ref.trx ref.ts = some .none ∧ ref.ss.val = 0)

/-- The combinations stay, but for timeslots that had none. -/
def CombinationsKept (bts bts' : GsmBts) : Prop :=
  ∀ i j pchan, bts.pchan? i j = some pchan → pchan ≠ .none → bts'.pchan? i j = some pchan

/-- The channel is one of those its combination has. -/
def Combined (bts : GsmBts) (ref : LchanRef) : Prop :=
  ∃ pchan, bts.pchan? ref.trx ref.ts = some pchan ∧ ref.ss.val < subslotsPerPchan pchan

/-- **What a search may find and change.** -/
inductive Searched (bts : GsmBts) (s : Search) : Prop where
  | found {ref : LchanRef} (hlchan : s.lchan = some ref) (htakeable : Takeable bts ref) (htype : s.type ≠ .none)
      (hcombined : Combined s.bts ref) (hsame : ∀ r, s.bts.lchan? r = bts.lchan? r)
      (hkept : CombinationsKept bts s.bts)
  | nothing (hlchan : s.lchan = none) (hbts : s.bts = bts)

theorem CombinationsKept.refl (bts : GsmBts) : CombinationsKept bts bts := fun _ _ _ h _ => h

variable {pchan : PhysChanConfig}

/-- A timeslot that is considered has as many channels as the combination that is looked for. -/
theorem subslots_of_considers {ts : GsmBtsTrxTs} (h : considers ts pchan = true) :
    subslotsPerPchan ts.pchan = subslotsPerPchan pchan := by
  unfold considers at h
  split at h
  case isTrue hdynamic => rw [hdynamic.1, hdynamic.2]; rfl
  case isFalse => rw [beq_iff_eq.mp h]

theorem pchan?_of_get {i : Nat} {trx : GsmBtsTrx} (h : bts.trxList[i]? = some trx) (j : Fin 8) :
    bts.pchan? i j = some (trx.ts.get j).pchan := by
  unfold GsmBts.pchan?
  rw [h]
  rfl

theorem lchan?_of_get {ref : LchanRef} {trx : GsmBtsTrx} (h : bts.trxList[ref.trx]? = some trx) :
    bts.lchan? ref = some ((trx.ts.get ref.ts).lchan.get ref.ss) := by
  unfold GsmBts.lchan?
  rw [h]
  rfl

/-- One more combination is tried. -/
theorem Searched.orFind (h : Searched bts s) {type : GsmChan} (htype : type ≠ .none)
    (hslots : 0 < subslotsPerPchan pchan) : Searched bts (s.orFind pchan type) := by
  cases h with
  | found hlchan htakeable hknown hcombined hsame hkept =>
    have hdone : s.orFind pchan type = s := by
      unfold Search.orFind
      rw [hlchan]
    rw [hdone]
    exact .found hlchan htakeable hknown hcombined hsame hkept
  | nothing hlchan hbts =>
    have hcases := lcFindBts_cases bts pchan
    unfold Search.orFind
    rw [hlchan, hbts]
    simp only
    generalize lcFindBts bts pchan = found at hcases
    cases hcases with
    | @found ref trx hfree =>
      have hget := hfree.inService.get
      have hsub : ref.ss.val < subslotsPerPchan (trx.ts.get ref.ts).pchan := by
        rw [subslots_of_considers hfree.considered]
        exact hfree.subslot
      exact .found rfl ⟨_, lchan?_of_get hget, .inl hfree.free⟩ htype ⟨_, pchan?_of_get hget ref.ts, hsub⟩
        (fun _ => rfl) (CombinationsKept.refl bts)
    | @taken i j trx hunassigned =>
      have hget := hunassigned.inService.get
      have hnone : bts.pchan? i j = some .none := by
        rw [pchan?_of_get hget, hunassigned.unassigned]
      refine .found rfl ⟨_, lchan?_of_get hget, .inr ⟨hnone, rfl⟩⟩ htype ⟨pchan, ?_, hslots⟩ ?_ ?_
      · show (bts.modifyTs i j fun ts => { ts with pchan := pchan }).pchan? i j = some pchan
        rw [GsmBts.pchan?_modifyTs, hget]
        simp
      · intro r
        exact bts.lchan?_modifyTs i j (fun ts => { ts with pchan := pchan }) (fun _ => rfl) r
      · intro k l q hq hne
        show (bts.modifyTs i j fun ts => { ts with pchan := pchan }).pchan? k l = some q
        rw [GsmBts.pchan?_modifyTs]
        -- the timeslot that was taken had no combination
        have hother : ¬(k = i ∧ l = j) := by
          rintro ⟨rfl, rfl⟩
          rw [hnone] at hq
          exact hne (some.inj hq).symm
        simp only [hother, if_false]
        exact hq
    | exhausted => exact .nothing rfl rfl

/-- **The search of `lchan_alloc`.** -/
theorem searched_lchanSearch (bts : GsmBts) (type : GsmChan) (allowBigger : Bool) :
    Searched bts (lchanSearch bts type allowBigger) := by
  have hstart : Searched bts { bts := bts, type := type } := .nothing rfl rfl
  cases type with
  | sdcch =>
    have hsmall : ∀ first second, 0 < subslotsPerPchan first → 0 < subslotsPerPchan second →
        Searched bts ((Search.orFind { bts := bts, type := .sdcch } first .sdcch).orFind second .sdcch) :=
      fun first second hfirst hsecond => (hstart.orFind (by decide) hfirst).orFind (by decide) hsecond
    unfold lchanSearch
    cases bts.chanAllocReverse with
    | true =>
      have hsmall := hsmall .sdcch8Sacch8c .ccchSdcch4 (by decide) (by decide)
      cases allowBigger with
      | true => exact (hsmall.orFind (by decide) (by decide)).orFind (by decide) (by decide)
      | false => exact hsmall
    | false =>
      have hsmall := hsmall .ccchSdcch4 .sdcch8Sacch8c (by decide) (by decide)
      cases allowBigger with
      | true => exact (hsmall.orFind (by decide) (by decide)).orFind (by decide) (by decide)
      | false => exact hsmall
  | tchF => exact hstart.orFind (by decide) (by decide)
  | tchH => exact (hstart.orFind (by decide) (by decide)).orFind (by decide) (by decide)
  | none | unknown => exact hstart

/-- **What `lchan_alloc` does to the channels of the BTS.** -/
inductive AllocDone (bts : GsmBts) (s : Search) : Prop where
  | found {ref : LchanRef} {lc : GsmLchan} (hlchan : s.lchan = some ref) (hget : bts.lchan? ref = some lc)
      (htakeable : lc.isFree = true ∨ bts.pchan? ref.trx ref.ts = some .none ∧ ref.ss.val = 0) (htype : s.type ≠ .none)
      (hsame : ∀ r, s.bts.lchan? r = if r = ref then some (lc.allocate s.type) else bts.lchan? r)
      (hcombined : Combined s.bts ref) (hkept : CombinationsKept bts s.bts)
  | nothing (hlchan : s.lchan = none) (hbts : s.bts = bts)

theorem allocDone_lchanAlloc (bts : GsmBts) (type : GsmChan) (allowBigger : Bool) :
    AllocDone bts (lchanAlloc bts type allowBigger) := by
  have hsearched := searched_lchanSearch bts type allowBigger
  unfold lchanAlloc
  generalize lchanSearch bts type allowBigger = s at hsearched
  cases hsearched with
  | @found ref hlchan htakeable htype hcombined hsame hkept =>
    obtain ⟨lc, hget, htakeable⟩ := htakeable
    simp only [hlchan]
    refine .found rfl hget htakeable htype ?_ ?_ ?_
    · intro r
      show (s.bts.modifyLchan ref (GsmLchan.allocate s.type)).lchan? r = _
      rw [GsmBts.lchan?_modifyLchan, hsame]
      by_cases hr : r = ref
      · subst hr
        rw [if_pos rfl, if_pos rfl, hget]
        rfl
      · rw [if_neg hr, if_neg hr]
    · obtain ⟨pchan, hpchan, hsub⟩ := hcombined
      refine ⟨pchan, ?_, hsub⟩
      show (s.bts.modifyLchan ref _).pchan? ref.trx ref.ts = some pchan
      rw [GsmBts.pchan?_modifyLchan]
      exact hpchan
    · intro i j pchan hpchan hne
      show (s.bts.modifyLchan ref _).pchan? i j = some pchan
      rw [GsmBts.pchan?_modifyLchan]
      exact hkept i j pchan hpchan hne
  | nothing hlchan hbts =>
    simp only [hlchan]
    exact .nothing rfl hbts

/-! ## The network -/

variable {net net' : RadioNet} {id i : ChanId} {ch ch' : RadioChan}

theorem of_chan? (h : net.chan? id = some ch) : ch.id = id ∧ ch.life = net.life id ∧ ch.outs = [] ∧
    (net.btss[id.bts]?.bind fun bts => bts.lchan? id.ref) = some ch.lchan := by
  obtain ⟨lchan, hlchan, rfl⟩ := map_eq_some_iff.mp h
  exact ⟨rfl, rfl, rfl, hlchan⟩

/-- **A handler changes its channel, and no other.** -/
theorem chan?_put (h : net.chan? id = some ch) (ch' : RadioChan) (i : ChanId) :
    (net.put id ch').chan? i =
      if i = id then some { id := id, lchan := ch'.lchan, life := ch'.life } else net.chan? i := by
  obtain ⟨-, -, -, hlchan⟩ := of_chan? h
  have hget : ((net.put id ch').btss[i.bts]?.bind fun bts => bts.lchan? i.ref) =
      if i = id then some ch'.lchan else net.btss[i.bts]?.bind fun bts => bts.lchan? i.ref := by
    show ((net.btss.modify id.bts fun bts => bts.modifyLchan id.ref fun _ => ch'.lchan)[i.bts]?.bind _) = _
    rw [List.getElem?_modify]
    obtain ⟨b, ref⟩ := id
    obtain ⟨b', ref'⟩ := i
    simp only [ChanId.mk.injEq] at hlchan ⊢
    by_cases hb : b' = b
    · subst hb
      obtain ⟨bts, hbts, hlchan⟩ := bind_eq_some_iff.mp hlchan
      simp only [hbts, if_true, map_eq_map, map_some, bind_some, true_and]
      rw [GsmBts.lchan?_modifyLchan]
      by_cases href : ref' = ref
      · subst href
        rw [if_pos rfl, if_pos rfl, hlchan]
        rfl
      · rw [if_neg href, if_neg href]
    · simp [hb, Ne.symm hb]
  unfold chan?
  rw [hget]
  by_cases hi : i = id
  · subst hi
    simp [put]
  · simp [hi, put]

/-- The combination of the timeslot of a channel. -/
def RadioNet.pchan? (net : RadioNet) (id : ChanId) : Option PhysChanConfig :=
  net.btss[id.bts]?.bind fun bts => bts.pchan? id.ref.trx id.ref.ts

/-- The channel is one of those its combination has. -/
def RadioNet.Combined (net : RadioNet) (id : ChanId) : Prop :=
  ∃ pchan, net.pchan? id = some pchan ∧ id.ref.ss.val < subslotsPerPchan pchan

theorem Combined.ne_none {ss : Fin 8} (h : ss.val < subslotsPerPchan pchan) : pchan ≠ .none := by
  rintro rfl
  exact absurd h (Nat.not_lt_zero _)

theorem pchan?_put (net : RadioNet) (id : ChanId) (ch : RadioChan) (i : ChanId) :
    (net.put id ch).pchan? i = net.pchan? i := by
  unfold pchan?
  show ((net.btss.modify id.bts fun bts => bts.modifyLchan id.ref fun _ => ch.lchan)[i.bts]?.bind _) = _
  rw [List.getElem?_modify]
  cases net.btss[i.bts]? with
  | none => rfl
  | some bts =>
    by_cases hb : id.bts = i.bts
    · simp [hb, GsmBts.pchan?_modifyLchan]
    · simp [hb]

/-- **What `lchan_alloc` does to the channels of the network.** It changes the type of the channel it returns; where it
    returns none it changes nothing. -/
inductive NetAlloc (net : RadioNet) (b : Nat) : RadioNet × Option ChanId → Prop where
  | found {net' : RadioNet} {id : ChanId} {ch : RadioChan} {type : GsmChan} (hb : id.bts = b)
      (hget : net.chan? id = some ch)
      (htakeable : ch.lchan.isFree = true ∨ net.pchan? id = some .none ∧ id.ref.ss.val = 0) (htype : type ≠ .none)
      (hchan : ∀ i, net'.chan? i = if i = id then some { ch with lchan := ch.lchan.allocate type } else net.chan? i)
      (hcombined : net'.Combined id) (hkept : ∀ i, net.Combined i → net'.Combined i)
      (hrest : net' = { net with btss := net'.btss }) : NetAlloc net b (net', some id)
  | nothing : NetAlloc net b (net, none)

theorem netAlloc {b : Nat} {bts : GsmBts} (hb : net.btss[b]? = some bts) (type : GsmChan) (allowBigger : Bool) :
    NetAlloc net b (net.lchanAlloc b bts type allowBigger) := by
  have hdone := allocDone_lchanAlloc bts type allowBigger
  unfold RadioNet.lchanAlloc
  generalize Libbsc.lchanAlloc bts type allowBigger = s at hdone
  have hlt : b < net.btss.length := (List.getElem?_eq_some_iff.mp hb).1
  -- the BTS at an index after the allocation
  have hset : ∀ b', (net.btss.set b s.bts)[b']? = if b' = b then some s.bts else net.btss[b']? := by
    intro b'
    rw [List.getElem?_set]
    by_cases hbb : b = b'
    · subst hbb
      simp [hlt]
    · simp [hbb, Ne.symm hbb]
  cases hdone with
  | @found ref lc hlchan hget htakeable htype hsame hcombined hkept =>
    have hchan : net.chan? ⟨b, ref⟩ = some { id := ⟨b, ref⟩, lchan := lc, life := net.life ⟨b, ref⟩ } := by
      unfold chan?
      rw [hb, bind_some, hget]
      rfl
    have hpchan : ∀ i : ChanId, ({ net with btss := net.btss.set b s.bts } : RadioNet).pchan? i =
        if i.bts = b then s.bts.pchan? i.ref.trx i.ref.ts else net.pchan? i := by
      intro i
      show ((net.btss.set b s.bts)[i.bts]?.bind _) = _
      rw [hset]
      by_cases hi : i.bts = b
      · simp [hi]
      · simp [hi, pchan?]
    simp only [hlchan, map_some]
    refine .found rfl hchan ?_ htype ?_ ?_ ?_ rfl
    · refine htakeable.imp_right fun h => ⟨?_, h.2⟩
      unfold pchan?
      rw [hb, bind_some]
      exact h.1
    · rintro ⟨b', r⟩
      unfold chan?
      show ((net.btss.set b s.bts)[b']?.bind _).map _ = _
      rw [hset]
      simp only [ChanId.mk.injEq]
      by_cases hbb : b' = b
      · subst hbb
        rw [if_pos rfl, bind_some, hsame, hb, bind_some]
        by_cases hr : r = ref
        · subst hr
          simp
        · simp [hr]
      · simp [hbb]
    · obtain ⟨pchan, hp, hsub⟩ := hcombined
      refine ⟨pchan, ?_, hsub⟩
      rw [hpchan, if_pos rfl]
      exact hp
    · rintro i ⟨pchan, hp, hsub⟩
      refine ⟨pchan, ?_, hsub⟩
      rw [hpchan]
      by_cases hi : i.bts = b
      · rw [if_pos hi]
        unfold pchan? at hp
        rw [hi, hb, bind_some] at hp
        exact hkept _ _ _ hp (Combined.ne_none hsub)
      · rw [if_neg hi]
        exact hp
  | nothing hlchan hbts =>
    have hsame : net.btss.set b s.bts = net.btss := by
      refine List.ext_getElem? fun b' => ?_
      rw [hset, hbts]
      by_cases hbb : b' = b
      · rw [if_pos hbb, hbb, hb]
      · rw [if_neg hbb]
    simp only [hlchan, map_none, hsame]
    exact .nothing

/-- The equipment changes in a way that no channel and no combination does. -/
structure Kept (net net' : RadioNet) : Prop where
  chan : ∀ i, net'.chan? i = net.chan? i
  combined : ∀ i, net.Combined i → net'.Combined i
  outs : net'.outs = net.outs
  next : net'.next = net.next

theorem Kept.refl (net : RadioNet) : Kept net net := ⟨fun _ => rfl, fun _ h => h, rfl, rfl⟩

theorem kept_modifyBts (net : RadioNet) (b : Nat) {f : GsmBts → GsmBts}
    (hlchan : ∀ bts r, (f bts).lchan? r = bts.lchan? r)
    (hpchan : ∀ bts k l, (f bts).pchan? k l = bts.pchan? k l) : Kept net (net.modifyBts b f) := by
  refine ⟨fun i => ?_, fun i => ?_, rfl, rfl⟩
  · unfold chan?
    show ((net.btss.modify b f)[i.bts]?.bind _).map _ = _
    rw [List.getElem?_modify]
    cases net.btss[i.bts]? with
    | none => rfl
    | some bts => by_cases hb : b = i.bts <;> simp [hb, hlchan, modifyBts]
  · rintro ⟨pchan, hp, hsub⟩
    refine ⟨pchan, ?_, hsub⟩
    rw [← hp]
    unfold pchan?
    show ((net.btss.modify b f)[i.bts]?.bind _) = _
    rw [List.getElem?_modify]
    cases net.btss[i.bts]? with
    | none => rfl
    | some bts => by_cases hb : b = i.bts <;> simp [hb, hpchan]

theorem trxReset_keeps {I : RadioNet → Prop}
    (hreset : ∀ net id ch, I net → net.chan? id = some ch → I (net.put id ch.trxReset)) (b trx : Nat) (h : I net) :
    I (net.trxReset b trx) := by
  unfold trxReset
  generalize trxChannels b trx = ids
  induction ids generalizing net with
  | nil => exact h
  | cons id ids ih =>
    refine ih ?_
    show I ((net.on id RadioChan.trxReset).getD net)
    unfold on
    cases hget : net.chan? id with
    | none => exact h
    | some ch => exact hreset net id ch h hget

/-! ## Steps -/

/-- The channel that `lchan_alloc` returns in a step. -/
def RadioNet.allocated? (net : RadioNet) : RadioEvent → Option ChanId
  | .chanRqd b data =>
    net.btss[b]?.bind fun bts => (parseChanRqd data).bind fun (ref, _) =>
      (net.allocForRqd b bts ref).2
  | .assign b type _ _ | .handover b type _ _ => net.btss[b]?.bind fun bts => (net.lchanAlloc b bts type false).2
  | _ => none

/-- **What the handlers make of a channel.** -/
inductive Handled (net : RadioNet) : RadioEvent → RadioChan → RadioChan → Prop where
  | rsl {b trx : Nat} {chanNr : Octet} {ch : RadioChan} (msg : RslMsg) (h : lookup b trx chanNr = some ch.id) :
      Handled net (.rsl b trx chanNr msg) ch (ch.receive (net.freqOf ch.id) (net.chanNr ch.id) msg)
  | newConn {ch : RadioChan} (c : Nat) (hstate : ch.lchan.state = .active) (hconn : ch.life.conn = none) :
      Handled net (.newConn ch.id c) ch (ch.setLife fun life => { life with conn := some c })
  | giveUp (ch : RadioChan) :
      Handled net (.giveUp ch.id) ch (ch.setLife fun life => { life with conn := none, t10 := false })
  | release (ch : RadioChan) (sachDeact : Bool) (reason : Octet) :
      Handled net (.release ch.id sachDeact reason) ch (ch.lchanRelease sachDeact reason)
  | t10Stopped (ch : RadioChan) : Handled net (.t10Stopped ch.id) ch (ch.setLife fun life => { life with t10 := false })
  | t10 {ch : RadioChan} (h : ch.life.t10 = true) : Handled net (.t10 ch.id) ch ch.assignmentT10Timeout
  | actTimer {ch : RadioChan} (h : ch.life.actTimer.isSome = true) : Handled net (.actTimer ch.id) ch ch.lchanActTmrCb
  | t3101 {ch : RadioChan} (h : ch.life.t3101 = true) : Handled net (.t3101 ch.id) ch ch.t3101Expired
  | t3111 {ch : RadioChan} (h : ch.life.t3111 = true) : Handled net (.t3111 ch.id) ch ch.t3111Expired
  | errorTimer {ch : RadioChan} (h : ch.life.errorTimer = true) : Handled net (.errorTimer ch.id) ch ch.errorTimeoutCb

/-- A channel that was allocated, and what its activation makes of it. -/
structure Activated (net net' : RadioNet) (id : ChanId) (ch : RadioChan) (type : GsmChan) (f : RadioChan → RadioChan) :
    Prop where
  get : net.chan? id = some ch
  takeable : ch.lchan.isFree = true ∨ net.pchan? id = some .none ∧ id.ref.ss.val = 0
  known : type ≠ .none
  chan : ∀ i, net'.chan? i =
    if i = id then some { f { ch with lchan := ch.lchan.allocate type } with id := id, outs := [] } else net.chan? i
  combined : net'.Combined id
  kept : ∀ i, net.Combined i → net'.Combined i

/-- The event may leave every channel and the log as they are: it allocates a channel, but not for a request, or it
    changes the equipment. -/
def RadioEvent.mayBeQuiet : RadioEvent → Bool
  | .chanRqd _ data => (parseChanRqd data).isNone
  | .assign .. | .handover .. | .nmTrx .. | .nmTs .. | .pdch .. => true
  | _ => false

/-- **What one event does.** -/
inductive Stepped (net : RadioNet) : RadioEvent → RadioNet → Prop where
  | handled {ev : RadioEvent} {ch ch' : RadioChan} (hget : net.chan? ch.id = some ch) (h : Handled net ev ch ch') :
      Stepped net ev (net.put ch.id ch')
  | quiet {ev : RadioEvent} {net' : RadioNet} (h : Kept net net') (hev : ev.mayBeQuiet = true)
      (halloc : net.allocated? ev = none) : Stepped net ev net'
  | reset {b trx : Nat} : Stepped net (.trxReset b trx) (net.trxReset b trx)
  | rejected {b : Nat} {data : List Octet} {ref : ReqRef} {ta : Octet} {net' : RadioNet}
      (halloc : net.allocated? (.chanRqd b data) = none) (hparse : parseChanRqd data = some (ref, ta))
      (hchan : ∀ i, net'.chan? i = net.chan? i) (hcombined : ∀ i, net.Combined i → net'.Combined i)
      (hnext : net'.next = net.next + 1)
      (houts : net'.outs = net.outs ++ .chanRqd net.next b ref ta ::
        if net.t3122 = 0 then [] else
          [.immAssRej net.next b (immAssReject ref (UInt8.ofNat net.t3122)).1
            (immAssReject ref (UInt8.ofNat net.t3122)).2]) :
      Stepped net (.chanRqd b data) net'
  | requested {data : List Octet} {ref : ReqRef} {ta : Octet} {id : ChanId} {ch : RadioChan} {type : GsmChan}
      {net' : RadioNet} (halloc : net.allocated? (.chanRqd id.bts data) = some id)
      (hparse : parseChanRqd data = some (ref, ta))
      (h : Activated net net' id ch type fun ch => ch.activateForRqd ⟨net.next, ref, ta⟩)
      (hnext : net'.next = net.next + 1)
      (houts : net'.outs =
        net.outs ++ [.chanRqd net.next id.bts ref ta, .allocated id (some net.next), .chanActiv id]) :
      Stepped net (.chanRqd id.bts data) net'
  | activated {ev : RadioEvent} {c : Nat} {t10 sent : Bool} {id : ChanId} {ch : RadioChan} {type type' : GsmChan}
      {net' : RadioNet} (hev : ev = (if t10 then .assign id.bts type' c sent else .handover id.bts type' c sent))
      (halloc : net.allocated? ev = some id) (h : Activated net net' id ch type fun ch => ch.activateForConn c t10 sent)
      (hnext : net'.next = net.next)
      (houts : net'.outs = net.outs ++ .allocated id none ::
        ({ ch with lchan := ch.lchan.allocate type : RadioChan }.activateForConn c t10 sent).outs) :
      Stepped net ev net'

variable {f : RadioChan → RadioChan}

theorem of_on (h : net.on id f = some net') :
    ∃ ch, net.chan? ch.id = some ch ∧ ch.id = id ∧ net' = net.put ch.id (f ch) := by
  obtain ⟨ch, hget, rfl⟩ := map_eq_some_iff.mp h
  obtain ⟨rfl, -⟩ := of_chan? hget
  exact ⟨ch, hget, rfl, rfl⟩

theorem of_onTimer {running : LchanLife → Bool} (h : net.onTimer id running f = some net') :
    ∃ ch, net.chan? ch.id = some ch ∧ ch.id = id ∧ running ch.life = true ∧ net' = net.put ch.id (f ch) := by
  unfold onTimer at h
  split at h
  case isTrue hrunning =>
    obtain ⟨ch, hget, hid, rfl⟩ := of_on h
    refine ⟨ch, hget, hid, ?_, rfl⟩
    rw [(of_chan? hget).2.1, hid]
    exact hrunning
  case isFalse => cases h

theorem kept_nmTrx (net : RadioNet) (b i : Nat) (state bbTransc : NmState) :
    Kept net (net.modifyBts b fun bts =>
      { bts with trxList := bts.trxList.modify i fun t => { t with nmState := state, bbTransc := bbTransc } }) := by
  refine kept_modifyBts net b ?_ ?_
  · intro bts r
    unfold GsmBts.lchan?
    rw [List.getElem?_modify]
    cases bts.trxList[r.trx]? with
    | none => rfl
    | some trx => by_cases hi : i = r.trx <;> simp [hi]
  · intro bts k l
    unfold GsmBts.pchan?
    rw [List.getElem?_modify]
    cases bts.trxList[k]? with
    | none => rfl
    | some trx => by_cases hi : i = k <;> simp [hi]

theorem kept_modifyTs (net : RadioNet) (b i : Nat) (j : Fin 8) {f : GsmBtsTrxTs → GsmBtsTrxTs}
    (hlchan : ∀ ts, (f ts).lchan = ts.lchan) (hpchan : ∀ ts, (f ts).pchan = ts.pchan) :
    Kept net (net.modifyBts b fun bts => bts.modifyTs i j f) := by
  refine kept_modifyBts net b (fun bts r => bts.lchan?_modifyTs i j f hlchan r) ?_
  intro bts k l
  rw [GsmBts.pchan?_modifyTs]
  unfold GsmBts.pchan?
  congr 1
  funext trx
  by_cases h : k = i ∧ l = j
  · rw [if_pos h, hpchan, h.2]
  · rw [if_neg h]

theorem combined_put {id : ChanId} {ch : RadioChan} (h : net.Combined i) : (net.put id ch).Combined i := by
  obtain ⟨pchan, hp, hsub⟩ := h
  refine ⟨pchan, ?_, hsub⟩
  rw [pchan?_put]
  exact hp

/-- A handler works on the channel that was allocated. -/
theorem activated_of_on {b : Nat} {net1 : RadioNet} (halloc : NetAlloc net b (net1, some id)) {out : RadioOut}
    (h : (net1.emit out).on id f = some net') :
    ∃ ch type, id.bts = b ∧ Activated net net' id ch type f ∧ net'.next = net.next ∧
      net'.outs = net.outs ++ out :: (f { ch with lchan := ch.lchan.allocate type }).outs := by
  cases halloc with
  | @found _ _ ch type hb hget htakeable htype hchan hcombined hkept hrest =>
    obtain ⟨ch1, hget1, hid1, rfl⟩ := of_on h
    have hch1 : { ch with lchan := ch.lchan.allocate type } = ch1 := by
      have hget2 : net1.chan? ch1.id = some ch1 := hget1
      rw [hchan, hid1, if_pos rfl] at hget2
      exact some.inj hget2
    subst hch1
    have hnext : net1.next = net.next := by rw [hrest]
    have houts : net1.outs = net.outs := by rw [hrest]
    refine ⟨ch, type, hb, ⟨hget, htakeable, htype, ?_, ?_, ?_⟩, hnext, ?_⟩
    · intro i
      rw [chan?_put hget1]
      show (if i = ch.id then _ else net1.chan? i) = _
      rw [hchan, (show ch.id = id from hid1)]
      by_cases hi : i = id
      · rw [if_pos hi, if_pos hi]
      · rw [if_neg hi, if_neg hi, if_neg hi]
    · exact combined_put hcombined
    · exact fun i hi => combined_put (hkept i hi)
    · show (net1.outs ++ [out]) ++ _ = _
      rw [houts, List.append_assoc]
      rfl

theorem stepped_chanRqd {b : Nat} {data : List Octet} (h : net.step (.chanRqd b data) = some net') :
    Stepped net (.chanRqd b data) net' := by
  obtain ⟨bts, hb, h⟩ := bind_eq_some_iff.mp h
  cases hparse : parseChanRqd data with
  | none =>
    rw [hparse] at h
    cases h
    exact .quiet (Kept.refl net) (isNone_iff_eq_none.mpr hparse) (by simp [allocated?, hparse, hb])
  | some found =>
    obtain ⟨ref, ta⟩ := found
    rw [hparse] at h
    have h : net.rslRxChanRqd b bts ref ta = some net' := h
    -- the message is counted before a channel is looked for
    have hwhole : net.allocated? (.chanRqd b data) = ((net.chanRqdCame b ref ta).allocForRqd b bts ref).2 := by
      show (net.btss[b]?.bind _) = _
      rw [hb, bind_some, hparse]
      rfl
    have hcame : (net.chanRqdCame b ref ta).btss[b]? = some bts := hb
    have hnet : NetAlloc (net.chanRqdCame b ref ta) b ((net.chanRqdCame b ref ta).allocForRqd b bts ref) :=
      netAlloc hcame _ _
    unfold rslRxChanRqd at h
    generalize (net.chanRqdCame b ref ta).allocForRqd b bts ref = found at hnet hwhole h
    obtain ⟨net1, id?⟩ := found
    cases id? with
    | none =>
      cases hnet
      cases h
      by_cases ht3122 : net.t3122 = 0
      · have hquiet : (net.chanRqdCame b ref ta).rejectRqd net.next b ref = net.chanRqdCame b ref ta := if_pos ht3122
        rw [hquiet]
        refine .rejected hwhole hparse (fun _ => rfl) (fun _ hi => hi) rfl ?_
        rw [if_pos ht3122]
        rfl
      · have htold : (net.chanRqdCame b ref ta).rejectRqd net.next b ref = (net.chanRqdCame b ref ta).emit
            (.immAssRej net.next b (immAssReject ref (UInt8.ofNat net.t3122)).1
              (immAssReject ref (UInt8.ofNat net.t3122)).2) := if_neg ht3122
        rw [htold]
        refine .rejected hwhole hparse (fun _ => rfl) (fun _ hi => hi) rfl ?_
        rw [if_neg ht3122]
        exact List.append_assoc _ _ _
    | some id =>
      obtain ⟨ch, type', rfl, hactivated, hnext, houts⟩ := activated_of_on hnet h
      refine .requested hwhole hparse ⟨hactivated.get, hactivated.takeable, hactivated.known, hactivated.chan,
        hactivated.combined, hactivated.kept⟩ hnext ?_
      obtain ⟨hid, -, hnone, -⟩ := of_chan? hactivated.get
      rw [houts]
      show (net.outs ++ [_]) ++ _ :: (ch.outs ++ [RadioOut.chanActiv ch.id]) = _
      rw [hnone, hid, List.append_assoc]
      rfl

theorem stepped_activate {ev : RadioEvent} {b c : Nat} {type : GsmChan} {t10 sent : Bool} {bts : GsmBts}
    (hev : ev = if t10 then .assign b type c sent else .handover b type c sent) (hb : net.btss[b]? = some bts)
    (h : net.activate b bts type c t10 sent = some net') : Stepped net ev net' := by
  have hwhole : net.allocated? ev = (net.lchanAlloc b bts type false).2 := by
    cases t10 with
    | true | false =>
      subst hev
      show (net.btss[b]?.bind _) = _
      rw [hb, bind_some]
  have hnet := netAlloc hb type false
  unfold activate at h
  generalize net.lchanAlloc b bts type false = found at hnet hwhole h
  obtain ⟨net1, id?⟩ := found
  cases id? with
  | none =>
    cases hnet
    cases h
    refine .quiet (Kept.refl net) ?_ hwhole
    subst hev
    cases t10 with
    | true => rfl
    | false => rfl
  | some id =>
    obtain ⟨ch, type', rfl, hactivated, hnext, houts⟩ := activated_of_on hnet h
    exact .activated hev hwhole hactivated hnext houts

/-- **Every event does one of these.** -/
theorem stepped_of_step {ev : RadioEvent} (h : net.step ev = some net') : Stepped net ev net' := by
  cases ev with
  | chanRqd b data => exact stepped_chanRqd h
  | rsl b trx chanNr msg =>
    obtain ⟨id, hid, h⟩ := bind_eq_some_iff.mp h
    obtain ⟨ch, hget, rfl, rfl⟩ := of_on h
    exact .handled hget (.rsl msg hid)
  | assign | handover =>
    obtain ⟨bts, hb, h⟩ := bind_eq_some_iff.mp h
    exact stepped_activate rfl hb h
  | newConn id c =>
    obtain ⟨ch, hget, h⟩ := bind_eq_some_iff.mp h
    obtain ⟨rfl, -⟩ := of_chan? hget
    split at h
    case isTrue hfree =>
      obtain rfl := some.inj h
      exact .handled hget (.newConn c hfree.1 hfree.2)
    case isFalse => cases h
  | giveUp id =>
    obtain ⟨ch, hget, rfl, rfl⟩ := of_on h
    exact .handled hget (.giveUp ch)
  | release id sachDeact reason =>
    obtain ⟨ch, hget, rfl, rfl⟩ := of_on h
    exact .handled hget (.release ch sachDeact reason)
  | t10Stopped id =>
    obtain ⟨ch, hget, rfl, rfl⟩ := of_on h
    exact .handled hget (.t10Stopped ch)
  | t10 id =>
    obtain ⟨ch, hget, rfl, hrunning, rfl⟩ := of_onTimer h
    exact .handled hget (.t10 hrunning)
  | actTimer id =>
    have h : net.onTimer id (fun life => life.actTimer.isSome) RadioChan.lchanActTmrCb = some net' := h
    obtain ⟨ch, hget, rfl, hrunning, rfl⟩ := of_onTimer h
    exact .handled hget (.actTimer hrunning)
  | t3101 id =>
    obtain ⟨ch, hget, rfl, hrunning, rfl⟩ := of_onTimer h
    exact .handled hget (.t3101 hrunning)
  | t3111 id =>
    obtain ⟨ch, hget, rfl, hrunning, rfl⟩ := of_onTimer h
    exact .handled hget (.t3111 hrunning)
  | errorTimer id =>
    obtain ⟨ch, hget, rfl, hrunning, rfl⟩ := of_onTimer h
    exact .handled hget (.errorTimer hrunning)
  | trxReset b trx =>
    obtain rfl := some.inj h
    exact .reset
  | nmTrx b trx state bbTransc =>
    obtain rfl := some.inj h
    exact .quiet (kept_nmTrx net b trx state bbTransc) rfl rfl
  | nmTs b trx ts state =>
    obtain rfl := some.inj h
    exact .quiet (kept_modifyTs net b trx ts (fun _ => rfl) fun _ => rfl) rfl rfl
  | pdch b trx ts active =>
    obtain rfl := some.inj h
    exact .quiet (kept_modifyTs net b trx ts (fun _ => rfl) fun _ => rfl) rfl rfl

/-! ## A small network -/

/-- One BTS with a control channel and one traffic channel. -/
def smallRadioNet : RadioNet where
  btss := [smallBts]
  freq := fun _ _ _ => { arfcn := 871, tsc := 7 }

/-- The first channel of the small network, whose number is 0x20. -/
def firstChan : ChanId where
  bts := 0
  ref := ⟨0, lowBits 0, lowBits 0⟩

/-- Networks of idle transceivers have no channel in use. -/
theorem idle_of_btss (hlife : net.life = fun _ => {}) (houts : net.outs = [])
    (hidle : ∀ bts ∈ net.btss, ∀ trx ∈ bts.trxList, ∃ pchans, trx = idleTrx pchans) : net.Idle := by
  refine ⟨fun id ch hget => ?_, hlife, houts⟩
  obtain ⟨-, -, -, hlchan⟩ := of_chan? hget
  obtain ⟨bts, hbts, hlchan⟩ := bind_eq_some_iff.mp hlchan
  obtain ⟨trx, htrx, hlchan⟩ := map_eq_some_iff.mp hlchan
  obtain ⟨pchans, rfl⟩ := hidle bts (List.mem_of_getElem? hbts) trx (List.mem_of_getElem? htrx)
  rw [← hlchan]
  exact idleTrx_free pchans id.ref.ts id.ref.ss

theorem idle_smallRadioNet : smallRadioNet.Idle := by
  refine idle_of_btss rfl rfl fun bts hbts trx htrx => ?_
  obtain rfl := List.mem_singleton.mp hbts
  exact ⟨_, List.mem_singleton.mp htrx⟩

end OpenBsc.Libbsc
