import OpenBsc.Mgcp.Ports
import OpenBsc.OsmoBscNat.Mgcp

/-!
# `OsmoBsc.CodecSelection` — the speech codec of an assignment (`osmo_bsc_bssap.c`)

The MSC names the codecs that a phone may use in the channel type of its ASSIGNMENT REQUEST, one octet each; an octet
without the extension bit is the last one. The network has a list of codecs in the order of preference.
`bssmapHandleAssignmReq` searches the first list for each element of the second. The loops of the source share two
variables: the mode, which ends the outer loop when it is set, and the rate, which is read off the octet of the MSC.

What a codec is called in the element (`speechVersion`), which channel mode it has and what is permitted
(`permittedSpeech`) are said again without the loops, and `codecSelected` compares the two.
-/

namespace OpenBsc.OsmoBsc

open List

open OpenBsc.Mgcp (rtpCalculatePort)
open OpenBsc.OsmoBscNat (mgcpTimeslotToEndpoint)

/-! ## The handler -/

/-- `struct gsm_audio_support`, a bit field. -/
structure GsmAudioSupport where
  hr : Bool
  ver : Fin 128

/-- `enum gsm0808_permitted_speech`. -/
inductive PermittedSpeech where
  | fr1 | fr2 | fr3 | hr1 | hr2 | hr3

/-- Its values. -/
def PermittedSpeech.value : PermittedSpeech → Octet
  | .fr1 => 0x01
  | .fr2 => 0x11
  | .fr3 => 0x21
  | .hr1 => 0x05
  | .hr2 => 0x15
  | .hr3 => 0x25

/-- `enum gsm48_chan_mode`, as far as the handler uses it. -/
inductive ChanMode where
  | sign | speechV1 | speechEfr | speechAmr
  deriving DecidableEq

/-- `audio_support_to_gsm88`. -/
def audioSupportToGsm88 (audio : GsmAudioSupport) : PermittedSpeech :=
  if audio.hr then
    if audio.ver = 1 then .hr1 else if audio.ver = 2 then .hr2 else if audio.ver = 3 then .hr3 else .fr1
  else
    if audio.ver = 1 then .fr1 else if audio.ver = 2 then .fr2 else if audio.ver = 3 then .fr3 else .hr1

/-- `gsm88_to_chan_mode`. -/
def gsm88ToChanMode : PermittedSpeech → ChanMode
  | .hr1 | .fr1 => .speechV1
  | .hr2 | .fr2 => .speechEfr
  | .hr3 | .fr3 => .speechAmr

/-- The inner loop, from an octet of the element on: the mode and the rate that it sets. -/
def searchPermitted (permVal : PermittedSpeech) : List Octet → Option (ChanMode × Bool)
  | [] => none
  | o :: rest =>
    if o &&& 0x7f = permVal.value then some (gsm88ToChanMode permVal, o &&& 0x4 == 0)
    else if o &&& 0x80 = 0 then none
    else searchPermitted permVal rest

/-- The outer loop, from a codec of the network on, with the variables `chan_mode` and `full_rate`. -/
def searchSupported (data : List Octet) : List GsmAudioSupport → ChanMode × Bool → ChanMode × Bool
  | [], vars => vars
  | audio :: rest, vars =>
    if vars.1 = .sign then
      searchSupported data rest ((searchPermitted (audioSupportToGsm88 audio) (data.drop 2)).getD vars)
    else vars

/-- The fields of `struct osmo_msc_data` that the handler reads. -/
structure MscData where
  rtpBase : Nat
  audioSupport : List GsmAudioSupport

/-- What `tlv_parse` finds of the two elements. Of the circuit identity code it is the two octets at the start of the
    value, which are read whatever length the element has. -/
structure AssignmentElements where
  channelType : Option (List Octet)
  circuitIdentityCode : Option (Octet × Octet)

/-- What the handler does. -/
inductive Assignment where
  /-- There is no connection to a phone: an error is returned. -/
  | notConnected
  /-- An ASSIGNMENT FAILURE is queued for the MSC and an error is returned. -/
  | reject
  /-- The RTP port is stored and `gsm0808_assign_req` called for a channel with the mode and the rate. -/
  | assignReq (rtpPort : Nat) (chanMode : ChanMode) (fullRate : Bool)
  deriving DecidableEq

/-- The port that the circuit identity code stands for. `multiplex` has eight bits. -/
def assignedPort (msc : MscData) (code : Octet × Octet) : Nat :=
  let cic := code.1.toNat * 256 + code.2.toNat
  rtpCalculatePort (mgcpTimeslotToEndpoint (cic / 32 % 256) (cic % 32)) msc.rtpBase

/-- `bssmap_handle_assignm_req`. -/
def bssmapHandleAssignmReq (connected : Bool) (msc : MscData) (tp : AssignmentElements) : Assignment :=
  if connected = false then .notConnected
  else match tp.channelType, tp.circuitIdentityCode with
    | none, _ => .reject
    | some _, none => .reject
    | some data, some code =>
      if data.length < 3 then .reject
      else if data.getD 0 0 &&& 0xf ≠ 0x1 then .reject
      -- GSM0808_SPEECH_FULL_PREF and GSM0808_SPEECH_HALF_PREF
      else if data.getD 1 0 ≠ 0xa ∧ data.getD 1 0 ≠ 0xb then .reject
      else
        let (chanMode, fullRate) := searchSupported data msc.audioSupport (.sign, false)
        if chanMode = .sign then .reject
        else .assignReq (assignedPort msc code) chanMode fullRate

/-! ## What it is for -/

/-- The codecs that there are: versions 1 to 3 of full and of half rate. -/
def GsmAudioSupport.Valid (audio : GsmAudioSupport) : Prop := audio.ver = 1 ∨ audio.ver = 2 ∨ audio.ver = 3

/-- How a codec is called in the element: two bits for the version, one for half rate. -/
def GsmAudioSupport.speechVersion (audio : GsmAudioSupport) : Octet :=
  UInt8.ofNat (16 * (audio.ver.val - 1) + (if audio.hr then 4 else 0) + 1)

/-- The channel mode of a codec. -/
def GsmAudioSupport.chanMode (audio : GsmAudioSupport) : ChanMode :=
  if audio.ver = 1 then .speechV1 else if audio.ver = 2 then .speechEfr else .speechAmr

/-- An octet that others follow. -/
def extended (o : Octet) : Bool := o &&& 0x80 ≠ 0

/-- The octets up to and including the first one without extension bit, if there is one. -/
def listFrom (data : List Octet) : List Octet := data.takeWhile extended ++ (data.dropWhile extended).take 1

/-- The list of the element starts with its third octet. -/
def permittedSpeech (element : List Octet) : List Octet := listFrom (element.drop 2)

/-- The codec occurs in the list of the element. -/
def Permitted (element : List Octet) (audio : GsmAudioSupport) : Prop :=
  audio.speechVersion ∈ (permittedSpeech element).map (· &&& 0x7f)

/-- Speech on a channel of either rate, with a list of codecs. -/
def SupportedSpeech (element : List Octet) : Prop :=
  3 ≤ element.length ∧ element.getD 0 0 &&& 0xf = 1 ∧ (element.getD 1 0 = 0xa ∨ element.getD 1 0 = 0xb)

/-- The codec is the first one of the list that is permitted. -/
def FirstPermitted (element : List Octet) (codecs : List GsmAudioSupport) (audio : GsmAudioSupport) : Prop :=
  ∃ before after, codecs = before ++ audio :: after ∧ Permitted element audio ∧ ∀ b ∈ before, ¬ Permitted element b

instance (element : List Octet) (audio : GsmAudioSupport) : Decidable (Permitted element audio) :=
  inferInstanceAs (Decidable (_ ∈ _))

/-! ## The loops -/

variable {audio : GsmAudioSupport}

/-- A valid codec is called in the source what it is called in the element. -/
theorem audioSupportToGsm88_value (valid : audio.Valid) : (audioSupportToGsm88 audio).value = audio.speechVersion := by
  obtain ⟨hr, ver⟩ := audio
  rcases valid with rfl | rfl | rfl
  · cases hr <;> decide
  · cases hr <;> decide
  · cases hr <;> decide

theorem gsm88ToChanMode_eq (valid : audio.Valid) : gsm88ToChanMode (audioSupportToGsm88 audio) = audio.chanMode := by
  obtain ⟨hr, ver⟩ := audio
  rcases valid with rfl | rfl | rfl
  · cases hr <;> decide
  · cases hr <;> decide
  · cases hr <;> decide

/-- The bit that the rate is read off is that of the codec. -/
theorem speechVersion_rate (valid : audio.Valid) : (audio.speechVersion &&& 0x4 == 0) = !audio.hr := by
  obtain ⟨hr, ver⟩ := audio
  rcases valid with rfl | rfl | rfl
  · cases hr <;> decide
  · cases hr <;> decide
  · cases hr <;> decide

theorem rate_of_value (o : Octet) : o &&& 0x4 = (o &&& 0x7f) &&& 0x4 := by
  rw [UInt8.and_assoc]
  rfl

theorem chanMode_ne_sign (audio : GsmAudioSupport) : audio.chanMode ≠ .sign := by
  unfold GsmAudioSupport.chanMode
  split
  · decide
  · split <;> decide

theorem listFrom_extended {o : Octet} (h : extended o = true) (rest : List Octet) :
    listFrom (o :: rest) = o :: listFrom rest := by
  unfold listFrom
  rw [takeWhile_cons_of_pos h, dropWhile_cons_of_pos h]
  rfl

theorem listFrom_last {o : Octet} (h : ¬ extended o = true) (rest : List Octet) : listFrom (o :: rest) = [o] := by
  unfold listFrom
  rw [takeWhile_cons_of_neg h, dropWhile_cons_of_neg h]
  rfl

variable (msc : MscData) (code : Octet × Octet) (permVal : PermittedSpeech) (data : List Octet)

/-- The inner loop finds nothing where the list does not have the value, -/
theorem searchPermitted_none
    (h : permVal.value ∉ (listFrom data).map (· &&& 0x7f)) : searchPermitted permVal data = none := by
  induction data with
  | nil => rfl
  | cons o rest ih =>
    unfold searchPermitted
    by_cases more : extended o = true
    · rw [listFrom_extended more, map_cons, mem_cons, not_or] at h
      rw [if_neg (Ne.symm h.1), if_neg (of_decide_eq_true more)]
      exact ih h.2
    · rw [listFrom_last more, map_singleton, mem_singleton] at h
      have last : o &&& 0x80 = 0 := by simpa [extended] using more
      rw [if_neg (Ne.symm h), if_pos last]

/-- and the mode of the codec with the rate of the value where it does. -/
theorem searchPermitted_some
    (h : permVal.value ∈ (listFrom data).map (· &&& 0x7f)) :
    searchPermitted permVal data = some (gsm88ToChanMode permVal, permVal.value &&& 0x4 == 0) := by
  induction data with
  | nil => simp [listFrom] at h
  | cons o rest ih =>
    unfold searchPermitted
    by_cases found : o &&& 0x7f = permVal.value
    · rw [if_pos found, rate_of_value, found]
    · rw [if_neg found]
      by_cases more : extended o = true
      · rw [listFrom_extended more, map_cons, mem_cons] at h
        rw [if_neg (of_decide_eq_true more)]
        exact ih (h.resolve_left (Ne.symm found))
      · rw [listFrom_last more, map_singleton, mem_singleton] at h
        exact absurd h.symm found

/-- One round of the outer loop, for a valid codec. -/
theorem searchPermitted_eq (valid : audio.Valid) (element : List Octet) :
    searchPermitted (audioSupportToGsm88 audio) (element.drop 2) =
      if Permitted element audio then some (audio.chanMode, !audio.hr) else none := by
  by_cases permitted : Permitted element audio
  · rw [if_pos permitted]
    unfold Permitted at permitted
    rw [← audioSupportToGsm88_value valid] at permitted
    rw [searchPermitted_some _ _ permitted, gsm88ToChanMode_eq valid, audioSupportToGsm88_value valid,
      speechVersion_rate valid]
  · rw [if_neg permitted]
    unfold Permitted at permitted
    rw [← audioSupportToGsm88_value valid] at permitted
    exact searchPermitted_none _ _ permitted

/-- Once the mode is set, the outer loop is over. -/
theorem searchSupported_done (codecs : List GsmAudioSupport) {vars : ChanMode × Bool}
    (h : vars.1 ≠ .sign) : searchSupported data codecs vars = vars := by
  cases codecs with
  | nil => rfl
  | cons audio rest =>
    unfold searchSupported
    exact if_neg h

/-- The outer loop ends with the first codec of the network that is permitted. -/
theorem searchSupported_eq (element : List Octet) (full : Bool) (codecs : List GsmAudioSupport)
    (valid : ∀ a ∈ codecs, a.Valid) :
    searchSupported element codecs (.sign, full) =
      match codecs.find? (Permitted element ·) with
      | some audio => (audio.chanMode, !audio.hr)
      | none => (.sign, full) := by
  induction codecs with
  | nil => rfl
  | cons audio rest ih =>
    have rest_valid : ∀ a ∈ rest, a.Valid := fun a ha => valid a (mem_cons_of_mem _ ha)
    unfold searchSupported
    rw [if_pos rfl, searchPermitted_eq (valid audio mem_cons_self)]
    by_cases permitted : Permitted element audio
    · rw [if_pos permitted, List.find?_cons_of_pos (by simpa using permitted)]
      exact searchSupported_done _ _ (chanMode_ne_sign audio)
    · rw [if_neg permitted, List.find?_cons_of_neg (by simpa using permitted)]
      exact ih rest_valid

/-! ## Selection -/

variable {element : List Octet}

theorem firstPermitted_of_find {codecs : List GsmAudioSupport} (h : codecs.find? (Permitted element ·) = some audio) :
    FirstPermitted element codecs audio := by
  obtain ⟨permitted, before, after, split, others⟩ := List.find?_eq_some_iff_append.mp h
  refine ⟨before, after, split, of_decide_eq_true permitted, fun b hb hp => ?_⟩
  have := others b hb
  simp [hp] at this

/-- The handler past its check of the element. -/
theorem bssmapHandleAssignmReq_supported (supported : SupportedSpeech element)
    (valid : ∀ a ∈ msc.audioSupport, a.Valid) :
    bssmapHandleAssignmReq true msc ⟨some element, some code⟩ =
      match msc.audioSupport.find? (Permitted element ·) with
      | some audio => .assignReq (assignedPort msc code) audio.chanMode (!audio.hr)
      | none => .reject := by
  obtain ⟨long, speech, rate⟩ := supported
  unfold bssmapHandleAssignmReq
  simp only [Bool.true_eq_false, if_false]
  rw [if_neg (by omega), if_neg (by simpa using speech), if_neg (by tauto),
    searchSupported_eq element false msc.audioSupport valid]
  cases msc.audioSupport.find? (Permitted element ·) with
  | none => rfl
  | some audio => exact if_neg (chanMode_ne_sign audio)

/-- Otherwise it rejects the request. -/
theorem bssmapHandleAssignmReq_unsupported (h : ¬ SupportedSpeech element) :
    bssmapHandleAssignmReq true msc ⟨some element, some code⟩ = .reject := by
  unfold bssmapHandleAssignmReq
  simp only [Bool.true_eq_false, if_false]
  by_cases long : element.length < 3
  · rw [if_pos long]
  · rw [if_neg long]
    by_cases speech : element.getD 0 0 &&& 0xf = 1
    · rw [if_neg (by simpa using speech), if_pos]
      rw [← not_or]
      exact fun rate => h ⟨Nat.le_of_not_lt long, speech, rate⟩
    · rw [if_pos speech]

/-- The handler rejects the request exactly on the condition; otherwise it asks for a channel with the mode and the rate
    of the first codec of the network that the element permits. -/
def CodecChosen (msc : MscData) (element : List Octet) (rejects : Prop) (outcome : Assignment) : Prop :=
  (outcome = .reject ↔ rejects) ∧
  (¬ rejects → ∃ audio port, FirstPermitted element msc.audioSupport audio ∧
    outcome = .assignReq port audio.chanMode (!audio.hr))

/-- The element is not that of a speech channel with a list, or no codec of the network is permitted. -/
def NoneSupported (msc : MscData) (element : List Octet) : Prop :=
  ¬ SupportedSpeech element ∨ ∀ a ∈ msc.audioSupport, ¬ Permitted element a

/-- While there is a connection to the phone, the first codec of the network that the element permits is chosen; the
    request is rejected if there is none, if the element is not supported, or if the request names no circuit. -/
theorem codecSelected (msc : MscData) (valid : ∀ a ∈ msc.audioSupport, a.Valid) (element : List Octet)
    (code : Option (Octet × Octet)) :
    CodecChosen msc element (code = none ∨ NoneSupported msc element)
      (bssmapHandleAssignmReq true msc ⟨some element, code⟩) := by
  cases code with
  | none => exact ⟨⟨fun _ => .inl rfl, fun _ => rfl⟩, fun h => absurd (.inl rfl) h⟩
  | some code =>
    by_cases supported : SupportedSpeech element
    · rw [bssmapHandleAssignmReq_supported msc code supported valid]
      cases find : msc.audioSupport.find? (Permitted element ·) with
      | none =>
        have none_permitted : ∀ a ∈ msc.audioSupport, ¬ Permitted element a := fun a ha => by
          simpa using List.find?_eq_none.mp find a ha
        exact ⟨⟨fun _ => .inr (.inr none_permitted), fun _ => rfl⟩,
          fun h => absurd (.inr (.inr none_permitted)) h⟩
      | some audio =>
        have first := firstPermitted_of_find find
        have chosen : ¬ (some code = none ∨ NoneSupported msc element) := by
          rintro (h | h | h)
          · cases h
          · exact h supported
          · exact h audio (mem_of_find?_eq_some find) (by simpa using List.find?_some find)
        exact ⟨iff_of_false Assignment.noConfusion chosen, fun _ => ⟨audio, _, first, rfl⟩⟩
    · rw [bssmapHandleAssignmReq_unsupported msc code supported]
      exact ⟨⟨fun _ => .inr (.inl supported), fun _ => rfl⟩, fun h => absurd (.inr (.inl supported)) h⟩

/-- A network with half-rate AMR before full-rate AMR; the element permits both, and EFR in front of them. -/
theorem codecSelected_second :
    bssmapHandleAssignmReq true ⟨4000, [⟨true, 3⟩, ⟨false, 3⟩]⟩ ⟨some [0x01, 0x0b, 0x91, 0xa1, 0x25], some (0, 1)⟩ =
        .assignReq 4002 .speechAmr false ∧
      CodecChosen ⟨4000, [⟨true, 3⟩, ⟨false, 3⟩]⟩ [0x01, 0x0b, 0x91, 0xa1, 0x25]
        (some (0, 1) = (none : Option (Octet × Octet)) ∨
          NoneSupported ⟨4000, [⟨true, 3⟩, ⟨false, 3⟩]⟩ [0x01, 0x0b, 0x91, 0xa1, 0x25])
        (bssmapHandleAssignmReq true ⟨4000, [⟨true, 3⟩, ⟨false, 3⟩]⟩
          ⟨some [0x01, 0x0b, 0x91, 0xa1, 0x25], some (0, 1)⟩) :=
  ⟨by decide, codecSelected ⟨4000, [⟨true, 3⟩, ⟨false, 3⟩]⟩
    (fun a ha => by
      simp only [mem_cons, not_mem_nil, or_false] at ha
      rcases ha with rfl | rfl
      · exact .inr (.inr rfl)
      · exact .inr (.inr rfl)) [0x01, 0x0b, 0x91, 0xa1, 0x25] (some (0, 1))⟩

/-- Without a circuit, a request that permits full-rate speech is rejected by a network that prefers it. -/
theorem not_codecSelected_noCircuit :
    ¬ CodecChosen ⟨4000, [⟨false, 1⟩]⟩ [0x01, 0x0a, 0x01] (NoneSupported ⟨4000, [⟨false, 1⟩]⟩ [0x01, 0x0a, 0x01])
      (bssmapHandleAssignmReq true ⟨4000, [⟨false, 1⟩]⟩ ⟨some [0x01, 0x0a, 0x01], none⟩) := by
  intro h
  rcases h.1.mp rfl with h | h
  · exact h (by unfold SupportedSpeech; decide)
  · exact h ⟨false, 1⟩ mem_cons_self (by decide)

end OpenBsc.OsmoBsc
