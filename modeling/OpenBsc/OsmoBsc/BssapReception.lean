import OpenBsc.Libmsc.MmReception
import OpenBsc.OsmoBsc.CodecSelection

/-!
# `OsmoBsc.BssapReception` — messages of the MSC and how long they are (`osmo_bsc_bssap.c`)

A payload starts with a header that has its own idea of a length: one octet behind the type for BSSMAP, one behind the
link for DTAP. The entry functions get the received length beside it, as an `unsigned int`. `bsc_handle_udt` compares
the two one way only, `bsc_handle_dt1` compares nothing and goes on with a payload that is too short for a header, and
`dtap_rcvmsg` compares the right way and then copies by the received length. The handlers of BSSMAP read the first
octets of elements that may be empty.

`tlv_parse` is in a `BssapLib`: where the value of an element starts and how long it is. For an element that has a
length octet both are inside of what was parsed; for one of fixed length nothing is promised, and the source does not
ask either.
-/

namespace OpenBsc.OsmoBsc

open Buffer Prog
open OpenBsc.Libmsc (MiLib gsm48MiToString tmsiFromString identityAt safe_miToString value_miToString miEnd)

/-! ## Data -/

/-- `GSM0808_IE_IMSI`, `_TMSI`, `_CELL_IDENTIFIER_LIST`, `_ENCRYPTION_INFORMATION` and `_CHANNEL_TYPE`: the elements
    with a length octet that the handlers look for. -/
def lengthTagged : List Octet := [0x08, 0x09, 0x1a, 0x0a, 0x0b]

/-- `tlv_parse` for the elements of GSM 08.08: the offset and the length of the value of an element, if it is present;
    and `gsm48_mi_to_string`. -/
structure BssapLib where
  tlvParse : List Octet → Octet → Option (Nat × Nat)
  inside : ∀ {data tag val len}, tag ∈ lengthTagged → tlvParse data tag = some (val, len) →
    val + len ≤ data.length ∧ len < 256
  mi : MiLib

/-- The network, as far as the handlers: `bsc_grace_allow_new_connection`, the ciphering that is configured, the codecs,
    whether the core network has its own codes, the location area that is told to phones, and the welcome text. -/
structure BssapNet where
  graceAllows : Bool := true
  a5Encryption : Nat := 0
  msc : MscData := ⟨4000, []⟩
  coreCodes : Bool := false
  lai : Vector Octet 5
  welcomeTxt : Bool := false

/-- `struct osmo_bsc_sccp_con`: whether there is a connection to a phone, and two marks. -/
structure BssapCon where
  conn : Bool := true
  cipheringHandled : Bool := false
  newSubscriber : Bool := false
  deriving DecidableEq

/-- What a payload leads to. -/
inductive BssapEffect where
  /-- The handler of the BSSMAP message of this type is called. -/
  | handled (type : Octet)
  | pagingRequest (imsi : List Octet) (tmsi lac : Nat) (chanNeeded : Octet)
  | gsm0808Clear
  | clearComplete
  | cipherReject
  | cipherMode (cipher : Nat) (key : List Octet) (includeImeisv : Octet)
  | assignment (outcome : Assignment)
  | welcomeUssd
  /-- `gsm0808_submit_dtap`: layer 3 octets go to the phone. -/
  | submitDtap (linkId : Octet) (l3 : List Octet)
  deriving DecidableEq

/-! ## The source -/

/-- A difference of two `unsigned int`. -/
def minus32 (a b : Nat) : Nat := (a + 2 ^ 32 - b) % 2 ^ 32

/-- `tlv_parse(&tp, gsm0808_att_tlvdef(), msg->l4h + 1, length, 0, 0)`. The message type is the third octet; the length
    is an `int` there. -/
def parseElements (lib : BssapLib) (length : Nat) : Prog (Octet → Option (Nat × Nat)) := do
  let data ← octets 3 (if length < 2 ^ 31 then length else 0)
  pure fun tag => (lib.tlvParse data tag).map fun element => (3 + element.1, element.2)

section Paging

variable (lib : BssapLib) (tp : Octet → Option (Nat × Nat))

/-- The TMSI of a paging, `GSM_RESERVED_TMSI` without the element. -/
def pagingTmsi : Prog Nat :=
  match tp 0x09 with
  | none => pure 0xffffffff
  | some (val, len) => do
      let miString ← gsm48MiToString lib.mi val (UInt8.ofNat len)
      pure (tmsiFromString miString)

/-- The location area of a cell identifier list, `GSM_LAC_RESERVED_ALL_BTS` for all of the BSS; none if the list is not
    supported. -/
def pagingLac (data len : Nat) : Prog (Option Nat) :=
  if len = 3 then do
    let discriminator ← octet data
    if discriminator = 5 then do
      let high ← octet (data + 1)
      let low ← octet (data + 2)
      pure (some (high.toNat * 256 + low.toNat))
    else pure none
  else if 1 < len then pure none
  else do
    let discriminator ← octet data
    if discriminator &&& 0x0f = 6 then pure (some 0xfffe) else pure none

/-- The channel that a paging asks for, `RSL_CHANNEED_ANY` without the element. -/
def pagingChannel : Prog Octet :=
  match tp 0x24 with
  | none => pure 0
  | some (val, len) =>
    if len = 1 then do
      let needed ← octet val
      pure (needed &&& 0x03)
    else pure 0

end Paging

/-- `bssmap_handle_paging`. -/
def bssmapHandlePaging (lib : BssapLib) (payloadLength : Nat) : Prog (List BssapEffect) := do
  let tp ← parseElements lib (minus32 payloadLength 1)
  match tp 0x08 with
  | none => pure []
  | some (imsi, imsiLen) => do
      let type ← octet imsi
      if type &&& 0x07 ≠ 0x01 then pure []
      else match tp 0x1a with
        | none => pure []
        | some (cells, cellsLen) => do
            let tmsi ← pagingTmsi lib tp
            let miString ← gsm48MiToString lib.mi imsi (UInt8.ofNat imsiLen)
            let lac ← pagingLac cells cellsLen
            match lac with
            | none => pure []
            | some lac => do
                let chanNeeded ← pagingChannel tp
                pure [.pagingRequest miString tmsi lac chanNeeded]

/-- `bssmap_handle_clear_command`. -/
def bssmapHandleClearCommand (con : BssapCon) : BssapCon × List BssapEffect :=
  if con.conn then ({ con with conn := false }, [.gsm0808Clear, .clearComplete]) else (con, [.clearComplete])

/-- Whether the answer to a cipher mode command has the IMEISV; it does without the element. -/
def cipherResponseMode (tp : Octet → Option (Nat × Nat)) : Prog Octet :=
  match tp 0x23 with
  | none => pure 1
  | some (val, _) => do
      let mode ← octet val
      pure (mode &&& 0x1)

/-- `gsm0808_cipher_mode` with a key. -/
def gsm0808CipherMode (key len : Nat) (includeImeisv : Octet) : Prog (List BssapEffect) :=
  if 16 < len then pure []
  else do
    let octets ← octets key len
    write 16 len
    pure [.cipherMode 1 octets includeImeisv]

/-- `bssmap_handle_cipher_mode`. -/
def bssmapHandleCipherMode (lib : BssapLib) (net : BssapNet) (con : BssapCon) (payloadLength : Nat) :
    Prog (BssapCon × List BssapEffect) :=
  if con.conn = false ∨ con.cipheringHandled = true then pure (con, [.cipherReject])
  else do
    let con := { con with cipheringHandled := true }
    let tp ← parseElements lib (minus32 payloadLength 1)
    match tp 0x0a with
    | none => pure (con, [.cipherReject])
    | some (data, len) =>
      if len < 1 then pure (con, [.cipherReject])
      else do
        let includeImeisv ← cipherResponseMode tp
        let algorithms ← octet data
        if net.a5Encryption = 0 ∧ algorithms &&& 0x1 = 0x1 then pure (con, [.cipherMode 0 [] includeImeisv])
        else if net.a5Encryption ≠ 0 ∧ algorithms &&& 0x2 = 0x2 then do
          let effects ← gsm0808CipherMode (data + 1) (len - 1) includeImeisv
          pure (con, effects)
        else pure (con, [.cipherReject])

/-- `bssmap_handle_assignm_req`, with what it reads of the message: the circuit identity code, two octets of it whatever
    its length, and the channel type. -/
def bssmapHandleAssignmReqProg (lib : BssapLib) (net : BssapNet) (con : BssapCon) (length : Nat) :
    Prog (List BssapEffect) :=
  if con.conn = false then pure [.assignment .notConnected]
  else do
    let tp ← parseElements lib (minus32 length 1)
    match tp 0x0b, tp 0x01 with
    | some (type, typeLen), some (cic, _) => do
        let high ← octet cic
        let low ← octet (cic + 1)
        let data ← octets type typeLen
        pure [.assignment (bssmapHandleAssignmReq true net.msc ⟨some data, some (high, low)⟩)]
    | _, _ => pure [.assignment .reject]

/-- `bssmap_rcvmsg_udt`. -/
def bssmapRcvmsgUdt (lib : BssapLib) (net : BssapNet) (length : Nat) : Prog (List BssapEffect) :=
  if length < 1 then pure []
  else do
    let type ← octet 2
    if type = 0x31 then pure [.handled 0x31]
    else if type = 0x52 ∧ net.graceAllows = true then do
      let effects ← bssmapHandlePaging lib length
      pure (.handled 0x52 :: effects)
    else pure []

/-- `bssmap_rcvmsg_dt1`. -/
def bssmapRcvmsgDt1 (lib : BssapLib) (net : BssapNet) (con : BssapCon) (length : Nat) :
    Prog (BssapCon × List BssapEffect) :=
  if length < 1 then pure (con, [])
  else do
    let type ← octet 2
    if type = 0x20 then pure ((bssmapHandleClearCommand con).1, .handled 0x20 :: (bssmapHandleClearCommand con).2)
    else if type = 0x53 then do
      let (con, effects) ← bssmapHandleCipherMode lib net con length
      pure (con, .handled 0x53 :: effects)
    else if type = 0x01 then do
      let effects ← bssmapHandleAssignmReqProg lib net con length
      pure (con, .handled 0x01 :: effects)
    else pure (con, [])

/-- `bsc_scan_msc_msg`: the location area of LOCATION UPDATING ACCEPT is overwritten, and a new subscriber welcomed. -/
def bscScanMscMsg (net : BssapNet) (con : BssapCon) (l3 : List Octet) : List Octet × List BssapEffect :=
  if l3.length < 2 then (l3, [])
  else if l3.getD 1 0 &&& 0xbf = 0x02 then
    (if net.coreCodes = true ∧ 2 + 5 ≤ l3.length then l3.take 2 ++ net.lai.toList ++ l3.drop 7 else l3,
      if con.newSubscriber = true ∧ net.welcomeTxt = true then [.welcomeUssd] else [])
  else (l3, [])

/-- `dtap_rcvmsg`. The header has three octets, and a message for the phone has room for 1792. -/
def dtapRcvmsg (net : BssapNet) (con : BssapCon) (length : Nat) : Prog (List BssapEffect) :=
  if con.conn = false then pure []
  else if length ≤ 3 then pure []
  else do
    let declared ← octet 2
    if minus32 length 3 < declared.toNat then pure []
    else do
      let linkId ← octet 1
      let l3 ← octets 3 (minus32 length 3)
      write 1792 (minus32 length 3)
      pure ((bscScanMscMsg net con l3).2 ++ [.submitDtap linkId (bscScanMscMsg net con l3).1])

/-- `bsc_handle_udt`. -/
def bscHandleUdt (lib : BssapLib) (net : BssapNet) (length : Nat) : Prog (List BssapEffect) :=
  if length < 2 then pure []
  else do
    let declared ← octet 1
    if declared.toNat < minus32 length 2 then pure []
    else do
      let type ← octet 0
      if type = 0x00 then bssmapRcvmsgUdt lib net (minus32 length 2) else pure []

/-- `bsc_handle_dt1`. That the header is too short is only written to the log. -/
def bscHandleDt1 (lib : BssapLib) (net : BssapNet) (con : BssapCon) (len : Nat) :
    Prog (BssapCon × List BssapEffect) := do
  let type ← octet 0
  if type = 0x00 then bssmapRcvmsgDt1 lib net con (minus32 len 2)
  else if type = 0x01 then do
    let effects ← dtapRcvmsg net con len
    pure (con, effects)
  else pure (con, [])

/-- How a payload comes: without a connection, or on one. -/
inductive BssapEntry where
  | udt
  | dt1

/-- What is done with a payload. -/
def BssapEntry.handle (entry : BssapEntry) (lib : BssapLib) (net : BssapNet) (con : BssapCon) (length : Nat) :
    Prog (BssapCon × List BssapEffect) :=
  match entry with
  | .udt => do
      let effects ← bscHandleUdt lib net length
      pure (con, effects)
  | .dt1 => bscHandleDt1 lib net con length

/-! ## Reception -/

section Reception

variable (lib : BssapLib) (net : BssapNet) (con : BssapCon) (payload : List Octet)

/-- The payload ends before its header does, which has two octets for BSSMAP and three for DTAP. -/
def ShorterThanHeader : Prop := payload.length < 2 ∨ (payload.getD 0 0 = 0x01 ∧ payload.length < 3)

/-- A BSSMAP message that declares more octets than there are behind its header. -/
def DeclaresMore : Prop :=
  2 ≤ payload.length ∧ payload.getD 0 0 = 0x00 ∧ payload.length - 2 < (payload.getD 1 0).toNat

/-- **Reception stays inside.** Only octets of the payload are read; a payload that is shorter than its header or
    declares more than it has is discarded; a DTAP message goes to the phone as the octets that it declares, and it does
    go there if these were received. -/
structure ReceivedInside (entry : BssapEntry) (behind : Nat → Octet) : Prop where
  inside : (entry.handle lib net con payload.length).Safe payload.length (memory payload behind)
  short : ShorterThanHeader payload →
    (entry.handle lib net con payload.length).value (memory payload behind) = (con, [])
  declared : DeclaresMore payload →
    (entry.handle lib net con payload.length).value (memory payload behind) = (con, [])
  forwarded : payload.getD 0 0 = 0x01 → ∀ linkId l3,
    .submitDtap linkId l3 ∈ ((entry.handle lib net con payload.length).value (memory payload behind)).2 →
      l3.length = (payload.getD 2 0).toNat
  delivered : entry = .dt1 → con.conn = true → payload.getD 0 0 = 0x01 → 0 < (payload.getD 2 0).toNat →
    3 + (payload.getD 2 0).toNat ≤ payload.length → ∃ l3,
      .submitDtap (payload.getD 1 0) l3 ∈ ((entry.handle lib net con payload.length).value (memory payload behind)).2

/-- An element of a BSSMAP message: where its value starts in the payload, and how long it is. -/
def element (tag : Octet) : Option (Nat × Nat) :=
  (lib.tlvParse (payload.drop 3) tag).map fun element => (3 + element.1, element.2)

/-- A cell identifier list that a paging is taken for. -/
def CellsSupported (cells len : Nat) : Prop :=
  (len = 3 ∧ payload.getD cells 0 = 5) ∨ (len ≤ 1 ∧ payload.getD cells 0 &&& 0x0f = 6)

/-- The values of the elements of a paging do not start behind the payload, as far as the handler gets. -/
def PagingReads : Prop :=
  ∀ imsi, element lib payload 0x08 = some imsi → imsi.1 < payload.length ∧
    (payload.getD imsi.1 0 &&& 0x07 = 0x01 → ∀ cells, element lib payload 0x1a = some cells →
      (∀ tmsi, element lib payload 0x09 = some tmsi → tmsi.1 < payload.length) ∧
      (cells.2 ≤ 1 → cells.1 < payload.length) ∧
      (CellsSupported payload cells.1 cells.2 →
        ∀ chan, element lib payload 0x24 = some chan → chan.2 = 1 → chan.1 < payload.length))

/-- The same for the response mode of a cipher mode command that has an algorithm. -/
def CipherModeReads : Prop :=
  con.conn = true → con.cipheringHandled = false → ∀ data, element lib payload 0x0a = some data → 0 < data.2 →
    ∀ mode, element lib payload 0x23 = some mode → mode.1 < payload.length

/-- Both octets of the circuit of an assignment request are inside. -/
def AssignmentReads : Prop :=
  con.conn = true → ∀ type, element lib payload 0x0b = some type →
    ∀ cic, element lib payload 0x01 = some cic → cic.1 + 2 ≤ payload.length

/-- The lengths of a payload agree. Without a connection, a message that has a handler declares no more than was
    received. On a connection there is at least one octet, for BSSMAP two; a message that has a handler declares no more
    than was received, and a DTAP message not less either. No element that the handler reads unchecked starts behind the
    payload. -/
def LengthsAgree : BssapEntry → Prop
  | .udt =>
    3 ≤ payload.length → payload.getD 0 0 = 0x00 → payload.length - 2 ≤ (payload.getD 1 0).toNat →
      (payload.getD 2 0 = 0x31 → (payload.getD 1 0).toNat = payload.length - 2) ∧
      (payload.getD 2 0 = 0x52 → net.graceAllows = true →
        (payload.getD 1 0).toNat = payload.length - 2 ∧ PagingReads lib payload)
  | .dt1 =>
    1 ≤ payload.length ∧
    (payload.getD 0 0 = 0x00 → 2 ≤ payload.length ∧
      (3 ≤ payload.length → payload.getD 2 0 ∈ [0x20, 0x53, 0x01] →
        (payload.getD 1 0).toNat ≤ payload.length - 2 ∧
        (payload.getD 2 0 = 0x53 → CipherModeReads lib con payload) ∧
        (payload.getD 2 0 = 0x01 → AssignmentReads lib con payload))) ∧
    (payload.getD 0 0 = 0x01 → con.conn = true → 3 < payload.length → payload.length - 3 ≤ (payload.getD 2 0).toNat)

end Reception

/-! ## Handlers -/

theorem minus32_of_le {a b : Nat} (hb : b ≤ a) (ha : a < 2 ^ 32) : minus32 a b = a - b := by
  unfold minus32
  omega

theorem memory_getD {payload : List Octet} {i : Nat} (hi : i < payload.length) (behind : Nat → Octet) :
    memory payload behind i = payload.getD i 0 := by
  unfold memory
  rw [List.getD_eq_getElem?_getD, List.getElem?_eq_getElem hi]
  rfl

section Handlers

variable {lib : BssapLib} {net : BssapNet} {con : BssapCon} {payload : List Octet} {behind : Nat → Octet}

/-- What is read from the fourth octet to the end is the rest of the payload. -/
theorem value_octets_rest :
    (octets 3 (payload.length - 3)).value (memory payload behind) = payload.drop 3 := by
  rw [value_octets_take (Nat.le_refl _), List.take_of_length_le (List.length_drop).le]

theorem value_parseElements (hlen : payload.length < 2 ^ 31) :
    (parseElements lib (payload.length - 3)).value (memory payload behind) = element lib payload := by
  unfold parseElements
  rw [if_pos (by omega), value_bind, value_octets_rest]
  rfl

theorem safe_parseElements (hlen : payload.length < 2 ^ 31) :
    (parseElements lib (payload.length - 3)).Safe payload.length (memory payload behind) := by
  unfold parseElements
  rw [if_pos (by omega), safe_bind, safe_octets, safe_pure, and_true]
  omega

variable {len : Nat}

theorem element_inside (h3 : 3 ≤ payload.length) {tag : Octet} {val : Nat} (htag : tag ∈ lengthTagged)
    (h : element lib payload tag = some (val, len)) : val + len ≤ payload.length ∧ len < 256 := by
  obtain ⟨⟨offset, length⟩, hfound, heq⟩ := Option.map_eq_some_iff.mp h
  cases heq
  have hin := lib.inside htag hfound
  rw [List.length_drop] at hin
  exact ⟨by omega, hin.2⟩

variable {mem : Nat → Octet}

/-- Of an identity that ends in the payload, only the first octet may be behind it. -/
theorem miEnd_le_iff {n val : Nat} (hin : val + len ≤ n) (hlen : len < 256) :
    miEnd lib.mi mem val (UInt8.ofNat len) ≤ n ↔ val < n := by
  have hreads := lib.mi.reads_le 32 (mem val) (UInt8.ofNat len).toNat
  rw [toNat_octetOf hlen] at hreads
  unfold miEnd
  rw [toNat_octetOf hlen]
  omega

theorem safe_pagingTmsi (h3 : 3 ≤ payload.length) :
    (pagingTmsi lib (element lib payload)).Safe payload.length (memory payload behind) ↔
      ∀ tmsi, element lib payload 0x09 = some tmsi → tmsi.1 < payload.length := by
  unfold pagingTmsi
  cases found : element lib payload 0x09 with
  | none => simp
  | some tmsi =>
    obtain ⟨hin, hlen⟩ := element_inside h3 (by decide) found
    simp only [safe_bind, safe_miToString, safe_pure, and_true, Option.some.injEq, forall_eq']
    exact miEnd_le_iff hin hlen

theorem safe_pagingLac {cells : Nat} (hin : cells + len ≤ payload.length) :
    (pagingLac cells len).Safe payload.length (memory payload behind) ↔ (len ≤ 1 → cells < payload.length) := by
  unfold pagingLac
  by_cases three : len = 3
  · rw [if_pos three, safe_octet_bind, safe_ite]
    refine iff_of_true ⟨by omega, fun _ => ?_, fun _ => by simp⟩ (by omega)
    simp only [safe_bind, safe_octet, safe_pure, and_true]
    omega
  · rw [if_neg three]
    by_cases long : 1 < len
    · rw [if_pos long]
      exact iff_of_true (by simp) (by omega)
    · rw [if_neg long, safe_octet_bind, safe_ite]
      simp only [safe_pure, implies_true, and_true]
      exact ⟨fun h _ => h, fun h => h (by omega)⟩

/-- The list is taken in the two cases. -/
theorem value_pagingLac {cells : Nat} (hin : cells + len ≤ payload.length) (hread : len ≤ 1 → cells < payload.length) :
    ((pagingLac cells len).value (memory payload behind)).isSome ↔ CellsSupported payload cells len := by
  unfold pagingLac CellsSupported
  by_cases three : len = 3
  · rw [if_pos three, value_octet_bind, value_ite, memory_getD (by omega)]
    by_cases lac : payload.getD cells 0 = 5
    · rw [if_pos lac]
      exact iff_of_true rfl (.inl ⟨three, lac⟩)
    · rw [if_neg lac]
      exact iff_of_false (by simp) fun h => h.elim (fun h => lac h.2) (fun h => absurd h.1 (by omega))
  · rw [if_neg three]
    by_cases long : 1 < len
    · rw [if_pos long]
      exact iff_of_false (by simp) (by omega)
    · rw [if_neg long, value_octet_bind, value_ite, memory_getD (hread (by omega))]
      by_cases bss : payload.getD cells 0 &&& 0x0f = 6
      · rw [if_pos bss]
        exact iff_of_true rfl (.inr ⟨by omega, bss⟩)
      · rw [if_neg bss]
        exact iff_of_false (by simp) fun h => h.elim (fun h => three h.1) (fun h => bss h.2)

theorem safe_pagingChannel {n : Nat} (tp : Octet → Option (Nat × Nat)) :
    (pagingChannel tp).Safe n mem ↔ ∀ chan, tp 0x24 = some chan → chan.2 = 1 → chan.1 < n := by
  unfold pagingChannel
  cases tp 0x24 with
  | none => simp
  | some channel =>
    simp only [Option.some.injEq, forall_eq']
    by_cases one : channel.2 = 1
    · rw [if_pos one]
      simp [one]
    · rw [if_neg one]
      exact iff_of_true (by simp) fun h => absurd h one

/-- A paging reads only octets of the payload unless an element without octets is at the end of it. -/
theorem safe_bssmapHandlePaging (h3 : 3 ≤ payload.length) (hlen : payload.length < 2 ^ 31) :
    (bssmapHandlePaging lib (payload.length - 2)).Safe payload.length (memory payload behind) ↔
      PagingReads lib payload := by
  have hminus : minus32 (payload.length - 2) 1 = payload.length - 3 := minus32_of_le (by omega) (by omega)
  unfold bssmapHandlePaging PagingReads
  rw [hminus, safe_bind, value_parseElements hlen, and_iff_right (safe_parseElements hlen)]
  cases imsi_found : element lib payload 0x08 with
  | none => simp
  | some imsi =>
    obtain ⟨himsi, himsi_len⟩ := element_inside h3 (by decide) imsi_found
    simp only [Option.some.injEq, forall_eq']
    rw [safe_octet_bind]
    refine and_congr_right fun hfirst => ?_
    rw [memory_getD hfirst, safe_ite]
    simp only [ne_eq, safe_pure, implies_true, true_and, not_not]
    refine imp_congr_right fun _ => ?_
    cases cells_found : element lib payload 0x1a with
    | none => simp
    | some cells =>
      obtain ⟨hcells, -⟩ := element_inside h3 (by decide) cells_found
      simp only [Option.some.injEq, forall_eq']
      rw [safe_bind, safe_pagingTmsi h3, safe_bind, safe_miToString, miEnd_le_iff himsi himsi_len,
        and_iff_right hfirst, safe_bind, safe_pagingLac hcells]
      refine and_congr_right fun _ => and_congr_right fun hread => ?_
      rw [← value_pagingLac hcells hread]
      cases (pagingLac cells.1 cells.2).value (memory payload behind) with
      | none => simp
      | some lac =>
        simp only [Option.isSome_some, forall_const, safe_bind, safe_pure, and_true]
        exact safe_pagingChannel _

theorem safe_cipherResponseMode {n : Nat} (tp : Octet → Option (Nat × Nat)) :
    (cipherResponseMode tp).Safe n mem ↔ ∀ mode, tp 0x23 = some mode → mode.1 < n := by
  unfold cipherResponseMode
  cases tp 0x23 with
  | none | some => simp

theorem safe_gsm0808CipherMode {n key : Nat} (hin : key + len ≤ n) (imeisv : Octet) :
    (gsm0808CipherMode key len imeisv).Safe n mem := by
  unfold gsm0808CipherMode
  rw [safe_ite]
  refine ⟨fun _ => by simp, fun short => ?_⟩
  simp only [safe_bind, safe_octets, safe_write, safe_pure, and_true]
  omega

theorem safe_bssmapHandleCipherMode (h3 : 3 ≤ payload.length) (hlen : payload.length < 2 ^ 31) :
    (bssmapHandleCipherMode lib net con (payload.length - 2)).Safe payload.length (memory payload behind) ↔
      CipherModeReads lib con payload := by
  have hminus : minus32 (payload.length - 2) 1 = payload.length - 3 := minus32_of_le (by omega) (by omega)
  unfold bssmapHandleCipherMode CipherModeReads
  by_cases idle : con.conn = false ∨ con.cipheringHandled = true
  · rw [if_pos idle]
    refine iff_of_true (by simp) fun hconn hhandled => ?_
    simp [hconn, hhandled] at idle
  · rw [if_neg idle]
    rw [not_or, Bool.not_eq_false, Bool.not_eq_true] at idle
    simp only [idle.1, idle.2, forall_const]
    rw [hminus, safe_bind, value_parseElements hlen, and_iff_right (safe_parseElements hlen)]
    cases data_found : element lib payload 0x0a with
    | none => simp
    | some data =>
      obtain ⟨hdata, -⟩ := element_inside h3 (by decide) data_found
      simp only [Option.some.injEq, forall_eq']
      by_cases empty : data.2 < 1
      · rw [if_pos empty]
        exact iff_of_true (by simp) (by omega)
      · rw [if_neg empty, safe_bind, safe_cipherResponseMode]
        refine Iff.trans (and_iff_left ?_) (imp_iff_right (by omega)).symm
        rw [safe_octet_bind, safe_ite, safe_ite]
        refine ⟨by omega, fun _ => by simp, fun _ => ⟨fun _ => ?_, fun _ => by simp⟩⟩
        rw [safe_bind]
        exact ⟨safe_gsm0808CipherMode (by omega) _, by simp⟩

theorem safe_bssmapHandleAssignmReq (h3 : 3 ≤ payload.length) (hlen : payload.length < 2 ^ 31) :
    (bssmapHandleAssignmReqProg lib net con (payload.length - 2)).Safe payload.length (memory payload behind) ↔
      AssignmentReads lib con payload := by
  have hminus : minus32 (payload.length - 2) 1 = payload.length - 3 := minus32_of_le (by omega) (by omega)
  unfold bssmapHandleAssignmReqProg AssignmentReads
  cases con.conn with
  | false => simp
  | true =>
    rw [if_neg (by decide), hminus, safe_bind, value_parseElements hlen, and_iff_right (safe_parseElements hlen)]
    cases type_found : element lib payload 0x0b with
    | none => simp
    | some type =>
      obtain ⟨htype, -⟩ := element_inside h3 (by decide) type_found
      cases element lib payload 0x01 with
      | none => simp
      | some cic =>
        simp only [Option.some.injEq, forall_eq', safe_bind, safe_octet, safe_octets, safe_pure, and_true, forall_const]
        omega

/-! ## Bounds -/

/-- For a BSSMAP message with a whole header it is about the octets that are read and the declared length. -/
theorem receivedInside_bssmap (entry : BssapEntry) (h2 : 2 ≤ payload.length) (h0 : payload.getD 0 0 = 0x00) :
    ReceivedInside lib net con payload entry behind ↔
      (entry.handle lib net con payload.length).Safe payload.length (memory payload behind) ∧
        (payload.length - 2 < (payload.getD 1 0).toNat →
          (entry.handle lib net con payload.length).value (memory payload behind) = (con, [])) := by
  have no_dtap : payload.getD 0 0 ≠ 0x01 := by
    rw [h0]
    decide
  constructor
  · intro h
    exact ⟨h.inside, fun more => h.declared ⟨h2, h0, more⟩⟩
  · rintro ⟨inside, declared⟩
    exact
      { inside := inside
        short := fun h => h.elim (fun h => absurd h2 (Nat.not_le_of_lt h)) (fun h => absurd h.1 no_dtap)
        declared := fun h => declared h.2.2
        forwarded := fun h => absurd h no_dtap
        delivered := fun _ _ h => absurd h no_dtap }

/-- A payload that is discarded without a read behind it is received inside, if it is not DTAP for a phone. -/
theorem receivedInside_of_discarded {entry : BssapEntry}
    (inside : (entry.handle lib net con payload.length).Safe payload.length (memory payload behind))
    (nothing : (entry.handle lib net con payload.length).value (memory payload behind) = (con, []))
    (no_phone : entry = .dt1 → con.conn = true → payload.getD 0 0 = 0x01 →
      3 < payload.length → payload.length < 3 + (payload.getD 2 0).toNat) :
    ReceivedInside lib net con payload entry behind where
  inside := inside
  short := fun _ => nothing
  declared := fun _ => nothing
  forwarded := by
    intro _ linkId l3 h
    rw [nothing] at h
    cases h
  delivered := by
    intro hentry hconn h1 hpos hlen
    have := no_phone hentry hconn h1 (by omega)
    omega

theorem handle_udt : (BssapEntry.udt.handle lib net con payload.length).value (memory payload behind) =
    (con, (bscHandleUdt lib net payload.length).value (memory payload behind)) := rfl

theorem safe_handle_udt :
    (BssapEntry.udt.handle lib net con payload.length).Safe payload.length (memory payload behind) ↔
    (bscHandleUdt lib net payload.length).Safe payload.length (memory payload behind) := by
  unfold BssapEntry.handle
  simp only [safe_bind, safe_pure, and_true]

variable (lib) (net) (behind) in
theorem bscHandleUdt_bssmap (hlen : payload.length < 2 ^ 31) (h2 : 2 ≤ payload.length) (h0 : payload.getD 0 0 = 0x00)
    (most : payload.length - 2 ≤ (payload.getD 1 0).toNat) :
    (bscHandleUdt lib net payload.length).value (memory payload behind) =
        (bssmapRcvmsgUdt lib net (payload.length - 2)).value (memory payload behind) ∧
      ((bscHandleUdt lib net payload.length).Safe payload.length (memory payload behind) ↔
        (bssmapRcvmsgUdt lib net (payload.length - 2)).Safe payload.length (memory payload behind)) := by
  have hminus : minus32 payload.length 2 = payload.length - 2 := minus32_of_le h2 (by omega)
  unfold bscHandleUdt
  rw [if_neg (by omega), hminus, value_octet_bind, safe_octet_bind, memory_getD (by omega),
    if_neg (Nat.not_lt_of_le most), value_octet_bind, safe_octet_bind, memory_getD (by omega), if_pos h0]
  exact ⟨rfl, by rw [and_iff_right (by omega), and_iff_right (by omega)]⟩

variable (lib) (net) (behind) in
theorem bscHandleUdt_discards (hlen : payload.length < 2 ^ 31)
    (h : payload.length < 2 ∨ payload.getD 0 0 ≠ 0x00 ∨ (payload.getD 1 0).toNat < payload.length - 2) :
    (bscHandleUdt lib net payload.length).value (memory payload behind) = [] ∧
      (bscHandleUdt lib net payload.length).Safe payload.length (memory payload behind) := by
  unfold bscHandleUdt
  by_cases short : payload.length < 2
  · rw [if_pos short]
    exact ⟨rfl, by simp⟩
  · have hminus : minus32 payload.length 2 = payload.length - 2 := minus32_of_le (by omega) (by omega)
    rw [if_neg short, hminus, value_octet_bind, safe_octet_bind, memory_getD (by omega)]
    by_cases less : (payload.getD 1 0).toNat < payload.length - 2
    · rw [if_pos less]
      exact ⟨rfl, by omega, by simp⟩
    · rw [if_neg less, value_octet_bind, safe_octet_bind, memory_getD (by omega),
        if_neg ((h.resolve_left short).resolve_right less)]
      exact ⟨rfl, by omega, by omega, by simp⟩

theorem receivedInside_udt_iff (hlen : payload.length < 2 ^ 31) :
    ReceivedInside lib net con payload .udt behind ↔ LengthsAgree lib net con payload .udt := by
  unfold LengthsAgree
  by_cases handed : 2 ≤ payload.length ∧ payload.getD 0 0 = 0x00 ∧ payload.length - 2 ≤ (payload.getD 1 0).toNat
  · obtain ⟨h2, h0, most⟩ := handed
    obtain ⟨hvalue, hsafe⟩ := bscHandleUdt_bssmap lib net behind hlen h2 h0 most
    rw [receivedInside_bssmap .udt h2 h0, safe_handle_udt, handle_udt, hsafe, hvalue]
    unfold bssmapRcvmsgUdt
    by_cases empty : payload.length - 2 < 1
    · rw [if_pos empty]
      exact iff_of_true ⟨by simp, fun _ => rfl⟩ (by omega)
    · have h3 : 3 ≤ payload.length := by omega
      rw [if_neg empty, value_octet_bind, safe_octet_bind, memory_getD h3,
        and_iff_right (show 2 < payload.length from h3)]
      simp only [h3, h0, most, forall_const]
      have agree : payload.length - 2 < (payload.getD 1 0).toNat ∨ (payload.getD 1 0).toNat = payload.length - 2 := by
        omega
      by_cases ack : payload.getD 2 0 = 0x31
      · rw [if_pos ack]
        simp only [ack, safe_pure, value_pure, true_and, forall_const, Prod.mk.injEq, reduceCtorEq, imp_false]
        refine ⟨fun h => ⟨agree.resolve_left h, fun h => absurd h (by decide)⟩, fun h => by omega⟩
      · rw [if_neg ack]
        by_cases paging : payload.getD 2 0 = 0x52 ∧ net.graceAllows = true
        · rw [if_pos paging, safe_bind, safe_bssmapHandlePaging h3 hlen]
          simp only [paging.1, paging.2, safe_pure, and_true, value_bind, value_pure, Prod.mk.injEq,
            reduceCtorEq, and_false, imp_false, forall_const]
          refine ⟨fun h => ⟨fun h => absurd h (by decide), agree.resolve_left h.2, h.1⟩, fun h => ⟨h.2.2, by omega⟩⟩
        · rw [if_neg paging]
          exact iff_of_true ⟨by simp, fun _ => rfl⟩
            ⟨fun h => absurd h ack, fun h grace => absurd ⟨h, grace⟩ paging⟩
  · have others : payload.length < 2 ∨ payload.getD 0 0 ≠ 0x00 ∨ (payload.getD 1 0).toNat < payload.length - 2 := by
      by_cases h2 : 2 ≤ payload.length
      · by_cases h0 : payload.getD 0 0 = 0x00
        · exact .inr (.inr (Nat.lt_of_not_le fun h => handed ⟨h2, h0, h⟩))
        · exact .inr (.inl h0)
      · exact .inl (Nat.lt_of_not_le h2)
    obtain ⟨hvalue, hsafe⟩ := bscHandleUdt_discards lib net behind hlen others
    refine iff_of_true (receivedInside_of_discarded (safe_handle_udt.mpr hsafe) ?_ ?_)
      fun h3 h0 most => absurd ⟨by omega, h0, most⟩ handed
    · rw [handle_udt, hvalue]
    · exact fun h => absurd h BssapEntry.noConfusion

variable (lib) (net) (con) (behind) in
/-- `bssmap_rcvmsg_dt1` calls a handler, and has read the octets of the payload that the handler reads, -/
theorem bssmapRcvmsgDt1_served (hlen : payload.length < 2 ^ 31) (h3 : 3 ≤ payload.length)
    (served : payload.getD 2 0 ∈ [0x20, 0x53, 0x01]) :
    ((bssmapRcvmsgDt1 lib net con (payload.length - 2)).value (memory payload behind)).2 ≠ [] ∧
      ((bssmapRcvmsgDt1 lib net con (payload.length - 2)).Safe payload.length (memory payload behind) ↔
        (payload.getD 2 0 = 0x53 → CipherModeReads lib con payload) ∧
        (payload.getD 2 0 = 0x01 → AssignmentReads lib con payload)) := by
  unfold bssmapRcvmsgDt1
  rw [if_neg (by omega), value_octet_bind, safe_octet_bind, memory_getD h3,
    and_iff_right (show 2 < payload.length from h3)]
  simp only [List.mem_cons, List.not_mem_nil, or_false] at served
  rcases served with clear | cipher | assignment
  · rw [clear]
    exact ⟨by simp, iff_of_true (by simp) ⟨fun h => absurd h (by decide), fun h => absurd h (by decide)⟩⟩
  · rw [cipher, if_neg (by decide), if_pos rfl, safe_bind, safe_bssmapHandleCipherMode h3 hlen]
    refine ⟨by simp, ?_⟩
    simp
  · rw [assignment, if_neg (by decide), if_neg (by decide), if_pos rfl, safe_bind, safe_bssmapHandleAssignmReq h3 hlen]
    refine ⟨by simp, ?_⟩
    simp

variable (lib) (net) (con) (behind) in
/-- or does nothing. -/
theorem bssmapRcvmsgDt1_other (h2 : 2 ≤ payload.length)
    (other : 3 ≤ payload.length → payload.getD 2 0 ∉ [0x20, 0x53, 0x01]) :
    (bssmapRcvmsgDt1 lib net con (payload.length - 2)).value (memory payload behind) = (con, []) ∧
      (bssmapRcvmsgDt1 lib net con (payload.length - 2)).Safe payload.length (memory payload behind) := by
  unfold bssmapRcvmsgDt1
  by_cases empty : payload.length - 2 < 1
  · rw [if_pos empty]
    exact ⟨rfl, by simp⟩
  · have h3 : 3 ≤ payload.length := by omega
    have not_served := other h3
    simp only [List.mem_cons, List.not_mem_nil, or_false, not_or] at not_served
    rw [if_neg empty, value_octet_bind, safe_octet_bind, memory_getD (by omega), if_neg not_served.1,
      if_neg not_served.2.1, if_neg not_served.2.2]
    exact ⟨rfl, h3, by simp⟩

theorem receivedInside_dt1_bssmap_iff (hlen : payload.length < 2 ^ 31) (h2 : 2 ≤ payload.length)
    (h0 : payload.getD 0 0 = 0x00) :
    ReceivedInside lib net con payload .dt1 behind ↔
      (3 ≤ payload.length → payload.getD 2 0 ∈ [0x20, 0x53, 0x01] →
        (payload.getD 1 0).toNat ≤ payload.length - 2 ∧
        (payload.getD 2 0 = 0x53 → CipherModeReads lib con payload) ∧
        (payload.getD 2 0 = 0x01 → AssignmentReads lib con payload)) := by
  have hminus : minus32 payload.length 2 = payload.length - 2 := minus32_of_le h2 (by omega)
  rw [receivedInside_bssmap .dt1 h2 h0]
  unfold BssapEntry.handle bscHandleDt1
  dsimp only
  rw [value_octet_bind, safe_octet_bind, memory_getD (by omega), if_pos h0, hminus,
    and_iff_right (show 0 < payload.length by omega)]
  by_cases served : 3 ≤ payload.length ∧ payload.getD 2 0 ∈ [0x20, 0x53, 0x01]
  · obtain ⟨hvalue, hsafe⟩ :=
      bssmapRcvmsgDt1_served lib net con behind hlen served.1 served.2
    rw [hsafe, imp_iff_right served.1, imp_iff_right served.2, and_comm]
    refine and_congr_left fun _ => ⟨fun h => Nat.le_of_not_lt fun more => hvalue ?_, fun h => by omega⟩
    rw [h more]
  · obtain ⟨hvalue, hsafe⟩ := bssmapRcvmsgDt1_other lib net con behind h2 fun h3 h => served ⟨h3, h⟩
    exact iff_of_true ⟨hsafe, fun _ => hvalue⟩ fun h3 h => absurd ⟨h3, h⟩ served

variable (l3 : List Octet) (link linkId : Octet) (sent : List Octet)

theorem length_bscScanMscMsg : (bscScanMscMsg net con l3).1.length = l3.length := by
  unfold bscScanMscMsg
  by_cases short : l3.length < 2
  · rw [if_pos short]
  · rw [if_neg short]
    by_cases accept : l3.getD 1 0 &&& 0xbf = 0x02
    · rw [if_pos accept]
      by_cases codes : net.coreCodes = true ∧ 2 + 5 ≤ l3.length
      · dsimp only
        rw [if_pos codes, List.length_append, List.length_append, List.length_take, List.length_drop,
          Vector.length_toList]
        omega
      · dsimp only
        rw [if_neg codes]
    · rw [if_neg accept]

theorem submitDtap_notMem_scan :
    .submitDtap linkId sent ∉ (bscScanMscMsg net con l3).2 := by
  unfold bscScanMscMsg
  by_cases short : l3.length < 2
  · rw [if_pos short]
    exact List.not_mem_nil
  · rw [if_neg short]
    by_cases accept : l3.getD 1 0 &&& 0xbf = 0x02
    · rw [if_pos accept]
      dsimp only
      split
      · simp
      · simp
    · rw [if_neg accept]
      exact List.not_mem_nil

theorem mem_forwarded
    (h : .submitDtap linkId sent ∈
      (bscScanMscMsg net con l3).2 ++ [.submitDtap link (bscScanMscMsg net con l3).1]) :
    sent.length = l3.length := by
  rcases List.mem_append.mp h with h | h
  · exact absurd h (submitDtap_notMem_scan l3 linkId sent)
  · cases List.mem_singleton.mp h
    exact length_bscScanMscMsg l3

variable (net) (behind) in
/-- A DTAP message that is not for a phone, has no layer 3, or declares more than was received is discarded. -/
theorem dtapRcvmsg_discards (hlen : payload.length < 2 ^ 31)
    (h : con.conn = false ∨ payload.length ≤ 3 ∨ payload.length - 3 < (payload.getD 2 0).toNat) :
    (dtapRcvmsg net con payload.length).value (memory payload behind) = [] ∧
      (dtapRcvmsg net con payload.length).Safe payload.length (memory payload behind) := by
  unfold dtapRcvmsg
  by_cases gone : con.conn = false
  · rw [if_pos gone]
    exact ⟨rfl, by simp⟩
  · rw [if_neg gone]
    by_cases short : payload.length ≤ 3
    · rw [if_pos short]
      exact ⟨rfl, by simp⟩
    · have hminus : minus32 payload.length 3 = payload.length - 3 := minus32_of_le (by omega) (by omega)
      rw [if_neg short, hminus, value_octet_bind, safe_octet_bind, memory_getD (by omega),
        if_pos ((h.resolve_left gone).resolve_left short)]
      exact ⟨rfl, by omega, by simp⟩

variable (net) (behind) in
theorem dtapRcvmsg_forwards (hlen : payload.length < 2 ^ 31) (hconn : con.conn = true) (h4 : 3 < payload.length)
    (fits : (payload.getD 2 0).toNat ≤ payload.length - 3) :
    (dtapRcvmsg net con payload.length).value (memory payload behind) =
        (bscScanMscMsg net con (payload.drop 3)).2 ++
          [.submitDtap (payload.getD 1 0) (bscScanMscMsg net con (payload.drop 3)).1] ∧
      ((dtapRcvmsg net con payload.length).Safe payload.length (memory payload behind) ↔
        payload.length - 3 ≤ 1792) := by
  have hminus : minus32 payload.length 3 = payload.length - 3 := minus32_of_le (by omega) (by omega)
  unfold dtapRcvmsg
  rw [if_neg (by rw [hconn]; decide), if_neg (Nat.not_le_of_lt h4), hminus, value_octet_bind,
    safe_octet_bind, memory_getD (show 2 < payload.length by omega), if_neg (Nat.not_lt_of_le fits),
    value_octet_bind, safe_octet_bind, memory_getD (show 1 < payload.length by omega), value_bind,
    safe_bind, value_octets_rest]
  refine ⟨rfl, ?_⟩
  simp only [safe_bind, safe_octets, safe_write, safe_pure, and_true]
  omega

theorem receivedInside_dtap_iff (hlen : payload.length < 2 ^ 31) (hpos : 1 ≤ payload.length)
    (h1 : payload.getD 0 0 = 0x01) :
    ReceivedInside lib net con payload .dt1 behind ↔
      (con.conn = true → 3 < payload.length → payload.length - 3 ≤ (payload.getD 2 0).toNat) := by
  have not_bssmap : payload.getD 0 0 ≠ 0x00 := by
    rw [h1]
    decide
  have hvalue : (BssapEntry.dt1.handle lib net con payload.length).value (memory payload behind) =
      (con, (dtapRcvmsg net con payload.length).value (memory payload behind)) := by
    unfold BssapEntry.handle bscHandleDt1
    dsimp only
    rw [value_octet_bind, memory_getD (by omega), if_neg not_bssmap, if_pos h1]
    rfl
  have hsafe : (BssapEntry.dt1.handle lib net con payload.length).Safe payload.length (memory payload behind) ↔
      (dtapRcvmsg net con payload.length).Safe payload.length (memory payload behind) := by
    unfold BssapEntry.handle bscHandleDt1
    dsimp only
    rw [safe_octet_bind, memory_getD (by omega), if_neg not_bssmap, if_pos h1, safe_bind,
      and_iff_right (show 0 < payload.length by omega)]
    simp
  by_cases forwarded : con.conn = true ∧ 3 < payload.length ∧ (payload.getD 2 0).toNat ≤ payload.length - 3
  · obtain ⟨hconn, h4, fits⟩ := forwarded
    obtain ⟨hsent, hroom⟩ :=
      dtapRcvmsg_forwards net behind hlen hconn h4 fits
    rw [hsent] at hvalue
    rw [hroom] at hsafe
    have hrest : (payload.drop 3).length = payload.length - 3 := List.length_drop
    constructor
    · intro h _ _
      have hcount := h.forwarded h1 (payload.getD 1 0) (bscScanMscMsg net con (payload.drop 3)).1 (by
        rw [hvalue]
        exact List.mem_append_right _ (List.mem_singleton.mpr rfl))
      rw [length_bscScanMscMsg, hrest] at hcount
      exact Nat.le_of_eq hcount
    · intro h
      have hdeclared := h hconn h4
      have hoctet : (payload.getD 2 0).toNat < 256 := (payload.getD 2 0).toNat_lt
      exact
        { inside := hsafe.mpr (by omega)
          short := fun h => h.elim (by omega) (fun h => absurd h.2 (by omega))
          declared := fun h => absurd h.2.1 not_bssmap
          forwarded := by
            intro _ linkId l3 hmem
            rw [hvalue] at hmem
            rw [mem_forwarded _ _ _ _ hmem, hrest]
            omega
          delivered := by
            intro _ _ _ _ _
            rw [hvalue]
            exact ⟨_, List.mem_append_right _ (List.mem_singleton.mpr rfl)⟩ }
  · have others : con.conn = false ∨ payload.length ≤ 3 ∨ payload.length - 3 < (payload.getD 2 0).toNat := by
      by_cases hconn : con.conn = true
      · by_cases h4 : 3 < payload.length
        · exact .inr (.inr (Nat.lt_of_not_le fun h => forwarded ⟨hconn, h4, h⟩))
        · exact .inr (.inl (Nat.le_of_not_lt h4))
      · exact .inl ((Bool.not_eq_true _).mp hconn)
    obtain ⟨hnothing, hread⟩ := dtapRcvmsg_discards net behind hlen others
    rw [hnothing] at hvalue
    have more : con.conn = true → 3 < payload.length → payload.length - 3 < (payload.getD 2 0).toNat :=
      fun hconn h4 => Nat.lt_of_not_le fun h => forwarded ⟨hconn, h4, h⟩
    refine iff_of_true (receivedInside_of_discarded (hsafe.mpr hread) hvalue fun _ hconn _ h4 => ?_)
      fun hconn h4 => Nat.le_of_lt (more hconn h4)
    have := more hconn h4
    omega

/-- With a single octet, or none, BSSMAP is read behind the payload. -/
theorem not_receivedInside_short (h : payload.length = 0 ∨ (payload.length = 1 ∧ payload.getD 0 0 = 0x00)) :
    ¬ ReceivedInside lib net con payload .dt1 behind := by
  intro hreceived
  have hinside := hreceived.inside
  unfold BssapEntry.handle bscHandleDt1 at hinside
  dsimp only at hinside
  rw [safe_octet_bind] at hinside
  rcases h with empty | ⟨one, h0⟩
  · omega
  · obtain ⟨hpos, hrest⟩ := hinside
    rw [memory_getD hpos, if_pos h0, one] at hrest
    unfold bssmapRcvmsgDt1 at hrest
    rw [if_neg (by decide), safe_octet_bind] at hrest
    omega

end Handlers

/-- **Payloads are received inside exactly if their lengths agree.** The length of a message is below `2 ^ 31`; a
    message buffer counts it with 16 bits. -/
theorem receivedInside_iff (lib : BssapLib) (net : BssapNet) (con : BssapCon) (entry : BssapEntry)
    (payload : List Octet) (hlen : payload.length < 2 ^ 31) (behind : Nat → Octet) :
    ReceivedInside lib net con payload entry behind ↔ LengthsAgree lib net con payload entry := by
  cases entry with
  | udt => exact receivedInside_udt_iff hlen
  | dt1 =>
    unfold LengthsAgree
    dsimp only
    by_cases hpos : 1 ≤ payload.length
    · rw [and_iff_right hpos]
      by_cases h0 : payload.getD 0 0 = 0x00
      · have not_dtap : payload.getD 0 0 ≠ 0x01 := by
          rw [h0]
          decide
        rw [imp_iff_right h0, and_iff_left (fun h => absurd h not_dtap)]
        by_cases h2 : 2 ≤ payload.length
        · rw [and_iff_right h2]
          exact receivedInside_dt1_bssmap_iff hlen h2 h0
        · exact iff_of_false (not_receivedInside_short (.inr ⟨by omega, h0⟩)) fun h => h2 h.1
      · rw [and_iff_right (fun h => absurd h h0)]
        by_cases h1 : payload.getD 0 0 = 0x01
        · rw [imp_iff_right h1]
          exact receivedInside_dtap_iff hlen hpos h1
        · refine iff_of_true (receivedInside_of_discarded ?_ ?_ fun _ _ h => absurd h h1) fun h => absurd h h1
          · unfold BssapEntry.handle bscHandleDt1
            dsimp only
            rw [safe_octet_bind, memory_getD (by omega), if_neg h0, if_neg h1]
            exact ⟨hpos, by simp⟩
          · unfold BssapEntry.handle bscHandleDt1
            dsimp only
            rw [value_octet_bind, memory_getD (by omega), if_neg h0, if_neg h1]
            rfl
    · exact iff_of_false (not_receivedInside_short (.inl (by omega))) fun h => hpos h.1

/-- A library for messages without elements. -/
def noElements : BssapLib where
  tlvParse := fun _ _ => none
  inside := by
    intro _ _ _ _ _ h
    cases h
  mi := Libmsc.typeOnly

/-- A network that rewrites the location area of LOCATION UPDATING ACCEPT. -/
def coreNet : BssapNet where
  coreCodes := true
  lai := ⟨#[0x00, 0xf1, 0x10, 0x00, 0x2a], rfl⟩

/-- LOCATION UPDATING ACCEPT for a phone, in a DTAP message that declares its seven octets. -/
theorem receivedInside_locUpdAccept :
    ReceivedInside noElements coreNet {} [0x01, 0x03, 0x07, 0x05, 0x02, 0x62, 0xf2, 0x24, 0x00, 0x01] .dt1
      fun _ => 0xff :=
  (receivedInside_iff noElements coreNet {} .dt1 [0x01, 0x03, 0x07, 0x05, 0x02, 0x62, 0xf2, 0x24, 0x00, 0x01]
    (by decide) fun _ => 0xff).mpr (by
      refine ⟨by decide, fun h => absurd h (by decide), fun _ _ _ => by decide⟩)

/-- A CLEAR COMMAND that declares 255 octets and has one releases the phone. -/
theorem not_receivedInside_clear :
    ¬ ReceivedInside noElements coreNet {} [0x00, 0xff, 0x20] .dt1 fun _ => 0 := by
  intro h
  have hnothing := h.declared (by
    unfold DeclaresMore
    decide)
  exact absurd hnothing (by decide)

end OpenBsc.OsmoBsc
