import OpenBsc.Lib.Buffer

/-!
# `Libmsc.MmReception` — which octets the messages of mobility management have (`gsm_04_08.c`)

A phone that asks for a service, answers a paging or an identity request, updates its location or tells its classmark
sends elements that say how long they are, one behind the other. The handlers go from one to the next, and copy a
classmark to the subscriber, who has three octets for one and 14 for the other. Where a length is compared with
something it is the size of the buffer, or the other end is forgotten.

`gsm48_mi_to_string` is in a `MiLib`: which of the octets of an identity it reads, and what it writes.
-/

namespace OpenBsc.Libmsc

open Buffer Prog Option

/-! ## Data -/

/-- `struct gsm_equipment`, as far as the classmarks: what was copied to them. -/
structure GsmEquipment where
  classmark1 : Octet := 0
  classmark2Len : Octet := 0
  classmark2 : List Octet := []
  classmark3Len : Octet := 0
  classmark3 : List Octet := []

/-- `struct gsm_subscriber`, as far as its equipment. -/
structure MmSubscriber where
  id : Nat
  equipment : GsmEquipment := {}

/-- The subscribers: `subscr_get_by_tmsi`, `subscr_get_by_imsi` and `db_create_subscriber`. -/
structure MmEnv where
  byTmsi : Nat → Option MmSubscriber
  byImsi : List Octet → Option MmSubscriber
  create : List Octet → Option MmSubscriber

/-- The connection of a message and what else is not in the message: the subscriber, whether a location update is going
    on, whether the BTS is one of Siemens, the size of the buffer, and what a variable of the type of an identity, and
    one of its digits, that nothing was written to are. -/
structure MmConn where
  subscr : Option MmSubscriber := none
  locOperation : Bool := false
  siemensBts : Bool := false
  dataLen : Nat
  staleType : Octet := 0
  staleString : List Octet := []

/-- `gsm48_mi_to_string`, for the size of the string and the length of the identity: how many octets of it are read,
    which may depend on the first of them, and what is written. It reads the first octet and no more than the length,
    and writes no more than the size that is used. -/
structure MiLib where
  reads : Nat → Octet → Nat → Nat
  text : Nat → Nat → List Octet → List Octet
  reads_le : ∀ size first miLen, reads size first miLen ≤ max 1 miLen
  text_le : ∀ miLen mi, (text 32 miLen mi).length ≤ 32

/-- What becomes of a message: it is answered with a reject or dropped with an error and nothing of it is taken over, or
    it is taken. In the latter case there may be a subscriber, with what is known of the equipment then. -/
inductive MmOutcome where
  | rejected
  | taken (subscr : Option MmSubscriber)

/-! ## The source -/

/-- `gsm48_mi_to_string`, for a string of `GSM48_MI_SIZE`. -/
def gsm48MiToString (lib : MiLib) (mi : Nat) (miLen : Octet) : Prog (List Octet) := do
  let first ← octet mi
  let digits ← octets mi (lib.reads 32 first miLen.toNat)
  let string := lib.text 32 miLen.toNat digits
  write 32 string.length
  pure string

/-- `tmsi_from_string`. -/
def tmsiFromString (string : List Octet) : Nat := (strtoul 10 string).1 % 2 ^ 32

/-- `send_siemens_mrpci`, as far as what it reads. -/
def sendSiemensMrpci (classmark2Lv : Nat) : Prog Unit := do
  let len ← octet classmark2Lv
  if len < 2 then pure ()
  else do
    let _ ← octets (classmark2Lv + 1) 2
    pure ()

/-- `if (is_siemens_bts(bts)) send_siemens_mrpci`. -/
def mrpciIfSiemens (conn : MmConn) (classmark2Lv : Nat) : Prog Unit :=
  if conn.siemensBts then sendSiemensMrpci classmark2Lv else pure ()

/-- The classmark at `cm2` is copied to the subscriber. -/
def storeClassmark2 (subscr : MmSubscriber) (cm2 : Nat) (cm2Len : Octet) : Prog MmSubscriber := do
  let classmark2 ← octets cm2 cm2Len.toNat
  write 3 cm2Len.toNat
  pure { subscr with equipment := { subscr.equipment with classmark2Len := cm2Len, classmark2 := classmark2 } }

/-- `gsm48_rx_mm_serv_req`. The size that the buffer is compared with first is that of a pointer. -/
def gsm48RxMmServReq (lib : MiLib) (env : MmEnv) (conn : MmConn) : Prog MmOutcome := do
  let classmark2Len ← octet 3
  let miLen ← octet (4 + classmark2Len.toNat)
  if conn.dataLen < 8 then pure .rejected
  else do
    -- the length of the identity where it is if the classmark has three octets
    let reqMiLen ← octet 7
    if conn.dataLen < reqMiLen.toNat + 6 then pure .rejected
    else do
      let first ← octet (4 + classmark2Len.toNat + 1)
      if first &&& 7 ≠ 4 then pure .rejected
      else do
        let miString ← gsm48MiToString lib (4 + classmark2Len.toNat + 1) miLen
        let _ ← octet 2
        mrpciIfSiemens conn 3
        match env.byTmsi (tmsiFromString miString) with
        | none => pure .rejected
        | some subscr => do
            let subscr ← storeClassmark2 subscr 4 classmark2Len
            pure (.taken (some subscr))

/-- `gsm48_extract_mi`; none if it fails, for then nothing is written. -/
def gsm48ExtractMi (lib : MiLib) (classmark2Lv : Nat) (length : Int) : Prog (Option (Octet × List Octet)) := do
  let classmark2Len ← octet classmark2Lv
  if length < 1 + classmark2Len.toNat then pure none
  else do
    let miLen ← octet (classmark2Lv + classmark2Len.toNat + 1)
    if length < 2 + classmark2Len.toNat + miLen.toNat then pure none
    else do
      let first ← octet (classmark2Lv + classmark2Len.toNat + 1 + 1)
      let miString ← gsm48MiToString lib (classmark2Lv + classmark2Len.toNat + 1 + 1) miLen
      pure (some (first &&& 7, miString))

/-- `gsm48_paging_extract_mi`. -/
def gsm48PagingExtractMi (lib : MiLib) (resp : Nat) (length : Int) : Prog (Option (Octet × List Octet)) :=
  gsm48ExtractMi lib (resp + 1) (length - 1)

/-- Who a paging response with a type of identity, and its digits, is of. -/
def pagedSubscr (env : MmEnv) : Octet × List Octet → Option MmSubscriber
  | (miType, miString) =>
    if miType = 4 then env.byTmsi (tmsiFromString miString)
    else if miType = 1 then env.byImsi miString
    else none

/-- `gsm48_rx_rr_pag_resp`. It does not look at what the extraction returns. -/
def gsm48RxRrPagResp (lib : MiLib) (env : MmEnv) (conn : MmConn) (l3len : Nat) : Prog MmOutcome := do
  let extracted ← gsm48PagingExtractMi lib 2 ((l3len : Int) - 2)
  match pagedSubscr env (extracted.getD (conn.staleType, conn.staleString)) with
  | none => pure .rejected
  | some subscr => do
      let classmark2Len ← octet 3
      let subscr ← storeClassmark2 subscr 4 classmark2Len
      mrpciIfSiemens conn 3
      pure (.taken (some subscr))

/-- What `gsm48_rx_rr_classmark` does with a classmark, and with a third one of a length if there is one. -/
def storeClassmarks (conn : MmConn) (cm2Len : Octet) (cm3Len : Option Octet) : Prog MmOutcome :=
  match conn.subscr with
  | none => pure (.taken none)
  | some subscr => do
      let subscr ← storeClassmark2 subscr 3 cm2Len
      match cm3Len with
      | none => pure (.taken (some subscr))
      | some cm3Len => do
          let classmark3 ← octets (3 + cm2Len.toNat + 2) cm3Len.toNat
          write 14 cm3Len.toNat
          pure (.taken (some
            { subscr with equipment := { subscr.equipment with classmark3Len := cm3Len, classmark3 := classmark3 } }))

/-- What is left of a message of a length behind its header, in 32 bits. -/
def payloadLen (l3len : Nat) : Nat := (l3len + 2 ^ 32 - 2) % 2 ^ 32

/-- `gsm48_rx_rr_classmark`. -/
def gsm48RxRrClassmark (conn : MmConn) (l3len : Nat) : Prog MmOutcome := do
  let cm2Len ← octet 2
  if cm2Len.toNat + 1 < payloadLen l3len then do
    -- we must have a classmark3
    let tag ← octet (2 + cm2Len.toNat + 1)
    if tag ≠ 0x20 then pure .rejected
    else if 3 < cm2Len.toNat then pure .rejected
    else do
      let cm3Len ← octet (2 + cm2Len.toNat + 2)
      if 14 < cm3Len.toNat then pure .rejected
      else storeClassmarks conn cm2Len (some cm3Len)
  else storeClassmarks conn cm2Len none

/-- Who an identity is of; a subscriber is created for an IMSI that is new. -/
def subscrOf (env : MmEnv) (miType : Octet) (miString : List Octet) : Option MmSubscriber :=
  if miType = 1 then (env.byImsi miString).or (env.create miString)
  else if miType = 4 then env.byTmsi (tmsiFromString miString)
  else none

/-- `mm_rx_id_resp`. -/
def mmRxIdResp (lib : MiLib) (env : MmEnv) (conn : MmConn) : Prog MmOutcome := do
  let first ← octet 3
  let miLen ← octet 2
  let miString ← gsm48MiToString lib 3 miLen
  if first &&& 7 = 1 then pure (.taken (conn.subscr.or (subscrOf env 1 miString)))
  else pure (.taken conn.subscr)

/-- `mm_rx_loc_upd_req`. -/
def mmRxLocUpdReq (lib : MiLib) (env : MmEnv) (conn : MmConn) : Prog MmOutcome := do
  let first ← octet 10
  let miLen ← octet 9
  let miString ← gsm48MiToString lib 10 miLen
  let _ ← octet 2
  -- a second location updating request is dropped
  if conn.locOperation then pure .rejected
  else
    match subscrOf env (first &&& 7) miString with
    | none => pure (.taken none)
    | some subscr => do
        let classmark1 ← octet 8
        pure (.taken (some { subscr with equipment := { subscr.equipment with classmark1 := classmark1 } }))

/-- The messages. -/
inductive MmMessage where
  | cmServiceRequest
  | pagingResponse
  | classmarkChange
  | identityResponse
  | locationUpdatingRequest

/-- The handler of a message of a length. -/
def MmMessage.handle (lib : MiLib) (env : MmEnv) (conn : MmConn) (l3len : Nat) : MmMessage → Prog MmOutcome
  | .cmServiceRequest => gsm48RxMmServReq lib env conn
  | .pagingResponse => gsm48RxRrPagResp lib env conn l3len
  | .classmarkChange => gsm48RxRrClassmark conn l3len
  | .identityResponse => mmRxIdResp lib env conn
  | .locationUpdatingRequest => mmRxLocUpdReq lib env conn

/-! ## Rejection -/

section Reception

variable (lib : MiLib) (env : MmEnv) (conn : MmConn) (len : Nat) (mem : Nat → Octet)

/-- The digits of an identity in memory. -/
def identityAt (mi : Nat) (miLen : Octet) : List Octet :=
  lib.text 32 miLen.toNat ((List.range (lib.reads 32 (mem mi) miLen.toNat)).map fun k => mem (mi + k))

/-- The type and the digits that are looked up for a paging response: those of its identity, or what was there before if
    the message is too short for them. -/
def pagedIdentity : Octet × List Octet :=
  let mi := 5 + (mem 3).toNat
  let miLen := mem (4 + (mem 3).toNat)
  if len < 4 + (mem 3).toNat ∨ len < mi + miLen.toNat then (conn.staleType, conn.staleString)
  else (mem mi &&& 7, identityAt lib mem mi miLen)

/-- A message is rejected: a service request that is taken for too long, is not for a TMSI, or of nobody known; a paging
    response of nobody known; a classmark without the tag of the third, or of a wrong length; and a location update
    while there is one. -/
def MmMessage.Rejects : MmMessage → Prop
  | .cmServiceRequest =>
    conn.dataLen < 8 ∨ conn.dataLen < (mem 7).toNat + 6 ∨ mem (5 + (mem 3).toNat) &&& 7 ≠ 4 ∨
      env.byTmsi (tmsiFromString (identityAt lib mem (5 + (mem 3).toNat) (mem (4 + (mem 3).toNat)))) = none
  | .pagingResponse => pagedSubscr env (pagedIdentity lib conn len mem) = none
  | .classmarkChange =>
    (mem 2).toNat + 1 < payloadLen len ∧
      (mem (3 + (mem 2).toNat) ≠ 0x20 ∨ 3 < (mem 2).toNat ∨ 14 < (mem (4 + (mem 2).toNat)).toNat)
  | .identityResponse => False
  | .locationUpdatingRequest => conn.locOperation = true

/-! ## Bounds -/

/-- The end of what is read of an identity. -/
def miEnd (mi : Nat) (miLen : Octet) : Nat := max (mi + 1) (mi + lib.reads 32 (mem mi) miLen.toNat)

/-- The elements lie in a message of the length, and a classmark that is kept in its field. -/
def MmMessage.Fits : MmMessage → Prop
  | .cmServiceRequest =>
    (mem 3).toNat ≤ 3 ∧ 8 ≤ len ∧ miEnd lib mem (5 + (mem 3).toNat) (mem (4 + (mem 3).toNat)) ≤ len
  | .pagingResponse =>
    (mem 3).toNat ≤ 3 ∧ 5 + (mem 3).toNat ≤ len ∧
      -- not an identity without octets at the very end
      (5 + (mem 3).toNat + (mem (4 + (mem 3).toNat)).toNat ≤ len → 6 + (mem 3).toNat ≤ len)
  | .classmarkChange =>
    3 ≤ len ∧ ((mem 2).toNat + 1 < payloadLen len → 5 + (mem 2).toNat ≤ len) ∧
      (conn.subscr.isSome →
        (mem 2).toNat ≤ 3 ∧ 3 + (mem 2).toNat ≤ len ∧
          ((mem 2).toNat + 1 < payloadLen len → 5 + (mem 2).toNat + (mem (4 + (mem 2).toNat)).toNat ≤ len))
  | .identityResponse => miEnd lib mem 3 (mem 2) ≤ len
  | .locationUpdatingRequest => miEnd lib mem 10 (mem 9) ≤ len

end Reception

section Handlers

variable {lib : MiLib} {env : MmEnv} {conn : MmConn} {len : Nat} {mem : Nat → Octet}

variable (cm2Len : Octet) (mi : Nat) (miLen : Octet) (lv : Nat)

@[simp] theorem value_miToString :
    (gsm48MiToString lib mi miLen).value mem = identityAt lib mem mi miLen := rfl

@[simp] theorem safe_miToString :
    (gsm48MiToString lib mi miLen).Safe len mem ↔ miEnd lib mem mi miLen ≤ len := by
  have htext := lib.text_le miLen.toNat ((octets mi (lib.reads 32 (mem mi) miLen.toNat)).value mem)
  unfold gsm48MiToString miEnd
  simp only [safe_bind, safe_octet, value_octet, safe_octets, safe_write, safe_pure, and_true]
  constructor
  · rintro ⟨hmi, hread, -⟩
    omega
  · intro h
    exact ⟨by omega, by omega, htext⟩

@[simp] theorem safe_sendSiemensMrpci :
    (sendSiemensMrpci lv).Safe len mem ↔ lv < len ∧ (¬ mem lv < 2 → lv + 3 ≤ len) := by
  unfold sendSiemensMrpci
  rw [safe_octet_bind]
  simp only [safe_ite, safe_bind, safe_octets, safe_pure, implies_true, and_true, true_and,
    OfNat.ofNat_ne_zero, false_or]

@[simp] theorem safe_storeClassmark2 (subscr : MmSubscriber) (cm2 : Nat) (cm2Len : Octet) :
    (storeClassmark2 subscr cm2 cm2Len).Safe len mem ↔
      (cm2Len.toNat = 0 ∨ cm2 + cm2Len.toNat ≤ len) ∧ cm2Len.toNat ≤ 3 := by
  unfold storeClassmark2
  simp only [safe_bind, safe_octets, safe_write, safe_pure, and_true]

@[simp] theorem safe_mrpciIfSiemens :
    (mrpciIfSiemens conn lv).Safe len mem ↔ (conn.siemensBts = true → lv < len ∧ (¬ mem lv < 2 → lv + 3 ≤ len)) := by
  unfold mrpciIfSiemens
  simp only [safe_ite, safe_sendSiemensMrpci, safe_pure, implies_true, and_true]

theorem servReq_bounds :
    ((gsm48RxMmServReq lib env conn).value mem ≠ .rejected → (gsm48RxMmServReq lib env conn).Safe len mem) ↔
      MmMessage.Rejects lib env conn len mem .cmServiceRequest ∨ MmMessage.Fits lib conn len mem .cmServiceRequest := by
  have hmi : 4 + (mem 3).toNat + 1 = 5 + (mem 3).toNat := by omega
  unfold gsm48RxMmServReq MmMessage.Rejects MmMessage.Fits
  rw [value_octet_bind, value_octet_bind, safe_octet_bind, safe_octet_bind, hmi]
  generalize hml : mem (4 + (mem 3).toNat) = miLen
  by_cases h8 : conn.dataLen < 8
  · rw [if_pos h8]
    simp [h8]
  · rw [if_neg h8, value_octet_bind, safe_octet_bind]
    by_cases h6 : conn.dataLen < (mem 7).toNat + 6
    · rw [if_pos h6]
      simp [h6]
    · rw [if_neg h6, value_octet_bind, safe_octet_bind]
      by_cases htype : mem (5 + (mem 3).toNat) &&& 7 ≠ 4
      · rw [if_pos htype]
        simp [htype]
      · rw [if_neg htype, value_bind, safe_bind, value_miToString, safe_miToString]
        rw [value_octet_bind, safe_octet_bind, value_bind, safe_bind, safe_mrpciIfSiemens]
        dsimp only
        cases hsubscr : env.byTmsi (tmsiFromString (identityAt lib mem (5 + (mem 3).toNat) miLen)) with
        | none => simp
        | some subscr =>
          simp only [value_bind, safe_bind, value_pure, safe_storeClassmark2, safe_pure]
          have hend : 5 + (mem 3).toNat + 1 ≤ miEnd lib mem (5 + (mem 3).toNat) miLen := le_max_left _ _
          refine Iff.trans ?_ (or_iff_right ?taken).symm
          case taken => simp [h8, h6, htype]
          constructor
          · intro h
            obtain ⟨h3, hlen, h7, hfirst, hdigits, h2, hsiemens, ⟨hread, hwrite⟩, -⟩ := h (by simp)
            exact ⟨hwrite, by omega, hdigits⟩
          · rintro ⟨hwrite, hlen, hdigits⟩ -
            refine ⟨by omega, by omega, by omega, by omega, hdigits, by omega, fun _ => ⟨by omega, fun _ => by omega⟩,
              ⟨by omega, hwrite⟩, trivial⟩

theorem idResp_bounds :
    ((mmRxIdResp lib env conn).value mem ≠ .rejected → (mmRxIdResp lib env conn).Safe len mem) ↔
      MmMessage.Rejects lib env conn len mem .identityResponse ∨ MmMessage.Fits lib conn len mem .identityResponse := by
  have hend : 3 + 1 ≤ miEnd lib mem 3 (mem 2) := le_max_left _ _
  unfold mmRxIdResp MmMessage.Rejects MmMessage.Fits
  rw [value_octet_bind, value_octet_bind, safe_octet_bind, safe_octet_bind]
  simp only [value_bind, safe_bind, value_miToString, safe_miToString, value_ite, safe_ite,
    value_pure, safe_pure, implies_true, and_true, false_or]
  constructor
  · intro h
    exact (h (by split <;> simp)).2.2
  · intro h _
    exact ⟨by omega, by omega, h⟩

theorem locUpdReq_bounds :
    ((mmRxLocUpdReq lib env conn).value mem ≠ .rejected → (mmRxLocUpdReq lib env conn).Safe len mem) ↔
      MmMessage.Rejects lib env conn len mem .locationUpdatingRequest ∨
        MmMessage.Fits lib conn len mem .locationUpdatingRequest := by
  have hend : 10 + 1 ≤ miEnd lib mem 10 (mem 9) := le_max_left _ _
  unfold mmRxLocUpdReq MmMessage.Rejects MmMessage.Fits
  rw [value_octet_bind, value_octet_bind, safe_octet_bind, safe_octet_bind, value_bind,
    safe_bind, value_miToString, safe_miToString, value_octet_bind, safe_octet_bind]
  by_cases hloc : conn.locOperation = true
  · rw [if_pos hloc]
    simp [hloc]
  · rw [if_neg hloc]
    dsimp only
    rw [or_iff_right hloc]
    cases subscrOf env (mem 10 &&& 7) (identityAt lib mem 10 (mem 9)) with
    | none =>
      constructor
      · intro h
        exact (h (by simp)).2.2.1
      · intro h _
        exact ⟨by omega, by omega, h, by omega, by simp⟩
    | some subscr =>
      constructor
      · intro h
        exact (h (by simp)).2.2.1
      · intro h _
        refine ⟨by omega, by omega, h, by omega, ?_⟩
        simp only [safe_bind, safe_octet, safe_pure, and_true]
        omega

/-- What is read of the elements at `lv` if they are said to have a length. -/
theorem safe_extractMi (length : Int) :
    (gsm48ExtractMi lib lv length).Safe len mem ↔
      lv < len ∧ (1 + (mem lv).toNat ≤ length → lv + (mem lv).toNat + 1 < len ∧
        (2 + (mem lv).toNat + (mem (lv + (mem lv).toNat + 1)).toNat ≤ length →
          miEnd lib mem (lv + (mem lv).toNat + 2) (mem (lv + (mem lv).toNat + 1)) ≤ len)) := by
  have hend := le_max_left (lv + (mem lv).toNat + 2 + 1)
    (lv + (mem lv).toNat + 2 + lib.reads 32 (mem (lv + (mem lv).toNat + 2)) (mem (lv + (mem lv).toNat + 1)).toNat)
  unfold gsm48ExtractMi miEnd
  rw [safe_octet_bind]
  by_cases hcm : length < 1 + (mem lv).toNat
  · rw [if_pos hcm]
    simp only [safe_pure, and_true]
    exact (and_iff_left fun h => absurd h (by omega)).symm
  · rw [if_neg hcm, safe_octet_bind]
    by_cases hmi : length < 2 + (mem lv).toNat + (mem (lv + (mem lv).toNat + 1)).toNat
    · rw [if_pos hmi]
      simp only [safe_pure, and_true]
      constructor
      · rintro ⟨hlv, hlen⟩
        exact ⟨hlv, fun _ => ⟨hlen, fun h => absurd h (by omega)⟩⟩
      · rintro ⟨hlv, hlen⟩
        exact ⟨hlv, (hlen (by omega)).1⟩
    · rw [if_neg hmi, safe_octet_bind]
      simp only [safe_bind, safe_miToString, safe_pure, and_true]
      constructor
      · rintro ⟨hlv, hlen, -, hdigits⟩
        exact ⟨hlv, fun _ => ⟨hlen, fun _ => hdigits⟩⟩
      · rintro ⟨hlv, hlen⟩
        obtain ⟨hlen, hdigits⟩ := hlen (by omega)
        have hdigits := hdigits (by omega)
        exact ⟨hlv, hlen, by omega, hdigits⟩

theorem value_extractMi (length : Int) :
    (gsm48ExtractMi lib lv length).value mem =
      if length < 1 + (mem lv).toNat ∨ length < 2 + (mem lv).toNat + (mem (lv + (mem lv).toNat + 1)).toNat then none
      else some (mem (lv + (mem lv).toNat + 2) &&& 7,
        identityAt lib mem (lv + (mem lv).toNat + 2) (mem (lv + (mem lv).toNat + 1))) := by
  unfold gsm48ExtractMi
  rw [value_octet_bind]
  by_cases hcm : length < 1 + (mem lv).toNat
  · rw [if_pos hcm, if_pos (.inl hcm), value_pure]
  · rw [if_neg hcm, value_octet_bind]
    by_cases hmi : length < 2 + (mem lv).toNat + (mem (lv + (mem lv).toNat + 1)).toNat
    · rw [if_pos hmi, if_pos (.inr hmi), value_pure]
    · rw [if_neg hmi, if_neg (not_or.mpr ⟨hcm, hmi⟩), value_octet_bind, value_bind, value_pure, value_miToString]

theorem value_pagingExtractMi :
    ((gsm48PagingExtractMi lib 2 ((len : Int) - 2)).value mem).getD (conn.staleType, conn.staleString) =
      pagedIdentity lib conn len mem := by
  have hmiLen : 3 + (mem 3).toNat + 1 = 4 + (mem 3).toNat := by omega
  have hmi : 3 + (mem 3).toNat + 2 = 5 + (mem 3).toNat := by omega
  unfold gsm48PagingExtractMi pagedIdentity
  rw [value_extractMi]
  simp only [Nat.reduceAdd, hmiLen, hmi]
  by_cases hshort : len < 4 + (mem 3).toNat ∨ len < 5 + (mem 3).toNat + (mem (4 + (mem 3).toNat)).toNat
  · rw [if_pos hshort, if_pos (by omega), getD_none]
  · rw [if_neg hshort, if_neg (by omega), getD_some]

theorem pagResp_bounds :
    ((gsm48RxRrPagResp lib env conn len).value mem ≠ .rejected → (gsm48RxRrPagResp lib env conn len).Safe len mem) ↔
      MmMessage.Rejects lib env conn len mem .pagingResponse ∨ MmMessage.Fits lib conn len mem .pagingResponse := by
  have hreads := lib.reads_le 32 (mem (5 + (mem 3).toNat)) (mem (4 + (mem 3).toNat)).toNat
  have hmiLen : 3 + (mem 3).toNat + 1 = 4 + (mem 3).toNat := by omega
  have hmi : 3 + (mem 3).toNat + 2 = 5 + (mem 3).toNat := by omega
  unfold gsm48RxRrPagResp MmMessage.Rejects MmMessage.Fits
  rw [value_bind, safe_bind, value_pagingExtractMi]
  dsimp only
  cases pagedSubscr env (pagedIdentity lib conn len mem) with
  | none => simp
  | some subscr =>
    refine Iff.trans ?_ (or_iff_right (some_ne_none _)).symm
    unfold gsm48PagingExtractMi
    rw [value_octet_bind, safe_octet_bind, safe_extractMi]
    simp only [value_bind, safe_bind, value_pure, safe_storeClassmark2, safe_mrpciIfSiemens,
      safe_pure, Nat.reduceAdd, hmiLen, hmi, and_true]
    unfold miEnd
    constructor
    · intro h
      obtain ⟨⟨h3, hextract⟩, -, ⟨hread, hwrite⟩, hsiemens⟩ := h (by simp)
      obtain ⟨hmiLen, hdigits⟩ := hextract (by omega)
      refine ⟨hwrite, by omega, fun hinside => ?_⟩
      have hdigits := hdigits (by omega)
      omega
    · rintro ⟨hwrite, hlen, hfirst⟩ -
      refine ⟨⟨by omega, fun _ => ⟨by omega, fun h => ?_⟩⟩, by omega, ⟨by omega, hwrite⟩,
        fun _ => ⟨by omega, fun hlt => ?_⟩⟩
      · have hsix := hfirst (by omega)
        omega
      · rw [UInt8.lt_iff_toNat_lt] at hlt
        simp only [UInt8.reduceToNat] at hlt
        omega

theorem value_storeClassmarks (cm3Len : Option Octet) :
    (storeClassmarks conn cm2Len cm3Len).value mem ≠ .rejected := by
  unfold storeClassmarks
  cases conn.subscr with
  | none => simp
  | some subscr =>
    cases cm3Len with
    | none | some => simp

theorem safe_storeClassmarks (cm3Len : Option Octet) :
    (storeClassmarks conn cm2Len cm3Len).Safe len mem ↔
      (conn.subscr.isSome → (cm2Len.toNat = 0 ∨ 3 + cm2Len.toNat ≤ len) ∧ cm2Len.toNat ≤ 3 ∧
        ∀ n ∈ cm3Len, (n.toNat = 0 ∨ 5 + cm2Len.toNat + n.toNat ≤ len) ∧ n.toNat ≤ 14) := by
  have hcm3 : 3 + cm2Len.toNat + 2 = 5 + cm2Len.toNat := by omega
  unfold storeClassmarks
  cases conn.subscr with
  | none => simp
  | some subscr =>
    cases cm3Len with
    | none => simp
    | some cm3Len =>
      simp only [safe_bind, safe_storeClassmark2, safe_octets, safe_write, safe_pure, and_true,
        isSome_some, forall_const, mem_some_iff, forall_eq', hcm3, and_assoc]

theorem classmark_bounds :
    ((gsm48RxRrClassmark conn len).value mem ≠ .rejected → (gsm48RxRrClassmark conn len).Safe len mem) ↔
      MmMessage.Rejects lib env conn len mem .classmarkChange ∨ MmMessage.Fits lib conn len mem .classmarkChange := by
  have htag : 2 + (mem 2).toNat + 1 = 3 + (mem 2).toNat := by omega
  have hlen : 2 + (mem 2).toNat + 2 = 4 + (mem 2).toNat := by omega
  unfold gsm48RxRrClassmark MmMessage.Rejects MmMessage.Fits
  rw [value_octet_bind, safe_octet_bind, htag, hlen]
  dsimp only
  by_cases hcm3 : (mem 2).toNat + 1 < payloadLen len
  · rw [if_pos hcm3, value_octet_bind, safe_octet_bind]
    by_cases htag : mem (3 + (mem 2).toNat) ≠ 0x20
    · rw [if_pos htag]
      simp [hcm3, htag]
    · rw [if_neg htag]
      by_cases hlong : 3 < (mem 2).toNat
      · rw [if_pos hlong]
        simp [hcm3, hlong]
      · rw [if_neg hlong, value_octet_bind, safe_octet_bind]
        by_cases hlong3 : 14 < (mem (4 + (mem 2).toNat)).toNat
        · rw [if_pos hlong3]
          simp [hcm3, hlong3]
        · rw [if_neg hlong3, safe_storeClassmarks]
          refine Iff.trans ?_ (or_iff_right ?taken).symm
          case taken => exact fun h => h.2.elim htag fun h => h.elim hlong hlong3
          constructor
          · intro h
            obtain ⟨h2, h3, h4, hstore⟩ := h (value_storeClassmarks _ _)
            refine ⟨by omega, fun _ => by omega, fun hsubscr => ?_⟩
            obtain ⟨hread, hwrite, hread3⟩ := hstore hsubscr
            have hread3 := (hread3 _ rfl).1
            exact ⟨hwrite, by omega, fun _ => by omega⟩
          · rintro ⟨h3, h5, hstore⟩ -
            have h5 := h5 hcm3
            refine ⟨by omega, by omega, by omega, fun hsubscr => ?_⟩
            obtain ⟨hwrite, hread, hread3⟩ := hstore hsubscr
            have hread3 := hread3 hcm3
            refine ⟨by omega, hwrite, fun n hn => ?_⟩
            cases hn
            exact ⟨by omega, by omega⟩
  · rw [if_neg hcm3, safe_storeClassmarks]
    refine Iff.trans ?_ (or_iff_right fun h => hcm3 h.1).symm
    constructor
    · intro h
      obtain ⟨h2, hstore⟩ := h (value_storeClassmarks _ _)
      refine ⟨by omega, fun h => absurd h hcm3, fun hsubscr => ?_⟩
      obtain ⟨hread, hwrite, -⟩ := hstore hsubscr
      exact ⟨hwrite, by omega, fun h => absurd h hcm3⟩
    · rintro ⟨h3, -, hstore⟩ -
      refine ⟨by omega, fun hsubscr => ?_⟩
      obtain ⟨hwrite, hread, -⟩ := hstore hsubscr
      refine ⟨by omega, hwrite, fun n hn => ?_⟩
      cases hn

/-- **A message that is not rejected is read inside its bounds, and its classmarks are kept inside their fields, if and
    only if its elements fit.** -/
theorem handle_bounds_iff (lib : MiLib) (env : MmEnv) (conn : MmConn) (kind : MmMessage) (msg : List Octet)
    (behind : Nat → Octet) :
    ((kind.handle lib env conn msg.length).value (memory msg behind) ≠ .rejected →
      (kind.handle lib env conn msg.length).Safe msg.length (memory msg behind)) ↔
        kind.Rejects lib env conn msg.length (memory msg behind) ∨
          kind.Fits lib conn msg.length (memory msg behind) := by
  cases kind with
  | cmServiceRequest => exact servReq_bounds
  | pagingResponse => exact pagResp_bounds
  | classmarkChange => exact classmark_bounds
  | identityResponse => exact idResp_bounds
  | locationUpdatingRequest => exact locUpdReq_bounds

/-- A library that reads no more than the type of an identity, and writes an empty string. -/
def typeOnly : MiLib where
  reads := fun _ _ _ => 1
  text := fun _ _ _ => [0]
  reads_le := fun _ _ _ => le_max_left _ _
  text_le := fun _ _ => by decide

/-- No subscriber is known. -/
def nobody : MmEnv := ⟨fun _ => none, fun _ => none, fun _ => none⟩

/-- **A classmark of 200 octets in a message that ends behind its length.** -/
theorem not_bounds_classmark : ¬ ∀ (lib : MiLib) (env : MmEnv) (conn : MmConn) (kind : MmMessage) (msg : List Octet)
    (behind : Nat → Octet), (kind.handle lib env conn msg.length).value (memory msg behind) ≠ .rejected →
      (kind.handle lib env conn msg.length).Safe msg.length (memory msg behind) := by
  intro h
  have hsafe := h typeOnly nobody { subscr := some { id := 1 }, dataLen := 1200 } .classmarkChange [0x06, 0x16, 200]
    fun _ => 0
  rcases (@classmark_bounds typeOnly nobody _ _ _).mp hsafe with hrejects | hfits
  · exact absurd hrejects.1 (by decide)
  · exact absurd (hfits.2.2 rfl).1 (by decide)

end Handlers

end OpenBsc.Libmsc
