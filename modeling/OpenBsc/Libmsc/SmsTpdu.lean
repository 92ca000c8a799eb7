import OpenBsc.Lib.SemiOctets

/-!
# `Libmsc.SmsTpdu` — the messages that carry an SMS (`gsm_04_11.c`)

A phone submits an SMS in a TPDU, which `gsm340_rx_tpdu` reads; it is stored and later delivered in a TPDU that
`gsm340_gen_tpdu` writes, with the headers of the RP and CP layers before it.

Of the record in between, the decoded text, the validity in minutes and what is not set from a TPDU are left out:
nothing of them is delivered. What libosmocore does with numbers, what the database knows and what the clock says are in
a `SmsEnv`.
-/

namespace OpenBsc.Libmsc

/-! ## Records -/

/-- `struct gsm_subscriber`, as far as its number. -/
structure SmsSubscriber where
  extension : List Octet

/-- `struct gsm_sms`; the user data is the array, of which `userDataLen` says how much is used. -/
structure SmsRecord where
  sender : SmsSubscriber
  receiver : SmsSubscriber
  statusRepReq : Octet
  udHdrInd : Octet
  protocolId : Octet
  dataCodingScheme : Octet
  msgRef : Octet
  destAddr : List Octet
  userDataLen : Octet
  userData : List Octet

/-- `struct tm`. -/
structure Tm where
  year : Nat
  mon : Nat
  mday : Nat
  hour : Nat
  min : Nat
  sec : Nat
  gmtoff : Int

/-- `gsm48_encode_bcd_number`, for a length, what comes before the digits and a number: the first octet and the digits,
    or none if it fails. `gsm48_decode_bcd_number`, for the size of the result. `subscr_get_by_extension`, whether
    `db_sms_store` stores what it is given, and `localtime`. -/
structure SmsEnv where
  encodeBcdNumber : Nat → Nat → List Octet → Option (Octet × List Octet)
  decodeBcdNumber : Nat → List Octet → List Octet
  byExtension : List Octet → Option SmsSubscriber
  stores : Bool
  localtime : Tm

/-! ## Coding schemes -/

/-- `enum sms_alphabet`. -/
inductive SmsAlphabet where
  | none | sevenBitDefault | ucs2 | eightBitData
  deriving DecidableEq

/-- `gsm338_get_sms_alphabet`; compressed messages are not supported. -/
def gsm338GetSmsAlphabet (dcs : Octet) : Option SmsAlphabet :=
  let cgbits := dcs >>> 4
  if cgbits &&& 0xc = 0 then
    if cgbits &&& 2 ≠ 0 then Option.none
    else if (dcs >>> 2) &&& 3 = 0 then some .sevenBitDefault
    else if (dcs >>> 2) &&& 3 = 1 then some .eightBitData
    else if (dcs >>> 2) &&& 3 = 2 then some .ucs2
    else some .none
  else if cgbits = 0xc ∨ cgbits = 0xd then some .sevenBitDefault
  else if cgbits = 0xe then some .ucs2
  else if cgbits = 0xf then if dcs &&& 4 ≠ 0 then some .eightBitData else some .sevenBitDefault
  else some .none

/-! ## Submission -/

/-- `GSM411_RP_CAUSE_*`, as far as a submission fails for them. -/
inductive RpCause where
  | unknownSubscriber
  | netOutOfOrder
  | semantIncMsg
  | ieNotexist

/-- What `memcpy` copies from a buffer, behind whose end there are zeros. -/
def copied (n : Nat) (buf : List Octet) : List Octet := (buf ++ List.replicate n 0).take n

/-- What follows the validity period of a format. -/
def afterValidityPeriod (vpf : Octet) (smsp : List Octet) : List Octet :=
  if vpf = 2 then smsp.drop 1
  else if vpf = 3 then smsp.drop 7
  else if vpf = 1 then
    -- the additional functionality indicator
    if smsp.headD 0 &&& 0x80 ≠ 0 then smsp.drop 8 else smsp.drop 7
  else smsp

/-- `gsm340_rx_tpdu`, for the subscriber of the connection and the octets from the TPDU on: the record that is
    stored. -/
def gsm340RxTpdu (env : SmsEnv) (subscr : SmsSubscriber) (smsp : List Octet) : Except RpCause SmsRecord :=
  let first := smsp.headD 0
  let smsMti := first &&& 3
  let smsVpf := (first &&& 0x18) >>> 3
  let smsp := smsp.drop 1
  let msgRef := smsp.headD 0
  let smsp := smsp.drop 1
  -- the length of the destination address in octets
  let daLenBytes := 2 + (smsp.headD 0).toNat / 2 + (smsp.headD 0).toNat % 2
  if 12 < daLenBytes then .error .semantIncMsg
  else
    let addressLv := UInt8.ofNat (daLenBytes - 1) :: (copied 12 (smsp.take daLenBytes)).drop 1
    let destAddr := env.decodeBcdNumber 21 addressLv
    let smsp := smsp.drop daLenBytes
    let protocolId := smsp.headD 0
    let dataCodingScheme := (smsp.drop 1).headD 0
    match gsm338GetSmsAlphabet dataCodingScheme with
    | none => .error .netOutOfOrder
    | some _ =>
      let smsp := afterValidityPeriod smsVpf (smsp.drop 2)
      let userDataLen := smsp.headD 0
      match env.byExtension destAddr with
      | none => .error .unknownSubscriber
      | some receiver =>
        if smsMti = 1 then
          if env.stores then
            .ok
              { sender := subscr
                receiver := receiver
                statusRepReq := first &&& 0x20
                udHdrInd := first &&& 0x40
                protocolId := protocolId
                dataCodingScheme := dataCodingScheme
                msgRef := msgRef
                destAddr := destAddr
                userDataLen := userDataLen
                userData := copied userDataLen.toNat (smsp.drop 1) }
          else .error .netOutOfOrder
        else .error .ieNotexist

/-! ## Delivery -/

/-- `bcdify`. -/
def bcdify (value : Octet) : Octet := value / 10 ||| (value % 10) <<< (4 : Octet)

/-- `gsm340_gen_scts`. -/
def gsm340GenScts (tm : Tm) : List Octet :=
  [bcdify (UInt8.ofNat (tm.year % 100)), bcdify (UInt8.ofNat (tm.mon + 1)), bcdify (UInt8.ofNat tm.mday),
    bcdify (UInt8.ofNat tm.hour), bcdify (UInt8.ofNat tm.min), bcdify (UInt8.ofNat tm.sec),
    bcdify (UInt8.ofInt (tm.gmtoff.tdiv (60 * 15)))]

/-- `gsm340_gen_oa`; none if the number cannot be written, which is taken for a length. -/
def gsm340GenOa (env : SmsEnv) (subscr : SmsSubscriber) : Option (List Octet) :=
  (env.encodeBcdNumber 12 1 subscr.extension).map fun encoded =>
    UInt8.ofNat subscr.extension.length :: 0xb9 :: encoded.2

/-- How many octets so many characters of seven bits take. -/
def septetOctets (userDataLen : Nat) : Nat :=
  let octetLen := userDataLen * 7 / 8
  if userDataLen * 7 % 8 ≠ 0 then octetLen + 1 else octetLen

/-- The user data of a delivery. -/
def deliveredData (sms : SmsRecord) : List Octet :=
  match gsm338GetSmsAlphabet sms.dataCodingScheme with
  | some .sevenBitDefault => sms.userData.take (septetOctets sms.userDataLen.toNat)
  | some .ucs2 | some .eightBitData => sms.userData.take sms.userDataLen.toNat
  | some .none | none => []

/-- `gsm340_gen_tpdu`. -/
def gsm340GenTpdu (env : SmsEnv) (sms : SmsRecord) : Option (List Octet) :=
  let first : Octet := (if sms.statusRepReq ≠ 0 then 0x20 else 0) ||| if sms.udHdrInd ≠ 0 then 0x40 else 0
  (gsm340GenOa env sms.sender).map fun oa =>
    first :: oa ++ sms.protocolId :: sms.dataCodingScheme :: gsm340GenScts env.localtime ++
      sms.userDataLen :: deliveredData sms

/-- `gsm411_cp_sendmsg`, for a transaction of the SMS protocol. -/
def gsm411CpSendmsg (transactionId : Octet) (msgType : Octet) (msg : List Octet) : List Octet :=
  (9 ||| transactionId <<< (4 : Octet)) :: msgType :: msg

/-- `gsm411_rp_sendmsg`. -/
def gsm411RpSendmsg (transactionId : Octet) (rpMsgType rpMsgRef : Octet) (msg : List Octet) : List Octet :=
  gsm411CpSendmsg transactionId 1 (UInt8.ofNat (msg.length + 2) :: rpMsgType :: rpMsgRef :: msg)

/-- The address of the service centre, after its length. -/
def smscAddress : List Octet := [0x07, 0x91, 0x44, 0x77, 0x58, 0x10, 0x06, 0x50]

/-- `gsm411_send_sms`: what is sent on a transaction. -/
def gsm411SendSms (env : SmsEnv) (transactionId : Octet) (sms : SmsRecord) : Option (List Octet) :=
  (gsm340GenTpdu env sms).map fun tpdu =>
    gsm411RpSendmsg transactionId 1 42 (smscAddress ++ 0 :: UInt8.ofNat tpdu.length :: tpdu)

/-! ## Fixed inputs -/

open SemiOctets in
/-- Numbers are written and read as libosmocore does, and every number is that of somebody. -/
def plainSmsEnv : SmsEnv where
  encodeBcdNumber maxLen hLen number :=
    if number.all (bcdNumDigits.contains ·) ∧ hLen + (number.length + 1) / 2 ≤ maxLen then
      some (UInt8.ofNat (hLen + (number.length + 1) / 2), semiOctets (digitsOf number))
    else none
  decodeBcdNumber size lv := (readNumber ((lv.drop 2).take (octetAt lv 0 - 1))).take (size - 2)
  byExtension number := some ⟨number⟩
  stores := true
  localtime := ⟨114, 0, 1, 12, 0, 0, 3600⟩

end OpenBsc.Libmsc
