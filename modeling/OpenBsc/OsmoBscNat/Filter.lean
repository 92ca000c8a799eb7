import OpenBsc.OsmoBscNat.Types

/-!
# `OsmoBscNat.Filter` — what is let through, and what is learnt of a connection

The filters look into the GSM 04.08 message of a connection request or of a DT1. They reject by a negative
return code, and they set the fields of the connection that later decisions depend on.
-/

namespace OpenBsc.OsmoBscNat

variable (lib : Osmocore)

/-! ## The IPA level -/

/-- `DIR_BSC` and `DIR_MSC`. -/
inductive Direction where
  | bsc | msc

/-- `bsc_nat_filter_ipa` on SCCP: the black list has the BSSMAP RESET towards the MSC and the RESET
    ACKNOWLEDGE towards the BSC; the white list has everything else. -/
def bscNatFilterIpa (dir : Direction) (msg : SccpMsg) : Bool :=
  let reset := match dir with
    | .msc => 0x30
    | .bsc => 0x31
  msg.calledSsn == some 254 && msg.bssap == some 0 && msg.gsmType == some reset

/-! ## Access lists -/

/-- `bsc_nat_lst_check_allow`, true for return code 0. -/
def bscNatLstCheckAllow (lst : BscNatAccLst) (miString : List Octet) : Bool :=
  lst.any fun entry => match entry.imsiAllow with
    | some pattern => lib.regexec pattern miString
    | none => false

/-- `lst_check_deny`, true for return code 0. -/
def lstCheckDeny (lst : BscNatAccLst) (miString : List Octet) : Bool :=
  lst.any fun entry => match entry.imsiDeny with
    | some pattern => lib.regexec pattern miString
    | none => false

/-- `auth_imsi`: allowed at the BSC, denied at the BSC, denied at the NAT, and else allowed. -/
def authImsi (natLst bscLst : Option BscNatAccLst) (miString : List Octet) : Int :=
  let bscLst := bscLst.getD []
  if bscNatLstCheckAllow lib bscLst miString then 1
  else if lstCheckDeny lib bscLst miString then -2
  else if lstCheckDeny lib (natLst.getD []) miString then -3
  else 1

/-! ## Connection requests -/

/-- What `bsc_nat_filter_sccp_cr` returns, with its two output parameters. -/
structure CrVerdict where
  filter : Int
  conType : NatConType := .none
  imsi : Option (List Octet) := none

/-- The common end of the checks: only an IMSI can be looked up in the lists. -/
def crCheckMi (natLst bscLst : Option BscNatAccLst) (conType : NatConType) (miType : Nat)
    (miString : List Octet) : CrVerdict :=
  if miType ≠ 1 then { filter := 0, conType := conType }
  else { filter := authImsi lib natLst bscLst miString, conType := conType, imsi := some miString }

/-- `_cr_check_loc_upd`. -/
def crCheckLocUpd (natLst bscLst : Option BscNatAccLst) (data : List Octet) : CrVerdict :=
  if data.length < 8 then { filter := -1, conType := .lu }
  else crCheckMi lib natLst bscLst .lu (octetAt data 8 &&& 0x7)
    (lib.gsm48MiToString ((data.drop 8).take (octetAt data 7)))

/-- `gsm48_extract_mi`: the type of the mobile identity behind the classmark, and its string. -/
def gsm48ExtractMi (classmark2Lv : List Octet) : Option (Nat × List Octet) :=
  if classmark2Lv.length < 1 + octetAt classmark2Lv 0 then none
  else
    let miLv := classmark2Lv.drop (octetAt classmark2Lv 0 + 1)
    if classmark2Lv.length < 2 + octetAt classmark2Lv 0 + octetAt miLv 0 then none
    else some (octetAt miLv 1 &&& 0x7, lib.gsm48MiToString ((miLv.drop 1).take (octetAt miLv 0)))

/-- `_cr_check_cm_serv_req`. -/
def crCheckCmServReq (natLst bscLst : Option BscNatAccLst) (data : List Octet) : CrVerdict :=
  if data.length < 6 then { filter := -1, conType := .cmServReq }
  else
    let conType := if octetAt data 0 &&& 0xf = 0x8 then .ssa else .cmServReq
    match gsm48ExtractMi lib (data.drop 1) with
    | none => { filter := -1, conType := conType }
    | some (miType, miString) => crCheckMi lib natLst bscLst conType miType miString

/-- `_cr_check_pag_resp`. -/
def crCheckPagResp (natLst bscLst : Option BscNatAccLst) (data : List Octet) : CrVerdict :=
  if data.length < 6 then { filter := -1, conType := .pagResp }
  else
    match gsm48ExtractMi lib (data.drop 1) with
    | none => { filter := -1, conType := .pagResp }
    | some (miType, miString) => crCheckMi lib natLst bscLst .pagResp miType miString

/-- `bsc_nat_filter_sccp_cr`: COMPLETE LAYER 3 INFORMATION with a GSM 04.08 message in it. -/
def bscNatFilterSccpCr (natLst bscLst : Option BscNatAccLst) (msg : SccpMsg) : CrVerdict :=
  let l3 := msg.l3.getD []
  if msg.gsmType ≠ some 0x57 then { filter := -1 }
  else if l3.length - 3 < octetAt l3 1 then { filter := -1 }
  else
    match lib.tlvParse ((l3.drop 3).take (octetAt l3 1 - 1)) 0x17 with
    | none => { filter := -1 }
    | some (offset, length) =>
      if length < 2 then { filter := -1 }
      else
        let hdr48 := ((l3.drop 3).drop offset).take length
        let proto := octetAt hdr48 0 &&& 0x0f
        let msgType := octetAt hdr48 1 &&& 0xbf
        if proto = 0x05 ∧ msgType = 0x08 then crCheckLocUpd lib natLst bscLst (hdr48.drop 2)
        else if proto = 0x05 ∧ msgType = 0x24 then crCheckCmServReq lib natLst bscLst (hdr48.drop 2)
        else if proto = 0x06 ∧ msgType = 0x27 then crCheckPagResp lib natLst bscLst (hdr48.drop 2)
        else { filter := 0, conType := .other }

/-! ## Data -/

/-- `bsc_unpack_dtap`: the GSM 04.08 message behind the DTAP header, and the length the header claims. -/
def bscUnpackDtap (l3 : List Octet) : Option (List Octet × Nat) :=
  let len := octetAt l3 2
  if len < l3.length - 3 then none
  else if len < 2 then none
  else some (l3.drop 3, len)

/-- The protocol and the message type of a GSM 04.08 message. -/
def gsm48Proto (hdr48 : List Octet) : Nat := octetAt hdr48 0 &&& 0x0f

def gsm48MsgType (hdr48 : List Octet) : Nat := octetAt hdr48 1 &&& 0xbf

/-- `_dt_check_id_resp`: an IMSI is recorded, whatever the lists say. -/
def dtCheckIdResp (natLst bscLst : Option BscNatAccLst) (data : List Octet) (length : Nat)
    (con : SccpConnections) : Int × SccpConnections :=
  if length < 2 then (-1, con)
  else if octetAt data 0 < length - 1 then (-2, con)
  else if octetAt data 1 &&& 0x7 ≠ 1 then (0, con)
  else
    let miString := lib.gsm48MiToString ((data.drop 1).take (octetAt data 0))
    (authImsi lib natLst bscLst miString, { con with imsiChecked := true, imsi := some miString })

/-- `bsc_nat_filter_dt`: identity responses, until an IMSI was checked. -/
def bscNatFilterDt (natLst bscLst : Option BscNatAccLst) (msg : SccpMsg) (con : SccpConnections) :
    Int × SccpConnections :=
  if con.imsiChecked then (0, con)
  else if msg.bssap ≠ some 1 then (0, con)
  else
    match bscUnpackDtap (msg.l3.getD []) with
    | none => (-1, con)
    | some (hdr48, len) =>
      if gsm48Proto hdr48 = 0x05 ∧ gsm48MsgType hdr48 = 0x19 then
        dtCheckIdResp lib natLst bscLst (hdr48.drop 2) (len - 2) con
      else (0, con)

/-- What `bsc_check_ussd` returns, the connection afterwards, and what it sends to the provider. -/
structure UssdCheck where
  handled : Bool
  con : SccpConnections
  sent : List NatOut := []

/-- The subscriber is on the list, and the text of the request matches the query. -/
def ussdWanted (cfg : NatConfig) (hdr48 : List Octet) (len : Nat) (imsi : List Octet) : Bool :=
  match cfg.ussdLst, lib.gsm0480DecodeUssdRequest (hdr48.take len), cfg.ussdQuery with
  | some lst, some text, some query =>
    bscNatLstCheckAllow lib lst imsi && octetAt text 0 != 0xff && lib.regexec query text
  | _, _, _ => false

/-- The part of `bsc_check_ussd` for a supplementary services message of a USSD connection. `forward_ussd`
    and `forward_ussd_simple` fail when no provider is connected. -/
def checkUssdMsg (cfg : NatConfig) (ussdCon : Bool) (msg : SccpMsg) (hdr48 : List Octet) (len : Nat)
    (imsi : List Octet) (con : SccpConnections) : UssdCheck :=
  let ti := (octetAt hdr48 0 &&& 0x70) >>> 4
  if gsm48MsgType hdr48 = 0x3b then
    if ussdWanted lib cfg hdr48 len imsi then
      let con := { con with ussdTi := con.ussdTi ||| 1#8 <<< ti }
      if ussdCon then ⟨true, con, [.ussdState con.remoteRef con.realRef imsi, .toUssd msg]⟩
      else ⟨false, con, []⟩
    else ⟨false, con, []⟩
  else if gsm48MsgType hdr48 = 0x3a ∧ con.ussdTi.getLsbD ti then
    if ussdCon then ⟨true, con, [.toUssd msg]⟩ else ⟨false, con, []⟩
  else ⟨false, con, []⟩

/-- `bsc_check_ussd`: a connection for supplementary services with a verified IMSI. -/
def bscCheckUssd (cfg : NatConfig) (ussdCon : Bool) (msg : SccpMsg) (con : SccpConnections) : UssdCheck :=
  match con.imsi with
  | none => ⟨false, con, []⟩
  | some imsi =>
    if con.conType ≠ .ssa ∨ con.authorized = false ∨ cfg.ussdLst = none ∨ cfg.ussdQuery = none ∨
        msg.bssap ≠ some 1 ∨ 17 < imsi.length then ⟨false, con, []⟩
    else
      match bscUnpackDtap (msg.l3.getD []) with
      | none => ⟨false, con, []⟩
      | some (hdr48, len) =>
        if gsm48Proto hdr48 ≠ 0x0b then ⟨false, con, []⟩
        else checkUssdMsg lib cfg ussdCon msg hdr48 len imsi con

/-- `update_con_authorize`: a CIPHER MODE COMMAND, or a CM SERVICE ACCEPT. -/
def updateConAuthorize (msg : SccpMsg) (con : SccpConnections) : SccpConnections :=
  if con.authorized then con
  else if msg.bssap = some 0 ∧ msg.gsmType = some 0x53 then { con with authorized := true }
  else if msg.bssap = some 1 then
    match bscUnpackDtap (msg.l3.getD []) with
    | none => con
    | some (hdr48, _) =>
      if gsm48Proto hdr48 = 0x05 ∧ gsm48MsgType hdr48 = 0x21 then { con with authorized := true } else con
  else con

end OpenBsc.OsmoBscNat
