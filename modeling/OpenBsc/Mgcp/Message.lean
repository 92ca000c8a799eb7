import OpenBsc.Mgcp.Ports

/-!
# `Mgcp.Message` — reading MGCP messages (`mgcp_protocol.c`)

A message is octets; the header and the parameter lines are tokenised in place, by writing zeros over what ends them.
The header's four words are found first, and only behind them the loop over the lines looks for the end of the first
line. What lies behind a message in its buffer reads as zero. The functions of the C library (`strtoul`, `sscanf`,
`inet_aton`) follow their documentation.
-/

namespace OpenBsc.Mgcp

/-! ## Words of the header -/

/-- The octets that end words and lines. -/
def space : Octet := 32
def carriageReturn : Octet := 13
def lineFeed : Octet := 10

/-- `struct mgcp_msg_ptr`; the length is one less than that of the word. -/
structure MgcpMsgPtr where
  start : Nat
  length : Nat

/-- The position behind a word. -/
def MgcpMsgPtr.stop (p : MgcpMsgPtr) : Nat := p.start + p.length + 1

/-- The loop of `find_msg_pointers` from position `i` on: where the current word began, if it is in one, and for how
    many words there is room. -/
def msgPointers (i : Nat) (word : Option Nat) (room : Nat) : List Octet → List MgcpMsgPtr
  | [] => []
  | o :: rest =>
    if room = 0 then []
    else if o = space ∨ o = carriageReturn ∨ o = lineFeed then
      let more (room : Nat) := if o = carriageReturn ∨ o = lineFeed then [] else msgPointers (i + 1) none room rest
      match word with
      | some start => ⟨start, i - start - 1⟩ :: more (room - 1)
      | none => more room
    else msgPointers (i + 1) (some (word.getD i)) room rest

/-- `find_msg_pointers`: none where there is no room left. -/
def findMsgPointers (l3h : List Octet) (size : Nat) : Option (List MgcpMsgPtr) :=
  let ptrs := msgPointers 0 none size l3h
  if ptrs.length = size then none else some ptrs

namespace MgcpConfig

/-- A 32-bit `int` from the low bits of an `unsigned long`. -/
def toInt32 (n : Nat) : Int := (BitVec.ofNat 32 n).toInt

/-- `mgcp_trunk_num`. -/
def mgcpTrunkNum (cfg : MgcpConfig) (nr : Int) : Option Nat := (cfg.trunks.findIdx? (·.trunkNr = nr)).map (· + 1)

/-- `find_e1_endpoint`, with the buffer from the name on. -/
def findE1Endpoint (cfg : MgcpConfig) (mgcp : List Octet) : Option EndpRef :=
  let trunk := strtoul 10 (mgcp.drop 6)
  if trunk.2.head? ≠ some (octetOf '/') ∨ toInt32 trunk.1 < 1 then none
  else
    let endp := strtoul 10 trunk.2.tail
    if endp.2.head? ≠ some (octetOf '@') then none
    else if toInt32 endp.1 = 1 then none
    else
      match cfg.mgcpTrunkNum (toInt32 trunk.1) with
      | none => none
      | some k =>
        let count := ((cfg.trunk? k).map fun tcfg => tcfg.endpoints.length).getD 0
        if toInt32 endp.1 < 1 ∨ count ≤ (toInt32 endp.1).toNat then none else some ⟨k, (toInt32 endp.1).toNat⟩

/-- `find_endpoint`, with the buffer from the name on. -/
def findEndpoint (cfg : MgcpConfig) (mgcp : List Octet) : Option EndpRef :=
  if (octets "ds/e1").isPrefixOf mgcp then cfg.findE1Endpoint mgcp
  else
    let gw := strtoul 16 mgcp
    if 0 < gw.1 % 2 ^ 32 ∧ gw.1 % 2 ^ 32 < cfg.trunk.endpoints.length ∧ cString gw.2 = octets "@mgw" then
      some ⟨0, gw.1 % 2 ^ 32⟩
    else none

end MgcpConfig

/-- What `mgcp_analyze_header` yields: the transaction, the endpoint if the header is in order, and the buffer. -/
structure MgcpHeader where
  trans : List Octet
  endp : Option EndpRef
  l3h : List Octet

/-- The octet behind each word becomes a zero. -/
def terminate (ptrs : List MgcpMsgPtr) (l3h : List Octet) : List Octet :=
  ptrs.foldr (fun p buf => buf.set p.stop 0) l3h

/-- `mgcp_analyze_header`. -/
def mgcpAnalyzeHeader (cfg : MgcpConfig) (l3h : List Octet) : MgcpHeader :=
  match findMsgPointers l3h 6 with
  | some (p0 :: p1 :: p2 :: p3 :: _) =>
    let buf := terminate [p0, p1, p2, p3] l3h
    if (octets "1.0").isPrefixOf (buf.drop p3.start) ∧ (octets "MGCP").isPrefixOf (buf.drop p2.start) then
      ⟨cString (buf.drop p0.start), cfg.findEndpoint (buf.drop p1.start), buf⟩
    else ⟨octets "000000", none, buf⟩
  | _ => ⟨octets "000000", none, l3h⟩

/-! ## Lines -/

/-- A line that the loop over the parameters does not take for malformed. -/
def properParam (param : List Octet) : Bool :=
  param = [carriageReturn] ∨
    (2 < param.length ∧ isLower (param.headD 0) ∧ param[1]? = some (octetOf '=')) ∨
    (3 ≤ param.length ∧ param[1]? = some (octetOf ':') ∧ param[2]? = some space)

/-- The line without a carriage return at its end. -/
def chomp (line : List Octet) : List Octet :=
  if line.getLast? = some carriageReturn then line.dropLast else line

/-- `MSG_TOKENIZE_START` to `MSG_TOKENIZE_END`: the first line is skipped, and `line` is done with every other one up to
    the last line feed. `line` ends the loop with an error code; so does a malformed line. -/
def tokenize {σ : Type} (line : σ → List Octet → σ × Option Nat) (errorCode : Nat) (first : Bool) (cur : List Octet)
    (s : σ) : List Octet → σ × Option Nat
  | [] => (s, none)
  | o :: rest =>
    if o = lineFeed then
      if first then tokenize line errorCode false [] s rest
      else if properParam cur then
        match line s (chomp cur) with
        | (s, some code) => (s, some code)
        | (s, none) => tokenize line errorCode false [] s rest
      else (s, some errorCode)
    else tokenize line errorCode first (cur ++ [o]) s rest

/-- The value of a parameter line. -/
def paramValue (line : List Octet) : List Octet := cString (line.drop 3)

/-! ## Values -/

/-- `parse_conn_mode`. -/
def parseConnMode (msg : List Octet) : Option MgcpConnectionMode :=
  if msg = octets "recvonly" then some .recvOnly
  else if msg = octets "sendrecv" then some .recvSend
  else if msg = octets "sendonly" then some .sendOnly
  else if msg = octets "loopback" then some .loopback
  else none

/-- What `sscanf` does with text in its format. -/
def scanText (text s : List Octet) : Option (List Octet) :=
  if text.isPrefixOf s then some (s.drop text.length) else none

/-- What `sscanf` does with a decimal conversion of at most `width` octets. -/
def scanInt (width : Nat) (s : List Octet) : Option (Int × List Octet) :=
  let s := s.dropWhile isSpace
  let (negative, digits) := takeSign (s.take width)
  let (value, count, rest) := takeDigits 10 digits 0 0
  if count = 0 then none
  else some ((BitVec.ofInt 32 (if negative then -value else value)).toInt, rest ++ s.drop width)

/-- `sscanf(param, "m=audio %d RTP/AVP %d", …)`, where it returns 2. -/
def scanMedia (param : List Octet) : Option (Int × Int) :=
  (scanText (octets "m=audio") (cString param)).bind fun s =>
    (scanInt s.length s).bind fun port =>
      (scanText (octets "RTP/AVP") (port.2.dropWhile isSpace)).bind fun s =>
        (scanInt s.length s).map fun payload => (port.1, payload.1)

/-- `sscanf(param, "c=IN IP4 %15s", …)`, where it returns 1. -/
def scanConnection (param : List Octet) : Option (List Octet) :=
  (scanText (octets "c=IN") (cString param)).bind fun s =>
    (scanText (octets "IP4") (s.dropWhile isSpace)).bind fun s =>
      let word := ((s.dropWhile isSpace).take 15).takeWhile fun o => !isSpace o
      if word = [] then none else some word

/-- A number of `inet_aton`: decimal, octal or hexadecimal. -/
def inetNumber (s : List Octet) : Option (Nat × List Octet) :=
  match s with
  | [] => none
  | o :: rest =>
    if (digitValue 10 o).isNone then none
    else if o = octetOf '0' ∧ (rest.head? = some (octetOf 'x') ∨ rest.head? = some (octetOf 'X')) then
      let (value, _, rest) := takeDigits 16 rest.tail 0 0
      some (value, rest)
    else
      let (value, _, rest) := takeDigits (if o = octetOf '0' then 8 else 10) s 0 0
      some (value, rest)

/-- The parts of an address from one with index `part` on; the last one fills the rest of it. -/
def inetParts : (left : Nat) → (addr : Nat) → List Octet → Option Nat
  | 0, _, _ => none
  | left + 1, addr, s =>
    (inetNumber s).bind fun (value, rest) =>
      if rest.head? = some (octetOf '.') then
        if value < 256 ∧ left ≠ 0 then inetParts left (addr * 256 + value) rest.tail else none
      else if (rest.head?.all isSpace) ∧ value < 256 ^ (left + 1) then some (addr * 256 ^ (left + 1) + value)
      else none

/-- `inet_aton`. -/
def inetAton (s : List Octet) : Option (BitVec 32) := (inetParts 4 0 s).map (BitVec.ofNat 32)

end OpenBsc.Mgcp
