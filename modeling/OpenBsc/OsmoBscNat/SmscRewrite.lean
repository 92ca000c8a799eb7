import OpenBsc.Lib.Buffer
import OpenBsc.OsmoBscNat.NumberRules

/-!
# `OsmoBscNat.SmscRewrite` — the service centre that a short message goes to is rewritten (`bsc_nat_utils.c`)

`rewrite_smsc` takes a CP-DATA message apart: the lengths of the CP layer, of the originator and the destination of the
RP layer, of the user data, and of the address in it. If the rules give a new number for the destination, and the
address in the user data is one of those that are asked for, a message is put together with the new number, from what
the pointers into the old one point to.

The new number is encoded into an array of twelve octets. What libosmocore does with numbers is in an `SmscLib`.
-/

namespace OpenBsc.OsmoBscNat

open SemiOctets Buffer Prog List Option

/-! ## Data -/

/-- libosmocore. `gsm48_decode_bcd_number` with one octet before the digits, for the size of a string: how many of so
    many octets of digits it reads, and the string that it makes of them, which ends two digits before the size at the
    latest. `gsm48_encode_bcd_number` with one octet before the digits, for the most that the length may be: the octets
    of digits, or an error number. -/
structure SmscLib extends RegexLib where
  decodeReads : Nat → Nat → Nat
  decode : Nat → List Octet → List Octet
  encode : Nat → List Octet → Except Nat (List Octet)
  reads_le : ∀ size n, decodeReads size n ≤ n
  decode_eq : ∀ size digits, decode size (digits.take (decodeReads size digits.length)) =
    (readNumber digits).take (size - 2)
  encode_number : ∀ maxLen number, IsNumber number → (number.length + 1) / 2 + 1 ≤ maxLen →
    encode maxLen number = .ok (semiOctets (digitsOf number))
  encode_other : ∀ maxLen number, ¬ (IsNumber number ∧ (number.length + 1) / 2 + 1 ≤ maxLen) →
    ∃ e, encode maxLen number = .error e ∧ 0 < e ∧ e < 134

/-- What is taken out of a message: the numbers, and the octets that the rest is found with. -/
structure SmscFields where
  ref : Octet
  origAddrLen : Octet
  destAddrLen : Octet
  dataLen : Octet
  smscAddr : List Octet
  destNr : List Octet

/-- The lists of rules `smsc_rewr` and `tpdest_match`. -/
structure SmscConfig where
  smscRewr : List NumRewrEntry
  tpdestMatch : List NumRewrEntry

/-! ## The source -/

section Source

variable (lib : SmscLib) (cfg : SmscConfig) (imsi : List Octet)

/-- `gsm48_decode_bcd_number` of what begins at `lv`, into a string of a size. -/
def gsm48DecodeBcdNumber (size lv : Nat) : Prog (List Octet) := do
  let inLen ← octet lv
  let digits ← octets (lv + 2) (lib.decodeReads size (inLen.toNat - 1))
  let number := lib.decode size digits
  write size (number.length + 1)
  pure number

/-- The number that the user data is sent to, if it is of a kind that is looked into. -/
def tpDestination (dataPtr dataLen : Nat) : Prog (Option (List Octet)) := do
  let first ← octet dataPtr
  if first &&& 0x01 ≠ 1 then pure none
  else if dataLen < 3 then pure none
  else do
    let destLen ← octet (dataPtr + 2)
    if dataLen < destLen.toNat + 3 ∨ destLen.toNat < 2 then pure none
    else do
      let typeOfAddress ← octet (dataPtr + 3)
      -- no extension, and an ISDN number
      if typeOfAddress &&& 0x80 = 0 then pure none
      else if typeOfAddress &&& 0x0f = 0 then pure none
      else do
        let number ← gsm48DecodeBcdNumber lib 28 (dataPtr + 2)
        pure (some (if typeOfAddress &&& 0x70 = 0x10 then octets "00" ++ number else number))

/-- What `rewrite_smsc` takes out of a message of a length before it looks at the rules. The header has two octets, so
    `hdr48->data[i]` is the octet `2 + i`. -/
def smscFields (len : Nat) : Prog (Option SmscFields) := do
  let payloadLen := len - 2
  if payloadLen < 1 then pure none
  else do
    let cpLen ← octet 2
    if payloadLen + 1 < cpLen.toNat then pure none
    else do
      let mti ← octet 3
      if mti ≠ 0 then pure none
      else if cpLen.toNat < 5 then pure none
      else do
        let ref ← octet 4
        let origAddrLen ← octet 5
        -- the +1 is for checking if the following element has some space
        if cpLen.toNat < 3 + origAddrLen.toNat + 1 then pure none
        else do
          let destAddrLen ← octet (6 + origAddrLen.toNat)
          if cpLen.toNat < 3 + origAddrLen.toNat + 1 + destAddrLen.toNat + 1 then pure none
          else do
            let smscAddr ← gsm48DecodeBcdNumber lib 30 (6 + origAddrLen.toNat)
            let dataLen ← octet (7 + origAddrLen.toNat + destAddrLen.toNat)
            if cpLen.toNat < 3 + origAddrLen.toNat + 1 + destAddrLen.toNat + 1 + dataLen.toNat then pure none
            else do
              let destNr ← tpDestination lib (8 + origAddrLen.toNat + destAddrLen.toNat) dataLen.toNat
              pure (destNr.map fun destNr => ⟨ref, origAddrLen, destAddrLen, dataLen, smscAddr, destNr⟩)

/-- The new number, if there is one and the other list asks for the destination. -/
def smscNewNumber (fields : SmscFields) : Option (List Octet) :=
  (newNumber lib.toRegexLib cfg.smscRewr imsi fields.smscAddr).filter fun _ =>
    cfg.tpdestMatch.any fun entry => lib.regexec entry.msisdnReg imsi && lib.regexec entry.numReg fields.destNr

/-- The address after its length: the number is encoded into `new_addr`, and the octet with its type is set. An error
    number is taken for the length, and then the rest is what is on the stack. -/
def newAddress (stack : Nat → Octet) (new : List Octet) : Prog (List Octet) :=
  match lib.encode 12 new with
  | .ok digits => do
      write 12 (digits.length + 2)
      readField 12 (digits.length + 2)
      pure (0x91 :: digits)
  | .error e => do
      readField 12 (256 - e)
      pure (0x91 :: (List.range (254 - e)).map stack)

/-- The structure is created again, with the new number, from what the pointers into the old one point to. -/
def patchedMessage (stack : Nat → Octet) (fields : SmscFields) (new : List Octet) : Prog (List Octet) := do
  let origAddr ← octets 6 fields.origAddrLen.toNat
  let address ← newAddress lib stack new
  let data ← octets (8 + fields.origAddrLen.toNat + fields.destAddrLen.toNat) fields.dataLen.toNat
  let header ← octets 0 2
  let rp := 0 :: fields.ref :: fields.origAddrLen :: origAddr ++ UInt8.ofNat address.length :: address ++
    fields.dataLen :: data
  pure (header ++ UInt8.ofNat rp.length :: rp)

/-- `rewrite_smsc`, for a message of a length with its header; none if there is no new message. -/
def rewriteSmsc (stack : Nat → Octet) (len : Nat) : Prog (Option (List Octet)) := do
  let fields ← smscFields lib len
  match fields.bind fun fields => (smscNewNumber lib cfg imsi fields).map fun new => (fields, new) with
  | none => pure none
  | some (fields, new) => do
      let out ← patchedMessage lib stack fields new
      pure (some out)

end Source

/-! ## What is to be -/

section Spec

variable (lib : SmscLib) (cfg : SmscConfig) (imsi : List Octet) (mem : Nat → Octet) (len : Nat)

/-- Octets of memory. -/
def slice (i n : Nat) : List Octet := (List.range n).map fun k => mem (i + k)

/-- The length of the CP user data, those of the originator and the destination of the RP layer, and that of the RP user
    data; and where the latter begins. -/
def cpLength : Nat := (mem 2).toNat

def rpOrigLength : Nat := (mem 5).toNat

def rpDestLength : Nat := (mem (6 + rpOrigLength mem)).toNat

def rpDataAt : Nat := 8 + rpOrigLength mem + rpDestLength mem

def rpDataLength : Nat := (mem (7 + rpOrigLength mem + rpDestLength mem)).toNat

/-- The number of the service centre that a message is for: the first octet of the address is its type. -/
def smscNumber : List Octet := readNumber (slice mem (6 + rpOrigLength mem + 2) (rpDestLength mem - 1))

/-- **A new message**: the lengths of the CP and the RP layer are right, the destination decodes to what the rules give
    for the old one, and the reference, the originator and the user data are the old ones. -/
def SmscRewritten (out : List Octet) : Prop :=
  ∃ cpLen destLen rp address new, out = mem 0 :: mem 1 :: cpLen :: rp ∧ cpLen.toNat = rp.length ∧
    rp = 0 :: mem 4 :: mem 5 :: slice mem 6 (rpOrigLength mem) ++ destLen :: address ++
      mem (7 + rpOrigLength mem + rpDestLength mem) :: slice mem (rpDataAt mem) (rpDataLength mem) ∧
    destLen.toNat = address.length ∧ RuleGives lib.toRegexLib cfg.smscRewr imsi (smscNumber mem) new ∧
      readNumber (address.drop 1) = new

/-- What is to be of a message of a length in memory: only it is read, and if there is a new one it is as it is to
    be. -/
def FaithfulSmsc (stack : Nat → Octet) (l3len : Nat) : Prop :=
  (rewriteSmsc lib cfg imsi stack len).Safe l3len mem ∧
    ∀ m ∈ (rewriteSmsc lib cfg imsi stack len).value mem, SmscRewritten lib cfg imsi mem m

/-! ## What is read -/

/-- The user data has an address that is looked into. -/
def TpTaken (dataPtr dataLen : Nat) : Prop :=
  mem dataPtr &&& 0x01 = 1 ∧ (mem (dataPtr + 2)).toNat + 3 ≤ dataLen ∧ 2 ≤ (mem (dataPtr + 2)).toNat ∧
    mem (dataPtr + 3) &&& 0x80 ≠ 0 ∧ mem (dataPtr + 3) &&& 0x0f ≠ 0

instance (dataPtr dataLen : Nat) : Decidable (TpTaken mem dataPtr dataLen) := by
  unfold TpTaken
  infer_instance

/-- The address in it, as far as there is room for it. -/
def tpNumber (dataPtr : Nat) : List Octet :=
  let number := (readNumber (slice mem (dataPtr + 4) ((mem (dataPtr + 2)).toNat - 1))).take 26
  if mem (dataPtr + 3) &&& 0x70 = 0x10 then octets "00" ++ number else number

/-- The end of what is read of the user data to find the address. -/
def tpEnd (dataPtr dataLen : Nat) : Nat :=
  if mem dataPtr &&& 0x01 ≠ 1 ∨ dataLen < 3 then dataPtr + 1
  else if dataLen < (mem (dataPtr + 2)).toNat + 3 ∨ (mem (dataPtr + 2)).toNat < 2 then dataPtr + 3
  else if mem (dataPtr + 3) &&& 0x80 = 0 ∨ mem (dataPtr + 3) &&& 0x0f = 0 then dataPtr + 4
  else dataPtr + 4 + lib.decodeReads 28 ((mem (dataPtr + 2)).toNat - 1)

/-- The lengths fit into each other, in a message of a length, and the user data is looked into. The CP user data is let
    be two octets longer than what there is of it. -/
def SmscTaken : Prop :=
  3 ≤ len ∧ cpLength mem + 1 ≤ len ∧ mem 3 = 0 ∧ 5 ≤ cpLength mem ∧
    5 + rpOrigLength mem + rpDestLength mem + rpDataLength mem ≤ cpLength mem ∧
      TpTaken mem (rpDataAt mem) (rpDataLength mem)

instance : Decidable (SmscTaken mem len) := by
  unfold SmscTaken
  infer_instance

/-- What is taken out of it. -/
def takenFields : SmscFields where
  ref := mem 4
  origAddrLen := mem 5
  destAddrLen := mem (6 + rpOrigLength mem)
  dataLen := mem (7 + rpOrigLength mem + rpDestLength mem)
  smscAddr := (smscNumber mem).take 28
  destNr := tpNumber mem (rpDataAt mem)

/-- The end of what is read to see whether they do. -/
def smscEnd : Nat :=
  if len - 2 < 1 then 0
  else if len - 2 + 1 < cpLength mem then 3
  else if mem 3 ≠ 0 ∨ cpLength mem < 5 then 4
  else if cpLength mem < 3 + rpOrigLength mem + 1 then 6
  else if cpLength mem < 3 + rpOrigLength mem + 1 + rpDestLength mem + 1 then 7 + rpOrigLength mem
  else if cpLength mem < 3 + rpOrigLength mem + 1 + rpDestLength mem + 1 + rpDataLength mem then rpDataAt mem
  else tpEnd lib mem (rpDataAt mem) (rpDataLength mem)

/-! ## What is -/

/-- The new number of a message that is taken, from what there is room for of the old one. -/
def smscNew : Option (List Octet) :=
  if SmscTaken mem len then smscNewNumber lib cfg imsi (takenFields mem) else none

/-- What is looked at lies in the message; and if there is a new number, so does the user data, the rules give it for
    the whole of the old one, it is of twenty digits at most, and the length of the CP user data does not exceed an
    octet. -/
def SmscFits (l3len : Nat) : Prop :=
  smscEnd lib mem len ≤ l3len ∧
    ∀ new ∈ smscNew lib cfg imsi mem len, rpDataAt mem + rpDataLength mem ≤ l3len ∧
      newNumber lib.toRegexLib cfg.smscRewr imsi (smscNumber mem) = some new ∧ IsNumber new ∧ new.length ≤ 20 ∧
        6 + rpOrigLength mem + (new.length + 1) / 2 + rpDataLength mem < 256

end Spec

section Reading

variable {lib : SmscLib} {cfg : SmscConfig} {imsi : List Octet} {mem : Nat → Octet} {len l3len : Nat}

variable (stack : Nat → Octet) (dataPtr dataLen i n size lv : Nat)

theorem length_slice : (slice mem i n).length = n := by
  unfold slice
  rw [length_map, length_range]

theorem take_slice {i n k : Nat} (h : k ≤ n) : (slice mem i n).take k = slice mem i k := by
  unfold slice
  rw [← map_take, take_range, Nat.min_eq_left h]

theorem value_decodeBcd :
    (gsm48DecodeBcdNumber lib size lv).value mem =
      (readNumber (slice mem (lv + 2) ((mem lv).toNat - 1))).take (size - 2) := by
  have hdecode := lib.decode_eq size (slice mem (lv + 2) ((mem lv).toNat - 1))
  rw [length_slice, take_slice (lib.reads_le size _)] at hdecode
  rw [← hdecode]
  rfl

/-- The octets of the digits are read, and what is written ends inside the string. -/
theorem safe_decodeBcd {size : Nat} (hsize : 2 ≤ size) (lv : Nat) :
    (gsm48DecodeBcdNumber lib size lv).Safe l3len mem ↔
      lv < l3len ∧ (lib.decodeReads size ((mem lv).toNat - 1) = 0 ∨
        lv + 2 + lib.decodeReads size ((mem lv).toNat - 1) ≤ l3len) := by
  have hvalue : (gsm48DecodeBcdNumber lib size lv).value mem = _ := value_decodeBcd size lv
  have hshort : ((gsm48DecodeBcdNumber lib size lv).value mem).length + 1 ≤ size := by
    rw [hvalue, length_take]
    omega
  unfold gsm48DecodeBcdNumber
  rw [safe_octet_bind]
  simp only [safe_bind, safe_octets, safe_write, safe_pure, and_true]
  constructor
  · rintro ⟨hlv, hdigits, -⟩
    exact ⟨hlv, hdigits⟩
  · rintro ⟨hlv, hdigits⟩
    exact ⟨hlv, hdigits, hshort⟩

theorem tpEnd_gt : dataPtr < tpEnd lib mem dataPtr dataLen := by
  unfold tpEnd
  split
  · omega
  · split
    · omega
    · split <;> omega

theorem value_tpDestination :
    (tpDestination lib dataPtr dataLen).value mem =
      if TpTaken mem dataPtr dataLen then some (tpNumber mem dataPtr) else none := by
  unfold tpDestination
  rw [value_octet_bind]
  by_cases hfirst : mem dataPtr &&& 0x01 = 1
  · rw [if_neg (not_not_intro hfirst)]
    by_cases hshort : dataLen < 3
    · have hnot : ¬ TpTaken mem dataPtr dataLen := fun h => by
        have hlen := h.2.1
        omega
      rw [if_pos hshort, if_neg hnot, value_pure]
    · rw [if_neg hshort, value_octet_bind]
      by_cases hlen : dataLen < (mem (dataPtr + 2)).toNat + 3 ∨ (mem (dataPtr + 2)).toNat < 2
      · have hnot : ¬ TpTaken mem dataPtr dataLen := fun h => by
          obtain ⟨-, hfits, htwo, -⟩ := h
          omega
        rw [if_pos hlen, if_neg hnot, value_pure]
      · rw [if_neg hlen, value_octet_bind]
        by_cases hext : mem (dataPtr + 3) &&& 0x80 = 0
        · have hnot : ¬ TpTaken mem dataPtr dataLen := fun h => h.2.2.2.1 hext
          rw [if_pos hext, if_neg hnot, value_pure]
        · rw [if_neg hext]
          by_cases hisdn : mem (dataPtr + 3) &&& 0x0f = 0
          · have hnot : ¬ TpTaken mem dataPtr dataLen := fun h => h.2.2.2.2 hisdn
            rw [if_pos hisdn, if_neg hnot, value_pure]
          · have htaken : TpTaken mem dataPtr dataLen := ⟨hfirst, by omega, by omega, hext, hisdn⟩
            rw [if_neg hisdn, if_pos htaken, value_bind, value_decodeBcd]
            rfl
  · have hnot : ¬ TpTaken mem dataPtr dataLen := fun h => hfirst h.1
    rw [if_pos hfirst, if_neg hnot, value_pure]

theorem safe_tpDestination :
    (tpDestination lib dataPtr dataLen).Safe l3len mem ↔ tpEnd lib mem dataPtr dataLen ≤ l3len := by
  unfold tpDestination tpEnd
  rw [safe_octet_bind]
  by_cases hfirst : mem dataPtr &&& 0x01 ≠ 1
  · rw [if_pos hfirst, if_pos (.inl hfirst)]
    simp only [safe_pure, and_true]
    omega
  · rw [if_neg hfirst]
    by_cases hshort : dataLen < 3
    · rw [if_pos hshort, if_pos (.inr hshort)]
      simp only [safe_pure, and_true]
      omega
    · rw [if_neg hshort, if_neg (not_or.mpr ⟨hfirst, hshort⟩), safe_octet_bind]
      by_cases hlen : dataLen < (mem (dataPtr + 2)).toNat + 3 ∨ (mem (dataPtr + 2)).toNat < 2
      · rw [if_pos hlen, if_pos hlen]
        simp only [safe_pure, and_true]
        omega
      · rw [if_neg hlen, if_neg hlen, safe_octet_bind]
        by_cases hext : mem (dataPtr + 3) &&& 0x80 = 0
        · rw [if_pos hext, if_pos (.inl hext)]
          simp only [safe_pure, and_true]
          omega
        · rw [if_neg hext]
          by_cases hisdn : mem (dataPtr + 3) &&& 0x0f = 0
          · rw [if_pos hisdn, if_pos (.inr hisdn)]
            simp only [safe_pure, and_true]
            omega
          · rw [if_neg hisdn, if_neg (not_or.mpr ⟨hext, hisdn⟩), safe_bind, safe_decodeBcd (by decide)]
            simp only [safe_pure, and_true]
            omega

theorem value_smscFields :
    (smscFields lib len).value mem = if SmscTaken mem len then some (takenFields mem) else none := by
  unfold smscFields
  by_cases hlen : len - 2 < 1
  · have hnot : ¬ SmscTaken mem len := fun h => by
      have hthree := h.1
      omega
    rw [if_pos hlen, if_neg hnot, value_pure]
  · rw [if_neg hlen, value_octet_bind]
    by_cases hcp : len - 2 + 1 < (mem 2).toNat
    · have hnot : ¬ SmscTaken mem len := fun h => by
        have hfits : (mem 2).toNat + 1 ≤ len := h.2.1
        omega
      rw [if_pos hcp, if_neg hnot, value_pure]
    · rw [if_neg hcp, value_octet_bind]
      by_cases hmti : mem 3 = 0
      · rw [if_neg (not_not_intro hmti)]
        by_cases hfive : (mem 2).toNat < 5
        · have hnot : ¬ SmscTaken mem len := fun h => by
            have hfits : 5 ≤ (mem 2).toNat := h.2.2.2.1
            omega
          rw [if_pos hfive, if_neg hnot, value_pure]
        · rw [if_neg hfive, value_octet_bind, value_octet_bind]
          -- the lengths of the three elements of the RP layer
          have hall : SmscTaken mem len → 5 + (mem 5).toNat + (mem (6 + (mem 5).toNat)).toNat +
              (mem (7 + (mem 5).toNat + (mem (6 + (mem 5).toNat)).toNat)).toNat ≤ (mem 2).toNat :=
            fun h => h.2.2.2.2.1
          by_cases horig : (mem 2).toNat < 3 + (mem 5).toNat + 1
          · rw [if_pos horig, if_neg fun h => absurd (hall h) (by omega), value_pure]
          · rw [if_neg horig, value_octet_bind]
            by_cases hdest : (mem 2).toNat < 3 + (mem 5).toNat + 1 + (mem (6 + (mem 5).toNat)).toNat + 1
            · rw [if_pos hdest, if_neg fun h => absurd (hall h) (by omega), value_pure]
            · rw [if_neg hdest, value_bind, value_decodeBcd, value_octet_bind]
              by_cases hdata : (mem 2).toNat < 3 + (mem 5).toNat + 1 + (mem (6 + (mem 5).toNat)).toNat + 1 +
                  (mem (7 + (mem 5).toNat + (mem (6 + (mem 5).toNat)).toNat)).toNat
              · rw [if_pos hdata, if_neg fun h => absurd (hall h) (by omega), value_pure]
              · rw [if_neg hdata, value_bind, value_tpDestination, value_pure]
                have hlengths : 5 + (mem 5).toNat + (mem (6 + (mem 5).toNat)).toNat +
                    (mem (7 + (mem 5).toNat + (mem (6 + (mem 5).toNat)).toNat)).toNat ≤ (mem 2).toNat := by omega
                by_cases htp : TpTaken mem (rpDataAt mem) (rpDataLength mem)
                · have htaken : SmscTaken mem len :=
                    ⟨by omega, (by omega : (mem 2).toNat + 1 ≤ len), hmti, Nat.le_of_not_lt hfive, hlengths, htp⟩
                  exact (congrArg _ (if_pos htp)).trans (if_pos htaken).symm
                · have hnot : ¬ SmscTaken mem len := fun h => htp h.2.2.2.2.2
                  exact (congrArg _ (if_neg htp)).trans (if_neg hnot).symm
      · have hnot : ¬ SmscTaken mem len := fun h => hmti h.2.2.1
        rw [if_pos hmti, if_neg hnot, value_pure]

theorem safe_smscFields : (smscFields lib len).Safe l3len mem ↔ smscEnd lib mem len ≤ l3len := by
  have hreads := lib.reads_le 30 ((mem (6 + (mem 5).toNat)).toNat - 1)
  unfold smscFields smscEnd cpLength rpDataAt rpDataLength rpDestLength rpOrigLength
  by_cases hlen : len - 2 < 1
  · rw [if_pos hlen, if_pos hlen]
    simp only [safe_pure, Nat.zero_le]
  · rw [if_neg hlen, if_neg hlen, safe_octet_bind]
    by_cases hcp : len - 2 + 1 < (mem 2).toNat
    · rw [if_pos hcp, if_pos hcp]
      simp only [safe_pure, and_true]
      omega
    · rw [if_neg hcp, if_neg hcp, safe_octet_bind]
      by_cases hmti : mem 3 ≠ 0
      · rw [if_pos hmti, if_pos (.inl hmti)]
        simp only [safe_pure, and_true]
        omega
      · rw [if_neg hmti]
        by_cases hfive : (mem 2).toNat < 5
        · rw [if_pos hfive, if_pos (.inr hfive)]
          simp only [safe_pure, and_true]
          omega
        · rw [if_neg hfive, if_neg (not_or.mpr ⟨hmti, hfive⟩), safe_octet_bind, safe_octet_bind]
          by_cases horig : (mem 2).toNat < 3 + (mem 5).toNat + 1
          · rw [if_pos horig, if_pos horig]
            simp only [safe_pure, and_true]
            omega
          · rw [if_neg horig, if_neg horig, safe_octet_bind]
            by_cases hdest : (mem 2).toNat < 3 + (mem 5).toNat + 1 + (mem (6 + (mem 5).toNat)).toNat + 1
            · rw [if_pos hdest, if_pos hdest]
              simp only [safe_pure, and_true]
              omega
            · rw [if_neg hdest, if_neg hdest, safe_bind, safe_decodeBcd (by decide), safe_octet_bind]
              by_cases hdata : (mem 2).toNat < 3 + (mem 5).toNat + 1 + (mem (6 + (mem 5).toNat)).toNat + 1 +
                  (mem (7 + (mem 5).toNat + (mem (6 + (mem 5).toNat)).toNat)).toNat
              · rw [if_pos hdata, if_pos hdata]
                simp only [safe_pure, and_true]
                omega
              · have hend : 8 + (mem 5).toNat + (mem (6 + (mem 5).toNat)).toNat <
                    tpEnd lib mem (8 + (mem 5).toNat + (mem (6 + (mem 5).toNat)).toNat)
                      (mem (7 + (mem 5).toNat + (mem (6 + (mem 5).toNat)).toNat)).toNat := tpEnd_gt _ _
                rw [if_neg hdata, if_neg hdata, safe_bind, safe_tpDestination]
                simp only [safe_pure, and_true]
                omega

/-! ### The new message -/

/-- Only a number of up to twenty digits is encoded inside the array. -/
theorem safe_newAddress (new : List Octet) :
    (newAddress lib stack new).Safe l3len mem ↔ IsNumber new ∧ new.length ≤ 20 := by
  unfold newAddress
  by_cases hencodes : IsNumber new ∧ (new.length + 1) / 2 + 1 ≤ 12
  · rw [lib.encode_number 12 new hencodes.1 hencodes.2]
    simp only [safe_bind, safe_write, safe_readField, safe_pure, and_true, length_semiOctets,
      length_digitsOf, hencodes.1, true_and]
    omega
  · obtain ⟨e, hencode, hpos, hlt⟩ := lib.encode_other 12 new hencodes
    rw [hencode]
    simp only [safe_bind, safe_readField, safe_pure, and_true]
    refine iff_of_false (by omega) fun h => hencodes ⟨h.1, ?_⟩
    omega

variable {new : List Octet}

theorem value_newAddress (hnumber : IsNumber new) (hlen : new.length ≤ 20) :
    (newAddress lib stack new).value mem = 0x91 :: semiOctets (digitsOf new) := by
  unfold newAddress
  rw [lib.encode_number 12 new hnumber (by omega)]
  rfl

/-- The RP layer of a new message. -/
def newRp (mem : Nat → Octet) (new : List Octet) : List Octet :=
  0 :: mem 4 :: mem 5 :: slice mem 6 (rpOrigLength mem) ++
    UInt8.ofNat (0x91 :: semiOctets (digitsOf new)).length :: (0x91 :: semiOctets (digitsOf new)) ++
    mem (7 + rpOrigLength mem + rpDestLength mem) :: slice mem (rpDataAt mem) (rpDataLength mem)

theorem length_newRp (new : List Octet) :
    (newRp mem new).length = 6 + rpOrigLength mem + (new.length + 1) / 2 + rpDataLength mem := by
  unfold newRp
  simp only [length_append, length_cons, length_slice, length_semiOctets, length_digitsOf]
  omega

/-- A new message is as it is to be if the rules give the number for the whole of the old one, and the length of the CP
    user data is an octet. -/
theorem smscRewritten_iff (hnumber : IsNumber new) (hlen : new.length ≤ 20) :
    SmscRewritten lib cfg imsi mem (mem 0 :: mem 1 :: UInt8.ofNat (newRp mem new).length :: newRp mem new) ↔
      RuleGives lib.toRegexLib cfg.smscRewr imsi (smscNumber mem) new ∧ (newRp mem new).length < 256 := by
  have hread : readNumber ((0x91 :: semiOctets (digitsOf new)).drop 1) = new := readNumber_semiOctets hnumber
  constructor
  · rintro ⟨cpLen, destLen, rp, address, new', hout, hcp, hrp, -, hgives, hnew⟩
    simp only [List.cons.injEq, true_and] at hout
    obtain ⟨rfl, rfl⟩ := hout
    -- the address is all that stands between what is known
    unfold newRp at hrp
    simp only [cons_append, append_assoc, List.cons.injEq, true_and, append_cancel_left_eq] at hrp
    obtain rfl : 0x91 :: semiOctets (digitsOf new) = address := by
      rw [← cons_append] at hrp
      exact append_cancel_right hrp.2
    obtain rfl : new = new' := hread.symm.trans hnew
    refine ⟨hgives, ?_⟩
    rw [← hcp]
    exact UInt8.toNat_lt _
  · rintro ⟨hgives, hshort⟩
    refine ⟨_, _, _, _, new, rfl, toNat_octetOf hshort, rfl, toNat_octetOf ?_, hgives, hread⟩
    rw [length_cons, length_semiOctets, length_digitsOf]
    omega

theorem value_smscFields_bind :
    ((smscFields lib len).value mem).bind (fun fields =>
      (smscNewNumber lib cfg imsi fields).map fun new => (fields, new)) =
        (smscNew lib cfg imsi mem len).map fun new => (takenFields mem, new) := by
  rw [value_smscFields]
  unfold smscNew
  by_cases htaken : SmscTaken mem len
  · rw [if_pos htaken, if_pos htaken, bind_some]
  · rw [if_neg htaken, if_neg htaken]
    rfl

/-- Without a new number there is nothing but what is read to see that. -/
theorem faithful_of_none (hnone : smscNew lib cfg imsi mem len = none) :
    FaithfulSmsc lib cfg imsi mem len stack l3len ↔ smscEnd lib mem len ≤ l3len := by
  unfold FaithfulSmsc rewriteSmsc
  rw [safe_bind, value_bind, value_smscFields_bind, hnone, safe_smscFields]
  simp

theorem value_patchedMessage (hnumber : IsNumber new) (hlen : new.length ≤ 20) :
    (patchedMessage lib stack (takenFields mem) new).value mem =
      mem 0 :: mem 1 :: UInt8.ofNat (newRp mem new).length :: newRp mem new := by
  unfold patchedMessage
  rw [value_bind, value_bind, value_newAddress stack hnumber hlen, value_bind, value_bind, value_pure]
  rfl

/-- The user data lies behind all else that is copied. -/
theorem safe_patchedMessage (new : List Octet) (hdata : 0 < rpDataLength mem) :
    (patchedMessage lib stack (takenFields mem) new).Safe l3len mem ↔
      rpDataAt mem + rpDataLength mem ≤ l3len ∧ IsNumber new ∧ new.length ≤ 20 := by
  have horig : (takenFields mem).origAddrLen.toNat = rpOrigLength mem := rfl
  have hdest : (takenFields mem).destAddrLen.toNat = rpDestLength mem := rfl
  have hlength : (takenFields mem).dataLen.toNat = rpDataLength mem := rfl
  have hat : 8 + rpOrigLength mem + rpDestLength mem = rpDataAt mem := rfl
  unfold patchedMessage
  rw [horig, hdest, hlength]
  simp only [safe_bind, safe_newAddress, safe_octets, safe_pure, and_true]
  constructor
  · rintro ⟨-, hnumber, hinside, -⟩
    exact ⟨by omega, hnumber⟩
  · rintro ⟨hinside, hnumber⟩
    exact ⟨by omega, hnumber, by omega, by omega⟩

theorem faithful_of_new (hnew : smscNew lib cfg imsi mem len = some new)
    (hdata : 0 < rpDataLength mem) :
    FaithfulSmsc lib cfg imsi mem len stack l3len ↔
      smscEnd lib mem len ≤ l3len ∧ rpDataAt mem + rpDataLength mem ≤ l3len ∧ IsNumber new ∧ new.length ≤ 20 ∧
        RuleGives lib.toRegexLib cfg.smscRewr imsi (smscNumber mem) new ∧ (newRp mem new).length < 256 := by
  unfold FaithfulSmsc rewriteSmsc
  rw [safe_bind, value_bind, value_smscFields_bind, hnew, safe_smscFields, map_some]
  simp only [safe_bind, value_bind, safe_pure, value_pure, safe_patchedMessage stack new hdata,
    and_true, mem_some_iff, forall_eq']
  constructor
  · rintro ⟨⟨hend, hinside, hnumber, hlen⟩, hrewritten⟩
    rw [value_patchedMessage stack hnumber hlen, smscRewritten_iff hnumber hlen] at hrewritten
    exact ⟨hend, hinside, hnumber, hlen, hrewritten.1, hrewritten.2⟩
  · rintro ⟨hend, hinside, hnumber, hlen, hgives, hshort⟩
    refine ⟨⟨hend, hinside, hnumber, hlen⟩, ?_⟩
    rw [value_patchedMessage stack hnumber hlen, smscRewritten_iff hnumber hlen]
    exact ⟨hgives, hshort⟩

theorem taken_of_new (hnew : smscNew lib cfg imsi mem len = some new) : 0 < rpDataLength mem := by
  unfold smscNew at hnew
  split at hnew
  case isFalse => cases hnew
  case isTrue htaken =>
    have hlen := htaken.2.2.2.2.2.2.1
    omega

theorem faithfulSmsc_iff :
    FaithfulSmsc lib cfg imsi mem len stack l3len ↔ SmscFits lib cfg imsi mem len l3len := by
  unfold SmscFits
  cases hnew : smscNew lib cfg imsi mem len with
  | none =>
    rw [faithful_of_none stack hnew]
    simp
  | some new =>
    rw [faithful_of_new stack hnew (taken_of_new hnew), length_newRp, ← newNumber_eq_some_iff]
    simp only [mem_some_iff, forall_eq']
    constructor
    · rintro ⟨hend, hinside, hnumber, hlen, hgives, hshort⟩
      exact ⟨hend, hinside, hgives, hnumber, hlen, hshort⟩
    · rintro ⟨hend, hinside, hgives, hnumber, hlen, hshort⟩
      exact ⟨hend, hinside, hnumber, hlen, hgives, hshort⟩

/-- **A short message is rewritten as it is to be, and only it is read**, exactly if it fits. -/
theorem rewriteSmsc_faithful_iff (lib : SmscLib) (cfg : SmscConfig) (imsi : List Octet)
    (stack : Nat → Octet) (len : Nat)
    (msg : List Octet) (behind : Nat → Octet) :
    FaithfulSmsc lib cfg imsi (memory msg behind) len stack msg.length ↔
      SmscFits lib cfg imsi (memory msg behind) len msg.length :=
  faithfulSmsc_iff stack

end Reading

/-- Numbers as libosmocore writes and reads them, and expressions that match nothing. -/
def plainSmscLib : SmscLib where
  regexec := fun _ _ => false
  subMatch := fun _ _ => none
  decodeReads := fun _ n => n
  decode := fun size digits => (readNumber digits).take (size - 2)
  encode := fun maxLen number =>
    if number.all (bcdNumDigits.contains ·) ∧ (number.length + 1) / 2 + 1 ≤ maxLen then
      .ok (semiOctets (digitsOf number))
    else .error einval
  reads_le := fun _ n => le_refl n
  decode_eq := fun _ digits => by rw [take_length]
  encode_number := fun maxLen number hnumber hfits =>
    if_pos ⟨all_eq_true.mpr fun c hc => contains_iff_mem.mpr (hnumber c hc), hfits⟩
  encode_other := fun maxLen number hnot => by
    refine ⟨einval, if_neg fun h => hnot ⟨fun c hc => ?_, h.2⟩, by decide, by decide⟩
    exact contains_iff_mem.mp (all_eq_true.mp h.1 c hc)

/-- **A message that ends behind the length of its CP user data** is read on. -/
theorem not_faithful_cpLength : ¬ ∀ (lib : SmscLib) (cfg : SmscConfig) (imsi : List Octet) (stack : Nat → Octet)
    (msg : List Octet) (behind : Nat → Octet),
    FaithfulSmsc lib cfg imsi (memory msg behind) msg.length stack msg.length := by
  intro h
  have hfaithful := h plainSmscLib ⟨[], []⟩ (octets "51503") (fun _ => 0) [0x09, 0x01, 0x01] fun _ => 0
  have hfields := (safe_bind _ _).mp hfaithful.1
  have hend := safe_smscFields.mp hfields.1
  exact absurd hend (by decide)

end OpenBsc.OsmoBscNat
