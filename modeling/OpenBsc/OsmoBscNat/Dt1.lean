import OpenBsc.OsmoBscNat.Gates

/-!
# `OsmoBscNat.Dt1` — what the NAT takes a DT1 of the MSC for (`bsc_filter.c`, `bsc_nat.c`)

`bsc_nat_parse` keeps the third octet of the data as `gsm_type`. In BSSMAP that is the message type; in DTAP it is the
length of the GSM 04.08 message. `forward_sccp_to_bts` compares it with the ASSIGNMENT REQUEST and the CLEAR COMMAND and
does not look at the discriminator, so a DTAP message is taken for one of them when its length is that number.
-/

namespace OpenBsc.OsmoBscNat

open BscNat

/-! ## The dispatch -/

/-- What a DT1 of the MSC is taken for: it is not parsed, its circuit is rewritten, it is consumed, or it is
    forwarded. -/
inductive Dt1Kind where
  | refused | assignmentRequest | clearCommand | data
  deriving DecidableEq

/-- The comparisons of `forward_sccp_to_bts` with `parsed->gsm_type`. -/
def dt1Kind (con : SccpConnections) (data : List Octet) : Dt1Kind :=
  if data.length < 3 then .refused
  else if octetAt data 2 = 0x01 then .assignmentRequest
  else if con.conLocal = .ussd ∧ octetAt data 2 = 0x20 then .clearCommand
  else .data

/-- The data is a BSSMAP message of that type. -/
def IsBssmap (type : Nat) (data : List Octet) : Prop := octetAt data 0 = 0 ∧ octetAt data 2 = type

/-- The data is a DTAP message. -/
def IsDtap (data : List Octet) : Prop := octetAt data 0 = 1

namespace BscNat

/-- A DT1 on a connection, as it is forwarded: the circuit in it is rewritten, or nothing. -/
def forwardDt1 (lib : Osmocore) (nat : BscNat) (i : Nat) (con : SccpConnections) (data : List Octet) : BscNat :=
  match dt1Kind con data with
  | .refused | .clearCommand => nat
  | .assignmentRequest =>
    (bscMgcpAssignPatch lib nat i data).1.deliverToBsc i (.dt1 con.realRef (bscMgcpAssignPatch lib nat i data).2)
  | .data => nat.deliverToBsc i (.dt1 con.realRef data)

end BscNat

variable {lib : Osmocore} {nat : BscNat} {dest : SccpSourceReference} {i : Nat} {con : SccpConnections}
  {data : List Octet}

/-- **What the NAT does with a DT1** on a connection is decided by its kind. -/
theorem forwardSccpToBts_dt1
    (hfind : nat.sccpConnections.find? (fun conn => conn.patchedRef == dest) = some (i, con)) :
    nat.forwardSccpToBts lib (.dt1 dest data) = nat.forwardDt1 lib i con data := by
  unfold forwardSccpToBts forwardDt1 dt1Kind
  by_cases hlen : data.length < 3
  · have hparses : (SccpMsg.dt1 dest data).parses = false := decide_eq_false (by omega)
    rw [hparses, if_pos hlen]
    rfl
  · have hparses : (SccpMsg.dt1 dest data).parses = true := decide_eq_true (by omega)
    have hpatch : nat.patchSccpSrcRefToBsc (.dt1 dest data) = (some (i, con), .dt1 con.realRef data) := by
      unfold patchSccpSrcRefToBsc
      dsimp only [SccpMsg.destLocalRef]
      rw [hfind]
      rfl
    rw [hparses, if_neg hlen]
    show nat.dataToBts lib (.dt1 dest data) = _
    unfold dataToBts
    rw [hpatch]
    show (if some (octetAt data 2) = some 0x01 then _ else if con.conLocal = .ussd ∧ some (octetAt data 2) = some 0x20
      then nat else nat.deliverToBsc i (.dt1 con.realRef data)) = _
    simp only [Option.some.injEq]
    by_cases hassign : octetAt data 2 = 0x01
    · rw [if_pos hassign, if_pos hassign]
      rfl
    · rw [if_neg hassign, if_neg hassign]
      by_cases hclear : con.conLocal = .ussd ∧ octetAt data 2 = 0x20
      · rw [if_pos hclear, if_pos hclear]
      · rw [if_neg hclear, if_neg hclear]

/-- A message for a connection whose BSC has authenticated is written to that BSC, and nothing else is. -/
theorem written_deliverToBsc (hcon : nat.sccpConnections.get? i = some con) {bsc : BscConnection}
    (hbsc : nat.bscConnections.get? con.bsc = some bsc) (hauth : bsc.authenticated = true) (msg : SccpMsg) :
    written nat (nat.deliverToBsc i msg) = [.toBsc con.bsc msg] := by
  unfold deliverToBsc
  rw [hcon]
  dsimp only
  rw [hbsc]
  dsimp only
  rw [hauth]
  exact List.drop_left

/-! ## Interpretation -/

/-- **A DT1 on a connection is taken for what it is**: for an ASSIGNMENT REQUEST or a CLEAR COMMAND only where it is
    one, and a DTAP message on a connection between a BSC and the MSC goes to the BSC as it came. -/
structure Interpreted (lib : Osmocore) (nat : BscNat) (dest : SccpSourceReference) (i : Nat) (con : SccpConnections)
    (data : List Octet) : Prop where
  assignmentRequest : dt1Kind con data = .assignmentRequest → IsBssmap 0x01 data
  clearCommand : dt1Kind con data = .clearCommand → IsBssmap 0x20 data
  dtap : IsDtap data → con.conLocal = .msc → dt1Kind con data = .data ∧
    written nat (nat.forwardSccpToBts lib (.dt1 dest data)) = [.toBsc con.bsc (.dt1 con.realRef data)]

/-- The third octet is no misleading length: a message that is not BSSMAP has no length 1, nor 32 on a connection of the
    USSD provider. And a DTAP message for a BSC has its whole header. -/
structure TypedRightly (con : SccpConnections) (data : List Octet) : Prop where
  whole : IsDtap data → con.conLocal = .msc → 3 ≤ data.length
  type : 3 ≤ data.length → octetAt data 0 = 0 ∨
    (octetAt data 2 ≠ 0x01 ∧ (con.conLocal = .ussd → octetAt data 2 ≠ 0x20))

/-- **DT1 data.** Whatever the MSC sends on a connection, its kind decides what the NAT does, and it is taken for what
    it is exactly where it has the right type. -/
theorem interpreted_iff
    (hfind : nat.sccpConnections.find? (fun conn => conn.patchedRef == dest) = some (i, con)) {bsc : BscConnection}
    (hbsc : nat.bscConnections.get? con.bsc = some bsc) (hauth : bsc.authenticated = true) :
    nat.forwardSccpToBts lib (.dt1 dest data) = nat.forwardDt1 lib i con data ∧
      (Interpreted lib nat dest i con data ↔ TypedRightly con data) := by
  refine ⟨forwardSccpToBts_dt1 hfind, ?_⟩
  constructor
  · intro h
    have hwhole : IsDtap data → con.conLocal = .msc → 3 ≤ data.length := by
      intro hdtap hlocal
      by_contra hlen
      have hkind : dt1Kind con data = .refused := if_pos (by omega)
      have hdata := (h.dtap hdtap hlocal).1
      rw [hkind] at hdata
      cases hdata
    refine ⟨hwhole, fun hlen => ?_⟩
    by_cases hassign : octetAt data 2 = 0x01
    · have hkind : dt1Kind con data = .assignmentRequest := by
        rw [dt1Kind, if_neg (by omega), if_pos hassign]
      exact .inl (h.assignmentRequest hkind).1
    · by_cases hclear : con.conLocal = .ussd ∧ octetAt data 2 = 0x20
      · have hkind : dt1Kind con data = .clearCommand := by
          rw [dt1Kind, if_neg (by omega), if_neg hassign, if_pos hclear]
        exact .inl (h.clearCommand hkind).1
      · exact .inr ⟨hassign, fun hussd htype => hclear ⟨hussd, htype⟩⟩
  · intro h
    refine ⟨fun hkind => ?_, fun hkind => ?_, fun hdtap hlocal => ?_⟩
    · unfold dt1Kind at hkind
      split_ifs at hkind with hlen hassign
      exact ⟨(h.type (by omega)).resolve_right fun hne => hne.1 hassign, hassign⟩
    · unfold dt1Kind at hkind
      split_ifs at hkind with hlen hassign hclear
      exact ⟨(h.type (by omega)).resolve_right fun hne => hne.2 hclear.1 hclear.2, hclear.2⟩
    · have hlen := h.whole hdtap hlocal
      have hbssap : octetAt data 0 ≠ 0 := by
        rw [hdtap]
        decide
      have hkind : dt1Kind con data = .data := by
        have hassign := ((h.type hlen).resolve_left hbssap).1
        rw [dt1Kind, if_neg (by omega), if_neg hassign, if_neg]
        rintro ⟨hussd, -⟩
        rw [hlocal] at hussd
        cases hussd
      refine ⟨hkind, ?_⟩
      rw [forwardSccpToBts_dt1 hfind]
      unfold forwardDt1
      rw [hkind]
      exact written_deliverToBsc (Pool.find?_eq_some.mp hfind).1 hbsc hauth _

/-- A BSC and a connection of it, with the reference 7 towards the MSC. -/
def dt1Nat : BscNat :=
  { BscNat.start plainConfig with
    bscConnections := Pool.empty.alloc { authenticated := true, cfg := plainConfig.bscConfigs.head? }
    sccpConnections := Pool.empty.alloc { bsc := 0, mscCon := true, realRef := 2, patchedRef := 7 } }

/-- A DTAP message of two octets is forwarded. -/
theorem interpreted_iff_dtap :
    Interpreted plainLib dt1Nat 7 0 { bsc := 0, mscCon := true, realRef := 2, patchedRef := 7 }
    [0x01, 0x00, 0x02, 0x05, 0x18] := by
  have hbsc : dt1Nat.bscConnections.get? 0 = some { authenticated := true, cfg := plainConfig.bscConfigs.head? } := by
    decide
  refine (interpreted_iff (by decide) hbsc rfl).2.mpr ⟨fun _ _ => by decide, fun _ => .inr ⟨by decide, fun h => ?_⟩⟩
  cases h

/-- **A DTAP message of one octet** is taken for an ASSIGNMENT REQUEST: what follows looks like a circuit, and is
    rewritten. -/
theorem not_interpreted_dtap :
    ¬ Interpreted plainLib dt1Nat 7 0 { bsc := 0, mscCon := true, realRef := 2, patchedRef := 7 }
      [0x01, 0x00, 0x01, 0x01, 0x00, 0x05] ∧
    written dt1Nat (dt1Nat.forwardSccpToBts plainLib (.dt1 7 [0x01, 0x00, 0x01, 0x01, 0x00, 0x05])) =
      [.toBsc 0 (.dt1 2 [0x01, 0x00, 0x01, 0x01, 0x00, 0x01])] := by
  refine ⟨fun h => ?_, by decide +kernel⟩
  exact absurd (h.assignmentRequest (by decide)).1 (by decide)

end OpenBsc.OsmoBscNat
