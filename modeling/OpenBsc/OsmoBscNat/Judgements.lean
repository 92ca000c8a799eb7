import Mathlib.Logic.Function.Basic
import OpenBsc.OsmoBscNat.Gates

/-!
# `OsmoBscNat.Judgements` — what the access lists say of a connection

The access lists are asked once for each connection: about the IMSI of its request if there is one, else about
the first IMSI in an identity response. A `Judgement` of every connection is kept beside the state, from the
messages and the lists alone.
-/

namespace OpenBsc.OsmoBscNat

open Transition BscNat List

variable (lib : Osmocore)

/-! ## Judgements -/

/-- An IMSI is denied: the list of the BSC does not allow it, and one of the lists denies it. -/
def imsiDenied (natLst bscLst : Option BscNatAccLst) (imsi : List Octet) : Bool :=
  !bscNatLstCheckAllow lib (bscLst.getD []) imsi &&
    (lstCheckDeny lib (bscLst.getD []) imsi || lstCheckDeny lib (natLst.getD []) imsi)

/-- What the access lists said of a connection, if they were asked. -/
inductive Judgement where
  | none | allowed | denied
  deriving DecidableEq

/-- The judgement on an IMSI. -/
def judge (natLst bscLst : Option BscNatAccLst) (imsi : List Octet) : Judgement :=
  if imsiDenied lib natLst bscLst imsi then .denied else .allowed

/-- The IMSI in the mobile identity of an identity response. -/
def identityOf (data : List Octet) (length : Nat) : Option (List Octet) :=
  if length < 2 ∨ octetAt data 0 < length - 1 ∨ octetAt data 1 &&& 0x7 ≠ 1 then none
  else some (lib.gsm48MiToString ((data.drop 1).take (octetAt data 0)))

/-- The IMSI a message presents, if it is an identity response. -/
def identityImsi (msg : SccpMsg) : Option (List Octet) :=
  if msg.bssap ≠ some 1 then none
  else
    match bscUnpackDtap (msg.l3.getD []) with
    | none => none
    | some (hdr48, len) =>
      if gsm48Proto hdr48 = 0x05 ∧ gsm48MsgType hdr48 = 0x19 then identityOf lib (hdr48.drop 2) (len - 2)
      else none

namespace BscNat

/-- The BSC whose message is taken up: it is there and authenticated, and the message is not filtered out. -/
def takenUp (nat : BscNat) (b : Nat) (msg : SccpMsg) : Option BscConnection :=
  match nat.bscConnections.get? b with
  | none => none
  | some bsc => if !msg.parses || bscNatFilterIpa .msc msg || !bsc.authenticated then none else some bsc

/-- The connection a message of a BSC is of: the one made for its request, or the one it is looked up for. -/
def connectionOf (nat : BscNat) (b now : Nat) (msg : SccpMsg) : Option Nat :=
  match msg with
  | .cr .. =>
    match nat.bscEffect lib b now msg with
    | .opened b src now => (nat.createSccpSrcRef b src now).2
    | .refused b src now => (nat.refuse b src now).2
    | _ => none
  | _ => (nat.patchSccpSrcRefToMsc b msg).1.map Prod.fst

/-- The judgement on a connection after a message of it. A request starts anew; of the other messages the first
    one with an IMSI counts. -/
def judgementAfter (nat : BscNat) (bsc : BscConnection) (msg : SccpMsg) (before : Judgement) : Judgement :=
  let natLst := nat.cfg.accLst
  let bscLst := bsc.cfg.bind (·.accLst)
  match msg with
  | .cr .. =>
    match (nat.crVerdict lib bsc msg).imsi with
    | none => .none
    | some imsi => judge lib natLst bscLst imsi
  | _ =>
    if before ≠ .none then before
    else
      match identityImsi lib msg with
      | none => .none
      | some imsi => judge lib natLst bscLst imsi

end BscNat

/-- The judgements after an event. -/
def noteAccess (judged : Nat → Judgement) (nat : BscNat) (ev : NatEvent) (_nat' : BscNat) : Nat → Judgement :=
  match ev with
  | .fromBsc b now (.sccp msg) =>
    match nat.takenUp b msg, nat.connectionOf lib b now msg with
    | some bsc, some i => Function.update judged i (nat.judgementAfter lib bsc msg (judged i))
    | _, _ => judged
  | _ => judged

/-- The NAT with the judgements on its connections. -/
def accessSystem : System (BscNat × (Nat → Judgement)) NatEvent :=
  (natSystem lib).recording (fun _ => .none) (noteAccess lib)

/-! ## The filters -/

variable {lib}

/-- `auth_imsi` rejects what is denied. -/
theorem authImsi_neg {natLst bscLst : Option BscNatAccLst} {imsi : List Octet}
    (h : imsiDenied lib natLst bscLst imsi = true) : authImsi lib natLst bscLst imsi < 0 := by
  unfold imsiDenied at h
  simp only [Bool.and_eq_true, Bool.not_eq_true', Bool.or_eq_true] at h
  obtain ⟨hallow, hdeny⟩ := h
  unfold authImsi
  rw [if_neg (by simp [hallow])]
  split
  · decide
  · rename_i hbsc
    rw [if_pos (hdeny.resolve_left hbsc)]
    decide

/-- And it allows everything else, with a code that is not zero. -/
theorem authImsi_one {natLst bscLst : Option BscNatAccLst} {imsi : List Octet}
    (h : imsiDenied lib natLst bscLst imsi = false) : authImsi lib natLst bscLst imsi = 1 := by
  unfold imsiDenied at h
  unfold authImsi
  cases hallow : bscNatLstCheckAllow lib (bscLst.getD []) imsi with
  | true => simp [hallow]
  | false =>
    simp only [hallow, Bool.not_false, Bool.true_and, Bool.or_eq_false_iff] at h
    simp [hallow, h.1, h.2]

/-- The verdict on a request says what the lists say of the IMSI in it; without one they are not asked. -/
def VerdictOk (lib : Osmocore) (natLst bscLst : Option BscNatAccLst) (verdict : CrVerdict) : Prop :=
  match verdict.imsi with
  | none => verdict.filter ≤ 0
  | some imsi => verdict.filter = authImsi lib natLst bscLst imsi

theorem verdictOk_crCheckMi (natLst bscLst : Option BscNatAccLst) (conType : NatConType) (miType : Nat)
    (miString : List Octet) : VerdictOk lib natLst bscLst (crCheckMi lib natLst bscLst conType miType miString) := by
  unfold crCheckMi
  split
  · exact Int.le_refl 0
  · exact rfl

theorem verdictOk_bscNatFilterSccpCr (natLst bscLst : Option BscNatAccLst) (msg : SccpMsg) :
    VerdictOk lib natLst bscLst (bscNatFilterSccpCr lib natLst bscLst msg) := by
  have hshort : ∀ conType, VerdictOk lib natLst bscLst { filter := -1, conType := conType } := by
    intro conType
    show (-1 : Int) ≤ 0
    omega
  unfold bscNatFilterSccpCr
  simp only
  split
  · exact hshort .none
  · split
    · exact hshort .none
    · split
      · exact hshort .none
      · split
        · exact hshort .none
        · split
          · unfold crCheckLocUpd
            split
            · exact hshort .lu
            · exact verdictOk_crCheckMi ..
          · split
            · unfold crCheckCmServReq
              split
              · exact hshort .cmServReq
              · simp only
                split
                · exact hshort _
                · exact verdictOk_crCheckMi ..
            · split
              · unfold crCheckPagResp
                split
                · exact hshort .pagResp
                · split
                  · exact hshort .pagResp
                  · exact verdictOk_crCheckMi ..
              · exact Int.le_refl 0

theorem l3_patchSccpSrcRefToMsc (nat : BscNat) (b : Nat) (msg : SccpMsg) :
    (nat.patchSccpSrcRefToMsc b msg).2.l3 = msg.l3 := by
  have hset : ∀ r, (msg.setSrc r).l3 = msg.l3 := by
    intro r
    cases msg <;> rfl
  unfold patchSccpSrcRefToMsc
  split
  · split
    · rfl
    · exact hset _
  · rfl
  · rfl

variable {nat : BscNat} {b : Nat} {msg : SccpMsg}

theorem identityImsi_patched {msg' : SccpMsg} {found : Option (Nat × SccpConnections)}
    (h : nat.patchSccpSrcRefToMsc b msg = (found, msg')) : identityImsi lib msg' = identityImsi lib msg := by
  have hl3 : msg'.l3 = msg.l3 := by
    have hpatched := l3_patchSccpSrcRefToMsc nat b msg
    rw [h] at hpatched
    exact hpatched
  unfold identityImsi SccpMsg.bssap
  rw [hl3]

/-- **What the filter for data does.** A connection whose IMSI was checked is let through; an identity response
    decides by its IMSI, which is remembered; nothing else changes the connection. -/
inductive Filtered (lib : Osmocore) (natLst bscLst : Option BscNatAccLst) (msg : SccpMsg) (con : SccpConnections) :
    Int × SccpConnections → Prop where
  | checked (h : con.imsiChecked = true) : Filtered lib natLst bscLst msg con (0, con)
  | identified {imsi : List Octet} (h : con.imsiChecked = false) (himsi : identityImsi lib msg = some imsi) :
      Filtered lib natLst bscLst msg con
        (authImsi lib natLst bscLst imsi, { con with imsiChecked := true, imsi := some imsi })
  | other {code : Int} (h : con.imsiChecked = false) (himsi : identityImsi lib msg = none) :
      Filtered lib natLst bscLst msg con (code, con)

theorem bscNatFilterDt_cases (lib : Osmocore) (natLst bscLst : Option BscNatAccLst) (msg : SccpMsg)
    (con : SccpConnections) :
    Filtered lib natLst bscLst msg con (bscNatFilterDt lib natLst bscLst msg con) := by
  unfold bscNatFilterDt
  by_cases hchecked : con.imsiChecked = true
  · rw [if_pos hchecked]
    exact .checked hchecked
  have hopen : con.imsiChecked = false := by simpa using hchecked
  rw [if_neg hchecked]
  by_cases hdtap : msg.bssap = some 1
  · rw [if_neg (not_not_intro hdtap)]
    cases hunpack : bscUnpackDtap (msg.l3.getD []) with
    | none =>
      refine .other hopen ?_
      simp [identityImsi, hdtap, hunpack]
    | some found =>
      obtain ⟨hdr48, len⟩ := found
      by_cases hid : gsm48Proto hdr48 = 0x05 ∧ gsm48MsgType hdr48 = 0x19
      · have himsi : identityImsi lib msg = identityOf lib (hdr48.drop 2) (len - 2) := by
          simp only [identityImsi, hdtap, hunpack, ne_eq, not_true_eq_false, if_false, if_pos hid]
        simp only [if_pos hid]
        unfold identityOf at himsi
        unfold dtCheckIdResp
        by_cases hshort : len - 2 < 2
        · rw [if_pos (.inl hshort)] at himsi
          rw [if_pos hshort]
          exact .other hopen himsi
        rw [if_neg hshort]
        by_cases hlong : octetAt (hdr48.drop 2) 0 < len - 2 - 1
        · rw [if_pos (.inr (.inl hlong))] at himsi
          rw [if_pos hlong]
          exact .other hopen himsi
        rw [if_neg hlong]
        by_cases htype : octetAt (hdr48.drop 2) 1 &&& 0x7 = 1
        · rw [if_neg (by simp [hshort, hlong, htype])] at himsi
          rw [if_neg (not_not_intro htype)]
          exact .identified hopen himsi
        · rw [if_pos (.inr (.inr htype))] at himsi
          rw [if_pos htype]
          exact .other hopen himsi
      · simp only [if_neg hid]
        refine .other hopen ?_
        simp only [identityImsi, hdtap, hunpack, ne_eq, not_true_eq_false, if_false, if_neg hid]
  · rw [if_pos hdtap]
    refine .other hopen ?_
    simp only [identityImsi, ne_eq, hdtap, not_false_eq_true, if_true]

theorem sameGate_bscCheckUssd (lib : Osmocore) (cfg : NatConfig) (ussdCon : Bool) (msg : SccpMsg)
    (con : SccpConnections) :
    SameGate con (bscCheckUssd lib cfg ussdCon msg con).con := by
  have hrefl := SameGate.refl con
  unfold bscCheckUssd
  split
  · exact hrefl
  · split
    · exact hrefl
    · split
      · exact hrefl
      · split
        · exact hrefl
        · unfold checkUssdMsg
          simp only
          split
          · split
            · split
              · exact ⟨rfl, rfl⟩
              · exact ⟨rfl, rfl⟩
            · exact hrefl
          · split
            · split <;> exact hrefl
            · exact hrefl

/-! ## Outputs -/

/-- An SCCP message for the MSC. -/
def NatOut.forMsc : NatOut → Bool
  | .toMsc _ => true
  | _ => false

/-- An SCCP message for a BSC. -/
def NatOut.forBsc : NatOut → Bool
  | .toBsc .. => true
  | _ => false

/-- Neither of them. -/
def NatOut.Aside (out : NatOut) : Prop := out.forMsc = false ∧ out.forBsc = false

theorem aside_of_isDlcx {out : NatOut} (h : out.isDlcx = true) : out.Aside := by
  cases out with
  | dlcx bsc endpoint => exact ⟨rfl, rfl⟩
  | _ => cases h

/-- What is handed to the provider goes to the provider. -/
theorem aside_sent (lib : Osmocore) (cfg : NatConfig) (ussdCon : Bool) (msg : SccpMsg) (con : SccpConnections) :
    ∀ out ∈ (bscCheckUssd lib cfg ussdCon msg con).sent, out.Aside := by
  have hnil : ∀ out ∈ ([] : List NatOut), out.Aside := fun out hout => absurd hout not_mem_nil
  unfold bscCheckUssd
  split
  · exact hnil
  · split
    · exact hnil
    · split
      · exact hnil
      · split
        · exact hnil
        · unfold checkUssdMsg
          simp only
          split
          · split
            · split
              · intro out hout
                simp only [mem_cons, not_mem_nil, or_false] at hout
                rcases hout with rfl | rfl <;> exact ⟨rfl, rfl⟩
              · exact hnil
            · exact hnil
          · split
            · split
              · intro out hout
                obtain rfl := mem_singleton.mp hout
                exact ⟨rfl, rfl⟩
              · exact hnil
            · exact hnil

/-! ## Messages that are taken up -/

variable {bsc : BscConnection}

theorem takenUp_spec (h : nat.takenUp b msg = some bsc) :
    nat.bscConnections.get? b = some bsc ∧ msg.parses = true ∧ bscNatFilterIpa .msc msg = false ∧
      bsc.authenticated = true := by
  unfold takenUp at h
  cases hget : nat.bscConnections.get? b with
  | none =>
    rw [hget] at h
    cases h
  | some bsc' =>
    rw [hget] at h
    simp only at h
    split at h
    · cases h
    · rename_i hok
      cases h
      simpa [and_assoc] using hok

theorem forwardSccpToMsc_of_takenUp (h : nat.takenUp b msg = some bsc) (now : Nat) :
    nat.forwardSccpToMsc lib b now (.sccp msg) = nat.sccpToMsc lib b bsc now msg := by
  obtain ⟨hget, hparses, hfilter, hauth⟩ := takenUp_spec h
  unfold forwardSccpToMsc
  rw [hget]
  simp only [hparses, hfilter, hauth, Bool.not_true, Bool.false_eq_true, if_false]

theorem bscEffect_of_takenUp (lib : Osmocore) {src : SccpSourceReference} {ssn : Nat} {data : Option (List Octet)}
    (h : nat.takenUp b (.cr src ssn data) = some bsc) (now : Nat) :
    nat.bscEffect lib b now (.cr src ssn data) = nat.crEffect lib b bsc now src (.cr src ssn data) := by
  obtain ⟨hget, hparses, hfilter, hauth⟩ := takenUp_spec h
  unfold bscEffect
  rw [hget]
  simp only [hparses, hfilter, hauth, Bool.not_true, Bool.or_false, Bool.false_eq_true, if_false]

theorem forwardSccpToMsc_of_not_takenUp {now : Nat} (h : nat.takenUp b msg = none) :
    (nat.forwardSccpToMsc lib b now (.sccp msg)).sccpConnections = nat.sccpConnections ∧
      Wrote NatOut.Aside nat (nat.forwardSccpToMsc lib b now (.sccp msg)) := by
  have hdropped : nat.sccpConnections = nat.sccpConnections ∧ Wrote NatOut.Aside nat nat := ⟨rfl, .of_eq rfl⟩
  unfold takenUp at h
  unfold forwardSccpToMsc
  cases hget : nat.bscConnections.get? b with
  | none => exact hdropped
  | some bsc =>
    rw [hget] at h
    simp only at h ⊢
    split at h
    · rename_i hnot
      split
      · exact hdropped
      · split
        · refine ⟨(quiet_sendAll nat _).cons, wrote_sendAll nat ?_⟩
          intro out hout
          simp only [mem_cons, not_mem_nil, or_false, or_self] at hout
          subst hout
          exact ⟨rfl, rfl⟩
        · split
          · exact hdropped
          · rename_i hparses hfilter hauth
            simp [hparses, hfilter, hauth] at hnot
    · cases h

end OpenBsc.OsmoBscNat
