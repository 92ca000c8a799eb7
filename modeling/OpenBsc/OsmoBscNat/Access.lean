import OpenBsc.OsmoBscNat.Judgements

/-!
# `OsmoBscNat.Access` — access control by IMSI

`access_enforced` says that the NAT does in every run what the judgements on its connections say. The invariant
ties the flags of a connection to its judgement (`Gated`); what is written follows from it.

An IMSI in an identity response is not looked up when the request had one: `not_denied_after_request`.
-/

namespace OpenBsc.OsmoBscNat

open Transition BscNat BscNat.UssdCheck Pool Option

variable {lib : Osmocore}

/-! ## The invariant -/

/-- The flags of a connection that is filtered follow its judgement. -/
def Gated (judgement : Judgement) (con : SccpConnections) : Prop :=
  con.conLocal = .msc → judgement = if con.imsiChecked then .allowed else .none

/-- **Every connection to the MSC has the flag its judgement asks for, and none was denied.** -/
def AccessOk (nat : BscNat) (judged : Nat → Judgement) : Prop :=
  ∀ i con, nat.sccpConnections.get? i = some con → Gated (judged i) con

variable {nat nat' : BscNat} {judged : Nat → Judgement}

theorem Gated.same {judgement : Judgement} {con con' : SccpConnections} (h : Gated judgement con)
    (hsame : SameGate con con') : Gated judgement con' := by
  intro hmsc
  rw [hsame.imsiChecked]
  exact h (hsame.conLocal ▸ hmsc)

theorem AccessOk.kept (h : AccessOk nat judged) (hkept : GatesKept nat nat') : AccessOk nat' judged := by
  intro i con' hi
  obtain ⟨con, hcon, hsame⟩ := hkept i con' hi
  exact (h i con hcon).same hsame

theorem AccessOk.update (h : AccessOk nat judged) {i : Nat} {judgement : Judgement}
    (hother : ∀ j con', nat'.sccpConnections.get? j = some con' → j ≠ i → nat.sccpConnections.get? j = some con')
    (hi : ∀ con', nat'.sccpConnections.get? i = some con' → Gated judgement con') :
    AccessOk nat' (Function.update judged i judgement) := by
  intro j con' hj
  by_cases hji : j = i
  · subst hji
    rw [Function.update_self]
    exact hi con' hj
  · rw [Function.update_of_ne hji]
    exact h j con' (hother j con' hj hji)

theorem noteAccess_of_some {b now i : Nat} {msg : SccpMsg} {bsc : BscConnection}
    (htaken : nat.takenUp b msg = some bsc) (hcon : nat.connectionOf lib b now msg = some i) :
    noteAccess lib judged nat (.fromBsc b now (.sccp msg)) nat' =
      Function.update judged i (nat.judgementAfter lib bsc msg (judged i)) := by
  unfold noteAccess
  simp only [htaken, hcon]

theorem noteAccess_of_none {b now : Nat} {msg : SccpMsg} (hcon : nat.connectionOf lib b now msg = none) :
    noteAccess lib judged nat (.fromBsc b now (.sccp msg)) nat' = judged := by
  unfold noteAccess
  simp only [hcon]
  cases nat.takenUp b msg <;> rfl

/-! ### Requests -/

/-- A request that is accepted is forwarded for the connection that was made. -/
theorem forwardCr_of_created {b i now ssn : Nat} {bsc : BscConnection} {src : SccpSourceReference}
    {data : Option (List Octet)} (hrefs : RefsDistinct nat)
    (hok : ¬ (nat.crVerdict lib bsc (.cr src ssn data)).filter < 0)
    (hcreated : (nat.createSccpSrcRef b src now).2 = some i) :
    ∃ msg', nat.forwardCr lib b bsc now src (.cr src ssn data) =
      ((nat.createSccpSrcRef b src now).1.modifyCon i
        (acceptCr (nat.crVerdict lib bsc (.cr src ssn data)))).queueForMsc true msg' := by
  have hdistinct := hrefs.create b src now
  have hnew := (get?_createSccpSrcRef nat b src now).new
  obtain ⟨con, -, hcon, -⟩ := created_con hcreated
  obtain ⟨hb, hsrc, -⟩ := hnew i con hcon hcreated
  unfold forwardCr
  simp only [if_neg hok]
  cases hcreate : nat.createSccpSrcRef b src now with
  | mk nat₁ created =>
    rw [hcreate] at hdistinct hcon hcreated
    obtain rfl : created = some i := hcreated
    have hfind := hdistinct.findByRealRef hcon
    rw [hb, hsrc] at hfind
    simp only [patchSccpSrcRefToMsc, SccpMsg.srcLocalRef, hfind]
    exact ⟨_, rfl⟩

/-- A request that is rejected leaves nothing but the refused connection, and writes nothing for the MSC. -/
theorem forwardCr_of_rejected (b now : Nat) (src : SccpSourceReference) {bsc : BscConnection} {msg : SccpMsg}
    (hrejected : (nat.crVerdict lib bsc msg).filter < 0) :
    (nat.forwardCr lib b bsc now src msg).sccpConnections =
        (nat.applyEffect (nat.crEffect lib b bsc now src msg)).sccpConnections ∧
      Wrote (·.forMsc = false) nat (nat.forwardCr lib b bsc now src msg) := by
  have hdlcx : ∀ out : NatOut, out.isDlcx = true → out.forMsc = false := fun out h => (aside_of_isDlcx h).1
  have hcreated := (wrote_createSccpSrcRef nat b src now).mono hdlcx
  unfold forwardCr crEffect bscSendConRefuse
  simp only [if_pos hrejected]
  cases hpayload : rejectPayload (nat.crVerdict lib bsc msg).conType with
  | none => exact ⟨rfl, wrote_send nat rfl⟩
  | some payload =>
    show _ = (nat.refuse b src now).1.sccpConnections ∧ _
    unfold refuse
    simp only
    cases hcreate : nat.createSccpSrcRef b src now with
    | mk nat₁ created =>
      rw [hcreate] at hcreated
      cases created with
      | none => exact ⟨rfl, hcreated.trans (wrote_send nat₁ rfl)⟩
      | some i =>
        have hlocal : Wrote (·.forMsc = false) nat (nat₁.modifyCon i declareLocal) :=
          hcreated.trans (.of_eq rfl)
        simp only
        split
        · exact ⟨rfl, hlocal⟩
        · refine ⟨(quiet_sendAll _ _).cons, hlocal.trans (wrote_sendAll _ ?_)⟩
          intro out hout
          simp only [refusal, List.mem_cons, List.not_mem_nil, or_false] at hout
          rcases hout with rfl | rfl | rfl | rfl <;> exact rfl

theorem conLocal_refuse {b now i : Nat} {src : SccpSourceReference} {con : SccpConnections}
    (hrefused : (nat.refuse b src now).2 = some i)
    (hcon : (nat.refuse b src now).1.sccpConnections.get? i = some con) : con.conLocal = .localMachine := by
  unfold refuse at hrefused hcon
  cases hcreate : nat.createSccpSrcRef b src now with
  | mk nat₁ created =>
    rw [hcreate] at hrefused hcon
    cases created with
    | none => cases hrefused
    | some j =>
      obtain rfl : j = i := some.inj hrefused
      have hmod : (nat₁.sccpConnections.modify j declareLocal).get? j = some con := hcon
      rw [get?_modify, if_pos rfl] at hmod
      obtain ⟨d, -, rfl⟩ := map_eq_some_iff.mp hmod
      rfl

theorem gated_acceptCr {bsc : BscConnection} {src : SccpSourceReference} {ssn : Nat} {data : Option (List Octet)}
    (hok : ¬ (nat.crVerdict lib bsc (.cr src ssn data)).filter < 0) (before : Judgement) (con : SccpConnections) :
    Gated (nat.judgementAfter lib bsc (.cr src ssn data) before)
      (acceptCr (nat.crVerdict lib bsc (.cr src ssn data)) con) := by
  intro _
  have hverdict : VerdictOk lib nat.cfg.accLst (bsc.cfg.bind (·.accLst)) (nat.crVerdict lib bsc (.cr src ssn data)) :=
    verdictOk_bscNatFilterSccpCr _ _ _
  show _ = if ((nat.crVerdict lib bsc (.cr src ssn data)).filter != 0) = true then Judgement.allowed else .none
  unfold VerdictOk at hverdict
  unfold judgementAfter
  cases himsi : (nat.crVerdict lib bsc (.cr src ssn data)).imsi with
  | none =>
    rw [himsi] at hverdict
    have hzero : (nat.crVerdict lib bsc (.cr src ssn data)).filter = 0 := by
      omega
    simp [hzero]
  | some imsi =>
    rw [himsi] at hverdict
    have hauth : (nat.crVerdict lib bsc (.cr src ssn data)).filter =
        authImsi lib nat.cfg.accLst (bsc.cfg.bind (·.accLst)) imsi := hverdict
    have hallowed : imsiDenied lib nat.cfg.accLst (bsc.cfg.bind (·.accLst)) imsi = false := by
      by_contra hdenied
      rw [hauth] at hok
      exact hok (authImsi_neg (by simpa using hdenied))
    simp [hauth, authImsi_one hallowed, judge, hallowed]

theorem AccessOk.request (h : AccessOk nat judged) (hrefs : RefsDistinct nat) {b now ssn : Nat}
    {src : SccpSourceReference} {data : Option (List Octet)} {bsc : BscConnection}
    (htaken : nat.takenUp b (.cr src ssn data) = some bsc) :
    AccessOk (nat.forwardCr lib b bsc now src (.cr src ssn data))
      (noteAccess lib judged nat (.fromBsc b now (.sccp (.cr src ssn data))) nat') := by
  have heffect := bscEffect_of_takenUp lib htaken now
  by_cases hrejected : (nat.crVerdict lib bsc (.cr src ssn data)).filter < 0
  · obtain ⟨hcons, -⟩ := forwardCr_of_rejected b now src hrejected
    have hcr : nat.crEffect lib b bsc now src (.cr src ssn data) =
        if (rejectPayload (nat.crVerdict lib bsc (.cr src ssn data)).conType).isSome then .refused b src now
        else .none := by
      unfold crEffect
      simp only [if_pos hrejected]
    by_cases hpayload : (rejectPayload (nat.crVerdict lib bsc (.cr src ssn data)).conType).isSome = true
    · rw [if_pos hpayload] at hcr
      have hconnection : nat.connectionOf lib b now (.cr src ssn data) = (nat.refuse b src now).2 := by
        unfold connectionOf
        simp only [heffect, hcr]
      rw [hcr] at hcons
      obtain ⟨hold, -, -⟩ := get?_refuse nat b src now
      cases hrefused : (nat.refuse b src now).2 with
      | none =>
        rw [hrefused] at hconnection hold
        rw [noteAccess_of_none hconnection]
        intro j con hj
        rw [hcons] at hj
        exact h j con (hold j con hj (by simp)).1
      | some i =>
        rw [hrefused] at hconnection hold
        rw [noteAccess_of_some htaken hconnection]
        refine h.update ?_ ?_
        · intro j con hj hji
          rw [hcons] at hj
          exact (hold j con hj (by simpa using Ne.symm hji)).1
        · intro con hi hmsc
          rw [hcons] at hi
          rw [conLocal_refuse hrefused hi] at hmsc
          cases hmsc
    · rw [if_neg hpayload] at hcr
      have hconnection : nat.connectionOf lib b now (.cr src ssn data) = none := by
        unfold connectionOf
        simp only [heffect, hcr]
      rw [hcr] at hcons
      rw [noteAccess_of_none hconnection]
      exact h.kept (gatesKept_of_cons hcons)
  · have hconnection : nat.connectionOf lib b now (.cr src ssn data) = (nat.createSccpSrcRef b src now).2 := by
      unfold connectionOf
      rw [heffect]
      unfold crEffect
      simp only [if_neg hrejected]
    obtain ⟨hold, -, -, -⟩ := get?_createSccpSrcRef nat b src now
    cases hcreated : (nat.createSccpSrcRef b src now).2 with
    | none =>
      rw [hcreated] at hconnection hold
      rw [noteAccess_of_none hconnection]
      intro j con hj
      have hdropped : nat.forwardCr lib b bsc now src (.cr src ssn data) = (nat.createSccpSrcRef b src now).1 := by
        unfold forwardCr
        simp only [if_neg hrejected]
        cases hcreate : nat.createSccpSrcRef b src now with
        | mk nat₁ created =>
          rw [hcreate] at hcreated
          obtain rfl : created = none := hcreated
          rfl
      rw [hdropped] at hj
      exact h j con (hold j con hj (by simp)).1
    | some i =>
      obtain ⟨msg', hforward⟩ := forwardCr_of_created hrefs hrejected hcreated
      rw [hcreated] at hconnection hold
      rw [noteAccess_of_some htaken hconnection, hforward]
      refine h.update ?_ ?_
      · intro j con hj hji
        rw [queueForMsc_sccpConnections] at hj
        have hmod : ((nat.createSccpSrcRef b src now).1.sccpConnections.modify i _).get? j = some con := hj
        rw [get?_modify_ne hji] at hmod
        exact (hold j con hmod (by simpa using Ne.symm hji)).1
      · intro con hi
        rw [queueForMsc_sccpConnections] at hi
        have hmod : ((nat.createSccpSrcRef b src now).1.sccpConnections.modify i _).get? i = some con := hi
        rw [get?_modify, if_pos rfl] at hmod
        obtain ⟨d, -, rfl⟩ := map_eq_some_iff.mp hmod
        exact gated_acceptCr hrejected _ d

/-! ### Data -/

/-- A connection request. -/
def SccpMsg.isRequest : SccpMsg → Bool
  | .cr .. => true
  | _ => false

theorem connectionOf_of_not_request (lib : Osmocore) (nat : BscNat) {msg : SccpMsg} (h : msg.isRequest = false)
    (b now : Nat) :
    nat.connectionOf lib b now msg = (nat.patchSccpSrcRefToMsc b msg).1.map Prod.fst := by
  cases msg with
  | cr src ssn data => cases h
  | _ => rfl

theorem judgementAfter_of_not_request {bsc : BscConnection} {msg : SccpMsg} (h : msg.isRequest = false)
    (before : Judgement) :
    nat.judgementAfter lib bsc msg before =
      if before ≠ .none then before
      else ((identityImsi lib msg).map (judge lib nat.cfg.accLst (bsc.cfg.bind (·.accLst)))).getD .none := by
  unfold judgementAfter
  cases himsi : identityImsi lib msg with
  | none =>
    cases msg with
    | cr src ssn data => cases h
    | _ => simp only [map_none, getD_none]
  | some imsi =>
    cases msg with
    | cr src ssn data => cases h
    | _ => simp only [map_some, getD_some]

theorem noteAccess_of_no_imsi {b now : Nat} {msg : SccpMsg} (h : msg.isRequest = false)
    (himsi : identityImsi lib msg = none) :
    noteAccess lib judged nat (.fromBsc b now (.sccp msg)) nat' = judged := by
  cases hcon : nat.connectionOf lib b now msg with
  | none => exact noteAccess_of_none hcon
  | some i =>
    cases htaken : nat.takenUp b msg with
    | none =>
      unfold noteAccess
      simp only [htaken]
    | some bsc =>
      rw [noteAccess_of_some htaken hcon, judgementAfter_of_not_request h, himsi]
      have hsame : (if judged i ≠ .none then judged i else .none) = judged i := by
        split
        · rfl
        · rename_i hnone
          exact (not_not.mp hnone).symm
      show Function.update judged i (if judged i ≠ .none then judged i else .none) = judged
      rw [hsame, Function.update_eq_self]

/-- **What becomes of a message with data.** The filter rejects it, and the connection is released; or it passes; or
    the connection is not terminated at the MSC, and nothing goes there. -/
inductive DataHandled (lib : Osmocore) (nat : BscNat) (b : Nat) (natLst bscLst : Option BscNatAccLst) (i : Nat)
    (con : SccpConnections) (msg : SccpMsg) : BscNat → Prop where
  | released {code : Int} {con₁ : SccpConnections} (hmsc : con.conLocal = .msc)
      (hfilter : Filtered lib natLst bscLst msg con (code, con₁)) (hcode : code < 0) :
      DataHandled lib nat b natLst bscLst i con msg (nat.bscSendConRelease b i con₁)
  | passed {code : Int} {con₁ con₂ : SccpConnections} {nat' : BscNat} (hmsc : con.conLocal = .msc)
      (hfilter : Filtered lib natLst bscLst msg con (code, con₁)) (hcode : ¬ code < 0)
      (hgate : con₂.conLocal = .msc → SameGate con₁ con₂)
      (hcons : nat'.sccpConnections = (nat.setCon i con₂).sccpConnections)
      (hout : Wrote (·.forBsc = false) nat nat') : DataHandled lib nat b natLst bscLst i con msg nat'
  | side {con₂ : SccpConnections} {nat' : BscNat} (hlocal : con.conLocal ≠ .msc) (hgate : SameGate con con₂)
      (hcons : nat'.sccpConnections = (nat.setCon i con₂).sccpConnections) (hout : Wrote NatOut.Aside nat nat') :
      DataHandled lib nat b natLst bscLst i con msg nat'

theorem setCon_sccpConnections (nat : BscNat) (i : Nat) (con : SccpConnections) :
    (nat.setCon i con).sccpConnections = nat.sccpConnections.modify i fun _ => con := rfl

theorem setCon_self {i : Nat} {con : SccpConnections} (h : nat.sccpConnections.get? i = some con) :
    (nat.setCon i con).sccpConnections = nat.sccpConnections := by
  rw [setCon_sccpConnections, modify_congr (g := fun con => con) h rfl, modify_id]

theorem forwardData_handled (lib : Osmocore) {b i : Nat} (bsc : BscConnection) {msg msg' : SccpMsg}
    {con : SccpConnections}
    (hpatch : nat.patchSccpSrcRefToMsc b msg = (some (i, con), msg')) :
    DataHandled lib nat b nat.cfg.accLst (bsc.cfg.bind (·.accLst)) i con msg' (nat.forwardData lib b bsc msg) := by
  obtain ⟨hget, -⟩ := patchSccpSrcRefToMsc_some hpatch
  unfold forwardData
  rw [hpatch]
  cases hlocal : con.conLocal with
  | msc =>
    have hfilter := bscNatFilterDt_cases lib nat.cfg.accLst (bsc.cfg.bind (·.accLst)) msg' con
    simp only [hlocal]
    cases hdt : bscNatFilterDt lib nat.cfg.accLst (bsc.cfg.bind (·.accLst)) msg' con with
    | mk code con₁ =>
      rw [hdt] at hfilter
      simp only
      by_cases hcode : code < 0
      · rw [if_pos hcode]
        exact .released hlocal hfilter hcode
      rw [if_neg hcode]
      have hsent := aside_sent lib nat.cfg nat.ussdCon msg' con₁
      have hcheck := sameGate_bscCheckUssd lib nat.cfg nat.ussdCon msg' con₁
      have hall : Wrote (·.forBsc = false) nat
          (nat.sendAll (bscCheckUssd lib nat.cfg nat.ussdCon msg' con₁).sent) :=
        wrote_sendAll nat fun out hout => (hsent out hout).2
      generalize bscCheckUssd lib nat.cfg nat.ussdCon msg' con₁ = check at hcheck hall
      have hcons : ((nat.sendAll check.sent).setCon i (mark check)).sccpConnections =
          (nat.setCon i (mark check)).sccpConnections := by
        rw [setCon_sccpConnections, setCon_sccpConnections, sendAll_sccpConnections]
      have hset : Wrote (·.forBsc = false) nat ((nat.sendAll check.sent).setCon i (mark check)) :=
        hall.trans (.of_eq rfl)
      cases hhandled : check.handled with
      | true =>
        rw [if_pos rfl]
        refine .passed hlocal hfilter hcode ?_ hcons hset
        -- the connection is at the provider now
        intro hmsc
        simp [mark, hhandled] at hmsc
      | false =>
        rw [if_neg Bool.false_ne_true]
        have hgate : (mark check).conLocal = .msc → SameGate con₁ (mark check) := by
          intro _
          simpa [mark, hhandled] using hcheck
        refine .passed hlocal hfilter hcode hgate ?_ ?_
        · rw [queueForMsc_sccpConnections]
          exact hcons
        · exact hset.trans (wrote_queueForMsc _ _ rfl)
  | ussd =>
    simp only [hlocal]
    have hcheck := sameGate_bscCheckUssd lib nat.cfg nat.ussdCon msg' con
    refine .side (by simp [hlocal]) hcheck ?_ ?_
    · rw [setCon_sccpConnections, setCon_sccpConnections, sendAll_sccpConnections]
    · exact (wrote_sendAll nat (aside_sent _ _ _ _ _)).trans (.of_eq rfl)
  | localMachine =>
    simp only [hlocal]
    exact .side (by simp [hlocal]) (.refl con) (setCon_self hget).symm (.of_eq rfl)

/-- What the filter lets through was allowed, or nobody was asked; what it rejects was not allowed. -/
theorem Filtered.judgement {natLst bscLst : Option BscNatAccLst} {msg : SccpMsg} {con con₁ : SccpConnections}
    {code : Int}
    (h : Filtered lib natLst bscLst msg con (code, con₁)) {before after : Judgement} (hgated : Gated before con)
    (hmsc : con.conLocal = .msc)
    (hafter : after = if before ≠ .none then before
      else ((identityImsi lib msg).map (judge lib natLst bscLst)).getD .none) :
    (code < 0 → after ≠ .allowed ∧ before = .none) ∧
      (¬ code < 0 → after = if con₁.imsiChecked then .allowed else .none) := by
  have hbefore := hgated hmsc
  cases h with
  | checked hchecked =>
    rw [hchecked, if_pos rfl] at hbefore
    subst hbefore
    simp [hafter, hchecked]
  | identified hopen himsi =>
    rename_i imsi
    rw [hopen, if_neg Bool.false_ne_true] at hbefore
    subst hbefore
    simp only [ne_eq, not_true_eq_false, if_false, himsi, map_some, getD_some] at hafter
    subst hafter
    unfold judge
    cases hdenied : imsiDenied lib natLst bscLst imsi with
    | true =>
      have hneg := authImsi_neg hdenied
      exact ⟨fun _ => ⟨by simp, rfl⟩, fun hpos => absurd hneg hpos⟩
    | false =>
      rw [authImsi_one hdenied]
      exact ⟨fun hneg => absurd hneg (by decide), fun _ => rfl⟩
  | other hopen himsi =>
    rw [hopen, if_neg Bool.false_ne_true] at hbefore
    subst hbefore
    simp [hafter, himsi, hopen]

theorem Filtered.sameRefs {natLst bscLst : Option BscNatAccLst} {msg : SccpMsg} {con con₁ : SccpConnections}
    {code : Int} (h : Filtered lib natLst bscLst msg con (code, con₁)) :
    con₁.remoteRef = con.remoteRef ∧ con₁.patchedRef = con.patchedRef := by
  cases h with
  | checked | identified | other => exact ⟨rfl, rfl⟩

/-- **The connection of a message with data follows its judgement afterwards.** -/
theorem AccessOk.handled (h : AccessOk nat judged) {natLst bscLst : Option BscNatAccLst} {b i : Nat} {msg : SccpMsg}
    {con : SccpConnections} (hget : nat.sccpConnections.get? i = some con) {after : Judgement}
    (hafter : after = if judged i ≠ .none then judged i
      else ((identityImsi lib msg).map (judge lib natLst bscLst)).getD .none)
    (hhandled : DataHandled lib nat b natLst bscLst i con msg nat') :
    AccessOk nat' (Function.update judged i after) := by
  have hset : ∀ con₂, nat'.sccpConnections = (nat.setCon i con₂).sccpConnections → Gated after con₂ →
      AccessOk nat' (Function.update judged i after) := by
    intro con₂ hcons hgated
    rw [setCon_sccpConnections] at hcons
    refine h.update ?_ ?_
    · intro j d hj hji
      rw [hcons, get?_modify_ne hji] at hj
      exact hj
    · intro d hi
      rw [hcons, get?_modify_self hget] at hi
      cases hi
      exact hgated
  cases hhandled with
  | released hmsc hfilter hcode =>
    rename_i code con₁
    refine hset { con₁ with conLocal := .localMachine, mscCon := false, conType := .localReject } ?_ ?_
    · unfold bscSendConRelease
      rw [setCon_sccpConnections, setCon_sccpConnections, sendAll_sccpConnections, queueForMsc_sccpConnections]
    · intro hlocal
      cases hlocal
  | passed hmsc hfilter hcode hgate hcons hout =>
    refine hset _ hcons fun hlocal => ?_
    rw [(hgate hlocal).imsiChecked]
    exact (hfilter.judgement (h i con hget) hmsc hafter).2 hcode
  | side hlocal hgate hcons hout =>
    exact hset _ hcons fun hmsc => absurd (hgate.conLocal ▸ hmsc) hlocal

theorem gatesKept_forwardRlc (nat : BscNat) (b : Nat) (src : SccpSourceReference) (msg : SccpMsg) :
    GatesKept nat (nat.forwardRlc b src msg) := by
  have hgone : ∀ r, GatesKept nat ((nat.removeSccpSrcRef r).bscMaybeClose b) := fun r =>
    (gatesKept_removeSccpSrcRef nat r).trans (gatesKept_bscMaybeClose _ b)
  unfold forwardRlc
  split
  · exact hgone src
  · simp only
    split
    · exact (hgone _).trans (gatesKept_of_cons (queueForMsc_sccpConnections _ _ _))
    · exact hgone _

/-- The messages `forward_sccp_to_msc` looks up a connection for and filters. -/
def SccpMsg.hasData : SccpMsg → Bool
  | .rlsd .. | .cref .. | .dt1 .. | .cc .. | .it .. => true
  | _ => false

theorem sccpToMsc_of_hasData {msg : SccpMsg} (h : msg.hasData = true) (b now : Nat) (bsc : BscConnection) :
    nat.sccpToMsc lib b bsc now msg = nat.forwardData lib b bsc msg := by
  cases msg with
  | rlsd | cref | dt1 | cc | it => rfl
  | _ => cases h

theorem isRequest_of_hasData {msg : SccpMsg} (h : msg.hasData = true) : msg.isRequest = false := by
  cases msg with
  | cr src ssn data => cases h
  | _ => rfl

theorem AccessOk.data (h : AccessOk nat judged) {b now : Nat} {msg : SccpMsg} {bsc : BscConnection}
    (htaken : nat.takenUp b msg = some bsc) (hdata : msg.hasData = true) :
    AccessOk (nat.forwardData lib b bsc msg) (noteAccess lib judged nat (.fromBsc b now (.sccp msg)) nat') := by
  have hrequest := isRequest_of_hasData hdata
  have hconnection := connectionOf_of_not_request lib nat hrequest b now
  cases hpatch : nat.patchSccpSrcRefToMsc b msg with
  | mk found msg' =>
    rw [hpatch] at hconnection
    cases found with
    | none =>
      rw [noteAccess_of_none hconnection]
      unfold forwardData
      rw [hpatch]
      exact h
    | some found =>
      obtain ⟨i, con⟩ := found
      obtain ⟨hget, -⟩ := patchSccpSrcRefToMsc_some hpatch
      rw [noteAccess_of_some htaken hconnection]
      refine h.handled hget ?_ (forwardData_handled lib bsc hpatch)
      rw [identityImsi_patched hpatch]
      exact judgementAfter_of_not_request hrequest _

/-- **An SCCP message of a BSC.** -/
theorem AccessOk.sccp (h : AccessOk nat judged) (hrefs : RefsDistinct nat) (b now : Nat) (msg : SccpMsg) :
    AccessOk (natStep lib nat (.fromBsc b now (.sccp msg)))
      (noteAccess lib judged nat (.fromBsc b now (.sccp msg)) (natStep lib nat (.fromBsc b now (.sccp msg)))) := by
  show AccessOk (nat.forwardSccpToMsc lib b now (.sccp msg)) _
  cases htaken : nat.takenUp b msg with
  | none =>
    unfold noteAccess
    simp only [htaken]
    exact h.kept (gatesKept_of_cons (forwardSccpToMsc_of_not_takenUp htaken).1)
  | some bsc =>
    rw [forwardSccpToMsc_of_takenUp htaken]
    cases msg with
    | cr src ssn data => exact h.request hrefs htaken
    | rlc dest src =>
      rw [noteAccess_of_no_imsi rfl rfl]
      exact h.kept (gatesKept_forwardRlc nat b src _)
    | udt ssn data =>
      rw [noteAccess_of_none rfl]
      exact h
    | err dest =>
      rw [noteAccess_of_no_imsi rfl rfl]
      exact h
    | rlsd | cref | dt1 | cc | it => exact h.data htaken rfl

theorem reachable_of_accessSystem {p : BscNat × (Nat → Judgement)} (h : Reachable (accessSystem lib) p) :
    Reachable (natSystem lib) p.1 := by
  induction h with
  | init hinit => exact .init hinit.1
  | step _ hg hs ih => exact .step ih hg hs.1

theorem noteAccess_of_not_sccp {ev : NatEvent} (h : ev.isBscSccp = false) :
    noteAccess lib judged nat ev nat' = judged := by
  cases ev with
  | fromBsc b now msg =>
    cases msg with
    | sccp msg => cases h
    | _ => rfl
  | _ => rfl

/-- In every state of every run the flags follow the judgements. -/
theorem reachable_accessOk {p : BscNat × (Nat → Judgement)} (h : Reachable (accessSystem lib) p) :
    AccessOk p.1 p.2 := by
  refine h.invariant_of (I := fun p => AccessOk p.1 p.2) (J := fun p => RefsDistinct p.1) ?_ ?_ ?_
  · intro p hp
    exact reachable_refsDistinct (reachable_of_accessSystem hp)
  · rintro ⟨nat, judged⟩ ⟨⟨cfg, rfl⟩, -⟩ i con hi
    cases hi
  · rintro ⟨nat, judged⟩ ev ⟨nat', judged'⟩ hrefs hok - ⟨hstep, hnote⟩
    obtain rfl : nat' = natStep lib nat ev := hstep
    obtain rfl : judged' = noteAccess lib judged nat ev (natStep lib nat ev) := hnote
    cases hev : ev.isBscSccp with
    | false =>
      show AccessOk (natStep lib nat ev) (noteAccess lib judged nat ev (natStep lib nat ev))
      rw [noteAccess_of_not_sccp hev]
      exact hok.kept (gatesKept_natStep lib nat hev)
    | true =>
      cases ev with
      | fromBsc b now msg =>
        cases msg with
        | sccp msg => exact hok.sccp hrefs b now msg
        | _ => cases hev
      | _ => cases hev

/-! ## Runs -/

/-- **What access control is.** A request with a denied IMSI is not forwarded, and one with an allowed IMSI is not
    refused. Once an IMSI of a connection was denied, none of its messages is forwarded: the one that presents it is
    answered by the release towards the MSC, and later ones by nothing. Once it was allowed, none is answered by a
    rejection. -/
structure AccessEnforced (lib : Osmocore) (nat : BscNat) (judged : Nat → Judgement) : Prop where
  requests : ∀ b now src ssn data bsc imsi, nat.takenUp b (.cr src ssn data) = some bsc →
    (nat.crVerdict lib bsc (.cr src ssn data)).imsi = some imsi →
    ∀ out ∈ written nat (natStep lib nat (.fromBsc b now (.sccp (.cr src ssn data)))),
      (imsiDenied lib nat.cfg.accLst (bsc.cfg.bind (·.accLst)) imsi = true → out.forMsc = false) ∧
        (imsiDenied lib nat.cfg.accLst (bsc.cfg.bind (·.accLst)) imsi = false → out.forBsc = false)
  denied : ∀ b now msg i con, msg.isRequest = false → (nat.patchSccpSrcRefToMsc b msg).1 = some (i, con) →
    noteAccess lib judged nat (.fromBsc b now (.sccp msg)) (natStep lib nat (.fromBsc b now (.sccp msg))) i = .denied →
    ∀ out ∈ written nat (natStep lib nat (.fromBsc b now (.sccp msg))), out.forMsc = true →
      judged i = .none ∧ out = .toMsc (.rlsd con.remoteRef con.patchedRef none)
  allowed : ∀ b now msg i con, msg.isRequest = false → (nat.patchSccpSrcRefToMsc b msg).1 = some (i, con) →
    noteAccess lib judged nat (.fromBsc b now (.sccp msg)) (natStep lib nat (.fromBsc b now (.sccp msg))) i = .allowed →
    ∀ out ∈ written nat (natStep lib nat (.fromBsc b now (.sccp msg))), out.forBsc = false

theorem wrote_request {b now ssn : Nat} {src : SccpSourceReference} {data : Option (List Octet)} {bsc : BscConnection}
    {imsi : List Octet} (htaken : nat.takenUp b (.cr src ssn data) = some bsc)
    (himsi : (nat.crVerdict lib bsc (.cr src ssn data)).imsi = some imsi) :
    Wrote (fun out => (imsiDenied lib nat.cfg.accLst (bsc.cfg.bind (·.accLst)) imsi = true → out.forMsc = false) ∧
        (imsiDenied lib nat.cfg.accLst (bsc.cfg.bind (·.accLst)) imsi = false → out.forBsc = false))
      nat (natStep lib nat (.fromBsc b now (.sccp (.cr src ssn data)))) := by
  have hverdict : VerdictOk lib nat.cfg.accLst (bsc.cfg.bind (·.accLst)) (nat.crVerdict lib bsc (.cr src ssn data)) :=
    verdictOk_bscNatFilterSccpCr _ _ _
  unfold VerdictOk at hverdict
  rw [himsi] at hverdict
  have hauth : (nat.crVerdict lib bsc (.cr src ssn data)).filter =
      authImsi lib nat.cfg.accLst (bsc.cfg.bind (·.accLst)) imsi := hverdict
  show Wrote _ nat (nat.forwardSccpToMsc lib b now (.sccp (.cr src ssn data)))
  rw [forwardSccpToMsc_of_takenUp htaken]
  show Wrote _ nat (nat.forwardCr lib b bsc now src (.cr src ssn data))
  cases hdenied : imsiDenied lib nat.cfg.accLst (bsc.cfg.bind (·.accLst)) imsi with
  | true =>
    have hneg : (nat.crVerdict lib bsc (.cr src ssn data)).filter < 0 := by
      rw [hauth]
      exact authImsi_neg hdenied
    refine (forwardCr_of_rejected b now src hneg).2.mono ?_
    intro out hout
    exact ⟨fun _ => hout, fun h => by cases h⟩
  | false =>
    have hpos : ¬ (nat.crVerdict lib bsc (.cr src ssn data)).filter < 0 := by
      rw [hauth, authImsi_one hdenied]
      decide
    have hcreated : Wrote (·.forBsc = false) nat (nat.createSccpSrcRef b src now).1 :=
      (wrote_createSccpSrcRef nat b src now).mono fun out hout => (aside_of_isDlcx hout).2
    have haccepted : Wrote (·.forBsc = false) nat (nat.forwardCr lib b bsc now src (.cr src ssn data)) := by
      unfold forwardCr
      simp only [if_neg hpos]
      cases hcreate : nat.createSccpSrcRef b src now with
      | mk nat₁ created =>
        rw [hcreate] at hcreated
        cases created with
        | none => exact hcreated
        | some i =>
          simp only
          split
          · exact hcreated
          · exact (hcreated.trans (.of_eq rfl)).trans (wrote_queueForMsc _ true rfl)
    exact haccepted.mono fun out hout => ⟨fun h => (by cases h), fun _ => hout⟩

theorem wrote_bscSendConRelease (nat : BscNat) (b i : Nat) (con : SccpConnections) :
    Wrote (fun out => out.forMsc = true → out = .toMsc (.rlsd con.remoteRef con.patchedRef none)) nat
      (nat.bscSendConRelease b i con) := by
  have hmsc := wrote_queueForMsc (P := fun out => out.forMsc = true →
    out = .toMsc (.rlsd con.remoteRef con.patchedRef none)) nat con.mscCon fun _ => rfl
  refine (hmsc.trans (wrote_sendAll _ ?_)).trans (.of_eq rfl)
  intro out hout hfor
  -- the rest goes to the BSC
  rcases List.mem_append.mp hout with hout | hout
  · split at hout
    · obtain ⟨payload, -, rfl⟩ := List.mem_map.mp hout
      cases hfor
    · cases hout
  · simp only [List.mem_cons, List.not_mem_nil, or_false] at hout
    rcases hout with rfl | rfl <;> cases hfor

/-- A release complete makes the NAT forward it if the connection is at the MSC, and nothing for a BSC. -/
theorem wrote_forwardRlc {b : Nat} {src : SccpSourceReference} {msg msg' : SccpMsg} {i : Nat} {con : SccpConnections}
    (hpatch : nat.patchSccpSrcRefToMsc b msg = (some (i, con), msg')) :
    Wrote (fun out => (out.forMsc = true → con.conLocal = .msc) ∧ out.forBsc = false) nat
      (nat.forwardRlc b src msg) := by
  have hgone : Wrote (fun out => (out.forMsc = true → con.conLocal = .msc) ∧ out.forBsc = false) nat
      ((nat.removeSccpSrcRef con.patchedRef).bscMaybeClose b) := by
    have hremoved := (wrote_removeSccpSrcRef nat con.patchedRef).mono (Q := fun out =>
      (out.forMsc = true → con.conLocal = .msc) ∧ out.forBsc = false) fun out hout =>
        ⟨fun hfor => by simp [(aside_of_isDlcx hout).1] at hfor, (aside_of_isDlcx hout).2⟩
    exact hremoved.trans (.of_eq (bscMaybeClose_outbox _ b))
  unfold forwardRlc
  rw [hpatch]
  simp only
  split
  · rename_i hlocal
    exact hgone.trans (wrote_queueForMsc _ _ ⟨fun _ => hlocal, rfl⟩)
  · exact hgone

/-- **What a message for a connection makes the NAT write**, in terms of its judgement afterwards. -/
theorem wrote_message (hok : AccessOk nat judged) {b now i : Nat} {msg : SccpMsg} {con : SccpConnections}
    (hrequest : msg.isRequest = false) (hfound : (nat.patchSccpSrcRefToMsc b msg).1 = some (i, con))
    {after : Judgement} (hafter : noteAccess lib judged nat (.fromBsc b now (.sccp msg)) nat' i = after) :
    Wrote (fun out =>
        (after = .denied → out.forMsc = true →
          judged i = .none ∧ out = .toMsc (.rlsd con.remoteRef con.patchedRef none)) ∧
        (after = .allowed → out.forBsc = false))
      nat (natStep lib nat (.fromBsc b now (.sccp msg))) := by
  have haside : ∀ out : NatOut, out.Aside → (after = .denied → out.forMsc = true →
      judged i = .none ∧ out = .toMsc (.rlsd con.remoteRef con.patchedRef none)) ∧
      (after = .allowed → out.forBsc = false) := by
    intro out hout
    exact ⟨fun _ hfor => (by simp [hout.1] at hfor), fun _ => hout.2⟩
  show Wrote _ nat (nat.forwardSccpToMsc lib b now (.sccp msg))
  cases htaken : nat.takenUp b msg with
  | none => exact (forwardSccpToMsc_of_not_takenUp htaken).2.mono haside
  | some bsc =>
    rw [forwardSccpToMsc_of_takenUp htaken]
    cases hpatch : nat.patchSccpSrcRefToMsc b msg with
    | mk found msg' =>
      rw [hpatch] at hfound
      obtain rfl : found = some (i, con) := hfound
      obtain ⟨hget, -⟩ := patchSccpSrcRefToMsc_some hpatch
      have hgated := hok i con hget
      by_cases hdata : msg.hasData = true
      · have hconnection : nat.connectionOf lib b now msg = some i := by
          rw [connectionOf_of_not_request lib nat hrequest, hpatch]
          rfl
        rw [noteAccess_of_some htaken hconnection, Function.update_self,
          judgementAfter_of_not_request hrequest, ← identityImsi_patched hpatch] at hafter
        rw [sccpToMsc_of_hasData hdata]
        have hhandled := forwardData_handled lib bsc hpatch
        generalize nat.forwardData lib b bsc msg = nat₁ at hhandled
        cases hhandled with
        | released hmsc hfilter hcode =>
          rename_i code con₁
          obtain ⟨hallowed, hnone⟩ := (hfilter.judgement hgated hmsc hafter.symm).1 hcode
          obtain ⟨hremote, hpatched⟩ := hfilter.sameRefs
          refine (wrote_bscSendConRelease nat b i con₁).mono ?_
          intro out hout
          rw [hremote, hpatched] at hout
          exact ⟨fun _ hfor => ⟨hnone, hout hfor⟩, fun h => absurd h hallowed⟩
        | passed hmsc hfilter hcode hgate hcons hout =>
          have hpassed := (hfilter.judgement hgated hmsc hafter.symm).2 hcode
          refine hout.mono ?_
          intro out hbsc
          refine ⟨fun hdenied => ?_, fun _ => hbsc⟩
          rw [hdenied] at hpassed
          split at hpassed <;> cases hpassed
        | side hlocal hgate hcons hout => exact hout.mono haside
      · cases msg with
        | rlc dest src =>
          rw [noteAccess_of_no_imsi rfl rfl] at hafter
          refine (wrote_forwardRlc hpatch).mono ?_
          intro out hout
          refine ⟨fun hdenied hfor => ?_, fun _ => hout.2⟩
          have hbefore := hgated (hout.1 hfor)
          rw [hafter, hdenied] at hbefore
          split at hbefore <;> cases hbefore
        | udt | err => exact .of_eq rfl
        | cr src ssn data => cases hrequest
        | _ => exact absurd rfl hdata

/-- **In every state of every run access control is enforced.** -/
theorem access_enforced (lib : Osmocore) (nat : BscNat) (judged : Nat → Judgement)
    (h : Reachable (accessSystem lib) (nat, judged)) : AccessEnforced lib nat judged := by
  have hok : AccessOk nat judged := reachable_accessOk h
  refine ⟨?_, ?_, ?_⟩
  · intro b now src ssn data bsc imsi htaken himsi
    exact (wrote_request htaken himsi).written
  · intro b now msg i con hrequest hfound hafter out hout hfor
    exact ((wrote_message hok hrequest hfound hafter).written out hout).1 rfl hfor
  · intro b now msg i con hrequest hfound hafter out hout
    exact ((wrote_message hok hrequest hfound hafter).written out hout).2 rfl

/-! ### Fixed inputs -/

/-- A NAT whose list denies one IMSI. -/
def denyingConfig : NatConfig := { plainConfig with accLst := some [⟨none, some (octets "020")⟩] }

/-- A CM SERVICE REQUEST with this mobile identity. -/
def serviceRequest (src : SccpSourceReference) (mi : List Octet) : SccpMsg :=
  requestOf src ([0x05, 0x24, 0x01, 0x03, 0x00, 0x00, 0x00, UInt8.ofNat mi.length] ++ mi)

/-- An IDENTITY RESPONSE with this mobile identity. -/
def identityResponse (dest : SccpSourceReference) (mi : List Octet) : SccpMsg :=
  .dt1 dest ([0x01, 0x00, UInt8.ofNat (mi.length + 3), 0x05, 0x19, UInt8.ofNat mi.length] ++ mi)

/-- A BSC opens a connection with this mobile identity, and the MSC confirms it. -/
def openedWith (mi : List Octet) : List NatEvent :=
  .mscConnected :: bscArrives 0 ++ [.fromBsc 0 0 (.sccp (serviceRequest 2 mi)), .fromMsc (.cc 0x050000 0x123 none)]

/-- The NAT and the judgements after an event. -/
def accessStep (lib : Osmocore) (p : BscNat × (Nat → Judgement)) (ev : NatEvent) : BscNat × (Nat → Judgement) :=
  (natStep lib p.1 ev, noteAccess lib p.2 p.1 ev (natStep lib p.1 ev))

theorem step_accessStep (lib : Osmocore) (p : BscNat × (Nat → Judgement)) (ev : NatEvent) :
    (accessSystem lib).step p ev (accessStep lib p ev) := ⟨rfl, rfl⟩

/-- A connection with a TMSI, whose identity response has the denied IMSI. -/
theorem access_enforced_identified :
    let p := List.foldl (accessStep plainLib) (start denyingConfig, fun _ => .none)
      (openedWith [0xf4, 1, 2, 3, 4] ++ [.fromBsc 0 0 (.sccp (identityResponse 0x123 [0x09, 0x02]))])
    p.2 0 = .denied ∧ AccessEnforced plainLib p.1 p.2 := by
  intro p
  have hreach : Reachable (accessSystem plainLib) p :=
    ReachableBy.foldl (step_accessStep plainLib) _ (.init ⟨⟨denyingConfig, rfl⟩, rfl⟩)
  refine ⟨?_, access_enforced plainLib p.1 p.2 hreach⟩
  decide +kernel

/-- The request had an IMSI that is not denied, so nobody looks at the denied one in the identity response, and the
    next message is forwarded. -/
theorem not_denied_after_request :
    ¬ ∀ (lib : Osmocore) (cfg : NatConfig) (before : List NatEvent) (b now now' i : Nat) (msg later : SccpMsg)
        (con con' : SccpConnections) (bsc : BscConnection) (imsi : List Octet),
      (∀ b now msg, .fromBsc b now (.sccp msg) ∈ before → identityImsi lib msg = none) →
      (before.foldl (natStep lib) (start cfg)).takenUp b msg = some bsc →
      ((before.foldl (natStep lib) (start cfg)).patchSccpSrcRefToMsc b msg).1 = some (i, con) →
      identityImsi lib msg = some imsi → imsiDenied lib cfg.accLst (bsc.cfg.bind (·.accLst)) imsi = true →
      later.isRequest = false →
      ((natStep lib (before.foldl (natStep lib) (start cfg)) (.fromBsc b now (.sccp msg))).patchSccpSrcRefToMsc
        b later).1 = some (i, con') →
      ∀ out ∈ written (natStep lib (before.foldl (natStep lib) (start cfg)) (.fromBsc b now (.sccp msg)))
        (natStep lib (natStep lib (before.foldl (natStep lib) (start cfg)) (.fromBsc b now (.sccp msg)))
          (.fromBsc b now' (.sccp later))), out.forMsc = false := by
  intro h
  let before := openedWith [0x09, 0x01]
  let nat := before.foldl (natStep plainLib) (start denyingConfig)
  let msg := identityResponse 0x123 [0x09, 0x02]
  let nat' := natStep plainLib nat (.fromBsc 0 0 (.sccp msg))
  have hbsc : (nat.takenUp 0 msg).isSome = true ∧ (nat.takenUp 0 msg).all fun bsc =>
      imsiDenied plainLib denyingConfig.accLst (bsc.cfg.bind (·.accLst)) (octets "020") := by decide +kernel
  obtain ⟨bsc, htaken⟩ := isSome_iff_exists.mp hbsc.1
  have hdenied := hbsc.2
  rw [htaken] at hdenied
  have hfound : (nat.patchSccpSrcRefToMsc 0 msg).1.map Prod.fst = some 0 := by decide +kernel
  obtain ⟨⟨i, con⟩, hcon, rfl⟩ := map_eq_some_iff.mp hfound
  have hfound' : (nat'.patchSccpSrcRefToMsc 0 (.dt1 0x123 [0x01, 0x00, 0x02, 0x05, 0x08])).1.map Prod.fst = some 0 := by
    decide +kernel
  obtain ⟨⟨j, con'⟩, hcon', rfl⟩ := map_eq_some_iff.mp hfound'
  have hnone : ∀ out ∈ written nat' (natStep plainLib nat'
      (.fromBsc 0 0 (.sccp (.dt1 0x123 [0x01, 0x00, 0x02, 0x05, 0x08])))), out.forMsc = false := by
    refine h plainLib denyingConfig before 0 0 0 _ msg (.dt1 0x123 [0x01, 0x00, 0x02, 0x05, 0x08]) con con' bsc
      (octets "020") ?_ htaken hcon (by decide +kernel) hdenied rfl hcon'
    intro b now msg hmem
    simp only [before, openedWith, bscArrives, List.cons_append, List.nil_append, List.mem_cons, List.not_mem_nil,
      or_false, reduceCtorEq, false_or, NatEvent.fromBsc.injEq, BscMsg.sccp.injEq, and_false] at hmem
    obtain ⟨-, -, rfl⟩ := hmem
    decide +kernel
  have hone : ∃ out ∈ written nat' (natStep plainLib nat'
      (.fromBsc 0 0 (.sccp (.dt1 0x123 [0x01, 0x00, 0x02, 0x05, 0x08])))), out.forMsc = true := by
    decide +kernel
  obtain ⟨out, hout, hfor⟩ := hone
  rw [hnone out hout] at hfor
  cases hfor

end OpenBsc.OsmoBscNat
