import OpenBsc.Lib.Scan
import OpenBsc.Mgcp.Lifecycle

/-!
# `Mgcp.ModifyConnection` — an MDCX that is answered with an error (`mgcp_protocol.c`)

`handle_modify_con` applies the lines of a request while it reads them. A line that is refused ends it with an error,
and so may the policy after the last line; what the lines before have changed stays. `handle_create_con` collects what
its lines say and applies it when all are read.

So an MDCX that fails leaves the connection as it was exactly when the last mode, the last media line and the last
address before the refusal say what the connection has already.
-/

namespace OpenBsc.Mgcp

open Scan Transition MgcpConfig MgcpEndpoint List

/-! ## Lines -/

/-- The lines that the loop over the parameters looks at: all behind the first one, up to the last line feed. -/
def paramLines (first : Bool) (cur : List Octet) : List Octet → List (List Octet)
  | [] => []
  | o :: rest =>
    if o = lineFeed then
      if first then paramLines false [] rest else cur :: paramLines false [] rest
    else paramLines first (cur ++ [o]) rest

/-- Why a line ends the loop: it is malformed, or refused for what it says. -/
def lineRefusal (refuses : List Octet → Option Nat) (errorCode : Nat) (cur : List Octet) : Option Nat :=
  if properParam cur then refuses (chomp cur) else some errorCode

section Lines

variable {σ : Type} {line : σ → List Octet → σ × Option Nat} {refuses : List Octet → Option Nat} {P : σ → Prop}

/-- **The loop over the lines**, if what is refused does not depend on what the lines before have changed. -/
theorem tokenize_eq (hrefuses : ∀ s cur, P s → (line s cur).2 = refuses cur)
    (hkeeps : ∀ s cur, P s → P (line s cur).1)
    (hstops : ∀ s cur code, (line s cur).2 = some code → (line s cur).1 = s) (errorCode : Nat) (msg : List Octet) :
    ∀ (first : Bool) (cur : List Octet) (s : σ), P s → tokenize line errorCode first cur s msg =
      ((accepted (lineRefusal refuses errorCode) (paramLines first cur msg)).foldl
          (fun s cur => (line s (chomp cur)).1) s,
        (paramLines first cur msg).findSome? (lineRefusal refuses errorCode)) := by
  simp only [← scan_eq]
  induction msg with
  | nil =>
    intro first cur s _
    rfl
  | cons o rest ih =>
    intro first cur s hs
    simp only [tokenize, paramLines]
    by_cases ho : o = lineFeed
    · rw [if_pos ho, if_pos ho]
      cases first with
      | true => exact ih false [] s hs
      | false =>
        simp only [Bool.false_eq_true, if_false, scan, lineRefusal]
        by_cases hproper : properParam cur = true
        · rw [if_pos hproper, if_pos hproper, ← hrefuses s (chomp cur) hs]
          have hstop := hstops s (chomp cur)
          have hkeep := hkeeps s (chomp cur) hs
          generalize line s (chomp cur) = out at hstop hkeep ⊢
          obtain ⟨s', code⟩ := out
          cases code with
          | some code =>
            have heq : s' = s := hstop code rfl
            rw [heq]
          | none => exact ih false [] s' hkeep
        · rw [if_neg hproper, if_neg hproper]
    · rw [if_neg ho, if_neg ho]
      exact ih first (cur ++ [o]) s hs

end Lines

/-! ## What a line of an MDCX does -/

/-- The error code with which a line of an MDCX is refused at this endpoint. -/
def modifyRefusal (endp : MgcpEndpoint) (cur : List Octet) : Option Nat := (modifyLine (endp, false) cur).2

/-- The mode that a line sets. -/
def lineMode (cur : List Octet) : Option MgcpConnectionMode :=
  if cur.headD 0 = octetOf 'M' then parseConnMode (paramValue cur) else none

/-- The port and the payload type that a line sets. -/
def lineMedia (cur : List Octet) : Option (Int × Int) := if cur.headD 0 = octetOf 'm' then scanMedia cur else none

/-- The address that a line sets. -/
def lineAddr (cur : List Octet) : Option (BitVec 32) :=
  if cur.headD 0 = octetOf 'c' then (scanConnection cur).bind inetAton else none

/-- Whether a line asks for no answer, if it is about that. -/
def lineSilent (cur : List Octet) : Option Bool :=
  if cur.headD 0 = octetOf 'Z' then some (decide (paramValue cur = octets "noanswer")) else none

namespace MgcpEndpoint

/-- The endpoint with the mode, the media and the address that it is told. -/
def told (endp : MgcpEndpoint) (mode : Option MgcpConnectionMode) (media : Option (Int × Int))
    (addr : Option (BitVec 32)) : MgcpEndpoint :=
  { endp with
    connMode := mode.getD endp.connMode
    origMode := mode.getD endp.origMode
    netEnd := { endp.netEnd with
      rtpPort := (media.map fun m => (m.1 % 65536).toNat).getD endp.netEnd.rtpPort
      rtcpPort := (media.map fun m => ((m.1 + 1) % 65536).toNat).getD endp.netEnd.rtcpPort
      payloadType := (media.map Prod.snd).getD endp.netEnd.payloadType
      addr := addr.getD endp.netEnd.addr } }

variable (endp : MgcpEndpoint) (mode mode' : Option MgcpConnectionMode) (media media' : Option (Int × Int))
  (addr addr' : Option (BitVec 32))

theorem told_told : (endp.told mode media addr).told mode' media' addr' =
    endp.told (mode'.or mode) (media'.or media) (addr'.or addr) := by
  cases mode' <;> cases media' <;> cases addr' <;> rfl

end MgcpEndpoint

/-- What a line of an MDCX does: it is refused, or it tells the endpoint something. -/
inductive ModifyCase (s : MgcpEndpoint × Bool) (cur : List Octet) : (MgcpEndpoint × Bool) × Option Nat → Prop where
  | refused (code : Nat) : ModifyCase s cur (s, some code)
  | accepted : ModifyCase s cur
      ((s.1.told (lineMode cur) (lineMedia cur) (lineAddr cur), (lineSilent cur).getD s.2), none)

section ModifyLine

variable {endp : MgcpEndpoint} {s : MgcpEndpoint × Bool}

theorem ModifyCase.nothing {cur : List Octet} (hM : lineMode cur = none) (hm : lineMedia cur = none)
    (hc : lineAddr cur = none) (hZ : lineSilent cur = none) : ModifyCase s cur (s, none) := by
  have hcase : ModifyCase s cur ((s.1.told (lineMode cur) (lineMedia cur) (lineAddr cur),
    (lineSilent cur).getD s.2), none) := .accepted
  rw [hM, hm, hc, hZ] at hcase
  exact hcase

theorem modifyLine_cases (s : MgcpEndpoint × Bool) (cur : List Octet) : ModifyCase s cur (modifyLine s cur) := by
  have hcheck : ∀ ok : Bool, cur.headD 0 = octetOf 'C' ∨ cur.headD 0 = octetOf 'I' →
      ModifyCase s cur (s, if ok then none else some 500) := by
    intro ok hletter
    cases ok with
    | false => exact .refused 500
    | true =>
      have hne : ∀ c, octetOf 'C' ≠ c → octetOf 'I' ≠ c → cur.headD 0 ≠ c := by
        intro c hC hI
        obtain h | h := hletter <;> rw [h] <;> assumption
      exact .nothing (if_neg (hne _ (by decide) (by decide))) (if_neg (hne _ (by decide) (by decide)))
        (if_neg (hne _ (by decide) (by decide))) (if_neg (hne _ (by decide) (by decide)))
  have haccepted : ModifyCase s cur ((s.1.told (lineMode cur) (lineMedia cur) (lineAddr cur),
    (lineSilent cur).getD s.2), none) := .accepted
  unfold modifyLine
  dsimp only
  split
  case isTrue hC => exact hcheck _ (.inl hC)
  case isFalse hC =>
  split
  case isTrue hI => exact hcheck _ (.inr hI)
  case isFalse hI =>
  split
  case isTrue hM =>
    have hne : ∀ c, octetOf 'M' ≠ c → cur.headD 0 ≠ c := fun c hc => hM ▸ hc
    have hmode : lineMode cur = parseConnMode (paramValue cur) := if_pos hM
    have hmedia : lineMedia cur = none := if_neg (hne _ (by decide))
    have haddr : lineAddr cur = none := if_neg (hne _ (by decide))
    have hsilent : lineSilent cur = none := if_neg (hne _ (by decide))
    cases hparse : parseConnMode (paramValue cur) with
    | none => exact .refused 517
    | some mode =>
      rw [hmode, hmedia, haddr, hsilent, hparse] at haccepted
      exact haccepted
  case isFalse hM =>
  have hmode : lineMode cur = none := if_neg hM
  split
  case isTrue hZ =>
    have hne : ∀ c, octetOf 'Z' ≠ c → cur.headD 0 ≠ c := fun c hc => hZ ▸ hc
    have hmedia : lineMedia cur = none := if_neg (hne _ (by decide))
    have haddr : lineAddr cur = none := if_neg (hne _ (by decide))
    have hsilent : lineSilent cur = some (decide (paramValue cur = octets "noanswer")) := if_pos hZ
    rw [hmode, hmedia, haddr, hsilent] at haccepted
    exact haccepted
  case isFalse hZ =>
  have hsilent : lineSilent cur = none := if_neg hZ
  split
  case isTrue hm =>
    have haddr : lineAddr cur = none := if_neg (hm ▸ by decide)
    have hmedia : lineMedia cur = scanMedia cur := if_pos hm
    cases hscan : scanMedia cur with
    | none => exact .nothing hmode (hmedia.trans hscan) haddr hsilent
    | some media =>
      rw [hmode, hmedia, haddr, hsilent, hscan] at haccepted
      exact haccepted
  case isFalse hm =>
  have hmedia : lineMedia cur = none := if_neg hm
  split
  case isTrue hc =>
    have haddr : lineAddr cur = (scanConnection cur).bind inetAton := if_pos hc
    cases hscan : (scanConnection cur).bind inetAton with
    | none => exact .nothing hmode hmedia (haddr.trans hscan) hsilent
    | some addr =>
      rw [hmode, hmedia, haddr, hsilent, hscan] at haccepted
      exact haccepted
  case isFalse hc => exact .nothing hmode hmedia (if_neg hc) hsilent

/-- What is refused depends on the call and the connection of the endpoint alone. -/
theorem modifyLine_refusal (hs : s.1.life = endp.life) (cur : List Octet) :
    (modifyLine s cur).2 = modifyRefusal endp cur := by
  obtain ⟨endp', silent⟩ := s
  have hverify : ∀ value, verifyCallId endp' value = verifyCallId endp value := by
    intro value
    have hcallid : endp'.callid = endp.callid := congrArg Life.callid hs
    unfold verifyCallId
    rw [hcallid]
  have hverifyCi : ∀ value, verifyCi endp' value = verifyCi endp value := by
    intro value
    have hci : endp'.ci = endp.ci := congrArg Life.ci hs
    unfold verifyCi
    rw [hci]
  unfold modifyRefusal modifyLine
  dsimp only
  rw [hverify, hverifyCi]
  cases parseConnMode (paramValue cur) <;> cases scanMedia cur <;> cases (scanConnection cur).bind inetAton
  all_goals
    dsimp only
    repeat' split
    all_goals rfl

theorem modifyLine_stops (s : MgcpEndpoint × Bool) (cur : List Octet) (code : Nat)
    (h : (modifyLine s cur).2 = some code) : (modifyLine s cur).1 = s := by
  have hcase := modifyLine_cases s cur
  generalize modifyLine s cur = out at h hcase
  cases hcase with
  | refused code => rfl
  | accepted => cases h

/-- The lines of an MDCX for this endpoint before the first one that is refused, without what ends them. -/
def acceptedLines (endp : MgcpEndpoint) (l3h : List Octet) : List (List Octet) :=
  (accepted (lineRefusal (modifyRefusal endp) 500) (paramLines true [] l3h)).map chomp

/-- The error code with which the lines of an MDCX for this endpoint end, if one is refused. -/
def firstRefusal (endp : MgcpEndpoint) (l3h : List Octet) : Option Nat :=
  (paramLines true [] l3h).findSome? (lineRefusal (modifyRefusal endp) 500)

/-- The endpoint after the lines before the first refusal. -/
def afterLines (endp : MgcpEndpoint) (l3h : List Octet) : MgcpEndpoint :=
  endp.told (lastOf lineMode (acceptedLines endp l3h)) (lastOf lineMedia (acceptedLines endp l3h))
    (lastOf lineAddr (acceptedLines endp l3h))

/-- No answer is wanted, after the lines before the first refusal. -/
def silenced (endp : MgcpEndpoint) (l3h : List Octet) : Bool :=
  (lastOf lineSilent (acceptedLines endp l3h)).getD false

theorem foldl_modifyLine (s : MgcpEndpoint × Bool) (lines : List (List Octet))
    (h : ∀ cur ∈ lines, modifyRefusal s.1 cur = none) :
    lines.foldl (fun s cur => (modifyLine s cur).1) s =
      (s.1.told (lastOf lineMode lines) (lastOf lineMedia lines) (lastOf lineAddr lines),
        (lastOf lineSilent lines).getD s.2) := by
  induction lines using List.reverseRecOn with
  | nil => rfl
  | append_singleton lines cur ih =>
    rw [foldl_append, foldl_cons, foldl_nil, ih fun cur' hcur' => h cur' (mem_append_left _ hcur')]
    simp only [lastOf_concat]
    generalize hs' : (s.1.told (lastOf lineMode lines) (lastOf lineMedia lines) (lastOf lineAddr lines),
      (lastOf lineSilent lines).getD s.2) = s'
    have hlife : s'.1.life = s.1.life := by rw [← hs']; rfl
    have haccepted : (modifyLine s' cur).2 = none :=
      (modifyLine_refusal hlife cur).trans (h cur (mem_append_right _ mem_cons_self))
    have hcase := modifyLine_cases s' cur
    generalize modifyLine s' cur = out at haccepted hcase
    cases hcase with
    | refused code => cases haccepted
    | accepted =>
      rw [← hs']
      refine Prod.ext (told_told ..) ?_
      dsimp only
      cases lineSilent cur <;> rfl

/-- **The lines of an MDCX.** -/
theorem tokenize_modifyLine (endp : MgcpEndpoint) (l3h : List Octet) :
    tokenize modifyLine 500 true [] (endp, false) l3h =
      ((afterLines endp l3h, silenced endp l3h), firstRefusal endp l3h) := by
  have hloop := tokenize_eq (P := fun s : MgcpEndpoint × Bool => s.1.life = endp.life)
    (fun s cur hs => modifyLine_refusal hs cur) (fun s cur hs => (life_modifyLine s cur).trans hs) modifyLine_stops
    500 l3h true [] (endp, false) rfl
  rw [hloop, ← foldl_map (f := chomp) (g := fun s cur => (modifyLine s cur).1)]
  rw [foldl_modifyLine]
  · rfl
  · intro cur hcur
    obtain ⟨raw, hraw, rfl⟩ := mem_map.mp hcur
    have hnone := (mem_of_accepted hraw).2
    unfold lineRefusal at hnone
    split at hnone
    · exact hnone
    · cases hnone

end ModifyLine

/-! ## Atomicity -/

/-- What an MDCX can change of a connection: its mode, its options and the two peers, with addresses and payload
    types. -/
def MgcpEndpoint.connection (endp : MgcpEndpoint) :
    MgcpConnectionMode × Option (List Octet) × MgcpRtpEnd × MgcpRtpEnd :=
  (endp.connMode, endp.localOptions, endp.netEnd, endp.btsEnd)

/-- **An MDCX that is answered with an error changes no connection.** -/
def ModifyAtomic (cfg : MgcpConfig) (l3h : List Octet) (policy : Option MgcpPolicy) : Prop :=
  ∀ answer, (cfg.handleModifyCon l3h policy).2 = some answer → answer.ok = false →
    ∀ r, ((cfg.handleModifyCon l3h policy).1.endp? r).map MgcpEndpoint.connection =
      (cfg.endp? r).map MgcpEndpoint.connection

/-- What the accepted lines say last, the connection has already. -/
structure Repeats (endp : MgcpEndpoint) (l3h : List Octet) : Prop where
  mode : ∀ mode, lastOf lineMode (acceptedLines endp l3h) = some mode → mode = endp.connMode
  media : ∀ port payload, lastOf lineMedia (acceptedLines endp l3h) = some (port, payload) →
    (port % 65536).toNat = endp.netEnd.rtpPort ∧ ((port + 1) % 65536).toNat = endp.netEnd.rtcpPort ∧
      payload = endp.netEnd.payloadType
  addr : ∀ addr, lastOf lineAddr (acceptedLines endp l3h) = some addr → addr = endp.netEnd.addr

/-- No line is refused, and the policy does not reject the request, or nobody hears of it. -/
def CarriedOut (endp : MgcpEndpoint) (l3h : List Octet) (policy : Option MgcpPolicy) : Prop :=
  firstRefusal endp l3h = none ∧ (policy = some .reject → silenced endp l3h = true)

/-- The request is for no connection, or it is carried out, or it says nothing new before it fails. -/
def ModifiesSafely (cfg : MgcpConfig) (l3h : List Octet) (policy : Option MgcpPolicy) : Prop :=
  ∀ r endp, (mgcpAnalyzeHeader cfg l3h).endp = some r → cfg.endp? r = some endp → endp.ci ≠ ciUnused →
    CarriedOut endp (mgcpAnalyzeHeader cfg l3h).l3h policy ∨ Repeats endp (mgcpAnalyzeHeader cfg l3h).l3h

section Atomic

variable {cfg : MgcpConfig} {l3h buf : List Octet} {policy : Option MgcpPolicy} {r : EndpRef} {endp : MgcpEndpoint}

/-- An MDCX for a connection. -/
theorem handleModifyCon_connected (hr : (mgcpAnalyzeHeader cfg l3h).endp = some r) (hendp : cfg.endp? r = some endp)
    (hci : endp.ci ≠ ciUnused) :
    cfg.handleModifyCon l3h policy =
      (cfg.modifyEndp r fun _ => afterLines endp (mgcpAnalyzeHeader cfg l3h).l3h,
        (firstRefusal endp (mgcpAnalyzeHeader cfg l3h).l3h).elim
          ((cfg.modifyEndp r fun _ => afterLines endp (mgcpAnalyzeHeader cfg l3h).l3h).modified r
            (mgcpAnalyzeHeader cfg l3h).trans (silenced endp (mgcpAnalyzeHeader cfg l3h).l3h) policy)
          fun code => some (createErrResponse code (mgcpAnalyzeHeader cfg l3h).trans)) := by
  unfold handleModifyCon
  dsimp only
  rw [hr]
  dsimp only
  rw [hendp, Option.getD_some, if_neg hci, tokenize_modifyLine]
  cases firstRefusal endp (mgcpAnalyzeHeader cfg l3h).l3h <;> rfl

/-- An MDCX for no connection changes nothing. -/
theorem handleModifyCon_unconnected
    (h : ∀ r endp, (mgcpAnalyzeHeader cfg l3h).endp = some r → cfg.endp? r = some endp → endp.ci = ciUnused) :
    (cfg.handleModifyCon l3h policy).1 = cfg := by
  unfold handleModifyCon
  dsimp only
  cases hr : (mgcpAnalyzeHeader cfg l3h).endp with
  | none => rfl
  | some r =>
    dsimp only
    have hci : ((cfg.endp? r).getD {}).ci = ciUnused := by
      cases hendp : cfg.endp? r with
      | none => rfl
      | some endp => exact h r endp hr hendp
    rw [if_pos hci]

theorem getD_eq_self_iff {α : Type} {o : Option α} {a : α} : o.getD a = a ↔ ∀ b, o = some b → b = a := by
  cases o <;> simp

/-- The peer is what it was where it is told what is known of it. -/
theorem netEnd_eq_iff {e : MgcpRtpEnd} {addr : BitVec 32} {rtp rtcp : Nat} {payload : Int} :
    ({ e with rtpPort := rtp, rtcpPort := rtcp, payloadType := payload, addr := addr } : MgcpRtpEnd) = e ↔
      rtp = e.rtpPort ∧ rtcp = e.rtcpPort ∧ payload = e.payloadType ∧ addr = e.addr := by
  cases e
  simp only [MgcpRtpEnd.mk.injEq, and_true]
  tauto

theorem repeats_iff : Repeats endp buf ↔ (afterLines endp buf).connection = endp.connection := by
  have hmedia : (∀ port payload, lastOf lineMedia (acceptedLines endp buf) = some (port, payload) →
      (port % 65536).toNat = endp.netEnd.rtpPort ∧ ((port + 1) % 65536).toNat = endp.netEnd.rtcpPort ∧
        payload = endp.netEnd.payloadType) ↔
      ((lastOf lineMedia (acceptedLines endp buf)).map fun m => (m.1 % 65536).toNat).getD endp.netEnd.rtpPort =
          endp.netEnd.rtpPort ∧
        ((lastOf lineMedia (acceptedLines endp buf)).map fun m => ((m.1 + 1) % 65536).toNat).getD endp.netEnd.rtcpPort =
          endp.netEnd.rtcpPort ∧
        ((lastOf lineMedia (acceptedLines endp buf)).map Prod.snd).getD endp.netEnd.payloadType =
          endp.netEnd.payloadType := by
    cases lastOf lineMedia (acceptedLines endp buf) with
    | none => simp
    | some media =>
      obtain ⟨port, payload⟩ := media
      simp [eq_comm]
  have hconnection : (afterLines endp buf).connection = endp.connection ↔
      (lastOf lineMode (acceptedLines endp buf)).getD endp.connMode = endp.connMode ∧
        (afterLines endp buf).netEnd = endp.netEnd := by
    show (_, endp.localOptions, _, endp.btsEnd) = (endp.connMode, endp.localOptions, endp.netEnd, endp.btsEnd) ↔ _
    simp only [Prod.mk.injEq, true_and, and_true]
    rfl
  rw [hconnection, getD_eq_self_iff]
  unfold afterLines told
  rw [netEnd_eq_iff, getD_eq_self_iff (o := lastOf lineAddr _)]
  constructor
  · rintro ⟨hmode, hm, haddr⟩
    obtain ⟨hrtp, hrtcp, hpayload⟩ := hmedia.mp hm
    exact ⟨hmode, hrtp, hrtcp, hpayload, haddr⟩
  · rintro ⟨hmode, hrtp, hrtcp, hpayload, haddr⟩
    exact ⟨hmode, hmedia.mpr ⟨hrtp, hrtcp, hpayload⟩, haddr⟩

theorem fails_iff (hr : (mgcpAnalyzeHeader cfg l3h).endp = some r) (hendp : cfg.endp? r = some endp)
    (hci : endp.ci ≠ ciUnused) :
    (∃ answer, (cfg.handleModifyCon l3h policy).2 = some answer ∧ answer.ok = false) ↔
      ¬ CarriedOut endp (mgcpAnalyzeHeader cfg l3h).l3h policy := by
  rw [handleModifyCon_connected hr hendp hci]
  unfold CarriedOut
  cases hrefusal : firstRefusal endp (mgcpAnalyzeHeader cfg l3h).l3h with
  | some code => simp [createErrResponse]
  | none =>
    cases policy with
    | none => cases silenced endp (mgcpAnalyzeHeader cfg l3h).l3h <;> simp [modified, createResponseWithSdp]
    | some policy =>
      cases policy <;> cases silenced endp (mgcpAnalyzeHeader cfg l3h).l3h <;> simp [modified,
        createResponseWithSdp, createErrResponse]

/-- **MDCX.** A failing request changes no connection exactly when it is for none, or is carried out and does not fail,
    or says before it fails nothing but what the connection has already. -/
theorem modifyAtomic_iff : ModifyAtomic cfg l3h policy ↔ ModifiesSafely cfg l3h policy := by
  by_cases hconnected : ∃ r endp, (mgcpAnalyzeHeader cfg l3h).endp = some r ∧ cfg.endp? r = some endp ∧
      endp.ci ≠ ciUnused
  · obtain ⟨r, endp, hr, hendp, hci⟩ := hconnected
    have hafter : ∀ r', ((cfg.handleModifyCon l3h policy).1.endp? r').map connection =
        if r' = r then some (afterLines endp (mgcpAnalyzeHeader cfg l3h).l3h).connection
        else (cfg.endp? r').map connection := by
      intro r'
      rw [handleModifyCon_connected hr hendp hci, endp?_modifyEndp]
      by_cases hr' : r' = r
      · rw [if_pos hr', if_pos hr', hr', hendp]
        rfl
      · rw [if_neg hr', if_neg hr']
    have hsafely : ModifiesSafely cfg l3h policy ↔
        (¬ CarriedOut endp (mgcpAnalyzeHeader cfg l3h).l3h policy → Repeats endp (mgcpAnalyzeHeader cfg l3h).l3h) := by
      constructor
      · intro h hfails
        exact (h r endp hr hendp hci).resolve_left hfails
      · intro h r' endp' hr' hendp' _
        obtain rfl := Option.some.inj (hr'.symm.trans hr)
        obtain rfl := Option.some.inj (hendp'.symm.trans hendp)
        by_cases hcarried : CarriedOut endp' (mgcpAnalyzeHeader cfg l3h).l3h policy
        · exact .inl hcarried
        · exact .inr (h hcarried)
    rw [hsafely, ← fails_iff hr hendp hci, repeats_iff]
    constructor
    · rintro h ⟨answer, hanswer, hok⟩
      have hkept := h answer hanswer hok r
      rw [hafter, if_pos rfl, hendp] at hkept
      exact Option.some.inj hkept
    · intro h answer hanswer hok r'
      rw [hafter]
      split
      · rename_i hr'
        rw [h ⟨answer, hanswer, hok⟩, hr', hendp]
        rfl
      · rfl
  · have hunused : ∀ r endp, (mgcpAnalyzeHeader cfg l3h).endp = some r → cfg.endp? r = some endp →
        endp.ci = ciUnused := by
      intro r endp hr hendp
      by_contra hci
      exact hconnected ⟨r, endp, hr, hendp, hci⟩
    constructor
    · intro _ r endp hr hendp hci
      exact absurd (hunused r endp hr hendp) hci
    · intro _ answer _ _ r
      rw [handleModifyCon_unconnected hunused]

end Atomic

/-- An MDCX for the first call with a new mode, and behind it the call id of another call. -/
def otherCallModify : List Octet := octets " 3 1@mgw MGCP 1.0\r\nM: sendrecv\r\nC: 2\r\n"

/-- **A mode line before a wrong call id.** The request is answered with an error, and the connection is changed. -/
theorem not_modifyAtomic_otherCall :
    Reachable (gateway forcedStart) connectedState ∧ ¬ ModifyAtomic connectedState otherCallModify none := by
  refine ⟨reachable_connectedState, fun hatomic => ?_⟩
  obtain ⟨answer, hanswer, hok⟩ : ∃ answer ∈ (connectedState.handleModifyCon otherCallModify none).2,
      answer.ok = false := by decide +kernel
  have hkept := hatomic answer hanswer hok ⟨0, 1⟩
  revert hkept
  decide +kernel

end OpenBsc.Mgcp
