import OpenBsc.Mgcp.Lines
import OpenBsc.Mgcp.ModifyConnection

/-!
# `Mgcp.LinesRead` — requests by their text (`mgcp_protocol.c`)

Which lines of a request the loop over the parameters reads, what they say, and which of them are refused, said of the
text alone: the handlers do nothing else with their message. The loop begins behind the first line feed that the header
has left, so it misses the first parameter where the fourth word ends the header line with a bare line feed.
-/

namespace OpenBsc.Mgcp

open Scan MgcpConfig List Option

/-! ## The lines that are read -/

/-- The octet ends the header line. -/
def endsHeader (o : Octet) : Bool := o = carriageReturn ∨ o = lineFeed

/-- The header line ends with its fourth word. -/
def versionLast (h : List Octet) : Bool := (fourWords h).any fun p => p.2.2.2.stop = h.length

/-- The lines of a request that are read: all behind the header line, up to the last line feed, but not the first of
    them where a bare line feed follows the fourth word of the header. -/
def linesRead (l3h : List Octet) : List (List Octet) :=
  if versionLast (l3h.takeWhile (!endsHeader ·)) ∧ (l3h.dropWhile (!endsHeader ·)).head? = some lineFeed then
    (paramLines true [] l3h).tail
  else paramLines true [] l3h

variable {h front l3h : List Octet}

theorem paramLines_append (hf : lineFeed ∉ front) (first : Bool) (cur rest : List Octet) :
    paramLines first cur (front ++ rest) = paramLines first (cur ++ front) rest := by
  induction front generalizing cur with
  | nil => simp
  | cons o front ih =>
    obtain ⟨ho, hf⟩ : lineFeed ≠ o ∧ lineFeed ∉ front := by simpa using hf
    rw [cons_append, paramLines, if_neg (Ne.symm ho), ih hf, append_assoc]
    rfl

theorem paramLines_true (cur rest : List Octet) : paramLines true cur rest = (paramLines false cur rest).tail := by
  induction rest generalizing cur with
  | nil => rfl
  | cons o rest ih =>
    simp only [paramLines]
    split
    · rfl
    · exact ih (cur ++ [o])

/-- What stands before the first line feed is not read. -/
theorem paramLines_skip (hf : lineFeed ∉ front) (rest : List Octet) :
    paramLines true [] (front ++ rest) = paramLines true [] rest := by
  have hcur : ∀ cur rest : List Octet, paramLines true cur rest = paramLines true [] rest := by
    intro cur rest
    induction rest generalizing cur with
    | nil => rfl
    | cons o rest ih =>
      simp only [paramLines, if_true]
      rw [ih (cur ++ [o]), ih ([] ++ [o])]
  rw [paramLines_append hf, hcur]

theorem not_mem_terminate (ptrs : List MgcpMsgPtr) {buf : List Octet} (hbuf : lineFeed ∉ buf) :
    lineFeed ∉ terminate ptrs buf := by
  induction ptrs with
  | nil => exact hbuf
  | cons p ptrs ih =>
    intro hmem
    rcases mem_or_eq_of_mem_set hmem with hmem | heq
    · exact ih hmem
    · revert heq
      decide

theorem stop_le_of_fourWords {p0 p1 p2 p3 : MgcpMsgPtr} (hw : fourWords h = some (p0, p1, p2, p3)) :
    p3.stop ≤ h.length := by
  unfold fourWords at hw
  split at hw
  · next heq =>
      cases hw
      exact ((wordsIn_headerWords heq).inside p3 (by simp)).2
  · cases hw

theorem endsHeader_append (hh : Plain h) {o : Octet} (ho : o = carriageReturn ∨ o = lineFeed) (rest : List Octet) :
    (h ++ o :: rest).takeWhile (!endsHeader ·) = h ∧ (h ++ o :: rest).dropWhile (!endsHeader ·) = o :: rest := by
  have hline : ∀ c ∈ h, (!endsHeader c) = true := by
    intro c hc
    have hne : c ≠ carriageReturn ∧ c ≠ lineFeed :=
      ⟨fun heq => hh.1 (heq ▸ hc), fun heq => hh.2 (heq ▸ hc)⟩
    simp [endsHeader, hne]
  have hend : (!endsHeader o) = false := by simp [endsHeader, ho]
  rw [takeWhile_append_of_pos hline, dropWhile_append_of_pos hline]
  simp [hend]

/-- **The lines that are read** of a request whose header names an endpoint. -/
theorem paramLines_header {cfg : MgcpConfig} {r : EndpRef} (hr : (mgcpAnalyzeHeader cfg l3h).endp = some r) :
    paramLines true [] (mgcpAnalyzeHeader cfg l3h).l3h = linesRead l3h := by
  have hsplit := takeWhile_append_dropWhile (p := (!endsHeader ·)) (l := l3h)
  have hplain : Plain (l3h.takeWhile (!endsHeader ·)) := by
    have hline : ∀ o ∈ l3h.takeWhile (!endsHeader ·), endsHeader o = false := fun o ho => by
      simpa using mem_takeWhile_imp ho
    exact ⟨fun hmem => absurd (hline _ hmem) (by decide), fun hmem => absurd (hline _ hmem) (by decide)⟩
  cases hrest : l3h.dropWhile (!endsHeader ·) with
  | nil =>
    -- without a line end there is no line
    have hnone : lineFeed ∉ l3h := by
      rw [hrest, append_nil] at hsplit
      rw [← hsplit]
      exact hplain.2
    have hbuf : lineFeed ∉ (mgcpAnalyzeHeader cfg l3h).l3h := by
      unfold mgcpAnalyzeHeader
      split
      · dsimp only
        split
        all_goals exact not_mem_terminate _ hnone
      · exact hnone
    have hlines : ∀ buf : List Octet, lineFeed ∉ buf → paramLines true [] buf = [] := fun buf hbuf => by
      rw [← append_nil buf, paramLines_skip hbuf]
      rfl
    rw [linesRead, hlines _ hbuf, hlines _ hnone]
    simp
  | cons o rest =>
    generalize l3h.takeWhile (!endsHeader ·) = h at hsplit hplain
    have ho : o = carriageReturn ∨ o = lineFeed := by
      have hhead := head?_dropWhile_not (!endsHeader ·) l3h
      rw [hrest] at hhead
      simpa [endsHeader, or_iff_not_imp_left] using hhead
    rw [hrest] at hsplit
    subst hsplit
    obtain ⟨⟨p0, p1, p2, p3⟩, hw⟩ : ∃ p, fourWords h = some p := by
      cases hw : fourWords h with
      | some p => exact ⟨p, rfl⟩
      | none =>
        rw [mgcpAnalyzeHeader_refused cfg hplain hw ho] at hr
        cases hr
    have hfront : lineFeed ∉ headerFront h p0 p1 p2 p3 ++ [0] := by
      have hzero : lineFeed ≠ 0 := by decide
      have hterm : lineFeed ∉ headerFront h p0 p1 p2 p3 :=
        not_mem_terminate _ fun hmem => hplain.2 (mem_of_mem_take hmem)
      simp [hterm, hzero]
    obtain ⟨htake, hdrop⟩ := endsHeader_append hplain ho rest
    rw [linesRead, htake, hdrop, head?_cons, paramLines_skip hplain.2, mgcpAnalyzeHeader_words cfg hplain hw ho]
    dsimp only
    rw [append_cons, paramLines_skip hfront, behindWords]
    have hlast : versionLast h ↔ h.drop p3.stop = [] := by
      have hstop := stop_le_of_fourWords hw
      rw [versionLast, hw, drop_eq_nil_iff]
      simp only [Option.any_some, decide_eq_true_eq]
      omega
    cases hleft : h.drop p3.stop with
    | nil =>
      rw [nil_append, tail_cons]
      rcases ho with rfl | rfl
      · rw [if_neg fun hlost => absurd (some.inj hlost.2) (by decide)]
        exact (paramLines_skip (by decide : lineFeed ∉ [carriageReturn]) rest).symm
      · rw [if_pos ⟨hlast.mpr hleft, rfl⟩]
        exact paramLines_true [] rest
    | cons c left =>
      have hversion : ¬ (versionLast h = true ∧ some o = some lineFeed) := fun hv => by
        rw [hlast.mp hv.1] at hleft
        cases hleft
      have hrest : lineFeed ∉ left := by
        intro hmem
        have hdrop : lineFeed ∈ h.drop p3.stop := by
          rw [hleft]
          exact mem_cons_of_mem _ hmem
        exact hplain.2 (mem_of_mem_drop hdrop)
      rw [if_neg hversion, cons_append, tail_cons, paramLines_skip hrest]

/-! ## What lines say -/

/-- The value of a line with this letter. -/
def lineValue (c : Char) (cur : List Octet) : Option (List Octet) :=
  if cur.headD 0 = octetOf c then some (paramValue cur) else none

/-- The last value that lines have under this letter. -/
def lastValue (c : Char) (lines : List (List Octet)) : Option (List Octet) := lastOf (lineValue c) (lines.map chomp)

/-- What the lines of a CRCX say together, nothing if one is malformed. -/
def createParams (lines : List (List Octet)) : CreateParams :=
  if ∀ cur ∈ lines, properParam cur = true then
    { localOptions := lastValue 'L' lines
      callid := lastValue 'C' lines
      mode := lastValue 'M' lines }
  else {}

theorem createLine_said (params : CreateParams) (cur : List Octet) :
    (createLine params cur).1.localOptions = (lineValue 'L' cur).or params.localOptions ∧
      (createLine params cur).1.callid = (lineValue 'C' cur).or params.callid ∧
      (createLine params cur).1.mode = (lineValue 'M' cur).or params.mode := by
  unfold createLine lineValue
  dsimp only
  generalize cur.headD 0 = letter
  split
  case isTrue hL =>
    subst hL
    exact ⟨rfl, rfl, rfl⟩
  case isFalse =>
  split
  case isTrue hC =>
    subst hC
    exact ⟨rfl, rfl, rfl⟩
  case isFalse =>
  split <;> exact ⟨rfl, rfl, rfl⟩

/-- The loop of a CRCX: a malformed line ends it with 400, and what is said last counts. -/
theorem tokenize_createLine (buf : List Octet) :
    tokenize createLine 400 true [] {} buf = (createParams (paramLines true [] buf), none) ∨
      (∃ params, tokenize createLine 400 true [] {} buf = (params, some 400)) ∧
        createParams (paramLines true [] buf) = {} := by
  have hloop := tokenize_eq (P := fun _ => True) (fun params cur _ => createLine_refusal params cur)
    (fun _ _ _ => trivial)
    (fun params cur code hcode => absurd hcode (by rw [createLine_refusal]; exact nofun)) 400 buf true [] {} trivial
  unfold createParams
  by_cases hproper : ∀ cur ∈ paramLines true [] buf, properParam cur = true
  · have hnone : (paramLines true [] buf).findSome? (lineRefusal (fun _ => none) 400) = none :=
      findSome?_eq_none_iff.mpr fun cur hcur => if_pos (hproper cur hcur)
    rw [hnone, accepted_eq_self hnone, ← foldl_map (f := chomp) (g := fun s cur => (createLine s cur).1)] at hloop
    rw [if_pos hproper]
    refine .inl (hloop.trans (congrArg (·, none) ?_))
    have hL := foldl_lastOf (fun s cur => (createLine_said s cur).1) {} ((paramLines true [] buf).map chomp)
    have hC := foldl_lastOf (fun s cur => (createLine_said s cur).2.1) {} ((paramLines true [] buf).map chomp)
    have hM := foldl_lastOf (fun s cur => (createLine_said s cur).2.2) {} ((paramLines true [] buf).map chomp)
    rw [or_none] at hL hC hM
    rw [lastValue, lastValue, lastValue, ← hL, ← hC, ← hM]
  · rw [if_neg hproper]
    refine .inr ⟨?_, rfl⟩
    cases hrefusal : (paramLines true [] buf).findSome? (lineRefusal (fun _ => none) 400) with
    | some code =>
      obtain ⟨cur, -, hcur⟩ := exists_of_findSome?_eq_some hrefusal
      unfold lineRefusal at hcur
      split at hcur
      · cases hcur
      · cases hcur
        exact ⟨_, hloop.trans (by rw [hrefusal])⟩
    | none =>
      refine absurd (fun cur hcur => ?_) hproper
      have hline := findSome?_eq_none_iff.mp hrefusal cur hcur
      by_contra hbad
      rw [lineRefusal, if_neg hbad] at hline
      cases hline

/-! ## Which lines are refused -/

/-- The line has a call id that is not this string, or a connection id that does not begin with this number, modulo
    2^32. -/
def namesOther (callid : Option (List Octet)) (ci : BitVec 32) (cur : List Octet) : Bool :=
  (lineValue 'C' cur).any (fun id => callid ≠ some id) || (lineValue 'I' cur).any fun id =>
    (strtoul 10 id).1 % 2 ^ 32 ≠ ci.toNat

/-- The error that a line of an MDCX is refused with: it is malformed, names another call or connection, or has a mode
    that is none. -/
def modifyError (callid : Option (List Octet)) (ci : BitVec 32) (cur : List Octet) : Option Nat :=
  if !properParam cur || namesOther callid ci (chomp cur) then some 500
  else if (lineValue 'M' (chomp cur)).any fun mode => parseConnMode mode = none then some 517
  else none

/-- A line of a DLCX is refused: it is malformed, or names another call or connection. -/
def deleteRefused (callid : Option (List Octet)) (ci : BitVec 32) (cur : List Octet) : Bool :=
  !properParam cur || namesOther callid ci (chomp cur)

theorem verifyCi_eq (endp : MgcpEndpoint) (id : List Octet) :
    verifyCi endp id = decide ((strtoul 10 id).1 % 2 ^ 32 = endp.ci.toNat) := by
  unfold verifyCi
  refine decide_eq_decide.mpr ?_
  rw [← BitVec.toNat_inj, BitVec.toNat_ofNat]

theorem modifyError_eq (endp : MgcpEndpoint) :
    lineRefusal (modifyRefusal endp) 500 = modifyError endp.callid endp.ci := by
  funext cur
  unfold lineRefusal modifyError
  cases properParam cur with
  | false => rfl
  | true =>
    simp only [if_true, Bool.not_true, Bool.false_or]
    generalize chomp cur = cur
    unfold modifyRefusal modifyLine namesOther lineValue
    dsimp only
    generalize cur.headD 0 = letter
    split
    case isTrue hC =>
      subst hC
      have hI : octetOf 'C' ≠ octetOf 'I' := by decide
      have hM : octetOf 'C' ≠ octetOf 'M' := by decide
      by_cases hid : endp.callid = some (paramValue cur) <;> simp [verifyCallId, hI, hM, hid]
    case isFalse =>
    split
    case isTrue hI =>
      subst hI
      have hM : octetOf 'I' ≠ octetOf 'M' := by decide
      by_cases hid : (strtoul 10 (paramValue cur)).1 % 2 ^ 32 = endp.ci.toNat <;> simp [verifyCi_eq, hM]
    case isFalse =>
    split
    case isTrue hM =>
      cases hmode : parseConnMode (paramValue cur) <;> simp [hmode]
    case isFalse =>
      simp only [Option.any_none, Bool.or_false, Bool.false_eq_true, if_false]
      split
      · rfl
      split
      · cases scanMedia cur <;> rfl
      split
      · cases (scanConnection cur).bind inetAton <;> rfl
      · rfl

theorem deleteRefused_eq (endp : MgcpEndpoint) (cur : List Octet) :
    lineRefusal (fun cur => (deleteLine endp false cur).2) 400 cur =
      if deleteRefused endp.callid endp.ci cur then some 400 else none := by
  unfold lineRefusal deleteRefused
  cases properParam cur with
  | false => rfl
  | true =>
    simp only [if_true, Bool.not_true, Bool.false_or]
    generalize chomp cur = cur
    unfold deleteLine namesOther lineValue
    dsimp only
    generalize cur.headD 0 = letter
    split
    case isTrue hC =>
      subst hC
      have hI : octetOf 'C' ≠ octetOf 'I' := by decide
      by_cases hid : endp.callid = some (paramValue cur) <;> simp [verifyCallId, hI, hid]
    case isFalse =>
    split
    case isTrue hI =>
      by_cases hid : (strtoul 10 (paramValue cur)).1 % 2 ^ 32 = endp.ci.toNat <;> simp [verifyCi_eq]
    case isFalse =>
      split <;> rfl

/-! ## Handlers -/

/-- The lines of an MDCX before the first one that is refused, without what ends them. -/
def heeded (callid : Option (List Octet)) (ci : BitVec 32) (lines : List (List Octet)) : List (List Octet) :=
  (accepted (modifyError callid ci) lines).map chomp

/-- The last word of the lines of a DLCX is that no answer is wanted. -/
def noAnswer (lines : List (List Octet)) : Bool := (lastOf lineSilent (lines.map chomp)).getD false

section Handlers

variable {cfg : MgcpConfig} {r : EndpRef} {endp : MgcpEndpoint} {policy : Option MgcpPolicy}

/-- **CRCX.** A malformed line is answered like the lack of a call id. -/
theorem handleCreateCon_lines (hr : (mgcpAnalyzeHeader cfg l3h).endp = some r) :
    cfg.handleCreateCon l3h policy =
      cfg.createWith r (mgcpAnalyzeHeader cfg l3h).trans (createParams (linesRead l3h)) policy := by
  have hlines := tokenize_createLine (mgcpAnalyzeHeader cfg l3h).l3h
  rw [paramLines_header hr] at hlines
  unfold handleCreateCon
  dsimp only
  rw [hr]
  dsimp only
  rcases hlines with htokens | ⟨⟨params, htokens⟩, hempty⟩
  · rw [htokens]
  · rw [htokens, hempty]
    rfl

/-- **MDCX.** -/
theorem modifyLines_eq (hr : (mgcpAnalyzeHeader cfg l3h).endp = some r) (endp : MgcpEndpoint) :
    acceptedLines endp (mgcpAnalyzeHeader cfg l3h).l3h = heeded endp.callid endp.ci (linesRead l3h) ∧
      firstRefusal endp (mgcpAnalyzeHeader cfg l3h).l3h =
        (linesRead l3h).findSome? (modifyError endp.callid endp.ci) := by
  rw [acceptedLines, firstRefusal, modifyError_eq, paramLines_header hr]
  exact ⟨rfl, rfl⟩

theorem tokenize_deleteLine (endp : MgcpEndpoint) (buf : List Octet) :
    ∃ silent, tokenize (deleteLine endp) 400 true [] false buf =
      (silent, if (paramLines true [] buf).any (deleteRefused endp.callid endp.ci) then some 400 else none) ∧
      ((paramLines true [] buf).any (deleteRefused endp.callid endp.ci) = false →
        silent = noAnswer (paramLines true [] buf)) := by
  have hrefuses : ∀ silent cur, (deleteLine endp silent cur).2 = (deleteLine endp false cur).2 := by
    intro silent cur
    unfold deleteLine
    dsimp only
    repeat' split
    all_goals rfl
  have hsilent : ∀ silent cur, some (deleteLine endp silent cur).1 = (lineSilent cur).or (some silent) := by
    intro silent cur
    unfold deleteLine lineSilent
    dsimp only
    generalize cur.headD 0 = letter
    split
    case isTrue hC =>
      subst hC
      rfl
    case isFalse =>
    split
    case isTrue hI =>
      subst hI
      rfl
    case isFalse =>
    split <;> rfl
  have hstops : ∀ silent cur code, (deleteLine endp silent cur).2 = some code →
      (deleteLine endp silent cur).1 = silent := by
    intro silent cur code
    unfold deleteLine
    dsimp only
    split
    · exact fun _ => rfl
    split
    · exact fun _ => rfl
    split
    · exact nofun
    · exact fun _ => rfl
  have hloop :=
    tokenize_eq (P := fun _ => True) (fun silent cur _ => hrefuses silent cur) (fun _ _ _ => trivial) hstops 400
    buf true [] false trivial
  rw [funext (deleteRefused_eq endp)] at hloop
  generalize paramLines true [] buf = lines at hloop ⊢
  refine ⟨_, hloop.trans (by rw [findSome?_ite]), fun hnone => ?_⟩
  have hfind := findSome?_ite (deleteRefused endp.callid endp.ci) 400 lines
  rw [hnone, if_neg (by decide)] at hfind
  rw [accepted_eq_self hfind, ← foldl_map (f := chomp) (g := fun s cur => (deleteLine endp s cur).1)]
  have hlast := foldl_lastOf hsilent false (lines.map chomp)
  unfold noAnswer
  cases hvalue : lastOf lineSilent (lines.map chomp) with
  | none | some => exact some.inj (hlast.trans (by rw [hvalue]; rfl))

/-- **DLCX.** -/
theorem handleDeleteCon_lines (hr : (mgcpAnalyzeHeader cfg l3h).endp = some r) (hendp : cfg.endp? r = some endp)
    (halloc : endp.allocated = true) :
    cfg.handleDeleteCon l3h policy =
      if (linesRead l3h).any (deleteRefused endp.callid endp.ci) then
        (cfg, some (createErrResponse 400 (mgcpAnalyzeHeader cfg l3h).trans))
      else cfg.deleted r (mgcpAnalyzeHeader cfg l3h).trans (noAnswer (linesRead l3h)) policy := by
  obtain ⟨silent, htokens, hsilent⟩ := tokenize_deleteLine endp (mgcpAnalyzeHeader cfg l3h).l3h
  rw [paramLines_header hr] at htokens hsilent
  unfold handleDeleteCon
  dsimp only
  rw [hr]
  dsimp only
  rw [hendp, getD_some, halloc, htokens]
  cases hany : (linesRead l3h).any (deleteRefused endp.callid endp.ci) with
  | true => rfl
  | false =>
    rw [hsilent hany]
    rfl

end Handlers

end OpenBsc.Mgcp
