import OpenBsc.Mgcp.Lines
import OpenBsc.OsmoBscNat.MgcpRewrite

/-!
# `OsmoBscNat.RewriteLines` — what a rewritten message says (`bsc_mgcp_utils.c`)

A message is lines of a few kinds. A rewritten one should be the same lines with another endpoint, other addresses and
other ports. `bsc_mgcp_rewrite` prints those lines anew instead: what else stands in them is lost, and so is a last line
without an end. It also takes some other lines for such lines, and some such lines for others, depending on the size of
a pointer.
-/

namespace OpenBsc.OsmoBscNat

open Mgcp LineText BscNat DataModel List

/-! ## Messages -/

/-- Spaces and tabs between words. -/
def Gap (gap : List Octet) : Prop := gap ≠ [] ∧ ∀ o ∈ gap, o = space ∨ o = 9

/-- A word has no spaces in it. -/
def Word (word : List Octet) : Prop := word ≠ [] ∧ ∀ o ∈ word, isSpace o = false ∧ o ≠ 0

/-- A text in a line. -/
def Clean (text : List Octet) : Prop := ∀ o ∈ text, o ≠ 0 ∧ o ≠ carriageReturn ∧ o ≠ lineFeed

/-- A number in decimal. -/
def Digits (digits : List Octet) : Prop := digits ≠ [] ∧ ∀ o ∈ digits, (digitValue 10 o).isSome

-- the octets of the text, not all octets there are
instance (word : List Octet) : Decidable (Word word) :=
  haveI := List.decidableBAll (fun o : Octet => isSpace o = false ∧ o ≠ 0) word
  inferInstanceAs (Decidable (word ≠ [] ∧ ∀ o ∈ word, isSpace o = false ∧ o ≠ 0))

instance (text : List Octet) : Decidable (Clean text) :=
  List.decidableBAll (fun o : Octet => o ≠ 0 ∧ o ≠ carriageReturn ∧ o ≠ lineFeed) text

instance (digits : List Octet) : Decidable (Digits digits) :=
  haveI := List.decidableBAll (fun o : Octet => (digitValue 10 o).isSome) digits
  inferInstanceAs (Decidable (digits ≠ [] ∧ ∀ o ∈ digits, (digitValue 10 o).isSome))

/-- The commands about connections. -/
inductive RewriteVerb where
  | crcx
  | dlcx
  | mdcx
  deriving DecidableEq

/-- The verb of a command. -/
def RewriteVerb.text : RewriteVerb → List Octet
  | .crcx => octets "CRCX"
  | .dlcx => octets "DLCX"
  | .mdcx => octets "MDCX"

/-- The lines of a message: a command, an address, an audio line and any other one. -/
inductive MgcpLine where
  | request (verb : RewriteVerb) (gap tid gap' name gap'' version : List Octet)
  | connection (net type addr : List Octet)
  | audio (port rest : List Octet)
  | other (text : List Octet)

namespace MgcpLine

/-- The line without its end. -/
def text : MgcpLine → List Octet
  | request verb gap tid gap' name gap'' version =>
    verb.text ++ (gap ++ (tid ++ (gap' ++ (name ++ (gap'' ++ (octets "MGCP" ++ version))))))
  | connection net type addr => octets "c=" ++ (net ++ (space :: (type ++ (space :: addr))))
  | audio port rest => octets "m=audio " ++ (port ++ rest)
  | other text => text

/-- The parts of a line are what they should be, and another line is none of the first three. -/
def WellFormed : MgcpLine → Prop
  | request _ gap tid gap' name gap'' version =>
    Gap gap ∧ Digits tid ∧ tid.length ≤ 9 ∧ Gap gap' ∧ Word name ∧ Gap gap'' ∧ Clean version
  | connection net type addr => Word net ∧ Word type ∧ Word addr
  | audio port rest => Digits port ∧ Clean rest ∧ ∀ o, rest.head? = some o → digitValue 10 o = none
  | other text =>
    Clean text ∧ ¬ octets "c=" <+: text ∧ ¬ octets "m=audio " <+: text ∧
      ∀ verb : RewriteVerb, ¬ verb.text ++ [space] <+: text

/-- The line is a command. -/
def isRequest : MgcpLine → Bool
  | request .. => true
  | _ => false

/-- A message begins with a command, or with the code of a response. -/
def IsHead : MgcpLine → Prop
  | request .. => True
  | other text => ∃ o, text.head? = some o ∧ (digitValue 10 o).isSome
  | _ => False

/-- The line with another endpoint, address or port. -/
def rewritten (endpoint : Int) (ip : List Octet) (port : Int) : MgcpLine → MgcpLine
  | request verb gap tid gap' _ gap'' version => request verb gap tid gap' (endpointName endpoint) gap'' version
  | connection net type _ => connection net type ip
  | audio _ rest => audio (printInt port) rest
  | other text => other text

end MgcpLine

/-- A message: lines with their ends, and perhaps a last one without. The first one is a command or a response. -/
structure MgcpText where
  lines : List (MgcpLine × LineEnd)
  last : Option MgcpLine
  wellFormed : ∀ line ∈ lines.map Prod.fst ++ last.toList, line.WellFormed
  head : ∀ line, (lines.map Prod.fst ++ last.toList).head? = some line → line.IsHead
  body : ∀ line ∈ (lines.map Prod.fst ++ last.toList).tail, line.isRequest = false
  lastNonempty : ∀ line ∈ last, line.text ≠ []

/-- A line as it stands before its line feed. -/
def lineToken (line : MgcpLine × LineEnd) : List Octet := line.1.text ++ line.2.before

/-- Lines as text. -/
def textOf (lines : List (MgcpLine × LineEnd)) (last : Option MgcpLine) : List Octet :=
  ended lineFeed (lines.map lineToken) ++ (last.map MgcpLine.text).getD []

/-- The message as text. -/
def MgcpText.text (msg : MgcpText) : List Octet := textOf msg.lines msg.last

/-- The message with another endpoint, other addresses and other ports. -/
def MgcpText.rewritten (msg : MgcpText) (endpoint : Int) (ip : List Octet) (port : Int) : List Octet :=
  textOf (msg.lines.map fun line => (line.1.rewritten endpoint ip port, line.2))
    (msg.last.map (MgcpLine.rewritten endpoint ip port))

/-! ## Comparisons -/

section Comparisons

variable {token text : List Octet} {m : DataModel}

/-- A text that is long enough is compared as a prefix, and a shorter one as a whole. -/
theorem strncmpEq_text {n : Nat} {pattern : List Octet} (hpattern : 0 ∉ pattern) (htoken : 0 ∉ token) :
    strncmpEq n pattern token = true ↔
      if n ≤ pattern.length then pattern.take n <+: token else token = pattern := by
  induction n generalizing pattern token with
  | zero => simp [strncmpEq]
  | succ n ih =>
    simp only [strncmpEq, Bool.and_eq_true, Bool.or_eq_true, beq_iff_eq]
    cases pattern with
    | nil =>
      cases token with
      | nil => simp
      | cons t token =>
        obtain ⟨ht, -⟩ : 0 ≠ t ∧ 0 ∉ token := by simpa using htoken
        simp [ht]
    | cons p pattern =>
      obtain ⟨hp, hpattern⟩ : 0 ≠ p ∧ 0 ∉ pattern := by simpa using hpattern
      cases token with
      | nil => simp [Ne.symm hp]
      | cons t token =>
        obtain ⟨-, htoken⟩ : 0 ≠ t ∧ 0 ∉ token := by simpa using htoken
        simp only [headD_cons, tail_cons, Ne.symm hp, false_or, ih hpattern htoken, length_cons,
          Nat.add_le_add_iff_right, take_succ_cons]
        split
        · rw [cons_prefix_cons]
        · rw [cons_eq_cons, eq_comm]

/-- What is taken for a command. -/
theorem patches_ilp32 (htoken : 0 ∉ token) : ilp32.patches token = true ↔
    octets "CRC" <+: token ∨ octets "DLC" <+: token ∨ octets "MDC" <+: token := by
  have hcompared : ilp32.compared = 3 := rfl
  simp only [patches, Bool.or_eq_true, hcompared]
  rw [strncmpEq_text (by decide) htoken, strncmpEq_text (by decide) htoken, strncmpEq_text (by decide) htoken, or_assoc]
  exact Iff.rfl

theorem patches_lp64 (htoken : 0 ∉ token) : lp64.patches token = true ↔
    token = octets "CRCX " ∨ token = octets "DLCX " ∨ token = octets "MDCX " := by
  have hcompared : lp64.compared = 7 := rfl
  simp only [patches, Bool.or_eq_true, hcompared]
  rw [strncmpEq_text (by decide) htoken, strncmpEq_text (by decide) htoken, strncmpEq_text (by decide) htoken, or_assoc]
  exact Iff.rfl

end Comparisons

/-! ## Lines -/

variable {gap rest : List Octet}

section Words

variable {a b x y : List Octet}

theorem clean_append (ha : Clean a) (hb : Clean b) : Clean (a ++ b) := by
  intro o ho
  rcases mem_append.mp ho with h | h
  · exact ha o h
  · exact hb o h

theorem Word.clean (h : Word a) : Clean a := by
  intro o ho
  obtain ⟨hspace, hzero⟩ := h.2 o ho
  refine ⟨hzero, ?_, ?_⟩
  · rintro rfl
    exact absurd hspace (by decide)
  · rintro rfl
    exact absurd hspace (by decide)

theorem Gap.clean (h : Gap a) : Clean a := by
  intro o ho
  rcases h.2 o ho with rfl | rfl <;> decide

theorem Gap.isSpace (h : Gap a) : ∀ o ∈ a, isSpace o = true := by
  intro o ho
  rcases h.2 o ho with rfl | rfl <;> decide

theorem Digits.word (h : Digits a) : Word a :=
  ⟨h.1, fun o ho => isSpace_of_lt (by have hbounds := digitValue_bounds (h.2 o ho); omega)⟩

theorem word_endpointName (endpoint : Int) : Word (endpointName endpoint) := by
  refine ⟨fun h => hexadecimal_ne_nil _ (append_eq_nil_iff.mp h).1, fun o ho => ?_⟩
  rcases mem_append.mp ho with hhex | hname
  · have hbounds := mem_hexadecimal hhex
    exact isSpace_of_lt (by omega)
  · have hat : Word (octets "@mgw") := by decide
    exact hat.2 o hname

theorem clean_printInt (n : Int) : Clean (printInt n) := by
  intro o ho
  have hbounds := mem_printInt ho
  refine ⟨?_, ?_, ?_⟩
  all_goals
    rintro rfl
    revert hbounds
    decide

theorem word_inj (ha : space ∉ a) (hb : space ∉ b) : a ++ space :: x = b ++ space :: y ↔ a = b ∧ x = y := by
  constructor
  · intro h
    have hsplit := congrArg (splitOn space) h
    rw [splitOn_append_cons_self_of_not_mem ha, splitOn_append_cons_self_of_not_mem hb] at hsplit
    obtain rfl := (cons.inj hsplit).1
    exact ⟨rfl, (cons.inj (append_cancel_left h)).2⟩
  · rintro ⟨rfl, rfl⟩
    rfl

theorem word_start (ha : space ∉ a) (hb : space ∉ b) : a ++ space :: x <+: b ++ space :: y ↔ a = b ∧ x <+: y := by
  constructor
  · rintro ⟨rest, h⟩
    rw [append_assoc, cons_append] at h
    obtain ⟨rfl, rfl⟩ := (word_inj ha hb).mp h
    exact ⟨rfl, prefix_append _ _⟩
  · rintro ⟨rfl, rest, rfl⟩
    exact ⟨rest, by simp⟩

theorem prefix_front (h : ∀ o ∈ a, o ∉ x.take 1) : a <+: b ++ x ↔ a <+: b := by
  constructor
  · intro hpre
    rcases prefix_or_prefix_of_prefix hpre (prefix_append b x) with hab | hba
    · exact hab
    · obtain ⟨rest, rfl⟩ := hba
      cases rest with
      | nil => simp
      | cons o rest =>
        obtain ⟨more, hmore⟩ := (prefix_append_right_inj b).mp hpre
        refine absurd ?_ (h o (by simp))
        simp [← hmore]
  · exact fun hpre => hpre.trans (prefix_append _ _)

theorem prefix_word (ha : space ∉ a) : a <+: b ++ space :: x ↔ a <+: b :=
  prefix_front fun _ ho hmem => ha (mem_singleton.mp hmem ▸ ho)

/-- One gap is the other before words that begin alike. -/
theorem gap_inj (ha : Gap a) {o : Octet} (ho : isSpace o = false) :
    a ++ (o :: x) = space :: o :: y ↔ a = [space] ∧ x = y := by
  constructor
  · intro h
    obtain ⟨g, gap, rfl⟩ := exists_cons_of_ne_nil ha.1
    obtain ⟨rfl, hrest⟩ := cons.inj h
    cases gap with
    | nil => exact ⟨rfl, (cons.inj hrest).2⟩
    | cons g' gap =>
      obtain ⟨rfl, -⟩ := cons.inj hrest
      have hspace := Gap.isSpace ha g' (by simp)
      rw [ho] at hspace
      cases hspace
  · rintro ⟨rfl, rfl⟩
    rfl

theorem gap_word_inj (ha : Gap a) (hb : Word b) : a ++ (b ++ x) = space :: (b ++ y) ↔ a = [space] ∧ x = y := by
  obtain ⟨o, rest, rfl⟩ := exists_cons_of_ne_nil hb.1
  rw [cons_append, cons_append, gap_inj ha (hb.2 o mem_cons_self).1, append_right_inj]

theorem scanWord_word {word : List Octet} (hgap : ∀ o ∈ gap, isSpace o = true) (hword : Word word)
    (hrest : ∀ o, rest.head? = some o → isSpace o = true) : scanWord (gap ++ (word ++ rest)) = some (word, rest) := by
  obtain ⟨o, more, rfl⟩ := exists_cons_of_ne_nil hword.1
  have hskip : (gap ++ (o :: more ++ rest)).dropWhile isSpace = o :: more ++ rest := by
    rw [dropWhile_append_of_pos hgap, cons_append, dropWhile_cons_of_neg]
    simp [(hword.2 o mem_cons_self).1]
  have hpos : ∀ o' ∈ o :: more, (!isSpace o') = true := fun o' ho' => by simp [(hword.2 o' ho').1]
  have htail : rest.takeWhile (fun o => !isSpace o) = [] ∧ rest.dropWhile (fun o => !isSpace o) = rest := by
    cases rest with
    | nil => exact ⟨rfl, rfl⟩
    | cons r rest => simp [hrest r rfl]
  unfold scanWord
  dsimp only
  rw [hskip, takeWhile_append_of_pos hpos, dropWhile_append_of_pos hpos, htail.1, htail.2, append_nil,
    if_neg (cons_ne_nil _ _)]

end Words

/-- A command is printed as it was but for its endpoint; with pointers of eight octets it is not replaced at all. -/
def RequestKept (endpoint : Int) (gap gap' name gap'' version : List Octet) : DataModel → Prop
  | .ilp32 => gap = [space] ∧ gap' = [space] ∧ gap'' = [space] ∧ version = octets " 1.0"
  | .lp64 => name = endpointName endpoint

/-- The line is taken for an address. -/
def TakenForAddress (net type : List Octet) : DataModel → Prop
  | .ilp32 => octets "I" <+: net
  | .lp64 => net = octets "IN" ∧ octets "IP" <+: type

/-- The line is taken for none of the others. -/
def OtherKept (text : List Octet) : DataModel → Prop
  | .ilp32 => ¬ (octets "CRC" <+: text ∨ octets "DLC" <+: text ∨ octets "MDC" <+: text) ∧ ¬ octets "m=a" <+: text
  | .lp64 => ¬ octets "m=audio" <+: text

/-- What is put for the line is the line with another endpoint, address or port. -/
def Kept (m : DataModel) (endpoint : Int) (ip : List Octet) : MgcpLine × LineEnd → Prop
  | (.request _ gap _ gap' name gap'' version, _) => RequestKept endpoint gap gap' name gap'' version m
  | (.connection net type addr, _) =>
    (net = octets "IN" ∧ type = octets "IP4") ∨ (¬ TakenForAddress net type m ∧ addr = ip)
  | (.audio port rest, e) =>
    ∃ media, scanMedia (lineToken (.audio port rest, e)) = some media ∧ rest = octets " RTP/AVP " ++ printInt media.2
  | (.other text, _) => OtherKept text m

variable {text : List Octet}

section Kinds

variable {m : DataModel} {endpoint : Int} {ip : List Octet} {port : Int} {token : List Octet} {line : MgcpLine}
  {e : LineEnd}

theorem clean_octets_verb (verb : RewriteVerb) : Clean verb.text := by
  cases verb <;> decide

theorem MgcpLine.WellFormed.clean (h : line.WellFormed) : Clean line.text := by
  cases line with
  | request verb gap tid gap' name gap'' version =>
    obtain ⟨hgap, htid, -, hgap', hname, hgap'', hversion⟩ := h
    have hmgcp : Clean (octets "MGCP") := by decide
    exact clean_append (clean_octets_verb verb) (clean_append hgap.clean (clean_append htid.word.clean
      (clean_append hgap'.clean (clean_append hname.clean (clean_append hgap''.clean
        (clean_append hmgcp hversion))))))
  | connection net type addr =>
    obtain ⟨hnet, htype, haddr⟩ := h
    have hc : Clean (octets "c=") := by decide
    have hspace : Clean [space] := by decide
    exact clean_append hc (clean_append hnet.clean (clean_append hspace (clean_append htype.clean
      (clean_append hspace haddr.clean))))
  | audio port rest =>
    have hm : Clean (octets "m=audio ") := by decide
    exact clean_append hm (clean_append h.1.word.clean h.2.1)
  | other text => exact h.1

theorem clean_rewritten (hip : Clean ip) (h : line.WellFormed) : Clean (line.rewritten endpoint ip port).text := by
  cases line with
  | request verb gap tid gap' name gap'' version =>
    obtain ⟨hgap, htid, -, hgap', -, hgap'', hversion⟩ := h
    have hmgcp : Clean (octets "MGCP") := by decide
    exact clean_append (clean_octets_verb verb) (clean_append hgap.clean (clean_append htid.word.clean
      (clean_append hgap'.clean (clean_append (word_endpointName endpoint).clean (clean_append hgap''.clean
        (clean_append hmgcp hversion))))))
  | connection net type addr =>
    obtain ⟨hnet, htype, -⟩ := h
    have hc : Clean (octets "c=") := by decide
    have hspace : Clean [space] := by decide
    exact clean_append hc (clean_append hnet.clean (clean_append hspace (clean_append htype.clean
      (clean_append hspace hip))))
  | audio port' rest =>
    have hm : Clean (octets "m=audio ") := by decide
    exact clean_append hm (clean_append (clean_printInt port) h.2.1)
  | other text => exact h.1

theorem Clean.notMem (h : Clean text) (e : LineEnd) : 0 ∉ text ++ e.before ∧ lineFeed ∉ text ++ e.before := by
  constructor
  · intro hmem
    rcases mem_append.mp hmem with htext | hend
    · exact (h 0 htext).1 rfl
    · revert hend
      cases e <;> decide
  · intro hmem
    rcases mem_append.mp hmem with htext | hend
    · exact (h lineFeed htext).2.2 rfl
    · exact not_mem_before e hend

theorem MgcpLine.WellFormed.zero_notMem (h : line.WellFormed) (e : LineEnd) : 0 ∉ lineToken (line, e) :=
  (h.clean.notMem e).1

theorem lineEnd_token (h : line.WellFormed) (e : LineEnd) :
    lineEnd (decide ((lineToken (line, e)).getLast? = some carriageReturn)) = e.before ++ [lineFeed] := by
  cases e with
  | crlf => simp [lineToken, LineEnd.before, lineEnd]
  | lf =>
    have hlast : line.text.getLast? ≠ some carriageReturn := by
      intro hlast
      exact (h.clean carriageReturn (mem_of_getLast? hlast)).2.1 rfl
    simp [lineToken, LineEnd.before, lineEnd, hlast]

/-- The end of a line does not matter for what it begins with. -/
theorem prefix_token {a : List Octet} (ha : carriageReturn ∉ a) : a <+: text ++ e.before ↔ a <+: text := by
  refine prefix_front fun o ho hmem => ?_
  cases e with
  | lf => exact absurd hmem not_mem_nil
  | crlf => exact ha ((mem_singleton.mp hmem : o = carriageReturn) ▸ ho)

theorem lineText_plain (h : m.patches token = false) : lineText m endpoint ip port token =
    if strncmpEq m.compared (octets "c=IN IP4 ") token then
      .ok (octets "c=IN IP4 " ++ ip ++ lineEnd (decide (token.getLast? = some carriageReturn)))
    else if strncmpEq m.compared (octets "m=audio ") token then
      ((scanMedia token).map fun media =>
        Except.ok (audioText port media.2 (decide (token.getLast? = some carriageReturn)))).getD (.error .unreadable)
    else .ok (token ++ [lineFeed]) := by
  simp only [patches, Bool.or_eq_false_iff] at h
  obtain ⟨⟨hcrcx, hdlcx⟩, hmdcx⟩ := h
  unfold lineText
  dsimp only
  rw [hcrcx, hdlcx, hmdcx]
  rfl

/-- Only a line that begins with a capital letter is taken for a command. -/
theorem patches_of_head {o : Octet} (hzero : 0 ∉ o :: rest)
    (ho : o ≠ octetOf 'C' ∧ o ≠ octetOf 'D' ∧ o ≠ octetOf 'M') : m.patches (o :: rest) = false := by
  obtain ⟨hC, hD, hM⟩ := ho
  rw [Bool.eq_false_iff]
  intro h
  cases m with
  | ilp32 =>
    rcases (patches_ilp32 hzero).mp h with hpre | hpre | hpre
    · exact hC (cons_prefix_cons.mp hpre).1.symm
    · exact hD (cons_prefix_cons.mp hpre).1.symm
    · exact hM (cons_prefix_cons.mp hpre).1.symm
  | lp64 =>
    rcases (patches_lp64 hzero).mp h with heq | heq | heq
    · exact hC (cons.inj heq).1
    · exact hD (cons.inj heq).1
    · exact hM (cons.inj heq).1

theorem address_iff (h : 0 ∉ token) : strncmpEq m.compared (octets "c=IN IP4 ") token = true ↔
    (octets "c=IN IP4 ").take m.compared <+: token := by
  rw [strncmpEq_text (by decide) h, if_pos (by cases m <;> decide)]

theorem audio_iff (h : 0 ∉ token) : strncmpEq m.compared (octets "m=audio ") token = true ↔
    (octets "m=audio ").take m.compared <+: token := by
  rw [strncmpEq_text (by decide) h, if_pos (by cases m <;> decide)]

theorem Word.space_notMem {word : List Octet} (h : Word word) : space ∉ word := fun hmem =>
  absurd (h.2 space hmem).1 (by decide)

theorem address_connection {net type addr : List Octet} (hnet : Word net) :
    (octets "c=IN IP4 ").take m.compared <+: lineToken (.connection net type addr, e) ↔ TakenForAddress net type m := by
  have htoken : ∀ a, carriageReturn ∉ a → (octets "c=" ++ a <+: lineToken (.connection net type addr, e) ↔
      a <+: net ++ space :: (type ++ space :: addr)) := by
    intro a ha
    have hc : carriageReturn ∉ octets "c=" ++ a := by
      rw [mem_append, not_or]
      exact ⟨by decide, ha⟩
    unfold lineToken
    rw [prefix_token hc]
    exact prefix_append_right_inj _
  cases m with
  | ilp32 =>
    have hprefix := htoken (octets "I") (by decide)
    rw [prefix_word (by decide)] at hprefix
    exact hprefix
  | lp64 =>
    have hprefix := htoken (octets "IN" ++ space :: octets "IP") (by decide)
    rw [word_start (by decide) hnet.space_notMem, prefix_word (by decide), @eq_comm _ (octets "IN")] at hprefix
    exact hprefix

theorem lineText_connection {net type addr : List Octet} (h : (MgcpLine.connection net type addr).WellFormed) :
    lineText m endpoint ip port (lineToken (.connection net type addr, e)) =
        .ok (lineToken (.connection net type ip, e) ++ [lineFeed]) ↔
      (net = octets "IN" ∧ type = octets "IP4") ∨ (¬ TakenForAddress net type m ∧ addr = ip) := by
  have hzero := h.zero_notMem e
  have haddress := (address_iff hzero).trans (address_connection (m := m) (e := e) h.1)
  have hplain : m.patches (lineToken (.connection net type addr, e)) = false := patches_of_head hzero (by decide)
  rw [lineText_plain hplain]
  by_cases htaken : TakenForAddress net type m
  · rw [if_pos (haddress.mpr htaken), Except.ok.injEq]
    have hsame : octets "c=IN IP4 " ++ ip ++ lineEnd (decide ((lineToken (.connection net type addr, e)).getLast? =
        some carriageReturn)) = lineToken (.connection net type ip, e) ++ [lineFeed] ↔
        octets "IN" ++ space :: (octets "IP4" ++ space :: ip) = net ++ space :: (type ++ space :: ip) := by
      rw [lineEnd_token h]
      unfold lineToken
      rw [append_assoc _ e.before, append_left_inj]
      exact append_right_inj (octets "c=")
    rw [hsame, word_inj (by decide) h.1.space_notMem, word_inj (by decide) h.2.1.space_notMem]
    constructor
    · rintro ⟨hnet, htype, -⟩
      exact .inl ⟨hnet.symm, htype.symm⟩
    · rintro (⟨rfl, rfl⟩ | ⟨hnot, -⟩)
      · exact ⟨rfl, rfl, rfl⟩
      · exact absurd htaken hnot
  · have haudio : ¬ strncmpEq m.compared (octets "m=audio ")
        (lineToken (.connection net type addr, e)) = true := by
      rw [audio_iff hzero]
      cases m
      all_goals
        intro hpre
        exact absurd (cons_prefix_cons.mp hpre).1 (by decide)
    rw [if_neg (fun hpre => htaken (haddress.mp hpre)), if_neg haudio, Except.ok.injEq, append_left_inj]
    have hsame : lineToken (.connection net type addr, e) = lineToken (.connection net type ip, e) ↔ addr = ip := by
      unfold lineToken MgcpLine.text
      simp
    rw [hsame]
    constructor
    · exact fun haddr => .inr ⟨htaken, haddr⟩
    · rintro (⟨rfl, rfl⟩ | ⟨-, haddr⟩)
      · refine absurd ?_ htaken
        cases m with
        | ilp32 => exact ⟨octets "N", rfl⟩
        | lp64 => exact ⟨rfl, octets "4", rfl⟩
      · exact haddr

theorem lineText_audio {port' : List Octet} (h : (MgcpLine.audio port' rest).WellFormed) :
    lineText m endpoint ip port (lineToken (.audio port' rest, e)) =
        .ok (lineToken (.audio (printInt port) rest, e) ++ [lineFeed]) ↔
      ∃ media, scanMedia (lineToken (.audio port' rest, e)) = some media ∧
        rest = octets " RTP/AVP " ++ printInt media.2 := by
  have hzero := h.zero_notMem e
  have hplain : m.patches (lineToken (.audio port' rest, e)) = false := patches_of_head hzero (by decide)
  have haddress : ¬ strncmpEq m.compared (octets "c=IN IP4 ") (lineToken (.audio port' rest, e)) = true := by
    rw [address_iff hzero]
    cases m
    all_goals
      intro hpre
      exact absurd (cons_prefix_cons.mp hpre).1 (by decide)
  have haudio : strncmpEq m.compared (octets "m=audio ") (lineToken (.audio port' rest, e)) = true := by
    rw [audio_iff hzero]
    refine (List.take_prefix _ _).trans ⟨port' ++ rest ++ e.before, ?_⟩
    simp [lineToken, MgcpLine.text]
  rw [lineText_plain hplain, if_neg haddress, if_pos haudio]
  cases hscan : scanMedia (lineToken (.audio port' rest, e)) with
  | none => simp
  | some media =>
    have hsame : audioText port media.2 (decide ((lineToken (.audio port' rest, e)).getLast? = some carriageReturn)) =
        lineToken (.audio (printInt port) rest, e) ++ [lineFeed] ↔ rest = octets " RTP/AVP " ++ printInt media.2 := by
      unfold audioText
      rw [lineEnd_token h]
      unfold lineToken MgcpLine.text
      rw [append_assoc _ e.before, append_left_inj, append_assoc _ (octets " RTP/AVP "),
        append_assoc, append_right_inj, append_right_inj, eq_comm]
    simp [hsame]

theorem lineText_other (h : (MgcpLine.other text).WellFormed) :
    (lineText m endpoint ip port (lineToken (.other text, e)) = .ok (lineToken (.other text, e) ++ [lineFeed]) ∧
      m.patches (lineToken (.other text, e)) = false) ↔ OtherKept text m := by
  have hzero := h.zero_notMem e
  obtain ⟨hclean, hnoAddress, hnoAudio, hnoVerb⟩ := h
  have haddress : ¬ strncmpEq m.compared (octets "c=IN IP4 ") (lineToken (.other text, e)) = true := by
    rw [address_iff hzero]
    intro hpre
    refine hnoAddress ((prefix_token (by decide)).mp (List.IsPrefix.trans ?_ hpre) : octets "c=" <+: text)
    cases m <;> decide
  have haudio : strncmpEq m.compared (octets "m=audio ") (lineToken (.other text, e)) = true ↔
      (octets "m=audio ").take m.compared <+: text := by
    rw [audio_iff hzero]
    exact prefix_token (by cases m <;> decide)
  have hpatches : m.patches (lineToken (.other text, e)) = true ↔
      m = .ilp32 ∧ (octets "CRC" <+: text ∨ octets "DLC" <+: text ∨ octets "MDC" <+: text) := by
    cases m with
    | ilp32 =>
      rw [patches_ilp32 hzero]
      unfold lineToken MgcpLine.text
      rw [prefix_token (by decide), prefix_token (by decide), prefix_token (by decide)]
      simp
    | lp64 =>
      rw [patches_lp64 hzero]
      have hnone : ∀ verb : RewriteVerb, lineToken (.other text, e) ≠ verb.text ++ [space] := by
        intro verb heq
        refine hnoVerb verb ((prefix_token (e := e) ?_).mp (heq ▸ prefix_rfl))
        cases verb <;> decide
      refine iff_of_false ?_ (fun hilp => absurd hilp.1 nofun)
      rintro (heq | heq | heq)
      · exact hnone .crcx heq
      · exact hnone .dlcx heq
      · exact hnone .mdcx heq
  by_cases hpatched : m.patches (lineToken (.other text, e)) = true
  · obtain ⟨rfl, hverb⟩ := hpatches.mp hpatched
    refine iff_of_false (fun hboth => ?_) fun hkept => hkept.1 hverb
    rw [hpatched] at hboth
    cases hboth.2
  · have hplain : m.patches (lineToken (.other text, e)) = false := by simpa using hpatched
    have hkept : OtherKept text m ↔ ¬ (octets "m=audio ").take m.compared <+: text := by
      cases m with
      | ilp32 => exact and_iff_right fun hverb => hpatched (hpatches.mpr ⟨rfl, hverb⟩)
      | lp64 => exact Iff.rfl
    rw [hkept, and_iff_left hplain, lineText_plain hplain, if_neg haddress]
    by_cases hmedia : (octets "m=audio ").take m.compared <+: text
    · rw [if_pos (haudio.mpr hmedia)]
      refine iff_of_false ?_ (not_not_intro hmedia)
      cases scanMedia (lineToken (.other text, e)) with
      | none => simp
      | some media =>
        intro heq
        have htext : audioText port media.2 _ = lineToken (.other text, e) ++ [lineFeed] := Except.ok.inj heq
        have hpre : octets "m=audio " <+: text ++ (e.before ++ [lineFeed]) := by
          unfold lineToken MgcpLine.text at htext
          rw [← append_assoc, ← htext]
          unfold audioText
          simp only [append_assoc]
          exact prefix_append _ _
        refine hnoAudio ((prefix_front fun o ho hmem => ?_).mp hpre)
        cases e
        all_goals
          rw [mem_singleton.mp hmem] at ho
          exact absurd ho (by decide)
    · rw [if_neg fun hpre => hmedia (haudio.mp hpre)]
      exact iff_of_true rfl hmedia

variable {verb : RewriteVerb} {gap' name gap'' version : List Octet}

theorem patchWord_request {tid : List Octet} (h : (MgcpLine.request verb gap tid gap' name gap'' version).WellFormed) :
    patchWord (lineToken (.request verb gap tid gap' name gap'' version, e)) = tid := by
  obtain ⟨hgap, htid, -, hgap', -⟩ := h
  have hverb : Word verb.text := by
    cases verb <;> decide
  have hhead : ∀ {g x : List Octet}, Gap g → ∀ o, (g ++ x).head? = some o → isSpace o = true := by
    intro g x hg o ho
    obtain ⟨g', gs, rfl⟩ := exists_cons_of_ne_nil hg.1
    obtain rfl : g' = o := Option.some.inj ho
    exact hg.isSpace g' mem_cons_self
  have htoken : lineToken (.request verb gap tid gap' name gap'' version, e) =
      [] ++ (verb.text ++ (gap ++ (tid ++ (gap' ++ (name ++ (gap'' ++ (octets "MGCP" ++ version)) ++ e.before))))) := by
    unfold lineToken MgcpLine.text
    simp only [append_assoc, nil_append]
  unfold patchWord
  rw [htoken, scanWord_word (fun o ho => absurd ho not_mem_nil) hverb (hhead hgap), Option.bind_some,
    scanWord_word hgap.isSpace htid.word (hhead hgap'), Option.map_some, Option.getD_some]

theorem lineText_request_ilp32 {tid : List Octet}
    (h : (MgcpLine.request verb gap tid gap' name gap'' version).WellFormed) :
    lineText .ilp32 endpoint ip port (lineToken (.request verb gap tid gap' name gap'' version, e)) =
        .ok (lineToken (.request verb gap tid gap' (endpointName endpoint) gap'' version, e) ++ [lineFeed]) ↔
      RequestKept endpoint gap gap' name gap'' version .ilp32 := by
  have hzero := h.zero_notMem e
  have hpatch : lineText .ilp32 endpoint ip port (lineToken (.request verb gap tid gap' name gap'' version, e)) =
      patchResult verb.text (lineToken (.request verb gap tid gap' name gap'' version, e)) endpoint
        (decide ((lineToken (.request verb gap tid gap' name gap'' version, e)).getLast? = some carriageReturn)) := by
    have hcompared : ilp32.compared = 3 := rfl
    have htest : ∀ verb' : RewriteVerb, strncmpEq 3 (verb'.text ++ [space])
        (lineToken (.request verb gap tid gap' name gap'' version, e)) = decide (verb' = verb) := by
      intro verb'
      rw [Bool.eq_iff_iff, strncmpEq_text (by cases verb' <;> decide) hzero, if_pos (by cases verb' <;> decide),
        decide_eq_true_iff]
      constructor
      · intro hpre
        cases verb <;> cases verb' <;> first | rfl | exact absurd (cons_prefix_cons.mp hpre).1 (by decide)
      · rintro rfl
        cases verb' <;> exact ⟨_, rfl⟩
    have hcrcx : strncmpEq 3 (octets "CRCX ") _ = _ := htest .crcx
    have hdlcx : strncmpEq 3 (octets "DLCX ") _ = _ := htest .dlcx
    have hmdcx : strncmpEq 3 (octets "MDCX ") _ = _ := htest .mdcx
    unfold lineText
    dsimp only
    rw [hcompared, hcrcx, hdlcx, hmdcx]
    cases verb <;> rfl
  obtain ⟨hgap, htid, hlength, hgap', hname, hgap'', hversion⟩ := id h
  rw [hpatch, patchResult, patchWord_request h, if_neg (by omega), Except.ok.injEq]
  unfold patchText
  rw [patchWord_request h, lineEnd_token h]
  have hprinted : verb.text ++ [space] ++ tid ++ [space] ++ endpointName endpoint ++ octets " MGCP 1.0" ++
      (e.before ++ [lineFeed]) = verb.text ++ (space :: (tid ++ (space :: (endpointName endpoint ++ (space ::
        (octets "MGCP" ++ octets " 1.0")))))) ++ e.before ++ [lineFeed] := by
    have hversion' : octets " MGCP 1.0" = space :: (octets "MGCP" ++ octets " 1.0") := rfl
    rw [hversion']
    simp only [append_assoc, cons_append, nil_append]
  have hmgcp : Word (octets "MGCP") := by decide
  rw [hprinted, eq_comm]
  unfold lineToken MgcpLine.text
  rw [append_left_inj, append_left_inj, append_right_inj, gap_word_inj hgap htid.word,
    gap_word_inj hgap' (word_endpointName endpoint), gap_word_inj hgap'' hmgcp]
  exact Iff.rfl

theorem lineText_request_lp64 {tid : List Octet}
    (h : (MgcpLine.request verb gap tid gap' name gap'' version).WellFormed) :
    lineText .lp64 endpoint ip port (lineToken (.request verb gap tid gap' name gap'' version, e)) =
        .ok (lineToken (.request verb gap tid gap' (endpointName endpoint) gap'' version, e) ++ [lineFeed]) ↔
      RequestKept endpoint gap gap' name gap'' version .lp64 := by
  have hzero := h.zero_notMem e
  have hlong : 5 < (lineToken (.request verb gap tid gap' name gap'' version, e)).length := by
    have hverb : verb.text.length = 4 := by cases verb <;> rfl
    have hmgcp : (octets "MGCP").length = 4 := rfl
    unfold lineToken MgcpLine.text
    simp only [length_append, hverb, hmgcp]
    omega
  have hplain : lp64.patches (lineToken (.request verb gap tid gap' name gap'' version, e)) = false := by
    rw [Bool.eq_false_iff]
    intro hpatches
    rcases (patches_lp64 hzero).mp hpatches with heq | heq | heq
    all_goals
      rw [heq] at hlong
      revert hlong
      decide
  have hneither : ∀ (o : Octet) (more : List Octet), (∀ verb : RewriteVerb, verb.text.head? ≠ some o) →
      ¬ o :: more <+: lineToken (.request verb gap tid gap' name gap'' version, e) := by
    intro o more hhead hpre
    refine hhead verb ?_
    cases verb <;> exact congrArg some (cons_prefix_cons.mp hpre).1.symm
  have haddress : ¬ strncmpEq lp64.compared (octets "c=IN IP4 ")
      (lineToken (.request verb gap tid gap' name gap'' version, e)) = true := by
    rw [address_iff hzero]
    exact hneither (octetOf 'c') _ fun verb => by cases verb <;> decide
  have haudio : ¬ strncmpEq lp64.compared (octets "m=audio ")
      (lineToken (.request verb gap tid gap' name gap'' version, e)) = true := by
    rw [audio_iff hzero]
    exact hneither (octetOf 'm') _ fun verb => by cases verb <;> decide
  rw [lineText_plain hplain, if_neg haddress, if_neg haudio, Except.ok.injEq, append_left_inj]
  unfold lineToken MgcpLine.text
  rw [append_left_inj, append_right_inj, append_right_inj, append_right_inj, append_right_inj, append_left_inj]
  exact Iff.rfl

/-- **A line** is replaced by the same line with another endpoint, address or port exactly if it is kept. -/
theorem lineText_iff (h : line.WellFormed) :
    (lineText m endpoint ip port (lineToken (line, e)) =
        .ok (lineToken (line.rewritten endpoint ip port, e) ++ [lineFeed]) ∧
      (line.isRequest = false → m.patches (lineToken (line, e)) = false)) ↔ Kept m endpoint ip (line, e) := by
  cases line with
  | request verb gap tid gap' name gap'' version =>
    refine (and_iff_left nofun).trans ?_
    cases m with
    | ilp32 => exact lineText_request_ilp32 h
    | lp64 => exact lineText_request_lp64 h
  | connection net type addr =>
    exact (and_iff_left fun _ => patches_of_head (h.zero_notMem e) (by decide)).trans (lineText_connection h)
  | audio port' rest =>
    exact (and_iff_left fun _ => patches_of_head (h.zero_notMem e) (by decide)).trans (lineText_audio h)
  | other text =>
    refine Iff.trans (and_congr_right fun _ => ?_) (lineText_other h)
    exact forall_prop_of_true rfl

end Kinds

/-! ## The result -/

/-- **The message is rewritten**: NULL is returned, or the message with another endpoint, other addresses and other
    ports. -/
def RewritesWell (m : DataModel) (msg : MgcpText) (endpoint : Int) (ip : List Octet) (port : Int) : Prop :=
  bscMgcpRewrite m msg.text endpoint ip port = .null ∨
    bscMgcpRewrite m msg.text endpoint ip port = .message (msg.rewritten endpoint ip port)

/-- The message ends in a line feed, its lines are kept, and there is room for it. -/
structure RewritesInFull (m : DataModel) (msg : MgcpText) (endpoint : Int) (ip : List Octet) (port : Int) : Prop where
  last : msg.last = none
  kept : ∀ line ∈ msg.lines, Kept m endpoint ip line
  room : (msg.rewritten endpoint ip port).length ≤ rewriteRoom

section Result

variable {m : DataModel} {endpoint : Int} {ip : List Octet} {port : Int} {msg : MgcpText}

theorem notMem_textOf {o : Octet} (ho : o ≠ lineFeed) {lines : List (MgcpLine × LineEnd)} {last : Option MgcpLine}
    (h : ∀ line ∈ lines, o ∉ lineToken line) (hlast : ∀ line ∈ last, o ∉ line.text) : o ∉ textOf lines last := by
  unfold textOf ended
  rw [mem_append, not_or]
  constructor
  · simp only [mem_flatMap, mem_map, not_exists, not_and]
    rintro token ⟨line, hline, rfl⟩ hmem
    rcases mem_append.mp hmem with htoken | hend
    · exact h line hline htoken
    · exact ho (mem_singleton.mp hend)
  · cases last with
    | none => exact not_mem_nil
    | some line => exact hlast line rfl

variable {line : MgcpLine × LineEnd}

theorem MgcpText.wellFormed_line (msg : MgcpText) (h : line ∈ msg.lines) : line.1.WellFormed :=
  msg.wellFormed line.1 (mem_append_left _ (mem_map_of_mem h))

theorem MgcpText.wellFormed_last (msg : MgcpText) {line : MgcpLine} (h : line ∈ msg.last) : line.WellFormed :=
  msg.wellFormed line (mem_append_right _ (Option.mem_toList.mpr h))

theorem messageLines_text (msg : MgcpText) : messageLines msg.text = msg.lines.map lineToken := by
  have hzero : 0 ∉ msg.text :=
    notMem_textOf (by decide) (fun line hline => (msg.wellFormed_line hline).zero_notMem line.2)
      fun line hline hmem => ((msg.wellFormed_last hline).clean 0 hmem).1 rfl
  have hlines : ∀ token ∈ msg.lines.map lineToken, lineFeed ∉ token := by
    intro token htoken
    obtain ⟨line, hline, rfl⟩ := mem_map.mp htoken
    exact ((msg.wellFormed_line hline).clean.notMem line.2).2
  have hlast : lineFeed ∉ (msg.last.map MgcpLine.text).getD [] := by
    cases h : msg.last with
    | none => exact not_mem_nil
    | some line => exact fun hmem => ((msg.wellFormed_last h).clean lineFeed hmem).2.2 rfl
  unfold messageLines
  rw [cString_of_notMem hzero, MgcpText.text, textOf, splitOn_textOf hlines hlast, dropLast_concat]

theorem isSpace_scanWord {s : List Octet} {r : List Octet × List Octet} (h : scanWord s = some r) :
    ∀ o ∈ r.1, isSpace o = false := by
  unfold scanWord at h
  dsimp only at h
  split at h
  · cases h
  · cases h
    intro o ho
    simpa using mem_takeWhile_imp ho

theorem isSpace_patchWord {tok : List Octet} : ∀ o ∈ patchWord tok, isSpace o = false := by
  intro o ho
  unfold patchWord at ho
  cases hfirst : scanWord tok with
  | none => simp [hfirst] at ho
  | some first =>
    cases hsecond : scanWord first.2 with
    | none => simp [hfirst, hsecond] at ho
    | some second =>
      rw [hfirst, Option.bind_some, hsecond, Option.map_some, Option.getD_some] at ho
      exact isSpace_scanWord hsecond o ho

theorem lineText_ended {token : List Octet} (htoken : lineFeed ∉ token) (hip : Clean ip)
    (h : lineText m endpoint ip port token = .ok text) : ∃ body, text = body ++ [lineFeed] ∧ lineFeed ∉ body := by
  have hend : ∀ (front : List Octet) (cr : Bool), lineFeed ∉ front →
      ∃ body, front ++ lineEnd cr = body ++ [lineFeed] ∧ lineFeed ∉ body := by
    intro front cr hfront
    cases cr with
    | false => exact ⟨front, rfl, hfront⟩
    | true =>
      refine ⟨front ++ [carriageReturn], by simp [lineEnd], ?_⟩
      rw [mem_append, not_or]
      exact ⟨hfront, by decide⟩
  have hword : lineFeed ∉ patchWord token := by
    intro hmem
    exact absurd (isSpace_patchWord lineFeed hmem) (by decide)
  have hclean : ∀ {a : List Octet}, Clean a → lineFeed ∉ a := fun ha hmem => (ha lineFeed hmem).2.2 rfl
  have hpatch : ∀ {op cr}, lineFeed ∉ op → patchResult op token endpoint cr = .ok text →
      ∃ body, text = body ++ [lineFeed] ∧ lineFeed ∉ body := by
    intro op cr hop hresult
    unfold patchResult at hresult
    split at hresult
    · cases hresult
    · cases hresult
      refine hend _ cr ?_
      simp only [mem_append, not_or]
      exact ⟨⟨⟨⟨⟨hop, by decide⟩, hword⟩, by decide⟩, hclean (word_endpointName endpoint).clean⟩, by decide⟩
  unfold lineText at h
  dsimp only at h
  split at h
  · exact hpatch (by decide) h
  split at h
  · exact hpatch (by decide) h
  split at h
  · exact hpatch (by decide) h
  split at h
  · cases h
    refine hend _ _ ?_
    rw [mem_append, not_or]
    exact ⟨by decide, hclean hip⟩
  split at h
  · cases hscan : scanMedia token with
    | none =>
      rw [hscan] at h
      cases h
    | some media =>
      rw [hscan] at h
      cases h
      refine hend _ _ ?_
      simp only [mem_append, not_or]
      exact ⟨⟨⟨by decide, hclean (clean_printInt port)⟩, by decide⟩, hclean (clean_printInt media.2)⟩
  · cases h
    exact ⟨token, rfl, htoken⟩

theorem ended_of_replaced {lines : List (MgcpLine × LineEnd)} {texts : List (List Octet)} (hip : Clean ip)
    (hwf : ∀ line ∈ lines, line.1.WellFormed) (h : LinesReplaced m endpoint ip port (lines.map lineToken) texts) :
    ∃ bodies, texts.flatten = ended lineFeed bodies ∧ (∀ body ∈ bodies, lineFeed ∉ body) ∧
      List.Forall₂ (fun line body => lineText m endpoint ip port (lineToken line) = .ok (body ++ [lineFeed])) lines
        bodies := by
  induction lines generalizing texts with
  | nil =>
    cases h
    exact ⟨[], rfl, nofun, .nil⟩
  | cons line lines ih =>
    cases h with
    | @cons _ text _ texts htext hrest =>
      have hline := hwf line mem_cons_self
      obtain ⟨body, rfl, hbody⟩ := lineText_ended (hline.clean.notMem line.2).2 hip htext
      obtain ⟨bodies, hflatten, hbodies, hall⟩ := ih (fun l hl => hwf l (mem_cons_of_mem _ hl)) hrest
      refine ⟨body :: bodies, ?_, ?_, .cons htext hall⟩
      · rw [flatten_cons, hflatten, ended_cons, append_assoc]
        rfl
      · intro b hb
        rcases mem_cons.mp hb with rfl | hmem
        · exact hbody
        · exact hbodies b hmem

/-- The lines of the message as it should be. -/
def rewrittenTokens (endpoint : Int) (ip : List Octet) (port : Int) (lines : List (MgcpLine × LineEnd)) :
    List (List Octet) := lines.map fun line => lineToken (line.1.rewritten endpoint ip port, line.2)

theorem rewritten_eq (msg : MgcpText) : msg.rewritten endpoint ip port =
    ended lineFeed (rewrittenTokens endpoint ip port msg.lines) ++
      (msg.last.map fun line => (line.rewritten endpoint ip port).text).getD [] := by
  unfold MgcpText.rewritten textOf rewrittenTokens
  rw [map_map, Option.map_map]
  rfl

theorem zero_notMem_rewritten (hip : Clean ip) (msg : MgcpText) : 0 ∉ msg.rewritten endpoint ip port := by
  refine notMem_textOf (by decide) (fun line hline => ?_) fun line hline hmem => ?_
  · obtain ⟨old, hold, rfl⟩ := mem_map.mp hline
    exact ((clean_rewritten hip (msg.wellFormed_line hold)).notMem old.2).1
  · obtain ⟨old, hold, rfl⟩ := Option.map_eq_some_iff.mp hline
    exact (clean_rewritten hip (msg.wellFormed_last hold) 0 hmem).1 rfl

theorem rewritten_ne_nil {line : MgcpLine} (h : line.text ≠ []) : (line.rewritten endpoint ip port).text ≠ [] := by
  cases line with
  | request verb =>
    cases verb <;> exact cons_ne_nil _ _
  | connection | audio => exact cons_ne_nil _ _
  | other => exact h

/-- Only the first line can be taken for a command, if the message is to be what it should be. -/
theorem patches_head {rest : List (MgcpLine × LineEnd)} (hlines : msg.lines = line :: rest)
    (hrequest : line.1.isRequest = false) : m.patches (lineToken line) = false := by
  have hhead : line.1.IsHead := msg.head line.1 (by rw [hlines]; rfl)
  have hwf : line.1.WellFormed := msg.wellFormed_line (by rw [hlines]; exact mem_cons_self)
  obtain ⟨line, e⟩ := line
  cases line with
  | request => cases hrequest
  | connection | audio => exact hhead.elim
  | other text =>
    obtain ⟨o, ho, hdigit⟩ := hhead
    obtain ⟨o', text, rfl⟩ := exists_cons_of_ne_nil (fun hnil : text = [] => by rw [hnil] at ho; cases ho)
    cases ho
    refine patches_of_head (hwf.zero_notMem e) ⟨?_, ?_, ?_⟩
    all_goals
      rintro rfl
      revert hdigit
      decide

theorem isRequest_body (h : line ∈ msg.lines.tail) : line.1.isRequest = false := by
  refine msg.body line.1 ?_
  cases hlines : msg.lines with
  | nil =>
    rw [hlines] at h
    cases h
  | cons first rest =>
    rw [hlines] at h
    exact mem_append_left _ (mem_map_of_mem h)

/-- **Rewriting a message.** It is rewritten well exactly if it is too long for the function, or given up at an audio
    line, or all its lines are kept, it ends in a line feed, and there is room for the new one. -/
theorem rewrites_iff (hip : Clean ip) : RewritesWell m msg endpoint ip port ↔
    4096 - 128 < msg.text.length ∨ GivenUp m endpoint ip port (msg.lines.map lineToken) ∨
      RewritesInFull m msg endpoint ip port := by
  have hnull : bscMgcpRewrite m msg.text endpoint ip port = .null ↔ _ := bscMgcpRewrite_null_iff
  rw [messageLines_text] at hnull
  unfold RewritesWell
  rw [hnull, or_assoc]
  refine or_congr_right' fun hshort => or_congr_right' fun hnotGiven => ?_
  constructor
  · intro hmessage
    obtain ⟨texts, htexts, hroom⟩ := fits_of_message hmessage
    obtain ⟨text, htext, hplain, hpatched⟩ := bscMgcpRewrite_fits hshort htexts hroom
    cases htext.symm.trans hmessage
    rw [messageLines_text] at htexts hplain hpatched
    -- a later line that is taken for a command leaves a zero in the text
    have hnone : ∀ token ∈ (msg.lines.map lineToken).tail, m.patches token = false := by
      intro token htoken
      rw [Bool.eq_false_iff]
      exact fun hpatches => zero_notMem_rewritten hip msg (hpatched ⟨token, htoken, hpatches⟩)
    obtain ⟨bodies, hbodies, hended, hall⟩ := ended_of_replaced hip (fun line => msg.wellFormed_line) htexts
    have hsame := hplain hnone
    obtain ⟨hlines, hlast⟩ : rewrittenTokens endpoint ip port msg.lines = bodies ∧
        (msg.last.map fun line => (line.rewritten endpoint ip port).text).getD [] = [] := by
      refine textOf_inj ?_ ?_ hended not_mem_nil ?_
      · intro token htoken
        obtain ⟨line, hline, rfl⟩ := mem_map.mp htoken
        exact ((clean_rewritten hip (msg.wellFormed_line hline)).notMem line.2).2
      · cases hlast : msg.last with
        | none => exact not_mem_nil
        | some line => exact fun hmem => (clean_rewritten hip (msg.wellFormed_last hlast) lineFeed hmem).2.2 rfl
      · rw [← rewritten_eq, hsame, hbodies, append_nil]
    refine ⟨?_, fun line hline => ?_, ?_⟩
    · cases hmsg : msg.last with
      | none => rfl
      | some line =>
        rw [hmsg] at hlast
        exact absurd hlast (rewritten_ne_nil (msg.lastNonempty line hmsg))
    · rw [← hlines, rewrittenTokens, forall₂_map_right_iff, forall₂_same] at hall
      refine (lineText_iff (msg.wellFormed_line hline)).mp ⟨hall line hline, fun hrequest => ?_⟩
      cases hcons : msg.lines with
      | nil =>
        rw [hcons] at hline
        cases hline
      | cons first rest =>
        rw [hcons] at hline hnone
        rcases mem_cons.mp hline with rfl | hmem
        · exact patches_head hcons hrequest
        · exact hnone _ (mem_map_of_mem hmem)
    · rw [hsame]
      exact hroom
  · rintro ⟨hlast, hkept, hroom⟩
    have hline : ∀ line ∈ msg.lines, lineText m endpoint ip port (lineToken line) =
          .ok (lineToken (line.1.rewritten endpoint ip port, line.2) ++ [lineFeed]) ∧
        (line.1.isRequest = false → m.patches (lineToken line) = false) :=
      fun line hline => (lineText_iff (msg.wellFormed_line hline)).mpr (hkept line hline)
    have htexts : LinesReplaced m endpoint ip port (messageLines msg.text)
        ((rewrittenTokens endpoint ip port msg.lines).map fun token => token ++ [lineFeed]) := by
      rw [messageLines_text, rewrittenTokens, LinesReplaced, map_map, forall₂_map_left_iff,
        forall₂_map_right_iff, forall₂_same]
      exact fun line hmem => (hline line hmem).1
    have hflatten : ((rewrittenTokens endpoint ip port msg.lines).map fun token => token ++ [lineFeed]).flatten =
        msg.rewritten endpoint ip port := by
      rw [rewritten_eq, hlast, Option.map_none, Option.getD_none, append_nil]
      rfl
    obtain ⟨text, htext, hplain, -⟩ := bscMgcpRewrite_fits hshort htexts (by rw [hflatten]; exact hroom)
    rw [htext, hplain ?_, hflatten]
    rw [messageLines_text, ← map_tail]
    intro token htoken
    obtain ⟨line, hmem, rfl⟩ := mem_map.mp htoken
    exact (hline line (mem_of_mem_tail hmem)).2 (isRequest_body hmem)

end Result

/-- A response with an address, and with this line behind it that has no end. -/
def sdpResponse (last : Option MgcpLine) (hwf : ∀ line ∈ last, line.WellFormed)
    (hbody : ∀ line ∈ last, line.isRequest = false) (hne : ∀ line ∈ last, line.text ≠ []) : MgcpText where
  lines := [(.other (octets "200 7 OK"), .crlf), (.connection (octets "IN") (octets "IP4") (octets "10.0.0.9"), .crlf)]
  last := last
  wellFormed := by
    intro line hline
    simp only [List.map_cons, List.map_nil, List.cons_append, List.nil_append, List.mem_cons,
      Option.mem_toList] at hline
    rcases hline with rfl | rfl | hlast
    · refine ⟨by decide, by decide, by decide, fun verb => ?_⟩
      cases verb <;> decide
    · exact ⟨by decide, by decide, by decide⟩
    · exact hwf line hlast
  head := by
    intro line hline
    cases hline
    exact ⟨50, rfl, rfl⟩
  body := by
    intro line hline
    simp only [List.map_cons, List.map_nil, List.cons_append, List.nil_append, List.tail_cons, List.mem_cons,
      Option.mem_toList] at hline
    rcases hline with rfl | hlast
    · rfl
    · exact hbody line hlast
  lastNonempty := hne

/-- A response that ends in a line feed is rewritten well. -/
theorem rewrites_iff_response :
    RewritesWell .ilp32 (sdpResponse none nofun nofun nofun) 30 (octets "172.16.18.2") 4002 := by
  refine (rewrites_iff (by decide)).mpr (.inr (.inr ⟨rfl, ?_, by decide⟩))
  intro line hline
  simp only [sdpResponse, mem_cons, not_mem_nil, or_false] at hline
  rcases hline with rfl | rfl
  · exact ⟨by decide, by decide⟩
  · exact .inl ⟨rfl, rfl⟩

/-- An audio line at the end of a message, without a line feed. -/
def lastAudio : MgcpLine := .audio (octets "4410") (octets " RTP/AVP 98")

/-- A response that does not end in a line feed. -/
def cutResponse : MgcpText :=
  sdpResponse (some lastAudio)
    (fun line hline => by
      cases hline
      exact ⟨by decide, by decide, fun o ho => by obtain rfl := Option.some.inj ho; rfl⟩)
    (fun line hline => by obtain rfl := Option.some.inj hline; rfl)
    (fun line hline => by obtain rfl := Option.some.inj hline; decide)

/-- **A last line without a line feed is lost**, whatever the size of a pointer. -/
theorem not_rewritesWell_cut :
    ¬ RewritesWell .ilp32 cutResponse 30 (octets "172.16.18.2") 4002 ∧
      ¬ RewritesWell .lp64 cutResponse 30 (octets "172.16.18.2") 4002 := by
  unfold RewritesWell
  decide +kernel

end OpenBsc.OsmoBscNat
