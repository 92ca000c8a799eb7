import OpenBsc.Lib.Decimal
import OpenBsc.Lib.LineText
import OpenBsc.Mgcp.Message
import OpenBsc.OsmoBscNat.Tokens

/-!
# `OsmoBscNat.MgcpRewrite` — rewriting MGCP messages (`bsc_mgcp_utils.c`)

`bsc_mgcp_rewrite` copies a message line by line into a buffer, and replaces the lines that begin like a command, like a
`c=` or like an `m=audio` line. How many octets are compared depends on the size of a pointer: the texts are compared up
to `sizeof` of the pointers to them. What stands behind the last line feed is not copied.

`patch_mgcp` prints to where the last line was put, and only then makes room behind it. `msgb_put` ends the process
where there is no room left.
-/

namespace OpenBsc.OsmoBscNat

open Mgcp LineText List

/-! ## The buffer -/

/-- The sizes of the machine's types. -/
inductive DataModel where
  | ilp32
  | lp64

/-- How many octets of a line are compared: one less than a pointer has. -/
def DataModel.compared : DataModel → Nat
  | .ilp32 => 3
  | .lp64 => 7

/-- The new message: what has been put, and where `l3h` points to. -/
structure Rewriting where
  text : List Octet := []
  l3h : Nat := 0
  deriving DecidableEq

/-- Why the loop over the lines ends early: the message is given up, a word is too long for its buffer, or there is no
    room. -/
inductive RewriteStop where
  | unreadable
  | overrun
  | noRoom
  deriving DecidableEq

/-- The room of the new message behind its headroom. -/
def rewriteRoom : Nat := 4096 - 128

namespace Rewriting

/-- `msgb_put` and the copy to what it returns. -/
def put (out : Rewriting) (bytes : List Octet) : Except RewriteStop Rewriting :=
  if out.text.length + bytes.length ≤ rewriteRoom then .ok ⟨out.text ++ bytes, out.text.length⟩ else .error .noRoom

/-- `sprintf` to `l3h`, with the zero behind the text, and then `msgb_put` for its length. -/
def printAt (out : Rewriting) (text : List Octet) : Except RewriteStop Rewriting :=
  if out.text.length + text.length ≤ rewriteRoom then
    let memory := out.text.take out.l3h ++ text ++ [0] ++ out.text.drop (out.l3h + text.length + 1)
    .ok ⟨(memory ++ List.replicate text.length 0).take (out.text.length + text.length), out.text.length⟩
  else .error .noRoom

end Rewriting

/-! ## Lines -/

/-- What `%s` reads, and what follows it. -/
def scanWord (s : List Octet) : Option (List Octet × List Octet) :=
  let s := s.dropWhile isSpace
  let word := s.takeWhile fun o => !isSpace o
  if word = [] then none else some (word, s.dropWhile fun o => !isSpace o)

/-- What `sscanf(tok, "%*s %s", buf)` leaves in `buf`. -/
def patchWord (tok : List Octet) : List Octet := (((scanWord tok).bind fun r => scanWord r.2).map Prod.fst).getD []

/-- The end of a line that is printed. -/
def lineEnd (cr : Bool) : List Octet := if cr then [carriageReturn, lineFeed] else [lineFeed]

/-- The name of an endpoint, `%x@mgw`. -/
def endpointName (endp : Int) : List Octet := hexadecimal (BitVec.ofInt 32 endp).toNat ++ octets "@mgw"

/-- What `patch_mgcp` prints. -/
def patchText (op tok : List Octet) (endp : Int) (cr : Bool) : List Octet :=
  op ++ [space] ++ patchWord tok ++ [space] ++ endpointName endp ++ octets " MGCP 1.0" ++ lineEnd cr

/-- `patch_mgcp`; `buf` has 40 octets. -/
def patchMgcp (out : Rewriting) (op tok : List Octet) (endp : Int) (cr : Bool) : Except RewriteStop Rewriting :=
  if 40 ≤ (patchWord tok).length then .error .overrun else out.printAt (patchText op tok endp cr)

/-- The line for a port and a payload type. -/
def audioText (port payload : Int) (cr : Bool) : List Octet :=
  octets "m=audio " ++ printInt port ++ octets " RTP/AVP " ++ printInt payload ++ lineEnd cr

/-- The body of the loop of `bsc_mgcp_rewrite`. -/
def rewriteLine (m : DataModel) (endpoint : Int) (ip : List Octet) (port : Int) (out : Rewriting)
    (token : List Octet) : Except RewriteStop Rewriting :=
  let cr : Bool := token.getLast? = some carriageReturn
  if BscNat.strncmpEq m.compared (octets "CRCX ") token then patchMgcp out (octets "CRCX") token endpoint cr
  else if BscNat.strncmpEq m.compared (octets "DLCX ") token then patchMgcp out (octets "DLCX") token endpoint cr
  else if BscNat.strncmpEq m.compared (octets "MDCX ") token then patchMgcp out (octets "MDCX") token endpoint cr
  else if BscNat.strncmpEq m.compared (octets "c=IN IP4 ") token then
    ((out.put (octets "c=IN IP4 ")).bind fun out => out.put ip).bind fun out => out.put (lineEnd cr)
  else if BscNat.strncmpEq m.compared (octets "m=audio ") token then
    match scanMedia token with
    | none => .error .unreadable
    | some (_, payload) => out.put (audioText port payload cr)
  else out.put (token ++ [lineFeed])

/-- What becomes of a message: it is rewritten, given up with NULL, or the process ends. -/
inductive Rewritten where
  | message (text : List Octet)
  | null
  | aborted
  deriving DecidableEq

/-- What the loop comes to. -/
def Rewritten.ofRun : Except RewriteStop Rewriting → Rewritten
  | .ok out => .message out.text
  | .error .unreadable => .null
  | .error _ => .aborted

/-- What `strsep` yields in the loop: what stands before each line feed. -/
def messageLines (input : List Octet) : List (List Octet) := ((cString input).splitOn lineFeed).dropLast

/-- `bsc_mgcp_rewrite`, for a text with its length. -/
def bscMgcpRewrite (m : DataModel) (input : List Octet) (endpoint : Int) (ip : List Octet) (port : Int) : Rewritten :=
  if 4096 - 128 < input.length then .null
  else .ofRun ((messageLines input).foldlM (rewriteLine m endpoint ip port) {})

/-! ## What a line becomes -/

/-- The line is taken for a command. -/
def DataModel.patches (m : DataModel) (token : List Octet) : Bool :=
  BscNat.strncmpEq m.compared (octets "CRCX ") token || BscNat.strncmpEq m.compared (octets "DLCX ") token ||
    BscNat.strncmpEq m.compared (octets "MDCX ") token

/-- What is printed for a line that is taken for this command. -/
def patchResult (op tok : List Octet) (endp : Int) (cr : Bool) : Except RewriteStop (List Octet) :=
  if 40 ≤ (patchWord tok).length then .error .overrun else .ok (patchText op tok endp cr)

/-- What is put for a line, or why the loop ends at it. -/
def lineText (m : DataModel) (endpoint : Int) (ip : List Octet) (port : Int) (token : List Octet) :
    Except RewriteStop (List Octet) :=
  let cr : Bool := token.getLast? = some carriageReturn
  if BscNat.strncmpEq m.compared (octets "CRCX ") token then patchResult (octets "CRCX") token endpoint cr
  else if BscNat.strncmpEq m.compared (octets "DLCX ") token then patchResult (octets "DLCX") token endpoint cr
  else if BscNat.strncmpEq m.compared (octets "MDCX ") token then patchResult (octets "MDCX") token endpoint cr
  else if BscNat.strncmpEq m.compared (octets "c=IN IP4 ") token then .ok (octets "c=IN IP4 " ++ ip ++ lineEnd cr)
  else if BscNat.strncmpEq m.compared (octets "m=audio ") token then
    ((scanMedia token).map fun media => Except.ok (audioText port media.2 cr)).getD (.error .unreadable)
  else .ok (token ++ [lineFeed])

/-- What the message is after a line: as much longer as what was put. A line that is taken for a command writes over the
    one before it and leaves a zero, unless it is the first one. -/
structure Written (patched : Bool) (text : List Octet) (out out' : Rewriting) : Prop where
  length : out'.text.length = out.text.length + text.length
  l3h : out'.l3h < out'.text.length
  appended : patched = false ∨ out = {} → out'.text = out.text ++ text
  overwritten : patched = true → out.l3h < out.text.length → 0 ∈ out'.text

section Lines

variable {m : DataModel} {endpoint : Int} {ip : List Octet} {port : Int} {out : Rewriting} {token text : List Octet}

theorem put_eq (out : Rewriting) {bytes : List Octet} (hne : bytes ≠ [])
    (h : out.text.length + bytes.length ≤ rewriteRoom) :
    ∃ out', out.put bytes = .ok out' ∧ Written false bytes out out' := by
  refine ⟨⟨out.text ++ bytes, out.text.length⟩, if_pos h, ?_, ?_, fun _ => rfl, nofun⟩
  · exact length_append
  · have hpos := length_pos_iff.mpr hne
    show out.text.length < (out.text ++ bytes).length
    rw [length_append]
    omega

theorem put_noRoom {bytes : List Octet} (h : rewriteRoom < out.text.length + bytes.length) :
    out.put bytes = .error .noRoom := if_neg (by omega)

theorem lineEnd_ne_nil (cr : Bool) : lineEnd cr ≠ [] := by
  cases cr <;> exact cons_ne_nil _ _

theorem patchText_ne_nil (op tok : List Octet) (endp : Int) (cr : Bool) : patchText op tok endp cr ≠ [] := by
  intro h
  exact lineEnd_ne_nil cr (append_eq_nil_iff.mp h).2

theorem printAt_eq (hne : text ≠ []) (h : out.text.length + text.length ≤ rewriteRoom) :
    ∃ out', out.printAt text = .ok out' ∧ Written true text out out' := by
  have hpos := length_pos_iff.mpr hne
  refine ⟨_, if_pos h, ?_, ?_, ?_, ?_⟩
  · simp only [length_take, length_append, length_drop, length_replicate, length_singleton]
    omega
  · simp only [length_take, length_append, length_drop, length_replicate, length_singleton]
    omega
  · rintro (hfalse | rfl)
    · cases hfalse
    · simp
  · intro _ hl3h
    -- the zero stands behind what was printed, before the new end
    refine mem_iff_getElem?.mpr ⟨out.l3h + text.length, ?_⟩
    rw [getElem?_take_of_lt (by omega), append_assoc _ (out.text.drop _), append_assoc,
      append_assoc, getElem?_append_right (by simp), getElem?_append_right (by simp; omega)]
    simp [Nat.min_eq_left (Nat.le_of_lt hl3h)]

theorem patchMgcp_error {why : RewriteStop} {op tok : List Octet} {endp : Int} {cr : Bool}
    (h : patchResult op tok endp cr = .error why) : patchMgcp out op tok endp cr = .error why := by
  unfold patchResult at h
  unfold patchMgcp
  split at h
  · rw [if_pos ‹_›, Except.error.inj h]
  · cases h

theorem patchMgcp_eq (out : Rewriting) {op tok : List Octet} {endp : Int} {cr : Bool}
    (h : patchResult op tok endp cr = .ok text) :
    patchMgcp out op tok endp cr = out.printAt text ∧ text ≠ [] := by
  unfold patchResult at h
  unfold patchMgcp
  split at h
  · cases h
  · rw [if_neg ‹_›]
    cases h
    exact ⟨rfl, patchText_ne_nil op tok endp cr⟩

/-- The three puts for the address. -/
def putAddress (out : Rewriting) (ip : List Octet) (cr : Bool) : Except RewriteStop Rewriting :=
  ((out.put (octets "c=IN IP4 ")).bind fun out => out.put ip).bind fun out => out.put (lineEnd cr)

theorem putAddress_eq {cr : Bool}
    (h : out.text.length + (octets "c=IN IP4 " ++ ip ++ lineEnd cr).length ≤ rewriteRoom) :
    ∃ out', putAddress out ip cr = .ok out' ∧ Written false (octets "c=IN IP4 " ++ ip ++ lineEnd cr) out out' := by
  simp only [length_append] at h
  have hfirst : out.put (octets "c=IN IP4 ") = .ok ⟨out.text ++ octets "c=IN IP4 ", out.text.length⟩ :=
    if_pos (by omega)
  have hsecond : (Rewriting.mk (out.text ++ octets "c=IN IP4 ") out.text.length).put ip =
      .ok ⟨out.text ++ octets "c=IN IP4 " ++ ip, (out.text ++ octets "c=IN IP4 ").length⟩ :=
    if_pos (by rw [length_append]; omega)
  obtain ⟨out', hlast, hwritten⟩ := put_eq ⟨out.text ++ octets "c=IN IP4 " ++ ip,
    (out.text ++ octets "c=IN IP4 ").length⟩ (lineEnd_ne_nil cr) (by simp only [length_append]; omega)
  refine ⟨out', ?_, ?_, hwritten.l3h, fun _ => ?_, nofun⟩
  · unfold putAddress
    rw [hfirst, Except.bind, hsecond, Except.bind, hlast]
  · rw [hwritten.length]
    simp only [length_append]
    omega
  · rw [hwritten.appended (.inl rfl)]
    simp only [append_assoc]

theorem putAddress_noRoom {cr : Bool}
    (h : rewriteRoom < out.text.length + (octets "c=IN IP4 " ++ ip ++ lineEnd cr).length) :
    putAddress out ip cr = .error .noRoom := by
  simp only [length_append] at h
  unfold putAddress
  by_cases hfirst : out.text.length + (octets "c=IN IP4 ").length ≤ rewriteRoom
  · have hput : out.put (octets "c=IN IP4 ") = .ok ⟨out.text ++ octets "c=IN IP4 ", out.text.length⟩ := if_pos hfirst
    rw [hput, Except.bind]
    by_cases hsecond : (out.text ++ octets "c=IN IP4 ").length + ip.length ≤ rewriteRoom
    · have hput' : (Rewriting.mk (out.text ++ octets "c=IN IP4 ") out.text.length).put ip =
          .ok ⟨out.text ++ octets "c=IN IP4 " ++ ip, (out.text ++ octets "c=IN IP4 ").length⟩ := if_pos hsecond
      rw [hput', Except.bind]
      exact put_noRoom (by simp only [length_append]; omega)
    · rw [put_noRoom (by simpa using hsecond), Except.bind]
  · rw [put_noRoom (by omega)]
    rfl

theorem rewriteLine_error {why : RewriteStop} (h : lineText m endpoint ip port token = .error why) :
    rewriteLine m endpoint ip port out token = .error why := by
  unfold lineText at h
  unfold rewriteLine
  dsimp only at h ⊢
  split at h
  case isTrue hcrcx =>
    rw [if_pos hcrcx]
    exact patchMgcp_error h
  case isFalse hcrcx =>
  rw [if_neg hcrcx]
  split at h
  case isTrue hdlcx =>
    rw [if_pos hdlcx]
    exact patchMgcp_error h
  case isFalse hdlcx =>
  rw [if_neg hdlcx]
  split at h
  case isTrue hmdcx =>
    rw [if_pos hmdcx]
    exact patchMgcp_error h
  case isFalse hmdcx =>
  rw [if_neg hmdcx]
  split at h
  case isTrue hip => cases h
  case isFalse hip =>
  rw [if_neg hip]
  split at h
  case isTrue haud =>
    rw [if_pos haud]
    cases hscan : scanMedia token with
    | none =>
      rw [hscan] at h
      have hwhy : RewriteStop.unreadable = why := Except.error.inj h
      rw [← hwhy]
    | some media =>
      rw [hscan] at h
      cases h
  case isFalse haud => cases h

/-- **A line** is put, if there is room for what is put for it. -/
theorem rewriteLine_ok (out : Rewriting) (h : lineText m endpoint ip port token = .ok text) :
    (out.text.length + text.length ≤ rewriteRoom → ∃ out', rewriteLine m endpoint ip port out token = .ok out' ∧
      Written (m.patches token) text out out') ∧
    (rewriteRoom < out.text.length + text.length → rewriteLine m endpoint ip port out token = .error .noRoom) := by
  have hpatch : ∀ {op cr}, m.patches token = true → patchResult op token endpoint cr = .ok text →
      rewriteLine m endpoint ip port out token = patchMgcp out op token endpoint cr →
      (out.text.length + text.length ≤ rewriteRoom → ∃ out', rewriteLine m endpoint ip port out token = .ok out' ∧
        Written (m.patches token) text out out') ∧
      (rewriteRoom < out.text.length + text.length → rewriteLine m endpoint ip port out token = .error .noRoom) := by
    intro op cr hpatches hresult hline
    obtain ⟨heq, hne⟩ := patchMgcp_eq out hresult
    rw [hline, heq, hpatches]
    exact ⟨printAt_eq hne, fun hroom => if_neg (by omega)⟩
  unfold lineText at h
  unfold rewriteLine at hpatch ⊢
  dsimp only at h hpatch ⊢
  split at h
  case isTrue hcrcx =>
    exact hpatch (by simp [DataModel.patches, hcrcx]) h (if_pos hcrcx)
  case isFalse hcrcx =>
  split at h
  case isTrue hdlcx =>
    exact hpatch (by simp [DataModel.patches, hdlcx]) h ((if_neg hcrcx).trans (if_pos hdlcx))
  case isFalse hdlcx =>
  split at h
  case isTrue hmdcx =>
    exact hpatch (by simp [DataModel.patches, hmdcx]) h
      ((if_neg hcrcx).trans ((if_neg hdlcx).trans (if_pos hmdcx)))
  case isFalse hmdcx =>
  have hpatches : m.patches token = false := by simp [DataModel.patches, hcrcx, hdlcx, hmdcx]
  rw [if_neg hcrcx, if_neg hdlcx, if_neg hmdcx, hpatches]
  split at h
  case isTrue hip =>
    rw [if_pos hip]
    cases h
    exact ⟨putAddress_eq, putAddress_noRoom⟩
  case isFalse hip =>
  rw [if_neg hip]
  split at h
  case isTrue haud =>
    rw [if_pos haud]
    cases hscan : scanMedia token with
    | none =>
      rw [hscan] at h
      cases h
    | some media =>
      rw [hscan] at h
      cases h
      refine ⟨put_eq out fun hnil => ?_, put_noRoom⟩
      exact lineEnd_ne_nil _ (append_eq_nil_iff.mp hnil).2
  case isFalse haud =>
    rw [if_neg haud]
    cases h
    exact ⟨put_eq out (by simp), put_noRoom⟩

end Lines

/-! ## All lines -/

section Run

variable {m : DataModel} {endpoint : Int} {ip : List Octet} {port : Int} {out : Rewriting} {tokens : List (List Octet)}
  {texts : List (List Octet)}

/-- The lines are replaced by these. -/
def LinesReplaced (m : DataModel) (endpoint : Int) (ip : List Octet) (port : Int) :
    List (List Octet) → List (List Octet) → Prop :=
  List.Forall₂ fun token text => lineText m endpoint ip port token = .ok text

/-- The lines can all be put. -/
def LinesFit (m : DataModel) (endpoint : Int) (ip : List Octet) (port : Int) (tokens : List (List Octet)) : Prop :=
  ∃ texts, LinesReplaced m endpoint ip port tokens texts ∧ texts.flatten.length ≤ rewriteRoom

section

variable (h : LinesReplaced m endpoint ip port tokens texts)

include h

theorem run_behind (hl3h : out.l3h < out.text.length)
    (hroom : out.text.length + texts.flatten.length ≤ rewriteRoom) :
    ∃ out', tokens.foldlM (rewriteLine m endpoint ip port) out = .ok out' ∧
      out'.text.length = out.text.length + texts.flatten.length ∧
      ((∀ token ∈ tokens, m.patches token = false) → out'.text = out.text ++ texts.flatten) ∧
      ((∃ token ∈ tokens, m.patches token = true) → 0 ∈ out'.text) := by
  induction h generalizing out with
  | nil => exact ⟨out, rfl, by simp, by simp, by simp⟩
  | @cons token text tokens texts htext hrest ih =>
    rw [flatten_cons, length_append] at hroom
    obtain ⟨mid, hmid, hwritten⟩ := (rewriteLine_ok out htext).1 (by omega)
    have hmidRoom : mid.text.length + texts.flatten.length ≤ rewriteRoom := by
      rw [hwritten.length]
      omega
    obtain ⟨out', hout', hlength, hplain, hpatched⟩ := ih hwritten.l3h hmidRoom
    refine ⟨out', ?_, ?_, fun hall => ?_, ?_⟩
    · rw [foldlM_cons, hmid]
      exact hout'
    · rw [hlength, hwritten.length, flatten_cons, length_append]
      omega
    · rw [hplain fun t ht => hall t (mem_cons_of_mem _ ht),
        hwritten.appended (.inl (hall token mem_cons_self)), flatten_cons, append_assoc]
    · rintro ⟨t, ht, hpatches⟩
      by_cases hlater : ∃ t ∈ tokens, m.patches t = true
      · exact hpatched hlater
      · have hnone : ∀ t ∈ tokens, m.patches t = false := by
          intro t' ht'
          by_contra hne
          exact hlater ⟨t', ht', by simpa using hne⟩
        have hfirst : m.patches token = true := by
          rcases mem_cons.mp ht with heq | hmem
          · rwa [← heq]
          · rw [hnone t hmem] at hpatches
            cases hpatches
        rw [hplain hnone]
        exact mem_append_left _ (hwritten.overwritten hfirst hl3h)

/-- **All lines of a message**, if they can be put. -/
theorem run_fits (hroom : texts.flatten.length ≤ rewriteRoom) :
    ∃ out', tokens.foldlM (rewriteLine m endpoint ip port) {} = .ok out' ∧
      ((∀ token ∈ tokens.tail, m.patches token = false) → out'.text = texts.flatten) ∧
      ((∃ token ∈ tokens.tail, m.patches token = true) → 0 ∈ out'.text) := by
  cases h with
  | nil => exact ⟨{}, rfl, by simp, by simp⟩
  | @cons token text tokens texts htext hrest =>
    rw [flatten_cons, length_append] at hroom
    obtain ⟨mid, hmid, hwritten⟩ := (rewriteLine_ok {} htext).1 (by simp; omega)
    have hlen : mid.text.length = text.length := by
      rw [hwritten.length]
      simp
    obtain ⟨out', hout', -, hplain, hpatched⟩ := run_behind hrest hwritten.l3h (by omega)
    refine ⟨out', ?_, fun hall => ?_, hpatched⟩
    · rw [foldlM_cons, hmid]
      exact hout'
    · rw [hplain hall, hwritten.appended (.inr rfl)]
      rfl

theorem run_noRoom
    (hroom : rewriteRoom < out.text.length + texts.flatten.length) (hout : out.text.length ≤ rewriteRoom) :
    tokens.foldlM (rewriteLine m endpoint ip port) out = .error .noRoom := by
  induction h generalizing out with
  | nil =>
    simp only [flatten_nil, length_nil] at hroom
    omega
  | @cons token text tokens texts htext hrest ih =>
    rw [flatten_cons, length_append] at hroom
    by_cases hfits : out.text.length + text.length ≤ rewriteRoom
    · obtain ⟨mid, hmid, hwritten⟩ := (rewriteLine_ok out htext).1 hfits
      rw [foldlM_cons, hmid]
      exact ih (by rw [hwritten.length]; omega) (by rw [hwritten.length]; exact hfits)
    · rw [foldlM_cons, (rewriteLine_ok out htext).2 (by omega)]
      rfl

end

/-- All lines are replaced, or there is a first one at which the loop would end. -/
theorem replaced_or_stop (m : DataModel) (endpoint : Int) (ip : List Octet) (port : Int) (tokens : List (List Octet)) :
    (∃ texts, LinesReplaced m endpoint ip port tokens texts) ∨
    ∃ front token rest why texts, tokens = front ++ token :: rest ∧ LinesReplaced m endpoint ip port front texts ∧
      lineText m endpoint ip port token = .error why := by
  induction tokens with
  | nil => exact .inl ⟨[], .nil⟩
  | cons token tokens ih =>
    cases htext : lineText m endpoint ip port token with
    | error why => exact .inr ⟨[], token, tokens, why, [], rfl, .nil, htext⟩
    | ok text =>
      rcases ih with ⟨texts, htexts⟩ | ⟨front, stop, rest, why, texts, rfl, hfront, hstop⟩
      · exact .inl ⟨text :: texts, .cons htext htexts⟩
      · exact .inr ⟨token :: front, stop, rest, why, text :: texts, rfl, .cons htext hfront, hstop⟩

/-- The loop ends at the first line that cannot be replaced, if there is room for those before it. -/
theorem run_stop {front rest : List (List Octet)} {token : List Octet} {why : RewriteStop}
    (hfront : LinesReplaced m endpoint ip port front texts) (hstop : lineText m endpoint ip port token = .error why) :
    (front ++ token :: rest).foldlM (rewriteLine m endpoint ip port) {} =
      .error (if texts.flatten.length ≤ rewriteRoom then why else .noRoom) := by
  rw [foldlM_append]
  split
  case isTrue hroom =>
    obtain ⟨out', hout', -⟩ := run_fits hfront hroom
    rw [hout']
    show (token :: rest).foldlM (rewriteLine m endpoint ip port) out' = _
    rw [foldlM_cons, rewriteLine_error hstop]
    rfl
  case isFalse hroom =>
    rw [run_noRoom hfront (by rw [length_nil]; omega) (Nat.zero_le _)]
    rfl

/-- **A message is given up** at an audio line that cannot be read, if there is room for the lines before it. -/
def GivenUp (m : DataModel) (endpoint : Int) (ip : List Octet) (port : Int) (tokens : List (List Octet)) : Prop :=
  ∃ front token rest, tokens = front ++ token :: rest ∧ LinesFit m endpoint ip port front ∧
    lineText m endpoint ip port token = .error .unreadable

theorem run_ok_iff : (∃ out', tokens.foldlM (rewriteLine m endpoint ip port) {} = .ok out') ↔
    LinesFit m endpoint ip port tokens := by
  constructor
  · rintro ⟨out', hout'⟩
    rcases replaced_or_stop m endpoint ip port tokens with
      ⟨texts, htexts⟩ | ⟨front, token, rest, why, texts, rfl, hfront, hstop⟩
    · by_contra hfits
      have hroom : rewriteRoom < texts.flatten.length := Nat.lt_of_not_le fun hle => hfits ⟨texts, htexts, hle⟩
      rw [run_noRoom htexts (by rw [length_nil]; omega) (Nat.zero_le _)] at hout'
      cases hout'
    · rw [run_stop hfront hstop] at hout'
      cases hout'
  · rintro ⟨texts, htexts, hroom⟩
    obtain ⟨out', hout', -⟩ := run_fits htexts hroom
    exact ⟨out', hout'⟩

/-- **NULL** is returned for a message that is too long, or is given up. -/
theorem bscMgcpRewrite_null_iff {input : List Octet} :
    bscMgcpRewrite m input endpoint ip port = .null ↔
      4096 - 128 < input.length ∨ GivenUp m endpoint ip port (messageLines input) := by
  unfold bscMgcpRewrite
  by_cases hlong : 4096 - 128 < input.length
  · simp [hlong]
  rw [if_neg hlong, or_iff_right hlong]
  constructor
  · intro hnull
    rcases replaced_or_stop m endpoint ip port (messageLines input) with
      ⟨texts, htexts⟩ | ⟨front, token, rest, why, texts, heq, hfront, hstop⟩
    · by_cases hroom : texts.flatten.length ≤ rewriteRoom
      · obtain ⟨out', hout', -⟩ := run_fits htexts hroom
        rw [hout'] at hnull
        cases hnull
      · rw [run_noRoom htexts (by rw [length_nil]; omega) (Nat.zero_le _)] at hnull
        cases hnull
    · rw [heq, run_stop hfront hstop] at hnull
      by_cases hroom : texts.flatten.length ≤ rewriteRoom
      · rw [if_pos hroom] at hnull
        cases why with
        | unreadable => exact ⟨front, token, rest, heq, ⟨texts, hfront, hroom⟩, hstop⟩
        | overrun | noRoom => cases hnull
      · rw [if_neg hroom] at hnull
        cases hnull
  · rintro ⟨front, token, rest, heq, ⟨texts, hfront, hroom⟩, hstop⟩
    rw [heq, run_stop hfront hstop, if_pos hroom]
    rfl

/-- **A message** is returned if all its lines can be put. -/
theorem bscMgcpRewrite_fits {input : List Octet} (hshort : ¬ 4096 - 128 < input.length)
    (h : LinesReplaced m endpoint ip port (messageLines input) texts) (hroom : texts.flatten.length ≤ rewriteRoom) :
    ∃ text, bscMgcpRewrite m input endpoint ip port = .message text ∧
      ((∀ token ∈ (messageLines input).tail, m.patches token = false) → text = texts.flatten) ∧
      ((∃ token ∈ (messageLines input).tail, m.patches token = true) → 0 ∈ text) := by
  obtain ⟨out', hout', hplain, hpatched⟩ := run_fits h hroom
  refine ⟨out'.text, ?_, hplain, hpatched⟩
  unfold bscMgcpRewrite
  rw [if_neg hshort, hout']
  rfl

theorem fits_of_message {input text : List Octet} (h : bscMgcpRewrite m input endpoint ip port = .message text) :
    LinesFit m endpoint ip port (messageLines input) := by
  rw [← run_ok_iff]
  unfold bscMgcpRewrite at h
  split at h
  · cases h
  · cases hrun : (messageLines input).foldlM (rewriteLine m endpoint ip port) {} with
    | ok out => exact ⟨out, rfl⟩
    | error why =>
      rw [hrun] at h
      cases why <;> cases h

end Run

end OpenBsc.OsmoBscNat
