import OpenBsc.Mgcp.Message

/-!
# `Mgcp.Lines` — a request as lines

A request is a header line and parameter lines, each ended by a carriage return and a line feed or by a line feed
alone. The header reads the same either way. The zero behind its fourth word can take the place of what ends the line:
of the carriage return, or of the line feed itself, and then the loop over the parameters takes the first of them for
the rest of the header.
-/

namespace OpenBsc.Mgcp

open List

/-! ## Renderings -/

/-- What ends a line. -/
inductive LineEnd where
  | crlf
  | lf
  deriving DecidableEq

/-- What stands before the line feed. -/
def LineEnd.before : LineEnd → List Octet
  | .crlf => [carriageReturn]
  | .lf => []

/-- Lines, each with its end. -/
def render (e : LineEnd) (lines : List (List Octet)) : List Octet :=
  lines.flatMap fun line => line ++ e.before ++ [lineFeed]

/-- A line holds nothing that ends lines. -/
def Plain (line : List Octet) : Prop := carriageReturn ∉ line ∧ lineFeed ∉ line

instance : DecidablePred Plain := fun line => inferInstanceAs (Decidable (carriageReturn ∉ line ∧ lineFeed ∉ line))

/-- Every carriage return with a line feed becomes a line feed. -/
def replaceCrlf : List Octet → List Octet
  | [] => []
  | o :: rest =>
    if o = carriageReturn ∧ rest.head? = some lineFeed then replaceCrlf rest else o :: replaceCrlf rest

theorem replaceCrlf_line {line : List Octet} (h : Plain line) (rest : List Octet) :
    replaceCrlf (line ++ carriageReturn :: lineFeed :: rest) = line ++ lineFeed :: replaceCrlf rest := by
  induction line with
  | nil =>
    have hlf : lineFeed ≠ carriageReturn := by decide
    simp [replaceCrlf, hlf]
  | cons o line ih =>
    obtain ⟨hcr, hlf⟩ := h
    simp only [mem_cons, not_or] at hcr hlf
    simp only [cons_append, replaceCrlf]
    rw [if_neg (fun heq => hcr.1 heq.1.symm), ih ⟨hcr.2, hlf.2⟩]

/-- **Replacing the line ends** of a request turns one rendering into the other. -/
theorem replaceCrlf_render {lines : List (List Octet)} (h : ∀ line ∈ lines, Plain line) :
    replaceCrlf (render .crlf lines) = render .lf lines := by
  induction lines with
  | nil => rfl
  | cons line lines ih =>
    obtain ⟨hline, hlines⟩ := forall_mem_cons.mp h
    have hrest := ih hlines
    simp only [render, flatMap_cons, LineEnd.before, append_assoc, cons_append, nil_append] at hrest ⊢
    rw [replaceCrlf_line hline, hrest]

/-! ## Words -/

variable {h : List Octet}

/-- The words of a header do not depend on what ends the line, or on what follows. -/
theorem msgPointers_line (hh : Plain h) {o : Octet} (ho : o = carriageReturn ∨ o = lineFeed) (rest : List Octet)
    (i : Nat) (word : Option Nat) (room : Nat) :
    msgPointers i word room (h ++ o :: rest) = msgPointers i word room (h ++ [lineFeed]) := by
  induction h generalizing i word room with
  | nil =>
    have hends : o = space ∨ o = carriageReturn ∨ o = lineFeed := .inr ho
    simp only [nil_append, msgPointers, if_pos hends, if_pos ho]
    simp
  | cons c h ih =>
    obtain ⟨hcr, hlf⟩ := hh
    simp only [mem_cons, not_or] at hcr hlf
    have hc : ¬ (c = carriageReturn ∨ c = lineFeed) := by
      rintro (rfl | rfl)
      · exact hcr.1 rfl
      · exact hlf.1 rfl
    simp only [cons_append, msgPointers, if_neg hc, ih ⟨hcr.2, hlf.2⟩]

/-- The words lie in a line from `lo` to `hi`, each behind the one before it. -/
structure WordsIn (lo hi : Nat) (ptrs : List MgcpMsgPtr) : Prop where
  lower : ∀ p ∈ ptrs, lo ≤ p.start
  inside : ∀ p ∈ ptrs, p.start < p.stop ∧ p.stop ≤ hi
  sorted : ptrs.Pairwise fun p q => p.stop < q.start

theorem WordsIn.nil (lo hi : Nat) : WordsIn lo hi [] :=
  ⟨fun _ hp => (not_mem_nil hp).elim, fun _ hp => (not_mem_nil hp).elim, .nil⟩

variable {ptrs : List MgcpMsgPtr}

theorem WordsIn.cons {lo start i hi : Nat} (h : WordsIn (i + 1) hi ptrs) (hlo : lo ≤ start) (hi' : start < i)
    (hhi : i ≤ hi) : WordsIn lo hi (⟨start, i - start - 1⟩ :: ptrs) := by
  have hstop : (MgcpMsgPtr.mk start (i - start - 1)).stop = i := by
    simp only [MgcpMsgPtr.stop]
    omega
  refine ⟨fun p hp => ?_, fun p hp => ?_, ?_⟩
  · rcases mem_cons.mp hp with rfl | hp
    · exact hlo
    · have := h.lower p hp
      omega
  · rcases mem_cons.mp hp with rfl | hp
    · rw [hstop]
      exact ⟨hi', hhi⟩
    · exact h.inside p hp
  · refine pairwise_cons.mpr ⟨fun p hp => ?_, h.sorted⟩
    rw [hstop]
    exact h.lower p hp

theorem WordsIn.mono {lo lo' hi hi' : Nat} (h : WordsIn lo hi ptrs) (hlo : lo' ≤ lo) (hhi : hi ≤ hi') :
    WordsIn lo' hi' ptrs :=
  ⟨fun p hp => hlo.trans (h.lower p hp), fun p hp => ⟨(h.inside p hp).1, (h.inside p hp).2.trans hhi⟩, h.sorted⟩

theorem wordsIn_msgPointers (h : List Octet) (i : Nat) (word : Option Nat) (room : Nat) (hword : ∀ w ∈ word, w < i) :
    WordsIn (word.getD i) (i + h.length) (msgPointers i word room (h ++ [lineFeed])) := by
  induction h generalizing i word room with
  | nil =>
    simp only [nil_append, msgPointers, or_true, if_true]
    split
    · exact .nil _ _
    · cases word with
      | none => exact .nil _ _
      | some start => exact (WordsIn.nil _ _).cons le_rfl (hword start rfl) (by simp)
  | cons c h ih =>
    simp only [cons_append, msgPointers]
    split
    · exact .nil _ _
    · split
      · have hmore : ∀ room, WordsIn (i + 1) (i + (c :: h).length)
            (if c = carriageReturn ∨ c = lineFeed then [] else msgPointers (i + 1) none room (h ++ [lineFeed])) := by
          intro room
          split
          · exact .nil _ _
          · exact (ih (i + 1) none room (fun w hw => by cases hw)).mono le_rfl (by simp; omega)
        cases word with
        | none => exact (hmore room).mono (by simp) le_rfl
        | some start => exact (hmore _).cons le_rfl (hword start rfl) (by simp)
      · refine (ih (i + 1) (some (word.getD i)) room ?_).mono ?_ (by simp; omega)
        · intro w hw
          cases hw
          cases word with
          | none => exact Nat.lt_succ_self i
          | some start => exact Nat.lt_succ_of_lt (hword start rfl)
        · cases word <;> simp

/-! ## Header -/

/-- The words of a header line. -/
def headerWords (h : List Octet) : Option (List MgcpMsgPtr) := findMsgPointers (h ++ [lineFeed]) 6

theorem findMsgPointers_line (hh : Plain h) {o : Octet} (ho : o = carriageReturn ∨ o = lineFeed) (rest : List Octet) :
    findMsgPointers (h ++ o :: rest) 6 = headerWords h := by
  simp only [headerWords, findMsgPointers, msgPointers_line hh ho rest]

theorem wordsIn_headerWords (hw : headerWords h = some ptrs) : WordsIn 0 h.length ptrs := by
  simp only [headerWords, findMsgPointers] at hw
  split at hw
  · cases hw
  · cases hw
    exact (wordsIn_msgPointers h 0 none 6 (fun w hw => by cases hw)).mono le_rfl (by simp)

/-- What precedes the zero behind the fourth word, with zeros behind the other three. -/
def headerFront (h : List Octet) (p0 p1 p2 p3 : MgcpMsgPtr) : List Octet :=
  terminate [p0, p1, p2] (h.take p3.stop)

/-- What follows that zero: the rest of the line with what ends it, and what is behind it. -/
def behindWords (h : List Octet) (p3 : MgcpMsgPtr) (o : Octet) (rest : List Octet) : List Octet :=
  (h.drop p3.stop ++ o :: rest).tail

theorem length_terminate (ptrs : List MgcpMsgPtr) (buf : List Octet) : (terminate ptrs buf).length = buf.length := by
  induction ptrs with
  | nil => rfl
  | cons p ptrs ih => rw [terminate, foldr_cons, length_set]; exact ih

theorem terminate_append {buf : List Octet} (h : ∀ p ∈ ptrs, p.stop < buf.length) (rest : List Octet) :
    terminate ptrs (buf ++ rest) = terminate ptrs buf ++ rest := by
  induction ptrs with
  | nil => rfl
  | cons p ptrs ih =>
    obtain ⟨hp, hptrs⟩ := forall_mem_cons.mp h
    have hrest := ih hptrs
    simp only [terminate, foldr_cons] at hrest ⊢
    rw [hrest, set_append_left]
    have hlen := length_terminate ptrs buf
    simp only [terminate] at hlen
    omega

/-- **The header in the buffer**, whatever ends its line. -/
theorem terminate_line {p0 p1 p2 p3 : MgcpMsgPtr} {more : List MgcpMsgPtr}
    (hw : WordsIn 0 h.length (p0 :: p1 :: p2 :: p3 :: more)) (o : Octet) (rest : List Octet) :
    terminate [p0, p1, p2, p3] (h ++ o :: rest) = headerFront h p0 p1 p2 p3 ++ 0 :: behindWords h p3 o rest ∧
      (headerFront h p0 p1 p2 p3).length = p3.stop := by
  have hlen : (h.take p3.stop).length = p3.stop := by
    rw [length_take]
    have := (hw.inside p3 (by simp)).2
    omega
  have hset : (h ++ o :: rest).set p3.stop 0 = h.take p3.stop ++ 0 :: behindWords h p3 o rest := by
    conv_lhs => rw [← take_append_drop p3.stop h, append_assoc]
    rw [set_append_right _ _ (le_of_eq hlen), hlen, Nat.sub_self, behindWords]
    cases h.drop p3.stop <;> rfl
  obtain ⟨h0, hsorted⟩ := pairwise_cons.mp hw.sorted
  obtain ⟨h1, hsorted⟩ := pairwise_cons.mp hsorted
  obtain ⟨h2, -⟩ := pairwise_cons.mp hsorted
  have h01 := h0 p1 (by simp)
  have h12 := h1 p2 (by simp)
  have h23 := h2 p3 (by simp)
  have hin1 := (hw.inside p1 (by simp)).1
  have hin2 := (hw.inside p2 (by simp)).1
  have hin3 := (hw.inside p3 (by simp)).1
  refine ⟨?_, by rw [headerFront, length_terminate, hlen]⟩
  show terminate [p0, p1, p2] ((h ++ o :: rest).set p3.stop 0) = _
  rw [hset, terminate_append]
  · rfl
  · rw [hlen]
    intro p hp
    simp only [mem_cons, not_mem_nil, or_false] at hp
    rcases hp with rfl | rfl | rfl <;> omega

theorem getElem?_terminate {buf : List Octet} {p : MgcpMsgPtr} (hp : p ∈ ptrs) (hlen : p.stop < buf.length) :
    (terminate ptrs buf)[p.stop]? = some 0 := by
  induction ptrs with
  | nil => cases hp
  | cons q ptrs ih =>
    show ((terminate ptrs buf).set q.stop 0)[p.stop]? = some 0
    rw [getElem?_set]
    split
    · rw [if_pos (by rw [length_terminate]; omega)]
    · next hne =>
        rcases mem_cons.mp hp with rfl | hp
        · exact absurd rfl hne
        · exact ih hp

variable (e : LineEnd) (cfg : MgcpConfig) (cur rest : List Octet)

/-- The name of an endpoint ends at a zero, and nothing behind the header line is read. -/
theorem MgcpConfig.findEndpoint_zero {name : List Octet} (hname : 0 ∈ name) (rest : List Octet) :
    cfg.findEndpoint (name ++ 0 :: rest) = cfg.findEndpoint name := by
  unfold MgcpConfig.findEndpoint
  rw [isPrefixOf_zero (by decide)]
  split
  · next hprefix =>
      obtain ⟨t, rfl⟩ := isPrefixOf_iff_prefix.mp hprefix
      have ht : t ≠ [] := by
        rintro rfl
        revert hname
        decide
      have hlen : 6 ≤ (octets "ds/e1" ++ t).length := by
        have hpos := length_pos_iff.mpr ht
        have hfive : (octets "ds/e1").length = 5 := by decide
        rw [length_append]
        omega
      unfold MgcpConfig.findE1Endpoint
      rw [drop_append_of_le_length hlen, strtoul_zero]
      generalize strtoul 10 ((octets "ds/e1" ++ t).drop 6) = trunk
      obtain ⟨nr, left⟩ := trunk
      dsimp only
      have hslash : (left ++ 0 :: rest).head? ≠ some (octetOf '/') ↔ left.head? ≠ some (octetOf '/') :=
        not_congr (head?_zero (by decide) left rest)
      simp only [hslash]
      split
      · rfl
      · next hleft =>
          cases left with
          | nil => simp at hleft
          | cons c left =>
            rw [cons_append, tail_cons, tail_cons, strtoul_zero]
            have hat : ((strtoul 10 left).2 ++ 0 :: rest).head? ≠ some (octetOf '@') ↔
                (strtoul 10 left).2.head? ≠ some (octetOf '@') :=
              not_congr (head?_zero (by decide) _ rest)
            simp only [hat]
  · rw [strtoul_zero]
    simp only [cString_zero]

/-- The first four words, where the header has four or five. -/
def fourWords (h : List Octet) : Option (MgcpMsgPtr × MgcpMsgPtr × MgcpMsgPtr × MgcpMsgPtr) :=
  match headerWords h with
  | some (p0 :: p1 :: p2 :: p3 :: _) => some (p0, p1, p2, p3)
  | _ => none

/-- What the words say: the transaction and the endpoint. -/
def readWords (cfg : MgcpConfig) (front : List Octet) (p0 p1 p2 p3 : MgcpMsgPtr) : List Octet × Option EndpRef :=
  if (octets "1.0").isPrefixOf (front.drop p3.start) ∧ (octets "MGCP").isPrefixOf (front.drop p2.start) then
    (cString (front.drop p0.start), cfg.findEndpoint (front.drop p1.start))
  else (octets "000000", none)

/-- **The header of a request.** What is read depends on its line alone. -/
theorem mgcpAnalyzeHeader_words {p0 p1 p2 p3 : MgcpMsgPtr} (hh : Plain h)
    (hw : fourWords h = some (p0, p1, p2, p3)) {o : Octet} (ho : o = carriageReturn ∨ o = lineFeed)
    (rest : List Octet) :
    mgcpAnalyzeHeader cfg (h ++ o :: rest) =
      ⟨(readWords cfg (headerFront h p0 p1 p2 p3) p0 p1 p2 p3).1,
        (readWords cfg (headerFront h p0 p1 p2 p3) p0 p1 p2 p3).2,
        headerFront h p0 p1 p2 p3 ++ 0 :: behindWords h p3 o rest⟩ := by
  obtain ⟨more, hwords⟩ : ∃ more, headerWords h = some (p0 :: p1 :: p2 :: p3 :: more) := by
    unfold fourWords at hw
    split at hw
    · next heq =>
        cases hw
        exact ⟨_, heq⟩
    · cases hw
  have hin := wordsIn_headerWords hwords
  obtain ⟨hbuf, hlen⟩ := terminate_line hin o rest
  obtain ⟨h0, hsorted⟩ := pairwise_cons.mp hin.sorted
  obtain ⟨h1, hsorted⟩ := pairwise_cons.mp hsorted
  obtain ⟨h2, -⟩ := pairwise_cons.mp hsorted
  have h01 := h0 p1 (by simp)
  have h12 := h1 p2 (by simp)
  have h23 := h2 p3 (by simp)
  have hin0 := (hin.inside p0 (by simp)).1
  have hin1 := (hin.inside p1 (by simp)).1
  have hin2 := (hin.inside p2 (by simp)).1
  have hin3 := (hin.inside p3 (by simp)).1
  have hdrop : ∀ k ≤ p3.stop, (headerFront h p0 p1 p2 p3 ++ 0 :: behindWords h p3 o rest).drop k =
      (headerFront h p0 p1 p2 p3).drop k ++ 0 :: behindWords h p3 o rest :=
    fun k hk => drop_append_of_le_length (by omega)
  -- the name of the endpoint is ended by a zero of its own
  have hname : 0 ∈ (headerFront h p0 p1 p2 p3).drop p1.start := by
    have hzero : (headerFront h p0 p1 p2 p3)[p1.stop]? = some 0 := by
      refine getElem?_terminate (by simp) ?_
      rw [headerFront, length_terminate] at hlen
      omega
    refine mem_of_getElem? (i := p1.stop - p1.start) ?_
    rw [getElem?_drop, Nat.add_sub_cancel' (le_of_lt hin1)]
    exact hzero
  simp only [mgcpAnalyzeHeader, findMsgPointers_line hh ho, hwords, hbuf]
  rw [hdrop p0.start (by omega), hdrop p1.start (by omega), hdrop p2.start (by omega), hdrop p3.start (by omega),
    isPrefixOf_zero (by decide), isPrefixOf_zero (by decide), cString_zero, cfg.findEndpoint_zero hname]
  unfold readWords
  split <;> rfl

theorem mgcpAnalyzeHeader_refused (hh : Plain h) (hw : fourWords h = none) {o : Octet}
    (ho : o = carriageReturn ∨ o = lineFeed) (rest : List Octet) :
    mgcpAnalyzeHeader cfg (h ++ o :: rest) = ⟨octets "000000", none, h ++ o :: rest⟩ := by
  unfold mgcpAnalyzeHeader
  rw [findMsgPointers_line hh ho]
  unfold fourWords at hw
  split
  · next heq =>
      rw [heq] at hw
      cases hw
  · rfl

/-- The header of a request with this line. -/
def requestHeader (cfg : MgcpConfig) (h : List Octet) : MgcpHeader := mgcpAnalyzeHeader cfg (h ++ [lineFeed])

theorem render_cons (lines : List (List Octet)) :
    render e (cur :: lines) = cur ++ (e.before ++ lineFeed :: render e lines) := by
  simp [render]

/-- What ends a line begins with an octet that ends lines. -/
theorem before_cons :
    ∃ o after, (o = carriageReturn ∨ o = lineFeed) ∧ e.before ++ lineFeed :: rest = o :: after := by
  cases e
  · exact ⟨carriageReturn, _, .inl rfl, rfl⟩
  · exact ⟨lineFeed, _, .inr rfl, rfl⟩

/-- **The header depends on its line alone.** -/
theorem header_render (hh : Plain h) (params : List (List Octet)) :
    (mgcpAnalyzeHeader cfg (render e (h :: params))).trans = (requestHeader cfg h).trans ∧
      (mgcpAnalyzeHeader cfg (render e (h :: params))).endp = (requestHeader cfg h).endp := by
  obtain ⟨o, after, ho, hend⟩ := before_cons e (render e params)
  rw [render_cons, hend, requestHeader]
  cases hw : fourWords h with
  | none =>
    rw [mgcpAnalyzeHeader_refused cfg hh hw ho, mgcpAnalyzeHeader_refused cfg hh hw (.inr rfl)]
    exact ⟨rfl, rfl⟩
  | some p =>
    rw [mgcpAnalyzeHeader_words cfg hh hw ho, mgcpAnalyzeHeader_words cfg hh hw (.inr rfl)]
    exact ⟨rfl, rfl⟩

theorem not_mem_before : lineFeed ∉ e.before := by
  cases e <;> decide

end OpenBsc.Mgcp
