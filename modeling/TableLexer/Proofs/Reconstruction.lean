import TableLexer.Proofs.Scans

/-!
# Reconstruction of a source

A token is written in the source as its lexeme, between quotes if it is a string literal. Main
statement: every span covers the written form of its token, tokens stand in order without
overlap, and what lies before, between and behind them is white space, so that written forms and
white space give the source back.
-/

namespace TableLexer

open Grammar

/-- How a token is written in its source. -/
def Token.spelling (token : Token) : Text :=
  if token.kind = .string then '"' :: (token.lexeme ++ ['"']) else token.lexeme

/-- A span begins and ends between characters, and covers the part in between. -/
def Span.Covers (span : Span) (source part : Text) : Prop :=
  ∃ before after, source = before ++ (part ++ after) ∧ span.start = Text.byteLength before ∧
    span.stop = Text.byteLength before + Text.byteLength part

/-- A span that covers a part cuts it out. -/
theorem Span.Covers.slice?_eq {span : Span} {source part : Text} (h : span.Covers source part) :
    span.slice? source = some part := by
  obtain ⟨before, after, rfl, hb, he⟩ := h
  rw [Span.slice?, hb, he, Text.sliceBytes?_append]

/-- The byte ranges before, between and behind tokens, from an offset to an offset. -/
def gapBounds (start : Nat) : List Token → Nat → List (Nat × Nat)
  | [], stop => [(start, stop)]
  | token :: tokens, stop => (start, token.span.start) :: gapBounds token.span.stop tokens stop

/-- Gaps and parts in turn, beginning with a gap. -/
def weave : List Text → List Text → Text
  | gap :: gaps, part :: parts => gap ++ (part ++ weave gaps parts)
  | gaps, [] => gaps.flatten
  | [], parts => parts.flatten

/-- The quotes of a literal are stripped and nothing else. -/
theorem stripQuotes_literal (body : Text) : stripQuotes ('"' :: (body ++ ['"'])) = body := by
  have hl : ('"' :: (body ++ ['"'])).getLast? = some '"' := by
    rw [← List.cons_append, List.getLast?_concat]
  rw [stripQuotes, if_pos ⟨by simp, rfl, hl⟩, List.tail_cons, List.dropLast_concat]

/-- A token is written as the text that its attempt took. -/
theorem spelling_token {lexicon : Lexicon} {covered rest : Text} {finished : Finished}
    (hc : Attempt.idle.Completes lexicon covered finished rest)
    (hl : covered.length ≤ nestingLimit) (mark : Mark) :
    (finished.token lexicon mark).spelling = covered := by
  have ht : finished.text = covered := hc.text_eq
  have hx := (hc.isLexeme_of_idle hl).1
  obtain ⟨category, text⟩ := finished
  obtain rfl : text = covered := ht
  rw [Token.spelling, Finished.token]
  dsimp only
  by_cases hs : category = .string
  · subst hs
    obtain ⟨body, rfl, -⟩ := isLiteral_iff.mp hx
    have hk : lexicon.kindOf ('"' :: (body ++ ['"'])) .string = .string := rfl
    rw [if_pos hk, if_pos hk, stripQuotes_literal]
  · have hk : lexicon.kindOf text category ≠ .string := fun hk =>
      hs (Lexicon.eq_category_of_kindOf hk (by decide))
    rw [if_neg hk, if_neg hk]

/-- The first token of a scan behind a passed part and a gap, with a rest ahead. -/
structure Front (lexicon : Lexicon) (mark : Mark) (passed gap rest : Text) (token : Token)
    (tokens : List Token) : Prop where
  /-- The gap is white space. -/
  blank : ∀ char ∈ gap, Text.isBlank char = true
  /-- The token is written with one character at least. -/
  ne_nil : token.spelling ≠ []
  /-- It begins behind the gap. -/
  start : token.span.start = Text.byteLength (passed ++ gap)
  /-- It ends behind its written form. -/
  stop : token.span.stop = Text.byteLength (passed ++ gap ++ token.spelling)
  /-- There the rest begins. -/
  position : ((mark.afterAll gap).afterAll token.spelling).position =
    Text.byteLength (passed ++ gap ++ token.spelling)
  /-- The nesting of comments can be counted in the rest. -/
  short : rest.length ≤ nestingLimit
  /-- The other tokens are those of the rest. -/
  scans : Scans lexicon ((mark.afterAll gap).afterAll token.spelling) rest tokens

namespace Scans

variable {lexicon : Lexicon} {mark : Mark} {text passed : Text} {tokens : List Token}

/-- A text with tokens is a gap, the written form of the first one, and a rest. -/
theorem exists_front {token : Token} (h : Scans lexicon mark text (token :: tokens))
    (hp : mark.position = Text.byteLength passed) (hl : text.length ≤ nestingLimit) :
    ∃ gap rest, text = gap ++ (token.spelling ++ rest) ∧
      Front lexicon mark passed gap rest token tokens := by
  obtain ⟨gap, covered, finished, rest, rfl, hb, hc, rfl, hs⟩ := h.exists_of_cons
  rw [List.length_append, List.length_append] at hl
  have hw := spelling_token hc (by omega) (mark.afterAll gap)
  have ht : finished.text = covered := hc.text_eq
  refine ⟨gap, rest, by rw [hw], hb, ?_, ?_, ?_, ?_, by omega, ?_⟩
  · rw [hw]
    exact hc.ne_nil
  · simp [Finished.token, hp]
  · rw [hw]
    simp [Finished.token, hp, ht, Nat.add_assoc]
  · simp [hp, Nat.add_assoc]
  · rwa [hw]

/-- Every span covers the written form of its token, which is not empty. -/
theorem covers (h : Scans lexicon mark text tokens) (hp : mark.position = Text.byteLength passed)
    (hl : text.length ≤ nestingLimit) :
    ∀ token ∈ tokens, mark.position ≤ token.span.start ∧ token.span.start < token.span.stop ∧
      token.span.Covers (passed ++ text) token.spelling := by
  induction tokens generalizing mark passed text with
  | nil => simp
  | cons first tokens ih =>
    obtain ⟨gap, rest, rfl, hf⟩ := h.exists_front hp hl
    have hpos := Text.byteLength_pos hf.ne_nil
    have hstart := hf.start
    have hstop := hf.stop
    rw [Text.byteLength_append] at hstop
    intro token hm
    rcases List.mem_cons.mp hm with rfl | hm
    · refine ⟨?_, by omega, passed ++ gap, rest, by simp, hstart, hstop⟩
      rw [hstart, hp, Text.byteLength_append]
      exact Nat.le_add_right _ _
    · obtain ⟨hle, hlt, hc⟩ := ih hf.scans hf.position hf.short token hm
      refine ⟨?_, hlt, ?_⟩
      · simp only [Mark.afterAll_position] at hle
        omega
      · simpa using hc

/-- No token begins before the one in front of it has ended. -/
theorem ordered (h : Scans lexicon mark text tokens) (hp : mark.position = Text.byteLength passed)
    (hl : text.length ≤ nestingLimit) :
    tokens.Pairwise fun first second => first.span.stop ≤ second.span.start := by
  induction tokens generalizing mark passed text with
  | nil => exact .nil
  | cons first tokens ih =>
    obtain ⟨gap, rest, rfl, hf⟩ := h.exists_front hp hl
    refine .cons (fun token hm => ?_) (ih hf.scans hf.position hf.short)
    rw [hf.stop, ← hf.position]
    exact (hf.scans.covers hf.position hf.short token hm).1

/-- White space fills the gaps, and the text is woven from them and the written forms. -/
theorem exists_gaps (h : Scans lexicon mark text tokens)
    (hp : mark.position = Text.byteLength passed) (hl : text.length ≤ nestingLimit) :
    ∃ gaps, (gapBounds mark.position tokens (Text.byteLength (passed ++ text))).map
        (fun bounds => Text.sliceBytes? (passed ++ text) bounds.1 bounds.2) = gaps.map some ∧
      (∀ gap ∈ gaps, ∀ char ∈ gap, Text.isBlank char = true) ∧
      weave gaps (tokens.map Token.spelling) = text := by
  induction tokens generalizing mark passed text with
  | nil =>
    have hs := Text.sliceBytes?_append passed text []
    rw [List.append_nil] at hs
    refine ⟨[text], ?_, by simpa using h.isBlank_of_nil, by simp [weave]⟩
    simp [gapBounds, hp, hs]
  | cons first tokens ih =>
    obtain ⟨gap, rest, rfl, hf⟩ := h.exists_front hp hl
    obtain ⟨gaps, hm, hall, hw⟩ := ih hf.scans hf.position hf.short
    have hg := Text.sliceBytes?_append passed gap (first.spelling ++ rest)
    rw [← Text.byteLength_append, ← hp, ← hf.start] at hg
    rw [hf.position, ← hf.stop] at hm
    simp only [List.append_assoc] at hm
    refine ⟨gap :: gaps, ?_, ?_, ?_⟩
    · rw [gapBounds, List.map_cons, hg, hm, List.map_cons]
    · intro other ho
      rcases List.mem_cons.mp ho with rfl | ho
      · exact hf.blank
      · exact hall other ho
    · rw [List.map_cons, weave, hw]

end Scans

/-- A source taken apart into tokens and gaps, from which it can be put together again. -/
structure Reconstruction (lexicon : Lexicon) (source : Text) (tokens : List Token)
    (gaps : List Text) : Prop where
  /-- The scanner answers with the tokens. -/
  scansTo : ScansTo lexicon source tokens
  /-- No span is empty. -/
  start_lt_stop : ∀ token ∈ tokens, token.span.start < token.span.stop
  /-- Spans begin and end between characters, and cover what is written for their token. -/
  covers : ∀ token ∈ tokens, token.span.Covers source token.spelling
  /-- The slice of a span is what is written for its token. -/
  slice_eq : ∀ token ∈ tokens, token.span.slice? source = some token.spelling
  /-- Spans stand in order without overlap. -/
  ordered : tokens.Pairwise fun first second => first.span.stop ≤ second.span.start
  /-- The gaps are the slices before, between and behind the spans. -/
  gaps_eq : (gapBounds 0 tokens (Text.byteLength source)).map
    (fun bounds => Text.sliceBytes? source bounds.1 bounds.2) = gaps.map some
  /-- The gaps are white space. -/
  blank : ∀ gap ∈ gaps, ∀ char ∈ gap, Text.isBlank char = true
  /-- Gaps and written forms in turn are the source. -/
  weave_eq : weave gaps (tokens.map Token.spelling) = source

/-- Every source of fewer than `countLimit` characters is put together from the written forms of
its tokens and the white space around them. -/
theorem exists_reconstruction (lexicon : Lexicon) (source : Text)
    (hl : source.length < countLimit) :
    ∃ tokens gaps, Reconstruction lexicon source tokens gaps := by
  have hn : source.length ≤ nestingLimit := Nat.le_of_lt hl
  have hp : Mark.origin.position = Text.byteLength [] := rfl
  obtain ⟨tokens, hs⟩ := exists_scans lexicon .origin source
  obtain ⟨gaps, hg, hb, hw⟩ := hs.exists_gaps hp hn
  have hc := hs.covers hp hn
  exact ⟨tokens, gaps, {
    scansTo := hs.scansTo hl
    start_lt_stop := fun token ht => (hc token ht).2.1
    covers := fun token ht => (hc token ht).2.2
    slice_eq := fun token ht => (hc token ht).2.2.slice?_eq
    ordered := hs.ordered hp hn
    gaps_eq := hg
    blank := hb
    weave_eq := hw }⟩

/-- A source with characters of several bytes, an escaped quote and a comment that stays open. -/
theorem exists_reconstruction_open :
    "é \"a\\\"b\"\u3000// c\r\n7. /* /* */".toList.length < countLimit ∧
      ∃ tokens gaps, Reconstruction .standard
        "é \"a\\\"b\"\u3000// c\r\n7. /* /* */".toList tokens gaps :=
  ⟨by decide, exists_reconstruction .standard _ (by decide)⟩

end TableLexer
