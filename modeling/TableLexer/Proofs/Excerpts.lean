import TableLexer.Diagnostic.Snippet
import TableLexer.Proofs.Blanks
import TableLexer.Proofs.Lines
import TableLexer.Proofs.Origins

/-!
# What excerpts underline

An excerpt takes its line from the source and counts the columns that it underlines in the slice of
its span, up to the first line feed of the slice. Main statement: for every recorded diagnostic
there is an excerpt, whose underlined characters are what is shown of the token on its first line,
and the underline stays within the line, up to its end if the token goes on behind it, exactly
unless the first line of the token ends with a carriage return and a line feed; then it is one
column too long, since the line is shown without the carriage return.
-/

namespace TableLexer

namespace Text

/-- The first line feed of a text stands directly behind a carriage return. -/
def BreaksByReturn (text : Text) : Prop :=
  '\n' ∈ text ∧ (lineAfter text).getLast? = some '\r'

/-- A line goes on behind a character that is no white space. -/
theorem lineAfter_cons_of_not_blank {char : Char} (h : isBlank char = false) (rest : Text) :
    lineAfter (char :: rest) = char :: lineAfter rest := by
  have hfeed : char ≠ '\n' := by
    rintro rfl
    cases h
  rw [lineAfter_cons, if_neg hfeed]

/-- A first line that does not end with a carriage return and a line feed is shown whole. -/
theorem shownAfter_eq {text : Text} (h : ¬ text.BreaksByReturn) :
    shownAfter text = lineAfter text := by
  rw [shownAfter]
  split
  · next hf =>
    have hlast : (lineAfter text).getLast? ≠ some '\r' := fun hr => h ⟨hf, hr⟩
    rw [chomp, if_neg hlast]
  · rfl

/-- Otherwise the carriage return is not shown. -/
theorem shownAfter_concat {text : Text} (h : text.BreaksByReturn) :
    shownAfter text ++ ['\r'] = lineAfter text := by
  rw [shownAfter, if_pos h.1, ← eq_chomp_append h.2]

/-- What is shown of a first line is where the text begins. -/
theorem shownAfter_prefix (text : Text) : shownAfter text <+: text := by
  have hline : lineAfter text <+: text := List.takeWhile_prefix _
  by_cases h : text.BreaksByReturn
  · have hshown := shownAfter_concat h
    exact List.IsPrefix.trans ⟨['\r'], hshown⟩ hline
  · rwa [shownAfter_eq h]

/-- What follows a line feed has no influence on what is shown of the first line. -/
theorem shownAfter_append_of_mem {text : Text} (h : '\n' ∈ text) (rest : Text) :
    shownAfter (text ++ rest) = shownAfter text := by
  rw [shownAfter, shownAfter, lineAfter_append_of_mem h, if_pos h,
    if_pos (List.mem_append_left rest h)]

/-- A text without a line feed and without a carriage return at its end is shown whole, whatever
follows. -/
theorem prefix_shownAfter_append {text rest : Text} (h : '\n' ∉ text)
    (hr : rest = [] ∨ text.getLast? ≠ some '\r') : text <+: shownAfter (text ++ rest) := by
  have hline := lineAfter_append_of_not_mem h rest
  rw [shownAfter, hline]
  split
  · next hf =>
    have hne : rest ≠ [] := by
      rintro rfl
      rw [List.append_nil] at hf
      exact h hf
    have hlast := hr.resolve_left hne
    by_cases hempty : lineAfter rest = []
    · have hchomp : chomp (text ++ lineAfter rest) = text := by
        rw [hempty, List.append_nil, chomp, if_neg hlast]
      exact ⟨[], by rw [List.append_nil, hchomp]⟩
    · rw [chomp_append text hempty]
      exact List.prefix_append _ _
  · exact List.prefix_append _ _

end Text

namespace Snippet

/-- The characters of the line that the underline stands below. -/
def underlined (snippet : Snippet) : Text :=
  (snippet.line.drop (snippet.startColumn - 1)).take (snippet.endColumn - snippet.startColumn)

/-- The underline stands below the part of a text on its first line, and nothing else. -/
structure UnderlinesExactly (snippet : Snippet) (covered : Text) : Prop where
  /-- It does not go on behind the line. -/
  within : snippet.endColumn - 1 ≤ snippet.line.length
  /-- The characters above it are where the text begins. -/
  initial : snippet.underlined <+: covered
  /-- If the text goes on behind a line feed, it ends where the line does. -/
  to_end : '\n' ∈ covered → snippet.endColumn - 1 = snippet.line.length

/-- The excerpt of a text with something before it and something behind it. -/
def around (before covered after : Text) : Snippet where
  line := Text.lineBefore before ++ Text.shownAfter (covered ++ after)
  lineNumber := 1 + Text.breaks before
  startColumn := 1 + Text.lastWidth before
  endColumn := 1 + Text.lastWidth before + (Text.lineAfter covered).length

/-- The span of a text that does not start with a line feed has the excerpt of this text. -/
theorem ofSpan?_eq {before covered after : Text} {span : Span}
    (hc : Text.lineAfter covered ≠ []) (hstart : span.start = Text.byteLength before)
    (hstop : span.stop = Text.byteLength before + Text.byteLength covered)
    (hline : span.line = 1 + Text.breaks before)
    (hcolumn : span.column = 1 + Text.lastWidth before) :
    ofSpan? (before ++ (covered ++ after)) span = some (around before covered after) := by
  have hslice : span.slice? (before ++ (covered ++ after)) = some covered := by
    rw [Span.slice?, hstart, hstop, Text.sliceBytes?_append]
  have hrest : Text.lineAfter (covered ++ after) ≠ [] := by
    cases covered with
    | nil => exact absurd rfl hc
    | cons char more =>
      rw [Text.lineAfter_cons] at hc
      rw [List.cons_append, Text.lineAfter_cons]
      split_ifs at hc ⊢ with hn
      · exact absurd rfl hc
      · exact List.cons_ne_nil _ _
  have hlines := Text.getElem?_lines before hrest
  have hindex : span.line - 1 = Text.breaks before := by omega
  have hpositive : span.line ≠ 0 := by omega
  rw [ofSpan?, if_neg hpositive, hindex, hlines, hslice, hline, hcolumn]
  rfl

variable {before covered after : Text}

@[simp] theorem startColumn_around :
    (around before covered after).startColumn = 1 + Text.lastWidth before := rfl

@[simp] theorem endColumn_around : (around before covered after).endColumn =
    1 + Text.lastWidth before + (Text.lineAfter covered).length := rfl

/-- The line goes on, behind the column of the text, with what is shown of it. -/
theorem drop_around : (around before covered after).line.drop
    ((around before covered after).startColumn - 1) = Text.shownAfter (covered ++ after) := by
  rw [startColumn_around, Nat.add_sub_cancel_left, ← Text.length_lineBefore, around]
  exact List.drop_left

/-- Above the underline stands what is shown of the first line of the text. -/
theorem underlined_around (before : Text) (h : after = [] ∨ covered.getLast? ≠ some '\r') :
    (around before covered after).underlined = Text.shownAfter covered := by
  have hcolumns : (around before covered after).endColumn -
      (around before covered after).startColumn = (Text.lineAfter covered).length := by
    rw [endColumn_around, startColumn_around]
    omega
  rw [underlined, drop_around, hcolumns]
  by_cases hf : '\n' ∈ covered
  · have hle : (Text.shownAfter covered).length ≤ (Text.lineAfter covered).length := by
      by_cases hr : covered.BreaksByReturn
      · have hshown := congrArg List.length (Text.shownAfter_concat hr)
        rw [List.length_append] at hshown
        omega
      · rw [Text.shownAfter_eq hr]
    rw [Text.shownAfter_append_of_mem hf, List.take_of_length_le hle]
  · have hwhole := Text.lineAfter_append_of_not_mem hf []
    have hnil : Text.lineAfter [] = [] := rfl
    rw [List.append_nil, hnil, List.append_nil] at hwhole
    have hshown : Text.shownAfter covered = covered := by
      rw [Text.shownAfter_eq fun hr => hf hr.1, hwhole]
    have hprefix := Text.prefix_shownAfter_append hf h
    rw [hwhole, hshown, ← List.prefix_iff_eq_take.mp hprefix]

/-- The number of characters of the line in front of the end of the underline, and behind it. -/
theorem length_around (before : Text) (h : after = [] ∨ covered.getLast? ≠ some '\r') :
    if '\n' ∈ covered then
      (around before covered after).line.length =
        Text.lastWidth before + (Text.shownAfter covered).length
    else
      Text.lastWidth before + (Text.lineAfter covered).length ≤
        (around before covered after).line.length := by
  have hline : (around before covered after).line.length =
      Text.lastWidth before + (Text.shownAfter (covered ++ after)).length := by
    rw [around]
    dsimp only
    rw [List.length_append, Text.length_lineBefore]
  split
  · next hf => rw [hline, Text.shownAfter_append_of_mem hf]
  · next hf =>
    have hprefix := (Text.prefix_shownAfter_append hf h).length_le
    have hwhole : (Text.lineAfter covered).length ≤ covered.length :=
      (List.takeWhile_prefix _).length_le
    omega

/-- The underline is exact unless the first line of the text ends with a carriage return and a line
feed; then it is one column longer than the line. -/
theorem underlinesExactly_around (before : Text)
    (h : after = [] ∨ covered.getLast? ≠ some '\r') :
    ((around before covered after).UnderlinesExactly covered ↔ ¬ covered.BreaksByReturn) ∧
      (covered.BreaksByReturn → (around before covered after).endColumn - 1 =
        (around before covered after).line.length + 1) := by
  have hend : (around before covered after).endColumn - 1 =
      Text.lastWidth before + (Text.lineAfter covered).length := by
    rw [endColumn_around]
    omega
  have hlength := length_around before h
  have hreturn : covered.BreaksByReturn → (around before covered after).endColumn - 1 =
      (around before covered after).line.length + 1 := by
    intro hr
    have hshown := congrArg List.length (Text.shownAfter_concat hr)
    rw [List.length_append, List.length_singleton] at hshown
    rw [if_pos hr.1] at hlength
    omega
  refine ⟨⟨fun hexact hr => ?_, fun hr => ?_⟩, hreturn⟩
  · have hlong := hreturn hr
    have hwithin := hexact.within
    omega
  · have hinitial := underlined_around before h
    have hto : '\n' ∈ covered → (around before covered after).endColumn - 1 =
        (around before covered after).line.length := by
      intro hf
      rw [if_pos hf, Text.shownAfter_eq hr] at hlength
      omega
    refine ⟨?_, ?_, hto⟩
    · by_cases hf : '\n' ∈ covered
      · exact Nat.le_of_eq (hto hf)
      · rw [if_neg hf] at hlength
        omega
    · rw [hinitial]
      exact Text.shownAfter_prefix covered

end Snippet

/-- Only malformed tokens have a cause. -/
theorem TokenKind.cause?_eq_some_iff {kind : TokenKind} {cause : Malformation} :
    kind.cause? = some cause ↔ kind = .malformed cause := by
  cases kind <;> simp [cause?]

/-- A malformed token in a source has an excerpt, which is that of its text. It does not begin with
white space, and only the end of the input makes it end with some. -/
theorem Token.StandsIn.exists_around {lexicon : Lexicon} {source : Text} {token : Token}
    {diagnostic : Diagnostic} (h : token.StandsIn lexicon source)
    (hd : token.diagnostic? = some diagnostic) :
    ∃ before char more after, source = before ++ (char :: more ++ after) ∧
      diagnostic.span = ⟨Text.byteLength before,
        Text.byteLength before + Text.byteLength (char :: more),
        1 + Text.breaks before, 1 + Text.lastWidth before⟩ ∧
      diagnostic.span.slice? source = some (char :: more) ∧
      Snippet.ofSpan? source diagnostic.span =
        some (Snippet.around before (char :: more) after) ∧
      Text.isBlank char = false ∧ (after = [] ∨ (char :: more).getLast? ≠ some '\r') := by
  obtain @⟨before, covered, after, finished, hs, hc⟩ := h
  obtain ⟨char, more, rfl⟩ := List.exists_cons_of_ne_nil hc.ne_nil
  have htext : finished.text = char :: more := hc.text_eq
  have hblank : Text.isBlank char = false := hc.isBlank_eq_false
  obtain ⟨cause, hcause, rfl⟩ := Option.map_eq_some_iff.mp hd
  have hkind := TokenKind.cause?_eq_some_iff.mp hcause
  have hspan : (finished.token lexicon (Mark.origin.afterAll before)).span =
      ⟨Text.byteLength before, Text.byteLength before + Text.byteLength (char :: more),
        1 + Text.breaks before, 1 + Text.lastWidth before⟩ := by
    simp only [Finished.token, htext, Mark.afterAll_position, Mark.origin_afterAll]
  have hlast : after = [] ∨ (char :: more).getLast? ≠ some '\r' := by
    refine (hc.not_blank_of_malformed hkind).imp_right fun hnone hr => ?_
    have hreturn := hnone '\r' (List.mem_of_getLast? hr)
    cases hreturn
  refine ⟨before, char, more, after, hs, hspan, ?_, ?_, hblank, hlast⟩
  · change Span.slice? (finished.token lexicon (Mark.origin.afterAll before)).span source = _
    rw [hspan, hs, Span.slice?, Text.sliceBytes?_append]
  · change Snippet.ofSpan? source (finished.token lexicon (Mark.origin.afterAll before)).span = _
    rw [hspan, hs]
    have hline : Text.lineAfter (char :: more) ≠ [] := by
      rw [Text.lineAfter_cons_of_not_blank hblank]
      exact List.cons_ne_nil _ _
    exact Snippet.ofSpan?_eq hline rfl rfl rfl rfl

/-- Whatever line endings a source uses, every diagnostic that calls on it record has an excerpt
that underlines what is shown of the token's first line. The underline is exact unless this line
ends with a carriage return and a line feed; then it goes on one column behind the line. -/
theorem underline_extent {lexicon : Lexicon} {source : Text} {count : Nat}
    {answers : List (Option Token)} {last : Scanner} {collected : Collector}
    (h : (Scanner.start lexicon source).calls count .lenient = .ok (answers, last, collected)) :
    ∀ diagnostic ∈ collected.recorded, ∃ covered snippet,
      diagnostic.span.slice? source = some covered ∧
      Snippet.ofSpan? source diagnostic.span = some snippet ∧
      snippet.underlined = Text.shownAfter covered ∧
      (snippet.UnderlinesExactly covered ↔ ¬ covered.BreaksByReturn) ∧
      (covered.BreaksByReturn → snippet.endColumn - 1 = snippet.line.length + 1) := by
  intro diagnostic hm
  obtain ⟨token, -, hstands, hd⟩ := exists_standsIn_of_recorded h diagnostic hm
  obtain ⟨before, char, more, after, -, -, hslice, hsnippet, -, hlast⟩ := hstands.exists_around hd
  have hexact := Snippet.underlinesExactly_around before hlast
  exact ⟨_, _, hslice, hsnippet, Snippet.underlined_around before hlast, hexact.1, hexact.2⟩

/-- A source with both kinds of line ends: the excerpt of its first token that is malformed is
exact, and that of the other one is too long. -/
theorem underline_extent_lines :
    ∃ answers last collected first second,
      (Scanner.start .standard "@\r\n\"a\r\nb".toList).calls 3 .lenient =
        .ok (answers, last, collected) ∧
      collected.recorded.map Diagnostic.span = [⟨0, 1, 1, 1⟩, ⟨3, 8, 2, 1⟩] ∧
      Snippet.ofSpan? "@\r\n\"a\r\nb".toList ⟨0, 1, 1, 1⟩ = some first ∧
      first.UnderlinesExactly "@".toList ∧
      Snippet.ofSpan? "@\r\n\"a\r\nb".toList ⟨3, 8, 2, 1⟩ = some second ∧
      second.underlined = "\"a".toList ∧ second.endColumn - 1 = second.line.length + 1 := by
  have hc : ((Scanner.start .standard "@\r\n\"a\r\nb".toList).calls 3 .lenient).map
      (fun result => result.2.2) =
        .ok ⟨false, [Malformation.unexpectedCharacter.diagnostic "@".toList ⟨0, 1, 1, 1⟩,
          Malformation.unterminatedString.diagnostic "\"a\r\nb".toList ⟨3, 8, 2, 1⟩]⟩ := by
    decide +kernel
  obtain ⟨⟨answers, last, collected⟩, hcalls, rfl⟩ := Fault.exists_of_map hc
  have hall := underline_extent hcalls
  obtain ⟨covered, first, hone, hfirst, -, hexact, -⟩ := hall _ List.mem_cons_self
  obtain rfl : "@".toList = covered := Option.some.inj hone
  obtain ⟨covered, second, htwo, hsecond, hunderlined, -, hlong⟩ :=
    hall _ (List.mem_cons_of_mem _ List.mem_cons_self)
  obtain rfl : "\"a\r\nb".toList = covered := Option.some.inj htwo
  have hnone : ¬ Text.BreaksByReturn "@".toList := fun hr => absurd hr.1 (by decide)
  exact ⟨answers, last, _, first, second, hcalls, rfl, hfirst, hexact.mpr hnone, hsecond,
    hunderlined, hlong ⟨by decide, rfl⟩⟩

/-- A string literal that its source leaves open on the second line: the underline has a column
more than the excerpt, since the first line ends with a carriage return and a line feed. -/
theorem underline_too_long :
    ∃ answers last collected snippet,
      (Scanner.start .standard "\"a\r\nb".toList).calls 1 .lenient =
        .ok (answers, last, collected) ∧
      collected.recorded.map Diagnostic.span = [⟨0, 5, 1, 1⟩] ∧
      Span.slice? ⟨0, 5, 1, 1⟩ "\"a\r\nb".toList = some "\"a\r\nb".toList ∧
      Snippet.ofSpan? "\"a\r\nb".toList ⟨0, 5, 1, 1⟩ = some snippet ∧
      snippet = ⟨"\"a".toList, 1, 1, 4⟩ ∧ ¬ snippet.UnderlinesExactly "\"a\r\nb".toList := by
  have hc : ((Scanner.start .standard "\"a\r\nb".toList).calls 1 .lenient).map
      (fun result => result.2.2) =
        .ok ⟨false, [Malformation.unterminatedString.diagnostic "\"a\r\nb".toList
          ⟨0, 5, 1, 1⟩]⟩ := by
    decide +kernel
  obtain ⟨⟨answers, last, collected⟩, hcalls, rfl⟩ := Fault.exists_of_map hc
  refine ⟨answers, last, _, _, hcalls, rfl, by decide +kernel, by decide +kernel, rfl, ?_⟩
  intro hexact
  exact absurd hexact.within (by decide)

end TableLexer
