import TableLexer.Diagnostic.Report
import TableLexer.Proofs.Excerpts

/-!
# What reports show

The report of a malformed token has five rows: heading, place, excerpt and underline, advice. None
of them holds a line feed, since a message quotes what it shows of the source and an excerpt shows
one line. Main statement: on a source of fewer than `countLimit` characters every diagnostic that a
scan records has such a report, its excerpt is the line of the source that the diagnostic names, and
its first caret stands below the first character of the token.
-/

namespace TableLexer

namespace Text

/-- A character that is written by its number keeps to one line. -/
theorem not_mem_numbered (char : Char) : '\n' ∉ numbered char := by
  have hdigits : '\n' ∉ Nat.toDigits 16 char.toNat := not_mem_toDigits (by decide) _
  simp [numbered, hdigits]

/-- So does every character of a message. -/
theorem not_mem_quoteChar (char : Char) : '\n' ∉ quoteChar char := by
  unfold quoteChar
  split
  case h_8 hfeed _ _ _ =>
    split
    · have hne : '\n' ≠ char := fun he => hfeed he.symm
      simpa using hne
    · exact not_mem_numbered char
  all_goals decide

/-- A message shows any text in one line. -/
theorem not_mem_quote (text : Text) : '\n' ∉ quote text := by
  cases text with
  | nil => exact List.not_mem_nil
  | cons first rest =>
    have hfirst : '\n' ∉ if isCombining first then numbered first else quoteChar first := by
      split
      · exact not_mem_numbered first
      · exact not_mem_quoteChar first
    have hrest : '\n' ∉ rest.flatMap quoteChar := by
      intro hm
      obtain ⟨char, -, hc⟩ := List.mem_flatMap.mp hm
      exact not_mem_quoteChar char hc
    rw [quote, List.mem_append]
    exact not_or.mpr ⟨hfirst, hrest⟩

/-- Without its end a line has no line feed either. -/
theorem not_mem_shownAfter (text : Text) : '\n' ∉ shownAfter text := by
  have hline := not_mem_lineAfter text
  by_cases h : text.BreaksByReturn
  · rw [← shownAfter_concat h] at hline
    exact fun hm => hline (List.mem_append_left _ hm)
  · rwa [shownAfter_eq h]

/-- What is shown of a line begins with the first character of the line that is no white space. -/
theorem head?_shownAfter {char : Char} {rest : Text} (h : isBlank char = false) :
    (shownAfter (char :: rest)).head? = some char := by
  have hline := lineAfter_cons_of_not_blank h rest
  by_cases hr : BreaksByReturn (char :: rest)
  · have hshown := shownAfter_concat hr
    rw [hline] at hshown
    cases hs : shownAfter (char :: rest) with
    | nil =>
      rw [hs] at hshown
      obtain rfl : '\r' = char := (List.cons.inj hshown).1
      cases h
    | cons first others =>
      rw [hs] at hshown
      rw [List.head?_cons, (List.cons.inj hshown).1]
  · rw [shownAfter_eq hr, hline, List.head?_cons]

end Text

namespace Snippet

variable {snippet : Snippet}

/-- What stands in front of the source line in its row. -/
def gutter (snippet : Snippet) : Text :=
  (Text.decimal snippet.lineNumber).leftpad snippet.gutterWidth ' ' ++ " | ".toList

theorem sourceRow_eq : snippet.sourceRow = snippet.gutter ++ snippet.line := rfl

/-- Line numbers fit into their column, however many digits they have. -/
theorem length_gutter : snippet.gutter.length = snippet.gutterWidth + 3 := by
  have hwidth : (Text.decimal snippet.lineNumber).length ≤ snippet.gutterWidth :=
    Nat.le_max_right _ _
  rw [gutter, List.length_append, List.length_leftpad, Nat.max_eq_left hwidth]
  rfl

/-- Both rows are indented alike: the first caret is as far behind the gutter as the first
underlined column is. -/
theorem idxOf_underlineRow (snippet : Snippet) :
    snippet.underlineRow.idxOf '^' = snippet.gutter.length + (snippet.startColumn - 1) := by
  have hwidth : snippet.underlineWidth = snippet.underlineWidth - 1 + 1 := by
    have hpositive : 1 ≤ snippet.underlineWidth := Nat.le_max_left _ _
    omega
  have hblank : '^' ∉ List.replicate snippet.gutterWidth ' ' ++ " | ".toList ++
      List.replicate snippet.underlineOffset ' ' := by
    simp [List.mem_replicate]
  rw [underlineRow, List.idxOf_append_of_notMem hblank, hwidth, List.replicate_succ,
    List.idxOf_cons_self, length_gutter, List.length_append, List.length_append,
    List.length_replicate, List.length_replicate, underlineOffset]
  rfl

theorem mem_underlineRow : '^' ∈ snippet.underlineRow := by
  have hpositive : snippet.underlineWidth ≠ 0 := by
    have hone : 1 ≤ snippet.underlineWidth := Nat.le_max_left _ _
    omega
  refine List.mem_append_right _ ?_
  exact List.mem_replicate.mpr ⟨hpositive, rfl⟩

/-- Rows of an excerpt keep to one line if its line does. -/
theorem not_mem_sourceRow (h : '\n' ∉ snippet.line) : '\n' ∉ snippet.sourceRow := by
  have hnumber := Text.not_mem_decimal snippet.lineNumber
  simp [sourceRow, List.leftpad, List.mem_replicate, hnumber, h]

theorem not_mem_underlineRow (snippet : Snippet) : '\n' ∉ snippet.underlineRow := by
  simp [underlineRow, List.mem_replicate]

/-- The line of an excerpt keeps to one line. -/
theorem not_mem_line_around (before covered after : Text) :
    '\n' ∉ (around before covered after).line := by
  rw [around, List.mem_append]
  exact not_or.mpr ⟨Text.not_mem_lineBefore _, Text.not_mem_shownAfter _⟩

variable {char : Char}

/-- A text that does not begin with white space begins at its column of the line. -/
theorem getElem?_line_around (h : Text.isBlank char = false) (before more after : Text) :
    (around before (char :: more) after).line[Text.lastWidth before]? = some char := by
  have hfirst : (Text.shownAfter (char :: more ++ after)).head? = some char :=
    Text.head?_shownAfter h
  rw [around]
  dsimp only
  rw [← Text.length_lineBefore, List.getElem?_append_right (Nat.le_refl _), Nat.sub_self,
    ← List.head?_eq_getElem?, hfirst]

/-- The line is the piece between line feeds that the text begins in, which is chomped unless it is
the last one. -/
theorem exists_piece_around (h : Text.isBlank char = false) (before more after : Text) :
    ∃ piece, ((before ++ (char :: more ++ after)).splitOn '\n')[Text.breaks before]? = some piece ∧
      (around before (char :: more) after).line =
        if Text.breaks before + 1 < ((before ++ (char :: more ++ after)).splitOn '\n').length then
          Text.chomp piece
        else piece := by
  have hrest : Text.lineAfter (char :: more ++ after) ≠ [] := by
    rw [List.cons_append, Text.lineAfter_cons_of_not_blank h]
    exact List.cons_ne_nil _ _
  have hpiece := Text.getElem?_splitOn before (char :: more ++ after)
  have hshown := Text.getElem?_shown hpiece (List.append_ne_nil_of_right_ne_nil _ hrest)
  rw [← Text.lines_eq, Text.getElem?_lines before hrest] at hshown
  exact ⟨_, hpiece, Option.some.inj hshown⟩

end Snippet

/-- What a report says about a malformed lexeme, row by row. -/
def Malformation.reportRows (cause : Malformation) (lexeme : Text) (span : Span)
    (snippet : Snippet) : List Text :=
  ["error[".toList ++ cause.code.display ++ "]: ".toList ++ cause.describe lexeme,
    "  --> ".toList ++ span.display, snippet.sourceRow, snippet.underlineRow,
    "  = help: ".toList ++ cause.advice]

/-- The first row names severity, code and message. -/
theorem Malformation.heading_eq (cause : Malformation) (lexeme : Text) (span : Span) :
    (cause.diagnostic lexeme span).heading =
      "error[".toList ++ cause.code.display ++ "]: ".toList ++ cause.describe lexeme := by
  have hopen : "error[".toList = "error".toList ++ "[".toList := rfl
  have hclose : "]: ".toList = "]".toList ++ ": ".toList := rfl
  change "error".toList ++ ("[".toList ++ cause.code.display ++ "]".toList) ++ ": ".toList ++
    cause.describe lexeme = _
  simp only [hopen, hclose, List.append_assoc]

/-- The report of a malformed token consists of these rows if the token has an excerpt. -/
theorem Malformation.report_eq {cause : Malformation} {lexeme source : Text} {span : Span}
    {snippet : Snippet} (h : Snippet.ofSpan? source span = some snippet) :
    (cause.diagnostic lexeme span).report source =
      (cause.reportRows lexeme span snippet).flatMap fun row => row ++ Text.newline := by
  have hplace : span ≠ Span.nowhere := by
    rintro rfl
    cases h
  have hlocator : (cause.diagnostic lexeme span).locator =
      "  --> ".toList ++ span.display ++ Text.newline := if_neg hplace
  have hexcerpt : (cause.diagnostic lexeme span).excerpt source =
      snippet.display ++ Text.newline := by
    have hspan : (cause.diagnostic lexeme span).span = span := rfl
    rw [Diagnostic.excerpt, hspan, h]
  have hadvice : (cause.diagnostic lexeme span).advice.flatMap Diagnostic.adviceLine =
      "  = help: ".toList ++ cause.advice ++ Text.newline := List.append_nil _
  rw [Diagnostic.report, cause.heading_eq, hlocator, hexcerpt, hadvice, Snippet.display, reportRows]
  simp only [List.flatMap_cons, List.flatMap_nil, List.append_assoc, List.append_nil]

/-- What a message says about a lexeme keeps to one line. -/
theorem Malformation.not_mem_describe (cause : Malformation) (lexeme : Text) :
    '\n' ∉ cause.describe lexeme := by
  have hquote := Text.not_mem_quote lexeme
  have hmessage : '\n' ∉ cause.message := by cases cause <;> decide
  rw [describe]
  split
  · exact hmessage
  · simp [hquote, hmessage]

/-- Every row of a report keeps to one line if its excerpt does. -/
theorem Malformation.not_mem_reportRows (cause : Malformation) (lexeme : Text) (span : Span)
    {snippet : Snippet} (h : '\n' ∉ snippet.line) :
    ∀ row ∈ cause.reportRows lexeme span snippet, '\n' ∉ row := by
  have hcode : '\n' ∉ cause.code.display := by cases cause <;> decide
  have hadvice : '\n' ∉ cause.advice := by cases cause <;> decide
  have hdescribe := cause.not_mem_describe lexeme
  have hline := Text.not_mem_decimal span.line
  have hcolumn := Text.not_mem_decimal span.column
  have hsource := Snippet.not_mem_sourceRow h
  have hunderline := snippet.not_mem_underlineRow
  simp [reportRows, Span.display, hcode, hadvice, hdescribe, hline, hcolumn, hsource, hunderline]

/-- A report shows the place of a diagnostic in its source. -/
structure Diagnostic.PointsAt (diagnostic : Diagnostic) (source : Text) (cause : Malformation)
    (lexeme : Text) (snippet : Snippet) : Prop where
  /-- There is an excerpt. -/
  excerpt : Snippet.ofSpan? source diagnostic.span = some snippet
  /-- The report has five rows, each with a line feed behind it. -/
  report : diagnostic.report source =
    (cause.reportRows lexeme diagnostic.span snippet).flatMap fun row => row ++ Text.newline
  /-- There are no other line feeds. -/
  unbroken : ∀ row ∈ cause.reportRows lexeme diagnostic.span snippet, '\n' ∉ row
  /-- Lines are counted from one. -/
  line_pos : 1 ≤ diagnostic.span.line
  /-- The excerpt shows the line with this number, which is chomped if a line feed ends it. -/
  line : ∃ piece, (source.splitOn '\n')[diagnostic.span.line - 1]? = some piece ∧
    snippet.line =
      if diagnostic.span.line < (source.splitOn '\n').length then Text.chomp piece else piece
  /-- Columns are counted from one. -/
  column_pos : 1 ≤ diagnostic.span.column
  /-- The line has so many columns. -/
  column_le : diagnostic.span.column ≤ snippet.line.length
  /-- In this column stands the first character that the span covers. -/
  column : ∃ covered, diagnostic.span.slice? source = some covered ∧
    snippet.line[diagnostic.span.column - 1]? = covered.head?
  /-- The number of the line is shown. -/
  lineNumber : snippet.lineNumber = diagnostic.span.line
  /-- Behind its number the line itself is shown. -/
  sourceRow : snippet.sourceRow = snippet.gutter ++ snippet.line
  /-- The first caret stands below this character. -/
  caret : '^' ∈ snippet.underlineRow ∧ snippet.underlineRow.idxOf '^' =
    snippet.gutter.length + (diagnostic.span.column - 1)

/-- The diagnostic of a malformed token that stands in a source points at it. -/
theorem Token.StandsIn.exists_pointsAt {lexicon : Lexicon} {source : Text} {token : Token}
    {diagnostic : Diagnostic} (h : token.StandsIn lexicon source)
    (hd : token.diagnostic? = some diagnostic) :
    ∃ cause snippet, token.kind = .malformed cause ∧ token.span = diagnostic.span ∧
      diagnostic.PointsAt source cause token.lexeme snippet := by
  obtain ⟨before, char, more, after, hs, hspan, hslice, hexcerpt, hblank, -⟩ := h.exists_around hd
  obtain ⟨cause, hcause, rfl⟩ := Option.map_eq_some_iff.mp hd
  have hkind := TokenKind.cause?_eq_some_iff.mp hcause
  have hcolumn := Snippet.getElem?_line_around hblank before more after
  have hpiece := Snippet.exists_piece_around hblank before more after
  have hunbroken := Snippet.not_mem_line_around before (char :: more) after
  have hwithin : Text.lastWidth before < (Snippet.around before (char :: more) after).line.length :=
    (List.getElem?_eq_some_iff.mp hcolumn).1
  have hplace : (cause.diagnostic token.lexeme token.span).span.column - 1 =
      Text.lastWidth before := by
    rw [hspan, Nat.add_sub_cancel_left]
  refine ⟨cause, .around before (char :: more) after, hkind, rfl, ?_⟩
  constructor
  case excerpt => exact hexcerpt
  case report => exact Malformation.report_eq hexcerpt
  case unbroken => exact cause.not_mem_reportRows _ _ hunbroken
  case line_pos =>
    rw [hspan]
    exact Nat.le_add_right _ _
  case line => rwa [hspan, Nat.add_sub_cancel_left, Nat.add_comm 1, hs]
  case column_pos =>
    rw [hspan]
    exact Nat.le_add_right _ _
  case column_le =>
    rw [hspan]
    dsimp only
    omega
  case column => exact ⟨_, hslice, by rw [hplace, hcolumn, List.head?_cons]⟩
  case lineNumber => rw [hspan, Snippet.around]
  case sourceRow => exact Snippet.sourceRow_eq
  case caret =>
    have hcaret := (Snippet.around before (char :: more) after).idxOf_underlineRow
    rw [Snippet.startColumn_around, Nat.add_sub_cancel_left] at hcaret
    rw [hplace]
    exact ⟨Snippet.mem_underlineRow, hcaret⟩

/-- On a source of fewer than `countLimit` characters every number of calls is answered, and the
report of every diagnostic that they record points at a malformed token, whose first character is
below its first caret; so does that of every diagnostic which a whole scan records. -/
theorem reports_point_at_tokens (lexicon : Lexicon) (source : Text)
    (hl : source.length < countLimit) :
    (∀ count, ∃ answers last collected,
      (Scanner.start lexicon source).calls count .lenient = .ok (answers, last, collected) ∧
      ∀ diagnostic ∈ collected.recorded, ∃ token cause snippet, some token ∈ answers ∧
        token.kind = .malformed cause ∧ token.span = diagnostic.span ∧
        diagnostic.PointsAt source cause token.lexeme snippet) ∧
    ∃ tokens collected, tokenize lexicon source .lenient = .ok (tokens, collected) ∧
      ∀ diagnostic ∈ collected.recorded, ∃ token cause snippet, token ∈ tokens ∧
        token.kind = .malformed cause ∧ token.span = diagnostic.span ∧
        diagnostic.PointsAt source cause token.lexeme snippet := by
  obtain ⟨tokens, hs⟩ := exists_scans lexicon .origin source
  constructor
  · intro count
    obtain ⟨last, hc, -⟩ := (Scanner.awaits_start hs hl).calls count []
    refine ⟨_, last, _, hc, fun diagnostic hm => ?_⟩
    obtain ⟨token, ht, hstands, hd⟩ := exists_standsIn_of_recorded hc diagnostic hm
    obtain ⟨cause, snippet, hpoints⟩ := hstands.exists_pointsAt hd
    exact ⟨token, cause, snippet, ht, hpoints⟩
  · have htokens := hs.scansTo hl []
    refine ⟨tokens, _, htokens, fun diagnostic hm => ?_⟩
    obtain ⟨token, ht, hd⟩ := List.mem_filterMap.mp hm
    have hstands := standsIn_of_tokenize htokens token ht
    obtain ⟨cause, snippet, hpoints⟩ := hstands.exists_pointsAt hd
    exact ⟨token, cause, snippet, ht, hpoints⟩

/-- A character that starts nothing, behind a tabulator and in front of a carriage return and a line
feed; the string literal on the next line is left open. -/
theorem reports_point_at_tokens_return :
    "\t§\r\n\"x\ny".toList.length < countLimit ∧
      ∃ answers last collected token cause snippet,
        (Scanner.start .standard "\t§\r\n\"x\ny".toList).calls 2 .lenient =
          .ok (answers, last, collected) ∧
        some token ∈ answers ∧ token.kind = .malformed cause ∧ token.span = ⟨5, 9, 2, 1⟩ ∧
        (Malformation.unterminatedString.diagnostic "\"x\ny".toList ⟨5, 9, 2, 1⟩).PointsAt
          "\t§\r\n\"x\ny".toList cause token.lexeme snippet ∧
        (Malformation.unterminatedString.diagnostic "\"x\ny".toList ⟨5, 9, 2, 1⟩).report
          "\t§\r\n\"x\ny".toList =
            ("error[E1002]: unterminated string literal\n  --> 2:1\n  2 | \"x\n    | ^^\n" ++
              "  = help: add a closing `\"` to end the string\n").toList := by
  have hl : "\t§\r\n\"x\ny".toList.length < countLimit := by decide
  obtain ⟨answers, last, collected, hcalls, hall⟩ := (reports_point_at_tokens .standard _ hl).1 2
  have hc : ((Scanner.start .standard "\t§\r\n\"x\ny".toList).calls 2 .lenient).map
      (fun result => result.2.2) =
        .ok ⟨false, [Malformation.unexpectedCharacter.diagnostic "§".toList ⟨1, 3, 1, 2⟩,
          Malformation.unterminatedString.diagnostic "\"x\ny".toList ⟨5, 9, 2, 1⟩]⟩ := by
    decide +kernel
  rw [hcalls] at hc
  obtain rfl := Except.ok.inj hc
  obtain ⟨token, cause, snippet, ht, hkind, hspan, hpoints⟩ :=
    hall _ (List.mem_cons_of_mem _ List.mem_cons_self)
  exact ⟨hl, answers, last, _, token, cause, snippet, hcalls, ht, hkind, hspan, hpoints,
    by decide +kernel⟩

end TableLexer
