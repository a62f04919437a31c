import TableLexer.Dump.Basic
import TableLexer.Proofs.Blanks
import TableLexer.Proofs.Lines
import TableLexer.Proofs.Origins

/-!
# Line feeds in dumps

A dump by lines has a line feed behind each token and a dump in a row one at its end; the others are
those of the lexemes, which both write as they are. Main statement: the first has one line for each
token, and the second is one line, exactly if no lexeme holds a line feed; of the lexemes of a
source only those of string literals and of block comments do, closed or left open.
-/

namespace TableLexer

namespace Token

/-- The line of a token without its end: its place and its form. -/
def placed (token : Token) : Text :=
  token.span.display ++ '\t' :: token.display

theorem placedLine_eq (token : Token) : token.placedLine = token.placed ++ Text.newline := by
  rw [placedLine, placed, List.append_assoc token.span.display, List.singleton_append]

/-- Only the lexeme brings line feeds into the form of a token. -/
theorem breaks_display (token : Token) : Text.breaks token.display = Text.breaks token.lexeme := by
  have hname : ∀ kind : TokenKind, kind.name.count '\n' = 0 := by
    intro kind
    cases kind <;> rfl
  have hopen : "<".toList.count '\n' = 0 := by decide
  have hcomma : ", ".toList.count '\n' = 0 := by decide
  have hclose : ">".toList.count '\n' = 0 := by decide
  simp only [Text.breaks, display, List.count_append, hname, hopen, hcomma, hclose]
  omega

/-- So it is for its line. -/
theorem breaks_placed (token : Token) : Text.breaks token.placed = Text.breaks token.lexeme := by
  have hplace : token.span.display.count '\n' = 0 := by
    have hline := Text.not_mem_decimal token.span.line
    have hcolumn := Text.not_mem_decimal token.span.column
    refine List.count_eq_zero.mpr ?_
    simp [Span.display, hline, hcolumn]
  have htab : ('\t' :: token.display).count '\n' = token.display.count '\n' :=
    List.count_cons_of_ne (by decide)
  have hdisplay : token.display.count '\n' = token.lexeme.count '\n' := token.breaks_display
  rw [Text.breaks, Text.breaks, placed, List.count_append, hplace, htab, hdisplay, Nat.zero_add]

end Token

namespace Dump

variable {tokens : List Token}

theorem write_lines_cons (token : Token) (tokens : List Token) :
    write .lines (token :: tokens) = token.placed ++ '\n' :: write .lines tokens := by
  have hbody : body .lines (token :: tokens) = token.placedLine ++ body .lines tokens := rfl
  rw [write, write, hbody, token.placedLine_eq, List.append_assoc, List.append_assoc]
  rfl

theorem write_row_cons (token : Token) (tokens : List Token) :
    write .row (token :: tokens) = token.display ++ ' ' :: write .row tokens := by
  have hbody : body .row (token :: tokens) = token.display ++ [' '] ++ body .row tokens := rfl
  rw [write, write, hbody, List.append_assoc, List.append_assoc]
  rfl

/-- A dump by lines has a line feed for each token and those of the lexemes. -/
theorem breaks_write_lines (tokens : List Token) :
    Text.breaks (write .lines tokens) =
      tokens.length + Text.breaks (tokens.flatMap Token.lexeme) := by
  induction tokens with
  | nil => rfl
  | cons token tokens ih =>
    have hplaced : token.placed.count '\n' = token.lexeme.count '\n' := token.breaks_placed
    rw [Text.breaks, Text.breaks] at ih
    rw [Text.breaks, Text.breaks, write_lines_cons, List.count_append, List.count_cons_self, ih,
      List.flatMap_cons, List.count_append, hplaced, List.length_cons]
    omega

/-- A dump in a row has one line feed and those of the lexemes. -/
theorem breaks_write_row (tokens : List Token) :
    Text.breaks (write .row tokens) = 1 + Text.breaks (tokens.flatMap Token.lexeme) := by
  induction tokens with
  | nil => rfl
  | cons token tokens ih =>
    have hdisplay : token.display.count '\n' = token.lexeme.count '\n' := token.breaks_display
    have hblank : (' ' :: write .row tokens).count '\n' = (write .row tokens).count '\n' :=
      List.count_cons_of_ne (by decide)
    rw [Text.breaks, Text.breaks] at ih
    rw [Text.breaks, Text.breaks, write_row_cons, List.count_append, hblank, ih, List.flatMap_cons,
      List.count_append, hdisplay]
    omega

/-- Lexemes have no line feeds together if none has one. -/
theorem breaks_lexemes_eq_zero_iff :
    Text.breaks (tokens.flatMap Token.lexeme) = 0 ↔ ∀ token ∈ tokens, '\n' ∉ token.lexeme := by
  rw [Text.breaks, List.count_eq_zero, List.mem_flatMap]
  constructor
  · intro h token hm hf
    exact h ⟨token, hm, hf⟩
  · rintro h ⟨token, hm, hf⟩
    exact h token hm hf

/-- A dump by lines has one line for each token, which shows its place and its form, exactly if no
lexeme holds a line feed. -/
theorem write_lines_iff :
    (write .lines tokens).splitOn '\n' = tokens.map Token.placed ++ [[]] ↔
      ∀ token ∈ tokens, '\n' ∉ token.lexeme := by
  constructor
  · intro h
    have hlength := congrArg List.length h
    have hbreaks := breaks_write_lines tokens
    rw [Text.length_splitOn, List.length_append, List.length_map, List.length_singleton] at hlength
    rw [← breaks_lexemes_eq_zero_iff]
    omega
  · intro h
    induction tokens with
    | nil => rfl
    | cons token tokens ih =>
      have hfirst : '\n' ∉ token.placed := by
        have hzero := token.breaks_placed
        have hlexeme := h token List.mem_cons_self
        rw [Text.breaks, Text.breaks, List.count_eq_zero.mpr hlexeme] at hzero
        exact List.count_eq_zero.mp hzero
      have hothers := ih fun other hm => h other (List.mem_cons_of_mem _ hm)
      rw [write_lines_cons, List.splitOn_append_cons_self_of_not_mem hfirst, hothers, List.map_cons,
        List.cons_append]

/-- A dump in a row has its line feed at the end only, exactly if no lexeme holds one. -/
theorem write_row_iff :
    (∃ row, write .row tokens = row ++ Text.newline ∧ '\n' ∉ row) ↔
      ∀ token ∈ tokens, '\n' ∉ token.lexeme := by
  have hbreaks := breaks_write_row tokens
  have hwrite : write .row tokens = body .row tokens ++ Text.newline := rfl
  have hbody : (body .row tokens).count '\n' = Text.breaks (tokens.flatMap Token.lexeme) := by
    rw [hwrite, Text.breaks, List.count_append] at hbreaks
    have hone : Text.newline.count '\n' = 1 := rfl
    omega
  rw [← breaks_lexemes_eq_zero_iff, ← hbody, List.count_eq_zero]
  constructor
  · rintro ⟨row, hrow, hnone⟩
    rw [hwrite] at hrow
    rwa [List.append_cancel_right hrow]
  · intro hnone
    exact ⟨_, hwrite, hnone⟩

end Dump

/-- The lexeme of a token that stands in a source holds a line feed only if it is that of a string
literal or of a block comment, or if the end of the input cut one of them off. -/
theorem Token.StandsIn.kind_of_feed {lexicon : Lexicon} {source : Text} {token : Token}
    (h : token.StandsIn lexicon source) (hf : '\n' ∈ token.lexeme) :
    token.kind = .string ∨ (token.kind = .comment ∧ ['/', '*'] <+: token.lexeme) ∨
      token.kind = .malformed .unterminatedString ∨
      token.kind = .malformed .unterminatedComment := by
  obtain @⟨before, covered, after, finished, hs, hc⟩ := h
  rw [Finished.token] at hf ⊢
  dsimp only at hf ⊢
  by_cases hk : lexicon.kindOf finished.text finished.category = .string
  · exact Or.inl hk
  · rw [if_neg hk] at hf ⊢
    have htext : finished.text = covered := hc.text_eq
    have hkind := hc.kind_of_feed lexicon (htext ▸ hf)
    rwa [← htext] at hkind

/-- Dumps by lines and in a row are what their names say exactly if no lexeme holds a line feed; the
line feeds of lexemes come on top of one for each token, or one at the end. Only string literals and
block comments of a source bring line feeds in, closed or left open. -/
theorem dumps_break_in_lexemes {lexicon : Lexicon} {source : Text} {collector collected : Collector}
    {tokens : List Token} (h : tokenize lexicon source collector = .ok (tokens, collected)) :
    ((Dump.write .lines tokens).splitOn '\n' = tokens.map Token.placed ++ [[]] ↔
      ∀ token ∈ tokens, '\n' ∉ token.lexeme) ∧
    ((∃ row, Dump.write .row tokens = row ++ Text.newline ∧ '\n' ∉ row) ↔
      ∀ token ∈ tokens, '\n' ∉ token.lexeme) ∧
    Text.breaks (Dump.write .lines tokens) =
      tokens.length + Text.breaks (tokens.flatMap Token.lexeme) ∧
    Text.breaks (Dump.write .row tokens) = 1 + Text.breaks (tokens.flatMap Token.lexeme) ∧
    ∀ token ∈ tokens, '\n' ∈ token.lexeme →
      token.kind = .string ∨ (token.kind = .comment ∧ ['/', '*'] <+: token.lexeme) ∨
        token.kind = .malformed .unterminatedString ∨
        token.kind = .malformed .unterminatedComment := by
  have hstands := standsIn_of_tokenize h
  exact ⟨Dump.write_lines_iff, Dump.write_row_iff, Dump.breaks_write_lines tokens,
    Dump.breaks_write_row tokens, fun token hm hf => (hstands token hm).kind_of_feed hf⟩

/-- A source of two lines whose tokens have no line feed in them, so that its dumps have lines as
they should. -/
theorem dumps_break_in_lexemes_nowhere :
    ∃ tokens collected, tokenize .standard "a\n @".toList .lenient = .ok (tokens, collected) ∧
      (Dump.write .lines tokens).splitOn '\n' =
        ["1:1\t<ID, a>".toList, "2:2\t<ERROR, @>".toList, []] ∧
      ∃ row, Dump.write .row tokens = row ++ Text.newline ∧ '\n' ∉ row := by
  have hc : (tokenize .standard "a\n @".toList .lenient).map Prod.fst =
      .ok [⟨.identifier, "a".toList, ⟨0, 1, 1, 1⟩⟩,
        ⟨.malformed .unexpectedCharacter, "@".toList, ⟨3, 4, 2, 2⟩⟩] := by
    decide +kernel
  obtain ⟨⟨tokens, collected⟩, hscan, htokens⟩ := Fault.exists_of_map hc
  obtain ⟨hlines, hrow, -⟩ := dumps_break_in_lexemes hscan
  obtain rfl : tokens = _ := htokens
  have hnone : ∀ token ∈ [(⟨.identifier, "a".toList, ⟨0, 1, 1, 1⟩⟩ : Token),
      ⟨.malformed .unexpectedCharacter, "@".toList, ⟨3, 4, 2, 2⟩⟩], '\n' ∉ token.lexeme := by
    decide
  have hdump := hlines.mpr hnone
  exact ⟨_, collected, hscan, hdump, hrow.mpr hnone⟩

/-- One string literal with a line feed in it: a dump by lines has two lines for this one token, and
a dump in a row is not one line. -/
theorem dumps_break_in_string :
    ∃ tokens collected, tokenize .standard "\"a\nb\"".toList .lenient = .ok (tokens, collected) ∧
      tokens.length = 1 ∧ Dump.write .lines tokens = "1:1\t<STRING, a\nb>\n".toList ∧
      (Dump.write .lines tokens).splitOn '\n' ≠ tokens.map Token.placed ++ [[]] ∧
      Text.breaks (Dump.write .lines tokens) = 2 ∧ Text.breaks (Dump.write .row tokens) = 2 := by
  have hc : (tokenize .standard "\"a\nb\"".toList .lenient).map Prod.fst =
      .ok [⟨.string, "a\nb".toList, ⟨0, 5, 1, 1⟩⟩] := by
    decide +kernel
  obtain ⟨⟨tokens, collected⟩, hscan, htokens⟩ := Fault.exists_of_map hc
  obtain rfl : tokens = _ := htokens
  exact ⟨_, collected, hscan, rfl, by decide +kernel, by decide +kernel, by decide +kernel,
    by decide +kernel⟩

end TableLexer
