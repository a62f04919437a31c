import TableLexer.Proofs.Cuts
import TableLexer.Proofs.Tables
import TableLexer.Proofs.Reconstruction

/-!
# Agreement with the reference lexer

The scanner decides on each character with one state and never goes back; the reference lexer
tries all prefixes of what is left. Main statement: the kinds, lexemes and byte ranges of the
scanner's tokens are those of the reference lexer, for the standard words and any further ones.
-/

namespace TableLexer

open Grammar

/-- What the reference lexer says of a token. -/
def Token.outline (token : Token) : Outline :=
  ⟨token.kind, token.lexeme, token.span.start, token.span.stop⟩

variable {lexicon : Lexicon} {reserved : List Text} {mark : Mark} {text : Text}
  {tokens : List Token}

/-- The outline of a token is that of its lexeme, cut off where the token begins. -/
theorem outline_token {finished : Finished} (hx : finished.IsLexeme lexicon) (lexicon : Lexicon)
    (mark : Mark) : (finished.token lexicon mark).outline =
      ⟨lexicon.kindOf finished.text finished.category,
        (Cut.mk (lexicon.kindOf finished.text finished.category) finished.text).lexeme,
        mark.position, mark.position + Text.byteLength finished.text⟩ := by
  obtain ⟨category, text⟩ := finished
  rw [Token.outline, Finished.token, Mark.afterAll_position, Cut.lexeme]
  dsimp only
  split_ifs with hk
  · obtain rfl : category = .string := Lexicon.eq_category_of_kindOf hk (by decide)
    obtain ⟨body, rfl, -⟩ := isLiteral_iff.mp hx
    rw [stripQuotes_literal, List.tail_cons, List.dropLast_concat]
  · rfl

/-- A scan and the reference lexer find the same tokens. -/
theorem Scans.outline_eq (hr : ∀ word, lexicon.isKeyword word = true ↔ word ∈ reserved)
    (h : Scans lexicon mark text tokens) (hl : text.length ≤ nestingLimit) :
    tokens.map Token.outline = lex reserved mark.position text := by
  induction h with
  | done =>
    rw [lex]
    rfl
  | blank hb _ ih =>
    rw [List.length_cons] at hl
    rw [lex_blank reserved _ hb, ih (by omega), Mark.after_position]
  | @token mark covered rest finished tokens hc _ ih =>
    rw [List.length_append] at hl
    obtain ⟨hx, he⟩ := hc.isLexeme_of_idle (by omega)
    have ht : finished.text = covered := hc.text_eq
    obtain ⟨head, more, rfl⟩ := List.exists_cons_of_ne_nil hc.ne_nil
    have hcut : cut reserved head (more ++ rest) =
        ⟨lexicon.kindOf finished.text finished.category, finished.text⟩ :=
      cut_of_isLexeme hr hx he (by rw [ht, List.cons_append])
    rw [List.cons_append, lex_cut reserved _ hc.isBlank_eq_false, hcut, List.map_cons,
      outline_token hx, ih (by omega), Mark.afterAll_position, ← List.cons_append, ht,
      List.drop_left]

/-- The tokens of every source of fewer than `countLimit` characters have the kinds, lexemes and
byte ranges that the reference lexer finds, whatever words are reserved. -/
theorem tokenize_eq_lex (words : List Text) (source : Text) (hl : source.length < countLimit) :
    ∃ tokens, ScansTo (Lexicon.standard.withKeywords words) source tokens ∧
      tokens.map Token.outline = lex (Lexicon.standardKeywords ++ words) 0 source := by
  obtain ⟨tokens, hs⟩ := exists_scans (Lexicon.standard.withKeywords words) .origin source
  exact ⟨tokens, hs.scansTo hl,
    hs.outline_eq (Lexicon.isKeyword_iff words) (Nat.le_of_lt hl)⟩

/-- A source in which tokens touch: words reserved by all and by this lexicon, an operator of two
characters before one of one, punctuation, a character that starts nothing, nested comments and an
escaped quote. -/
theorem tokenize_eq_lex_touching :
    "if(let==>7.x;#/*/**/*/\"\\\"\"&//\r/*".toList.length < countLimit ∧
      ∃ tokens, ScansTo (Lexicon.standard.withKeywords ["let".toList])
          "if(let==>7.x;#/*/**/*/\"\\\"\"&//\r/*".toList tokens ∧
        tokens.map Token.outline =
          [⟨.keyword, "if".toList, 0, 2⟩, ⟨.leftParen, "(".toList, 2, 3⟩,
            ⟨.keyword, "let".toList, 3, 6⟩, ⟨.operator, "==".toList, 6, 8⟩,
            ⟨.operator, ">".toList, 8, 9⟩, ⟨.number, "7.".toList, 9, 11⟩,
            ⟨.identifier, "x".toList, 11, 12⟩, ⟨.semicolon, ";".toList, 12, 13⟩,
            ⟨.malformed .unexpectedCharacter, "#".toList, 13, 14⟩,
            ⟨.comment, "/*/**/*/".toList, 14, 22⟩, ⟨.string, "\\\"".toList, 22, 26⟩,
            ⟨.malformed .unknownOperator, "&".toList, 26, 27⟩,
            ⟨.comment, "//".toList, 27, 29⟩,
            ⟨.malformed .unterminatedComment, "/*".toList, 30, 32⟩] := by
  have hl : "if(let==>7.x;#/*/**/*/\"\\\"\"&//\r/*".toList.length < countLimit := by decide
  obtain ⟨tokens, hs, ho⟩ := tokenize_eq_lex ["let".toList] _ hl
  refine ⟨hl, tokens, hs, ?_⟩
  rw [ho]
  decide +kernel

end TableLexer
