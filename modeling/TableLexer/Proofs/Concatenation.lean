import TableLexer.Proofs.Scans

/-!
# Joined sources

Where a source is cut in front of white space, punctuation or a character that starts nothing,
its two parts can be scanned apart: no attempt is in progress there that such a character would
not end. Main statement: the tokens of the whole are those of the first part and, moved behind
it, those of the second.
-/

namespace TableLexer

open Grammar

namespace Token

/-- A comment up to the end of its line. -/
def IsLineComment (token : Token) : Prop := token.kind = .comment ∧ ['/', '/'] <+: token.lexeme

/-- A string literal or a block comment that the end of the input cuts off. -/
def IsUnterminated (token : Token) : Prop :=
  token.kind = .malformed .unterminatedString ∨ token.kind = .malformed .unterminatedComment

/-- The token in a source where a text stands in front: the columns of the first line are those
behind the last line of that text. -/
def shift (passed : Text) (token : Token) : Token :=
  { token with
    span := ⟨token.span.start + Text.byteLength passed, token.span.stop + Text.byteLength passed,
      token.span.line + Text.breaks passed,
      if token.span.line = 1 then token.span.column + Text.lastWidth passed
      else token.span.column⟩ }

end Token

variable {lexicon : Lexicon} {mark : Mark} {text : Text} {tokens : List Token}

/-- A token moves with the place where it starts. -/
theorem token_moved (passed : Text) (finished : Finished) :
    finished.token lexicon (mark.moved passed) = (finished.token lexicon mark).shift passed := by
  simp only [Finished.token, Token.shift, Mark.afterAll_position, Mark.moved, Token.mk.injEq,
    Span.mk.injEq, true_and, and_true]
  omega

/-- Tokens move with the place where their text starts. -/
theorem Scans.moved (h : Scans lexicon mark text tokens) (hl : 1 ≤ mark.line) (passed : Text) :
    Scans lexicon (mark.moved passed) text (tokens.map (Token.shift passed)) := by
  induction h with
  | done => exact .done
  | @blank mark char _ _ hb _ ih =>
    have hn := ih (Nat.le_trans hl (mark.line_le_afterAll [char]))
    rw [← Mark.moved_after passed hl] at hn
    exact .blank hb hn
  | @token mark covered _ _ _ hc _ ih =>
    have hn := ih (Nat.le_trans hl (mark.line_le_afterAll covered))
    rw [← Mark.moved_afterAll passed hl] at hn
    rw [List.map_cons, ← token_moved]
    exact .token hc hn

/-- Nothing holds no token. -/
theorem Scans.eq_nil (h : Scans lexicon mark [] tokens) : tokens = [] := by
  cases tokens with
  | nil => rfl
  | cons token tokens =>
    obtain ⟨gap, covered, finished, rest, he, -, hc, -, -⟩ := h.exists_of_cons
    have hn := List.append_eq_nil_iff.mp (List.append_eq_nil_iff.mp he.symm).2
    exact absurd hn.1 hc.ne_nil

/-- A delimiting character stops what became a token, unless that is a line comment and the
character does not end its line. -/
theorem stops_of_token {finished : Finished} {char : Char}
    (hd : (lexicon.charClass char).delimits = true)
    (hu : ¬ (finished.token lexicon mark).IsUnterminated)
    (hline : (finished.token lexicon mark).IsLineComment → endsLine char = true) :
    finished.Stops lexicon char := by
  obtain ⟨category, covered⟩ := finished
  refine ⟨hd, ?_, ?_, ?_⟩
  · rintro rfl
    exact hu (Or.inl rfl)
  · rintro rfl
    exact hu (Or.inr rfl)
  · rintro rfl hp
    exact hline ⟨rfl, hp⟩

/-- Two texts that meet in front of a delimiting character keep their tokens. Only a token that ends
where the first text does gets that character as its next one, and does not take it. -/
theorem Scans.append {char : Char} {rest : Text} {more : List Token}
    (h : Scans lexicon mark text tokens) (hl : text.length ≤ nestingLimit)
    (hd : (lexicon.charClass char).delimits = true) (hu : ∀ token ∈ tokens, ¬ token.IsUnterminated)
    (hline : ∀ last ∈ tokens.getLast?, last.IsLineComment →
      last.span.stop = (mark.afterAll text).position → endsLine char = true)
    (hm : Scans lexicon (mark.afterAll text) (char :: rest) more) :
    Scans lexicon mark (text ++ char :: rest) (tokens ++ more) := by
  induction h with
  | done => exact hm
  | blank hb _ ih =>
    rw [List.length_cons] at hl
    exact .blank hb (ih (by omega) hu hline hm)
  | @token mark covered left finished tokens hc hs ih =>
    rw [List.length_append] at hl
    rw [Mark.afterAll_append] at hm hline
    have hn : Scans lexicon (mark.afterAll covered) (left ++ char :: rest) (tokens ++ more) := by
      refine ih (by omega) (fun token ht => hu token (List.mem_cons_of_mem _ ht)) ?_ hm
      intro last ht
      exact hline last (by simp [List.getLast?_cons, Option.mem_def.mp ht])
    rw [List.append_assoc, List.cons_append]
    refine .token ?_ hn
    cases left with
    | nil =>
      obtain rfl := hs.eq_nil
      have ht : finished.text = covered := hc.text_eq
      refine hc.of_stops_of_idle (by omega) ?_ rest
      refine stops_of_token hd (hu _ List.mem_cons_self) fun hcomment => ?_
      exact hline _ rfl hcomment (by rw [Finished.token, ht]; rfl)
    | cons next others => exact hc.of_cons (others ++ char :: rest)

/-- Joined sources that meet in front of a delimiting character have joined tokens, if the first
one leaves nothing open and a line comment at its end is ended by that character. -/
theorem tokenize_append (lexicon : Lexicon) (first : Text) (char : Char) (rest : Text)
    (hd : (lexicon.charClass char).delimits = true)
    (hl : (first ++ char :: rest).length < countLimit) :
    ∃ tokens more, ScansTo lexicon first tokens ∧ ScansTo lexicon (char :: rest) more ∧
      ((∀ token ∈ tokens, ¬ token.IsUnterminated) →
        (∀ last ∈ tokens.getLast?, last.IsLineComment →
          last.span.stop = Text.byteLength first → char = '\n' ∨ char = '\r') →
        ScansTo lexicon (first ++ char :: rest) (tokens ++ more.map (Token.shift first))) := by
  have hl' := hl
  rw [List.length_append] at hl'
  obtain ⟨tokens, hf⟩ := exists_scans lexicon .origin first
  obtain ⟨more, hm⟩ := exists_scans lexicon .origin (char :: rest)
  refine ⟨tokens, more, hf.scansTo (by omega), hm.scansTo (by omega), fun hu hline => ?_⟩
  have hm' := hm.moved (Nat.le_refl _) first
  rw [Mark.moved_origin] at hm'
  refine (hf.append (Nat.le_of_lt (Nat.lt_of_le_of_lt ?_ hl)) hd hu ?_ hm').scansTo hl
  · rw [List.length_append]
    exact Nat.le_add_right _ _
  · intro last ht hcomment hstop
    refine endsLine_iff.mpr (hline last ht hcomment ?_)
    rwa [Mark.origin_afterAll] at hstop

/-- A character that starts nothing, between two operators that it keeps apart. -/
theorem tokenize_append_unexpected :
    (Lexicon.standard.charClass '@').delimits = true ∧
      ("b\n&".toList ++ '@' :: "=\nx".toList).length < countLimit ∧
      ScansTo .standard ("b\n&".toList ++ '@' :: "=\nx".toList)
        [⟨.identifier, "b".toList, ⟨0, 1, 1, 1⟩⟩,
          ⟨.malformed .unknownOperator, "&".toList, ⟨2, 3, 2, 1⟩⟩,
          ⟨.malformed .unexpectedCharacter, "@".toList, ⟨3, 4, 2, 2⟩⟩,
          ⟨.operator, "=".toList, ⟨4, 5, 2, 3⟩⟩,
          ⟨.identifier, "x".toList, ⟨6, 7, 3, 1⟩⟩] := by
  have hd : (Lexicon.standard.charClass '@').delimits = true := by decide
  have hl : ("b\n&".toList ++ '@' :: "=\nx".toList).length < countLimit := by decide
  obtain ⟨tokens, more, hf, hm, h⟩ := tokenize_append .standard _ _ _ hd hl
  have ht : tokens = [⟨.identifier, "b".toList, ⟨0, 1, 1, 1⟩⟩,
      ⟨.malformed .unknownOperator, "&".toList, ⟨2, 3, 2, 1⟩⟩] :=
    hf.eq_of_tokenize (by decide +kernel)
  have hr : more = [⟨.malformed .unexpectedCharacter, "@".toList, ⟨0, 1, 1, 1⟩⟩,
      ⟨.operator, "=".toList, ⟨1, 2, 1, 2⟩⟩, ⟨.identifier, "x".toList, ⟨3, 4, 2, 1⟩⟩] :=
    hm.eq_of_tokenize (by decide +kernel)
  subst ht hr
  exact ⟨hd, hl, h (by simp [Token.IsUnterminated]) (by simp [Token.IsLineComment])⟩

end TableLexer
