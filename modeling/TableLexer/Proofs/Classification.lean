import TableLexer.Proofs.Calls

/-!
# Kinds and categories

The category of a kind is a table of its own, beside the classification of lexemes. Main
statement: every token that a scanner hands out is classified as what it is when its lexeme is
taken under the category of its kind, although a string literal has lost its quotes by then.
-/

namespace TableLexer

namespace Lexicon

/-- What a text was classified as is what it is under the category of that kind. -/
theorem kindOf_category (lexicon : Lexicon) (text : Text) (category : Category) :
    lexicon.kindOf text (lexicon.kindOf text category).category =
      lexicon.kindOf text category := by
  by_cases hk : lexicon.kindOf text category = .malformed .unexpectedCharacter
  · rw [hk]
    rfl
  · rw [← eq_category_of_kindOf rfl hk]

/-- A text that turned out to be no string literal is classified alike under the category of its
kind. -/
theorem classify_category {lexicon : Lexicon} {text : Text} {category : Category}
    {kind : TokenKind} (h : lexicon.classify text category = .ok kind) (hs : kind ≠ .string) :
    lexicon.classify text kind.category = .ok kind := by
  rw [classify] at h
  split_ifs at h with he
  obtain rfl := Except.ok.inj h
  have hc : category ≠ .string := by
    rintro rfl
    exact hs rfl
  have hn : text.isEmpty = false := by simpa [hc] using he
  rw [classify, hn, kindOf_category]
  rfl

end Lexicon

/-- The lexeme of a token is classified as the token itself was, under the category of its
kind. -/
def Token.IsClassified (lexicon : Lexicon) (token : Token) : Prop :=
  lexicon.classify token.lexeme token.kind.category = .ok token.kind

namespace Scanner

variable {scanner behind last : Scanner} {collector collected : Collector}

/-- A token is classified by the lexicon it was made with. -/
theorem isClassified_of_token {start : Mark} {finished : Finished} {token : Token}
    (h : scanner.token start finished = .ok token) : token.IsClassified scanner.lexicon := by
  obtain ⟨covered, -, h⟩ := Fault.exists_of_bind h
  split_ifs at h with hc
  obtain ⟨kind, hk, rfl⟩ := Fault.exists_of_map h
  rw [Token.IsClassified]
  dsimp only
  by_cases hs : kind = .string
  · subst hs
    rw [if_pos rfl, Lexicon.classify, if_neg (by simp [TokenKind.category])]
    rfl
  · rw [if_neg hs]
    exact Lexicon.classify_category hk hs

/-- A call answers with a classified token, if with any, and keeps the lexicon. -/
theorem isClassified_of_next {answer : Option Token}
    (h : scanner.next collector = .ok (answer, behind, collected)) :
    behind.lexicon = scanner.lexicon ∧ ∀ token ∈ answer, token.IsClassified scanner.lexicon := by
  rw [next_eq] at h
  obtain ⟨pursuit, -, h⟩ := Fault.exists_of_bind h
  split at h
  · obtain ⟨rfl, rfl, -⟩ : none = answer ∧ scanner.behind pursuit = behind ∧
        collector = collected := by simpa using h
    exact ⟨rfl, by simp⟩
  · obtain ⟨token, ht, h⟩ := Fault.exists_of_bind h
    obtain ⟨-, -, h⟩ := Fault.exists_of_map h
    obtain ⟨rfl, rfl, -⟩ : some token = answer ∧ scanner.behind pursuit = behind ∧
        (report collector token).2 = collected := by simpa using h
    refine ⟨rfl, ?_⟩
    rintro _ ⟨⟩
    have hc := isClassified_of_token ht
    exact hc

/-- However many calls are made, every token among the answers is classified. -/
theorem isClassified_of_calls {count : Nat} {answers : List (Option Token)}
    (h : scanner.calls count collector = .ok (answers, last, collected)) :
    ∀ token, some token ∈ answers → token.IsClassified scanner.lexicon := by
  induction count generalizing scanner collector answers last collected with
  | zero =>
    obtain ⟨rfl, -, -⟩ : [] = answers ∧ scanner = last ∧ collector = collected := by
      simpa [calls] using h
    simp
  | succ count ih =>
    rw [calls] at h
    obtain ⟨⟨answer, behind, held⟩, hn, h⟩ := Fault.exists_of_bind h
    obtain ⟨⟨others, scan, kept⟩, hc, h⟩ := Fault.exists_of_map h
    obtain ⟨rfl, -, -⟩ : answer :: others = answers ∧ scan = last ∧ kept = collected := by
      simpa using h
    obtain ⟨hlexicon, hanswer⟩ := isClassified_of_next hn
    intro token hm
    rcases List.mem_cons.mp hm with rfl | hm
    · exact hanswer token rfl
    · rw [← hlexicon]
      exact ih hc token hm

end Scanner

/-- Every token that any number of calls on any source answers with is classified under the
category of its kind as the kind that it has; so are all tokens of a source of fewer than
`countLimit` characters. -/
theorem tokens_reclassify (words : List Text) (source : Text) :
    (∀ count collector answers last collected,
      (Scanner.start (Lexicon.standard.withKeywords words) source).calls count collector =
          .ok (answers, last, collected) →
        ∀ token, some token ∈ answers →
          (Lexicon.standard.withKeywords words).classify token.lexeme token.kind.category =
            .ok token.kind) ∧
    (source.length < countLimit → ∃ tokens,
      ScansTo (Lexicon.standard.withKeywords words) source tokens ∧ ∀ token ∈ tokens,
        (Lexicon.standard.withKeywords words).classify token.lexeme token.kind.category =
          .ok token.kind) := by
  refine ⟨fun count collector answers last collected h => Scanner.isClassified_of_calls h, ?_⟩
  intro hl
  obtain ⟨tokens, hs⟩ := exists_scans (Lexicon.standard.withKeywords words) .origin source
  refine ⟨tokens, hs.scansTo hl, fun token hm => ?_⟩
  obtain ⟨last, hc, -⟩ := (Scanner.awaits_start hs hl).calls tokens.length []
  refine Scanner.isClassified_of_calls hc token ?_
  rw [List.take_length]
  exact List.mem_append_left _ (List.mem_map_of_mem hm)

/-- An empty literal, a reserved word, a punctuation character, an operator that is none, and a
character that starts nothing. A strict collector lets the first three calls pass. -/
theorem tokens_reclassify_mixed :
    "\"\" let ; & #".toList.length < countLimit ∧
      (∃ last collected,
        (Scanner.start (Lexicon.standard.withKeywords ["let".toList])
            "\"\" let ; & #".toList).calls 3 .refusing =
          .ok ([some ⟨.string, [], ⟨0, 2, 1, 1⟩⟩, some ⟨.keyword, "let".toList, ⟨3, 6, 1, 4⟩⟩,
            some ⟨.semicolon, ";".toList, ⟨7, 8, 1, 8⟩⟩], last, collected)) ∧
      (Lexicon.standard.withKeywords ["let".toList]).classify [] .string = .ok .string ∧
      ∃ tokens, ScansTo (Lexicon.standard.withKeywords ["let".toList]) "\"\" let ; & #".toList
          tokens ∧
        tokens.map (fun token => (token.kind, token.lexeme)) =
          [(.string, []), (.keyword, "let".toList), (.semicolon, ";".toList),
            (.malformed .unknownOperator, "&".toList),
            (.malformed .unexpectedCharacter, "#".toList)] ∧
        ∀ token ∈ tokens, (Lexicon.standard.withKeywords ["let".toList]).classify token.lexeme
          token.kind.category = .ok token.kind := by
  have hl : "\"\" let ; & #".toList.length < countLimit := by decide
  obtain ⟨hcalls, hscan⟩ := tokens_reclassify ["let".toList] "\"\" let ; & #".toList
  have hc : ((Scanner.start (Lexicon.standard.withKeywords ["let".toList])
      "\"\" let ; & #".toList).calls 3 .refusing).map Prod.fst =
        .ok [some ⟨.string, [], ⟨0, 2, 1, 1⟩⟩, some ⟨.keyword, "let".toList, ⟨3, 6, 1, 4⟩⟩,
          some ⟨.semicolon, ";".toList, ⟨7, 8, 1, 8⟩⟩] := by
    decide +kernel
  obtain ⟨⟨answers, last, collected⟩, hanswers, rfl⟩ := Fault.exists_of_map hc
  have hempty := hcalls 3 .refusing _ last collected hanswers ⟨.string, [], ⟨0, 2, 1, 1⟩⟩
    List.mem_cons_self
  obtain ⟨tokens, hs, hall⟩ := hscan hl
  have ht : tokens = [⟨.string, [], ⟨0, 2, 1, 1⟩⟩, ⟨.keyword, "let".toList, ⟨3, 6, 1, 4⟩⟩,
      ⟨.semicolon, ";".toList, ⟨7, 8, 1, 8⟩⟩,
      ⟨.malformed .unknownOperator, "&".toList, ⟨9, 10, 1, 10⟩⟩,
      ⟨.malformed .unexpectedCharacter, "#".toList, ⟨11, 12, 1, 12⟩⟩] :=
    hs.eq_of_tokenize (by decide +kernel)
  exact ⟨hl, ⟨last, collected, hanswers⟩, hempty, tokens, hs, by rw [ht]; rfl, hall⟩

end TableLexer
