import TableLexer.Proofs.Findings
import TableLexer.Proofs.Tables
import Mathlib.Data.List.Forall2

/-!
# Reserved words and other names

Which words are reserved has no influence on where tokens begin and end, since the tables that
decide about it are the same for every lexicon; nor has it on what is reported, or on any token but
the names. A name is a keyword exactly if its lexeme is reserved. Main statement: two scans of one
source with different words come to the same fault, or yield tokens that differ in nothing else.
-/

namespace TableLexer

namespace Lexicon

/-- A text has the same punctuation kind for every lexicon. -/
theorem punctuationKind_eq (lexicon : Lexicon) (text : Text) :
    lexicon.punctuationKind text = standard.punctuationKind text := by
  match text with
  | [] | _ :: _ :: _ => rfl
  | [char] => rw [punctuationKind, punctuationKind, punctuation?_eq, punctuation?_eq]

/-- Only identifiers are classified by the reserved words. -/
theorem kindOf_eq_of_ne_identifier (lexicon other : Lexicon) (text : Text) {category : Category}
    (h : category ≠ .identifier) : lexicon.kindOf text category = other.kindOf text category := by
  cases category with
  | identifier => exact absurd rfl h
  | punctuation =>
    rw [kindOf, kindOf, lexicon.punctuationKind_eq, other.punctuationKind_eq]
  | operator =>
    rw [kindOf, kindOf, isOperator_eq, isOperator_eq]
  | _ => rfl

/-- Identifiers are classified as names, and nothing else is. -/
theorem category_kindOf_eq_identifier_iff (lexicon : Lexicon) (text : Text) (category : Category) :
    (lexicon.kindOf text category).category = .identifier ↔ category = .identifier := by
  constructor
  · intro h
    have hk : lexicon.kindOf text category ≠ .malformed .unexpectedCharacter := by
      intro hk
      rw [hk] at h
      cases h
    rw [← h]
    exact eq_category_of_kindOf rfl hk
  · rintro rfl
    rw [kindOf]
    split <;> rfl

end Lexicon

/-- A character moves an attempt the same way for every lexicon. -/
theorem Attempt.step_eq (lexicon : Lexicon) (attempt : Attempt) (char : Char) :
    attempt.step lexicon char = attempt.step .standard char := by
  cases attempt with
  | idle => rw [step, step, start, start, lexicon.charClass_eq]
  | operator text =>
    rw [step, step, stepOperator, stepOperator, Lexicon.extendsOperator_eq,
      Lexicon.extendsOperator_eq]
  | _ => rfl

/-- A pursuit ends the same way for every lexicon. -/
theorem pursue_eq (lexicon : Lexicon) (attempt : Attempt) (start here : Mark) (text : Text) :
    pursue lexicon attempt start here text = pursue .standard attempt start here text := by
  induction text generalizing attempt start here with
  | nil => rfl
  | cons char rest ih =>
    rw [pursue, pursue, attempt.step_eq lexicon]
    simp only [ih]

/-- The token that a lexicon makes of the same lexeme at the same place: a name is classified
anew. -/
def Token.under (lexicon : Lexicon) (token : Token) : Token :=
  if token.kind.category = .identifier then
    { token with kind := lexicon.kindOf token.lexeme .identifier }
  else token

/-- A name is never malformed, so that the same is reported. -/
theorem Token.diagnostic?_under (lexicon : Lexicon) (token : Token) :
    (token.under lexicon).diagnostic? = token.diagnostic? := by
  rw [under]
  split_ifs with hn
  · obtain ⟨kind, lexeme, span⟩ := token
    have hold : kind.cause? = none := by
      cases kind with
      | malformed cause => cases cause <;> cases hn
      | _ => rfl
    have hnew : (lexicon.kindOf lexeme .identifier).cause? = none := by
      rw [Lexicon.kindOf]
      split <;> rfl
    rw [diagnostic?, diagnostic?, cause?, cause?, hold, hnew]
  · rfl

namespace Scanner

/-- Another lexicon makes a token at the same place of the same attempt, or comes to the same
fault. -/
theorem token_under (scanner : Scanner) (other : Lexicon) (start : Mark) (finished : Finished) :
    ({ scanner with lexicon := other } : Scanner).token start finished =
      (scanner.token start finished).map (Token.under other) := by
  obtain ⟨category, text⟩ := finished
  rw [token, token]
  cases scanner.cursor.sliceFrom start.position with
  | error fault => rfl
  | ok covered =>
    dsimp only [Except.bind]
    split_ifs with hc
    · rw [Lexicon.classify, Lexicon.classify]
      split_ifs with he
      · rfl
      · dsimp only [Except.map]
        rw [Token.under]
        dsimp only
        rw [if_congr (scanner.lexicon.category_kindOf_eq_identifier_iff text category) rfl rfl]
        by_cases hi : category = .identifier
        · subst hi
          have hs : ∀ lexicon : Lexicon, lexicon.kindOf text .identifier ≠ .string := by
            intro lexicon
            rw [Lexicon.kindOf]
            split <;> simp
          rw [if_pos rfl, if_neg (hs _), if_neg (hs _)]
        · rw [if_neg hi, other.kindOf_eq_of_ne_identifier scanner.lexicon text hi]
    · rfl

/-- The same is reported of a token whatever lexicon it is made with. -/
theorem report_under (collector : Collector) (other : Lexicon) (token : Token) :
    report collector (token.under other) = report collector token := by
  rw [report, report, Token.diagnostic?_under]

/-- A call with another lexicon stops at the same place, and reports the same. -/
theorem next_under (scanner : Scanner) (other : Lexicon) (collector : Collector) :
    ({ scanner with lexicon := other } : Scanner).next collector =
      (scanner.next collector).map fun (answer, behind, collected) =>
        (answer.map (Token.under other), { behind with lexicon := other }, collected) := by
  rw [next_eq, next_eq, pursue_eq other, pursue_eq scanner.lexicon]
  cases pursue .standard .idle scanner.cursor.mark scanner.cursor.mark scanner.cursor.rest with
  | error fault => rfl
  | ok pursuit =>
    dsimp only [Except.bind]
    cases pursuit.finished with
    | none => rfl
    | some finished =>
      have ht := token_under (scanner.behind pursuit) other pursuit.start finished
      dsimp only
      rw [show ({ scanner with lexicon := other } : Scanner).behind pursuit =
        { scanner.behind pursuit with lexicon := other } from rfl, ht]
      cases (scanner.behind pursuit).token pursuit.start finished with
      | error fault => rfl
      | ok token =>
        dsimp only [Except.map]
        rw [report_under]
        cases (report collector token).1 <;> rfl

/-- A scan with another lexicon yields the tokens of this one, classified anew. -/
theorem run_under (scanner : Scanner) (other : Lexicon) (collector : Collector) :
    ({ scanner with lexicon := other } : Scanner).run collector =
      (scanner.run collector).map fun (tokens, last, collected) =>
        (tokens.map (Token.under other), { last with lexicon := other }, collected) := by
  induction hn : scanner.cursor.rest.length using Nat.strongRecOn
    generalizing scanner collector with
  | ind count ih =>
    have hother := next_under scanner other collector
    cases hnext : scanner.next collector with
    | error fault =>
      rw [hnext] at hother
      rw [run_of_next_error hother, run_of_next_error hnext]
      rfl
    | ok result =>
      obtain ⟨answer, behind, collected⟩ := result
      rw [hnext] at hother
      cases answer with
      | none =>
        rw [run_of_next_none hother, run_of_next_none hnext]
        rfl
      | some token =>
        have hl := next_rest_length_lt hnext
        rw [run_of_next_some hother, run_of_next_some hnext, ih _ (hn ▸ hl) behind collected rfl]
        cases behind.run collected <;> rfl

end Scanner

/-- A source scanned with another lexicon has the same tokens, classified anew, and the same
reports. -/
theorem tokenize_under (lexicon other : Lexicon) (source : Text) (collector : Collector) :
    tokenize other source collector =
      (tokenize lexicon source collector).map fun (tokens, collected) =>
        (tokens.map (Token.under other), collected) := by
  have hr := Scanner.run_under (Scanner.start lexicon source) other collector
  rw [tokenize, tokenize, show Scanner.start other source =
    { Scanner.start lexicon source with lexicon := other } from rfl, hr]
  cases (Scanner.start lexicon source).run collector <;> rfl

/-- The kind of a name where the standard words and these are reserved. -/
def nameKind (words : List Text) (name : Text) : TokenKind :=
  if (Lexicon.standardKeywords ++ words).contains name then .keyword else .identifier

/-- Names are keywords exactly if they are standard words or words of the user. -/
theorem kindOf_identifier (words : List Text) (name : Text) :
    (Lexicon.standard.withKeywords words).kindOf name .identifier = nameKind words name := by
  have hreserved := (Lexicon.isKeyword_iff words name).trans List.contains_iff_mem.symm
  rw [Lexicon.kindOf, nameKind, if_congr hreserved rfl rfl]

/-- Two tokens that are the same up to the words that are reserved for each of them. -/
structure SameButReserved (words others : List Text) (first second : Token) : Prop where
  /-- They have the same lexeme. -/
  lexeme_eq : first.lexeme = second.lexeme
  /-- They have the same place. -/
  span_eq : first.span = second.span
  /-- They are of the same family. -/
  category_eq : first.kind.category = second.kind.category
  /-- They are of the same kind, unless they are names. -/
  kind_eq : first.kind.category ≠ .identifier → first.kind = second.kind
  /-- The first one, being a name, is a keyword exactly if its words say so. -/
  kind_first : first.kind.category = .identifier → first.kind = nameKind words first.lexeme
  /-- The second one, being a name, is a keyword exactly if its words say so. -/
  kind_second : second.kind.category = .identifier → second.kind = nameKind others second.lexeme

/-- A token that is classified as its own lexicon does it differs from the same one under another
lexicon in nothing but the reserved words. -/
theorem Token.sameButReserved (words others : List Text) {token : Token}
    (h : token.under (Lexicon.standard.withKeywords words) = token) :
    SameButReserved words others token (token.under (Lexicon.standard.withKeywords others)) := by
  by_cases hn : token.kind.category = .identifier
  · rw [under, if_pos hn, kindOf_identifier] at h
    have hk : token.kind = nameKind words token.lexeme := (congrArg Token.kind h).symm
    have hc : (nameKind others token.lexeme).category = .identifier := by
      rw [nameKind]
      split <;> rfl
    rw [under, if_pos hn, kindOf_identifier]
    exact {
      lexeme_eq := rfl
      span_eq := rfl
      category_eq := hn.trans hc.symm
      kind_eq := fun hne => absurd hn hne
      kind_first := fun _ => hk
      kind_second := fun _ => rfl }
  · rw [under, if_neg hn]
    exact {
      lexeme_eq := rfl
      span_eq := rfl
      category_eq := rfl
      kind_eq := fun _ => rfl
      kind_first := fun hi => absurd hi hn
      kind_second := fun hi => absurd hi hn }

/-- The tokens of a source with these words are classified as these words have it. -/
theorem under_eq_of_tokenize {words : List Text} {source : Text} {collector collected : Collector}
    {tokens : List Token}
    (h : tokenize (Lexicon.standard.withKeywords words) source collector =
      .ok (tokens, collected)) :
    ∀ token ∈ tokens, token.under (Lexicon.standard.withKeywords words) = token := by
  have hsame := tokenize_under (Lexicon.standard.withKeywords words)
    (Lexicon.standard.withKeywords words) source collector
  rw [h] at hsame
  have hmap : tokens = tokens.map (Token.under (Lexicon.standard.withKeywords words)) :=
    (Prod.mk.inj (Except.ok.inj hsame)).1
  exact List.map_inj_left.mp (hmap.symm.trans tokens.map_id.symm)

/-- Two scans of one source, with any words reserved besides the standard ones, report the same
and yield tokens that differ in nothing but the reserved words. Where one stops at a fault the
other one stops at the same; a collector that keeps everything sees none on a source of fewer than
`countLimit` characters. -/
theorem keywords_only_relabel (words others : List Text) (source : Text) (collector : Collector) :
    (∃ fault, tokenize (Lexicon.standard.withKeywords words) source collector = .error fault ∧
      tokenize (Lexicon.standard.withKeywords others) source collector = .error fault ∧
      (collector.strict = true ∨ countLimit ≤ source.length)) ∨
    ∃ tokens relabelled collected,
      tokenize (Lexicon.standard.withKeywords words) source collector =
        .ok (tokens, collected) ∧
      tokenize (Lexicon.standard.withKeywords others) source collector =
        .ok (relabelled, collected) ∧
      List.Forall₂ (SameButReserved words others) tokens relabelled := by
  have hother := tokenize_under (Lexicon.standard.withKeywords words)
    (Lexicon.standard.withKeywords others) source collector
  cases h : tokenize (Lexicon.standard.withKeywords words) source collector with
  | error fault =>
    rw [h] at hother
    refine Or.inl ⟨fault, rfl, hother, ?_⟩
    obtain ⟨strict, recorded⟩ := collector
    cases strict with
    | true => exact Or.inl rfl
    | false => exact Or.inr (countLimit_le_of_fault h)
  | ok result =>
    obtain ⟨tokens, collected⟩ := result
    rw [h] at hother
    refine Or.inr ⟨tokens, _, collected, rfl, hother, ?_⟩
    rw [List.forall₂_map_right_iff, List.forall₂_same]
    intro token hm
    exact Token.sameButReserved words others (under_eq_of_tokenize h token hm)

end TableLexer
