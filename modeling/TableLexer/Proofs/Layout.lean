import TableLexer.Proofs.Concatenation
import TableLexer.Proofs.Reconstruction

/-!
# Other layouts of a source

The written forms of the tokens of a source, set apart by any white space, have the same tokens:
each form is recognised alone, and white space neither joins nor splits tokens. Only a line
comment needs an end of line behind it, and what the end of the input cut off has to stay at the
end.
-/

namespace TableLexer

open Grammar

/-- White space to be set behind each of the tokens. It may lack behind the last one only,
begins with an end of line behind a line comment, and lacks behind a last token that is
unterminated. -/
def Spaced : List Token → List Text → Prop
  | [], [] => True
  | token :: tokens, gap :: gaps =>
    (∀ char ∈ gap, Text.isBlank char = true) ∧ (tokens ≠ [] → gap ≠ []) ∧
      (token.IsLineComment → ∀ head ∈ gap.head?, head = '\n' ∨ head = '\r') ∧
      (tokens = [] → token.IsUnterminated → gap = []) ∧ Spaced tokens gaps
  | [], _ :: _ | _ :: _, [] => False

/-- White space, and then parts with white space behind each. -/
def spread (lead : Text) (parts gaps : List Text) : Text :=
  lead ++ (List.zipWith (· ++ ·) parts gaps).flatten

namespace Scans

variable {lexicon : Lexicon} {mark : Mark} {text : Text} {tokens : List Token}

/-- Only the end of the input cuts a token off. -/
theorem not_isUnterminated {covered rest : Text} {finished : Finished}
    (hc : Attempt.idle.Completes lexicon covered finished rest) (hl : covered.length ≤ nestingLimit)
    (hn : rest ≠ []) : ¬ (finished.token lexicon mark).IsUnterminated := by
  have he := (hc.isLexeme_of_idle hl).2
  obtain ⟨next, others, rfl⟩ := List.exists_cons_of_ne_nil hn
  obtain ⟨category, text⟩ := finished
  rintro (hu | hu)
  · obtain rfl := Lexicon.eq_category_of_kindOf hu (by decide)
    exact he next rfl
  · obtain rfl := Lexicon.eq_category_of_kindOf hu (by decide)
    exact he next rfl

/-- The written forms of the tokens of a text, set apart by white space, have the same kinds and
lexemes wherever they start. What the end of the input cut off is the last token, behind which
nothing is set. -/
theorem exists_respaced (h : Scans lexicon mark text tokens) (hl : text.length ≤ nestingLimit)
    {gaps : List Text} (hg : Spaced tokens gaps) (other : Mark) :
    ∃ again, Scans lexicon other (spread [] (tokens.map Token.spelling) gaps) again ∧
      again.map (fun token => (token.kind, token.lexeme)) =
        tokens.map (fun token => (token.kind, token.lexeme)) := by
  induction h generalizing gaps other with
  | done =>
    cases gaps with
    | nil => exact ⟨[], .done, rfl⟩
    | cons gap gaps => cases hg
  | blank _ _ ih =>
    rw [List.length_cons] at hl
    exact ih (by omega) hg other
  | @token mark covered rest finished tokens hc hs ih =>
    rw [List.length_append] at hl
    cases gaps with
    | nil => cases hg
    | cons gap gaps =>
      obtain ⟨hb, hapart, hline, hopen, hg⟩ := hg
      obtain ⟨again, ha, he⟩ := ih (by omega) hg ((other.afterAll covered).afterAll gap)
      refine ⟨finished.token lexicon other :: again, ?_, by rw [List.map_cons, he]; rfl⟩
      have hw := spelling_token hc (by omega) mark
      rw [spread, List.map_cons, List.zipWith_cons_cons, List.flatten_cons, hw, List.nil_append,
        List.append_assoc]
      refine .token ?_ (of_blank hb ha)
      cases gap with
      | nil =>
        obtain rfl : tokens = [] := by
          by_contra hn
          exact hapart hn rfl
        cases gaps with
        | nil => exact hc.of_nil
        | cons gap gaps => cases hg
      | cons char more =>
        have hd := CharClass.delimits_of_isBlank lexicon (hb char List.mem_cons_self)
        refine hc.of_stops_of_idle (by omega) ?_ _
        refine stops_of_token hd (fun hu => ?_) fun hcomment =>
          endsLine_iff.mpr (hline hcomment char rfl)
        cases rest with
        | nil => exact List.cons_ne_nil _ _ (hopen hs.eq_nil hu)
        | cons next others => exact not_isUnterminated hc (by omega) (List.cons_ne_nil _ _) hu

end Scans

/-- The written forms of the tokens of a source, with white space set around them, are scanned
as tokens of the same kinds and lexemes, none more and none less. -/
theorem tokenize_spread (lexicon : Lexicon) (source : Text) (hl : source.length < countLimit) :
    ∃ tokens slices, ScansTo lexicon source tokens ∧
      tokens.map (fun token => token.span.slice? source) = slices.map some ∧
      ∀ lead gaps, (∀ char ∈ lead, Text.isBlank char = true) → Spaced tokens gaps →
        (spread lead slices gaps).length < countLimit →
        ∃ again, ScansTo lexicon (spread lead slices gaps) again ∧
          again.map (fun token => (token.kind, token.lexeme)) =
            tokens.map (fun token => (token.kind, token.lexeme)) := by
  have hn : source.length ≤ nestingLimit := Nat.le_of_lt hl
  have hp : Mark.origin.position = Text.byteLength [] := rfl
  obtain ⟨tokens, hs⟩ := exists_scans lexicon .origin source
  refine ⟨tokens, tokens.map Token.spelling, hs.scansTo hl, ?_, ?_⟩
  · rw [List.map_map]
    exact List.map_congr_left fun token ht => (hs.covers hp hn token ht).2.2.slice?_eq
  · intro lead gaps hb hg hl'
    obtain ⟨again, ha, he⟩ := hs.exists_respaced hn hg (Mark.origin.afterAll lead)
    exact ⟨again, (Scans.of_blank hb ha).scansTo hl', he⟩

/-- A numeral with a dangling point, a line comment and a string literal, set apart. -/
theorem tokenize_spread_lines :
    "7.x//y\n\"//\"".toList.length < countLimit ∧
      ∃ again, ScansTo .standard "\t7.\u3000x //y\r\n\"//\"".toList again ∧
        again.map (fun token => (token.kind, token.lexeme)) =
          [(.number, "7.".toList), (.identifier, "x".toList), (.comment, "//y".toList),
            (.string, "//".toList)] := by
  have hl : "7.x//y\n\"//\"".toList.length < countLimit := by decide
  obtain ⟨tokens, slices, ht, hs, h⟩ := tokenize_spread .standard _ hl
  have he : tokens = [⟨.number, "7.".toList, ⟨0, 2, 1, 1⟩⟩,
      ⟨.identifier, "x".toList, ⟨2, 3, 1, 3⟩⟩, ⟨.comment, "//y".toList, ⟨3, 6, 1, 4⟩⟩,
      ⟨.string, "//".toList, ⟨7, 11, 2, 1⟩⟩] :=
    ht.eq_of_tokenize (by decide +kernel)
  have hw : slices = ["7.".toList, "x".toList, "//y".toList, "\"//\"".toList] := by
    rw [he] at hs
    refine List.map_injective_iff.mpr (fun _ _ => Option.some.inj) (hs.symm.trans ?_)
    decide +kernel
  have hg : Spaced tokens ["\u3000".toList, " ".toList, "\r\n".toList, []] := by
    have hb : ["\u3000".toList, " ".toList, "\r\n".toList].all
        (fun gap => gap.all Text.isBlank) = true := by decide
    rw [he]
    simpa [Spaced, Token.IsLineComment] using hb
  subst hw
  obtain ⟨again, ha, hk⟩ := h "\t".toList _ (List.all_eq_true.mp (by decide)) hg (by decide)
  rw [he] at hk
  exact ⟨hl, again, ha, hk⟩

end TableLexer
