import TableLexer.Proofs.Concatenation
import TableLexer.Proofs.Origins

/-!
# What follows a line comment

A line comment goes on up to a line feed or a carriage return, but only line feeds start a new
line. Main statement: behind a line comment of a scan there is white space that begins with one of
the two, and the token that follows is on a later line exactly if there is a line feed in that white
space.
-/

namespace TableLexer

open Grammar

variable {lexicon : Lexicon} {mark : Mark} {text covered rest : Text} {tokens : List Token}
  {finished : Finished}

namespace Attempt

/-- A line comment takes all characters up to one that ends its line. -/
theorem Completes.of_lineComment (h : (lineComment text).Completes lexicon covered finished rest) :
    (∀ char ∈ covered, endsLine char = false) ∧ ∀ next ∈ rest.head?, endsLine next = true := by
  generalize ha : lineComment text = attempt at h
  induction h generalizing text with
  | closed h =>
    subst ha
    rw [step, stepLineComment] at h
    split_ifs at h
  | released h =>
    subst ha
    rw [step, stepLineComment] at h
    split_ifs at h with hend
    refine ⟨by simp, ?_⟩
    rintro _ ⟨⟩
    exact endsLine_iff.mpr hend
  | ended h => exact ⟨by simp, by simp⟩
  | extended h _ ih =>
    subst ha
    rw [step, stepLineComment] at h
    split_ifs at h with hend
    obtain ⟨hcovered, hnext⟩ := ih (Move.extend.inj h)
    rw [← endsLine_iff, Bool.not_eq_true] at hend
    exact ⟨List.forall_mem_cons.mpr ⟨hend, hcovered⟩, hnext⟩

/-- Two slashes begin a line comment, which holds no end of line and has one behind it. -/
theorem Completes.of_slashes (h : idle.Completes lexicon covered finished rest)
    (hs : ['/', '/'] <+: covered) :
    (∀ char ∈ covered, endsLine char = false) ∧ ∀ next ∈ rest.head?, endsLine next = true := by
  obtain ⟨body, rfl⟩ := hs
  have hslash : idle.step lexicon '/' = .extend (operator ['/']) := rfl
  have hslashes : (operator ['/']).step lexicon '/' = .extend (lineComment ['/', '/']) := rfl
  have hend : endsLine '/' = false := by decide
  cases h with
  | extended h hc =>
    obtain rfl := Move.extend.inj (h.symm.trans hslash)
    cases hc with
    | closed h => exact Move.noConfusion (h.symm.trans hslashes)
    | extended h hc =>
      obtain rfl := Move.extend.inj (h.symm.trans hslashes)
      obtain ⟨hbody, hnext⟩ := hc.of_lineComment
      exact ⟨List.forall_mem_cons.mpr ⟨hend, List.forall_mem_cons.mpr ⟨hend, hbody⟩⟩, hnext⟩

end Attempt

namespace Scans

/-- Two tokens in a row have white space between them, if anything, and the second one begins with
another character. -/
theorem exists_between {first second : Token} (h : Scans lexicon mark text tokens)
    (hi : [first, second] <:+: tokens) :
    ∃ (before covered gap : Text) (char : Char) (after : Text) (finished other : Finished),
      text = before ++ (covered ++ (gap ++ char :: after)) ∧
      (∀ blank ∈ gap, Text.isBlank blank = true) ∧ Text.isBlank char = false ∧
      Attempt.idle.Completes lexicon covered finished (gap ++ char :: after) ∧
      first = finished.token lexicon (mark.afterAll before) ∧
      second = other.token lexicon (((mark.afterAll before).afterAll covered).afterAll gap) := by
  obtain ⟨front, back, rfl⟩ := hi
  rw [List.append_assoc] at h
  obtain ⟨passed, left, rfl, hleft⟩ := h.exists_of_append
  obtain ⟨lead, covered, finished, rest, rfl, -, hc, rfl, hrest⟩ := hleft.exists_of_cons
  obtain ⟨gap, taken, other, more, rfl, hb, ho, rfl, -⟩ := hrest.exists_of_cons
  obtain ⟨char, others, rfl⟩ := List.exists_cons_of_ne_nil ho.ne_nil
  have hfirst : Text.isBlank char = false := ho.isBlank_eq_false
  rw [← Mark.afterAll_append]
  exact ⟨passed ++ lead, covered, gap, char, others ++ more, finished, other, by simp, hb, hfirst,
    hc, rfl, by rw [Mark.afterAll_append mark]⟩

end Scans

/-- A line comment is what an attempt completes that begins with two slashes. -/
theorem Token.IsLineComment.of_token (h : (finished.token lexicon mark).IsLineComment) :
    (finished.token lexicon mark).lexeme = finished.text ∧ ['/', '/'] <+: finished.text := by
  obtain ⟨hkind, hlexeme⟩ := h
  have hstring : lexicon.kindOf finished.text finished.category ≠ .string := by
    intro hs
    have hcomment : lexicon.kindOf finished.text finished.category = .comment := hkind
    rw [hs] at hcomment
    cases hcomment
  have htext : (finished.token lexicon mark).lexeme = finished.text := if_neg hstring
  rw [htext] at hlexeme
  exact ⟨htext, hlexeme⟩

/-- Behind a line comment of a source there is white space that begins with the line feed or
carriage return that ended the comment. The token that follows is so many lines further down as
that white space has line feeds: on the comment's own line if it has none. -/
theorem line_comment_ended {source : Text} {collector collected : Collector}
    {comment following : Token} (h : tokenize lexicon source collector = .ok (tokens, collected))
    (hi : [comment, following] <:+: tokens) (hc : comment.IsLineComment) :
    ∃ before gap after, source = before ++ (comment.lexeme ++ (gap ++ after)) ∧
      comment.span.start = Text.byteLength before ∧
      following.span.start = Text.byteLength (before ++ (comment.lexeme ++ gap)) ∧
      (∀ char ∈ gap, Text.isBlank char = true) ∧
      (∀ char ∈ comment.lexeme, char ≠ '\n' ∧ char ≠ '\r') ∧
      (gap.head? = some '\n' ∨ gap.head? = some '\r') ∧
      following.span.line = comment.span.line + Text.breaks gap ∧
      (comment.span.line < following.span.line ↔ '\n' ∈ gap) := by
  obtain ⟨before, covered, gap, char, after, finished, other, rfl, hblank, hchar, hcovered, rfl,
    rfl⟩ := (scans_of_tokenize h).1.exists_between hi
  obtain ⟨hlexeme, hslashes⟩ := hc.of_token
  have htext : finished.text = covered := hcovered.text_eq
  rw [htext] at hlexeme hslashes
  obtain ⟨hline, hnext⟩ := hcovered.of_slashes hslashes
  have hinner : ∀ inner ∈ covered, inner ≠ '\n' ∧ inner ≠ '\r' := by
    intro inner hm
    have hend := hline inner hm
    rwa [← Bool.not_eq_true, endsLine_iff, not_or] at hend
  have hgap : gap.head? = some '\n' ∨ gap.head? = some '\r' := by
    cases gap with
    | nil =>
      have hend := isBlank_of_endsLine (hnext char rfl)
      rw [hchar] at hend
      cases hend
    | cons blank others =>
      rw [List.head?_cons, Option.some_inj, Option.some_inj]
      exact endsLine_iff.mp (hnext blank rfl)
  have hinside : Text.breaks covered = 0 :=
    List.count_eq_zero.mpr fun hm => (hinner '\n' hm).1 rfl
  have hlines : (((Mark.origin.afterAll before).afterAll covered).afterAll gap).line =
      (Mark.origin.afterAll before).line + Text.breaks gap := by
    rw [Mark.afterAll_line _ gap, Mark.afterAll_line _ covered, hinside, Nat.add_zero]
  have hposition : (((Mark.origin.afterAll before).afterAll covered).afterAll gap).position =
      Text.byteLength (before ++ (covered ++ gap)) := by
    rw [← Mark.afterAll_append, ← Mark.afterAll_append, Mark.origin_afterAll]
  have hfurther : (Mark.origin.afterAll before).line <
      (Mark.origin.afterAll before).line + Text.breaks gap ↔ '\n' ∈ gap := by
    rw [Nat.lt_add_right_iff_pos]
    exact List.count_pos_iff
  rw [hlexeme]
  refine ⟨before, gap, char :: after, rfl, ?_, hposition, hblank, hinner, hgap, hlines, ?_⟩
  · rw [Finished.token, Mark.origin_afterAll]
  · rw [Finished.token, Finished.token, hlines]
    exact hfurther

/-- A comment that a carriage return ends, with a line feed behind it. -/
theorem line_comment_ended_return_feed :
    ∃ collected, tokenize .standard "// c\r\nx".toList .lenient =
        .ok ([⟨.comment, "// c".toList, ⟨0, 4, 1, 1⟩⟩, ⟨.identifier, "x".toList, ⟨6, 7, 2, 1⟩⟩],
          collected) ∧
      ∃ before gap after, "// c\r\nx".toList = before ++ ("// c".toList ++ (gap ++ after)) ∧
        (gap.head? = some '\n' ∨ gap.head? = some '\r') ∧ '\n' ∈ gap := by
  have ht : (tokenize .standard "// c\r\nx".toList .lenient).map Prod.fst =
      .ok [⟨.comment, "// c".toList, ⟨0, 4, 1, 1⟩⟩, ⟨.identifier, "x".toList, ⟨6, 7, 2, 1⟩⟩] := by
    decide +kernel
  obtain ⟨⟨tokens, collected⟩, h, rfl⟩ := Fault.exists_of_map ht
  have hcomment : Token.IsLineComment ⟨.comment, "// c".toList, ⟨0, 4, 1, 1⟩⟩ :=
    ⟨rfl, " c".toList, rfl⟩
  obtain ⟨before, gap, after, hs, -, -, -, -, hgap, -, hline⟩ :=
    line_comment_ended h (List.infix_refl _) hcomment
  exact ⟨collected, h, before, gap, after, hs, hgap, hline.mp (by decide)⟩

/-- A comment that a carriage return alone ends: the token behind it is on the same line. -/
theorem line_comment_ended_return_alone :
    ∃ comment following collected,
      tokenize .standard "// c\rx".toList .lenient = .ok ([comment, following], collected) ∧
      comment.IsLineComment ∧ ¬ comment.span.line < following.span.line := by
  have ht : (tokenize .standard "// c\rx".toList .lenient).map Prod.fst =
      .ok [⟨.comment, "// c".toList, ⟨0, 4, 1, 1⟩⟩, ⟨.identifier, "x".toList, ⟨5, 6, 1, 6⟩⟩] := by
    decide +kernel
  obtain ⟨⟨tokens, collected⟩, h, rfl⟩ := Fault.exists_of_map ht
  have hcomment : Token.IsLineComment ⟨.comment, "// c".toList, ⟨0, 4, 1, 1⟩⟩ :=
    ⟨rfl, " c".toList, rfl⟩
  exact ⟨_, _, collected, h, hcomment, by decide⟩

end TableLexer
