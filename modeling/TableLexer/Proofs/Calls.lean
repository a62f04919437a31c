import TableLexer.Proofs.Conservation
import TableLexer.Proofs.Reconstruction

/-!
# Consecutive calls

Tokens are handed out one for each call, and a caller need not stop at the end of the source. A
scan awaits tokens if they are what is still to come: one call answers with the first of them and
leaves the others to be awaited. Main statement: on a source of fewer than `countLimit` characters
any number of calls is answered, with the tokens and then with none, so that no count overflows,
no cut falls outside its text, and no promise between the parts of the scanner is broken.
-/

namespace TableLexer

/-- What a text between two quotes has between them, cut out at byte offsets: from behind the
first byte up to the last one. Any other text stays as it is. -/
def unquoted? (text : Text) : Option Text :=
  if 2 ≤ Text.byteLength text ∧ text.head? = some '"' ∧ text.getLast? = some '"' then
    Text.sliceBytes? text 1 (Text.byteLength text - 1)
  else some text

/-- A text that begins and ends with a quote is a body between two quotes, or one quote that is
both. -/
theorem exists_body {text : Text} (hfirst : text.head? = some '"')
    (hlast : text.getLast? = some '"') (hn : text ≠ ['"']) :
    ∃ body, text = '"' :: (body ++ ['"']) := by
  obtain ⟨rest, rfl⟩ := List.head?_eq_some_iff.mp hfirst
  have hr : rest ≠ [] := by
    rintro rfl
    exact hn rfl
  rw [List.getLast?_cons_of_ne_nil hr] at hlast
  exact ⟨rest.dropLast, by rw [List.dropLast_append_getLast? _ hlast]⟩

/-- The cut at byte offsets is always possible, and takes away just the quotes. -/
theorem unquoted?_eq (text : Text) : unquoted? text = some (stripQuotes text) := by
  by_cases hbody : ∃ body, text = '"' :: (body ++ ['"'])
  · obtain ⟨body, rfl⟩ := hbody
    have hone : Text.byteLength ['"'] = 1 := rfl
    have hlength : Text.byteLength ('"' :: (body ++ ['"'])) = 1 + (Text.byteLength body + 1) := by
      rw [Text.byteLength_cons, Text.byteLength_append, hone]
      rfl
    have hlast : ('"' :: (body ++ ['"'])).getLast? = some '"' := by
      rw [← List.cons_append, List.getLast?_concat]
    have hslice := Text.sliceBytes?_append ['"'] body ['"']
    rw [hone, List.singleton_append] at hslice
    rw [unquoted?, hlength, if_pos ⟨by omega, rfl, hlast⟩, stripQuotes_literal, ← hslice]
    rfl
  · have hbytes : ¬ (2 ≤ Text.byteLength text ∧ text.head? = some '"' ∧
        text.getLast? = some '"') := by
      rintro ⟨least, hfirst, hlast⟩
      refine hbody (exists_body hfirst hlast ?_)
      rintro rfl
      exact absurd least (by decide)
    have hchars : ¬ (2 ≤ text.length ∧ text.head? = some '"' ∧ text.getLast? = some '"') := by
      rintro ⟨least, hfirst, hlast⟩
      refine hbody (exists_body hfirst hlast ?_)
      rintro rfl
      exact absurd least (by decide)
    rw [unquoted?, if_neg hbytes, stripQuotes, if_neg hchars]

/-- Where a closer leaves a block comment open, the depth is counted down without passing
zero. -/
theorem Attempt.depth_of_closer {lexicon : Lexicon} {covered further : Text} {depth next : Nat}
    {pending : Option Char} (h : step lexicon (blockComment covered depth (some '*')) '/' =
      .extend (blockComment further next pending)) : (next : Int) = depth - 1 := by
  have hd := depth_of_extend h
  rwa [depthBehind, if_pos ⟨rfl, rfl⟩] at hd

/-- There are no more tokens than characters. -/
theorem Scans.length_le {lexicon : Lexicon} {mark : Mark} {text : Text} {tokens : List Token}
    (h : Scans lexicon mark text tokens) : tokens.length ≤ text.length := by
  induction h with
  | done => exact Nat.le_refl _
  | blank _ _ ih => exact Nat.le_succ_of_le ih
  | token hc _ ih =>
    have hp := List.length_pos_of_ne_nil hc.ne_nil
    rw [List.length_cons, List.length_append]
    omega

namespace Scanner

/-- So many calls for the next token: their answers, with the scan and the collector behind
them. -/
def calls : Nat → Scanner → Collector →
    Except Fault (List (Option Token) × Scanner × Collector)
  | 0, scanner, collector => .ok ([], scanner, collector)
  | count + 1, scanner, collector =>
    (scanner.next collector).bind fun (answer, behind, collector) =>
      (calls count behind collector).map fun (answers, last, collector) =>
        (answer :: answers, last, collector)

/-- These are the tokens that a scan in the middle of its source has still to come to, and there
is room for all that is left. -/
inductive Awaits : Scanner → List Token → Prop
  /-- They are the tokens of what is left, which begins at the cursor. -/
  | middle {lexicon : Lexicon} {mark : Mark} {passed rest : Text} {tokens : List Token}
      (hs : Scans lexicon mark rest tokens) (hp : mark.position = Text.byteLength passed)
      (hr : mark.Admits rest) : Awaits (amid lexicon passed rest mark) tokens

variable {lexicon : Lexicon} {scanner : Scanner} {tokens : List Token}

/-- A scan that has not begun awaits the tokens of its source. -/
theorem awaits_start {source : Text} (h : Scans lexicon .origin source tokens)
    (hl : source.length < countLimit) : (start lexicon source).Awaits tokens := by
  change (amid lexicon [] source .origin).Awaits tokens
  exact .middle h rfl (Mark.hasRoom_origin hl).admits

/-- One call answers with the first token awaited, if there is one, and leaves the others to be
awaited. -/
theorem Awaits.next (h : scanner.Awaits tokens) (recorded : List Diagnostic) :
    ∃ behind, scanner.next ⟨false, recorded⟩ =
        .ok (tokens.head?, behind,
          ⟨false, recorded ++ (tokens.take 1).filterMap Token.diagnostic?⟩) ∧
      behind.Awaits tokens.tail := by
  cases h with
  | @middle lexicon mark passed rest _ hs hp hr =>
    cases tokens with
    | nil =>
      refine ⟨amid lexicon (passed ++ rest) [] (mark.afterAll rest), ?_, .middle .done ?_ ?_⟩
      · rw [next_of_blank hs.isBlank_of_nil hr, List.take_nil, List.filterMap_nil,
          List.append_nil]
        rfl
      · rw [Mark.afterAll_position, Text.byteLength_append, hp]
      · trivial
    | cons token tokens =>
      obtain ⟨gap, covered, finished, left, rfl, hb, hc, rfl, hrest⟩ := hs.exists_of_cons
      rw [← List.append_assoc, Mark.admits_append, Mark.afterAll_append] at hr
      refine ⟨amid lexicon (passed ++ gap ++ covered) left _,
        (next_of_completes hb hc hp hr.1 recorded).trans ?_,
        .middle hrest ?_ hr.2⟩
      · rw [List.take_succ_cons, List.take_zero, List.filterMap_cons]
        cases (finished.token lexicon (mark.afterAll gap)).diagnostic? <;> rfl
      · simp only [Mark.afterAll_position, Text.byteLength_append, hp]

/-- So many calls answer with so many tokens, then with none; what they report is added in
order. -/
theorem Awaits.calls (h : scanner.Awaits tokens) (count : Nat) (recorded : List Diagnostic) :
    ∃ last, scanner.calls count ⟨false, recorded⟩ =
        .ok ((tokens.take count).map some ++ List.replicate (count - tokens.length) none, last,
          ⟨false, recorded ++ (tokens.take count).filterMap Token.diagnostic?⟩) ∧
      last.Awaits (tokens.drop count) := by
  induction count generalizing scanner tokens recorded with
  | zero => exact ⟨scanner, by simp [Scanner.calls], h⟩
  | succ count ih =>
    obtain ⟨behind, hn, hb⟩ := h.next recorded
    obtain ⟨last, hc, hl⟩ := ih hb (recorded ++ (tokens.take 1).filterMap Token.diagnostic?)
    rw [List.append_assoc, ← List.filterMap_append] at hc
    refine ⟨last, ?_, by rwa [List.drop_tail] at hl⟩
    rw [Scanner.calls, hn]
    dsimp only [Except.bind]
    rw [hc]
    cases tokens with
    | nil => simp [Except.map, List.replicate_succ]
    | cons token tokens => simp [Except.map]

/-- The first tokens awaited are the answers of as many calls. -/
theorem Awaits.calls_append {front others : List Token} (h : scanner.Awaits (front ++ others))
    (recorded : List Diagnostic) :
    ∃ last, scanner.calls front.length ⟨false, recorded⟩ =
        .ok (front.map some, last, ⟨false, recorded ++ front.filterMap Token.diagnostic?⟩) ∧
      last.Awaits others := by
  obtain ⟨last, hc, hl⟩ := h.calls front.length recorded
  have hnone : front.length - (front ++ others).length = 0 := by
    rw [List.length_append]
    omega
  rw [List.take_left, hnone, List.replicate_zero, List.append_nil] at hc
  rw [List.drop_left] at hl
  exact ⟨last, hc, hl⟩

end Scanner

/-- Every number of calls on a source of fewer than `countLimit` characters is answered without a
fault, also behind the last token, and no more tokens are handed out than there are characters.
Quotes are stripped between characters, and the depth of comments is never counted down past
zero. -/
theorem calls_total (lexicon : Lexicon) (source : Text) (hl : source.length < countLimit) :
    (∃ tokens, ScansTo lexicon source tokens ∧ tokens.length ≤ source.length ∧
      ∀ count recorded, ∃ last collected,
        (Scanner.start lexicon source).calls count ⟨false, recorded⟩ =
          .ok ((tokens.take count).map some ++ List.replicate (count - tokens.length) none,
            last, collected)) ∧
    (∀ text, unquoted? text = some (stripQuotes text)) ∧
    ∀ covered further depth next pending,
      Attempt.step lexicon (.blockComment covered depth (some '*')) '/' =
          .extend (.blockComment further next pending) →
        (next : Int) = depth - 1 := by
  obtain ⟨tokens, hs⟩ := exists_scans lexicon .origin source
  have ha := Scanner.awaits_start hs hl
  refine ⟨⟨tokens, hs.scansTo hl, hs.length_le, fun count recorded => ?_⟩, unquoted?_eq,
    fun _ _ _ _ _ => Attempt.depth_of_closer⟩
  obtain ⟨last, hc, -⟩ := ha.calls count recorded
  exact ⟨last, _, hc⟩

/-- Four calls on a source with two tokens, the second being a comment in which the depth is
counted down once and that stays open. -/
theorem calls_total_open :
    "é/*/**/\"\\".toList.length < countLimit ∧
      (∃ last collected,
        (Scanner.start .standard "é/*/**/\"\\".toList).calls 4 ⟨false, []⟩ =
          .ok ([some ⟨.malformed .unexpectedCharacter, "é".toList, ⟨0, 2, 1, 1⟩⟩,
            some ⟨.malformed .unterminatedComment, "/*/**/\"\\".toList, ⟨2, 10, 1, 2⟩⟩,
            none, none], last, collected)) ∧
      Attempt.step .standard (.blockComment "/*/**".toList 2 (some '*')) '/' =
          .extend (.blockComment "/*/**/".toList 1 none) ∧
      ((1 : Nat) : Int) = (2 : Nat) - 1 := by
  have hl : "é/*/**/\"\\".toList.length < countLimit := by decide
  obtain ⟨⟨tokens, hs, -, h⟩, -, hdepth⟩ := calls_total .standard _ hl
  have ht : tokens = [⟨.malformed .unexpectedCharacter, "é".toList, ⟨0, 2, 1, 1⟩⟩,
      ⟨.malformed .unterminatedComment, "/*/**/\"\\".toList, ⟨2, 10, 1, 2⟩⟩] :=
    hs.eq_of_tokenize (by decide +kernel)
  have hc := h 4 []
  have hstep : Attempt.step .standard (.blockComment "/*/**".toList 2 (some '*')) '/' =
      .extend (.blockComment "/*/**/".toList 1 none) := by decide
  rw [ht] at hc
  exact ⟨hl, hc, hstep, hdepth _ _ _ _ _ hstep⟩

end TableLexer
