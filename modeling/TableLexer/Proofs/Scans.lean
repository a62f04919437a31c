import TableLexer.Proofs.Recognition
import TableLexer.Scan.Scanner

/-!
# What a scan yields

The tokens of a source as a relation, without limits, faults and diagnostics: white space is
passed, and the token at the head is taken. Every text has tokens in this sense. Main statement:
on a source of fewer than `countLimit` characters the scanner answers with exactly these tokens
and reports exactly the malformed ones, whatever was reported before.
-/

namespace TableLexer

/-- A punctuation lexeme turns out to be a punctuation character, or unexpected. -/
theorem Lexicon.punctuationKind_cases (lexicon : Lexicon) (text : Text) :
    (lexicon.punctuationKind text).category = .punctuation ∨
      lexicon.punctuationKind text = .malformed .unexpectedCharacter := by
  unfold punctuationKind
  split
  · next char =>
    cases h : lexicon.punctuation? char with
    | none => exact Or.inr rfl
    | some kind =>
      rw [lexicon.punctuation?_eq] at h
      exact Or.inl (Spelling.category_of_punctuation? h)
  · exact Or.inr rfl

/-- The category of a lexeme can be read off its kind, unless that is an unexpected character. -/
theorem Lexicon.eq_category_of_kindOf {lexicon : Lexicon} {text : Text} {category : Category}
    {kind : TokenKind} (h : lexicon.kindOf text category = kind)
    (hk : kind ≠ .malformed .unexpectedCharacter) : category = kind.category := by
  subst h
  cases category with
  | punctuation => exact ((lexicon.punctuationKind_cases text).resolve_right hk).symm
  | identifier | operator =>
    rw [kindOf]
    split <;> rfl
  | _ => rfl

/-- The token of an attempt that started at a place. -/
def Finished.token (lexicon : Lexicon) (mark : Mark) (finished : Finished) : Token :=
  ⟨lexicon.kindOf finished.text finished.category,
    if lexicon.kindOf finished.text finished.category = .string then stripQuotes finished.text
    else finished.text,
    ⟨mark.position, (mark.afterAll finished.text).position, mark.line, mark.column⟩⟩

/-- The tokens of a text that starts at a place. -/
inductive Scans (lexicon : Lexicon) : Mark → Text → List Token → Prop
  /-- Nothing is left. -/
  | done {mark : Mark} : Scans lexicon mark [] []
  /-- White space is no token. -/
  | blank {mark : Mark} {char : Char} {rest : Text} {tokens : List Token}
      (hb : Text.isBlank char = true) (hs : Scans lexicon (mark.after char) rest tokens) :
      Scans lexicon mark (char :: rest) tokens
  /-- The token at the head is what the idle attempt completes. -/
  | token {mark : Mark} {covered rest : Text} {finished : Finished} {tokens : List Token}
      (hc : Attempt.idle.Completes lexicon covered finished rest)
      (hs : Scans lexicon (mark.afterAll covered) rest tokens) :
      Scans lexicon mark (covered ++ rest) (finished.token lexicon mark :: tokens)

variable {lexicon : Lexicon} {mark : Mark} {text : Text} {tokens : List Token}

/-- Every text has tokens. -/
theorem exists_scans (lexicon : Lexicon) (mark : Mark) (text : Text) :
    ∃ tokens, Scans lexicon mark text tokens := by
  induction hn : text.length using Nat.strongRecOn generalizing mark text with
  | ind count ih =>
    cases text with
    | nil => exact ⟨[], .done⟩
    | cons char rest =>
      rw [List.length_cons] at hn
      cases hb : Text.isBlank char with
      | true =>
        obtain ⟨tokens, hs⟩ := ih rest.length (by omega) (mark.after char) rest rfl
        exact ⟨tokens, .blank hb hs⟩
      | false =>
        obtain ⟨covered, finished, left, he, hc⟩ := Attempt.exists_completes_idle lexicon hb rest
        have hp := List.length_pos_of_ne_nil hc.ne_nil
        have hl : rest.length + 1 = covered.length + left.length := by
          rw [← List.length_append, ← he, List.length_cons]
        obtain ⟨tokens, hs⟩ := ih left.length (by omega) (mark.afterAll covered) left rfl
        rw [he]
        exact ⟨_, .token hc hs⟩

/-- White space in front of a text adds no token. -/
theorem Scans.of_blank {gap : Text} (hb : ∀ char ∈ gap, Text.isBlank char = true)
    (h : Scans lexicon (mark.afterAll gap) text tokens) :
    Scans lexicon mark (gap ++ text) tokens := by
  induction gap generalizing mark with
  | nil => exact h
  | cons char more ih =>
    exact .blank (hb char List.mem_cons_self)
      (ih (fun other hm => hb other (List.mem_cons_of_mem _ hm)) h)

/-- A text without tokens is white space. -/
theorem Scans.isBlank_of_nil (h : Scans lexicon mark text []) :
    ∀ char ∈ text, Text.isBlank char = true := by
  generalize ht : ([] : List Token) = tokens at h
  induction h with
  | done => simp
  | blank hb _ ih =>
    rintro char hm
    rcases List.mem_cons.mp hm with rfl | hm
    · exact hb
    · exact ih ht char hm
  | token => cases ht

/-- The first token stands behind white space. -/
theorem Scans.exists_of_cons {token : Token} (h : Scans lexicon mark text (token :: tokens)) :
    ∃ gap covered finished rest, text = gap ++ (covered ++ rest) ∧
      (∀ char ∈ gap, Text.isBlank char = true) ∧
      Attempt.idle.Completes lexicon covered finished rest ∧
      token = finished.token lexicon (mark.afterAll gap) ∧
      Scans lexicon ((mark.afterAll gap).afterAll covered) rest tokens := by
  generalize ht : token :: tokens = whole at h
  induction h with
  | done => cases ht
  | @blank mark char _ _ hb _ ih =>
    obtain ⟨gap, covered, finished, rest, rfl, hg, hc, ht, hs⟩ := ih ht
    refine ⟨char :: gap, covered, finished, rest, rfl, ?_, hc, ht, hs⟩
    rintro other hm
    rcases List.mem_cons.mp hm with rfl | hm
    · exact hb
    · exact hg other hm
  | @token _ covered rest finished _ hc hs =>
    obtain ⟨rfl, rfl⟩ := List.cons.inj ht
    exact ⟨[], covered, finished, rest, rfl, by simp, hc, rfl, hs⟩

/-- The last tokens of a text are those of a rest of it. -/
theorem Scans.exists_of_append {front back : List Token}
    (h : Scans lexicon mark text (front ++ back)) :
    ∃ passed rest, text = passed ++ rest ∧ Scans lexicon (mark.afterAll passed) rest back := by
  induction front generalizing mark text with
  | nil => exact ⟨[], text, rfl, h⟩
  | cons token front ih =>
    obtain ⟨gap, covered, finished, left, rfl, -, -, -, hs⟩ := h.exists_of_cons
    obtain ⟨passed, rest, rfl, hrest⟩ := ih hs
    refine ⟨gap ++ (covered ++ passed), rest, by simp only [List.append_assoc], ?_⟩
    rwa [Mark.afterAll_append, Mark.afterAll_append]

namespace Scanner

/-- A scanner in the middle of a source, in front of a rest. -/
def amid (lexicon : Lexicon) (passed rest : Text) (mark : Mark) : Scanner :=
  ⟨lexicon, ⟨passed ++ rest, rest, mark⟩⟩

/-- The token of what was recognised in front of the cursor. -/
theorem token_eq (lexicon : Lexicon) {passed covered rest : Text} {finished : Finished}
    (hc : Attempt.idle.Completes lexicon covered finished rest)
    (hp : mark.position = Text.byteLength passed) :
    (amid lexicon (passed ++ covered) rest (mark.afterAll covered)).token mark finished =
      .ok (finished.token lexicon mark) := by
  have ht : finished.text = covered := hc.text_eq
  have hslice : Text.sliceBytes? (passed ++ covered ++ rest) mark.position
      (mark.afterAll covered).position = some covered := by
    rw [Mark.afterAll_position, hp, List.append_assoc, Text.sliceBytes?_append]
  have hk : lexicon.classify finished.text finished.category =
      .ok (lexicon.kindOf finished.text finished.category) := by
    have hn : finished.text.isEmpty = false := by
      rw [ht, List.isEmpty_eq_false_iff]
      exact hc.ne_nil
    rw [Lexicon.classify, hn]
    rfl
  rw [token, Cursor.sliceFrom, amid]
  dsimp only
  rw [hslice]
  dsimp only [Except.bind]
  rw [if_pos ht.symm, hk, Finished.token, ht]
  rfl

/-- A collector that keeps everything keeps the diagnostic of a malformed token. -/
theorem report_eq (recorded : List Diagnostic) (token : Token) :
    report ⟨false, recorded⟩ token = (.ok (), ⟨false, recorded ++ token.diagnostic?.toList⟩) := by
  rw [report]
  cases token.diagnostic? with
  | none => rw [Option.toList_none, List.append_nil]
  | some diagnostic => rfl

/-- In front of white space alone there is no token, and the cursor goes to the end. -/
theorem next_of_blank {passed gap : Text} (hb : ∀ char ∈ gap, Text.isBlank char = true)
    (hr : mark.Admits gap) (collector : Collector) :
    (amid lexicon passed gap mark).next collector =
      .ok (none, amid lexicon (passed ++ gap) [] (mark.afterAll gap), collector) := by
  have hg := pursue_blank lexicon hb mark hr []
  rw [List.append_nil] at hg
  rw [next_eq, amid]
  dsimp only
  rw [hg, pursue]
  simp [Except.bind, Attempt.finish, behind, amid]

/-- In front of white space and a token, the next token is that one, and its diagnostic is
kept. -/
theorem next_of_completes {passed gap covered rest : Text} {finished : Finished}
    (hb : ∀ char ∈ gap, Text.isBlank char = true)
    (hc : Attempt.idle.Completes lexicon covered finished rest)
    (hp : mark.position = Text.byteLength passed)
    (hr : mark.Admits (gap ++ covered)) (recorded : List Diagnostic) :
    (amid lexicon passed (gap ++ (covered ++ rest)) mark).next ⟨false, recorded⟩ =
      .ok (some (finished.token lexicon (mark.afterAll gap)),
        amid lexicon (passed ++ gap ++ covered) rest ((mark.afterAll gap).afterAll covered),
        ⟨false, recorded ++
          (finished.token lexicon (mark.afterAll gap)).diagnostic?.toList⟩) := by
  have hg : pursue lexicon .idle mark mark (gap ++ (covered ++ rest)) =
      .ok ⟨some finished, mark.afterAll gap, (mark.afterAll gap).afterAll covered, rest⟩ := by
    obtain ⟨hgap, hcovered⟩ := Mark.admits_append.mp hr
    rw [pursue_blank lexicon hb mark hgap, hc.pursue_eq mark hcovered]
    rfl
  have hp' : (mark.afterAll gap).position = Text.byteLength (passed ++ gap) := by
    rw [Mark.afterAll_position, Text.byteLength_append, hp]
  have ht := token_eq lexicon hc hp'
  rw [amid, List.append_assoc, List.append_assoc] at ht
  rw [next_eq, amid]
  dsimp only
  rw [hg]
  dsimp only [Except.bind, behind]
  rw [ht]
  dsimp only
  rw [report_eq, amid, List.append_assoc, List.append_assoc]
  rfl

/-- A scan ends where there is no token. -/
theorem run_of_next_none {scanner last : Scanner} {collector collected : Collector}
    (h : scanner.next collector = .ok (none, last, collected)) :
    scanner.run collector = .ok ([], last, collected) := by
  rw [run]
  split
  · next hn => rw [h] at hn; cases hn
  · next hn => rw [h] at hn; cases hn; rfl
  · next hn => rw [h] at hn; cases hn

/-- A scan goes on behind a token. -/
theorem run_of_next_some {scanner behind : Scanner} {collector collected : Collector}
    {token : Token} (h : scanner.next collector = .ok (some token, behind, collected)) :
    scanner.run collector = (behind.run collected).map
      fun (tokens, last, collector) => (token :: tokens, last, collector) := by
  rw [run]
  split
  · next hn => rw [h] at hn; cases hn
  · next hn => rw [h] at hn; cases hn
  · next hn => rw [h] at hn; cases hn; rfl

/-- A scan from the middle of a source on answers with the tokens of the rest. -/
theorem run_of_scans (passed : Text) {rest : Text} (h : Scans lexicon mark rest tokens)
    (hp : mark.position = Text.byteLength passed) (hr : mark.Admits rest)
    (recorded : List Diagnostic) :
    (amid lexicon passed rest mark).run ⟨false, recorded⟩ =
      .ok (tokens, amid lexicon (passed ++ rest) [] (mark.afterAll rest),
        ⟨false, recorded ++ tokens.filterMap Token.diagnostic?⟩) := by
  induction tokens generalizing mark passed rest recorded with
  | nil =>
    rw [run_of_next_none (next_of_blank h.isBlank_of_nil hr _), List.filterMap_nil,
      List.append_nil]
  | cons token tokens ih =>
    obtain ⟨gap, covered, finished, left, rfl, hb, hc, rfl, hs⟩ := h.exists_of_cons
    rw [← List.append_assoc, Mark.admits_append, Mark.afterAll_append] at hr
    have hp' : ((mark.afterAll gap).afterAll covered).position =
        Text.byteLength (passed ++ gap ++ covered) := by
      rw [Mark.afterAll_position, Mark.afterAll_position, Text.byteLength_append,
        Text.byteLength_append, hp]
    rw [run_of_next_some (next_of_completes hb hc hp hr.1 recorded), ih _ hs hp' hr.2]
    simp only [Except.map, List.filterMap_cons, Mark.afterAll_append, List.append_assoc]
    cases (finished.token lexicon (mark.afterAll gap)).diagnostic? with
    | none => rfl
    | some diagnostic => simp

end Scanner

/-- A source has these tokens for the scanner: with every collector that keeps what is reported,
it answers with them and reports the malformed ones in order. -/
def ScansTo (lexicon : Lexicon) (source : Text) (tokens : List Token) : Prop :=
  ∀ recorded : List Diagnostic, tokenize lexicon source ⟨false, recorded⟩ =
    .ok (tokens, ⟨false, recorded ++ tokens.filterMap Token.diagnostic?⟩)

/-- What one scan answers with are the tokens of the source. -/
theorem ScansTo.eq_of_tokenize {source : Text} {answered : List Token}
    (h : ScansTo lexicon source tokens)
    (ha : (tokenize lexicon source ⟨false, []⟩).map Prod.fst = .ok answered) :
    tokens = answered := by
  rw [h] at ha
  exact Except.ok.inj ha

/-- On a source that is admitted the scanner answers with its tokens. -/
theorem Scans.scansTo_of_admits {source : Text} (h : Scans lexicon .origin source tokens)
    (ha : Mark.origin.Admits source) : ScansTo lexicon source tokens := by
  intro recorded
  have hr := Scanner.run_of_scans [] h rfl ha recorded
  rw [tokenize, show Scanner.start lexicon source = Scanner.amid lexicon [] source .origin from rfl,
    hr]
  rfl

/-- On a source of fewer than `countLimit` characters the scanner answers with its tokens. -/
theorem Scans.scansTo {source : Text} (h : Scans lexicon .origin source tokens)
    (hl : source.length < countLimit) : ScansTo lexicon source tokens :=
  h.scansTo_of_admits (Mark.hasRoom_origin hl).admits

/-- With a collector that keeps everything, a scan stops at a fault only on a source of `countLimit`
characters or more. -/
theorem countLimit_le_of_fault {source : Text} {recorded : List Diagnostic} {fault : Fault}
    (h : tokenize lexicon source ⟨false, recorded⟩ = .error fault) :
    countLimit ≤ source.length := by
  by_contra hl
  obtain ⟨tokens, hs⟩ := exists_scans lexicon .origin source
  rw [hs.scansTo (Nat.lt_of_not_le hl) recorded] at h
  cases h

end TableLexer
