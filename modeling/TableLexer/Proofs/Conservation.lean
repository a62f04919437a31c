import TableLexer.Proofs.Attempts
import TableLexer.Proofs.Places
import TableLexer.Scan.Pursuit

/-!
# Conservation of text

Every attempt passes on what it is fed, whether a scan can come to it or not: each character is
dropped as white space, joins the text so far or is left for the next token. Two operations behind
a move are partial, the cut in a spelling and the count of a closed comment, and neither is ever
applied where it would fail. Main statement: from every attempt, what a text is settled to and what
is still in progress behind it are, in order, the text so far and that text.
-/

namespace TableLexer

/-- Whether a spelling goes on with the character behind a text. The spelling is cut where the text
ends, and there is no answer if that is no place to cut it. -/
def Spelling.goesOn? (spelling text : Text) (char : Char) : Option Bool :=
  if Text.byteLength text < Text.byteLength spelling ∧ text.isPrefixOf spelling then
    (Text.dropBytes? spelling (Text.byteLength text)).map fun rest => rest.head? == some char
  else some false

/-- The cut is made only behind a proper beginning of the spelling, where it succeeds. -/
theorem Spelling.goesOn?_eq (spelling text : Text) (char : Char) :
    goesOn? spelling text char = some ((text ++ [char]).isPrefixOf spelling) := by
  rw [goesOn?]
  by_cases hp : text <+: spelling
  · obtain ⟨rest, rfl⟩ := hp
    have hnext : (text ++ [char]).isPrefixOf (text ++ rest) = (rest.head? == some char) := by
      rw [Bool.eq_iff_iff, List.isPrefixOf_iff_prefix, List.prefix_append_right_inj]
      cases rest <;> simp [eq_comm (a := char)]
    rw [hnext, Text.dropBytes?_append, Option.map_some]
    cases rest with
    | nil => simp
    | cons next others =>
      have hpos := Text.byteLength_pos (List.cons_ne_nil next others)
      refine if_pos ⟨?_, List.isPrefixOf_iff_prefix.mpr (List.prefix_append _ _)⟩
      rw [Text.byteLength_append]
      omega
  · have hlonger : ¬ text ++ [char] <+: spelling := fun h =>
      hp ((List.prefix_append _ _).trans h)
    rw [← List.isPrefixOf_iff_prefix, Bool.not_eq_true] at hp hlonger
    rw [hp, hlonger, if_neg fun h => Bool.false_ne_true h.2]

/-- Whether some operator begins with the text and, right behind it, the character, found out by
cutting every spelling. -/
def Lexicon.extendsOperator? (lexicon : Lexicon) (text : Text) (char : Char) : Option Bool :=
  (lexicon.operators.mapM fun spelling => Spelling.goesOn? spelling text char).map fun found =>
    found.any id

/-- No cut fails, whatever the text. -/
theorem Lexicon.extendsOperator?_eq (lexicon : Lexicon) (text : Text) (char : Char) :
    lexicon.extendsOperator? text char = some (lexicon.extendsOperator text char) := by
  have hcuts : lexicon.operators.mapM (fun spelling => Spelling.goesOn? spelling text char) =
      some (lexicon.operators.map (text ++ [char]).isPrefixOf) := by
    simp only [Spelling.goesOn?_eq]
    exact List.mapM_pure
  rw [extendsOperator?, hcuts, Option.map_some, List.any_map]
  rfl

namespace Attempt

/-- The nesting depth that a character leaves, as an integer that may pass zero. -/
def depthBehind (depth : Int) (pending : Option Char) (char : Char) : Int :=
  if pending = some '*' ∧ char = '/' then depth - 1
  else if pending = some '/' ∧ char = '*' then min (depth + 1) nestingLimit
  else depth

/-- What a move keeps of the text so far and the character that was fed. -/
def Keeps (attempt : Attempt) (char : Char) : Move → Prop
  | .skip => attempt = idle ∧ Text.isBlank char = true
  | .extend next => next ≠ idle ∧ next.text = attempt.text ++ [char]
  | .close finished => finished.text = attempt.text ++ [char]
  | .release finished => finished.text = attempt.text ∧ attempt.mayRelease = true

/-- The part of a fed text that a move settles: white space that is dropped, or the text of a token
that is finished. -/
def settled : Char × Move → Text
  | (char, .skip) => [char]
  | (_, .extend _) => []
  | (_, .close finished) | (_, .release finished) => finished.text

variable {lexicon : Lexicon} {attempt : Attempt} {char : Char} {finished : Finished}

/-- Every move keeps the text. -/
theorem keeps_step (lexicon : Lexicon) (attempt : Attempt) (char : Char) :
    attempt.Keeps char (attempt.step lexicon char) := by
  have hs := step_conserves lexicon attempt char
  cases hm : attempt.step lexicon char with
  | release finished =>
    exact ⟨text_of_finish (finish_of_release hm), mayRelease_of_release hm⟩
  | skip | extend next | close finished =>
    rw [hm] at hs
    exact hs

/-- The depth of a block comment is counted as for integers, so that it never passes zero. -/
theorem depth_of_extend {covered further : Text} {depth next : Nat} {pending waiting : Option Char}
    (h : (blockComment covered depth pending).step lexicon char =
      .extend (blockComment further next waiting)) :
    (next : Int) = depthBehind depth pending char := by
  rw [step, stepBlockComment] at h
  rw [depthBehind]
  split_ifs at h ⊢ with hcloser hone hopener
  · cases h
    omega
  · cases h
    omega
  all_goals
    cases h
    rfl

/-- A depth that can be counted leads to one that can. -/
theorem depth_le_of_extend {covered further : Text} {depth next : Nat}
    {pending waiting : Option Char} (hl : depth ≤ nestingLimit)
    (h : (blockComment covered depth pending).step lexicon char =
      .extend (blockComment further next waiting)) : next ≤ nestingLimit := by
  have hd := depth_of_extend h
  rw [depthBehind] at hd
  split_ifs at hd <;> omega

/-- The end of the input finishes every attempt but the idle one, with the text so far. -/
theorem finish_text (attempt : Attempt) :
    attempt.finish.map Finished.text = if attempt = idle then none else some attempt.text := by
  cases attempt <;> rfl

/-- A move that does not release the character settles all that it does not leave in progress. -/
theorem settled_step (lexicon : Lexicon) (attempt : Attempt) (char : Char)
    (h : ∀ finished, attempt.step lexicon char ≠ .release finished) :
    settled (char, attempt.step lexicon char) ++ (behind (attempt.step lexicon char)).text =
      attempt.text ++ [char] := by
  have hk := keeps_step lexicon attempt char
  cases hm : attempt.step lexicon char with
  | skip =>
    rw [hm] at hk
    rw [hk.1]
    rfl
  | extend next =>
    rw [hm] at hk
    exact hk.2
  | close finished =>
    rw [hm] at hk
    exact (List.append_nil _).trans hk
  | release finished => exact absurd hm (h finished)

/-- A character that is released is settled with the next token, and only there. -/
theorem settled_moves (lexicon : Lexicon) (attempt : Attempt) (char : Char) :
    ((attempt.moves lexicon char).map (char, ·)).flatMap settled ++
        (attempt.advance lexicon char).text = attempt.text ++ [char] := by
  rw [moves, advance]
  cases hm : attempt.step lexicon char with
  | release finished =>
    have hk := keeps_step lexicon attempt char
    rw [hm] at hk
    have hidle : settled (char, idle.step lexicon char) ++
        (behind (idle.step lexicon char)).text = [char] :=
      settled_step lexicon idle char (start_ne_release lexicon char)
    simp only [List.map_cons, List.map_nil, List.flatMap_cons, List.flatMap_nil, List.append_nil,
      List.append_assoc]
    rw [hidle, ← hk.1]
    rfl
  | skip | extend next | close finished =>
    have hstep := settled_step lexicon attempt char (by simp [hm])
    rw [hm] at hstep
    simpa using hstep

/-- What the moves of a text settle and what is in progress behind it are the text so far and that
text. -/
theorem settled_trace (lexicon : Lexicon) (attempt : Attempt) (text : Text) :
    (attempt.trace lexicon text).flatMap settled ++ (attempt.advanceAll lexicon text).text =
      attempt.text ++ text := by
  induction text generalizing attempt with
  | nil => rw [List.append_nil]; rfl
  | cons char rest ih =>
    have hrest := ih (attempt.advance lexicon char)
    rw [trace, List.flatMap_append, List.append_assoc]
    change _ ++ (_ ++ ((attempt.advance lexicon char).advanceAll lexicon rest).text) = _
    rw [hrest, ← List.append_assoc, settled_moves, List.append_assoc, List.singleton_append]

end Attempt

open Attempt

/-- Every move keeps the text so far and the character, from every attempt: white space is dropped
by the idle attempt and by no other, what goes on or is closed has grown by the character, and what
releases it is as it was and neither idle nor inside a string literal or a block comment. The end of
the input finishes every attempt but the idle one as it is. No operation on the way fails: spellings
are cut where they can be, and the depth of comments neither passes zero nor its limit. So a text
that is fed to any attempt is, behind the text so far and in order, the white space that is dropped,
the text of the tokens that are finished and the text that is still in progress. -/
theorem moves_conserve_text (lexicon : Lexicon) :
    (∀ (attempt : Attempt) (char : Char), attempt.Keeps char (attempt.step lexicon char) ∧
      (attempt.step lexicon char = .skip ↔ attempt = .idle ∧ Text.isBlank char = true)) ∧
    (∀ attempt : Attempt, attempt.finish.map Finished.text =
      if attempt = .idle then none else some attempt.text) ∧
    (∀ text char,
      lexicon.extendsOperator? text char = some (lexicon.extendsOperator text char)) ∧
    (∀ covered further depth next pending waiting char, depth ≤ nestingLimit →
      step lexicon (.blockComment covered depth pending) char =
          .extend (.blockComment further next waiting) →
        (next : Int) = depthBehind depth pending char ∧ next ≤ nestingLimit) ∧
    ∀ (attempt : Attempt) (text : Text),
      (attempt.trace lexicon text).flatMap settled ++ (attempt.advanceAll lexicon text).text =
        attempt.text ++ text := by
  refine ⟨fun attempt char => ⟨keeps_step lexicon attempt char, step_eq_skip_iff⟩, finish_text,
    lexicon.extendsOperator?_eq, ?_, settled_trace lexicon⟩
  intro covered further depth next pending waiting char hl h
  exact ⟨depth_of_extend h, depth_le_of_extend hl h⟩

/-- A comment that is as deep as can be counted stays so behind an opener, and one at depth zero,
which no scan comes to, is closed by the first closer. -/
theorem moves_conserve_text_unreached :
    (nestingLimit ≤ nestingLimit ∧
      step .standard (.blockComment "/".toList nestingLimit (some '/')) '*' =
        .extend (.blockComment "/*".toList nestingLimit none) ∧
      (nestingLimit : Int) = depthBehind nestingLimit (some '/') '*') ∧
    (trace .standard (.blockComment "é".toList 0 (some '*')) "/ 1.+".toList).flatMap settled =
      "é/".toList ++ " ".toList ++ "1.".toList ∧
    advanceAll .standard (.blockComment "é".toList 0 (some '*')) "/ 1.+".toList =
      .operator "+".toList ∧
    "é/".toList ++ " ".toList ++ "1.".toList ++ "+".toList = "é".toList ++ "/ 1.+".toList := by
  obtain ⟨-, -, -, hdepth, hconserve⟩ := moves_conserve_text .standard
  have hstep : step .standard (.blockComment "/".toList nestingLimit (some '/')) '*' =
      .extend (.blockComment "/*".toList nestingLimit none) := by decide +kernel
  have hsettled :
      (trace .standard (.blockComment "é".toList 0 (some '*')) "/ 1.+".toList).flatMap settled =
        "é/".toList ++ " ".toList ++ "1.".toList := by decide +kernel
  have hlast : advanceAll .standard (.blockComment "é".toList 0 (some '*')) "/ 1.+".toList =
      .operator "+".toList := by decide +kernel
  have hwhole := hconserve (.blockComment "é".toList 0 (some '*')) "/ 1.+".toList
  rw [hsettled, hlast] at hwhole
  exact ⟨⟨Nat.le_refl _, hstep, (hdepth _ _ _ _ _ _ _ (Nat.le_refl _) hstep).1⟩, hsettled, hlast,
    hwhole⟩

end TableLexer
