import TableLexer.Proofs.Families
import TableLexer.Proofs.Tables
import TableLexer.Token.Basic
import Mathlib.Data.List.Infix

/-!
# The reference lexer

A token is the longest or the shortest prefix of what is left that belongs to its family. The
reference lexer finds these prefixes by trying them all; no state is carried from one character
to the next. Main statement: a token covers at least one character, so that lexing ends.
-/

namespace TableLexer.Grammar

/-- The longest prefix in a family, empty if there is none. -/
def longest (accepts : Text → Bool) (text : Text) : Text :=
  (text.inits.filter accepts).getLast?.getD []

/-- The shortest prefix in a family. -/
def shortest? (accepts : Text → Bool) (text : Text) : Option Text := text.inits.find? accepts

/-- A token at the head of a text. -/
structure Cut where
  /-- What it is. -/
  kind : TokenKind
  /-- The prefix that it covers. -/
  covered : Text
  deriving DecidableEq, Repr

/-- The lexeme of a token: a string literal loses its quotes. -/
def Cut.lexeme (cut : Cut) : Text :=
  if cut.kind = .string then cut.covered.tail.dropLast else cut.covered

/-- The token that starts with a character of no word, number, literal or comment: one
punctuation character, the longest prefix that begins an operator, or the character alone. -/
def cutSign (head : Char) (tail : Text) : Cut :=
  match Spelling.punctuation? head with
  | some kind => ⟨kind, [head]⟩
  | none =>
    if Spelling.beginsOperator [head] then
      let operator := longest Spelling.beginsOperator (head :: tail)
      ⟨if Spelling.isOperator operator then .operator else .malformed .unknownOperator, operator⟩
    else ⟨.malformed .unexpectedCharacter, [head]⟩

/-- The token at the head of a text that starts with a character other than white space. -/
def cut (reserved : List Text) (head : Char) (tail : Text) : Cut :=
  let text := head :: tail
  if isWordStart head then
    let word := longest isWord text
    ⟨if word ∈ reserved then .keyword else .identifier, word⟩
  else if head.isDigit then ⟨.number, longest isNumeral text⟩
  else if ['/', '/'].isPrefixOf text then ⟨.comment, longest isLineComment text⟩
  else if ['/', '*'].isPrefixOf text then
    match shortest? isBlockComment text with
    | some comment => ⟨.comment, comment⟩
    | none => ⟨.malformed .unterminatedComment, text⟩
  else if head = '"' then
    match shortest? isLiteral text with
    | some literal => ⟨.string, literal⟩
    | none => ⟨.malformed .unterminatedString, text⟩
  else cutSign head tail

/-- What the reference lexer says of a token. -/
structure Outline where
  /-- What it is. -/
  kind : TokenKind
  /-- Its lexeme. -/
  lexeme : Text
  /-- Byte offset of the first byte. -/
  start : Nat
  /-- Byte offset behind the last byte. -/
  stop : Nat
  deriving DecidableEq, Repr

/-- A whole text is its own longest prefix, unless it is no member. -/
theorem longest_concat (accepts : Text → Bool) (text : Text) (char : Char) :
    longest accepts (text ++ [char]) =
      if accepts (text ++ [char]) then text ++ [char] else longest accepts text := by
  rw [longest, List.inits_append, List.filter_append]
  by_cases ha : accepts (text ++ [char]) = true
  · simp [ha]
  · simp [ha, longest]

/-- Where a prefix is a member, the longest one is, and no member is longer. -/
theorem longest_spec {accepts : Text → Bool} {text part : Text} (hp : part <+: text)
    (ha : accepts part = true) :
    longest accepts text <+: text ∧ accepts (longest accepts text) = true ∧
      ∀ other, other <+: text → accepts other = true →
        other.length ≤ (longest accepts text).length := by
  induction text using List.reverseRecOn with
  | nil =>
    obtain rfl := List.prefix_nil.mp hp
    simp [longest, ha]
  | append_singleton front last ih =>
    rw [longest_concat]
    split_ifs with hw
    · exact ⟨List.prefix_rfl, hw, fun other ho _ => ho.length_le⟩
    · have hfront : ∀ other, other <+: front ++ [last] → accepts other = true →
          other <+: front := by
        intro other ho hother
        refine (List.prefix_concat_iff.mp ho).resolve_left ?_
        rintro rfl
        exact hw hother
      obtain ⟨hl, hm, hmax⟩ := ih (hfront part hp ha)
      refine ⟨hl.trans (List.prefix_append _ _), hm, fun other ho hother => ?_⟩
      exact hmax other (hfront other ho hother) hother

/-- A family with a prefix of the text that is not empty has a longest one. -/
theorem longest_ne_nil {accepts : Text → Bool} {text part : Text} (hp : part <+: text)
    (hn : part ≠ []) (ha : accepts part = true) : longest accepts text ≠ [] := by
  have hle := (longest_spec hp ha).2.2 part hp ha
  have hpos := List.length_pos_of_ne_nil hn
  exact List.ne_nil_of_length_pos (by omega)

/-- A member that the next character ends is the longest prefix, if no longer one can be a member
without that character. -/
theorem longest_eq {accepts : Text → Bool} {part rest : Text} (ha : accepts part = true)
    (he : ∀ next ∈ rest.head?, accepts (part ++ [next]) = false)
    (hm : ∀ next more, accepts (part ++ next :: more) = true → accepts (part ++ [next]) = true) :
    longest accepts (part ++ rest) = part := by
  have hp : part <+: part ++ rest := List.prefix_append part rest
  obtain ⟨hl, hacc, hmax⟩ := longest_spec hp ha
  obtain ⟨more, hmore⟩ := List.prefix_of_prefix_length_le hp hl (hmax part hp ha)
  rw [← hmore] at hl hacc ⊢
  cases more with
  | nil => rw [List.append_nil]
  | cons next others =>
    obtain ⟨left, rfl⟩ := (List.prefix_append_right_inj part).mp hl
    exact absurd (hm next others hacc) (by simp [he next rfl])

/-- A member without a member among its proper prefixes is the shortest prefix. -/
theorem shortest?_eq_some {accepts : Text → Bool} {part : Text} (hn : part ≠ [])
    (ha : accepts part = true) (hs : ∀ shorter, shorter <+: part.dropLast → accepts shorter = false)
    (rest : Text) : shortest? accepts (part ++ rest) = some part := by
  have hf : part.dropLast.inits.find? accepts = none := by
    rw [List.find?_eq_none]
    intro shorter hm
    simp [hs shorter ((List.mem_inits shorter part.dropLast).mp hm)]
  obtain ⟨front, last, rfl⟩ := (List.eq_nil_or_concat part).resolve_left hn
  rw [List.concat_eq_append] at ha hf ⊢
  rw [List.dropLast_concat] at hf
  rw [shortest?, List.inits_append, List.inits_append, List.find?_append, List.find?_append, hf]
  simp [ha]

/-- A text without a member among its prefixes has no shortest one. -/
theorem shortest?_eq_none {accepts : Text → Bool} {text : Text}
    (hs : ∀ part, part <+: text → accepts part = false) : shortest? accepts text = none := by
  rw [shortest?, List.find?_eq_none]
  intro part hm
  simp [hs part ((List.mem_inits part text).mp hm)]

/-- A shortest prefix is a member. -/
theorem shortest?_mem {accepts : Text → Bool} {text part : Text}
    (h : shortest? accepts text = some part) : accepts part = true :=
  List.find?_some h

theorem cutSign_covered_ne_nil (head : Char) (tail : Text) :
    (cutSign head tail).covered ≠ [] := by
  unfold cutSign
  split
  · simp
  · split
    · next ho => exact longest_ne_nil ⟨tail, rfl⟩ (List.cons_ne_nil head []) ho
    · simp

/-- A token covers at least one character. -/
theorem cut_covered_ne_nil (reserved : List Text) (head : Char) (tail : Text) :
    (cut reserved head tail).covered ≠ [] := by
  have hp : [head] <+: head :: tail := ⟨tail, rfl⟩
  unfold cut
  dsimp only
  split
  · next hw => exact longest_ne_nil hp (by simp) (by simp [isWord, hw])
  split
  · next hd => exact longest_ne_nil hp (by simp) (by simp [isNumeral, isNumeralTail, hd])
  split
  · next hs => exact longest_ne_nil (List.isPrefixOf_iff_prefix.mp hs) (by simp) (by rfl)
  split
  · split
    · next hc =>
      rintro rfl
      exact Bool.false_ne_true (shortest?_mem hc)
    · simp
  split
  · split
    · next hc =>
      rintro rfl
      exact Bool.false_ne_true (shortest?_mem hc)
    · simp
  exact cutSign_covered_ne_nil head tail

/-- The reference lexer on what is left from a byte offset on: white space is dropped, the token
at the head is taken, and lexing goes on behind it. -/
def lex (reserved : List Text) (offset : Nat) (text : Text) : List Outline :=
  match _h : text.dropWhile Text.isBlank with
  | [] => []
  | head :: tail =>
    let token := cut reserved head tail
    let start := offset + Text.byteLength (text.takeWhile Text.isBlank)
    let stop := start + Text.byteLength token.covered
    ⟨token.kind, token.lexeme, start, stop⟩ ::
      lex reserved stop ((head :: tail).drop token.covered.length)
termination_by text.length
decreasing_by
  have hl := (List.dropWhile_suffix Text.isBlank (l := text)).length_le
  have hc := List.length_pos_of_ne_nil (cut_covered_ne_nil reserved head tail)
  rw [_h] at hl
  simp only [List.length_drop, List.length_cons] at hl ⊢
  omega

/-- The tokens behind white space, `start` being the offset behind it. -/
theorem lex_eq (reserved : List Text) (offset start : Nat) (text : Text)
    (hs : offset + Text.byteLength (text.takeWhile Text.isBlank) = start) :
    lex reserved offset text =
      match text.dropWhile Text.isBlank with
      | [] => []
      | head :: tail =>
        ⟨(cut reserved head tail).kind, (cut reserved head tail).lexeme, start,
          start + Text.byteLength (cut reserved head tail).covered⟩ ::
        lex reserved (start + Text.byteLength (cut reserved head tail).covered)
          ((head :: tail).drop (cut reserved head tail).covered.length) := by
  subst hs
  rw [lex]
  split
  · next hd => rw [hd]
  · next hd => rw [hd]

/-- White space is passed. -/
theorem lex_blank (reserved : List Text) (offset : Nat) {char : Char}
    (hb : Text.isBlank char = true) (rest : Text) :
    lex reserved offset (char :: rest) = lex reserved (offset + char.utf8Size) rest := by
  rw [lex_eq reserved offset _ (char :: rest) rfl, lex_eq reserved _ _ rest rfl,
    List.dropWhile_cons_of_pos hb, List.takeWhile_cons_of_pos hb, Text.byteLength_cons,
    Nat.add_assoc]

/-- A token is cut off where it begins. -/
theorem lex_cut (reserved : List Text) (offset : Nat) {head : Char}
    (hb : Text.isBlank head = false) (tail : Text) :
    lex reserved offset (head :: tail) =
      ⟨(cut reserved head tail).kind, (cut reserved head tail).lexeme, offset,
        offset + Text.byteLength (cut reserved head tail).covered⟩ ::
      lex reserved (offset + Text.byteLength (cut reserved head tail).covered)
        ((head :: tail).drop (cut reserved head tail).covered.length) := by
  have hn : ¬ Text.isBlank head = true := by simp [hb]
  rw [lex_eq reserved offset offset (head :: tail), List.dropWhile_cons_of_neg hn]
  rw [List.takeWhile_cons_of_neg hn, Text.byteLength_nil, Nat.add_zero]

end TableLexer.Grammar
