import TableLexer.Lexicon.Classify
import TableLexer.Proofs.Lexemes
import TableLexer.Proofs.Reference

/-!
# Finished lexemes and the reference lexer

A lexeme that the next character ends is the longest prefix of its family, and one that ends at
its own last character is the shortest. Main statement: where a finished attempt holds a lexeme
and the next character does not belong to it, the reference lexer cuts off the same text and gives
it the same kind.
-/

namespace TableLexer

open Grammar

namespace CharClass

variable {lexicon : Lexicon} {char : Char}

/-- A character that neither words nor numbers, literals or comments start with. -/
structure Plain (char : Char) : Prop where
  isWordStart : TableLexer.isWordStart char = false
  isDigit : char.isDigit = false
  ne_quote : char ≠ '"'
  ne_slash : char ≠ '/'

theorem plain_of_punctuation (h : lexicon.charClass char = .punctuation) :
    Plain char ∧ ∃ kind, Spelling.punctuation? char = some kind := by
  rw [Lexicon.charClass, lexicon.punctuation?_eq, lexicon.beginsOperator_eq] at h
  split_ifs at h with hb hd hw hq hs hp ho
  exact ⟨⟨by simpa using hw, by simpa using hd, hq, hs⟩, Option.isSome_iff_exists.mp hp⟩

theorem plain_of_operatorStart (h : lexicon.charClass char = .operatorStart) :
    Plain char ∧ Spelling.punctuation? char = none := by
  rw [Lexicon.charClass, lexicon.punctuation?_eq, lexicon.beginsOperator_eq] at h
  split_ifs at h with hb hd hw hq hs hp ho
  exact ⟨⟨by simpa using hw, by simpa using hd, hq, hs⟩, by simpa using hp⟩

theorem plain_of_other (h : lexicon.charClass char = .other) :
    Plain char ∧ Spelling.punctuation? char = none ∧ Spelling.beginsOperator [char] = false := by
  rw [Lexicon.charClass, lexicon.punctuation?_eq, lexicon.beginsOperator_eq] at h
  split_ifs at h with hb hd hw hq hs hp ho
  exact ⟨⟨by simpa using hw, by simpa using hd, hq, hs⟩, by simpa using hp, by simpa using ho⟩

end CharClass

namespace Grammar

variable {head : Char} {tail part rest : Text}

/-- A word is cut off in front of the first character that it cannot hold. -/
theorem cut_word (reserved : List Text) (hw : isWord part = true)
    (he : ∀ next ∈ rest.head?, isWord (part ++ [next]) = false)
    (ht : head :: tail = part ++ rest) :
    cut reserved head tail = ⟨if part ∈ reserved then .keyword else .identifier, part⟩ := by
  have hl : longest isWord (head :: tail) = part := by
    rw [ht]
    refine longest_eq hw he fun next more hm => ?_
    rw [isWord_append hw, List.all_cons, Bool.and_eq_true] at hm
    rw [isWord_append hw, List.all_cons, hm.1]
    rfl
  cases part with
  | nil => cases hw
  | cons first others =>
    obtain ⟨rfl, rfl⟩ := List.cons.inj ht
    rw [isWord, Bool.and_eq_true] at hw
    rw [cut, if_pos hw.1]
    dsimp only
    rw [hl]

/-- A number is cut off in front of the first character that it cannot hold. -/
theorem cut_numeral (reserved : List Text) (hd : isNumeral part = true)
    (he : ∀ next ∈ rest.head?, isNumeral (part ++ [next]) = false)
    (ht : head :: tail = part ++ rest) : cut reserved head tail = ⟨.number, part⟩ := by
  have hl : longest isNumeral (head :: tail) = part := by
    rw [ht]
    refine longest_eq hd he fun next more hm => ?_
    rw [isNumeral_append hd] at hm ⊢
    by_cases hp : '.' ∈ part
    · rw [if_pos hp, List.all_cons, Bool.and_eq_true] at hm
      rw [if_pos hp, List.all_cons, hm.1]
      rfl
    · rw [if_neg hp, isNumeralTail] at hm ⊢
      split_ifs at hm ⊢ with hnext
      · rfl
      · rw [Bool.and_eq_true] at hm
        rw [hm.1]
        rfl
  cases part with
  | nil => cases hd
  | cons first others =>
    obtain ⟨rfl, rfl⟩ := List.cons.inj ht
    rw [isNumeral, Bool.and_eq_true] at hd
    have hw : ¬ isWordStart head = true := by
      rw [CharClass.isWordStart_eq_false_of_isDigit hd.1]
      exact Bool.false_ne_true
    rw [cut, if_neg hw, if_pos hd.1, hl]

/-- A slash starts neither a word nor a number. -/
theorem cut_slash (reserved : List Text) (tail : Text) :
    cut reserved '/' tail =
      if ['/'].isPrefixOf tail then ⟨.comment, longest isLineComment ('/' :: tail)⟩
      else if ['*'].isPrefixOf tail then
        match shortest? isBlockComment ('/' :: tail) with
        | some comment => ⟨.comment, comment⟩
        | none => ⟨.malformed .unterminatedComment, '/' :: tail⟩
      else cutSign '/' tail := by
  have hw : ¬ isWordStart '/' = true := by decide
  have hd : ¬ '/'.isDigit = true := by decide
  have hq : ¬ '/' = '"' := by decide
  rw [cut, if_neg hw, if_neg hd, if_neg hq]
  rfl

/-- A line comment is cut off in front of the end of the line. -/
theorem cut_lineComment (reserved : List Text) (hc : isLineComment part = true)
    (he : ∀ next ∈ rest.head?, isLineComment (part ++ [next]) = false)
    (ht : head :: tail = part ++ rest) : cut reserved head tail = ⟨.comment, part⟩ := by
  have hl : longest isLineComment (head :: tail) = part := by
    rw [ht]
    refine longest_eq hc he fun next more hm => ?_
    rw [isLineComment_append hc, List.all_cons, Bool.and_eq_true] at hm
    rw [isLineComment_append hc, List.all_cons, hm.1]
    rfl
  unfold isLineComment at hc
  split at hc
  · obtain ⟨rfl, rfl⟩ := List.cons.inj ht
    rw [cut_slash, if_pos (by rfl), hl]
  · cases hc

/-- A block comment is cut off behind its last closer. -/
theorem cut_blockComment (reserved : List Text) (hc : isBlockComment part = true)
    (hs : ∀ shorter, shorter <+: part.dropLast → isBlockComment shorter = false)
    (ht : head :: tail = part ++ rest) : cut reserved head tail = ⟨.comment, part⟩ := by
  have hn : part ≠ [] := by
    rintro rfl
    cases hc
  have hl : shortest? isBlockComment (head :: tail) = some part := by
    rw [ht]
    exact shortest?_eq_some hn hc hs rest
  rw [isBlockComment, Bool.and_eq_true, List.isPrefixOf_iff_prefix] at hc
  obtain ⟨⟨body, rfl⟩, -⟩ := hc
  obtain ⟨rfl, rfl⟩ := List.cons.inj ht
  rw [cut_slash, if_neg (by simp), if_pos (by rfl), hl]

/-- A block comment that is not closed takes everything. -/
theorem cut_unterminatedComment (reserved : List Text) (ho : ['/', '*'] <+: part)
    (hs : ∀ shorter, shorter <+: part → isBlockComment shorter = false)
    (ht : head :: tail = part) :
    cut reserved head tail = ⟨.malformed .unterminatedComment, part⟩ := by
  subst ht
  obtain ⟨body, hb⟩ := ho
  obtain ⟨rfl, rfl⟩ := List.cons.inj hb
  rw [cut_slash, if_neg (by simp), if_pos (by rfl), shortest?_eq_none hs]

/-- A quote starts a string literal. -/
theorem cut_quote (reserved : List Text) (tail : Text) :
    cut reserved '"' tail =
      match shortest? isLiteral ('"' :: tail) with
      | some literal => ⟨.string, literal⟩
      | none => ⟨.malformed .unterminatedString, '"' :: tail⟩ := by
  have hw : ¬ isWordStart '"' = true := by decide
  have hd : ¬ '"'.isDigit = true := by decide
  rw [cut, if_neg hw, if_neg hd]
  rfl

/-- No prefix of an open literal is closed: only a body follows the quote. -/
theorem isLiteral_eq_false_of_body {body : Text} (hb : isLiteralBody body = true) :
    ∀ shorter, shorter <+: '"' :: body → isLiteral shorter = false := by
  intro shorter hp
  rw [← Bool.not_eq_true, isLiteral_iff]
  rintro ⟨inner, rfl, hi⟩
  obtain ⟨more, rfl⟩ := (List.cons_prefix_cons.mp hp).2
  rw [List.append_assoc, isLiteralBody_append hi] at hb
  simp [isLiteralBody] at hb

/-- A string literal is cut off behind the quote that closes it. -/
theorem cut_literal (reserved : List Text) (hc : isLiteral part = true)
    (ht : head :: tail = part ++ rest) : cut reserved head tail = ⟨.string, part⟩ := by
  obtain ⟨body, rfl, hb⟩ := isLiteral_iff.mp hc
  have hl : shortest? isLiteral (head :: tail) = some ('"' :: (body ++ ['"'])) := by
    rw [ht]
    refine shortest?_eq_some (List.cons_ne_nil _ _) hc ?_ rest
    rw [← List.cons_append, List.dropLast_concat]
    exact isLiteral_eq_false_of_body hb
  obtain ⟨rfl, rfl⟩ := List.cons.inj ht
  rw [cut_quote, hl]

/-- A string literal that is not closed takes everything. -/
theorem cut_unterminatedString (reserved : List Text) {body : Text}
    (hb : isLiteralBody body = true) (hp : part = '"' :: body ∨ part = '"' :: (body ++ ['\\']))
    (ht : head :: tail = part) :
    cut reserved head tail = ⟨.malformed .unterminatedString, part⟩ := by
  have hs : ∀ shorter, shorter <+: part → isLiteral shorter = false := by
    rcases hp with rfl | rfl
    · exact isLiteral_eq_false_of_body hb
    · intro shorter hs
      rw [← List.cons_append, List.prefix_concat_iff] at hs
      rcases hs with rfl | hs
      · simp [isLiteral]
      · exact isLiteral_eq_false_of_body hb shorter hs
  have hq : head = '"' := by
    subst ht
    rcases hp with hp | hp <;> exact (List.cons.inj hp).1
  subst hq ht
  rw [cut_quote, shortest?_eq_none hs]

/-- A plain character starts a sign. -/
theorem cut_plain (reserved : List Text) (hp : CharClass.Plain head) (tail : Text) :
    cut reserved head tail = cutSign head tail := by
  have hs : ('/' == head) = false := by simp [hp.ne_slash.symm]
  simp [cut, hp.isWordStart, hp.isDigit, hp.ne_quote, List.isPrefixOf, hs]

/-- A prefix of what begins an operator begins one as well. -/
theorem beginsOperator_of_append {text more : Text}
    (h : Spelling.beginsOperator (text ++ more) = true) : Spelling.beginsOperator text = true := by
  obtain ⟨operator, ho, hp⟩ := Spelling.beginsOperator_iff.mp h
  exact Spelling.beginsOperator_iff.mpr ⟨operator, ho, (List.prefix_append text more).trans hp⟩

/-- A sign that begins an operator is cut off by the operator table. -/
theorem cutSign_operator (hp : Spelling.punctuation? head = none)
    (hb : Spelling.beginsOperator [head] = true) :
    cutSign head tail =
      ⟨if Spelling.isOperator (longest Spelling.beginsOperator (head :: tail)) then .operator
        else .malformed .unknownOperator, longest Spelling.beginsOperator (head :: tail)⟩ := by
  rw [cutSign, hp]
  dsimp only
  rw [if_pos hb]

/-- Operators start with a slash or with a character of their own class. -/
theorem class_of_beginsOperator (hb : Spelling.beginsOperator (head :: tail) = true) :
    head = '/' ∧ tail = [] ∨ Lexicon.standard.charClass head = .operatorStart := by
  have hall : (Spelling.operators.all fun operator => operator == ['/'] ||
      operator.head?.map Lexicon.standard.charClass == some .operatorStart) = true := by decide
  obtain ⟨operator, ho, more, rfl⟩ := Spelling.beginsOperator_iff.mp hb
  have hc := List.all_eq_true.mp hall _ ho
  rw [Bool.or_eq_true, beq_iff_eq, beq_iff_eq] at hc
  rcases hc with he | hc
  · rw [List.cons_append, List.cons.injEq] at he
    obtain ⟨rfl, he⟩ := he
    exact Or.inl ⟨rfl, (List.append_eq_nil_iff.mp he).1⟩
  · exact Or.inr (Option.some.inj hc)

/-- An operator is cut off in front of the first character that no operator holds there, unless
it is the slash of a comment. -/
theorem cut_operator (reserved : List Text) (hn : part ≠ [])
    (hb : Spelling.beginsOperator part = true)
    (he : ∀ next ∈ rest.head?, Spelling.beginsOperator (part ++ [next]) = false)
    (hs : ∀ next ∈ rest.head?, ¬ (part = ['/'] ∧ (next = '/' ∨ next = '*')))
    (ht : head :: tail = part ++ rest) :
    cut reserved head tail =
      ⟨if Spelling.isOperator part then .operator else .malformed .unknownOperator, part⟩ := by
  have hl : longest Spelling.beginsOperator (head :: tail) = part := by
    rw [ht]
    refine longest_eq hb he fun next more hm => ?_
    rw [← List.singleton_append, ← List.append_assoc] at hm
    exact beginsOperator_of_append hm
  obtain ⟨first, others, rfl⟩ := List.exists_cons_of_ne_nil hn
  rw [List.cons_append, List.cons.injEq] at ht
  obtain ⟨rfl, rfl⟩ := ht
  have hfirst : Spelling.beginsOperator [head] = true := @beginsOperator_of_append [head] others hb
  rcases class_of_beginsOperator hb with ⟨rfl, rfl⟩ | hc
  · have hopens : ∀ sign, sign = '/' ∨ sign = '*' → ¬ [sign].isPrefixOf rest = true := by
      intro sign hsign hp
      obtain ⟨more, rfl⟩ := List.isPrefixOf_iff_prefix.mp hp
      exact hs sign rfl ⟨rfl, hsign⟩
    rw [List.nil_append] at hl ⊢
    rw [cut_slash, if_neg (hopens '/' (Or.inl rfl)), if_neg (hopens '*' (Or.inr rfl)),
      cutSign_operator rfl hfirst, hl]
  · obtain ⟨hplain, hp⟩ := CharClass.plain_of_operatorStart hc
    rw [cut_plain reserved hplain, cutSign_operator hp hfirst, hl]

end Grammar

variable {lexicon : Lexicon} {reserved : List Text} {finished : Finished} {head : Char}
  {tail rest : Text}

/-- What is left behind a lexeme that only the end of the input cuts off. -/
theorem Finished.eq_nil_of_endsAt (he : ∀ next ∈ rest.head?, finished.EndsAt next)
    (hn : ∀ next, ¬ finished.EndsAt next) : rest = [] := by
  cases rest with
  | nil => rfl
  | cons next others => exact absurd (he next rfl) (hn next)

/-- The reference lexer cuts a finished lexeme off and classifies it as the lexicon does. -/
theorem cut_of_isLexeme (hr : ∀ word, lexicon.isKeyword word = true ↔ word ∈ reserved)
    (hx : finished.IsLexeme lexicon) (he : ∀ next ∈ rest.head?, finished.EndsAt next)
    (ht : head :: tail = finished.text ++ rest) :
    cut reserved head tail =
      ⟨lexicon.kindOf finished.text finished.category, finished.text⟩ := by
  obtain ⟨category, text⟩ := finished
  cases category with
  | identifier =>
    rw [cut_word reserved hx he ht, Lexicon.kindOf]
    simp only [hr]
  | number => exact cut_numeral reserved hx he ht
  | string => exact cut_literal reserved hx ht
  | comment =>
    rcases hx with hc | ⟨hc, hs⟩
    · exact cut_lineComment reserved hc he ht
    · exact cut_blockComment reserved hc hs ht
  | punctuation =>
    obtain ⟨char, rfl, hc⟩ := hx
    obtain ⟨rfl, rfl⟩ := List.cons.inj ht
    obtain ⟨hplain, kind, hk⟩ := CharClass.plain_of_punctuation hc
    rw [cut_plain reserved hplain, cutSign, Lexicon.kindOf, Lexicon.punctuationKind,
      lexicon.punctuation?_eq, hk]
    rfl
  | operator =>
    rw [Lexicon.kindOf, lexicon.isOperator_eq]
    exact cut_operator reserved hx.1 hx.2 (fun next hn => (he next hn).1)
      (fun next hn => (he next hn).2) ht
  | unrecognized =>
    obtain ⟨char, rfl, hc⟩ := hx
    obtain ⟨rfl, rfl⟩ := List.cons.inj ht
    obtain ⟨hplain, hp, ho⟩ := CharClass.plain_of_other hc
    rw [cut_plain reserved hplain, cutSign, Lexicon.kindOf, hp, ho]
    rfl
  | unterminatedString =>
    obtain rfl := Finished.eq_nil_of_endsAt he fun _ => id
    obtain ⟨body, hb, hp⟩ := hx
    exact cut_unterminatedString reserved hb hp (by rw [ht, List.append_nil])
  | unterminatedComment =>
    obtain rfl := Finished.eq_nil_of_endsAt he fun _ => id
    exact cut_unterminatedComment reserved hx.1 hx.2 (by rw [ht, List.append_nil])

end TableLexer
