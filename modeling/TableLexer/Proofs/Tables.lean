import TableLexer.Lexicon.CharClass

/-!
# The tables of a lexicon

What a lexicon finds in its tables: the standard words and those of the user, whatever their order
and however often they are given, and the same operators and punctuation as every other lexicon.
Main statements: `isKeyword_iff`, and the equations by which a lexicon goes by the fixed spellings.
-/

namespace TableLexer

namespace Spelling

/-- Whether the text is one of the operators. -/
def isOperator (text : Text) : Bool := operators.contains text

/-- Whether one of the operators begins with the text. -/
def beginsOperator (text : Text) : Bool := operators.any text.isPrefixOf

/-- The kind of a punctuation character. -/
def punctuation? (char : Char) : Option TokenKind := punctuation.lookup char

/-- A text begins an operator if it is a beginning of one of the spellings. -/
theorem beginsOperator_iff {text : Text} :
    beginsOperator text = true ↔ ∃ spelling ∈ operators, text <+: spelling := by
  simp only [beginsOperator, List.any_eq_true, List.isPrefixOf_iff_prefix]

/-- The kinds of punctuation characters are punctuation. -/
theorem category_of_punctuation? {char : Char} {kind : TokenKind}
    (h : punctuation? char = some kind) : kind.category = .punctuation := by
  have hall : ∀ entry ∈ punctuation, entry.2.category = .punctuation := by decide
  obtain ⟨before, after, he, -⟩ := List.lookup_eq_some_iff.mp h
  exact hall (char, kind) (he ▸ List.mem_append_right before List.mem_cons_self)

end Spelling

namespace Lexicon

theorem isOperator_eq (lexicon : Lexicon) (text : Text) :
    lexicon.isOperator text = Spelling.isOperator text := by
  rw [isOperator, lexicon.operators_eq, Spelling.isOperator]

theorem beginsOperator_eq (lexicon : Lexicon) (text : Text) :
    lexicon.beginsOperator text = Spelling.beginsOperator text := by
  rw [beginsOperator, lexicon.operators_eq, Spelling.beginsOperator]

theorem extendsOperator_eq (lexicon : Lexicon) (text : Text) (char : Char) :
    lexicon.extendsOperator text char = Spelling.beginsOperator (text ++ [char]) :=
  lexicon.beginsOperator_eq (text ++ [char])

theorem punctuation?_eq (lexicon : Lexicon) (char : Char) :
    lexicon.punctuation? char = Spelling.punctuation? char := by
  rw [punctuation?, lexicon.punctuation_eq, Spelling.punctuation?]

/-- A character has the same class for every lexicon. -/
theorem charClass_eq (lexicon : Lexicon) (char : Char) :
    lexicon.charClass char = standard.charClass char := by
  simp only [charClass, punctuation?_eq, beginsOperator_eq]

/-- Further words are reserved besides those that already are. -/
theorem isKeyword_withKeywords (lexicon : Lexicon) (words : List Text) (word : Text) :
    (lexicon.withKeywords words).isKeyword word = true ↔
      lexicon.isKeyword word = true ∨ word ∈ words := by
  simp only [isKeyword, withKeywords, WordSet.contains, List.contains_iff_mem]
  exact WordSet.mem_words_insertAll

/-- The standard words and those of the user are reserved, and no others. -/
theorem isKeyword_iff (words : List Text) (word : Text) :
    (standard.withKeywords words).isKeyword word = true ↔ word ∈ standardKeywords ++ words := by
  have hs : standard.isKeyword word = true ↔ word ∈ standardKeywords := by
    rw [isKeyword, WordSet.contains, List.contains_iff_mem, standard,
      WordSet.mem_words_insertAll]
    simp [WordSet.empty]
  rw [isKeyword_withKeywords, hs, List.mem_append]

/-- The listing has the reserved words, and no others. -/
theorem mem_keywords_iff {lexicon : Lexicon} {order : Enumeration} {word : Text} :
    word ∈ lexicon.keywords order ↔ lexicon.isKeyword word = true := by
  rw [keywords, List.mem_mergeSort, (order.perm _).mem_iff, isKeyword, WordSet.contains,
    List.contains_iff_mem]

end Lexicon

end TableLexer
