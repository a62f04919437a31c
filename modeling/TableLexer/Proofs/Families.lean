import TableLexer.Lexicon.CharClass
import Mathlib.Data.List.Basic

/-!
# Families of lexemes

Each family of tokens is a set of texts: words, numerals, comments, string literals. The
definitions say which texts belong to a family without any state that is carried along; the laws
say what more characters behind a member do to its membership.
-/

namespace TableLexer.Grammar

/-- An ASCII letter or an underscore, then ASCII letters, digits and underscores. -/
def isWord : Text → Bool
  | [] => false
  | head :: tail => isWordStart head && tail.all isWordPart

/-- Digits, then perhaps a point, then perhaps further digits. -/
def isNumeralTail : Text → Bool
  | [] => true
  | char :: rest =>
    if char.isDigit then isNumeralTail rest else char == '.' && rest.all Char.isDigit

/-- A digit and the tail of a numeral. -/
def isNumeral : Text → Bool
  | [] => false
  | head :: tail => head.isDigit && isNumeralTail tail

/-- Whether the character ends a line comment. -/
def endsLine (char : Char) : Bool := char == '\n' || char == '\r'

theorem endsLine_iff {char : Char} : endsLine char = true ↔ char = '\n' ∨ char = '\r' := by
  simp [endsLine]

/-- What ends a line is white space. -/
theorem isBlank_of_endsLine {char : Char} (h : endsLine char = true) :
    Text.isBlank char = true := by
  rcases endsLine_iff.mp h with rfl | rfl <;> decide

/-- Two slashes and the rest of a line. -/
def isLineComment : Text → Bool
  | '/' :: '/' :: body => body.all fun char => !endsLine char
  | _ => false

/-- Openers less closers of block comments, paired from left to right; a character belongs to
one pair at most. -/
def balance : Text → Int
  | '/' :: '*' :: rest => balance rest + 1
  | '*' :: '/' :: rest => balance rest - 1
  | _ :: rest => balance rest
  | [] => 0

/-- What opens and what closes a block comment. -/
inductive Delimiter where
  /-- A slash and a star. -/
  | opener
  /-- A star and a slash. -/
  | closer
  deriving DecidableEq

/-- The openers and closers of block comments in order, paired in the same way. -/
def delimiters : Text → List Delimiter
  | '/' :: '*' :: rest => .opener :: delimiters rest
  | '*' :: '/' :: rest => .closer :: delimiters rest
  | _ :: rest => delimiters rest
  | [] => []

/-- An opener and all that it needs to be closed again. -/
def isBlockComment (text : Text) : Bool := ['/', '*'].isPrefixOf text && balance text == 0

/-- Characters other than the quote and the backslash, and backslashes with a character each. -/
def isLiteralBody : Text → Bool
  | [] => true
  | ['\\'] => false
  | '\\' :: _ :: rest => isLiteralBody rest
  | char :: rest => char != '"' && isLiteralBody rest

/-- The body of a string literal between two quotes. -/
def isLiteral : Text → Bool
  | '"' :: rest => rest.getLast? == some '"' && isLiteralBody rest.dropLast
  | _ => false

/-- The character that may pair with the next one: a last slash or star that belongs to no
pair. -/
def unpaired : Text → Option Char
  | '/' :: '*' :: rest => unpaired rest
  | '*' :: '/' :: rest => unpaired rest
  | [char] => if char = '*' ∨ char = '/' then some char else none
  | _ :: rest => unpaired rest
  | [] => none

/-- Behind a word, every further character has to be part of it. -/
theorem isWord_append {word : Text} (hw : isWord word = true) (more : Text) :
    isWord (word ++ more) = more.all isWordPart := by
  cases word with
  | nil => cases hw
  | cons head tail =>
    simp only [isWord, Bool.and_eq_true] at hw
    simp [isWord, hw]

/-- Behind the tail of a numeral, there is room for digits, and for one point in all. -/
theorem isNumeralTail_append {tail : Text} (ht : isNumeralTail tail = true) (more : Text) :
    isNumeralTail (tail ++ more) =
      if '.' ∈ tail then more.all Char.isDigit else isNumeralTail more := by
  induction tail with
  | nil => simp
  | cons char rest ih =>
    by_cases hd : char.isDigit = true
    · have hn : ¬ '.' = char := by
        rintro rfl
        exact absurd hd (by decide)
      rw [isNumeralTail, if_pos hd] at ht
      rw [List.cons_append, isNumeralTail, if_pos hd, ih ht]
      simp [hn]
    · rw [isNumeralTail, if_neg hd, Bool.and_eq_true, beq_iff_eq] at ht
      rw [List.cons_append, isNumeralTail, if_neg hd, List.all_append, ht.2]
      simp [ht.1]

theorem isNumeral_append {numeral : Text} (hn : isNumeral numeral = true) (more : Text) :
    isNumeral (numeral ++ more) =
      if '.' ∈ numeral then more.all Char.isDigit else isNumeralTail more := by
  cases numeral with
  | nil => cases hn
  | cons head tail =>
    rw [isNumeral, Bool.and_eq_true] at hn
    have hp : ¬ '.' = head := by
      rintro rfl
      exact absurd hn.1 (by decide)
    rw [List.cons_append, isNumeral, hn.1, Bool.true_and, isNumeralTail_append hn.2]
    simp [hp]

/-- A line comment goes on up to the end of its line. -/
theorem isLineComment_append {comment : Text} (hc : isLineComment comment = true) (more : Text) :
    isLineComment (comment ++ more) = more.all fun char => !endsLine char := by
  unfold isLineComment at hc
  split at hc
  · simp only [List.cons_append, isLineComment, List.all_append, hc, Bool.true_and]
  · cases hc

/-- Behind a complete body, what follows is judged on its own. -/
theorem isLiteralBody_append {body : Text} (hb : isLiteralBody body = true) (more : Text) :
    isLiteralBody (body ++ more) = isLiteralBody more := by
  fun_induction isLiteralBody body with
  | case1 => rfl
  | case2 => cases hb
  | case3 char rest ih => simpa [isLiteralBody] using ih hb
  | case4 char rest hn hm ih =>
    rw [Bool.and_eq_true] at hb
    have hc : char ≠ '\\' := by
      rintro rfl
      cases rest with
      | nil => exact hn rfl rfl
      | cons next others => exact hm next others rfl rfl
    simp [isLiteralBody, hc, hb.1, ih hb.2]

/-- A string literal is a body between two quotes. -/
theorem isLiteral_iff {text : Text} :
    isLiteral text = true ↔ ∃ body, text = '"' :: (body ++ ['"']) ∧ isLiteralBody body = true := by
  constructor
  · intro h
    unfold isLiteral at h
    split at h
    · next rest =>
      rw [Bool.and_eq_true, beq_iff_eq] at h
      exact ⟨rest.dropLast, by rw [List.dropLast_append_getLast? _ h.1], h.2⟩
    · cases h
  · rintro ⟨body, rfl, hb⟩
    simp [isLiteral, hb]

/-- Two characters in a row that open or close a block comment. -/
def Pairs (first second : Char) : Prop :=
  (first = '/' ∧ second = '*') ∨ (first = '*' ∧ second = '/')

theorem delimiters_cons_cons {first second : Char} (h : ¬ Pairs first second) (rest : Text) :
    delimiters (first :: second :: rest) = delimiters (second :: rest) := by
  rw [delimiters]
  · intro more hf hs
    exact h (Or.inl ⟨hf, (List.cons.inj hs).1⟩)
  · intro more hf hs
    exact h (Or.inr ⟨hf, (List.cons.inj hs).1⟩)

theorem unpaired_cons_cons {first second : Char} (h : ¬ Pairs first second) (rest : Text) :
    unpaired (first :: second :: rest) = unpaired (second :: rest) := by
  rw [unpaired]
  · intro more hf hs
    exact h (Or.inl ⟨hf, (List.cons.inj hs).1⟩)
  · intro more hf hs
    exact h (Or.inr ⟨hf, (List.cons.inj hs).1⟩)
  · exact List.cons_ne_nil _ _

/-- Texts are read by pairs where there is one, and by single characters elsewhere. -/
theorem pairing_induction {motive : Text → Prop} (nil : motive [])
    (single : ∀ last, motive [last])
    (pair : ∀ first second rest, Pairs first second → motive rest →
      motive (first :: second :: rest))
    (step : ∀ first second rest, ¬ Pairs first second → motive (second :: rest) →
      motive (first :: second :: rest)) : ∀ text, motive text
  | [] => nil
  | [last] => single last
  | first :: second :: rest => by
    by_cases hp : Pairs first second
    · exact pair first second rest hp (pairing_induction nil single pair step rest)
    · exact step first second rest hp (pairing_induction nil single pair step (second :: rest))

/-- There are no more openers than characters. -/
theorem balance_le_length (text : Text) : balance text ≤ text.length := by
  fun_induction balance text with
  | case1 rest ih | case2 rest ih | case3 head rest hn hm ih =>
    simp only [List.length_cons]
    omega
  | case4 => exact Int.le_refl 0

/-- A further character completes an opener or a closer if the character before it belongs to
none and pairs with it. -/
theorem delimiters_concat (text : Text) (char : Char) :
    delimiters (text ++ [char]) = delimiters text ++
      if unpaired text = some '*' ∧ char = '/' then [.closer]
      else if unpaired text = some '/' ∧ char = '*' then [.opener]
      else [] := by
  induction text using pairing_induction with
  | nil => simp [delimiters, unpaired]
  | single last =>
    by_cases hp : Pairs last char
    · rcases hp with ⟨rfl, rfl⟩ | ⟨rfl, rfl⟩ <;> rfl
    · rw [List.singleton_append, delimiters_cons_cons hp]
      rw [Pairs, not_or] at hp
      by_cases hs : last = '*' ∨ last = '/'
      · simp [delimiters, unpaired, hs, hp]
      · simp [delimiters, unpaired, hs]
  | pair first second rest hp ih =>
    rcases hp with ⟨rfl, rfl⟩ | ⟨rfl, rfl⟩
    all_goals
      rw [List.cons_append, List.cons_append, delimiters, delimiters, unpaired, ih]
      rfl
  | step first second rest hp ih =>
    rw [List.cons_append, List.cons_append, delimiters_cons_cons hp, delimiters_cons_cons hp,
      unpaired_cons_cons hp, ← List.cons_append, ih]

/-- The balance counts openers up and closers down. -/
theorem balance_eq (text : Text) :
    balance text = (delimiters text).count .opener - (delimiters text).count .closer := by
  fun_induction balance text with
  | case1 rest ih =>
    rw [ih, delimiters, List.count_cons_self, List.count_cons_of_ne (by decide)]
    omega
  | case2 rest ih =>
    rw [ih, delimiters, List.count_cons_self, List.count_cons_of_ne (by decide)]
    omega
  | case3 head rest hn hm ih =>
    rw [ih, delimiters]
    · exact hn
    · exact hm
  | case4 => rfl

/-- What a further character does to the balance depends on the character that may pair with
it. -/
theorem balance_concat (text : Text) (char : Char) :
    balance (text ++ [char]) =
      if unpaired text = some '*' ∧ char = '/' then balance text - 1
      else if unpaired text = some '/' ∧ char = '*' then balance text + 1
      else balance text := by
  rw [balance_eq, balance_eq, delimiters_concat, List.count_append, List.count_append]
  split_ifs <;> simp <;> omega

/-- The further character may pair with the next one if it has not paired itself. -/
theorem unpaired_concat (text : Text) (char : Char) :
    unpaired (text ++ [char]) =
      if unpaired text = some '*' ∧ char = '/' ∨ unpaired text = some '/' ∧ char = '*' then none
      else if char = '*' ∨ char = '/' then some char
      else none := by
  induction text using pairing_induction with
  | nil => simp [unpaired]
  | single last =>
    by_cases hp : Pairs last char
    · rcases hp with ⟨rfl, rfl⟩ | ⟨rfl, rfl⟩ <;> rfl
    · rw [List.singleton_append, unpaired_cons_cons hp]
      rw [Pairs, not_or] at hp
      by_cases hs : last = '*' ∨ last = '/'
      · simp [unpaired, hs, hp]
      · simp [unpaired, hs]
  | pair first second rest hp ih =>
    rcases hp with ⟨rfl, rfl⟩ | ⟨rfl, rfl⟩
    all_goals rw [List.cons_append, List.cons_append, unpaired, unpaired, ih]
  | step first second rest hp ih =>
    rw [List.cons_append, List.cons_append, unpaired_cons_cons hp, unpaired_cons_cons hp,
      ← List.cons_append, ih]

end TableLexer.Grammar
