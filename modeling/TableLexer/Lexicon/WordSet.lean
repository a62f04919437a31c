import TableLexer.Text.Utf8

/-!
# Word sets

A set keeps each of its words once, in no order that means anything. Whoever goes through it meets
the words in some order, which is left open: an enumeration may be any. Main statement: the words of
a set that was built from lists are those of the lists.
-/

namespace TableLexer

/-- A set of words. -/
structure WordSet where
  /-- The words as they happen to be kept. -/
  words : List Text
  /-- No word is kept twice. -/
  nodup : words.Nodup
  deriving DecidableEq, Repr

namespace WordSet

/-- The set without any word. -/
def empty : WordSet := ⟨[], List.nodup_nil⟩

/-- Whether the word is in the set. -/
def contains (set : WordSet) (word : Text) : Bool := set.words.contains word

/-- The set with a word; nothing changes if it is there already. -/
def insert (set : WordSet) (word : Text) : WordSet :=
  if h : set.contains word then set
  else ⟨word :: set.words,
    List.nodup_cons.mpr ⟨fun hm => h (List.contains_iff_mem.mpr hm), set.nodup⟩⟩

/-- The set with all words of a list. -/
def insertAll (set : WordSet) (words : List Text) : WordSet := words.foldl insert set

theorem mem_words_insert {set : WordSet} {word other : Text} :
    other ∈ (set.insert word).words ↔ other = word ∨ other ∈ set.words := by
  rw [insert]
  split
  · next h =>
    constructor
    · exact Or.inr
    · rintro (rfl | hm)
      · exact List.contains_iff_mem.mp h
      · exact hm
  · exact List.mem_cons

/-- What a set has that words were put into. -/
theorem mem_words_insertAll {set : WordSet} {words : List Text} {word : Text} :
    word ∈ (set.insertAll words).words ↔ word ∈ set.words ∨ word ∈ words := by
  rw [insertAll]
  induction words generalizing set with
  | nil => simp
  | cons head tail ih =>
    rw [List.foldl_cons, ih, mem_words_insert, List.mem_cons, or_assoc, or_left_comm]

end WordSet

/-- An order in which the words of sets are met. -/
structure Enumeration where
  /-- The words of a set in this order. -/
  listing : WordSet → List Text
  /-- Every word of the set is met once. -/
  perm : ∀ set, (listing set).Perm set.words

/-- The words as they are kept. -/
def Enumeration.stored : Enumeration := ⟨WordSet.words, fun _ => List.Perm.refl _⟩

end TableLexer
