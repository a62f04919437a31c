import TableLexer.Command.Keywords
import TableLexer.Proofs.Names
import Mathlib.Data.List.Sort

/-!
# The listing of reserved words

The reserved words are a set, whose words are met in any order; they are listed in the order of
their bytes, each once. There is one such listing of any set of words, so that neither the order in
which the set is gone through nor the order in which words were added nor their repetition can be
told from it. Main statement: the listing of a lexicon is the one of the standard words and the
further ones, and the keywords command writes it line by line as far as its outlet takes it, or
nothing if the settings are refused.
-/

namespace TableLexer

namespace Text

/-- One text comes strictly before another in the order of their bytes. -/
def IsBefore (first second : Text) : Prop := encode first < encode second

instance : DecidableRel IsBefore := fun first second =>
  inferInstanceAs (Decidable (encode first < encode second))

theorem precedes_iff {first second : Text} :
    precedes first second = true ↔ encode first ≤ encode second := decide_eq_true_iff

/-- Different texts have different byte forms. -/
theorem encode_injective {first second : Text} (h : encode first = encode second) :
    first = second := by
  have hbytes : first.utf8Encode = second.utf8Encode := congrArg List.toByteArray h
  rw [← String.toByteArray_ofList, ← String.toByteArray_ofList, String.toByteArray_inj,
    String.ofList_inj] at hbytes
  exact hbytes

instance : Std.Irrefl IsBefore where
  irrefl text := List.lt_irrefl (encode text)

instance : Std.Antisymm IsBefore where
  antisymm _ _ hfirst hsecond := absurd hsecond (List.lt_asymm hfirst)

/-- What precedes a text precedes all that the text precedes. -/
theorem precedes_trans (first second third : Text) (h : precedes first second = true)
    (hnext : precedes second third = true) : precedes first third = true := by
  rw [precedes_iff] at *
  exact List.le_trans h hnext

/-- Of any two texts one precedes the other. -/
theorem precedes_total (first second : Text) :
    (precedes first second || precedes second first) = true := by
  rw [Bool.or_eq_true, precedes_iff, precedes_iff]
  exact List.le_total _ _

/-- A text that precedes a different one comes strictly before it. -/
theorem isBefore_of_precedes {first second : Text} (h : precedes first second = true)
    (hne : first ≠ second) : IsBefore first second := by
  rw [precedes_iff] at h
  by_contra hno
  exact hne (encode_injective (List.le_antisymm h (List.not_lt.mp hno)))

end Text

namespace Lexicon

/-- Sorting puts the words in strict order, since none of them is met twice. -/
theorem pairwise_keywords (lexicon : Lexicon) (order : Enumeration) :
    (lexicon.keywords order).Pairwise Text.IsBefore := by
  have hsorted : (lexicon.keywords order).Pairwise (Text.precedes · ·) :=
    List.pairwise_mergeSort Text.precedes_trans Text.precedes_total _
  have hmet : (order.listing lexicon.reserved).Nodup :=
    (order.perm _).nodup_iff.mpr lexicon.reserved.nodup
  have hnodup : (lexicon.keywords order).Nodup :=
    (List.mergeSort_perm _ _).nodup_iff.mpr hmet
  exact hsorted.imp₂ (fun _ _ => Text.isBefore_of_precedes) hnodup

/-- No other listing in strict order has the reserved words, in whatever order they are met. -/
theorem eq_keywords {lexicon : Lexicon} {listing : List Text}
    (h : listing.Pairwise Text.IsBefore)
    (hm : ∀ word, word ∈ listing ↔ lexicon.isKeyword word = true) (order : Enumeration) :
    listing = lexicon.keywords order :=
  h.eq_of_mem_iff (lexicon.pairwise_keywords order) fun word =>
    (hm word).trans mem_keywords_iff.symm

/-- Lexicons that reserve the same words list them the same. -/
theorem keywords_congr {lexicon own : Lexicon}
    (h : ∀ word, own.isKeyword word = true ↔ lexicon.isKeyword word = true)
    (order other : Enumeration) : own.keywords other = lexicon.keywords order :=
  eq_keywords (own.pairwise_keywords other) (fun word => mem_keywords_iff.trans (h word)) order

end Lexicon

namespace Keywords

/-- The bytes of a listing: each word in order, with a line feed behind it. -/
def listingBytes (order : Enumeration) (lexicon : Lexicon) : Bytes :=
  (lexicon.keywords order).flatMap fun word => Text.encode word ++ [10]

/-- The pieces that are written are the bytes of the listing. -/
theorem encode_listing (order : Enumeration) (lexicon : Lexicon) :
    Text.encode (listing order lexicon).flatten = listingBytes order lexicon := by
  rw [listing, listingBytes]
  induction lexicon.keywords order with
  | nil => rfl
  | cons word words ih =>
    rw [List.map_cons, List.flatten_cons, Text.encode_append, ih, Text.encode_append,
      List.flatMap_cons]
    rfl

/-- What the outlet is left with, and what the command answers, if the settings describe a
lexicon. -/
theorem run_of_lexicon {settings : Settings} {own : Lexicon} (h : settings.lexicon = .ok own)
    (order : Enumeration) (written : Bytes) :
    run order settings ⟨none, written⟩ =
        (.ok (own.keywords order).length, ⟨none, written ++ listingBytes order own⟩) ∧
      ∀ room, run order settings ⟨some room, written⟩ =
        (if (listingBytes order own).length ≤ room then .ok (own.keywords order).length
          else .error .unwritable,
          ⟨some (room - (listingBytes order own).length),
            written ++ (listingBytes order own).take room⟩) := by
  constructor
  · rw [run, h]
    simp only [Outlet.writeEach_eq, Outlet.write, encode_listing, if_true]
  · intro room
    rw [run, h]
    simp only [Outlet.writeEach_eq, Outlet.write, encode_listing, decide_eq_true_eq]

end Keywords

/-- The listing of a lexicon of standard and further words is strictly increasing in the order of
bytes, has just these words, and is the only listing that does. So it is the same for every order
in which the words are met, for every order and repetition of the further words, and also if they
are added in two steps. The keywords command fails over a keyword of the settings that is no
identifier and writes nothing, or it writes the listing of their lexicon, a line for each word, and
answers with the number of words; an outlet with too little room takes the bytes that it has room
for, and the command fails. -/
theorem listing_canonical (words : List Text) (settings : Settings) (order : Enumeration) :
    ((Lexicon.standard.withKeywords words).keywords order).Pairwise Text.IsBefore ∧
    (∀ word, word ∈ (Lexicon.standard.withKeywords words).keywords order ↔
      word ∈ Lexicon.standardKeywords ∨ word ∈ words) ∧
    (∀ listing : List Text, listing.Pairwise Text.IsBefore →
      (∀ word, word ∈ listing ↔ word ∈ Lexicon.standardKeywords ∨ word ∈ words) →
        listing = (Lexicon.standard.withKeywords words).keywords order) ∧
    (∀ others, (∀ word, word ∈ others ↔ word ∈ words) → ∀ other,
      (Lexicon.standard.withKeywords others).keywords other =
        (Lexicon.standard.withKeywords words).keywords order) ∧
    (∀ more other, ((Lexicon.standard.withKeywords words).withKeywords more).keywords other =
      (Lexicon.standard.withKeywords (words ++ more)).keywords order) ∧
    ((∃ word ∈ settings.keywords, isIdentifier word = false ∧
        ∀ out, Keywords.run order settings out = (.error (.notAnIdentifier word), out)) ∨
      (∀ word ∈ settings.keywords, isIdentifier word = true) ∧
        ∃ own, own = Lexicon.standard.withKeywords settings.keywords ∧ ∀ written,
          Keywords.run order settings ⟨none, written⟩ =
            (.ok (own.keywords order).length,
              ⟨none, written ++ Keywords.listingBytes order own⟩) ∧
          ∀ room, Keywords.run order settings ⟨some room, written⟩ =
            (if (Keywords.listingBytes order own).length ≤ room then
                .ok (own.keywords order).length
              else .error .unwritable,
              ⟨some (room - (Keywords.listingBytes order own).length),
                written ++ (Keywords.listingBytes order own).take room⟩)) := by
  have hreserved : ∀ words word, (Lexicon.standard.withKeywords words).isKeyword word = true ↔
      word ∈ Lexicon.standardKeywords ∨ word ∈ words := by
    intro words word
    rw [Lexicon.isKeyword_iff, List.mem_append]
  refine ⟨Lexicon.pairwise_keywords _ order, fun word => ?_, fun listing h hm => ?_,
    fun others h other => ?_, fun more other => ?_, ?_⟩
  · rw [Lexicon.mem_keywords_iff, hreserved]
  · exact Lexicon.eq_keywords h (fun word => (hm word).trans (hreserved words word).symm) order
  · refine Lexicon.keywords_congr (fun word => ?_) order other
    rw [hreserved, hreserved, h word]
  · refine Lexicon.keywords_congr (fun word => ?_) order other
    rw [Lexicon.isKeyword_withKeywords, hreserved, hreserved, List.mem_append, or_assoc]
  · cases h : settings.lexicon with
    | error failure =>
      obtain ⟨before, word, after, he, -, hword, rfl⟩ := Settings.exists_of_lexicon_eq_error h
      refine Or.inl ⟨word, by simp [he], hword, fun out => ?_⟩
      rw [Keywords.run, h]
    | ok own =>
      obtain ⟨hwords, hown⟩ := Settings.lexicon_eq_ok_iff.mp h
      exact Or.inr ⟨hwords, own, hown, Keywords.run_of_lexicon h order⟩

/-- The order opposite to the one in which the words are kept. -/
def Enumeration.reversed : Enumeration :=
  ⟨fun set => set.words.reverse, fun set => List.reverse_perm set.words⟩

/-- A word given twice and a standard word given again: the listing has thirteen words in order, the
same words once, in another order and met the other way round are listed the same, and an outlet
that takes eight bytes takes the first line and two letters of the second. -/
theorem listing_canonical_repeated :
    ∃ ordered : List Text, ordered = ["break".toList, "char".toList, "continue".toList,
        "do".toList, "else".toList, "float".toList, "for".toList, "if".toList, "int".toList,
        "let".toList, "return".toList, "void".toList, "while".toList] ∧
      ordered.Pairwise Text.IsBefore ∧
      (∀ word, word ∈ ordered ↔
        word ∈ Lexicon.standardKeywords ∨ word ∈ ["let".toList, "if".toList, "let".toList]) ∧
      ordered = (Lexicon.standard.withKeywords
        ["let".toList, "if".toList, "let".toList]).keywords .stored ∧
      (∀ word, word ∈ ["if".toList, "let".toList] ↔
        word ∈ ["let".toList, "if".toList, "let".toList]) ∧
      (Lexicon.standard.withKeywords ["if".toList, "let".toList]).keywords .reversed =
        (Lexicon.standard.withKeywords
          ["let".toList, "if".toList, "let".toList]).keywords .stored ∧
      Keywords.run .stored { keywords := ["let".toList, "if".toList, "let".toList] }
          (.limited 8) =
        (.error .unwritable, ⟨some 0, Text.encode "break\nch".toList⟩) := by
  obtain ⟨-, -, hunique, hsame, -, hrun⟩ :=
    listing_canonical ["let".toList, "if".toList, "let".toList]
      { keywords := ["let".toList, "if".toList, "let".toList] } .stored
  have hordered : ["break".toList, "char".toList, "continue".toList, "do".toList, "else".toList,
      "float".toList, "for".toList, "if".toList, "int".toList, "let".toList, "return".toList,
      "void".toList, "while".toList].Pairwise Text.IsBefore := by decide +kernel
  have hmem : ∀ word, word ∈ ["break".toList, "char".toList, "continue".toList, "do".toList,
      "else".toList, "float".toList, "for".toList, "if".toList, "int".toList, "let".toList,
      "return".toList, "void".toList, "while".toList] ↔
        word ∈ Lexicon.standardKeywords ∨ word ∈ ["let".toList, "if".toList, "let".toList] := by
    intro word
    rw [← List.mem_append]
    constructor
    · revert word
      decide +kernel
    · revert word
      decide +kernel
  have hset : ∀ word, word ∈ ["if".toList, "let".toList] ↔
      word ∈ ["let".toList, "if".toList, "let".toList] := by
    intro word
    simp only [List.mem_cons, List.not_mem_nil, or_false]
    tauto
  have hlisting := hunique _ hordered hmem
  rcases hrun with ⟨word, hm, hword, -⟩ | ⟨-, own, rfl, hown⟩
  · have hwords : ∀ word ∈ ["let".toList, "if".toList, "let".toList],
        isIdentifier word = true := by decide
    exact absurd (hwords word hm) (by simp [hword])
  · refine ⟨_, rfl, hordered, hmem, hlisting, hset, hsame _ hset .reversed, ?_⟩
    refine ((hown []).2 8).trans ?_
    rw [Keywords.listingBytes, ← hlisting]
    decide +kernel

end TableLexer
