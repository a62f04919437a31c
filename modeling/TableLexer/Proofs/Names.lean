import TableLexer.Proofs.Blanks
import TableLexer.Proofs.Delivery
import TableLexer.Proofs.Tables
import TableLexer.Proofs.Origins

/-!
# Words that scan as names

Settings accept a word by its characters, the scanner by its attempts. Both agree: a word is an
identifier exactly if a scan of it answers with one name that is the whole word, as long as its
columns can be counted. Main statement: settings describe a lexicon exactly if each of their
keywords scans so, the first one that does not is named otherwise, and every word of the lexicon
scans as a keyword.
-/

namespace TableLexer

open Grammar

/-- A scan of the word answers with one token, which is a name and the whole word. -/
def Lexicon.ScansAsName (lexicon : Lexicon) (word : Text) : Prop :=
  ∃ token, ScansTo lexicon word [token] ∧
    (token.kind = .identifier ∨ token.kind = .keyword) ∧ token.lexeme = word

/-- What settings call an identifier is a word of the grammar. -/
theorem isIdentifier_eq_isWord (word : Text) : isIdentifier word = isWord word := by
  cases word <;> rfl

/-- A letter or an underscore starts a word whatever else it may be. -/
theorem Lexicon.charClass_eq_wordStart (lexicon : Lexicon) {char : Char}
    (h : isWordStart char = true) : lexicon.charClass char = .wordStart := by
  have hb := CharClass.isBlank_eq_false_of_isWordPart (CharClass.isWordPart_iff.mpr (Or.inr h))
  have hd : char.isDigit ≠ true := by
    intro hd
    have hs := CharClass.isWordStart_eq_false_of_isDigit hd
    exact Bool.false_ne_true (hs.symm.trans h)
  rw [charClass, hb, if_neg Bool.false_ne_true, if_neg hd, if_pos h]

namespace Attempt

/-- An identifier takes all characters that words may hold, up to the end of the input. -/
theorem completes_identifier (lexicon : Lexicon) {more : Text}
    (h : ∀ char ∈ more, isWordPart char = true) (text : Text) :
    (identifier text).Completes lexicon more ⟨.identifier, text ++ more⟩ [] := by
  induction more generalizing text with
  | nil =>
    rw [List.append_nil]
    exact .ended rfl
  | cons char rest ih =>
    obtain ⟨hchar, hrest⟩ := List.forall_mem_cons.mp h
    have hstep : (identifier text).step lexicon char = .extend (identifier (text ++ [char])) := by
      rw [step, stepIdentifier, if_pos hchar]
    have hc := ih hrest (text ++ [char])
    rw [List.append_assoc, List.singleton_append] at hc
    exact .extended hstep hc

/-- The idle attempt completes a whole word as an identifier. -/
theorem completes_of_isIdentifier (lexicon : Lexicon) {word : Text} (h : isIdentifier word = true) :
    idle.Completes lexicon word ⟨.identifier, word⟩ [] := by
  cases word with
  | nil => cases h
  | cons first rest =>
    rw [isIdentifier, Bool.and_eq_true, List.all_eq_true] at h
    have hstep : idle.step lexicon first = .extend (identifier [first]) := by
      rw [step, start, lexicon.charClass_eq_wordStart h.1]
    exact .extended hstep (completes_identifier lexicon h.2 [first])

end Attempt

namespace Lexicon

/-- An identifier scans as one name, a keyword if it is reserved. -/
theorem scansTo_of_isIdentifier (lexicon : Lexicon) {word : Text} (h : isIdentifier word = true)
    (hl : word.length < countLimit) :
    ∃ token, ScansTo lexicon word [token] ∧
      token.kind = (if lexicon.isKeyword word then .keyword else .identifier) ∧
      token.lexeme = word := by
  have hscans : Scans lexicon .origin (word ++ [])
      [Finished.token lexicon .origin ⟨.identifier, word⟩] :=
    .token (Attempt.completes_of_isIdentifier lexicon h) .done
  have hname : lexicon.kindOf word .identifier ≠ .string := by
    rw [kindOf]
    split <;> simp
  rw [List.append_nil] at hscans
  exact ⟨_, hscans.scansTo hl, rfl, if_neg hname⟩

/-- Only identifiers scan as names, and only as long as their columns can be counted. -/
theorem scansAsName_iff (lexicon : Lexicon) (word : Text) :
    lexicon.ScansAsName word ↔ isIdentifier word = true ∧ word.length < countLimit := by
  constructor
  · rintro ⟨token, hscan, hkind, hlexeme⟩
    obtain ⟨hs, hadmits⟩ := scansTo_iff.mp hscan
    obtain ⟨gap, covered, finished, rest, he, -, hc, rfl, -⟩ := hs.exists_of_cons
    have htext : finished.text = covered := hc.text_eq
    obtain ⟨category, text⟩ := finished
    obtain rfl : text = covered := htext
    have hcategory : category = .identifier := by
      rcases hkind with hkind | hkind
      · exact eq_category_of_kindOf hkind (by decide)
      · exact eq_category_of_kindOf hkind (by decide)
    subst hcategory
    have hname : lexicon.kindOf text .identifier ≠ .string := by
      rw [kindOf]
      split <;> simp
    have hwhole : text = word := (if_neg hname).symm.trans hlexeme
    subst hwhole
    have hblank : ∀ char ∈ text, Text.isBlank char = false := hc.confines trivial
    have hfeed : '\n' ∉ text := fun hm => absurd (hblank _ hm) (by decide)
    have hl := (Mark.origin_admits_iff hfeed).mp hadmits
    have hword : isWord text = true := (hc.isLexeme_of_idle (Nat.le_of_lt hl)).1
    exact ⟨(isIdentifier_eq_isWord text).trans hword, hl⟩
  · rintro ⟨hword, hl⟩
    obtain ⟨token, hscan, hkind, hlexeme⟩ := lexicon.scansTo_of_isIdentifier hword hl
    refine ⟨token, hscan, ?_, hlexeme⟩
    rw [hkind]
    split <;> simp

/-- Every word that a lexicon of settings reserves is an identifier. -/
theorem isIdentifier_of_isKeyword {words : List Text}
    (h : ∀ word ∈ words, isIdentifier word = true) {word : Text}
    (hk : (standard.withKeywords words).isKeyword word = true) : isIdentifier word = true := by
  have hstandard : ∀ word ∈ standardKeywords, isIdentifier word = true := by decide
  rcases List.mem_append.mp ((isKeyword_iff words word).mp hk) with hs | hw
  · exact hstandard word hs
  · exact h word hw

/-- No scan answers a word that has no line feed and too many columns to count. -/
theorem not_scansTo_of_le_length {word : Text} (hfeed : '\n' ∉ word)
    (hl : countLimit ≤ word.length) (lexicon : Lexicon) (tokens : List Token) :
    ¬ ScansTo lexicon word tokens := by
  intro hscan
  have hshort := (Mark.origin_admits_iff hfeed).mp (scansTo_iff.mp hscan).2
  exact absurd hl (Nat.not_le.mpr hshort)

end Lexicon

/-- A letter repeated is an identifier. -/
theorem isIdentifier_replicate {count : Nat} (h : count ≠ 0) :
    isIdentifier (List.replicate count 'a') = true := by
  obtain ⟨count, rfl⟩ := Nat.exists_eq_succ_of_ne_zero h
  rw [List.replicate_succ, isIdentifier, Bool.and_eq_true, List.all_eq_true]
  refine ⟨rfl, fun char hm => ?_⟩
  rw [List.eq_of_mem_replicate hm]
  rfl

namespace Settings

variable {settings : Settings}

/-- Settings describe a lexicon exactly if all of their keywords are identifiers. -/
theorem lexicon_eq_ok_iff {own : Lexicon} : settings.lexicon = .ok own ↔
    (∀ word ∈ settings.keywords, isIdentifier word = true) ∧
      own = Lexicon.standard.withKeywords settings.keywords := by
  constructor
  · intro h
    rw [lexicon] at h
    split at h
    · cases h
    · next hnone =>
      refine ⟨fun word hm => ?_, (Except.ok.inj h).symm⟩
      simpa using List.find?_eq_none.mp hnone word hm
  · rintro ⟨hwords, rfl⟩
    exact lexicon_eq hwords

/-- Where settings describe none, the first of their keywords that is no identifier is to blame. -/
theorem exists_of_lexicon_eq_error {failure : Failure} (h : settings.lexicon = .error failure) :
    ∃ before word after, settings.keywords = before ++ word :: after ∧
      (∀ earlier ∈ before, isIdentifier earlier = true) ∧ isIdentifier word = false ∧
      failure = .notAnIdentifier word := by
  rw [lexicon] at h
  split at h
  · next word hsome =>
    obtain ⟨hword, before, after, he, hbefore⟩ := List.find?_eq_some_iff_append.mp hsome
    refine ⟨before, word, after, he, fun earlier hm => ?_, by simpa using hword,
      (Except.error.inj h).symm⟩
    simpa using hbefore earlier hm
  · cases h

end Settings

/-- A word is an identifier exactly if it scans as a name, whatever is reserved, up to the length at
which columns can no longer be counted. So settings describe a lexicon exactly if all of their
keywords scan as names, and fail over the first one that does not. The lexicon reserves the standard
words and theirs, and each of them scans as one keyword. -/
theorem reserved_words_are_names (lexicon : Lexicon) (settings : Settings) :
    (∀ word, lexicon.ScansAsName word ↔ isIdentifier word = true ∧ word.length < countLimit) ∧
    ((∀ word ∈ settings.keywords, word.length < countLimit) →
      ((∃ own, settings.lexicon = .ok own) ↔
        ∀ word ∈ settings.keywords, lexicon.ScansAsName word)) ∧
    (∀ failure, settings.lexicon = .error failure →
      ∃ before word after, settings.keywords = before ++ word :: after ∧
        (∀ earlier ∈ before, earlier.length < countLimit → lexicon.ScansAsName earlier) ∧
        ¬ lexicon.ScansAsName word ∧ failure = .notAnIdentifier word ∧
        failure.message =
          "Validation error: keyword `".toList ++ word ++ "` is not a valid identifier".toList) ∧
    ∀ own, settings.lexicon = .ok own → ∀ order,
      (∀ word, word ∈ own.keywords order ↔
        word ∈ Lexicon.standardKeywords ++ settings.keywords) ∧
      ∀ word ∈ own.keywords order, word.length < countLimit →
        ∃ token, ScansTo own word [token] ∧ token.kind = .keyword ∧ token.lexeme = word := by
  refine ⟨lexicon.scansAsName_iff, fun hl => ?_, fun failure h => ?_, fun own h order => ?_⟩
  · constructor
    · rintro ⟨own, h⟩ word hm
      have hword := (Settings.lexicon_eq_ok_iff.mp h).1 word hm
      exact (lexicon.scansAsName_iff word).mpr ⟨hword, hl word hm⟩
    · intro hscan
      have hwords : ∀ word ∈ settings.keywords, isIdentifier word = true :=
        fun word hm => ((lexicon.scansAsName_iff word).mp (hscan word hm)).1
      exact ⟨_, Settings.lexicon_eq_ok_iff.mpr ⟨hwords, rfl⟩⟩
  · obtain ⟨before, word, after, he, hbefore, hword, rfl⟩ := Settings.exists_of_lexicon_eq_error h
    have hscan : ¬ lexicon.ScansAsName word := by
      rw [lexicon.scansAsName_iff, hword]
      simp
    exact ⟨before, word, after, he,
      fun earlier hm hl => (lexicon.scansAsName_iff earlier).mpr ⟨hbefore earlier hm, hl⟩,
      hscan, rfl, rfl⟩
  · obtain ⟨hwords, rfl⟩ := Settings.lexicon_eq_ok_iff.mp h
    refine ⟨fun word => ?_, fun word hm hl => ?_⟩
    · rw [Lexicon.mem_keywords_iff, Lexicon.isKeyword_iff]
    · have hreserved := Lexicon.mem_keywords_iff.mp hm
      have hword := Lexicon.isIdentifier_of_isKeyword hwords hreserved
      obtain ⟨token, hscan, hkind, hlexeme⟩ :=
        (Lexicon.standard.withKeywords settings.keywords).scansTo_of_isIdentifier hword hl
      rw [if_pos hreserved] at hkind
      exact ⟨token, hscan, hkind, hlexeme⟩

/-- Keywords of which the second one is no identifier, as its scan shows, and the first of them
alone. -/
theorem reserved_words_are_names_first :
    Lexicon.standard.ScansAsName "let".toList ∧ ¬ Lexicon.standard.ScansAsName "9x".toList ∧
      Settings.lexicon { keywords := ["let".toList, "9x".toList, "é".toList] } =
        .error (.notAnIdentifier "9x".toList) ∧
      (∃ before word after,
        ["let".toList, "9x".toList, "é".toList] = before ++ word :: after ∧
          (∀ earlier ∈ before, earlier.length < countLimit →
            Lexicon.standard.ScansAsName earlier) ∧
          ¬ Lexicon.standard.ScansAsName word ∧
          Failure.notAnIdentifier "9x".toList = .notAnIdentifier word) ∧
      (∀ word ∈ ["let".toList], word.length < countLimit) ∧
      ∃ own, Settings.lexicon { keywords := ["let".toList] } = .ok own ∧
        "let".toList ∈ own.keywords .stored ∧
        ∃ token, ScansTo own "let".toList [token] ∧ token.kind = .keyword ∧
          token.lexeme = "let".toList := by
  have herror : Settings.lexicon { keywords := ["let".toList, "9x".toList, "é".toList] } =
      .error (.notAnIdentifier "9x".toList) := rfl
  obtain ⟨hscan, -, hfirst, -⟩ :=
    reserved_words_are_names .standard { keywords := ["let".toList, "9x".toList, "é".toList] }
  obtain ⟨-, hdescribes, -, hown⟩ :=
    reserved_words_are_names .standard { keywords := ["let".toList] }
  have hlet : Lexicon.standard.ScansAsName "let".toList := (hscan _).mpr ⟨rfl, by decide⟩
  have hnine : ¬ Lexicon.standard.ScansAsName "9x".toList := fun h =>
    absurd ((hscan _).mp h).1 (by decide)
  obtain ⟨before, word, after, he, hbefore, hword, hfailure, -⟩ := hfirst _ herror
  have hshort : ∀ word ∈ ["let".toList], word.length < countLimit := by decide
  obtain ⟨own, h⟩ := (hdescribes hshort).mpr (by simpa using hlet)
  obtain ⟨hmem, hkeyword⟩ := hown own h .stored
  have hm : "let".toList ∈ own.keywords .stored := (hmem _).mpr (by simp)
  exact ⟨hlet, hnine, herror, ⟨before, word, after, he, hbefore, hword, hfailure⟩, hshort, own, h,
    hm, hkeyword _ hm (by decide)⟩

/-- The bound on the length cannot be left out: a word of `countLimit` letters is an identifier,
settings may have it reserved, and no scan answers it. -/
theorem overlong_identifier_not_scanned :
    isIdentifier (List.replicate countLimit 'a') = true ∧
      ¬ Lexicon.standard.ScansAsName (List.replicate countLimit 'a') ∧
      ∃ own, Settings.lexicon { keywords := [List.replicate countLimit 'a'] } = .ok own ∧
        List.replicate countLimit 'a' ∈ own.keywords .stored ∧
        ∀ tokens, ¬ ScansTo own (List.replicate countLimit 'a') tokens := by
  have hword : isIdentifier (List.replicate countLimit 'a') = true :=
    isIdentifier_replicate (by decide)
  have hl : countLimit ≤ (List.replicate countLimit 'a').length :=
    Nat.le_of_eq List.length_replicate.symm
  have hfeed : '\n' ∉ List.replicate countLimit 'a' := fun hm =>
    absurd (List.eq_of_mem_replicate hm) (by decide)
  have hwords : ∀ word ∈ [List.replicate countLimit 'a'], isIdentifier word = true := by
    intro word hm
    rwa [List.mem_singleton.mp hm]
  refine ⟨hword, ?_, _, Settings.lexicon_eq_ok_iff.mpr ⟨hwords, rfl⟩, ?_,
    Lexicon.not_scansTo_of_le_length hfeed hl _⟩
  · rintro ⟨token, hscan, -⟩
    exact Lexicon.not_scansTo_of_le_length hfeed hl _ _ hscan
  · rw [Lexicon.mem_keywords_iff, Lexicon.isKeyword_iff]
    exact List.mem_append_right _ (List.mem_singleton.mpr rfl)

end TableLexer
