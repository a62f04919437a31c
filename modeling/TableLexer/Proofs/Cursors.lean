import TableLexer.Proofs.Scans
import TableLexer.Text.Utf8
import Mathlib.Logic.Function.Iterate
import Mathlib.Tactic.SplitIfs

/-!
# Exact positions

A cursor knows what it has passed only by three counts, and what is ahead only by its bytes. Main
statement: on a source of fewer than `countLimit` characters, so many advances lead behind so many
characters, where bytes, lines and columns are those of the text passed, the next character is the
one that the bytes ahead encode, and slices from earlier positions are the text in between. Every
token has the line and the column of the text in front of it.
-/

namespace TableLexer

/-- A byte below 128 at the beginning of an encoded character is that character. -/
theorem Text.ofNat_of_encode {char : Char} {byte : UInt8} {bytes : Bytes}
    (h : String.utf8EncodeChar char = byte :: bytes) (hb : byte < 128) :
    Char.ofNat byte.toNat = char := by
  have hlow : byte.toNat < 128 := hb
  rw [String.utf8EncodeChar] at h
  split_ifs at h with hone htwo hthree
  · obtain ⟨rfl, -⟩ := List.cons.inj h
    rw [UInt8.toNat_ofNat', Nat.mod_eq_of_lt (by omega)]
    exact Char.ofNat_toNat char
  all_goals
    obtain ⟨rfl, -⟩ := List.cons.inj h
    rw [UInt8.toNat_ofNat'] at hlow
    omega

namespace Cursor

/-- The next character by its bytes: a byte below 128 is the character itself, and any other is
decoded with those behind it. There is none where no character begins. -/
def decoded? (cursor : Cursor) : Option Char :=
  (Text.dropBytes? cursor.source cursor.mark.position).bind fun ahead =>
    match Text.encode ahead with
    | [] => none
    | byte :: bytes =>
      if byte < 128 then some (Char.ofNat byte.toNat)
      else ByteArray.utf8DecodeChar? (byte :: bytes).toByteArray 0

/-- One advance more, unless an earlier one has failed. -/
def advanced (result : Except Fault Cursor) : Except Fault Cursor := result.bind advance

/-- The cursor behind so many characters, or behind all. -/
def behind (source : Text) (count : Nat) : Cursor :=
  ⟨source, source.drop count, Mark.origin.afterAll (source.take count)⟩

variable {source : Text} {count : Nat}

/-- Behind all characters there is no other place. -/
theorem behind_of_length_le (h : source.length ≤ count) :
    behind source count = ⟨source, [], Mark.origin.afterAll source⟩ := by
  rw [behind, List.drop_eq_nil_of_le h, List.take_of_length_le h]

/-- Where counts have room for the whole source, one advance leads behind one character more. -/
theorem advance_behind (hl : source.length < countLimit) (count : Nat) :
    (behind source count).advance = .ok (behind source (count + 1)) := by
  by_cases hc : count < source.length
  · have hsource : Mark.origin.Admits (source.take count ++ source.drop count) := by
      rw [List.take_append_drop]
      exact (Mark.hasRoom_origin hl).admits
    have hahead := (Mark.admits_append.mp hsource).2
    rw [List.drop_eq_getElem_cons hc] at hahead
    have hmark : (Mark.origin.afterAll (source.take count)).after source[count] =
        Mark.origin.afterAll (source.take (count + 1)) := by
      rw [← List.take_append_getElem hc, Mark.afterAll_append]
      rfl
    rw [behind, List.drop_eq_getElem_cons hc, advance]
    dsimp only
    rw [hahead.pass, hmark]
    rfl
  · rw [behind_of_length_le (Nat.le_of_not_lt hc),
      behind_of_length_le (Nat.le_succ_of_le (Nat.le_of_not_lt hc))]
    rfl

/-- So many advances lead behind so many characters. -/
theorem iterate_advance (hl : source.length < countLimit) (count : Nat) :
    advanced^[count] (.ok (start source)) = .ok (behind source count) := by
  induction count with
  | zero => rfl
  | succ count ih =>
    rw [Function.iterate_succ_apply', ih]
    exact advance_behind hl count

/-- Passing so many characters is advancing so many times. -/
theorem advanceBy_eq_iterate (count : Nat) (cursor : Cursor) :
    advanceBy count cursor = advanced^[count] (.ok cursor) := by
  induction count generalizing cursor with
  | zero => rfl
  | succ count ih =>
    rw [Function.iterate_succ_apply, advanceBy]
    dsimp only [advanced, Except.bind]
    split_ifs with he
    · have hstay : cursor.advance = .ok cursor := by
        rw [advance, List.isEmpty_iff.mp he]
      rw [hstay]
      exact (Function.iterate_fixed hstay count).symm
    · cases cursor.advance with
      | error fault => exact (Function.iterate_fixed rfl count).symm
      | ok next => exact ih next

/-- What is known of a cursor that has passed so many characters of a source. -/
structure HasPassed (cursor : Cursor) (source : Text) (count : Nat) : Prop where
  /-- The position is the number of bytes passed. -/
  position_eq : cursor.mark.position = Text.byteLength (source.take count)
  /-- The next character is the one behind those passed. -/
  current?_eq : cursor.current? = source[count]?
  /-- The bytes at the position are those of that character. -/
  decoded?_eq : cursor.decoded? = source[count]?
  /-- The line is counted by the line feeds passed. -/
  line_eq : cursor.mark.line = 1 + Text.breaks (source.take count)
  /-- The column is counted by the characters passed since the last of them. -/
  column_eq : cursor.mark.column = 1 + Text.lastWidth (source.take count)
  /-- A slice from an earlier position is the text in between. -/
  sliceFrom_eq : ∀ earlier ≤ count,
    cursor.sliceFrom (Text.byteLength (source.take earlier)) =
      .ok ((source.take count).drop earlier)

/-- The bytes ahead of a cursor encode the next character. -/
theorem decoded?_behind (source : Text) (count : Nat) :
    (behind source count).decoded? = source[count]? := by
  have hdrop : Text.dropBytes? source (Text.byteLength (source.take count)) =
      some (source.drop count) := by
    have hd := Text.dropBytes?_append (source.take count) (source.drop count)
    rwa [List.take_append_drop] at hd
  rw [decoded?, behind, Mark.origin_afterAll]
  dsimp only
  rw [hdrop, Option.bind_some, ← List.head?_drop]
  cases source.drop count with
  | nil => rfl
  | cons char rest =>
    obtain ⟨byte, bytes, he⟩ :=
      List.exists_cons_of_ne_nil (@String.utf8EncodeChar_ne_nil char)
    have hencode : Text.encode (char :: rest) = byte :: (bytes ++ Text.encode rest) := by
      rw [Text.encode, List.flatMap_cons, he]
      rfl
    have hdecode : ByteArray.utf8DecodeChar?
        (byte :: (bytes ++ Text.encode rest)).toByteArray 0 = some char := by
      rw [← hencode]
      exact List.utf8DecodeChar?_utf8Encode_cons
    rw [hencode]
    dsimp only
    split_ifs with hb
    · rw [Text.ofNat_of_encode he hb]
      rfl
    · exact hdecode

/-- A cursor behind so many characters has passed them. -/
theorem hasPassed_behind (source : Text) (count : Nat) :
    (behind source count).HasPassed source count := by
  refine ⟨?_, List.head?_drop, decoded?_behind source count, ?_, ?_, ?_⟩
  · rw [behind, Mark.origin_afterAll]
  · rw [behind, Mark.origin_afterAll]
  · rw [behind, Mark.origin_afterAll]
  · intro earlier hle
    have hbefore : source.take earlier ++ (source.take count).drop earlier =
        source.take count := by
      have ht := List.take_append_drop earlier (source.take count)
      rwa [List.take_take, Nat.min_eq_left hle] at ht
    have hs := Text.sliceBytes?_append (source.take earlier) ((source.take count).drop earlier)
      (source.drop count)
    rw [← Text.byteLength_append, hbefore, ← List.append_assoc, hbefore,
      List.take_append_drop] at hs
    rw [sliceFrom, behind, Mark.origin_afterAll]
    dsimp only
    rw [hs]

end Cursor

/-- The place where a token starts is the place behind the text in front of it. -/
theorem Scans.exists_before {lexicon : Lexicon} {mark : Mark} {text passed : Text}
    {tokens : List Token} (h : Scans lexicon mark text tokens)
    (hm : mark = Mark.origin.afterAll passed) :
    ∀ token ∈ tokens, ∃ before after, passed ++ text = before ++ after ∧
      Mark.mk token.span.start token.span.line token.span.column =
        Mark.origin.afterAll before := by
  induction h generalizing passed with
  | done => simp
  | @blank mark char rest _ _ _ ih =>
    have hn := @ih (passed ++ [char]) (by rw [hm, Mark.afterAll_append]; rfl)
    rwa [List.append_assoc] at hn
  | @token mark covered rest finished tokens _ _ ih =>
    have hn := @ih (passed ++ covered) (by rw [hm, Mark.afterAll_append])
    rw [List.append_assoc] at hn
    intro token ht
    rcases List.mem_cons.mp ht with rfl | ht
    · exact ⟨passed, covered ++ rest, rfl, hm⟩
    · exact hn token ht

/-- On a source of fewer than `countLimit` characters, so many advances pass so many characters,
or all that there are, and whatever a cursor says there is right. Every token has the line and the
column that the text in front of it leads to. -/
theorem positions_exact (source : Text) (hl : source.length < countLimit) :
    (∀ count, ∃ cursor,
      Cursor.advanced^[count] (.ok (Cursor.start source)) = .ok cursor ∧
      Cursor.advanceBy count (Cursor.start source) = .ok cursor ∧
      cursor.HasPassed source (min count source.length)) ∧
    ∀ lexicon, ∃ tokens, ScansTo lexicon source tokens ∧
      ∀ token ∈ tokens, ∃ before, Text.takeBytes? source token.span.start = some before ∧
        token.span.line = 1 + Text.breaks before ∧
        token.span.column = 1 + Text.lastWidth before := by
  refine ⟨fun count => ?_, fun lexicon => ?_⟩
  · have hi := Cursor.iterate_advance hl count
    refine ⟨Cursor.behind source count, hi, (Cursor.advanceBy_eq_iterate _ _).trans hi, ?_⟩
    rcases Nat.le_total count source.length with hc | hc
    · rw [Nat.min_eq_left hc]
      exact Cursor.hasPassed_behind source count
    · rw [Nat.min_eq_right hc, Cursor.behind_of_length_le hc,
        ← Cursor.behind_of_length_le (Nat.le_refl source.length)]
      exact Cursor.hasPassed_behind source source.length
  · obtain ⟨tokens, hs⟩ := exists_scans lexicon .origin source
    refine ⟨tokens, hs.scansTo hl, fun token ht => ?_⟩
    obtain ⟨before, after, hsource, hm⟩ :=
      hs.exists_before Mark.origin.afterAll_nil.symm token ht
    rw [Mark.origin_afterAll, Mark.mk.injEq] at hm
    obtain ⟨hstart, hline, hcolumn⟩ := hm
    refine ⟨before, ?_, hline, hcolumn⟩
    rw [hstart, ← List.nil_append source, hsource, Text.takeBytes?_append]

/-- A cursor advanced past the end of a source of three lines, and the last token of it, which
stands behind a literal with a line feed in it. -/
theorem positions_exact_lines :
    "é\n\"日\n\" x".toList.length < countLimit ∧
      (∃ cursor,
        Cursor.advanced^[9] (.ok (Cursor.start "é\n\"日\n\" x".toList)) = .ok cursor ∧
        cursor.HasPassed "é\n\"日\n\" x".toList 8) ∧
      ∃ tokens, ScansTo .standard "é\n\"日\n\" x".toList tokens ∧
        ⟨.identifier, "x".toList, ⟨10, 11, 3, 3⟩⟩ ∈ tokens ∧
        ∃ before, Text.takeBytes? "é\n\"日\n\" x".toList 10 = some before ∧
          3 = 1 + Text.breaks before ∧ 3 = 1 + Text.lastWidth before := by
  have hl : "é\n\"日\n\" x".toList.length < countLimit := by decide
  obtain ⟨hcursor, hplaces⟩ := positions_exact _ hl
  obtain ⟨cursor, hc, -, hp⟩ := hcursor 9
  obtain ⟨tokens, hs, hb⟩ := hplaces .standard
  have ht : tokens = [⟨.malformed .unexpectedCharacter, "é".toList, ⟨0, 2, 1, 1⟩⟩,
      ⟨.string, "日\n".toList, ⟨3, 9, 2, 1⟩⟩, ⟨.identifier, "x".toList, ⟨10, 11, 3, 3⟩⟩] :=
    hs.eq_of_tokenize (by decide +kernel)
  have hx : ⟨.identifier, "x".toList, ⟨10, 11, 3, 3⟩⟩ ∈ tokens := by simp [ht]
  exact ⟨hl, ⟨cursor, hc, hp⟩, tokens, hs, hx, hb _ hx⟩

end TableLexer
