import TableLexer.Scan.Cursor
import TableLexer.Token.Basic
import Mathlib.Data.List.Induction

/-!
# Places in a source

The place behind a text is found by passing its characters one by one. Its counts have a closed
form: bytes, line feeds, and characters behind the last line feed. A text is admitted if passing it
never fails, which is so for every source of fewer than `countLimit` characters, and a place behind
two texts is the place behind the second, moved by the first.
-/

namespace TableLexer

namespace Text

/-- A text with a first character has a byte at least, and what that character leaves of its
bytes are the bytes of the others. -/
theorem exists_byteLength_cons (char : Char) (rest : Text) :
    ∃ count, byteLength (char :: rest) = count + 1 ∧ char.utf8Size ≤ count + 1 ∧
      count + 1 - char.utf8Size = byteLength rest := by
  have hp := char.utf8Size_pos
  refine ⟨char.utf8Size + byteLength rest - 1, ?_, ?_, ?_⟩
  · rw [byteLength_cons]
    omega
  · omega
  · omega

/-- A cut at the end of a first part leaves the second part. -/
theorem dropBytes?_append (before after : Text) :
    dropBytes? (before ++ after) (byteLength before) = some after := by
  induction before with
  | nil => cases after <;> rfl
  | cons char rest ih =>
    obtain ⟨count, hc, hs, hr⟩ := exists_byteLength_cons char rest
    rw [hc, List.cons_append, dropBytes?, if_pos hs, hr, ih]

/-- The first part is taken whole. -/
theorem takeBytes?_append (covered after : Text) :
    takeBytes? (covered ++ after) (byteLength covered) = some covered := by
  induction covered with
  | nil => cases after <;> rfl
  | cons char rest ih =>
    obtain ⟨count, hc, hs, hr⟩ := exists_byteLength_cons char rest
    rw [hc, List.cons_append, takeBytes?, if_pos hs, hr, ih, Option.map_some]

/-- A part in the middle is the slice between its two ends. -/
theorem sliceBytes?_append (before covered after : Text) :
    sliceBytes? (before ++ (covered ++ after)) (byteLength before)
      (byteLength before + byteLength covered) = some covered := by
  rw [sliceBytes?, if_pos (Nat.le_add_right _ _), dropBytes?_append, Option.bind_some,
    Nat.add_sub_cancel_left, takeBytes?_append]

/-- A text that is not empty has bytes. -/
theorem byteLength_pos {text : Text} (h : text ≠ []) : 0 < byteLength text := by
  cases text with
  | nil => exact absurd rfl h
  | cons char rest =>
    have hp := char.utf8Size_pos
    rw [byteLength_cons]
    omega

/-- Number of line feeds. -/
def breaks (text : Text) : Nat := text.count '\n'

/-- Number of characters behind the last line feed. -/
def lastWidth (text : Text) : Nat := (text.reverse.takeWhile fun char => char != '\n').length

/-- A further character lengthens the last line, unless it starts a new one. -/
theorem lastWidth_concat (text : Text) (char : Char) :
    lastWidth (text ++ [char]) = if char = '\n' then 0 else lastWidth text + 1 := by
  by_cases hc : char = '\n'
  · simp [lastWidth, hc]
  · simp [lastWidth, hc]

/-- A text without line feeds is its own last line. -/
theorem lastWidth_of_not_mem {text : Text} (h : '\n' ∉ text) : lastWidth text = text.length := by
  induction text using List.reverseRecOn with
  | nil => rfl
  | append_singleton text char ih =>
    obtain ⟨hfront, hchar⟩ : '\n' ∉ text ∧ char ≠ '\n' := by
      simpa [eq_comm] using h
    rw [lastWidth_concat, if_neg hchar, ih hfront, List.length_append, List.length_singleton]

/-- A further character is a line feed or none. -/
theorem breaks_concat (text : Text) (char : Char) :
    breaks (text ++ [char]) = if char = '\n' then breaks text + 1 else breaks text := by
  by_cases hc : char = '\n'
  · simp [breaks, hc]
  · simp [breaks, hc]

end Text

namespace Mark

/-- The place behind a text. -/
def afterAll (mark : Mark) (text : Text) : Mark := text.foldl after mark

@[simp] theorem afterAll_nil (mark : Mark) : mark.afterAll [] = mark := rfl

@[simp] theorem afterAll_cons (mark : Mark) (char : Char) (rest : Text) :
    mark.afterAll (char :: rest) = (mark.after char).afterAll rest := rfl

@[simp] theorem afterAll_append (mark : Mark) (first second : Text) :
    mark.afterAll (first ++ second) = (mark.afterAll first).afterAll second :=
  List.foldl_append

@[simp] theorem after_position (mark : Mark) (char : Char) :
    (mark.after char).position = mark.position + char.utf8Size := by
  unfold after
  split <;> rfl

@[simp] theorem afterAll_position (mark : Mark) (text : Text) :
    (mark.afterAll text).position = mark.position + Text.byteLength text := by
  induction text generalizing mark with
  | nil => rfl
  | cons char rest ih => simp [ih, Nat.add_assoc]

/-- Every line feed starts a line, and nothing else does. -/
theorem afterAll_line (mark : Mark) (text : Text) :
    (mark.afterAll text).line = mark.line + Text.breaks text := by
  induction text generalizing mark with
  | nil => rfl
  | cons char rest ih =>
    have hbreaks : Text.breaks (char :: rest) =
        Text.breaks rest + if char = '\n' then 1 else 0 := by
      rw [Text.breaks, List.count_cons, Text.breaks]
      simp only [beq_iff_eq]
    rw [afterAll_cons, ih, hbreaks, after]
    split <;> simp only <;> omega

/-- Lines are counted upwards. -/
theorem line_le_afterAll (mark : Mark) (text : Text) : mark.line ≤ (mark.afterAll text).line := by
  rw [afterAll_line]
  exact Nat.le_add_right _ _

/-- The counts of the place behind a source text. -/
theorem origin_afterAll (text : Text) : origin.afterAll text =
    ⟨Text.byteLength text, 1 + Text.breaks text, 1 + Text.lastWidth text⟩ := by
  induction text using List.reverseRecOn with
  | nil => rfl
  | append_singleton text char ih =>
    rw [afterAll_append, ih, Text.breaks_concat, Text.lastWidth_concat, Text.byteLength_append]
    by_cases hc : char = '\n'
    · simp [after, hc, Nat.add_assoc]
    · simp [after, hc, Nat.add_assoc]

/-- There is room to pass so many characters. -/
structure HasRoom (mark : Mark) (count : Nat) : Prop where
  /-- A character has four bytes at most. -/
  position : mark.position + 4 * count ≤ offsetLimit
  /-- A character may be a line feed. -/
  line : mark.line + count ≤ countLimit
  /-- A character may be none. -/
  column : mark.column + count ≤ countLimit

/-- A source of fewer than `countLimit` characters has room for all of them. -/
theorem hasRoom_origin {count : Nat} (h : count < countLimit) : origin.HasRoom count := by
  have hl : countLimit = 2 ^ 32 - 1 := rfl
  have ho : offsetLimit = 2 ^ 64 - 1 := rfl
  constructor <;> simp only [origin] <;> omega

/-- Passing a character leaves room for the others. -/
theorem HasRoom.after {mark : Mark} {count : Nat} (h : mark.HasRoom (count + 1)) (char : Char) :
    (mark.after char).HasRoom count := by
  have hs := char.utf8Size_le_four
  obtain ⟨hp, hl, hc⟩ := h
  by_cases hn : char = '\n'
  · constructor <;> simp only [Mark.after, if_pos hn] <;> omega
  · constructor <;> simp only [Mark.after, if_neg hn] <;> omega

/-- Where there is room, every count is within its limits. -/
theorem HasRoom.fits {mark : Mark} {count : Nat} (h : mark.HasRoom count) : mark.fits = true := by
  obtain ⟨hp, hl, hc⟩ := h
  simp only [Mark.fits, Bool.and_eq_true, decide_eq_true_eq]
  omega

/-- Every count stays within its limits while a text is passed. -/
def Admits : Mark → Text → Prop
  | _, [] => True
  | mark, char :: rest => (mark.after char).fits = true ∧ Admits (mark.after char) rest

/-- Two texts in a row are admitted if the first one is, and the second one behind it. -/
theorem admits_append {mark : Mark} {first second : Text} :
    mark.Admits (first ++ second) ↔ mark.Admits first ∧ (mark.afterAll first).Admits second := by
  induction first generalizing mark with
  | nil => exact (and_iff_right trivial).symm
  | cons char rest ih =>
    rw [List.cons_append, Admits, Admits, ih, afterAll_cons, and_assoc]

/-- Where a text is admitted, passing its first character succeeds. -/
theorem Admits.pass {mark : Mark} {char : Char} {rest : Text} (h : mark.Admits (char :: rest)) :
    mark.pass char = .ok (mark.after char) :=
  if_pos h.1

/-- Where there is room for so many characters, every text of so many is admitted. -/
theorem HasRoom.admits {mark : Mark} {text : Text} (h : mark.HasRoom text.length) :
    mark.Admits text := by
  induction text generalizing mark with
  | nil => trivial
  | cons char rest ih => exact ⟨(h.after char).fits, ih (h.after char)⟩

/-- Passing an admitted text keeps the counts within their limits. -/
theorem Admits.fits_afterAll {mark : Mark} {text : Text} (h : mark.Admits text)
    (hm : mark.fits = true) : (mark.afterAll text).fits = true := by
  induction text generalizing mark with
  | nil => exact hm
  | cons char rest ih => exact ih h.2 h.1

/-- A source without line feeds is admitted exactly if it has fewer than `countLimit` characters. -/
theorem origin_admits_iff {text : Text} (h : '\n' ∉ text) :
    origin.Admits text ↔ text.length < countLimit := by
  refine ⟨fun ha => ?_, fun hl => (hasRoom_origin hl).admits⟩
  have hfits := ha.fits_afterAll (by decide)
  rw [origin_afterAll, Text.lastWidth_of_not_mem h, fits] at hfits
  have hcolumn := (Bool.and_eq_true_iff.mp hfits).2
  have hle : 1 + text.length ≤ countLimit := of_decide_eq_true hcolumn
  omega

/-- A place moved behind a text: its line goes on where the text ends, so that columns of its
first line are those behind the text. -/
def moved (passed : Text) (mark : Mark) : Mark :=
  ⟨mark.position + Text.byteLength passed, mark.line + Text.breaks passed,
    if mark.line = 1 then mark.column + Text.lastWidth passed else mark.column⟩

theorem moved_origin (passed : Text) : origin.moved passed = origin.afterAll passed := by
  rw [origin_afterAll]
  simp [moved, origin]

/-- A moved place moves on with the characters behind it. -/
theorem moved_after (passed : Text) {mark : Mark} (hl : 1 ≤ mark.line) (char : Char) :
    (mark.moved passed).after char = (mark.after char).moved passed := by
  by_cases hc : char = '\n'
  · have hn : mark.line + 1 ≠ 1 := by omega
    simp only [moved, after, if_pos hc, if_neg hn, Mark.mk.injEq, and_true]
    omega
  · simp only [moved, after, if_neg hc, Mark.mk.injEq]
    refine ⟨by omega, trivial, ?_⟩
    split <;> omega

theorem moved_afterAll (passed : Text) {mark : Mark} (hl : 1 ≤ mark.line) (text : Text) :
    (mark.moved passed).afterAll text = (mark.afterAll text).moved passed := by
  induction text generalizing mark with
  | nil => rfl
  | cons char rest ih =>
    have hn : 1 ≤ (mark.after char).line := Nat.le_trans hl (mark.line_le_afterAll [char])
    rw [afterAll_cons, afterAll_cons, moved_after passed hl, ih hn]

end Mark

end TableLexer
