import TableLexer.Proofs.Places
import Mathlib.Data.List.Basic
import Mathlib.Data.List.TakeWhile

/-!
# The line around a place

A text is taken apart into lines in two ways: at its line feeds alone, and as an excerpt shows it,
where a carriage return directly before a line feed is not shown and an empty last line is none.
The line around a place consists of what stands before the place since the last line feed and of
what stands behind it up to the next one. Main statement: the lines of an excerpt are the pieces
between line feeds without those carriage returns, and the line around a place is the one that the
line feeds in front of the place count.
-/

namespace TableLexer.Text

/-- A line without the carriage return at its end, if there is one. -/
def chomp (line : Text) : Text :=
  if line.getLast? = some '\r' then line.dropLast else line

/-- Pieces between line feeds as they are shown. -/
def shown : List Text → List Text
  | [] => []
  | [last] => if last.isEmpty then [] else [last]
  | piece :: next :: more => chomp piece :: shown (next :: more)

/-- What stands behind the last line feed. -/
def lineBefore (text : Text) : Text :=
  (text.reverse.takeWhile fun char => char != '\n').reverse

/-- What stands in front of the first line feed. -/
def lineAfter (text : Text) : Text :=
  text.takeWhile fun char => char != '\n'

/-- What is shown of the first line of a text. -/
def shownAfter (text : Text) : Text :=
  if '\n' ∈ text then chomp (lineAfter text) else lineAfter text

/-- Only the end of a line is chomped. -/
theorem chomp_append (first : Text) {second : Text} (h : second ≠ []) :
    chomp (first ++ second) = first ++ chomp second := by
  have hlast : (first ++ second).getLast? = second.getLast? := List.getLast?_append_of_ne_nil _ h
  rw [chomp, chomp, hlast]
  split
  · exact List.dropLast_append_of_ne_nil h
  · rfl

/-- A line that is chomped loses its last character, which is a carriage return. -/
theorem eq_chomp_append {line : Text} (h : line.getLast? = some '\r') :
    line = chomp line ++ ['\r'] := by
  rw [chomp, if_pos h, List.dropLast_append_getLast? _ h]

theorem length_lineBefore (text : Text) : (lineBefore text).length = lastWidth text := by
  rw [lineBefore, List.length_reverse, lastWidth]

theorem lineBefore_concat (text : Text) (char : Char) :
    lineBefore (text ++ [char]) = if char = '\n' then [] else lineBefore text ++ [char] := by
  by_cases hc : char = '\n'
  · simp [lineBefore, hc]
  · simp [lineBefore, hc]

theorem lineAfter_cons (char : Char) (rest : Text) :
    lineAfter (char :: rest) = if char = '\n' then [] else char :: lineAfter rest := by
  by_cases hc : char = '\n'
  · simp [lineAfter, hc]
  · simp [lineAfter, hc]

/-- A text without a line feed is all on one line. -/
theorem lineAfter_append_of_not_mem {text : Text} (h : '\n' ∉ text) (rest : Text) :
    lineAfter (text ++ rest) = text ++ lineAfter rest := by
  refine List.takeWhile_append_of_pos fun char hm => ?_
  have hc : char ≠ '\n' := fun he => h (he ▸ hm)
  simpa using hc

/-- What follows a line feed is on another line. -/
theorem lineAfter_append_of_mem {text : Text} (h : '\n' ∈ text) (rest : Text) :
    lineAfter (text ++ rest) = lineAfter text := by
  induction text with
  | nil => cases h
  | cons char more ih =>
    rw [List.cons_append, lineAfter_cons, lineAfter_cons]
    split
    · rfl
    · next hc =>
      have hm : '\n' ∈ more := (List.mem_cons.mp h).resolve_left fun he => hc he.symm
      rw [ih hm]

theorem not_mem_lineAfter (text : Text) : '\n' ∉ lineAfter text := by
  intro hm
  have hn := List.mem_takeWhile_imp hm
  exact absurd hn (by decide)

theorem not_mem_lineBefore (text : Text) : '\n' ∉ lineBefore text := by
  rw [lineBefore, List.mem_reverse]
  intro hm
  have hn := List.mem_takeWhile_imp hm
  exact absurd hn (by decide)

/-- The first piece between line feeds. -/
theorem head?_splitOn (text : Text) : (text.splitOn '\n').head? = some (lineAfter text) := by
  induction text with
  | nil => rfl
  | cons char rest ih =>
    rw [List.splitOn_cons_eq_if_modifyHead, lineAfter_cons]
    by_cases hc : char = '\n'
    · simp [hc]
    · simp [hc, ih]

/-- There is one piece more than there are line feeds. -/
theorem length_splitOn (text : Text) : (text.splitOn '\n').length = breaks text + 1 := by
  induction text with
  | nil => rfl
  | cons char rest ih =>
    rw [List.splitOn_cons_eq_if_modifyHead]
    by_cases hc : char = '\n'
    · simp [hc, ih, breaks]
    · simp [hc, ih, breaks]

/-- The piece around a place is the one that the line feeds in front of it count: a further
character in front of the place belongs to the same piece or, if it is a line feed, to the piece
before. -/
theorem getElem?_splitOn (before rest : Text) :
    ((before ++ rest).splitOn '\n')[breaks before]? =
      some (lineBefore before ++ lineAfter rest) := by
  induction before using List.reverseRecOn generalizing rest with
  | nil =>
    have hhead := head?_splitOn rest
    rwa [List.head?_eq_getElem?] at hhead
  | append_singleton before char ih =>
    rw [List.append_assoc, List.singleton_append, breaks_concat, lineBefore_concat]
    by_cases hc : char = '\n'
    · subst hc
      have hlength := length_splitOn before
      have hhead := head?_splitOn rest
      rw [List.head?_eq_getElem?] at hhead
      rw [if_pos rfl, if_pos rfl, List.splitOn_append_cons_self, ← hlength,
        List.getElem?_append_right (Nat.le_refl _), Nat.sub_self, hhead, List.nil_append]
    · have hrest := ih (char :: rest)
      rw [lineAfter_cons, if_neg hc] at hrest
      rw [if_neg hc, if_neg hc, hrest, List.append_assoc, List.singleton_append]

/-- A piece with another one behind it ends at a line feed. -/
theorem shown_cons (piece : Text) {others : List Text} (h : others ≠ []) :
    shown (piece :: others) = chomp piece :: shown others := by
  cases others with
  | nil => exact absurd rfl h
  | cons next more => rfl

/-- A piece that is not empty is shown at its own index, without the end of its line if that is a
line feed. -/
theorem getElem?_shown {pieces : List Text} {index : Nat} {piece : Text}
    (h : pieces[index]? = some piece) (hp : piece ≠ []) :
    (shown pieces)[index]? =
      some (if index + 1 < pieces.length then chomp piece else piece) := by
  induction pieces generalizing index with
  | nil => simp at h
  | cons first others ih =>
    cases others with
    | nil =>
      cases index with
      | zero =>
        obtain rfl : first = piece := by simpa using h
        simp [shown, hp]
      | succ index => simp at h
    | cons next more =>
      rw [shown]
      cases index with
      | zero =>
        obtain rfl : first = piece := by simpa using h
        simp
      | succ index =>
        rw [List.getElem?_cons_succ] at h ⊢
        have hmore := ih h
        simpa using hmore

/-- A further character in front of the first piece, unless it is a carriage return that would not
be shown any more. -/
theorem shown_cons_cons {char : Char} {first : Text} {others : List Text}
    (h : char = '\r' → others ≠ [] → first ≠ []) :
    shown ((char :: first) :: others) =
      match shown (first :: others) with
      | [] => [[char]]
      | line :: more => (char :: line) :: more := by
  cases others with
  | nil => cases first <;> rfl
  | cons next more =>
    have hchomp : chomp (char :: first) = char :: chomp first := by
      cases first with
      | nil =>
        have hr : char ≠ '\r' := fun he => h he (List.cons_ne_nil _ _) rfl
        simp [chomp, hr]
      | cons second left => exact chomp_append [char] (List.cons_ne_nil second left)
    rw [shown_cons _ (List.cons_ne_nil _ _), shown_cons _ (List.cons_ne_nil _ _), hchomp]

/-- The lines of a text are its pieces between line feeds as they are shown. -/
theorem lines_eq (text : Text) : lines text = shown (text.splitOn '\n') := by
  have hne : ∀ rest : Text, rest.splitOn '\n' ≠ [] := List.splitOn_ne_nil '\n'
  induction text using lines.induct with
  | case1 => rfl
  | case2 rest ih =>
    have hsplit : ('\n' :: rest).splitOn '\n' = [] :: rest.splitOn '\n' :=
      List.splitOn_append_cons_self [] rest
    rw [lines, ih, hsplit, shown_cons _ (hne rest)]
    rfl
  | case3 rest ih =>
    have hsplit : ('\r' :: '\n' :: rest).splitOn '\n' = ['\r'] :: rest.splitOn '\n' :=
      List.splitOn_append_cons_self ['\r'] rest
    rw [lines, ih, hsplit, shown_cons _ (hne rest)]
    rfl
  | case4 char rest hfeed hreturn _ ih | case5 char rest hfeed hreturn _ _ _ ih =>
    obtain ⟨first, others, hs⟩ := List.exists_cons_of_ne_nil (hne rest)
    have hhead := head?_splitOn rest
    have hfirst : char = '\r' → others ≠ [] → first ≠ [] := by
      rintro hr ho rfl
      cases rest with
      | nil => exact ho (List.cons.inj hs).2.symm
      | cons next more =>
        rw [hs, List.head?_cons, lineAfter_cons] at hhead
        split at hhead
        · next hn => exact hreturn more hr (by rw [hn])
        · cases hhead
    have hsplit : (char :: rest).splitOn '\n' = (char :: first) :: others := by
      rw [List.splitOn_cons_eq_if_modifyHead, hs, if_neg (by simpa using hfeed)]
      rfl
    have hlines := lines.eq_4 char rest hfeed hreturn
    rw [ih, hs] at hlines
    have hshown := shown_cons_cons hfirst
    rw [hsplit]
    exact hlines.trans hshown.symm

/-- What an excerpt shows of the line around a place that is not at the end of it. -/
theorem getElem?_lines (before : Text) {rest : Text} (h : lineAfter rest ≠ []) :
    (lines (before ++ rest))[breaks before]? = some (lineBefore before ++ shownAfter rest) := by
  have hpiece := getElem?_splitOn before rest
  have hne : lineBefore before ++ lineAfter rest ≠ [] := List.append_ne_nil_of_right_ne_nil _ h
  have hlast : breaks before + 1 < ((before ++ rest).splitOn '\n').length ↔ '\n' ∈ rest := by
    rw [length_splitOn, breaks, breaks, List.count_append, ← List.count_pos_iff]
    omega
  rw [lines_eq, getElem?_shown hpiece hne, if_congr hlast rfl rfl, chomp_append _ h, shownAfter]
  split <;> rfl

/-- Digits are no line feeds, whatever the base. -/
theorem not_mem_toDigits {base : Nat} (hb : 1 < base) (number : Nat) :
    '\n' ∉ Nat.toDigits base number := by
  induction number using Nat.strongRecOn with
  | ind number ih =>
    have hdigit : ∀ digit : Nat, '\n' ≠ digit.digitChar :=
      fun digit => (Nat.digitChar_ne '\n' (by decide)).symm
    rw [Nat.toDigits_eq_if hb]
    split
    · simp [hdigit]
    · next hlarge =>
      have hfront := ih (number / base) (Nat.div_lt_self (by omega) hb)
      simp [hfront, hdigit]

theorem not_mem_decimal (number : Nat) : '\n' ∉ decimal number :=
  not_mem_toDigits (by decide) number

end TableLexer.Text
