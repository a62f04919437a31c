import TableLexer.Json.Basic
import TableLexer.Text.Digits
import Mathlib.Data.List.Basic

/-!
# Reading JSON

A reader of JSON texts takes one character after the other. Characters make up signs, with white
space between them, and signs make up values inside of the arrays and objects that are still open.
Strings may use every escape, and surrogate pairs; numbers with a sign, a fraction or an exponent
are refused, and so are words, since no `Json` value stands for them. Main statement: reading the
written form of a value yields this value, whatever its strings hold, and white space may follow.
-/

namespace TableLexer.Json

/-- What a text consists of besides white space. -/
inductive Sign where
  /-- An array begins. -/
  | opensArray
  /-- An array ends. -/
  | closesArray
  /-- An object begins. -/
  | opensObject
  /-- An object ends. -/
  | closesObject
  /-- An item or a member ends and another one follows. -/
  | comma
  /-- A key ends and its value follows. -/
  | colon
  /-- A whole number. -/
  | number (value : Nat)
  /-- A whole string. -/
  | text (value : Text)

/-- An array or object that is still open, with what is complete of it. -/
inductive Frame where
  /-- The items of an array. -/
  | items (done : List Json)
  /-- The members of an object, and the key of the next one. -/
  | members (done : List (Text × Json)) (key : Text)

/-- A place between two signs, inside of what is still open, innermost first. -/
inductive Place where
  /-- A value is to come. -/
  | value (frames : List Frame)
  /-- A key is to come. -/
  | key (done : List (Text × Json)) (frames : List Frame)
  /-- A colon is to come. -/
  | colon (done : List (Text × Json)) (key : Text) (frames : List Frame)
  /-- A value is complete. -/
  | behind (value : Json) (frames : List Frame)

namespace Place

/-- The place behind the next sign, unless the sign may not stand here. -/
def pass? : Place → Sign → Option Place
  | value frames, .number count => some (behind (.number count) frames)
  | value frames, .text string => some (behind (.text string) frames)
  | value frames, .opensArray => some (value (.items [] :: frames))
  | value frames, .opensObject => some (key [] frames)
  | value (.items [] :: frames), .closesArray => some (behind (.array []) frames)
  | key [] frames, .closesObject => some (behind (.object []) frames)
  | key done frames, .text name => some (colon done name frames)
  | colon done name frames, .colon => some (value (.members done name :: frames))
  | behind item (.items done :: frames), .comma =>
    some (value (.items (done ++ [item]) :: frames))
  | behind item (.items done :: frames), .closesArray =>
    some (behind (.array (done ++ [item])) frames)
  | behind item (.members done name :: frames), .comma => some (key (done ++ [(name, item)]) frames)
  | behind item (.members done name :: frames), .closesObject =>
    some (behind (.object (done ++ [(name, item)])) frames)
  | _, _ => none

/-- The value that is complete, if nothing is open. -/
def complete? : Place → Option Json
  | behind done [] => some done
  | _ => none

end Place

/-- What was read of the next sign. -/
inductive Reading where
  /-- Nothing. -/
  | between
  /-- Digits of a number. -/
  | digits (read : Text)
  /-- The beginning of a string. -/
  | body (read : Text)
  /-- A backslash behind the beginning of a string. -/
  | escape (read : Text)
  /-- Digits of a UTF-16 unit, behind the first half of a pair if there was one. -/
  | unit (read : Text) (first : Option Nat) (digits : Text)
  /-- The first half of a pair, whose second half has to follow. -/
  | half (read : Text) (first : Nat)
  /-- A backslash behind it. -/
  | halfEscape (read : Text) (first : Nat)

namespace Reading

/-- The number of these digits, which start with a zero only if that is all. -/
def numeral? (digits : Text) : Option Nat :=
  if digits.head? = some '0' ∧ digits ≠ ['0'] then none
  else some (Nat.ofDigitChars 10 digits 0)

/-- What a character begins, or is by itself. -/
def start? (char : Char) : Option (List Sign × Reading) :=
  if char.isDigit then some ([], digits [char])
  else
    match char with
    | ' ' | '\t' | '\n' | '\r' => some ([], between)
    | '"' => some ([], body [])
    | '[' => some ([.opensArray], between)
    | ']' => some ([.closesArray], between)
    | '\x7b' => some ([.opensObject], between)
    | '\x7d' => some ([.closesObject], between)
    | ',' => some ([.comma], between)
    | ':' => some ([.colon], between)
    | _ => none

/-- What follows a backslash in a string. -/
def escape? (read : Text) (char : Char) : Option Reading :=
  match char with
  | '"' | '\\' | '/' => some (body (read ++ [char]))
  | 'b' => some (body (read ++ ['\x08']))
  | 'f' => some (body (read ++ ['\x0c']))
  | 'n' => some (body (read ++ ['\n']))
  | 'r' => some (body (read ++ ['\r']))
  | 't' => some (body (read ++ ['\t']))
  | 'u' => some (unit read none [])
  | _ => none

/-- A UTF-16 unit is complete: it is a character, or half of one. -/
def unit? (read : Text) (first : Option Nat) (value : Nat) : Option Reading :=
  match first with
  | none =>
    if value < 0xD800 ∨ 0xE000 ≤ value then some (body (read ++ [Char.ofNat value]))
    else if value < 0xDC00 then some (half read value)
    else none
  | some first =>
    if 0xDC00 ≤ value ∧ value < 0xE000 then
      some (body (read ++ [Char.ofNat (0x10000 + (first - 0xD800) * 0x400 + (value - 0xDC00))]))
    else none

/-- The signs that a character completes, and what is read then. -/
def step? : Reading → Char → Option (List Sign × Reading)
  | between, char => start? char
  | digits read, char =>
    if char.isDigit then some ([], digits (read ++ [char]))
    else do
      let value ← numeral? read
      let (signs, next) ← start? char
      return (.number value :: signs, next)
  | body read, char =>
    if char = '"' then some ([.text read], between)
    else if char = '\\' then some ([], escape read)
    else if char.toNat < 0x20 then none
    else some ([], body (read ++ [char]))
  | escape read, char => (escape? read char).map fun next => ([], next)
  | unit read first taken, char =>
    if ¬ Text.isHexDigit char then none
    else if taken.length < 3 then some ([], unit read first (taken ++ [char]))
    else
      (unit? read first (Text.digitsValue 16 (taken ++ [char]))).map fun next => ([], next)
  | half read first, char => if char = '\\' then some ([], halfEscape read first) else none
  | halfEscape read first, char => if char = 'u' then some ([], unit read (some first) []) else none

/-- The signs that the end of the text completes. -/
def finish? : Reading → Option (List Sign)
  | between => some []
  | digits read => (numeral? read).map fun value => [.number value]
  | _ => none

end Reading

/-- The value of a text that goes on at a place with something of a sign already read. -/
def resume? (reading : Reading) (place : Place) : Text → Option Json
  | [] => do
    let signs ← reading.finish?
    let place ← signs.foldlM Place.pass? place
    place.complete?
  | char :: rest => do
    let (signs, reading) ← reading.step? char
    let place ← signs.foldlM Place.pass? place
    resume? reading place rest

/-- The value of a text, if it is the text of one value. -/
def read? (text : Text) : Option Json :=
  resume? .between (.value []) text

/-- The member of an object with a key, if there is one. -/
def member? (key : Text) : Json → Option Json
  | object members => members.lookup key
  | _ => none

/-- A number. -/
def number? : Json → Option Nat
  | number value => some value
  | _ => none

/-- A string. -/
def text? : Json → Option Text
  | text value => some value
  | _ => none

/-- A surrogate pair is one character. -/
example : (read? " \"\\ud83d\\ude00\\/\"".toList).bind text? = some "😀/".toList := by
  decide +kernel

/-- A number may end here, since no further digit follows. -/
def EndsNumber (rest : Text) : Prop := ∀ char ∈ rest.head?, char.isDigit = false

variable {place : Place} {rest : Text}

/-- A sign of one character is passed where it may stand. -/
theorem resume?_sign {char : Char} {sign : Sign}
    (h : Reading.start? char = some ([sign], .between)) :
    resume? .between place (char :: rest) =
      (place.pass? sign).bind fun next => resume? .between next rest := by
  have hstep : Reading.between.step? char = some ([sign], .between) := h
  rw [resume?, hstep]
  cases hp : place.pass? sign <;> simp [List.foldlM, hp]

/-- White space is skipped. -/
theorem resume?_blank {char : Char} (h : Reading.start? char = some ([], .between)) :
    resume? .between place (char :: rest) = resume? .between place rest := by
  have hstep : Reading.between.step? char = some ([], .between) := h
  rw [resume?, hstep]
  rfl

/-- So are line breaks with their indentation. -/
theorem resume?_newlineAt (level : Nat) :
    resume? .between place (newlineAt level ++ rest) = resume? .between place rest := by
  have hblanks : ∀ count, resume? .between place (List.replicate count ' ' ++ rest) =
      resume? .between place rest := by
    intro count
    induction count with
    | zero => rfl
    | succ count ih => rw [List.replicate_succ, List.cons_append, resume?_blank rfl, ih]
  rw [newlineAt, List.cons_append, resume?_blank rfl, hblanks]

/-- What a character adds to what is read, if it completes no sign. -/
theorem resume?_silent {reading next : Reading} {char : Char}
    (h : reading.step? char = some ([], next)) :
    resume? reading place (char :: rest) = resume? next place rest := by
  rw [resume?, h]
  rfl

/-- Digits of a number are read up to the last one. -/
theorem resume?_digits (read : Text) {more : Text} (h : ∀ char ∈ more, char.isDigit = true) :
    resume? (.digits read) place (more ++ rest) = resume? (.digits (read ++ more)) place rest := by
  induction more generalizing read with
  | nil => rw [List.nil_append, List.append_nil]
  | cons char more ih =>
    have hdigit : char.isDigit = true := h char List.mem_cons_self
    have hstep : (Reading.digits read).step? char = some ([], .digits (read ++ [char])) :=
      if_pos hdigit
    have hmore := ih (read ++ [char]) fun other hm => h other (List.mem_cons_of_mem _ hm)
    rw [List.cons_append, resume?_silent hstep, hmore, List.append_assoc, List.singleton_append]

/-- A number is complete where no further digit follows. -/
theorem resume?_behind_digits {read : Text} (h : EndsNumber rest) :
    resume? (.digits read) place rest =
      (Reading.numeral? read).bind fun value =>
        (place.pass? (.number value)).bind fun next => resume? .between next rest := by
  cases rest with
  | nil =>
    rw [resume?, Reading.finish?]
    cases Reading.numeral? read with
    | none => rfl
    | some value =>
      cases hp : place.pass? (.number value) with
      | none => simp [List.foldlM, hp]
      | some next => simp [List.foldlM, hp, resume?, Reading.finish?]
  | cons char rest =>
    have hdigit : ¬ char.isDigit = true := by simpa using h char rfl
    rw [resume?, Reading.step?, if_neg hdigit]
    cases Reading.numeral? read with
    | none => rfl
    | some value =>
      cases hp : place.pass? (.number value) with
      | none => cases Reading.start? char <;> simp [List.foldlM, hp]
      | some next =>
        cases hs : Reading.start? char <;> simp [List.foldlM, hp, hs, resume?, Reading.step?]

/-- The digits of a number start with a zero only if the number is zero. -/
theorem eq_zero_of_head?_decimal {number : Nat} (h : (Text.decimal number).head? = some '0') :
    number = 0 := by
  induction number using Nat.strongRecOn with
  | ind number ih =>
    rw [Text.decimal, Nat.toDigits_eq_if (by decide)] at h
    split at h
    · exact Nat.digitChar_eq_zero.mp (Option.some.inj h)
    · next hlarge =>
      have hne : Nat.toDigits 10 (number / 10) ≠ [] := Nat.toDigits_ne_nil
      rw [List.head?_append_of_ne_nil _ hne] at h
      have hfront := ih (number / 10) (by omega) h
      omega

/-- The digits of a number are those of this number. -/
theorem numeral?_decimal (number : Nat) :
    Reading.numeral? (Text.decimal number) = some number := by
  have hzero : ¬ ((Text.decimal number).head? = some '0' ∧ Text.decimal number ≠ ['0']) := by
    rintro ⟨hhead, hmore⟩
    obtain rfl := eq_zero_of_head?_decimal hhead
    exact hmore rfl
  rw [Reading.numeral?, if_neg hzero, Text.decimal, Nat.ofDigitChars_ten_toDigits]

/-- A number is read back. -/
theorem resume?_decimal (number : Nat) (h : EndsNumber rest) :
    resume? .between place (Text.decimal number ++ rest) =
      (place.pass? (.number number)).bind fun next => resume? .between next rest := by
  have hnumeral := numeral?_decimal number
  have hdigits : ∀ char ∈ Text.decimal number, char.isDigit = true :=
    fun char hm => Nat.isDigit_of_mem_toDigits (by decide) (by decide) hm
  obtain ⟨first, more, hd⟩ := List.exists_cons_of_ne_nil
    (show Text.decimal number ≠ [] from Nat.toDigits_ne_nil)
  rw [hd] at hnumeral hdigits ⊢
  have hstart : Reading.between.step? first = some ([], .digits [first]) :=
    if_pos (hdigits first List.mem_cons_self)
  have hmore : ∀ char ∈ more, char.isDigit = true :=
    fun char hm => hdigits char (List.mem_cons_of_mem _ hm)
  rw [List.cons_append, resume?_silent hstart, resume?_digits [first] hmore,
    resume?_behind_digits h, List.singleton_append, hnumeral, Option.bind_some]

/-- Control characters are written by two hexadecimal digits behind two zeros. -/
theorem leftpad_toDigits (value : Fin 32) :
    (Nat.toDigits 16 value).leftpad 2 '0' =
        [(value.val / 16).digitChar, (value.val % 16).digitChar] ∧
      Text.isHexDigit (value.val / 16).digitChar = true ∧
      Text.isHexDigit (value.val % 16).digitChar = true ∧
      Text.digitsValue 16 ['0', '0', (value.val / 16).digitChar, (value.val % 16).digitChar] =
        value := by
  revert value
  decide

/-- An escape of four digits is read, if its number is that of a character by itself. -/
theorem resume?_unit {first second third fourth : Char} (read : Text)
    (h : ∀ digit ∈ [first, second, third, fourth], Text.isHexDigit digit = true)
    (hv : Text.digitsValue 16 [first, second, third, fourth] < 0xD800) :
    resume? (.body read) place ('\\' :: 'u' :: first :: second :: third :: fourth :: rest) =
      resume? (.body (read ++ [Char.ofNat (Text.digitsValue 16 [first, second, third, fourth])]))
        place rest := by
  obtain ⟨hfirst, hsecond, hthird, hfourth⟩ : Text.isHexDigit first = true ∧
      Text.isHexDigit second = true ∧ Text.isHexDigit third = true ∧
      Text.isHexDigit fourth = true := by simpa using h
  have hone : (Reading.unit read none []).step? first = some ([], .unit read none [first]) := by
    simp [Reading.step?, hfirst]
  have htwo : (Reading.unit read none [first]).step? second =
      some ([], .unit read none [first, second]) := by
    simp [Reading.step?, hsecond]
  have hthree : (Reading.unit read none [first, second]).step? third =
      some ([], .unit read none [first, second, third]) := by
    simp [Reading.step?, hthird]
  have hfour : (Reading.unit read none [first, second, third]).step? fourth =
      some ([], .body (read ++
        [Char.ofNat (Text.digitsValue 16 [first, second, third, fourth])])) := by
    simp [Reading.step?, hfourth, Reading.unit?, hv]
  have hescape : (Reading.body read).step? '\\' = some ([], .escape read) := rfl
  have hu : (Reading.escape read).step? 'u' = some ([], .unit read none []) := rfl
  rw [resume?_silent hescape, resume?_silent hu, resume?_silent hone, resume?_silent htwo,
    resume?_silent hthree, resume?_silent hfour]

/-- A character of a string is read back, escaped or not. -/
theorem resume?_escapeChar (char : Char) (read : Text) :
    resume? (.body read) place (escapeChar char ++ rest) =
      resume? (.body (read ++ [char])) place rest := by
  unfold escapeChar
  split
  case h_8 hquote hslash _ _ _ _ _ =>
    split
    · next hcontrol =>
      obtain ⟨hdigits, hhigh, hlow, hvalue⟩ := leftpad_toDigits ⟨char.toNat, hcontrol⟩
      have hall : ∀ digit ∈ ['0', '0', (char.toNat / 16).digitChar,
          (char.toNat % 16).digitChar], Text.isHexDigit digit = true := by
        have hzero : Text.isHexDigit '0' = true := rfl
        simp [hzero, hhigh, hlow]
      have hvalue : Text.digitsValue 16 ['0', '0', (char.toNat / 16).digitChar,
          (char.toNat % 16).digitChar] = char.toNat := hvalue
      have hsmall : Text.digitsValue 16 ['0', '0', (char.toNat / 16).digitChar,
          (char.toNat % 16).digitChar] < 0xD800 := by omega
      rw [hdigits]
      change resume? _ _ ('\\' :: 'u' :: '0' :: '0' :: _ :: _ :: rest) = _
      rw [resume?_unit read hall hsmall, hvalue, Char.ofNat_toNat]
    · next hshown =>
      have hstep : (Reading.body read).step? char = some ([], .body (read ++ [char])) := by
        rw [Reading.step?, if_neg hquote, if_neg hslash, if_neg hshown]
      exact resume?_silent hstep
  all_goals rfl

/-- The rest of a string is read up to its closing quote. -/
theorem resume?_body (string read : Text) :
    resume? (.body read) place (string.flatMap escapeChar ++ '"' :: rest) =
      (place.pass? (.text (read ++ string))).bind fun next => resume? .between next rest := by
  induction string generalizing read with
  | nil =>
    have hstep : (Reading.body read).step? '"' = some ([.text read], .between) := rfl
    rw [List.flatMap_nil, List.nil_append, List.append_nil, resume?, hstep]
    cases hp : place.pass? (.text read) <;> simp [List.foldlM, hp]
  | cons char string ih =>
    rw [List.flatMap_cons, List.append_assoc, resume?_escapeChar, ih, List.append_assoc,
      List.singleton_append]

/-- A string is read back, whatever it holds. -/
theorem resume?_quoted (string : Text) :
    resume? .between place (quoted string ++ rest) =
      (place.pass? (.text string)).bind fun next => resume? .between next rest := by
  have hopen : Reading.between.step? '"' = some ([], .body []) := rfl
  rw [quoted, List.append_assoc, List.append_assoc, List.singleton_append, List.singleton_append,
    resume?_silent hopen, resume?_body, List.nil_append]

/-- A key is read back, and the colon behind it. -/
theorem resume?_key (done : List (Text × Json)) (name : Text) (frames : List Frame) :
    resume? .between (.key done frames) (quoted name ++ (": ".toList ++ rest)) =
      resume? .between (.value (.members done name :: frames)) rest := by
  have hname : (Place.key done frames).pass? (.text name) = some (.colon done name frames) := by
    cases done <;> rfl
  have hcolon : Reading.start? ':' = some ([.colon], .between) := rfl
  have hspace : Reading.start? ' ' = some ([], .between) := rfl
  have hchars : ": ".toList ++ rest = ':' :: ' ' :: rest := rfl
  rw [resume?_quoted, hname, Option.bind_some, hchars, resume?_sign hcolon]
  exact resume?_blank hspace

theorem endsNumber_newlineAt (level : Nat) : EndsNumber (newlineAt level ++ rest) := by
  rintro _ ⟨⟩
  rfl

/-- Behind an item there is a comma or a line break. -/
theorem endsNumber_items (items : List Json) (level outer : Nat) (rest : Text) :
    EndsNumber (prettyItems level items ++ (newlineAt outer ++ rest)) := by
  cases items with
  | nil => exact endsNumber_newlineAt outer
  | cons item more =>
    rw [prettyItems]
    rintro _ ⟨⟩
    rfl

/-- So there is behind a member. -/
theorem endsNumber_members (members : List (Text × Json)) (level outer : Nat) (rest : Text) :
    EndsNumber (prettyMembers level members ++ (newlineAt outer ++ rest)) := by
  cases members with
  | nil => exact endsNumber_newlineAt outer
  | cons member more =>
    rw [prettyMembers]
    rintro _ ⟨⟩
    rfl

mutual

/-- A value is read back at every level and inside of anything, unless a digit follows. -/
theorem resume?_pretty (value : Json) (level : Nat) (frames : List Frame) {rest : Text}
    (h : EndsNumber rest) :
    resume? .between (.value frames) (pretty level value ++ rest) =
      resume? .between (.behind value frames) rest := by
  have hitems : Reading.start? '[' = some ([.opensArray], .between) := rfl
  have hmembers : Reading.start? '\x7b' = some ([.opensObject], .between) := rfl
  match value with
  | .number count =>
    rw [pretty, resume?_decimal count h]
    rfl
  | .text string =>
    rw [pretty, resume?_quoted]
    rfl
  | .array [] =>
    have hclose : Reading.start? ']' = some ([.closesArray], .between) := rfl
    have hchars : "[]".toList ++ rest = '[' :: ']' :: rest := rfl
    rw [pretty, hchars, resume?_sign hitems]
    exact resume?_sign hclose
  | .array (first :: more) =>
    have hfirst := resume?_pretty first (level + 1) (.items [] :: frames)
      (endsNumber_items more (level + 1) level (']' :: rest))
    have hmore := resume?_prettyItems more (level + 1) level [] first frames rest
    rw [pretty]
    simp only [List.append_assoc, List.cons_append, List.nil_append]
    rw [resume?_sign hitems]
    change resume? .between (.value (.items [] :: frames)) _ = _
    rw [resume?_newlineAt, hfirst, hmore, List.nil_append]
  | .object [] =>
    have hclose : Reading.start? '\x7d' = some ([.closesObject], .between) := rfl
    have hchars : "\x7b\x7d".toList ++ rest = '\x7b' :: '\x7d' :: rest := rfl
    rw [pretty, hchars, resume?_sign hmembers]
    exact resume?_sign hclose
  | .object ((name, first) :: more) =>
    have hfirst := resume?_pretty first (level + 1) (.members [] name :: frames)
      (endsNumber_members more (level + 1) level ('\x7d' :: rest))
    have hmore := resume?_prettyMembers more (level + 1) level [] name first frames rest
    rw [pretty]
    simp only [List.append_assoc, List.cons_append, List.nil_append]
    rw [resume?_sign hmembers]
    change resume? .between (.key [] frames) _ = _
    rw [resume?_newlineAt, resume?_key, hfirst, hmore, List.nil_append]

/-- The items behind the first one are read back, up to the end of their array. -/
theorem resume?_prettyItems (items : List Json) (level outer : Nat) (done : List Json)
    (last : Json) (frames : List Frame) (rest : Text) :
    resume? .between (.behind last (.items done :: frames))
        (prettyItems level items ++ (newlineAt outer ++ ']' :: rest)) =
      resume? .between (.behind (.array (done ++ last :: items)) frames) rest := by
  match items with
  | [] =>
    have hclose : Reading.start? ']' = some ([.closesArray], .between) := rfl
    rw [prettyItems, List.nil_append, resume?_newlineAt, resume?_sign hclose]
    rfl
  | item :: more =>
    have hcomma : Reading.start? ',' = some ([.comma], .between) := rfl
    have hitem := resume?_pretty item level (.items (done ++ [last]) :: frames)
      (endsNumber_items more level outer (']' :: rest))
    have hmore := resume?_prettyItems more level outer (done ++ [last]) item frames rest
    rw [prettyItems]
    simp only [List.append_assoc, List.cons_append, List.nil_append]
    rw [resume?_sign hcomma]
    change resume? .between (.value (.items (done ++ [last]) :: frames)) _ = _
    rw [resume?_newlineAt, hitem, hmore, List.append_assoc, List.singleton_append]

/-- The members behind the first one are read back, up to the end of their object. -/
theorem resume?_prettyMembers (members : List (Text × Json)) (level outer : Nat)
    (done : List (Text × Json)) (name : Text) (last : Json) (frames : List Frame) (rest : Text) :
    resume? .between (.behind last (.members done name :: frames))
        (prettyMembers level members ++ (newlineAt outer ++ '\x7d' :: rest)) =
      resume? .between (.behind (.object (done ++ (name, last) :: members)) frames) rest := by
  match members with
  | [] =>
    have hclose : Reading.start? '\x7d' = some ([.closesObject], .between) := rfl
    rw [prettyMembers, List.nil_append, resume?_newlineAt, resume?_sign hclose]
    rfl
  | (key, item) :: more =>
    have hcomma : Reading.start? ',' = some ([.comma], .between) := rfl
    have hitem := resume?_pretty item level (.members (done ++ [(name, last)]) key :: frames)
      (endsNumber_members more level outer ('\x7d' :: rest))
    have hmore :=
      resume?_prettyMembers more level outer (done ++ [(name, last)]) key item frames rest
    rw [prettyMembers]
    simp only [List.append_assoc, List.cons_append, List.nil_append]
    rw [resume?_sign hcomma]
    change resume? .between (.key (done ++ [(name, last)]) frames) _ = _
    rw [resume?_newlineAt, resume?_key, hitem, hmore, List.append_assoc, List.singleton_append]

end

/-- The written form of a value is the text of this value, also with a line break behind it. -/
theorem read?_write (value : Json) :
    read? value.write = some value ∧ read? (value.write ++ Text.newline) = some value := by
  have hnone : EndsNumber [] := by
    rintro _ ⟨⟩
  have hfeed : EndsNumber Text.newline := by
    rintro _ ⟨⟩
    rfl
  have hwhole := resume?_pretty value 0 [] hnone
  have hbefore := resume?_pretty value 0 [] hfeed
  rw [List.append_nil] at hwhole
  exact ⟨hwhole, hbefore⟩

end TableLexer.Json
