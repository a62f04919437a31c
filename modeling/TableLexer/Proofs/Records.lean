import TableLexer.Dump.Basic
import TableLexer.Proofs.JsonReading

/-!
# Token records

A record tells all of a token: the four causes of malformed tokens share one name, and the message
that only their records have tells them apart. Main statement: a JSON dump is the text of one array
with a line break behind it, and the tokens can be read back from it, so that different token lists
have different dumps.
-/

namespace TableLexer

/-- The cause with a message. -/
def Malformation.ofMessage? (message : Text) : Option Malformation :=
  [unexpectedCharacter, unterminatedString, unterminatedComment, unknownOperator].find?
    fun cause => cause.message == message

/-- The kind with a name that is not that of malformed tokens. -/
def TokenKind.ofName? (name : Text) : Option TokenKind :=
  [leftParen, rightParen, leftBrace, rightBrace, leftBracket, rightBracket, semicolon, comma,
    operator, keyword, identifier, number, string, comment].find? fun kind => kind.name == name

/-- The kind with a name, and with a message if it is malformed. -/
def TokenKind.ofRecord? (name : Text) : Option Text → Option TokenKind
  | none => ofName? name
  | some message =>
    if name = "ERROR".toList then (Malformation.ofMessage? message).map malformed else none

/-- The token of a record. -/
def Token.ofRecord? (record : Json) : Option Token := do
  let name ← (← record.member? "kind".toList).text?
  let error ← match record.member? "error".toList with
    | none => some none
    | some error => error.text?.map some
  let kind ← TokenKind.ofRecord? name error
  let lexeme ← (← record.member? "lexeme".toList).text?
  let line ← (← record.member? "line".toList).number?
  let column ← (← record.member? "column".toList).number?
  let start ← (← record.member? "start".toList).number?
  let stop ← (← record.member? "end".toList).number?
  return ⟨kind, lexeme, ⟨start, stop, line, column⟩⟩

/-- The tokens of a JSON dump. -/
def Dump.readTokens? (dump : Text) : Option (List Token) := do
  let .array records ← Json.read? dump | none
  records.mapM Token.ofRecord?

/-- A kind is told by its name, and by the message of its cause if it has one. -/
theorem TokenKind.ofRecord?_name (kind : TokenKind) :
    ofRecord? kind.name (kind.cause?.map Malformation.message) = some kind := by
  cases kind with
  | malformed cause => cases cause <;> rfl
  | _ => rfl

/-- A record tells its token. -/
theorem Token.ofRecord?_record (token : Token) : ofRecord? token.record = some token := by
  have hkind : TokenKind.ofRecord? token.kind.name (token.cause?.map Malformation.message) =
      some token.kind := token.kind.ofRecord?_name
  rw [record]
  generalize token.cause? = cause at hkind ⊢
  cases cause with
  | none =>
    change (TokenKind.ofRecord? token.kind.name (Option.map Malformation.message none)).bind
      (fun kind => some ⟨kind, token.lexeme, token.span⟩) = some token
    rw [hkind, Option.bind_some]
  | some cause =>
    change (TokenKind.ofRecord? token.kind.name (Option.map Malformation.message cause)).bind
      (fun kind => some ⟨kind, token.lexeme, token.span⟩) = some token
    rw [hkind, Option.bind_some]

/-- Only the record of a malformed token has a message. -/
theorem Token.isSome_error_record (token : Token) :
    (token.record.member? "error".toList).isSome = token.isMalformed := by
  have hmalformed : token.isMalformed = token.cause?.isSome := rfl
  rw [hmalformed, record]
  cases token.cause? <;> rfl

/-- Tokens are read back from their records. -/
theorem Token.mapM_ofRecord? (tokens : List Token) :
    (tokens.map Token.record).mapM ofRecord? = some tokens := by
  induction tokens with
  | nil => rfl
  | cons token tokens ih => simp [Token.ofRecord?_record, ih]

namespace Dump

/-- A JSON dump is an array of records and a line break. -/
theorem write_json (tokens : List Token) :
    write .json tokens = (Json.array (tokens.map Token.record)).write ++ Text.newline := by
  rw [write, body, pieces, List.flatten_singleton, ending]

/-- Tokens are read back from their dump. -/
theorem readTokens?_write (tokens : List Token) :
    readTokens? (write .json tokens) = some tokens := by
  have hread := (Json.read?_write (.array (tokens.map Token.record))).2
  rw [readTokens?, write_json, hread]
  exact Token.mapM_ofRecord? tokens

end Dump

/-- A JSON dump loses nothing of any tokens: it is the text of one array and a line break, the array
holds a record for each token, in order, and the tokens can be read back, so that no other tokens
have this dump. A record has a message exactly if its token is malformed. -/
theorem json_dump_lossless (tokens : List Token) :
    (∃ text, Dump.write .json tokens = text ++ Text.newline ∧
      Json.read? text = some (.array (tokens.map Token.record))) ∧
    Dump.readTokens? (Dump.write .json tokens) = some tokens ∧
    (∀ others, Dump.write .json others = Dump.write .json tokens ↔ others = tokens) ∧
    ∀ token : Token, (token.record.member? "error".toList).isSome = token.isMalformed := by
  have hread := Dump.readTokens?_write
  refine ⟨⟨_, Dump.write_json tokens, (Json.read?_write _).1⟩, hread tokens, ?_,
    Token.isSome_error_record⟩
  intro others
  constructor
  · intro hsame
    have hothers := hread others
    rw [hsame, hread tokens] at hothers
    exact (Option.some.inj hothers).symm
  · rintro rfl
    rfl

end TableLexer
