import TableLexer.Text.Basic

/-!
# The byte form of texts

Texts enter and leave the program as UTF-8. Decoding fails on bytes that are the form of no text.
The byte form also orders the keyword listing.
-/

namespace TableLexer

/-- Raw bytes, in order. -/
abbrev Bytes := List UInt8

namespace Text

/-- The UTF-8 form of a text. -/
def encode (text : Text) : Bytes :=
  text.flatMap String.utf8EncodeChar

/-- The text with this UTF-8 form, if there is one. -/
def decode? (bytes : Bytes) : Option Text :=
  (String.fromUTF8? ⟨bytes.toArray⟩).map String.toList

/-- Whether one text comes no later than the other in the order of their bytes. -/
def precedes (first second : Text) : Bool :=
  decide (encode first ≤ encode second)

/-- Joined texts have joined byte forms. -/
theorem encode_append (first second : Text) :
    encode (first ++ second) = encode first ++ encode second := by
  simp [encode]

end Text

end TableLexer
