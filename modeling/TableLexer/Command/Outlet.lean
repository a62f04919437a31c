import TableLexer.Text.Utf8

/-!
# Outlets

Where a command writes. An outlet may take only so many bytes; what is written beyond them is
lost, and the writer is told. Who writes in pieces stops at the first one that does not fit.
-/

namespace TableLexer

/-- A place to write to. -/
structure Outlet where
  /-- The number of bytes that it still takes, if that is limited. -/
  room : Option Nat
  /-- The bytes that it took. -/
  written : Bytes
  deriving DecidableEq, Repr

namespace Outlet

/-- An outlet that takes everything. -/
def unlimited : Outlet := ⟨none, []⟩

/-- An outlet that takes so many bytes. -/
def limited (room : Nat) : Outlet := ⟨some room, []⟩

/-- Write a text. The outlet takes as many bytes as it has room for; the answer says whether
these were all. -/
def write (outlet : Outlet) (text : Text) : Outlet × Bool :=
  let bytes := Text.encode text
  match outlet.room with
  | none => (⟨none, outlet.written ++ bytes⟩, true)
  | some room =>
    (⟨some (room - bytes.length), outlet.written ++ bytes.take room⟩, bytes.length ≤ room)

/-- Write texts one after the other, up to the first that the outlet does not take whole. -/
def writeEach : Outlet → List Text → Outlet × Bool
  | outlet, [] => (outlet, true)
  | outlet, piece :: pieces =>
    match outlet.write piece with
    | (outlet, true) => writeEach outlet pieces
    | (outlet, false) => (outlet, false)

end Outlet

end TableLexer
