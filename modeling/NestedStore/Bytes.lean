/-!
Byte strings. Keys, values, log records and files are all plain lists of bytes, compared
byte by byte from the left, so a key sorts before every key that extends it.
-/

namespace NestedStore

/-- A string of bytes; `compare` on it is the order in which keys are stored and visited. -/
abbrev Bytes := List UInt8

namespace Bytes

/-- The UTF-8 encoding of a text. -/
def ofText (text : String) : Bytes := text.toUTF8.toList

/-- The text that the bytes encode, when they are valid UTF-8. -/
def toText? (bytes : Bytes) : Option String := String.fromUTF8? ⟨bytes.toArray⟩

/-- The bytes as a list of decimal numbers, as shown to developers. -/
def describe (bytes : Bytes) : String :=
  "[" ++ ", ".intercalate (bytes.map fun b => toString b.toNat) ++ "]"

end Bytes

end NestedStore
