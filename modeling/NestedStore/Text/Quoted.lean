import NestedStore.Text.Hidden

/-!
Texts shown between double quotes, so that what they hold can be read off: a backslash escape for
the quote, the backslash and the common controls, `\u{..}` for every other character that would
not be seen, and every other character as itself.
-/

namespace NestedStore.Quoted

/-- A character named by its code point in lower-case hexadecimal. -/
def codePoint (c : Char) : List Char :=
  ['\\', 'u', '\x7b'] ++ Nat.toDigits 16 c.toNat ++ ['\x7d']

/-- One character as it stands between the quotes. -/
def escape (c : Char) : List Char :=
  if c = '\x00' then ['\\', '0']
  else if c = '\t' then ['\\', 't']
  else if c = '\n' then ['\\', 'n']
  else if c = '\r' then ['\\', 'r']
  else if c = '\\' then ['\\', '\\']
  else if c = '\x22' then ['\\', '\x22']
  else if ' ' ≤ c ∧ c ≤ '~' then [c]
  else if isHidden c then codePoint c
  else [c]

end NestedStore.Quoted

namespace NestedStore

/-- A text in double quotes with its invisible characters spelled out. -/
def quoted (text : String) : String :=
  String.ofList (['\x22'] ++ text.toList.flatMap Quoted.escape ++ ['\x22'])

end NestedStore
