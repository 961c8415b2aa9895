/-!
Report documents and their indented form: two spaces a level, a space after each colon, members
in the order given, and empty arrays and objects on one line.
-/

namespace NestedStore

/-- A document as the reports write it. Numbers are whole and never negative. -/
inductive Json where
  | number (n : Nat)
  | text (s : String)
  | array (items : List Json)
  | object (members : List (String × Json))

namespace Json

/-- The four-digit escape of a control character. -/
def unicodeEscape (c : Char) : List Char :=
  let digits := Nat.toDigits 16 c.toNat
  ['\\', 'u'] ++ List.replicate (4 - digits.length) '0' ++ digits

/-- Only quotes, backslashes and controls below the space are escaped. -/
def escape (c : Char) : List Char :=
  if c = '\x22' then ['\\', '\x22']
  else if c = '\\' then ['\\', '\\']
  else if c = '\x08' then ['\\', 'b']
  else if c = '\x0c' then ['\\', 'f']
  else if c = '\n' then ['\\', 'n']
  else if c = '\r' then ['\\', 'r']
  else if c = '\t' then ['\\', 't']
  else if c < ' ' then unicodeEscape c
  else [c]

/-- A text as a string literal. -/
def literal (s : String) : String :=
  String.ofList (['\x22'] ++ s.toList.flatMap escape ++ ['\x22'])

/-- A new line at the given depth. -/
def newline (depth : Nat) : String := String.ofList ('\n' :: List.replicate (2 * depth) ' ')

mutual

/-- The document with its inner lines at `depth` levels. -/
def render (depth : Nat) : Json → String
  | .number n => toString n
  | .text s => literal s
  | .array [] => "[]"
  | .array (item :: rest) =>
    "[" ++ newline (depth + 1) ++ render (depth + 1) item ++ renderItems (depth + 1) rest
      ++ newline depth ++ "]"
  | .object [] => "\x7b\x7d"
  | .object ((name, value) :: rest) =>
    "\x7b" ++ newline (depth + 1) ++ literal name ++ ": " ++ render (depth + 1) value
      ++ renderMembers (depth + 1) rest ++ newline depth ++ "\x7d"

/-- The items after the first, each on a line of its own. -/
def renderItems (depth : Nat) : List Json → String
  | [] => ""
  | item :: rest => "," ++ newline depth ++ render depth item ++ renderItems depth rest

/-- The members after the first, each on a line of its own. -/
def renderMembers (depth : Nat) : List (String × Json) → String
  | [] => ""
  | (name, value) :: rest =>
    "," ++ newline depth ++ literal name ++ ": " ++ render depth value ++ renderMembers depth rest

end

/-- The indented form of a whole document. -/
def pretty (document : Json) : String := document.render 0

end Json

end NestedStore
