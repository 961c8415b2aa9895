import NestedStore.Bytes

/-!
Bytes written as pairs of hexadecimal digits. Printing is always in lower case. Reading takes
two characters for each byte and reads each pair as an unsigned numeral in base sixteen, which
may spend its first character on a plus sign: `+f` is fifteen.
-/

namespace NestedStore.Hex

/-- The character of a hexadecimal digit. -/
def digit (value : Nat) : Char := Nat.digitChar value

/-- The two digits of a byte. -/
def pair (byte : UInt8) : List Char := [digit (byte.toNat / 16), digit (byte.toNat % 16)]

/-- Two lower-case digits for each byte. -/
def encode (bytes : Bytes) : String := String.ofList (bytes.flatMap pair)

/-- The value of a hexadecimal digit of either case. -/
def digitValue? (c : Char) : Option Nat :=
  if '0' ≤ c ∧ c ≤ '9' then some (c.toNat - '0'.toNat)
  else if 'a' ≤ c ∧ c ≤ 'f' then some (c.toNat - 'a'.toNat + 10)
  else if 'A' ≤ c ∧ c ≤ 'F' then some (c.toNat - 'A'.toNat + 10)
  else none

/-- A two-character numeral; a plus sign in front counts as nothing. -/
def pairValue? (high low : Char) : Option UInt8 := do
  let high ← if high = '+' then some 0 else digitValue? high
  let low ← digitValue? low
  return UInt8.ofNat (16 * high + low)

/-- The bytes of a list of pairs; `none` when a pair is no numeral or a character is left. -/
def decodeChars? : List Char → Option Bytes
  | [] => some []
  | [_] => none
  | high :: low :: rest => do
    let byte ← pairValue? high low
    let bytes ← decodeChars? rest
    return byte :: bytes

/-- The bytes that a text spells, two characters each. -/
def decode? (text : String) : Option Bytes := decodeChars? text.toList

end NestedStore.Hex
