/-
# Octets

A document is read octet by octet.  An octet is held as the character with its number, so the
characters of the grammar, which are all ASCII, are matched as they are written; characters beyond
ASCII are put together again when a string ends.
-/

namespace NavArbiter.Json

/-- Octets, each as the character with its number. -/
abbrev Octets := List Char

namespace Octets

/-- The octets of raw bytes. -/
def ofBytes (bytes : List UInt8) : Octets := bytes.map fun b => Char.ofNat b.toNat

/-- The octets of a text in UTF-8. -/
def ofString (s : String) : Octets := ofBytes s.toUTF8.toList

/-- The text that octets stand for, if they are UTF-8. -/
def text? (os : Octets) : Option String :=
  String.fromUTF8? ⟨(os.map fun c => c.toNat.toUInt8).toArray⟩

/-- A blank between lexemes. -/
def isBlank (c : Char) : Bool := c == ' ' || c == '\n' || c == '\t' || c == '\r'

/-- The octets from the first that is not blank. -/
def skipBlanks (os : Octets) : Octets := os.dropWhile isBlank

/-- The value of a hexadecimal digit. -/
def hexDigit? (c : Char) : Option Nat :=
  if '0' ≤ c ∧ c ≤ '9' then some (c.toNat - '0'.toNat)
  else if 'a' ≤ c ∧ c ≤ 'f' then some (c.toNat - 'a'.toNat + 10)
  else if 'A' ≤ c ∧ c ≤ 'F' then some (c.toNat - 'A'.toNat + 10)
  else none

/-- The value of four hexadecimal digits. -/
def hex4? (a b c d : Char) : Option Nat := do
  let a ← hexDigit? a
  let b ← hexDigit? b
  let c ← hexDigit? c
  let d ← hexDigit? d
  return ((a * 16 + b) * 16 + c) * 16 + d

end Octets

end NavArbiter.Json
