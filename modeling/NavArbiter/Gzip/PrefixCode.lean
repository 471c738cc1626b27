/-
# Canonical codes of bits

Each symbol of a code has a word of bits, and no word begins another.  A canonical code is given by
the lengths of its words alone: words of one length are consecutive numbers in the order of their
symbols, and shorter words come first.
-/
import NavArbiter.Gzip.Bits

namespace NavArbiter.Gzip

/-- A canonical code: for each length from one upwards, the symbols with words of that length. -/
structure PrefixCode where
  levels : List (Array Nat)

namespace PrefixCode

/-- No word is longer than this. -/
def maxLength : Nat := 15

/-- The symbols whose words have a length. -/
def level (lengths : List Nat) (length : Nat) : Array Nat :=
  (lengths.zipIdx.filterMap fun (l, symbol) => if l = length then some symbol else none).toArray

/-- The part of all words of `maxLength` that the code accounts for. -/
def weight (lengths : List Nat) : Nat :=
  lengths.foldl (fun w l => if l = 0 then w else w + Nat.pow 2 (maxLength - l)) 0

/-- The code whose words have these lengths, zero for a symbol without a word.  Every sequence of
bits must begin with a word, unless the code has one symbol at most. -/
def ofLengths? (lengths : List Nat) : Option PrefixCode :=
  let used := lengths.countP (· ≠ 0)
  if weight lengths = Nat.pow 2 maxLength ∨ used ≤ 1 then
    some ⟨(List.range maxLength).map fun i => level lengths (i + 1)⟩
  else none

/-- Reads a symbol, given the levels that remain, the first word of the next level and the bits
read so far. -/
def symbolFrom : List (Array Nat) → Nat → Nat → Reader Nat
  | [], _, _ => failure
  | symbols :: levels, first, word => do
      let word := 2 * word + (← Reader.bit)
      match symbols[word - first]? with
      | some symbol => return symbol
      | none => symbolFrom levels (2 * (first + symbols.size)) word

/-- Reads a symbol. -/
def symbol (c : PrefixCode) : Reader Nat := symbolFrom c.levels 0 0

end PrefixCode

end NavArbiter.Gzip
