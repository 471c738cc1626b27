/-
# Blocks of packed data

Packed data is a sequence of blocks, the last of which is marked.  A block holds octets as they are,
or symbols of two codes: octets, and repetitions of what was unpacked before, each given by a length
and a distance.  The codes are fixed, or stand at the start of the block.
-/
import NavArbiter.Gzip.PrefixCode

namespace NavArbiter.Gzip

/-- What was unpacked so far. -/
abbrev Unpacked := Array UInt8

namespace Block

/-! ## Repetitions -/

/-- The least values of a table, with the number of bits that are added to each. -/
abbrev Ranges := Array (Nat × Nat)

/-- Ranges that begin one after another, with these numbers of bits. -/
def ranges : Nat → List Nat → List (Nat × Nat)
  | _, [] => []
  | start, width :: widths => (start, width) :: ranges (start + Nat.pow 2 width) widths

/-- The lengths of repetitions; the longest has a range of its own. -/
def lengthRanges : Ranges :=
  (ranges 3 [0, 0, 0, 0, 0, 0, 0, 0, 1, 1, 1, 1, 2, 2, 2, 2, 3, 3, 3, 3, 4, 4, 4, 4, 5, 5, 5, 5]
    ++ [(258, 0)]).toArray

/-- The distances of repetitions. -/
def distanceRanges : Ranges :=
  (ranges 1 [0, 0, 0, 0, 1, 1, 2, 2, 3, 3, 4, 4, 5, 5, 6, 6, 7, 7, 8, 8, 9, 9, 10, 10, 11, 11,
    12, 12, 13, 13]).toArray

/-- Reads a value of a range. -/
def valueIn (table : Ranges) (index : Nat) : Reader Nat :=
  match table[index]? with
  | some (least, width) => return least + (← Reader.number width)
  | none => failure

/-- What was unpacked, with `length` octets repeated from `distance` octets before the end on. -/
def repeatFrom (distance : Nat) : Nat → Unpacked → Unpacked
  | 0, out => out
  | length + 1, out => repeatFrom distance length (out.push (out[out.size - distance]?.getD 0))

/-! ## Symbols -/

/-- The two codes of a block. -/
structure Codes where
  literals : PrefixCode
  distances : PrefixCode

/-- Unpacks symbols up to the end of the block.  Each symbol takes a bit and a unit of fuel. -/
def symbols (c : Codes) : Nat → Unpacked → Reader Unpacked
  | 0, _ => failure
  | fuel + 1, out => do
      let s ← c.literals.symbol
      if s < 256 then symbols c fuel (out.push s.toUInt8)
      else if s = 256 then return out
      else
        let length ← valueIn lengthRanges (s - 257)
        let distance ← valueIn distanceRanges (← c.distances.symbol)
        if distance ≤ out.size then symbols c fuel (repeatFrom distance length out)
        else failure

/-- The fixed codes. -/
def fixedCodes? : Option Codes := do
  let literals ← PrefixCode.ofLengths?
    (List.replicate 144 8 ++ List.replicate 112 9 ++ List.replicate 24 7 ++ List.replicate 8 8)
  let distances ← PrefixCode.ofLengths? (List.replicate 32 5)
  return ⟨literals, distances⟩

/-! ## Codes given in a block -/

/-- The order in which the lengths of the code for lengths are given. -/
def lengthOrder : List Nat := [16, 17, 18, 0, 8, 7, 9, 6, 10, 5, 11, 4, 12, 3, 13, 2, 14, 1, 15]

/-- Reads numbers of three bits. -/
def threeBitNumbers : Nat → Reader (List Nat)
  | 0 => return []
  | count + 1 => do
      let x ← Reader.number 3
      return x :: (← threeBitNumbers count)

/-- The code for lengths. -/
def lengthCode (count : Nat) : Reader PrefixCode := do
  let given := lengthOrder.zip (← threeBitNumbers count)
  let lengths := (List.range 19).map fun s => (given.lookup s).getD 0
  match PrefixCode.ofLengths? lengths with
  | some c => return c
  | none => failure

/-- One length, or several equal ones, given the length before. -/
def lengthRun (c : PrefixCode) (last : Option Nat) : Reader (List Nat) := do
  let s ← c.symbol
  if s < 16 then return [s]
  else if s = 16 then
    match last with
    | some l => return List.replicate (3 + (← Reader.number 2)) l
    | none => failure
  else if s = 17 then return List.replicate (3 + (← Reader.number 3)) 0
  else return List.replicate (11 + (← Reader.number 7)) 0

/-- Reads lengths up to `count`, to which those before, in reverse, are added.  Each step adds one
and takes a unit of fuel. -/
def lengths (c : PrefixCode) (count : Nat) : Nat → List Nat → Reader (List Nat)
  | 0, before => if before.length = count then return before.reverse else failure
  | fuel + 1, before => do
      if before.length = count then return before.reverse
      else if count < before.length then failure
      else lengths c count fuel ((← lengthRun c before.head?) ++ before)

/-- Reads the codes at the start of a block. -/
def givenCodes : Reader Codes := do
  let literalCount := 257 + (← Reader.number 5)
  let distanceCount := 1 + (← Reader.number 5)
  let c ← lengthCode (4 + (← Reader.number 4))
  let count := literalCount + distanceCount
  let ls ← lengths c count count []
  match PrefixCode.ofLengths? (ls.take literalCount),
      PrefixCode.ofLengths? (ls.drop literalCount) with
  | some literals, some distances => return ⟨literals, distances⟩
  | _, _ => failure

/-! ## Blocks -/

/-- Reads octets as they are. -/
def plain : Nat → Unpacked → Reader Unpacked
  | 0, out => return out
  | count + 1, out => do plain count (out.push (← Reader.octet))

/-- Unpacks a block of octets that are not packed; their number is given twice. -/
def stored (out : Unpacked) : Reader Unpacked := do
  Reader.align
  let count ← Reader.number 16
  let complement ← Reader.number 16
  if count + complement = 0xFFFF then plain count out else failure

/-- Unpacks a block of symbols. -/
def coded (c : Codes) (out : Unpacked) : Reader Unpacked := do
  symbols c (← Reader.remaining) out

/-- Unpacks the inside of a block of a kind. -/
def inside (kind : Nat) (out : Unpacked) : Reader Unpacked :=
  match kind with
  | 0 => stored out
  | 1 =>
      match fixedCodes? with
      | some c => coded c out
      | none => failure
  | 2 => do coded (← givenCodes) out
  | _ => failure

/-- Unpacks blocks up to the last.  Each takes a bit and a unit of fuel. -/
def all : Nat → Unpacked → Reader Unpacked
  | 0, _ => failure
  | fuel + 1, out => do
      let final ← Reader.bit
      let out ← inside (← Reader.number 2) out
      if final = 1 then return out else all fuel out

end Block

end NavArbiter.Gzip
