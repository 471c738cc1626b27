/-
# Packed files

A packed file is a header, blocks of packed data, and a trailer with a checksum and the length of
what they unpack to.  What follows is not looked at.
-/
import NavArbiter.Gzip.Block

namespace NavArbiter.Gzip

/-! ## Checksum -/

/-- The checksum after one more bit was shifted out. -/
def checksumShift (c : UInt32) : UInt32 :=
  if c &&& 1 = 1 then (c >>> 1) ^^^ 0xEDB88320 else c >>> 1

/-- The checksum after one more octet. -/
def checksumStep (c : UInt32) (o : UInt8) : UInt32 :=
  (List.range 8).foldl (fun c _ => checksumShift c) (c ^^^ o.toUInt32)

/-- The checksum of octets: the remainder of a division of polynomials, of 32 bits. -/
def checksum (octets : Array UInt8) : UInt32 :=
  octets.foldl checksumStep 0xFFFFFFFF ^^^ 0xFFFFFFFF

/-! ## Header -/

/-- Fails unless a condition holds. -/
def require (condition : Bool) : Reader Unit := if condition then return () else failure

/-- Skips octets. -/
def skip (count : Nat) : Reader Unit := do
  let _ ← Block.plain count #[]

/-- Skips octets up to a zero and over it.  Each takes a unit of fuel. -/
def skipText : Nat → Reader Unit
  | 0 => failure
  | fuel + 1 => do
      if (← Reader.octet) = 0 then return () else skipText fuel

/-- Skips the header, with the parts that its flags announce. -/
def header : Reader Unit := do
  let start ← get
  require ((← Reader.number 16) == 0x8B1F)
  require ((← Reader.octet) == 8)
  let flags ← Reader.number 8
  require (decide (flags < 32))
  skip 6
  if flags.testBit 2 then skip (← Reader.number 16)
  if flags.testBit 3 then skipText (← Reader.remaining)
  if flags.testBit 4 then skipText (← Reader.remaining)
  if flags.testBit 1 then
    let read := start.octets.extract (start.position / 8) ((← get).position / 8)
    require ((← Reader.number 16) == (checksum read).toNat % 0x10000)

/-! ## Files -/

/-- Reads a packed file. -/
def file : Reader Unpacked := do
  header
  let out ← Block.all (← Reader.remaining) #[]
  Reader.align
  require ((← Reader.number 32) == (checksum out).toNat)
  require ((← Reader.number 32) == out.size % 0x100000000)
  return out

/-- What a packed file unpacks to, if it is sound. -/
def unpack? (octets : Array UInt8) : Option (Array UInt8) :=
  ((file).run ⟨octets, 0⟩).map Prod.fst

end NavArbiter.Gzip
