/-
# Bits of packed data

Packed data is read bit by bit, each octet from its lowest bit upwards.  A reader fails where the
data ends, and never looks back.
-/

namespace NavArbiter.Gzip

/-- Octets, and how many of their bits were read. -/
structure Bits where
  octets : Array UInt8
  position : Nat

/-- Reads from bits, or fails. -/
abbrev Reader := StateT Bits Option

namespace Reader

/-- The next bit. -/
def bit : Reader Nat := fun s =>
  match s.octets[s.position / 8]? with
  | some o => some ((o.toNat >>> (s.position % 8)) % 2, { s with position := s.position + 1 })
  | none => none

/-- A number of this many bits, the lowest first. -/
def number : Nat → Reader Nat
  | 0 => return 0
  | width + 1 => do
      let b ← bit
      return b + 2 * (← number width)

/-- The next octet. -/
def octet : Reader UInt8 := return (← number 8).toUInt8

/-- Skips the bits up to the next whole octet. -/
def align : Reader Unit := modify fun s => { s with position := (s.position + 7) / 8 * 8 }

/-- A bound on how many more bits can be read. -/
def remaining : Reader Nat := return (8 * (← get).octets.size - (← get).position)

end Reader

end NavArbiter.Gzip
