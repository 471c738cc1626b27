/-
# Decoders

A decoder makes a value of some type from a node, or meets a fault.  Records are decoded field by
field in the order of the text: each known field sets a part of a value that starts from defaults,
an unknown field is passed over, and a known field that comes again is a mismatch.  A record may
also be written as the list of its fields in their declared order.

A choice between variants is written as the variant's name, or as a record with that name for its
only key.
-/
import NavArbiter.Json.Document

namespace NavArbiter.Json

/-- Makes a value from a node. -/
abbrev Decoder (β : Type) := Node → Except Fault β

namespace Node

/-- The fault of a value of the wrong kind: that of its text if it cannot be read, and else a
mismatch. -/
def refuse : Node → Fault
  | .literal (.error fault) => fault
  | .number ⟨.error fault, _⟩ => fault
  | .text ⟨.error fault, _⟩ => fault
  | .broken fault => fault
  | _ => .mismatch

end Node

/-- Decodes a whole text, which must end after the value. -/
def Document.decode {β : Type} (d : Decoder β) (doc : Document) : Except Fault β := do
  let x ← d doc.node
  doc.ending
  return x

namespace Decode

variable {β σ : Type}

/-! ## Simple values -/

/-- Decodes a truth value. -/
def bool : Decoder Bool
  | .literal (.ok .true) => .ok true
  | .literal (.ok .false) => .ok false
  | n => .error n.refuse

/-- Decodes a number as a float. -/
def float : Decoder Float
  | .number ⟨.ok x, _⟩ => .ok x.toFloat
  | n => .error n.refuse

/-- Decodes a natural number below a bound. -/
def natural (bound : Nat) : Decoder Nat
  | .number ⟨.ok (.natural x), _⟩ => if x < bound then .ok x else .error .mismatch
  | n => .error n.refuse

/-- Decodes a moment or a duration. -/
def time : Decoder Nat := natural Numeral.wordBound

/-- Decodes a natural number of eight bits. -/
def octet : Decoder UInt8 := fun n => (natural 256 n).map Nat.toUInt8

/-- Decodes `null` as nothing, and anything else as something. -/
def optional (d : Decoder β) : Decoder (Option β)
  | .literal (.ok .null) => .ok none
  | .literal (.error fault) => .error fault
  | n => (d n).map some

/-! ## Lists -/

/-- Decodes items one after another. -/
def items (d : Decoder β) : List Node → Except Fault (List β)
  | [] => .ok []
  | n :: ns => do
      let x ← d n
      return x :: (← items d ns)

/-- Decodes a list of any length. -/
def list (d : Decoder β) : Decoder (List β)
  | .list ns ending _ => do
      let xs ← items d ns
      ending
      return xs
  | n => .error n.refuse

/-- Decodes the remaining `length` components of a vector.  One that is too many is decoded before
it is refused. -/
def components (ending : Except Fault Unit) : Nat → List Node → Except Fault (List Float)
  | 0, [] => do
      ending
      return []
  | 0, n :: _ => do
      let _ ← float n
      .error .mismatch
  | _ + 1, [] => do
      ending
      .error .mismatch
  | length + 1, n :: ns => do
      let x ← float n
      return x :: (← components ending length ns)

/-- Decodes a vector of a fixed length. -/
def vector (length : Nat) : Decoder (List Float)
  | .list ns ending _ => components ending length ns
  | n => .error n.refuse

/-- Decodes the remaining `length` items of a list.  One that is too many is not looked at. -/
def exactItems (d : Decoder β) (ending : Except Fault Unit) :
    Nat → List Node → Except Fault (List β)
  | 0, [] => do
      ending
      return []
  | 0, _ :: _ => .error .malformed
  | _ + 1, [] => do
      ending
      .error .mismatch
  | length + 1, n :: ns => do
      let x ← d n
      return x :: (← exactItems d ending length ns)

/-- Decodes a list of a fixed length. -/
def exactly (length : Nat) (d : Decoder β) : Decoder (List β)
  | .list ns ending _ => exactItems d ending length ns
  | n => .error n.refuse

/-! ## Records -/

/-- Whether a field may be left out. -/
inductive Presence where
  /-- It must be there. -/
  | required
  /-- It may be left out of a record, but not out of a list. -/
  | optional
  /-- It may be left out. -/
  | defaulted
  deriving DecidableEq, Repr

/-- A field of a record of type `σ`. -/
structure Field (σ : Type) where
  name : String
  presence : Presence
  /-- Sets the field to the value of a node. -/
  read : Node → Except Fault (σ → σ)

/-- The field with this name, whose value is decoded by `d` and stored by `set`. -/
def Field.field (name : String) (presence : Presence) (d : Decoder β) (set : β → σ → σ) :
    Field σ where
  name := name
  presence := presence
  read := fun n => (d n).map set

/-- Decodes the members of a record in order, given the names seen before and the value so far;
returns the names seen and the value. -/
def members (fields : List (Field σ)) :
    List (Except Fault String × Node) → List String → σ → Except Fault (List String × σ)
  | [], seen, x => .ok (seen, x)
  | (k, v) :: ms, seen, x => do
      let name ← k
      match fields.find? fun f => f.name == name with
      | none =>
          v.passes
          members fields ms seen x
      | some f =>
          if seen.contains name then .error .mismatch
          else
            let set ← f.read v
            members fields ms (name :: seen) (set x)

/-- Decodes a record written as the list of its fields. -/
def fieldItems (ending : Except Fault Unit) : List (Field σ) → List Node → σ → Except Fault σ
  | [], [], x => do
      ending
      return x
  | [], _ :: _, _ => .error .malformed
  | f :: fs, [], x => do
      ending
      if f.presence = .defaulted then fieldItems ending fs [] x else .error .mismatch
  | f :: fs, n :: ns, x => do
      let set ← f.read n
      fieldItems ending fs ns (set x)

/-- No field that a record needs is missing. -/
def complete (fields : List (Field σ)) (seen : List String) : Bool :=
  fields.all fun f => f.presence ≠ .required || seen.contains f.name

/-- Decodes a record, starting from a value whose optional parts are as they are when left out. -/
def record (fields : List (Field σ)) (start : σ) : Decoder σ
  | .record ms ending _ => do
      let (seen, x) ← members fields ms [] start
      ending
      if complete fields seen then .ok x else .error .mismatch
  | .list ns ending _ => fieldItems ending fields ns start
  | n => .error n.refuse

/-! ## Choices -/

/-- A variant of a choice: a bare name, or a name with a value. -/
inductive Variant (σ : Type) where
  | plain (name : String) (value : σ)
  | holding (name : String) (read : Decoder σ)

namespace Variant

def name : Variant σ → String
  | plain name _ => name
  | holding name _ => name

/-- Decodes the variant that is written as a bare name. -/
def bare : Variant σ → Except Fault σ
  | plain _ value => .ok value
  | holding _ _ => .error .mismatch

/-- Decodes the value that stands with the name; that of a plain variant is `null`. -/
def withValue : Variant σ → Decoder σ
  | plain _ value, n =>
      match n with
      | .literal (.ok .null) => .ok value
      | n => .error n.refuse
  | holding _ read, n => read n

end Variant

/-- The variant with a name. -/
def findVariant (variants : List (Variant σ)) (name : String) : Except Fault (Variant σ) :=
  match variants.find? fun v => v.name == name with
  | some v => .ok v
  | none => .error .mismatch

/-- Decodes a choice between variants. -/
def choice (variants : List (Variant σ)) : Decoder σ
  | .text lexeme => do
      let v ← findVariant variants (← lexeme.value)
      v.bare
  | .record [] ending _ => do
      ending
      .error .malformed
  | .record ((k, n) :: ms) ending _ => do
      let v ← findVariant variants (← k)
      let x ← v.withValue n
      if ms.isEmpty then
        ending
        return x
      else .error .malformed
  | .broken fault => .error fault
  | _ => .error .malformed

end Decode

end NavArbiter.Json
