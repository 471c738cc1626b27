/-
# Strings

The octets after an opening quote are read up to the closing one.  Reading translates the escapes
and insists on paired surrogates and on UTF-8; passing over only checks the shape of the escapes.
No control character may stand in a string.
-/
import NavArbiter.Json.Fault
import NavArbiter.Json.Octets

namespace NavArbiter.Json.Text

/-- A control character, which strings may only hold as an escape. -/
def isControl (c : Char) : Bool := decide (c.toNat < 0x20)

/-- The character that a one-letter escape stands for. -/
def simpleEscape? : Char → Option Char
  | '"' => some '"'
  | '\\' => some '\\'
  | '/' => some '/'
  | 'b' => some '\x08'
  | 'f' => some '\x0c'
  | 'n' => some '\n'
  | 'r' => some '\r'
  | 't' => some '\t'
  | _ => none

/-- The octets after the closing quote. -/
def pass : Octets → Except Fault Octets
  | [] => .error .truncated
  | '"' :: rest => .ok rest
  | '\\' :: 'u' :: a :: b :: c :: d :: rest =>
      match Octets.hex4? a b c d with
      | some _ => pass rest
      | none => .error .malformed
  | '\\' :: 'u' :: _ => .error .truncated
  | '\\' :: c :: rest =>
      match simpleEscape? c with
      | some _ => pass rest
      | none => .error .malformed
  | ['\\'] => .error .truncated
  | c :: rest => if isControl c then .error .malformed else pass rest

/-- The first half of a surrogate pair. -/
def isLeading (n : Nat) : Bool := decide (0xD800 ≤ n) && decide (n ≤ 0xDBFF)

/-- The second half of a surrogate pair. -/
def isTrailing (n : Nat) : Bool := decide (0xDC00 ≤ n) && decide (n ≤ 0xDFFF)

/-- The character of a surrogate pair. -/
def joinSurrogates (lead trail : Nat) : Char :=
  Char.ofNat (0x10000 + (lead - 0xD800) * 0x400 + (trail - 0xDC00))

/-- The octets of a character, put in front of others. -/
def prependChar (c : Char) (os : Octets) : Octets := Octets.ofString (String.singleton c) ++ os

/-- The octets that a string stands for, up to the closing quote. -/
def translate : Octets → Except Fault Octets
  | [] => .error .truncated
  | '"' :: _ => .ok []
  | '\\' :: 'u' :: a :: b :: c :: d :: rest =>
      match Octets.hex4? a b c d with
      | none => .error .malformed
      | some n =>
          if isTrailing n then .error .malformed
          else if isLeading n then
            match rest with
            | [] => .error .truncated
            | '\\' :: 'u' :: a :: b :: c :: d :: rest =>
                match Octets.hex4? a b c d with
                | none => .error .malformed
                | some m =>
                    if isTrailing m then
                      (translate rest).map (prependChar (joinSurrogates n m))
                    else .error .malformed
            | '\\' :: 'u' :: _ => .error .truncated
            | ['\\'] => .error .truncated
            | _ => .error .malformed
          else (translate rest).map (prependChar (Char.ofNat n))
  | '\\' :: 'u' :: _ => .error .truncated
  | '\\' :: c :: rest =>
      match simpleEscape? c with
      | some e => (translate rest).map (e :: ·)
      | none => .error .malformed
  | ['\\'] => .error .truncated
  | c :: rest => if isControl c then .error .malformed else (translate rest).map (c :: ·)

/-- The string up to the closing quote. -/
def read (os : Octets) : Except Fault String := do
  match Octets.text? (← translate os) with
  | some s => .ok s
  | none => .error .malformed

end NavArbiter.Json.Text
