/-
# Values to write

What the library writes as a document.  A record keeps its fields in the order given.  A float that
is not finite has no text and is written as `null`; every other float is written with the fewest
digits that read back.
-/
import NavArbiter.Decimal.Shortest
import NavArbiter.Geometry.Attitude

namespace NavArbiter.Json

/-- A value to write. -/
inductive Value where
  | null
  | bool (b : Bool)
  | natural (n : Nat)
  | real (x : Float)
  | text (s : String)
  | list (items : List Value)
  | record (fields : List (String × Value))

namespace Value

/-- A value that may be missing. -/
def optional {β : Type} (encode : β → Value) : Option β → Value
  | some x => encode x
  | none => .null

def ofVec2 (v : Vec2 Float) : Value := .list [.real v.x, .real v.y]

def ofVec3 (v : Vec3 Float) : Value := .list [.real v.x, .real v.y, .real v.z]

def ofAttitude (q : Attitude Float) : Value := .list [.real q.i, .real q.j, .real q.k, .real q.w]

/-! ## Order of keys -/

/-- Fields in the alphabetical order of their keys. -/
def sortFields (fields : List (String × Value)) : List (String × Value) :=
  fields.mergeSort fun a b => decide (a.1 ≤ b.1)

mutual

/-- The value with the keys of every record in alphabetical order. -/
def sorted : Value → Value
  | list xs => list (sortedItems xs)
  | record fs => record (sortFields (sortedFields fs))
  | v => v

/-- The items with their keys in order. -/
def sortedItems : List Value → List Value
  | [] => []
  | x :: xs => sorted x :: sortedItems xs

/-- The fields with the keys inside them in order. -/
def sortedFields : List (String × Value) → List (String × Value)
  | [] => []
  | (k, x) :: fs => (k, sorted x) :: sortedFields fs

end

/-! ## Texts -/

/-- The four hexadecimal digits of a number below 2^16. -/
def hex4 (n : Nat) : List Char :=
  [n / 4096 % 16, n / 256 % 16, n / 16 % 16, n % 16].map Nat.digitChar

/-- A character inside quotes. -/
def escape : Char → List Char
  | '"' => ['\\', '"']
  | '\\' => ['\\', '\\']
  | '\x08' => ['\\', 'b']
  | '\x0c' => ['\\', 'f']
  | '\n' => ['\\', 'n']
  | '\r' => ['\\', 'r']
  | '\t' => ['\\', 't']
  | c => if c.toNat < 0x20 then '\\' :: 'u' :: hex4 c.toNat else [c]

/-- A string in quotes. -/
def quote (s : String) : String :=
  String.ofList ('"' :: (s.toList.flatMap escape ++ ['"']))

/-- The text of a float. -/
def ofFloat (x : Float) : String := (Decimal.compact? x).getD "null"

mutual

/-- The text of a value, without blanks. -/
def compact : Value → String
  | null => "null"
  | bool b => if b then "true" else "false"
  | natural n => toString n
  | real x => ofFloat x
  | text s => quote s
  | list xs => "[" ++ ",".intercalate (compactItems xs) ++ "]"
  | record fs => "\x7b" ++ ",".intercalate (compactFields fs) ++ "\x7d"

/-- The texts of items. -/
def compactItems : List Value → List String
  | [] => []
  | x :: xs => compact x :: compactItems xs

/-- The texts of fields. -/
def compactFields : List (String × Value) → List String
  | [] => []
  | (k, x) :: fs => (quote k ++ ":" ++ compact x) :: compactFields fs

end

/-- Lines of a list or record between its brackets, indented. -/
def block (opening closing : String) (indent : Nat) (items : List String) : String :=
  if items.isEmpty then opening ++ closing
  else
    let margin := "\n" ++ String.ofList (List.replicate indent ' ')
    opening ++ ",".intercalate (items.map (margin ++ "  " ++ ·)) ++ margin ++ closing

mutual

/-- The text of a value on lines of its own, for values that stand at an indentation. -/
def pretty (indent : Nat) : Value → String
  | list xs => block "[" "]" indent (prettyItems (indent + 2) xs)
  | record fs => block "\x7b" "\x7d" indent (prettyFields (indent + 2) fs)
  | null => "null"
  | bool b => if b then "true" else "false"
  | natural n => toString n
  | real x => ofFloat x
  | text s => quote s

/-- The texts of items on lines of their own. -/
def prettyItems (indent : Nat) : List Value → List String
  | [] => []
  | x :: xs => pretty indent x :: prettyItems indent xs

/-- The texts of fields on lines of their own. -/
def prettyFields (indent : Nat) : List (String × Value) → List String
  | [] => []
  | (k, x) :: fs => (quote k ++ ": " ++ pretty indent x) :: prettyFields indent fs

end

end Value

end NavArbiter.Json
