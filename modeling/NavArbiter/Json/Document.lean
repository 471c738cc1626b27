/-
# Documents

`Document.read` turns every text into a tree, also a text that breaks off or goes wrong.  Where it
does, the tree ends with a `Node.broken` or with an ending that is not a success, and nothing
follows.  So a decoder that walks the tree in the order of the text meets the first fault first,
be it one of the text or one of its own.

Lists and records keep their items in order, and a record keeps repeated keys.  A key is a string;
whatever else stands in its place is malformed.

Each reader returns what it found together with the octets that follow, or with the fault that
anyone meets who passes over the value.
-/
import NavArbiter.Json.Number
import NavArbiter.Json.Text

namespace NavArbiter.Json

/-- The words of the grammar. -/
inductive Literal where
  | null
  | true
  | false
  deriving DecidableEq, Repr

/-- What a text, or a piece of one, says. -/
inductive Node where
  | literal (value : Except Fault Literal)
  | number (lexeme : Lexeme Number)
  | text (lexeme : Lexeme String)
  /-- A list with its items, what follows the last one, and whether it can be passed over. -/
  | list (items : List Node) (ending passes : Except Fault Unit)
  /-- A record with its keys and values, likewise. -/
  | record (members : List (Except Fault String × Node)) (ending passes : Except Fault Unit)
  /-- No value could even begin. -/
  | broken (fault : Fault)

/-- Whether a value can be passed over without looking at it. -/
def Node.passes : Node → Except Fault Unit
  | .literal value => value.map fun _ => ()
  | .number lexeme => lexeme.passes
  | .text lexeme => lexeme.passes
  | .list _ _ passes => passes
  | .record _ _ passes => passes
  | .broken fault => .error fault

/-- A whole text: its value, and what follows it. -/
structure Document where
  node : Node
  ending : Except Fault Unit

namespace Document

/-- Whether passing succeeded, without the octets that follow. -/
def outcome {β : Type} (rest : Except Fault β) : Except Fault Unit := rest.map fun _ => ()

/-! ## Lexemes -/

/-- The rest of a word after its first letter. -/
def readWord : List Char → Octets → Except Fault Octets
  | [], os => .ok os
  | _ :: _, [] => .error .truncated
  | w :: ws, c :: os => if w = c then readWord ws os else .error .malformed

/-- A literal after its first letter. -/
def readLiteral (l : Literal) (word : String) (os : Octets) : Node × Except Fault Octets :=
  let rest := readWord word.toList os
  (.literal (rest.map fun _ => l), rest)

/-- A string after its opening quote. -/
def readText (os : Octets) : Node × Except Fault Octets :=
  let rest := Text.pass os
  (.text ⟨Text.read os, outcome rest⟩, rest)

/-- A number. -/
def readNumber (os : Octets) : Node × Except Fault Octets :=
  match Numeral.scan os with
  | .ok (n, rest) => (.number ⟨n.eval, .ok ()⟩, .ok rest)
  | .error b => (.number ⟨.error b.reading, .error b.passing⟩, .error b.passing)

/-- A value at which nothing can begin. -/
def stop (fault : Fault) : Node × Except Fault Octets := (.broken fault, .error fault)

/-- The key of a record's member, which must be a string. -/
def readKey : Octets → Except Fault String × Except Fault Octets
  | [] => (.error .truncated, .error .truncated)
  | '"' :: os => (Text.read os, Text.pass os)
  | _ => (.error .malformed, .error .malformed)

/-! ## Values -/

/-- The items or members of a list or record, what follows the last, and the rest. -/
structure Run (β : Type) where
  items : List β
  ending : Except Fault Unit
  rest : Except Fault Octets

namespace Run

/-- A run that is over. -/
def last {β : Type} (x : β) (rest : Octets) : Run β := ⟨[x], .ok (), .ok rest⟩

/-- A run that goes wrong after an item. -/
def fail {β : Type} (x : β) (fault : Fault) : Run β := ⟨[x], .error fault, .error fault⟩

/-- A run with an item in front. -/
def cons {β : Type} (x : β) (r : Run β) : Run β := { r with items := x :: r.items }

end Run

mutual

/-- The value at the front of the octets. -/
def readNode : Nat → Octets → Node × Except Fault Octets
  | 0, _ => stop .truncated
  | fuel + 1, os =>
      match Octets.skipBlanks os with
      | [] => stop .truncated
      | 'n' :: os => readLiteral .null "ull" os
      | 't' :: os => readLiteral .true "rue" os
      | 'f' :: os => readLiteral .false "alse" os
      | '"' :: os => readText os
      | '[' :: os =>
          match Octets.skipBlanks os with
          | [] => (.list [] (.error .truncated) (.error .truncated), .error .truncated)
          | ']' :: rest => (.list [] (.ok ()) (.ok ()), .ok rest)
          | os =>
              let r := readItems fuel os
              (.list r.items r.ending (outcome r.rest), r.rest)
      | '{' :: os =>
          match Octets.skipBlanks os with
          | [] => (.record [] (.error .truncated) (.error .truncated), .error .truncated)
          | '}' :: rest => (.record [] (.ok ()) (.ok ()), .ok rest)
          | os =>
              let r := readMembers fuel os
              (.record r.items r.ending (outcome r.rest), r.rest)
      | c :: os =>
          if c == '-' || Numeral.isDigit c then readNumber (c :: os) else stop .malformed

/-- The items of a list, of which there is at least one more. -/
def readItems : Nat → Octets → Run Node
  | 0, _ => .fail (.broken .truncated) .truncated
  | fuel + 1, os =>
      let (x, rest) := readNode fuel os
      match rest with
      | .error fault => .fail x fault
      | .ok os =>
          match Octets.skipBlanks os with
          | [] => .fail x .truncated
          | ']' :: rest => .last x rest
          | ',' :: os =>
              match Octets.skipBlanks os with
              | ']' :: _ => .fail x .malformed
              | os => .cons x (readItems fuel os)
          | _ => .fail x .malformed

/-- The members of a record, of which there is at least one more. -/
def readMembers : Nat → Octets → Run (Except Fault String × Node)
  | 0, _ => .fail (.error .truncated, .broken .truncated) .truncated
  | fuel + 1, os =>
      let (k, rest) := readKey os
      match rest with
      | .error fault => .fail (k, .broken fault) fault
      | .ok os =>
          match Octets.skipBlanks os with
          | [] => .fail (k, .broken .truncated) .truncated
          | ':' :: os =>
              let (v, rest) := readNode fuel os
              match rest with
              | .error fault => .fail (k, v) fault
              | .ok os =>
                  match Octets.skipBlanks os with
                  | [] => .fail (k, v) .truncated
                  | '}' :: rest => .last (k, v) rest
                  | ',' :: os =>
                      match Octets.skipBlanks os with
                      | '}' :: _ => .fail (k, v) .malformed
                      | os => .cons (k, v) (readMembers fuel os)
                  | _ => .fail (k, v) .malformed
          | _ => .fail (k, .broken .malformed) .malformed

end

/-- The tree of a text.  Each step down or along takes an octet and at most two units of fuel. -/
def read (os : Octets) : Document :=
  let (node, rest) := readNode (2 * os.length + 2) os
  let ending := match rest with
    | .error fault => .error fault
    | .ok os => if (Octets.skipBlanks os).isEmpty then .ok () else .error .malformed
  ⟨node, ending⟩

end Document

end NavArbiter.Json
