/-
# The grammar of documents

What a text must look like to say something, stated without any reader:

    piece      spelled
    literal    its word
    number     sign, digits without a needless zero, fraction and exponent, the last two optional
    text       between quotes, anything but quotes, backslashes and control characters, or an escape
    list       items between brackets, with commas between them
    record     members between braces likewise, each a text, a colon and a value

Blanks may stand around every piece.  `Spells` relates a piece to its octets; a list and its items
are pieces of one relation, so that a proof about all of them is one induction.  A text may be
impossible to read though its shape is right, and so may a number that is too large for a float: the
grammar has them, because they can be passed over.

Every text that is spelled is read as what it spells (`read_spelled`), with the fuel that the reader
gives itself, and can be passed over.
-/
import Mathlib.Data.List.TakeDrop
import Mathlib.Data.List.TakeWhile
import NavArbiter.Json.Document

namespace NavArbiter.Json

/-! ## Blanks and ends -/

/-- Octets that are all blank. -/
def Blank (os : Octets) : Prop := ∀ c ∈ os, Octets.isBlank c = true

instance (os : Octets) : Decidable (Blank os) := List.decidableBAll _ os

/-- What may follow a value: a blank, a comma, a closing bracket, or nothing. -/
def Ends (rest : Octets) : Prop :=
  ∀ c ∈ rest.head?, Octets.isBlank c = true ∨ c = ',' ∨ c = ']' ∨ c = '}'

theorem blank_nil : Blank [] := fun _ h => absurd h List.not_mem_nil

theorem skipBlanks_blank {b os : Octets} {c : Char} (blank : Blank b)
    (proper : Octets.isBlank c = false) : Octets.skipBlanks (b ++ c :: os) = c :: os := by
  rw [Octets.skipBlanks, List.dropWhile_append_of_pos blank, List.dropWhile_cons_of_neg]
  exact Bool.eq_false_iff.mp proper

theorem skipBlanks_cons {os : Octets} {c : Char} (proper : Octets.isBlank c = false) :
    Octets.skipBlanks (c :: os) = c :: os := skipBlanks_blank blank_nil proper

theorem skipBlanks_self {b : Octets} (blank : Blank b) : Octets.skipBlanks b = [] :=
  List.dropWhile_eq_nil_iff.mpr blank

theorem Ends.blank {b rest : Octets} (blank : Blank b) (ends : Ends rest) : Ends (b ++ rest) := by
  cases b with
  | nil => exact ends
  | cons c b =>
      rintro d hd
      obtain rfl : c = d := Option.some.inj hd
      exact Or.inl (blank c List.mem_cons_self)

theorem ends_cons {c : Char} (rest : Octets) (closing : c = ',' ∨ c = ']' ∨ c = '}') :
    Ends (c :: rest) := by
  rintro d hd
  obtain rfl : c = d := Option.some.inj hd
  exact Or.inr closing

/-! ## Numbers -/

namespace Numeral

/-- At least one digit, and nothing else. -/
def Digits (ds : List Char) : Prop := ds ≠ [] ∧ ∀ c ∈ ds, isDigit c = true

instance (ds : List Char) : Decidable (Digits ds) :=
  @instDecidableAnd _ _ _ (List.decidableBAll _ ds)

/-- The digits before a point: a zero at the front stands alone. -/
def Whole (ds : List Char) : Prop := Digits ds ∧ (ds.head? = some '0' → ds = ['0'])

instance (ds : List Char) : Decidable (Whole ds) := inferInstanceAs (Decidable (_ ∧ (_ → _)))

/-- A fraction after a point, or nothing. -/
inductive SpellsFraction : Option (List Char) → Octets → Prop
  | absent : SpellsFraction none []
  | given {ds : List Char} : Digits ds → SpellsFraction (some ds) ('.' :: ds)

/-- The sign of an exponent. -/
inductive SpellsSign : Bool → Octets → Prop
  | bare : SpellsSign false []
  | plus : SpellsSign false ['+']
  | minus : SpellsSign true ['-']

/-- An exponent after its letter, or nothing. -/
inductive SpellsExponent : Option (Bool × List Char) → Octets → Prop
  | absent : SpellsExponent none []
  | given {letter : Char} {negative : Bool} {sign : Octets} {ds : List Char} :
      letter = 'e' ∨ letter = 'E' → SpellsSign negative sign → Digits ds →
      SpellsExponent (some (negative, ds)) (letter :: (sign ++ ds))

/-- The octets of a numeral. -/
def Spells (n : Numeral) (os : Octets) : Prop :=
  Whole n.whole ∧ ∃ f e, SpellsFraction n.fraction f ∧ SpellsExponent n.exponent e ∧
    os = (if n.minus then ['-'] else []) ++ (n.whole ++ (f ++ e))

/-- Nothing that could be another digit follows. -/
def NoDigit (rest : Octets) : Prop := ∀ c ∈ rest.head?, isDigit c = false

variable {rest : Octets}

theorem span_digits {ds : List Char} (digits : ∀ c ∈ ds, isDigit c = true) (stop : NoDigit rest) :
    (ds ++ rest).span isDigit = (ds, rest) := by
  rw [List.span_eq_takeWhile_dropWhile, List.takeWhile_append_of_pos digits,
    List.dropWhile_append_of_pos digits]
  cases rest with
  | nil => simp
  | cons c rest => simp [stop c rfl]

theorem stop_of_ends (ends : Ends rest) : ∀ c ∈ rest.head?,
    isDigit c = false ∧ c ≠ '.' ∧ c ≠ 'e' ∧ c ≠ 'E' := by
  intro c hc
  have closing := ends c hc
  simp only [Octets.isBlank, Bool.or_eq_true, beq_iff_eq] at closing
  rcases closing with ((((rfl | rfl) | rfl) | rfl) | rfl | rfl | rfl) <;> decide

theorem SpellsExponent.stop {x : Option (Bool × List Char)} {e : Octets} (h : SpellsExponent x e)
    (ends : Ends rest) : ∀ c ∈ (e ++ rest).head?, isDigit c = false ∧ c ≠ '.' := by
  intro c hc
  cases h with
  | absent =>
      obtain ⟨digit, point, -⟩ := stop_of_ends ends c hc
      exact ⟨digit, point⟩
  | @given letter _ _ _ named _ _ =>
      obtain rfl : letter = c := Option.some.inj hc
      rcases named with rfl | rfl <;> decide

theorem SpellsFraction.stop {x : Option (List Char)} {f : Octets} (h : SpellsFraction x f)
    (stop : NoDigit rest) : NoDigit (f ++ rest) := by
  cases h with
  | absent => exact stop
  | given _ =>
      rintro c hc
      obtain rfl : '.' = c := Option.some.inj hc
      decide

theorem scanExponent_spelled {x : Option (Bool × List Char)} {e : Octets}
    (h : SpellsExponent x e) (ends : Ends rest) : scanExponent (e ++ rest) = .ok (x, rest) := by
  have stop : NoDigit rest := fun c hc => (stop_of_ends ends c hc).1
  cases h with
  | absent =>
      cases rest with
      | nil => rfl
      | cons c rest =>
          obtain ⟨-, -, small, large⟩ := stop_of_ends ends c rfl
          simp [scanExponent, small, large]
  | @given letter negative sign ds named signed digits =>
      have lettered : (letter == 'e' || letter == 'E') = true := by
        rcases named with rfl | rfl <;> rfl
      have scanned : scanSign (sign ++ ds ++ rest) = (negative, ds ++ rest) := by
        cases signed with
        | bare =>
            obtain ⟨some, digits⟩ := digits
            obtain ⟨d, ds, rfl⟩ := List.exists_cons_of_ne_nil some
            have digit := digits d List.mem_cons_self
            show scanSign (d :: (ds ++ rest)) = _
            unfold scanSign
            split <;> simp_all [isDigit]
        | plus | minus => rfl
      rw [List.cons_append, scanExponent, if_pos lettered, scanned]
      dsimp only
      rw [span_digits digits.2 stop]
      obtain ⟨d, ds, rfl⟩ := List.exists_cons_of_ne_nil digits.1
      rfl

theorem scanFraction_spelled {x : Option (List Char)} {f : Octets} (h : SpellsFraction x f)
    (stop : ∀ c ∈ rest.head?, isDigit c = false ∧ c ≠ '.') :
    scanFraction (f ++ rest) = .ok (x, rest) := by
  cases h with
  | absent =>
      show scanFraction rest = _
      unfold scanFraction
      split
      · next => exact absurd rfl (stop '.' rfl).2
      · rfl
  | @given ds digits =>
      rw [List.cons_append, scanFraction, span_digits digits.2 fun c hc => (stop c hc).1]
      obtain ⟨d, ds, rfl⟩ := List.exists_cons_of_ne_nil digits.1
      rfl

theorem scanWhole_spelled {ds : List Char} (whole : Whole ds) (stop : NoDigit rest) :
    scanWhole (ds ++ rest) = .ok (ds, rest) := by
  obtain ⟨⟨some, digits⟩, alone⟩ := whole
  obtain ⟨d, ds, rfl⟩ := List.exists_cons_of_ne_nil some
  by_cases zero : d = '0'
  · subst zero
    obtain rfl : ds = [] := (List.cons.inj (alone rfl)).2
    cases rest with
    | nil => rfl
    | cons c rest => simp [scanWhole, stop c rfl]
  · unfold scanWhole
    split
    · next same => exact absurd (List.cons.inj same).1 zero
    · rw [span_digits digits stop]

/-- A numeral is scanned as it is spelled. -/
theorem scan_spelled {n : Numeral} {os : Octets} (h : n.Spells os) (ends : Ends rest) :
    scan (os ++ rest) = .ok (n, rest) := by
  obtain ⟨whole, f, e, fraction, exponent, rfl⟩ := h
  obtain ⟨minus, digits, fractional, power⟩ := n
  have stop := exponent.stop ends
  have first := scanWhole_spelled whole (fraction.stop fun c hc => (stop c hc).1)
  have second := scanFraction_spelled fraction stop
  have third := scanExponent_spelled exponent ends
  cases minus with
  | true => simp [scan, first, second, third, bind, Except.bind, pure, Except.pure]
  | false =>
      obtain ⟨⟨some, digit⟩, -⟩ := whole
      obtain ⟨d, ds, rfl⟩ := List.exists_cons_of_ne_nil some
      have unsigned : d ≠ '-' := by
        rintro rfl
        exact absurd (digit '-' List.mem_cons_self) (by decide)
      simp only [List.cons_append] at first
      simp [scan, first, second, third, bind, Except.bind, pure, Except.pure, unsigned]

end Numeral

/-! ## Strings -/

namespace Text

/-- The octets between quotes: neither quotes, backslashes nor control characters, but for
escapes. -/
inductive Shaped : Octets → Prop
  | empty : Shaped []
  | plain {c : Char} {os : Octets} : c ≠ '"' → c ≠ '\\' → isControl c = false → Shaped os →
      Shaped (c :: os)
  | escape {c e : Char} {os : Octets} : simpleEscape? c = some e → Shaped os →
      Shaped ('\\' :: c :: os)
  | unicode {a b c d : Char} {n : Nat} {os : Octets} : Octets.hex4? a b c d = some n →
      Shaped os → Shaped ('\\' :: 'u' :: a :: b :: c :: d :: os)

/-- What is between quotes, with the closing one. -/
def closed (raw : Octets) : Octets := raw ++ ['"']

/-- Octets that stand for themselves. -/
def Plain (raw : Octets) : Prop := ∀ c ∈ raw, c ≠ '"' ∧ c ≠ '\\' ∧ isControl c = false

instance (raw : Octets) : Decidable (Plain raw) := List.decidableBAll _ raw

theorem Plain.shaped {raw : Octets} (plain : Plain raw) : Shaped raw := by
  induction raw with
  | nil => exact .empty
  | cons c raw ih =>
      obtain ⟨⟨quote, backslash, control⟩, rest⟩ := List.forall_mem_cons.mp plain
      exact .plain quote backslash control (ih rest)

theorem ne_unicode {c e : Char} (known : simpleEscape? c = some e) : c ≠ 'u' := by
  rintro rfl
  simp [simpleEscape?] at known

theorem pass_spelled {raw : Octets} (h : Shaped raw) (rest : Octets) :
    pass (raw ++ '"' :: rest) = .ok rest := by
  induction h with
  | empty => rfl
  | plain _ backslash control _ ih => simp [pass, backslash, control, ih]
  | @escape c e os known _ ih =>
      simp [pass, ne_unicode known, known, ih]
  | unicode digits _ ih => simp [pass, digits, ih]

/-- What a string says does not depend on what follows it.  Halves of a surrogate pair are read
together, so behind an escape the claim is needed of what follows another one too. -/
theorem translate_spelled {raw : Octets} (h : Shaped raw) (rest : Octets) :
    translate (raw ++ '"' :: rest) = translate (closed raw) ∧
      ∀ a b c d os, raw = '\\' :: 'u' :: a :: b :: c :: d :: os →
        translate (os ++ '"' :: rest) = translate (closed os) := by
  unfold closed
  induction h with
  | empty => exact ⟨by simp [translate], nofun⟩
  | @plain c os _ backslash control _ ih =>
      refine ⟨by simp [translate, backslash, control, ih.1], ?_⟩
      rintro _ _ _ _ _ same
      exact absurd (List.cons.inj same).1 backslash
  | @escape c e os known _ ih =>
      have other := ne_unicode known
      refine ⟨by simp [translate, other, known, ih.1], ?_⟩
      rintro _ _ _ _ _ same
      exact absurd (List.cons.inj (List.cons.inj same).2).1 other
  | @unicode a b c d n os digits shaped ih =>
      constructor
      · simp only [List.cons_append, translate, digits]
        split
        · rfl
        · split
          · cases shaped with
            | empty => rfl
            | plain _ backslash _ _ => simp [backslash]
            | escape known _ => simp [ne_unicode known]
            | unicode digits _ =>
                simp only [List.cons_append, digits, ih.2 _ _ _ _ _ rfl]
          · rw [ih.1]
      · rintro _ _ _ _ _ same
        cases same
        exact ih.1

theorem read_spelled {raw : Octets} (h : Shaped raw) (rest : Octets) :
    read (raw ++ '"' :: rest) = read (closed raw) := by
  rw [read, read, (translate_spelled h rest).1]

end Text

/-! ## Pieces -/

/-- The word of a literal. -/
def Literal.word : Literal → String
  | .null => "null"
  | .true => "true"
  | .false => "false"

/-- A list that is complete. -/
def Node.items (ns : List Node) : Node := .list ns (.ok ()) (.ok ())

/-- A record that is complete. -/
def Node.members (ms : List (Except Fault String × Node)) : Node := .record ms (.ok ()) (.ok ())

/-- A piece of a document. -/
inductive Piece where
  | value (n : Node)
  /-- A value and the blanks behind it. -/
  | item (n : Node)
  /-- A key and what follows it likewise. -/
  | member (m : Except Fault String × Node)
  /-- One item or more. -/
  | items (ns : List Node)
  /-- One member or more. -/
  | members (ms : List (Except Fault String × Node))

/-- How a piece is spelled. -/
inductive Spells : Piece → Octets → Prop
  | literal (l : Literal) : Spells (.value (.literal (.ok l))) l.word.toList
  | number {n : Numeral} {os : Octets} : n.Spells os →
      Spells (.value (.number ⟨n.eval, .ok ()⟩)) os
  | text {raw : Octets} : Text.Shaped raw →
      Spells (.value (.text ⟨Text.read (Text.closed raw), .ok ()⟩)) ('"' :: Text.closed raw)
  | emptyList {b : Octets} : Blank b → Spells (.value (.items [])) ('[' :: (b ++ [']']))
  | list {b os : Octets} {ns : List Node} : Blank b → Spells (.items ns) os →
      Spells (.value (.items ns)) ('[' :: (b ++ (os ++ [']'])))
  | emptyRecord {b : Octets} : Blank b → Spells (.value (.members [])) ('{' :: (b ++ ['}']))
  | record {b os : Octets} {ms : List (Except Fault String × Node)} : Blank b →
      Spells (.members ms) os → Spells (.value (.members ms)) ('{' :: (b ++ (os ++ ['}'])))
  | item {b os : Octets} {n : Node} : Spells (.value n) os → Blank b → Spells (.item n) (os ++ b)
  | member {a b raw os : Octets} {v : Node} : Text.Shaped raw → Blank a → Blank b →
      Spells (.item v) os →
      Spells (.member (Text.read (Text.closed raw), v))
        ('"' :: (Text.closed raw ++ (a ++ ':' :: (b ++ os))))
  | oneItem {os : Octets} {n : Node} : Spells (.item n) os → Spells (.items [n]) os
  | moreItems {b os rest : Octets} {n : Node} {ns : List Node} : Spells (.item n) os → Blank b →
      Spells (.items ns) rest → Spells (.items (n :: ns)) (os ++ ',' :: (b ++ rest))
  | oneMember {os : Octets} {m : Except Fault String × Node} : Spells (.member m) os →
      Spells (.members [m]) os
  | moreMembers {b os rest : Octets} {m : Except Fault String × Node}
      {ms : List (Except Fault String × Node)} : Spells (.member m) os → Blank b →
      Spells (.members ms) rest → Spells (.members (m :: ms)) (os ++ ',' :: (b ++ rest))

/-- The octets begin with something that is neither blank nor a closing bracket. -/
def Begins (os : Octets) : Prop :=
  ∃ c t, os = c :: t ∧ Octets.isBlank c = false ∧ c ≠ ']' ∧ c ≠ '}'

theorem Begins.append {os : Octets} (h : Begins os) (rest : Octets) : Begins (os ++ rest) := by
  obtain ⟨c, t, rfl, proper⟩ := h
  exact ⟨c, t ++ rest, rfl, proper⟩

/-- A sign or a digit. -/
def Numeral.isHead (c : Char) : Bool := c == '-' || isDigit c

theorem Numeral.ne_of_isHead {c d : Char} (hc : isHead c = true) (hd : isHead d = false) :
    c ≠ d := by
  rintro rfl
  exact Bool.false_ne_true (hd.symm.trans hc)

theorem Numeral.begins {c : Char} (head : isHead c = true) (rest : Octets) :
    Begins (c :: rest) := by
  refine ⟨c, rest, rfl, ?_, ne_of_isHead head rfl, ne_of_isHead head rfl⟩
  simp only [Octets.isBlank, Bool.or_eq_false_iff, beq_eq_false_iff_ne]
  exact ⟨⟨⟨ne_of_isHead head rfl, ne_of_isHead head rfl⟩, ne_of_isHead head rfl⟩,
    ne_of_isHead head rfl⟩

/-- A numeral begins with a sign or a digit. -/
theorem Numeral.Spells.head {n : Numeral} {os : Octets} (h : n.Spells os) :
    ∃ c t, os = c :: t ∧ isHead c = true := by
  obtain ⟨⟨⟨some, digits⟩, -⟩, f, e, -, -, rfl⟩ := h
  obtain ⟨d, ds, whole⟩ := List.exists_cons_of_ne_nil some
  cases n.minus with
  | true => exact ⟨_, _, rfl, rfl⟩
  | false =>
      have digit : isDigit d = true := digits d (whole ▸ List.mem_cons_self)
      refine ⟨d, ds ++ (f ++ e), by rw [whole]; rfl, by rw [isHead, digit, Bool.or_true]⟩

theorem Spells.begins {p : Piece} {os : Octets} (h : Spells p os) : Begins os := by
  induction h with
  | literal l => cases l <;> exact ⟨_, _, rfl, by decide⟩
  | number numeral =>
      obtain ⟨c, t, rfl, head⟩ := numeral.head
      exact Numeral.begins head t
  | text | emptyList | list | emptyRecord | record | member => exact ⟨_, _, rfl, by decide⟩
  | item _ _ ih => exact ih.append _
  | oneItem _ ih | oneMember _ ih => exact ih
  | moreItems _ _ _ ih | moreMembers _ _ _ ih => exact ih.append _

/-! ## Reading -/

namespace Document

theorem readNode_blank {b os : Octets} (blank : Blank b) (fuel : Nat) :
    readNode fuel (b ++ os) = readNode fuel os := by
  have skip : Octets.skipBlanks (b ++ os) = Octets.skipBlanks os :=
    List.dropWhile_append_of_pos blank
  cases fuel with
  | zero => simp [readNode]
  | succ fuel => simp only [readNode, skip]

theorem readNode_number {n : Numeral} {os rest : Octets} (h : n.Spells os) (ends : Ends rest)
    (fuel : Nat) :
    readNode (fuel + 1) (os ++ rest) = (.number ⟨n.eval, .ok ()⟩, .ok rest) := by
  have scanned := Numeral.scan_spelled h ends
  obtain ⟨c, t, rfl, head⟩ := h.head
  obtain ⟨_, _, same, proper, -⟩ := Numeral.begins head t
  obtain ⟨rfl, rfl⟩ := List.cons.inj same
  have number : readNumber (c :: (t ++ rest)) = (.number ⟨n.eval, .ok ()⟩, .ok rest) := by
    rw [readNumber, ← List.cons_append, scanned]
  obtain ⟨null, true, false, quote, bracket, brace⟩ :
      c ≠ 'n' ∧ c ≠ 't' ∧ c ≠ 'f' ∧ c ≠ '"' ∧ c ≠ '[' ∧ c ≠ '{' := by
    refine ⟨?_, ?_, ?_, ?_, ?_, ?_⟩ <;> exact Numeral.ne_of_isHead head rfl
  have sign : (c == '-' || Numeral.isDigit c) = Bool.true := head
  rw [List.cons_append, readNode, skipBlanks_cons proper]
  simp only [sign, number, if_true]

/-- A bracket and blanks before a list that is not empty. -/
theorem readNode_list {b os : Octets} (blank : Blank b) (begins : Begins os) (fuel : Nat) :
    readNode (fuel + 1) ('[' :: (b ++ os)) =
      let r := readItems fuel os
      (.list r.items r.ending (outcome r.rest), r.rest) := by
  obtain ⟨c, t, rfl, proper, bracket, -⟩ := begins
  rw [readNode, skipBlanks_cons rfl]
  simp only [skipBlanks_blank blank proper]
  split
  · next same => exact absurd same (List.cons_ne_nil c t)
  · next same => exact absurd (List.cons.inj same).1 bracket
  · rfl

/-- A brace and blanks before a record that is not empty. -/
theorem readNode_record {b os : Octets} (blank : Blank b) (begins : Begins os) (fuel : Nat) :
    readNode (fuel + 1) ('{' :: (b ++ os)) =
      let r := readMembers fuel os
      (.record r.items r.ending (outcome r.rest), r.rest) := by
  obtain ⟨c, t, rfl, proper, -, brace⟩ := begins
  rw [readNode, skipBlanks_cons rfl]
  simp only [skipBlanks_blank blank proper]
  split
  · next same => exact absurd same (List.cons_ne_nil c t)
  · next same => exact absurd (List.cons.inj same).1 brace
  · rfl

theorem readNode_emptyList {b : Octets} (blank : Blank b) (rest : Octets) (fuel : Nat) :
    readNode (fuel + 1) ('[' :: (b ++ ']' :: rest)) = (.items [], .ok rest) := by
  rw [readNode, skipBlanks_cons rfl]
  simp only [skipBlanks_blank blank (show Octets.isBlank ']' = false from rfl)]
  rfl

theorem readNode_emptyRecord {b : Octets} (blank : Blank b) (rest : Octets) (fuel : Nat) :
    readNode (fuel + 1) ('{' :: (b ++ '}' :: rest)) = (.members [], .ok rest) := by
  rw [readNode, skipBlanks_cons rfl]
  simp only [skipBlanks_blank blank (show Octets.isBlank '}' = false from rfl)]
  rfl

theorem readNode_text {raw : Octets} (shaped : Text.Shaped raw) (rest : Octets) (fuel : Nat) :
    readNode (fuel + 1) ('"' :: (Text.closed raw ++ rest)) =
      (.text ⟨Text.read (Text.closed raw), .ok ()⟩, .ok rest) := by
  have inside : Text.closed raw ++ rest = raw ++ '"' :: rest := by simp [Text.closed]
  rw [readNode, skipBlanks_cons rfl]
  simp only [readText, inside, Text.pass_spelled shaped, Text.read_spelled shaped]
  rfl

theorem readNode_literal (l : Literal) (rest : Octets) (fuel : Nat) :
    readNode (fuel + 1) (l.word.toList ++ rest) = (.literal (.ok l), .ok rest) := by
  cases l <;> rfl

variable {os rest rest' : Octets} {n : Node} {m : Except Fault String × Node} {fuel : Nat}

/-! A list or record is read item by item, and each is followed by a comma or by the end. -/

theorem readItems_one (value : readNode fuel os = (n, .ok rest))
    (closed : Octets.skipBlanks rest = ']' :: rest') :
    readItems (fuel + 1) os = .last n rest' := by
  simp only [readItems, value, closed]

theorem readItems_more (value : readNode fuel os = (n, .ok rest)) {b after : Octets}
    (comma : Octets.skipBlanks rest = ',' :: (b ++ after)) (blank : Blank b)
    (begins : Begins after) : readItems (fuel + 1) os = .cons n (readItems fuel after) := by
  obtain ⟨c, t, rfl, proper, bracket, -⟩ := begins
  simp only [readItems, value, comma, skipBlanks_blank blank proper]
  split
  · next same => exact absurd (List.cons.inj same).1 bracket
  · rfl

/-- The key, the colon and the value of a member are read, up to what follows. -/
def ReadsMember (fuel : Nat) (os : Octets) (m : Except Fault String × Node) (rest : Octets) :
    Prop :=
  ∃ key value, readKey os = (m.1, .ok key) ∧ Octets.skipBlanks key = ':' :: value ∧
    readNode fuel value = (m.2, .ok rest)

theorem readMembers_one (member : ReadsMember fuel os m rest)
    (closed : Octets.skipBlanks rest = '}' :: rest') :
    readMembers (fuel + 1) os = .last m rest' := by
  obtain ⟨_, _, key, colon, value⟩ := member
  simp only [readMembers, key, colon, value, closed]

theorem readMembers_more (member : ReadsMember fuel os m rest) {b after : Octets}
    (comma : Octets.skipBlanks rest = ',' :: (b ++ after)) (blank : Blank b)
    (begins : Begins after) : readMembers (fuel + 1) os = .cons m (readMembers fuel after) := by
  obtain ⟨_, _, key, colon, value⟩ := member
  obtain ⟨c, t, rfl, proper, -, brace⟩ := begins
  simp only [readMembers, key, colon, value, comma, skipBlanks_blank blank proper]
  split
  · next same => exact absurd (List.cons.inj same).1 brace
  · rfl

end Document

section Reading

open Document

/-- What the readers make of a piece, given fuel for its octets and whatever follows. -/
def Piece.Reads (os : Octets) : Piece → Prop
  | .value n => ∀ fuel rest, 2 * os.length ≤ fuel → Ends rest →
      readNode fuel (os ++ rest) = (n, .ok rest)
  | .item n => ∀ fuel rest, 2 * os.length ≤ fuel → Ends rest →
      ∃ b, Blank b ∧ readNode fuel (os ++ rest) = (n, .ok (b ++ rest))
  | .member m => ∀ fuel rest, 2 * os.length ≤ fuel → Ends rest →
      ∃ b, Blank b ∧ ReadsMember fuel (os ++ rest) m (b ++ rest)
  | .items ns => ∀ fuel rest, 2 * os.length < fuel →
      readItems fuel (os ++ ']' :: rest) = ⟨ns, .ok (), .ok rest⟩
  | .members ms => ∀ fuel rest, 2 * os.length < fuel →
      readMembers fuel (os ++ '}' :: rest) = ⟨ms, .ok (), .ok rest⟩

/-- Every piece is read as it is spelled. -/
theorem Spells.reads {p : Piece} {os : Octets} (h : Spells p os) : p.Reads os := by
  induction h with
  | literal l =>
      rintro (_ | fuel) rest enough ends
      · cases l <;> exact absurd enough (by decide)
      · exact readNode_literal l rest fuel
  | number numeral =>
      rintro (_ | fuel) rest enough ends
      · obtain ⟨c, t, rfl, -⟩ := numeral.head
        simp at enough
      · exact readNode_number numeral ends fuel
  | text shaped =>
      rintro (_ | fuel) rest enough ends
      · simp at enough
      · exact readNode_text shaped rest fuel
  | emptyList blank =>
      rintro (_ | fuel) rest enough ends
      · simp at enough
      · simpa using readNode_emptyList blank rest fuel
  | @list b os ns blank items ih =>
      rintro (_ | fuel) rest enough ends
      · simp at enough
      · have run : readItems fuel (os ++ ']' :: rest) = ⟨ns, .ok (), .ok rest⟩ := by
          refine ih fuel rest ?_
          simp only [List.length_cons, List.length_append] at enough
          omega
        have read := readNode_list blank (items.begins.append (']' :: rest)) fuel
        rw [run] at read
        simpa [Node.items, outcome, Except.map] using read
  | emptyRecord blank =>
      rintro (_ | fuel) rest enough ends
      · simp at enough
      · simpa using readNode_emptyRecord blank rest fuel
  | @record b os ms blank members ih =>
      rintro (_ | fuel) rest enough ends
      · simp at enough
      · have run : readMembers fuel (os ++ '}' :: rest) = ⟨ms, .ok (), .ok rest⟩ := by
          refine ih fuel rest ?_
          simp only [List.length_cons, List.length_append] at enough
          omega
        have read := readNode_record blank (members.begins.append ('}' :: rest)) fuel
        rw [run] at read
        simpa [Node.members, outcome, Except.map] using read
  | @item b os n value blank ih =>
      intro fuel rest enough ends
      refine ⟨b, blank, ?_⟩
      rw [List.append_assoc]
      rw [List.length_append] at enough
      exact ih fuel (b ++ rest) (by omega) (ends.blank blank)
  | @member a b raw os v shaped before behind item ih =>
      intro fuel rest enough ends
      simp only [List.length_cons, List.length_append] at enough
      obtain ⟨d, blank, value⟩ := ih fuel rest (by omega) ends
      refine ⟨d, blank, a ++ ':' :: (b ++ (os ++ rest)), b ++ (os ++ rest), ?_, ?_, ?_⟩
      · simp [readKey, Text.closed, Text.read_spelled shaped, Text.pass_spelled shaped]
      · exact skipBlanks_blank before rfl
      · rw [readNode_blank behind]
        exact value
  | @oneItem os n item ih =>
      rintro (_ | fuel) rest enough
      · omega
      · obtain ⟨b, blank, value⟩ := ih fuel (']' :: rest) (by omega) (ends_cons rest (by decide))
        rw [readItems_one value (skipBlanks_blank blank rfl)]
        rfl
  | @moreItems b os after n ns item blank items ih ihs =>
      rintro (_ | fuel) rest enough
      · omega
      · simp only [List.length_cons, List.length_append] at enough
        have comma : Ends (',' :: (b ++ (after ++ ']' :: rest))) := ends_cons _ (Or.inl rfl)
        obtain ⟨d, behind, value⟩ := ih fuel _ (by omega) comma
        have next := items.begins.append (']' :: rest)
        simp only [List.append_assoc, List.cons_append]
        rw [readItems_more value (skipBlanks_blank behind rfl) blank next,
          ihs fuel rest (by omega)]
        rfl
  | @oneMember os m member ih =>
      rintro (_ | fuel) rest enough
      · omega
      · obtain ⟨b, blank, read⟩ := ih fuel ('}' :: rest) (by omega) (ends_cons rest (by decide))
        rw [readMembers_one read (skipBlanks_blank blank rfl)]
        rfl
  | @moreMembers b os after m ms member blank members ih ihs =>
      rintro (_ | fuel) rest enough
      · omega
      · simp only [List.length_cons, List.length_append] at enough
        have comma : Ends (',' :: (b ++ (after ++ '}' :: rest))) := ends_cons _ (Or.inl rfl)
        obtain ⟨d, behind, read⟩ := ih fuel _ (by omega) comma
        have next := members.begins.append ('}' :: rest)
        simp only [List.append_assoc, List.cons_append]
        rw [readMembers_more read (skipBlanks_blank behind rfl) blank next,
          ihs fuel rest (by omega)]
        rfl

end Reading

/-! ## Passing over -/

/-- The values of which a piece consists. -/
def Piece.nodes : Piece → List Node
  | .value n => [n]
  | .item n => [n]
  | .member m => [m.2]
  | .items ns => ns
  | .members ms => ms.map Prod.snd

/-- The value is spelled somewhere. -/
def Spellable (n : Node) : Prop := ∃ os, Spells (.value n) os

/-- The values of which a piece consists are spelled within it. -/
theorem Spells.parts {p : Piece} {os : Octets} (h : Spells p os) :
    ∀ n ∈ p.nodes, Spellable n := by
  induction h with
  | literal l => exact List.forall_mem_singleton.mpr ⟨_, .literal l⟩
  | number numeral => exact List.forall_mem_singleton.mpr ⟨_, .number numeral⟩
  | text shaped => exact List.forall_mem_singleton.mpr ⟨_, .text shaped⟩
  | emptyList blank => exact List.forall_mem_singleton.mpr ⟨_, .emptyList blank⟩
  | list blank items _ => exact List.forall_mem_singleton.mpr ⟨_, .list blank items⟩
  | emptyRecord blank => exact List.forall_mem_singleton.mpr ⟨_, .emptyRecord blank⟩
  | record blank members _ => exact List.forall_mem_singleton.mpr ⟨_, .record blank members⟩
  | item _ _ ih | member _ _ _ _ ih | oneItem _ ih | oneMember _ ih => exact ih
  | moreItems _ _ _ ih ihs | moreMembers _ _ _ ih ihs =>
      exact List.forall_mem_cons.mpr ⟨ih _ (List.mem_singleton_self _), ihs⟩

/-- Whatever is spelled can be passed over. -/
theorem Spellable.passes {n : Node} (h : Spellable n) : n.passes = .ok () := by
  obtain ⟨_, spells⟩ := h
  cases spells <;> rfl

/-! ## Documents -/

/-- The text says this and nothing else. -/
def Spelled (text : Octets) (n : Node) : Prop :=
  ∃ b os, Blank b ∧ Spells (.item n) os ∧ text = b ++ os

/-- The members of a record whose keys can be read. -/
def keyed (ms : List (String × Node)) : List (Except Fault String × Node) :=
  ms.map fun m => (.ok m.1, m.2)

/-- The record with these members. -/
def Node.object (ms : List (String × Node)) : Node := .members (keyed ms)

theorem read_spelled {text : Octets} {n : Node} (h : Spelled text n) :
    Document.read text = ⟨n, .ok ()⟩ := by
  obtain ⟨a, os, before, spells, rfl⟩ := h
  have enough : 2 * os.length ≤ 2 * (a ++ os).length + 2 := by
    rw [List.length_append]
    omega
  obtain ⟨b, behind, read⟩ := spells.reads _ [] enough nofun
  rw [List.append_nil, List.append_nil] at read
  rw [Document.read, Document.readNode_blank before, read]
  simp only [skipBlanks_self behind, List.isEmpty_nil, if_true]

theorem Spelled.spellable {text : Octets} {n : Node} (h : Spelled text n) : Spellable n := by
  obtain ⟨_, os, -, item, -⟩ := h
  cases item with
  | item value _ => exact ⟨_, value⟩

/-- The values of a record are spelled within it. -/
theorem Spellable.of_object {ms : List (String × Node)} (h : Spellable (.object ms)) :
    ∀ m ∈ ms, Spellable m.2 := by
  have inside {ks : List (Except Fault String × Node)} {os : Octets}
      (value : Spells (.value (.members ks)) os) : ∀ k ∈ ks, Spellable k.2 := by
    unfold Node.members at value
    cases value with
    | emptyRecord => exact fun _ hk => absurd hk List.not_mem_nil
    | record _ members => exact fun k hk => members.parts _ (List.mem_map_of_mem hk)
  obtain ⟨_, spells⟩ := h
  exact fun m hm => inside spells _ (List.mem_map_of_mem hm)

end NavArbiter.Json
