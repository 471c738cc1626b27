/-
# What a record decoder keeps

A record is decoded field by field into a value that starts from defaults.  What holds of the
defaults and is kept by whatever a field is set to holds of every value that is decoded, whichever
fields the text gives, in whatever order, and whatever unknown fields stand between them.
-/
import NavArbiter.Json.Decode

namespace NavArbiter.Json.Decode

variable {β γ σ ε : Type}

theorem exists_of_bind_eq_ok {x : Except ε β} {f : β → Except ε γ} {c : γ}
    (h : (x >>= f) = .ok c) : ∃ b, x = .ok b ∧ f b = .ok c := by
  cases x with
  | error e => cases h
  | ok b => exact ⟨b, rfl, h⟩

/-- Whatever the field is set to, the property stays. -/
def Field.Keeps (f : Field σ) (P : σ → Prop) : Prop :=
  ∀ n set, f.read n = .ok set → ∀ x, P x → P (set x)

/-- A field keeps what storing any decoded value keeps. -/
theorem Field.keeps_field {P : σ → Prop} {Q : β → Prop} {d : Decoder β}
    (decoded : ∀ n b, d n = .ok b → Q b) {name : String} {presence : Presence} {set : β → σ → σ}
    (stored : ∀ b, Q b → ∀ x, P x → P (set b x)) :
    (Field.field name presence d set).Keeps P := by
  intro n store read
  change (d n).map set = .ok store at read
  cases value : d n with
  | error fault =>
      rw [value] at read
      cases read
  | ok b =>
      rw [value] at read
      cases read
      exact stored b (decoded n b value)

/-- A field keeps what does not look at it. -/
theorem Field.keeps_of_set {P : σ → Prop} {d : Decoder β} {name : String} {presence : Presence}
    {set : β → σ → σ} (stored : ∀ b x, P x → P (set b x)) :
    (Field.field name presence d set).Keeps P :=
  keeps_field (fun _ _ _ => trivial) fun b _ => stored b

variable {P : σ → Prop} {fields : List (Field σ)}

theorem members_keeps (keeps : ∀ f ∈ fields, f.Keeps P)
    (ms : List (Except Fault String × Node)) {seen seen' : List String} {x y : σ}
    (decoded : members fields ms seen x = .ok (seen', y)) (start : P x) : P y := by
  induction ms generalizing seen x with
  | nil =>
      cases decoded
      exact start
  | cons m ms ih =>
      obtain ⟨k, v⟩ := m
      rw [members] at decoded
      obtain ⟨name, -, decoded⟩ := exists_of_bind_eq_ok decoded
      split at decoded
      · obtain ⟨_, -, decoded⟩ := exists_of_bind_eq_ok decoded
        exact ih decoded start
      · next f found =>
        split at decoded
        · cases decoded
        · obtain ⟨set, read, decoded⟩ := exists_of_bind_eq_ok decoded
          exact ih decoded (keeps f (List.mem_of_find?_eq_some found) v set read x start)

theorem fieldItems_keeps {ending : Except Fault Unit} {ns : List Node} {x y : σ}
    (keeps : ∀ f ∈ fields, f.Keeps P) (decoded : fieldItems ending fields ns x = .ok y)
    (start : P x) : P y := by
  induction fields generalizing ns x with
  | nil =>
      cases ns with
      | nil =>
          obtain ⟨_, -, decoded⟩ := exists_of_bind_eq_ok decoded
          cases decoded
          exact start
      | cons => cases decoded
  | cons f fs ih =>
      have rest : ∀ g ∈ fs, g.Keeps P := fun g hg => keeps g (List.mem_cons_of_mem f hg)
      cases ns with
      | nil =>
          obtain ⟨_, -, decoded⟩ := exists_of_bind_eq_ok decoded
          split at decoded
          · exact ih rest decoded start
          · cases decoded
      | cons n ns =>
          obtain ⟨set, read, decoded⟩ := exists_of_bind_eq_ok decoded
          exact ih rest decoded (keeps f List.mem_cons_self n set read x start)

/-- What holds of the defaults and is kept by every field holds of a decoded record. -/
theorem record_keeps {n : Node} {x y : σ} (keeps : ∀ f ∈ fields, f.Keeps P)
    (decoded : record fields x n = .ok y) (start : P x) : P y := by
  unfold record at decoded
  split at decoded
  · obtain ⟨⟨seen, z⟩, decoded, rest⟩ := exists_of_bind_eq_ok decoded
    obtain ⟨_, -, rest⟩ := exists_of_bind_eq_ok rest
    have kept : P z := members_keeps keeps _ decoded start
    split at rest
    · cases rest
      exact kept
    · cases rest
  · exact fieldItems_keeps keeps decoded start
  · cases decoded

/-- A decoded time is one that a clock can show. -/
theorem time_lt {n : Node} {t : Nat} (decoded : time n = .ok t) : t < Numeral.wordBound := by
  unfold time natural at decoded
  split at decoded
  · split at decoded
    · next bounded =>
      cases decoded
      exact bounded
    · cases decoded
  · cases decoded

end NavArbiter.Json.Decode
