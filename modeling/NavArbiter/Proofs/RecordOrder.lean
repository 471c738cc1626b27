/-
# Records in any order

A record decoder sets fields in the order of the text.  That order does not matter if the fields
have different names and if setting one commutes with setting another (`Orderless`): then a record
in which every known field occurs at most once, with a value that can be decoded (`Proper`), is
decoded to the start overwritten field by field in the declared order, whatever the order of the
text and whatever stands between, and no other record is decoded at all (`record_object`).

One member is moved to its place at a time: it is set before the fields that are declared before its
own, with which it commutes, and the others do not look at it.
-/
import Mathlib.Data.List.Nodup
import NavArbiter.Proofs.DocumentGrammar
import NavArbiter.Proofs.RecordDecoding

namespace NavArbiter.Json.Decode

variable {β γ σ : Type}

/-- Members with keys that can be read. -/
abbrev Members := List (String × Node)

/-! ## Fields that do not disturb one another -/

/-- It does not matter which of the fields is set first. -/
def Field.Commutes (f g : Field σ) : Prop :=
  ∀ n m s t, f.read n = .ok s → g.read m = .ok t → ∀ x, s (t x) = t (s x)

/-- The fields may be set in any order, and left out. -/
structure Orderless (fields : List (Field σ)) : Prop where
  names : (fields.map Field.name).Nodup
  commute : fields.Pairwise Field.Commutes
  optional : ∀ f ∈ fields, f.presence = .defaulted

/-- A value that is read is one that is decoded. -/
theorem Field.read_eq_ok {name : String} {p : Presence} {d : Decoder β} {set : β → σ → σ} {n : Node}
    {s : σ → σ} (h : (Field.field name p d set).read n = .ok s) : ∃ b, d n = .ok b ∧ set b = s := by
  cases decoded : d n with
  | error fault =>
      rw [show (Field.field name p d set).read n = (d n).map set from rfl, decoded] at h
      cases h
  | ok b =>
      rw [show (Field.field name p d set).read n = (d n).map set from rfl, decoded] at h
      exact ⟨b, rfl, Except.ok.inj h⟩

theorem Field.commutes_field {name name' : String} {p p' : Presence} {d : Decoder β} {e : Decoder γ}
    {set : β → σ → σ} {set' : γ → σ → σ} (commute : ∀ b c x, set b (set' c x) = set' c (set b x)) :
    (Field.field name p d set).Commutes (Field.field name' p' e set') := by
  intro n m s t hs ht x
  obtain ⟨b, -, rfl⟩ := read_eq_ok hs
  obtain ⟨c, -, rfl⟩ := read_eq_ok ht
  exact commute b c x

/-! ## Overwriting -/

/-- The value with the field set to what the members give for it, if they give something that can be
read. -/
def Field.overwrite (f : Field σ) (ms : Members) (x : σ) : σ :=
  match (ms.lookup f.name).map f.read with
  | some (.ok set) => set x
  | _ => x

/-- The value with all fields set likewise, in their declared order. -/
def overwrite (fields : List (Field σ)) (ms : Members) (x : σ) : σ :=
  fields.foldl (fun x f => f.overwrite ms x) x

/-- What the members give under a name. -/
def given (ms : Members) (name : String) (d : Decoder β) : Option β :=
  (ms.lookup name).bind fun n => (d n).toOption

section Overwriting

variable {f : Field σ} {fields : List (Field σ)} {ms ms' : Members} {x : σ}

theorem Field.overwrite_congr
    (same : (ms.lookup f.name).map f.read = (ms'.lookup f.name).map f.read) :
    f.overwrite ms x = f.overwrite ms' x := by
  rw [Field.overwrite, Field.overwrite, same]

theorem overwrite_congr (same : ∀ f ∈ fields,
    (ms.lookup f.name).map f.read = (ms'.lookup f.name).map f.read) :
    overwrite fields ms x = overwrite fields ms' x :=
  List.foldl_ext _ _ x fun _ f hf => Field.overwrite_congr (same f hf)

theorem overwrite_append (before after : List (Field σ)) :
    overwrite (before ++ after) ms x = overwrite after ms (overwrite before ms x) :=
  List.foldl_append

/-- What one field stores is what is given for it, or what it finds. -/
theorem overwrite_field {name : String} {p : Presence} {d : Decoder β} {set : β → σ → σ} {b : β}
    (found : set b x = x) : overwrite (.field name p d set :: fields) ms x =
      overwrite fields ms (set ((given ms name d).getD b) x) := by
  show overwrite fields ms ((Field.field name p d set).overwrite ms x) = _
  congr 1
  show (match (ms.lookup name).map fun n => (d n).map set with
    | some (.ok set) => set x
    | _ => x) = _
  unfold given
  cases ms.lookup name with
  | none => exact found.symm
  | some n =>
      show (match some ((d n).map set) with
        | some (.ok set) => set x
        | _ => x) = set ((d n).toOption.getD b) x
      cases d n with
      | error _ => exact found.symm
      | ok _ => rfl

theorem lookup_of_not_mem (absent : f.name ∉ ms.map Prod.fst) : ms.lookup f.name = none := by
  rw [List.lookup_eq_none_iff]
  intro m hm
  exact bne_iff_ne.mpr fun same => absent (List.mem_map.mpr ⟨m, hm, same.symm⟩)

/-- A field that commutes with others may be set before them. -/
theorem overwrite_comm {set : σ → σ} {n : Node} (read : f.read n = .ok set)
    (commute : ∀ g ∈ fields, g.Commutes f) :
    overwrite fields ms (set x) = set (overwrite fields ms x) := by
  induction fields generalizing x with
  | nil => rfl
  | cons g fields ih =>
      have step : g.overwrite ms (set x) = set (g.overwrite ms x) := by
        unfold Field.overwrite
        split
        · next s found =>
          obtain ⟨m, -, reads⟩ := Option.map_eq_some_iff.mp found
          exact commute g List.mem_cons_self m n s set reads read x
        · rfl
      show overwrite fields ms (g.overwrite ms (set x)) = _
      rw [step]
      exact ih fun h hh => commute h (List.mem_cons_of_mem g hh)

/-- A member that nobody knows changes nothing. -/
theorem overwrite_unknown {k : String} {n : Node} (unknown : ∀ f ∈ fields, f.name ≠ k) :
    overwrite fields ((k, n) :: ms) x = overwrite fields ms x :=
  overwrite_congr fun f hf => by rw [List.lookup_cons, beq_false_of_ne (unknown f hf)]

/-- A member that comes first may be set first, if it does not come again. -/
theorem overwrite_known (orderless : Orderless fields) (known : f ∈ fields) {n : Node}
    {set : σ → σ} (read : f.read n = .ok set) (once : f.name ∉ ms.map Prod.fst) :
    overwrite fields ((f.name, n) :: ms) x = overwrite fields ms (set x) := by
  obtain ⟨before, after, rfl⟩ := List.append_of_mem known
  have commute : ∀ g ∈ before, g.Commutes f := fun g hg =>
    (List.pairwise_append.mp orderless.commute).2.2 g hg f List.mem_cons_self
  have names := orderless.names
  rw [List.map_append, List.map_cons, List.nodup_append] at names
  have first : ∀ g ∈ before, g.name ≠ f.name := fun g hg =>
    names.2.2 g.name (List.mem_map_of_mem hg) f.name List.mem_cons_self
  have last : ∀ g ∈ after, g.name ≠ f.name := fun g hg same =>
    (List.nodup_cons.mp names.2.1).1 (same ▸ List.mem_map_of_mem hg)
  have put (y : σ) : f.overwrite ((f.name, n) :: ms) y = set y := by
    rw [Field.overwrite, List.lookup_cons_self, Option.map_some, read]
  have skip (y : σ) : f.overwrite ms y = y := by
    rw [Field.overwrite, lookup_of_not_mem once, Option.map_none]
  calc overwrite (before ++ f :: after) ((f.name, n) :: ms) x
      = overwrite after ((f.name, n) :: ms)
          (f.overwrite ((f.name, n) :: ms) (overwrite before ((f.name, n) :: ms) x)) :=
        overwrite_append before (f :: after)
    _ = overwrite after ms (set (overwrite before ms x)) := by
        rw [overwrite_unknown last, put, overwrite_unknown first]
    _ = overwrite after ms (f.overwrite ms (overwrite before ms (set x))) := by
        rw [overwrite_comm read commute, skip]
    _ = overwrite (before ++ f :: after) ms (set x) := (overwrite_append before (f :: after)).symm

end Overwriting

/-! ## Decoding -/

/-- Every known field occurs at most once, and what is given for it can be read. -/
structure Proper (fields : List (Field σ)) (ms : Members) : Prop where
  once : ∀ f ∈ fields, (ms.map Prod.fst).count f.name ≤ 1
  readable : ∀ f ∈ fields, ∀ n, (f.name, n) ∈ ms → ∃ set, f.read n = .ok set

theorem Field.exists_of_isOk {f : Field σ} {n : Node} (h : (f.read n).isOk = true) :
    ∃ set, f.read n = .ok set := by
  cases read : f.read n with
  | error _ =>
      rw [read] at h
      cases h
  | ok set => exact ⟨set, rfl⟩

/-- Some known field comes again. -/
def Repeats (fields : List (Field σ)) (ms : Members) : Prop :=
  ∃ f ∈ fields, 1 < (ms.map Prod.fst).count f.name

theorem Repeats.improper {fields : List (Field σ)} {ms : Members} (h : Repeats fields ms) :
    ¬ Proper fields ms := by
  obtain ⟨f, hf, again⟩ := h
  exact fun proper => Nat.not_lt.mpr (proper.once f hf) again

/-- The members are proper, and those seen before do not come again. -/
structure ProperAfter (fields : List (Field σ)) (seen : List String) (ms : Members) : Prop where
  proper : Proper fields ms
  fresh : ∀ f ∈ fields, f.name ∈ seen → f.name ∉ ms.map Prod.fst

section Decoding

variable {f : Field σ} {fields : List (Field σ)} {ms : Members} {seen : List String} {k : String}
  {n : Node}

theorem properAfter_unknown (unknown : ∀ f ∈ fields, f.name ≠ k) :
    ProperAfter fields seen ((k, n) :: ms) ↔ ProperAfter fields seen ms := by
  have count (f : Field σ) (hf : f ∈ fields) :
      (((k, n) :: ms).map Prod.fst).count f.name = (ms.map Prod.fst).count f.name :=
    List.count_cons_of_ne (unknown f hf).symm
  constructor
  · rintro ⟨⟨once, readable⟩, fresh⟩
    exact ⟨⟨fun f hf => count f hf ▸ once f hf,
      fun f hf m hm => readable f hf m (List.mem_cons_of_mem _ hm)⟩,
      fun f hf hs hm => fresh f hf hs (List.mem_cons_of_mem _ hm)⟩
  · rintro ⟨⟨once, readable⟩, fresh⟩
    refine ⟨⟨fun f hf => (count f hf).symm ▸ once f hf, fun f hf m hm => ?_⟩, fun f hf hs hm => ?_⟩
    · rcases List.mem_cons.mp hm with same | hm
      · exact absurd (congrArg Prod.fst same) (unknown f hf)
      · exact readable f hf m hm
    · rcases List.mem_cons.mp hm with same | hm
      · exact unknown f hf same
      · exact fresh f hf hs hm

theorem properAfter_known (names : (fields.map Field.name).Nodup) (known : f ∈ fields) :
    ProperAfter fields seen ((f.name, n) :: ms) ↔
      f.name ∉ seen ∧ (∃ set, f.read n = .ok set) ∧ ProperAfter fields (f.name :: seen) ms := by
  have only (g : Field σ) (hg : g ∈ fields) (same : g.name = f.name) : g = f :=
    List.inj_on_of_nodup_map names hg known same
  constructor
  · rintro ⟨⟨once, readable⟩, fresh⟩
    have absent : f.name ∉ ms.map Prod.fst := by
      have count := once f known
      rw [List.map_cons, List.count_cons_self] at count
      exact List.count_eq_zero.mp (by omega)
    refine ⟨fun hs => fresh f known hs List.mem_cons_self,
      readable f known n List.mem_cons_self, ⟨fun g hg => ?_, fun g hg m hm => ?_⟩,
      fun g hg hs hm => ?_⟩
    · exact (List.count_le_count_cons).trans (once g hg)
    · exact readable g hg m (List.mem_cons_of_mem _ hm)
    · rcases List.mem_cons.mp hs with same | hs
      · exact absent (same ▸ hm)
      · exact fresh g hg hs (List.mem_cons_of_mem _ hm)
  · rintro ⟨unseen, read, ⟨once, readable⟩, fresh⟩
    have absent : f.name ∉ ms.map Prod.fst := fresh f known List.mem_cons_self
    refine ⟨⟨fun g hg => ?_, fun g hg m hm => ?_⟩, fun g hg hs hm => ?_⟩
    · rw [List.map_cons]
      by_cases same : g.name = f.name
      · rw [same, List.count_cons_self, List.count_eq_zero.mpr absent]
      · rw [List.count_cons_of_ne (Ne.symm same)]
        exact once g hg
    · rcases List.mem_cons.mp hm with same | hm
      · obtain ⟨name, rfl⟩ := Prod.mk.inj same
        exact only g hg name ▸ read
      · exact readable g hg m hm
    · rcases List.mem_cons.mp hm with same | hm
      · exact unseen ((show g.name = f.name from same) ▸ hs)
      · exact fresh g hg (List.mem_cons_of_mem _ hs) hm

variable {x : σ}

theorem members_unknown (unknown : fields.find? (fun f => f.name == k) = none)
    (passes : n.passes = .ok ()) :
    members fields (keyed ((k, n) :: ms)) seen x = members fields (keyed ms) seen x := by
  simp [keyed, members, unknown, passes, bind, Except.bind]

theorem members_again (known : fields.find? (fun f => f.name == k) = some f) (again : k ∈ seen) :
    members fields (keyed ((k, n) :: ms)) seen x = .error .mismatch := by
  simp [keyed, members, known, again, bind, Except.bind]

theorem members_unreadable (known : fields.find? (fun f => f.name == k) = some f)
    (first : k ∉ seen) {fault : Fault} (read : f.read n = .error fault) :
    members fields (keyed ((k, n) :: ms)) seen x = .error fault := by
  simp [keyed, members, known, first, read, bind, Except.bind]

theorem members_known (known : fields.find? (fun f => f.name == k) = some f) (first : k ∉ seen)
    {set : σ → σ} (read : f.read n = .ok set) :
    members fields (keyed ((k, n) :: ms)) seen x =
      members fields (keyed ms) (k :: seen) (set x) := by
  simp [keyed, members, known, first, read, bind, Except.bind]

/-- Proper members are decoded to what they overwrite, and others are not decoded. -/
theorem members_keyed (orderless : Orderless fields) (passes : ∀ m ∈ ms, m.2.passes = .ok ())
    (seen : List String) (x : σ) :
    let decoded := members fields (keyed ms) seen x
    (ProperAfter fields seen ms → ∃ seen', decoded = .ok (seen', overwrite fields ms x)) ∧
      (¬ ProperAfter fields seen ms → ∃ fault, decoded = .error fault) := by
  induction ms generalizing seen x with
  | nil =>
      have proper : ProperAfter fields seen [] :=
        ⟨⟨fun _ _ => Nat.zero_le _, fun _ _ _ hm => absurd hm List.not_mem_nil⟩,
          fun _ _ _ => List.not_mem_nil⟩
      have kept : overwrite fields [] x = x := List.foldl_fixed' (fun _ => rfl) fields
      exact ⟨fun _ => ⟨seen, by rw [kept]; rfl⟩, fun improper => absurd proper improper⟩
  | cons m ms ih =>
      obtain ⟨k, n⟩ := m
      obtain ⟨own, others⟩ := List.forall_mem_cons.mp passes
      dsimp only
      cases found : fields.find? fun f => f.name == k with
      | none =>
          have unknown : ∀ f ∈ fields, f.name ≠ k := by
            simpa using List.find?_eq_none.mp found
          rw [members_unknown found own, properAfter_unknown unknown, overwrite_unknown unknown]
          exact ih others seen x
      | some f =>
          have known : f ∈ fields := List.mem_of_find?_eq_some found
          obtain rfl : f.name = k := by simpa using List.find?_some found
          rw [properAfter_known orderless.names known]
          by_cases again : f.name ∈ seen
          · exact ⟨fun h => absurd again h.1, fun _ => ⟨_, members_again found again⟩⟩
          · cases read : f.read n with
            | error fault =>
                refine ⟨?_, fun _ => ⟨fault, members_unreadable found again read⟩⟩
                rintro ⟨-, ⟨_, none⟩, -⟩
                cases none
            | ok set =>
                obtain ⟨proper, improper⟩ := ih others (f.name :: seen) (set x)
                rw [members_known found again read]
                refine ⟨?_, fun h => improper fun after => h ⟨again, ⟨set, rfl⟩, after⟩⟩
                rintro ⟨-, -, after⟩
                rw [overwrite_known orderless known read (after.fresh f known List.mem_cons_self)]
                exact proper after

/-- A record is decoded exactly if it is proper, and then to what its members overwrite. -/
theorem record_object (orderless : Orderless fields) (passes : ∀ m ∈ ms, m.2.passes = .ok ())
    (start : σ) :
    (Proper fields ms → record fields start (.object ms) = .ok (overwrite fields ms start)) ∧
      (¬ Proper fields ms → ∃ fault, record fields start (.object ms) = .error fault) := by
  obtain ⟨proper, improper⟩ := members_keyed orderless passes [] start
  have unseen : ProperAfter fields [] ms ↔ Proper fields ms :=
    ⟨ProperAfter.proper, fun h => ⟨h, fun _ _ hs => absurd hs List.not_mem_nil⟩⟩
  rw [unseen] at proper improper
  refine ⟨fun h => ?_, fun h => ?_⟩
  · obtain ⟨seen, decoded⟩ := proper h
    have complete : complete fields seen = true := by
      refine List.all_eq_true.mpr fun f hf => ?_
      simp [orderless.optional f hf]
    simp [record, Node.object, Node.members, decoded, complete, bind, Except.bind]
  · obtain ⟨fault, decoded⟩ := improper h
    exact ⟨fault, by simp [record, Node.object, Node.members, decoded, bind, Except.bind]⟩

end Decoding

end NavArbiter.Json.Decode
