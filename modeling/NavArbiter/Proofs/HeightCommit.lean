/-
# Height resets are all or nothing

A timeout of height gets one answer in a call, and the core is asked for one reset at most.  The
source in use, two fault marks and the clock of height wait for its consent:

    answer    asked for    core          clock of height    fault marks              source in use
    none      nothing      as it was     as it was          as they were             as it was
    denied    nothing      as it was     as it was          as they were             as it was
    failed    one reset    refuses       as it was          as they were             as it was
    reset     one reset    consents      now                left: set, taken: clear  the one taken

The preferred source is selected afterwards in the same call and may overrule the last column; that
is announced by an event of its own.

A denial rests on the histories and on the settings, and on nothing that the call writes.  So a call
that was denied and is made again finds nothing left to do (`Height.Spent`): it is denied again and
leaves everything as it found it.
-/
import NavArbiter.Proofs.Demotion
import NavArbiter.Proofs.HeightChoice

namespace NavArbiter

variable {α : Type}

/-- The event answers a timeout of height. -/
def Event.answersTimeout : Event α → Bool
  | .heightReset _ _ => true
  | .heightResetDenied _ => true
  | .heightResetFailed _ _ => true
  | _ => false

/-! ## Marks and clock -/

namespace Health

/-- The clock of height and every fault mark are as they were. -/
structure HeightKept (h h' : Health) : Prop where
  clock : h'.lastHeight = h.lastHeight
  marks : ∀ k, h'.isFaulty k = h.isFaulty k

/-- Height was reset from one source to another. -/
structure HeightMoved (source target : HeightSource) (now : Time) (h h' : Health) : Prop where
  clock : h'.lastHeight = some now
  taken : h'.isFaulty target.sensor = false
  left : h'.isFaulty source.sensor = true ↔ target ≠ source
  others : ∀ k, k ≠ source.sensor → k ≠ target.sensor → h'.isFaulty k = h.isFaulty k

theorem heightMoved_after (source target : HeightSource) (now : Time) (h : Health) :
    HeightMoved source target now h (Height.healthAfterReset h source target now) where
  clock := rfl
  taken := by rw [isFaulty_healthAfterReset, if_pos rfl]
  left := by
    rw [isFaulty_healthAfterReset, if_pos rfl]
    by_cases same : source = target
    · simp [same]
    · simp [same, Ne.symm same]
  others k hs ht := by
    let marked := if target = source then h else h.setFaulty source.sensor true
    have first : marked.isFaulty k = h.isFaulty k := by
      by_cases same : target = source
      · rw [show marked = h from if_pos same]
      · rw [show marked = h.setFaulty source.sensor true from if_neg same, isFaulty_setFaulty,
          if_neg hs.symm]
    show (marked.setFaulty target.sensor false).isFaulty k = h.isFaulty k
    rw [isFaulty_setFaulty, if_neg ht.symm, first]

/-- Only the marks from before matter. -/
theorem HeightMoved.of_marks {source target : HeightSource} {now : Time} {g h h' : Health}
    (m : HeightMoved source target now h h') (marks : ∀ k, h.isFaulty k = g.isFaulty k) :
    HeightMoved source target now g h' :=
  { m with others := fun k hs ht => (m.others k hs ht).trans (marks k) }

end Health

/-! ## The call -/

variable {C : Type}

/-- Height comes from this source, unless the preferred one was selected. -/
def Outcome.HeightFrom (o : Outcome α C) (k : HeightSource) : Prop :=
  (∀ l, .heightSourceSelected l ∉ o.events) → o.standing.status.height = k

variable [Scalar α] [Estimator α C]

/-- What a call of the height controller did about a timeout, by its answer. -/
inductive Height.Answer (x : Context α) (s : Standing α) (c : C) (o : Outcome α C) :
    List (Event α) → Prop
  | none : o.requests = [] → o.core = c → s.health.HeightKept o.standing.health →
      o.HeightFrom s.status.height → Answer x s c o []
  | denied : o.requests = [] → o.core = c → s.health.HeightKept o.standing.health →
      o.HeightFrom s.status.height → Answer x s c o [.heightResetDenied x.before.height]
  | failed (target : HeightSource) : o.requests = [.height target false] →
      Estimator.resetHeight c target x.histories = (false, o.core) →
      s.health.HeightKept o.standing.health → o.HeightFrom s.status.height →
      Answer x s c o [.heightResetFailed x.before.height target]
  | reset (target : HeightSource) : o.requests = [.height target true] →
      Estimator.resetHeight c target x.histories = (true, o.core) →
      s.health.HeightMoved x.before.height target x.clock.now o.standing.health →
      o.HeightFrom target → Answer x s c o [.heightReset x.before.height target]

section Call

variable (x : Context α) (s : Standing α) (c : C)

theorem noted_status : (Height.noted x s c).status = s.status := by
  unfold Height.noted Height.watchInertial
  split <;> rfl

theorem noted_kept : s.health.HeightKept (Height.noted x s c).health :=
  ⟨noted_lastHeight x s c, noted_isFaulty x s c⟩

/-! ### The preferred source -/

/-- Another source than the preferred one is in use, and nothing speaks against a change. -/
def Height.WantsPreferred : Prop :=
  s.status.height ≠ x.settings.preferredHeight ∧
    sound x s x.settings.preferredHeight = true ∧
    presentAtHorizon x x.settings.preferredHeight = true

omit [Scalar α] [Estimator α C] in
theorem selectPreferred_of_wants (h : Height.WantsPreferred x s) :
    Height.selectPreferred x s c =
      ⟨s.mapStatus fun t => { t with height := x.settings.preferredHeight }, c,
        [.heightSourceSelected x.settings.preferredHeight], []⟩ :=
  if_pos h

omit [Scalar α] [Estimator α C] in
theorem selectPreferred_of_not_wants (h : ¬ Height.WantsPreferred x s) :
    Height.selectPreferred x s c = .unchanged s c :=
  if_neg h

theorem watched_answers : ∀ e ∈ (Height.watched x s c : Outcome α C).events,
    e.answersTimeout = true := by
  rcases watchTimeout_events x (Height.noted x s c) c with
    h | ⟨e, h, rfl | ⟨target, rfl | rfl⟩⟩ <;> intro e' he <;>
    rw [Height.watched, h] at he
  · exact absurd he List.not_mem_nil
  all_goals rw [List.mem_singleton.mp he]; rfl

/-- The answers of a call are what the watch over timeouts announces. -/
theorem answers_eq : (Height.control x s c).events.filter Event.answersTimeout =
    (Height.watched x s c : Outcome α C).events := by
  have inertial : (Height.watchInertial x s c).events.filter Event.answersTimeout = [] := by
    rcases watchInertial_events x s c with h | h <;> rw [h] <;> rfl
  have preferred (s : Standing α) (c : C) :
      (Height.selectPreferred x s c).events.filter Event.answersTimeout = [] := by
    rcases selectPreferred_events x s c with h | h <;> rw [h] <;> rfl
  rw [height_eq, List.filter_append, List.filter_append, inertial, preferred,
    List.filter_eq_self.mpr (watched_answers x s c), List.nil_append, List.append_nil]

theorem selected_iff (l : HeightSource) :
    .heightSourceSelected l ∈ (Height.control x s c).events ↔
      l = x.settings.preferredHeight ∧
        Height.WantsPreferred x (Height.watched x s c : Outcome α C).standing := by
  let w : Outcome α C := Height.watched x s c
  have inertial : .heightSourceSelected l ∉ (Height.watchInertial x s c).events := by
    rcases watchInertial_events x s c with h | h <;> simp [h]
  have timeout : .heightSourceSelected l ∉ w.events := fun h => by
    cases watched_answers x s c _ h
  rw [height_eq, List.mem_append, List.mem_append, or_iff_right (not_or.mpr ⟨inertial, timeout⟩)]
  by_cases wants : Height.WantsPreferred x w.standing
  · rw [selectPreferred_of_wants x _ _ wants, List.mem_singleton, Event.heightSourceSelected.injEq]
    exact (and_iff_left wants).symm
  · rw [selectPreferred_of_not_wants x _ _ wants]
    exact iff_of_false List.not_mem_nil fun h => wants h.2

/-- The source in use is the preferred one if that was selected, and else the one that the watch
over timeouts left. -/
theorem height_status : let w : Outcome α C := Height.watched x s c
    let o := Height.control x s c
    (∀ l, .heightSourceSelected l ∈ o.events → o.standing.status.height = l) ∧
      o.HeightFrom w.standing.status.height := by
  intro w o
  have left : o.standing.status.height =
      (Height.selectPreferred x w.standing w.core).standing.status.height := by
    show (Height.control x s c).standing.status.height = _
    rw [height_eq]
    exact congrArg Status.height (noteGround_frame x _ w.core).2.1
  by_cases wants : Height.WantsPreferred x w.standing
  · refine ⟨fun l hl => ?_, fun unselected => ?_⟩
    · rw [left, selectPreferred_of_wants x _ _ wants, ((selected_iff x s c l).mp hl).1]
      rfl
    · exact absurd ((selected_iff x s c _).mpr ⟨rfl, wants⟩) (unselected _)
  · refine ⟨fun l hl => absurd ((selected_iff x s c l).mp hl).2 wants, fun _ => ?_⟩
    rw [left, selectPreferred_of_not_wants x _ _ wants]
    rfl

/-! ### Answers -/

omit [Scalar α] in
/-- A reset is kept exactly if the core consents. -/
theorem resetTo_cases (target : HeightSource) :
    (∃ c', Estimator.resetHeight c target x.histories = (false, c') ∧
      Height.resetTo x target s c =
        ⟨s, c', [.heightResetFailed x.before.height target], [.height target false]⟩) ∨
    ∃ c', Estimator.resetHeight c target x.histories = (true, c') ∧
      Height.resetTo x target s c =
        ⟨(s.mapStatus fun t => { t with height := target }).mapHealth fun h =>
          Height.healthAfterReset h x.before.height target x.clock.now, c',
          [.heightReset x.before.height target], [.height target true]⟩ := by
  unfold Height.resetTo Estimator.askHeight
  rcases answer : Estimator.resetHeight c target x.histories with ⟨granted, c'⟩
  cases granted with
  | false => exact Or.inl ⟨c', rfl, rfl⟩
  | true => exact Or.inr ⟨c', rfl, rfl⟩

theorem watched_of_due (due : Height.Due x s c) : (Height.watched x s c : Outcome α C) =
    match Height.choice x s c with
    | none => ⟨Height.noted x s c, c, [.heightResetDenied x.before.height], []⟩
    | some target => Height.resetTo x target (Height.noted x s c) c := by
  unfold Height.watched Height.watchTimeout
  rw [if_pos (timedOut_iff.mpr ((due_noted_iff x s c).mpr due))]
  rfl

theorem watched_of_not_due (due : ¬ Height.Due x s c) :
    (Height.watched x s c : Outcome α C) = .unchanged (Height.noted x s c) c :=
  watchTimeout_of_not_due (mt (due_noted_iff x s c).mp due)

/-- Every call gives one answer, or none, and does what that answer stands for. -/
theorem height_answer : let o := Height.control x s c
    Height.Answer x s c o (o.events.filter Event.answersTimeout) := by
  intro o
  have events : o.events.filter Event.answersTimeout = _ := answers_eq x s c
  obtain ⟨requests, core, health⟩ := height_left x s c
  change o.requests = (Height.watched x s c).requests at requests
  change o.core = (Height.watched x s c).core at core
  change o.standing.health = (Height.watched x s c).standing.health at health
  have supplied : o.HeightFrom _ := (height_status x s c).2
  have kept := noted_kept x s c
  rw [events]
  by_cases due : Height.Due x s c
  · rw [watched_of_due x s c due] at requests core health supplied ⊢
    cases chosen : Height.choice x s c with
    | none =>
        rw [chosen] at requests core health supplied
        rw [noted_status] at supplied
        exact .denied requests core (health ▸ kept) supplied
    | some target =>
        rw [chosen] at requests core health supplied
        rcases resetTo_cases x (Height.noted x s c) c target with
          ⟨c', answer, reset⟩ | ⟨c', answer, reset⟩ <;>
          dsimp only at requests core health supplied ⊢ <;>
          rw [reset] at requests core health supplied ⊢
        · rw [noted_status] at supplied
          exact .failed target requests (core ▸ answer) (health ▸ kept) supplied
        · have moved := Health.heightMoved_after x.before.height target x.clock.now
            (Height.noted x s c).health
          exact .reset target requests (core ▸ answer) (health ▸ moved.of_marks kept.marks) supplied
  · rw [watched_of_not_due x s c due] at requests core health supplied ⊢
    rw [Outcome.unchanged, noted_status] at supplied
    exact .none requests core (health ▸ kept) supplied

/-! ### Denials -/

/-- A call that is denied and has nothing else to do. -/
structure Height.Spent : Prop where
  noted : noted x s c = s
  due : Due x s c
  refused : choice x s c = none
  unwanted : ¬ WantsPreferred x s
  ground : (noteGround x s c).standing = s

variable {x s c}

theorem Height.Spent.watched (h : Height.Spent x s c) : (Height.watched x s c : Outcome α C) =
    ⟨s, c, [.heightResetDenied x.before.height], []⟩ := by
  rw [watched_of_due x s c h.due, h.refused, h.noted]

theorem Height.Spent.again (h : Height.Spent x s c) : Height.control x s c =
    ⟨s, c, (Height.watchInertial x s c).events ++ [.heightResetDenied x.before.height], []⟩ := by
  rw [height_eq, h.watched, selectPreferred_of_not_wants x s c h.unwanted]
  simp only [Outcome.unchanged, List.append_nil, h.ground]

theorem due_of_answer {e : Event α} (announced : e ∈ (Height.control x s c).events)
    (answer : e.answersTimeout = true) : Height.Due x s c := by
  by_contra due
  have kept := List.mem_filter.mpr ⟨announced, answer⟩
  rw [answers_eq, watched_of_not_due x s c due] at kept
  exact List.not_mem_nil kept

/-- The choice fails on the histories and the settings alone. -/
theorem choice_eq_none_congr (s' : Standing α) :
    Height.choice x s c = none ↔ Height.choice x s' c = none := by
  unfold Height.choice
  rw [choose_eq_none_iff, choose_eq_none_iff]
  simp only [fresh_facts_iff]
  exact Iff.rfl

/-- A suspicion that was noted is not noted anew. -/
theorem noted_again {s' : Standing α} (same : s'.health = (Height.noted x s c).health) :
    Height.noted x s' c = s' := by
  unfold Height.noted Height.watchInertial at *
  split
  · next suspected =>
    rw [if_pos suspected] at same
    have noted : s'.health.lastInertialFault = some x.clock.now := by rw [same]; rfl
    dsimp only
    rw [← noted]
    rfl
  · rfl

omit [Scalar α] in
theorem noteGround_again : Height.noteGround x (Height.noteGround x s c).standing c =
    .unchanged (Height.noteGround x s c).standing c := by
  unfold Height.noteGround
  split <;> rfl

omit [Scalar α] [Estimator α C] in
/-- Once selected, or not wanted, the preferred source is not wanted again. -/
theorem not_wantsPreferred {s' : Standing α}
    (status : s'.status = (Height.selectPreferred x s c).standing.status)
    (health : s'.health = s.health) : ¬ Height.WantsPreferred x s' := by
  by_cases wants : Height.WantsPreferred x s
  · rw [selectPreferred_of_wants x s c wants] at status
    exact fun h => h.1 (congrArg Status.height status)
  · rw [selectPreferred_of_not_wants x s c wants] at status
    unfold Height.WantsPreferred Height.sound at *
    rw [status, health]
    exact wants

/-- After a denial there is nothing left to do. -/
theorem spent_of_denied
    (denied : .heightResetDenied x.before.height ∈ (Height.control x s c).events) :
    (Height.control x s c).core = c ∧ Height.Spent x (Height.control x s c).standing c := by
  have due := due_of_answer denied rfl
  have refused := (denied_iff due).mp denied
  have left := height_eq x s c
  rw [watched_of_due x s c due, refused] at left
  rw [left]
  have health : (Height.noteGround x (Height.selectPreferred x (Height.noted x s c) c).standing
      c).standing.health = (Height.noted x s c).health := by
    rw [(noteGround_frame x _ _).2.2, (selectPreferred_frame x _ _).2.2]
  refine ⟨rfl, noted_again health, ?_, (choice_eq_none_congr _).mp refused,
    not_wantsPreferred (noteGround_frame x _ c).2.1 health, by rw [noteGround_again]; rfl⟩
  unfold Height.Due
  rw [health]
  exact (due_noted_iff x s c).mpr due

end Call

/-! ## All or nothing -/

/-- In every call of the height controller, whatever the context, the standing and the core: the
answer is one of four and nothing but what it stands for was asked for, granted and kept; the only
other source that comes into use is the preferred one, which is announced; and if the answer was a
denial, the same call made again is denied again and changes nothing at all. -/
theorem height_all_or_nothing (x : Context α) (s : Standing α) (c : C) :
    let o := Height.control x s c
    Height.Answer x s c o (o.events.filter Event.answersTimeout) ∧
    (∀ l, .heightSourceSelected l ∈ o.events →
      l = x.settings.preferredHeight ∧ o.standing.status.height = l) ∧
    (.heightResetDenied x.before.height ∈ o.events →
      let again := Height.control x o.standing o.core
      again.events.filter Event.answersTimeout = [.heightResetDenied x.before.height] ∧
        again.requests = [] ∧ again.core = o.core ∧ again.standing = o.standing ∧
        ∀ l, .heightSourceSelected l ∉ again.events) := by
  intro o
  refine ⟨height_answer x s c, fun l hl => ?_, fun denied => ?_⟩
  · exact ⟨((selected_iff x s c l).mp hl).1, (height_status x s c).1 l hl⟩
  · obtain ⟨core, spent⟩ := spent_of_denied denied
    rw [show o.core = c from core]
    refine ⟨by rw [answers_eq, spent.watched], by rw [spent.again], by rw [spent.again],
      by rw [spent.again], fun l selected => ?_⟩
    have wanted := ((selected_iff x o.standing c l).mp selected).2
    rw [spent.watched] at wanted
    exact spent.unwanted wanted

/-- Barometer and fixes have grown too old for a reset and are present at the horizon all the same,
where they make the accelerometers suspect; vision is preferred.  The call is denied, notes the
suspicion and selects vision; made again, it is only denied. -/
theorem height_all_or_nothing_stale :
    let baro := historyOf [⟨1550000, 0.0⟩]
    let vision := historyOf [⟨1850000, .zero, .identity, 0.1, 0.1⟩]
    let x : Context Float := ⟨⟨2000000, 1900000⟩, preferring .vision .auto,
      { noSamples with baro, vision, gps := fixesAt [950000] },
      { Status.initial with yawAligned := true }⟩
    let suspect (f : GatedFilter Float) (k : Component) := f.setInnovation k ⟨1.0, 2.0⟩
    let core : GatedFilter Float := suspect
      (suspect (Estimator.setVariance GatedFilter.levelled .posDown 30.0) .velDown) .posDown
    let o := Height.control x .initial core
    let again := Height.control x o.standing o.core
    .inertialFaultSuspected ∈ o.events ∧ .heightResetDenied .baro ∈ o.events ∧
      .heightSourceSelected .vision ∈ o.events ∧ o.standing.status.height = .vision ∧
      again.events.filter Event.answersTimeout = [.heightResetDenied .baro] ∧
      again.standing = o.standing ∧ ∀ l, .heightSourceSelected l ∉ again.events := by
  intro baro vision x suspect core o again
  have due : Height.Due x .initial core := ⟨by decide +kernel, by decide +kernel⟩
  have suspected : .inertialFaultSuspected ∈ o.events := by
    refine Event.mem_of_name _ (fun e he => ?_) (by decide +kernel)
    cases e <;> simp_all [Event.name]
  have denied : .heightResetDenied .baro ∈ o.events :=
    (denied_iff (x := x) due).mpr (by decide +kernel)
  have selected : .heightSourceSelected .vision ∈ o.events :=
    (selected_iff x .initial core .vision).mpr
      ⟨rfl, by decide +kernel, by decide +kernel, by decide +kernel⟩
  obtain ⟨-, preferred, repeated⟩ := height_all_or_nothing x .initial core
  obtain ⟨answer, -, -, standing, unselected⟩ := repeated denied
  exact ⟨suspected, denied, selected, (preferred .vision selected).2, answer, standing, unselected⟩

end NavArbiter
