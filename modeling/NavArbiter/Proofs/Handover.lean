/-
# The hand-over of samples

A driver pushes samples into an inbox, now and then the inbox is drained into a history, and both
are bounded, each by a capacity of its own.  The inbox is a queue, so samples leave it in the order
in which they came:

    pushed  =  left  ++  waiting

Whatever the steps, the samples that have left are the first ones pushed, those that wait are the
others (`queue_run`).  A sample leaves in one of two ways.  A push that finds the inbox full
overwrites it, and then it is the oldest one waiting; or a drain moves it, and then all of those
that wait move with it.  The history keeps the last of the moved ones, as many as fit
(`samples_run`).

That a drain takes the samples one at a time until none is left, and counts them, comes to what the
definitions say of the whole queue (`Inbox.emptyInto_eq`).
-/
import NavArbiter.Inbox

namespace NavArbiter

variable {β : Type}

/-! ## The last elements of a list -/

theorem length_lastUpTo (n : Nat) (xs : List β) : (lastUpTo n xs).length = min n xs.length := by
  rw [lastUpTo, List.length_drop]
  omega

/-- What is dropped early would be dropped later. -/
theorem lastUpTo_lastUpTo_append (n : Nat) (xs ys : List β) :
    lastUpTo n (lastUpTo n xs ++ ys) = lastUpTo n (xs ++ ys) := by
  simp only [lastUpTo, List.drop_append, List.drop_drop, List.length_append, List.length_drop]
  congr 2 <;> omega

theorem lastUpTo_of_length_le {n : Nat} {xs : List β} (h : xs.length ≤ n) :
    lastUpTo n xs = xs := by
  rw [lastUpTo, Nat.sub_eq_zero_of_le h, List.drop_zero]

namespace History

@[simp] theorem capacity_pushAll (b : History β) (xs : List β) :
    (b.pushAll xs).capacity = b.capacity := by
  induction xs generalizing b with
  | nil => rfl
  | cons x xs ih => exact ih (b.push x)

/-- Pushes append to the view and keep its last elements. -/
theorem samples_pushAll (b : History β) (xs : List β) :
    (b.pushAll xs).samples = lastUpTo b.capacity (b.samples ++ xs) := by
  induction xs generalizing b with
  | nil => rw [List.append_nil, lastUpTo_of_length_le b.fits]; rfl
  | cons x xs ih =>
      have rest : (b.pushAll (x :: xs)).samples =
          lastUpTo b.capacity ((b.push x).samples ++ xs) := ih (b.push x)
      rw [rest, samples_push, lastUpTo_lastUpTo_append, List.append_assoc, List.singleton_append]

end History

/-! ## Draining one sample at a time -/

namespace Inbox

/-- The oldest waiting sample, and the inbox without it. -/
def pop? (b : Inbox β) : Option (β × Inbox β) :=
  match hq : b.queue with
  | [] => none
  | y :: ys => some (y, { b with
      queue := ys
      fits := by
        have hfits := b.fits
        rw [hq] at hfits
        exact Nat.le_of_succ_le hfits })

theorem queue_of_pop? {b rest : Inbox β} {y : β} (h : b.pop? = some (y, rest)) :
    b.queue = y :: rest.queue ∧ rest.capacity = b.capacity := by
  unfold pop? at h
  split at h
  · cases h
  · next hq =>
    cases h
    exact ⟨hq, rfl⟩

theorem queue_of_pop?_none {b : Inbox β} (h : b.pop? = none) : b.queue = [] := by
  unfold pop? at h
  split at h
  · next hq => exact hq
  · cases h

/-- Takes the waiting samples out one at a time, the oldest first, pushes each into a history, and
counts them. -/
def emptyInto (b : Inbox β) (h : History β) (count : Nat) : Inbox β × History β × Nat :=
  match hp : b.pop? with
  | none => (b, h, count)
  | some (y, rest) => rest.emptyInto (h.push y) (count + 1)
termination_by b.queue.length
decreasing_by
  rw [(queue_of_pop? hp).1, List.length_cons]
  exact Nat.lt_succ_self _

theorem eq_drained {b : Inbox β} (h : b.queue = []) : b = b.drained := by
  cases b
  cases h
  rfl

theorem emptyInto_eq (b : Inbox β) (h : History β) (count : Nat) :
    b.emptyInto h count = (b.drained, b.drainInto h, count + b.size) := by
  fun_induction emptyInto b h count with
  | case1 b h count hp =>
      have none_waiting := queue_of_pop?_none hp
      rw [drainInto, size, none_waiting]
      exact congrArg (·, h, count) (eq_drained none_waiting)
  | case2 b h count y rest hp ih =>
      obtain ⟨queue, capacity⟩ := queue_of_pop? hp
      rw [ih, drainInto, drainInto, size, size, queue, List.length_cons]
      have drained : rest.drained = b.drained := by
        simp only [Inbox.drained, capacity]
      rw [drained, Nat.add_right_comm, Nat.add_assoc]
      rfl

end Inbox

/-! ## Hand-overs -/

/-- An inbox with the history that it is drained into. -/
structure Handover (β : Type) where
  inbox : Inbox β
  history : History β

namespace Handover

/-- A step of a hand-over. -/
inductive Step (β : Type) where
  | push (x : β)
  | drain

/-- The sample that a step pushes. -/
def Step.pushed : Step β → List β
  | push x => [x]
  | drain => []

/-- What a step answers: a push, the sample that it overwrote; a drain, how many samples it
moved. -/
inductive Answer (β : Type) where
  | overwrote (x? : Option β)
  | moved (count : Nat)

/-- How a sample leaves an inbox. -/
inductive Exit where
  | overwritten
  | moved
  deriving DecidableEq

/-- Before the first step. -/
def start (inbox history : Nat) (hi : 0 < inbox) (hh : 0 < history) : Handover β :=
  ⟨.empty inbox hi, .empty history hh⟩

/-- The hand-over after a step. -/
def step (p : Handover β) : Step β → Handover β
  | .push x => { p with inbox := p.inbox.push x }
  | .drain => ⟨p.inbox.drained, p.inbox.drainInto p.history⟩

/-- The answer to a step. -/
def answer (p : Handover β) : Step β → Answer β
  | .push _ => .overwrote p.inbox.overwritten?
  | .drain => .moved p.inbox.size

/-- Samples that leave in the same way. -/
def together (e : Exit) (xs : List β) : List (β × Exit) := xs.map fun x => (x, e)

/-- The samples that leave the inbox in a step, in the order in which they do. -/
def leaving (p : Handover β) : Step β → List (β × Exit)
  | .push _ => together .overwritten p.inbox.overwritten?.toList
  | .drain => together .moved p.inbox.queue

/-- The hand-over after steps, in their order. -/
def after (p : Handover β) (steps : List (Step β)) : Handover β := steps.foldl step p

/-- The samples that leave the inbox in the steps, in the order in which they do. -/
def departed (p : Handover β) : List (Step β) → List (β × Exit)
  | [] => []
  | k :: ks => p.leaving k ++ (p.step k).departed ks

/-- Those of the samples that were moved. -/
def moved (gone : List (β × Exit)) : List β :=
  (gone.filter fun d => d.2 = .moved).map Prod.fst

theorem moved_append (gone more : List (β × Exit)) : moved (gone ++ more) =
    moved gone ++ moved more := by
  simp [moved]

theorem map_fst_together (e : Exit) (xs : List β) : (together e xs).map Prod.fst = xs := by
  induction xs with
  | nil => rfl
  | cons x xs ih => exact congrArg (x :: ·) ih

theorem moved_together_overwritten (xs : List β) : moved (together .overwritten xs) = [] := by
  induction xs with
  | nil => rfl
  | cons x xs ih => exact ih

theorem moved_together_moved (xs : List β) : moved (together .moved xs) = xs := by
  induction xs with
  | nil => rfl
  | cons x xs ih => exact congrArg (x :: ·) ih

variable (p : Handover β)

theorem departed_append (ks ls : List (Step β)) :
    p.departed (ks ++ ls) = p.departed ks ++ (p.after ks).departed ls := by
  induction ks generalizing p with
  | nil => rfl
  | cons k ks ih =>
      have rest := ih (p.step k)
      simp only [List.cons_append, departed, rest, List.append_assoc]
      rfl

/-! ## What one step does -/

theorem capacity_step (k : Step β) : (p.step k).inbox.capacity = p.inbox.capacity ∧
    (p.step k).history.capacity = p.history.capacity := by
  cases k with
  | push x => exact ⟨rfl, rfl⟩
  | drain => exact ⟨rfl, History.capacity_pushAll _ _⟩

/-- What waits and what comes is what leaves and what waits then. -/
theorem queue_step (k : Step β) :
    p.inbox.queue ++ k.pushed = (p.leaving k).map Prod.fst ++ (p.step k).inbox.queue := by
  cases k with
  | push x =>
      have first : p.inbox.queue = p.inbox.overwritten?.toList ++
          (if p.inbox.queue.length = p.inbox.capacity then p.inbox.queue.tail
            else p.inbox.queue) := by
        unfold Inbox.overwritten?
        split
        · cases p.inbox.queue <;> rfl
        · rfl
      rw [leaving, map_fst_together]
      exact (congrArg (· ++ [x]) first).trans (List.append_assoc _ _ _)
  | drain =>
      rw [leaving, map_fst_together]
      rfl

theorem samples_step (k : Step β) : (p.step k).history.samples =
    lastUpTo p.history.capacity (p.history.samples ++ moved (p.leaving k)) := by
  cases k with
  | push x =>
      rw [leaving, moved_together_overwritten, List.append_nil,
        lastUpTo_of_length_le p.history.fits]
      rfl
  | drain =>
      rw [leaving, moved_together_moved]
      exact History.samples_pushAll _ _

/-! ## Runs -/

theorem capacity_run (steps : List (Step β)) :
    (p.after steps).inbox.capacity = p.inbox.capacity ∧
      (p.after steps).history.capacity = p.history.capacity := by
  induction steps generalizing p with
  | nil => exact ⟨rfl, rfl⟩
  | cons k ks ih =>
      obtain ⟨inbox, history⟩ := ih (p.step k)
      obtain ⟨inbox', history'⟩ := p.capacity_step k
      exact ⟨inbox.trans inbox', history.trans history'⟩

/-- Samples leave in the order in which they came, whichever way they leave. -/
theorem queue_run (steps : List (Step β)) : p.inbox.queue ++ steps.flatMap Step.pushed =
    (p.departed steps).map Prod.fst ++ (p.after steps).inbox.queue := by
  induction steps generalizing p with
  | nil => exact List.append_nil _
  | cons k ks ih =>
      calc p.inbox.queue ++ (k :: ks).flatMap Step.pushed
          = (p.inbox.queue ++ k.pushed) ++ ks.flatMap Step.pushed := by
            rw [List.flatMap_cons, List.append_assoc]
        _ = (p.leaving k).map Prod.fst ++ ((p.step k).inbox.queue ++ ks.flatMap Step.pushed) := by
            rw [queue_step, List.append_assoc]
        _ = (p.leaving k).map Prod.fst ++ (((p.step k).departed ks).map Prod.fst ++
              ((p.step k).after ks).inbox.queue) := by
            rw [ih]
        _ = (p.departed (k :: ks)).map Prod.fst ++ (p.after (k :: ks)).inbox.queue := by
            rw [departed, List.map_append, List.append_assoc]
            rfl

theorem samples_run (steps : List (Step β)) : (p.after steps).history.samples =
    lastUpTo p.history.capacity (p.history.samples ++ moved (p.departed steps)) := by
  induction steps generalizing p with
  | nil =>
      show p.history.samples = lastUpTo p.history.capacity (p.history.samples ++ [])
      rw [List.append_nil, lastUpTo_of_length_le p.history.fits]
  | cons k ks ih =>
      have rest : (p.after (k :: ks)).history.samples = lastUpTo (p.step k).history.capacity
          ((p.step k).history.samples ++ moved ((p.step k).departed ks)) := ih (p.step k)
      rw [rest, (p.capacity_step k).2, samples_step, lastUpTo_lastUpTo_append, List.append_assoc,
        departed, moved_append]

/-- Whatever the capacities and the steps so far, with `gone` for the samples that left the inbox on
the way: they are the first of those pushed, and the others wait; the history holds the last of the
moved ones, as many as fit.  A push answers with the oldest sample that waits if the inbox is full,
and with none if it is not, and that is all that leaves.  A drain takes out what waits one at a
time, answers with the number of it and leaves nothing behind. -/
theorem samples_conserved (inbox history : Nat) (hi : 0 < inbox) (hh : 0 < history)
    (steps : List (Step β)) :
    let first : Handover β := start inbox history hi hh
    let p := first.after steps
    let gone := first.departed steps
    steps.flatMap Step.pushed = gone.map Prod.fst ++ p.inbox.queue ∧
    p.inbox.queue.length ≤ inbox ∧
    p.history.samples = lastUpTo history (moved gone) ∧
    p.history.samples.length = min history (moved gone).length ∧
    (∀ x, ∃ y?, p.answer (.push x) = .overwrote y? ∧
      y? = (if p.inbox.queue.length = inbox then (steps.flatMap Step.pushed)[gone.length]?
        else none) ∧
      first.departed (steps ++ [.push x]) = gone ++ together .overwritten y?.toList) ∧
    (∃ count, p.answer .drain = .moved count ∧ count = p.inbox.queue.length ∧
      p.inbox.emptyInto p.history 0 = ((p.step .drain).inbox, (p.step .drain).history, count) ∧
      (p.step .drain).inbox.queue = [] ∧
      first.departed (steps ++ [.drain]) = gone ++ together .moved p.inbox.queue) := by
  intro first p gone
  have conserved : steps.flatMap Step.pushed = gone.map Prod.fst ++ p.inbox.queue :=
    first.queue_run steps
  have kept : p.history.samples = lastUpTo history (moved gone) := first.samples_run steps
  have capacity : p.inbox.capacity = inbox := (first.capacity_run steps).1
  have oldest : p.inbox.queue.head? = (steps.flatMap Step.pushed)[gone.length]? := by
    rw [conserved, List.getElem?_append_right (Nat.le_of_eq (List.length_map ..)), List.length_map,
      Nat.sub_self, List.head?_eq_getElem?]
  have next : ∀ k, first.departed (steps ++ [k]) = gone ++ p.leaving k := by
    intro k
    rw [departed_append]
    exact congrArg (gone ++ ·) (List.append_nil _)
  refine ⟨conserved, capacity ▸ p.inbox.fits, kept, ?_, fun x => ?_, ?_⟩
  · rw [kept, length_lastUpTo]
  · refine ⟨_, rfl, ?_, next _⟩
    rw [Inbox.overwritten?, capacity, oldest]
  · refine ⟨_, rfl, rfl, ?_, rfl, next _⟩
    rw [Inbox.emptyInto_eq, Nat.zero_add]
    rfl

/-- Three pushes into an inbox of two overwrite the first sample, and of the four samples that two
drains move the history of three loses the oldest. -/
theorem samples_conserved_overfull :
    let steps : List (Step Nat) := [.push 1, .push 2, .push 3, .drain, .push 4, .push 5, .drain]
    let first : Handover Nat := start 2 3 (by decide) (by decide)
    first.departed steps = [(1, .overwritten), (2, .moved), (3, .moved), (4, .moved), (5, .moved)] ∧
      [1, 2, 3, 4, 5] = (first.departed steps).map Prod.fst ++ (first.after steps).inbox.queue ∧
      (first.after steps).history.samples = lastUpTo 3 (moved (first.departed steps)) ∧
      lastUpTo 3 (moved (first.departed steps)) = [3, 4, 5] := by
  obtain ⟨conserved, -, kept, -⟩ := samples_conserved 2 3 (by decide) (by decide)
    ([.push 1, .push 2, .push 3, .drain, .push 4, .push 5, .drain] : List (Step Nat))
  exact ⟨by decide, conserved, kept, by decide⟩

end Handover

end NavArbiter
