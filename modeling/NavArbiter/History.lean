/-
# Bounded histories

A history keeps the newest samples up to a capacity, in the order in which they were pushed.
Its view is the list `samples`, oldest first.  Pushing onto a full history drops the oldest
sample, so after any pushes the view is the tail end of what was pushed (`samples_push`).

The look-up at a horizon searches from the newest sample backwards for one that is not younger
than the horizon, whatever the order of the times.
-/
import NavArbiter.Time

namespace NavArbiter

/-- The last `n` elements of a list, or all of it if it is shorter. -/
def lastUpTo {β : Type} (n : Nat) (xs : List β) : List β := xs.drop (xs.length - n)

/-- Samples in arrival order, at most `capacity` of them. -/
structure History (β : Type) where
  capacity : Nat
  samples : List β
  /-- There is room for a sample. -/
  capacity_pos : 0 < capacity
  /-- The samples fit. -/
  fits : samples.length ≤ capacity

namespace History

variable {β : Type}

/-- The empty history of a positive capacity. -/
def empty (capacity : Nat) (h : 0 < capacity := by decide) : History β where
  capacity := capacity
  samples := []
  capacity_pos := h
  fits := Nat.zero_le _

/-- The empty history of a capacity, if it is not zero. -/
def ofCapacity? (capacity : Nat) : Option (History β) :=
  if h : 0 < capacity then some (empty capacity h) else none

/-- The history with a sample added; a full history drops its oldest one. -/
def push (b : History β) (x : β) : History β where
  capacity := b.capacity
  samples :=
    (if b.samples.length = b.capacity then b.samples.tail else b.samples) ++ [x]
  capacity_pos := b.capacity_pos
  fits := by
    have hpos := b.capacity_pos
    have hfits := b.fits
    split <;> simp only [List.length_append, List.length_tail, List.length_cons,
      List.length_nil] <;> omega

/-- The history after pushing each element of a list in turn. -/
def pushAll (b : History β) (xs : List β) : History β := xs.foldl push b

/-- The sample pushed last. -/
def newest? (b : History β) : Option β := b.samples.getLast?

/-- The sample kept for longest. -/
def oldest? (b : History β) : Option β := b.samples.head?

/-- The sample at a place, counted from the oldest. -/
def get? (b : History β) (i : Nat) : Option β := b.samples[i]?

/-- The history with the sample at a place replaced, if there is one. -/
def set? (b : History β) (i : Nat) (x : β) : Option (History β) :=
  if i < b.samples.length then
    some { b with
      samples := b.samples.set i x
      fits := by rw [List.length_set]; exact b.fits }
  else none

/-- The history with every sample rewritten. -/
def map (b : History β) (f : β → β) : History β :=
  { b with
    samples := b.samples.map f
    fits := by rw [List.length_map]; exact b.fits }

/-- The history without its samples. -/
def clear (b : History β) : History β := empty b.capacity b.capacity_pos

def size (b : History β) : Nat := b.samples.length

def isEmpty (b : History β) : Bool := b.samples.isEmpty

/-- The last sample taken no later than the horizon. -/
def near? [Timed β] (b : History β) (horizon : Time) : Option β :=
  b.samples.reverse.find? fun x => decide (time x ≤ horizon)

/-- The newest sample is younger than `maxAge`. -/
def isFresh [Timed β] (b : History β) (now : Time) (maxAge : Nat) : Bool :=
  match b.newest? with
  | some x => decide (Time.age now (time x) < maxAge)
  | none => false

@[simp] theorem capacity_push (b : History β) (x : β) : (b.push x).capacity = b.capacity := rfl

/-- A push appends to the view and keeps its last `capacity` elements. -/
theorem samples_push (b : History β) (x : β) :
    (b.push x).samples = lastUpTo b.capacity (b.samples ++ [x]) := by
  have hpos := b.capacity_pos
  have hfits := b.fits
  simp only [push, lastUpTo, List.length_append, List.length_cons, List.length_nil]
  split
  · next h =>
    rw [h, Nat.zero_add, Nat.add_sub_cancel_left]
    cases hs : b.samples with
    | nil => simp [hs] at h; omega
    | cons y ys => rfl
  · next h =>
    have : b.samples.length + (0 + 1) - b.capacity = 0 := by omega
    rw [this, List.drop_zero]

@[simp] theorem samples_map (b : History β) (f : β → β) :
    (b.map f).samples = b.samples.map f := rfl

end History

end NavArbiter
