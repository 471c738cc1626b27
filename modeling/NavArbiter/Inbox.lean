/-
# Inboxes

A driver hands its samples over through an inbox: a queue of bounded length that loses its
oldest sample when a new one finds it full.  Once a cycle the inbox is drained into the
history of its sensor.
-/
import NavArbiter.History

namespace NavArbiter

/-- Samples waiting to be taken over, oldest first. -/
structure Inbox (β : Type) where
  capacity : Nat
  queue : List β
  /-- There is room for a sample. -/
  capacity_pos : 0 < capacity
  /-- The waiting samples fit. -/
  fits : queue.length ≤ capacity

namespace Inbox

variable {β : Type}

/-- The empty inbox of a positive capacity. -/
def empty (capacity : Nat) (h : 0 < capacity := by decide) : Inbox β where
  capacity := capacity
  queue := []
  capacity_pos := h
  fits := Nat.zero_le _

/-- The empty inbox of a capacity, if it is not zero. -/
def ofCapacity? (capacity : Nat) : Option (Inbox β) :=
  if h : 0 < capacity then some (empty capacity h) else none

/-- The sample that a push would overwrite: the oldest one of a full inbox. -/
def overwritten? (b : Inbox β) : Option β :=
  if b.queue.length = b.capacity then b.queue.head? else none

/-- The inbox with a sample queued. -/
def push (b : Inbox β) (x : β) : Inbox β where
  capacity := b.capacity
  queue := (if b.queue.length = b.capacity then b.queue.tail else b.queue) ++ [x]
  capacity_pos := b.capacity_pos
  fits := by
    have hpos := b.capacity_pos
    have hfits := b.fits
    split <;> simp only [List.length_append, List.length_tail, List.length_cons,
      List.length_nil] <;> omega

def size (b : Inbox β) : Nat := b.queue.length

def isEmpty (b : Inbox β) : Bool := b.queue.isEmpty

/-- The inbox after it was drained. -/
def drained (b : Inbox β) : Inbox β := empty b.capacity b.capacity_pos

/-- The history after the waiting samples were pushed into it, oldest first. -/
def drainInto (b : Inbox β) (h : History β) : History β := h.pushAll b.queue

end Inbox

end NavArbiter
