/-
# Time

Times are microseconds since an arbitrary start, and below 2^64 wherever they come from a
document or a clock.  An age is how long ago something happened; it is zero for something that
lies in the future, and `Time.infiniteAge` for something that never happened.

Intervals are given in documents too, and doubled with the width of a clock: twice an interval is
what it should be as long as it is a time itself (`Time.twice_of_le`).
-/

namespace NavArbiter

/-- A moment, in microseconds. -/
abbrev Time := Nat

namespace Time

/-- The last moment that a clock can show, 2^64 - 1. -/
def last : Time := 0xFFFFFFFFFFFFFFFF

/-- Two intervals, counted as a clock counts: past its last moment it starts again from zero. -/
def twice (interval : Nat) : Nat := 2 * interval % (last + 1)

theorem twice_le (interval : Nat) : twice interval ≤ 2 * interval := Nat.mod_le _ _

theorem twice_of_le {interval : Nat} (fits : 2 * interval ≤ last) :
    twice interval = 2 * interval := Nat.mod_eq_of_lt (Nat.lt_succ_of_le fits)

/-- How long before `now` the moment `t` was; zero if it is not before `now`. -/
def age (now t : Time) : Nat := now - t

/-- The age of something that never happened. -/
def infiniteAge : Nat := last

/-- The age of something that may never have happened. -/
def ageOf (now : Time) : Option Time → Nat
  | some t => age now t
  | none => infiniteAge

@[simp] theorem ageOf_none (now : Time) : ageOf now none = infiniteAge := rfl

@[simp] theorem ageOf_some (now t : Time) : ageOf now (some t) = now - t := rfl

end Time

/-- A thing that carries the time it was taken at. -/
class Timed (β : Type) where
  time : β → Time

export Timed (time)

end NavArbiter
