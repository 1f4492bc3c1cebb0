/-!
A clock that moves only when it is told to, and its timers.  Times are in milliseconds.  A timer
holds an alarm, which says what is to happen when it is due; timers are due in the order of their
due times, and among equal ones in the order in which they were set.
-/

namespace PageTape

/-- A timer that has not gone off. -/
structure Timer (α : Type) where
  due : Rat
  seq : Nat
  alarm : α
  deriving Repr, Inhabited

namespace Timer

/-- One timer comes before another. -/
def before {α : Type} (a b : Timer α) : Bool := a.due < b.due || (a.due == b.due && a.seq < b.seq)

/-- The first of two timers. -/
def first {α : Type} (a b : Timer α) : Timer α := if b.before a then b else a

end Timer

/-- The time, and the timers that are set.  A timer is known by its number, which no other timer
of the clock ever has. -/
structure Clock (α : Type) where
  now : Rat := 0
  nextSeq : Nat := 0
  timers : List (Timer α) := []
  deriving Repr, Inhabited

namespace Clock

variable {α : Type}

/-- The clock with one more timer, after a delay; a delay below zero counts as none. -/
def setTimer (c : Clock α) (delay : Rat) (alarm : α) : Nat × Clock α :=
  (c.nextSeq, { c with
    nextSeq := c.nextSeq + 1
    timers := ⟨c.now + (if delay < 0 then 0 else delay), c.nextSeq, alarm⟩ :: c.timers })

/-- The clock without a timer. -/
def cancel (c : Clock α) (seq : Nat) : Clock α :=
  { c with timers := c.timers.filter (·.seq != seq) }

/-- The timer that is due first. -/
def earliest? (c : Clock α) : Option (Timer α) :=
  match c.timers with
  | [] => none
  | t :: rest => some (rest.foldl Timer.first t)

/-- The first timer that is due by a time; it is taken off the clock, which goes to its due
time. -/
def popDue? (c : Clock α) (target : Rat) : Option (Timer α × Clock α) :=
  match c.earliest? with
  | some t => if t.due ≤ target then some (t, { c.cancel t.seq with now := t.due }) else none
  | none => none

/-- The number of timers that are set. -/
def pending (c : Clock α) : Nat := c.timers.length

end Clock

end PageTape
