import PageTape.Clock.Basic

/-!
A debouncer waits, key by key, until nothing has been scheduled for a while.  Every pending key has
one timer of the clock; scheduling a key again replaces its timer and what was pending.
-/

namespace PageTape

/-- At least a window has passed since a time. -/
def hasPassed (since now window : Rat) : Bool := window ≤ now - since

/-- What is pending under a key: since when, by which timer, and what for. -/
structure Waiting (κ β : Type) where
  key : κ
  since : Rat
  timer : Nat
  payload : β
  deriving Repr, Inhabited

/-- The keys that wait, in the order in which they were last scheduled. -/
structure Debouncer (κ β : Type) where
  delay : Rat
  waiting : List (Waiting κ β) := []
  deriving Repr, Inhabited

namespace Debouncer

variable {α κ β : Type} [BEq κ]

/-- What is pending under a key. -/
def find? (d : Debouncer κ β) (key : κ) : Option (Waiting κ β) := d.waiting.find? (·.key == key)

/-- A key is pending. -/
def isPending (d : Debouncer κ β) (key : κ) : Bool := (d.find? key).isSome

/-- The debouncer without a key. -/
def drop (d : Debouncer κ β) (key : κ) : Debouncer κ β :=
  { d with waiting := d.waiting.filter (!·.key == key) }

/-- A key taken out and its timer cancelled. -/
def cancel (d : Debouncer κ β) (clock : Clock α) (key : κ) : Debouncer κ β × Clock α :=
  match d.find? key with
  | some w => (d.drop key, clock.cancel w.timer)
  | none => (d, clock)

/-- All keys taken out and their timers cancelled. -/
def cancelAll (d : Debouncer κ β) (clock : Clock α) : Debouncer κ β × Clock α :=
  ({ d with waiting := [] }, d.waiting.foldl (fun c w => c.cancel w.timer) clock)

/-- A key scheduled at the time `now` as the debouncer sees it, instead of what was pending under
it. -/
def schedule (d : Debouncer κ β) (clock : Clock α) (now : Rat) (alarm : α) (key : κ)
    (payload : β) : Debouncer κ β × Clock α :=
  let (d, clock) := d.cancel clock key
  let (timer, clock) := clock.setTimer d.delay alarm
  ({ d with waiting := d.waiting ++ [⟨key, now, timer, payload⟩] }, clock)

/-- A key pending with an entry: in the place of the one that it had, or behind all others. -/
def renew (d : Debouncer κ β) (w : Waiting κ β) : Debouncer κ β :=
  { d with waiting :=
      if d.isPending w.key then d.waiting.map fun v => if v.key == w.key then w else v
      else d.waiting ++ [w] }

/-- A key taken out before its time: what was pending under it, and the debouncer and the clock
without it. -/
def take? (d : Debouncer κ β) (clock : Clock α) (key : κ) :
    Option (β × Debouncer κ β × Clock α) :=
  (d.find? key).map fun w => (w.payload, d.drop key, clock.cancel w.timer)

/-- The timer of a key has gone off, at the time `now` as the debouncer sees it.  If the delay has
passed, the key is taken out and what was pending is given; if it has not, the clocks differ, and
the timer is set again for what remains. -/
def wake (d : Debouncer κ β) (clock : Clock α) (now : Rat) (alarm : α) (key : κ) :
    Option β × Debouncer κ β × Clock α :=
  match d.find? key with
  | none => (none, d, clock)
  | some w =>
    if hasPassed w.since now d.delay then (some w.payload, d.drop key, clock)
    else
      let (timer, clock) := clock.setTimer (d.delay - (now - w.since)) alarm
      let renew := fun (v : Waiting κ β) => if v.key == key then { v with timer } else v
      (none, { d with waiting := d.waiting.map renew }, clock)

end Debouncer

end PageTape
