import PageTape.Clock.Debouncer

/-!
Programs over one clock and one debouncer.  A callback that is called is noted in a log, and then
has further commands to be performed.  What is still to be done is a stack of tasks, from which one
event after the other is taken, so that the commands of a callback are performed before what the
callback has interrupted goes on.  A command that fails ends all of it.  The debouncer's own time lags
behind the clock by a skew that a program may change.
-/

namespace PageTape

namespace ClockProgram

mutual
/-- A command to the clock or the debouncer, or to fail with a message. -/
inductive Command where
  | later (name : String) (delay : Rat) (callback : Callback)
  | cancel (name : String)
  | advance (ms : Rat)
  | runAll
  | schedule (key : String) (callback : Callback)
  | drop (key : String)
  | dropAll
  | flush (key : String)
  | flushAll
  | isPending (key : String)
  | skew (ms : Rat)
  | fail (message : String)

/-- A callback: its name in the log, and the commands it has performed. -/
inductive Callback where
  | calling (name : String) (commands : List Command)
end

instance : Inhabited Command := ⟨.runAll⟩
instance : Inhabited Callback := ⟨.calling "" []⟩

/-- The callback that fails before all its commands if there is a message for that. -/
def Callback.mk (name : String) (failure : Option String) (commands : List Command) : Callback :=
  .calling name ((failure.map .fail).toList ++ commands)

/-- What a timer is set for: a callback of its own, or what was scheduled in the debouncer under a
key at a time. -/
inductive Alarm where
  | call (callback : Callback)
  | wake (key : String) (since : Rat) (callback : Callback)

instance : Inhabited Alarm := ⟨.call default⟩

/-- Something that is still to be done. -/
inductive Task where
  | perform (command : Command)
  | flush (keys : List String)
  | advance (target : Rat)
  | runAll

/-- The state of a program: the clock, the debouncer, the numbers of the timers set under names, and
the log, the newest entry first; what is still to be done, the next thing first, and the message of
the failure that has ended it. -/
structure State where
  clock : Clock Alarm
  debouncer : Debouncer String Callback
  named : List (String × Nat) := []
  skew : Rat := 0
  log : List (String × Rat) := []
  tasks : List Task := []
  failure : Option String := none
  deriving Inhabited

/-- What happens next in a program.  A key that is flushed and a timer that goes off may call a
callback. -/
inductive Event where
  | performs (command : Command)
  | flushes (key : String) (called : Option Callback)
  | rings (timer : Timer Alarm) (called : Option Callback)
  | arrives (target : Rat)
  | ends

namespace State

/-- The time as the debouncer sees it. -/
def seen (s : State) : Rat := s.clock.now - s.skew

/-- The state after the debouncer and the clock have changed. -/
def put (s : State) (changed : Debouncer String Callback × Clock Alarm) : State :=
  { s with debouncer := changed.1, clock := changed.2 }

/-- Something more to be done, before everything else. -/
def todo (s : State) (task : Task) : State := { s with tasks := task :: s.tasks }

/-- Calls a callback. -/
def call (s : State) : Callback → State
  | .calling name commands =>
    { s with log := (name, s.clock.now) :: s.log, tasks := commands.map .perform ++ s.tasks }

/-- Calls a callback if there is one. -/
def call? (s : State) : Option Callback → State
  | some callback => s.call callback
  | none => s

/-- Performs a command, or has it to be done. -/
def perform (s : State) : Command → State
  | .later name delay callback =>
    let (timer, clock) := s.clock.setTimer delay (.call callback)
    { s with clock, named := (name, timer) :: s.named }
  | .cancel name => match s.named.lookup name with
    | some timer => { s with clock := s.clock.cancel timer }
    | none => s
  | .advance ms => s.todo (.advance (s.clock.now + ms))
  | .runAll => s.todo .runAll
  | .schedule key callback => s.put
      (s.debouncer.schedule s.clock s.seen (.wake key s.seen callback) key callback)
  | .drop key => s.put (s.debouncer.cancel s.clock key)
  | .dropAll => s.put (s.debouncer.cancelAll s.clock)
  | .flush key => s.todo (.flush [key])
  | .flushAll => s.todo (.flush (s.debouncer.waiting.map (·.key)))
  | .isPending _ => s
  | .skew ms => { s with skew := ms }
  | .fail message => { s with tasks := [], failure := some message }

/-- A key taken out before its time, and what was pending under it. -/
def take (s : State) (key : String) : Option Callback × State :=
  match s.debouncer.take? s.clock key with
  | some (callback, changed) => (some callback, s.put changed)
  | none => (none, s)

/-- A timer has gone off: the callback that is to be called.  What was scheduled in the debouncer is
looked at by the debouncer's own time; if it is too early, the timer is set again for what remains. -/
def ring (s : State) : Alarm → Option Callback × State
  | .call callback => (some callback, s)
  | .wake key since callback =>
    if hasPassed since s.seen s.debouncer.delay then
      (some callback, { s with debouncer := s.debouncer.drop key })
    else
      let (timer, clock) := s.clock.setTimer (s.debouncer.delay - (s.seen - since))
        (.wake key since callback)
      (none, { s with clock, debouncer := s.debouncer.renew ⟨key, since, timer, callback⟩ })

/-- What happens next, and the state after it; nothing if there is nothing to be done. -/
def step? (s : State) : Option (Event × State) :=
  match s.tasks with
  | [] => none
  | .perform command :: rest => some (.performs command, { s with tasks := rest }.perform command)
  | .flush [] :: rest => some (.ends, { s with tasks := rest })
  | .flush (key :: keys) :: rest =>
    let (called, s) := { s with tasks := .flush keys :: rest }.take key
    some (.flushes key called, s.call? called)
  | .advance target :: rest => match s.clock.popDue? target with
    | some (timer, clock) =>
      let (called, s) := { s with clock }.ring timer.alarm
      some (.rings timer called, s.call? called)
    | none => some (.arrives target, { s with clock := { s.clock with now := target }, tasks := rest })
  | .runAll :: rest => match s.clock.earliest? with
    | some timer =>
      -- the clock is to be advanced as far as this timer, which is the first to go off then
      let target := s.clock.now + @max Rat Rat.instMax 0 (timer.due - s.clock.now)
      let clock := { s.clock.cancel timer.seq with now := timer.due }
      let (called, s) := { s with clock, tasks := .advance target :: s.tasks }.ring timer.alarm
      some (.rings timer called, s.call? called)
    | none => some (.ends, { s with tasks := rest })

/-- The state after at most a number of events. -/
def after (s : State) : Nat → State
  | 0 => s
  | n + 1 => match s.step? with
    | some (_, s) => s.after n
    | none => s

end State

/-! ### Running programs -/

mutual
/-- How much a command has done at most, in commands performed and callbacks called. -/
def Command.size : Command → Nat
  | .later _ _ callback => callback.size + 3
  | .schedule _ callback => callback.size + 3
  | .cancel _ | .advance _ | .runAll | .drop _ | .dropAll | .flush _ | .flushAll | .isPending _
  | .skew _ | .fail _ => 2

/-- How much the commands of a callback have done at most. -/
def Callback.size : Callback → Nat
  | .calling _ commands => sizeAll commands

/-- How much a list of commands has done at most. -/
def sizeAll : List Command → Nat
  | [] => 0
  | c :: rest => c.size + sizeAll rest
end

/-- How much is left by what is still to be done. -/
def Task.size : Task → Nat
  | .perform command => command.size
  | .runAll => 1
  | .flush _ | .advance _ => 0

/-- How much a timer can set going. -/
def Alarm.size : Alarm → Nat
  | .call callback => callback.size + 2
  | .wake _ _ callback => callback.size + 2

namespace State

/-- How much can still be done, by the tasks and the timers. -/
def work (s : State) : Nat :=
  @List.sum Nat _ Zero.ofOfNat0 (s.tasks.map (·.size)) +
    @List.sum Nat _ Zero.ofOfNat0 (s.clock.timers.map (·.alarm.size))

/-- The state in which a command is to be performed. -/
def order (s : State) (command : Command) : State :=
  { s with tasks := [.perform command], failure := none }

/-- The state after a command and everything that it sets going.  Between two events that leave less
work there are only the keys that are flushed and the timers that go off too early, and neither are
more than the work. -/
def obey (s : State) (command : Command) : State :=
  let t := s.order command
  t.after (t.work * (t.work + 2))

end State

/-- What a command answers in a state. -/
def Command.answer? (s : State) : Command → Option Bool
  | .flush key | .isPending key => some (s.debouncer.isPending key)
  | _ => none

/-- What a command has done: its answer or the message of its failure, the log entries it made, and
the time, the timers and the pending keys after it. -/
structure Report where
  outcome : Except String (Option Bool)
  log : List (String × Rat)
  now : Rat
  timers : Nat
  waiting : Nat
  deriving Inhabited

/-- The report on a command that has led from one state to another. -/
def report (command : Command) (s t : State) : Report where
  outcome := match t.failure with
    | some message => .error message
    | none => .ok (command.answer? s)
  log := (t.log.take (t.log.length - s.log.length)).reverse
  now := t.clock.now
  timers := t.clock.pending
  waiting := t.debouncer.waiting.length

/-- Performs commands one by one from a state. -/
def reports (s : State) : List Command → List Report
  | [] => []
  | command :: rest =>
    let t := s.obey command
    report command s t :: reports t rest

/-- The state in which a program begins. -/
def begin (start delay : Rat) : State := { clock := { now := start }, debouncer := { delay } }

/-- Runs a program. -/
def run (start delay : Rat) (commands : List Command) : List Report :=
  reports (begin start delay) commands

end ClockProgram

end PageTape
