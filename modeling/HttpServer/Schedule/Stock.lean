/-! Two ready-made commands, on a clock that does not run backwards: one that repeats
its closure, and one that runs it once. -/
namespace HttpServer.Schedule

inductive ClosureEnd where
  | again
  | enough
  | panicked
  deriving DecidableEq, Repr

/-- A command whose closure runs whenever a period has passed since its last run,
until the closure has had enough. -/
structure Periodic where
  period : Nat
  lastRun : Option Nat := none
  isFinished : Bool := false
  deriving DecidableEq, Repr

namespace Periodic

/-- Whether an execution now runs the closure. -/
def isDue (command : Periodic) (now : Nat) : Bool :=
  !command.isFinished &&
    match command.lastRun with
    | none => true
    | some last => command.period ≤ now - last

def started (command : Periodic) (now : Nat) : Periodic := { command with lastRun := some now }

def ended (command : Periodic) : ClosureEnd → Periodic
  | .enough => { command with isFinished := true }
  | .again | .panicked => command

/-- One execution, given how the closure ends if it runs. -/
def execute (command : Periodic) (now : Nat) (closure : ClosureEnd) : Periodic :=
  if command.isDue now then (command.started now).ended closure else command

end Periodic

/-- A command whose closure runs once, in the first execution that is not too early.
The closure is given away when its run begins. -/
structure Deferred where
  due : Nat
  isFinished : Bool := false
  deriving DecidableEq, Repr

namespace Deferred

def isDue (command : Deferred) (now : Nat) : Bool := !command.isFinished && command.due ≤ now

def execute (command : Deferred) (now : Nat) : Deferred :=
  if command.isDue now then { command with isFinished := true } else command

end Deferred

/-- A command that is finished once it has run so often; without a bound it never is.
Every execution runs it, finished or not. -/
structure Counted where
  bound : Option Nat
  runs : Nat := 0
  deriving DecidableEq, Repr

namespace Counted

def execute (command : Counted) : Counted := { command with runs := command.runs + 1 }

def isFinished (command : Counted) : Bool :=
  match command.bound with
  | none => false
  | some bound => bound ≤ command.runs

end Counted

inductive Stock where
  | periodic (command : Periodic)
  | deferred (command : Deferred)
  | counted (command : Counted)
  deriving DecidableEq, Repr

namespace Stock

def isDue (now : Nat) : Stock → Bool
  | .periodic command => command.isDue now
  | .deferred command => command.isDue now
  | .counted _ => true

def execute (now : Nat) (closure : ClosureEnd) : Stock → Stock
  | .periodic command => .periodic (command.execute now closure)
  | .deferred command => .deferred (command.execute now)
  | .counted command => .counted command.execute

def isFinished : Stock → Bool
  | .periodic command => command.isFinished
  | .deferred command => command.isFinished
  | .counted command => command.isFinished

end Stock
end HttpServer.Schedule
