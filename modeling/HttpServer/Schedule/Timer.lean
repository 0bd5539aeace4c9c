import HttpServer.Schedule

/-! A timer that fires at equal intervals until it is stopped, and the loop of a runner that
waits for the next tick and for the signal to end, by its steps. -/
namespace HttpServer.Schedule

variable {τ : Type}

/-- Runs `tick` at `deadline` and at every later interval, as long as that is before
`stop`; a stop at the time of a tick comes first. -/
def fire (tick : τ → τ) (interval stop deadline : Nat) (state : τ) : τ :=
  if interval = 0 ∨ stop ≤ deadline then state
  else fire tick interval stop (deadline + interval) (tick state)
termination_by stop - deadline

/-- Runs a timer of its own for some time: the first tick comes after one interval. A
timer has to have an interval. -/
def runFor (tick : τ → τ) (interval time : Nat) (state : τ) : Option τ :=
  if interval = 0 then none else some (fire tick interval time interval state)

/-- How the state of commands changes by the passing of time alone. -/
structure Flow (σ : Type) where
  pass : Nat → σ → σ
  pass_zero : ∀ state, pass 0 state = state
  pass_add : ∀ time further state, pass (time + further) state = pass further (pass time state)

inductive Signal where
  | sent
  | dropped
  deriving DecidableEq, Repr

/-- A call of the loop: the time after which it is told to end, how it is told, and the time that
passes between its return and the next call. -/
structure Session where
  time : Nat
  signal : Signal
  idle : Nat
  deriving DecidableEq, Repr

structure Clockwork (σ ι : Type) where
  behaviour : Behaviour σ ι
  flow : Flow σ
  interval : Nat

inductive Phase where
  | waiting
  | told (signal : Signal)
  | returned
  deriving DecidableEq, Repr

/-- The loop at some time. The times of the ticks so far are kept with it. -/
structure Loop (σ ι : Type) where
  now : Nat
  phase : Phase
  deadline : Nat
  runner : Runner σ ι
  ticks : List Nat

variable {σ ι : Type}

def Runner.elapse (flow : Flow σ) (time : Nat) (runner : Runner σ ι) : Runner σ ι :=
  { runner with state := flow.pass time runner.state }

variable [DecidableEq ι]

/-- One interval and the tick at its end. -/
def Clockwork.round (clockwork : Clockwork σ ι) (runner : Runner σ ι) : Runner σ ι :=
  (runner.elapse clockwork.flow clockwork.interval).tick clockwork.behaviour

def Loop.begun (clockwork : Clockwork σ ι) (start : Nat) (runner : Runner σ ι) : Loop σ ι :=
  ⟨start, .waiting, start + clockwork.interval, runner, []⟩

/-- What happens next to a loop that was called at `start`. Time passes only while there is nothing
else to do, and a loop that has been told to end does not tick. -/
inductive Loop.Step (clockwork : Clockwork σ ι) (session : Session) (start : Nat) :
    Loop σ ι → Loop σ ι → Prop
  | tick {loop : Loop σ ι} (waits : loop.phase = .waiting) (due : loop.deadline ≤ loop.now) :
      Step clockwork session start loop
        { loop with
          deadline := loop.deadline + clockwork.interval
          runner := loop.runner.tick clockwork.behaviour
          ticks := loop.ticks ++ [loop.now] }
  | tell {loop : Loop σ ι} (waits : loop.phase = .waiting)
      (now : loop.now = start + session.time) :
      Step clockwork session start loop { loop with phase := .told session.signal }
  | leave {loop : Loop σ ι} {signal : Signal} (told : loop.phase = .told signal) :
      Step clockwork session start loop { loop with phase := .returned }
  | wait {loop : Loop σ ι} {time : Nat} (waits : loop.phase = .waiting) (positive : 0 < time)
      (early : loop.now + time ≤ loop.deadline) (untold : loop.now + time ≤ start + session.time) :
      Step clockwork session start loop
        { loop with
          now := loop.now + time
          runner := loop.runner.elapse clockwork.flow time }
  | pass {loop : Loop σ ι} (time : Nat) (returned : loop.phase = .returned) :
      Step clockwork session start loop
        { loop with
          now := loop.now + time
          runner := loop.runner.elapse clockwork.flow time }

end HttpServer.Schedule
