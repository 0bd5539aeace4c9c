import HttpServer.Duration
import HttpServer.Notice

/-! Commands that are executed once per tick. A tick executes what is listed when it
begins, in order; what panicked in it or is finished at its end is taken off the list,
wherever on the list it stands. -/
namespace HttpServer

namespace Schedule

def standardInterval : Duration := .ofMilliseconds 3000

/-- What one execution of a command leaves behind: the state, the commands that it
added to the list, and whether it panicked. -/
structure Execution (σ ι : Type) where
  state : σ
  added : List ι := []
  panicked : Bool := false

/-- How commands, known by their identities `ι`, behave over a state `σ`. -/
structure Behaviour (σ ι : Type) where
  execute : ι → σ → Execution σ ι
  isFinished : σ → ι → Bool

structure Round (σ ι : Type) where
  state : σ
  executed : List ι
  added : List ι
  panicked : List ι

variable {σ ι : Type}

/-- Executes commands in order; a panic of one does not keep the next from its turn. -/
def executeAll (behaviour : Behaviour σ ι) (state : σ) : List ι → Round σ ι
  | [] => ⟨state, [], [], []⟩
  | command :: rest =>
      let execution := behaviour.execute command state
      let round := executeAll behaviour execution.state rest
      { state := round.state
        executed := command :: round.executed
        added := execution.added ++ round.added
        panicked := if execution.panicked then command :: round.panicked else round.panicked }

def Round.notices (round : Round σ ι) : List Notice :=
  round.panicked.map fun _ => .commandPanicked

/-- The list of a runner, with the state of its commands. -/
structure Runner (σ ι : Type) where
  state : σ
  commands : List ι
  deriving DecidableEq, Repr

namespace Runner

def add (runner : Runner σ ι) (command : ι) : Runner σ ι :=
  { runner with commands := runner.commands ++ [command] }

def round (behaviour : Behaviour σ ι) (runner : Runner σ ι) : Round σ ι :=
  executeAll behaviour runner.state runner.commands

def after [BEq ι] (behaviour : Behaviour σ ι) (runner : Runner σ ι) (round : Round σ ι) :
    Runner σ ι :=
  { state := round.state
    commands := (runner.commands ++ round.added).filter fun command =>
      !round.panicked.contains command && !behaviour.isFinished round.state command }

def tick [BEq ι] (behaviour : Behaviour σ ι) (runner : Runner σ ι) : Runner σ ι :=
  runner.after behaviour (runner.round behaviour)

end Runner
end Schedule
end HttpServer
