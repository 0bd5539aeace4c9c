import HttpServer.Schedule

/-! The history of a runner. A tick executes what is listed when it begins, each entry once and in
order, whatever the executions come to. Of the list and of what was added meanwhile it keeps the
entries whose commands neither panicked in it nor are finished at its end. So an entry is executed
in every tick after its addition up to the first one that drops its command, and in none later. -/
namespace HttpServer.Schedule

variable {σ ι : Type} {behaviour : Behaviour σ ι}

/-- Executions in order. Each begins in the state that the one before it has left, and each is
made whatever came of those before it. -/
inductive Executes (behaviour : Behaviour σ ι) : σ → List (ι × Execution σ ι) → σ → Prop
  | nil {state} : Executes behaviour state [] state
  | cons {state command trace after}
      (later : Executes behaviour (behaviour.execute command state).state trace after) :
      Executes behaviour state ((command, behaviour.execute command state) :: trace) after

structure Round.Records (round : Round σ ι) (behaviour : Behaviour σ ι) (state : σ)
    (trace : List (ι × Execution σ ι)) : Prop where
  executes : Executes behaviour state trace round.state
  executed : round.executed = trace.map (·.1)
  added : round.added = trace.flatMap (·.2.added)
  panicked : round.panicked = (trace.filter (·.2.panicked)).map (·.1)

theorem exists_records (behaviour : Behaviour σ ι) (state : σ) (commands : List ι) :
    ∃ trace, (executeAll behaviour state commands).Records behaviour state trace ∧
      trace.map (·.1) = commands := by
  induction commands generalizing state with
  | nil => exact ⟨[], ⟨.nil, rfl, rfl, rfl⟩, rfl⟩
  | cons command rest ih =>
      obtain ⟨trace, records, same⟩ := ih (behaviour.execute command state).state
      refine ⟨(command, behaviour.execute command state) :: trace, ?_, congrArg (command :: ·) same⟩
      constructor
      · exact .cons records.executes
      · exact congrArg (command :: ·) records.executed
      · exact congrArg (_ ++ ·) records.added
      · rw [executeAll, records.panicked, List.filter_cons]
        split <;> rfl

/-- What happens to a runner: a command is added to its list, the state of the commands changes
by other causes, such as the passing of time, or the runner ticks. -/
inductive Deed (σ ι : Type) where
  | add (command : ι)
  | change (change : σ → σ)
  | tick

namespace Runner

variable [DecidableEq ι]

def undergo (behaviour : Behaviour σ ι) (runner : Runner σ ι) : Deed σ ι → Runner σ ι
  | .add command => runner.add command
  | .change change => { runner with state := change runner.state }
  | .tick => runner.tick behaviour

def replay (behaviour : Behaviour σ ι) (runner : Runner σ ι) : List (Deed σ ι) → Runner σ ι
  | [] => runner
  | deed :: later => (runner.undergo behaviour deed).replay behaviour later

/-- Whether the next tick drops a command: it panics in it, or it is finished at its end. -/
def drops (behaviour : Behaviour σ ι) (runner : Runner σ ι) (command : ι) : Bool :=
  (runner.round behaviour).panicked.contains command ||
    behaviour.isFinished (runner.round behaviour).state command

def loses (behaviour : Behaviour σ ι) (runner : Runner σ ι) : List (Deed σ ι) → ι → Bool
  | [], _ => false
  | .tick :: later, command =>
      runner.drops behaviour command || (runner.tick behaviour).loses behaviour later command
  | deed :: later, command => (runner.undergo behaviour deed).loses behaviour later command

/-- The entries that a deed adds to the list, be it from outside or by the commands that a tick
executes. -/
def additions (behaviour : Behaviour σ ι) (runner : Runner σ ι) : Deed σ ι → List ι
  | .add command => [command]
  | .change _ => []
  | .tick => (runner.round behaviour).added

def allAdditions (behaviour : Behaviour σ ι) (runner : Runner σ ι) : List (Deed σ ι) → List ι
  | [] => []
  | deed :: later =>
      runner.additions behaviour deed ++
        (runner.undergo behaviour deed).allAdditions behaviour later

/-- The entries that deeds add to the list and have not dropped again. -/
def gains (behaviour : Behaviour σ ι) (runner : Runner σ ι) : List (Deed σ ι) → List ι
  | [] => []
  | deed :: later =>
      (runner.additions behaviour deed).filter (!runner.loses behaviour (deed :: later) ·) ++
        (runner.undergo behaviour deed).gains behaviour later

variable {runner : Runner σ ι} {command : ι}

theorem commands_tick : (runner.tick behaviour).commands =
    (runner.commands ++ (runner.round behaviour).added).filter (!runner.drops behaviour ·) := by
  simp only [tick, after, drops, Bool.not_or]

theorem commands_undergo (deed : Deed σ ι) (later : List (Deed σ ι)) :
    (runner.undergo behaviour deed).commands.filter
        (!(runner.undergo behaviour deed).loses behaviour later ·) =
      (runner.commands ++ runner.additions behaviour deed).filter
        (!runner.loses behaviour (deed :: later) ·) := by
  cases deed with
  | add command => rfl
  | change change => rw [additions, List.append_nil]; rfl
  | tick =>
      rw [undergo, commands_tick, List.filter_filter, additions]
      simp only [loses, Bool.not_or, Bool.and_comm]

/-- The list after deeds: first the entries that were there, then those that have come since,
always without those that a tick has dropped after their addition. -/
theorem commands_replay (deeds : List (Deed σ ι)) :
    (runner.replay behaviour deeds).commands =
      runner.commands.filter (!runner.loses behaviour deeds ·) ++
        runner.gains behaviour deeds := by
  induction deeds generalizing runner with
  | nil =>
      rw [gains, List.append_nil]
      exact (List.filter_eq_self.mpr fun _ _ => rfl).symm
  | cons deed later ih =>
      rw [replay, ih, commands_undergo, List.filter_append, gains, List.append_assoc]

theorem gains_sublist (deeds : List (Deed σ ι)) :
    (runner.gains behaviour deeds).Sublist (runner.allAdditions behaviour deeds) := by
  induction deeds generalizing runner with
  | nil => exact .refl _
  | cons deed later ih => exact List.filter_sublist.append ih

theorem not_mem_tick (dropped : runner.drops behaviour command = true) :
    command ∉ (runner.tick behaviour).commands := by
  rw [commands_tick, List.mem_filter, dropped]
  exact fun kept => absurd kept.2 (by decide)

omit [DecidableEq ι] in
theorem executed_round : (runner.round behaviour).executed = runner.commands := by
  obtain ⟨trace, records, same⟩ := exists_records behaviour runner.state runner.commands
  exact records.executed.trans same

theorem drops_iff {trace : List (ι × Execution σ ι)}
    (records : (runner.round behaviour).Records behaviour runner.state trace) :
    runner.drops behaviour command = true ↔
      (∃ execution, (command, execution) ∈ trace ∧ execution.panicked = true) ∨
        behaviour.isFinished (runner.tick behaviour).state command = true := by
  rw [drops, Bool.or_eq_true, records.panicked, List.contains_iff_mem]
  simp [tick, after]

/-- One tick of a runner, in which these executions are made: those of all entries that are listed
when it begins, one for each and in order. The list afterwards is the list before and what the
executions added, without the commands of which one panicked or which are finished at the end. -/
structure TicksBy (behaviour : Behaviour σ ι) (runner : Runner σ ι)
    (trace : List (ι × Execution σ ι)) : Prop where
  executes : Executes behaviour runner.state trace (runner.tick behaviour).state
  executed : trace.map (·.1) = runner.commands
  commands : (runner.tick behaviour).commands =
    (runner.commands ++ trace.flatMap (·.2.added)).filter (!runner.drops behaviour ·)
  drops : ∀ command, runner.drops behaviour command = true ↔
    (∃ execution, (command, execution) ∈ trace ∧ execution.panicked = true) ∨
      behaviour.isFinished (runner.tick behaviour).state command = true

/-- What a tick of a runner does, and what is executed in the ticks after it: no command that it
drops, unless the command is added again, and each entry once as long as no tick drops it. -/
structure Ticks (behaviour : Behaviour σ ι) (runner : Runner σ ι) : Prop where
  once : ∃ trace, runner.TicksBy behaviour trace ∧
    (runner.round behaviour).executed = trace.map (·.1)
  gone : ∀ command, runner.drops behaviour command = true → ∀ later,
    command ∉ (runner.tick behaviour).allAdditions behaviour later →
      command ∉ (((runner.tick behaviour).replay behaviour later).round behaviour).executed
  kept : ∀ later, ((runner.replay behaviour later).round behaviour).executed =
    runner.commands.filter (!runner.loses behaviour later ·) ++ runner.gains behaviour later

/-- Whatever has happened to a runner, its ticks are of this kind. -/
theorem ticks_replay (behaviour : Behaviour σ ι) (state : σ) (initial : List ι)
    (earlier : List (Deed σ ι)) : Ticks behaviour (replay behaviour ⟨state, initial⟩ earlier) := by
  generalize replay behaviour ⟨state, initial⟩ earlier = runner
  constructor
  case once =>
    obtain ⟨trace, records, same⟩ := exists_records behaviour runner.state runner.commands
    refine ⟨trace, ⟨records.executes, same, ?_, fun command => drops_iff records⟩, records.executed⟩
    rw [commands_tick, round, records.added]
  case gone =>
    intro command dropped later unlisted
    rw [executed_round, commands_replay, List.mem_append, not_or]
    constructor
    · exact fun kept => not_mem_tick dropped (List.mem_filter.mp kept).1
    · exact fun gained => unlisted ((gains_sublist later).subset gained)
  case kept =>
    intro later
    rw [executed_round, commands_replay]

end Runner
end HttpServer.Schedule
