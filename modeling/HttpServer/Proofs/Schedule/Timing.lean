import HttpServer.Proofs.Schedule.History
import HttpServer.Schedule.Stock

/-! When the ready-made commands run their closures. A repeated command runs in the first call, and
after a run in the first call that is not too early, until its closure has had enough; a deferred
one runs in the first call that is not too early. -/
namespace HttpServer.Schedule

/-- One call of a command: what the clock shows, and how the closure ends if it is run. -/
structure Turn where
  time : Nat
  closure : ClosureEnd
  deriving DecidableEq, Repr

def Ordered (turns : List Turn) : Prop := turns.Pairwise (·.time ≤ ·.time)

/-- Of these calls the first, the first that is a period or more after it, and so on, up to one
whose closure has had enough. -/
def everyPeriod (period : Nat) : List Turn → List Turn
  | [] => []
  | turn :: later =>
      turn :: if turn.closure = .enough then []
        else everyPeriod period (later.dropWhile (·.time < turn.time + period))
termination_by turns => turns.length
decreasing_by exact Nat.lt_succ_of_le (List.dropWhile_suffix _).length_le

namespace Stock

def IsFresh : Stock → Prop
  | .periodic command => command.lastRun = none ∧ command.isFinished = false
  | .deferred command => command.isFinished = false
  | .counted command => command.runs = 0

/-- The calls in which a fresh command is to run its closure. -/
def plan : Stock → List Turn → List Turn
  | .periodic command, turns => everyPeriod command.period turns
  | .deferred command, turns => (turns.find? (command.due ≤ ·.time)).toList
  | .counted _, turns => turns

/-- Whether a command is finished when these runs have begun and those have ended. -/
def DoneBy (begun ended : List Turn) : Stock → Prop
  | .periodic _ => ∃ run ∈ ended, run.closure = .enough
  | .deferred _ => begun ≠ []
  | .counted command => ∃ bound, command.bound = some bound ∧ bound ≤ begun.length

def started (now : Nat) : Stock → Stock
  | .periodic command => .periodic (command.started now)
  | .deferred command => .deferred { command with isFinished := true }
  | .counted command => .counted command.execute

def ended (closure : ClosureEnd) : Stock → Stock
  | .periodic command => .periodic (command.ended closure)
  | command => command

def after (command : Stock) : List Turn → Stock
  | [] => command
  | turn :: later => (command.execute turn.time turn.closure).after later

/-- The calls in which a command runs its closure. -/
def runs (command : Stock) : List Turn → List Turn
  | [] => []
  | turn :: later =>
      let rest := (command.execute turn.time turn.closure).runs later
      if command.isDue turn.time then turn :: rest else rest

theorem execute_of_due {command : Stock} {now : Nat} (due : command.isDue now = true)
    (closure : ClosureEnd) : command.execute now closure = (command.started now).ended closure := by
  cases command with
  | periodic command =>
      rw [isDue] at due
      rw [execute, Periodic.execute, due]
      rfl
  | deferred command =>
      rw [isDue] at due
      rw [execute, Deferred.execute, due]
      rfl
  | counted command => rfl

theorem execute_of_not_due {command : Stock} {now : Nat} (early : command.isDue now = false)
    (closure : ClosureEnd) : command.execute now closure = command := by
  cases command with
  | periodic command =>
      rw [isDue] at early
      rw [execute, Periodic.execute, early]
      rfl
  | deferred command =>
      rw [isDue] at early
      rw [execute, Deferred.execute, early]
      rfl
  | counted command => cases early

theorem after_append (command : Stock) (earlier later : List Turn) :
    command.after (earlier ++ later) = (command.after earlier).after later := by
  induction earlier generalizing command with
  | nil => rfl
  | cons turn earlier ih => exact ih _

theorem runs_append (command : Stock) (earlier later : List Turn) :
    command.runs (earlier ++ later) =
      command.runs earlier ++ (command.after earlier).runs later := by
  induction earlier generalizing command with
  | nil => rfl
  | cons turn earlier ih =>
      rw [List.cons_append, runs, runs, ih, after]
      cases command.isDue turn.time <;> rfl

theorem runs_cons_of_due {command : Stock} {turn : Turn} (due : command.isDue turn.time = true)
    (later : List Turn) : command.runs (turn :: later) =
      turn :: (command.execute turn.time turn.closure).runs later := if_pos due

theorem runs_cons_of_not_due {command : Stock} {turn : Turn}
    (early : command.isDue turn.time = false) (later : List Turn) :
    command.runs (turn :: later) = command.runs later := by
  rw [runs, execute_of_not_due early, early]
  rfl

theorem runs_of_idle {command : Stock} (idle : ∀ now, command.isDue now = false)
    (turns : List Turn) : command.runs turns = [] ∧ command.after turns = command := by
  induction turns with
  | nil => exact ⟨rfl, rfl⟩
  | cons turn later ih => rwa [runs_cons_of_not_due (idle _), after, execute_of_not_due (idle _)]

theorem idle_of_finished {command : Periodic} (finished : command.isFinished = true) (now : Nat) :
    (Stock.periodic command).isDue now = false := by
  rw [isDue, Periodic.isDue, finished]
  rfl

theorem runs_of_due {command : Periodic} {turn : Turn}
    (due : (Stock.periodic command).isDue turn.time = true) (later : List Turn) :
    (Stock.periodic command).runs (turn :: later) = turn :: if turn.closure = .enough then []
      else (Stock.periodic ⟨command.period, some turn.time, false⟩).runs later := by
  have unfinished : command.isFinished = false := by
    cases finished : command.isFinished with
    | false => rfl
    | true => rw [idle_of_finished finished] at due; cases due
  obtain ⟨period, lastRun, isFinished⟩ := command
  cases unfinished
  rw [runs_cons_of_due due, execute_of_due due]
  cases closure : turn.closure with
  | enough =>
      have finished : (Periodic.mk period (some turn.time) true).isFinished = true := rfl
      exact congrArg (turn :: ·) (runs_of_idle (idle_of_finished finished) later).1
  | again => rfl
  | panicked => rfl

theorem runs_since {period last : Nat} {turns : List Turn} (ordered : Ordered turns)
    (since : ∀ turn ∈ turns, last ≤ turn.time) :
    (Stock.periodic ⟨period, some last, false⟩).runs turns =
      everyPeriod period (turns.dropWhile (·.time < last + period)) := by
  induction turns generalizing last with
  | nil => rw [runs, List.dropWhile_nil, everyPeriod]
  | cons turn later ih =>
      obtain ⟨further, ordered⟩ := List.pairwise_cons.mp ordered
      rw [List.forall_mem_cons] at since
      by_cases early : turn.time < last + period
      · have due : (Stock.periodic ⟨period, some last, false⟩).isDue turn.time = false := by
          simp only [isDue, Periodic.isDue, Bool.not_false, Bool.true_and, decide_eq_false_iff_not]
          omega
        rw [runs_cons_of_not_due due, List.dropWhile_cons_of_pos (by simpa using early)]
        exact ih ordered since.2
      · have due : (Stock.periodic ⟨period, some last, false⟩).isDue turn.time = true := by
          simp only [isDue, Periodic.isDue, Bool.not_false, Bool.true_and, decide_eq_true_iff]
          omega
        rw [runs_of_due due, List.dropWhile_cons_of_neg (by simpa using early), everyPeriod,
          ih ordered further]

theorem runs_deferred {command : Deferred} (waiting : command.isFinished = false)
    (turns : List Turn) : (Stock.deferred command).runs turns =
      (turns.find? (command.due ≤ ·.time)).toList := by
  obtain ⟨due, isFinished⟩ := command
  cases waiting
  induction turns with
  | nil => rfl
  | cons turn later ih =>
      have isDue : (Stock.deferred ⟨due, false⟩).isDue turn.time = decide (due ≤ turn.time) := by
        rw [Stock.isDue, Deferred.isDue, Bool.not_false, Bool.true_and]
      rw [List.find?_cons]
      cases reached : decide (due ≤ turn.time) with
      | false =>
          rw [reached] at isDue
          rw [runs_cons_of_not_due isDue]
          exact ih
      | true =>
          rw [reached] at isDue
          rw [runs_cons_of_due isDue, execute_of_due isDue]
          exact congrArg (turn :: ·) (runs_of_idle (fun _ => rfl) later).1

theorem runs_counted (command : Counted) (turns : List Turn) :
    (Stock.counted command).runs turns = turns ∧ (Stock.counted command).after turns =
      .counted { command with runs := command.runs + turns.length } := by
  induction turns generalizing command with
  | nil => exact ⟨rfl, rfl⟩
  | cons turn later ih =>
      obtain ⟨all, counted⟩ := ih command.execute
      refine ⟨congrArg (turn :: ·) all, counted.trans ?_⟩
      rw [Counted.execute, List.length_cons, Nat.add_assoc, Nat.add_comm 1]

theorem runs_eq_plan {command : Stock} (fresh : command.IsFresh) {turns : List Turn}
    (ordered : Ordered turns) : command.runs turns = command.plan turns := by
  cases command with
  | periodic command =>
      obtain ⟨period, lastRun, isFinished⟩ := command
      obtain ⟨rfl, rfl⟩ : lastRun = none ∧ isFinished = false := fresh
      cases turns with
      | nil => rw [plan, everyPeriod, runs]
      | cons turn later =>
          obtain ⟨further, ordered⟩ := List.pairwise_cons.mp ordered
          rw [runs_of_due rfl, plan, everyPeriod, runs_since ordered further]
  | deferred command => exact runs_deferred fresh turns
  | counted command => exact (runs_counted command turns).1

theorem finished_execute (command : Periodic) (now : Nat) (closure : ClosureEnd) :
    (command.execute now closure).isFinished = true ↔
      command.isFinished = true ∨ command.isDue now = true ∧ closure = .enough := by
  rw [Periodic.execute]
  cases due : command.isDue now with
  | false => simp
  | true => cases closure <;> simp [Periodic.ended, Periodic.started]

theorem finished_periodic (command : Periodic) (turns : List Turn) :
    ∃ later : Periodic, (Stock.periodic command).after turns = .periodic later ∧
      (later.isFinished = true ↔ command.isFinished = true ∨
        ∃ run ∈ (Stock.periodic command).runs turns, run.closure = .enough) := by
  induction turns generalizing command with
  | nil => exact ⟨command, rfl, by simp [runs]⟩
  | cons turn turns ih =>
      obtain ⟨later, same, finished⟩ := ih (command.execute turn.time turn.closure)
      refine ⟨later, same, finished.trans ?_⟩
      rw [finished_execute]
      cases due : command.isDue turn.time with
      | false =>
          -- A call that is not due leaves the command as it is and is no run.
          have early : (Stock.periodic command).isDue turn.time = false := due
          have kept : command.execute turn.time turn.closure = command :=
            Stock.periodic.inj (execute_of_not_due early turn.closure)
          rw [runs_cons_of_not_due early, kept]
          simp
      | true =>
          have due : (Stock.periodic command).isDue turn.time = true := due
          rw [runs_cons_of_due due]
          simp [or_assoc, execute]

theorem finished_deferred (command : Deferred) (turns : List Turn) :
    ∃ later : Deferred, (Stock.deferred command).after turns = .deferred later ∧
      (later.isFinished = true ↔ command.isFinished = true ∨
        (Stock.deferred command).runs turns ≠ []) := by
  induction turns generalizing command with
  | nil => exact ⟨command, rfl, by simp [runs]⟩
  | cons turn turns ih =>
      obtain ⟨later, same, finished⟩ := ih (command.execute turn.time)
      refine ⟨later, same, finished.trans ?_⟩
      cases due : (Stock.deferred command).isDue turn.time with
      | false =>
          have kept : command.execute turn.time = command :=
            Stock.deferred.inj (execute_of_not_due due turn.closure)
          rw [runs_cons_of_not_due due, kept]
      | true =>
          have done : (command.execute turn.time).isFinished = true := by
            rw [isDue] at due
            rw [Deferred.execute, due]
            rfl
          rw [runs_cons_of_due due]
          simp [done]

theorem finished_after {command : Stock} (fresh : command.IsFresh) (turns : List Turn) :
    (command.after turns).isFinished = true ↔
      command.DoneBy (command.runs turns) (command.runs turns) := by
  cases command with
  | periodic command =>
      obtain ⟨later, same, finished⟩ := finished_periodic command turns
      rw [same, isFinished, finished, fresh.2]
      simp [DoneBy]
  | deferred command =>
      obtain ⟨later, same, finished⟩ := finished_deferred command turns
      have waiting : command.isFinished = false := fresh
      rw [same, isFinished, finished, waiting]
      simp [DoneBy]
  | counted command =>
      obtain ⟨bound, runs⟩ := command
      obtain rfl : runs = 0 := fresh
      obtain ⟨all, counted⟩ := runs_counted ⟨bound, 0⟩ turns
      rw [all, counted]
      cases bound <;> simp [DoneBy, isFinished, Counted.isFinished]

theorem finished_started {command : Stock} (fresh : command.IsFresh) {earlier : List Turn}
    {turn : Turn} (due : (command.after earlier).isDue turn.time = true) :
    ((command.after earlier).started turn.time).isFinished = true ↔
      command.DoneBy (command.runs (earlier ++ [turn])) (command.runs earlier) := by
  have begun : command.runs (earlier ++ [turn]) = command.runs earlier ++ [turn] := by
    rw [runs_append, runs_cons_of_due due]
    rfl
  rw [begun]
  have before := finished_after fresh earlier
  cases command with
  | periodic command =>
      obtain ⟨later, same, -⟩ := finished_periodic command earlier
      rw [same] at before ⊢
      exact before
  | deferred command =>
      obtain ⟨later, same, -⟩ := finished_deferred command earlier
      rw [same]
      simp [started, isFinished, DoneBy]
  | counted command =>
      obtain ⟨bound, runs⟩ := command
      obtain rfl : runs = 0 := fresh
      obtain ⟨all, counted⟩ := runs_counted ⟨bound, 0⟩ earlier
      rw [all, counted]
      cases bound <;> simp [DoneBy, started, isFinished, Counted.isFinished, Counted.execute]

end Stock
end HttpServer.Schedule
