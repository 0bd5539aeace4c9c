import HttpServer.Proofs.Schedule.Timing

/-! Ready-made commands on the list of a runner. Whatever else is listed, such a command is called
once for each of its entries in every tick, at times that do not run backwards, and it leaves the
list in the tick in which it finishes or panics. -/
namespace HttpServer.Schedule

variable {σ ι : Type} {behaviour : Behaviour σ ι} {name : ι}

structure Spans (first last : Nat) (turns : List Turn) : Prop where
  le : first ≤ last
  ordered : Ordered turns
  since : ∀ turn ∈ turns, first ≤ turn.time
  before : ∀ turn ∈ turns, turn.time ≤ last

theorem Spans.nil {first last : Nat} (le : first ≤ last) : Spans first last [] :=
  ⟨le, .nil, by simp, by simp⟩

theorem Spans.append {first middle last : Nat} {earlier later : List Turn}
    (front : Spans first middle earlier) (back : Spans middle last later) :
    Spans first last (earlier ++ later) where
  le := Nat.le_trans front.le back.le
  ordered := List.pairwise_append.mpr ⟨front.ordered, back.ordered, fun _ before _ after =>
    Nat.le_trans (front.before _ before) (back.since _ after)⟩
  since := List.forall_mem_append.mpr
    ⟨front.since, fun turn later => Nat.le_trans front.le (back.since turn later)⟩
  before := List.forall_mem_append.mpr
    ⟨fun turn earlier => Nat.le_trans (front.before turn earlier) back.le, back.before⟩

theorem mem_panicked_cons [DecidableEq ι] (state : σ) (command : ι) (rest : List ι) :
    name ∈ (executeAll behaviour state (command :: rest)).panicked ↔
      name = command ∧ (behaviour.execute command state).panicked = true ∨
        name ∈ (executeAll behaviour (behaviour.execute command state).state rest).panicked := by
  rw [executeAll]
  cases panicked : (behaviour.execute command state).panicked <;> simp

/-- A ready-made command among others: what the clock shows, how the command stands, and how its
closure ends if it is run now. -/
structure Role (σ : Type) where
  clock : σ → Nat
  stock : σ → Stock
  closure : σ → ClosureEnd

namespace Role

def turn (role : Role σ) (state : σ) : Turn := ⟨role.clock state, role.closure state⟩

/-- The command of this name is the ready-made one. Nothing but its own executions moves it, and the
clock does not run backwards. -/
structure Plays (role : Role σ) (behaviour : Behaviour σ ι) (name : ι) : Prop where
  own : ∀ state, role.stock (behaviour.execute name state).state =
    (role.stock state).execute (role.clock state) (role.closure state)
  others : ∀ other ≠ name, ∀ state,
    role.stock (behaviour.execute other state).state = role.stock state
  onward : ∀ other state, role.clock state ≤ role.clock (behaviour.execute other state).state
  panicked : ∀ state, (behaviour.execute name state).panicked = true ↔
    (role.stock state).isDue (role.clock state) = true ∧ role.closure state = .panicked
  finished : ∀ state, behaviour.isFinished state name = (role.stock state).isFinished

/-- Between ticks, too, nothing moves the command, and the clock does not run backwards. -/
structure Calm (role : Role σ) (deeds : List (Deed σ ι)) : Prop where
  stock : ∀ change, .change change ∈ deeds → ∀ state, role.stock (change state) = role.stock state
  onward : ∀ change, .change change ∈ deeds → ∀ state, role.clock state ≤ role.clock (change state)

theorem Calm.tail {role : Role σ} {deed : Deed σ ι} {deeds : List (Deed σ ι)}
    (calm : role.Calm (deed :: deeds)) : role.Calm deeds where
  stock change listed := calm.stock change (List.mem_cons_of_mem _ listed)
  onward change listed := calm.onward change (List.mem_cons_of_mem _ listed)

variable [DecidableEq ι]

def roundTurns (role : Role σ) (behaviour : Behaviour σ ι) (name : ι) (state : σ) :
    List ι → List Turn
  | [] => []
  | command :: rest =>
      let later := role.roundTurns behaviour name (behaviour.execute command state).state rest
      if command = name then role.turn state :: later else later

def turns (role : Role σ) (behaviour : Behaviour σ ι) (name : ι) (runner : Runner σ ι) :
    List (Deed σ ι) → List Turn
  | [] => []
  | .tick :: later =>
      role.roundTurns behaviour name runner.state runner.commands ++
        role.turns behaviour name (runner.tick behaviour) later
  | deed :: later => role.turns behaviour name (runner.undergo behaviour deed) later

variable {role : Role σ} {runner : Runner σ ι}

theorem turns_append (runner : Runner σ ι) (earlier later : List (Deed σ ι)) :
    role.turns behaviour name runner (earlier ++ later) =
      role.turns behaviour name runner earlier ++
        role.turns behaviour name (runner.replay behaviour earlier) later := by
  induction earlier generalizing runner with
  | nil => rfl
  | cons deed earlier ih =>
      cases deed with
      | add command => exact ih _
      | change change => exact ih _
      | tick => exact (congrArg (_ ++ ·) (ih _)).trans (List.append_assoc ..).symm

namespace Plays

theorem stock_round (plays : role.Plays behaviour name) (state : σ) (commands : List ι) :
    role.stock (executeAll behaviour state commands).state =
      (role.stock state).after (role.roundTurns behaviour name state commands) := by
  induction commands generalizing state with
  | nil => rfl
  | cons command rest ih =>
      rw [executeAll, roundTurns, ih]
      by_cases own : command = name
      · rw [if_pos own, own, plays.own]
        rfl
      · rw [if_neg own, plays.others command own]

theorem spans_round (plays : role.Plays behaviour name) (state : σ) (commands : List ι) :
    Spans (role.clock state) (role.clock (executeAll behaviour state commands).state)
      (role.roundTurns behaviour name state commands) := by
  induction commands generalizing state with
  | nil => exact .nil (Nat.le_refl _)
  | cons command rest ih =>
      have later := (Spans.nil (plays.onward command state)).append (ih _)
      rw [roundTurns]
      by_cases own : command = name
      · have now : Spans (role.clock state) (role.clock state) [role.turn state] :=
          ⟨Nat.le_refl _, List.pairwise_singleton _ _, by simp [turn], by simp [turn]⟩
        rw [if_pos own]
        exact now.append later
      · rw [if_neg own]
        exact later

theorem panicked_round (plays : role.Plays behaviour name) (state : σ) (commands : List ι) :
    name ∈ (executeAll behaviour state commands).panicked ↔
      ∃ run ∈ (role.stock state).runs (role.roundTurns behaviour name state commands),
        run.closure = .panicked := by
  induction commands generalizing state with
  | nil => simp [executeAll, roundTurns, Stock.runs]
  | cons command rest ih =>
      have later := ih (behaviour.execute command state).state
      rw [mem_panicked_cons, later, roundTurns]
      by_cases own : command = name
      · cases own
        rw [if_pos rfl, plays.own, plays.panicked]
        cases due : (role.stock state).isDue (role.clock state) with
        | false =>
            have early : (role.stock state).isDue (role.turn state).time = false := due
            rw [Stock.runs_cons_of_not_due early, Stock.execute_of_not_due due]
            simp
        | true =>
            have due : (role.stock state).isDue (role.turn state).time = true := due
            rw [Stock.runs_cons_of_due due]
            simp [turn]
      · rw [if_neg own, plays.others command own]
        simp [Ne.symm own]

theorem stock_replay (plays : role.Plays behaviour name) {deeds : List (Deed σ ι)}
    (calm : role.Calm deeds) (runner : Runner σ ι) :
    role.stock (runner.replay behaviour deeds).state =
      (role.stock runner.state).after (role.turns behaviour name runner deeds) := by
  induction deeds generalizing runner with
  | nil => rfl
  | cons deed later ih =>
      rw [Runner.replay, ih calm.tail]
      cases deed with
      | add command => rfl
      | change change =>
          have still := calm.stock change List.mem_cons_self runner.state
          exact congrArg (Stock.after · _) still
      | tick =>
          have moved := plays.stock_round runner.state runner.commands
          rw [turns, Stock.after_append, ← moved]
          rfl

theorem spans_replay (plays : role.Plays behaviour name) {deeds : List (Deed σ ι)}
    (calm : role.Calm deeds) (runner : Runner σ ι) :
    Spans (role.clock runner.state) (role.clock (runner.replay behaviour deeds).state)
      (role.turns behaviour name runner deeds) := by
  induction deeds generalizing runner with
  | nil => exact .nil (Nat.le_refl _)
  | cons deed later ih =>
      have rest := ih calm.tail (runner.undergo behaviour deed)
      cases deed with
      | add command => exact rest
      | change change =>
          exact (Spans.nil (calm.onward change List.mem_cons_self runner.state)).append rest
      | tick => exact (plays.spans_round runner.state runner.commands).append rest

theorem drops_iff (plays : role.Plays behaviour name) (runner : Runner σ ι) {calls : List Turn}
    (called : role.roundTurns behaviour name runner.state runner.commands = calls) :
    runner.drops behaviour name = true ↔
      (∃ run ∈ (role.stock runner.state).runs calls, run.closure = .panicked) ∨
        ((role.stock runner.state).after calls).isFinished = true := by
  cases called
  rw [Runner.drops, Bool.or_eq_true, List.contains_iff_mem, plays.finished, Runner.round,
    plays.panicked_round, plays.stock_round]

end Plays
end Role

/-- A tick of a runner after some deeds, with respect to a command that was fresh at first. The tick
drops the command if the closure panics in a run that is made now, or if the command is finished
after the runs so far. Then no entry of it remains; else all remain, with those that the tick has
added. -/
structure PrunedIn [DecidableEq ι] (command : Stock) (behaviour : Behaviour σ ι) (role : Role σ)
    (name : ι) (runner : Runner σ ι) (deeds : List (Deed σ ι)) : Prop where
  ordered : Ordered (role.turns behaviour name runner (deeds ++ [.tick]))
  drops : (runner.replay behaviour deeds).drops behaviour name = true ↔
    let before := command.plan (role.turns behaviour name runner deeds)
    let runs := command.plan (role.turns behaviour name runner (deeds ++ [.tick]))
    (∃ run ∈ runs.drop before.length, run.closure = .panicked) ∨ command.DoneBy runs runs
  dropped : (runner.replay behaviour deeds).drops behaviour name = true →
    name ∉ (runner.replay behaviour (deeds ++ [.tick])).commands
  kept : (runner.replay behaviour deeds).drops behaviour name = false →
    (runner.replay behaviour (deeds ++ [.tick])).commands.count name =
      (runner.replay behaviour deeds).commands.count name +
        ((runner.replay behaviour deeds).round behaviour).added.count name

/-- What a fresh command does in any calls in order: it runs its closure as planned, and is finished
from the run on, or the end of the run, that is its last. Among the commands of a runner it stays on
the list up to the tick in which it is finished or panics. -/
structure KeepsTime (command : Stock) : Prop where
  runs : ∀ turns, Ordered turns → command.runs turns = command.plan turns
  finished : ∀ turns, Ordered turns → ((command.after turns).isFinished = true ↔
    command.DoneBy (command.plan turns) (command.plan turns))
  meanwhile : ∀ earlier turn, Ordered (earlier ++ [turn]) →
    (command.after earlier).isDue turn.time = true →
      (((command.after earlier).started turn.time).isFinished = true ↔
        command.DoneBy (command.plan (earlier ++ [turn])) (command.plan earlier))
  pruned : ∀ {σ ι : Type} [DecidableEq ι] (behaviour : Behaviour σ ι) (role : Role σ) (name : ι)
    (runner : Runner σ ι) (deeds : List (Deed σ ι)), role.Plays behaviour name →
      role.stock runner.state = command → role.Calm deeds →
        PrunedIn command behaviour role name runner deeds

theorem replay_append [DecidableEq ι] (runner : Runner σ ι) (earlier later : List (Deed σ ι)) :
    runner.replay behaviour (earlier ++ later) =
      (runner.replay behaviour earlier).replay behaviour later := by
  induction earlier generalizing runner with
  | nil => rfl
  | cons deed earlier ih => exact ih _

theorem count_tick [DecidableEq ι] {runner : Runner σ ι}
    (kept : runner.drops behaviour name = false) : (runner.tick behaviour).commands.count name =
      runner.commands.count name + (runner.round behaviour).added.count name := by
  rw [Runner.commands_tick, List.count_filter (by rw [kept]; rfl), List.count_append]

theorem prunedIn [DecidableEq ι] {command : Stock} {role : Role σ} {deeds : List (Deed σ ι)}
    {runner : Runner σ ι} (fresh : command.IsFresh) (plays : role.Plays behaviour name)
    (same : role.stock runner.state = command) (calm : role.Calm deeds) :
    PrunedIn command behaviour role name runner deeds := by
  have stands := plays.stock_replay calm runner
  have earlier := plays.spans_replay calm runner
  have now := plays.spans_round (runner.replay behaviour deeds).state
    (runner.replay behaviour deeds).commands
  have calls : role.turns behaviour name runner (deeds ++ [.tick]) =
      role.turns behaviour name runner deeds ++
        role.roundTurns behaviour name (runner.replay behaviour deeds).state
          (runner.replay behaviour deeds).commands := by
    rw [Role.turns_append, Role.turns, Role.turns, List.append_nil]
  have all := earlier.append now
  constructor
  case ordered => exact calls ▸ all.ordered
  case drops =>
    rw [same] at stands
    rw [plays.drops_iff _ rfl, stands, ← Stock.after_append, Stock.finished_after fresh, calls,
      ← Stock.runs_eq_plan fresh all.ordered, ← Stock.runs_eq_plan fresh earlier.ordered,
      Stock.runs_append]
    dsimp only
    rw [List.drop_left]
  case dropped =>
    intro drops
    rw [replay_append]
    exact Runner.not_mem_tick drops
  case kept =>
    intro kept
    rw [replay_append]
    exact count_tick kept

theorem keepsTime_of_isFresh {command : Stock} (fresh : command.IsFresh) : KeepsTime command where
  runs turns ordered := Stock.runs_eq_plan fresh ordered
  finished turns ordered := by rw [Stock.finished_after fresh, Stock.runs_eq_plan fresh ordered]
  meanwhile earlier turn ordered due := by
    rw [Stock.finished_started fresh due, Stock.runs_eq_plan fresh ordered,
      Stock.runs_eq_plan fresh (List.pairwise_append.mp ordered).1]
  pruned behaviour role name runner deeds plays same calm := prunedIn fresh plays same calm

/-- Ready-made commands under one clock, which stands still while they are executed. -/
structure Shelf (ι : Type) where
  clock : Nat
  stock : ι → Stock

namespace Shelf

def executing [DecidableEq ι] (closure : ι → Nat → ClosureEnd) : Behaviour (Shelf ι) ι where
  execute name shelf :=
    { state :=
        { shelf with
          stock := fun other =>
            if other = name then (shelf.stock name).execute shelf.clock (closure name shelf.clock)
            else shelf.stock other }
      panicked := (shelf.stock name).isDue shelf.clock && closure name shelf.clock = .panicked }
  isFinished shelf name := (shelf.stock name).isFinished

def role (closure : ι → Nat → ClosureEnd) (name : ι) : Role (Shelf ι) :=
  ⟨clock, (·.stock name), fun shelf => closure name shelf.clock⟩

def forward (time : Nat) (shelf : Shelf ι) : Shelf ι := { shelf with clock := shelf.clock + time }

theorem plays_role [DecidableEq ι] (closure : ι → Nat → ClosureEnd) (name : ι) :
    (role closure name).Plays (executing closure) name where
  own _ := if_pos rfl
  others _ other _ := if_neg other.symm
  onward _ _ := Nat.le_refl _
  panicked _ := by simp [executing, role]
  finished _ := rfl

theorem calm_forward {deeds : List (Deed (Shelf ι) ι)} (closure : ι → Nat → ClosureEnd) (name : ι)
    (forwards : ∀ change, .change change ∈ deeds → ∃ time, change = forward time) :
    (role closure name).Calm deeds where
  stock change listed := by
    obtain ⟨time, rfl⟩ := forwards change listed
    exact fun _ => rfl
  onward change listed := by
    obtain ⟨time, rfl⟩ := forwards change listed
    exact fun shelf => Nat.le_add_right shelf.clock time

end Shelf

/-- A command that repeats its closure every five units of time: called at 3, 6, 8 and 20, it runs
at 3 and at 8, where the closure has had enough. Ticked at 5 and at 10, where the closure panics, it
is taken off the list. -/
theorem keepsTime_everyFive :
    let command := Stock.periodic { period := 5 }
    let closure := fun (_ : Unit) (now : Nat) => if now < 10 then ClosureEnd.again else .panicked
    let runner : Runner (Shelf Unit) Unit := ⟨⟨0, fun _ => command⟩, [()]⟩
    let deeds := [.change (Shelf.forward 5), .tick, .change (Shelf.forward 5)]
    command.IsFresh ∧ KeepsTime command ∧
      command.plan [⟨3, .again⟩, ⟨6, .again⟩, ⟨8, .enough⟩, ⟨20, .again⟩] =
        [⟨3, .again⟩, ⟨8, .enough⟩] ∧
      PrunedIn command (Shelf.executing closure) (Shelf.role closure ()) () runner deeds ∧
      (runner.replay (Shelf.executing closure) deeds).commands = [()] ∧
      (runner.replay (Shelf.executing closure) (deeds ++ [.tick])).commands = [] := by
  intro command closure runner deeds
  have fresh : command.IsFresh := ⟨rfl, rfl⟩
  have keeps := keepsTime_of_isFresh fresh
  refine ⟨fresh, keeps, ?plan, ?pruned, rfl, rfl⟩
  case plan =>
    rw [← keeps.runs _ (by unfold Ordered; decide)]
    rfl
  case pruned =>
    have forwards : ∀ change, .change change ∈ deeds → ∃ time, change = Shelf.forward time :=
      fun change listed => ⟨5, by simpa [deeds] using listed⟩
    have calm := Shelf.calm_forward closure () forwards
    exact keeps.pruned _ _ _ runner deeds (Shelf.plays_role _ _) rfl calm

end HttpServer.Schedule
