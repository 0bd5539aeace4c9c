import HttpServer.Schedule.Timer
import HttpServer.Proofs.Schedule.History
import Mathlib.Logic.Relation
import Mathlib.Logic.Function.Iterate

/-! The timed loop of a runner. It waits for the time of its next tick and for the signal to end,
and where both have come it ends. If the signal does not come at the very time of a tick, the runner
is left as by ticks at equal intervals, as many as there is time for, and none comes after the loop
has returned. Each call of the loop counts its intervals anew. -/
namespace HttpServer.Schedule

section Timer

variable {τ : Type} {tick : τ → τ} {interval : Nat}

theorem fire_eq_iterate (positive : 0 < interval) {stop count : Nat} {deadline : Nat} {state : τ}
    (reached : stop ≤ deadline + count * interval)
    (before : ∀ earlier < count, deadline + earlier * interval < stop) :
    fire tick interval stop deadline state = tick^[count] state := by
  induction count generalizing deadline state with
  | zero =>
      rw [fire, if_pos (.inr (by omega))]
      rfl
  | succ count ih =>
      have first := before 0 (Nat.succ_pos count)
      rw [fire, if_neg (by omega)]
      apply ih
      · rw [Nat.succ_mul] at reached
        omega
      · intro earlier less
        have next := before (earlier + 1) (Nat.succ_lt_succ less)
        rw [Nat.succ_mul] at next
        omega

theorem eq_div_of_not_dvd {time count : Nat} (apart : ¬interval ∣ time)
    (since : count * interval ≤ time) (before : time ≤ (count + 1) * interval) :
    count = time / interval := by
  have differ : time ≠ (count + 1) * interval := fun same => apart (same ▸ Nat.dvd_mul_left ..)
  exact (Nat.div_eq_of_lt_le since (Nat.lt_of_le_of_ne before differ)).symm

/-- A timer that is not stopped at the very time of a tick ticks once for each interval. -/
theorem runFor_of_not_dvd (positive : 0 < interval) {time : Nat} (apart : ¬interval ∣ time)
    (state : τ) : runFor tick interval time state = some (tick^[time / interval] state) := by
  rw [runFor, if_neg (by omega)]
  apply congrArg some
  have split := Nat.div_add_mod time interval
  have rest := Nat.mod_lt time positive
  rw [Nat.mul_comm] at split
  apply fire_eq_iterate positive
  · omega
  · intro earlier less
    have within : (earlier + 1) * interval ≤ time / interval * interval :=
      Nat.mul_le_mul_right interval less
    have differ : time ≠ (earlier + 1) * interval := fun same => apart (same ▸ Nat.dvd_mul_left ..)
    rw [Nat.succ_mul] at within differ
    omega

end Timer

variable {σ ι : Type}

namespace Runner

theorem elapse_zero (flow : Flow σ) (runner : Runner σ ι) : runner.elapse flow 0 = runner := by
  rw [elapse, flow.pass_zero]

theorem elapse_elapse (flow : Flow σ) (time further : Nat) (runner : Runner σ ι) :
    (runner.elapse flow time).elapse flow further = runner.elapse flow (time + further) := by
  rw [elapse, elapse, elapse, flow.pass_add]

end Runner

variable [DecidableEq ι]

def Loop.Reaches (clockwork : Clockwork σ ι) (session : Session) (start : Nat) :
    Loop σ ι → Loop σ ι → Prop :=
  Relation.ReflTransGen (Loop.Step clockwork session start)

def Clockwork.times (clockwork : Clockwork σ ι) (start count : Nat) : List Nat :=
  (List.range count).map fun earlier => start + (earlier + 1) * clockwork.interval

/-- What a call of the loop leaves behind when it returns. -/
def Session.leaves (session : Session) (clockwork : Clockwork σ ι) (runner : Runner σ ι) :
    Runner σ ι :=
  (clockwork.round^[session.time / clockwork.interval] runner).elapse clockwork.flow
    (session.time % clockwork.interval)

/-- What is promised of a call of the loop: it returns when it is told to end. By then it has ticked
after each full interval, and afterwards it does not tick. -/
structure Session.Refines (session : Session) (clockwork : Clockwork σ ι) (start : Nat)
    (runner : Runner σ ι) : Prop where
  timer : runFor clockwork.round clockwork.interval session.time runner =
    some (clockwork.round^[session.time / clockwork.interval] runner)
  onward : ∀ loop, Loop.Reaches clockwork session start (.begun clockwork start runner) loop →
    ∃ next, Loop.Step clockwork session start loop next
  returns : ∀ course : Nat → Loop σ ι, course 0 = .begun clockwork start runner →
    (∀ n, Loop.Step clockwork session start (course n) (course (n + 1))) →
      ∃ n, (course n).phase = .returned ∧ (course n).now = start + session.time
  leaves : ∀ loop, Loop.Reaches clockwork session start (.begun clockwork start runner) loop →
    loop.phase = .returned →
      loop.ticks = clockwork.times start (session.time / clockwork.interval) ∧
        start + session.time ≤ loop.now ∧
        loop.runner = (session.leaves clockwork runner).elapse clockwork.flow
          (loop.now - (start + session.time))

namespace Loop

variable {clockwork : Clockwork σ ι} {session : Session} {start : Nat} {runner : Runner σ ι}
  {loop next : Loop σ ι}

/-- Where a loop stands that has ticked so often. -/
structure Stands (clockwork : Clockwork σ ι) (session : Session) (start : Nat) (runner : Runner σ ι)
    (count : Nat) (loop : Loop σ ι) : Prop where
  ticks : loop.ticks = clockwork.times start count
  deadline : loop.deadline = start + (count + 1) * clockwork.interval
  since : start + count * clockwork.interval ≤ loop.now
  runner : loop.runner = (clockwork.round^[count] runner).elapse clockwork.flow
    (loop.now - (start + count * clockwork.interval))
  waits : loop.phase = .waiting → loop.now ≤ loop.deadline ∧ loop.now ≤ start + session.time
  told : ∀ signal, loop.phase = .told signal →
    loop.now = start + session.time ∧ count = session.time / clockwork.interval
  returned : loop.phase = .returned →
    start + session.time ≤ loop.now ∧ count = session.time / clockwork.interval

theorem stands_begun (clockwork : Clockwork σ ι) (session : Session) (start : Nat)
    (runner : Runner σ ι) :
    Stands clockwork session start runner 0 (begun clockwork start runner) where
  ticks := rfl
  deadline := by rw [begun, Nat.zero_add, Nat.one_mul]
  since := by rw [Nat.zero_mul]; exact Nat.le_refl start
  runner := by
    rw [begun, Nat.zero_mul, Nat.add_zero, Nat.sub_self]
    exact (Runner.elapse_zero _ _).symm
  waits _ := ⟨Nat.le_add_right .., Nat.le_add_right ..⟩
  told _ phase := nomatch phase
  returned phase := nomatch phase

theorem Stands.tick {count : Nat} (stands : Stands clockwork session start runner count loop)
    (waits : loop.phase = .waiting) (due : loop.deadline ≤ loop.now) :
    Stands clockwork session start runner (count + 1)
      { loop with
        deadline := loop.deadline + clockwork.interval
        runner := loop.runner.tick clockwork.behaviour
        ticks := loop.ticks ++ [loop.now] } := by
  -- No time passes beyond a deadline, so a tick that is due comes at its very time.
  obtain ⟨early, untold⟩ := stands.waits waits
  have deadline := stands.deadline
  have now : loop.now = start + (count + 1) * clockwork.interval := by omega
  constructor
  case ticks => simp only [stands.ticks, now, Clockwork.times, List.range_succ, List.map_append,
    List.map_singleton]
  case deadline =>
    rw [Nat.succ_mul (count + 1)]
    exact (congrArg (· + clockwork.interval) deadline).trans (Nat.add_assoc ..)
  case since => exact Nat.le_of_eq now.symm
  case runner =>
    have full : start + (count + 1) * clockwork.interval - (start + count * clockwork.interval) =
        clockwork.interval := by
      rw [Nat.succ_mul]
      omega
    rw [now, Nat.sub_self, Runner.elapse_zero, Function.iterate_succ_apply', stands.runner, now,
      full]
    rfl
  case waits => exact fun _ => ⟨Nat.le_trans early (Nat.le_add_right ..), untold⟩
  case told => exact fun _ told => nomatch waits.symm.trans told
  case returned => exact fun returned => nomatch waits.symm.trans returned

theorem Stands.tell {count : Nat} (stands : Stands clockwork session start runner count loop)
    (apart : ¬clockwork.interval ∣ session.time) (waits : loop.phase = .waiting)
    (now : loop.now = start + session.time) (signal : Signal) :
    Stands clockwork session start runner count { loop with phase := .told signal } where
  ticks := stands.ticks
  deadline := stands.deadline
  since := stands.since
  runner := stands.runner
  waits phase := nomatch phase
  returned phase := nomatch phase
  told _ _ := by
    have since := stands.since
    have early := (stands.waits waits).1
    rw [stands.deadline, now] at early
    rw [now] at since
    exact ⟨now, eq_div_of_not_dvd apart (Nat.le_of_add_le_add_left since)
      (Nat.le_of_add_le_add_left early)⟩

theorem Stands.leave {count : Nat} {signal : Signal}
    (stands : Stands clockwork session start runner count loop)
    (told : loop.phase = .told signal) :
    Stands clockwork session start runner count { loop with phase := .returned } where
  ticks := stands.ticks
  deadline := stands.deadline
  since := stands.since
  runner := stands.runner
  waits phase := nomatch phase
  told _ phase := nomatch phase
  returned _ := ⟨Nat.le_of_eq (stands.told signal told).1.symm, (stands.told signal told).2⟩

theorem Stands.elapse {count time : Nat}
    (stands : Stands clockwork session start runner count loop)
    (waits : loop.phase = .waiting →
      loop.now + time ≤ loop.deadline ∧ loop.now + time ≤ start + session.time)
    (untold : ∀ signal, loop.phase ≠ .told signal) :
    Stands clockwork session start runner count
      { loop with
        now := loop.now + time
        runner := loop.runner.elapse clockwork.flow time } where
  ticks := stands.ticks
  deadline := stands.deadline
  since := Nat.le_add_right_of_le stands.since
  runner := by rw [stands.runner, Runner.elapse_elapse, Nat.sub_add_comm stands.since]
  waits := waits
  told signal phase := absurd phase (untold signal)
  returned phase := ⟨Nat.le_add_right_of_le (stands.returned phase).1, (stands.returned phase).2⟩

theorem Step.stands (step : Step clockwork session start loop next) {count : Nat}
    (apart : ¬clockwork.interval ∣ session.time)
    (stands : Stands clockwork session start runner count loop) :
    ∃ count, Stands clockwork session start runner count next := by
  cases step with
  | tick waits due => exact ⟨_, stands.tick waits due⟩
  | tell waits now => exact ⟨_, stands.tell apart waits now _⟩
  | leave told => exact ⟨_, stands.leave told⟩
  | wait waits positive early untold =>
      refine ⟨_, stands.elapse (fun _ => ⟨early, untold⟩) fun _ told => ?_⟩
      cases waits.symm.trans told
  | pass time returned =>
      refine ⟨_, stands.elapse (fun waits => ?_) fun _ told => ?_⟩
      · cases waits.symm.trans returned
      · cases told.symm.trans returned

theorem Reaches.stands
    (reaches : Reaches clockwork session start (begun clockwork start runner) loop)
    (apart : ¬clockwork.interval ∣ session.time) :
    ∃ count, Stands clockwork session start runner count loop := by
  induction reaches with
  | refl => exact ⟨0, stands_begun ..⟩
  | tail _ step ih =>
      obtain ⟨count, stands⟩ := ih
      exact step.stands apart stands

theorem exists_step (clockwork : Clockwork σ ι) {count : Nat}
    (stands : Stands clockwork session start runner count loop) :
    ∃ next, Step clockwork session start loop next := by
  cases phase : loop.phase with
  | told signal => exact ⟨_, .leave phase⟩
  | returned => exact ⟨_, .pass 0 phase⟩
  | waiting =>
      obtain ⟨early, untold⟩ := stands.waits phase
      by_cases now : loop.now = start + session.time
      · exact ⟨_, .tell phase now⟩
      · by_cases due : loop.deadline ≤ loop.now
        · exact ⟨_, .tick phase due⟩
        · exact ⟨_, .wait phase Nat.one_pos (by omega) (by omega)⟩

/-- A bound on what can still happen to a waiting loop before it is told to end. -/
def ahead (clockwork : Clockwork σ ι) (stop : Nat) (loop : Loop σ ι) : Nat :=
  (stop - loop.now) + (stop + clockwork.interval - loop.deadline)

theorem Step.of_waiting (step : Step clockwork session start loop next)
    (waits : loop.phase = .waiting) (positive : 0 < clockwork.interval) {count : Nat}
    (stands : Stands clockwork session start runner count loop) :
    next.phase = .told session.signal ∨
      next.phase = .waiting ∧
        ahead clockwork (start + session.time) next <
          ahead clockwork (start + session.time) loop := by
  obtain ⟨early, untold⟩ := stands.waits waits
  cases step with
  | tick _ due =>
      right
      refine ⟨waits, ?_⟩
      simp only [ahead]
      omega
  | tell => exact .inl rfl
  | leave told => cases waits.symm.trans told
  | wait _ time early' untold' =>
      right
      refine ⟨waits, ?_⟩
      simp only [ahead]
      omega
  | pass time returned => cases waits.symm.trans returned

theorem Step.of_told (step : Step clockwork session start loop next) {signal : Signal}
    (told : loop.phase = .told signal) : next.phase = .returned ∧ next.now = loop.now := by
  cases step with
  | tick waits => cases told.symm.trans waits
  | tell waits => cases told.symm.trans waits
  | leave => exact ⟨rfl, rfl⟩
  | wait waits => cases told.symm.trans waits
  | pass time returned => cases told.symm.trans returned

theorem exists_returned {course : Nat → Loop σ ι}
    (steps : ∀ n, Step clockwork session start (course n) (course (n + 1)))
    (positive : 0 < clockwork.interval) (apart : ¬clockwork.interval ∣ session.time)
    {bound n count : Nat} (stands : Stands clockwork session start runner count (course n))
    (waits : (course n).phase = .waiting)
    (bounded : ahead clockwork (start + session.time) (course n) < bound) :
    ∃ n, (course n).phase = .returned ∧ (course n).now = start + session.time := by
  -- On the steps until the loop is told to end; the step after that one is its return.
  induction bound generalizing n count with
  | zero => exact absurd bounded (Nat.not_lt_zero _)
  | succ bound ih =>
      obtain ⟨count, later⟩ := (steps n).stands apart stands
      rcases (steps n).of_waiting waits positive stands with told | ⟨waits, less⟩
      · obtain ⟨returned, now⟩ := (steps (n + 1)).of_told told
        exact ⟨n + 2, returned, now.trans (later.told _ told).1⟩
      · exact ih later waits (Nat.lt_of_lt_of_le less (Nat.le_of_lt_succ bounded))

theorem exists_course (clockwork : Clockwork σ ι) (session : Session)
    (apart : ¬clockwork.interval ∣ session.time) (start : Nat) (runner : Runner σ ι) :
    ∃ course : Nat → Loop σ ι, course 0 = begun clockwork start runner ∧
      ∀ n, Step clockwork session start (course n) (course (n + 1)) := by
  -- Only of a loop that stands somewhere it is known that it goes on, so this is carried along.
  have goesOn : ∀ loop : { loop // ∃ count, Stands clockwork session start runner count loop },
      ∃ next : { loop // ∃ count, Stands clockwork session start runner count loop },
        Step clockwork session start loop.1 next.1 := by
    rintro ⟨loop, count, stands⟩
    obtain ⟨next, step⟩ := exists_step clockwork stands
    exact ⟨⟨next, step.stands apart stands⟩, step⟩
  obtain ⟨next, steps⟩ := Classical.skolem.mp goesOn
  refine ⟨fun n => (next^[n] ⟨begun clockwork start runner, 0, stands_begun ..⟩).1, rfl, ?_⟩
  intro n
  dsimp only
  rw [Function.iterate_succ_apply']
  exact steps _

theorem reaches_course {course : Nat → Loop σ ι}
    (steps : ∀ n, Step clockwork session start (course n) (course (n + 1))) (n : Nat) :
    Reaches clockwork session start (course 0) (course n) := by
  induction n with
  | zero => exact .refl
  | succ n ih => exact ih.tail (steps n)

end Loop

theorem Session.refines {clockwork : Clockwork σ ι} {session : Session}
    (positive : 0 < clockwork.interval) (apart : ¬clockwork.interval ∣ session.time) (start : Nat)
    (runner : Runner σ ι) : session.Refines clockwork start runner := by
  constructor
  case timer => exact runFor_of_not_dvd positive apart runner
  case onward =>
    intro loop reaches
    obtain ⟨count, stands⟩ := reaches.stands apart
    exact Loop.exists_step clockwork stands
  case returns =>
    intro course first steps
    have stands := Loop.stands_begun clockwork session start runner
    rw [← first] at stands
    exact Loop.exists_returned steps positive apart stands (congrArg Loop.phase first)
      (Nat.lt_succ_self _)
  case leaves =>
    intro loop reaches returned
    obtain ⟨count, stands⟩ := reaches.stands apart
    obtain ⟨late, rfl⟩ := stands.returned returned
    refine ⟨stands.ticks, late, ?_⟩
    have split := Nat.div_add_mod session.time clockwork.interval
    rw [Nat.mul_comm] at split
    rw [stands.runner, leaves, Runner.elapse_elapse]
    congr 1
    omega

/-- Calls of the loop one after another, with the times of the ticks and of the end. -/
inductive Completes (clockwork : Clockwork σ ι) :
    Nat → Runner σ ι → List Session → List Nat → Nat → Runner σ ι → Prop
  | nil {start : Nat} {runner : Runner σ ι} : Completes clockwork start runner [] [] start runner
  | cons {start : Nat} {runner : Runner σ ι} {session : Session} {loop : Loop σ ι}
      {sessions : List Session} {ticks : List Nat} {stop : Nat} {last : Runner σ ι}
      (reaches : Loop.Reaches clockwork session start (.begun clockwork start runner) loop)
      (returned : loop.phase = .returned)
      (now : loop.now = start + session.time + session.idle)
      (later : Completes clockwork loop.now loop.runner sessions ticks stop last) :
      Completes clockwork start runner (session :: sessions) (loop.ticks ++ ticks) stop last

def Clockwork.outcome (clockwork : Clockwork σ ι) (start : Nat) (runner : Runner σ ι) :
    List Session → List Nat × Nat × Runner σ ι
  | [] => ([], start, runner)
  | session :: later =>
      let rest := clockwork.outcome (start + session.time + session.idle)
        ((session.leaves clockwork runner).elapse clockwork.flow session.idle) later
      (clockwork.times start (session.time / clockwork.interval) ++ rest.1, rest.2)

/-- What is promised of calls of the loop: each does what is promised of it wherever it starts, and
all of them together come to what they come to one by one. -/
structure Clockwork.Refines (clockwork : Clockwork σ ι) (sessions : List Session) : Prop where
  each : ∀ session ∈ sessions, ∀ start runner, session.Refines clockwork start runner
  composed : ∀ start runner ticks stop last,
    Completes clockwork start runner sessions ticks stop last ↔
      clockwork.outcome start runner sessions = (ticks, stop, last)

theorem Session.exists_left {clockwork : Clockwork σ ι} {session : Session}
    (positive : 0 < clockwork.interval) (apart : ¬clockwork.interval ∣ session.time) (start : Nat)
    (runner : Runner σ ι) :
    ∃ loop, Loop.Reaches clockwork session start (.begun clockwork start runner) loop ∧
      loop.phase = .returned ∧ loop.now = start + session.time + session.idle := by
  obtain ⟨course, first, steps⟩ := Loop.exists_course clockwork session apart start runner
  have refines := session.refines positive apart start runner
  obtain ⟨n, returned, now⟩ := refines.returns course first steps
  have reaches := (Loop.reaches_course steps n).tail (.pass session.idle returned)
  rw [first] at reaches
  exact ⟨_, reaches, returned, congrArg (· + session.idle) now⟩

theorem completes_iff {clockwork : Clockwork σ ι} {sessions : List Session}
    (positive : 0 < clockwork.interval)
    (apart : ∀ session ∈ sessions, ¬clockwork.interval ∣ session.time) {start : Nat}
    {runner : Runner σ ι} {ticks : List Nat} {stop : Nat} {last : Runner σ ι} :
    Completes clockwork start runner sessions ticks stop last ↔
      clockwork.outcome start runner sessions = (ticks, stop, last) := by
  induction sessions generalizing start runner ticks with
  | nil =>
      constructor
      · intro completes
        cases completes
        rfl
      · intro same
        cases same
        exact .nil
  | cons session later ih =>
      rw [List.forall_mem_cons] at apart
      have refines := session.refines positive apart.1 start runner
      -- how a loop stands that is about to be called again
      have left : ∀ loop,
          Loop.Reaches clockwork session start (.begun clockwork start runner) loop →
          loop.phase = .returned → loop.now = start + session.time + session.idle →
            loop.ticks = clockwork.times start (session.time / clockwork.interval) ∧
              loop.runner =
                (session.leaves clockwork runner).elapse clockwork.flow session.idle := by
        intro loop reaches returned now
        obtain ⟨ticks, -, same⟩ := refines.leaves loop reaches returned
        rw [now, Nat.add_sub_cancel_left] at same
        exact ⟨ticks, same⟩
      constructor
      · intro completes
        cases completes with
        | cons reaches returned now rest =>
            obtain ⟨ticks, same⟩ := left _ reaches returned now
            rw [now, same, ih apart.2] at rest
            rw [Clockwork.outcome, rest, ticks]
      · intro same
        obtain ⟨loop, reaches, returned, now⟩ := session.exists_left positive apart.1 start runner
        obtain ⟨ticks, same'⟩ := left loop reaches returned now
        rw [Clockwork.outcome, ← ticks] at same
        obtain ⟨rfl, rest⟩ := Prod.mk.inj same
        refine .cons reaches returned now ?_
        rw [now, same', ih apart.2, ← rest]

/-- Calls of the loop that are not told to end at the very time of a tick. -/
theorem Clockwork.refines_ticks {clockwork : Clockwork σ ι} {sessions : List Session}
    (positive : 0 < clockwork.interval)
    (apart : ∀ session ∈ sessions, ¬clockwork.interval ∣ session.time) :
    clockwork.Refines sessions where
  each session listed := session.refines positive (apart session listed)
  composed _ _ _ _ _ := completes_iff positive apart

def threefold : Clockwork (Nat × List Nat) Unit where
  behaviour :=
    { execute := fun _ state => { state := (state.1, state.2 ++ [state.1]) }
      isFinished := fun _ _ => false }
  flow :=
    { pass := fun time state => (state.1 + time, state.2)
      pass_zero := fun _ => rfl
      pass_add := fun time further state => by rw [Nat.add_assoc] }
  interval := 3

/-- The first call has time for two ticks, the second for one, which comes three units after the
call and not after the last tick. -/
theorem refines_threefold :
    let sessions : List Session := [⟨7, .sent, 1⟩, ⟨5, .dropped, 0⟩]
    (0 < threefold.interval ∧ ∀ session ∈ sessions, ¬threefold.interval ∣ session.time) ∧
      threefold.Refines sessions ∧
      threefold.outcome 0 ⟨(0, []), [()]⟩ sessions =
        ([3, 6, 11], 13, ⟨(13, [3, 6, 11]), [()]⟩) := by
  intro sessions
  have positive : 0 < threefold.interval := by decide
  have apart : ∀ session ∈ sessions, ¬threefold.interval ∣ session.time := by decide
  exact ⟨⟨positive, apart⟩, Clockwork.refines_ticks positive apart, rfl⟩

end HttpServer.Schedule
