import HttpServer.Proofs.Schedule.History
import HttpServer.Schedule.Stock

/-! When a command is executed no more. Whether it is done is asked at the end of a tick and not when
its turn comes, and an addition is never refused. So a command that is listed once and afresh is not
executed after it is done; of one that is listed more often, each entry may be executed once too
often. -/
namespace HttpServer.Schedule

variable {σ ι : Type} {behaviour : Behaviour σ ι} {command : ι} {commands : List ι} {state : σ}

theorem executeAll_keeps (Kept : σ → Prop)
    (keeps : ∀ other ∈ commands, ∀ state, Kept state → Kept (behaviour.execute other state).state)
    (kept : Kept state) : Kept (executeAll behaviour state commands).state := by
  induction commands generalizing state with
  | nil => exact kept
  | cons first rest ih =>
      refine ih (fun other listed => keeps other (List.mem_cons_of_mem _ listed)) ?_
      exact keeps first List.mem_cons_self state kept

theorem panicked_subset : (executeAll behaviour state commands).panicked ⊆ commands := by
  obtain ⟨trace, records, same⟩ := exists_records behaviour state commands
  rw [records.panicked, ← same]
  exact (List.filter_sublist.map _).subset

/-- These executions leave a command done: it has panicked in one of them, or it is finished. -/
def Round.Ends (round : Round σ ι) (behaviour : Behaviour σ ι) (command : ι) : Prop :=
  command ∈ round.panicked ∨ behaviour.isFinished round.state command = true

/-- A command that is finished stays so, whatever is executed. -/
def Steady (behaviour : Behaviour σ ι) (command : ι) : Prop :=
  ∀ other state, behaviour.isFinished state command = true →
    behaviour.isFinished (behaviour.execute other state).state command = true

/-- Nothing but its own executions finishes a command. -/
structure Own (behaviour : Behaviour σ ι) (deeds : List (Deed σ ι)) (command : ι) : Prop where
  executions : ∀ other ≠ command, ∀ state, behaviour.isFinished state command = false →
    behaviour.isFinished (behaviour.execute other state).state command = false
  changes : ∀ change, .change change ∈ deeds → ∀ state,
    behaviour.isFinished state command = false → behaviour.isFinished (change state) command = false

/-- A command is finished once it has been executed so often, and nothing but its own executions
counts. -/
structure Limited (behaviour : Behaviour σ ι) (deeds : List (Deed σ ι)) (command : ι)
    (runs : σ → Nat) (limit : Nat) : Prop where
  own : ∀ state, runs (behaviour.execute command state).state = runs state + 1
  others : ∀ other ≠ command, ∀ state, runs (behaviour.execute other state).state = runs state
  changes : ∀ change, .change change ∈ deeds → ∀ state, runs (change state) = runs state
  finished : ∀ state, limit ≤ runs state → behaviour.isFinished state command = true

variable {deed : Deed σ ι} {deeds : List (Deed σ ι)} {runs : σ → Nat} {limit : Nat}

theorem Own.tail (own : Own behaviour (deed :: deeds) command) : Own behaviour deeds command where
  executions := own.executions
  changes change listed := own.changes change (List.mem_cons_of_mem _ listed)

theorem Limited.tail (limited : Limited behaviour (deed :: deeds) command runs limit) :
    Limited behaviour deeds command runs limit where
  own := limited.own
  others := limited.others
  changes change listed := limited.changes change (List.mem_cons_of_mem _ listed)
  finished := limited.finished

theorem Own.not_ends (own : Own behaviour deeds command) (unlisted : command ∉ commands)
    (unfinished : behaviour.isFinished state command = false) :
    ¬(executeAll behaviour state commands).Ends behaviour command := by
  have still : behaviour.isFinished (executeAll behaviour state commands).state command = false :=
    executeAll_keeps (behaviour.isFinished · command = false)
      (fun other listed => own.executions other (ne_of_mem_of_not_mem listed unlisted)) unfinished
  rintro (panicked | finished)
  · exact unlisted (panicked_subset panicked)
  · exact Bool.false_ne_true (still.symm.trans finished)

namespace Runner

variable [DecidableEq ι]

def executions (behaviour : Behaviour σ ι) (runner : Runner σ ι) : List (Deed σ ι) → List ι
  | [] => []
  | .tick :: later =>
      (runner.round behaviour).executed ++ (runner.tick behaviour).executions behaviour later
  | deed :: later => (runner.undergo behaviour deed).executions behaviour later

def fails (behaviour : Behaviour σ ι) (runner : Runner σ ι) : List (Deed σ ι) → ι → Bool
  | [], _ => false
  | .tick :: later, command =>
      (runner.round behaviour).panicked.contains command ||
        (runner.tick behaviour).fails behaviour later command
  | deed :: later, command => (runner.undergo behaviour deed).fails behaviour later command

/-- All entries that are on the list at first or are added to it. -/
def enrolled (behaviour : Behaviour σ ι) (runner : Runner σ ι) (deeds : List (Deed σ ι)) :
    List ι :=
  runner.commands ++ runner.allAdditions behaviour deeds

/-- In one of the ticks among these deeds, the turn of a command comes when it is done: it has
panicked in an earlier tick, or what has been executed in this one leaves it done. -/
def Overruns (behaviour : Behaviour σ ι) (runner : Runner σ ι) (deeds : List (Deed σ ι))
    (command : ι) : Prop :=
  ∃ earlier later early late, deeds = earlier ++ .tick :: later ∧
    (runner.replay behaviour earlier).commands = early ++ command :: late ∧
    (runner.fails behaviour earlier command = true ∨
      (executeAll behaviour (runner.replay behaviour earlier).state early).Ends behaviour command)

/-- An entry of a command stands behind another, and what the next tick executes before its turn
leaves the command done. -/
def Lags (behaviour : Behaviour σ ι) (runner : Runner σ ι) (command : ι) : Prop :=
  ∃ early mid late, runner.commands = early ++ command :: (mid ++ command :: late) ∧
    (executeAll behaviour runner.state (early ++ command :: mid)).Ends behaviour command

variable {runner : Runner σ ι} {earlier later : List (Deed σ ι)}

section Enrolment

theorem commands_undergo_sublist (deed : Deed σ ι) :
    (runner.undergo behaviour deed).commands.Sublist
      (runner.commands ++ runner.additions behaviour deed) := by
  cases deed with
  | add command => exact .refl _
  | change change => exact List.sublist_append_left _ _
  | tick =>
      rw [undergo, commands_tick]
      exact List.filter_sublist

theorem enrolled_undergo_sublist (deed : Deed σ ι) (later : List (Deed σ ι)) :
    ((runner.undergo behaviour deed).enrolled behaviour later).Sublist
      (runner.enrolled behaviour (deed :: later)) := by
  rw [enrolled, enrolled, allAdditions, ← List.append_assoc]
  exact (commands_undergo_sublist deed).append (.refl _)

theorem mem_enrolled_of_mem_replay (later : List (Deed σ ι))
    (listed : command ∈ (runner.replay behaviour earlier).commands) :
    command ∈ runner.enrolled behaviour (earlier ++ later) := by
  induction earlier generalizing runner with
  | nil => exact List.mem_append_left _ listed
  | cons deed earlier ih => exact (enrolled_undergo_sublist deed _).subset (ih listed)

theorem executions_subset (runner : Runner σ ι) (deeds : List (Deed σ ι)) :
    runner.executions behaviour deeds ⊆ runner.enrolled behaviour deeds := by
  induction deeds generalizing runner with
  | nil => exact List.nil_subset _
  | cons deed later ih =>
      have rest := List.Subset.trans (ih (runner.undergo behaviour deed))
        (enrolled_undergo_sublist deed later).subset
      cases deed with
      | tick =>
          rw [executions, executed_round]
          exact List.append_subset.2 ⟨List.subset_append_left _ _, rest⟩
      | _ => exact rest

theorem not_mem_enrolled_tick (dropped : runner.drops behaviour command = true)
    (unlisted : command ∉ (runner.tick behaviour).allAdditions behaviour later) :
    command ∉ (runner.tick behaviour).enrolled behaviour later := fun listed =>
  (List.mem_append.1 listed).elim (not_mem_tick dropped) unlisted

end Enrolment

section Turns

theorem mem_of_drops (own : Own behaviour deeds command)
    (unfinished : behaviour.isFinished runner.state command = false)
    (dropped : runner.drops behaviour command = true) : command ∈ runner.commands := by
  by_cases listed : command ∈ runner.commands
  · exact listed
  · rw [drops, Bool.or_eq_true, List.contains_iff_mem] at dropped
    exact absurd dropped (own.not_ends listed unfinished)

theorem not_overruns (runner : Runner σ ι) (own : Own behaviour deeds command)
    (unfinished : behaviour.isFinished runner.state command = false)
    (once : (runner.enrolled behaviour deeds).count command ≤ 1) :
    ¬runner.Overruns behaviour deeds command := by
  rintro ⟨earlier, later, early, late, rfl, listed, done⟩
  induction earlier generalizing runner with
  | nil =>
      -- The entry is the only one, so nothing before it in the round is the command's.
      have alone : command ∉ early := by
        intro before
        have twice : 2 ≤ runner.commands.count command := by
          rw [show runner.commands = early ++ command :: late from listed, List.count_append,
            List.count_cons_self]
          have := List.count_pos_iff.2 before
          omega
        rw [enrolled, List.count_append] at once
        omega
      rcases done with failed | ends
      · cases failed
      · exact own.not_ends alone unfinished ends
  | cons deed earlier ih =>
      have onceMore := Nat.le_trans ((enrolled_undergo_sublist deed _).count_le command) once
      cases deed with
      | add added => exact ih (runner.add added) unfinished own.tail onceMore listed done
      | change change =>
          exact ih (runner.undergo behaviour (.change change))
            (own.changes change List.mem_cons_self _ unfinished) own.tail onceMore listed done
      | tick =>
          cases dropped : runner.drops behaviour command with
          | true =>
              -- Its only entry is gone, and no other comes.
              have spent := List.count_pos_iff.2 (mem_of_drops own unfinished dropped)
              have unlisted : command ∉ (runner.tick behaviour).allAdditions behaviour
                  (earlier ++ .tick :: later) := by
                intro added
                have := List.count_pos_iff.2 added
                rw [enrolled, List.cons_append, allAdditions, List.count_append,
                  List.count_append] at once
                simp only [undergo] at once
                omega
              refine not_mem_enrolled_tick dropped unlisted (mem_enrolled_of_mem_replay _ ?_)
              have entry : command ∈ early ++ command :: late :=
                List.mem_append_right _ List.mem_cons_self
              rwa [← listed] at entry
          | false =>
              rw [drops, Bool.or_eq_false_iff] at dropped
              refine ih (runner.tick behaviour) dropped.2 own.tail onceMore listed
                (done.imp_left fun failed => ?_)
              rwa [fails, dropped.1, Bool.false_or] at failed

/-- The turn of a command comes when it is done if it is listed when it is done already, or if it is
listed twice and its turn is behind the one that ends it. There is no other way. -/
theorem overruns_iff (steady : Steady behaviour command) (own : Own behaviour deeds command) :
    runner.Overruns behaviour deeds command ↔ ∃ earlier later, deeds = earlier ++ .tick :: later ∧
      command ∈ (runner.replay behaviour earlier).commands ∧
        (runner.fails behaviour earlier command = true ∨
          behaviour.isFinished (runner.replay behaviour earlier).state command = true ∨
          (runner.replay behaviour earlier).Lags behaviour command) := by
  constructor
  · rintro ⟨earlier, later, early, late, split, listed, done⟩
    have entry : command ∈ (runner.replay behaviour earlier).commands := by
      rw [listed]
      exact List.mem_append_right _ List.mem_cons_self
    refine ⟨earlier, later, split, entry, done.imp_right fun ends => ?_⟩
    cases unfinished : behaviour.isFinished (runner.replay behaviour earlier).state command with
    | true => exact .inl rfl
    | false =>
        -- It was not done when the tick began, so one of its own turns has come before.
        by_cases before : command ∈ early
        · obtain ⟨first, mid, rfl⟩ := List.append_of_mem before
          rw [List.append_assoc, List.cons_append] at listed
          exact .inr ⟨first, mid, late, listed, ends⟩
        · exact absurd ends (own.not_ends before unfinished)
  · rintro ⟨earlier, later, split, entry, done⟩
    obtain ⟨early, late, listed⟩ := List.append_of_mem entry
    rcases done with failed | finished | ⟨first, mid, rest, twice, ends⟩
    · exact ⟨earlier, later, early, late, split, listed, .inl failed⟩
    · refine ⟨earlier, later, early, late, split, listed, .inr (.inr ?_)⟩
      exact executeAll_keeps (behaviour.isFinished · command = true)
        (fun other _ => steady other) finished
    · refine ⟨earlier, later, first ++ command :: mid, rest, split, ?_, .inr ends⟩
      rw [twice, List.append_assoc, List.cons_append]

end Turns

theorem runs_executeAll (limited : Limited behaviour deeds command runs limit) (state : σ)
    (commands : List ι) : runs (executeAll behaviour state commands).state =
      runs state + commands.count command := by
  induction commands generalizing state with
  | nil => rfl
  | cons first rest ih =>
      rw [executeAll, ih, List.count_cons]
      by_cases same : first = command
      · rw [same, limited.own, beq_self_eq_true, if_pos rfl]
        omega
      · rw [limited.others first same, if_neg (by simpa using same), Nat.add_zero]

theorem count_executions_le (runner : Runner σ ι)
    (limited : Limited behaviour deeds command runs limit) :
    (runner.executions behaviour deeds).count command ≤
      (limit - 1 - runs runner.state) + (runner.enrolled behaviour deeds).count command := by
  induction deeds generalizing runner with
  | nil => exact Nat.zero_le _
  | cons deed later ih =>
      have rest := ih (runner.undergo behaviour deed) limited.tail
      have less : ((runner.undergo behaviour deed).enrolled behaviour later).count command ≤ _ :=
        (enrolled_undergo_sublist deed later).count_le command
      cases deed with
      | add added => exact Nat.le_trans rest (Nat.add_le_add_left less _)
      | change change =>
          have same : runs (runner.undergo behaviour (.change change)).state = runs runner.state :=
            limited.changes change List.mem_cons_self _
          rw [same] at rest
          exact Nat.le_trans rest (Nat.add_le_add_left less _)
      | tick =>
          have ran : runs (runner.undergo behaviour .tick).state =
              runs runner.state + runner.commands.count command :=
            runs_executeAll limited runner.state runner.commands
          have now : (runner.executions behaviour (.tick :: later)).count command =
              runner.commands.count command +
                ((runner.undergo behaviour .tick).executions behaviour later).count command := by
            rw [executions, executed_round, List.count_append]
            rfl
          rw [now]
          by_cases full : limit ≤ runs (runner.undergo behaviour .tick).state
          · -- Finished, the command leaves the list, and only what is added later counts.
            have finished : behaviour.isFinished (runner.round behaviour).state command = true :=
              limited.finished _ full
            have dropped : runner.drops behaviour command = true := by
              rw [drops, finished, Bool.or_true]
            have none : (runner.undergo behaviour .tick).commands.count command = 0 :=
              List.count_eq_zero.2 (not_mem_tick dropped)
            rw [enrolled, List.count_append, none] at rest
            rw [enrolled, allAdditions, List.count_append, List.count_append]
            omega
          · omega

/-- When the executions of a command come to an end, in the course of these deeds. -/
structure Retires (behaviour : Behaviour σ ι) (runner : Runner σ ι) (deeds : List (Deed σ ι))
    (command : ι) : Prop where
  /-- Once a tick has dropped it, because it panicked or is finished, it is executed no more unless
  it is added again. -/
  dropped : ∀ {earlier later}, deeds = earlier ++ .tick :: later →
    (runner.replay behaviour earlier).drops behaviour command = true →
      command ∉ ((runner.replay behaviour earlier).tick behaviour).allAdditions behaviour later →
        command ∉ ((runner.replay behaviour earlier).tick behaviour).executions behaviour later
  /-- If it stays finished, and only its own executions finish it, its turn comes when it is done in
  these cases and no others. -/
  overruns_iff : Steady behaviour command → Own behaviour deeds command →
    (runner.Overruns behaviour deeds command ↔ ∃ earlier later,
      deeds = earlier ++ .tick :: later ∧
      command ∈ (runner.replay behaviour earlier).commands ∧
        (runner.fails behaviour earlier command = true ∨
          behaviour.isFinished (runner.replay behaviour earlier).state command = true ∨
          (runner.replay behaviour earlier).Lags behaviour command))
  /-- If it is enrolled once and not finished then, and only its own executions finish it, its turn
  never comes when it is done. -/
  timely : Own behaviour deeds command → behaviour.isFinished runner.state command = false →
    (runner.enrolled behaviour deeds).count command ≤ 1 → ¬runner.Overruns behaviour deeds command
  /-- If it is finished after so many executions, it is executed so often at most, and once more for
  each entry beyond the first. -/
  bounded : ∀ {runs limit}, Limited behaviour deeds command runs limit →
    (runner.executions behaviour deeds).count command ≤
      (limit - 1 - runs runner.state) + (runner.enrolled behaviour deeds).count command

/-- Every command retires like this, whatever happens to its runner. -/
theorem retires (behaviour : Behaviour σ ι) (state : σ) (initial : List ι)
    (deeds : List (Deed σ ι)) (command : ι) :
    Retires behaviour ⟨state, initial⟩ deeds command where
  dropped _ dropped unlisted executed :=
    not_mem_enrolled_tick dropped unlisted (executions_subset _ _ executed)
  overruns_iff steady own := Runner.overruns_iff steady own
  timely own unfinished once := not_overruns _ own unfinished once
  bounded limited := count_executions_le _ limited

section Counting

variable (bound : Nat)

/-- A command that counts its executions and is finished after so many. -/
def counting (bound : Nat) : Behaviour Nat Unit where
  execute _ runs := { state := (Counted.execute ⟨some bound, runs⟩).runs }
  isFinished runs _ := (⟨some bound, runs⟩ : Counted).isFinished

theorem limited_counting {deeds : List (Deed Nat Unit)}
    (calm : ∀ change, .change change ∉ deeds) : Limited (counting bound) deeds () id bound where
  own _ := rfl
  others _ other := absurd rfl other
  changes change listed := absurd listed (calm change)
  finished _ full := decide_eq_true full

theorem tick_counting {runs : Nat} (unfinished : runs + 1 < bound) :
    tick (counting bound) ⟨runs, [()]⟩ = ⟨runs + 1, [()]⟩ := by
  have unfinished : (counting bound).isFinished (runs + 1) () = false :=
    decide_eq_false (Nat.not_le_of_lt unfinished)
  have kept : drops (counting bound) ⟨runs, [()]⟩ () = false := unfinished
  have commands : (tick (counting bound) ⟨runs, [()]⟩).commands = [()] := by
    rw [commands_tick]
    exact List.filter_cons_of_pos (by rw [kept]; rfl)
  have whole : tick (counting bound) ⟨runs, [()]⟩ =
      ⟨runs + 1, (tick (counting bound) ⟨runs, [()]⟩).commands⟩ := rfl
  rw [whole, commands]

theorem ticks_counting (runs count : Nat) (later : List (Deed Nat Unit))
    (unfinished : runs + count < bound) :
    executions (counting bound) ⟨runs, [()]⟩ (List.replicate count .tick ++ later) =
        List.replicate count () ++ executions (counting bound) ⟨runs + count, [()]⟩ later ∧
      allAdditions (counting bound) ⟨runs, [()]⟩ (List.replicate count .tick ++ later) =
        allAdditions (counting bound) ⟨runs + count, [()]⟩ later := by
  induction count generalizing runs with
  | zero => exact ⟨rfl, rfl⟩
  | succ count ih =>
      obtain ⟨executed, added⟩ := ih (runs + 1) (by omega)
      have next : tick (counting bound) ⟨runs, [()]⟩ = _ := tick_counting bound (by omega)
      rw [List.replicate_succ, List.replicate_succ, List.cons_append, executions, allAdditions,
        undergo, next, executed, added, Nat.add_right_comm, Nat.add_assoc]
      exact ⟨rfl, rfl⟩

theorem added_counting (state : Nat) (commands : List Unit) :
    (executeAll (counting bound) state commands).added = [] := by
  induction commands generalizing state with
  | nil => rfl
  | cons _ rest ih => exact ih _

theorem adds_counting (runner : Runner Nat Unit) (count : Nat) :
    executions (counting bound) runner (List.replicate count (.add ()) ++ [.tick]) =
        runner.commands ++ List.replicate count () ∧
      allAdditions (counting bound) runner (List.replicate count (.add ()) ++ [.tick]) =
        List.replicate count () := by
  induction count generalizing runner with
  | zero =>
      have none : (runner.round (counting bound)).added = [] := added_counting _ _ _
      constructor
      · show (runner.round (counting bound)).executed ++ [] = _
        rw [executed_round]
        rfl
      · show (runner.round (counting bound)).added ++ [] = _
        rw [none]
        rfl
  | succ count ih =>
      obtain ⟨executed, added⟩ := ih (runner.add ())
      rw [List.replicate_succ, List.cons_append]
      constructor
      · show executions (counting bound) (runner.add ()) _ = _
        rw [executed]
        exact List.append_assoc _ [()] _
      · show [()] ++ allAdditions (counting bound) (runner.add ()) _ = _
        rw [added]
        rfl

/-- However often a command may be executed until it is finished, and however many entries it has
beyond the first, it can be executed once more for each of these. -/
theorem exists_count_executions_eq (more : Nat) :
    ∃ deeds : List (Deed Nat Unit), Limited (counting (bound + 1)) deeds () id (bound + 1) ∧
      (enrolled (counting (bound + 1)) ⟨0, [()]⟩ deeds).count () = more + 1 ∧
      (executions (counting (bound + 1)) ⟨0, [()]⟩ deeds).count () = bound + 1 + more := by
  obtain ⟨executed, added⟩ := ticks_counting (bound + 1) 0 bound
    (List.replicate more (.add ()) ++ [.tick]) (by omega)
  obtain ⟨executedLast, addedLast⟩ := adds_counting (bound + 1) ⟨0 + bound, [()]⟩ more
  refine ⟨List.replicate bound .tick ++ (List.replicate more (.add ()) ++ [.tick]), ?_, ?_, ?_⟩
  · refine limited_counting _ fun change listed => ?_
    simp at listed
  · rw [enrolled, added, addedLast, List.count_append, List.count_replicate_self]
    exact Nat.add_comm _ _
  · rw [executed, executedLast, List.count_append, List.count_append, List.count_replicate_self,
      List.count_replicate_self]
    exact (Nat.add_assoc _ _ _).symm

/-- A command that is finished by its first execution, and is never unfinished again, is executed
thrice if it is listed twice and then added again. -/
theorem overruns_counting :
    let runner : Runner Nat Unit := ⟨0, [(), ()]⟩
    let deeds : List (Deed Nat Unit) := [.tick, .add (), .tick]
    Steady (counting 1) () ∧ runner.Overruns (counting 1) deeds () ∧
      runner.executions (counting 1) deeds = [(), (), ()] :=
  ⟨fun _ _ full => decide_eq_true (Nat.le_succ_of_le (of_decide_eq_true full)),
    ⟨[], [.add (), .tick], [()], [], rfl, rfl, .inr (.inr rfl)⟩, rfl⟩

end Counting

end Runner
end HttpServer.Schedule
