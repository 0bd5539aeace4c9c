import HttpServer.Workers
import Mathlib.Data.List.Perm.Subperm
import Mathlib.Data.List.Nodup
import Mathlib.Data.List.Range

/-! Waiting for the threads of an event loop by their number. A slot that is held for a worker goes
to whichever thread begins next, and what a thread leaves when it ends is not held for anyone. So the
wait is over once every thread that has begun has ended and there have been as many as there are
workers; a worker that is late is not waited for if another thread has been there instead. -/
namespace HttpServer

namespace Workers

/-- A thread of an event loop: one of the workers that are made with it, or one that is made
later. -/
inductive Thread where
  | worker (index : Nat)
  | further (index : Nat)
  deriving DecidableEq, Repr

def Thread.isFurther : Thread → Bool
  | .worker _ => false
  | .further _ => true

/-- There are only so many workers, but any number of other threads. -/
def Thread.Belongs (workers : Nat) : Thread → Prop
  | .worker index => index < workers
  | .further _ => True

instance (workers : Nat) : DecidablePred (Thread.Belongs workers)
  | .worker index => inferInstanceAs (Decidable (index < workers))
  | .further _ => inferInstanceAs (Decidable True)

inductive Turn where
  | begins (thread : Thread)
  | ends (thread : Thread)
  deriving DecidableEq, Repr

def Turn.event : Turn → Event
  | .begins _ => .started
  | .ends _ => .stopped

def begun (turns : List Turn) : List Thread :=
  turns.filterMap fun
    | .begins thread => some thread
    | .ends _ => none

def ended (turns : List Turn) : List Thread :=
  turns.filterMap fun
    | .begins _ => none
    | .ends thread => some thread

/-- The count in an event loop that is made with so many workers. -/
def after (workers : Nat) (turns : List Turn) : Workers :=
  replay {} (.reserve workers :: turns.map (·.event))

/-- The turns of the threads of an event loop with so many workers, in whatever order they take
them: no thread begins twice, and none ends twice or before it has begun. -/
inductive Course (workers : Nat) : List Turn → Prop
  | made : Course workers []
  | begins {turns : List Turn} (course : Course workers turns) (thread : Thread)
      (belongs : thread.Belongs workers) (first : thread ∉ begun turns) :
      Course workers (turns ++ [.begins thread])
  | ends {turns : List Turn} (course : Course workers turns) (thread : Thread)
      (runs : thread ∈ begun turns) (first : thread ∉ ended turns) :
      Course workers (turns ++ [.ends thread])

def missing (workers : Nat) (turns : List Turn) : List Nat :=
  (List.range workers).filter fun index => .worker index ∉ begun turns

def others (turns : List Turn) : List Thread := (begun turns).filter (·.isFurther)

theorem mem_others {turns : List Turn} {thread : Thread} :
    thread ∈ others turns ↔ thread ∈ begun turns ∧ thread.isFurther = true :=
  List.mem_filter

section Turns

variable (turns : List Turn) (thread : Thread)

@[simp] theorem begun_begins : begun (turns ++ [.begins thread]) = begun turns ++ [thread] :=
  List.filterMap_append

@[simp] theorem begun_ends : begun (turns ++ [.ends thread]) = begun turns := by
  rw [begun, List.filterMap_append]
  exact List.append_nil _

@[simp] theorem ended_begins : ended (turns ++ [.begins thread]) = ended turns := by
  rw [ended, List.filterMap_append]
  exact List.append_nil _

@[simp] theorem ended_ends : ended (turns ++ [.ends thread]) = ended turns ++ [thread] :=
  List.filterMap_append

theorem after_nil (workers : Nat) : after workers [] = ⟨workers, workers⟩ := by
  simp only [after, replay, List.map_nil, List.foldl_cons, List.foldl_nil, update, reserve,
    Nat.zero_add]

theorem after_snoc (workers : Nat) (turn : Turn) :
    after workers (turns ++ [turn]) = (after workers turns).update turn.event := by
  rw [after, replay, List.map_append, ← List.cons_append, List.foldl_append]
  rfl

end Turns

section Courses

variable {workers : Nat} {turns : List Turn}

theorem Course.nodup_begun (course : Course workers turns) : (begun turns).Nodup := by
  induction course with
  | made => exact List.nodup_nil
  | begins _ _ _ first ih =>
      rw [begun_begins, ← List.concat_eq_append]
      exact ih.concat first
  | ends _ _ _ _ ih => rwa [begun_ends]

theorem Course.nodup_ended (course : Course workers turns) : (ended turns).Nodup := by
  induction course with
  | made => exact List.nodup_nil
  | begins _ _ _ _ ih => rwa [ended_begins]
  | ends _ _ _ first ih =>
      rw [ended_ends, ← List.concat_eq_append]
      exact ih.concat first

theorem Course.ended_subset (course : Course workers turns) : ended turns ⊆ begun turns := by
  induction course with
  | made => exact List.Subset.refl []
  | begins _ _ _ _ ih =>
      rw [begun_begins, ended_begins]
      exact List.subset_append_of_subset_left _ ih
  | ends _ _ runs _ ih =>
      rw [begun_ends, ended_ends]
      exact List.append_subset.2 ⟨ih, List.cons_subset.2 ⟨runs, List.nil_subset _⟩⟩

theorem Course.belongs (course : Course workers turns) {thread : Thread}
    (runs : thread ∈ begun turns) : thread.Belongs workers := by
  induction course with
  | made => cases runs
  | begins _ _ belongs _ ih =>
      rw [begun_begins, List.mem_append, List.mem_singleton] at runs
      rcases runs with earlier | rfl
      · exact ih earlier
      · exact belongs
  | ends _ _ _ _ ih =>
      rw [begun_ends] at runs
      exact ih runs

theorem Course.length_ended_le (course : Course workers turns) :
    (ended turns).length ≤ (begun turns).length :=
  course.nodup_ended.length_le_of_subset course.ended_subset

/-- What is counted is the threads that run and the slots that are held, as many as there are
workers beyond the threads that have begun. -/
theorem Course.count (course : Course workers turns) :
    (after workers turns).live + (ended turns).length = max workers (begun turns).length ∧
      (after workers turns).reserved = workers - (begun turns).length := by
  induction course with
  | made =>
      rw [after_nil]
      exact ⟨(Nat.max_zero workers).symm, rfl⟩
  | @begins turns _ thread _ _ ih =>
      obtain ⟨live, reserved⟩ := ih
      rw [after_snoc, begun_begins, ended_begins, List.length_append, List.length_singleton]
      change (started _).live + _ = _ ∧ (started _).reserved = _
      rw [started]
      split <;> simp only <;> omega
  | @ends turns course thread runs first ih =>
      obtain ⟨live, reserved⟩ := ih
      have room := (course.ends thread runs first).length_ended_le
      rw [begun_ends, ended_ends, List.length_append, List.length_singleton] at room
      rw [after_snoc, begun_ends, ended_ends, List.length_append, List.length_singleton]
      change (stopped _).live + _ = _ ∧ (stopped _).reserved = _
      rw [stopped]
      simp only
      omega

theorem Course.perm_begun (course : Course workers turns) :
    (begun turns).Perm
      (((List.range workers).filter fun index => .worker index ∈ begun turns).map .worker ++
        others turns) := by
  have workersOnce :
      (((List.range workers).filter fun index => .worker index ∈ begun turns).map
        Thread.worker).Nodup :=
    (List.nodup_range.filter _).map fun _ _ same => Thread.worker.inj same
  have apart (thread : Thread) (is : thread ∈ ((List.range workers).filter
      fun index => .worker index ∈ begun turns).map Thread.worker) : thread ∉ others turns := by
    obtain ⟨index, -, rfl⟩ := List.mem_map.1 is
    exact fun other => Bool.false_ne_true (mem_others.1 other).2
  refine (List.perm_ext_iff_of_nodup course.nodup_begun
    (workersOnce.append (course.nodup_begun.filter _) apart)).2 fun thread => ?_
  rw [List.mem_append, List.mem_map, List.mem_filter]
  cases thread with
  | worker index =>
      refine ⟨fun runs => .inl ⟨index, ?_, rfl⟩, ?_⟩
      · exact List.mem_filter.2 ⟨List.mem_range.2 (course.belongs runs), decide_eq_true runs⟩
      · rintro (⟨_, listed, same⟩ | ⟨runs, -⟩)
        · cases same
          exact of_decide_eq_true (List.mem_filter.1 listed).2
        · exact runs
  | further index =>
      refine ⟨fun runs => .inr ⟨runs, rfl⟩, ?_⟩
      rintro (⟨_, -, same⟩ | ⟨runs, -⟩)
      · cases same
      · exact runs

theorem Course.length_begun (course : Course workers turns) :
    (begun turns).length + (missing workers turns).length = workers + (others turns).length := by
  have all := List.length_eq_length_filter_add (l := List.range workers)
    fun index => .worker index ∈ begun turns
  simp only [List.length_range, ← decide_not] at all
  rw [course.perm_begun.length_eq, List.length_append, List.length_map, missing]
  omega

theorem Course.length_ended_eq_iff (course : Course workers turns) :
    (ended turns).length = (begun turns).length ↔ ∀ thread ∈ begun turns, thread ∈ ended turns := by
  constructor
  · intro same thread runs
    have all := (course.nodup_ended.subperm course.ended_subset).perm_of_length_le same.ge
    exact all.mem_iff.2 runs
  · intro all
    exact Nat.le_antisymm course.length_ended_le (course.nodup_begun.length_le_of_subset all)

/-- Nothing is counted any more if every thread that has begun has ended and the others have been as
many as the missing workers. -/
theorem Course.live_eq_zero_iff (course : Course workers turns) :
    (after workers turns).live = 0 ↔ (∀ thread ∈ begun turns, thread ∈ ended turns) ∧
      (missing workers turns).length ≤ (others turns).length := by
  obtain ⟨live, -⟩ := course.count
  have le := course.length_ended_le
  have all := course.length_begun
  rw [← course.length_ended_eq_iff]
  omega

theorem Course.isIdle_iff (course : Course workers turns) (running : Bool) :
    (after workers turns).isIdle running = true ↔
      running = false ∧ (∀ thread ∈ begun turns, thread ∈ ended turns) ∧
        (missing workers turns).length ≤ (others turns).length := by
  rw [isIdle, Bool.and_eq_true, Bool.not_eq_true', beq_iff_eq, course.live_eq_zero_iff]

theorem mem_begun_of_missing_eq_nil (none : missing workers turns = []) {index : Nat}
    (made : index < workers) : .worker index ∈ begun turns := by
  have found := List.filter_eq_nil_iff.1 none index (List.mem_range.2 made)
  exact Decidable.not_not.1 fun absent => found (decide_eq_true absent)

/-- When the wait for the threads of an event loop is over. -/
structure Waits (workers : Nat) (turns : List Turn) (running : Bool) : Prop where
  /-- It is over if and only if the event loop has been stopped, every thread that has begun has
  ended, and no more workers have not begun than there have been other threads. -/
  over_iff : (after workers turns).isIdle running = true ↔
    running = false ∧ (∀ thread ∈ begun turns, thread ∈ ended turns) ∧
      (missing workers turns).length ≤ (others turns).length
  /-- If no thread but a worker begins before all workers have, all have begun and ended then. -/
  all : (after workers turns).isIdle running = true →
    (others turns ≠ [] → missing workers turns = []) →
      ∀ index < workers, .worker index ∈ begun turns ∧ .worker index ∈ ended turns

/-- The wait is like this in every course of events. -/
theorem Course.waits (course : Course workers turns) (running : Bool) :
    Waits workers turns running where
  over_iff := course.isIdle_iff running
  all idle late index made := by
    obtain ⟨-, all, few⟩ := (course.isIdle_iff running).1 idle
    have none : missing workers turns = [] := by
      by_cases alone : others turns = []
      · rw [alone, List.length_nil, Nat.le_zero] at few
        exact List.eq_nil_of_length_eq_zero few
      · exact late alone
    have runs := mem_begun_of_missing_eq_nil none made
    exact ⟨runs, all _ runs⟩

/-- The wait for two workers is over though only one has begun, and another thread besides. -/
theorem waits_two :
    let turns := [.begins (.worker 1), .begins (.further 0), .ends (.worker 1), .ends (.further 0)]
    Course 2 turns ∧ Waits 2 turns false := by
  have course := (((Course.made : Course 2 []).begins (.worker 1) (by decide) (by decide)).begins
    (.further 0) trivial (by decide)).ends (.worker 1) (by decide) (by decide)
  have course := course.ends (.further 0) (by decide) (by decide)
  exact ⟨course, course.waits false⟩

/-- The wait for one worker is over before it has begun, since another thread has been there. -/
theorem isIdle_before_worker :
    let turns := [.begins (.further 0), .ends (.further 0)]
    Course 1 turns ∧ (after 1 turns).isIdle false = true ∧ .worker 0 ∉ begun turns :=
  ⟨(Course.made.begins (.further 0) trivial (by decide)).ends (.further 0) (by decide) (by decide),
    by decide, by decide⟩

end Courses

def passing (count : Nat) : List Turn :=
  (List.range count).flatMap fun index => [.begins (.further index), .ends (.further index)]

theorem passing_succ (count : Nat) : passing (count + 1) =
    passing count ++ [.begins (.further count)] ++ [.ends (.further count)] := by
  rw [passing, List.range_succ, List.flatMap_append, List.append_assoc]
  rfl

theorem begun_passing (count : Nat) : begun (passing count) = (List.range count).map .further := by
  induction count with
  | zero => rfl
  | succ count ih =>
      rw [passing_succ, begun_ends, begun_begins, ih, List.range_succ, List.map_append]
      rfl

theorem ended_passing (count : Nat) : ended (passing count) = (List.range count).map .further := by
  induction count with
  | zero => rfl
  | succ count ih =>
      rw [passing_succ, ended_ends, ended_begins, ih, List.range_succ, List.map_append]
      rfl

theorem further_not_mem (count : Nat) : .further count ∉ (List.range count).map Thread.further :=
  fun listed => by
    obtain ⟨index, less, same⟩ := List.mem_map.1 listed
    cases same
    exact Nat.lt_irrefl _ (List.mem_range.1 less)

theorem course_passing (workers count : Nat) : Course workers (passing count) := by
  induction count with
  | zero => exact .made
  | succ count ih =>
      have first := further_not_mem count
      have begins : Course workers (passing count ++ [.begins (.further count)]) :=
        ih.begins (.further count) trivial (by rwa [begun_passing])
      rw [passing_succ]
      refine begins.ends (.further count) ?_ ?_
      · rw [begun_begins]
        exact List.mem_append_right _ (List.mem_singleton_self _)
      · rwa [ended_begins, ended_passing]

/-- However many workers there are, it can be that the wait is over before one of them has begun. -/
theorem exists_isIdle_forall_missing (workers : Nat) :
    ∃ turns, Course workers turns ∧ (after workers turns).isIdle false = true ∧
      ∀ index < workers, .worker index ∉ begun turns := by
  have absent (index : Nat) : .worker index ∉ begun (passing workers) := by
    rw [begun_passing]
    intro listed
    obtain ⟨_, -, same⟩ := List.mem_map.1 listed
    cases same
  refine ⟨passing workers, course_passing workers workers, ?_, fun index _ => absent index⟩
  refine ((course_passing workers workers).isIdle_iff false).2 ⟨rfl, ?_, ?_⟩
  · rw [begun_passing, ended_passing]
    exact fun _ => id
  · have enough : others (passing workers) = (List.range workers).map .further := by
      rw [others, begun_passing]
      exact List.filter_eq_self.2 fun thread listed => by
        obtain ⟨_, -, rfl⟩ := List.mem_map.1 listed
        rfl
    rw [enough, List.length_map]
    exact List.length_filter_le _ _

end Workers
end HttpServer
