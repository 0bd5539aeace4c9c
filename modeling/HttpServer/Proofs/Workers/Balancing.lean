import HttpServer.Proofs.Workers.Waiting

/-! The balance of the worker count. Slots may be held and given up at any time, between the turns of
threads in any order. What counts as alive is always the slots that are held and the threads that run,
so no step takes more from the count than is there. -/
namespace HttpServer

namespace Workers

inductive Act where
  | reserve (slots : Nat)
  | releaseUnclaimed
  | turn (turn : Turn)
  deriving DecidableEq, Repr

def Act.event : Act → Event
  | .reserve slots => .reserve slots
  | .releaseUnclaimed => .releaseUnclaimed
  | .turn taken => taken.event

def turnsAmong (acts : List Act) : List Turn :=
  acts.filterMap fun
    | .turn turn => some turn
    | .reserve _ | .releaseUnclaimed => none

def Act.slots : Act → Nat
  | .reserve slots => slots
  | .releaseUnclaimed | .turn _ => 0

/-- All slots that have ever been held. -/
def slotsAmong : List Act → Nat
  | [] => 0
  | act :: acts => act.slots + slotsAmong acts

/-- The count after all that is done, nothing being counted before. -/
def counted (acts : List Act) : Workers := replay {} (acts.map (·.event))

def running (turns : List Turn) : List Thread := (begun turns).filter (· ∉ ended turns)

/-- What may be done in what order: anything at any time, but a thread begins only once, and ends only
while it runs. -/
inductive History : List Act → Prop
  | new : History []
  | reserve {acts : List Act} (history : History acts) (slots : Nat) :
      History (acts ++ [.reserve slots])
  | releaseUnclaimed {acts : List Act} (history : History acts) :
      History (acts ++ [.releaseUnclaimed])
  | begins {acts : List Act} (history : History acts) (thread : Thread)
      (first : thread ∉ begun (turnsAmong acts)) : History (acts ++ [.turn (.begins thread)])
  | ends {acts : List Act} (history : History acts) (thread : Thread)
      (runs : thread ∈ running (turnsAmong acts)) : History (acts ++ [.turn (.ends thread)])

theorem mem_running {turns : List Turn} {thread : Thread} :
    thread ∈ running turns ↔ thread ∈ begun turns ∧ thread ∉ ended turns := by
  rw [running, List.mem_filter, decide_eq_true_iff]

section Acts

variable (acts : List Act)

@[simp] theorem turnsAmong_reserve (slots : Nat) :
    turnsAmong (acts ++ [.reserve slots]) = turnsAmong acts := by
  rw [turnsAmong, List.filterMap_append]
  exact List.append_nil _

@[simp] theorem turnsAmong_releaseUnclaimed :
    turnsAmong (acts ++ [.releaseUnclaimed]) = turnsAmong acts := by
  rw [turnsAmong, List.filterMap_append]
  exact List.append_nil _

@[simp] theorem turnsAmong_turn (turn : Turn) :
    turnsAmong (acts ++ [.turn turn]) = turnsAmong acts ++ [turn] :=
  List.filterMap_append

theorem slotsAmong_snoc (act : Act) : slotsAmong (acts ++ [act]) = slotsAmong acts + act.slots := by
  induction acts with
  | nil => exact Nat.add_comm _ _
  | cons first acts ih => rw [List.cons_append, slotsAmong, ih, slotsAmong, Nat.add_assoc]

theorem counted_snoc (act : Act) : counted (acts ++ [act]) = (counted acts).update act.event := by
  rw [counted, replay, List.map_append, List.foldl_append]
  rfl

end Acts

section Steps

variable {workers : Workers} {threads : Nat}

/-- So many threads run, and what counts as alive is these and the slots that are held. -/
def Balances (workers : Workers) (threads : Nat) : Prop :=
  workers.live = workers.reserved + threads

theorem Balances.reserve (balances : workers.Balances threads) (slots : Nat) :
    (workers.reserve slots).Balances threads := by
  change workers.live + slots = workers.reserved + slots + threads
  rw [balances, Nat.add_right_comm]

theorem Balances.releaseUnclaimed (balances : workers.Balances threads) :
    workers.releaseUnclaimed = ⟨threads, 0⟩ := by
  rw [Workers.releaseUnclaimed, balances, Nat.add_sub_cancel_left]

theorem Balances.started (balances : workers.Balances threads) :
    workers.started.Balances (threads + 1) := by
  unfold Balances at balances
  rw [Workers.started]
  split
  · next held =>
    change workers.live = workers.reserved - 1 + (threads + 1)
    omega
  · next none =>
    change workers.live + 1 = workers.reserved + (threads + 1)
    omega

theorem Balances.stopped (balances : workers.Balances (threads + 1)) :
    workers.stopped.Balances threads ∧ workers.stopped.live + 1 = workers.live := by
  unfold Balances at balances
  constructor
  · change workers.live - 1 = workers.reserved + threads
    omega
  · change workers.live - 1 + 1 = workers.live
    omega

end Steps

section Enlarging

variable {workers more : Nat} {turns : List Turn}

theorem Thread.Belongs.mono {thread : Thread} (belongs : thread.Belongs workers)
    (le : workers ≤ more) : thread.Belongs more := by
  cases thread with
  | worker index => exact Nat.lt_of_lt_of_le belongs le
  | further index => trivial

theorem Thread.exists_belongs (thread : Thread) : ∃ workers, thread.Belongs workers := by
  cases thread with
  | worker index => exact ⟨index + 1, Nat.lt_succ_self index⟩
  | further index => exact ⟨0, trivial⟩

theorem Course.mono (course : Course workers turns) (le : workers ≤ more) : Course more turns := by
  induction course with
  | made => exact .made
  | begins _ thread belongs first ih => exact ih.begins thread (belongs.mono le) first
  | ends _ thread runs first ih => exact ih.ends thread runs first

end Enlarging

section Running

variable {workers : Nat} {turns : List Turn} {thread : Thread}

theorem Course.running_begins (course : Course workers turns) (first : thread ∉ begun turns) :
    running (turns ++ [.begins thread]) = running turns ++ [thread] := by
  have notEnded : thread ∉ ended turns := fun ended => first (course.ended_subset ended)
  rw [running, begun_begins, ended_begins, List.filter_append, ← running, List.filter_singleton,
    decide_eq_true notEnded]
  rfl

theorem Course.running_ends (course : Course workers turns) :
    running (turns ++ [.ends thread]) = (running turns).erase thread := by
  have once : (running turns).Nodup := course.nodup_begun.filter _
  rw [once.erase_eq_filter, running, running, begun_ends, ended_ends, List.filter_filter]
  refine List.filter_congr fun other _ => ?_
  rw [Bool.eq_iff_iff, Bool.and_eq_true, bne_iff_ne, decide_eq_true_iff, decide_eq_true_iff,
    List.mem_append, List.mem_singleton, not_or, and_comm]

theorem Course.length_running_ends (course : Course workers turns) (runs : thread ∈ running turns) :
    (running turns).length = (running (turns ++ [.ends thread])).length + 1 := by
  rw [course.running_ends, List.length_erase_of_mem runs]
  exact (Nat.sub_add_cancel (List.length_pos_of_mem runs)).symm

end Running

section Histories

variable {acts : List Act}

theorem History.exists_course (history : History acts) :
    ∃ workers, Course workers (turnsAmong acts) := by
  -- Only a thread that begins may want more workers than there were.
  induction history with
  | new => exact ⟨0, .made⟩
  | reserve _ slots ih => rwa [turnsAmong_reserve]
  | releaseUnclaimed _ ih => rwa [turnsAmong_releaseUnclaimed]
  | begins _ thread first ih =>
      obtain ⟨workers, course⟩ := ih
      obtain ⟨more, belongs⟩ := thread.exists_belongs
      rw [turnsAmong_turn]
      exact ⟨max workers more, (course.mono (Nat.le_max_left _ _)).begins thread
        (belongs.mono (Nat.le_max_right _ _)) first⟩
  | ends _ thread runs ih =>
      obtain ⟨workers, course⟩ := ih
      obtain ⟨begun, first⟩ := mem_running.1 runs
      rw [turnsAmong_turn]
      exact ⟨workers, course.ends thread begun first⟩

theorem History.balances (history : History acts) :
    (counted acts).Balances (running (turnsAmong acts)).length := by
  induction history with
  | new => rfl
  | reserve _ slots ih =>
      rw [counted_snoc, turnsAmong_reserve]
      exact ih.reserve slots
  | releaseUnclaimed _ ih =>
      rw [counted_snoc, turnsAmong_releaseUnclaimed]
      change (counted _).releaseUnclaimed.Balances _
      rw [ih.releaseUnclaimed]
      exact (Nat.zero_add _).symm
  | begins history thread first ih =>
      obtain ⟨_, course⟩ := history.exists_course
      rw [counted_snoc, turnsAmong_turn, course.running_begins first, List.length_append]
      exact ih.started
  | ends history thread runs ih =>
      obtain ⟨_, course⟩ := history.exists_course
      rw [course.length_running_ends runs] at ih
      rw [counted_snoc, turnsAmong_turn]
      exact ih.stopped.1

theorem reserved_started_le (workers : Workers) : workers.started.reserved ≤ workers.reserved := by
  rw [started]
  split
  · exact Nat.sub_le _ _
  · exact Nat.le_refl _

theorem reserved_le_slotsAmong (acts : List Act) : (counted acts).reserved ≤ slotsAmong acts := by
  induction acts using List.reverseRecOn with
  | nil => exact Nat.le_refl _
  | append_singleton acts act ih =>
      rw [counted_snoc, slotsAmong_snoc]
      cases act with
      | reserve slots => exact Nat.add_le_add_right ih slots
      | releaseUnclaimed => exact Nat.zero_le _
      | turn turn =>
          cases turn with
          | begins thread => exact Nat.le_trans (reserved_started_le _) ih
          | ends thread => exact ih

/-- What the count says, and what may be taken from it next. -/
structure Accounts (acts : List Act) : Prop where
  /-- Slots count as alive and as unclaimed from when they are held. -/
  held : ∀ slots, counted (acts ++ [.reserve slots]) =
    ⟨(counted acts).live + slots, (counted acts).reserved + slots⟩
  /-- A thread that begins takes one of them, if there are any, and is not counted twice. -/
  claimed : ∀ thread, 0 < (counted acts).reserved →
    counted (acts ++ [.turn (.begins thread)]) =
      ⟨(counted acts).live, (counted acts).reserved - 1⟩
  /-- All slots that are held are counted as alive, so they can be given up. -/
  reserved_le : (counted acts).reserved ≤ (counted acts).live
  /-- What is counted beyond them is the threads that run. -/
  live_sub : (counted acts).live - (counted acts).reserved = (running (turnsAmong acts)).length
  /-- Once slots are given up, nothing but the threads that run is counted. -/
  released : counted (acts ++ [.releaseUnclaimed]) = ⟨(running (turnsAmong acts)).length, 0⟩
  /-- A thread that ends finds itself counted. -/
  stopped : ∀ thread ∈ running (turnsAmong acts),
    (counted (acts ++ [.turn (.ends thread)])).live + 1 = (counted acts).live
  /-- The count outgrows no machine word that can hold all slots ever held and the threads that
  run. -/
  live_le : (counted acts).live ≤ slotsAmong acts + (running (turnsAmong acts)).length

/-- The count is right at every moment, whatever is done in whatever order. -/
theorem History.accounts (history : History acts) : Accounts acts where
  held slots := counted_snoc acts (.reserve slots)
  claimed thread unclaimed := by
    rw [counted_snoc]
    exact if_pos unclaimed
  reserved_le := by
    rw [history.balances]
    exact Nat.le_add_right _ _
  live_sub := by rw [history.balances, Nat.add_sub_cancel_left]
  released := by
    rw [counted_snoc]
    exact history.balances.releaseUnclaimed
  stopped thread runs := by
    obtain ⟨_, course⟩ := history.exists_course
    have balances := history.balances
    rw [course.length_running_ends runs] at balances
    rw [counted_snoc]
    exact balances.stopped.2
  live_le := by
    rw [history.balances]
    exact Nat.add_le_add_right (reserved_le_slotsAmong acts) _

/-- Of three slots one is taken before the others are given up; a second thread then counts itself. -/
theorem accounts_unclaimed :
    let acts := [.reserve 3, .turn (.begins (.worker 1)), .releaseUnclaimed,
      .turn (.begins (.worker 0)), .turn (.ends (.worker 1))]
    History acts ∧ Accounts acts ∧ counted acts = ⟨1, 0⟩ := by
  have history := (((History.new.reserve 3).begins (.worker 1) (by decide)).releaseUnclaimed.begins
    (.worker 0) (by decide)).ends (.worker 1) (by decide)
  exact ⟨history, history.accounts, rfl⟩

end Histories

end Workers
end HttpServer
