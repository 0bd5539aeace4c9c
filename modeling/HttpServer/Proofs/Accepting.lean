import HttpServer.Acceptance
import Mathlib.Logic.Relation

/-! The loop that accepts connections. It asks the listener again after whatever the listener has
yielded, after a pause if resources have run out, and returns only when it is told to. In abort mode
the process ends at the first error of exhausted resources, and up to it nothing is done in another
way. -/
namespace HttpServer

variable {σ : Type} {guard : Guard} {dispatcher : Dispatcher σ}

namespace Guard

theorem assess_eq_abort_iff {error : IoError} : guard.assess error = .abort ↔
    guard.abortsOnExhaustion = true ∧ error.classify = .resourceExhausted := by
  rw [assess]
  cases error.classify <;> cases guard.abortsOnExhaustion <;> decide

theorem assess_of_spared {error : IoError} (spared : error.classify ≠ .resourceExhausted) :
    guard.assess error = assess {} error := by
  rw [assess, assess]
  cases same : error.classify with
  | shutdown => rfl
  | transport => rfl
  | resourceExhausted => exact absurd same spared

theorem notices_of_spared {error : IoError} (spared : error.classify ≠ .resourceExhausted)
    (context : String) : guard.notices context error = notices {} context error := by
  rw [notices, notices, assess_of_spared spared]

end Guard

namespace Connection

/-- The error in which the serving of a connection ends. -/
def error? (dispatcher : Dispatcher σ) (connection : Connection) (state : σ) : Option IoError :=
  match (connection.exchange dispatcher state).value with
  | none => none
  | some none => some connection.cutError
  | some (some reply) =>
      (connection.outbound.deliver
        (reply.response.encode connection.date reply.headOnly)).error

theorem isDeparture_of_exhausted {error : IoError}
    (exhausted : error.classify = .resourceExhausted) : isDeparture error = false := by
  cases error with
  | system code =>
      rw [IoError.classify] at exhausted
      split at exhausted
      · cases exhausted
      · split at exhausted
        case isTrue numbered => rcases numbered with rfl | rfl | rfl <;> rfl
        case isFalse => cases exhausted
  | simple kind => cases kind <;> first | rfl | cases exhausted
  | described kind text => cases kind <;> first | rfl | cases exhausted

theorem takeError_aborts_iff {error : IoError} : (takeError guard error).2 = true ↔
    guard.abortsOnExhaustion = true ∧ error.classify = .resourceExhausted := by
  rw [takeError, ← Guard.assess_eq_abort_iff]
  cases departure : isDeparture error with
  | false => simp
  | true =>
      have spared : guard.assess error ≠ .abort := by
        intro abort
        have exhausted := (Guard.assess_eq_abort_iff.mp abort).2
        exact Bool.false_ne_true ((isDeparture_of_exhausted exhausted).symm.trans departure)
      simp [spared]

theorem takeError_of_spared {error : IoError} (spared : error.classify ≠ .resourceExhausted) :
    takeError guard error = takeError {} error := by
  rw [takeError, takeError, Guard.assess_of_spared spared, Guard.notices_of_spared spared]

theorem serve_aborted_iff {connection : Connection} {state : σ} :
    (connection.serve guard dispatcher state).aborted = true ↔ guard.abortsOnExhaustion = true ∧
      ∃ error, connection.error? dispatcher state = some error ∧
        error.classify = .resourceExhausted := by
  rw [serve, error?]
  cases (connection.exchange dispatcher state).value with
  | none => simp
  | some reply =>
      cases reply with
      | none => simpa using takeError_aborts_iff
      | some reply =>
          dsimp only
          cases (connection.outbound.deliver
            (reply.response.encode connection.date reply.headOnly)).error with
          | none => simp
          | some error => simpa using takeError_aborts_iff

theorem serve_of_spared {connection : Connection} {state : σ}
    (spared : ∀ error, connection.error? dispatcher state = some error →
      error.classify ≠ .resourceExhausted) :
    connection.serve guard dispatcher state = connection.serve {} dispatcher state := by
  rw [error?] at spared
  rw [serve, serve]
  cases value : (connection.exchange dispatcher state).value with
  | none => rfl
  | some reply =>
      rw [value] at spared
      cases reply with
      | none => rw [takeError_of_spared (spared _ rfl)]
      | some reply =>
          dsimp only at spared ⊢
          cases delivered : (connection.outbound.deliver
            (reply.response.encode connection.date reply.headOnly)).error with
          | none => rfl
          | some error =>
              dsimp only
              rw [takeError_of_spared (spared error delivered)]

theorem serve_of_survived {connection : Connection} {state : σ}
    (survived : (connection.serve guard dispatcher state).aborted = false) :
    connection.serve guard dispatcher state = connection.serve {} dispatcher state := by
  obtain ⟨aborts⟩ := guard
  cases aborts with
  | false => rfl
  | true =>
      apply serve_of_spared
      intro error failed exhausted
      have aborted := serve_aborted_iff.mpr ⟨rfl, error, failed, exhausted⟩
      exact Bool.false_ne_true (survived.symm.trans aborted)

end Connection

namespace Acceptance

/-- What is seen while these arrivals are dealt with, in abort mode or out of it, with the state
afterwards and whether the process ends. Resources run out by an error of the listener, or by the
error in which the serving of a connection ends. -/
inductive Story (aborts : Bool) (dispatcher : Dispatcher σ) :
    σ → List Arrival → List (Event σ) → σ → Bool → Prop
  | nil {state : σ} : Story aborts dispatcher state [] [] state false
  | served {state final : σ} {connection : Connection} {rest : List Arrival}
      {events : List (Event σ)} {ended : Bool}
      (spared : aborts = true → ∀ error, connection.error? dispatcher state = some error →
        error.classify ≠ .resourceExhausted)
      (later : Story aborts dispatcher (connection.serve {} dispatcher state).state rest events
        final ended) :
      Story aborts dispatcher state (.connection connection :: rest)
        (.asked :: .served (connection.serve {} dispatcher state) :: events) final ended
  | ignored {state final : σ} {error : IoError} {rest : List Arrival} {events : List (Event σ)}
      {ended : Bool} (shutdown : error.classify = .shutdown)
      (later : Story aborts dispatcher state rest events final ended) :
      Story aborts dispatcher state (.failed error :: rest) (.asked :: events) final ended
  | reported {state final : σ} {error : IoError} {rest : List Arrival} {events : List (Event σ)}
      {ended : Bool} (transport : error.classify = .transport)
      (later : Story aborts dispatcher state rest events final ended) :
      Story aborts dispatcher state (.failed error :: rest)
        (.asked :: .logged .error ("accept: " ++ error.message) :: events) final ended
  | paused {state final : σ} {error : IoError} {rest : List Arrival} {events : List (Event σ)}
      {ended : Bool} (survives : aborts = false) (exhausted : error.classify = .resourceExhausted)
      (later : Story aborts dispatcher state rest events final ended) :
      Story aborts dispatcher state (.failed error :: rest)
        (.asked :: .logged .error ("accept: " ++ error.message) ::
          .logged .warning "resource exhaustion error occurred (continuing to run)" ::
            .paused :: events) final ended
  | aborted {state : σ} {error : IoError} (dies : aborts = true)
      (exhausted : error.classify = .resourceExhausted) :
      Story aborts dispatcher state [.failed error]
        [.asked, .logged .error ("accept: " ++ error.message),
          .logged .error "(ABORTING SERVER): resource exhaustion", .aborted] state true
  | collapsed {state : σ} {connection : Connection} {error : IoError} (dies : aborts = true)
      (failed : connection.error? dispatcher state = some error)
      (exhausted : error.classify = .resourceExhausted) :
      Story aborts dispatcher state [.connection connection]
        [.asked, .served (connection.serve ⟨true⟩ dispatcher state), .aborted]
        (connection.serve ⟨true⟩ dispatcher state).state true

theorem Story.append {aborts ended : Bool} {first middle last : σ} {early late : List Arrival}
    {earlier later : List (Event σ)}
    (front : Story aborts dispatcher first early earlier middle false)
    (back : Story aborts dispatcher middle late later last ended) :
    Story aborts dispatcher first (early ++ late) (earlier ++ later) last ended := by
  generalize survived : false = stops at front
  induction front with
  | nil => exact back
  | served spared _ ih => exact .served spared (ih back survived)
  | ignored shutdown _ ih => exact .ignored shutdown (ih back survived)
  | reported transport _ ih => exact .reported transport (ih back survived)
  | paused survives exhausted _ ih => exact .paused survives exhausted (ih back survived)
  | aborted => cases survived
  | collapsed => cases survived

def seen (guard : Guard) (dispatcher : Dispatcher σ) (state : σ) (arrival : Arrival) :
    List (Event σ) :=
  let (reaction, _, aborted) := react guard dispatcher state arrival
  reaction.events ++ if aborted then [.aborted] else []

theorem story_react (guard : Guard) (dispatcher : Dispatcher σ) (state : σ) (arrival : Arrival) :
    Story guard.abortsOnExhaustion dispatcher state [arrival]
      (.asked :: seen guard dispatcher state arrival) (react guard dispatcher state arrival).2.1
      (react guard dispatcher state arrival).2.2 := by
  cases arrival with
  | connection connection =>
      rw [seen, react]
      dsimp only
      cases aborted : (connection.serve guard dispatcher state).aborted with
      | true =>
          obtain ⟨dies, error, failed, exhausted⟩ := Connection.serve_aborted_iff.mp aborted
          obtain ⟨aborts⟩ := guard
          cases dies
          exact .collapsed rfl failed exhausted
      | false =>
          have spared : guard.abortsOnExhaustion = true → ∀ error,
              connection.error? dispatcher state = some error →
                error.classify ≠ .resourceExhausted := by
            intro dies error failed exhausted
            have aborts := Connection.serve_aborted_iff.mpr ⟨dies, error, failed, exhausted⟩
            exact Bool.false_ne_true (aborted.symm.trans aborts)
          rw [Connection.serve_of_survived aborted]
          exact .served spared .nil
  | failed error =>
      rw [seen, react, Guard.notices, Guard.assess]
      cases sort : error.classify with
      | shutdown => exact .ignored sort .nil
      | transport => exact .reported sort .nil
      | resourceExhausted =>
          cases mode : guard.abortsOnExhaustion with
          | true => exact .aborted rfl sort
          | false => exact .paused rfl sort .nil

def trace (acceptance : Acceptance σ) : List (Event σ) :=
  acceptance.reactions.flatMap (fun reaction => .asked :: reaction.events) ++
    if acceptance.aborted then [.aborted] else []

theorem story_run (guard : Guard) (dispatcher : Dispatcher σ) (state : σ)
    (arrivals : List Arrival) :
    let acceptance := run guard dispatcher state arrivals
    Story guard.abortsOnExhaustion dispatcher state
      (arrivals.take acceptance.reactions.length) acceptance.trace acceptance.state
        acceptance.aborted := by
  induction arrivals generalizing state with
  | nil => exact .nil
  | cons arrival rest ih =>
      have first := story_react guard dispatcher state arrival
      rw [seen] at first
      rw [run]
      generalize react guard dispatcher state arrival = outcome at first ⊢
      obtain ⟨reaction, next, aborted⟩ := outcome
      cases aborted with
      | true => simpa [Acceptance.trace] using first
      | false => simpa [Acceptance.trace] using first.append (ih next)

/-- A run comes to the last arrival unless the process ends over one of them. -/
theorem length_reactions_run {state : σ} {arrivals : List Arrival}
    (survived : (run guard dispatcher state arrivals).aborted = false) :
    (run guard dispatcher state arrivals).reactions.length = arrivals.length := by
  induction arrivals generalizing state with
  | nil => rfl
  | cons arrival rest ih =>
      rw [run] at survived ⊢
      generalize react guard dispatcher state arrival = outcome at survived ⊢
      obtain ⟨reaction, next, aborted⟩ := outcome
      cases aborted with
      | true => cases survived
      | false => exact congrArg (· + 1) (ih survived)

/-- How far a stage is from the end of the loop, apart from what the listener yields. -/
def Stage.rank : Stage → Nat
  | .pausing => 3
  | .choosing => 2
  | .waiting => 1
  | .returned | .aborted => 0

namespace Loop

/-- What is seen in the end, after the last arrival that was dealt with. -/
def Ends : Stage → List (Event σ) → Prop
  | .choosing, events | .pausing, events | .aborted, events => events = []
  | .waiting, events => events = [.asked]
  | .returned, events => events = [.returned] ∨ events = [.asked, .returned]

/-- The loop has dealt with some arrivals as their story tells. -/
structure Stands (guard : Guard) (dispatcher : Dispatcher σ) (state : σ) (arrivals : List Arrival)
    (loop : Loop σ) (handled : List Arrival) (events : List (Event σ)) : Prop where
  arrivals : arrivals = handled ++ loop.pending
  story : Story guard.abortsOnExhaustion dispatcher state handled events loop.state
    (loop.stage = .aborted)
  trace : ∃ latest, loop.trace = events ++ latest ∧ Ends loop.stage latest
  pausing : loop.stage = .pausing → ∃ earlier, events = earlier ++ [.paused]
  returned : loop.stage = .returned → loop.told = true

variable {loop next : Loop σ} {state : σ} {arrivals handled : List Arrival}
  {events : List (Event σ)}

theorem stands_begun (guard : Guard) (dispatcher : Dispatcher σ) (state : σ)
    (arrivals : List Arrival) :
    Stands guard dispatcher state arrivals (begun state arrivals) [] [] where
  arrivals := rfl
  story := .nil
  trace := ⟨[], rfl, rfl⟩
  pausing stage := nomatch stage
  returned stage := nomatch stage

theorem events_of_pauses {reaction : Reaction σ} (pauses : reaction.pauses = true) :
    ∃ earlier, reaction.events = earlier ++ [.paused] := by
  cases reaction with
  | served answer => cases pauses
  | reported notices paused =>
      obtain rfl : paused = true := pauses
      exact ⟨_, rfl⟩

theorem Stands.yield {arrival : Arrival} {rest : List Arrival}
    (stands : Stands guard dispatcher state arrivals loop handled events)
    (waits : loop.stage = .waiting) (yields : loop.pending = arrival :: rest) :
    Stands guard dispatcher state arrivals
      (loop.take rest (react guard dispatcher loop.state arrival)) (handled ++ [arrival])
      (events ++ .asked :: seen guard dispatcher loop.state arrival) := by
  have story := stands.story
  rw [waits] at story
  have told := story.append (story_react guard dispatcher loop.state arrival)
  obtain ⟨latest, trace, ends⟩ := stands.trace
  rw [waits] at ends
  obtain rfl : latest = [.asked] := ends
  rw [seen] at told ⊢
  generalize react guard dispatcher loop.state arrival = outcome at told ⊢
  obtain ⟨reaction, after, aborted⟩ := outcome
  have arrivals := stands.arrivals
  rw [yields, List.append_cons] at arrivals
  have shown : (loop.take rest (reaction, after, aborted)).trace =
      (events ++ .asked :: (reaction.events ++ if aborted then [.aborted] else [])) ++ [] := by
    simp [take, trace]
  cases aborted with
  | true => exact ⟨arrivals, told, ⟨[], shown, rfl⟩, nofun, nofun⟩
  | false =>
      cases pauses : reaction.pauses with
      | true =>
          have stage : (loop.take rest (reaction, after, false)).stage = .pausing := by
            rw [take, pauses]
            rfl
          obtain ⟨earlier, same⟩ := events_of_pauses pauses
          have paused : ∃ earlier, events ++ .asked :: (reaction.events ++ []) =
              earlier ++ [.paused] := ⟨events ++ .asked :: earlier, by simp [same]⟩
          refine ⟨arrivals, ?_, ⟨[], shown, ?_⟩, fun _ => paused, ?_⟩ <;> rw [stage]
          · exact told
          · rfl
          · exact nofun
      | false =>
          have stage : (loop.take rest (reaction, after, false)).stage = .choosing := by
            rw [take, pauses]
            rfl
          refine ⟨arrivals, ?_, ⟨[], shown, ?_⟩, ?_, ?_⟩ <;> rw [stage]
          · exact told
          · rfl
          · exact nofun
          · exact nofun

theorem Stands.leave (stands : Stands guard dispatcher state arrivals loop handled events)
    (chooses : loop.stage = .choosing ∨ loop.stage = .waiting) (told : loop.told = true) :
    Stands guard dispatcher state arrivals
      { loop with stage := .returned, trace := loop.trace ++ [.returned] } handled events := by
  obtain ⟨latest, trace, ends⟩ := stands.trace
  have story := stands.story
  constructor
  case arrivals => exact stands.arrivals
  case story => rcases chooses with chooses | waits <;> simpa [*] using story
  case trace =>
    refine ⟨latest ++ [.returned], by simp [trace], ?_⟩
    rcases chooses with chooses | waits
    · rw [chooses] at ends
      obtain rfl : latest = [] := ends
      exact .inl rfl
    · rw [waits] at ends
      obtain rfl : latest = [.asked] := ends
      exact .inr rfl
  case pausing => exact fun stage => nomatch stage
  case returned => exact fun _ => told

theorem Step.stands (step : Step guard dispatcher loop next)
    (stands : Stands guard dispatcher state arrivals loop handled events) :
    ∃ handled events, Stands guard dispatcher state arrivals next handled events := by
  cases step with
  | yield waits _ yields => exact ⟨_, _, stands.yield waits yields⟩
  | leave chooses told => exact ⟨_, _, stands.leave chooses told⟩
  | ask chooses untold =>
      obtain ⟨latest, trace, ends⟩ := stands.trace
      have story := stands.story
      rw [chooses] at ends story
      obtain rfl : latest = [] := ends
      exact ⟨handled, events, stands.arrivals, story, ⟨[.asked], by simp [trace], rfl⟩,
        (fun stage => nomatch stage), (fun stage => nomatch stage)⟩
  | resume pauses =>
      have trace := stands.trace
      have story := stands.story
      rw [pauses] at trace story
      exact ⟨handled, events, stands.arrivals, story, trace, (fun stage => nomatch stage),
        (fun stage => nomatch stage)⟩
  | tell untold =>
      exact ⟨handled, events, stands.arrivals, stands.story, stands.trace, stands.pausing,
        fun _ => rfl⟩

def Reaches (guard : Guard) (dispatcher : Dispatcher σ) : Loop σ → Loop σ → Prop :=
  Relation.ReflTransGen (Step guard dispatcher)

theorem Reaches.stands (reaches : Reaches guard dispatcher (begun state arrivals) loop) :
    ∃ handled events, Stands guard dispatcher state arrivals loop handled events := by
  induction reaches with
  | refl => exact ⟨[], [], stands_begun ..⟩
  | tail _ step ih =>
      obtain ⟨handled, events, stands⟩ := ih
      exact step.stands stands

/-- Nothing happens any more unless the loop is told to end. -/
def AtRest (guard : Guard) (dispatcher : Dispatcher σ) (loop : Loop σ) : Prop :=
  ∀ next, Step guard dispatcher loop next → next.told ≠ loop.told

theorem AtRest.stage (rests : loop.AtRest guard dispatcher) :
    loop.stage = .returned ∨ loop.stage = .aborted ∨
      loop.stage = .waiting ∧ loop.pending = [] ∧ loop.told = false := by
  cases stage : loop.stage with
  | returned => exact .inl rfl
  | aborted => exact .inr (.inl rfl)
  | pausing => exact (rests _ (.resume stage) rfl).elim
  | choosing =>
      cases told : loop.told with
      | false => exact (rests _ (.ask stage told) rfl).elim
      | true => exact (rests _ (.leave (.inl stage) told) rfl).elim
  | waiting =>
      cases told : loop.told with
      | true => exact (rests _ (.leave (.inr stage) told) rfl).elim
      | false =>
          cases yields : loop.pending with
          | nil => exact .inr (.inr ⟨rfl, rfl, rfl⟩)
          | cons arrival rest => exact (rests _ (.yield stage told yields) rfl).elim

def ahead (loop : Loop σ) : Nat :=
  3 * loop.pending.length + Stage.rank loop.stage + if loop.told then 0 else 1

theorem Step.ahead_lt (step : Step guard dispatcher loop next) : next.ahead < loop.ahead := by
  cases step with
  | ask chooses => simp [ahead, chooses, Stage.rank]
  | resume pauses => simp [ahead, pauses, Stage.rank]
  | tell untold => simp [ahead, untold]
  | leave chooses => rcases chooses with chooses | waits <;> simp [ahead, Stage.rank, *]
  | @yield arrival rest waits untold yields =>
      -- Whatever comes of an arrival, there is one arrival less, which counts for three.
      have above : ∀ stage, Stage.rank stage ≤ 3 := fun stage => by cases stage <;> decide
      have less := above (loop.take rest (react guard dispatcher loop.state arrival)).stage
      have one : Stage.rank .waiting = 1 := rfl
      simp only [ahead, take, waits, yields, untold, List.length_cons] at less ⊢
      omega

theorem not_forever (course : Nat → Loop σ) :
    ¬∀ n, Step guard dispatcher (course n) (course (n + 1)) := by
  intro steps
  have bounded : ∀ n, (course n).ahead + n ≤ (course 0).ahead := by
    intro n
    induction n with
    | zero => exact Nat.le_refl _
    | succ n ih =>
        have less := (steps n).ahead_lt
        omega
  have bound := bounded ((course 0).ahead + 1)
  omega

end Loop

theorem Story.not_ended {aborts ended : Bool} {state final : σ} {arrivals : List Arrival}
    {events : List (Event σ)} (story : Story aborts dispatcher state arrivals events final ended)
    (off : aborts = false) : ended = false := by
  induction story with
  | nil => rfl
  | served _ _ ih => exact ih
  | ignored _ _ ih => exact ih
  | reported _ _ ih => exact ih
  | paused _ _ _ ih => exact ih
  | aborted dies => cases off.symm.trans dies
  | collapsed dies => cases off.symm.trans dies

theorem Story.out_of_abort_mode {aborts ended : Bool} {state final : σ} {arrivals : List Arrival}
    {events : List (Event σ)} (story : Story aborts dispatcher state arrivals events final ended)
    (survived : ended = false) : Story false dispatcher state arrivals events final false := by
  induction story with
  | nil => exact .nil
  | served _ _ ih => exact .served (fun on => nomatch on) (ih survived)
  | ignored shutdown _ ih => exact .ignored shutdown (ih survived)
  | reported transport _ ih => exact .reported transport (ih survived)
  | paused _ exhausted _ ih => exact .paused rfl exhausted (ih survived)
  | aborted => cases survived
  | collapsed => cases survived

/-- What is promised of the loop, whatever the listener yields. What is seen of it is the story of
the arrivals so far; it goes on until it has been told to end, or the process ends, or there is
nothing left to yield; and out of abort mode the process does not end. If it is never told to end it
reacts to every arrival, unless the process ends over one. -/
structure Survives (guard : Guard) (dispatcher : Dispatcher σ) (state : σ)
    (arrivals : List Arrival) : Prop where
  tells : ∀ loop, Loop.Reaches guard dispatcher (.begun state arrivals) loop →
    ∃ handled events, loop.Stands guard dispatcher state arrivals handled events
  rests : ∀ loop : Loop σ, loop.AtRest guard dispatcher →
    loop.stage = .returned ∨ loop.stage = .aborted ∨
      loop.stage = .waiting ∧ loop.pending = [] ∧ loop.told = false
  ends : ∀ course : Nat → Loop σ, ¬∀ n, Loop.Step guard dispatcher (course n) (course (n + 1))
  survives : guard.abortsOnExhaustion = false → ∀ loop,
    Loop.Reaches guard dispatcher (.begun state arrivals) loop → loop.stage ≠ .aborted
  alike : ∀ handled events final,
    Story guard.abortsOnExhaustion dispatcher state handled events final false →
      Story false dispatcher state handled events final false
  runs : let acceptance := run guard dispatcher state arrivals
    Story guard.abortsOnExhaustion dispatcher state
      (arrivals.take acceptance.reactions.length) acceptance.trace acceptance.state
        acceptance.aborted ∧
      (acceptance.aborted = false → acceptance.reactions.length = arrivals.length)

theorem survives_errors (guard : Guard) (dispatcher : Dispatcher σ) (state : σ)
    (arrivals : List Arrival) : Survives guard dispatcher state arrivals where
  tells loop reaches := reaches.stands
  rests loop rests := rests.stage
  ends := Loop.not_forever
  alike _ _ _ story := story.out_of_abort_mode rfl
  runs := ⟨story_run guard dispatcher state arrivals, length_reactions_run⟩
  survives off loop reaches := by
    obtain ⟨handled, events, stands⟩ := reaches.stands
    exact of_decide_eq_false (stands.story.not_ended off)

end Acceptance
end HttpServer
