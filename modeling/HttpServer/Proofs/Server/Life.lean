import HttpServer.Proofs.Routing
import HttpServer.Proofs.Server.Furnishing

/-! The life of a server. Whatever is done to it in whatever order, it runs from the first call that
starts it up to the next stop and never again; while it runs it is left as it is, and what it works
with is what it had been furnished with before. -/
namespace HttpServer

variable {σ ι κ : Type}

/-- What is done to a server. `release` is the end of a run on the calling thread, whose turn comes
some time after the stop. -/
inductive Act (σ ι κ : Type) : Type 1 where
  | furnish (furnishing : Furnishing σ ι κ)
  | run (threads : Nat)
  | runSingleThreaded
  | stop
  | release

def Act.starts : Act σ ι κ → Bool
  | .run _ | .runSingleThreaded => true
  | _ => false

def Act.threads? : Act σ ι κ → Option Nat
  | .run threads => some (max threads 1)
  | _ => none

/-- How an act ends for the one who does it. A refusal is a panic if the server runs. -/
inductive Outcome where
  | done
  | refused (reason : Refused)
  | failed (error : ServerError)
  deriving DecidableEq, Repr

namespace Server

/-- A server after a call, and how the call ends; one that does not succeed leaves the server
alone. -/
def settle {ε : Type} (server : Server σ ι κ) (why : ε → Outcome) :
    Except ε (Server σ ι κ) → Server σ ι κ × Outcome
  | .ok next => (next, .done)
  | .error reason => (server, why reason)

def act (server : Server σ ι κ) : Act σ ι κ → Server σ ι κ × Outcome
  | .furnish furnishing => server.settle .refused (server.furnish furnishing)
  | .run threads => server.settle .failed (server.run threads)
  | .runSingleThreaded => server.settle .failed server.runSingleThreaded
  | .stop => (server.stop, .done)
  | .release => (server.release, .done)

def replay (server : Server σ ι κ) : List (Act σ ι κ) → Server σ ι κ
  | [] => server
  | act :: later => (server.act act).1.replay later

/-- What a server is furnished with by an act, if it takes it. -/
def takes (server : Server σ ι κ) : Act σ ι κ → List (Furnishing σ ι κ)
  | .furnish furnishing =>
      if (server.act (.furnish furnishing)).2 = .done then [furnishing] else []
  | _ => []

/-- What a server is furnished with by those of the acts that succeed. -/
def taken (server : Server σ ι κ) : List (Act σ ι κ) → List (Furnishing σ ι κ)
  | [] => []
  | act :: later => server.takes act ++ (server.act act).1.taken later

/-- After these acts, this one brings an event loop into being. -/
def Begins (server : Server σ ι κ) (earlier : List (Act σ ι κ)) (act : Act σ ι κ) : Prop :=
  (server.replay earlier).loop = none ∧ ((server.replay earlier).act act).1.loop ≠ none

theorem replay_append (server : Server σ ι κ) (early late : List (Act σ ι κ)) :
    server.replay (early ++ late) = (server.replay early).replay late := by
  induction early generalizing server with
  | nil => rfl
  | cons act early ih => exact ih _

theorem taken_append (server : Server σ ι κ) (early late : List (Act σ ι κ)) :
    server.taken (early ++ late) = server.taken early ++ (server.replay early).taken late := by
  induction early generalizing server with
  | nil => rfl
  | cons act early ih => rw [List.cons_append, taken, ih, taken, List.append_assoc]; rfl

section Acts

variable {server : Server σ ι κ} {act : Act σ ι κ}

theorem act_furnish_running (running : server.isRunning = true) (furnishing : Furnishing σ ι κ) :
    server.act (.furnish furnishing) = (server, .refused (.running furnishing.name)) := by
  rw [Server.act, furnish, if_pos running]
  rfl

theorem act_furnish_sound (idle : server.isRunning = false) {furnishing : Furnishing σ ι κ}
    (sound : furnishing.Sound) :
    server.act (.furnish furnishing) = (server.furnished [furnishing], .done) := by
  rw [Server.act, furnish, idle, apply_of_sound _ _ sound]
  rfl

theorem act_interval_empty (idle : server.isRunning = false) {interval : Duration}
    (empty : interval.nanoseconds = 0) :
    server.act (.furnish (.interval interval)) =
      (server, .refused (.invalid (.invalidInterval interval))) := by
  rw [Server.act, furnish, idle, apply_interval_empty server empty]
  rfl

theorem act_start_running (running : server.isRunning = true) (starts : act.starts = true) :
    server.act act = (server, .done) := by
  cases act with
  | run threads => rw [Server.act, run, if_pos running]; rfl
  | runSingleThreaded => rw [Server.act, runSingleThreaded, if_pos running]; rfl
  | _ => cases starts

theorem act_start_spent (idle : server.isRunning = false) (spent : server.hasListener = false)
    (starts : act.starts = true) : server.act act = (server, .failed .acceptorConsumed) := by
  have gone : server.takeListener = .error .acceptorConsumed := by
    rw [takeListener, spent]
    rfl
  cases act with
  | run threads => rw [Server.act, run, idle, gone]; rfl
  | runSingleThreaded => rw [Server.act, runSingleThreaded, idle, gone]; rfl
  | _ => cases starts

theorem takes_of_starts (starts : act.starts = true) (server : Server σ ι κ) :
    server.takes act = [] := by
  cases act with
  | furnish furnishing => cases starts
  | _ => rfl

def resting (server : Server σ ι κ) (listener : Bool) : Server σ ι κ :=
  { server with hasListener := listener, reins := {}, isRunning := false }

def underWay (server : Server σ ι κ) (start : Act σ ι κ) : Server σ ι κ :=
  { server with
    hasListener := false
    reins :=
      { loop := some (server.operation (start.threads?.getD 0))
        threads := start.threads?
        hasSignal := true
        awaitsClosing := true }
    isRunning := true }

theorem act_start_resting (starts : act.starts = true) :
    (server.resting true).act act = (server.underWay act, .done) := by
  cases act with
  | run threads => rfl
  | runSingleThreaded => rfl
  | _ => cases starts

theorem act_resting (server : Server σ ι κ) (listener : Bool)
    (quiet : listener = true → act.starts = false) :
    ((server.resting listener).act act).1 =
      (server.furnished ((server.resting listener).takes act)).resting listener := by
  cases starts : act.starts with
  | true =>
      have spent : listener = false := by
        cases listener with
        | true => exact absurd (quiet rfl) (by rw [starts]; decide)
        | false => rfl
      subst spent
      rw [act_start_spent rfl rfl starts, takes_of_starts starts, furnished_nil]
  | false =>
      cases act with
      | furnish furnishing =>
          by_cases sound : furnishing.Sound
          · rw [takes, act_furnish_sound rfl sound, if_pos rfl]
            rfl
          · obtain ⟨interval, rfl, empty⟩ := Furnishing.eq_interval_of_not_sound sound
            rw [takes, act_interval_empty rfl empty, if_neg nofun, furnished_nil]
      | stop => exact congrArg (·.resting listener) (furnished_nil server).symm
      | release => exact congrArg (·.resting listener) (furnished_nil server).symm
      | run threads => cases starts
      | runSingleThreaded => cases starts

theorem act_underWay (server : Server σ ι κ) (start : Act σ ι κ) (goesOn : act ≠ .stop) :
    ((server.underWay start).act act).1 = server.underWay start ∧
      (server.underWay start).takes act = [] := by
  cases act with
  | furnish furnishing =>
      have runs : (server.underWay start).isRunning = true := rfl
      have refused := act_furnish_running runs furnishing
      rw [takes, refused, if_neg nofun]
      exact ⟨rfl, rfl⟩
  | stop => exact absurd rfl goesOn
  | release => exact ⟨rfl, rfl⟩
  | run threads => exact ⟨rfl, rfl⟩
  | runSingleThreaded => exact ⟨rfl, rfl⟩

theorem sound_of_mem_takes {furnishing : Furnishing σ ι κ} (taken : furnishing ∈ server.takes act) :
    furnishing.Sound := by
  cases act with
  | furnish offered =>
      rw [takes] at taken
      split at taken
      · next done =>
          rw [List.mem_singleton] at taken
          subst taken
          rw [Server.act] at done
          cases furnished : server.furnish furnishing with
          | ok next => exact sound_of_apply (apply_of_furnish furnished)
          | error reason =>
              rw [furnished] at done
              cases done
      · cases taken
  | _ => cases taken

end Acts

section Runs

variable {server : Server σ ι κ} {acts : List (Act σ ι κ)}

/-- None of the acts starts a server. -/
def Quiet (acts : List (Act σ ι κ)) : Prop := ∀ act ∈ acts, act.starts = false

theorem replay_resting (server : Server σ ι κ) (listener : Bool)
    (quiet : listener = true → Quiet acts) :
    (server.resting listener).replay acts =
      (server.furnished ((server.resting listener).taken acts)).resting listener := by
  induction acts generalizing server with
  | nil => rw [replay, taken, furnished_nil]
  | cons act acts ih =>
      have step : ((server.resting listener).act act).1 = _ :=
        act_resting server listener fun has => quiet has act List.mem_cons_self
      rw [replay, taken, furnished_append, step]
      exact ih _ fun has act later => quiet has act (List.mem_cons_of_mem _ later)

theorem replay_underWay {start : Act σ ι κ} (goesOn : .stop ∉ acts) :
    (server.underWay start).replay acts = server.underWay start ∧
      (server.underWay start).taken acts = [] := by
  induction acts with
  | nil => exact ⟨rfl, rfl⟩
  | cons act acts ih =>
      obtain ⟨same, nothing⟩ := act_underWay server start
        (Ne.symm (List.ne_of_not_mem_cons goesOn))
      rw [replay, taken, same, nothing]
      exact ih (List.not_mem_of_not_mem_cons goesOn)

theorem sound_of_mem_taken {furnishing : Furnishing σ ι κ} (taken : furnishing ∈ server.taken acts) :
    furnishing.Sound := by
  induction acts generalizing server with
  | nil => cases taken
  | cons act acts ih =>
      rcases List.mem_append.1 taken with now | later
      · exact sound_of_mem_takes now
      · exact ih later

end Runs

/-- A server as it is made: it has its listener and does not run. -/
structure Fresh (server : Server σ ι κ) : Prop where
  rests : server.resting true = server
  positive : 0 < server.interval.nanoseconds

/-- Where a server stands in its life, after these acts: nothing has started it yet, it runs since
the first act that starts, or it has been stopped since. What it works with while it runs is what it
had been furnished with before. -/
inductive Stands (base : Server σ ι κ) : List (Act σ ι κ) → Server σ ι κ → Prop
  | waiting {acts} (quiet : Quiet acts) :
      Stands base acts ((base.furnished (base.taken acts)).resting true)
  | running {early start late} (quiet : Quiet early) (starts : start.starts = true)
      (goesOn : .stop ∉ late) :
      Stands base (early ++ start :: late) ((base.furnished (base.taken early)).underWay start)
  | stopped {early start late} (quiet : Quiet early) (starts : start.starts = true)
      (ended : .stop ∈ late) :
      Stands base (early ++ start :: late)
        ((base.furnished (base.taken (early ++ start :: late))).resting false)

section Stages

variable {base : Server σ ι κ} {acts early late : List (Act σ ι κ)} {act start : Act σ ι κ}

theorem Fresh.replay_waiting (fresh : base.Fresh) (quiet : Quiet acts) :
    base.replay acts = (base.furnished (base.taken acts)).resting true := by
  have rests := replay_resting base true fun _ => quiet
  rwa [fresh.rests] at rests

theorem Fresh.replay_started (fresh : base.Fresh) (quiet : Quiet early)
    (starts : start.starts = true) :
    base.replay (early ++ [start]) = (base.furnished (base.taken early)).underWay start ∧
      base.taken (early ++ [start]) = base.taken early := by
  rw [replay_append, taken_append, fresh.replay_waiting quiet, replay, taken,
    takes_of_starts starts, act_start_resting starts]
  exact ⟨rfl, List.append_nil _⟩

theorem Fresh.replay_running (fresh : base.Fresh) (quiet : Quiet early)
    (starts : start.starts = true) (goesOn : .stop ∉ late) :
    base.replay (early ++ start :: late) =
        (base.furnished (base.taken early)).underWay start ∧
      base.taken (early ++ start :: late) = base.taken early := by
  obtain ⟨begun, nothing⟩ := fresh.replay_started quiet starts
  rw [List.append_cons, replay_append, taken_append, begun, nothing,
    (replay_underWay goesOn).1, (replay_underWay goesOn).2]
  exact ⟨rfl, List.append_nil _⟩

theorem Fresh.replay_stopped (fresh : base.Fresh) (quiet : Quiet early)
    (starts : start.starts = true) (ended : .stop ∈ late) :
    base.replay (early ++ start :: late) =
      (base.furnished (base.taken (early ++ start :: late))).resting false := by
  obtain ⟨mid, rest, rfl, goesOn⟩ := List.eq_append_cons_of_mem ended
  obtain ⟨runs, nothing⟩ := fresh.replay_running quiet starts goesOn
  rw [← List.cons_append, ← List.append_assoc, replay_append, taken_append, runs, nothing,
    furnished_append]
  exact replay_resting _ false nofun

/-- Whatever has been done to a server since it was made, it stands at one of the stages. -/
theorem Fresh.stands (fresh : base.Fresh) (acts : List (Act σ ι κ)) :
    Stands base acts (base.replay acts) := by
  cases found : acts.find? (·.starts) with
  | none =>
      have quiet : Quiet acts := fun act listed =>
        Bool.eq_false_iff.2 (List.find?_eq_none.1 found act listed)
      rw [fresh.replay_waiting quiet]
      exact .waiting quiet
  | some start =>
      obtain ⟨starts, early, late, rfl, unstarted⟩ := List.find?_eq_some_iff_append.1 found
      have quiet : Quiet early := fun act listed => by
        have := unstarted act listed
        rwa [Bool.not_eq_true'] at this
      by_cases ended : .stop ∈ late
      · rw [fresh.replay_stopped quiet starts ended]
        exact .stopped quiet starts ended
      · rw [(fresh.replay_running quiet starts ended).1]
        exact .running quiet starts ended

theorem not_quiet (starts : start.starts = true) : ¬Quiet (early ++ start :: late) := fun quiet =>
  absurd (quiet start (List.mem_append_right _ List.mem_cons_self)) (by rw [starts]; decide)

theorem first_start_unique {early' late' : List (Act σ ι κ)} {start' : Act σ ι κ}
    (same : early ++ start :: late = early' ++ start' :: late')
    (quiet : Quiet early) (quiet' : Quiet early')
    (starts : start.starts = true) (starts' : start'.starts = true) :
    early = early' ∧ start = start' ∧ late = late' := by
  have skip {early late : List (Act σ ι κ)} {start : Act σ ι κ} (quiet : Quiet early)
      (starts : start.starts = true) :
      (early ++ start :: late).dropWhile (!·.starts) = start :: late := by
    rw [List.dropWhile_append_of_pos fun act listed => by rw [quiet act listed]; rfl,
      List.dropWhile_cons_of_neg (by rw [starts]; decide)]
  have rest := congrArg (List.dropWhile (!·.starts)) same
  rw [skip quiet starts, skip quiet' starts'] at rest
  obtain ⟨rfl, rfl⟩ := List.cons.inj rest
  exact ⟨List.append_cancel_right same, rfl, rfl⟩

section Stage

variable {server : Server σ ι κ} {operation : Operation σ ι κ}

theorem Stands.begins_iff (stands : Stands base acts server) :
    server.loop = none ∧ (server.act act).1.loop ≠ none ↔ act.starts = true ∧ Quiet acts := by
  cases stands with
  | waiting quiet =>
      cases starts : act.starts with
      | true =>
          rw [act_start_resting starts]
          exact ⟨fun _ => ⟨rfl, quiet⟩, fun _ => ⟨rfl, nofun⟩⟩
      | false =>
          rw [act_resting _ true fun _ => starts]
          exact ⟨fun begins => absurd rfl begins.2, nofun⟩
  | running _ starts => exact ⟨nofun, fun begins => absurd begins.2 (not_quiet starts)⟩
  | stopped _ starts =>
      rw [act_resting _ false nofun]
      exact ⟨fun begins => absurd rfl begins.2, fun begins => absurd begins.2 (not_quiet starts)⟩

theorem Stands.isSome_loop (stands : Stands base acts server) :
    server.loop.isSome = server.isRunning := by
  cases stands with
  | waiting => rfl
  | running => rfl
  | stopped => rfl

/-- The run that is under way has begun with the first start, on what there was. -/
theorem Stands.eq_operation (stands : Stands base acts server)
    (runs : server.loop = some operation) :
    ∃ early start late, acts = early ++ start :: late ∧ start.starts = true ∧ Quiet early ∧
      .stop ∉ late ∧
      operation = (base.furnished (base.taken early)).operation (start.threads?.getD 0) := by
  cases stands with
  | waiting => cases runs
  | running quiet starts goesOn =>
      cases runs
      exact ⟨_, _, _, rfl, starts, quiet, goesOn, rfl⟩
  | stopped => cases runs

theorem Stands.act_idle (stands : Stands base acts server) (idle : server.isRunning = false) :
    server.act .stop = (server, .done) ∧ server.act .release = (server, .done) := by
  cases stands with
  | waiting => exact ⟨rfl, rfl⟩
  | running => cases idle
  | stopped => exact ⟨rfl, rfl⟩

theorem Stands.positive_interval (stands : Stands base acts server)
    (positive : 0 < base.interval.nanoseconds) : 0 < server.interval.nanoseconds := by
  have all (acts : List (Act σ ι κ)) : 0 < (base.furnished (base.taken acts)).interval.nanoseconds :=
    positive_furnished positive fun _ => sound_of_mem_taken
  cases stands with
  | waiting => exact all _
  | running => exact all _
  | stopped => exact all _

end Stage

theorem Fresh.begins_iff (fresh : base.Fresh) :
    base.Begins acts act ↔ act.starts = true ∧ Quiet acts :=
  (fresh.stands acts).begins_iff

theorem Fresh.isRunning_iff (fresh : base.Fresh) :
    (base.replay acts).isRunning = true ↔ ∃ early start late,
      acts = early ++ start :: late ∧ base.Begins early start ∧ .stop ∉ late := by
  constructor
  · intro runs
    rw [← (fresh.stands acts).isSome_loop] at runs
    obtain ⟨operation, runs⟩ := Option.isSome_iff_exists.1 runs
    obtain ⟨early, start, late, same, starts, quiet, goesOn, -⟩ :=
      (fresh.stands acts).eq_operation runs
    exact ⟨early, start, late, same, fresh.begins_iff.2 ⟨starts, quiet⟩, goesOn⟩
  · rintro ⟨early, start, late, rfl, begins, goesOn⟩
    obtain ⟨starts, quiet⟩ := fresh.begins_iff.1 begins
    rw [(fresh.replay_running quiet starts goesOn).1]
    rfl

end Stages

/-- The ways in which a server is made. -/
inductive Made : Server σ ι κ → Prop
  | ofListener (name baseUri : String) (localAddress : Option Endpoint) :
      Made (ofListener name baseUri localAddress)
  | ofConfig {config : Config} {localAddress : Option Endpoint} {server : Server σ ι κ}
      (built : ofConfig config localAddress = .ok server) : Made server

theorem Made.fresh {server : Server σ ι κ} (made : Made server) : server.Fresh := by
  cases made with
  | ofListener =>
      have standard : 0 < Schedule.standardInterval.nanoseconds := by decide
      exact ⟨rfl, standard⟩
  | ofConfig built =>
      obtain ⟨sound, rfl⟩ := ofConfig_eq_ok built
      exact ⟨rfl, sound⟩

/-- A server that has no routes, callbacks or commands yet. -/
structure Bare (server : Server σ ι κ) : Prop where
  routes : server.routes = { baseUri := server.baseUri }
  defaultHandler : server.defaultHandler = none
  notFoundHandler : server.notFoundHandler = none
  requestFilter : server.requestFilter = none
  responseFilter : server.responseFilter = none
  tls : server.tls = none
  commands : server.commands = []

theorem Made.bare {server : Server σ ι κ} (made : Made server) : server.Bare := by
  cases made with
  | ofListener => exact ⟨rfl, rfl, rfl, rfl, rfl, rfl, rfl⟩
  | ofConfig built =>
      obtain ⟨-, rfl⟩ := ofConfig_eq_ok built
      exact ⟨rfl, rfl, rfl, rfl, rfl, rfl, rfl⟩

/-- What a run works with is what these furnishings have set, in place of what the server was made
with: all their routes and commands, and otherwise the latest of each kind. -/
structure Uses (base : Server σ ι κ) (taken : List (Furnishing σ ι κ)) (workers : Nat)
    (operation : Operation σ ι κ) : Prop where
  name : operation.dispatcher.name = base.name
  baseUri : operation.dispatcher.routes.baseUri = base.baseUri
  routes : operation.dispatcher.routes.Arranged
    (RouteTable.below base.baseUri (taken.filterMap (·.route?)))
  defaultHandler :
    operation.dispatcher.defaultHandler = Furnishing.latest (·.defaultHandler?) taken
  notFoundHandler :
    operation.dispatcher.notFoundHandler = Furnishing.latest (·.notFoundHandler?) taken
  requestFilter : operation.dispatcher.requestFilter = Furnishing.latest (·.requestFilter?) taken
  responseFilter :
    operation.dispatcher.responseFilter = Furnishing.latest (·.responseFilter?) taken
  limits : operation.dispatcher.limits = (Furnishing.latest (·.limits?) taken).getD base.limits
  tls : operation.tls = Furnishing.latest (·.tls?) taken
  guard : operation.guard = (Furnishing.latest (·.guard?) taken).getD base.guard
  interval : operation.interval = (Furnishing.latest (·.interval?) taken).getD base.interval
  commands : operation.commands = taken.filterMap (·.command?)
  workers : operation.workers = workers

theorem baseUri_foldl_add {α : Type 1} (table : RouteTable α) (additions : List (String × α)) :
    (additions.foldl (fun table addition => table.add addition.1 addition.2) table).baseUri =
      table.baseUri := by
  induction additions generalizing table with
  | nil => rfl
  | cons addition rest ih => exact ih _

theorem Bare.uses {base : Server σ ι κ} (bare : base.Bare) (taken : List (Furnishing σ ι κ))
    (workers : Nat) : base.Uses taken workers ((base.furnished taken).operation workers) where
  name := rfl
  baseUri := baseUri_foldl_add base.routes _
  routes := by
    show (List.foldl _ base.routes _).Arranged _
    rw [bare.routes]
    exact RouteTable.arranged_build _ _
  defaultHandler := by
    show (Furnishing.latest _ _).or base.defaultHandler = _
    rw [bare.defaultHandler, Option.or_none]
  notFoundHandler := by
    show (Furnishing.latest _ _).or base.notFoundHandler = _
    rw [bare.notFoundHandler, Option.or_none]
  requestFilter := by
    show (Furnishing.latest _ _).or base.requestFilter = _
    rw [bare.requestFilter, Option.or_none]
  responseFilter := by
    show (Furnishing.latest _ _).or base.responseFilter = _
    rw [bare.responseFilter, Option.or_none]
  limits := rfl
  tls := by
    show (Furnishing.latest _ _).or base.tls = _
    rw [bare.tls, Option.or_none]
  guard := rfl
  interval := rfl
  commands := by
    show base.commands ++ _ = _
    rw [bare.commands, List.nil_append]
  workers := rfl

/-- How a server lives that was `base` when it was made: what holds of it after these acts, and
what becomes of it by the next. -/
structure Lives (base : Server σ ι κ) (acts : List (Act σ ι κ)) : Prop where
  /-- The first start begins a run, and no other act does. -/
  first {act : Act σ ι κ} : base.Begins acts act ↔
    act.starts = true ∧ ∀ earlier ∈ acts, earlier.starts = false
  /-- Two starts never begin a run each. -/
  once {early late early' late' : List (Act σ ι κ)} {start start' : Act σ ι κ} :
    acts = early ++ start :: late → acts = early' ++ start' :: late' →
      base.Begins early start → base.Begins early' start' → early = early'
  /-- It runs from a start to the next stop. -/
  runs : (base.replay acts).isRunning = true ↔ ∃ early start late,
    acts = early ++ start :: late ∧ base.Begins early start ∧ .stop ∉ late
  /-- There is an event loop exactly while it runs. -/
  loops : (base.replay acts).loop.isSome = (base.replay acts).isRunning
  /-- A start that begins a run succeeds. -/
  succeeds {act : Act σ ι κ} : base.Begins acts act → ((base.replay acts).act act).2 = .done
  /-- A start while it runs succeeds too, and does nothing. -/
  again {act : Act σ ι κ} : (base.replay acts).isRunning = true → act.starts = true →
    (base.replay acts).act act = (base.replay acts, .done)
  /-- Once it has run and been stopped, it runs no more, and a start says so. -/
  spent {early late : List (Act σ ι κ)} {start : Act σ ι κ} :
    acts = early ++ start :: late → base.Begins early start → .stop ∈ late →
      (base.replay acts).isRunning = false ∧ ∀ act : Act σ ι κ, act.starts = true →
        (base.replay acts).act act = (base.replay acts, .failed .acceptorConsumed)
  /-- To stop it while it does not run changes nothing. -/
  idles : (base.replay acts).isRunning = false →
    (base.replay acts).act .stop = (base.replay acts, .done) ∧
      (base.replay acts).act .release = (base.replay acts, .done)
  /-- While it runs it refuses every furnishing, and by the name of the call. -/
  refuses {furnishing : Furnishing σ ι κ} : (base.replay acts).isRunning = true →
    (base.replay acts).act (.furnish furnishing) =
      (base.replay acts, .refused (.running furnishing.name))
  /-- While it does not run it takes every furnishing but an interval of no length. -/
  takes {furnishing : Furnishing σ ι κ} : (base.replay acts).isRunning = false → furnishing.Sound →
    (base.replay acts).act (.furnish furnishing) =
      ((base.replay acts).furnished [furnishing], .done)
  /-- An interval of no length is refused as such. -/
  insists {interval : Duration} : (base.replay acts).isRunning = false →
    interval.nanoseconds = 0 →
      (base.replay acts).act (.furnish (.interval interval)) =
        (base.replay acts, .refused (.invalid (.invalidInterval interval)))
  /-- The interval always has some length. -/
  positive : 0 < (base.replay acts).interval.nanoseconds
  /-- What it works with while it runs has been set by the calls that succeeded before the start. -/
  uses {operation : Operation σ ι κ} : (base.replay acts).loop = some operation →
    ∃ early start late, acts = early ++ start :: late ∧ base.Begins early start ∧
      base.Uses (base.taken early) (start.threads?.getD 0) operation

/-- Every server lives like this, whatever is done to it. -/
theorem lives_of_made {base : Server σ ι κ} (made : Made base) (acts : List (Act σ ι κ)) :
    Lives base acts where
  first := made.fresh.begins_iff
  once same same' begins begins' := by
    obtain ⟨starts, quiet⟩ := made.fresh.begins_iff.1 begins
    obtain ⟨starts', quiet'⟩ := made.fresh.begins_iff.1 begins'
    exact (first_start_unique (same.symm.trans same') quiet quiet' starts starts').1
  runs := made.fresh.isRunning_iff
  loops := (made.fresh.stands acts).isSome_loop
  succeeds begins := by
    obtain ⟨starts, quiet⟩ := made.fresh.begins_iff.1 begins
    rw [made.fresh.replay_waiting quiet, act_start_resting starts]
  again running starts := act_start_running running starts
  spent same begins ended := by
    obtain ⟨starts, quiet⟩ := made.fresh.begins_iff.1 begins
    rw [same, made.fresh.replay_stopped quiet starts ended]
    exact ⟨rfl, fun _ again => act_start_spent rfl rfl again⟩
  idles idle := (made.fresh.stands acts).act_idle idle
  refuses running := act_furnish_running running _
  takes idle sound := act_furnish_sound idle sound
  insists idle empty := act_interval_empty idle empty
  positive := (made.fresh.stands acts).positive_interval made.fresh.positive
  uses runs := by
    obtain ⟨early, start, late, same, starts, quiet, -, rfl⟩ :=
      (made.fresh.stands acts).eq_operation runs
    exact ⟨early, start, late, same, made.fresh.begins_iff.2 ⟨starts, quiet⟩,
      made.bare.uses _ _⟩

def idling : BlockingHandler Unit := fun _ => pure ()

/-- A server that is furnished, started, furnished in vain, stopped and started in vain. -/
theorem lives_stopped_twice :
    let base : Server Unit Nat Nat := ofListener "demo" "/v1" none
    let first : List (Act Unit Nat Nat) := [.stop, .furnish (.interval ⟨0⟩),
      .furnish (.blockingHandler "/idle" idling), .furnish (.command 7), .furnish (.tlsContext 3),
      .run 0, .furnish (.command 8)]
    let second : List (Act Unit Nat Nat) := [.stop, .runSingleThreaded, .stop]
    Made base ∧ Lives base first ∧ Lives base (first ++ second) ∧
      ∃ operation, (base.replay first).loop = some operation ∧
        operation.dispatcher.routes.routes = [⟨"/v1/idle", .simple idling.toAsync⟩] ∧
        operation.commands = [7] ∧ operation.tls = some 3 ∧ operation.workers = 1 := by
  intro base first second
  have made : Made base := .ofListener "demo" "/v1" none
  exact ⟨made, lives_of_made made first, lives_of_made made (first ++ second),
    _, rfl, rfl, rfl, rfl, rfl⟩

end Server
end HttpServer
