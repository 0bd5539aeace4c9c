import HttpServer.Server

/-! What a server is furnished with by one call after another: every route and every command, in
order, and of each of its other settings the latest. -/
namespace HttpServer

variable {σ ι κ : Type}

namespace Furnishing

@[simp] def route? : Furnishing σ ι κ → Option (String × Target σ)
  | .handler path added => some (path, .simple added)
  | .blockingHandler path added => some (path, .simple (BlockingHandler.toAsync added))
  | .uploadHandler path added => some (path, .upload added)
  | .forwardingHandler path added => some (path, .forwarding added)
  | _ => none

@[simp] def defaultHandler? : Furnishing σ ι κ → Option (AsyncHandler σ)
  | .defaultHandler set => some set
  | .blockingDefaultHandler set => some (BlockingHandler.toAsync set)
  | _ => none

@[simp] def notFoundHandler? : Furnishing σ ι κ → Option (NotFoundHandler σ)
  | .notFoundHandler set => some set
  | _ => none

@[simp] def requestFilter? : Furnishing σ ι κ → Option (RequestFilter σ)
  | .requestFilter set => some set
  | _ => none

@[simp] def responseFilter? : Furnishing σ ι κ → Option (ResponseFilter σ)
  | .responseFilter set => some set
  | _ => none

@[simp] def limits? : Furnishing σ ι κ → Option Limits
  | .limits set => some set
  | _ => none

@[simp] def interval? : Furnishing σ ι κ → Option Duration
  | .interval set => some set
  | _ => none

@[simp] def command? : Furnishing σ ι κ → Option ι
  | .command added => some added
  | _ => none

@[simp] def guard? : Furnishing σ ι κ → Option Guard
  | .abortOnExhaustion aborts => some ⟨aborts⟩
  | _ => none

@[simp] def tls? : Furnishing σ ι κ → Option κ
  | .tlsContext set => some set
  | _ => none

/-- An interval has to have some length. -/
def Sound : Furnishing σ ι κ → Prop
  | .interval set => 0 < set.nanoseconds
  | _ => True

theorem eq_interval_of_not_sound {furnishing : Furnishing σ ι κ} (h : ¬furnishing.Sound) :
    ∃ interval, furnishing = .interval interval ∧ interval.nanoseconds = 0 := by
  cases furnishing with
  | interval set => exact ⟨set, rfl, Nat.eq_zero_of_not_pos h⟩
  | _ => exact absurd trivial h

/-- The latest of the values that calls set. -/
def latest {α : Type} (setting : Furnishing σ ι κ → Option α) (furnishings : List (Furnishing σ ι κ)) :
    Option α :=
  (furnishings.filterMap setting).getLast?

theorem latest_append {α : Type} (setting : Furnishing σ ι κ → Option α)
    (early late : List (Furnishing σ ι κ)) :
    latest setting (early ++ late) = (latest setting late).or (latest setting early) := by
  rw [latest, List.filterMap_append, List.getLast?_append]
  rfl

theorem latest_singleton {α : Type} (setting : Furnishing σ ι κ → Option α)
    (furnishing : Furnishing σ ι κ) : latest setting [furnishing] = setting furnishing := by
  rw [latest]
  cases set : setting furnishing with
  | none => rw [List.filterMap_cons_none set]; rfl
  | some value => rw [List.filterMap_cons_some set]; rfl

end Furnishing

namespace Server

variable {server next : Server σ ι κ} {furnishing : Furnishing σ ι κ}

/-- A server that has been furnished with all this besides what it had. -/
def furnished (server : Server σ ι κ) (furnishings : List (Furnishing σ ι κ)) : Server σ ι κ :=
  { server with
    routes := (furnishings.filterMap (·.route?)).foldl
      (fun table route => table.add route.1 route.2) server.routes
    defaultHandler := (Furnishing.latest (·.defaultHandler?) furnishings).or server.defaultHandler
    notFoundHandler :=
      (Furnishing.latest (·.notFoundHandler?) furnishings).or server.notFoundHandler
    requestFilter := (Furnishing.latest (·.requestFilter?) furnishings).or server.requestFilter
    responseFilter := (Furnishing.latest (·.responseFilter?) furnishings).or server.responseFilter
    tls := (Furnishing.latest (·.tls?) furnishings).or server.tls
    limits := (Furnishing.latest (·.limits?) furnishings).getD server.limits
    interval := (Furnishing.latest (·.interval?) furnishings).getD server.interval
    commands := server.commands ++ furnishings.filterMap (·.command?)
    guard := (Furnishing.latest (·.guard?) furnishings).getD server.guard }

theorem furnished_nil (server : Server σ ι κ) : server.furnished [] = server := by
  simp only [furnished, Furnishing.latest, List.filterMap_nil, List.foldl_nil, List.getLast?_nil,
    Option.none_or, Option.getD_none, List.append_nil]

theorem furnished_append (server : Server σ ι κ) (early late : List (Furnishing σ ι κ)) :
    server.furnished (early ++ late) = (server.furnished early).furnished late := by
  simp only [furnished, Furnishing.latest_append, List.filterMap_append, List.foldl_append,
    Option.or_assoc, Option.getD_or, List.append_assoc]

theorem apply_of_furnish (furnished : server.furnish furnishing = .ok next) :
    server.apply furnishing = .ok next := by
  rw [furnish] at furnished
  split at furnished
  · cases furnished
  · cases applied : server.apply furnishing with
    | error reason =>
        rw [applied] at furnished
        cases furnished
    | ok changed =>
        rw [applied] at furnished
        cases furnished
        rfl

theorem eq_furnished_of_apply (applied : server.apply furnishing = .ok next) :
    next = server.furnished [furnishing] := by
  simp only [furnished, Furnishing.latest_singleton, List.filterMap_cons, List.filterMap_nil]
  cases furnishing with
  | interval interval =>
      rw [apply] at applied
      split at applied
      · cases applied
      · cases applied
        simp
  | _ =>
      cases applied
      simp

theorem furnishAll_cons {rest : List (Furnishing σ ι κ)}
    (made : server.furnishAll (furnishing :: rest) = .ok next) :
    ∃ mid, server.apply furnishing = .ok mid ∧ mid.furnishAll rest = .ok next := by
  rw [furnishAll] at made
  cases first : server.furnish furnishing with
  | error refused =>
      rw [first] at made
      cases made
  | ok mid =>
      rw [first] at made
      exact ⟨mid, apply_of_furnish first, made⟩

/-- One call after another, all of them taken, furnishes a server with all that they say. -/
theorem eq_furnished_of_furnishAll {furnishings : List (Furnishing σ ι κ)}
    (made : server.furnishAll furnishings = .ok next) : next = server.furnished furnishings := by
  induction furnishings generalizing server with
  | nil =>
      cases made
      exact (furnished_nil _).symm
  | cons furnishing rest ih =>
      obtain ⟨mid, applied, made⟩ := furnishAll_cons made
      rw [ih made, eq_furnished_of_apply applied, ← furnished_append]
      rfl

theorem apply_interval_empty (server : Server σ ι κ) {interval : Duration}
    (empty : interval.nanoseconds = 0) :
    server.apply (.interval interval) = .error (.invalidInterval interval) :=
  if_pos empty

/-- Every call is taken but one for an interval of no length. -/
theorem apply_of_sound (server : Server σ ι κ) (furnishing : Furnishing σ ι κ)
    (sound : furnishing.Sound) :
    server.apply furnishing = .ok (server.furnished [furnishing]) := by
  cases applied : server.apply furnishing with
  | ok next => rw [eq_furnished_of_apply applied]
  | error reason =>
      cases furnishing with
      | interval interval =>
          rw [apply, if_neg (Nat.ne_of_gt sound)] at applied
          cases applied
      | _ => cases applied

theorem sound_of_apply (applied : server.apply furnishing = .ok next) : furnishing.Sound := by
  by_cases sound : furnishing.Sound
  · exact sound
  · obtain ⟨interval, rfl, empty⟩ := Furnishing.eq_interval_of_not_sound sound
    rw [apply_interval_empty server empty] at applied
    cases applied

theorem ok_bind {ε : Type} {α β : Type 1} (value : α) (next : α → Except ε β) :
    (Except.ok value >>= next) = next value := rfl

theorem error_bind {ε : Type} {α β : Type 1} (reason : ε) (next : α → Except ε β) :
    (Except.error reason >>= next) = .error reason := rfl

def configured (config : Config) : List (Furnishing σ ι κ) :=
  [.limits config.limits, .interval config.interval, .abortOnExhaustion config.abortsOnExhaustion]

/-- Only the interval of a configuration can be refused. -/
theorem ofConfig_eq_ok {config : Config} {localAddress : Option Endpoint}
    (built : ofConfig config localAddress = .ok server) :
    0 < config.interval.nanoseconds ∧
      server = (ofListener config.name config.baseUri localAddress).furnished
        (configured config) := by
  rw [ofConfig, apply_of_sound _ (.limits config.limits) trivial, ok_bind] at built
  by_cases empty : config.interval.nanoseconds = 0
  · rw [apply_interval_empty _ empty, error_bind] at built
    cases built
  · have sound : (Furnishing.interval (σ := σ) (ι := ι) (κ := κ) config.interval).Sound :=
      Nat.pos_of_ne_zero empty
    rw [apply_of_sound _ _ sound, ok_bind,
      apply_of_sound _ (.abortOnExhaustion config.abortsOnExhaustion) trivial,
      ← furnished_append, ← furnished_append] at built
    exact ⟨sound, (Except.ok.inj built).symm⟩

theorem positive_furnished (positive : 0 < server.interval.nanoseconds)
    {furnishings : List (Furnishing σ ι κ)} (sound : ∀ furnishing ∈ furnishings, furnishing.Sound) :
    0 < (server.furnished furnishings).interval.nanoseconds := by
  rw [furnished]
  cases found : Furnishing.latest (·.interval?) furnishings with
  | none => exact positive
  | some interval =>
      obtain ⟨furnishing, listed, sets⟩ := List.mem_filterMap.1 (List.mem_of_getLast? found)
      have length := sound furnishing listed
      cases furnishing with
      | interval =>
          cases sets
          exact length
      | _ => cases sets

end Server
end HttpServer
