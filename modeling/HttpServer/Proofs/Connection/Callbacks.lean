import HttpServer.Proofs.Body.Feeding
import HttpServer.Proofs.Connection.Yields

/-! What the callbacks of a server are asked on behalf of one request, in which order, and
what is made of their answers. Every relation says which calls are made from a state, what
they come to and in which state; for each of them, it is shown that the relation holds of
some calls, and that its calls are those that serving makes. -/
namespace HttpServer

open Serving

variable {σ : Type}

/-- Asking the request filter yields a response, or nothing if the request may pass. -/
inductive Asks (dispatcher : Dispatcher σ) (request : Request) (state : σ) :
    List Call → Option Response → σ → Prop
  | unset (unset : dispatcher.requestFilter = none) :
      Asks dispatcher request state [] none state
  | answered {filter answer after notices} (set : dispatcher.requestFilter = some filter)
      (ran : filter request state = ⟨some answer, after, notices⟩) :
      Asks dispatcher request state [.requestFilter request] answer after
  | panicked {filter after notices} (set : dispatcher.requestFilter = some filter)
      (ran : filter request state = ⟨none, after, notices⟩) :
      Asks dispatcher request state [.requestFilter request] (some .internalError) after

variable {dispatcher : Dispatcher σ} {request : Request} {state after : σ} {calls : List Call}
  {answer : Option Response}

theorem Asks.yields
    (h : Asks dispatcher request state calls answer after) :
    (dispatcher.filterRequest request).Yields state calls (some answer) after := by
  cases h with
  | unset unset =>
      rw [Dispatcher.filterRequest, unset]
      exact yields_pure none state
  | answered set ran =>
      rw [Dispatcher.filterRequest, set]
      exact (yields_contain ran _ _ _).bind_pure rfl
  | panicked set ran =>
      rw [Dispatcher.filterRequest, set]
      exact (yields_contain ran _ _ _).bind_pure rfl

theorem exists_asks (dispatcher : Dispatcher σ) (request : Request) (state : σ) :
    ∃ calls answer after, Asks dispatcher request state calls answer after := by
  cases set : dispatcher.requestFilter with
  | none => exact ⟨_, _, _, .unset set⟩
  | some filter =>
      rcases ran : filter request state with ⟨answer, after, notices⟩
      cases answer with
      | none => exact ⟨_, _, _, .panicked set ran⟩
      | some answer => exact ⟨_, _, _, .answered set ran⟩

/-- Running a handler yields a response. It yields none if the handler panics before it has
built its work, for nothing contains that. -/
inductive Handles (handler : AsyncHandler σ) (request : Request) (response : Response)
    (state : σ) : Option Response → σ → Prop
  | answered {work mid after answer notices later}
      (built : handler request response state = ⟨some work, mid, notices⟩)
      (ran : work mid = ⟨some answer, after, later⟩) :
      Handles handler request response state (some answer) after
  | panicked {work mid after notices later}
      (built : handler request response state = ⟨some work, mid, notices⟩)
      (ran : work mid = ⟨none, after, later⟩) :
      Handles handler request response state (some .internalError) after
  | broke {after notices} (built : handler request response state = ⟨none, after, notices⟩) :
      Handles handler request response state none after

theorem Handles.yields {handler : AsyncHandler σ} {response : Response}
    (h : Handles handler request response state answer after) (call : Call) :
    (Dispatcher.runHandler call handler request response).Yields state [call] answer after := by
  have contained {work : Work σ Response} {mid : σ} {value : Option Response}
      {notices : List Notice} (ran : work mid = ⟨value, after, notices⟩) :
      (do return (← perform [] (work.contain .handler request.uri)).getD .internalError :
        Serving σ Response).Yields mid [] (some (value.getD .internalError)) after :=
    (yields_contain ran _ _ _).bind_pure rfl
  cases h with
  | answered built ran => exact (yields_perform built [call]).bind (contained ran)
  | panicked built ran => exact (yields_perform built [call]).bind (contained ran)
  | broke built => exact (yields_perform built [call]).bind_none _

theorem exists_handles (handler : AsyncHandler σ) (request : Request) (response : Response)
    (state : σ) : ∃ answer after, Handles handler request response state answer after := by
  rcases built : handler request response state with ⟨work, mid, notices⟩
  cases work with
  | none => exact ⟨_, _, .broke built⟩
  | some work =>
      rcases ran : work mid with ⟨answer, after, later⟩
      cases answer with
      | none => exact ⟨_, _, .panicked built ran⟩
      | some answer => exact ⟨_, _, .answered built ran⟩

/-- Answering a request that has passed the filter, with the handler of its route if there
is one, else with the default handler, else with the not-found handler, else by itself. -/
inductive Answers (dispatcher : Dispatcher σ) (request : Request) (state : σ) :
    Option (String × AsyncHandler σ) → List Call → Option Response → σ → Prop
  | routed {path handler answer after}
      (handles : Handles handler request dispatcher.newResponse state answer after) :
      Answers dispatcher request state (some (path, handler))
        [.routeHandler path request dispatcher.newResponse] answer after
  | default {handler answer after} (set : dispatcher.defaultHandler = some handler)
      (handles : Handles handler request dispatcher.newResponse state answer after) :
      Answers dispatcher request state none
        [.defaultHandler request dispatcher.newResponse] answer after
  | notFound {handler answer after notices} (unset : dispatcher.defaultHandler = none)
      (set : dispatcher.notFoundHandler = some handler)
      (ran : handler request (state, dispatcher.newResponse) =
        ⟨some (), (after, answer), notices⟩) :
      Answers dispatcher request state none
        [.notFoundHandler request dispatcher.newResponse] (some answer) after
  | notFoundPanicked {handler left after notices} (unset : dispatcher.defaultHandler = none)
      (set : dispatcher.notFoundHandler = some handler)
      (ran : handler request (state, dispatcher.newResponse) = ⟨none, (after, left), notices⟩) :
      Answers dispatcher request state none
        [.notFoundHandler request dispatcher.newResponse] (some .internalError) after
  | unanswered (noDefault : dispatcher.defaultHandler = none)
      (noNotFound : dispatcher.notFoundHandler = none) :
      Answers dispatcher request state none [] (some dispatcher.newResponse.becomeNotFound) state

theorem Asks.complete {response : Response}
    (asks : Asks dispatcher request state calls (some response) after)
    (routed : Option (String × AsyncHandler σ)) :
    (dispatcher.complete routed request).Yields state calls (some response) after :=
  asks.yields.bind_pure rfl

theorem Answers.complete {mid : σ} {routed : Option (String × AsyncHandler σ)} {more : List Call}
    (asks : Asks dispatcher request state calls none mid)
    (h : Answers dispatcher request mid routed more answer after) :
    (dispatcher.complete routed request).Yields state (calls ++ more) answer after := by
  have notFound {handler : NotFoundHandler σ} {value : Option Unit} {left : Response}
      {notices : List Notice} (unset : dispatcher.defaultHandler = none)
      (set : dispatcher.notFoundHandler = some handler)
      (ran : handler request (mid, dispatcher.newResponse) = ⟨value, (after, left), notices⟩) :
      (dispatcher.fallback request).Yields mid
        [.notFoundHandler request dispatcher.newResponse]
        (some ((value.map fun _ => left).getD .internalError)) after := by
    have given : dispatcher.newResponse.hasNotFoundHandler = true := by
      rw [Dispatcher.newResponse, set]
      rfl
    obtain ⟨reports, amended⟩ := Work.amend_eq ran .notFoundHandler request.uri
    rw [Dispatcher.fallback, unset, set]
    refine ⟨reports, ?_⟩
    simp only [perform, Response.answerNotFound, if_pos given, amended]
  refine asks.yields.bind ?_
  cases h with
  | routed handles => exact handles.yields _
  | default set handles =>
      show (dispatcher.fallback request).Yields _ _ _ _
      rw [Dispatcher.fallback, set]
      exact handles.yields _
  | notFound unset set ran => exact notFound unset set ran
  | notFoundPanicked unset set ran => exact notFound unset set ran
  | unanswered noDefault noNotFound =>
      show (dispatcher.fallback request).Yields _ _ _ _
      rw [Dispatcher.fallback, noDefault, noNotFound]
      exact yields_pure _ _

theorem exists_answers (dispatcher : Dispatcher σ) (request : Request) (state : σ)
    (routed : Option (String × AsyncHandler σ)) :
    ∃ calls answer after, Answers dispatcher request state routed calls answer after := by
  cases routed with
  | some target =>
      obtain ⟨answer, after, handles⟩ :=
        exists_handles target.2 request dispatcher.newResponse state
      exact ⟨_, answer, after, .routed handles⟩
  | none =>
      cases set : dispatcher.defaultHandler with
      | some handler =>
          obtain ⟨answer, after, handles⟩ :=
            exists_handles handler request dispatcher.newResponse state
          exact ⟨_, answer, after, .default set handles⟩
      | none =>
          cases found : dispatcher.notFoundHandler with
          | none => exact ⟨_, _, _, .unanswered set found⟩
          | some handler =>
              rcases ran : handler request (state, dispatcher.newResponse) with
                ⟨value, ⟨after, left⟩, notices⟩
              cases value with
              | none => exact ⟨_, _, _, .notFoundPanicked set found ran⟩
              | some value => exact ⟨_, _, _, .notFound set found ran⟩

end HttpServer
