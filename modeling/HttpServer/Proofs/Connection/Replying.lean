import HttpServer.Proofs.Connection.Course
import HttpServer.Proofs.Response.Faithful

/-! What goes out on a connection: one whole response, or nothing if the client left before
its request was there. -/
namespace HttpServer

/-- A client that takes all octets that are written to it. -/
structure Outbound.TakesAll (outbound : Outbound) : Prop where
  accepts : outbound.writeFailure = none
  room : outbound.maxWrite ≠ some 0

theorem Outbound.TakesAll.written {outbound : Outbound} (h : outbound.TakesAll) (octets : Bytes) :
    (outbound.deliver octets).written = octets := by
  have free : outbound.obstacle octets.length = none := by
    rw [Outbound.obstacle, h.accepts]
    simp [h.room]
  rw [Outbound.deliver, free]
  cases outbound.flushFailure <;> rfl

theorem Outbound.written_prefix (outbound : Outbound) (octets : Bytes) :
    (outbound.deliver octets).written <+: octets := by
  rw [deliver]
  split
  · exact List.take_prefix _ _
  · cases outbound.flushFailure <;> exact List.prefix_refl _

theorem Response.encode_ne_nil (date : String) (headOnly : Bool) (response : Response) :
    response.encode date headOnly ≠ [] := by
  rw [Response.encode, Response.encodeInto_eq]
  simp [response.isLine_statusText.filled]

variable {σ : Type} {dispatcher : Dispatcher σ} {connection : Connection} {incoming : Incoming}
  {state after : σ} {calls : List Call}

theorem Finalizes.eq_responseFilter {reply final : Connection.Reply}
    (h : Finalizes dispatcher reply state calls final after) {call : Call} (made : call ∈ calls) :
    call = .responseFilter reply.uri (dispatcher.stamp reply.response) := by
  cases h with
  | unset unset => cases made
  | amended set ran => exact List.mem_singleton.mp made
  | panicked set ran => exact List.mem_singleton.mp made

namespace Connection

theorem calls_serve (guard : Guard) (dispatcher : Dispatcher σ) (connection : Connection)
    (state : σ) : (connection.serve guard dispatcher state).calls =
      (connection.exchange dispatcher state).calls := by
  rw [serve]
  split <;> rfl

theorem calls_serve_of_course {outcome : Option (Option Reply)}
    (h : Course dispatcher connection state calls outcome after) (guard : Guard) :
    (connection.serve guard dispatcher state).calls = calls := by
  obtain ⟨notices, ran⟩ := h.yields
  rw [calls_serve, ran]

theorem written_serve_of_course {final : Reply}
    (h : Course dispatcher connection state calls (some (some final)) after) (guard : Guard) :
    (connection.serve guard dispatcher state).written =
      (connection.outbound.deliver
        (final.response.encode connection.date final.headOnly)).written := by
  obtain ⟨notices, ran⟩ := h.yields
  rw [serve, ran]

theorem unwritten_serve_of_course {outcome : Option (Option Reply)}
    (h : Course dispatcher connection state calls outcome after)
    (silent : ∀ final, outcome ≠ some (some final)) (guard : Guard) :
    (connection.serve guard dispatcher state).written = [] := by
  obtain ⟨notices, ran⟩ := h.yields
  rw [serve, ran]
  cases outcome with
  | none => rfl
  | some replied =>
      cases replied with
      | none => rfl
      | some final => exact absurd rfl (silent final)

end Connection

/-- No handler panics before it has built its work. -/
structure Dispatcher.BuildsWork (dispatcher : Dispatcher σ) : Prop where
  routed : ∀ route ∈ dispatcher.routes.routes, ∀ handler,
    route.target = .simple handler ∨ route.target = .forwarding handler →
      ∀ request response state, (handler request response state).value ≠ none
  default : ∀ handler, dispatcher.defaultHandler = some handler →
    ∀ request response state, (handler request response state).value ≠ none

theorem Handles.ne_none {handler : AsyncHandler σ} {request : Request} {response : Response}
    {answer : Option Response}
    (builds : ∀ request response state, (handler request response state).value ≠ none)
    (h : Handles handler request response state answer after) : answer ≠ none := by
  cases h with
  | answered built ran => exact nofun
  | panicked built ran => exact nofun
  | broke built => exact absurd (congrArg Ran.value built) (builds request response state)

theorem Buffered.builds {request : Request} {path : String} {handler : AsyncHandler σ}
    (builds : dispatcher.BuildsWork)
    (h : Buffered dispatcher request (some (path, handler))) :
    ∀ request response state, (handler request response state).value ≠ none := by
  cases h with
  | simple found supported =>
      exact builds.routed _ (List.mem_of_find?_eq_some found) _ (.inl rfl)
  | forwarding found => exact builds.routed _ (List.mem_of_find?_eq_some found) _ (.inr rfl)

theorem Answers.ne_none {request whole : Request} {routed : Option (String × AsyncHandler σ)}
    {answer : Option Response}
    (builds : dispatcher.BuildsWork) (buffered : Buffered dispatcher request routed)
    (h : Answers dispatcher whole state routed calls answer after) : answer ≠ none := by
  cases h with
  | routed handles => exact handles.ne_none (buffered.builds builds)
  | default set handles => exact handles.ne_none (builds.default _ set)
  | notFound unset set ran => exact nofun
  | notFoundPanicked unset set ran => exact nofun
  | unanswered noDefault noNotFound => exact nofun

theorem Decides.ne_none {decision : Option Decision} (builds : dispatcher.BuildsWork)
    (h : Decides dispatcher incoming state calls decision after) : decision ≠ none := by
  cases h with
  | answered buffered within ended asks answers =>
      rw [Ne, Option.map_eq_none_iff]
      exact answers.ne_none builds buffered
  | _ => exact nofun

theorem Converses.ne_none {outcome : Option (Option Connection.Reply)}
    (builds : dispatcher.BuildsWork)
    (h : Converses dispatcher connection state calls outcome after) : outcome ≠ none := by
  cases h with
  | broke arrives decides => exact absurd rfl (decides.ne_none builds)
  | _ => exact nofun

end HttpServer
