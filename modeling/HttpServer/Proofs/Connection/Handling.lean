import HttpServer.Proofs.Connection.Streaming

/-! Handlers that answer a request with its whole body. One of them is called only if the request
has arrived and the filter has let it pass, and what it comes to is what goes out, once the
response filter has seen it. -/
namespace HttpServer

variable {σ : Type}

/-- Calls of a handler that answers a request with its whole body. -/
def Call.IsHandler : Call → Prop
  | .routeHandler _ _ _ | .defaultHandler _ _ | .notFoundHandler _ _ => True
  | _ => False

section Answered

variable {dispatcher : Dispatcher σ} {connection : Connection} {incoming : Incoming}
  {state after : σ} {calls : List Call} {call : Call}

theorem Call.IsFilter.not_isHandler (filter : call.IsFilter) : ¬ call.IsHandler := by
  cases call with
  | requestFilter | responseFilter => exact not_false
  | _ => exact filter.elim

theorem UploadHandler.not_isHandler_of_course {handler : UploadHandler σ}
    {reception : handler.Reception} {fed : Body.Fed} {response : Response}
    (made : call ∈ handler.course reception state fed response) : ¬ call.IsHandler := by
  rw [UploadHandler.course, List.mem_append, List.mem_map] at made
  rcases made with ⟨piece, _, rfl⟩ | finishes
  · exact not_false
  · split at finishes
    · rw [List.mem_singleton.mp finishes]
      exact not_false
    · cases finishes

theorem Decides.answered_of_isHandler {decision : Option Decision}
    (h : Decides dispatcher incoming state calls decision after) (made : call ∈ calls)
    (handles : call.IsHandler) :
    ∃ routed mid more answer, Buffered dispatcher incoming.request routed ∧
      Answers dispatcher incoming.whole mid routed more answer after ∧ call ∈ more ∧
      decision = answer.map .reply := by
  have unfiltered {request : Request} {calls : List Call} {answer : Option Response} {after : σ}
      (asks : Asks dispatcher request state calls answer after) : call ∉ calls :=
    fun member => (asks.isFilter call member).not_isHandler handles
  cases h with
  | disallowed | exceeding | malformed | starved => cases made
  | intercepted buffered within ended asks => exact absurd made (unfiltered asks)
  | answered buffered within ended asks answers =>
      have later := (List.mem_append.mp made).resolve_left (unfiltered asks)
      exact ⟨_, _, _, _, buffered, answers, later, rfl⟩
  | uploadIntercepted uploaded asks => exact absurd made (unfiltered asks)
  | uploadPanicked uploaded asks ran =>
      have later := (List.mem_append.mp made).resolve_left (unfiltered asks)
      cases List.mem_singleton.mp later
      exact handles.elim
  | received uploaded asks ran receives =>
      have later := (List.mem_append.mp made).resolve_left (unfiltered asks)
      rcases List.mem_cons.mp later with rfl | member
      · exact handles.elim
      · rw [receives.calls_eq] at member
        exact absurd handles (UploadHandler.not_isHandler_of_course member)

/-- If such a handler is called and comes to a response, this response goes to the filter and
then out. -/
theorem Course.answered_of_isHandler {outcome : Option (Option Connection.Reply)}
    (h : Course dispatcher connection state calls outcome after) (made : call ∈ calls)
    (handles : call.IsHandler) :
    ∃ incoming routed mid more answer left, Arrives dispatcher.limits connection incoming ∧
      Buffered dispatcher incoming.request routed ∧
      Answers dispatcher incoming.whole mid routed more answer left ∧ call ∈ more ∧
      ∀ response, answer = some response → ∃ others final,
        Finalizes dispatcher (incoming.reply response) left others final after ∧
        outcome = some (some final) := by
  -- Whatever became of the decision, it is the one in which the handler was called.
  cases h with
  | @replied _ reply mid _ final _ converses finalizes =>
      have unfiltered : call ∉ _ := fun member => by
        have filter := finalizes.eq_responseFilter member
        rw [filter] at handles
        exact handles.elim
      have early := (List.mem_append.mp made).resolve_right unfiltered
      cases converses with
      | rejected => cases early
      | replied arrives decides =>
          obtain ⟨routed, mid, more, answer, buffered, answers, member, same⟩ :=
            decides.answered_of_isHandler early handles
          refine ⟨_, routed, mid, more, answer, _, arrives, buffered, answers, member, ?_⟩
          rintro response rfl
          cases same
          exact ⟨_, _, finalizes, rfl⟩
  | silent converses =>
      cases converses with
      | starved => cases made
      | silent arrives decides =>
          obtain ⟨routed, mid, more, answer, buffered, answers, member, same⟩ :=
            decides.answered_of_isHandler made handles
          refine ⟨_, routed, mid, more, answer, _, arrives, buffered, answers, member, ?_⟩
          rintro response rfl
          cases same
  | broke converses =>
      cases converses with
      | broke arrives decides =>
          obtain ⟨routed, mid, more, answer, buffered, answers, member, same⟩ :=
            decides.answered_of_isHandler made handles
          refine ⟨_, routed, mid, more, answer, _, arrives, buffered, answers, member, ?_⟩
          rintro response rfl
          cases same

end Answered

end HttpServer
