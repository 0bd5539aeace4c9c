import HttpServer.Proofs.Connection.Arriving
import HttpServer.Proofs.Connection.Uploading

/-! The course of a connection: which callbacks it calls, in which order and with which
arguments, and what it comes to. Before a body has been collected nothing is called; before
an upload is received only the filter and the handler's beginning are. -/
namespace HttpServer

open Serving

variable {σ : Type} {dispatcher : Dispatcher σ} {connection : Connection} {incoming : Incoming}
  {state after : σ} {calls : List Call}

/-- Deciding about a request whose head has been read comes to a response, or to silence if
the request did not arrive whole. It comes to nothing if a handler panics before it has built
its work. -/
inductive Decides (dispatcher : Dispatcher σ) (incoming : Incoming) (state : σ) :
    List Call → Option Decision → σ → Prop
  | disallowed (disallowed : Disallowed dispatcher incoming.request) :
      Decides dispatcher incoming state [] (some (.reply .methodNotAllowed)) state
  | exceeding {routed} (buffered : Buffered dispatcher incoming.request routed)
      (exceeds : incoming.Exceeds dispatcher.limits.maxBodyBytes) :
      Decides dispatcher incoming state [] (some (.reply (.error 413))) state
  | malformed {routed reason} (buffered : Buffered dispatcher incoming.request routed)
      (within : ¬ incoming.Exceeds dispatcher.limits.maxBodyBytes)
      (broken : incoming.fed.stop = .failed reason) :
      Decides dispatcher incoming state [] (some (.reply (.error reason.status))) state
  | starved {routed} (buffered : Buffered dispatcher incoming.request routed)
      (within : ¬ incoming.Exceeds dispatcher.limits.maxBodyBytes)
      (waits : incoming.fed.stop = .needMore) :
      Decides dispatcher incoming state [] (some .silence) state
  | intercepted {routed calls response after}
      (buffered : Buffered dispatcher incoming.request routed)
      (within : ¬ incoming.Exceeds dispatcher.limits.maxBodyBytes)
      (ended : incoming.fed.stop = .finished)
      (asks : Asks dispatcher incoming.whole state calls (some response) after) :
      Decides dispatcher incoming state calls (some (.reply response)) after
  | answered {routed calls mid more answer after}
      (buffered : Buffered dispatcher incoming.request routed)
      (within : ¬ incoming.Exceeds dispatcher.limits.maxBodyBytes)
      (ended : incoming.fed.stop = .finished)
      (asks : Asks dispatcher incoming.whole state calls none mid)
      (answers : Answers dispatcher incoming.whole mid routed more answer after) :
      Decides dispatcher incoming state (calls ++ more) (answer.map .reply) after
  | uploadIntercepted {handler calls response after}
      (uploaded : Uploaded dispatcher incoming.request handler)
      (asks : Asks dispatcher incoming.request state calls (some response) after) :
      Decides dispatcher incoming state calls (some (.reply response)) after
  | uploadPanicked {handler calls mid after notices}
      (uploaded : Uploaded dispatcher incoming.request handler)
      (asks : Asks dispatcher incoming.request state calls none mid)
      (ran : handler.begin incoming.request mid = ⟨none, after, notices⟩) :
      Decides dispatcher incoming state (calls ++ [.uploadBegin incoming.request])
        (some (.reply .internalError)) after
  | received {handler calls mid reception begun notices more decision after}
      (uploaded : Uploaded dispatcher incoming.request handler)
      (asks : Asks dispatcher incoming.request state calls none mid)
      (ran : handler.begin incoming.request mid = ⟨some reception, begun, notices⟩)
      (receives : Receives handler dispatcher.newResponse incoming.fed reception begun more
        decision after) :
      Decides dispatcher incoming state (calls ++ .uploadBegin incoming.request :: more)
        (some decision) after

theorem Incoming.collectThen_exceeding
    (exceeds : incoming.Exceeds dispatcher.limits.maxBodyBytes)
    (routed : Option (String × AsyncHandler σ)) :
    dispatcher.collectThen routed incoming.request incoming.framing incoming.buffer
      incoming.segments = pure (.reply (.error 413)) := by
  have collected := Incoming.collect_exceeding exceeds
  rw [Incoming.collect] at collected
  rw [Dispatcher.collectThen, collected]
  rfl

theorem Incoming.collectThen_within
    (within : ¬ incoming.Exceeds dispatcher.limits.maxBodyBytes)
    (routed : Option (String × AsyncHandler σ)) :
    dispatcher.collectThen routed incoming.request incoming.framing incoming.buffer
      incoming.segments =
        match incoming.fed.stop with
        | .finished => do return .reply (← dispatcher.complete routed incoming.whole)
        | .failed reason => pure (.reply (.error reason.status))
        | .needMore => pure .silence := by
  have collected := Incoming.collect_within within
  rw [Incoming.collect] at collected
  rw [Dispatcher.collectThen, collected]
  cases incoming.fed.stop <;> rfl

theorem Decides.yields {decision : Option Decision}
    (h : Decides dispatcher incoming state calls decision after) :
    (dispatcher.decide incoming.request incoming.framing incoming.buffer
      incoming.segments).Yields state calls decision after := by
  cases h with
  | disallowed disallowed =>
      rw [disallowed.decide]
      exact yields_pure _ _
  | exceeding buffered exceeds =>
      rw [buffered.decide, Incoming.collectThen_exceeding exceeds]
      exact yields_pure _ _
  | malformed buffered within broken =>
      rw [buffered.decide, Incoming.collectThen_within within, broken]
      exact yields_pure _ _
  | starved buffered within waits =>
      rw [buffered.decide, Incoming.collectThen_within within, waits]
      exact yields_pure _ _
  | intercepted buffered within ended asks =>
      rw [buffered.decide, Incoming.collectThen_within within, ended]
      exact (asks.complete _).map Decision.reply
  | answered buffered within ended asks answers =>
      rw [buffered.decide, Incoming.collectThen_within within, ended]
      exact (answers.complete asks).map Decision.reply
  | uploadIntercepted uploaded asks =>
      rw [uploaded.decide]
      exact asks.yields.bind_pure rfl
  | uploadPanicked uploaded asks ran =>
      rw [uploaded.decide]
      exact asks.yields.bind ((yields_contain ran _ _ _).bind_pure rfl)
  | received uploaded asks ran receives =>
      rw [uploaded.decide]
      exact asks.yields.bind ((yields_contain ran _ _ _).bind (receives.yields _))

theorem exists_decides (dispatcher : Dispatcher σ) (incoming : Incoming) (state : σ) :
    ∃ calls decision after, Decides dispatcher incoming state calls decision after := by
  rcases routing_cases dispatcher incoming.request with ⟨routed, buffered⟩ |
    ⟨handler, uploaded⟩ | disallowed
  · by_cases exceeds : incoming.Exceeds dispatcher.limits.maxBodyBytes
    · exact ⟨_, _, _, .exceeding buffered exceeds⟩
    · cases stop : incoming.fed.stop with
      | needMore => exact ⟨_, _, _, .starved buffered exceeds stop⟩
      | failed reason => exact ⟨_, _, _, .malformed buffered exceeds stop⟩
      | finished =>
          obtain ⟨calls, response, mid, asks⟩ := exists_asks dispatcher incoming.whole state
          cases response with
          | some response => exact ⟨_, _, _, .intercepted buffered exceeds stop asks⟩
          | none =>
              obtain ⟨more, answer, after, answers⟩ :=
                exists_answers dispatcher incoming.whole mid routed
              exact ⟨_, _, _, .answered buffered exceeds stop asks answers⟩
  · obtain ⟨calls, response, mid, asks⟩ := exists_asks dispatcher incoming.request state
    cases response with
    | some response => exact ⟨_, _, _, .uploadIntercepted uploaded asks⟩
    | none =>
        rcases ran : handler.begin incoming.request mid with ⟨reception, begun, notices⟩
        cases reception with
        | none => exact ⟨_, _, _, .uploadPanicked uploaded asks ran⟩
        | some reception =>
            obtain ⟨more, decision, after, receives⟩ :=
              exists_receives handler dispatcher.newResponse incoming.fed reception begun
            exact ⟨_, _, _, .received uploaded asks ran receives⟩
  · exact ⟨_, _, _, .disallowed disallowed⟩

/-- What the response filter makes of a reply, which carries the server's name before the
filter sees it, and again if the filter panics. -/
inductive Finalizes (dispatcher : Dispatcher σ) (reply : Connection.Reply) (state : σ) :
    List Call → Connection.Reply → σ → Prop
  | unset (unset : dispatcher.responseFilter = none) :
      Finalizes dispatcher reply state []
        { reply with response := dispatcher.stamp reply.response } state
  | amended {filter amended after notices} (set : dispatcher.responseFilter = some filter)
      (ran : filter reply.uri (state, dispatcher.stamp reply.response) =
        ⟨some (), (after, amended), notices⟩) :
      Finalizes dispatcher reply state
        [.responseFilter reply.uri (dispatcher.stamp reply.response)]
        { reply with response := amended } after
  | panicked {filter left after notices} (set : dispatcher.responseFilter = some filter)
      (ran : filter reply.uri (state, dispatcher.stamp reply.response) =
        ⟨none, (after, left), notices⟩) :
      Finalizes dispatcher reply state
        [.responseFilter reply.uri (dispatcher.stamp reply.response)]
        { reply with response := dispatcher.stamp .internalError } after

theorem Finalizes.yields {reply final : Connection.Reply}
    (h : Finalizes dispatcher reply state calls final after) :
    (Connection.finalize dispatcher reply).Yields state calls (some final) after := by
  have finalized {response : Response}
      (ends : (dispatcher.finalize reply.uri reply.response).Yields state calls (some response)
        after) :
      (Connection.finalize dispatcher reply).Yields state calls
        (some { reply with response }) after :=
    ends.map fun response => ({ reply with response } : Connection.Reply)
  cases h with
  | unset unset =>
      apply finalized
      rw [Dispatcher.finalize, unset]
      exact yields_pure _ _
  | amended set ran =>
      apply finalized
      rw [Dispatcher.finalize, set]
      exact (yields_holding ran _ _ _).bind_pure rfl
  | panicked set ran =>
      apply finalized
      rw [Dispatcher.finalize, set]
      exact (yields_holding ran _ _ _).bind_pure rfl

theorem exists_finalizes (dispatcher : Dispatcher σ) (reply : Connection.Reply) (state : σ) :
    ∃ calls final after, Finalizes dispatcher reply state calls final after := by
  cases set : dispatcher.responseFilter with
  | none => exact ⟨_, _, _, .unset set⟩
  | some filter =>
      rcases ran : filter reply.uri (state, dispatcher.stamp reply.response) with
        ⟨value, ⟨after, left⟩, notices⟩
      cases value with
      | none => exact ⟨_, _, _, .panicked set ran⟩
      | some value => exact ⟨_, _, _, .amended set ran⟩

/-- Reading a request and deciding about it comes to a reply, to silence, or to nothing if
a handler panics before it has built its work. A head that cannot be read is answered without
a target. -/
inductive Converses (dispatcher : Dispatcher σ) (connection : Connection) (state : σ) :
    List Call → Option (Option Connection.Reply) → σ → Prop
  | starved (waits : (Head.feed dispatcher.limits [] connection.segments).reading = .incomplete) :
      Converses dispatcher connection state [] (some none) state
  | rejected {reason}
      (rejected : (Head.feed dispatcher.limits [] connection.segments).reading = .rejected reason) :
      Converses dispatcher connection state [] (some (some ⟨"", false, .error reason.status⟩)) state
  | replied {incoming calls response after}
      (arrives : Arrives dispatcher.limits connection incoming)
      (decides : Decides dispatcher incoming state calls (some (.reply response)) after) :
      Converses dispatcher connection state calls (some (some (incoming.reply response))) after
  | silent {incoming : Incoming} {calls : List Call} {after : σ}
      (arrives : Arrives dispatcher.limits connection incoming)
      (decides : Decides dispatcher incoming state calls (some .silence) after) :
      Converses dispatcher connection state calls (some none) after
  | broke {incoming : Incoming} {calls : List Call} {after : σ}
      (arrives : Arrives dispatcher.limits connection incoming)
      (decides : Decides dispatcher incoming state calls none after) :
      Converses dispatcher connection state calls none after

theorem Arrives.converse (h : Arrives dispatcher.limits connection incoming) :
    connection.converse dispatcher = do
      match ← dispatcher.decide incoming.request incoming.framing incoming.buffer
          incoming.segments with
      | .reply response => return some (incoming.reply response)
      | .silence => return none := by
  rcases incoming with ⟨request, framing, buffer, segments⟩
  obtain ⟨⟨head, read, rfl⟩, _⟩ := h
  rw [Connection.converse, Head.readHead_eq_feed, read]
  rfl

theorem Converses.yields {outcome : Option (Option Connection.Reply)}
    (h : Converses dispatcher connection state calls outcome after) :
    (connection.converse dispatcher).Yields state calls outcome after := by
  cases h with
  | starved waits =>
      rw [Connection.converse, Head.readHead_eq_feed, Head.Fed.opening_incomplete waits]
      exact yields_pure _ _
  | rejected rejected =>
      rw [Connection.converse, Head.readHead_eq_feed, Head.Fed.opening_rejected rejected]
      exact yields_pure _ _
  | replied arrives decides =>
      rw [arrives.converse]
      exact decides.yields.bind_pure rfl
  | silent arrives decides =>
      rw [arrives.converse]
      exact decides.yields.bind_pure rfl
  | broke arrives decides =>
      rw [arrives.converse]
      exact decides.yields.bind_none _

theorem exists_converses (dispatcher : Dispatcher σ) (connection : Connection) (state : σ) :
    ∃ calls outcome after, Converses dispatcher connection state calls outcome after := by
  rcases fed : Head.feed dispatcher.limits [] connection.segments with ⟨reading, buffer, segments⟩
  have reads := congrArg Head.Fed.reading fed
  cases reading with
  | incomplete => exact ⟨_, _, _, .starved reads⟩
  | rejected reason => exact ⟨_, _, _, .rejected reads⟩
  | complete head framing =>
      obtain ⟨incoming, arrives⟩ : ∃ incoming, Arrives dispatcher.limits connection incoming :=
        ⟨_, arrives_of_feed fed⟩
      obtain ⟨calls, decision, after, decides⟩ := exists_decides dispatcher incoming state
      match decision with
      | none => exact ⟨_, _, _, .broke arrives decides⟩
      | some .silence => exact ⟨_, _, _, .silent arrives decides⟩
      | some (.reply response) => exact ⟨_, _, _, .replied arrives decides⟩

/-- The course of a connection. The response filter comes last, and only if there is a
response. -/
inductive Course (dispatcher : Dispatcher σ) (connection : Connection) (state : σ) :
    List Call → Option (Option Connection.Reply) → σ → Prop
  | replied {calls reply mid more final after}
      (converses : Converses dispatcher connection state calls (some (some reply)) mid)
      (finalizes : Finalizes dispatcher reply mid more final after) :
      Course dispatcher connection state (calls ++ more) (some (some final)) after
  | silent {calls : List Call} {after : σ}
      (converses : Converses dispatcher connection state calls (some none) after) :
      Course dispatcher connection state calls (some none) after
  | broke {calls : List Call} {after : σ}
      (converses : Converses dispatcher connection state calls none after) :
      Course dispatcher connection state calls none after

theorem Course.yields {outcome : Option (Option Connection.Reply)}
    (h : Course dispatcher connection state calls outcome after) :
    (connection.exchange dispatcher).Yields state calls outcome after := by
  cases h with
  | replied converses finalizes => exact converses.yields.bind (finalizes.yields.map some)
  | silent converses => exact converses.yields.bind_pure rfl
  | broke converses => exact converses.yields.bind_none _

theorem exists_course (dispatcher : Dispatcher σ) (connection : Connection) (state : σ) :
    ∃ calls outcome after, Course dispatcher connection state calls outcome after := by
  obtain ⟨calls, outcome, mid, converses⟩ := exists_converses dispatcher connection state
  match outcome with
  | none => exact ⟨_, _, _, .broke converses⟩
  | some none => exact ⟨_, _, _, .silent converses⟩
  | some (some reply) =>
      obtain ⟨more, final, after, finalizes⟩ := exists_finalizes dispatcher reply mid
      exact ⟨_, _, _, .replied converses finalizes⟩

def greet : AsyncHandler Unit := fun _ _ => pure (pure (.ok (Bytes.ofText "hello")))

end HttpServer
