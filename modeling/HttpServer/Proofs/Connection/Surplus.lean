import HttpServer.Proofs.Connection.Buffering
import HttpServer.Proofs.Connection.Reporting
import HttpServer.Proofs.Head.Feeding

/-! Octets behind a request. A request that is there as a whole is served as if the client had sent
nothing after it, whatever it has sent, how it has cut that, and how its sending ends. -/
namespace HttpServer

namespace Body

theorem drain_append_of_finished {state next : State} {buffer rest : Bytes} {pieces : List Bytes}
    (ended : drain state buffer = ⟨pieces, .finished, next, rest⟩) (more : Bytes) :
    drain state (buffer ++ more) = ⟨pieces, .finished, next, rest ++ more⟩ := by
  induction state, buffer using drain_induction generalizing pieces with
  | goOn moved ih =>
      obtain ⟨used, rfl, again⟩ := move_goOn moved
      rw [drain_goOn moved] at ended
      rw [List.append_assoc, drain_goOn (again _), ih ended]
  | @data _ _ buffer _ _ moved ih =>
      obtain ⟨after, left, passes, pos, rfl, nonempty, rfl, rfl, rfl⟩ := move_data moved
      by_cases full : left ≤ buffer.length
      · have length : (buffer.take left).length = left := List.length_take_of_le full
        have same := drain_passing_full passes pos length
        rw [length, Nat.sub_self] at ih
        rw [← List.take_append_drop left buffer, same] at ended
        rw [← List.take_append_drop left buffer, List.append_assoc, same]
        cases run : drain (after 0) (buffer.drop left) with
        | mk later stop last unread =>
            rw [run] at ended
            cases ended
            rw [ih run]
            rfl
      · rw [drain_passing passes (Nat.lt_of_not_le full) nonempty] at ended
        cases ended
  | stop moved =>
      rw [drain_stop moved] at ended
      cases ended
      rw [drain_stop (move_finished moved more)]

theorem feed_ne_needMore {state : State} {first : Bytes} {more : List Bytes}
    (ended : (drain state (first :: more).flatten).stop = .finished) :
    (feed state [] (first :: more)).stop ≠ .needMore := by
  rcases feed_alike_or_cut state first more with alike | ⟨_, _, _, _, _, stop, _⟩
  · rw [alike.stop, ended]
    exact nofun
  · rw [stop]
    exact nofun

/-- A body that ends in its last segment yields the same pieces if more follows. Where a full line
is cut before that, the body is refused with or without what follows. -/
theorem feed_surplus {state : State} {buffer : Bytes} {early : List Bytes} {last : Bytes}
    (ended : (drain state (buffer ++ (early ++ [last]).flatten)).stop = .finished) (start : Bytes)
    (more : List Bytes) :
    (feed state buffer (early ++ (last ++ start) :: more)).pieces =
        (feed state buffer (early ++ [last])).pieces ∧
      (feed state buffer (early ++ (last ++ start) :: more)).stop =
        (feed state buffer (early ++ [last])).stop := by
  induction early generalizing state buffer with
  | nil =>
      rw [List.nil_append, List.flatten_singleton] at ended
      cases run : drain state (buffer ++ last) with
      | mk pieces stop next rest =>
          rw [run] at ended
          cases ended
          rw [List.nil_append, List.nil_append, feed_cons, feed_cons, ← List.append_assoc,
            drain_append_of_finished run, run]
          exact ⟨rfl, rfl⟩
  | cons segment early ih =>
      rw [List.cons_append, List.cons_append, feed_cons, feed_cons]
      by_cases waits : (drain state (buffer ++ segment)).stop = .needMore
      · rw [List.cons_append, List.flatten_cons, ← List.append_assoc] at ended
        rcases drain_append state (buffer ++ segment) (early ++ [last]).flatten with
          alike | ⟨_, _, fails⟩
        · rw [alike.stop, Drained.resume_waiting waits, Drained.stop_after] at ended
          obtain ⟨pieces, stop⟩ := ih ended
          rw [Drained.feedOn_waiting waits, Drained.feedOn_waiting waits]
          exact ⟨congrArg (_ ++ ·) pieces, stop⟩
        · rw [fails.stop] at waits
          cases waits
      · rw [Drained.feedOn_stopped waits, Drained.feedOn_stopped waits]
        exact ⟨rfl, rfl⟩

end Body

namespace Head

theorem feed_surplus {limits : Limits} (room : 1 ≤ limits.maxHeadBytes) {buffer rest : Bytes}
    {early : List Bytes} {last : Bytes} {reading : Reading} (settled : reading ≠ .incomplete)
    (whole : decode limits (buffer ++ (early ++ [last]).flatten) = (reading, rest)) :
    ∃ before final, (before ++ [final]).flatten = rest ∧
      (∃ kept unfed, kept :: unfed = before ++ [final] ∧
        feed limits buffer (early ++ [last]) = ⟨reading, kept, unfed⟩) ∧
      ∀ start more, ∃ kept unfed, kept :: unfed = before ++ (final ++ start) :: more ∧
        feed limits buffer (early ++ (last ++ start) :: more) = ⟨reading, kept, unfed⟩ := by
  induction early generalizing buffer with
  | nil =>
      rw [List.nil_append, List.flatten_singleton] at whole
      refine ⟨[], rest, List.flatten_singleton, ⟨rest, [], rfl, feed_settled whole settled _⟩, ?_⟩
      intro start more
      have longer := decode_settled room whole settled start
      rw [List.append_assoc] at longer
      exact ⟨rest ++ start, more, rfl, feed_settled longer settled more⟩
  | cons segment early ih =>
      rw [List.cons_append, List.flatten_cons, ← List.append_assoc] at whole
      rcases first : decode limits (buffer ++ segment) with ⟨opening, kept⟩
      by_cases waits : opening = .incomplete
      · subst waits
        rw [decode_waiting first] at whole
        obtain ⟨before, final, flat, fed, longer⟩ := ih whole
        simp only [List.cons_append, feed_waiting first]
        exact ⟨before, final, flat, fed, longer⟩
      · rw [decode_settled room first waits] at whole
        cases whole
        refine ⟨kept :: early, last, rfl, ⟨kept, _, rfl, feed_settled first waits _⟩, ?_⟩
        intro start more
        exact ⟨kept, _, rfl, feed_settled first waits _⟩

end Head

variable {σ : Type} {dispatcher : Dispatcher σ} {connection : Connection} {state after : σ}
  {calls : List Call}

/-- The same request, the body of which comes in the same pieces and to the same end. -/
structure Incoming.Alike (first second : Incoming) : Prop where
  request : first.request = second.request
  framing : first.framing = second.framing
  pieces : first.fed.pieces = second.fed.pieces
  stop : first.fed.stop = second.fed.stop

namespace Incoming.Alike

variable {first second : Incoming}

theorem payload (h : first.Alike second) : first.fed.payload = second.fed.payload :=
  congrArg List.flatten h.pieces

theorem collectThen (h : first.Alike second) (dispatcher : Dispatcher σ)
    (routed : Option (String × AsyncHandler σ)) :
    dispatcher.collectThen routed first.request first.framing first.buffer first.segments =
      dispatcher.collectThen routed second.request second.framing second.buffer
        second.segments := by
  have exceeds : first.Exceeds dispatcher.limits.maxBodyBytes ↔
      second.Exceeds dispatcher.limits.maxBodyBytes := by
    rw [Exceeds, Exceeds, h.framing, h.payload]
  have whole : first.whole = second.whole := by
    rw [Incoming.whole, Incoming.whole, h.request, h.payload]
  by_cases large : second.Exceeds dispatcher.limits.maxBodyBytes
  · rw [collectThen_exceeding large, collectThen_exceeding (exceeds.mpr large)]
  · rw [collectThen_within large, collectThen_within (mt exceeds.mp large), h.stop, whole]

theorem upload (h : first.Alike second) (dispatcher : Dispatcher σ) (handler : UploadHandler σ) :
    dispatcher.upload handler first.request first.framing first.buffer first.segments =
      dispatcher.upload handler second.request second.framing second.buffer second.segments := by
  have received (incoming : Incoming) (uri : String) (reception : handler.Reception) :
      dispatcher.receive handler uri reception (.ofFraming incoming.framing) incoming.buffer
        incoming.segments = dispatcher.receiveFed handler uri reception incoming.fed :=
    Dispatcher.receive_eq _ _ _
  simp only [Dispatcher.upload, received, Dispatcher.receiveFed, h.request, h.pieces, h.stop]

theorem decide (h : first.Alike second) (dispatcher : Dispatcher σ) :
    dispatcher.decide first.request first.framing first.buffer first.segments =
      dispatcher.decide second.request second.framing second.buffer second.segments := by
  rw [Dispatcher.decide, Dispatcher.decide, ← h.request]
  cases dispatcher.destination first.request with
  | refused => rfl
  | upload handler =>
      have same := h.upload dispatcher handler
      rwa [← h.request] at same
  | handler path handler =>
      have same := h.collectThen dispatcher (some (path, handler))
      rwa [← h.request] at same
  | fallback =>
      have same := h.collectThen dispatcher none
      rwa [← h.request] at same

theorem converse {one other : Connection} (h : first.Alike second)
    (arrives : Arrives dispatcher.limits one first)
    (alsoArrives : Arrives dispatcher.limits other second) :
    one.converse dispatcher = other.converse dispatcher := by
  rw [arrives.converse, alsoArrives.converse, h.decide]
  simp only [reply, h.request]

end Incoming.Alike

/-- There is no silence about a body that has ended or is malformed. -/
theorem Decides.ne_silence {incoming : Incoming} {decision : Option Decision}
    (settled : incoming.fed.stop ≠ .needMore)
    (h : Decides dispatcher incoming state calls decision after) : decision ≠ some .silence := by
  intro silent
  cases h with
  | starved buffered within waits => exact settled waits
  | answered buffered within ended asks answers =>
      obtain ⟨answer, _, same⟩ := Option.map_eq_some_iff.mp silent
      cases same
  | received uploaded asks ran receives =>
      cases silent
      cases receives with
      | starved taken waits => exact settled waits
  | _ => cases silent

theorem Arrives.course {incoming : Incoming}
    (arrives : Arrives dispatcher.limits connection incoming)
    (settled : incoming.fed.stop ≠ .needMore) (state : σ) : ∃ calls outcome after,
      Course dispatcher connection state calls outcome after ∧ outcome ≠ some none := by
  obtain ⟨calls, decision, mid, decides⟩ := exists_decides dispatcher incoming state
  match decision with
  | none => exact ⟨_, _, _, .broke (.broke arrives decides), nofun⟩
  | some .silence => exact absurd rfl (decides.ne_silence settled)
  | some (.reply response) =>
      obtain ⟨more, final, after, finalizes⟩ :=
        exists_finalizes dispatcher (incoming.reply response) mid
      exact ⟨_, _, _, .replied (.replied arrives decides) finalizes, nofun⟩

/-- Connections that are replied to in the same way are served in the same way, however the sending
on them ends, unless they are met with silence. -/
theorem Connection.serve_eq_of_converse {one other : Connection}
    {outcome : Option (Option Reply)} (course : Course dispatcher one state calls outcome after)
    (spoken : outcome ≠ some none) (same : other.converse dispatcher = one.converse dispatcher)
    (sameOutbound : other.outbound = one.outbound) (sameDate : other.date = one.date)
    (guard : Guard) : other.serve guard dispatcher state = one.serve guard dispatcher state := by
  have exchanged : other.exchange dispatcher = one.exchange dispatcher := by
    rw [exchange, exchange, same]
  obtain ⟨notices, ran⟩ := course.yields
  rw [serve, serve, exchanged, ran, sameOutbound, sameDate]
  cases outcome with
  | none => rfl
  | some replied =>
      cases replied with
      | none => exact absurd rfl spoken
      | some reply => rfl

theorem exists_surplus (room : 1 ≤ dispatcher.limits.maxHeadBytes) {early : List Bytes}
    {last : Bytes} (cut : connection.segments = early ++ [last]) {request : Request}
    {framing : Framing} {rest : Bytes}
    (head : Head.decode dispatcher.limits connection.segments.flatten =
      (.complete request framing, rest))
    (body : (Body.drain (.ofFraming framing) rest).stop = .finished) (start : Bytes)
    (more : List Bytes) (failure : Option IoError) :
    ∃ alone followed : Incoming, Arrives dispatcher.limits connection alone ∧
      Arrives dispatcher.limits
        { connection with segments := early ++ (last ++ start) :: more, failure } followed ∧
      followed.Alike alone ∧ alone.fed.stop ≠ .needMore := by
  rw [cut, ← List.nil_append (List.flatten _)] at head
  have complete : Head.Reading.complete request framing ≠ .incomplete := nofun
  obtain ⟨before, final, flat, ⟨kept, unfed, parts, fed⟩, longer⟩ :=
    Head.feed_surplus room complete head
  obtain ⟨kept', unfed', parts', fed'⟩ := longer start more
  have read := cut ▸ fed
  have settled : (Body.feed (.ofFraming framing) [] (kept :: unfed)).stop ≠ .needMore := by
    apply Body.feed_ne_needMore
    rw [parts, flat, body]
  rw [← flat, ← List.nil_append (List.flatten _)] at body
  obtain ⟨pieces, stop⟩ := Body.feed_surplus body start more
  rw [← parts, ← parts'] at pieces stop
  exact ⟨_, _, arrives_of_feed read, arrives_of_feed fed', ⟨rfl, rfl, pieces, stop⟩, settled⟩

/-- If the octets of a connection hold a whole request, it is served as if nothing followed them:
the same calls are made, the same octets go out, and the same is reported. -/
theorem serve_surplus (guard : Guard) (room : 1 ≤ dispatcher.limits.maxHeadBytes)
    {early : List Bytes} {last : Bytes} (cut : connection.segments = early ++ [last])
    {request : Request} {framing : Framing} {rest : Bytes}
    (head : Head.decode dispatcher.limits connection.segments.flatten =
      (.complete request framing, rest))
    (body : (Body.drain (.ofFraming framing) rest).stop = .finished) (start : Bytes)
    (more : List Bytes) (failure : Option IoError) (state : σ) :
    Connection.serve guard dispatcher
        { connection with segments := early ++ (last ++ start) :: more, failure } state =
      connection.serve guard dispatcher state := by
  obtain ⟨alone, followed, arrives, alsoArrives, alike, settled⟩ :=
    exists_surplus room cut head body start more failure
  obtain ⟨calls, outcome, after, course, spoken⟩ := arrives.course settled state
  exact Connection.serve_eq_of_converse course spoken (alike.converse alsoArrives arrives) rfl rfl
    guard

/-- A client whose body has two octets, the second of which comes by itself. -/
def measured : Connection where
  segments := [Bytes.ofText "POST / HTTP/1.1\r\nContent-Length: 2\r\n\r\nh", Bytes.ofText "i"]
  date := HttpDate.ofSeconds 0

theorem serve_surplus_measured :
    1 ≤ noteTaker.limits.maxHeadBytes ∧
      Head.decode noteTaker.limits measured.segments.flatten =
        (.complete { method := .post, uri := "/", headers := ⟨[⟨"Content-Length", "2"⟩]⟩ }
          (.length 2), Bytes.ofText "hi") ∧
      (Body.drain (.ofFraming (.length 2)) (Bytes.ofText "hi")).stop = .finished ∧
      Connection.serve ⟨false⟩ noteTaker
          { measured with
            segments := [Bytes.ofText "POST / HTTP/1.1\r\nContent-Length: 2\r\n\r\nh",
              Bytes.ofText "iGET /adm", Bytes.ofText "in HTTP/1.1\r\n\r\n"]
            failure := some (.simple .timedOut) } () =
        measured.serve ⟨false⟩ noteTaker () := by
  have room : 1 ≤ noteTaker.limits.maxHeadBytes := by decide
  have head : Head.decode noteTaker.limits measured.segments.flatten =
      (.complete { method := .post, uri := "/", headers := ⟨[⟨"Content-Length", "2"⟩]⟩ }
        (.length 2), Bytes.ofText "hi") := by decide
  have body : (Body.drain (.ofFraming (.length 2)) (Bytes.ofText "hi")).stop = .finished :=
    (Body.drain_counted 2 _).2.mpr (by decide)
  have cut : measured.segments =
      [Bytes.ofText "POST / HTTP/1.1\r\nContent-Length: 2\r\n\r\nh"] ++ [Bytes.ofText "i"] := rfl
  exact ⟨room, head, body, serve_surplus ⟨false⟩ room cut head body (Bytes.ofText "GET /adm")
    [Bytes.ofText "in HTTP/1.1\r\n\r\n"] (some (.simple .timedOut)) ()⟩

end HttpServer
