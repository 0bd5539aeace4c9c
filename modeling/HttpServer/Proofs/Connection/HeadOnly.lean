import HttpServer.Proofs.Connection.Replying
import HttpServer.Proofs.Head.Feeding

/-! Answers to HEAD. The method is known once a head has been read, and from then on nothing is sent
behind the empty line that ends the answer's head, whatever becomes of the request. A head that is
refused takes its method with it, and what answers it has a body. -/
namespace HttpServer

namespace Head

def firstLine (octets : Bytes) : Option Bytes :=
  ((octets.splitOn 10).map dropReturn).find? (fun line => !line.isEmpty)

/-- The first line that is not empty asks for a head only. -/
def AsksForHead (octets : Bytes) : Prop :=
  ∃ uri version, IsTarget uri ∧
    firstLine octets = some (Parts.requestText ⟨"HEAD", uri, version, []⟩)

theorem firstLine_line {line : Bytes} (unbroken : 10 ∉ line) (rest : Bytes) :
    firstLine (line ++ 10 :: rest) =
      if (dropReturn line).isEmpty then firstLine rest else some (dropReturn line) := by
  rw [firstLine, Bytes.splitOn_line unbroken, List.map_cons, List.find?_cons]
  cases (dropReturn line).isEmpty <;> rfl

theorem firstLine_filled {line : Bytes} (unbroken : 10 ∉ line) (filled : dropReturn line ≠ [])
    (rest : Bytes) : firstLine (line ++ 10 :: rest) = some (dropReturn line) := by
  rw [firstLine_line unbroken, if_neg]
  rwa [List.isEmpty_iff]

theorem firstLine_emptyLines (count : Nat) (octets : Bytes) :
    firstLine (emptyLines count ++ octets) = firstLine octets := by
  induction count with
  | zero => rfl
  | succ count ih =>
      have empty : emptyLines (count + 1) ++ octets = [13] ++ 10 :: (emptyLines count ++ octets) :=
        rfl
      rw [empty, firstLine_line (by decide)]
      exact ih

/-- The line that is parsed first in a head is the first line of the stream, unless that ends in a
carriage return of its own. -/
theorem firstLine_of_splitOn {head line : Bytes} {lines : List Bytes} (filled : line ≠ [])
    (divides : (head.splitOn 10).map dropReturn = line :: lines) (rest : Bytes) :
    ∃ first, firstLine (head ++ Bytes.blankLine ++ rest) = some first ∧
      (first.getLast? ≠ some 13 → line = first) := by
  by_cases more : 10 ∈ head
  · obtain ⟨part, others, rfl, unbroken⟩ := List.eq_append_cons_of_mem more
    rw [Bytes.splitOn_line unbroken, List.map_cons] at divides
    obtain ⟨rfl, -⟩ := List.cons.inj divides
    refine ⟨dropReturn part, ?_, fun _ => rfl⟩
    rw [List.append_assoc, List.append_assoc, List.cons_append]
    exact firstLine_filled unbroken filled _
  · -- The only line of the head loses one carriage return more than it does in the stream.
    rw [List.splitOn_eq_singleton more, List.map_singleton] at divides
    obtain ⟨rfl, -⟩ := List.cons.inj divides
    have nonempty : head ≠ [] := by
      rintro rfl
      exact filled rfl
    have unbroken : 10 ∉ head ++ [13] := by
      simpa using more
    have ended : head ++ Bytes.blankLine ++ rest = head ++ [13] ++ 10 :: (13 :: 10 :: rest) := by
      simp [Bytes.blankLine]
    have first := firstLine_filled unbroken (by rwa [dropReturn_return]) (13 :: 10 :: rest)
    rw [dropReturn_return, ← ended] at first
    refine ⟨head, first, ?_⟩
    intro last
    rw [dropReturn, if_neg last]

theorem head_of_decode {limits : Limits} {buffer rest : Bytes} {request : Request}
    {framing : Framing} (h : decode limits buffer = (.complete request framing, rest))
    (asks : AsksForHead buffer) : request.method = .head := by
  obtain ⟨uri, version, target, starts⟩ := asks
  have token : Text.isToken (Bytes.ofText "HEAD") = true := by decide
  have wellFormed : Parts.WellFormed ⟨"HEAD", uri, version, []⟩ := ⟨token, target, nofun, nofun⟩
  obtain ⟨empties, head, rfl, -, -, parsed⟩ := consumed_of_decode h
  obtain ⟨line, lines, start, fields, divides, begins, -, rfl, -⟩ := lines_of_parse parsed
  have filled : line ≠ [] := by
    rintro rfl
    cases begins
  obtain ⟨first, found, same⟩ := firstLine_of_splitOn filled divides rest
  rw [List.append_assoc, firstLine_emptyLines, found] at starts
  cases starts
  rw [same (stands_requestText wellFormed).last, requestLine_requestText wellFormed] at begins
  cases begins
  rfl

theorem decode_of_feed {limits : Limits} {rest : Bytes} {segments unfed : List Bytes}
    {request : Request} {framing : Framing}
    (h : feed limits [] segments = ⟨.complete request framing, rest, unfed⟩) :
    ∃ unread, decode limits segments.flatten = (.complete request framing, unread) := by
  obtain ⟨taken, whole, rfl, decoded, same, _⟩ := feed_complete h
  obtain ⟨size, -, fits, -⟩ := parsed_of_decode decoded
  have settled := decode_settled (by omega) decoded nofun unfed.flatten
  rw [← same, List.nil_append, ← List.flatten_append] at settled
  exact ⟨_, settled⟩

end Head

namespace Response

/-- Nothing follows the first empty line. -/
def HeadAlone (octets : Bytes) : Prop :=
  ∀ size, Bytes.FirstAt Bytes.blankLine octets size → octets.length = size + 4

theorem HeadAlone.of_prefix {octets part : Bytes} (alone : HeadAlone octets)
    (starts : part <+: octets) : HeadAlone part := by
  obtain ⟨more, rfl⟩ := starts
  intro size found
  have fits : size + 4 ≤ part.length := found.fits (by decide)
  have whole := alone size ((Bytes.firstAt_append fits).mpr found)
  rw [List.length_append] at whole
  omega

theorem headAlone_nil : HeadAlone [] := by
  intro size found
  exact absurd (found.fits (by decide)) (by simp [Bytes.blankLine])

theorem headAlone_iff {octets : Bytes} {reading : Reading} (reads : read octets = some reading) :
    HeadAlone octets ↔ reading.body = [] := by
  obtain ⟨size, position, reads⟩ := Option.bind_eq_some_iff.mp reads
  have found := (Bytes.position?_eq_some_iff (by decide)).mp position
  have fits : size + 4 ≤ octets.length := found.fits (by decide)
  have behind : reading.body = octets.drop (size + 4) := by
    split at reads
    · cases reads
    · obtain ⟨status, -, reads⟩ := Option.bind_eq_some_iff.mp reads
      obtain ⟨fields, -, reads⟩ := Option.bind_eq_some_iff.mp reads
      cases reads
      rfl
  rw [behind, List.drop_eq_nil_iff]
  constructor
  · intro alone
    exact Nat.le_of_eq (alone size found)
  · intro short other later
    rw [later.unique found]
    omega

end Response

variable {σ : Type} {dispatcher : Dispatcher σ} {connection : Connection} {state after : σ}
  {calls : List Call} {final : Connection.Reply}

/-- A head that is refused is answered as if its method were another one. -/
theorem read_refused {reason : ParseError} (dated : Response.Unbroken connection.date)
    (rejected : (Head.feed dispatcher.limits [] connection.segments).reading = .rejected reason)
    (finalizes : Finalizes dispatcher ⟨"", false, .error reason.status⟩ state calls final after)
    (takes : connection.outbound.TakesAll) (guard : Guard) :
    Response.read (connection.serve guard dispatcher state).written =
      some ⟨final.response.statusText, final.response.writtenFields connection.date,
        final.response.writtenBody false⟩ := by
  have whole : final.headOnly = false := by
    cases finalizes <;> rfl
  rw [Connection.written_serve_of_course (.replied (.rejected rejected) finalizes) guard,
    takes.written, Response.read_encode _ dated, whole]

theorem read_unfiltered {reason : ParseError} (dated : Response.Unbroken connection.date)
    (rejected : (Head.feed dispatcher.limits [] connection.segments).reading = .rejected reason)
    (unset : dispatcher.responseFilter = none) (takes : connection.outbound.TakesAll)
    (guard : Guard) (state : σ) :
    let response := dispatcher.stamp (.error reason.status)
    Response.read (connection.serve guard dispatcher state).written =
      some ⟨response.statusText, response.writtenFields connection.date,
        response.writtenBody false⟩ :=
  read_refused dated rejected (.unset unset) takes guard

theorem writtenBody_refusal (dispatcher : Dispatcher σ) (reason : ParseError) :
    Response.writtenBody false (dispatcher.stamp (.error reason.status)) =
        Bytes.ofText (Status.reason reason.status) ∧
      Bytes.ofText (Status.reason reason.status) ≠ [] := by
  constructor
  · cases reason <;> rfl
  · cases reason <;> decide

/-- What goes out in answer to a stream that asks for a head only. -/
structure AnswersHead (guard : Guard) (dispatcher : Dispatcher σ) (connection : Connection)
    (state : σ) : Prop where
  /-- Unless the head is refused, nothing follows the empty line. -/
  alone : (∀ reason, (Head.feed dispatcher.limits [] connection.segments).reading ≠ .rejected reason) →
    Response.HeadAlone (connection.serve guard dispatcher state).written
  /-- If it is refused, the answer has the body that the response filter leaves to it. -/
  refused : ∀ {reason calls final after},
    (Head.feed dispatcher.limits [] connection.segments).reading = .rejected reason →
    Finalizes dispatcher ⟨"", false, .error reason.status⟩ state calls final after →
    connection.outbound.TakesAll → ∃ reading,
      Response.read (connection.serve guard dispatcher state).written = some reading ∧
      reading.body = final.response.writtenBody false ∧
      (Response.HeadAlone (connection.serve guard dispatcher state).written ↔ reading.body = [])
  /-- Without a response filter that is the wording of the refusal. -/
  unfiltered : ∀ {reason},
    (Head.feed dispatcher.limits [] connection.segments).reading = .rejected reason →
    dispatcher.responseFilter = none → connection.outbound.TakesAll → ∃ reading,
      Response.read (connection.serve guard dispatcher state).written = some reading ∧
      reading.body = Bytes.ofText (Status.reason reason.status) ∧ reading.body ≠ []

theorem Finalizes.headOnly {reply : Connection.Reply}
    (h : Finalizes dispatcher reply state calls final after) : final.headOnly = reply.headOnly := by
  cases h <;> rfl

theorem headOnly_of_converses {reply : Connection.Reply}
    (asks : Head.AsksForHead connection.segments.flatten)
    (accepted : ∀ reason,
      (Head.feed dispatcher.limits [] connection.segments).reading ≠ .rejected reason)
    (h : Converses dispatcher connection state calls (some (some reply)) after) :
    reply.headOnly = true := by
  cases h with
  | rejected rejected => exact absurd rejected (accepted _)
  | replied arrives decides =>
      obtain ⟨head, read, same⟩ := arrives.read
      obtain ⟨unread, decoded⟩ := Head.decode_of_feed read
      have method := Head.head_of_decode decoded asks
      rw [Incoming.reply, same, method]
      rfl

/-- In answer to a request for a head, nothing follows the empty line just if the head is not
refused, or if the response filter takes the refusal's body away. -/
theorem answersHead_serve (guard : Guard) (asks : Head.AsksForHead connection.segments.flatten)
    (dated : Response.Unbroken connection.date) (state : σ) :
    AnswersHead guard dispatcher connection state where
  alone accepted := by
    obtain ⟨calls, outcome, after, course⟩ := exists_course dispatcher connection state
    cases course with
    | broke converses =>
        rw [Connection.unwritten_serve_of_course (.broke converses) nofun]
        exact Response.headAlone_nil
    | silent converses =>
        rw [Connection.unwritten_serve_of_course (.silent converses) nofun]
        exact Response.headAlone_nil
    | @replied _ _ _ _ final _ converses finalizes =>
        have headOnly := headOnly_of_converses asks accepted converses
        have read := final.response.read_encode dated final.headOnly
        have alone := (Response.headAlone_iff read).mpr (by
          rw [finalizes.headOnly, headOnly]
          rfl)
        rw [Connection.written_serve_of_course (.replied converses finalizes) guard]
        exact alone.of_prefix (Outbound.written_prefix _ _)
  refused rejected finalizes takes := by
    have read := read_refused dated rejected finalizes takes guard
    exact ⟨_, read, rfl, Response.headAlone_iff read⟩
  unfiltered := by
    intro reason rejected unset takes
    have read := read_unfiltered dated rejected unset takes guard state
    obtain ⟨body, filled⟩ := writtenBody_refusal dispatcher reason
    exact ⟨_, read, body, by rwa [body]⟩

theorem Head.isTarget_slash : Head.IsTarget "/" := ⟨by decide, by decide +kernel⟩

def greeter : Dispatcher Unit :=
  { name := "greeter", routes := { baseUri := "", routes := [⟨"/", .simple greet⟩] } }

/-- A client that asks for a head with these octets after its request line, in two segments. -/
def headProbe (rest : String) : Connection where
  segments := [Bytes.ofText "\r\nHEAD / HT", Bytes.ofText ("TP/1.1\r\n" ++ rest)]
  date := HttpDate.ofSeconds 0

theorem answersHead_malformedBody :
    let connection := headProbe "Transfer-Encoding: chunked\r\n\r\nzz\r\n"
    Head.AsksForHead connection.segments.flatten ∧ Response.Unbroken connection.date ∧
      (∀ reason, (Head.feed greeter.limits [] connection.segments).reading ≠ .rejected reason) ∧
      Response.HeadAlone (connection.serve ⟨false⟩ greeter ()).written := by
  intro connection
  have asks : Head.AsksForHead connection.segments.flatten :=
    ⟨"/", .http11, Head.isTarget_slash, by decide⟩
  have read : (Head.feed greeter.limits [] connection.segments).reading = .complete
      { method := .head, uri := "/", headers := ⟨[⟨"Transfer-Encoding", "chunked"⟩]⟩ }
      .chunked := by decide
  have accepted : ∀ reason,
      (Head.feed greeter.limits [] connection.segments).reading ≠ .rejected reason := by
    intro reason
    rw [read]
    exact nofun
  have dated : Response.Unbroken connection.date := Response.unbroken_date 0
  exact ⟨asks, dated, accepted, (answersHead_serve ⟨false⟩ asks dated ()).alone accepted⟩

theorem malformedHead_answered_with_body :
    let connection := headProbe "broken\r\n\r\n"
    Head.AsksForHead connection.segments.flatten ∧ connection.outbound.TakesAll ∧
      Response.read (connection.serve ⟨false⟩ greeter ()).written = some
        { statusLine := "HTTP/1.1 400 Bad Request"
          fields := [⟨"Content-Type", "text/plain"⟩, ⟨"Server", "greeter"⟩,
            ⟨"Content-Length", "11"⟩, ⟨"Date", HttpDate.ofSeconds 0⟩, ⟨"Connection", "close"⟩]
          body := Bytes.ofText "Bad Request" } ∧
      ¬ Response.HeadAlone (connection.serve ⟨false⟩ greeter ()).written := by
  intro connection
  have takes : connection.outbound.TakesAll := ⟨rfl, nofun⟩
  have rejected : (Head.feed greeter.limits [] connection.segments).reading =
      .rejected .invalidFormat := by decide
  have dated : Response.Unbroken connection.date := Response.unbroken_date 0
  have read := read_unfiltered dated rejected rfl takes ⟨false⟩ ()
  have asks : Head.AsksForHead connection.segments.flatten :=
    ⟨"/", .http11, Head.isTarget_slash, by decide⟩
  rw [Response.headAlone_iff read, read]
  exact ⟨asks, takes, by decide +kernel, by decide⟩

end HttpServer
