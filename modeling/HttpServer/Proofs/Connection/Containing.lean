import HttpServer.Proofs.Connection.Reporting

/-! Callbacks that panic. Whatever such a callback has done to its response is gone: an internal
error takes its place, the panic is reported once, against the target of the request, and the
connection still sends one whole response. -/
namespace HttpServer

open Serving

variable {σ : Type} {dispatcher : Dispatcher σ} {connection : Connection} {incoming : Incoming}
  {routed : Option (String × AsyncHandler σ)} {request : Request} {state after : σ}
  {callback : Callback} {notices : List Notice}

/-- A request that is answered with its whole body, which is there and within the limit. -/
structure Gathers (dispatcher : Dispatcher σ) (incoming : Incoming)
    (routed : Option (String × AsyncHandler σ)) : Prop where
  buffered : Buffered dispatcher incoming.request routed
  within : ¬ incoming.Exceeds dispatcher.limits.maxBodyBytes
  ended : incoming.fed.stop = .finished

/-- The handler of a request: that of its route, or the default handler where no route is
found. -/
inductive Assigned (dispatcher : Dispatcher σ) :
    Option (String × AsyncHandler σ) → AsyncHandler σ → Prop
  | routed {path handler} : Assigned dispatcher (some (path, handler)) handler
  | default {handler} (set : dispatcher.defaultHandler = some handler) :
      Assigned dispatcher none handler

/-- A callback panics while the answer to a request is found out, after these reports and in
this state. The callbacks before it have run as they should. -/
inductive Panics (dispatcher : Dispatcher σ) (incoming : Incoming) (state : σ) :
    Callback → List Notice → σ → Prop
  | requestFilter {routed filter after notices} (gathers : Gathers dispatcher incoming routed)
      (set : dispatcher.requestFilter = some filter)
      (ran : filter incoming.whole state = ⟨none, after, notices⟩) :
      Panics dispatcher incoming state .requestFilter notices after
  | handler {routed handler work mid begun after early notices more}
      (gathers : Gathers dispatcher incoming routed)
      (passes : Passes dispatcher incoming.whole state early mid)
      (assigned : Assigned dispatcher routed handler)
      (built : handler incoming.whole dispatcher.newResponse mid = ⟨some work, begun, notices⟩)
      (ran : work begun = ⟨none, after, more⟩) :
      Panics dispatcher incoming state .handler (early ++ (notices ++ more)) after
  | blockingHandler {handler : BlockingHandler σ} {routed mid left after early notices}
      (gathers : Gathers dispatcher incoming routed)
      (passes : Passes dispatcher incoming.whole state early mid)
      (assigned : Assigned dispatcher routed handler.toAsync)
      (ran : handler incoming.whole (mid, dispatcher.newResponse) =
        ⟨none, (after, left), notices⟩) :
      Panics dispatcher incoming state .blockingHandler (early ++ notices) after
  | notFoundHandler {handler mid left after early notices}
      (gathers : Gathers dispatcher incoming none)
      (passes : Passes dispatcher incoming.whole state early mid)
      (unset : dispatcher.defaultHandler = none)
      (set : dispatcher.notFoundHandler = some handler)
      (ran : handler incoming.whole (mid, dispatcher.newResponse) =
        ⟨none, (after, left), notices⟩) :
      Panics dispatcher incoming state .notFoundHandler (early ++ notices) after
  | uploadFilter {handler filter after notices}
      (uploaded : Uploaded dispatcher incoming.request handler)
      (set : dispatcher.requestFilter = some filter)
      (ran : filter incoming.request state = ⟨none, after, notices⟩) :
      Panics dispatcher incoming state .requestFilter notices after
  | uploadHandler {handler mid after early notices}
      (uploaded : Uploaded dispatcher incoming.request handler)
      (passes : Passes dispatcher incoming.request state early mid)
      (ran : handler.begin incoming.request mid = ⟨none, after, notices⟩) :
      Panics dispatcher incoming state .uploadHandler (early ++ notices) after
  | uploadSink {handler mid reception begun pieces piece late last further left after early
        notices more final}
      (uploaded : Uploaded dispatcher incoming.request handler)
      (passes : Passes dispatcher incoming.request state early mid)
      (begins : handler.begin incoming.request mid = ⟨some reception, begun, notices⟩)
      (arrived : incoming.fed.pieces = pieces ++ piece :: late)
      (taken : Takes handler reception begun pieces more last further)
      (ran : handler.chunk piece (further, last) = ⟨none, (after, left), final⟩) :
      Panics dispatcher incoming state .uploadSink (early ++ (notices ++ (more ++ final))) after
  | uploadEnd {handler mid reception begun last further left after early notices more final}
      (uploaded : Uploaded dispatcher incoming.request handler)
      (passes : Passes dispatcher incoming.request state early mid)
      (begins : handler.begin incoming.request mid = ⟨some reception, begun, notices⟩)
      (ended : incoming.fed.stop = .finished)
      (taken : Takes handler reception begun incoming.fed.pieces more last further)
      (ran : handler.finish dispatcher.newResponse (further, last) =
        ⟨none, (after, left), final⟩) :
      Panics dispatcher incoming state .uploadSink (early ++ (notices ++ (more ++ final))) after

theorem reports_filterRequest {filter : RequestFilter σ}
    (set : dispatcher.requestFilter = some filter)
    (ran : filter request state = ⟨none, after, notices⟩) :
    (dispatcher.filterRequest request).Reports state (some (some .internalError)) after
      (notices ++ [.panicked .requestFilter request.uri]) := by
  rw [Dispatcher.filterRequest, set]
  exact (reports_panicked _ _ _ ran).bind_pure rfl

theorem Gathers.reports {response : Response} (h : Gathers dispatcher incoming routed)
    (answers : (dispatcher.complete routed incoming.whole).Reports state (some response) after
      notices) :
    (dispatcher.decide incoming.request incoming.framing incoming.buffer
      incoming.segments).Reports state (some (.reply response)) after notices := by
  rw [h.buffered.decide, Incoming.collectThen_within h.within, h.ended]
  exact answers.bind_pure rfl

theorem Assigned.reports {handler : AsyncHandler σ} {mid : σ} {early : List Notice}
    {answer : Option Response} (h : Assigned dispatcher routed handler)
    (passes : Passes dispatcher request state early mid)
    (runs : ∀ call, (Dispatcher.runHandler call handler request dispatcher.newResponse).Reports mid
      answer after notices) :
    (dispatcher.complete routed request).Reports state answer after (early ++ notices) := by
  refine passes.reports.bind ?_
  cases h with
  | routed => exact runs _
  | default set =>
      show (dispatcher.fallback request).Reports _ _ _ _
      rw [Dispatcher.fallback, set]
      exact runs _

theorem reports_runHandler {handler : AsyncHandler σ} {response : Response} {mid : σ}
    {work : Work σ Response} {more : List Notice}
    (built : handler request response state = ⟨some work, mid, notices⟩)
    (ran : work mid = ⟨none, after, more⟩) (call : Call) :
    (Dispatcher.runHandler call handler request response).Reports state (some .internalError) after
      (notices ++ (more ++ [.panicked .handler request.uri])) :=
  (reports_perform built _).bind ((reports_panicked _ _ _ ran).bind_pure rfl)

/-- The panic of a handler that fills in its response in place does not end its work. -/
theorem reports_blocking {handler : BlockingHandler σ} {response left : Response}
    (ran : handler request (state, response) = ⟨none, (after, left), notices⟩) (call : Call) :
    (Dispatcher.runHandler call handler.toAsync request response).Reports state
      (some .internalError) after (notices ++ [.panicked .blockingHandler request.uri]) := by
  have built : handler.toAsync request response state =
      ⟨some (Work.amend .blockingHandler request.uri (handler request) response), state, []⟩ := rfl
  exact (reports_perform built _).bind
    ((reports_contained _ _ _ (Work.amend_panicked ran _ _)).bind_pure rfl)

theorem Response.answerNotFound_panicked {handler : NotFoundHandler σ} {response left : Response}
    (given : response.hasNotFoundHandler = true)
    (ran : handler request (state, response) = ⟨none, (after, left), notices⟩) :
    response.answerNotFound (some handler) request state =
      ⟨some .internalError, after, notices ++ [.panicked .notFoundHandler request.uri]⟩ := by
  rw [answerNotFound, if_pos given, Work.amend_panicked ran]

theorem reports_fallback {handler : NotFoundHandler σ} {left : Response}
    (unset : dispatcher.defaultHandler = none) (set : dispatcher.notFoundHandler = some handler)
    (ran : handler request (state, dispatcher.newResponse) = ⟨none, (after, left), notices⟩) :
    (dispatcher.fallback request).Reports state (some .internalError) after
      (notices ++ [.panicked .notFoundHandler request.uri]) := by
  have given : dispatcher.newResponse.hasNotFoundHandler = true := by
    rw [Dispatcher.newResponse, set]
    rfl
  rw [Dispatcher.fallback, unset, set]
  exact reports_perform (Response.answerNotFound_panicked given ran) _

theorem reports_upload {handler : UploadHandler σ} {reception : handler.Reception} {mid begun : σ}
    {early more : List Notice} {decision : Decision}
    (uploaded : Uploaded dispatcher incoming.request handler)
    (passes : Passes dispatcher incoming.request state early mid)
    (begins : handler.begin incoming.request mid = ⟨some reception, begun, notices⟩)
    (receives : (dispatcher.receiveFed handler incoming.request.uri reception incoming.fed).Reports
      begun (some decision) after more) :
    (dispatcher.decide incoming.request incoming.framing incoming.buffer
      incoming.segments).Reports state (some decision) after (early ++ (notices ++ more)) := by
  rw [uploaded.decide]
  refine passes.reports.bind ((reports_contained _ _ _ begins).bind ?_)
  show (dispatcher.receive _ _ _ _ _ _).Reports _ _ _ _
  rw [Dispatcher.receive_eq]
  exact receives

theorem reports_finishUpload {handler : UploadHandler σ} {last left : handler.Reception}
    (ran : handler.finish dispatcher.newResponse (state, last) = ⟨none, (after, left), notices⟩)
    (uri : String) : (dispatcher.finishUpload handler uri last).Reports state
      (some .internalError) after (notices ++ [.panicked .uploadSink uri]) :=
  (reports_panicked _ _ _ (Work.holding_eq ran)).bind_pure rfl

theorem Panics.reports (h : Panics dispatcher incoming state callback notices after) :
    (dispatcher.decide incoming.request incoming.framing incoming.buffer
      incoming.segments).Reports state (some (.reply .internalError)) after
        (notices ++ [.panicked callback incoming.request.uri]) := by
  cases h with
  | requestFilter gathers set ran =>
      exact gathers.reports ((reports_filterRequest set ran).bind_pure rfl)
  | handler gathers passes assigned built ran =>
      simp only [List.append_assoc]
      exact gathers.reports (assigned.reports passes (reports_runHandler built ran))
  | blockingHandler gathers passes assigned ran =>
      rw [List.append_assoc]
      exact gathers.reports (assigned.reports passes (reports_blocking ran))
  | notFoundHandler gathers passes unset set ran =>
      rw [List.append_assoc]
      exact gathers.reports (passes.reports.bind (reports_fallback unset set ran))
  | uploadFilter uploaded set ran =>
      rw [uploaded.decide]
      exact (reports_filterRequest set ran).bind_pure rfl
  | uploadHandler uploaded passes ran =>
      rw [uploaded.decide, List.append_assoc]
      exact passes.reports.bind ((reports_panicked _ _ _ ran).bind_pure rfl)
  | uploadSink uploaded passes begins arrived taken ran =>
      simp only [List.append_assoc]
      refine reports_upload uploaded passes begins ?_
      rw [Dispatcher.receiveFed, arrived]
      exact (taken.reports_panicked ran _ _).bind_pure rfl
  | uploadEnd uploaded passes begins ended taken ran =>
      simp only [List.append_assoc]
      refine reports_upload uploaded passes begins ((taken.reports _).bind ?_)
      rw [ended]
      exact (reports_finishUpload ran _).bind_pure rfl

/-- What a client reads when a callback has failed it. -/
def Dispatcher.failure (dispatcher : Dispatcher σ) (date : String) (headOnly : Bool) :
    Response.Reading where
  statusLine := "HTTP/1.1 500 Internal Server Error"
  fields := [⟨"Content-Type", "text/plain"⟩, ⟨"Server", dispatcher.name⟩,
    ⟨"Content-Length", "21"⟩, ⟨"Date", date⟩, ⟨"Connection", "close"⟩]
  body := if headOnly then [] else Bytes.ofText "Internal Server Error"

theorem Dispatcher.fields_stamp (dispatcher : Dispatcher σ) :
    (dispatcher.stamp .internalError).headers.fields =
      [⟨"Content-Type", "text/plain"⟩, ⟨"Server", dispatcher.name⟩] :=
  Headers.put_of_missing dispatcher.name (by decide)

theorem Dispatcher.writtenFields_stamp (named : Response.Unbroken dispatcher.name)
    (date : String) : (dispatcher.stamp .internalError).writtenFields date =
      [⟨"Content-Type", "text/plain"⟩, ⟨"Server", dispatcher.name⟩, ⟨"Content-Length", "21"⟩,
        ⟨"Date", date⟩, ⟨"Connection", "close"⟩] := by
  have plain : ∀ name ∈ (dispatcher.stamp .internalError).headers.fields.map (·.name),
      ∀ own ∈ ["connection", "content-length", "date"], Text.sameName name own = false := by
    rw [dispatcher.fields_stamp]
    exact show ∀ name ∈ ["Content-Type", "Server"], ∀ own ∈ _, _ by decide
  have own : [(⟨"Content-Type", "text/plain"⟩ : Field), ⟨"Server", dispatcher.name⟩].filter
      Response.isWritable = [⟨"Content-Type", "text/plain"⟩, ⟨"Server", dispatcher.name⟩] := by
    have server := @Response.filter_isWritable "Server" (by decide) dispatcher.name
    rw [if_pos named] at server
    rw [List.filter_cons_of_pos (by decide), server]
  have measured : toString (dispatcher.stamp .internalError).body.length = "21" := by
    show toString (Bytes.ofText (Status.reason 500)).length = "21"
    decide
  rw [Response.writtenFields_of_plain rfl plain, dispatcher.fields_stamp, own, measured]
  rfl

theorem Dispatcher.failure_eq (named : Response.Unbroken dispatcher.name) (date : String)
    (headOnly : Bool) : dispatcher.failure date headOnly =
      ⟨(dispatcher.stamp .internalError).statusText,
        (dispatcher.stamp .internalError).writtenFields date,
        (dispatcher.stamp .internalError).writtenBody headOnly⟩ := by
  have line : (dispatcher.stamp .internalError).statusText =
      "HTTP/1.1 500 Internal Server Error" := by
    show "HTTP/1.1 " ++ toString 500 ++ " " ++ Status.reason 500 = _
    decide
  have bodied : Status.isBodiless (dispatcher.stamp .internalError).status = false := rfl
  rw [line, Dispatcher.writtenFields_stamp named, Response.writtenBody, bodied, Bool.or_false]
  rfl

/-- What becomes of callbacks that panic over a request: which response is then in hand, also
within a handler that asks for the not-found answer, what goes out and is reported if one of them
panics and the response filter runs after it, or if the response filter panics over any response,
what a client reads if nothing has been amended since, and how a report tells of a panic. -/
structure Contains (guard : Guard) (dispatcher : Dispatcher σ) (connection : Connection)
    (incoming : Incoming) (state : σ) : Prop where
  decided : ∀ callback notices after, Panics dispatcher incoming state callback notices after →
    (dispatcher.decide incoming.request incoming.framing incoming.buffer
      incoming.segments).Reports state (some (.reply .internalError)) after
        (notices ++ [.panicked callback incoming.request.uri])
  nested : ∀ handler request response state left after notices,
    dispatcher.notFoundHandler = some handler → response.hasNotFoundHandler = true →
    handler request (state, response) = ⟨none, (after, left), notices⟩ →
      response.answerNotFound dispatcher.notFoundHandler request state =
        ⟨some .internalError, after, notices ++ [.panicked .notFoundHandler request.uri]⟩
  answered : ∀ callback notices mid, Panics dispatcher incoming state callback notices mid →
    (∃ final after more,
      Amends dispatcher incoming.request.uri .internalError mid final after more) ∧
    ∀ final after more,
      Amends dispatcher incoming.request.uri .internalError mid final after more →
        Sends guard dispatcher connection (incoming.request.method = .head) state final after
          (notices ++ .panicked callback incoming.request.uri :: more)
  filtered : ∀ response mid notices,
    (dispatcher.decide incoming.request incoming.framing incoming.buffer
      incoming.segments).Reports state (some (.reply response)) mid notices →
    ∀ filter left after more, dispatcher.responseFilter = some filter →
      filter incoming.request.uri (mid, dispatcher.stamp response) =
        ⟨none, (after, left), more⟩ →
        Sends guard dispatcher connection (incoming.request.method = .head) state
          (dispatcher.stamp .internalError) after
          (notices ++ (more ++ [.panicked .responseFilter incoming.request.uri]))
  received : ∀ after notices, connection.outbound.TakesAll →
    Sends guard dispatcher connection (incoming.request.method = .head) state
      (dispatcher.stamp .internalError) after notices →
    Response.read (connection.serve guard dispatcher state).written =
      some (dispatcher.failure connection.date (incoming.request.method = .head))
  told : ∀ callback uri, (Notice.panicked callback uri).level = .error ∧
    (Notice.panicked callback uri).message = callback.name ++ " panicked" ∧
    (Notice.panicked callback uri).details = [("uri", uri)]

/-- A panic costs no more than the answer of the callback: an internal error takes its place,
which is amended and sent as any other response, and one report tells of it. -/
theorem contains_serve (guard : Guard) (arrives : Arrives dispatcher.limits connection incoming)
    (named : Response.Unbroken dispatcher.name) (dated : Response.Unbroken connection.date)
    (state : σ) :
    Contains guard dispatcher connection incoming state where
  decided callback notices after panics := panics.reports
  nested handler request response state left after notices set given ran := by
    rw [set]
    exact Response.answerNotFound_panicked given ran
  answered callback notices mid panics := by
    refine ⟨exists_amends _ _ _ _, ?_⟩
    intro final after more amends
    have exchanged := amends.exchange arrives panics.reports
    rw [List.append_assoc] at exchanged
    exact sends_of_exchange dated exchanged guard
  filtered response mid notices decides filter left after more set ran := by
    have amends := Amends.panicked set ran
    exact sends_of_exchange dated (amends.exchange arrives decides) guard
  received after notices takes sends := by
    rw [sends.read takes, Dispatcher.failure_eq named]
  told callback uri := ⟨rfl, rfl, rfl⟩

def collapsing : BlockingHandler Unit := fun _ => do
  Work.edit fun response => { response with status := 201 }
  Work.panic

def fragile : Dispatcher Unit :=
  { name := "fragile", routes := { baseUri := "", routes := [⟨"/", .simple collapsing.toAsync⟩] } }

theorem panics_probe (method : Method) (supported : method.isSupported = true) :
    Panics fragile (probe method) () .blockingHandler [] () := by
  have ended := ((probe method).fed_bodiless rfl).2
  have within := (probe method).not_exceeds_bodiless rfl fragile.limits.maxBodyBytes
  have found : fragile.routes.find? "/" = some ⟨"/", .simple collapsing.toAsync⟩ := rfl
  have gathers : Gathers fragile (probe method) (some ("/", collapsing.toAsync)) :=
    ⟨.simple found supported, within, ended⟩
  exact .blockingHandler gathers (.unset rfl) .routed rfl

theorem contains_probing : Arrives fragile.limits (probing .get) (probe .get) ∧
    Response.Unbroken fragile.name ∧ Response.Unbroken (probing .get).date ∧
    Panics fragile (probe .get) () .blockingHandler [] () ∧
    Contains ⟨false⟩ fragile (probing .get) (probe .get) () := by
  have arrives : Arrives fragile.limits (probing .get) (probe .get) := arrives_probing (.inl rfl)
  have named : Response.Unbroken fragile.name := by decide
  have dated : Response.Unbroken (probing .get).date := Response.unbroken_date 0
  exact ⟨arrives, named, dated, panics_probe .get rfl, contains_serve _ arrives named dated ()⟩

/-- In answer to HEAD, the head of an internal error goes out without its body. -/
theorem bodiless_probing : (probing .head).outbound.TakesAll ∧
    Arrives fragile.limits (probing .head) (probe .head) ∧
    Panics fragile (probe .head) () .blockingHandler [] () ∧ fragile.responseFilter = none ∧
    ∃ reading, Response.read ((probing .head).serve ⟨false⟩ fragile ()).written = some reading ∧
      reading.body ≠ Bytes.ofText "Internal Server Error" := by
  have takes : (probing .head).outbound.TakesAll := ⟨rfl, nofun⟩
  have arrives : Arrives fragile.limits (probing .head) (probe .head) := arrives_probing (.inr rfl)
  have panics := panics_probe .head rfl
  have amends : Amends fragile "/" .internalError () (fragile.stamp .internalError) () [] :=
    .unset rfl
  have sends := sends_of_exchange (Response.unbroken_date 0)
    (amends.exchange arrives panics.reports) ⟨false⟩
  have bodiless : Response.writtenBody true (fragile.stamp .internalError) ≠
      Bytes.ofText "Internal Server Error" := by decide
  exact ⟨takes, arrives, panics, rfl, _, sends.read takes, bodiless⟩

end HttpServer
