import HttpServer.Proofs.Connection.Containing

/-! The two moments at which a handler can panic. While its work runs, a panic costs it no more than
its answer. While it is called, before there is any work, nothing contains a panic: the connection
ends without an answer and without a report. -/
namespace HttpServer

open Serving

variable {σ : Type} {dispatcher : Dispatcher σ} {connection : Connection} {incoming : Incoming}
  {request : Request} {response : Response} {handler : AsyncHandler σ} {state mid after : σ}
  {early notices more : List Notice} {work : Work σ Response}

/-- A request reaches a handler in this state and after these reports: it is there as a whole, the
filter has let it pass, and the handler is that of its route or the default handler. -/
structure Reaches (dispatcher : Dispatcher σ) (incoming : Incoming) (state : σ)
    (handler : AsyncHandler σ) (early : List Notice) (mid : σ) : Prop where
  assigned : ∃ routed, Gathers dispatcher incoming routed ∧ Assigned dispatcher routed handler
  passes : Passes dispatcher incoming.whole state early mid

theorem reports_answered
    (built : handler request response state = ⟨some work, mid, notices⟩) {answer : Response}
    (ran : work mid = ⟨some answer, after, more⟩) (call : Call) :
    (Dispatcher.runHandler call handler request response).Reports state (some answer) after
      (notices ++ more) :=
  (reports_perform built _).bind ((reports_contained _ _ _ ran).bind_pure rfl)

/-- Nothing contains a panic of a handler that has not built its work. -/
theorem reports_lost (built : handler request response state = ⟨none, after, notices⟩)
    (call : Call) :
    (Dispatcher.runHandler call handler request response).Reports state none after notices :=
  (reports_perform built _).bind_none _

theorem Reaches.exchange {final : Response} {last : σ} {later : List Notice}
    (reaches : Reaches dispatcher incoming state handler early mid)
    (arrives : Arrives dispatcher.limits connection incoming)
    (runs : ∀ call, (Dispatcher.runHandler call handler incoming.whole
      dispatcher.newResponse).Reports mid (some response) after notices)
    (amends : Amends dispatcher incoming.request.uri response after final last later) :
    (connection.exchange dispatcher).Reports state (some (some (incoming.reply final))) last
      (early ++ notices ++ later) := by
  obtain ⟨routed, gathers, assigned⟩ := reaches.assigned
  exact amends.exchange arrives (gathers.reports (assigned.reports reaches.passes runs))

theorem Reaches.sends {final : Response} {last : σ} {later : List Notice}
    (reaches : Reaches dispatcher incoming state handler early mid)
    (arrives : Arrives dispatcher.limits connection incoming)
    (dated : Response.Unbroken connection.date)
    (runs : ∀ call, (Dispatcher.runHandler call handler incoming.whole
      dispatcher.newResponse).Reports mid (some response) after notices)
    (amends : Amends dispatcher incoming.request.uri response after final last later)
    (guard : Guard) :
    Sends guard dispatcher connection (incoming.request.method = .head) state final last
      (early ++ notices ++ later) :=
  sends_of_exchange dated (reaches.exchange arrives runs amends) guard

theorem Reaches.value_ne_none (reaches : Reaches dispatcher incoming state handler early mid)
    (arrives : Arrives dispatcher.limits connection incoming)
    (runs : ∀ call, (Dispatcher.runHandler call handler incoming.whole
      dispatcher.newResponse).Reports mid (some response) after notices) :
    (connection.exchange dispatcher state).value ≠ none := by
  obtain ⟨final, last, later, amends⟩ :=
    exists_amends dispatcher incoming.request.uri response after
  obtain ⟨calls, ran⟩ := reaches.exchange arrives runs amends
  rw [ran]
  nofun

theorem Reaches.exchange_none (reaches : Reaches dispatcher incoming state handler early mid)
    (arrives : Arrives dispatcher.limits connection incoming)
    (runs : ∀ call, (Dispatcher.runHandler call handler incoming.whole
      dispatcher.newResponse).Reports mid none after notices) :
    (connection.exchange dispatcher).Reports state none after (early ++ notices) := by
  obtain ⟨routed, gathers, assigned⟩ := reaches.assigned
  have decided : (dispatcher.decide incoming.request incoming.framing incoming.buffer
      incoming.segments).Reports state none after (early ++ notices) := by
    rw [gathers.buffered.decide, Incoming.collectThen_within gathers.within, gathers.ended]
    exact (assigned.reports reaches.passes runs).bind_none _
  have conversed : (connection.converse dispatcher).Reports state none after
      (early ++ notices) := by
    rw [arrives.converse]
    exact decided.bind_none _
  exact conversed.bind_none _

theorem Connection.serve_of_none
    (ended : (connection.exchange dispatcher).Reports state none after notices) (guard : Guard) :
    let served := connection.serve guard dispatcher state
    served.written = [] ∧ served.closed = false ∧ served.state = after ∧
      served.notices = notices := by
  obtain ⟨calls, ran⟩ := ended
  rw [Connection.serve, ran]
  exact ⟨rfl, rfl, rfl, rfl⟩

/-- What becomes of a request that reaches a handler, by how the handler fares. -/
structure Isolates (guard : Guard) (dispatcher : Dispatcher σ) (connection : Connection)
    (incoming : Incoming) (state : σ) (handler : AsyncHandler σ) (early : List Notice) (mid : σ) :
    Prop where
  /-- What the handler answers is amended and sent. -/
  answered : ∀ work begun notices answer after more,
    handler incoming.whole dispatcher.newResponse mid = ⟨some work, begun, notices⟩ →
    work begun = ⟨some answer, after, more⟩ →
    ∀ final last later, Amends dispatcher incoming.request.uri answer after final last later →
      Sends guard dispatcher connection (incoming.request.method = .head) state final last
        (early ++ (notices ++ more) ++ later)
  /-- If its work panics, an internal error is amended and sent in its place, and one report tells
  of it. -/
  contained : ∀ work begun notices after more,
    handler incoming.whole dispatcher.newResponse mid = ⟨some work, begun, notices⟩ →
    work begun = ⟨none, after, more⟩ →
    ∀ final last later,
      Amends dispatcher incoming.request.uri .internalError after final last later →
        Sends guard dispatcher connection (incoming.request.method = .head) state final last
          (early ++ (notices ++ (more ++ [.panicked .handler incoming.request.uri])) ++ later)
  /-- The report is an error and says who has panicked. -/
  told : (Notice.panicked .handler incoming.request.uri).level = .error ∧
    (Notice.panicked .handler incoming.request.uri).message = "handler panicked"
  /-- Where no filter amends it, a client that takes all of it reads that internal error. -/
  received : ∀ work begun notices after more,
    handler incoming.whole dispatcher.newResponse mid = ⟨some work, begun, notices⟩ →
    work begun = ⟨none, after, more⟩ → dispatcher.responseFilter = none →
      connection.outbound.TakesAll →
        Response.read (connection.serve guard dispatcher state).written =
          some (dispatcher.failure connection.date (incoming.request.method = .head))
  /-- If it panics before it has built its work, nothing is sent, the connection is not closed in
  order, and nothing is reported but what the callbacks have reported of their own. -/
  lost : ∀ after notices,
    handler incoming.whole dispatcher.newResponse mid = ⟨none, after, notices⟩ →
      let served := connection.serve guard dispatcher state
      served.written = [] ∧ served.closed = false ∧ served.state = after ∧
        served.notices = early ++ notices
  /-- There is no other way for the exchange to end without a reply. -/
  ends_iff : (connection.exchange dispatcher state).value = none ↔
    (handler incoming.whole dispatcher.newResponse mid).value = none

/-- Handlers are isolated from the connection while their work runs, and only then. -/
theorem isolates_serve (guard : Guard) (arrives : Arrives dispatcher.limits connection incoming)
    (named : Response.Unbroken dispatcher.name) (dated : Response.Unbroken connection.date)
    (reaches : Reaches dispatcher incoming state handler early mid) :
    Isolates guard dispatcher connection incoming state handler early mid where
  answered work begun notices answer after more built ran final last later amends :=
    reaches.sends arrives dated (reports_answered built ran) amends guard
  contained work begun notices after more built ran final last later amends :=
    reaches.sends arrives dated (reports_runHandler built ran) amends guard
  told := ⟨rfl, rfl⟩
  received work begun notices after more built ran unset takes := by
    have sends := reaches.sends arrives dated (reports_runHandler built ran) (.unset unset) guard
    rw [sends.read takes, Dispatcher.failure_eq named]
  lost after notices built :=
    Connection.serve_of_none (reaches.exchange_none arrives (reports_lost built)) guard
  ends_iff := by
    rcases built : handler incoming.whole dispatcher.newResponse mid with
      ⟨_ | work, begun, notices⟩
    · obtain ⟨calls, ended⟩ := reaches.exchange_none arrives (reports_lost built)
      rw [ended]
      exact ⟨fun _ => rfl, fun _ => rfl⟩
    · rcases ran : work begun with ⟨_ | answer, after, more⟩
      · have replies := reaches.value_ne_none arrives (reports_runHandler built ran)
        exact ⟨fun ends => absurd ends replies, nofun⟩
      · have replies := reaches.value_ne_none arrives (reports_answered built ran)
        exact ⟨fun ends => absurd ends replies, nofun⟩

def single (handler : AsyncHandler Unit) : Dispatcher Unit :=
  { name := "single", routes := { baseUri := "", routes := [⟨"/", .simple handler⟩] } }

theorem reaches_single (handler : AsyncHandler Unit) :
    Arrives (single handler).limits (probing .get) (probe .get) ∧
      Reaches (single handler) (probe .get) () handler [] () := by
  have ended := ((probe .get).fed_bodiless rfl).2
  have within := (probe .get).not_exceeds_bodiless rfl (single handler).limits.maxBodyBytes
  have covers : "/".toList.isPrefixOf "/".toList = true := by decide
  have found : (single handler).routes.find? "/" = some ⟨"/", .simple handler⟩ :=
    List.find?_cons_of_pos covers
  have gathers : Gathers (single handler) (probe .get) (some ("/", handler)) :=
    ⟨.simple found rfl, within, ended⟩
  exact ⟨arrives_probing (.inl rfl), ⟨_, gathers, .routed⟩, .unset rfl⟩

theorem isolates_single :
    let handler : AsyncHandler Unit := fun _ _ => pure Work.panic
    Arrives (single handler).limits (probing .get) (probe .get) ∧
      Response.Unbroken (single handler).name ∧ Response.Unbroken (probing .get).date ∧
      Reaches (single handler) (probe .get) () handler [] () ∧
      Isolates ⟨false⟩ (single handler) (probing .get) (probe .get) () handler [] () := by
  intro handler
  obtain ⟨arrives, reaches⟩ := reaches_single handler
  have named : Response.Unbroken (single handler).name := by decide
  have dated : Response.Unbroken (probing .get).date := Response.unbroken_date 0
  exact ⟨arrives, named, dated, reaches, isolates_serve _ arrives named dated reaches⟩

/-- A handler that panics when it is called leaves its client without an answer and the log without
a word. -/
theorem serve_single_panic :
    let handler : AsyncHandler Unit := fun _ _ => Work.panic
    let served := (probing .get).serve ⟨false⟩ (single handler) ()
    Arrives (single handler).limits (probing .get) (probe .get) ∧
      Reaches (single handler) (probe .get) () handler [] () ∧
      served.written = [] ∧ served.notices = [] := by
  intro handler served
  obtain ⟨arrives, reaches⟩ := reaches_single handler
  obtain ⟨silent, -, -, untold⟩ :=
    Connection.serve_of_none (reaches.exchange_none arrives (reports_lost rfl)) ⟨false⟩
  exact ⟨arrives, reaches, silent, untold⟩

end HttpServer
