import HttpServer.Connection
import HttpServer.HttpDate
import HttpServer.Proofs.Connection.Collecting
import HttpServer.Proofs.Head.Canonical
import HttpServer.Proofs.Head.Feeding

/-! A request as it arrives on a connection: its head, whose request has no body yet, the
octets behind the head, and the kind of route that it takes. -/
namespace HttpServer

theorem Head.bodiless_of_decode {limits : Limits} {buffer rest : Bytes} {request : Request}
    {framing : Framing} (h : decode limits buffer = (.complete request framing, rest)) :
    request.body = [] := by
  obtain ⟨_, _, _, _, _, parsed⟩ := consumed_of_decode h
  obtain ⟨parts, _, _, rfl, _⟩ := parts_of_parse parsed
  rfl

def Incoming.reply (incoming : Incoming) (response : Response) : Connection.Reply :=
  ⟨incoming.request.uri, incoming.request.method = .head, response⟩

variable {σ : Type}

/-- A request arrives on a connection: fed with its segments, the decoder completes the head, which
has no body yet. -/
structure Arrives (limits : Limits) (connection : Connection) (incoming : Incoming) : Prop where
  read : ∃ head, Head.feed limits [] connection.segments =
      ⟨.complete head incoming.framing, incoming.buffer, incoming.segments⟩ ∧
    incoming.request = { head with peer := connection.peer.map (·.text) }
  bodiless : incoming.request.body = []

theorem arrives_of_feed {limits : Limits} {connection : Connection} {head : Request}
    {framing : Framing} {buffer : Bytes} {segments : List Bytes}
    (read : Head.feed limits [] connection.segments =
      ⟨.complete head framing, buffer, segments⟩) :
    Arrives limits connection
      ⟨{ head with peer := connection.peer.map (·.text) }, framing, buffer, segments⟩ := by
  obtain ⟨_, _, _, decoded, _⟩ := Head.feed_complete read
  have bodiless : head.body = [] := Head.bodiless_of_decode decoded
  exact ⟨⟨head, read, rfl⟩, bodiless⟩

/-- What follows a head can be exchanged for anything else, and the same head arrives. -/
theorem Arrives.taken {limits : Limits} {connection : Connection} {incoming : Incoming}
    (h : Arrives limits connection incoming) :
    ∃ taken, connection.segments = taken ++ incoming.segments ∧ ∀ more failure,
      Arrives limits { connection with segments := taken ++ more, failure }
        { incoming with segments := more } := by
  obtain ⟨⟨head, read, same⟩, bodiless⟩ := h
  obtain ⟨taken, _, split, _, _, again⟩ := Head.feed_complete read
  exact ⟨taken, split, fun more _ => ⟨⟨head, again more, same⟩, bodiless⟩⟩

/-- A client that asks for something with this method. -/
def probing (method : Method) : Connection where
  segments := [Bytes.ofText (method.name ++ " / HTTP/1.1\r\n\r\n")]
  date := HttpDate.ofSeconds 0

/-- Its request, after which nothing follows. -/
def probe (method : Method) : Incoming :=
  ⟨{ method, uri := "/" }, .empty, [], []⟩

theorem arrives_probing {method : Method} (bare : method = .get ∨ method = .head) :
    Arrives {} (probing method) (probe method) := by
  rcases bare with rfl | rfl
  · exact ⟨⟨(probe .get).request, by decide, rfl⟩, rfl⟩
  · exact ⟨⟨(probe .head).request, by decide, rfl⟩, rfl⟩

/-- Requests to these targets are answered with their whole body: the handler of a route
that takes the method, or no handler where no route is found. -/
inductive Buffered (dispatcher : Dispatcher σ) (request : Request) :
    Option (String × AsyncHandler σ) → Prop
  | simple {path handler}
      (found : dispatcher.routes.find? request.uri = some ⟨path, .simple handler⟩)
      (supported : request.method.isSupported = true) :
      Buffered dispatcher request (some (path, handler))
  | forwarding {path handler}
      (found : dispatcher.routes.find? request.uri = some ⟨path, .forwarding handler⟩) :
      Buffered dispatcher request (some (path, handler))
  | unrouted (missing : dispatcher.routes.find? request.uri = none) :
      Buffered dispatcher request none

/-- Requests to these targets are handed on while they arrive. -/
structure Uploaded (dispatcher : Dispatcher σ) (request : Request) (handler : UploadHandler σ) :
    Prop where
  found : ∃ path, dispatcher.routes.find? request.uri = some ⟨path, .upload handler⟩
  supported : request.method.isSupported = true

/-- Requests whose method the route does not take. -/
structure Disallowed (dispatcher : Dispatcher σ) (request : Request) : Prop where
  found : ∃ route, dispatcher.routes.find? request.uri = some route ∧
    route.target.takesAnyMethod = false
  unsupported : request.method.isSupported = false

section Routing

variable {dispatcher : Dispatcher σ} {request : Request} (framing : Framing) (buffer : Bytes)
  (segments : List Bytes)

theorem Buffered.decide {routed : Option (String × AsyncHandler σ)}
    (h : Buffered dispatcher request routed) :
    dispatcher.decide request framing buffer segments =
      dispatcher.collectThen routed request framing buffer segments := by
  cases h with
  | simple found supported =>
      simp only [Dispatcher.decide, Dispatcher.destination, found, supported, Bool.or_true, if_true]
  | forwarding found =>
      simp only [Dispatcher.decide, Dispatcher.destination, found, Target.takesAnyMethod,
        Bool.true_or, if_true]
  | unrouted missing => simp only [Dispatcher.decide, Dispatcher.destination, missing]

theorem Uploaded.decide {handler : UploadHandler σ} (h : Uploaded dispatcher request handler) :
    dispatcher.decide request framing buffer segments =
      dispatcher.upload handler request framing buffer segments := by
  obtain ⟨path, found⟩ := h.found
  simp only [Dispatcher.decide, Dispatcher.destination, found, h.supported, Bool.or_true, if_true]

theorem Disallowed.decide (h : Disallowed dispatcher request) :
    dispatcher.decide request framing buffer segments = pure (.reply .methodNotAllowed) := by
  obtain ⟨route, found, ordinary⟩ := h.found
  simp only [Dispatcher.decide, Dispatcher.destination, found, ordinary, h.unsupported]
  rfl

end Routing

theorem routing_cases (dispatcher : Dispatcher σ) (request : Request) :
    (∃ routed, Buffered dispatcher request routed) ∨
      (∃ handler, Uploaded dispatcher request handler) ∨ Disallowed dispatcher request := by
  cases found : dispatcher.routes.find? request.uri with
  | none => exact .inl ⟨none, .unrouted found⟩
  | some route =>
      rcases route with ⟨path, target⟩
      cases supported : request.method.isSupported with
      | true =>
          cases target with
          | simple handler => exact .inl ⟨_, .simple found supported⟩
          | forwarding handler => exact .inl ⟨_, .forwarding found⟩
          | upload handler => exact .inr (.inl ⟨handler, ⟨path, found⟩, supported⟩)
      | false =>
          cases target with
          | simple handler => exact .inr (.inr ⟨⟨_, found, rfl⟩, supported⟩)
          | forwarding handler => exact .inl ⟨_, .forwarding found⟩
          | upload handler => exact .inr (.inr ⟨⟨_, found, rfl⟩, supported⟩)

end HttpServer
