import HttpServer.Connection.Inbound
import HttpServer.Handlers
import HttpServer.Routes

/-! Finding out the answer to a request: which handler it goes to, how its body is
delivered, and which callbacks run in which order. -/
namespace HttpServer

inductive Call where
  | requestFilter (request : Request)
  | routeHandler (path : String) (request : Request) (response : Response)
  | defaultHandler (request : Request) (response : Response)
  | notFoundHandler (request : Request) (response : Response)
  | uploadBegin (request : Request)
  | uploadChunk (piece : Bytes)
  | uploadFinish (response : Response)
  | responseFilter (uri : String) (response : Response)
  deriving DecidableEq, Repr

/-- What a part of serving a connection leaves behind. There is no value if a callback
panicked where nothing contains it, which ends the connection. -/
structure Progress (σ α : Type) where
  value : Option α
  state : σ
  calls : List Call
  notices : List Notice

def Serving (σ α : Type) : Type := σ → Progress σ α

namespace Serving

variable {σ α β : Type}

protected def pure (value : α) : Serving σ α := fun state => ⟨some value, state, [], []⟩

protected def bind (part : Serving σ α) (next : α → Serving σ β) : Serving σ β := fun state =>
  match part state with
  | ⟨none, state, calls, notices⟩ => ⟨none, state, calls, notices⟩
  | ⟨some value, state, calls, notices⟩ =>
      let progress := next value state
      { progress with
        calls := calls ++ progress.calls
        notices := notices ++ progress.notices }

instance : Monad (Serving σ) where
  pure := Serving.pure
  bind := Serving.bind

/-- Runs work that belongs to the calls listed. -/
def perform (calls : List Call) (work : Work σ α) : Serving σ α := fun state =>
  let ran := work state
  ⟨ran.value, ran.state, calls, ran.notices⟩

end Serving

/-- What a server uses to answer requests, fixed when it starts. -/
structure Dispatcher (σ : Type) : Type 1 where
  name : String
  routes : RouteTable (Target σ)
  defaultHandler : Option (AsyncHandler σ) := none
  notFoundHandler : Option (NotFoundHandler σ) := none
  requestFilter : Option (RequestFilter σ) := none
  responseFilter : Option (ResponseFilter σ) := none
  limits : Limits := {}

inductive Destination (σ : Type) : Type 1 where
  | handler (path : String) (handler : AsyncHandler σ)
  | upload (handler : UploadHandler σ)
  | fallback
  | refused

/-- The exchange as decided: the response to send, or nothing because the request did
not arrive. -/
inductive Decision where
  | reply (response : Response)
  | silence
  deriving DecidableEq, Repr

namespace Dispatcher

variable {σ : Type}

/-- Where a request goes. An ordinary route refuses methods that only forwarding
handlers take. -/
def destination (dispatcher : Dispatcher σ) (request : Request) : Destination σ :=
  match dispatcher.routes.find? request.uri with
  | none => .fallback
  | some route =>
      if route.target.takesAnyMethod || request.method.isSupported then
        match route.target with
        | .simple handler | .forwarding handler => .handler route.path handler
        | .upload handler => .upload handler
      else .refused

def newResponse (dispatcher : Dispatcher σ) : Response :=
  { hasNotFoundHandler := dispatcher.notFoundHandler.isSome }

/-- Asks the request filter; if it panics, it answers with an internal error. -/
def filterRequest (dispatcher : Dispatcher σ) (request : Request) :
    Serving σ (Option Response) :=
  match dispatcher.requestFilter with
  | none => pure none
  | some filter => do
      let answer ← Serving.perform [.requestFilter request]
        ((filter request).contain .requestFilter request.uri)
      return answer.getD (some .internalError)

/-- Runs a handler. A panic while it builds its work is contained by nothing. -/
def runHandler (call : Call) (handler : AsyncHandler σ) (request : Request)
    (response : Response) : Serving σ Response := do
  let work ← Serving.perform [call] (handler request response)
  let answer ← Serving.perform [] (work.contain .handler request.uri)
  return answer.getD .internalError

def fallback (dispatcher : Dispatcher σ) (request : Request) : Serving σ Response :=
  let response := dispatcher.newResponse
  match dispatcher.defaultHandler, dispatcher.notFoundHandler with
  | some handler, _ => runHandler (.defaultHandler request response) handler request response
  | none, some _ =>
      Serving.perform [.notFoundHandler request response]
        (response.answerNotFound dispatcher.notFoundHandler request)
  | none, none => pure response.becomeNotFound

def complete (dispatcher : Dispatcher σ) (routed : Option (String × AsyncHandler σ))
    (request : Request) : Serving σ Response := do
  match ← dispatcher.filterRequest request with
  | some response => return response
  | none =>
      match routed with
      | some (path, handler) =>
          let response := dispatcher.newResponse
          runHandler (.routeHandler path request response) handler request response
      | none => dispatcher.fallback request

/-- Hands pieces to an upload handler until it refuses or panics. -/
def handPieces (handler : UploadHandler σ) (uri : String) (reception : handler.Reception) :
    List Bytes → Serving σ (Except Response handler.Reception)
  | [] => pure (.ok reception)
  | piece :: rest => do
      match ← Serving.perform [.uploadChunk piece]
          (((handler.chunk piece).holding reception).contain .uploadSink uri) with
      | none => return .error .internalError
      | some (.error response, _) => return .error response
      | some (.ok (), reception) => handPieces handler uri reception rest

def finishUpload (dispatcher : Dispatcher σ) (handler : UploadHandler σ) (uri : String)
    (reception : handler.Reception) : Serving σ Response := do
  let response := dispatcher.newResponse
  let answer ← Serving.perform [.uploadFinish response]
    (((handler.finish response).holding reception).contain .uploadSink uri)
  return (answer.map (·.1)).getD .internalError

def receive (dispatcher : Dispatcher σ) (handler : UploadHandler σ) (uri : String)
    (reception : handler.Reception) (state : Body.State) (buffer : Bytes)
    (segments : List Bytes) : Serving σ Decision := do
  let drained := Body.drain state buffer
  match ← handPieces handler uri reception drained.pieces with
  | .error response => return .reply response
  | .ok reception =>
      match drained.stop with
      | .finished => return .reply (← dispatcher.finishUpload handler uri reception)
      | .failed reason => return .reply (.error reason.status)
      | .needMore =>
          match segments with
          | [] => return .silence
          | segment :: more =>
              dispatcher.receive handler uri reception drained.state (drained.rest ++ segment) more
termination_by structural segments

/-- Answers a request to an upload route. The filter is asked before any of the body
is looked at. -/
def upload (dispatcher : Dispatcher σ) (handler : UploadHandler σ) (request : Request)
    (framing : Framing) (buffer : Bytes) (segments : List Bytes) : Serving σ Decision := do
  match ← dispatcher.filterRequest request with
  | some response => return .reply response
  | none =>
      match ← Serving.perform [.uploadBegin request]
          ((handler.begin request).contain .uploadHandler request.uri) with
      | none => return .reply .internalError
      | some reception =>
          dispatcher.receive handler request.uri reception (.ofFraming framing) buffer segments

def collectThen (dispatcher : Dispatcher σ) (routed : Option (String × AsyncHandler σ))
    (request : Request) (framing : Framing) (buffer : Bytes) (segments : List Bytes) :
    Serving σ Decision :=
  match Inbound.collect dispatcher.limits.maxBodyBytes framing buffer segments with
  | .whole body => do return .reply (← dispatcher.complete routed { request with body })
  | .tooLarge => pure (.reply (.error ParseError.bodyTooLarge.status))
  | .malformed reason => pure (.reply (.error reason.status))
  | .cut => pure .silence

def decide (dispatcher : Dispatcher σ) (request : Request) (framing : Framing)
    (buffer : Bytes) (segments : List Bytes) : Serving σ Decision :=
  match dispatcher.destination request with
  | .refused => pure (.reply .methodNotAllowed)
  | .upload handler => dispatcher.upload handler request framing buffer segments
  | .handler path handler =>
      dispatcher.collectThen (some (path, handler)) request framing buffer segments
  | .fallback => dispatcher.collectThen none request framing buffer segments

def stamp (dispatcher : Dispatcher σ) (response : Response) : Response :=
  response.setHeader "Server" dispatcher.name

def finalize (dispatcher : Dispatcher σ) (uri : String) (response : Response) :
    Serving σ Response :=
  let response := dispatcher.stamp response
  match dispatcher.responseFilter with
  | none => pure response
  | some filter => do
      match ← Serving.perform [.responseFilter uri response]
          (((filter uri).holding response).contain .responseFilter uri) with
      | some ((), response) => return response
      | none => return dispatcher.stamp .internalError

end Dispatcher
end HttpServer
