import HttpServer.Request
import HttpServer.Work

/-! The kinds of callback that a server runs for its requests. All of them work on
a state `σ` of the program that embeds the server. -/
namespace HttpServer

/-- Answers a request with its whole body. Calling it builds the work that yields
the response; code of the handler runs in both phases. -/
abbrev AsyncHandler (σ : Type) := Request → Response → Work σ (Work σ Response)

/-- Fills in the response that it is given. -/
abbrev BlockingHandler (σ : Type) := Request → Work (σ × Response) Unit

/-- Fills in the response to a request that no route answers. -/
abbrev NotFoundHandler (σ : Type) := Request → Work (σ × Response) Unit

/-- May answer a request in place of its handler. -/
abbrev RequestFilter (σ : Type) := Request → Work σ (Option Response)

/-- Amends a response before it is written; it is given the target. -/
abbrev ResponseFilter (σ : Type) := String → Work (σ × Response) Unit

/-- Receives a body piece by piece. `begin` sees the request without its body and
makes the state of the reception; `chunk` may refuse to go on, and its answer is then
sent instead; `finish` answers once the body is complete. -/
structure UploadHandler (σ : Type) : Type 1 where
  Reception : Type
  begin : Request → Work σ Reception
  chunk : Bytes → Work (σ × Reception) (Except Response Unit)
  finish : Response → Work (σ × Reception) Response

/-- What a route leads to. A forwarding handler takes requests of every method. -/
inductive Target (σ : Type) : Type 1 where
  | simple (handler : AsyncHandler σ)
  | upload (handler : UploadHandler σ)
  | forwarding (handler : AsyncHandler σ)

def Target.takesAnyMethod {σ : Type} : Target σ → Bool
  | .forwarding _ => true
  | _ => false

/-- A handler that fills in its response in place, as one that builds work: a panic
of it answers with an internal error. -/
def BlockingHandler.toAsync {σ : Type} (handler : BlockingHandler σ) : AsyncHandler σ :=
  fun request response => pure (Work.amend .blockingHandler request.uri (handler request) response)

/-- Turns a response into the answer to a request that nothing answers: by the
server's handler if the response carries one, or else by the bare answer 404. -/
def Response.answerNotFound {σ : Type} (handler : Option (NotFoundHandler σ))
    (request : Request) (response : Response) : Work σ Response :=
  match handler with
  | some handler =>
      if response.hasNotFoundHandler then
        Work.amend .notFoundHandler request.uri (handler request) response
      else pure response.becomeNotFound
  | none => pure response.becomeNotFound

end HttpServer
