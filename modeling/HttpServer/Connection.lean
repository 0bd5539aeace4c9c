import HttpServer.Connection.Outbound
import HttpServer.Address
import HttpServer.Dispatcher
import HttpServer.Guard
import HttpServer.Response.Summary

/-! One connection: one request and one response, or silence if the request does not
arrive whole. -/
namespace HttpServer

/-- A connection as the client behaves: the segments it sends, how its sending ends
(`none`: it closes its side), how it takes the answer, and the date of that moment. -/
structure Connection where
  segments : List Bytes
  failure : Option IoError := none
  peer : Option Endpoint := none
  outbound : Outbound := {}
  date : String
  deriving Repr

/-- What became of a connection. `aborted` tells that the process ended over it. -/
structure Served (σ : Type) where
  written : Bytes
  closed : Bool
  state : σ
  calls : List Call
  notices : List Notice
  aborted : Bool

namespace Connection

variable {σ : Type}

/-- A response on its way out: the target it answers, and whether only its head is
wanted. -/
structure Reply where
  uri : String
  headOnly : Bool
  response : Response
  deriving DecidableEq, Repr

/-- Reads a request and decides about it. A head that cannot be read is answered with
the reason, and without a target. -/
def converse (dispatcher : Dispatcher σ) (connection : Connection) : Serving σ (Option Reply) :=
  match Inbound.readHead dispatcher.limits [] connection.segments with
  | .cut => pure none
  | .rejected reason => pure (some ⟨"", false, .error reason.status⟩)
  | .complete request framing buffer segments => do
      let request := { request with peer := connection.peer.map (·.text) }
      match ← dispatcher.decide request framing buffer segments with
      | .reply response => return some ⟨request.uri, request.method = .head, response⟩
      | .silence => return none

def finalize (dispatcher : Dispatcher σ) (reply : Reply) : Serving σ Reply := do
  return { reply with response := ← dispatcher.finalize reply.uri reply.response }

/-- The final reply, if there is to be one. -/
def exchange (dispatcher : Dispatcher σ) (connection : Connection) : Serving σ (Option Reply) := do
  match ← connection.converse dispatcher with
  | none => return none
  | some reply => return some (← finalize dispatcher reply)

def cutError (connection : Connection) : IoError :=
  connection.failure.getD (.simple .unexpectedEof)

/-- Clients that leave early are not worth a report. -/
def isDeparture (error : IoError) : Bool :=
  error.kind = .unexpectedEof || error.kind = .connectionReset || error.kind = .brokenPipe

/-- The reports about an error of a connection, and whether it ends the process. -/
def takeError (guard : Guard) (error : IoError) : List Notice × Bool :=
  if isDeparture error then ([], false)
  else (guard.notices "connection" error, guard.assess error = .abort)

def serve (guard : Guard) (dispatcher : Dispatcher σ) (connection : Connection) (state : σ) :
    Served σ :=
  let progress := connection.exchange dispatcher state
  match progress.value with
  | none => ⟨[], false, progress.state, progress.calls, progress.notices, false⟩
  | some none =>
      let (notices, aborted) := takeError guard connection.cutError
      ⟨[], false, progress.state, progress.calls, progress.notices ++ notices, aborted⟩
  | some (some reply) =>
      let octets := reply.response.encode connection.date reply.headOnly
      let delivery := connection.outbound.deliver octets
      let (notices, aborted) :=
        match delivery.error with
        | none => ([], false)
        | some error => takeError guard error
      ⟨delivery.written, delivery.closed, progress.state, progress.calls,
        progress.notices ++ reply.response.notices ++ notices, aborted⟩

end Connection
end HttpServer
