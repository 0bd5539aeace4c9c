import HttpServer.Config
import HttpServer.Dispatcher
import HttpServer.Guard
import HttpServer.Schedule

/-! The life of a server: it is furnished while it does not run, starts once, and
stops. What runs is fixed at the start, and the listener goes with the first run.

`σ` is the state of the callbacks, `ι` names the scheduled commands, and `κ` are the contexts
of the layer that encrypts connections; where there is no such layer there are none. -/
namespace HttpServer

/-- What a running server works with. `workers` is zero if the thread that started it
does all the work. -/
structure Operation (σ ι : Type) (κ : Type := Empty) : Type 1 where
  dispatcher : Dispatcher σ
  tls : Option κ
  guard : Guard
  interval : Duration
  commands : List ι
  workers : Nat

/-- What a server holds of its run: the event loop and what it works with, the threads
that are the server's own, the signal that ends the run, and whether the listener will
then report that it is closed. -/
structure Reins (σ ι : Type) (κ : Type := Empty) : Type 1 where
  loop : Option (Operation σ ι κ) := none
  threads : Option Nat := none
  hasSignal : Bool := false
  awaitsClosing : Bool := false

/-- A server. Until a run takes it, the listener is the server's. -/
structure Server (σ ι : Type) (κ : Type := Empty) : Type 1 where
  name : String
  routes : RouteTable (Target σ)
  defaultHandler : Option (AsyncHandler σ) := none
  notFoundHandler : Option (NotFoundHandler σ) := none
  requestFilter : Option (RequestFilter σ) := none
  responseFilter : Option (ResponseFilter σ) := none
  tls : Option κ := none
  limits : Limits := {}
  interval : Duration := Schedule.standardInterval
  commands : List ι := []
  guard : Guard := {}
  localAddress : Option Endpoint := none
  hasListener : Bool := true
  reins : Reins σ ι κ := {}
  isRunning : Bool := false

inductive Furnishing (σ ι : Type) (κ : Type := Empty) : Type 1 where
  | handler (path : String) (handler : AsyncHandler σ)
  | blockingHandler (path : String) (handler : BlockingHandler σ)
  | uploadHandler (path : String) (handler : UploadHandler σ)
  | forwardingHandler (path : String) (handler : AsyncHandler σ)
  | defaultHandler (handler : AsyncHandler σ)
  | blockingDefaultHandler (handler : BlockingHandler σ)
  | notFoundHandler (handler : NotFoundHandler σ)
  | requestFilter (filter : RequestFilter σ)
  | responseFilter (filter : ResponseFilter σ)
  | interval (interval : Duration)
  | command (command : ι)
  | abortOnExhaustion (aborts : Bool)
  | tlsContext (context : κ)
  | limits (limits : Limits)

/-- The name by which a refusal refers to a call. -/
def Furnishing.name {σ ι κ : Type} : Furnishing σ ι κ → String
  | .handler _ _ => "add_handler"
  | .blockingHandler _ _ => "add_blocking_handler"
  | .uploadHandler _ _ => "add_upload_handler"
  | .forwardingHandler _ _ => "add_proxy_handler"
  | .defaultHandler _ => "set_default_handler"
  | .blockingDefaultHandler _ => "set_blocking_default_handler"
  | .notFoundHandler _ => "set_not_found_handler"
  | .requestFilter _ => "set_request_filter"
  | .responseFilter _ => "set_response_filter"
  | .interval _ => "set_scheduled_command_interval"
  | .command _ => "add_scheduled_command"
  | .abortOnExhaustion _ => "set_abort_on_resource_error"
  | .tlsContext _ => "set_tls_context"
  | .limits _ => "set_limits"

/-- Why a server does not take a furnishing: it runs, which is a fault of the caller,
or the furnishing itself is no good. -/
inductive Refused where
  | running (call : String)
  | invalid (error : ServerError)
  deriving DecidableEq, Repr

def Refused.message : Refused → String
  | .running call => call ++ " called while the server is running"
  | .invalid error => error.message

namespace Server

variable {σ ι κ : Type}

/-- A server without routes, all of whose routes will lie below `baseUri`. -/
def ofListener (name baseUri : String) (localAddress : Option Endpoint) : Server σ ι κ :=
  { name, routes := { baseUri }, localAddress }

def baseUri (server : Server σ ι κ) : String := server.routes.baseUri

def loop (server : Server σ ι κ) : Option (Operation σ ι κ) := server.reins.loop

/-- Whether the listener is open: the server has it still, or the event loop has it. -/
def isListening (server : Server σ ι κ) : Bool := server.hasListener || server.loop.isSome

/-- A furnishing as it changes a server. The interval has to be positive. -/
def apply (server : Server σ ι κ) : Furnishing σ ι κ → Except ServerError (Server σ ι κ)
  | .handler path handler =>
      .ok { server with routes := server.routes.add path (.simple handler) }
  | .blockingHandler path handler =>
      .ok { server with
        routes := server.routes.add path (.simple (BlockingHandler.toAsync handler)) }
  | .uploadHandler path handler =>
      .ok { server with routes := server.routes.add path (.upload handler) }
  | .forwardingHandler path handler =>
      .ok { server with routes := server.routes.add path (.forwarding handler) }
  | .defaultHandler handler => .ok { server with defaultHandler := some handler }
  | .blockingDefaultHandler handler =>
      .ok { server with defaultHandler := some (BlockingHandler.toAsync handler) }
  | .notFoundHandler handler => .ok { server with notFoundHandler := some handler }
  | .requestFilter filter => .ok { server with requestFilter := some filter }
  | .responseFilter filter => .ok { server with responseFilter := some filter }
  | .interval interval =>
      if interval.nanoseconds = 0 then .error (.invalidInterval interval)
      else .ok { server with interval }
  | .command command => .ok { server with commands := server.commands ++ [command] }
  | .abortOnExhaustion aborts => .ok { server with guard := ⟨aborts⟩ }
  | .tlsContext context => .ok { server with tls := some context }
  | .limits limits => .ok { server with limits }

def furnish (server : Server σ ι κ) (furnishing : Furnishing σ ι κ) :
    Except Refused (Server σ ι κ) :=
  if server.isRunning then .error (.running furnishing.name)
  else (server.apply furnishing).mapError .invalid

/-- Furnishes a server with one thing after another, up to the first refusal. -/
def furnishAll (server : Server σ ι κ) : List (Furnishing σ ι κ) → Except Refused (Server σ ι κ)
  | [] => .ok server
  | furnishing :: rest =>
      match server.furnish furnishing with
      | .ok furnished => furnished.furnishAll rest
      | .error refused => .error refused

def ofConfig (config : Config) (localAddress : Option Endpoint) :
    Except ServerError (Server σ ι κ) := do
  let server := ofListener config.name config.baseUri localAddress
  let server ← server.apply (.limits config.limits)
  let server ← server.apply (.interval config.interval)
  server.apply (.abortOnExhaustion config.abortsOnExhaustion)

def dispatcher (server : Server σ ι κ) : Dispatcher σ :=
  { name := server.name
    routes := server.routes
    defaultHandler := server.defaultHandler
    notFoundHandler := server.notFoundHandler
    requestFilter := server.requestFilter
    responseFilter := server.responseFilter
    limits := server.limits }

/-- What a server works with if it is started now. -/
def operation (server : Server σ ι κ) (workers : Nat) : Operation σ ι κ :=
  { dispatcher := server.dispatcher
    tls := server.tls
    guard := server.guard
    interval := server.interval
    commands := server.commands
    workers }

/-- Takes the listener away for a run. There is no other for a second one. -/
def takeListener (server : Server σ ι κ) : Except ServerError (Server σ ι κ) :=
  if server.hasListener then .ok { server with hasListener := false }
  else .error .acceptorConsumed

def setOff (server : Server σ ι κ) (workers : Nat) : Server σ ι κ :=
  { server with
    isRunning := true
    reins := { server.reins with
      loop := some (server.operation workers)
      hasSignal := true
      awaitsClosing := true } }

/-- Starts a server on so many threads, at least one. One that runs is left alone. -/
def run (server : Server σ ι κ) (threads : Nat) : Except ServerError (Server σ ι κ) :=
  if server.isRunning then .ok server
  else do
    let started := (← server.takeListener).setOff (max threads 1)
    return { started with reins := { started.reins with threads := some (max threads 1) } }

/-- Starts a server on the calling thread, which is held up until the server stops. -/
def runSingleThreaded (server : Server σ ι κ) : Except ServerError (Server σ ι κ) :=
  if server.isRunning then .ok server
  else return (← server.takeListener).setOff 0

/-- Lets go of the run, if there is one. It ends by the signal, and the event loop takes
the listener with it. -/
def stop (server : Server σ ι κ) : Server σ ι κ :=
  let freed := { server with reins := {} }
  if server.reins.hasSignal then { freed with isRunning := false } else freed

/-- A thread that has been held up goes on as soon as the signal has been given. -/
def release (server : Server σ ι κ) : Server σ ι κ :=
  if server.reins.hasSignal then server else { server with isRunning := false }

/-- Gives a server up: it stops if it runs, and its listener is closed in any case. -/
def giveUp (server : Server σ ι κ) : Server σ ι κ :=
  { if server.isRunning then server.stop else server with hasListener := false }

end Server
end HttpServer
