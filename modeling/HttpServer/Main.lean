import HttpServer.Acceptance
import HttpServer.CommandLine
import HttpServer.Demo
import HttpServer.HttpDate
import Std.Async

/-! The program: it reads its configuration, listens, and answers with the
demonstration routes until it is interrupted. A client is served anew with each segment
that arrives, until there is an answer for it. -/
namespace HttpServer.Program

open Std.Async

/-- The demonstration server; its state is the time in seconds for which it has run. -/
abbrev DemoServer := Server Nat Empty

def version : String := "rondo 0.3.0"

def usage : String :=
  "Embeddable asynchronous HTTP server\n\n" ++
  "Usage: rondo serve [OPTIONS]\n\n" ++
  "Options:\n" ++
  "      --host <HOST>              Bind host\n" ++
  "      --port <PORT>              Bind port\n" ++
  "      --threads <THREADS>        Worker threads (0 = one per CPU)\n" ++
  "      --name <NAME>              Value of the Server response header\n" ++
  "      --base-uri <BASE_URI>      Prefix for every route\n" ++
  "      --abort-on-resource-error  End the program when descriptors or memory run out\n" ++
  "      --log-level <LOG_LEVEL>    Log level [default: info]\n" ++
  "      --json-logs                Emit JSON logs\n" ++
  "  -h, --help                     Print help\n" ++
  "  -V, --version                  Print version"

def complaint : CommandLine.Refusal → String
  | .help | .helpForNothing => usage
  | .version => version
  | .unknownArgument => "error: unexpected argument found"
  | .unknownCommand => "error: unrecognized subcommand"
  | .missingValue => "error: a value is required for an option"
  | .invalidValue => "error: invalid value for an option"
  | .givenTwice => "error: an option cannot be used multiple times"
  | .unexpectedValue => "error: unexpected value for an option"

def line (notice : Notice) : String :=
  let level := match notice.level with
    | .warning => "WARN"
    | .error => "ERROR"
  let details := notice.details.map fun (name, value) => name ++ "=" ++ value
  " ".intercalate ([level, notice.message] ++ details)

def report (notices : List Notice) : IO Unit := notices.forM fun notice => IO.eprintln (line notice)

def ioError : IO.Error → IoError
  | .resourceExhausted _ code _ | .resourceVanished code _ => .system code.toNat
  | .unexpectedEof => .simple .unexpectedEof
  | error => .described .other (toString error)

/-- The value of an action, or the error that it fails with. -/
def attempt {α : Type} (action : Async α) : Async (Except IoError α) :=
  tryCatch (Except.ok <$> action) fun error => pure (.error (ioError error))

def today : IO String := do
  let now ← Std.Time.Timestamp.now
  return HttpDate.ofSeconds now.toSecondsSinceUnixEpoch.val.toNat

def endpointOf : Std.Net.SocketAddress → Endpoint
  | .v4 address => .v4 address.addr.octets address.port
  | .v6 address => .v6 address.addr.segments 0 address.port

/-- What the system calls an endpoint; it is not told the scope. -/
def socketAddress : Endpoint → Std.Net.SocketAddress
  | .v4 octets port => .v4 { addr := ⟨octets⟩, port }
  | .v6 groups _ port => .v6 { addr := ⟨groups⟩, port }

/-- Serves a client with what it has sent, and with more of it as long as there is no
answer. -/
partial def attend (server : DemoServer) (uptime : Nat) (client : TCP.Socket.Client)
    (connection : Connection) : Async (Served Nat) := do
  let served := connection.serve server.guard server.dispatcher uptime
  if !served.written.isEmpty then return served
  match ← attempt (client.recv? 8192) with
  | .ok none => return served
  | .ok (some octets) =>
      let segments := connection.segments ++ [octets.data.toList]
      attend server uptime client { connection with segments }
  | .error failure =>
      let connection := { connection with failure }
      return connection.serve server.guard server.dispatcher uptime

/-- Answers a client; tells whether the program has to end over it. -/
def answer (server : DemoServer) (started : Nat) (client : TCP.Socket.Client) : Async Bool := do
  let peer ← attempt (client.getPeerName : IO _)
  let uptime := ((← (IO.monoMsNow : IO Nat)) - started) / 1000
  let date ← (today : IO String)
  let served ← attend server uptime client
    { segments := [], peer := peer.toOption.map endpointOf, date }
  report served.notices
  if served.written.isEmpty then return served.aborted
  match ← attempt (do client.send ⟨served.written.toArray⟩; client.shutdown) with
  | .ok () => return served.aborted
  | .error error =>
      let (notices, aborted) := Connection.takeError server.guard error
      report notices
      return aborted

/-- Accepts clients one after another, up to an error over which the program ends. -/
partial def acceptAll (server : DemoServer) (started : Nat) (listener : TCP.Socket.Server)
    (stop : Async Unit) : Async Unit := do
  match ← attempt listener.accept with
  | .ok client =>
      background do
        if ← answer server started client then stop
      acceptAll server started listener stop
  | .error error =>
      match Acceptance.react server.guard server.dispatcher 0 (.failed error) with
      | (.reported notices paused, _, aborted) =>
          report notices
          if aborted then stop
          else
            if paused then sleep 50
            acceptAll server started listener stop
      | _ => stop

/-- The endpoint to listen on. A host that is not written as an address is looked up. -/
def endpoint (config : Config) : IO (Option Endpoint) := do
  match config.endpoint? with
  | some endpoint => return some endpoint
  | none =>
      let found ← (DNS.getAddrInfo config.host (toString config.port)).block
      return found[0]?.map fun
        | .v4 address => .ofAddress (.v4 address.octets) config.port
        | .v6 address => .ofAddress (.v6 address.segments) config.port

/-- Runs the demonstration on a listener until the program is interrupted. -/
def runOn (config : Config) (server : DemoServer) (listener : TCP.Socket.Server) :
    IO UInt32 := do
  let ended : IO.Promise UInt32 ← IO.Promise.new
  let interrupt ← Signal.Waiter.mk .sigint false
  let interrupted ← interrupt.wait
  discard <| IO.mapTask (fun _ => ended.resolve 0) interrupted
  let started ← IO.monoMsNow
  IO.println ("listening on http://" ++ config.serverAddress ++ config.baseUri)
  discard <| (acceptAll server started listener (ended.resolve 134 : IO Unit)).toIO
  IO.wait ended.result!

def fail (error : ServerError) : IO UInt32 := do
  IO.eprintln ("Error: " ++ error.message)
  return 1

def serve (config : Config) : IO UInt32 := do
  match ← endpoint config with
  | none => fail (.config (config.serverAddress ++ " resolves to no address"))
  | some endpoint =>
      let listener ← TCP.Socket.Server.mk
      listener.bind (socketAddress endpoint)
      listener.listen config.backlog.toInt.toNat.toUInt32
      let address := endpointOf (← listener.getSockName)
      let made : Except ServerError DemoServer := Server.ofConfig config (some address)
      match made with
      | .error error => fail error
      | .ok server =>
          let processors := (← System.getCPUInfo).size
          match server.furnishAll (Demo.furnishings server.name id) with
          | .error refused => throw (.userError refused.message)
          | .ok server =>
              match server.run (config.workers processors) with
              | .error error => fail error
              | .ok server => runOn config server listener

def environment : IO Config.Environment := do
  let values ← Config.Setting.all.mapM fun setting =>
    return (setting.key, ← IO.getEnv setting.key)
  return fun key => (values.lookup key).join

/-- Carries out a command line; the result is the status with which the program ends. -/
def run (args : List String) : IO UInt32 := do
  match CommandLine.parse args with
  | .error refusal =>
      if refusal = .help ∨ refusal = .version then
        IO.println (complaint refusal)
        return 0
      else
        IO.eprintln (complaint refusal)
        return 2
  | .ok settings =>
      match settings.configure (← environment) with
      | .error misread => fail misread.toServerError
      | .ok config =>
          try serve config
          catch error => fail (.io (ioError error))

end HttpServer.Program

def main (args : List String) : IO UInt32 := HttpServer.Program.run args
