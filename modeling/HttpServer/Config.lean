import HttpServer.Address
import HttpServer.Duration
import HttpServer.Errors
import HttpServer.ParseError
import HttpServer.Text.Ascii
import HttpServer.Text.Unicode

/-! The configuration of a server and its reading from the environment. Variables
are read in the order of their declaration, so the first bad one is reported. -/
namespace HttpServer

structure Config where
  name : String := "rondo"
  host : String := "127.0.0.1"
  port : UInt16 := 8080
  baseUri : String := ""
  threads : UInt64 := 1
  intervalMilliseconds : UInt64 := 3000
  abortsOnExhaustion : Bool := false
  maxHeadBytes : UInt64 := 65536
  maxBodyBytes : UInt64 := 16777216
  backlog : Int32 := 1024
  deriving DecidableEq, Repr

namespace Config

/-- The variables of the environment that hold settings. -/
inductive Setting where
  | name
  | host
  | port
  | baseUri
  | threads
  | interval
  | abortsOnExhaustion
  | maxHeadBytes
  | maxBodyBytes
  | backlog
  deriving DecidableEq, Repr

def Setting.key : Setting → String
  | .name => "RONDO_NAME"
  | .host => "RONDO_HOST"
  | .port => "RONDO_PORT"
  | .baseUri => "RONDO_BASE_URI"
  | .threads => "RONDO_THREADS"
  | .interval => "RONDO_SCHEDULED_INTERVAL_MS"
  | .abortsOnExhaustion => "RONDO_ABORT_ON_RESOURCE_ERROR"
  | .maxHeadBytes => "RONDO_MAX_HEADER_BYTES"
  | .maxBodyBytes => "RONDO_MAX_BODY_BYTES"
  | .backlog => "RONDO_BACKLOG"

def Setting.all : List Setting :=
  [.name, .host, .port, .baseUri, .threads, .interval, .abortsOnExhaustion, .maxHeadBytes,
    .maxBodyBytes, .backlog]

theorem Setting.mem_all (setting : Setting) : setting ∈ Setting.all := by
  cases setting <;> decide

/-- What a variable name stands for, if it is set. -/
abbrev Environment := String → Option String

inductive Fault where
  | numeral (fault : Numeral.Fault)
  | notABoolean
  deriving DecidableEq, Repr

structure Misread where
  setting : Setting
  raw : String
  fault : Fault
  deriving DecidableEq, Repr

def Misread.message (misread : Misread) : String :=
  misread.setting.key ++ "=" ++ Text.quoted misread.raw ++ ": " ++
    match misread.fault with
    | .numeral fault => fault.message
    | .notABoolean => "expected a boolean"

def Misread.toServerError (misread : Misread) : ServerError := .config misread.message

/-- Reads a variable, which keeps `standard` as long as it is unset. -/
def read {α : Type} (env : Environment) (setting : Setting) (standard : α)
    (value : String → Except Fault α) : Except Misread α :=
  match env setting.key with
  | none => .ok standard
  | some raw =>
      match value raw with
      | .ok v => .ok v
      | .error fault => .error ⟨setting, raw, fault⟩

/-- A number from 0 to `bound`, blanks around it not counting. -/
def natural (bound : Nat) (raw : String) : Except Fault Nat :=
  (Numeral.natural 10 bound (Text.trim raw)).mapError .numeral

def word16 (raw : String) : Except Fault UInt16 := (natural Numeral.max16 raw).map (·.toUInt16)

def word64 (raw : String) : Except Fault UInt64 := (natural Numeral.max64 raw).map (·.toUInt64)

def signed32 (raw : String) : Except Fault Int32 :=
  match Numeral.integer (Numeral.maxSigned32 + 1) Numeral.maxSigned32 (Text.trim raw) with
  | .ok n => .ok n.toInt32
  | .error fault => .error (.numeral fault)

/-- A truth value by one of its words, blanks around it and ASCII letter case not
counting; no other letters have a lower case among those of the words. -/
def flag (raw : String) : Except Fault Bool :=
  let word := String.ofList (Text.caseless (Text.trim raw))
  if ["true", "1", "yes", "on"].contains word then .ok true
  else if ["false", "0", "no", "off", ""].contains word then .ok false
  else .error .notABoolean

def ofEnvironment (env : Environment) : Except Misread Config := do
  let standard : Config := {}
  let name ← read env .name standard.name .ok
  let host ← read env .host standard.host .ok
  let port ← read env .port standard.port word16
  let baseUri ← read env .baseUri standard.baseUri .ok
  let threads ← read env .threads standard.threads word64
  let intervalMilliseconds ← read env .interval standard.intervalMilliseconds word64
  let abortsOnExhaustion ← read env .abortsOnExhaustion standard.abortsOnExhaustion flag
  let maxHeadBytes ← read env .maxHeadBytes standard.maxHeadBytes word64
  let maxBodyBytes ← read env .maxBodyBytes standard.maxBodyBytes word64
  let backlog ← read env .backlog standard.backlog signed32
  return { name, host, port, baseUri, threads, intervalMilliseconds, abortsOnExhaustion,
           maxHeadBytes, maxBodyBytes, backlog }

/-- How many workers to run on a machine with `processors` of them; zero in the
configuration means one for each. -/
def workers (config : Config) (processors : Nat) : Nat :=
  if config.threads = 0 then processors else config.threads.toNat

def interval (config : Config) : Duration := .ofMilliseconds config.intervalMilliseconds.toNat

def limits (config : Config) : Limits :=
  { maxHeadBytes := config.maxHeadBytes.toNat
    maxBodyBytes := config.maxBodyBytes.toNat }

def serverAddress (config : Config) : String := config.host ++ ":" ++ toString config.port.toNat

/-- The endpoint to listen on, if the host is written as an address. -/
def endpoint? (config : Config) : Option Endpoint :=
  (Address.ofText? config.host).map (Endpoint.ofAddress · config.port)

end Config
end HttpServer
