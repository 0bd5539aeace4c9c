import HttpServer.Config

/-! The command line: one command `serve` with options that override the
environment. An option's value is looked at when the next option or the end of the
line settles it, and a word that belongs to nothing is refused at once. -/
namespace HttpServer

namespace CommandLine

/-- Why a command line is not carried out; asking for help or for the version is one
of the reasons. -/
inductive Refusal where
  | help
  | helpForNothing
  | version
  | unknownArgument
  | unknownCommand
  | missingValue
  | invalidValue
  | givenTwice
  | unexpectedValue
  deriving DecidableEq, Repr

structure Settings where
  host : Option String := none
  port : Option UInt16 := none
  threads : Option UInt64 := none
  name : Option String := none
  baseUri : Option String := none
  abortsOnExhaustion : Bool := false
  logLevel : Option String := none
  jsonLogs : Bool := false
  deriving DecidableEq, Repr

inductive Valued where
  | host
  | port
  | threads
  | name
  | baseUri
  | logLevel
  deriving DecidableEq, Repr

inductive Switch where
  | abortsOnExhaustion
  | jsonLogs
  deriving DecidableEq, Repr

inductive Item where
  | help
  | valued (option : Valued)
  | switch (option : Switch)
  deriving DecidableEq, Repr

def Item.ofName? : String → Option Item
  | "help" => some .help
  | "host" => some (.valued .host)
  | "port" => some (.valued .port)
  | "threads" => some (.valued .threads)
  | "name" => some (.valued .name)
  | "base-uri" => some (.valued .baseUri)
  | "log-level" => some (.valued .logLevel)
  | "abort-on-resource-error" => some (.switch .abortsOnExhaustion)
  | "json-logs" => some (.switch .jsonLogs)
  | _ => none

inductive Word where
  | separator
  | long (name : String) (value : Option String)
  | short (letters : List Char)
  | plain (text : String)
  deriving DecidableEq, Repr

/-- Splits a long option at its first equals sign. -/
def longWord (chars : List Char) : Word :=
  match chars.span (· != '=') with
  | (name, []) => .long (String.ofList name) none
  | (name, _ :: value) => .long (String.ofList name) (some (String.ofList value))

/-- The shape of a word; a lone hyphen is a plain one. -/
def Word.ofText (text : String) : Word :=
  match text.toList with
  | ['-', '-'] => .separator
  | '-' :: '-' :: rest => longWord rest
  | '-' :: first :: rest => .short (first :: rest)
  | _ => .plain text

/-- Sets what is unset. -/
def once {α : Type} (old : Option α) (new : Except Refusal α) : Except Refusal (Option α) :=
  match old with
  | some _ => .error .givenTwice
  | none => new.map some

def numeral {α : Type} (value : Except Numeral.Fault α) : Except Refusal α :=
  value.mapError fun _ => .invalidValue

/-- Gives an option its value. A port may be written with either sign. -/
def Settings.assign (settings : Settings) (value : String) : Valued → Except Refusal Settings
  | .host => return { settings with host := ← once settings.host (.ok value) }
  | .port => do
      let port := (Numeral.integer 0 Numeral.max16 value).map (·.toNat.toUInt16)
      return { settings with port := ← once settings.port (numeral port) }
  | .threads => do
      let threads := (Numeral.natural 10 Numeral.max64 value).map (·.toUInt64)
      return { settings with threads := ← once settings.threads (numeral threads) }
  | .name => return { settings with name := ← once settings.name (.ok value) }
  | .baseUri => return { settings with baseUri := ← once settings.baseUri (.ok value) }
  | .logLevel => return { settings with logLevel := ← once settings.logLevel (.ok value) }

def Settings.turnOn (settings : Settings) : Switch → Except Refusal Settings
  | .abortsOnExhaustion =>
      if settings.abortsOnExhaustion then .error .givenTwice
      else .ok { settings with abortsOnExhaustion := true }
  | .jsonLogs =>
      if settings.jsonLogs then .error .givenTwice else .ok { settings with jsonLogs := true }

/-- An option under way: waiting for its value, or having it. -/
inductive Pending where
  | nothing
  | awaiting (option : Valued)
  | given (option : Valued) (value : String)
  deriving DecidableEq, Repr

def settle (settings : Settings) : Pending → Except Refusal Settings
  | .nothing => .ok settings
  | .awaiting _ => .error .missingValue
  | .given option value => settings.assign value option

def readOptions (pending : Pending) (settings : Settings) : List String → Except Refusal Settings
  | [] => settle settings pending
  | word :: rest =>
      match Word.ofText word with
      | .separator => if rest.isEmpty then settle settings pending else .error .unknownArgument
      | .long name value =>
          match Item.ofName? name, value with
          | none, _ => .error .unknownArgument
          | some .help, none => do
              let _ ← settle settings pending
              .error .help
          | some .help, some _ | some (.switch _), some _ => .error .unexpectedValue
          | some (.switch option), none => do
              readOptions .nothing (← (← settle settings pending).turnOn option) rest
          | some (.valued option), some value => do
              readOptions .nothing (← (← settle settings pending).assign value option) rest
          | some (.valued option), none => do
              readOptions (.awaiting option) (← settle settings pending) rest
      | .short letters =>
          if letters.head? = some 'h' then do
            let _ ← settle settings pending
            .error .help
          else .error .unknownArgument
      | .plain text =>
          match pending with
          | .awaiting option => readOptions (.given option text) settings rest
          | _ => .error .unknownArgument

def isCommand (word : String) : Bool := word == "serve" || word == "help"

/-- Reads the words after the name of the program. -/
def parse : List String → Except Refusal Settings
  | [] => .error .helpForNothing
  | "serve" :: rest => readOptions .nothing {} rest
  | "help" :: rest =>
      match rest with
      | [] => .error .help
      | [topic] => .error (if isCommand topic then .help else .unknownCommand)
      | _ => .error .unknownCommand
  | word :: rest =>
      match Word.ofText word with
      | .separator =>
          match rest with
          | [] => .error .helpForNothing
          | next :: _ => .error (if isCommand next then .unknownArgument else .unknownCommand)
      | .long "help" none => .error .help
      | .long "version" none => .error .version
      | .long "help" _ | .long "version" _ => .error .unexpectedValue
      | .long _ _ => .error .unknownArgument
      | .short letters =>
          match letters.head? with
          | some 'h' => .error .help
          | some 'V' => .error .version
          | _ => .error .unknownArgument
      | .plain _ => .error .unknownCommand

def standardLogLevel : String := "info"

def Settings.apply (settings : Settings) (config : Config) : Config :=
  { config with
    host := settings.host.getD config.host
    port := settings.port.getD config.port
    threads := settings.threads.getD config.threads
    name := settings.name.getD config.name
    baseUri := settings.baseUri.getD config.baseUri
    abortsOnExhaustion := settings.abortsOnExhaustion || config.abortsOnExhaustion }

/-- The configuration that an environment gives under the settings of a command
line. -/
def Settings.configure (settings : Settings) (env : Config.Environment) :
    Except Config.Misread Config :=
  (Config.ofEnvironment env).map settings.apply

end CommandLine
end HttpServer
