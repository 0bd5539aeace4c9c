import HttpServer.Config

/-! The configuration as a structured document: an object whose keys are the
settings, or the list of their values in order. What is absent keeps its standard
value; what is present has to be of the right type. -/
namespace HttpServer.Config

/-- A document of nested values; `fraction` is any number not written as a whole
one. -/
inductive Document where
  | null
  | boolean (value : Bool)
  | whole (value : Int)
  | fraction
  | text (value : String)
  | list (values : List Document)
  | object (entries : List (String × Document))
  deriving Inhabited

def Document.text? : Document → Option String
  | .text value => some value
  | _ => none

def Document.boolean? : Document → Option Bool
  | .boolean value => some value
  | _ => none

/-- The number from `low` to `high` that a document is. -/
def Document.whole? (low high : Int) : Document → Option Int
  | .whole value => if low ≤ value ∧ value ≤ high then some value else none
  | _ => none

def Document.word16? (document : Document) : Option UInt16 :=
  (document.whole? 0 Numeral.max16).map (·.toNat.toUInt16)

def Document.word64? (document : Document) : Option UInt64 :=
  (document.whole? 0 Numeral.max64).map (·.toNat.toUInt64)

def Document.signed32? (document : Document) : Option Int32 :=
  (document.whole? (-(Numeral.maxSigned32 + 1)) Numeral.maxSigned32).map (·.toInt32)

def documentKeys : List String :=
  ["name", "host", "port", "base_uri", "threads", "scheduled_interval_ms",
    "abort_on_resource_error", "max_header_bytes", "max_body_bytes", "backlog"]

/-- A setting from its document, `standard` if there is none. -/
def entry {α : Type} (entries : List (String × Document)) (key : String) (standard : α)
    (value : Document → Option α) : Option α :=
  match entries.lookup key with
  | none => some standard
  | some document => value document

def ofEntries (entries : List (String × Document)) : Option Config := do
  let standard : Config := {}
  let name ← entry entries "name" standard.name (·.text?)
  let host ← entry entries "host" standard.host (·.text?)
  let port ← entry entries "port" standard.port (·.word16?)
  let baseUri ← entry entries "base_uri" standard.baseUri (·.text?)
  let threads ← entry entries "threads" standard.threads (·.word64?)
  let intervalMilliseconds ←
    entry entries "scheduled_interval_ms" standard.intervalMilliseconds (·.word64?)
  let abortsOnExhaustion ←
    entry entries "abort_on_resource_error" standard.abortsOnExhaustion (·.boolean?)
  let maxHeadBytes ← entry entries "max_header_bytes" standard.maxHeadBytes (·.word64?)
  let maxBodyBytes ← entry entries "max_body_bytes" standard.maxBodyBytes (·.word64?)
  let backlog ← entry entries "backlog" standard.backlog (·.signed32?)
  return { name, host, port, baseUri, threads, intervalMilliseconds, abortsOnExhaustion,
           maxHeadBytes, maxBodyBytes, backlog }

def ofDocument : Document → Option Config
  | .object entries => ofEntries entries
  | .list values =>
      if documentKeys.length < values.length then none else ofEntries (documentKeys.zip values)
  | _ => none

end HttpServer.Config
