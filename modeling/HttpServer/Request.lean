import HttpServer.Headers
import HttpServer.Method

/-! Requests as handlers see them. -/
namespace HttpServer

inductive Version where
  | http10
  | http11
  deriving DecidableEq, Repr

def Version.name : Version → String
  | .http10 => "HTTP/1.0"
  | .http11 => "HTTP/1.1"

/-- One request; `uri` is its target, `peer` the text of the client's address. -/
structure Request where
  method : Method
  uri : String
  version : Version := .http11
  headers : Headers := {}
  body : Bytes := []
  peer : Option String := none
  deriving DecidableEq, Repr

namespace Request

/-- The target up to its first question mark. -/
def path (request : Request) : String :=
  String.ofList (request.uri.toList.takeWhile (· != '?'))

/-- The target after its first question mark. -/
def query (request : Request) : Option String :=
  match request.uri.toList.dropWhile (· != '?') with
  | [] => none
  | _ :: rest => some (String.ofList rest)

def header? (request : Request) (name : String) : Option String := request.headers.get? name

end Request
end HttpServer
