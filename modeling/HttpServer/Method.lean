import HttpServer.Text.Lossy

/-! Request methods. -/
namespace HttpServer

/-- A request method; one outside the nine registered ones keeps its spelling. -/
inductive Method where
  | get
  | post
  | put
  | delete
  | patch
  | head
  | options
  | trace
  | connect
  | other (name : String)
  deriving DecidableEq, Repr

namespace Method

/-- The method of that name; names are case-sensitive. -/
def ofName : String → Method
  | "GET" => .get
  | "POST" => .post
  | "PUT" => .put
  | "DELETE" => .delete
  | "PATCH" => .patch
  | "HEAD" => .head
  | "OPTIONS" => .options
  | "TRACE" => .trace
  | "CONNECT" => .connect
  | name => .other name

/-- The method that octets spell; what is not UTF-8 becomes U+FFFD. -/
def ofBytes (bytes : Bytes) : Method := ofName (Text.decodeLossy bytes)

def name : Method → String
  | .get => "GET"
  | .post => "POST"
  | .put => "PUT"
  | .delete => "DELETE"
  | .patch => "PATCH"
  | .head => "HEAD"
  | .options => "OPTIONS"
  | .trace => "TRACE"
  | .connect => "CONNECT"
  | .other name => name

/-- Methods that every route answers; the others reach forwarding routes only. -/
def isSupported : Method → Bool
  | .get | .post | .head | .put | .options => true
  | _ => false

end Method
end HttpServer
