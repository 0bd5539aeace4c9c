import HttpServer.Headers
import HttpServer.Status

/-! Responses under construction and the ready-made ones. -/
namespace HttpServer

/-- A response. `hasNotFoundHandler` tells whether it was handed out by a server
that answers unmatched targets with a handler of its own. -/
structure Response where
  status : Nat := 200
  headers : Headers := {}
  body : Bytes := []
  hasNotFoundHandler : Bool := false
  deriving DecidableEq, Repr

namespace Response

def ofStatus (status : Nat) : Response := { status }

def reason (response : Response) : String := Status.reason response.status

/-- Makes the content type the only one. -/
def setContentType (response : Response) (contentType : String) : Response :=
  { response with headers := response.headers.insert "Content-Type" contentType }

/-- Makes `value` the only value of a header. -/
def setHeader (response : Response) (name value : String) : Response :=
  { response with headers := response.headers.insert name value }

def appendHeader (response : Response) (name value : String) : Response :=
  { response with headers := response.headers.append name value }

def removeHeader (response : Response) (name : String) : Response :=
  { response with headers := response.headers.remove name }

def ofContent (status : Nat) (contentType : String) (body : Bytes) : Response :=
  { (ofStatus status).setContentType contentType with body }

def ok (body : Bytes) : Response := ofContent 200 "text/plain" body

def json (body : Bytes) : Response := ofContent 200 "application/json" body

def html (body : Bytes) : Response := ofContent 200 "text/html; charset=utf-8" body

/-- A refusal whose body is its reason phrase. -/
def error (status : Nat) : Response :=
  ofContent status "text/plain" (Bytes.ofText (Status.reason status))

def notFound : Response := error 404

def methodNotAllowed : Response := error 405

def badRequest : Response := error 400

/-- The answer in place of a callback that panicked. -/
def internalError : Response := error 500

/-- Turns a response into the answer 404 that servers give by themselves. -/
def becomeNotFound (response : Response) : Response :=
  { response.setContentType "text/plain" with
    status := 404
    body := Bytes.ofText "Not Found" }

end Response
end HttpServer
