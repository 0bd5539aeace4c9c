import HttpServer.Notice
import HttpServer.Response

/-! Responses in writing: as they are sent, and summed up on one line for messages. Every answer
closes its connection, and no stored header can break the line on which it stands. -/
namespace HttpServer.Response

/-- Octets that would break a header line from within its value. -/
def breaksLine (b : UInt8) : Bool := b == 13 || b == 10 || b == 0

/-- Whether a field can stand on one line: a name of printable ASCII without a
colon, and a value that does not break the line. -/
def isWritable (field : Field) : Bool :=
  !field.name.isEmpty
    && (Bytes.ofText field.name).all (fun b => Text.isGraphicByte b && b != 58)
    && !(Bytes.ofText field.value).any breaksLine

/-- The stored fields that are looked at; the connection is the server's affair. -/
def ownFields (response : Response) : List Field :=
  response.headers.fields.filter (!·.isNamed "connection")

def notices (response : Response) : List Notice :=
  (response.ownFields.filter (!isWritable ·)).map fun field => .headerDropped field.name

/-- The length that is declared when the response does not declare one. -/
def lengthField (response : Response) : List Field :=
  if Status.isBodiless response.status || response.headers.contains "content-length" then []
  else [⟨"Content-Length", toString response.body.length⟩]

/-- The date that is given when the response gives none. -/
def dateField (date : String) (response : Response) : List Field :=
  if response.headers.contains "date" then [] else [⟨"Date", date⟩]

def writtenFields (date : String) (response : Response) : List Field :=
  response.ownFields.filter isWritable ++ response.lengthField ++ response.dateField date
    ++ [⟨"Connection", "close"⟩]

def statusLine (response : Response) : Bytes :=
  Bytes.ofText ("HTTP/1.1 " ++ toString response.status ++ " " ++ response.reason)

def fieldLine (field : Field) : Bytes :=
  Bytes.ofText field.name ++ [58, 32] ++ Bytes.ofText field.value ++ Bytes.crlf

/-- The octets after the head: none in answer to HEAD and for bodiless statuses. -/
def writtenBody (headOnly : Bool) (response : Response) : Bytes :=
  if headOnly || Status.isBodiless response.status then [] else response.body

/-- Puts a response as it is sent at the end of a buffer, `date` being the current time. -/
def encodeInto (buffer : Bytes) (date : String) (headOnly : Bool) (response : Response) : Bytes :=
  let opened := buffer ++ response.statusLine ++ Bytes.crlf
  let headed := (response.writtenFields date).foldl (fun out field => out ++ fieldLine field) opened
  headed ++ Bytes.crlf ++ response.writtenBody headOnly

def encode (date : String) (headOnly : Bool) (response : Response) : Bytes :=
  response.encodeInto [] date headOnly

def pairText (field : Field) : String :=
  "(" ++ Text.quoted field.name ++ ", " ++ Text.quoted field.value ++ ")"

def summary (response : Response) : String :=
  "Response \x7b status: " ++ toString response.status
    ++ ", headers: Headers \x7b entries: ["
    ++ ", ".intercalate (response.headers.fields.map pairText)
    ++ "] \x7d, body_len: " ++ toString response.body.length
    ++ ", not_found_handler: " ++ toString response.hasNotFoundHandler ++ " \x7d"

end HttpServer.Response
