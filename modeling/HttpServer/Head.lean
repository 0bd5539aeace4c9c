import HttpServer.Framing
import HttpServer.Request

/-! Reading the head of a request: empty lines, the request line and the header
lines up to the first empty line. Lines end at a line feed; one carriage return
before it belongs to the line end. -/
namespace HttpServer

namespace Head

inductive Reading where
  | incomplete
  | rejected (reason : ParseError)
  | complete (request : Request) (framing : Framing)
  deriving DecidableEq, Repr

def dropEmptyLines : Bytes → Bytes
  | 13 :: 10 :: rest => dropEmptyLines rest
  | buffer => buffer

def dropReturn (line : Bytes) : Bytes :=
  if line.getLast? = some 13 then line.dropLast else line

def version (octets : Bytes) : Except ParseError Version :=
  if octets = Bytes.ofText "HTTP/1.1" then .ok .http11
  else if octets = Bytes.ofText "HTTP/1.0" then .ok .http10
  else if (Bytes.ofText "HTTP/").isPrefixOf octets then .error .unsupportedVersion
  else .error .invalidFormat

/-- The target of a request line: some text without controls. -/
def target (octets : Bytes) : Except ParseError String :=
  if octets.isEmpty || octets.any Text.isControlByte then .error .invalidFormat
  else match Bytes.text? octets with
    | some uri => .ok uri
    | none => .error .invalidFormat

/-- The request line: method, target and version, with one space between. -/
def requestLine (line : Bytes) : Except ParseError Request :=
  match line.splitOn 32 with
  | [method, uri, protocol] =>
      if Text.isToken method then do
        let uri ← target uri
        let version ← version protocol
        return { method := .ofBytes method, uri, version }
      else .error .invalidFormat
  | _ => .error .invalidFormat

/-- A header line: a token, a colon and a value, whose outer blanks do not count. -/
def headerLine (line : Bytes) : Except ParseError Field :=
  match line.dropWhile (· != 58), Bytes.text? (line.takeWhile (· != 58)) with
  | _ :: value, some name =>
      if Text.isToken (line.takeWhile (· != 58)) then
        match Bytes.text? (Bytes.trimBy Text.isBlankByte value) with
        | some value => .ok ⟨name, value⟩
        | none => .error .invalidFormat
      else .error .invalidFormat
  | _, _ => .error .invalidFormat

/-- Header lines, of which there may be `room`. A line too many is refused before
it is looked at. -/
def headerLines : Nat → List Bytes → Except ParseError (List Field)
  | _, [] => .ok []
  | 0, _ :: _ => .error .tooManyHeaders
  | room + 1, line :: rest => do
      let field ← headerLine line
      let fields ← headerLines room rest
      return field :: fields

/-- Reads a head that has arrived whole; its final line end is left out. -/
def parse (maxHeaders : Nat) (head : Bytes) : Except ParseError (Request × Framing) :=
  match (head.splitOn 10).map dropReturn with
  | [] => .error .invalidFormat
  | first :: rest => do
      let request ← requestLine first
      let fields ← headerLines maxHeaders rest
      let framing ← Framing.ofHeaders ⟨fields⟩
      return ({ request with headers := ⟨fields⟩ }, framing)

/-- Reads a head at the front of a buffer and gives what is left of the buffer. A
complete head is taken out even when it is refused; its size counts from the
request line to the empty line that ends it. -/
def decode (limits : Limits) (buffer : Bytes) : Reading × Bytes :=
  let buffer := dropEmptyLines buffer
  match Bytes.position? Bytes.blankLine buffer with
  | none =>
      (if limits.maxHeadBytes < buffer.length then .rejected .headTooLarge else .incomplete, buffer)
  | some size =>
      if limits.maxHeadBytes < size + 4 then (.rejected .headTooLarge, buffer)
      else
        (match parse limits.maxHeaders (buffer.take size) with
          | .ok (request, framing) => .complete request framing
          | .error reason => .rejected reason,
          buffer.drop (size + 4))

end Head
end HttpServer
