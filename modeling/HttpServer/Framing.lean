import HttpServer.Headers
import HttpServer.Numeral
import HttpServer.ParseError
import HttpServer.Text.Unicode

/-! How a request body is delimited. A request that declares both a transfer
coding and a length is refused, because the two readings of where its body ends
could disagree. -/
namespace HttpServer

/-- Where the body of a request ends. -/
inductive Framing where
  | empty
  | length (octets : Nat)
  | chunked
  deriving DecidableEq, Repr

namespace Framing

/-- The characters after the last comma of a header value. -/
def lastElement (value : List Char) : List Char :=
  (value.reverse.takeWhile (· != ',')).reverse

/-- Whether the last coding that a Transfer-Encoding value lists is `chunked`. -/
def endsChunked (value : String) : Bool :=
  (Text.trimChars (lastElement value.toList)).map Char.toLower == "chunked".toList

def declared (value : String) : Except ParseError Nat :=
  match Numeral.natural 10 Numeral.max64 (Text.trim value) with
  | .ok n => .ok n
  | .error _ => .error .invalidFraming

/-- The number on which all Content-Length values agree, `seen` being that of the
values before. -/
def agreed (seen : Option Nat) : List String → Except ParseError (Option Nat)
  | [] => .ok seen
  | value :: rest =>
      match declared value, seen with
      | .error e, _ => .error e
      | .ok n, none => agreed (some n) rest
      | .ok n, some m => if m = n then agreed (some n) rest else .error .invalidFraming

/-- The framing that header fields announce. Of several transfer codings the last
decides. -/
def ofHeaders (headers : Headers) : Except ParseError Framing :=
  match agreed none (headers.getAll "content-length") with
  | .error e => .error e
  | .ok size =>
      match (headers.getAll "transfer-encoding").getLast?, size with
      | some coding, none => if endsChunked coding then .ok .chunked else .error .invalidFraming
      | some _, some _ => .error .invalidFraming
      | none, none => .ok .empty
      | none, some 0 => .ok .empty
      | none, some n => .ok (.length n)

end Framing
end HttpServer
