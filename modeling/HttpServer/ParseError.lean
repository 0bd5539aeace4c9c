/-! The reasons for refusing a request, and the limits that some of them
enforce. -/
namespace HttpServer

inductive ParseError where
  | invalidFormat
  | headTooLarge
  | tooManyHeaders
  | unsupportedVersion
  | invalidFraming
  | bodyTooLarge
  deriving DecidableEq, Repr

namespace ParseError

def message : ParseError → String
  | .invalidFormat => "malformed request"
  | .headTooLarge => "request head exceeds the configured limit"
  | .tooManyHeaders => "too many request headers"
  | .unsupportedVersion => "unsupported HTTP version"
  | .invalidFraming => "invalid or conflicting body framing"
  | .bodyTooLarge => "request body exceeds the configured limit"

/-- The status code that the client is answered with. -/
def status : ParseError → Nat
  | .invalidFormat | .invalidFraming => 400
  | .headTooLarge | .tooManyHeaders => 431
  | .unsupportedVersion => 505
  | .bodyTooLarge => 413

end ParseError

/-- Size limits for one request. The body limit holds for bodies that are
collected before a handler runs; streamed uploads have none. -/
structure Limits where
  maxHeadBytes : Nat := 64 * 1024
  maxHeaders : Nat := 100
  maxBodyBytes : Nat := 16 * 1024 * 1024
  deriving DecidableEq, Repr

end HttpServer
