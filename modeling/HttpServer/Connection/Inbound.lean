import HttpServer.Body
import HttpServer.Head

/-! Reading one request off a connection. Octets arrive in segments, and one is added
to the buffer whenever what is there does not suffice. -/
namespace HttpServer

namespace Inbound

/-- How the reading of a head ends. -/
inductive Opening where
  | complete (request : Request) (framing : Framing) (buffer : Bytes) (segments : List Bytes)
  | rejected (reason : ParseError)
  | cut
  deriving DecidableEq, Repr

def readHead (limits : Limits) (buffer : Bytes) (segments : List Bytes) : Opening :=
  match Head.decode limits buffer with
  | (.complete request framing, rest) => .complete request framing rest segments
  | (.rejected reason, _) => .rejected reason
  | (.incomplete, rest) =>
      match segments with
      | [] => .cut
      | segment :: more => readHead limits (rest ++ segment) more
termination_by structural segments

inductive Collected where
  | whole (body : Bytes)
  | tooLarge
  | malformed (reason : ParseError)
  | cut
  deriving DecidableEq, Repr

def Collected.after (pieces : List Bytes) : Collected → Collected
  | .whole body => .whole (pieces.flatten ++ body)
  | collected => collected

/-- The size after further pieces, unless it passes the limit on the way. -/
def grow (limit size : Nat) : List Bytes → Option Nat
  | [] => some size
  | piece :: rest =>
      if limit < size + piece.length then none else grow limit (size + piece.length) rest

/-- Collects a body, `size` octets of which have been collected before. -/
def collectFrom (limit size : Nat) (state : Body.State) (buffer : Bytes)
    (segments : List Bytes) : Collected :=
  let drained := Body.drain state buffer
  match grow limit size drained.pieces with
  | none => .tooLarge
  | some size =>
      match drained.stop with
      | .finished => .whole drained.pieces.flatten
      | .failed reason => .malformed reason
      | .needMore =>
          match segments with
          | [] => .cut
          | segment :: more =>
              (collectFrom limit size drained.state (drained.rest ++ segment) more).after
                drained.pieces
termination_by structural segments

/-- Collects a whole body of at most `limit` octets. A length declared beyond the
limit is refused before anything is read. -/
def collect (limit : Nat) (framing : Framing) (buffer : Bytes) (segments : List Bytes) :
    Collected :=
  match framing with
  | .length octets =>
      if limit < octets then .tooLarge
      else collectFrom limit 0 (.ofFraming framing) buffer segments
  | _ => collectFrom limit 0 (.ofFraming framing) buffer segments

end Inbound
end HttpServer
