import HttpServer.Bytes
import HttpServer.Errors

/-! The writing side of a connection: octets are written, then flushed, then the
connection is closed. A failure to close is of no consequence. -/
namespace HttpServer

/-- How a client takes octets: at most `maxWrite` at a time, failing once so many are
out, or failing to flush or to close. -/
structure Outbound where
  maxWrite : Option Nat := none
  writeFailure : Option (Nat × IoError) := none
  flushFailure : Option IoError := none
  closeFailure : Option IoError := none
  deriving DecidableEq, Repr

/-- What became of octets: those that went out, whether the connection was closed, and
the error that prevented it. -/
structure Delivery where
  written : Bytes
  closed : Bool
  error : Option IoError
  deriving DecidableEq, Repr

namespace Outbound

/-- The error that keeps `size` octets from going out, and how many go out before. -/
def obstacle (outbound : Outbound) (size : Nat) : Option (Nat × IoError) :=
  match outbound.writeFailure with
  | some (0, error) => if size = 0 then none else some (0, error)
  | failure =>
      if outbound.maxWrite = some 0 ∧ size ≠ 0 then some (0, .simple .writeZero)
      else failure.filter (·.1 < size)

def deliver (outbound : Outbound) (octets : Bytes) : Delivery :=
  match outbound.obstacle octets.length with
  | some (count, error) => ⟨octets.take count, false, some error⟩
  | none =>
      match outbound.flushFailure with
      | some error => ⟨octets, false, some error⟩
      | none => ⟨octets, true, none⟩

end Outbound
end HttpServer
