import HttpServer.Notice

/-! What to do about an error of input or output. A server that has run out of
descriptors or memory goes on degraded, or ends its process if told so. -/
namespace HttpServer

inductive ErrorClass where
  | shutdown
  | resourceExhausted
  | transport
  deriving DecidableEq, Repr

/-- The class of an error. The number of a numbered error decides alone. -/
def IoError.classify : IoError → ErrorClass
  | .system code =>
      if code = IoError.canceled ∨ code = IoError.badDescriptor then .shutdown
      else if code = IoError.processFilesExhausted ∨ code = IoError.systemFilesExhausted
          ∨ code = IoError.memoryExhausted then .resourceExhausted
      else .transport
  | .simple kind | .described kind _ =>
      if kind = .outOfMemory then .resourceExhausted else .transport

inductive Escalation where
  | ignore
  | log
  | degrade
  | abort
  deriving DecidableEq, Repr

/-- The rule by which errors are taken. -/
structure Guard where
  abortsOnExhaustion : Bool := false
  deriving DecidableEq, Repr

namespace Guard

def assess (guard : Guard) (error : IoError) : Escalation :=
  match error.classify with
  | .shutdown => .ignore
  | .transport => .log
  | .resourceExhausted => if guard.abortsOnExhaustion then .abort else .degrade

def notices (guard : Guard) (context : String) (error : IoError) : List Notice :=
  match guard.assess error with
  | .ignore => []
  | .log => [.failed context error]
  | .degrade => [.failed context error, .exhausted]
  | .abort => [.failed context error, .aborting]

end Guard
end HttpServer
