import HttpServer.Errors
import HttpServer.Text.Unicode

/-! What the server reports of its own accord: warnings and errors in the order
in which they arise. -/
namespace HttpServer

inductive Callback where
  | requestFilter
  | handler
  | blockingHandler
  | notFoundHandler
  | uploadHandler
  | uploadSink
  | responseFilter
  deriving DecidableEq, Repr

def Callback.name : Callback → String
  | .requestFilter => "request filter"
  | .handler => "handler"
  | .blockingHandler => "blocking handler"
  | .notFoundHandler => "not-found handler"
  | .uploadHandler => "upload handler"
  | .uploadSink => "upload sink"
  | .responseFilter => "response filter"

inductive Level where
  | warning
  | error
  deriving DecidableEq, Repr

inductive Notice where
  | panicked (callback : Callback) (uri : String)
  | headerDropped (name : String)
  | commandPanicked
  | failed (context : String) (error : IoError)
  | exhausted
  | aborting
  deriving DecidableEq, Repr

namespace Notice

def level : Notice → Level
  | .headerDropped _ | .exhausted => .warning
  | _ => .error

def message : Notice → String
  | .panicked callback _ => callback.name ++ " panicked"
  | .headerDropped _ => "dropping response header with forbidden characters"
  | .commandPanicked => "scheduled command panicked; removing it"
  | .failed context error => context ++ ": " ++ error.message
  | .exhausted => "resource exhaustion error occurred (continuing to run)"
  | .aborting => "(ABORTING SERVER): resource exhaustion"

def details : Notice → List (String × String)
  | .panicked _ uri => [("uri", uri)]
  | .headerDropped name => [("header", Text.quoted name)]
  | _ => []

end Notice
end HttpServer
