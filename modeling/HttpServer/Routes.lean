/-! The table of routes. The longest path that begins a target wins, and of equal
paths the one that was added first. -/
namespace HttpServer

universe u

structure Route (α : Type u) where
  path : String
  target : α
  deriving DecidableEq, Repr

/-- Routes under one base, longest path first. -/
structure RouteTable (α : Type u) where
  baseUri : String
  routes : List (Route α) := []
  deriving DecidableEq, Repr

namespace RouteTable

variable {α : Type u}

/-- Puts a route in front of the first shorter one. -/
def place (route : Route α) : List (Route α) → List (Route α)
  | [] => [route]
  | other :: rest =>
      if other.path.utf8ByteSize < route.path.utf8ByteSize then route :: other :: rest
      else other :: place route rest

def add (table : RouteTable α) (path : String) (target : α) : RouteTable α :=
  { table with routes := place ⟨table.baseUri ++ path, target⟩ table.routes }

def covers (route : Route α) (uri : String) : Bool :=
  route.path.toList.isPrefixOf uri.toList

def find? (table : RouteTable α) (uri : String) : Option (Route α) :=
  table.routes.find? (covers · uri)

def size (table : RouteTable α) : Nat := table.routes.length

end RouteTable
end HttpServer
