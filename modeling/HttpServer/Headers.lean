import HttpServer.Text.Ascii

/-! Header fields in order. Names are compared without regard to ASCII letter
case, and every name may occur several times. -/
namespace HttpServer

structure Field where
  name : String
  value : String
  deriving DecidableEq, Repr

def Field.isNamed (field : Field) (name : String) : Bool := Text.sameName field.name name

/-- The fields of a message in their stored order. -/
structure Headers where
  fields : List Field := []
  deriving DecidableEq, Repr

namespace Headers

def getAll (headers : Headers) (name : String) : List String :=
  (headers.fields.filter (·.isNamed name)).map (·.value)

def get? (headers : Headers) (name : String) : Option String :=
  (headers.fields.find? (·.isNamed name)).map (·.value)

def contains (headers : Headers) (name : String) : Bool := (headers.get? name).isSome

/-- Adds a field at the end, whatever is there under its name. -/
def append (headers : Headers) (name value : String) : Headers :=
  ⟨headers.fields ++ [⟨name, value⟩]⟩

/-- Gives the first field of that name the value and drops the later ones; a
new name goes to the end. -/
def put (name value : String) : List Field → List Field
  | [] => [⟨name, value⟩]
  | field :: rest =>
      if field.isNamed name then ⟨field.name, value⟩ :: rest.filter (!·.isNamed name)
      else field :: put name value rest

/-- Makes `value` the only value under `name`, at the place and in the spelling
of the first field of that name. -/
def insert (headers : Headers) (name value : String) : Headers :=
  ⟨put name value headers.fields⟩

def remove (headers : Headers) (name : String) : Headers :=
  ⟨headers.fields.filter (!·.isNamed name)⟩

def size (headers : Headers) : Nat := headers.fields.length

def isEmpty (headers : Headers) : Bool := headers.fields.isEmpty

end Headers
end HttpServer
