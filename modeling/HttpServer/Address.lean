import HttpServer.Numeral

/-! Internet addresses and their texts. Version 4 has four decimal numbers,
version 6 eight hexadecimal groups of which one run of zeros may be left out. -/
namespace HttpServer

/-- An address of version 4 by its octets, or of version 6 by its groups. -/
inductive Address where
  | v4 (octets : Vector UInt8 4)
  | v6 (groups : Vector UInt16 8)
  deriving DecidableEq, Repr

/-- An address and a port. One of version 6 also tells the scope in which its address is
meant; zero stands for none in particular. -/
inductive Endpoint where
  | v4 (octets : Vector UInt8 4) (port : UInt16)
  | v6 (groups : Vector UInt16 8) (scope : UInt32) (port : UInt16)
  deriving DecidableEq, Repr

namespace Address

/-- A reader takes its value from the front of a text, or takes nothing. -/
abbrev Reader (α : Type) := List Char → Option (α × List Char)

def mark (c : Char) : Reader Unit
  | [] => none
  | d :: rest => if c = d then some ((), rest) else none

/-- Reads as many digits as there are. -/
def digits (radix : Nat) (text : List Char) : List Char × List Char :=
  text.span fun c => (Numeral.digit? radix c).isSome

def value (radix : Nat) (chars : List Char) : Nat :=
  chars.foldl (fun n c => n * radix + (Numeral.digit? radix c).getD 0) 0

/-- Reads one octet: up to three digits without a leading zero. -/
def octet : Reader UInt8 := fun text =>
  let (found, rest) := digits 10 text
  if found.isEmpty || 3 < found.length || (found.head? == some '0' && 1 < found.length)
      || 255 < value 10 found then none
  else some ((value 10 found).toUInt8, rest)

/-- Reads four octets with points between. -/
def readV4 : Reader (Vector UInt8 4) := fun text => do
  let (a, text) ← octet text
  let (_, text) ← mark '.' text
  let (b, text) ← octet text
  let (_, text) ← mark '.' text
  let (c, text) ← octet text
  let (_, text) ← mark '.' text
  let (d, text) ← octet text
  return (#v[a, b, c, d], text)

/-- Reads one group: up to four hexadecimal digits. -/
def group : Reader UInt16 := fun text =>
  let (found, rest) := digits 16 text
  if found.isEmpty || 4 < found.length then none else some ((value 16 found).toUInt16, rest)

def joined (high low : UInt8) : UInt16 := high.toUInt16 * 256 + low.toUInt16

/-- What a run of groups gave: the groups, whether the last two were written as an
address of version 4, and what follows. -/
structure Groups where
  groups : List UInt16
  dotted : Bool
  rest : List Char

/-- Reads at most `room` groups with colons between; an address of version 4 may
stand for the last two. `started` tells whether a group came before. -/
def readGroups : Nat → Bool → List Char → Groups
  | 0, _, text => ⟨[], false, text⟩
  | room + 1, started, text =>
      match if started then (mark ':' text).map (·.2) else some text with
      | none => ⟨[], false, text⟩
      | some next =>
          match if 0 < room then readV4 next else none with
          | some (octets, rest) =>
              ⟨[joined octets[0] octets[1], joined octets[2] octets[3]], true, rest⟩
          | none =>
              match group next with
              | none => ⟨[], false, text⟩
              | some (g, rest) =>
                  let more := readGroups room true rest
                  { more with groups := g :: more.groups }

/-- Eight groups, zeros filling the place between `front` and `back`. -/
def filled (front back : List UInt16) : Option (Vector UInt16 8) :=
  let all := front ++ List.replicate (8 - front.length - back.length) 0 ++ back
  if h : all.toArray.size = 8 then some ⟨all.toArray, h⟩ else none

/-- Reads eight groups, or fewer around a double colon that stands for at least one
group of zeros. -/
def readV6 : Reader (Vector UInt16 8) := fun text => do
  let front := readGroups 8 false text
  if front.groups.length = 8 then
    return (← filled front.groups [], front.rest)
  else if front.dotted then none
  else do
    let (_, next) ← mark ':' front.rest
    let (_, next) ← mark ':' next
    let back := readGroups (7 - front.groups.length) false next
    return (← filled front.groups back.groups, back.rest)

def whole {α : Type} (reader : Reader α) (text : String) : Option α :=
  match reader text.toList with
  | some (value, []) => some value
  | _ => none

def ofText? (text : String) : Option Address :=
  ((whole readV4 text).map .v4).or ((whole readV6 text).map .v6)

def v4Text (octets : Vector UInt8 4) : String :=
  ".".intercalate (octets.toList.map fun octet => toString octet.toNat)

def groupsText (groups : List UInt16) : String :=
  ":".intercalate (groups.map fun group => String.ofList (Nat.toDigits 16 group.toNat))

/-- The first longest run of zero groups, as its start and its length. `position` counts
the groups passed, `run` the zeros just before them. -/
def zeroRun (position run : Nat) (best : Nat × Nat) : List UInt16 → Nat × Nat
  | [] => best
  | 0 :: rest =>
      let best := if best.2 < run + 1 then (position - run, run + 1) else best
      zeroRun (position + 1) (run + 1) best rest
  | _ :: rest => zeroRun (position + 1) 0 best rest

/-- The text of an address of version 6: a run of two or more zero groups becomes a
double colon, and an address that embeds one of version 4 shows it. -/
def v6Text (groups : Vector UInt16 8) : String :=
  match groups.toList with
  | [0, 0, 0, 0, 0, 0xffff, high, low] =>
      "::ffff:" ++ v4Text #v[(high / 256).toUInt8, high.toUInt8, (low / 256).toUInt8, low.toUInt8]
  | list =>
      let (start, size) := zeroRun 0 0 (0, 0) list
      if 1 < size then groupsText (list.take start) ++ "::" ++ groupsText (list.drop (start + size))
      else groupsText list

def text : Address → String
  | .v4 octets => v4Text octets
  | .v6 groups => v6Text groups

end Address

namespace Endpoint

/-- A port of an address, in no particular scope. -/
def ofAddress (address : Address) (port : UInt16) : Endpoint :=
  match address with
  | .v4 octets => .v4 octets port
  | .v6 groups => .v6 groups 0 port

def address : Endpoint → Address
  | .v4 octets _ => .v4 octets
  | .v6 groups _ _ => .v6 groups

/-- Reads a decimal number up to `bound`. -/
def readNumber (bound : Nat) : Address.Reader Nat := fun text =>
  let (found, rest) := Address.digits 10 text
  if found.isEmpty || bound < Address.value 10 found then none
  else some (Address.value 10 found, rest)

def readPort : Address.Reader UInt16 := fun text => do
  let (_, text) ← Address.mark ':' text
  let (port, text) ← readNumber Numeral.max16 text
  return (port.toUInt16, text)

def readScope : Address.Reader UInt32 := fun text => do
  let (_, text) ← Address.mark '%' text
  let (scope, text) ← readNumber Numeral.max32 text
  return (scope.toUInt32, text)

def readV4 : Address.Reader Endpoint := fun text => do
  let (octets, text) ← Address.readV4 text
  let (port, text) ← readPort text
  return (.v4 octets port, text)

/-- Reads an address of version 6 in brackets, where a scope may follow it, and a port. -/
def readV6 : Address.Reader Endpoint := fun text => do
  let (_, text) ← Address.mark '[' text
  let (groups, text) ← Address.readV6 text
  let (scope, text) := (readScope text).getD (0, text)
  let (_, text) ← Address.mark ']' text
  let (port, text) ← readPort text
  return (.v6 groups scope port, text)

def ofText? (text : String) : Option Endpoint :=
  (Address.whole readV4 text).or (Address.whole readV6 text)

/-- The text of a scope, which is left out if it is zero. -/
def scopeText (scope : UInt32) : String := if scope = 0 then "" else "%" ++ toString scope.toNat

/-- The text of an endpoint; brackets keep an address of version 6 apart from the
port. -/
def text : Endpoint → String
  | .v4 octets port => Address.v4Text octets ++ ":" ++ toString port.toNat
  | .v6 groups scope port =>
      "[" ++ Address.v6Text groups ++ scopeText scope ++ "]:" ++ toString port.toNat

end Endpoint
end HttpServer
