import HttpServer.Bytes

/-! Reading octets as UTF-8 with U+FFFD in place of what is not UTF-8: each
longest run that begins a character but does not complete it, and each octet
that begins none, gives one U+FFFD. -/
namespace HttpServer.Text

/-- A character under way: the bounds of the octets still to come, in order,
and the value read so far. -/
structure Partial where
  bounds : List (UInt8 × UInt8)
  value : Nat

/-- The octets `80` to `BF`, which continue a character. -/
def continuation : UInt8 × UInt8 := (0x80, 0xbf)

/-- What a leading octet from `C2` to `F4` announces. -/
def announced (lead : UInt8) : Option Partial :=
  if 0xc2 ≤ lead && lead ≤ 0xdf then some ⟨[continuation], lead.toNat - 0xc0⟩
  else if lead == 0xe0 then some ⟨[(0xa0, 0xbf), continuation], 0⟩
  else if lead == 0xed then some ⟨[(0x80, 0x9f), continuation], 13⟩
  else if 0xe1 ≤ lead && lead ≤ 0xef then
    some ⟨[continuation, continuation], lead.toNat - 0xe0⟩
  else if lead == 0xf0 then some ⟨[(0x90, 0xbf), continuation, continuation], 0⟩
  else if 0xf1 ≤ lead && lead ≤ 0xf3 then
    some ⟨[continuation, continuation, continuation], lead.toNat - 0xf0⟩
  else if lead == 0xf4 then some ⟨[(0x80, 0x8f), continuation, continuation], 4⟩
  else none

def replacement : Char := '\ufffd'

/-- Begins a character at octet `b`; `done` holds the characters read, last first. -/
def begin (b : UInt8) (done : List Char) : Option Partial × List Char :=
  if b < 0x80 then (none, Char.ofNat b.toNat :: done)
  else match announced b with
    | some started => (some started, done)
    | none => (none, replacement :: done)

def advance (b : UInt8) : Option Partial × List Char → Option Partial × List Char
  | (none, done) => begin b done
  | (some ⟨[], value⟩, done) => begin b (Char.ofNat value :: done)
  | (some ⟨(low, high) :: bounds, value⟩, done) =>
      if low ≤ b && b ≤ high then
        let value := value * 64 + (b.toNat - 0x80)
        if bounds.isEmpty then (none, Char.ofNat value :: done)
        else (some ⟨bounds, value⟩, done)
      else begin b (replacement :: done)

/-- The text of octets, U+FFFD standing for what is not UTF-8. -/
def decodeLossy (bytes : Bytes) : String :=
  let (pending, done) := bytes.foldl (fun state b => advance b state) (none, [])
  String.ofList (if pending.isSome then replacement :: done else done).reverse

end HttpServer.Text
