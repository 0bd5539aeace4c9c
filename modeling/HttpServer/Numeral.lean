/-! Reading whole numbers within bounds. A numeral is one or more digits after
an optional sign; `-` counts as a sign only where negative numbers exist. The
digits are read from the left, so the first of two faults is the one reported. -/
namespace HttpServer

namespace Numeral

inductive Fault where
  | empty
  | invalidDigit
  | tooLarge
  | tooSmall
  deriving DecidableEq, Repr

def Fault.message : Fault → String
  | .empty => "cannot parse integer from empty string"
  | .invalidDigit => "invalid digit found in string"
  | .tooLarge => "number too large to fit in target type"
  | .tooSmall => "number too small to fit in target type"

/-- The value of a digit below `radix`; letters of either case follow nine. -/
def digit? (radix : Nat) (c : Char) : Option Nat :=
  let value :=
    if '0' ≤ c && c ≤ '9' then some (c.toNat - '0'.toNat)
    else if 'a' ≤ c && c ≤ 'z' then some (c.toNat - 'a'.toNat + 10)
    else if 'A' ≤ c && c ≤ 'Z' then some (c.toNat - 'A'.toNat + 10)
    else none
  value.filter (· < radix)

/-- Reads digits after the value `read`, reporting `beyond` once the value
exceeds `bound`. -/
def magnitude (radix bound : Nat) (beyond : Fault) (read : Nat) : List Char → Except Fault Nat
  | [] => .ok read
  | c :: rest =>
      match digit? radix c with
      | none => .error .invalidDigit
      | some d =>
          let value := read * radix + d
          if bound < value then .error beyond else magnitude radix bound beyond value rest

/-- Reads a number from 0 to `bound`. -/
def natural (radix bound : Nat) (text : String) : Except Fault Nat :=
  match text.toList with
  | [] => .error .empty
  | ['+'] => .error .invalidDigit
  | '+' :: digits => magnitude radix bound .tooLarge 0 digits
  | digits => magnitude radix bound .tooLarge 0 digits

/-- Reads a decimal number from `-below` to `above`. -/
def integer (below above : Nat) (text : String) : Except Fault Int :=
  match text.toList with
  | [] => .error .empty
  | ['+'] => .error .invalidDigit
  | ['-'] => .error .invalidDigit
  | '-' :: digits => (magnitude 10 below .tooSmall 0 digits).map fun n => -(n : Int)
  | '+' :: digits => (magnitude 10 above .tooLarge 0 digits).map Int.ofNat
  | digits => (magnitude 10 above .tooLarge 0 digits).map Int.ofNat

def max16 : Nat := 65535

def max32 : Nat := 4294967295

def max64 : Nat := 18446744073709551615

/-- The largest signed number of 32 bits; the smallest one lies a step further from zero. -/
def maxSigned32 : Nat := 2147483647

end Numeral
end HttpServer
