/-! Spans of time to the nanosecond, and their text in the largest unit that
leaves a whole part. -/
namespace HttpServer

/-- A span of time in nanoseconds. -/
structure Duration where
  nanoseconds : Nat
  deriving DecidableEq, Repr

namespace Duration

def microsecond : Nat := 1000

def millisecond : Nat := 1000000

def second : Nat := 1000000000

def ofParts (seconds nanoseconds : Nat) : Duration := ⟨seconds * second + nanoseconds⟩

def ofMilliseconds (milliseconds : Nat) : Duration := ⟨milliseconds * millisecond⟩

def milliseconds (duration : Duration) : Nat := duration.nanoseconds / millisecond

/-- So many tenths, hundredths and so on, to the given number of places, as the digits
after a point; zeros at the end are left out, and the point too if no digit is left. -/
def fraction (places count : Nat) : String :=
  let digits := (Nat.toDigits 10 count).reverse
  let padded := (digits ++ List.replicate (places - digits.length) '0').dropWhile (· == '0')
  if padded.isEmpty then "" else "." ++ String.ofList padded.reverse

/-- A span in a unit of `size` nanoseconds, which is a one with `places` zeros. -/
def inUnit (size places : Nat) (name : String) (duration : Duration) : String :=
  toString (duration.nanoseconds / size) ++ fraction places (duration.nanoseconds % size) ++ name

def text (duration : Duration) : String :=
  if second ≤ duration.nanoseconds then duration.inUnit second 9 "s"
  else if millisecond ≤ duration.nanoseconds then duration.inUnit millisecond 6 "ms"
  else if microsecond ≤ duration.nanoseconds then duration.inUnit microsecond 3 "µs"
  else duration.inUnit 1 0 "ns"

end Duration
end HttpServer
