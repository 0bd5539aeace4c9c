/-! Dates as header lines give them, in the Gregorian calendar and universal time. -/
namespace HttpServer.HttpDate

/-- The days of the week, from the day of 1 January 1970 on. -/
def weekdays : List String := ["Thu", "Fri", "Sat", "Sun", "Mon", "Tue", "Wed"]

def months : List String :=
  ["Jan", "Feb", "Mar", "Apr", "May", "Jun", "Jul", "Aug", "Sep", "Oct", "Nov", "Dec"]

def isLeap (year : Nat) : Bool := year % 4 == 0 && (year % 100 != 0 || year % 400 == 0)

def monthLengths (year : Nat) : List Nat :=
  [31, if isLeap year then 29 else 28, 31, 30, 31, 30, 31, 31, 30, 31, 30, 31]

/-- Days from 1 January of the year 1 to 1 January of a year. -/
def daysBefore (year : Nat) : Nat :=
  let past := year - 1
  past * 365 + past / 4 - past / 100 + past / 400

/-- The year of the day that lies `days` after 1 January of the year 1. Every year has
at most 366 days, so the guess is not too late, and at most a few years too early. -/
def yearOf (days : Nat) : Nat :=
  let guess := days / 366 + 1
  let later := (List.range (days / 366 / 365 + 2)).map (guess + 1 + ·)
  (later.takeWhile fun year => daysBefore year ≤ days).getLast?.getD guess

/-- The month, counted from zero, and the day of the month, counted from one, of a day
of a year. -/
def monthAndDay (day : Nat) : List Nat → Nat × Nat
  | [] => (0, day + 1)
  | length :: rest =>
      if day < length then (0, day + 1)
      else
        let (month, day) := monthAndDay (day - length) rest
        (month + 1, day)

def twoDigits (n : Nat) : String := (if n < 10 then "0" else "") ++ toString n

/-- A date with its time of day, the weekday and the month being counted from zero. -/
def line (weekday day month year hour minute second : Nat) : String :=
  (weekdays[weekday]?).getD "" ++ ", " ++ twoDigits day ++ " " ++ (months[month]?).getD ""
    ++ " " ++ toString year ++ " " ++ twoDigits hour ++ ":" ++ twoDigits minute ++ ":"
    ++ twoDigits second ++ " GMT"

/-- The date of a moment, given in seconds since the beginning of 1970. -/
def ofSeconds (seconds : Nat) : String :=
  let days := seconds / 86400
  let absolute := days + daysBefore 1970
  let year := yearOf absolute
  let date := monthAndDay (absolute - daysBefore year) (monthLengths year)
  line (days % 7) date.2 date.1 year (seconds / 3600 % 24) (seconds / 60 % 60) (seconds % 60)

end HttpServer.HttpDate
