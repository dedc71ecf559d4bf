set_option autoImplicit false

namespace Outreach.Clock

def isLeap (year : Nat) : Bool := year % 4 == 0 && (year % 100 != 0 || year % 400 == 0)

def monthLengths (leap : Bool) : List Nat :=
  [31, if leap then 29 else 28, 31, 30, 31, 30, 31, 31, 30, 31, 30, 31]

def monthDay : Nat → Nat → List Nat → Nat × Nat
  | month, days, length :: rest =>
    if days < length then (month, days + 1) else monthDay (month + 1) (days - length) rest
  | month, days, [] => (month, days + 1)

def date : Nat → Nat → Nat → Nat × Nat × Nat
  | 0, year, days => (year, 1, days + 1)
  | fuel + 1, year, days =>
    let leap := isLeap year
    let length := if leap then 366 else 365
    if days < length then (year, monthDay 1 days (monthLengths leap))
    else date fuel (year + 1) (days - length)

def padded (width n : Nat) : String :=
  let digits := Nat.toDigits 10 n
  String.ofList (List.replicate (width - digits.length) '0' ++ digits)

def text (zone : String) (seconds : Nat) : String :=
  let days := seconds / 86400
  let (year, month, day) := date days 2024 days
  padded 4 year ++ "-" ++ padded 2 month ++ "-" ++ padded 2 day ++ "T" ++
    padded 2 (seconds / 3600 % 24) ++ ":" ++ padded 2 (seconds / 60 % 60) ++ ":" ++
    padded 2 (seconds % 60) ++ zone

end Outreach.Clock
