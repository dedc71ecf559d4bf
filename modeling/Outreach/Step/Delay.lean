import Outreach.Failure
import Outreach.Text.Blank
import Outreach.Text.Digit

set_option autoImplicit false

namespace Outreach.Delay

structure Bound where
  key : String
  least : Int
  most : Int

def bounds : List Bound :=
  [⟨"delayDays", 0, 365⟩, ⟨"delayHours", 0, 23⟩, ⟨"delayMinutes", 0, 59⟩]

def Bound.allows (bound : Bound) (amount : Int) : Bool :=
  bound.least ≤ amount && amount ≤ bound.most

def sign : List Char → Bool × List Char
  | '-' :: rest => (true, rest)
  | '+' :: rest => (false, rest)
  | cs => (false, cs)

def leadingInt (cs : List Char) : Except Failure Int :=
  let (negative, rest) := sign (cs.dropWhile Text.isBlank)
  let digits := rest.takeWhile Text.isDigit
  if Text.numeralLimit < digits.length then .error (.defect .numeralTooLong)
  else .ok (if negative then -(Text.numeral digits : Int) else Text.numeral digits)

def amount : Value → Except Failure Int
  | .int n => .ok n
  | .double d => .ok (d.truncate?.getD 0)
  | .str s => leadingInt s.toList
  | _ => .ok 0

def amounts (config : Fields) : Except Failure (List (Bound × Int)) :=
  bounds.mapM fun bound => do
    return (bound, ← amount (config.getD bound.key))

def missingOf (amounts : List (Bound × Int)) : List String :=
  let outside := amounts.filter fun (bound, amount) => !bound.allows amount
  if !outside.isEmpty then outside.map (·.1.key)
  else if amounts.any fun (_, amount) => 0 < amount then []
  else amounts.map (·.1.key)

def missing (config : Fields) : Except Failure (List String) :=
  (amounts config).map missingOf

def valid (config : Fields) : Except Failure Bool := (missing config).map (·.isEmpty)

end Outreach.Delay
