import Outreach.Number.Double
import Outreach.Text.Blank

set_option autoImplicit false

namespace Outreach.Numeral

def isAsciiDigit (c : Char) : Bool := '0' ≤ c && c ≤ '9'

def value (cs : List Char) : Nat :=
  cs.foldl (fun read c => 10 * read + (c.toNat - '0'.toNat)) 0

def digits (cs : List Char) : List Char × List Char := cs.span isAsciiDigit

def sign : List Char → Bool × List Char
  | '-' :: rest => (true, rest)
  | '+' :: rest => (false, rest)
  | cs => (false, cs)

def fraction : List Char → List Char × List Char
  | '.' :: rest => digits rest
  | cs => ([], cs)

def exponent? : List Char → Option Int
  | [] => some 0
  | mark :: rest =>
    if mark = 'e' ∨ mark = 'E' then
      let (negative, rest) := sign rest
      let (power, rest) := digits rest
      if power.isEmpty || !rest.isEmpty then none
      else some (if negative then -(value power : Int) else value power)
    else none

def decimal? (negative : Bool) (cs : List Char) : Option Double :=
  let (whole, rest) := digits cs
  let (part, rest) := fraction rest
  if whole.isEmpty && part.isEmpty then none
  else (exponent? rest).map fun power =>
    Double.ofDecimal negative (value (whole ++ part)) (power - part.length)

def double? (cs : List Char) : Option Double :=
  let (negative, rest) := sign cs
  let word := rest.map Char.toLower
  if word = "nan".toList then some (.nan 0)
  else if word = "inf".toList ∨ word = "infinity".toList then some (.infinite negative)
  else decimal? negative rest

def spaced : List Char → Bool
  | '_' :: '_' :: _ => false
  | _ :: rest => spaced rest
  | [] => true

def ungrouped? (cs : List Char) : Option (List Char) :=
  if cs.contains '_' && cs.head? != some '_' && cs.getLast? != some '_' && spaced cs then
    some (cs.filter (· != '_'))
  else none

def read? (s : String) : Option Double :=
  match double? (Text.trimBy Text.isSpace s.toList) with
  | some d => some d
  | none => (ungrouped? s.toList).bind double?

def dropZeros (previous : Char) : List Char → Option (List Char)
  | [] => some [previous]
  | c :: rest =>
    if c = '0' ∨ c = '_' then dropZeros c rest
    else if c = '-' ∨ ('1' ≤ c ∧ c ≤ '9') then some (c :: rest)
    else if c = '.' then some (previous :: c :: rest)
    else none

def leading? : List Char → Option (List Char)
  | [] => none
  | c :: rest =>
    if c = '0' then dropZeros c rest
    else if '1' ≤ c ∧ c ≤ '9' then some (c :: rest)
    else none

def dropPoint (cs : List Char) : List Char :=
  let (whole, rest) := cs.span (· != '.')
  match rest with
  | _ :: zero :: zeros => if (zero :: zeros).all (· == '0') then whole else cs
  | _ => cs

inductive WholeFault where
  | malformed
  | tooLong
  deriving DecidableEq, Repr

def wholeLimit : Nat := 4300

-- Nothing but digits after an optional minus sign, and no zero in front of another digit. That a
-- row of digits is too long is seen before what follows it.
def plainWhole (cs : List Char) : Except WholeFault Int :=
  let (negative, body) := match cs with
    | '-' :: rest => (true, rest)
    | cs => (false, cs)
  match digits body with
  | (['0'], []) => .ok 0
  | ('0' :: _, _) | ([], _) => .error .malformed
  | (row, rest) =>
    if wholeLimit < row.length + (if negative then 1 else 0) then .error .tooLong
    else if !rest.isEmpty then .error .malformed
    else .ok (if negative then -(value row : Int) else value row)

def simplified? (cs : List Char) : Option (List Char) :=
  let trimmed := Text.trimBy Text.isSpace cs
  let unsigned := match trimmed with
    | '+' :: '-' :: _ => none
    | '+' :: rest => some (false, rest)
    | '-' :: rest => some (true, rest)
    | rest => some (false, rest)
  unsigned.bind fun (negative, rest) => (leading? rest).map fun rest =>
    -- The fraction goes first, so an underscore in it spoils the number.
    let rest := dropPoint rest
    let rest := (ungrouped? rest).getD rest
    if negative then '-' :: rest else rest

def whole (s : String) : Except WholeFault Int :=
  match plainWhole s.toList with
  | .ok n => .ok n
  | .error .tooLong => .error .tooLong
  | .error .malformed =>
    match (simplified? s.toList).map plainWhole with
    | some (.ok n) => .ok n
    | _ => .error .malformed

end Outreach.Numeral
