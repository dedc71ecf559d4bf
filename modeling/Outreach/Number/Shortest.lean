import Outreach.Number.Double

set_option autoImplicit false

namespace Outreach

structure DecimalLayout where
  least : Int
  most : Int
  exponentWidth : Nat

structure Decimal where
  digits : List Char
  exponent : Int

namespace Double

def leadingExponent (num den : Nat) : Int :=
  if den ≤ num then ((Nat.toDigits 10 (num / den)).length : Int) - 1
  else
    let places := (Nat.toDigits 10 (den / num)).length - 1
    if den = num * powerOfTen places then -(places : Int) else -((places : Int) + 1)

def gridStep (exponent : Int) : Nat × Nat :=
  if 0 ≤ exponent then (powerOfTen exponent.toNat, 1) else (1, powerOfTen (-exponent).toNat)

-- Four times the units between which everything rounds to `significand` · 2^`shift`. Below a power
-- of two the numbers lie twice as close.
def bounds (significand shift : Nat) : Nat × Nat :=
  let low :=
    if significand = powerOfTwo 52 ∧ 0 < shift then 4 * significand - 1
    else 4 * significand - 2
  (low * powerOfTwo shift, (4 * significand + 2) * powerOfTwo shift)

def readsBack (significand shift count : Nat) (place : Int) : Bool :=
  let (num, den) := gridStep place
  let point := 4 * count * num * one
  let (low, high) := bounds significand shift
  if significand % 2 = 0 then decide (low * den ≤ point) && decide (point ≤ high * den)
  else decide (low * den < point) && decide (point < high * den)

def onGrid? (significand shift : Nat) (place : Int) : Option Nat :=
  let (num, den) := gridStep place
  let value := significand * powerOfTwo shift * den
  let step := num * one
  let under := value / step
  let rest := value % step
  let low := readsBack significand shift under place
  let high := readsBack significand shift (under + 1) place
  -- Of two that read back the nearer one counts, of two as near the even one.
  if low && high then
    if 2 * rest < step then some under
    else if step < 2 * rest then some (under + 1)
    else some (under + under % 2)
  else if low then some under
  else if high then some (under + 1)
  else none

def shortestFrom (significand shift : Nat) (leading : Int) : Nat → Nat → Nat × Int
  | 0, width => (significand * powerOfTwo shift / one, (width : Int))
  | fuel + 1, width =>
    let place := leading - width
    match onGrid? significand shift place with
    | some count => (count, place)
    | none => shortestFrom significand shift leading fuel (width + 1)

def decimal (significand shift : Nat) : Decimal :=
  if significand = 0 then { digits := ['0'], exponent := 0 }
  else
    let (count, place) :=
      shortestFrom significand shift (leadingExponent (significand * powerOfTwo shift) one) 17 0
    let digits := Nat.toDigits 10 count
    let kept := (digits.reverse.dropWhile (· == '0')).reverse
    { digits := kept, exponent := place + (digits.length : Int) - 1 }

end Double

namespace Decimal

def fill (width : Nat) (digits : List Char) : List Char :=
  List.replicate (width - digits.length) '0' ++ digits

def positional (d : Decimal) : List Char :=
  if d.exponent < 0 then
    '0' :: '.' :: List.replicate (-d.exponent - 1).toNat '0' ++ d.digits
  else
    let whole := d.exponent.toNat + 1
    if d.digits.length ≤ whole then
      d.digits ++ List.replicate (whole - d.digits.length) '0' ++ ['.', '0']
    else d.digits.take whole ++ '.' :: d.digits.drop whole

def scientific (width : Nat) (d : Decimal) : List Char :=
  let mantissa := match d.digits with
    | [] => []
    | [digit] => [digit]
    | digit :: rest => digit :: '.' :: rest
  let sign := if d.exponent < 0 then '-' else '+'
  mantissa ++ 'e' :: sign :: fill width (Nat.toDigits 10 d.exponent.natAbs)

def layOut (layout : DecimalLayout) (d : Decimal) : List Char :=
  if layout.least ≤ d.exponent ∧ d.exponent ≤ layout.most then d.positional
  else d.scientific layout.exponentWidth

end Decimal

def DecimalLayout.plain : DecimalLayout := { least := -4, most := 15, exponentWidth := 2 }

namespace Double

def text : Double → String
  | .nan _ => "nan"
  | .infinite true => "-inf"
  | .infinite false => "inf"
  | .finite negative significand shift =>
    let body := (decimal significand shift).layOut .plain
    String.ofList (if negative then '-' :: body else body)

end Double

end Outreach
