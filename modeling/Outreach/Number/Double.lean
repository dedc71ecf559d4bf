set_option autoImplicit false

namespace Outreach

-- A binary64 number; `finite negative significand shift` is ±`significand` · 2^`shift` units. What
-- is no number carries a mark, by which it can be told from others of its kind that were given on
-- their own; all that is read from data has the mark zero.
inductive Double where
  | nan (mark : Nat)
  | infinite (negative : Bool)
  | finite (negative : Bool) (significand shift : Nat)
  deriving DecidableEq, Repr

namespace Double

def powerOfTwo (exponent : Nat) : Nat := Nat.pow 2 exponent

def powerOfTen (exponent : Nat) : Nat := Nat.pow 10 exponent

def one : Nat := powerOfTwo 1074

end Double

inductive Extent where
  | undefined
  | below
  | exact (units : Int)
  | above
  deriving DecidableEq, Repr

namespace Extent

def equal : Extent → Extent → Bool
  | .below, .below => true
  | .above, .above => true
  | .exact a, .exact b => a == b
  | _, _ => false

def less : Extent → Extent → Bool
  | .below, .exact _ => true
  | .below, .above => true
  | .exact _, .above => true
  | .exact a, .exact b => decide (a < b)
  | _, _ => false

def ofInt (n : Int) : Extent := .exact (n * Double.one)

end Extent

namespace Double

def roundDiv (num den : Nat) : Nat :=
  let quotient := num / den
  let rest := num % den
  if 2 * rest < den then quotient
  else if den < 2 * rest then quotient + 1
  else quotient + quotient % 2

def ofRatio (negative : Bool) (num den : Nat) : Double :=
  let units := num * one
  let shift := (units / den).log2 - 52
  let significand := roundDiv units (den * powerOfTwo shift)
  -- Rounding up can take one more place than the quotient had.
  let carried := decide (significand = powerOfTwo 53)
  let significand := if carried then powerOfTwo 52 else significand
  let shift := if carried then shift + 1 else shift
  if 2045 < shift then .infinite negative else .finite negative significand shift

def ofInt (n : Int) : Double := ofRatio (decide (n < 0)) n.natAbs 1

-- The number nearest to ±`digits` · 10^`exponent`. Far outside the range of finite numbers the
-- power of ten is not computed.
def ofDecimal (negative : Bool) (digits : Nat) (exponent : Int) : Double :=
  let magnitude := exponent + (Nat.toDigits 10 digits).length
  if digits = 0 ∨ magnitude < -400 then .finite negative 0 0
  else if 400 < magnitude then .infinite negative
  else if 0 ≤ exponent then ofRatio negative (digits * powerOfTen exponent.toNat) 1
  else ofRatio negative digits (powerOfTen (-exponent).toNat)

def zero : Double := .finite false 0 0

def isNan : Double → Bool
  | .nan _ => true
  | _ => false

def isFinite : Double → Bool
  | .finite .. => true
  | _ => false

def isZero : Double → Bool
  | .finite _ significand _ => significand == 0
  | _ => false

def extent : Double → Extent
  | .nan _ => .undefined
  | .infinite true => .below
  | .infinite false => .above
  | .finite true significand shift => .exact (-(significand * powerOfTwo shift : Nat))
  | .finite false significand shift => .exact (significand * powerOfTwo shift : Nat)

def equal (a b : Double) : Bool := a.extent.equal b.extent

def same : Double → Double → Bool
  | .nan mark, .nan other => mark == other
  | a, b => a.equal b

def truncate? : Double → Option Int
  | .finite negative significand shift =>
    let whole := significand * powerOfTwo shift / one
    some (if negative then -(whole : Int) else whole)
  | _ => none

end Double

end Outreach
