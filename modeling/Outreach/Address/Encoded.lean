set_option autoImplicit false

namespace Outreach.Address.Encoded

def digit? (c : Char) : Option Nat :=
  if 'a' ≤ c ∧ c ≤ 'z' then some (c.toNat - 'a'.toNat)
  else if '0' ≤ c ∧ c ≤ '9' then some (c.toNat - '0'.toNat + 26)
  else none

def digit (value : Nat) : Char :=
  if value < 26 then Char.ofNat ('a'.toNat + value) else Char.ofNat ('0'.toNat + (value - 26))

def threshold (step bias : Nat) : Nat := max 1 (min 26 (step - bias))

def number? (bias : Nat) : List Char → Nat → Nat → Nat → Option (Nat × List Char)
  | [], _, _, _ => none
  | c :: rest, step, weight, sum =>
    (digit? c).bind fun digit =>
      let sum := sum + digit * weight
      let threshold := threshold step bias
      if digit < threshold then some (sum, rest)
      else number? bias rest (step + 36) (weight * (36 - threshold)) sum

def reduce (delta steps : Nat) : Nat × Nat :=
  if 455 < delta then reduce (delta / 35) (steps + 36) else (delta, steps)
  termination_by delta
  decreasing_by exact Nat.div_lt_self (by omega) (by omega)

def adapt (delta count : Nat) (first : Bool) : Nat :=
  let delta := if first then delta / 700 else delta / 2
  let (delta, steps) := reduce (delta + delta / count) 0
  steps + 36 * delta / (delta + 38)

structure Placing where
  label : List Nat
  point : Nat
  place : Nat
  bias : Nat

-- Puts in all characters that the rest encodes. A number counts places round and round the label,
-- one code point further each time; each takes at least one character of the rest.
def fill? : Nat → Bool → Placing → List Char → Option (List Nat)
  | _, _, placing, [] => some placing.label
  | 0, _, _, _ => none
  | fuel + 1, first, placing, cs =>
    (number? placing.bias cs 36 1 0).bind fun (delta, rest) =>
      let count := placing.label.length + 1
      let point := placing.point + (placing.place + delta) / count
      let place := (placing.place + delta) % count
      if 0x10FFFF < point then none
      else
        let label := placing.label.take place ++ point :: placing.label.drop place
        fill? fuel false { label, point, place := place + 1, bias := adapt delta count first } rest

def parts (cs : List Char) : List Char × List Char :=
  let (rest, base) := cs.reverse.span (· != '-')
  (base.tail.reverse, rest.reverse)

def decode? (cs : List Char) : Option (List Nat) :=
  let (base, rest) := parts cs
  fill? rest.length true { label := base.map Char.toNat, point := 128, place := 0, bias := 72 } rest

def number (step bias value : Nat) : List Char :=
  let threshold := threshold step bias
  if value < threshold ∨ value = 0 then [digit value]
  else
    digit (threshold + (value - threshold) % (36 - threshold)) ::
      number (step + 36) bias ((value - threshold) / (36 - threshold))
  termination_by value
  decreasing_by
    have : 1 ≤ Encoded.threshold step bias := Nat.le_max_left ..
    exact Nat.lt_of_le_of_lt (Nat.div_le_self ..) (by omega)

structure Writing where
  delta : Nat
  bias : Nat
  count : Nat
  first : Bool
  digits : List Char

def Writing.pass (point : Nat) (writing : Writing) (c : Nat) : Writing :=
  if c < point then { writing with delta := writing.delta + 1 }
  else if c = point then
    { delta := 0
      bias := adapt writing.delta (writing.count + 1) writing.first
      count := writing.count + 1
      first := false
      digits := writing.digits ++ number 36 writing.bias writing.delta }
  else writing

def writePoints (label : List Nat) : Nat → List Nat → Writing → List Char
  | _, [], writing => writing.digits
  | last, point :: rest, writing =>
    let reached := { writing with delta := writing.delta + (point - last) * (writing.count + 1) }
    let passed := label.foldl (Writing.pass point) reached
    writePoints label (point + 1) rest { passed with delta := passed.delta + 1 }

def encode (label : List Char) : List Char :=
  let points := label.map Char.toNat
  let base := label.filter (·.toNat < 128)
  let others := ((points.filter (128 ≤ ·)).mergeSort (· ≤ ·)).eraseDups
  let digits := writePoints points 128 others
    { delta := 0, bias := 72, count := base.length, first := true, digits := [] }
  if base.isEmpty then digits else base ++ '-' :: digits

end Outreach.Address.Encoded
