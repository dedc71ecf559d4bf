set_option autoImplicit false

namespace Outreach.Text

def isHighUnit (unit : Nat) : Bool := 0xD800 ≤ unit && unit < 0xDC00

def isLowUnit (unit : Nat) : Bool := 0xDC00 ≤ unit && unit < 0xE000

def isHalf (unit : Nat) : Bool := isHighUnit unit || isLowUnit unit

def joined (high low : Nat) : Nat := 0x10000 + (high - 0xD800) * 0x400 + (low - 0xDC00)

-- Half of a surrogate pair can stand in a text but is no character. It is kept as two characters, a
-- mark and a carrier; the mark itself is kept as two marks, so no other text is taken for a half.
def mark : Char := Char.ofNat 0x10FFFF

def carrierOffset : Nat := 0x800

def isCarrier (c : Char) : Bool := 0xE000 ≤ c.toNat && c.toNat < 0xE800

def written (unit : Nat) : List Char :=
  if isHalf unit then [mark, Char.ofNat (unit + carrierOffset)]
  else if unit = mark.toNat then [mark, mark]
  else [Char.ofNat unit]

def units : List Char → List Nat
  | [] => []
  | [c] => [c.toNat]
  | c :: d :: rest =>
    if c = mark ∧ d = mark then mark.toNat :: units rest
    else if c = mark ∧ isCarrier d then (d.toNat - carrierOffset) :: units rest
    else c.toNat :: units (d :: rest)

def less (a b : String) : Bool := decide (units a.toList < units b.toList)

def encodable (s : String) : Bool := !(units s.toList).any isHalf

def replaceHalves (s : String) : String :=
  String.ofList ((units s.toList).flatMap fun unit =>
    if isHalf unit then List.replicate 3 '\uFFFD' else written unit)

end Outreach.Text
