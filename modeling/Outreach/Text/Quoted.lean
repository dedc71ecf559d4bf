import Outreach.Text.Half
import Outreach.Text.Printable

set_option autoImplicit false

namespace Outreach.Text

def hex (width n : Nat) : List Char :=
  let digits := Nat.toDigits 16 n
  List.replicate (width - digits.length) '0' ++ digits

def escape (quote : Char) (unit : Nat) : List Char :=
  let c := Char.ofNat unit
  if isHalf unit then '\\' :: 'u' :: hex 4 unit
  else if c = quote ∨ c = '\\' then ['\\', c]
  else if c = '\t' then ['\\', 't']
  else if c = '\n' then ['\\', 'n']
  else if c = '\r' then ['\\', 'r']
  else if isPrintable c then [c]
  else if unit < 0x100 then '\\' :: 'x' :: hex 2 unit
  else if unit < 0x10000 then '\\' :: 'u' :: hex 4 unit
  else '\\' :: 'U' :: hex 8 unit

def quoteFor (cs : List Char) : Char :=
  if cs.contains '\'' && !cs.contains '"' then '"' else '\''

def quoted (s : String) : String :=
  let quote := quoteFor s.toList
  String.ofList (quote :: (units s.toList).flatMap (escape quote) ++ [quote])

end Outreach.Text
