import Outreach.Limits
import Outreach.Number.Numeral
import Outreach.Text.Digit
import Outreach.Text.Encoding
import Outreach.Value.Basic

set_option autoImplicit false

namespace Outreach

inductive ReadFault where
  | malformed
  | numeralTooLong
  | tooDeep
  | undecodable
  deriving DecidableEq, Repr

namespace Reader

abbrev Result (α : Type) := Except ReadFault (α × List Char)

def isGap (c : Char) : Bool := c = ' ' || c = '\t' || c = '\n' || c = '\r'

def skipGap (cs : List Char) : List Char := cs.dropWhile isGap

def after? (word : String) (cs : List Char) : Option (List Char) :=
  if word.toList.isPrefixOf cs then some (cs.drop word.length) else none

def hexDigit? (c : Char) : Option Nat :=
  if '0' ≤ c ∧ c ≤ '9' then some (c.toNat - '0'.toNat)
  else if 'a' ≤ c ∧ c ≤ 'f' then some (c.toNat - 'a'.toNat + 10)
  else if 'A' ≤ c ∧ c ≤ 'F' then some (c.toNat - 'A'.toNat + 10)
  else none

def hexUnit? : List Char → Option (Nat × List Char)
  | a :: b :: c :: d :: rest => do
    let a ← hexDigit? a
    let b ← hexDigit? b
    let c ← hexDigit? c
    let d ← hexDigit? d
    some (((a * 16 + b) * 16 + c) * 16 + d, rest)
  | _ => none

def lowHalf? (cs : List Char) : Option (Nat × List Char) :=
  match after? "\\u" cs with
  | none => none
  | some rest =>
    match hexUnit? rest with
    | some (unit, rest) => if Text.isLowUnit unit then some (unit, rest) else none
    | none => none

def escapedUnit (unit : Nat) (rest : List Char) : List Char × List Char :=
  match if Text.isHighUnit unit then lowHalf? rest else none with
  | some (low, rest) => (Text.written (Text.joined unit low), rest)
  | none => (Text.written unit, rest)

def escaped? : List Char → Option (List Char × List Char)
  | [] => none
  | c :: rest =>
    if c = '"' ∨ c = '\\' ∨ c = '/' then some ([c], rest)
    else if c = 'b' then some (['\x08'], rest)
    else if c = 'f' then some (['\x0C'], rest)
    else if c = 'n' then some (['\n'], rest)
    else if c = 'r' then some (['\r'], rest)
    else if c = 't' then some (['\t'], rest)
    else if c = 'u' then (hexUnit? rest).map fun (unit, rest) => escapedUnit unit rest
    else none

def quoted : Nat → List Char → List Char → Result String
  | 0, _, _ => .error .malformed
  | _ + 1, _, [] => .error .malformed
  | fuel + 1, read, c :: rest =>
    if c = '"' then .ok (String.ofList read.reverse, rest)
    else if c = '\\' then
      match escaped? rest with
      | some (piece, rest) => quoted fuel (piece.reverse ++ read) rest
      | none => .error .malformed
    else if c.toNat < 0x20 then .error .malformed
    else quoted fuel (c :: read) rest

def exponent? : List Char → Option (Int × List Char)
  | mark :: rest =>
    if mark = 'e' ∨ mark = 'E' then
      let (negative, rest) := Numeral.sign rest
      let (power, rest) := Numeral.digits rest
      if power.isEmpty then none
      else some (if negative then -(Numeral.value power : Int) else Numeral.value power, rest)
    else none
  | [] => none

def fraction? : List Char → Option (List Char × List Char)
  | '.' :: rest =>
    let (part, rest) := Numeral.digits rest
    if part.isEmpty then none else some (part, rest)
  | _ => none

def number (cs : List Char) : Result Value :=
  let (negative, body) := match cs with
    | '-' :: rest => (true, rest)
    | cs => (false, cs)
  let (whole, rest) := match body with
    | '0' :: rest => (['0'], rest)
    | body => Numeral.digits body
  if whole.isEmpty then .error .malformed
  else
    let (part, afterPart) := (fraction? rest).getD ([], rest)
    let (power, afterPower) := (exponent? afterPart).getD (0, afterPart)
    if part.isEmpty && (exponent? afterPart).isNone then
      if Text.numeralLimit < whole.length then .error .numeralTooLong
      else .ok (.int (if negative then -(Numeral.value whole : Int) else Numeral.value whole), rest)
    else
      let significand := Numeral.value (whole ++ part)
      .ok (.double (Double.ofDecimal negative significand (power - part.length)), afterPower)

def words : List (String × Value) :=
  [("null", .null), ("true", .bool true), ("false", .bool false), ("NaN", .double (.nan 0)),
   ("Infinity", .double (.infinite false)), ("-Infinity", .double (.infinite true))]

def word? (cs : List Char) : Option (Value × List Char) :=
  words.findSome? fun (word, value) => (after? word cs).map fun rest => (value, rest)

mutual

def value : Nat → Nat → List Char → Result Value
  | 0, _, _ => .error .malformed
  | fuel + 1, room, cs =>
    match cs with
    | '"' :: rest =>
      match quoted (rest.length + 1) [] rest with
      | .ok (s, rest) => .ok (.str s, rest)
      | .error fault => .error fault
    | '[' :: rest =>
      match room with
      | 0 => .error .tooDeep
      | room + 1 =>
        match skipGap rest with
        | ']' :: rest => .ok (.list [], rest)
        | rest =>
          match items fuel room rest with
          | .ok (values, rest) => .ok (.list values, rest)
          | .error fault => .error fault
    | '{' :: rest =>
      match room with
      | 0 => .error .tooDeep
      | room + 1 =>
        match skipGap rest with
        | '}' :: rest => .ok (.obj [], rest)
        | rest =>
          match fields fuel room [] rest with
          | .ok (fields, rest) => .ok (.obj fields, rest)
          | .error fault => .error fault
    | cs =>
      match word? cs with
      | some found => .ok found
      | none => number cs

def items : Nat → Nat → List Char → Result (List Value)
  | 0, _, _ => .error .malformed
  | fuel + 1, room, cs =>
    match value fuel room cs with
    | .error fault => .error fault
    | .ok (first, rest) =>
      match skipGap rest with
      | ']' :: rest => .ok ([first], rest)
      | ',' :: rest =>
        match items fuel room (skipGap rest) with
        | .ok (values, rest) => .ok (first :: values, rest)
        | .error fault => .error fault
      | _ => .error .malformed

def fields : Nat → Nat → Fields → List Char → Result Fields
  | 0, _, _, _ => .error .malformed
  | fuel + 1, room, read, cs =>
    match cs with
    | '"' :: rest =>
      match quoted (rest.length + 1) [] rest with
      | .error fault => .error fault
      | .ok (key, rest) =>
        match skipGap rest with
        | ':' :: rest =>
          match value fuel room (skipGap rest) with
          | .error fault => .error fault
          | .ok (v, rest) =>
            match skipGap rest with
            | '}' :: rest => .ok (read.set key v, rest)
            | ',' :: rest => fields fuel room (read.set key v) (skipGap rest)
            | _ => .error .malformed
        | _ => .error .malformed
    | _ => .error .malformed

end

end Reader

namespace Value

def readWithin (room : Nat) (s : String) : Except ReadFault Value :=
  let cs := s.toList
  match Reader.value (cs.length + 1) room (Reader.skipGap cs) with
  | .error fault => .error fault
  | .ok (value, rest) =>
    if (Reader.skipGap rest).isEmpty then .ok value else .error .malformed

def read [Limits] (s : String) : Except ReadFault Value := readWithin Limits.readDepth s

def receive [Limits] (s : String) : Except ReadFault Value :=
  match Text.decode? s with
  | some s => read s
  | none => .error .undecodable

end Value

end Outreach
