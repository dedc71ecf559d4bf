import Outreach.Text.Half

set_option autoImplicit false

namespace Outreach.Text

inductive Encoding where
  | bytes
  | markedBytes
  | pairs (greatFirst : Bool)
  | fours (greatFirst : Bool)
  deriving DecidableEq, Repr

namespace Encoding

def detect : List Nat → Encoding
  | first :: second :: rest =>
    if [0xEF, 0xBB, 0xBF].isPrefixOf (first :: second :: rest) then .markedBytes
    else
      match rest with
      | [] => if first = 0 then .pairs true else if second = 0 then .pairs false else .bytes
      | [_] => .bytes
      | third :: fourth :: _ =>
        if first = 0 then if second = 0 then .fours true else .pairs true
        else if second = 0 then if third = 0 ∧ fourth = 0 then .fours false else .pairs false
        else .bytes
  | _ => .bytes

end Encoding

def valueOf (greatFirst : Bool) (bytes : List Nat) : Nat :=
  (if greatFirst then bytes else bytes.reverse).foldl (fun read byte => 256 * read + byte) 0

def pairs? (greatFirst : Bool) : List Nat → Option (List Nat)
  | [] => some []
  | [_] => none
  | a :: b :: rest => (pairs? greatFirst rest).map (valueOf greatFirst [a, b] :: ·)

def fours? (greatFirst : Bool) : List Nat → Option (List Nat)
  | [] => some []
  | a :: b :: c :: d :: rest =>
    (fours? greatFirst rest).map (valueOf greatFirst [a, b, c, d] :: ·)
  | _ => none

def ofPairs : List Nat → List Char
  | high :: low :: rest =>
    if isHighUnit high && isLowUnit low then written (joined high low) ++ ofPairs rest
    else written high ++ ofPairs (low :: rest)
  | [unit] => written unit
  | [] => []

def ofFours? (units : List Nat) : Option (List Char) :=
  if units.all (· < 0x110000) then some (units.flatMap written) else none

def bytes (s : String) : List Nat :=
  (String.ofList ((units s.toList).map Char.ofNat)).toUTF8.toList.map UInt8.toNat

def decode? (sent : String) : Option String :=
  match Encoding.detect (bytes sent) with
  | .bytes => some sent
  | .markedBytes => some (String.ofList (sent.toList.drop 1))
  | .pairs greatFirst =>
    (pairs? greatFirst (bytes sent)).map fun units => String.ofList (ofPairs units)
  | .fours greatFirst =>
    ((fours? greatFirst (bytes sent)).bind ofFours?).map String.ofList

end Outreach.Text
