import Outreach.Number.Numeral

set_option autoImplicit false

namespace Outreach.Address

def splitAt (isSeparator : Char → Bool) : List Char → List (List Char)
  | [] => [[]]
  | c :: rest =>
    let parts := splitAt isSeparator rest
    if isSeparator c then [] :: parts
    else
      match parts with
      | [] => [[c]]
      | part :: others => (c :: part) :: others

def isOctet (part : List Char) : Bool :=
  !part.isEmpty && part.length ≤ 3 && part.all Numeral.isAsciiDigit && Numeral.value part < 256 &&
    (part.length == 1 || part.head? != some '0')

def isDotted (cs : List Char) : Bool :=
  let parts := splitAt (· == '.') cs
  parts.length == 4 && parts.all isOctet

-- Where a host can stand in four rows of digits with one character, of any kind, between each two:
-- an even state waits for a row, an odd one is in it.
def advance (states : List Nat) (c : Char) : List Nat :=
  (states.flatMap fun state =>
    if state % 2 = 0 then if Numeral.isAsciiDigit c then [state + 1] else []
    else (if Numeral.isAsciiDigit c then [state] else []) ++
      if state < 7 then [state + 1] else []).eraseDups

def looksDotted (cs : List Char) : Bool := (cs.foldl advance [0]).contains 7

def isHexDigit (c : Char) : Bool :=
  Numeral.isAsciiDigit c || ('a' ≤ c && c ≤ 'f') || ('A' ≤ c && c ≤ 'F')

def isGroup (part : List Char) : Bool :=
  !part.isEmpty && part.length ≤ 4 && part.all isHexDigit

def groups? (cs : List Char) : Option (List (List Char)) :=
  let parts := splitAt (· == ':') cs
  match parts.getLast? with
  | some last =>
    if last.contains '.' then
      if isDotted last then some (parts.dropLast ++ [['0'], ['0']]) else none
    else some parts
  | none => none

def gaps (groups : List (List Char)) : List Nat :=
  (groups.zipIdx.filter fun (group, index) =>
    group.isEmpty && 0 < index && index + 1 < groups.length).map (·.2)

def side? (groups : List (List Char)) (outermost : Option (List Char)) :
    Option (List (List Char)) :=
  if outermost = some [] then if groups.length = 1 then some [] else none else some groups

def isColonned (cs : List Char) : Bool :=
  let (number, zone) := cs.span (· != '%')
  let zoned := match zone with
    | [] => true
    | _ :: name => !name.isEmpty && !name.contains '%'
  zoned && match groups? number with
    | none => false
    | some groups =>
      3 ≤ (splitAt (· == ':') number).length && groups.length ≤ 9 &&
      match gaps groups with
      | [] => groups.length == 8 && groups.all isGroup
      | [gap] =>
        match side? (groups.take gap) groups.head?,
          side? (groups.drop (gap + 1)) groups.getLast? with
        | some high, some low =>
          high.length + low.length ≤ 7 && high.all isGroup && low.all isGroup
        | _, _ => false
      | _ => false

end Outreach.Address
