import Outreach.Text.Blank

set_option autoImplicit false

namespace Outreach.Text

def breakRanges : List (Nat × Nat) :=
  [(0x0A, 0x0D), (0x1C, 0x1E), (0x85, 0x85), (0x2028, 0x2029)]

def isBreak (c : Char) : Bool := inRanges breakRanges c

def splitLines : List Char → List (List Char)
  | [] => []
  | '\r' :: '\n' :: rest => [] :: splitLines rest
  | c :: rest =>
    if isBreak c then [] :: splitLines rest
    else
      match splitLines rest with
      | [] => [[c]]
      | line :: others => (c :: line) :: others

def printed (s : String) : List String :=
  (splitLines (s.toList ++ ['\n'])).map String.ofList

end Outreach.Text
