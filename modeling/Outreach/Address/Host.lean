import Outreach.Address.Composed
import Outreach.Address.Direction
import Outreach.Address.Encoded
import Outreach.Address.HostCharacter
import Outreach.Address.Internet
import Outreach.Address.Joining

set_option autoImplicit false

namespace Outreach.Address

inductive LabelFault where
  | malformed
  | character
  | context
  | direction
  deriving DecidableEq, Repr

def hyphensFit (label : List Char) : Bool :=
  label.head? != some '-' && label.getLast? != some '-' &&
    !((label.drop 2).take 2 == ['-', '-'])

def isFormed (label : List Char) : Bool :=
  !label.isEmpty && label.length ≤ 254 && isComposed label && hyphensFit label &&
    !(label.head?.any isMark)

def greekRanges : List (Nat × Nat) := [(0x0370, 0x03FF), (0x1F00, 0x1FFF)]

def hebrewRanges : List (Nat × Nat) := [(0x0591, 0x05F4)]

def easternRanges : List (Nat × Nat) :=
  [(0x3005, 0x3007), (0x3041, 0x309F), (0x30A1, 0x30FA), (0x30FD, 0x30FF), (0x31F0, 0x31FF),
   (0x3400, 0x4DBF), (0x4E00, 0x9FFF), (0x20000, 0x3FFFF)]

def contextFits? (label before after : List Char) (c : Char) : Option Bool :=
  if c = '\u00B7' then some (before.head? = some 'l' && after.head? = some 'l')
  else if c = '\u0375' then some (after.head?.any (Text.inRanges greekRanges))
  else if c = '\u05F3' || c = '\u05F4' then some (before.head?.any (Text.inRanges hebrewRanges))
  else if c = '\u30FB' then some (label.any (Text.inRanges easternRanges))
  else if c = '\u200C' then some (before.head?.any isKiller || wouldJoin before after)
  else if c = '\u200D' then some (before.head?.any isKiller)
  else if Text.inRanges arabicDigitRanges c then
    some (!label.any (Text.inRanges easternDigitRanges))
  else if Text.inRanges easternDigitRanges c then
    some (!label.any (Text.inRanges arabicDigitRanges))
  else none

def checkCharacters (isAllowed : Char → Bool) (label : List Char) :
    List Char → List Char → Except LabelFault Unit
  | _, [] => .ok ()
  | before, c :: rest =>
    match contextFits? label before rest c with
    | some true => checkCharacters isAllowed label (c :: before) rest
    | some false => .error .context
    | none =>
      if isAllowed c then checkCharacters isAllowed label (c :: before) rest
      else .error .character

def checkLabel (isAllowed : Char → Bool) (label : List Char) : Except LabelFault Unit := do
  if !isFormed label then throw .malformed
  checkCharacters isAllowed label [] label
  if !Direction.fits label then throw .direction

def encodedMark : List Char := "xn--".toList

def checkPlainLabel (label : List Char) : Except LabelFault Unit :=
  if encodedMark.isPrefixOf label then
    let code := label.drop 4
    if code.isEmpty || code.getLast? == some '-' then .error .malformed
    else
      match Encoded.decode? code with
      | some points => checkLabel isHostCharacter (points.map Char.ofNat)
      | none => .error .malformed
  else checkLabel isHostCharacter label

def isPlain (cs : List Char) : Bool := cs.all (·.toNat < 0x80)

def labels (isPoint : Char → Bool) (name : List Char) : List (List Char) :=
  let labels := splitAt isPoint name
  if labels.getLast? = some [] then labels.dropLast else labels

def checkPlainName (name : List Char) : Except LabelFault Unit :=
  if 254 < name.length then .error .malformed
  else (labels (· == '.') name).forM checkPlainLabel

def isPoint (c : Char) : Bool :=
  c = '.' || c = '\u3002' || c = '\uFF0E' || c = '\uFF61'

def plainForm (label : List Char) : List Char :=
  if isPlain label then label else encodedMark ++ Encoded.encode label

def labelFits (label : List Char) : Bool :=
  (if isPlain label then checkPlainLabel label else checkLabel isHostLetter label).isOk &&
    (plainForm label).length ≤ 63

def canEncode (name : List Char) : Bool :=
  let labels := labels isPoint name
  !labels.isEmpty && name.length ≤ 254 && labels.all labelFits &&
    labels.foldl (fun length label => length + (plainForm label).length + 1) 0 ≤ 254

def isHost (host : List Char) : Bool :=
  let small := host.map Char.toLower
  if looksDotted host then isDotted host
  else if host.head? = some '[' && host.getLast? = some ']' then
    isColonned (host.drop 1).dropLast
  else isPlain host || canEncode small

end Outreach.Address
