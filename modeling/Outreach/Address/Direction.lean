import Outreach.Address.Mark
import Outreach.Number.Numeral

set_option autoImplicit false

namespace Outreach.Address

inductive Direction where
  | left
  | right
  | digit
  | arabicDigit
  | mark
  | neutral
  deriving DecidableEq, Repr

def rightRanges : List (Nat × Nat) :=
  [(0x05D0, 0x064A), (0x066E, 0x06EF), (0x06FA, 0x088E), (0x08A0, 0x08C9), (0xFE73, 0xFE73),
   (0x10800, 0x10939), (0x10980, 0x10D23), (0x10E80, 0x10EB1), (0x10F00, 0x10FF6),
   (0x1E800, 0x1E959)]

def arabicDigitRanges : List (Nat × Nat) := [(0x0660, 0x0669)]

def likeArabicRanges : List (Nat × Nat) := [(0x10D30, 0x10D39)]

def easternDigitRanges : List (Nat × Nat) := [(0x06F0, 0x06F9)]

def neutralRanges : List (Nat × Nat) :=
  [(0x00B7, 0x00B7), (0x02B9, 0x02BA), (0x02C6, 0x02CF), (0x02EC, 0x02EC), (0x0375, 0x0375),
   (0x200C, 0x200D), (0x2E2F, 0x2E2F), (0x30FB, 0x30FB), (0xA67F, 0xA67F), (0xA717, 0xA71F),
   (0xA788, 0xA788)]

namespace Direction

def ofChar (c : Char) : Direction :=
  if isMark c then .mark
  else if Numeral.isAsciiDigit c || Text.inRanges easternDigitRanges c then .digit
  else if Text.inRanges (arabicDigitRanges ++ likeArabicRanges) c then .arabicDigit
  else if c = '-' || Text.inRanges neutralRanges c then .neutral
  else if Text.inRanges rightRanges c then .right
  else .left

def fits (label : List Char) : Bool :=
  let directions := label.map ofChar
  if directions.contains .right || directions.contains .arabicDigit then
    directions.head? == some .right && !directions.contains .left &&
      !(directions.contains .digit && directions.contains .arabicDigit) &&
      (directions.reverse.find? (· != .mark)).any (· != .neutral)
  else true

end Direction

end Outreach.Address
