import Outreach.Address.Mark

set_option autoImplicit false

namespace Outreach.Address

def letters : List (Nat × List Nat) :=
  [(0x0300, [0x0061, 0x0065, 0x0069, 0x006E, 0x006F, 0x0075, 0x0077, 0x0079, 0x00E2, 0x00EA, 0x00F4,
     0x00FC, 0x0103, 0x0113, 0x014D, 0x01A1, 0x01B0, 0x03B1, 0x03B5, 0x03B7, 0x03B9, 0x03BF, 0x03C5,
     0x03C9, 0x03CA, 0x03CB, 0x0435, 0x0438, 0x1F00, 0x1F01, 0x1F10, 0x1F11, 0x1F20, 0x1F21, 0x1F30,
     0x1F31, 0x1F40, 0x1F41, 0x1F50, 0x1F51, 0x1F60, 0x1F61]),
   (0x0301, [0x0061, 0x0063, 0x0065, 0x0067, 0x0069, 0x006B, 0x006C, 0x006D, 0x006E, 0x006F, 0x0070,
     0x0072, 0x0073, 0x0075, 0x0077, 0x0079, 0x007A, 0x00E2, 0x00E5, 0x00E6, 0x00E7, 0x00EA, 0x00EF,
     0x00F4, 0x00F5, 0x00F8, 0x00FC, 0x0103, 0x0113, 0x014D, 0x0169, 0x01A1, 0x01B0, 0x03B1, 0x03B5,
     0x03B7, 0x03B9, 0x03BF, 0x03C5, 0x03C9, 0x03CA, 0x03CB, 0x0433, 0x043A, 0x1F00, 0x1F01, 0x1F10,
     0x1F11, 0x1F20, 0x1F21, 0x1F30, 0x1F31, 0x1F40, 0x1F41, 0x1F50, 0x1F51, 0x1F60, 0x1F61]),
   (0x0302, [0x0061, 0x0063, 0x0065, 0x0067, 0x0068, 0x0069, 0x006A, 0x006F, 0x0073, 0x0075, 0x0077,
     0x0079, 0x007A, 0x1EA1, 0x1EB9, 0x1ECD]),
   (0x0303, [0x0061, 0x0065, 0x0069, 0x006E, 0x006F, 0x0075, 0x0076, 0x0079, 0x00E2, 0x00EA, 0x00F4,
     0x0103, 0x01A1, 0x01B0]),
   (0x0304, [0x0061, 0x0065, 0x0067, 0x0069, 0x006F, 0x0075, 0x0079, 0x00E4, 0x00E6, 0x00F5, 0x00F6,
     0x00FC, 0x01EB, 0x0227, 0x022F, 0x03B1, 0x03B9, 0x03C5, 0x0438, 0x0443, 0x1E37, 0x1E5B]),
   (0x0306, [0x0061, 0x0065, 0x0067, 0x0069, 0x006F, 0x0075, 0x0229, 0x03B1, 0x03B9, 0x03C5, 0x0430,
     0x0435, 0x0436, 0x0438, 0x0443, 0x1EA1]),
   (0x0307, [0x0061, 0x0062, 0x0063, 0x0064, 0x0065, 0x0066, 0x0067, 0x0068, 0x006D, 0x006E, 0x006F,
     0x0070, 0x0072, 0x0073, 0x0074, 0x0077, 0x0078, 0x0079, 0x007A, 0x015B, 0x0161, 0x1E63]),
   (0x0308, [0x0061, 0x0065, 0x0068, 0x0069, 0x006F, 0x0074, 0x0075, 0x0077, 0x0078, 0x0079, 0x00F5,
     0x016B, 0x03B9, 0x03C5, 0x0430, 0x0435, 0x0436, 0x0437, 0x0438, 0x043E, 0x0443, 0x0447, 0x044B,
     0x044D, 0x0456, 0x04D9, 0x04E9]),
   (0x0309, [0x0061, 0x0065, 0x0069, 0x006F, 0x0075, 0x0079, 0x00E2, 0x00EA, 0x00F4, 0x0103, 0x01A1,
     0x01B0]),
   (0x030A, [0x0061, 0x0075, 0x0077, 0x0079]), (0x030B, [0x006F, 0x0075, 0x0443]),
   (0x030C, [0x0061, 0x0063, 0x0064, 0x0065, 0x0067, 0x0068, 0x0069, 0x006A, 0x006B, 0x006C, 0x006E,
     0x006F, 0x0072, 0x0073, 0x0074, 0x0075, 0x007A, 0x00FC, 0x0292]),
   (0x030F, [0x0061, 0x0065, 0x0069, 0x006F, 0x0072, 0x0075, 0x0475]),
   (0x0311, [0x0061, 0x0065, 0x0069, 0x006F, 0x0072, 0x0075]),
   (0x0313, [0x03B1, 0x03B5, 0x03B7, 0x03B9, 0x03BF, 0x03C1, 0x03C5, 0x03C9]),
   (0x0314, [0x03B1, 0x03B5, 0x03B7, 0x03B9, 0x03BF, 0x03C1, 0x03C5, 0x03C9]),
   (0x031B, [0x006F, 0x0075]),
   (0x0323, [0x0061, 0x0062, 0x0064, 0x0065, 0x0068, 0x0069, 0x006B, 0x006C, 0x006D, 0x006E, 0x006F,
     0x0072, 0x0073, 0x0074, 0x0075, 0x0076, 0x0077, 0x0079, 0x007A, 0x01A1, 0x01B0]),
   (0x0324, [0x0075]), (0x0325, [0x0061]), (0x0326, [0x0073, 0x0074]),
   (0x0327, [0x0063, 0x0064, 0x0065, 0x0067, 0x0068, 0x006B, 0x006C, 0x006E, 0x0072, 0x0073,
     0x0074]),
   (0x0328, [0x0061, 0x0065, 0x0069, 0x006F, 0x0075]),
   (0x032D, [0x0064, 0x0065, 0x006C, 0x006E, 0x0074, 0x0075]), (0x032E, [0x0068]),
   (0x0330, [0x0065, 0x0069, 0x0075]),
   (0x0331, [0x0062, 0x0064, 0x0068, 0x006B, 0x006C, 0x006E, 0x0072, 0x0074, 0x007A]),
   (0x0342, [0x03B1, 0x03B7, 0x03B9, 0x03C5, 0x03C9, 0x03CA, 0x03CB, 0x1F00, 0x1F01, 0x1F20, 0x1F21,
     0x1F30, 0x1F31, 0x1F50, 0x1F51, 0x1F60, 0x1F61]),
   (0x0653, [0x0627]), (0x0654, [0x0627, 0x0648, 0x064A, 0x06C1, 0x06D2, 0x06D5]),
   (0x0655, [0x0627]), (0x093C, [0x0928, 0x0930, 0x0933]), (0x09BE, [0x09C7]), (0x09D7, [0x09C7]),
   (0x0B3E, [0x0B47]), (0x0B56, [0x0B47]), (0x0B57, [0x0B47]), (0x0BBE, [0x0BC6, 0x0BC7]),
   (0x0BD7, [0x0B92, 0x0BC6]), (0x0C56, [0x0C46]), (0x0CC2, [0x0CC6]),
   (0x0CD5, [0x0CBF, 0x0CC6, 0x0CCA]), (0x0CD6, [0x0CC6]), (0x0D3E, [0x0D46, 0x0D47]),
   (0x0D57, [0x0D46]), (0x0DCA, [0x0DD9, 0x0DDC]), (0x0DCF, [0x0DD9]), (0x0DDF, [0x0DD9]),
   (0x102E, [0x1025]),
   (0x1B35, [0x1B05, 0x1B07, 0x1B09, 0x1B0B, 0x1B0D, 0x1B11, 0x1B3A, 0x1B3C, 0x1B3E, 0x1B3F,
     0x1B42]),
   (0x3099, [0x3046, 0x304B, 0x304D, 0x304F, 0x3051, 0x3053, 0x3055, 0x3057, 0x3059, 0x305B, 0x305D,
     0x305F, 0x3061, 0x3064, 0x3066, 0x3068, 0x306F, 0x3072, 0x3075, 0x3078, 0x307B, 0x309D, 0x30A6,
     0x30AB, 0x30AD, 0x30AF, 0x30B1, 0x30B3, 0x30B5, 0x30B7, 0x30B9, 0x30BB, 0x30BD, 0x30BF, 0x30C1,
     0x30C4, 0x30C6, 0x30C8, 0x30CF, 0x30D2, 0x30D5, 0x30D8, 0x30DB, 0x30EF, 0x30F0, 0x30F1, 0x30F2,
     0x30FD]),
   (0x309A, [0x306F, 0x3072, 0x3075, 0x3078, 0x307B, 0x30CF, 0x30D2, 0x30D5, 0x30D8, 0x30DB]),
   (0x110BA, [0x11099, 0x1109B, 0x110A5]), (0x11127, [0x11131, 0x11132]), (0x1133E, [0x11347]),
   (0x11357, [0x11347]), (0x114B0, [0x114B9]), (0x114BA, [0x114B9]), (0x114BD, [0x114B9]),
   (0x115AF, [0x115B8, 0x115B9]), (0x11930, [0x11935])]

def areOne (letter mark : Char) : Bool :=
  (letters.lookup mark.toNat).any (·.contains letter.toNat)

def isComposedAfter (letter : Option Char) (last : Nat) : List Char → Bool
  | [] => true
  | c :: rest =>
    -- A mark reaches its letter across marks of lower ranks only.
    let reaches := last = 0 || last < rank c
    if letter.any (areOne · c) && reaches then false
    else if rank c = 0 then isComposedAfter (some c) 0 rest
    else last ≤ rank c && isComposedAfter letter (rank c) rest

def isComposed (cs : List Char) : Bool := isComposedAfter none 0 cs

end Outreach.Address
