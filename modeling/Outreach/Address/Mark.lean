import Outreach.Text.Blank

set_option autoImplicit false

namespace Outreach.Address

def markRanges : List (Nat × Nat) :=
  [(0x0300, 0x036F), (0x0483, 0x0487), (0x0591, 0x05C7), (0x0610, 0x061A), (0x064B, 0x065F),
   (0x0670, 0x0670), (0x06D6, 0x06E4), (0x06E7, 0x06ED), (0x0711, 0x0711), (0x0730, 0x074A),
   (0x07A6, 0x07B0), (0x07EB, 0x07F3), (0x07FD, 0x07FD), (0x0816, 0x0819), (0x081B, 0x0823),
   (0x0825, 0x0827), (0x0829, 0x082D), (0x0859, 0x085B), (0x0898, 0x089F), (0x08CA, 0x0903),
   (0x093A, 0x093C), (0x093E, 0x094F), (0x0951, 0x0957), (0x0962, 0x0963), (0x0981, 0x0983),
   (0x09BC, 0x09BC), (0x09BE, 0x09CD), (0x09D7, 0x09D7), (0x09E2, 0x09E3), (0x09FE, 0x0A03),
   (0x0A3C, 0x0A51), (0x0A70, 0x0A71), (0x0A75, 0x0A83), (0x0ABC, 0x0ABC), (0x0ABE, 0x0ACD),
   (0x0AE2, 0x0AE3), (0x0AFA, 0x0B03), (0x0B3C, 0x0B3C), (0x0B3E, 0x0B57), (0x0B62, 0x0B63),
   (0x0B82, 0x0B82), (0x0BBE, 0x0BCD), (0x0BD7, 0x0BD7), (0x0C00, 0x0C04), (0x0C3C, 0x0C3C),
   (0x0C3E, 0x0C56), (0x0C62, 0x0C63), (0x0C81, 0x0C83), (0x0CBC, 0x0CBC), (0x0CBE, 0x0CD6),
   (0x0CE2, 0x0CE3), (0x0D00, 0x0D03), (0x0D3B, 0x0D3C), (0x0D3E, 0x0D4D), (0x0D57, 0x0D57),
   (0x0D62, 0x0D63), (0x0D81, 0x0D83), (0x0DCA, 0x0DDF), (0x0DF2, 0x0DF3), (0x0E31, 0x0E31),
   (0x0E34, 0x0E3A), (0x0E47, 0x0E4E), (0x0EB1, 0x0EB1), (0x0EB4, 0x0EBC), (0x0EC8, 0x0ECD),
   (0x0F18, 0x0F19), (0x0F35, 0x0F3F), (0x0F71, 0x0F87), (0x0F8D, 0x0FC6), (0x102B, 0x103E),
   (0x1056, 0x1059), (0x105E, 0x1060), (0x1062, 0x1064), (0x1067, 0x106D), (0x1071, 0x1074),
   (0x1082, 0x108D), (0x108F, 0x108F), (0x109A, 0x109D), (0x135D, 0x135F), (0x1712, 0x1715),
   (0x1732, 0x1734), (0x1752, 0x1753), (0x1772, 0x1773), (0x17B6, 0x17D3), (0x17DD, 0x17DD),
   (0x1885, 0x1886), (0x18A9, 0x18A9), (0x1920, 0x193B), (0x1A17, 0x1A1B), (0x1A55, 0x1A7F),
   (0x1AB0, 0x1ACE), (0x1B00, 0x1B04), (0x1B34, 0x1B44), (0x1B6B, 0x1B82), (0x1BA1, 0x1BAD),
   (0x1BE6, 0x1BF3), (0x1C24, 0x1C37), (0x1CD0, 0x1CE8), (0x1CED, 0x1CED), (0x1CF4, 0x1CF4),
   (0x1CF7, 0x1CF9), (0x1DC0, 0x1DFF), (0x2CEF, 0x2CF1), (0x2D7F, 0x2D7F), (0x2DE0, 0x2DFF),
   (0x302A, 0x302D), (0x3099, 0x309A), (0xA66F, 0xA67D), (0xA69E, 0xA69F), (0xA6F0, 0xA6F1),
   (0xA802, 0xA802), (0xA806, 0xA806), (0xA80B, 0xA80B), (0xA823, 0xA82C), (0xA880, 0xA881),
   (0xA8B4, 0xA8C5), (0xA8E0, 0xA8F1), (0xA8FF, 0xA8FF), (0xA926, 0xA92D), (0xA947, 0xA983),
   (0xA9B3, 0xA9C0), (0xA9E5, 0xA9E5), (0xAA29, 0xAA36), (0xAA43, 0xAA43), (0xAA4C, 0xAA4D),
   (0xAA7B, 0xAA7D), (0xAAB0, 0xAAB0), (0xAAB2, 0xAAB4), (0xAAB7, 0xAAB8), (0xAABE, 0xAABF),
   (0xAAC1, 0xAAC1), (0xAAEB, 0xAAEF), (0xAAF5, 0xAAF6), (0xABE3, 0xABED), (0xFB1E, 0xFE2F),
   (0x101FD, 0x101FD), (0x102E0, 0x102E0), (0x10376, 0x1037A), (0x10A01, 0x10A0F),
   (0x10A38, 0x10A3F), (0x10AE5, 0x10AE6), (0x10D24, 0x10D27), (0x10EAB, 0x10EAC),
   (0x10F46, 0x10F50), (0x10F82, 0x10F85), (0x11000, 0x11002), (0x11038, 0x11046),
   (0x11070, 0x11070), (0x11073, 0x11074), (0x1107F, 0x11082), (0x110B0, 0x110C2),
   (0x11100, 0x11102), (0x11127, 0x11134), (0x11145, 0x11146), (0x11173, 0x11173),
   (0x11180, 0x11182), (0x111B3, 0x111C0), (0x111C9, 0x111CF), (0x1122C, 0x1123E),
   (0x112DF, 0x112EA), (0x11300, 0x11303), (0x1133B, 0x1133C), (0x1133E, 0x1134D),
   (0x11357, 0x11357), (0x11362, 0x11374), (0x11435, 0x11446), (0x1145E, 0x1145E),
   (0x114B0, 0x114C3), (0x115AF, 0x115C0), (0x115DC, 0x115DD), (0x11630, 0x11640),
   (0x116AB, 0x116B7), (0x1171D, 0x1172B), (0x1182C, 0x1183A), (0x11930, 0x1193E),
   (0x11940, 0x11940), (0x11942, 0x11943), (0x119D1, 0x119E0), (0x119E4, 0x119E4),
   (0x11A01, 0x11A0A), (0x11A33, 0x11A39), (0x11A3B, 0x11A47), (0x11A51, 0x11A5B),
   (0x11A8A, 0x11A99), (0x11C2F, 0x11C3F), (0x11C92, 0x11CB6), (0x11D31, 0x11D45),
   (0x11D47, 0x11D47), (0x11D8A, 0x11D97), (0x11EF3, 0x11EF6), (0x16AF0, 0x16AF4),
   (0x16B30, 0x16B36), (0x16F4F, 0x16F4F), (0x16F51, 0x16F92), (0x16FE4, 0x16FF1),
   (0x1BC9D, 0x1BC9E), (0x1CF00, 0x1DAAF), (0x1E000, 0x1E02A), (0x1E130, 0x1E136),
   (0x1E2AE, 0x1E2AE), (0x1E2EC, 0x1E2EF), (0x1E8D0, 0x1E8D6), (0x1E944, 0x1E94A)]

def isMark (c : Char) : Bool := Text.inRanges markRanges c

def killerRanges : List (Nat × Nat) :=
  [(0x094D, 0x094D), (0x09CD, 0x09CD), (0x0A4D, 0x0A4D), (0x0ACD, 0x0ACD), (0x0B4D, 0x0B4D),
   (0x0BCD, 0x0BCD), (0x0C4D, 0x0C4D), (0x0CCD, 0x0CCD), (0x0D3B, 0x0D3C), (0x0D4D, 0x0D4D),
   (0x0DCA, 0x0DCA), (0x0E3A, 0x0E3A), (0x0EBA, 0x0EBA), (0x0F84, 0x0F84), (0x1039, 0x103A),
   (0x1714, 0x1715), (0x1734, 0x1734), (0x17D2, 0x17D2), (0x1A60, 0x1A60), (0x1B44, 0x1B44),
   (0x1BAA, 0x1BAB), (0x1BF2, 0x1BF3), (0x2D7F, 0x2D7F), (0xA806, 0xA806), (0xA82C, 0xA82C),
   (0xA8C4, 0xA8C4), (0xA953, 0xA953), (0xA9C0, 0xA9C0), (0xAAF6, 0xAAF6), (0xABED, 0xABED),
   (0x10A3F, 0x10A3F), (0x11046, 0x11046), (0x11070, 0x11070), (0x1107F, 0x1107F),
   (0x110B9, 0x110B9), (0x11133, 0x11134), (0x111C0, 0x111C0), (0x11235, 0x11235),
   (0x112EA, 0x112EA), (0x1134D, 0x1134D), (0x11442, 0x11442), (0x114C2, 0x114C2),
   (0x115BF, 0x115BF), (0x1163F, 0x1163F), (0x116B6, 0x116B6), (0x1172B, 0x1172B),
   (0x11839, 0x11839), (0x1193D, 0x1193E), (0x119E0, 0x119E0), (0x11A34, 0x11A34),
   (0x11A47, 0x11A47), (0x11A99, 0x11A99), (0x11C3F, 0x11C3F), (0x11D44, 0x11D45),
   (0x11D97, 0x11D97)]

def isKiller (c : Char) : Bool := Text.inRanges killerRanges c

-- The ranks of marks. In a row of marks that belong to one letter the ranks do not fall. Between
-- two of one stretch there is no other mark.
def rankRanges : List (Nat × List (Nat × Nat)) :=
  [(1, [(0x0334, 0x0338), (0x1CD4, 0x1CD4), (0x1CE2, 0x1CE8), (0x10A39, 0x10A39),
     (0x16AF0, 0x16AF4), (0x1BC9E, 0x1BC9E)]),
   (6, [(0x16FF0, 0x16FF1)]),
   (7, [(0x093C, 0x093C), (0x09BC, 0x09BC), (0x0A3C, 0x0A3C), (0x0ABC, 0x0ABC), (0x0B3C, 0x0B3C),
     (0x0C3C, 0x0C3C), (0x0CBC, 0x0CBC), (0x1037, 0x1037), (0x1B34, 0x1B34), (0x1BE6, 0x1BE6),
     (0x1C37, 0x1C37), (0xA9B3, 0xA9B3), (0x110BA, 0x110BA), (0x11173, 0x11173), (0x111CA, 0x111CA),
     (0x11236, 0x11236), (0x112E9, 0x112E9), (0x1133B, 0x1133C), (0x11446, 0x11446),
     (0x114C3, 0x114C3), (0x115C0, 0x115C0), (0x116B7, 0x116B7), (0x1183A, 0x1183A),
     (0x11943, 0x11943), (0x11D42, 0x11D42), (0x1E94A, 0x1E94A)]),
   (8, [(0x3099, 0x309A)]), (10, [(0x05B0, 0x05B0)]), (11, [(0x05B1, 0x05B1)]),
   (12, [(0x05B2, 0x05B2)]), (13, [(0x05B3, 0x05B3)]), (14, [(0x05B4, 0x05B4)]),
   (15, [(0x05B5, 0x05B5)]), (16, [(0x05B6, 0x05B6)]), (17, [(0x05B7, 0x05B7)]),
   (18, [(0x05B8, 0x05B8), (0x05C7, 0x05C7)]), (19, [(0x05B9, 0x05BA)]), (20, [(0x05BB, 0x05BB)]),
   (21, [(0x05BC, 0x05BC)]), (22, [(0x05BD, 0x05BD)]), (23, [(0x05BF, 0x05BF)]),
   (24, [(0x05C1, 0x05C1)]), (25, [(0x05C2, 0x05C2)]), (26, [(0xFB1E, 0xFB1E)]),
   (27, [(0x064B, 0x064B), (0x08F0, 0x08F0)]), (28, [(0x064C, 0x064C), (0x08F1, 0x08F1)]),
   (29, [(0x064D, 0x064D), (0x08F2, 0x08F2)]), (30, [(0x0618, 0x0618), (0x064E, 0x064E)]),
   (31, [(0x0619, 0x0619), (0x064F, 0x064F)]), (32, [(0x061A, 0x061A), (0x0650, 0x0650)]),
   (33, [(0x0651, 0x0651)]), (34, [(0x0652, 0x0652)]), (35, [(0x0670, 0x0670)]),
   (36, [(0x0711, 0x0711)]), (84, [(0x0C55, 0x0C55)]), (91, [(0x0C56, 0x0C56)]),
   (103, [(0x0E38, 0x0E39)]), (107, [(0x0E48, 0x0E4B)]), (118, [(0x0EB8, 0x0EB9)]),
   (122, [(0x0EC8, 0x0ECB)]), (129, [(0x0F71, 0x0F71)]),
   (130, [(0x0F72, 0x0F72), (0x0F7A, 0x0F7D), (0x0F80, 0x0F80)]), (132, [(0x0F74, 0x0F74)]),
   (202, [(0x0321, 0x0322), (0x0327, 0x0328), (0x1DD0, 0x1DD0)]), (214, [(0x1DCE, 0x1DCE)]),
   (216, [(0x031B, 0x031B), (0x0F39, 0x0F39)]), (218, [(0x1DFA, 0x1DFA), (0x302A, 0x302A)]),
   (220, [(0x0316, 0x0319), (0x031C, 0x0320), (0x0323, 0x0326), (0x0329, 0x0333), (0x0339, 0x033C),
     (0x0347, 0x0349), (0x034D, 0x034E), (0x0353, 0x0356), (0x0359, 0x035A), (0x0591, 0x0591),
     (0x0596, 0x0596), (0x059B, 0x059B), (0x05A2, 0x05A7), (0x05AA, 0x05AA), (0x05C5, 0x05C5),
     (0x0655, 0x0656), (0x065C, 0x065C), (0x065F, 0x065F), (0x06E3, 0x06E3), (0x06EA, 0x06EA),
     (0x06ED, 0x06ED), (0x0731, 0x0731), (0x0734, 0x0734), (0x0737, 0x0739), (0x073B, 0x073C),
     (0x073E, 0x073E), (0x0742, 0x0742), (0x0744, 0x0744), (0x0746, 0x0746), (0x0748, 0x0748),
     (0x07F2, 0x07F2), (0x07FD, 0x07FD), (0x0859, 0x085B), (0x0899, 0x089B), (0x08CF, 0x08D3),
     (0x08E3, 0x08E3), (0x08E6, 0x08E6), (0x08E9, 0x08E9), (0x08ED, 0x08EF), (0x08F6, 0x08F6),
     (0x08F9, 0x08FA), (0x0952, 0x0952), (0x0F18, 0x0F37), (0x0FC6, 0x0FC6), (0x108D, 0x108D),
     (0x193B, 0x193B), (0x1A18, 0x1A18), (0x1A7F, 0x1A7F), (0x1AB5, 0x1ABA), (0x1ABD, 0x1AC0),
     (0x1AC3, 0x1AC4), (0x1ACA, 0x1ACA), (0x1B6C, 0x1B6C), (0x1CD5, 0x1CD9), (0x1CDC, 0x1CDF),
     (0x1CED, 0x1CED), (0x1DC2, 0x1DC2), (0x1DCA, 0x1DCA), (0x1DCF, 0x1DCF), (0x1DF9, 0x1DF9),
     (0x1DFD, 0x1DFD), (0x1DFF, 0x1DFF), (0xA92B, 0xA92D), (0xAAB4, 0xAAB4), (0xFE27, 0xFE2D),
     (0x101FD, 0x102E0), (0x10A0D, 0x10A0D), (0x10A3A, 0x10A3A), (0x10AE6, 0x10AE6),
     (0x10F46, 0x10F47), (0x10F4B, 0x10F4B), (0x10F4D, 0x10F50), (0x10F83, 0x10F83),
     (0x10F85, 0x10F85), (0x1E8D0, 0x1E8D6)]),
   (222, [(0x059A, 0x059A), (0x05AD, 0x05AD), (0x1939, 0x1939), (0x302D, 0x302D)]),
   (228, [(0x05AE, 0x05AE), (0x18A9, 0x18A9), (0x1DF7, 0x1DF8), (0x302B, 0x302B)]),
   (230, [(0x0300, 0x0314), (0x033D, 0x0346), (0x034A, 0x034C), (0x0350, 0x0352), (0x0357, 0x0357),
     (0x035B, 0x035B), (0x0363, 0x0487), (0x0592, 0x0595), (0x0597, 0x0599), (0x059C, 0x05A1),
     (0x05A8, 0x05A9), (0x05AB, 0x05AC), (0x05AF, 0x05AF), (0x05C4, 0x05C4), (0x0610, 0x0617),
     (0x0653, 0x0654), (0x0657, 0x065B), (0x065D, 0x065E), (0x06D6, 0x06E2), (0x06E4, 0x06E8),
     (0x06EB, 0x06EC), (0x0730, 0x0730), (0x0732, 0x0733), (0x0735, 0x0736), (0x073A, 0x073A),
     (0x073D, 0x073D), (0x073F, 0x0741), (0x0743, 0x0743), (0x0745, 0x0745), (0x0747, 0x0747),
     (0x0749, 0x074A), (0x07EB, 0x07F1), (0x07F3, 0x07F3), (0x0816, 0x082D), (0x0898, 0x0898),
     (0x089C, 0x08CE), (0x08D4, 0x08E1), (0x08E4, 0x08E5), (0x08E7, 0x08E8), (0x08EA, 0x08EC),
     (0x08F3, 0x08F5), (0x08F7, 0x08F8), (0x08FB, 0x08FF), (0x0951, 0x0951), (0x0953, 0x0954),
     (0x09FE, 0x09FE), (0x0F82, 0x0F83), (0x0F86, 0x0F87), (0x135D, 0x135F), (0x17DD, 0x17DD),
     (0x193A, 0x193A), (0x1A17, 0x1A17), (0x1A75, 0x1A7C), (0x1AB0, 0x1AB4), (0x1ABB, 0x1ABC),
     (0x1AC1, 0x1AC2), (0x1AC5, 0x1AC9), (0x1ACB, 0x1ACE), (0x1B6B, 0x1B6B), (0x1B6D, 0x1B73),
     (0x1CD0, 0x1CD2), (0x1CDA, 0x1CDB), (0x1CE0, 0x1CE0), (0x1CF4, 0x1CF4), (0x1CF8, 0x1DC1),
     (0x1DC3, 0x1DC9), (0x1DCB, 0x1DCC), (0x1DD1, 0x1DF5), (0x1DFB, 0x1DFB), (0x1DFE, 0x1DFE),
     (0x2CEF, 0x2CF1), (0x2DE0, 0x2DFF), (0xA66F, 0xA6F1), (0xA8E0, 0xA8F1), (0xAAB0, 0xAAB3),
     (0xAAB7, 0xAAC1), (0xFE20, 0xFE26), (0xFE2E, 0xFE2F), (0x10376, 0x1037A), (0x10A0F, 0x10A38),
     (0x10AE5, 0x10AE5), (0x10D24, 0x10EAC), (0x10F48, 0x10F4A), (0x10F4C, 0x10F4C),
     (0x10F82, 0x10F82), (0x10F84, 0x10F84), (0x11100, 0x11102), (0x11366, 0x11374),
     (0x1145E, 0x1145E), (0x16B30, 0x16B36), (0x1E000, 0x1E2EF), (0x1E944, 0x1E949)]),
   (232, [(0x0315, 0x0315), (0x031A, 0x031A), (0x0358, 0x0358), (0x1DF6, 0x1DF6),
     (0x302C, 0x302C)]),
   (233, [(0x035C, 0x035C), (0x035F, 0x035F), (0x0362, 0x0362), (0x1DFC, 0x1DFC)]),
   (234, [(0x035D, 0x035E), (0x0360, 0x0361), (0x1DCD, 0x1DCD)])]

def rank (c : Char) : Nat :=
  if !isMark c then 0
  else if isKiller c then 9
  else ((rankRanges.find? fun (_, ranges) => Text.inRanges ranges c).map (·.1)).getD 0

end Outreach.Address
