import FuturesDesk.Text.Span

/-!
# Alphabets with a second form

Letters and digits whose plain form stands at the same distance for a whole
alphabet: capitals, circled and mathematical letters, wide and narrow forms.
-/

namespace FuturesDesk.Url.Mapping

/-- The first and last character of a run, and the plain form of the first. -/
def shifts : List (Nat × Nat × Nat) :=
  [(0xC0, 0xD6, 0xE0), (0xD8, 0xDE, 0xF8), (0x391, 0x3A1, 0x3B1), (0x3A3, 0x3AB, 0x3C3), (0x400, 0x40F, 0x450),
   (0x410, 0x42F, 0x430), (0x531, 0x556, 0x561), (0x10A0, 0x10C5, 0x2D00), (0x13F8, 0x13FD, 0x13F0),
   (0x1C90, 0x1CBA, 0x10D0), (0x1D33, 0x1D3A, 0x67), (0x1F08, 0x1F0F, 0x1F00), (0x1F18, 0x1F1D, 0x1F10),
   (0x1F28, 0x1F2F, 0x1F20), (0x1F38, 0x1F3F, 0x1F30), (0x1F48, 0x1F4D, 0x1F40), (0x1F68, 0x1F6F, 0x1F60),
   (0x2074, 0x2079, 0x34), (0x2080, 0x2089, 0x30), (0x2460, 0x2468, 0x31), (0x24B6, 0x24CF, 0x61),
   (0x24D0, 0x24E9, 0x61), (0x2C00, 0x2C2F, 0x2C30), (0x313A, 0x313F, 0x11B0), (0x3145, 0x314E, 0x1109),
   (0x314F, 0x3163, 0x1161), (0x32E4, 0x32E9, 0x30CA), (0x32F5, 0x32FA, 0x30E8), (0xAB70, 0xABBF, 0x13A0),
   (0xFF01, 0xFF20, 0x21), (0xFF21, 0xFF3A, 0x61), (0xFF3B, 0xFF5E, 0x5B), (0xFF85, 0xFF8A, 0x30CA),
   (0xFF96, 0xFF9B, 0x30E8), (0xFFAA, 0xFFAF, 0x11B0), (0xFFB5, 0xFFBE, 0x1109), (0xFFC2, 0xFFC7, 0x1161),
   (0xFFCA, 0xFFCF, 0x1167), (0xFFD2, 0xFFD7, 0x116D), (0x10400, 0x10427, 0x10428), (0x104B0, 0x104D3, 0x104D8),
   (0x10570, 0x1057A, 0x10597), (0x1057C, 0x1058A, 0x105A3), (0x1058C, 0x10592, 0x105B3),
   (0x10C80, 0x10CB2, 0x10CC0), (0x10D50, 0x10D65, 0x10D70), (0x118A0, 0x118BF, 0x118C0),
   (0x16E40, 0x16E5F, 0x16E60), (0x16EA0, 0x16EB8, 0x16EBB), (0x1CCD6, 0x1CCEF, 0x61), (0x1CCF0, 0x1CCF9, 0x30),
   (0x1D400, 0x1D419, 0x61), (0x1D41A, 0x1D433, 0x61), (0x1D434, 0x1D44D, 0x61), (0x1D44E, 0x1D454, 0x61),
   (0x1D456, 0x1D467, 0x69), (0x1D468, 0x1D481, 0x61), (0x1D482, 0x1D49B, 0x61), (0x1D4AE, 0x1D4B5, 0x73),
   (0x1D4BD, 0x1D4C3, 0x68), (0x1D4C5, 0x1D4CF, 0x70), (0x1D4D0, 0x1D4E9, 0x61), (0x1D4EA, 0x1D503, 0x61),
   (0x1D50D, 0x1D514, 0x6A), (0x1D516, 0x1D51C, 0x73), (0x1D51E, 0x1D537, 0x61), (0x1D54A, 0x1D550, 0x73),
   (0x1D552, 0x1D56B, 0x61), (0x1D56C, 0x1D585, 0x61), (0x1D586, 0x1D59F, 0x61), (0x1D5A0, 0x1D5B9, 0x61),
   (0x1D5BA, 0x1D5D3, 0x61), (0x1D5D4, 0x1D5ED, 0x61), (0x1D5EE, 0x1D607, 0x61), (0x1D608, 0x1D621, 0x61),
   (0x1D622, 0x1D63B, 0x61), (0x1D63C, 0x1D655, 0x61), (0x1D656, 0x1D66F, 0x61), (0x1D670, 0x1D689, 0x61),
   (0x1D68A, 0x1D6A3, 0x61), (0x1D6A8, 0x1D6B8, 0x3B1), (0x1D6BA, 0x1D6C0, 0x3C3), (0x1D6C2, 0x1D6D2, 0x3B1),
   (0x1D6D4, 0x1D6DA, 0x3C3), (0x1D6E2, 0x1D6F2, 0x3B1), (0x1D6F4, 0x1D6FA, 0x3C3), (0x1D6FC, 0x1D70C, 0x3B1),
   (0x1D70E, 0x1D714, 0x3C3), (0x1D71C, 0x1D72C, 0x3B1), (0x1D72E, 0x1D734, 0x3C3), (0x1D736, 0x1D746, 0x3B1),
   (0x1D748, 0x1D74E, 0x3C3), (0x1D756, 0x1D766, 0x3B1), (0x1D768, 0x1D76E, 0x3C3), (0x1D770, 0x1D780, 0x3B1),
   (0x1D782, 0x1D788, 0x3C3), (0x1D790, 0x1D7A0, 0x3B1), (0x1D7A2, 0x1D7A8, 0x3C3), (0x1D7AA, 0x1D7BA, 0x3B1),
   (0x1D7BC, 0x1D7C2, 0x3C3), (0x1D7CE, 0x1D7D7, 0x30), (0x1D7D8, 0x1D7E1, 0x30), (0x1D7E2, 0x1D7EB, 0x30),
   (0x1D7EC, 0x1D7F5, 0x30), (0x1D7F6, 0x1D7FF, 0x30), (0x1E030, 0x1E038, 0x430), (0x1E03C, 0x1E046, 0x43E),
   (0x1E051, 0x1E059, 0x430), (0x1E05F, 0x1E064, 0x443), (0x1E900, 0x1E921, 0x1E922), (0x1F130, 0x1F149, 0x61),
   (0x1FBF0, 0x1FBF9, 0x30)]

/-- Runs in which each capital stands in front of its small letter. -/
def casePairs : List (Nat × Nat) :=
  [(0x100, 0x12F), (0x139, 0x13E), (0x141, 0x148), (0x14A, 0x177), (0x179, 0x17E), (0x1A0, 0x1A5),
   (0x1CD, 0x1DC), (0x1DE, 0x1EF), (0x1F8, 0x21F), (0x222, 0x233), (0x246, 0x24F), (0x3D8, 0x3EF),
   (0x460, 0x481), (0x48A, 0x4BF), (0x4C1, 0x4CE), (0x4D0, 0x52F), (0x1E00, 0x1E95), (0x1EA0, 0x1EFF),
   (0x2C67, 0x2C6C), (0x2C80, 0x2CE3), (0xA640, 0xA66D), (0xA680, 0xA69B), (0xA722, 0xA72F), (0xA732, 0xA76F),
   (0xA77E, 0xA787), (0xA796, 0xA7A9), (0xA7B4, 0xA7C3), (0xA7CC, 0xA7DB)]

end FuturesDesk.Url.Mapping
