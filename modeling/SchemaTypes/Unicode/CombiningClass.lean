import SchemaTypes.Unicode.RangeMap
set_option autoImplicit false
set_option maxRecDepth 20000

/-!
Canonical combining classes of the Unicode character database (Unicode 17.0). Characters of class 0
are starters; the others are marks that canonical ordering sorts by class.
-/

namespace SchemaTypes.Unicode

def combiningClasses : RangeMap Nat := ⟨#[
  (0x300, 0x300, 230), (0x301, 0x301, 230), (0x302, 0x302, 230), (0x303, 0x303, 230), (0x304, 0x304, 230),
  (0x305, 0x305, 230), (0x306, 0x306, 230), (0x307, 0x307, 230), (0x308, 0x308, 230), (0x309, 0x309, 230),
  (0x30A, 0x30A, 230), (0x30B, 0x30B, 230), (0x30C, 0x30C, 230), (0x30D, 0x30D, 230), (0x30E, 0x30E, 230),
  (0x30F, 0x30F, 230), (0x310, 0x310, 230), (0x311, 0x311, 230), (0x312, 0x312, 230), (0x313, 0x313, 230),
  (0x314, 0x314, 230), (0x315, 0x315, 232), (0x316, 0x316, 220), (0x317, 0x317, 220), (0x318, 0x318, 220),
  (0x319, 0x319, 220), (0x31A, 0x31A, 232), (0x31B, 0x31B, 216), (0x31C, 0x31C, 220), (0x31D, 0x31D, 220),
  (0x31E, 0x31E, 220), (0x31F, 0x31F, 220), (0x320, 0x320, 220), (0x321, 0x321, 202), (0x322, 0x322, 202),
  (0x323, 0x323, 220), (0x324, 0x324, 220), (0x325, 0x325, 220), (0x326, 0x326, 220), (0x327, 0x327, 202),
  (0x328, 0x328, 202), (0x329, 0x329, 220), (0x32A, 0x32A, 220), (0x32B, 0x32B, 220), (0x32C, 0x32C, 220),
  (0x32D, 0x32D, 220), (0x32E, 0x32E, 220), (0x32F, 0x32F, 220), (0x330, 0x330, 220), (0x331, 0x331, 220),
  (0x332, 0x332, 220), (0x333, 0x333, 220), (0x334, 0x334, 1), (0x335, 0x335, 1), (0x336, 0x336, 1),
  (0x337, 0x337, 1), (0x338, 0x338, 1), (0x339, 0x339, 220), (0x33A, 0x33A, 220), (0x33B, 0x33B, 220),
  (0x33C, 0x33C, 220), (0x33D, 0x33D, 230), (0x33E, 0x33E, 230), (0x33F, 0x33F, 230), (0x340, 0x340, 230),
  (0x341, 0x341, 230), (0x342, 0x342, 230), (0x343, 0x343, 230), (0x344, 0x344, 230), (0x345, 0x345, 240),
  (0x346, 0x346, 230), (0x347, 0x347, 220), (0x348, 0x348, 220), (0x349, 0x349, 220), (0x34A, 0x34A, 230),
  (0x34B, 0x34B, 230), (0x34C, 0x34C, 230), (0x34D, 0x34D, 220), (0x34E, 0x34E, 220), (0x350, 0x350, 230),
  (0x351, 0x351, 230), (0x352, 0x352, 230), (0x353, 0x353, 220), (0x354, 0x354, 220), (0x355, 0x355, 220),
  (0x356, 0x356, 220), (0x357, 0x357, 230), (0x358, 0x358, 232), (0x359, 0x359, 220), (0x35A, 0x35A, 220),
  (0x35B, 0x35B, 230), (0x35C, 0x35C, 233), (0x35D, 0x35D, 234), (0x35E, 0x35E, 234), (0x35F, 0x35F, 233),
  (0x360, 0x360, 234), (0x361, 0x361, 234), (0x362, 0x362, 233), (0x363, 0x363, 230), (0x364, 0x364, 230),
  (0x365, 0x365, 230), (0x366, 0x366, 230), (0x367, 0x367, 230), (0x368, 0x368, 230), (0x369, 0x369, 230),
  (0x36A, 0x36A, 230), (0x36B, 0x36B, 230), (0x36C, 0x36C, 230), (0x36D, 0x36D, 230), (0x36E, 0x36E, 230),
  (0x36F, 0x36F, 230), (0x483, 0x483, 230), (0x484, 0x484, 230), (0x485, 0x485, 230), (0x486, 0x486, 230),
  (0x487, 0x487, 230), (0x591, 0x591, 220), (0x592, 0x592, 230), (0x593, 0x593, 230), (0x594, 0x594, 230),
  (0x595, 0x595, 230), (0x596, 0x596, 220), (0x597, 0x597, 230), (0x598, 0x598, 230), (0x599, 0x599, 230),
  (0x59A, 0x59A, 222), (0x59B, 0x59B, 220), (0x59C, 0x59C, 230), (0x59D, 0x59D, 230), (0x59E, 0x59E, 230),
  (0x59F, 0x59F, 230), (0x5A0, 0x5A0, 230), (0x5A1, 0x5A1, 230), (0x5A2, 0x5A2, 220), (0x5A3, 0x5A3, 220),
  (0x5A4, 0x5A4, 220), (0x5A5, 0x5A5, 220), (0x5A6, 0x5A6, 220), (0x5A7, 0x5A7, 220), (0x5A8, 0x5A8, 230),
  (0x5A9, 0x5A9, 230), (0x5AA, 0x5AA, 220), (0x5AB, 0x5AB, 230), (0x5AC, 0x5AC, 230), (0x5AD, 0x5AD, 222),
  (0x5AE, 0x5AE, 228), (0x5AF, 0x5AF, 230), (0x5B0, 0x5B0, 10), (0x5B1, 0x5B1, 11), (0x5B2, 0x5B2, 12),
  (0x5B3, 0x5B3, 13), (0x5B4, 0x5B4, 14), (0x5B5, 0x5B5, 15), (0x5B6, 0x5B6, 16), (0x5B7, 0x5B7, 17),
  (0x5B8, 0x5B8, 18), (0x5B9, 0x5B9, 19), (0x5BA, 0x5BA, 19), (0x5BB, 0x5BB, 20), (0x5BC, 0x5BC, 21),
  (0x5BD, 0x5BD, 22), (0x5BF, 0x5BF, 23), (0x5C1, 0x5C1, 24), (0x5C2, 0x5C2, 25), (0x5C4, 0x5C4, 230),
  (0x5C5, 0x5C5, 220), (0x5C7, 0x5C7, 18), (0x610, 0x610, 230), (0x611, 0x611, 230), (0x612, 0x612, 230),
  (0x613, 0x613, 230), (0x614, 0x614, 230), (0x615, 0x615, 230), (0x616, 0x616, 230), (0x617, 0x617, 230),
  (0x618, 0x618, 30), (0x619, 0x619, 31), (0x61A, 0x61A, 32), (0x64B, 0x64B, 27), (0x64C, 0x64C, 28),
  (0x64D, 0x64D, 29), (0x64E, 0x64E, 30), (0x64F, 0x64F, 31), (0x650, 0x650, 32), (0x651, 0x651, 33),
  (0x652, 0x652, 34), (0x653, 0x653, 230), (0x654, 0x654, 230), (0x655, 0x655, 220), (0x656, 0x656, 220),
  (0x657, 0x657, 230), (0x658, 0x658, 230), (0x659, 0x659, 230), (0x65A, 0x65A, 230), (0x65B, 0x65B, 230),
  (0x65C, 0x65C, 220), (0x65D, 0x65D, 230), (0x65E, 0x65E, 230), (0x65F, 0x65F, 220), (0x670, 0x670, 35),
  (0x6D6, 0x6D6, 230), (0x6D7, 0x6D7, 230), (0x6D8, 0x6D8, 230), (0x6D9, 0x6D9, 230), (0x6DA, 0x6DA, 230),
  (0x6DB, 0x6DB, 230), (0x6DC, 0x6DC, 230), (0x6DF, 0x6DF, 230), (0x6E0, 0x6E0, 230), (0x6E1, 0x6E1, 230),
  (0x6E2, 0x6E2, 230), (0x6E3, 0x6E3, 220), (0x6E4, 0x6E4, 230), (0x6E7, 0x6E7, 230), (0x6E8, 0x6E8, 230),
  (0x6EA, 0x6EA, 220), (0x6EB, 0x6EB, 230), (0x6EC, 0x6EC, 230), (0x6ED, 0x6ED, 220), (0x711, 0x711, 36),
  (0x730, 0x730, 230), (0x731, 0x731, 220), (0x732, 0x732, 230), (0x733, 0x733, 230), (0x734, 0x734, 220),
  (0x735, 0x735, 230), (0x736, 0x736, 230), (0x737, 0x737, 220), (0x738, 0x738, 220), (0x739, 0x739, 220),
  (0x73A, 0x73A, 230), (0x73B, 0x73B, 220), (0x73C, 0x73C, 220), (0x73D, 0x73D, 230), (0x73E, 0x73E, 220),
  (0x73F, 0x73F, 230), (0x740, 0x740, 230), (0x741, 0x741, 230), (0x742, 0x742, 220), (0x743, 0x743, 230),
  (0x744, 0x744, 220), (0x745, 0x745, 230), (0x746, 0x746, 220), (0x747, 0x747, 230), (0x748, 0x748, 220),
  (0x749, 0x749, 230), (0x74A, 0x74A, 230), (0x7EB, 0x7EB, 230), (0x7EC, 0x7EC, 230), (0x7ED, 0x7ED, 230),
  (0x7EE, 0x7EE, 230), (0x7EF, 0x7EF, 230), (0x7F0, 0x7F0, 230), (0x7F1, 0x7F1, 230), (0x7F2, 0x7F2, 220),
  (0x7F3, 0x7F3, 230), (0x7FD, 0x7FD, 220), (0x816, 0x816, 230), (0x817, 0x817, 230), (0x818, 0x818, 230),
  (0x819, 0x819, 230), (0x81B, 0x81B, 230), (0x81C, 0x81C, 230), (0x81D, 0x81D, 230), (0x81E, 0x81E, 230),
  (0x81F, 0x81F, 230), (0x820, 0x820, 230), (0x821, 0x821, 230), (0x822, 0x822, 230), (0x823, 0x823, 230),
  (0x825, 0x825, 230), (0x826, 0x826, 230), (0x827, 0x827, 230), (0x829, 0x829, 230), (0x82A, 0x82A, 230),
  (0x82B, 0x82B, 230), (0x82C, 0x82C, 230), (0x82D, 0x82D, 230), (0x859, 0x859, 220), (0x85A, 0x85A, 220),
  (0x85B, 0x85B, 220), (0x897, 0x897, 230), (0x898, 0x898, 230), (0x899, 0x899, 220), (0x89A, 0x89A, 220),
  (0x89B, 0x89B, 220), (0x89C, 0x89C, 230), (0x89D, 0x89D, 230), (0x89E, 0x89E, 230), (0x89F, 0x89F, 230),
  (0x8CA, 0x8CA, 230), (0x8CB, 0x8CB, 230), (0x8CC, 0x8CC, 230), (0x8CD, 0x8CD, 230), (0x8CE, 0x8CE, 230),
  (0x8CF, 0x8CF, 220), (0x8D0, 0x8D0, 220), (0x8D1, 0x8D1, 220), (0x8D2, 0x8D2, 220), (0x8D3, 0x8D3, 220),
  (0x8D4, 0x8D4, 230), (0x8D5, 0x8D5, 230), (0x8D6, 0x8D6, 230), (0x8D7, 0x8D7, 230), (0x8D8, 0x8D8, 230),
  (0x8D9, 0x8D9, 230), (0x8DA, 0x8DA, 230), (0x8DB, 0x8DB, 230), (0x8DC, 0x8DC, 230), (0x8DD, 0x8DD, 230),
  (0x8DE, 0x8DE, 230), (0x8DF, 0x8DF, 230), (0x8E0, 0x8E0, 230), (0x8E1, 0x8E1, 230), (0x8E3, 0x8E3, 220),
  (0x8E4, 0x8E4, 230), (0x8E5, 0x8E5, 230), (0x8E6, 0x8E6, 220), (0x8E7, 0x8E7, 230), (0x8E8, 0x8E8, 230),
  (0x8E9, 0x8E9, 220), (0x8EA, 0x8EA, 230), (0x8EB, 0x8EB, 230), (0x8EC, 0x8EC, 230), (0x8ED, 0x8ED, 220),
  (0x8EE, 0x8EE, 220), (0x8EF, 0x8EF, 220), (0x8F0, 0x8F0, 27), (0x8F1, 0x8F1, 28), (0x8F2, 0x8F2, 29),
  (0x8F3, 0x8F3, 230), (0x8F4, 0x8F4, 230), (0x8F5, 0x8F5, 230), (0x8F6, 0x8F6, 220), (0x8F7, 0x8F7, 230),
  (0x8F8, 0x8F8, 230), (0x8F9, 0x8F9, 220), (0x8FA, 0x8FA, 220), (0x8FB, 0x8FB, 230), (0x8FC, 0x8FC, 230),
  (0x8FD, 0x8FD, 230), (0x8FE, 0x8FE, 230), (0x8FF, 0x8FF, 230), (0x93C, 0x93C, 7), (0x94D, 0x94D, 9),
  (0x951, 0x951, 230), (0x952, 0x952, 220), (0x953, 0x953, 230), (0x954, 0x954, 230), (0x9BC, 0x9BC, 7),
  (0x9CD, 0x9CD, 9), (0x9FE, 0x9FE, 230), (0xA3C, 0xA3C, 7), (0xA4D, 0xA4D, 9), (0xABC, 0xABC, 7),
  (0xACD, 0xACD, 9), (0xB3C, 0xB3C, 7), (0xB4D, 0xB4D, 9), (0xBCD, 0xBCD, 9), (0xC3C, 0xC3C, 7),
  (0xC4D, 0xC4D, 9), (0xC55, 0xC55, 84), (0xC56, 0xC56, 91), (0xCBC, 0xCBC, 7), (0xCCD, 0xCCD, 9),
  (0xD3B, 0xD3B, 9), (0xD3C, 0xD3C, 9), (0xD4D, 0xD4D, 9), (0xDCA, 0xDCA, 9), (0xE38, 0xE38, 103),
  (0xE39, 0xE39, 103), (0xE3A, 0xE3A, 9), (0xE48, 0xE48, 107), (0xE49, 0xE49, 107), (0xE4A, 0xE4A, 107),
  (0xE4B, 0xE4B, 107), (0xEB8, 0xEB8, 118), (0xEB9, 0xEB9, 118), (0xEBA, 0xEBA, 9), (0xEC8, 0xEC8, 122),
  (0xEC9, 0xEC9, 122), (0xECA, 0xECA, 122), (0xECB, 0xECB, 122), (0xF18, 0xF18, 220), (0xF19, 0xF19, 220),
  (0xF35, 0xF35, 220), (0xF37, 0xF37, 220), (0xF39, 0xF39, 216), (0xF71, 0xF71, 129), (0xF72, 0xF72, 130),
  (0xF74, 0xF74, 132), (0xF7A, 0xF7A, 130), (0xF7B, 0xF7B, 130), (0xF7C, 0xF7C, 130), (0xF7D, 0xF7D, 130),
  (0xF80, 0xF80, 130), (0xF82, 0xF82, 230), (0xF83, 0xF83, 230), (0xF84, 0xF84, 9), (0xF86, 0xF86, 230),
  (0xF87, 0xF87, 230), (0xFC6, 0xFC6, 220), (0x1037, 0x1037, 7), (0x1039, 0x1039, 9), (0x103A, 0x103A, 9),
  (0x108D, 0x108D, 220), (0x135D, 0x135D, 230), (0x135E, 0x135E, 230), (0x135F, 0x135F, 230), (0x1714, 0x1714, 9),
  (0x1715, 0x1715, 9), (0x1734, 0x1734, 9), (0x17D2, 0x17D2, 9), (0x17DD, 0x17DD, 230), (0x18A9, 0x18A9, 228),
  (0x1939, 0x1939, 222), (0x193A, 0x193A, 230), (0x193B, 0x193B, 220), (0x1A17, 0x1A17, 230), (0x1A18, 0x1A18, 220),
  (0x1A60, 0x1A60, 9), (0x1A75, 0x1A75, 230), (0x1A76, 0x1A76, 230), (0x1A77, 0x1A77, 230), (0x1A78, 0x1A78, 230),
  (0x1A79, 0x1A79, 230), (0x1A7A, 0x1A7A, 230), (0x1A7B, 0x1A7B, 230), (0x1A7C, 0x1A7C, 230), (0x1A7F, 0x1A7F, 220),
  (0x1AB0, 0x1AB0, 230), (0x1AB1, 0x1AB1, 230), (0x1AB2, 0x1AB2, 230), (0x1AB3, 0x1AB3, 230), (0x1AB4, 0x1AB4, 230),
  (0x1AB5, 0x1AB5, 220), (0x1AB6, 0x1AB6, 220), (0x1AB7, 0x1AB7, 220), (0x1AB8, 0x1AB8, 220), (0x1AB9, 0x1AB9, 220),
  (0x1ABA, 0x1ABA, 220), (0x1ABB, 0x1ABB, 230), (0x1ABC, 0x1ABC, 230), (0x1ABD, 0x1ABD, 220), (0x1ABF, 0x1ABF, 220),
  (0x1AC0, 0x1AC0, 220), (0x1AC1, 0x1AC1, 230), (0x1AC2, 0x1AC2, 230), (0x1AC3, 0x1AC3, 220), (0x1AC4, 0x1AC4, 220),
  (0x1AC5, 0x1AC5, 230), (0x1AC6, 0x1AC6, 230), (0x1AC7, 0x1AC7, 230), (0x1AC8, 0x1AC8, 230), (0x1AC9, 0x1AC9, 230),
  (0x1ACA, 0x1ACA, 220), (0x1ACB, 0x1ACB, 230), (0x1ACC, 0x1ACC, 230), (0x1ACD, 0x1ACD, 230), (0x1ACE, 0x1ACE, 230),
  (0x1ACF, 0x1ACF, 230), (0x1AD0, 0x1AD0, 230), (0x1AD1, 0x1AD1, 230), (0x1AD2, 0x1AD2, 230), (0x1AD3, 0x1AD3, 230),
  (0x1AD4, 0x1AD4, 230), (0x1AD5, 0x1AD5, 230), (0x1AD6, 0x1AD6, 230), (0x1AD7, 0x1AD7, 230), (0x1AD8, 0x1AD8, 230),
  (0x1AD9, 0x1AD9, 230), (0x1ADA, 0x1ADA, 230), (0x1ADB, 0x1ADB, 230), (0x1ADC, 0x1ADC, 230), (0x1ADD, 0x1ADD, 220),
  (0x1AE0, 0x1AE0, 230), (0x1AE1, 0x1AE1, 230), (0x1AE2, 0x1AE2, 230), (0x1AE3, 0x1AE3, 230), (0x1AE4, 0x1AE4, 230),
  (0x1AE5, 0x1AE5, 230), (0x1AE6, 0x1AE6, 220), (0x1AE7, 0x1AE7, 230), (0x1AE8, 0x1AE8, 230), (0x1AE9, 0x1AE9, 230),
  (0x1AEA, 0x1AEA, 230), (0x1AEB, 0x1AEB, 234), (0x1B34, 0x1B34, 7), (0x1B44, 0x1B44, 9), (0x1B6B, 0x1B6B, 230),
  (0x1B6C, 0x1B6C, 220), (0x1B6D, 0x1B6D, 230), (0x1B6E, 0x1B6E, 230), (0x1B6F, 0x1B6F, 230), (0x1B70, 0x1B70, 230),
  (0x1B71, 0x1B71, 230), (0x1B72, 0x1B72, 230), (0x1B73, 0x1B73, 230), (0x1BAA, 0x1BAA, 9), (0x1BAB, 0x1BAB, 9),
  (0x1BE6, 0x1BE6, 7), (0x1BF2, 0x1BF2, 9), (0x1BF3, 0x1BF3, 9), (0x1C37, 0x1C37, 7), (0x1CD0, 0x1CD0, 230),
  (0x1CD1, 0x1CD1, 230), (0x1CD2, 0x1CD2, 230), (0x1CD4, 0x1CD4, 1), (0x1CD5, 0x1CD5, 220), (0x1CD6, 0x1CD6, 220),
  (0x1CD7, 0x1CD7, 220), (0x1CD8, 0x1CD8, 220), (0x1CD9, 0x1CD9, 220), (0x1CDA, 0x1CDA, 230), (0x1CDB, 0x1CDB, 230),
  (0x1CDC, 0x1CDC, 220), (0x1CDD, 0x1CDD, 220), (0x1CDE, 0x1CDE, 220), (0x1CDF, 0x1CDF, 220), (0x1CE0, 0x1CE0, 230),
  (0x1CE2, 0x1CE2, 1), (0x1CE3, 0x1CE3, 1), (0x1CE4, 0x1CE4, 1), (0x1CE5, 0x1CE5, 1), (0x1CE6, 0x1CE6, 1),
  (0x1CE7, 0x1CE7, 1), (0x1CE8, 0x1CE8, 1), (0x1CED, 0x1CED, 220), (0x1CF4, 0x1CF4, 230), (0x1CF8, 0x1CF8, 230),
  (0x1CF9, 0x1CF9, 230), (0x1DC0, 0x1DC0, 230), (0x1DC1, 0x1DC1, 230), (0x1DC2, 0x1DC2, 220), (0x1DC3, 0x1DC3, 230),
  (0x1DC4, 0x1DC4, 230), (0x1DC5, 0x1DC5, 230), (0x1DC6, 0x1DC6, 230), (0x1DC7, 0x1DC7, 230), (0x1DC8, 0x1DC8, 230),
  (0x1DC9, 0x1DC9, 230), (0x1DCA, 0x1DCA, 220), (0x1DCB, 0x1DCB, 230), (0x1DCC, 0x1DCC, 230), (0x1DCD, 0x1DCD, 234),
  (0x1DCE, 0x1DCE, 214), (0x1DCF, 0x1DCF, 220), (0x1DD0, 0x1DD0, 202), (0x1DD1, 0x1DD1, 230), (0x1DD2, 0x1DD2, 230),
  (0x1DD3, 0x1DD3, 230), (0x1DD4, 0x1DD4, 230), (0x1DD5, 0x1DD5, 230), (0x1DD6, 0x1DD6, 230), (0x1DD7, 0x1DD7, 230),
  (0x1DD8, 0x1DD8, 230), (0x1DD9, 0x1DD9, 230), (0x1DDA, 0x1DDA, 230), (0x1DDB, 0x1DDB, 230), (0x1DDC, 0x1DDC, 230),
  (0x1DDD, 0x1DDD, 230), (0x1DDE, 0x1DDE, 230), (0x1DDF, 0x1DDF, 230), (0x1DE0, 0x1DE0, 230), (0x1DE1, 0x1DE1, 230),
  (0x1DE2, 0x1DE2, 230), (0x1DE3, 0x1DE3, 230), (0x1DE4, 0x1DE4, 230), (0x1DE5, 0x1DE5, 230), (0x1DE6, 0x1DE6, 230),
  (0x1DE7, 0x1DE7, 230), (0x1DE8, 0x1DE8, 230), (0x1DE9, 0x1DE9, 230), (0x1DEA, 0x1DEA, 230), (0x1DEB, 0x1DEB, 230),
  (0x1DEC, 0x1DEC, 230), (0x1DED, 0x1DED, 230), (0x1DEE, 0x1DEE, 230), (0x1DEF, 0x1DEF, 230), (0x1DF0, 0x1DF0, 230),
  (0x1DF1, 0x1DF1, 230), (0x1DF2, 0x1DF2, 230), (0x1DF3, 0x1DF3, 230), (0x1DF4, 0x1DF4, 230), (0x1DF5, 0x1DF5, 230),
  (0x1DF6, 0x1DF6, 232), (0x1DF7, 0x1DF7, 228), (0x1DF8, 0x1DF8, 228), (0x1DF9, 0x1DF9, 220), (0x1DFA, 0x1DFA, 218),
  (0x1DFB, 0x1DFB, 230), (0x1DFC, 0x1DFC, 233), (0x1DFD, 0x1DFD, 220), (0x1DFE, 0x1DFE, 230), (0x1DFF, 0x1DFF, 220),
  (0x20D0, 0x20D0, 230), (0x20D1, 0x20D1, 230), (0x20D2, 0x20D2, 1), (0x20D3, 0x20D3, 1), (0x20D4, 0x20D4, 230),
  (0x20D5, 0x20D5, 230), (0x20D6, 0x20D6, 230), (0x20D7, 0x20D7, 230), (0x20D8, 0x20D8, 1), (0x20D9, 0x20D9, 1),
  (0x20DA, 0x20DA, 1), (0x20DB, 0x20DB, 230), (0x20DC, 0x20DC, 230), (0x20E1, 0x20E1, 230), (0x20E5, 0x20E5, 1),
  (0x20E6, 0x20E6, 1), (0x20E7, 0x20E7, 230), (0x20E8, 0x20E8, 220), (0x20E9, 0x20E9, 230), (0x20EA, 0x20EA, 1),
  (0x20EB, 0x20EB, 1), (0x20EC, 0x20EC, 220), (0x20ED, 0x20ED, 220), (0x20EE, 0x20EE, 220), (0x20EF, 0x20EF, 220),
  (0x20F0, 0x20F0, 230), (0x2CEF, 0x2CEF, 230), (0x2CF0, 0x2CF0, 230), (0x2CF1, 0x2CF1, 230), (0x2D7F, 0x2D7F, 9),
  (0x2DE0, 0x2DE0, 230), (0x2DE1, 0x2DE1, 230), (0x2DE2, 0x2DE2, 230), (0x2DE3, 0x2DE3, 230), (0x2DE4, 0x2DE4, 230),
  (0x2DE5, 0x2DE5, 230), (0x2DE6, 0x2DE6, 230), (0x2DE7, 0x2DE7, 230), (0x2DE8, 0x2DE8, 230), (0x2DE9, 0x2DE9, 230),
  (0x2DEA, 0x2DEA, 230), (0x2DEB, 0x2DEB, 230), (0x2DEC, 0x2DEC, 230), (0x2DED, 0x2DED, 230), (0x2DEE, 0x2DEE, 230),
  (0x2DEF, 0x2DEF, 230), (0x2DF0, 0x2DF0, 230), (0x2DF1, 0x2DF1, 230), (0x2DF2, 0x2DF2, 230), (0x2DF3, 0x2DF3, 230),
  (0x2DF4, 0x2DF4, 230), (0x2DF5, 0x2DF5, 230), (0x2DF6, 0x2DF6, 230), (0x2DF7, 0x2DF7, 230), (0x2DF8, 0x2DF8, 230),
  (0x2DF9, 0x2DF9, 230), (0x2DFA, 0x2DFA, 230), (0x2DFB, 0x2DFB, 230), (0x2DFC, 0x2DFC, 230), (0x2DFD, 0x2DFD, 230),
  (0x2DFE, 0x2DFE, 230), (0x2DFF, 0x2DFF, 230), (0x302A, 0x302A, 218), (0x302B, 0x302B, 228), (0x302C, 0x302C, 232),
  (0x302D, 0x302D, 222), (0x302E, 0x302E, 224), (0x302F, 0x302F, 224), (0x3099, 0x3099, 8), (0x309A, 0x309A, 8),
  (0xA66F, 0xA66F, 230), (0xA674, 0xA674, 230), (0xA675, 0xA675, 230), (0xA676, 0xA676, 230), (0xA677, 0xA677, 230),
  (0xA678, 0xA678, 230), (0xA679, 0xA679, 230), (0xA67A, 0xA67A, 230), (0xA67B, 0xA67B, 230), (0xA67C, 0xA67C, 230),
  (0xA67D, 0xA67D, 230), (0xA69E, 0xA69E, 230), (0xA69F, 0xA69F, 230), (0xA6F0, 0xA6F0, 230), (0xA6F1, 0xA6F1, 230),
  (0xA806, 0xA806, 9), (0xA82C, 0xA82C, 9), (0xA8C4, 0xA8C4, 9), (0xA8E0, 0xA8E0, 230), (0xA8E1, 0xA8E1, 230),
  (0xA8E2, 0xA8E2, 230), (0xA8E3, 0xA8E3, 230), (0xA8E4, 0xA8E4, 230), (0xA8E5, 0xA8E5, 230), (0xA8E6, 0xA8E6, 230),
  (0xA8E7, 0xA8E7, 230), (0xA8E8, 0xA8E8, 230), (0xA8E9, 0xA8E9, 230), (0xA8EA, 0xA8EA, 230), (0xA8EB, 0xA8EB, 230),
  (0xA8EC, 0xA8EC, 230), (0xA8ED, 0xA8ED, 230), (0xA8EE, 0xA8EE, 230), (0xA8EF, 0xA8EF, 230), (0xA8F0, 0xA8F0, 230),
  (0xA8F1, 0xA8F1, 230), (0xA92B, 0xA92B, 220), (0xA92C, 0xA92C, 220), (0xA92D, 0xA92D, 220), (0xA953, 0xA953, 9),
  (0xA9B3, 0xA9B3, 7), (0xA9C0, 0xA9C0, 9), (0xAAB0, 0xAAB0, 230), (0xAAB2, 0xAAB2, 230), (0xAAB3, 0xAAB3, 230),
  (0xAAB4, 0xAAB4, 220), (0xAAB7, 0xAAB7, 230), (0xAAB8, 0xAAB8, 230), (0xAABE, 0xAABE, 230), (0xAABF, 0xAABF, 230),
  (0xAAC1, 0xAAC1, 230), (0xAAF6, 0xAAF6, 9), (0xABED, 0xABED, 9), (0xFB1E, 0xFB1E, 26), (0xFE20, 0xFE20, 230),
  (0xFE21, 0xFE21, 230), (0xFE22, 0xFE22, 230), (0xFE23, 0xFE23, 230), (0xFE24, 0xFE24, 230), (0xFE25, 0xFE25, 230),
  (0xFE26, 0xFE26, 230), (0xFE27, 0xFE27, 220), (0xFE28, 0xFE28, 220), (0xFE29, 0xFE29, 220), (0xFE2A, 0xFE2A, 220),
  (0xFE2B, 0xFE2B, 220), (0xFE2C, 0xFE2C, 220), (0xFE2D, 0xFE2D, 220), (0xFE2E, 0xFE2E, 230), (0xFE2F, 0xFE2F, 230),
  (0x101FD, 0x101FD, 220), (0x102E0, 0x102E0, 220), (0x10376, 0x10376, 230), (0x10377, 0x10377, 230), (0x10378, 0x10378, 230),
  (0x10379, 0x10379, 230), (0x1037A, 0x1037A, 230), (0x10A0D, 0x10A0D, 220), (0x10A0F, 0x10A0F, 230), (0x10A38, 0x10A38, 230),
  (0x10A39, 0x10A39, 1), (0x10A3A, 0x10A3A, 220), (0x10A3F, 0x10A3F, 9), (0x10AE5, 0x10AE5, 230), (0x10AE6, 0x10AE6, 220),
  (0x10D24, 0x10D24, 230), (0x10D25, 0x10D25, 230), (0x10D26, 0x10D26, 230), (0x10D27, 0x10D27, 230), (0x10D69, 0x10D69, 230),
  (0x10D6A, 0x10D6A, 230), (0x10D6B, 0x10D6B, 230), (0x10D6C, 0x10D6C, 230), (0x10D6D, 0x10D6D, 230), (0x10EAB, 0x10EAB, 230),
  (0x10EAC, 0x10EAC, 230), (0x10EFA, 0x10EFA, 220), (0x10EFB, 0x10EFB, 220), (0x10EFD, 0x10EFD, 220), (0x10EFE, 0x10EFE, 220),
  (0x10EFF, 0x10EFF, 220), (0x10F46, 0x10F46, 220), (0x10F47, 0x10F47, 220), (0x10F48, 0x10F48, 230), (0x10F49, 0x10F49, 230),
  (0x10F4A, 0x10F4A, 230), (0x10F4B, 0x10F4B, 220), (0x10F4C, 0x10F4C, 230), (0x10F4D, 0x10F4D, 220), (0x10F4E, 0x10F4E, 220),
  (0x10F4F, 0x10F4F, 220), (0x10F50, 0x10F50, 220), (0x10F82, 0x10F82, 230), (0x10F83, 0x10F83, 220), (0x10F84, 0x10F84, 230),
  (0x10F85, 0x10F85, 220), (0x11046, 0x11046, 9), (0x11070, 0x11070, 9), (0x1107F, 0x1107F, 9), (0x110B9, 0x110B9, 9),
  (0x110BA, 0x110BA, 7), (0x11100, 0x11100, 230), (0x11101, 0x11101, 230), (0x11102, 0x11102, 230), (0x11133, 0x11133, 9),
  (0x11134, 0x11134, 9), (0x11173, 0x11173, 7), (0x111C0, 0x111C0, 9), (0x111CA, 0x111CA, 7), (0x11235, 0x11235, 9),
  (0x11236, 0x11236, 7), (0x112E9, 0x112E9, 7), (0x112EA, 0x112EA, 9), (0x1133B, 0x1133B, 7), (0x1133C, 0x1133C, 7),
  (0x1134D, 0x1134D, 9), (0x11366, 0x11366, 230), (0x11367, 0x11367, 230), (0x11368, 0x11368, 230), (0x11369, 0x11369, 230),
  (0x1136A, 0x1136A, 230), (0x1136B, 0x1136B, 230), (0x1136C, 0x1136C, 230), (0x11370, 0x11370, 230), (0x11371, 0x11371, 230),
  (0x11372, 0x11372, 230), (0x11373, 0x11373, 230), (0x11374, 0x11374, 230), (0x113CE, 0x113CE, 9), (0x113CF, 0x113CF, 9),
  (0x113D0, 0x113D0, 9), (0x11442, 0x11442, 9), (0x11446, 0x11446, 7), (0x1145E, 0x1145E, 230), (0x114C2, 0x114C2, 9),
  (0x114C3, 0x114C3, 7), (0x115BF, 0x115BF, 9), (0x115C0, 0x115C0, 7), (0x1163F, 0x1163F, 9), (0x116B6, 0x116B6, 9),
  (0x116B7, 0x116B7, 7), (0x1172B, 0x1172B, 9), (0x11839, 0x11839, 9), (0x1183A, 0x1183A, 7), (0x1193D, 0x1193D, 9),
  (0x1193E, 0x1193E, 9), (0x11943, 0x11943, 7), (0x119E0, 0x119E0, 9), (0x11A34, 0x11A34, 9), (0x11A47, 0x11A47, 9),
  (0x11A99, 0x11A99, 9), (0x11C3F, 0x11C3F, 9), (0x11D42, 0x11D42, 7), (0x11D44, 0x11D44, 9), (0x11D45, 0x11D45, 9),
  (0x11D97, 0x11D97, 9), (0x11F41, 0x11F41, 9), (0x11F42, 0x11F42, 9), (0x1612F, 0x1612F, 9), (0x16AF0, 0x16AF0, 1),
  (0x16AF1, 0x16AF1, 1), (0x16AF2, 0x16AF2, 1), (0x16AF3, 0x16AF3, 1), (0x16AF4, 0x16AF4, 1), (0x16B30, 0x16B30, 230),
  (0x16B31, 0x16B31, 230), (0x16B32, 0x16B32, 230), (0x16B33, 0x16B33, 230), (0x16B34, 0x16B34, 230), (0x16B35, 0x16B35, 230),
  (0x16B36, 0x16B36, 230), (0x16FF0, 0x16FF0, 6), (0x16FF1, 0x16FF1, 6), (0x1BC9E, 0x1BC9E, 1), (0x1D165, 0x1D165, 216),
  (0x1D166, 0x1D166, 216), (0x1D167, 0x1D167, 1), (0x1D168, 0x1D168, 1), (0x1D169, 0x1D169, 1), (0x1D16D, 0x1D16D, 226),
  (0x1D16E, 0x1D16E, 216), (0x1D16F, 0x1D16F, 216), (0x1D170, 0x1D170, 216), (0x1D171, 0x1D171, 216), (0x1D172, 0x1D172, 216),
  (0x1D17B, 0x1D17B, 220), (0x1D17C, 0x1D17C, 220), (0x1D17D, 0x1D17D, 220), (0x1D17E, 0x1D17E, 220), (0x1D17F, 0x1D17F, 220),
  (0x1D180, 0x1D180, 220), (0x1D181, 0x1D181, 220), (0x1D182, 0x1D182, 220), (0x1D185, 0x1D185, 230), (0x1D186, 0x1D186, 230),
  (0x1D187, 0x1D187, 230), (0x1D188, 0x1D188, 230), (0x1D189, 0x1D189, 230), (0x1D18A, 0x1D18A, 220), (0x1D18B, 0x1D18B, 220),
  (0x1D1AA, 0x1D1AA, 230), (0x1D1AB, 0x1D1AB, 230), (0x1D1AC, 0x1D1AC, 230), (0x1D1AD, 0x1D1AD, 230), (0x1D242, 0x1D242, 230),
  (0x1D243, 0x1D243, 230), (0x1D244, 0x1D244, 230), (0x1E000, 0x1E000, 230), (0x1E001, 0x1E001, 230), (0x1E002, 0x1E002, 230),
  (0x1E003, 0x1E003, 230), (0x1E004, 0x1E004, 230), (0x1E005, 0x1E005, 230), (0x1E006, 0x1E006, 230), (0x1E008, 0x1E008, 230),
  (0x1E009, 0x1E009, 230), (0x1E00A, 0x1E00A, 230), (0x1E00B, 0x1E00B, 230), (0x1E00C, 0x1E00C, 230), (0x1E00D, 0x1E00D, 230),
  (0x1E00E, 0x1E00E, 230), (0x1E00F, 0x1E00F, 230), (0x1E010, 0x1E010, 230), (0x1E011, 0x1E011, 230), (0x1E012, 0x1E012, 230),
  (0x1E013, 0x1E013, 230), (0x1E014, 0x1E014, 230), (0x1E015, 0x1E015, 230), (0x1E016, 0x1E016, 230), (0x1E017, 0x1E017, 230),
  (0x1E018, 0x1E018, 230), (0x1E01B, 0x1E01B, 230), (0x1E01C, 0x1E01C, 230), (0x1E01D, 0x1E01D, 230), (0x1E01E, 0x1E01E, 230),
  (0x1E01F, 0x1E01F, 230), (0x1E020, 0x1E020, 230), (0x1E021, 0x1E021, 230), (0x1E023, 0x1E023, 230), (0x1E024, 0x1E024, 230),
  (0x1E026, 0x1E026, 230), (0x1E027, 0x1E027, 230), (0x1E028, 0x1E028, 230), (0x1E029, 0x1E029, 230), (0x1E02A, 0x1E02A, 230),
  (0x1E08F, 0x1E08F, 230), (0x1E130, 0x1E130, 230), (0x1E131, 0x1E131, 230), (0x1E132, 0x1E132, 230), (0x1E133, 0x1E133, 230),
  (0x1E134, 0x1E134, 230), (0x1E135, 0x1E135, 230), (0x1E136, 0x1E136, 230), (0x1E2AE, 0x1E2AE, 230), (0x1E2EC, 0x1E2EC, 230),
  (0x1E2ED, 0x1E2ED, 230), (0x1E2EE, 0x1E2EE, 230), (0x1E2EF, 0x1E2EF, 230), (0x1E4EC, 0x1E4EC, 232), (0x1E4ED, 0x1E4ED, 232),
  (0x1E4EE, 0x1E4EE, 220), (0x1E4EF, 0x1E4EF, 230), (0x1E5EE, 0x1E5EE, 230), (0x1E5EF, 0x1E5EF, 220), (0x1E6E3, 0x1E6E3, 230),
  (0x1E6E6, 0x1E6E6, 230), (0x1E6EE, 0x1E6EE, 230), (0x1E6EF, 0x1E6EF, 230), (0x1E6F5, 0x1E6F5, 230), (0x1E8D0, 0x1E8D0, 220),
  (0x1E8D1, 0x1E8D1, 220), (0x1E8D2, 0x1E8D2, 220), (0x1E8D3, 0x1E8D3, 220), (0x1E8D4, 0x1E8D4, 220), (0x1E8D5, 0x1E8D5, 220),
  (0x1E8D6, 0x1E8D6, 220), (0x1E944, 0x1E944, 230), (0x1E945, 0x1E945, 230), (0x1E946, 0x1E946, 230), (0x1E947, 0x1E947, 230),
  (0x1E948, 0x1E948, 230), (0x1E949, 0x1E949, 230), (0x1E94A, 0x1E94A, 7)]⟩

/-- The canonical combining class of a code point; 0 for starters. -/
def combiningClass (n : Nat) : Nat := (combiningClasses.get? n).getD 0

end SchemaTypes.Unicode
