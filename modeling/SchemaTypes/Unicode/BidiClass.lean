import SchemaTypes.Unicode.RangeMap
set_option autoImplicit false
set_option maxRecDepth 20000

/-!
Bidirectional classes of the Unicode character database (Unicode 17.0), with the defaults it gives
to unassigned code points. Code points not listed are left-to-right.
-/

namespace SchemaTypes.Unicode

/-- The bidirectional class of a character. -/
inductive BidiClass where
  | leftToRight
  | rightToLeft
  | arabicLetter
  | europeanNumber
  | europeanSeparator
  | europeanTerminator
  | arabicNumber
  | commonSeparator
  | nonspacingMark
  | boundaryNeutral
  | paragraphSeparator
  | segmentSeparator
  | whiteSpace
  | otherNeutral
  | leftToRightEmbedding
  | leftToRightOverride
  | rightToLeftEmbedding
  | rightToLeftOverride
  | popDirectionalFormat
  | leftToRightIsolate
  | rightToLeftIsolate
  | firstStrongIsolate
  | popDirectionalIsolate
  deriving Repr, DecidableEq, Inhabited

open BidiClass in
def bidiClasses : RangeMap BidiClass := ⟨#[
  (0x0, 0x8, boundaryNeutral), (0x9, 0x9, segmentSeparator), (0xA, 0xA, paragraphSeparator), (0xB, 0xB, segmentSeparator),
  (0xC, 0xC, whiteSpace), (0xD, 0xD, paragraphSeparator), (0xE, 0x1B, boundaryNeutral), (0x1C, 0x1E, paragraphSeparator),
  (0x1F, 0x1F, segmentSeparator), (0x20, 0x20, whiteSpace), (0x21, 0x22, otherNeutral), (0x23, 0x25, europeanTerminator),
  (0x26, 0x2A, otherNeutral), (0x2B, 0x2B, europeanSeparator), (0x2C, 0x2C, commonSeparator), (0x2D, 0x2D, europeanSeparator),
  (0x2E, 0x2F, commonSeparator), (0x30, 0x39, europeanNumber), (0x3A, 0x3A, commonSeparator), (0x3B, 0x40, otherNeutral),
  (0x5B, 0x60, otherNeutral), (0x7B, 0x7E, otherNeutral), (0x7F, 0x84, boundaryNeutral), (0x85, 0x85, paragraphSeparator),
  (0x86, 0x9F, boundaryNeutral), (0xA0, 0xA0, commonSeparator), (0xA1, 0xA1, otherNeutral), (0xA2, 0xA5, europeanTerminator),
  (0xA6, 0xA9, otherNeutral), (0xAB, 0xAC, otherNeutral), (0xAD, 0xAD, boundaryNeutral), (0xAE, 0xAF, otherNeutral),
  (0xB0, 0xB1, europeanTerminator), (0xB2, 0xB3, europeanNumber), (0xB4, 0xB4, otherNeutral), (0xB6, 0xB8, otherNeutral),
  (0xB9, 0xB9, europeanNumber), (0xBB, 0xBF, otherNeutral), (0xD7, 0xD7, otherNeutral), (0xF7, 0xF7, otherNeutral),
  (0x2B9, 0x2BA, otherNeutral), (0x2C2, 0x2CF, otherNeutral), (0x2D2, 0x2DF, otherNeutral), (0x2E5, 0x2ED, otherNeutral),
  (0x2EF, 0x2FF, otherNeutral), (0x300, 0x36F, nonspacingMark), (0x374, 0x375, otherNeutral), (0x37E, 0x37E, otherNeutral),
  (0x384, 0x385, otherNeutral), (0x387, 0x387, otherNeutral), (0x3F6, 0x3F6, otherNeutral), (0x483, 0x489, nonspacingMark),
  (0x58A, 0x58A, otherNeutral), (0x58D, 0x58E, otherNeutral), (0x58F, 0x58F, europeanTerminator), (0x590, 0x590, rightToLeft),
  (0x591, 0x5BD, nonspacingMark), (0x5BE, 0x5BE, rightToLeft), (0x5BF, 0x5BF, nonspacingMark), (0x5C0, 0x5C0, rightToLeft),
  (0x5C1, 0x5C2, nonspacingMark), (0x5C3, 0x5C3, rightToLeft), (0x5C4, 0x5C5, nonspacingMark), (0x5C6, 0x5C6, rightToLeft),
  (0x5C7, 0x5C7, nonspacingMark), (0x5C8, 0x5FF, rightToLeft), (0x600, 0x605, arabicNumber), (0x606, 0x607, otherNeutral),
  (0x608, 0x608, arabicLetter), (0x609, 0x60A, europeanTerminator), (0x60B, 0x60B, arabicLetter), (0x60C, 0x60C, commonSeparator),
  (0x60D, 0x60D, arabicLetter), (0x60E, 0x60F, otherNeutral), (0x610, 0x61A, nonspacingMark), (0x61B, 0x64A, arabicLetter),
  (0x64B, 0x65F, nonspacingMark), (0x660, 0x669, arabicNumber), (0x66A, 0x66A, europeanTerminator), (0x66B, 0x66C, arabicNumber),
  (0x66D, 0x66F, arabicLetter), (0x670, 0x670, nonspacingMark), (0x671, 0x6D5, arabicLetter), (0x6D6, 0x6DC, nonspacingMark),
  (0x6DD, 0x6DD, arabicNumber), (0x6DE, 0x6DE, otherNeutral), (0x6DF, 0x6E4, nonspacingMark), (0x6E5, 0x6E6, arabicLetter),
  (0x6E7, 0x6E8, nonspacingMark), (0x6E9, 0x6E9, otherNeutral), (0x6EA, 0x6ED, nonspacingMark), (0x6EE, 0x6EF, arabicLetter),
  (0x6F0, 0x6F9, europeanNumber), (0x6FA, 0x710, arabicLetter), (0x711, 0x711, nonspacingMark), (0x712, 0x72F, arabicLetter),
  (0x730, 0x74A, nonspacingMark), (0x74B, 0x7A5, arabicLetter), (0x7A6, 0x7B0, nonspacingMark), (0x7B1, 0x7BF, arabicLetter),
  (0x7C0, 0x7EA, rightToLeft), (0x7EB, 0x7F3, nonspacingMark), (0x7F4, 0x7F5, rightToLeft), (0x7F6, 0x7F9, otherNeutral),
  (0x7FA, 0x7FC, rightToLeft), (0x7FD, 0x7FD, nonspacingMark), (0x7FE, 0x815, rightToLeft), (0x816, 0x819, nonspacingMark),
  (0x81A, 0x81A, rightToLeft), (0x81B, 0x823, nonspacingMark), (0x824, 0x824, rightToLeft), (0x825, 0x827, nonspacingMark),
  (0x828, 0x828, rightToLeft), (0x829, 0x82D, nonspacingMark), (0x82E, 0x858, rightToLeft), (0x859, 0x85B, nonspacingMark),
  (0x85C, 0x85F, rightToLeft), (0x860, 0x88F, arabicLetter), (0x890, 0x891, arabicNumber), (0x892, 0x896, arabicLetter),
  (0x897, 0x89F, nonspacingMark), (0x8A0, 0x8C9, arabicLetter), (0x8CA, 0x8E1, nonspacingMark), (0x8E2, 0x8E2, arabicNumber),
  (0x8E3, 0x902, nonspacingMark), (0x93A, 0x93A, nonspacingMark), (0x93C, 0x93C, nonspacingMark), (0x941, 0x948, nonspacingMark),
  (0x94D, 0x94D, nonspacingMark), (0x951, 0x957, nonspacingMark), (0x962, 0x963, nonspacingMark), (0x981, 0x981, nonspacingMark),
  (0x9BC, 0x9BC, nonspacingMark), (0x9C1, 0x9C4, nonspacingMark), (0x9CD, 0x9CD, nonspacingMark), (0x9E2, 0x9E3, nonspacingMark),
  (0x9F2, 0x9F3, europeanTerminator), (0x9FB, 0x9FB, europeanTerminator), (0x9FE, 0x9FE, nonspacingMark), (0xA01, 0xA02, nonspacingMark),
  (0xA3C, 0xA3C, nonspacingMark), (0xA41, 0xA42, nonspacingMark), (0xA47, 0xA48, nonspacingMark), (0xA4B, 0xA4D, nonspacingMark),
  (0xA51, 0xA51, nonspacingMark), (0xA70, 0xA71, nonspacingMark), (0xA75, 0xA75, nonspacingMark), (0xA81, 0xA82, nonspacingMark),
  (0xABC, 0xABC, nonspacingMark), (0xAC1, 0xAC5, nonspacingMark), (0xAC7, 0xAC8, nonspacingMark), (0xACD, 0xACD, nonspacingMark),
  (0xAE2, 0xAE3, nonspacingMark), (0xAF1, 0xAF1, europeanTerminator), (0xAFA, 0xAFF, nonspacingMark), (0xB01, 0xB01, nonspacingMark),
  (0xB3C, 0xB3C, nonspacingMark), (0xB3F, 0xB3F, nonspacingMark), (0xB41, 0xB44, nonspacingMark), (0xB4D, 0xB4D, nonspacingMark),
  (0xB55, 0xB56, nonspacingMark), (0xB62, 0xB63, nonspacingMark), (0xB82, 0xB82, nonspacingMark), (0xBC0, 0xBC0, nonspacingMark),
  (0xBCD, 0xBCD, nonspacingMark), (0xBF3, 0xBF8, otherNeutral), (0xBF9, 0xBF9, europeanTerminator), (0xBFA, 0xBFA, otherNeutral),
  (0xC00, 0xC00, nonspacingMark), (0xC04, 0xC04, nonspacingMark), (0xC3C, 0xC3C, nonspacingMark), (0xC3E, 0xC40, nonspacingMark),
  (0xC46, 0xC48, nonspacingMark), (0xC4A, 0xC4D, nonspacingMark), (0xC55, 0xC56, nonspacingMark), (0xC62, 0xC63, nonspacingMark),
  (0xC78, 0xC7E, otherNeutral), (0xC81, 0xC81, nonspacingMark), (0xCBC, 0xCBC, nonspacingMark), (0xCCC, 0xCCD, nonspacingMark),
  (0xCE2, 0xCE3, nonspacingMark), (0xD00, 0xD01, nonspacingMark), (0xD3B, 0xD3C, nonspacingMark), (0xD41, 0xD44, nonspacingMark),
  (0xD4D, 0xD4D, nonspacingMark), (0xD62, 0xD63, nonspacingMark), (0xD81, 0xD81, nonspacingMark), (0xDCA, 0xDCA, nonspacingMark),
  (0xDD2, 0xDD4, nonspacingMark), (0xDD6, 0xDD6, nonspacingMark), (0xE31, 0xE31, nonspacingMark), (0xE34, 0xE3A, nonspacingMark),
  (0xE3F, 0xE3F, europeanTerminator), (0xE47, 0xE4E, nonspacingMark), (0xEB1, 0xEB1, nonspacingMark), (0xEB4, 0xEBC, nonspacingMark),
  (0xEC8, 0xECE, nonspacingMark), (0xF18, 0xF19, nonspacingMark), (0xF35, 0xF35, nonspacingMark), (0xF37, 0xF37, nonspacingMark),
  (0xF39, 0xF39, nonspacingMark), (0xF3A, 0xF3D, otherNeutral), (0xF71, 0xF7E, nonspacingMark), (0xF80, 0xF84, nonspacingMark),
  (0xF86, 0xF87, nonspacingMark), (0xF8D, 0xF97, nonspacingMark), (0xF99, 0xFBC, nonspacingMark), (0xFC6, 0xFC6, nonspacingMark),
  (0x102D, 0x1030, nonspacingMark), (0x1032, 0x1037, nonspacingMark), (0x1039, 0x103A, nonspacingMark), (0x103D, 0x103E, nonspacingMark),
  (0x1058, 0x1059, nonspacingMark), (0x105E, 0x1060, nonspacingMark), (0x1071, 0x1074, nonspacingMark), (0x1082, 0x1082, nonspacingMark),
  (0x1085, 0x1086, nonspacingMark), (0x108D, 0x108D, nonspacingMark), (0x109D, 0x109D, nonspacingMark), (0x135D, 0x135F, nonspacingMark),
  (0x1390, 0x1399, otherNeutral), (0x1400, 0x1400, otherNeutral), (0x1680, 0x1680, whiteSpace), (0x169B, 0x169C, otherNeutral),
  (0x1712, 0x1714, nonspacingMark), (0x1732, 0x1733, nonspacingMark), (0x1752, 0x1753, nonspacingMark), (0x1772, 0x1773, nonspacingMark),
  (0x17B4, 0x17B5, nonspacingMark), (0x17B7, 0x17BD, nonspacingMark), (0x17C6, 0x17C6, nonspacingMark), (0x17C9, 0x17D3, nonspacingMark),
  (0x17DB, 0x17DB, europeanTerminator), (0x17DD, 0x17DD, nonspacingMark), (0x17F0, 0x17F9, otherNeutral), (0x1800, 0x180A, otherNeutral),
  (0x180B, 0x180D, nonspacingMark), (0x180E, 0x180E, boundaryNeutral), (0x180F, 0x180F, nonspacingMark), (0x1885, 0x1886, nonspacingMark),
  (0x18A9, 0x18A9, nonspacingMark), (0x1920, 0x1922, nonspacingMark), (0x1927, 0x1928, nonspacingMark), (0x1932, 0x1932, nonspacingMark),
  (0x1939, 0x193B, nonspacingMark), (0x1940, 0x1940, otherNeutral), (0x1944, 0x1945, otherNeutral), (0x19DE, 0x19FF, otherNeutral),
  (0x1A17, 0x1A18, nonspacingMark), (0x1A1B, 0x1A1B, nonspacingMark), (0x1A56, 0x1A56, nonspacingMark), (0x1A58, 0x1A5E, nonspacingMark),
  (0x1A60, 0x1A60, nonspacingMark), (0x1A62, 0x1A62, nonspacingMark), (0x1A65, 0x1A6C, nonspacingMark), (0x1A73, 0x1A7C, nonspacingMark),
  (0x1A7F, 0x1A7F, nonspacingMark), (0x1AB0, 0x1ADD, nonspacingMark), (0x1AE0, 0x1AEB, nonspacingMark), (0x1B00, 0x1B03, nonspacingMark),
  (0x1B34, 0x1B34, nonspacingMark), (0x1B36, 0x1B3A, nonspacingMark), (0x1B3C, 0x1B3C, nonspacingMark), (0x1B42, 0x1B42, nonspacingMark),
  (0x1B6B, 0x1B73, nonspacingMark), (0x1B80, 0x1B81, nonspacingMark), (0x1BA2, 0x1BA5, nonspacingMark), (0x1BA8, 0x1BA9, nonspacingMark),
  (0x1BAB, 0x1BAD, nonspacingMark), (0x1BE6, 0x1BE6, nonspacingMark), (0x1BE8, 0x1BE9, nonspacingMark), (0x1BED, 0x1BED, nonspacingMark),
  (0x1BEF, 0x1BF1, nonspacingMark), (0x1C2C, 0x1C33, nonspacingMark), (0x1C36, 0x1C37, nonspacingMark), (0x1CD0, 0x1CD2, nonspacingMark),
  (0x1CD4, 0x1CE0, nonspacingMark), (0x1CE2, 0x1CE8, nonspacingMark), (0x1CED, 0x1CED, nonspacingMark), (0x1CF4, 0x1CF4, nonspacingMark),
  (0x1CF8, 0x1CF9, nonspacingMark), (0x1DC0, 0x1DFF, nonspacingMark), (0x1FBD, 0x1FBD, otherNeutral), (0x1FBF, 0x1FC1, otherNeutral),
  (0x1FCD, 0x1FCF, otherNeutral), (0x1FDD, 0x1FDF, otherNeutral), (0x1FED, 0x1FEF, otherNeutral), (0x1FFD, 0x1FFE, otherNeutral),
  (0x2000, 0x200A, whiteSpace), (0x200B, 0x200D, boundaryNeutral), (0x200F, 0x200F, rightToLeft), (0x2010, 0x2027, otherNeutral),
  (0x2028, 0x2028, whiteSpace), (0x2029, 0x2029, paragraphSeparator), (0x202A, 0x202A, leftToRightEmbedding), (0x202B, 0x202B, rightToLeftEmbedding),
  (0x202C, 0x202C, popDirectionalFormat), (0x202D, 0x202D, leftToRightOverride), (0x202E, 0x202E, rightToLeftOverride), (0x202F, 0x202F, commonSeparator),
  (0x2030, 0x2034, europeanTerminator), (0x2035, 0x2043, otherNeutral), (0x2044, 0x2044, commonSeparator), (0x2045, 0x205E, otherNeutral),
  (0x205F, 0x205F, whiteSpace), (0x2060, 0x2065, boundaryNeutral), (0x2066, 0x2066, leftToRightIsolate), (0x2067, 0x2067, rightToLeftIsolate),
  (0x2068, 0x2068, firstStrongIsolate), (0x2069, 0x2069, popDirectionalIsolate), (0x206A, 0x206F, boundaryNeutral), (0x2070, 0x2070, europeanNumber),
  (0x2074, 0x2079, europeanNumber), (0x207A, 0x207B, europeanSeparator), (0x207C, 0x207E, otherNeutral), (0x2080, 0x2089, europeanNumber),
  (0x208A, 0x208B, europeanSeparator), (0x208C, 0x208E, otherNeutral), (0x20A0, 0x20CF, europeanTerminator), (0x20D0, 0x20F0, nonspacingMark),
  (0x2100, 0x2101, otherNeutral), (0x2103, 0x2106, otherNeutral), (0x2108, 0x2109, otherNeutral), (0x2114, 0x2114, otherNeutral),
  (0x2116, 0x2118, otherNeutral), (0x211E, 0x2123, otherNeutral), (0x2125, 0x2125, otherNeutral), (0x2127, 0x2127, otherNeutral),
  (0x2129, 0x2129, otherNeutral), (0x212E, 0x212E, europeanTerminator), (0x213A, 0x213B, otherNeutral), (0x2140, 0x2144, otherNeutral),
  (0x214A, 0x214D, otherNeutral), (0x2150, 0x215F, otherNeutral), (0x2189, 0x218B, otherNeutral), (0x2190, 0x2211, otherNeutral),
  (0x2212, 0x2212, europeanSeparator), (0x2213, 0x2213, europeanTerminator), (0x2214, 0x2335, otherNeutral), (0x237B, 0x2394, otherNeutral),
  (0x2396, 0x2429, otherNeutral), (0x2440, 0x244A, otherNeutral), (0x2460, 0x2487, otherNeutral), (0x2488, 0x249B, europeanNumber),
  (0x24EA, 0x26AB, otherNeutral), (0x26AD, 0x27FF, otherNeutral), (0x2900, 0x2B73, otherNeutral), (0x2B76, 0x2BFF, otherNeutral),
  (0x2CE5, 0x2CEA, otherNeutral), (0x2CEF, 0x2CF1, nonspacingMark), (0x2CF9, 0x2CFF, otherNeutral), (0x2D7F, 0x2D7F, nonspacingMark),
  (0x2DE0, 0x2DFF, nonspacingMark), (0x2E00, 0x2E5D, otherNeutral), (0x2E80, 0x2E99, otherNeutral), (0x2E9B, 0x2EF3, otherNeutral),
  (0x2F00, 0x2FD5, otherNeutral), (0x2FF0, 0x2FFF, otherNeutral), (0x3000, 0x3000, whiteSpace), (0x3001, 0x3004, otherNeutral),
  (0x3008, 0x3020, otherNeutral), (0x302A, 0x302D, nonspacingMark), (0x3030, 0x3030, otherNeutral), (0x3036, 0x3037, otherNeutral),
  (0x303D, 0x303F, otherNeutral), (0x3099, 0x309A, nonspacingMark), (0x309B, 0x309C, otherNeutral), (0x30A0, 0x30A0, otherNeutral),
  (0x30FB, 0x30FB, otherNeutral), (0x31C0, 0x31E5, otherNeutral), (0x31EF, 0x31EF, otherNeutral), (0x321D, 0x321E, otherNeutral),
  (0x3250, 0x325F, otherNeutral), (0x327C, 0x327E, otherNeutral), (0x32B1, 0x32BF, otherNeutral), (0x32CC, 0x32CF, otherNeutral),
  (0x3377, 0x337A, otherNeutral), (0x33DE, 0x33DF, otherNeutral), (0x33FF, 0x33FF, otherNeutral), (0x4DC0, 0x4DFF, otherNeutral),
  (0xA490, 0xA4C6, otherNeutral), (0xA60D, 0xA60F, otherNeutral), (0xA66F, 0xA672, nonspacingMark), (0xA673, 0xA673, otherNeutral),
  (0xA674, 0xA67D, nonspacingMark), (0xA67E, 0xA67F, otherNeutral), (0xA69E, 0xA69F, nonspacingMark), (0xA6F0, 0xA6F1, nonspacingMark),
  (0xA700, 0xA721, otherNeutral), (0xA788, 0xA788, otherNeutral), (0xA802, 0xA802, nonspacingMark), (0xA806, 0xA806, nonspacingMark),
  (0xA80B, 0xA80B, nonspacingMark), (0xA825, 0xA826, nonspacingMark), (0xA828, 0xA82B, otherNeutral), (0xA82C, 0xA82C, nonspacingMark),
  (0xA838, 0xA839, europeanTerminator), (0xA874, 0xA877, otherNeutral), (0xA8C4, 0xA8C5, nonspacingMark), (0xA8E0, 0xA8F1, nonspacingMark),
  (0xA8FF, 0xA8FF, nonspacingMark), (0xA926, 0xA92D, nonspacingMark), (0xA947, 0xA951, nonspacingMark), (0xA980, 0xA982, nonspacingMark),
  (0xA9B3, 0xA9B3, nonspacingMark), (0xA9B6, 0xA9B9, nonspacingMark), (0xA9BC, 0xA9BD, nonspacingMark), (0xA9E5, 0xA9E5, nonspacingMark),
  (0xAA29, 0xAA2E, nonspacingMark), (0xAA31, 0xAA32, nonspacingMark), (0xAA35, 0xAA36, nonspacingMark), (0xAA43, 0xAA43, nonspacingMark),
  (0xAA4C, 0xAA4C, nonspacingMark), (0xAA7C, 0xAA7C, nonspacingMark), (0xAAB0, 0xAAB0, nonspacingMark), (0xAAB2, 0xAAB4, nonspacingMark),
  (0xAAB7, 0xAAB8, nonspacingMark), (0xAABE, 0xAABF, nonspacingMark), (0xAAC1, 0xAAC1, nonspacingMark), (0xAAEC, 0xAAED, nonspacingMark),
  (0xAAF6, 0xAAF6, nonspacingMark), (0xAB6A, 0xAB6B, otherNeutral), (0xABE5, 0xABE5, nonspacingMark), (0xABE8, 0xABE8, nonspacingMark),
  (0xABED, 0xABED, nonspacingMark), (0xFB1D, 0xFB1D, rightToLeft), (0xFB1E, 0xFB1E, nonspacingMark), (0xFB1F, 0xFB28, rightToLeft),
  (0xFB29, 0xFB29, europeanSeparator), (0xFB2A, 0xFB4F, rightToLeft), (0xFB50, 0xFBC2, arabicLetter), (0xFBC3, 0xFBD2, otherNeutral),
  (0xFBD3, 0xFD3D, arabicLetter), (0xFD3E, 0xFD4F, otherNeutral), (0xFD50, 0xFD8F, arabicLetter), (0xFD90, 0xFD91, otherNeutral),
  (0xFD92, 0xFDC7, arabicLetter), (0xFDC8, 0xFDCF, otherNeutral), (0xFDD0, 0xFDEF, boundaryNeutral), (0xFDF0, 0xFDFC, arabicLetter),
  (0xFDFD, 0xFDFF, otherNeutral), (0xFE00, 0xFE0F, nonspacingMark), (0xFE10, 0xFE19, otherNeutral), (0xFE20, 0xFE2F, nonspacingMark),
  (0xFE30, 0xFE4F, otherNeutral), (0xFE50, 0xFE50, commonSeparator), (0xFE51, 0xFE51, otherNeutral), (0xFE52, 0xFE52, commonSeparator),
  (0xFE54, 0xFE54, otherNeutral), (0xFE55, 0xFE55, commonSeparator), (0xFE56, 0xFE5E, otherNeutral), (0xFE5F, 0xFE5F, europeanTerminator),
  (0xFE60, 0xFE61, otherNeutral), (0xFE62, 0xFE63, europeanSeparator), (0xFE64, 0xFE66, otherNeutral), (0xFE68, 0xFE68, otherNeutral),
  (0xFE69, 0xFE6A, europeanTerminator), (0xFE6B, 0xFE6B, otherNeutral), (0xFE70, 0xFEFE, arabicLetter), (0xFEFF, 0xFEFF, boundaryNeutral),
  (0xFF01, 0xFF02, otherNeutral), (0xFF03, 0xFF05, europeanTerminator), (0xFF06, 0xFF0A, otherNeutral), (0xFF0B, 0xFF0B, europeanSeparator),
  (0xFF0C, 0xFF0C, commonSeparator), (0xFF0D, 0xFF0D, europeanSeparator), (0xFF0E, 0xFF0F, commonSeparator), (0xFF10, 0xFF19, europeanNumber),
  (0xFF1A, 0xFF1A, commonSeparator), (0xFF1B, 0xFF20, otherNeutral), (0xFF3B, 0xFF40, otherNeutral), (0xFF5B, 0xFF65, otherNeutral),
  (0xFFE0, 0xFFE1, europeanTerminator), (0xFFE2, 0xFFE4, otherNeutral), (0xFFE5, 0xFFE6, europeanTerminator), (0xFFE8, 0xFFEE, otherNeutral),
  (0xFFF0, 0xFFF8, boundaryNeutral), (0xFFF9, 0xFFFD, otherNeutral), (0xFFFE, 0xFFFF, boundaryNeutral), (0x10101, 0x10101, otherNeutral),
  (0x10140, 0x1018C, otherNeutral), (0x10190, 0x1019C, otherNeutral), (0x101A0, 0x101A0, otherNeutral), (0x101FD, 0x101FD, nonspacingMark),
  (0x102E0, 0x102E0, nonspacingMark), (0x102E1, 0x102FB, europeanNumber), (0x10376, 0x1037A, nonspacingMark), (0x10800, 0x1091E, rightToLeft),
  (0x1091F, 0x1091F, otherNeutral), (0x10920, 0x10A00, rightToLeft), (0x10A01, 0x10A03, nonspacingMark), (0x10A04, 0x10A04, rightToLeft),
  (0x10A05, 0x10A06, nonspacingMark), (0x10A07, 0x10A0B, rightToLeft), (0x10A0C, 0x10A0F, nonspacingMark), (0x10A10, 0x10A37, rightToLeft),
  (0x10A38, 0x10A3A, nonspacingMark), (0x10A3B, 0x10A3E, rightToLeft), (0x10A3F, 0x10A3F, nonspacingMark), (0x10A40, 0x10AE4, rightToLeft),
  (0x10AE5, 0x10AE6, nonspacingMark), (0x10AE7, 0x10B38, rightToLeft), (0x10B39, 0x10B3F, otherNeutral), (0x10B40, 0x10CFF, rightToLeft),
  (0x10D00, 0x10D23, arabicLetter), (0x10D24, 0x10D27, nonspacingMark), (0x10D28, 0x10D2F, arabicLetter), (0x10D30, 0x10D39, arabicNumber),
  (0x10D3A, 0x10D3F, arabicLetter), (0x10D40, 0x10D49, arabicNumber), (0x10D4A, 0x10D68, rightToLeft), (0x10D69, 0x10D6D, nonspacingMark),
  (0x10D6E, 0x10D6E, otherNeutral), (0x10D6F, 0x10E5F, rightToLeft), (0x10E60, 0x10E7E, arabicNumber), (0x10E7F, 0x10EAA, rightToLeft),
  (0x10EAB, 0x10EAC, nonspacingMark), (0x10EAD, 0x10EBF, rightToLeft), (0x10EC0, 0x10ECF, arabicLetter), (0x10ED0, 0x10ED8, otherNeutral),
  (0x10ED9, 0x10EF9, arabicLetter), (0x10EFA, 0x10EFF, nonspacingMark), (0x10F00, 0x10F2F, rightToLeft), (0x10F30, 0x10F45, arabicLetter),
  (0x10F46, 0x10F50, nonspacingMark), (0x10F51, 0x10F6F, arabicLetter), (0x10F70, 0x10F81, rightToLeft), (0x10F82, 0x10F85, nonspacingMark),
  (0x10F86, 0x10FFF, rightToLeft), (0x11001, 0x11001, nonspacingMark), (0x11038, 0x11046, nonspacingMark), (0x11052, 0x11065, otherNeutral),
  (0x11070, 0x11070, nonspacingMark), (0x11073, 0x11074, nonspacingMark), (0x1107F, 0x11081, nonspacingMark), (0x110B3, 0x110B6, nonspacingMark),
  (0x110B9, 0x110BA, nonspacingMark), (0x110C2, 0x110C2, nonspacingMark), (0x11100, 0x11102, nonspacingMark), (0x11127, 0x1112B, nonspacingMark),
  (0x1112D, 0x11134, nonspacingMark), (0x11173, 0x11173, nonspacingMark), (0x11180, 0x11181, nonspacingMark), (0x111B6, 0x111BE, nonspacingMark),
  (0x111C9, 0x111CC, nonspacingMark), (0x111CF, 0x111CF, nonspacingMark), (0x1122F, 0x11231, nonspacingMark), (0x11234, 0x11234, nonspacingMark),
  (0x11236, 0x11237, nonspacingMark), (0x1123E, 0x1123E, nonspacingMark), (0x11241, 0x11241, nonspacingMark), (0x112DF, 0x112DF, nonspacingMark),
  (0x112E3, 0x112EA, nonspacingMark), (0x11300, 0x11301, nonspacingMark), (0x1133B, 0x1133C, nonspacingMark), (0x11340, 0x11340, nonspacingMark),
  (0x11366, 0x1136C, nonspacingMark), (0x11370, 0x11374, nonspacingMark), (0x113BB, 0x113C0, nonspacingMark), (0x113CE, 0x113CE, nonspacingMark),
  (0x113D0, 0x113D0, nonspacingMark), (0x113D2, 0x113D2, nonspacingMark), (0x113E1, 0x113E2, nonspacingMark), (0x11438, 0x1143F, nonspacingMark),
  (0x11442, 0x11444, nonspacingMark), (0x11446, 0x11446, nonspacingMark), (0x1145E, 0x1145E, nonspacingMark), (0x114B3, 0x114B8, nonspacingMark),
  (0x114BA, 0x114BA, nonspacingMark), (0x114BF, 0x114C0, nonspacingMark), (0x114C2, 0x114C3, nonspacingMark), (0x115B2, 0x115B5, nonspacingMark),
  (0x115BC, 0x115BD, nonspacingMark), (0x115BF, 0x115C0, nonspacingMark), (0x115DC, 0x115DD, nonspacingMark), (0x11633, 0x1163A, nonspacingMark),
  (0x1163D, 0x1163D, nonspacingMark), (0x1163F, 0x11640, nonspacingMark), (0x11660, 0x1166C, otherNeutral), (0x116AB, 0x116AB, nonspacingMark),
  (0x116AD, 0x116AD, nonspacingMark), (0x116B0, 0x116B5, nonspacingMark), (0x116B7, 0x116B7, nonspacingMark), (0x1171D, 0x1171D, nonspacingMark),
  (0x1171F, 0x1171F, nonspacingMark), (0x11722, 0x11725, nonspacingMark), (0x11727, 0x1172B, nonspacingMark), (0x1182F, 0x11837, nonspacingMark),
  (0x11839, 0x1183A, nonspacingMark), (0x1193B, 0x1193C, nonspacingMark), (0x1193E, 0x1193E, nonspacingMark), (0x11943, 0x11943, nonspacingMark),
  (0x119D4, 0x119D7, nonspacingMark), (0x119DA, 0x119DB, nonspacingMark), (0x119E0, 0x119E0, nonspacingMark), (0x11A01, 0x11A06, nonspacingMark),
  (0x11A09, 0x11A0A, nonspacingMark), (0x11A33, 0x11A38, nonspacingMark), (0x11A3B, 0x11A3E, nonspacingMark), (0x11A47, 0x11A47, nonspacingMark),
  (0x11A51, 0x11A56, nonspacingMark), (0x11A59, 0x11A5B, nonspacingMark), (0x11A8A, 0x11A96, nonspacingMark), (0x11A98, 0x11A99, nonspacingMark),
  (0x11B60, 0x11B60, nonspacingMark), (0x11B62, 0x11B64, nonspacingMark), (0x11B66, 0x11B66, nonspacingMark), (0x11C30, 0x11C36, nonspacingMark),
  (0x11C38, 0x11C3D, nonspacingMark), (0x11C92, 0x11CA7, nonspacingMark), (0x11CAA, 0x11CB0, nonspacingMark), (0x11CB2, 0x11CB3, nonspacingMark),
  (0x11CB5, 0x11CB6, nonspacingMark), (0x11D31, 0x11D36, nonspacingMark), (0x11D3A, 0x11D3A, nonspacingMark), (0x11D3C, 0x11D3D, nonspacingMark),
  (0x11D3F, 0x11D45, nonspacingMark), (0x11D47, 0x11D47, nonspacingMark), (0x11D90, 0x11D91, nonspacingMark), (0x11D95, 0x11D95, nonspacingMark),
  (0x11D97, 0x11D97, nonspacingMark), (0x11EF3, 0x11EF4, nonspacingMark), (0x11F00, 0x11F01, nonspacingMark), (0x11F36, 0x11F3A, nonspacingMark),
  (0x11F40, 0x11F40, nonspacingMark), (0x11F42, 0x11F42, nonspacingMark), (0x11F5A, 0x11F5A, nonspacingMark), (0x11FD5, 0x11FDC, otherNeutral),
  (0x11FDD, 0x11FE0, europeanTerminator), (0x11FE1, 0x11FF1, otherNeutral), (0x13440, 0x13440, nonspacingMark), (0x13447, 0x13455, nonspacingMark),
  (0x1611E, 0x16129, nonspacingMark), (0x1612D, 0x1612F, nonspacingMark), (0x16AF0, 0x16AF4, nonspacingMark), (0x16B30, 0x16B36, nonspacingMark),
  (0x16F4F, 0x16F4F, nonspacingMark), (0x16F8F, 0x16F92, nonspacingMark), (0x16FE2, 0x16FE2, otherNeutral), (0x16FE4, 0x16FE4, nonspacingMark),
  (0x1BC9D, 0x1BC9E, nonspacingMark), (0x1BCA0, 0x1BCA3, boundaryNeutral), (0x1CC00, 0x1CCD5, otherNeutral), (0x1CCF0, 0x1CCF9, europeanNumber),
  (0x1CCFA, 0x1CCFC, otherNeutral), (0x1CD00, 0x1CEB3, otherNeutral), (0x1CEBA, 0x1CED0, otherNeutral), (0x1CEE0, 0x1CEF0, otherNeutral),
  (0x1CF00, 0x1CF2D, nonspacingMark), (0x1CF30, 0x1CF46, nonspacingMark), (0x1D167, 0x1D169, nonspacingMark), (0x1D173, 0x1D17A, boundaryNeutral),
  (0x1D17B, 0x1D182, nonspacingMark), (0x1D185, 0x1D18B, nonspacingMark), (0x1D1AA, 0x1D1AD, nonspacingMark), (0x1D1E9, 0x1D1EA, otherNeutral),
  (0x1D200, 0x1D241, otherNeutral), (0x1D242, 0x1D244, nonspacingMark), (0x1D245, 0x1D245, otherNeutral), (0x1D300, 0x1D356, otherNeutral),
  (0x1D6C1, 0x1D6C1, otherNeutral), (0x1D6DB, 0x1D6DB, otherNeutral), (0x1D6FB, 0x1D6FB, otherNeutral), (0x1D715, 0x1D715, otherNeutral),
  (0x1D735, 0x1D735, otherNeutral), (0x1D74F, 0x1D74F, otherNeutral), (0x1D76F, 0x1D76F, otherNeutral), (0x1D789, 0x1D789, otherNeutral),
  (0x1D7A9, 0x1D7A9, otherNeutral), (0x1D7C3, 0x1D7C3, otherNeutral), (0x1D7CE, 0x1D7FF, europeanNumber), (0x1DA00, 0x1DA36, nonspacingMark),
  (0x1DA3B, 0x1DA6C, nonspacingMark), (0x1DA75, 0x1DA75, nonspacingMark), (0x1DA84, 0x1DA84, nonspacingMark), (0x1DA9B, 0x1DA9F, nonspacingMark),
  (0x1DAA1, 0x1DAAF, nonspacingMark), (0x1E000, 0x1E006, nonspacingMark), (0x1E008, 0x1E018, nonspacingMark), (0x1E01B, 0x1E021, nonspacingMark),
  (0x1E023, 0x1E024, nonspacingMark), (0x1E026, 0x1E02A, nonspacingMark), (0x1E08F, 0x1E08F, nonspacingMark), (0x1E130, 0x1E136, nonspacingMark),
  (0x1E2AE, 0x1E2AE, nonspacingMark), (0x1E2EC, 0x1E2EF, nonspacingMark), (0x1E2FF, 0x1E2FF, europeanTerminator), (0x1E4EC, 0x1E4EF, nonspacingMark),
  (0x1E5EE, 0x1E5EF, nonspacingMark), (0x1E6E3, 0x1E6E3, nonspacingMark), (0x1E6E6, 0x1E6E6, nonspacingMark), (0x1E6EE, 0x1E6EF, nonspacingMark),
  (0x1E6F5, 0x1E6F5, nonspacingMark), (0x1E800, 0x1E8CF, rightToLeft), (0x1E8D0, 0x1E8D6, nonspacingMark), (0x1E8D7, 0x1E943, rightToLeft),
  (0x1E944, 0x1E94A, nonspacingMark), (0x1E94B, 0x1EC6F, rightToLeft), (0x1EC70, 0x1ECBF, arabicLetter), (0x1ECC0, 0x1ECFF, rightToLeft),
  (0x1ED00, 0x1ED4F, arabicLetter), (0x1ED50, 0x1EDFF, rightToLeft), (0x1EE00, 0x1EEEF, arabicLetter), (0x1EEF0, 0x1EEF1, otherNeutral),
  (0x1EEF2, 0x1EEFF, arabicLetter), (0x1EF00, 0x1EFFF, rightToLeft), (0x1F000, 0x1F02B, otherNeutral), (0x1F030, 0x1F093, otherNeutral),
  (0x1F0A0, 0x1F0AE, otherNeutral), (0x1F0B1, 0x1F0BF, otherNeutral), (0x1F0C1, 0x1F0CF, otherNeutral), (0x1F0D1, 0x1F0F5, otherNeutral),
  (0x1F100, 0x1F10A, europeanNumber), (0x1F10B, 0x1F10F, otherNeutral), (0x1F12F, 0x1F12F, otherNeutral), (0x1F16A, 0x1F16F, otherNeutral),
  (0x1F1AD, 0x1F1AD, otherNeutral), (0x1F260, 0x1F265, otherNeutral), (0x1F300, 0x1F6D8, otherNeutral), (0x1F6DC, 0x1F6EC, otherNeutral),
  (0x1F6F0, 0x1F6FC, otherNeutral), (0x1F700, 0x1F7D9, otherNeutral), (0x1F7E0, 0x1F7EB, otherNeutral), (0x1F7F0, 0x1F7F0, otherNeutral),
  (0x1F800, 0x1F80B, otherNeutral), (0x1F810, 0x1F847, otherNeutral), (0x1F850, 0x1F859, otherNeutral), (0x1F860, 0x1F887, otherNeutral),
  (0x1F890, 0x1F8AD, otherNeutral), (0x1F8B0, 0x1F8BB, otherNeutral), (0x1F8C0, 0x1F8C1, otherNeutral), (0x1F8D0, 0x1F8D8, otherNeutral),
  (0x1F900, 0x1FA57, otherNeutral), (0x1FA60, 0x1FA6D, otherNeutral), (0x1FA70, 0x1FA7C, otherNeutral), (0x1FA80, 0x1FA8A, otherNeutral),
  (0x1FA8E, 0x1FAC6, otherNeutral), (0x1FAC8, 0x1FAC8, otherNeutral), (0x1FACD, 0x1FADC, otherNeutral), (0x1FADF, 0x1FAEA, otherNeutral),
  (0x1FAEF, 0x1FAF8, otherNeutral), (0x1FB00, 0x1FB92, otherNeutral), (0x1FB94, 0x1FBEF, otherNeutral), (0x1FBF0, 0x1FBF9, europeanNumber),
  (0x1FBFA, 0x1FBFA, otherNeutral), (0x1FFFE, 0x1FFFF, boundaryNeutral), (0x2FFFE, 0x2FFFF, boundaryNeutral), (0x3FFFE, 0x3FFFF, boundaryNeutral),
  (0x4FFFE, 0x4FFFF, boundaryNeutral), (0x5FFFE, 0x5FFFF, boundaryNeutral), (0x6FFFE, 0x6FFFF, boundaryNeutral), (0x7FFFE, 0x7FFFF, boundaryNeutral),
  (0x8FFFE, 0x8FFFF, boundaryNeutral), (0x9FFFE, 0x9FFFF, boundaryNeutral), (0xAFFFE, 0xAFFFF, boundaryNeutral), (0xBFFFE, 0xBFFFF, boundaryNeutral),
  (0xCFFFE, 0xCFFFF, boundaryNeutral), (0xDFFFE, 0xE00FF, boundaryNeutral), (0xE0100, 0xE01EF, nonspacingMark), (0xE01F0, 0xE0FFF, boundaryNeutral),
  (0xEFFFE, 0xEFFFF, boundaryNeutral), (0xFFFFE, 0xFFFFF, boundaryNeutral), (0x10FFFE, 0x10FFFF, boundaryNeutral)]⟩

def bidiClass (n : Nat) : BidiClass := (bidiClasses.get? n).getD .leftToRight

end SchemaTypes.Unicode
