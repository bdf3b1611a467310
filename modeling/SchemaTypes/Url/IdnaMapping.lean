import SchemaTypes.Unicode.RangeMap
set_option autoImplicit false
set_option maxRecDepth 20000

/-!
The IDNA mapping table of Unicode Technical Standard 46 (version 17.0.0), as read for
non-transitional processing without the STD3 rules: deviations and characters that only the STD3
rules forbid are valid, and those that the STD3 rules map are mapped. Code points not listed are
valid.
-/

namespace SchemaTypes.Url

open SchemaTypes.Unicode

/-- What mapping a domain does with a code point that is not simply kept. -/
inductive IdnaRule where
  | ignored
  | disallowed
  | shift (step : Nat) (offset : Int)
  | replace (codePoints : List Nat)
  deriving Repr, DecidableEq, Inhabited

def idnaRulesFirst : Array (Nat × Nat × IdnaRule) := #[
  (0x41, 0x5A, .shift 1 (32)), (0x80, 0x9F, .disallowed), (0xA0, 0xA0, .shift 1 (-128)),
  (0xA8, 0xA8, .replace [0x20, 0x308]), (0xAA, 0xAA, .shift 1 (-73)), (0xAD, 0xAD, .ignored),
  (0xAF, 0xAF, .replace [0x20, 0x304]), (0xB2, 0xB3, .shift 1 (-128)), (0xB4, 0xB4, .replace [0x20, 0x301]),
  (0xB5, 0xB5, .shift 1 (775)), (0xB8, 0xB8, .replace [0x20, 0x327]), (0xB9, 0xB9, .shift 1 (-136)),
  (0xBA, 0xBA, .shift 1 (-75)), (0xBC, 0xBC, .replace [0x31, 0x2044, 0x34]), (0xBD, 0xBD, .replace [0x31, 0x2044, 0x32]),
  (0xBE, 0xBE, .replace [0x33, 0x2044, 0x34]), (0xC0, 0xD6, .shift 1 (32)), (0xD8, 0xDE, .shift 1 (32)),
  (0x100, 0x12E, .shift 2 (1)), (0x130, 0x130, .replace [0x69, 0x307]), (0x132, 0x133, .replace [0x69, 0x6A]),
  (0x134, 0x136, .shift 2 (1)), (0x139, 0x13D, .shift 2 (1)), (0x13F, 0x140, .replace [0x6C, 0xB7]),
  (0x141, 0x147, .shift 2 (1)), (0x149, 0x149, .replace [0x2BC, 0x6E]), (0x14A, 0x176, .shift 2 (1)),
  (0x178, 0x178, .shift 1 (-121)), (0x179, 0x17D, .shift 2 (1)), (0x17F, 0x17F, .shift 1 (-268)),
  (0x181, 0x181, .shift 1 (210)), (0x182, 0x184, .shift 2 (1)), (0x186, 0x186, .shift 1 (206)),
  (0x187, 0x187, .shift 1 (1)), (0x189, 0x18A, .shift 1 (205)), (0x18B, 0x18B, .shift 1 (1)),
  (0x18E, 0x18E, .shift 1 (79)), (0x18F, 0x18F, .shift 1 (202)), (0x190, 0x190, .shift 1 (203)),
  (0x191, 0x191, .shift 1 (1)), (0x193, 0x193, .shift 1 (205)), (0x194, 0x194, .shift 1 (207)),
  (0x196, 0x196, .shift 1 (211)), (0x197, 0x197, .shift 1 (209)), (0x198, 0x198, .shift 1 (1)),
  (0x19C, 0x19C, .shift 1 (211)), (0x19D, 0x19D, .shift 1 (213)), (0x19F, 0x19F, .shift 1 (214)),
  (0x1A0, 0x1A4, .shift 2 (1)), (0x1A6, 0x1A6, .shift 1 (218)), (0x1A7, 0x1A7, .shift 1 (1)),
  (0x1A9, 0x1A9, .shift 1 (218)), (0x1AC, 0x1AC, .shift 1 (1)), (0x1AE, 0x1AE, .shift 1 (218)),
  (0x1AF, 0x1AF, .shift 1 (1)), (0x1B1, 0x1B2, .shift 1 (217)), (0x1B3, 0x1B5, .shift 2 (1)),
  (0x1B7, 0x1B7, .shift 1 (219)), (0x1B8, 0x1B8, .shift 1 (1)), (0x1BC, 0x1BC, .shift 1 (1)),
  (0x1C4, 0x1C6, .replace [0x64, 0x17E]), (0x1C7, 0x1C9, .replace [0x6C, 0x6A]), (0x1CA, 0x1CC, .replace [0x6E, 0x6A]),
  (0x1CD, 0x1DB, .shift 2 (1)), (0x1DE, 0x1EE, .shift 2 (1)), (0x1F1, 0x1F3, .replace [0x64, 0x7A]),
  (0x1F4, 0x1F4, .shift 1 (1)), (0x1F6, 0x1F6, .shift 1 (-97)), (0x1F7, 0x1F7, .shift 1 (-56)),
  (0x1F8, 0x21E, .shift 2 (1)), (0x220, 0x220, .shift 1 (-130)), (0x222, 0x232, .shift 2 (1)),
  (0x23A, 0x23A, .shift 1 (10795)), (0x23B, 0x23B, .shift 1 (1)), (0x23D, 0x23D, .shift 1 (-163)),
  (0x23E, 0x23E, .shift 1 (10792)), (0x241, 0x241, .shift 1 (1)), (0x243, 0x243, .shift 1 (-195)),
  (0x244, 0x244, .shift 1 (69)), (0x245, 0x245, .shift 1 (71)), (0x246, 0x24E, .shift 2 (1)),
  (0x2B0, 0x2B0, .shift 1 (-584)), (0x2B1, 0x2B1, .shift 1 (-75)), (0x2B2, 0x2B2, .shift 1 (-584)),
  (0x2B3, 0x2B3, .shift 1 (-577)), (0x2B4, 0x2B4, .shift 1 (-59)), (0x2B5, 0x2B5, .shift 1 (-58)),
  (0x2B6, 0x2B6, .shift 1 (-53)), (0x2B7, 0x2B7, .shift 1 (-576)), (0x2B8, 0x2B8, .shift 1 (-575)),
  (0x2D8, 0x2D8, .replace [0x20, 0x306]), (0x2D9, 0x2D9, .replace [0x20, 0x307]), (0x2DA, 0x2DA, .replace [0x20, 0x30A]),
  (0x2DB, 0x2DB, .replace [0x20, 0x328]), (0x2DC, 0x2DC, .replace [0x20, 0x303]), (0x2DD, 0x2DD, .replace [0x20, 0x30B]),
  (0x2E0, 0x2E0, .shift 1 (-125)), (0x2E1, 0x2E1, .shift 1 (-629)), (0x2E2, 0x2E2, .shift 1 (-623)),
  (0x2E3, 0x2E3, .shift 1 (-619)), (0x2E4, 0x2E4, .shift 1 (-79)), (0x340, 0x341, .shift 1 (-64)),
  (0x343, 0x343, .shift 1 (-48)), (0x344, 0x344, .replace [0x308, 0x301]), (0x345, 0x345, .shift 1 (116)),
  (0x34F, 0x34F, .ignored), (0x370, 0x372, .shift 2 (1)), (0x374, 0x374, .shift 1 (-187)),
  (0x376, 0x376, .shift 1 (1)), (0x378, 0x379, .disallowed), (0x37A, 0x37A, .replace [0x20, 0x3B9]),
  (0x37E, 0x37E, .shift 1 (-835)), (0x37F, 0x37F, .shift 1 (116)), (0x380, 0x383, .disallowed),
  (0x384, 0x384, .replace [0x20, 0x301]), (0x385, 0x385, .replace [0x20, 0x308, 0x301]), (0x386, 0x386, .shift 1 (38)),
  (0x387, 0x387, .shift 1 (-720)), (0x388, 0x38A, .shift 1 (37)), (0x38B, 0x38B, .disallowed),
  (0x38C, 0x38C, .shift 1 (64)), (0x38D, 0x38D, .disallowed), (0x38E, 0x38F, .shift 1 (63)),
  (0x391, 0x3A1, .shift 1 (32)), (0x3A2, 0x3A2, .disallowed), (0x3A3, 0x3AB, .shift 1 (32)),
  (0x3CF, 0x3CF, .shift 1 (8)), (0x3D0, 0x3D0, .shift 1 (-30)), (0x3D1, 0x3D1, .shift 1 (-25)),
  (0x3D2, 0x3D2, .shift 1 (-13)), (0x3D3, 0x3D3, .shift 1 (-6)), (0x3D4, 0x3D4, .shift 1 (-9)),
  (0x3D5, 0x3D5, .shift 1 (-15)), (0x3D6, 0x3D6, .shift 1 (-22)), (0x3D8, 0x3EE, .shift 2 (1)),
  (0x3F0, 0x3F0, .shift 1 (-54)), (0x3F1, 0x3F1, .shift 1 (-48)), (0x3F2, 0x3F2, .shift 1 (-47)),
  (0x3F4, 0x3F4, .shift 1 (-60)), (0x3F5, 0x3F5, .shift 1 (-64)), (0x3F7, 0x3F7, .shift 1 (1)),
  (0x3F9, 0x3F9, .shift 1 (-54)), (0x3FA, 0x3FA, .shift 1 (1)), (0x3FD, 0x3FF, .shift 1 (-130)),
  (0x400, 0x40F, .shift 1 (80)), (0x410, 0x42F, .shift 1 (32)), (0x460, 0x480, .shift 2 (1)),
  (0x48A, 0x4BE, .shift 2 (1)), (0x4C0, 0x4C0, .shift 1 (15)), (0x4C1, 0x4CD, .shift 2 (1)),
  (0x4D0, 0x52E, .shift 2 (1)), (0x530, 0x530, .disallowed), (0x531, 0x556, .shift 1 (48)),
  (0x557, 0x558, .disallowed), (0x587, 0x587, .replace [0x565, 0x582]), (0x58B, 0x58C, .disallowed),
  (0x590, 0x590, .disallowed), (0x5C8, 0x5CF, .disallowed), (0x5EB, 0x5EE, .disallowed),
  (0x5F5, 0x605, .disallowed), (0x61C, 0x61C, .disallowed), (0x675, 0x675, .replace [0x627, 0x674]),
  (0x676, 0x676, .replace [0x648, 0x674]), (0x677, 0x677, .replace [0x6C7, 0x674]), (0x678, 0x678, .replace [0x64A, 0x674]),
  (0x6DD, 0x6DD, .disallowed), (0x70E, 0x70F, .disallowed), (0x74B, 0x74C, .disallowed),
  (0x7B2, 0x7BF, .disallowed), (0x7FB, 0x7FC, .disallowed), (0x82E, 0x82F, .disallowed),
  (0x83F, 0x83F, .disallowed), (0x85C, 0x85D, .disallowed), (0x85F, 0x85F, .disallowed),
  (0x86B, 0x86F, .disallowed), (0x890, 0x896, .disallowed), (0x8E2, 0x8E2, .disallowed),
  (0x958, 0x958, .replace [0x915, 0x93C]), (0x959, 0x959, .replace [0x916, 0x93C]), (0x95A, 0x95A, .replace [0x917, 0x93C]),
  (0x95B, 0x95B, .replace [0x91C, 0x93C]), (0x95C, 0x95C, .replace [0x921, 0x93C]), (0x95D, 0x95D, .replace [0x922, 0x93C]),
  (0x95E, 0x95E, .replace [0x92B, 0x93C]), (0x95F, 0x95F, .replace [0x92F, 0x93C]), (0x984, 0x984, .disallowed),
  (0x98D, 0x98E, .disallowed), (0x991, 0x992, .disallowed), (0x9A9, 0x9A9, .disallowed),
  (0x9B1, 0x9B1, .disallowed), (0x9B3, 0x9B5, .disallowed), (0x9BA, 0x9BB, .disallowed),
  (0x9C5, 0x9C6, .disallowed), (0x9C9, 0x9CA, .disallowed), (0x9CF, 0x9D6, .disallowed),
  (0x9D8, 0x9DB, .disallowed), (0x9DC, 0x9DC, .replace [0x9A1, 0x9BC]), (0x9DD, 0x9DD, .replace [0x9A2, 0x9BC]),
  (0x9DE, 0x9DE, .disallowed), (0x9DF, 0x9DF, .replace [0x9AF, 0x9BC]), (0x9E4, 0x9E5, .disallowed),
  (0x9FF, 0xA00, .disallowed), (0xA04, 0xA04, .disallowed), (0xA0B, 0xA0E, .disallowed),
  (0xA11, 0xA12, .disallowed), (0xA29, 0xA29, .disallowed), (0xA31, 0xA31, .disallowed),
  (0xA33, 0xA33, .replace [0xA32, 0xA3C]), (0xA34, 0xA34, .disallowed), (0xA36, 0xA36, .replace [0xA38, 0xA3C]),
  (0xA37, 0xA37, .disallowed), (0xA3A, 0xA3B, .disallowed), (0xA3D, 0xA3D, .disallowed),
  (0xA43, 0xA46, .disallowed), (0xA49, 0xA4A, .disallowed), (0xA4E, 0xA50, .disallowed),
  (0xA52, 0xA58, .disallowed), (0xA59, 0xA59, .replace [0xA16, 0xA3C]), (0xA5A, 0xA5A, .replace [0xA17, 0xA3C]),
  (0xA5B, 0xA5B, .replace [0xA1C, 0xA3C]), (0xA5D, 0xA5D, .disallowed), (0xA5E, 0xA5E, .replace [0xA2B, 0xA3C]),
  (0xA5F, 0xA65, .disallowed), (0xA77, 0xA80, .disallowed), (0xA84, 0xA84, .disallowed),
  (0xA8E, 0xA8E, .disallowed), (0xA92, 0xA92, .disallowed), (0xAA9, 0xAA9, .disallowed),
  (0xAB1, 0xAB1, .disallowed), (0xAB4, 0xAB4, .disallowed), (0xABA, 0xABB, .disallowed),
  (0xAC6, 0xAC6, .disallowed), (0xACA, 0xACA, .disallowed), (0xACE, 0xACF, .disallowed),
  (0xAD1, 0xADF, .disallowed), (0xAE4, 0xAE5, .disallowed), (0xAF2, 0xAF8, .disallowed),
  (0xB00, 0xB00, .disallowed), (0xB04, 0xB04, .disallowed), (0xB0D, 0xB0E, .disallowed),
  (0xB11, 0xB12, .disallowed), (0xB29, 0xB29, .disallowed), (0xB31, 0xB31, .disallowed),
  (0xB34, 0xB34, .disallowed), (0xB3A, 0xB3B, .disallowed), (0xB45, 0xB46, .disallowed),
  (0xB49, 0xB4A, .disallowed), (0xB4E, 0xB54, .disallowed), (0xB58, 0xB5B, .disallowed),
  (0xB5C, 0xB5C, .replace [0xB21, 0xB3C]), (0xB5D, 0xB5D, .replace [0xB22, 0xB3C]), (0xB5E, 0xB5E, .disallowed),
  (0xB64, 0xB65, .disallowed), (0xB78, 0xB81, .disallowed), (0xB84, 0xB84, .disallowed),
  (0xB8B, 0xB8D, .disallowed), (0xB91, 0xB91, .disallowed), (0xB96, 0xB98, .disallowed),
  (0xB9B, 0xB9B, .disallowed), (0xB9D, 0xB9D, .disallowed), (0xBA0, 0xBA2, .disallowed),
  (0xBA5, 0xBA7, .disallowed), (0xBAB, 0xBAD, .disallowed), (0xBBA, 0xBBD, .disallowed),
  (0xBC3, 0xBC5, .disallowed), (0xBC9, 0xBC9, .disallowed), (0xBCE, 0xBCF, .disallowed),
  (0xBD1, 0xBD6, .disallowed), (0xBD8, 0xBE5, .disallowed), (0xBFB, 0xBFF, .disallowed),
  (0xC0D, 0xC0D, .disallowed), (0xC11, 0xC11, .disallowed), (0xC29, 0xC29, .disallowed),
  (0xC3A, 0xC3B, .disallowed), (0xC45, 0xC45, .disallowed), (0xC49, 0xC49, .disallowed),
  (0xC4E, 0xC54, .disallowed), (0xC57, 0xC57, .disallowed), (0xC5B, 0xC5B, .disallowed),
  (0xC5E, 0xC5F, .disallowed), (0xC64, 0xC65, .disallowed), (0xC70, 0xC76, .disallowed),
  (0xC8D, 0xC8D, .disallowed), (0xC91, 0xC91, .disallowed), (0xCA9, 0xCA9, .disallowed),
  (0xCB4, 0xCB4, .disallowed), (0xCBA, 0xCBB, .disallowed), (0xCC5, 0xCC5, .disallowed),
  (0xCC9, 0xCC9, .disallowed), (0xCCE, 0xCD4, .disallowed), (0xCD7, 0xCDB, .disallowed),
  (0xCDF, 0xCDF, .disallowed), (0xCE4, 0xCE5, .disallowed), (0xCF0, 0xCF0, .disallowed),
  (0xCF4, 0xCFF, .disallowed), (0xD0D, 0xD0D, .disallowed), (0xD11, 0xD11, .disallowed),
  (0xD45, 0xD45, .disallowed), (0xD49, 0xD49, .disallowed), (0xD50, 0xD53, .disallowed),
  (0xD64, 0xD65, .disallowed), (0xD80, 0xD80, .disallowed), (0xD84, 0xD84, .disallowed),
  (0xD97, 0xD99, .disallowed), (0xDB2, 0xDB2, .disallowed), (0xDBC, 0xDBC, .disallowed),
  (0xDBE, 0xDBF, .disallowed), (0xDC7, 0xDC9, .disallowed), (0xDCB, 0xDCE, .disallowed),
  (0xDD5, 0xDD5, .disallowed), (0xDD7, 0xDD7, .disallowed), (0xDE0, 0xDE5, .disallowed),
  (0xDF0, 0xDF1, .disallowed), (0xDF5, 0xE00, .disallowed), (0xE33, 0xE33, .replace [0xE4D, 0xE32]),
  (0xE3B, 0xE3E, .disallowed), (0xE5C, 0xE80, .disallowed), (0xE83, 0xE83, .disallowed),
  (0xE85, 0xE85, .disallowed), (0xE8B, 0xE8B, .disallowed), (0xEA4, 0xEA4, .disallowed),
  (0xEA6, 0xEA6, .disallowed), (0xEB3, 0xEB3, .replace [0xECD, 0xEB2]), (0xEBE, 0xEBF, .disallowed),
  (0xEC5, 0xEC5, .disallowed), (0xEC7, 0xEC7, .disallowed), (0xECF, 0xECF, .disallowed),
  (0xEDA, 0xEDB, .disallowed), (0xEDC, 0xEDC, .replace [0xEAB, 0xE99]), (0xEDD, 0xEDD, .replace [0xEAB, 0xEA1]),
  (0xEE0, 0xEFF, .disallowed), (0xF0C, 0xF0C, .shift 1 (-1)), (0xF43, 0xF43, .replace [0xF42, 0xFB7]),
  (0xF48, 0xF48, .disallowed), (0xF4D, 0xF4D, .replace [0xF4C, 0xFB7]), (0xF52, 0xF52, .replace [0xF51, 0xFB7]),
  (0xF57, 0xF57, .replace [0xF56, 0xFB7]), (0xF5C, 0xF5C, .replace [0xF5B, 0xFB7]), (0xF69, 0xF69, .replace [0xF40, 0xFB5]),
  (0xF6D, 0xF70, .disallowed), (0xF73, 0xF73, .replace [0xF71, 0xF72]), (0xF75, 0xF75, .replace [0xF71, 0xF74]),
  (0xF76, 0xF76, .replace [0xFB2, 0xF80]), (0xF77, 0xF77, .replace [0xFB2, 0xF71, 0xF80]), (0xF78, 0xF78, .replace [0xFB3, 0xF80]),
  (0xF79, 0xF79, .replace [0xFB3, 0xF71, 0xF80]), (0xF81, 0xF81, .replace [0xF71, 0xF80]), (0xF93, 0xF93, .replace [0xF92, 0xFB7]),
  (0xF98, 0xF98, .disallowed), (0xF9D, 0xF9D, .replace [0xF9C, 0xFB7]), (0xFA2, 0xFA2, .replace [0xFA1, 0xFB7]),
  (0xFA7, 0xFA7, .replace [0xFA6, 0xFB7]), (0xFAC, 0xFAC, .replace [0xFAB, 0xFB7]), (0xFB9, 0xFB9, .replace [0xF90, 0xFB5]),
  (0xFBD, 0xFBD, .disallowed), (0xFCD, 0xFCD, .disallowed), (0xFDB, 0xFFF, .disallowed),
  (0x10A0, 0x10C5, .shift 1 (7264)), (0x10C6, 0x10C6, .disallowed), (0x10C7, 0x10C7, .shift 1 (7264)),
  (0x10C8, 0x10CC, .disallowed), (0x10CD, 0x10CD, .shift 1 (7264)), (0x10CE, 0x10CF, .disallowed),
  (0x10FC, 0x10FC, .shift 1 (-32)), (0x115F, 0x1160, .ignored), (0x1249, 0x1249, .disallowed),
  (0x124E, 0x124F, .disallowed), (0x1257, 0x1257, .disallowed), (0x1259, 0x1259, .disallowed),
  (0x125E, 0x125F, .disallowed), (0x1289, 0x1289, .disallowed), (0x128E, 0x128F, .disallowed),
  (0x12B1, 0x12B1, .disallowed), (0x12B6, 0x12B7, .disallowed), (0x12BF, 0x12BF, .disallowed),
  (0x12C1, 0x12C1, .disallowed), (0x12C6, 0x12C7, .disallowed), (0x12D7, 0x12D7, .disallowed),
  (0x1311, 0x1311, .disallowed), (0x1316, 0x1317, .disallowed), (0x135B, 0x135C, .disallowed),
  (0x137D, 0x137F, .disallowed), (0x139A, 0x139F, .disallowed), (0x13F6, 0x13F7, .disallowed),
  (0x13F8, 0x13FD, .shift 1 (-8)), (0x13FE, 0x13FF, .disallowed), (0x1680, 0x1680, .disallowed),
  (0x169D, 0x169F, .disallowed), (0x16F9, 0x16FF, .disallowed), (0x1716, 0x171E, .disallowed),
  (0x1737, 0x173F, .disallowed), (0x1754, 0x175F, .disallowed), (0x176D, 0x176D, .disallowed),
  (0x1771, 0x1771, .disallowed), (0x1774, 0x177F, .disallowed), (0x17B4, 0x17B5, .ignored),
  (0x17DE, 0x17DF, .disallowed), (0x17EA, 0x17EF, .disallowed), (0x17FA, 0x17FF, .disallowed),
  (0x180B, 0x180F, .ignored), (0x181A, 0x181F, .disallowed), (0x1879, 0x187F, .disallowed),
  (0x18AB, 0x18AF, .disallowed), (0x18F6, 0x18FF, .disallowed), (0x191F, 0x191F, .disallowed),
  (0x192C, 0x192F, .disallowed), (0x193C, 0x193F, .disallowed), (0x1941, 0x1943, .disallowed),
  (0x196E, 0x196F, .disallowed), (0x1975, 0x197F, .disallowed), (0x19AC, 0x19AF, .disallowed),
  (0x19CA, 0x19CF, .disallowed), (0x19DB, 0x19DD, .disallowed), (0x1A1C, 0x1A1D, .disallowed),
  (0x1A5F, 0x1A5F, .disallowed), (0x1A7D, 0x1A7E, .disallowed), (0x1A8A, 0x1A8F, .disallowed),
  (0x1A9A, 0x1A9F, .disallowed), (0x1AAE, 0x1AAF, .disallowed), (0x1ADE, 0x1ADF, .disallowed),
  (0x1AEC, 0x1AFF, .disallowed), (0x1B4D, 0x1B4D, .disallowed), (0x1BF4, 0x1BFB, .disallowed),
  (0x1C38, 0x1C3A, .disallowed), (0x1C4A, 0x1C4C, .disallowed), (0x1C80, 0x1C80, .shift 1 (-6222)),
  (0x1C81, 0x1C81, .shift 1 (-6221)), (0x1C82, 0x1C82, .shift 1 (-6212)), (0x1C83, 0x1C83, .shift 1 (-6210)),
  (0x1C84, 0x1C85, .replace [0x442]), (0x1C86, 0x1C86, .shift 1 (-6204)), (0x1C87, 0x1C87, .shift 1 (-6180)),
  (0x1C88, 0x1C88, .shift 1 (35267)), (0x1C89, 0x1C89, .shift 1 (1)), (0x1C8B, 0x1C8F, .disallowed),
  (0x1C90, 0x1CBA, .shift 1 (-3008)), (0x1CBB, 0x1CBC, .disallowed), (0x1CBD, 0x1CBF, .shift 1 (-3008)),
  (0x1CC8, 0x1CCF, .disallowed), (0x1CFB, 0x1CFF, .disallowed), (0x1D2C, 0x1D2C, .shift 1 (-7371)),
  (0x1D2D, 0x1D2D, .shift 1 (-7239)), (0x1D2E, 0x1D30, .shift 2 (-7372)), (0x1D31, 0x1D31, .shift 1 (-7372)),
  (0x1D32, 0x1D32, .shift 1 (-6997)), (0x1D33, 0x1D3A, .shift 1 (-7372)), (0x1D3C, 0x1D3C, .shift 1 (-7373)),
  (0x1D3D, 0x1D3D, .shift 1 (-6938)), (0x1D3E, 0x1D3E, .shift 1 (-7374)), (0x1D3F, 0x1D3F, .shift 1 (-7373)),
  (0x1D40, 0x1D41, .shift 1 (-7372)), (0x1D42, 0x1D42, .shift 1 (-7371)), (0x1D43, 0x1D43, .shift 1 (-7394)),
  (0x1D44, 0x1D45, .shift 1 (-6900)), (0x1D46, 0x1D46, .shift 1 (-68)), (0x1D47, 0x1D47, .shift 1 (-7397)),
  (0x1D48, 0x1D49, .shift 1 (-7396)), (0x1D4A, 0x1D4A, .shift 1 (-6897)), (0x1D4B, 0x1D4C, .shift 1 (-6896)),
  (0x1D4D, 0x1D4D, .shift 1 (-7398)), (0x1D4F, 0x1D4F, .shift 1 (-7396)), (0x1D50, 0x1D50, .shift 1 (-7395)),
  (0x1D51, 0x1D51, .shift 1 (-7174)), (0x1D52, 0x1D52, .shift 1 (-7395)), (0x1D53, 0x1D53, .shift 1 (-6911)),
  (0x1D54, 0x1D55, .shift 1 (-62)), (0x1D56, 0x1D56, .shift 1 (-7398)), (0x1D57, 0x1D58, .shift 1 (-7395)),
  (0x1D59, 0x1D59, .shift 1 (-60)), (0x1D5A, 0x1D5A, .shift 1 (-6891)), (0x1D5B, 0x1D5B, .shift 1 (-7397)),
  (0x1D5C, 0x1D5C, .shift 1 (-55)), (0x1D5D, 0x1D5F, .shift 1 (-6571)), (0x1D60, 0x1D61, .shift 1 (-6554)),
  (0x1D62, 0x1D62, .shift 1 (-7417)), (0x1D63, 0x1D63, .shift 1 (-7409)), (0x1D64, 0x1D65, .shift 1 (-7407)),
  (0x1D66, 0x1D67, .shift 1 (-6580)), (0x1D68, 0x1D68, .shift 1 (-6567)), (0x1D69, 0x1D6A, .shift 1 (-6563)),
  (0x1D78, 0x1D78, .shift 1 (-6459)), (0x1D9B, 0x1D9B, .shift 1 (-6985)), (0x1D9C, 0x1D9C, .shift 1 (-7481)),
  (0x1D9D, 0x1D9D, .shift 1 (-6984)), (0x1D9E, 0x1D9E, .shift 1 (-7342)), (0x1D9F, 0x1D9F, .shift 1 (-6979)),
  (0x1DA0, 0x1DA0, .shift 1 (-7482)), (0x1DA1, 0x1DA1, .shift 1 (-6978)), (0x1DA2, 0x1DA2, .shift 1 (-6977)),
  (0x1DA3, 0x1DA3, .shift 1 (-6974)), (0x1DA4, 0x1DA6, .shift 1 (-6972)), (0x1DA7, 0x1DA7, .shift 1 (-44)),
  (0x1DA8, 0x1DA8, .shift 1 (-6923)), (0x1DA9, 0x1DA9, .shift 1 (-6972)), (0x1DAA, 0x1DAA, .shift 1 (-37)),
  (0x1DAB, 0x1DAB, .shift 1 (-6924)), (0x1DAC, 0x1DAC, .shift 1 (-6971)), (0x1DAD, 0x1DAD, .shift 1 (-6973)),
  (0x1DAE, 0x1DB1, .shift 1 (-6972)), (0x1DB2, 0x1DB2, .shift 1 (-6970)), (0x1DB3, 0x1DB4, .shift 1 (-6961)),
  (0x1DB5, 0x1DB5, .shift 1 (-7178)), (0x1DB6, 0x1DB7, .shift 1 (-6957)), (0x1DB8, 0x1DB8, .shift 1 (-156)),
  (0x1DB9, 0x1DBA, .shift 1 (-6958)), (0x1DBB, 0x1DBB, .shift 1 (-7489)), (0x1DBC, 0x1DBE, .shift 1 (-6956)),
  (0x1DBF, 0x1DBF, .shift 1 (-6663)), (0x1E00, 0x1E94, .shift 2 (1)), (0x1E9A, 0x1E9A, .replace [0x61, 0x2BE]),
  (0x1E9B, 0x1E9B, .shift 1 (-58)), (0x1E9E, 0x1E9E, .shift 1 (-7615)), (0x1EA0, 0x1EFE, .shift 2 (1)),
  (0x1F08, 0x1F0F, .shift 1 (-8)), (0x1F16, 0x1F17, .disallowed), (0x1F18, 0x1F1D, .shift 1 (-8)),
  (0x1F1E, 0x1F1F, .disallowed), (0x1F28, 0x1F2F, .shift 1 (-8)), (0x1F38, 0x1F3F, .shift 1 (-8)),
  (0x1F46, 0x1F47, .disallowed), (0x1F48, 0x1F4D, .shift 1 (-8)), (0x1F4E, 0x1F4F, .disallowed),
  (0x1F58, 0x1F58, .disallowed), (0x1F59, 0x1F59, .shift 1 (-8)), (0x1F5A, 0x1F5A, .disallowed),
  (0x1F5B, 0x1F5B, .shift 1 (-8)), (0x1F5C, 0x1F5C, .disallowed), (0x1F5D, 0x1F5D, .shift 1 (-8)),
  (0x1F5E, 0x1F5E, .disallowed), (0x1F5F, 0x1F5F, .shift 1 (-8)), (0x1F68, 0x1F6F, .shift 1 (-8)),
  (0x1F71, 0x1F71, .shift 1 (-7109)), (0x1F73, 0x1F73, .shift 1 (-7110)), (0x1F75, 0x1F75, .shift 1 (-7111)),
  (0x1F77, 0x1F77, .shift 1 (-7112)), (0x1F79, 0x1F79, .shift 1 (-7085)), (0x1F7B, 0x1F7B, .shift 1 (-7086)),
  (0x1F7D, 0x1F7D, .shift 1 (-7087)), (0x1F7E, 0x1F7F, .disallowed), (0x1F80, 0x1F80, .replace [0x1F00, 0x3B9]),
  (0x1F81, 0x1F81, .replace [0x1F01, 0x3B9]), (0x1F82, 0x1F82, .replace [0x1F02, 0x3B9]), (0x1F83, 0x1F83, .replace [0x1F03, 0x3B9]),
  (0x1F84, 0x1F84, .replace [0x1F04, 0x3B9]), (0x1F85, 0x1F85, .replace [0x1F05, 0x3B9]), (0x1F86, 0x1F86, .replace [0x1F06, 0x3B9]),
  (0x1F87, 0x1F87, .replace [0x1F07, 0x3B9]), (0x1F88, 0x1F88, .replace [0x1F00, 0x3B9]), (0x1F89, 0x1F89, .replace [0x1F01, 0x3B9]),
  (0x1F8A, 0x1F8A, .replace [0x1F02, 0x3B9]), (0x1F8B, 0x1F8B, .replace [0x1F03, 0x3B9]), (0x1F8C, 0x1F8C, .replace [0x1F04, 0x3B9]),
  (0x1F8D, 0x1F8D, .replace [0x1F05, 0x3B9]), (0x1F8E, 0x1F8E, .replace [0x1F06, 0x3B9]), (0x1F8F, 0x1F8F, .replace [0x1F07, 0x3B9]),
  (0x1F90, 0x1F90, .replace [0x1F20, 0x3B9]), (0x1F91, 0x1F91, .replace [0x1F21, 0x3B9]), (0x1F92, 0x1F92, .replace [0x1F22, 0x3B9]),
  (0x1F93, 0x1F93, .replace [0x1F23, 0x3B9]), (0x1F94, 0x1F94, .replace [0x1F24, 0x3B9]), (0x1F95, 0x1F95, .replace [0x1F25, 0x3B9]),
  (0x1F96, 0x1F96, .replace [0x1F26, 0x3B9]), (0x1F97, 0x1F97, .replace [0x1F27, 0x3B9]), (0x1F98, 0x1F98, .replace [0x1F20, 0x3B9]),
  (0x1F99, 0x1F99, .replace [0x1F21, 0x3B9]), (0x1F9A, 0x1F9A, .replace [0x1F22, 0x3B9]), (0x1F9B, 0x1F9B, .replace [0x1F23, 0x3B9]),
  (0x1F9C, 0x1F9C, .replace [0x1F24, 0x3B9]), (0x1F9D, 0x1F9D, .replace [0x1F25, 0x3B9]), (0x1F9E, 0x1F9E, .replace [0x1F26, 0x3B9]),
  (0x1F9F, 0x1F9F, .replace [0x1F27, 0x3B9]), (0x1FA0, 0x1FA0, .replace [0x1F60, 0x3B9]), (0x1FA1, 0x1FA1, .replace [0x1F61, 0x3B9]),
  (0x1FA2, 0x1FA2, .replace [0x1F62, 0x3B9]), (0x1FA3, 0x1FA3, .replace [0x1F63, 0x3B9]), (0x1FA4, 0x1FA4, .replace [0x1F64, 0x3B9]),
  (0x1FA5, 0x1FA5, .replace [0x1F65, 0x3B9]), (0x1FA6, 0x1FA6, .replace [0x1F66, 0x3B9]), (0x1FA7, 0x1FA7, .replace [0x1F67, 0x3B9]),
  (0x1FA8, 0x1FA8, .replace [0x1F60, 0x3B9]), (0x1FA9, 0x1FA9, .replace [0x1F61, 0x3B9]), (0x1FAA, 0x1FAA, .replace [0x1F62, 0x3B9]),
  (0x1FAB, 0x1FAB, .replace [0x1F63, 0x3B9]), (0x1FAC, 0x1FAC, .replace [0x1F64, 0x3B9]), (0x1FAD, 0x1FAD, .replace [0x1F65, 0x3B9]),
  (0x1FAE, 0x1FAE, .replace [0x1F66, 0x3B9]), (0x1FAF, 0x1FAF, .replace [0x1F67, 0x3B9]), (0x1FB2, 0x1FB2, .replace [0x1F70, 0x3B9]),
  (0x1FB3, 0x1FB3, .replace [0x3B1, 0x3B9]), (0x1FB4, 0x1FB4, .replace [0x3AC, 0x3B9]), (0x1FB5, 0x1FB5, .disallowed),
  (0x1FB7, 0x1FB7, .replace [0x1FB6, 0x3B9]), (0x1FB8, 0x1FB9, .shift 1 (-8)), (0x1FBA, 0x1FBA, .shift 1 (-74)),
  (0x1FBB, 0x1FBB, .shift 1 (-7183)), (0x1FBC, 0x1FBC, .replace [0x3B1, 0x3B9]), (0x1FBD, 0x1FBD, .replace [0x20, 0x313]),
  (0x1FBE, 0x1FBE, .shift 1 (-7173)), (0x1FBF, 0x1FBF, .replace [0x20, 0x313]), (0x1FC0, 0x1FC0, .replace [0x20, 0x342]),
  (0x1FC1, 0x1FC1, .replace [0x20, 0x308, 0x342]), (0x1FC2, 0x1FC2, .replace [0x1F74, 0x3B9]), (0x1FC3, 0x1FC3, .replace [0x3B7, 0x3B9]),
  (0x1FC4, 0x1FC4, .replace [0x3AE, 0x3B9]), (0x1FC5, 0x1FC5, .disallowed), (0x1FC7, 0x1FC7, .replace [0x1FC6, 0x3B9]),
  (0x1FC8, 0x1FC8, .shift 1 (-86)), (0x1FC9, 0x1FC9, .shift 1 (-7196)), (0x1FCA, 0x1FCA, .shift 1 (-86)),
  (0x1FCB, 0x1FCB, .shift 1 (-7197)), (0x1FCC, 0x1FCC, .replace [0x3B7, 0x3B9]), (0x1FCD, 0x1FCD, .replace [0x20, 0x313, 0x300]),
  (0x1FCE, 0x1FCE, .replace [0x20, 0x313, 0x301]), (0x1FCF, 0x1FCF, .replace [0x20, 0x313, 0x342]), (0x1FD3, 0x1FD3, .shift 1 (-7235)),
  (0x1FD4, 0x1FD5, .disallowed), (0x1FD8, 0x1FD9, .shift 1 (-8)), (0x1FDA, 0x1FDA, .shift 1 (-100)),
  (0x1FDB, 0x1FDB, .shift 1 (-7212)), (0x1FDC, 0x1FDC, .disallowed), (0x1FDD, 0x1FDD, .replace [0x20, 0x314, 0x300]),
  (0x1FDE, 0x1FDE, .replace [0x20, 0x314, 0x301]), (0x1FDF, 0x1FDF, .replace [0x20, 0x314, 0x342]), (0x1FE3, 0x1FE3, .shift 1 (-7219)),
  (0x1FE8, 0x1FE9, .shift 1 (-8)), (0x1FEA, 0x1FEA, .shift 1 (-112)), (0x1FEB, 0x1FEB, .shift 1 (-7198)),
  (0x1FEC, 0x1FEC, .shift 1 (-7)), (0x1FED, 0x1FED, .replace [0x20, 0x308, 0x300]), (0x1FEE, 0x1FEE, .replace [0x20, 0x308, 0x301]),
  (0x1FEF, 0x1FEF, .shift 1 (-8079)), (0x1FF0, 0x1FF1, .disallowed), (0x1FF2, 0x1FF2, .replace [0x1F7C, 0x3B9]),
  (0x1FF3, 0x1FF3, .replace [0x3C9, 0x3B9]), (0x1FF4, 0x1FF4, .replace [0x3CE, 0x3B9]), (0x1FF5, 0x1FF5, .disallowed),
  (0x1FF7, 0x1FF7, .replace [0x1FF6, 0x3B9]), (0x1FF8, 0x1FF8, .shift 1 (-128)), (0x1FF9, 0x1FF9, .shift 1 (-7213)),
  (0x1FFA, 0x1FFA, .shift 1 (-126)), (0x1FFB, 0x1FFB, .shift 1 (-7213)), (0x1FFC, 0x1FFC, .replace [0x3C9, 0x3B9]),
  (0x1FFD, 0x1FFD, .replace [0x20, 0x301]), (0x1FFE, 0x1FFE, .replace [0x20, 0x314]), (0x1FFF, 0x1FFF, .disallowed),
  (0x2000, 0x200A, .replace [0x20]), (0x200B, 0x200B, .ignored), (0x200E, 0x200F, .disallowed),
  (0x2011, 0x2011, .shift 1 (-1)), (0x2017, 0x2017, .replace [0x20, 0x333]), (0x2024, 0x2026, .disallowed),
  (0x2028, 0x202E, .disallowed), (0x202F, 0x202F, .shift 1 (-8207)), (0x2033, 0x2033, .replace [0x2032, 0x2032]),
  (0x2034, 0x2034, .replace [0x2032, 0x2032, 0x2032]), (0x2036, 0x2036, .replace [0x2035, 0x2035]), (0x2037, 0x2037, .replace [0x2035, 0x2035, 0x2035]),
  (0x203C, 0x203C, .replace [0x21, 0x21]), (0x203E, 0x203E, .replace [0x20, 0x305]), (0x2047, 0x2047, .replace [0x3F, 0x3F]),
  (0x2048, 0x2048, .replace [0x3F, 0x21]), (0x2049, 0x2049, .replace [0x21, 0x3F]), (0x2057, 0x2057, .replace [0x2032, 0x2032, 0x2032, 0x2032]),
  (0x205F, 0x205F, .shift 1 (-8255)), (0x2060, 0x2064, .ignored), (0x2065, 0x2069, .disallowed),
  (0x206A, 0x206F, .ignored), (0x2070, 0x2070, .shift 1 (-8256)), (0x2071, 0x2071, .shift 1 (-8200)),
  (0x2072, 0x2073, .disallowed), (0x2074, 0x2079, .shift 1 (-8256)), (0x207A, 0x207A, .shift 1 (-8271)),
  (0x207B, 0x207B, .shift 1 (407)), (0x207C, 0x207C, .shift 1 (-8255)), (0x207D, 0x207E, .shift 1 (-8277)),
  (0x207F, 0x207F, .shift 1 (-8209)), (0x2080, 0x2089, .shift 1 (-8272)), (0x208A, 0x208A, .shift 1 (-8287)),
  (0x208B, 0x208B, .shift 1 (391)), (0x208C, 0x208C, .shift 1 (-8271)), (0x208D, 0x208E, .shift 1 (-8293)),
  (0x208F, 0x208F, .disallowed), (0x2090, 0x2090, .shift 1 (-8239)), (0x2091, 0x2091, .shift 1 (-8236)),
  (0x2092, 0x2092, .shift 1 (-8227)), (0x2093, 0x2093, .shift 1 (-8219)), (0x2094, 0x2094, .shift 1 (-7739)),
  (0x2095, 0x2095, .shift 1 (-8237)), (0x2096, 0x2099, .shift 1 (-8235)), (0x209A, 0x209A, .shift 1 (-8234)),
  (0x209B, 0x209C, .shift 1 (-8232)), (0x209D, 0x209F, .disallowed), (0x20A8, 0x20A8, .replace [0x72, 0x73]),
  (0x20C2, 0x20CF, .disallowed), (0x20F1, 0x20FF, .disallowed), (0x2100, 0x2100, .replace [0x61, 0x2F, 0x63]),
  (0x2101, 0x2101, .replace [0x61, 0x2F, 0x73]), (0x2102, 0x2102, .shift 1 (-8351)), (0x2103, 0x2103, .replace [0xB0, 0x63]),
  (0x2105, 0x2105, .replace [0x63, 0x2F, 0x6F]), (0x2106, 0x2106, .replace [0x63, 0x2F, 0x75]), (0x2107, 0x2107, .shift 1 (-7852)),
  (0x2109, 0x2109, .replace [0xB0, 0x66]), (0x210A, 0x210A, .shift 1 (-8355)), (0x210B, 0x210E, .replace [0x68]),
  (0x210F, 0x210F, .shift 1 (-8168)), (0x2110, 0x2111, .replace [0x69]), (0x2112, 0x2113, .replace [0x6C]),
  (0x2115, 0x2115, .shift 1 (-8359)), (0x2116, 0x2116, .replace [0x6E, 0x6F]), (0x2119, 0x211A, .shift 1 (-8361)),
  (0x211B, 0x211D, .replace [0x72]), (0x2120, 0x2120, .replace [0x73, 0x6D]), (0x2121, 0x2121, .replace [0x74, 0x65, 0x6C]),
  (0x2122, 0x2122, .replace [0x74, 0x6D]), (0x2124, 0x2124, .shift 1 (-8362)), (0x2126, 0x2126, .shift 1 (-7517)),
  (0x2128, 0x2128, .shift 1 (-8366)), (0x212A, 0x212A, .shift 1 (-8383)), (0x212B, 0x212B, .shift 1 (-8262)),
  (0x212C, 0x212D, .shift 1 (-8394)), (0x212F, 0x2130, .replace [0x65]), (0x2131, 0x2131, .shift 1 (-8395)),
  (0x2132, 0x2132, .shift 1 (28)), (0x2133, 0x2133, .shift 1 (-8390)), (0x2134, 0x2134, .shift 1 (-8389)),
  (0x2135, 0x2138, .shift 1 (-7013)), (0x2139, 0x2139, .shift 1 (-8400)), (0x213B, 0x213B, .replace [0x66, 0x61, 0x78]),
  (0x213C, 0x213C, .shift 1 (-7548)), (0x213D, 0x213E, .replace [0x3B3]), (0x213F, 0x213F, .shift 1 (-7551)),
  (0x2140, 0x2140, .shift 1 (209)), (0x2145, 0x2146, .replace [0x64]), (0x2147, 0x2147, .shift 1 (-8418)),
  (0x2148, 0x2149, .shift 1 (-8415)), (0x2150, 0x2150, .replace [0x31, 0x2044, 0x37]), (0x2151, 0x2151, .replace [0x31, 0x2044, 0x39]),
  (0x2152, 0x2152, .replace [0x31, 0x2044, 0x31, 0x30]), (0x2153, 0x2153, .replace [0x31, 0x2044, 0x33]), (0x2154, 0x2154, .replace [0x32, 0x2044, 0x33]),
  (0x2155, 0x2155, .replace [0x31, 0x2044, 0x35]), (0x2156, 0x2156, .replace [0x32, 0x2044, 0x35]), (0x2157, 0x2157, .replace [0x33, 0x2044, 0x35]),
  (0x2158, 0x2158, .replace [0x34, 0x2044, 0x35]), (0x2159, 0x2159, .replace [0x31, 0x2044, 0x36]), (0x215A, 0x215A, .replace [0x35, 0x2044, 0x36]),
  (0x215B, 0x215B, .replace [0x31, 0x2044, 0x38]), (0x215C, 0x215C, .replace [0x33, 0x2044, 0x38]), (0x215D, 0x215D, .replace [0x35, 0x2044, 0x38]),
  (0x215E, 0x215E, .replace [0x37, 0x2044, 0x38]), (0x215F, 0x215F, .replace [0x31, 0x2044]), (0x2160, 0x2160, .shift 1 (-8439)),
  (0x2161, 0x2161, .replace [0x69, 0x69]), (0x2162, 0x2162, .replace [0x69, 0x69, 0x69]), (0x2163, 0x2163, .replace [0x69, 0x76]),
  (0x2164, 0x2164, .shift 1 (-8430)), (0x2165, 0x2165, .replace [0x76, 0x69]), (0x2166, 0x2166, .replace [0x76, 0x69, 0x69]),
  (0x2167, 0x2167, .replace [0x76, 0x69, 0x69, 0x69]), (0x2168, 0x2168, .replace [0x69, 0x78]), (0x2169, 0x2169, .shift 1 (-8433)),
  (0x216A, 0x216A, .replace [0x78, 0x69]), (0x216B, 0x216B, .replace [0x78, 0x69, 0x69]), (0x216C, 0x216C, .shift 1 (-8448)),
  (0x216D, 0x216E, .shift 1 (-8458)), (0x216F, 0x216F, .shift 1 (-8450)), (0x2170, 0x2170, .shift 1 (-8455)),
  (0x2171, 0x2171, .replace [0x69, 0x69]), (0x2172, 0x2172, .replace [0x69, 0x69, 0x69]), (0x2173, 0x2173, .replace [0x69, 0x76]),
  (0x2174, 0x2174, .shift 1 (-8446)), (0x2175, 0x2175, .replace [0x76, 0x69]), (0x2176, 0x2176, .replace [0x76, 0x69, 0x69]),
  (0x2177, 0x2177, .replace [0x76, 0x69, 0x69, 0x69]), (0x2178, 0x2178, .replace [0x69, 0x78]), (0x2179, 0x2179, .shift 1 (-8449)),
  (0x217A, 0x217A, .replace [0x78, 0x69]), (0x217B, 0x217B, .replace [0x78, 0x69, 0x69]), (0x217C, 0x217C, .shift 1 (-8464)),
  (0x217D, 0x217E, .shift 1 (-8474)), (0x217F, 0x217F, .shift 1 (-8466)), (0x2183, 0x2183, .shift 1 (1)),
  (0x2189, 0x2189, .replace [0x30, 0x2044, 0x33]), (0x218C, 0x218F, .disallowed), (0x222C, 0x222C, .replace [0x222B, 0x222B]),
  (0x222D, 0x222D, .replace [0x222B, 0x222B, 0x222B]), (0x222F, 0x222F, .replace [0x222E, 0x222E]), (0x2230, 0x2230, .replace [0x222E, 0x222E, 0x222E]),
  (0x2329, 0x232A, .shift 1 (3295)), (0x242A, 0x243F, .disallowed), (0x244B, 0x245F, .disallowed),
  (0x2460, 0x2468, .shift 1 (-9263)), (0x2469, 0x2469, .replace [0x31, 0x30]), (0x246A, 0x246A, .replace [0x31, 0x31]),
  (0x246B, 0x246B, .replace [0x31, 0x32]), (0x246C, 0x246C, .replace [0x31, 0x33]), (0x246D, 0x246D, .replace [0x31, 0x34]),
  (0x246E, 0x246E, .replace [0x31, 0x35]), (0x246F, 0x246F, .replace [0x31, 0x36]), (0x2470, 0x2470, .replace [0x31, 0x37]),
  (0x2471, 0x2471, .replace [0x31, 0x38]), (0x2472, 0x2472, .replace [0x31, 0x39]), (0x2473, 0x2473, .replace [0x32, 0x30]),
  (0x2474, 0x2474, .replace [0x28, 0x31, 0x29]), (0x2475, 0x2475, .replace [0x28, 0x32, 0x29]), (0x2476, 0x2476, .replace [0x28, 0x33, 0x29]),
  (0x2477, 0x2477, .replace [0x28, 0x34, 0x29]), (0x2478, 0x2478, .replace [0x28, 0x35, 0x29]), (0x2479, 0x2479, .replace [0x28, 0x36, 0x29]),
  (0x247A, 0x247A, .replace [0x28, 0x37, 0x29]), (0x247B, 0x247B, .replace [0x28, 0x38, 0x29]), (0x247C, 0x247C, .replace [0x28, 0x39, 0x29]),
  (0x247D, 0x247D, .replace [0x28, 0x31, 0x30, 0x29]), (0x247E, 0x247E, .replace [0x28, 0x31, 0x31, 0x29]), (0x247F, 0x247F, .replace [0x28, 0x31, 0x32, 0x29]),
  (0x2480, 0x2480, .replace [0x28, 0x31, 0x33, 0x29]), (0x2481, 0x2481, .replace [0x28, 0x31, 0x34, 0x29]), (0x2482, 0x2482, .replace [0x28, 0x31, 0x35, 0x29]),
  (0x2483, 0x2483, .replace [0x28, 0x31, 0x36, 0x29]), (0x2484, 0x2484, .replace [0x28, 0x31, 0x37, 0x29]), (0x2485, 0x2485, .replace [0x28, 0x31, 0x38, 0x29]),
  (0x2486, 0x2486, .replace [0x28, 0x31, 0x39, 0x29]), (0x2487, 0x2487, .replace [0x28, 0x32, 0x30, 0x29]), (0x2488, 0x249B, .disallowed),
  (0x249C, 0x249C, .replace [0x28, 0x61, 0x29]), (0x249D, 0x249D, .replace [0x28, 0x62, 0x29]), (0x249E, 0x249E, .replace [0x28, 0x63, 0x29]),
  (0x249F, 0x249F, .replace [0x28, 0x64, 0x29]), (0x24A0, 0x24A0, .replace [0x28, 0x65, 0x29]), (0x24A1, 0x24A1, .replace [0x28, 0x66, 0x29]),
  (0x24A2, 0x24A2, .replace [0x28, 0x67, 0x29]), (0x24A3, 0x24A3, .replace [0x28, 0x68, 0x29]), (0x24A4, 0x24A4, .replace [0x28, 0x69, 0x29]),
  (0x24A5, 0x24A5, .replace [0x28, 0x6A, 0x29]), (0x24A6, 0x24A6, .replace [0x28, 0x6B, 0x29]), (0x24A7, 0x24A7, .replace [0x28, 0x6C, 0x29]),
  (0x24A8, 0x24A8, .replace [0x28, 0x6D, 0x29]), (0x24A9, 0x24A9, .replace [0x28, 0x6E, 0x29]), (0x24AA, 0x24AA, .replace [0x28, 0x6F, 0x29]),
  (0x24AB, 0x24AB, .replace [0x28, 0x70, 0x29]), (0x24AC, 0x24AC, .replace [0x28, 0x71, 0x29]), (0x24AD, 0x24AD, .replace [0x28, 0x72, 0x29]),
  (0x24AE, 0x24AE, .replace [0x28, 0x73, 0x29]), (0x24AF, 0x24AF, .replace [0x28, 0x74, 0x29]), (0x24B0, 0x24B0, .replace [0x28, 0x75, 0x29]),
  (0x24B1, 0x24B1, .replace [0x28, 0x76, 0x29]), (0x24B2, 0x24B2, .replace [0x28, 0x77, 0x29]), (0x24B3, 0x24B3, .replace [0x28, 0x78, 0x29]),
  (0x24B4, 0x24B4, .replace [0x28, 0x79, 0x29]), (0x24B5, 0x24B5, .replace [0x28, 0x7A, 0x29]), (0x24B6, 0x24CF, .shift 1 (-9301)),
  (0x24D0, 0x24E9, .shift 1 (-9327)), (0x24EA, 0x24EA, .shift 1 (-9402)), (0x2A0C, 0x2A0C, .replace [0x222B, 0x222B, 0x222B, 0x222B]),
  (0x2A74, 0x2A74, .replace [0x3A, 0x3A, 0x3D]), (0x2A75, 0x2A75, .replace [0x3D, 0x3D]), (0x2A76, 0x2A76, .replace [0x3D, 0x3D, 0x3D]),
  (0x2ADC, 0x2ADC, .replace [0x2ADD, 0x338]), (0x2B74, 0x2B75, .disallowed), (0x2C00, 0x2C2F, .shift 1 (48)),
  (0x2C60, 0x2C60, .shift 1 (1)), (0x2C62, 0x2C62, .shift 1 (-10743)), (0x2C63, 0x2C63, .shift 1 (-3814)),
  (0x2C64, 0x2C64, .shift 1 (-10727)), (0x2C67, 0x2C6B, .shift 2 (1)), (0x2C6D, 0x2C6D, .shift 1 (-10780)),
  (0x2C6E, 0x2C6E, .shift 1 (-10749)), (0x2C6F, 0x2C6F, .shift 1 (-10783)), (0x2C70, 0x2C70, .shift 1 (-10782)),
  (0x2C72, 0x2C72, .shift 1 (1)), (0x2C75, 0x2C75, .shift 1 (1)), (0x2C7C, 0x2C7C, .shift 1 (-11282)),
  (0x2C7D, 0x2C7D, .shift 1 (-11271)), (0x2C7E, 0x2C7F, .shift 1 (-10815)), (0x2C80, 0x2CE2, .shift 2 (1)),
  (0x2CEB, 0x2CED, .shift 2 (1)), (0x2CF2, 0x2CF2, .shift 1 (1)), (0x2CF4, 0x2CF8, .disallowed),
  (0x2D26, 0x2D26, .disallowed), (0x2D28, 0x2D2C, .disallowed), (0x2D2E, 0x2D2F, .disallowed),
  (0x2D68, 0x2D6E, .disallowed), (0x2D6F, 0x2D6F, .shift 1 (-14)), (0x2D71, 0x2D7E, .disallowed),
  (0x2D97, 0x2D9F, .disallowed), (0x2DA7, 0x2DA7, .disallowed), (0x2DAF, 0x2DAF, .disallowed),
  (0x2DB7, 0x2DB7, .disallowed), (0x2DBF, 0x2DBF, .disallowed), (0x2DC7, 0x2DC7, .disallowed),
  (0x2DCF, 0x2DCF, .disallowed), (0x2DD7, 0x2DD7, .disallowed), (0x2DDF, 0x2DDF, .disallowed),
  (0x2E5E, 0x2E7F, .disallowed), (0x2E9A, 0x2E9A, .disallowed), (0x2E9F, 0x2E9F, .shift 1 (15662)),
  (0x2EF3, 0x2EF3, .shift 1 (28844)), (0x2EF4, 0x2EFF, .disallowed), (0x2F00, 0x2F00, .shift 1 (7936)),
  (0x2F01, 0x2F01, .shift 1 (7975)), (0x2F02, 0x2F02, .shift 1 (7988)), (0x2F03, 0x2F03, .shift 1 (7996)),
  (0x2F04, 0x2F04, .shift 1 (8021)), (0x2F05, 0x2F05, .shift 1 (8064)), (0x2F06, 0x2F06, .shift 1 (8070)),
  (0x2F07, 0x2F07, .shift 1 (8089)), (0x2F08, 0x2F08, .shift 1 (8114)), (0x2F09, 0x2F09, .shift 1 (8758)),
  (0x2F0A, 0x2F0A, .shift 1 (8795)), (0x2F0B, 0x2F0B, .shift 1 (8800)), (0x2F0C, 0x2F0C, .shift 1 (8822)),
  (0x2F0D, 0x2F0D, .shift 1 (8841)), (0x2F0E, 0x2F0E, .shift 1 (8861)), (0x2F0F, 0x2F0F, .shift 1 (8913)),
  (0x2F10, 0x2F10, .shift 1 (8933)), (0x2F11, 0x2F11, .shift 1 (8943)), (0x2F12, 0x2F12, .shift 1 (9097)),
  (0x2F13, 0x2F13, .shift 1 (9190)), (0x2F14, 0x2F14, .shift 1 (9217)), (0x2F15, 0x2F15, .shift 1 (9221)),
  (0x2F16, 0x2F16, .shift 1 (9250)), (0x2F17, 0x2F17, .shift 1 (9258)), (0x2F18, 0x2F18, .shift 1 (9284)),
  (0x2F19, 0x2F19, .shift 1 (9296)), (0x2F1A, 0x2F1A, .shift 1 (9320)), (0x2F1B, 0x2F1B, .shift 1 (9371)),
  (0x2F1C, 0x2F1C, .shift 1 (9388)), (0x2F1D, 0x2F1D, .shift 1 (9414)), (0x2F1E, 0x2F1E, .shift 1 (10169)),
  (0x2F1F, 0x2F1F, .shift 1 (10240)), (0x2F20, 0x2F20, .shift 1 (10699)), (0x2F21, 0x2F21, .shift 1 (10721)),
  (0x2F22, 0x2F22, .shift 1 (10728)), (0x2F23, 0x2F23, .shift 1 (10738)), (0x2F24, 0x2F24, .shift 1 (10755)),
  (0x2F25, 0x2F25, .shift 1 (10830)), (0x2F26, 0x2F26, .shift 1 (11306)), (0x2F27, 0x2F27, .shift 1 (11353)),
  (0x2F28, 0x2F28, .shift 1 (11472)), (0x2F29, 0x2F29, .shift 1 (11494)), (0x2F2A, 0x2F2A, .shift 1 (11512)),
  (0x2F2B, 0x2F2B, .shift 1 (11533)), (0x2F2C, 0x2F2C, .shift 1 (11586)), (0x2F2D, 0x2F2D, .shift 1 (11588)),
  (0x2F2E, 0x2F2E, .shift 1 (11949)), (0x2F2F, 0x2F2F, .shift 1 (11958)), (0x2F30, 0x2F30, .shift 1 (11969)),
  (0x2F31, 0x2F31, .shift 1 (11981)), (0x2F32, 0x2F32, .shift 1 (12096)), (0x2F33, 0x2F33, .shift 1 (12103)),
  (0x2F34, 0x2F34, .shift 1 (12107)), (0x2F35, 0x2F35, .shift 1 (12223)), (0x2F36, 0x2F36, .shift 1 (12232)),
  (0x2F37, 0x2F37, .shift 1 (12244)), (0x2F38, 0x2F38, .shift 1 (12251)), (0x2F39, 0x2F39, .shift 1 (12311)),
  (0x2F3A, 0x2F3A, .shift 1 (12327)), (0x2F3B, 0x2F3B, .shift 1 (12344)), (0x2F3C, 0x2F3C, .shift 1 (12423)),
  (0x2F3D, 0x2F3D, .shift 1 (13003)), (0x2F3E, 0x2F3E, .shift 1 (13048)), (0x2F3F, 0x2F3F, .shift 1 (13068)),
  (0x2F40, 0x2F40, .shift 1 (13807)), (0x2F41, 0x2F41, .shift 1 (13811)), (0x2F42, 0x2F42, .shift 1 (13893)),
  (0x2F43, 0x2F43, .shift 1 (13908)), (0x2F44, 0x2F44, .shift 1 (13920)), (0x2F45, 0x2F45, .shift 1 (13940)),
  (0x2F46, 0x2F46, .shift 1 (13978)), (0x2F47, 0x2F47, .shift 1 (13982)), (0x2F48, 0x2F48, .shift 1 (14248)),
  (0x2F49, 0x2F49, .shift 1 (14271)), (0x2F4A, 0x2F4A, .shift 1 (14302)), (0x2F4B, 0x2F4B, .shift 1 (15317)),
  (0x2F4C, 0x2F4C, .shift 1 (15382)), (0x2F4D, 0x2F4D, .shift 1 (15404)), (0x2F4E, 0x2F4E, .shift 1 (15461)),
  (0x2F4F, 0x2F4F, .shift 1 (15484)), (0x2F50, 0x2F50, .shift 1 (15492)), (0x2F51, 0x2F51, .shift 1 (15498)),
  (0x2F52, 0x2F52, .shift 1 (15549)), (0x2F53, 0x2F53, .shift 1 (15553)), (0x2F54, 0x2F54, .shift 1 (15584)),
  (0x2F55, 0x2F55, .shift 1 (16662)), (0x2F56, 0x2F56, .shift 1 (17108)), (0x2F57, 0x2F57, .shift 1 (17119)),
  (0x2F58, 0x2F58, .shift 1 (17123)), (0x2F59, 0x2F59, .shift 1 (17126)), (0x2F5A, 0x2F5A, .shift 1 (17133)),
  (0x2F5B, 0x2F5B, .shift 1 (17150)), (0x2F5C, 0x2F5C, .shift 1 (17151)), (0x2F5D, 0x2F5D, .shift 1 (17231)),
  (0x2F5E, 0x2F5E, .shift 1 (17446)), (0x2F5F, 0x2F5F, .shift 1 (17450)), (0x2F60, 0x2F60, .shift 1 (17788)),
  (0x2F61, 0x2F61, .shift 1 (17797)), (0x2F62, 0x2F62, .shift 1 (17846)), (0x2F63, 0x2F63, .shift 1 (17852)),
  (0x2F64, 0x2F64, .shift 1 (17860)), (0x2F65, 0x2F65, .shift 1 (17867)), (0x2F66, 0x2F66, .shift 1 (17957)),
  (0x2F67, 0x2F67, .shift 1 (17963)), (0x2F68, 0x2F68, .shift 1 (18190)), (0x2F69, 0x2F69, .shift 1 (18196)),
  (0x2F6A, 0x2F6A, .shift 1 (18244)), (0x2F6B, 0x2F6B, .shift 1 (18260)), (0x2F6C, 0x2F6C, .shift 1 (18306)),
  (0x2F6D, 0x2F6D, .shift 1 (18542)), (0x2F6E, 0x2F6E, .shift 1 (18548)), (0x2F6F, 0x2F6F, .shift 1 (18564)),
  (0x2F70, 0x2F70, .shift 1 (18890)), (0x2F71, 0x2F71, .shift 1 (19015)), (0x2F72, 0x2F72, .shift 1 (19020)),
  (0x2F73, 0x2F73, .shift 1 (19201)), (0x2F74, 0x2F74, .shift 1 (19287)), (0x2F75, 0x2F75, .shift 1 (19332)),
  (0x2F76, 0x2F76, .shift 1 (19709)), (0x2F77, 0x2F77, .shift 1 (19841)), (0x2F78, 0x2F78, .shift 1 (20414)),
  (0x2F79, 0x2F79, .shift 1 (20440)), (0x2F7A, 0x2F7A, .shift 1 (20496)), (0x2F7B, 0x2F7B, .shift 1 (20546)),
  (0x2F7C, 0x2F7C, .shift 1 (20613)), (0x2F7D, 0x2F7D, .shift 1 (20623)), (0x2F7E, 0x2F7E, .shift 1 (20628)),
  (0x2F7F, 0x2F7F, .shift 1 (20660)), (0x2F80, 0x2F80, .shift 1 (20735)), (0x2F81, 0x2F81, .shift 1 (20744)),
  (0x2F82, 0x2F82, .shift 1 (21089)), (0x2F83, 0x2F83, .shift 1 (21095)), (0x2F84, 0x2F84, .shift 1 (21103)),
  (0x2F85, 0x2F85, .shift 1 (21111)), (0x2F86, 0x2F86, .shift 1 (21126)), (0x2F87, 0x2F87, .shift 1 (21140)),
  (0x2F88, 0x2F88, .shift 1 (21143)), (0x2F89, 0x2F89, .shift 1 (21221)), (0x2F8A, 0x2F8A, .shift 1 (21224)),
  (0x2F8B, 0x2F8B, .shift 1 (21229)), (0x2F8C, 0x2F8C, .shift 1 (22209)), (0x2F8D, 0x2F8D, .shift 1 (22238)),
  (0x2F8E, 0x2F8E, .shift 1 (22706)), (0x2F8F, 0x2F8F, .shift 1 (22717)), (0x2F90, 0x2F90, .shift 1 (22739)),
  (0x2F91, 0x2F91, .shift 1 (23021)), (0x2F92, 0x2F92, .shift 1 (23033)), (0x2F93, 0x2F93, .shift 1 (23103)),
  (0x2F94, 0x2F94, .shift 1 (23148)), (0x2F95, 0x2F95, .shift 1 (23714)), (0x2F96, 0x2F96, .shift 1 (23728)),
  (0x2F97, 0x2F97, .shift 1 (23742)), (0x2F98, 0x2F98, .shift 1 (23776)), (0x2F99, 0x2F99, .shift 1 (23812)),
  (0x2F9A, 0x2F9A, .shift 1 (24010)), (0x2F9B, 0x2F9B, .shift 1 (24021)), (0x2F9C, 0x2F9C, .shift 1 (24087)),
  (0x2F9D, 0x2F9D, .shift 1 (24334)), (0x2F9E, 0x2F9E, .shift 1 (24364)), (0x2F9F, 0x2F9F, .shift 1 (24572)),
  (0x2FA0, 0x2FA0, .shift 1 (24592)), (0x2FA1, 0x2FA1, .shift 1 (24596)), (0x2FA2, 0x2FA2, .shift 1 (24815)),
  (0x2FA3, 0x2FA3, .shift 1 (24998)), (0x2FA4, 0x2FA4, .shift 1 (25122)), (0x2FA5, 0x2FA5, .shift 1 (25127)),
  (0x2FA6, 0x2FA6, .shift 1 (25131)), (0x2FA7, 0x2FA7, .shift 1 (26064)), (0x2FA8, 0x2FA8, .shift 1 (26072)),
  (0x2FA9, 0x2FA9, .shift 1 (26227)), (0x2FAA, 0x2FAA, .shift 1 (26380)), (0x2FAB, 0x2FAB, .shift 1 (26382)),
  (0x2FAC, 0x2FAC, .shift 1 (26428)), (0x2FAD, 0x2FAD, .shift 1 (26532)), (0x2FAE, 0x2FAE, .shift 1 (26544)),
  (0x2FAF, 0x2FAF, .shift 1 (26547)), (0x2FB0, 0x2FB0, .shift 1 (26553)), (0x2FB1, 0x2FB1, .shift 1 (26650)),
  (0x2FB2, 0x2FB2, .shift 1 (26683)), (0x2FB3, 0x2FB3, .shift 1 (26688)), (0x2FB4, 0x2FB4, .shift 1 (26701)),
  (0x2FB5, 0x2FB5, .shift 1 (26867)), (0x2FB6, 0x2FB6, .shift 1 (26917)), (0x2FB7, 0x2FB7, .shift 1 (26920)),
  (0x2FB8, 0x2FB8, .shift 1 (27102)), (0x2FB9, 0x2FB9, .shift 1 (27104)), (0x2FBA, 0x2FBA, .shift 1 (27122)),
  (0x2FBB, 0x2FBB, .shift 1 (27373)), (0x2FBC, 0x2FBC, .shift 1 (27420)), (0x2FBD, 0x2FBD, .shift 1 (27426)),
  (0x2FBE, 0x2FBE, .shift 1 (27495)), (0x2FBF, 0x2FBF, .shift 1 (27504)), (0x2FC0, 0x2FC0, .shift 1 (27506)),
  (0x2FC1, 0x2FC1, .shift 1 (27515)), (0x2FC2, 0x2FC2, .shift 1 (27544)), (0x2FC3, 0x2FC3, .shift 1 (27938)),
  (0x2FC4, 0x2FC4, .shift 1 (28337)), (0x2FC5, 0x2FC5, .shift 1 (28346)), (0x2FC6, 0x2FC6, .shift 1 (28383)),
  (0x2FC7, 0x2FC7, .shift 1 (28404)), (0x2FC8, 0x2FC8, .shift 1 (28411)), (0x2FC9, 0x2FC9, .shift 1 (28420)),
  (0x2FCA, 0x2FCA, .shift 1 (28423)), (0x2FCB, 0x2FCB, .shift 1 (28462)), (0x2FCC, 0x2FCC, .shift 1 (28465)),
  (0x2FCD, 0x2FCD, .shift 1 (28481)), (0x2FCE, 0x2FCE, .shift 1 (28485)), (0x2FCF, 0x2FCF, .shift 1 (28497)),
  (0x2FD0, 0x2FD0, .shift 1 (28523)), (0x2FD1, 0x2FD1, .shift 1 (28537)), (0x2FD2, 0x2FD2, .shift 1 (28544)),
  (0x2FD3, 0x2FD3, .shift 1 (28602)), (0x2FD4, 0x2FD4, .shift 1 (28616)), (0x2FD5, 0x2FD5, .shift 1 (28619)),
  (0x2FD6, 0x2FFF, .disallowed), (0x3000, 0x3000, .shift 1 (-12256)), (0x3002, 0x3002, .shift 1 (-12244)),
  (0x3036, 0x3036, .shift 1 (-36)), (0x3038, 0x3038, .shift 1 (8969)), (0x3039, 0x303A, .shift 1 (8971)),
  (0x3040, 0x3040, .disallowed), (0x3097, 0x3098, .disallowed), (0x309B, 0x309B, .replace [0x20, 0x3099]),
  (0x309C, 0x309C, .replace [0x20, 0x309A]), (0x309F, 0x309F, .replace [0x3088, 0x308A]), (0x30FF, 0x30FF, .replace [0x30B3, 0x30C8]),
  (0x3100, 0x3104, .disallowed), (0x3130, 0x3130, .disallowed), (0x3131, 0x3132, .shift 1 (-8241)),
  (0x3133, 0x3133, .shift 1 (-8073)), (0x3134, 0x3134, .shift 1 (-8242)), (0x3135, 0x3136, .shift 1 (-8073)),
  (0x3137, 0x3139, .shift 1 (-8244)), (0x313A, 0x313F, .shift 1 (-8074)), (0x3140, 0x3140, .shift 1 (-8230)),
  (0x3141, 0x3143, .shift 1 (-8251)), (0x3144, 0x3144, .shift 1 (-8227)), (0x3145, 0x314E, .shift 1 (-8252)),
  (0x314F, 0x3163, .shift 1 (-8174)), (0x3164, 0x3164, .ignored), (0x3165, 0x3166, .shift 1 (-8273)),
  (0x3167, 0x3168, .shift 1 (-8096)), (0x3169, 0x3169, .shift 1 (-8093)), (0x316A, 0x316A, .shift 1 (-8092)),
  (0x316B, 0x316B, .shift 1 (-8088)), (0x316C, 0x316C, .shift 1 (-8085)), (0x316D, 0x316D, .shift 1 (-8084)),
  (0x316E, 0x316E, .shift 1 (-8274)), (0x316F, 0x316F, .shift 1 (-8082)), (0x3170, 0x3170, .shift 1 (-8081)),
  (0x3171, 0x3172, .shift 1 (-8276)), (0x3173, 0x3173, .shift 1 (-8275)), (0x3174, 0x3175, .shift 1 (-8274)),
  (0x3176, 0x3176, .shift 1 (-8271)), (0x3177, 0x3177, .shift 1 (-8270)), (0x3178, 0x317C, .shift 1 (-8269)),
  (0x317D, 0x317D, .shift 1 (-8267)), (0x317E, 0x317E, .shift 1 (-8264)), (0x317F, 0x317F, .shift 1 (-8255)),
  (0x3180, 0x3180, .shift 1 (-8249)), (0x3181, 0x3181, .shift 1 (-8245)), (0x3182, 0x3183, .shift 1 (-8081)),
  (0x3184, 0x3186, .shift 1 (-8237)), (0x3187, 0x3188, .shift 1 (-8195)), (0x3189, 0x3189, .shift 1 (-8193)),
  (0x318A, 0x318B, .shift 1 (-8185)), (0x318C, 0x318C, .shift 1 (-8184)), (0x318D, 0x318D, .shift 1 (-8175)),
  (0x318E, 0x318E, .shift 1 (-8173)), (0x318F, 0x318F, .disallowed), (0x3192, 0x3192, .shift 1 (7278)),
  (0x3193, 0x3193, .shift 1 (7417)), (0x3194, 0x3194, .shift 1 (7285)), (0x3195, 0x3195, .shift 1 (9542)),
  (0x3196, 0x3196, .shift 1 (7284)), (0x3197, 0x3197, .shift 1 (7318)), (0x3198, 0x3198, .shift 1 (7283)),
  (0x3199, 0x3199, .shift 1 (17305)), (0x319A, 0x319A, .shift 1 (7359)), (0x319B, 0x319B, .shift 1 (7294)),
  (0x319C, 0x319C, .shift 1 (7269)), (0x319D, 0x319D, .shift 1 (10124)), (0x319E, 0x319E, .shift 1 (9618)),
  (0x319F, 0x319F, .shift 1 (7451)), (0x31E6, 0x31EF, .disallowed), (0x3200, 0x3200, .replace [0x28, 0x1100, 0x29]),
  (0x3201, 0x3201, .replace [0x28, 0x1102, 0x29]), (0x3202, 0x3202, .replace [0x28, 0x1103, 0x29]), (0x3203, 0x3203, .replace [0x28, 0x1105, 0x29]),
  (0x3204, 0x3204, .replace [0x28, 0x1106, 0x29]), (0x3205, 0x3205, .replace [0x28, 0x1107, 0x29]), (0x3206, 0x3206, .replace [0x28, 0x1109, 0x29]),
  (0x3207, 0x3207, .replace [0x28, 0x110B, 0x29]), (0x3208, 0x3208, .replace [0x28, 0x110C, 0x29]), (0x3209, 0x3209, .replace [0x28, 0x110E, 0x29]),
  (0x320A, 0x320A, .replace [0x28, 0x110F, 0x29]), (0x320B, 0x320B, .replace [0x28, 0x1110, 0x29]), (0x320C, 0x320C, .replace [0x28, 0x1111, 0x29]),
  (0x320D, 0x320D, .replace [0x28, 0x1112, 0x29]), (0x320E, 0x320E, .replace [0x28, 0xAC00, 0x29]), (0x320F, 0x320F, .replace [0x28, 0xB098, 0x29]),
  (0x3210, 0x3210, .replace [0x28, 0xB2E4, 0x29]), (0x3211, 0x3211, .replace [0x28, 0xB77C, 0x29]), (0x3212, 0x3212, .replace [0x28, 0xB9C8, 0x29]),
  (0x3213, 0x3213, .replace [0x28, 0xBC14, 0x29]), (0x3214, 0x3214, .replace [0x28, 0xC0AC, 0x29]), (0x3215, 0x3215, .replace [0x28, 0xC544, 0x29]),
  (0x3216, 0x3216, .replace [0x28, 0xC790, 0x29]), (0x3217, 0x3217, .replace [0x28, 0xCC28, 0x29]), (0x3218, 0x3218, .replace [0x28, 0xCE74, 0x29]),
  (0x3219, 0x3219, .replace [0x28, 0xD0C0, 0x29]), (0x321A, 0x321A, .replace [0x28, 0xD30C, 0x29]), (0x321B, 0x321B, .replace [0x28, 0xD558, 0x29]),
  (0x321C, 0x321C, .replace [0x28, 0xC8FC, 0x29]), (0x321D, 0x321D, .replace [0x28, 0xC624, 0xC804, 0x29]), (0x321E, 0x321E, .replace [0x28, 0xC624, 0xD6C4, 0x29]),
  (0x321F, 0x321F, .disallowed), (0x3220, 0x3220, .replace [0x28, 0x4E00, 0x29]), (0x3221, 0x3221, .replace [0x28, 0x4E8C, 0x29]),
  (0x3222, 0x3222, .replace [0x28, 0x4E09, 0x29]), (0x3223, 0x3223, .replace [0x28, 0x56DB, 0x29]), (0x3224, 0x3224, .replace [0x28, 0x4E94, 0x29]),
  (0x3225, 0x3225, .replace [0x28, 0x516D, 0x29]), (0x3226, 0x3226, .replace [0x28, 0x4E03, 0x29]), (0x3227, 0x3227, .replace [0x28, 0x516B, 0x29]),
  (0x3228, 0x3228, .replace [0x28, 0x4E5D, 0x29]), (0x3229, 0x3229, .replace [0x28, 0x5341, 0x29]), (0x322A, 0x322A, .replace [0x28, 0x6708, 0x29]),
  (0x322B, 0x322B, .replace [0x28, 0x706B, 0x29]), (0x322C, 0x322C, .replace [0x28, 0x6C34, 0x29]), (0x322D, 0x322D, .replace [0x28, 0x6728, 0x29]),
  (0x322E, 0x322E, .replace [0x28, 0x91D1, 0x29]), (0x322F, 0x322F, .replace [0x28, 0x571F, 0x29]), (0x3230, 0x3230, .replace [0x28, 0x65E5, 0x29]),
  (0x3231, 0x3231, .replace [0x28, 0x682A, 0x29]), (0x3232, 0x3232, .replace [0x28, 0x6709, 0x29]), (0x3233, 0x3233, .replace [0x28, 0x793E, 0x29]),
  (0x3234, 0x3234, .replace [0x28, 0x540D, 0x29]), (0x3235, 0x3235, .replace [0x28, 0x7279, 0x29]), (0x3236, 0x3236, .replace [0x28, 0x8CA1, 0x29]),
  (0x3237, 0x3237, .replace [0x28, 0x795D, 0x29]), (0x3238, 0x3238, .replace [0x28, 0x52B4, 0x29]), (0x3239, 0x3239, .replace [0x28, 0x4EE3, 0x29]),
  (0x323A, 0x323A, .replace [0x28, 0x547C, 0x29]), (0x323B, 0x323B, .replace [0x28, 0x5B66, 0x29]), (0x323C, 0x323C, .replace [0x28, 0x76E3, 0x29]),
  (0x323D, 0x323D, .replace [0x28, 0x4F01, 0x29]), (0x323E, 0x323E, .replace [0x28, 0x8CC7, 0x29]), (0x323F, 0x323F, .replace [0x28, 0x5354, 0x29]),
  (0x3240, 0x3240, .replace [0x28, 0x796D, 0x29]), (0x3241, 0x3241, .replace [0x28, 0x4F11, 0x29]), (0x3242, 0x3242, .replace [0x28, 0x81EA, 0x29]),
  (0x3243, 0x3243, .replace [0x28, 0x81F3, 0x29]), (0x3244, 0x3244, .shift 1 (8971)), (0x3245, 0x3245, .shift 1 (11319)),
  (0x3246, 0x3246, .shift 1 (13121)), (0x3247, 0x3247, .shift 1 (18760)), (0x3250, 0x3250, .replace [0x70, 0x74, 0x65]),
  (0x3251, 0x3251, .replace [0x32, 0x31]), (0x3252, 0x3252, .replace [0x32, 0x32]), (0x3253, 0x3253, .replace [0x32, 0x33]),
  (0x3254, 0x3254, .replace [0x32, 0x34]), (0x3255, 0x3255, .replace [0x32, 0x35]), (0x3256, 0x3256, .replace [0x32, 0x36]),
  (0x3257, 0x3257, .replace [0x32, 0x37]), (0x3258, 0x3258, .replace [0x32, 0x38]), (0x3259, 0x3259, .replace [0x32, 0x39]),
  (0x325A, 0x325A, .replace [0x33, 0x30]), (0x325B, 0x325B, .replace [0x33, 0x31]), (0x325C, 0x325C, .replace [0x33, 0x32]),
  (0x325D, 0x325D, .replace [0x33, 0x33]), (0x325E, 0x325E, .replace [0x33, 0x34]), (0x325F, 0x325F, .replace [0x33, 0x35]),
  (0x3260, 0x3260, .shift 1 (-8544)), (0x3261, 0x3262, .shift 1 (-8543)), (0x3263, 0x3265, .shift 1 (-8542)),
  (0x3266, 0x3266, .shift 1 (-8541)), (0x3267, 0x3268, .shift 1 (-8540)), (0x3269, 0x326D, .shift 1 (-8539)),
  (0x326E, 0x326E, .shift 1 (31122)), (0x326F, 0x326F, .shift 1 (32297)), (0x3270, 0x3270, .shift 1 (32884)),
  (0x3271, 0x3271, .shift 1 (34059)), (0x3272, 0x3272, .shift 1 (34646)), (0x3273, 0x3273, .shift 1 (35233)),
  (0x3274, 0x3274, .shift 1 (36408)), (0x3275, 0x3275, .shift 1 (37583)), (0x3276, 0x3276, .shift 1 (38170)),
  (0x3277, 0x3277, .shift 1 (39345)), (0x3278, 0x3278, .shift 1 (39932)), (0x3279, 0x3279, .shift 1 (40519)),
  (0x327A, 0x327A, .shift 1 (41106)), (0x327B, 0x327B, .shift 1 (41693)), (0x327C, 0x327C, .replace [0xCC38, 0xACE0]),
  (0x327D, 0x327D, .replace [0xC8FC, 0xC758]), (0x327E, 0x327E, .shift 1 (37938)), (0x3280, 0x3280, .shift 1 (7040)),
  (0x3281, 0x3281, .shift 1 (7179)), (0x3282, 0x3282, .shift 1 (7047)), (0x3283, 0x3283, .shift 1 (9304)),
  (0x3284, 0x3284, .shift 1 (7184)), (0x3285, 0x3285, .shift 1 (7912)), (0x3286, 0x3286, .shift 1 (7037)),
  (0x3287, 0x3287, .shift 1 (7908)), (0x3288, 0x3288, .shift 1 (7125)), (0x3289, 0x3289, .shift 1 (8376)),
  (0x328A, 0x328A, .shift 1 (13438)), (0x328B, 0x328B, .shift 1 (15840)), (0x328C, 0x328C, .shift 1 (14760)),
  (0x328D, 0x328D, .shift 1 (13467)), (0x328E, 0x328E, .shift 1 (24387)), (0x328F, 0x328F, .shift 1 (9360)),
  (0x3290, 0x3290, .shift 1 (13141)), (0x3291, 0x3291, .shift 1 (13721)), (0x3292, 0x3292, .shift 1 (13431)),
  (0x3293, 0x3293, .shift 1 (18091)), (0x3294, 0x3294, .shift 1 (8569)), (0x3295, 0x3295, .shift 1 (16356)),
  (0x3296, 0x3296, .shift 1 (23051)), (0x3297, 0x3297, .shift 1 (18118)), (0x3298, 0x3298, .shift 1 (8220)),
  (0x3299, 0x3299, .shift 1 (18239)), (0x329A, 0x329A, .shift 1 (17053)), (0x329B, 0x329B, .shift 1 (9944)),
  (0x329C, 0x329C, .shift 1 (24013)), (0x329D, 0x329D, .shift 1 (7821)), (0x329E, 0x329E, .shift 1 (8402)),
  (0x329F, 0x329F, .shift 1 (14921)), (0x32A0, 0x32A0, .shift 1 (25957)), (0x32A1, 0x32A1, .shift 1 (7280)),
  (0x32A2, 0x32A2, .shift 1 (7927)), (0x32A3, 0x32A3, .shift 1 (14528)), (0x32A4, 0x32A4, .shift 1 (7014)),
  (0x32A5, 0x32A5, .shift 1 (7048)), (0x32A6, 0x32A6, .shift 1 (7013)), (0x32A7, 0x32A7, .shift 1 (11071)),
  (0x32A8, 0x32A8, .shift 1 (8523)), (0x32A9, 0x32A9, .shift 1 (8338)), (0x32AA, 0x32AA, .shift 1 (10477)),
  (0x32AB, 0x32AB, .shift 1 (10427)), (0x32AC, 0x32AC, .shift 1 (17463)), (0x32AD, 0x32AD, .shift 1 (7252)),
  (0x32AE, 0x32AE, .shift 1 (23065)), (0x32AF, 0x32AF, .shift 1 (8357)), (0x32B0, 0x32B0, .shift 1 (9836)),
  (0x32B1, 0x32B1, .replace [0x33, 0x36]), (0x32B2, 0x32B2, .replace [0x33, 0x37]), (0x32B3, 0x32B3, .replace [0x33, 0x38]),
  (0x32B4, 0x32B4, .replace [0x33, 0x39]), (0x32B5, 0x32B5, .replace [0x34, 0x30]), (0x32B6, 0x32B6, .replace [0x34, 0x31]),
  (0x32B7, 0x32B7, .replace [0x34, 0x32]), (0x32B8, 0x32B8, .replace [0x34, 0x33]), (0x32B9, 0x32B9, .replace [0x34, 0x34]),
  (0x32BA, 0x32BA, .replace [0x34, 0x35]), (0x32BB, 0x32BB, .replace [0x34, 0x36]), (0x32BC, 0x32BC, .replace [0x34, 0x37]),
  (0x32BD, 0x32BD, .replace [0x34, 0x38]), (0x32BE, 0x32BE, .replace [0x34, 0x39]), (0x32BF, 0x32BF, .replace [0x35, 0x30]),
  (0x32C0, 0x32C0, .replace [0x31, 0x6708]), (0x32C1, 0x32C1, .replace [0x32, 0x6708]), (0x32C2, 0x32C2, .replace [0x33, 0x6708]),
  (0x32C3, 0x32C3, .replace [0x34, 0x6708]), (0x32C4, 0x32C4, .replace [0x35, 0x6708]), (0x32C5, 0x32C5, .replace [0x36, 0x6708]),
  (0x32C6, 0x32C6, .replace [0x37, 0x6708]), (0x32C7, 0x32C7, .replace [0x38, 0x6708]), (0x32C8, 0x32C8, .replace [0x39, 0x6708]),
  (0x32C9, 0x32C9, .replace [0x31, 0x30, 0x6708]), (0x32CA, 0x32CA, .replace [0x31, 0x31, 0x6708]), (0x32CB, 0x32CB, .replace [0x31, 0x32, 0x6708]),
  (0x32CC, 0x32CC, .replace [0x68, 0x67]), (0x32CD, 0x32CD, .replace [0x65, 0x72, 0x67]), (0x32CE, 0x32CE, .replace [0x65, 0x76]),
  (0x32CF, 0x32CF, .replace [0x6C, 0x74, 0x64]), (0x32D0, 0x32D0, .shift 1 (-558)), (0x32D1, 0x32D1, .shift 1 (-557)),
  (0x32D2, 0x32D2, .shift 1 (-556)), (0x32D3, 0x32D3, .shift 1 (-555)), (0x32D4, 0x32D5, .shift 1 (-554)),
  (0x32D6, 0x32D6, .shift 1 (-553)), (0x32D7, 0x32D7, .shift 1 (-552)), (0x32D8, 0x32D8, .shift 1 (-551)),
  (0x32D9, 0x32D9, .shift 1 (-550)), (0x32DA, 0x32DA, .shift 1 (-549)), (0x32DB, 0x32DB, .shift 1 (-548)),
  (0x32DC, 0x32DC, .shift 1 (-547)), (0x32DD, 0x32DD, .shift 1 (-546)), (0x32DE, 0x32DE, .shift 1 (-545)),
  (0x32DF, 0x32DF, .shift 1 (-544)), (0x32E0, 0x32E0, .shift 1 (-543)), (0x32E1, 0x32E1, .shift 1 (-541)),
  (0x32E2, 0x32E2, .shift 1 (-540)), (0x32E3, 0x32E3, .shift 1 (-539)), (0x32E4, 0x32E9, .shift 1 (-538)),
  (0x32EA, 0x32EA, .shift 1 (-536)), (0x32EB, 0x32EB, .shift 1 (-534)), (0x32EC, 0x32EC, .shift 1 (-532)),
  (0x32ED, 0x32ED, .shift 1 (-530)), (0x32EE, 0x32F2, .shift 1 (-528)), (0x32F3, 0x32F3, .shift 1 (-527)),
  (0x32F4, 0x32F4, .shift 1 (-526)), (0x32F5, 0x32FA, .shift 1 (-525)), (0x32FB, 0x32FE, .shift 1 (-524)),
  (0x32FF, 0x32FF, .replace [0x4EE4, 0x548C]), (0x3300, 0x3300, .replace [0x30A2, 0x30D1, 0x30FC, 0x30C8]), (0x3301, 0x3301, .replace [0x30A2, 0x30EB, 0x30D5, 0x30A1]),
  (0x3302, 0x3302, .replace [0x30A2, 0x30F3, 0x30DA, 0x30A2]), (0x3303, 0x3303, .replace [0x30A2, 0x30FC, 0x30EB]), (0x3304, 0x3304, .replace [0x30A4, 0x30CB, 0x30F3, 0x30B0]),
  (0x3305, 0x3305, .replace [0x30A4, 0x30F3, 0x30C1]), (0x3306, 0x3306, .replace [0x30A6, 0x30A9, 0x30F3]), (0x3307, 0x3307, .replace [0x30A8, 0x30B9, 0x30AF, 0x30FC, 0x30C9]),
  (0x3308, 0x3308, .replace [0x30A8, 0x30FC, 0x30AB, 0x30FC]), (0x3309, 0x3309, .replace [0x30AA, 0x30F3, 0x30B9]), (0x330A, 0x330A, .replace [0x30AA, 0x30FC, 0x30E0]),
  (0x330B, 0x330B, .replace [0x30AB, 0x30A4, 0x30EA]), (0x330C, 0x330C, .replace [0x30AB, 0x30E9, 0x30C3, 0x30C8]), (0x330D, 0x330D, .replace [0x30AB, 0x30ED, 0x30EA, 0x30FC]),
  (0x330E, 0x330E, .replace [0x30AC, 0x30ED, 0x30F3]), (0x330F, 0x330F, .replace [0x30AC, 0x30F3, 0x30DE]), (0x3310, 0x3310, .replace [0x30AE, 0x30AC]),
  (0x3311, 0x3311, .replace [0x30AE, 0x30CB, 0x30FC]), (0x3312, 0x3312, .replace [0x30AD, 0x30E5, 0x30EA, 0x30FC]), (0x3313, 0x3313, .replace [0x30AE, 0x30EB, 0x30C0, 0x30FC]),
  (0x3314, 0x3314, .replace [0x30AD, 0x30ED]), (0x3315, 0x3315, .replace [0x30AD, 0x30ED, 0x30B0, 0x30E9, 0x30E0]), (0x3316, 0x3316, .replace [0x30AD, 0x30ED, 0x30E1, 0x30FC, 0x30C8, 0x30EB]),
  (0x3317, 0x3317, .replace [0x30AD, 0x30ED, 0x30EF, 0x30C3, 0x30C8]), (0x3318, 0x3318, .replace [0x30B0, 0x30E9, 0x30E0]), (0x3319, 0x3319, .replace [0x30B0, 0x30E9, 0x30E0, 0x30C8, 0x30F3]),
  (0x331A, 0x331A, .replace [0x30AF, 0x30EB, 0x30BC, 0x30A4, 0x30ED]), (0x331B, 0x331B, .replace [0x30AF, 0x30ED, 0x30FC, 0x30CD]), (0x331C, 0x331C, .replace [0x30B1, 0x30FC, 0x30B9]),
  (0x331D, 0x331D, .replace [0x30B3, 0x30EB, 0x30CA]), (0x331E, 0x331E, .replace [0x30B3, 0x30FC, 0x30DD]), (0x331F, 0x331F, .replace [0x30B5, 0x30A4, 0x30AF, 0x30EB]),
  (0x3320, 0x3320, .replace [0x30B5, 0x30F3, 0x30C1, 0x30FC, 0x30E0]), (0x3321, 0x3321, .replace [0x30B7, 0x30EA, 0x30F3, 0x30B0]), (0x3322, 0x3322, .replace [0x30BB, 0x30F3, 0x30C1]),
  (0x3323, 0x3323, .replace [0x30BB, 0x30F3, 0x30C8]), (0x3324, 0x3324, .replace [0x30C0, 0x30FC, 0x30B9]), (0x3325, 0x3325, .replace [0x30C7, 0x30B7]),
  (0x3326, 0x3326, .replace [0x30C9, 0x30EB]), (0x3327, 0x3327, .replace [0x30C8, 0x30F3]), (0x3328, 0x3328, .replace [0x30CA, 0x30CE]),
  (0x3329, 0x3329, .replace [0x30CE, 0x30C3, 0x30C8]), (0x332A, 0x332A, .replace [0x30CF, 0x30A4, 0x30C4]), (0x332B, 0x332B, .replace [0x30D1, 0x30FC, 0x30BB, 0x30F3, 0x30C8]),
  (0x332C, 0x332C, .replace [0x30D1, 0x30FC, 0x30C4]), (0x332D, 0x332D, .replace [0x30D0, 0x30FC, 0x30EC, 0x30EB]), (0x332E, 0x332E, .replace [0x30D4, 0x30A2, 0x30B9, 0x30C8, 0x30EB]),
  (0x332F, 0x332F, .replace [0x30D4, 0x30AF, 0x30EB]), (0x3330, 0x3330, .replace [0x30D4, 0x30B3]), (0x3331, 0x3331, .replace [0x30D3, 0x30EB]),
  (0x3332, 0x3332, .replace [0x30D5, 0x30A1, 0x30E9, 0x30C3, 0x30C9]), (0x3333, 0x3333, .replace [0x30D5, 0x30A3, 0x30FC, 0x30C8]), (0x3334, 0x3334, .replace [0x30D6, 0x30C3, 0x30B7, 0x30A7, 0x30EB]),
  (0x3335, 0x3335, .replace [0x30D5, 0x30E9, 0x30F3]), (0x3336, 0x3336, .replace [0x30D8, 0x30AF, 0x30BF, 0x30FC, 0x30EB]), (0x3337, 0x3337, .replace [0x30DA, 0x30BD]),
  (0x3338, 0x3338, .replace [0x30DA, 0x30CB, 0x30D2]), (0x3339, 0x3339, .replace [0x30D8, 0x30EB, 0x30C4]), (0x333A, 0x333A, .replace [0x30DA, 0x30F3, 0x30B9]),
  (0x333B, 0x333B, .replace [0x30DA, 0x30FC, 0x30B8]), (0x333C, 0x333C, .replace [0x30D9, 0x30FC, 0x30BF]), (0x333D, 0x333D, .replace [0x30DD, 0x30A4, 0x30F3, 0x30C8]),
  (0x333E, 0x333E, .replace [0x30DC, 0x30EB, 0x30C8]), (0x333F, 0x333F, .replace [0x30DB, 0x30F3]), (0x3340, 0x3340, .replace [0x30DD, 0x30F3, 0x30C9]),
  (0x3341, 0x3341, .replace [0x30DB, 0x30FC, 0x30EB]), (0x3342, 0x3342, .replace [0x30DB, 0x30FC, 0x30F3]), (0x3343, 0x3343, .replace [0x30DE, 0x30A4, 0x30AF, 0x30ED]),
  (0x3344, 0x3344, .replace [0x30DE, 0x30A4, 0x30EB]), (0x3345, 0x3345, .replace [0x30DE, 0x30C3, 0x30CF]), (0x3346, 0x3346, .replace [0x30DE, 0x30EB, 0x30AF]),
  (0x3347, 0x3347, .replace [0x30DE, 0x30F3, 0x30B7, 0x30E7, 0x30F3]), (0x3348, 0x3348, .replace [0x30DF, 0x30AF, 0x30ED, 0x30F3]), (0x3349, 0x3349, .replace [0x30DF, 0x30EA]),
  (0x334A, 0x334A, .replace [0x30DF, 0x30EA, 0x30D0, 0x30FC, 0x30EB]), (0x334B, 0x334B, .replace [0x30E1, 0x30AC]), (0x334C, 0x334C, .replace [0x30E1, 0x30AC, 0x30C8, 0x30F3]),
  (0x334D, 0x334D, .replace [0x30E1, 0x30FC, 0x30C8, 0x30EB]), (0x334E, 0x334E, .replace [0x30E4, 0x30FC, 0x30C9]), (0x334F, 0x334F, .replace [0x30E4, 0x30FC, 0x30EB]),
  (0x3350, 0x3350, .replace [0x30E6, 0x30A2, 0x30F3]), (0x3351, 0x3351, .replace [0x30EA, 0x30C3, 0x30C8, 0x30EB]), (0x3352, 0x3352, .replace [0x30EA, 0x30E9]),
  (0x3353, 0x3353, .replace [0x30EB, 0x30D4, 0x30FC]), (0x3354, 0x3354, .replace [0x30EB, 0x30FC, 0x30D6, 0x30EB]), (0x3355, 0x3355, .replace [0x30EC, 0x30E0]),
  (0x3356, 0x3356, .replace [0x30EC, 0x30F3, 0x30C8, 0x30B2, 0x30F3]), (0x3357, 0x3357, .replace [0x30EF, 0x30C3, 0x30C8]), (0x3358, 0x3358, .replace [0x30, 0x70B9]),
  (0x3359, 0x3359, .replace [0x31, 0x70B9]), (0x335A, 0x335A, .replace [0x32, 0x70B9]), (0x335B, 0x335B, .replace [0x33, 0x70B9]),
  (0x335C, 0x335C, .replace [0x34, 0x70B9]), (0x335D, 0x335D, .replace [0x35, 0x70B9]), (0x335E, 0x335E, .replace [0x36, 0x70B9])]

def idnaRulesSecond : Array (Nat × Nat × IdnaRule) := #[
  (0x335F, 0x335F, .replace [0x37, 0x70B9]), (0x3360, 0x3360, .replace [0x38, 0x70B9]), (0x3361, 0x3361, .replace [0x39, 0x70B9]),
  (0x3362, 0x3362, .replace [0x31, 0x30, 0x70B9]), (0x3363, 0x3363, .replace [0x31, 0x31, 0x70B9]), (0x3364, 0x3364, .replace [0x31, 0x32, 0x70B9]),
  (0x3365, 0x3365, .replace [0x31, 0x33, 0x70B9]), (0x3366, 0x3366, .replace [0x31, 0x34, 0x70B9]), (0x3367, 0x3367, .replace [0x31, 0x35, 0x70B9]),
  (0x3368, 0x3368, .replace [0x31, 0x36, 0x70B9]), (0x3369, 0x3369, .replace [0x31, 0x37, 0x70B9]), (0x336A, 0x336A, .replace [0x31, 0x38, 0x70B9]),
  (0x336B, 0x336B, .replace [0x31, 0x39, 0x70B9]), (0x336C, 0x336C, .replace [0x32, 0x30, 0x70B9]), (0x336D, 0x336D, .replace [0x32, 0x31, 0x70B9]),
  (0x336E, 0x336E, .replace [0x32, 0x32, 0x70B9]), (0x336F, 0x336F, .replace [0x32, 0x33, 0x70B9]), (0x3370, 0x3370, .replace [0x32, 0x34, 0x70B9]),
  (0x3371, 0x3371, .replace [0x68, 0x70, 0x61]), (0x3372, 0x3372, .replace [0x64, 0x61]), (0x3373, 0x3373, .replace [0x61, 0x75]),
  (0x3374, 0x3374, .replace [0x62, 0x61, 0x72]), (0x3375, 0x3375, .replace [0x6F, 0x76]), (0x3376, 0x3376, .replace [0x70, 0x63]),
  (0x3377, 0x3377, .replace [0x64, 0x6D]), (0x3378, 0x3378, .replace [0x64, 0x6D, 0x32]), (0x3379, 0x3379, .replace [0x64, 0x6D, 0x33]),
  (0x337A, 0x337A, .replace [0x69, 0x75]), (0x337B, 0x337B, .replace [0x5E73, 0x6210]), (0x337C, 0x337C, .replace [0x662D, 0x548C]),
  (0x337D, 0x337D, .replace [0x5927, 0x6B63]), (0x337E, 0x337E, .replace [0x660E, 0x6CBB]), (0x337F, 0x337F, .replace [0x682A, 0x5F0F, 0x4F1A, 0x793E]),
  (0x3380, 0x3380, .replace [0x70, 0x61]), (0x3381, 0x3381, .replace [0x6E, 0x61]), (0x3382, 0x3382, .replace [0x3BC, 0x61]),
  (0x3383, 0x3383, .replace [0x6D, 0x61]), (0x3384, 0x3384, .replace [0x6B, 0x61]), (0x3385, 0x3385, .replace [0x6B, 0x62]),
  (0x3386, 0x3386, .replace [0x6D, 0x62]), (0x3387, 0x3387, .replace [0x67, 0x62]), (0x3388, 0x3388, .replace [0x63, 0x61, 0x6C]),
  (0x3389, 0x3389, .replace [0x6B, 0x63, 0x61, 0x6C]), (0x338A, 0x338A, .replace [0x70, 0x66]), (0x338B, 0x338B, .replace [0x6E, 0x66]),
  (0x338C, 0x338C, .replace [0x3BC, 0x66]), (0x338D, 0x338D, .replace [0x3BC, 0x67]), (0x338E, 0x338E, .replace [0x6D, 0x67]),
  (0x338F, 0x338F, .replace [0x6B, 0x67]), (0x3390, 0x3390, .replace [0x68, 0x7A]), (0x3391, 0x3391, .replace [0x6B, 0x68, 0x7A]),
  (0x3392, 0x3392, .replace [0x6D, 0x68, 0x7A]), (0x3393, 0x3393, .replace [0x67, 0x68, 0x7A]), (0x3394, 0x3394, .replace [0x74, 0x68, 0x7A]),
  (0x3395, 0x3395, .replace [0x3BC, 0x6C]), (0x3396, 0x3396, .replace [0x6D, 0x6C]), (0x3397, 0x3397, .replace [0x64, 0x6C]),
  (0x3398, 0x3398, .replace [0x6B, 0x6C]), (0x3399, 0x3399, .replace [0x66, 0x6D]), (0x339A, 0x339A, .replace [0x6E, 0x6D]),
  (0x339B, 0x339B, .replace [0x3BC, 0x6D]), (0x339C, 0x339C, .replace [0x6D, 0x6D]), (0x339D, 0x339D, .replace [0x63, 0x6D]),
  (0x339E, 0x339E, .replace [0x6B, 0x6D]), (0x339F, 0x339F, .replace [0x6D, 0x6D, 0x32]), (0x33A0, 0x33A0, .replace [0x63, 0x6D, 0x32]),
  (0x33A1, 0x33A1, .replace [0x6D, 0x32]), (0x33A2, 0x33A2, .replace [0x6B, 0x6D, 0x32]), (0x33A3, 0x33A3, .replace [0x6D, 0x6D, 0x33]),
  (0x33A4, 0x33A4, .replace [0x63, 0x6D, 0x33]), (0x33A5, 0x33A5, .replace [0x6D, 0x33]), (0x33A6, 0x33A6, .replace [0x6B, 0x6D, 0x33]),
  (0x33A7, 0x33A7, .replace [0x6D, 0x2215, 0x73]), (0x33A8, 0x33A8, .replace [0x6D, 0x2215, 0x73, 0x32]), (0x33A9, 0x33A9, .replace [0x70, 0x61]),
  (0x33AA, 0x33AA, .replace [0x6B, 0x70, 0x61]), (0x33AB, 0x33AB, .replace [0x6D, 0x70, 0x61]), (0x33AC, 0x33AC, .replace [0x67, 0x70, 0x61]),
  (0x33AD, 0x33AD, .replace [0x72, 0x61, 0x64]), (0x33AE, 0x33AE, .replace [0x72, 0x61, 0x64, 0x2215, 0x73]), (0x33AF, 0x33AF, .replace [0x72, 0x61, 0x64, 0x2215, 0x73, 0x32]),
  (0x33B0, 0x33B0, .replace [0x70, 0x73]), (0x33B1, 0x33B1, .replace [0x6E, 0x73]), (0x33B2, 0x33B2, .replace [0x3BC, 0x73]),
  (0x33B3, 0x33B3, .replace [0x6D, 0x73]), (0x33B4, 0x33B4, .replace [0x70, 0x76]), (0x33B5, 0x33B5, .replace [0x6E, 0x76]),
  (0x33B6, 0x33B6, .replace [0x3BC, 0x76]), (0x33B7, 0x33B7, .replace [0x6D, 0x76]), (0x33B8, 0x33B8, .replace [0x6B, 0x76]),
  (0x33B9, 0x33B9, .replace [0x6D, 0x76]), (0x33BA, 0x33BA, .replace [0x70, 0x77]), (0x33BB, 0x33BB, .replace [0x6E, 0x77]),
  (0x33BC, 0x33BC, .replace [0x3BC, 0x77]), (0x33BD, 0x33BD, .replace [0x6D, 0x77]), (0x33BE, 0x33BE, .replace [0x6B, 0x77]),
  (0x33BF, 0x33BF, .replace [0x6D, 0x77]), (0x33C0, 0x33C0, .replace [0x6B, 0x3C9]), (0x33C1, 0x33C1, .replace [0x6D, 0x3C9]),
  (0x33C2, 0x33C2, .disallowed), (0x33C3, 0x33C3, .replace [0x62, 0x71]), (0x33C4, 0x33C4, .replace [0x63, 0x63]),
  (0x33C5, 0x33C5, .replace [0x63, 0x64]), (0x33C6, 0x33C6, .replace [0x63, 0x2215, 0x6B, 0x67]), (0x33C7, 0x33C7, .disallowed),
  (0x33C8, 0x33C8, .replace [0x64, 0x62]), (0x33C9, 0x33C9, .replace [0x67, 0x79]), (0x33CA, 0x33CA, .replace [0x68, 0x61]),
  (0x33CB, 0x33CB, .replace [0x68, 0x70]), (0x33CC, 0x33CC, .replace [0x69, 0x6E]), (0x33CD, 0x33CD, .replace [0x6B, 0x6B]),
  (0x33CE, 0x33CE, .replace [0x6B, 0x6D]), (0x33CF, 0x33CF, .replace [0x6B, 0x74]), (0x33D0, 0x33D0, .replace [0x6C, 0x6D]),
  (0x33D1, 0x33D1, .replace [0x6C, 0x6E]), (0x33D2, 0x33D2, .replace [0x6C, 0x6F, 0x67]), (0x33D3, 0x33D3, .replace [0x6C, 0x78]),
  (0x33D4, 0x33D4, .replace [0x6D, 0x62]), (0x33D5, 0x33D5, .replace [0x6D, 0x69, 0x6C]), (0x33D6, 0x33D6, .replace [0x6D, 0x6F, 0x6C]),
  (0x33D7, 0x33D7, .replace [0x70, 0x68]), (0x33D8, 0x33D8, .disallowed), (0x33D9, 0x33D9, .replace [0x70, 0x70, 0x6D]),
  (0x33DA, 0x33DA, .replace [0x70, 0x72]), (0x33DB, 0x33DB, .replace [0x73, 0x72]), (0x33DC, 0x33DC, .replace [0x73, 0x76]),
  (0x33DD, 0x33DD, .replace [0x77, 0x62]), (0x33DE, 0x33DE, .replace [0x76, 0x2215, 0x6D]), (0x33DF, 0x33DF, .replace [0x61, 0x2215, 0x6D]),
  (0x33E0, 0x33E0, .replace [0x31, 0x65E5]), (0x33E1, 0x33E1, .replace [0x32, 0x65E5]), (0x33E2, 0x33E2, .replace [0x33, 0x65E5]),
  (0x33E3, 0x33E3, .replace [0x34, 0x65E5]), (0x33E4, 0x33E4, .replace [0x35, 0x65E5]), (0x33E5, 0x33E5, .replace [0x36, 0x65E5]),
  (0x33E6, 0x33E6, .replace [0x37, 0x65E5]), (0x33E7, 0x33E7, .replace [0x38, 0x65E5]), (0x33E8, 0x33E8, .replace [0x39, 0x65E5]),
  (0x33E9, 0x33E9, .replace [0x31, 0x30, 0x65E5]), (0x33EA, 0x33EA, .replace [0x31, 0x31, 0x65E5]), (0x33EB, 0x33EB, .replace [0x31, 0x32, 0x65E5]),
  (0x33EC, 0x33EC, .replace [0x31, 0x33, 0x65E5]), (0x33ED, 0x33ED, .replace [0x31, 0x34, 0x65E5]), (0x33EE, 0x33EE, .replace [0x31, 0x35, 0x65E5]),
  (0x33EF, 0x33EF, .replace [0x31, 0x36, 0x65E5]), (0x33F0, 0x33F0, .replace [0x31, 0x37, 0x65E5]), (0x33F1, 0x33F1, .replace [0x31, 0x38, 0x65E5]),
  (0x33F2, 0x33F2, .replace [0x31, 0x39, 0x65E5]), (0x33F3, 0x33F3, .replace [0x32, 0x30, 0x65E5]), (0x33F4, 0x33F4, .replace [0x32, 0x31, 0x65E5]),
  (0x33F5, 0x33F5, .replace [0x32, 0x32, 0x65E5]), (0x33F6, 0x33F6, .replace [0x32, 0x33, 0x65E5]), (0x33F7, 0x33F7, .replace [0x32, 0x34, 0x65E5]),
  (0x33F8, 0x33F8, .replace [0x32, 0x35, 0x65E5]), (0x33F9, 0x33F9, .replace [0x32, 0x36, 0x65E5]), (0x33FA, 0x33FA, .replace [0x32, 0x37, 0x65E5]),
  (0x33FB, 0x33FB, .replace [0x32, 0x38, 0x65E5]), (0x33FC, 0x33FC, .replace [0x32, 0x39, 0x65E5]), (0x33FD, 0x33FD, .replace [0x33, 0x30, 0x65E5]),
  (0x33FE, 0x33FE, .replace [0x33, 0x31, 0x65E5]), (0x33FF, 0x33FF, .replace [0x67, 0x61, 0x6C]), (0xA48D, 0xA48F, .disallowed),
  (0xA4C7, 0xA4CF, .disallowed), (0xA62C, 0xA63F, .disallowed), (0xA640, 0xA66C, .shift 2 (1)),
  (0xA680, 0xA69A, .shift 2 (1)), (0xA69C, 0xA69C, .shift 1 (-41554)), (0xA69D, 0xA69D, .shift 1 (-41553)),
  (0xA6F8, 0xA6FF, .disallowed), (0xA722, 0xA72E, .shift 2 (1)), (0xA732, 0xA76E, .shift 2 (1)),
  (0xA770, 0xA770, .shift 1 (-1)), (0xA779, 0xA77B, .shift 2 (1)), (0xA77D, 0xA77D, .shift 1 (-35332)),
  (0xA77E, 0xA786, .shift 2 (1)), (0xA78B, 0xA78B, .shift 1 (1)), (0xA78D, 0xA78D, .shift 1 (-42280)),
  (0xA790, 0xA792, .shift 2 (1)), (0xA796, 0xA7A8, .shift 2 (1)), (0xA7AA, 0xA7AA, .shift 1 (-42308)),
  (0xA7AB, 0xA7AB, .shift 1 (-42319)), (0xA7AC, 0xA7AC, .shift 1 (-42315)), (0xA7AD, 0xA7AD, .shift 1 (-42305)),
  (0xA7AE, 0xA7AE, .shift 1 (-42308)), (0xA7B0, 0xA7B0, .shift 1 (-42258)), (0xA7B1, 0xA7B1, .shift 1 (-42282)),
  (0xA7B2, 0xA7B2, .shift 1 (-42261)), (0xA7B3, 0xA7B3, .shift 1 (928)), (0xA7B4, 0xA7C2, .shift 2 (1)),
  (0xA7C4, 0xA7C4, .shift 1 (-48)), (0xA7C5, 0xA7C5, .shift 1 (-42307)), (0xA7C6, 0xA7C6, .shift 1 (-35384)),
  (0xA7C7, 0xA7C9, .shift 2 (1)), (0xA7CB, 0xA7CB, .shift 1 (-42343)), (0xA7CC, 0xA7DA, .shift 2 (1)),
  (0xA7DC, 0xA7DC, .shift 1 (-42561)), (0xA7DD, 0xA7F0, .disallowed), (0xA7F1, 0xA7F1, .shift 1 (-42878)),
  (0xA7F2, 0xA7F2, .shift 1 (-42895)), (0xA7F3, 0xA7F3, .shift 1 (-42893)), (0xA7F4, 0xA7F4, .shift 1 (-42883)),
  (0xA7F5, 0xA7F5, .shift 1 (1)), (0xA7F8, 0xA7F8, .shift 1 (-42705)), (0xA7F9, 0xA7F9, .shift 1 (-42662)),
  (0xA82D, 0xA82F, .disallowed), (0xA83A, 0xA83F, .disallowed), (0xA878, 0xA87F, .disallowed),
  (0xA8C6, 0xA8CD, .disallowed), (0xA8DA, 0xA8DF, .disallowed), (0xA954, 0xA95E, .disallowed),
  (0xA97D, 0xA97F, .disallowed), (0xA9CE, 0xA9CE, .disallowed), (0xA9DA, 0xA9DD, .disallowed),
  (0xA9FF, 0xA9FF, .disallowed), (0xAA37, 0xAA3F, .disallowed), (0xAA4E, 0xAA4F, .disallowed),
  (0xAA5A, 0xAA5B, .disallowed), (0xAAC3, 0xAADA, .disallowed), (0xAAF7, 0xAB00, .disallowed),
  (0xAB07, 0xAB08, .disallowed), (0xAB0F, 0xAB10, .disallowed), (0xAB17, 0xAB1F, .disallowed),
  (0xAB27, 0xAB27, .disallowed), (0xAB2F, 0xAB2F, .disallowed), (0xAB5C, 0xAB5C, .shift 1 (-1077)),
  (0xAB5D, 0xAB5D, .shift 1 (-38)), (0xAB5E, 0xAB5E, .shift 1 (-43251)), (0xAB5F, 0xAB5F, .shift 1 (-13)),
  (0xAB69, 0xAB69, .shift 1 (-43228)), (0xAB6C, 0xAB6F, .disallowed), (0xAB70, 0xABBF, .shift 1 (-38864)),
  (0xABEE, 0xABEF, .disallowed), (0xABFA, 0xABFF, .disallowed), (0xD7A4, 0xD7AF, .disallowed),
  (0xD7C7, 0xD7CA, .disallowed), (0xD7FC, 0xF8FF, .disallowed), (0xF900, 0xF900, .shift 1 (-27832)),
  (0xF901, 0xF901, .shift 1 (-37389)), (0xF902, 0xF902, .shift 1 (-27192)), (0xF903, 0xF903, .shift 1 (-27707)),
  (0xF904, 0xF904, .shift 1 (-35379)), (0xF905, 0xF905, .shift 1 (-43731)), (0xF906, 0xF906, .shift 1 (-42273)),
  (0xF907, 0xF908, .replace [0x9F9C]), (0xF909, 0xF909, .shift 1 (-40888)), (0xF90A, 0xF90A, .shift 1 (-26425)),
  (0xF90B, 0xF90B, .shift 1 (-41860)), (0xF90C, 0xF90C, .shift 1 (-40900)), (0xF90D, 0xF90D, .shift 1 (-38679)),
  (0xF90E, 0xF90E, .shift 1 (-33445)), (0xF90F, 0xF90F, .shift 1 (-31114)), (0xF910, 0xF910, .shift 1 (-29393)),
  (0xF911, 0xF911, .shift 1 (-29015)), (0xF912, 0xF912, .shift 1 (-28698)), (0xF913, 0xF913, .shift 1 (-26756)),
  (0xF914, 0xF914, .shift 1 (-36626)), (0xF915, 0xF915, .shift 1 (-35834)), (0xF916, 0xF916, .shift 1 (-34877)),
  (0xF917, 0xF917, .shift 1 (-34105)), (0xF918, 0xF918, .shift 1 (-29915)), (0xF919, 0xF919, .shift 1 (-26543)),
  (0xF91A, 0xF91A, .shift 1 (-24361)), (0xF91B, 0xF91B, .shift 1 (-43673)), (0xF91C, 0xF91C, .shift 1 (-42407)),
  (0xF91D, 0xF91D, .shift 1 (-36377)), (0xF91E, 0xF91E, .shift 1 (-34563)), (0xF91F, 0xF91F, .shift 1 (-29426)),
  (0xF920, 0xF920, .shift 1 (-23298)), (0xF921, 0xF921, .shift 1 (-39889)), (0xF922, 0xF922, .shift 1 (-35127)),
  (0xF923, 0xF923, .shift 1 (-29526)), (0xF924, 0xF924, .shift 1 (-28608)), (0xF925, 0xF925, .shift 1 (-38492)),
  (0xF926, 0xF926, .shift 1 (-30542)), (0xF927, 0xF927, .shift 1 (-28936)), (0xF928, 0xF928, .shift 1 (-39518)),
  (0xF929, 0xF929, .shift 1 (-37394)), (0xF92A, 0xF92A, .shift 1 (-35776)), (0xF92B, 0xF92B, .shift 1 (-34351)),
  (0xF92C, 0xF92C, .shift 1 (-26718)), (0xF92D, 0xF92D, .shift 1 (-43431)), (0xF92E, 0xF92E, .shift 1 (-42871)),
  (0xF92F, 0xF92F, .shift 1 (-42577)), (0xF930, 0xF930, .shift 1 (-37996)), (0xF931, 0xF931, .shift 1 (-36446)),
  (0xF932, 0xF932, .shift 1 (-34594)), (0xF933, 0xF933, .shift 1 (-33356)), (0xF934, 0xF934, .shift 1 (-31027)),
  (0xF935, 0xF935, .shift 1 (-29487)), (0xF936, 0xF936, .shift 1 (-29402)), (0xF937, 0xF937, .shift 1 (-27464)),
  (0xF938, 0xF938, .shift 1 (-25094)), (0xF939, 0xF939, .shift 1 (-24010)), (0xF93A, 0xF93A, .shift 1 (-23360)),
  (0xF93B, 0xF93B, .shift 1 (-32943)), (0xF93C, 0xF93C, .shift 1 (-32701)), (0xF93D, 0xF93D, .shift 1 (-31645)),
  (0xF93E, 0xF93E, .shift 1 (-30069)), (0xF93F, 0xF93F, .shift 1 (-26171)), (0xF940, 0xF940, .shift 1 (-23233)),
  (0xF941, 0xF941, .shift 1 (-28267)), (0xF942, 0xF942, .shift 1 (-41059)), (0xF943, 0xF943, .shift 1 (-39487)),
  (0xF944, 0xF944, .shift 1 (-31972)), (0xF945, 0xF945, .shift 1 (-30919)), (0xF946, 0xF946, .shift 1 (-34532)),
  (0xF947, 0xF947, .shift 1 (-32893)), (0xF948, 0xF948, .shift 1 (-27782)), (0xF949, 0xF949, .shift 1 (-25170)),
  (0xF94A, 0xF94A, .shift 1 (-41074)), (0xF94B, 0xF94B, .shift 1 (-40169)), (0xF94C, 0xF94C, .shift 1 (-36665)),
  (0xF94D, 0xF94D, .shift 1 (-35699)), (0xF94E, 0xF94E, .shift 1 (-35391)), (0xF94F, 0xF94F, .shift 1 (-31776)),
  (0xF950, 0xF950, .shift 1 (-31513)), (0xF951, 0xF951, .shift 1 (-25350)), (0xF952, 0xF952, .shift 1 (-42624)),
  (0xF953, 0xF953, .shift 1 (-30920)), (0xF954, 0xF954, .shift 1 (-42872)), (0xF955, 0xF955, .shift 1 (-42889)),
  (0xF956, 0xF956, .shift 1 (-32570)), (0xF957, 0xF957, .shift 1 (-31641)), (0xF958, 0xF958, .shift 1 (-30055)),
  (0xF959, 0xF959, .shift 1 (-25316)), (0xF95A, 0xF95A, .shift 1 (-28122)), (0xF95B, 0xF95B, .shift 1 (-38540)),
  (0xF95C, 0xF95C, .shift 1 (-36698)), (0xF95D, 0xF95D, .shift 1 (-28255)), (0xF95E, 0xF95E, .shift 1 (-43813)),
  (0xF95F, 0xF95F, .shift 1 (-40312)), (0xF960, 0xF960, .shift 1 (-39246)), (0xF961, 0xF961, .shift 1 (-34266)),
  (0xF962, 0xF962, .shift 1 (-33778)), (0xF963, 0xF963, .shift 1 (-42572)), (0xF964, 0xF964, .shift 1 (-32873)),
  (0xF965, 0xF965, .shift 1 (-43430)), (0xF966, 0xF966, .shift 1 (-39357)), (0xF967, 0xF967, .shift 1 (-43866)),
  (0xF968, 0xF968, .shift 1 (-35996)), (0xF969, 0xF969, .shift 1 (-37873)), (0xF96A, 0xF96A, .shift 1 (-31816)),
  (0xF96B, 0xF96B, .shift 1 (-42408)), (0xF96C, 0xF96C, .shift 1 (-41230)), (0xF96D, 0xF96D, .shift 1 (-33388)),
  (0xF96E, 0xF96E, .shift 1 (-29989)), (0xF96F, 0xF96F, .shift 1 (-28357)), (0xF970, 0xF970, .shift 1 (-36278)),
  (0xF971, 0xF971, .shift 1 (-27073)), (0xF972, 0xF972, .shift 1 (-36074)), (0xF973, 0xF973, .shift 1 (-38517)),
  (0xF974, 0xF974, .shift 1 (-30351)), (0xF975, 0xF975, .shift 1 (-38357)), (0xF976, 0xF976, .shift 1 (-33809)),
  (0xF977, 0xF977, .shift 1 (-43721)), (0xF978, 0xF978, .shift 1 (-43023)), (0xF979, 0xF979, .shift 1 (-42928)),
  (0xF97A, 0xF97A, .shift 1 (-37113)), (0xF97B, 0xF97B, .shift 1 (-31892)), (0xF97C, 0xF97C, .shift 1 (-30477)),
  (0xF97D, 0xF97D, .shift 1 (-28331)), (0xF97E, 0xF97E, .shift 1 (-26543)), (0xF97F, 0xF97F, .shift 1 (-42634)),
  (0xF980, 0xF980, .shift 1 (-42302)), (0xF981, 0xF981, .shift 1 (-40974)), (0xF982, 0xF982, .shift 1 (-39574)),
  (0xF983, 0xF983, .shift 1 (-37822)), (0xF984, 0xF984, .shift 1 (-35206)), (0xF985, 0xF985, .shift 1 (-32859)),
  (0xF986, 0xF986, .shift 1 (-25561)), (0xF987, 0xF987, .shift 1 (-24349)), (0xF988, 0xF988, .shift 1 (-23281)),
  (0xF989, 0xF989, .shift 1 (-23227)), (0xF98A, 0xF98A, .shift 1 (-42735)), (0xF98B, 0xF98B, .shift 1 (-37573)),
  (0xF98C, 0xF98C, .shift 1 (-36373)), (0xF98D, 0xF98D, .shift 1 (-27179)), (0xF98E, 0xF98E, .shift 1 (-39706)),
  (0xF98F, 0xF98F, .shift 1 (-38911)), (0xF990, 0xF990, .shift 1 (-38800)), (0xF991, 0xF991, .shift 1 (-38135)),
  (0xF992, 0xF992, .shift 1 (-35439)), (0xF993, 0xF993, .shift 1 (-34890)), (0xF994, 0xF994, .shift 1 (-34059)),
  (0xF995, 0xF995, .shift 1 (-32715)), (0xF996, 0xF996, .shift 1 (-31650)), (0xF997, 0xF997, .shift 1 (-31016)),
  (0xF998, 0xF998, .shift 1 (-27250)), (0xF999, 0xF999, .shift 1 (-29867)), (0xF99A, 0xF99A, .shift 1 (-26999)),
  (0xF99B, 0xF99B, .shift 1 (-26193)), (0xF99C, 0xF99C, .shift 1 (-42885)), (0xF99D, 0xF99D, .shift 1 (-42746)),
  (0xF99E, 0xF99E, .shift 1 (-42209)), (0xF99F, 0xF99F, .shift 1 (-35031)), (0xF9A0, 0xF9A0, .shift 1 (-28894)),
  (0xF9A1, 0xF9A1, .shift 1 (-28407)), (0xF9A2, 0xF9A2, .shift 1 (-39641)), (0xF9A3, 0xF9A3, .shift 1 (-39342)),
  (0xF9A4, 0xF9A4, .shift 1 (-38441)), (0xF9A5, 0xF9A5, .shift 1 (-36343)), (0xF9A6, 0xF9A6, .shift 1 (-32104)),
  (0xF9A7, 0xF9A7, .shift 1 (-34354)), (0xF9A8, 0xF9A8, .shift 1 (-43716)), (0xF9A9, 0xF9A9, .shift 1 (-41648)),
  (0xF9AA, 0xF9AA, .shift 1 (-40387)), (0xF9AB, 0xF9AB, .shift 1 (-39921)), (0xF9AC, 0xF9AC, .shift 1 (-39312)),
  (0xF9AD, 0xF9AD, .shift 1 (-34299)), (0xF9AE, 0xF9AE, .shift 1 (-34117)), (0xF9AF, 0xF9AF, .shift 1 (-31253)),
  (0xF9B0, 0xF9B0, .shift 1 (-31082)), (0xF9B1, 0xF9B1, .shift 1 (-26493)), (0xF9B2, 0xF9B2, .shift 1 (-25276)),
  (0xF9B3, 0xF9B3, .shift 1 (-25195)), (0xF9B4, 0xF9B4, .shift 1 (-24988)), (0xF9B5, 0xF9B5, .shift 1 (-43562)),
  (0xF9B6, 0xF9B6, .shift 1 (-32776)), (0xF9B7, 0xF9B7, .shift 1 (-26627)), (0xF9B8, 0xF9B8, .shift 1 (-25344)),
  (0xF9B9, 0xF9B9, .shift 1 (-39128)), (0xF9BA, 0xF9BA, .shift 1 (-43828)), (0xF9BB, 0xF9BB, .shift 1 (-43233)),
  (0xF9BC, 0xF9BC, .shift 1 (-40398)), (0xF9BD, 0xF9BD, .shift 1 (-40318)), (0xF9BE, 0xF9BE, .shift 1 (-37925)),
  (0xF9BF, 0xF9BF, .shift 1 (-36797)), (0xF9C0, 0xF9C0, .shift 1 (-34802)), (0xF9C1, 0xF9C1, .shift 1 (-33663)),
  (0xF9C2, 0xF9C2, .shift 1 (-29894)), (0xF9C3, 0xF9C3, .shift 1 (-26951)), (0xF9C4, 0xF9C4, .shift 1 (-23095)),
  (0xF9C5, 0xF9C5, .shift 1 (-37693)), (0xF9C6, 0xF9C6, .shift 1 (-25496)), (0xF9C7, 0xF9C7, .shift 1 (-42814)),
  (0xF9C8, 0xF9C8, .shift 1 (-37453)), (0xF9C9, 0xF9C9, .shift 1 (-37334)), (0xF9CA, 0xF9CA, .shift 1 (-35977)),
  (0xF9CB, 0xF9CB, .shift 1 (-35631)), (0xF9CC, 0xF9CC, .shift 1 (-34243)), (0xF9CD, 0xF9CD, .shift 1 (-33908)),
  (0xF9CE, 0xF9CE, .shift 1 (-33123)), (0xF9CF, 0xF9CF, .shift 1 (-31935)), (0xF9D0, 0xF9D0, .shift 1 (-24946)),
  (0xF9D1, 0xF9D1, .shift 1 (-43108)), (0xF9D2, 0xF9D2, .shift 1 (-38820)), (0xF9D3, 0xF9D3, .shift 1 (-25435)),
  (0xF9D4, 0xF9D4, .shift 1 (-43433)), (0xF9D5, 0xF9D5, .shift 1 (-40124)), (0xF9D6, 0xF9D6, .shift 1 (-35820)),
  (0xF9D7, 0xF9D7, .shift 1 (-27309)), (0xF9D8, 0xF9D8, .shift 1 (-39501)), (0xF9D9, 0xF9D9, .shift 1 (-39061)),
  (0xF9DA, 0xF9DA, .shift 1 (-37315)), (0xF9DB, 0xF9DB, .shift 1 (-34388)), (0xF9DC, 0xF9DC, .shift 1 (-25430)),
  (0xF9DD, 0xF9DD, .shift 1 (-42932)), (0xF9DE, 0xF9DE, .shift 1 (-42447)), (0xF9DF, 0xF9DF, .shift 1 (-40314)),
  (0xF9E0, 0xF9E0, .shift 1 (-37837)), (0xF9E1, 0xF9E1, .shift 1 (-37523)), (0xF9E2, 0xF9E2, .shift 1 (-37178)),
  (0xF9E3, 0xF9E3, .shift 1 (-36094)), (0xF9E4, 0xF9E4, .shift 1 (-34270)), (0xF9E5, 0xF9E5, .shift 1 (-33795)),
  (0xF9E6, 0xF9E6, .shift 1 (-31341)), (0xF9E7, 0xF9E7, .shift 1 (-28952)), (0xF9E8, 0xF9E8, .shift 1 (-28935)),
  (0xF9E9, 0xF9E9, .shift 1 (-26653)), (0xF9EA, 0xF9EA, .shift 1 (-25352)), (0xF9EB, 0xF9EB, .shift 1 (-42668)),
  (0xF9EC, 0xF9EC, .shift 1 (-35634)), (0xF9ED, 0xF9ED, .shift 1 (-42448)), (0xF9EE, 0xF9EE, .shift 1 (-34846)),
  (0xF9EF, 0xF9EF, .shift 1 (-34135)), (0xF9F0, 0xF9F0, .shift 1 (-29686)), (0xF9F1, 0xF9F1, .shift 1 (-25422)),
  (0xF9F2, 0xF9F2, .shift 1 (-23963)), (0xF9F3, 0xF9F3, .shift 1 (-23380)), (0xF9F4, 0xF9F4, .shift 1 (-37469)),
  (0xF9F5, 0xF9F5, .shift 1 (-35882)), (0xF9F6, 0xF9F6, .shift 1 (-30734)), (0xF9F7, 0xF9F7, .shift 1 (-32556)),
  (0xF9F8, 0xF9F8, .shift 1 (-32472)), (0xF9F9, 0xF9F9, .shift 1 (-32103)), (0xF9FA, 0xF9FA, .shift 1 (-34618)),
  (0xF9FB, 0xF9FB, .shift 1 (-35170)), (0xF9FC, 0xF9FC, .shift 1 (-28324)), (0xF9FD, 0xF9FD, .shift 1 (-43837)),
  (0xF9FE, 0xF9FE, .shift 1 (-30408)), (0xF9FF, 0xF9FF, .shift 1 (-42949)), (0xFA00, 0xFA00, .shift 1 (-43001)),
  (0xFA01, 0xFA01, .shift 1 (-39771)), (0xFA02, 0xFA02, .shift 1 (-38703)), (0xFA03, 0xFA03, .shift 1 (-32045)),
  (0xFA04, 0xFA04, .shift 1 (-40575)), (0xFA05, 0xFA05, .shift 1 (-36071)), (0xFA06, 0xFA06, .shift 1 (-37714)),
  (0xFA07, 0xFA07, .shift 1 (-27340)), (0xFA08, 0xFA08, .shift 1 (-29116)), (0xFA09, 0xFA09, .shift 1 (-25532)),
  (0xFA0A, 0xFA0A, .shift 1 (-28799)), (0xFA0B, 0xFA0B, .shift 1 (-39736)), (0xFA0C, 0xFA0C, .shift 1 (-43212)),
  (0xFA0D, 0xFA0D, .shift 1 (-42061)), (0xFA10, 0xFA10, .shift 1 (-41398)), (0xFA12, 0xFA12, .shift 1 (-37790)),
  (0xFA15, 0xFA15, .shift 1 (-43063)), (0xFA16, 0xFA16, .shift 1 (-34540)), (0xFA17, 0xFA17, .shift 1 (-33613)),
  (0xFA18, 0xFA18, .shift 1 (-32988)), (0xFA19, 0xFA19, .shift 1 (-32955)), (0xFA1A, 0xFA1A, .shift 1 (-32949)),
  (0xFA1B, 0xFA1B, .shift 1 (-32908)), (0xFA1C, 0xFA1C, .shift 1 (-25286)), (0xFA1D, 0xFA1D, .shift 1 (-32095)),
  (0xFA1E, 0xFA1E, .shift 1 (-31329)), (0xFA20, 0xFA20, .shift 1 (-29710)), (0xFA22, 0xFA22, .shift 1 (-28458)),
  (0xFA25, 0xFA25, .shift 1 (-27117)), (0xFA26, 0xFA26, .shift 1 (-26921)), (0xFA2A, 0xFA2A, .shift 1 (-24891)),
  (0xFA2B, 0xFA2B, .shift 1 (-24879)), (0xFA2C, 0xFA2C, .shift 1 (-24836)), (0xFA2D, 0xFA2D, .shift 1 (-23673)),
  (0xFA2E, 0xFA2E, .shift 1 (-26960)), (0xFA2F, 0xFA2F, .shift 1 (-25464)), (0xFA30, 0xFA30, .shift 1 (-43650)),
  (0xFA31, 0xFA31, .shift 1 (-43338)), (0xFA32, 0xFA32, .shift 1 (-43237)), (0xFA33, 0xFA33, .shift 1 (-42858)),
  (0xFA34, 0xFA34, .shift 1 (-42832)), (0xFA35, 0xFA35, .shift 1 (-42724)), (0xFA36, 0xFA36, .shift 1 (-42137)),
  (0xFA37, 0xFA37, .shift 1 (-42033)), (0xFA38, 0xFA38, .shift 1 (-41936)), (0xFA39, 0xFA39, .shift 1 (-41465)),
  (0xFA3A, 0xFA3A, .shift 1 (-41362)), (0xFA3B, 0xFA3B, .shift 1 (-40407)), (0xFA3C, 0xFA3C, .shift 1 (-40398)),
  (0xFA3D, 0xFA3D, .shift 1 (-39337)), (0xFA3E, 0xFA3E, .shift 1 (-39126)), (0xFA3F, 0xFA3F, .shift 1 (-39089)),
  (0xFA40, 0xFA40, .shift 1 (-38990)), (0xFA41, 0xFA41, .shift 1 (-38130)), (0xFA42, 0xFA42, .shift 1 (-37984)),
  (0xFA43, 0xFA43, .shift 1 (-37810)), (0xFA44, 0xFA44, .shift 1 (-37311)), (0xFA45, 0xFA45, .shift 1 (-36046)),
  (0xFA46, 0xFA46, .shift 1 (-35884)), (0xFA47, 0xFA47, .shift 1 (-35621)), (0xFA48, 0xFA48, .shift 1 (-35034)),
  (0xFA49, 0xFA49, .shift 1 (-34846)), (0xFA4A, 0xFA4A, .shift 1 (-34344)), (0xFA4B, 0xFA4B, .shift 1 (-33210)),
  (0xFA4C, 0xFA4C, .shift 1 (-33038)), (0xFA4D, 0xFA4D, .shift 1 (-33028)), (0xFA4E, 0xFA4E, .shift 1 (-33030)),
  (0xFA4F, 0xFA4F, .shift 1 (-33023)), (0xFA50, 0xFA50, .shift 1 (-33018)), (0xFA51, 0xFA51, .shift 1 (-33012)),
  (0xFA52, 0xFA53, .shift 1 (-32965)), (0xFA54, 0xFA54, .shift 1 (-32788)), (0xFA55, 0xFA55, .shift 1 (-32724)),
  (0xFA56, 0xFA56, .shift 1 (-32406)), (0xFA57, 0xFA57, .shift 1 (-31843)), (0xFA58, 0xFA58, .shift 1 (-31823)),
  (0xFA59, 0xFA59, .shift 1 (-31768)), (0xFA5A, 0xFA5A, .shift 1 (-31464)), (0xFA5B, 0xFA5B, .shift 1 (-31318)),
  (0xFA5C, 0xFA5C, .shift 1 (-30831)), (0xFA5D, 0xFA5E, .replace [0x8279]), (0xFA5F, 0xFA5F, .shift 1 (-30216)),
  (0xFA60, 0xFA60, .shift 1 (-29008)), (0xFA61, 0xFA61, .shift 1 (-28875)), (0xFA62, 0xFA62, .shift 1 (-28513)),
  (0xFA63, 0xFA63, .shift 1 (-28458)), (0xFA64, 0xFA64, .shift 1 (-28049)), (0xFA65, 0xFA65, .shift 1 (-27997)),
  (0xFA66, 0xFA66, .shift 1 (-27312)), (0xFA67, 0xFA67, .shift 1 (-27183)), (0xFA68, 0xFA68, .shift 1 (-25477)),
  (0xFA69, 0xFA69, .shift 1 (-25194)), (0xFA6A, 0xFA6A, .shift 1 (-25135)), (0xFA6B, 0xFA6B, .shift 1 (-39414)),
  (0xFA6C, 0xFA6C, .shift 1 (84098)), (0xFA6D, 0xFA6D, .shift 1 (-30805)), (0xFA6E, 0xFA6F, .disallowed),
  (0xFA70, 0xFA70, .shift 1 (-44106)), (0xFA71, 0xFA71, .shift 1 (-43196)), (0xFA72, 0xFA72, .shift 1 (-43274)),
  (0xFA73, 0xFA73, .shift 1 (-43763)), (0xFA74, 0xFA74, .shift 1 (-43311)), (0xFA75, 0xFA75, .shift 1 (-43253)),
  (0xFA76, 0xFA76, .shift 1 (-42927)), (0xFA77, 0xFA77, .shift 1 (-42877)), (0xFA78, 0xFA78, .shift 1 (-42203)),
  (0xFA79, 0xFA79, .shift 1 (-42276)), (0xFA7A, 0xFA7A, .shift 1 (-42209)), (0xFA7B, 0xFA7B, .shift 1 (-42137)),
  (0xFA7C, 0xFA7C, .shift 1 (-41506)), (0xFA7D, 0xFA7D, .shift 1 (-41418)), (0xFA7E, 0xFA7E, .shift 1 (-41274)),
  (0xFA7F, 0xFA7F, .shift 1 (-41259)), (0xFA80, 0xFA80, .shift 1 (-40990)), (0xFA81, 0xFA81, .shift 1 (-40793)),
  (0xFA82, 0xFA82, .shift 1 (-39856)), (0xFA83, 0xFA83, .shift 1 (-39850)), (0xFA84, 0xFA84, .shift 1 (-39707)),
  (0xFA85, 0xFA85, .shift 1 (-39640)), (0xFA86, 0xFA86, .shift 1 (-39342)), (0xFA87, 0xFA87, .shift 1 (-39225)),
  (0xFA88, 0xFA88, .shift 1 (-39296)), (0xFA89, 0xFA89, .shift 1 (-39163)), (0xFA8A, 0xFA8A, .shift 1 (-39210)),
  (0xFA8B, 0xFA8B, .shift 1 (-39065)), (0xFA8C, 0xFA8C, .shift 1 (-39000)), (0xFA8D, 0xFA8D, .shift 1 (-38601)),
  (0xFA8E, 0xFA8E, .shift 1 (-38514)), (0xFA8F, 0xFA8F, .shift 1 (-38461)), (0xFA90, 0xFA90, .shift 1 (-38202)),
  (0xFA91, 0xFA91, .shift 1 (-37917)), (0xFA92, 0xFA92, .shift 1 (-37755)), (0xFA93, 0xFA93, .shift 1 (-37752)),
  (0xFA94, 0xFA94, .shift 1 (-37694)), (0xFA95, 0xFA95, .shift 1 (-36636)), (0xFA96, 0xFA96, .shift 1 (-36572)),
  (0xFA97, 0xFA97, .shift 1 (-36182)), (0xFA98, 0xFA98, .shift 1 (-35773)), (0xFA99, 0xFA99, .shift 1 (-35790)),
  (0xFA9A, 0xFA9A, .shift 1 (-35704)), (0xFA9B, 0xFA9B, .shift 1 (-35453)), (0xFA9C, 0xFA9C, .shift 1 (-35118)),
  (0xFA9D, 0xFA9D, .shift 1 (-33526)), (0xFA9E, 0xFA9E, .shift 1 (-34921)), (0xFA9F, 0xFA9F, .shift 1 (-34800)),
  (0xFAA0, 0xFAA0, .shift 1 (-34678)), (0xFAA1, 0xFAA1, .shift 1 (-34352)), (0xFAA2, 0xFAA2, .shift 1 (-34204)),
  (0xFAA3, 0xFAA3, .shift 1 (-34152)), (0xFAA4, 0xFAA4, .shift 1 (-33927)), (0xFAA5, 0xFAA5, .shift 1 (-33926)),
  (0xFAA6, 0xFAA6, .shift 1 (-33756)), (0xFAA7, 0xFAA7, .shift 1 (-33740)), (0xFAA8, 0xFAA8, .shift 1 (-33716)),
  (0xFAA9, 0xFAA9, .shift 1 (-33631)), (0xFAAA, 0xFAAA, .shift 1 (-33642)), (0xFAAB, 0xFAAB, .shift 1 (-33247)),
  (0xFAAC, 0xFAAC, .shift 1 (-32763)), (0xFAAD, 0xFAAD, .shift 1 (-32493)), (0xFAAE, 0xFAAE, .shift 1 (-32307)),
  (0xFAAF, 0xFAAF, .shift 1 (-32084)), (0xFAB0, 0xFAB0, .shift 1 (-31932)), (0xFAB1, 0xFAB1, .shift 1 (-31603)),
  (0xFAB2, 0xFAB2, .shift 1 (-31405)), (0xFAB3, 0xFAB3, .shift 1 (-30561)), (0xFAB4, 0xFAB4, .shift 1 (-30405)),
  (0xFAB5, 0xFAB5, .shift 1 (-29500)), (0xFAB6, 0xFAB6, .shift 1 (-29045)), (0xFAB7, 0xFAB7, .shift 1 (-28977)),
  (0xFAB8, 0xFAB8, .shift 1 (-28962)), (0xFAB9, 0xFAB9, .shift 1 (-28666)), (0xFABA, 0xFABA, .shift 1 (-28610)),
  (0xFABB, 0xFABB, .shift 1 (-28656)), (0xFABC, 0xFABC, .shift 1 (-28603)), (0xFABD, 0xFABD, .shift 1 (-28607)),
  (0xFABE, 0xFABE, .shift 1 (-28625)), (0xFABF, 0xFABF, .shift 1 (-28550)), (0xFAC0, 0xFAC0, .shift 1 (-28470)),
  (0xFAC1, 0xFAC1, .shift 1 (-28089)), (0xFAC2, 0xFAC2, .shift 1 (-27530)), (0xFAC3, 0xFAC3, .shift 1 (-27217)),
  (0xFAC4, 0xFAC4, .shift 1 (-26923)), (0xFAC5, 0xFAC5, .shift 1 (-26703)), (0xFAC6, 0xFAC6, .shift 1 (-25674)),
  (0xFAC7, 0xFAC7, .shift 1 (-25572)), (0xFAC8, 0xFAC8, .shift 1 (-25458)), (0xFAC9, 0xFAC9, .shift 1 (-25326)),
  (0xFACA, 0xFACA, .shift 1 (-25291)), (0xFACB, 0xFACB, .shift 1 (-25280)), (0xFACC, 0xFACC, .shift 1 (-25233)),
  (0xFACD, 0xFACD, .shift 1 (-24507)), (0xFACE, 0xFACE, .shift 1 (-23346)), (0xFACF, 0xFACF, .shift 1 (77179)),
  (0xFAD0, 0xFAD0, .shift 1 (77172)), (0xFAD1, 0xFAD1, .shift 1 (80132)), (0xFAD2, 0xFAD2, .shift 1 (-48949)),
  (0xFAD3, 0xFAD3, .shift 1 (-47803)), (0xFAD4, 0xFAD4, .shift 1 (-47771)), (0xFAD5, 0xFAD5, .shift 1 (87924)),
  (0xFAD6, 0xFAD6, .shift 1 (90618)), (0xFAD7, 0xFAD7, .shift 1 (99324)), (0xFAD8, 0xFAD8, .shift 1 (-23445)),
  (0xFAD9, 0xFAD9, .shift 1 (-23371)), (0xFADA, 0xFAFF, .disallowed), (0xFB00, 0xFB00, .replace [0x66, 0x66]),
  (0xFB01, 0xFB01, .replace [0x66, 0x69]), (0xFB02, 0xFB02, .replace [0x66, 0x6C]), (0xFB03, 0xFB03, .replace [0x66, 0x66, 0x69]),
  (0xFB04, 0xFB04, .replace [0x66, 0x66, 0x6C]), (0xFB05, 0xFB06, .replace [0x73, 0x74]), (0xFB07, 0xFB12, .disallowed),
  (0xFB13, 0xFB13, .replace [0x574, 0x576]), (0xFB14, 0xFB14, .replace [0x574, 0x565]), (0xFB15, 0xFB15, .replace [0x574, 0x56B]),
  (0xFB16, 0xFB16, .replace [0x57E, 0x576]), (0xFB17, 0xFB17, .replace [0x574, 0x56D]), (0xFB18, 0xFB1C, .disallowed),
  (0xFB1D, 0xFB1D, .replace [0x5D9, 0x5B4]), (0xFB1F, 0xFB1F, .replace [0x5F2, 0x5B7]), (0xFB20, 0xFB20, .shift 1 (-62782)),
  (0xFB21, 0xFB21, .shift 1 (-62801)), (0xFB22, 0xFB23, .shift 1 (-62799)), (0xFB24, 0xFB26, .shift 1 (-62793)),
  (0xFB27, 0xFB27, .shift 1 (-62783)), (0xFB28, 0xFB28, .shift 1 (-62782)), (0xFB29, 0xFB29, .shift 1 (-64254)),
  (0xFB2A, 0xFB2A, .replace [0x5E9, 0x5C1]), (0xFB2B, 0xFB2B, .replace [0x5E9, 0x5C2]), (0xFB2C, 0xFB2C, .replace [0x5E9, 0x5BC, 0x5C1]),
  (0xFB2D, 0xFB2D, .replace [0x5E9, 0x5BC, 0x5C2]), (0xFB2E, 0xFB2E, .replace [0x5D0, 0x5B7]), (0xFB2F, 0xFB2F, .replace [0x5D0, 0x5B8]),
  (0xFB30, 0xFB30, .replace [0x5D0, 0x5BC]), (0xFB31, 0xFB31, .replace [0x5D1, 0x5BC]), (0xFB32, 0xFB32, .replace [0x5D2, 0x5BC]),
  (0xFB33, 0xFB33, .replace [0x5D3, 0x5BC]), (0xFB34, 0xFB34, .replace [0x5D4, 0x5BC]), (0xFB35, 0xFB35, .replace [0x5D5, 0x5BC]),
  (0xFB36, 0xFB36, .replace [0x5D6, 0x5BC]), (0xFB37, 0xFB37, .disallowed), (0xFB38, 0xFB38, .replace [0x5D8, 0x5BC]),
  (0xFB39, 0xFB39, .replace [0x5D9, 0x5BC]), (0xFB3A, 0xFB3A, .replace [0x5DA, 0x5BC]), (0xFB3B, 0xFB3B, .replace [0x5DB, 0x5BC]),
  (0xFB3C, 0xFB3C, .replace [0x5DC, 0x5BC]), (0xFB3D, 0xFB3D, .disallowed), (0xFB3E, 0xFB3E, .replace [0x5DE, 0x5BC]),
  (0xFB3F, 0xFB3F, .disallowed), (0xFB40, 0xFB40, .replace [0x5E0, 0x5BC]), (0xFB41, 0xFB41, .replace [0x5E1, 0x5BC]),
  (0xFB42, 0xFB42, .disallowed), (0xFB43, 0xFB43, .replace [0x5E3, 0x5BC]), (0xFB44, 0xFB44, .replace [0x5E4, 0x5BC]),
  (0xFB45, 0xFB45, .disallowed), (0xFB46, 0xFB46, .replace [0x5E6, 0x5BC]), (0xFB47, 0xFB47, .replace [0x5E7, 0x5BC]),
  (0xFB48, 0xFB48, .replace [0x5E8, 0x5BC]), (0xFB49, 0xFB49, .replace [0x5E9, 0x5BC]), (0xFB4A, 0xFB4A, .replace [0x5EA, 0x5BC]),
  (0xFB4B, 0xFB4B, .replace [0x5D5, 0x5B9]), (0xFB4C, 0xFB4C, .replace [0x5D1, 0x5BF]), (0xFB4D, 0xFB4D, .replace [0x5DB, 0x5BF]),
  (0xFB4E, 0xFB4E, .replace [0x5E4, 0x5BF]), (0xFB4F, 0xFB4F, .replace [0x5D0, 0x5DC]), (0xFB50, 0xFB51, .replace [0x671]),
  (0xFB52, 0xFB55, .replace [0x67B]), (0xFB56, 0xFB59, .replace [0x67E]), (0xFB5A, 0xFB5D, .replace [0x680]),
  (0xFB5E, 0xFB61, .replace [0x67A]), (0xFB62, 0xFB65, .replace [0x67F]), (0xFB66, 0xFB69, .replace [0x679]),
  (0xFB6A, 0xFB6D, .replace [0x6A4]), (0xFB6E, 0xFB71, .replace [0x6A6]), (0xFB72, 0xFB75, .replace [0x684]),
  (0xFB76, 0xFB79, .replace [0x683]), (0xFB7A, 0xFB7D, .replace [0x686]), (0xFB7E, 0xFB81, .replace [0x687]),
  (0xFB82, 0xFB83, .replace [0x68D]), (0xFB84, 0xFB85, .replace [0x68C]), (0xFB86, 0xFB87, .replace [0x68E]),
  (0xFB88, 0xFB89, .replace [0x688]), (0xFB8A, 0xFB8B, .replace [0x698]), (0xFB8C, 0xFB8D, .replace [0x691]),
  (0xFB8E, 0xFB91, .replace [0x6A9]), (0xFB92, 0xFB95, .replace [0x6AF]), (0xFB96, 0xFB99, .replace [0x6B3]),
  (0xFB9A, 0xFB9D, .replace [0x6B1]), (0xFB9E, 0xFB9F, .replace [0x6BA]), (0xFBA0, 0xFBA3, .replace [0x6BB]),
  (0xFBA4, 0xFBA5, .replace [0x6C0]), (0xFBA6, 0xFBA9, .replace [0x6C1]), (0xFBAA, 0xFBAD, .replace [0x6BE]),
  (0xFBAE, 0xFBAF, .replace [0x6D2]), (0xFBB0, 0xFBB1, .replace [0x6D3]), (0xFBD3, 0xFBD6, .replace [0x6AD]),
  (0xFBD7, 0xFBD8, .replace [0x6C7]), (0xFBD9, 0xFBDA, .replace [0x6C6]), (0xFBDB, 0xFBDC, .replace [0x6C8]),
  (0xFBDD, 0xFBDD, .replace [0x6C7, 0x674]), (0xFBDE, 0xFBDF, .replace [0x6CB]), (0xFBE0, 0xFBE1, .replace [0x6C5]),
  (0xFBE2, 0xFBE3, .replace [0x6C9]), (0xFBE4, 0xFBE7, .replace [0x6D0]), (0xFBE8, 0xFBE9, .replace [0x649]),
  (0xFBEA, 0xFBEB, .replace [0x626, 0x627]), (0xFBEC, 0xFBED, .replace [0x626, 0x6D5]), (0xFBEE, 0xFBEF, .replace [0x626, 0x648]),
  (0xFBF0, 0xFBF1, .replace [0x626, 0x6C7]), (0xFBF2, 0xFBF3, .replace [0x626, 0x6C6]), (0xFBF4, 0xFBF5, .replace [0x626, 0x6C8]),
  (0xFBF6, 0xFBF8, .replace [0x626, 0x6D0]), (0xFBF9, 0xFBFB, .replace [0x626, 0x649]), (0xFBFC, 0xFBFF, .replace [0x6CC]),
  (0xFC00, 0xFC00, .replace [0x626, 0x62C]), (0xFC01, 0xFC01, .replace [0x626, 0x62D]), (0xFC02, 0xFC02, .replace [0x626, 0x645]),
  (0xFC03, 0xFC03, .replace [0x626, 0x649]), (0xFC04, 0xFC04, .replace [0x626, 0x64A]), (0xFC05, 0xFC05, .replace [0x628, 0x62C]),
  (0xFC06, 0xFC06, .replace [0x628, 0x62D]), (0xFC07, 0xFC07, .replace [0x628, 0x62E]), (0xFC08, 0xFC08, .replace [0x628, 0x645]),
  (0xFC09, 0xFC09, .replace [0x628, 0x649]), (0xFC0A, 0xFC0A, .replace [0x628, 0x64A]), (0xFC0B, 0xFC0B, .replace [0x62A, 0x62C]),
  (0xFC0C, 0xFC0C, .replace [0x62A, 0x62D]), (0xFC0D, 0xFC0D, .replace [0x62A, 0x62E]), (0xFC0E, 0xFC0E, .replace [0x62A, 0x645]),
  (0xFC0F, 0xFC0F, .replace [0x62A, 0x649]), (0xFC10, 0xFC10, .replace [0x62A, 0x64A]), (0xFC11, 0xFC11, .replace [0x62B, 0x62C]),
  (0xFC12, 0xFC12, .replace [0x62B, 0x645]), (0xFC13, 0xFC13, .replace [0x62B, 0x649]), (0xFC14, 0xFC14, .replace [0x62B, 0x64A]),
  (0xFC15, 0xFC15, .replace [0x62C, 0x62D]), (0xFC16, 0xFC16, .replace [0x62C, 0x645]), (0xFC17, 0xFC17, .replace [0x62D, 0x62C]),
  (0xFC18, 0xFC18, .replace [0x62D, 0x645]), (0xFC19, 0xFC19, .replace [0x62E, 0x62C]), (0xFC1A, 0xFC1A, .replace [0x62E, 0x62D]),
  (0xFC1B, 0xFC1B, .replace [0x62E, 0x645]), (0xFC1C, 0xFC1C, .replace [0x633, 0x62C]), (0xFC1D, 0xFC1D, .replace [0x633, 0x62D]),
  (0xFC1E, 0xFC1E, .replace [0x633, 0x62E]), (0xFC1F, 0xFC1F, .replace [0x633, 0x645]), (0xFC20, 0xFC20, .replace [0x635, 0x62D]),
  (0xFC21, 0xFC21, .replace [0x635, 0x645]), (0xFC22, 0xFC22, .replace [0x636, 0x62C]), (0xFC23, 0xFC23, .replace [0x636, 0x62D]),
  (0xFC24, 0xFC24, .replace [0x636, 0x62E]), (0xFC25, 0xFC25, .replace [0x636, 0x645]), (0xFC26, 0xFC26, .replace [0x637, 0x62D]),
  (0xFC27, 0xFC27, .replace [0x637, 0x645]), (0xFC28, 0xFC28, .replace [0x638, 0x645]), (0xFC29, 0xFC29, .replace [0x639, 0x62C]),
  (0xFC2A, 0xFC2A, .replace [0x639, 0x645]), (0xFC2B, 0xFC2B, .replace [0x63A, 0x62C]), (0xFC2C, 0xFC2C, .replace [0x63A, 0x645]),
  (0xFC2D, 0xFC2D, .replace [0x641, 0x62C]), (0xFC2E, 0xFC2E, .replace [0x641, 0x62D]), (0xFC2F, 0xFC2F, .replace [0x641, 0x62E]),
  (0xFC30, 0xFC30, .replace [0x641, 0x645]), (0xFC31, 0xFC31, .replace [0x641, 0x649]), (0xFC32, 0xFC32, .replace [0x641, 0x64A]),
  (0xFC33, 0xFC33, .replace [0x642, 0x62D]), (0xFC34, 0xFC34, .replace [0x642, 0x645]), (0xFC35, 0xFC35, .replace [0x642, 0x649]),
  (0xFC36, 0xFC36, .replace [0x642, 0x64A]), (0xFC37, 0xFC37, .replace [0x643, 0x627]), (0xFC38, 0xFC38, .replace [0x643, 0x62C]),
  (0xFC39, 0xFC39, .replace [0x643, 0x62D]), (0xFC3A, 0xFC3A, .replace [0x643, 0x62E]), (0xFC3B, 0xFC3B, .replace [0x643, 0x644]),
  (0xFC3C, 0xFC3C, .replace [0x643, 0x645]), (0xFC3D, 0xFC3D, .replace [0x643, 0x649]), (0xFC3E, 0xFC3E, .replace [0x643, 0x64A]),
  (0xFC3F, 0xFC3F, .replace [0x644, 0x62C]), (0xFC40, 0xFC40, .replace [0x644, 0x62D]), (0xFC41, 0xFC41, .replace [0x644, 0x62E]),
  (0xFC42, 0xFC42, .replace [0x644, 0x645]), (0xFC43, 0xFC43, .replace [0x644, 0x649]), (0xFC44, 0xFC44, .replace [0x644, 0x64A]),
  (0xFC45, 0xFC45, .replace [0x645, 0x62C]), (0xFC46, 0xFC46, .replace [0x645, 0x62D]), (0xFC47, 0xFC47, .replace [0x645, 0x62E]),
  (0xFC48, 0xFC48, .replace [0x645, 0x645]), (0xFC49, 0xFC49, .replace [0x645, 0x649]), (0xFC4A, 0xFC4A, .replace [0x645, 0x64A]),
  (0xFC4B, 0xFC4B, .replace [0x646, 0x62C]), (0xFC4C, 0xFC4C, .replace [0x646, 0x62D]), (0xFC4D, 0xFC4D, .replace [0x646, 0x62E]),
  (0xFC4E, 0xFC4E, .replace [0x646, 0x645]), (0xFC4F, 0xFC4F, .replace [0x646, 0x649]), (0xFC50, 0xFC50, .replace [0x646, 0x64A]),
  (0xFC51, 0xFC51, .replace [0x647, 0x62C]), (0xFC52, 0xFC52, .replace [0x647, 0x645]), (0xFC53, 0xFC53, .replace [0x647, 0x649]),
  (0xFC54, 0xFC54, .replace [0x647, 0x64A]), (0xFC55, 0xFC55, .replace [0x64A, 0x62C]), (0xFC56, 0xFC56, .replace [0x64A, 0x62D]),
  (0xFC57, 0xFC57, .replace [0x64A, 0x62E]), (0xFC58, 0xFC58, .replace [0x64A, 0x645]), (0xFC59, 0xFC59, .replace [0x64A, 0x649]),
  (0xFC5A, 0xFC5A, .replace [0x64A, 0x64A]), (0xFC5B, 0xFC5B, .replace [0x630, 0x670]), (0xFC5C, 0xFC5C, .replace [0x631, 0x670]),
  (0xFC5D, 0xFC5D, .replace [0x649, 0x670]), (0xFC5E, 0xFC5E, .replace [0x20, 0x64C, 0x651]), (0xFC5F, 0xFC5F, .replace [0x20, 0x64D, 0x651]),
  (0xFC60, 0xFC60, .replace [0x20, 0x64E, 0x651]), (0xFC61, 0xFC61, .replace [0x20, 0x64F, 0x651]), (0xFC62, 0xFC62, .replace [0x20, 0x650, 0x651]),
  (0xFC63, 0xFC63, .replace [0x20, 0x651, 0x670]), (0xFC64, 0xFC64, .replace [0x626, 0x631]), (0xFC65, 0xFC65, .replace [0x626, 0x632]),
  (0xFC66, 0xFC66, .replace [0x626, 0x645]), (0xFC67, 0xFC67, .replace [0x626, 0x646]), (0xFC68, 0xFC68, .replace [0x626, 0x649]),
  (0xFC69, 0xFC69, .replace [0x626, 0x64A]), (0xFC6A, 0xFC6A, .replace [0x628, 0x631]), (0xFC6B, 0xFC6B, .replace [0x628, 0x632]),
  (0xFC6C, 0xFC6C, .replace [0x628, 0x645]), (0xFC6D, 0xFC6D, .replace [0x628, 0x646]), (0xFC6E, 0xFC6E, .replace [0x628, 0x649]),
  (0xFC6F, 0xFC6F, .replace [0x628, 0x64A]), (0xFC70, 0xFC70, .replace [0x62A, 0x631]), (0xFC71, 0xFC71, .replace [0x62A, 0x632]),
  (0xFC72, 0xFC72, .replace [0x62A, 0x645]), (0xFC73, 0xFC73, .replace [0x62A, 0x646]), (0xFC74, 0xFC74, .replace [0x62A, 0x649]),
  (0xFC75, 0xFC75, .replace [0x62A, 0x64A]), (0xFC76, 0xFC76, .replace [0x62B, 0x631]), (0xFC77, 0xFC77, .replace [0x62B, 0x632]),
  (0xFC78, 0xFC78, .replace [0x62B, 0x645]), (0xFC79, 0xFC79, .replace [0x62B, 0x646]), (0xFC7A, 0xFC7A, .replace [0x62B, 0x649]),
  (0xFC7B, 0xFC7B, .replace [0x62B, 0x64A]), (0xFC7C, 0xFC7C, .replace [0x641, 0x649]), (0xFC7D, 0xFC7D, .replace [0x641, 0x64A]),
  (0xFC7E, 0xFC7E, .replace [0x642, 0x649]), (0xFC7F, 0xFC7F, .replace [0x642, 0x64A]), (0xFC80, 0xFC80, .replace [0x643, 0x627]),
  (0xFC81, 0xFC81, .replace [0x643, 0x644]), (0xFC82, 0xFC82, .replace [0x643, 0x645]), (0xFC83, 0xFC83, .replace [0x643, 0x649]),
  (0xFC84, 0xFC84, .replace [0x643, 0x64A]), (0xFC85, 0xFC85, .replace [0x644, 0x645]), (0xFC86, 0xFC86, .replace [0x644, 0x649]),
  (0xFC87, 0xFC87, .replace [0x644, 0x64A]), (0xFC88, 0xFC88, .replace [0x645, 0x627]), (0xFC89, 0xFC89, .replace [0x645, 0x645]),
  (0xFC8A, 0xFC8A, .replace [0x646, 0x631]), (0xFC8B, 0xFC8B, .replace [0x646, 0x632]), (0xFC8C, 0xFC8C, .replace [0x646, 0x645]),
  (0xFC8D, 0xFC8D, .replace [0x646, 0x646]), (0xFC8E, 0xFC8E, .replace [0x646, 0x649]), (0xFC8F, 0xFC8F, .replace [0x646, 0x64A]),
  (0xFC90, 0xFC90, .replace [0x649, 0x670]), (0xFC91, 0xFC91, .replace [0x64A, 0x631]), (0xFC92, 0xFC92, .replace [0x64A, 0x632]),
  (0xFC93, 0xFC93, .replace [0x64A, 0x645]), (0xFC94, 0xFC94, .replace [0x64A, 0x646]), (0xFC95, 0xFC95, .replace [0x64A, 0x649]),
  (0xFC96, 0xFC96, .replace [0x64A, 0x64A]), (0xFC97, 0xFC97, .replace [0x626, 0x62C]), (0xFC98, 0xFC98, .replace [0x626, 0x62D]),
  (0xFC99, 0xFC99, .replace [0x626, 0x62E]), (0xFC9A, 0xFC9A, .replace [0x626, 0x645]), (0xFC9B, 0xFC9B, .replace [0x626, 0x647]),
  (0xFC9C, 0xFC9C, .replace [0x628, 0x62C]), (0xFC9D, 0xFC9D, .replace [0x628, 0x62D]), (0xFC9E, 0xFC9E, .replace [0x628, 0x62E]),
  (0xFC9F, 0xFC9F, .replace [0x628, 0x645]), (0xFCA0, 0xFCA0, .replace [0x628, 0x647]), (0xFCA1, 0xFCA1, .replace [0x62A, 0x62C]),
  (0xFCA2, 0xFCA2, .replace [0x62A, 0x62D]), (0xFCA3, 0xFCA3, .replace [0x62A, 0x62E]), (0xFCA4, 0xFCA4, .replace [0x62A, 0x645]),
  (0xFCA5, 0xFCA5, .replace [0x62A, 0x647]), (0xFCA6, 0xFCA6, .replace [0x62B, 0x645]), (0xFCA7, 0xFCA7, .replace [0x62C, 0x62D]),
  (0xFCA8, 0xFCA8, .replace [0x62C, 0x645]), (0xFCA9, 0xFCA9, .replace [0x62D, 0x62C]), (0xFCAA, 0xFCAA, .replace [0x62D, 0x645]),
  (0xFCAB, 0xFCAB, .replace [0x62E, 0x62C]), (0xFCAC, 0xFCAC, .replace [0x62E, 0x645]), (0xFCAD, 0xFCAD, .replace [0x633, 0x62C]),
  (0xFCAE, 0xFCAE, .replace [0x633, 0x62D]), (0xFCAF, 0xFCAF, .replace [0x633, 0x62E]), (0xFCB0, 0xFCB0, .replace [0x633, 0x645]),
  (0xFCB1, 0xFCB1, .replace [0x635, 0x62D]), (0xFCB2, 0xFCB2, .replace [0x635, 0x62E]), (0xFCB3, 0xFCB3, .replace [0x635, 0x645]),
  (0xFCB4, 0xFCB4, .replace [0x636, 0x62C]), (0xFCB5, 0xFCB5, .replace [0x636, 0x62D]), (0xFCB6, 0xFCB6, .replace [0x636, 0x62E]),
  (0xFCB7, 0xFCB7, .replace [0x636, 0x645]), (0xFCB8, 0xFCB8, .replace [0x637, 0x62D]), (0xFCB9, 0xFCB9, .replace [0x638, 0x645]),
  (0xFCBA, 0xFCBA, .replace [0x639, 0x62C]), (0xFCBB, 0xFCBB, .replace [0x639, 0x645]), (0xFCBC, 0xFCBC, .replace [0x63A, 0x62C]),
  (0xFCBD, 0xFCBD, .replace [0x63A, 0x645]), (0xFCBE, 0xFCBE, .replace [0x641, 0x62C]), (0xFCBF, 0xFCBF, .replace [0x641, 0x62D]),
  (0xFCC0, 0xFCC0, .replace [0x641, 0x62E]), (0xFCC1, 0xFCC1, .replace [0x641, 0x645]), (0xFCC2, 0xFCC2, .replace [0x642, 0x62D]),
  (0xFCC3, 0xFCC3, .replace [0x642, 0x645]), (0xFCC4, 0xFCC4, .replace [0x643, 0x62C]), (0xFCC5, 0xFCC5, .replace [0x643, 0x62D]),
  (0xFCC6, 0xFCC6, .replace [0x643, 0x62E]), (0xFCC7, 0xFCC7, .replace [0x643, 0x644]), (0xFCC8, 0xFCC8, .replace [0x643, 0x645]),
  (0xFCC9, 0xFCC9, .replace [0x644, 0x62C]), (0xFCCA, 0xFCCA, .replace [0x644, 0x62D]), (0xFCCB, 0xFCCB, .replace [0x644, 0x62E]),
  (0xFCCC, 0xFCCC, .replace [0x644, 0x645]), (0xFCCD, 0xFCCD, .replace [0x644, 0x647]), (0xFCCE, 0xFCCE, .replace [0x645, 0x62C]),
  (0xFCCF, 0xFCCF, .replace [0x645, 0x62D]), (0xFCD0, 0xFCD0, .replace [0x645, 0x62E]), (0xFCD1, 0xFCD1, .replace [0x645, 0x645]),
  (0xFCD2, 0xFCD2, .replace [0x646, 0x62C]), (0xFCD3, 0xFCD3, .replace [0x646, 0x62D]), (0xFCD4, 0xFCD4, .replace [0x646, 0x62E]),
  (0xFCD5, 0xFCD5, .replace [0x646, 0x645]), (0xFCD6, 0xFCD6, .replace [0x646, 0x647]), (0xFCD7, 0xFCD7, .replace [0x647, 0x62C]),
  (0xFCD8, 0xFCD8, .replace [0x647, 0x645]), (0xFCD9, 0xFCD9, .replace [0x647, 0x670]), (0xFCDA, 0xFCDA, .replace [0x64A, 0x62C]),
  (0xFCDB, 0xFCDB, .replace [0x64A, 0x62D]), (0xFCDC, 0xFCDC, .replace [0x64A, 0x62E]), (0xFCDD, 0xFCDD, .replace [0x64A, 0x645]),
  (0xFCDE, 0xFCDE, .replace [0x64A, 0x647]), (0xFCDF, 0xFCDF, .replace [0x626, 0x645]), (0xFCE0, 0xFCE0, .replace [0x626, 0x647]),
  (0xFCE1, 0xFCE1, .replace [0x628, 0x645]), (0xFCE2, 0xFCE2, .replace [0x628, 0x647]), (0xFCE3, 0xFCE3, .replace [0x62A, 0x645]),
  (0xFCE4, 0xFCE4, .replace [0x62A, 0x647]), (0xFCE5, 0xFCE5, .replace [0x62B, 0x645]), (0xFCE6, 0xFCE6, .replace [0x62B, 0x647]),
  (0xFCE7, 0xFCE7, .replace [0x633, 0x645]), (0xFCE8, 0xFCE8, .replace [0x633, 0x647]), (0xFCE9, 0xFCE9, .replace [0x634, 0x645]),
  (0xFCEA, 0xFCEA, .replace [0x634, 0x647]), (0xFCEB, 0xFCEB, .replace [0x643, 0x644]), (0xFCEC, 0xFCEC, .replace [0x643, 0x645]),
  (0xFCED, 0xFCED, .replace [0x644, 0x645]), (0xFCEE, 0xFCEE, .replace [0x646, 0x645]), (0xFCEF, 0xFCEF, .replace [0x646, 0x647]),
  (0xFCF0, 0xFCF0, .replace [0x64A, 0x645]), (0xFCF1, 0xFCF1, .replace [0x64A, 0x647]), (0xFCF2, 0xFCF2, .replace [0x640, 0x64E, 0x651]),
  (0xFCF3, 0xFCF3, .replace [0x640, 0x64F, 0x651]), (0xFCF4, 0xFCF4, .replace [0x640, 0x650, 0x651]), (0xFCF5, 0xFCF5, .replace [0x637, 0x649]),
  (0xFCF6, 0xFCF6, .replace [0x637, 0x64A]), (0xFCF7, 0xFCF7, .replace [0x639, 0x649]), (0xFCF8, 0xFCF8, .replace [0x639, 0x64A]),
  (0xFCF9, 0xFCF9, .replace [0x63A, 0x649]), (0xFCFA, 0xFCFA, .replace [0x63A, 0x64A]), (0xFCFB, 0xFCFB, .replace [0x633, 0x649]),
  (0xFCFC, 0xFCFC, .replace [0x633, 0x64A]), (0xFCFD, 0xFCFD, .replace [0x634, 0x649]), (0xFCFE, 0xFCFE, .replace [0x634, 0x64A]),
  (0xFCFF, 0xFCFF, .replace [0x62D, 0x649]), (0xFD00, 0xFD00, .replace [0x62D, 0x64A]), (0xFD01, 0xFD01, .replace [0x62C, 0x649]),
  (0xFD02, 0xFD02, .replace [0x62C, 0x64A]), (0xFD03, 0xFD03, .replace [0x62E, 0x649]), (0xFD04, 0xFD04, .replace [0x62E, 0x64A]),
  (0xFD05, 0xFD05, .replace [0x635, 0x649]), (0xFD06, 0xFD06, .replace [0x635, 0x64A]), (0xFD07, 0xFD07, .replace [0x636, 0x649]),
  (0xFD08, 0xFD08, .replace [0x636, 0x64A]), (0xFD09, 0xFD09, .replace [0x634, 0x62C]), (0xFD0A, 0xFD0A, .replace [0x634, 0x62D]),
  (0xFD0B, 0xFD0B, .replace [0x634, 0x62E]), (0xFD0C, 0xFD0C, .replace [0x634, 0x645]), (0xFD0D, 0xFD0D, .replace [0x634, 0x631]),
  (0xFD0E, 0xFD0E, .replace [0x633, 0x631]), (0xFD0F, 0xFD0F, .replace [0x635, 0x631]), (0xFD10, 0xFD10, .replace [0x636, 0x631]),
  (0xFD11, 0xFD11, .replace [0x637, 0x649]), (0xFD12, 0xFD12, .replace [0x637, 0x64A]), (0xFD13, 0xFD13, .replace [0x639, 0x649]),
  (0xFD14, 0xFD14, .replace [0x639, 0x64A]), (0xFD15, 0xFD15, .replace [0x63A, 0x649]), (0xFD16, 0xFD16, .replace [0x63A, 0x64A]),
  (0xFD17, 0xFD17, .replace [0x633, 0x649]), (0xFD18, 0xFD18, .replace [0x633, 0x64A]), (0xFD19, 0xFD19, .replace [0x634, 0x649]),
  (0xFD1A, 0xFD1A, .replace [0x634, 0x64A]), (0xFD1B, 0xFD1B, .replace [0x62D, 0x649]), (0xFD1C, 0xFD1C, .replace [0x62D, 0x64A]),
  (0xFD1D, 0xFD1D, .replace [0x62C, 0x649]), (0xFD1E, 0xFD1E, .replace [0x62C, 0x64A]), (0xFD1F, 0xFD1F, .replace [0x62E, 0x649]),
  (0xFD20, 0xFD20, .replace [0x62E, 0x64A]), (0xFD21, 0xFD21, .replace [0x635, 0x649]), (0xFD22, 0xFD22, .replace [0x635, 0x64A]),
  (0xFD23, 0xFD23, .replace [0x636, 0x649]), (0xFD24, 0xFD24, .replace [0x636, 0x64A]), (0xFD25, 0xFD25, .replace [0x634, 0x62C]),
  (0xFD26, 0xFD26, .replace [0x634, 0x62D]), (0xFD27, 0xFD27, .replace [0x634, 0x62E]), (0xFD28, 0xFD28, .replace [0x634, 0x645]),
  (0xFD29, 0xFD29, .replace [0x634, 0x631]), (0xFD2A, 0xFD2A, .replace [0x633, 0x631]), (0xFD2B, 0xFD2B, .replace [0x635, 0x631]),
  (0xFD2C, 0xFD2C, .replace [0x636, 0x631]), (0xFD2D, 0xFD2D, .replace [0x634, 0x62C]), (0xFD2E, 0xFD2E, .replace [0x634, 0x62D]),
  (0xFD2F, 0xFD2F, .replace [0x634, 0x62E]), (0xFD30, 0xFD30, .replace [0x634, 0x645]), (0xFD31, 0xFD31, .replace [0x633, 0x647]),
  (0xFD32, 0xFD32, .replace [0x634, 0x647]), (0xFD33, 0xFD33, .replace [0x637, 0x645]), (0xFD34, 0xFD34, .replace [0x633, 0x62C]),
  (0xFD35, 0xFD35, .replace [0x633, 0x62D]), (0xFD36, 0xFD36, .replace [0x633, 0x62E]), (0xFD37, 0xFD37, .replace [0x634, 0x62C]),
  (0xFD38, 0xFD38, .replace [0x634, 0x62D]), (0xFD39, 0xFD39, .replace [0x634, 0x62E]), (0xFD3A, 0xFD3A, .replace [0x637, 0x645]),
  (0xFD3B, 0xFD3B, .replace [0x638, 0x645]), (0xFD3C, 0xFD3D, .replace [0x627, 0x64B]), (0xFD50, 0xFD50, .replace [0x62A, 0x62C, 0x645]),
  (0xFD51, 0xFD52, .replace [0x62A, 0x62D, 0x62C]), (0xFD53, 0xFD53, .replace [0x62A, 0x62D, 0x645]), (0xFD54, 0xFD54, .replace [0x62A, 0x62E, 0x645]),
  (0xFD55, 0xFD55, .replace [0x62A, 0x645, 0x62C]), (0xFD56, 0xFD56, .replace [0x62A, 0x645, 0x62D]), (0xFD57, 0xFD57, .replace [0x62A, 0x645, 0x62E]),
  (0xFD58, 0xFD59, .replace [0x62C, 0x645, 0x62D]), (0xFD5A, 0xFD5A, .replace [0x62D, 0x645, 0x64A]), (0xFD5B, 0xFD5B, .replace [0x62D, 0x645, 0x649]),
  (0xFD5C, 0xFD5C, .replace [0x633, 0x62D, 0x62C]), (0xFD5D, 0xFD5D, .replace [0x633, 0x62C, 0x62D]), (0xFD5E, 0xFD5E, .replace [0x633, 0x62C, 0x649]),
  (0xFD5F, 0xFD60, .replace [0x633, 0x645, 0x62D]), (0xFD61, 0xFD61, .replace [0x633, 0x645, 0x62C]), (0xFD62, 0xFD63, .replace [0x633, 0x645, 0x645]),
  (0xFD64, 0xFD65, .replace [0x635, 0x62D, 0x62D]), (0xFD66, 0xFD66, .replace [0x635, 0x645, 0x645]), (0xFD67, 0xFD68, .replace [0x634, 0x62D, 0x645]),
  (0xFD69, 0xFD69, .replace [0x634, 0x62C, 0x64A]), (0xFD6A, 0xFD6B, .replace [0x634, 0x645, 0x62E]), (0xFD6C, 0xFD6D, .replace [0x634, 0x645, 0x645]),
  (0xFD6E, 0xFD6E, .replace [0x636, 0x62D, 0x649]), (0xFD6F, 0xFD70, .replace [0x636, 0x62E, 0x645]), (0xFD71, 0xFD72, .replace [0x637, 0x645, 0x62D]),
  (0xFD73, 0xFD73, .replace [0x637, 0x645, 0x645]), (0xFD74, 0xFD74, .replace [0x637, 0x645, 0x64A]), (0xFD75, 0xFD75, .replace [0x639, 0x62C, 0x645]),
  (0xFD76, 0xFD77, .replace [0x639, 0x645, 0x645]), (0xFD78, 0xFD78, .replace [0x639, 0x645, 0x649]), (0xFD79, 0xFD79, .replace [0x63A, 0x645, 0x645]),
  (0xFD7A, 0xFD7A, .replace [0x63A, 0x645, 0x64A]), (0xFD7B, 0xFD7B, .replace [0x63A, 0x645, 0x649]), (0xFD7C, 0xFD7D, .replace [0x641, 0x62E, 0x645]),
  (0xFD7E, 0xFD7E, .replace [0x642, 0x645, 0x62D]), (0xFD7F, 0xFD7F, .replace [0x642, 0x645, 0x645]), (0xFD80, 0xFD80, .replace [0x644, 0x62D, 0x645]),
  (0xFD81, 0xFD81, .replace [0x644, 0x62D, 0x64A]), (0xFD82, 0xFD82, .replace [0x644, 0x62D, 0x649]), (0xFD83, 0xFD84, .replace [0x644, 0x62C, 0x62C]),
  (0xFD85, 0xFD86, .replace [0x644, 0x62E, 0x645]), (0xFD87, 0xFD88, .replace [0x644, 0x645, 0x62D]), (0xFD89, 0xFD89, .replace [0x645, 0x62D, 0x62C]),
  (0xFD8A, 0xFD8A, .replace [0x645, 0x62D, 0x645]), (0xFD8B, 0xFD8B, .replace [0x645, 0x62D, 0x64A]), (0xFD8C, 0xFD8C, .replace [0x645, 0x62C, 0x62D]),
  (0xFD8D, 0xFD8D, .replace [0x645, 0x62C, 0x645]), (0xFD8E, 0xFD8E, .replace [0x645, 0x62E, 0x62C]), (0xFD8F, 0xFD8F, .replace [0x645, 0x62E, 0x645]),
  (0xFD92, 0xFD92, .replace [0x645, 0x62C, 0x62E]), (0xFD93, 0xFD93, .replace [0x647, 0x645, 0x62C]), (0xFD94, 0xFD94, .replace [0x647, 0x645, 0x645]),
  (0xFD95, 0xFD95, .replace [0x646, 0x62D, 0x645]), (0xFD96, 0xFD96, .replace [0x646, 0x62D, 0x649]), (0xFD97, 0xFD98, .replace [0x646, 0x62C, 0x645]),
  (0xFD99, 0xFD99, .replace [0x646, 0x62C, 0x649]), (0xFD9A, 0xFD9A, .replace [0x646, 0x645, 0x64A]), (0xFD9B, 0xFD9B, .replace [0x646, 0x645, 0x649]),
  (0xFD9C, 0xFD9D, .replace [0x64A, 0x645, 0x645]), (0xFD9E, 0xFD9E, .replace [0x628, 0x62E, 0x64A]), (0xFD9F, 0xFD9F, .replace [0x62A, 0x62C, 0x64A]),
  (0xFDA0, 0xFDA0, .replace [0x62A, 0x62C, 0x649]), (0xFDA1, 0xFDA1, .replace [0x62A, 0x62E, 0x64A]), (0xFDA2, 0xFDA2, .replace [0x62A, 0x62E, 0x649]),
  (0xFDA3, 0xFDA3, .replace [0x62A, 0x645, 0x64A]), (0xFDA4, 0xFDA4, .replace [0x62A, 0x645, 0x649]), (0xFDA5, 0xFDA5, .replace [0x62C, 0x645, 0x64A]),
  (0xFDA6, 0xFDA6, .replace [0x62C, 0x62D, 0x649]), (0xFDA7, 0xFDA7, .replace [0x62C, 0x645, 0x649]), (0xFDA8, 0xFDA8, .replace [0x633, 0x62E, 0x649]),
  (0xFDA9, 0xFDA9, .replace [0x635, 0x62D, 0x64A]), (0xFDAA, 0xFDAA, .replace [0x634, 0x62D, 0x64A]), (0xFDAB, 0xFDAB, .replace [0x636, 0x62D, 0x64A]),
  (0xFDAC, 0xFDAC, .replace [0x644, 0x62C, 0x64A]), (0xFDAD, 0xFDAD, .replace [0x644, 0x645, 0x64A]), (0xFDAE, 0xFDAE, .replace [0x64A, 0x62D, 0x64A]),
  (0xFDAF, 0xFDAF, .replace [0x64A, 0x62C, 0x64A]), (0xFDB0, 0xFDB0, .replace [0x64A, 0x645, 0x64A]), (0xFDB1, 0xFDB1, .replace [0x645, 0x645, 0x64A]),
  (0xFDB2, 0xFDB2, .replace [0x642, 0x645, 0x64A]), (0xFDB3, 0xFDB3, .replace [0x646, 0x62D, 0x64A]), (0xFDB4, 0xFDB4, .replace [0x642, 0x645, 0x62D]),
  (0xFDB5, 0xFDB5, .replace [0x644, 0x62D, 0x645]), (0xFDB6, 0xFDB6, .replace [0x639, 0x645, 0x64A]), (0xFDB7, 0xFDB7, .replace [0x643, 0x645, 0x64A]),
  (0xFDB8, 0xFDB8, .replace [0x646, 0x62C, 0x62D]), (0xFDB9, 0xFDB9, .replace [0x645, 0x62E, 0x64A]), (0xFDBA, 0xFDBA, .replace [0x644, 0x62C, 0x645]),
  (0xFDBB, 0xFDBB, .replace [0x643, 0x645, 0x645]), (0xFDBC, 0xFDBC, .replace [0x644, 0x62C, 0x645]), (0xFDBD, 0xFDBD, .replace [0x646, 0x62C, 0x62D]),
  (0xFDBE, 0xFDBE, .replace [0x62C, 0x62D, 0x64A]), (0xFDBF, 0xFDBF, .replace [0x62D, 0x62C, 0x64A]), (0xFDC0, 0xFDC0, .replace [0x645, 0x62C, 0x64A]),
  (0xFDC1, 0xFDC1, .replace [0x641, 0x645, 0x64A]), (0xFDC2, 0xFDC2, .replace [0x628, 0x62D, 0x64A]), (0xFDC3, 0xFDC3, .replace [0x643, 0x645, 0x645]),
  (0xFDC4, 0xFDC4, .replace [0x639, 0x62C, 0x645]), (0xFDC5, 0xFDC5, .replace [0x635, 0x645, 0x645]), (0xFDC6, 0xFDC6, .replace [0x633, 0x62E, 0x64A]),
  (0xFDC7, 0xFDC7, .replace [0x646, 0x62C, 0x64A]), (0xFDD0, 0xFDEF, .disallowed), (0xFDF0, 0xFDF0, .replace [0x635, 0x644, 0x6D2]),
  (0xFDF1, 0xFDF1, .replace [0x642, 0x644, 0x6D2]), (0xFDF2, 0xFDF2, .replace [0x627, 0x644, 0x644, 0x647]), (0xFDF3, 0xFDF3, .replace [0x627, 0x643, 0x628, 0x631]),
  (0xFDF4, 0xFDF4, .replace [0x645, 0x62D, 0x645, 0x62F]), (0xFDF5, 0xFDF5, .replace [0x635, 0x644, 0x639, 0x645]), (0xFDF6, 0xFDF6, .replace [0x631, 0x633, 0x648, 0x644]),
  (0xFDF7, 0xFDF7, .replace [0x639, 0x644, 0x64A, 0x647]), (0xFDF8, 0xFDF8, .replace [0x648, 0x633, 0x644, 0x645]), (0xFDF9, 0xFDF9, .replace [0x635, 0x644, 0x649]),
  (0xFDFA, 0xFDFA, .replace [0x635, 0x644, 0x649, 0x20, 0x627, 0x644, 0x644, 0x647, 0x20, 0x639, 0x644, 0x64A, 0x647, 0x20, 0x648, 0x633, 0x644, 0x645]), (0xFDFB, 0xFDFB, .replace [0x62C, 0x644, 0x20, 0x62C, 0x644, 0x627, 0x644, 0x647]), (0xFDFC, 0xFDFC, .replace [0x631, 0x6CC, 0x627, 0x644]),
  (0xFE00, 0xFE0F, .ignored), (0xFE10, 0xFE10, .shift 1 (-64996)), (0xFE11, 0xFE11, .shift 1 (-52752)),
  (0xFE12, 0xFE12, .disallowed), (0xFE13, 0xFE14, .shift 1 (-64985)), (0xFE15, 0xFE15, .shift 1 (-65012)),
  (0xFE16, 0xFE16, .shift 1 (-64983)), (0xFE17, 0xFE18, .shift 1 (-52737)), (0xFE19, 0xFE1F, .disallowed),
  (0xFE30, 0xFE30, .disallowed), (0xFE31, 0xFE31, .shift 1 (-56861)), (0xFE32, 0xFE32, .shift 1 (-56863)),
  (0xFE33, 0xFE34, .replace [0x5F]), (0xFE35, 0xFE36, .shift 1 (-65037)), (0xFE37, 0xFE37, .shift 1 (-64956)),
  (0xFE38, 0xFE38, .shift 1 (-64955)), (0xFE39, 0xFE3A, .shift 1 (-52773)), (0xFE3B, 0xFE3C, .shift 1 (-52779)),
  (0xFE3D, 0xFE3E, .shift 1 (-52787)), (0xFE3F, 0xFE40, .shift 1 (-52791)), (0xFE41, 0xFE44, .shift 1 (-52789)),
  (0xFE47, 0xFE47, .shift 1 (-65004)), (0xFE48, 0xFE48, .shift 1 (-65003)), (0xFE49, 0xFE4C, .replace [0x20, 0x305]),
  (0xFE4D, 0xFE4F, .replace [0x5F]), (0xFE50, 0xFE50, .shift 1 (-65060)), (0xFE51, 0xFE51, .shift 1 (-52816)),
  (0xFE52, 0xFE53, .disallowed), (0xFE54, 0xFE54, .shift 1 (-65049)), (0xFE55, 0xFE55, .shift 1 (-65051)),
  (0xFE56, 0xFE56, .shift 1 (-65047)), (0xFE57, 0xFE57, .shift 1 (-65078)), (0xFE58, 0xFE58, .shift 1 (-56900)),
  (0xFE59, 0xFE5A, .shift 1 (-65073)), (0xFE5B, 0xFE5B, .shift 1 (-64992)), (0xFE5C, 0xFE5C, .shift 1 (-64991)),
  (0xFE5D, 0xFE5E, .shift 1 (-52809)), (0xFE5F, 0xFE5F, .shift 1 (-65084)), (0xFE60, 0xFE60, .shift 1 (-65082)),
  (0xFE61, 0xFE62, .shift 1 (-65079)), (0xFE63, 0xFE63, .shift 1 (-65078)), (0xFE64, 0xFE64, .shift 1 (-65064)),
  (0xFE65, 0xFE65, .shift 1 (-65063)), (0xFE66, 0xFE66, .shift 1 (-65065)), (0xFE67, 0xFE67, .disallowed),
  (0xFE68, 0xFE68, .shift 1 (-65036)), (0xFE69, 0xFE6A, .shift 1 (-65093)), (0xFE6B, 0xFE6B, .shift 1 (-65067)),
  (0xFE6C, 0xFE6F, .disallowed), (0xFE70, 0xFE70, .replace [0x20, 0x64B]), (0xFE71, 0xFE71, .replace [0x640, 0x64B]),
  (0xFE72, 0xFE72, .replace [0x20, 0x64C]), (0xFE74, 0xFE74, .replace [0x20, 0x64D]), (0xFE75, 0xFE75, .disallowed),
  (0xFE76, 0xFE76, .replace [0x20, 0x64E]), (0xFE77, 0xFE77, .replace [0x640, 0x64E]), (0xFE78, 0xFE78, .replace [0x20, 0x64F]),
  (0xFE79, 0xFE79, .replace [0x640, 0x64F]), (0xFE7A, 0xFE7A, .replace [0x20, 0x650]), (0xFE7B, 0xFE7B, .replace [0x640, 0x650]),
  (0xFE7C, 0xFE7C, .replace [0x20, 0x651]), (0xFE7D, 0xFE7D, .replace [0x640, 0x651]), (0xFE7E, 0xFE7E, .replace [0x20, 0x652]),
  (0xFE7F, 0xFE7F, .replace [0x640, 0x652]), (0xFE80, 0xFE80, .shift 1 (-63583)), (0xFE81, 0xFE82, .replace [0x622]),
  (0xFE83, 0xFE84, .replace [0x623]), (0xFE85, 0xFE86, .replace [0x624]), (0xFE87, 0xFE88, .replace [0x625]),
  (0xFE89, 0xFE8C, .replace [0x626]), (0xFE8D, 0xFE8E, .replace [0x627]), (0xFE8F, 0xFE92, .replace [0x628]),
  (0xFE93, 0xFE94, .replace [0x629]), (0xFE95, 0xFE98, .replace [0x62A]), (0xFE99, 0xFE9C, .replace [0x62B]),
  (0xFE9D, 0xFEA0, .replace [0x62C]), (0xFEA1, 0xFEA4, .replace [0x62D]), (0xFEA5, 0xFEA8, .replace [0x62E]),
  (0xFEA9, 0xFEAA, .replace [0x62F]), (0xFEAB, 0xFEAC, .replace [0x630]), (0xFEAD, 0xFEAE, .replace [0x631]),
  (0xFEAF, 0xFEB0, .replace [0x632]), (0xFEB1, 0xFEB4, .replace [0x633]), (0xFEB5, 0xFEB8, .replace [0x634]),
  (0xFEB9, 0xFEBC, .replace [0x635]), (0xFEBD, 0xFEC0, .replace [0x636]), (0xFEC1, 0xFEC4, .replace [0x637]),
  (0xFEC5, 0xFEC8, .replace [0x638]), (0xFEC9, 0xFECC, .replace [0x639]), (0xFECD, 0xFED0, .replace [0x63A]),
  (0xFED1, 0xFED4, .replace [0x641]), (0xFED5, 0xFED8, .replace [0x642]), (0xFED9, 0xFEDC, .replace [0x643]),
  (0xFEDD, 0xFEE0, .replace [0x644]), (0xFEE1, 0xFEE4, .replace [0x645]), (0xFEE5, 0xFEE8, .replace [0x646]),
  (0xFEE9, 0xFEEC, .replace [0x647]), (0xFEED, 0xFEEE, .replace [0x648]), (0xFEEF, 0xFEF0, .replace [0x649]),
  (0xFEF1, 0xFEF4, .replace [0x64A]), (0xFEF5, 0xFEF6, .replace [0x644, 0x622]), (0xFEF7, 0xFEF8, .replace [0x644, 0x623]),
  (0xFEF9, 0xFEFA, .replace [0x644, 0x625]), (0xFEFB, 0xFEFC, .replace [0x644, 0x627]), (0xFEFD, 0xFEFE, .disallowed),
  (0xFEFF, 0xFEFF, .ignored), (0xFF00, 0xFF00, .disallowed), (0xFF01, 0xFF20, .shift 1 (-65248)),
  (0xFF21, 0xFF3A, .shift 1 (-65216)), (0xFF3B, 0xFF5E, .shift 1 (-65248)), (0xFF5F, 0xFF60, .shift 1 (-54746)),
  (0xFF61, 0xFF61, .shift 1 (-65331)), (0xFF62, 0xFF63, .shift 1 (-53078)), (0xFF64, 0xFF64, .shift 1 (-53091)),
  (0xFF65, 0xFF65, .shift 1 (-52842)), (0xFF66, 0xFF66, .shift 1 (-52852)), (0xFF67, 0xFF67, .shift 1 (-52934)),
  (0xFF68, 0xFF68, .shift 1 (-52933)), (0xFF69, 0xFF69, .shift 1 (-52932)), (0xFF6A, 0xFF6A, .shift 1 (-52931)),
  (0xFF6B, 0xFF6B, .shift 1 (-52930)), (0xFF6C, 0xFF6C, .shift 1 (-52873)), (0xFF6D, 0xFF6D, .shift 1 (-52872)),
  (0xFF6E, 0xFF6E, .shift 1 (-52871)), (0xFF6F, 0xFF6F, .shift 1 (-52908)), (0xFF70, 0xFF70, .shift 1 (-52852)),
  (0xFF71, 0xFF71, .shift 1 (-52943)), (0xFF72, 0xFF72, .shift 1 (-52942)), (0xFF73, 0xFF73, .shift 1 (-52941)),
  (0xFF74, 0xFF74, .shift 1 (-52940)), (0xFF75, 0xFF76, .shift 1 (-52939)), (0xFF77, 0xFF77, .shift 1 (-52938)),
  (0xFF78, 0xFF78, .shift 1 (-52937)), (0xFF79, 0xFF79, .shift 1 (-52936)), (0xFF7A, 0xFF7A, .shift 1 (-52935)),
  (0xFF7B, 0xFF7B, .shift 1 (-52934)), (0xFF7C, 0xFF7C, .shift 1 (-52933)), (0xFF7D, 0xFF7D, .shift 1 (-52932)),
  (0xFF7E, 0xFF7E, .shift 1 (-52931)), (0xFF7F, 0xFF7F, .shift 1 (-52930)), (0xFF80, 0xFF80, .shift 1 (-52929)),
  (0xFF81, 0xFF81, .shift 1 (-52928)), (0xFF82, 0xFF82, .shift 1 (-52926)), (0xFF83, 0xFF83, .shift 1 (-52925)),
  (0xFF84, 0xFF84, .shift 1 (-52924)), (0xFF85, 0xFF8A, .shift 1 (-52923)), (0xFF8B, 0xFF8B, .shift 1 (-52921)),
  (0xFF8C, 0xFF8C, .shift 1 (-52919)), (0xFF8D, 0xFF8D, .shift 1 (-52917)), (0xFF8E, 0xFF8E, .shift 1 (-52915)),
  (0xFF8F, 0xFF93, .shift 1 (-52913)), (0xFF94, 0xFF94, .shift 1 (-52912)), (0xFF95, 0xFF95, .shift 1 (-52911)),
  (0xFF96, 0xFF9B, .shift 1 (-52910)), (0xFF9C, 0xFF9C, .shift 1 (-52909)), (0xFF9D, 0xFF9D, .shift 1 (-52906)),
  (0xFF9E, 0xFF9F, .shift 1 (-52997)), (0xFFA0, 0xFFA0, .ignored), (0xFFA1, 0xFFA2, .shift 1 (-61089)),
  (0xFFA3, 0xFFA3, .shift 1 (-60921)), (0xFFA4, 0xFFA4, .shift 1 (-61090)), (0xFFA5, 0xFFA6, .shift 1 (-60921)),
  (0xFFA7, 0xFFA9, .shift 1 (-61092)), (0xFFAA, 0xFFAF, .shift 1 (-60922)), (0xFFB0, 0xFFB0, .shift 1 (-61078)),
  (0xFFB1, 0xFFB3, .shift 1 (-61099)), (0xFFB4, 0xFFB4, .shift 1 (-61075)), (0xFFB5, 0xFFBE, .shift 1 (-61100)),
  (0xFFBF, 0xFFC1, .disallowed), (0xFFC2, 0xFFC7, .shift 1 (-61025)), (0xFFC8, 0xFFC9, .disallowed),
  (0xFFCA, 0xFFCF, .shift 1 (-61027)), (0xFFD0, 0xFFD1, .disallowed), (0xFFD2, 0xFFD7, .shift 1 (-61029)),
  (0xFFD8, 0xFFD9, .disallowed), (0xFFDA, 0xFFDC, .shift 1 (-61031)), (0xFFDD, 0xFFDF, .disallowed),
  (0xFFE0, 0xFFE1, .shift 1 (-65342)), (0xFFE2, 0xFFE2, .shift 1 (-65334)), (0xFFE3, 0xFFE3, .replace [0x20, 0x304]),
  (0xFFE4, 0xFFE4, .shift 1 (-65342)), (0xFFE5, 0xFFE5, .shift 1 (-65344)), (0xFFE6, 0xFFE6, .shift 1 (-57149)),
  (0xFFE7, 0xFFE7, .disallowed), (0xFFE8, 0xFFE8, .shift 1 (-56038)), (0xFFE9, 0xFFEC, .shift 1 (-56921)),
  (0xFFED, 0xFFED, .shift 1 (-55885)), (0xFFEE, 0xFFEE, .shift 1 (-55843)), (0xFFEF, 0xFFFF, .disallowed),
  (0x1000C, 0x1000C, .disallowed), (0x10027, 0x10027, .disallowed), (0x1003B, 0x1003B, .disallowed),
  (0x1003E, 0x1003E, .disallowed), (0x1004E, 0x1004F, .disallowed), (0x1005E, 0x1007F, .disallowed),
  (0x100FB, 0x100FF, .disallowed), (0x10103, 0x10106, .disallowed), (0x10134, 0x10136, .disallowed),
  (0x1018F, 0x1018F, .disallowed), (0x1019D, 0x1019F, .disallowed), (0x101A1, 0x101CF, .disallowed),
  (0x101FE, 0x1027F, .disallowed), (0x1029D, 0x1029F, .disallowed), (0x102D1, 0x102DF, .disallowed),
  (0x102FC, 0x102FF, .disallowed), (0x10324, 0x1032C, .disallowed), (0x1034B, 0x1034F, .disallowed),
  (0x1037B, 0x1037F, .disallowed), (0x1039E, 0x1039E, .disallowed), (0x103C4, 0x103C7, .disallowed),
  (0x103D6, 0x103FF, .disallowed), (0x10400, 0x10427, .shift 1 (40)), (0x1049E, 0x1049F, .disallowed),
  (0x104AA, 0x104AF, .disallowed), (0x104B0, 0x104D3, .shift 1 (40)), (0x104D4, 0x104D7, .disallowed),
  (0x104FC, 0x104FF, .disallowed), (0x10528, 0x1052F, .disallowed), (0x10564, 0x1056E, .disallowed),
  (0x10570, 0x1057A, .shift 1 (39)), (0x1057B, 0x1057B, .disallowed), (0x1057C, 0x1058A, .shift 1 (39)),
  (0x1058B, 0x1058B, .disallowed), (0x1058C, 0x10592, .shift 1 (39)), (0x10593, 0x10593, .disallowed),
  (0x10594, 0x10595, .shift 1 (39)), (0x10596, 0x10596, .disallowed), (0x105A2, 0x105A2, .disallowed),
  (0x105B2, 0x105B2, .disallowed), (0x105BA, 0x105BA, .disallowed), (0x105BD, 0x105BF, .disallowed),
  (0x105F4, 0x105FF, .disallowed), (0x10737, 0x1073F, .disallowed), (0x10756, 0x1075F, .disallowed),
  (0x10768, 0x1077F, .disallowed), (0x10781, 0x10782, .shift 1 (-66737)), (0x10783, 0x10783, .shift 1 (-67229)),
  (0x10784, 0x10784, .shift 1 (-66795)), (0x10785, 0x10785, .shift 1 (-66866)), (0x10786, 0x10786, .disallowed),
  (0x10787, 0x10787, .shift 1 (-66788)), (0x10788, 0x10788, .shift 1 (-23586)), (0x10789, 0x10789, .shift 1 (-66788)),
  (0x1078A, 0x1078A, .shift 1 (-66790)), (0x1078B, 0x1078C, .shift 1 (-66869)), (0x1078D, 0x1078D, .shift 1 (-59900)),
  (0x1078E, 0x1078E, .shift 1 (-66870)), (0x1078F, 0x1078F, .shift 1 (-66865)), (0x10790, 0x10790, .shift 1 (-66791)),
  (0x10791, 0x10791, .shift 1 (-66861)), (0x10792, 0x10792, .shift 1 (-66864)), (0x10793, 0x10793, .shift 1 (-66867)),
  (0x10794, 0x10794, .shift 1 (-66809)), (0x10795, 0x10795, .shift 1 (-67182)), (0x10796, 0x10796, .shift 1 (-66810)),
  (0x10797, 0x10797, .shift 1 (-66864)), (0x10798, 0x10798, .shift 1 (-66836)), (0x10799, 0x1079A, .shift 1 (-66799)),
  (0x1079B, 0x1079B, .shift 1 (-66863)), (0x1079C, 0x1079C, .shift 1 (55144)), (0x1079D, 0x1079D, .shift 1 (-24591)),
  (0x1079E, 0x1079E, .shift 1 (-66864)), (0x1079F, 0x1079F, .shift 1 (55142)), (0x107A0, 0x107A0, .shift 1 (-66834))]

def idnaRulesThird : Array (Nat × Nat × IdnaRule) := #[
  (0x107A1, 0x107A1, .shift 1 (55141)), (0x107A2, 0x107A2, .shift 1 (-67242)), (0x107A3, 0x107A4, .shift 1 (-66861)),
  (0x107A5, 0x107A5, .shift 1 (-67380)), (0x107A6, 0x107A6, .shift 1 (-66860)), (0x107A7, 0x107A7, .shift 1 (55137)),
  (0x107A8, 0x107A9, .shift 1 (-66859)), (0x107AA, 0x107AA, .shift 1 (-66858)), (0x107AB, 0x107AB, .shift 1 (-66819)),
  (0x107AC, 0x107AC, .shift 1 (-66822)), (0x107AD, 0x107AD, .shift 1 (-23622)), (0x107AE, 0x107AE, .shift 1 (-66823)),
  (0x107AF, 0x107AF, .shift 1 (-66855)), (0x107B0, 0x107B0, .shift 1 (-56127)), (0x107B1, 0x107B1, .disallowed),
  (0x107B2, 0x107B2, .shift 1 (-66851)), (0x107B3, 0x107B4, .shift 1 (-66834)), (0x107B5, 0x107B5, .shift 1 (-66845)),
  (0x107B6, 0x107B8, .shift 1 (-67062)), (0x107B9, 0x107B9, .shift 1 (55121)), (0x107BA, 0x107BA, .shift 1 (55140)),
  (0x107BB, 0x107FF, .disallowed), (0x10806, 0x10807, .disallowed), (0x10809, 0x10809, .disallowed),
  (0x10836, 0x10836, .disallowed), (0x10839, 0x1083B, .disallowed), (0x1083D, 0x1083E, .disallowed),
  (0x10856, 0x10856, .disallowed), (0x1089F, 0x108A6, .disallowed), (0x108B0, 0x108DF, .disallowed),
  (0x108F3, 0x108F3, .disallowed), (0x108F6, 0x108FA, .disallowed), (0x1091C, 0x1091E, .disallowed),
  (0x1093A, 0x1093E, .disallowed), (0x1095A, 0x1097F, .disallowed), (0x109B8, 0x109BB, .disallowed),
  (0x109D0, 0x109D1, .disallowed), (0x10A04, 0x10A04, .disallowed), (0x10A07, 0x10A0B, .disallowed),
  (0x10A14, 0x10A14, .disallowed), (0x10A18, 0x10A18, .disallowed), (0x10A36, 0x10A37, .disallowed),
  (0x10A3B, 0x10A3E, .disallowed), (0x10A49, 0x10A4F, .disallowed), (0x10A59, 0x10A5F, .disallowed),
  (0x10AA0, 0x10ABF, .disallowed), (0x10AE7, 0x10AEA, .disallowed), (0x10AF7, 0x10AFF, .disallowed),
  (0x10B36, 0x10B38, .disallowed), (0x10B56, 0x10B57, .disallowed), (0x10B73, 0x10B77, .disallowed),
  (0x10B92, 0x10B98, .disallowed), (0x10B9D, 0x10BA8, .disallowed), (0x10BB0, 0x10BFF, .disallowed),
  (0x10C49, 0x10C7F, .disallowed), (0x10C80, 0x10CB2, .shift 1 (64)), (0x10CB3, 0x10CBF, .disallowed),
  (0x10CF3, 0x10CF9, .disallowed), (0x10D28, 0x10D2F, .disallowed), (0x10D3A, 0x10D3F, .disallowed),
  (0x10D50, 0x10D65, .shift 1 (32)), (0x10D66, 0x10D68, .disallowed), (0x10D86, 0x10D8D, .disallowed),
  (0x10D90, 0x10E5F, .disallowed), (0x10E7F, 0x10E7F, .disallowed), (0x10EAA, 0x10EAA, .disallowed),
  (0x10EAE, 0x10EAF, .disallowed), (0x10EB2, 0x10EC1, .disallowed), (0x10EC8, 0x10ECF, .disallowed),
  (0x10ED9, 0x10EF9, .disallowed), (0x10F28, 0x10F2F, .disallowed), (0x10F5A, 0x10F6F, .disallowed),
  (0x10F8A, 0x10FAF, .disallowed), (0x10FCC, 0x10FDF, .disallowed), (0x10FF7, 0x10FFF, .disallowed),
  (0x1104E, 0x11051, .disallowed), (0x11076, 0x1107E, .disallowed), (0x110BD, 0x110BD, .disallowed),
  (0x110C3, 0x110CF, .disallowed), (0x110E9, 0x110EF, .disallowed), (0x110FA, 0x110FF, .disallowed),
  (0x11135, 0x11135, .disallowed), (0x11148, 0x1114F, .disallowed), (0x11177, 0x1117F, .disallowed),
  (0x111E0, 0x111E0, .disallowed), (0x111F5, 0x111FF, .disallowed), (0x11212, 0x11212, .disallowed),
  (0x11242, 0x1127F, .disallowed), (0x11287, 0x11287, .disallowed), (0x11289, 0x11289, .disallowed),
  (0x1128E, 0x1128E, .disallowed), (0x1129E, 0x1129E, .disallowed), (0x112AA, 0x112AF, .disallowed),
  (0x112EB, 0x112EF, .disallowed), (0x112FA, 0x112FF, .disallowed), (0x11304, 0x11304, .disallowed),
  (0x1130D, 0x1130E, .disallowed), (0x11311, 0x11312, .disallowed), (0x11329, 0x11329, .disallowed),
  (0x11331, 0x11331, .disallowed), (0x11334, 0x11334, .disallowed), (0x1133A, 0x1133A, .disallowed),
  (0x11345, 0x11346, .disallowed), (0x11349, 0x1134A, .disallowed), (0x1134E, 0x1134F, .disallowed),
  (0x11351, 0x11356, .disallowed), (0x11358, 0x1135C, .disallowed), (0x11364, 0x11365, .disallowed),
  (0x1136D, 0x1136F, .disallowed), (0x11375, 0x1137F, .disallowed), (0x1138A, 0x1138A, .disallowed),
  (0x1138C, 0x1138D, .disallowed), (0x1138F, 0x1138F, .disallowed), (0x113B6, 0x113B6, .disallowed),
  (0x113C1, 0x113C1, .disallowed), (0x113C3, 0x113C4, .disallowed), (0x113C6, 0x113C6, .disallowed),
  (0x113CB, 0x113CB, .disallowed), (0x113D6, 0x113D6, .disallowed), (0x113D9, 0x113E0, .disallowed),
  (0x113E3, 0x113FF, .disallowed), (0x1145C, 0x1145C, .disallowed), (0x11462, 0x1147F, .disallowed),
  (0x114C8, 0x114CF, .disallowed), (0x114DA, 0x1157F, .disallowed), (0x115B6, 0x115B7, .disallowed),
  (0x115DE, 0x115FF, .disallowed), (0x11645, 0x1164F, .disallowed), (0x1165A, 0x1165F, .disallowed),
  (0x1166D, 0x1167F, .disallowed), (0x116BA, 0x116BF, .disallowed), (0x116CA, 0x116CF, .disallowed),
  (0x116E4, 0x116FF, .disallowed), (0x1171B, 0x1171C, .disallowed), (0x1172C, 0x1172F, .disallowed),
  (0x11747, 0x117FF, .disallowed), (0x1183C, 0x1189F, .disallowed), (0x118A0, 0x118BF, .shift 1 (32)),
  (0x118F3, 0x118FE, .disallowed), (0x11907, 0x11908, .disallowed), (0x1190A, 0x1190B, .disallowed),
  (0x11914, 0x11914, .disallowed), (0x11917, 0x11917, .disallowed), (0x11936, 0x11936, .disallowed),
  (0x11939, 0x1193A, .disallowed), (0x11947, 0x1194F, .disallowed), (0x1195A, 0x1199F, .disallowed),
  (0x119A8, 0x119A9, .disallowed), (0x119D8, 0x119D9, .disallowed), (0x119E5, 0x119FF, .disallowed),
  (0x11A48, 0x11A4F, .disallowed), (0x11AA3, 0x11AAF, .disallowed), (0x11AF9, 0x11AFF, .disallowed),
  (0x11B0A, 0x11B5F, .disallowed), (0x11B68, 0x11BBF, .disallowed), (0x11BE2, 0x11BEF, .disallowed),
  (0x11BFA, 0x11BFF, .disallowed), (0x11C09, 0x11C09, .disallowed), (0x11C37, 0x11C37, .disallowed),
  (0x11C46, 0x11C4F, .disallowed), (0x11C6D, 0x11C6F, .disallowed), (0x11C90, 0x11C91, .disallowed),
  (0x11CA8, 0x11CA8, .disallowed), (0x11CB7, 0x11CFF, .disallowed), (0x11D07, 0x11D07, .disallowed),
  (0x11D0A, 0x11D0A, .disallowed), (0x11D37, 0x11D39, .disallowed), (0x11D3B, 0x11D3B, .disallowed),
  (0x11D3E, 0x11D3E, .disallowed), (0x11D48, 0x11D4F, .disallowed), (0x11D5A, 0x11D5F, .disallowed),
  (0x11D66, 0x11D66, .disallowed), (0x11D69, 0x11D69, .disallowed), (0x11D8F, 0x11D8F, .disallowed),
  (0x11D92, 0x11D92, .disallowed), (0x11D99, 0x11D9F, .disallowed), (0x11DAA, 0x11DAF, .disallowed),
  (0x11DDC, 0x11DDF, .disallowed), (0x11DEA, 0x11EDF, .disallowed), (0x11EF9, 0x11EFF, .disallowed),
  (0x11F11, 0x11F11, .disallowed), (0x11F3B, 0x11F3D, .disallowed), (0x11F5B, 0x11FAF, .disallowed),
  (0x11FB1, 0x11FBF, .disallowed), (0x11FF2, 0x11FFE, .disallowed), (0x1239A, 0x123FF, .disallowed),
  (0x1246F, 0x1246F, .disallowed), (0x12475, 0x1247F, .disallowed), (0x12544, 0x12F8F, .disallowed),
  (0x12FF3, 0x12FFF, .disallowed), (0x13430, 0x1343F, .disallowed), (0x13456, 0x1345F, .disallowed),
  (0x143FB, 0x143FF, .disallowed), (0x14647, 0x160FF, .disallowed), (0x1613A, 0x167FF, .disallowed),
  (0x16A39, 0x16A3F, .disallowed), (0x16A5F, 0x16A5F, .disallowed), (0x16A6A, 0x16A6D, .disallowed),
  (0x16ABF, 0x16ABF, .disallowed), (0x16ACA, 0x16ACF, .disallowed), (0x16AEE, 0x16AEF, .disallowed),
  (0x16AF6, 0x16AFF, .disallowed), (0x16B46, 0x16B4F, .disallowed), (0x16B5A, 0x16B5A, .disallowed),
  (0x16B62, 0x16B62, .disallowed), (0x16B78, 0x16B7C, .disallowed), (0x16B90, 0x16D3F, .disallowed),
  (0x16D7A, 0x16E3F, .disallowed), (0x16E40, 0x16E5F, .shift 1 (32)), (0x16E9B, 0x16E9F, .disallowed),
  (0x16EA0, 0x16EB8, .shift 1 (27)), (0x16EB9, 0x16EBA, .disallowed), (0x16ED4, 0x16EFF, .disallowed),
  (0x16F4B, 0x16F4E, .disallowed), (0x16F88, 0x16F8E, .disallowed), (0x16FA0, 0x16FDF, .disallowed),
  (0x16FE5, 0x16FEF, .disallowed), (0x16FF7, 0x16FFF, .disallowed), (0x18CD6, 0x18CFE, .disallowed),
  (0x18D1F, 0x18D7F, .disallowed), (0x18DF3, 0x1AFEF, .disallowed), (0x1AFF4, 0x1AFF4, .disallowed),
  (0x1AFFC, 0x1AFFC, .disallowed), (0x1AFFF, 0x1AFFF, .disallowed), (0x1B123, 0x1B131, .disallowed),
  (0x1B133, 0x1B14F, .disallowed), (0x1B153, 0x1B154, .disallowed), (0x1B156, 0x1B163, .disallowed),
  (0x1B168, 0x1B16F, .disallowed), (0x1B2FC, 0x1BBFF, .disallowed), (0x1BC6B, 0x1BC6F, .disallowed),
  (0x1BC7D, 0x1BC7F, .disallowed), (0x1BC89, 0x1BC8F, .disallowed), (0x1BC9A, 0x1BC9B, .disallowed),
  (0x1BCA0, 0x1BCA3, .ignored), (0x1BCA4, 0x1CBFF, .disallowed), (0x1CCD6, 0x1CCEF, .shift 1 (-117877)),
  (0x1CCF0, 0x1CCF9, .shift 1 (-117952)), (0x1CCFD, 0x1CCFF, .disallowed), (0x1CEB4, 0x1CEB9, .disallowed),
  (0x1CED1, 0x1CEDF, .disallowed), (0x1CEF1, 0x1CEFF, .disallowed), (0x1CF2E, 0x1CF2F, .disallowed),
  (0x1CF47, 0x1CF4F, .disallowed), (0x1CFC4, 0x1CFFF, .disallowed), (0x1D0F6, 0x1D0FF, .disallowed),
  (0x1D127, 0x1D128, .disallowed), (0x1D15E, 0x1D15E, .replace [0x1D157, 0x1D165]), (0x1D15F, 0x1D15F, .replace [0x1D158, 0x1D165]),
  (0x1D160, 0x1D160, .replace [0x1D158, 0x1D165, 0x1D16E]), (0x1D161, 0x1D161, .replace [0x1D158, 0x1D165, 0x1D16F]), (0x1D162, 0x1D162, .replace [0x1D158, 0x1D165, 0x1D170]),
  (0x1D163, 0x1D163, .replace [0x1D158, 0x1D165, 0x1D171]), (0x1D164, 0x1D164, .replace [0x1D158, 0x1D165, 0x1D172]), (0x1D173, 0x1D17A, .ignored),
  (0x1D1BB, 0x1D1BB, .replace [0x1D1B9, 0x1D165]), (0x1D1BC, 0x1D1BC, .replace [0x1D1BA, 0x1D165]), (0x1D1BD, 0x1D1BD, .replace [0x1D1B9, 0x1D165, 0x1D16E]),
  (0x1D1BE, 0x1D1BE, .replace [0x1D1BA, 0x1D165, 0x1D16E]), (0x1D1BF, 0x1D1BF, .replace [0x1D1B9, 0x1D165, 0x1D16F]), (0x1D1C0, 0x1D1C0, .replace [0x1D1BA, 0x1D165, 0x1D16F]),
  (0x1D1EB, 0x1D1FF, .disallowed), (0x1D246, 0x1D2BF, .disallowed), (0x1D2D4, 0x1D2DF, .disallowed),
  (0x1D2F4, 0x1D2FF, .disallowed), (0x1D357, 0x1D35F, .disallowed), (0x1D379, 0x1D3FF, .disallowed),
  (0x1D400, 0x1D419, .shift 1 (-119711)), (0x1D41A, 0x1D433, .shift 1 (-119737)), (0x1D434, 0x1D44D, .shift 1 (-119763)),
  (0x1D44E, 0x1D454, .shift 1 (-119789)), (0x1D455, 0x1D455, .disallowed), (0x1D456, 0x1D467, .shift 1 (-119789)),
  (0x1D468, 0x1D481, .shift 1 (-119815)), (0x1D482, 0x1D49B, .shift 1 (-119841)), (0x1D49C, 0x1D49C, .shift 1 (-119867)),
  (0x1D49D, 0x1D49D, .disallowed), (0x1D49E, 0x1D49F, .shift 1 (-119867)), (0x1D4A0, 0x1D4A1, .disallowed),
  (0x1D4A2, 0x1D4A2, .shift 1 (-119867)), (0x1D4A3, 0x1D4A4, .disallowed), (0x1D4A5, 0x1D4A6, .shift 1 (-119867)),
  (0x1D4A7, 0x1D4A8, .disallowed), (0x1D4A9, 0x1D4AC, .shift 1 (-119867)), (0x1D4AD, 0x1D4AD, .disallowed),
  (0x1D4AE, 0x1D4B5, .shift 1 (-119867)), (0x1D4B6, 0x1D4B9, .shift 1 (-119893)), (0x1D4BA, 0x1D4BA, .disallowed),
  (0x1D4BB, 0x1D4BB, .shift 1 (-119893)), (0x1D4BC, 0x1D4BC, .disallowed), (0x1D4BD, 0x1D4C3, .shift 1 (-119893)),
  (0x1D4C4, 0x1D4C4, .disallowed), (0x1D4C5, 0x1D4CF, .shift 1 (-119893)), (0x1D4D0, 0x1D4E9, .shift 1 (-119919)),
  (0x1D4EA, 0x1D503, .shift 1 (-119945)), (0x1D504, 0x1D505, .shift 1 (-119971)), (0x1D506, 0x1D506, .disallowed),
  (0x1D507, 0x1D50A, .shift 1 (-119971)), (0x1D50B, 0x1D50C, .disallowed), (0x1D50D, 0x1D514, .shift 1 (-119971)),
  (0x1D515, 0x1D515, .disallowed), (0x1D516, 0x1D51C, .shift 1 (-119971)), (0x1D51D, 0x1D51D, .disallowed),
  (0x1D51E, 0x1D537, .shift 1 (-119997)), (0x1D538, 0x1D539, .shift 1 (-120023)), (0x1D53A, 0x1D53A, .disallowed),
  (0x1D53B, 0x1D53E, .shift 1 (-120023)), (0x1D53F, 0x1D53F, .disallowed), (0x1D540, 0x1D544, .shift 1 (-120023)),
  (0x1D545, 0x1D545, .disallowed), (0x1D546, 0x1D546, .shift 1 (-120023)), (0x1D547, 0x1D549, .disallowed),
  (0x1D54A, 0x1D550, .shift 1 (-120023)), (0x1D551, 0x1D551, .disallowed), (0x1D552, 0x1D56B, .shift 1 (-120049)),
  (0x1D56C, 0x1D585, .shift 1 (-120075)), (0x1D586, 0x1D59F, .shift 1 (-120101)), (0x1D5A0, 0x1D5B9, .shift 1 (-120127)),
  (0x1D5BA, 0x1D5D3, .shift 1 (-120153)), (0x1D5D4, 0x1D5ED, .shift 1 (-120179)), (0x1D5EE, 0x1D607, .shift 1 (-120205)),
  (0x1D608, 0x1D621, .shift 1 (-120231)), (0x1D622, 0x1D63B, .shift 1 (-120257)), (0x1D63C, 0x1D655, .shift 1 (-120283)),
  (0x1D656, 0x1D66F, .shift 1 (-120309)), (0x1D670, 0x1D689, .shift 1 (-120335)), (0x1D68A, 0x1D6A3, .shift 1 (-120361)),
  (0x1D6A4, 0x1D6A4, .shift 1 (-120179)), (0x1D6A5, 0x1D6A5, .shift 1 (-119918)), (0x1D6A6, 0x1D6A7, .disallowed),
  (0x1D6A8, 0x1D6B8, .shift 1 (-119543)), (0x1D6B9, 0x1D6B9, .shift 1 (-119553)), (0x1D6BA, 0x1D6C0, .shift 1 (-119543)),
  (0x1D6C1, 0x1D6C1, .shift 1 (-111802)), (0x1D6C2, 0x1D6D2, .shift 1 (-119569)), (0x1D6D3, 0x1D6D4, .replace [0x3C3]),
  (0x1D6D5, 0x1D6DA, .shift 1 (-119569)), (0x1D6DB, 0x1D6DB, .shift 1 (-111833)), (0x1D6DC, 0x1D6DC, .shift 1 (-119591)),
  (0x1D6DD, 0x1D6DD, .shift 1 (-119589)), (0x1D6DE, 0x1D6DE, .shift 1 (-119588)), (0x1D6DF, 0x1D6DF, .shift 1 (-119577)),
  (0x1D6E0, 0x1D6E0, .shift 1 (-119583)), (0x1D6E1, 0x1D6E1, .shift 1 (-119585)), (0x1D6E2, 0x1D6F2, .shift 1 (-119601)),
  (0x1D6F3, 0x1D6F3, .shift 1 (-119611)), (0x1D6F4, 0x1D6FA, .shift 1 (-119601)), (0x1D6FB, 0x1D6FB, .shift 1 (-111860)),
  (0x1D6FC, 0x1D70C, .shift 1 (-119627)), (0x1D70D, 0x1D70E, .replace [0x3C3]), (0x1D70F, 0x1D714, .shift 1 (-119627)),
  (0x1D715, 0x1D715, .shift 1 (-111891)), (0x1D716, 0x1D716, .shift 1 (-119649)), (0x1D717, 0x1D717, .shift 1 (-119647)),
  (0x1D718, 0x1D718, .shift 1 (-119646)), (0x1D719, 0x1D719, .shift 1 (-119635)), (0x1D71A, 0x1D71A, .shift 1 (-119641)),
  (0x1D71B, 0x1D71B, .shift 1 (-119643)), (0x1D71C, 0x1D72C, .shift 1 (-119659)), (0x1D72D, 0x1D72D, .shift 1 (-119669)),
  (0x1D72E, 0x1D734, .shift 1 (-119659)), (0x1D735, 0x1D735, .shift 1 (-111918)), (0x1D736, 0x1D746, .shift 1 (-119685)),
  (0x1D747, 0x1D748, .replace [0x3C3]), (0x1D749, 0x1D74E, .shift 1 (-119685)), (0x1D74F, 0x1D74F, .shift 1 (-111949)),
  (0x1D750, 0x1D750, .shift 1 (-119707)), (0x1D751, 0x1D751, .shift 1 (-119705)), (0x1D752, 0x1D752, .shift 1 (-119704)),
  (0x1D753, 0x1D753, .shift 1 (-119693)), (0x1D754, 0x1D754, .shift 1 (-119699)), (0x1D755, 0x1D755, .shift 1 (-119701)),
  (0x1D756, 0x1D766, .shift 1 (-119717)), (0x1D767, 0x1D767, .shift 1 (-119727)), (0x1D768, 0x1D76E, .shift 1 (-119717)),
  (0x1D76F, 0x1D76F, .shift 1 (-111976)), (0x1D770, 0x1D780, .shift 1 (-119743)), (0x1D781, 0x1D782, .replace [0x3C3]),
  (0x1D783, 0x1D788, .shift 1 (-119743)), (0x1D789, 0x1D789, .shift 1 (-112007)), (0x1D78A, 0x1D78A, .shift 1 (-119765)),
  (0x1D78B, 0x1D78B, .shift 1 (-119763)), (0x1D78C, 0x1D78C, .shift 1 (-119762)), (0x1D78D, 0x1D78D, .shift 1 (-119751)),
  (0x1D78E, 0x1D78E, .shift 1 (-119757)), (0x1D78F, 0x1D78F, .shift 1 (-119759)), (0x1D790, 0x1D7A0, .shift 1 (-119775)),
  (0x1D7A1, 0x1D7A1, .shift 1 (-119785)), (0x1D7A2, 0x1D7A8, .shift 1 (-119775)), (0x1D7A9, 0x1D7A9, .shift 1 (-112034)),
  (0x1D7AA, 0x1D7BA, .shift 1 (-119801)), (0x1D7BB, 0x1D7BC, .replace [0x3C3]), (0x1D7BD, 0x1D7C2, .shift 1 (-119801)),
  (0x1D7C3, 0x1D7C3, .shift 1 (-112065)), (0x1D7C4, 0x1D7C4, .shift 1 (-119823)), (0x1D7C5, 0x1D7C5, .shift 1 (-119821)),
  (0x1D7C6, 0x1D7C6, .shift 1 (-119820)), (0x1D7C7, 0x1D7C7, .shift 1 (-119809)), (0x1D7C8, 0x1D7C8, .shift 1 (-119815)),
  (0x1D7C9, 0x1D7C9, .shift 1 (-119817)), (0x1D7CA, 0x1D7CB, .replace [0x3DD]), (0x1D7CC, 0x1D7CD, .disallowed),
  (0x1D7CE, 0x1D7D7, .shift 1 (-120734)), (0x1D7D8, 0x1D7E1, .shift 1 (-120744)), (0x1D7E2, 0x1D7EB, .shift 1 (-120754)),
  (0x1D7EC, 0x1D7F5, .shift 1 (-120764)), (0x1D7F6, 0x1D7FF, .shift 1 (-120774)), (0x1DA8C, 0x1DA9A, .disallowed),
  (0x1DAA0, 0x1DAA0, .disallowed), (0x1DAB0, 0x1DEFF, .disallowed), (0x1DF1F, 0x1DF24, .disallowed),
  (0x1DF2B, 0x1DFFF, .disallowed), (0x1E007, 0x1E007, .disallowed), (0x1E019, 0x1E01A, .disallowed),
  (0x1E022, 0x1E022, .disallowed), (0x1E025, 0x1E025, .disallowed), (0x1E02B, 0x1E02F, .disallowed),
  (0x1E030, 0x1E038, .shift 1 (-121856)), (0x1E039, 0x1E03B, .shift 1 (-121855)), (0x1E03C, 0x1E046, .shift 1 (-121854)),
  (0x1E047, 0x1E047, .shift 1 (-121852)), (0x1E048, 0x1E049, .shift 1 (-121851)), (0x1E04A, 0x1E04A, .shift 1 (-80321)),
  (0x1E04B, 0x1E04B, .shift 1 (-121714)), (0x1E04C, 0x1E04C, .shift 1 (-121846)), (0x1E04D, 0x1E04D, .shift 1 (-121845)),
  (0x1E04E, 0x1E04E, .shift 1 (-121701)), (0x1E04F, 0x1E04F, .shift 1 (-121760)), (0x1E050, 0x1E050, .shift 1 (-121729)),
  (0x1E051, 0x1E059, .shift 1 (-121889)), (0x1E05A, 0x1E05B, .shift 1 (-121888)), (0x1E05C, 0x1E05D, .shift 1 (-121886)),
  (0x1E05E, 0x1E05E, .shift 1 (-121885)), (0x1E05F, 0x1E064, .shift 1 (-121884)), (0x1E065, 0x1E066, .shift 1 (-121883)),
  (0x1E067, 0x1E067, .shift 1 (-121814)), (0x1E068, 0x1E068, .shift 1 (-121874)), (0x1E069, 0x1E069, .shift 1 (-121876)),
  (0x1E06A, 0x1E06A, .shift 1 (-121867)), (0x1E06B, 0x1E06B, .shift 1 (-121792)), (0x1E06C, 0x1E06C, .shift 1 (-80411)),
  (0x1E06D, 0x1E06D, .shift 1 (-121788)), (0x1E06E, 0x1E08E, .disallowed), (0x1E090, 0x1E0FF, .disallowed),
  (0x1E12D, 0x1E12F, .disallowed), (0x1E13E, 0x1E13F, .disallowed), (0x1E14A, 0x1E14D, .disallowed),
  (0x1E150, 0x1E28F, .disallowed), (0x1E2AF, 0x1E2BF, .disallowed), (0x1E2FA, 0x1E2FE, .disallowed),
  (0x1E300, 0x1E4CF, .disallowed), (0x1E4FA, 0x1E5CF, .disallowed), (0x1E5FB, 0x1E5FE, .disallowed),
  (0x1E600, 0x1E6BF, .disallowed), (0x1E6DF, 0x1E6DF, .disallowed), (0x1E6F6, 0x1E6FD, .disallowed),
  (0x1E700, 0x1E7DF, .disallowed), (0x1E7E7, 0x1E7E7, .disallowed), (0x1E7EC, 0x1E7EC, .disallowed),
  (0x1E7EF, 0x1E7EF, .disallowed), (0x1E7FF, 0x1E7FF, .disallowed), (0x1E8C5, 0x1E8C6, .disallowed),
  (0x1E8D7, 0x1E8FF, .disallowed), (0x1E900, 0x1E921, .shift 1 (34)), (0x1E94C, 0x1E94F, .disallowed),
  (0x1E95A, 0x1E95D, .disallowed), (0x1E960, 0x1EC70, .disallowed), (0x1ECB5, 0x1ED00, .disallowed),
  (0x1ED3E, 0x1EDFF, .disallowed), (0x1EE00, 0x1EE01, .shift 1 (-124889)), (0x1EE02, 0x1EE02, .shift 1 (-124886)),
  (0x1EE03, 0x1EE03, .shift 1 (-124884)), (0x1EE04, 0x1EE04, .disallowed), (0x1EE05, 0x1EE05, .shift 1 (-124861)),
  (0x1EE06, 0x1EE06, .shift 1 (-124884)), (0x1EE07, 0x1EE07, .shift 1 (-124890)), (0x1EE08, 0x1EE08, .shift 1 (-124881)),
  (0x1EE09, 0x1EE09, .shift 1 (-124863)), (0x1EE0A, 0x1EE0D, .shift 1 (-124871)), (0x1EE0E, 0x1EE0E, .shift 1 (-124891)),
  (0x1EE0F, 0x1EE0F, .shift 1 (-124886)), (0x1EE10, 0x1EE10, .shift 1 (-124879)), (0x1EE11, 0x1EE11, .shift 1 (-124892)),
  (0x1EE12, 0x1EE12, .shift 1 (-124880)), (0x1EE13, 0x1EE13, .shift 1 (-124898)), (0x1EE14, 0x1EE14, .shift 1 (-124896)),
  (0x1EE15, 0x1EE16, .shift 1 (-124907)), (0x1EE17, 0x1EE17, .shift 1 (-124905)), (0x1EE18, 0x1EE18, .shift 1 (-124904)),
  (0x1EE19, 0x1EE19, .shift 1 (-124899)), (0x1EE1A, 0x1EE1A, .shift 1 (-124898)), (0x1EE1B, 0x1EE1B, .shift 1 (-124897)),
  (0x1EE1C, 0x1EE1C, .shift 1 (-124846)), (0x1EE1D, 0x1EE1D, .shift 1 (-124771)), (0x1EE1E, 0x1EE1E, .shift 1 (-124797)),
  (0x1EE1F, 0x1EE1F, .shift 1 (-124848)), (0x1EE20, 0x1EE20, .disallowed), (0x1EE21, 0x1EE21, .shift 1 (-124921)),
  (0x1EE22, 0x1EE22, .shift 1 (-124918)), (0x1EE23, 0x1EE23, .disallowed), (0x1EE24, 0x1EE24, .shift 1 (-124893)),
  (0x1EE25, 0x1EE26, .disallowed), (0x1EE27, 0x1EE27, .shift 1 (-124922)), (0x1EE28, 0x1EE28, .disallowed),
  (0x1EE29, 0x1EE29, .shift 1 (-124895)), (0x1EE2A, 0x1EE2D, .shift 1 (-124903)), (0x1EE2E, 0x1EE2E, .shift 1 (-124923)),
  (0x1EE2F, 0x1EE2F, .shift 1 (-124918)), (0x1EE30, 0x1EE30, .shift 1 (-124911)), (0x1EE31, 0x1EE31, .shift 1 (-124924)),
  (0x1EE32, 0x1EE32, .shift 1 (-124912)), (0x1EE33, 0x1EE33, .disallowed), (0x1EE34, 0x1EE34, .shift 1 (-124928)),
  (0x1EE35, 0x1EE36, .shift 1 (-124939)), (0x1EE37, 0x1EE37, .shift 1 (-124937)), (0x1EE38, 0x1EE38, .disallowed),
  (0x1EE39, 0x1EE39, .shift 1 (-124931)), (0x1EE3A, 0x1EE3A, .disallowed), (0x1EE3B, 0x1EE3B, .shift 1 (-124929)),
  (0x1EE3C, 0x1EE41, .disallowed), (0x1EE42, 0x1EE42, .shift 1 (-124950)), (0x1EE43, 0x1EE46, .disallowed),
  (0x1EE47, 0x1EE47, .shift 1 (-124954)), (0x1EE48, 0x1EE48, .disallowed), (0x1EE49, 0x1EE49, .shift 1 (-124927)),
  (0x1EE4A, 0x1EE4A, .disallowed), (0x1EE4B, 0x1EE4B, .shift 1 (-124935)), (0x1EE4C, 0x1EE4C, .disallowed),
  (0x1EE4D, 0x1EE4D, .shift 1 (-124935)), (0x1EE4E, 0x1EE4E, .shift 1 (-124955)), (0x1EE4F, 0x1EE4F, .shift 1 (-124950)),
  (0x1EE50, 0x1EE50, .disallowed), (0x1EE51, 0x1EE51, .shift 1 (-124956)), (0x1EE52, 0x1EE52, .shift 1 (-124944)),
  (0x1EE53, 0x1EE53, .disallowed), (0x1EE54, 0x1EE54, .shift 1 (-124960)), (0x1EE55, 0x1EE56, .disallowed),
  (0x1EE57, 0x1EE57, .shift 1 (-124969)), (0x1EE58, 0x1EE58, .disallowed), (0x1EE59, 0x1EE59, .shift 1 (-124963)),
  (0x1EE5A, 0x1EE5A, .disallowed), (0x1EE5B, 0x1EE5B, .shift 1 (-124961)), (0x1EE5C, 0x1EE5C, .disallowed),
  (0x1EE5D, 0x1EE5D, .shift 1 (-124835)), (0x1EE5E, 0x1EE5E, .disallowed), (0x1EE5F, 0x1EE5F, .shift 1 (-124912)),
  (0x1EE60, 0x1EE60, .disallowed), (0x1EE61, 0x1EE61, .shift 1 (-124985)), (0x1EE62, 0x1EE62, .shift 1 (-124982)),
  (0x1EE63, 0x1EE63, .disallowed), (0x1EE64, 0x1EE64, .shift 1 (-124957)), (0x1EE65, 0x1EE66, .disallowed),
  (0x1EE67, 0x1EE67, .shift 1 (-124986)), (0x1EE68, 0x1EE68, .shift 1 (-124977)), (0x1EE69, 0x1EE69, .shift 1 (-124959)),
  (0x1EE6A, 0x1EE6A, .shift 1 (-124967)), (0x1EE6B, 0x1EE6B, .disallowed), (0x1EE6C, 0x1EE6D, .shift 1 (-124967)),
  (0x1EE6E, 0x1EE6E, .shift 1 (-124987)), (0x1EE6F, 0x1EE6F, .shift 1 (-124982)), (0x1EE70, 0x1EE70, .shift 1 (-124975)),
  (0x1EE71, 0x1EE71, .shift 1 (-124988)), (0x1EE72, 0x1EE72, .shift 1 (-124976)), (0x1EE73, 0x1EE73, .disallowed),
  (0x1EE74, 0x1EE74, .shift 1 (-124992)), (0x1EE75, 0x1EE76, .shift 1 (-125003)), (0x1EE77, 0x1EE77, .shift 1 (-125001)),
  (0x1EE78, 0x1EE78, .disallowed), (0x1EE79, 0x1EE79, .shift 1 (-124995)), (0x1EE7A, 0x1EE7A, .shift 1 (-124994)),
  (0x1EE7B, 0x1EE7B, .shift 1 (-124993)), (0x1EE7C, 0x1EE7C, .shift 1 (-124942)), (0x1EE7D, 0x1EE7D, .disallowed),
  (0x1EE7E, 0x1EE7E, .shift 1 (-124893)), (0x1EE7F, 0x1EE7F, .disallowed), (0x1EE80, 0x1EE81, .shift 1 (-125017)),
  (0x1EE82, 0x1EE82, .shift 1 (-125014)), (0x1EE83, 0x1EE83, .shift 1 (-125012)), (0x1EE84, 0x1EE85, .shift 1 (-124989)),
  (0x1EE86, 0x1EE86, .shift 1 (-125012)), (0x1EE87, 0x1EE87, .shift 1 (-125018)), (0x1EE88, 0x1EE88, .shift 1 (-125009)),
  (0x1EE89, 0x1EE89, .shift 1 (-124991)), (0x1EE8A, 0x1EE8A, .disallowed), (0x1EE8B, 0x1EE8D, .shift 1 (-124999)),
  (0x1EE8E, 0x1EE8E, .shift 1 (-125019)), (0x1EE8F, 0x1EE8F, .shift 1 (-125014)), (0x1EE90, 0x1EE90, .shift 1 (-125007)),
  (0x1EE91, 0x1EE91, .shift 1 (-125020)), (0x1EE92, 0x1EE92, .shift 1 (-125008)), (0x1EE93, 0x1EE93, .shift 1 (-125026)),
  (0x1EE94, 0x1EE94, .shift 1 (-125024)), (0x1EE95, 0x1EE96, .shift 1 (-125035)), (0x1EE97, 0x1EE97, .shift 1 (-125033)),
  (0x1EE98, 0x1EE98, .shift 1 (-125032)), (0x1EE99, 0x1EE99, .shift 1 (-125027)), (0x1EE9A, 0x1EE9A, .shift 1 (-125026)),
  (0x1EE9B, 0x1EE9B, .shift 1 (-125025)), (0x1EE9C, 0x1EEA0, .disallowed), (0x1EEA1, 0x1EEA1, .shift 1 (-125049)),
  (0x1EEA2, 0x1EEA2, .shift 1 (-125046)), (0x1EEA3, 0x1EEA3, .shift 1 (-125044)), (0x1EEA4, 0x1EEA4, .disallowed),
  (0x1EEA5, 0x1EEA5, .shift 1 (-125021)), (0x1EEA6, 0x1EEA6, .shift 1 (-125044)), (0x1EEA7, 0x1EEA7, .shift 1 (-125050)),
  (0x1EEA8, 0x1EEA8, .shift 1 (-125041)), (0x1EEA9, 0x1EEA9, .shift 1 (-125023)), (0x1EEAA, 0x1EEAA, .disallowed),
  (0x1EEAB, 0x1EEAD, .shift 1 (-125031)), (0x1EEAE, 0x1EEAE, .shift 1 (-125051)), (0x1EEAF, 0x1EEAF, .shift 1 (-125046)),
  (0x1EEB0, 0x1EEB0, .shift 1 (-125039)), (0x1EEB1, 0x1EEB1, .shift 1 (-125052)), (0x1EEB2, 0x1EEB2, .shift 1 (-125040)),
  (0x1EEB3, 0x1EEB3, .shift 1 (-125058)), (0x1EEB4, 0x1EEB4, .shift 1 (-125056)), (0x1EEB5, 0x1EEB6, .shift 1 (-125067)),
  (0x1EEB7, 0x1EEB7, .shift 1 (-125065)), (0x1EEB8, 0x1EEB8, .shift 1 (-125064)), (0x1EEB9, 0x1EEB9, .shift 1 (-125059)),
  (0x1EEBA, 0x1EEBA, .shift 1 (-125058)), (0x1EEBB, 0x1EEBB, .shift 1 (-125057)), (0x1EEBC, 0x1EEEF, .disallowed),
  (0x1EEF2, 0x1EFFF, .disallowed), (0x1F02C, 0x1F02F, .disallowed), (0x1F094, 0x1F09F, .disallowed),
  (0x1F0AF, 0x1F0B0, .disallowed), (0x1F0C0, 0x1F0C0, .disallowed), (0x1F0D0, 0x1F0D0, .disallowed),
  (0x1F0F6, 0x1F100, .disallowed), (0x1F101, 0x1F101, .replace [0x30, 0x2C]), (0x1F102, 0x1F102, .replace [0x31, 0x2C]),
  (0x1F103, 0x1F103, .replace [0x32, 0x2C]), (0x1F104, 0x1F104, .replace [0x33, 0x2C]), (0x1F105, 0x1F105, .replace [0x34, 0x2C]),
  (0x1F106, 0x1F106, .replace [0x35, 0x2C]), (0x1F107, 0x1F107, .replace [0x36, 0x2C]), (0x1F108, 0x1F108, .replace [0x37, 0x2C]),
  (0x1F109, 0x1F109, .replace [0x38, 0x2C]), (0x1F10A, 0x1F10A, .replace [0x39, 0x2C]), (0x1F110, 0x1F110, .replace [0x28, 0x61, 0x29]),
  (0x1F111, 0x1F111, .replace [0x28, 0x62, 0x29]), (0x1F112, 0x1F112, .replace [0x28, 0x63, 0x29]), (0x1F113, 0x1F113, .replace [0x28, 0x64, 0x29]),
  (0x1F114, 0x1F114, .replace [0x28, 0x65, 0x29]), (0x1F115, 0x1F115, .replace [0x28, 0x66, 0x29]), (0x1F116, 0x1F116, .replace [0x28, 0x67, 0x29]),
  (0x1F117, 0x1F117, .replace [0x28, 0x68, 0x29]), (0x1F118, 0x1F118, .replace [0x28, 0x69, 0x29]), (0x1F119, 0x1F119, .replace [0x28, 0x6A, 0x29]),
  (0x1F11A, 0x1F11A, .replace [0x28, 0x6B, 0x29]), (0x1F11B, 0x1F11B, .replace [0x28, 0x6C, 0x29]), (0x1F11C, 0x1F11C, .replace [0x28, 0x6D, 0x29]),
  (0x1F11D, 0x1F11D, .replace [0x28, 0x6E, 0x29]), (0x1F11E, 0x1F11E, .replace [0x28, 0x6F, 0x29]), (0x1F11F, 0x1F11F, .replace [0x28, 0x70, 0x29]),
  (0x1F120, 0x1F120, .replace [0x28, 0x71, 0x29]), (0x1F121, 0x1F121, .replace [0x28, 0x72, 0x29]), (0x1F122, 0x1F122, .replace [0x28, 0x73, 0x29]),
  (0x1F123, 0x1F123, .replace [0x28, 0x74, 0x29]), (0x1F124, 0x1F124, .replace [0x28, 0x75, 0x29]), (0x1F125, 0x1F125, .replace [0x28, 0x76, 0x29]),
  (0x1F126, 0x1F126, .replace [0x28, 0x77, 0x29]), (0x1F127, 0x1F127, .replace [0x28, 0x78, 0x29]), (0x1F128, 0x1F128, .replace [0x28, 0x79, 0x29]),
  (0x1F129, 0x1F129, .replace [0x28, 0x7A, 0x29]), (0x1F12A, 0x1F12A, .replace [0x3014, 0x73, 0x3015]), (0x1F12B, 0x1F12B, .shift 1 (-127176)),
  (0x1F12C, 0x1F12C, .shift 1 (-127162)), (0x1F12D, 0x1F12D, .replace [0x63, 0x64]), (0x1F12E, 0x1F12E, .replace [0x77, 0x7A]),
  (0x1F130, 0x1F149, .shift 1 (-127183)), (0x1F14A, 0x1F14A, .replace [0x68, 0x76]), (0x1F14B, 0x1F14B, .replace [0x6D, 0x76]),
  (0x1F14C, 0x1F14C, .replace [0x73, 0x64]), (0x1F14D, 0x1F14D, .replace [0x73, 0x73]), (0x1F14E, 0x1F14E, .replace [0x70, 0x70, 0x76]),
  (0x1F14F, 0x1F14F, .replace [0x77, 0x63]), (0x1F16A, 0x1F16A, .replace [0x6D, 0x63]), (0x1F16B, 0x1F16B, .replace [0x6D, 0x64]),
  (0x1F16C, 0x1F16C, .replace [0x6D, 0x72]), (0x1F190, 0x1F190, .replace [0x64, 0x6A]), (0x1F1AE, 0x1F1E5, .disallowed),
  (0x1F200, 0x1F200, .replace [0x307B, 0x304B]), (0x1F201, 0x1F201, .replace [0x30B3, 0x30B3]), (0x1F202, 0x1F202, .shift 1 (-115021)),
  (0x1F203, 0x1F20F, .disallowed), (0x1F210, 0x1F210, .shift 1 (-102341)), (0x1F211, 0x1F211, .shift 1 (-104122)),
  (0x1F212, 0x1F212, .shift 1 (-106054)), (0x1F213, 0x1F213, .shift 1 (-115020)), (0x1F214, 0x1F214, .shift 1 (-107400)),
  (0x1F215, 0x1F215, .shift 1 (-104699)), (0x1F216, 0x1F216, .shift 1 (-92211)), (0x1F217, 0x1F217, .shift 1 (-104686)),
  (0x1F218, 0x1F218, .shift 1 (-107380)), (0x1F219, 0x1F219, .shift 1 (-101369)), (0x1F21A, 0x1F21A, .shift 1 (-98553)),
  (0x1F21B, 0x1F21B, .shift 1 (-101506)), (0x1F21C, 0x1F21C, .shift 1 (-106447)), (0x1F21D, 0x1F21D, .shift 1 (-103057)),
  (0x1F21E, 0x1F21E, .shift 1 (-106641)), (0x1F21F, 0x1F21F, .shift 1 (-101487)), (0x1F220, 0x1F220, .shift 1 (-106499)),
  (0x1F221, 0x1F221, .shift 1 (-95455)), (0x1F222, 0x1F222, .shift 1 (-97539)), (0x1F223, 0x1F223, .shift 1 (-91514)),
  (0x1F224, 0x1F224, .shift 1 (-104756)), (0x1F225, 0x1F225, .shift 1 (-105964)), (0x1F226, 0x1F226, .shift 1 (-99090)),
  (0x1F227, 0x1F227, .shift 1 (-102290)), (0x1F228, 0x1F228, .shift 1 (-102099)), (0x1F229, 0x1F229, .shift 1 (-107561)),
  (0x1F22A, 0x1F22A, .shift 1 (-107553)), (0x1F22B, 0x1F22B, .shift 1 (-90593)), (0x1F22C, 0x1F22C, .shift 1 (-103494)),
  (0x1F22D, 0x1F22D, .shift 1 (-107520)), (0x1F22E, 0x1F22E, .shift 1 (-106043)), (0x1F22F, 0x1F22F, .shift 1 (-102184)),
  (0x1F230, 0x1F230, .shift 1 (-91328)), (0x1F231, 0x1F231, .shift 1 (-102366)), (0x1F232, 0x1F232, .shift 1 (-96433)),
  (0x1F233, 0x1F233, .shift 1 (-96185)), (0x1F234, 0x1F234, .shift 1 (-106028)), (0x1F235, 0x1F235, .shift 1 (-99253)),
  (0x1F236, 0x1F236, .shift 1 (-101165)), (0x1F237, 0x1F237, .shift 1 (-101167)), (0x1F238, 0x1F238, .shift 1 (-97541)),
  (0x1F239, 0x1F239, .shift 1 (-106439)), (0x1F23A, 0x1F23A, .shift 1 (-105604)), (0x1F23B, 0x1F23B, .shift 1 (-90350)),
  (0x1F23C, 0x1F23F, .disallowed), (0x1F240, 0x1F240, .replace [0x3014, 0x672C, 0x3015]), (0x1F241, 0x1F241, .replace [0x3014, 0x4E09, 0x3015]),
  (0x1F242, 0x1F242, .replace [0x3014, 0x4E8C, 0x3015]), (0x1F243, 0x1F243, .replace [0x3014, 0x5B89, 0x3015]), (0x1F244, 0x1F244, .replace [0x3014, 0x70B9, 0x3015]),
  (0x1F245, 0x1F245, .replace [0x3014, 0x6253, 0x3015]), (0x1F246, 0x1F246, .replace [0x3014, 0x76D7, 0x3015]), (0x1F247, 0x1F247, .replace [0x3014, 0x52DD, 0x3015]),
  (0x1F248, 0x1F248, .replace [0x3014, 0x6557, 0x3015]), (0x1F249, 0x1F24F, .disallowed), (0x1F250, 0x1F250, .shift 1 (-103097)),
  (0x1F251, 0x1F251, .shift 1 (-106082)), (0x1F252, 0x1F25F, .disallowed), (0x1F266, 0x1F2FF, .disallowed),
  (0x1F6D9, 0x1F6DB, .disallowed), (0x1F6ED, 0x1F6EF, .disallowed), (0x1F6FD, 0x1F6FF, .disallowed),
  (0x1F7DA, 0x1F7DF, .disallowed), (0x1F7EC, 0x1F7EF, .disallowed), (0x1F7F1, 0x1F7FF, .disallowed),
  (0x1F80C, 0x1F80F, .disallowed), (0x1F848, 0x1F84F, .disallowed), (0x1F85A, 0x1F85F, .disallowed),
  (0x1F888, 0x1F88F, .disallowed), (0x1F8AE, 0x1F8AF, .disallowed), (0x1F8BC, 0x1F8BF, .disallowed),
  (0x1F8C2, 0x1F8CF, .disallowed), (0x1F8D9, 0x1F8FF, .disallowed), (0x1FA58, 0x1FA5F, .disallowed),
  (0x1FA6E, 0x1FA6F, .disallowed), (0x1FA7D, 0x1FA7F, .disallowed), (0x1FA8B, 0x1FA8D, .disallowed),
  (0x1FAC7, 0x1FAC7, .disallowed), (0x1FAC9, 0x1FACC, .disallowed), (0x1FADD, 0x1FADE, .disallowed),
  (0x1FAEB, 0x1FAEE, .disallowed), (0x1FAF9, 0x1FAFF, .disallowed), (0x1FB93, 0x1FB93, .disallowed),
  (0x1FBF0, 0x1FBF9, .shift 1 (-129984)), (0x1FBFB, 0x1FFFF, .disallowed), (0x2A6E0, 0x2A6FF, .disallowed),
  (0x2B81E, 0x2B81F, .disallowed), (0x2CEAE, 0x2CEAF, .disallowed), (0x2EBE1, 0x2EBEF, .disallowed),
  (0x2EE5E, 0x2F7FF, .disallowed), (0x2F800, 0x2F800, .shift 1 (-174531)), (0x2F801, 0x2F801, .shift 1 (-174537)),
  (0x2F802, 0x2F802, .shift 1 (-174529)), (0x2F803, 0x2F803, .shift 1 (-63201)), (0x2F804, 0x2F804, .shift 1 (-174244)),
  (0x2F805, 0x2F805, .shift 1 (-174167)), (0x2F806, 0x2F806, .shift 1 (-174155)), (0x2F807, 0x2F807, .shift 1 (-174085)),
  (0x2F808, 0x2F808, .shift 1 (-173966)), (0x2F809, 0x2F809, .shift 1 (-173936)), (0x2F80A, 0x2F80A, .shift 1 (-173859)),
  (0x2F80B, 0x2F80B, .shift 1 (-173884)), (0x2F80C, 0x2F80C, .shift 1 (-181102)), (0x2F80D, 0x2F80D, .shift 1 (-61907)),
  (0x2F80E, 0x2F80E, .shift 1 (-173761)), (0x2F80F, 0x2F80F, .shift 1 (-173755)), (0x2F810, 0x2F810, .shift 1 (-173740)),
  (0x2F811, 0x2F811, .shift 1 (-173722)), (0x2F812, 0x2F812, .shift 1 (-62198)), (0x2F813, 0x2F813, .shift 1 (-181082)),
  (0x2F814, 0x2F814, .shift 1 (-173741)), (0x2F815, 0x2F815, .shift 1 (-173704)), (0x2F816, 0x2F816, .shift 1 (-62155)),
  (0x2F817, 0x2F817, .shift 1 (-173696)), (0x2F818, 0x2F818, .shift 1 (-173684)), (0x2F819, 0x2F819, .shift 1 (-174413)),
  (0x2F81A, 0x2F81A, .shift 1 (-173678)), (0x2F81B, 0x2F81B, .shift 1 (-173670)), (0x2F81C, 0x2F81C, .shift 1 (-26173)),
  (0x2F81D, 0x2F81D, .shift 1 (-173608)), (0x2F81E, 0x2F81E, .shift 1 (-173595)), (0x2F81F, 0x2F81F, .shift 1 (-181056)),
  (0x2F820, 0x2F820, .shift 1 (-173541)), (0x2F821, 0x2F821, .shift 1 (-173531)), (0x2F822, 0x2F822, .shift 1 (-173488)),
  (0x2F823, 0x2F823, .shift 1 (-173484)), (0x2F824, 0x2F824, .shift 1 (-181007)), (0x2F825, 0x2F825, .shift 1 (-173406)),
  (0x2F826, 0x2F826, .shift 1 (-173405)), (0x2F827, 0x2F827, .shift 1 (-173379)), (0x2F828, 0x2F828, .shift 1 (-173358)),
  (0x2F829, 0x2F82A, .shift 1 (-173348)), (0x2F82B, 0x2F82B, .shift 1 (-173332)), (0x2F82C, 0x2F82C, .shift 1 (-173283)),
  (0x2F82D, 0x2F82D, .shift 1 (-173276)), (0x2F82E, 0x2F82E, .shift 1 (-173268)), (0x2F82F, 0x2F82F, .shift 1 (-173244)),
  (0x2F830, 0x2F830, .shift 1 (-173235)), (0x2F831, 0x2F833, .replace [0x537F]), (0x2F834, 0x2F834, .shift 1 (-60936)),
  (0x2F835, 0x2F835, .shift 1 (-165829)), (0x2F836, 0x2F836, .shift 1 (-173164)), (0x2F837, 0x2F837, .shift 1 (-173144)),
  (0x2F838, 0x2F838, .shift 1 (-60629)), (0x2F839, 0x2F839, .shift 1 (-173134)), (0x2F83A, 0x2F83A, .shift 1 (-173129)),
  (0x2F83B, 0x2F83B, .shift 1 (-173109)), (0x2F83C, 0x2F83C, .shift 1 (-172958)), (0x2F83D, 0x2F83D, .shift 1 (-173061)),
  (0x2F83E, 0x2F83E, .shift 1 (-173046)), (0x2F83F, 0x2F83F, .shift 1 (-173015)), (0x2F840, 0x2F840, .shift 1 (-172958)),
  (0x2F841, 0x2F841, .shift 1 (-172875)), (0x2F842, 0x2F842, .shift 1 (-172850)), (0x2F843, 0x2F843, .shift 1 (-172784)),
  (0x2F844, 0x2F844, .shift 1 (-172769)), (0x2F845, 0x2F846, .replace [0x5584]), (0x2F847, 0x2F847, .shift 1 (-172718)),
  (0x2F848, 0x2F848, .shift 1 (-172701)), (0x2F849, 0x2F849, .shift 1 (-172694)), (0x2F84A, 0x2F84A, .shift 1 (-172680)),
  (0x2F84B, 0x2F84B, .shift 1 (-172341)), (0x2F84C, 0x2F84C, .shift 1 (-172614)), (0x2F84D, 0x2F84D, .shift 1 (-172342)),
  (0x2F84E, 0x2F84E, .shift 1 (-172541)), (0x2F84F, 0x2F84F, .shift 1 (-172507)), (0x2F850, 0x2F850, .shift 1 (-173641)),
  (0x2F851, 0x2F851, .shift 1 (-171875)), (0x2F852, 0x2F852, .shift 1 (-172164)), (0x2F853, 0x2F853, .shift 1 (-172127)),
  (0x2F854, 0x2F854, .shift 1 (-172103)), (0x2F855, 0x2F855, .shift 1 (-172234)), (0x2F856, 0x2F856, .shift 1 (-172068)),
  (0x2F857, 0x2F857, .shift 1 (-172070)), (0x2F858, 0x2F858, .shift 1 (-171948)), (0x2F859, 0x2F859, .shift 1 (-58229)),
  (0x2F85A, 0x2F85A, .shift 1 (-171880)), (0x2F85B, 0x2F85B, .shift 1 (-171876)), (0x2F85C, 0x2F85C, .shift 1 (-171862)),
  (0x2F85D, 0x2F85D, .shift 1 (-171843)), (0x2F85E, 0x2F85E, .shift 1 (-171836)), (0x2F85F, 0x2F85F, .shift 1 (-171773)),
  (0x2F860, 0x2F860, .shift 1 (-57784)), (0x2F861, 0x2F861, .shift 1 (-57719)), (0x2F862, 0x2F862, .shift 1 (-171638)),
  (0x2F863, 0x2F863, .shift 1 (-171592)), (0x2F864, 0x2F864, .shift 1 (-171581)), (0x2F865, 0x2F865, .shift 1 (-171661)),
  (0x2F866, 0x2F866, .shift 1 (-171520)), (0x2F867, 0x2F867, .shift 1 (-180601)), (0x2F868, 0x2F868, .shift 1 (-180588)),
  (0x2F869, 0x2F869, .shift 1 (-171361)), (0x2F86A, 0x2F86B, .replace [0x5B3E]), (0x2F86C, 0x2F86C, .shift 1 (-56996)),
  (0x2F86D, 0x2F86D, .shift 1 (-171178)), (0x2F86E, 0x2F86E, .shift 1 (-171158)), (0x2F86F, 0x2F86F, .shift 1 (-171144)),
  (0x2F870, 0x2F870, .shift 1 (-171133)), (0x2F871, 0x2F871, .shift 1 (-56665)), (0x2F872, 0x2F872, .shift 1 (-171123)),
  (0x2F873, 0x2F873, .shift 1 (-171117)), (0x2F874, 0x2F874, .shift 1 (-170273)), (0x2F875, 0x2F875, .shift 1 (-171091)),
  (0x2F876, 0x2F876, .shift 1 (-180469)), (0x2F877, 0x2F877, .shift 1 (-171031)), (0x2F878, 0x2F878, .shift 1 (-171018)),
  (0x2F879, 0x2F879, .shift 1 (-170937)), (0x2F87A, 0x2F87A, .shift 1 (-170989)), (0x2F87B, 0x2F87B, .shift 1 (-55959)),
  (0x2F87C, 0x2F87C, .shift 1 (-170809)), (0x2F87D, 0x2F87D, .shift 1 (-55959)), (0x2F87E, 0x2F87E, .shift 1 (-170768)),
  (0x2F87F, 0x2F87F, .shift 1 (-170772)), (0x2F880, 0x2F880, .shift 1 (-170756)), (0x2F881, 0x2F882, .shift 1 (-170656)),
  (0x2F883, 0x2F883, .shift 1 (-180308)), (0x2F884, 0x2F884, .shift 1 (-170631)), (0x2F885, 0x2F885, .shift 1 (-170589)),
  (0x2F886, 0x2F886, .shift 1 (-170569)), (0x2F887, 0x2F887, .shift 1 (-170526)), (0x2F888, 0x2F888, .shift 1 (-180262)),
  (0x2F889, 0x2F889, .shift 1 (-55046)), (0x2F88A, 0x2F88A, .shift 1 (-180238)), (0x2F88B, 0x2F88B, .shift 1 (-170459)),
  (0x2F88C, 0x2F88C, .shift 1 (-170457)), (0x2F88D, 0x2F88D, .shift 1 (-170455)), (0x2F88E, 0x2F88E, .shift 1 (-170436)),
  (0x2F88F, 0x2F88F, .shift 1 (-21757)), (0x2F890, 0x2F890, .shift 1 (-170386)), (0x2F891, 0x2F892, .replace [0x22331]),
  (0x2F893, 0x2F893, .shift 1 (-161426)), (0x2F894, 0x2F895, .replace [0x5F22]), (0x2F896, 0x2F896, .shift 1 (-180175)),
  (0x2F897, 0x2F897, .shift 1 (-50655)), (0x2F898, 0x2F898, .shift 1 (-38590)), (0x2F899, 0x2F899, .shift 1 (-170295)),
  (0x2F89A, 0x2F89A, .shift 1 (-170287)), (0x2F89B, 0x2F89B, .shift 1 (-180152)), (0x2F89C, 0x2F89C, .shift 1 (-170242)),
  (0x2F89D, 0x2F89D, .shift 1 (-170192)), (0x2F89E, 0x2F89E, .shift 1 (-170183)), (0x2F89F, 0x2F89F, .shift 1 (-170150)),
  (0x2F8A0, 0x2F8A0, .shift 1 (-170015)), (0x2F8A1, 0x2F8A1, .shift 1 (-180071)), (0x2F8A2, 0x2F8A2, .shift 1 (-180102)),
  (0x2F8A3, 0x2F8A3, .shift 1 (-169999)), (0x2F8A4, 0x2F8A4, .shift 1 (-53712)), (0x2F8A5, 0x2F8A5, .shift 1 (-169950)),
  (0x2F8A6, 0x2F8A6, .shift 1 (-169822)), (0x2F8A7, 0x2F8A7, .shift 1 (-169819)), (0x2F8A8, 0x2F8A8, .shift 1 (-169818)),
  (0x2F8A9, 0x2F8A9, .shift 1 (-169821)), (0x2F8AA, 0x2F8AA, .shift 1 (-169776)), (0x2F8AB, 0x2F8AB, .shift 1 (-169757)),
  (0x2F8AC, 0x2F8AC, .shift 1 (-169722)), (0x2F8AD, 0x2F8AD, .shift 1 (-169737)), (0x2F8AE, 0x2F8AE, .shift 1 (-169727)),
  (0x2F8AF, 0x2F8AF, .shift 1 (-169681)), (0x2F8B0, 0x2F8B0, .shift 1 (-169662)), (0x2F8B1, 0x2F8B1, .shift 1 (-169659)),
  (0x2F8B2, 0x2F8B2, .shift 1 (-169634)), (0x2F8B3, 0x2F8B3, .shift 1 (-169624)), (0x2F8B4, 0x2F8B4, .shift 1 (-169559)),
  (0x2F8B5, 0x2F8B5, .shift 1 (-169476)), (0x2F8B6, 0x2F8B6, .shift 1 (-169442)), (0x2F8B7, 0x2F8B7, .shift 1 (-169319)),
  (0x2F8B8, 0x2F8B8, .shift 1 (-52652)), (0x2F8B9, 0x2F8B9, .shift 1 (-169340)), (0x2F8BA, 0x2F8BA, .shift 1 (-169406)),
  (0x2F8BB, 0x2F8BB, .shift 1 (-169299)), (0x2F8BC, 0x2F8BC, .shift 1 (-169273)), (0x2F8BD, 0x2F8BD, .shift 1 (-169177)),
  (0x2F8BE, 0x2F8BE, .shift 1 (-52429)), (0x2F8BF, 0x2F8BF, .shift 1 (-169117)), (0x2F8C0, 0x2F8C0, .shift 1 (-169211)),
  (0x2F8C1, 0x2F8C1, .shift 1 (-169240)), (0x2F8C2, 0x2F8C2, .shift 1 (-179860)), (0x2F8C3, 0x2F8C3, .shift 1 (-169050)),
  (0x2F8C4, 0x2F8C4, .shift 1 (-169030)), (0x2F8C5, 0x2F8C5, .shift 1 (-169000)), (0x2F8C6, 0x2F8C6, .shift 1 (-169039)),
  (0x2F8C7, 0x2F8C7, .shift 1 (-179803)), (0x2F8C8, 0x2F8C8, .shift 1 (-168825)), (0x2F8C9, 0x2F8C9, .shift 1 (-168797)),
  (0x2F8CA, 0x2F8CA, .shift 1 (-51392)), (0x2F8CB, 0x2F8CB, .shift 1 (-168680)), (0x2F8CC, 0x2F8CC, .shift 1 (-168404)),
  (0x2F8CD, 0x2F8CD, .shift 1 (-168580)), (0x2F8CE, 0x2F8CE, .shift 1 (-179637)), (0x2F8CF, 0x2F8CF, .shift 1 (-168510)),
  (0x2F8D0, 0x2F8D0, .shift 1 (-179656)), (0x2F8D1, 0x2F8D1, .shift 1 (-179693)), (0x2F8D2, 0x2F8D2, .shift 1 (-173888)),
  (0x2F8D3, 0x2F8D3, .shift 1 (-173886)), (0x2F8D4, 0x2F8D4, .shift 1 (-168404)), (0x2F8D5, 0x2F8D5, .shift 1 (-168505)),
  (0x2F8D6, 0x2F8D6, .shift 1 (-161833)), (0x2F8D7, 0x2F8D7, .shift 1 (-177406)), (0x2F8D8, 0x2F8D8, .shift 1 (-168385)),
  (0x2F8D9, 0x2F8D9, .shift 1 (-168382)), (0x2F8DA, 0x2F8DA, .shift 1 (-168377)), (0x2F8DB, 0x2F8DB, .shift 1 (-168317)),
  (0x2F8DC, 0x2F8DC, .shift 1 (-168329)), (0x2F8DD, 0x2F8DD, .shift 1 (-50458)), (0x2F8DE, 0x2F8DE, .shift 1 (-179605)),
  (0x2F8DF, 0x2F8DF, .shift 1 (-168165)), (0x2F8E0, 0x2F8E0, .shift 1 (-168283)), (0x2F8E1, 0x2F8E1, .shift 1 (-168079)),
  (0x2F8E2, 0x2F8E2, .shift 1 (-168029)), (0x2F8E3, 0x2F8E3, .shift 1 (-50294)), (0x2F8E4, 0x2F8E4, .shift 1 (-168022)),
  (0x2F8E5, 0x2F8E5, .shift 1 (-168134)), (0x2F8E6, 0x2F8E6, .shift 1 (-167890)), (0x2F8E7, 0x2F8E7, .shift 1 (-179530)),
  (0x2F8E8, 0x2F8E8, .shift 1 (-167846)), (0x2F8E9, 0x2F8E9, .shift 1 (-167750)), (0x2F8EA, 0x2F8EA, .shift 1 (-167680)),
  (0x2F8EB, 0x2F8EB, .shift 1 (-167491)), (0x2F8EC, 0x2F8EC, .shift 1 (-49737)), (0x2F8ED, 0x2F8ED, .shift 1 (-167442)),
  (0x2F8EE, 0x2F8EE, .shift 1 (-179414)), (0x2F8EF, 0x2F8EF, .shift 1 (-167374)), (0x2F8F0, 0x2F8F0, .shift 1 (-49225)),
  (0x2F8F1, 0x2F8F1, .shift 1 (-167325)), (0x2F8F2, 0x2F8F2, .shift 1 (-179364)), (0x2F8F3, 0x2F8F3, .shift 1 (-167297)),
  (0x2F8F4, 0x2F8F4, .shift 1 (-167253)), (0x2F8F5, 0x2F8F6, .shift 1 (-167227)), (0x2F8F7, 0x2F8F7, .shift 1 (-48746)),
  (0x2F8F8, 0x2F8F8, .shift 1 (-56301)), (0x2F8F9, 0x2F8F9, .shift 1 (-48639)), (0x2F8FA, 0x2F8FA, .shift 1 (-167084)),
  (0x2F8FB, 0x2F8FB, .shift 1 (-48191)), (0x2F8FC, 0x2F8FC, .shift 1 (-166973)), (0x2F8FD, 0x2F8FD, .shift 1 (-166960)),
  (0x2F8FE, 0x2F8FE, .shift 1 (-167063)), (0x2F8FF, 0x2F8FF, .shift 1 (-166889)), (0x2F900, 0x2F900, .shift 1 (-166850)),
  (0x2F901, 0x2F901, .shift 1 (-166794)), (0x2F902, 0x2F902, .shift 1 (-166849)), (0x2F903, 0x2F903, .shift 1 (-166810)),
  (0x2F904, 0x2F904, .shift 1 (-166796)), (0x2F905, 0x2F905, .shift 1 (-166784)), (0x2F906, 0x2F906, .shift 1 (-48104)),
  (0x2F907, 0x2F907, .shift 1 (-166867)), (0x2F908, 0x2F908, .shift 1 (-166617)), (0x2F909, 0x2F909, .shift 1 (-166555)),
  (0x2F90A, 0x2F90A, .shift 1 (-179159)), (0x2F90B, 0x2F90B, .shift 1 (-166464)), (0x2F90C, 0x2F90C, .shift 1 (-166469)),
  (0x2F90D, 0x2F90D, .shift 1 (-47676)), (0x2F90E, 0x2F90E, .shift 1 (-166677)), (0x2F90F, 0x2F90F, .shift 1 (-166305)),
  (0x2F910, 0x2F910, .shift 1 (-47538)), (0x2F911, 0x2F911, .shift 1 (-47491)), (0x2F912, 0x2F912, .shift 1 (-166220)),
  (0x2F913, 0x2F913, .shift 1 (-166106)), (0x2F914, 0x2F914, .shift 1 (-166134)), (0x2F915, 0x2F915, .shift 1 (-166138)),
  (0x2F916, 0x2F916, .shift 1 (-179072)), (0x2F917, 0x2F917, .shift 1 (-166093)), (0x2F918, 0x2F918, .shift 1 (-166043)),
  (0x2F919, 0x2F919, .shift 1 (-166050)), (0x2F91A, 0x2F91A, .shift 1 (-165997)), (0x2F91B, 0x2F91B, .shift 1 (-62454)),
  (0x2F91C, 0x2F91C, .shift 1 (-165847)), (0x2F91D, 0x2F91D, .shift 1 (-46778)), (0x2F91E, 0x2F91E, .shift 1 (-165762)),
  (0x2F91F, 0x2F91F, .shift 1 (-46452)), (0x2F920, 0x2F920, .shift 1 (-165624)), (0x2F921, 0x2F921, .shift 1 (-165612)),
  (0x2F922, 0x2F922, .shift 1 (-165586)), (0x2F923, 0x2F923, .shift 1 (-45851)), (0x2F924, 0x2F924, .shift 1 (-165540)),
  (0x2F925, 0x2F925, .shift 1 (-165520)), (0x2F926, 0x2F926, .shift 1 (-45553)), (0x2F927, 0x2F927, .shift 1 (-45331)),
  (0x2F928, 0x2F928, .shift 1 (-165294)), (0x2F929, 0x2F929, .shift 1 (-165278)), (0x2F92A, 0x2F92A, .shift 1 (-178814)),
  (0x2F92B, 0x2F92B, .shift 1 (-165254)), (0x2F92C, 0x2F92D, .replace [0x3EB8]), (0x2F92E, 0x2F92E, .shift 1 (-165095)),
  (0x2F92F, 0x2F92F, .shift 1 (-165075)), (0x2F930, 0x2F930, .shift 1 (-165055)), (0x2F931, 0x2F931, .shift 1 (-165036)),
  (0x2F932, 0x2F932, .shift 1 (-164968)), (0x2F933, 0x2F933, .shift 1 (-178712)), (0x2F934, 0x2F934, .shift 1 (-164880)),
  (0x2F935, 0x2F935, .shift 1 (-44287)), (0x2F936, 0x2F936, .shift 1 (-164856)), (0x2F937, 0x2F937, .shift 1 (-44197)),
  (0x2F938, 0x2F938, .shift 1 (-164808)), (0x2F939, 0x2F939, .shift 1 (-55194)), (0x2F93A, 0x2F93A, .shift 1 (-164650)),
  (0x2F93B, 0x2F93B, .shift 1 (-43418)), (0x2F93C, 0x2F93C, .shift 1 (-43396)), (0x2F93D, 0x2F93D, .shift 1 (-43257)),
  (0x2F93E, 0x2F93E, .shift 1 (-178498)), (0x2F93F, 0x2F93F, .shift 1 (-178487)), (0x2F940, 0x2F940, .shift 1 (-164428)),
  (0x2F941, 0x2F941, .shift 1 (-43086)), (0x2F942, 0x2F942, .shift 1 (-43088)), (0x2F943, 0x2F943, .shift 1 (-43050)),
  (0x2F944, 0x2F944, .shift 1 (-43025)), (0x2F945, 0x2F945, .shift 1 (-164391)), (0x2F946, 0x2F947, .replace [0x771F]),
  (0x2F948, 0x2F948, .shift 1 (-164350)), (0x2F949, 0x2F949, .shift 1 (-178448)), (0x2F94A, 0x2F94A, .shift 1 (-164287)),
  (0x2F94B, 0x2F94B, .shift 1 (-178437)), (0x2F94C, 0x2F94C, .shift 1 (-178358)), (0x2F94D, 0x2F94D, .shift 1 (-42288)),
  (0x2F94E, 0x2F94E, .shift 1 (-164096)), (0x2F94F, 0x2F94F, .shift 1 (-164035)), (0x2F950, 0x2F950, .shift 1 (-163972)),
  (0x2F951, 0x2F951, .shift 1 (-178286)), (0x2F952, 0x2F952, .shift 1 (-41772)), (0x2F953, 0x2F953, .shift 1 (-163837)),
  (0x2F954, 0x2F954, .shift 1 (-41658)), (0x2F955, 0x2F955, .shift 1 (-41616)), (0x2F956, 0x2F956, .shift 1 (-163783)),
  (0x2F957, 0x2F957, .shift 1 (-163692)), (0x2F958, 0x2F958, .shift 1 (-178217)), (0x2F959, 0x2F959, .shift 1 (-163609)),
  (0x2F95A, 0x2F95A, .shift 1 (-163600)), (0x2F95B, 0x2F95B, .shift 1 (-163596)), (0x2F95C, 0x2F95C, .shift 1 (-40928)),
  (0x2F95D, 0x2F95E, .replace [0x25AA7]), (0x2F95F, 0x2F95F, .shift 1 (-163441)), (0x2F960, 0x2F960, .shift 1 (-178014)),
  (0x2F961, 0x2F961, .shift 1 (-40374)), (0x2F962, 0x2F962, .shift 1 (-163228)), (0x2F963, 0x2F963, .shift 1 (-163226)),
  (0x2F964, 0x2F964, .shift 1 (-177981)), (0x2F965, 0x2F965, .shift 1 (-40165)), (0x2F966, 0x2F966, .shift 1 (-162964)),
  (0x2F967, 0x2F967, .shift 1 (-177863)), (0x2F968, 0x2F968, .shift 1 (-162944)), (0x2F969, 0x2F969, .shift 1 (-162950)),
  (0x2F96A, 0x2F96A, .shift 1 (-162922)), (0x2F96B, 0x2F96B, .shift 1 (-39397)), (0x2F96C, 0x2F96C, .shift 1 (-162825)),
  (0x2F96D, 0x2F96D, .shift 1 (-177772)), (0x2F96E, 0x2F96E, .shift 1 (-162727)), (0x2F96F, 0x2F96F, .shift 1 (-162669)),
  (0x2F970, 0x2F970, .shift 1 (-162603)), (0x2F971, 0x2F971, .shift 1 (-177725)), (0x2F972, 0x2F972, .shift 1 (-38730)),
  (0x2F973, 0x2F973, .shift 1 (-38700)), (0x2F974, 0x2F974, .shift 1 (-177691)), (0x2F975, 0x2F975, .shift 1 (-38556)),
  (0x2F976, 0x2F976, .shift 1 (-162300)), (0x2F977, 0x2F977, .shift 1 (-38457)), (0x2F978, 0x2F978, .shift 1 (-162275)),
  (0x2F979, 0x2F979, .shift 1 (-162175)), (0x2F97A, 0x2F97A, .shift 1 (-162165)), (0x2F97B, 0x2F97B, .shift 1 (-38049)),
  (0x2F97C, 0x2F97C, .shift 1 (-37977)), (0x2F97D, 0x2F97D, .shift 1 (-162077)), (0x2F97E, 0x2F97E, .shift 1 (-37846)),
  (0x2F97F, 0x2F97F, .shift 1 (-162063)), (0x2F980, 0x2F980, .shift 1 (-50721)), (0x2F981, 0x2F981, .shift 1 (-177580)),
  (0x2F982, 0x2F982, .shift 1 (-162000)), (0x2F983, 0x2F983, .shift 1 (-161920)), (0x2F984, 0x2F984, .shift 1 (-177529)),
  (0x2F985, 0x2F985, .shift 1 (-161863)), (0x2F986, 0x2F986, .shift 1 (-171729)), (0x2F987, 0x2F987, .shift 1 (-37344)),
  (0x2F988, 0x2F988, .shift 1 (-37331)), (0x2F989, 0x2F989, .shift 1 (-50678)), (0x2F98A, 0x2F98A, .shift 1 (-50670)),
  (0x2F98B, 0x2F98B, .shift 1 (-161674)), (0x2F98C, 0x2F98C, .shift 1 (-161672)), (0x2F98D, 0x2F98D, .shift 1 (-158191)),
  (0x2F98E, 0x2F98E, .shift 1 (-177443)), (0x2F98F, 0x2F98F, .shift 1 (-161534)), (0x2F990, 0x2F990, .shift 1 (-161541)),
  (0x2F991, 0x2F991, .shift 1 (-161524)), (0x2F992, 0x2F992, .shift 1 (-173791)), (0x2F993, 0x2F993, .shift 1 (-161506)),
  (0x2F994, 0x2F994, .shift 1 (-161505)), (0x2F995, 0x2F995, .shift 1 (-161496)), (0x2F996, 0x2F996, .shift 1 (-161456)),
  (0x2F997, 0x2F997, .shift 1 (-36443)), (0x2F998, 0x2F998, .shift 1 (-161459)), (0x2F999, 0x2F999, .shift 1 (-161404)),
  (0x2F99A, 0x2F99A, .shift 1 (-161335)), (0x2F99B, 0x2F99B, .shift 1 (-161262)), (0x2F99C, 0x2F99C, .shift 1 (-161401)),
  (0x2F99D, 0x2F99D, .shift 1 (-161248)), (0x2F99E, 0x2F99E, .shift 1 (-161207)), (0x2F99F, 0x2F99F, .shift 1 (-161096)),
  (0x2F9A0, 0x2F9A0, .shift 1 (-161357)), (0x2F9A1, 0x2F9A1, .shift 1 (-161239)), (0x2F9A2, 0x2F9A2, .shift 1 (-161238)),
  (0x2F9A3, 0x2F9A3, .shift 1 (-161223)), (0x2F9A4, 0x2F9A4, .shift 1 (-36206)), (0x2F9A5, 0x2F9A5, .shift 1 (-35898)),
  (0x2F9A6, 0x2F9A6, .shift 1 (-36049)), (0x2F9A7, 0x2F9A7, .shift 1 (-177276)), (0x2F9A8, 0x2F9A8, .shift 1 (-160951)),
  (0x2F9A9, 0x2F9A9, .shift 1 (-160950)), (0x2F9AA, 0x2F9AA, .shift 1 (-160916)), (0x2F9AB, 0x2F9AB, .shift 1 (-34273)),
  (0x2F9AC, 0x2F9AC, .shift 1 (-160840)), (0x2F9AD, 0x2F9AD, .shift 1 (-35457)), (0x2F9AE, 0x2F9AE, .shift 1 (-177233)),
  (0x2F9AF, 0x2F9AF, .shift 1 (-177230)), (0x2F9B0, 0x2F9B0, .shift 1 (-35327)), (0x2F9B1, 0x2F9B1, .shift 1 (-35039)),
  (0x2F9B2, 0x2F9B2, .shift 1 (-177223)), (0x2F9B3, 0x2F9B3, .shift 1 (-160611)), (0x2F9B4, 0x2F9B4, .shift 1 (-160600)),
  (0x2F9B5, 0x2F9B5, .shift 1 (-160590)), (0x2F9B6, 0x2F9B6, .shift 1 (-160589)), (0x2F9B7, 0x2F9B7, .shift 1 (-160526)),
  (0x2F9B8, 0x2F9B8, .shift 1 (-160560)), (0x2F9B9, 0x2F9B9, .shift 1 (-160427)), (0x2F9BA, 0x2F9BA, .shift 1 (-160472)),
  (0x2F9BB, 0x2F9BB, .shift 1 (-160322)), (0x2F9BC, 0x2F9BC, .shift 1 (-160404)), (0x2F9BD, 0x2F9BD, .shift 1 (-160338)),
  (0x2F9BE, 0x2F9BE, .shift 1 (-160312)), (0x2F9BF, 0x2F9BF, .shift 1 (-177128)), (0x2F9C0, 0x2F9C0, .shift 1 (-160223)),
  (0x2F9C1, 0x2F9C1, .shift 1 (-160192)), (0x2F9C2, 0x2F9C2, .shift 1 (-177097)), (0x2F9C3, 0x2F9C3, .shift 1 (-160099)),
  (0x2F9C4, 0x2F9C4, .shift 1 (-160097)), (0x2F9C5, 0x2F9C5, .shift 1 (-33630)), (0x2F9C6, 0x2F9C6, .shift 1 (-159983)),
  (0x2F9C7, 0x2F9C7, .shift 1 (-159977)), (0x2F9C8, 0x2F9C8, .shift 1 (-177043)), (0x2F9C9, 0x2F9C9, .shift 1 (-159951)),
  (0x2F9CA, 0x2F9CA, .shift 1 (-181519)), (0x2F9CB, 0x2F9CB, .shift 1 (-33053)), (0x2F9CC, 0x2F9CC, .shift 1 (-32870)),
  (0x2F9CD, 0x2F9CD, .shift 1 (-176911)), (0x2F9CE, 0x2F9CE, .shift 1 (-176903)), (0x2F9CF, 0x2F9CF, .shift 1 (-159535)),
  (0x2F9D0, 0x2F9D0, .shift 1 (-159459)), (0x2F9D1, 0x2F9D1, .shift 1 (-159303)), (0x2F9D2, 0x2F9D2, .shift 1 (-159101)),
  (0x2F9D3, 0x2F9D3, .shift 1 (-32043)), (0x2F9D4, 0x2F9D4, .shift 1 (-159017)), (0x2F9D5, 0x2F9D5, .shift 1 (-158996)),
  (0x2F9D6, 0x2F9D6, .shift 1 (-158907)), (0x2F9D7, 0x2F9D7, .shift 1 (-158816)), (0x2F9D8, 0x2F9D8, .shift 1 (-31401)),
  (0x2F9D9, 0x2F9D9, .shift 1 (-61909)), (0x2F9DA, 0x2F9DA, .shift 1 (-158735)), (0x2F9DB, 0x2F9DB, .shift 1 (-158751)),
  (0x2F9DC, 0x2F9DC, .shift 1 (-158700)), (0x2F9DD, 0x2F9DD, .shift 1 (-61695)), (0x2F9DE, 0x2F9DE, .shift 1 (-158474)),
  (0x2F9DF, 0x2F9DF, .shift 1 (-158375)), (0x2F9E0, 0x2F9E0, .shift 1 (-29710)), (0x2F9E1, 0x2F9E1, .shift 1 (-29684)),
  (0x2F9E2, 0x2F9E2, .shift 1 (-158030)), (0x2F9E3, 0x2F9E3, .shift 1 (-157938)), (0x2F9E4, 0x2F9E4, .shift 1 (-157907)),
  (0x2F9E5, 0x2F9E5, .shift 1 (-29367)), (0x2F9E6, 0x2F9E6, .shift 1 (-157899)), (0x2F9E7, 0x2F9E7, .shift 1 (-157615)),
  (0x2F9E8, 0x2F9E9, .shift 1 (-157457)), (0x2F9EA, 0x2F9EA, .shift 1 (-157550)), (0x2F9EB, 0x2F9EB, .shift 1 (-157170)),
  (0x2F9EC, 0x2F9EC, .shift 1 (-157143)), (0x2F9ED, 0x2F9ED, .shift 1 (-28147)), (0x2F9EE, 0x2F9EE, .shift 1 (-156771)),
  (0x2F9EF, 0x2F9EF, .shift 1 (-176218)), (0x2F9F0, 0x2F9F0, .shift 1 (-156729)), (0x2F9F1, 0x2F9F1, .shift 1 (-27770)),
  (0x2F9F2, 0x2F9F2, .shift 1 (-176140)), (0x2F9F3, 0x2F9F3, .shift 1 (-156464)), (0x2F9F4, 0x2F9F4, .shift 1 (-171074)),
  (0x2F9F5, 0x2F9F5, .shift 1 (-156370)), (0x2F9F6, 0x2F9F6, .shift 1 (-26801)), (0x2F9F7, 0x2F9F7, .shift 1 (-26589)),
  (0x2F9F8, 0x2F9F8, .shift 1 (-176010)), (0x2F9F9, 0x2F9F9, .shift 1 (-176003)), (0x2F9FA, 0x2F9FA, .shift 1 (-156186)),
  (0x2F9FB, 0x2F9FB, .shift 1 (-26097)), (0x2F9FC, 0x2F9FC, .shift 1 (-175946)), (0x2F9FD, 0x2F9FD, .shift 1 (-25959)),
  (0x2F9FE, 0x2F9FF, .replace [0x980B]), (0x2FA00, 0x2FA00, .shift 1 (-156119)), (0x2FA01, 0x2FA01, .shift 1 (-25675)),
  (0x2FA02, 0x2FA02, .shift 1 (-155936)), (0x2FA03, 0x2FA03, .shift 1 (-175824)), (0x2FA04, 0x2FA04, .shift 1 (-155867)),
  (0x2FA05, 0x2FA05, .shift 1 (-155742)), (0x2FA06, 0x2FA06, .shift 1 (-155716)), (0x2FA07, 0x2FA07, .shift 1 (-155657)),
  (0x2FA08, 0x2FA08, .shift 1 (-175674)), (0x2FA09, 0x2FA09, .shift 1 (-24281)), (0x2FA0A, 0x2FA0A, .shift 1 (-155384)),
  (0x2FA0B, 0x2FA0B, .shift 1 (-155083)), (0x2FA0C, 0x2FA0C, .shift 1 (-154895)), (0x2FA0D, 0x2FA0D, .shift 1 (-175423)),
  (0x2FA0E, 0x2FA0E, .shift 1 (-175393)), (0x2FA0F, 0x2FA0F, .shift 1 (-154792)), (0x2FA10, 0x2FA10, .shift 1 (-22850)),
  (0x2FA11, 0x2FA11, .shift 1 (-175385)), (0x2FA12, 0x2FA12, .shift 1 (-22797)), (0x2FA13, 0x2FA13, .shift 1 (-22533)),
  (0x2FA14, 0x2FA14, .shift 1 (-22403)), (0x2FA15, 0x2FA15, .shift 1 (-154458)), (0x2FA16, 0x2FA16, .shift 1 (-175296)),
  (0x2FA17, 0x2FA17, .shift 1 (-154398)), (0x2FA18, 0x2FA18, .shift 1 (-154394)), (0x2FA19, 0x2FA19, .shift 1 (-154388)),
  (0x2FA1A, 0x2FA1A, .shift 1 (-154379)), (0x2FA1B, 0x2FA1B, .shift 1 (-154373)), (0x2FA1C, 0x2FA1C, .shift 1 (-154337)),
  (0x2FA1D, 0x2FA1D, .shift 1 (-21533)), (0x2FA1E, 0x2FFFF, .disallowed), (0x3134B, 0x3134F, .disallowed),
  (0x3347A, 0xE00FF, .disallowed), (0xE0100, 0xE01EF, .ignored), (0xE01F0, 0x10FFFF, .disallowed)]

def idnaRules : RangeMap IdnaRule := ⟨idnaRulesFirst ++ idnaRulesSecond ++ idnaRulesThird⟩

end SchemaTypes.Url
