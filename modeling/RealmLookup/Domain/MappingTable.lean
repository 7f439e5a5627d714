/-!
# The mapping of domain characters, as data

Which characters a domain may hold, and what the others are replaced by: the mapping table for
internationalized domain names, with runs of neighbours in one entry.  An entry holds the first
and the last code point of a run, and what becomes of its characters.

## Main definitions

* `Domain.Rule` : what becomes of the characters of a run.
* `Domain.mappings` : the runs; characters outside of them are not allowed.
-/

namespace RealmLookup.Domain

/-- What becomes of the characters of a run. -/
inductive Rule
  /-- They stay as they are. -/
  | valid
  /-- They are dropped. -/
  | ignored
  /-- Each is replaced by the character at a distance. -/
  | shift (distance : Int)
  /-- The first one, and every second one from there, is replaced by the next one. -/
  | alternate
  /-- Each has a replacement of its own; the replacements are separated by commas, and the
  hexadecimal code points of one by blanks. -/
  | each (replacements : String)

/-- The runs that begin below U+1000. -/
def alphabetMappings : List (Nat × Nat × Rule) := [
  (0x0, 0x40, .valid), (0x41, 0x5A, .shift 32), (0x5B, 0x7F, .valid), (0xA0, 0xA0, .each "20"),
  (0xA1, 0xA7, .valid), (0xA8, 0xA8, .each "20 308"), (0xA9, 0xA9, .valid),
  (0xAA, 0xAA, .each "61"), (0xAB, 0xAC, .valid), (0xAD, 0xAD, .ignored), (0xAE, 0xAE, .valid),
  (0xAF, 0xAF, .each "20 304"), (0xB0, 0xB1, .valid), (0xB2, 0xB3, .shift (-128)),
  (0xB4, 0xB5, .each "20 301,3BC"), (0xB6, 0xB7, .valid), (0xB8, 0xBA, .each "20 327,31,6F"),
  (0xBB, 0xBB, .valid), (0xBC, 0xBE, .each "31 2044 34,31 2044 32,33 2044 34"),
  (0xBF, 0xBF, .valid), (0xC0, 0xD6, .shift 32), (0xD7, 0xD7, .valid), (0xD8, 0xDE, .shift 32),
  (0xDF, 0xFF, .valid), (0x100, 0x12F, .alternate), (0x130, 0x130, .each "69 307"),
  (0x131, 0x131, .valid), (0x132, 0x133, .each "69 6A,69 6A"), (0x134, 0x137, .alternate),
  (0x138, 0x138, .valid), (0x139, 0x13E, .alternate), (0x13F, 0x140, .each "6C B7,6C B7"),
  (0x141, 0x148, .alternate), (0x149, 0x149, .each "2BC 6E"), (0x14A, 0x177, .alternate),
  (0x178, 0x178, .each "FF"), (0x179, 0x17E, .alternate), (0x17F, 0x17F, .each "73"),
  (0x180, 0x180, .valid), (0x181, 0x181, .each "253"), (0x182, 0x185, .alternate),
  (0x186, 0x187, .each "254,188"), (0x188, 0x188, .valid), (0x189, 0x18A, .shift 205),
  (0x18B, 0x18B, .each "18C"), (0x18C, 0x18D, .valid), (0x18E, 0x191, .each "1DD,259,25B,192"),
  (0x192, 0x192, .valid), (0x193, 0x194, .each "260,263"), (0x195, 0x195, .valid),
  (0x196, 0x198, .each "269,268,199"), (0x199, 0x19B, .valid), (0x19C, 0x19D, .each "26F,272"),
  (0x19E, 0x19E, .valid), (0x19F, 0x19F, .each "275"), (0x1A0, 0x1A5, .alternate),
  (0x1A6, 0x1A7, .each "280,1A8"), (0x1A8, 0x1A8, .valid), (0x1A9, 0x1A9, .each "283"),
  (0x1AA, 0x1AB, .valid), (0x1AC, 0x1AC, .each "1AD"), (0x1AD, 0x1AD, .valid),
  (0x1AE, 0x1AF, .each "288,1B0"), (0x1B0, 0x1B0, .valid), (0x1B1, 0x1B2, .shift 217),
  (0x1B3, 0x1B6, .alternate), (0x1B7, 0x1B8, .each "292,1B9"), (0x1B9, 0x1BB, .valid),
  (0x1BC, 0x1BC, .each "1BD"), (0x1BD, 0x1C3, .valid),
  (0x1C4, 0x1CC, .each "64 17E,64 17E,64 17E,6C 6A,6C 6A,6C 6A,6E 6A,6E 6A,6E 6A"),
  (0x1CD, 0x1DC, .alternate), (0x1DD, 0x1DD, .valid), (0x1DE, 0x1EF, .alternate),
  (0x1F0, 0x1F0, .valid), (0x1F1, 0x1F4, .each "64 7A,64 7A,64 7A,1F5"), (0x1F5, 0x1F5, .valid),
  (0x1F6, 0x1F7, .each "195,1BF"), (0x1F8, 0x21F, .alternate), (0x220, 0x220, .each "19E"),
  (0x221, 0x221, .valid), (0x222, 0x233, .alternate), (0x234, 0x239, .valid),
  (0x23A, 0x23B, .each "2C65,23C"), (0x23C, 0x23C, .valid), (0x23D, 0x23E, .each "19A,2C66"),
  (0x23F, 0x240, .valid), (0x241, 0x241, .each "242"), (0x242, 0x242, .valid),
  (0x243, 0x245, .each "180,289,28C"), (0x246, 0x24F, .alternate), (0x250, 0x2AF, .valid),
  (0x2B0, 0x2B8, .each "68,266,6A,72,279,27B,281,77,79"), (0x2B9, 0x2D7, .valid),
  (0x2D8, 0x2DD, .each "20 306,20 307,20 30A,20 328,20 303,20 30B"), (0x2DE, 0x2DF, .valid),
  (0x2E0, 0x2E4, .each "263,6C,73,78,295"), (0x2E5, 0x33F, .valid), (0x340, 0x341, .shift (-64)),
  (0x342, 0x342, .valid), (0x343, 0x345, .each "313,308 301,3B9"), (0x346, 0x34E, .valid),
  (0x34F, 0x34F, .ignored), (0x350, 0x36F, .valid), (0x370, 0x373, .alternate),
  (0x374, 0x374, .each "2B9"), (0x375, 0x375, .valid), (0x376, 0x376, .each "377"),
  (0x377, 0x377, .valid), (0x37A, 0x37A, .each "20 3B9"), (0x37B, 0x37D, .valid),
  (0x37E, 0x37F, .each "3B,3F3"), (0x384, 0x387, .each "20 301,20 308 301,3AC,B7"),
  (0x388, 0x38A, .shift 37), (0x38C, 0x38C, .each "3CC"), (0x38E, 0x38F, .shift 63),
  (0x390, 0x390, .valid), (0x391, 0x3A1, .shift 32), (0x3A3, 0x3AB, .shift 32),
  (0x3AC, 0x3CE, .valid), (0x3CF, 0x3D6, .each "3D7,3B2,3B8,3C5,3CD,3CB,3C6,3C0"),
  (0x3D7, 0x3D7, .valid), (0x3D8, 0x3EF, .alternate), (0x3F0, 0x3F2, .each "3BA,3C1,3C3"),
  (0x3F3, 0x3F3, .valid), (0x3F4, 0x3F5, .each "3B8,3B5"), (0x3F6, 0x3F6, .valid),
  (0x3F7, 0x3F7, .each "3F8"), (0x3F8, 0x3F8, .valid), (0x3F9, 0x3FA, .each "3C3,3FB"),
  (0x3FB, 0x3FC, .valid), (0x3FD, 0x3FF, .shift (-130)), (0x400, 0x40F, .shift 80),
  (0x410, 0x42F, .shift 32), (0x430, 0x45F, .valid), (0x460, 0x481, .alternate),
  (0x482, 0x489, .valid), (0x48A, 0x4BF, .alternate), (0x4C0, 0x4C0, .each "4CF"),
  (0x4C1, 0x4CE, .alternate), (0x4CF, 0x4CF, .valid), (0x4D0, 0x52F, .alternate),
  (0x531, 0x556, .shift 48), (0x559, 0x586, .valid), (0x587, 0x587, .each "565 582"),
  (0x588, 0x58A, .valid), (0x58D, 0x58F, .valid), (0x591, 0x5C7, .valid), (0x5D0, 0x5EA, .valid),
  (0x5EF, 0x5F4, .valid), (0x606, 0x61B, .valid), (0x61D, 0x674, .valid),
  (0x675, 0x678, .each "627 674,648 674,6C7 674,64A 674"), (0x679, 0x6DC, .valid),
  (0x6DE, 0x70D, .valid), (0x710, 0x74A, .valid), (0x74D, 0x7B1, .valid), (0x7C0, 0x7FA, .valid),
  (0x7FD, 0x82D, .valid), (0x830, 0x83E, .valid), (0x840, 0x85B, .valid), (0x85E, 0x85E, .valid),
  (0x860, 0x86A, .valid), (0x870, 0x88F, .valid), (0x897, 0x8E1, .valid), (0x8E3, 0x957, .valid),
  (0x958, 0x95E, .each "915 93C,916 93C,917 93C,91C 93C,921 93C,922 93C,92B 93C"),
  (0x95F, 0x95F, .each "92F 93C"), (0x960, 0x983, .valid), (0x985, 0x98C, .valid),
  (0x98F, 0x990, .valid), (0x993, 0x9A8, .valid), (0x9AA, 0x9B0, .valid), (0x9B2, 0x9B2, .valid),
  (0x9B6, 0x9B9, .valid), (0x9BC, 0x9C4, .valid), (0x9C7, 0x9C8, .valid), (0x9CB, 0x9CE, .valid),
  (0x9D7, 0x9D7, .valid), (0x9DC, 0x9DD, .each "9A1 9BC,9A2 9BC"),
  (0x9DF, 0x9DF, .each "9AF 9BC"), (0x9E0, 0x9E3, .valid), (0x9E6, 0x9FE, .valid),
  (0xA01, 0xA03, .valid), (0xA05, 0xA0A, .valid), (0xA0F, 0xA10, .valid), (0xA13, 0xA28, .valid),
  (0xA2A, 0xA30, .valid), (0xA32, 0xA32, .valid), (0xA33, 0xA33, .each "A32 A3C"),
  (0xA35, 0xA35, .valid), (0xA36, 0xA36, .each "A38 A3C"), (0xA38, 0xA39, .valid),
  (0xA3C, 0xA3C, .valid), (0xA3E, 0xA42, .valid), (0xA47, 0xA48, .valid), (0xA4B, 0xA4D, .valid),
  (0xA51, 0xA51, .valid), (0xA59, 0xA5B, .each "A16 A3C,A17 A3C,A1C A3C"),
  (0xA5C, 0xA5C, .valid), (0xA5E, 0xA5E, .each "A2B A3C"), (0xA66, 0xA76, .valid),
  (0xA81, 0xA83, .valid), (0xA85, 0xA8D, .valid), (0xA8F, 0xA91, .valid), (0xA93, 0xAA8, .valid),
  (0xAAA, 0xAB0, .valid), (0xAB2, 0xAB3, .valid), (0xAB5, 0xAB9, .valid), (0xABC, 0xAC5, .valid),
  (0xAC7, 0xAC9, .valid), (0xACB, 0xACD, .valid), (0xAD0, 0xAD0, .valid), (0xAE0, 0xAE3, .valid),
  (0xAE6, 0xAF1, .valid), (0xAF9, 0xAFF, .valid), (0xB01, 0xB03, .valid), (0xB05, 0xB0C, .valid),
  (0xB0F, 0xB10, .valid), (0xB13, 0xB28, .valid), (0xB2A, 0xB30, .valid), (0xB32, 0xB33, .valid),
  (0xB35, 0xB39, .valid), (0xB3C, 0xB44, .valid), (0xB47, 0xB48, .valid), (0xB4B, 0xB4D, .valid),
  (0xB55, 0xB57, .valid), (0xB5C, 0xB5D, .each "B21 B3C,B22 B3C"), (0xB5F, 0xB63, .valid),
  (0xB66, 0xB77, .valid), (0xB82, 0xB83, .valid), (0xB85, 0xB8A, .valid), (0xB8E, 0xB90, .valid),
  (0xB92, 0xB95, .valid), (0xB99, 0xB9A, .valid), (0xB9C, 0xB9C, .valid), (0xB9E, 0xB9F, .valid),
  (0xBA3, 0xBA4, .valid), (0xBA8, 0xBAA, .valid), (0xBAE, 0xBB9, .valid), (0xBBE, 0xBC2, .valid),
  (0xBC6, 0xBC8, .valid), (0xBCA, 0xBCD, .valid), (0xBD0, 0xBD0, .valid), (0xBD7, 0xBD7, .valid),
  (0xBE6, 0xBFA, .valid), (0xC00, 0xC0C, .valid), (0xC0E, 0xC10, .valid), (0xC12, 0xC28, .valid),
  (0xC2A, 0xC39, .valid), (0xC3C, 0xC44, .valid), (0xC46, 0xC48, .valid), (0xC4A, 0xC4D, .valid),
  (0xC55, 0xC56, .valid), (0xC58, 0xC5A, .valid), (0xC5C, 0xC5D, .valid), (0xC60, 0xC63, .valid),
  (0xC66, 0xC6F, .valid), (0xC77, 0xC8C, .valid), (0xC8E, 0xC90, .valid), (0xC92, 0xCA8, .valid),
  (0xCAA, 0xCB3, .valid), (0xCB5, 0xCB9, .valid), (0xCBC, 0xCC4, .valid), (0xCC6, 0xCC8, .valid),
  (0xCCA, 0xCCD, .valid), (0xCD5, 0xCD6, .valid), (0xCDC, 0xCDE, .valid), (0xCE0, 0xCE3, .valid),
  (0xCE6, 0xCEF, .valid), (0xCF1, 0xCF3, .valid), (0xD00, 0xD0C, .valid), (0xD0E, 0xD10, .valid),
  (0xD12, 0xD44, .valid), (0xD46, 0xD48, .valid), (0xD4A, 0xD4F, .valid), (0xD54, 0xD63, .valid),
  (0xD66, 0xD7F, .valid), (0xD81, 0xD83, .valid), (0xD85, 0xD96, .valid), (0xD9A, 0xDB1, .valid),
  (0xDB3, 0xDBB, .valid), (0xDBD, 0xDBD, .valid), (0xDC0, 0xDC6, .valid), (0xDCA, 0xDCA, .valid),
  (0xDCF, 0xDD4, .valid), (0xDD6, 0xDD6, .valid), (0xDD8, 0xDDF, .valid), (0xDE6, 0xDEF, .valid),
  (0xDF2, 0xDF4, .valid), (0xE01, 0xE32, .valid), (0xE33, 0xE33, .each "E4D E32"),
  (0xE34, 0xE3A, .valid), (0xE3F, 0xE5B, .valid), (0xE81, 0xE82, .valid), (0xE84, 0xE84, .valid),
  (0xE86, 0xE8A, .valid), (0xE8C, 0xEA3, .valid), (0xEA5, 0xEA5, .valid), (0xEA7, 0xEB2, .valid),
  (0xEB3, 0xEB3, .each "ECD EB2"), (0xEB4, 0xEBD, .valid), (0xEC0, 0xEC4, .valid),
  (0xEC6, 0xEC6, .valid), (0xEC8, 0xECE, .valid), (0xED0, 0xED9, .valid),
  (0xEDC, 0xEDD, .each "EAB E99,EAB EA1"), (0xEDE, 0xEDF, .valid), (0xF00, 0xF0B, .valid),
  (0xF0C, 0xF0C, .each "F0B"), (0xF0D, 0xF42, .valid), (0xF43, 0xF43, .each "F42 FB7"),
  (0xF44, 0xF47, .valid), (0xF49, 0xF4C, .valid), (0xF4D, 0xF4D, .each "F4C FB7"),
  (0xF4E, 0xF51, .valid), (0xF52, 0xF52, .each "F51 FB7"), (0xF53, 0xF56, .valid),
  (0xF57, 0xF57, .each "F56 FB7"), (0xF58, 0xF5B, .valid), (0xF5C, 0xF5C, .each "F5B FB7"),
  (0xF5D, 0xF68, .valid), (0xF69, 0xF69, .each "F40 FB5"), (0xF6A, 0xF6C, .valid),
  (0xF71, 0xF72, .valid), (0xF73, 0xF73, .each "F71 F72"), (0xF74, 0xF74, .valid),
  (0xF75, 0xF79, .each "F71 F74,FB2 F80,FB2 F71 F80,FB3 F80,FB3 F71 F80"),
  (0xF7A, 0xF80, .valid), (0xF81, 0xF81, .each "F71 F80"), (0xF82, 0xF92, .valid),
  (0xF93, 0xF93, .each "F92 FB7"), (0xF94, 0xF97, .valid), (0xF99, 0xF9C, .valid),
  (0xF9D, 0xF9D, .each "F9C FB7"), (0xF9E, 0xFA1, .valid), (0xFA2, 0xFA2, .each "FA1 FB7"),
  (0xFA3, 0xFA6, .valid), (0xFA7, 0xFA7, .each "FA6 FB7"), (0xFA8, 0xFAB, .valid),
  (0xFAC, 0xFAC, .each "FAB FB7"), (0xFAD, 0xFB8, .valid), (0xFB9, 0xFB9, .each "F90 FB5"),
  (0xFBA, 0xFBC, .valid), (0xFBE, 0xFCC, .valid), (0xFCE, 0xFDA, .valid)]

/-- The runs that begin from U+1000 and below U+3000. -/
def symbolMappings : List (Nat × Nat × Rule) := [
  (0x1000, 0x109F, .valid), (0x10A0, 0x10C5, .shift 7264), (0x10C7, 0x10C7, .each "2D27"),
  (0x10CD, 0x10CD, .each "2D2D"), (0x10D0, 0x10FB, .valid), (0x10FC, 0x10FC, .each "10DC"),
  (0x10FD, 0x115E, .valid), (0x115F, 0x1160, .ignored), (0x1161, 0x1248, .valid),
  (0x124A, 0x124D, .valid), (0x1250, 0x1256, .valid), (0x1258, 0x1258, .valid),
  (0x125A, 0x125D, .valid), (0x1260, 0x1288, .valid), (0x128A, 0x128D, .valid),
  (0x1290, 0x12B0, .valid), (0x12B2, 0x12B5, .valid), (0x12B8, 0x12BE, .valid),
  (0x12C0, 0x12C0, .valid), (0x12C2, 0x12C5, .valid), (0x12C8, 0x12D6, .valid),
  (0x12D8, 0x1310, .valid), (0x1312, 0x1315, .valid), (0x1318, 0x135A, .valid),
  (0x135D, 0x137C, .valid), (0x1380, 0x1399, .valid), (0x13A0, 0x13F5, .valid),
  (0x13F8, 0x13FD, .shift (-8)), (0x1400, 0x167F, .valid), (0x1681, 0x169C, .valid),
  (0x16A0, 0x16F8, .valid), (0x1700, 0x1715, .valid), (0x171F, 0x1736, .valid),
  (0x1740, 0x1753, .valid), (0x1760, 0x176C, .valid), (0x176E, 0x1770, .valid),
  (0x1772, 0x1773, .valid), (0x1780, 0x17B3, .valid), (0x17B4, 0x17B5, .ignored),
  (0x17B6, 0x17DD, .valid), (0x17E0, 0x17E9, .valid), (0x17F0, 0x17F9, .valid),
  (0x1800, 0x180A, .valid), (0x180B, 0x180F, .ignored), (0x1810, 0x1819, .valid),
  (0x1820, 0x1878, .valid), (0x1880, 0x18AA, .valid), (0x18B0, 0x18F5, .valid),
  (0x1900, 0x191E, .valid), (0x1920, 0x192B, .valid), (0x1930, 0x193B, .valid),
  (0x1940, 0x1940, .valid), (0x1944, 0x196D, .valid), (0x1970, 0x1974, .valid),
  (0x1980, 0x19AB, .valid), (0x19B0, 0x19C9, .valid), (0x19D0, 0x19DA, .valid),
  (0x19DE, 0x1A1B, .valid), (0x1A1E, 0x1A5E, .valid), (0x1A60, 0x1A7C, .valid),
  (0x1A7F, 0x1A89, .valid), (0x1A90, 0x1A99, .valid), (0x1AA0, 0x1AAD, .valid),
  (0x1AB0, 0x1ADD, .valid), (0x1AE0, 0x1AEB, .valid), (0x1B00, 0x1B4C, .valid),
  (0x1B4E, 0x1BF3, .valid), (0x1BFC, 0x1C37, .valid), (0x1C3B, 0x1C49, .valid),
  (0x1C4D, 0x1C7F, .valid), (0x1C80, 0x1C82, .each "432,434,43E"),
  (0x1C83, 0x1C84, .shift (-6210)), (0x1C85, 0x1C89, .each "442,44A,463,A64B,1C8A"),
  (0x1C8A, 0x1C8A, .valid), (0x1C90, 0x1CBA, .shift (-3008)), (0x1CBD, 0x1CBF, .shift (-3008)),
  (0x1CC0, 0x1CC7, .valid), (0x1CD0, 0x1CFA, .valid), (0x1D00, 0x1D2B, .valid),
  (0x1D2C, 0x1D2E, .each "61,E6,62"), (0x1D2F, 0x1D2F, .valid), (0x1D30, 0x1D31, .shift (-7372)),
  (0x1D32, 0x1D32, .each "1DD"), (0x1D33, 0x1D3A, .shift (-7372)), (0x1D3B, 0x1D3B, .valid),
  (0x1D3C, 0x1D3F, .each "6F,223,70,72"), (0x1D40, 0x1D41, .shift (-7372)),
  (0x1D42, 0x1D43, .each "77,61"), (0x1D44, 0x1D45, .shift (-6900)),
  (0x1D46, 0x1D47, .each "1D02,62"), (0x1D48, 0x1D49, .shift (-7396)),
  (0x1D4A, 0x1D4A, .each "259"), (0x1D4B, 0x1D4C, .shift (-6896)), (0x1D4D, 0x1D4D, .each "67"),
  (0x1D4E, 0x1D4E, .valid), (0x1D4F, 0x1D53, .each "6B,6D,14B,6F,254"),
  (0x1D54, 0x1D55, .shift (-62)), (0x1D56, 0x1D56, .each "70"), (0x1D57, 0x1D58, .shift (-7395)),
  (0x1D59, 0x1D5C, .each "1D1D,26F,76,1D25"), (0x1D5D, 0x1D5F, .shift (-6571)),
  (0x1D60, 0x1D61, .shift (-6554)), (0x1D62, 0x1D63, .each "69,72"),
  (0x1D64, 0x1D65, .shift (-7407)), (0x1D66, 0x1D67, .shift (-6580)),
  (0x1D68, 0x1D68, .each "3C1"), (0x1D69, 0x1D6A, .shift (-6563)), (0x1D6B, 0x1D77, .valid),
  (0x1D78, 0x1D78, .each "43D"), (0x1D79, 0x1D9A, .valid),
  (0x1D9B, 0x1DA3, .each "252,63,255,F0,25C,66,25F,261,265"), (0x1DA4, 0x1DA6, .shift (-6972)),
  (0x1DA7, 0x1DAD, .each "1D7B,29D,26D,1D85,29F,271,270"), (0x1DAE, 0x1DB1, .shift (-6972)),
  (0x1DB2, 0x1DB2, .each "278"), (0x1DB3, 0x1DB4, .shift (-6961)), (0x1DB5, 0x1DB5, .each "1AB"),
  (0x1DB6, 0x1DB7, .shift (-6957)), (0x1DB8, 0x1DB8, .each "1D1C"),
  (0x1DB9, 0x1DBA, .shift (-6958)), (0x1DBB, 0x1DBB, .each "7A"),
  (0x1DBC, 0x1DBE, .shift (-6956)), (0x1DBF, 0x1DBF, .each "3B8"), (0x1DC0, 0x1DFF, .valid),
  (0x1E00, 0x1E95, .alternate), (0x1E96, 0x1E99, .valid), (0x1E9A, 0x1E9B, .each "61 2BE,1E61"),
  (0x1E9C, 0x1E9D, .valid), (0x1E9E, 0x1E9E, .each "DF"), (0x1E9F, 0x1E9F, .valid),
  (0x1EA0, 0x1EFF, .alternate), (0x1F00, 0x1F07, .valid), (0x1F08, 0x1F0F, .shift (-8)),
  (0x1F10, 0x1F15, .valid), (0x1F18, 0x1F1D, .shift (-8)), (0x1F20, 0x1F27, .valid),
  (0x1F28, 0x1F2F, .shift (-8)), (0x1F30, 0x1F37, .valid), (0x1F38, 0x1F3F, .shift (-8)),
  (0x1F40, 0x1F45, .valid), (0x1F48, 0x1F4D, .shift (-8)), (0x1F50, 0x1F57, .valid),
  (0x1F59, 0x1F59, .each "1F51"), (0x1F5B, 0x1F5B, .each "1F53"), (0x1F5D, 0x1F5D, .each "1F55"),
  (0x1F5F, 0x1F5F, .each "1F57"), (0x1F60, 0x1F67, .valid), (0x1F68, 0x1F6F, .shift (-8)),
  (0x1F70, 0x1F70, .valid), (0x1F71, 0x1F71, .each "3AC"), (0x1F72, 0x1F72, .valid),
  (0x1F73, 0x1F73, .each "3AD"), (0x1F74, 0x1F74, .valid), (0x1F75, 0x1F75, .each "3AE"),
  (0x1F76, 0x1F76, .valid), (0x1F77, 0x1F77, .each "3AF"), (0x1F78, 0x1F78, .valid),
  (0x1F79, 0x1F79, .each "3CC"), (0x1F7A, 0x1F7A, .valid), (0x1F7B, 0x1F7B, .each "3CD"),
  (0x1F7C, 0x1F7C, .valid), (0x1F7D, 0x1F7D, .each "3CE"),
  (0x1F80, 0x1F85, .each "1F00 3B9,1F01 3B9,1F02 3B9,1F03 3B9,1F04 3B9,1F05 3B9"),
  (0x1F86, 0x1F8B, .each "1F06 3B9,1F07 3B9,1F00 3B9,1F01 3B9,1F02 3B9,1F03 3B9"),
  (0x1F8C, 0x1F91, .each "1F04 3B9,1F05 3B9,1F06 3B9,1F07 3B9,1F20 3B9,1F21 3B9"),
  (0x1F92, 0x1F97, .each "1F22 3B9,1F23 3B9,1F24 3B9,1F25 3B9,1F26 3B9,1F27 3B9"),
  (0x1F98, 0x1F9D, .each "1F20 3B9,1F21 3B9,1F22 3B9,1F23 3B9,1F24 3B9,1F25 3B9"),
  (0x1F9E, 0x1FA3, .each "1F26 3B9,1F27 3B9,1F60 3B9,1F61 3B9,1F62 3B9,1F63 3B9"),
  (0x1FA4, 0x1FA9, .each "1F64 3B9,1F65 3B9,1F66 3B9,1F67 3B9,1F60 3B9,1F61 3B9"),
  (0x1FAA, 0x1FAF, .each "1F62 3B9,1F63 3B9,1F64 3B9,1F65 3B9,1F66 3B9,1F67 3B9"),
  (0x1FB0, 0x1FB1, .valid), (0x1FB2, 0x1FB4, .each "1F70 3B9,3B1 3B9,3AC 3B9"),
  (0x1FB6, 0x1FB6, .valid), (0x1FB7, 0x1FB7, .each "1FB6 3B9"), (0x1FB8, 0x1FB9, .shift (-8)),
  (0x1FBA, 0x1FC1, .each "1F70,3AC,3B1 3B9,20 313,3B9,20 313,20 342,20 308 342"),
  (0x1FC2, 0x1FC4, .each "1F74 3B9,3B7 3B9,3AE 3B9"), (0x1FC6, 0x1FC6, .valid),
  (0x1FC7, 0x1FCE, .each "1FC6 3B9,1F72,3AD,1F74,3AE,3B7 3B9,20 313 300,20 313 301"),
  (0x1FCF, 0x1FCF, .each "20 313 342"), (0x1FD0, 0x1FD2, .valid), (0x1FD3, 0x1FD3, .each "390"),
  (0x1FD6, 0x1FD7, .valid), (0x1FD8, 0x1FD9, .shift (-8)), (0x1FDA, 0x1FDB, .each "1F76,3AF"),
  (0x1FDD, 0x1FDF, .each "20 314 300,20 314 301,20 314 342"), (0x1FE0, 0x1FE2, .valid),
  (0x1FE3, 0x1FE3, .each "3B0"), (0x1FE4, 0x1FE7, .valid), (0x1FE8, 0x1FE9, .shift (-8)),
  (0x1FEA, 0x1FEF, .each "1F7A,3CD,1FE5,20 308 300,20 308 301,60"),
  (0x1FF2, 0x1FF4, .each "1F7C 3B9,3C9 3B9,3CE 3B9"), (0x1FF6, 0x1FF6, .valid),
  (0x1FF7, 0x1FFE, .each "1FF6 3B9,1F78,3CC,1F7C,3CE,3C9 3B9,20 301,20 314"),
  (0x2000, 0x200A, .each "20,20,20,20,20,20,20,20,20,20,20"), (0x200B, 0x200B, .ignored),
  (0x200C, 0x200D, .valid), (0x2010, 0x2010, .valid), (0x2011, 0x2011, .each "2010"),
  (0x2012, 0x2016, .valid), (0x2017, 0x2017, .each "20 333"), (0x2018, 0x2023, .valid),
  (0x2027, 0x2027, .valid), (0x202F, 0x202F, .each "20"), (0x2030, 0x2032, .valid),
  (0x2033, 0x2034, .each "2032 2032,2032 2032 2032"), (0x2035, 0x2035, .valid),
  (0x2036, 0x2037, .each "2035 2035,2035 2035 2035"), (0x2038, 0x203B, .valid),
  (0x203C, 0x203C, .each "21 21"), (0x203D, 0x203D, .valid), (0x203E, 0x203E, .each "20 305"),
  (0x203F, 0x2046, .valid), (0x2047, 0x2049, .each "3F 3F,3F 21,21 3F"),
  (0x204A, 0x2056, .valid), (0x2057, 0x2057, .each "2032 2032 2032 2032"),
  (0x2058, 0x205E, .valid), (0x205F, 0x205F, .each "20"), (0x2060, 0x2064, .ignored),
  (0x206A, 0x206F, .ignored), (0x2070, 0x2071, .each "30,69"), (0x2074, 0x2079, .shift (-8256)),
  (0x207A, 0x207C, .each "2B,2212,3D"), (0x207D, 0x207E, .shift (-8277)),
  (0x207F, 0x207F, .each "6E"), (0x2080, 0x2089, .shift (-8272)),
  (0x208A, 0x208C, .each "2B,2212,3D"), (0x208D, 0x208E, .shift (-8293)),
  (0x2090, 0x2095, .each "61,65,6F,78,259,68"), (0x2096, 0x2099, .shift (-8235)),
  (0x209A, 0x209A, .each "70"), (0x209B, 0x209C, .shift (-8232)), (0x20A0, 0x20A7, .valid),
  (0x20A8, 0x20A8, .each "72 73"), (0x20A9, 0x20C1, .valid), (0x20D0, 0x20F0, .valid),
  (0x2100, 0x2103, .each "61 2F 63,61 2F 73,63,B0 63"), (0x2104, 0x2104, .valid),
  (0x2105, 0x2107, .each "63 2F 6F,63 2F 75,25B"), (0x2108, 0x2108, .valid),
  (0x2109, 0x2109, .each "B0 66"), (0x210A, 0x210B, .shift (-8355)),
  (0x210C, 0x2113, .each "68,68,68,127,69,69,6C,6C"), (0x2114, 0x2114, .valid),
  (0x2115, 0x2116, .each "6E,6E 6F"), (0x2117, 0x2118, .valid), (0x2119, 0x211B, .shift (-8361)),
  (0x211C, 0x211D, .each "72,72"), (0x211E, 0x211F, .valid),
  (0x2120, 0x2122, .each "73 6D,74 65 6C,74 6D"), (0x2123, 0x2123, .valid),
  (0x2124, 0x2124, .each "7A"), (0x2125, 0x2125, .valid), (0x2126, 0x2126, .each "3C9"),
  (0x2127, 0x2127, .valid), (0x2128, 0x2128, .each "7A"), (0x2129, 0x2129, .valid),
  (0x212A, 0x212B, .each "6B,E5"), (0x212C, 0x212D, .shift (-8394)), (0x212E, 0x212E, .valid),
  (0x212F, 0x212F, .each "65"), (0x2130, 0x2131, .shift (-8395)),
  (0x2132, 0x2134, .each "214E,6D,6F"), (0x2135, 0x2138, .shift (-7013)),
  (0x2139, 0x2139, .each "69"), (0x213A, 0x213A, .valid),
  (0x213B, 0x2140, .each "66 61 78,3C0,3B3,3B3,3C0,2211"), (0x2141, 0x2144, .valid),
  (0x2145, 0x2145, .each "64"), (0x2146, 0x2147, .shift (-8418)),
  (0x2148, 0x2149, .shift (-8415)), (0x214A, 0x214F, .valid),
  (0x2150, 0x2154, .each "31 2044 37,31 2044 39,31 2044 31 30,31 2044 33,32 2044 33"),
  (0x2155, 0x2159, .each "31 2044 35,32 2044 35,33 2044 35,34 2044 35,31 2044 36"),
  (0x215A, 0x215E, .each "35 2044 36,31 2044 38,33 2044 38,35 2044 38,37 2044 38"),
  (0x215F, 0x2166, .each "31 2044,69,69 69,69 69 69,69 76,76,76 69,76 69 69"),
  (0x2167, 0x216C, .each "76 69 69 69,69 78,78,78 69,78 69 69,6C"),
  (0x216D, 0x216E, .shift (-8458)),
  (0x216F, 0x2177, .each "6D,69,69 69,69 69 69,69 76,76,76 69,76 69 69,76 69 69 69"),
  (0x2178, 0x217C, .each "69 78,78,78 69,78 69 69,6C"), (0x217D, 0x217E, .shift (-8474)),
  (0x217F, 0x217F, .each "6D"), (0x2180, 0x2182, .valid), (0x2183, 0x2183, .each "2184"),
  (0x2184, 0x2188, .valid), (0x2189, 0x2189, .each "30 2044 33"), (0x218A, 0x218B, .valid),
  (0x2190, 0x222B, .valid), (0x222C, 0x222D, .each "222B 222B,222B 222B 222B"),
  (0x222E, 0x222E, .valid), (0x222F, 0x2230, .each "222E 222E,222E 222E 222E"),
  (0x2231, 0x2328, .valid), (0x2329, 0x232A, .shift 3295), (0x232B, 0x2429, .valid),
  (0x2440, 0x244A, .valid), (0x2460, 0x2468, .shift (-9263)),
  (0x2469, 0x2472, .each "31 30,31 31,31 32,31 33,31 34,31 35,31 36,31 37,31 38,31 39"),
  (0x2473, 0x2479, .each "32 30,28 31 29,28 32 29,28 33 29,28 34 29,28 35 29,28 36 29"),
  (0x247A, 0x247E, .each "28 37 29,28 38 29,28 39 29,28 31 30 29,28 31 31 29"),
  (0x247F, 0x2483, .each "28 31 32 29,28 31 33 29,28 31 34 29,28 31 35 29,28 31 36 29"),
  (0x2484, 0x2487, .each "28 31 37 29,28 31 38 29,28 31 39 29,28 32 30 29"),
  (0x249C, 0x24A1, .each "28 61 29,28 62 29,28 63 29,28 64 29,28 65 29,28 66 29"),
  (0x24A2, 0x24A7, .each "28 67 29,28 68 29,28 69 29,28 6A 29,28 6B 29,28 6C 29"),
  (0x24A8, 0x24AD, .each "28 6D 29,28 6E 29,28 6F 29,28 70 29,28 71 29,28 72 29"),
  (0x24AE, 0x24B3, .each "28 73 29,28 74 29,28 75 29,28 76 29,28 77 29,28 78 29"),
  (0x24B4, 0x24B5, .each "28 79 29,28 7A 29"), (0x24B6, 0x24CF, .shift (-9301)),
  (0x24D0, 0x24E9, .shift (-9327)), (0x24EA, 0x24EA, .each "30"), (0x24EB, 0x2A0B, .valid),
  (0x2A0C, 0x2A0C, .each "222B 222B 222B 222B"), (0x2A0D, 0x2A73, .valid),
  (0x2A74, 0x2A76, .each "3A 3A 3D,3D 3D,3D 3D 3D"), (0x2A77, 0x2ADB, .valid),
  (0x2ADC, 0x2ADC, .each "2ADD 338"), (0x2ADD, 0x2B73, .valid), (0x2B76, 0x2BFF, .valid),
  (0x2C00, 0x2C2F, .shift 48), (0x2C30, 0x2C5F, .valid), (0x2C60, 0x2C60, .each "2C61"),
  (0x2C61, 0x2C61, .valid), (0x2C62, 0x2C64, .each "26B,1D7D,27D"), (0x2C65, 0x2C66, .valid),
  (0x2C67, 0x2C6C, .alternate), (0x2C6D, 0x2C70, .each "251,271,250,252"),
  (0x2C71, 0x2C71, .valid), (0x2C72, 0x2C72, .each "2C73"), (0x2C73, 0x2C74, .valid),
  (0x2C75, 0x2C75, .each "2C76"), (0x2C76, 0x2C7B, .valid), (0x2C7C, 0x2C7D, .each "6A,76"),
  (0x2C7E, 0x2C7F, .shift (-10815)), (0x2C80, 0x2CE3, .alternate), (0x2CE4, 0x2CEA, .valid),
  (0x2CEB, 0x2CEE, .alternate), (0x2CEF, 0x2CF1, .valid), (0x2CF2, 0x2CF2, .each "2CF3"),
  (0x2CF3, 0x2CF3, .valid), (0x2CF9, 0x2D25, .valid), (0x2D27, 0x2D27, .valid),
  (0x2D2D, 0x2D2D, .valid), (0x2D30, 0x2D67, .valid), (0x2D6F, 0x2D6F, .each "2D61"),
  (0x2D70, 0x2D70, .valid), (0x2D7F, 0x2D96, .valid), (0x2DA0, 0x2DA6, .valid),
  (0x2DA8, 0x2DAE, .valid), (0x2DB0, 0x2DB6, .valid), (0x2DB8, 0x2DBE, .valid),
  (0x2DC0, 0x2DC6, .valid), (0x2DC8, 0x2DCE, .valid), (0x2DD0, 0x2DD6, .valid),
  (0x2DD8, 0x2DDE, .valid), (0x2DE0, 0x2E5D, .valid), (0x2E80, 0x2E99, .valid),
  (0x2E9B, 0x2E9E, .valid), (0x2E9F, 0x2E9F, .each "6BCD"), (0x2EA0, 0x2EF2, .valid),
  (0x2EF3, 0x2EF3, .each "9F9F"),
  (0x2F00, 0x2F0B, .each "4E00,4E28,4E36,4E3F,4E59,4E85,4E8C,4EA0,4EBA,513F,5165,516B"),
  (0x2F0C, 0x2F17, .each "5182,5196,51AB,51E0,51F5,5200,529B,52F9,5315,531A,5338,5341"),
  (0x2F18, 0x2F23, .each "535C,5369,5382,53B6,53C8,53E3,56D7,571F,58EB,5902,590A,5915"),
  (0x2F24, 0x2F2F, .each "5927,5973,5B50,5B80,5BF8,5C0F,5C22,5C38,5C6E,5C71,5DDB,5DE5"),
  (0x2F30, 0x2F3B, .each "5DF1,5DFE,5E72,5E7A,5E7F,5EF4,5EFE,5F0B,5F13,5F50,5F61,5F73"),
  (0x2F3C, 0x2F47, .each "5FC3,6208,6236,624B,652F,6534,6587,6597,65A4,65B9,65E0,65E5"),
  (0x2F48, 0x2F53, .each "66F0,6708,6728,6B20,6B62,6B79,6BB3,6BCB,6BD4,6BDB,6C0F,6C14"),
  (0x2F54, 0x2F5F, .each "6C34,706B,722A,7236,723B,723F,7247,7259,725B,72AC,7384,7389"),
  (0x2F60, 0x2F6B, .each "74DC,74E6,7518,751F,7528,7530,758B,7592,7676,767D,76AE,76BF"),
  (0x2F6C, 0x2F77, .each "76EE,77DB,77E2,77F3,793A,79B8,79BE,7A74,7ACB,7AF9,7C73,7CF8"),
  (0x2F78, 0x2F83, .each "7F36,7F51,7F8A,7FBD,8001,800C,8012,8033,807F,8089,81E3,81EA"),
  (0x2F84, 0x2F8F, .each "81F3,81FC,820C,821B,821F,826E,8272,8278,864D,866B,8840,884C"),
  (0x2F90, 0x2F9B, .each "8863,897E,898B,89D2,8A00,8C37,8C46,8C55,8C78,8C9D,8D64,8D70"),
  (0x2F9C, 0x2FA7, .each "8DB3,8EAB,8ECA,8F9B,8FB0,8FB5,9091,9149,91C6,91CC,91D1,9577"),
  (0x2FA8, 0x2FB3, .each "9580,961C,96B6,96B9,96E8,9751,975E,9762,9769,97CB,97ED,97F3"),
  (0x2FB4, 0x2FBF, .each "9801,98A8,98DB,98DF,9996,9999,99AC,9AA8,9AD8,9ADF,9B25,9B2F"),
  (0x2FC0, 0x2FCB, .each "9B32,9B3C,9B5A,9CE5,9E75,9E7F,9EA5,9EBB,9EC3,9ECD,9ED1,9EF9"),
  (0x2FCC, 0x2FD5, .each "9EFD,9F0E,9F13,9F20,9F3B,9F4A,9F52,9F8D,9F9C,9FA0")]

/-- The runs that begin from U+3000 and below U+FE00. -/
def ideographMappings : List (Nat × Nat × Rule) := [
  (0x3000, 0x3000, .each "20"), (0x3001, 0x3001, .valid), (0x3002, 0x3002, .each "2E"),
  (0x3003, 0x3035, .valid), (0x3036, 0x3036, .each "3012"), (0x3037, 0x3037, .valid),
  (0x3038, 0x3038, .each "5341"), (0x3039, 0x303A, .shift 8971), (0x303B, 0x303F, .valid),
  (0x3041, 0x3096, .valid), (0x3099, 0x309A, .valid), (0x309B, 0x309C, .each "20 3099,20 309A"),
  (0x309D, 0x309E, .valid), (0x309F, 0x309F, .each "3088 308A"), (0x30A0, 0x30FE, .valid),
  (0x30FF, 0x30FF, .each "30B3 30C8"), (0x3105, 0x312F, .valid),
  (0x3131, 0x3132, .shift (-8241)), (0x3133, 0x3134, .each "11AA,1102"),
  (0x3135, 0x3136, .shift (-8073)), (0x3137, 0x3139, .shift (-8244)),
  (0x313A, 0x313F, .shift (-8074)), (0x3140, 0x3140, .each "111A"),
  (0x3141, 0x3143, .shift (-8251)), (0x3144, 0x3144, .each "1121"),
  (0x3145, 0x314E, .shift (-8252)), (0x314F, 0x3163, .shift (-8174)), (0x3164, 0x3164, .ignored),
  (0x3165, 0x3166, .shift (-8273)), (0x3167, 0x3168, .shift (-8096)),
  (0x3169, 0x3170, .each "11CC,11CE,11D3,11D7,11D9,111C,11DD,11DF"),
  (0x3171, 0x3172, .shift (-8276)), (0x3173, 0x3173, .each "1120"),
  (0x3174, 0x3175, .shift (-8274)), (0x3176, 0x3177, .each "1127,1129"),
  (0x3178, 0x317C, .shift (-8269)), (0x317D, 0x3181, .each "1132,1136,1140,1147,114C"),
  (0x3182, 0x3183, .shift (-8081)), (0x3184, 0x3186, .shift (-8237)),
  (0x3187, 0x3188, .shift (-8195)), (0x3189, 0x3189, .each "1188"),
  (0x318A, 0x318B, .shift (-8185)), (0x318C, 0x318E, .each "1194,119E,11A1"),
  (0x3190, 0x3191, .valid),
  (0x3192, 0x319D, .each "4E00,4E8C,4E09,56DB,4E0A,4E2D,4E0B,7532,4E59,4E19,4E01,5929"),
  (0x319E, 0x319F, .each "5730,4EBA"), (0x31A0, 0x31E5, .valid), (0x31F0, 0x31FF, .valid),
  (0x3200, 0x3204, .each "28 1100 29,28 1102 29,28 1103 29,28 1105 29,28 1106 29"),
  (0x3205, 0x3209, .each "28 1107 29,28 1109 29,28 110B 29,28 110C 29,28 110E 29"),
  (0x320A, 0x320E, .each "28 110F 29,28 1110 29,28 1111 29,28 1112 29,28 AC00 29"),
  (0x320F, 0x3213, .each "28 B098 29,28 B2E4 29,28 B77C 29,28 B9C8 29,28 BC14 29"),
  (0x3214, 0x3218, .each "28 C0AC 29,28 C544 29,28 C790 29,28 CC28 29,28 CE74 29"),
  (0x3219, 0x321D, .each "28 D0C0 29,28 D30C 29,28 D558 29,28 C8FC 29,28 C624 C804 29"),
  (0x321E, 0x321E, .each "28 C624 D6C4 29"),
  (0x3220, 0x3224, .each "28 4E00 29,28 4E8C 29,28 4E09 29,28 56DB 29,28 4E94 29"),
  (0x3225, 0x3229, .each "28 516D 29,28 4E03 29,28 516B 29,28 4E5D 29,28 5341 29"),
  (0x322A, 0x322E, .each "28 6708 29,28 706B 29,28 6C34 29,28 6728 29,28 91D1 29"),
  (0x322F, 0x3233, .each "28 571F 29,28 65E5 29,28 682A 29,28 6709 29,28 793E 29"),
  (0x3234, 0x3238, .each "28 540D 29,28 7279 29,28 8CA1 29,28 795D 29,28 52B4 29"),
  (0x3239, 0x323D, .each "28 4EE3 29,28 547C 29,28 5B66 29,28 76E3 29,28 4F01 29"),
  (0x323E, 0x3242, .each "28 8CC7 29,28 5354 29,28 796D 29,28 4F11 29,28 81EA 29"),
  (0x3243, 0x3247, .each "28 81F3 29,554F,5E7C,6587,7B8F"), (0x3248, 0x324F, .valid),
  (0x3250, 0x3258, .each "70 74 65,32 31,32 32,32 33,32 34,32 35,32 36,32 37,32 38"),
  (0x3259, 0x3260, .each "32 39,33 30,33 31,33 32,33 33,33 34,33 35,1100"),
  (0x3261, 0x3262, .shift (-8543)), (0x3263, 0x3265, .shift (-8542)),
  (0x3266, 0x3266, .each "1109"), (0x3267, 0x3268, .shift (-8540)),
  (0x3269, 0x326D, .shift (-8539)),
  (0x326E, 0x3279, .each "AC00,B098,B2E4,B77C,B9C8,BC14,C0AC,C544,C790,CC28,CE74,D0C0"),
  (0x327A, 0x327E, .each "D30C,D558,CC38 ACE0,C8FC C758,C6B0"), (0x327F, 0x327F, .valid),
  (0x3280, 0x328B, .each "4E00,4E8C,4E09,56DB,4E94,516D,4E03,516B,4E5D,5341,6708,706B"),
  (0x328C, 0x3297, .each "6C34,6728,91D1,571F,65E5,682A,6709,793E,540D,7279,8CA1,795D"),
  (0x3298, 0x32A3, .each "52B4,79D8,7537,5973,9069,512A,5370,6CE8,9805,4F11,5199,6B63"),
  (0x32A4, 0x32AF, .each "4E0A,4E2D,4E0B,5DE6,53F3,533B,5B97,5B66,76E3,4F01,8CC7,5354"),
  (0x32B0, 0x32B9, .each "591C,33 36,33 37,33 38,33 39,34 30,34 31,34 32,34 33,34 34"),
  (0x32BA, 0x32C2, .each "34 35,34 36,34 37,34 38,34 39,35 30,31 6708,32 6708,33 6708"),
  (0x32C3, 0x32C9, .each "34 6708,35 6708,36 6708,37 6708,38 6708,39 6708,31 30 6708"),
  (0x32CA, 0x32D0, .each "31 31 6708,31 32 6708,68 67,65 72 67,65 76,6C 74 64,30A2"),
  (0x32D1, 0x32D3, .each "30A4,30A6,30A8"), (0x32D4, 0x32D5, .shift (-554)),
  (0x32D6, 0x32E1, .each "30AD,30AF,30B1,30B3,30B5,30B7,30B9,30BB,30BD,30BF,30C1,30C4"),
  (0x32E2, 0x32E3, .each "30C6,30C8"), (0x32E4, 0x32E9, .shift (-538)),
  (0x32EA, 0x32ED, .each "30D2,30D5,30D8,30DB"), (0x32EE, 0x32F2, .shift (-528)),
  (0x32F3, 0x32F4, .each "30E4,30E6"), (0x32F5, 0x32FA, .shift (-525)),
  (0x32FB, 0x32FE, .shift (-524)),
  (0x32FF, 0x3301, .each "4EE4 548C,30A2 30D1 30FC 30C8,30A2 30EB 30D5 30A1"),
  (0x3302, 0x3304, .each "30A2 30F3 30DA 30A2,30A2 30FC 30EB,30A4 30CB 30F3 30B0"),
  (0x3305, 0x3307, .each "30A4 30F3 30C1,30A6 30A9 30F3,30A8 30B9 30AF 30FC 30C9"),
  (0x3308, 0x330A, .each "30A8 30FC 30AB 30FC,30AA 30F3 30B9,30AA 30FC 30E0"),
  (0x330B, 0x330D, .each "30AB 30A4 30EA,30AB 30E9 30C3 30C8,30AB 30ED 30EA 30FC"),
  (0x330E, 0x3311, .each "30AC 30ED 30F3,30AC 30F3 30DE,30AE 30AC,30AE 30CB 30FC"),
  (0x3312, 0x3314, .each "30AD 30E5 30EA 30FC,30AE 30EB 30C0 30FC,30AD 30ED"),
  (0x3315, 0x3316, .each "30AD 30ED 30B0 30E9 30E0,30AD 30ED 30E1 30FC 30C8 30EB"),
  (0x3317, 0x3318, .each "30AD 30ED 30EF 30C3 30C8,30B0 30E9 30E0"),
  (0x3319, 0x331A, .each "30B0 30E9 30E0 30C8 30F3,30AF 30EB 30BC 30A4 30ED"),
  (0x331B, 0x331D, .each "30AF 30ED 30FC 30CD,30B1 30FC 30B9,30B3 30EB 30CA"),
  (0x331E, 0x3320, .each "30B3 30FC 30DD,30B5 30A4 30AF 30EB,30B5 30F3 30C1 30FC 30E0"),
  (0x3321, 0x3323, .each "30B7 30EA 30F3 30B0,30BB 30F3 30C1,30BB 30F3 30C8"),
  (0x3324, 0x3328, .each "30C0 30FC 30B9,30C7 30B7,30C9 30EB,30C8 30F3,30CA 30CE"),
  (0x3329, 0x332B, .each "30CE 30C3 30C8,30CF 30A4 30C4,30D1 30FC 30BB 30F3 30C8"),
  (0x332C, 0x332E, .each "30D1 30FC 30C4,30D0 30FC 30EC 30EB,30D4 30A2 30B9 30C8 30EB"),
  (0x332F, 0x3332, .each "30D4 30AF 30EB,30D4 30B3,30D3 30EB,30D5 30A1 30E9 30C3 30C9"),
  (0x3333, 0x3335, .each "30D5 30A3 30FC 30C8,30D6 30C3 30B7 30A7 30EB,30D5 30E9 30F3"),
  (0x3336, 0x3338, .each "30D8 30AF 30BF 30FC 30EB,30DA 30BD,30DA 30CB 30D2"),
  (0x3339, 0x333C, .each "30D8 30EB 30C4,30DA 30F3 30B9,30DA 30FC 30B8,30D9 30FC 30BF"),
  (0x333D, 0x3340, .each "30DD 30A4 30F3 30C8,30DC 30EB 30C8,30DB 30F3,30DD 30F3 30C9"),
  (0x3341, 0x3343, .each "30DB 30FC 30EB,30DB 30FC 30F3,30DE 30A4 30AF 30ED"),
  (0x3344, 0x3346, .each "30DE 30A4 30EB,30DE 30C3 30CF,30DE 30EB 30AF"),
  (0x3347, 0x3349, .each "30DE 30F3 30B7 30E7 30F3,30DF 30AF 30ED 30F3,30DF 30EA"),
  (0x334A, 0x334C, .each "30DF 30EA 30D0 30FC 30EB,30E1 30AC,30E1 30AC 30C8 30F3"),
  (0x334D, 0x334F, .each "30E1 30FC 30C8 30EB,30E4 30FC 30C9,30E4 30FC 30EB"),
  (0x3350, 0x3353, .each "30E6 30A2 30F3,30EA 30C3 30C8 30EB,30EA 30E9,30EB 30D4 30FC"),
  (0x3354, 0x3356, .each "30EB 30FC 30D6 30EB,30EC 30E0,30EC 30F3 30C8 30B2 30F3"),
  (0x3357, 0x335C, .each "30EF 30C3 30C8,30 70B9,31 70B9,32 70B9,33 70B9,34 70B9"),
  (0x335D, 0x3362, .each "35 70B9,36 70B9,37 70B9,38 70B9,39 70B9,31 30 70B9"),
  (0x3363, 0x3367, .each "31 31 70B9,31 32 70B9,31 33 70B9,31 34 70B9,31 35 70B9"),
  (0x3368, 0x336C, .each "31 36 70B9,31 37 70B9,31 38 70B9,31 39 70B9,32 30 70B9"),
  (0x336D, 0x3372, .each "32 31 70B9,32 32 70B9,32 33 70B9,32 34 70B9,68 70 61,64 61"),
  (0x3373, 0x337A, .each "61 75,62 61 72,6F 76,70 63,64 6D,64 6D 32,64 6D 33,69 75"),
  (0x337B, 0x337F, .each "5E73 6210,662D 548C,5927 6B63,660E 6CBB,682A 5F0F 4F1A 793E"),
  (0x3380, 0x3388, .each "70 61,6E 61,3BC 61,6D 61,6B 61,6B 62,6D 62,67 62,63 61 6C"),
  (0x3389, 0x3390, .each "6B 63 61 6C,70 66,6E 66,3BC 66,3BC 67,6D 67,6B 67,68 7A"),
  (0x3391, 0x3398, .each "6B 68 7A,6D 68 7A,67 68 7A,74 68 7A,3BC 6C,6D 6C,64 6C,6B 6C"),
  (0x3399, 0x33A1, .each "66 6D,6E 6D,3BC 6D,6D 6D,63 6D,6B 6D,6D 6D 32,63 6D 32,6D 32"),
  (0x33A2, 0x33A7, .each "6B 6D 32,6D 6D 33,63 6D 33,6D 33,6B 6D 33,6D 2215 73"),
  (0x33A8, 0x33AD, .each "6D 2215 73 32,70 61,6B 70 61,6D 70 61,67 70 61,72 61 64"),
  (0x33AE, 0x33B2, .each "72 61 64 2215 73,72 61 64 2215 73 32,70 73,6E 73,3BC 73"),
  (0x33B3, 0x33BB, .each "6D 73,70 76,6E 76,3BC 76,6D 76,6B 76,6D 76,70 77,6E 77"),
  (0x33BC, 0x33C1, .each "3BC 77,6D 77,6B 77,6D 77,6B 3C9,6D 3C9"),
  (0x33C3, 0x33C6, .each "62 71,63 63,63 64,63 2215 6B 67"),
  (0x33C8, 0x33D1, .each "64 62,67 79,68 61,68 70,69 6E,6B 6B,6B 6D,6B 74,6C 6D,6C 6E"),
  (0x33D2, 0x33D7, .each "6C 6F 67,6C 78,6D 62,6D 69 6C,6D 6F 6C,70 68"),
  (0x33D9, 0x33DF, .each "70 70 6D,70 72,73 72,73 76,77 62,76 2215 6D,61 2215 6D"),
  (0x33E0, 0x33E6, .each "31 65E5,32 65E5,33 65E5,34 65E5,35 65E5,36 65E5,37 65E5"),
  (0x33E7, 0x33EC, .each "38 65E5,39 65E5,31 30 65E5,31 31 65E5,31 32 65E5,31 33 65E5"),
  (0x33ED, 0x33F1, .each "31 34 65E5,31 35 65E5,31 36 65E5,31 37 65E5,31 38 65E5"),
  (0x33F2, 0x33F6, .each "31 39 65E5,32 30 65E5,32 31 65E5,32 32 65E5,32 33 65E5"),
  (0x33F7, 0x33FB, .each "32 34 65E5,32 35 65E5,32 36 65E5,32 37 65E5,32 38 65E5"),
  (0x33FC, 0x33FF, .each "32 39 65E5,33 30 65E5,33 31 65E5,67 61 6C"), (0x3400, 0xA48C, .valid),
  (0xA490, 0xA4C6, .valid), (0xA4D0, 0xA62B, .valid), (0xA640, 0xA66D, .alternate),
  (0xA66E, 0xA67F, .valid), (0xA680, 0xA69B, .alternate), (0xA69C, 0xA69D, .each "44A,44C"),
  (0xA69E, 0xA6F7, .valid), (0xA700, 0xA721, .valid), (0xA722, 0xA72F, .alternate),
  (0xA730, 0xA731, .valid), (0xA732, 0xA76F, .alternate), (0xA770, 0xA770, .each "A76F"),
  (0xA771, 0xA778, .valid), (0xA779, 0xA77C, .alternate), (0xA77D, 0xA77D, .each "1D79"),
  (0xA77E, 0xA787, .alternate), (0xA788, 0xA78A, .valid), (0xA78B, 0xA78B, .each "A78C"),
  (0xA78C, 0xA78C, .valid), (0xA78D, 0xA78D, .each "265"), (0xA78E, 0xA78F, .valid),
  (0xA790, 0xA793, .alternate), (0xA794, 0xA795, .valid), (0xA796, 0xA7A9, .alternate),
  (0xA7AA, 0xA7AE, .each "266,25C,261,26C,26A"), (0xA7AF, 0xA7AF, .valid),
  (0xA7B0, 0xA7B3, .each "29E,287,29D,AB53"), (0xA7B4, 0xA7C3, .alternate),
  (0xA7C4, 0xA7C6, .each "A794,282,1D8E"), (0xA7C7, 0xA7CA, .alternate),
  (0xA7CB, 0xA7CB, .each "264"), (0xA7CC, 0xA7DB, .alternate), (0xA7DC, 0xA7DC, .each "19B"),
  (0xA7F1, 0xA7F5, .each "73,63,66,71,A7F6"), (0xA7F6, 0xA7F7, .valid),
  (0xA7F8, 0xA7F9, .each "127,153"), (0xA7FA, 0xA82C, .valid), (0xA830, 0xA839, .valid),
  (0xA840, 0xA877, .valid), (0xA880, 0xA8C5, .valid), (0xA8CE, 0xA8D9, .valid),
  (0xA8E0, 0xA953, .valid), (0xA95F, 0xA97C, .valid), (0xA980, 0xA9CD, .valid),
  (0xA9CF, 0xA9D9, .valid), (0xA9DE, 0xA9FE, .valid), (0xAA00, 0xAA36, .valid),
  (0xAA40, 0xAA4D, .valid), (0xAA50, 0xAA59, .valid), (0xAA5C, 0xAAC2, .valid),
  (0xAADB, 0xAAF6, .valid), (0xAB01, 0xAB06, .valid), (0xAB09, 0xAB0E, .valid),
  (0xAB11, 0xAB16, .valid), (0xAB20, 0xAB26, .valid), (0xAB28, 0xAB2E, .valid),
  (0xAB30, 0xAB5B, .valid), (0xAB5C, 0xAB5F, .each "A727,AB37,26B,AB52"),
  (0xAB60, 0xAB68, .valid), (0xAB69, 0xAB69, .each "28D"), (0xAB6A, 0xAB6B, .valid),
  (0xAB70, 0xABBF, .shift (-38864)), (0xABC0, 0xABED, .valid), (0xABF0, 0xABF9, .valid),
  (0xAC00, 0xD7A3, .valid), (0xD7B0, 0xD7C6, .valid), (0xD7CB, 0xD7FB, .valid),
  (0xF900, 0xF90B, .each "8C48,66F4,8ECA,8CC8,6ED1,4E32,53E5,9F9C,9F9C,5951,91D1,5587"),
  (0xF90C, 0xF917, .each "5948,61F6,7669,7F85,863F,87BA,88F8,908F,6A02,6D1B,70D9,73DE"),
  (0xF918, 0xF923, .each "843D,916A,99F1,4E82,5375,6B04,721B,862D,9E1E,5D50,6FEB,85CD"),
  (0xF924, 0xF92F, .each "8964,62C9,81D8,881F,5ECA,6717,6D6A,72FC,90CE,4F86,51B7,52DE"),
  (0xF930, 0xF93B, .each "64C4,6AD3,7210,76E7,8001,8606,865C,8DEF,9732,9B6F,9DFA,788C"),
  (0xF93C, 0xF947, .each "797F,7DA0,83C9,9304,9E7F,8AD6,58DF,5F04,7C60,807E,7262,78CA"),
  (0xF948, 0xF953, .each "8CC2,96F7,58D8,5C62,6A13,6DDA,6F0F,7D2F,7E37,964B,52D2,808B"),
  (0xF954, 0xF95F, .each "51DC,51CC,7A1C,7DBE,83F1,9675,8B80,62CF,6A02,8AFE,4E39,5BE7"),
  (0xF960, 0xF96B, .each "6012,7387,7570,5317,78FB,4FBF,5FA9,4E0D,6CCC,6578,7D22,53C3"),
  (0xF96C, 0xF977, .each "585E,7701,8449,8AAA,6BBA,8FB0,6C88,62FE,82E5,63A0,7565,4EAE"),
  (0xF978, 0xF983, .each "5169,51C9,6881,7CE7,826F,8AD2,91CF,52F5,5442,5973,5EEC,65C5"),
  (0xF984, 0xF98F, .each "6FFE,792A,95AD,9A6A,9E97,9ECE,529B,66C6,6B77,8F62,5E74,6190"),
  (0xF990, 0xF99B, .each "6200,649A,6F23,7149,7489,79CA,7DF4,806F,8F26,84EE,9023,934A"),
  (0xF99C, 0xF9A7, .each "5217,52A3,54BD,70C8,88C2,8AAA,5EC9,5FF5,637B,6BAE,7C3E,7375"),
  (0xF9A8, 0xF9B3, .each "4EE4,56F9,5BE7,5DBA,601C,73B2,7469,7F9A,8046,9234,96F6,9748"),
  (0xF9B4, 0xF9BF, .each "9818,4F8B,79AE,91B4,96B8,60E1,4E86,50DA,5BEE,5C3F,6599,6A02"),
  (0xF9C0, 0xF9CB, .each "71CE,7642,84FC,907C,9F8D,6688,962E,5289,677B,67F3,6D41,6E9C"),
  (0xF9CC, 0xF9D7, .each "7409,7559,786B,7D10,985E,516D,622E,9678,502B,5D19,6DEA,8F2A"),
  (0xF9D8, 0xF9E3, .each "5F8B,6144,6817,7387,9686,5229,540F,5C65,6613,674E,68A8,6CE5"),
  (0xF9E4, 0xF9EF, .each "7406,75E2,7F79,88CF,88E1,91CC,96E2,533F,6EBA,541D,71D0,7498"),
  (0xF9F0, 0xF9FB, .each "85FA,96A3,9C57,9E9F,6797,6DCB,81E8,7ACB,7B20,7C92,72C0,7099"),
  (0xF9FC, 0xFA07, .each "8B58,4EC0,8336,523A,5207,5EA6,62D3,7CD6,5B85,6D1E,66B4,8F3B"),
  (0xFA08, 0xFA0D, .each "884C,964D,898B,5ED3,5140,55C0"), (0xFA0E, 0xFA0F, .valid),
  (0xFA10, 0xFA10, .each "585A"), (0xFA11, 0xFA11, .valid), (0xFA12, 0xFA12, .each "6674"),
  (0xFA13, 0xFA14, .valid),
  (0xFA15, 0xFA1E, .each "51DE,732A,76CA,793C,795E,7965,798F,9756,7CBE,7FBD"),
  (0xFA1F, 0xFA1F, .valid), (0xFA20, 0xFA20, .each "8612"), (0xFA21, 0xFA21, .valid),
  (0xFA22, 0xFA22, .each "8AF8"), (0xFA23, 0xFA24, .valid), (0xFA25, 0xFA26, .each "9038,90FD"),
  (0xFA27, 0xFA29, .valid),
  (0xFA2A, 0xFA35, .each "98EF,98FC,9928,9DB4,90DE,96B7,4FAE,50E7,514D,52C9,52E4,5351"),
  (0xFA36, 0xFA41, .each "559D,5606,5668,5840,58A8,5C64,5C6E,6094,6168,618E,61F2,654F"),
  (0xFA42, 0xFA4D, .each "65E2,6691,6885,6D77,6E1A,6F22,716E,722B,7422,7891,793E,7949"),
  (0xFA4E, 0xFA51, .each "7948,7950,7956,795D"), (0xFA52, 0xFA53, .shift (-32965)),
  (0xFA54, 0xFA5F, .each "7A40,7A81,7BC0,7DF4,7E09,7E41,7F72,8005,81ED,8279,8279,8457"),
  (0xFA60, 0xFA6B, .each "8910,8996,8B01,8B39,8CD3,8D08,8FB6,9038,96E3,97FF,983B,6075"),
  (0xFA6C, 0xFA6D, .each "242EE,8218"),
  (0xFA70, 0xFA7B, .each "4E26,51B5,5168,4F80,5145,5180,52C7,52FA,559D,5555,5599,55E2"),
  (0xFA7C, 0xFA87, .each "585A,58B3,5944,5954,5A62,5B28,5ED2,5ED9,5F69,5FAD,60D8,614E"),
  (0xFA88, 0xFA93, .each "6108,618E,6160,61F2,6234,63C4,641C,6452,6556,6674,6717,671B"),
  (0xFA94, 0xFA9F, .each "6756,6B79,6BBA,6D41,6EDB,6ECB,6F22,701E,716E,77A7,7235,72AF"),
  (0xFAA0, 0xFAAB, .each "732A,7471,7506,753B,761D,761F,76CA,76DB,76F4,774A,7740,78CC"),
  (0xFAAC, 0xFAB7, .each "7AB1,7BC0,7C7B,7D5B,7DF4,7F3E,8005,8352,83EF,8779,8941,8986"),
  (0xFAB8, 0xFAC3, .each "8996,8ABF,8AF8,8ACB,8B01,8AFE,8AED,8B39,8B8A,8D08,8F38,9072"),
  (0xFAC4, 0xFACF, .each "9199,9276,967C,96E3,9756,97DB,97FF,980B,983B,9B12,9F9C,2284A"),
  (0xFAD0, 0xFAD9, .each "22844,233D5,3B9D,4018,4039,25249,25CD0,27ED3,9F43,9F8E"),
  (0xFB00, 0xFB06, .each "66 66,66 69,66 6C,66 66 69,66 66 6C,73 74,73 74"),
  (0xFB13, 0xFB17, .each "574 576,574 565,574 56B,57E 576,574 56D"),
  (0xFB1D, 0xFB1D, .each "5D9 5B4"), (0xFB1E, 0xFB1E, .valid),
  (0xFB1F, 0xFB21, .each "5F2 5B7,5E2,5D0"), (0xFB22, 0xFB23, .shift (-62799)),
  (0xFB24, 0xFB26, .shift (-62793)),
  (0xFB27, 0xFB2E, .each "5E8,5EA,2B,5E9 5C1,5E9 5C2,5E9 5BC 5C1,5E9 5BC 5C2,5D0 5B7"),
  (0xFB2F, 0xFB35, .each "5D0 5B8,5D0 5BC,5D1 5BC,5D2 5BC,5D3 5BC,5D4 5BC,5D5 5BC"),
  (0xFB36, 0xFB36, .each "5D6 5BC"),
  (0xFB38, 0xFB3C, .each "5D8 5BC,5D9 5BC,5DA 5BC,5DB 5BC,5DC 5BC"),
  (0xFB3E, 0xFB3E, .each "5DE 5BC"), (0xFB40, 0xFB41, .each "5E0 5BC,5E1 5BC"),
  (0xFB43, 0xFB44, .each "5E3 5BC,5E4 5BC"),
  (0xFB46, 0xFB4C, .each "5E6 5BC,5E7 5BC,5E8 5BC,5E9 5BC,5EA 5BC,5D5 5B9,5D1 5BF"),
  (0xFB4D, 0xFB58, .each "5DB 5BF,5E4 5BF,5D0 5DC,671,671,67B,67B,67B,67B,67E,67E,67E"),
  (0xFB59, 0xFB67, .each "67E,680,680,680,680,67A,67A,67A,67A,67F,67F,67F,67F,679,679"),
  (0xFB68, 0xFB76, .each "679,679,6A4,6A4,6A4,6A4,6A6,6A6,6A6,6A6,684,684,684,684,683"),
  (0xFB77, 0xFB7C, .each "683,683,683,686,686,686"), (0xFB7D, 0xFB7E, .shift (-62711)),
  (0xFB7F, 0xFB8D, .each "687,687,687,68D,68D,68C,68C,68E,68E,688,688,698,698,691,691"),
  (0xFB8E, 0xFB9C, .each "6A9,6A9,6A9,6A9,6AF,6AF,6AF,6AF,6B3,6B3,6B3,6B3,6B1,6B1,6B1"),
  (0xFB9D, 0xFB9E, .each "6B1,6BA"), (0xFB9F, 0xFBA0, .shift (-62693)),
  (0xFBA1, 0xFBA4, .each "6BB,6BB,6BB,6C0"), (0xFBA5, 0xFBA6, .shift (-62693)),
  (0xFBA7, 0xFBAE, .each "6C1,6C1,6C1,6BE,6BE,6BE,6BE,6D2"), (0xFBAF, 0xFBB0, .shift (-62685)),
  (0xFBB1, 0xFBB1, .each "6D3"), (0xFBB2, 0xFBD2, .valid),
  (0xFBD3, 0xFBE0, .each "6AD,6AD,6AD,6AD,6C7,6C7,6C6,6C6,6C8,6C8,6C7 674,6CB,6CB,6C5"),
  (0xFBE1, 0xFBEC, .each "6C5,6C9,6C9,6D0,6D0,6D0,6D0,649,649,626 627,626 627,626 6D5"),
  (0xFBED, 0xFBF3, .each "626 6D5,626 648,626 648,626 6C7,626 6C7,626 6C6,626 6C6"),
  (0xFBF4, 0xFBFA, .each "626 6C8,626 6C8,626 6D0,626 6D0,626 6D0,626 649,626 649"),
  (0xFBFB, 0xFC03, .each "626 649,6CC,6CC,6CC,6CC,626 62C,626 62D,626 645,626 649"),
  (0xFC04, 0xFC0A, .each "626 64A,628 62C,628 62D,628 62E,628 645,628 649,628 64A"),
  (0xFC0B, 0xFC11, .each "62A 62C,62A 62D,62A 62E,62A 645,62A 649,62A 64A,62B 62C"),
  (0xFC12, 0xFC18, .each "62B 645,62B 649,62B 64A,62C 62D,62C 645,62D 62C,62D 645"),
  (0xFC19, 0xFC1F, .each "62E 62C,62E 62D,62E 645,633 62C,633 62D,633 62E,633 645"),
  (0xFC20, 0xFC26, .each "635 62D,635 645,636 62C,636 62D,636 62E,636 645,637 62D"),
  (0xFC27, 0xFC2D, .each "637 645,638 645,639 62C,639 645,63A 62C,63A 645,641 62C"),
  (0xFC2E, 0xFC34, .each "641 62D,641 62E,641 645,641 649,641 64A,642 62D,642 645"),
  (0xFC35, 0xFC3B, .each "642 649,642 64A,643 627,643 62C,643 62D,643 62E,643 644"),
  (0xFC3C, 0xFC42, .each "643 645,643 649,643 64A,644 62C,644 62D,644 62E,644 645"),
  (0xFC43, 0xFC49, .each "644 649,644 64A,645 62C,645 62D,645 62E,645 645,645 649"),
  (0xFC4A, 0xFC50, .each "645 64A,646 62C,646 62D,646 62E,646 645,646 649,646 64A"),
  (0xFC51, 0xFC57, .each "647 62C,647 645,647 649,647 64A,64A 62C,64A 62D,64A 62E"),
  (0xFC58, 0xFC5E, .each "64A 645,64A 649,64A 64A,630 670,631 670,649 670,20 64C 651"),
  (0xFC5F, 0xFC63, .each "20 64D 651,20 64E 651,20 64F 651,20 650 651,20 651 670"),
  (0xFC64, 0xFC6A, .each "626 631,626 632,626 645,626 646,626 649,626 64A,628 631"),
  (0xFC6B, 0xFC71, .each "628 632,628 645,628 646,628 649,628 64A,62A 631,62A 632"),
  (0xFC72, 0xFC78, .each "62A 645,62A 646,62A 649,62A 64A,62B 631,62B 632,62B 645"),
  (0xFC79, 0xFC7F, .each "62B 646,62B 649,62B 64A,641 649,641 64A,642 649,642 64A"),
  (0xFC80, 0xFC86, .each "643 627,643 644,643 645,643 649,643 64A,644 645,644 649"),
  (0xFC87, 0xFC8D, .each "644 64A,645 627,645 645,646 631,646 632,646 645,646 646"),
  (0xFC8E, 0xFC94, .each "646 649,646 64A,649 670,64A 631,64A 632,64A 645,64A 646"),
  (0xFC95, 0xFC9B, .each "64A 649,64A 64A,626 62C,626 62D,626 62E,626 645,626 647"),
  (0xFC9C, 0xFCA2, .each "628 62C,628 62D,628 62E,628 645,628 647,62A 62C,62A 62D"),
  (0xFCA3, 0xFCA9, .each "62A 62E,62A 645,62A 647,62B 645,62C 62D,62C 645,62D 62C"),
  (0xFCAA, 0xFCB0, .each "62D 645,62E 62C,62E 645,633 62C,633 62D,633 62E,633 645"),
  (0xFCB1, 0xFCB7, .each "635 62D,635 62E,635 645,636 62C,636 62D,636 62E,636 645"),
  (0xFCB8, 0xFCBE, .each "637 62D,638 645,639 62C,639 645,63A 62C,63A 645,641 62C"),
  (0xFCBF, 0xFCC5, .each "641 62D,641 62E,641 645,642 62D,642 645,643 62C,643 62D"),
  (0xFCC6, 0xFCCC, .each "643 62E,643 644,643 645,644 62C,644 62D,644 62E,644 645"),
  (0xFCCD, 0xFCD3, .each "644 647,645 62C,645 62D,645 62E,645 645,646 62C,646 62D"),
  (0xFCD4, 0xFCDA, .each "646 62E,646 645,646 647,647 62C,647 645,647 670,64A 62C"),
  (0xFCDB, 0xFCE1, .each "64A 62D,64A 62E,64A 645,64A 647,626 645,626 647,628 645"),
  (0xFCE2, 0xFCE8, .each "628 647,62A 645,62A 647,62B 645,62B 647,633 645,633 647"),
  (0xFCE9, 0xFCEF, .each "634 645,634 647,643 644,643 645,644 645,646 645,646 647"),
  (0xFCF0, 0xFCF5, .each "64A 645,64A 647,640 64E 651,640 64F 651,640 650 651,637 649"),
  (0xFCF6, 0xFCFC, .each "637 64A,639 649,639 64A,63A 649,63A 64A,633 649,633 64A"),
  (0xFCFD, 0xFD03, .each "634 649,634 64A,62D 649,62D 64A,62C 649,62C 64A,62E 649"),
  (0xFD04, 0xFD0A, .each "62E 64A,635 649,635 64A,636 649,636 64A,634 62C,634 62D"),
  (0xFD0B, 0xFD11, .each "634 62E,634 645,634 631,633 631,635 631,636 631,637 649"),
  (0xFD12, 0xFD18, .each "637 64A,639 649,639 64A,63A 649,63A 64A,633 649,633 64A"),
  (0xFD19, 0xFD1F, .each "634 649,634 64A,62D 649,62D 64A,62C 649,62C 64A,62E 649"),
  (0xFD20, 0xFD26, .each "62E 64A,635 649,635 64A,636 649,636 64A,634 62C,634 62D"),
  (0xFD27, 0xFD2D, .each "634 62E,634 645,634 631,633 631,635 631,636 631,634 62C"),
  (0xFD2E, 0xFD34, .each "634 62D,634 62E,634 645,633 647,634 647,637 645,633 62C"),
  (0xFD35, 0xFD3B, .each "633 62D,633 62E,634 62C,634 62D,634 62E,637 645,638 645"),
  (0xFD3C, 0xFD3D, .each "627 64B,627 64B"), (0xFD3E, 0xFD4F, .valid),
  (0xFD50, 0xFD54, .each "62A 62C 645,62A 62D 62C,62A 62D 62C,62A 62D 645,62A 62E 645"),
  (0xFD55, 0xFD59, .each "62A 645 62C,62A 645 62D,62A 645 62E,62C 645 62D,62C 645 62D"),
  (0xFD5A, 0xFD5E, .each "62D 645 64A,62D 645 649,633 62D 62C,633 62C 62D,633 62C 649"),
  (0xFD5F, 0xFD63, .each "633 645 62D,633 645 62D,633 645 62C,633 645 645,633 645 645"),
  (0xFD64, 0xFD68, .each "635 62D 62D,635 62D 62D,635 645 645,634 62D 645,634 62D 645"),
  (0xFD69, 0xFD6D, .each "634 62C 64A,634 645 62E,634 645 62E,634 645 645,634 645 645"),
  (0xFD6E, 0xFD72, .each "636 62D 649,636 62E 645,636 62E 645,637 645 62D,637 645 62D"),
  (0xFD73, 0xFD77, .each "637 645 645,637 645 64A,639 62C 645,639 645 645,639 645 645"),
  (0xFD78, 0xFD7C, .each "639 645 649,63A 645 645,63A 645 64A,63A 645 649,641 62E 645"),
  (0xFD7D, 0xFD81, .each "641 62E 645,642 645 62D,642 645 645,644 62D 645,644 62D 64A"),
  (0xFD82, 0xFD86, .each "644 62D 649,644 62C 62C,644 62C 62C,644 62E 645,644 62E 645"),
  (0xFD87, 0xFD8B, .each "644 645 62D,644 645 62D,645 62D 62C,645 62D 645,645 62D 64A"),
  (0xFD8C, 0xFD8F, .each "645 62C 62D,645 62C 645,645 62E 62C,645 62E 645"),
  (0xFD90, 0xFD91, .valid),
  (0xFD92, 0xFD96, .each "645 62C 62E,647 645 62C,647 645 645,646 62D 645,646 62D 649"),
  (0xFD97, 0xFD9B, .each "646 62C 645,646 62C 645,646 62C 649,646 645 64A,646 645 649"),
  (0xFD9C, 0xFDA0, .each "64A 645 645,64A 645 645,628 62E 64A,62A 62C 64A,62A 62C 649"),
  (0xFDA1, 0xFDA5, .each "62A 62E 64A,62A 62E 649,62A 645 64A,62A 645 649,62C 645 64A"),
  (0xFDA6, 0xFDAA, .each "62C 62D 649,62C 645 649,633 62E 649,635 62D 64A,634 62D 64A"),
  (0xFDAB, 0xFDAF, .each "636 62D 64A,644 62C 64A,644 645 64A,64A 62D 64A,64A 62C 64A"),
  (0xFDB0, 0xFDB4, .each "64A 645 64A,645 645 64A,642 645 64A,646 62D 64A,642 645 62D"),
  (0xFDB5, 0xFDB9, .each "644 62D 645,639 645 64A,643 645 64A,646 62C 62D,645 62E 64A"),
  (0xFDBA, 0xFDBE, .each "644 62C 645,643 645 645,644 62C 645,646 62C 62D,62C 62D 64A"),
  (0xFDBF, 0xFDC3, .each "62D 62C 64A,645 62C 64A,641 645 64A,628 62D 64A,643 645 645"),
  (0xFDC4, 0xFDC7, .each "639 62C 645,635 645 645,633 62E 64A,646 62C 64A"),
  (0xFDC8, 0xFDCF, .valid),
  (0xFDF0, 0xFDF3, .each "635 644 6D2,642 644 6D2,627 644 644 647,627 643 628 631"),
  (0xFDF4, 0xFDF6, .each "645 62D 645 62F,635 644 639 645,631 633 648 644"),
  (0xFDF7, 0xFDF9, .each "639 644 64A 647,648 633 644 645,635 644 649"),
  (0xFDFA, 0xFDFA, .each "635 644 649 20 627 644 644 647 20 639 644 64A 647 20 648 633 644 645"),
  (0xFDFB, 0xFDFC, .each "62C 644 20 62C 644 627 644 647,631 6CC 627 644"),
  (0xFDFD, 0xFDFF, .valid)]

/-- The runs that begin from U+FE00 and below U+1D000. -/
def formMappings : List (Nat × Nat × Rule) := [
  (0xFE00, 0xFE0F, .ignored), (0xFE10, 0xFE11, .each "2C,3001"),
  (0xFE13, 0xFE14, .shift (-64985)), (0xFE15, 0xFE16, .each "21,3F"),
  (0xFE17, 0xFE18, .shift (-52737)), (0xFE20, 0xFE2F, .valid),
  (0xFE31, 0xFE34, .each "2014,2013,5F,5F"), (0xFE35, 0xFE36, .shift (-65037)),
  (0xFE37, 0xFE38, .each "7B,7D"), (0xFE39, 0xFE3A, .shift (-52773)),
  (0xFE3B, 0xFE3C, .shift (-52779)), (0xFE3D, 0xFE3E, .shift (-52787)),
  (0xFE3F, 0xFE40, .shift (-52791)), (0xFE41, 0xFE44, .shift (-52789)), (0xFE45, 0xFE46, .valid),
  (0xFE47, 0xFE51, .each "5B,5D,20 305,20 305,20 305,20 305,5F,5F,5F,2C,3001"),
  (0xFE54, 0xFE58, .each "3B,3A,3F,21,2014"), (0xFE59, 0xFE5A, .shift (-65073)),
  (0xFE5B, 0xFE5C, .each "7B,7D"), (0xFE5D, 0xFE5E, .shift (-52809)),
  (0xFE5F, 0xFE60, .each "23,26"), (0xFE61, 0xFE62, .shift (-65079)),
  (0xFE63, 0xFE66, .each "2D,3C,3E,3D"), (0xFE68, 0xFE68, .each "5C"),
  (0xFE69, 0xFE6A, .shift (-65093)), (0xFE6B, 0xFE6B, .each "40"),
  (0xFE70, 0xFE72, .each "20 64B,640 64B,20 64C"), (0xFE73, 0xFE73, .valid),
  (0xFE74, 0xFE74, .each "20 64D"),
  (0xFE76, 0xFE7D, .each "20 64E,640 64E,20 64F,640 64F,20 650,640 650,20 651,640 651"),
  (0xFE7E, 0xFE7F, .each "20 652,640 652"), (0xFE80, 0xFE81, .shift (-63583)),
  (0xFE82, 0xFE83, .shift (-63584)), (0xFE84, 0xFE85, .shift (-63585)),
  (0xFE86, 0xFE87, .shift (-63586)), (0xFE88, 0xFE89, .shift (-63587)),
  (0xFE8A, 0xFE8B, .each "626,626"), (0xFE8C, 0xFE8D, .shift (-63590)),
  (0xFE8E, 0xFE8F, .shift (-63591)), (0xFE90, 0xFE91, .each "628,628"),
  (0xFE92, 0xFE93, .shift (-63594)), (0xFE94, 0xFE95, .shift (-63595)),
  (0xFE96, 0xFE97, .each "62A,62A"), (0xFE98, 0xFE99, .shift (-63598)),
  (0xFE9A, 0xFE9B, .each "62B,62B"), (0xFE9C, 0xFE9D, .shift (-63601)),
  (0xFE9E, 0xFE9F, .each "62C,62C"), (0xFEA0, 0xFEA1, .shift (-63604)),
  (0xFEA2, 0xFEA3, .each "62D,62D"), (0xFEA4, 0xFEA5, .shift (-63607)),
  (0xFEA6, 0xFEA7, .each "62E,62E"), (0xFEA8, 0xFEA9, .shift (-63610)),
  (0xFEAA, 0xFEAB, .shift (-63611)), (0xFEAC, 0xFEAD, .shift (-63612)),
  (0xFEAE, 0xFEAF, .shift (-63613)), (0xFEB0, 0xFEB1, .shift (-63614)),
  (0xFEB2, 0xFEB3, .each "633,633"), (0xFEB4, 0xFEB5, .shift (-63617)),
  (0xFEB6, 0xFEB7, .each "634,634"), (0xFEB8, 0xFEB9, .shift (-63620)),
  (0xFEBA, 0xFEBB, .each "635,635"), (0xFEBC, 0xFEBD, .shift (-63623)),
  (0xFEBE, 0xFEBF, .each "636,636"), (0xFEC0, 0xFEC1, .shift (-63626)),
  (0xFEC2, 0xFEC3, .each "637,637"), (0xFEC4, 0xFEC5, .shift (-63629)),
  (0xFEC6, 0xFEC7, .each "638,638"), (0xFEC8, 0xFEC9, .shift (-63632)),
  (0xFECA, 0xFECB, .each "639,639"), (0xFECC, 0xFECD, .shift (-63635)),
  (0xFECE, 0xFED3, .each "63A,63A,63A,641,641,641"), (0xFED4, 0xFED5, .shift (-63635)),
  (0xFED6, 0xFED7, .each "642,642"), (0xFED8, 0xFED9, .shift (-63638)),
  (0xFEDA, 0xFEDB, .each "643,643"), (0xFEDC, 0xFEDD, .shift (-63641)),
  (0xFEDE, 0xFEDF, .each "644,644"), (0xFEE0, 0xFEE1, .shift (-63644)),
  (0xFEE2, 0xFEE3, .each "645,645"), (0xFEE4, 0xFEE5, .shift (-63647)),
  (0xFEE6, 0xFEE7, .each "646,646"), (0xFEE8, 0xFEE9, .shift (-63650)),
  (0xFEEA, 0xFEEB, .each "647,647"), (0xFEEC, 0xFEED, .shift (-63653)),
  (0xFEEE, 0xFEEF, .shift (-63654)), (0xFEF0, 0xFEF1, .shift (-63655)),
  (0xFEF2, 0xFEFA, .each "64A,64A,64A,644 622,644 622,644 623,644 623,644 625,644 625"),
  (0xFEFB, 0xFEFC, .each "644 627,644 627"), (0xFEFF, 0xFEFF, .ignored),
  (0xFF01, 0xFF20, .shift (-65248)), (0xFF21, 0xFF3A, .shift (-65216)),
  (0xFF3B, 0xFF5E, .shift (-65248)), (0xFF5F, 0xFF60, .shift (-54746)),
  (0xFF61, 0xFF61, .each "2E"), (0xFF62, 0xFF63, .shift (-53078)),
  (0xFF64, 0xFF6F, .each "3001,30FB,30F2,30A1,30A3,30A5,30A7,30A9,30E3,30E5,30E7,30C3"),
  (0xFF70, 0xFF74, .each "30FC,30A2,30A4,30A6,30A8"), (0xFF75, 0xFF76, .shift (-52939)),
  (0xFF77, 0xFF82, .each "30AD,30AF,30B1,30B3,30B5,30B7,30B9,30BB,30BD,30BF,30C1,30C4"),
  (0xFF83, 0xFF84, .each "30C6,30C8"), (0xFF85, 0xFF8A, .shift (-52923)),
  (0xFF8B, 0xFF8E, .each "30D2,30D5,30D8,30DB"), (0xFF8F, 0xFF93, .shift (-52913)),
  (0xFF94, 0xFF95, .each "30E4,30E6"), (0xFF96, 0xFF9B, .shift (-52910)),
  (0xFF9C, 0xFF9D, .each "30EF,30F3"), (0xFF9E, 0xFF9F, .shift (-52997)),
  (0xFFA0, 0xFFA0, .ignored), (0xFFA1, 0xFFA2, .shift (-61089)),
  (0xFFA3, 0xFFA4, .each "11AA,1102"), (0xFFA5, 0xFFA6, .shift (-60921)),
  (0xFFA7, 0xFFA9, .shift (-61092)), (0xFFAA, 0xFFAF, .shift (-60922)),
  (0xFFB0, 0xFFB0, .each "111A"), (0xFFB1, 0xFFB3, .shift (-61099)),
  (0xFFB4, 0xFFB4, .each "1121"), (0xFFB5, 0xFFBE, .shift (-61100)),
  (0xFFC2, 0xFFC7, .shift (-61025)), (0xFFCA, 0xFFCF, .shift (-61027)),
  (0xFFD2, 0xFFD7, .shift (-61029)), (0xFFDA, 0xFFDC, .shift (-61031)),
  (0xFFE0, 0xFFE1, .shift (-65342)), (0xFFE2, 0xFFE6, .each "AC,20 304,A6,A5,20A9"),
  (0xFFE8, 0xFFE8, .each "2502"), (0xFFE9, 0xFFEC, .shift (-56921)),
  (0xFFED, 0xFFEE, .each "25A0,25CB"), (0x10000, 0x1000B, .valid), (0x1000D, 0x10026, .valid),
  (0x10028, 0x1003A, .valid), (0x1003C, 0x1003D, .valid), (0x1003F, 0x1004D, .valid),
  (0x10050, 0x1005D, .valid), (0x10080, 0x100FA, .valid), (0x10100, 0x10102, .valid),
  (0x10107, 0x10133, .valid), (0x10137, 0x1018E, .valid), (0x10190, 0x1019C, .valid),
  (0x101A0, 0x101A0, .valid), (0x101D0, 0x101FD, .valid), (0x10280, 0x1029C, .valid),
  (0x102A0, 0x102D0, .valid), (0x102E0, 0x102FB, .valid), (0x10300, 0x10323, .valid),
  (0x1032D, 0x1034A, .valid), (0x10350, 0x1037A, .valid), (0x10380, 0x1039D, .valid),
  (0x1039F, 0x103C3, .valid), (0x103C8, 0x103D5, .valid), (0x10400, 0x10427, .shift 40),
  (0x10428, 0x1049D, .valid), (0x104A0, 0x104A9, .valid), (0x104B0, 0x104D3, .shift 40),
  (0x104D8, 0x104FB, .valid), (0x10500, 0x10527, .valid), (0x10530, 0x10563, .valid),
  (0x1056F, 0x1056F, .valid), (0x10570, 0x1057A, .shift 39), (0x1057C, 0x1058A, .shift 39),
  (0x1058C, 0x10592, .shift 39), (0x10594, 0x10595, .shift 39), (0x10597, 0x105A1, .valid),
  (0x105A3, 0x105B1, .valid), (0x105B3, 0x105B9, .valid), (0x105BB, 0x105BC, .valid),
  (0x105C0, 0x105F3, .valid), (0x10600, 0x10736, .valid), (0x10740, 0x10755, .valid),
  (0x10760, 0x10767, .valid), (0x10780, 0x10780, .valid), (0x10781, 0x10782, .shift (-66737)),
  (0x10783, 0x10785, .each "E6,299,253"), (0x10787, 0x1078A, .each "2A3,AB66,2A5,2A4"),
  (0x1078B, 0x1078C, .shift (-66869)),
  (0x1078D, 0x10798, .each "1D91,258,25E,2A9,264,262,260,29B,127,29C,267,284"),
  (0x10799, 0x1079A, .shift (-66799)),
  (0x1079B, 0x107A2, .each "26C,1DF04,A78E,26E,1DF05,28E,1DF06,F8"),
  (0x107A3, 0x107A4, .shift (-66861)), (0x107A5, 0x107A7, .each "71,27A,1DF08"),
  (0x107A8, 0x107A9, .shift (-66859)), (0x107AA, 0x107B0, .each "280,2A8,2A6,AB67,2A7,288,2C71"),
  (0x107B2, 0x107B2, .each "28F"), (0x107B3, 0x107B4, .shift (-66834)),
  (0x107B5, 0x107B5, .each "298"), (0x107B6, 0x107B8, .shift (-67062)),
  (0x107B9, 0x107BA, .each "1DF0A,1DF1E"), (0x10800, 0x10805, .valid),
  (0x10808, 0x10808, .valid), (0x1080A, 0x10835, .valid), (0x10837, 0x10838, .valid),
  (0x1083C, 0x1083C, .valid), (0x1083F, 0x10855, .valid), (0x10857, 0x1089E, .valid),
  (0x108A7, 0x108AF, .valid), (0x108E0, 0x108F2, .valid), (0x108F4, 0x108F5, .valid),
  (0x108FB, 0x1091B, .valid), (0x1091F, 0x10939, .valid), (0x1093F, 0x10959, .valid),
  (0x10980, 0x109B7, .valid), (0x109BC, 0x109CF, .valid), (0x109D2, 0x10A03, .valid),
  (0x10A05, 0x10A06, .valid), (0x10A0C, 0x10A13, .valid), (0x10A15, 0x10A17, .valid),
  (0x10A19, 0x10A35, .valid), (0x10A38, 0x10A3A, .valid), (0x10A3F, 0x10A48, .valid),
  (0x10A50, 0x10A58, .valid), (0x10A60, 0x10A9F, .valid), (0x10AC0, 0x10AE6, .valid),
  (0x10AEB, 0x10AF6, .valid), (0x10B00, 0x10B35, .valid), (0x10B39, 0x10B55, .valid),
  (0x10B58, 0x10B72, .valid), (0x10B78, 0x10B91, .valid), (0x10B99, 0x10B9C, .valid),
  (0x10BA9, 0x10BAF, .valid), (0x10C00, 0x10C48, .valid), (0x10C80, 0x10CB2, .shift 64),
  (0x10CC0, 0x10CF2, .valid), (0x10CFA, 0x10D27, .valid), (0x10D30, 0x10D39, .valid),
  (0x10D40, 0x10D4F, .valid), (0x10D50, 0x10D65, .shift 32), (0x10D69, 0x10D85, .valid),
  (0x10D8E, 0x10D8F, .valid), (0x10E60, 0x10E7E, .valid), (0x10E80, 0x10EA9, .valid),
  (0x10EAB, 0x10EAD, .valid), (0x10EB0, 0x10EB1, .valid), (0x10EC2, 0x10EC7, .valid),
  (0x10ED0, 0x10ED8, .valid), (0x10EFA, 0x10F27, .valid), (0x10F30, 0x10F59, .valid),
  (0x10F70, 0x10F89, .valid), (0x10FB0, 0x10FCB, .valid), (0x10FE0, 0x10FF6, .valid),
  (0x11000, 0x1104D, .valid), (0x11052, 0x11075, .valid), (0x1107F, 0x110BC, .valid),
  (0x110BE, 0x110C2, .valid), (0x110D0, 0x110E8, .valid), (0x110F0, 0x110F9, .valid),
  (0x11100, 0x11134, .valid), (0x11136, 0x11147, .valid), (0x11150, 0x11176, .valid),
  (0x11180, 0x111DF, .valid), (0x111E1, 0x111F4, .valid), (0x11200, 0x11211, .valid),
  (0x11213, 0x11241, .valid), (0x11280, 0x11286, .valid), (0x11288, 0x11288, .valid),
  (0x1128A, 0x1128D, .valid), (0x1128F, 0x1129D, .valid), (0x1129F, 0x112A9, .valid),
  (0x112B0, 0x112EA, .valid), (0x112F0, 0x112F9, .valid), (0x11300, 0x11303, .valid),
  (0x11305, 0x1130C, .valid), (0x1130F, 0x11310, .valid), (0x11313, 0x11328, .valid),
  (0x1132A, 0x11330, .valid), (0x11332, 0x11333, .valid), (0x11335, 0x11339, .valid),
  (0x1133B, 0x11344, .valid), (0x11347, 0x11348, .valid), (0x1134B, 0x1134D, .valid),
  (0x11350, 0x11350, .valid), (0x11357, 0x11357, .valid), (0x1135D, 0x11363, .valid),
  (0x11366, 0x1136C, .valid), (0x11370, 0x11374, .valid), (0x11380, 0x11389, .valid),
  (0x1138B, 0x1138B, .valid), (0x1138E, 0x1138E, .valid), (0x11390, 0x113B5, .valid),
  (0x113B7, 0x113C0, .valid), (0x113C2, 0x113C2, .valid), (0x113C5, 0x113C5, .valid),
  (0x113C7, 0x113CA, .valid), (0x113CC, 0x113D5, .valid), (0x113D7, 0x113D8, .valid),
  (0x113E1, 0x113E2, .valid), (0x11400, 0x1145B, .valid), (0x1145D, 0x11461, .valid),
  (0x11480, 0x114C7, .valid), (0x114D0, 0x114D9, .valid), (0x11580, 0x115B5, .valid),
  (0x115B8, 0x115DD, .valid), (0x11600, 0x11644, .valid), (0x11650, 0x11659, .valid),
  (0x11660, 0x1166C, .valid), (0x11680, 0x116B9, .valid), (0x116C0, 0x116C9, .valid),
  (0x116D0, 0x116E3, .valid), (0x11700, 0x1171A, .valid), (0x1171D, 0x1172B, .valid),
  (0x11730, 0x11746, .valid), (0x11800, 0x1183B, .valid), (0x118A0, 0x118BF, .shift 32),
  (0x118C0, 0x118F2, .valid), (0x118FF, 0x11906, .valid), (0x11909, 0x11909, .valid),
  (0x1190C, 0x11913, .valid), (0x11915, 0x11916, .valid), (0x11918, 0x11935, .valid),
  (0x11937, 0x11938, .valid), (0x1193B, 0x11946, .valid), (0x11950, 0x11959, .valid),
  (0x119A0, 0x119A7, .valid), (0x119AA, 0x119D7, .valid), (0x119DA, 0x119E4, .valid),
  (0x11A00, 0x11A47, .valid), (0x11A50, 0x11AA2, .valid), (0x11AB0, 0x11AF8, .valid),
  (0x11B00, 0x11B09, .valid), (0x11B60, 0x11B67, .valid), (0x11BC0, 0x11BE1, .valid),
  (0x11BF0, 0x11BF9, .valid), (0x11C00, 0x11C08, .valid), (0x11C0A, 0x11C36, .valid),
  (0x11C38, 0x11C45, .valid), (0x11C50, 0x11C6C, .valid), (0x11C70, 0x11C8F, .valid),
  (0x11C92, 0x11CA7, .valid), (0x11CA9, 0x11CB6, .valid), (0x11D00, 0x11D06, .valid),
  (0x11D08, 0x11D09, .valid), (0x11D0B, 0x11D36, .valid), (0x11D3A, 0x11D3A, .valid),
  (0x11D3C, 0x11D3D, .valid), (0x11D3F, 0x11D47, .valid), (0x11D50, 0x11D59, .valid),
  (0x11D60, 0x11D65, .valid), (0x11D67, 0x11D68, .valid), (0x11D6A, 0x11D8E, .valid),
  (0x11D90, 0x11D91, .valid), (0x11D93, 0x11D98, .valid), (0x11DA0, 0x11DA9, .valid),
  (0x11DB0, 0x11DDB, .valid), (0x11DE0, 0x11DE9, .valid), (0x11EE0, 0x11EF8, .valid),
  (0x11F00, 0x11F10, .valid), (0x11F12, 0x11F3A, .valid), (0x11F3E, 0x11F5A, .valid),
  (0x11FB0, 0x11FB0, .valid), (0x11FC0, 0x11FF1, .valid), (0x11FFF, 0x12399, .valid),
  (0x12400, 0x1246E, .valid), (0x12470, 0x12474, .valid), (0x12480, 0x12543, .valid),
  (0x12F90, 0x12FF2, .valid), (0x13000, 0x1342F, .valid), (0x13440, 0x13455, .valid),
  (0x13460, 0x143FA, .valid), (0x14400, 0x14646, .valid), (0x16100, 0x16139, .valid),
  (0x16800, 0x16A38, .valid), (0x16A40, 0x16A5E, .valid), (0x16A60, 0x16A69, .valid),
  (0x16A6E, 0x16ABE, .valid), (0x16AC0, 0x16AC9, .valid), (0x16AD0, 0x16AED, .valid),
  (0x16AF0, 0x16AF5, .valid), (0x16B00, 0x16B45, .valid), (0x16B50, 0x16B59, .valid),
  (0x16B5B, 0x16B61, .valid), (0x16B63, 0x16B77, .valid), (0x16B7D, 0x16B8F, .valid),
  (0x16D40, 0x16D79, .valid), (0x16E40, 0x16E5F, .shift 32), (0x16E60, 0x16E9A, .valid),
  (0x16EA0, 0x16EB8, .shift 27), (0x16EBB, 0x16ED3, .valid), (0x16F00, 0x16F4A, .valid),
  (0x16F4F, 0x16F87, .valid), (0x16F8F, 0x16F9F, .valid), (0x16FE0, 0x16FE4, .valid),
  (0x16FF0, 0x16FF6, .valid), (0x17000, 0x18CD5, .valid), (0x18CFF, 0x18D1E, .valid),
  (0x18D80, 0x18DF2, .valid), (0x1AFF0, 0x1AFF3, .valid), (0x1AFF5, 0x1AFFB, .valid),
  (0x1AFFD, 0x1AFFE, .valid), (0x1B000, 0x1B122, .valid), (0x1B132, 0x1B132, .valid),
  (0x1B150, 0x1B152, .valid), (0x1B155, 0x1B155, .valid), (0x1B164, 0x1B167, .valid),
  (0x1B170, 0x1B2FB, .valid), (0x1BC00, 0x1BC6A, .valid), (0x1BC70, 0x1BC7C, .valid),
  (0x1BC80, 0x1BC88, .valid), (0x1BC90, 0x1BC99, .valid), (0x1BC9C, 0x1BC9F, .valid),
  (0x1BCA0, 0x1BCA3, .ignored), (0x1CC00, 0x1CCD5, .valid), (0x1CCD6, 0x1CCEF, .shift (-117877)),
  (0x1CCF0, 0x1CCF9, .shift (-117952)), (0x1CCFA, 0x1CCFC, .valid), (0x1CD00, 0x1CEB3, .valid),
  (0x1CEBA, 0x1CED0, .valid), (0x1CEE0, 0x1CEF0, .valid), (0x1CF00, 0x1CF2D, .valid),
  (0x1CF30, 0x1CF46, .valid), (0x1CF50, 0x1CFC3, .valid)]

/-- The runs that begin from U+1D000. -/
def supplementaryMappings : List (Nat × Nat × Rule) := [
  (0x1D000, 0x1D0F5, .valid), (0x1D100, 0x1D126, .valid), (0x1D129, 0x1D15D, .valid),
  (0x1D15E, 0x1D161, .each "1D157 1D165,1D158 1D165,1D158 1D165 1D16E,1D158 1D165 1D16F"),
  (0x1D162, 0x1D164, .each "1D158 1D165 1D170,1D158 1D165 1D171,1D158 1D165 1D172"),
  (0x1D165, 0x1D172, .valid), (0x1D173, 0x1D17A, .ignored), (0x1D17B, 0x1D1BA, .valid),
  (0x1D1BB, 0x1D1BE, .each "1D1B9 1D165,1D1BA 1D165,1D1B9 1D165 1D16E,1D1BA 1D165 1D16E"),
  (0x1D1BF, 0x1D1C0, .each "1D1B9 1D165 1D16F,1D1BA 1D165 1D16F"), (0x1D1C1, 0x1D1EA, .valid),
  (0x1D200, 0x1D245, .valid), (0x1D2C0, 0x1D2D3, .valid), (0x1D2E0, 0x1D2F3, .valid),
  (0x1D300, 0x1D356, .valid), (0x1D360, 0x1D378, .valid), (0x1D400, 0x1D419, .shift (-119711)),
  (0x1D41A, 0x1D433, .shift (-119737)), (0x1D434, 0x1D44D, .shift (-119763)),
  (0x1D44E, 0x1D454, .shift (-119789)), (0x1D456, 0x1D467, .shift (-119789)),
  (0x1D468, 0x1D481, .shift (-119815)), (0x1D482, 0x1D49B, .shift (-119841)),
  (0x1D49C, 0x1D49C, .each "61"), (0x1D49E, 0x1D49F, .shift (-119867)),
  (0x1D4A2, 0x1D4A2, .each "67"), (0x1D4A5, 0x1D4A6, .shift (-119867)),
  (0x1D4A9, 0x1D4AC, .shift (-119867)), (0x1D4AE, 0x1D4B5, .shift (-119867)),
  (0x1D4B6, 0x1D4B9, .shift (-119893)), (0x1D4BB, 0x1D4BB, .each "66"),
  (0x1D4BD, 0x1D4C3, .shift (-119893)), (0x1D4C5, 0x1D4CF, .shift (-119893)),
  (0x1D4D0, 0x1D4E9, .shift (-119919)), (0x1D4EA, 0x1D503, .shift (-119945)),
  (0x1D504, 0x1D505, .shift (-119971)), (0x1D507, 0x1D50A, .shift (-119971)),
  (0x1D50D, 0x1D514, .shift (-119971)), (0x1D516, 0x1D51C, .shift (-119971)),
  (0x1D51E, 0x1D537, .shift (-119997)), (0x1D538, 0x1D539, .shift (-120023)),
  (0x1D53B, 0x1D53E, .shift (-120023)), (0x1D540, 0x1D544, .shift (-120023)),
  (0x1D546, 0x1D546, .each "6F"), (0x1D54A, 0x1D550, .shift (-120023)),
  (0x1D552, 0x1D56B, .shift (-120049)), (0x1D56C, 0x1D585, .shift (-120075)),
  (0x1D586, 0x1D59F, .shift (-120101)), (0x1D5A0, 0x1D5B9, .shift (-120127)),
  (0x1D5BA, 0x1D5D3, .shift (-120153)), (0x1D5D4, 0x1D5ED, .shift (-120179)),
  (0x1D5EE, 0x1D607, .shift (-120205)), (0x1D608, 0x1D621, .shift (-120231)),
  (0x1D622, 0x1D63B, .shift (-120257)), (0x1D63C, 0x1D655, .shift (-120283)),
  (0x1D656, 0x1D66F, .shift (-120309)), (0x1D670, 0x1D689, .shift (-120335)),
  (0x1D68A, 0x1D6A3, .shift (-120361)), (0x1D6A4, 0x1D6A5, .each "131,237"),
  (0x1D6A8, 0x1D6B8, .shift (-119543)), (0x1D6B9, 0x1D6B9, .each "3B8"),
  (0x1D6BA, 0x1D6C0, .shift (-119543)), (0x1D6C1, 0x1D6C1, .each "2207"),
  (0x1D6C2, 0x1D6D2, .shift (-119569)), (0x1D6D3, 0x1D6D3, .each "3C3"),
  (0x1D6D4, 0x1D6DA, .shift (-119569)), (0x1D6DB, 0x1D6E1, .each "2202,3B5,3B8,3BA,3C6,3C1,3C0"),
  (0x1D6E2, 0x1D6F2, .shift (-119601)), (0x1D6F3, 0x1D6F3, .each "3B8"),
  (0x1D6F4, 0x1D6FA, .shift (-119601)), (0x1D6FB, 0x1D6FB, .each "2207"),
  (0x1D6FC, 0x1D70C, .shift (-119627)), (0x1D70D, 0x1D70D, .each "3C3"),
  (0x1D70E, 0x1D714, .shift (-119627)), (0x1D715, 0x1D71B, .each "2202,3B5,3B8,3BA,3C6,3C1,3C0"),
  (0x1D71C, 0x1D72C, .shift (-119659)), (0x1D72D, 0x1D72D, .each "3B8"),
  (0x1D72E, 0x1D734, .shift (-119659)), (0x1D735, 0x1D735, .each "2207"),
  (0x1D736, 0x1D746, .shift (-119685)), (0x1D747, 0x1D747, .each "3C3"),
  (0x1D748, 0x1D74E, .shift (-119685)), (0x1D74F, 0x1D755, .each "2202,3B5,3B8,3BA,3C6,3C1,3C0"),
  (0x1D756, 0x1D766, .shift (-119717)), (0x1D767, 0x1D767, .each "3B8"),
  (0x1D768, 0x1D76E, .shift (-119717)), (0x1D76F, 0x1D76F, .each "2207"),
  (0x1D770, 0x1D780, .shift (-119743)), (0x1D781, 0x1D781, .each "3C3"),
  (0x1D782, 0x1D788, .shift (-119743)), (0x1D789, 0x1D78F, .each "2202,3B5,3B8,3BA,3C6,3C1,3C0"),
  (0x1D790, 0x1D7A0, .shift (-119775)), (0x1D7A1, 0x1D7A1, .each "3B8"),
  (0x1D7A2, 0x1D7A8, .shift (-119775)), (0x1D7A9, 0x1D7A9, .each "2207"),
  (0x1D7AA, 0x1D7BA, .shift (-119801)), (0x1D7BB, 0x1D7BB, .each "3C3"),
  (0x1D7BC, 0x1D7C2, .shift (-119801)),
  (0x1D7C3, 0x1D7CB, .each "2202,3B5,3B8,3BA,3C6,3C1,3C0,3DD,3DD"),
  (0x1D7CE, 0x1D7D7, .shift (-120734)), (0x1D7D8, 0x1D7E1, .shift (-120744)),
  (0x1D7E2, 0x1D7EB, .shift (-120754)), (0x1D7EC, 0x1D7F5, .shift (-120764)),
  (0x1D7F6, 0x1D7FF, .shift (-120774)), (0x1D800, 0x1DA8B, .valid), (0x1DA9B, 0x1DA9F, .valid),
  (0x1DAA1, 0x1DAAF, .valid), (0x1DF00, 0x1DF1E, .valid), (0x1DF25, 0x1DF2A, .valid),
  (0x1E000, 0x1E006, .valid), (0x1E008, 0x1E018, .valid), (0x1E01B, 0x1E021, .valid),
  (0x1E023, 0x1E024, .valid), (0x1E026, 0x1E02A, .valid), (0x1E030, 0x1E038, .shift (-121856)),
  (0x1E039, 0x1E03B, .shift (-121855)), (0x1E03C, 0x1E046, .shift (-121854)),
  (0x1E047, 0x1E047, .each "44B"), (0x1E048, 0x1E049, .shift (-121851)),
  (0x1E04A, 0x1E050, .each "A689,4D9,456,458,4E9,4AF,4CF"), (0x1E051, 0x1E059, .shift (-121889)),
  (0x1E05A, 0x1E05B, .shift (-121888)), (0x1E05C, 0x1E05D, .shift (-121886)),
  (0x1E05E, 0x1E05E, .each "441"), (0x1E05F, 0x1E064, .shift (-121884)),
  (0x1E065, 0x1E066, .shift (-121883)), (0x1E067, 0x1E06D, .each "491,456,455,45F,4AB,A651,4B1"),
  (0x1E08F, 0x1E08F, .valid), (0x1E100, 0x1E12C, .valid), (0x1E130, 0x1E13D, .valid),
  (0x1E140, 0x1E149, .valid), (0x1E14E, 0x1E14F, .valid), (0x1E290, 0x1E2AE, .valid),
  (0x1E2C0, 0x1E2F9, .valid), (0x1E2FF, 0x1E2FF, .valid), (0x1E4D0, 0x1E4F9, .valid),
  (0x1E5D0, 0x1E5FA, .valid), (0x1E5FF, 0x1E5FF, .valid), (0x1E6C0, 0x1E6DE, .valid),
  (0x1E6E0, 0x1E6F5, .valid), (0x1E6FE, 0x1E6FF, .valid), (0x1E7E0, 0x1E7E6, .valid),
  (0x1E7E8, 0x1E7EB, .valid), (0x1E7ED, 0x1E7EE, .valid), (0x1E7F0, 0x1E7FE, .valid),
  (0x1E800, 0x1E8C4, .valid), (0x1E8C7, 0x1E8D6, .valid), (0x1E900, 0x1E921, .shift 34),
  (0x1E922, 0x1E94B, .valid), (0x1E950, 0x1E959, .valid), (0x1E95E, 0x1E95F, .valid),
  (0x1EC71, 0x1ECB4, .valid), (0x1ED01, 0x1ED3D, .valid), (0x1EE00, 0x1EE01, .shift (-124889)),
  (0x1EE02, 0x1EE03, .each "62C,62F"), (0x1EE05, 0x1EE09, .each "648,632,62D,637,64A"),
  (0x1EE0A, 0x1EE0D, .shift (-124871)), (0x1EE0E, 0x1EE14, .each "633,639,641,635,642,631,634"),
  (0x1EE15, 0x1EE16, .shift (-124907)),
  (0x1EE17, 0x1EE1F, .each "62E,630,636,638,63A,66E,6BA,6A1,66F"),
  (0x1EE21, 0x1EE22, .each "628,62C"), (0x1EE24, 0x1EE24, .each "647"),
  (0x1EE27, 0x1EE27, .each "62D"), (0x1EE29, 0x1EE29, .each "64A"),
  (0x1EE2A, 0x1EE2D, .shift (-124903)), (0x1EE2E, 0x1EE32, .each "633,639,641,635,642"),
  (0x1EE34, 0x1EE34, .each "634"), (0x1EE35, 0x1EE36, .shift (-124939)),
  (0x1EE37, 0x1EE37, .each "62E"), (0x1EE39, 0x1EE39, .each "636"),
  (0x1EE3B, 0x1EE3B, .each "63A"), (0x1EE42, 0x1EE42, .each "62C"),
  (0x1EE47, 0x1EE47, .each "62D"), (0x1EE49, 0x1EE49, .each "64A"),
  (0x1EE4B, 0x1EE4B, .each "644"), (0x1EE4D, 0x1EE4F, .each "646,633,639"),
  (0x1EE51, 0x1EE52, .each "635,642"), (0x1EE54, 0x1EE54, .each "634"),
  (0x1EE57, 0x1EE57, .each "62E"), (0x1EE59, 0x1EE59, .each "636"),
  (0x1EE5B, 0x1EE5B, .each "63A"), (0x1EE5D, 0x1EE5D, .each "6BA"),
  (0x1EE5F, 0x1EE5F, .each "66F"), (0x1EE61, 0x1EE62, .each "628,62C"),
  (0x1EE64, 0x1EE64, .each "647"), (0x1EE67, 0x1EE6A, .each "62D,637,64A,643"),
  (0x1EE6C, 0x1EE6D, .shift (-124967)), (0x1EE6E, 0x1EE72, .each "633,639,641,635,642"),
  (0x1EE74, 0x1EE74, .each "634"), (0x1EE75, 0x1EE76, .shift (-125003)),
  (0x1EE77, 0x1EE77, .each "62E"), (0x1EE79, 0x1EE7C, .each "636,638,63A,66E"),
  (0x1EE7E, 0x1EE7E, .each "6A1"), (0x1EE80, 0x1EE81, .shift (-125017)),
  (0x1EE82, 0x1EE83, .each "62C,62F"), (0x1EE84, 0x1EE85, .shift (-124989)),
  (0x1EE86, 0x1EE89, .each "632,62D,637,64A"), (0x1EE8B, 0x1EE8D, .shift (-124999)),
  (0x1EE8E, 0x1EE94, .each "633,639,641,635,642,631,634"), (0x1EE95, 0x1EE96, .shift (-125035)),
  (0x1EE97, 0x1EE9B, .each "62E,630,636,638,63A"), (0x1EEA1, 0x1EEA3, .each "628,62C,62F"),
  (0x1EEA5, 0x1EEA9, .each "648,632,62D,637,64A"), (0x1EEAB, 0x1EEAD, .shift (-125031)),
  (0x1EEAE, 0x1EEB4, .each "633,639,641,635,642,631,634"), (0x1EEB5, 0x1EEB6, .shift (-125067)),
  (0x1EEB7, 0x1EEBB, .each "62E,630,636,638,63A"), (0x1EEF0, 0x1EEF1, .valid),
  (0x1F000, 0x1F02B, .valid), (0x1F030, 0x1F093, .valid), (0x1F0A0, 0x1F0AE, .valid),
  (0x1F0B1, 0x1F0BF, .valid), (0x1F0C1, 0x1F0CF, .valid), (0x1F0D1, 0x1F0F5, .valid),
  (0x1F101, 0x1F10A, .each "30 2C,31 2C,32 2C,33 2C,34 2C,35 2C,36 2C,37 2C,38 2C,39 2C"),
  (0x1F10B, 0x1F10F, .valid),
  (0x1F110, 0x1F115, .each "28 61 29,28 62 29,28 63 29,28 64 29,28 65 29,28 66 29"),
  (0x1F116, 0x1F11B, .each "28 67 29,28 68 29,28 69 29,28 6A 29,28 6B 29,28 6C 29"),
  (0x1F11C, 0x1F121, .each "28 6D 29,28 6E 29,28 6F 29,28 70 29,28 71 29,28 72 29"),
  (0x1F122, 0x1F127, .each "28 73 29,28 74 29,28 75 29,28 76 29,28 77 29,28 78 29"),
  (0x1F128, 0x1F12E, .each "28 79 29,28 7A 29,3014 73 3015,63,72,63 64,77 7A"),
  (0x1F12F, 0x1F12F, .valid), (0x1F130, 0x1F149, .shift (-127183)),
  (0x1F14A, 0x1F14F, .each "68 76,6D 76,73 64,73 73,70 70 76,77 63"), (0x1F150, 0x1F169, .valid),
  (0x1F16A, 0x1F16C, .each "6D 63,6D 64,6D 72"), (0x1F16D, 0x1F18F, .valid),
  (0x1F190, 0x1F190, .each "64 6A"), (0x1F191, 0x1F1AD, .valid), (0x1F1E6, 0x1F1FF, .valid),
  (0x1F200, 0x1F202, .each "307B 304B,30B3 30B3,30B5"),
  (0x1F210, 0x1F21B, .each "624B,5B57,53CC,30C7,4E8C,591A,89E3,5929,4EA4,6620,7121,6599"),
  (0x1F21C, 0x1F227, .each "524D,5F8C,518D,65B0,521D,7D42,751F,8CA9,58F0,5439,6F14,6295"),
  (0x1F228, 0x1F233, .each "6355,4E00,4E09,904A,5DE6,4E2D,53F3,6307,8D70,6253,7981,7A7A"),
  (0x1F234, 0x1F23B, .each "5408,6E80,6709,6708,7533,5272,55B6,914D"),
  (0x1F240, 0x1F243, .each "3014 672C 3015,3014 4E09 3015,3014 4E8C 3015,3014 5B89 3015"),
  (0x1F244, 0x1F247, .each "3014 70B9 3015,3014 6253 3015,3014 76D7 3015,3014 52DD 3015"),
  (0x1F248, 0x1F248, .each "3014 6557 3015"), (0x1F250, 0x1F251, .each "5F97,53EF"),
  (0x1F260, 0x1F265, .valid), (0x1F300, 0x1F6D8, .valid), (0x1F6DC, 0x1F6EC, .valid),
  (0x1F6F0, 0x1F6FC, .valid), (0x1F700, 0x1F7D9, .valid), (0x1F7E0, 0x1F7EB, .valid),
  (0x1F7F0, 0x1F7F0, .valid), (0x1F800, 0x1F80B, .valid), (0x1F810, 0x1F847, .valid),
  (0x1F850, 0x1F859, .valid), (0x1F860, 0x1F887, .valid), (0x1F890, 0x1F8AD, .valid),
  (0x1F8B0, 0x1F8BB, .valid), (0x1F8C0, 0x1F8C1, .valid), (0x1F8D0, 0x1F8D8, .valid),
  (0x1F900, 0x1FA57, .valid), (0x1FA60, 0x1FA6D, .valid), (0x1FA70, 0x1FA7C, .valid),
  (0x1FA80, 0x1FA8A, .valid), (0x1FA8E, 0x1FAC6, .valid), (0x1FAC8, 0x1FAC8, .valid),
  (0x1FACD, 0x1FADC, .valid), (0x1FADF, 0x1FAEA, .valid), (0x1FAEF, 0x1FAF8, .valid),
  (0x1FB00, 0x1FB92, .valid), (0x1FB94, 0x1FBEF, .valid), (0x1FBF0, 0x1FBF9, .shift (-129984)),
  (0x1FBFA, 0x1FBFA, .valid), (0x20000, 0x2A6DF, .valid), (0x2A700, 0x2B81D, .valid),
  (0x2B820, 0x2CEAD, .valid), (0x2CEB0, 0x2EBE0, .valid), (0x2EBF0, 0x2EE5D, .valid),
  (0x2F800, 0x2F80B, .each "4E3D,4E38,4E41,20122,4F60,4FAE,4FBB,5002,507A,5099,50E7,50CF"),
  (0x2F80C, 0x2F816, .each "349E,2063A,514D,5154,5164,5177,2051C,34B9,5167,518D,2054B"),
  (0x2F817, 0x2F822, .each "5197,51A4,4ECC,51AC,51B5,291DF,51F5,5203,34DF,523B,5246,5272"),
  (0x2F823, 0x2F828, .each "5277,3515,52C7,52C9,52E4,52FA"),
  (0x2F829, 0x2F82A, .shift (-173348)),
  (0x2F82B, 0x2F836, .each "5317,5349,5351,535A,5373,537D,537F,537F,537F,20A2C,7070,53CA"),
  (0x2F837, 0x2F842, .each "53DF,20B63,53EB,53F1,5406,549E,5438,5448,5468,54A2,54F6,5510"),
  (0x2F843, 0x2F84E, .each "5553,5563,5584,5584,5599,55AB,55B3,55C2,5716,5606,5717,5651"),
  (0x2F84F, 0x2F85A, .each "5674,5207,58EE,57CE,57F4,580D,578B,5832,5831,58AC,214E4,58F2"),
  (0x2F85B, 0x2F865, .each "58F7,5906,591A,5922,5962,216A8,216EA,59EC,5A1B,5A27,59D8"),
  (0x2F866, 0x2F870, .each "5A66,36EE,36FC,5B08,5B3E,5B3E,219C8,5BC3,5BD8,5BE7,5BF3"),
  (0x2F871, 0x2F87B, .each "21B18,5BFF,5C06,5F53,5C22,3781,5C60,5C6E,5CC0,5C8D,21DE4"),
  (0x2F87C, 0x2F880, .each "5D43,21DE6,5D6E,5D6B,5D7C"), (0x2F881, 0x2F882, .shift (-170656)),
  (0x2F883, 0x2F88E, .each "382F,5DFD,5E28,5E3D,5E69,3862,22183,387C,5EB0,5EB3,5EB6,5ECA"),
  (0x2F88F, 0x2F899, .each "2A392,5EFE,22331,22331,8201,5F22,5F22,38C7,232B8,261DA,5F62"),
  (0x2F89A, 0x2F8A5, .each "5F6B,38E3,5F9A,5FCD,5FD7,5FF9,6081,393A,391C,6094,226D4,60C7"),
  (0x2F8A6, 0x2F8B1, .each "6148,614C,614E,614C,617A,618E,61B2,61A4,61AF,61DE,61F2,61F6"),
  (0x2F8B2, 0x2F8BD, .each "6210,621B,625D,62B1,62D4,6350,22B0C,633D,62FC,6368,6383,63E4"),
  (0x2F8BE, 0x2F8C9, .each "22BF1,6422,63C5,63A9,3A2E,6469,647E,649D,6477,3A6C,654F,656C"),
  (0x2F8CA, 0x2F8D5, .each "2300A,65E3,66F8,6649,3B19,6691,3B08,3AE4,5192,5195,6700,669C"),
  (0x2F8D6, 0x2F8E1, .each "80AD,43D9,6717,671B,6721,675E,6753,233C3,3B49,67FA,6785,6852"),
  (0x2F8E2, 0x2F8EC, .each "6885,2346D,688E,681F,6914,3B9D,6942,69A3,69EA,6AA8,236A3"),
  (0x2F8ED, 0x2F8F4, .each "6ADB,3C18,6B21,238A7,6B54,3C4E,6B72,6B9F"),
  (0x2F8F5, 0x2F8F6, .shift (-167227)),
  (0x2F8F7, 0x2F901, .each "23A8D,21D0B,23AFA,6C4E,23CBC,6CBF,6CCD,6C67,6D16,6D3E,6D77"),
  (0x2F902, 0x2F90C, .each "6D41,6D69,6D78,6D85,23D1E,6D34,6E2F,6E6E,3D33,6ECB,6EC7"),
  (0x2F90D, 0x2F917, .each "23ED1,6DF9,6F6E,23F5E,23F8E,6FC6,7039,701E,701B,3D96,704A"),
  (0x2F918, 0x2F922, .each "707D,7077,70AD,20525,7145,24263,719C,243AB,7228,7235,7250"),
  (0x2F923, 0x2F92D, .each "24608,7280,7295,24735,24814,737A,738B,3EAC,73A5,3EB8,3EB8"),
  (0x2F92E, 0x2F938, .each "7447,745C,7471,7485,74CA,3F1B,7524,24C36,753E,24C92,7570"),
  (0x2F939, 0x2F942, .each "2219F,7610,24FA1,24FB8,25044,3FFC,4008,76F4,250F3,250F2"),
  (0x2F943, 0x2F944, .each "25119,25133"), (0x2F945, 0x2F946, .shift (-164391)),
  (0x2F947, 0x2F951, .each "771F,774A,4039,778B,4046,4096,2541D,784E,788C,78CC,40E3"),
  (0x2F952, 0x2F95C, .each "25626,7956,2569A,256C5,798F,79EB,412F,7A40,7A4A,7A4F,2597C"),
  (0x2F95D, 0x2F967, .each "25AA7,25AA7,7AEE,4202,25BAB,7BC6,7BC9,4227,25C80,7CD2,42A0"),
  (0x2F968, 0x2F972, .each "7CE8,7CE3,7D00,25F86,7D63,4301,7DC7,7E02,7E45,4334,26228"),
  (0x2F973, 0x2F97D, .each "26247,4359,262D9,7F7A,2633E,7F95,7FFA,8005,264DA,26523,8060"),
  (0x2F97E, 0x2F988, .each "265A8,8070,2335F,43D5,80B2,8103,440B,813E,5AB5,267A7,267B5"),
  (0x2F989, 0x2F993, .each "23393,2339C,8201,8204,8F9E,446B,8291,828B,829D,52B3,82B1"),
  (0x2F994, 0x2F99F, .each "82B3,82BD,82E6,26B3C,82E5,831D,8363,83AD,8323,83BD,83E7,8457"),
  (0x2F9A0, 0x2F9AA, .each "8353,83CA,83CC,83DC,26C36,26D6B,26CD5,452B,84F1,84F3,8516"),
  (0x2F9AB, 0x2F9B5, .each "273CA,8564,26F2C,455D,4561,26FB1,270D2,456B,8650,865C,8667"),
  (0x2F9B6, 0x2F9C1, .each "8669,86A9,8688,870E,86E2,8779,8728,876B,8786,45D7,87E1,8801"),
  (0x2F9C2, 0x2F9CC, .each "45F9,8860,8863,27667,88D7,88DE,4635,88FA,34BB,278AE,27966"),
  (0x2F9CD, 0x2F9D7, .each "46BE,46C7,8AA0,8AED,8B8A,8C55,27CA8,8CAB,8CC1,8D1B,8D77"),
  (0x2F9D8, 0x2F9E2, .each "27F2F,20804,8DCB,8DBC,8DF0,208DE,8ED4,8F38,285D2,285ED,9094"),
  (0x2F9E3, 0x2F9E7, .each "90F1,9111,2872E,911B,9238"), (0x2F9E8, 0x2F9E9, .shift (-157457)),
  (0x2F9EA, 0x2F9F4, .each "927C,93F9,9415,28BFA,958B,4995,95B7,28D77,49E6,96C3,5DB2"),
  (0x2F9F5, 0x2F9FF, .each "9723,29145,2921A,4A6E,4A76,97E0,2940A,4AB2,29496,980B,980B"),
  (0x2FA00, 0x2FA0A, .each "9829,295B6,98E2,4B33,9929,99A7,99C2,99FE,4BCE,29B30,9B12"),
  (0x2FA0B, 0x2FA15, .each "9C40,9CFD,4CCE,4CED,9D67,2A0CE,4CF8,2A105,2A20E,2A291,9EBB"),
  (0x2FA16, 0x2FA1D, .each "4D56,9EF9,9EFE,9F05,9F0F,9F16,9F3B,2A600"),
  (0x30000, 0x3134A, .valid), (0x31350, 0x33479, .valid), (0xE0100, 0xE01EF, .ignored)]

/-- All runs. -/
def mappings : List (Nat × Nat × Rule) :=
  alphabetMappings ++ symbolMappings ++ ideographMappings ++
    formMappings ++ supplementaryMappings

end RealmLookup.Domain
