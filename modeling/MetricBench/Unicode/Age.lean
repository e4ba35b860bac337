import MetricBench.Unicode.Category

/-!
# Ages of characters

Every character that the Unicode standard has assigned got its meaning in one of the versions of the
standard, up to 15.0.  The table lists the changes from version to version among assigned characters,
passing over the others.
-/

namespace MetricBench.Unicode

namespace Age

/-- The versions in their order, each by its number and its symbol. -/
def versions : List (List String) := [
  ["1.1", "v11"], ["2.0", "v20"], ["2.1", "v21"], ["3.0", "v30"], ["3.1", "v31"], ["3.2", "v32"],
  ["4.0", "v40"], ["4.1", "v41"], ["5.0", "v50"], ["5.1", "v51"], ["5.2", "v52"], ["6.0", "v60"],
  ["6.1", "v61"], ["6.2", "v62"], ["6.3", "v63"], ["7.0", "v70"], ["8.0", "v80"], ["9.0", "v90"],
  ["10.0", "v100"], ["11.0", "v110"], ["12.0", "v120"], ["12.1", "v121"], ["13.0", "v130"],
  ["14.0", "v140"], ["15.0", "v150"]]

set_option maxRecDepth 40000 in
/-- The code points at which the version changes, with the place of the version that starts there. -/
def changes : ChangeTable Nat := #[
  (0x0, 0), (0x1F6, 3), (0x1FA, 0), (0x218, 3), (0x220, 5), (0x221, 6), (0x222, 3), (0x234, 6),
   (0x237, 7), (0x242, 8), (0x250, 0), (0x2A9, 3), (0x2AE, 6), (0x2B0, 0), (0x2DF, 3), (0x2E0, 0),
   (0x2EA, 3), (0x2EF, 6), (0x300, 0), (0x346, 3), (0x34F, 5), (0x350, 6), (0x358, 7), (0x35D, 6),
   (0x360, 0), (0x362, 3), (0x363, 5), (0x370, 9), (0x374, 0), (0x376, 9), (0x37A, 0), (0x37B, 8),
   (0x37E, 0), (0x37F, 15), (0x384, 0), (0x3CF, 9), (0x3D0, 0), (0x3D7, 3), (0x3D8, 5), (0x3DA, 0),
   (0x3DB, 3), (0x3DC, 0), (0x3DD, 3), (0x3DE, 0), (0x3DF, 3), (0x3E0, 0), (0x3E1, 3), (0x3E2, 0),
   (0x3F4, 4), (0x3F6, 5), (0x3F7, 6), (0x3FC, 7), (0x400, 3), (0x401, 0), (0x40D, 3), (0x40E, 0),
   (0x450, 3), (0x451, 0), (0x45D, 3), (0x45E, 0), (0x487, 9), (0x488, 3), (0x48A, 5), (0x48C, 3),
   (0x490, 0), (0x4C5, 5), (0x4C7, 0), (0x4C9, 5), (0x4CB, 0), (0x4CD, 5), (0x4CF, 8), (0x4D0, 0),
   (0x4EC, 3), (0x4EE, 0), (0x4F6, 7), (0x4F8, 0), (0x4FA, 8), (0x500, 5), (0x510, 8), (0x514, 9),
   (0x524, 10), (0x526, 11), (0x528, 15), (0x531, 0), (0x560, 19), (0x561, 0), (0x588, 19), (0x589, 0),
   (0x58A, 3), (0x58D, 15), (0x58F, 12), (0x591, 1), (0x5A2, 7), (0x5A3, 1), (0x5B0, 0), (0x5BA, 8),
   (0x5BB, 0), (0x5C4, 1), (0x5C5, 7), (0x5D0, 0), (0x5EF, 19), (0x5F0, 0), (0x600, 6), (0x604, 12),
   (0x605, 15), (0x606, 9), (0x60B, 7), (0x60C, 0), (0x60D, 6), (0x616, 9), (0x61B, 0), (0x61C, 14),
   (0x61D, 23), (0x61E, 7), (0x61F, 0), (0x620, 11), (0x621, 0), (0x63B, 9), (0x640, 0), (0x653, 3),
   (0x656, 6), (0x659, 7), (0x65F, 11), (0x660, 0), (0x66E, 5), (0x670, 0), (0x6B8, 3), (0x6BA, 0),
   (0x6BF, 3), (0x6C0, 0), (0x6CF, 3), (0x6D0, 0), (0x6EE, 6), (0x6F0, 0), (0x6FA, 3), (0x6FF, 6),
   (0x700, 3), (0x72D, 6), (0x730, 3), (0x74D, 6), (0x750, 7), (0x76E, 9), (0x780, 3), (0x7B1, 5),
   (0x7C0, 8), (0x7FD, 19), (0x800, 10), (0x840, 11), (0x860, 18), (0x870, 23), (0x8A0, 12),
   (0x8A1, 15), (0x8A2, 12), (0x8AD, 15), (0x8B3, 16), (0x8B5, 23), (0x8B6, 17), (0x8BE, 22),
   (0x8C8, 23), (0x8D3, 19), (0x8D4, 17), (0x8E3, 16), (0x8E4, 12), (0x8FF, 15), (0x900, 10),
   (0x901, 0), (0x904, 6), (0x905, 0), (0x93A, 11), (0x93C, 0), (0x94E, 10), (0x94F, 11), (0x950, 0),
   (0x955, 10), (0x956, 11), (0x958, 0), (0x971, 9), (0x973, 11), (0x978, 15), (0x979, 10), (0x97B, 8),
   (0x97D, 7), (0x97E, 8), (0x980, 15), (0x981, 0), (0x9BD, 6), (0x9BE, 0), (0x9CE, 7), (0x9D7, 0),
   (0x9FB, 10), (0x9FC, 18), (0x9FE, 19), (0xA01, 6), (0xA02, 0), (0xA03, 6), (0xA05, 0), (0xA51, 9),
   (0xA59, 0), (0xA75, 9), (0xA76, 19), (0xA81, 0), (0xA8C, 6), (0xA8D, 0), (0xAE1, 6), (0xAE6, 0),
   (0xAF0, 12), (0xAF1, 6), (0xAF9, 16), (0xAFA, 18), (0xB01, 0), (0xB35, 6), (0xB36, 0), (0xB44, 9),
   (0xB47, 0), (0xB55, 22), (0xB56, 0), (0xB62, 9), (0xB66, 0), (0xB71, 6), (0xB72, 11), (0xB82, 0),
   (0xBB6, 7), (0xBB7, 0), (0xBD0, 9), (0xBD7, 0), (0xBE6, 7), (0xBE7, 0), (0xBF3, 6), (0xC00, 15),
   (0xC01, 0), (0xC04, 19), (0xC05, 0), (0xC34, 15), (0xC35, 0), (0xC3C, 23), (0xC3D, 9), (0xC3E, 0),
   (0xC58, 9), (0xC5A, 16), (0xC5D, 23), (0xC60, 0), (0xC62, 9), (0xC66, 0), (0xC77, 20), (0xC78, 9),
   (0xC80, 17), (0xC81, 15), (0xC82, 0), (0xC84, 19), (0xC85, 0), (0xCBC, 6), (0xCBE, 0), (0xCDD, 23),
   (0xCDE, 0), (0xCE2, 8), (0xCE6, 0), (0xCF1, 8), (0xCF3, 24), (0xD00, 18), (0xD01, 15), (0xD02, 0),
   (0xD04, 22), (0xD05, 0), (0xD29, 11), (0xD2A, 0), (0xD3A, 11), (0xD3B, 18), (0xD3D, 9), (0xD3E, 0),
   (0xD44, 9), (0xD46, 0), (0xD4E, 11), (0xD4F, 17), (0xD57, 0), (0xD58, 17), (0xD5F, 16), (0xD60, 0),
   (0xD62, 9), (0xD66, 0), (0xD70, 9), (0xD76, 17), (0xD79, 9), (0xD81, 22), (0xD82, 3), (0xDE6, 15),
   (0xDF2, 3), (0xE01, 0), (0xE86, 20), (0xE87, 0), (0xE89, 20), (0xE8A, 0), (0xE8C, 20), (0xE8D, 0),
   (0xE8E, 20), (0xE94, 0), (0xE98, 20), (0xE99, 0), (0xEA0, 20), (0xEA1, 0), (0xEA8, 20), (0xEAA, 0),
   (0xEAC, 20), (0xEAD, 0), (0xEBA, 20), (0xEBB, 0), (0xECE, 24), (0xED0, 0), (0xEDE, 12), (0xF00, 1),
   (0xF6A, 3), (0xF6B, 9), (0xF71, 1), (0xF8C, 11), (0xF90, 1), (0xF96, 3), (0xF97, 1), (0xFAE, 3),
   (0xFB1, 1), (0xFB8, 3), (0xFB9, 1), (0xFBA, 3), (0xFCE, 9), (0xFCF, 3), (0xFD0, 7), (0xFD2, 9),
   (0xFD5, 10), (0xFD9, 11), (0x1000, 3), (0x1022, 9), (0x1023, 3), (0x1028, 9), (0x1029, 3),
   (0x102B, 9), (0x102C, 3), (0x1033, 9), (0x1036, 3), (0x103A, 9), (0x1040, 3), (0x105A, 9),
   (0x109A, 10), (0x109E, 9), (0x10A0, 0), (0x10C7, 12), (0x10D0, 0), (0x10F7, 5), (0x10F9, 7),
   (0x10FB, 0), (0x10FC, 7), (0x10FD, 12), (0x1100, 0), (0x115A, 10), (0x115F, 0), (0x11A3, 10),
   (0x11A8, 0), (0x11FA, 10), (0x1200, 3), (0x1207, 7), (0x1208, 3), (0x1247, 7), (0x1248, 3),
   (0x1287, 7), (0x1288, 3), (0x12AF, 7), (0x12B0, 3), (0x12CF, 7), (0x12D0, 3), (0x12EF, 7),
   (0x12F0, 3), (0x130F, 7), (0x1310, 3), (0x131F, 7), (0x1320, 3), (0x1347, 7), (0x1348, 3),
   (0x135D, 11), (0x135F, 7), (0x1361, 3), (0x1380, 7), (0x13A0, 3), (0x13F5, 16), (0x1400, 10),
   (0x1401, 3), (0x1677, 10), (0x1680, 3), (0x16F1, 15), (0x1700, 5), (0x170D, 23), (0x170E, 5),
   (0x1715, 23), (0x1720, 5), (0x1780, 3), (0x17DD, 6), (0x17E0, 3), (0x17F0, 6), (0x1800, 3),
   (0x180F, 23), (0x1810, 3), (0x1878, 19), (0x1880, 3), (0x18AA, 9), (0x18B0, 10), (0x1900, 6),
   (0x191D, 15), (0x1920, 6), (0x1980, 7), (0x19AA, 10), (0x19B0, 7), (0x19DA, 10), (0x19DE, 7),
   (0x19E0, 6), (0x1A00, 7), (0x1A20, 10), (0x1AB0, 15), (0x1ABF, 22), (0x1AC1, 23), (0x1B00, 8),
   (0x1B4C, 23), (0x1B50, 8), (0x1B7D, 23), (0x1B80, 9), (0x1BAB, 12), (0x1BAE, 9), (0x1BBA, 12),
   (0x1BC0, 11), (0x1C00, 9), (0x1C80, 17), (0x1C90, 19), (0x1CC0, 12), (0x1CD0, 10), (0x1CF3, 12),
   (0x1CF7, 18), (0x1CF8, 15), (0x1CFA, 20), (0x1D00, 6), (0x1D6C, 7), (0x1DC4, 8), (0x1DCB, 9),
   (0x1DE7, 15), (0x1DF6, 18), (0x1DFA, 23), (0x1DFB, 17), (0x1DFC, 11), (0x1DFD, 10), (0x1DFE, 8),
   (0x1E00, 0), (0x1E9B, 1), (0x1E9C, 9), (0x1EA0, 0), (0x1EFA, 9), (0x1F00, 0), (0x202F, 3),
   (0x2030, 0), (0x2047, 5), (0x2048, 3), (0x204E, 5), (0x2053, 6), (0x2055, 7), (0x2057, 5),
   (0x2058, 7), (0x205F, 5), (0x2064, 9), (0x2066, 14), (0x206A, 0), (0x2071, 5), (0x2074, 0),
   (0x2090, 7), (0x2095, 11), (0x20A0, 0), (0x20AB, 1), (0x20AC, 2), (0x20AD, 3), (0x20B0, 5),
   (0x20B2, 7), (0x20B6, 10), (0x20B9, 11), (0x20BA, 13), (0x20BB, 15), (0x20BE, 16), (0x20BF, 18),
   (0x20C0, 23), (0x20D0, 0), (0x20E2, 3), (0x20E4, 5), (0x20EB, 7), (0x20EC, 8), (0x20F0, 9),
   (0x2100, 0), (0x2139, 3), (0x213B, 6), (0x213C, 7), (0x213D, 5), (0x214C, 7), (0x214D, 8),
   (0x214F, 9), (0x2150, 10), (0x2153, 0), (0x2183, 3), (0x2184, 8), (0x2185, 9), (0x2189, 10),
   (0x218A, 16), (0x2190, 0), (0x21EB, 3), (0x21F4, 5), (0x2200, 0), (0x22F2, 5), (0x2300, 0),
   (0x2301, 3), (0x2302, 0), (0x237B, 3), (0x237C, 5), (0x237D, 3), (0x239B, 5), (0x23CF, 6),
   (0x23D1, 7), (0x23DC, 8), (0x23E8, 10), (0x23E9, 11), (0x23F4, 15), (0x23FB, 17), (0x23FF, 18),
   (0x2400, 0), (0x2425, 3), (0x2440, 0), (0x24EB, 5), (0x24FF, 6), (0x2500, 0), (0x2596, 5),
   (0x25A0, 0), (0x25F0, 3), (0x25F8, 5), (0x2600, 0), (0x2614, 6), (0x2616, 5), (0x2618, 7),
   (0x2619, 3), (0x261A, 0), (0x2670, 3), (0x2672, 5), (0x267E, 7), (0x2680, 5), (0x268A, 6),
   (0x2692, 7), (0x269D, 9), (0x269E, 10), (0x26A0, 6), (0x26A2, 7), (0x26B2, 8), (0x26B3, 9),
   (0x26BD, 10), (0x26C0, 9), (0x26C4, 10), (0x26CE, 11), (0x26CF, 10), (0x26E2, 11), (0x26E3, 10),
   (0x26E4, 11), (0x26E8, 10), (0x2700, 15), (0x2701, 0), (0x2705, 11), (0x2706, 0), (0x270A, 11),
   (0x270C, 0), (0x2728, 11), (0x2729, 0), (0x274C, 11), (0x274D, 0), (0x274E, 11), (0x274F, 0),
   (0x2753, 11), (0x2756, 0), (0x2757, 10), (0x2758, 0), (0x275F, 11), (0x2761, 0), (0x2768, 5),
   (0x2776, 0), (0x2795, 11), (0x2798, 0), (0x27B0, 11), (0x27B1, 0), (0x27BF, 11), (0x27C0, 7),
   (0x27C7, 8), (0x27CB, 12), (0x27CC, 9), (0x27CD, 12), (0x27CE, 11), (0x27D0, 5), (0x27EC, 9),
   (0x27F0, 5), (0x2800, 3), (0x2900, 5), (0x2B00, 6), (0x2B0E, 7), (0x2B14, 8), (0x2B1B, 9),
   (0x2B20, 8), (0x2B24, 9), (0x2B4D, 15), (0x2B50, 9), (0x2B55, 10), (0x2B5A, 15), (0x2B97, 22),
   (0x2B98, 15), (0x2BBA, 19), (0x2BBD, 15), (0x2BC9, 20), (0x2BCA, 15), (0x2BD2, 18), (0x2BD3, 19),
   (0x2BEC, 16), (0x2BF0, 19), (0x2BFF, 20), (0x2C00, 7), (0x2C2F, 23), (0x2C30, 7), (0x2C5F, 23),
   (0x2C60, 8), (0x2C6D, 9), (0x2C70, 10), (0x2C71, 9), (0x2C74, 8), (0x2C78, 9), (0x2C7E, 10),
   (0x2C80, 7), (0x2CEB, 10), (0x2CF2, 12), (0x2CF9, 7), (0x2D27, 12), (0x2D30, 7), (0x2D66, 12),
   (0x2D6F, 7), (0x2D70, 11), (0x2D80, 7), (0x2DE0, 9), (0x2E00, 7), (0x2E18, 9), (0x2E1C, 7),
   (0x2E1E, 9), (0x2E31, 10), (0x2E32, 12), (0x2E3C, 15), (0x2E43, 17), (0x2E45, 18), (0x2E4A, 19),
   (0x2E4F, 20), (0x2E50, 22), (0x2E53, 23), (0x2E80, 3), (0x3000, 0), (0x3038, 3), (0x303B, 5),
   (0x303E, 3), (0x303F, 0), (0x3095, 5), (0x3099, 0), (0x309F, 5), (0x30A1, 0), (0x30FF, 5),
   (0x3105, 0), (0x312D, 9), (0x312E, 18), (0x312F, 19), (0x3131, 0), (0x31A0, 3), (0x31B8, 11),
   (0x31BB, 22), (0x31C0, 7), (0x31D0, 9), (0x31F0, 5), (0x3200, 0), (0x321D, 6), (0x3220, 0),
   (0x3244, 10), (0x3250, 6), (0x3251, 5), (0x3260, 0), (0x327C, 6), (0x327E, 7), (0x327F, 0),
   (0x32B1, 5), (0x32C0, 0), (0x32CC, 6), (0x32D0, 0), (0x32FF, 21), (0x3300, 0), (0x3377, 6),
   (0x337B, 0), (0x33DE, 6), (0x33E0, 0), (0x33FF, 6), (0x3400, 3), (0x4DB6, 22), (0x4DC0, 6),
   (0x4E00, 0), (0x9FA6, 7), (0x9FBC, 9), (0x9FC4, 10), (0x9FCC, 12), (0x9FCD, 16), (0x9FD6, 18),
   (0x9FEB, 19), (0x9FF0, 22), (0x9FFD, 23), (0xA000, 3), (0xA4A2, 5), (0xA4A4, 3), (0xA4B4, 5),
   (0xA4B5, 3), (0xA4C1, 5), (0xA4C2, 3), (0xA4C5, 5), (0xA4C6, 3), (0xA4D0, 10), (0xA500, 9),
   (0xA660, 11), (0xA662, 9), (0xA674, 12), (0xA67C, 9), (0xA698, 15), (0xA69E, 16), (0xA69F, 12),
   (0xA6A0, 10), (0xA700, 7), (0xA717, 8), (0xA71B, 9), (0xA720, 8), (0xA722, 9), (0xA78D, 11),
   (0xA78F, 16), (0xA790, 11), (0xA792, 12), (0xA794, 15), (0xA7A0, 11), (0xA7AA, 12), (0xA7AB, 15),
   (0xA7AE, 17), (0xA7AF, 19), (0xA7B0, 15), (0xA7B2, 16), (0xA7B8, 19), (0xA7BA, 20), (0xA7C0, 23),
   (0xA7C2, 20), (0xA7C7, 22), (0xA7D0, 23), (0xA7F5, 22), (0xA7F7, 15), (0xA7F8, 12), (0xA7FA, 11),
   (0xA7FB, 9), (0xA800, 7), (0xA82C, 22), (0xA830, 10), (0xA840, 8), (0xA880, 9), (0xA8C5, 17),
   (0xA8CE, 9), (0xA8E0, 10), (0xA8FC, 16), (0xA8FE, 19), (0xA900, 9), (0xA960, 10), (0xA9E0, 15),
   (0xAA00, 9), (0xAA60, 10), (0xAA7C, 15), (0xAA80, 10), (0xAAE0, 12), (0xAB01, 11), (0xAB30, 15),
   (0xAB60, 16), (0xAB64, 15), (0xAB66, 20), (0xAB68, 22), (0xAB70, 16), (0xABC0, 10), (0xAC00, 1),
   (0xD7B0, 10), (0xD800, 1), (0xE000, 0), (0xFA2E, 12), (0xFA30, 5), (0xFA6B, 10), (0xFA70, 7),
   (0xFB00, 0), (0xFB1D, 3), (0xFB1E, 0), (0xFBB2, 11), (0xFBC2, 23), (0xFBD3, 0), (0xFD40, 23),
   (0xFD50, 0), (0xFDCF, 23), (0xFDD0, 4), (0xFDF0, 0), (0xFDFC, 5), (0xFDFD, 6), (0xFDFE, 23),
   (0xFE00, 5), (0xFE10, 7), (0xFE20, 0), (0xFE24, 9), (0xFE27, 15), (0xFE2E, 16), (0xFE30, 0),
   (0xFE45, 5), (0xFE47, 6), (0xFE49, 0), (0xFE73, 5), (0xFE74, 0), (0xFF5F, 5), (0xFF61, 0),
   (0xFFF9, 3), (0xFFFC, 2), (0xFFFD, 0), (0x10000, 6), (0x10140, 7), (0x1018B, 15), (0x1018D, 17),
   (0x10190, 9), (0x1019C, 22), (0x101A0, 15), (0x101D0, 9), (0x102E0, 15), (0x10300, 4), (0x1031F, 15),
   (0x10320, 4), (0x1032D, 18), (0x10330, 4), (0x10350, 15), (0x10380, 6), (0x103A0, 7), (0x10400, 4),
   (0x10426, 6), (0x10428, 4), (0x1044E, 6), (0x104B0, 17), (0x10500, 15), (0x10570, 23), (0x10600, 15),
   (0x10780, 23), (0x10800, 6), (0x10840, 10), (0x10860, 15), (0x108E0, 16), (0x10900, 8),
   (0x1091A, 10), (0x1091F, 8), (0x10920, 9), (0x10980, 12), (0x109BC, 16), (0x109BE, 12),
   (0x109C0, 16), (0x10A00, 7), (0x10A34, 19), (0x10A38, 7), (0x10A48, 19), (0x10A50, 7), (0x10A60, 10),
   (0x10A80, 15), (0x10B00, 10), (0x10B80, 15), (0x10C00, 10), (0x10C80, 16), (0x10D00, 19),
   (0x10E60, 10), (0x10E80, 22), (0x10EFD, 24), (0x10F00, 19), (0x10F70, 23), (0x10FB0, 22),
   (0x10FE0, 20), (0x11000, 11), (0x11070, 23), (0x1107F, 15), (0x11080, 10), (0x110C2, 23),
   (0x110CD, 19), (0x110D0, 12), (0x11144, 19), (0x11147, 22), (0x11150, 15), (0x11180, 12),
   (0x111C9, 16), (0x111CD, 15), (0x111CE, 22), (0x111D0, 12), (0x111DA, 15), (0x111DB, 16),
   (0x111E1, 15), (0x1123E, 17), (0x1123F, 24), (0x11280, 16), (0x112B0, 15), (0x11300, 16),
   (0x11301, 15), (0x1133B, 19), (0x1133C, 15), (0x11350, 16), (0x11357, 15), (0x11400, 17),
   (0x1145A, 22), (0x1145B, 17), (0x1145E, 19), (0x1145F, 20), (0x11460, 22), (0x11480, 15),
   (0x115CA, 16), (0x11600, 15), (0x11660, 17), (0x11680, 12), (0x116B8, 20), (0x116B9, 23),
   (0x116C0, 12), (0x11700, 16), (0x1171A, 19), (0x1171D, 16), (0x11740, 23), (0x11800, 19),
   (0x118A0, 15), (0x11900, 22), (0x119A0, 20), (0x11A00, 18), (0x11A84, 20), (0x11A86, 18),
   (0x11A9D, 19), (0x11A9E, 18), (0x11AB0, 23), (0x11AC0, 15), (0x11B00, 24), (0x11C00, 17),
   (0x11D00, 18), (0x11D60, 19), (0x11F00, 24), (0x11FB0, 22), (0x11FC0, 20), (0x12000, 8),
   (0x1236F, 15), (0x12399, 16), (0x12400, 8), (0x12463, 15), (0x12470, 8), (0x12474, 15),
   (0x12480, 16), (0x12F90, 23), (0x13000, 10), (0x1342F, 24), (0x13430, 20), (0x13439, 24),
   (0x14400, 16), (0x16800, 11), (0x16A40, 15), (0x16A70, 23), (0x16AD0, 15), (0x16E40, 19),
   (0x16F00, 12), (0x16F45, 20), (0x16F50, 12), (0x16F7F, 20), (0x16F8F, 12), (0x16FE0, 17),
   (0x16FE1, 18), (0x16FE2, 20), (0x16FE4, 22), (0x17000, 17), (0x187ED, 19), (0x187F2, 20),
   (0x18800, 17), (0x18AF3, 22), (0x1AFF0, 23), (0x1B000, 11), (0x1B002, 18), (0x1B11F, 23),
   (0x1B132, 24), (0x1B150, 20), (0x1B155, 24), (0x1B164, 20), (0x1B170, 18), (0x1BC00, 15),
   (0x1CF00, 23), (0x1D000, 4), (0x1D129, 9), (0x1D12A, 4), (0x1D1DE, 16), (0x1D1E9, 23), (0x1D200, 7),
   (0x1D2C0, 24), (0x1D2E0, 19), (0x1D300, 6), (0x1D360, 8), (0x1D372, 19), (0x1D400, 4), (0x1D4C1, 6),
   (0x1D4C2, 4), (0x1D6A4, 7), (0x1D6A8, 4), (0x1D7CA, 8), (0x1D7CE, 4), (0x1D800, 16), (0x1DF00, 23),
   (0x1DF25, 24), (0x1E000, 17), (0x1E030, 24), (0x1E100, 20), (0x1E290, 23), (0x1E2C0, 20),
   (0x1E4D0, 24), (0x1E7E0, 23), (0x1E800, 15), (0x1E900, 17), (0x1E94B, 20), (0x1E950, 17),
   (0x1EC71, 19), (0x1ED01, 20), (0x1EE00, 12), (0x1F000, 9), (0x1F0A0, 11), (0x1F0BF, 15),
   (0x1F0C1, 11), (0x1F0E0, 15), (0x1F100, 10), (0x1F10B, 15), (0x1F10D, 22), (0x1F110, 10),
   (0x1F12F, 19), (0x1F130, 11), (0x1F131, 10), (0x1F132, 11), (0x1F13D, 10), (0x1F13E, 11),
   (0x1F13F, 10), (0x1F140, 11), (0x1F142, 10), (0x1F143, 11), (0x1F146, 10), (0x1F147, 11),
   (0x1F14A, 10), (0x1F14F, 11), (0x1F157, 10), (0x1F158, 11), (0x1F15F, 10), (0x1F160, 11),
   (0x1F16A, 12), (0x1F16C, 20), (0x1F16D, 22), (0x1F170, 11), (0x1F179, 10), (0x1F17A, 11),
   (0x1F17B, 10), (0x1F17D, 11), (0x1F17F, 10), (0x1F180, 11), (0x1F18A, 10), (0x1F18E, 11),
   (0x1F190, 10), (0x1F191, 11), (0x1F19B, 17), (0x1F1AD, 22), (0x1F1E6, 11), (0x1F200, 10),
   (0x1F201, 11), (0x1F210, 10), (0x1F232, 11), (0x1F23B, 17), (0x1F240, 10), (0x1F250, 11),
   (0x1F260, 18), (0x1F300, 11), (0x1F321, 15), (0x1F32D, 16), (0x1F330, 11), (0x1F336, 15),
   (0x1F337, 11), (0x1F37D, 15), (0x1F37E, 16), (0x1F380, 11), (0x1F394, 15), (0x1F3A0, 11),
   (0x1F3C5, 15), (0x1F3C6, 11), (0x1F3CB, 15), (0x1F3CF, 16), (0x1F3D4, 15), (0x1F3E0, 11),
   (0x1F3F1, 15), (0x1F3F8, 16), (0x1F400, 11), (0x1F43F, 15), (0x1F440, 11), (0x1F441, 15),
   (0x1F442, 11), (0x1F4F8, 15), (0x1F4F9, 11), (0x1F4FD, 15), (0x1F4FF, 16), (0x1F500, 11),
   (0x1F53E, 15), (0x1F540, 12), (0x1F544, 15), (0x1F54B, 16), (0x1F550, 11), (0x1F568, 15),
   (0x1F57A, 17), (0x1F57B, 15), (0x1F5A4, 17), (0x1F5A5, 15), (0x1F5FB, 11), (0x1F600, 12),
   (0x1F601, 11), (0x1F611, 12), (0x1F612, 11), (0x1F615, 12), (0x1F616, 11), (0x1F617, 12),
   (0x1F618, 11), (0x1F619, 12), (0x1F61A, 11), (0x1F61B, 12), (0x1F61C, 11), (0x1F61F, 12),
   (0x1F620, 11), (0x1F626, 12), (0x1F628, 11), (0x1F62C, 12), (0x1F62D, 11), (0x1F62E, 12),
   (0x1F630, 11), (0x1F634, 12), (0x1F635, 11), (0x1F641, 15), (0x1F643, 16), (0x1F645, 11),
   (0x1F650, 15), (0x1F680, 11), (0x1F6C6, 15), (0x1F6D0, 16), (0x1F6D1, 17), (0x1F6D3, 18),
   (0x1F6D5, 20), (0x1F6D6, 22), (0x1F6DC, 24), (0x1F6DD, 23), (0x1F6E0, 15), (0x1F6F4, 17),
   (0x1F6F7, 18), (0x1F6F9, 19), (0x1F6FA, 20), (0x1F6FB, 22), (0x1F700, 11), (0x1F774, 24),
   (0x1F780, 15), (0x1F7D5, 19), (0x1F7D9, 24), (0x1F7E0, 20), (0x1F7F0, 23), (0x1F800, 15),
   (0x1F8B0, 22), (0x1F900, 18), (0x1F90C, 22), (0x1F90D, 20), (0x1F910, 16), (0x1F919, 17),
   (0x1F91F, 18), (0x1F920, 17), (0x1F928, 18), (0x1F930, 17), (0x1F931, 18), (0x1F933, 17),
   (0x1F93F, 20), (0x1F940, 17), (0x1F94C, 18), (0x1F94D, 19), (0x1F950, 17), (0x1F95F, 18),
   (0x1F96C, 19), (0x1F971, 20), (0x1F972, 22), (0x1F973, 19), (0x1F977, 22), (0x1F979, 23),
   (0x1F97A, 19), (0x1F97B, 20), (0x1F97C, 19), (0x1F980, 16), (0x1F985, 17), (0x1F992, 18),
   (0x1F998, 19), (0x1F9A3, 22), (0x1F9A5, 20), (0x1F9AB, 22), (0x1F9AE, 20), (0x1F9B0, 19),
   (0x1F9BA, 20), (0x1F9C0, 16), (0x1F9C1, 19), (0x1F9C3, 20), (0x1F9CB, 22), (0x1F9CC, 23),
   (0x1F9CD, 20), (0x1F9D0, 18), (0x1F9E7, 19), (0x1FA00, 20), (0x1FA60, 19), (0x1FA70, 20),
   (0x1FA74, 22), (0x1FA75, 24), (0x1FA78, 20), (0x1FA7B, 23), (0x1FA80, 20), (0x1FA83, 22),
   (0x1FA87, 24), (0x1FA90, 20), (0x1FA96, 22), (0x1FAA9, 23), (0x1FAAD, 24), (0x1FAB0, 22),
   (0x1FAB7, 23), (0x1FABB, 24), (0x1FAC0, 22), (0x1FAC3, 23), (0x1FACE, 24), (0x1FAD0, 22),
   (0x1FAD7, 23), (0x1FADA, 24), (0x1FAE0, 23), (0x1FAE8, 24), (0x1FAF0, 23), (0x1FAF7, 24),
   (0x1FB00, 22), (0x1FFFE, 1), (0x20000, 4), (0x2A6D7, 22), (0x2A6DE, 23), (0x2A700, 10),
   (0x2B735, 23), (0x2B739, 24), (0x2B740, 11), (0x2B820, 16), (0x2CEB0, 18), (0x2F800, 4),
   (0x2FFFE, 1), (0x30000, 22), (0x31350, 24), (0x3FFFE, 1), (0xE0001, 4), (0xE0100, 6), (0xEFFFE, 1)]

end Age

/-- Code points that are set apart and never become characters of a text. -/
def isNoncharacter (c : Char) : Bool :=
  (0xFDD0 ≤ c.toNat && c.toNat ≤ 0xFDEF) || 0xFFFE ≤ c.toNat % 0x10000

/-- Whether a character had a meaning in a version, which is given by its place. -/
def hadMeaningIn (version : Nat) (c : Char) : Bool :=
  (Category.of c != .cn || isNoncharacter c) && Age.changes.valueFor c.toNat 0 ≤ version

end MetricBench.Unicode
