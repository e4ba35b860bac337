import MetricBench.Unicode.Category

/-!
# Character properties

The properties that text output and patterns ask for, as the Unicode standard has them in its version
15.0.  Each is a set of general categories, with the further characters and the exceptions that the
standard lists by their codes.
-/

namespace MetricBench.Unicode

/-- Characters with a shape of their own: everything but controls, formats, unassigned and private
characters and the separators other than the plain space. -/
def isPrintable (c : Char) : Bool :=
  c == ' ' ||
    !((Category.of c).isOther || (Category.of c).isSeparator)

/-- Decimal digits of any script. -/
def digits : CategorySet := ⟨[.nd], [], []⟩

/-- Letters, marks, decimal digits, letter numbers, connectors and joiners, with the circled and squared
letters: what words are made of. -/
def wordCharacters : CategorySet where
  categories := [.lu, .ll, .lt, .lm, .lo, .mn, .mc, .me, .nd, .nl, .pc]
  more := [(0x200C, 0x200D), (0x24B6, 0x24E9), (0x1F130, 0x1F149), (0x1F150, 0x1F169),
    (0x1F170, 0x1F189)]
  exceptions := []

/-- Letters and letter numbers of any script with the marks that spell something, and the circled and
squared letters. -/
def alphabetic : CategorySet where
  categories := [.lu, .ll, .lt, .lm, .lo, .mn, .mc, .nl]
  more := [(0x24B6, 0x24E9), (0x1F130, 0x1F149), (0x1F150, 0x1F169), (0x1F170, 0x1F189)]
  exceptions := [(0x300, 0x344), (0x346, 0x36F), (0x483, 0x487), (0x591, 0x5AF), (0x658, 0x658),
    (0x6DF, 0x6E0), (0x6EA, 0x6EC), (0x740, 0x74A), (0x7EB, 0x7F3), (0x7FD, 0x7FD), (0x818, 0x819),
    (0x82D, 0x82D), (0x859, 0x85B), (0x898, 0x89F), (0x8CA, 0x8D3), (0x8E0, 0x8E1), (0x8EA, 0x8EF),
    (0x93C, 0x93C), (0x94D, 0x94D), (0x951, 0x954), (0x9BC, 0x9BC), (0x9CD, 0x9CD), (0x9FE, 0x9FE),
    (0xA3C, 0xA3C), (0xA4D, 0xA4D), (0xABC, 0xABC), (0xACD, 0xACD), (0xAFD, 0xAFF), (0xB3C, 0xB3C),
    (0xB4D, 0xB55), (0xBCD, 0xBCD), (0xC3C, 0xC3C), (0xC4D, 0xC4D), (0xCBC, 0xCBC), (0xCCD, 0xCCD),
    (0xD3B, 0xD3C), (0xD4D, 0xD4D), (0xDCA, 0xDCA), (0xE47, 0xE4C), (0xE4E, 0xE4E), (0xEBA, 0xEBA),
    (0xEC8, 0xECC), (0xECE, 0xECE), (0xF18, 0xF3F), (0xF84, 0xF87), (0xFC6, 0xFC6), (0x1037, 0x1037),
    (0x1039, 0x103A), (0x135D, 0x135F), (0x1714, 0x1715), (0x1734, 0x1734), (0x17B4, 0x17B5),
    (0x17C9, 0x17D3), (0x17DD, 0x180F), (0x1939, 0x193B), (0x1A60, 0x1A60), (0x1A75, 0x1A7F),
    (0x1AB0, 0x1ABD), (0x1AC1, 0x1ACB), (0x1B34, 0x1B34), (0x1B44, 0x1B44), (0x1B6B, 0x1B73),
    (0x1BAA, 0x1BAB), (0x1BE6, 0x1BE6), (0x1BF2, 0x1BF3), (0x1C37, 0x1C37), (0x1CD0, 0x1CE8),
    (0x1CED, 0x1CED), (0x1CF4, 0x1CF4), (0x1CF7, 0x1CF9), (0x1DC0, 0x1DE6), (0x1DF5, 0x1DFF),
    (0x20D0, 0x20F0), (0x2CEF, 0x2CF1), (0x2D7F, 0x2D7F), (0x302A, 0x302F), (0x3099, 0x309A),
    (0xA66F, 0xA66F), (0xA67C, 0xA67D), (0xA6F0, 0xA6F1), (0xA806, 0xA806), (0xA82C, 0xA82C),
    (0xA8C4, 0xA8C4), (0xA8E0, 0xA8F1), (0xA92B, 0xA92D), (0xA953, 0xA953), (0xA9B3, 0xA9B3),
    (0xA9C0, 0xA9C0), (0xAABF, 0xAABF), (0xAAC1, 0xAAC1), (0xAAF6, 0xAAF6), (0xABEC, 0xABED),
    (0xFE00, 0xFE2F), (0x101FD, 0x101FD), (0x102E0, 0x102E0), (0x10A38, 0x10A3F), (0x10AE5, 0x10AE6),
    (0x10EFD, 0x10EFF), (0x10F46, 0x10F50), (0x10F82, 0x10F85), (0x11046, 0x11070), (0x1107F, 0x1107F),
    (0x110B9, 0x110BA), (0x11133, 0x11134), (0x11173, 0x11173), (0x111C0, 0x111C0), (0x111C9, 0x111CC),
    (0x11235, 0x11236), (0x112E9, 0x112EA), (0x1133B, 0x1133C), (0x1134D, 0x1134D), (0x11366, 0x11374),
    (0x11442, 0x11442), (0x11446, 0x11446), (0x1145E, 0x1145E), (0x114C2, 0x114C3), (0x115BF, 0x115C0),
    (0x1163F, 0x1163F), (0x116B6, 0x116B7), (0x1172B, 0x1172B), (0x11839, 0x1183A), (0x1193D, 0x1193E),
    (0x11943, 0x11943), (0x119E0, 0x119E0), (0x11A33, 0x11A34), (0x11A47, 0x11A47), (0x11A98, 0x11A99),
    (0x11C3F, 0x11C3F), (0x11D42, 0x11D42), (0x11D44, 0x11D45), (0x11D97, 0x11D97), (0x11F41, 0x11F42),
    (0x13440, 0x13440), (0x13447, 0x13455), (0x16AF0, 0x16AF4), (0x16B30, 0x16B36), (0x16FE4, 0x16FE4),
    (0x1BC9D, 0x1BC9D), (0x1CF00, 0x1D244), (0x1DA00, 0x1DAAF), (0x1E130, 0x1E136), (0x1E2AE, 0x1E2AE),
    (0x1E2EC, 0x1E2EF), (0x1E4EC, 0x1E4EF), (0x1E8D0, 0x1E8D6), (0x1E944, 0x1E946), (0x1E948, 0x1E94A),
    (0xE0100, 0xE01EF)]

/-- Characters that attach to the one before them. -/
def graphemeExtend : CategorySet where
  categories := [.mn, .me]
  more := [(0x9BE, 0x9BE), (0x9D7, 0x9D7), (0xB3E, 0xB3E), (0xB57, 0xB57), (0xBBE, 0xBBE),
    (0xBD7, 0xBD7), (0xCC2, 0xCC2), (0xCD5, 0xCD6), (0xD3E, 0xD3E), (0xD57, 0xD57), (0xDCF, 0xDCF),
    (0xDDF, 0xDDF), (0x1B35, 0x1B35), (0x200C, 0x200C), (0x302E, 0x302F), (0xFF9E, 0xFF9F),
    (0x1133E, 0x1133E), (0x11357, 0x11357), (0x114B0, 0x114B0), (0x114BD, 0x114BD), (0x115AF, 0x115AF),
    (0x11930, 0x11930), (0x1D165, 0x1D165), (0x1D16E, 0x1D172), (0xE0020, 0xE007F)]
  exceptions := []

set_option maxRecDepth 40000 in
/-- The properties that hold or do not hold of a character, by their names. -/
def binaryProperties : List (List String × CategorySet) := [
  (["ahex", "asciihexdigit"], ⟨[], [(0x30, 0x39), (0x41, 0x46), (0x61, 0x66)], []⟩),
  (["alpha", "alphabetic"], alphabetic),
  (["bidic", "bidicontrol"], ⟨[], [(0x61C, 0x61C), (0x200E, 0x200F), (0x202A, 0x202E),
    (0x2066, 0x2069)], []⟩),
  (["bidim", "bidimirrored"], ⟨[.ps, .pe, .pi, .pf], [(0x3C, 0x3C), (0x3E, 0x3E), (0x2140, 0x2140),
    (0x2201, 0x2204), (0x2208, 0x220D), (0x2211, 0x2211), (0x2215, 0x2216), (0x221A, 0x221D),
    (0x221F, 0x2222), (0x2224, 0x2224), (0x2226, 0x2226), (0x222B, 0x2233), (0x2239, 0x2239),
    (0x223B, 0x224C), (0x2252, 0x2255), (0x225F, 0x2260), (0x2262, 0x2262), (0x2264, 0x226B),
    (0x226E, 0x228C), (0x228F, 0x2292), (0x2298, 0x2298), (0x22A2, 0x22A3), (0x22A6, 0x22B8),
    (0x22BE, 0x22BF), (0x22C9, 0x22CD), (0x22D0, 0x22D1), (0x22D6, 0x22ED), (0x22F0, 0x22FF),
    (0x2320, 0x2321), (0x27C0, 0x27C0), (0x27C3, 0x27C4), (0x27C8, 0x27C9), (0x27CB, 0x27CD),
    (0x27D3, 0x27D6), (0x27DC, 0x27DE), (0x27E2, 0x27E5), (0x299B, 0x29A0), (0x29A2, 0x29AF),
    (0x29B8, 0x29B8), (0x29C0, 0x29C5), (0x29C9, 0x29C9), (0x29CE, 0x29D2), (0x29D4, 0x29D5),
    (0x29DC, 0x29DC), (0x29E1, 0x29E1), (0x29E3, 0x29E5), (0x29E8, 0x29E9), (0x29F4, 0x29F9),
    (0x2A0A, 0x2A1C), (0x2A1E, 0x2A21), (0x2A24, 0x2A24), (0x2A26, 0x2A26), (0x2A29, 0x2A29),
    (0x2A2B, 0x2A2E), (0x2A34, 0x2A35), (0x2A3C, 0x2A3E), (0x2A57, 0x2A58), (0x2A64, 0x2A65),
    (0x2A6A, 0x2A6D), (0x2A6F, 0x2A70), (0x2A73, 0x2A74), (0x2A79, 0x2AA3), (0x2AA6, 0x2AAD),
    (0x2AAF, 0x2AD6), (0x2ADC, 0x2ADC), (0x2ADE, 0x2ADE), (0x2AE2, 0x2AE6), (0x2AEC, 0x2AEE),
    (0x2AF3, 0x2AF3), (0x2AF7, 0x2AFB), (0x2AFD, 0x2AFD), (0x2BFE, 0x2BFE), (0xFE64, 0xFE65),
    (0xFF1C, 0xFF1C), (0xFF1E, 0xFF1E), (0x1D6DB, 0x1D6DB), (0x1D715, 0x1D715), (0x1D74F, 0x1D74F),
    (0x1D789, 0x1D789), (0x1D7C3, 0x1D7C3)], [(0x2018, 0x201F), (0x2E42, 0x2E42), (0x301D, 0xFE48)]⟩),
  (["ci", "caseignorable"], ⟨[.lm, .mn, .me, .sk, .cf], [(0x27, 0x27), (0x2E, 0x2E), (0x3A, 0x3A),
    (0xB7, 0xB7), (0x387, 0x387), (0x55F, 0x55F), (0x5F4, 0x5F4), (0x2018, 0x2019), (0x2024, 0x2024),
    (0x2027, 0x2027), (0xFE13, 0xFE13), (0xFE52, 0xFE52), (0xFE55, 0xFE55), (0xFF07, 0xFF07),
    (0xFF0E, 0xFF0E), (0xFF1A, 0xFF1A)], []⟩),
  (["cased"], ⟨[.lu, .ll, .lt], [(0xAA, 0xAA), (0xBA, 0xBA), (0x2B0, 0x2B8), (0x2C0, 0x2C1),
    (0x2E0, 0x2E4), (0x345, 0x345), (0x37A, 0x37A), (0x10FC, 0x10FC), (0x1D2C, 0x1DBF),
    (0x2071, 0x2071), (0x207F, 0x207F), (0x2090, 0x209C), (0x2160, 0x217F), (0x24B6, 0x24E9),
    (0x2C7C, 0x2C7D), (0xA69C, 0xA69D), (0xA770, 0xA770), (0xA7F2, 0xA7F4), (0xA7F8, 0xA7F9),
    (0xAB5C, 0xAB69), (0x10780, 0x10780), (0x10783, 0x10785), (0x10787, 0x107B0), (0x107B2, 0x107BA),
    (0x1E030, 0x1E06D), (0x1F130, 0x1F149), (0x1F150, 0x1F169), (0x1F170, 0x1F189)], []⟩),
  (["cwcf", "changeswhencasefolded"], ⟨[.lu, .lt], [(0xB5, 0xB5), (0xDF, 0xDF), (0x149, 0x149),
    (0x17F, 0x17F), (0x345, 0x345), (0x3C2, 0x3C2), (0x3D0, 0x3D1), (0x3D5, 0x3D6), (0x3F0, 0x3F1),
    (0x3F5, 0x3F5), (0x587, 0x587), (0x13F8, 0x13FD), (0x1C80, 0x1C88), (0x1E9A, 0x1E9B),
    (0x1F80, 0x1FA7), (0x1FB2, 0x1FB4), (0x1FB7, 0x1FB7), (0x1FC2, 0x1FC4), (0x1FC7, 0x1FC7),
    (0x1FF2, 0x1FF4), (0x1FF7, 0x1FF7), (0x2160, 0x216F), (0x24B6, 0x24CF), (0xAB70, 0xABBF),
    (0xFB00, 0xFB06), (0xFB13, 0xFB17)], [(0x3D2, 0x3D4), (0x13A0, 0x13F5), (0x2102, 0x2124),
    (0x2128, 0x2128), (0x212C, 0x2131), (0x2133, 0x2145), (0x1D400, 0x1D7CA)]⟩),
  (["cwcm", "changeswhencasemapped"], ⟨[.lu, .ll, .lt], [(0x345, 0x345), (0x2160, 0x217F),
    (0x24B6, 0x24E9)], [(0x138, 0x138), (0x18D, 0x18D), (0x19B, 0x19B), (0x1AA, 0x1AB), (0x1BA, 0x1BA),
    (0x1BE, 0x1BE), (0x221, 0x221), (0x234, 0x239), (0x255, 0x255), (0x258, 0x258), (0x25A, 0x25A),
    (0x25D, 0x25F), (0x262, 0x262), (0x264, 0x264), (0x267, 0x267), (0x26D, 0x26E), (0x270, 0x270),
    (0x273, 0x274), (0x276, 0x27C), (0x27E, 0x27F), (0x281, 0x281), (0x284, 0x286), (0x28D, 0x291),
    (0x293, 0x29C), (0x29F, 0x2AF), (0x3D2, 0x3D4), (0x3FC, 0x3FC), (0x560, 0x560), (0x588, 0x588),
    (0x1D00, 0x1D77), (0x1D7A, 0x1D7C), (0x1D7E, 0x1D8D), (0x1D8F, 0x1D9A), (0x1E9C, 0x1E9D),
    (0x1E9F, 0x1E9F), (0x2102, 0x2124), (0x2128, 0x2128), (0x212C, 0x2131), (0x2133, 0x2149),
    (0x2C71, 0x2C71), (0x2C74, 0x2C74), (0x2C77, 0x2C7B), (0x2CE4, 0x2CE4), (0xA730, 0xA731),
    (0xA771, 0xA778), (0xA78E, 0xA78E), (0xA795, 0xA795), (0xA7AF, 0xA7AF), (0xA7D3, 0xA7D5),
    (0xA7FA, 0xAB52), (0xAB54, 0xAB68), (0x1D400, 0x1DF2A)]⟩),
  (["cwl", "changeswhenlowercased"], ⟨[.lu, .lt], [(0x2160, 0x216F), (0x24B6, 0x24CF)], [(0x3D2, 0x3D4),
    (0x2102, 0x2124), (0x2128, 0x2128), (0x212C, 0x2131), (0x2133, 0x2145), (0x1D400, 0x1D7CA)]⟩),
  (["cwt", "changeswhentitlecased"], ⟨[.ll], [(0x1C4, 0x1C4), (0x1C7, 0x1C7), (0x1CA, 0x1CA),
    (0x1F1, 0x1F1), (0x345, 0x345), (0x2170, 0x217F), (0x24D0, 0x24E9)], [(0x138, 0x138),
    (0x18D, 0x18D), (0x19B, 0x19B), (0x1AA, 0x1AB), (0x1BA, 0x1BA), (0x1BE, 0x1BE), (0x221, 0x221),
    (0x234, 0x239), (0x255, 0x255), (0x258, 0x258), (0x25A, 0x25A), (0x25D, 0x25F), (0x262, 0x262),
    (0x264, 0x264), (0x267, 0x267), (0x26D, 0x26E), (0x270, 0x270), (0x273, 0x274), (0x276, 0x27C),
    (0x27E, 0x27F), (0x281, 0x281), (0x284, 0x286), (0x28D, 0x291), (0x293, 0x29C), (0x29F, 0x2AF),
    (0x3FC, 0x3FC), (0x560, 0x560), (0x588, 0x10FF), (0x1D00, 0x1D77), (0x1D7A, 0x1D7C),
    (0x1D7E, 0x1D8D), (0x1D8F, 0x1D9A), (0x1E9C, 0x1E9F), (0x210A, 0x2149), (0x2C71, 0x2C71),
    (0x2C74, 0x2C74), (0x2C77, 0x2C7B), (0x2CE4, 0x2CE4), (0xA730, 0xA731), (0xA771, 0xA778),
    (0xA78E, 0xA78E), (0xA795, 0xA795), (0xA7AF, 0xA7AF), (0xA7D3, 0xA7D5), (0xA7FA, 0xAB52),
    (0xAB54, 0xAB68), (0x1D41A, 0x1DF2A)]⟩),
  (["cwu", "changeswhenuppercased"], ⟨[.ll, .lt], [(0x345, 0x345), (0x2170, 0x217F), (0x24D0, 0x24E9)],
    [(0x138, 0x138), (0x18D, 0x18D), (0x19B, 0x19B), (0x1AA, 0x1AB), (0x1BA, 0x1BA), (0x1BE, 0x1BE),
    (0x221, 0x221), (0x234, 0x239), (0x255, 0x255), (0x258, 0x258), (0x25A, 0x25A), (0x25D, 0x25F),
    (0x262, 0x262), (0x264, 0x264), (0x267, 0x267), (0x26D, 0x26E), (0x270, 0x270), (0x273, 0x274),
    (0x276, 0x27C), (0x27E, 0x27F), (0x281, 0x281), (0x284, 0x286), (0x28D, 0x291), (0x293, 0x29C),
    (0x29F, 0x2AF), (0x3FC, 0x3FC), (0x560, 0x560), (0x588, 0x588), (0x1D00, 0x1D77), (0x1D7A, 0x1D7C),
    (0x1D7E, 0x1D8D), (0x1D8F, 0x1D9A), (0x1E9C, 0x1E9F), (0x210A, 0x2149), (0x2C71, 0x2C71),
    (0x2C74, 0x2C74), (0x2C77, 0x2C7B), (0x2CE4, 0x2CE4), (0xA730, 0xA731), (0xA771, 0xA778),
    (0xA78E, 0xA78E), (0xA795, 0xA795), (0xA7AF, 0xA7AF), (0xA7D3, 0xA7D5), (0xA7FA, 0xAB52),
    (0xAB54, 0xAB68), (0x1D41A, 0x1DF2A)]⟩),
  (["dash"], ⟨[.pd], [(0x2053, 0x2053), (0x207B, 0x207B), (0x208B, 0x208B), (0x2212, 0x2212)], []⟩),
  (["di", "defaultignorablecodepoint"], ⟨[.cf], [(0x34F, 0x34F), (0x115F, 0x1160), (0x17B4, 0x17B5),
    (0x180B, 0x180F), (0x2065, 0x2065), (0x3164, 0x3164), (0xFE00, 0xFE0F), (0xFFA0, 0xFFA0),
    (0xFFF0, 0xFFF8), (0xE0000, 0xE0FFF)], [(0x600, 0x605), (0x6DD, 0x8E2), (0xFFF9, 0x1343F)]⟩),
  (["dep", "deprecated"], ⟨[], [(0x149, 0x149), (0x673, 0x673), (0xF77, 0xF77), (0xF79, 0xF79),
    (0x17A3, 0x17A4), (0x206A, 0x206F), (0x2329, 0x232A), (0xE0001, 0xE0001)], []⟩),
  (["dia", "diacritic"], ⟨[.lm, .mn, .mc, .sk], [(0xB7, 0xB7), (0x1ABE, 0x1ABE), (0x1CD3, 0x1CD3),
    (0xA92E, 0xA92E), (0xAAC0, 0xAAC2), (0x10D22, 0x10D23)], [(0x34F, 0x34F), (0x358, 0x35C),
    (0x363, 0x36F), (0x5A2, 0x5A2), (0x5C5, 0x640), (0x653, 0x656), (0x659, 0x6DC), (0x6E1, 0x6E4),
    (0x6E7, 0x6E8), (0x6ED, 0x711), (0x7FA, 0x817), (0x81A, 0x888), (0x8D3, 0x8E1), (0x8FF, 0x93B),
    (0x93E, 0x94C), (0x94E, 0x94F), (0x955, 0x963), (0x981, 0x983), (0x9BE, 0x9CC), (0x9D7, 0xA03),
    (0xA3E, 0xA4C), (0xA51, 0xA83), (0xABE, 0xACC), (0xAE2, 0xAFC), (0xB01, 0xB03), (0xB3E, 0xB4C),
    (0xB56, 0xBCC), (0xBD7, 0xC04), (0xC3E, 0xC4C), (0xC55, 0xC83), (0xCBE, 0xCCC), (0xCD5, 0xD03),
    (0xD3E, 0xD4C), (0xD57, 0xD83), (0xDCF, 0xE46), (0xE4D, 0xE4D), (0xEB1, 0xEB9), (0xEBB, 0xEC6),
    (0xECD, 0xECE), (0xF71, 0xF81), (0xF8D, 0xFBC), (0x102B, 0x1036), (0x1038, 0x1038),
    (0x103B, 0x1062), (0x1067, 0x1068), (0x1071, 0x1086), (0x109C, 0x10FC), (0x1712, 0x1713),
    (0x1732, 0x17C8), (0x17D7, 0x17D7), (0x180B, 0x1938), (0x1A17, 0x1A74), (0x1AA7, 0x1AA7),
    (0x1ABF, 0x1AC0), (0x1ACC, 0x1B04), (0x1B35, 0x1B43), (0x1B80, 0x1BA9), (0x1BAC, 0x1C35),
    (0x1D78, 0x1DC3), (0x1DD0, 0x1DF4), (0x2071, 0x2C7D), (0x2D6F, 0x2DFF), (0x3005, 0x3005),
    (0x3031, 0x303B), (0x309D, 0x309E), (0x30FD, 0xA60C), (0xA674, 0xA67B), (0xA69E, 0xA69F),
    (0xA770, 0xA770), (0xA7F2, 0xA7F4), (0xA802, 0xA8C3), (0xA8C5, 0xA8C5), (0xA8FF, 0xA92A),
    (0xA947, 0xA952), (0xA980, 0xA983), (0xA9B4, 0xA9BF), (0xA9CF, 0xA9CF), (0xA9E6, 0xAA70),
    (0xAAB0, 0xAABE), (0xAADD, 0xAAF5), (0xABE3, 0xABEA), (0xFBB2, 0xFE0F), (0x101FD, 0x101FD),
    (0x10376, 0x1037A), (0x10A01, 0x10A3F), (0x10EAB, 0x10EAC), (0x11000, 0x11045), (0x11073, 0x110B8),
    (0x110C2, 0x11132), (0x11145, 0x11146), (0x11180, 0x111BF), (0x111C9, 0x111C9), (0x111CE, 0x11234),
    (0x11237, 0x112E8), (0x11300, 0x1133B), (0x1133E, 0x1134C), (0x11357, 0x11363), (0x11435, 0x11441),
    (0x11443, 0x11445), (0x1145E, 0x114C1), (0x115AF, 0x115BE), (0x115DC, 0x1163E), (0x11640, 0x116B5),
    (0x1171D, 0x1172A), (0x1182C, 0x11838), (0x11930, 0x1193C), (0x11940, 0x11942), (0x119D1, 0x119DF),
    (0x119E4, 0x11A33), (0x11A35, 0x11A3E), (0x11A51, 0x11A98), (0x11C2F, 0x11C3E), (0x11C92, 0x11D41),
    (0x11D43, 0x11D43), (0x11D47, 0x11D96), (0x11EF3, 0x13440), (0x16B40, 0x16F87), (0x16FE0, 0x16FE4),
    (0x1BC9D, 0x1BC9E), (0x1D165, 0x1D166), (0x1D242, 0x1E02A), (0x1E08F, 0x1E08F), (0x1E137, 0x1E13D),
    (0x1E4EB, 0x1E4EF), (0x1E947, 0x1E947), (0x1E94B, 0xE01EF)]⟩),
  (["emoji"], ⟨[], [(0x23, 0x23), (0x2A, 0x2A), (0x30, 0x39), (0xA9, 0xA9), (0xAE, 0xAE),
    (0x203C, 0x203C), (0x2049, 0x2049), (0x2122, 0x2122), (0x2139, 0x2139), (0x2194, 0x2199),
    (0x21A9, 0x21AA), (0x231A, 0x231B), (0x2328, 0x2328), (0x23CF, 0x23CF), (0x23E9, 0x23F3),
    (0x23F8, 0x23FA), (0x24C2, 0x24C2), (0x25AA, 0x25AB), (0x25B6, 0x25B6), (0x25C0, 0x25C0),
    (0x25FB, 0x25FE), (0x2600, 0x2604), (0x260E, 0x260E), (0x2611, 0x2611), (0x2614, 0x2615),
    (0x2618, 0x2618), (0x261D, 0x261D), (0x2620, 0x2620), (0x2622, 0x2623), (0x2626, 0x2626),
    (0x262A, 0x262A), (0x262E, 0x262F), (0x2638, 0x263A), (0x2640, 0x2640), (0x2642, 0x2642),
    (0x2648, 0x2653), (0x265F, 0x2660), (0x2663, 0x2663), (0x2665, 0x2666), (0x2668, 0x2668),
    (0x267B, 0x267B), (0x267E, 0x267F), (0x2692, 0x2697), (0x2699, 0x2699), (0x269B, 0x269C),
    (0x26A0, 0x26A1), (0x26A7, 0x26A7), (0x26AA, 0x26AB), (0x26B0, 0x26B1), (0x26BD, 0x26BE),
    (0x26C4, 0x26C5), (0x26C8, 0x26C8), (0x26CE, 0x26CF), (0x26D1, 0x26D1), (0x26D3, 0x26D4),
    (0x26E9, 0x26EA), (0x26F0, 0x26F5), (0x26F7, 0x26FA), (0x26FD, 0x26FD), (0x2702, 0x2702),
    (0x2705, 0x2705), (0x2708, 0x270D), (0x270F, 0x270F), (0x2712, 0x2712), (0x2714, 0x2714),
    (0x2716, 0x2716), (0x271D, 0x271D), (0x2721, 0x2721), (0x2728, 0x2728), (0x2733, 0x2734),
    (0x2744, 0x2744), (0x2747, 0x2747), (0x274C, 0x274C), (0x274E, 0x274E), (0x2753, 0x2755),
    (0x2757, 0x2757), (0x2763, 0x2764), (0x2795, 0x2797), (0x27A1, 0x27A1), (0x27B0, 0x27B0),
    (0x27BF, 0x27BF), (0x2934, 0x2935), (0x2B05, 0x2B07), (0x2B1B, 0x2B1C), (0x2B50, 0x2B50),
    (0x2B55, 0x2B55), (0x3030, 0x3030), (0x303D, 0x303D), (0x3297, 0x3297), (0x3299, 0x3299),
    (0x1F004, 0x1F004), (0x1F0CF, 0x1F0CF), (0x1F170, 0x1F171), (0x1F17E, 0x1F17F), (0x1F18E, 0x1F18E),
    (0x1F191, 0x1F19A), (0x1F1E6, 0x1F1FF), (0x1F201, 0x1F202), (0x1F21A, 0x1F21A), (0x1F22F, 0x1F22F),
    (0x1F232, 0x1F23A), (0x1F250, 0x1F251), (0x1F300, 0x1F321), (0x1F324, 0x1F393), (0x1F396, 0x1F397),
    (0x1F399, 0x1F39B), (0x1F39E, 0x1F3F0), (0x1F3F3, 0x1F3F5), (0x1F3F7, 0x1F4FD), (0x1F4FF, 0x1F53D),
    (0x1F549, 0x1F54E), (0x1F550, 0x1F567), (0x1F56F, 0x1F570), (0x1F573, 0x1F57A), (0x1F587, 0x1F587),
    (0x1F58A, 0x1F58D), (0x1F590, 0x1F590), (0x1F595, 0x1F596), (0x1F5A4, 0x1F5A5), (0x1F5A8, 0x1F5A8),
    (0x1F5B1, 0x1F5B2), (0x1F5BC, 0x1F5BC), (0x1F5C2, 0x1F5C4), (0x1F5D1, 0x1F5D3), (0x1F5DC, 0x1F5DE),
    (0x1F5E1, 0x1F5E1), (0x1F5E3, 0x1F5E3), (0x1F5E8, 0x1F5E8), (0x1F5EF, 0x1F5EF), (0x1F5F3, 0x1F5F3),
    (0x1F5FA, 0x1F64F), (0x1F680, 0x1F6C5), (0x1F6CB, 0x1F6D2), (0x1F6D5, 0x1F6D7), (0x1F6DC, 0x1F6E5),
    (0x1F6E9, 0x1F6E9), (0x1F6EB, 0x1F6EC), (0x1F6F0, 0x1F6F0), (0x1F6F3, 0x1F6FC), (0x1F7E0, 0x1F7EB),
    (0x1F7F0, 0x1F7F0), (0x1F90C, 0x1F93A), (0x1F93C, 0x1F945), (0x1F947, 0x1F9FF), (0x1FA70, 0x1FA7C),
    (0x1FA80, 0x1FA88), (0x1FA90, 0x1FABD), (0x1FABF, 0x1FAC5), (0x1FACE, 0x1FADB), (0x1FAE0, 0x1FAE8),
    (0x1FAF0, 0x1FAF8)], []⟩),
  (["ecomp", "emojicomponent"], ⟨[], [(0x23, 0x23), (0x2A, 0x2A), (0x30, 0x39), (0x200D, 0x200D),
    (0x20E3, 0x20E3), (0xFE0F, 0xFE0F), (0x1F1E6, 0x1F1FF), (0x1F3FB, 0x1F3FF), (0x1F9B0, 0x1F9B3),
    (0xE0020, 0xE007F)], []⟩),
  (["emod", "emojimodifier"], ⟨[], [(0x1F3FB, 0x1F3FF)], []⟩),
  (["ebase", "emojimodifierbase"], ⟨[], [(0x261D, 0x261D), (0x26F9, 0x26F9), (0x270A, 0x270D),
    (0x1F385, 0x1F385), (0x1F3C2, 0x1F3C4), (0x1F3C7, 0x1F3C7), (0x1F3CA, 0x1F3CC), (0x1F442, 0x1F443),
    (0x1F446, 0x1F450), (0x1F466, 0x1F478), (0x1F47C, 0x1F47C), (0x1F481, 0x1F483), (0x1F485, 0x1F487),
    (0x1F48F, 0x1F48F), (0x1F491, 0x1F491), (0x1F4AA, 0x1F4AA), (0x1F574, 0x1F575), (0x1F57A, 0x1F57A),
    (0x1F590, 0x1F590), (0x1F595, 0x1F596), (0x1F645, 0x1F647), (0x1F64B, 0x1F64F), (0x1F6A3, 0x1F6A3),
    (0x1F6B4, 0x1F6B6), (0x1F6C0, 0x1F6C0), (0x1F6CC, 0x1F6CC), (0x1F90C, 0x1F90C), (0x1F90F, 0x1F90F),
    (0x1F918, 0x1F91F), (0x1F926, 0x1F926), (0x1F930, 0x1F939), (0x1F93C, 0x1F93E), (0x1F977, 0x1F977),
    (0x1F9B5, 0x1F9B6), (0x1F9B8, 0x1F9B9), (0x1F9BB, 0x1F9BB), (0x1F9CD, 0x1F9CF), (0x1F9D1, 0x1F9DD),
    (0x1FAC3, 0x1FAC5), (0x1FAF0, 0x1FAF8)], []⟩),
  (["epres", "emojipresentation"], ⟨[.so], [(0x25FD, 0x25FE), (0x1F3FB, 0x1F3FF)], [(0xA6, 0x2319),
    (0x231C, 0x23E8), (0x23ED, 0x23EF), (0x23F1, 0x23F2), (0x23F4, 0x25F7), (0x2600, 0x2613),
    (0x2616, 0x2647), (0x2654, 0x267E), (0x2680, 0x2692), (0x2694, 0x26A0), (0x26A2, 0x26A9),
    (0x26AC, 0x26BC), (0x26BF, 0x26C3), (0x26C6, 0x26CD), (0x26CF, 0x26D3), (0x26D5, 0x26E9),
    (0x26EB, 0x26F1), (0x26F4, 0x26F4), (0x26F6, 0x26F9), (0x26FB, 0x26FC), (0x26FE, 0x2704),
    (0x2706, 0x2709), (0x270C, 0x2727), (0x2729, 0x274B), (0x274D, 0x274D), (0x274F, 0x2752),
    (0x2756, 0x2756), (0x2758, 0x2794), (0x2798, 0x27AF), (0x27B1, 0x27BE), (0x2800, 0x2B1A),
    (0x2B1D, 0x2B4F), (0x2B51, 0x2B54), (0x2B56, 0x1F003), (0x1F005, 0x1F0CE), (0x1F0D1, 0x1F18D),
    (0x1F18F, 0x1F190), (0x1F19B, 0x1F1AD), (0x1F200, 0x1F200), (0x1F202, 0x1F219), (0x1F21B, 0x1F22E),
    (0x1F230, 0x1F231), (0x1F237, 0x1F237), (0x1F23B, 0x1F248), (0x1F260, 0x1F265), (0x1F321, 0x1F32C),
    (0x1F336, 0x1F336), (0x1F37D, 0x1F37D), (0x1F394, 0x1F39F), (0x1F3CB, 0x1F3CE), (0x1F3D4, 0x1F3DF),
    (0x1F3F1, 0x1F3F3), (0x1F3F5, 0x1F3F7), (0x1F43F, 0x1F43F), (0x1F441, 0x1F441), (0x1F4FD, 0x1F4FE),
    (0x1F53E, 0x1F54A), (0x1F54F, 0x1F54F), (0x1F568, 0x1F579), (0x1F57B, 0x1F594), (0x1F597, 0x1F5A3),
    (0x1F5A5, 0x1F5FA), (0x1F650, 0x1F67F), (0x1F6C6, 0x1F6CB), (0x1F6CD, 0x1F6CF), (0x1F6D3, 0x1F6D4),
    (0x1F6E0, 0x1F6EA), (0x1F6F0, 0x1F6F3), (0x1F700, 0x1F7D9), (0x1F800, 0x1F90B), (0x1F93B, 0x1F93B),
    (0x1F946, 0x1F946), (0x1FA00, 0x1FA6D), (0x1FB00, 0x1FBCA)]⟩),
  (["extpict", "extendedpictographic"], ⟨[], [(0xA9, 0xA9), (0xAE, 0xAE), (0x203C, 0x203C),
    (0x2049, 0x2049), (0x2122, 0x2122), (0x2139, 0x2139), (0x2194, 0x2199), (0x21A9, 0x21AA),
    (0x231A, 0x231B), (0x2328, 0x2328), (0x2388, 0x2388), (0x23CF, 0x23CF), (0x23E9, 0x23F3),
    (0x23F8, 0x23FA), (0x24C2, 0x24C2), (0x25AA, 0x25AB), (0x25B6, 0x25B6), (0x25C0, 0x25C0),
    (0x25FB, 0x25FE), (0x2600, 0x2605), (0x2607, 0x2612), (0x2614, 0x2685), (0x2690, 0x2705),
    (0x2708, 0x2712), (0x2714, 0x2714), (0x2716, 0x2716), (0x271D, 0x271D), (0x2721, 0x2721),
    (0x2728, 0x2728), (0x2733, 0x2734), (0x2744, 0x2744), (0x2747, 0x2747), (0x274C, 0x274C),
    (0x274E, 0x274E), (0x2753, 0x2755), (0x2757, 0x2757), (0x2763, 0x2767), (0x2795, 0x2797),
    (0x27A1, 0x27A1), (0x27B0, 0x27B0), (0x27BF, 0x27BF), (0x2934, 0x2935), (0x2B05, 0x2B07),
    (0x2B1B, 0x2B1C), (0x2B50, 0x2B50), (0x2B55, 0x2B55), (0x3030, 0x3030), (0x303D, 0x303D),
    (0x3297, 0x3297), (0x3299, 0x3299), (0x1F000, 0x1F0FF), (0x1F10D, 0x1F10F), (0x1F12F, 0x1F12F),
    (0x1F16C, 0x1F171), (0x1F17E, 0x1F17F), (0x1F18E, 0x1F18E), (0x1F191, 0x1F19A), (0x1F1AD, 0x1F1E5),
    (0x1F201, 0x1F20F), (0x1F21A, 0x1F21A), (0x1F22F, 0x1F22F), (0x1F232, 0x1F23A), (0x1F23C, 0x1F23F),
    (0x1F249, 0x1F3FA), (0x1F400, 0x1F53D), (0x1F546, 0x1F64F), (0x1F680, 0x1F6FF), (0x1F774, 0x1F77F),
    (0x1F7D5, 0x1F7FF), (0x1F80C, 0x1F80F), (0x1F848, 0x1F84F), (0x1F85A, 0x1F85F), (0x1F888, 0x1F88F),
    (0x1F8AE, 0x1F8FF), (0x1F90C, 0x1F93A), (0x1F93C, 0x1F945), (0x1F947, 0x1FAFF), (0x1FC00, 0x1FFFD)],
    []⟩),
  (["ext", "extender"], ⟨[.lm], [(0xB7, 0xB7), (0xB55, 0xB55), (0x180A, 0x180A), (0x1C36, 0x1C36),
    (0x1135D, 0x1135D), (0x115C6, 0x115C8), (0x11A98, 0x11A98), (0x1E944, 0x1E946)], [(0x2B0, 0x2CF),
    (0x2E0, 0x559), (0x6E5, 0x7F5), (0x81A, 0x971), (0x10FC, 0x17D7), (0x1C78, 0x1C7A),
    (0x1C7C, 0x2E2F), (0x303B, 0x303B), (0xA4F8, 0xA4FD), (0xA67F, 0xA7F9), (0xAB5C, 0xAB69),
    (0xFF9E, 0x10780), (0x10783, 0x107BA), (0x16B40, 0x16B41), (0x16F93, 0x16F9F), (0x1AFF0, 0x1E13B),
    (0x1E4EB, 0x1E4EB), (0x1E94B, 0x1E94B)]⟩),
  (["grbase", "graphemebase"],
    ⟨[.lu, .ll, .lt, .lm, .lo, .mc, .nd, .nl, .no, .pc, .pd, .ps, .pe, .pi, .pf, .po, .sm, .sc, .sk, .so,
    .zs],
    [], [(0x9BE, 0x9BE), (0x9D7, 0x9D7), (0xB3E, 0xB3E), (0xB57, 0xB57), (0xBBE, 0xBBE), (0xBD7, 0xBD7),
    (0xCC2, 0xCC2), (0xCD5, 0xCD6), (0xD3E, 0xD3E), (0xD57, 0xD57), (0xDCF, 0xDCF), (0xDDF, 0xDDF),
    (0x1B35, 0x1B35), (0x302E, 0x302F), (0xFF9E, 0xFF9F), (0x1133E, 0x1133E), (0x11357, 0x11357),
    (0x114B0, 0x114B0), (0x114BD, 0x114BD), (0x115AF, 0x115AF), (0x11930, 0x11930), (0x1D165, 0x1D165),
    (0x1D16E, 0x1D172)]⟩),
  (["grext", "graphemeextend"], graphemeExtend),
  (["grlink", "graphemelink"], ⟨[], [(0x94D, 0x94D), (0x9CD, 0x9CD), (0xA4D, 0xA4D), (0xACD, 0xACD),
    (0xB4D, 0xB4D), (0xBCD, 0xBCD), (0xC4D, 0xC4D), (0xCCD, 0xCCD), (0xD3B, 0xD3C), (0xD4D, 0xD4D),
    (0xDCA, 0xDCA), (0xE3A, 0xE3A), (0xEBA, 0xEBA), (0xF84, 0xF84), (0x1039, 0x103A), (0x1714, 0x1715),
    (0x1734, 0x1734), (0x17D2, 0x17D2), (0x1A60, 0x1A60), (0x1B44, 0x1B44), (0x1BAA, 0x1BAB),
    (0x1BF2, 0x1BF3), (0x2D7F, 0x2D7F), (0xA806, 0xA806), (0xA82C, 0xA82C), (0xA8C4, 0xA8C4),
    (0xA953, 0xA953), (0xA9C0, 0xA9C0), (0xAAF6, 0xAAF6), (0xABED, 0xABED), (0x10A3F, 0x10A3F),
    (0x11046, 0x11046), (0x11070, 0x11070), (0x1107F, 0x1107F), (0x110B9, 0x110B9), (0x11133, 0x11134),
    (0x111C0, 0x111C0), (0x11235, 0x11235), (0x112EA, 0x112EA), (0x1134D, 0x1134D), (0x11442, 0x11442),
    (0x114C2, 0x114C2), (0x115BF, 0x115BF), (0x1163F, 0x1163F), (0x116B6, 0x116B6), (0x1172B, 0x1172B),
    (0x11839, 0x11839), (0x1193D, 0x1193E), (0x119E0, 0x119E0), (0x11A34, 0x11A34), (0x11A47, 0x11A47),
    (0x11A99, 0x11A99), (0x11C3F, 0x11C3F), (0x11D44, 0x11D45), (0x11D97, 0x11D97), (0x11F41, 0x11F42)],
    []⟩),
  (["hex", "hexdigit"], ⟨[], [(0x30, 0x39), (0x41, 0x46), (0x61, 0x66), (0xFF10, 0xFF19),
    (0xFF21, 0xFF26), (0xFF41, 0xFF46)], []⟩),
  (["hyphen"], ⟨[], [(0x2D, 0x2D), (0xAD, 0xAD), (0x58A, 0x58A), (0x1806, 0x1806), (0x2010, 0x2011),
    (0x2E17, 0x2E17), (0x30FB, 0x30FB), (0xFE63, 0xFE63), (0xFF0D, 0xFF0D), (0xFF65, 0xFF65)], []⟩),
  (["idsb", "idsbinaryoperator"], ⟨[], [(0x2FF0, 0x2FF1), (0x2FF4, 0x2FFB)], []⟩),
  (["idst", "idstrinaryoperator"], ⟨[], [(0x2FF2, 0x2FF3)], []⟩),
  (["idc", "idcontinue"], ⟨[.lu, .ll, .lt, .lm, .lo, .mn, .mc, .nd, .nl, .pc], [(0xB7, 0xB7),
    (0x387, 0x387), (0x1369, 0x1371), (0x19DA, 0x19DA), (0x2118, 0x2118), (0x212E, 0x212E),
    (0x309B, 0x309C)], [(0x2E2F, 0x2E2F)]⟩),
  (["ids", "idstart"], ⟨[.lu, .ll, .lt, .lm, .lo, .nl], [(0x1885, 0x1886), (0x2118, 0x2118),
    (0x212E, 0x212E), (0x309B, 0x309C)], [(0x2E2F, 0x2E2F)]⟩),
  (["ideo", "ideographic"], ⟨[.lo, .nl], [(0x16FE4, 0x16FE4)], [(0xAA, 0x2DDE), (0x303C, 0x31FF),
    (0xA000, 0xD7FB), (0xFB1D, 0x16F50), (0x1B000, 0x1B167), (0x1BC00, 0x1EEBB)]⟩),
  (["joinc", "joincontrol"], ⟨[], [(0x200C, 0x200D)], []⟩),
  (["loe", "logicalorderexception"], ⟨[], [(0xE40, 0xE44), (0xEC0, 0xEC4), (0x19B5, 0x19B7),
    (0x19BA, 0x19BA), (0xAAB5, 0xAAB6), (0xAAB9, 0xAAB9), (0xAABB, 0xAABC)], []⟩),
  (["lower", "lowercase"], ⟨[.ll], [(0xAA, 0xAA), (0xBA, 0xBA), (0x2B0, 0x2B8), (0x2C0, 0x2C1),
    (0x2E0, 0x2E4), (0x345, 0x345), (0x37A, 0x37A), (0x10FC, 0x10FC), (0x1D2C, 0x1DBF),
    (0x2071, 0x2071), (0x207F, 0x207F), (0x2090, 0x209C), (0x2170, 0x217F), (0x24D0, 0x24E9),
    (0x2C7C, 0x2C7D), (0xA69C, 0xA69D), (0xA770, 0xA770), (0xA7F2, 0xA7F4), (0xA7F8, 0xA7F9),
    (0xAB5C, 0xAB69), (0x10780, 0x10780), (0x10783, 0x10785), (0x10787, 0x107B0), (0x107B2, 0x107BA),
    (0x1E030, 0x1E06D)], []⟩),
  (["math"], ⟨[.lu, .ll, .lo, .sm], [(0x5E, 0x5E), (0x2016, 0x2016), (0x2032, 0x2034), (0x2040, 0x2040),
    (0x2061, 0x2064), (0x207D, 0x207E), (0x208D, 0x208E), (0x20D0, 0x20DC), (0x20E1, 0x20E1),
    (0x20E5, 0x20E6), (0x20EB, 0x20EF), (0x2129, 0x2129), (0x2195, 0x21A7), (0x21A9, 0x21AD),
    (0x21B0, 0x21B1), (0x21B6, 0x21B7), (0x21BC, 0x21DB), (0x21DD, 0x21DD), (0x21E4, 0x21E5),
    (0x2308, 0x230B), (0x23B4, 0x23B5), (0x23B7, 0x23B7), (0x23D0, 0x23D0), (0x23E2, 0x23E2),
    (0x25A0, 0x25A1), (0x25AE, 0x25B6), (0x25BC, 0x25C0), (0x25C6, 0x25C7), (0x25CA, 0x25CB),
    (0x25CF, 0x25D3), (0x25E2, 0x25E2), (0x25E4, 0x25E4), (0x25E7, 0x25EC), (0x2605, 0x2606),
    (0x2640, 0x2640), (0x2642, 0x2642), (0x2660, 0x2663), (0x266D, 0x266E), (0x27C5, 0x27EF),
    (0x2983, 0x29FD), (0xFE61, 0xFE63), (0xFE68, 0xFE68), (0xFF3C, 0xFF3C), (0xFF3E, 0xFF3E),
    (0x1D7CE, 0x1D7FF)], [(0x41, 0x5A), (0x61, 0x7A), (0xAA, 0xAA), (0xB5, 0xD6), (0xD8, 0xF6),
    (0xF8, 0x3CF), (0x3D3, 0x3D4), (0x3D6, 0x3EF), (0x3F2, 0x3F3), (0x3F7, 0x5F2), (0x620, 0x1FFB),
    (0x2126, 0x2126), (0x212A, 0x212B), (0x2132, 0x2132), (0x2139, 0x2139), (0x214E, 0x2184),
    (0x2C00, 0xFB28), (0xFB2A, 0xFDFB), (0xFE70, 0xFEFC), (0xFF21, 0xFF3A), (0xFF41, 0xFF5A),
    (0xFF66, 0xFFDC), (0x10000, 0x1BC99), (0x1DF00, 0x1E943), (0x20000, 0x323AF)]⟩),
  (["nchar", "noncharactercodepoint"], ⟨[], [(0xFDD0, 0xFDEF), (0xFFFE, 0xFFFF), (0x1FFFE, 0x1FFFF),
    (0x2FFFE, 0x2FFFF), (0x3FFFE, 0x3FFFF), (0x4FFFE, 0x4FFFF), (0x5FFFE, 0x5FFFF), (0x6FFFE, 0x6FFFF),
    (0x7FFFE, 0x7FFFF), (0x8FFFE, 0x8FFFF), (0x9FFFE, 0x9FFFF), (0xAFFFE, 0xAFFFF), (0xBFFFE, 0xBFFFF),
    (0xCFFFE, 0xCFFFF), (0xDFFFE, 0xDFFFF), (0xEFFFE, 0xEFFFF), (0xFFFFE, 0xFFFFF),
    (0x10FFFE, 0x10FFFF)], []⟩),
  (["oalpha", "otheralphabetic"], ⟨[.mn, .mc], [(0x24B6, 0x24E9), (0x1F130, 0x1F149),
    (0x1F150, 0x1F169), (0x1F170, 0x1F189)], [(0x300, 0x344), (0x346, 0x5AF), (0x658, 0x658),
    (0x6DF, 0x6E0), (0x6EA, 0x6EC), (0x740, 0x74A), (0x7EB, 0x7FD), (0x818, 0x819), (0x82D, 0x8D3),
    (0x8E0, 0x8E1), (0x8EA, 0x8EF), (0x93C, 0x93C), (0x94D, 0x94D), (0x951, 0x954), (0x9BC, 0x9BC),
    (0x9CD, 0x9CD), (0x9FE, 0x9FE), (0xA3C, 0xA3C), (0xA4D, 0xA4D), (0xABC, 0xABC), (0xACD, 0xACD),
    (0xAFD, 0xAFF), (0xB3C, 0xB3C), (0xB4D, 0xB55), (0xBCD, 0xBCD), (0xC3C, 0xC3C), (0xC4D, 0xC4D),
    (0xCBC, 0xCBC), (0xCCD, 0xCCD), (0xD3B, 0xD3C), (0xD4D, 0xD4D), (0xDCA, 0xDCA), (0xE47, 0xE4C),
    (0xE4E, 0xE4E), (0xEBA, 0xEBA), (0xEC8, 0xECC), (0xECE, 0xF3F), (0xF84, 0xF87), (0xFC6, 0xFC6),
    (0x1037, 0x1037), (0x1039, 0x103A), (0x135D, 0x135F), (0x1714, 0x1715), (0x1734, 0x1734),
    (0x17B4, 0x17B5), (0x17C9, 0x180F), (0x1939, 0x193B), (0x1A60, 0x1A60), (0x1A75, 0x1ABD),
    (0x1AC1, 0x1ACB), (0x1B34, 0x1B34), (0x1B44, 0x1B73), (0x1BAA, 0x1BAB), (0x1BE6, 0x1BE6),
    (0x1BF2, 0x1BF3), (0x1C37, 0x1DE6), (0x1DF5, 0x20F0), (0x2CEF, 0x2D7F), (0x302A, 0xA66F),
    (0xA67C, 0xA67D), (0xA6F0, 0xA6F1), (0xA806, 0xA806), (0xA82C, 0xA82C), (0xA8C4, 0xA8C4),
    (0xA8E0, 0xA8F1), (0xA92B, 0xA92D), (0xA953, 0xA953), (0xA9B3, 0xA9B3), (0xA9C0, 0xA9C0),
    (0xAABF, 0xAAC1), (0xAAF6, 0xAAF6), (0xABEC, 0xABED), (0xFE00, 0x102E0), (0x10A38, 0x10AE6),
    (0x10EFD, 0x10F85), (0x11046, 0x11070), (0x1107F, 0x1107F), (0x110B9, 0x110BA), (0x11133, 0x11134),
    (0x11173, 0x11173), (0x111C0, 0x111CC), (0x11235, 0x11236), (0x112E9, 0x112EA), (0x1133B, 0x1133C),
    (0x1134D, 0x1134D), (0x11366, 0x11374), (0x11442, 0x11442), (0x11446, 0x1145E), (0x114C2, 0x114C3),
    (0x115BF, 0x115C0), (0x1163F, 0x1163F), (0x116B6, 0x116B7), (0x1172B, 0x1172B), (0x11839, 0x1183A),
    (0x1193D, 0x1193E), (0x11943, 0x11943), (0x119E0, 0x119E0), (0x11A33, 0x11A34), (0x11A47, 0x11A47),
    (0x11A98, 0x11A99), (0x11C3F, 0x11C3F), (0x11D42, 0x11D42), (0x11D44, 0x11D45), (0x11D97, 0x11D97),
    (0x11F41, 0x16B36), (0x16FE4, 0x16FE4), (0x1BC9D, 0x1BC9D), (0x1CF00, 0x1DAAF), (0x1E130, 0x1E946),
    (0x1E948, 0x1E94A), (0xE0100, 0xE01EF)]⟩),
  (["odi", "otherdefaultignorablecodepoint"], ⟨[], [(0x34F, 0x34F), (0x115F, 0x1160), (0x17B4, 0x17B5),
    (0x2065, 0x2065), (0x3164, 0x3164), (0xFFA0, 0xFFA0), (0xFFF0, 0xFFF8), (0xE0000, 0xE0000),
    (0xE0002, 0xE001F), (0xE0080, 0xE00FF), (0xE01F0, 0xE0FFF)], []⟩),
  (["ogrext", "othergraphemeextend"], ⟨[], [(0x9BE, 0x9BE), (0x9D7, 0x9D7), (0xB3E, 0xB3E),
    (0xB57, 0xB57), (0xBBE, 0xBBE), (0xBD7, 0xBD7), (0xCC2, 0xCC2), (0xCD5, 0xCD6), (0xD3E, 0xD3E),
    (0xD57, 0xD57), (0xDCF, 0xDCF), (0xDDF, 0xDDF), (0x1B35, 0x1B35), (0x200C, 0x200C),
    (0x302E, 0x302F), (0xFF9E, 0xFF9F), (0x1133E, 0x1133E), (0x11357, 0x11357), (0x114B0, 0x114B0),
    (0x114BD, 0x114BD), (0x115AF, 0x115AF), (0x11930, 0x11930), (0x1D165, 0x1D165), (0x1D16E, 0x1D172),
    (0xE0020, 0xE007F)], []⟩),
  (["oidc", "otheridcontinue"], ⟨[], [(0xB7, 0xB7), (0x387, 0x387), (0x1369, 0x1371), (0x19DA, 0x19DA)],
    []⟩),
  (["oids", "otheridstart"], ⟨[], [(0x1885, 0x1886), (0x2118, 0x2118), (0x212E, 0x212E),
    (0x309B, 0x309C)], []⟩),
  (["olower", "otherlowercase"], ⟨[.lm], [(0xAA, 0xAA), (0xBA, 0xBA), (0x345, 0x345), (0x2170, 0x217F),
    (0x24D0, 0x24E9)], [(0x2B9, 0x2BF), (0x2C6, 0x2D1), (0x2EC, 0x2EE), (0x374, 0x374), (0x559, 0xEC6),
    (0x17D7, 0x1C7D), (0x2D6F, 0xA67F), (0xA717, 0xA71F), (0xA788, 0xA788), (0xA9CF, 0xAAF4),
    (0xFF70, 0xFF9F), (0x10781, 0x10782), (0x16B40, 0x1AFFE), (0x1E137, 0x1E94B)]⟩),
  (["omath", "othermath"], ⟨[.lu, .ll, .lo], [(0x5E, 0x5E), (0x2016, 0x2016), (0x2032, 0x2034),
    (0x2040, 0x2040), (0x2061, 0x2064), (0x207D, 0x207E), (0x208D, 0x208E), (0x20D0, 0x20DC),
    (0x20E1, 0x20E1), (0x20E5, 0x20E6), (0x20EB, 0x20EF), (0x2129, 0x2129), (0x2195, 0x2199),
    (0x219C, 0x219F), (0x21A1, 0x21A2), (0x21A4, 0x21A5), (0x21A7, 0x21A7), (0x21A9, 0x21AD),
    (0x21B0, 0x21B1), (0x21B6, 0x21B7), (0x21BC, 0x21CD), (0x21D0, 0x21D1), (0x21D3, 0x21D3),
    (0x21D5, 0x21DB), (0x21DD, 0x21DD), (0x21E4, 0x21E5), (0x2308, 0x230B), (0x23B4, 0x23B5),
    (0x23B7, 0x23B7), (0x23D0, 0x23D0), (0x23E2, 0x23E2), (0x25A0, 0x25A1), (0x25AE, 0x25B6),
    (0x25BC, 0x25C0), (0x25C6, 0x25C7), (0x25CA, 0x25CB), (0x25CF, 0x25D3), (0x25E2, 0x25E2),
    (0x25E4, 0x25E4), (0x25E7, 0x25EC), (0x2605, 0x2606), (0x2640, 0x2640), (0x2642, 0x2642),
    (0x2660, 0x2663), (0x266D, 0x266E), (0x27C5, 0x27C6), (0x27E6, 0x27EF), (0x2983, 0x2998),
    (0x29D8, 0x29DB), (0x29FC, 0x29FD), (0xFE61, 0xFE61), (0xFE63, 0xFE63), (0xFE68, 0xFE68),
    (0xFF3C, 0xFF3C), (0xFF3E, 0xFF3E), (0x1D7CE, 0x1D7FF)], [(0x41, 0x5A), (0x61, 0x3CF),
    (0x3D3, 0x3D4), (0x3D6, 0x3EF), (0x3F2, 0x3F3), (0x3F7, 0x1FFB), (0x2126, 0x2126), (0x212A, 0x212B),
    (0x2132, 0x2132), (0x2139, 0x2139), (0x214E, 0x2184), (0x2C00, 0xFDFB), (0xFE70, 0xFF3A),
    (0xFF41, 0x1BC99), (0x1DF00, 0x1E943), (0x20000, 0x323AF)]⟩),
  (["oupper", "otheruppercase"], ⟨[], [(0x2160, 0x216F), (0x24B6, 0x24CF), (0x1F130, 0x1F149),
    (0x1F150, 0x1F169), (0x1F170, 0x1F189)], []⟩),
  (["patsyn", "patternsyntax"], ⟨[], [(0x21, 0x2F), (0x3A, 0x40), (0x5B, 0x5E), (0x60, 0x60),
    (0x7B, 0x7E), (0xA1, 0xA7), (0xA9, 0xA9), (0xAB, 0xAC), (0xAE, 0xAE), (0xB0, 0xB1), (0xB6, 0xB6),
    (0xBB, 0xBB), (0xBF, 0xBF), (0xD7, 0xD7), (0xF7, 0xF7), (0x2010, 0x2027), (0x2030, 0x203E),
    (0x2041, 0x2053), (0x2055, 0x205E), (0x2190, 0x245F), (0x2500, 0x2775), (0x2794, 0x2BFF),
    (0x2E00, 0x2E7F), (0x3001, 0x3003), (0x3008, 0x3020), (0x3030, 0x3030), (0xFD3E, 0xFD3F),
    (0xFE45, 0xFE46)], []⟩),
  (["patws", "patternwhitespace"], ⟨[], [(0x9, 0xD), (0x20, 0x20), (0x85, 0x85), (0x200E, 0x200F),
    (0x2028, 0x2029)], []⟩),
  (["pcm", "prependedconcatenationmark"], ⟨[.cf], [], [(0xAD, 0xAD), (0x61C, 0x61C), (0x180E, 0xFFFB),
    (0x13430, 0xE007F)]⟩),
  (["qmark", "quotationmark"], ⟨[], [(0x22, 0x22), (0x27, 0x27), (0xAB, 0xAB), (0xBB, 0xBB),
    (0x2018, 0x201F), (0x2039, 0x203A), (0x2E42, 0x2E42), (0x300C, 0x300F), (0x301D, 0x301F),
    (0xFE41, 0xFE44), (0xFF02, 0xFF02), (0xFF07, 0xFF07), (0xFF62, 0xFF63)], []⟩),
  (["radical"], ⟨[], [(0x2E80, 0x2E99), (0x2E9B, 0x2EF3), (0x2F00, 0x2FD5)], []⟩),
  (["ri", "regionalindicator"], ⟨[], [(0x1F1E6, 0x1F1FF)], []⟩),
  (["sterm", "sentenceterminal"], ⟨[.po], [], [(0x22, 0x2C), (0x2F, 0x3B), (0x40, 0x55F),
    (0x5C0, 0x61B), (0x66A, 0x66D), (0x703, 0x7F8), (0x830, 0x836), (0x838, 0x838), (0x83A, 0x83C),
    (0x85E, 0x85E), (0x970, 0xFDA), (0x104C, 0x1361), (0x1363, 0x1366), (0x16EB, 0x16ED),
    (0x17D4, 0x1802), (0x1804, 0x1808), (0x180A, 0x180A), (0x1A1E, 0x1AA6), (0x1AAC, 0x1AAD),
    (0x1B5C, 0x1B5D), (0x1B60, 0x1B60), (0x1BFC, 0x1BFF), (0x1C3D, 0x1C3F), (0x1CC0, 0x203B),
    (0x203E, 0x2043), (0x204A, 0x2E2D), (0x2E30, 0x2E39), (0x2E3D, 0x2E52), (0x3001, 0x3001),
    (0x3003, 0xA4FE), (0xA60D, 0xA60D), (0xA673, 0xA6F2), (0xA6F4, 0xA6F6), (0xA874, 0xA875),
    (0xA8F8, 0xA92E), (0xA95F, 0xA9C7), (0xA9CA, 0xAA5C), (0xAADE, 0xAADF), (0xFE10, 0xFE51),
    (0xFE54, 0xFE55), (0xFE5F, 0xFE6B), (0xFF02, 0xFF0C), (0xFF0F, 0xFF1B), (0xFF20, 0xFF3C),
    (0xFF64, 0x10A55), (0x10A58, 0x10B9C), (0x11049, 0x110BC), (0x11140, 0x11140), (0x11174, 0x11175),
    (0x111C7, 0x111C8), (0x111DB, 0x111DD), (0x1123A, 0x1123A), (0x1123D, 0x1123D), (0x1144D, 0x115C1),
    (0x115C4, 0x115C8), (0x11643, 0x116B9), (0x1183B, 0x1183B), (0x11945, 0x11945), (0x119E2, 0x11A41),
    (0x11A44, 0x11A9A), (0x11A9E, 0x11B09), (0x11C43, 0x11C71), (0x11F45, 0x12FF2), (0x16B39, 0x16B3B),
    (0x16E97, 0x16E97), (0x16E99, 0x16FE2), (0x1DA87, 0x1DA87), (0x1DA89, 0x1E95F)]⟩),
  (["sd", "softdotted"], ⟨[], [(0x69, 0x6A), (0x12F, 0x12F), (0x249, 0x249), (0x268, 0x268),
    (0x29D, 0x29D), (0x2B2, 0x2B2), (0x3F3, 0x3F3), (0x456, 0x456), (0x458, 0x458), (0x1D62, 0x1D62),
    (0x1D96, 0x1D96), (0x1DA4, 0x1DA4), (0x1DA8, 0x1DA8), (0x1E2D, 0x1E2D), (0x1ECB, 0x1ECB),
    (0x2071, 0x2071), (0x2148, 0x2149), (0x2C7C, 0x2C7C), (0x1D422, 0x1D423), (0x1D456, 0x1D457),
    (0x1D48A, 0x1D48B), (0x1D4BE, 0x1D4BF), (0x1D4F2, 0x1D4F3), (0x1D526, 0x1D527), (0x1D55A, 0x1D55B),
    (0x1D58E, 0x1D58F), (0x1D5C2, 0x1D5C3), (0x1D5F6, 0x1D5F7), (0x1D62A, 0x1D62B), (0x1D65E, 0x1D65F),
    (0x1D692, 0x1D693), (0x1DF1A, 0x1DF1A), (0x1E04C, 0x1E04D), (0x1E068, 0x1E068)], []⟩),
  (["term", "terminalpunctuation"], ⟨[.po], [], [(0x22, 0x2A), (0x2F, 0x2F), (0x40, 0xBF),
    (0x55A, 0x55F), (0x5C0, 0x5C0), (0x5C6, 0x60A), (0x60D, 0x60D), (0x66A, 0x66D), (0x70B, 0x70B),
    (0x70D, 0x7F7), (0x970, 0xE4F), (0xF04, 0xF07), (0xF09, 0xF0C), (0xF14, 0xFDA), (0x104C, 0x1360),
    (0x17D8, 0x17D9), (0x1800, 0x1801), (0x1807, 0x1807), (0x180A, 0x180A), (0x1A1E, 0x1AA6),
    (0x1AAC, 0x1AAD), (0x1B5C, 0x1B5C), (0x1B60, 0x1B60), (0x1BFC, 0x1BFF), (0x1CC0, 0x203B),
    (0x203E, 0x2043), (0x204A, 0x2E2D), (0x2E30, 0x2E39), (0x2E3D, 0x2E3F), (0x2E43, 0x2E4B),
    (0x2E4D, 0x2E4D), (0x2E52, 0x2E52), (0x3003, 0x30FB), (0xA673, 0xA6F2), (0xA874, 0xA875),
    (0xA8F8, 0xA92E), (0xA95F, 0xA9C6), (0xA9CA, 0xAA5C), (0xAADE, 0xAADE), (0xFE10, 0xFE4C),
    (0xFE5F, 0xFE6B), (0xFF02, 0xFF0A), (0xFF0F, 0xFF0F), (0xFF20, 0xFF3C), (0xFF65, 0x10102),
    (0x1056F, 0x1056F), (0x1093F, 0x10A55), (0x10A58, 0x10A7F), (0x10AF6, 0x10B39), (0x110BB, 0x110BC),
    (0x11140, 0x11140), (0x11174, 0x11175), (0x111C7, 0x111C8), (0x111DB, 0x111DD), (0x1123D, 0x1123D),
    (0x1144E, 0x1144F), (0x1145D, 0x115C1), (0x115C6, 0x115C8), (0x11643, 0x116B9), (0x1183B, 0x1183B),
    (0x11945, 0x11945), (0x119E2, 0x11A41), (0x11A44, 0x11A9A), (0x11A9E, 0x11AA0), (0x11B00, 0x11B09),
    (0x11C44, 0x11C70), (0x11F45, 0x11FFF), (0x12FF1, 0x12FF2), (0x16B3A, 0x16B3B), (0x16E99, 0x16FE2),
    (0x1DA8B, 0x1E95F)]⟩),
  (["uideo", "unifiedideograph"], ⟨[.lo], [], [(0xAA, 0x31FF), (0xA000, 0xFA0D), (0xFA10, 0xFA10),
    (0xFA12, 0xFA12), (0xFA15, 0xFA1E), (0xFA20, 0xFA20), (0xFA22, 0xFA22), (0xFA25, 0xFA26),
    (0xFA2A, 0x1EEBB), (0x2F800, 0x2FA1D)]⟩),
  (["upper", "uppercase"], ⟨[.lu], [(0x2160, 0x216F), (0x24B6, 0x24CF), (0x1F130, 0x1F149),
    (0x1F150, 0x1F169), (0x1F170, 0x1F189)], []⟩),
  (["vs", "variationselector"], ⟨[], [(0x180B, 0x180D), (0x180F, 0x180F), (0xFE00, 0xFE0F),
    (0xE0100, 0xE01EF)], []⟩),
  (["wspace", "whitespace", "space"], ⟨[.zs], [(0x9, 0xD), (0x85, 0x85), (0x2028, 0x2029)], []⟩),
  (["xidc", "xidcontinue"], ⟨[.lu, .ll, .lt, .lm, .lo, .mn, .mc, .nd, .nl, .pc], [(0xB7, 0xB7),
    (0x387, 0x387), (0x1369, 0x1371), (0x19DA, 0x19DA), (0x2118, 0x2118), (0x212E, 0x212E)],
    [(0x37A, 0x37A), (0x2E2F, 0x2E2F), (0xFC5E, 0xFC63), (0xFDFA, 0xFDFB), (0xFE70, 0xFE70),
    (0xFE72, 0xFE72), (0xFE74, 0xFE76), (0xFE78, 0xFE78), (0xFE7A, 0xFE7A), (0xFE7C, 0xFE7C),
    (0xFE7E, 0xFE7E)]⟩),
  (["xids", "xidstart"], ⟨[.lu, .ll, .lt, .lm, .lo, .nl], [(0x1885, 0x1886), (0x2118, 0x2118),
    (0x212E, 0x212E)], [(0x37A, 0x37A), (0xE33, 0xE33), (0xEB3, 0xEB3), (0x2E2F, 0x2E2F),
    (0xFC5E, 0xFC63), (0xFDFA, 0xFE70), (0xFE72, 0xFE72), (0xFE74, 0xFE76), (0xFE78, 0xFE78),
    (0xFE7A, 0xFE7A), (0xFE7C, 0xFE7C), (0xFE7E, 0xFE7E), (0xFF9E, 0xFF9F)]⟩)]

end MetricBench.Unicode
