import MetricBench.Unicode.Category

/-!
# Boundaries in text

Where texts break into graphemes, words and sentences depends on the parts that characters have in
them.  The parts are those of the Unicode standard, version 15.0; a character that is in none of the
sets has no part of its own.
-/

namespace MetricBench.Unicode

/-- The parts that characters have in graphemes.  Of the Hangul syllables every twenty-eighth ends in a
vowel. -/
def graphemeBreaks : List (List String × CategorySet) := [
  (["cn", "control"], ⟨[.cf], [(0x0, 0x9), (0xB, 0xC), (0xE, 0x1F), (0x7F, 0x9F), (0x2028, 0x2029),
    (0x2065, 0x2065), (0xFFF0, 0xFFF8), (0xE0000, 0xE001F), (0xE0080, 0xE00FF), (0xE01F0, 0xE0FFF)],
    [(0x600, 0x605), (0x6DD, 0x8E2), (0x200C, 0x200D), (0x110BD, 0x110CD), (0xE0020, 0xE007F)]⟩),
  (["cr"], ⟨[], [(0xD, 0xD)], []⟩),
  (["ex", "extend"], ⟨[.mn, .me], [(0x9BE, 0x9BE), (0x9D7, 0x9D7), (0xB3E, 0xB3E), (0xB57, 0xB57),
    (0xBBE, 0xBBE), (0xBD7, 0xBD7), (0xCC2, 0xCC2), (0xCD5, 0xCD6), (0xD3E, 0xD3E), (0xD57, 0xD57),
    (0xDCF, 0xDCF), (0xDDF, 0xDDF), (0x1B35, 0x1B35), (0x200C, 0x200C), (0x302E, 0x302F),
    (0xFF9E, 0xFF9F), (0x1133E, 0x1133E), (0x11357, 0x11357), (0x114B0, 0x114B0), (0x114BD, 0x114BD),
    (0x115AF, 0x115AF), (0x11930, 0x11930), (0x1D165, 0x1D165), (0x1D16E, 0x1D172), (0x1F3FB, 0x1F3FF),
    (0xE0020, 0xE007F)], []⟩),
  (["l"], ⟨[], [(0x1100, 0x115F), (0xA960, 0xA97C)], []⟩),
  (["lf"], ⟨[], [(0xA, 0xA)], []⟩),
  (["lv"],
    ⟨[], (List.range 399).map fun block => (0xAC00 + 28 * block, 0xAC00 + 28 * block), []⟩),
  (["lvt"],
    ⟨[], (List.range 399).map fun block => (0xAC01 + 28 * block, 0xAC1B + 28 * block), []⟩),
  (["pp", "prepend"], ⟨[.cf], [(0xD4E, 0xD4E), (0x111C2, 0x111C3), (0x1193F, 0x1193F),
    (0x11941, 0x11941), (0x11A3A, 0x11A3A), (0x11A84, 0x11A89), (0x11D46, 0x11D46), (0x11F02, 0x11F02)],
    [(0xAD, 0xAD), (0x61C, 0x61C), (0x180E, 0xFFFB), (0x13430, 0xE007F)]⟩),
  (["ri", "regionalindicator"], ⟨[], [(0x1F1E6, 0x1F1FF)], []⟩),
  (["sm", "spacingmark"], ⟨[.mc], [(0xE33, 0xE33), (0xEB3, 0xEB3)], [(0x9BE, 0x9BE), (0x9D7, 0x9D7),
    (0xB3E, 0xB3E), (0xB57, 0xBBE), (0xBD7, 0xBD7), (0xCC2, 0xCC2), (0xCD5, 0xCD6), (0xD3E, 0xD3E),
    (0xD57, 0xD57), (0xDCF, 0xDCF), (0xDDF, 0xDDF), (0x102B, 0x102C), (0x1038, 0x1038),
    (0x1062, 0x1083), (0x1087, 0x109C), (0x1A61, 0x1A64), (0x1B35, 0x1B35), (0x302E, 0x302F),
    (0xAA7B, 0xAA7D), (0x1133E, 0x1133E), (0x11357, 0x11357), (0x114B0, 0x114B0), (0x114BD, 0x114BD),
    (0x115AF, 0x115AF), (0x11720, 0x11721), (0x11930, 0x11930), (0x1D165, 0x1D165),
    (0x1D16E, 0x1D172)]⟩),
  (["t"], ⟨[], [(0x11A8, 0x11FF), (0xD7CB, 0xD7FB)], []⟩),
  (["v"], ⟨[], [(0x1160, 0x11A7), (0xD7B0, 0xD7C6)], []⟩),
  (["zwj"], ⟨[], [(0x200D, 0x200D)], []⟩)]

/-- The parts that characters have in words. -/
def wordBreaks : List (List String × CategorySet) := [
  (["le", "aletter"], ⟨[.lu, .ll, .lt, .lm, .lo, .nl], [(0x2C2, 0x2D7), (0x2DE, 0x2FF), (0x55A, 0x55C),
    (0x55E, 0x55E), (0x58A, 0x58A), (0x5F3, 0x5F3), (0x24B6, 0x24E9), (0xA708, 0xA78A),
    (0xAB5B, 0xAB5B), (0x1F130, 0x1F149), (0x1F150, 0x1F169), (0x1F170, 0x1F189)], [(0x5D0, 0x5F2),
    (0xE01, 0xEDF), (0x1000, 0x108E), (0x1780, 0x17DC), (0x1950, 0x19C9), (0x1A20, 0x1AA7),
    (0x3006, 0x303A), (0x3041, 0x30FF), (0x31F0, 0x9FFF), (0xA9E0, 0xA9FE), (0xAA60, 0xAADD),
    (0xF900, 0xFAD9), (0xFB1D, 0xFB4F), (0xFF66, 0xFF9F), (0x11700, 0x11746), (0x17000, 0x1B2FB),
    (0x20000, 0x323AF)]⟩),
  (["cr"], ⟨[], [(0xD, 0xD)], []⟩),
  (["dq", "doublequote"], ⟨[], [(0x22, 0x22)], []⟩),
  (["extend"], ⟨[.mn, .mc, .me], [(0x200C, 0x200C), (0xFF9E, 0xFF9F), (0x1F3FB, 0x1F3FF),
    (0xE0020, 0xE007F)], []⟩),
  (["ex", "extendnumlet"], ⟨[.pc], [(0x202F, 0x202F)], []⟩),
  (["fo", "format"], ⟨[.cf], [], [(0x200B, 0x200D), (0xE0020, 0xE007F)]⟩),
  (["hl", "hebrewletter"], ⟨[.lo], [], [(0xAA, 0x294), (0x620, 0xFAD9), (0xFB50, 0x323AF)]⟩),
  (["ka", "katakana"], ⟨[], [(0x3031, 0x3035), (0x309B, 0x309C), (0x30A0, 0x30FA), (0x30FC, 0x30FF),
    (0x31F0, 0x31FF), (0x32D0, 0x32FE), (0x3300, 0x3357), (0xFF66, 0xFF9D), (0x1AFF0, 0x1AFF3),
    (0x1AFF5, 0x1AFFB), (0x1AFFD, 0x1AFFE), (0x1B000, 0x1B000), (0x1B120, 0x1B122), (0x1B155, 0x1B155),
    (0x1B164, 0x1B167)], []⟩),
  (["lf"], ⟨[], [(0xA, 0xA)], []⟩),
  (["ml", "midletter"], ⟨[], [(0x3A, 0x3A), (0xB7, 0xB7), (0x387, 0x387), (0x55F, 0x55F),
    (0x5F4, 0x5F4), (0x2027, 0x2027), (0xFE13, 0xFE13), (0xFE55, 0xFE55), (0xFF1A, 0xFF1A)], []⟩),
  (["mn", "midnum"], ⟨[], [(0x2C, 0x2C), (0x3B, 0x3B), (0x37E, 0x37E), (0x589, 0x589), (0x60C, 0x60D),
    (0x66C, 0x66C), (0x7F8, 0x7F8), (0x2044, 0x2044), (0xFE10, 0xFE10), (0xFE14, 0xFE14),
    (0xFE50, 0xFE50), (0xFE54, 0xFE54), (0xFF0C, 0xFF0C), (0xFF1B, 0xFF1B)], []⟩),
  (["mb", "midnumlet"], ⟨[], [(0x2E, 0x2E), (0x2018, 0x2019), (0x2024, 0x2024), (0xFE52, 0xFE52),
    (0xFF07, 0xFF07), (0xFF0E, 0xFF0E)], []⟩),
  (["nl", "newline"], ⟨[], [(0xB, 0xC), (0x85, 0x85), (0x2028, 0x2029)], []⟩),
  (["nu", "numeric"], ⟨[.nd], [(0x66B, 0x66B)], []⟩),
  (["ri", "regionalindicator"], ⟨[], [(0x1F1E6, 0x1F1FF)], []⟩),
  (["sq", "singlequote"], ⟨[], [(0x27, 0x27)], []⟩),
  (["wsegspace"], ⟨[.zs], [], [(0xA0, 0xA0), (0x2007, 0x2007), (0x202F, 0x202F)]⟩),
  (["zwj"], ⟨[], [(0x200D, 0x200D)], []⟩)]

/-- The parts that characters have in sentences. -/
def sentenceBreaks : List (List String × CategorySet) := [
  (["at", "aterm"], ⟨[], [(0x2E, 0x2E), (0x2024, 0x2024), (0xFE52, 0xFE52), (0xFF0E, 0xFF0E)], []⟩),
  (["cl", "close"], ⟨[.ps, .pe, .pi, .pf], [(0x22, 0x22), (0x27, 0x27), (0x275B, 0x2760),
    (0x2E00, 0x2E0B), (0x1F676, 0x1F678)], []⟩),
  (["cr"], ⟨[], [(0xD, 0xD)], []⟩),
  (["ex", "extend"], ⟨[.mn, .mc, .me], [(0x200C, 0x200D), (0xFF9E, 0xFF9F), (0xE0020, 0xE007F)], []⟩),
  (["fo", "format"], ⟨[.cf], [], [(0x200C, 0x200D), (0xE0020, 0xE007F)]⟩),
  (["lf"], ⟨[], [(0xA, 0xA)], []⟩),
  (["lo", "lower"], ⟨[.ll, .lm], [(0xAA, 0xAA), (0xBA, 0xBA), (0x2170, 0x217F), (0x24D0, 0x24E9)],
    [(0x2B9, 0x2BF), (0x2C6, 0x2D1), (0x2EC, 0x2EE), (0x374, 0x374), (0x559, 0x559), (0x640, 0x10FA),
    (0x10FD, 0x10FF), (0x17D7, 0x1C7D), (0x2D6F, 0xA60C), (0xA67F, 0xA67F), (0xA717, 0xA71F),
    (0xA788, 0xA788), (0xA9CF, 0xAAF4), (0xFF70, 0xFF9F), (0x10781, 0x10782), (0x16B40, 0x16B43),
    (0x16F93, 0x1AFFE), (0x1E137, 0x1E4EB), (0x1E94B, 0x1E94B)]⟩),
  (["nu", "numeric"], ⟨[.nd], [(0x66B, 0x66C)], []⟩),
  (["le", "oletter"], ⟨[.lm, .lo, .nl], [(0x5F3, 0x5F3), (0x10D0, 0x10FA), (0x10FD, 0x10FF),
    (0x1C90, 0x1CBA), (0x1CBD, 0x1CBF)], [(0xAA, 0xBA), (0x2B0, 0x2B8), (0x2C0, 0x2C1), (0x2E0, 0x2E4),
    (0x37A, 0x37A), (0x10FC, 0x10FC), (0x1D2C, 0x209C), (0x2160, 0x217F), (0x2C7C, 0x2C7D),
    (0xA69C, 0xA69D), (0xA770, 0xA770), (0xA7F2, 0xA7F4), (0xA7F8, 0xA7F9), (0xAB5C, 0xAB69),
    (0xFF9E, 0xFF9F), (0x10780, 0x10780), (0x10783, 0x107BA), (0x1E030, 0x1E06D)]⟩),
  (["sc", "scontinue"], ⟨[], [(0x2C, 0x2D), (0x3A, 0x3A), (0x55D, 0x55D), (0x60C, 0x60D),
    (0x7F8, 0x7F8), (0x1802, 0x1802), (0x1808, 0x1808), (0x2013, 0x2014), (0x3001, 0x3001),
    (0xFE10, 0xFE11), (0xFE13, 0xFE13), (0xFE31, 0xFE32), (0xFE50, 0xFE51), (0xFE55, 0xFE55),
    (0xFE58, 0xFE58), (0xFE63, 0xFE63), (0xFF0C, 0xFF0D), (0xFF1A, 0xFF1A), (0xFF64, 0xFF64)], []⟩),
  (["se", "sep"], ⟨[], [(0x85, 0x85), (0x2028, 0x2029)], []⟩),
  (["sp"], ⟨[.zs], [(0x9, 0x9), (0xB, 0xC)], []⟩),
  (["st", "sterm"], ⟨[.po], [], [(0x22, 0x3B), (0x40, 0x55F), (0x5C0, 0x61B), (0x66A, 0x66D),
    (0x703, 0x7F8), (0x830, 0x836), (0x838, 0x838), (0x83A, 0x83C), (0x85E, 0x85E), (0x970, 0xFDA),
    (0x104C, 0x1361), (0x1363, 0x1366), (0x16EB, 0x16ED), (0x17D4, 0x1802), (0x1804, 0x1808),
    (0x180A, 0x180A), (0x1A1E, 0x1AA6), (0x1AAC, 0x1AAD), (0x1B5C, 0x1B5D), (0x1B60, 0x1B60),
    (0x1BFC, 0x1BFF), (0x1C3D, 0x1C3F), (0x1CC0, 0x203B), (0x203E, 0x2043), (0x204A, 0x2E2D),
    (0x2E30, 0x2E39), (0x2E3D, 0x2E52), (0x3001, 0x3001), (0x3003, 0xA4FE), (0xA60D, 0xA60D),
    (0xA673, 0xA6F2), (0xA6F4, 0xA6F6), (0xA874, 0xA875), (0xA8F8, 0xA92E), (0xA95F, 0xA9C7),
    (0xA9CA, 0xAA5C), (0xAADE, 0xAADF), (0xFE10, 0xFE55), (0xFE5F, 0xFE6B), (0xFF02, 0xFF1B),
    (0xFF20, 0xFF3C), (0xFF64, 0x10A55), (0x10A58, 0x10B9C), (0x11049, 0x110BC), (0x11140, 0x11140),
    (0x11174, 0x11175), (0x111C7, 0x111C8), (0x111DB, 0x111DD), (0x1123A, 0x1123A), (0x1123D, 0x1123D),
    (0x1144D, 0x115C1), (0x115C4, 0x115C8), (0x11643, 0x116B9), (0x1183B, 0x1183B), (0x11945, 0x11945),
    (0x119E2, 0x11A41), (0x11A44, 0x11A9A), (0x11A9E, 0x11B09), (0x11C43, 0x11C71), (0x11F45, 0x12FF2),
    (0x16B39, 0x16B3B), (0x16E97, 0x16E97), (0x16E99, 0x16FE2), (0x1DA87, 0x1DA87),
    (0x1DA89, 0x1E95F)]⟩),
  (["up", "upper"], ⟨[.lu, .lt], [(0x2160, 0x216F), (0x24B6, 0x24CF), (0x1F130, 0x1F149),
    (0x1F150, 0x1F169), (0x1F170, 0x1F189)], [(0x1C90, 0x1CBF)]⟩)]

end MetricBench.Unicode
