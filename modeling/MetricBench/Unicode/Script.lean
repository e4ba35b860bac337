import MetricBench.Unicode.ChangeTable

/-!
# Scripts

Every assigned character belongs to one script of the Unicode standard, version 15.0, or is common
to scripts, or inherits the script of the character before it.  A script is known by its standard
code of four letters.
-/

namespace MetricBench.Unicode

/-- A script. -/
structure Script where
  code : String
  deriving DecidableEq, Repr

namespace Script

/-- The scripts by their codes, each followed by its longer names. -/
def names : List (List String) := [
  ["Adlm", "Adlam"], ["Aghb", "Caucasian_Albanian"], ["Ahom"], ["Arab", "Arabic"],
  ["Armi", "Imperial_Aramaic"], ["Armn", "Armenian"], ["Avst", "Avestan"], ["Bali", "Balinese"],
  ["Bamu", "Bamum"], ["Bass", "Bassa_Vah"], ["Batk", "Batak"], ["Beng", "Bengali"],
  ["Bhks", "Bhaiksuki"], ["Bopo", "Bopomofo"], ["Brah", "Brahmi"], ["Brai", "Braille"],
  ["Bugi", "Buginese"], ["Buhd", "Buhid"], ["Cakm", "Chakma"], ["Cans", "Canadian_Aboriginal"],
  ["Cari", "Carian"], ["Cham"], ["Cher", "Cherokee"], ["Chrs", "Chorasmian"],
  ["Copt", "Coptic", "Qaac"], ["Cpmn", "Cypro_Minoan"], ["Cprt", "Cypriot"], ["Cyrl", "Cyrillic"],
  ["Deva", "Devanagari"], ["Diak", "Dives_Akuru"], ["Dogr", "Dogra"], ["Dsrt", "Deseret"],
  ["Dupl", "Duployan"], ["Egyp", "Egyptian_Hieroglyphs"], ["Elba", "Elbasan"], ["Elym", "Elymaic"],
  ["Ethi", "Ethiopic"], ["Geor", "Georgian"], ["Glag", "Glagolitic"], ["Gong", "Gunjala_Gondi"],
  ["Gonm", "Masaram_Gondi"], ["Goth", "Gothic"], ["Gran", "Grantha"], ["Grek", "Greek"],
  ["Gujr", "Gujarati"], ["Guru", "Gurmukhi"], ["Hang", "Hangul"], ["Hani", "Han"],
  ["Hano", "Hanunoo"], ["Hatr", "Hatran"], ["Hebr", "Hebrew"], ["Hira", "Hiragana"],
  ["Hluw", "Anatolian_Hieroglyphs"], ["Hmng", "Pahawh_Hmong"], ["Hmnp", "Nyiakeng_Puachue_Hmong"],
  ["Hung", "Old_Hungarian"], ["Ital", "Old_Italic"], ["Java", "Javanese"], ["Kali", "Kayah_Li"],
  ["Kana", "Katakana"], ["Kawi"], ["Khar", "Kharoshthi"], ["Khmr", "Khmer"],
  ["Khoj", "Khojki"], ["Kits", "Khitan_Small_Script"], ["Knda", "Kannada"], ["Kthi", "Kaithi"],
  ["Lana", "Tai_Tham"], ["Laoo", "Lao"], ["Latn", "Latin"], ["Lepc", "Lepcha"], ["Limb", "Limbu"],
  ["Lina", "Linear_A"], ["Linb", "Linear_B"], ["Lisu"], ["Lyci", "Lycian"],
  ["Lydi", "Lydian"], ["Mahj", "Mahajani"], ["Maka", "Makasar"], ["Mand", "Mandaic"],
  ["Mani", "Manichaean"], ["Marc", "Marchen"], ["Medf", "Medefaidrin"], ["Mend", "Mende_Kikakui"],
  ["Merc", "Meroitic_Cursive"], ["Mero", "Meroitic_Hieroglyphs"], ["Mlym", "Malayalam"],
  ["Modi"], ["Mong", "Mongolian"], ["Mroo", "Mro"], ["Mtei", "Meetei_Mayek"],
  ["Mult", "Multani"], ["Mymr", "Myanmar"], ["Nagm", "Nag_Mundari"], ["Nand", "Nandinagari"],
  ["Narb", "Old_North_Arabian"], ["Nbat", "Nabataean"], ["Newa"], ["Nkoo", "Nko"],
  ["Nshu", "Nushu"], ["Ogam", "Ogham"], ["Olck", "Ol_Chiki"], ["Orkh", "Old_Turkic"],
  ["Orya", "Oriya"], ["Osge", "Osage"], ["Osma", "Osmanya"], ["Ougr", "Old_Uyghur"],
  ["Palm", "Palmyrene"], ["Pauc", "Pau_Cin_Hau"], ["Perm", "Old_Permic"], ["Phag", "Phags_Pa"],
  ["Phli", "Inscriptional_Pahlavi"], ["Phlp", "Psalter_Pahlavi"], ["Phnx", "Phoenician"],
  ["Plrd", "Miao"], ["Prti", "Inscriptional_Parthian"], ["Rjng", "Rejang"],
  ["Rohg", "Hanifi_Rohingya"], ["Runr", "Runic"], ["Samr", "Samaritan"],
  ["Sarb", "Old_South_Arabian"], ["Saur", "Saurashtra"], ["Sgnw", "SignWriting"],
  ["Shaw", "Shavian"], ["Shrd", "Sharada"], ["Sidd", "Siddham"], ["Sind", "Khudawadi"],
  ["Sinh", "Sinhala"], ["Sogd", "Sogdian"], ["Sogo", "Old_Sogdian"], ["Sora", "Sora_Sompeng"],
  ["Soyo", "Soyombo"], ["Sund", "Sundanese"], ["Sylo", "Syloti_Nagri"], ["Syrc", "Syriac"],
  ["Tagb", "Tagbanwa"], ["Takr", "Takri"], ["Tale", "Tai_Le"], ["Talu", "New_Tai_Lue"],
  ["Taml", "Tamil"], ["Tang", "Tangut"], ["Tavt", "Tai_Viet"], ["Telu", "Telugu"],
  ["Tfng", "Tifinagh"], ["Tglg", "Tagalog"], ["Thaa", "Thaana"], ["Thai"],
  ["Tibt", "Tibetan"], ["Tirh", "Tirhuta"], ["Tnsa", "Tangsa"], ["Toto"],
  ["Ugar", "Ugaritic"], ["Vaii", "Vai"], ["Vith", "Vithkuqi"], ["Wara", "Warang_Citi"],
  ["Wcho", "Wancho"], ["Xpeo", "Old_Persian"], ["Xsux", "Cuneiform"], ["Yezi", "Yezidi"],
  ["Yiii", "Yi"], ["Zanb", "Zanabazar_Square"], ["Zinh", "Inherited", "Qaai"], ["Zyyy", "Common"]]

set_option maxRecDepth 40000 in
/-- The code points at which the script changes, with the code of the script that starts there. -/
def changes : ChangeTable String := #[
   (0x0, "Zyyy"), (0x41, "Latn"), (0x5B, "Zyyy"), (0x61, "Latn"), (0x7B, "Zyyy"), (0xAA, "Latn"),
   (0xAB, "Zyyy"), (0xBA, "Latn"), (0xBB, "Zyyy"), (0xC0, "Latn"), (0xD7, "Zyyy"), (0xD8, "Latn"),
   (0xF7, "Zyyy"), (0xF8, "Latn"), (0x2B9, "Zyyy"), (0x2E0, "Latn"), (0x2E5, "Zyyy"),
   (0x2EA, "Bopo"), (0x2EC, "Zyyy"), (0x300, "Zinh"), (0x370, "Grek"), (0x374, "Zyyy"),
   (0x375, "Grek"), (0x378, "Zzzz"), (0x37A, "Grek"), (0x37E, "Zyyy"), (0x37F, "Grek"),
   (0x380, "Zzzz"), (0x384, "Grek"), (0x385, "Zyyy"), (0x386, "Grek"), (0x387, "Zyyy"),
   (0x388, "Grek"), (0x38B, "Zzzz"), (0x38C, "Grek"), (0x38D, "Zzzz"), (0x38E, "Grek"),
   (0x3A2, "Zzzz"), (0x3A3, "Grek"), (0x3E2, "Copt"), (0x3F0, "Grek"), (0x400, "Cyrl"),
   (0x485, "Zinh"), (0x487, "Cyrl"), (0x530, "Zzzz"), (0x531, "Armn"), (0x557, "Zzzz"),
   (0x559, "Armn"), (0x58B, "Zzzz"), (0x58D, "Armn"), (0x590, "Zzzz"), (0x591, "Hebr"),
   (0x5C8, "Zzzz"), (0x5D0, "Hebr"), (0x5EB, "Zzzz"), (0x5EF, "Hebr"), (0x5F5, "Zzzz"),
   (0x600, "Arab"), (0x605, "Zyyy"), (0x606, "Arab"), (0x60C, "Zyyy"), (0x60D, "Arab"),
   (0x61B, "Zyyy"), (0x61C, "Arab"), (0x61F, "Zyyy"), (0x620, "Arab"), (0x640, "Zyyy"),
   (0x641, "Arab"), (0x64B, "Zinh"), (0x656, "Arab"), (0x670, "Zinh"), (0x671, "Arab"),
   (0x6DD, "Zyyy"), (0x6DE, "Arab"), (0x700, "Syrc"), (0x70E, "Zzzz"), (0x70F, "Syrc"),
   (0x74B, "Zzzz"), (0x74D, "Syrc"), (0x750, "Arab"), (0x780, "Thaa"), (0x7B2, "Zzzz"),
   (0x7C0, "Nkoo"), (0x7FB, "Zzzz"), (0x7FD, "Nkoo"), (0x800, "Samr"), (0x82E, "Zzzz"),
   (0x830, "Samr"), (0x83F, "Zzzz"), (0x840, "Mand"), (0x85C, "Zzzz"), (0x85E, "Mand"),
   (0x85F, "Zzzz"), (0x860, "Syrc"), (0x86B, "Zzzz"), (0x870, "Arab"), (0x88F, "Zzzz"),
   (0x890, "Arab"), (0x892, "Zzzz"), (0x898, "Arab"), (0x8E2, "Zyyy"), (0x8E3, "Arab"),
   (0x900, "Deva"), (0x951, "Zinh"), (0x955, "Deva"), (0x964, "Zyyy"), (0x966, "Deva"),
   (0x980, "Beng"), (0x984, "Zzzz"), (0x985, "Beng"), (0x98D, "Zzzz"), (0x98F, "Beng"),
   (0x991, "Zzzz"), (0x993, "Beng"), (0x9A9, "Zzzz"), (0x9AA, "Beng"), (0x9B1, "Zzzz"),
   (0x9B2, "Beng"), (0x9B3, "Zzzz"), (0x9B6, "Beng"), (0x9BA, "Zzzz"), (0x9BC, "Beng"),
   (0x9C5, "Zzzz"), (0x9C7, "Beng"), (0x9C9, "Zzzz"), (0x9CB, "Beng"), (0x9CF, "Zzzz"),
   (0x9D7, "Beng"), (0x9D8, "Zzzz"), (0x9DC, "Beng"), (0x9DE, "Zzzz"), (0x9DF, "Beng"),
   (0x9E4, "Zzzz"), (0x9E6, "Beng"), (0x9FF, "Zzzz"), (0xA01, "Guru"), (0xA04, "Zzzz"),
   (0xA05, "Guru"), (0xA0B, "Zzzz"), (0xA0F, "Guru"), (0xA11, "Zzzz"), (0xA13, "Guru"),
   (0xA29, "Zzzz"), (0xA2A, "Guru"), (0xA31, "Zzzz"), (0xA32, "Guru"), (0xA34, "Zzzz"),
   (0xA35, "Guru"), (0xA37, "Zzzz"), (0xA38, "Guru"), (0xA3A, "Zzzz"), (0xA3C, "Guru"),
   (0xA3D, "Zzzz"), (0xA3E, "Guru"), (0xA43, "Zzzz"), (0xA47, "Guru"), (0xA49, "Zzzz"),
   (0xA4B, "Guru"), (0xA4E, "Zzzz"), (0xA51, "Guru"), (0xA52, "Zzzz"), (0xA59, "Guru"),
   (0xA5D, "Zzzz"), (0xA5E, "Guru"), (0xA5F, "Zzzz"), (0xA66, "Guru"), (0xA77, "Zzzz"),
   (0xA81, "Gujr"), (0xA84, "Zzzz"), (0xA85, "Gujr"), (0xA8E, "Zzzz"), (0xA8F, "Gujr"),
   (0xA92, "Zzzz"), (0xA93, "Gujr"), (0xAA9, "Zzzz"), (0xAAA, "Gujr"), (0xAB1, "Zzzz"),
   (0xAB2, "Gujr"), (0xAB4, "Zzzz"), (0xAB5, "Gujr"), (0xABA, "Zzzz"), (0xABC, "Gujr"),
   (0xAC6, "Zzzz"), (0xAC7, "Gujr"), (0xACA, "Zzzz"), (0xACB, "Gujr"), (0xACE, "Zzzz"),
   (0xAD0, "Gujr"), (0xAD1, "Zzzz"), (0xAE0, "Gujr"), (0xAE4, "Zzzz"), (0xAE6, "Gujr"),
   (0xAF2, "Zzzz"), (0xAF9, "Gujr"), (0xB00, "Zzzz"), (0xB01, "Orya"), (0xB04, "Zzzz"),
   (0xB05, "Orya"), (0xB0D, "Zzzz"), (0xB0F, "Orya"), (0xB11, "Zzzz"), (0xB13, "Orya"),
   (0xB29, "Zzzz"), (0xB2A, "Orya"), (0xB31, "Zzzz"), (0xB32, "Orya"), (0xB34, "Zzzz"),
   (0xB35, "Orya"), (0xB3A, "Zzzz"), (0xB3C, "Orya"), (0xB45, "Zzzz"), (0xB47, "Orya"),
   (0xB49, "Zzzz"), (0xB4B, "Orya"), (0xB4E, "Zzzz"), (0xB55, "Orya"), (0xB58, "Zzzz"),
   (0xB5C, "Orya"), (0xB5E, "Zzzz"), (0xB5F, "Orya"), (0xB64, "Zzzz"), (0xB66, "Orya"),
   (0xB78, "Zzzz"), (0xB82, "Taml"), (0xB84, "Zzzz"), (0xB85, "Taml"), (0xB8B, "Zzzz"),
   (0xB8E, "Taml"), (0xB91, "Zzzz"), (0xB92, "Taml"), (0xB96, "Zzzz"), (0xB99, "Taml"),
   (0xB9B, "Zzzz"), (0xB9C, "Taml"), (0xB9D, "Zzzz"), (0xB9E, "Taml"), (0xBA0, "Zzzz"),
   (0xBA3, "Taml"), (0xBA5, "Zzzz"), (0xBA8, "Taml"), (0xBAB, "Zzzz"), (0xBAE, "Taml"),
   (0xBBA, "Zzzz"), (0xBBE, "Taml"), (0xBC3, "Zzzz"), (0xBC6, "Taml"), (0xBC9, "Zzzz"),
   (0xBCA, "Taml"), (0xBCE, "Zzzz"), (0xBD0, "Taml"), (0xBD1, "Zzzz"), (0xBD7, "Taml"),
   (0xBD8, "Zzzz"), (0xBE6, "Taml"), (0xBFB, "Zzzz"), (0xC00, "Telu"), (0xC0D, "Zzzz"),
   (0xC0E, "Telu"), (0xC11, "Zzzz"), (0xC12, "Telu"), (0xC29, "Zzzz"), (0xC2A, "Telu"),
   (0xC3A, "Zzzz"), (0xC3C, "Telu"), (0xC45, "Zzzz"), (0xC46, "Telu"), (0xC49, "Zzzz"),
   (0xC4A, "Telu"), (0xC4E, "Zzzz"), (0xC55, "Telu"), (0xC57, "Zzzz"), (0xC58, "Telu"),
   (0xC5B, "Zzzz"), (0xC5D, "Telu"), (0xC5E, "Zzzz"), (0xC60, "Telu"), (0xC64, "Zzzz"),
   (0xC66, "Telu"), (0xC70, "Zzzz"), (0xC77, "Telu"), (0xC80, "Knda"), (0xC8D, "Zzzz"),
   (0xC8E, "Knda"), (0xC91, "Zzzz"), (0xC92, "Knda"), (0xCA9, "Zzzz"), (0xCAA, "Knda"),
   (0xCB4, "Zzzz"), (0xCB5, "Knda"), (0xCBA, "Zzzz"), (0xCBC, "Knda"), (0xCC5, "Zzzz"),
   (0xCC6, "Knda"), (0xCC9, "Zzzz"), (0xCCA, "Knda"), (0xCCE, "Zzzz"), (0xCD5, "Knda"),
   (0xCD7, "Zzzz"), (0xCDD, "Knda"), (0xCDF, "Zzzz"), (0xCE0, "Knda"), (0xCE4, "Zzzz"),
   (0xCE6, "Knda"), (0xCF0, "Zzzz"), (0xCF1, "Knda"), (0xCF4, "Zzzz"), (0xD00, "Mlym"),
   (0xD0D, "Zzzz"), (0xD0E, "Mlym"), (0xD11, "Zzzz"), (0xD12, "Mlym"), (0xD45, "Zzzz"),
   (0xD46, "Mlym"), (0xD49, "Zzzz"), (0xD4A, "Mlym"), (0xD50, "Zzzz"), (0xD54, "Mlym"),
   (0xD64, "Zzzz"), (0xD66, "Mlym"), (0xD80, "Zzzz"), (0xD81, "Sinh"), (0xD84, "Zzzz"),
   (0xD85, "Sinh"), (0xD97, "Zzzz"), (0xD9A, "Sinh"), (0xDB2, "Zzzz"), (0xDB3, "Sinh"),
   (0xDBC, "Zzzz"), (0xDBD, "Sinh"), (0xDBE, "Zzzz"), (0xDC0, "Sinh"), (0xDC7, "Zzzz"),
   (0xDCA, "Sinh"), (0xDCB, "Zzzz"), (0xDCF, "Sinh"), (0xDD5, "Zzzz"), (0xDD6, "Sinh"),
   (0xDD7, "Zzzz"), (0xDD8, "Sinh"), (0xDE0, "Zzzz"), (0xDE6, "Sinh"), (0xDF0, "Zzzz"),
   (0xDF2, "Sinh"), (0xDF5, "Zzzz"), (0xE01, "Thai"), (0xE3B, "Zzzz"), (0xE3F, "Zyyy"),
   (0xE40, "Thai"), (0xE5C, "Zzzz"), (0xE81, "Laoo"), (0xE83, "Zzzz"), (0xE84, "Laoo"),
   (0xE85, "Zzzz"), (0xE86, "Laoo"), (0xE8B, "Zzzz"), (0xE8C, "Laoo"), (0xEA4, "Zzzz"),
   (0xEA5, "Laoo"), (0xEA6, "Zzzz"), (0xEA7, "Laoo"), (0xEBE, "Zzzz"), (0xEC0, "Laoo"),
   (0xEC5, "Zzzz"), (0xEC6, "Laoo"), (0xEC7, "Zzzz"), (0xEC8, "Laoo"), (0xECF, "Zzzz"),
   (0xED0, "Laoo"), (0xEDA, "Zzzz"), (0xEDC, "Laoo"), (0xEE0, "Zzzz"), (0xF00, "Tibt"),
   (0xF48, "Zzzz"), (0xF49, "Tibt"), (0xF6D, "Zzzz"), (0xF71, "Tibt"), (0xF98, "Zzzz"),
   (0xF99, "Tibt"), (0xFBD, "Zzzz"), (0xFBE, "Tibt"), (0xFCD, "Zzzz"), (0xFCE, "Tibt"),
   (0xFD5, "Zyyy"), (0xFD9, "Tibt"), (0xFDB, "Zzzz"), (0x1000, "Mymr"), (0x10A0, "Geor"),
   (0x10C6, "Zzzz"), (0x10C7, "Geor"), (0x10C8, "Zzzz"), (0x10CD, "Geor"), (0x10CE, "Zzzz"),
   (0x10D0, "Geor"), (0x10FB, "Zyyy"), (0x10FC, "Geor"), (0x1100, "Hang"), (0x1200, "Ethi"),
   (0x1249, "Zzzz"), (0x124A, "Ethi"), (0x124E, "Zzzz"), (0x1250, "Ethi"), (0x1257, "Zzzz"),
   (0x1258, "Ethi"), (0x1259, "Zzzz"), (0x125A, "Ethi"), (0x125E, "Zzzz"), (0x1260, "Ethi"),
   (0x1289, "Zzzz"), (0x128A, "Ethi"), (0x128E, "Zzzz"), (0x1290, "Ethi"), (0x12B1, "Zzzz"),
   (0x12B2, "Ethi"), (0x12B6, "Zzzz"), (0x12B8, "Ethi"), (0x12BF, "Zzzz"), (0x12C0, "Ethi"),
   (0x12C1, "Zzzz"), (0x12C2, "Ethi"), (0x12C6, "Zzzz"), (0x12C8, "Ethi"), (0x12D7, "Zzzz"),
   (0x12D8, "Ethi"), (0x1311, "Zzzz"), (0x1312, "Ethi"), (0x1316, "Zzzz"), (0x1318, "Ethi"),
   (0x135B, "Zzzz"), (0x135D, "Ethi"), (0x137D, "Zzzz"), (0x1380, "Ethi"), (0x139A, "Zzzz"),
   (0x13A0, "Cher"), (0x13F6, "Zzzz"), (0x13F8, "Cher"), (0x13FE, "Zzzz"), (0x1400, "Cans"),
   (0x1680, "Ogam"), (0x169D, "Zzzz"), (0x16A0, "Runr"), (0x16EB, "Zyyy"), (0x16EE, "Runr"),
   (0x16F9, "Zzzz"), (0x1700, "Tglg"), (0x1716, "Zzzz"), (0x171F, "Tglg"), (0x1720, "Hano"),
   (0x1735, "Zyyy"), (0x1737, "Zzzz"), (0x1740, "Buhd"), (0x1754, "Zzzz"), (0x1760, "Tagb"),
   (0x176D, "Zzzz"), (0x176E, "Tagb"), (0x1771, "Zzzz"), (0x1772, "Tagb"), (0x1774, "Zzzz"),
   (0x1780, "Khmr"), (0x17DE, "Zzzz"), (0x17E0, "Khmr"), (0x17EA, "Zzzz"), (0x17F0, "Khmr"),
   (0x17FA, "Zzzz"), (0x1800, "Mong"), (0x1802, "Zyyy"), (0x1804, "Mong"), (0x1805, "Zyyy"),
   (0x1806, "Mong"), (0x181A, "Zzzz"), (0x1820, "Mong"), (0x1879, "Zzzz"), (0x1880, "Mong"),
   (0x18AB, "Zzzz"), (0x18B0, "Cans"), (0x18F6, "Zzzz"), (0x1900, "Limb"), (0x191F, "Zzzz"),
   (0x1920, "Limb"), (0x192C, "Zzzz"), (0x1930, "Limb"), (0x193C, "Zzzz"), (0x1940, "Limb"),
   (0x1941, "Zzzz"), (0x1944, "Limb"), (0x1950, "Tale"), (0x196E, "Zzzz"), (0x1970, "Tale"),
   (0x1975, "Zzzz"), (0x1980, "Talu"), (0x19AC, "Zzzz"), (0x19B0, "Talu"), (0x19CA, "Zzzz"),
   (0x19D0, "Talu"), (0x19DB, "Zzzz"), (0x19DE, "Talu"), (0x19E0, "Khmr"), (0x1A00, "Bugi"),
   (0x1A1C, "Zzzz"), (0x1A1E, "Bugi"), (0x1A20, "Lana"), (0x1A5F, "Zzzz"), (0x1A60, "Lana"),
   (0x1A7D, "Zzzz"), (0x1A7F, "Lana"), (0x1A8A, "Zzzz"), (0x1A90, "Lana"), (0x1A9A, "Zzzz"),
   (0x1AA0, "Lana"), (0x1AAE, "Zzzz"), (0x1AB0, "Zinh"), (0x1ACF, "Zzzz"), (0x1B00, "Bali"),
   (0x1B4D, "Zzzz"), (0x1B50, "Bali"), (0x1B7F, "Zzzz"), (0x1B80, "Sund"), (0x1BC0, "Batk"),
   (0x1BF4, "Zzzz"), (0x1BFC, "Batk"), (0x1C00, "Lepc"), (0x1C38, "Zzzz"), (0x1C3B, "Lepc"),
   (0x1C4A, "Zzzz"), (0x1C4D, "Lepc"), (0x1C50, "Olck"), (0x1C80, "Cyrl"), (0x1C89, "Zzzz"),
   (0x1C90, "Geor"), (0x1CBB, "Zzzz"), (0x1CBD, "Geor"), (0x1CC0, "Sund"), (0x1CC8, "Zzzz"),
   (0x1CD0, "Zinh"), (0x1CD3, "Zyyy"), (0x1CD4, "Zinh"), (0x1CE1, "Zyyy"), (0x1CE2, "Zinh"),
   (0x1CE9, "Zyyy"), (0x1CED, "Zinh"), (0x1CEE, "Zyyy"), (0x1CF4, "Zinh"), (0x1CF5, "Zyyy"),
   (0x1CF8, "Zinh"), (0x1CFA, "Zyyy"), (0x1CFB, "Zzzz"), (0x1D00, "Latn"), (0x1D26, "Grek"),
   (0x1D2B, "Cyrl"), (0x1D2C, "Latn"), (0x1D5D, "Grek"), (0x1D62, "Latn"), (0x1D66, "Grek"),
   (0x1D6B, "Latn"), (0x1D78, "Cyrl"), (0x1D79, "Latn"), (0x1DBF, "Grek"), (0x1DC0, "Zinh"),
   (0x1E00, "Latn"), (0x1F00, "Grek"), (0x1F16, "Zzzz"), (0x1F18, "Grek"), (0x1F1E, "Zzzz"),
   (0x1F20, "Grek"), (0x1F46, "Zzzz"), (0x1F48, "Grek"), (0x1F4E, "Zzzz"), (0x1F50, "Grek"),
   (0x1F58, "Zzzz"), (0x1F59, "Grek"), (0x1F5A, "Zzzz"), (0x1F5B, "Grek"), (0x1F5C, "Zzzz"),
   (0x1F5D, "Grek"), (0x1F5E, "Zzzz"), (0x1F5F, "Grek"), (0x1F7E, "Zzzz"), (0x1F80, "Grek"),
   (0x1FB5, "Zzzz"), (0x1FB6, "Grek"), (0x1FC5, "Zzzz"), (0x1FC6, "Grek"), (0x1FD4, "Zzzz"),
   (0x1FD6, "Grek"), (0x1FDC, "Zzzz"), (0x1FDD, "Grek"), (0x1FF0, "Zzzz"), (0x1FF2, "Grek"),
   (0x1FF5, "Zzzz"), (0x1FF6, "Grek"), (0x1FFF, "Zzzz"), (0x2000, "Zyyy"), (0x200C, "Zinh"),
   (0x200E, "Zyyy"), (0x2065, "Zzzz"), (0x2066, "Zyyy"), (0x2071, "Latn"), (0x2072, "Zzzz"),
   (0x2074, "Zyyy"), (0x207F, "Latn"), (0x2080, "Zyyy"), (0x208F, "Zzzz"), (0x2090, "Latn"),
   (0x209D, "Zzzz"), (0x20A0, "Zyyy"), (0x20C1, "Zzzz"), (0x20D0, "Zinh"), (0x20F1, "Zzzz"),
   (0x2100, "Zyyy"), (0x2126, "Grek"), (0x2127, "Zyyy"), (0x212A, "Latn"), (0x212C, "Zyyy"),
   (0x2132, "Latn"), (0x2133, "Zyyy"), (0x214E, "Latn"), (0x214F, "Zyyy"), (0x2160, "Latn"),
   (0x2189, "Zyyy"), (0x218C, "Zzzz"), (0x2190, "Zyyy"), (0x2427, "Zzzz"), (0x2440, "Zyyy"),
   (0x244B, "Zzzz"), (0x2460, "Zyyy"), (0x2800, "Brai"), (0x2900, "Zyyy"), (0x2B74, "Zzzz"),
   (0x2B76, "Zyyy"), (0x2B96, "Zzzz"), (0x2B97, "Zyyy"), (0x2C00, "Glag"), (0x2C60, "Latn"),
   (0x2C80, "Copt"), (0x2CF4, "Zzzz"), (0x2CF9, "Copt"), (0x2D00, "Geor"), (0x2D26, "Zzzz"),
   (0x2D27, "Geor"), (0x2D28, "Zzzz"), (0x2D2D, "Geor"), (0x2D2E, "Zzzz"), (0x2D30, "Tfng"),
   (0x2D68, "Zzzz"), (0x2D6F, "Tfng"), (0x2D71, "Zzzz"), (0x2D7F, "Tfng"), (0x2D80, "Ethi"),
   (0x2D97, "Zzzz"), (0x2DA0, "Ethi"), (0x2DA7, "Zzzz"), (0x2DA8, "Ethi"), (0x2DAF, "Zzzz"),
   (0x2DB0, "Ethi"), (0x2DB7, "Zzzz"), (0x2DB8, "Ethi"), (0x2DBF, "Zzzz"), (0x2DC0, "Ethi"),
   (0x2DC7, "Zzzz"), (0x2DC8, "Ethi"), (0x2DCF, "Zzzz"), (0x2DD0, "Ethi"), (0x2DD7, "Zzzz"),
   (0x2DD8, "Ethi"), (0x2DDF, "Zzzz"), (0x2DE0, "Cyrl"), (0x2E00, "Zyyy"), (0x2E5E, "Zzzz"),
   (0x2E80, "Hani"), (0x2E9A, "Zzzz"), (0x2E9B, "Hani"), (0x2EF4, "Zzzz"), (0x2F00, "Hani"),
   (0x2FD6, "Zzzz"), (0x2FF0, "Zyyy"), (0x2FFC, "Zzzz"), (0x3000, "Zyyy"), (0x3005, "Hani"),
   (0x3006, "Zyyy"), (0x3007, "Hani"), (0x3008, "Zyyy"), (0x3021, "Hani"), (0x302A, "Zinh"),
   (0x302E, "Hang"), (0x3030, "Zyyy"), (0x3038, "Hani"), (0x303C, "Zyyy"), (0x3040, "Zzzz"),
   (0x3041, "Hira"), (0x3097, "Zzzz"), (0x3099, "Zinh"), (0x309B, "Zyyy"), (0x309D, "Hira"),
   (0x30A0, "Zyyy"), (0x30A1, "Kana"), (0x30FB, "Zyyy"), (0x30FD, "Kana"), (0x3100, "Zzzz"),
   (0x3105, "Bopo"), (0x3130, "Zzzz"), (0x3131, "Hang"), (0x318F, "Zzzz"), (0x3190, "Zyyy"),
   (0x31A0, "Bopo"), (0x31C0, "Zyyy"), (0x31E4, "Zzzz"), (0x31F0, "Kana"), (0x3200, "Hang"),
   (0x321F, "Zzzz"), (0x3220, "Zyyy"), (0x3260, "Hang"), (0x327F, "Zyyy"), (0x32D0, "Kana"),
   (0x32FF, "Zyyy"), (0x3300, "Kana"), (0x3358, "Zyyy"), (0x3400, "Hani"), (0x4DC0, "Zyyy"),
   (0x4E00, "Hani"), (0xA000, "Yiii"), (0xA48D, "Zzzz"), (0xA490, "Yiii"), (0xA4C7, "Zzzz"),
   (0xA4D0, "Lisu"), (0xA500, "Vaii"), (0xA62C, "Zzzz"), (0xA640, "Cyrl"), (0xA6A0, "Bamu"),
   (0xA6F8, "Zzzz"), (0xA700, "Zyyy"), (0xA722, "Latn"), (0xA788, "Zyyy"), (0xA78B, "Latn"),
   (0xA7CB, "Zzzz"), (0xA7D0, "Latn"), (0xA7D2, "Zzzz"), (0xA7D3, "Latn"), (0xA7D4, "Zzzz"),
   (0xA7D5, "Latn"), (0xA7DA, "Zzzz"), (0xA7F2, "Latn"), (0xA800, "Sylo"), (0xA82D, "Zzzz"),
   (0xA830, "Zyyy"), (0xA83A, "Zzzz"), (0xA840, "Phag"), (0xA878, "Zzzz"), (0xA880, "Saur"),
   (0xA8C6, "Zzzz"), (0xA8CE, "Saur"), (0xA8DA, "Zzzz"), (0xA8E0, "Deva"), (0xA900, "Kali"),
   (0xA92E, "Zyyy"), (0xA92F, "Kali"), (0xA930, "Rjng"), (0xA954, "Zzzz"), (0xA95F, "Rjng"),
   (0xA960, "Hang"), (0xA97D, "Zzzz"), (0xA980, "Java"), (0xA9CE, "Zzzz"), (0xA9CF, "Zyyy"),
   (0xA9D0, "Java"), (0xA9DA, "Zzzz"), (0xA9DE, "Java"), (0xA9E0, "Mymr"), (0xA9FF, "Zzzz"),
   (0xAA00, "Cham"), (0xAA37, "Zzzz"), (0xAA40, "Cham"), (0xAA4E, "Zzzz"), (0xAA50, "Cham"),
   (0xAA5A, "Zzzz"), (0xAA5C, "Cham"), (0xAA60, "Mymr"), (0xAA80, "Tavt"), (0xAAC3, "Zzzz"),
   (0xAADB, "Tavt"), (0xAAE0, "Mtei"), (0xAAF7, "Zzzz"), (0xAB01, "Ethi"), (0xAB07, "Zzzz"),
   (0xAB09, "Ethi"), (0xAB0F, "Zzzz"), (0xAB11, "Ethi"), (0xAB17, "Zzzz"), (0xAB20, "Ethi"),
   (0xAB27, "Zzzz"), (0xAB28, "Ethi"), (0xAB2F, "Zzzz"), (0xAB30, "Latn"), (0xAB5B, "Zyyy"),
   (0xAB5C, "Latn"), (0xAB65, "Grek"), (0xAB66, "Latn"), (0xAB6A, "Zyyy"), (0xAB6C, "Zzzz"),
   (0xAB70, "Cher"), (0xABC0, "Mtei"), (0xABEE, "Zzzz"), (0xABF0, "Mtei"), (0xABFA, "Zzzz"),
   (0xAC00, "Hang"), (0xD7A4, "Zzzz"), (0xD7B0, "Hang"), (0xD7C7, "Zzzz"), (0xD7CB, "Hang"),
   (0xD7FC, "Zzzz"), (0xF900, "Hani"), (0xFA6E, "Zzzz"), (0xFA70, "Hani"), (0xFADA, "Zzzz"),
   (0xFB00, "Latn"), (0xFB07, "Zzzz"), (0xFB13, "Armn"), (0xFB18, "Zzzz"), (0xFB1D, "Hebr"),
   (0xFB37, "Zzzz"), (0xFB38, "Hebr"), (0xFB3D, "Zzzz"), (0xFB3E, "Hebr"), (0xFB3F, "Zzzz"),
   (0xFB40, "Hebr"), (0xFB42, "Zzzz"), (0xFB43, "Hebr"), (0xFB45, "Zzzz"), (0xFB46, "Hebr"),
   (0xFB50, "Arab"), (0xFBC3, "Zzzz"), (0xFBD3, "Arab"), (0xFD3E, "Zyyy"), (0xFD40, "Arab"),
   (0xFD90, "Zzzz"), (0xFD92, "Arab"), (0xFDC8, "Zzzz"), (0xFDCF, "Arab"), (0xFDD0, "Zzzz"),
   (0xFDF0, "Arab"), (0xFE00, "Zinh"), (0xFE10, "Zyyy"), (0xFE1A, "Zzzz"), (0xFE20, "Zinh"),
   (0xFE2E, "Cyrl"), (0xFE30, "Zyyy"), (0xFE53, "Zzzz"), (0xFE54, "Zyyy"), (0xFE67, "Zzzz"),
   (0xFE68, "Zyyy"), (0xFE6C, "Zzzz"), (0xFE70, "Arab"), (0xFE75, "Zzzz"), (0xFE76, "Arab"),
   (0xFEFD, "Zzzz"), (0xFEFF, "Zyyy"), (0xFF00, "Zzzz"), (0xFF01, "Zyyy"), (0xFF21, "Latn"),
   (0xFF3B, "Zyyy"), (0xFF41, "Latn"), (0xFF5B, "Zyyy"), (0xFF66, "Kana"), (0xFF70, "Zyyy"),
   (0xFF71, "Kana"), (0xFF9E, "Zyyy"), (0xFFA0, "Hang"), (0xFFBF, "Zzzz"), (0xFFC2, "Hang"),
   (0xFFC8, "Zzzz"), (0xFFCA, "Hang"), (0xFFD0, "Zzzz"), (0xFFD2, "Hang"), (0xFFD8, "Zzzz"),
   (0xFFDA, "Hang"), (0xFFDD, "Zzzz"), (0xFFE0, "Zyyy"), (0xFFE7, "Zzzz"), (0xFFE8, "Zyyy"),
   (0xFFEF, "Zzzz"), (0xFFF9, "Zyyy"), (0xFFFE, "Zzzz"), (0x10000, "Linb"), (0x1000C, "Zzzz"),
   (0x1000D, "Linb"), (0x10027, "Zzzz"), (0x10028, "Linb"), (0x1003B, "Zzzz"), (0x1003C, "Linb"),
   (0x1003E, "Zzzz"), (0x1003F, "Linb"), (0x1004E, "Zzzz"), (0x10050, "Linb"), (0x1005E, "Zzzz"),
   (0x10080, "Linb"), (0x100FB, "Zzzz"), (0x10100, "Zyyy"), (0x10103, "Zzzz"), (0x10107, "Zyyy"),
   (0x10134, "Zzzz"), (0x10137, "Zyyy"), (0x10140, "Grek"), (0x1018F, "Zzzz"), (0x10190, "Zyyy"),
   (0x1019D, "Zzzz"), (0x101A0, "Grek"), (0x101A1, "Zzzz"), (0x101D0, "Zyyy"), (0x101FD, "Zinh"),
   (0x101FE, "Zzzz"), (0x10280, "Lyci"), (0x1029D, "Zzzz"), (0x102A0, "Cari"), (0x102D1, "Zzzz"),
   (0x102E0, "Zinh"), (0x102E1, "Zyyy"), (0x102FC, "Zzzz"), (0x10300, "Ital"), (0x10324, "Zzzz"),
   (0x1032D, "Ital"), (0x10330, "Goth"), (0x1034B, "Zzzz"), (0x10350, "Perm"), (0x1037B, "Zzzz"),
   (0x10380, "Ugar"), (0x1039E, "Zzzz"), (0x1039F, "Ugar"), (0x103A0, "Xpeo"), (0x103C4, "Zzzz"),
   (0x103C8, "Xpeo"), (0x103D6, "Zzzz"), (0x10400, "Dsrt"), (0x10450, "Shaw"), (0x10480, "Osma"),
   (0x1049E, "Zzzz"), (0x104A0, "Osma"), (0x104AA, "Zzzz"), (0x104B0, "Osge"), (0x104D4, "Zzzz"),
   (0x104D8, "Osge"), (0x104FC, "Zzzz"), (0x10500, "Elba"), (0x10528, "Zzzz"), (0x10530, "Aghb"),
   (0x10564, "Zzzz"), (0x1056F, "Aghb"), (0x10570, "Vith"), (0x1057B, "Zzzz"), (0x1057C, "Vith"),
   (0x1058B, "Zzzz"), (0x1058C, "Vith"), (0x10593, "Zzzz"), (0x10594, "Vith"), (0x10596, "Zzzz"),
   (0x10597, "Vith"), (0x105A2, "Zzzz"), (0x105A3, "Vith"), (0x105B2, "Zzzz"), (0x105B3, "Vith"),
   (0x105BA, "Zzzz"), (0x105BB, "Vith"), (0x105BD, "Zzzz"), (0x10600, "Lina"), (0x10737, "Zzzz"),
   (0x10740, "Lina"), (0x10756, "Zzzz"), (0x10760, "Lina"), (0x10768, "Zzzz"), (0x10780, "Latn"),
   (0x10786, "Zzzz"), (0x10787, "Latn"), (0x107B1, "Zzzz"), (0x107B2, "Latn"), (0x107BB, "Zzzz"),
   (0x10800, "Cprt"), (0x10806, "Zzzz"), (0x10808, "Cprt"), (0x10809, "Zzzz"), (0x1080A, "Cprt"),
   (0x10836, "Zzzz"), (0x10837, "Cprt"), (0x10839, "Zzzz"), (0x1083C, "Cprt"), (0x1083D, "Zzzz"),
   (0x1083F, "Cprt"), (0x10840, "Armi"), (0x10856, "Zzzz"), (0x10857, "Armi"), (0x10860, "Palm"),
   (0x10880, "Nbat"), (0x1089F, "Zzzz"), (0x108A7, "Nbat"), (0x108B0, "Zzzz"), (0x108E0, "Hatr"),
   (0x108F3, "Zzzz"), (0x108F4, "Hatr"), (0x108F6, "Zzzz"), (0x108FB, "Hatr"), (0x10900, "Phnx"),
   (0x1091C, "Zzzz"), (0x1091F, "Phnx"), (0x10920, "Lydi"), (0x1093A, "Zzzz"), (0x1093F, "Lydi"),
   (0x10940, "Zzzz"), (0x10980, "Mero"), (0x109A0, "Merc"), (0x109B8, "Zzzz"), (0x109BC, "Merc"),
   (0x109D0, "Zzzz"), (0x109D2, "Merc"), (0x10A00, "Khar"), (0x10A04, "Zzzz"), (0x10A05, "Khar"),
   (0x10A07, "Zzzz"), (0x10A0C, "Khar"), (0x10A14, "Zzzz"), (0x10A15, "Khar"), (0x10A18, "Zzzz"),
   (0x10A19, "Khar"), (0x10A36, "Zzzz"), (0x10A38, "Khar"), (0x10A3B, "Zzzz"), (0x10A3F, "Khar"),
   (0x10A49, "Zzzz"), (0x10A50, "Khar"), (0x10A59, "Zzzz"), (0x10A60, "Sarb"), (0x10A80, "Narb"),
   (0x10AA0, "Zzzz"), (0x10AC0, "Mani"), (0x10AE7, "Zzzz"), (0x10AEB, "Mani"), (0x10AF7, "Zzzz"),
   (0x10B00, "Avst"), (0x10B36, "Zzzz"), (0x10B39, "Avst"), (0x10B40, "Prti"), (0x10B56, "Zzzz"),
   (0x10B58, "Prti"), (0x10B60, "Phli"), (0x10B73, "Zzzz"), (0x10B78, "Phli"), (0x10B80, "Phlp"),
   (0x10B92, "Zzzz"), (0x10B99, "Phlp"), (0x10B9D, "Zzzz"), (0x10BA9, "Phlp"), (0x10BB0, "Zzzz"),
   (0x10C00, "Orkh"), (0x10C49, "Zzzz"), (0x10C80, "Hung"), (0x10CB3, "Zzzz"), (0x10CC0, "Hung"),
   (0x10CF3, "Zzzz"), (0x10CFA, "Hung"), (0x10D00, "Rohg"), (0x10D28, "Zzzz"), (0x10D30, "Rohg"),
   (0x10D3A, "Zzzz"), (0x10E60, "Arab"), (0x10E7F, "Zzzz"), (0x10E80, "Yezi"), (0x10EAA, "Zzzz"),
   (0x10EAB, "Yezi"), (0x10EAE, "Zzzz"), (0x10EB0, "Yezi"), (0x10EB2, "Zzzz"), (0x10EFD, "Arab"),
   (0x10F00, "Sogo"), (0x10F28, "Zzzz"), (0x10F30, "Sogd"), (0x10F5A, "Zzzz"), (0x10F70, "Ougr"),
   (0x10F8A, "Zzzz"), (0x10FB0, "Chrs"), (0x10FCC, "Zzzz"), (0x10FE0, "Elym"), (0x10FF7, "Zzzz"),
   (0x11000, "Brah"), (0x1104E, "Zzzz"), (0x11052, "Brah"), (0x11076, "Zzzz"), (0x1107F, "Brah"),
   (0x11080, "Kthi"), (0x110C3, "Zzzz"), (0x110CD, "Kthi"), (0x110CE, "Zzzz"), (0x110D0, "Sora"),
   (0x110E9, "Zzzz"), (0x110F0, "Sora"), (0x110FA, "Zzzz"), (0x11100, "Cakm"), (0x11135, "Zzzz"),
   (0x11136, "Cakm"), (0x11148, "Zzzz"), (0x11150, "Mahj"), (0x11177, "Zzzz"), (0x11180, "Shrd"),
   (0x111E0, "Zzzz"), (0x111E1, "Sinh"), (0x111F5, "Zzzz"), (0x11200, "Khoj"), (0x11212, "Zzzz"),
   (0x11213, "Khoj"), (0x11242, "Zzzz"), (0x11280, "Mult"), (0x11287, "Zzzz"), (0x11288, "Mult"),
   (0x11289, "Zzzz"), (0x1128A, "Mult"), (0x1128E, "Zzzz"), (0x1128F, "Mult"), (0x1129E, "Zzzz"),
   (0x1129F, "Mult"), (0x112AA, "Zzzz"), (0x112B0, "Sind"), (0x112EB, "Zzzz"), (0x112F0, "Sind"),
   (0x112FA, "Zzzz"), (0x11300, "Gran"), (0x11304, "Zzzz"), (0x11305, "Gran"), (0x1130D, "Zzzz"),
   (0x1130F, "Gran"), (0x11311, "Zzzz"), (0x11313, "Gran"), (0x11329, "Zzzz"), (0x1132A, "Gran"),
   (0x11331, "Zzzz"), (0x11332, "Gran"), (0x11334, "Zzzz"), (0x11335, "Gran"), (0x1133A, "Zzzz"),
   (0x1133B, "Zinh"), (0x1133C, "Gran"), (0x11345, "Zzzz"), (0x11347, "Gran"), (0x11349, "Zzzz"),
   (0x1134B, "Gran"), (0x1134E, "Zzzz"), (0x11350, "Gran"), (0x11351, "Zzzz"), (0x11357, "Gran"),
   (0x11358, "Zzzz"), (0x1135D, "Gran"), (0x11364, "Zzzz"), (0x11366, "Gran"), (0x1136D, "Zzzz"),
   (0x11370, "Gran"), (0x11375, "Zzzz"), (0x11400, "Newa"), (0x1145C, "Zzzz"), (0x1145D, "Newa"),
   (0x11462, "Zzzz"), (0x11480, "Tirh"), (0x114C8, "Zzzz"), (0x114D0, "Tirh"), (0x114DA, "Zzzz"),
   (0x11580, "Sidd"), (0x115B6, "Zzzz"), (0x115B8, "Sidd"), (0x115DE, "Zzzz"), (0x11600, "Modi"),
   (0x11645, "Zzzz"), (0x11650, "Modi"), (0x1165A, "Zzzz"), (0x11660, "Mong"), (0x1166D, "Zzzz"),
   (0x11680, "Takr"), (0x116BA, "Zzzz"), (0x116C0, "Takr"), (0x116CA, "Zzzz"), (0x11700, "Ahom"),
   (0x1171B, "Zzzz"), (0x1171D, "Ahom"), (0x1172C, "Zzzz"), (0x11730, "Ahom"), (0x11747, "Zzzz"),
   (0x11800, "Dogr"), (0x1183C, "Zzzz"), (0x118A0, "Wara"), (0x118F3, "Zzzz"), (0x118FF, "Wara"),
   (0x11900, "Diak"), (0x11907, "Zzzz"), (0x11909, "Diak"), (0x1190A, "Zzzz"), (0x1190C, "Diak"),
   (0x11914, "Zzzz"), (0x11915, "Diak"), (0x11917, "Zzzz"), (0x11918, "Diak"), (0x11936, "Zzzz"),
   (0x11937, "Diak"), (0x11939, "Zzzz"), (0x1193B, "Diak"), (0x11947, "Zzzz"), (0x11950, "Diak"),
   (0x1195A, "Zzzz"), (0x119A0, "Nand"), (0x119A8, "Zzzz"), (0x119AA, "Nand"), (0x119D8, "Zzzz"),
   (0x119DA, "Nand"), (0x119E5, "Zzzz"), (0x11A00, "Zanb"), (0x11A48, "Zzzz"), (0x11A50, "Soyo"),
   (0x11AA3, "Zzzz"), (0x11AB0, "Cans"), (0x11AC0, "Pauc"), (0x11AF9, "Zzzz"), (0x11B00, "Deva"),
   (0x11B0A, "Zzzz"), (0x11C00, "Bhks"), (0x11C09, "Zzzz"), (0x11C0A, "Bhks"), (0x11C37, "Zzzz"),
   (0x11C38, "Bhks"), (0x11C46, "Zzzz"), (0x11C50, "Bhks"), (0x11C6D, "Zzzz"), (0x11C70, "Marc"),
   (0x11C90, "Zzzz"), (0x11C92, "Marc"), (0x11CA8, "Zzzz"), (0x11CA9, "Marc"), (0x11CB7, "Zzzz"),
   (0x11D00, "Gonm"), (0x11D07, "Zzzz"), (0x11D08, "Gonm"), (0x11D0A, "Zzzz"), (0x11D0B, "Gonm"),
   (0x11D37, "Zzzz"), (0x11D3A, "Gonm"), (0x11D3B, "Zzzz"), (0x11D3C, "Gonm"), (0x11D3E, "Zzzz"),
   (0x11D3F, "Gonm"), (0x11D48, "Zzzz"), (0x11D50, "Gonm"), (0x11D5A, "Zzzz"), (0x11D60, "Gong"),
   (0x11D66, "Zzzz"), (0x11D67, "Gong"), (0x11D69, "Zzzz"), (0x11D6A, "Gong"), (0x11D8F, "Zzzz"),
   (0x11D90, "Gong"), (0x11D92, "Zzzz"), (0x11D93, "Gong"), (0x11D99, "Zzzz"), (0x11DA0, "Gong"),
   (0x11DAA, "Zzzz"), (0x11EE0, "Maka"), (0x11EF9, "Zzzz"), (0x11F00, "Kawi"), (0x11F11, "Zzzz"),
   (0x11F12, "Kawi"), (0x11F3B, "Zzzz"), (0x11F3E, "Kawi"), (0x11F5A, "Zzzz"), (0x11FB0, "Lisu"),
   (0x11FB1, "Zzzz"), (0x11FC0, "Taml"), (0x11FF2, "Zzzz"), (0x11FFF, "Taml"), (0x12000, "Xsux"),
   (0x1239A, "Zzzz"), (0x12400, "Xsux"), (0x1246F, "Zzzz"), (0x12470, "Xsux"), (0x12475, "Zzzz"),
   (0x12480, "Xsux"), (0x12544, "Zzzz"), (0x12F90, "Cpmn"), (0x12FF3, "Zzzz"), (0x13000, "Egyp"),
   (0x13456, "Zzzz"), (0x14400, "Hluw"), (0x14647, "Zzzz"), (0x16800, "Bamu"), (0x16A39, "Zzzz"),
   (0x16A40, "Mroo"), (0x16A5F, "Zzzz"), (0x16A60, "Mroo"), (0x16A6A, "Zzzz"), (0x16A6E, "Mroo"),
   (0x16A70, "Tnsa"), (0x16ABF, "Zzzz"), (0x16AC0, "Tnsa"), (0x16ACA, "Zzzz"), (0x16AD0, "Bass"),
   (0x16AEE, "Zzzz"), (0x16AF0, "Bass"), (0x16AF6, "Zzzz"), (0x16B00, "Hmng"), (0x16B46, "Zzzz"),
   (0x16B50, "Hmng"), (0x16B5A, "Zzzz"), (0x16B5B, "Hmng"), (0x16B62, "Zzzz"), (0x16B63, "Hmng"),
   (0x16B78, "Zzzz"), (0x16B7D, "Hmng"), (0x16B90, "Zzzz"), (0x16E40, "Medf"), (0x16E9B, "Zzzz"),
   (0x16F00, "Plrd"), (0x16F4B, "Zzzz"), (0x16F4F, "Plrd"), (0x16F88, "Zzzz"), (0x16F8F, "Plrd"),
   (0x16FA0, "Zzzz"), (0x16FE0, "Tang"), (0x16FE1, "Nshu"), (0x16FE2, "Hani"), (0x16FE4, "Kits"),
   (0x16FE5, "Zzzz"), (0x16FF0, "Hani"), (0x16FF2, "Zzzz"), (0x17000, "Tang"), (0x187F8, "Zzzz"),
   (0x18800, "Tang"), (0x18B00, "Kits"), (0x18CD6, "Zzzz"), (0x18D00, "Tang"), (0x18D09, "Zzzz"),
   (0x1AFF0, "Kana"), (0x1AFF4, "Zzzz"), (0x1AFF5, "Kana"), (0x1AFFC, "Zzzz"), (0x1AFFD, "Kana"),
   (0x1AFFF, "Zzzz"), (0x1B000, "Kana"), (0x1B001, "Hira"), (0x1B120, "Kana"), (0x1B123, "Zzzz"),
   (0x1B132, "Hira"), (0x1B133, "Zzzz"), (0x1B150, "Hira"), (0x1B153, "Zzzz"), (0x1B155, "Kana"),
   (0x1B156, "Zzzz"), (0x1B164, "Kana"), (0x1B168, "Zzzz"), (0x1B170, "Nshu"), (0x1B2FC, "Zzzz"),
   (0x1BC00, "Dupl"), (0x1BC6B, "Zzzz"), (0x1BC70, "Dupl"), (0x1BC7D, "Zzzz"), (0x1BC80, "Dupl"),
   (0x1BC89, "Zzzz"), (0x1BC90, "Dupl"), (0x1BC9A, "Zzzz"), (0x1BC9C, "Dupl"), (0x1BCA0, "Zyyy"),
   (0x1BCA4, "Zzzz"), (0x1CF00, "Zinh"), (0x1CF2E, "Zzzz"), (0x1CF30, "Zinh"), (0x1CF47, "Zzzz"),
   (0x1CF50, "Zyyy"), (0x1CFC4, "Zzzz"), (0x1D000, "Zyyy"), (0x1D0F6, "Zzzz"), (0x1D100, "Zyyy"),
   (0x1D127, "Zzzz"), (0x1D129, "Zyyy"), (0x1D167, "Zinh"), (0x1D16A, "Zyyy"), (0x1D17B, "Zinh"),
   (0x1D183, "Zyyy"), (0x1D185, "Zinh"), (0x1D18C, "Zyyy"), (0x1D1AA, "Zinh"), (0x1D1AE, "Zyyy"),
   (0x1D1EB, "Zzzz"), (0x1D200, "Grek"), (0x1D246, "Zzzz"), (0x1D2C0, "Zyyy"), (0x1D2D4, "Zzzz"),
   (0x1D2E0, "Zyyy"), (0x1D2F4, "Zzzz"), (0x1D300, "Zyyy"), (0x1D357, "Zzzz"), (0x1D360, "Zyyy"),
   (0x1D379, "Zzzz"), (0x1D400, "Zyyy"), (0x1D455, "Zzzz"), (0x1D456, "Zyyy"), (0x1D49D, "Zzzz"),
   (0x1D49E, "Zyyy"), (0x1D4A0, "Zzzz"), (0x1D4A2, "Zyyy"), (0x1D4A3, "Zzzz"), (0x1D4A5, "Zyyy"),
   (0x1D4A7, "Zzzz"), (0x1D4A9, "Zyyy"), (0x1D4AD, "Zzzz"), (0x1D4AE, "Zyyy"), (0x1D4BA, "Zzzz"),
   (0x1D4BB, "Zyyy"), (0x1D4BC, "Zzzz"), (0x1D4BD, "Zyyy"), (0x1D4C4, "Zzzz"), (0x1D4C5, "Zyyy"),
   (0x1D506, "Zzzz"), (0x1D507, "Zyyy"), (0x1D50B, "Zzzz"), (0x1D50D, "Zyyy"), (0x1D515, "Zzzz"),
   (0x1D516, "Zyyy"), (0x1D51D, "Zzzz"), (0x1D51E, "Zyyy"), (0x1D53A, "Zzzz"), (0x1D53B, "Zyyy"),
   (0x1D53F, "Zzzz"), (0x1D540, "Zyyy"), (0x1D545, "Zzzz"), (0x1D546, "Zyyy"), (0x1D547, "Zzzz"),
   (0x1D54A, "Zyyy"), (0x1D551, "Zzzz"), (0x1D552, "Zyyy"), (0x1D6A6, "Zzzz"), (0x1D6A8, "Zyyy"),
   (0x1D7CC, "Zzzz"), (0x1D7CE, "Zyyy"), (0x1D800, "Sgnw"), (0x1DA8C, "Zzzz"), (0x1DA9B, "Sgnw"),
   (0x1DAA0, "Zzzz"), (0x1DAA1, "Sgnw"), (0x1DAB0, "Zzzz"), (0x1DF00, "Latn"), (0x1DF1F, "Zzzz"),
   (0x1DF25, "Latn"), (0x1DF2B, "Zzzz"), (0x1E000, "Glag"), (0x1E007, "Zzzz"), (0x1E008, "Glag"),
   (0x1E019, "Zzzz"), (0x1E01B, "Glag"), (0x1E022, "Zzzz"), (0x1E023, "Glag"), (0x1E025, "Zzzz"),
   (0x1E026, "Glag"), (0x1E02B, "Zzzz"), (0x1E030, "Cyrl"), (0x1E06E, "Zzzz"), (0x1E08F, "Cyrl"),
   (0x1E090, "Zzzz"), (0x1E100, "Hmnp"), (0x1E12D, "Zzzz"), (0x1E130, "Hmnp"), (0x1E13E, "Zzzz"),
   (0x1E140, "Hmnp"), (0x1E14A, "Zzzz"), (0x1E14E, "Hmnp"), (0x1E150, "Zzzz"), (0x1E290, "Toto"),
   (0x1E2AF, "Zzzz"), (0x1E2C0, "Wcho"), (0x1E2FA, "Zzzz"), (0x1E2FF, "Wcho"), (0x1E300, "Zzzz"),
   (0x1E4D0, "Nagm"), (0x1E4FA, "Zzzz"), (0x1E7E0, "Ethi"), (0x1E7E7, "Zzzz"), (0x1E7E8, "Ethi"),
   (0x1E7EC, "Zzzz"), (0x1E7ED, "Ethi"), (0x1E7EF, "Zzzz"), (0x1E7F0, "Ethi"), (0x1E7FF, "Zzzz"),
   (0x1E800, "Mend"), (0x1E8C5, "Zzzz"), (0x1E8C7, "Mend"), (0x1E8D7, "Zzzz"), (0x1E900, "Adlm"),
   (0x1E94C, "Zzzz"), (0x1E950, "Adlm"), (0x1E95A, "Zzzz"), (0x1E95E, "Adlm"), (0x1E960, "Zzzz"),
   (0x1EC71, "Zyyy"), (0x1ECB5, "Zzzz"), (0x1ED01, "Zyyy"), (0x1ED3E, "Zzzz"), (0x1EE00, "Arab"),
   (0x1EE04, "Zzzz"), (0x1EE05, "Arab"), (0x1EE20, "Zzzz"), (0x1EE21, "Arab"), (0x1EE23, "Zzzz"),
   (0x1EE24, "Arab"), (0x1EE25, "Zzzz"), (0x1EE27, "Arab"), (0x1EE28, "Zzzz"), (0x1EE29, "Arab"),
   (0x1EE33, "Zzzz"), (0x1EE34, "Arab"), (0x1EE38, "Zzzz"), (0x1EE39, "Arab"), (0x1EE3A, "Zzzz"),
   (0x1EE3B, "Arab"), (0x1EE3C, "Zzzz"), (0x1EE42, "Arab"), (0x1EE43, "Zzzz"), (0x1EE47, "Arab"),
   (0x1EE48, "Zzzz"), (0x1EE49, "Arab"), (0x1EE4A, "Zzzz"), (0x1EE4B, "Arab"), (0x1EE4C, "Zzzz"),
   (0x1EE4D, "Arab"), (0x1EE50, "Zzzz"), (0x1EE51, "Arab"), (0x1EE53, "Zzzz"), (0x1EE54, "Arab"),
   (0x1EE55, "Zzzz"), (0x1EE57, "Arab"), (0x1EE58, "Zzzz"), (0x1EE59, "Arab"), (0x1EE5A, "Zzzz"),
   (0x1EE5B, "Arab"), (0x1EE5C, "Zzzz"), (0x1EE5D, "Arab"), (0x1EE5E, "Zzzz"), (0x1EE5F, "Arab"),
   (0x1EE60, "Zzzz"), (0x1EE61, "Arab"), (0x1EE63, "Zzzz"), (0x1EE64, "Arab"), (0x1EE65, "Zzzz"),
   (0x1EE67, "Arab"), (0x1EE6B, "Zzzz"), (0x1EE6C, "Arab"), (0x1EE73, "Zzzz"), (0x1EE74, "Arab"),
   (0x1EE78, "Zzzz"), (0x1EE79, "Arab"), (0x1EE7D, "Zzzz"), (0x1EE7E, "Arab"), (0x1EE7F, "Zzzz"),
   (0x1EE80, "Arab"), (0x1EE8A, "Zzzz"), (0x1EE8B, "Arab"), (0x1EE9C, "Zzzz"), (0x1EEA1, "Arab"),
   (0x1EEA4, "Zzzz"), (0x1EEA5, "Arab"), (0x1EEAA, "Zzzz"), (0x1EEAB, "Arab"), (0x1EEBC, "Zzzz"),
   (0x1EEF0, "Arab"), (0x1EEF2, "Zzzz"), (0x1F000, "Zyyy"), (0x1F02C, "Zzzz"), (0x1F030, "Zyyy"),
   (0x1F094, "Zzzz"), (0x1F0A0, "Zyyy"), (0x1F0AF, "Zzzz"), (0x1F0B1, "Zyyy"), (0x1F0C0, "Zzzz"),
   (0x1F0C1, "Zyyy"), (0x1F0D0, "Zzzz"), (0x1F0D1, "Zyyy"), (0x1F0F6, "Zzzz"), (0x1F100, "Zyyy"),
   (0x1F1AE, "Zzzz"), (0x1F1E6, "Zyyy"), (0x1F200, "Hira"), (0x1F201, "Zyyy"), (0x1F203, "Zzzz"),
   (0x1F210, "Zyyy"), (0x1F23C, "Zzzz"), (0x1F240, "Zyyy"), (0x1F249, "Zzzz"), (0x1F250, "Zyyy"),
   (0x1F252, "Zzzz"), (0x1F260, "Zyyy"), (0x1F266, "Zzzz"), (0x1F300, "Zyyy"), (0x1F6D8, "Zzzz"),
   (0x1F6DC, "Zyyy"), (0x1F6ED, "Zzzz"), (0x1F6F0, "Zyyy"), (0x1F6FD, "Zzzz"), (0x1F700, "Zyyy"),
   (0x1F777, "Zzzz"), (0x1F77B, "Zyyy"), (0x1F7DA, "Zzzz"), (0x1F7E0, "Zyyy"), (0x1F7EC, "Zzzz"),
   (0x1F7F0, "Zyyy"), (0x1F7F1, "Zzzz"), (0x1F800, "Zyyy"), (0x1F80C, "Zzzz"), (0x1F810, "Zyyy"),
   (0x1F848, "Zzzz"), (0x1F850, "Zyyy"), (0x1F85A, "Zzzz"), (0x1F860, "Zyyy"), (0x1F888, "Zzzz"),
   (0x1F890, "Zyyy"), (0x1F8AE, "Zzzz"), (0x1F8B0, "Zyyy"), (0x1F8B2, "Zzzz"), (0x1F900, "Zyyy"),
   (0x1FA54, "Zzzz"), (0x1FA60, "Zyyy"), (0x1FA6E, "Zzzz"), (0x1FA70, "Zyyy"), (0x1FA7D, "Zzzz"),
   (0x1FA80, "Zyyy"), (0x1FA89, "Zzzz"), (0x1FA90, "Zyyy"), (0x1FABE, "Zzzz"), (0x1FABF, "Zyyy"),
   (0x1FAC6, "Zzzz"), (0x1FACE, "Zyyy"), (0x1FADC, "Zzzz"), (0x1FAE0, "Zyyy"), (0x1FAE9, "Zzzz"),
   (0x1FAF0, "Zyyy"), (0x1FAF9, "Zzzz"), (0x1FB00, "Zyyy"), (0x1FB93, "Zzzz"), (0x1FB94, "Zyyy"),
   (0x1FBCB, "Zzzz"), (0x1FBF0, "Zyyy"), (0x1FBFA, "Zzzz"), (0x20000, "Hani"), (0x2A6E0, "Zzzz"),
   (0x2A700, "Hani"), (0x2B73A, "Zzzz"), (0x2B740, "Hani"), (0x2B81E, "Zzzz"), (0x2B820, "Hani"),
   (0x2CEA2, "Zzzz"), (0x2CEB0, "Hani"), (0x2EBE1, "Zzzz"), (0x2F800, "Hani"), (0x2FA1E, "Zzzz"),
   (0x30000, "Hani"), (0x3134B, "Zzzz"), (0x31350, "Hani"), (0x323B0, "Zzzz"), (0xE0001, "Zyyy"),
   (0xE0002, "Zzzz"), (0xE0020, "Zyyy"), (0xE0080, "Zzzz"), (0xE0100, "Zinh"), (0xE01F0, "Zzzz"),
   (0x110000, "Zzzz")]

/-- The script of a character. -/
def of (c : Char) : Script := ⟨changes.valueFor c.toNat "Zzzz"⟩

/-- The characters that are used with several scripts, or with another one than their own, and the codes
of these scripts. -/
def extensions : List ((Nat × Nat) × List String) := [
  ((0x342, 0x342), ["Grek"]), ((0x345, 0x345), ["Grek"]), ((0x363, 0x36F), ["Latn"]),
   ((0x483, 0x483), ["Cyrl", "Perm"]), ((0x484, 0x484), ["Cyrl", "Glag"]),
   ((0x485, 0x486), ["Cyrl", "Latn"]), ((0x487, 0x487), ["Cyrl", "Glag"]),
   ((0x60C, 0x60C), ["Arab", "Nkoo", "Rohg", "Syrc", "Thaa", "Yezi"]),
   ((0x61B, 0x61B), ["Arab", "Nkoo", "Rohg", "Syrc", "Thaa", "Yezi"]),
   ((0x61C, 0x61C), ["Arab", "Syrc", "Thaa"]),
   ((0x61F, 0x61F), ["Adlm", "Arab", "Nkoo", "Rohg", "Syrc", "Thaa", "Yezi"]), ((0x640, 0x640), ["Adlm",
   "Arab", "Mand", "Mani", "Ougr", "Phlp", "Rohg", "Sogd", "Syrc"]), ((0x64B, 0x655), ["Arab", "Syrc"]),
   ((0x660, 0x669), ["Arab", "Thaa", "Yezi"]), ((0x670, 0x670), ["Arab", "Syrc"]),
   ((0x6D4, 0x6D4), ["Arab", "Rohg"]), ((0x951, 0x951), ["Beng", "Deva", "Gran", "Gujr", "Guru", "Knda",
   "Latn", "Mlym", "Orya", "Shrd", "Taml", "Telu", "Tirh"]), ((0x952, 0x952), ["Beng", "Deva", "Gran",
   "Gujr", "Guru", "Knda", "Latn", "Mlym", "Orya", "Taml", "Telu", "Tirh"]), ((0x964, 0x964), ["Beng",
   "Deva", "Dogr", "Gong", "Gonm", "Gran", "Gujr", "Guru", "Knda", "Mahj", "Mlym", "Nand", "Orya",
   "Sind", "Sinh", "Sylo", "Takr", "Taml", "Telu", "Tirh"]), ((0x965, 0x965), ["Beng", "Deva", "Dogr",
   "Gong", "Gonm", "Gran", "Gujr", "Guru", "Knda", "Limb", "Mahj", "Mlym", "Nand", "Orya", "Sind",
   "Sinh", "Sylo", "Takr", "Taml", "Telu", "Tirh"]), ((0x966, 0x96F), ["Deva", "Dogr", "Kthi", "Mahj"]),
   ((0x9E6, 0x9EF), ["Beng", "Cakm", "Sylo"]), ((0xA66, 0xA6F), ["Guru", "Mult"]),
   ((0xAE6, 0xAEF), ["Gujr", "Khoj"]), ((0xBE6, 0xBF3), ["Gran", "Taml"]),
   ((0xCE6, 0xCEF), ["Knda", "Nand"]), ((0x1040, 0x1049), ["Cakm", "Mymr", "Tale"]),
   ((0x10FB, 0x10FB), ["Geor", "Latn"]), ((0x1735, 0x1736), ["Buhd", "Hano", "Tagb", "Tglg"]),
   ((0x1802, 0x1803), ["Mong", "Phag"]), ((0x1805, 0x1805), ["Mong", "Phag"]),
   ((0x1CD0, 0x1CD0), ["Beng", "Deva", "Gran", "Knda"]), ((0x1CD1, 0x1CD1), ["Deva"]),
   ((0x1CD2, 0x1CD2), ["Beng", "Deva", "Gran", "Knda"]), ((0x1CD3, 0x1CD3), ["Deva", "Gran"]),
   ((0x1CD4, 0x1CD4), ["Deva"]), ((0x1CD5, 0x1CD6), ["Beng", "Deva"]),
   ((0x1CD7, 0x1CD7), ["Deva", "Shrd"]), ((0x1CD8, 0x1CD8), ["Beng", "Deva"]),
   ((0x1CD9, 0x1CD9), ["Deva", "Shrd"]),
   ((0x1CDA, 0x1CDA), ["Deva", "Knda", "Mlym", "Orya", "Taml", "Telu"]), ((0x1CDB, 0x1CDB), ["Deva"]),
   ((0x1CDC, 0x1CDD), ["Deva", "Shrd"]), ((0x1CDE, 0x1CDF), ["Deva"]),
   ((0x1CE0, 0x1CE0), ["Deva", "Shrd"]), ((0x1CE1, 0x1CE1), ["Beng", "Deva"]),
   ((0x1CE2, 0x1CE8), ["Deva"]), ((0x1CE9, 0x1CE9), ["Deva", "Nand"]),
   ((0x1CEA, 0x1CEA), ["Beng", "Deva"]), ((0x1CEB, 0x1CEC), ["Deva"]),
   ((0x1CED, 0x1CED), ["Beng", "Deva"]), ((0x1CEE, 0x1CF1), ["Deva"]),
   ((0x1CF2, 0x1CF2), ["Beng", "Deva", "Gran", "Knda", "Nand", "Orya", "Telu", "Tirh"]),
   ((0x1CF3, 0x1CF3), ["Deva", "Gran"]), ((0x1CF4, 0x1CF4), ["Deva", "Gran", "Knda"]),
   ((0x1CF5, 0x1CF6), ["Beng", "Deva"]), ((0x1CF7, 0x1CF7), ["Beng"]),
   ((0x1CF8, 0x1CF9), ["Deva", "Gran"]), ((0x1CFA, 0x1CFA), ["Nand"]), ((0x1DC0, 0x1DC1), ["Grek"]),
   ((0x1DF8, 0x1DF8), ["Cyrl", "Syrc"]), ((0x1DFA, 0x1DFA), ["Syrc"]),
   ((0x202F, 0x202F), ["Latn", "Mong"]), ((0x20F0, 0x20F0), ["Deva", "Gran", "Latn"]),
   ((0x2E43, 0x2E43), ["Cyrl", "Glag"]),
   ((0x3001, 0x3002), ["Bopo", "Hang", "Hani", "Hira", "Kana", "Yiii"]),
   ((0x3003, 0x3003), ["Bopo", "Hang", "Hani", "Hira", "Kana"]), ((0x3006, 0x3006), ["Hani"]),
   ((0x3008, 0x3011), ["Bopo", "Hang", "Hani", "Hira", "Kana", "Yiii"]),
   ((0x3013, 0x3013), ["Bopo", "Hang", "Hani", "Hira", "Kana"]),
   ((0x3014, 0x301B), ["Bopo", "Hang", "Hani", "Hira", "Kana", "Yiii"]),
   ((0x301C, 0x301F), ["Bopo", "Hang", "Hani", "Hira", "Kana"]), ((0x302A, 0x302D), ["Bopo", "Hani"]),
   ((0x3030, 0x3030), ["Bopo", "Hang", "Hani", "Hira", "Kana"]), ((0x3031, 0x3035), ["Hira", "Kana"]),
   ((0x3037, 0x3037), ["Bopo", "Hang", "Hani", "Hira", "Kana"]),
   ((0x303C, 0x303D), ["Hani", "Hira", "Kana"]), ((0x303E, 0x303F), ["Hani"]),
   ((0x3099, 0x309C), ["Hira", "Kana"]), ((0x30A0, 0x30A0), ["Hira", "Kana"]),
   ((0x30FB, 0x30FB), ["Bopo", "Hang", "Hani", "Hira", "Kana", "Yiii"]),
   ((0x30FC, 0x30FC), ["Hira", "Kana"]), ((0x3190, 0x319F), ["Hani"]), ((0x31C0, 0x31E3), ["Hani"]),
   ((0x3220, 0x3247), ["Hani"]), ((0x3280, 0x32B0), ["Hani"]), ((0x32C0, 0x32CB), ["Hani"]),
   ((0x32FF, 0x32FF), ["Hani"]), ((0x3358, 0x3370), ["Hani"]), ((0x337B, 0x337F), ["Hani"]),
   ((0x33E0, 0x33FE), ["Hani"]), ((0xA66F, 0xA66F), ["Cyrl", "Glag"]),
   ((0xA700, 0xA707), ["Hani", "Latn"]), ((0xA830, 0xA832), ["Deva", "Dogr", "Gujr", "Guru", "Khoj",
   "Knda", "Kthi", "Mahj", "Mlym", "Modi", "Nand", "Sind", "Takr", "Tirh"]), ((0xA833, 0xA835), ["Deva",
   "Dogr", "Gujr", "Guru", "Khoj", "Knda", "Kthi", "Mahj", "Modi", "Nand", "Sind", "Takr", "Tirh"]),
   ((0xA836, 0xA839), ["Deva", "Dogr", "Gujr", "Guru", "Khoj", "Kthi", "Mahj", "Modi", "Sind", "Takr",
   "Tirh"]), ((0xA8F1, 0xA8F1), ["Beng", "Deva"]), ((0xA8F3, 0xA8F3), ["Deva", "Taml"]),
   ((0xA92E, 0xA92E), ["Kali", "Latn", "Mymr"]), ((0xA9CF, 0xA9CF), ["Bugi", "Java"]),
   ((0xFD3E, 0xFD3F), ["Arab", "Nkoo"]), ((0xFDF2, 0xFDF2), ["Arab", "Thaa"]),
   ((0xFDFD, 0xFDFD), ["Arab", "Thaa"]), ((0xFE45, 0xFE46), ["Bopo", "Hang", "Hani", "Hira", "Kana"]),
   ((0xFF61, 0xFF65), ["Bopo", "Hang", "Hani", "Hira", "Kana", "Yiii"]),
   ((0xFF70, 0xFF70), ["Hira", "Kana"]), ((0xFF9E, 0xFF9F), ["Hira", "Kana"]),
   ((0x10100, 0x10101), ["Cpmn", "Cprt", "Linb"]), ((0x10102, 0x10102), ["Cprt", "Linb"]),
   ((0x10107, 0x10133), ["Cprt", "Lina", "Linb"]), ((0x10137, 0x1013F), ["Cprt", "Linb"]),
   ((0x102E0, 0x102FB), ["Arab", "Copt"]), ((0x10AF2, 0x10AF2), ["Mani", "Ougr"]),
   ((0x11301, 0x11301), ["Gran", "Taml"]), ((0x11303, 0x11303), ["Gran", "Taml"]),
   ((0x1133B, 0x1133C), ["Gran", "Taml"]), ((0x11FD0, 0x11FD1), ["Gran", "Taml"]),
   ((0x11FD3, 0x11FD3), ["Gran", "Taml"]), ((0x1BCA0, 0x1BCA3), ["Dupl"]),
   ((0x1D360, 0x1D371), ["Hani"]), ((0x1F250, 0x1F251), ["Hani"])]

/-- Whether a character is used with a script. -/
def isUsedWith (script : Script) (c : Char) : Bool :=
  match extensions.find? fun entry => entry.1.1 ≤ c.toNat && c.toNat ≤ entry.1.2 with
  | some entry => entry.2.contains script.code
  | none => of c = script

end Script

end MetricBench.Unicode
