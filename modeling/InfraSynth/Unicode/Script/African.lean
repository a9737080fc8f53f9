import InfraSynth.Unicode.Ranges

/-!
# African and Middle Eastern scripts

The characters of each script, as Unicode 16 lists them.
-/

namespace InfraSynth.Unicode.Script

/-! ## African scripts -/

/-- Characters of the script Adlam. -/
def adlam : Ranges := [(0x1E900, 0x1E94B), (0x1E950, 0x1E959), (0x1E95E, 0x1E95F)]

/-- Characters of the script Bamum. -/
def bamum : Ranges := [(0xA6A0, 0xA6F7), (0x16800, 0x16A38)]

/-- Characters of the script Bassa Vah. -/
def bassaVah : Ranges := [(0x16AD0, 0x16AED), (0x16AF0, 0x16AF5)]

/-- Characters of the script Coptic. -/
def coptic : Ranges := [(0x3E2, 0x3EF), (0x2C80, 0x2CF3), (0x2CF9, 0x2CFF)]

/-- Characters of the script Egyptian Hieroglyphs. -/
def egyptianHieroglyphs : Ranges := [(0x13000, 0x13455), (0x13460, 0x143FA)]

/-- Characters of the script Ethiopic. -/
def ethiopic : Ranges := [
  (0x1200, 0x1248), (0x124A, 0x124D), (0x1250, 0x1256), (0x1258, 0x1258), (0x125A, 0x125D),
  (0x1260, 0x1288), (0x128A, 0x128D), (0x1290, 0x12B0), (0x12B2, 0x12B5), (0x12B8, 0x12BE),
  (0x12C0, 0x12C0), (0x12C2, 0x12C5), (0x12C8, 0x12D6), (0x12D8, 0x1310), (0x1312, 0x1315),
  (0x1318, 0x135A), (0x135D, 0x137C), (0x1380, 0x1399), (0x2D80, 0x2D96), (0x2DA0, 0x2DA6),
  (0x2DA8, 0x2DAE), (0x2DB0, 0x2DB6), (0x2DB8, 0x2DBE), (0x2DC0, 0x2DC6), (0x2DC8, 0x2DCE),
  (0x2DD0, 0x2DD6), (0x2DD8, 0x2DDE), (0xAB01, 0xAB06), (0xAB09, 0xAB0E), (0xAB11, 0xAB16),
  (0xAB20, 0xAB26), (0xAB28, 0xAB2E), (0x1E7E0, 0x1E7E6), (0x1E7E8, 0x1E7EB), (0x1E7ED, 0x1E7EE),
  (0x1E7F0, 0x1E7FE)]

/-- Characters of the script Garay. -/
def garay : Ranges := [(0x10D40, 0x10D65), (0x10D69, 0x10D85), (0x10D8E, 0x10D8F)]

/-- Characters of the script Medefaidrin. -/
def medefaidrin : Ranges := [(0x16E40, 0x16E9A)]

/-- Characters of the script Mende Kikakui. -/
def mendeKikakui : Ranges := [(0x1E800, 0x1E8C4), (0x1E8C7, 0x1E8D6)]

/-- Characters of the script Meroitic Cursive. -/
def meroiticCursive : Ranges := [(0x109A0, 0x109B7), (0x109BC, 0x109CF), (0x109D2, 0x109FF)]

/-- Characters of the script Meroitic Hieroglyphs. -/
def meroiticHieroglyphs : Ranges := [(0x10980, 0x1099F)]

/-- Characters of the script Nko. -/
def nko : Ranges := [(0x7C0, 0x7FA), (0x7FD, 0x7FF)]

/-- Characters of the script Osmanya. -/
def osmanya : Ranges := [(0x10480, 0x1049D), (0x104A0, 0x104A9)]

/-- Characters of the script Tifinagh. -/
def tifinagh : Ranges := [(0x2D30, 0x2D67), (0x2D6F, 0x2D70), (0x2D7F, 0x2D7F)]

/-- Characters of the script Vai. -/
def vai : Ranges := [(0xA500, 0xA62B)]

/-! ## Middle Eastern scripts -/

/-- Characters of the script Anatolian Hieroglyphs. -/
def anatolianHieroglyphs : Ranges := [(0x14400, 0x14646)]

/-- Characters of the script Arabic. -/
def arabic : Ranges := [
  (0x600, 0x604), (0x606, 0x60B), (0x60D, 0x61A), (0x61C, 0x61E), (0x620, 0x63F), (0x641, 0x64A),
  (0x656, 0x66F), (0x671, 0x6DC), (0x6DE, 0x6FF), (0x750, 0x77F), (0x870, 0x88E), (0x890, 0x891),
  (0x897, 0x8E1), (0x8E3, 0x8FF), (0xFB50, 0xFBC2), (0xFBD3, 0xFD3D), (0xFD40, 0xFD8F),
  (0xFD92, 0xFDC7), (0xFDCF, 0xFDCF), (0xFDF0, 0xFDFF), (0xFE70, 0xFE74), (0xFE76, 0xFEFC),
  (0x10E60, 0x10E7E), (0x10EC2, 0x10EC4), (0x10EFC, 0x10EFF), (0x1EE00, 0x1EE03),
  (0x1EE05, 0x1EE1F), (0x1EE21, 0x1EE22), (0x1EE24, 0x1EE24), (0x1EE27, 0x1EE27),
  (0x1EE29, 0x1EE32), (0x1EE34, 0x1EE37), (0x1EE39, 0x1EE39), (0x1EE3B, 0x1EE3B),
  (0x1EE42, 0x1EE42), (0x1EE47, 0x1EE47), (0x1EE49, 0x1EE49), (0x1EE4B, 0x1EE4B),
  (0x1EE4D, 0x1EE4F), (0x1EE51, 0x1EE52), (0x1EE54, 0x1EE54), (0x1EE57, 0x1EE57),
  (0x1EE59, 0x1EE59), (0x1EE5B, 0x1EE5B), (0x1EE5D, 0x1EE5D), (0x1EE5F, 0x1EE5F),
  (0x1EE61, 0x1EE62), (0x1EE64, 0x1EE64), (0x1EE67, 0x1EE6A), (0x1EE6C, 0x1EE72),
  (0x1EE74, 0x1EE77), (0x1EE79, 0x1EE7C), (0x1EE7E, 0x1EE7E), (0x1EE80, 0x1EE89),
  (0x1EE8B, 0x1EE9B), (0x1EEA1, 0x1EEA3), (0x1EEA5, 0x1EEA9), (0x1EEAB, 0x1EEBB),
  (0x1EEF0, 0x1EEF1)]

/-- Characters of the script Avestan. -/
def avestan : Ranges := [(0x10B00, 0x10B35), (0x10B39, 0x10B3F)]

/-- Characters of the script Chorasmian. -/
def chorasmian : Ranges := [(0x10FB0, 0x10FCB)]

/-- Characters of the script Cuneiform. -/
def cuneiform : Ranges := [
  (0x12000, 0x12399), (0x12400, 0x1246E), (0x12470, 0x12474), (0x12480, 0x12543)]

/-- Characters of the script Elymaic. -/
def elymaic : Ranges := [(0x10FE0, 0x10FF6)]

/-- Characters of the script Hatran. -/
def hatran : Ranges := [(0x108E0, 0x108F2), (0x108F4, 0x108F5), (0x108FB, 0x108FF)]

/-- Characters of the script Hebrew. -/
def hebrew : Ranges := [
  (0x591, 0x5C7), (0x5D0, 0x5EA), (0x5EF, 0x5F4), (0xFB1D, 0xFB36), (0xFB38, 0xFB3C),
  (0xFB3E, 0xFB3E), (0xFB40, 0xFB41), (0xFB43, 0xFB44), (0xFB46, 0xFB4F)]

/-- Characters of the script Imperial Aramaic. -/
def imperialAramaic : Ranges := [(0x10840, 0x10855), (0x10857, 0x1085F)]

/-- Characters of the script Inscriptional Pahlavi. -/
def inscriptionalPahlavi : Ranges := [(0x10B60, 0x10B72), (0x10B78, 0x10B7F)]

/-- Characters of the script Inscriptional Parthian. -/
def inscriptionalParthian : Ranges := [(0x10B40, 0x10B55), (0x10B58, 0x10B5F)]

/-- Characters of the script Mandaic. -/
def mandaic : Ranges := [(0x840, 0x85B), (0x85E, 0x85E)]

/-- Characters of the script Manichaean. -/
def manichaean : Ranges := [(0x10AC0, 0x10AE6), (0x10AEB, 0x10AF6)]

/-- Characters of the script Nabataean. -/
def nabataean : Ranges := [(0x10880, 0x1089E), (0x108A7, 0x108AF)]

/-- Characters of the script Old North Arabian. -/
def oldNorthArabian : Ranges := [(0x10A80, 0x10A9F)]

/-- Characters of the script Old Persian. -/
def oldPersian : Ranges := [(0x103A0, 0x103C3), (0x103C8, 0x103D5)]

/-- Characters of the script Old South Arabian. -/
def oldSouthArabian : Ranges := [(0x10A60, 0x10A7F)]

/-- Characters of the script Palmyrene. -/
def palmyrene : Ranges := [(0x10860, 0x1087F)]

/-- Characters of the script Phoenician. -/
def phoenician : Ranges := [(0x10900, 0x1091B), (0x1091F, 0x1091F)]

/-- Characters of the script Psalter Pahlavi. -/
def psalterPahlavi : Ranges := [(0x10B80, 0x10B91), (0x10B99, 0x10B9C), (0x10BA9, 0x10BAF)]

/-- Characters of the script Samaritan. -/
def samaritan : Ranges := [(0x800, 0x82D), (0x830, 0x83E)]

/-- Characters of the script Syriac. -/
def syriac : Ranges := [(0x700, 0x70D), (0x70F, 0x74A), (0x74D, 0x74F), (0x860, 0x86A)]

/-- Characters of the script Ugaritic. -/
def ugaritic : Ranges := [(0x10380, 0x1039D), (0x1039F, 0x1039F)]

/-- Characters of the script Yezidi. -/
def yezidi : Ranges := [(0x10E80, 0x10EA9), (0x10EAB, 0x10EAD), (0x10EB0, 0x10EB1)]

end InfraSynth.Unicode.Script
