import InfraSynth.Unicode.Ranges

/-!
# South Asian scripts

The characters of each script, as Unicode 16 lists them.
-/

namespace InfraSynth.Unicode.Script

/-- Characters of the script Bengali. -/
def bengali : Ranges := [
  (0x980, 0x983), (0x985, 0x98C), (0x98F, 0x990), (0x993, 0x9A8), (0x9AA, 0x9B0), (0x9B2, 0x9B2),
  (0x9B6, 0x9B9), (0x9BC, 0x9C4), (0x9C7, 0x9C8), (0x9CB, 0x9CE), (0x9D7, 0x9D7), (0x9DC, 0x9DD),
  (0x9DF, 0x9E3), (0x9E6, 0x9FE)]

/-- Characters of the script Brahmi. -/
def brahmi : Ranges := [(0x11000, 0x1104D), (0x11052, 0x11075), (0x1107F, 0x1107F)]

/-- Characters of the script Chakma. -/
def chakma : Ranges := [(0x11100, 0x11134), (0x11136, 0x11147)]

/-- Characters of the script Devanagari. -/
def devanagari : Ranges := [
  (0x900, 0x950), (0x955, 0x963), (0x966, 0x97F), (0xA8E0, 0xA8FF), (0x11B00, 0x11B09)]

/-- Characters of the script Dives Akuru. -/
def divesAkuru : Ranges := [
  (0x11900, 0x11906), (0x11909, 0x11909), (0x1190C, 0x11913), (0x11915, 0x11916),
  (0x11918, 0x11935), (0x11937, 0x11938), (0x1193B, 0x11946), (0x11950, 0x11959)]

/-- Characters of the script Dogra. -/
def dogra : Ranges := [(0x11800, 0x1183B)]

/-- Characters of the script Grantha. -/
def grantha : Ranges := [
  (0x11300, 0x11303), (0x11305, 0x1130C), (0x1130F, 0x11310), (0x11313, 0x11328),
  (0x1132A, 0x11330), (0x11332, 0x11333), (0x11335, 0x11339), (0x1133C, 0x11344),
  (0x11347, 0x11348), (0x1134B, 0x1134D), (0x11350, 0x11350), (0x11357, 0x11357),
  (0x1135D, 0x11363), (0x11366, 0x1136C), (0x11370, 0x11374)]

/-- Characters of the script Gujarati. -/
def gujarati : Ranges := [
  (0xA81, 0xA83), (0xA85, 0xA8D), (0xA8F, 0xA91), (0xA93, 0xAA8), (0xAAA, 0xAB0), (0xAB2, 0xAB3),
  (0xAB5, 0xAB9), (0xABC, 0xAC5), (0xAC7, 0xAC9), (0xACB, 0xACD), (0xAD0, 0xAD0), (0xAE0, 0xAE3),
  (0xAE6, 0xAF1), (0xAF9, 0xAFF)]

/-- Characters of the script Gunjala Gondi. -/
def gunjalaGondi : Ranges := [
  (0x11D60, 0x11D65), (0x11D67, 0x11D68), (0x11D6A, 0x11D8E), (0x11D90, 0x11D91),
  (0x11D93, 0x11D98), (0x11DA0, 0x11DA9)]

/-- Characters of the script Gurmukhi. -/
def gurmukhi : Ranges := [
  (0xA01, 0xA03), (0xA05, 0xA0A), (0xA0F, 0xA10), (0xA13, 0xA28), (0xA2A, 0xA30), (0xA32, 0xA33),
  (0xA35, 0xA36), (0xA38, 0xA39), (0xA3C, 0xA3C), (0xA3E, 0xA42), (0xA47, 0xA48), (0xA4B, 0xA4D),
  (0xA51, 0xA51), (0xA59, 0xA5C), (0xA5E, 0xA5E), (0xA66, 0xA76)]

/-- Characters of the script Gurung Khema. -/
def gurungKhema : Ranges := [(0x16100, 0x16139)]

/-- Characters of the script Kaithi. -/
def kaithi : Ranges := [(0x11080, 0x110C2), (0x110CD, 0x110CD)]

/-- Characters of the script Kannada. -/
def kannada : Ranges := [
  (0xC80, 0xC8C), (0xC8E, 0xC90), (0xC92, 0xCA8), (0xCAA, 0xCB3), (0xCB5, 0xCB9), (0xCBC, 0xCC4),
  (0xCC6, 0xCC8), (0xCCA, 0xCCD), (0xCD5, 0xCD6), (0xCDD, 0xCDE), (0xCE0, 0xCE3), (0xCE6, 0xCEF),
  (0xCF1, 0xCF3)]

/-- Characters of the script Khojki. -/
def khojki : Ranges := [(0x11200, 0x11211), (0x11213, 0x11241)]

/-- Characters of the script Khudawadi. -/
def khudawadi : Ranges := [(0x112B0, 0x112EA), (0x112F0, 0x112F9)]

/-- Characters of the script Kirat Rai. -/
def kiratRai : Ranges := [(0x16D40, 0x16D79)]

/-- Characters of the script Lepcha. -/
def lepcha : Ranges := [(0x1C00, 0x1C37), (0x1C3B, 0x1C49), (0x1C4D, 0x1C4F)]

/-- Characters of the script Limbu. -/
def limbu : Ranges := [
  (0x1900, 0x191E), (0x1920, 0x192B), (0x1930, 0x193B), (0x1940, 0x1940), (0x1944, 0x194F)]

/-- Characters of the script Mahajani. -/
def mahajani : Ranges := [(0x11150, 0x11176)]

/-- Characters of the script Malayalam. -/
def malayalam : Ranges := [
  (0xD00, 0xD0C), (0xD0E, 0xD10), (0xD12, 0xD44), (0xD46, 0xD48), (0xD4A, 0xD4F), (0xD54, 0xD63),
  (0xD66, 0xD7F)]

/-- Characters of the script Masaram Gondi. -/
def masaramGondi : Ranges := [
  (0x11D00, 0x11D06), (0x11D08, 0x11D09), (0x11D0B, 0x11D36), (0x11D3A, 0x11D3A),
  (0x11D3C, 0x11D3D), (0x11D3F, 0x11D47), (0x11D50, 0x11D59)]

/-- Characters of the script Meetei Mayek. -/
def meeteiMayek : Ranges := [(0xAAE0, 0xAAF6), (0xABC0, 0xABED), (0xABF0, 0xABF9)]

/-- Characters of the script Modi. -/
def modi : Ranges := [(0x11600, 0x11644), (0x11650, 0x11659)]

/-- Characters of the script Mro. -/
def mro : Ranges := [(0x16A40, 0x16A5E), (0x16A60, 0x16A69), (0x16A6E, 0x16A6F)]

/-- Characters of the script Multani. -/
def multani : Ranges := [
  (0x11280, 0x11286), (0x11288, 0x11288), (0x1128A, 0x1128D), (0x1128F, 0x1129D),
  (0x1129F, 0x112A9)]

/-- Characters of the script Nag Mundari. -/
def nagMundari : Ranges := [(0x1E4D0, 0x1E4F9)]

/-- Characters of the script Nandinagari. -/
def nandinagari : Ranges := [(0x119A0, 0x119A7), (0x119AA, 0x119D7), (0x119DA, 0x119E4)]

/-- Characters of the script Newa. -/
def newa : Ranges := [(0x11400, 0x1145B), (0x1145D, 0x11461)]

/-- Characters of the script Ol Chiki. -/
def olChiki : Ranges := [(0x1C50, 0x1C7F)]

/-- Characters of the script Ol Onal. -/
def olOnal : Ranges := [(0x1E5D0, 0x1E5FA), (0x1E5FF, 0x1E5FF)]

/-- Characters of the script Oriya. -/
def oriya : Ranges := [
  (0xB01, 0xB03), (0xB05, 0xB0C), (0xB0F, 0xB10), (0xB13, 0xB28), (0xB2A, 0xB30), (0xB32, 0xB33),
  (0xB35, 0xB39), (0xB3C, 0xB44), (0xB47, 0xB48), (0xB4B, 0xB4D), (0xB55, 0xB57), (0xB5C, 0xB5D),
  (0xB5F, 0xB63), (0xB66, 0xB77)]

/-- Characters of the script Saurashtra. -/
def saurashtra : Ranges := [(0xA880, 0xA8C5), (0xA8CE, 0xA8D9)]

/-- Characters of the script Sharada. -/
def sharada : Ranges := [(0x11180, 0x111DF)]

/-- Characters of the script Siddham. -/
def siddham : Ranges := [(0x11580, 0x115B5), (0x115B8, 0x115DD)]

/-- Characters of the script Sinhala. -/
def sinhala : Ranges := [
  (0xD81, 0xD83), (0xD85, 0xD96), (0xD9A, 0xDB1), (0xDB3, 0xDBB), (0xDBD, 0xDBD), (0xDC0, 0xDC6),
  (0xDCA, 0xDCA), (0xDCF, 0xDD4), (0xDD6, 0xDD6), (0xDD8, 0xDDF), (0xDE6, 0xDEF), (0xDF2, 0xDF4),
  (0x111E1, 0x111F4)]

/-- Characters of the script Sora Sompeng. -/
def soraSompeng : Ranges := [(0x110D0, 0x110E8), (0x110F0, 0x110F9)]

/-- Characters of the script Sunuwar. -/
def sunuwar : Ranges := [(0x11BC0, 0x11BE1), (0x11BF0, 0x11BF9)]

/-- Characters of the script Syloti Nagri. -/
def sylotiNagri : Ranges := [(0xA800, 0xA82C)]

/-- Characters of the script Takri. -/
def takri : Ranges := [(0x11680, 0x116B9), (0x116C0, 0x116C9)]

/-- Characters of the script Tamil. -/
def tamil : Ranges := [
  (0xB82, 0xB83), (0xB85, 0xB8A), (0xB8E, 0xB90), (0xB92, 0xB95), (0xB99, 0xB9A), (0xB9C, 0xB9C),
  (0xB9E, 0xB9F), (0xBA3, 0xBA4), (0xBA8, 0xBAA), (0xBAE, 0xBB9), (0xBBE, 0xBC2), (0xBC6, 0xBC8),
  (0xBCA, 0xBCD), (0xBD0, 0xBD0), (0xBD7, 0xBD7), (0xBE6, 0xBFA), (0x11FC0, 0x11FF1),
  (0x11FFF, 0x11FFF)]

/-- Characters of the script Tangsa. -/
def tangsa : Ranges := [(0x16A70, 0x16ABE), (0x16AC0, 0x16AC9)]

/-- Characters of the script Telugu. -/
def telugu : Ranges := [
  (0xC00, 0xC0C), (0xC0E, 0xC10), (0xC12, 0xC28), (0xC2A, 0xC39), (0xC3C, 0xC44), (0xC46, 0xC48),
  (0xC4A, 0xC4D), (0xC55, 0xC56), (0xC58, 0xC5A), (0xC5D, 0xC5D), (0xC60, 0xC63), (0xC66, 0xC6F),
  (0xC77, 0xC7F)]

/-- Characters of the script Thaana. -/
def thaana : Ranges := [(0x780, 0x7B1)]

/-- Characters of the script Tirhuta. -/
def tirhuta : Ranges := [(0x11480, 0x114C7), (0x114D0, 0x114D9)]

/-- Characters of the script Toto. -/
def toto : Ranges := [(0x1E290, 0x1E2AE)]

/-- Characters of the script Tulu Tigalari. -/
def tuluTigalari : Ranges := [
  (0x11380, 0x11389), (0x1138B, 0x1138B), (0x1138E, 0x1138E), (0x11390, 0x113B5),
  (0x113B7, 0x113C0), (0x113C2, 0x113C2), (0x113C5, 0x113C5), (0x113C7, 0x113CA),
  (0x113CC, 0x113D5), (0x113D7, 0x113D8), (0x113E1, 0x113E2)]

/-- Characters of the script Wancho. -/
def wancho : Ranges := [(0x1E2C0, 0x1E2F9), (0x1E2FF, 0x1E2FF)]

/-- Characters of the script Warang Citi. -/
def warangCiti : Ranges := [(0x118A0, 0x118F2), (0x118FF, 0x118FF)]

end InfraSynth.Unicode.Script
