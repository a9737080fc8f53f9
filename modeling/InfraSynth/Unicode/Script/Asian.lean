import InfraSynth.Unicode.Ranges

/-!
# Scripts of Central, East and Southeast Asia

The characters of each script, as Unicode 16 lists them.
-/

namespace InfraSynth.Unicode.Script

/-! ## Central Asian scripts -/

/-- Characters of the script Bhaiksuki. -/
def bhaiksuki : Ranges := [
  (0x11C00, 0x11C08), (0x11C0A, 0x11C36), (0x11C38, 0x11C45), (0x11C50, 0x11C6C)]

/-- Characters of the script Kharoshthi. -/
def kharoshthi : Ranges := [
  (0x10A00, 0x10A03), (0x10A05, 0x10A06), (0x10A0C, 0x10A13), (0x10A15, 0x10A17),
  (0x10A19, 0x10A35), (0x10A38, 0x10A3A), (0x10A3F, 0x10A48), (0x10A50, 0x10A58)]

/-- Characters of the script Marchen. -/
def marchen : Ranges := [(0x11C70, 0x11C8F), (0x11C92, 0x11CA7), (0x11CA9, 0x11CB6)]

/-- Characters of the script Mongolian. -/
def mongolian : Ranges := [
  (0x1800, 0x1801), (0x1804, 0x1804), (0x1806, 0x1819), (0x1820, 0x1878), (0x1880, 0x18AA),
  (0x11660, 0x1166C)]

/-- Characters of the script Old Sogdian. -/
def oldSogdian : Ranges := [(0x10F00, 0x10F27)]

/-- Characters of the script Old Turkic. -/
def oldTurkic : Ranges := [(0x10C00, 0x10C48)]

/-- Characters of the script Old Uyghur. -/
def oldUyghur : Ranges := [(0x10F70, 0x10F89)]

/-- Characters of the script Phags Pa. -/
def phagsPa : Ranges := [(0xA840, 0xA877)]

/-- Characters of the script Sogdian. -/
def sogdian : Ranges := [(0x10F30, 0x10F59)]

/-- Characters of the script Soyombo. -/
def soyombo : Ranges := [(0x11A50, 0x11AA2)]

/-- Characters of the script Tibetan. -/
def tibetan : Ranges := [
  (0xF00, 0xF47), (0xF49, 0xF6C), (0xF71, 0xF97), (0xF99, 0xFBC), (0xFBE, 0xFCC), (0xFCE, 0xFD4),
  (0xFD9, 0xFDA)]

/-- Characters of the script Zanabazar Square. -/
def zanabazarSquare : Ranges := [(0x11A00, 0x11A47)]

/-! ## East Asian scripts -/

/-- Characters of the script Bopomofo. -/
def bopomofo : Ranges := [(0x2EA, 0x2EB), (0x3105, 0x312F), (0x31A0, 0x31BF)]

/-- Characters of the script Han. -/
def han : Ranges := [
  (0x2E80, 0x2E99), (0x2E9B, 0x2EF3), (0x2F00, 0x2FD5), (0x3005, 0x3005), (0x3007, 0x3007),
  (0x3021, 0x3029), (0x3038, 0x303B), (0x3400, 0x4DBF), (0x4E00, 0x9FFF), (0xF900, 0xFA6D),
  (0xFA70, 0xFAD9), (0x16FE2, 0x16FE3), (0x16FF0, 0x16FF1), (0x20000, 0x2A6DF), (0x2A700, 0x2B739),
  (0x2B740, 0x2B81D), (0x2B820, 0x2CEA1), (0x2CEB0, 0x2EBE0), (0x2EBF0, 0x2EE5D),
  (0x2F800, 0x2FA1D), (0x30000, 0x3134A), (0x31350, 0x323AF)]

/-- Characters of the script Hangul. -/
def hangul : Ranges := [
  (0x1100, 0x11FF), (0x302E, 0x302F), (0x3131, 0x318E), (0x3200, 0x321E), (0x3260, 0x327E),
  (0xA960, 0xA97C), (0xAC00, 0xD7A3), (0xD7B0, 0xD7C6), (0xD7CB, 0xD7FB), (0xFFA0, 0xFFBE),
  (0xFFC2, 0xFFC7), (0xFFCA, 0xFFCF), (0xFFD2, 0xFFD7), (0xFFDA, 0xFFDC)]

/-- Characters of the script Hiragana. -/
def hiragana : Ranges := [
  (0x3041, 0x3096), (0x309D, 0x309F), (0x1B001, 0x1B11F), (0x1B132, 0x1B132), (0x1B150, 0x1B152),
  (0x1F200, 0x1F200)]

/-- Characters of the script Katakana. -/
def katakana : Ranges := [
  (0x30A1, 0x30FA), (0x30FD, 0x30FF), (0x31F0, 0x31FF), (0x32D0, 0x32FE), (0x3300, 0x3357),
  (0xFF66, 0xFF6F), (0xFF71, 0xFF9D), (0x1AFF0, 0x1AFF3), (0x1AFF5, 0x1AFFB), (0x1AFFD, 0x1AFFE),
  (0x1B000, 0x1B000), (0x1B120, 0x1B122), (0x1B155, 0x1B155), (0x1B164, 0x1B167)]

/-- Characters of the script Khitan Small Script. -/
def khitanSmallScript : Ranges := [(0x16FE4, 0x16FE4), (0x18B00, 0x18CD5), (0x18CFF, 0x18CFF)]

/-- Characters of the script Lisu. -/
def lisu : Ranges := [(0xA4D0, 0xA4FF), (0x11FB0, 0x11FB0)]

/-- Characters of the script Miao. -/
def miao : Ranges := [(0x16F00, 0x16F4A), (0x16F4F, 0x16F87), (0x16F8F, 0x16F9F)]

/-- Characters of the script Nushu. -/
def nushu : Ranges := [(0x16FE1, 0x16FE1), (0x1B170, 0x1B2FB)]

/-- Characters of the script Nyiakeng Puachue Hmong. -/
def nyiakengPuachueHmong : Ranges := [
  (0x1E100, 0x1E12C), (0x1E130, 0x1E13D), (0x1E140, 0x1E149), (0x1E14E, 0x1E14F)]

/-- Characters of the script Pahawh Hmong. -/
def pahawhHmong : Ranges := [
  (0x16B00, 0x16B45), (0x16B50, 0x16B59), (0x16B5B, 0x16B61), (0x16B63, 0x16B77),
  (0x16B7D, 0x16B8F)]

/-- Characters of the script Tangut. -/
def tangut : Ranges := [
  (0x16FE0, 0x16FE0), (0x17000, 0x187F7), (0x18800, 0x18AFF), (0x18D00, 0x18D08)]

/-- Characters of the script Yi. -/
def yi : Ranges := [(0xA000, 0xA48C), (0xA490, 0xA4C6)]

/-! ## Southeast Asian scripts -/

/-- Characters of the script Ahom. -/
def ahom : Ranges := [(0x11700, 0x1171A), (0x1171D, 0x1172B), (0x11730, 0x11746)]

/-- Characters of the script Balinese. -/
def balinese : Ranges := [(0x1B00, 0x1B4C), (0x1B4E, 0x1B7F)]

/-- Characters of the script Batak. -/
def batak : Ranges := [(0x1BC0, 0x1BF3), (0x1BFC, 0x1BFF)]

/-- Characters of the script Buginese. -/
def buginese : Ranges := [(0x1A00, 0x1A1B), (0x1A1E, 0x1A1F)]

/-- Characters of the script Buhid. -/
def buhid : Ranges := [(0x1740, 0x1753)]

/-- Characters of the script Cham. -/
def cham : Ranges := [(0xAA00, 0xAA36), (0xAA40, 0xAA4D), (0xAA50, 0xAA59), (0xAA5C, 0xAA5F)]

/-- Characters of the script Hanifi Rohingya. -/
def hanifiRohingya : Ranges := [(0x10D00, 0x10D27), (0x10D30, 0x10D39)]

/-- Characters of the script Hanunoo. -/
def hanunoo : Ranges := [(0x1720, 0x1734)]

/-- Characters of the script Javanese. -/
def javanese : Ranges := [(0xA980, 0xA9CD), (0xA9D0, 0xA9D9), (0xA9DE, 0xA9DF)]

/-- Characters of the script Kawi. -/
def kawi : Ranges := [(0x11F00, 0x11F10), (0x11F12, 0x11F3A), (0x11F3E, 0x11F5A)]

/-- Characters of the script Kayah Li. -/
def kayahLi : Ranges := [(0xA900, 0xA92D), (0xA92F, 0xA92F)]

/-- Characters of the script Khmer. -/
def khmer : Ranges := [(0x1780, 0x17DD), (0x17E0, 0x17E9), (0x17F0, 0x17F9), (0x19E0, 0x19FF)]

/-- Characters of the script Lao. -/
def lao : Ranges := [
  (0xE81, 0xE82), (0xE84, 0xE84), (0xE86, 0xE8A), (0xE8C, 0xEA3), (0xEA5, 0xEA5), (0xEA7, 0xEBD),
  (0xEC0, 0xEC4), (0xEC6, 0xEC6), (0xEC8, 0xECE), (0xED0, 0xED9), (0xEDC, 0xEDF)]

/-- Characters of the script Makasar. -/
def makasar : Ranges := [(0x11EE0, 0x11EF8)]

/-- Characters of the script Myanmar. -/
def myanmar : Ranges := [(0x1000, 0x109F), (0xA9E0, 0xA9FE), (0xAA60, 0xAA7F), (0x116D0, 0x116E3)]

/-- Characters of the script New Tai Lue. -/
def newTaiLue : Ranges := [(0x1980, 0x19AB), (0x19B0, 0x19C9), (0x19D0, 0x19DA), (0x19DE, 0x19DF)]

/-- Characters of the script Pau Cin Hau. -/
def pauCinHau : Ranges := [(0x11AC0, 0x11AF8)]

/-- Characters of the script Rejang. -/
def rejang : Ranges := [(0xA930, 0xA953), (0xA95F, 0xA95F)]

/-- Characters of the script Sundanese. -/
def sundanese : Ranges := [(0x1B80, 0x1BBF), (0x1CC0, 0x1CC7)]

/-- Characters of the script Tagalog. -/
def tagalog : Ranges := [(0x1700, 0x1715), (0x171F, 0x171F)]

/-- Characters of the script Tagbanwa. -/
def tagbanwa : Ranges := [(0x1760, 0x176C), (0x176E, 0x1770), (0x1772, 0x1773)]

/-- Characters of the script Tai Le. -/
def taiLe : Ranges := [(0x1950, 0x196D), (0x1970, 0x1974)]

/-- Characters of the script Tai Tham. -/
def taiTham : Ranges := [
  (0x1A20, 0x1A5E), (0x1A60, 0x1A7C), (0x1A7F, 0x1A89), (0x1A90, 0x1A99), (0x1AA0, 0x1AAD)]

/-- Characters of the script Tai Viet. -/
def taiViet : Ranges := [(0xAA80, 0xAAC2), (0xAADB, 0xAADF)]

/-- Characters of the script Thai. -/
def thai : Ranges := [(0xE01, 0xE3A), (0xE40, 0xE5B)]

end InfraSynth.Unicode.Script
