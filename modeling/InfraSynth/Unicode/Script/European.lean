import InfraSynth.Unicode.Ranges

/-!
# European and American scripts

The characters of each script, as Unicode 16 lists them.
-/

namespace InfraSynth.Unicode.Script

/-! ## European scripts -/

/-- Characters of the script Armenian. -/
def armenian : Ranges := [(0x531, 0x556), (0x559, 0x58A), (0x58D, 0x58F), (0xFB13, 0xFB17)]

/-- Characters of the script Carian. -/
def carian : Ranges := [(0x102A0, 0x102D0)]

/-- Characters of the script Caucasian Albanian. -/
def caucasianAlbanian : Ranges := [(0x10530, 0x10563), (0x1056F, 0x1056F)]

/-- Characters of the script Cypriot. -/
def cypriot : Ranges := [
  (0x10800, 0x10805), (0x10808, 0x10808), (0x1080A, 0x10835), (0x10837, 0x10838),
  (0x1083C, 0x1083C), (0x1083F, 0x1083F)]

/-- Characters of the script Cypro Minoan. -/
def cyproMinoan : Ranges := [(0x12F90, 0x12FF2)]

/-- Characters of the script Cyrillic. -/
def cyrillic : Ranges := [
  (0x400, 0x484), (0x487, 0x52F), (0x1C80, 0x1C8A), (0x1D2B, 0x1D2B), (0x1D78, 0x1D78),
  (0x2DE0, 0x2DFF), (0xA640, 0xA69F), (0xFE2E, 0xFE2F), (0x1E030, 0x1E06D), (0x1E08F, 0x1E08F)]

/-- Characters of the script Duployan. -/
def duployan : Ranges := [
  (0x1BC00, 0x1BC6A), (0x1BC70, 0x1BC7C), (0x1BC80, 0x1BC88), (0x1BC90, 0x1BC99),
  (0x1BC9C, 0x1BC9F)]

/-- Characters of the script Elbasan. -/
def elbasan : Ranges := [(0x10500, 0x10527)]

/-- Characters of the script Georgian. -/
def georgian : Ranges := [
  (0x10A0, 0x10C5), (0x10C7, 0x10C7), (0x10CD, 0x10CD), (0x10D0, 0x10FA), (0x10FC, 0x10FF),
  (0x1C90, 0x1CBA), (0x1CBD, 0x1CBF), (0x2D00, 0x2D25), (0x2D27, 0x2D27), (0x2D2D, 0x2D2D)]

/-- Characters of the script Glagolitic. -/
def glagolitic : Ranges := [
  (0x2C00, 0x2C5F), (0x1E000, 0x1E006), (0x1E008, 0x1E018), (0x1E01B, 0x1E021), (0x1E023, 0x1E024),
  (0x1E026, 0x1E02A)]

/-- Characters of the script Gothic. -/
def gothic : Ranges := [(0x10330, 0x1034A)]

/-- Characters of the script Greek. -/
def greek : Ranges := [
  (0x370, 0x373), (0x375, 0x377), (0x37A, 0x37D), (0x37F, 0x37F), (0x384, 0x384), (0x386, 0x386),
  (0x388, 0x38A), (0x38C, 0x38C), (0x38E, 0x3A1), (0x3A3, 0x3E1), (0x3F0, 0x3FF), (0x1D26, 0x1D2A),
  (0x1D5D, 0x1D61), (0x1D66, 0x1D6A), (0x1DBF, 0x1DBF), (0x1F00, 0x1F15), (0x1F18, 0x1F1D),
  (0x1F20, 0x1F45), (0x1F48, 0x1F4D), (0x1F50, 0x1F57), (0x1F59, 0x1F59), (0x1F5B, 0x1F5B),
  (0x1F5D, 0x1F5D), (0x1F5F, 0x1F7D), (0x1F80, 0x1FB4), (0x1FB6, 0x1FC4), (0x1FC6, 0x1FD3),
  (0x1FD6, 0x1FDB), (0x1FDD, 0x1FEF), (0x1FF2, 0x1FF4), (0x1FF6, 0x1FFE), (0x2126, 0x2126),
  (0xAB65, 0xAB65), (0x10140, 0x1018E), (0x101A0, 0x101A0), (0x1D200, 0x1D245)]

/-- Characters of the script Latin. -/
def latin : Ranges := [
  (0x41, 0x5A), (0x61, 0x7A), (0xAA, 0xAA), (0xBA, 0xBA), (0xC0, 0xD6), (0xD8, 0xF6), (0xF8, 0x2B8),
  (0x2E0, 0x2E4), (0x1D00, 0x1D25), (0x1D2C, 0x1D5C), (0x1D62, 0x1D65), (0x1D6B, 0x1D77),
  (0x1D79, 0x1DBE), (0x1E00, 0x1EFF), (0x2071, 0x2071), (0x207F, 0x207F), (0x2090, 0x209C),
  (0x212A, 0x212B), (0x2132, 0x2132), (0x214E, 0x214E), (0x2160, 0x2188), (0x2C60, 0x2C7F),
  (0xA722, 0xA787), (0xA78B, 0xA7CD), (0xA7D0, 0xA7D1), (0xA7D3, 0xA7D3), (0xA7D5, 0xA7DC),
  (0xA7F2, 0xA7FF), (0xAB30, 0xAB5A), (0xAB5C, 0xAB64), (0xAB66, 0xAB69), (0xFB00, 0xFB06),
  (0xFF21, 0xFF3A), (0xFF41, 0xFF5A), (0x10780, 0x10785), (0x10787, 0x107B0), (0x107B2, 0x107BA),
  (0x1DF00, 0x1DF1E), (0x1DF25, 0x1DF2A)]

/-- Characters of the script Linear A. -/
def linearA : Ranges := [(0x10600, 0x10736), (0x10740, 0x10755), (0x10760, 0x10767)]

/-- Characters of the script Linear B. -/
def linearB : Ranges := [
  (0x10000, 0x1000B), (0x1000D, 0x10026), (0x10028, 0x1003A), (0x1003C, 0x1003D),
  (0x1003F, 0x1004D), (0x10050, 0x1005D), (0x10080, 0x100FA)]

/-- Characters of the script Lycian. -/
def lycian : Ranges := [(0x10280, 0x1029C)]

/-- Characters of the script Lydian. -/
def lydian : Ranges := [(0x10920, 0x10939), (0x1093F, 0x1093F)]

/-- Characters of the script Ogham. -/
def ogham : Ranges := [(0x1680, 0x169C)]

/-- Characters of the script Old Hungarian. -/
def oldHungarian : Ranges := [(0x10C80, 0x10CB2), (0x10CC0, 0x10CF2), (0x10CFA, 0x10CFF)]

/-- Characters of the script Old Italic. -/
def oldItalic : Ranges := [(0x10300, 0x10323), (0x1032D, 0x1032F)]

/-- Characters of the script Old Permic. -/
def oldPermic : Ranges := [(0x10350, 0x1037A)]

/-- Characters of the script Runic. -/
def runic : Ranges := [(0x16A0, 0x16EA), (0x16EE, 0x16F8)]

/-- Characters of the script Shavian. -/
def shavian : Ranges := [(0x10450, 0x1047F)]

/-- Characters of the script Todhri. -/
def todhri : Ranges := [(0x105C0, 0x105F3)]

/-- Characters of the script Vithkuqi. -/
def vithkuqi : Ranges := [
  (0x10570, 0x1057A), (0x1057C, 0x1058A), (0x1058C, 0x10592), (0x10594, 0x10595),
  (0x10597, 0x105A1), (0x105A3, 0x105B1), (0x105B3, 0x105B9), (0x105BB, 0x105BC)]

/-! ## American scripts -/

/-- Characters of the script Canadian Aboriginal. -/
def canadianAboriginal : Ranges := [(0x1400, 0x167F), (0x18B0, 0x18F5), (0x11AB0, 0x11ABF)]

/-- Characters of the script Cherokee. -/
def cherokee : Ranges := [(0x13A0, 0x13F5), (0x13F8, 0x13FD), (0xAB70, 0xABBF)]

/-- Characters of the script Deseret. -/
def deseret : Ranges := [(0x10400, 0x1044F)]

/-- Characters of the script Osage. -/
def osage : Ranges := [(0x104B0, 0x104D3), (0x104D8, 0x104FB)]

end InfraSynth.Unicode.Script
