import InfraSynth.Unicode.Ranges
import InfraSynth.Unicode.Script.African
import InfraSynth.Unicode.Script.Asian
import InfraSynth.Unicode.Script.European
import InfraSynth.Unicode.Script.SouthAsian

/-!
# Scripts

The scripts, each with the names that it goes by: a code of four letters, a name in
full, and sometimes an older code.  Some characters are of no single script, and
others write gestures or are felt.
-/

namespace InfraSynth.Unicode

namespace Script

/-- Characters of Braille. -/
def braille : Ranges := [(0x2800, 0x28FF)]

/-- Characters that many scripts use. -/
def common : Ranges := [
  (0x0, 0x40), (0x5B, 0x60), (0x7B, 0xA9), (0xAB, 0xB9), (0xBB, 0xBF), (0xD7, 0xD7), (0xF7, 0xF7),
  (0x2B9, 0x2DF), (0x2E5, 0x2E9), (0x2EC, 0x2FF), (0x374, 0x374), (0x37E, 0x37E), (0x385, 0x385),
  (0x387, 0x387), (0x605, 0x605), (0x60C, 0x60C), (0x61B, 0x61B), (0x61F, 0x61F), (0x640, 0x640),
  (0x6DD, 0x6DD), (0x8E2, 0x8E2), (0x964, 0x965), (0xE3F, 0xE3F), (0xFD5, 0xFD8), (0x10FB, 0x10FB),
  (0x16EB, 0x16ED), (0x1735, 0x1736), (0x1802, 0x1803), (0x1805, 0x1805), (0x1CD3, 0x1CD3),
  (0x1CE1, 0x1CE1), (0x1CE9, 0x1CEC), (0x1CEE, 0x1CF3), (0x1CF5, 0x1CF7), (0x1CFA, 0x1CFA),
  (0x2000, 0x200B), (0x200E, 0x2064), (0x2066, 0x2070), (0x2074, 0x207E), (0x2080, 0x208E),
  (0x20A0, 0x20C0), (0x2100, 0x2125), (0x2127, 0x2129), (0x212C, 0x2131), (0x2133, 0x214D),
  (0x214F, 0x215F), (0x2189, 0x218B), (0x2190, 0x2429), (0x2440, 0x244A), (0x2460, 0x27FF),
  (0x2900, 0x2B73), (0x2B76, 0x2B95), (0x2B97, 0x2BFF), (0x2E00, 0x2E5D), (0x2FF0, 0x3004),
  (0x3006, 0x3006), (0x3008, 0x3020), (0x3030, 0x3037), (0x303C, 0x303F), (0x309B, 0x309C),
  (0x30A0, 0x30A0), (0x30FB, 0x30FC), (0x3190, 0x319F), (0x31C0, 0x31E5), (0x31EF, 0x31EF),
  (0x3220, 0x325F), (0x327F, 0x32CF), (0x32FF, 0x32FF), (0x3358, 0x33FF), (0x4DC0, 0x4DFF),
  (0xA700, 0xA721), (0xA788, 0xA78A), (0xA830, 0xA839), (0xA92E, 0xA92E), (0xA9CF, 0xA9CF),
  (0xAB5B, 0xAB5B), (0xAB6A, 0xAB6B), (0xFD3E, 0xFD3F), (0xFE10, 0xFE19), (0xFE30, 0xFE52),
  (0xFE54, 0xFE66), (0xFE68, 0xFE6B), (0xFEFF, 0xFEFF), (0xFF01, 0xFF20), (0xFF3B, 0xFF40),
  (0xFF5B, 0xFF65), (0xFF70, 0xFF70), (0xFF9E, 0xFF9F), (0xFFE0, 0xFFE6), (0xFFE8, 0xFFEE),
  (0xFFF9, 0xFFFD), (0x10100, 0x10102), (0x10107, 0x10133), (0x10137, 0x1013F), (0x10190, 0x1019C),
  (0x101D0, 0x101FC), (0x102E1, 0x102FB), (0x1BCA0, 0x1BCA3), (0x1CC00, 0x1CCF9),
  (0x1CD00, 0x1CEB3), (0x1CF50, 0x1CFC3), (0x1D000, 0x1D0F5), (0x1D100, 0x1D126),
  (0x1D129, 0x1D166), (0x1D16A, 0x1D17A), (0x1D183, 0x1D184), (0x1D18C, 0x1D1A9),
  (0x1D1AE, 0x1D1EA), (0x1D2C0, 0x1D2D3), (0x1D2E0, 0x1D2F3), (0x1D300, 0x1D356),
  (0x1D360, 0x1D378), (0x1D400, 0x1D454), (0x1D456, 0x1D49C), (0x1D49E, 0x1D49F),
  (0x1D4A2, 0x1D4A2), (0x1D4A5, 0x1D4A6), (0x1D4A9, 0x1D4AC), (0x1D4AE, 0x1D4B9),
  (0x1D4BB, 0x1D4BB), (0x1D4BD, 0x1D4C3), (0x1D4C5, 0x1D505), (0x1D507, 0x1D50A),
  (0x1D50D, 0x1D514), (0x1D516, 0x1D51C), (0x1D51E, 0x1D539), (0x1D53B, 0x1D53E),
  (0x1D540, 0x1D544), (0x1D546, 0x1D546), (0x1D54A, 0x1D550), (0x1D552, 0x1D6A5),
  (0x1D6A8, 0x1D7CB), (0x1D7CE, 0x1D7FF), (0x1EC71, 0x1ECB4), (0x1ED01, 0x1ED3D),
  (0x1F000, 0x1F02B), (0x1F030, 0x1F093), (0x1F0A0, 0x1F0AE), (0x1F0B1, 0x1F0BF),
  (0x1F0C1, 0x1F0CF), (0x1F0D1, 0x1F0F5), (0x1F100, 0x1F1AD), (0x1F1E6, 0x1F1FF),
  (0x1F201, 0x1F202), (0x1F210, 0x1F23B), (0x1F240, 0x1F248), (0x1F250, 0x1F251),
  (0x1F260, 0x1F265), (0x1F300, 0x1F6D7), (0x1F6DC, 0x1F6EC), (0x1F6F0, 0x1F6FC),
  (0x1F700, 0x1F776), (0x1F77B, 0x1F7D9), (0x1F7E0, 0x1F7EB), (0x1F7F0, 0x1F7F0),
  (0x1F800, 0x1F80B), (0x1F810, 0x1F847), (0x1F850, 0x1F859), (0x1F860, 0x1F887),
  (0x1F890, 0x1F8AD), (0x1F8B0, 0x1F8BB), (0x1F8C0, 0x1F8C1), (0x1F900, 0x1FA53),
  (0x1FA60, 0x1FA6D), (0x1FA70, 0x1FA7C), (0x1FA80, 0x1FA89), (0x1FA8F, 0x1FAC6),
  (0x1FACE, 0x1FADC), (0x1FADF, 0x1FAE9), (0x1FAF0, 0x1FAF8), (0x1FB00, 0x1FB92),
  (0x1FB94, 0x1FBF9), (0xE0001, 0xE0001), (0xE0020, 0xE007F)]

/-- Characters that belong to the script of the character before them. -/
def inherited : Ranges := [
  (0x300, 0x36F), (0x485, 0x486), (0x64B, 0x655), (0x670, 0x670), (0x951, 0x954), (0x1AB0, 0x1ACE),
  (0x1CD0, 0x1CD2), (0x1CD4, 0x1CE0), (0x1CE2, 0x1CE8), (0x1CED, 0x1CED), (0x1CF4, 0x1CF4),
  (0x1CF8, 0x1CF9), (0x1DC0, 0x1DFF), (0x200C, 0x200D), (0x20D0, 0x20F0), (0x302A, 0x302D),
  (0x3099, 0x309A), (0xFE00, 0xFE0F), (0xFE20, 0xFE2D), (0x101FD, 0x101FD), (0x102E0, 0x102E0),
  (0x1133B, 0x1133B), (0x1CF00, 0x1CF2D), (0x1CF30, 0x1CF46), (0x1D167, 0x1D169),
  (0x1D17B, 0x1D182), (0x1D185, 0x1D18B), (0x1D1AA, 0x1D1AD), (0xE0100, 0xE01EF)]

/-- Characters for writing gestures. -/
def signWriting : Ranges := [(0x1D800, 0x1DA8B), (0x1DA9B, 0x1DA9F), (0x1DAA1, 0x1DAAF)]

end Script

/-- The scripts and their characters. -/
def scripts : List NamedRanges := [
  ⟨["adlm", "adlam"], Script.adlam⟩,
  ⟨["aghb", "caucasianalbanian"], Script.caucasianAlbanian⟩,
  ⟨["ahom"], Script.ahom⟩,
  ⟨["arab", "arabic"], Script.arabic⟩,
  ⟨["armi", "imperialaramaic"], Script.imperialAramaic⟩,
  ⟨["armn", "armenian"], Script.armenian⟩,
  ⟨["avst", "avestan"], Script.avestan⟩,
  ⟨["bali", "balinese"], Script.balinese⟩,
  ⟨["bamu", "bamum"], Script.bamum⟩,
  ⟨["bass", "bassavah"], Script.bassaVah⟩,
  ⟨["batk", "batak"], Script.batak⟩,
  ⟨["beng", "bengali"], Script.bengali⟩,
  ⟨["bhks", "bhaiksuki"], Script.bhaiksuki⟩,
  ⟨["bopo", "bopomofo"], Script.bopomofo⟩,
  ⟨["brah", "brahmi"], Script.brahmi⟩,
  ⟨["brai", "braille"], Script.braille⟩,
  ⟨["bugi", "buginese"], Script.buginese⟩,
  ⟨["buhd", "buhid"], Script.buhid⟩,
  ⟨["cakm", "chakma"], Script.chakma⟩,
  ⟨["cans", "canadianaboriginal"], Script.canadianAboriginal⟩,
  ⟨["cari", "carian"], Script.carian⟩,
  ⟨["cham"], Script.cham⟩,
  ⟨["cher", "cherokee"], Script.cherokee⟩,
  ⟨["chrs", "chorasmian"], Script.chorasmian⟩,
  ⟨["copt", "coptic", "qaac"], Script.coptic⟩,
  ⟨["cpmn", "cyprominoan"], Script.cyproMinoan⟩,
  ⟨["cprt", "cypriot"], Script.cypriot⟩,
  ⟨["cyrl", "cyrillic"], Script.cyrillic⟩,
  ⟨["deva", "devanagari"], Script.devanagari⟩,
  ⟨["diak", "divesakuru"], Script.divesAkuru⟩,
  ⟨["dogr", "dogra"], Script.dogra⟩,
  ⟨["dsrt", "deseret"], Script.deseret⟩,
  ⟨["dupl", "duployan"], Script.duployan⟩,
  ⟨["egyp", "egyptianhieroglyphs"], Script.egyptianHieroglyphs⟩,
  ⟨["elba", "elbasan"], Script.elbasan⟩,
  ⟨["elym", "elymaic"], Script.elymaic⟩,
  ⟨["ethi", "ethiopic"], Script.ethiopic⟩,
  ⟨["gara", "garay"], Script.garay⟩,
  ⟨["geor", "georgian"], Script.georgian⟩,
  ⟨["glag", "glagolitic"], Script.glagolitic⟩,
  ⟨["gong", "gunjalagondi"], Script.gunjalaGondi⟩,
  ⟨["gonm", "masaramgondi"], Script.masaramGondi⟩,
  ⟨["goth", "gothic"], Script.gothic⟩,
  ⟨["gran", "grantha"], Script.grantha⟩,
  ⟨["grek", "greek"], Script.greek⟩,
  ⟨["gujr", "gujarati"], Script.gujarati⟩,
  ⟨["gukh", "gurungkhema"], Script.gurungKhema⟩,
  ⟨["guru", "gurmukhi"], Script.gurmukhi⟩,
  ⟨["hang", "hangul"], Script.hangul⟩,
  ⟨["hani", "han"], Script.han⟩,
  ⟨["hano", "hanunoo"], Script.hanunoo⟩,
  ⟨["hatr", "hatran"], Script.hatran⟩,
  ⟨["hebr", "hebrew"], Script.hebrew⟩,
  ⟨["hira", "hiragana"], Script.hiragana⟩,
  ⟨["hluw", "anatolianhieroglyphs"], Script.anatolianHieroglyphs⟩,
  ⟨["hmng", "pahawhhmong"], Script.pahawhHmong⟩,
  ⟨["hmnp", "nyiakengpuachuehmong"], Script.nyiakengPuachueHmong⟩,
  ⟨["hung", "oldhungarian"], Script.oldHungarian⟩,
  ⟨["ital", "olditalic"], Script.oldItalic⟩,
  ⟨["java", "javanese"], Script.javanese⟩,
  ⟨["kali", "kayahli"], Script.kayahLi⟩,
  ⟨["kana", "katakana"], Script.katakana⟩,
  ⟨["kawi"], Script.kawi⟩,
  ⟨["khar", "kharoshthi"], Script.kharoshthi⟩,
  ⟨["khmr", "khmer"], Script.khmer⟩,
  ⟨["khoj", "khojki"], Script.khojki⟩,
  ⟨["kits", "khitansmallscript"], Script.khitanSmallScript⟩,
  ⟨["knda", "kannada"], Script.kannada⟩,
  ⟨["krai", "kiratrai"], Script.kiratRai⟩,
  ⟨["kthi", "kaithi"], Script.kaithi⟩,
  ⟨["lana", "taitham"], Script.taiTham⟩,
  ⟨["laoo", "lao"], Script.lao⟩,
  ⟨["latn", "latin"], Script.latin⟩,
  ⟨["lepc", "lepcha"], Script.lepcha⟩,
  ⟨["limb", "limbu"], Script.limbu⟩,
  ⟨["lina", "lineara"], Script.linearA⟩,
  ⟨["linb", "linearb"], Script.linearB⟩,
  ⟨["lisu"], Script.lisu⟩,
  ⟨["lyci", "lycian"], Script.lycian⟩,
  ⟨["lydi", "lydian"], Script.lydian⟩,
  ⟨["mahj", "mahajani"], Script.mahajani⟩,
  ⟨["maka", "makasar"], Script.makasar⟩,
  ⟨["mand", "mandaic"], Script.mandaic⟩,
  ⟨["mani", "manichaean"], Script.manichaean⟩,
  ⟨["marc", "marchen"], Script.marchen⟩,
  ⟨["medf", "medefaidrin"], Script.medefaidrin⟩,
  ⟨["mend", "mendekikakui"], Script.mendeKikakui⟩,
  ⟨["merc", "meroiticcursive"], Script.meroiticCursive⟩,
  ⟨["mero", "meroitichieroglyphs"], Script.meroiticHieroglyphs⟩,
  ⟨["mlym", "malayalam"], Script.malayalam⟩,
  ⟨["modi"], Script.modi⟩,
  ⟨["mong", "mongolian"], Script.mongolian⟩,
  ⟨["mroo", "mro"], Script.mro⟩,
  ⟨["mtei", "meeteimayek"], Script.meeteiMayek⟩,
  ⟨["mult", "multani"], Script.multani⟩,
  ⟨["mymr", "myanmar"], Script.myanmar⟩,
  ⟨["nagm", "nagmundari"], Script.nagMundari⟩,
  ⟨["nand", "nandinagari"], Script.nandinagari⟩,
  ⟨["narb", "oldnortharabian"], Script.oldNorthArabian⟩,
  ⟨["nbat", "nabataean"], Script.nabataean⟩,
  ⟨["newa"], Script.newa⟩,
  ⟨["nkoo", "nko"], Script.nko⟩,
  ⟨["nshu", "nushu"], Script.nushu⟩,
  ⟨["ogam", "ogham"], Script.ogham⟩,
  ⟨["olck", "olchiki"], Script.olChiki⟩,
  ⟨["onao", "olonal"], Script.olOnal⟩,
  ⟨["orkh", "oldturkic"], Script.oldTurkic⟩,
  ⟨["orya", "oriya"], Script.oriya⟩,
  ⟨["osge", "osage"], Script.osage⟩,
  ⟨["osma", "osmanya"], Script.osmanya⟩,
  ⟨["ougr", "olduyghur"], Script.oldUyghur⟩,
  ⟨["palm", "palmyrene"], Script.palmyrene⟩,
  ⟨["pauc", "paucinhau"], Script.pauCinHau⟩,
  ⟨["perm", "oldpermic"], Script.oldPermic⟩,
  ⟨["phag", "phagspa"], Script.phagsPa⟩,
  ⟨["phli", "inscriptionalpahlavi"], Script.inscriptionalPahlavi⟩,
  ⟨["phlp", "psalterpahlavi"], Script.psalterPahlavi⟩,
  ⟨["phnx", "phoenician"], Script.phoenician⟩,
  ⟨["plrd", "miao"], Script.miao⟩,
  ⟨["prti", "inscriptionalparthian"], Script.inscriptionalParthian⟩,
  ⟨["rjng", "rejang"], Script.rejang⟩,
  ⟨["rohg", "hanifirohingya"], Script.hanifiRohingya⟩,
  ⟨["runr", "runic"], Script.runic⟩,
  ⟨["samr", "samaritan"], Script.samaritan⟩,
  ⟨["sarb", "oldsoutharabian"], Script.oldSouthArabian⟩,
  ⟨["saur", "saurashtra"], Script.saurashtra⟩,
  ⟨["sgnw", "signwriting"], Script.signWriting⟩,
  ⟨["shaw", "shavian"], Script.shavian⟩,
  ⟨["shrd", "sharada"], Script.sharada⟩,
  ⟨["sidd", "siddham"], Script.siddham⟩,
  ⟨["sind", "khudawadi"], Script.khudawadi⟩,
  ⟨["sinh", "sinhala"], Script.sinhala⟩,
  ⟨["sogd", "sogdian"], Script.sogdian⟩,
  ⟨["sogo", "oldsogdian"], Script.oldSogdian⟩,
  ⟨["sora", "sorasompeng"], Script.soraSompeng⟩,
  ⟨["soyo", "soyombo"], Script.soyombo⟩,
  ⟨["sund", "sundanese"], Script.sundanese⟩,
  ⟨["sunu", "sunuwar"], Script.sunuwar⟩,
  ⟨["sylo", "sylotinagri"], Script.sylotiNagri⟩,
  ⟨["syrc", "syriac"], Script.syriac⟩,
  ⟨["tagb", "tagbanwa"], Script.tagbanwa⟩,
  ⟨["takr", "takri"], Script.takri⟩,
  ⟨["tale", "taile"], Script.taiLe⟩,
  ⟨["talu", "newtailue"], Script.newTaiLue⟩,
  ⟨["taml", "tamil"], Script.tamil⟩,
  ⟨["tang", "tangut"], Script.tangut⟩,
  ⟨["tavt", "taiviet"], Script.taiViet⟩,
  ⟨["telu", "telugu"], Script.telugu⟩,
  ⟨["tfng", "tifinagh"], Script.tifinagh⟩,
  ⟨["tglg", "tagalog"], Script.tagalog⟩,
  ⟨["thaa", "thaana"], Script.thaana⟩,
  ⟨["thai"], Script.thai⟩,
  ⟨["tibt", "tibetan"], Script.tibetan⟩,
  ⟨["tirh", "tirhuta"], Script.tirhuta⟩,
  ⟨["tnsa", "tangsa"], Script.tangsa⟩,
  ⟨["todr", "todhri"], Script.todhri⟩,
  ⟨["toto"], Script.toto⟩,
  ⟨["tutg", "tulutigalari"], Script.tuluTigalari⟩,
  ⟨["ugar", "ugaritic"], Script.ugaritic⟩,
  ⟨["vaii", "vai"], Script.vai⟩,
  ⟨["vith", "vithkuqi"], Script.vithkuqi⟩,
  ⟨["wara", "warangciti"], Script.warangCiti⟩,
  ⟨["wcho", "wancho"], Script.wancho⟩,
  ⟨["xpeo", "oldpersian"], Script.oldPersian⟩,
  ⟨["xsux", "cuneiform"], Script.cuneiform⟩,
  ⟨["yezi", "yezidi"], Script.yezidi⟩,
  ⟨["yiii", "yi"], Script.yi⟩,
  ⟨["zanb", "zanabazarsquare"], Script.zanabazarSquare⟩,
  ⟨["zinh", "inherited", "qaai"], Script.inherited⟩,
  ⟨["zyyy", "common"], Script.common⟩]

end InfraSynth.Unicode
