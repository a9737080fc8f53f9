import InfraSynth.Unicode.Trait

/-!
# Where characters, words and sentences end

How characters behave at the ends of what is seen as one character, of words and of
sentences, as Unicode 16 says.
-/

namespace InfraSynth.Unicode

/-! ## Where characters end -/

/-- Marks that join the character after them. -/
def Grapheme.prepend : Ranges := [
  (0x600, 0x605), (0x6DD, 0x6DD), (0x70F, 0x70F), (0x890, 0x891), (0x8E2, 0x8E2), (0xD4E, 0xD4E),
  (0x110BD, 0x110BD), (0x110CD, 0x110CD), (0x111C2, 0x111C3), (0x113D1, 0x113D1),
  (0x1193F, 0x1193F), (0x11941, 0x11941), (0x11A3A, 0x11A3A), (0x11A84, 0x11A89),
  (0x11D46, 0x11D46), (0x11F02, 0x11F02)]

/-- Marks that take up space and are seen on their own. -/
def Grapheme.apartMark : Ranges := [
  (0x102B, 0x102C), (0x1038, 0x1038), (0x1062, 0x1064), (0x1067, 0x106D), (0x1083, 0x1083),
  (0x1087, 0x108C), (0x108F, 0x108F), (0x109A, 0x109C), (0x1A61, 0x1A61), (0x1A63, 0x1A64),
  (0xAA7B, 0xAA7B), (0xAA7D, 0xAA7D), (0x11720, 0x11721)]

/-- What extends the character before it, or colours it. -/
def Grapheme.extend : Ranges :=
  Trait.graphemeExtend.union Trait.emojiModifier

/-- What is seen together with the character before it although it takes up
space. -/
def Grapheme.spacingMark : Ranges :=
  (Category.spacingMark.diff (Trait.graphemeExtend.union apartMark)).union
    [(0xE33, 0xE33), (0xEB3, 0xEB3)]

/-- What is never seen together with its neighbours. -/
def Grapheme.control : Ranges :=
  (Ranges.unions [Category.lineSeparator, Category.paragraphSeparator, Category.control,
    Category.format, Category.unassigned.inter Trait.defaultIgnorable]).diff
      (.unions [[(0xA, 0xA), (0xD, 0xD), (0x200C, 0x200D)], Trait.graphemeExtend,
        Trait.prependedConcatenationMark])

/-- Syllables of Hangul that end in a vowel; every twenty-eighth does. -/
def Grapheme.openSyllable : Ranges :=
  (List.range 399).map fun n => (0xAC00 + 28 * n, 0xAC00 + 28 * n)

/-- Syllables of Hangul that end in a consonant. -/
def Grapheme.closedSyllable : Ranges :=
  Ranges.diff [(0xAC00, 0xD7A3)] openSyllable

/-- How characters behave at the ends of what is seen as one character. -/
def graphemeBreaks : List NamedRanges := [
  ⟨["cr"], [(0xD, 0xD)]⟩,
  ⟨["lf"], [(0xA, 0xA)]⟩,
  ⟨["cn", "control"], Grapheme.control⟩,
  ⟨["ex", "extend"], Grapheme.extend⟩,
  ⟨["l"], [(0x1100, 0x115F), (0xA960, 0xA97C)]⟩,
  ⟨["lv"], Grapheme.openSyllable⟩,
  ⟨["lvt"], Grapheme.closedSyllable⟩,
  ⟨["pp", "prepend"], Grapheme.prepend⟩,
  ⟨["ri", "regionalindicator"], Trait.regionalIndicator⟩,
  ⟨["sm", "spacingmark"], Grapheme.spacingMark⟩,
  ⟨["t"], [(0x11A8, 0x11FF), (0xD7CB, 0xD7FB)]⟩,
  ⟨["v"], [(0x1160, 0x11A7), (0xD7B0, 0xD7C6), (0x16D63, 0x16D63), (0x16D67, 0x16D6A)]⟩,
  ⟨["zwj"], [(0x200D, 0x200D)]⟩]

/-! ## Where words end -/

/-- Punctuation that may stand between letters. -/
def Word.midLetter : Ranges := [
  (0x3A, 0x3A), (0xB7, 0xB7), (0x387, 0x387), (0x55F, 0x55F), (0x5F4, 0x5F4), (0x2027, 0x2027),
  (0xFE13, 0xFE13), (0xFE55, 0xFE55), (0xFF1A, 0xFF1A)]

/-- Punctuation that may stand between digits. -/
def Word.midNumber : Ranges := [
  (0x2C, 0x2C), (0x3B, 0x3B), (0x37E, 0x37E), (0x589, 0x589), (0x60C, 0x60D), (0x66C, 0x66C),
  (0x7F8, 0x7F8), (0x2044, 0x2044), (0xFE10, 0xFE10), (0xFE14, 0xFE14), (0xFE50, 0xFE50),
  (0xFE54, 0xFE54), (0xFF0C, 0xFF0C), (0xFF1B, 0xFF1B)]

/-- Punctuation that may stand between letters and between digits. -/
def Word.midNumberOrLetter : Ranges := [
  (0x2E, 0x2E), (0x2018, 0x2019), (0x2024, 0x2024), (0xFE52, 0xFE52), (0xFF07, 0xFF07),
  (0xFF0E, 0xFF0E)]

/-- Characters of Katakana, and those that go with them. -/
def Word.katakana : Ranges := [
  (0x3031, 0x3035), (0x309B, 0x309C), (0x30A0, 0x30FA), (0x30FC, 0x30FF), (0x31F0, 0x31FF),
  (0x32D0, 0x32FE), (0x3300, 0x3357), (0xFF66, 0xFF9D), (0x1AFF0, 0x1AFF3), (0x1AFF5, 0x1AFFB),
  (0x1AFFD, 0x1AFFE), (0x1B000, 0x1B000), (0x1B120, 0x1B122), (0x1B155, 0x1B155),
  (0x1B164, 0x1B167)]

/-- Letters of Hebrew. -/
def Word.hebrewLetter : Ranges := [
  (0x5D0, 0x5EA), (0x5EF, 0x5F2), (0xFB1D, 0xFB1D), (0xFB1F, 0xFB28), (0xFB2A, 0xFB36),
  (0xFB38, 0xFB3C), (0xFB3E, 0xFB3E), (0xFB40, 0xFB41), (0xFB43, 0xFB44), (0xFB46, 0xFB4F)]

/-- Symbols and marks that behave like letters. -/
def Word.extraLetter : Ranges := [
  (0x2C2, 0x2C5), (0x2D2, 0x2D7), (0x2DE, 0x2DF), (0x2E5, 0x2EB), (0x2ED, 0x2ED), (0x2EF, 0x2FF),
  (0x55A, 0x55C), (0x55E, 0x55E), (0x58A, 0x58A), (0x5F3, 0x5F3), (0xA708, 0xA716),
  (0xA720, 0xA721), (0xA789, 0xA78A), (0xAB5B, 0xAB5B)]

/-- Letters between which words may end. -/
def Word.separateLetter : Ranges := [
  (0xE01, 0xE30), (0xE32, 0xE33), (0xE40, 0xE46), (0xE81, 0xE82), (0xE84, 0xE84), (0xE86, 0xE8A),
  (0xE8C, 0xEA3), (0xEA5, 0xEA5), (0xEA7, 0xEB0), (0xEB2, 0xEB3), (0xEBD, 0xEBD), (0xEC0, 0xEC4),
  (0xEC6, 0xEC6), (0xEDC, 0xEDF), (0x1000, 0x102A), (0x103F, 0x103F), (0x1050, 0x1055),
  (0x105A, 0x105D), (0x1061, 0x1061), (0x1065, 0x1066), (0x106E, 0x1070), (0x1075, 0x1081),
  (0x108E, 0x108E), (0x1780, 0x17B3), (0x17D7, 0x17D7), (0x17DC, 0x17DC), (0x1950, 0x196D),
  (0x1970, 0x1974), (0x1980, 0x19AB), (0x19B0, 0x19C9), (0x1A20, 0x1A54), (0x1AA7, 0x1AA7),
  (0x2139, 0x2139), (0x24C2, 0x24C2), (0x3041, 0x3096), (0x309D, 0x309F), (0xA9E0, 0xA9E4),
  (0xA9E6, 0xA9EF), (0xA9FA, 0xA9FE), (0xAA60, 0xAA76), (0xAA7A, 0xAA7A), (0xAA7E, 0xAAAF),
  (0xAAB1, 0xAAB1), (0xAAB5, 0xAAB6), (0xAAB9, 0xAABD), (0xAAC0, 0xAAC0), (0xAAC2, 0xAAC2),
  (0xAADB, 0xAADD), (0x11700, 0x1171A), (0x11740, 0x11746), (0x1B001, 0x1B11F), (0x1B132, 0x1B132),
  (0x1B150, 0x1B152), (0x1F170, 0x1F171), (0x1F17E, 0x1F17F)]

/-- What extends the character before it. -/
def Word.extend : Ranges :=
  (Ranges.unions [Trait.graphemeExtend, Category.spacingMark, Trait.emojiModifier]).diff
    [(0x200D, 0x200D)]

/-- Letters between which no word ends. -/
def Word.letter : Ranges :=
  (Trait.alphabetic.diff (.unions [Trait.ideographic, extend, katakana, hebrewLetter,
    separateLetter])).union extraLetter

/-- Digits, and the separator of their fractions. -/
def Word.numeric : Ranges :=
  digitRanges.union [(0x66B, 0x66B)]

/-- Controls that are part of a word. -/
def Word.format : Ranges :=
  Category.format.diff [(0x200B, 0x200D), (0xE0020, 0xE007F)]

/-- How characters behave at the ends of words. -/
def wordBreaks : List NamedRanges := [
  ⟨["cr"], [(0xD, 0xD)]⟩,
  ⟨["lf"], [(0xA, 0xA)]⟩,
  ⟨["nl", "newline"], [(0xB, 0xC), (0x85, 0x85), (0x2028, 0x2029)]⟩,
  ⟨["le", "aletter"], Word.letter⟩,
  ⟨["dq", "doublequote"], [(0x22, 0x22)]⟩,
  ⟨["sq", "singlequote"], [(0x27, 0x27)]⟩,
  ⟨["extend"], Word.extend⟩,
  ⟨["ex", "extendnumlet"], Category.connectorPunctuation.union [(0x202F, 0x202F)]⟩,
  ⟨["fo", "format"], Word.format⟩,
  ⟨["hl", "hebrewletter"], Word.hebrewLetter⟩,
  ⟨["ka", "katakana"], Word.katakana⟩,
  ⟨["ml", "midletter"], Word.midLetter⟩,
  ⟨["mn", "midnum"], Word.midNumber⟩,
  ⟨["mb", "midnumlet"], Word.midNumberOrLetter⟩,
  ⟨["nu", "numeric"], Word.numeric⟩,
  ⟨["ri", "regionalindicator"], Trait.regionalIndicator⟩,
  ⟨["wsegspace"], Category.spaceSeparator.diff [(0xA0, 0xA0), (0x2007, 0x2007), (0x202F, 0x202F)]⟩,
  ⟨["zwj"], [(0x200D, 0x200D)]⟩]

/-! ## Where sentences end -/

/-- Brackets and quotation marks. -/
def Sentence.close : Ranges := [
  (0x22, 0x22), (0x27, 0x29), (0x5B, 0x5B), (0x5D, 0x5D), (0x7B, 0x7B), (0x7D, 0x7D), (0xAB, 0xAB),
  (0xBB, 0xBB), (0xF3A, 0xF3D), (0x169B, 0x169C), (0x2018, 0x201F), (0x2039, 0x203A),
  (0x2045, 0x2046), (0x207D, 0x207E), (0x208D, 0x208E), (0x2308, 0x230B), (0x2329, 0x232A),
  (0x275B, 0x2760), (0x2768, 0x2775), (0x27C5, 0x27C6), (0x27E6, 0x27EF), (0x2983, 0x2998),
  (0x29D8, 0x29DB), (0x29FC, 0x29FD), (0x2E00, 0x2E0D), (0x2E1C, 0x2E1D), (0x2E20, 0x2E29),
  (0x2E42, 0x2E42), (0x2E55, 0x2E5C), (0x3008, 0x3011), (0x3014, 0x301B), (0x301D, 0x301F),
  (0xFD3E, 0xFD3F), (0xFE17, 0xFE18), (0xFE35, 0xFE44), (0xFE47, 0xFE48), (0xFE59, 0xFE5E),
  (0xFF08, 0xFF09), (0xFF3B, 0xFF3B), (0xFF3D, 0xFF3D), (0xFF5B, 0xFF5B), (0xFF5D, 0xFF5D),
  (0xFF5F, 0xFF60), (0xFF62, 0xFF63), (0x1F676, 0x1F678)]

/-- Punctuation after which a sentence goes on. -/
def Sentence.goesOn : Ranges := [
  (0x2C, 0x2D), (0x3A, 0x3A), (0x55D, 0x55D), (0x60C, 0x60D), (0x7F8, 0x7F8), (0x1802, 0x1802),
  (0x1808, 0x1808), (0x2013, 0x2014), (0x3001, 0x3001), (0xFE10, 0xFE11), (0xFE13, 0xFE13),
  (0xFE31, 0xFE32), (0xFE50, 0xFE51), (0xFE55, 0xFE55), (0xFE58, 0xFE58), (0xFE63, 0xFE63),
  (0xFF0C, 0xFF0D), (0xFF1A, 0xFF1A), (0xFF64, 0xFF64)]

/-- Points, which may end a sentence or an abbreviation. -/
def Sentence.point : Ranges := [(0x2E, 0x2E), (0x2024, 0x2024), (0xFE52, 0xFE52), (0xFF0E, 0xFF0E)]

/-- What extends the character before it. -/
def Sentence.extend : Ranges :=
  .unions [Trait.graphemeExtend, [(0x200D, 0x200D)], Category.spacingMark]

/-- Small letters. -/
def Sentence.lower : Ranges :=
  Trait.lowercase.diff (Trait.graphemeExtend.union [(0x10D0, 0x10FA), (0x10FD, 0x10FF)])

/-- Capital letters. -/
def Sentence.upper : Ranges :=
  (Trait.uppercase.union Category.titlecaseLetter).diff [(0x1C90, 0x1CBA), (0x1CBD, 0x1CBF)]

/-- Other letters. -/
def Sentence.letter : Ranges :=
  (Trait.alphabetic.union [(0x5F3, 0x5F3)]).diff (.unions [lower, upper, extend])

/-- How characters behave at the ends of sentences. -/
def sentenceBreaks : List NamedRanges := [
  ⟨["cr"], [(0xD, 0xD)]⟩,
  ⟨["lf"], [(0xA, 0xA)]⟩,
  ⟨["se", "sep"], [(0x85, 0x85), (0x2028, 0x2029)]⟩,
  ⟨["at", "aterm"], Sentence.point⟩,
  ⟨["st", "sterm"], Trait.sentenceTerminal.diff Sentence.point⟩,
  ⟨["cl", "close"], Sentence.close⟩,
  ⟨["sc", "scontinue"], Sentence.goesOn⟩,
  ⟨["ex", "extend"], Sentence.extend⟩,
  ⟨["fo", "format"], Category.format.diff [(0x200C, 0x200D), (0xE0020, 0xE007F)]⟩,
  ⟨["lo", "lower"], Sentence.lower⟩,
  ⟨["up", "upper"], Sentence.upper⟩,
  ⟨["le", "oletter"], Sentence.letter⟩,
  ⟨["nu", "numeric"], digitRanges.union [(0x66B, 0x66C)]⟩,
  ⟨["sp"], spaceRanges.diff [(0xA, 0xA), (0xD, 0xD), (0x85, 0x85), (0x2028, 0x2029)]⟩]

end InfraSynth.Unicode
