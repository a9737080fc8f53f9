import InfraSynth.Unicode.Ranges
import InfraSynth.Unicode.Trait.Case
import InfraSynth.Unicode.Trait.Grapheme
import InfraSynth.Unicode.Trait.Identifier
import InfraSynth.Unicode.Trait.Sign

/-!
# Traits

What a character either is or is not, each with the names that this goes by.
-/

namespace InfraSynth.Unicode

/-- The traits and the characters that have them. -/
def traits : List NamedRanges := [
  ⟨["alpha", "alphabetic"], Trait.alphabetic⟩,
  ⟨["ahex", "asciihexdigit"], Trait.asciiHexDigit⟩,
  ⟨["bidic", "bidicontrol"], Trait.bidiControl⟩,
  ⟨["bidim", "bidimirrored"], Trait.bidiMirrored⟩,
  ⟨["ci", "caseignorable"], Trait.caseIgnorable⟩,
  ⟨["cased"], Trait.cased⟩,
  ⟨["cwcf", "changeswhencasefolded"], Trait.changesWhenCasefolded⟩,
  ⟨["cwcm", "changeswhencasemapped"], Trait.changesWhenCasemapped⟩,
  ⟨["cwl", "changeswhenlowercased"], Trait.changesWhenLowercased⟩,
  ⟨["cwt", "changeswhentitlecased"], Trait.changesWhenTitlecased⟩,
  ⟨["cwu", "changeswhenuppercased"], Trait.changesWhenUppercased⟩,
  ⟨["dash"], Trait.dash⟩,
  ⟨["di", "defaultignorablecodepoint"], Trait.defaultIgnorable⟩,
  ⟨["dep", "deprecated"], Trait.deprecated⟩,
  ⟨["dia", "diacritic"], Trait.diacritic⟩,
  ⟨["emoji"], Trait.emoji⟩,
  ⟨["ecomp", "emojicomponent"], Trait.emojiComponent⟩,
  ⟨["emod", "emojimodifier"], Trait.emojiModifier⟩,
  ⟨["ebase", "emojimodifierbase"], Trait.emojiModifierBase⟩,
  ⟨["epres", "emojipresentation"], Trait.emojiPresentation⟩,
  ⟨["extpict", "extendedpictographic"], Trait.extendedPictographic⟩,
  ⟨["ext", "extender"], Trait.extender⟩,
  ⟨["grbase", "graphemebase"], Trait.graphemeBase⟩,
  ⟨["grext", "graphemeextend"], Trait.graphemeExtend⟩,
  ⟨["grlink", "graphemelink"], Trait.graphemeLink⟩,
  ⟨["hex", "hexdigit"], Trait.hexDigit⟩,
  ⟨["hyphen"], Trait.hyphen⟩,
  ⟨["idc", "idcontinue"], Trait.idContinue⟩,
  ⟨["idcompatmathcontinue"], Trait.idCompatMathContinue⟩,
  ⟨["idcompatmathstart"], Trait.idCompatMathStart⟩,
  ⟨["ids", "idstart"], Trait.idStart⟩,
  ⟨["idsb", "idsbinaryoperator"], Trait.idsBinaryOperator⟩,
  ⟨["idst", "idstrinaryoperator"], Trait.idsTrinaryOperator⟩,
  ⟨["idsu", "idsunaryoperator"], Trait.idsUnaryOperator⟩,
  ⟨["ideo", "ideographic"], Trait.ideographic⟩,
  ⟨["joinc", "joincontrol"], Trait.joinControl⟩,
  ⟨["loe", "logicalorderexception"], Trait.logicalOrderException⟩,
  ⟨["lower", "lowercase"], Trait.lowercase⟩,
  ⟨["math"], Trait.math⟩,
  ⟨["mcm", "modifiercombiningmark"], Trait.modifierCombiningMark⟩,
  ⟨["nchar", "noncharactercodepoint"], Trait.noncharacter⟩,
  ⟨["oalpha", "otheralphabetic"], Trait.otherAlphabetic⟩,
  ⟨["odi", "otherdefaultignorablecodepoint"], Trait.otherDefaultIgnorable⟩,
  ⟨["ogrext", "othergraphemeextend"], Trait.otherGraphemeExtend⟩,
  ⟨["oidc", "otheridcontinue"], Trait.otherIdContinue⟩,
  ⟨["oids", "otheridstart"], Trait.otherIdStart⟩,
  ⟨["olower", "otherlowercase"], Trait.otherLowercase⟩,
  ⟨["omath", "othermath"], Trait.otherMath⟩,
  ⟨["oupper", "otheruppercase"], Trait.otherUppercase⟩,
  ⟨["patsyn", "patternsyntax"], Trait.patternSyntax⟩,
  ⟨["patws", "patternwhitespace"], Trait.patternWhiteSpace⟩,
  ⟨["pcm", "prependedconcatenationmark"], Trait.prependedConcatenationMark⟩,
  ⟨["qmark", "quotationmark"], Trait.quotationMark⟩,
  ⟨["radical"], Trait.radical⟩,
  ⟨["ri", "regionalindicator"], Trait.regionalIndicator⟩,
  ⟨["sterm", "sentenceterminal"], Trait.sentenceTerminal⟩,
  ⟨["sd", "softdotted"], Trait.softDotted⟩,
  ⟨["term", "terminalpunctuation"], Trait.terminalPunctuation⟩,
  ⟨["uideo", "unifiedideograph"], Trait.unifiedIdeograph⟩,
  ⟨["upper", "uppercase"], Trait.uppercase⟩,
  ⟨["vs", "variationselector"], Trait.variationSelector⟩,
  ⟨["wspace", "whitespace", "space"], spaceRanges⟩,
  ⟨["xidc", "xidcontinue"], Trait.xidContinue⟩,
  ⟨["xids", "xidstart"], Trait.xidStart⟩]

end InfraSynth.Unicode
