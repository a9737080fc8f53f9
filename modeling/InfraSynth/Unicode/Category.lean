import InfraSynth.Unicode.Category.Letter
import InfraSynth.Unicode.Category.Mark
import InfraSynth.Unicode.Category.Sign
import InfraSynth.Unicode.Classes
import InfraSynth.Unicode.Ranges

/-!
# General categories

Every character belongs to one category, and several categories make up a group.
Each has a short name and one in full.
-/

namespace InfraSynth.Unicode

namespace Category

/-- Code points of surrogates, which are no characters. -/
def surrogate : Ranges := [(0xD800, 0xDFFF)]

/-- Code points that no character has. -/
def unassigned : Ranges :=
  (Ranges.unions [uppercaseLetter, lowercaseLetter, titlecaseLetter, modifierLetter, otherLetter,
    nonspacingMark, spacingMark, enclosingMark, digitRanges, letterNumber, otherNumber,
    connectorPunctuation, dashPunctuation, openPunctuation, closePunctuation, initialPunctuation,
    finalPunctuation, otherPunctuation, mathSymbol, currencySymbol, modifierSymbol, otherSymbol,
    spaceSeparator, lineSeparator, paragraphSeparator, control, format, privateUse,
    surrogate]).complement

/-- Controls, and code points without a common meaning. -/
def other : Ranges :=
  .unions [control, format, privateUse, unassigned]

/-- Letters of all kinds. -/
def letter : Ranges :=
  .unions [uppercaseLetter, lowercaseLetter, titlecaseLetter, modifierLetter, otherLetter]

/-- Letters with case. -/
def casedLetter : Ranges :=
  .unions [uppercaseLetter, lowercaseLetter, titlecaseLetter]

/-- Marks of all kinds. -/
def mark : Ranges :=
  .unions [nonspacingMark, spacingMark, enclosingMark]

/-- Numbers of all kinds. -/
def number : Ranges :=
  .unions [digitRanges, letterNumber, otherNumber]

/-- Punctuation of all kinds. -/
def punctuation : Ranges :=
  .unions [connectorPunctuation, dashPunctuation, openPunctuation, closePunctuation,
    initialPunctuation, finalPunctuation, otherPunctuation]

/-- Symbols of all kinds. -/
def symbol : Ranges :=
  .unions [mathSymbol, currencySymbol, modifierSymbol, otherSymbol]

/-- Separators of all kinds. -/
def separator : Ranges :=
  .unions [spaceSeparator, lineSeparator, paragraphSeparator]

end Category

/-- The categories and their characters, and three classes that are named like them.
-/
def categories : List NamedRanges := [
  ⟨["c", "other"], Category.other⟩,
  ⟨["cc", "control", "cntrl"], Category.control⟩,
  ⟨["cf", "format"], Category.format⟩,
  ⟨["cn", "unassigned"], Category.unassigned⟩,
  ⟨["co", "privateuse"], Category.privateUse⟩,
  ⟨["l", "letter"], Category.letter⟩,
  ⟨["lc", "casedletter"], Category.casedLetter⟩,
  ⟨["ll", "lowercaseletter"], Category.lowercaseLetter⟩,
  ⟨["lm", "modifierletter"], Category.modifierLetter⟩,
  ⟨["lo", "otherletter"], Category.otherLetter⟩,
  ⟨["lt", "titlecaseletter"], Category.titlecaseLetter⟩,
  ⟨["lu", "uppercaseletter"], Category.uppercaseLetter⟩,
  ⟨["m", "mark", "combiningmark"], Category.mark⟩,
  ⟨["mc", "spacingmark"], Category.spacingMark⟩,
  ⟨["me", "enclosingmark"], Category.enclosingMark⟩,
  ⟨["mn", "nonspacingmark"], Category.nonspacingMark⟩,
  ⟨["n", "number"], Category.number⟩,
  ⟨["nd", "decimalnumber", "digit"], digitRanges⟩,
  ⟨["nl", "letternumber"], Category.letterNumber⟩,
  ⟨["no", "othernumber"], Category.otherNumber⟩,
  ⟨["p", "punctuation", "punct"], Category.punctuation⟩,
  ⟨["pc", "connectorpunctuation"], Category.connectorPunctuation⟩,
  ⟨["pd", "dashpunctuation"], Category.dashPunctuation⟩,
  ⟨["pe", "closepunctuation"], Category.closePunctuation⟩,
  ⟨["pf", "finalpunctuation"], Category.finalPunctuation⟩,
  ⟨["pi", "initialpunctuation"], Category.initialPunctuation⟩,
  ⟨["po", "otherpunctuation"], Category.otherPunctuation⟩,
  ⟨["ps", "openpunctuation"], Category.openPunctuation⟩,
  ⟨["s", "symbol"], Category.symbol⟩,
  ⟨["sc", "currencysymbol"], Category.currencySymbol⟩,
  ⟨["sk", "modifiersymbol"], Category.modifierSymbol⟩,
  ⟨["sm", "mathsymbol"], Category.mathSymbol⟩,
  ⟨["so", "othersymbol"], Category.otherSymbol⟩,
  ⟨["z", "separator"], Category.separator⟩,
  ⟨["zl", "lineseparator"], Category.lineSeparator⟩,
  ⟨["zp", "paragraphseparator"], Category.paragraphSeparator⟩,
  ⟨["zs", "spaceseparator"], Category.spaceSeparator⟩,
  ⟨["any"], .full⟩,
  ⟨["assigned"], Category.unassigned.complement⟩,
  ⟨["ascii"], [(0x0, 0x7F)]⟩]

end InfraSynth.Unicode
