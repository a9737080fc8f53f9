/-!
# Beginnings, ends and parts of texts

Whether a text begins with, ends with or holds another one, decided on the
lists of their characters.
-/

namespace InfraSynth.Text

/-- Whether a text begins with another one. -/
def startsWith (text start : String) : Bool :=
  start.toList.isPrefixOf text.toList

/-- Whether a text ends with another one. -/
def endsWith (text ending : String) : Bool :=
  ending.toList.isSuffixOf text.toList

/-- Whether a list of characters holds another one. -/
def holds (part : List Char) : List Char → Bool
  | [] => part.isEmpty
  | c :: rest => part.isPrefixOf (c :: rest) || holds part rest

/-- Whether a text holds another one. -/
def contains (text part : String) : Bool :=
  holds part.toList text.toList

/-- The texts before and after the first occurrence of a character. -/
def splitAt? (separator : Char) (text : String) : Option (String × String) :=
  match text.toList.dropWhile (· ≠ separator) with
  | [] => none
  | _ :: rest => some (String.ofList (text.toList.takeWhile (· ≠ separator)), String.ofList rest)

/-- An ASCII capital letter as a small one; other characters as they are. -/
def lowerAscii (text : String) : String :=
  String.ofList (text.toList.map Char.toLower)

end InfraSynth.Text
