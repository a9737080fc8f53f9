/-!
# Faults of JSON texts

Reading a text stops at its first fault.  A `Fault` says what is wrong and how
many bytes of the text had not been consumed by then, which together with the
text gives the line and the column.
-/

namespace InfraSynth.Json

/-- What can be wrong with a JSON text. -/
inductive FaultKind
  | listEnds
  | objectEnds
  | stringEnds
  | valueEnds
  | expectedColon
  | expectedListCommaOrEnd
  | expectedObjectCommaOrEnd
  | expectedIdentifier
  | expectedValue
  | invalidEscape
  | invalidNumber
  | numberOutOfRange
  | controlCharacter
  | keyNotString
  | loneSurrogate
  | trailingComma
  | trailingCharacters
  | unfinishedSurrogate
  | nestedTooDeeply
  deriving DecidableEq, Repr

/-- Whether the text ended before its value did. -/
def FaultKind.isEnd : FaultKind → Bool
  | .listEnds | .objectEnds | .stringEnds | .valueEnds => true
  | _ => false

/-- The fault in words. -/
def FaultKind.message : FaultKind → String
  | .listEnds => "EOF while parsing a list"
  | .objectEnds => "EOF while parsing an object"
  | .stringEnds => "EOF while parsing a string"
  | .valueEnds => "EOF while parsing a value"
  | .expectedColon => "expected `:`"
  | .expectedListCommaOrEnd => "expected `,` or `]`"
  | .expectedObjectCommaOrEnd => "expected `,` or `\x7d`"
  | .expectedIdentifier => "expected ident"
  | .expectedValue => "expected value"
  | .invalidEscape => "invalid escape"
  | .invalidNumber => "invalid number"
  | .numberOutOfRange => "number out of range"
  | .controlCharacter => "control character (\\u0000-\\u001F) found while parsing a string"
  | .keyNotString => "key must be a string"
  | .loneSurrogate => "lone leading surrogate in hex escape"
  | .trailingComma => "trailing comma"
  | .trailingCharacters => "trailing characters"
  | .unfinishedSurrogate => "unexpected end of hex escape"
  | .nestedTooDeeply => "recursion limit exceeded"

/-- A fault, with the number of bytes that had not been consumed. -/
structure Fault where
  kind : FaultKind
  bytesLeft : Nat
  deriving DecidableEq, Repr

/-- How many bytes a text takes. -/
def byteLength (text : List Char) : Nat :=
  text.foldl (fun total c => total + c.utf8Size) 0

/-- A fault found in what has been consumed. -/
def Fault.before (kind : FaultKind) (rest : List Char) : Fault :=
  ⟨kind, byteLength rest⟩

/-- A fault found by looking at the next byte, which counts as consumed. -/
def Fault.at (kind : FaultKind) (rest : List Char) : Fault :=
  ⟨kind, byteLength rest - 1⟩

/-- A place in a text: the line from one, and the bytes of the line before
it. -/
structure Place where
  line : Nat
  column : Nat
  deriving DecidableEq, Repr

/-- The place reached after some more bytes of a text. -/
def Place.advance (place : Place) : List Char → Nat → Place
  | [], _ => place
  | c :: rest, bytes =>
    if bytes = 0 then place
    else if c = '\n' then Place.advance ⟨place.line + 1, 0⟩ rest (bytes - 1)
    else Place.advance ⟨place.line, place.column + min c.utf8Size bytes⟩ rest (bytes - c.utf8Size)

/-- The fault in words, with its place in the text. -/
def Fault.describe (fault : Fault) (text : String) : String :=
  let place := Place.advance ⟨1, 0⟩ text.toList (text.utf8ByteSize - fault.bytesLeft)
  s!"{fault.kind.message} at line {place.line} column {place.column}"

end InfraSynth.Json
