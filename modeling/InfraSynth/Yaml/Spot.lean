/-!
# Places in a text

Indentation carries meaning in YAML, so every character is kept together with
the line and the column where it stands.  Line ends of all kinds are unified
first, except for the two separators of Unicode, which end a line and belong to
the text at the same time.

## Main definitions

* `Spot` is a character and its place.
* `spots?` are the characters of a text, if all of them are allowed.
* `mark?` reads the marks that stand between documents.
-/

namespace InfraSynth.Yaml

/-! ## Kinds of characters -/

/-- Whether a character may stand in a text. -/
def isAllowed (c : Char) : Bool :=
  let number := c.toNat
  c = '\t' || c = '\n' || c = '\r' || number = 0x85 ||
    (0x20 ≤ number && number ≤ 0x7e) ||
    (0xa0 ≤ number && number ≤ 0xfffd) ||
    0x10000 ≤ number

/-- Whether a character ends a line. -/
def isBreak (c : Char) : Bool :=
  c = '\n' || c = '\u2028' || c = '\u2029'

/-- Whether a character is white space within a line. -/
def isBlank (c : Char) : Bool :=
  c = ' ' || c = '\t'

/-- Whether a character is white space. -/
def isGap (c : Char) : Bool :=
  isBlank c || isBreak c

/-- Whether a character is a mark of the byte order. -/
def isByteOrder (c : Char) : Bool :=
  c = '\ufeff'

/-- Whether a character may stand in a name. -/
def isNamed (c : Char) : Bool :=
  c.isAlphanum || c = '_' || c = '-'

/-! ## Characters and their places -/

/-- A character, and where it stands; lines and columns count from zero. -/
structure Spot where
  char : Char
  line : Nat
  column : Nat
  /-- How many bytes the characters before it in its line take up. -/
  offset : Nat

/-- A function that takes something from the front of a text. -/
abbrev Reader (α : Type) := List Spot → Option (α × List Spot)

/-- The text with one kind of line end in place of four. -/
def unifyLineEnds : List Char → List Char
  | '\r' :: '\n' :: rest => '\n' :: unifyLineEnds rest
  | '\r' :: rest => '\n' :: unifyLineEnds rest
  | '\u0085' :: rest => '\n' :: unifyLineEnds rest
  | c :: rest => c :: unifyLineEnds rest
  | [] => []

/-- Characters that go on at a place. -/
def place (line column offset : Nat) : List Char → List Spot
  | [] => []
  | c :: rest =>
    ⟨c, line, column, offset⟩ ::
      if isBreak c then place (line + 1) 0 0 rest
      else place line (column + 1) (offset + c.utf8Size) rest

/-- The characters of a text with their places, if all of them are allowed. -/
def spots? (text : String) : Option (List Spot) :=
  let chars := text.toList
  if chars.all isAllowed then some (place 0 0 0 (unifyLineEnds chars)) else none

/-- The characters without their places. -/
def chars (text : List Spot) : List Char :=
  text.map (·.char)

/-! ## The front of a text -/

/-- The longest piece at the front whose characters pass a test, and the rest. -/
def span (test : Char → Bool) (text : List Spot) : List Spot × List Spot :=
  (text.takeWhile (test ·.char), text.dropWhile (test ·.char))

/-- The rest after the characters at the front that pass a test. -/
def skip (test : Char → Bool) (text : List Spot) : List Spot :=
  text.dropWhile (test ·.char)

/-- Whether the first character passes a test. -/
def begins (test : Char → Bool) (text : List Spot) : Bool :=
  text.head?.any (test ·.char)

/-- Whether the text is over or begins with white space. -/
def atGap (text : List Spot) : Bool :=
  text.head?.all (isGap ·.char)

/-- Whether the line is over. -/
def atLineEnd (text : List Spot) : Bool :=
  text.head?.all (isBreak ·.char)

/-- The rest after what may stand at the end of a line: white space, a comment,
and the line end itself. -/
def endLine? (text : List Spot) : Option (List Spot) :=
  let text := skip isBlank text
  let text := if begins (· = '#') text then skip (!isBreak ·) text else text
  if atLineEnd text then some (text.drop 1) else none

/-! ## Marks between documents -/

/-- A mark that begins or ends a document. -/
inductive Mark
  | start
  | ending
  deriving DecidableEq

/-- The mark that stands for itself at the beginning of a line. -/
def mark? : Reader Mark
  | a :: b :: c :: rest =>
    if a.column = 0 ∧ atGap rest = true then
      if chars [a, b, c] = ['-', '-', '-'] then some (.start, rest)
      else if chars [a, b, c] = ['.', '.', '.'] then some (.ending, rest)
      else none
    else none
  | _ => none

end InfraSynth.Yaml
