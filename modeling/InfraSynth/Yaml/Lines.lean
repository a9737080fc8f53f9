import InfraSynth.Yaml.Scalar

/-!
# Scalars given line by line

After `|` or `>` a text stands on the following lines, indented by some number of
columns.  The header says what becomes of the line ends at the end of the text
and, if need be, how far it is indented; otherwise the first line that is not
empty shows that.  After `>`, lines that do not begin with white space are joined
by spaces.
-/

namespace InfraSynth.Yaml

/-- What becomes of the line ends at the end of the text. -/
inductive Chomping
  | strip
  | clip
  | keep
  deriving DecidableEq

/-- What stands between the indicator of the style and the end of its line. -/
structure LinesHeader where
  chomping : Chomping
  /-- How many columns more than its surroundings the text is indented. -/
  indent : Option Nat

/-! ## The header -/

/-- How the text ends, if it is said. -/
def readChomping : List Spot → Option Chomping × List Spot
  | spot :: rest =>
    if spot.char = '-' then (some .strip, rest)
    else if spot.char = '+' then (some .keep, rest)
    else (none, spot :: rest)
  | [] => (none, [])

/-- How far the text is indented, if it is said. -/
def indentation? : Reader (Option Nat)
  | spot :: rest =>
    if !Text.isAsciiDigit spot.char then some (none, spot :: rest)
    else if spot.char = '0' then none
    else some (some (Text.digitValue spot.char), rest)
  | [] => some (none, [])

/-- The header with the end of its line; its parts may come in either order. -/
def linesHeader? : Reader LinesHeader := fun text => do
  let (first, rest) := readChomping text
  let (indent, rest) ← indentation? rest
  let (second, rest) := if first.isSome then (none, rest) else readChomping rest
  let rest ← endLine? rest
  some (⟨(first.or second).getD .clip, indent⟩, rest)

/-! ## The lines -/

/-- Lines without text. -/
structure EmptyLines where
  breaks : List Char
  /-- The greatest number of spaces at the front of these lines and of the next
  one. -/
  spaces : Nat

/-- The lines without text, and the spaces before the next text up to a limit if
there is one.  A tab may not take the place of such a space.  The number bounds
the lines. -/
def emptyLines? (limit : Option Nat) : Nat → Reader EmptyLines
  | 0, _ => none
  | fuel + 1, text => do
    let all := (span (· = ' ') text).1.length
    let spaces := limit.elim all (min all)
    let rest := text.drop spaces
    if begins (· = '\t') rest ∧ limit.all (spaces < ·) = true then none
    else match rest with
      | [] => some (⟨[], spaces⟩, [])
      | spot :: rest =>
        if isBreak spot.char then do
          let (more, rest) ← emptyLines? limit fuel rest
          some (⟨spot.char :: more.breaks, max spaces more.spaces⟩, rest)
        else some (⟨[], spaces⟩, spot :: rest)

/-- A line with text. -/
structure TextLine where
  /-- The ends of the empty lines before it. -/
  before : List Char
  text : List Char
  /-- The end of the line, which the last line may lack. -/
  ending : Option Char

/-- Whether the text of a line begins with white space. -/
def TextLine.isIndented (line : TextLine) : Bool :=
  line.text.head?.any isBlank

/-- The lines that are indented to a column, given the ends of the empty lines
before them, and the ends of the empty lines after them.  The number bounds the
lines. -/
def textLines? (column : Nat) : Nat → List Char → Reader (List TextLine × List Char)
  | 0, _, _ => none
  | fuel + 1, before, text =>
    match text with
    | [] => some (([], before), [])
    | spot :: _ =>
      if spot.column ≠ column then some (([], before), text)
      else do
        let (line, rest) := span (!isBreak ·) text
        let (empty, after) ← emptyLines? (some column) (rest.length + 1) (rest.drop 1)
        let ((more, breaks), after) ← textLines? column fuel empty.breaks after
        some ((⟨before, chars line, rest.head?.map (·.char)⟩ :: more, breaks), after)

/-! ## The text -/

/-- What stands between two lines of the text. -/
def TextLine.joint (folded : Bool) (line next : TextLine) : List Char :=
  if folded ∧ line.ending = some '\n' ∧ line.isIndented = false ∧ next.isIndented = false then
    if next.before.isEmpty then [' '] else next.before
  else line.ending.toList ++ next.before

/-- The text of the lines after a line. -/
def joinAfter (folded : Bool) (last : TextLine) (chomping : Chomping) (breaks : List Char) :
    List TextLine → List Char
  | [] =>
    match chomping with
    | .strip => []
    | .clip => last.ending.toList
    | .keep => last.ending.toList ++ breaks
  | next :: rest =>
    last.joint folded next ++ next.text ++ joinAfter folded next chomping breaks rest

/-- The text of lines, given the ends of the empty lines after them. -/
def joinLines (folded : Bool) (chomping : Chomping) (breaks : List Char) :
    List TextLine → List Char
  | [] => if chomping = .keep then breaks else []
  | first :: rest =>
    first.before ++ first.text ++ joinAfter folded first chomping breaks rest

/-- A text given line by line, after the indicator of its style; `indent` is the
first column that is indented more than the surroundings. -/
def lines? (folded : Bool) (indent : Nat) : Reader String := fun text => do
  let (header, rest) ← linesHeader? text
  let limit := header.indent.map (indent - 1 + ·)
  let (empty, rest) ← emptyLines? limit (rest.length + 1) rest
  let column := limit.getD (max empty.spaces (max indent 1))
  let ((lines, breaks), rest) ← textLines? column (rest.length + 1) empty.breaks rest
  some (String.ofList (joinLines folded header.chomping breaks lines), rest)

end InfraSynth.Yaml
