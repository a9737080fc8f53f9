import InfraSynth.Yaml.Lines
import InfraSynth.Yaml.Plain
import InfraSynth.Yaml.Quoted
import InfraSynth.Yaml.Token

/-!
# The layout of a text

A `Layout` is what has been understood of a text so far: its tokens, the
collections that indentation keeps open, and the place where a key may have
begun.  That it was a key only shows at the colon after it, which then puts the
tokens for the key, and for the mapping that may begin with it, before the tokens
that have been read in between.

## Main definitions

* `Layout.read?` takes one part from the front of a text.
* `tokens?` are the tokens of a whole text.
-/

namespace InfraSynth.Yaml

/-- A place where a key may have begun. -/
structure Candidate where
  /-- How many tokens stand before it. -/
  position : Nat
  spot : Spot
  /-- Whether only a key may stand there. -/
  required : Bool

/-- What has been understood of the front of a text. -/
structure Layout where
  /-- The tokens, the last one first. -/
  tokens : List Token
  /-- How many tokens there are. -/
  count : Nat
  /-- The columns of the collections that are open by indentation, the innermost
  one first. -/
  columns : List Nat
  /-- Where a key may have begun. -/
  candidate : Option Candidate
  /-- The same for the text around each pair of brackets that is open, the
  innermost one first. -/
  outer : List (Option Candidate)
  /-- Whether a key may begin here. -/
  allowsKey : Bool

namespace Layout

/-- Nothing has been read. -/
def empty : Layout :=
  ⟨[], 0, [], none, [], true⟩

/-- Whether the text stands between brackets. -/
def isBracketed (layout : Layout) : Bool :=
  !layout.outer.isEmpty

/-- The first column that is indented more than the innermost collection. -/
def indent (layout : Layout) : Nat :=
  layout.columns.head?.elim 0 (· + 1)

/-- Add a token. -/
def emit (layout : Layout) (token : Token) : Layout :=
  { layout with tokens := token :: layout.tokens, count := layout.count + 1 }

/-- Put a token before those that come from a position on. -/
def insert (layout : Layout) (position : Nat) (token : Token) : Layout :=
  let later := layout.count - position
  { layout with
    tokens := layout.tokens.take later ++ token :: layout.tokens.drop later
    count := layout.count + 1 }

/-- Allow or forbid a key to begin here. -/
def allowing (allowed : Bool) (layout : Layout) : Layout :=
  { layout with allowsKey := allowed }

/-! ## Collections by indentation -/

/-- End the collections whose columns pass a test. -/
def close (ends : Nat → Bool) (layout : Layout) : Layout :=
  if layout.isBracketed then layout
  else
    let kept := layout.columns.dropWhile ends
    let closed := (layout.columns.takeWhile ends).foldl (fun layout _ => layout.emit .dedent) layout
    { closed with columns := kept }

/-- Begin a collection at a column, its token coming at a position, unless the
column belongs to an open one. -/
def openAt (layout : Layout) (column position : Nat) (token : Token) : Layout :=
  if layout.isBracketed || column < layout.indent then layout
  else { layout.insert position token with columns := column :: layout.columns }

/-- A part of a collection that indentation shows: a key has to be allowed where
it stands, and it begins a collection unless its column belongs to one. -/
def enter? (layout : Layout) (spot : Spot) (token : Token) : Option Layout :=
  if layout.isBracketed then some layout
  else if layout.allowsKey then some (layout.openAt spot.column layout.count token)
  else none

/-! ## Keys -/

/-- Give up the candidate, which may not be required. -/
def dropCandidate? (layout : Layout) : Option Layout :=
  if layout.candidate.any (·.required) then none
  else some { layout with candidate := none }

/-- Note that a key may begin at a place. -/
def noteCandidate? (layout : Layout) (spot : Spot) : Option Layout :=
  if !layout.allowsKey then some layout
  else do
    let required := !layout.isBracketed && layout.indent = spot.column + 1
    some { ← layout.dropCandidate? with candidate := some ⟨layout.count, spot, required⟩ }

/-- Whether a key that begins with a candidate would have ended before a place: it
has to stand on one line and may not be longer than 1024 bytes. -/
def isOver (spot : Spot) (candidate : Candidate) : Bool :=
  candidate.spot.line < spot.line || candidate.spot.offset + 1024 < spot.offset

/-- Give up the candidates that are over at a place. -/
def dropOver? (layout : Layout) (spot : Spot) : Option Layout :=
  let stays (candidate : Candidate) := !isOver spot candidate
  if (layout.candidate :: layout.outer).any (·.any fun c => c.required && !stays c) then none
  else some { layout with
    candidate := layout.candidate.filter stays
    outer := layout.outer.map (·.filter stays) }

/-! ## Parts of a text -/

/-- The text goes on with another document or with directives. -/
def endDocument? (layout : Layout) : Option Layout :=
  (layout.close fun _ => true).allowing false |>.dropCandidate?

/-- An opening bracket, which may begin a key. -/
def openBracket? (layout : Layout) (spot : Spot) (bracket : Bracket) : Option Layout := do
  let layout ← layout.noteCandidate? spot
  let inner := { layout with outer := layout.candidate :: layout.outer, candidate := none }
  some ((inner.allowing true).emit (.opening bracket))

/-- A closing bracket. -/
def closeBracket? (layout : Layout) (bracket : Bracket) : Option Layout := do
  let layout ← layout.dropCandidate?
  let around := match layout.outer with
    | [] => layout
    | candidate :: outer => { layout with candidate, outer }
  some ((around.allowing false).emit (.closing bracket))

/-- A comma. -/
def comma? (layout : Layout) : Option Layout := do
  some (((← layout.dropCandidate?).allowing true).emit .comma)

/-- The hyphen before an item. -/
def item? (layout : Layout) (spot : Spot) : Option Layout := do
  let layout ← (← layout.enter? spot .sequence).dropCandidate?
  some ((layout.allowing true).emit .item)

/-- The question mark before a key. -/
def key? (layout : Layout) (spot : Spot) : Option Layout := do
  let layout ← (← layout.enter? spot .mapping).dropCandidate?
  some ((layout.allowing !layout.isBracketed).emit .key)

/-- The colon before a value.  What began with the candidate is its key. -/
def value? (layout : Layout) (spot : Spot) : Option Layout :=
  match layout.candidate with
  | some candidate =>
    let layout := layout.insert candidate.position .key
      |>.openAt candidate.spot.column candidate.position .mapping
      |>.allowing false
    some ({ layout with candidate := none }.emit .value)
  | none => do
    let layout ← layout.enter? spot .mapping
    some ((layout.allowing !layout.isBracketed).emit .value)

/-- A part that may begin a key. -/
def leaf? (layout : Layout) (spot : Spot) (token : Token) : Option Layout := do
  some (((← layout.noteCandidate? spot).allowing false).emit token)

/-- A text given line by line, which is no key. -/
def lines? (layout : Layout) (folded : Bool) (text : List Spot) :
    Option (Layout × List Spot) := do
  let layout ← layout.dropCandidate?
  let (value, rest) ← Yaml.lines? folded layout.indent text
  let style := if folded then .folded else .literal
  some ((layout.allowing true).emit (.scalar style value), rest)

/-- A text between quotes. -/
def quoted? (layout : Layout) (spot : Spot) (quote : Quote) (text : List Spot) :
    Option (Layout × List Spot) := do
  let (value, rest) ← Yaml.quoted? quote text
  some (← layout.leaf? spot (.scalar .quoted value), rest)

/-- A text without quotes. -/
def plain? (layout : Layout) (spot : Spot) (text : List Spot) :
    Option (Layout × List Spot) := do
  let (value, rest) ← Yaml.plain? ⟨layout.isBracketed, layout.indent⟩ text
  let next ← layout.leaf? spot (.scalar .plain (String.ofList value.chars))
  some (next.allowing value.endsLine, rest)

end Layout

/-- The name of an anchor or alias. -/
def anchorName? : Reader String := fun text =>
  let (name, rest) := span isNamed text
  if !name.isEmpty && (atGap rest || begins ("?:,]\x7d%@`".toList.contains ·) rest) then
    some (String.ofList (chars name), rest)
  else none

namespace Layout

/-- Take the next part, which begins with the given character, from the front of a
text. -/
def read? (layout : Layout) (spot : Spot) (rest : List Spot) : Option (Layout × List Spot) :=
  let text := spot :: rest
  let bracketed := layout.isBracketed
  if spot.column = 0 ∧ spot.char = '%' then do
    let (directive, rest) ← directive? rest
    some ((← layout.endDocument?).emit (.directive directive), rest)
  else match mark? text with
  | some (mark, rest) => do some ((← layout.endDocument?).emit (.mark mark), rest)
  | none =>
    match spot.char with
    | '[' => do some (← layout.openBracket? spot .square, rest)
    | '{' => do some (← layout.openBracket? spot .curly, rest)
    | ']' => do some (← layout.closeBracket? .square, rest)
    | '}' => do some (← layout.closeBracket? .curly, rest)
    | ',' => do some (← layout.comma?, rest)
    | '*' => do
      let (name, rest) ← anchorName? rest
      some (← layout.leaf? spot (.alias name), rest)
    | '&' => do
      let (name, rest) ← anchorName? rest
      some (← layout.leaf? spot (.anchor name), rest)
    | '!' => do
      let (name, rest) ← tagName? bracketed text
      some (← layout.leaf? spot (.tag name), rest)
    | '\'' => layout.quoted? spot .single rest
    | '"' => layout.quoted? spot .double rest
    | c =>
      if c = '-' ∧ atGap rest = true then do some (← layout.item? spot, rest)
      else if c = '?' ∧ (bracketed || atGap rest) = true then do some (← layout.key? spot, rest)
      else if c = ':' ∧ (bracketed || atGap rest) = true then do
        some (← layout.value? spot, rest)
      else if c = '|' ∧ !bracketed then layout.lines? false rest
      else if c = '>' ∧ !bracketed then layout.lines? true rest
      else if beginsPlain bracketed text then layout.plain? spot text
      else none

/-- Skip white space, comments, and a mark of the byte order at the beginning of a
line.  Outside brackets a key may begin on a new line, and a tab may only stand
where none may begin. -/
def skipGap (layout : Layout) (comment : Bool) : List Spot → Layout × List Spot
  | [] => (layout, [])
  | spot :: rest =>
    if isBreak spot.char then
      skipGap (layout.allowing (layout.allowsKey || !layout.isBracketed)) false rest
    else if comment || spot.char = ' ' || (spot.column = 0 && isByteOrder spot.char) ||
        (spot.char = '\t' && (layout.isBracketed || !layout.allowsKey)) then
      skipGap layout comment rest
    else if spot.char = '#' then skipGap layout true rest
    else (layout, spot :: rest)

/-- The tokens of a text, given the layout of what comes before; the number bounds
the parts. -/
def readAll? : Nat → Layout → List Spot → Option (List Token)
  | 0, _, _ => none
  | fuel + 1, layout, text => do
    let (layout, rest) := layout.skipGap false text
    match rest with
    | [] =>
      if (layout.candidate :: layout.outer).any (·.any (·.required)) then none
      else some (layout.close fun _ => true).tokens.reverse
    | spot :: rest =>
      let layout := (← layout.dropOver? spot).close (spot.column < ·)
      let (layout, rest) ← layout.read? spot rest
      readAll? fuel layout rest

end Layout

/-- The tokens of a text. -/
def tokens? (text : String) : Option (List Token) := do
  let spots ← spots? text
  Layout.empty.readAll? (spots.length + 1) spots

end InfraSynth.Yaml
