import InfraSynth.Text.Numeral
import InfraSynth.Yaml.Scalar

/-!
# Scalars between quotes

Between single quotes, a quote is written twice and everything else stands for
itself.  Between double quotes a backslash begins an escape, and at the end of
a line it joins the line with the next one.
-/

namespace InfraSynth.Yaml

/-- The two kinds of quotes. -/
inductive Quote
  | single
  | double
  deriving DecidableEq

/-- The character that opens and closes a text. -/
def Quote.char : Quote → Char
  | single => '\''
  | double => '"'

/-- The characters that stand for others after a backslash. -/
def escapes : List (Char × Char) := [
  ('0', '\x00'), ('a', '\x07'), ('b', '\x08'), ('t', '\t'), ('\t', '\t'), ('n', '\n'),
  ('v', '\x0b'), ('f', '\x0c'), ('r', '\r'), ('e', '\x1b'), (' ', ' '), ('"', '"'), ('/', '/'),
  ('\\', '\\'), ('N', '\u0085'), ('_', '\u00a0'), ('L', '\u2028'), ('P', '\u2029')]

/-- How many hexadecimal digits follow a letter after a backslash. -/
def hexWidths : List (Char × Nat) :=
  [('x', 2), ('u', 4), ('U', 8)]

/-- The character that an escape stands for, after its backslash. -/
def escape? : Reader Char
  | [] => none
  | spot :: rest =>
    match escapes.lookup spot.char, hexWidths.lookup spot.char with
    | some c, _ => some (c, rest)
    | none, some width => do
      let digits := rest.take width
      if digits.length < width then none
      else some (← Text.charOfHex? (chars digits), rest.drop width)
    | none, none => none

/-- The characters up to the closing quote; the number bounds the steps. -/
def quotedChars? (quote : Quote) : Nat → Reader (List Char)
  | 0, _ | _, [] => none
  | fuel + 1, spot :: rest =>
    let go (front : List Char) (rest : List Spot) : Option (List Char × List Spot) := do
      let (more, rest) ← quotedChars? quote fuel rest
      some (front ++ more, rest)
    if (mark? (spot :: rest)).isSome then none
    else if isGap spot.char then
      let (gap, rest) := span isGap (spot :: rest)
      go (fold (chars gap)) rest
    else if spot.char = quote.char then
      if quote = .single ∧ begins (· = '\'') rest = true then go ['\''] (rest.drop 1)
      else some ([], rest)
    else if quote = .double ∧ spot.char = '\\' then
      if begins isBreak rest then
        let (gap, rest) := span isGap (rest.drop 1)
        go ((chars gap).filter isBreak) rest
      else do
        let (c, rest) ← escape? rest
        go [c] rest
    else go [spot.char] rest

/-- A text between quotes, after the first of them. -/
def quoted? (quote : Quote) : Reader String := fun text => do
  let (chars, rest) ← quotedChars? quote (text.length + 1) text
  some (String.ofList chars, rest)

end InfraSynth.Yaml
