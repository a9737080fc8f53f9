import InfraSynth.Text.Numeral

/-!
# Keys and texts in TOML

The lexical part of configuration files: white space, comments, keys, and the
four ways of writing a text.  Texts between double quotes have escapes, texts
between single quotes stand for themselves, and both may run over several lines
if three quotes are used.

A reader takes what it stands for from the front of a text and gives the rest,
or nothing if the text begins with something else.
-/

namespace InfraSynth.Toml

/-- A function that takes something from the front of a text. -/
abbrev Reader (α : Type) := List Char → Option (α × List Char)

/-- Whether a character may stand between the parts of a line. -/
def isSpace (c : Char) : Bool :=
  c = ' ' || c = '\t'

/-- The text without leading white space. -/
def skipSpace (text : List Char) : List Char :=
  text.dropWhile isSpace

/-- Whether a character may stand for itself in comments and texts. -/
def isPlain (c : Char) : Bool :=
  c = '\t' || (0x20 ≤ c.toNat && c.toNat ≠ 0x7f)

/-- The rest after the end of a line. -/
def afterLine? : List Char → Option (List Char)
  | [] => some []
  | '\n' :: rest => some rest
  | '\r' :: '\n' :: rest => some rest
  | _ => none

/-- The rest after what may stand at the end of a line: white space and a
comment. -/
def endLine? (text : List Char) : Option (List Char) :=
  match skipSpace text with
  | '#' :: rest => afterLine? (rest.dropWhile isPlain)
  | rest => afterLine? rest

/-! ## Escapes -/

/-- The character with a number of some hexadecimal digits. -/
def codePoint? (width : Nat) (text : List Char) : Option (Char × List Char) := do
  let digits := text.take width
  if digits.length < width then none
  else some (← Text.charOfHex? digits, text.drop width)

/-- The character that an escape stands for, after the backslash. -/
def escape? : Reader Char
  | 'b' :: rest => some ('\x08', rest)
  | 'f' :: rest => some ('\x0c', rest)
  | 'n' :: rest => some ('\n', rest)
  | 'r' :: rest => some ('\r', rest)
  | 't' :: rest => some ('\t', rest)
  | '"' :: rest => some ('"', rest)
  | '\\' :: rest => some ('\\', rest)
  | 'u' :: rest => codePoint? 4 rest
  | 'U' :: rest => codePoint? 8 rest
  | _ => none

/-! ## Texts on one line -/

/-- The characters up to the closing double quote; the number bounds the
steps. -/
def basicChars? : Nat → Reader (List Char)
  | 0, _ => none
  | _ + 1, [] => none
  | fuel + 1, c :: rest =>
    if c = '"' then some ([], rest)
    else if c = '\\' then do
      let (escaped, rest) ← escape? rest
      let (chars, rest) ← basicChars? fuel rest
      some (escaped :: chars, rest)
    else if isPlain c then do
      let (chars, rest) ← basicChars? fuel rest
      some (c :: chars, rest)
    else none

/-- A text between double quotes, after the first of them. -/
def basic? : Reader String := fun text => do
  let (chars, rest) ← basicChars? (text.length + 1) text
  some (String.ofList chars, rest)

/-- A text between single quotes, after the first of them. -/
def literal? : Reader String := fun text =>
  let chars := text.takeWhile fun c => isPlain c && c ≠ '\''
  match text.dropWhile (fun c => isPlain c && c ≠ '\'') with
  | '\'' :: rest => some (String.ofList chars, rest)
  | _ => none

/-! ## Texts on several lines -/

/-- The text without a leading line end. -/
def dropLineEnd (text : List Char) : List Char :=
  match text with
  | '\n' :: rest => rest
  | '\r' :: '\n' :: rest => rest
  | rest => rest

/-- The text without leading white space and line ends; the number bounds the
steps. -/
def skipLines : Nat → List Char → List Char
  | 0, text => text
  | fuel + 1, text =>
    match skipSpace text with
    | '\n' :: rest => skipLines fuel rest
    | '\r' :: '\n' :: rest => skipLines fuel rest
    | rest => rest

/-- Quotes at the end of a text on several lines: three close it, and up to two
before these belong to it. -/
def closing? (quote : Char) (text : List Char) : Option (List Char × List Char) :=
  let count := (text.takeWhile (· = quote)).length
  if count < 3 then none
  else
    let own := min (count - 3) 2
    some (List.replicate own quote, text.drop (own + 3))

/-- The characters up to three closing quotes; `escapes` says whether a
backslash means something.  The number bounds the steps. -/
def longChars? (quote : Char) (escapes : Bool) : Nat → Reader (List Char)
  | 0, _ => none
  | fuel + 1, text =>
    match closing? quote text with
    | some closed => some closed
    | none =>
      let push (c : Char) (rest : List Char) := do
        let (chars, rest) ← longChars? quote escapes fuel rest
        some (c :: chars, rest)
      match text with
      | [] => none
      | '\n' :: rest => push '\n' rest
      | '\r' :: '\n' :: rest => push '\n' rest
      | '\\' :: rest =>
        if !escapes then push '\\' rest
        else match afterLine? (skipSpace rest) with
          | some after =>
            if skipSpace rest = [] then none
            else longChars? quote escapes fuel (skipLines after.length after)
          | none => do
            let (escaped, rest) ← escape? rest
            push escaped rest
      | c :: rest => if isPlain c then push c rest else none

/-- A text on several lines, after its opening quotes. -/
def long? (quote : Char) (escapes : Bool) : Reader String := fun text => do
  let text := dropLineEnd text
  let (chars, rest) ← longChars? quote escapes (text.length + 1) text
  some (String.ofList chars, rest)

/-- A text in any of its forms. -/
def text? : Reader String
  | '"' :: '"' :: '"' :: rest => long? '"' true rest
  | '\'' :: '\'' :: '\'' :: rest => long? '\'' false rest
  | '"' :: rest => basic? rest
  | '\'' :: rest => literal? rest
  | _ => none

/-! ## Keys -/

/-- Whether a character may stand in a key without quotes. -/
def isBare (c : Char) : Bool :=
  c.isAlphanum || c = '_' || c = '-'

/-- A key. -/
def key? : Reader String
  | '"' :: rest => basic? rest
  | '\'' :: rest => literal? rest
  | text =>
    let chars := text.takeWhile isBare
    if chars.isEmpty then none else some (String.ofList chars, text.dropWhile isBare)

/-- Keys with points between them, and white space around each; the number
bounds their count. -/
def keys? : Nat → Reader (List String)
  | 0, _ => none
  | fuel + 1, text => do
    let (key, rest) ← key? (skipSpace text)
    match skipSpace rest with
    | '.' :: rest => do
      let (keys, rest) ← keys? fuel rest
      some (key :: keys, rest)
    | rest => some ([key], rest)

end InfraSynth.Toml
