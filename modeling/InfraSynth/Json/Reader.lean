import InfraSynth.Json.Draft
import InfraSynth.Json.Numeral
import InfraSynth.Json.Quoted

/-!
# Reading JSON texts

`Document.ofText` reads one value that takes up the whole text, and
`Json.parse` gives it as a value.  Containers may be nested 127 levels deep.

## Strategy

`readValue` recurses on the number of levels that are left; the items of an
array and the entries of an object are loops over the function that reads one
level less.  What the loops return is either the rest of the text or, if a
fault stopped them, no rest.
-/

namespace InfraSynth.Json

/-- How many containers may be nested in each other. -/
def maxNesting : Nat := 127

/-- Whether a character may stand between tokens. -/
def isSpace (c : Char) : Bool :=
  c = ' ' || c = '\n' || c = '\t' || c = '\r'

/-- The text without leading space. -/
def skipSpace (text : List Char) : List Char :=
  text.dropWhile isSpace

/-- The result of reading something: what was read, and the rest of the text
unless a fault stopped the reading. -/
structure Reading (α : Type) where
  value : α
  rest : Option (List Char)

/-- A value at which reading stops. -/
def Reading.broken (fault : Fault) : Reading Draft :=
  ⟨.broken fault, none⟩

/-- A complete value, or one at which reading stops. -/
def Reading.ofExcept {α : Type} (draft : α → Draft) :
    Except Fault (α × List Char) → Reading Draft
  | .ok (value, rest) => ⟨draft value, some rest⟩
  | .error fault => .broken fault

/-- A value given by name, whose first letter has been seen. -/
def readName (draft : Draft) : List Char → List Char → Reading Draft
  | [], rest => ⟨draft, some rest⟩
  | _ :: _, [] => .broken (.before .valueEnds [])
  | letter :: name, c :: rest =>
    if c = letter then readName draft name rest
    else .broken (.at .expectedIdentifier (c :: rest))

/-- A value that is no container and starts with the given character. -/
def readScalar (c : Char) (rest : List Char) : Reading Draft :=
  if c = 'n' then readName .null ['u', 'l', 'l'] rest
  else if c = 't' then readName (.bool true) ['r', 'u', 'e'] rest
  else if c = 'f' then readName (.bool false) ['a', 'l', 's', 'e'] rest
  else if c = '"' then .ofExcept .string (readString rest)
  else if c = '-' ∨ Text.isAsciiDigit c = true then .ofExcept .number (readNumber (c :: rest))
  else .broken (.at .expectedValue (c :: rest))

/-- What a loop over items or entries has read, the fault found between them,
and the rest of the text. -/
structure Run (α : Type) where
  read : List α
  fault : Option Fault
  rest : Option (List Char)

namespace Run

variable {α : Type}

/-- Nothing more, because the container was closed. -/
def closed (rest : List Char) : Run α :=
  ⟨[], none, some rest⟩

/-- Nothing more, because a fault was found. -/
def broken (fault : Fault) : Run α :=
  ⟨[], some fault, none⟩

/-- One more in front. -/
def push (first : α) (run : Run α) : Run α :=
  { run with read := first :: run.read }

end Run

/-- The items from the start of one to the closing bracket, at most as many as
the second argument says. -/
def readItems (value : List Char → Reading Draft) : Nat → List Char → Run Draft
  | 0, _ => .broken (.before .listEnds [])
  | fuel + 1, text =>
    let item := value text
    match item.rest with
    | none => ⟨[item.value], none, none⟩
    | some rest =>
      Run.push item.value <| match skipSpace rest with
        | [] => .broken (.at .listEnds [])
        | ']' :: rest => .closed rest
        | ',' :: rest => match skipSpace rest with
          | [] => ⟨[.broken (.at .valueEnds [])], none, none⟩
          | ']' :: rest => ⟨[.broken (.at .trailingComma (']' :: rest))], none, none⟩
          | rest => readItems value fuel rest
        | rest => .broken (.at .expectedListCommaOrEnd rest)

/-- An array, after its opening bracket. -/
def readArray (value : List Char → Reading Draft) (text : List Char) : Reading Draft :=
  let run : Run Draft := match skipSpace text with
    | [] => .broken (.at .listEnds [])
    | ']' :: rest => .closed rest
    | rest => readItems value rest.length rest
  ⟨.array run.read run.fault, run.rest⟩

/-- The value of an entry, after its key. -/
def readEntryValue (value : List Char → Reading Draft) (text : List Char) : Reading Draft :=
  match skipSpace text with
  | [] => .broken (.at .objectEnds [])
  | ':' :: rest => value rest
  | rest => .broken (.at .expectedColon rest)

/-- The entries from the start of a key to the closing brace, at most as many
as the second argument says. -/
def readEntries (value : List Char → Reading Draft) : Nat → List Char → Run (String × Draft)
  | 0, _ => .broken (.before .objectEnds [])
  | fuel + 1, '"' :: text =>
    match readString text with
    | .error fault => .broken fault
    | .ok (key, rest) =>
      let entry := readEntryValue value rest
      match entry.rest with
      | none => ⟨[(key, entry.value)], none, none⟩
      | some rest =>
        Run.push (key, entry.value) <| match skipSpace rest with
          | [] => .broken (.at .objectEnds [])
          | '}' :: rest => .closed rest
          | ',' :: rest => match skipSpace rest with
            | [] => .broken (.at .valueEnds [])
            | '}' :: rest => .broken (.at .trailingComma ('}' :: rest))
            | rest => readEntries value fuel rest
          | rest => .broken (.at .expectedObjectCommaOrEnd rest)
  | _ + 1, text => .broken (.at .keyNotString text)

/-- An object, after its opening brace. -/
def readObject (value : List Char → Reading Draft) (text : List Char) : Reading Draft :=
  let run : Run (String × Draft) := match skipSpace text with
    | [] => .broken (.at .objectEnds [])
    | '}' :: rest => .closed rest
    | rest => readEntries value rest.length rest
  ⟨.object run.read run.fault, run.rest⟩

/-- A value in which containers may be nested as deep as the first argument
says. -/
def readValue : Nat → List Char → Reading Draft
  | 0, text =>
    match skipSpace text with
    | [] => .broken (.at .valueEnds [])
    | c :: rest =>
      if c = '[' ∨ c = '{' then .broken (.at .nestedTooDeeply (c :: rest)) else readScalar c rest
  | level + 1, text =>
    match skipSpace text with
    | [] => .broken (.at .valueEnds [])
    | c :: rest =>
      if c = '[' then readArray (readValue level) rest
      else if c = '{' then readObject (readValue level) rest
      else readScalar c rest

/-- A text as far as it was read: its value, and the fault if something other
than space follows it. -/
structure Document where
  draft : Draft
  trailing : Option Fault

/-- Read a text. -/
def Document.ofText (text : String) : Document :=
  let reading := readValue maxNesting text.toList
  { draft := reading.value
    trailing := match reading.rest.map skipSpace with
      | none | some [] => none
      | some rest => some (.at .trailingCharacters rest) }

/-- The value of a document without fault. -/
def Document.toJson (document : Document) : Except Fault Json := do
  let value ← document.draft.toJson
  match document.trailing with
  | some fault => .error fault
  | none => .ok value

/-- The value that a text holds. -/
def parse (text : String) : Except Fault Json :=
  (Document.ofText text).toJson

end InfraSynth.Json
