import InfraSynth.Decode.Source
import InfraSynth.Toml.Moment

/-!
# Configuration files in TOML

A configuration file assigns texts to keys, and tables of texts.  Tables are one
level deep: they are written with a header, with pairs of keys, or between
braces.  A date or time may stand for a table, which has one entry.  Everything
else that the notation knows has no place in a configuration, so a file with it is
turned down like one that is not well formed.

## Strategy

A file is read as a list of lines, which are then carried out one after the
other.  A key may be given only once, and a table may be continued only by more
pairs of keys if it was begun by one.
-/

namespace InfraSynth.Toml

/-- A value. -/
inductive Value
  | text (value : String)
  | moment (value : Moment)
  | table (entries : List (String × Value))

/-- One line of a file that says something. -/
inductive Line
  | header (key : String)
  | assign (keys : List String) (value : Value)

/-! ## Lines -/

/-- A value that is no table. -/
def leaf? : Reader Value := fun text =>
  match text? text with
  | some (value, rest) => some (.text value, rest)
  | none => do
    let (value, rest) ← moment? text
    some (.moment value, rest)

/-- The entries of a table between braces, after the opening one; the number
bounds their count. -/
def inlineEntries? : Nat → Entries Value → Reader Value
  | 0, _, _ => none
  | fuel + 1, entries, text => do
    let (key, rest) ← key? (skipSpace text)
    match skipSpace rest with
    | '=' :: rest => do
      let (value, rest) ← leaf? (skipSpace rest)
      if Entries.contains entries key then none
      else
        let entries := Entries.insert entries key value
        match skipSpace rest with
        | ',' :: rest => inlineEntries? fuel entries rest
        | '}' :: rest => some (.table entries, rest)
        | _ => none
    | _ => none

/-- A value. -/
def value? : Reader Value
  | '{' :: rest =>
    match skipSpace rest with
    | '}' :: rest => some (.table [], rest)
    | rest => inlineEntries? rest.length [] rest
  | text => leaf? text

/-- A header, after its bracket. -/
def header? : Reader Line := fun text => do
  let (key, rest) ← key? (skipSpace text)
  match skipSpace rest with
  | ']' :: rest => some (.header key, rest)
  | _ => none

/-- An assignment. -/
def assignment? : Reader Line := fun text => do
  let (keys, rest) ← keys? (text.length + 1) text
  match rest with
  | '=' :: rest => do
    let (value, rest) ← value? (skipSpace rest)
    some (.assign keys value, rest)
  | _ => none

/-- The lines of a text; the number bounds their count. -/
def lines? : Nat → List Char → Option (List Line)
  | 0, _ => none
  | fuel + 1, text =>
    match skipSpace text with
    | [] => some []
    | rest =>
      match endLine? rest with
      | some rest => lines? fuel rest
      | none => do
        let (line, rest) ← match rest with
          | '[' :: rest => header? rest
          | rest => assignment? rest
        let lines ← lines? fuel (← endLine? rest)
        some (line :: lines)

/-! ## Documents -/

/-- What a key of the file stands for so far. -/
inductive Slot
  | leaf (value : Value)
  /-- A table; `continued` says whether pairs of keys may add to it. -/
  | table (continued : Bool) (entries : Entries Value)

/-- What a slot stands for in the end. -/
def Slot.value : Slot → Value
  | leaf value => value
  | table _ entries => .table entries

/-- A file that has been read in part. -/
structure Progress where
  slots : Entries Slot
  /-- The table that lines belong to after a header. -/
  current : Option String

/-- Give a key of a table a value, unless it has one. -/
def addEntry? (entries : Entries Value) (key : String) (value : Value) :
    Option (Entries Value) :=
  if Entries.contains entries key then none else some (Entries.insert entries key value)

/-- Carry out a line at the top of the file. -/
def Progress.assign? (slots : Entries Slot) : List String → Value → Option (Entries Slot)
  | [key], value =>
    if Entries.contains slots key then none
    else some (Entries.insert slots key (match value with
      | .table entries => .table false entries
      | value => .leaf value))
  | [key, inner], value =>
    match Entries.get? slots key with
    | none => some (Entries.insert slots key (.table true [(inner, value)]))
    | some (.table true entries) => do
      some (Entries.insert slots key (.table true (← addEntry? entries inner value)))
    | some _ => none
  | _, _ => none

/-- Carry out a line. -/
def Progress.step? (progress : Progress) : Line → Option Progress
  | .header key =>
    if Entries.contains progress.slots key then none
    else some ⟨Entries.insert progress.slots key (.table false []), some key⟩
  | .assign keys value =>
    match progress.current with
    | none => do some { progress with slots := ← assign? progress.slots keys value }
    | some header =>
      match keys, Entries.get? progress.slots header with
      | [key], some (.table continued entries) => do
        let entries ← addEntry? entries key value
        some { progress with
          slots := Entries.insert progress.slots header (.table continued entries) }
      | _, _ => none

/-- The text without a mark of the byte order at its front. -/
def dropMark (text : List Char) : List Char :=
  match text with
  | '\ufeff' :: rest => rest
  | rest => rest

/-- The value that a text stands for. -/
def parse? (text : String) : Option Value := do
  let lines ← lines? (text.length + 2) (dropMark text.toList)
  let progress ← lines.foldlM Progress.step? ⟨[], none⟩
  some (.table (progress.slots.map fun (key, slot) => (key, slot.value)))

end InfraSynth.Toml
