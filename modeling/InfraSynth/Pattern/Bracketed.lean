import InfraSynth.Pattern.Escape

/-!
# Classes in brackets

A class lists characters, ranges of them, and other classes, and sets can be put
together in it: `&&` for what is in both, `--` for what is in the first only, and
`~~` for what is in one of them only.

How deep classes are nested is counted, because a pattern may only be so deep.
-/

namespace InfraSynth.Pattern

/-- The classes that are named between colons. -/
def namedClasses : List (String × CharSet) := [
  ("alnum", .alphanumeric),
  ("alpha", .letter),
  ("ascii", .ascii),
  ("blank", .ofText "\t "),
  ("cntrl", .union (.range '\x00' '\x1f') (.single '\x7f')),
  ("digit", .asciiDigit),
  ("graph", .range '!' '~'),
  ("lower", .lower),
  ("print", .range ' ' '~'),
  ("punct", .unions [.range '!' '/', .range ':' '@', .range '[' '\x60', .range '{' '~']),
  ("space", asciiSpace),
  ("upper", .upper),
  ("word", asciiWord),
  ("xdigit", .unions [.asciiDigit, .range 'A' 'F', .range 'a' 'f'])]

/-- The class named after `[`, with an optional `^`, if there is one. -/
private def readNamedClass : List Char → Option ((Bool × CharSet) × List Char)
  | ':' :: rest => do
    let (negated, rest) := match rest with
      | '^' :: rest => (true, rest)
      | rest => (false, rest)
    let name := String.ofList (rest.takeWhile (· ≠ ':'))
    match rest.dropWhile (· ≠ ':') with
    | ':' :: ']' :: rest => do some ((negated, ← namedClasses.lookup name), rest)
    | _ => none
  | _ => none

/-! ## Parts -/

/-- Characters that have been read, and how deep what stands for them is. -/
structure ClassPart where
  chars : CharSet
  /-- Of how many items the part consists. -/
  count : Nat
  /-- The depth of the deepest of them. -/
  inner : Nat

namespace ClassPart

/-- Nothing has been read. -/
def empty : ClassPart :=
  ⟨.empty, 0, 0⟩

/-- Add an item. -/
def push (part : ClassPart) (chars : CharSet) (depth : Nat) : ClassPart :=
  ⟨part.chars.union chars, part.count + 1, max part.inner depth⟩

/-- How deep the part is. -/
def depth (part : ClassPart) : Nat :=
  if part.count ≤ 1 then part.inner else part.inner + 1

end ClassPart

/-- A set operation between two parts. -/
inductive SetOperation
  | inter
  | diff
  | symmetricDiff

/-- Apply a set operation. -/
def SetOperation.apply : SetOperation → CharSet → CharSet → CharSet
  | inter => .inter
  | diff => .diff
  | symmetricDiff => .symmetricDiff

/-- The first operand of a set operation that waits for its second one, and its
depth. -/
abbrev PendingOperation := Option (CharSet × Nat × SetOperation)

/-- Combine the pending operand with the part that was read after it. -/
private def complete (flags : Flags) (pending : PendingOperation) (part : ClassPart) :
    CharSet × Nat :=
  match pending with
  | some (first, depth, operation) =>
    (operation.apply (flags.fold first) (flags.fold part.chars), max depth part.depth + 1)
  | none => (part.chars, part.depth)

/-- The operand that waits after a set operation. -/
private def await (flags : Flags) (pending : PendingOperation) (part : ClassPart)
    (operation : SetOperation) : PendingOperation :=
  let (chars, depth) := complete flags pending part
  some (chars, depth, operation)

/-! ## Items -/

/-- One character or one class with a backslash. -/
private def readClassItem (flags : Flags) : List Char → Option (Escape × List Char)
  | '\\' :: rest => do
    match ← readEscape flags rest with
    | (.assertion _, _) => none
    | item => some item
  | c :: rest => some (.char c, rest)
  | [] => none

/-- A single character, which has to be one of ASCII where only these can be told
apart. -/
private def classChar? (flags : Flags) (c : Char) : Option Char :=
  if flags.has .allScripts ∨ c.toNat < 0x80 then some c else none

/-- The character that comes next, and the one at which a look ahead over white
space ends; it ends in the comment if there is one. -/
private def lookAhead (flags : Flags) (text : List Char) : Option Char :=
  if !flags.has .spaced then text.head?
  else
    let rest := text.dropWhile Unicode.isSpace
    let rest := if rest.head? = some '#' then (rest.drop 1).dropWhile Unicode.isSpace else rest
    (rest.head?).or text.head?

/-- An item of a class and the range that it may start. -/
private def readRange (flags : Flags) (text : List Char) : Option (CharSet × List Char) := do
  let (item, rest) ← readClassItem flags text
  let rest := flags.skip rest
  let startsRange := rest.head? = some '-' &&
    !(["]", "-"].any fun mark => (lookAhead flags (rest.drop 1)).any (mark.toList.contains ·))
  if startsRange then
    match item, ← readClassItem flags (flags.skip (rest.drop 1)) with
    | .char low, (.char high, rest) =>
      let low ← classChar? flags low
      let high ← classChar? flags high
      if low ≤ high then some (.range low high, rest) else none
    | _, _ => none
  else
    match item with
    | .char c => some (.single (← classChar? flags c), rest)
    | .set chars => some (chars, rest)
    | .assertion _ => none

/-- The hyphens at the beginning of a class, which stand for themselves; the number
bounds them. -/
private def readHyphens (flags : Flags) : Nat → ClassPart → List Char → ClassPart × List Char
  | fuel + 1, part, '-' :: rest =>
    readHyphens flags fuel (part.push (.single '-') 0) (flags.skip rest)
  | _, part, rest => (part, rest)

/-- How a class begins: whether it is negated, and the hyphens and the bracket
that stand for themselves there. -/
private def openClass (flags : Flags) (text : List Char) : Bool × ClassPart × List Char :=
  let (negated, rest) := match flags.skip text with
    | '^' :: rest => (true, flags.skip rest)
    | rest => (false, rest)
  let (part, rest) := readHyphens flags rest.length .empty rest
  match part.count, rest with
  | 0, ']' :: rest => (negated, part.push (.single ']') 0, flags.skip rest)
  | _, rest => (negated, part, rest)

/-- The items of a class up to its closing bracket, and how deep they are.  The
first number bounds the steps. -/
private def readClassItems (flags : Flags) (pending : PendingOperation) (part : ClassPart) :
    Nat → List Char → Option ((CharSet × Nat) × List Char)
  | 0, _ => none
  | fuel + 1, text =>
    match flags.skip text with
    | ']' :: rest => some (complete flags pending part, rest)
    | '[' :: rest =>
      match readNamedClass rest with
      | some ((negated, named), rest) => do
        let named ← flags.negate? negated (flags.fold named)
        readClassItems flags pending (part.push named 0) fuel rest
      | none => do
        let (negated, start, rest) := openClass flags rest
        let ((inner, depth), rest) ← readClassItems flags none start fuel rest
        let inner ← flags.negate? negated (flags.fold inner)
        readClassItems flags pending (part.push inner (depth + 1)) fuel rest
    | '&' :: '&' :: rest => readClassItems flags (await flags pending part .inter) .empty fuel rest
    | '-' :: '-' :: rest => readClassItems flags (await flags pending part .diff) .empty fuel rest
    | '~' :: '~' :: rest =>
      readClassItems flags (await flags pending part .symmetricDiff) .empty fuel rest
    | text => do
      let (item, rest) ← readRange flags text
      readClassItems flags pending (part.push item 0) fuel rest

/-- A class, after its opening bracket, and how deep it is. -/
def readClass (flags : Flags) (text : List Char) : Option ((CharSet × Nat) × List Char) := do
  let (negated, start, rest) := openClass flags text
  let ((chars, depth), rest) ← readClassItems flags none start (text.length + 1) rest
  some ((← flags.negate? negated (flags.fold chars), depth + 1), rest)

end InfraSynth.Pattern
