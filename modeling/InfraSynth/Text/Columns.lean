/-!
# Texts in columns

Texts filled up with spaces to a width, and texts taken apart into lines.
-/

namespace InfraSynth.Text

/-- Fill up a text at its end. -/
def padRight (width : Nat) (text : String) : String :=
  text ++ String.ofList (List.replicate (width - text.length) ' ')

/-- Fill up a text at its front. -/
def padLeft (width : Nat) (text : String) : String :=
  String.ofList (List.replicate (width - text.length) ' ') ++ text

/-- The lines of a list of characters.  A line end is a line feed, which a carriage
return may precede; after the last of them there is no empty line. -/
def charLines : List Char → List (List Char)
  | [] => []
  | '\n' :: rest => [] :: charLines rest
  | '\r' :: '\n' :: rest => [] :: charLines rest
  | c :: rest =>
    match charLines rest with
    | [] => [[c]]
    | line :: lines => (c :: line) :: lines

/-- The lines of a text. -/
def lines (text : String) : List String :=
  (charLines text.toList).map String.ofList

end InfraSynth.Text
