import InfraSynth.Toml.Lexical

/-!
# Dates and times in TOML

A moment is a date, a time of day, or both, and then perhaps the distance from
universal time.  It is read with all its digits and checked against the calendar
and the clock; when it is written, a fraction of a second has neither more than
nine digits nor zeros at its end.
-/

namespace InfraSynth.Toml

/-- A day of the calendar. -/
structure Date where
  year : Nat
  month : Nat
  day : Nat
  deriving DecidableEq, Repr

/-- A time of day; a second may be a leap second. -/
structure Time where
  hour : Nat
  minute : Nat
  second : Nat
  nanosecond : Nat
  deriving DecidableEq, Repr

/-- The distance from universal time. -/
inductive Zone
  /-- Universal time itself. -/
  | universal
  /-- So many minutes before or after it. -/
  | minutes (behind : Bool) (count : Nat)
  deriving DecidableEq, Repr

/-- A date, a time, or both. -/
inductive Moment
  | day (date : Date)
  | clock (time : Time)
  | both (date : Date) (time : Time) (zone : Option Zone)
  deriving DecidableEq, Repr

/-! ## The calendar -/

/-- Whether a year has a leap day. -/
def isLeapYear (year : Nat) : Bool :=
  year % 4 = 0 && (year % 100 ≠ 0 || year % 400 = 0)

/-- How many days a month has. -/
def daysOfMonth (year month : Nat) : Nat :=
  if month = 2 then if isLeapYear year then 29 else 28
  else if [4, 6, 9, 11].contains month then 30
  else 31

/-! ## Reading -/

/-- A number of exactly so many digits between two bounds. -/
def number? (count low high : Nat) : Reader Nat := fun text => do
  let digits := text.take count
  let value := Text.digitsValue digits
  if digits.length = count ∧ digits.all Text.isAsciiDigit = true ∧ low ≤ value ∧ value ≤ high then
    some (value, text.drop count)
  else none

/-- The rest after a character. -/
def after? (c : Char) : List Char → Option (List Char)
  | d :: rest => if c = d then some rest else none
  | [] => none

/-- A date. -/
def date? : Reader Date := fun text => do
  let (year, rest) ← number? 4 0 9999 text
  let (month, rest) ← number? 2 1 12 (← after? '-' rest)
  let (day, rest) ← number? 2 1 (daysOfMonth year month) (← after? '-' rest)
  some (⟨year, month, day⟩, rest)

/-- How many digits of a fraction of a second count. -/
def fractionDigits : Nat := 9

/-- The nanoseconds that the digits after a point stand for. -/
def nanoseconds (digits : List Char) : Nat :=
  let digits := digits.take fractionDigits
  Text.digitsValue digits * Nat.pow 10 (fractionDigits - digits.length)

/-- The fraction of a second, if there is one. -/
def readFraction : List Char → Nat × List Char
  | '.' :: rest =>
    let digits := rest.takeWhile Text.isAsciiDigit
    if digits.isEmpty then (0, '.' :: rest)
    else (nanoseconds digits, rest.dropWhile Text.isAsciiDigit)
  | rest => (0, rest)

/-- A time of day. -/
def time? : Reader Time := fun text => do
  let (hour, rest) ← number? 2 0 23 text
  let (minute, rest) ← number? 2 0 59 (← after? ':' rest)
  let (second, rest) ← number? 2 0 60 (← after? ':' rest)
  let (nanosecond, rest) := readFraction rest
  some (⟨hour, minute, second, nanosecond⟩, rest)

/-- A distance from universal time, after its sign. -/
def zoneMinutes? (behind : Bool) : Reader Zone := fun text => do
  let (hour, rest) ← number? 2 0 23 text
  let (minute, rest) ← number? 2 0 59 (← after? ':' rest)
  some (.minutes behind (60 * hour + minute), rest)

/-- The distance from universal time, if there is one; a sign has to begin one. -/
def zone? : Reader (Option Zone)
  | [] => some (none, [])
  | c :: rest =>
    if c = 'Z' ∨ c = 'z' then some (some .universal, rest)
    else if c = '+' ∨ c = '-' then do
      let (zone, rest) ← zoneMinutes? (c = '-') rest
      some (some zone, rest)
    else some (none, c :: rest)

/-- The text of a time of day that goes on after a date. -/
def afterDate? : List Char → Option (List Char)
  | c :: rest => if ['T', 't', ' '].contains c ∧ (number? 2 0 23 rest).isSome then some rest else none
  | [] => none

/-- A moment. -/
def moment? : Reader Moment := fun text => do
  match date? text with
  | some (date, rest) =>
    match afterDate? rest with
    | some rest => do
      let (time, rest) ← time? rest
      let (zone, rest) ← zone? rest
      some (.both date time zone, rest)
    | none => some (.day date, rest)
  | none => do
    let (time, rest) ← time? text
    some (.clock time, rest)

/-! ## Writing -/

/-- A number with zeros before it up to a width. -/
def padZero (width value : Nat) : List Char :=
  let digits := (toString value).toList
  List.replicate (width - digits.length) '0' ++ digits

/-- The text of a date. -/
def Date.chars (date : Date) : List Char :=
  padZero 4 date.year ++ '-' :: padZero 2 date.month ++ '-' :: padZero 2 date.day

/-- The digits of a fraction without the zeros at their end. -/
def fractionChars (nanosecond : Nat) : List Char :=
  if nanosecond = 0 then []
  else '.' :: ((padZero fractionDigits nanosecond).reverse.dropWhile (· = '0')).reverse

/-- The text of a time of day. -/
def Time.chars (time : Time) : List Char :=
  padZero 2 time.hour ++ ':' :: padZero 2 time.minute ++ ':' :: padZero 2 time.second ++
    fractionChars time.nanosecond

/-- The text of a distance from universal time, which is not behind it if it is
zero. -/
def Zone.chars : Zone → List Char
  | universal => ['Z']
  | minutes behind count =>
    (if behind ∧ count ≠ 0 then '-' else '+') ::
      padZero 2 (count / 60) ++ ':' :: padZero 2 (count % 60)

/-- The text of a moment. -/
def Moment.toText (moment : Moment) : String :=
  String.ofList <| match moment with
    | .day date => date.chars
    | .clock time => time.chars
    | .both date time zone => date.chars ++ 'T' :: time.chars ++ zone.elim [] Zone.chars

end InfraSynth.Toml
