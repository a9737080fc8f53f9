import InfraSynth.Unicode.Hidden

/-!
# Quoted text

Error messages show a text between double quotes.  Quotes, backslashes and the
common controls are written with a backslash, and a character that does not
show on its own is written as `\u`, its code point in hexadecimal between
braces.
-/

namespace InfraSynth.Text

/-- One character as it stands between quotes. -/
def quotedChar (c : Char) : List Char :=
  if c = '"' then ['\\', '"']
  else if c = '\\' then ['\\', '\\']
  else if c = '\n' then ['\\', 'n']
  else if c = '\r' then ['\\', 'r']
  else if c = '\t' then ['\\', 't']
  else if c.toNat = 0 then ['\\', '0']
  else if Unicode.isHidden c then '\\' :: 'u' :: '{' :: Nat.toDigits 16 c.toNat ++ ['}']
  else [c]

/-- A text between double quotes. -/
def quoted (text : String) : String :=
  String.ofList ('"' :: text.toList.flatMap quotedChar ++ ['"'])

end InfraSynth.Text
