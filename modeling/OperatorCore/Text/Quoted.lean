import OperatorCore.Text.Unprintable

/-!
# Quoted texts

A text inside of a message is put into single quotes, or into double ones if it has a single quote
and no double one. The backslash, the quote in use and the unprintable characters are escaped, so
that a quoted text stays on one line and its end can be told.
-/

namespace OperatorCore.Text

def hexDigit (n : Nat) : Char := (Nat.digitChar (n % 16)).toLower

/-- The last `width` hexadecimal digits of a number, in lower case. -/
def hex (n : Nat) : Nat → List Char
  | 0 => []
  | width + 1 => hex (n / 16) width ++ [hexDigit n]

/-- The quote that a text is put into. -/
def quoteFor (cs : List Char) : Char :=
  if cs.contains '\'' && !cs.contains '"' then '"' else '\''

/-- A character by its number, with as few hexadecimal digits as there are forms for. -/
def escapedNumber (c : Char) : List Char :=
  let n := c.toNat
  if n < 0x100 then '\\' :: 'x' :: hex n 2
  else if n < 0x10000 then '\\' :: 'u' :: hex n 4
  else '\\' :: 'U' :: hex n 8

/-- A character inside of the given quotes. -/
def escaped (quote c : Char) : List Char :=
  if c = '\\' || c = quote then ['\\', c]
  else if c = '\n' then ['\\', 'n']
  else if c = '\r' then ['\\', 'r']
  else if c = '\t' then ['\\', 't']
  else if isUnprintable c then escapedNumber c
  else [c]

/-- A text in quotes. -/
def quoted (s : String) : String :=
  let cs := s.toList
  let quote := quoteFor cs
  String.ofList (quote :: cs.flatMap (escaped quote) ++ [quote])

/-- The characters of a text, those beyond ASCII by their numbers. -/
def asciiOnly (s : String) : List Char :=
  s.toList.flatMap fun c => if c.toNat < 128 then [c] else escapedNumber c

end OperatorCore.Text
