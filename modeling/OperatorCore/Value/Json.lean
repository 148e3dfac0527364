import OperatorCore.Value.Literal

/-!
# Values as JSON texts

Reading keeps what the later modules depend on: the order of the fields, and the difference between
an integer (of any size) and a floating-point number, which is a number with a point or an exponent,
or one of the words for what no digits can tell. A key that is given twice keeps its first place and
takes its last value. Writing is the other way round; floating-point numbers are written by their
shortest decimals.
-/

namespace OperatorCore.Json

def isBlank (c : Char) : Bool := c = ' ' || c = '\n' || c = '\r' || c = '\t'

/-- The rest of a text after a given beginning. -/
def after? : List Char → List Char → Option (List Char)
  | [], cs => some cs
  | _ :: _, [] => none
  | p :: ps, c :: cs => if p = c then after? ps cs else none

def hexValue? (c : Char) : Option Nat :=
  if '0' ≤ c && c ≤ '9' then some (c.toNat - '0'.toNat)
  else if 'a' ≤ c && c ≤ 'f' then some (c.toNat - 'a'.toNat + 10)
  else if 'A' ≤ c && c ≤ 'F' then some (c.toNat - 'A'.toNat + 10)
  else none

/-- Reads four hexadecimal digits. -/
def unit? : List Char → Option (Nat × List Char)
  | a :: b :: c :: d :: rest => do
    let digits ← [a, b, c, d].mapM hexValue?
    pure (digits.foldl (fun n digit => 16 * n + digit) 0, rest)
  | _ => none

/-- Reads what follows `\u`: one unit, or a pair of units that make up one character. A unit that
is half of a pair and stands alone is read as the replacement character. -/
def unicode? (cs : List Char) : Option (Char × List Char) := do
  let (high, rest) ← unit? cs
  let alone := (Char.ofNat (if 0xD800 ≤ high && high < 0xE000 then 0xFFFD else high), rest)
  if 0xD800 ≤ high && high < 0xDC00 then
    match rest with
    | '\\' :: 'u' :: more =>
      let (low, rest') ← unit? more
      if 0xDC00 ≤ low && low < 0xE000 then
        pure (Char.ofNat (0x10000 + (high - 0xD800) * 0x400 + (low - 0xDC00)), rest')
      else pure alone
    | _ => pure alone
  else pure alone

def escape? : Char → Option Char
  | '"' => some '"'
  | '\\' => some '\\'
  | '/' => some '/'
  | 'b' => some '\x08'
  | 'f' => some '\x0c'
  | 'n' => some '\n'
  | 'r' => some '\r'
  | 't' => some '\t'
  | _ => none

/-- Reads the rest of a text up to its closing quote; what is read already is in reverse. -/
def textTail? (fuel : Nat) (done : List Char) (cs : List Char) : Option (String × List Char) :=
  match fuel, cs with
  | _ + 1, '"' :: rest => some (String.ofList done.reverse, rest)
  | fuel + 1, '\\' :: 'u' :: rest => do
    let (c, rest') ← unicode? rest
    textTail? fuel (c :: done) rest'
  | fuel + 1, '\\' :: c :: rest => do
    let c' ← escape? c
    textTail? fuel (c' :: done) rest
  | fuel + 1, c :: rest => textTail? fuel (c :: done) rest
  | _, _ => none

def natOf (digits : List Char) : Nat :=
  digits.foldl (fun n d => 10 * n + (d.toNat - '0'.toNat)) 0

/-- The digits of an exponent after its mark, with their sign. -/
def exponent? : List Char → Option (Int × List Char)
  | 'e' :: cs | 'E' :: cs =>
    let (negative, cs) := match cs with
      | '-' :: rest => (true, rest)
      | '+' :: rest => (false, rest)
      | rest => (false, rest)
    let digits := cs.takeWhile Char.isDigit
    if digits.isEmpty then none
    else some (Binary64.signed negative (natOf digits), cs.dropWhile Char.isDigit)
  | _ => none

/-- Reads a number. -/
def number? (cs : List Char) : Option (Value × List Char) := do
  let (negative, cs) := match cs with
    | '-' :: rest => (true, rest)
    | rest => (false, rest)
  let whole := cs.takeWhile Char.isDigit
  if whole.isEmpty then none
  let rest := cs.dropWhile Char.isDigit
  let (fraction, rest) := match rest with
    | '.' :: more => (some (more.takeWhile Char.isDigit), more.dropWhile Char.isDigit)
    | _ => (none, rest)
  match fraction, exponent? rest with
  | none, none => some (.int (Binary64.signed negative (natOf whole)), rest)
  | fraction, exponent =>
    let digits := fraction.getD []
    let (e, rest) := exponent.getD (0, rest)
    some (.float (Binary64.ofDecimal negative (natOf (whole ++ digits)) (e - digits.length)), rest)

/-- The values that are written as words. -/
def words : List (String × Value) :=
  [("null", .null), ("true", .bool true), ("false", .bool false), ("NaN", .float .undefined),
    ("Infinity", .float (.infinity false)), ("-Infinity", .float (.infinity true))]

/-- Reads a word. -/
def word? (cs : List Char) : Option (Value × List Char) :=
  words.findSome? fun p => (after? p.1.toList cs).map fun rest => (p.2, rest)

mutual

/-- Reads a value. -/
def value? (fuel : Nat) (cs : List Char) : Option (Value × List Char) :=
  match fuel with
  | 0 => none
  | fuel + 1 =>
    match cs.dropWhile isBlank with
    | '"' :: rest => do
      let (s, rest) ← textTail? (rest.length + 1) [] rest
      pure (.str s, rest)
    | '[' :: rest => match rest.dropWhile isBlank with
      | ']' :: rest => some (.arr [], rest)
      | rest => do
        let (items, rest) ← items? fuel rest
        pure (.arr items, rest)
    | '\x7b' :: rest => match rest.dropWhile isBlank with
      | '\x7d' :: rest => some (.obj [], rest)
      | rest => do
        let (fields, rest) ← fields? fuel [] rest
        pure (.obj fields, rest)
    | cs => (word? cs).orElse fun _ => number? cs

/-- Reads the items of a list up to its closing bracket. -/
def items? (fuel : Nat) (cs : List Char) : Option (List Value × List Char) :=
  match fuel with
  | 0 => none
  | fuel + 1 => do
    let (v, rest) ← value? fuel cs
    match rest.dropWhile isBlank with
    | ',' :: rest =>
      let (vs, rest) ← items? fuel rest
      pure (v :: vs, rest)
    | ']' :: rest => pure ([v], rest)
    | _ => none

/-- Reads the fields of an object up to its closing brace. -/
def fields? (fuel : Nat) (done : Fields) (cs : List Char) : Option (Fields × List Char) :=
  match fuel with
  | 0 => none
  | fuel + 1 => do
    let rest ← after? ['"'] (cs.dropWhile isBlank)
    let (k, rest) ← textTail? (rest.length + 1) [] rest
    let rest ← after? [':'] (rest.dropWhile isBlank)
    let (v, rest) ← value? fuel rest
    let done := Fields.put done k v
    match rest.dropWhile isBlank with
    | ',' :: rest => fields? fuel done rest
    | '\x7d' :: rest => pure (done, rest)
    | _ => none

end

/-- The value that a JSON text stands for, if it is one and nothing follows it. -/
def parse? (s : String) : Option Value := do
  let cs := s.toList
  let (v, rest) ← value? (cs.length + 1) cs
  if (rest.dropWhile isBlank).isEmpty then some v else none

def escapedChar (c : Char) : List Char :=
  if c = '"' || c = '\\' then ['\\', c]
  else if c.toNat < 0x20 then '\\' :: 'u' :: Text.hex c.toNat 4
  else [c]

def quotedText (s : String) : String :=
  String.ofList ('"' :: s.toList.flatMap escapedChar ++ ['"'])

mutual

/-- A value as a JSON text on one line. -/
def write : Value → String
  | .null => "null"
  | .bool true => "true"
  | .bool false => "false"
  | .int n => toString n
  | .float x => floatLayout.text x
  | .str s => quotedText s
  | .arr items => "[" ++ ",".intercalate (writeItems items) ++ "]"
  | .obj fields => "\x7b" ++ ",".intercalate (writeFields fields) ++ "\x7d"

def writeItems : List Value → List String
  | [] => []
  | v :: rest => write v :: writeItems rest

def writeFields : List (String × Value) → List String
  | [] => []
  | (k, v) :: rest => (quotedText k ++ ":" ++ write v) :: writeFields rest

end

end OperatorCore.Json
