import OperatorCore.Value.Literal

/-!
# Form encoding

How query parameters are written into a URL: ASCII letters, digits and `_.-~` stand for themselves,
a space is a plus sign, and all other characters are the bytes of their UTF-8 encoding, each as a
percent sign and two digits.
-/

namespace OperatorCore.Text

def isPlain (c : Char) : Bool :=
  c.isAlphanum || c = '_' || c = '.' || c = '-' || c = '~'

def upperHexDigit (n : Nat) : Char := (Nat.digitChar (n % 16)).toUpper

def percentByte (b : UInt8) : List Char :=
  ['%', upperHexDigit (b.toNat / 16), upperHexDigit b.toNat]

def formChar (c : Char) : List Char :=
  if isPlain c then [c]
  else if c = ' ' then ['+']
  else (String.singleton c).toUTF8.toList.flatMap percentByte

/-- A text as a key or a value of a query. -/
def formEncoded (s : String) : String := String.ofList (s.toList.flatMap formChar)

/-- A query with the given parameters. -/
def query (params : Fields) : String :=
  "&".intercalate (params.map fun p => formEncoded p.1 ++ "=" ++ formEncoded p.2.text)

/-- A text without the given characters at its end. -/
def trimEnd (c : Char) (s : String) : String :=
  String.ofList ((s.toList.reverse.dropWhile (· == c)).reverse)

/-- A text without the given characters at its beginning. -/
def trimStart (c : Char) (s : String) : String := String.ofList (s.toList.dropWhile (· == c))

end OperatorCore.Text
