import OperatorCore.Value.Basic
import OperatorCore.Number.Shortest
import OperatorCore.Text.Quoted

/-!
# How values are written in messages

`Value.literal` writes a value as it stands in a diff or inside of another value: texts in quotes,
lists in brackets, fields in the order of the object. `Value.text` is the same except that a text
on its own has no quotes.
-/

namespace OperatorCore

/-- Floating-point numbers are positional from `0.0001` up to below `10 ^ 16`, with a `.0` after an
integer; all others have an exponent of two digits or more. -/
def floatLayout : Shortest.Layout where
  least := -4
  greatest := 15
  integerTail := ".0"
  exponentWidth := 2
  infinity := "inf"
  undefined := "nan"

namespace Value

mutual

/-- The text of a value inside of a message. -/
def literal : Value → String
  | .null => "None"
  | .bool true => "True"
  | .bool false => "False"
  | .int n => toString n
  | .float x => floatLayout.text x
  | .str s => Text.quoted s
  | .arr items => "[" ++ ", ".intercalate (literalItems items) ++ "]"
  | .obj fields => "\x7b" ++ ", ".intercalate (literalFields fields) ++ "\x7d"

def literalItems : List Value → List String
  | [] => []
  | v :: rest => literal v :: literalItems rest

def literalFields : List (String × Value) → List String
  | [] => []
  | (k, v) :: rest => (Text.quoted k ++ ": " ++ literal v) :: literalFields rest

end

/-- The text of a value that makes up a message or a part of one. -/
def text : Value → String
  | .str s => s
  | v => literal v

end Value

end OperatorCore
