import OperatorCore.Document.Reading
import OperatorCore.Number.Shortest

/-!
# Marked values

Readers of a document may hold all its numbers as floating-point ones. So that nothing is lost to
them, a whole number that needs more than 53 bits is written as a text under the mark `$int`, and
every floating-point number by its shortest text under the mark `$float`. Octets are read from a
text under the mark `$bytes`, one character for an octet.
-/

namespace OperatorCore.Document

mutual

/-- A value with marked numbers. -/
def shown : Value → Value
  | .int n => if n.natAbs < Nat.pow 2 53 then .int n else .obj [("$int", .str (toString n))]
  | .float x => .obj [("$float", .str (floatLayout.text x))]
  | .arr items => .arr (shownItems items)
  | .obj fields => .obj (shownFields fields)
  | v => v

def shownItems : List Value → List Value
  | [] => []
  | v :: rest => shown v :: shownItems rest

def shownFields : List (String × Value) → List (String × Value)
  | [] => []
  | (k, v) :: rest => (k, shown v) :: shownFields rest

end

def strings (texts : List String) : Value := .arr (texts.map .str)

def natural (n : Nat) : Value := .int n

/-- The octets of a marked text. -/
def bytes? (v : Value) : Option (List Nat) :=
  match at? v "$bytes" with
  | some (.str s) => some (s.toList.map Char.toNat)
  | _ => none

end OperatorCore.Document
