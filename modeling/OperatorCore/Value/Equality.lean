import OperatorCore.Value.Sorted

/-!
# Equality of values

Two values are equal if they stand for the same data: numbers compare by their exact mathematical
value whatever their kind (truth values are the numbers one and zero; what is not a number is equal
to itself), and objects compare by what their keys hold, whatever the order of the fields. Both hold
at any depth.

Equality is decided through a normal form: numbers that are integers become integers, and the fields
of an object are sorted by their keys, of which the first occurrence counts. Two values are equal
just when their normal forms are the same (`equal_iff`), which makes equality an equivalence at
once.
-/

namespace OperatorCore

namespace Value

mutual

/-- The normal form: one for all values that are equal. -/
def normal : Value → Value
  | .null => .null
  | .bool b => .int (if b then 1 else 0)
  | .int n => .int n
  | .float x => match x.integer? with
    | some n => .int n
    | none => .float x
  | .str s => .str s
  | .arr items => .arr (normalItems items)
  | .obj fields => .obj (normalFields fields)

def normalItems : List Value → List Value
  | [] => []
  | v :: rest => normal v :: normalItems rest

def normalFields : List (String × Value) → List (String × Value)
  | [] => []
  | (k, v) :: rest => Sorted.insert k (normal v) (normalFields rest)

end

/-- Equality of the data that two values stand for. -/
def equal (a b : Value) : Bool := a.normal = b.normal

theorem equal_iff {a b : Value} : a.equal b = true ↔ a.normal = b.normal := by
  simp [equal]

@[simp] theorem equal_refl (a : Value) : a.equal a = true := equal_iff.2 rfl

theorem equal_symm {a b : Value} (h : a.equal b = true) : b.equal a = true :=
  equal_iff.2 (equal_iff.1 h).symm

theorem equal_trans {a b c : Value} (h : a.equal b = true) (h' : b.equal c = true) :
    a.equal c = true :=
  equal_iff.2 ((equal_iff.1 h).trans (equal_iff.1 h'))

/-- A value is among the items of a list. -/
def isIn (v : Value) (items : List Value) : Bool := items.any v.equal

/-- A list without the first item that equals the value. -/
def eraseFirst (v : Value) : List Value → List Value
  | [] => []
  | item :: rest => if item.equal v then rest else item :: eraseFirst v rest

end Value

end OperatorCore
