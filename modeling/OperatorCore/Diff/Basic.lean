import OperatorCore.Value.Equality
import OperatorCore.Value.Literal

/-!
# Structural differences

A difference between two values tells that they diverge, and where. Objects are compared field by
field, in the order of the keys; lists and all other values are compared as a whole. Null and an
absent field are the same, and so are equal values (`Diff.walk_of_equal`). A difference is only ever
read by a human: nothing applies it.

A scope says which fields count that only one side has.
-/

namespace OperatorCore

/-- The sides whose own fields count: with neither, only the common fields are compared. -/
structure Scope where
  left : Bool
  right : Bool
deriving DecidableEq

namespace Scope

def full : Scope := ⟨true, true⟩
def leftOnly : Scope := ⟨true, false⟩
def rightOnly : Scope := ⟨false, true⟩
def common : Scope := ⟨false, false⟩

/-- The scope with its sides exchanged. -/
def swap (s : Scope) : Scope := ⟨s.right, s.left⟩

@[simp] theorem swap_swap (s : Scope) : s.swap.swap = s := rfl

end Scope

/-- What has become of a value. -/
inductive DiffOperation where
  | add
  | change
  | remove
deriving DecidableEq

def DiffOperation.text : DiffOperation → String
  | .add => "add"
  | .change => "change"
  | .remove => "remove"

/-- One place where two values diverge. -/
structure DiffItem where
  op : DiffOperation
  path : List String
  old : Value
  new : Value
deriving DecidableEq

namespace DiffItem

/-- The path with dots between its keys. -/
def place (item : DiffItem) : String :=
  let joined := ".".intercalate item.path
  if joined = "" then "<root>" else joined

def text (item : DiffItem) : String :=
  s!"{item.op.text} {item.place}: {item.old.literal} -> {item.new.literal}"

/-- The divergence of two unequal values that are not both objects. -/
def whole (path : List String) (old new : Value) : DiffItem :=
  { op := if old.isNull then .add else if new.isNull then .remove else .change
    path, old, new }

end DiffItem

namespace Diff

/-- What only the right side has, each field with its key. -/
def additions (scope : Scope) (path : List String) (a b : Fields) :
    List (String × List DiffItem) :=
  if scope.right then
    (b.filter fun p => !Fields.has a p.1).map fun p =>
      (p.1, if p.2.isNull then [] else [DiffItem.whole (path ++ [p.1]) .null p.2])
  else []

mutual

/-- The differences of two values at a path. -/
def walk (scope : Scope) (path : List String) (a b : Value) : List DiffItem :=
  match a with
  | .obj fields => match b with
    | .obj others =>
      if (Value.obj fields).equal (.obj others) then []
      else
        (Sorted.ofPairs
          (walkFields scope path others fields ++ additions scope path fields others)).flatMap
          Prod.snd
    | other => [DiffItem.whole path (.obj fields) other]
  | a => if a.equal b then [] else [DiffItem.whole path a b]

/-- The differences of the left side's fields from the right side's, each with its key. -/
def walkFields (scope : Scope) (path : List String) (b : Fields) :
    List (String × Value) → List (String × List DiffItem)
  | [] => []
  | (k, v) :: rest =>
    let others := walkFields scope path b rest
    if scope.left || Fields.has b k then
      (k, walk scope (path ++ [k]) v (Fields.getD b k)) :: others
    else others

end

end Diff

/-- Equal values have no differences. -/
theorem Diff.walk_of_equal (scope : Scope) (path : List String) {a b : Value}
    (h : a.equal b = true) : Diff.walk scope path a b = [] := by
  cases a with
  | obj fields =>
    cases b with
    | obj others => simp [Diff.walk, h]
    | float x =>
      have hn := Value.equal_iff.1 h
      unfold Value.normal at hn
      split at hn <;> simp_all
    | _ => simp [Value.equal_iff, Value.normal] at h
  | _ => simp [Diff.walk, h]

/-- The differences of two values, in the order of their paths. -/
def diff (scope : Scope) (a b : Value) : List DiffItem := Diff.walk scope [] a b

end OperatorCore
