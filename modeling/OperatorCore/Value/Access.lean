import OperatorCore.Fault.Basic

/-!
# Reading and changing unchecked values

Bodies come from outside and nothing has checked their shape. The operations here look into a value
as if it had the expected type, and say what misuse it is where it has another one.
-/

namespace OperatorCore.Value

/-- The fields of an object that is asked for one of its members. -/
def fieldsFor (v : Value) (member : String) : Except Fault Fields :=
  match v with
  | .obj fields => .ok fields
  | other => .error (.misuse (.noAttribute other.typeName member))

/-- The value of a field, or the default if there is no such field. -/
def field (v : Value) (key : String) (default : Value) : Except Fault Value := do
  let fields ← v.fieldsFor "get"
  pure ((Fields.get? fields key).getD default)

/-- Gives a field its value unless it is there, and answers what it holds afterwards together with
the changed object. -/
def setDefault (v : Value) (key : String) (default : Value) : Except Fault (Value × Value) := do
  let fields ← v.fieldsFor "setdefault"
  pure ((Fields.get? fields key).getD default, .obj (Fields.putIfAbsent fields key default))

/-- Gives a field its value. -/
def assign (v : Value) (key : String) (value : Value) : Except Fault Value :=
  match v with
  | .obj fields => .ok (.obj (Fields.put fields key value))
  | .arr _ => .error (.misuse (.badPosition "str"))
  | other => .error (.misuse (.noItemAssignment other.typeName))

/-- The integer that a value is as a position. -/
def position? : Value → Option Int
  | .int n => some n
  | .bool b => some (if b then 1 else 0)
  | _ => none

/-- The place of a position in a list of the given length; negative positions count from the end. -/
def place? (length : Nat) (position : Int) : Option Nat :=
  let place := if position < 0 then position + length else position
  if 0 ≤ place && place < length then some place.toNat else none

/-- The item of a list at a position. -/
def itemAt (items : List Value) (position : Int) : Except Fault Value :=
  match (place? items.length position).bind fun n => items[n]? with
  | some item => .ok item
  | none => .error (.of .noPosition)

/-- The key that a value is in an object: a text is one itself, any other plain value is told by its
literal. -/
def keyText (v : Value) : Except Fault String :=
  match v with
  | .str s => .ok s
  | .arr _ | .obj _ => .error (.misuse (.unhashable v.typeName))
  | other => .ok other.literal

/-- Gives the member with a key its value: a field of an object, or an item of a list. -/
def assignItem (v key value : Value) : Except Fault Value :=
  match v with
  | .obj fields => do pure (.obj (Fields.put fields (← key.keyText) value))
  | .arr items => match key.position? with
    | none => .error (.misuse (.badPosition key.typeName))
    | some position => match place? items.length position with
      | some n => .ok (.arr (items.set n value))
      | none => .error (.of .noPosition)
  | other => .error (.misuse (.noItemAssignment other.typeName))

/-- The member with a key, which must be there: a field of an object, an item of a list, or a
character of a text. -/
def index (v key : Value) : Except Fault Value :=
  match v with
  | .obj fields => do
    let key ← key.keyText
    match Fields.get? fields key with
    | some value => pure value
    | none => .error (.of (.noKey key))
  | .arr items => match key.position? with
    | some position => itemAt items position
    | none => .error (.misuse (.badPosition key.typeName))
  | .str s => match key.position? with
    | some position => itemAt (s.toList.map fun c => .str (String.singleton c)) position
    | none => .error (.misuse (.badTextPosition key.typeName))
  | other => .error (.misuse (.notSubscriptable other.typeName))

/-- A text occurs within another one. -/
def occursIn (part whole : List Char) : Bool :=
  match whole with
  | [] => part.isEmpty
  | c :: rest => part.isPrefixOf (c :: rest) || occursIn part rest

/-- Membership: of a key in an object, of an item in a list, of a text in a longer one. -/
def contains (container item : Value) : Except Fault Bool :=
  match container with
  | .arr items => .ok (item.isIn items)
  | .obj fields => match item with
    | .str key => .ok (Fields.has fields key)
    | .arr _ | .obj _ => .error (.misuse (.unhashable item.typeName))
    | _ => .ok false
  | .str whole => match item with
    | .str part => .ok (occursIn part.toList whole.toList)
    | other => .error (.misuse (.noTextMembership other.typeName))
  | other => .error (.misuse (.noMembership other.typeName))

/-- The items of a value: of a list, the keys of an object, the characters of a text. -/
def iterate (v : Value) : Except Fault (List Value) :=
  match v with
  | .arr items => .ok items
  | .obj fields => .ok (fields.map fun p => .str p.1)
  | .str s => .ok (s.toList.map fun c => .str (String.singleton c))
  | other => .error (.misuse (.notIterable other.typeName))

/-- The fields of a value that must be an object. -/
def asFields (v : Value) : Except Fault Fields :=
  match v with
  | .obj fields => .ok fields
  | other => .error (.misuse (.argument s!"'{other.typeName}' object is not a mapping"))

/-- Puts the items of a list, each of which has to be a pair of a key and a value, into an object;
the first item is the one at the given position. -/
def putPairs (fields : Fields) (position : Nat) : List Value → Except Fault Fields
  | [] => .ok fields
  | pair :: rest =>
    match pair.iterate with
    | .error _ => .error (.misuse (.argument
        s!"cannot convert dictionary update sequence element #{position} to a sequence"))
    | .ok [key, value] => do putPairs (Fields.put fields (← key.keyText) value) (position + 1) rest
    | .ok parts => .error (.refused (.notPair position parts.length))

/-- Puts into an object what a value gives: its own fields if it is an object, else those of its
pairs. -/
def putFrom (fields : Fields) (new : Value) : Except Fault Fields :=
  match new with
  | .obj more => .ok (Fields.putAll fields more)
  | other => do putPairs fields 0 (← other.iterate)

/-- The fields of the object that is made of a value: of an object its own, of a list those that it
gives by pairs. -/
def toFields (v : Value) : Except Fault Fields :=
  match v with
  | .obj fields => .ok fields
  | other => putFrom [] other

/-- How a number stands to an integer; nothing for what is not a number. The symbol is that of the
comparison that is made. -/
def order? (v : Value) (symbol : String) (n : Int) : Except Fault (Option Ordering) :=
  match v with
  | .bool b => .ok (some (compare (if b then 1 else 0) n))
  | .int k => .ok (some (compare k n))
  | .float x => .ok (x.order? n)
  | other => .error (.misuse (.notOrdered symbol other.typeName "int"))

/-- A number is below an integer. -/
def isBelow (v : Value) (n : Int) : Except Fault Bool := do
  pure ((← v.order? "<" n) == some .lt)

/-- A number is an integer or above it. -/
def isAtLeast (v : Value) (n : Int) : Except Fault Bool := do
  match ← v.order? ">=" n with
  | some order => pure (order != .lt)
  | none => pure false

/-- A number is an integer or below it. -/
def isAtMost (v : Value) (n : Int) : Except Fault Bool := do
  match ← v.order? "<=" n with
  | some order => pure (order != .gt)
  | none => pure false

end OperatorCore.Value
