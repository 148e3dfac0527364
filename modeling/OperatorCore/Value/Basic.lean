import OperatorCore.Number.Binary64

/-!
# Values

The objects that an operator reads and writes are trees of plain data: null, truth values, numbers,
texts, lists, and objects whose fields keep the order in which they were added. This module has the
type, its decidable structural equality, and the operations on the fields of an object.

A field list may name a key twice. Every operation then looks at the first occurrence alone, so no
lemma has to assume that the keys are distinct: `put` changes what `get?` sees at one key and
nothing else (`Fields.get?_put`), and `erase` leaves no occurrence of its key (`Fields.get?_erase`).
-/

namespace OperatorCore

/-- A tree of plain data. -/
inductive Value where
  | null
  | bool (b : Bool)
  | int (n : Int)
  | float (x : Binary64)
  | str (s : String)
  | arr (items : List Value)
  | obj (fields : List (String × Value))
deriving Inhabited

/-- The fields of an object, in the order of their insertion. -/
abbrev Fields := List (String × Value)

namespace Value

mutual

/-- Structural equality is decidable: equal means the same numbers of the same kind and the same
fields in the same order. -/
def decEq : (a b : Value) → Decidable (a = b)
  | .null, b => match b with
    | .null => isTrue rfl
    | .bool _ | .int _ | .float _ | .str _ | .arr _ | .obj _ => isFalse nofun
  | .bool x, b => match b with
    | .bool y => decidable_of_iff (x = y) (by simp)
    | .null | .int _ | .float _ | .str _ | .arr _ | .obj _ => isFalse nofun
  | .int x, b => match b with
    | .int y => decidable_of_iff (x = y) (by simp)
    | .null | .bool _ | .float _ | .str _ | .arr _ | .obj _ => isFalse nofun
  | .float x, b => match b with
    | .float y => decidable_of_iff (x = y) (by simp)
    | .null | .bool _ | .int _ | .str _ | .arr _ | .obj _ => isFalse nofun
  | .str x, b => match b with
    | .str y => decidable_of_iff (x = y) (by simp)
    | .null | .bool _ | .int _ | .float _ | .arr _ | .obj _ => isFalse nofun
  | .arr x, b => match b with
    | .arr y => match decEqItems x y with
      | isTrue h => isTrue (by rw [h])
      | isFalse h => isFalse (by simpa using h)
    | .null | .bool _ | .int _ | .float _ | .str _ | .obj _ => isFalse nofun
  | .obj x, b => match b with
    | .obj y => match decEqFields x y with
      | isTrue h => isTrue (by rw [h])
      | isFalse h => isFalse (by simpa using h)
    | .null | .bool _ | .int _ | .float _ | .str _ | .arr _ => isFalse nofun

/-- Structural equality of lists of values. -/
def decEqItems : (a b : List Value) → Decidable (a = b)
  | [], [] => isTrue rfl
  | [], _ :: _ => isFalse nofun
  | _ :: _, [] => isFalse nofun
  | a :: as, b :: bs => match decEq a b, decEqItems as bs with
    | isTrue h, isTrue h' => isTrue (by rw [h, h'])
    | isFalse h, _ => isFalse fun e => h (List.cons.inj e).1
    | _, isFalse h => isFalse fun e => h (List.cons.inj e).2

/-- Structural equality of field lists. -/
def decEqFields : (a b : List (String × Value)) → Decidable (a = b)
  | [], [] => isTrue rfl
  | [], _ :: _ => isFalse nofun
  | _ :: _, [] => isFalse nofun
  | (k, a) :: as, (l, b) :: bs => match String.decEq k l, decEq a b, decEqFields as bs with
    | isTrue h, isTrue h', isTrue h'' => isTrue (by rw [h, h', h''])
    | isFalse h, _, _ => isFalse fun e => h (by simp_all)
    | _, isFalse h, _ => isFalse fun e => h (by simp_all)
    | _, _, isFalse h => isFalse fun e => h (by simp_all)

end

instance : DecidableEq Value := decEq

/-- The name of a value's type, as it is spelled in the texts of errors. -/
def typeName : Value → String
  | .null => "NoneType"
  | .bool _ => "bool"
  | .int _ => "int"
  | .float _ => "float"
  | .str _ => "str"
  | .arr _ => "list"
  | .obj _ => "dict"

/-- Null, false, zero and whatever is empty count as false; all other values count as true. -/
def truthy : Value → Bool
  | .null => false
  | .bool b => b
  | .int n => n != 0
  | .float x => !x.isZero
  | .str s => s != ""
  | .arr items => !items.isEmpty
  | .obj fields => !fields.isEmpty

/-- The value itself if it counts as true, else the other one. -/
def orElse (v other : Value) : Value := if v.truthy then v else other

/-- A text or null. -/
def ofText? : Option String → Value
  | some s => .str s
  | none => .null

def isNull : Value → Bool
  | .null => true
  | _ => false

end Value

namespace Fields

/-- The value of the first field with the key. -/
def get? (fields : Fields) (key : String) : Option Value :=
  match fields with
  | [] => none
  | (k, v) :: rest => if k = key then some v else get? rest key

/-- The value of a field; null if there is none. -/
def getD (fields : Fields) (key : String) : Value := (get? fields key).getD .null

def has (fields : Fields) (key : String) : Bool := (get? fields key).isSome

/-- Gives a field its value in the place that the field has, or at the end if it is new. -/
def put (fields : Fields) (key : String) (value : Value) : Fields :=
  match fields with
  | [] => [(key, value)]
  | (k, v) :: rest => if k = key then (k, value) :: rest else (k, v) :: put rest key value

/-- Removes every field with the key. -/
def erase (fields : Fields) (key : String) : Fields := fields.filter (·.1 != key)

/-- Gives a field its value unless the field is there already. -/
def putIfAbsent (fields : Fields) (key : String) (value : Value) : Fields :=
  if has fields key then fields else put fields key value

/-- Puts all the given fields, one after another. -/
def putAll (fields new : Fields) : Fields := new.foldl (fun acc p => put acc p.1 p.2) fields

/-- Applies a function to the value at a key, null standing for an absent field. -/
def modify (fields : Fields) (key : String) (f : Value → Value) : Fields :=
  put fields key (f (getD fields key))

def keys (fields : Fields) : List String := fields.map Prod.fst

theorem get?_put (fields : Fields) (key key' : String) (value : Value) :
    get? (put fields key value) key' = if key = key' then some value else get? fields key' := by
  induction fields with
  | nil => simp [put, get?]
  | cons p rest ih =>
    obtain ⟨k, v⟩ := p
    by_cases hk : k = key
    · subst hk
      by_cases hk' : k = key' <;> simp [put, get?, hk']
    · by_cases hk' : k = key'
      · subst hk'
        simp [put, get?, hk, Ne.symm hk]
      · simp [put, get?, hk, hk', ih]

theorem get?_erase (fields : Fields) (key key' : String) :
    get? (erase fields key) key' = if key = key' then none else get? fields key' := by
  induction fields with
  | nil => simp [erase, get?]
  | cons p rest ih =>
    obtain ⟨k, v⟩ := p
    simp only [erase] at ih
    by_cases hk : k = key
    · subst hk
      by_cases hk' : k = key'
      · subst hk'
        simpa [erase, get?] using ih
      · simpa [erase, get?, hk'] using ih
    · by_cases hk' : k = key'
      · subst hk'
        simp [erase, get?, hk, Ne.symm hk]
      · simp [erase, get?, hk, hk', ih]

end Fields

/-- An object with the given fields. -/
def Value.ofFields (fields : Fields) : Value := .obj fields

end OperatorCore
