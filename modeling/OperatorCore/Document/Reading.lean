import OperatorCore.Value.Access

/-!
# Reading documents

A document is a value that describes something else: a fault, the settings, a whole application.
What it does not say has a default as a rule; where something has to be said, `Signature` tells
what. This module has the members of a document, and the one fact on which all recursion over
documents rests: a member is smaller than the document (`sizeOf_at?`, `sizeOf_list`).
-/

namespace OperatorCore.Document

/-- The member of an object. -/
def at? (v : Value) (key : String) : Option Value :=
  match v with
  | .obj fields => Fields.get? fields key
  | _ => none

/-- The member of an object; null if there is none. -/
def get (v : Value) (key : String) : Value := (at? v key).getD .null

def getOr (v : Value) (key : String) (other : Value) : Value := (at? v key).getD other

def has (v : Value) (key : String) : Bool := (at? v key).isSome

/-- A text as it is, any other value by its text. -/
def asText : Value → String
  | .str s => s
  | v => v.text

/-- The text of a member; none for null. -/
def text? (v : Value) (key : String) : Option String :=
  match get v key with
  | .null => none
  | other => some (asText other)

def text (v : Value) (key : String) : String := (text? v key).getD ""

def asItems : Value → List Value
  | .arr items => items
  | _ => []

/-- The items of a list. -/
def list (v : Value) (key : String) : List Value := asItems (get v key)

def asFields : Value → Fields
  | .obj fields => fields
  | _ => []

def fields (v : Value) (key : String) : Fields := asFields (get v key)

def fields? (v : Value) (key : String) : Option Fields :=
  match get v key with
  | .obj fields => some fields
  | _ => none

/-- A whole number; a truth value counts as one, and a fraction loses its part behind the point. -/
def asInt : Value → Int
  | .int n => n
  | .bool b => if b then 1 else 0
  | .float x => (x.truncate?).getD 0
  | _ => 0

/-- The texts of a list, or the characters of a text. -/
def texts : Value → List String
  | .str s => s.toList.map String.singleton
  | .arr items => items.filterMap fun
    | .str s => some s
    | _ => none
  | _ => []

/-- An identity as the list of its three parts. -/
def identity (v : Value) : Except Fault Identity := do
  match ← v.iterate with
  | [ns, kind, name] => pure ⟨ns, kind, name⟩
  | parts => .error (.misuse (.argument s!"an identity has 3 parts, not {parts.length}"))

/-- The names under which something is given its arguments: those that have to be there, and those
that may be. -/
structure Signature where
  title : String
  required : List String
  optional : List String

/-- Refuses a name that is not in the signature, and the absence of one that has to be there. -/
def Signature.check (s : Signature) (arguments : Value) : Except Fault Unit :=
  let given := Fields.keys (asFields arguments)
  match given.find? fun key => !(s.required.contains key || s.optional.contains key) with
  | some key => .error (.misuse (.argument
      s!"{s.title}() got an unexpected keyword argument {Text.quoted key}"))
  | none => match s.required.filter fun key => !given.contains key with
    | [] => .ok ()
    | [key] => .error (.misuse (.argument
        s!"{s.title}() missing 1 required positional argument: {Text.quoted key}"))
    | keys => .error (.misuse (.argument <|
        s!"{s.title}() missing {keys.length} required positional arguments: " ++
          ", ".intercalate ((keys.dropLast).map Text.quoted) ++
          (if keys.length = 2 then " and " else ", and ") ++
          ", ".intercalate ((keys.drop (keys.length - 1)).map Text.quoted)))

theorem sizeOf_get? {fields : Fields} {key : String} {v : Value}
    (h : Fields.get? fields key = some v) : sizeOf v < sizeOf fields := by
  induction fields with
  | nil => simp [Fields.get?] at h
  | cons p rest ih =>
    obtain ⟨k, w⟩ := p
    simp only [Fields.get?] at h
    split at h
    · cases h
      simp only [List.cons.sizeOf_spec, Prod.mk.sizeOf_spec]
      omega
    · have := ih h
      simp only [List.cons.sizeOf_spec, Prod.mk.sizeOf_spec]
      omega

theorem sizeOf_at? {v member : Value} {key : String} (h : at? v key = some member) :
    sizeOf member < sizeOf v := by
  cases v with
  | obj fields =>
    have := sizeOf_get? h
    simp only [Value.obj.sizeOf_spec]
    omega
  | _ => simp [at?] at h

theorem sizeOf_list {v item : Value} {key : String} (h : item ∈ list v key) :
    sizeOf item < sizeOf v := by
  unfold list get at h
  cases hm : at? v key with
  | none => simp [hm, asItems] at h
  | some member =>
    have hv := sizeOf_at? hm
    cases member with
    | arr items =>
      have := List.sizeOf_lt_of_mem (by simpa [hm, asItems] using h)
      simp only [Value.arr.sizeOf_spec] at hv
      omega
    | _ => simp [hm, asItems] at h

end OperatorCore.Document
