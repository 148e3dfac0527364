import OperatorCore.Object.Metadata

/-!
# Bags

What the stages of a reconciliation hand over to each other: objects in order, each tagged with who
is responsible for its existence. A managed object is created and updated by the engine; a
referenced one has to exist already, and is never written. Bags keep duplicates: where the engine
looks for an object by its identity, the first one counts.
-/

namespace OperatorCore

/-- Who is responsible for the existence of an object. -/
inductive Lifecycle where
  | managed
  | referenced
deriving DecidableEq, Inhabited

def Lifecycle.text : Lifecycle → String
  | .managed => "managed"
  | .referenced => "referenced"

/-- Reads a lifecycle. -/
def Lifecycle.ofValue (v : Value) : Except Fault Lifecycle :=
  match v with
  | .str "managed" => .ok .managed
  | .str "referenced" => .ok .referenced
  | other => .error (.refused (.unknownLifecycle other))

/-- The text of a lifecycle inside of a tagged object. -/
def Lifecycle.literal : Lifecycle → String
  | .managed => "<Lifecycle.MANAGED: 'managed'>"
  | .referenced => "<Lifecycle.REFERENCED: 'referenced'>"

/-- An object and who is responsible for it. -/
structure Tagged where
  object : Value
  lifecycle : Lifecycle
deriving DecidableEq, Inhabited

namespace Tagged

def managed (object : Value) : Tagged := ⟨object, .managed⟩

def isManaged (item : Tagged) : Bool := item.lifecycle = .managed

def identity (item : Tagged) : Except Fault Identity := Body.identify item.object

def literal (item : Tagged) : String :=
  s!"TaggedObject(obj={item.object.literal}, lifecycle={item.lifecycle.literal})"

end Tagged

/-- Tagged objects in order. -/
abbrev Bag := List Tagged

namespace Bag

def objects (bag : Bag) : List Value := bag.map Tagged.object

def literal (bag : Bag) : String :=
  "ObjectBag([" ++ ", ".intercalate (bag.map Tagged.literal) ++ "])"

/-- The identities of all the objects. -/
def identities : Bag → Except Fault (List Identity)
  | [] => .ok []
  | item :: rest => do
    let i ← item.identity
    pure (i :: (← identities rest))

/-- The first object with the identity. -/
def find? (identity : Identity) : Bag → Except Fault (Option Tagged)
  | [] => .ok none
  | item :: rest => do
    if (← item.identity).same identity then pure (some item) else find? identity rest

end Bag

/-- A bag whose items may share their objects: an item names the object by its number, so that a
change of the object shows in every item that has it. -/
structure SharedBag where
  objects : List Value
  items : List (Nat × Lifecycle)

namespace SharedBag

def empty : SharedBag := ⟨[], []⟩

/-- Adds items with objects of their own. -/
def add (bag : SharedBag) (new : Bag) : SharedBag :=
  { objects := bag.objects ++ new.objects
    items := bag.items ++ new.zipIdx.map fun p => (bag.objects.length + p.2, p.1.lifecycle) }

def ofBag (bag : Bag) : SharedBag := empty.add bag

/-- The bag with every item in it once more. -/
def doubled (bag : SharedBag) : SharedBag := { bag with items := bag.items ++ bag.items }

/-- What the bag holds. -/
def toBag (bag : SharedBag) : Bag :=
  bag.items.filterMap fun p => (bag.objects[p.1]?).map fun object => ⟨object, p.2⟩

/-- Changes the object of the item at a position; negative positions count from the end. -/
def change (bag : SharedBag) (position : Value) (f : Value → Except Fault Value) :
    Except Fault SharedBag := do
  match position.position? with
  | none => .error (.misuse (.badPosition position.typeName))
  | some position =>
    match (Value.place? bag.items.length position).bind fun n => bag.items[n]? with
    | none => .error (.of .noPosition)
    | some (n, _) => match bag.objects[n]? with
      | none => .error (.of .noPosition)
      | some object => do pure { bag with objects := bag.objects.set n (← f object) }

end SharedBag

end OperatorCore
