import OperatorCore.Engine.World
import OperatorCore.Object.Observable
import OperatorCore.Object.Payload

/-!
# Components

A component is a named part of a custom resource. It declares the objects that should exist and how
to find their live counterparts, and decides on everything that the engine cannot know about them.
The application supplies its components; `Component.plain` has the default for every callback.

A component stamps its references to its owners on each of its objects, and tags them with its
labels.
-/

namespace OperatorCore

/-- A named part of a custom resource. The callbacks that may give up answer nothing. -/
structure Component (ω : Type) where
  /-- The name, a text as a rule. -/
  name : Value
  labels : Fields
  owners : List Value
  /-- The objects that should exist, given those of the preceding components; nothing if this is not
  known now. -/
  expectedObjects : (aggregated : Bag) → Hook ω (Option Bag)
  /-- What to observe in order to find the live counterparts of the expected objects. -/
  observables : (expected : Bag) → Hook ω (List Observable)
  /-- The expected objects in the knowledge of the observed ones. -/
  mutate : (expected observed : Bag) → Hook ω (Option Bag)
  /-- The divergence of an expected object from the observed one is worth an update. -/
  differs : (expected observed : Value) → Hook ω Bool
  /-- The part of an object that is compared. -/
  comparable : (body : Value) → (fields : Value) → Hook ω Value
  /-- Cleans up when the custom resource is being deleted. -/
  finalize : (observed : Bag) → Hook ω Unit
  /-- Puts the outcome into the status: the objects that are live now, and what has failed. -/
  updateStatus : (reconciled : List Value) → (fault : Option Fault) → Hook ω Unit

namespace Component

variable {ω : Type}

def managedByLabel : String := "app.kubernetes.io/managed-by"
def componentLabel : String := "app.kubernetes.io/component"
def instanceLabel : String := "app.kubernetes.io/instance"

/-- The name under which the engine manages objects. -/
def manager : String := "kreconciler"

/-- The labels of a component that is given none. -/
def standardLabels (name resource : Value) : Except Fault Fields := do
  pure [(managedByLabel, .str manager), (componentLabel, name),
    (instanceLabel, (← Body.identify resource).name)]

/-- The owners of the objects of a component that is given none: the resource, if it is stored. -/
def standardOwners (resource : Value) : Except Fault (List Value) := do
  if (← (← Body.metadata resource).field "uid" .null).truthy then
    pure [.obj (← Body.ownerReference resource)]
  else pure []

/-- The observables of a component that is given none: each expected object by its identity. -/
def standardObservables : Bag → Except Fault (List Observable)
  | [] => .ok []
  | item :: rest => do
    let o ← Observable.forObject item.object
    pure (o :: (← standardObservables rest))

/-- A component with the default callbacks. It expects nothing that is known, so it has to be given
its expected objects. -/
def plain (name : Value) (labels : Fields) (owners : List Value) : Component ω where
  name
  labels
  owners
  expectedObjects _ := Attempt.fail (.of .notImplemented)
  observables expected := Attempt.lift (standardObservables expected)
  mutate expected _ := pure (some expected)
  differs _ _ := pure true
  comparable body fields := Attempt.lift (Body.payload body fields)
  finalize _ := pure ()
  updateStatus _ _ := pure ()

end Component

end OperatorCore
