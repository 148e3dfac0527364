import OperatorCore.Engine.Component
import OperatorCore.Object.Finalizer

/-!
# Custom resources

A custom resource is the root of a desired state: it is made of components. The application supplies
a handle for each kind of custom resource; the engine uses it with the freshly read body of a
resource on the desk.

The default status update replaces the status as a whole, with the text of the pass's fault if there
is one, and keeps the finalizer of the kind: it is there while the resource lives, and is removed
once a deletion has passed without a fault.
-/

namespace OperatorCore

/-- What an application says about a kind of custom resources. -/
structure Handle (ω : Type) where
  /-- The name of the handle itself, for texts about a resource. -/
  title : String
  /-- The API version of the resources; a handle that declares none cannot be used for a pass. -/
  apiVersion : Option Value
  /-- The kind of the resources; a handle that declares none cannot be used for a pass. -/
  kind : Option Value
  /-- Fails if the spec is invalid. -/
  validate : Hook ω Unit
  /-- Fills the absent fields of the spec. -/
  applyDefaults : Hook ω Unit
  /-- A fresh status. -/
  newStatus : Hook ω Value
  /-- The components, in the order in which they are processed. -/
  components : Hook ω (List (Component ω))
  /-- Puts the status and the fault into the body; the body has changed and is to be stored. -/
  updateStatus : (fault : Option Fault) → Hook ω Bool

namespace Resource

variable {ω : Type}

def name (body : Value) : Except Fault Value := do pure (← Body.identify body).name

/-- The namespace, or null if there is none. -/
def ns (body : Value) : Except Fault Value := do pure ((← Body.identify body).ns.orElse .null)

def uid (body : Value) : Except Fault Value := do (← Body.metadata body).field "uid" .null

def labels (body : Value) : Except Fault Value := do (← Body.metadata body).field "labels" (.obj [])

def status (body : Value) : Except Fault Value := body.field "status" (.obj [])

/-- The text about a resource. -/
def literal (title : String) (body : Value) : Except Fault String := do
  let i ← Body.identify body
  pure s!"<{title} {i.ns.text}/{i.name.text}>"

/-- Replaces the body on the desk by what is made of it. -/
def change (f : Value → Except Fault Value) : Hook ω Unit := do
  let body ← f (← Attempt.read Desk.resource)
  Attempt.modify fun desk => { desk with resource := body }

/-- The spec; an empty one is put into the body if there is none. -/
def spec : Hook ω Value := do
  let (spec, body) ← (← Attempt.read Desk.resource).setDefault "spec" (.obj [])
  Attempt.modify fun desk => { desk with resource := body }
  pure spec

/-- The status as it is stored: an object by itself, anything else under `value`, and the text of
the fault. -/
def statusOf (status : Value) (fault : Option Fault) : Except Fault Value := do
  let fields := match status with
    | .obj fields => fields
    | other => [("value", other)]
  match fault with
  | some fault => do pure (.obj (Fields.put fields "error" (.str (← fault.message))))
  | none => pure (.obj fields)

/-- Adds the finalizer, unless it is null, to a living resource, and removes it from one whose
deletion has passed without a fault. -/
def keepFinalizer (finalizer : Value) (fault : Option Fault) (body : Value) :
    Except Fault Value := do
  match finalizer with
  | .null => pure body
  | finalizer =>
    if !(← Body.isDeletionOngoing body) then Body.blockDeletion body finalizer
    else if fault.isNone then Body.allowDeletion body finalizer
    else pure body

/-- The default update of the status from the one on the desk. -/
def updateStatus (finalizer : Value) (fault : Option Fault) : Hook ω Bool := do
  let desk ← Attempt.state
  change fun body => do body.assign "status" (← statusOf desk.status fault)
  change (keepFinalizer finalizer fault)
  let body ← Attempt.read Desk.resource
  pure !(diff .full desk.resource body).isEmpty

end Resource

namespace Handle

variable {ω : Type}

/-- A handle with the default for everything; its components have to be given. -/
def plain (title : String) (apiVersion kind : Option Value) (finalizer : Value) : Handle ω where
  title
  apiVersion
  kind
  validate := pure ()
  applyDefaults := pure ()
  newStatus := pure (.obj [])
  components := Attempt.fail (.of .notImplemented)
  updateStatus := Resource.updateStatus finalizer

/-- What a handle has to declare for a pass, by its name. -/
def declared (what : String) (declaration : Option Value) : Except Fault Value :=
  match declaration with
  | some v => .ok v
  | none => .error (.misuse (.noAttribute "type" what))

end Handle

end OperatorCore
