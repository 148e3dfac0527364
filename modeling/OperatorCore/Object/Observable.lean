import OperatorCore.Value.Sorted
import OperatorCore.Object.Metadata

/-!
# Observables

What is to be looked up in the store: one object by its identity, or all objects of a kind with the
given labels. A lookup of a point has a name and no labels, a lookup of a set has labels and no
name; the type admits no other combination. Nothing has checked the labels themselves: only where
they are read, they have to be an object.
-/

namespace OperatorCore

namespace Labels

/-- The labels as the API expects them: `key=value`, in the order of the keys, between commas. -/
def selector (labels : Fields) : String :=
  ",".intercalate ((Sorted.ofPairs labels).map fun p => p.1 ++ "=" ++ p.2.text)

/-- The selector of labels that nothing has checked; there is none without labels. -/
def selectorOf (labels : Value) : Except Fault String :=
  if labels.truthy then do pure (selector (← labels.fieldsFor "items")) else .ok ""

/-- All the given labels are among those of an object. -/
def agree (own : Value) : Fields → Except Fault Bool
  | [] => .ok true
  | (key, value) :: rest => do
    if (← own.field key .null).equal value then agree own rest else pure false

/-- An object has all the labels of a selector. -/
def matchBody (labels body : Value) : Except Fault Bool := do
  let own ← (← Body.metadata body).field "labels" (.obj [])
  agree own (← labels.fieldsFor "items")

end Labels

/-- What a lookup aims at. -/
inductive Target where
  | point (name : Value)
  | set (labels : Value)
deriving DecidableEq, Inhabited

/-- A lookup of one object or of a set of objects. A null namespace is none, or all of them. -/
structure Observable where
  apiVersion : Value
  kind : Value
  ns : Value
  target : Target
deriving DecidableEq, Inhabited

namespace Observable

/-- A lookup by either a name or labels. -/
def ofParts (apiVersion kind ns name labels : Value) : Except Fault Observable :=
  match name, labels with
  | .null, .null => .error (.refused .noTarget)
  | name, .null => .ok ⟨apiVersion, kind, ns, .point name⟩
  | .null, labels => .ok ⟨apiVersion, kind, ns, .set labels⟩
  | _, _ => .error (.refused .twoTargets)

/-- The lookup of an object by its identity. -/
def forObject (body : Value) : Except Fault Observable := do
  let identity ← Body.identify body
  let apiVersion ← body.field "apiVersion" (.str "")
  pure ⟨apiVersion, identity.kind, identity.ns.orElse .null, .point identity.name⟩

/-- The lookup of a set of objects by their labels. -/
def forSelector (apiVersion kind : Value) (labels : Fields) (ns : Value) : Observable :=
  ⟨apiVersion, kind, ns, .set (.obj labels)⟩

def name (o : Observable) : Value :=
  match o.target with
  | .point name => name
  | .set _ => .null

def labels (o : Observable) : Value :=
  match o.target with
  | .point _ => .null
  | .set labels => labels

def isPoint (o : Observable) : Bool :=
  match o.target with
  | .point _ => true
  | .set _ => false

def text (o : Observable) : Except Fault String :=
  match o.target with
  | .point name => .ok ((o.ns.orElse (.str "")).text ++ "/" ++ o.kind.text ++ "/" ++ name.text)
  | .set labels => do
    let selector ← Labels.selectorOf labels
    pure ((o.ns.orElse (.str "*")).text ++ "/" ++ o.kind.text ++ "?" ++ selector)

/-- Two lookups are the same. -/
def same (o p : Observable) : Bool :=
  o.apiVersion.equal p.apiVersion && o.kind.equal p.kind && o.ns.equal p.ns
    && o.name.equal p.name && o.labels.equal p.labels

end Observable

end OperatorCore
