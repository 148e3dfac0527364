import OperatorCore.Blueprint.Event
import OperatorCore.Engine.CustomResource

/-!
# Components described by data

A plan says for each callback of a component what it does, so that an application can be given as
data instead of code. A callback without a plan is the default one. A planned callback records its
call first, and may be told to fail at its end.
-/

namespace OperatorCore.Blueprint

/-- The form in which a callback answers with objects. Without tags, all objects are managed. -/
inductive Shape where
  | bag
  | nothing
  | untagged
  | alternating
deriving DecidableEq

namespace Shape

/-- Every second item loses its tag. -/
def alternate : Bag → Bag
  | first :: second :: rest => first :: Tagged.managed second.object :: alternate rest
  | short => short

/-- What the engine gets from a bag in this form. -/
def apply (shape : Shape) (items : Bag) : Option Bag :=
  match shape with
  | .bag => some items
  | .nothing => none
  | .untagged => some (items.map fun item => .managed item.object)
  | .alternating => some (alternate items)

end Shape

/-- An object to be filled in, and the name of its lifecycle. -/
structure Template where
  object : Value
  lifecycle : Value

structure ExpectedPlan where
  items : List Template
  shape : Shape

/-- What is to be observed. -/
inductive ObservablePlan where
  /-- The default observables. -/
  | standard
  /-- The objects of a kind with the component's labels, in the namespace of the resource. -/
  | ownLabels (apiVersion kind : Value)
  /-- A lookup, or why it cannot be built. -/
  | given (lookup : Except Fault Observable)

structure MutationPlan where
  /-- The names of the objects to leave out. -/
  drop : List Value
  /-- The fields that are taken over from the observed objects. -/
  keep : List (List String)
  append : List Template
  /-- What is put into the status. -/
  status : Value
  shape : Shape

/-- What is compared of an object. -/
inductive ComparablePlan where
  | standard
  | fields (keys : Value)
  | key (key : String)

/-- What a component does in its callbacks. -/
structure ComponentPlan where
  name : Value
  /-- The labels; null for the standard ones. -/
  labels : Value
  /-- The references to the owners; null for the standard ones. -/
  owners : Value
  expectedObjects : Option (Option ExpectedPlan)
  observables : Option (List ObservablePlan)
  mutate : Option (Option MutationPlan)
  differs : Option Bool
  comparable : Option ComparablePlan
  /-- What is put into the status. -/
  finalize : Option Value
  updateStatus : Bool
  faults : List (ComponentHook × Fault)

section Filling

/-- A value that stands for something else by its name. -/
def referenced? : Value → Option String
  | .obj [("$ref", .str name)] => some name
  | _ => none

/-- What a name stands for when the expected objects are made. -/
def meaning (labels : Fields) (aggregated : Bag) (name : String) : Hook Record Value := do
  let body ← Attempt.read Desk.resource
  match name with
  | "namespace" => Resource.ns body
  | "name" => Resource.name body
  | "uid" => Resource.uid body
  | "labels" => pure (.obj labels)
  | "aggregated" => do
    let identities ← aggregated.identities
    pure (.arr (identities.map fun i => .str i.text))
  | "cr-labels" => Resource.labels body
  | "cr-status" => Resource.status body
  | name => do
    let spec ← Resource.spec
    spec.field (String.ofList (name.toList.drop "spec.".length)) .null

mutual

/-- A value in which every name is replaced by what it stands for. -/
def fill (meaning : String → Hook Record Value) (v : Value) : Hook Record Value :=
  match referenced? v with
  | some name => meaning name
  | none => match v with
    | .arr items => do pure (.arr (← fillItems meaning items))
    | .obj fields => do pure (.obj (← fillFields meaning fields))
    | other => pure other

def fillItems (meaning : String → Hook Record Value) : List Value → Hook Record (List Value)
  | [] => pure []
  | v :: rest => do
    let v ← fill meaning v
    pure (v :: (← fillItems meaning rest))

def fillFields (meaning : String → Hook Record Value) :
    List (String × Value) → Hook Record (List (String × Value))
  | [] => pure []
  | (k, v) :: rest => do
    let v ← fill meaning v
    pure ((k, v) :: (← fillFields meaning rest))

end

/-- The tagged objects of some templates. -/
def fillAll (meaning : String → Hook Record Value) : List Template → Hook Record Bag
  | [] => pure []
  | t :: rest => do
    let object ← fill meaning t.object
    let lifecycle ← Lifecycle.ofValue t.lifecycle
    pure (⟨object, lifecycle⟩ :: (← fillAll meaning rest))

/-- The tagged objects of some templates as they are. -/
def taggedAll (templates : List Template) : Except Fault Bag :=
  templates.mapM fun t => do
    let lifecycle ← Lifecycle.ofValue t.lifecycle
    pure ⟨t.object, lifecycle⟩

end Filling

section Mutating

/-- Puts what a value gives into the status, which must be an object. -/
def addToStatus (new : Value) : Hook Record Unit := do
  let fields ← (← Attempt.read Desk.status).fieldsFor "update"
  let fields ← Value.putFrom fields new
  Attempt.modify fun desk => { desk with status := .obj fields }

/-- Takes over a field at a path from another value, if that has it. The objects on the way to the
field are made in any case. -/
def takeOver (path : List String) (own other : Value) : Except Fault Value :=
  match path with
  | [] => .ok own
  | [key] => do
    if ← other.contains (.str key) then own.assign key (← other.index (.str key))
    else pure own
  | key :: rest => do
    let (inner, own) ← own.setDefault key (.obj [])
    let inner ← takeOver rest inner (← other.field key (.obj []))
    own.assign key inner

/-- Takes over several fields. -/
def takeOverAll (paths : List (List String)) (own other : Value) : Except Fault Value :=
  paths.foldlM (fun own path => takeOver path own other) own

/-- The expected objects without the ones to leave out, with the fields of their live
counterparts. -/
def mutateItems (plan : MutationPlan) (observed : Bag) : Bag → Except Fault Bag
  | [] => .ok []
  | item :: rest => do
    let identity ← item.identity
    if identity.name.isIn plan.drop then mutateItems plan observed rest
    else
      let object ← match ← Bag.find? identity observed with
        | some live => takeOverAll plan.keep item.object live.object
        | none => pure item.object
      pure ({ item with object } :: (← mutateItems plan observed rest))

end Mutating

/-- Fails at the end of a callback if the plan says so. -/
def failing (faults : List (ComponentHook × Fault)) (hook : ComponentHook) : Hook Record Unit :=
  match faults.find? fun p => p.1 = hook with
  | some (_, fault) => Attempt.fail fault
  | none => pure ()

/-- The observables of a plan. -/
def observe (labels : Fields) (expected : Bag) :
    List ObservablePlan → Hook Record (List Observable)
  | [] => pure []
  | plan :: rest => do
    let here ← match plan with
      | .standard => Attempt.lift (Component.standardObservables expected)
      | .ownLabels apiVersion kind => do
        let ns ← Resource.ns (← Attempt.read Desk.resource)
        pure [Observable.forSelector apiVersion kind labels ns]
      | .given lookup => do pure [← lookup]
    pure (here ++ (← observe labels expected rest))

/-- Marks a component in the status: under its name in an object, at the end of a list. -/
def markStatus (name : Value) (fault : Option Fault) : Value → Except Fault Value
  | .obj fields => do
    let inner := (Fields.get? fields "components").getD (.obj [])
    let mark : Value := .str (if fault.isSome then "failed" else "ready")
    pure (.obj (Fields.put fields "components" (← inner.assignItem name mark)))
  | .arr items => .ok (.arr (items ++ [name]))
  | other => .ok other

/-- The given labels, copied, or the standard ones if they are null. -/
def labelsOf (name labels resource : Value) : Except Fault Fields :=
  if labels.isNull then Component.standardLabels name resource else labels.toFields

/-- The given owners, copied, or the standard ones if they are null. -/
def ownersOf (owners resource : Value) : Except Fault (List Value) :=
  if owners.isNull then Component.standardOwners resource else owners.iterate

/-- The component that does what a plan says. -/
def ComponentPlan.component (plan : ComponentPlan) (resource : Value) :
    Except Fault (Component Record) := do
  let labels ← labelsOf plan.name plan.labels resource
  let owners ← ownersOf plan.owners resource
  let standard : Component Record := .plain plan.name labels owners
  let note := Blueprint.note plan.name
  let failing := Blueprint.failing plan.faults
  pure { standard with
    expectedObjects := match plan.expectedObjects with
      | none => standard.expectedObjects
      | some expected => fun aggregated => do
        let identities ← aggregated.identities
        note (.expectedObjects labels identities)
        let answer ← match expected with
          | none => pure none
          | some expected => do
            let items ← fillAll (meaning labels aggregated) expected.items
            pure (expected.shape.apply items)
        failing .expectedObjects
        pure answer
    observables := match plan.observables with
      | none => standard.observables
      | some plans => fun expected => do
        note (.observables (← expected.identities))
        let answer ← observe labels expected plans
        failing .observables
        pure answer
    mutate := match plan.mutate with
      | none => standard.mutate
      | some mutation => fun expected observed => do
        note (.mutate (← expected.identities) (← observed.identities))
        let answer ← match mutation with
          | none => pure (some expected)
          | some mutation => do
            let items ← mutateItems mutation observed expected
            let more ← (taggedAll mutation.append : Except Fault _)
            addToStatus mutation.status
            pure (mutation.shape.apply (items ++ more))
        failing .mutate
        pure answer
    differs := match plan.differs with
      | none => standard.differs
      | some answer => fun expected observed => do
        note (.differs (← Body.identify expected) (← Body.identify observed))
        failing .differs
        pure answer
    comparable := match plan.comparable with
      | none => standard.comparable
      | some comparable => fun body fields => do
        note (.comparable (← Body.identify body) fields)
        let answer ← match comparable with
          | .standard => Attempt.lift (Body.payload body fields)
          | .fields keys => Attempt.lift (Body.payload body keys)
          | .key key => Attempt.lift (body.field key .null)
        failing .comparable
        pure answer
    finalize := match plan.finalize with
      | none => standard.finalize
      | some status => fun observed => do
        note (.finalize (← observed.identities))
        addToStatus status
        failing .finalize
    updateStatus := if !plan.updateStatus then standard.updateStatus else fun reconciled fault => do
      note (.updateStatus reconciled fault)
      let status ← markStatus plan.name fault (← Attempt.read Desk.status)
      Attempt.modify fun desk => { desk with status }
      failing .updateStatus }

/-- The components of some plans. -/
def componentsOf (resource : Value) : List ComponentPlan →
    Except Fault (List (Component Record))
  | [] => .ok []
  | plan :: rest => do
    let component ← plan.component resource
    pure (component :: (← componentsOf resource rest))

end OperatorCore.Blueprint
