import OperatorCore.Blueprint.Handle
import OperatorCore.Document.Structures

/-!
# Blueprints as documents

The documents that describe an application: its handle, its components, and what they do in their
callbacks. A callback that is only told to fail is a callback all the same, and has an empty plan.
The events of an application are written with the name of the callback and what it was given.
-/

namespace OperatorCore.Document

open Blueprint

def template (v : Value) : Template := ⟨get v "obj", getOr v "lifecycle" (.str "managed")⟩

def shape : Value → Shape
  | .str "none" => .nothing
  | .str "raw" => .untagged
  | .str "mixed" => .alternating
  | _ => .bag

def observablePlan : Value → ObservablePlan
  | .str _ => .standard
  | v =>
    if has v "for_labels" then .ownLabels (get v "api_version") (get v "for_labels")
    else .given (observable v)

def componentHooks : List (String × ComponentHook) :=
  [("expected_resources", .expectedObjects), ("observables", .observables), ("mutate", .mutate),
    ("differs", .differs), ("comparable", .comparable), ("finalize", .finalize),
    ("update_component_status", .updateStatus)]

def handleHooks : List (String × HandleHook) :=
  [("validate", .validate), ("apply_defaults", .applyDefaults), ("new_status", .newStatus),
    ("components", .components), ("update_status", .updateStatus)]

/-- The callbacks that are told to fail. -/
def plannedFaults {α : Type} (hooks : List (String × α)) (v : Value) : List (α × Fault) :=
  hooks.filterMap fun p => (at? (get v "raise") p.1).map fun f => (p.2, raisedFault f)

def componentPlan (v : Value) : ComponentPlan :=
  let script (key : String) : Option Value :=
    match at? v key with
    | some s => some s
    | none => if has (get v "raise") key then some .null else none
  { name := get v "name"
    labels := get v "labels"
    owners := get v "owner_references"
    expectedObjects := (script "expected_resources").map fun
      | .null => none
      | s => some ⟨(list s "items").map template, shape (get s "as")⟩
    observables := (script "observables").map fun s => (asItems s).map observablePlan
    mutate := (script "mutate").map fun
      | .null => none
      | s => some
        { drop := list s "drop"
          keep := (list s "keep").map texts
          append := (list s "append").map template
          status := getOr s "status" (.obj [])
          shape := shape (get s "as") }
    differs := (script "differs").map Value.truthy
    comparable := (script "comparable").map fun s =>
      if has s "fields" then .fields (get s "fields")
      else if has s "key" then .key (text s "key")
      else .standard
    finalize := (script "finalize").map fun s => getOr s "status" (.obj [])
    updateStatus := (script "update_component_status").isSome
    faults := plannedFaults componentHooks v }

def handlePlan (v : Value) : HandlePlan :=
  { title := asText (getOr v "class" (.str "KExample"))
    apiVersion := at? v "api_version"
    kind := at? v "kind"
    finalizer := get v "finalizer"
    validate := (at? v "validate").map fun s =>
      (asItems s).map fun r => ⟨text r "field", raisedFault (get r "error")⟩
    defaults := (at? v "defaults").map asFields
    newStatus := at? v "new_status"
    components := (at? v "components").map fun s => (asItems s).map componentPlan
    updateStatus := at? v "update_status"
    faults := plannedFaults handleHooks v }

/-! ## Events -/

/-- The name of the callback, and what it was given. -/
def occasionFields : Occasion → Except Fault (String × Fields)
  | .expectedObjects labels aggregated =>
    .ok ("expected_resources",
      [("labels", shown (.obj labels)), ("aggregated", ofIdentities aggregated)])
  | .observables expected => .ok ("observables", [("expected", ofIdentities expected)])
  | .mutate expected observed =>
    .ok ("mutate", [("expected", ofIdentities expected), ("observed", ofIdentities observed)])
  | .differs expected observed =>
    .ok ("differs", [("expected", ofIdentity expected), ("observed", ofIdentity observed)])
  | .comparable body fields =>
    .ok ("comparable", [("body", ofIdentity body), ("fields", match fields.iterate with
      | .ok keys => shown (.arr keys)
      | .error _ => shown fields)])
  | .finalize observed => .ok ("finalize", [("observed", ofIdentities observed)])
  | .updateStatus reconciled fault => do
    pure ("update_component_status",
      [("reconciled", .arr (reconciled.map shown)), ("error", ← ofFault? fault)])

def ofEvent (e : Event) : Except Fault Value := do
  let (hook, fields) ← occasionFields e.occasion
  pure (.obj ([("hook", .str hook), ("component", shown e.component)] ++ fields))

def ofEvents (events : List Event) : Except Fault Value := do pure (.arr (← events.mapM ofEvent))

end OperatorCore.Document
