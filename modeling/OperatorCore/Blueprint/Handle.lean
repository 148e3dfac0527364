import OperatorCore.Blueprint.Component

/-!
# Handles described by data

The same for the kinds of custom resources: a plan says for each callback of a handle what it does.
A callback without a plan is the default one; one that is told to fail does so at its beginning,
except for the update of the status, which is done first.
-/

namespace OperatorCore.Blueprint

/-- A field of the spec that must not hold anything, and the fault if it does. -/
structure Rule where
  field : String
  fault : Fault

/-- What a handle does in its callbacks. -/
structure HandlePlan where
  title : String
  apiVersion : Option Value
  kind : Option Value
  /-- The finalizer; null for none. -/
  finalizer : Value
  validate : Option (List Rule)
  defaults : Option Fields
  newStatus : Option Value
  components : Option (List ComponentPlan)
  /-- What the update of the status answers; the body is stored if it counts as true. -/
  updateStatus : Option Value
  faults : List (HandleHook × Fault)

/-- Fails with the fault of the first rule that is broken. -/
def checkRules : List Rule → Hook Record Unit
  | [] => pure ()
  | rule :: rest => do
    let spec ← Resource.spec
    let value ← spec.field rule.field .null
    if value.truthy then Attempt.fail rule.fault else checkRules rest

/-- Gives the absent fields of the spec their defaults. -/
def fillDefaults : Fields → Hook Record Unit
  | [] => pure ()
  | (key, value) :: rest => do
    let spec ← Resource.spec
    let (_, spec) ← spec.setDefault key value
    Resource.change fun body => body.assign "spec" spec
    fillDefaults rest

namespace HandlePlan

/-- A callback with the default, or as planned, after the failure that may be planned for it. -/
def planned {α : Type} (plan : HandlePlan) (hook : HandleHook) (action : Hook Record α) :
    Hook Record α :=
  match plan.faults.find? fun p => p.1 = hook with
  | some (_, fault) => Attempt.fail fault
  | none => action

/-- The handle that does what a plan says. -/
def handle (plan : HandlePlan) : Handle Record :=
  let standard : Handle Record := .plain plan.title plan.apiVersion plan.kind plan.finalizer
  { standard with
    validate := plan.planned .validate <|
      match plan.validate with
      | none => standard.validate
      | some rules => checkRules rules
    applyDefaults := plan.planned .applyDefaults <|
      match plan.defaults with
      | none => standard.applyDefaults
      | some fields => fillDefaults fields
    newStatus := plan.planned .newStatus <|
      match plan.newStatus with
      | none => standard.newStatus
      | some status => pure status
    components := plan.planned .components <|
      match plan.components with
      | none => standard.components
      | some plans => do
        let resource ← Attempt.read Desk.resource
        componentsOf resource plans
    updateStatus := fun fault => do
      let answer ← standard.updateStatus fault
      plan.planned .updateStatus (pure ((plan.updateStatus.map Value.truthy).getD answer)) }

end HandlePlan

end OperatorCore.Blueprint
