import OperatorCore.Engine.CustomResource
import OperatorCore.Engine.Reconciliation

/-!
# Reconciliation passes

A pass takes one custom resource through the same steps, one after another: reading, validating,
defaulting, reconciling or finalizing each component, and storing the status. A pass never repeats
anything by itself: it is meant to be run again, after a fault or a change.

A resource that cannot be read is not written. In all other cases in which the pass gets as far as
the status, the status is stored before the fault of the pass is raised.
-/

namespace OperatorCore.Engine

variable {σ ω : Type}

/-- The fault of an invalid spec; whatever the validation fails with counts as one. -/
def invalidity (fault : Fault) : Except Fault Fault := do
  if fault.isValidation then pure fault
  else pure ⟨.validation (.str (← fault.message)), some fault⟩

/-- Processes each component in order and collects what they fail with. -/
def processEach (engine : Engine σ) (deleting : Bool) : List (Component ω) →
    Step σ ω (List Fault)
  | [] => pure []
  | component :: rest => do
    let engine' := { engine with source := engine.source.forComponent component.name }
    let outcome ← Attempt.outcome <|
      if deleting then finalizeComponent engine' component
      else reconcileComponent engine' component
    let others ← processEach engine deleting rest
    pure <| match outcome with
      | .ok _ => others
      | .error fault => fault :: others

/-- Processes the components of the resource on the desk; answers all their faults as one. -/
def processComponents (engine : Engine σ) (handle : Handle ω) : Step σ ω (Option Fault) := do
  Step.aggregate []
  let deleting ← Body.isDeletionOngoing (← Attempt.read fun w => w.desk.resource)
  let components ← Step.call handle.components
  let faults ← processEach engine deleting components
  (Fault.aggregate? faults : Except Fault _)

/-- Stores the body on the desk. A fault of that is reported, and raised as the consequence of the
fault of the pass if there is one. -/
def storeStatus (engine : Engine σ) (fault : Option Fault) : Step σ ω Unit := do
  let body ← Attempt.read fun w => w.desk.resource
  match ← (Step.request (engine.store.update body)).outcome with
  | .ok _ => pure ()
  | .error failure =>
    Step.report engine.source (.statusFailed (← failure.message))
    match fault with
    | none => Attempt.fail failure
    | some cause =>
      Attempt.modify fun w => { w with store := engine.store.blame body cause w.store }
      Attempt.fail (failure.because cause)

/-- Takes a resource that has been read through the pass. -/
def reconcileBody (engine : Engine σ) (handle : Handle ω) : Step σ ω Unit := do
  Step.report engine.source .validating
  let invalid ← match ← (Step.call handle.validate).outcome with
    | .ok _ => pure none
    | .error fault => do pure (some (← (invalidity fault : Except Fault _)))
  let status ← Step.call handle.newStatus
  Attempt.modify fun w => { w with desk := { w.desk with status } }
  let fault ← match invalid with
    | some fault => do
      Step.report engine.source (.invalid (← fault.message))
      pure (some fault)
    | none => do
      Step.report engine.source .defaulting
      Step.call handle.applyDefaults
      processComponents engine handle
  if ← Step.call (handle.updateStatus fault) then
    Step.report engine.source .updatingStatus
    storeStatus engine fault
  match fault with
  | some fault => Attempt.fail fault
  | none => Step.report engine.source .succeeded

/-- Runs one pass over the resource of a namespace (or null) and a name, and fails with its
fault. -/
def reconcile (store : ObjectStore σ) (settings : Settings) (handle : Handle ω) (ns name : Value) :
    Step σ ω Unit := do
  let apiVersion ← (Handle.declared "api_version" handle.apiVersion : Except Fault _)
  let kind ← (Handle.declared "kind" handle.kind : Except Fault _)
  let source := Source.ofName apiVersion kind ns name
  match ← (Step.request (store.get apiVersion kind ns name)).outcome with
  | .error fault =>
    if fault.isNotFound then Step.report source (.vanished ns name)
    Attempt.fail fault
  | .ok body =>
    Attempt.modify fun w => { w with desk := { w.desk with resource := body } }
    reconcileBody ⟨store, settings, ← Source.ofBody body⟩ handle

end OperatorCore.Engine
