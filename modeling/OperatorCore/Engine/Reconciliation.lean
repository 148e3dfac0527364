import OperatorCore.Engine.Component
import OperatorCore.Engine.Observation
import OperatorCore.Settings

/-!
# The reconciliation of a component

The expected objects of a component are compared with the observed ones by their identities:

* an expected object that is not observed is created;
* an expected object that is observed and has diverged is updated;
* an observed object that is not expected is deleted.

Only managed objects are created and updated; a referenced object that is not observed is a fault.
Deletion does not look at the lifecycle. A failed write does not stop the others: the faults are
collected, given to the component for its status, and raised together at the end.
-/

namespace OperatorCore

/-- The stages of observing a component; each runs only if the one before has succeeded. -/
inductive Stage where
  | gathering
  | observing
  | mutating
deriving DecidableEq

def Stage.text : Stage → String
  | .gathering => "gathering expected resources"
  | .observing => "observing resources"
  | .mutating => "mutating resources"

/-- What is known about a component before anything is written. If a stage has failed, both bags are
empty. -/
structure Survey where
  expected : Bag
  observed : Bag
  stage : Stage
  fault : Option Fault

/-- What has come out of the writes so far. -/
structure Tally where
  faults : List Fault
  reconciled : List Value

namespace Tally

def empty : Tally := ⟨[], []⟩

def failed (t : Tally) (fault : Fault) : Tally := { t with faults := t.faults ++ [fault] }

def live (t : Tally) (body : Value) : Tally := { t with reconciled := t.reconciled ++ [body] }

end Tally

/-- What the engine works with: the store, the settings, and the source of its notices. -/
structure Engine (σ : Type) where
  store : ObjectStore σ
  settings : Settings
  source : Source

namespace Engine

variable {σ ω : Type}

/-- Takes a stage's answer, or ends the survey with the fault of the stage. -/
def staged {α : Type} (component : Component ω) (stage : Stage) (x : Step σ ω α)
    (next : α → Step σ ω Survey) : Step σ ω Survey := do
  match ← x.outcome with
  | .ok a => next a
  | .error fault =>
    let failure ← (Fault.observation (.str stage.text) component.name fault : Except Fault _)
    pure ⟨[], [], stage, some failure⟩

/-- Gathers the expected objects of a component, observes them, and mutates them if asked to. A
component that knows no expected objects is not observed, so that nothing is deleted by mistake. -/
def observeAndMutate (engine : Engine σ) (component : Component ω) (mutate : Bool) :
    Step σ ω Survey := do
  let aggregated ← Attempt.read World.aggregated
  staged component .gathering (Step.call (component.expectedObjects aggregated)) fun
    | none => pure ⟨[], [], .gathering, none⟩
    | some expected =>
      let observation : Step σ ω Bag := do
        let observables ← Step.call (component.observables expected)
        Observation.observe engine.store engine.source observables
      staged component .observing observation fun observed =>
        if mutate then
          staged component .mutating (Step.call (component.mutate expected observed)) fun mutated =>
            pure ⟨mutated.getD [], observed, .mutating, none⟩
        else pure ⟨expected, observed, .observing, none⟩

/-- Stamps the owners on the expected objects; the bag of all components follows. -/
def stamp (engine : Engine σ) (owners : List Value) (before done : Bag) :
    (todo : Bag) → Step σ ω Bag
  | [] => pure done
  | item :: rest => do
    let object ← Body.setOwnerReferences item.object owners
    let stamped : Tagged := { item with object }
    Step.aggregate (before ++ done ++ stamped :: rest)
    Step.report engine.source (.expected (← stamped.identity) stamped.lifecycle)
    stamp engine owners before (done ++ [stamped]) rest

/-- The comparable parts of two objects differ; the differences are reported. -/
def payloadDiffers (engine : Engine σ) (component : Component ω) (expected observed : Value) :
    Step σ ω Bool := do
  let fields := engine.settings.comparison.payloadFields
  let a ← Step.call (component.comparable expected fields)
  let b ← Step.call (component.comparable observed fields)
  match diff engine.settings.comparison.scope a b with
  | [] => pure false
  | items =>
    Step.report engine.source (.diverged (← Body.identify expected) items)
    pure true

/-- An expected object is to be updated: it is managed, it differs, and the component agrees. -/
def diverges (engine : Engine σ) (component : Component ω) (item : Tagged) (observed : Value) :
    Step σ ω Bool := do
  if !item.isManaged then pure false
  else if ← payloadDiffers engine component item.object observed then
    Step.call (component.differs item.object observed)
  else pure false

/-- Writes an object; a fault is reported and kept. -/
def write {α : Type} (engine : Engine σ) (op : Operation) (identity : Identity)
    (operation : σ → Reply σ α) : Step σ ω (Option Fault) := do
  match ← (Step.request operation).outcome with
  | .ok _ =>
    Step.report engine.source (.written op identity)
    pure none
  | .error fault =>
    let failure ← (Fault.mutation (.str op.text) identity fault : Except Fault _)
    Step.report engine.source (.writeFailed op identity (← fault.message))
    pure (some failure)

/-- Creates or updates the expected objects, in order. The objects that are already processed are
given as they have become. -/
def writeExpected (engine : Engine σ) (component : Component ω) (observed before : Bag) :
    (done todo : Bag) → Tally → Step σ ω (Bag × Tally)
  | done, [], tally => pure (done, tally)
  | done, item :: rest, tally => do
    let identity ← item.identity
    match ← (Bag.find? identity observed : Except Fault _) with
    | some counterpart =>
      let version ← Body.resourceVersion counterpart.object
      let object ← Body.setResourceVersion item.object version
      let stamped : Tagged := { item with object }
      Step.aggregate (before ++ done ++ stamped :: rest)
      if ← diverges engine component stamped counterpart.object then
        match ← write engine .update identity (engine.store.update object) with
        | some fault =>
          writeExpected engine component observed before (done ++ [stamped]) rest
            ((tally.failed fault).live counterpart.object)
        | none =>
          writeExpected engine component observed before (done ++ [stamped]) rest
            (tally.live counterpart.object)
      else
        Step.report engine.source (.unchanged identity)
        writeExpected engine component observed before (done ++ [stamped]) rest
          (tally.live counterpart.object)
    | none =>
      if item.isManaged then
        match ← write engine .create identity (engine.store.create item.object) with
        | some fault =>
          writeExpected engine component observed before (done ++ [item]) rest (tally.failed fault)
        | none =>
          writeExpected engine component observed before (done ++ [item]) rest
            (tally.live item.object)
      else
        let fault : Fault := .of (.missing identity component.name)
        Step.report engine.source (.missing (← fault.message))
        writeExpected engine component observed before (done ++ [item]) rest (tally.failed fault)

/-- Deletes the observed objects that are not expected, in order. -/
def deleteUnexpected (engine : Engine σ) (expected : Bag) : (observed : Bag) → Tally →
    Step σ ω Tally
  | [], tally => pure tally
  | item :: rest, tally => do
    let identity ← item.identity
    match ← (Bag.find? identity expected : Except Fault _) with
    | some _ => deleteUnexpected engine expected rest tally
    | none =>
      match ← write engine .delete identity (engine.store.delete item.object) with
      | some fault => deleteUnexpected engine expected rest (tally.failed fault)
      | none => deleteUnexpected engine expected rest tally

/-- Reports what is observed. -/
def reportObserved (engine : Engine σ) : Bag → Step σ ω Unit
  | [] => pure ()
  | item :: rest => do
    Step.report engine.source (.observed (← item.identity))
    reportObserved engine rest

/-- Raises a fault, if there is one. -/
def raise? (fault : Option Fault) : Step σ ω Unit :=
  match fault with
  | some fault => Attempt.fail fault
  | none => pure ()

/-- Reports that a stage has failed, by the message of what it has failed with. -/
def reportStage (engine : Engine σ) (survey : Survey) : Step σ ω Unit := do
  let detail ← match survey.fault.bind Fault.cause with
    | some cause => cause.message
    | none => pure ""
  Step.report engine.source (.stageFailed survey.stage.text detail)

/-- Makes the writes that a survey calls for, and tells their outcome. -/
def writeSurveyed (engine : Engine σ) (component : Component ω) (survey : Survey) :
    Step σ ω Tally := do
  match survey.fault with
  | some fault =>
    reportStage engine survey
    pure (Tally.empty.failed fault)
  | none =>
    let before ← Attempt.read World.aggregated
    Step.aggregate (before ++ survey.expected)
    let expected ← stamp engine component.owners before [] survey.expected
    reportObserved engine survey.observed
    let (expected, tally) ←
      writeExpected engine component survey.observed before [] expected Tally.empty
    deleteUnexpected engine expected survey.observed tally

/-- Reconciles one component. -/
def reconcileComponent (engine : Engine σ) (component : Component ω) : Step σ ω Unit := do
  Step.report engine.source (.opened .reconciling)
  Attempt.ensuring
    (do
      let survey ← observeAndMutate engine component true
      let tally ← writeSurveyed engine component survey
      let fault ← (Fault.aggregate? tally.faults : Except Fault _)
      Step.call (component.updateStatus tally.reconciled fault)
      raise? fault)
    (Step.report engine.source (.closed .reconciling))

/-- Finalizes one component of a resource that is being deleted: it is observed and may clean up.
The engine itself deletes nothing. -/
def finalizeComponent (engine : Engine σ) (component : Component ω) : Step σ ω Unit := do
  Step.report engine.source (.opened .finalizing)
  Attempt.ensuring
    (do
      let survey ← observeAndMutate engine component false
      if survey.fault.isSome then reportStage engine survey
      let before ← Attempt.read World.aggregated
      Step.aggregate (before ++ survey.expected)
      let failure ← match ← (Step.call (component.finalize survey.observed)).outcome with
        | .ok _ => pure []
        | .error fault => do
          Step.report engine.source (.finalizeFailed (← fault.message))
          pure [fault]
      raise? (← (Fault.aggregate? (survey.fault.toList ++ failure) : Except Fault _)))
    (Step.report engine.source (.closed .finalizing))

end Engine

end OperatorCore
