import OperatorCore.Engine.Component

/-!
# Events of an application

An application that is described by data keeps a record of the calls of its callbacks, each with
what it was given. Objects are recorded by their identities where the identity says enough.
-/

namespace OperatorCore.Blueprint

/-- A callback of a component. -/
inductive ComponentHook where
  | expectedObjects
  | observables
  | mutate
  | differs
  | comparable
  | finalize
  | updateStatus
deriving DecidableEq

/-- A callback of a handle. -/
inductive HandleHook where
  | validate
  | applyDefaults
  | newStatus
  | components
  | updateStatus
deriving DecidableEq

/-- What a callback of a component was given. -/
inductive Occasion where
  | expectedObjects (labels : Fields) (aggregated : List Identity)
  | observables (expected : List Identity)
  | mutate (expected observed : List Identity)
  | differs (expected observed : Identity)
  | comparable (body : Identity) (fields : Value)
  | finalize (observed : List Identity)
  | updateStatus (reconciled : List Value) (fault : Option Fault)

/-- A call of a component's callback. -/
structure Event where
  component : Value
  occasion : Occasion

/-- The record of an application: the calls so far. -/
abbrev Record := List Event

/-- Adds a call to the record. -/
def note (component : Value) (occasion : Occasion) : Hook Record Unit :=
  Attempt.modify fun desk => { desk with app := desk.app ++ [⟨component, occasion⟩] }

end OperatorCore.Blueprint
