import OperatorCore.Engine.World
import OperatorCore.Object.Observable

/-!
# Observation

The live objects, as the observables ask for them: one read after another, in order, nothing cached.
An object that is looked up and absent is not in the result. Any other fault of a read ends the
observation, and there is no result at all.
-/

namespace OperatorCore.Observation

variable {σ ω : Type}

/-- The live objects of one observable. -/
def observeOne (store : ObjectStore σ) (source : Source) (o : Observable) :
    Step σ ω (List Value) := do
  match o.target with
  | .point name =>
    let reading := Step.request (store.get o.apiVersion o.kind o.ns (name.orElse (.str "")))
    match ← reading.outcome with
    | .ok body =>
      Step.report source (.found (← o.text))
      pure [body]
    | .error fault =>
      if fault.isNotFound then
        Step.report source (.absent (← o.text))
        pure []
      else Attempt.fail fault
  | .set labels =>
    let bodies ← Step.request (store.list o.apiVersion o.kind o.ns (labels.orElse (.obj [])))
    Step.report source (.listed (← o.text) bodies.length)
    pure bodies

/-- The live objects of all the observables, all of them managed. -/
def observe (store : ObjectStore σ) (source : Source) : List Observable → Step σ ω Bag
  | [] => pure []
  | o :: rest => do
    let bodies ← observeOne store source o
    let others ← observe store source rest
    pure (bodies.map Tagged.managed ++ others)

end OperatorCore.Observation
