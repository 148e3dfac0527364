import OperatorCore.Fault.Attempt
import OperatorCore.Log.Notice

/-!
# Object stores

The only way for the engine to read and write objects. A store is a state with five operations, each
of them on the whole state and each answered before the next one: there are no batches and no
transactions. The absence of an object is the one fault that all stores report alike
(`Fault.isNotFound`); all others are up to the store.
-/

namespace OperatorCore

/-- The answer of a store to one operation, the state that it leaves the store in, and what the
store has reported meanwhile. -/
structure Reply (σ α : Type) where
  outcome : Except Fault α
  state : σ
  notices : List Notice

/-- A store whose states are of the given type. -/
structure ObjectStore (σ : Type) where
  /-- The object of an API version and a kind, in a namespace (or null), by its name. -/
  get : (apiVersion kind ns name : Value) → σ → Reply σ Value
  /-- All objects of an API version and a kind, in a namespace or everywhere, with the labels. -/
  list : (apiVersion kind ns labels : Value) → σ → Reply σ (List Value)
  create : (body : Value) → σ → Reply σ Value
  update : (body : Value) → σ → Reply σ Value
  delete : (body : Value) → σ → Reply σ Unit
  /-- Takes note that the fault by which an update of the object has just failed was raised as the
  consequence of another one. -/
  blame : (body : Value) → (cause : Fault) → σ → σ

end OperatorCore
