import OperatorCore.Api.Objects
import OperatorCore.Api.Scheme
import OperatorCore.Store.Basic

/-!
# The store over the API

A store whose objects are on a server. The scheme maps the kinds of the bodies to the endpoints; a
kind that is not registered can neither be read nor written.
-/

namespace OperatorCore

/-- A store over the API: a client, and the kinds that it knows. -/
structure ApiStore (τ : Type) where
  client : Client τ
  scheme : Scheme

namespace ApiStore

variable {τ : Type}

def get (s : ApiStore τ) (apiVersion kind ns name : Value) : Attempt (Wire τ) Value := do
  let r ← (s.scheme.lookup apiVersion kind : Except Fault _)
  let body ← s.client.readObject r ns name
  let (_, body) ← body.setDefault "apiVersion" apiVersion
  let (_, body) ← body.setDefault "kind" kind
  pure body

def list (s : ApiStore τ) (apiVersion kind ns labels : Value) : Attempt (Wire τ) (List Value) := do
  let r ← (s.scheme.lookup apiVersion kind : Except Fault _)
  s.client.listObjects r ns labels

def create (s : ApiStore τ) (body : Value) : Attempt (Wire τ) Value := do
  let r ← (s.scheme.kindOf body : Except Fault _)
  s.client.createObject r body

def update (s : ApiStore τ) (body : Value) : Attempt (Wire τ) Value := do
  let r ← (s.scheme.kindOf body : Except Fault _)
  s.client.replaceObject r body

def delete (s : ApiStore τ) (body : Value) : Attempt (Wire τ) Unit := do
  let identity ← (Body.identify body : Except Fault _)
  let r ← (s.scheme.kindOf body : Except Fault _)
  s.client.deleteObject r (identity.ns.orElse .null) identity.name Client.standardPropagation

/-- The reply of an operation, with what has been reported during it. -/
def reply {α : Type} (x : Attempt (Wire τ) α) (w : Wire τ) : Reply (Wire τ) α :=
  let (outcome, state) := x.run { w with notices := [] }
  ⟨outcome, state, state.notices⟩

/-- The store over the API as a store for the engine. Each of its faults is raised once, so there is
nothing to take note of. -/
def asStore (s : ApiStore τ) : ObjectStore (Wire τ) where
  get apiVersion kind ns name := reply (s.get apiVersion kind ns name)
  list apiVersion kind ns labels := reply (s.list apiVersion kind ns labels)
  create body := reply (s.create body)
  update body := reply (s.update body)
  delete body := reply (s.delete body)
  blame _ _ w := w

end ApiStore

/-- A network that gives prepared responses, one after another whatever is asked, and then has
none. -/
def Network.prepared : Network (List (Except Fault Response)) where
  exchange _
    | [] => (.error (.of (.connection (.str "no response"))), [])
    | outcome :: rest => (outcome, rest)

end OperatorCore
