import OperatorCore.Value.Access

/-!
# What the engine reads and writes in a body

A body is the whole tree of an object. The engine never looks at what kind of object it is; all that
it needs to know is here: the identity, the version that the store has given to the object, the
references to the owners, and the references by which the object itself is named.

A body without metadata counts as one with empty metadata; the writing operations then add them.
-/

namespace OperatorCore.Body

/-- The metadata of an object. -/
def metadata (body : Value) : Except Fault Value := body.field "metadata" (.obj [])

/-- The identity of an object; what is absent or empty is the empty text. -/
def identify (body : Value) : Except Fault Identity := do
  let md ← metadata body
  let ns ← md.field "namespace" .null
  let kind ← body.field "kind" .null
  let name ← md.field "name" .null
  pure ⟨ns.orElse (.str ""), kind.orElse (.str ""), name.orElse (.str "")⟩

/-- The version of an object, null if it has none. -/
def resourceVersion (body : Value) : Except Fault Value := do
  (← metadata body).field "resourceVersion" .null

/-- An object with other metadata, which are given the value of a field. -/
def putInMetadata (body : Value) (key : String) (value : Value) : Except Fault Value := do
  let (md, body) ← body.setDefault "metadata" (.obj [])
  let md ← md.assign key value
  body.assign "metadata" md

/-- An object without a field of its metadata. -/
def dropFromMetadata (body : Value) (key : String) : Except Fault Value := do
  match ← metadata body with
  | .obj fields =>
    let top ← body.fieldsFor "get"
    if Fields.has top "metadata" then
      body.assign "metadata" (.obj (Fields.erase fields key))
    else pure body
  | .arr _ => .error (.misuse (.argument "pop expected at most 1 argument, got 2"))
  | other => .error (.misuse (.noAttribute other.typeName "pop"))

/-- Sets the version of an object, or removes it if the new one is null. -/
def setResourceVersion (body version : Value) : Except Fault Value :=
  if version.isNull then dropFromMetadata body "resourceVersion"
  else putInMetadata body "resourceVersion" version

/-- The references to the owners of an object. -/
def ownerReferences (body : Value) : Except Fault (List Value) := do
  (← (← metadata body).field "ownerReferences" (.arr [])).iterate

/-- Replaces the references to the owners of an object as a whole. -/
def setOwnerReferences (body : Value) (references : List Value) : Except Fault Value :=
  putInMetadata body "ownerReferences" (.arr references)

/-- The fields of a reference that hold anything. -/
def telling (fields : Fields) : Fields := fields.filter fun p => p.2.truthy

/-- A reference to an object, for the logs. -/
def objectReference (body : Value) : Except Fault Fields := do
  let apiVersion ← body.field "apiVersion" .null
  let kind ← body.field "kind" .null
  let md ← metadata body
  pure <| telling [
    ("apiVersion", apiVersion),
    ("kind", kind),
    ("name", ← md.field "name" .null),
    ("uid", ← md.field "uid" .null),
    ("namespace", ← md.field "namespace" .null)]

/-- A reference from a dependent object to this one as its owner. -/
def ownerReference (body : Value) : Except Fault Fields := do
  let apiVersion ← body.field "apiVersion" .null
  let kind ← body.field "kind" .null
  let md ← metadata body
  pure <| telling [
    ("controller", .bool true),
    ("blockOwnerDeletion", .bool true),
    ("apiVersion", apiVersion),
    ("kind", kind),
    ("name", ← md.field "name" .null),
    ("uid", ← md.field "uid" .null)]

end OperatorCore.Body
