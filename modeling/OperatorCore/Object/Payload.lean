import OperatorCore.Diff.Basic
import OperatorCore.Object.Metadata

/-!
# Comparable payloads

Only a part of an object is compared with its live counterpart: the first of some well-known fields
that the object has, or else its essence. The essence of an object is all of it except what
identifies it, what the server has assigned to it, and its status; the labels and the annotations
belong to it.
-/

namespace OperatorCore.Body

/-- The fields of the metadata that are assigned by the server. -/
def systemFields : List String :=
  ["uid", "resourceVersion", "generation", "creationTimestamp", "deletionTimestamp",
    "deletionGracePeriodSeconds", "selfLink", "managedFields", "ownerReferences", "finalizers"]

/-- A field of the metadata that belongs to the essence. -/
def isEssential (key : String) : Bool :=
  !systemFields.contains key && key != "name" && key != "namespace"

/-- The essence of an object. -/
def essence (body : Value) : Except Fault Value := do
  let fields ← body.toFields
  let rest := Fields.erase (Fields.erase (Fields.erase (Fields.erase fields "apiVersion") "kind")
    "status") "metadata"
  let md ← ((Fields.get? fields "metadata").getD (.obj [])).fieldsFor "items"
  let kept := md.filter fun p => isEssential p.1
  pure (.obj (if kept.isEmpty then rest else rest ++ [("metadata", .obj kept)]))

/-- The first of the given members that an object has, or its essence. -/
def payloadAmong (body : Value) : List Value → Except Fault Value
  | [] => essence body
  | key :: rest => do
    if ← body.contains key then body.index key else payloadAmong body rest

/-- The first of the given members that an object has, or its essence; the keys are a list as a
rule. -/
def payload (body keys : Value) : Except Fault Value := do
  payloadAmong body (← keys.iterate)

/-- The payload fields that are compared if nothing else is said. -/
def defaultPayloadFields : Value := .arr [.str "spec", .str "data"]

end OperatorCore.Body
