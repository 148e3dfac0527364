import OperatorCore.Api.Request
import OperatorCore.Object.Finalizer
import OperatorCore.Object.Observable

/-!
# Objects over the API

Reading, listing, creating, replacing and deleting objects with requests to the API.

An object is replaced as a whole. If its kind has the status as a subresource, the main endpoint
ignores the status, which is therefore written by a second request, with the version that the first
one has given to the object. When the first request has released an object that is being deleted,
the object is gone, and there is nothing to write the status to.
-/

namespace OperatorCore.Client

variable {τ : Type}

/-- Reads an object by its name. -/
def readObject (client : Client τ) (r : ResourceKind) (ns name : Value) :
    Attempt (Wire τ) Value := do
  client.fetch "get" (.str (← (r.path ns name .null : Except Fault _))) .null .null .null

/-- The kind of the items of a list, given the kind of the list. -/
def itemKind (kind : Value) : Except Fault Value :=
  match kind with
  | .str s =>
    if s.toList.drop (s.length - 4) = "List".toList then
      .ok (.str (String.ofList (s.toList.take (s.length - 4))))
    else .ok (.str s)
  | .arr items => .ok (.arr items)
  | .obj _ => .error (.misuse (.unhashable "slice"))
  | other => .error (.misuse (.notSubscriptable other.typeName))

/-- An item of a list with the kind and the API version that only the list has. -/
def completeItem (answer : Fields) (item : Value) : Except Fault Value := do
  let item ← match Fields.get? answer "kind" with
    | some kind => do
      let fields ← item.fieldsFor "setdefault"
      pure (Value.obj (Fields.putIfAbsent fields "kind" (← itemKind kind)))
    | none => pure item
  match Fields.get? answer "apiVersion" with
  | some apiVersion => do
    let (_, item) ← item.setDefault "apiVersion" apiVersion
    pure item
  | none => pure item

/-- Completes all items of a list. -/
def completeItems (answer : Fields) : List Value → Except Fault (List Value)
  | [] => .ok []
  | item :: rest => do
    let item ← completeItem answer item
    pure (item :: (← completeItems answer rest))

/-- Lists the objects of a kind in a namespace or everywhere, possibly only those with some
labels. -/
def listObjects (client : Client τ) (r : ResourceKind) (ns labels : Value) :
    Attempt (Wire τ) (List Value) := do
  let selector ← (Labels.selectorOf labels : Except Fault _)
  let params : Value :=
    if selector = "" then .null else .obj [("labelSelector", .str selector)]
  let url ← (r.path ns .null .null : Except Fault _)
  let answer ← client.fetch "get" (.str url) .null .null params
  let fields ← answer.fieldsFor "get"
  let items ← ((Fields.get? fields "items").getD (.arr [])).iterate
  completeItems fields items

/-- Creates an object in the namespace that its body has. -/
def createObject (client : Client τ) (r : ResourceKind) (body : Value) :
    Attempt (Wire τ) Value := do
  let ns ← (← (Body.metadata body : Except Fault _)).field "namespace" .null
  client.fetch "post" (.str (← (r.path ns .null .null : Except Fault _))) body .null .null

/-- The body of the second request: everything with the status, at the version of the answer to the
first one. -/
def statusBody (main status answer : Value) : Except Fault Value := do
  let body ← main.assign "status" status
  Body.setResourceVersion body (← Body.resourceVersion answer)

/-- Replaces an object as a whole, and its status separately if the kind asks for it. -/
def replaceObject (client : Client τ) (r : ResourceKind) (body : Value) :
    Attempt (Wire τ) Value := do
  let identity ← (Body.identify body : Except Fault _)
  let ns := identity.ns.orElse .null
  let fields ← body.fieldsFor "get"
  let separate := r.subresources.contains "status"
  let main : Value := .obj (if separate then Fields.erase fields "status" else fields)
  let status := if separate then Fields.getD fields "status" else .null
  let url ← (r.path ns identity.name .null : Except Fault _)
  let answer ← client.fetch "put" (.str url) main .null .null
  if status.isNull then pure answer
  else if ← (Body.isReleased main : Except Fault _) then
    Wire.report (.statusSkipped identity)
    pure answer
  else
    let second ← statusBody main status answer
    let url ← (r.path ns identity.name (.str "status") : Except Fault _)
    client.fetch "put" (.str url) second .null .null

/-- The propagation policy of a deletion that is given none. -/
def standardPropagation : Value := .str "Background"

/-- Deletes an object by its name. -/
def deleteObject (client : Client τ) (r : ResourceKind) (ns name propagation : Value) :
    Attempt (Wire τ) Unit := do
  let options : Value := .obj
    [("apiVersion", .str "v1"), ("kind", .str "DeleteOptions"), ("propagationPolicy", propagation)]
  let url ← (r.path ns name .null : Except Fault _)
  let _ ← client.fetch "delete" (.str url) options .null .null

end OperatorCore.Client
