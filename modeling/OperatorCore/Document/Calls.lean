import OperatorCore.Document.Settings

/-!
# Calls as documents

What the calls of an API client, of a logger and of a callback are given, and under which names. A
call that is given something that it does not take, or not given what it needs, fails before it does
anything.
-/

namespace OperatorCore.Document

/-- The members of a document under some names. -/
def among (v : Value) (names : List String) : Value :=
  .obj ((asFields v).filter fun p => names.contains p.1)

/-- What a request is given, by the verb of the client. -/
def verbSignature : String → Signature
  | "request" => ⟨"request", ["method", "url"], ["payload", "headers", "params", "timeout"]⟩
  | "get" => ⟨"get", ["url"], ["params", "headers"]⟩
  | verb => ⟨verb, ["url"], ["payload", "headers"]⟩

/-- Everything that some verb is given. -/
def verbNames : List String := ["method", "url", "payload", "headers", "params", "timeout"]

/-- What an operation on an object is given besides the kind of the object. -/
def callSignature : String → Signature
  | "read" => ⟨"read", ["namespace", "name"], []⟩
  | "list" => ⟨"list", ["namespace"], ["labels"]⟩
  | "create" => ⟨"create", ["body"], []⟩
  | "replace" => ⟨"replace", ["body"], []⟩
  | call => ⟨call, ["namespace", "name"], ["propagation_policy"]⟩

/-- Everything that some operation is given. -/
def callNames : List String := ["namespace", "name", "labels", "body", "propagation_policy"]

/-- Makes a request with a verb of a client. -/
def callVerb (client : Client (List (Except Fault Response))) (v : Value) :
    Attempt Prepared Value := do
  let verb := text v "verb"
  let given := among v verbNames
  (verbSignature verb).check given
  let url := get given "url"
  let payload := get given "payload"
  let headers := get given "headers"
  let params := get given "params"
  match verb with
  | "request" => do
    let timeout := (at? given "timeout").map fun total => (total, Value.null)
    let response ← client.request (get given "method") url payload headers params timeout
    pure (.obj [("status", shown response.status), ("unparsed", .bool true)])
  | verb => do pure (shown (← client.fetch verb url payload headers params))

/-- Makes an operation on an object of a kind. -/
def callOperation (client : Client (List (Except Fault Response))) (v : Value) :
    Attempt Prepared Value := do
  let call := text v "call"
  let given := among v callNames
  (callSignature call).check given
  let kind := kind (get v "resource")
  let ns := get given "namespace"
  let name := get given "name"
  let body := get given "body"
  match call with
  | "read" => client.readObject kind ns name
  | "list" => do pure (.arr (← client.listObjects kind ns (get given "labels")))
  | "create" => client.createObject kind body
  | "replace" => client.replaceObject kind body
  | _ => do
    client.deleteObject kind ns name (getOr given "propagation_policy" Client.standardPropagation)
    pure .null

end OperatorCore.Document
