import OperatorCore.Value.Access

/-!
# Responses of the API

A response has a status and a content, which may turn out to be unreadable. A status of 400 or more
is a fault: its class follows from the status alone, and the content is disclosed only if it is an
object that declares itself a `Status`. Nobody knows what else may be in it.

The content of an error is read before its class is known. An error can do without a content that is
no JSON, or that was lost on the way; any other fault of reading takes the place of the error.
-/

namespace OperatorCore

/-- An error can do without its content: it is no JSON, is not declared as JSON, or was lost while
it was read. -/
def Fault.isTolerated (fault : Fault) : Bool :=
  match fault.reason with
  | .brokenJson | .contentType | .connection _ => true
  | _ => false

/-- What a response holds: a value, or the fault of reading it. -/
inductive Content where
  | value (v : Value)
  | unreadable (fault : Fault)

/-- An answer of the server. -/
structure Response where
  status : Value
  content : Content

namespace Response

/-- The content, or the fault of reading it. -/
def read (r : Response) : Except Fault Value :=
  match r.content with
  | .value v => .ok v
  | .unreadable fault => .error fault

/-- What may be told about an error: the content if it is a `Status`. A fault of reading it that is
not tolerated is raised as it is. -/
def disclosed (r : Response) : Except Fault (Option Value) :=
  match r.content with
  | .value (.obj fields) =>
    .ok (if (Fields.getD fields "kind").equal (.str "Status") then some (.obj fields) else none)
  | .value _ => .ok none
  | .unreadable fault => if fault.isTolerated then .ok none else .error fault

/-- The class of an error status. -/
def classOf (status : Value) : Except Fault ApiClass := do
  if status.equal (.int 401) then pure .unauthorized
  else if status.equal (.int 403) then pure .forbidden
  else if status.equal (.int 404) then pure .notFound
  else if status.equal (.int 409) then pure .conflict
  else if ← status.isBelow 500 then pure .client
  else if ← status.isBelow 600 then pure .server
  else pure .other

/-- Passes a response on unless its status is that of an error. -/
def check (r : Response) : Except Fault Response := do
  if ← r.status.isAtLeast 400 then
    let payload ← r.disclosed
    .error (Fault.because (.of (.api (← classOf r.status) payload r.status)) (.of .badStatus))
  else pure r

end Response

end OperatorCore
