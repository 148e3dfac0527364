import OperatorCore.Object.Metadata
import OperatorCore.Time.Timestamp

/-!
# Deletion and finalizers

An object is being deleted once it has a deletion timestamp, and it stays as long as it has
finalizers: names, as a rule, that its controllers have put there to be able to clean up first.
Blocking the deletion adds a finalizer unless it is there; allowing it removes all its occurrences,
and the list itself when nothing is left in it.
-/

namespace OperatorCore.Body

def deletionMark (body : Value) : Except Fault Value := do
  (← metadata body).field "deletionTimestamp" .null

/-- The object has a deletion timestamp. -/
def isDeletionOngoing (body : Value) : Except Fault Bool := do
  pure !(← deletionMark body).isNull

/-- The time of the deletion, if there is one. -/
def deletionTime (body : Value) : Except Fault (Option CivilTime) := do
  match ← deletionMark body with
  | .null => pure none
  | .str s => match Timestamp.parse? s with
    | some time => pure (some time)
    | none => .error (.of .badTimestamp)
  | _ => .error (.of .badTimestamp)

/-- The finalizers of an object, an empty list if there are none. -/
def finalizers (body : Value) : Except Fault Value := do
  (← metadata body).field "finalizers" (.arr [])

/-- The finalizer is among those of the object. -/
def isDeletionBlocked (body finalizer : Value) : Except Fault Bool := do
  (← finalizers body).contains finalizer

/-- Adds a finalizer to an object unless it is there. -/
def blockDeletion (body finalizer : Value) : Except Fault Value := do
  if ← isDeletionBlocked body finalizer then pure body
  else match ← finalizers body with
    | .arr items => putInMetadata body "finalizers" (.arr (items ++ [finalizer]))
    | other => .error (.misuse (.noAttribute other.typeName "append"))

/-- A list without all items that equal a value, which are removed one by one from the first. -/
def eraseEach (v : Value) : List Value → List Value
  | [] => []
  | item :: rest => if item.equal v then eraseEach v rest else item :: eraseEach v rest

/-- Removes all occurrences of a finalizer from an object, and the list if it is empty then. -/
def allowDeletion (body finalizer : Value) : Except Fault Value := do
  let blocked ← isDeletionBlocked body finalizer
  let left ← match ← finalizers body with
    | .arr items => pure (.arr (eraseEach finalizer items))
    | other =>
      if blocked then .error (.misuse (.noAttribute other.typeName "remove")) else pure other
  match ← metadata body with
  | .obj fields =>
    if !Fields.has fields "finalizers" then pure body
    else if left.truthy then putInMetadata body "finalizers" left
    else dropFromMetadata body "finalizers"
  | _ => pure body

/-- The object is being deleted and nothing holds it any more. -/
def isReleased (body : Value) : Except Fault Bool := do
  if ← isDeletionOngoing body then
    pure !(← (← metadata body).field "finalizers" .null).truthy
  else pure false

end OperatorCore.Body
