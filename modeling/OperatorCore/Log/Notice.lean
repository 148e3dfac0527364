import OperatorCore.Diff.Basic
import OperatorCore.Object.Bag
import OperatorCore.Store.Operation

/-!
# Notices

Everything that the library reports while it works is one of these notices. A notice has a level and
a text; what it tells can be read off without parsing the text.
-/

namespace OperatorCore

/-- How important a notice is. -/
inductive Level where
  | debug
  | info
  | warning
  | error
deriving DecidableEq

def Level.name : Level → String
  | .debug => "DEBUG"
  | .info => "INFO"
  | .warning => "WARNING"
  | .error => "ERROR"

/-- What is done to a component in a pass. -/
inductive Activity where
  | reconciling
  | finalizing
deriving DecidableEq

def Activity.text : Activity → String
  | .reconciling => "reconciling"
  | .finalizing => "finalizing"

/-- The number of an attempt, and the number of all attempts if it is known beforehand. -/
structure AttemptNumber where
  number : Nat
  total : Option Nat
deriving DecidableEq

def AttemptNumber.text (n : AttemptNumber) : String :=
  match n.total with
  | some total => s!"#{n.number}/{total}"
  | none => s!"#{n.number}"

/-- Something worth reporting. -/
inductive Notice where
  /-- An object that was looked up is not there; the place is the text of the lookup. -/
  | absent (place : String)
  | found (place : String)
  | listed (place : String) (count : Nat)
  | diverged (identity : Identity) (items : List DiffItem)
  | opened (activity : Activity)
  | closed (activity : Activity)
  | stageFailed (stage detail : String)
  | expected (identity : Identity) (lifecycle : Lifecycle)
  | observed (identity : Identity)
  | unchanged (identity : Identity)
  | written (op : Operation) (identity : Identity)
  | writeFailed (op : Operation) (identity : Identity) (detail : String)
  | missing (detail : String)
  | finalizeFailed (detail : String)
  | vanished (ns name : Value)
  | validating
  | invalid (detail : String)
  | defaulting
  | updatingStatus
  | statusFailed (detail : String)
  | succeeded
  | attempting (n : AttemptNumber) (what : String)
  | attemptSucceeded (n : AttemptNumber) (what : String)
  | retrying (n : AttemptNumber) (what fault : String)
  | escalating (n : AttemptNumber) (what fault : String)
  | statusSkipped (identity : Identity)
deriving DecidableEq

namespace Notice

def level : Notice → Level
  | .opened _ | .closed _ | .written .. | .succeeded => .info
  | .vanished .. => .warning
  | .stageFailed .. | .writeFailed .. | .missing _ | .finalizeFailed _ | .invalid _
  | .statusFailed _ | .retrying .. | .escalating .. => .error
  | _ => .debug

/-- The mark of a successful operation. -/
def mark : Operation → String
  | .create => "+create"
  | .delete => "-delete"
  | op => op.text

def text : Notice → String
  | .absent place => s!"   >>absent: {place}"
  | .found place => s!"   >>get: {place}"
  | .listed place count => s!"   >>list: {place} -> {count} object(s)"
  | .diverged identity items =>
    s!"Diff for {identity.text}: " ++ "; ".intercalate (items.map DiffItem.text)
  | .opened activity => "\x7b " ++ activity.text ++ " component"
  | .closed activity => "\x7d " ++ activity.text ++ " component"
  | .stageFailed stage detail => s!"Failed: [{stage}] {detail}"
  | .expected identity lifecycle => s!"   exp: {identity.text} ({lifecycle.text})"
  | .observed identity => s!"   obs: {identity.text}"
  | .unchanged identity => s!"   nochange: {identity.text}"
  | .written op identity => s!"   {mark op}: {identity.text}"
  | .writeFailed op identity detail => s!"Failed: [{op.text}] {identity.text}: {detail}"
  | .missing detail => s!"Failed: [missing resource] {detail}"
  | .finalizeFailed detail => s!"Failed: [finalize] {detail}"
  | .vanished ns name =>
    "Not found: " ++ (ns.orElse (.str "")).text ++ "/" ++ name.text ++
      ". Skipping the reconciliation."
  | .validating => "Validating the spec."
  | .invalid detail => s!"Invalid spec: {detail}"
  | .defaulting => "Applying the defaults."
  | .updatingStatus => "Updating the status."
  | .statusFailed detail => s!"Failed to update the status: {detail}"
  | .succeeded => "Reconciliation succeeded."
  | .attempting n what => s!"Request attempt {n.text}: {what}"
  | .attemptSucceeded n what => s!"Request attempt {n.text} succeeded: {what}"
  | .retrying n what fault => s!"Request attempt {n.text} failed; will retry: {what} -> {fault}"
  | .escalating n what fault => s!"Request attempt {n.text} failed; escalating: {what} -> {fault}"
  | .statusSkipped identity =>
    s!"Skipping the status of {identity.text}: the object is released for deletion."
end Notice

end OperatorCore
