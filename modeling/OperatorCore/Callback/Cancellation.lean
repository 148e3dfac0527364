import OperatorCore.Fault.Basic

/-!
# Cancelling a pass that waits for a callback

A callback in a thread cannot be stopped, so a pass that is cancelled meanwhile goes on waiting
until the callback has ended. Only then the cancellation takes effect; but a failure of the callback
ends the pass as that failure, cancelled or not.
-/

namespace OperatorCore

/-- What a pass is doing that waits for a callback. -/
inductive Waiting where
  /-- It waits; it remembers whether it has been cancelled. -/
  | waiting (cancelled : Bool)
  | ended (outcome : Option Fault)
  | cancelled

/-- What is seen of a pass. -/
inductive WaitingSign where
  | waiting
  | finished
  | cancelled
  | done
  | failed (fault : Fault)

namespace Waiting

def start : Waiting := .waiting false

/-- Asks the pass to be cancelled. -/
def cancel : Waiting → Waiting
  | .waiting _ => .waiting true
  | other => other

/-- The callback has ended, possibly with a failure. -/
def finish (failure : Option Fault) : Waiting → Waiting
  | .waiting asked =>
    match failure with
    | some fault => .ended (some fault)
    | none => if asked then .cancelled else .ended none
  | other => other

def sign : Waiting → WaitingSign
  | .waiting _ => .waiting
  | .ended _ | .cancelled => .done

/-- What is seen of a pass in the end; nothing if it succeeded. -/
def last : Waiting → List WaitingSign
  | .cancelled => [.cancelled]
  | .ended (some fault) => [.failed fault]
  | .ended none | .waiting _ => []

/-- Cancels a pass a number of times, and tells what is seen after each. -/
def cancelTimes : Nat → Waiting → List WaitingSign × Waiting
  | 0, w => ([], w)
  | n + 1, w =>
    let (signs, w') := cancelTimes n w.cancel
    (w.cancel.sign :: signs, w')

/-- Cancels a pass a number of times before its callback ends. -/
def observe (times : Nat) (failure : Option Fault) : List WaitingSign :=
  let (signs, w) := cancelTimes times start
  signs ++ .finished :: (w.finish failure).last

end Waiting

end OperatorCore
