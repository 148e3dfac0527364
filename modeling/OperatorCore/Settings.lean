import OperatorCore.Diff.Basic
import OperatorCore.Fault.Attempt
import OperatorCore.Object.Payload

/-!
# Settings

What an application may tune: the timeouts and retries of the API client, the number of workers for
slow callbacks, and what is compared to tell whether an object has diverged. Settings are values
that are passed on explicitly; no two users share them.
-/

namespace OperatorCore

/-- The delays between the attempts of a request: one delay, a list of them, or a stream of them,
whose length is not known beforehand. Each item of a stream is taken once, by whichever request
comes first. -/
inductive Backoffs where
  | single (delay : Value)
  | listed (delays : List Value)
  | streamed (delays : List Value)
deriving DecidableEq

namespace Backoffs

def delays : Backoffs → List Value
  | .single delay => [delay]
  | .listed delays | .streamed delays => delays

/-- The number of attempts, if it is known beforehand. -/
def attempts? : Backoffs → Option Nat
  | .single _ => some 2
  | .listed delays => some (delays.length + 1)
  | .streamed _ => none

end Backoffs

/-- Timeouts and retries of the API client. A null timeout is none. -/
structure Networking where
  requestTimeout : Value
  connectTimeout : Value
  backoffs : Backoffs
deriving DecidableEq

/-- The workers that run the slow callbacks. -/
structure Workers where
  /-- The number of workers that has been set, or null. -/
  limit : Value
  /-- The pool of workers has a size, which follows the number that is set. -/
  sized : Bool
deriving DecidableEq

/-- What is compared to tell whether an object has diverged. -/
structure Comparison where
  payloadFields : Value
  scope : Scope
deriving DecidableEq

structure Settings where
  networking : Networking
  workers : Workers
  comparison : Comparison
deriving DecidableEq

namespace Settings

/-- The settings of an application that sets nothing. -/
def standard : Settings where
  networking :=
    { requestTimeout := .int 300
      connectTimeout := .null
      backoffs := .listed [.int 1, .int 1, .int 2, .int 3, .int 5, .int 8] }
  workers := { limit := .null, sized := true }
  comparison := { payloadFields := Body.defaultPayloadFields, scope := .full }

end Settings

namespace Workers

/-- Sets the number of workers. A pool that has no size is refused, but the number stays. -/
def setLimit (limit : Value) : Attempt Workers Unit := do
  if ← (limit.isBelow 1 : Except Fault _) then Attempt.fail (.refused .tooFewWorkers)
  Attempt.modify fun w => { w with limit }
  if !(← Attempt.read sized) then Attempt.fail (.misuse .fixedPool)

/-- The size of the pool is the number that has been set; a pool of its own size has another one,
and a pool without a size agrees with no number. -/
def agrees (w : Workers) : Bool := if w.sized then !w.limit.isNull else w.limit.isNull

end Workers

end OperatorCore
