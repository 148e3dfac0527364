import OperatorCore.Fault.Basic

/-!
# Callbacks and where they run

A callback of an application is a function, possibly with some of its arguments given beforehand,
and possibly wrapped into another one. It is asynchronous just when the innermost function is: then
it runs in the event loop, else in a thread of its own, so that the loop is not blocked.

Two names are not for the callback: the callback itself is `fn` to whoever calls it, and `settings`
are those of the call, which tell where the threads are.
-/

namespace OperatorCore

/-- Where a function runs. -/
inductive Place where
  | loop
  | thread
deriving DecidableEq

/-- A callback. -/
inductive Callback where
  /-- No callback at all. -/
  | absent
  /-- A function; a bound one belongs to an object, which it gets under the name `self`. -/
  | function (asynchronous bound : Bool)
  /-- A callback with its first arguments. -/
  | withArguments (arguments : List Value) (inner : Callback)
  /-- A synchronous function that stands for another one. -/
  | wrapped (inner : Callback)
deriving DecidableEq

/-- What a function has received. -/
structure CallArguments where
  positional : List Value
  named : Fields

namespace Callback

/-- Gives a callback its first arguments; there must be one. -/
def bind (arguments : List Value) (inner : Callback) : Except Fault Callback :=
  match inner with
  | .absent => .error (.misuse (.argument "the first argument must be callable"))
  | inner => .ok (.withArguments arguments inner)

/-- The innermost function is asynchronous. -/
def isAsync : Callback → Bool
  | .absent => false
  | .function asynchronous _ => asynchronous
  | .withArguments _ inner => inner.isAsync
  | .wrapped inner => inner.isAsync

/-- Where a callback runs. -/
def place (c : Callback) : Place := if c.isAsync then .loop else .thread

/-- There is a function to call. -/
def isPresent : Callback → Bool
  | .absent => false
  | .function .. => true
  | .withArguments _ inner => inner.isPresent
  | .wrapped inner => inner.isPresent

/-- What the innermost function receives: the arguments given beforehand come first, those of the
inner callbacks before those of the outer ones. -/
def received (c : Callback) (arguments : List Value) : List Value :=
  match c with
  | .absent | .function .. => arguments
  | .withArguments first inner => inner.received (first ++ arguments)
  | .wrapped inner => inner.received arguments

/-- The innermost function belongs to an object. -/
def isBound : Callback → Bool
  | .absent => false
  | .function _ bound => bound
  | .withArguments _ inner => inner.isBound
  | .wrapped inner => inner.isBound

/-- The named arguments that are for the callback, if nothing is given twice. Settings that are not
those of the application have no threads. -/
def forCallback (c : Callback) (settingsGiven : Bool) (named : Fields) : Except Fault Fields := do
  let twice (name : String) : Except Fault Fields :=
    .error (.misuse (.argument s!"got multiple values for argument {Text.quoted name}"))
  if Fields.has named "fn" then twice "fn"
  else match Fields.get? named "settings" with
    | none => pure named
    | some settings =>
      if settingsGiven then twice "settings"
      else if c.isAsync || settings.isNull then pure (Fields.erase named "settings")
      else .error (.misuse (.noAttribute settings.typeName "execution"))

/-- Calls a callback: the places where functions ran, and the outcome. -/
def invoke (c : Callback) (settingsGiven : Bool) (arguments : CallArguments)
    (failure : Option Fault) : List Place × Except Fault CallArguments :=
  match c.forCallback settingsGiven arguments.named with
  | .error fault => ([], .error fault)
  | .ok named =>
    if !c.isPresent then ([], .error (.misuse (.argument "'NoneType' object is not callable")))
    else if c.isBound && Fields.has named "self" then
      ([], .error (.misuse (.argument "got multiple values for argument 'self'")))
    else
      ([c.place], match failure with
        | some fault => .error fault
        | none => .ok { positional := c.received arguments.positional, named })

theorem place_eq_loop_iff {c : Callback} : c.place = .loop ↔ c.isAsync = true := by
  unfold place
  split <;> simp_all

end Callback

end OperatorCore
