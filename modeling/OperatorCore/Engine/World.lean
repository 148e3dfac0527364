import OperatorCore.Log.Line
import OperatorCore.Store.Basic

/-!
# The world of a pass

Everything that a reconciliation pass can change: the store, the desk of the application (the body
of the custom resource, its new status, and whatever else the application keeps), the expected
objects of the components so far, and the log. The callbacks of the application work on the desk
alone; only the engine has the store and the log.
-/

namespace OperatorCore

/-- What the callbacks of an application work on. -/
structure Desk (ω : Type) where
  /-- The body of the custom resource. -/
  resource : Value
  /-- The status that the components fill in during the pass. -/
  status : Value
  /-- Whatever else the application keeps. -/
  app : ω

/-- A callback of an application. -/
abbrev Hook (ω α : Type) := Attempt (Desk ω) α

/-- Everything that a pass can change. -/
structure World (σ ω : Type) where
  store : σ
  desk : Desk ω
  /-- The expected objects of the components so far. -/
  aggregated : Bag
  log : List Line

/-- A step of a pass. -/
abbrev Step (σ ω α : Type) := Attempt (World σ ω) α

namespace Step

variable {σ ω α : Type}

/-- Adds a line to the log. -/
def report (source : Source) (notice : Notice) : Step σ ω Unit :=
  Attempt.modify fun w => { w with log := w.log ++ [⟨some source, notice⟩] }

@[simp] theorem run_report (source : Source) (notice : Notice) (w : World σ ω) :
    (report source notice).run w =
      (.ok (), { w with log := w.log ++ [⟨some source, notice⟩] }) := rfl

/-- Calls the application. -/
def call (hook : Hook ω α) : Step σ ω α :=
  Attempt.within World.desk (fun desk w => { w with desk }) hook

@[simp] theorem run_call (hook : Hook ω α) (w : World σ ω) :
    (call hook : Step σ ω α).run w =
      ((hook.run w.desk).1, { w with desk := (hook.run w.desk).2 }) := rfl

/-- Calls the store; what it reports goes to the log without a source. -/
def request (operation : σ → Reply σ α) : Step σ ω α := fun w =>
  let reply := operation w.store
  (reply.outcome,
    { w with store := reply.state, log := w.log ++ reply.notices.map fun n => ⟨none, n⟩ })

@[simp] theorem run_request (operation : σ → Reply σ α) (w : World σ ω) :
    (request operation).run w = ((operation w.store).outcome,
      { w with
        store := (operation w.store).state
        log := w.log ++ (operation w.store).notices.map fun n => ⟨none, n⟩ }) := rfl

/-- Replaces the expected objects of the components so far. -/
def aggregate (bag : Bag) : Step σ ω Unit :=
  Attempt.modify fun w => { w with aggregated := bag }

@[simp] theorem run_aggregate (bag : Bag) (w : World σ ω) :
    (aggregate bag).run w = (.ok (), { w with aggregated := bag }) := rfl

end Step

end OperatorCore
