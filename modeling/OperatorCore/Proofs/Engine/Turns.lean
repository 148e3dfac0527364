import OperatorCore.Proofs.Engine.StatusWrite

/-!
# The components take turns

Where a pass gets as far as the components, each of them has one turn, and the world
in which a turn comes is the one that the turn before has left behind, whether or
not that has failed. So the turns of a pass can be listed, each with its world, and
whatever only grows from turn to turn is at the end what it was at the beginning and
what each turn has added to it. Who wants to know about a pass has to look at a
single turn.
-/

namespace OperatorCore

variable {σ ω : Type}

namespace Engine

/-- What is done about a component of a resource, which is being deleted or not. -/
def attend (engine : Engine σ) (deleting : Bool) (component : Component ω) :
    Step σ ω Unit :=
  let engine' := { engine with source := engine.source.forComponent component.name }
  if deleting then finalizeComponent engine' component
  else reconcileComponent engine' component

theorem run_processEach_cons (engine : Engine σ) (deleting : Bool)
    (component : Component ω) (rest : List (Component ω)) (w : World σ ω) :
    let one := (attend engine deleting component).run w
    let more := (processEach engine deleting rest).run one.2
    (processEach engine deleting (component :: rest)).run w =
      (more.1.map fun others => match one.1 with
        | .ok _ => others
        | .error fault => fault :: others, more.2) := by
  intro one more
  have hone : (if deleting then
        finalizeComponent { engine with source := engine.source.forComponent component.name }
          component
      else
        reconcileComponent { engine with source := engine.source.forComponent component.name }
          component).run w = one := rfl
  simp only [processEach, Attempt.run_bind, Attempt.run_outcome, hone]
  rcases hmore : (processEach engine deleting rest).run one.2 with ⟨e | others, w'⟩
  · rw [show more = (.error e, w') from hmore]
    rfl
  · rw [show more = (.ok others, w') from hmore]
    rfl

end Engine

/-- A component, and the world in which its turn comes. -/
structure Turn (σ ω : Type) where
  component : Component ω
  world : World σ ω

namespace Turn

/-- What is done in the turn, and the world that it leaves. -/
def run (engine : Engine σ) (deleting : Bool) (turn : Turn σ ω) :
    Except Fault Unit × World σ ω :=
  (engine.attend deleting turn.component).run turn.world

/-- The fault that the component has failed with in its turn. -/
def fault? (engine : Engine σ) (deleting : Bool) (turn : Turn σ ω) : Option Fault :=
  match (turn.run engine deleting).1 with
  | .ok _ => none
  | .error fault => some fault

end Turn

namespace Engine

/-- The turns of some components, each in the world that the one before has left. -/
def turns (engine : Engine σ) (deleting : Bool) :
    List (Component ω) → World σ ω → List (Turn σ ω)
  | [], _ => []
  | component :: rest, w =>
    ⟨component, w⟩ :: turns engine deleting rest ((engine.attend deleting component).run w).2

section Turns

variable (engine : Engine σ) (deleting : Bool)

/-- Every component has one turn, and the turns come in order. -/
theorem turns_component (components : List (Component ω)) (w : World σ ω) :
    (turns engine deleting components w).map Turn.component = components := by
  induction components generalizing w with
  | nil => rfl
  | cons component rest ih => rw [turns, List.map_cons, ih]

/-- No turn is left out for what another one has failed with. -/
theorem answer_processEach (components : List (Component ω)) (w : World σ ω) :
    ((processEach engine deleting components).run w).1 =
      .ok ((turns engine deleting components w).filterMap
        (Turn.fault? engine deleting)) := by
  induction components generalizing w with
  | nil => rfl
  | cons component rest ih =>
      rw [run_processEach_cons, turns, List.filterMap_cons, ih]
      have hfault : Turn.fault? engine deleting ⟨component, w⟩ =
          match ((attend engine deleting component).run w).1 with
          | .ok _ => none
          | .error fault => some fault := rfl
      rw [hfault]
      rcases ((attend engine deleting component).run w).1 with fault | _ <;> rfl

variable {engine deleting} {β : Type} (read : World σ ω → List β)
  {adds : Turn σ ω → List β}

/-- What grows with each turn has grown by all of them in the end. -/
theorem processEach_adds {components : List (Component ω)} {w : World σ ω}
    (h : ∀ turn ∈ turns engine deleting components w,
      read (turn.run engine deleting).2 = read turn.world ++ adds turn) :
    read ((processEach engine deleting components).run w).2 =
      read w ++ (turns engine deleting components w).flatMap adds := by
  induction components generalizing w with
  | nil => exact (List.append_nil _).symm
  | cons component rest ih =>
      obtain ⟨hone, hrest⟩ := List.forall_mem_cons.1 h
      have hmore := ih hrest
      have hturn : read ((attend engine deleting component).run w).2 =
          read w ++ adds ⟨component, w⟩ := hone
      rw [run_processEach_cons, hmore, turns, List.flatMap_cons, hturn,
        List.append_assoc]

/-- Likewise, where a turn comes, it has grown by the turns before. -/
theorem read_of_turn {components : List (Component ω)} {w : World σ ω}
    (h : ∀ turn ∈ turns engine deleting components w,
      read (turn.run engine deleting).2 = read turn.world ++ adds turn)
    {before after : List (Turn σ ω)} {turn : Turn σ ω}
    (hsplit : turns engine deleting components w = before ++ turn :: after) :
    read turn.world = read w ++ before.flatMap adds := by
  induction components generalizing w before with
  | nil =>
      rw [turns] at hsplit
      exact absurd hsplit.symm (by simp)
  | cons component rest ih =>
      obtain ⟨hone, hrest⟩ := List.forall_mem_cons.1 h
      rw [turns] at hsplit
      cases before with
      | nil =>
          obtain ⟨rfl, -⟩ := List.cons.inj hsplit
          exact (List.append_nil _).symm
      | cons first others =>
          obtain ⟨rfl, hothers⟩ := List.cons.inj hsplit
          have hturn : read ((attend engine deleting component).run w).2 =
              read w ++ adds ⟨component, w⟩ := hone
          rw [ih hrest hothers, hturn, List.flatMap_cons, List.append_assoc]

end Turns

/-! ## How a pass gets as far as the components -/

/-- Before the first component has its turn, the spec is found to be valid, there is
a fresh status, the defaults are filled in, the deletion mark is read, and the
components are made. -/
def Prepares (handle : Handle ω) (desk : Desk ω) (deleting : Bool)
    (components : List (Component ω)) (desk' : Desk ω) : Prop :=
  ∃ desk₁ status desk₂ desk₃,
    handle.validate.run desk = (.ok (), desk₁) ∧
    handle.newStatus.run desk₁ = (.ok status, desk₂) ∧
    handle.applyDefaults.run { desk₂ with status } = (.ok (), desk₃) ∧
    Body.isDeletionOngoing desk₃.resource = .ok deleting ∧
    handle.components.run desk₃ = (.ok components, desk')

def begun (engine : Engine σ) (w : World σ ω) (desk : Desk ω) : World σ ω :=
  ⟨w.store, desk, [], w.log ++ [⟨some engine.source, .validating⟩] ++
    [⟨some engine.source, .defaulting⟩]⟩

theorem run_verdict_of_prepares (engine : Engine σ) {handle : Handle ω} {w : World σ ω}
    {deleting : Bool} {components : List (Component ω)} {desk : Desk ω}
    (h : Prepares handle w.desk deleting components desk) :
    let w₁ := begun engine w desk
    (verdict engine handle).run w =
      (Fault.aggregate? ((turns engine deleting components w₁).filterMap
        (Turn.fault? engine deleting)),
      ((processEach engine deleting components).run w₁).2) := by
  intro w₁
  obtain ⟨desk₁, status, desk₂, desk₃, hvalidate, hstatus, hdefaults, hdeletion, hmade⟩ :=
    h
  have hprocess : (processEach engine deleting components).run w₁ =
      (.ok ((turns engine deleting components w₁).filterMap
        (Turn.fault? engine deleting)), _) :=
    Prod.ext (answer_processEach engine deleting components w₁) rfl
  simp only [verdict, verdictAfter, processComponents, Attempt.run_bind, Step.run_report,
    Attempt.run_outcome, Step.run_call, hvalidate, Attempt.run_pure, hstatus,
    Attempt.run_modify, hdefaults, Step.run_aggregate, Attempt.run_read,
    Attempt.run_liftM, hdeletion, hmade]
  rw [show (⟨w.store, desk, [], _⟩ : World σ ω) = w₁ from rfl, hprocess]

/-- Otherwise there is nothing that a store could notice. -/
theorem store_of_not_prepares (engine : Engine σ) {handle : Handle ω} {w : World σ ω}
    (h : ∀ deleting components desk, ¬ Prepares handle w.desk deleting components desk) :
    ((verdict engine handle).run w).2.store = w.store := by
  simp only [verdict, verdictAfter, processComponents, Attempt.run_bind, Step.run_report,
    Attempt.run_outcome, Step.run_call]
  rcases hvalidate : handle.validate.run w.desk with ⟨fault | _, desk₁⟩
  · simp only [Attempt.run_bind, Attempt.run_liftM]
    cases invalidity fault with
    | error e => rfl
    | ok invalid =>
        simp only [Attempt.run_pure, Step.run_call]
        rcases handle.newStatus.run desk₁ with ⟨e | status, desk₂⟩
        · rfl
        · simp only [Attempt.run_modify, Attempt.run_bind, Attempt.run_liftM]
          cases invalid.message <;> rfl
  · simp only [Attempt.run_pure, Attempt.run_bind, Step.run_call]
    rcases hstatus : handle.newStatus.run desk₁ with ⟨e | status, desk₂⟩
    · rfl
    · simp only [Attempt.run_modify, Step.run_report]
      rcases hdefaults : handle.applyDefaults.run { desk₂ with status }
        with ⟨e | _, desk₃⟩
      · rfl
      · simp only [Step.run_aggregate, Attempt.run_read, Attempt.run_liftM]
        cases hdeletion : Body.isDeletionOngoing desk₃.resource with
        | error e => rfl
        | ok deleting =>
            simp only []
            rcases hmade : handle.components.run desk₃ with ⟨e | components, desk'⟩
            · rfl
            · exact absurd ⟨desk₁, status, desk₂, desk₃, hvalidate, hstatus, hdefaults,
                hdeletion, hmade⟩ (h deleting components desk')

/-- A handle with two components that expect a pod each. -/
def podHandle : Handle Unit :=
  { sampleHandle (pure ()) (pure ()) with
    components := pure [expecting [.managed (pod "p")], expecting [.managed (pod "q")]] }

end Engine

end OperatorCore
