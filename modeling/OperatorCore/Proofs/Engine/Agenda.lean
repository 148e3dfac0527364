import OperatorCore.Engine.Reconciliation
import OperatorCore.Proofs.Fault.Steady
import OperatorCore.Proofs.Object.Identified
import OperatorCore.Proofs.Store.Recorded

/-!
# The agenda of a component

Once the objects of a component are known, what remains is a list of tasks, one
for each expected object and one for each observed object, in this order. A
task says which write is due, and the component may be asked for it. The list
depends on the two bags and on nothing that happens while it is worked off.

`carryOut` works off a list of tasks on the desk and the store alone, without
the log and the bag of all components, which no decision depends on. It comes
to a stop in two cases: the component is asked for a decision and fails, or a
write fails with a fault that has no message, so that no fault can be made of
it. The two loops of the engine are shown to do the same, by induction on the
bag that they go through.
-/

namespace OperatorCore

variable {σ ω : Type}

/-- What is to be done about one object. -/
structure Task (ω : Type) where
  identity : Identity
  /-- The write that is due, if any. -/
  due : Hook ω (Option Write)
  /-- What is wrong with the object whatever is written. -/
  amiss : List Fault
  /-- What is live of the object after a write that has failed or not. -/
  live : (failed : Bool) → List Value

/-- A task that was done, with the write that was made for it, if any. -/
structure Settled (ω : Type) where
  task : Task ω
  attempted : Option Attempted

namespace Settled

/-- The fault that is made of a write that has failed. It tells the message of
the store's fault, which need not have one. -/
def failure (settled : Settled ω) : Except Fault (Option Fault) :=
  match settled.attempted.bind fun a => a.fault.map fun fault => (a.write, fault) with
  | none => .ok none
  | some (write, fault) => do
    pure (some (← Fault.mutation (.str write.operation.text) settled.task.identity
      fault))

/-- The write has failed. -/
def failed (settled : Settled ω) : Bool :=
  (settled.attempted.bind Attempted.fault).isSome

/-- What is wrong with the object now. -/
def faults (settled : Settled ω) : List Fault :=
  settled.task.amiss ++ (settled.failure.toOption.bind id).toList

/-- What is live of the object now. -/
def live (settled : Settled ω) : List Value := settled.task.live settled.failed

theorem failed_of_failure {settled : Settled ω} {f : Option Fault}
    (h : settled.failure = .ok f) : settled.failed = f.isSome := by
  obtain ⟨task, _ | ⟨write, _ | fault⟩⟩ := settled
  · cases h
    rfl
  · cases h
    rfl
  · simp only [failure, Option.bind_some, Option.map_some, Fault.mutation] at h
    cases hm : fault.message with
    | error e =>
        rw [hm] at h
        cases h
    | ok text =>
        rw [hm] at h
        cases h
        rfl

theorem faults_of_failure {settled : Settled ω} {f : Option Fault}
    (h : settled.failure = .ok f) :
    settled.faults = settled.task.amiss ++ f.toList := by
  rw [faults, h]
  rfl

theorem live_of_failure {settled : Settled ω} {f : Option Fault}
    (h : settled.failure = .ok f) : settled.live = settled.task.live f.isSome := by
  rw [live, failed_of_failure h]

end Settled

/-- Does a task once it is known what is due. -/
def Task.settle (task : Task ω) (store : ObjectStore σ) (due : Option Write)
    (s : σ) : Settled ω × σ :=
  match due with
  | none => (⟨task, none⟩, s)
  | some write =>
    (⟨task, some ⟨write, (store.attempt write s).1⟩⟩, (store.attempt write s).2)

/-- How far a list of tasks was worked off, and why no further. -/
structure Progress (σ ω : Type) where
  done : List (Settled ω)
  stop : Option Fault
  desk : Desk ω
  store : σ

namespace Progress

/-- The same with a task done before. -/
def after (p : Progress σ ω) (settled : Settled ω) : Progress σ ω :=
  { p with done := settled :: p.done }

/-- Goes on with other tasks, unless there was a stop. -/
def andThen (p : Progress σ ω) (next : Desk ω → σ → Progress σ ω) :
    Progress σ ω :=
  match p.stop with
  | some _ => p
  | none =>
    let q := next p.desk p.store
    { q with done := p.done ++ q.done }

theorem after_andThen (p : Progress σ ω) (settled : Settled ω)
    (next : Desk ω → σ → Progress σ ω) :
    (p.after settled).andThen next = (p.andThen next).after settled := by
  obtain ⟨done, stop, desk, s⟩ := p
  cases stop <;> rfl

/-- The answer, or the fault that was stopped with. -/
def result {β : Type} (p : Progress σ ω) (b : β) : Except Fault β :=
  match p.stop with
  | some fault => .error fault
  | none => .ok b

/-- The writes that were made. -/
def attempts (p : Progress σ ω) : List Attempted :=
  p.done.filterMap Settled.attempted

def faults (p : Progress σ ω) : List Fault := p.done.flatMap Settled.faults

def live (p : Progress σ ω) : List Value := p.done.flatMap Settled.live

end Progress

/-- Goes on after a task, if a fault could be made of whatever has failed. -/
def Settled.proceed (settled : Settled ω) (desk : Desk ω) (s : σ)
    (p : Progress σ ω) : Progress σ ω :=
  match settled.failure with
  | .error fault => ⟨[settled], some fault, desk, s⟩
  | .ok _ => p.after settled

/-- Works off a list of tasks. -/
def carryOut (store : ObjectStore σ) :
    List (Task ω) → Desk ω → σ → Progress σ ω
  | [], desk, s => ⟨[], none, desk, s⟩
  | task :: rest, desk, s =>
    match task.due.run desk with
    | (.error fault, desk') => ⟨[], some fault, desk', s⟩
    | (.ok due, desk') =>
      let (settled, s') := task.settle store due s
      settled.proceed desk' s' (carryOut store rest desk' s')

theorem carryOut_append (store : ObjectStore σ) (first second : List (Task ω))
    (desk : Desk ω) (s : σ) :
    carryOut store (first ++ second) desk s =
      (carryOut store first desk s).andThen (carryOut store second) := by
  induction first generalizing desk s with
  | nil => rfl
  | cons task rest ih =>
      simp only [List.cons_append, carryOut]
      rcases task.due.run desk with ⟨fault | due, desk'⟩
      · rfl
      · simp only [Settled.proceed]
        split
        · rfl
        · rw [ih, Progress.after_andThen]

/-- The tasks that are done are the first ones, and if there is no stop they
are all done. -/
theorem carryOut_done (store : ObjectStore σ) (tasks : List (Task ω))
    (desk : Desk ω) (s : σ) :
    let p := carryOut store tasks desk s
    p.done.map Settled.task <+: tasks ∧
      (p.stop = none → p.done.map Settled.task = tasks) := by
  induction tasks generalizing desk s with
  | nil => exact ⟨List.prefix_rfl, fun _ => rfl⟩
  | cons task rest ih =>
      have htask : ∀ due, (task.settle store due s).1.task = task := by
        intro due
        cases due <;> rfl
      simp only [carryOut]
      split
      · next fault desk' h =>
          refine ⟨List.nil_prefix, ?_⟩
          intro hstop
          cases hstop
      · next due desk' h =>
          simp only [Settled.proceed]
          split
          · next fault hf =>
              refine ⟨?_, ?_⟩
              · rw [List.map_cons, List.map_nil, htask]
                exact ⟨rest, rfl⟩
              · intro hstop
                cases hstop
          · next hf =>
              obtain ⟨hpre, hall⟩ := ih desk' (task.settle store due s).2
              simp only [Progress.after, List.map_cons, htask]
              refine ⟨(List.prefix_cons_inj task).2 hpre, ?_⟩
              intro hstop
              rw [hall hstop]

/-- What it takes to find out what is due leaves its marks on the desk, and nothing else
does. -/
theorem carryOut_keeps_desk {D : Desk ω → Desk ω → Prop} (hD : Steady D)
    (store : ObjectStore σ) {tasks : List (Task ω)}
    (h : ∀ task ∈ tasks, Attempt.Keeps D task.due) (desk : Desk ω) (s : σ) :
    D desk (carryOut store tasks desk s).desk := by
  induction tasks generalizing desk s with
  | nil => exact hD.refl desk
  | cons task rest ih =>
      obtain ⟨hdue, hrest⟩ := List.forall_mem_cons.1 h
      have hkept := hdue desk
      rw [carryOut]
      split
      · next fault desk' hrun =>
          rw [hrun] at hkept
          exact hkept
      · next due desk' hrun =>
          rw [hrun] at hkept
          simp only [Settled.proceed]
          split
          · exact hkept
          · exact hD.trans hkept (ih hrest desk' _)

namespace Engine

/-- What the component has to say on an update of an expected object: whether
it differs from its counterpart in a way that counts. -/
def judge (component : Component ω) (settings : Settings) (item : Tagged)
    (observed : Value) : Hook ω Bool :=
  if item.isManaged then do
    let fields := settings.comparison.payloadFields
    let a ← component.comparable item.object fields
    let b ← component.comparable observed fields
    if (diff settings.comparison.scope a b).isEmpty then pure false
    else component.differs item.object observed
  else pure false

/-- The task of an expected object that has a counterpart: to update it with
the version of the counterpart, if the component sees a need. -/
def revision (component : Component ω) (settings : Settings) (item counterpart : Tagged) :
    Task ω where
  identity := item.key
  due := do
    let item' := item.versioned (Body.version counterpart.object)
    if ← judge component settings item' counterpart.object then
      pure (some (.update item'.object))
    else pure none
  amiss := []
  live := fun _ => [counterpart.object]

/-- The task of an expected object without a counterpart. -/
def addition (component : Component ω) (item : Tagged) : Task ω where
  identity := item.key
  due := pure (if item.isManaged then some (.create item.object) else none)
  amiss := if item.isManaged then [] else [.of (.missing item.key component.name)]
  live := fun failed => if item.isManaged && !failed then [item.object] else []

/-- The task of an expected object that has its owners already. -/
def expectedTask (component : Component ω) (settings : Settings) (observed : Bag)
    (item : Tagged) : Task ω :=
  match observed.counterpart item.key with
  | some counterpart => revision component settings item counterpart
  | none => addition component item

/-- The task of an observed object. -/
def observedTask (expected : Bag) (item : Tagged) : Task ω where
  identity := item.key
  due := pure (if (expected.counterpart item.key).isSome then none
    else some (.delete item.object))
  amiss := []
  live := fun _ => []

theorem run_due_revision (component : Component ω) (settings : Settings)
    (item counterpart : Tagged) (desk : Desk ω) :
    (revision component settings item counterpart).due.run desk =
      match (judge component settings
          ⟨Body.versioned (Body.version counterpart.object) item.object, item.lifecycle⟩
          counterpart.object).run desk with
      | (.ok true, desk') =>
        (.ok (some (.update (Body.versioned (Body.version counterpart.object)
          item.object))), desk')
      | (.ok false, desk') => (.ok none, desk')
      | (.error fault, desk') => (.error fault, desk') := by
  simp only [revision, Tagged.versioned, Attempt.run_bind]
  rcases (judge component settings _ counterpart.object).run desk
    with ⟨fault | _ | _, desk'⟩ <;> rfl

/-- The tasks of a component. -/
def agenda (component : Component ω) (settings : Settings)
    (expected observed : Bag) : List (Task ω) :=
  (expected.map fun item =>
      expectedTask component settings observed (item.owned component.owners))
    ++ observed.map (observedTask expected)

/-- To find out what is due, the component is asked for comparable parts and for its
vote. So what holds of these callbacks, and is handed on by composition, holds of that. -/
theorem due_of_agenda {Q : ∀ {β : Type}, Hook ω β → Prop} {component : Component ω}
    (hpure : ∀ {β : Type} (b : β), Q (pure b))
    (hbind : ∀ {β γ : Type} {x : Hook ω β} {f : β → Hook ω γ},
      Q x → (∀ b, Q (f b)) → Q (x >>= f))
    (hcomparable : ∀ body fields, Q (component.comparable body fields))
    (hdiffers : ∀ a b, Q (component.differs a b)) (settings : Settings)
    (expected observed : Bag) :
    ∀ task ∈ agenda component settings expected observed, Q task.due := by
  intro task htask
  rcases List.mem_append.1 htask with he | ho
  · obtain ⟨item, -, rfl⟩ := List.mem_map.1 he
    rw [expectedTask]
    split
    · refine hbind ?_ ?_
      · unfold judge
        split
        · refine hbind (hcomparable _ _) fun _ => hbind (hcomparable _ _) fun _ => ?_
          split
          · exact hpure _
          · exact hdiffers _ _
        · exact hpure _
      · intro worth
        split <;> exact hpure _
    · exact hpure _
  · obtain ⟨item, -, rfl⟩ := List.mem_map.1 ho
    exact hpure _

end Engine

end OperatorCore
