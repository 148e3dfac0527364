import OperatorCore.Proofs.Engine.Agenda

/-!
# The loops of the engine carry out the agenda

Each of the two loops is simulated by `carryOut`: it ends with the same desk
and the same store, raises what `carryOut` has stopped with, and adds to the
tally what the tasks that were done have come to. The induction is on the bag
that is left, for every tally and every world; its step is one task, and the
world between two tasks is known only up to its log and its bag of all
components.
-/

namespace OperatorCore

variable {σ ω α : Type}

namespace Tally

/-- The tally with what a task has come to. -/
def add (t : Tally) (settled : Settled ω) : Tally :=
  ⟨t.faults ++ settled.faults, t.reconciled ++ settled.live⟩

/-- The tally with what many tasks have come to. -/
def plus (t : Tally) (p : Progress σ ω) : Tally :=
  ⟨t.faults ++ p.faults, t.reconciled ++ p.live⟩

theorem add_plus (t : Tally) (settled : Settled ω) (p : Progress σ ω) :
    (t.add settled).plus p = t.plus (p.after settled) := by
  simp only [plus, add, Progress.faults, Progress.live, Progress.after,
    List.flatMap_cons, List.append_assoc]

theorem add_of_failure (t : Tally) {settled : Settled ω} {f : Option Fault}
    (h : settled.failure = .ok f) :
    t.add settled = ⟨t.faults ++ (settled.task.amiss ++ f.toList),
      t.reconciled ++ settled.task.live f.isSome⟩ := by
  rw [add, Settled.faults_of_failure h, Settled.live_of_failure h]

end Tally

/-- How a step ends, up to the log and the bag of all components. -/
def Step.Ends (x : Step σ ω α) (w : World σ ω) (r : Except Fault α)
    (desk : Desk ω) (s : σ) : Prop :=
  ∃ aggregated log, x.run w = (r, ⟨s, desk, aggregated, log⟩)

/-- An expected object with the version of its counterpart, if it has one. -/
def Tagged.adopting (observed : Bag) (item : Tagged) : Tagged :=
  match observed.counterpart item.key with
  | some counterpart => item.versioned (Body.version counterpart.object)
  | none => item

namespace Engine

/-- To write is to settle a task once it is known what is due: the answer is
what is made of the fault, and nothing else is done to the desk and the store
than the store does by itself. -/
theorem run_write (engine : Engine σ) (task : Task ω) {due : Write}
    {operation : σ → Reply σ α} (w : World σ ω)
    (hdue : engine.store.attempt due w.store =
      ((operation w.store).fault?, (operation w.store).state)) :
    (write engine due.operation task.identity operation).Ends w
      (task.settle engine.store (some due) w.store).1.failure w.desk
      (task.settle engine.store (some due) w.store).2 := by
  simp only [Step.Ends, write, Task.settle, Settled.failure, hdue, Reply.fault?,
    Attempt.run_bind, Attempt.run_outcome, Step.run_request, Option.bind_some]
  cases (operation w.store).outcome with
  | ok a =>
      simp only [Attempt.run_bind, Step.run_report, Attempt.run_pure, Option.map_none]
      exact ⟨_, _, rfl⟩
  | error fault =>
      simp only [Attempt.run_bind, Attempt.run_liftM, Fault.mutation, Option.map_some]
      cases hm : fault.message with
      | error e => exact ⟨_, _, rfl⟩
      | ok text =>
          simp only [bind, Except.bind, pure, Except.pure]
          exact ⟨_, _, rfl⟩

/-- A loop that writes and goes on does what there is to do about one task
more than what it goes on with. -/
theorem ends_write {β : Type} (engine : Engine σ) (task : Task ω) (due : Write)
    {operation : σ → Reply σ α} {next : Option Fault → Step σ ω β}
    (answer : Progress σ ω → β) (w : World σ ω) {p : Progress σ ω}
    (hdue : engine.store.attempt due w.store =
      ((operation w.store).fault?, (operation w.store).state))
    (hnext : ∀ f aggregated log,
      (task.settle engine.store (some due) w.store).1.failure = .ok f →
      (next f).Ends
        ⟨(task.settle engine.store (some due) w.store).2, w.desk, aggregated, log⟩
        (p.result (answer (p.after (task.settle engine.store (some due) w.store).1)))
        p.desk p.store) :
    let q := (task.settle engine.store (some due) w.store).1.proceed w.desk
      (task.settle engine.store (some due) w.store).2 p
    (write engine due.operation task.identity operation >>= next).Ends w
      (q.result (answer q)) q.desk q.store := by
  obtain ⟨aggregated, log, hwrite⟩ := run_write engine task w hdue
  simp only [Step.Ends, Attempt.run_bind, hwrite, Settled.proceed]
  cases hf : (task.settle engine.store (some due) w.store).1.failure with
  | error e => exact ⟨_, _, rfl⟩
  | ok f => exact hnext f aggregated log hf

/-- The decision on an update is the one of `judge`. -/
theorem run_diverges (engine : Engine σ) (component : Component ω) (item : Tagged)
    (hitem : Body.Identified item.object) (observed : Value) (w : World σ ω) :
    (diverges engine component item observed).Ends w
      ((judge component engine.settings item observed).run w.desk).1
      ((judge component engine.settings item observed).run w.desk).2 w.store := by
  unfold Step.Ends diverges judge
  cases hmanaged : item.isManaged with
  | false => exact ⟨_, _, rfl⟩
  | true =>
      simp only [Bool.not_true, Bool.false_eq_true, if_false, if_true, payloadDiffers,
        Attempt.run_bind, Step.run_call]
      rcases (component.comparable item.object
        engine.settings.comparison.payloadFields).run w.desk with ⟨e | a, desk⟩
      · exact ⟨_, _, rfl⟩
      · simp only []
        rcases (component.comparable observed
          engine.settings.comparison.payloadFields).run desk with ⟨e | b, desk'⟩
        · exact ⟨_, _, rfl⟩
        · simp only []
          cases hd : diff engine.settings.comparison.scope a b with
          | nil => exact ⟨_, _, rfl⟩
          | cons difference others =>
              simp only [hitem.identify, Attempt.run_bind, Attempt.run_liftM,
                Step.run_report, Attempt.run_pure, if_true, Step.run_call]
              exact ⟨_, _, rfl⟩

/-! One turn of the first loop, where the objects can be identified: it goes on with the
object as it has become, whatever comes of it. -/

section Turn

variable (engine : Engine σ) (component : Component ω) {observed : Bag}
  (hobserved : observed.Identified) (before done rest : Bag) {item : Tagged}
  (hitem : Body.Identified item.object) (tally : Tally)

include hobserved hitem

theorem writeExpected_present {c : Tagged} (hc : observed.counterpart item.key = some c) :
    writeExpected engine component observed before done (item :: rest) tally = (do
      Step.aggregate (before ++ done ++ item.adopting observed :: rest)
      let next := writeExpected engine component observed before
        (done ++ [item.adopting observed]) rest
      if ← diverges engine component (item.adopting observed) c.object then
        let failure ← write engine .update item.key
          (engine.store.update (item.adopting observed).object)
        next ((failure.elim tally tally.failed).live c.object)
      else
        Step.report engine.source (.unchanged item.key)
        next (tally.live c.object)) := by
  have hid : item.identity = .ok item.key := hitem.identify
  have hm : Body.Identified c.object := hobserved c (List.mem_of_find?_eq_some hc)
  have hadopt : item.adopting observed =
      ⟨Body.versioned (Body.version c.object) item.object, item.lifecycle⟩ := by
    rw [Tagged.adopting, hc]
    rfl
  have hfind : (Bag.find? item.key observed : Except Fault _) = .ok (some c) :=
    (hobserved.find? item.key).trans (congrArg Except.ok hc)
  simp only [writeExpected, hid, hfind, hm.resourceVersion, hitem.setResourceVersion,
    Attempt.liftM_ok_bind, hadopt]
  refine congrArg (Step.aggregate _ >>= ·) (funext fun _ => ?_)
  refine congrArg (diverges engine component _ c.object >>= ·) (funext fun differs => ?_)
  cases differs with
  | false => rfl
  | true =>
      refine congrArg (write engine .update item.key _ >>= ·) (funext fun failure => ?_)
      cases failure <;> rfl

theorem writeExpected_absent (hc : observed.counterpart item.key = none) :
    writeExpected engine component observed before done (item :: rest) tally = (do
      let next := writeExpected engine component observed before
        (done ++ [item.adopting observed]) rest
      if item.isManaged then
        let failure ← write engine .create item.key (engine.store.create item.object)
        next (failure.elim (tally.live item.object) tally.failed)
      else
        let fault : Fault := .of (.missing item.key component.name)
        let text ← (fault.message : Except Fault _)
        Step.report engine.source (.missing text)
        next (tally.failed fault)) := by
  have hid : item.identity = .ok item.key := hitem.identify
  have hfind : (Bag.find? item.key observed : Except Fault _) = .ok none :=
    (hobserved.find? item.key).trans (congrArg Except.ok hc)
  have hadopt : item.adopting observed = item := by
    rw [Tagged.adopting, hc]
  simp only [writeExpected, hid, hfind, Attempt.liftM_ok_bind, hadopt]
  cases item.isManaged with
  | false => rfl
  | true =>
      refine congrArg (write engine .create item.key _ >>= ·) (funext fun failure => ?_)
      cases failure <;> rfl

end Turn

theorem run_writeExpected (engine : Engine σ) (component : Component ω)
    {observed : Bag} (hobserved : observed.Identified) (before : Bag) {todo : Bag}
    (htodo : todo.Identified) (done : Bag) (tally : Tally) (w : World σ ω) :
    let p := carryOut engine.store
      (todo.map (expectedTask component engine.settings observed)) w.desk w.store
    (writeExpected engine component observed before done todo tally).Ends w
      (p.result (done ++ todo.map (Tagged.adopting observed), tally.plus p))
      p.desk p.store := by
  induction todo generalizing done tally w with
  | nil =>
      refine ⟨w.aggregated, w.log, ?_⟩
      simp only [writeExpected, Attempt.run_pure, carryOut, List.map_nil,
        List.append_nil, Tally.plus, Progress.faults, Progress.live, Progress.result,
        List.flatMap_nil]
  | cons item rest ih =>
      -- what is still to be processed, once the tally has the present task
      have hrest : ∀ (settled : Settled ω) (tally' : Tally) (w' : World σ ω),
          tally' = tally.add settled →
          let p := carryOut engine.store
            (rest.map (expectedTask component engine.settings observed)) w'.desk w'.store
          (writeExpected engine component observed before
              (done ++ [item.adopting observed]) rest tally').Ends w'
            (p.result (done ++ item.adopting observed ::
                rest.map (Tagged.adopting observed), tally.plus (p.after settled)))
            p.desk p.store := by
        intro settled tally' w' ht
        have h := ih htodo.tail (done ++ [item.adopting observed]) tally' w'
        rw [ht, List.append_assoc] at h
        simp only [Tally.add_plus] at h
        rw [ht]
        exact h
      cases hc : observed.counterpart item.key with
      | some m =>
          have htask : expectedTask component engine.settings observed item =
              revision component engine.settings item m := by
            rw [expectedTask, hc]
          have hadopt : item.adopting observed =
              ⟨Body.versioned (Body.version m.object) item.object, item.lifecycle⟩ := by
            rw [Tagged.adopting, hc]
            rfl
          obtain ⟨aggregated₁, log₁, hrun⟩ := run_diverges engine component
            (item.adopting observed) (by rw [hadopt]; exact htodo.head.versioned _) m.object
            { w with aggregated := before ++ done ++ item.adopting observed :: rest }
          have hdue := run_due_revision component engine.settings item m w.desk
          rw [← hadopt] at hdue
          rw [writeExpected_present engine component hobserved before done rest htodo.head
            tally hc]
          simp only [Step.Ends, Attempt.run_bind, Step.run_aggregate, hrun, List.map_cons,
            carryOut, htask, hdue]
          rcases (judge component engine.settings (item.adopting observed)
            m.object).run w.desk with ⟨fault | _ | _, desk⟩
          · exact ⟨_, _, rfl⟩
          · simp only [Bool.false_eq_true, if_false, Attempt.run_bind, Step.run_report]
            refine hrest ⟨revision component engine.settings item m, none⟩ _ _ ?_
            rw [tally.add_of_failure (f := none) rfl]
            simp [Tally.live, revision]
          · have hobject : Body.versioned (Body.version m.object) item.object =
                (item.adopting observed).object := by rw [hadopt]
            simp only [if_true, hobject]
            refine ends_write engine (revision component engine.settings item m)
              (.update (item.adopting observed).object) (fun p => (_, tally.plus p))
              ⟨w.store, desk, aggregated₁, log₁⟩ rfl ?_
            intro f aggregated log hf
            refine hrest _ _ _ ?_
            rw [tally.add_of_failure hf]
            cases f <;> simp [Tally.live, Tally.failed, revision, Task.settle]
      | none =>
          have htask : expectedTask component engine.settings observed item =
              addition component item := by
            rw [expectedTask, hc]
          have hdue : (addition component item).due.run w.desk =
              (.ok (if item.isManaged then some (.create item.object) else none),
                w.desk) := rfl
          rw [writeExpected_absent engine component hobserved before done rest htodo.head
            tally hc]
          simp only [Step.Ends, List.map_cons, carryOut, htask, hdue]
          cases hmanaged : item.isManaged with
          | true =>
              simp only [if_true]
              refine ends_write engine (addition component item) (.create item.object)
                (fun p => (_, tally.plus p)) w rfl ?_
              intro f aggregated log hf
              refine hrest _ _ _ ?_
              rw [tally.add_of_failure hf]
              cases f <;>
                simp [Tally.live, Tally.failed, addition, Task.settle, hmanaged]
          | false =>
              refine hrest ⟨addition component item, none⟩ _ ⟨_, _, _, _⟩ ?_
              rw [tally.add_of_failure (f := none) rfl]
              simp [Tally.failed, addition, hmanaged, Fault.of]

theorem run_deleteUnexpected (engine : Engine σ) {expected : Bag}
    (hexpected : expected.Identified) {observed : Bag} (hobserved : observed.Identified)
    (tally : Tally) (w : World σ ω) :
    let p := carryOut engine.store (observed.map (observedTask expected)) w.desk w.store
    (deleteUnexpected engine expected observed tally).Ends w
      (p.result (tally.plus p)) p.desk p.store := by
  induction observed generalizing tally w with
  | nil =>
      refine ⟨w.aggregated, w.log, ?_⟩
      simp only [deleteUnexpected, Attempt.run_pure, carryOut, List.map_nil,
        List.append_nil, Tally.plus, Progress.faults, Progress.live, Progress.result,
        List.flatMap_nil]
  | cons item rest ih =>
      have hid : item.identity = .ok item.key := hobserved.head.identify
      have hrest : ∀ (settled : Settled ω) (tally' : Tally) (w' : World σ ω),
          tally' = tally.add settled →
          let p := carryOut engine.store (rest.map (observedTask expected)) w'.desk
            w'.store
          (deleteUnexpected engine expected rest tally').Ends w'
            (p.result (tally.plus (p.after settled))) p.desk p.store := by
        intro settled tally' w' ht
        have h := ih hobserved.tail tally' w'
        rw [ht] at h
        simp only [Tally.add_plus] at h
        rw [ht]
        exact h
      have hdue : (observedTask expected item).due.run w.desk =
          (.ok (if (expected.counterpart item.key).isSome then none
            else some (.delete item.object)), w.desk) := rfl
      simp only [deleteUnexpected, Step.Ends, Attempt.run_bind, hid, Attempt.run_liftM,
        hexpected.find?, List.map_cons, carryOut, hdue]
      cases hc : expected.counterpart item.key with
      | some m =>
          refine hrest ⟨observedTask expected item, none⟩ _ _ ?_
          rw [tally.add_of_failure (f := none) rfl]
          simp [observedTask]
      | none =>
          refine ends_write engine (observedTask expected item)
            (.delete item.object) tally.plus w rfl ?_
          intro f aggregated log hf
          cases f with
          | none =>
              refine hrest _ _ _ ?_
              rw [tally.add_of_failure hf]
              simp [observedTask, Task.settle]
          | some failure =>
              refine hrest _ _ _ ?_
              rw [tally.add_of_failure hf]
              simp [Tally.failed, observedTask, Task.settle]

/-! Before the loops, the owners are stamped and the observed objects reported.
Both need the identities, and of the world they change what does not matter. -/

theorem run_stamp (engine : Engine σ) (owners : List Value) (before : Bag)
    {todo : Bag} (htodo : todo.Identified) (done : Bag) (w : World σ ω) :
    (stamp engine owners before done todo).Ends w
      (.ok (done ++ todo.map (Tagged.owned owners))) w.desk w.store := by
  induction todo generalizing done w with
  | nil =>
      refine ⟨w.aggregated, w.log, ?_⟩
      simp only [stamp, Attempt.run_pure, List.map_nil, List.append_nil]
  | cons item rest ih =>
      have hid := (htodo.head.owned owners).identify
      simp only [stamp, Step.Ends, Attempt.run_bind, Attempt.run_liftM,
        htodo.head.setOwnerReferences, Step.run_aggregate, Tagged.identity, hid,
        Step.run_report]
      have h := ih htodo.tail (done ++ [item.owned owners])
      simp only [List.append_assoc] at h
      exact h _

theorem run_reportObserved (engine : Engine σ) {observed : Bag}
    (hobserved : observed.Identified) (w : World σ ω) :
    (reportObserved engine observed).Ends w (.ok ()) w.desk w.store := by
  induction observed generalizing w with
  | nil => exact ⟨_, _, rfl⟩
  | cons item rest ih =>
      have hid : item.identity = .ok item.key := hobserved.head.identify
      simp only [reportObserved, Step.Ends, Attempt.run_bind, Attempt.run_liftM, hid,
        Step.run_report]
      exact ih hobserved.tail _

end Engine

end OperatorCore
