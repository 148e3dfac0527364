import OperatorCore.Proofs.Engine.Plan

/-!
# What a failure does to the other objects

A failed write is collected, and the loops go on. So if the component answers
whenever it is asked and every fault of a write has a message, all objects are
processed, and if the component also takes note of the outcome, each failed
write shows in the fault that is raised.

Nothing else is guarded. A callback that fails ends the loops, and what was
collected before is lost: the fault of the callback is raised alone, and the
objects after it are left as they are. The same goes for a failure in taking
note of the outcome, except that all objects are processed by then.

All of this is read off `carryOut`: the induction below gives the reason for
each stop, the conclusion of the run says what is raised.
-/

namespace OperatorCore

variable {σ ω : Type}

namespace Settled

/-- The task was done: the component was asked what is due, and that was made
whatever had become of the other tasks. -/
def Done (store : ObjectStore σ) (settled : Settled ω) : Prop :=
  ∃ desk desk' due s, settled.task.due.run desk = (.ok due, desk') ∧
    settled = (settled.task.settle store due s).1

/-- The write of the task has failed, and this is the fault made of it. -/
def FailedWith (settled : Settled ω) (failure : Fault) : Prop :=
  ∃ write cause, settled.attempted = some ⟨write, some cause⟩ ∧
    Fault.mutation (.str write.operation.text) settled.task.identity cause =
      .ok failure

/-- The failure of a write is among what is wrong with its object. -/
theorem FailedWith.mem_faults {settled : Settled ω} {failure : Fault}
    (h : settled.FailedWith failure) : failure ∈ settled.faults := by
  obtain ⟨write, cause, hattempted, hfailure⟩ := h
  have hf : settled.failure = .ok (some failure) := by
    rw [Settled.failure, hattempted]
    simp only [Option.bind_some, Option.map_some, hfailure, bind, Except.bind, pure,
      Except.pure]
  rw [faults_of_failure hf]
  exact List.mem_append_right _ (List.mem_singleton.2 rfl)

/-- A fault was made of the failure of a write. -/
theorem failedWith_of_failure {settled : Settled ω} {f : Option Fault}
    (hfailure : settled.failure = .ok f)
    (hfailed : (settled.attempted.bind Attempted.fault).isSome) :
    ∃ failure, settled.FailedWith failure := by
  obtain ⟨task, _ | ⟨write, _ | cause⟩⟩ := settled
  · cases hfailed
  · cases hfailed
  · simp only [failure, Option.bind_some, Option.map_some] at hfailure
    cases hm : Fault.mutation (.str write.operation.text) task.identity cause with
    | error e =>
        rw [hm] at hfailure
        cases hfailure
    | ok made => exact ⟨made, write, cause, rfl, hm⟩

end Settled

/-- Every task that is done was done in its own right. -/
theorem carryOut_each_done (store : ObjectStore σ) (tasks : List (Task ω))
    (desk : Desk ω) (s : σ) :
    ∀ settled ∈ (carryOut store tasks desk s).done, settled.Done store := by
  induction tasks generalizing desk s with
  | nil =>
      intro settled hmem
      cases hmem
  | cons task rest ih =>
      simp only [carryOut]
      rcases hrun : task.due.run desk with ⟨fault | due, desk'⟩
      · intro settled hmem
        cases hmem
      · have htask : (task.settle store due s).1.task = task := by
          cases due <;> rfl
        have hdone : (task.settle store due s).1.Done store := by
          refine ⟨desk, desk', due, s, ?_, ?_⟩
          · rw [htask, hrun]
          · rw [htask]
        simp only [Settled.proceed]
        split
        · intro settled hmem
          obtain rfl := List.mem_singleton.1 hmem
          exact hdone
        · intro settled hmem
          rcases List.mem_cons.1 hmem with rfl | hmem
          · exact hdone
          · exact ih desk' _ settled hmem

/-- Without a stop, a fault was made of each failure. -/
theorem carryOut_failures (store : ObjectStore σ) (tasks : List (Task ω))
    (desk : Desk ω) (s : σ) (h : (carryOut store tasks desk s).stop = none) :
    ∀ settled ∈ (carryOut store tasks desk s).done, ∃ f, settled.failure = .ok f := by
  induction tasks generalizing desk s with
  | nil =>
      intro settled hmem
      cases hmem
  | cons task rest ih =>
      rcases hrun : task.due.run desk with ⟨fault | due, desk'⟩
      · simp only [carryOut, hrun] at h
        cases h
      · simp only [carryOut, hrun, Settled.proceed] at h ⊢
        cases hf : (task.settle store due s).1.failure with
        | error fault =>
            simp only [hf] at h
            cases h
        | ok f =>
            simp only [hf] at h ⊢
            intro settled hmem
            rcases List.mem_cons.1 hmem with rfl | hmem
            · exact ⟨f, hf⟩
            · exact ih desk' _ h settled hmem

/-- A stop has one of two reasons: the component was asked about the next
object and failed, or no fault could be made of the write made last. -/
theorem carryOut_stop (store : ObjectStore σ) (tasks : List (Task ω))
    (desk : Desk ω) (s : σ) {fault : Fault}
    (h : (carryOut store tasks desk s).stop = some fault) :
    let p := carryOut store tasks desk s
    (∃ task rest desk', tasks = p.done.map Settled.task ++ task :: rest ∧
      task.due.run desk' = (.error fault, p.desk)) ∨
    (∃ last, p.done.getLast? = some last ∧ last.failure = .error fault) := by
  induction tasks generalizing desk s with
  | nil => cases h
  | cons task rest ih =>
      rcases hrun : task.due.run desk with ⟨e | due, desk'⟩
      · simp only [carryOut, hrun] at h ⊢
        cases h
        exact .inl ⟨task, rest, desk, rfl, hrun⟩
      · have htask : (task.settle store due s).1.task = task := by
          cases due <;> rfl
        simp only [carryOut, hrun, Settled.proceed] at h ⊢
        split at h
        · next e hf =>
            cases h
            exact .inr ⟨_, rfl, hf⟩
        · next hf =>
            rcases ih desk' (task.settle store due s).2 h with
              ⟨next, others, desk'', htasks, hnext⟩ | ⟨last, hlast, hfailure⟩
            · refine .inl ⟨next, others, desk'', ?_, hnext⟩
              simp only [Progress.after, List.map_cons, htask, List.cons_append]
              rw [← htasks]
            · refine .inr ⟨last, ?_, hfailure⟩
              simp only [Progress.after, List.getLast?_cons, hlast, Option.getD_some]

namespace Engine

/-- What becomes of the objects and of the failures in a run of a component
that has been surveyed, whatever the store and the component do. -/
theorem reconcile_isolation {engine : Engine σ} {component : Component ω}
    {w w₁ : World (Recorded σ) ω} {expected observed : Bag}
    (hsurvey : Surveys engine.recorded component w expected observed w₁) :
    let run := (reconcileComponent engine.recorded component).run w
    let tasks := agenda component engine.settings expected observed
    let p := carryOut engine.store.recorded tasks w₁.desk w₁.store
    (¬ (expected.Identified ∧ observed.Identified) →
      (∃ fault, run.1 = .error fault) ∧ run.2.store.attempts = w.store.attempts) ∧
    (expected.Identified ∧ observed.Identified →
      run.2.store.attempts = w.store.attempts ++ p.attempts ∧
      (∀ settled ∈ p.done, settled.Done engine.store.recorded) ∧
      (p.stop = none →
        p.done.map Settled.task = tasks ∧
        (∀ desk, (component.updateStatus p.live p.fault).run p.desk = (.ok (), desk) →
          ∀ settled ∈ p.done, (settled.attempted.bind Attempted.fault).isSome →
            ∃ failure whole, settled.FailedWith failure ∧ run.1 = .error whole ∧
              failure ∈ whole.parts) ∧
        (∀ fault desk,
          (component.updateStatus p.live p.fault).run p.desk = (.error fault, desk) →
          run.1 = .error fault)) ∧
      (∀ fault, p.stop = some fault →
        run.1 = .error fault ∧ run.2.desk = p.desk ∧
        ((∃ task rest desk, tasks = p.done.map Settled.task ++ task :: rest ∧
            task.due.run desk = (.error fault, p.desk)) ∨
          (∃ last, p.done.getLast? = some last ∧ last.failure = .error fault)))) := by
  intro run tasks p
  refine ⟨?_, ?_⟩
  · intro h
    obtain ⟨fault, aggregated, log, hrun⟩ :=
      run_reconcileComponent_unidentified hsurvey h
    refine ⟨⟨fault, congrArg Prod.fst hrun⟩, ?_⟩
    rw [congrArg Prod.snd hrun]
    exact (onlyRead_of_surveys hsurvey).attempts_eq
  · rintro ⟨hexpected, hobserved⟩
    obtain ⟨aggregated, log, hrun⟩ := run_reconcileComponent hsurvey hexpected hobserved
    have hfst : run.1 = ((conclusion component p).run p.desk).1 :=
      congrArg Prod.fst hrun
    have hsnd : run.2 =
        ⟨p.store, ((conclusion component p).run p.desk).2, aggregated, log⟩ :=
      congrArg Prod.snd hrun
    refine ⟨?_, carryOut_each_done _ _ _ _, ?_, ?_⟩
    · rw [hsnd, ← (onlyRead_of_surveys hsurvey).attempts_eq]
      exact attempts_carryOut engine.store tasks w₁.desk w₁.store
    · intro hstop
      refine ⟨(carryOut_done _ _ _ _).2 hstop, ?_, ?_⟩
      · intro desk hstatus settled hmem hfailed
        obtain ⟨f, hf⟩ := carryOut_failures _ _ _ _ hstop settled hmem
        obtain ⟨failure, hfailure⟩ := Settled.failedWith_of_failure hf hfailed
        have hin : failure ∈ p.faults :=
          List.mem_flatMap.2 ⟨settled, hmem, hfailure.mem_faults⟩
        have hfault : p.fault = some (.of (.aggregate p.faults)) := by
          rw [Progress.fault, Fault.together, if_neg]
          intro hempty
          rw [List.isEmpty_iff.1 hempty] at hin
          cases hin
        refine ⟨failure, .of (.aggregate p.faults), hfailure, ?_, hin⟩
        rw [hfst]
        simp only [conclusion, Progress.result, hstop, Attempt.run_bind,
          Attempt.run_liftM, hstatus]
        rw [hfault]
        rfl
      · intro fault desk hstatus
        rw [hfst]
        simp only [conclusion, Progress.result, hstop, Attempt.run_bind,
          Attempt.run_liftM, hstatus]
    · intro fault hstop
      have hconclusion : (conclusion component p).run p.desk =
          (.error fault, p.desk) := by
        simp only [conclusion, Progress.result, hstop, Attempt.run_bind,
          Attempt.run_liftM]
      rw [hfst, hsnd, hconclusion]
      exact ⟨rfl, rfl, carryOut_stop _ _ _ _ hstop⟩

/-! ## Three objects, and a component that fails to compare

The first object cannot be created, the second one is there already and is to
be compared, the third one is to be created. -/

def boom : Fault := .of (.runtime (.str "boom"))

def threePods : Bag := .managed (pod "p") :: .managed (pod "q") :: [.managed (pod "r")]

/-- A component that expects three pods and fails to compare any. -/
def incomparable : Component Unit :=
  { expecting threePods with comparable := fun _ _ => Attempt.fail boom }

/-- A store that has the second pod and fails to create the first one. -/
def halfway : MemoryStore :=
  { refusing "p" (MemoryStore.injected "create") with
    objects := [(podIdentity "q", pod "q")] }

theorem threePods_identified : threePods.Identified :=
  Bag.identified_cons ⟨_, rfl⟩
    (Bag.identified_cons ⟨_, rfl⟩ (Bag.identified_cons ⟨_, rfl⟩ Bag.identified_nil))

theorem halfway_surveys :
    ∃ w₁, Surveys inMemory.recorded incomparable (start halfway) threePods
      [.managed (pod "q")] w₁ :=
  ⟨_, .mutating, rfl⟩

theorem halfway_tasks_done_in_own_right :
    ∃ w₁ : World (Recorded MemoryStore) Unit, ∀ settled ∈
      (carryOut inMemory.recorded.store
        (agenda incomparable .standard threePods [.managed (pod "q")])
        w₁.desk w₁.store).done, settled.Done inMemory.recorded.store := by
  obtain ⟨w₁, hsurvey⟩ := halfway_surveys
  exact ⟨w₁, ((reconcile_isolation hsurvey).2
    ⟨threePods_identified, Bag.identified_cons ⟨_, rfl⟩ Bag.identified_nil⟩).2.1⟩

/-- The fault of the callback is raised alone: the failed creation is not in it,
and the third pod is not created. -/
theorem failure_lost_and_pod_left_out :
    let run := (reconcileComponent inMemory.recorded incomparable).run (start halfway)
    (∃ w₁, Surveys inMemory.recorded incomparable (start halfway) threePods
      [.managed (pod "q")] w₁) ∧
    run.1 = .error boom ∧ boom.parts = [boom] ∧
    run.2.store.attempts =
      [⟨.create (Body.owned [] (pod "p")), some (MemoryStore.injected "create")⟩] :=
  ⟨halfway_surveys, rfl, rfl, rfl⟩

end Engine

end OperatorCore
