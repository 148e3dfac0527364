import OperatorCore.Proofs.Engine.Survey
import OperatorCore.Proofs.Store.Sequence

/-!
# A run of a component that does not fail

A run answers only if all has gone well: the component was surveyed, each write
of its plan has succeeded, and every referenced object is there. So the store is
what the writes of the plan have made of it, in their order.

If there is nothing to write and every expected object has its counterpart, the
run leaves the store as the survey has left it, and has no fault to tell. What
is left to fail is the component itself, when its status is updated.
-/

namespace OperatorCore

variable {σ ω : Type}

/-- If all tasks are done and nothing is wrong, all the writes that were due have
succeeded. -/
theorem carryOut_writes {store : ObjectStore σ} {tasks : List (Task ω)}
    {dues : List (Option Write)} (h : List.Forall₂ Task.Plans tasks dues)
    {desk : Desk ω} {s : σ} (hstop : (carryOut store tasks desk s).stop = none)
    (hfaults : (carryOut store tasks desk s).faults = []) :
    store.writes (dues.filterMap id) s = some (carryOut store tasks desk s).store ∧
      ∀ task ∈ tasks, task.amiss = [] := by
  induction h generalizing desk s with
  | nil =>
      refine ⟨rfl, ?_⟩
      intro task htask
      cases htask
  | @cons task due rest dues hdue _ ih =>
      have hd := hdue desk
      rcases hrun : task.due.run desk with ⟨r, desk'⟩
      rw [hrun] at hd
      obtain rfl : r = .ok due := hd
      simp only [carryOut, hrun, Settled.proceed] at hstop hfaults ⊢
      cases hf : (task.settle store due s).1.failure with
      | error e =>
          rw [hf] at hstop
          cases hstop
      | ok f =>
          rw [hf] at hstop hfaults
          simp only [Progress.after, Progress.faults, List.flatMap_cons,
            List.append_eq_nil_iff, Settled.faults_of_failure hf] at hstop hfaults ⊢
          obtain ⟨⟨hamiss, hnone⟩, hrest⟩ := hfaults
          obtain ⟨hwrites, hall⟩ := ih hstop hrest
          refine ⟨?_, List.forall_mem_cons.2 ⟨?_, hall⟩⟩
          · cases due with
            | none => exact hwrites
            | some write =>
                have hfailed : (store.attempt write s).1.isSome = f.isSome :=
                  Settled.failed_of_failure hf
                obtain rfl : f = none := Option.toList_eq_nil_iff.1 hnone
                rw [Option.isSome_none, Option.isSome_eq_false_iff,
                  Option.isNone_iff_eq_none] at hfailed
                show store.writes (write :: dues.filterMap id) s = _
                rw [ObjectStore.writes,
                  show store.attempt write s = (none, (store.attempt write s).2) from
                    Prod.ext hfailed rfl]
                exact hwrites
          · cases due <;> exact hamiss

/-- If nothing is due, nothing is done. -/
theorem carryOut_idle (store : ObjectStore σ) {tasks : List (Task ω)}
    (h : ∀ task ∈ tasks, task.Plans none ∧ task.amiss = []) (desk : Desk ω) (s : σ) :
    (carryOut store tasks desk s).stop = none ∧
      (carryOut store tasks desk s).faults = [] ∧
      (carryOut store tasks desk s).store = s := by
  induction tasks generalizing desk with
  | nil => exact ⟨rfl, rfl, rfl⟩
  | cons task rest ih =>
      obtain ⟨⟨hdue, hamiss⟩, hrest⟩ := List.forall_mem_cons.1 h
      have hd := hdue desk
      rcases hrun : task.due.run desk with ⟨r, desk'⟩
      rw [hrun] at hd
      obtain rfl : r = .ok none := hd
      obtain ⟨hstop, hfaults, hstore⟩ := ih hrest desk'
      have hfailure : (task.settle store none s).1.failure = .ok none := rfl
      simp only [carryOut, hrun, Settled.proceed, hfailure, Progress.after,
        Progress.faults, List.flatMap_cons, Settled.faults_of_failure hfailure]
      refine ⟨hstop, ?_, hstore⟩
      have htask : (task.settle store none s).1.task = task := rfl
      rw [htask, hamiss]
      exact hfaults

/-- Asked for them in some world, a component declares what it expects and how to
observe it, and it makes no changes after the observation. -/
structure Component.Declares (component : Component ω) (w : World σ ω) (expected : Bag)
    (observables : List Observable) : Prop where
  declared : ∃ desk₁ desk₂,
    (component.expectedObjects w.aggregated).run w.desk = (.ok (some expected), desk₁) ∧
    (component.observables expected).run desk₁ = (.ok observables, desk₂)
  mutate : ∀ observed, component.mutate expected observed = pure (some expected)

namespace Engine

/-- A survey is as good as its lookups, and these are made on the store as it is. -/
theorem lookups_of_declares (engine : Engine σ) {component : Component ω} {w : World σ ω}
    {expected : Bag} {observables : List Observable}
    (h : component.Declares w expected observables) :
    ∃ w₀, w₀.store = w.store ∧
      let look := (Observation.observe engine.store engine.source observables).run w₀
      (∀ observed w₁, look = (.ok observed, w₁) →
        Surveys engine component w expected observed w₁) ∧
      (∀ e w₁, look = (.error e, w₁) →
        (observeAndMutate engine component true).run (opened engine w) =
          (brokenSurvey component .observing e, w₁)) := by
  obtain ⟨⟨desk₁, desk₂, hexpected, hobservables⟩, hmutate⟩ := h
  have hlook := @run_lookUp σ ω engine component expected
    { opened engine w with desk := desk₁ } _ _ hobservables
  refine ⟨{ opened engine w with desk := desk₂ }, rfl, ?_, ?_⟩
  · intro observed w₁ hrun
    refine ⟨.mutating, ?_⟩
    refine (run_survey_of_expected (w := opened engine w) true hexpected).trans ?_
    rw [run_staged_ok (hlook.trans hrun), if_pos rfl, hmutate]
    rfl
  · intro e w₁ hrun
    rw [run_survey_of_expected (w := opened engine w) true hexpected]
    exact run_staged_error (hlook.trans hrun)

/-- A run that could not survey its component does not answer. -/
theorem run_ne_ok_of_broken {engine : Engine σ} {component : Component ω} {w w' : World σ ω}
    {stage : Stage} {cause : Fault}
    (hsurvey : (observeAndMutate engine component true).run (opened engine w) =
      (brokenSurvey component stage cause, w')) :
    ((reconcileComponent engine component).run w).1 ≠ .ok () := by
  cases hm : cause.message with
  | error e =>
      obtain ⟨log, hrun⟩ := run_reconcile_of_mute hsurvey hm
      rw [hrun]
      intro hok
      cases hok
  | ok text =>
      obtain ⟨log, hrun⟩ := run_reconcile_of_broken hsurvey hm
      rw [hrun]
      intro hok
      obtain ⟨_, -, hok⟩ := bind_eq_ok_iff.1 hok
      cases hok

/-- A conclusion answers only if there was neither a stop nor a fault. -/
theorem faults_of_conclusion_ok {component : Component ω} {p : Progress σ ω}
    (h : ((conclusion component p).run p.desk).1 = .ok ()) :
    p.stop = none ∧ p.faults = [] := by
  simp only [conclusion, Attempt.run_bind, Attempt.run_liftM, Progress.result] at h
  cases hstop : p.stop with
  | some fault =>
      simp only [hstop] at h
      cases h
  | none =>
      refine ⟨rfl, ?_⟩
      simp only [hstop] at h
      rcases hu : (component.updateStatus p.live p.fault).run p.desk with ⟨e | _, desk⟩
      · rw [hu] at h
        cases h
      · rw [hu] at h
        cases hfault : p.fault with
        | some fault =>
            simp only [hfault] at h
            cases h
        | none => exact Fault.together_eq_none_iff.1 hfault

/-- Without a stop and without faults, it is for the component to answer. -/
theorem run_conclusion_of_no_faults {component : Component ω} {p : Progress σ ω}
    (hstop : p.stop = none) (hfaults : p.faults = []) :
    (conclusion component p).run p.desk =
      (component.updateStatus p.live none).run p.desk := by
  have hfault : p.fault = none := Fault.together_eq_none_iff.2 hfaults
  simp only [conclusion, Attempt.run_bind, Attempt.run_liftM, Progress.result, hstop,
    hfault]
  rcases (component.updateStatus p.live none).run p.desk with ⟨e | _, desk⟩ <;> rfl

section

variable {engine : Engine σ} {component : Component ω} {view : Value → Value}
  {vote : Value → Value → Bool} {w w₁ : World σ ω} {expected observed : Bag}

theorem filterMap_id_dues (settings : Settings) (owners : List Value) :
    ((expected.map fun item => wanted settings view vote observed (item.owned owners))
        ++ observed.map (unwanted expected)).filterMap id =
      plan settings view vote owners expected observed := by
  rw [List.filterMap_append, List.filterMap_map, List.filterMap_map]
  rfl

/-- A run that answers has made all the writes of its plan, and has found all the
objects that it only refers to. -/
theorem writes_of_run_ok
    (hsurvey : Surveys engine component w expected observed w₁)
    (hexpected : expected.Identified) (hobserved : observed.Identified)
    (hjudges : component.Judges engine.settings view vote)
    (hok : ((reconcileComponent engine component).run w).1 = .ok ()) :
    engine.store.writes
        (plan engine.settings view vote component.owners expected observed) w₁.store =
      some ((reconcileComponent engine component).run w).2.store ∧
    ∀ item ∈ expected, item.isManaged = false →
      (observed.counterpart item.key).isSome = true := by
  obtain ⟨aggregated, log, hrun⟩ :=
    run_reconcileComponent hsurvey hexpected hobserved
  rw [hrun] at hok ⊢
  obtain ⟨hstop, hfaults⟩ := faults_of_conclusion_ok hok
  obtain ⟨hwrites, hamiss⟩ :=
    carryOut_writes (agenda_plans hjudges hexpected hobserved) hstop hfaults
  rw [filterMap_id_dues] at hwrites
  refine ⟨hwrites, ?_⟩
  intro item hitem hmanaged
  have hnone := hamiss _ (List.mem_append_left _ (List.mem_map_of_mem hitem))
  have hkey : (item.owned component.owners).key = item.key :=
    Tagged.key_owned (hexpected item hitem) _
  rw [expectedTask, hkey] at hnone
  cases hc : observed.counterpart item.key with
  | some counterpart => rfl
  | none =>
      rw [hc] at hnone
      simp only [addition, Tagged.isManaged_owned, hmanaged, Bool.false_eq_true,
        if_false] at hnone
      cases hnone

/-- Where nothing is called for and nothing is missing, a run leaves the store as
the survey has left it, and is answered by the update of the status. -/
theorem ends_of_nothing_due
    (hsurvey : Surveys engine component w expected observed w₁)
    (hexpected : expected.Identified) (hobserved : observed.Identified)
    (hjudges : component.Judges engine.settings view vote)
    (hwanted : ∀ item ∈ expected,
      (observed.counterpart item.key).isSome = true ∧
      wanted engine.settings view vote observed (item.owned component.owners) = none)
    (hunwanted : ∀ item ∈ observed, unwanted expected item = none) :
    let p := carryOut engine.store
      (agenda component engine.settings expected observed) w₁.desk w₁.store
    let told := (component.updateStatus p.live none).run p.desk
    (reconcileComponent engine component).Ends w told.1 told.2 w₁.store := by
  have hidle : ∀ task ∈ agenda component engine.settings expected observed,
      task.Plans none ∧ task.amiss = [] := by
    intro task htask
    rcases List.mem_append.1 htask with he | ho
    · obtain ⟨item, hitem, rfl⟩ := List.mem_map.1 he
      obtain ⟨hpresent, hnone⟩ := hwanted item hitem
      have howned : Body.Identified (item.owned component.owners).object :=
        (hexpected item hitem).owned _
      refine ⟨hnone ▸ expectedTask_plans hjudges hobserved howned, ?_⟩
      rw [expectedTask, Tagged.key_owned (hexpected item hitem)]
      obtain ⟨counterpart, hc⟩ := Option.isSome_iff_exists.1 hpresent
      rw [hc]
      rfl
    · obtain ⟨item, hitem, rfl⟩ := List.mem_map.1 ho
      have hnone := hunwanted item hitem
      refine ⟨fun desk => ?_, rfl⟩
      show Except.ok (unwanted expected item) = Except.ok none
      rw [hnone]
  intro p told
  obtain ⟨aggregated, log, hrun⟩ :=
    run_reconcileComponent hsurvey hexpected hobserved
  obtain ⟨hstop, hfaults, hstore⟩ :=
    carryOut_idle engine.store hidle w₁.desk w₁.store
  refine ⟨aggregated, log, ?_⟩
  rw [hrun, run_conclusion_of_no_faults hstop hfaults, hstore]

theorem run_of_nothing_due
    (hsurvey : Surveys engine component w expected observed w₁)
    (hexpected : expected.Identified) (hobserved : observed.Identified)
    (hjudges : component.Judges engine.settings view vote)
    (hwanted : ∀ item ∈ expected,
      (observed.counterpart item.key).isSome = true ∧
      wanted engine.settings view vote observed (item.owned component.owners) = none)
    (hunwanted : ∀ item ∈ observed, unwanted expected item = none) :
    ((reconcileComponent engine component).run w).2.store = w₁.store ∧
    ∃ live desk, ((reconcileComponent engine component).run w).1 =
      ((component.updateStatus live none).run desk).1 := by
  obtain ⟨aggregated, log, hrun⟩ :=
    ends_of_nothing_due hsurvey hexpected hobserved hjudges hwanted hunwanted
  rw [hrun]
  exact ⟨rfl, _, _, rfl⟩

end

end Engine

end OperatorCore
