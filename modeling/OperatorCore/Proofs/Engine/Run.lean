import OperatorCore.Proofs.Engine.Loops
import OperatorCore.Proofs.Fault.Aggregates

/-!
# A run of a component

After the survey a run of a component is the agenda and a conclusion. If the
agenda came to a stop, the run ends there. Otherwise the component is told what
is live and what has failed, and the faults are raised as one. Every fault that
the loops collect has a message and is not an aggregate, so putting them
together never fails and loses none of them.

If an object of the survey cannot be identified, the run fails before the first
write: the owners are stamped and the observed objects are reported before the
loops start, and both need the identities.
-/

namespace OperatorCore

variable {σ ω : Type}

/-! What comes up instead of a message is not an aggregate: it counts as a fault
even where empty aggregates do not. The induction is on the reason and the
members of an aggregate. -/

mutual

theorem Fault.parts_of_mute {fault e : Fault} (h : fault.message = .error e) :
    e.parts = [e] := by
  obtain ⟨reason, cause⟩ := fault
  rw [Fault.message] at h
  exact Reason.parts_of_mute h

theorem Reason.parts_of_mute {reason : Reason Fault} {e : Fault}
    (h : reason.message = .error e) : e.parts = [e] := by
  match reason with
  | .aggregate members =>
      rw [Reason.message] at h
      cases hm : Fault.messages members with
      | ok texts =>
          rw [hm] at h
          cases h
      | error e' =>
          rw [hm] at h
          cases h
          exact Fault.parts_of_mute_messages hm
  | .api _ payload status =>
      rw [Reason.message, apiMessage] at h
      split at h
      · cases h
      · cases h
      · split at h
        · cases h
          rfl
        · cases h
  | .runtime _ | .refused _ | .misuse _ | .notImplemented | .connection _ | .timeout
  | .brokenJson | .contentType | .badStatus | .badTimestamp | .badBase64
  | .undecodable | .unencodable | .tooDeep | .noSuchFile | .noKey _ | .outOfRange
  | .beyondClocks | .noPosition | .unregisteredKind .. | .reconciliation _
  | .validation _ | .observation .. | .missing .. | .mutation .. =>
      rw [Reason.message] at h
      cases h

theorem Fault.parts_of_mute_messages {faults : List Fault} {e : Fault}
    (h : Fault.messages faults = .error e) : e.parts = [e] := by
  match faults with
  | [] => cases h
  | fault :: rest =>
      rw [Fault.messages] at h
      cases hm : fault.message with
      | error e' =>
          rw [hm] at h
          cases h
          exact Fault.parts_of_mute hm
      | ok text =>
          rw [hm] at h
          cases hr : Fault.messages rest with
          | ok texts =>
              rw [hr] at h
              cases h
          | error e' =>
              rw [hr] at h
              cases h
              exact Fault.parts_of_mute_messages hr

end

namespace Fault

theorem single_of_mutation {operation : Value} {identity : Identity}
    {cause failure : Fault} (h : mutation operation identity cause = .ok failure) :
    failure.Single := by
  rw [mutation] at h
  cases hm : cause.message with
  | error e =>
      rw [hm] at h
      cases h
  | ok text =>
      rw [hm] at h
      cases h
      exact ⟨rfl, _, rfl⟩

end Fault

/-- What is wrong with the object of the task can be put into an aggregate. -/
def Task.Sound (task : Task ω) : Prop := ∀ f ∈ task.amiss, f.Single

theorem Settled.single_of_mem {settled : Settled ω} (h : settled.task.Sound)
    {f : Fault} (hf : f ∈ settled.faults) : f.Single := by
  obtain ⟨task, attempted⟩ := settled
  rcases List.mem_append.1 hf with hamiss | hfailure
  · exact h f hamiss
  · obtain _ | ⟨write, _ | fault⟩ := attempted
    · cases hfailure
    · cases hfailure
    · simp only [Settled.failure, Option.bind_some, Option.map_some] at hfailure
      cases hm : Fault.mutation (.str write.operation.text) task.identity fault with
      | error e =>
          rw [hm] at hfailure
          cases hfailure
      | ok failure =>
          rw [hm] at hfailure
          obtain rfl := List.mem_singleton.1 hfailure
          exact Fault.single_of_mutation hm

namespace Progress

/-- All that has failed, as one fault. -/
def fault (p : Progress σ ω) : Option Fault := Fault.together p.faults

theorem single_of_mem {store : ObjectStore σ} {tasks : List (Task ω)}
    (h : ∀ task ∈ tasks, task.Sound) {desk : Desk ω} {s : σ} {f : Fault}
    (hf : f ∈ (carryOut store tasks desk s).faults) : f.Single := by
  obtain ⟨settled, hmem, hf⟩ := List.mem_flatMap.1 hf
  refine settled.single_of_mem (h _ ?_) hf
  exact (carryOut_done store tasks desk s).1.subset (List.mem_map_of_mem hmem)

end Progress

namespace Bag

/-- Whether there is a counterpart depends on the identities alone. -/
theorem counterpart_congr {a b : Bag} (h : a.map Tagged.key = b.map Tagged.key)
    (i : Identity) : (a.counterpart i).isSome = (b.counterpart i).isSome := by
  have hany : ∀ bag : Bag, (bag.counterpart i).isSome =
      (bag.map Tagged.key).any (fun k => k.same i) := by
    intro bag
    rw [counterpart, List.isSome_find?, List.any_map]
    rfl
  rw [hany, hany, h]

theorem Identified.map {bag : Bag} (h : bag.Identified) {f : Tagged → Tagged}
    (hf : ∀ item, Body.Identified item.object → Body.Identified (f item).object) :
    Identified (bag.map f) := by
  intro item hmem
  obtain ⟨item', hmem', rfl⟩ := List.mem_map.1 hmem
  exact hf item' (h item' hmem')

end Bag

namespace Tagged

theorem key_owned {item : Tagged} (h : Body.Identified item.object)
    (owners : List Value) : (item.owned owners).key = item.key := h.key_owned owners

theorem identified_adopting (observed : Bag) {item : Tagged}
    (h : Body.Identified item.object) :
    Body.Identified (item.adopting observed).object := by
  rw [adopting]
  split
  · exact h.versioned _
  · exact h

theorem key_adopting (observed : Bag) {item : Tagged}
    (h : Body.Identified item.object) : (item.adopting observed).key = item.key := by
  rw [adopting]
  split
  · exact h.key_versioned _
  · rfl

end Tagged

namespace Engine

theorem sound_agenda (component : Component ω) (settings : Settings)
    (expected observed : Bag) {task : Task ω}
    (h : task ∈ agenda component settings expected observed) : task.Sound := by
  rcases List.mem_append.1 h with he | ho
  · obtain ⟨item, -, rfl⟩ := List.mem_map.1 he
    intro f hf
    rw [expectedTask] at hf
    split at hf
    · cases hf
    · simp only [addition] at hf
      split at hf
      · cases hf
      · obtain rfl := List.mem_singleton.1 hf
        exact ⟨rfl, _, rfl⟩
  · obtain ⟨item, -, rfl⟩ := List.mem_map.1 ho
    intro f hf
    cases hf

/-- The deletions are decided by the identities of the expected objects, which
are the same at the end of the first loop as before it. -/
theorem observedTask_adopting {expected : Bag} (h : expected.Identified)
    (owners : List Value) (observed : Bag) :
    observedTask (ω := ω) ((expected.map (Tagged.owned owners)).map
      (Tagged.adopting observed)) = observedTask expected := by
  have hkeys : ((expected.map (Tagged.owned owners)).map
      (Tagged.adopting observed)).map Tagged.key = expected.map Tagged.key := by
    rw [List.map_map, List.map_map]
    refine List.map_congr_left ?_
    intro item hmem
    have hitem := h item hmem
    show ((item.owned owners).adopting observed).key = item.key
    rw [Tagged.key_adopting observed (hitem.owned owners),
      Tagged.key_owned hitem]
  funext item
  rw [observedTask, observedTask, Bag.counterpart_congr hkeys]

theorem run_writeSurveyed (engine : Engine σ) (component : Component ω)
    {expected observed : Bag} (hexpected : expected.Identified)
    (hobserved : observed.Identified) (stage : Stage) (w : World σ ω) :
    let p := carryOut engine.store
      (agenda component engine.settings expected observed) w.desk w.store
    (writeSurveyed engine component ⟨expected, observed, stage, none⟩).Ends w
      (p.result (Tally.empty.plus p)) p.desk p.store := by
  have howned : Bag.Identified (expected.map (Tagged.owned component.owners)) :=
    hexpected.map fun item h => h.owned _
  have hadopted : Bag.Identified ((expected.map (Tagged.owned component.owners)).map
      (Tagged.adopting observed)) :=
    howned.map fun item h => Tagged.identified_adopting observed h
  obtain ⟨aggregated₁, log₁, hstamp⟩ := run_stamp engine component.owners w.aggregated
    hexpected [] { w with aggregated := w.aggregated ++ expected }
  obtain ⟨aggregated₂, log₂, hreport⟩ := run_reportObserved engine hobserved
    ⟨w.store, w.desk, aggregated₁, log₁⟩
  obtain ⟨aggregated₃, log₃, hwrite⟩ := run_writeExpected engine component hobserved
    w.aggregated howned [] Tally.empty ⟨w.store, w.desk, aggregated₂, log₂⟩
  have hfirst : (expected.map fun item =>
      expectedTask component engine.settings observed (item.owned component.owners)) =
      (expected.map (Tagged.owned component.owners)).map
        (expectedTask component engine.settings observed) := by
    rw [List.map_map]
    rfl
  simp only [List.nil_append] at hstamp hwrite
  simp only [Step.Ends, writeSurveyed, Attempt.run_bind, Attempt.run_read,
    Step.run_aggregate, hstamp, hreport, hwrite, agenda, hfirst, carryOut_append,
    Progress.andThen]
  generalize carryOut engine.store ((expected.map (Tagged.owned component.owners)).map
    (expectedTask component engine.settings observed)) w.desk w.store = p
  cases hstop : p.stop with
  | some fault =>
      simp only [Progress.result, hstop]
      exact ⟨_, _, rfl⟩
  | none =>
      obtain ⟨aggregated₄, log₄, hdelete⟩ := run_deleteUnexpected engine hadopted
        hobserved (Tally.empty.plus p) ⟨p.store, p.desk, aggregated₃, log₃⟩
      rw [observedTask_adopting hexpected] at hdelete
      simp only [Progress.result, hstop, hdelete]
      refine ⟨aggregated₄, log₄, ?_⟩
      simp only [Tally.plus, Progress.faults, Progress.live, List.flatMap_append,
        List.append_assoc]

/-- The component has been surveyed, and this is what was found. -/
def Surveys (engine : Engine σ) (component : Component ω) (w : World σ ω)
    (expected observed : Bag) (w₁ : World σ ω) : Prop :=
  ∃ stage, (observeAndMutate engine component true).run
      { w with log := w.log ++ [⟨some engine.source, .opened .reconciling⟩] } =
    (.ok ⟨expected, observed, stage, none⟩, w₁)

/-- What is left to do after the agenda: the component is told the outcome,
unless there was a stop, and the faults are raised as one. -/
def conclusion (component : Component ω) (p : Progress σ ω) : Hook ω Unit := do
  (p.result () : Except Fault _)
  component.updateStatus p.live p.fault
  match p.fault with
  | some fault => Attempt.fail fault
  | none => pure ()

/-- A run of a component is its survey, its agenda and its conclusion. -/
theorem run_reconcileComponent {engine : Engine σ} {component : Component ω}
    {w w₁ : World σ ω} {expected observed : Bag}
    (hsurvey : Surveys engine component w expected observed w₁)
    (hexpected : expected.Identified) (hobserved : observed.Identified) :
    let p := carryOut engine.store
      (agenda component engine.settings expected observed) w₁.desk w₁.store
    (reconcileComponent engine component).Ends w
      ((conclusion component p).run p.desk).1
      ((conclusion component p).run p.desk).2 p.store := by
  obtain ⟨stage, hrun⟩ := hsurvey
  obtain ⟨aggregated, log, hwrite⟩ :=
    run_writeSurveyed engine component hexpected hobserved stage w₁
  have hsound : ∀ f ∈ (carryOut engine.store
      (agenda component engine.settings expected observed) w₁.desk w₁.store).faults,
      f.Single :=
    fun f hf => Progress.single_of_mem
      (fun task htask => sound_agenda _ _ _ _ htask) hf
  revert hsound hwrite
  generalize carryOut engine.store
    (agenda component engine.settings expected observed) w₁.desk w₁.store = p
  intro hwrite hsound
  have hagg : Fault.aggregate? (Tally.empty.plus p).faults = .ok p.fault :=
    Fault.aggregate?_of_single hsound
  have hlive : (Tally.empty.plus p).reconciled = p.live := rfl
  simp only [Step.Ends, reconcileComponent, conclusion, Attempt.run_bind,
    Attempt.run_ensuring, Step.run_report, hrun, hwrite, Attempt.run_liftM]
  cases hstop : p.stop with
  | some fault =>
      simp only [Progress.result, hstop]
      exact ⟨_, _, rfl⟩
  | none =>
      simp only [Progress.result, hstop, hagg, hlive, Step.run_call]
      rcases (component.updateStatus p.live p.fault).run p.desk with ⟨e | _, desk⟩
      · exact ⟨_, _, rfl⟩
      · cases p.fault <;> exact ⟨_, _, rfl⟩

/-! ## Objects that cannot be identified -/

theorem run_stamp_unidentified (engine : Engine σ) (owners : List Value) (before : Bag)
    {todo : Bag} (htodo : ¬ todo.Identified) (done : Bag) (w : World σ ω) :
    ∃ e, (stamp engine owners before done todo).Ends w (.error e) w.desk w.store := by
  induction todo generalizing done w with
  | nil =>
      refine absurd ?_ htodo
      intro item hmem
      cases hmem
  | cons item rest ih =>
      simp only [stamp, Step.Ends, Attempt.run_bind, Attempt.run_liftM]
      by_cases hitem : Body.Identified item.object
      · have hrest : ¬ Bag.Identified rest :=
          fun hrest => htodo (Bag.identified_cons hitem hrest)
        have hid := (hitem.owned owners).identify
        simp only [hitem.setOwnerReferences, Step.run_aggregate, Tagged.identity, hid,
          Step.run_report]
        exact ih hrest _ _
      · obtain ⟨e, he⟩ := Body.setOwnerReferences_error hitem owners
        simp only [he]
        exact ⟨e, _, _, rfl⟩

theorem run_reportObserved_unidentified (engine : Engine σ) {observed : Bag}
    (hobserved : ¬ observed.Identified) (w : World σ ω) :
    ∃ e, (reportObserved engine observed).Ends w (.error e) w.desk w.store := by
  induction observed generalizing w with
  | nil =>
      refine absurd ?_ hobserved
      intro item hmem
      cases hmem
  | cons item rest ih =>
      simp only [reportObserved, Step.Ends, Attempt.run_bind, Attempt.run_liftM,
        Tagged.identity]
      by_cases hitem : Body.Identified item.object
      · have hrest : ¬ Bag.Identified rest :=
          fun hrest => hobserved (Bag.identified_cons hitem hrest)
        simp only [hitem.identify, Step.run_report]
        exact ih hrest _
      · obtain ⟨e, he⟩ := Body.identify_error hitem
        simp only [he]
        exact ⟨e, _, _, rfl⟩

/-- Without the identities a run fails, and the store and the desk are as the
survey has left them. -/
theorem run_reconcileComponent_unidentified {engine : Engine σ}
    {component : Component ω} {w w₁ : World σ ω} {expected observed : Bag}
    (hsurvey : Surveys engine component w expected observed w₁)
    (h : ¬ (expected.Identified ∧ observed.Identified)) :
    ∃ e, (reconcileComponent engine component).Ends w (.error e) w₁.desk
      w₁.store := by
  obtain ⟨stage, hrun⟩ := hsurvey
  simp only [Step.Ends, reconcileComponent, Attempt.run_bind, Attempt.run_ensuring,
    Step.run_report, hrun, writeSurveyed, Attempt.run_read, Step.run_aggregate]
  by_cases hexpected : expected.Identified
  · obtain ⟨aggregated, log, hstamp⟩ := run_stamp engine component.owners w₁.aggregated
      hexpected [] { w₁ with aggregated := w₁.aggregated ++ expected }
    obtain ⟨e, aggregated', log', hreport⟩ := run_reportObserved_unidentified engine
      (fun hobserved => h ⟨hexpected, hobserved⟩) ⟨w₁.store, w₁.desk, aggregated, log⟩
    simp only [hstamp, hreport]
    exact ⟨e, _, _, rfl⟩
  · obtain ⟨e, aggregated, log, hstamp⟩ := run_stamp_unidentified engine
      component.owners w₁.aggregated hexpected []
      { w₁ with aggregated := w₁.aggregated ++ expected }
    simp only [hstamp]
    exact ⟨e, _, _, rfl⟩

end Engine

end OperatorCore
