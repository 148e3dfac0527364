import OperatorCore.Proofs.Engine.Frame
import OperatorCore.Proofs.Engine.Run

/-!
# What a run does to its store

A run asks its store for the reads of the survey and for the writes that the
tasks of the agenda call for, and for nothing else. So whatever the reads keep
and each of these writes keeps, the whole run keeps, also when it fails. The
writes that are due follow from what the survey has found, and it is enough to
look at those.
-/

namespace OperatorCore

variable {σ ω : Type}

/-- The write may be due, depending on what the component says. -/
def Task.MayWrite (task : Task ω) (write : Write) : Prop :=
  ∃ desk, (task.due.run desk).1 = .ok (some write)

variable {S : σ → σ → Prop}

theorem settle_keeps (hS : Steady S) {store : ObjectStore σ} (task : Task ω)
    (due : Option Write)
    (h : ∀ write, due = some write → ∀ s, S s (store.attempt write s).2) (s : σ) :
    S s (task.settle store due s).2 := by
  cases due with
  | none => exact hS.refl s
  | some write => exact h write rfl s

theorem carryOut_keeps (hS : Steady S) {store : ObjectStore σ} {tasks : List (Task ω)}
    (h : ∀ task ∈ tasks, ∀ write, task.MayWrite write →
      ∀ s, S s (store.attempt write s).2) (desk : Desk ω) (s : σ) :
    S s (carryOut store tasks desk s).store := by
  induction tasks generalizing desk s with
  | nil => exact hS.refl s
  | cons task rest ih =>
      obtain ⟨htask, hrest⟩ := List.forall_mem_cons.1 h
      rw [carryOut]
      rcases hdue : task.due.run desk with ⟨fault | due, desk'⟩
      · exact hS.refl s
      · have hsettle : S s (task.settle store due s).2 := by
          refine settle_keeps hS task due ?_ s
          rintro write rfl
          exact htask write ⟨desk, by rw [hdue]⟩
        simp only [Settled.proceed]
        split
        · exact hsettle
        · exact hS.trans hsettle (ih hrest desk' (task.settle store due s).2)

namespace Engine

/-! ## What may be written -/

theorem isDelete_of_expectedTask {component : Component ω} {settings : Settings}
    {observed : Bag} {item : Tagged} {write : Write}
    (h : (expectedTask component settings observed item).MayWrite write) :
    write.isDelete = false := by
  obtain ⟨desk, hdue⟩ := h
  rw [expectedTask] at hdue
  split at hdue
  · next counterpart _ =>
      rw [run_due_revision] at hdue
      split at hdue
      · cases hdue
        rfl
      · cases hdue
      · cases hdue
  · have hcreate : (if item.isManaged then some (Write.create item.object) else none) =
        some write := Except.ok.inj hdue
    split at hcreate
    · cases hcreate
      rfl
    · cases hcreate

theorem delete_of_observedTask {expected : Bag} {item : Tagged} {write : Write}
    (h : (observedTask (ω := ω) expected item).MayWrite write) :
    expected.counterpart item.key = none ∧ write = .delete item.object := by
  obtain ⟨desk, hdue⟩ := h
  have hdelete : (if (expected.counterpart item.key).isSome then none
      else some (Write.delete item.object)) = some write := Except.ok.inj hdue
  split at hdelete
  · cases hdelete
  · next hnone =>
      cases hdelete
      exact ⟨Option.not_isSome_iff_eq_none.1 hnone, rfl⟩

/-- The write of an expected object is a write of that object. -/
theorem key_of_expectedTask {component : Component ω} {settings : Settings}
    {observed : Bag} {item : Tagged}
    (hitem : Body.Identified item.object) {write : Write}
    (h : (expectedTask component settings observed item).MayWrite write) :
    Body.key write.body = item.key := by
  obtain ⟨desk, hdue⟩ := h
  rw [expectedTask] at hdue
  split at hdue
  · next counterpart _ =>
      rw [run_due_revision] at hdue
      split at hdue
      · cases hdue
        exact hitem.key_versioned _
      · cases hdue
      · cases hdue
  · have hcreate : (if item.isManaged then some (Write.create item.object) else none) =
        some write := Except.ok.inj hdue
    split at hcreate
    · cases hcreate
      rfl
    · cases hcreate

/-- A run leaves the store as its survey does, or as the agenda does that is carried
out after the survey. -/
theorem store_of_reconcileComponent (engine : Engine σ) (component : Component ω)
    (w : World σ ω) :
    let survey := (observeAndMutate engine component true).run
      { w with log := w.log ++ [⟨some engine.source, .opened .reconciling⟩] }
    let run := (reconcileComponent engine component).run w
    run.2.store = survey.2.store ∨
    ∃ expected observed, Surveys engine component w expected observed survey.2 ∧
      expected.Identified ∧ observed.Identified ∧
      run.2.store = (carryOut engine.store
        (agenda component engine.settings expected observed)
        survey.2.desk survey.2.store).store := by
  intro survey run
  have hrun : survey = (observeAndMutate engine component true).run
      { w with log := w.log ++ [⟨some engine.source, .opened .reconciling⟩] } := rfl
  clear_value survey
  obtain ⟨e | ⟨expected, observed, stage, fault⟩, w₁⟩ := survey
  · left
    simp only [run, reconcileComponent, Attempt.run_bind, Attempt.run_ensuring,
      Step.run_report, ← hrun]
  · cases fault with
    | some fault =>
        -- behind a survey with a fault there are reports and calls of the component
        left
        have hD := steady_true (σ := Desk ω)
        have hS := steady_same (σ := σ)
        have hR := steady_related hD hS
        have hrest : Attempt.Keeps (World.Related (fun _ _ => True) fun s s' => s' = s) (do
            let tally ← writeSurveyed engine component
              ⟨expected, observed, stage, some fault⟩
            tell component tally) := by
          refine Attempt.keeps_bind hR ?_ fun tally => keeps_tell hR
            (fun _ _ => keeps_call hS (component.keeps_true.updateStatus _ _)) tally
          exact Attempt.keeps_bind hR (keeps_reportStage hR (fun _ _ => keeps_report hD hS _ _) _)
            fun _ => Attempt.keeps_pure hR _
        have hafter := (Attempt.keeps_ensuring hR hrest
          (keeps_report hD hS engine.source (.closed .reconciling)) w₁).2
        simp only [Attempt.run_ensuring] at hafter
        simp only [run, reconcileComponent_eq, Attempt.run_bind, Attempt.run_ensuring,
          Step.run_report, ← hrun] at hafter ⊢
        exact hafter
    | none =>
        have hsurvey : Surveys engine component w expected observed w₁ :=
          ⟨stage, hrun.symm⟩
        by_cases hid : expected.Identified ∧ observed.Identified
        · obtain ⟨aggregated, log, hends⟩ :=
            run_reconcileComponent hsurvey hid.1 hid.2
          exact .inr ⟨expected, observed, hsurvey, hid.1, hid.2,
            congrArg (fun r => r.2.store) hends⟩
        · obtain ⟨e, aggregated, log, hends⟩ :=
            run_reconcileComponent_unidentified hsurvey hid
          exact .inl (congrArg (fun r => r.2.store) hends)

/-- A run keeps what its reads keep and all the writes that it may come to. -/
theorem reconcile_keeps_store (hS : Steady S) {engine : Engine σ}
    {component : Component ω} {w : World σ ω} (hreads : engine.store.ReadsKeep S)
    (hwrites : ∀ expected observed w₁, Surveys engine component w expected observed w₁ →
      expected.Identified → observed.Identified →
      ∀ task ∈ agenda component engine.settings expected observed,
      ∀ write, task.MayWrite write → ∀ s, S s (engine.store.attempt write s).2) :
    S w.store ((reconcileComponent engine component).run w).2.store := by
  have hkept := (keeps_observeAndMutate (steady_true (σ := Desk ω)) hS hreads
    component.keeps_true true
    { w with log := w.log ++ [⟨some engine.source, .opened .reconciling⟩] }).2
  rcases store_of_reconcileComponent engine component w with
    hsame | ⟨expected, observed, hsurvey, hexpected, hobserved, hcarried⟩
  · rw [hsame]
    exact hkept
  · rw [hcarried]
    exact hS.trans hkept
      (carryOut_keeps hS (hwrites _ _ _ hsurvey hexpected hobserved) _ _)

end Engine

end OperatorCore
