import OperatorCore.Proofs.Engine.Convergence

/-!
# Nothing is expected any more

There are two places where a component may answer nothing. If it knows no expected
objects, it is not observed, and nothing is asked of the store. If it is its mutation
that answers nothing, this comes too late: the objects are observed by then, and nothing
is taken for the empty bag. So all that is observed is deleted, unless the identity of
one of the objects cannot be read, in which case the run is over before the first write.

Both facts follow from the survey. The agenda behind an empty bag is a list of deletions,
which is planned already, since no callback has a part in it.
-/

namespace OperatorCore

variable {σ ω : Type}

/-- The component with an empty bag in the place of a mutation that answers nothing. -/
def Component.explicit (component : Component ω) : Component ω :=
  { component with
    mutate := fun expected observed => do
      let mutated ← component.mutate expected observed
      pure (some (mutated.getD [])) }

/-- Writes are made if there are any to make. -/
theorem Follows.eq_nil_iff {made : List Attempted} {plan : List Write}
    (h : Follows made plan) : made = [] ↔ plan = [] := by
  cases h <;> simp

namespace Engine

/-- It does not matter to a stage whether its answer is changed by the callback or by what
comes next. -/
theorem staged_map {α β : Type} (component : Component ω) (stage : Stage) (hook : Hook ω α)
    (f : α → β) (next : β → Step σ ω Survey) :
    staged component stage (Step.call (hook >>= fun a => pure (f a))) next =
      staged component stage (Step.call hook) fun a => next (f a) := by
  funext w
  have hrun : (hook >>= fun a => pure (f a)).run w.desk =
      ((hook.run w.desk).1.map f, (hook.run w.desk).2) := by
    rw [Attempt.run_bind]
    rcases hook.run w.desk with ⟨fault | a, desk⟩ <;> rfl
  show (staged component stage _ next).run w = (staged component stage _ _).run w
  simp only [staged, Attempt.run_bind, Attempt.run_outcome, Step.run_call, hrun]
  rcases hook.run w.desk with ⟨fault | a, desk⟩ <;> rfl

/-- A survey does not tell a mutation that answers nothing from one that answers the
empty bag. -/
theorem observeAndMutate_explicit (engine : Engine σ) (component : Component ω)
    (mutate : Bool) :
    observeAndMutate engine component.explicit mutate =
      observeAndMutate engine component mutate := by
  have hlast : ∀ declared observed : Bag,
      staged component.explicit .mutating
        (Step.call (component.explicit.mutate declared observed))
        (fun mutated => pure ⟨mutated.getD [], observed, .mutating, none⟩) =
      (staged component .mutating (Step.call (component.mutate declared observed))
        fun mutated => pure ⟨mutated.getD [], observed, .mutating, none⟩ :
          Step σ ω Survey) :=
    fun declared observed => staged_map component .mutating _ _ _
  simp only [observeAndMutate, hlast]
  rfl

/-- The writes ask the mutation for nothing. -/
theorem writeExpected_explicit (engine : Engine σ) (component : Component ω)
    (observed before done todo : Bag) (tally : Tally) :
    writeExpected engine component.explicit observed before done todo tally =
      writeExpected engine component observed before done todo tally := by
  induction todo generalizing done tally with
  | nil => rfl
  | cons item rest ih =>
      simp only [writeExpected, ih]
      rfl

theorem writeSurveyed_explicit (engine : Engine σ) (component : Component ω)
    (survey : Survey) :
    writeSurveyed engine component.explicit survey =
      writeSurveyed engine component survey := by
  simp only [writeSurveyed, writeExpected_explicit]
  rfl

theorem reconcileComponent_explicit (engine : Engine σ) (component : Component ω) :
    reconcileComponent engine component.explicit = reconcileComponent engine component := by
  simp only [reconcileComponent, observeAndMutate_explicit, writeSurveyed_explicit]
  rfl

/-- The objects of a component are declared and observed, and then its mutation answers
nothing. -/
def Withdraws (engine : Engine σ) (component : Component ω) (w : World σ ω)
    (observed : Bag) : Prop :=
  ∃ declared desk w₁,
    (component.expectedObjects w.aggregated).run w.desk = (.ok (some declared), desk) ∧
    (lookUp engine component declared).run { opened engine w with desk } =
      (.ok observed, w₁) ∧
    ((component.mutate declared observed).run w₁.desk).1 = .ok none

/-- The survey of a component that withdraws its objects has no fault, and nothing is expected
by it. -/
theorem surveys_of_withdraws {engine : Engine σ} {component : Component ω}
    {w : World σ ω} {observed : Bag} (h : Withdraws engine component w observed) :
    ∃ w₁, Surveys engine component w [] observed w₁ := by
  obtain ⟨declared, desk, w₁, hdeclared, hlook, hmutated⟩ := h
  have hsurvey : (observeAndMutate engine component true).run (opened engine w) = _ :=
    run_survey_of_expected true hdeclared
  have hcall : (Step.call (component.mutate declared observed)).run w₁ = _ :=
    Step.run_call _ _
  rw [hmutated] at hcall
  rw [run_staged_ok hlook, if_pos rfl, run_staged_ok hcall] at hsurvey
  exact ⟨_, .mutating, hsurvey⟩

/-- Where nothing is expected, a deletion is planned for each observed object. -/
theorem agenda_plans_deletions (component : Component ω) (settings : Settings)
    (observed : Bag) :
    List.Forall₂ Task.Plans (agenda component settings [] observed)
      (observed.map fun item => some (.delete item.object)) := by
  show List.Forall₂ Task.Plans (observed.map (observedTask [])) _
  rw [List.forall₂_map_left_iff, List.forall₂_map_right_iff, List.forall₂_same]
  intro item hitem desk
  rfl

/-- The requests of a run that expects nothing: all observed objects are deleted, one after
another, unless one of them has no identity. -/
theorem deletions_of_withdraws {engine : Engine σ} {component : Component ω}
    {w : World (Recorded σ) ω} {observed : Bag}
    (h : Withdraws engine.recorded component w observed) :
    let run := (reconcileComponent engine.recorded component).run w
    (observed.Identified → ∃ made, run.2.store.attempts = w.store.attempts ++ made ∧
      Follows made (observed.map fun item => .delete item.object)) ∧
    (¬ observed.Identified → run.2.store.attempts = w.store.attempts) := by
  intro run
  obtain ⟨w₁, hsurvey⟩ := surveys_of_withdraws h
  have hread := (onlyRead_of_surveys hsurvey).attempts_eq
  -- the survey has only read, so the attempts of the run are those of its agenda
  constructor
  · intro hobserved
    obtain ⟨aggregated, log, hrun⟩ :=
      run_reconcileComponent hsurvey Bag.identified_nil hobserved
    have hfollows := carryOut_follows engine.store.recorded
      (agenda_plans_deletions component engine.settings observed) w₁.desk w₁.store
    rw [List.filterMap_map] at hfollows
    refine ⟨_, ?_, by simpa using hfollows⟩
    rw [show run = _ from hrun, ← hread]
    exact attempts_carryOut engine.store _ _ _
  · intro hobserved
    obtain ⟨e, aggregated, log, hrun⟩ := run_reconcileComponent_unidentified hsurvey
      fun hboth => hobserved hboth.2
    rw [show run = _ from hrun, ← hread]

/-- A component that knows no expected objects has nothing deleted: nothing is asked of the
store. If its mutation answers nothing, the run is that of the empty bag. The objects that
are observed are deleted in their order, so nothing is deleted just if there are none, or
one of them has no identity. -/
theorem reconcile_without_expectations (engine : Engine σ) (component : Component ω)
    (w : World (Recorded σ) ω) :
    let run := (reconcileComponent engine.recorded component).run w
    (((component.expectedObjects w.aggregated).run w.desk).1 = .ok none →
      run.2.store.events = w.store.events) ∧
    (reconcileComponent engine.recorded component.explicit).run w = run ∧
    ∀ observed, Withdraws engine.recorded component w observed →
      ∃ made, run.2.store.attempts = w.store.attempts ++ made ∧
        (made = [] ↔ observed = [] ∨ ¬ observed.Identified) ∧
        (observed.Identified →
          Follows made (observed.map fun item => .delete item.object)) := by
  intro run
  refine ⟨?_, ?_, ?_⟩
  · intro hunknown
    obtain ⟨log, hrun⟩ := run_reconcile_of_unknown engine.recorded (Prod.ext hunknown rfl)
    rw [show run = _ from hrun]
  · rw [reconcileComponent_explicit]
  · intro observed hwithdraws
    obtain ⟨hdeleted, hstopped⟩ := deletions_of_withdraws hwithdraws
    by_cases hobserved : observed.Identified
    · obtain ⟨made, hmade, hfollows⟩ := hdeleted hobserved
      refine ⟨made, hmade, ?_, fun _ => hfollows⟩
      rw [hfollows.eq_nil_iff, List.map_eq_nil_iff]
      exact ⟨.inl, fun h => h.resolve_right (not_not_intro hobserved)⟩
    · refine ⟨[], by rw [List.append_nil, hstopped hobserved], ?_, ?_⟩
      · exact ⟨fun _ => .inr hobserved, fun _ => rfl⟩
      · exact fun h => absurd h hobserved

/-! ## A pod that is withdrawn

A pod is expected, looked up and then not mentioned any more. -/

/-- A component whose mutation answers nothing. -/
def withdrawing (expected : Bag) (observables : List Observable) : Component Unit :=
  { watching expected observables with mutate := fun _ _ => pure none }

/-- A component that knows no expected objects. -/
def unknowing : Component Unit :=
  { expecting [] with expectedObjects := fun _ => pure none }

theorem nothing_deleted_when_nothing_known_or_observed :
    ((reconcileComponent inMemory.recorded unknowing).run
      (start holding)).2.store.events = [] ∧
    ((reconcileComponent inMemory.recorded
      (withdrawing [.managed (pod "q")] [pointAtPod])).run
        (start MemoryStore.empty)).2.store.attempts = [] := by
  obtain ⟨hunknown, -⟩ := reconcile_without_expectations inMemory unknowing (start holding)
  obtain ⟨-, -, hwithdrawn⟩ := reconcile_without_expectations inMemory
    (withdrawing [.managed (pod "q")] [pointAtPod]) (start MemoryStore.empty)
  obtain ⟨made, hmade, hnothing, -⟩ := hwithdrawn [] ⟨_, _, _, rfl, rfl, rfl⟩
  refine ⟨hunknown rfl, ?_⟩
  rw [hmade, hnothing.2 (.inl rfl)]
  rfl

/-- The pod is stored, and it is deleted. -/
theorem pod_deleted_when_withdrawn :
    let component := withdrawing [.managed (pod "q")] [pointAtPod]
    let run := (reconcileComponent inMemory.recorded component).run (start holding)
    Withdraws inMemory.recorded component (start holding) [.managed heldPod] ∧
    run.2.store.attempts.map Attempted.write = [.delete heldPod] ∧
    run.2.store.state.object? (podIdentity "q") = none :=
  ⟨⟨_, _, _, rfl, rfl, rfl⟩, by decide +kernel, rfl⟩

end Engine

end OperatorCore
