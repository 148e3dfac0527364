import OperatorCore.Proofs.Engine.StatusWrite
import OperatorCore.Proofs.Engine.Survey

/-!
# Finalization without a fault

The finalization of a component goes through two steps, and the second one is made
whatever has become of the first. It fails if one of them has failed, but not if
the component has cleaned up with an aggregate that has no members: that counts as
no fault. Nothing else that comes up on the way is such an aggregate, so a
finalization that is answered has had no fault in either step, and one that is not
answered makes the pass fail.

A pass over a resource that is being deleted therefore has no fault just when all
of its steps have had none.
-/

namespace OperatorCore

variable {σ ω α : Type}

namespace Fault

/-- The fault counts where the members of aggregates are collected. -/
def Counts (fault : Fault) : Prop := fault.parts ≠ []

theorem counts_of_parts {fault : Fault} (h : fault.parts = [fault]) : fault.Counts := by
  rw [Counts, h]
  exact List.cons_ne_nil _ _

theorem counts_of_mute {fault e : Fault} (h : fault.message = .error e) : e.Counts :=
  counts_of_parts (parts_of_mute h)

/-- If some faults cannot be told as one, what comes up instead counts. -/
theorem counts_of_aggregate?_error {faults : List Fault} {e : Fault}
    (h : aggregate? faults = .error e) : e.Counts := by
  rw [aggregate?] at h
  split at h
  · cases h
  · rw [aggregate] at h
    cases hm : (Fault.of (.aggregate (faults.flatMap parts))).message with
    | error e' =>
        rw [hm] at h
        cases h
        exact counts_of_mute hm
    | ok text =>
        rw [hm] at h
        cases h

theorem counts_of_aggregate?_some {faults : List Fault} {whole : Fault}
    (h : aggregate? faults = .ok (some whole)) : whole.Counts := by
  rw [aggregate?] at h
  split at h
  · cases h
  · next hsome =>
      cases ha : aggregate faults with
      | error e =>
          rw [ha] at h
          cases h
      | ok whole' =>
          rw [ha] at h
          cases h
          rw [Counts, parts_aggregate ha]
          rw [List.isEmpty_iff] at hsome
          exact hsome

/-- What does not count has a message: it is an aggregate without members. -/
theorem told_of_parts {fault : Fault} (h : fault.parts = []) :
    ∃ text, fault.message = .ok text := by
  obtain ⟨reason, cause⟩ := fault
  cases reason with
  | aggregate members =>
      obtain rfl : members = [] := h
      exact ⟨_, rfl⟩
  | _ => cases h

/-- An aggregate has a message. -/
theorem told_of_aggregate? {faults : List Fault} {whole : Fault}
    (h : aggregate? faults = .ok (some whole)) : ∃ text, whole.message = .ok text := by
  rw [aggregate?] at h
  split at h
  · cases h
  · rw [aggregate] at h
    cases hm : (Fault.of (.aggregate (faults.flatMap parts))).message with
    | error e =>
        rw [hm] at h
        cases h
    | ok text =>
        rw [hm] at h
        cases h
        exact ⟨text, hm⟩

end Fault

namespace Engine

/-! ## One component -/

/-- A survey has not failed with anything, or with something that counts. -/
def Counted (answer : Except Fault Survey) : Prop :=
  match answer with
  | .error e => e.Counts
  | .ok survey => ∀ fault, survey.fault = some fault → fault.Counts

theorem counted_brokenSurvey (component : Component ω) (stage : Stage) (cause : Fault) :
    Counted (brokenSurvey component stage cause) := by
  cases hm : cause.message with
  | error e =>
      rw [brokenSurvey_mute component stage hm]
      exact Fault.counts_of_mute hm
  | ok text =>
      rw [brokenSurvey_told component stage hm]
      rintro fault h
      cases h
      exact Fault.counts_of_parts rfl

theorem counted_staged {component : Component ω} {stage : Stage} {x : Step σ ω α}
    {next : α → Step σ ω Survey} (hnext : ∀ a w, Counted ((next a).run w).1)
    (w : World σ ω) : Counted ((staged component stage x next).run w).1 := by
  rcases hx : x.run w with ⟨cause | a, w'⟩
  · rw [run_staged_error hx]
    exact counted_brokenSurvey component stage cause
  · rw [run_staged_ok hx]
    exact hnext a w'

theorem counted_pure {expected observed : Bag} {stage : Stage} (w : World σ ω) :
    Counted ((pure ⟨expected, observed, stage, none⟩ : Step σ ω Survey).run w).1 := by
  intro fault h
  cases h

theorem counted_survey (engine : Engine σ) (component : Component ω) (mutate : Bool)
    (w : World σ ω) : Counted ((observeAndMutate engine component mutate).run w).1 := by
  rw [observeAndMutate, Attempt.run_bind, Attempt.run_read]
  refine counted_staged ?_ w
  intro known w'
  cases known with
  | none => exact counted_pure w'
  | some expected =>
      refine counted_staged ?_ w'
      intro observed w''
      split
      · exact counted_staged (fun _ => counted_pure) w''
      · exact counted_pure w''

theorem fails_report (source : Source) (notice : Notice) :
    Attempt.Fails Fault.Counts (Step.report source notice : Step σ ω Unit) := by
  intro w w' e h
  cases h

theorem fails_reportStage (engine : Engine σ) (survey : Survey) :
    Attempt.Fails Fault.Counts (reportStage engine survey : Step σ ω Unit) := by
  simp only [reportStage]
  split
  · refine Attempt.fails_bind (Attempt.fails_liftM fun e h => Fault.counts_of_mute h) ?_
    intro detail
    exact fails_report _ _
  · exact fails_report _ _

theorem fails_cleanUp (engine : Engine σ) (component : Component ω) (survey : Survey) :
    Attempt.Fails Fault.Counts (cleanUp engine component survey) := by
  have hraise : ∀ faults : List Fault, Attempt.Fails Fault.Counts
      ((liftM (Fault.aggregate? faults) : Step σ ω (Option Fault)) >>= raise?) := by
    intro faults
    refine Attempt.fails_bind_answer
      (Attempt.fails_liftM fun e h => Fault.counts_of_aggregate?_error h) ?_
    intro fault w hfault
    cases fault with
    | none => exact Attempt.fails_pure _
    | some whole => exact Attempt.fails_fail (Fault.counts_of_aggregate?_some hfault)
  refine Attempt.fails_bind (Attempt.fails_read _) ?_
  intro before
  refine Attempt.fails_bind (Attempt.fails_modify _) ?_
  intro _
  refine Attempt.fails_bind (Attempt.fails_outcome _) ?_
  intro answer
  cases answer with
  | ok _ => exact hraise _
  | error fault =>
      refine Attempt.fails_bind
        (Attempt.fails_liftM fun e h => Fault.counts_of_mute h) ?_
      intro text
      refine Attempt.fails_bind (fails_report _ _) ?_
      intro _
      exact hraise _

/-- A finalization does not fail with an aggregate that has no members. -/
theorem fails_finalizeComponent (engine : Engine σ) (component : Component ω) :
    Attempt.Fails Fault.Counts (finalizeComponent engine component) := by
  rw [finalizeComponent_eq]
  refine Attempt.fails_bind (fails_report _ _) ?_
  intro _
  refine Attempt.fails_ensuring ?_ (fails_report _ _)
  refine Attempt.fails_bind ?_ ?_
  · intro w w' e h
    have hcounted := counted_survey engine component false w
    rw [h] at hcounted
    exact hcounted
  · intro survey
    exact Attempt.fails_unless (fails_reportStage _ _) (fails_cleanUp _ _ _)

/-- A clean-up that is answered has gone well, and so has the survey before it. -/
theorem parts_of_cleanUp {engine : Engine σ} {component : Component ω} {survey : Survey}
    {w w' : World σ ω} (h : (cleanUp engine component survey).run w = (.ok (), w')) :
    (∀ fault, survey.fault = some fault → fault.parts = []) ∧
    ∀ fault, ((component.finalize survey.observed).run w.desk).1 = .error fault →
      fault.parts = [] := by
  have hraised : ∀ (faults : List Fault) (w : World σ ω),
      ((liftM (Fault.aggregate? faults) : Step σ ω (Option Fault)) >>= raise?).run w =
        (.ok (), w') → ∀ fault ∈ faults, fault.parts = [] := by
    intro faults w hrun
    obtain ⟨whole, w₁, hwhole, hrun⟩ := Attempt.ok_of_bind hrun
    cases whole with
    | none => exact Fault.aggregate?_eq_none_iff.1 (Prod.mk.inj hwhole).1
    | some whole => cases hrun
  obtain ⟨before, w₁, hread, h⟩ := Attempt.ok_of_bind h
  obtain ⟨-, rfl⟩ := Prod.mk.inj hread
  obtain ⟨_, w₂, hmodify, h⟩ := Attempt.ok_of_bind h
  obtain ⟨-, rfl⟩ := Prod.mk.inj hmodify
  obtain ⟨answer, w₃, hfinalize, h⟩ := Attempt.ok_of_bind h
  have hanswer : ((component.finalize survey.observed).run w.desk).1 = answer :=
    Except.ok.inj (Prod.mk.inj hfinalize).1
  rw [hanswer]
  cases answer with
  | ok _ =>
      have hparts := hraised _ _ h
      refine ⟨fun fault hfault => hparts fault ?_, ?_⟩
      · rw [hfault]
        exact List.mem_cons_self
      · intro fault hfault
        cases hfault
  | error failure =>
      obtain ⟨text, w₄, -, h⟩ := Attempt.ok_of_bind h
      obtain ⟨_, w₅, -, h⟩ := Attempt.ok_of_bind h
      have hparts := hraised _ _ h
      refine ⟨fun fault hfault => hparts fault ?_, ?_⟩
      · rw [hfault]
        exact List.mem_cons_self
      · intro fault hfault
        cases hfault
        exact hparts failure (List.mem_append_right _ List.mem_cons_self)

/-- A component of a resource that is being deleted is observed, and cleans up, and
neither has a fault that counts. -/
def CleansUp (engine : Engine σ) (component : Component ω) (w : World σ ω) : Prop :=
  let survey := (observeAndMutate engine component false).run
    { w with log := w.log ++ [⟨some engine.source, .opened .finalizing⟩] }
  ∃ expected observed stage, survey.1 = .ok ⟨expected, observed, stage, none⟩ ∧
    ∀ fault, ((component.finalize observed).run survey.2.desk).1 = .error fault →
      fault.parts = []

/-- A finalization that is answered has gone well. -/
theorem cleansUp_of_finalized {engine : Engine σ} {component : Component ω}
    {w w' : World σ ω}
    (h : (finalizeComponent engine component).run w = (.ok (), w')) :
    CleansUp engine component w := by
  rw [finalizeComponent_eq] at h
  obtain ⟨_, w₀, hopened, h⟩ := Attempt.ok_of_bind h
  obtain ⟨-, rfl⟩ := Prod.mk.inj hopened
  obtain ⟨w₁, h⟩ := Attempt.ok_of_ensuring h
  obtain ⟨survey, w₂, hsurvey, h⟩ := Attempt.ok_of_bind h
  have hcounted := counted_survey engine component false
    { w with log := w.log ++ [⟨some engine.source, .opened .finalizing⟩] }
  rw [hsurvey] at hcounted
  -- the report of a stage that has failed leaves the desk alone
  obtain ⟨w₃, hdesk, hclean⟩ : ∃ w₃ : World σ ω, w₃.desk = w₂.desk ∧
      (cleanUp engine component survey).run w₃ = (.ok (), w₁) := by
    split at h
    · obtain ⟨_, w₃, hstage, h⟩ := Attempt.ok_of_bind h
      have hkept := (keeps_reportStage (steady_related steady_same steady_true)
        (fun _ _ => keeps_report steady_same steady_true engine.source _) survey w₂).1
      rw [hstage] at hkept
      exact ⟨w₃, hkept, h⟩
    · exact ⟨w₂, rfl, h⟩
  obtain ⟨hsurveyed, hfinalized⟩ := parts_of_cleanUp hclean
  obtain ⟨expected, observed, stage, fault⟩ := survey
  cases fault with
  | some fault => exact absurd (hsurveyed fault rfl) (hcounted fault rfl)
  | none =>
      rw [CleansUp, hsurvey]
      refine ⟨expected, observed, stage, rfl, ?_⟩
      rw [← hdesk]
      exact hfinalized

theorem run_cleanUp_ok (engine : Engine σ) {component : Component ω} {expected observed : Bag}
    {stage : Stage} {w : World σ ω}
    (h : ∀ fault, ((component.finalize observed).run w.desk).1 = .error fault →
      fault.parts = []) :
    ((cleanUp engine component ⟨expected, observed, stage, none⟩).run w).1 = .ok () := by
  simp only [cleanUp, Attempt.run_bind, Attempt.run_read, Step.run_aggregate,
    Attempt.run_outcome, Step.run_call]
  cases hanswer : ((component.finalize observed).run w.desk).1 with
  | ok _ => rfl
  | error fault =>
      obtain ⟨text, htext⟩ := Fault.told_of_parts (h fault hanswer)
      have hnone : Fault.aggregate? [fault] = .ok none := by
        rw [Fault.aggregate?_eq_none_iff]
        intro fault' hfault'
        obtain rfl := List.mem_singleton.1 hfault'
        exact h fault' hanswer
      simp only [Attempt.run_bind, Attempt.run_liftM, htext, Step.run_report, Attempt.run_pure,
        Option.toList_none, List.nil_append, hnone]
      rfl

/-- A finalization is answered if it goes well. -/
theorem finalized_of_cleansUp {engine : Engine σ} {component : Component ω} {w : World σ ω}
    (h : CleansUp engine component w) :
    ((finalizeComponent engine component).run w).1 = .ok () := by
  obtain ⟨expected, observed, stage, hsurvey, hfinalized⟩ := h
  rw [finalizeComponent_eq, Attempt.run_bind_ok (Step.run_report _ _ w), Attempt.run_ensuring,
    Step.run_report, Attempt.run_bind_ok (Prod.ext hsurvey rfl)]
  exact run_cleanUp_ok engine hfinalized

/-! ## All components -/

/-- All components clean up, one after another. -/
def AllCleanUp (engine : Engine σ) : List (Component ω) → World σ ω → Prop
  | [], _ => True
  | component :: rest, w =>
    let engine' := { engine with source := engine.source.forComponent component.name }
    CleansUp engine' component w ∧
      AllCleanUp engine rest ((finalizeComponent engine' component).run w).2

theorem allCleanUp_of_processed {engine : Engine σ} {components : List (Component ω)}
    {w w' : World σ ω} {faults : List Fault}
    (h : (processEach engine true components).run w = (.ok faults, w'))
    (hfaults : ∀ fault ∈ faults, fault.parts = []) : AllCleanUp engine components w := by
  induction components generalizing w w' faults with
  | nil => trivial
  | cons component rest ih =>
      rw [processEach] at h
      obtain ⟨outcome, w₁, houtcome, hnext⟩ := Attempt.ok_of_bind h
      obtain ⟨others, w₂, hothers, hlast⟩ := Attempt.ok_of_bind hnext
      rw [Attempt.run_pure, Prod.mk.injEq, Except.ok.injEq] at hlast
      obtain ⟨hanswer, rfl⟩ := Prod.mk.inj houtcome
      have hrun := Except.ok.inj hanswer
      rw [AllCleanUp]
      cases outcome with
      | ok _ =>
          obtain rfl : others = faults := hlast.1
          exact ⟨cleansUp_of_finalized (Prod.ext hrun rfl), ih hothers hfaults⟩
      | error fault =>
          obtain rfl : fault :: others = faults := hlast.1
          exact absurd (hfaults fault List.mem_cons_self)
            (fails_finalizeComponent _ component w _ fault (Prod.ext hrun rfl))

theorem processed_of_allCleanUp {engine : Engine σ} {components : List (Component ω)}
    {w : World σ ω} (h : AllCleanUp engine components w) :
    ((processEach engine true components).run w).1 = .ok [] := by
  induction components generalizing w with
  | nil => rfl
  | cons component rest ih =>
      obtain ⟨hfirst, hrest⟩ := h
      rw [processEach]
      simp only [if_true]
      rw [Attempt.run_bind_ok (Attempt.run_outcome _ w),
        Attempt.run_bind_ok (Prod.ext (ih hrest) rfl), finalized_of_cleansUp hfirst]
      rfl

/-! ## A pass -/

theorem cases_of_processed {engine : Engine σ} {handle : Handle ω} {w w' : World σ ω}
    (h : (processComponents engine handle).run w = (.ok none, w')) :
    ∃ components desk deleting faults,
      Body.isDeletionOngoing w.desk.resource = .ok deleting ∧
      handle.components.run w.desk = (.ok components, desk) ∧
      (processEach engine deleting components).run ⟨w.store, desk, [], w.log⟩ =
        (.ok faults, w') ∧
      ∀ fault ∈ faults, fault.parts = [] := by
  obtain ⟨_, w₁, haggregate, h⟩ := Attempt.ok_of_bind h
  obtain ⟨-, rfl⟩ := Prod.mk.inj haggregate
  obtain ⟨resource, w₂, hread, h⟩ := Attempt.ok_of_bind h
  obtain ⟨hresource, rfl⟩ := Prod.mk.inj hread
  obtain ⟨deleting, w₃, hdeletion, h⟩ := Attempt.ok_of_bind h
  obtain ⟨hdeleting, rfl⟩ := Prod.mk.inj hdeletion
  obtain ⟨components, w₄, hmake, h⟩ := Attempt.ok_of_bind h
  rw [Step.run_call] at hmake
  obtain ⟨hmade, rfl⟩ := Prod.mk.inj hmake
  obtain ⟨faults, w₅, hprocess, h⟩ := Attempt.ok_of_bind h
  obtain ⟨hwhole, rfl⟩ := Prod.mk.inj h
  obtain rfl := Except.ok.inj hresource
  exact ⟨components, _, deleting, faults, hdeleting, Prod.ext hmade rfl, hprocess,
    Fault.aggregate?_eq_none_iff.1 hwhole⟩

/-- Without a fault there is none of the validation, and the components are
processed. -/
theorem cases_of_verdictAfter {engine : Engine σ} {handle : Handle ω}
    {invalid : Option Fault} {w w' : World σ ω}
    (h : (verdictAfter engine handle invalid).run w = (.ok none, w')) :
    invalid = none ∧ ∃ status desk₂ desk₃,
      handle.newStatus.run w.desk = (.ok status, desk₂) ∧
      handle.applyDefaults.run { desk₂ with status } = (.ok (), desk₃) ∧
      (processComponents engine handle).run
        { w with desk := desk₃, log := w.log ++ [⟨some engine.source, .defaulting⟩] } =
        (.ok none, w') := by
  obtain ⟨status, w₁, hstatus, h⟩ := Attempt.ok_of_bind h
  rw [Step.run_call] at hstatus
  obtain ⟨hfresh, rfl⟩ := Prod.mk.inj hstatus
  obtain ⟨_, w₂, hmodify, h⟩ := Attempt.ok_of_bind h
  obtain ⟨-, rfl⟩ := Prod.mk.inj hmodify
  cases invalid with
  | some fault =>
      obtain ⟨text, w₃, -, h⟩ := Attempt.ok_of_bind h
      obtain ⟨_, w₄, -, h⟩ := Attempt.ok_of_bind h
      cases h
  | none =>
      obtain ⟨_, w₃, hreport, h⟩ := Attempt.ok_of_bind h
      obtain ⟨-, rfl⟩ := Prod.mk.inj hreport
      obtain ⟨_, w₄, hdefaults, h⟩ := Attempt.ok_of_bind h
      rw [Step.run_call] at hdefaults
      obtain ⟨hdefaulted, rfl⟩ := Prod.mk.inj hdefaults
      exact ⟨rfl, status, _, _, Prod.ext hfresh rfl, Prod.ext hdefaulted rfl, h⟩

/-- A pass that comes to a verdict without a fault has gone through all its steps. -/
theorem cases_of_verdict {engine : Engine σ} {handle : Handle ω} {w w' : World σ ω}
    (h : (verdict engine handle).run w = (.ok none, w')) :
    ∃ desk₁ status desk₂ desk₃,
      handle.validate.run w.desk = (.ok (), desk₁) ∧
      handle.newStatus.run desk₁ = (.ok status, desk₂) ∧
      handle.applyDefaults.run { desk₂ with status } = (.ok (), desk₃) ∧
      (processComponents engine handle).run
        { w with
          desk := desk₃
          log := w.log ++ [⟨some engine.source, .validating⟩] ++
            [⟨some engine.source, .defaulting⟩] } = (.ok none, w') := by
  obtain ⟨_, w₁, hreport, h⟩ := Attempt.ok_of_bind h
  obtain ⟨-, rfl⟩ := Prod.mk.inj hreport
  obtain ⟨answer, w₂, hvalidate, h⟩ := Attempt.ok_of_bind h
  rw [Attempt.run_outcome, Step.run_call] at hvalidate
  obtain ⟨hanswer, rfl⟩ := Prod.mk.inj hvalidate
  cases answer with
  | error fault =>
      obtain ⟨invalid, w₃, -, h⟩ := Attempt.ok_of_bind h
      cases (cases_of_verdictAfter h).1
  | ok _ =>
      obtain ⟨-, status, desk₂, desk₃, hstatus, hdefaults, hprocess⟩ :=
        cases_of_verdictAfter h
      exact ⟨_, status, desk₂, desk₃, Prod.ext (Except.ok.inj hanswer) rfl, hstatus,
        hdefaults, hprocess⟩

/-- The spec is valid, the pass gets as far as the components, and all of them clean
up. -/
def Finalizes (engine : Engine σ) (handle : Handle ω) (w : World σ ω) : Prop :=
  ∃ desk₁ status desk₂ desk₃ components desk₄,
    handle.validate.run w.desk = (.ok (), desk₁) ∧
    handle.newStatus.run desk₁ = (.ok status, desk₂) ∧
    handle.applyDefaults.run { desk₂ with status } = (.ok (), desk₃) ∧
    handle.components.run desk₃ = (.ok components, desk₄) ∧
    AllCleanUp engine components ⟨w.store, desk₄, [],
      w.log ++ [⟨some engine.source, .validating⟩] ++
        [⟨some engine.source, .defaulting⟩]⟩

/-- Where the resource is being deleted, a verdict without a fault takes all of
that. -/
theorem finalizes_of_verdict {engine : Engine σ} {handle : Handle ω} {w w' : World σ ω}
    (h : (verdict engine handle).run w = (.ok none, w'))
    (hdeleting : ∀ desk₁ status desk₂ desk₃,
      handle.validate.run w.desk = (.ok (), desk₁) →
      handle.newStatus.run desk₁ = (.ok status, desk₂) →
      handle.applyDefaults.run { desk₂ with status } = (.ok (), desk₃) →
      Body.isDeletionOngoing desk₃.resource = .ok true) :
    Finalizes engine handle w := by
  obtain ⟨desk₁, status, desk₂, desk₃, hvalidate, hstatus, hdefaults, hprocess⟩ :=
    cases_of_verdict h
  obtain ⟨components, desk₄, deleting, faults, hdeletion, hmade, hrun, hfaults⟩ :=
    cases_of_processed hprocess
  have htrue : deleting = true := by
    rw [hdeleting desk₁ status desk₂ desk₃ hvalidate hstatus hdefaults] at hdeletion
    exact (Except.ok.inj hdeletion).symm
  rw [htrue] at hrun
  exact ⟨desk₁, status, desk₂, desk₃, components, desk₄, hvalidate, hstatus, hdefaults,
    hmade, allCleanUp_of_processed hrun hfaults⟩

/-- It takes no more than that. -/
theorem verdict_of_finalizes {engine : Engine σ} {handle : Handle ω} {w : World σ ω}
    (h : Finalizes engine handle w)
    (hdeleting : ∀ desk₁ status desk₂ desk₃,
      handle.validate.run w.desk = (.ok (), desk₁) →
      handle.newStatus.run desk₁ = (.ok status, desk₂) →
      handle.applyDefaults.run { desk₂ with status } = (.ok (), desk₃) →
      Body.isDeletionOngoing desk₃.resource = .ok true) :
    ((verdict engine handle).run w).1 = .ok none := by
  obtain ⟨desk₁, status, desk₂, desk₃, components, desk₄, hvalidate, hstatus, hdefaults,
    hmade, hclean⟩ := h
  have hongoing := hdeleting desk₁ status desk₂ desk₃ hvalidate hstatus hdefaults
  obtain ⟨w', hprocessed⟩ : ∃ w', (processEach engine true components).run _ = (.ok [], w') :=
    ⟨_, Prod.ext (processed_of_allCleanUp hclean) rfl⟩
  simp only [verdict, verdictAfter, processComponents, Attempt.run_bind, Step.run_report,
    Attempt.run_outcome, Step.run_call, hvalidate, hstatus, Attempt.run_modify, hdefaults,
    Step.run_aggregate, Attempt.run_read, Attempt.run_liftM, hongoing, hmade,
    Attempt.run_pure, hprocessed]
  rfl

end Engine

end OperatorCore
