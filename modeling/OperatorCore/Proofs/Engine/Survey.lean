import OperatorCore.Proofs.Engine.Plan

/-!
# An incomplete survey

A survey goes through its stages, and the first one that fails is the last. It
does not matter how much was gathered or read before: the answer has two empty
bags, the stage, and one fault that has come from the failure. A run of the
component then tells it of this fault and raises it, and asks for no write. The
bag of all components grows only behind a survey without a fault.

A component that knows nothing of its objects is not even observed. Its survey
is empty as well, but without a fault, and there is nothing to raise.

There is one way out of this order. The fault of a stage tells the message of
its cause. If the cause has none, no fault can be made of it, and what comes up
instead ends the run before the component is told. Nothing is written then
either.

How a component was told is seen by a twin of it, which does the same and keeps
what its status update was called with.
-/

namespace OperatorCore

variable {σ ω α : Type}

namespace Observation

/-! ## Reads that are refused -/

/-- The store answers a lookup with a fault, other than the absence of the one
object that is looked up. -/
def Refused (store : ObjectStore σ) (o : Observable) (s : σ) (fault : Fault) : Prop :=
  match o.target with
  | .point name =>
    (store.get o.apiVersion o.kind o.ns (name.orElse (.str "")) s).outcome =
      .error fault ∧ fault.isNotFound = false
  | .set labels =>
    (store.list o.apiVersion o.kind o.ns (labels.orElse (.obj [])) s).outcome =
      .error fault

theorem observeOne_refused {store : ObjectStore σ} (source : Source) {o : Observable}
    {w : World σ ω} {fault : Fault} (h : Refused store o w.store fault) :
    ((observeOne store source o).run w).1 = .error fault := by
  unfold Refused at h
  unfold observeOne
  cases ht : o.target with
  | point name =>
      rw [ht] at h
      obtain ⟨hget, hpresent⟩ := h
      simp only [Attempt.run_bind, Attempt.run_outcome, Step.run_request, hget,
        hpresent, Bool.false_eq_true, if_false, Attempt.run_fail]
  | set labels =>
      rw [ht] at h
      simp only [Attempt.run_bind, Step.run_request, h]

/-- One lookup that is refused is enough, after any number of others. -/
theorem observe_refused {store : ObjectStore σ} (source : Source)
    {before after : List Observable} {o : Observable} {w w' : World σ ω} {bag : Bag}
    {fault : Fault} (hbefore : (observe store source before).run w = (.ok bag, w'))
    (h : Refused store o w'.store fault) :
    ((observe store source (before ++ o :: after)).run w).1 = .error fault := by
  induction before generalizing w bag with
  | nil =>
      obtain ⟨-, rfl⟩ := Prod.mk.inj hbefore
      have hone := observeOne_refused source h
      simp only [List.nil_append, observe, Attempt.run_bind]
      split
      · next bodies w₁ hrun =>
          rw [hrun] at hone
          cases hone
      · next e w₁ hrun =>
          rw [hrun] at hone
          exact congrArg Except.error (Except.error.inj hone)
  | cons first rest ih =>
      simp only [observe, List.cons_append, Attempt.run_bind] at hbefore ⊢
      rcases hfirst : (observeOne store source first).run w with ⟨e | bodies, w₁⟩
      · rw [hfirst] at hbefore
        cases hbefore
      · simp only [hfirst] at hbefore ⊢
        rcases hrest : (observe store source rest).run w₁ with ⟨e | others, w₂⟩
        · rw [hrest] at hbefore
          cases hbefore
        · rw [hrest] at hbefore
          obtain ⟨-, rfl⟩ := Prod.mk.inj hbefore
          have hone := ih hrest
          split
          · next others' w₃ hrun =>
              rw [hrun] at hone
              cases hone
          · next e w₃ hrun =>
              rw [hrun] at hone
              exact hone

/-! ## Reads that are answered -/

/-- The store gives an object to a lookup. -/
def Gives (store : ObjectStore σ) (o : Observable) (s : σ) (body : Value) : Prop :=
  match o.target with
  | .point name =>
    (store.get o.apiVersion o.kind o.ns (name.orElse (.str "")) s).outcome = .ok body
  | .set labels =>
    ∃ bodies, (store.list o.apiVersion o.kind o.ns (labels.orElse (.obj [])) s).outcome =
      .ok bodies ∧ body ∈ bodies

theorem gives_of_observeOne {store : ObjectStore σ} {source : Source} {o : Observable}
    {w w' : World σ ω} {bodies : List Value}
    (h : (observeOne store source o).run w = (.ok bodies, w')) {body : Value}
    (hbody : body ∈ bodies) : Gives store o w.store body := by
  obtain ⟨apiVersion, kind, ns, name | labels⟩ := o
  · simp only [observeOne] at h
    obtain ⟨answer, w₁, hget, h⟩ := Attempt.ok_of_bind h
    rw [Attempt.run_outcome, Step.run_request] at hget
    have hanswer := Except.ok.inj (Prod.mk.inj hget).1
    cases answer with
    | ok found =>
        obtain ⟨text, w₂, -, h⟩ := Attempt.ok_of_bind h
        obtain ⟨_, w₃, -, h⟩ := Attempt.ok_of_bind h
        obtain rfl : [found] = bodies := Except.ok.inj (Prod.mk.inj h).1
        obtain rfl := List.mem_singleton.1 hbody
        exact hanswer
    | error fault =>
        simp only [] at h
        split at h
        · obtain ⟨text, w₂, -, h⟩ := Attempt.ok_of_bind h
          obtain ⟨_, w₃, -, h⟩ := Attempt.ok_of_bind h
          obtain rfl : [] = bodies := Except.ok.inj (Prod.mk.inj h).1
          cases hbody
        · cases h
  · simp only [observeOne] at h
    obtain ⟨listed, w₁, hlist, h⟩ := Attempt.ok_of_bind h
    obtain ⟨text, w₂, -, h⟩ := Attempt.ok_of_bind h
    obtain ⟨_, w₃, -, h⟩ := Attempt.ok_of_bind h
    obtain rfl : listed = bodies := Except.ok.inj (Prod.mk.inj h).1
    exact ⟨listed, (Prod.mk.inj hlist).1, hbody⟩

/-- What is observed was given to one of the lookups, in a state that differs from
the first one only by reads. -/
theorem gives_of_mem_observe {S : σ → σ → Prop} (hS : Steady S)
    {store : ObjectStore σ} (hreads : store.ReadsKeep S) {source : Source}
    {observables : List Observable} {w w' : World σ ω} {bag : Bag}
    (h : (observe store source observables).run w = (.ok bag, w')) {c : Tagged}
    (hc : c ∈ bag) :
    ∃ o ∈ observables, ∃ s, S w.store s ∧ Gives store o s c.object := by
  induction observables generalizing w w' bag with
  | nil =>
      cases h
      cases hc
  | cons o rest ih =>
      rw [observe] at h
      obtain ⟨bodies, w₁, hone, h⟩ := Attempt.ok_of_bind h
      obtain ⟨others, w₂, hrest, h⟩ := Attempt.ok_of_bind h
      obtain rfl : bodies.map Tagged.managed ++ others = bag :=
        Except.ok.inj (Prod.mk.inj h).1
      rcases List.mem_append.1 hc with hc | hc
      · obtain ⟨body, hbody, rfl⟩ := List.mem_map.1 hc
        exact ⟨o, List.mem_cons_self, w.store, hS.refl _, gives_of_observeOne hone hbody⟩
      · have hkept := (keeps_observeOne steady_true hS hreads source o w).2
        rw [hone] at hkept
        obtain ⟨other, hother, s, hs, hgives⟩ := ih hrest hc
        exact ⟨other, List.mem_cons_of_mem _ hother, s, hS.trans hkept hs, hgives⟩

end Observation

/-- The bag of all components has not changed. -/
def World.SameBag (w w' : World σ ω) : Prop := w'.aggregated = w.aggregated

theorem steady_sameBag : Steady (World.SameBag (σ := σ) (ω := ω)) where
  refl _ := rfl
  trans h h' := Eq.trans h' h

theorem Observation.keeps_bag (store : ObjectStore σ) (source : Source)
    (observables : List Observable) :
    Attempt.Keeps (World.SameBag (ω := ω)) (observe store source observables) :=
  keeps_observe_of steady_sameBag (fun _ _ _ => rfl) (fun _ _ _ _ _ => rfl)
    (fun _ _ _ _ _ => rfl) observables

namespace Engine

/-! ## The stages -/

/-- A stage of a survey fails, and what it fails with. -/
inductive Breaks (engine : Engine σ) (component : Component ω) (mutate : Bool)
    (w : World σ ω) : Stage → Fault → Prop where
  | expected {fault : Fault} :
      ((component.expectedObjects w.aggregated).run w.desk).1 = .error fault →
      Breaks engine component mutate w .gathering fault
  | observables {expected : Bag} {desk : Desk ω} {fault : Fault} :
      (component.expectedObjects w.aggregated).run w.desk = (.ok (some expected), desk) →
      ((component.observables expected).run desk).1 = .error fault →
      Breaks engine component mutate w .observing fault
  | read {expected : Bag} {desk desk' : Desk ω} {before after : List Observable}
      {o : Observable} {bag : Bag} {w' : World σ ω} {fault : Fault} :
      (component.expectedObjects w.aggregated).run w.desk = (.ok (some expected), desk) →
      (component.observables expected).run desk = (.ok (before ++ o :: after), desk') →
      (Observation.observe engine.store engine.source before).run
        { w with desk := desk' } = (.ok bag, w') →
      Observation.Refused engine.store o w'.store fault →
      Breaks engine component mutate w .observing fault
  | mutate {expected observed : Bag} {desk desk' : Desk ω}
      {observables : List Observable} {w' : World σ ω} {fault : Fault} :
      mutate = true →
      (component.expectedObjects w.aggregated).run w.desk = (.ok (some expected), desk) →
      (component.observables expected).run desk = (.ok observables, desk') →
      (Observation.observe engine.store engine.source observables).run
        { w with desk := desk' } = (.ok observed, w') →
      ((component.mutate expected observed).run w'.desk).1 = .error fault →
      Breaks engine component mutate w .mutating fault

/-- The fault of a stage that has failed with a cause, given the message of the
cause. -/
def stageFault (component : Component ω) (stage : Stage) (cause : Fault)
    (text : String) : Fault :=
  ⟨.observation (.str stage.text) component.name text, some cause⟩

/-- The answer of a survey that ends with a stage. -/
def brokenSurvey (component : Component ω) (stage : Stage) (cause : Fault) :
    Except Fault Survey := do
  pure ⟨[], [], stage, some (stageFault component stage cause (← cause.message))⟩

theorem brokenSurvey_told (component : Component ω) (stage : Stage) {cause : Fault}
    {text : String} (h : cause.message = .ok text) :
    brokenSurvey component stage cause =
      .ok ⟨[], [], stage, some (stageFault component stage cause text)⟩ := by
  rw [brokenSurvey, h]
  rfl

theorem brokenSurvey_mute (component : Component ω) (stage : Stage) {cause e : Fault}
    (h : cause.message = .error e) : brokenSurvey component stage cause = .error e := by
  rw [brokenSurvey, h]
  rfl

theorem run_staged_ok {component : Component ω} {stage : Stage} {x : Step σ ω α}
    {next : α → Step σ ω Survey} {w w' : World σ ω} {a : α}
    (h : x.run w = (.ok a, w')) :
    (staged component stage x next).run w = (next a).run w' := by
  simp only [staged, Attempt.run_bind, Attempt.run_outcome, h]

theorem run_staged_error {component : Component ω} {stage : Stage} {x : Step σ ω α}
    {next : α → Step σ ω Survey} {w w' : World σ ω} {cause : Fault}
    (h : x.run w = (.error cause, w')) :
    (staged component stage x next).run w =
      (brokenSurvey component stage cause, w') := by
  simp only [staged, Attempt.run_bind, Attempt.run_outcome, h, Attempt.run_liftM,
    Fault.observation]
  cases hm : cause.message with
  | error e =>
      rw [brokenSurvey_mute component stage hm]
      rfl
  | ok text =>
      rw [brokenSurvey_told component stage hm]
      rfl

/-- The second stage: the component says what to look up, and it is looked up. -/
def lookUp (engine : Engine σ) (component : Component ω) (expected : Bag) :
    Step σ ω Bag := do
  let observables ← Step.call (component.observables expected)
  Observation.observe engine.store engine.source observables

theorem run_lookUp {engine : Engine σ} {component : Component ω} {expected : Bag}
    {w : World σ ω} {observables : List Observable} {desk : Desk ω}
    (h : (component.observables expected).run w.desk = (.ok observables, desk)) :
    (lookUp engine component expected).run w =
      (Observation.observe engine.store engine.source observables).run
        { w with desk } := by
  simp only [lookUp, Attempt.run_bind, Step.run_call, h]

theorem lookUp_keeps_bag (engine : Engine σ) (component : Component ω)
    (expected : Bag) :
    Attempt.Keeps World.SameBag (lookUp engine component expected) :=
  Attempt.keeps_bind steady_sameBag (fun _ => rfl)
    fun observables => Observation.keeps_bag engine.store engine.source observables

/-- A survey whose expected objects are known goes on with the lookups. -/
theorem run_survey_of_expected {engine : Engine σ} {component : Component ω}
    (mutate : Bool) {w : World σ ω} {expected : Bag} {desk : Desk ω}
    (h : (component.expectedObjects w.aggregated).run w.desk =
      (.ok (some expected), desk)) :
    (observeAndMutate engine component mutate).run w =
      (staged component .observing (lookUp engine component expected) fun observed =>
        if mutate then
          staged component .mutating (Step.call (component.mutate expected observed))
            fun mutated => pure ⟨mutated.getD [], observed, .mutating, none⟩
        else pure ⟨expected, observed, .observing, none⟩).run { w with desk } := by
  rw [observeAndMutate, Attempt.run_bind, Attempt.run_read]
  exact run_staged_ok (by rw [Step.run_call, h])

/-- Whatever the stages before have answered, the one that fails decides. -/
theorem run_survey_of_breaks {engine : Engine σ} {component : Component ω}
    {mutate : Bool} {w : World σ ω} {stage : Stage} {cause : Fault}
    (h : Breaks engine component mutate w stage cause) :
    ∃ w', (observeAndMutate engine component mutate).run w =
        (brokenSurvey component stage cause, w') ∧ w'.aggregated = w.aggregated := by
  cases h with
  | expected hexpected =>
      rw [observeAndMutate, Attempt.run_bind, Attempt.run_read]
      exact ⟨_, run_staged_error (Prod.ext hexpected rfl), rfl⟩
  | @observables expected desk _ hexpected hobservables =>
      rw [run_survey_of_expected mutate hexpected]
      have hlook : ((lookUp engine component expected).run { w with desk }).1 =
          .error cause := by
        simp only [lookUp, Attempt.run_bind, Step.run_call]
        split
        · next hrun =>
            rw [(Prod.mk.inj hrun).1] at hobservables
            cases hobservables
        · next hrun =>
            rw [(Prod.mk.inj hrun).1] at hobservables
            exact congrArg Except.error (Except.error.inj hobservables)
      exact ⟨_, run_staged_error (Prod.ext hlook rfl),
        lookUp_keeps_bag engine component expected _⟩
  | @read expected desk _ _ _ _ _ _ _ hexpected hobservables hbefore hrefused =>
      rw [run_survey_of_expected mutate hexpected]
      have hlook : ((lookUp engine component expected).run { w with desk }).1 =
          .error cause := by
        rw [run_lookUp (w := { w with desk }) hobservables]
        exact Observation.observe_refused engine.source hbefore hrefused
      exact ⟨_, run_staged_error (Prod.ext hlook rfl),
        lookUp_keeps_bag engine component expected _⟩
  | @mutate expected observed desk desk' _ w' _ hmutate hexpected hobservables hobserve
      hmutated =>
      have hlook : (lookUp engine component expected).run { w with desk } =
          (.ok observed, w') := by
        rw [run_lookUp (w := { w with desk }) hobservables]
        exact hobserve
      have hbag := lookUp_keeps_bag engine component expected { w with desk }
      rw [hlook] at hbag
      rw [run_survey_of_expected mutate hexpected, run_staged_ok hlook, if_pos hmutate]
      exact ⟨_, run_staged_error (Prod.ext hmutated rfl), hbag⟩

theorem brokenSurvey_ne_whole (component : Component ω) (stage stage' : Stage)
    (cause : Fault) (expected observed : Bag) :
    brokenSurvey component stage cause ≠ .ok ⟨expected, observed, stage', none⟩ := by
  intro h
  cases hm : cause.message with
  | error e =>
      rw [brokenSurvey_mute component stage hm] at h
      cases h
  | ok text =>
      rw [brokenSurvey_told component stage hm] at h
      cases h

/-- A stage that comes before a survey without a fault has answered. -/
theorem ok_of_staged {component : Component ω} {stage stage' : Stage} {x : Step σ ω α}
    {next : α → Step σ ω Survey} {w w' : World σ ω} {expected observed : Bag}
    (h : (staged component stage x next).run w =
      (.ok ⟨expected, observed, stage', none⟩, w')) :
    ∃ a w₁, x.run w = (.ok a, w₁) ∧
      (next a).run w₁ = (.ok ⟨expected, observed, stage', none⟩, w') := by
  rcases hx : x.run w with ⟨cause | a, w₁⟩
  · rw [run_staged_error hx] at h
    exact absurd (congrArg Prod.fst h) (brokenSurvey_ne_whole _ _ _ _ _ _)
  · rw [run_staged_ok hx] at h
    exact ⟨a, w₁, rfl, h⟩

/-- Without a fault, either nothing is known, or all stages have answered. -/
theorem cases_of_survey {engine : Engine σ} {component : Component ω} {mutate : Bool}
    {w w' : World σ ω} {stage : Stage} {expected observed : Bag}
    (h : (observeAndMutate engine component mutate).run w =
      (.ok ⟨expected, observed, stage, none⟩, w')) :
    (expected = [] ∧ observed = []) ∨
    ∃ declared desk w₁,
      (component.expectedObjects w.aggregated).run w.desk = (.ok (some declared), desk) ∧
      (lookUp engine component declared).run { w with desk } = (.ok observed, w₁) ∧
      if mutate then
        ∃ mutated, ((component.mutate declared observed).run w₁.desk).1 = .ok mutated ∧
          expected = mutated.getD []
      else expected = declared := by
  rw [observeAndMutate, Attempt.run_bind, Attempt.run_read] at h
  obtain ⟨known, w₀, hknown, hnext⟩ := ok_of_staged h
  cases known with
  | none =>
      left
      cases (Prod.mk.inj hnext).1
      exact ⟨rfl, rfl⟩
  | some declared =>
      right
      rw [Step.run_call] at hknown
      obtain ⟨hanswer, hworld⟩ := Prod.mk.inj hknown
      have hdeclared : (component.expectedObjects w.aggregated).run w.desk =
          (.ok (some declared), w₀.desk) :=
        Prod.ext hanswer (congrArg World.desk hworld)
      rw [hdeclared] at hworld
      obtain ⟨observed', w₁, hlook, hrest⟩ := ok_of_staged hnext
      rw [← hworld] at hlook
      cases mutate with
      | false =>
          cases (Prod.mk.inj hrest).1
          exact ⟨_, w₀.desk, w₁, hdeclared, hlook, rfl⟩
      | true =>
          obtain ⟨mutated, w₂, hmutated, hlast⟩ := ok_of_staged hrest
          cases (Prod.mk.inj hlast).1
          exact ⟨_, w₀.desk, w₁, hdeclared, hlook, mutated,
            congrArg Prod.fst hmutated, rfl⟩

/-! ## What follows from the survey -/

/-- The world in which a run of a component makes its survey. -/
def opened (engine : Engine σ) (w : World σ ω) : World σ ω :=
  { w with log := w.log ++ [⟨some engine.source, .opened .reconciling⟩] }

/-- The component is told of the fault of the stage, which is raised unless the
component itself fails. -/
theorem run_reconcile_of_broken {engine : Engine σ} {component : Component ω}
    {w w' : World σ ω} {stage : Stage} {cause : Fault} {text : String}
    (hsurvey : (observeAndMutate engine component true).run (opened engine w) =
      (brokenSurvey component stage cause, w'))
    (htext : cause.message = .ok text) :
    let whole : Fault := .of (.aggregate [stageFault component stage cause text])
    let told := (component.updateStatus [] (some whole)).run w'.desk
    ∃ log, (reconcileComponent engine component).run w =
      (told.1 >>= fun _ => .error whole, ⟨w'.store, told.2, w'.aggregated, log⟩) := by
  intro whole told
  have hagg : Fault.aggregate? [stageFault component stage cause text] =
      .ok (some whole) := rfl
  have hrun : (observeAndMutate engine component true).run
      { w with log := w.log ++ [⟨some engine.source, .opened .reconciling⟩] } =
      (.ok ⟨[], [], stage, some (stageFault component stage cause text)⟩, w') := by
    rw [← brokenSurvey_told component stage htext]
    exact hsurvey
  have hcause : (some (stageFault component stage cause text)).bind Fault.cause =
      some cause := rfl
  simp only [reconcileComponent, Attempt.run_bind, Attempt.run_ensuring,
    Step.run_report, hrun, writeSurveyed, reportStage, hcause, htext,
    Attempt.run_liftM, Attempt.run_pure, Tally.empty, Tally.failed, List.nil_append,
    hagg, Step.run_call]
  show ∃ log, _ = (told.1 >>= fun _ => _, _)
  rcases hu : (component.updateStatus [] (some whole)).run w'.desk with ⟨e | _, desk⟩
  · have htold : told = (.error e, desk) := hu
    rw [htold]
    exact ⟨_, rfl⟩
  · have htold : told = (.ok (), desk) := hu
    rw [htold]
    exact ⟨_, rfl⟩

/-- No fault can be made of a cause without a message, so the component is not
told. -/
theorem run_reconcile_of_mute {engine : Engine σ} {component : Component ω}
    {w w' : World σ ω} {stage : Stage} {cause e : Fault}
    (hsurvey : (observeAndMutate engine component true).run (opened engine w) =
      (brokenSurvey component stage cause, w'))
    (hmute : cause.message = .error e) :
    ∃ log, (reconcileComponent engine component).run w =
      (.error e, { w' with log }) := by
  have hrun : (observeAndMutate engine component true).run
      { w with log := w.log ++ [⟨some engine.source, .opened .reconciling⟩] } =
      (.error e, w') := by
    rw [← brokenSurvey_mute component stage hmute]
    exact hsurvey
  simp only [reconcileComponent, Attempt.run_bind, Attempt.run_ensuring,
    Step.run_report, hrun]
  exact ⟨_, rfl⟩

theorem run_survey_of_unknown (engine : Engine σ) {component : Component ω}
    (mutate : Bool) {w : World σ ω} {desk : Desk ω}
    (h : (component.expectedObjects w.aggregated).run w.desk = (.ok none, desk)) :
    (observeAndMutate engine component mutate).run w =
      (.ok ⟨[], [], .gathering, none⟩, { w with desk }) := by
  rw [observeAndMutate, Attempt.run_bind, Attempt.run_read]
  exact run_staged_ok (by rw [Step.run_call, h])

/-- Where nothing is known, the component is told that all is well. -/
theorem run_reconcile_of_unknown (engine : Engine σ) {component : Component ω}
    {w : World σ ω} {desk : Desk ω}
    (h : (component.expectedObjects w.aggregated).run w.desk = (.ok none, desk)) :
    let told := (component.updateStatus [] none).run desk
    ∃ log, (reconcileComponent engine component).run w =
      (told.1, ⟨w.store, told.2, w.aggregated, log⟩) := by
  intro told
  have hrun : (observeAndMutate engine component true).run
      { w with log := w.log ++ [⟨some engine.source, .opened .reconciling⟩] } = _ :=
    run_survey_of_unknown engine true h
  have hagg : Fault.aggregate? [] = .ok none := rfl
  simp only [reconcileComponent, Attempt.run_bind, Attempt.run_ensuring,
    Step.run_report, hrun, writeSurveyed, Attempt.run_read, Step.run_aggregate, stamp,
    reportObserved, writeExpected, deleteUnexpected, Attempt.run_pure,
    List.append_nil, Tally.empty, hagg, Attempt.run_liftM, Step.run_call]
  show ∃ log, _ = (told.1, _)
  rcases hu : (component.updateStatus [] none).run desk with ⟨e | _, desk'⟩
  · have htold : told = (.error e, desk') := hu
    rw [htold]
    exact ⟨_, rfl⟩
  · have htold : told = (.ok (), desk') := hu
    rw [htold]
    exact ⟨_, rfl⟩

end Engine

/-! ## The calls of the status update -/

/-- What an application keeps, beside what the status update of a component was
called with. -/
structure Noted (ω : Type) where
  app : ω
  told : List (List Value × Option Fault)

/-- The same callback beside the list of the calls. -/
def Hook.noted (hook : Hook ω α) : Hook (Noted ω) α :=
  Attempt.within
    (fun desk => ⟨desk.resource, desk.status, desk.app.app⟩)
    (fun desk whole => ⟨desk.resource, desk.status, ⟨desk.app, whole.app.told⟩⟩)
    hook

/-- The component with a list of the calls of its status update. -/
def Component.noted (component : Component ω) : Component (Noted ω) where
  name := component.name
  labels := component.labels
  owners := component.owners
  expectedObjects bag := Hook.noted (component.expectedObjects bag)
  observables bag := Hook.noted (component.observables bag)
  mutate expected observed := Hook.noted (component.mutate expected observed)
  differs a b := Hook.noted (component.differs a b)
  comparable body fields := Hook.noted (component.comparable body fields)
  finalize bag := Hook.noted (component.finalize bag)
  updateStatus live fault := do
    Attempt.modify fun desk =>
      { desk with app := { desk.app with told := desk.app.told ++ [(live, fault)] } }
    Hook.noted (component.updateStatus live fault)

/-- The component has not been told anything between two desks. -/
def Untold (desk desk' : Desk (Noted ω)) : Prop := desk'.app.told = desk.app.told

theorem steady_untold : Steady (Untold (ω := ω)) where
  refl _ := rfl
  trans h h' := Eq.trans h' h

namespace Engine

/-- A survey asks for reads alone, and does not tell the component anything. -/
theorem keeps_survey_noted (engine : Engine σ) (component : Component ω)
    (mutate : Bool) :
    Attempt.Keeps (World.Related Untold Recorded.OnlyRead)
      (observeAndMutate engine.recorded component.noted mutate) := by
  -- of the status update nothing is asked, so any other does as well
  let silent := { component.noted with updateStatus := fun _ _ => pure () }
  have hsilent : silent.Keeps Untold :=
    ⟨fun _ _ => rfl, fun _ _ => rfl, fun _ _ _ => rfl, fun _ _ _ => rfl,
      fun _ _ _ => rfl, fun _ _ => rfl, fun _ _ _ => rfl⟩
  exact keeps_observeAndMutate steady_untold steady_onlyRead engine.recorded_readsKeep
    hsilent mutate

/-- A stage that fails, at whatever point, makes the survey empty but for its
fault. The run that follows writes nothing and leaves the bag of all components
alone; it tells the component once, and raises the fault of the stage unless the
component fails. Without a message of the cause, the fault of asking for it is
raised, and the component is not told. Where nothing is known, nothing is asked of
the store, and there is no fault. -/
theorem incomplete_survey_writes_nothing (engine : Engine σ) (component : Component ω)
    (w : World (Recorded σ) (Noted ω)) :
    (∀ mutate stage cause text,
      Breaks engine.recorded component.noted mutate w stage cause →
      cause.message = .ok text →
      ((observeAndMutate engine.recorded component.noted mutate).run w).1 =
        .ok ⟨[], [], stage,
          some ⟨.observation (.str stage.text) component.name text, some cause⟩⟩) ∧
    (∀ stage cause,
      Breaks engine.recorded component.noted true (opened engine.recorded w) stage
        cause →
      let survey := (observeAndMutate engine.recorded component.noted true).run
        (opened engine.recorded w)
      let run := (reconcileComponent engine.recorded component.noted).run w
      run.2.store.attempts = w.store.attempts ∧ run.2.aggregated = w.aggregated ∧
      (∀ text, cause.message = .ok text →
        let whole : Fault := .of (.aggregate
          [⟨.observation (.str stage.text) component.name text, some cause⟩])
        let call := (component.noted.updateStatus [] (some whole)).run survey.2.desk
        run.2.desk.app.told = w.desk.app.told ++ [([], some whole)] ∧
        run.2.desk = call.2 ∧ run.1 = call.1 >>= fun _ => .error whole) ∧
      (∀ e, cause.message = .error e →
        run.1 = .error e ∧ run.2.desk.app.told = w.desk.app.told)) ∧
    (((component.noted.expectedObjects w.aggregated).run w.desk).1 = .ok none →
      (∀ mutate,
        let survey := (observeAndMutate engine.recorded component.noted mutate).run w
        survey.1 = .ok ⟨[], [], .gathering, none⟩ ∧
        survey.2.store.events = w.store.events) ∧
      let gathered := (component.noted.expectedObjects w.aggregated).run w.desk
      let call := (component.noted.updateStatus [] none).run gathered.2
      let run := (reconcileComponent engine.recorded component.noted).run w
      run.2.store.events = w.store.events ∧ run.2.aggregated = w.aggregated ∧
      run.2.desk.app.told = w.desk.app.told ++ [([], none)] ∧
      run.2.desk = call.2 ∧ run.1 = call.1) := by
  refine ⟨?_, ?_, ?_⟩
  · intro mutate stage cause text hbreaks htext
    obtain ⟨w', hsurvey, -⟩ := run_survey_of_breaks hbreaks
    rw [hsurvey, brokenSurvey_told _ _ htext]
    rfl
  · intro stage cause hbreaks survey run
    obtain ⟨w', hsurvey, hbag⟩ := run_survey_of_breaks hbreaks
    have hdesk : survey.2 = w' := congrArg Prod.snd hsurvey
    obtain ⟨huntold, hreads⟩ :=
      keeps_survey_noted engine component true (opened engine.recorded w)
    rw [hsurvey] at huntold hreads
    have hattempts : w'.store.attempts = w.store.attempts := hreads.attempts_eq
    have htold : w'.desk.app.told = w.desk.app.told := huntold
    have hbag' : w'.aggregated = w.aggregated := hbag
    cases hm : cause.message with
    | error e =>
        obtain ⟨log, hrun⟩ := run_reconcile_of_mute hsurvey hm
        have hrun' : run = (.error e, { w' with log }) := hrun
        rw [hrun']
        refine ⟨hattempts, hbag', ?_, ?_⟩
        · intro text htext
          cases htext
        · intro e' he
          cases he
          exact ⟨rfl, htold⟩
    | ok text =>
        obtain ⟨log, hrun⟩ := run_reconcile_of_broken hsurvey hm
        have hrun' : run = _ := hrun
        rw [hrun', hdesk]
        refine ⟨hattempts, hbag', ?_, ?_⟩
        · intro text' htext
          cases htext
          refine ⟨?_, rfl, rfl⟩
          rw [← htold]
          rfl
        · intro e he
          cases he
  · intro hunknown
    have hknown : (component.noted.expectedObjects w.aggregated).run w.desk =
        (.ok none, _) := Prod.ext hunknown rfl
    refine ⟨?_, ?_⟩
    · intro mutate survey
      have hsurvey : survey = _ := run_survey_of_unknown engine.recorded mutate hknown
      rw [hsurvey]
      exact ⟨rfl, rfl⟩
    · intro gathered call run
      obtain ⟨log, hrun⟩ := run_reconcile_of_unknown engine.recorded hknown
      have hrun' : run = _ := hrun
      rw [hrun']
      exact ⟨rfl, rfl, rfl, rfl, rfl⟩

/-! ## A list that is refused after a lookup that was not

One pod is expected. It is looked up, and then all pods are listed, which the
store does not find to be possible. -/

def pointAt (name : String) : Observable :=
  ⟨.str "v1", .str "Pod", .null, .point (.str name)⟩

def everyPod : Observable := ⟨.str "v1", .str "Pod", .null, .set (.obj [])⟩

/-- An empty store without a list of pods. -/
def listless : MemoryStore :=
  { MemoryStore.empty with
    failures := [((.list, podIdentity ""), MemoryStore.notFound (podIdentity ""))] }

/-- A component that expects a pod, and looks up that and all others. -/
def surveyingPods : Component Unit :=
  { expecting [.managed (pod "p")] with
    observables := fun _ => pure [pointAt "p", everyPod] }

/-- The world before a run that takes note of what a component is told. -/
def startNoted (store : MemoryStore) : World (Recorded MemoryStore) (Noted Unit) :=
  ⟨⟨store, []⟩, ⟨.obj [], .obj [], ⟨(), []⟩⟩, [], []⟩

theorem nothing_written_after_refused_list :
    let run := (reconcileComponent inMemory.recorded surveyingPods.noted).run
      (startNoted listless)
    run.2.store.attempts = [] ∧ ∃ whole, run.1 = .error whole ∧
      run.2.desk.app.told = [([], some whole)] := by
  have hlookups : (surveyingPods.noted.observables [.managed (pod "p")]).run
      (startNoted listless).desk =
      (.ok ([pointAt "p"] ++ everyPod :: []), (startNoted listless).desk) := rfl
  have hbreaks : Breaks inMemory.recorded surveyingPods.noted true
      (opened inMemory.recorded (startNoted listless)) .observing
      (MemoryStore.notFound (podIdentity "")) := .read rfl hlookups rfl rfl
  obtain ⟨-, hbroken, -⟩ :=
    incomplete_survey_writes_nothing inMemory surveyingPods (startNoted listless)
  obtain ⟨hattempts, -, htold, -⟩ := hbroken _ _ hbreaks
  obtain ⟨hcalls, -, hraised⟩ := htold _ rfl
  exact ⟨hattempts, _, hraised, hcalls⟩

/-- A component that fails to say what it expects. -/
def failing (fault : Fault) : Component Unit :=
  { Component.plain (.str "c") [] [] with expectedObjects := fun _ => Attempt.fail fault }

/-- The first stage fails with a fault that has no message, and the survey has no
answer. -/
theorem survey_lost_to_mute_fault :
    Breaks inMemory.recorded (failing mute).noted true (startNoted MemoryStore.empty)
      .gathering mute ∧
    ∀ survey, ((observeAndMutate inMemory.recorded (failing mute).noted true).run
      (startNoted MemoryStore.empty)).1 ≠ .ok survey := by
  refine ⟨.expected rfl, ?_⟩
  intro survey h
  cases h

end Engine

end OperatorCore
