import OperatorCore.Proofs.Engine.Finalization
import OperatorCore.Proofs.Engine.Turns

/-!
# The components of a pass beside each other

The components of a pass share two things: the bag of what the earlier ones expect,
which each is asked with, and the verdict, to which each contributes its faults. The bag
grows by what a component declares, as soon as its survey is complete. What is done
about the objects later puts their owners and their versions into the bag as well, and
so it is the identities and the lifecycles by which the bag is compared. The faults are
collected from all turns, without the aggregates around them.

The bag that each component was asked with, and the fault that the status was updated
with, are seen by a twin of the handle that takes notes of them. There is one way for
the fault of a component to be of consequence to all: if it has no message, it cannot be
put into an aggregate, and then there is no verdict, and the status is left alone.
-/

namespace OperatorCore

variable {σ ω α : Type}

namespace Engine

/-! ## What a component adds to the bag of all components -/

theorem survey_keeps_bag (engine : Engine σ) (component : Component ω) (mutate : Bool) :
    Attempt.Keeps World.SameBag (observeAndMutate engine component mutate) :=
  keeps_observeAndMutate_of steady_sameBag (fun _ _ _ => rfl) (fun _ _ _ _ _ => rfl)
    (fun _ _ _ _ _ => rfl) (fun _ _ => rfl) (fun _ _ => rfl) (fun _ _ _ => rfl) mutate

theorem yields_staged {Q : Survey → Prop} {component : Component ω} {stage : Stage}
    {x : Step σ ω α} {next : α → Step σ ω Survey}
    (hbroken : ∀ failure, Q ⟨[], [], stage, some failure⟩)
    (hnext : ∀ a, Attempt.Yields Q (next a)) :
    Attempt.Yields Q (staged component stage x next) := by
  refine Attempt.yields_after fun answer => ?_
  cases answer with
  | ok a => exact hnext a
  | error fault =>
      exact Attempt.yields_after fun failure => Attempt.yields_pure (hbroken failure)

/-- A survey that fails expects nothing. -/
theorem yields_survey (engine : Engine σ) (component : Component ω) (mutate : Bool) :
    Attempt.Yields (fun survey => survey.fault = none ∨ survey.expected = [])
      (observeAndMutate engine component mutate) := by
  refine Attempt.yields_after fun aggregated => yields_staged (fun _ => .inr rfl) ?_
  intro known
  cases known with
  | none => exact Attempt.yields_pure (.inl rfl)
  | some declared =>
      refine yields_staged (fun _ => .inr rfl) ?_
      intro observed
      split
      · exact yields_staged (fun _ => .inr rfl) fun _ => Attempt.yields_pure (.inl rfl)
      · exact Attempt.yields_pure (.inl rfl)

/-- What a component declares: what it expects, if its survey is complete. -/
def declared (engine : Engine σ) (component : Component ω) (mutate : Bool)
    (w : World σ ω) : Bag :=
  match ((observeAndMutate engine component mutate).run w).1 with
  | .ok survey => if survey.fault.isNone then survey.expected else []
  | .error _ => []

theorem declared_of_survey {engine : Engine σ} {component : Component ω} {mutate : Bool}
    {w w' : World σ ω} {survey : Survey}
    (h : (observeAndMutate engine component mutate).run w = (.ok survey, w')) :
    declared engine component mutate w = survey.expected := by
  rw [declared, h]
  rcases yields_survey engine component mutate w w' survey h with hfault | hexpected
  · simp only [hfault, Option.isNone_none, if_true]
  · simp only [hexpected, ite_self]

theorem declared_of_error {engine : Engine σ} {component : Component ω} {mutate : Bool}
    {w w' : World σ ω} {e : Fault}
    (h : (observeAndMutate engine component mutate).run w = (.error e, w')) :
    declared engine component mutate w = [] := by
  rw [declared, h]

end Engine

def World.Holds (entries : List (Except Fault Identity × Lifecycle)) (w : World σ ω) :
    Prop :=
  w.aggregated.entries = entries

namespace Engine

theorem settles_holds (engine : Engine σ) (component : Component ω)
    (entries : List (Except Fault Identity × Lifecycle)) :
    Settles engine component (Inherits (World.Holds entries)) where
  report _ _ h := h
  comparable _ _ _ h := h
  differs _ _ _ h := h
  create _ _ h := h
  update _ _ h := h
  delete _ _ h := h

theorem rebags_holds (entries : List (Except Fault Identity × Lifecycle)) :
    Rebags (Inherits (World.Holds (σ := σ) (ω := ω) entries)) entries :=
  fun _ hbag _ _ => hbag

/-- Whatever becomes of the writes, the bag has grown by what is expected. -/
theorem entries_writeSurveyed (engine : Engine σ) (component : Component ω)
    {survey : Survey} (hsurvey : survey.fault = none ∨ survey.expected = [])
    (w : World σ ω) :
    ((writeSurveyed engine component survey).run w).2.Holds
      (w.aggregated ++ survey.expected).entries := by
  have hR := steady_inherits (World.Holds (σ := σ) (ω := ω)
    (w.aggregated ++ survey.expected).entries)
  have hmoves := (settles_holds engine component
    (w.aggregated ++ survey.expected).entries).moves hR
  cases hfault : survey.fault with
  | some fault =>
      have hexpected : survey.expected = [] :=
        hsurvey.resolve_left (by simp [hfault])
      rw [writeSurveyed, hfault]
      refine Attempt.holds_bind (keeps_reportStage hR hmoves.report survey w ?_) ?_
      · rw [World.Holds, hexpected, List.append_nil]
      · intro _
        exact Attempt.keeps_pure hR _
  | none =>
      -- the entries are set first, and kept by all that follows
      rw [writeSurveyed_eq engine component hfault]
      exact keeps_settle hR hmoves (rebags_holds _)
        { w with aggregated := w.aggregated ++ survey.expected } rfl

/-- The bag grows by what is declared if it grows behind the survey by what that
expects. -/
theorem entries_behind_survey {engine : Engine σ} {component : Component ω}
    {mutate : Bool} {rest : Survey → Step σ ω Unit}
    (hrest : ∀ survey w, survey.fault = none ∨ survey.expected = [] →
      ((rest survey).run w).2.Holds (w.aggregated ++ survey.expected).entries)
    (w : World σ ω) :
    ((observeAndMutate engine component mutate >>= rest).run w).2.Holds
      (w.aggregated ++ declared engine component mutate w).entries := by
  have hbag := survey_keeps_bag engine component mutate w
  rcases hsurvey : (observeAndMutate engine component mutate).run w with ⟨e | survey, w₁⟩
  · rw [hsurvey] at hbag
    rw [Attempt.run_bind_error hsurvey, declared_of_error hsurvey, List.append_nil]
    exact congrArg Bag.entries hbag
  · rw [hsurvey] at hbag
    rw [Attempt.run_bind_ok hsurvey, declared_of_survey hsurvey,
      ← show w₁.aggregated = w.aggregated from hbag]
    exact hrest survey w₁ (yields_survey engine component mutate w w₁ survey hsurvey)

theorem entries_reconcileComponent (engine : Engine σ) (component : Component ω)
    (w : World σ ω) :
    ((reconcileComponent engine component).run w).2.Holds
      (w.aggregated ++ declared engine component true (opened engine w)).entries := by
  rw [reconcileComponent_eq]
  refine Attempt.holds_ensuring (s := opened engine w)
    (entries_behind_survey ?_ (opened engine w)) (fun _ h => h)
  intro survey w₁ hsurvey
  refine Attempt.holds_bind (entries_writeSurveyed engine component hsurvey w₁) ?_
  intro tally
  exact keeps_tell (steady_inherits _) (fun _ _ _ h => h) tally

theorem entries_cleanUp (engine : Engine σ) (component : Component ω) (survey : Survey)
    (w : World σ ω) :
    ((cleanUp engine component survey).run w).2.Holds
      (w.aggregated ++ survey.expected).entries := by
  rw [cleanUp_eq]
  exact keeps_finish (steady_inherits _) (fun _ _ h => h) (fun _ _ h => h) survey
    { w with aggregated := w.aggregated ++ survey.expected } rfl

theorem entries_finalizeComponent (engine : Engine σ) (component : Component ω)
    (w : World σ ω) :
    let w₀ := { w with log := w.log ++ [⟨some engine.source, .opened .finalizing⟩] }
    ((finalizeComponent engine component).run w).2.Holds
      (w.aggregated ++ declared engine component false w₀).entries := by
  intro w₀
  rw [finalizeComponent_eq]
  refine Attempt.holds_ensuring (s := w₀) (entries_behind_survey ?_ w₀) (fun _ h => h)
  intro survey w₁ hsurvey
  split
  · next hfault =>
      -- a survey that has failed is reported, and adds nothing
      have hexpected : survey.expected = [] :=
        hsurvey.resolve_left (Option.isSome_iff_ne_none.1 hfault)
      rw [hexpected, List.append_nil]
      refine Attempt.holds_bind (keeps_reportStage (steady_inherits _)
        (fun _ _ _ h => h) survey w₁ rfl) ?_
      intro _ w₂ hheld
      have hcleaned := entries_cleanUp engine component survey w₂
      rw [hexpected, List.append_nil] at hcleaned
      exact hcleaned.trans hheld
  · exact entries_cleanUp engine component survey w₁

end Engine

namespace Turn

/-- What the component declares in its turn, mutated unless the resource is being
deleted. -/
def declared (engine : Engine σ) (deleting : Bool) (turn : Turn σ ω) : Bag :=
  let source := engine.source.forComponent turn.component.name
  let activity := if deleting then .finalizing else .reconciling
  Engine.declared { engine with source } turn.component (!deleting)
    { turn.world with log := turn.world.log ++ [⟨some source, .opened activity⟩] }

/-- Whatever the component fails with later. -/
theorem entries_run (engine : Engine σ) (deleting : Bool) (turn : Turn σ ω) :
    (turn.run engine deleting).2.aggregated.entries =
      turn.world.aggregated.entries ++ (turn.declared engine deleting).entries := by
  rw [← Bag.entries_append]
  cases deleting with
  | true => exact Engine.entries_finalizeComponent _ turn.component turn.world
  | false => exact Engine.entries_reconcileComponent _ turn.component turn.world

end Turn

/-! ## Notes of what is shared -/

/-- A call of a callback that is given something of all components. -/
inductive Note where
  /-- A component is asked for its expected objects, with those of the components
  before. -/
  | asked (name : Value) (given : Bag)
  /-- The status is updated with the fault of the pass. -/
  | concluded (fault : Option Fault)

structure Minuted (ω : Type) where
  app : ω
  notes : List Note

def Desk.minuted (desk : Desk ω) (notes : List Note) : Desk (Minuted ω) :=
  ⟨desk.resource, desk.status, ⟨desk.app, notes⟩⟩

/-- The world with an application that has no notes yet. -/
def World.minuted (w : World σ ω) : World σ (Minuted ω) :=
  ⟨w.store, w.desk.minuted [], w.aggregated, w.log⟩

def Hook.minuted (hook : Hook ω α) : Hook (Minuted ω) α :=
  Attempt.within
    (fun desk => ⟨desk.resource, desk.status, desk.app.app⟩)
    (fun desk whole => desk.minuted whole.app.notes)
    hook

theorem run_minuted (hook : Hook ω α) (desk : Desk ω) (notes : List Note) :
    (Hook.minuted hook).run (desk.minuted notes) =
      ((hook.run desk).1, (hook.run desk).2.minuted notes) := rfl

def Note.take (note : Note) : Hook (Minuted ω) Unit :=
  Attempt.modify fun desk =>
    { desk with app := { desk.app with notes := desk.app.notes ++ [note] } }

/-- The component with notes of what it is asked with. -/
def Component.minuted (component : Component ω) : Component (Minuted ω) where
  name := component.name
  labels := component.labels
  owners := component.owners
  expectedObjects bag := do
    Note.take (.asked component.name bag)
    Hook.minuted (component.expectedObjects bag)
  observables bag := Hook.minuted (component.observables bag)
  mutate expected observed := Hook.minuted (component.mutate expected observed)
  differs a b := Hook.minuted (component.differs a b)
  comparable body fields := Hook.minuted (component.comparable body fields)
  finalize bag := Hook.minuted (component.finalize bag)
  updateStatus live fault := Hook.minuted (component.updateStatus live fault)

/-- The handle with notes of what its components are asked with, and of what the status
is updated with. -/
def Handle.minuted (handle : Handle ω) : Handle (Minuted ω) where
  title := handle.title
  apiVersion := handle.apiVersion
  kind := handle.kind
  validate := Hook.minuted handle.validate
  applyDefaults := Hook.minuted handle.applyDefaults
  newStatus := Hook.minuted handle.newStatus
  components := do
    let components ← Hook.minuted handle.components
    pure (components.map Component.minuted)
  updateStatus fault := do
    Note.take (.concluded fault)
    Hook.minuted (handle.updateStatus fault)

def Unminuted (desk desk' : Desk (Minuted ω)) : Prop := desk'.app.notes = desk.app.notes

theorem steady_unminuted : Steady (Unminuted (ω := ω)) where
  refl _ := rfl
  trans h h' := Eq.trans h' h

namespace Engine

theorem notes_survey (engine : Engine σ) (component : Component ω) (mutate : Bool)
    (w : World σ (Minuted ω)) :
    ((observeAndMutate engine component.minuted mutate).run w).2.desk.app.notes =
      w.desk.app.notes ++ [.asked component.name w.aggregated] := by
  -- once the note has been taken, the survey is that of a component which takes none
  let silent : Component (Minuted ω) := { component.minuted with
    expectedObjects := fun bag => Hook.minuted (component.expectedObjects bag) }
  have hsilent : silent.Keeps Unminuted :=
    ⟨fun _ _ => rfl, fun _ _ => rfl, fun _ _ _ => rfl, fun _ _ _ => rfl,
      fun _ _ _ => rfl, fun _ _ => rfl, fun _ _ _ => rfl⟩
  have hrun : (observeAndMutate engine component.minuted mutate).run w =
      (observeAndMutate engine silent mutate).run { w with
        desk := ((Note.take (.asked component.name w.aggregated)).run w.desk).2 } := rfl
  rw [hrun]
  exact (keeps_observeAndMutate steady_unminuted steady_true
    engine.store.keeps_true.toReadsKeep hsilent mutate _).1

end Engine

def World.Noting (notes : List Note) (w : World σ (Minuted ω)) : Prop :=
  w.desk.app.notes = notes

namespace Engine

theorem settles_noting (engine : Engine σ) (component : Component ω) (notes : List Note) :
    Settles engine component.minuted (Inherits (World.Noting notes)) where
  report _ _ h := h
  comparable _ _ _ h := h
  differs _ _ _ h := h
  create _ _ h := h
  update _ _ h := h
  delete _ _ h := h

theorem notes_reconcileComponent (engine : Engine σ) (component : Component ω)
    (w : World σ (Minuted ω)) :
    ((reconcileComponent engine component.minuted).run w).2.Noting
      (w.desk.app.notes ++ [.asked component.name w.aggregated]) := by
  have hR := steady_inherits (World.Noting (σ := σ) (ω := ω)
    (w.desk.app.notes ++ [.asked component.name w.aggregated]))
  rw [reconcileComponent_eq]
  refine Attempt.holds_ensuring (s := opened engine w) ?_ (fun _ h => h)
  refine Attempt.holds_bind (notes_survey engine component true (opened engine w)) ?_
  intro survey
  refine Attempt.keeps_bind hR (keeps_writeSurveyed hR
    ((settles_noting engine component _).moves hR) (fun _ _ _ _ h => h) survey) ?_
  intro tally
  refine keeps_tell hR ?_ tally
  exact fun _ _ _ h => h

theorem notes_finalizeComponent (engine : Engine σ) (component : Component ω)
    (w : World σ (Minuted ω)) :
    ((finalizeComponent engine component.minuted).run w).2.Noting
      (w.desk.app.notes ++ [.asked component.name w.aggregated]) := by
  have hR := steady_inherits (World.Noting (σ := σ) (ω := ω)
    (w.desk.app.notes ++ [.asked component.name w.aggregated]))
  let w₀ : World σ (Minuted ω) :=
    { w with log := w.log ++ [⟨some engine.source, .opened .finalizing⟩] }
  rw [finalizeComponent_eq]
  refine Attempt.holds_ensuring (s := w₀) ?_ (fun _ h => h)
  refine Attempt.holds_bind (notes_survey engine component false w₀) ?_
  intro survey
  refine Attempt.keeps_unless hR (keeps_reportStage hR (fun _ _ _ h => h) survey) ?_
  refine keeps_cleanUp hR (fun _ _ h => h) ?_ (fun _ _ _ _ h => h) survey
  exact fun _ _ h => h

/-- So a component is asked once in its turn. -/
theorem notes_attend (engine : Engine σ) (deleting : Bool) (component : Component ω)
    (w : World σ (Minuted ω)) :
    ((attend engine deleting component.minuted).run w).2.desk.app.notes =
      w.desk.app.notes ++ [.asked component.name w.aggregated] := by
  cases deleting with
  | true => exact notes_finalizeComponent _ component w
  | false => exact notes_reconcileComponent _ component w

end Engine

/-- The note that is taken in a turn. -/
def Turn.asking (turn : Turn σ ω) : Note :=
  .asked turn.component.name turn.world.aggregated

namespace Engine

/-- The individual faults that components have failed with in their turns, without the
aggregates around them. -/
def failures (engine : Engine σ) (deleting : Bool) (turns : List (Turn σ ω)) :
    List Fault :=
  (turns.filterMap (Turn.fault? engine deleting)).flatMap Fault.parts

theorem notes_processEach (engine : Engine σ) (deleting : Bool)
    (components : List (Component ω)) (w : World σ (Minuted ω)) :
    let parts := components.map Component.minuted
    ((processEach engine deleting parts).run w).2.desk.app.notes =
      w.desk.app.notes ++ (turns engine deleting parts w).map Turn.asking := by
  intro parts
  have hturn : ∀ turn ∈ turns engine deleting parts w,
      (turn.run engine deleting).2.desk.app.notes =
        turn.world.desk.app.notes ++ [turn.asking] := by
    rintro ⟨own, world⟩ hturn
    have hmem : own ∈ parts := by
      rw [← turns_component engine deleting parts w]
      exact List.mem_map_of_mem hturn
    obtain ⟨component, -, rfl⟩ := List.mem_map.1 hmem
    exact notes_attend engine deleting component world
  rw [List.map_eq_flatMap (f := Turn.asking)]
  exact processEach_adds (fun w : World σ (Minuted ω) => w.desk.app.notes) hturn

/-- The twin comes as far as the components where the handle does. -/
theorem Prepares.minuted {handle : Handle ω} {desk desk' : Desk ω} {deleting : Bool}
    {components : List (Component ω)} (h : Prepares handle desk deleting components desk')
    (notes : List Note) :
    Prepares handle.minuted (desk.minuted notes) deleting
      (components.map Component.minuted) (desk'.minuted notes) := by
  obtain ⟨desk₁, status, desk₂, desk₃, hvalidate, hstatus, hdefaults, hdeletion, hmade⟩ :=
    h
  refine ⟨desk₁.minuted notes, status, desk₂.minuted notes, desk₃.minuted notes, ?_, ?_,
    ?_, hdeletion, ?_⟩
  · exact (run_minuted handle.validate desk notes).trans (by rw [hvalidate])
  · exact (run_minuted handle.newStatus desk₁ notes).trans (by rw [hstatus])
  · exact (run_minuted handle.applyDefaults { desk₂ with status } notes).trans
      (by rw [hdefaults])
  · refine (Attempt.run_bind_ok (s := desk₃.minuted notes)
      ((run_minuted handle.components desk₃ notes).trans (by rw [hmade]))).trans rfl

/-- Each component has its turn, whatever the others fail with. It is asked once, with
what the components before it have declared. The individual faults of all turns go
together into the status and come up at the end, unless the update of the status fails,
or the body cannot be stored. All of this is up to one exception: if one of the faults
has no message, the fault of asking for it comes up, and the status is left alone. -/
theorem components_side_by_side {store : ObjectStore σ} {settings : Settings}
    {handle : Handle ω} {apiVersion kind ns name body : Value} {w : World σ ω}
    {source : Source} {deleting : Bool} {components : List (Component ω)} {desk : Desk ω}
    (hversion : handle.apiVersion = some apiVersion) (hkind : handle.kind = some kind)
    (hget : (store.get apiVersion kind ns name w.store).outcome = .ok body)
    (hsource : Source.ofBody body = .ok source)
    (hprepares :
      Prepares handle { w.desk with resource := body } deleting components desk) :
    let engine : Engine σ := ⟨store, settings, source⟩
    let parts := components.map Component.minuted
    let w₁ := begun engine (fetched store apiVersion kind ns name body w.minuted)
      (desk.minuted [])
    let turns := turns engine deleting parts w₁
    let faults := failures engine deleting turns
    let w₂ := ((processEach engine deleting parts).run w₁).2
    let run := (reconcile store settings handle.minuted ns name).run w.minuted
    turns.map Turn.component = parts ∧
    (∀ before turn after, turns = before ++ turn :: after →
      turn.world.aggregated.entries =
        Bag.entries (before.flatMap (Turn.declared engine deleting))) ∧
    (∀ texts, Fault.messages faults = .ok texts →
      let fault := Fault.together faults
      let update := (handle.minuted.updateStatus fault).run w₂.desk
      run.2.desk.app.notes = turns.map Turn.asking ++ [.concluded fault] ∧
      (∀ e, update.1 = .error e → run.1 = .error e) ∧
      (update.1 = .ok false → run.1 = raised fault) ∧
      (update.1 = .ok true →
        run.1 = raisedAfter fault (store.update update.2.resource w₂.store).fault?)) ∧
    (∀ e, Fault.messages faults = .error e →
      run.1 = .error e ∧ run.2.desk.app.notes = turns.map Turn.asking) := by
  intro engine parts w₁ turns faults w₂ run
  have hrun : run = (verdict engine handle.minuted >>=
      settleStatus engine handle.minuted).run
        (fetched store apiVersion kind ns name body w.minuted) := by
    have hpass := run_reconcile settings handle.minuted hversion hkind
      (w := w.minuted) hget
    rw [hsource] at hpass
    exact hpass
  have hverdict : (verdict engine handle.minuted).run
      (fetched store apiVersion kind ns name body w.minuted) =
        ((Fault.messages faults).map fun _ => Fault.together faults, w₂) := by
    rw [run_verdict_of_prepares engine (hprepares.minuted []), Fault.aggregate?_eq]
    rfl
  have hnotes : w₂.desk.app.notes = turns.map Turn.asking :=
    (notes_processEach engine deleting components w₁).trans (List.nil_append _)
  refine ⟨turns_component engine deleting parts w₁, ?_, ?_, ?_⟩
  · intro before turn after hsplit
    have hread := read_of_turn (fun w : World σ (Minuted ω) => w.aggregated.entries)
      (fun turn _ => turn.entries_run engine deleting) hsplit
    have hempty : w₁.aggregated.entries = [] := rfl
    rw [hread, hempty, List.nil_append]
    exact List.map_flatMap.symm
  · intro texts htexts fault update
    rw [htexts] at hverdict
    rw [hrun, Attempt.run_bind_ok hverdict]
    obtain ⟨hfailed, hkept, hstored⟩ := run_settleStatus engine handle.minuted fault w₂
    refine ⟨?_, ?_, ?_, ?_⟩
    · rw [desk_of_settleStatus, ← hnotes]
      rfl
    · intro e h
      obtain ⟨aggregated, log, hsettle⟩ := hfailed e h
      rw [hsettle]
    · intro h
      obtain ⟨aggregated, log, hsettle⟩ := hkept h
      rw [hsettle]
    · intro h
      obtain ⟨s, ⟨aggregated, log, hsettle⟩, -⟩ := hstored h
      rw [hsettle]
  · intro e he
    rw [he] at hverdict
    rw [hrun, Attempt.run_bind_error hverdict]
    exact ⟨rfl, hnotes⟩

/-! ## Two pods

The first one cannot be created. -/

/-- The engine of a pass over the resource. -/
def passing : Engine MemoryStore :=
  ⟨MemoryStore.asStore, .standard, ⟨[("apiVersion", .str "v1"), ("kind", .str "Sample"),
    ("name", .str "name")], .null⟩⟩

/-- A store in memory with the resource, which fails to create a pod. -/
def unwilling : World MemoryStore Unit :=
  ⟨{ MemoryStore.empty with
      objects := [(.ofTexts "" "Sample" "name", sampleResource)]
      failures := [((.create, podIdentity "p"), MemoryStore.injected "create")] },
    ⟨.obj [], .obj [], ()⟩, [], []⟩

def awaiting : World MemoryStore (Minuted Unit) :=
  begun passing
    (fetched passing.store (.str "v1") (.str "Sample") .null (.str "name") sampleResource
      unwilling.minuted)
    (Desk.minuted ⟨sampleResource, .obj [], ()⟩ [])

def podTurns : List (Turn MemoryStore (Minuted Unit)) :=
  turns passing false
    [(expecting [.managed (pod "p")]).minuted, (expecting [.managed (pod "q")]).minuted]
    awaiting

/-- The component of the other pod is asked with the pod that could not be created. -/
theorem pod_declared_though_not_created :
    ∃ given fault, ((reconcile MemoryStore.asStore .standard podHandle.minuted .null
        (.str "name")).run unwilling.minuted).2.desk.app.notes =
        [.asked (.str "c") [], .asked (.str "c") given, .concluded (some fault)] ∧
      given.entries = [(.ok (podIdentity "p"), .managed)] := by
  have hprepares : Prepares podHandle ⟨sampleResource, .obj [], ()⟩ false
      [expecting [.managed (pod "p")], expecting [.managed (pod "q")]]
      ⟨sampleResource, .obj [], ()⟩ := ⟨_, _, _, _, rfl, rfl, rfl, rfl, rfl⟩
  obtain ⟨-, hbags, hverdict, -⟩ := @components_side_by_side MemoryStore Unit
    MemoryStore.asStore .standard podHandle (.str "v1") (.str "Sample") .null
    (.str "name") sampleResource unwilling passing.source false _ _ rfl rfl rfl rfl
    hprepares
  obtain ⟨first, second, hturns, hfirst, hsecond, hdeclared⟩ :
      ∃ first second, podTurns = [first, second] ∧
        first.asking = .asked (.str "c") [] ∧ second.component.name = .str "c" ∧
        (first.declared passing false).entries = [(.ok (podIdentity "p"), .managed)] :=
    ⟨_, _, rfl, rfl, rfl, rfl⟩
  have hgiven : second.world.aggregated.entries = [(.ok (podIdentity "p"), .managed)] := by
    rw [← hdeclared, ← List.append_nil (first.declared passing false)]
    exact hbags [first] second [] hturns
  obtain ⟨texts, htexts⟩ :
      ∃ texts, Fault.messages (failures passing false podTurns) = .ok texts := by
    have htold : (Fault.messages (failures passing false podTurns)).isOk = true := by
      decide +kernel
    cases hm : Fault.messages (failures passing false podTurns) with
    | error e =>
        rw [hm] at htold
        cases htold
    | ok texts => exact ⟨texts, rfl⟩
  obtain ⟨fault, hfault⟩ :
      ∃ fault, Fault.together (failures passing false podTurns) = some fault :=
    Option.isSome_iff_exists.1 (by decide +kernel)
  refine ⟨second.world.aggregated, fault, ?_, hgiven⟩
  refine (hverdict texts htexts).1.trans ?_
  show podTurns.map Turn.asking ++
    [.concluded (Fault.together (failures passing false podTurns))] = _
  rw [hfault, hturns, List.map_cons, List.map_singleton, hfirst, Turn.asking, hsecond]
  rfl

/-- A component that expects nothing, and fails to take in its outcome. -/
def muteComponent : Component Unit :=
  { expecting [] with updateStatus := fun _ _ => Attempt.fail mute }

def muteHandle : Handle Unit :=
  { sampleHandle (pure ()) (pure ()) with components := pure [muteComponent] }

/-- There is one fault, but the status is not updated with it, since it has no message. -/
theorem status_left_after_mute_fault :
    let run := (reconcile MemoryStore.asStore .standard muteHandle.minuted .null
      (.str "name")).run unwilling.minuted
    failures passing false (turns passing false [muteComponent.minuted] awaiting) =
        [mute] ∧
      run.2.desk.app.notes = [.asked (.str "c") []] ∧
      run.1 ≠ .error (.of (.aggregate [mute])) := by
  refine ⟨rfl, rfl, ?_⟩
  intro h
  cases h

end Engine

end OperatorCore
