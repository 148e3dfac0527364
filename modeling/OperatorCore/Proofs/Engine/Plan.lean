import Mathlib.Data.List.Forall2
import OperatorCore.Proofs.Engine.Frame
import OperatorCore.Proofs.Engine.Run
import OperatorCore.Store.Memory

/-!
# The writes of a component are planned before the first of them

If a component judges by the objects alone, the writes that its run calls for
are a function of the two bags: no reply of the store and no write that was
made before has a part in it. What is left to the failures is how far the plan
is followed. A write whose fault has a message does not get in the way of the
next one, whatever has become of it. A write whose fault has none is the last:
no fault that tells the message can be made of it.

The induction is on the agenda. Its invariant is that the requests in the
record of the store are those of the tasks that are done.
-/

namespace OperatorCore

variable {σ ω : Type}

/-- The writes of a plan were made one after another, up to the first one with
a fault that has no message. -/
inductive Follows : List Attempted → List Write → Prop where
  | complete : Follows [] []
  | next {a : Attempted} {made : List Attempted} {plan : List Write} :
      a.Told → Follows made plan → Follows (a :: made) (a.write :: plan)
  | cut {a : Attempted} {plan : List Write} :
      ¬ a.Told → Follows [a] (a.write :: plan)

namespace Follows

variable {made : List Attempted} {plan : List Write}

theorem eq_plan (h : Follows made plan) (htold : ∀ a ∈ made, a.Told) :
    made.map Attempted.write = plan := by
  induction h with
  | complete => rfl
  | next ha _ ih =>
      rw [List.map_cons, ih fun a hmem => htold a (List.mem_cons_of_mem _ hmem)]
  | cut ha => exact absurd (htold _ List.mem_cons_self) ha

theorem mem_plan (h : Follows made plan) : ∀ a ∈ made, a.write ∈ plan := by
  induction h with
  | complete =>
      intro a ha
      cases ha
  | next _ _ ih =>
      refine List.forall_mem_cons.2 ⟨List.mem_cons_self, ?_⟩
      exact fun a ha => List.mem_cons_of_mem _ (ih a ha)
  | cut _ =>
      intro a ha
      obtain rfl := List.mem_singleton.1 ha
      exact List.mem_cons_self

end Follows

/-- What is due is known without a look at the desk. -/
def Task.Plans (task : Task ω) (due : Option Write) : Prop :=
  ∀ desk, (task.due.run desk).1 = .ok due

theorem Settled.failure_eq_ok_iff (settled : Settled ω) :
    (∃ f, settled.failure = .ok f) ↔ ∀ a, settled.attempted = some a → a.Told := by
  obtain ⟨task, _ | ⟨write, _ | fault⟩⟩ := settled
  · refine ⟨?_, fun _ => ⟨none, rfl⟩⟩
    intro _ a h
    cases h
  · refine ⟨?_, fun _ => ⟨none, rfl⟩⟩
    rintro - a h
    cases h
    intro f hf
    cases hf
  · simp only [failure, Option.bind_some, Option.map_some, Fault.mutation]
    constructor
    · rintro ⟨f, h⟩ a ha
      cases ha
      intro g hg
      cases hg
      cases hm : fault.message with
      | error e =>
          rw [hm] at h
          cases h
      | ok text => exact ⟨text, rfl⟩
    · intro h
      obtain ⟨text, htext⟩ := h _ rfl fault rfl
      rw [htext]
      exact ⟨_, rfl⟩

/-- Planned tasks are carried out by following the plan. -/
theorem carryOut_follows (store : ObjectStore σ) {tasks : List (Task ω)}
    {dues : List (Option Write)} (h : List.Forall₂ Task.Plans tasks dues)
    (desk : Desk ω) (s : σ) :
    Follows (carryOut store tasks desk s).attempts (dues.filterMap id) := by
  induction h generalizing desk s with
  | nil => exact .complete
  | @cons task due rest dues hdue _ ih =>
      have hd := hdue desk
      rcases hrun : task.due.run desk with ⟨r, desk'⟩
      rw [hrun] at hd
      obtain rfl : r = .ok due := hd
      simp only [carryOut, hrun, Settled.proceed]
      cases due with
      | none => exact ih desk' s
      | some write =>
          have hiff := Settled.failure_eq_ok_iff (task.settle store (some write) s).1
          cases hf : (task.settle store (some write) s).1.failure with
          | ok f =>
              have htold := hiff.1 ⟨f, hf⟩ _ rfl
              exact .next htold (ih desk' (task.settle store (some write) s).2)
          | error e =>
              refine .cut ?_
              intro htold
              rw [hf] at hiff
              obtain ⟨f, hf'⟩ := hiff.2 fun a ha => by
                cases ha
                exact htold
              cases hf'

theorem settle_recorded (store : ObjectStore σ) (task : Task ω) (due : Option Write)
    (s : Recorded σ) :
    (task.settle store.recorded due s).2.events = s.events ++
      (task.settle store.recorded due s).1.attempted.toList.map .wrote := by
  cases due with
  | none => simp [Task.settle]
  | some write =>
      simp only [Task.settle, ObjectStore.recorded_attempt, Option.toList_some,
        List.map_cons, List.map_nil]

/-- The record of the store has the writes of the tasks that are done. -/
theorem carryOut_recorded (store : ObjectStore σ) (tasks : List (Task ω))
    (desk : Desk ω) (s : Recorded σ) :
    (carryOut store.recorded tasks desk s).store.events =
      s.events ++ (carryOut store.recorded tasks desk s).attempts.map .wrote := by
  have hcons : ∀ (settled : Settled ω) (done : List (Settled ω)),
      (settled :: done).filterMap Settled.attempted =
        settled.attempted.toList ++ done.filterMap Settled.attempted := by
    rintro ⟨task, _ | a⟩ done <;> rfl
  induction tasks generalizing desk s with
  | nil => simp [carryOut, Progress.attempts]
  | cons task rest ih =>
      simp only [carryOut]
      rcases task.due.run desk with ⟨fault | due, desk'⟩
      · simp [Progress.attempts]
      · have hsettle := settle_recorded store task due s
        simp only [Settled.proceed]
        split
        · simp only [Progress.attempts, hcons, List.filterMap_nil, List.append_nil]
          exact hsettle
        · simp only [Progress.attempts, Progress.after, hcons, List.map_append] at ih ⊢
          rw [ih, hsettle, List.append_assoc]

theorem attempts_carryOut (store : ObjectStore σ) (tasks : List (Task ω))
    (desk : Desk ω) (s : Recorded σ) :
    (carryOut store.recorded tasks desk s).store.attempts =
      s.attempts ++ (carryOut store.recorded tasks desk s).attempts := by
  have hwrote : ∀ made : List Attempted,
      (made.map StoreEvent.wrote).filterMap StoreEvent.attempted? = made := by
    intro made
    rw [List.filterMap_map]
    exact List.filterMap_some
  rw [Recorded.attempts, carryOut_recorded, List.filterMap_append, hwrote]
  rfl

namespace Component

/-- A component judges by the objects alone: asked for the comparable part of
an object, or whether a divergence is worth an update, it answers, and the
answer does not depend on the desk. -/
structure Judges (component : Component ω) (settings : Settings)
    (view : Value → Value) (vote : Value → Value → Bool) : Prop where
  comparable : ∀ body, Body.Identified body → ∀ desk,
    ((component.comparable body settings.comparison.payloadFields).run desk).1 =
      .ok (view body)
  differs : ∀ a b, Body.Identified a → Body.Identified b → ∀ desk,
    ((component.differs a b).run desk).1 = .ok (vote a b)

/-- The default callbacks judge by the objects alone, if the payload fields are
texts. -/
theorem judges_of_default {component : Component ω} {settings : Settings}
    (keys : List String)
    (hkeys : settings.comparison.payloadFields = .arr (keys.map .str))
    (hcomparable : ∀ body fields,
      component.comparable body fields = Attempt.lift (Body.payload body fields))
    (hdiffers : ∀ a b, component.differs a b = pure true) :
    component.Judges settings
      (fun body => (Body.payload body (.arr (keys.map .str))).toOption.getD .null)
      (fun _ _ => true) where
  comparable body hbody desk := by
    obtain ⟨v, hv⟩ := hbody.payload keys
    rw [hcomparable, hkeys, Attempt.run_lift, hv]
    rfl
  differs a b _ _ desk := by
    rw [hdiffers]
    rfl

end Component

namespace Engine

section Plan

variable (settings : Settings) (view : Value → Value) (vote : Value → Value → Bool)

/-- A managed object diverges from its counterpart in a way that counts. -/
def worthUpdate (item counterpart : Tagged) : Bool :=
  item.isManaged
    && !(diff settings.comparison.scope (view item.object)
      (view counterpart.object)).isEmpty
    && vote item.object counterpart.object

/-- The write that an expected object calls for. -/
def wanted (observed : Bag) (item : Tagged) : Option Write :=
  match observed.counterpart item.key with
  | some counterpart =>
    if worthUpdate settings view vote
        (item.versioned (Body.version counterpart.object)) counterpart then
      some (.update (Body.versioned (Body.version counterpart.object) item.object))
    else none
  | none => if item.isManaged then some (.create item.object) else none

/-- The write that an observed object calls for. -/
def unwanted (expected : Bag) (item : Tagged) : Option Write :=
  if (expected.counterpart item.key).isSome then none
  else some (.delete item.object)

/-- The writes of a component with the given owners: first those that the
expected objects call for, then the deletions. -/
def plan (owners : List Value) (expected observed : Bag) : List Write :=
  (expected.filterMap fun item =>
      wanted settings view vote observed (item.owned owners))
    ++ observed.filterMap (unwanted expected)

end Plan

theorem judge_planned {component : Component ω} {settings : Settings}
    {view : Value → Value} {vote : Value → Value → Bool}
    (hjudges : component.Judges settings view vote) (item : Tagged)
    {counterpart : Tagged} (hitem : Body.Identified item.object)
    (hcounterpart : Body.Identified counterpart.object) (desk : Desk ω) :
    ((judge component settings item counterpart.object).run desk).1 =
      .ok (worthUpdate settings view vote item counterpart) := by
  unfold judge worthUpdate
  cases item.isManaged with
  | false => rfl
  | true =>
      have ha := hjudges.comparable _ hitem desk
      simp only [if_true, Attempt.run_bind, Bool.true_and]
      rcases h₁ : (component.comparable item.object
        settings.comparison.payloadFields).run desk with ⟨r, desk'⟩
      rw [h₁] at ha
      obtain rfl : r = .ok (view item.object) := ha
      have hb := hjudges.comparable _ hcounterpart desk'
      simp only []
      rcases h₂ : (component.comparable counterpart.object
        settings.comparison.payloadFields).run desk' with ⟨r, desk''⟩
      rw [h₂] at hb
      obtain rfl : r = .ok (view counterpart.object) := hb
      simp only []
      split
      · next h => simp only [h, Bool.not_true, Bool.false_and, Attempt.run_pure]
      · next h =>
          rw [Bool.not_eq_true] at h
          rw [h, hjudges.differs _ _ hitem hcounterpart]
          rfl

theorem expectedTask_plans {component : Component ω} {settings : Settings}
    {view : Value → Value} {vote : Value → Value → Bool}
    (hjudges : component.Judges settings view vote) {observed : Bag}
    (hobserved : observed.Identified) {item : Tagged}
    (hitem : Body.Identified item.object) :
    (expectedTask component settings observed item).Plans
      (wanted settings view vote observed item) := by
  intro desk
  rw [expectedTask, wanted]
  cases hc : observed.counterpart item.key with
  | none => rfl
  | some counterpart =>
      have hcounterpart := hobserved counterpart (List.mem_of_find?_eq_some hc)
      have hj := judge_planned hjudges (item.versioned (Body.version counterpart.object))
        (hitem.versioned _) hcounterpart desk
      simp only [revision, Attempt.run_bind]
      rcases h : (judge component settings
        (item.versioned (Body.version counterpart.object)) counterpart.object).run desk
        with ⟨r, desk'⟩
      rw [h] at hj
      obtain rfl : r = .ok (worthUpdate settings view vote
        (item.versioned (Body.version counterpart.object)) counterpart) := hj
      simp only []
      split <;> rfl

theorem agenda_plans {component : Component ω} {settings : Settings}
    {view : Value → Value} {vote : Value → Value → Bool}
    (hjudges : component.Judges settings view vote) {expected observed : Bag}
    (hexpected : expected.Identified) (hobserved : observed.Identified) :
    List.Forall₂ Task.Plans (agenda component settings expected observed)
      ((expected.map fun item =>
          wanted settings view vote observed (item.owned component.owners))
        ++ observed.map (unwanted expected)) := by
  refine List.rel_append ?_ ?_
  · rw [List.forall₂_map_left_iff, List.forall₂_map_right_iff, List.forall₂_same]
    intro item hmem
    exact expectedTask_plans hjudges hobserved ((hexpected item hmem).owned _)
  · rw [List.forall₂_map_left_iff, List.forall₂_map_right_iff, List.forall₂_same]
    intro item hmem desk
    rfl

theorem managed_of_wanted {settings : Settings} {view : Value → Value}
    {vote : Value → Value → Bool} {observed : Bag} {item : Tagged} {write : Write}
    (h : wanted settings view vote observed item = some write) :
    item.isManaged = true ∧ write.isDelete = false := by
  rw [wanted] at h
  split at h
  · split at h
    · next hworth =>
        cases h
        simp only [worthUpdate, Bool.and_eq_true] at hworth
        exact ⟨hworth.1.1, rfl⟩
    · cases h
  · split at h
    · next hmanaged =>
        cases h
        exact ⟨hmanaged, rfl⟩
    · cases h

theorem cases_of_unwanted {expected : Bag} {c : Tagged} {write : Write}
    (h : unwanted expected c = some write) :
    write = .delete c.object ∧ ∀ item ∈ expected, item.key.same c.key = false := by
  rw [unwanted] at h
  split at h
  · cases h
  · next hnone =>
      cases h
      rw [Option.not_isSome_iff_eq_none] at hnone
      exact ⟨rfl, Bag.counterpart_eq_none_iff.1 hnone⟩

/-- Deletions spare all objects with the identity of an expected one. -/
theorem not_same_of_delete_mem {settings : Settings} {view : Value → Value}
    {vote : Value → Value → Bool} {owners : List Value} {expected observed : Bag}
    {body : Value}
    (h : .delete body ∈ plan settings view vote owners expected observed)
    {item : Tagged} (hitem : item ∈ expected) :
    item.key.same (Body.key body) = false := by
  rcases List.mem_append.1 h with hwanted | hunwanted
  · obtain ⟨other, -, hother⟩ := List.mem_filterMap.1 hwanted
    exact absurd (managed_of_wanted hother).2 (by simp [Write.isDelete])
  · obtain ⟨other, -, hother⟩ := List.mem_filterMap.1 hunwanted
    obtain ⟨hdelete, hspared⟩ := cases_of_unwanted hother
    cases hdelete
    exact hspared item hitem

/-- All other writes are those of managed objects. -/
theorem managed_of_mem_plan {settings : Settings} {view : Value → Value}
    {vote : Value → Value → Bool} {owners : List Value} {expected observed : Bag}
    {write : Write} (h : write ∈ plan settings view vote owners expected observed)
    (hwrite : write.isDelete = false) :
    ∃ item ∈ expected, item.isManaged = true ∧
      wanted settings view vote observed (item.owned owners) = some write := by
  rcases List.mem_append.1 h with hwanted | hunwanted
  · obtain ⟨item, hitem, hw⟩ := List.mem_filterMap.1 hwanted
    exact ⟨item, hitem, (managed_of_wanted hw).1, hw⟩
  · obtain ⟨other, -, hother⟩ := List.mem_filterMap.1 hunwanted
    obtain ⟨rfl, -⟩ := cases_of_unwanted hother
    cases hwrite

/-- The engine with a record of all that it asks of its store. -/
def recorded (engine : Engine σ) : Engine (Recorded σ) :=
  { engine with store := engine.store.recorded }

theorem steady_onlyRead : Steady (Recorded.OnlyRead (σ := σ)) :=
  ⟨Recorded.OnlyRead.refl, Recorded.OnlyRead.trans⟩

theorem recorded_readsKeep (engine : Engine σ) :
    engine.recorded.store.ReadsKeep Recorded.OnlyRead :=
  ⟨engine.store.recorded_get, engine.store.recorded_list⟩

theorem onlyRead_of_surveys {engine : Engine σ} {component : Component ω}
    {w w₁ : World (Recorded σ) ω} {expected observed : Bag}
    (h : Surveys engine.recorded component w expected observed w₁) :
    Recorded.OnlyRead w.store w₁.store := by
  obtain ⟨stage, hrun⟩ := h
  have hkeeps := keeps_observeAndMutate steady_true steady_onlyRead
    engine.recorded_readsKeep component.keeps_true true
  have hkept := (hkeeps
    { w with log := w.log ++ [⟨some engine.recorded.source, .opened .reconciling⟩] }).2
  rw [hrun] at hkept
  exact hkept

/-- A run of a component whose objects are known follows its plan, for every
store and all failures of it; if each fault has a message, to the end. -/
theorem reconcile_follows_plan {engine : Engine σ} {component : Component ω}
    {view : Value → Value} {vote : Value → Value → Bool}
    {w w₁ : World (Recorded σ) ω} {expected observed : Bag}
    (hsurvey : Surveys engine.recorded component w expected observed w₁)
    (hexpected : expected.Identified) (hobserved : observed.Identified)
    (hjudges : component.Judges engine.settings view vote) :
    let writes := plan engine.settings view vote component.owners expected observed
    (∃ made,
      ((reconcileComponent engine.recorded component).run w).2.store.attempts =
        w.store.attempts ++ made ∧
      Follows made writes ∧
      ((∀ a ∈ made, a.Told) → made.map Attempted.write = writes)) ∧
    (∀ write ∈ writes, write.isDelete = true →
      ∀ item ∈ expected, item.key.same (Body.key write.body) = false) ∧
    (∀ write ∈ writes, write.isDelete = false →
      ∃ item ∈ expected, item.isManaged = true ∧
        wanted engine.settings view vote observed (item.owned component.owners) =
          some write) := by
  intro writes
  refine ⟨?_, ?_, fun write h hwrite => managed_of_mem_plan h hwrite⟩
  · obtain ⟨aggregated, log, hrun⟩ :=
      run_reconcileComponent hsurvey hexpected hobserved
    have hfollows := carryOut_follows engine.store.recorded
      (agenda_plans hjudges hexpected hobserved) w₁.desk w₁.store
    have hplan : ((expected.map fun item =>
        wanted engine.settings view vote observed (item.owned component.owners))
          ++ observed.map (unwanted expected)).filterMap id = writes := by
      rw [List.filterMap_append, List.filterMap_map, List.filterMap_map]
      rfl
    rw [hplan] at hfollows
    refine ⟨_, ?_, hfollows, hfollows.eq_plan⟩
    rw [hrun, ← (onlyRead_of_surveys hsurvey).attempts_eq]
    exact attempts_carryOut engine.store _ _ _
  · intro write h hwrite item hitem
    cases write with
    | delete body => exact not_same_of_delete_mem h hitem
    | create body => cases hwrite
    | update body => cases hwrite

/-! ## Two objects to create

The first one is answered with a fault. If the fault has a message, the second
one is created nevertheless; if it has none, the run is over. -/

/-- A pod by its name. -/
def pod (name : String) : Value :=
  .obj [("kind", .str "Pod"), ("metadata", .obj [("name", .str name)])]

def podIdentity (name : String) : Identity := .ofTexts "" "Pod" name

/-- A component with fixed expected objects and the default callbacks. -/
def expecting (expected : Bag) : Component Unit :=
  { Component.plain (.str "c") [] [] with
    expectedObjects := fun _ => pure (some expected) }

theorem expecting_judges (expected : Bag) :
    (expecting expected).Judges .standard
      (fun body => (Body.payload body Body.defaultPayloadFields).toOption.getD .null)
      (fun _ _ => true) :=
  Component.judges_of_default ["spec", "data"] rfl (fun _ _ => rfl) (fun _ _ => rfl)

/-- The engine on a store in memory. -/
def inMemory : Engine MemoryStore :=
  ⟨MemoryStore.asStore, .standard, .ofName .null .null .null (.str "name")⟩

/-- The world before a pass over a store in memory. -/
def start (store : MemoryStore) : World (Recorded MemoryStore) Unit :=
  ⟨⟨store, []⟩, ⟨.obj [], .obj [], ()⟩, [], []⟩

/-- An answer of the API whose message is no text. -/
def mute : Fault :=
  .of (.api .server (some (.obj [("message", .int 5)])) (.int 500))

/-- An empty store that fails to create a pod. -/
def refusing (name : String) (fault : Fault) : MemoryStore :=
  { MemoryStore.empty with failures := [((.create, podIdentity name), fault)] }

def twoPods : Bag := [.managed (pod "p"), .managed (pod "q")]

theorem twoPods_identified : twoPods.Identified :=
  Bag.identified_cons ⟨_, rfl⟩ (Bag.identified_cons ⟨_, rfl⟩ Bag.identified_nil)

theorem both_attempted_after_injected_failure :
    ∃ made : List Attempted,
      ((reconcileComponent inMemory.recorded (expecting twoPods)).run
        (start (refusing "p" (MemoryStore.injected "create")))).2.store.attempts = made ∧
      Follows made
        [.create (Body.owned [] (pod "p")), .create (Body.owned [] (pod "q"))] := by
  have hsurvey : ∃ w₁, Surveys inMemory.recorded (expecting twoPods)
      (start (refusing "p" (MemoryStore.injected "create"))) twoPods [] w₁ :=
    ⟨_, .mutating, rfl⟩
  obtain ⟨w₁, hsurvey⟩ := hsurvey
  obtain ⟨⟨made, hmade, hfollows, -⟩, -⟩ := reconcile_follows_plan hsurvey
    twoPods_identified Bag.identified_nil (expecting_judges twoPods)
  exact ⟨made, hmade, hfollows⟩

/-- The plan has two writes, and one of them is made. -/
theorem plan_cut_by_mute_fault :
    (∃ w₁, Surveys inMemory.recorded (expecting twoPods) (start (refusing "p" mute))
      twoPods [] w₁) ∧
    twoPods.Identified ∧ Bag.Identified [] ∧
    (expecting twoPods).Judges .standard
      (fun body => (Body.payload body Body.defaultPayloadFields).toOption.getD .null)
      (fun _ _ => true) ∧
    plan .standard
      (fun body => (Body.payload body Body.defaultPayloadFields).toOption.getD .null)
      (fun _ _ => true) [] twoPods [] =
        [.create (Body.owned [] (pod "p")), .create (Body.owned [] (pod "q"))] ∧
    ((reconcileComponent inMemory.recorded (expecting twoPods)).run
      (start (refusing "p" mute))).2.store.attempts.map Attempted.write =
        [.create (Body.owned [] (pod "p"))] :=
  ⟨⟨_, .mutating, rfl⟩, twoPods_identified, Bag.identified_nil,
    expecting_judges twoPods, by decide +kernel, by decide +kernel⟩

end Engine

end OperatorCore
