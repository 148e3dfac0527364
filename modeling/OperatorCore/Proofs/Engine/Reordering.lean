import Mathlib.Data.List.Perm.Basic
import OperatorCore.Proofs.Engine.Multiplicity
import OperatorCore.Proofs.Engine.Outcome

/-!
# The order of the expected objects

A run goes through the expected objects in the order in which they are declared. On a
store in memory nothing comes of this order but the order in which the same things
happen, as long as the objects are distinct and a fault can be made of each failure.

Two runs are compared, over the same store. They observe the same, because a lookup sees
nothing of the world but its store. So their plans are made of the same writes, up to the
order of those that the expected objects call for, and these are of distinct objects. What
becomes of such writes is told in `MemoryStore.writes_perm`, and the faults of a run are
told by what becomes of its writes and by the objects that are missing.

Where the store refuses a write with a fault that has no message, the run is over, and
which writes are left out does depend on the order.
-/

namespace OperatorCore

variable {σ ω α : Type}

/-! ## A lookup sees the store alone -/

/-- The worlds have the same store. -/
def World.SameStore (w w' : World σ ω) : Prop := w'.store = w.store

theorem Step.respects_report (source : Source) (notice : Notice) :
    Attempt.Respects World.SameStore (Step.report source notice : Step σ ω Unit) :=
  fun _ _ h => ⟨rfl, h⟩

theorem Step.respects_request (operation : σ → Reply σ α) :
    Attempt.Respects World.SameStore (Step.request operation : Step σ ω α) := by
  intro w w' h
  have hstore : w'.store = w.store := h
  rw [Step.run_request, Step.run_request, hstore]
  exact ⟨rfl, rfl⟩

namespace Observation

theorem respects_observeOne (store : ObjectStore σ) (source : Source) (o : Observable) :
    Attempt.Respects World.SameStore (observeOne store source o : Step σ ω (List Value)) := by
  have hreport : ∀ (notice : String → Notice) (bodies : List Value),
      Attempt.Respects (World.SameStore (σ := σ) (ω := ω))
        ((liftM o.text : Step σ ω String) >>= fun text =>
          Step.report source (notice text) >>= fun _ => pure bodies) := by
    intro notice bodies
    refine Attempt.respects_bind (Attempt.respects_liftM _) fun text => ?_
    exact Attempt.respects_bind (Step.respects_report _ _) fun _ => Attempt.respects_pure _
  unfold observeOne
  cases o.target with
  | point name =>
      refine Attempt.respects_bind
        (Attempt.respects_outcome (Step.respects_request _)) fun answer => ?_
      cases answer with
      | ok body => exact hreport .found [body]
      | error fault =>
          simp only []
          split
          · exact hreport .absent []
          · exact Attempt.respects_fail _
  | set labels =>
      refine Attempt.respects_bind (Step.respects_request _) fun bodies => ?_
      exact hreport (.listed · bodies.length) bodies

theorem respects_observe (store : ObjectStore σ) (source : Source)
    (observables : List Observable) :
    Attempt.Respects World.SameStore (observe store source observables : Step σ ω Bag) := by
  induction observables with
  | nil => exact Attempt.respects_pure _
  | cons o rest ih =>
      refine Attempt.respects_bind (respects_observeOne store source o) fun bodies => ?_
      exact Attempt.respects_bind ih fun others => Attempt.respects_pure _

end Observation

/-! ## What has failed, and who is told -/

/-- The fault that is made of a write that has failed, if one can be made. -/
def Attempted.failure? (a : Attempted) : Option Fault :=
  a.fault.bind fun cause => (Fault.mutation (.str a.write.operation.text)
    (Body.key a.write.body) cause).toOption

theorem Settled.faults_eq {settled : Settled ω}
    (h : ∀ a, settled.attempted = some a → Body.key a.write.body = settled.task.identity) :
    settled.faults =
      settled.task.amiss ++ (settled.attempted.bind Attempted.failure?).toList := by
  obtain ⟨task, _ | ⟨write, _ | cause⟩⟩ := settled
  · rfl
  · rfl
  · have hkey : Body.key write.body = task.identity := h _ rfl
    simp only [faults, failure, Option.bind_some, Option.map_some, Attempted.failure?, hkey]
    cases Fault.mutation (.str write.operation.text) task.identity cause <;> rfl

/-- The component takes note of whatever it is told, and does not fail. -/
def Component.TakesNote (component : Component ω) : Prop :=
  ∀ live fault desk, ∃ desk', (component.updateStatus live fault).run desk = (.ok (), desk')

/-! ## What the order of the plan is -/

theorem Bag.counterpart_perm {bag bag' : Bag} (h : bag.Perm bag') (i : Identity) :
    (bag.counterpart i).isSome = (bag'.counterpart i).isSome := by
  rw [counterpart, counterpart, List.isSome_find?, List.isSome_find?]
  exact h.any_eq

namespace Engine

open MemoryStore

section Plan

variable {settings : Settings} {view : Value → Value} {vote : Value → Value → Bool}
  {owners : List Value} {expected expected' observed : Bag}

theorem unwanted_perm (h : expected.Perm expected') : unwanted expected' = unwanted expected := by
  funext c
  rw [unwanted, unwanted, Bag.counterpart_perm h]

theorem plan_perm (h : expected.Perm expected') :
    (plan settings view vote owners expected observed).Perm
      (plan settings view vote owners expected' observed) := by
  rw [plan, plan, unwanted_perm h]
  exact (h.filterMap _).append_right _

/-- The writes that distinct objects call for are of distinct objects. -/
theorem apart_wanted (hexpected : expected.Identified) (hdistinct : Distinct expected)
    (hversions : ∀ c ∈ observed, (Body.version c.object).isNull = false) :
    MemoryStore.Apart (expected.filterMap fun item =>
      wanted settings view vote observed (item.owned owners)) := by
  rw [MemoryStore.Apart, List.pairwise_filterMap]
  refine hdistinct.imp_of_mem ?_
  intro a b ha hb hab write hwrite write' hwrite'
  have hkey := (body_of_wanted ((hexpected b hb).owned owners) hversions hwrite').1
  rw [touches_of_wanted hexpected hversions ha hwrite, hkey,
    Tagged.key_owned (hexpected b hb)]
  exact hab

/-- All writes of a plan are of objects that can be identified. -/
theorem identified_of_mem_plan (hexpected : expected.Identified)
    (hobserved : observed.Identified) :
    ∀ write ∈ plan settings view vote owners expected observed,
      Body.Identified write.body := by
  intro write hwrite
  rcases List.mem_append.1 hwrite with hwanted | hunwanted
  · obtain ⟨item, hitem, hw⟩ := List.mem_filterMap.1 hwanted
    have howned := (hexpected item hitem).owned owners
    rw [wanted] at hw
    split at hw
    · split at hw
      · cases hw
        exact howned.versioned _
      · cases hw
    · split at hw
      · cases hw
        exact howned
      · cases hw
  · obtain ⟨c, hc, hw⟩ := List.mem_filterMap.1 hunwanted
    obtain ⟨rfl, -⟩ := cases_of_unwanted hw
    exact hobserved c hc

/-- What a plan does to a store in memory does not depend on the order of the expected
objects, but for the versions. -/
theorem writes_of_plan_perm {s : MemoryStore} (hs : Sound s) (hexpected : expected.Identified)
    (hobserved : observed.Identified) (hdistinct : Distinct expected)
    (hversions : ∀ c ∈ observed, (Body.version c.object).isNull = false)
    (hperm : expected.Perm expected') :
    let writes := plan settings view vote owners expected observed
    let writes' := plan settings view vote owners expected' observed
    (asStore.replay writes s).Perm (asStore.replay writes' s) ∧
      ∀ i, (asStore.after writes' s).bare i = (asStore.after writes s).bare i := by
  intro writes writes'
  have hid : ∀ write ∈ writes, Body.Identified write.body :=
    identified_of_mem_plan hexpected hobserved
  have hwrites' : writes' = (expected'.filterMap fun item =>
      wanted settings view vote observed (item.owned owners)) ++
        observed.filterMap (unwanted expected) := by
    rw [← unwanted_perm hperm]
    rfl
  rw [hwrites']
  refine writes_perm hs (fun w hw => hid w (List.mem_append_left _ hw))
    (fun w hw => hid w (List.mem_append_right _ hw))
    (apart_wanted hexpected hdistinct hversions) ?_ ?_ (hperm.filterMap _)
  · intro w hw
    obtain ⟨c, -, hc⟩ := List.mem_filterMap.1 hw
    rw [(cases_of_unwanted hc).1]
    rfl
  · intro w hw d hd
    obtain ⟨item, hitem, hwanted⟩ := List.mem_filterMap.1 hw
    obtain ⟨c, -, hc⟩ := List.mem_filterMap.1 hd
    obtain ⟨rfl, hspared⟩ := cases_of_unwanted hc
    rw [touches_of_wanted hexpected hversions hitem hwanted]
    exact hspared item hitem

end Plan

/-! ## The faults of a run -/

section Faults

variable {store : ObjectStore σ} {component : Component ω} {settings : Settings}
  {expected expected' observed : Bag} {desk : Desk ω} {s : σ}

/-- A task is about the object that it writes. -/
theorem identity_of_mayWrite (hexpected : expected.Identified) {task : Task ω}
    (htask : task ∈ agenda component settings expected observed) {write : Write}
    (hwrite : task.MayWrite write) : Body.key write.body = task.identity := by
  rcases List.mem_append.1 htask with he | ho
  · obtain ⟨item, hitem, rfl⟩ := List.mem_map.1 he
    rw [key_of_expectedTask ((hexpected item hitem).owned _) hwrite, expectedTask]
    split <;> rfl
  · obtain ⟨c, -, rfl⟩ := List.mem_map.1 ho
    rw [(delete_of_observedTask hwrite).2]
    rfl

/-- What is wrong with the expected objects whatever is written. -/
def amiss (component : Component ω) (settings : Settings) (expected observed : Bag) :
    List Fault :=
  expected.flatMap fun item =>
    (expectedTask component settings observed (item.owned component.owners)).amiss

theorem flatMap_amiss_agenda (component : Component ω) (settings : Settings)
    (expected observed : Bag) :
    (agenda component settings expected observed).flatMap Task.amiss =
      amiss component settings expected observed := by
  have hobserved : (observed.map (observedTask (ω := ω) expected)).flatMap Task.amiss = [] := by
    rw [List.flatMap_eq_nil_iff]
    intro task htask
    obtain ⟨c, -, rfl⟩ := List.mem_map.1 htask
    rfl
  rw [agenda, List.flatMap_append, hobserved, List.append_nil, List.flatMap_map]
  rfl

/-- Without a stop, the faults of an agenda are those of the objects and those that are
made of the failed writes. -/
theorem faults_perm (hexpected : expected.Identified)
    (hstop : (carryOut store (agenda component settings expected observed) desk s).stop =
      none) :
    let p := carryOut store (agenda component settings expected observed) desk s
    p.faults.Perm
      (amiss component settings expected observed ++ p.attempts.filterMap Attempted.failure?) := by
  intro p
  obtain ⟨hfirst, htasks⟩ := carryOut_done store
    (agenda component settings expected observed) desk s
  have hfaults : p.faults = p.done.flatMap fun settled =>
      settled.task.amiss ++ (settled.attempted.bind Attempted.failure?).toList := by
    refine List.flatMap_congr fun settled hmem => Settled.faults_eq ?_
    intro a ha
    exact identity_of_mayWrite hexpected (hfirst.subset (List.mem_map_of_mem hmem))
      ((carryOut_each_done _ _ _ _ settled hmem).mayWrite ha)
  have hamiss : (p.done.flatMap fun settled => settled.task.amiss) =
      amiss component settings expected observed := by
    rw [← flatMap_amiss_agenda, ← htasks hstop, List.flatMap_map]
  have hfailures : (p.done.flatMap fun settled =>
      (settled.attempted.bind Attempted.failure?).toList) =
        p.attempts.filterMap Attempted.failure? := by
    rw [Progress.attempts, List.filterMap_filterMap, List.filterMap_eq_flatMap_toList]
  rw [hfaults, ← hamiss, ← hfailures]
  exact (List.flatMap_append_perm _ _ _).symm

end Faults

/-! ## One run -/

section Run

variable {settings : Settings} {source : Source} {component : Component ω}
  {view : Value → Value} {vote : Value → Value → Bool} {w w₁ : World MemoryStore ω}
  {expected observed : Bag} {observables : List Observable}

/-- Planned tasks are all done, if each fault of the store has a message. -/
theorem stop_of_plans {store : ObjectStore σ} {tasks : List (Task ω)}
    {dues : List (Option Write)} (h : List.Forall₂ Task.Plans tasks dues) {desk : Desk ω}
    {s : σ} (htold : ∀ a ∈ (carryOut store tasks desk s).attempts, a.Told) :
    (carryOut store tasks desk s).stop = none := by
  have hplans : ∀ task ∈ tasks, ∃ due, task.Plans due :=
    ((List.forall₂_and_left _ _).1 (h.imp fun task due hdue => ⟨⟨due, hdue⟩, hdue⟩)).1
  cases hstop : (carryOut store tasks desk s).stop with
  | none => rfl
  | some fault =>
      exfalso
      rcases carryOut_stop store tasks desk s hstop with
        ⟨task, rest, desk', htasks, hrun⟩ | ⟨last, hlast, hfailure⟩
      · obtain ⟨due, hdue⟩ := hplans task (by rw [htasks]; simp)
        have hanswer := hdue desk'
        rw [hrun] at hanswer
        cases hanswer
      · have hmem := List.mem_of_getLast? hlast
        obtain ⟨f, hf⟩ := (Settled.failure_eq_ok_iff last).2 fun a ha =>
          htold a (List.mem_filterMap.2 ⟨last, hmem, ha⟩)
        rw [hfailure] at hf
        cases hf

/-- A conclusion without a stop, if the component takes note of what it is told. -/
theorem answer_of_conclusion {p : Progress σ ω} (hstop : p.stop = none) {desk : Desk ω}
    (hnoted : (component.updateStatus p.live p.fault).run p.desk = (.ok (), desk)) :
    ((conclusion component p).run p.desk).1 = raised p.fault := by
  simp only [conclusion, Attempt.run_bind, Attempt.run_liftM, Progress.result, hstop, hnoted]
  cases p.fault <;> rfl

/-- A run of a component that was surveyed makes all the writes of its plan, one after
another, and what it raises is made of their failures. -/
theorem run_of_plan (hsurvey : Surveys (onMemory settings source) component w expected observed w₁)
    (hs : Sound w₁.store) (htells : w₁.store.Tells) (hexpected : expected.Identified)
    (hobserved : observed.Identified) (hjudges : component.Judges settings view vote) :
    let writes := plan settings view vote component.owners expected observed
    let run := (reconcileComponent (onMemory settings source) component).run w
    run.2.store = asStore.after writes w₁.store ∧
    (component.TakesNote → ∃ faults,
      faults.Perm (amiss component settings expected observed ++
        (asStore.replay writes w₁.store).filterMap Attempted.failure?) ∧
      run.1 = raised (Fault.together faults)) := by
  intro writes run
  let p := carryOut asStore (agenda component settings expected observed) w₁.desk w₁.store
  have hplans := agenda_plans hjudges hexpected hobserved
  have hfollows : Follows p.attempts writes := by
    have h := carryOut_follows asStore hplans w₁.desk w₁.store
    rw [filterMap_id_dues] at h
    exact h
  have hid : ∀ write ∈ writes, Body.Identified write.body :=
    identified_of_mem_plan hexpected hobserved
  obtain ⟨hreplay, hafter⟩ := carryOut_replays asStore
    (agenda component settings expected observed) w₁.desk w₁.store
  have htold : ∀ a ∈ p.attempts, a.Told := by
    show ∀ a ∈ (carryOut _ _ _ _).attempts, a.Told
    rw [hreplay]
    refine htells.replay hs fun write hwrite => ?_
    obtain ⟨a, ha, rfl⟩ := List.mem_map.1 hwrite
    exact hid _ (hfollows.mem_plan a ha)
  have hmade : p.attempts.map Attempted.write = writes := hfollows.eq_plan htold
  have hstop : p.stop = none := stop_of_plans hplans htold
  have hattempts : p.attempts = asStore.replay writes w₁.store := by
    rw [← hmade]
    exact hreplay
  obtain ⟨aggregated, log, hrun⟩ := run_reconcileComponent hsurvey hexpected hobserved
  have hrun' : run = _ := hrun
  rw [hrun']
  refine ⟨?_, ?_⟩
  · rw [← hmade]
    exact hafter
  · intro hnotes
    obtain ⟨desk, hnoted⟩ := hnotes p.live p.fault p.desk
    refine ⟨p.faults, ?_, answer_of_conclusion hstop hnoted⟩
    rw [← hattempts]
    exact faults_perm hexpected hstop

/-- A run whose lookups have failed writes nothing, and raises this one failure. -/
theorem run_of_refused {engine : Engine σ} {w w₁ : World σ ω} {e : Fault} {text : String}
    (hsurvey : (observeAndMutate engine component true).run (opened engine w) =
      (brokenSurvey component .observing e, w₁))
    (htext : e.message = .ok text) :
    let run := (reconcileComponent engine component).run w
    run.2.store = w₁.store ∧
    (component.TakesNote →
      run.1 = .error (.of (.aggregate [stageFault component .observing e text]))) := by
  intro run
  obtain ⟨log, hrun⟩ := run_reconcile_of_broken hsurvey htext
  have hrun' : run = _ := hrun
  rw [hrun']
  refine ⟨rfl, ?_⟩
  intro hnotes
  obtain ⟨desk, hnoted⟩ := hnotes []
    (some (.of (.aggregate [stageFault component .observing e text]))) w₁.desk
  rw [hnoted]
  rfl

end Run

/-! ## Two runs -/

/-- From a store on, the same calls have led to two stores, but for their order, and these
hold the same objects, but for their versions. -/
structure SameEffect (s s₁ s₂ : MemoryStore) : Prop where
  calls : ∃ made₁ made₂, s₁.mutations = s.mutations ++ made₁ ∧
    s₂.mutations = s.mutations ++ made₂ ∧ made₁.Perm made₂
  objects : ∀ i, s₁.bare i = s₂.bare i

/-- Both answers are successes, or they are failures with the same faults, but for their
order. -/
def Agree (answer answer' : Except Fault Unit) : Prop :=
  (answer = .ok () ∧ answer' = .ok ()) ∨
  ∃ faults faults' : List Fault, answer = .error (.of (.aggregate faults)) ∧
    answer' = .error (.of (.aggregate faults')) ∧ faults.Perm faults'

theorem agree_of_perm {faults faults' : List Fault} (h : faults.Perm faults') :
    Agree (raised (Fault.together faults)) (raised (Fault.together faults')) := by
  cases faults with
  | nil =>
      obtain rfl := List.nil_perm.1 h
      exact .inl ⟨rfl, rfl⟩
  | cons fault rest =>
      cases faults' with
      | nil => cases List.perm_nil.1 h
      | cons fault' rest' => exact .inr ⟨_, _, rfl, rfl, h⟩

section Runs

variable {settings : Settings} {source : Source} {component : Component ω}
  {other : Bag → Hook ω (Option Bag)} {view : Value → Value} {vote : Value → Value → Bool}
  {w w₁ w₁' : World MemoryStore ω} {expected expected' observed : Bag}
  {observables : List Observable}

/-- The runs of two surveys that have found the same on the same store. -/
theorem unordered_of_surveys
    (hsurvey : Surveys (onMemory settings source) component w expected observed w₁)
    (hsurvey' : Surveys (onMemory settings source)
      { component with expectedObjects := other } w expected' observed w₁')
    (hstore : w₁'.store = w₁.store) (hmutations : w₁.store.mutations = w.store.mutations)
    (hs : Sound w₁.store) (htells : w₁.store.Tells) (hexpected : expected.Identified)
    (hdistinct : Distinct expected) (hperm : expected.Perm expected')
    (hobserved : observed.Identified)
    (hversions : ∀ c ∈ observed, (Body.version c.object).isNull = false)
    (hjudges : component.Judges settings view vote) :
    let engine := onMemory settings source
    let run := (reconcileComponent engine component).run w
    let run' := (reconcileComponent engine { component with expectedObjects := other }).run w
    SameEffect w.store run.2.store run'.2.store ∧
      (component.TakesNote → Agree run.1 run'.1) := by
  intro engine run run'
  let writes := plan settings view vote component.owners expected observed
  let writes' := plan settings view vote component.owners expected' observed
  have hexpected' : expected'.Identified := fun item hitem =>
    hexpected item (hperm.mem_iff.2 hitem)
  have hjudges' : Component.Judges { component with expectedObjects := other } settings view
      vote := ⟨hjudges.comparable, hjudges.differs⟩
  obtain ⟨hend, hraised⟩ := run_of_plan hsurvey hs htells hexpected hobserved hjudges
  obtain ⟨hend', hraised'⟩ := run_of_plan hsurvey' (hstore ▸ hs) (hstore ▸ htells) hexpected'
    hobserved hjudges'
  rw [hstore] at hend' hraised'
  have heffect : (asStore.replay writes w₁.store).Perm (asStore.replay writes' w₁.store) ∧
      ∀ i, (asStore.after writes' w₁.store).bare i = (asStore.after writes w₁.store).bare i :=
    writes_of_plan_perm hs hexpected hobserved hdistinct hversions hperm
  refine ⟨⟨⟨writes.map Write.call, writes'.map Write.call, ?_, ?_, ?_⟩, ?_⟩, ?_⟩
  · rw [hend, ← hmutations]
    exact mutations_after (identified_of_mem_plan hexpected hobserved) w₁.store
  · rw [hend', ← hmutations]
    exact mutations_after (identified_of_mem_plan hexpected' hobserved) w₁.store
  · exact (plan_perm hperm).map _
  · intro i
    rw [hend, hend']
    exact (heffect.2 i).symm
  · intro hnotes
    obtain ⟨faults, hfaults, hanswer⟩ := hraised hnotes
    obtain ⟨faults', hfaults', hanswer'⟩ := hraised' hnotes
    rw [hanswer, hanswer']
    have hmissing : (amiss component settings expected observed).Perm
        (amiss component settings expected' observed) := hperm.flatMap_right _
    have hfailures := hmissing.append (heffect.1.filterMap Attempted.failure?)
    exact agree_of_perm (hfaults.trans (hfailures.trans hfaults'.symm))

/-- The runs of two surveys that have failed with the same on the same store. -/
theorem unordered_of_refused {e : Fault} {text : String}
    (hsurvey : (observeAndMutate (onMemory settings source) component true).run
      (opened (onMemory settings source) w) = (brokenSurvey component .observing e, w₁))
    (hsurvey' : (observeAndMutate (onMemory settings source)
        { component with expectedObjects := other } true).run
      (opened (onMemory settings source) w) = (brokenSurvey component .observing e, w₁'))
    (hstore : w₁'.store = w₁.store) (hmutations : w₁.store.mutations = w.store.mutations)
    (htext : e.message = .ok text) :
    let engine := onMemory settings source
    let run := (reconcileComponent engine component).run w
    let run' := (reconcileComponent engine { component with expectedObjects := other }).run w
    SameEffect w.store run.2.store run'.2.store ∧
      (component.TakesNote → Agree run.1 run'.1) := by
  intro engine run run'
  obtain ⟨hend, hraised⟩ := run_of_refused hsurvey htext
  obtain ⟨hend', hraised'⟩ :=
    @run_of_refused _ _ { component with expectedObjects := other } _ _ _ _ _ hsurvey' htext
  rw [hend, hend', hstore]
  refine ⟨⟨⟨[], [], ?_, ?_, .refl _⟩, fun _ => rfl⟩, ?_⟩
  · rw [hmutations, List.append_nil]
  · rw [hmutations, List.append_nil]
  · intro hnotes
    exact .inr ⟨_, _, hraised hnotes, hraised' hnotes, .refl _⟩

/-- The order in which a component declares its objects makes no difference to a run on a
store in memory, whatever failures are injected, as long as the objects are distinct and
each of the failures has a message. The same calls are made, the same objects are left, but
for their versions, and if the component takes note of the outcome, it is the same. -/
theorem reconcile_unordered (hreachable : w.store.Reachable) (htells : w.store.Tells)
    (hexpected : expected.Identified) (hdistinct : Distinct expected)
    (hperm : expected.Perm expected')
    (hdeclares : component.Declares w expected observables)
    (hdeclares' : { component with expectedObjects := other }.Declares w expected' observables)
    (hjudges : component.Judges settings view vote) :
    let engine := onMemory settings source
    let run := (reconcileComponent engine component).run w
    let run' := (reconcileComponent engine { component with expectedObjects := other }).run w
    SameEffect w.store run.2.store run'.2.store ∧
      (component.TakesNote → Agree run.1 run'.1) := by
  intro engine run run'
  have hs := hreachable.sound
  obtain ⟨w₀, hstore, hsurvey, hbroken⟩ := lookups_of_declares engine hdeclares
  obtain ⟨w₀', hstore', hsurvey', hbroken'⟩ := lookups_of_declares engine hdeclares'
  obtain ⟨hsame, hleft⟩ := Observation.respects_observe asStore source observables w₀ w₀'
    (hstore'.trans hstore.symm)
  have hlooked := (Observation.keeps_observe steady_true steady_looked asStore_readsKeep
    source observables w₀).2
  rcases hlook : (Observation.observe asStore source observables).run w₀
    with ⟨e | observed, w₁⟩ <;>
  rcases hlook' : (Observation.observe asStore source observables).run w₀'
    with ⟨answer', w₁'⟩ <;>
  rw [hlook, hlook'] at hsame hleft <;> rw [hlook, hstore] at hlooked <;> cases hsame
  · have htell := Observation.telling_observe (w := w₀) (hstore ▸ htells) source observables
    rw [hlook] at htell
    obtain ⟨text, htext⟩ := htell e rfl
    exact unordered_of_refused (hbroken e w₁ hlook) (hbroken' e w₁' hlook') hleft
      hlooked.mutations htext
  · have hfound := Observation.sublist_of_observe readBy_asStore (hstore ▸ hs) hlook
    rw [hstore] at hfound
    exact unordered_of_surveys (hsurvey observed w₁ hlook) (hsurvey' observed w₁' hlook') hleft
      hlooked.mutations (hlooked.sound hs) (htells.of_failures hlooked.failures) hexpected
      hdistinct hperm (fun c hc => hs.identified_observed c (hfound.subset hc))
      (fun c hc => version_not_null hs c (hfound.subset hc)) hjudges

end Runs

/-! ## Two pods in either order

All pods are looked up. One that is not expected is there, two are expected, and the store
fails to create one of these. -/

/-- A store that holds a pod and fails to create another one. -/
def halting : MemoryStore :=
  ((MemoryStore.fail .create (podIdentity "p") (injected "create")).run holding).2

def podsInTurn : Bag := [.managed (pod "p"), .managed (pod "r")]

theorem watching_takesNote (expected : Bag) (observables : List Observable) :
    (watching expected observables).TakesNote := fun _ _ desk => ⟨desk, rfl⟩

theorem podsInTurn_identified : podsInTurn.Identified :=
  Bag.identified_cons ⟨_, rfl⟩ (Bag.identified_cons ⟨_, rfl⟩ Bag.identified_nil)

/-- The run of a component that expects some pods. -/
def podRun (expected : Bag) (s : MemoryStore) : Except Fault Unit × World MemoryStore Unit :=
  (reconcileComponent (onMemory .standard inMemory.source) (watching expected [allPods])).run
    (onDesk s)

theorem pods_made_in_either_order :
    SameEffect halting (podRun podsInTurn halting).2.store
      (podRun podsInTurn.reverse halting).2.store ∧
    ∃ faults faults', (podRun podsInTurn halting).1 = .error (.of (.aggregate faults)) ∧
      (podRun podsInTurn.reverse halting).1 = .error (.of (.aggregate faults')) ∧
      faults.Perm faults' := by
  have hreachable : (onDesk halting).store.Reachable := .fail _ _ _ (.put _ .empty)
  have htells : (onDesk halting).store.Tells := by
    refine tells_of_mem fun p hp => ?_
    obtain rfl : p = ((.create, podIdentity "p"), injected "create") :=
      List.mem_singleton.1 hp
    exact told_of_statusFault .server 500 none _
  have hdistinct : Distinct podsInTurn := List.pairwise_pair.2 rfl
  obtain ⟨heffect, hagree⟩ := reconcile_unordered hreachable htells podsInTurn_identified
    hdistinct podsInTurn.reverse_perm.symm (watching_declares podsInTurn [allPods] _)
    (watching_declares podsInTurn.reverse [allPods] _) (watching_judges podsInTurn [allPods])
  refine ⟨heffect, ?_⟩
  rcases hagree (watching_takesNote _ _) with ⟨hok, -⟩ | hfailed
  · cases hok
  · exact hfailed

/-- Where the fault of a write has no message, the first pod is the last one in one order,
and the second one is made in the other. -/
theorem pods_cut_short_in_one_order :
    let s := refusing "p" mute
    s.Reachable ∧ twoPods.Identified ∧ Distinct twoPods ∧ twoPods.Perm twoPods.reverse ∧
    (watching twoPods [allPods]).Declares (onDesk s) twoPods [allPods] ∧
    (watching twoPods.reverse [allPods]).Declares (onDesk s) twoPods.reverse [allPods] ∧
    (∃ view vote, (watching twoPods [allPods]).Judges .standard view vote) ∧
    (watching twoPods [allPods]).TakesNote ∧
    (podRun twoPods s).2.store.mutations = [(.create, podIdentity "p")] ∧
    (podRun twoPods.reverse s).2.store.mutations =
      [(.create, podIdentity "q"), (.create, podIdentity "p")] ∧
    ¬ SameEffect s (podRun twoPods s).2.store (podRun twoPods.reverse s).2.store ∧
    ¬ Agree (podRun twoPods s).1 (podRun twoPods.reverse s).1 := by
  intro s
  have hfirst : (podRun twoPods s).2.store.mutations = [(.create, podIdentity "p")] := by
    decide +kernel
  have hsecond : (podRun twoPods.reverse s).2.store.mutations =
      [(.create, podIdentity "q"), (.create, podIdentity "p")] := by
    decide +kernel
  refine ⟨.fail .create (podIdentity "p") mute .empty, twoPods_identified,
    List.pairwise_pair.2 rfl, twoPods.reverse_perm.symm, watching_declares _ _ _,
    watching_declares _ _ _, ⟨_, _, watching_judges _ _⟩,
    watching_takesNote _ _, hfirst, hsecond, ?_, ?_⟩
  · intro heffect
    obtain ⟨made₁, made₂, h₁, h₂, hperm⟩ := heffect.calls
    rw [hfirst] at h₁
    rw [hsecond] at h₂
    have hlength := hperm.length_eq
    rw [← show _ = made₁ from h₁, ← show _ = made₂ from h₂] at hlength
    cases hlength
  · rintro (⟨hok, -⟩ | ⟨faults, -, hraised, -⟩)
    · cases hok
    · cases hraised

end Engine

end OperatorCore
