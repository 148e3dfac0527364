import OperatorCore.Proofs.Engine.Isolation
import OperatorCore.Proofs.Engine.Turns
import OperatorCore.Proofs.Engine.Writes

/-!
# The requests of a pass

What a pass asks of its store has a fixed shape, whatever the store answers and
wherever the pass comes to an end. It reads its resource. Then the components have
their turns, and each of them reads before it writes, and makes and changes objects
before it removes any; if the resource is being deleted, it only reads. The last
request is the write of the resource, if there is one.

The shape of a turn comes from the survey, which asks for reads alone, and from the
agenda, in which the tasks of the expected objects are before those of the observed
ones. The shape of a pass is that of its turns, one after another.
-/

namespace OperatorCore

variable {σ ω : Type}

namespace StoreEvent

/-- The requests of a turn: all reads come first, and all that is created or updated
comes before all that is deleted. While the resource is being deleted, there are
reads alone. -/
def Phased (deleting : Bool) (events : List StoreEvent) : Prop :=
  ∃ (reads : List (Read × Option Fault)) (made removed : List Attempted),
    events = (reads.map fun r => .read r.1 r.2) ++ made.map .wrote ++
      removed.map .wrote ∧
    (∀ a ∈ made, a.write.isDelete = false) ∧
    (∀ a ∈ removed, a.write.isDelete = true) ∧
    (deleting = true → made = [] ∧ removed = [])

theorem Phased.of_reads (deleting : Bool) (reads : List (Read × Option Fault)) :
    Phased deleting (reads.map fun r => .read r.1 r.2) :=
  ⟨reads, [], [], by simp, by simp, by simp, fun _ => ⟨rfl, rfl⟩⟩

theorem Phased.attempted_eq_none {events : List StoreEvent} (h : Phased true events)
    {event : StoreEvent} (hevent : event ∈ events) : event.attempted? = none := by
  obtain ⟨reads, made, removed, rfl, -, -, hnone⟩ := h
  obtain ⟨rfl, rfl⟩ := hnone rfl
  have hread : event ∈ reads.map fun r => StoreEvent.read r.1 r.2 := by
    simpa using hevent
  obtain ⟨r, -, rfl⟩ := List.mem_map.1 hread
  rfl

end StoreEvent

/-- A write that was made for a task was due for it. -/
theorem Settled.Done.mayWrite {store : ObjectStore σ} {settled : Settled ω}
    (h : settled.Done store) {a : Attempted} (ha : settled.attempted = some a) :
    settled.task.MayWrite a.write := by
  obtain ⟨desk, desk', due, s, hdue, hsettled⟩ := h
  rw [hsettled] at ha
  refine ⟨desk, ?_⟩
  rw [hdue]
  cases due with
  | none => cases ha
  | some write =>
      cases ha
      rfl

/-- A write that was made was due for one of the tasks. -/
theorem mayWrite_of_attempted {store : ObjectStore σ} {tasks : List (Task ω)}
    {desk : Desk ω} {s : σ} {a : Attempted}
    (h : a ∈ (carryOut store tasks desk s).attempts) :
    ∃ task ∈ tasks, task.MayWrite a.write := by
  obtain ⟨settled, hmem, hattempted⟩ := List.mem_filterMap.1 h
  exact ⟨settled.task,
    (carryOut_done store tasks desk s).1.subset (List.mem_map_of_mem hmem),
    (carryOut_each_done store tasks desk s settled hmem).mayWrite hattempted⟩

namespace Engine

theorem attempts_agenda (store : ObjectStore σ) (component : Component ω)
    (settings : Settings) (expected observed : Bag) (desk : Desk ω) (s : σ) :
    ∃ made removed : List Attempted,
      (carryOut store (agenda component settings expected observed) desk s).attempts =
        made ++ removed ∧
      (∀ a ∈ made, a.write.isDelete = false) ∧
      (∀ a ∈ removed, a.write.isDelete = true) := by
  let first : List (Task ω) := expected.map fun item =>
    expectedTask component settings observed (item.owned component.owners)
  let second : List (Task ω) := observed.map (observedTask expected)
  let p := carryOut store first desk s
  have hmade : ∀ a ∈ p.attempts, a.write.isDelete = false := by
    intro a ha
    obtain ⟨task, htask, hwrite⟩ := mayWrite_of_attempted ha
    obtain ⟨item, -, rfl⟩ := List.mem_map.1 htask
    exact isDelete_of_expectedTask hwrite
  have hremoved : ∀ a ∈ (carryOut store second p.desk p.store).attempts,
      a.write.isDelete = true := by
    intro a ha
    obtain ⟨task, htask, hwrite⟩ := mayWrite_of_attempted ha
    obtain ⟨item, -, rfl⟩ := List.mem_map.1 htask
    rw [(delete_of_observedTask hwrite).2]
    rfl
  have happend : carryOut store (agenda component settings expected observed) desk s =
      p.andThen (carryOut store second) := carryOut_append store first second desk s
  rw [happend, Progress.andThen]
  cases p.stop with
  | some fault =>
      refine ⟨p.attempts, [], (List.append_nil _).symm, hmade, ?_⟩
      intro a ha
      cases ha
  | none =>
      exact ⟨p.attempts, (carryOut store second p.desk p.store).attempts,
        List.filterMap_append, hmade, hremoved⟩

theorem phased_reconcile (engine : Engine σ) (component : Component ω)
    (w : World (Recorded σ) ω) :
    ∃ asked, ((reconcileComponent engine.recorded component).run w).2.store.events =
      w.store.events ++ asked ∧ StoreEvent.Phased false asked := by
  obtain ⟨reads, hreads⟩ : Recorded.OnlyRead w.store
      ((observeAndMutate engine.recorded component true).run { w with
        log := w.log ++ [⟨some engine.recorded.source, .opened .reconciling⟩] }).2.store :=
    (keeps_observeAndMutate steady_true steady_onlyRead engine.recorded_readsKeep
      component.keeps_true true _).2
  rcases store_of_reconcileComponent engine.recorded component w with
    hsame | ⟨expected, observed, -, -, -, hcarried⟩
  · rw [hsame, hreads]
    exact ⟨_, rfl, .of_reads false reads⟩
  · obtain ⟨made, removed, hattempts, hmade, hremoved⟩ := attempts_agenda
      engine.store.recorded component engine.settings expected observed _ _
    rw [hcarried]
    refine ⟨_, ?_, reads, made, removed, rfl, hmade, hremoved, fun h => by cases h⟩
    refine (carryOut_recorded engine.store _ _ _).trans ?_
    rw [hreads, List.append_assoc, List.append_assoc, ← List.map_append]
    exact congrArg (fun all => _ ++ (_ ++ all)) (congrArg (List.map _) hattempts)

theorem phased_finalize (engine : Engine σ) (component : Component ω)
    (w : World (Recorded σ) ω) :
    ∃ asked, ((finalizeComponent engine.recorded component).run w).2.store.events =
      w.store.events ++ asked ∧ StoreEvent.Phased true asked := by
  obtain ⟨reads, hreads⟩ := (keeps_finalizeComponent steady_true steady_onlyRead
    engine.recorded_readsKeep component.keeps_true w).2
  exact ⟨_, hreads, .of_reads true reads⟩

end Engine

namespace Turn

/-- What is asked of the store in the turn. -/
def asked (engine : Engine (Recorded σ)) (deleting : Bool) (turn : Turn (Recorded σ) ω) :
    List StoreEvent :=
  (turn.run engine deleting).2.store.events.drop turn.world.store.events.length

theorem asked_phased (engine : Engine σ) (deleting : Bool) (turn : Turn (Recorded σ) ω) :
    (turn.run engine.recorded deleting).2.store.events =
      turn.world.store.events ++ turn.asked engine.recorded deleting ∧
    StoreEvent.Phased deleting (turn.asked engine.recorded deleting) := by
  let engine' : Engine σ :=
    { engine with source := engine.source.forComponent turn.component.name }
  have hphased : ∃ asked, (turn.run engine.recorded deleting).2.store.events =
      turn.world.store.events ++ asked ∧ StoreEvent.Phased deleting asked := by
    cases deleting with
    | true => exact Engine.phased_finalize engine' turn.component turn.world
    | false => exact Engine.phased_reconcile engine' turn.component turn.world
  obtain ⟨asked, hevents, hasked⟩ := hphased
  have hdrop : turn.asked engine.recorded deleting = asked := by
    rw [Turn.asked, hevents, List.drop_left]
  rw [hdrop]
  exact ⟨hevents, hasked⟩

end Turn

namespace Engine

/-! ## A pass -/

def SameMark (desk desk' : Desk ω) : Prop :=
  Body.isDeletionOngoing desk'.resource = Body.isDeletionOngoing desk.resource

/-- Before the components have their turns, nothing happens to the deletion mark of
the resource. -/
structure KeepsMark (handle : Handle ω) : Prop where
  validate : Attempt.Keeps SameMark handle.validate
  newStatus : Attempt.Keeps SameMark handle.newStatus
  applyDefaults : Attempt.Keeps SameMark handle.applyDefaults

theorem Prepares.deleting_eq {handle : Handle ω} (hmark : KeepsMark handle)
    {desk desk' : Desk ω} {deleting : Bool} {components : List (Component ω)}
    (h : Prepares handle desk deleting components desk') :
    Body.isDeletionOngoing desk.resource = .ok deleting := by
  obtain ⟨desk₁, status, desk₂, desk₃, hvalidate, hstatus, hdefaults, hdeletion, -⟩ := h
  have hvalidated := hmark.validate desk
  have hfresh := hmark.newStatus desk₁
  have hdefaulted := hmark.applyDefaults { desk₂ with status }
  rw [hvalidate] at hvalidated
  rw [hstatus] at hfresh
  rw [hdefaults] at hdefaulted
  rw [← hdeletion]
  exact (hvalidated.symm.trans hfresh.symm).trans hdefaulted.symm

/-- What follows from the verdict asks at most for the write of the resource. -/
theorem last_of_settleStatus (engine : Engine σ) (handle : Handle ω) (fault : Option Fault)
    (w : World (Recorded σ) ω) :
    let run := (settleStatus engine.recorded handle fault).run w
    ∃ last, run.2.store.events = w.store.events ++ last ∧
      (last = [] ∨ ∃ failure, last = [.wrote ⟨.update run.2.desk.resource, failure⟩]) := by
  intro run
  obtain ⟨hfailed, hkept, hstored⟩ := run_settleStatus engine.recorded handle fault w
  rcases hupdate : ((handle.updateStatus fault).run w.desk).1 with e | _ | _
  · obtain ⟨aggregated, log, hrun⟩ := hfailed e hupdate
    have hrun' : run = _ := hrun
    rw [hrun']
    exact ⟨[], (List.append_nil _).symm, .inl rfl⟩
  · obtain ⟨aggregated, log, hrun⟩ := hkept hupdate
    have hrun' : run = _ := hrun
    rw [hrun']
    exact ⟨[], (List.append_nil _).symm, .inl rfl⟩
  · obtain ⟨s, ⟨aggregated, log, hrun⟩, hs⟩ := hstored hupdate
    have hrun' : run = _ := hrun
    rw [hrun']
    let body := ((handle.updateStatus fault).run w.desk).2.resource
    let failure := (engine.recorded.store.update body w.store).fault?
    refine ⟨[.wrote ⟨.update body, failure⟩], ?_, .inr ⟨failure, rfl⟩⟩
    rcases hs with rfl | ⟨cause, rfl⟩ <;> rfl

theorem events_verdict_of_prepares (engine : Engine σ) {handle : Handle ω}
    {w : World (Recorded σ) ω} {deleting : Bool} {components : List (Component ω)}
    {desk : Desk ω} (h : Prepares handle w.desk deleting components desk) :
    ((verdict engine.recorded handle).run w).2.store.events = w.store.events ++
      (turns engine.recorded deleting components (begun engine.recorded w desk)).flatMap
        (Turn.asked engine.recorded deleting) := by
  rw [run_verdict_of_prepares engine.recorded h]
  exact processEach_adds (fun w : World (Recorded σ) ω => w.store.events)
    fun turn _ => (turn.asked_phased engine deleting).1

theorem last_of_verdict (engine : Engine σ) (handle : Handle ω) (w : World (Recorded σ) ω) :
    let run := (verdict engine.recorded handle >>= settleStatus engine.recorded handle).run w
    ∃ last, run.2.store.events =
        ((verdict engine.recorded handle).run w).2.store.events ++ last ∧
      (last = [] ∨ ∃ failure, last = [.wrote ⟨.update run.2.desk.resource, failure⟩]) := by
  intro run
  rcases hverdict : (verdict engine.recorded handle).run w with ⟨e | fault, w'⟩
  · have hrun : run = (.error e, w') := Attempt.run_bind_error hverdict
    rw [hrun]
    exact ⟨[], (List.append_nil _).symm, .inl rfl⟩
  · have hrun : run = (settleStatus engine.recorded handle fault).run w' :=
      Attempt.run_bind_ok hverdict
    rw [hrun]
    exact last_of_settleStatus engine handle fault w'

/-- The requests of the verdict are those of the turns, if there are any. Only those of a
living resource are writes. -/
theorem asked_of_verdict (engine : Engine σ) (handle : Handle ω)
    (w : World (Recorded σ) ω) :
    ∃ asked, ((verdict engine.recorded handle).run w).2.store.events =
        w.store.events ++ asked ∧
      ((∀ deleting components desk, ¬ Prepares handle w.desk deleting components desk) →
        asked = []) ∧
      (∀ deleting components desk, Prepares handle w.desk deleting components desk →
        asked = (turns engine.recorded deleting components
          (begun engine.recorded w desk)).flatMap (Turn.asked engine.recorded deleting)) ∧
      ((∀ components desk, ¬ Prepares handle w.desk false components desk) →
        ∀ event ∈ asked, event.attempted? = none) := by
  by_cases h : ∃ deleting components desk, Prepares handle w.desk deleting components desk
  · obtain ⟨deleting, components, desk, hprepares⟩ := h
    refine ⟨_, events_verdict_of_prepares engine hprepares,
      fun hnone => absurd hprepares (hnone deleting components desk), ?_, ?_⟩
    · intro deleting' components' desk' hprepares'
      exact List.append_cancel_left
        ((events_verdict_of_prepares engine hprepares).symm.trans
          (events_verdict_of_prepares engine hprepares'))
    · intro hliving event hevent
      cases deleting with
      | false => exact absurd hprepares (hliving components desk)
      | true =>
          obtain ⟨turn, -, hmem⟩ := List.mem_flatMap.1 hevent
          exact (turn.asked_phased engine true).2.attempted_eq_none hmem
  · have hnone : ∀ deleting components desk,
        ¬ Prepares handle w.desk deleting components desk :=
      fun deleting components desk hprepares => h ⟨deleting, components, desk, hprepares⟩
    refine ⟨[], ?_, fun _ => rfl,
      fun deleting components desk hprepares => absurd hprepares (hnone _ _ _),
      fun _ event hevent => absurd hevent List.not_mem_nil⟩
    rw [store_of_not_prepares engine.recorded hnone, List.append_nil]

theorem run_undeclared (store : ObjectStore σ) (settings : Settings) {handle : Handle ω}
    (ns name : Value) (w : World σ ω) (h : handle.apiVersion = none ∨ handle.kind = none) :
    ∃ e, (reconcile store settings handle ns name).run w = (.error e, w) := by
  simp only [reconcile, Attempt.run_bind, Attempt.run_liftM]
  cases hversion : handle.apiVersion with
  | none => exact ⟨_, rfl⟩
  | some apiVersion =>
      rcases h with h | h
      · cases hversion.symm.trans h
      · simp only [h, Handle.declared]
        exact ⟨_, rfl⟩

theorem run_unread {store : ObjectStore σ} (settings : Settings) {handle : Handle ω}
    {apiVersion kind ns name : Value} {w : World σ ω} {e : Fault}
    (hversion : handle.apiVersion = some apiVersion) (hkind : handle.kind = some kind)
    (hget : (store.get apiVersion kind ns name w.store).outcome = .error e) :
    ∃ log, (reconcile store settings handle ns name).run w =
      (.error e, { w with
        store := (store.get apiVersion kind ns name w.store).state, log }) := by
  simp only [reconcile, hversion, hkind, Handle.declared, Attempt.run_bind,
    Attempt.run_liftM, Attempt.run_outcome, Step.run_request, hget]
  split <;> exact ⟨_, rfl⟩

/-- The requests of a pass, for every store and all failures of it. The first one is
the read of the resource. If that is answered, the turns of the components follow,
provided that the pass gets as far as them, and each turn goes through its phases.
The write of the resource is the last request, if it is made. So nothing else is
written where the components are not reconciled. -/
theorem requests_in_order (store : ObjectStore σ) (settings : Settings)
    (handle : Handle ω) (ns name : Value) (w : World (Recorded σ) ω) :
    let run := (reconcile store.recorded settings handle ns name).run w
    (handle.apiVersion = none ∨ handle.kind = none →
      (∃ e, run.1 = .error e) ∧ run.2.store.events = w.store.events) ∧
    ∀ apiVersion kind, handle.apiVersion = some apiVersion → handle.kind = some kind →
      let reply := store.recorded.get apiVersion kind ns name w.store
      let reading : StoreEvent := .read (.get apiVersion kind ns name) reply.fault?
      (∀ e, reply.outcome = .error e →
        run.1 = .error e ∧ run.2.store.events = w.store.events ++ [reading]) ∧
      ∀ body, reply.outcome = .ok body →
        let w₁ := fetched store.recorded apiVersion kind ns name body w
        ∃ asked last, run.2.store.events = w.store.events ++ reading :: (asked ++ last) ∧
          (last = [] ∨
            ∃ failure, last = [.wrote ⟨.update run.2.desk.resource, failure⟩]) ∧
          (∀ e, Source.ofBody body = .error e → asked = [] ∧ last = []) ∧
          ((∀ deleting components desk,
              ¬ Prepares handle w₁.desk deleting components desk) → asked = []) ∧
          (∀ source deleting components desk, Source.ofBody body = .ok source →
            Prepares handle w₁.desk deleting components desk →
            let engine : Engine (Recorded σ) := ⟨store.recorded, settings, source⟩
            let turns := turns engine deleting components (begun engine w₁ desk)
            turns.map Turn.component = components ∧
            asked = turns.flatMap (Turn.asked engine deleting) ∧
            ∀ turn ∈ turns, StoreEvent.Phased deleting (turn.asked engine deleting)) ∧
          ((∀ components desk, ¬ Prepares handle w₁.desk false components desk) →
            ∀ event ∈ asked, event.attempted? = none) ∧
          (KeepsMark handle → Body.isDeletionOngoing body = .ok true →
            ∀ event ∈ asked, event.attempted? = none) := by
  intro run
  refine ⟨?_, ?_⟩
  · intro hundeclared
    obtain ⟨e, he⟩ := run_undeclared store.recorded settings ns name w hundeclared
    have hrun : run = _ := he
    rw [hrun]
    exact ⟨⟨e, rfl⟩, rfl⟩
  · intro apiVersion kind hversion hkind reply reading
    refine ⟨?_, ?_⟩
    · intro e he
      obtain ⟨log, herror⟩ := run_unread settings hversion hkind he
      have hrun : run = _ := herror
      rw [hrun]
      exact ⟨rfl, rfl⟩
    · intro body hbody w₁
      have hrun : run = _ := run_reconcile settings handle hversion hkind hbody
      have hread : w₁.store.events = w.store.events ++ [reading] := rfl
      cases hsource : Source.ofBody body with
      | error e =>
          rw [hsource] at hrun
          rw [hrun]
          refine ⟨[], [], hread, .inl rfl, fun _ _ => ⟨rfl, rfl⟩, fun _ => rfl, ?_, ?_, ?_⟩
          · intro source deleting components desk hok
            cases hok
          · intro _ event hevent
            cases hevent
          · intro _ _ event hevent
            cases hevent
      | ok source =>
          rw [hsource] at hrun
          let engine : Engine σ := ⟨store, settings, source⟩
          obtain ⟨asked, hasked, hnone, hturns, hpending⟩ :=
            asked_of_verdict engine handle w₁
          obtain ⟨last, hlast, hwrite⟩ := last_of_verdict engine handle w₁
          refine ⟨asked, last, ?_, ?_, ?_, hnone, ?_, hpending, ?_⟩
          · rw [hrun]
            refine hlast.trans ?_
            rw [hasked, hread, List.append_assoc, List.append_assoc]
            rfl
          · rw [hrun]
            exact hwrite
          · intro e he
            cases he
          · intro source' deleting components desk hsource' hprepares
            cases hsource'
            exact ⟨turns_component _ _ _ _, hturns deleting components desk hprepares,
              fun turn _ => (turn.asked_phased engine deleting).2⟩
          · intro hmark hongoing
            refine hpending fun components desk hprepares => ?_
            have hdeleting := Prepares.deleting_eq hmark hprepares
            cases hongoing.symm.trans hdeleting

/-- A pass with this handle over a resource that is alone in its store. -/
def podPass : Except Fault Unit × World (Recorded MemoryStore) Unit :=
  (reconcile MemoryStore.asStore.recorded .standard podHandle .null (.str "name")).run
    (start { MemoryStore.empty with
      objects := [(.ofTexts "" "Sample" "name", sampleResource)] })

/-- One component after the other looks up its pod and creates it; then the resource is
stored. -/
theorem pods_made_in_turn :
    podPass.2.store.attempts.map Attempted.write =
      [.create (Body.owned [] (pod "p")), .create (Body.owned [] (pod "q")),
        .update podPass.2.desk.resource] ∧
    ∃ first second last, podPass.2.store.events =
        .read (.get (.str "v1") (.str "Sample") .null (.str "name")) none ::
          (first ++ second ++ last) ∧
      StoreEvent.Phased false first ∧ StoreEvent.Phased false second := by
  refine ⟨by decide +kernel, ?_⟩
  obtain ⟨-, h⟩ := requests_in_order MemoryStore.asStore .standard podHandle .null
    (.str "name") (start { MemoryStore.empty with
      objects := [(.ofTexts "" "Sample" "name", sampleResource)] })
  obtain ⟨-, h⟩ := h (.str "v1") (.str "Sample") rfl rfl
  obtain ⟨asked, last, hevents, -, -, -, hturns, -, -⟩ := h sampleResource rfl
  have hprepares : Prepares podHandle ⟨sampleResource, .obj [], ()⟩ false
      [expecting [.managed (pod "p")], expecting [.managed (pod "q")]]
      ⟨sampleResource, .obj [], ()⟩ := ⟨_, _, _, _, rfl, rfl, rfl, rfl, rfl⟩
  obtain ⟨source, hsource⟩ : ∃ source, Source.ofBody sampleResource = .ok source :=
    ⟨_, rfl⟩
  obtain ⟨-, hasked, hphased⟩ := hturns source false _ _ hsource hprepares
  simp only [turns, List.flatMap_cons, List.flatMap_nil, List.append_nil,
    List.forall_mem_cons] at hasked hphased
  obtain ⟨hfirst, hsecond, -⟩ := hphased
  rw [hasked] at hevents
  refine ⟨_, _, last, ?_, hfirst, hsecond⟩
  unfold podPass
  rw [hevents]
  rfl

end Engine

end OperatorCore
