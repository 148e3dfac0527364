import OperatorCore.Proofs.Engine.Isolation
import OperatorCore.Proofs.Engine.StatusWrite
import OperatorCore.Proofs.Engine.Survey

/-!
# What comes of a run of a component

The outcome of a run is told four times: by the faults that are raised, by the
objects that the component is told to be live, by the log, and by the calls of the
store. Each object of the survey has one entry in each of them, or none, and the
entries of all four follow from what has come of the object: this is what `Comes`
and `Goes` list, case by case. The four lists are then read off one and the same
list of upshots, in the order in which the objects were processed.

That the log agrees with the calls is shown of every run, however it ends: the
report of a success follows the call at once. The rest needs the run to get to its
end. It does if no callback fails, which is seen by a twin of the component that
counts the failures, and if each fault of the store has a message.
-/

namespace OperatorCore

variable {σ ω α β : Type}

/-! ## Callbacks that fail are counted -/

namespace Attempt

/-- A count is never lowered, and raised by a failure. -/
def Shows (count : σ → Nat) (x : Attempt σ α) : Prop :=
  ∀ s, count s ≤ count (x.run s).2 ∧
    ∀ e, (x.run s).1 = .error e → count s < count (x.run s).2

section Shows

variable {count : σ → Nat}

theorem shows_pure (a : α) : Shows count (pure a : Attempt σ α) := by
  intro s
  refine ⟨Nat.le_refl _, ?_⟩
  intro e h
  cases h

theorem shows_bind {x : Attempt σ α} {f : α → Attempt σ β} (hx : Shows count x)
    (hf : ∀ a, Shows count (f a)) : Shows count (x >>= f) := by
  intro s
  obtain ⟨hle, hlt⟩ := hx s
  rw [run_bind]
  split
  · next a s' h =>
      rw [h] at hle
      obtain ⟨hle', hlt'⟩ := hf a s'
      exact ⟨Nat.le_trans hle hle', fun e he => Nat.lt_of_le_of_lt hle (hlt' e he)⟩
  · next e s' h =>
      rw [h] at hle hlt
      exact ⟨hle, fun _ _ => hlt e rfl⟩

theorem Shows.keeps {x : Attempt σ α} (h : Shows count x) :
    Keeps (fun s s' => count s ≤ count s') x :=
  fun s => (h s).1

/-- Where the count has not been raised, there is an answer. -/
theorem Shows.answers {x : Attempt σ α} (h : Shows count x) {s : σ}
    (hcount : count (x.run s).2 = count s) : ∃ a, (x.run s).1 = .ok a := by
  cases hrun : (x.run s).1 with
  | ok a => exact ⟨a, rfl⟩
  | error e =>
      have hlt := (h s).2 e hrun
      omega

end Shows

theorem steady_raises (count : σ → Nat) : Steady fun s s' => count s ≤ count s' :=
  ⟨fun _ => Nat.le_refl _, Nat.le_trans⟩

end Attempt

/-- What an application keeps, beside the number of its callbacks that have failed. -/
structure Watched (ω : Type) where
  app : ω
  lapses : Nat

/-- The same callback; a failure of it is counted. -/
def Hook.watched (hook : Hook ω α) : Hook (Watched ω) α := do
  let outcome ← (Attempt.within
    (fun desk : Desk (Watched ω) => (⟨desk.resource, desk.status, desk.app.app⟩ : Desk ω))
    (fun desk whole => ⟨desk.resource, desk.status, ⟨desk.app, whole.app.lapses⟩⟩)
    hook).outcome
  match outcome with
  | .ok a => pure a
  | .error fault =>
    Attempt.modify fun desk =>
      { desk with app := { desk.app with lapses := desk.app.lapses + 1 } }
    Attempt.fail fault

/-- The component with a count of its callbacks that have failed. -/
def Component.watched (component : Component ω) : Component (Watched ω) where
  name := component.name
  labels := component.labels
  owners := component.owners
  expectedObjects bag := Hook.watched (component.expectedObjects bag)
  observables bag := Hook.watched (component.observables bag)
  mutate expected observed := Hook.watched (component.mutate expected observed)
  differs a b := Hook.watched (component.differs a b)
  comparable body fields := Hook.watched (component.comparable body fields)
  finalize bag := Hook.watched (component.finalize bag)
  updateStatus live fault := Hook.watched (component.updateStatus live fault)

/-- How many callbacks have failed. -/
def Desk.lapses (desk : Desk (Noted (Watched ω))) : Nat := desk.app.app.lapses

theorem shows_watched (hook : Hook ω α) :
    Attempt.Shows Desk.lapses (Hook.noted (Hook.watched hook)) := by
  intro desk
  simp only [Hook.noted, Hook.watched, Attempt.run_within, Attempt.run_bind,
    Attempt.run_outcome]
  rcases (hook.run ⟨desk.resource, desk.status, desk.app.app.app⟩) with ⟨e | a, desk'⟩
  · exact ⟨Nat.le_succ _, fun _ _ => Nat.lt_succ_self _⟩
  · refine ⟨Nat.le_refl _, ?_⟩
    intro e h
    cases h

theorem Component.watched_keeps (component : Component ω) :
    component.watched.noted.Keeps fun desk desk' => desk.lapses ≤ desk'.lapses where
  expectedObjects _ := (shows_watched _).keeps
  observables _ := (shows_watched _).keeps
  mutate _ _ := (shows_watched _).keeps
  differs _ _ := (shows_watched _).keeps
  comparable _ _ := (shows_watched _).keeps
  finalize _ := (shows_watched _).keeps
  updateStatus _ _ _ := (shows_watched _ _).1

/-- Where neither a callback fails nor a fault is without a message, all tasks are
done. -/
theorem carryOut_completes {count : Desk ω → Nat} {store : ObjectStore σ}
    {tasks : List (Task ω)} (h : ∀ task ∈ tasks, Attempt.Shows count task.due)
    {desk : Desk ω} {s : σ}
    (hcount : count (carryOut store tasks desk s).desk = count desk)
    (htold : ∀ a ∈ (carryOut store tasks desk s).attempts, a.Told) :
    (carryOut store tasks desk s).stop = none := by
  induction tasks generalizing desk s with
  | nil => rfl
  | cons task rest ih =>
      obtain ⟨hdue, hrest⟩ := List.forall_mem_cons.1 h
      obtain ⟨hle, hlt⟩ := hdue desk
      rcases hrun : task.due.run desk with ⟨fault | due, desk'⟩
      · rw [hrun] at hlt
        simp only [carryOut, hrun] at hcount
        exact absurd hcount (Nat.ne_of_gt (hlt fault rfl))
      · have hle' : count desk ≤ count desk' := by
          rw [hrun] at hle
          exact hle
        have hmore := carryOut_keeps_desk (Attempt.steady_raises count) store
          (fun task hmem => (hrest task hmem).keeps) desk' (task.settle store due s).2
        simp only [carryOut, hrun, Settled.proceed] at hcount htold ⊢
        cases hf : (task.settle store due s).1.failure with
        | error fault =>
            rw [hf] at htold
            obtain ⟨f, hok⟩ := (Settled.failure_eq_ok_iff _).2 fun a ha =>
              htold a (List.mem_filterMap.2 ⟨_, List.mem_singleton_self _, ha⟩)
            rw [hf] at hok
            cases hok
        | ok f =>
            rw [hf] at hcount htold
            refine ih hrest ?_ ?_
            · exact Nat.le_antisymm (Nat.le_trans (Nat.le_of_eq hcount) hle') hmore
            · intro a ha
              obtain ⟨settled, hmem, hattempted⟩ := List.mem_filterMap.1 ha
              exact htold a (List.mem_filterMap.2
                ⟨settled, List.mem_cons_of_mem _ hmem, hattempted⟩)

/-! ## The log and the calls of the store -/

/-- An engine reports that a write was made. -/
def Line.tellsWrite (line : Line) : Bool :=
  line.source.isSome && line.notice.written?.isSome

/-- The line that reports a write, if it was made. -/
def Attempted.line? (source : Source) (attempted : Attempted) : Option Line :=
  if attempted.fault.isSome then none
  else some ⟨some source,
    .written attempted.write.operation (Body.key attempted.write.body)⟩

/-- Between two worlds, the writes that were made are just those that the log tells
of. -/
def World.Marks (source : Source) (w w' : World (Recorded σ) ω) : Prop :=
  ∃ made : List Attempted, w'.store.attempts = w.store.attempts ++ made ∧
    w'.log.filter Line.tellsWrite = w.log.filter Line.tellsWrite
      ++ made.filterMap (Attempted.line? source)

theorem marks_of_nothing {source : Source} {w w' : World (Recorded σ) ω}
    (hattempts : w'.store.attempts = w.store.attempts)
    (hlog : w'.log.filter Line.tellsWrite = w.log.filter Line.tellsWrite) :
    World.Marks source w w' :=
  ⟨[], by rw [hattempts, List.append_nil],
    by rw [hlog, List.filterMap_nil, List.append_nil]⟩

theorem steady_marks (source : Source) :
    Steady (World.Marks (σ := σ) (ω := ω) source) where
  refl _ := marks_of_nothing rfl rfl
  trans := by
    rintro a b c ⟨first, hfirst, hfirstLog⟩ ⟨second, hsecond, hsecondLog⟩
    refine ⟨first ++ second, ?_, ?_⟩
    · rw [hsecond, hfirst, List.append_assoc]
    · rw [hsecondLog, hfirstLog, List.filterMap_append, List.append_assoc]

/-- What a store reports has no source. -/
theorem filter_tellsWrite_notices (notices : List Notice) :
    (notices.map fun n => (⟨none, n⟩ : Line)).filter Line.tellsWrite = [] := by
  rw [List.filter_eq_nil_iff]
  intro line hline
  obtain ⟨n, -, rfl⟩ := List.mem_map.1 hline
  exact Bool.false_ne_true

namespace Engine

theorem marks_report (source : Source) {notice : Notice}
    (h : notice.written? = none) :
    Attempt.Keeps (World.Marks (σ := σ) (ω := ω) source)
      (Step.report source notice) := by
  intro w
  refine marks_of_nothing rfl ?_
  simp only [Step.run_report, List.filter_append, List.filter_cons, Line.tellsWrite, h,
    Option.isSome_none, Bool.and_false, Bool.false_eq_true, if_false, List.filter_nil,
    List.append_nil]

theorem marks_read {source : Source} {operation : Recorded σ → Reply (Recorded σ) α}
    (h : ∀ s, Recorded.OnlyRead s (operation s).state) :
    Attempt.Keeps (World.Marks (ω := ω) source) (Step.request operation) := by
  intro w
  refine marks_of_nothing (h w.store).attempts_eq ?_
  simp only [Step.run_request, List.filter_append, filter_tellsWrite_notices,
    List.append_nil]

/-- A write is followed by its report at once. -/
theorem marks_write (engine : Engine σ) (due : Write)
    {operation : Recorded σ → Reply (Recorded σ) α}
    (h : ∀ s, (operation s).state.attempts =
      s.attempts ++ [⟨due, (operation s).fault?⟩]) :
    Attempt.Keeps (World.Marks (ω := ω) engine.source)
      (write engine.recorded due.operation (Body.key due.body) operation) := by
  intro w
  refine ⟨[⟨due, (operation w.store).fault?⟩], ?_⟩
  have hstore := h w.store
  simp only [write, Attempt.run_bind, Attempt.run_outcome, Step.run_request]
  cases ho : (operation w.store).outcome with
  | ok a =>
      have hfault : (operation w.store).fault? = none := by rw [Reply.fault?, ho]
      simp only [Attempt.run_bind, Step.run_report, Attempt.run_pure]
      refine ⟨hstore, ?_⟩
      rw [hfault, List.filter_append, List.filter_append, filter_tellsWrite_notices,
        List.append_nil]
      rfl
  | error fault =>
      have hfault : (operation w.store).fault? = some fault := by rw [Reply.fault?, ho]
      have hline : [(⟨due, some fault⟩ : Attempted)].filterMap
          (Attempted.line? engine.source) = [] := rfl
      rw [hfault] at hstore ⊢
      rw [hline, List.append_nil]
      simp only [Attempt.run_bind, Attempt.run_liftM, Fault.mutation]
      cases fault.message with
      | error e =>
          refine ⟨hstore, ?_⟩
          simp only [bind, Except.bind, List.filter_append, filter_tellsWrite_notices,
            List.append_nil]
      | ok text =>
          refine ⟨hstore, ?_⟩
          show (w.log ++ _ ++ [(⟨_, .writeFailed _ _ _⟩ : Line)]).filter _ = _
          rw [List.filter_append, List.filter_append, filter_tellsWrite_notices,
            List.append_nil]
          exact List.append_nil _

/-- The log of a run tells of the writes that were made, in their order, and of no
others, however the run ends. -/
theorem marks_reconcileComponent (engine : Engine σ) (component : Component ω) :
    Attempt.Keeps (World.Marks engine.source)
      (reconcileComponent engine.recorded component) := by
  have hR := steady_marks (σ := σ) (ω := ω) engine.source
  have hattempts : ∀ (s : Recorded σ) (state : σ) (a : Attempted),
      Recorded.attempts ⟨state, s.events ++ [.wrote a]⟩ = s.attempts ++ [a] := by
    intro s state a
    rw [Recorded.attempts, List.filterMap_append]
    rfl
  refine keeps_reconcileComponent_of hR ?_ ?_ ?_ ?_
  · refine keeps_observeAndMutate_of hR (fun _ h => marks_report _ h)
      (fun _ _ _ _ => marks_read fun s => engine.store.recorded_get _ _ _ _ s)
      (fun _ _ _ _ => marks_read fun s => engine.store.recorded_list _ _ _ _ s) ?_ ?_ ?_
      true
    · exact fun _ _ => marks_of_nothing rfl rfl
    · exact fun _ _ => marks_of_nothing rfl rfl
    · exact fun _ _ _ => marks_of_nothing rfl rfl
  · exact {
      report := fun _ h => marks_report _ h
      comparable := fun _ _ _ => marks_of_nothing rfl rfl
      differs := fun _ _ _ => marks_of_nothing rfl rfl
      create := fun body => marks_write engine (.create body) fun s => hattempts s _ _
      update := fun body => marks_write engine (.update body) fun s => hattempts s _ _
      delete := fun body => marks_write engine (.delete body) fun s => hattempts s _ _ }
  · exact fun _ _ _ _ => marks_of_nothing rfl rfl
  · exact fun _ _ _ => marks_of_nothing rfl rfl

end Engine

/-! ## What comes of each object -/

/-- What has come of an object: the write that was made for it, what is wrong with it,
and what is live of it, if there is any of these. -/
structure Upshot where
  attempted : Option Attempted
  fault : Option Fault
  live : Option Value

/-- The fault that is made of the failure of a write. It tells the text of its cause. -/
def Fault.failed (operation : Operation) (identity : Identity) (cause : Fault)
    (text : String) : Fault :=
  ⟨.mutation (.str operation.text) identity text, some cause⟩

/-- What may come of an expected object that has its owners. -/
inductive Comes (name : Value) (observed : Bag) (item : Tagged) : Upshot → Prop where
  | left {c : Tagged} :
      observed.counterpart item.key = some c →
      Comes name observed item ⟨none, none, some c.object⟩
  | updated {c : Tagged} :
      observed.counterpart item.key = some c → item.isManaged = true →
      Comes name observed item
        ⟨some ⟨.update (Body.versioned (Body.version c.object) item.object), none⟩,
          none, some c.object⟩
  | notUpdated {c : Tagged} {cause : Fault} {text : String} :
      observed.counterpart item.key = some c → item.isManaged = true →
      cause.message = .ok text →
      Comes name observed item
        ⟨some ⟨.update (Body.versioned (Body.version c.object) item.object), some cause⟩,
          some (.failed .update item.key cause text), some c.object⟩
  | created :
      observed.counterpart item.key = none → item.isManaged = true →
      Comes name observed item
        ⟨some ⟨.create item.object, none⟩, none, some item.object⟩
  | notCreated {cause : Fault} {text : String} :
      observed.counterpart item.key = none → item.isManaged = true →
      cause.message = .ok text →
      Comes name observed item
        ⟨some ⟨.create item.object, some cause⟩,
          some (.failed .create item.key cause text), none⟩
  | missing :
      observed.counterpart item.key = none → item.isManaged = false →
      Comes name observed item ⟨none, some (.of (.missing item.key name)), none⟩

/-- What may come of an observed object when the expected ones are done. -/
inductive Goes (expected : Bag) (c : Tagged) : Upshot → Prop where
  | left :
      (expected.counterpart c.key).isSome = true → Goes expected c ⟨none, none, none⟩
  | deleted :
      expected.counterpart c.key = none →
      Goes expected c ⟨some ⟨.delete c.object, none⟩, none, none⟩
  | notDeleted {cause : Fault} {text : String} :
      expected.counterpart c.key = none → cause.message = .ok text →
      Goes expected c
        ⟨some ⟨.delete c.object, some cause⟩, some (.failed .delete c.key cause text), none⟩

namespace Settled

/-- What has come of the object of a task. -/
def upshot (settled : Settled ω) : Upshot :=
  ⟨settled.attempted, settled.faults.head?, settled.live.head?⟩

/-- There is no more to a task than its upshot. -/
def Summed (settled : Settled ω) : Prop :=
  settled.faults = settled.upshot.fault.toList ∧
    settled.live = settled.upshot.live.toList

theorem settle_eq (task : Task ω) (store : ObjectStore σ) (due : Option Write) (s : σ) :
    (task.settle store due s).1 =
      ⟨task, due.map fun write => ⟨write, (store.attempt write s).1⟩⟩ := by
  cases due <;> rfl

/-- A task that was done without a stop: nothing was due, or what was due was made, or
it was not and a fault was made of that. -/
theorem Done.cases {store : ObjectStore σ} {task : Task ω} {attempted : Option Attempted}
    {f : Option Fault} (h : (⟨task, attempted⟩ : Settled ω).Done store)
    (hf : failure ⟨task, attempted⟩ = .ok f) :
    ∃ desk desk' due, task.due.run desk = (.ok due, desk') ∧
      ((due = none ∧ attempted = none ∧ f = none) ∨
        (∃ write, due = some write ∧ attempted = some ⟨write, none⟩ ∧ f = none) ∨
        ∃ write cause text, due = some write ∧ attempted = some ⟨write, some cause⟩ ∧
          cause.message = .ok text ∧
          f = some (.failed write.operation task.identity cause text)) := by
  obtain ⟨desk, desk', due, s, hdue, hsettled⟩ := h
  refine ⟨desk, desk', due, hdue, ?_⟩
  obtain rfl : attempted =
      due.map fun write => ⟨write, (store.attempt write s).1⟩ := by
    rw [settle_eq] at hsettled
    exact congrArg Settled.attempted hsettled
  cases due with
  | none =>
      cases hf
      exact .inl ⟨rfl, rfl, rfl⟩
  | some write =>
      rw [Option.map_some] at hf ⊢
      cases hfault : (store.attempt write s).1 with
      | none =>
          rw [hfault] at hf
          cases hf
          exact .inr (.inl ⟨write, rfl, rfl, rfl⟩)
      | some cause =>
          rw [hfault] at hf
          simp only [failure, Option.bind_some, Option.map_some, Fault.mutation] at hf
          cases hm : cause.message with
          | error e =>
              rw [hm] at hf
              cases hf
          | ok text =>
              rw [hm] at hf
              cases hf
              exact .inr (.inr ⟨write, cause, text, rfl, rfl, hm, rfl⟩)

end Settled

namespace Engine

/-- An update is due only for a managed object. -/
theorem managed_of_judge {component : Component ω} {settings : Settings} {item : Tagged}
    {observed : Value} {desk desk' : Desk ω}
    (h : (judge component settings item observed).run desk = (.ok true, desk')) :
    item.isManaged = true := by
  cases hmanaged : item.isManaged with
  | true => rfl
  | false =>
      rw [judge, hmanaged] at h
      cases h

theorem due_revision_cases {component : Component ω} {settings : Settings}
    {item counterpart : Tagged} {desk desk' : Desk ω} {write : Write}
    (h : (revision component settings item counterpart).due.run desk =
      (.ok (some write), desk')) :
    item.isManaged = true ∧
      write = .update (Body.versioned (Body.version counterpart.object) item.object) := by
  rw [run_due_revision] at h
  split at h
  · next hjudge =>
      cases h
      refine ⟨?_, rfl⟩
      rw [← Tagged.isManaged_versioned (Body.version counterpart.object)]
      exact managed_of_judge hjudge
  · cases h
  · cases h

theorem upshot_of_revision {store : ObjectStore σ} {component : Component ω}
    {settings : Settings} {observed : Bag} {item c : Tagged}
    {attempted : Option Attempted} {f : Option Fault}
    (hc : observed.counterpart item.key = some c)
    (hdone : (⟨revision component settings item c, attempted⟩ : Settled ω).Done store)
    (hf : Settled.failure ⟨revision component settings item c, attempted⟩ = .ok f) :
    let settled : Settled ω := ⟨revision component settings item c, attempted⟩
    Comes component.name observed item settled.upshot ∧ settled.Summed := by
  intro settled
  have hfaults : settled.faults = f.toList := Settled.faults_of_failure hf
  have hlive : settled.live = [c.object] := rfl
  simp only [Settled.Summed, Settled.upshot, hfaults, hlive]
  obtain ⟨desk, desk', due, hdue, ⟨rfl, rfl, rfl⟩ | ⟨write, rfl, rfl, rfl⟩ |
    ⟨write, cause, text, rfl, rfl, htext, rfl⟩⟩ := hdone.cases hf
  · exact ⟨.left hc, rfl, rfl⟩
  · obtain ⟨hmanaged, rfl⟩ := due_revision_cases hdue
    exact ⟨.updated hc hmanaged, rfl, rfl⟩
  · obtain ⟨hmanaged, rfl⟩ := due_revision_cases hdue
    exact ⟨.notUpdated hc hmanaged htext, rfl, rfl⟩

theorem upshot_of_addition {store : ObjectStore σ} {component : Component ω}
    {observed : Bag} {item : Tagged} {attempted : Option Attempted} {f : Option Fault}
    (hc : observed.counterpart item.key = none)
    (hdone : (⟨addition component item, attempted⟩ : Settled ω).Done store)
    (hf : Settled.failure ⟨addition component item, attempted⟩ = .ok f) :
    let settled : Settled ω := ⟨addition component item, attempted⟩
    Comes component.name observed item settled.upshot ∧ settled.Summed := by
  intro settled
  have hfaults : settled.faults =
      (if item.isManaged then [] else [.of (.missing item.key component.name)])
        ++ f.toList := Settled.faults_of_failure hf
  have hlive : settled.live = if item.isManaged && !f.isSome then [item.object] else [] :=
    Settled.live_of_failure hf
  simp only [Settled.Summed, Settled.upshot, hfaults, hlive]
  obtain ⟨desk, desk', due, hdue, hcases⟩ := hdone.cases hf
  obtain rfl := Except.ok.inj (Prod.mk.inj hdue).1
  cases hmanaged : item.isManaged with
  | false =>
      rw [hmanaged] at hcases
      obtain ⟨-, rfl, rfl⟩ | ⟨write, hdue, -⟩ | ⟨write, cause, text, hdue, -⟩ := hcases
      · exact ⟨.missing hc hmanaged, rfl, rfl⟩
      · cases hdue
      · cases hdue
  | true =>
      rw [hmanaged] at hcases
      obtain ⟨hdue, -⟩ | ⟨write, hdue, rfl, rfl⟩ |
        ⟨write, cause, text, hdue, rfl, htext, rfl⟩ := hcases
      · cases hdue
      · cases hdue
        exact ⟨.created hc hmanaged, rfl, rfl⟩
      · cases hdue
        exact ⟨.notCreated hc hmanaged htext, rfl, rfl⟩

/-- What comes of an expected object. -/
theorem comes_of_done {store : ObjectStore σ} {component : Component ω}
    {settings : Settings} {observed : Bag} {item : Tagged} {settled : Settled ω}
    {f : Option Fault} (hdone : settled.Done store)
    (htask : settled.task = expectedTask component settings observed item)
    (hf : settled.failure = .ok f) :
    Comes component.name observed item settled.upshot ∧ settled.Summed := by
  obtain ⟨task, attempted⟩ := settled
  obtain rfl : task = _ := htask
  cases hc : observed.counterpart item.key with
  | some c =>
      have htask : expectedTask component settings observed item =
          revision component settings item c := by
        rw [expectedTask, hc]
      rw [htask] at hdone hf ⊢
      exact upshot_of_revision hc hdone hf
  | none =>
      have htask : expectedTask component settings observed item =
          addition component item := by
        rw [expectedTask, hc]
      rw [htask] at hdone hf ⊢
      exact upshot_of_addition hc hdone hf

/-- What comes of an observed object. -/
theorem goes_of_done {store : ObjectStore σ} {expected : Bag} {c : Tagged}
    {settled : Settled ω} {f : Option Fault} (hdone : settled.Done store)
    (htask : settled.task = observedTask expected c) (hf : settled.failure = .ok f) :
    Goes expected c settled.upshot ∧ settled.Summed := by
  obtain ⟨task, attempted⟩ := settled
  obtain rfl : task = _ := htask
  have hfaults := Settled.faults_of_failure hf
  simp only [Settled.Summed, Settled.upshot, hfaults]
  obtain ⟨desk, desk', due, hdue, hcases⟩ := hdone.cases hf
  obtain rfl := Except.ok.inj (Prod.mk.inj hdue).1
  cases hc : expected.counterpart c.key with
  | some item =>
      rw [hc] at hcases
      obtain ⟨-, rfl, rfl⟩ | ⟨write, hdue, -⟩ | ⟨write, cause, text, hdue, -⟩ := hcases
      · exact ⟨.left (by rw [hc]; rfl), rfl, rfl⟩
      · cases hdue
      · cases hdue
  | none =>
      rw [hc] at hcases
      obtain ⟨hdue, -⟩ | ⟨write, hdue, rfl, rfl⟩ |
        ⟨write, cause, text, hdue, rfl, htext, rfl⟩ := hcases
      · cases hdue
      · cases hdue
        exact ⟨.deleted hc, rfl, rfl⟩
      · cases hdue
        exact ⟨.notDeleted hc htext, rfl, rfl⟩

/-- Objects in order beside what was done about them, if this was the task of each. -/
theorem forall₂_of_tasks {β : Type} {P : β → Settled ω → Prop} {f : β → Task ω} {bag : List β}
    {done : List (Settled ω)} (htasks : done.map Settled.task = bag.map f)
    (h : ∀ settled ∈ done, ∀ item, settled.task = f item → P item settled) :
    List.Forall₂ P bag done := by
  induction bag generalizing done with
  | nil =>
      rw [List.map_nil, List.map_eq_nil_iff] at htasks
      rw [htasks]
      exact .nil
  | cons item rest ih =>
      cases done with
      | nil => cases htasks
      | cons settled others =>
          rw [List.map_cons, List.map_cons, List.cons.injEq] at htasks
          obtain ⟨hhead, htail⟩ := List.forall_mem_cons.1 h
          exact .cons (hhead item htasks.1) (ih htasks.2 htail)

/-- Without a stop, each object comes to something, in its turn, and this is all that
there is to tell of the agenda. -/
theorem upshots_of_carryOut {store : ObjectStore σ} {component : Component ω}
    {settings : Settings} {expected observed : Bag} {desk : Desk ω} {s : σ}
    (hstop : (carryOut store (agenda component settings expected observed) desk s).stop =
      none) :
    let p := carryOut store (agenda component settings expected observed) desk s
    ∃ first second : List Upshot,
      List.Forall₂ (Comes component.name observed)
        (expected.map (Tagged.owned component.owners)) first ∧
      List.Forall₂ (Goes expected) observed second ∧
      p.attempts = (first ++ second).filterMap Upshot.attempted ∧
      p.faults = (first ++ second).filterMap Upshot.fault ∧
      p.live = (first ++ second).filterMap Upshot.live := by
  intro p
  have htasks : p.done.map Settled.task = _ := (carryOut_done _ _ _ _).2 hstop
  have hdone : ∀ settled ∈ p.done, settled.Done store := carryOut_each_done _ _ _ _
  have hfailures : ∀ settled ∈ p.done, ∃ f, settled.failure = .ok f :=
    carryOut_failures _ _ _ _ hstop
  rw [agenda, List.map_eq_append_iff] at htasks
  obtain ⟨before, after, hsplit, hbefore, hafter⟩ := htasks
  rw [hsplit] at hdone hfailures
  have hcomes : List.Forall₂ (fun item settled =>
      Comes component.name observed (Tagged.owned component.owners item) settled.upshot ∧
        settled.Summed) expected before := by
    refine forall₂_of_tasks hbefore ?_
    intro settled hmem item htask
    obtain ⟨f, hf⟩ := hfailures settled (List.mem_append_left _ hmem)
    exact comes_of_done (hdone settled (List.mem_append_left _ hmem)) htask hf
  have hgoes : List.Forall₂ (fun c settled =>
      Goes expected c settled.upshot ∧ settled.Summed) observed after := by
    refine forall₂_of_tasks hafter ?_
    intro settled hmem c htask
    obtain ⟨f, hf⟩ := hfailures settled (List.mem_append_right _ hmem)
    exact goes_of_done (hdone settled (List.mem_append_right _ hmem)) htask hf
  have hsummed : ∀ settled ∈ p.done, settled.Summed := by
    intro settled hmem
    rw [hsplit] at hmem
    rcases List.mem_append.1 hmem with hmem | hmem
    · exact ((List.forall₂_and_left _ _).1 (hcomes.flip.imp fun _ _ => And.symm)).1 _ hmem
    · exact ((List.forall₂_and_left _ _).1 (hgoes.flip.imp fun _ _ => And.symm)).1 _ hmem
  refine ⟨before.map Settled.upshot, after.map Settled.upshot, ?_, ?_, ?_, ?_, ?_⟩
  · rw [List.forall₂_map_left_iff, List.forall₂_map_right_iff]
    exact hcomes.imp fun _ _ h => h.1
  · rw [List.forall₂_map_right_iff]
    exact hgoes.imp fun _ _ h => h.1
  · rw [← List.map_append, ← hsplit, List.filterMap_map]
    rfl
  · rw [← List.map_append, ← hsplit, List.filterMap_map, List.filterMap_eq_flatMap_toList]
    exact List.flatMap_congr fun settled hmem => (hsummed settled hmem).1
  · rw [← List.map_append, ← hsplit, List.filterMap_map, List.filterMap_eq_flatMap_toList]
    exact List.flatMap_congr fun settled hmem => (hsummed settled hmem).2

/-! ## The end of the run -/

section Noted

variable {component : Component ω} {settings : Settings} {expected observed : Bag}

theorem shows_due (component : Component ω) (settings : Settings)
    (expected observed : Bag) :
    ∀ task ∈ agenda component.watched.noted settings expected observed,
      Attempt.Shows Desk.lapses task.due :=
  due_of_agenda (Q := Attempt.Shows Desk.lapses) Attempt.shows_pure Attempt.shows_bind
    (fun _ _ => shows_watched _) (fun _ _ => shows_watched _) settings expected observed

theorem untold_due (component : Component ω) (settings : Settings)
    (expected observed : Bag) :
    ∀ task ∈ agenda component.noted settings expected observed,
      Attempt.Keeps Untold task.due := by
  have hcomparable : ∀ body fields,
      Attempt.Keeps Untold (component.noted.comparable body fields) := fun _ _ _ => rfl
  have hdiffers : ∀ a b, Attempt.Keeps Untold (component.noted.differs a b) :=
    fun _ _ _ => rfl
  exact due_of_agenda (Q := Attempt.Keeps Untold) (Attempt.keeps_pure steady_untold)
    (Attempt.keeps_bind steady_untold) hcomparable hdiffers settings expected observed

/-- Until the agenda is carried out, the component is not told anything. -/
theorem untold_of_surveys {engine : Engine σ} {component : Component ω}
    {w w₁ : World (Recorded σ) (Noted ω)} {expected observed : Bag}
    (hsurvey : Surveys engine.recorded component.noted w expected observed w₁) :
    (carryOut engine.store.recorded
      (agenda component.noted engine.settings expected observed) w₁.desk
      w₁.store).desk.app.told = w.desk.app.told := by
  obtain ⟨stage, hobserve⟩ := hsurvey
  have hkept := (keeps_survey_noted engine component true (opened engine.recorded w)).1
  rw [show (observeAndMutate engine.recorded component.noted true).run
    (opened engine.recorded w) = _ from hobserve] at hkept
  exact steady_untold.trans hkept
    (carryOut_keeps_desk steady_untold _ (untold_due component _ _ _) _ _)

theorem shows_updateStatus (component : Component ω) (live : List Value)
    (fault : Option Fault) :
    Attempt.Shows Desk.lapses (component.watched.noted.updateStatus live fault) := by
  refine Attempt.shows_bind ?_ fun _ => shows_watched _
  intro desk
  refine ⟨Nat.le_refl _, ?_⟩
  intro e h
  cases h

theorem conclusion_raises (component : Component ω) (p : Progress σ (Noted (Watched ω)))
    (desk : Desk (Noted (Watched ω))) :
    desk.lapses ≤ ((conclusion component.watched.noted p).run desk).2.lapses := by
  have hR := Attempt.steady_raises (Desk.lapses (ω := ω))
  refine Attempt.keeps_bind hR (Attempt.keeps_liftM hR _) (fun _ => ?_) desk
  refine Attempt.keeps_bind hR (shows_updateStatus component _ _).keeps fun _ => ?_
  split
  · exact Attempt.keeps_fail hR _
  · exact Attempt.keeps_pure hR _

/-- A conclusion without a stop in which no callback fails. -/
theorem run_conclusion_of_returned {p : Progress σ (Noted (Watched ω))}
    (hstop : p.stop = none)
    (hreturn : ((conclusion component.watched.noted p).run p.desk).2.lapses =
      p.desk.lapses) :
    (conclusion component.watched.noted p).run p.desk =
      (raised p.fault,
        ((component.watched.noted.updateStatus p.live p.fault).run p.desk).2) := by
  have hshows := shows_updateStatus component p.live p.fault
  simp only [conclusion, Progress.result, hstop, Attempt.run_bind, Attempt.run_liftM]
    at hreturn ⊢
  rcases hrun : (component.watched.noted.updateStatus p.live p.fault).run p.desk
    with ⟨e | _, desk⟩
  · rw [hrun] at hreturn
    obtain ⟨_, hanswer⟩ := hshows.answers (s := p.desk) (by rw [hrun]; exact hreturn)
    rw [hrun] at hanswer
    cases hanswer
  · cases p.fault <;> rfl

/-- All that a run does until its component is told the outcome. -/
def upToTelling (engine : Engine σ) (component : Component ω) : Step σ ω Tally := do
  let survey ← observeAndMutate engine component true
  writeSurveyed engine component survey

end Noted

section Returned

variable {engine : Engine σ} {component : Component ω}
  {w w₁ : World (Recorded σ) (Noted (Watched ω))} {expected observed : Bag}
  {made : List Attempted}

/-- Until the component is told, a run carries out the agenda. -/
theorem upToTelling_carriesOut
    (hsurvey : Surveys engine.recorded component.watched.noted w expected observed w₁)
    (hexpected : expected.Identified) (hobserved : observed.Identified) :
    let before := ((upToTelling engine.recorded component.watched.noted).run
      (opened engine.recorded w)).2
    let p := carryOut engine.store.recorded
      (agenda component.watched.noted engine.settings expected observed) w₁.desk w₁.store
    before.store = p.store ∧ before.desk = p.desk := by
  intro before p
  obtain ⟨stage, hobserve⟩ := hsurvey
  obtain ⟨aggregated, log, hwritten⟩ := run_writeSurveyed engine.recorded
    component.watched.noted hexpected hobserved stage w₁
  have hbefore : before = ⟨p.store, p.desk, aggregated, log⟩ :=
    congrArg Prod.snd ((Attempt.run_bind_ok hobserve).trans hwritten)
  rw [hbefore]
  exact ⟨rfl, rfl⟩

/-- Neither the survey nor the agenda lowers the count of the callbacks that have failed. -/
theorem lapses_of_surveys
    (hsurvey : Surveys engine.recorded component.watched.noted w expected observed w₁) :
    let p := carryOut engine.store.recorded
      (agenda component.watched.noted engine.settings expected observed) w₁.desk w₁.store
    w.desk.lapses ≤ w₁.desk.lapses ∧ w₁.desk.lapses ≤ p.desk.lapses := by
  intro p
  obtain ⟨stage, hobserve⟩ := hsurvey
  have hkept := (keeps_observeAndMutate (Attempt.steady_raises Desk.lapses)
    steady_onlyRead engine.recorded_readsKeep component.watched_keeps true
    (opened engine.recorded w)).1
  rw [show (observeAndMutate engine.recorded component.watched.noted true).run
    (opened engine.recorded w) = _ from hobserve] at hkept
  exact ⟨hkept, carryOut_keeps_desk (Attempt.steady_raises Desk.lapses) _
    (fun task hmem => (shows_due component _ _ _ task hmem).keeps) _ _⟩

/-- If no callback has failed until the component is told, and no fault of the writes is
without a message, the agenda was carried out to the end. -/
theorem carriedOut_of_quiet
    (hsurvey : Surveys engine.recorded component.watched.noted w expected observed w₁)
    (hexpected : expected.Identified) (hobserved : observed.Identified)
    (hquiet : ((upToTelling engine.recorded component.watched.noted).run
      (opened engine.recorded w)).2.desk.lapses = w.desk.lapses)
    (hmade : ((reconcileComponent engine.recorded component.watched.noted).run
      w).2.store.attempts = w.store.attempts ++ made)
    (htold : ∀ a ∈ made, a.Told) :
    let p := carryOut engine.store.recorded
      (agenda component.watched.noted engine.settings expected observed) w₁.desk w₁.store
    made = p.attempts ∧ p.stop = none := by
  intro p
  obtain ⟨aggregated, log, hrun⟩ := run_reconcileComponent hsurvey hexpected hobserved
  have hattempts : made = p.attempts := by
    rw [hrun, ← (onlyRead_of_surveys hsurvey).attempts_eq] at hmade
    exact List.append_cancel_left (hmade.symm.trans (attempts_carryOut engine.store _ _ _))
  obtain ⟨hfirst, hsecond⟩ := lapses_of_surveys hsurvey
  rw [(upToTelling_carriesOut hsurvey hexpected hobserved).2] at hquiet
  refine ⟨hattempts, carryOut_completes (shows_due component _ _ _) ?_ ?_⟩
  · -- the count is the same in the end, so it is raised nowhere on the way
    show p.desk.lapses = w₁.desk.lapses
    exact Nat.le_antisymm (Nat.le_trans (Nat.le_of_eq hquiet) hfirst) hsecond
  · show ∀ a ∈ p.attempts, a.Told
    rw [← hattempts]
    exact htold

/-- If no callback has failed in a whole run, none has failed before the component was told,
or when it was. -/
theorem lapses_of_returned
    (hsurvey : Surveys engine.recorded component.watched.noted w expected observed w₁)
    (hexpected : expected.Identified) (hobserved : observed.Identified)
    (hreturn : ((reconcileComponent engine.recorded component.watched.noted).run
      w).2.desk.lapses = w.desk.lapses) :
    let before := ((upToTelling engine.recorded component.watched.noted).run
      (opened engine.recorded w)).2
    let p := carryOut engine.store.recorded
      (agenda component.watched.noted engine.settings expected observed) w₁.desk w₁.store
    before.desk.lapses = w.desk.lapses ∧
      ((conclusion component.watched.noted p).run p.desk).2.lapses = p.desk.lapses := by
  intro before p
  obtain ⟨aggregated, log, hrun⟩ := run_reconcileComponent hsurvey hexpected hobserved
  obtain ⟨hfirst, hsecond⟩ : w.desk.lapses ≤ w₁.desk.lapses ∧
    w₁.desk.lapses ≤ p.desk.lapses := lapses_of_surveys hsurvey
  have hthird := conclusion_raises component p p.desk
  have hlast : ((conclusion component.watched.noted p).run p.desk).2.lapses =
      w.desk.lapses := by
    rw [hrun] at hreturn
    exact hreturn
  rw [show before.desk = p.desk from
    (upToTelling_carriesOut hsurvey hexpected hobserved).2]
  omega

/-- The outcome of a run whose callbacks return, on a store whose faults have messages.
Each expected object comes to something, and then each observed one goes or stays. All
requests are made before the component is told, which happens once. -/
theorem reconcile_outcome
    (hsurvey : Surveys engine.recorded component.watched.noted w expected observed w₁)
    (hexpected : expected.Identified) (hobserved : observed.Identified)
    (hreturn : ((reconcileComponent engine.recorded component.watched.noted).run
      w).2.desk.lapses = w.desk.lapses)
    (hmade : ((reconcileComponent engine.recorded component.watched.noted).run
      w).2.store.attempts = w.store.attempts ++ made)
    (htold : ∀ a ∈ made, a.Told) :
    let run := (reconcileComponent engine.recorded component.watched.noted).run w
    let before := ((upToTelling engine.recorded component.watched.noted).run
      (opened engine.recorded w)).2
    ∃ first second : List Upshot,
      List.Forall₂ (Comes component.name observed)
        (expected.map (Tagged.owned component.owners)) first ∧
      List.Forall₂ (Goes expected) observed second ∧
      let faults := (first ++ second).filterMap Upshot.fault
      let live := (first ++ second).filterMap Upshot.live
      made = (first ++ second).filterMap Upshot.attempted ∧
      run.2.log.filter Line.tellsWrite = w.log.filter Line.tellsWrite
        ++ made.filterMap (Attempted.line? engine.source) ∧
      before.store = run.2.store ∧ before.desk.app.told = w.desk.app.told ∧
      run.2.desk = ((component.watched.noted.updateStatus live
        (Fault.together faults)).run before.desk).2 ∧
      run.2.desk.app.told = w.desk.app.told ++ [(live, Fault.together faults)] ∧
      (faults = [] → run.1 = .ok ()) ∧
      (faults ≠ [] → run.1 = .error (.of (.aggregate faults))) := by
  intro run before
  let p := carryOut engine.store.recorded
    (agenda component.watched.noted engine.settings expected observed) w₁.desk w₁.store
  obtain ⟨hquiet, hlapses⟩ := lapses_of_returned hsurvey hexpected hobserved hreturn
  obtain ⟨hattempts, hstop⟩ :=
    carriedOut_of_quiet hsurvey hexpected hobserved hquiet hmade htold
  have hconclusion := run_conclusion_of_returned hstop hlapses
  obtain ⟨aggregated, log, hrun⟩ := run_reconcileComponent hsurvey hexpected hobserved
  have hdesk : run.2.desk = ((conclusion component.watched.noted p).run p.desk).2 :=
    congrArg (fun r => r.2.desk) hrun
  have hstore : run.2.store = p.store := congrArg (fun r => r.2.store) hrun
  have hanswer : run.1 = ((conclusion component.watched.noted p).run p.desk).1 :=
    congrArg Prod.fst hrun
  rw [hconclusion] at hdesk hanswer
  obtain ⟨first, second, hcomes, hgoes, hfirst, hfaults, hlive⟩ := upshots_of_carryOut hstop
  have hcut : before.store = p.store ∧ before.desk = p.desk :=
    upToTelling_carriesOut hsurvey hexpected hobserved
  have huntold : p.desk.app.told = w.desk.app.told := untold_of_surveys hsurvey
  obtain ⟨made', hmade', hlog⟩ :=
    marks_reconcileComponent engine component.watched.noted w
  rw [hmade, List.append_cancel_left_eq] at hmade'
  rw [← hmade'] at hlog
  refine ⟨first, second, hcomes, hgoes, hattempts.trans hfirst, hlog,
    hcut.1.trans hstore.symm, ?_, ?_, ?_, ?_, ?_⟩
  · rw [hcut.2, huntold]
  · rw [hcut.2, ← hfaults, ← hlive]
    exact hdesk
  · rw [hdesk, ← hfaults, ← hlive, ← huntold]
    rfl
  · intro hnone
    rw [hanswer, Progress.fault, hfaults, hnone]
    rfl
  · intro hsome
    rw [hanswer, Progress.fault, hfaults, Fault.together, if_neg]
    · rfl
    · rw [List.isEmpty_iff]
      exact hsome

end Returned

/-! ## Three pods, of which one cannot be created and one is there

The third one is created all the same, and the component is told of it and of the one
that was there. -/

/-- The world before a run that takes notes of its component. -/
def startWatched (store : MemoryStore) : World (Recorded MemoryStore) (Noted (Watched Unit)) :=
  ⟨⟨store, []⟩, ⟨.obj [], .obj [], ⟨⟨(), 0⟩, []⟩⟩, [], []⟩

/-- All faults of some writes have messages, as it is computed. -/
def allTold (made : List Attempted) : Bool :=
  made.all fun a => a.fault.all fun fault => fault.message.toOption.isSome

theorem told_of_allTold {made : List Attempted} (h : allTold made = true) :
    ∀ a ∈ made, a.Told := by
  intro a ha fault hfault
  have hall := List.all_eq_true.1 h a ha
  rw [hfault, Option.all_some] at hall
  cases hm : fault.message with
  | ok text => exact ⟨text, rfl⟩
  | error e =>
      rw [hm] at hall
      cases hall

theorem halfway_returned :
    ((reconcileComponent inMemory.recorded (expecting threePods).watched.noted).run
      (startWatched halfway)).2.desk.lapses = (startWatched halfway).desk.lapses ∧
    allTold ((reconcileComponent inMemory.recorded (expecting threePods).watched.noted).run
      (startWatched halfway)).2.store.attempts = true := by
  decide +kernel

theorem told_of_created_and_found_pods :
    ∃ faults, faults ≠ [] ∧
      ((reconcileComponent inMemory.recorded (expecting threePods).watched.noted).run
        (startWatched halfway)).1 = .error (.of (.aggregate faults)) ∧
      ((reconcileComponent inMemory.recorded (expecting threePods).watched.noted).run
        (startWatched halfway)).2.desk.app.told =
          [([pod "q", Body.owned [] (pod "r")], Fault.together faults)] := by
  have hsurvey : ∃ w₁, Surveys inMemory.recorded (expecting threePods).watched.noted
      (startWatched halfway) threePods [.managed (pod "q")] w₁ := ⟨_, .mutating, rfl⟩
  obtain ⟨w₁, hsurvey⟩ := hsurvey
  obtain ⟨hreturn, htold⟩ := halfway_returned
  obtain ⟨first, second, -, -, -, -, -, -, -, hcalls, hfine, hraised⟩ :=
    reconcile_outcome hsurvey threePods_identified
      (Bag.identified_cons ⟨_, rfl⟩ Bag.identified_nil) hreturn
      (List.nil_append _).symm (told_of_allTold htold)
  have hlive : ((reconcileComponent inMemory.recorded
      (expecting threePods).watched.noted).run (startWatched halfway)).2.desk.app.told.map
        Prod.fst = [[pod "q", Body.owned [] (pod "r")]] := by decide +kernel
  have hfailed : ((reconcileComponent inMemory.recorded
      (expecting threePods).watched.noted).run (startWatched halfway)).1.toOption.isSome =
        false := by decide +kernel
  have hsome : (first ++ second).filterMap Upshot.fault ≠ [] := by
    intro hnone
    rw [hfine hnone] at hfailed
    cases hfailed
  rw [hcalls, show (startWatched halfway).desk.app.told = [] from rfl, List.nil_append,
    List.map_singleton, List.cons.injEq] at hlive
  refine ⟨_, hsome, hraised hsome, ?_⟩
  rw [hcalls, ← hlive.1]
  rfl

/-- Where the fault of a write has no message, the run is over, and the component is
not told anything. -/
theorem untold_after_mute_fault :
    let run := (reconcileComponent inMemory.recorded (expecting twoPods).watched.noted).run
      (startWatched (refusing "p" mute))
    (∃ w₁, Surveys inMemory.recorded (expecting twoPods).watched.noted
      (startWatched (refusing "p" mute)) twoPods [] w₁) ∧
    twoPods.Identified ∧ Bag.Identified [] ∧ run.2.desk.lapses = 0 ∧
    run.2.store.attempts.map Attempted.write = [.create (Body.owned [] (pod "p"))] ∧
    run.2.desk.app.told.length = 0 ∧
    run.1 ≠ .ok () ∧ ∀ faults, run.1 ≠ .error (.of (.aggregate faults)) := by
  intro run
  refine ⟨⟨_, .mutating, rfl⟩, twoPods_identified, Bag.identified_nil, by decide +kernel,
    by decide +kernel, by decide +kernel, ?_, ?_⟩
  · intro h
    cases h
  · intro faults h
    cases h

end Engine

end OperatorCore
