import OperatorCore.Proofs.Engine.Plan

/-!
# How a pass ends in the status

A pass is a verdict and what follows from it. Once there is a verdict, the
update of the status is called with it, the body is stored if the update says
so, and the fault of the verdict is raised. Whatever the components and their
stages fail with is part of the verdict, and so is an invalid spec.

But the verdict itself may fail, and then the status is left alone: nothing
guards the making of a fresh status, the defaults, the look at the deletion
mark, and the making of the components, nor the message that a fault has to
have before it can be put into another one. `Reaches` lists what has to hold,
and it is equivalent to there being a verdict.

To count the calls of the update, a handle has a twin that does the same and
keeps the faults that its update was called with. That the verdict makes no
such call is a frame property: none of the other callbacks changes the list.
-/

namespace OperatorCore

variable {σ ω α : Type}

/-- What an application keeps, beside the calls of the status update: the
fault that each was called with. -/
structure Audited (ω : Type) where
  app : ω
  updates : List (Option Fault)

/-- The same callback beside the list of the calls. -/
def Hook.audited (hook : Hook ω α) : Hook (Audited ω) α :=
  Attempt.within
    (fun desk => ⟨desk.resource, desk.status, desk.app.app⟩)
    (fun desk whole => ⟨desk.resource, desk.status, ⟨desk.app, whole.app.updates⟩⟩)
    hook

def Component.audited (component : Component ω) : Component (Audited ω) where
  name := component.name
  labels := component.labels
  owners := component.owners
  expectedObjects bag := Hook.audited (component.expectedObjects bag)
  observables bag := Hook.audited (component.observables bag)
  mutate expected observed := Hook.audited (component.mutate expected observed)
  differs a b := Hook.audited (component.differs a b)
  comparable body fields := Hook.audited (component.comparable body fields)
  finalize bag := Hook.audited (component.finalize bag)
  updateStatus live fault := Hook.audited (component.updateStatus live fault)

/-- The handle with a list of the calls of its status update. -/
def Handle.audited (handle : Handle ω) : Handle (Audited ω) where
  title := handle.title
  apiVersion := handle.apiVersion
  kind := handle.kind
  validate := Hook.audited handle.validate
  applyDefaults := Hook.audited handle.applyDefaults
  newStatus := Hook.audited handle.newStatus
  components := do
    let components ← Hook.audited handle.components
    pure (components.map Component.audited)
  updateStatus fault := do
    Attempt.modify fun desk =>
      { desk with app := { desk.app with updates := desk.app.updates ++ [fault] } }
    Hook.audited (handle.updateStatus fault)

/-- The status update has not been called between two desks. -/
def Unupdated (desk desk' : Desk (Audited ω)) : Prop :=
  desk'.app.updates = desk.app.updates

theorem steady_unupdated : Steady (Unupdated (ω := ω)) where
  refl _ := rfl
  trans h h' := Eq.trans h' h

theorem keeps_audited (hook : Hook ω α) :
    Attempt.Keeps Unupdated (Hook.audited hook) :=
  fun _ => rfl

theorem Component.audited_keeps (component : Component ω) :
    component.audited.Keeps Unupdated where
  expectedObjects _ := keeps_audited _
  observables _ := keeps_audited _
  mutate _ _ := keeps_audited _
  differs _ _ := keeps_audited _
  comparable _ _ := keeps_audited _
  finalize _ := keeps_audited _
  updateStatus _ _ := keeps_audited _

namespace Engine

/-- The verdict once the spec has been validated. -/
def verdictAfter (engine : Engine σ) (handle : Handle ω) (invalid : Option Fault) :
    Step σ ω (Option Fault) := do
  let status ← Step.call handle.newStatus
  Attempt.modify fun w => { w with desk := { w.desk with status } }
  match invalid with
  | some fault => do
    Step.report engine.source (.invalid (← fault.message))
    pure (some fault)
  | none => do
    Step.report engine.source .defaulting
    Step.call handle.applyDefaults
    processComponents engine handle

/-- The part of a pass before the update of the status; it answers the fault of
the pass. -/
def verdict (engine : Engine σ) (handle : Handle ω) : Step σ ω (Option Fault) := do
  Step.report engine.source .validating
  let invalid ← match ← (Step.call handle.validate).outcome with
    | .ok _ => pure none
    | .error fault => do pure (some (← (invalidity fault : Except Fault _)))
  verdictAfter engine handle invalid

/-- The rest of a pass: the status is updated and stored, and the fault is
raised. -/
def settleStatus (engine : Engine σ) (handle : Handle ω) (fault : Option Fault) :
    Step σ ω Unit := do
  if ← Step.call (handle.updateStatus fault) then
    Step.report engine.source .updatingStatus
    storeStatus engine fault
  match fault with
  | some fault => Attempt.fail fault
  | none => Step.report engine.source .succeeded

theorem reconcileBody_eq (engine : Engine σ) (handle : Handle ω) :
    reconcileBody engine handle =
      verdict engine handle >>= settleStatus engine handle := by
  simp only [reconcileBody, verdict, verdictAfter, bind_assoc]
  refine bind_congr fun _ => bind_congr fun answer => ?_
  cases answer with
  | ok _ =>
      simp only [bind_assoc, pure_bind]
      rfl
  | error fault =>
      simp only [bind_assoc, pure_bind]
      rfl

/-! ## What the verdict leaves in place

The verdict keeps what the callbacks before the update of the status keep, and
what is kept by the processing of whatever components are made. -/

/-- The callbacks that a verdict makes keep a relation between desks, and the
relation does not look at the status. -/
structure Judging (handle : Handle ω) (D : Desk ω → Desk ω → Prop) : Prop where
  validate : Attempt.Keeps D handle.validate
  newStatus : Attempt.Keeps D handle.newStatus
  applyDefaults : Attempt.Keeps D handle.applyDefaults
  components : Attempt.Keeps D handle.components
  status : ∀ (desk : Desk ω) status, D desk { desk with status }

section

variable {D : Desk ω → Desk ω → Prop} {S : σ → σ → Prop}

theorem keeps_processComponents (hD : Steady D) (hS : Steady S) {engine : Engine σ}
    {handle : Handle ω} (hhandle : Judging handle D)
    (hprocess : ∀ desk components, (handle.components.run desk).1 = .ok components →
      ∀ deleting, Attempt.Keeps (World.Related D S)
        (processEach engine deleting components)) :
    Attempt.Keeps (World.Related D S) (processComponents engine handle) := by
  have hR := steady_related hD hS
  refine Attempt.keeps_bind hR (keeps_aggregate hD hS _) ?_
  intro _
  refine Attempt.keeps_bind hR (Attempt.keeps_read hR _) ?_
  intro resource
  refine Attempt.keeps_bind hR (Attempt.keeps_liftM hR _) ?_
  intro deleting
  refine Attempt.keeps_bind_answer hR (keeps_call hS hhandle.components) ?_
  intro components w hanswer
  refine Attempt.keeps_bind hR (hprocess w.desk components hanswer deleting) ?_
  intro faults
  exact Attempt.keeps_liftM hR _

theorem keeps_verdictAfter (hD : Steady D) (hS : Steady S) {engine : Engine σ}
    {handle : Handle ω} (hhandle : Judging handle D)
    (hprocess : ∀ desk components, (handle.components.run desk).1 = .ok components →
      ∀ deleting, Attempt.Keeps (World.Related D S)
        (processEach engine deleting components)) (invalid : Option Fault) :
    Attempt.Keeps (World.Related D S) (verdictAfter engine handle invalid) := by
  have hR := steady_related hD hS
  refine Attempt.keeps_bind hR (keeps_call hS hhandle.newStatus) ?_
  intro status
  refine Attempt.keeps_bind hR
    (Attempt.keeps_modify fun w => ⟨hhandle.status w.desk status, hS.refl w.store⟩) ?_
  intro _
  cases invalid with
  | some fault =>
      refine Attempt.keeps_bind hR (Attempt.keeps_liftM hR _) ?_
      intro text
      refine Attempt.keeps_bind hR (keeps_report hD hS _ _) ?_
      intro _
      exact Attempt.keeps_pure hR _
  | none =>
      refine Attempt.keeps_bind hR (keeps_report hD hS _ _) ?_
      intro _
      refine Attempt.keeps_bind hR (keeps_call hS hhandle.applyDefaults) ?_
      intro _
      exact keeps_processComponents hD hS hhandle hprocess

theorem keeps_verdict (hD : Steady D) (hS : Steady S) {engine : Engine σ}
    {handle : Handle ω} (hhandle : Judging handle D)
    (hprocess : ∀ desk components, (handle.components.run desk).1 = .ok components →
      ∀ deleting, Attempt.Keeps (World.Related D S)
        (processEach engine deleting components)) :
    Attempt.Keeps (World.Related D S) (verdict engine handle) := by
  have hR := steady_related hD hS
  refine Attempt.keeps_bind hR (keeps_report hD hS _ _) ?_
  intro _
  refine Attempt.keeps_bind hR
    (Attempt.keeps_outcome (keeps_call hS hhandle.validate)) ?_
  intro answer
  cases answer with
  | ok _ => exact keeps_verdictAfter hD hS hhandle hprocess none
  | error fault =>
      refine Attempt.keeps_bind hR (Attempt.keeps_liftM hR _) ?_
      intro invalid
      exact keeps_verdictAfter hD hS hhandle hprocess (some invalid)

/-- So the verdict does not update the status. -/
theorem keeps_verdict_audited (hS : Steady S) {engine : Engine σ}
    (hstore : engine.store.Keeps S) (handle : Handle ω) :
    Attempt.Keeps (World.Related Unupdated S) (verdict engine handle.audited) := by
  refine keeps_verdict steady_unupdated hS
    { validate := keeps_audited _
      newStatus := keeps_audited _
      applyDefaults := keeps_audited _
      components := Attempt.keeps_bind steady_unupdated (keeps_audited _)
        fun _ => Attempt.keeps_pure steady_unupdated _
      status := fun _ _ => rfl } ?_
  intro desk components hanswer deleting
  refine keeps_processEach steady_unupdated hS hstore deleting ?_
  simp only [Handle.audited, Attempt.run_bind, Attempt.run_pure] at hanswer
  split at hanswer
  · cases hanswer
    intro component hmem
    obtain ⟨own, -, rfl⟩ := List.mem_map.1 hmem
    exact own.audited_keeps
  · cases hanswer

end

/-! ## What follows from the verdict -/

/-- The outcome of a pass with a fault, or with none. -/
def raised (fault : Option Fault) : Except Fault Unit :=
  match fault with
  | some fault => .error fault
  | none => .ok ()

/-- The outcome of a pass whose body was stored, with or without success. A
fault of that is raised as the consequence of the fault of the pass. -/
def raisedAfter (fault failure : Option Fault) : Except Fault Unit :=
  match failure with
  | none => raised fault
  | some failure => do
    let _ ← failure.message
    .error (match fault with
      | none => failure
      | some cause => failure.because cause)

/-- The update of the status is called, and what it answers decides whether the
body is stored. The store may be told of the cause of its fault. -/
theorem run_settleStatus (engine : Engine σ) (handle : Handle ω)
    (fault : Option Fault) (w : World σ ω) :
    let update := (handle.updateStatus fault).run w.desk
    let reply := engine.store.update update.2.resource w.store
    (∀ e, update.1 = .error e →
      (settleStatus engine handle fault).Ends w (.error e) update.2 w.store) ∧
    (update.1 = .ok false →
      (settleStatus engine handle fault).Ends w (raised fault) update.2 w.store) ∧
    (update.1 = .ok true → ∃ s,
      (settleStatus engine handle fault).Ends w (raisedAfter fault reply.fault?)
        update.2 s ∧
      (s = reply.state ∨
        ∃ cause, s = engine.store.blame update.2.resource cause reply.state)) := by
  simp only [settleStatus, Step.Ends, Attempt.run_bind, Step.run_call]
  rcases (handle.updateStatus fault).run w.desk with ⟨e | answer, desk⟩
  · refine ⟨?_, ?_, ?_⟩
    · intro e h
      cases h
      exact ⟨_, _, rfl⟩
    · intro h
      cases h
    · intro h
      cases h
  · refine ⟨?_, ?_, ?_⟩
    · intro e h
      cases h
    · intro h
      cases h
      cases fault <;> exact ⟨_, _, rfl⟩
    · intro h
      cases h
      simp only [if_true, storeStatus, Attempt.run_bind, Step.run_report,
        Attempt.run_read, Attempt.run_outcome, Step.run_request, Reply.fault?]
      cases (engine.store.update desk.resource w.store).outcome with
      | ok _ =>
          refine ⟨_, ?_, .inl rfl⟩
          cases fault <;> exact ⟨_, _, rfl⟩
      | error failure =>
          simp only [Attempt.run_bind, Attempt.run_liftM, raisedAfter]
          cases failure.message with
          | error e => exact ⟨_, ⟨_, _, rfl⟩, .inl rfl⟩
          | ok text =>
              simp only [Step.run_report]
              cases fault with
              | none => exact ⟨_, ⟨_, _, rfl⟩, .inl rfl⟩
              | some cause => exact ⟨_, ⟨_, _, rfl⟩, .inr ⟨cause, rfl⟩⟩

/-- Nothing is called behind the update of the status. -/
theorem desk_of_settleStatus (engine : Engine σ) (handle : Handle ω)
    (fault : Option Fault) (w : World σ ω) :
    ((settleStatus engine handle fault).run w).2.desk =
      ((handle.updateStatus fault).run w.desk).2 := by
  obtain ⟨hfailed, hkept, hstored⟩ := run_settleStatus engine handle fault w
  rcases hupdate : ((handle.updateStatus fault).run w.desk).1 with e | _ | _
  · obtain ⟨aggregated, log, hsettle⟩ := hfailed e hupdate
    rw [hsettle]
  · obtain ⟨aggregated, log, hsettle⟩ := hkept hupdate
    rw [hsettle]
  · obtain ⟨s, ⟨aggregated, log, hsettle⟩, -⟩ := hstored hupdate
    rw [hsettle]

/-! ## When there is a verdict -/

/-- What has to hold for the processing of a valid resource to come to an end:
the defaults are filled in, the deletion mark can be read, the components are
made, and what they fail with can be put together. -/
def Completes (engine : Engine σ) (handle : Handle ω) (w : World σ ω) : Prop :=
  let defaulted := handle.applyDefaults.run w.desk
  let made := handle.components.run defaulted.2
  defaulted.1 = .ok () ∧
  ∃ deleting, Body.isDeletionOngoing defaulted.2.resource = .ok deleting ∧
  ∃ components, made.1 = .ok components ∧
  ∃ faults, ((processEach engine deleting components).run ⟨w.store, made.2, [],
      w.log ++ [⟨some engine.source, .defaulting⟩]⟩).1 = .ok faults ∧
    ∃ fault, Fault.aggregate? faults = .ok fault

/-- What has to hold for a pass to get as far as the status: a fault of the
validation has a message, a fresh status is made, and the processing of a valid
resource comes to an end. -/
def Reaches (engine : Engine σ) (handle : Handle ω) (w : World σ ω) : Prop :=
  let validated := handle.validate.run w.desk
  let fresh := handle.newStatus.run validated.2
  (∀ fault, validated.1 = .error fault →
    fault.isValidation = true ∨ ∃ text, fault.message = .ok text) ∧
  ∃ status, fresh.1 = .ok status ∧
    (validated.1 = .ok () → Completes engine handle
      { w with
        desk := { fresh.2 with status }
        log := w.log ++ [⟨some engine.source, .validating⟩] })

theorem completes_iff (engine : Engine σ) (handle : Handle ω) (w : World σ ω) :
    (∃ fault, ((do
        Step.report engine.source .defaulting
        Step.call handle.applyDefaults
        processComponents engine handle : Step σ ω (Option Fault)).run w).1 = .ok fault) ↔
      Completes engine handle w := by
  simp only [Completes, processComponents, Attempt.run_bind, Step.run_report,
    Step.run_call, Step.run_aggregate, Attempt.run_read, Attempt.run_liftM]
  rcases handle.applyDefaults.run w.desk with ⟨e | _, desk⟩
  · refine ⟨?_, ?_⟩
    · rintro ⟨fault, h⟩
      cases h
    · rintro ⟨h, -⟩
      cases h
  · simp only []
    cases Body.isDeletionOngoing desk.resource with
    | error e =>
        refine ⟨?_, ?_⟩
        · rintro ⟨fault, h⟩
          cases h
        · rintro ⟨-, deleting, h, -⟩
          cases h
    | ok deleting =>
        simp only []
        rcases handle.components.run desk with ⟨e | components, desk'⟩
        · refine ⟨?_, ?_⟩
          · rintro ⟨fault, h⟩
            cases h
          · rintro ⟨-, deleting, -, components, h, -⟩
            cases h
        · simp only [Except.ok.injEq, exists_eq_left', true_and]
          constructor
          · rintro ⟨fault, h⟩
            split at h
            · next faults w' hrun => exact ⟨faults, by rw [hrun], fault, h⟩
            · cases h
          · rintro ⟨faults, hrun, fault, hfault⟩
            split
            · next faults' w' h =>
                rw [h] at hrun
                cases hrun
                exact ⟨fault, hfault⟩
            · next e w' h =>
                rw [h] at hrun
                cases hrun

theorem invalidity_iff (fault : Fault) :
    (∃ invalid, invalidity fault = .ok invalid) ↔
      fault.isValidation = true ∨ ∃ text, fault.message = .ok text := by
  rw [invalidity]
  cases fault.isValidation with
  | true => exact ⟨fun _ => .inl rfl, fun _ => ⟨fault, rfl⟩⟩
  | false =>
      cases fault.message with
      | error e =>
          refine ⟨?_, ?_⟩
          · rintro ⟨invalid, h⟩
            cases h
          · rintro (h | ⟨text, h⟩) <;> cases h
      | ok text => exact ⟨fun _ => .inr ⟨text, rfl⟩, fun _ => ⟨_, rfl⟩⟩

theorem invalidity_told {fault invalid : Fault} (h : invalidity fault = .ok invalid) :
    ∃ text, invalid.message = .ok text := by
  obtain ⟨reason, cause⟩ := fault
  cases reason with
  | validation message =>
      cases h
      exact ⟨_, rfl⟩
  | _ =>
      simp only [invalidity, Fault.isValidation, Bool.false_eq_true, if_false, bind,
        Except.bind] at h
      split at h
      · cases h
      · cases h
        exact ⟨_, rfl⟩

/-- There is a verdict just when all of this holds. -/
theorem verdict_iff_reaches (engine : Engine σ) (handle : Handle ω) (w : World σ ω) :
    (∃ fault, ((verdict engine handle).run w).1 = .ok fault) ↔
      Reaches engine handle w := by
  simp only [verdict, Reaches, Attempt.run_bind, Step.run_report, Attempt.run_outcome,
    Step.run_call]
  rcases handle.validate.run w.desk with ⟨fault | _, desk⟩
  · have hiff := invalidity_iff fault
    simp only [Attempt.run_bind, Attempt.run_liftM]
    cases hinvalid : invalidity fault with
    | error e =>
        rw [hinvalid] at hiff
        constructor
        · rintro ⟨fault', h⟩
          cases h
        · rintro ⟨htold, -⟩
          obtain ⟨invalid, h⟩ := hiff.2 (htold fault rfl)
          cases h
    | ok invalid =>
        obtain ⟨text, htext⟩ := invalidity_told hinvalid
        have htold := hiff.1 ⟨invalid, hinvalid⟩
        simp only [verdictAfter, Attempt.run_bind, Step.run_call, Attempt.run_pure]
        rcases handle.newStatus.run desk with ⟨e | status, desk'⟩
        · constructor
          · rintro ⟨fault', h⟩
            cases h
          · rintro ⟨-, status, h, -⟩
            cases h
        · simp only [Attempt.run_modify, Attempt.run_liftM, htext, Step.run_report]
          refine ⟨?_, fun _ => ⟨_, rfl⟩⟩
          intro _
          refine ⟨?_, status, rfl, ?_⟩
          · intro fault' h
            cases h
            exact htold
          · intro h
            cases h
  · simp only [verdictAfter, Attempt.run_bind, Step.run_call, Attempt.run_pure]
    rcases handle.newStatus.run desk with ⟨e | status, desk'⟩
    · constructor
      · rintro ⟨fault', h⟩
        cases h
      · rintro ⟨-, status, h, -⟩
        cases h
    · have hiff := completes_iff engine handle
        { w with
          desk := { desk' with status }
          log := w.log ++ [⟨some engine.source, .validating⟩] }
      constructor
      · intro h
        refine ⟨?_, status, rfl, fun _ => hiff.1 h⟩
        intro fault' hfault
        cases hfault
      · rintro ⟨-, status', h, hcompletes⟩
        cases h
        exact hiff.2 (hcompletes trivial)

/-- The world after the resource was read. -/
def fetched (store : ObjectStore σ) (apiVersion kind ns name body : Value)
    (w : World σ ω) : World σ ω :=
  let reply := store.get apiVersion kind ns name w.store
  { w with
    store := reply.state
    desk := { w.desk with resource := body }
    log := w.log ++ reply.notices.map fun n => ⟨none, n⟩ }

/-- A pass over a resource that can be read is its verdict and what follows. -/
theorem run_reconcile {store : ObjectStore σ} (settings : Settings)
    (handle : Handle ω) {apiVersion kind ns name body : Value} {w : World σ ω}
    (hversion : handle.apiVersion = some apiVersion) (hkind : handle.kind = some kind)
    (hget : (store.get apiVersion kind ns name w.store).outcome = .ok body) :
    (reconcile store settings handle ns name).run w =
      match Source.ofBody body with
      | .error e => (.error e, fetched store apiVersion kind ns name body w)
      | .ok source =>
        ((verdict ⟨store, settings, source⟩ handle) >>=
            settleStatus ⟨store, settings, source⟩ handle).run
          (fetched store apiVersion kind ns name body w) := by
  simp only [reconcile, hversion, hkind, Handle.declared, Attempt.run_bind,
    Attempt.run_liftM, Attempt.run_outcome, Step.run_request, hget, Attempt.run_modify]
  cases Source.ofBody body with
  | error e => rfl
  | ok source =>
      simp only [reconcileBody_eq]
      rfl

/-- The update of the status adds the fault that it is called with. -/
theorem updates_updateStatus (handle : Handle ω) (fault : Option Fault)
    (desk : Desk (Audited ω)) :
    ((handle.audited.updateStatus fault).run desk).2.app.updates =
      desk.app.updates ++ [fault] := rfl

/-- A pass over a resource that has been read calls the update of its status
once if it comes to a verdict, with the fault of the verdict, and not at all if
it does not. The body is stored, as the last request, just when the update says
so, and the fault is raised after that. -/
theorem status_updated_with_verdict {store : ObjectStore σ} {settings : Settings}
    {handle : Handle ω} {apiVersion kind ns name body : Value}
    {w : World (Recorded σ) (Audited ω)}
    (hversion : handle.apiVersion = some apiVersion) (hkind : handle.kind = some kind)
    (hget : (store.recorded.get apiVersion kind ns name w.store).outcome = .ok body) :
    let run := (reconcile store.recorded settings handle.audited ns name).run w
    let w₁ := fetched store.recorded apiVersion kind ns name body w
    (∀ e, Source.ofBody body = .error e →
      run.1 = .error e ∧ run.2.desk.app.updates = w.desk.app.updates ∧
      run.2.store.events = w₁.store.events) ∧
    (∀ source, Source.ofBody body = .ok source →
      let engine : Engine (Recorded σ) := ⟨store.recorded, settings, source⟩
      let v := (verdict engine handle.audited).run w₁
      ((∃ fault, v.1 = .ok fault) ↔ Reaches engine handle.audited w₁) ∧
      (∀ e, v.1 = .error e →
        run.1 = .error e ∧ run.2.desk.app.updates = w.desk.app.updates ∧
        run.2.store.events = v.2.store.events) ∧
      (∀ fault, v.1 = .ok fault →
        let update := (handle.audited.updateStatus fault).run v.2.desk
        run.2.desk.app.updates = w.desk.app.updates ++ [fault] ∧
        (∀ e, update.1 = .error e →
          run.1 = .error e ∧ run.2.store.events = v.2.store.events) ∧
        (update.1 = .ok false →
          run.1 = raised fault ∧ run.2.store.events = v.2.store.events) ∧
        (update.1 = .ok true → ∃ failure,
          run.1 = raisedAfter fault failure ∧
          run.2.store.events =
            v.2.store.events ++ [.wrote ⟨.update update.2.resource, failure⟩]))) := by
  intro run w₁
  have hrun : run = _ := run_reconcile settings handle.audited hversion hkind hget
  refine ⟨?_, ?_⟩
  · intro e hsource
    rw [hrun, hsource]
    exact ⟨rfl, rfl, rfl⟩
  · intro source hsource engine v
    rw [hsource] at hrun
    have hbind : run = (verdict engine handle.audited >>=
        settleStatus engine handle.audited).run w₁ := hrun
    have hupdates : v.2.desk.app.updates = w.desk.app.updates :=
      (keeps_verdict_audited (S := fun _ _ => True) steady_true
        ⟨⟨fun _ _ _ _ _ => trivial, fun _ _ _ _ _ => trivial⟩, fun _ _ => trivial,
          fun _ _ => trivial, fun _ _ => trivial⟩ handle w₁).1
    refine ⟨verdict_iff_reaches engine handle.audited w₁, ?_, ?_⟩
    · intro e he
      have hv : (verdict engine handle.audited).run w₁ = (.error e, v.2) :=
        Prod.ext he rfl
      rw [hbind, Attempt.run_bind_error hv]
      exact ⟨rfl, hupdates, rfl⟩
    · intro fault hfault update
      have hv : (verdict engine handle.audited).run w₁ = (.ok fault, v.2) :=
        Prod.ext hfault rfl
      rw [hbind, Attempt.run_bind_ok hv]
      obtain ⟨hfailed, hkept, hstored⟩ :=
        run_settleStatus engine handle.audited fault v.2
      have hcalled : update.2.app.updates = w.desk.app.updates ++ [fault] := by
        rw [← hupdates]
        exact updates_updateStatus handle fault v.2.desk
      rcases hu : update.1 with e | _ | _
      · obtain ⟨aggregated, log, hsettle⟩ := hfailed e hu
        rw [hsettle]
        refine ⟨hcalled, ?_, ?_, ?_⟩
        · intro e' h
          cases h
          exact ⟨rfl, rfl⟩
        · intro h
          cases h
        · intro h
          cases h
      · obtain ⟨aggregated, log, hsettle⟩ := hkept hu
        rw [hsettle]
        refine ⟨hcalled, ?_, fun _ => ⟨rfl, rfl⟩, ?_⟩
        · intro e h
          cases h
        · intro h
          cases h
      · obtain ⟨s, ⟨aggregated, log, hsettle⟩, hs⟩ := hstored hu
        rw [hsettle]
        refine ⟨hcalled, ?_, ?_, fun _ => ⟨_, rfl, ?_⟩⟩
        · intro e h
          cases h
        · intro h
          cases h
        · rcases hs with rfl | ⟨cause, rfl⟩ <;> rfl

/-! ## A resource without components -/

def sampleResource : Value :=
  .obj [("apiVersion", .str "v1"), ("kind", .str "Sample"),
    ("metadata", .obj [("name", .str "name")])]

/-- A store in memory that has the resource. -/
def withResource : World (Recorded MemoryStore) (Audited Unit) :=
  ⟨⟨{ MemoryStore.empty with
      objects := [(.ofTexts "" "Sample" "name", sampleResource)] }, []⟩,
    ⟨.null, .null, ⟨(), []⟩⟩, [], []⟩

def sampleFault : Fault := .of (.validation (.str "refused"))

/-- A handle with the default status update, the given validation and defaults,
and no components. -/
def sampleHandle (validate applyDefaults : Hook Unit Unit) : Handle Unit :=
  { Handle.plain "Sample" (some (.str "v1")) (some (.str "Sample")) .null with
    validate
    applyDefaults
    components := pure [] }

theorem status_updated_with_invalidity :
    ((reconcile MemoryStore.asStore.recorded .standard
      (sampleHandle (Attempt.fail sampleFault) (pure ())).audited .null
      (.str "name")).run withResource).2.desk.app.updates = [some sampleFault] := by
  obtain ⟨-, h⟩ := @status_updated_with_verdict MemoryStore Unit MemoryStore.asStore
    .standard (sampleHandle (Attempt.fail sampleFault) (pure ())) (.str "v1")
    (.str "Sample") .null (.str "name") sampleResource withResource rfl rfl rfl
  obtain ⟨-, -, hreached⟩ := h _ rfl
  exact (hreached (some sampleFault) rfl).1

/-- The defaults fail, and neither is the status updated nor the resource
stored. -/
theorem status_left_after_failed_defaults :
    let run := (reconcile MemoryStore.asStore.recorded .standard
      (sampleHandle (pure ()) (Attempt.fail sampleFault)).audited .null
      (.str "name")).run withResource
    (MemoryStore.asStore.recorded.get (.str "v1") (.str "Sample") .null (.str "name")
      withResource.store).outcome = .ok sampleResource ∧
    run.1 = .error sampleFault ∧ run.2.desk.app.updates = [] ∧
    run.2.store.attempts = [] :=
  ⟨rfl, rfl, rfl, rfl⟩

end Engine

end OperatorCore
