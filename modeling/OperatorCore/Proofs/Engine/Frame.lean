import OperatorCore.Engine.Pass
import OperatorCore.Proofs.Fault.Steady
import OperatorCore.Proofs.Object.Identified

/-!
# What the steps of the engine leave in place

A relation between desks and one between stores make a relation between worlds.
A step keeps it if the callbacks that it makes keep the one and the requests
that it makes keep the other; the log and the bag of all components are free.
The survey of a component makes no requests but reads, so it keeps whatever the
reads keep, and this is how it is known that it writes nothing. All that the
components of a pass do together keeps what their callbacks keep, and this is
how it is known that none of them calls the handle.

The lemmas follow the definitions of the steps one by one, and the recursive
ones by induction on the bag or on the list of components.
-/

namespace OperatorCore

variable {σ ω α : Type}

/-- The write that a notice tells to have been made, if it tells of one. -/
def Notice.written? : Notice → Option (Operation × Identity)
  | .written op identity => some (op, identity)
  | _ => none

/-- The desks and the stores of two worlds are related. -/
def World.Related (D : Desk ω → Desk ω → Prop) (S : σ → σ → Prop)
    (w w' : World σ ω) : Prop :=
  D w.desk w'.desk ∧ S w.store w'.store

namespace ObjectStore

/-- The requests that change nothing keep a relation. -/
structure ReadsKeep (store : ObjectStore σ) (S : σ → σ → Prop) : Prop where
  get : ∀ apiVersion kind ns name s, S s (store.get apiVersion kind ns name s).state
  list : ∀ apiVersion kind ns labels s,
    S s (store.list apiVersion kind ns labels s).state

/-- All requests keep a relation. -/
structure Keeps (store : ObjectStore σ) (S : σ → σ → Prop) : Prop
    extends store.ReadsKeep S where
  create : ∀ body s, S s (store.create body s).state
  update : ∀ body s, S s (store.update body s).state
  delete : ∀ body s, S s (store.delete body s).state

/-- No matter what is asked of the states. -/
theorem keeps_true (store : ObjectStore σ) : store.Keeps fun _ _ => True :=
  ⟨⟨fun _ _ _ _ _ => trivial, fun _ _ _ _ _ => trivial⟩, fun _ _ => trivial,
    fun _ _ => trivial, fun _ _ => trivial⟩

end ObjectStore

namespace Component

/-- All callbacks of a component keep a relation. -/
structure Keeps (component : Component ω) (D : Desk ω → Desk ω → Prop) : Prop where
  expectedObjects : ∀ bag, Attempt.Keeps D (component.expectedObjects bag)
  observables : ∀ bag, Attempt.Keeps D (component.observables bag)
  mutate : ∀ expected observed, Attempt.Keeps D (component.mutate expected observed)
  differs : ∀ a b, Attempt.Keeps D (component.differs a b)
  comparable : ∀ body fields, Attempt.Keeps D (component.comparable body fields)
  finalize : ∀ bag, Attempt.Keeps D (component.finalize bag)
  updateStatus : ∀ live fault, Attempt.Keeps D (component.updateStatus live fault)

/-- No matter what is asked of the desk. -/
theorem keeps_true (component : Component ω) : component.Keeps fun _ _ => True :=
  ⟨fun _ _ => trivial, fun _ _ => trivial, fun _ _ _ => trivial, fun _ _ _ => trivial,
    fun _ _ _ => trivial, fun _ _ => trivial, fun _ _ _ => trivial⟩

end Component

section

variable {D : Desk ω → Desk ω → Prop} {S : σ → σ → Prop}

theorem steady_related (hD : Steady D) (hS : Steady S) :
    Steady (World.Related D S) where
  refl w := ⟨hD.refl w.desk, hS.refl w.store⟩
  trans h h' := ⟨hD.trans h.1 h'.1, hS.trans h.2 h'.2⟩

theorem keeps_report (hD : Steady D) (hS : Steady S) (source : Source)
    (notice : Notice) :
    Attempt.Keeps (World.Related D S) (Step.report source notice) :=
  fun w => ⟨hD.refl w.desk, hS.refl w.store⟩

theorem keeps_aggregate (hD : Steady D) (hS : Steady S) (bag : Bag) :
    Attempt.Keeps (World.Related D S) (Step.aggregate bag) :=
  fun w => ⟨hD.refl w.desk, hS.refl w.store⟩

theorem keeps_call (hS : Steady S) {hook : Hook ω α} (h : Attempt.Keeps D hook) :
    Attempt.Keeps (World.Related D S) (Step.call hook) :=
  fun w => ⟨h w.desk, hS.refl w.store⟩

theorem keeps_request (hD : Steady D) {operation : σ → Reply σ α}
    (h : ∀ s, S s (operation s).state) :
    Attempt.Keeps (World.Related D S) (Step.request operation) :=
  fun w => ⟨hD.refl w.desk, h w.store⟩

end

namespace Observation

/-! An observation is made of reads and reports, and keeps whatever these keep. -/

section

variable {R : World σ ω → World σ ω → Prop}

theorem keeps_observeOne_of (hR : Steady R) {store : ObjectStore σ} {source : Source}
    (hreport : ∀ notice, notice.written? = none →
      Attempt.Keeps R (Step.report source notice))
    (hget : ∀ apiVersion kind ns name,
      Attempt.Keeps R (Step.request (store.get apiVersion kind ns name)))
    (hlist : ∀ apiVersion kind ns labels,
      Attempt.Keeps R (Step.request (store.list apiVersion kind ns labels)))
    (o : Observable) : Attempt.Keeps R (observeOne store source o) := by
  unfold observeOne
  split
  · refine Attempt.keeps_bind hR (Attempt.keeps_outcome (hget _ _ _ _)) ?_
    intro answer
    cases answer with
    | ok body =>
        refine Attempt.keeps_bind hR (Attempt.keeps_liftM hR _) ?_
        intro text
        refine Attempt.keeps_bind hR (hreport _ rfl) ?_
        intro _
        exact Attempt.keeps_pure hR _
    | error fault =>
        simp only []
        split
        · refine Attempt.keeps_bind hR (Attempt.keeps_liftM hR _) ?_
          intro text
          refine Attempt.keeps_bind hR (hreport _ rfl) ?_
          intro _
          exact Attempt.keeps_pure hR _
        · exact Attempt.keeps_fail hR _
  · refine Attempt.keeps_bind hR (hlist _ _ _ _) ?_
    intro bodies
    refine Attempt.keeps_bind hR (Attempt.keeps_liftM hR _) ?_
    intro text
    refine Attempt.keeps_bind hR (hreport _ rfl) ?_
    intro _
    exact Attempt.keeps_pure hR _

theorem keeps_observe_of (hR : Steady R) {store : ObjectStore σ} {source : Source}
    (hreport : ∀ notice, notice.written? = none →
      Attempt.Keeps R (Step.report source notice))
    (hget : ∀ apiVersion kind ns name,
      Attempt.Keeps R (Step.request (store.get apiVersion kind ns name)))
    (hlist : ∀ apiVersion kind ns labels,
      Attempt.Keeps R (Step.request (store.list apiVersion kind ns labels)))
    (observables : List Observable) :
    Attempt.Keeps R (observe store source observables) := by
  induction observables with
  | nil => exact Attempt.keeps_pure hR _
  | cons o rest ih =>
      refine Attempt.keeps_bind hR (keeps_observeOne_of hR hreport hget hlist o) ?_
      intro bodies
      refine Attempt.keeps_bind hR ih ?_
      intro others
      exact Attempt.keeps_pure hR _

end

variable {D : Desk ω → Desk ω → Prop} {S : σ → σ → Prop}

theorem keeps_observeOne (hD : Steady D) (hS : Steady S) {store : ObjectStore σ}
    (hreads : store.ReadsKeep S) (source : Source) (o : Observable) :
    Attempt.Keeps (World.Related D S) (observeOne store source o) :=
  keeps_observeOne_of (steady_related hD hS) (fun _ _ => keeps_report hD hS source _)
    (fun _ _ _ _ => keeps_request hD (hreads.get _ _ _ _))
    (fun _ _ _ _ => keeps_request hD (hreads.list _ _ _ _)) o

theorem keeps_observe (hD : Steady D) (hS : Steady S) {store : ObjectStore σ}
    (hreads : store.ReadsKeep S) (source : Source) (observables : List Observable) :
    Attempt.Keeps (World.Related D S) (observe store source observables) :=
  keeps_observe_of (steady_related hD hS) (fun _ _ => keeps_report hD hS source _)
    (fun _ _ _ _ => keeps_request hD (hreads.get _ _ _ _))
    (fun _ _ _ _ => keeps_request hD (hreads.list _ _ _ _)) observables

end Observation

namespace Engine

section

variable {R : World σ ω → World σ ω → Prop}

theorem keeps_staged (hR : Steady R) {component : Component ω} (stage : Stage)
    {x : Step σ ω α} {next : α → Step σ ω Survey} (hx : Attempt.Keeps R x)
    (hnext : ∀ a, Attempt.Keeps R (next a)) :
    Attempt.Keeps R (staged component stage x next) := by
  refine Attempt.keeps_bind hR (Attempt.keeps_outcome hx) ?_
  intro answer
  cases answer with
  | ok a => exact hnext a
  | error fault =>
      refine Attempt.keeps_bind hR (Attempt.keeps_liftM hR _) ?_
      intro failure
      exact Attempt.keeps_pure hR _

theorem keeps_raise? (hR : Steady R) (fault : Option Fault) :
    Attempt.Keeps R (raise? fault) := by
  cases fault with
  | none => exact Attempt.keeps_pure hR _
  | some fault => exact Attempt.keeps_fail hR _

/-- A survey is made of reads, of reports and of three calls of the component. -/
theorem keeps_observeAndMutate_of (hR : Steady R) {engine : Engine σ}
    {component : Component ω}
    (hreport : ∀ notice, notice.written? = none →
      Attempt.Keeps R (Step.report engine.source notice))
    (hget : ∀ apiVersion kind ns name,
      Attempt.Keeps R (Step.request (engine.store.get apiVersion kind ns name)))
    (hlist : ∀ apiVersion kind ns labels,
      Attempt.Keeps R (Step.request (engine.store.list apiVersion kind ns labels)))
    (hexpected : ∀ bag, Attempt.Keeps R (Step.call (component.expectedObjects bag)))
    (hobservables : ∀ bag, Attempt.Keeps R (Step.call (component.observables bag)))
    (hmutate : ∀ expected observed,
      Attempt.Keeps R (Step.call (component.mutate expected observed)))
    (mutate : Bool) : Attempt.Keeps R (observeAndMutate engine component mutate) := by
  refine Attempt.keeps_bind hR (Attempt.keeps_read hR _) ?_
  intro aggregated
  refine keeps_staged hR _ (hexpected _) ?_
  intro expected?
  cases expected? with
  | none => exact Attempt.keeps_pure hR _
  | some expected =>
      refine keeps_staged hR _ ?_ ?_
      · refine Attempt.keeps_bind hR (hobservables _) ?_
        intro observables
        exact Observation.keeps_observe_of hR hreport hget hlist observables
      · intro observed
        split
        · refine keeps_staged hR _ (hmutate _ _) ?_
          intro mutated
          exact Attempt.keeps_pure hR _
        · exact Attempt.keeps_pure hR _

/-! What is done about the objects of a survey is made of a few moves, and keeps what
these keep. The bag of all components is set to other objects on the way, but not to
other entries: a relation that goes by the entries has to bear nothing else. -/

/-- The moves that are made about objects keep a relation. -/
structure Settles (engine : Engine σ) (component : Component ω)
    (R : World σ ω → World σ ω → Prop) : Prop where
  report : ∀ notice, Attempt.Keeps R (Step.report engine.source notice)
  comparable : ∀ body fields, Attempt.Keeps R (Step.call (component.comparable body fields))
  differs : ∀ a b, Attempt.Keeps R (Step.call (component.differs a b))
  create : ∀ body, Attempt.Keeps R (Step.request (engine.store.create body))
  update : ∀ body, Attempt.Keeps R (Step.request (engine.store.update body))
  delete : ∀ body, Attempt.Keeps R (Step.request (engine.store.delete body))

/-- The same, except that a write and the report that it was made are one move. This is
all that a relation between the two has to bear. -/
structure Moves (engine : Engine σ) (component : Component ω)
    (R : World σ ω → World σ ω → Prop) : Prop where
  report : ∀ notice, notice.written? = none →
    Attempt.Keeps R (Step.report engine.source notice)
  comparable : ∀ body fields, Attempt.Keeps R (Step.call (component.comparable body fields))
  differs : ∀ a b, Attempt.Keeps R (Step.call (component.differs a b))
  create : ∀ body, Attempt.Keeps R
    (write engine .create (Body.key body) (engine.store.create body))
  update : ∀ body, Attempt.Keeps R
    (write engine .update (Body.key body) (engine.store.update body))
  delete : ∀ body, Attempt.Keeps R
    (write engine .delete (Body.key body) (engine.store.delete body))

/-- To set the bag of all components to objects with some entries keeps a relation. -/
def Rebags (R : World σ ω → World σ ω → Prop)
    (entries : List (Except Fault Identity × Lifecycle)) : Prop :=
  ∀ bag : Bag, bag.entries = entries → Attempt.Keeps R (Step.aggregate bag)

variable {engine : Engine σ} {component : Component ω}

theorem keeps_write (hR : Steady R)
    (hreport : ∀ notice, Attempt.Keeps R (Step.report engine.source notice))
    (op : Operation) (identity : Identity) {operation : σ → Reply σ α}
    (h : Attempt.Keeps R (Step.request operation)) :
    Attempt.Keeps R (write engine op identity operation) := by
  refine Attempt.keeps_bind hR (Attempt.keeps_outcome h) ?_
  intro answer
  cases answer with
  | ok a =>
      refine Attempt.keeps_bind hR (hreport _) ?_
      intro _
      exact Attempt.keeps_pure hR _
  | error fault =>
      refine Attempt.keeps_bind hR (Attempt.keeps_liftM hR _) ?_
      intro failure
      refine Attempt.keeps_bind hR (Attempt.keeps_liftM hR _) ?_
      intro text
      refine Attempt.keeps_bind hR (hreport _) ?_
      intro _
      exact Attempt.keeps_pure hR _

theorem Settles.moves (hR : Steady R) (h : Settles engine component R) :
    Moves engine component R where
  report notice _ := h.report notice
  comparable := h.comparable
  differs := h.differs
  create body := keeps_write hR h.report _ _ (h.create body)
  update body := keeps_write hR h.report _ _ (h.update body)
  delete body := keeps_write hR h.report _ _ (h.delete body)

theorem keeps_reportStage (hR : Steady R)
    (hreport : ∀ notice, notice.written? = none →
      Attempt.Keeps R (Step.report engine.source notice))
    (survey : Survey) : Attempt.Keeps R (reportStage engine survey) := by
  simp only [reportStage]
  split
  · refine Attempt.keeps_bind hR (Attempt.keeps_liftM hR _) ?_
    intro detail
    exact hreport _ rfl
  · exact hreport _ rfl

theorem keeps_reportObserved (hR : Steady R)
    (hreport : ∀ notice, notice.written? = none →
      Attempt.Keeps R (Step.report engine.source notice))
    (observed : Bag) : Attempt.Keeps R (reportObserved engine observed) := by
  induction observed with
  | nil => exact Attempt.keeps_pure hR _
  | cons item rest ih =>
      refine Attempt.keeps_bind hR (Attempt.keeps_liftM hR _) ?_
      intro identity
      refine Attempt.keeps_bind hR (hreport _ rfl) ?_
      intro _
      exact ih

theorem keeps_stamp (hR : Steady R)
    (hreport : ∀ notice, notice.written? = none →
      Attempt.Keeps R (Step.report engine.source notice))
    (owners : List Value) {before done todo : Bag}
    (hbag : Rebags R (before ++ done ++ todo).entries) :
    Attempt.Keeps R (stamp engine owners before done todo) := by
  induction todo generalizing done with
  | nil => exact Attempt.keeps_pure hR _
  | cons item rest ih =>
      refine Attempt.keeps_bind_answer hR (Attempt.keeps_liftM hR _) ?_
      intro object w hobject
      have hentry : (⟨object, item.lifecycle⟩ : Tagged).entry = item.entry :=
        congrArg (·, item.lifecycle) (Body.identify_of_setOwnerReferences hobject)
      refine Attempt.keeps_bind hR (hbag _ ?_) ?_
      · simp only [Bag.entries_append, Bag.entries_cons, hentry]
      intro _
      refine Attempt.keeps_bind hR (Attempt.keeps_liftM hR _) ?_
      intro identity
      refine Attempt.keeps_bind hR (hreport _ rfl) ?_
      intro _
      refine ih ?_
      simpa only [Bag.entries_append, Bag.entries_cons, Bag.entries_nil, hentry,
        List.append_assoc, List.cons_append, List.nil_append] using hbag

/-- The owners are no part of the entries. -/
theorem yields_stamp (engine : Engine σ) (owners : List Value) (before done todo : Bag) :
    Attempt.Yields (fun bag : Bag => bag.entries = (done ++ todo).entries)
      (stamp (ω := ω) engine owners before done todo) := by
  induction todo generalizing done with
  | nil => exact Attempt.yields_pure (by rw [List.append_nil])
  | cons item rest ih =>
      refine Attempt.yields_bind (Attempt.yields_liftM fun _ h =>
        Body.identify_of_setOwnerReferences h) ?_
      intro object hobject
      have hentry : (⟨object, item.lifecycle⟩ : Tagged).entry = item.entry :=
        congrArg (·, item.lifecycle) hobject
      refine Attempt.yields_after fun _ => Attempt.yields_after fun _ =>
        Attempt.yields_after fun _ => ?_
      simpa only [Bag.entries_append, Bag.entries_cons, Bag.entries_nil, hentry,
        List.append_assoc, List.cons_append, List.nil_append]
        using ih (done ++ ([⟨object, item.lifecycle⟩] : Bag))

theorem keeps_diverges (hR : Steady R) (h : Moves engine component R) (item : Tagged)
    (observed : Value) : Attempt.Keeps R (diverges engine component item observed) := by
  unfold diverges
  split
  · exact Attempt.keeps_pure hR _
  · refine Attempt.keeps_bind hR ?_ ?_
    · refine Attempt.keeps_bind hR (h.comparable _ _) ?_
      intro a
      refine Attempt.keeps_bind hR (h.comparable _ _) ?_
      intro b
      split
      · exact Attempt.keeps_pure hR _
      · refine Attempt.keeps_bind hR (Attempt.keeps_liftM hR _) ?_
        intro identity
        refine Attempt.keeps_bind hR (h.report _ rfl) ?_
        intro _
        exact Attempt.keeps_pure hR _
    · intro differs
      split
      · exact h.differs _ _
      · exact Attempt.keeps_pure hR _

theorem keeps_writeExpected (hR : Steady R) (h : Moves engine component R)
    (observed : Bag) {before done todo : Bag} (tally : Tally)
    (hbag : Rebags R (before ++ done ++ todo).entries) :
    Attempt.Keeps R (writeExpected engine component observed before done todo tally) := by
  induction todo generalizing done tally with
  | nil => exact Attempt.keeps_pure hR _
  | cons item rest ih =>
      have hnext : ∀ stamped : Tagged, stamped.entry = item.entry → ∀ tally,
          Attempt.Keeps R
            (writeExpected engine component observed before (done ++ [stamped]) rest tally) := by
        intro stamped hentry tally
        refine ih tally ?_
        simpa only [Bag.entries_append, Bag.entries_cons, Bag.entries_nil, hentry,
          List.append_assoc, List.cons_append, List.nil_append] using hbag
      refine Attempt.keeps_bind_answer hR (Attempt.keeps_liftM hR _) ?_
      intro identity w hidentity
      refine Attempt.keeps_bind hR (Attempt.keeps_liftM hR _) ?_
      intro counterpart?
      cases counterpart? with
      | some counterpart =>
          refine Attempt.keeps_bind hR (Attempt.keeps_liftM hR _) ?_
          intro version
          refine Attempt.keeps_bind_answer hR (Attempt.keeps_liftM hR _) ?_
          intro object w' hobject
          have hsame :=
            Body.Identified.identify_of_setResourceVersion ⟨_, hidentity⟩ hobject
          have hentry : (⟨object, item.lifecycle⟩ : Tagged).entry = item.entry :=
            congrArg (·, item.lifecycle) hsame
          have hupdate := h.update object
          rw [Body.key_eq (hsame.trans hidentity)] at hupdate
          refine Attempt.keeps_bind hR (hbag _ ?_) ?_
          · simp only [Bag.entries_append, Bag.entries_cons, hentry]
          intro _
          refine Attempt.keeps_bind hR (keeps_diverges hR h _ _) ?_
          intro differs
          split
          · refine Attempt.keeps_bind hR hupdate ?_
            intro failure
            cases failure <;> exact hnext _ hentry _
          · refine Attempt.keeps_bind hR (h.report _ rfl) ?_
            intro _
            exact hnext _ hentry _
      | none =>
          have hcreate := h.create item.object
          rw [Body.key_eq hidentity] at hcreate
          simp only []
          split
          · refine Attempt.keeps_bind hR hcreate ?_
            intro failure
            cases failure <;> exact hnext item rfl _
          · refine Attempt.keeps_bind hR (Attempt.keeps_liftM hR _) ?_
            intro text
            refine Attempt.keeps_bind hR (h.report _ rfl) ?_
            intro _
            exact hnext item rfl _

theorem keeps_deleteUnexpected (hR : Steady R) (h : Moves engine component R)
    (expected observed : Bag) (tally : Tally) :
    Attempt.Keeps R (deleteUnexpected engine expected observed tally) := by
  induction observed generalizing tally with
  | nil => exact Attempt.keeps_pure hR _
  | cons item rest ih =>
      refine Attempt.keeps_bind_answer hR (Attempt.keeps_liftM hR _) ?_
      intro identity w hidentity
      refine Attempt.keeps_bind hR (Attempt.keeps_liftM hR _) ?_
      intro counterpart?
      cases counterpart? with
      | some _ => exact ih _
      | none =>
          have hdelete := h.delete item.object
          rw [Body.key_eq hidentity] at hdelete
          refine Attempt.keeps_bind hR hdelete ?_
          intro failure
          cases failure <;> exact ih _

/-- What a survey without a fault calls for, once its expected objects stand behind those
of the components before. -/
def settle (engine : Engine σ) (component : Component ω) (before : Bag) (survey : Survey) :
    Step σ ω Tally := do
  let expected ← stamp engine component.owners before [] survey.expected
  reportObserved engine survey.observed
  let (expected, tally) ←
    writeExpected engine component survey.observed before [] expected Tally.empty
  deleteUnexpected engine expected survey.observed tally

theorem writeSurveyed_eq (engine : Engine σ) (component : Component ω) {survey : Survey}
    (h : survey.fault = none) :
    writeSurveyed engine component survey = (do
      let before ← Attempt.read World.aggregated
      Step.aggregate (before ++ survey.expected)
      settle engine component before survey) := by
  rw [writeSurveyed, h]
  rfl

theorem keeps_settle (hR : Steady R) (h : Moves engine component R) {before : Bag}
    {survey : Survey} (hbag : Rebags R (before ++ survey.expected).entries) :
    Attempt.Keeps R (settle engine component before survey) := by
  refine Attempt.keeps_bind_answer hR (keeps_stamp hR h.report _ ?_) ?_
  · simpa only [List.append_nil] using hbag
  intro expected w hanswer
  have hentries : expected.entries = survey.expected.entries :=
    yields_stamp engine component.owners before [] survey.expected w _ expected
      (Prod.ext hanswer rfl)
  refine Attempt.keeps_bind hR (keeps_reportObserved hR h.report _) ?_
  intro _
  refine Attempt.keeps_bind hR (keeps_writeExpected hR h _ _ ?_) ?_
  · simpa only [List.append_nil, Bag.entries_append, hentries] using hbag
  intro written
  exact keeps_deleteUnexpected hR h _ _ _

theorem keeps_writeSurveyed (hR : Steady R) (h : Moves engine component R)
    (hbag : ∀ entries, Rebags R entries) (survey : Survey) :
    Attempt.Keeps R (writeSurveyed engine component survey) := by
  cases hfault : survey.fault with
  | some fault =>
      rw [writeSurveyed, hfault]
      refine Attempt.keeps_bind hR (keeps_reportStage hR h.report _) ?_
      intro _
      exact Attempt.keeps_pure hR _
  | none =>
      rw [writeSurveyed_eq engine component hfault]
      refine Attempt.keeps_bind hR (Attempt.keeps_read hR _) ?_
      intro before
      refine Attempt.keeps_bind hR (hbag _ _ rfl) ?_
      intro _
      exact keeps_settle hR h (hbag _)

/-- The end of a run: the component is told of the outcome, and the faults are raised as
one. -/
def tell (component : Component ω) (tally : Tally) : Step σ ω Unit := do
  let fault ← (Fault.aggregate? tally.faults : Except Fault _)
  Step.call (component.updateStatus tally.reconciled fault)
  raise? fault

theorem reconcileComponent_eq (engine : Engine σ) (component : Component ω) :
    reconcileComponent engine component = (do
      Step.report engine.source (.opened .reconciling)
      Attempt.ensuring
        (do
          let survey ← observeAndMutate engine component true
          let tally ← writeSurveyed engine component survey
          tell component tally)
        (Step.report engine.source (.closed .reconciling))) := rfl

theorem keeps_tell (hR : Steady R)
    (hupdate : ∀ live fault, Attempt.Keeps R (Step.call (component.updateStatus live fault)))
    (tally : Tally) : Attempt.Keeps R (tell component tally) := by
  refine Attempt.keeps_bind hR (Attempt.keeps_liftM hR _) ?_
  intro fault
  refine Attempt.keeps_bind hR (hupdate _ _) ?_
  intro _
  exact keeps_raise? hR _

/-- A run of a component is made of its survey, of the moves about its objects and of one
call that tells the outcome. -/
theorem keeps_reconcileComponent_of (hR : Steady R)
    (hsurvey : Attempt.Keeps R (observeAndMutate engine component true))
    (h : Moves engine component R) (hbag : ∀ entries, Rebags R entries)
    (hupdate : ∀ live fault, Attempt.Keeps R (Step.call (component.updateStatus live fault))) :
    Attempt.Keeps R (reconcileComponent engine component) := by
  rw [reconcileComponent_eq]
  refine Attempt.keeps_bind hR (h.report _ rfl) ?_
  intro _
  refine Attempt.keeps_ensuring hR ?_ (h.report _ rfl)
  refine Attempt.keeps_bind hR hsurvey ?_
  intro survey
  refine Attempt.keeps_bind hR (keeps_writeSurveyed hR h hbag survey) ?_
  intro tally
  exact keeps_tell hR hupdate tally

/-- The second step of a finalization, and what comes of both. -/
def cleanUp (engine : Engine σ) (component : Component ω) (survey : Survey) :
    Step σ ω Unit := do
  let before ← Attempt.read World.aggregated
  Step.aggregate (before ++ survey.expected)
  let failure ← match ← (Step.call (component.finalize survey.observed)).outcome with
    | .ok _ => pure []
    | .error fault => do
      Step.report engine.source (.finalizeFailed (← fault.message))
      pure [fault]
  raise? (← (Fault.aggregate? (survey.fault.toList ++ failure) : Except Fault _))

/-- The clean-up once the expected objects stand behind those of the components before. -/
def finish (engine : Engine σ) (component : Component ω) (survey : Survey) :
    Step σ ω Unit := do
  let failure ← match ← (Step.call (component.finalize survey.observed)).outcome with
    | .ok _ => pure []
    | .error fault => do
      Step.report engine.source (.finalizeFailed (← fault.message))
      pure [fault]
  raise? (← (Fault.aggregate? (survey.fault.toList ++ failure) : Except Fault _))

theorem cleanUp_eq (engine : Engine σ) (component : Component ω) (survey : Survey) :
    cleanUp engine component survey = (do
      let before ← Attempt.read World.aggregated
      Step.aggregate (before ++ survey.expected)
      finish engine component survey) := rfl

theorem finalizeComponent_eq (engine : Engine σ) (component : Component ω) :
    finalizeComponent engine component = (do
      Step.report engine.source (.opened .finalizing)
      Attempt.ensuring
        (do
          let survey ← observeAndMutate engine component false
          if survey.fault.isSome then reportStage engine survey
          cleanUp engine component survey)
        (Step.report engine.source (.closed .finalizing))) := rfl

theorem keeps_finish (hR : Steady R)
    (hreport : ∀ notice, Attempt.Keeps R (Step.report engine.source notice))
    (hfinalize : ∀ bag, Attempt.Keeps R (Step.call (component.finalize bag)))
    (survey : Survey) : Attempt.Keeps R (finish engine component survey) := by
  refine Attempt.keeps_bind hR (Attempt.keeps_outcome (hfinalize _)) ?_
  intro answer
  have hraise : ∀ fault? : Except Fault (Option Fault),
      Attempt.Keeps R ((liftM fault? : Step σ ω (Option Fault)) >>= raise?) := by
    intro fault?
    refine Attempt.keeps_bind hR (Attempt.keeps_liftM hR _) ?_
    intro fault
    exact keeps_raise? hR _
  cases answer with
  | ok _ => exact hraise _
  | error fault =>
      refine Attempt.keeps_bind hR (Attempt.keeps_liftM hR _) ?_
      intro text
      refine Attempt.keeps_bind hR (hreport _) ?_
      intro _
      exact hraise _

theorem keeps_cleanUp (hR : Steady R)
    (hreport : ∀ notice, Attempt.Keeps R (Step.report engine.source notice))
    (hfinalize : ∀ bag, Attempt.Keeps R (Step.call (component.finalize bag)))
    (hbag : ∀ entries, Rebags R entries) (survey : Survey) :
    Attempt.Keeps R (cleanUp engine component survey) := by
  rw [cleanUp_eq]
  refine Attempt.keeps_bind hR (Attempt.keeps_read hR _) ?_
  intro before
  refine Attempt.keeps_bind hR (hbag _ _ rfl) ?_
  intro _
  exact keeps_finish hR hreport hfinalize survey

end

variable {D : Desk ω → Desk ω → Prop} {S : σ → σ → Prop}

theorem settles_related (hD : Steady D) (hS : Steady S) {engine : Engine σ}
    (hstore : engine.store.Keeps S) {component : Component ω}
    (hcomparable : ∀ body fields, Attempt.Keeps D (component.comparable body fields))
    (hdiffers : ∀ a b, Attempt.Keeps D (component.differs a b)) :
    Settles engine component (World.Related D S) where
  report := keeps_report hD hS _
  comparable _ _ := keeps_call hS (hcomparable _ _)
  differs _ _ := keeps_call hS (hdiffers _ _)
  create _ := keeps_request hD (hstore.create _)
  update _ := keeps_request hD (hstore.update _)
  delete _ := keeps_request hD (hstore.delete _)

theorem rebags_related (hD : Steady D) (hS : Steady S)
    (entries : List (Except Fault Identity × Lifecycle)) :
    Rebags (World.Related D S) entries :=
  fun bag _ => keeps_aggregate hD hS bag

/-- A survey keeps what its reads and the callbacks of the component keep. -/
theorem keeps_observeAndMutate (hD : Steady D) (hS : Steady S) {engine : Engine σ}
    {component : Component ω} (hreads : engine.store.ReadsKeep S)
    (hcomponent : component.Keeps D) (mutate : Bool) :
    Attempt.Keeps (World.Related D S) (observeAndMutate engine component mutate) :=
  keeps_observeAndMutate_of (steady_related hD hS) (fun _ _ => keeps_report hD hS _ _)
    (fun _ _ _ _ => keeps_request hD (hreads.get _ _ _ _))
    (fun _ _ _ _ => keeps_request hD (hreads.list _ _ _ _))
    (fun _ => keeps_call hS (hcomponent.expectedObjects _))
    (fun _ => keeps_call hS (hcomponent.observables _))
    (fun _ _ => keeps_call hS (hcomponent.mutate _ _)) mutate

theorem keeps_reconcileComponent (hD : Steady D) (hS : Steady S) {engine : Engine σ}
    (hstore : engine.store.Keeps S) {component : Component ω}
    (hcomponent : component.Keeps D) :
    Attempt.Keeps (World.Related D S) (reconcileComponent engine component) := by
  have hR := steady_related hD hS
  refine keeps_reconcileComponent_of hR
    (keeps_observeAndMutate hD hS hstore.toReadsKeep hcomponent true) ?_
    (rebags_related hD hS) fun _ _ => keeps_call hS (hcomponent.updateStatus _ _)
  exact (settles_related hD hS hstore hcomponent.comparable hcomponent.differs).moves hR

theorem keeps_finalizeComponent (hD : Steady D) (hS : Steady S) {engine : Engine σ}
    (hreads : engine.store.ReadsKeep S) {component : Component ω}
    (hcomponent : component.Keeps D) :
    Attempt.Keeps (World.Related D S) (finalizeComponent engine component) := by
  have hR := steady_related hD hS
  rw [finalizeComponent_eq]
  refine Attempt.keeps_bind hR (keeps_report hD hS _ _) ?_
  intro _
  refine Attempt.keeps_ensuring hR ?_ (keeps_report hD hS _ _)
  refine Attempt.keeps_bind hR
    (keeps_observeAndMutate hD hS hreads hcomponent false) ?_
  intro survey
  refine Attempt.keeps_unless hR (keeps_reportStage hR (fun _ _ => keeps_report hD hS _ _) _) ?_
  exact keeps_cleanUp hR (keeps_report hD hS _)
    (fun _ => keeps_call hS (hcomponent.finalize _)) (rebags_related hD hS) survey

/-- The components keep together what the callbacks of each of them keep. -/
theorem keeps_processEach (hD : Steady D) (hS : Steady S) {engine : Engine σ}
    (hstore : engine.store.Keeps S) (deleting : Bool) {components : List (Component ω)}
    (hcomponents : ∀ component ∈ components, component.Keeps D) :
    Attempt.Keeps (World.Related D S) (processEach engine deleting components) := by
  have hR := steady_related hD hS
  induction components with
  | nil => exact Attempt.keeps_pure hR _
  | cons component rest ih =>
      have hcomponent := hcomponents component List.mem_cons_self
      refine Attempt.keeps_bind hR (Attempt.keeps_outcome ?_) ?_
      · split
        · refine keeps_finalizeComponent hD hS ?_ hcomponent
          exact hstore.toReadsKeep
        · refine keeps_reconcileComponent hD hS ?_ hcomponent
          exact hstore
      · intro outcome
        refine Attempt.keeps_bind hR
          (ih fun other hmem => hcomponents other (List.mem_cons_of_mem _ hmem)) ?_
        intro others
        exact Attempt.keeps_pure hR _

end Engine

end OperatorCore
