import OperatorCore.Proofs.Engine.Convergence
import OperatorCore.Proofs.Engine.Outcome
import OperatorCore.Proofs.Engine.Requests
import OperatorCore.Proofs.Engine.Siblings
import OperatorCore.Proofs.Object.Amended

/-!
# What a run stamps on its objects

The engine changes two fields of the objects that a component expects, and none of
those that are observed: the owners, of all of them and before the first write, and
the version, of those that have a counterpart and each when it is its turn. So the
bodies that are written are the expected ones but for these fields, and what stays
behind in the bag of all components is the same, up to the object at which the run came
to a stop. A component that fails when it is told the outcome fails too late for that.

The induction is on the objects that are left for the first loop. Its invariant is what
the bag holds: the objects before, those that are done, and those that are left.
-/

namespace OperatorCore

variable {σ ω α β : Type}

/-- The version of an object, if it has one. -/
def Tagged.version? (item : Tagged) : Option Value :=
  if (Body.version item.object).isNull then none else some (Body.version item.object)

/-- What an expected object is given: the owners, and the version of its counterpart,
if it has one. -/
def stamps (owners : List Value) (counterpart : Option Tagged) :
    List (String × Option Value) :=
  (counterpart.map fun c => ("resourceVersion", c.version?)).toList
    ++ [("ownerReferences", some (.arr owners))]

theorem Body.Identified.amended_owned {body : Value} (h : Body.Identified body)
    (owners : List Value) :
    Body.Amended (stamps owners none) body (Body.owned owners body) := by
  obtain ⟨top, md, hs⟩ := Body.identified_iff_shaped.1 h
  rw [hs.owned]
  exact hs.amended_put _ _

theorem Body.Identified.amended_versioned {body : Value} (h : Body.Identified body)
    (c : Tagged) :
    Body.Amended [("resourceVersion", c.version?)] body
      (Body.versioned (Body.version c.object) body) :=
  h.amended_version (Body.version c.object)

/-- Both stamps together. -/
theorem Body.Identified.amended {body : Value} (h : Body.Identified body)
    (owners : List Value) (c : Tagged) :
    Body.Amended (stamps owners (some c)) body
      (Body.versioned (Body.version c.object) (Body.owned owners body)) :=
  (h.amended_owned owners).trans ((h.owned owners).amended_versioned c)

/-- An object of the bag of all components, as it was expected and as it has become. -/
def Tagged.Stamped (changes : List (String × Option Value)) (item final : Tagged) : Prop :=
  final.lifecycle = item.lifecycle ∧ Body.Amended changes item.object final.object

/-- The writes that a run may ask for, by the objects that they are made of. -/
inductive Sends (owners : List Value) (expected observed : Bag) : Write → Prop where
  | create {item : Tagged} {body : Value} :
      item ∈ expected → item.isManaged = true → observed.counterpart item.key = none →
      Body.Amended (stamps owners none) item.object body →
      Sends owners expected observed (.create body)
  | update {item c : Tagged} {body : Value} :
      item ∈ expected → item.isManaged = true → observed.counterpart item.key = some c →
      Body.Amended (stamps owners (some c)) item.object body →
      Sends owners expected observed (.update body)
  | delete {c : Tagged} :
      c ∈ observed → Sends owners expected observed (.delete c.object)

namespace Engine

/-! ## The bodies that are sent -/

theorem sends_of_mayWrite {component : Component ω} {settings : Settings}
    {expected observed : Bag} (hexpected : expected.Identified) {task : Task ω}
    (htask : task ∈ agenda component settings expected observed) {write : Write}
    (hwrite : task.MayWrite write) :
    Sends component.owners expected observed write := by
  rcases List.mem_append.1 htask with he | ho
  · obtain ⟨item, hitem, rfl⟩ := List.mem_map.1 he
    have hid := hexpected item hitem
    have hkey := Tagged.key_owned hid component.owners
    obtain ⟨desk, hdue⟩ := hwrite
    rw [expectedTask, hkey] at hdue
    split at hdue
    · next c hc =>
        obtain ⟨hmanaged, rfl⟩ := due_revision_cases (Prod.ext hdue rfl)
        exact .update hitem hmanaged hc (hid.amended component.owners c)
    · next hc =>
        have hcreate : (if item.isManaged then
            some (Write.create (Body.owned component.owners item.object)) else none) =
            some write := Except.ok.inj hdue
        split at hcreate
        · next hmanaged =>
            cases hcreate
            exact .create hitem hmanaged hc (hid.amended_owned component.owners)
        · cases hcreate
  · obtain ⟨c, hc, rfl⟩ := List.mem_map.1 ho
    rw [(delete_of_observedTask hwrite).2]
    exact .delete hc

/-- Whatever fails, the bodies that are sent are those of the survey but for the
stamps. -/
theorem sends_of_attempted {engine : Engine σ} {component : Component ω}
    {w w₁ : World (Recorded σ) ω} {expected observed : Bag} {made : List Attempted}
    (hsurvey : Surveys engine.recorded component w expected observed w₁)
    (hmade : ((reconcileComponent engine.recorded component).run w).2.store.attempts =
      w.store.attempts ++ made) {a : Attempted} (ha : a ∈ made) :
    Sends component.owners expected observed a.write := by
  rw [← (onlyRead_of_surveys hsurvey).attempts_eq] at hmade
  by_cases hid : expected.Identified ∧ observed.Identified
  · obtain ⟨aggregated, log, hrun⟩ := run_reconcileComponent hsurvey hid.1 hid.2
    rw [hrun] at hmade
    have hattempts := List.append_cancel_left
      (hmade.symm.trans (attempts_carryOut engine.store _ _ _))
    rw [hattempts] at ha
    obtain ⟨task, htask, hwrite⟩ := mayWrite_of_attempted ha
    exact sends_of_mayWrite hid.1 htask hwrite
  · obtain ⟨e, aggregated, log, hrun⟩ := run_reconcileComponent_unidentified hsurvey hid
    rw [hrun, List.self_eq_append_right] at hmade
    rw [hmade] at ha
    cases ha

/-! ## The bag of all components -/

theorem moves_sameBag (engine : Engine σ) (component : Component ω) :
    Moves engine component World.SameBag :=
  Settles.moves steady_sameBag
    ⟨fun _ _ => rfl, fun _ _ _ => rfl, fun _ _ _ => rfl, fun _ _ => rfl, fun _ _ => rfl,
      fun _ _ => rfl⟩

/-- What holds if it ends here, and of all that it goes on with. -/
theorem bag_bind {P : Except Fault β → Bag → Prop} {x : Step σ ω α}
    {f : α → Step σ ω β} {w : World σ ω} (hx : Attempt.Keeps World.SameBag x)
    (herror : ∀ e, P (.error e) w.aggregated)
    (hok : ∀ a w', (x.run w).1 = .ok a → w'.aggregated = w.aggregated →
      P ((f a).run w').1 ((f a).run w').2.aggregated) :
    P ((x >>= f).run w).1 ((x >>= f).run w).2.aggregated := by
  have hkept := hx w
  rw [Attempt.run_bind]
  split
  · next a w' hrun =>
      rw [hrun] at hkept
      exact hok a w' (congrArg Prod.fst hrun) hkept
  · next e w' hrun =>
      rw [hrun] at hkept
      rw [show w'.aggregated = w.aggregated from hkept]
      exact herror e

theorem bag_aggregate {P : Except Fault β → Bag → Prop} {bag : Bag}
    {f : Unit → Step σ ω β} {w : World σ ω}
    (h : P ((f ()).run { w with aggregated := bag }).1
      ((f ()).run { w with aggregated := bag }).2.aggregated) :
    P ((Step.aggregate bag >>= f).run w).1 ((Step.aggregate bag >>= f).run w).2.aggregated :=
  h

theorem bag_stamp (engine : Engine σ) (owners : List Value) (before : Bag) {todo : Bag}
    (htodo : todo.Identified) (done : Bag) (w : World σ ω)
    (hbag : w.aggregated = before ++ done ++ todo) :
    ((stamp engine owners before done todo).run w).2.aggregated =
      before ++ done ++ todo.map (Tagged.owned owners) := by
  induction todo generalizing done w with
  | nil => exact hbag
  | cons item rest ih =>
      have hid := (htodo.head.owned owners).identify
      have h := ih htodo.tail (done ++ [item.owned owners])
      simp only [stamp, Attempt.run_bind, Attempt.run_liftM,
        htodo.head.setOwnerReferences, Step.run_aggregate, Tagged.identity, hid,
        Step.run_report]
      simp only [List.append_assoc, List.cons_append, List.nil_append] at h ⊢
      exact h _ rfl

/-- The bag in the first loop: the versions are set up to some object, and to the last
one if the loop is answered. -/
def Adopted (before done observed todo : Bag) (answer : Except Fault β) (bag : Bag) :
    Prop :=
  ∃ first rest, todo = first ++ rest ∧
    bag = before ++ done ++ first.map (Tagged.adopting observed) ++ rest ∧
    (answer.isOk = true → rest = [])

section Adopted

variable {before done observed rest : Bag} {item : Tagged}

theorem adopted_start (before done observed todo : Bag) (e : Fault) :
    Adopted before done observed todo (.error e : Except Fault β)
      (before ++ done ++ todo) := by
  refine ⟨[], todo, rfl, by simp, ?_⟩
  intro h
  cases h

/-- Where the loop stops at an object, that object has its version already. -/
theorem adopted_stop (before done observed rest : Bag) (item : Tagged) (e : Fault) :
    Adopted before done observed (item :: rest) (.error e : Except Fault β)
      (before ++ done ++ item.adopting observed :: rest) := by
  refine ⟨[item], rest, rfl, by simp, ?_⟩
  intro h
  cases h

theorem Adopted.cons {answer : Except Fault β} {bag : Bag}
    (h : Adopted before (done ++ [item.adopting observed]) observed rest answer bag) :
    Adopted before done observed (item :: rest) answer bag := by
  obtain ⟨first, rest, rfl, rfl, hended⟩ := h
  refine ⟨item :: first, rest, rfl, ?_, hended⟩
  simp only [List.append_assoc, List.cons_append, List.nil_append, List.map_cons]

end Adopted

theorem bag_writeExpected (engine : Engine σ) (component : Component ω)
    {observed : Bag} (hobserved : observed.Identified) (before : Bag) {todo : Bag}
    (htodo : todo.Identified) (done : Bag) (tally : Tally) (w : World σ ω)
    (hbag : w.aggregated = before ++ done ++ todo) :
    Adopted before done observed todo
      ((writeExpected engine component observed before done todo tally).run w).1
      ((writeExpected engine component observed before done todo tally).run w).2.aggregated := by
  induction todo generalizing done tally w with
  | nil =>
      refine ⟨[], [], rfl, ?_, fun _ => rfl⟩
      rw [List.map_nil, List.append_nil]
      exact hbag
  | cons item rest ih =>
      have hwrite : ∀ {γ : Type} (op : Operation) (identity : Identity)
          (operation : σ → Reply σ γ),
          Attempt.Keeps (World.SameBag (ω := ω)) (write engine op identity operation) :=
        fun op identity operation =>
          keeps_write steady_sameBag (fun _ _ => rfl) op identity fun _ => rfl
      -- what comes after the present object, once the bag has it as it is to be
      have hnext : ∀ tally' (w' : World σ ω),
          w'.aggregated = before ++ done ++ item.adopting observed :: rest →
          Adopted before done observed (item :: rest)
            ((writeExpected engine component observed before
              (done ++ [item.adopting observed]) rest tally').run w').1
            ((writeExpected engine component observed before
              (done ++ [item.adopting observed]) rest tally').run w').2.aggregated := by
        intro tally' w' hw'
        refine (ih htodo.tail (done ++ [item.adopting observed]) tally' w' ?_).cons
        rw [hw']
        simp only [List.append_assoc, List.cons_append, List.nil_append]
      have hstop : ∀ e, Adopted before done observed (item :: rest)
          (.error e : Except Fault (Bag × Tally))
          (before ++ done ++ item.adopting observed :: rest) :=
        adopted_stop before done observed rest item
      cases hc : observed.counterpart item.key with
      | some c =>
          rw [writeExpected_present engine component hobserved before done rest htodo.head
            tally hc]
          refine bag_aggregate ?_
          refine bag_bind (keeps_diverges steady_sameBag (moves_sameBag engine component) _ _)
            hstop ?_
          intro differs w₁ _ hw₁
          cases differs with
          | true =>
              refine bag_bind (hwrite _ _ _) (fun e => hw₁ ▸ hstop e) ?_
              intro failure w₂ _ hw₂
              exact hnext _ w₂ (hw₂.trans hw₁)
          | false => exact hnext _ _ hw₁
      | none =>
          have hadopt : item.adopting observed = item := by
            rw [Tagged.adopting, hc]
          have hdone : w.aggregated = before ++ done ++ item.adopting observed :: rest := by
            rw [hadopt, hbag]
          rw [writeExpected_absent engine component hobserved before done rest htodo.head
            tally hc]
          cases item.isManaged with
          | true =>
              refine bag_bind (hwrite _ _ _) (fun e => hdone ▸ hstop e) ?_
              intro failure w₁ _ hw₁
              exact hnext _ w₁ (hw₁.trans hdone)
          | false => exact hnext _ _ hdone

/-- What comes behind the loop leaves the bag alone. -/
theorem Adopted.bind {before done observed todo : Bag} {x : Step σ ω α}
    {f : α → Step σ ω β} {w : World σ ω}
    (h : Adopted before done observed todo (x.run w).1 (x.run w).2.aggregated)
    (hf : ∀ a, Attempt.Keeps World.SameBag (f a)) :
    Adopted before done observed todo ((x >>= f).run w).1
      ((x >>= f).run w).2.aggregated := by
  rw [Attempt.run_bind]
  split
  · next a w' hrun =>
      rw [hrun] at h
      obtain ⟨first, rest, htodo, hbag, hended⟩ := h
      exact ⟨first, rest, htodo, (hf a w').trans hbag, fun _ => hended rfl⟩
  · next e w' hrun =>
      rw [hrun] at h
      obtain ⟨first, rest, htodo, hbag, -⟩ := h
      refine ⟨first, rest, htodo, hbag, ?_⟩
      intro he
      cases he

theorem bag_writeSurveyed (engine : Engine σ) (component : Component ω)
    {expected observed : Bag} (hexpected : expected.Identified)
    (hobserved : observed.Identified) (stage : Stage) (w : World σ ω) :
    Adopted w.aggregated [] observed (expected.map (Tagged.owned component.owners))
      ((writeSurveyed engine component ⟨expected, observed, stage, none⟩).run w).1
      ((writeSurveyed engine component ⟨expected, observed, stage, none⟩).run
        w).2.aggregated := by
  have howned : Bag.Identified (expected.map (Tagged.owned component.owners)) :=
    hexpected.map fun item h => h.owned _
  have hmoves := moves_sameBag engine component
  let w₀ : World σ ω := { w with aggregated := w.aggregated ++ expected }
  obtain ⟨aggregated, log, hstamp⟩ :=
    run_stamp engine component.owners w.aggregated hexpected [] w₀
  have hbag := bag_stamp engine component.owners w.aggregated hexpected [] w₀
    (by rw [List.append_nil])
  rw [hstamp] at hbag
  rw [writeSurveyed_eq engine component rfl]
  show Adopted _ _ _ _ ((settle engine component w.aggregated _).run w₀).1
    ((settle engine component w.aggregated _).run w₀).2.aggregated
  rw [settle, Attempt.run_bind_ok hstamp, List.nil_append]
  refine bag_bind (keeps_reportObserved steady_sameBag hmoves.report _) ?_ ?_
  · intro e
    rw [show aggregated = _ from hbag]
    exact adopted_start _ _ _ _ e
  · intro _ w₂ _ hw₂
    refine (bag_writeExpected engine component hobserved w.aggregated howned []
      Tally.empty w₂ (hw₂.trans hbag)).bind ?_
    intro written
    exact keeps_deleteUnexpected steady_sameBag hmoves _ _ _

/-- The bag at the end of a run is the one that the writes have left. -/
theorem bag_reconcileComponent {engine : Engine σ} {component : Component ω}
    {w w₁ : World σ ω} {survey : Survey}
    (h : (observeAndMutate engine component true).run (opened engine w) =
      (.ok survey, w₁)) :
    ((reconcileComponent engine component).run w).2.aggregated =
      ((writeSurveyed engine component survey).run w₁).2.aggregated := by
  rw [reconcileComponent_eq]
  refine Attempt.holds_ensuring (P := fun w' : World σ ω => w'.aggregated = _)
    (s := opened engine w) ?_ (fun _ h => h)
  rw [Attempt.run_bind_ok h]
  refine Attempt.holds_bind (P := fun w' : World σ ω => w'.aggregated = _) rfl ?_
  intro tally
  exact keeps_tell (steady_inherits _) (fun _ _ _ h => h) tally

theorem stamped_owned {item : Tagged} (h : Body.Identified item.object)
    (owners : List Value) :
    Tagged.Stamped (stamps owners none) item (item.owned owners) :=
  ⟨rfl, h.amended_owned owners⟩

theorem stamped_adopting {item : Tagged} (h : Body.Identified item.object)
    (owners : List Value) (observed : Bag) :
    Tagged.Stamped (stamps owners (observed.counterpart item.key)) item
      ((item.owned owners).adopting observed) := by
  rw [Tagged.adopting, Tagged.key_owned h]
  cases observed.counterpart item.key with
  | some c => exact ⟨rfl, h.amended owners c⟩
  | none => exact stamped_owned h owners

/-! ## The objects that are told to be live -/

theorem exists_of_forall₂ {R : α → β → Prop} {as : List α} {bs : List β}
    (h : List.Forall₂ R as bs) {b : β} (hb : b ∈ bs) : ∃ a ∈ as, R a b := by
  induction h with
  | nil => cases hb
  | @cons a b' as bs hab _ ih =>
      rcases List.mem_cons.1 hb with rfl | hb
      · exact ⟨a, List.mem_cons_self, hab⟩
      · obtain ⟨a', ha', hab'⟩ := ih hb
        exact ⟨a', List.mem_cons_of_mem _ ha', hab'⟩

/-- Without a stop, what is live is observed, or was created. -/
theorem live_of_carryOut {store : ObjectStore σ} {component : Component ω}
    {settings : Settings} {expected observed : Bag} (hexpected : expected.Identified)
    {desk : Desk ω} {s : σ}
    (hstop : (carryOut store (agenda component settings expected observed) desk s).stop =
      none) :
    ∀ body ∈ (carryOut store (agenda component settings expected observed) desk s).live,
      (∃ c ∈ observed, body = c.object) ∨
      ∃ item ∈ expected, Body.Amended (stamps component.owners none) item.object body := by
  intro body hbody
  obtain ⟨first, second, hcomes, hgoes, -, -, hlive⟩ := upshots_of_carryOut hstop
  rw [hlive] at hbody
  obtain ⟨upshot, hupshot, hbody⟩ := List.mem_filterMap.1 hbody
  rcases List.mem_append.1 hupshot with hfirst | hsecond
  · obtain ⟨owned, hmem, hcomes⟩ := exists_of_forall₂ hcomes hfirst
    obtain ⟨item, hitem, rfl⟩ := List.mem_map.1 hmem
    cases hcomes with
    | left hc | updated hc | notUpdated hc =>
        cases hbody
        exact .inl ⟨_, List.mem_of_find?_eq_some hc, rfl⟩
    | created =>
        cases hbody
        exact .inr ⟨item, hitem, (hexpected item hitem).amended_owned _⟩
    | notCreated | missing => cases hbody
  · obtain ⟨c, -, hgoes⟩ := exists_of_forall₂ hgoes hsecond
    cases hgoes <;> cases hbody

/-- A component is told nothing before a stop, and once without one. -/
theorem told_of_reconcile {engine : Engine σ} {component : Component ω}
    {w w₁ : World (Recorded σ) (Noted ω)} {expected observed : Bag}
    (hsurvey : Surveys engine.recorded component.noted w expected observed w₁)
    (hexpected : expected.Identified) (hobserved : observed.Identified) :
    let p := carryOut engine.store.recorded
      (agenda component.noted engine.settings expected observed) w₁.desk w₁.store
    let run := (reconcileComponent engine.recorded component.noted).run w
    (p.stop ≠ none ∧ run.2.desk.app.told = w.desk.app.told) ∨
    (p.stop = none ∧ run.2.desk.app.told = w.desk.app.told ++ [(p.live, p.fault)]) := by
  intro p run
  obtain ⟨aggregated, log, hrun⟩ := run_reconcileComponent hsurvey hexpected hobserved
  have hdesk : run.2.desk = ((conclusion component.noted p).run p.desk).2 :=
    congrArg (fun r => r.2.desk) hrun
  rw [hdesk, ← untold_of_surveys hsurvey]
  simp only [conclusion, Progress.result, Attempt.run_bind, Attempt.run_liftM]
  cases hstop : p.stop with
  | some fault =>
      left
      simp only []
      exact ⟨Option.some_ne_none _, rfl⟩
  | none =>
      right
      refine ⟨rfl, ?_⟩
      have htold : ((component.noted.updateStatus p.live p.fault).run p.desk).2.app.told =
          p.desk.app.told ++ [(p.live, p.fault)] := rfl
      rcases hu : (component.noted.updateStatus p.live p.fault).run p.desk with ⟨e | _, desk⟩
      · rw [hu] at htold
        simp only [hu]
        exact htold
      · rw [hu] at htold
        simp only [hu]
        cases hfault : p.fault <;>
          · rw [hfault] at htold
            exact htold

/-! ## The stamps of a run -/

/-- What a run makes of the objects of a survey. The bodies that are sent to the store
are those of the survey but for the stamps, and so is what is put into the bag of all
components: all with the owners, and with the versions up to the object at which the
run came to a stop. A stop takes a callback that fails before the component is told, or a
fault without a message. What the component is told to be live was observed, or is what it
expects but for the owners. -/
theorem reconcile_stamps {engine : Engine σ} {component : Component ω}
    {w w₁ : World (Recorded σ) (Noted (Watched ω))} {expected observed : Bag}
    (hsurvey : Surveys engine.recorded component.watched.noted w expected observed w₁) :
    let run := (reconcileComponent engine.recorded component.watched.noted).run w
    let before := ((upToTelling engine.recorded component.watched.noted).run
      (opened engine.recorded w)).2
    (∀ made, run.2.store.attempts = w.store.attempts ++ made →
      ∀ a ∈ made, Sends component.owners expected observed a.write) ∧
    (expected.Identified → observed.Identified →
      (∃ first rest done left, expected = first ++ rest ∧
        run.2.aggregated = w.aggregated ++ done ++ left ∧
        List.Forall₂ (fun item => Tagged.Stamped
          (stamps component.owners (observed.counterpart item.key)) item) first done ∧
        List.Forall₂ (Tagged.Stamped (stamps component.owners none)) rest left ∧
        ∀ made, run.2.store.attempts = w.store.attempts ++ made →
          (∀ a ∈ made, a.Told) → before.desk.lapses = w.desk.lapses → rest = []) ∧
      ∀ calls, run.2.desk.app.told = w.desk.app.told ++ calls →
        ∀ call ∈ calls, ∀ body ∈ call.1, (∃ c ∈ observed, body = c.object) ∨
          ∃ item ∈ expected,
            Body.Amended (stamps component.owners none) item.object body) := by
  intro run before
  refine ⟨?_, ?_⟩
  · intro made hmade a ha
    exact sends_of_attempted hsurvey hmade ha
  intro hexpected hobserved
  refine ⟨?_, ?_⟩
  · obtain ⟨stage, hrun⟩ := id hsurvey
    have hbag : w₁.aggregated = w.aggregated := by
      have hkept := survey_keeps_bag engine.recorded component.watched.noted true
        (opened engine.recorded w)
      rw [show (observeAndMutate engine.recorded component.watched.noted true).run
        (opened engine.recorded w) = _ from hrun] at hkept
      exact hkept
    obtain ⟨first, rest, hsplit, hwritten, hended⟩ := bag_writeSurveyed engine.recorded
      component.watched.noted hexpected hobserved stage w₁
    rw [← bag_reconcileComponent hrun, hbag, List.append_nil] at hwritten
    obtain ⟨before, after, rfl, rfl, rfl⟩ := List.map_eq_append_iff.1 hsplit
    refine ⟨before, after, _, _, rfl, hwritten, ?_, ?_, ?_⟩
    · rw [List.map_map, List.forall₂_map_right_iff, List.forall₂_same]
      intro item hitem
      exact stamped_adopting (hexpected item (List.mem_append_left _ hitem)) _ observed
    · rw [List.forall₂_map_right_iff, List.forall₂_same]
      intro item hitem
      exact stamped_owned (hexpected item (List.mem_append_right _ hitem)) _
    · intro made hmade htold hquiet
      obtain ⟨-, hstop⟩ := carriedOut_of_quiet hsurvey hexpected hobserved hquiet hmade htold
      refine List.map_eq_nil_iff.1 (hended ?_)
      obtain ⟨aggregated, log, hends⟩ := run_writeSurveyed engine.recorded
        component.watched.noted hexpected hobserved stage w₁
      have hstop' : (carryOut engine.recorded.store (agenda component.watched.noted
          engine.recorded.settings (before ++ after) observed) w₁.desk w₁.store).stop =
            none := hstop
      rw [hends, Progress.result, hstop']
      rfl
  · intro calls hcalls call hcall
    rcases told_of_reconcile hsurvey hexpected hobserved with
      ⟨-, hnone⟩ | ⟨hstop, hone⟩
    · rw [show run.2.desk.app.told = _ from hnone, List.self_eq_append_right] at hcalls
      rw [hcalls] at hcall
      cases hcall
    · obtain rfl := List.append_cancel_left
        ((show run.2.desk.app.told = _ from hone).symm.trans hcalls)
      obtain rfl := List.mem_singleton.1 hcall
      exact live_of_carryOut hexpected hstop

/-! ## A pod to create and one that is there

Both are expected, and the creation fails. With a message of the fault, the run gets to
the second pod and gives it the version of its counterpart; without one, it does not. -/

/-- A store that holds a pod and fails to create another one. -/
def holdingOne (fault : Fault) : MemoryStore :=
  { holding with failures := [((.create, podIdentity "p"), fault)] }

theorem holdingOne_surveys (fault : Fault) :
    ∃ w₁, Surveys inMemory.recorded (expecting twoPods).watched.noted
      (startWatched (holdingOne fault)) twoPods [.managed heldPod] w₁ :=
  ⟨_, .mutating, rfl⟩

theorem heldPod_identified : Bag.Identified [.managed heldPod] :=
  Bag.identified_cons ⟨_, rfl⟩ Bag.identified_nil

/-- A component that fails when it is told the outcome. -/
def startled : Component Unit :=
  { expecting twoPods with
    updateStatus := fun _ _ => Attempt.fail (.of (.runtime (.str "no status"))) }

/-- The world before a run of it whose creation fails. -/
def beforeFailure : World (Recorded MemoryStore) (Noted (Watched Unit)) :=
  startWatched (holdingOne (MemoryStore.injected "create"))

theorem startled_lapses :
    ((upToTelling inMemory.recorded startled.watched.noted).run
      (opened inMemory.recorded beforeFailure)).2.desk.lapses = beforeFailure.desk.lapses ∧
    ((reconcileComponent inMemory.recorded startled.watched.noted).run
      beforeFailure).2.desk.lapses = beforeFailure.desk.lapses + 1 ∧
    allTold ((reconcileComponent inMemory.recorded startled.watched.noted).run
      beforeFailure).2.store.attempts = true := by
  decide +kernel

theorem pods_stamped_after_injected_failure :
    ((reconcileComponent inMemory.recorded startled.watched.noted).run
      beforeFailure).2.desk.lapses = beforeFailure.desk.lapses + 1 ∧
    List.Forall₂ (fun item => Tagged.Stamped
      (stamps [] (Bag.counterpart [.managed heldPod] item.key)) item) twoPods
      ((reconcileComponent inMemory.recorded startled.watched.noted).run
        beforeFailure).2.aggregated := by
  obtain ⟨hquiet, hlapses, htold⟩ := startled_lapses
  obtain ⟨w₁, hsurvey⟩ : ∃ w₁, Surveys inMemory.recorded startled.watched.noted beforeFailure
      twoPods [.managed heldPod] w₁ := ⟨_, .mutating, rfl⟩
  obtain ⟨⟨first, rest, done, left, hsplit, hbag, hdone, hleft, hended⟩, -⟩ :=
    (reconcile_stamps hsurvey).2 twoPods_identified heldPod_identified
  obtain rfl := hended _ (List.nil_append _).symm (told_of_allTold htold) hquiet
  obtain rfl : first = twoPods := by rw [hsplit, List.append_nil]
  cases hleft
  rw [List.append_nil] at hbag
  refine ⟨hlapses, ?_⟩
  rw [hbag]
  exact hdone

/-- The second pod is left without the version of its counterpart. -/
theorem version_left_out_after_mute_fault :
    let run := (reconcileComponent inMemory.recorded (expecting twoPods).watched.noted).run
      (startWatched (holdingOne mute))
    (∃ w₁, Surveys inMemory.recorded (expecting twoPods).watched.noted
      (startWatched (holdingOne mute)) twoPods [.managed heldPod] w₁) ∧
    twoPods.Identified ∧ Bag.Identified [.managed heldPod] ∧ run.2.desk.lapses = 0 ∧
    run.2.aggregated = twoPods.map (Tagged.owned []) ∧
    ¬ List.Forall₂ (fun item => Tagged.Stamped
      (stamps [] (Bag.counterpart [.managed heldPod] item.key)) item) twoPods
      run.2.aggregated := by
  intro run
  have hbag : run.2.aggregated = twoPods.map (Tagged.owned []) := by decide +kernel
  refine ⟨holdingOne_surveys mute, twoPods_identified, heldPod_identified,
    by decide +kernel, hbag, ?_⟩
  intro hstamped
  rw [hbag] at hstamped
  cases hstamped with
  | cons _ hrest =>
      cases hrest with
      | cons hsecond _ =>
          have hversion := hsecond.2.version_eq (v := .str "1") rfl
          revert hversion
          decide +kernel

end Engine

end OperatorCore
