import OperatorCore.Proofs.Engine.Convergence
import OperatorCore.Proofs.Engine.Requests
import OperatorCore.Proofs.Engine.Survey
import OperatorCore.Proofs.Store.Attempts

/-!
# How often a run writes an object

Bags keep duplicates. What two lookups find is observed twice, and if it is not
expected, it is deleted twice: the second deletion finds nothing. An expected object is
written once at most, by the first loop, however often it is observed, because the
deletions spare it.

So the keys of the writes of a run are counted on two lists: the expected objects, and
the observed ones that are not expected. On a store in memory the second list is what
the lookups find, one after another, or less where a failure feigns the absence of an
object, and one lookup finds an object once.

That no deletion comes too late needs the state in which it is made. The writes
of a run are those of a list, so it is the state after the writes before.
-/

namespace OperatorCore

variable {σ ω : Type}

/-! ## What is counted -/

/-- Of a list without two entries of the same identity, one at most has a given one. -/
theorem countP_same_le_one {α : Type} {key : α → Identity} {entries : List α}
    (h : entries.Pairwise fun a b => (key a).same (key b) = false) (i : Identity) :
    (entries.countP fun a => (key a).same i) ≤ 1 := by
  induction entries with
  | nil => exact Nat.zero_le 1
  | cons a rest ih =>
      obtain ⟨ha, hrest⟩ := List.pairwise_cons.1 h
      rw [List.countP_cons]
      split
      · next hai =>
          have hnone : (rest.countP fun b => (key b).same i) = 0 := by
            rw [List.countP_eq_zero]
            intro b hb hbi
            have hab := Identity.same_trans hai (Identity.same_symm hbi)
            rw [ha b hb] at hab
            cases hab
          omega
      · exact ih hrest

namespace MemoryStore

variable {s : MemoryStore}

/-- How many of the lookups find the object that is held under an identity. -/
def hits (s : MemoryStore) (observables : List Observable) (i : Identity) : Nat :=
  observables.countP fun o => (s.object? i).any (o.finds i)

/-- One lookup finds an object once. -/
theorem Sound.countP_found_le (hs : Sound s) (o : Observable) (i : Identity) :
    ((s.found o).countP fun body => (Body.key body).same i) ≤
      if (s.object? i).any (o.finds i) then 1 else 0 := by
  split
  · exact countP_same_le_one (hs.pairwise_found o) i
  · next hnone =>
      refine Nat.le_of_eq (List.countP_eq_zero.2 ?_)
      intro body hbody hsame
      obtain ⟨hobject, hfinds⟩ := hs.mem_found_iff.1 hbody
      rw [hs.object?_congr hsame hobject, Option.any_some, ← o.finds_congr hsame, hfinds]
        at hnone
      exact hnone rfl

theorem Sound.countP_observed_le (hs : Sound s) (observables : List Observable)
    (i : Identity) :
    ((s.observed observables).countP fun c => c.key.same i) ≤ s.hits observables i := by
  induction observables with
  | nil => exact Nat.le_refl 0
  | cons o rest ih =>
      have hone := hs.countP_found_le o i
      have hfirst : (((s.found o).map Tagged.managed).countP fun c => c.key.same i) =
          (s.found o).countP fun body => (Body.key body).same i := List.countP_map
      rw [observed_cons, List.countP_append, hfirst, hits, List.countP_cons]
      rw [hits] at ih
      omega

theorem readBy_recorded : ReadBy Recorded.state asStore.recorded :=
  ⟨fun _ _ _ _ _ => ⟨rfl, rfl⟩, fun _ _ _ _ _ => ⟨rfl, rfl⟩⟩

end MemoryStore

/-! ## The writes of an agenda -/

section Agenda

variable {store : ObjectStore σ} {tasks : List (Task ω)}

/-- The keys of the writes that are made are among those of the tasks, in their order. -/
theorem keys_of_carryOut {keys : List (Option Identity)}
    (h : List.Forall₂ (fun task key => ∀ write, task.MayWrite write →
      key = some (Body.key write.body)) tasks keys) (desk : Desk ω) (s : σ) :
    ((carryOut store tasks desk s).attempts.map fun a => Body.key a.write.body).Sublist
      (keys.filterMap id) := by
  induction h generalizing desk s with
  | nil => exact List.nil_sublist _
  | @cons task key rest keys hkey _ ih =>
      rcases hrun : task.due.run desk with ⟨fault | due, desk'⟩
      · simp only [carryOut, hrun]
        exact List.nil_sublist _
      · simp only [carryOut, hrun, Settled.proceed]
        cases due with
        | none =>
            refine (ih desk' s).trans ?_
            cases key with
            | none => exact List.Sublist.refl _
            | some key => exact List.sublist_cons_self _ _
        | some write =>
            obtain rfl := hkey write ⟨desk, by rw [hrun]⟩
            split
            · exact (List.nil_sublist _).cons_cons _
            · exact (ih desk' _).cons_cons _

/-- The writes that are made are made as a list of writes is. -/
theorem carryOut_replays (store : ObjectStore σ) (tasks : List (Task ω)) (desk : Desk ω)
    (s : σ) :
    let p := carryOut store tasks desk s
    p.attempts = store.replay (p.attempts.map Attempted.write) s ∧
      p.store = store.after (p.attempts.map Attempted.write) s := by
  induction tasks generalizing desk s with
  | nil => exact ⟨rfl, rfl⟩
  | cons task rest ih =>
      rcases hrun : task.due.run desk with ⟨fault | due, desk'⟩
      · simp only [carryOut, hrun]
        exact ⟨rfl, rfl⟩
      · simp only [carryOut, hrun, Settled.proceed]
        cases due with
        | none => exact ih desk' s
        | some write =>
            split
            · exact ⟨rfl, rfl⟩
            · obtain ⟨hreplay, hafter⟩ := ih desk' (store.attempt write s).2
              exact ⟨congrArg (List.cons _) hreplay, hafter⟩

end Agenda

/-- If the component is asked what to look up, it names these lookups. -/
def Component.LooksUp (component : Component ω) (w : World σ ω)
    (observables : List Observable) : Prop :=
  ∀ declared desk,
    (component.expectedObjects w.aggregated).run w.desk = (.ok (some declared), desk) →
    ∀ named desk', (component.observables declared).run desk = (.ok named, desk') →
      named = observables

namespace Engine

open MemoryStore

section Count

variable {component : Component ω} {settings : Settings} {expected observed : Bag}

theorem agenda_keys (component : Component ω) (settings : Settings) (observed : Bag)
    (hexpected : expected.Identified) :
    List.Forall₂ (fun task key => ∀ write, task.MayWrite write →
        key = some (Body.key write.body)) (agenda component settings expected observed)
      ((expected.map fun item => some item.key) ++ observed.map fun c =>
        if (expected.counterpart c.key).isSome then none else some c.key) := by
  refine List.rel_append ?_ ?_
  · rw [List.forall₂_map_left_iff, List.forall₂_map_right_iff, List.forall₂_same]
    intro item hitem write hwrite
    have hid := hexpected item hitem
    rw [key_of_expectedTask (hid.owned _) hwrite, Tagged.key_owned hid]
  · rw [List.forall₂_map_left_iff, List.forall₂_map_right_iff, List.forall₂_same]
    intro c _ write hwrite
    obtain ⟨hnone, rfl⟩ := delete_of_observedTask hwrite
    rw [hnone]
    rfl

variable {store : ObjectStore σ} {desk : Desk ω} {s : σ} {i : Identity}

theorem countP_touches_le (hexpected : expected.Identified) :
    ((carryOut store (agenda component settings expected observed) desk s).attempts.countP
        fun a => a.write.touches i) ≤
      (expected.countP fun item => item.key.same i) +
        observed.countP fun c =>
          (expected.counterpart c.key).isNone && c.key.same i := by
  have hmade := @keys_of_carryOut σ ω store _ _
    (agenda_keys component settings observed hexpected) desk s
  have hkeys := hmade.countP_le (p := fun k : Identity => k.same i)
  rw [List.countP_map, List.filterMap_append, List.countP_append, List.filterMap_map,
    List.filterMap_map, List.countP_filterMap, List.countP_filterMap] at hkeys
  refine Nat.le_trans hkeys (Nat.add_le_add ?_ ?_)
  · exact Nat.le_of_eq rfl
  · refine List.countP_mono_left fun c _ hc => ?_
    simp only [Function.comp_apply] at hc
    cases hcounterpart : expected.counterpart c.key with
    | some item => simp [hcounterpart] at hc
    | none => simpa [hcounterpart] using hc

/-- An expected object is written once at most. -/
theorem countP_touches_expected (hexpected : expected.Identified)
    (hdistinct : Distinct expected) (hi : ∃ item ∈ expected, item.key.same i = true) :
    ((carryOut store (agenda component settings expected observed) desk s).attempts.countP
      fun a => a.write.touches i) ≤ 1 := by
  have hspared : (observed.countP fun c =>
      (expected.counterpart c.key).isNone && c.key.same i) = 0 := by
    rw [List.countP_eq_zero]
    intro c _ hc
    rw [Bool.and_eq_true, Option.isNone_iff_eq_none] at hc
    obtain ⟨item, hitem, hsame⟩ := hi
    have hno := Bag.counterpart_eq_none_iff.1 hc.1 item hitem
    rw [Identity.same_trans hsame (Identity.same_symm hc.2)] at hno
    cases hno
  have hone := countP_same_le_one hdistinct i
  have hall := @countP_touches_le σ ω component settings expected observed store desk s i
    hexpected
  omega

/-- Any other object is deleted once at most for each time that it is observed. -/
theorem countP_touches_unexpected (hexpected : expected.Identified)
    (hi : ∀ item ∈ expected, item.key.same i = false) :
    ((carryOut store (agenda component settings expected observed) desk s).attempts.countP
      fun a => a.write.touches i) ≤ observed.countP fun c => c.key.same i := by
  have hnone : (expected.countP fun item => item.key.same i) = 0 := by
    rw [List.countP_eq_zero]
    intro item hitem hsame
    rw [hi item hitem] at hsame
    cases hsame
  have hless : (observed.countP fun c =>
      (expected.counterpart c.key).isNone && c.key.same i) ≤
        observed.countP fun c => c.key.same i :=
    List.countP_mono_left fun c _ hc => (Bool.and_eq_true_iff.1 hc).2
  have hall := @countP_touches_le σ ω component settings expected observed store desk s i
    hexpected
  omega

/-- What is not expected is only deleted. -/
theorem isDelete_of_touches (hexpected : expected.Identified)
    (hi : ∀ item ∈ expected, item.key.same i = false) {a : Attempted}
    (ha : a ∈ (carryOut store (agenda component settings expected observed) desk s).attempts)
    (htouches : a.write.touches i = true) : a.write.isDelete = true := by
  obtain ⟨task, htask, hwrite⟩ := mayWrite_of_attempted ha
  rcases List.mem_append.1 htask with he | ho
  · obtain ⟨item, hitem, rfl⟩ := List.mem_map.1 he
    have hid := hexpected item hitem
    rw [Write.touches, key_of_expectedTask (hid.owned _) hwrite, Tagged.key_owned hid,
      hi item hitem] at htouches
    cases htouches
  · obtain ⟨c, -, rfl⟩ := List.mem_map.1 ho
    rw [(delete_of_observedTask hwrite).2]
    rfl

/-- What is deleted was observed and is not expected. -/
theorem delete_of_attempted {a : Attempted}
    (ha : a ∈ (carryOut store (agenda component settings expected observed) desk s).attempts)
    (hdelete : a.write.isDelete = true) :
    ∃ c ∈ observed, a.write = .delete c.object ∧ expected.counterpart c.key = none := by
  obtain ⟨task, htask, hwrite⟩ := mayWrite_of_attempted ha
  rcases List.mem_append.1 htask with he | ho
  · obtain ⟨item, -, rfl⟩ := List.mem_map.1 he
    rw [isDelete_of_expectedTask hwrite] at hdelete
    cases hdelete
  · obtain ⟨c, hc, rfl⟩ := List.mem_map.1 ho
    obtain ⟨hnone, heq⟩ := delete_of_observedTask hwrite
    exact ⟨c, hc, heq, hnone⟩

end Count

/-! ## The writes of a run -/

section Run

variable {component : Component ω} {w w₁ : World σ ω} {expected observed : Bag}
  {observables : List Observable}

/-- A survey finds what the lookups find, or less, and leaves it in place. -/
theorem sublist_of_surveys {engine : Engine σ} {memory : σ → MemoryStore}
    (hreads : ReadBy memory engine.store) (hs : Sound (memory w.store))
    (hlooks : component.LooksUp w observables)
    (hsurvey : Surveys engine component w expected observed w₁) :
    observed.Sublist ((memory w.store).observed observables) ∧
      Looked (memory w.store) (memory w₁.store) := by
  obtain ⟨stage, hrun⟩ := hsurvey
  refine ⟨?_, ?_⟩
  · rcases cases_of_survey hrun with
      ⟨-, rfl⟩ | ⟨declared, desk, w₂, hdeclared, hlook, -⟩
    · exact List.nil_sublist _
    · obtain ⟨named, w₃, hnamed, hobserve⟩ := Attempt.ok_of_bind hlook
      rw [Step.run_call] at hnamed
      obtain ⟨hanswer, hworld⟩ := Prod.mk.inj hnamed
      obtain rfl := hlooks declared desk hdeclared named _ (Prod.ext hanswer rfl)
      have hstore : w₃.store = w.store := by rw [← hworld]
      rw [← hstore] at hs ⊢
      exact Observation.sublist_of_observe hreads hs hobserve
  · have hkept := (keeps_observeAndMutate steady_true (steady_looked_by memory)
      hreads.keeps component.keeps_true true
      { w with log := w.log ++ [⟨some engine.source, .opened .reconciling⟩] }).2
    rw [hrun] at hkept
    exact hkept

/-- A run that makes any writes has surveyed its component, and makes those of the
agenda. -/
theorem attempts_of_run (engine : Engine σ) (component : Component ω)
    (w : World (Recorded σ) ω) :
    let run := (reconcileComponent engine.recorded component).run w
    run.2.store.attempts = w.store.attempts ∨
    ∃ expected observed w₁, Surveys engine.recorded component w expected observed w₁ ∧
      expected.Identified ∧
      run.2.store.attempts = w.store.attempts ++ (carryOut engine.store.recorded
        (agenda component engine.settings expected observed) w₁.desk w₁.store).attempts := by
  intro run
  rcases store_of_reconcileComponent engine.recorded component w with
    hsame | ⟨expected, observed, hsurvey, hexpected, -, hcarried⟩
  · left
    have hread := (keeps_observeAndMutate steady_true steady_onlyRead
      engine.recorded_readsKeep component.keeps_true true
      { w with
        log := w.log ++ [⟨some engine.recorded.source, .opened .reconciling⟩] }).2
    rw [show run.2.store = _ from hsame]
    exact hread.attempts_eq
  · right
    refine ⟨expected, observed, _, hsurvey, hexpected, ?_⟩
    rw [show run.2.store = _ from hcarried, ← (onlyRead_of_surveys hsurvey).attempts_eq]
    exact attempts_carryOut engine.store _ _ _

/-- A component is surveyed in one way. -/
theorem Surveys.unique {engine : Engine σ} {expected' observed' : Bag} {w₁' : World σ ω}
    (h : Surveys engine component w expected observed w₁)
    (h' : Surveys engine component w expected' observed' w₁') :
    expected' = expected ∧ observed' = observed ∧ w₁' = w₁ := by
  obtain ⟨stage, hrun⟩ := h
  obtain ⟨stage', hrun'⟩ := h'
  cases hrun.symm.trans hrun'
  exact ⟨rfl, rfl, rfl⟩

end Run

section Once

variable {settings : Settings} {source : Source} {component : Component ω}
  {w w₁ : World (Recorded MemoryStore) ω} {expected observed : Bag}
  {observables : List Observable}

/-- The object of a deletion is held, and is the one that was observed. -/
theorem object?_of_observed {s : MemoryStore} (hs : Sound s)
    (hfound : observed.Sublist (s.observed observables)) {c : Tagged} (hc : c ∈ observed) :
    s.object? c.key = some c.object :=
  (hs.mem_observed_iff.1 (hfound.subset hc)).2.1

/-- How often each object is written in a run, for all stores in memory and all
components whose expected objects are distinct. An expected object is written once at
most. Any other is only deleted, and once at most for each lookup that finds it. So if
no unexpected object is found twice, no object is written twice, and no deletion comes
too late: without injected failures, none fails. -/
theorem reconcile_writes_once (hreachable : w.store.state.Reachable)
    (hlooks : component.LooksUp w observables) :
    let engine := onMemory settings source
    ∃ made, ((reconcileComponent engine.recorded component).run w).2.store.attempts =
        w.store.attempts ++ made ∧
      ((∀ expected observed w₁,
          ¬ Surveys engine.recorded component w expected observed w₁) → made = []) ∧
      ∀ expected observed w₁, Surveys engine.recorded component w expected observed w₁ →
        Distinct expected →
        (∀ i, (∃ item ∈ expected, item.key.same i = true) →
          (made.countP fun a => a.write.touches i) ≤ 1) ∧
        (∀ i, (∀ item ∈ expected, item.key.same i = false) →
          (made.countP fun a => a.write.touches i) ≤ w.store.state.hits observables i ∧
          ∀ a ∈ made, a.write.touches i = true → a.write.isDelete = true) ∧
        ((∀ i, (∀ item ∈ expected, item.key.same i = false) →
            w.store.state.hits observables i ≤ 1) →
          (∀ i, (made.countP fun a => a.write.touches i) ≤ 1) ∧
          (w.store.state.failures = [] →
            ∀ a ∈ made, a.write.isDelete = true → a.fault = none)) := by
  intro engine
  have hs := hreachable.sound
  rcases attempts_of_run engine component w with
    hnone | ⟨expected, observed, w₁, hsurvey, hexpected, hmade⟩
  · refine ⟨[], by rw [hnone, List.append_nil], fun _ => rfl, ?_⟩
    intro expected observed w₁ _ _
    refine ⟨fun _ _ => Nat.zero_le 1, fun _ _ => ⟨Nat.zero_le _, ?_⟩,
      fun _ => ⟨fun _ => Nat.zero_le 1, fun _ => ?_⟩⟩
    · intro a ha
      cases ha
    · intro a ha
      cases ha
  · refine ⟨_, hmade, fun h => absurd hsurvey (h _ _ _), ?_⟩
    intro expected' observed' w₁' hsurvey' hdistinct
    obtain ⟨rfl, rfl, rfl⟩ := hsurvey'.unique hsurvey
    obtain ⟨hfound, hlooked⟩ := sublist_of_surveys readBy_recorded hs hlooks hsurvey
    have hunexpected : ∀ i, (∀ item ∈ expected, item.key.same i = false) →
        ((carryOut engine.store.recorded (agenda component engine.settings expected observed)
          w₁.desk w₁.store).attempts.countP fun a => a.write.touches i) ≤
            w.store.state.hits observables i := fun i hi =>
      calc _ ≤ observed.countP fun c => c.key.same i := countP_touches_unexpected hexpected hi
        _ ≤ (w.store.state.observed observables).countP fun c => c.key.same i :=
          hfound.countP_le
        _ ≤ _ := hs.countP_observed_le observables i
    refine ⟨fun i hi => countP_touches_expected hexpected hdistinct hi,
      fun i hi => ⟨hunexpected i hi, fun a ha => isDelete_of_touches hexpected hi ha⟩, ?_⟩
    intro hhits
    have honce : ∀ i, ((carryOut engine.store.recorded
        (agenda component engine.settings expected observed)
        w₁.desk w₁.store).attempts.countP fun a => a.write.touches i) ≤ 1 := by
      intro i
      by_cases hi : ∃ item ∈ expected, item.key.same i = true
      · exact countP_touches_expected hexpected hdistinct hi
      · have hi' : ∀ item ∈ expected, item.key.same i = false := fun item hitem =>
          Bool.eq_false_iff.2 fun hsame => hi ⟨item, hitem, hsame⟩
        exact Nat.le_trans (hunexpected i hi') (hhits i hi')
    refine ⟨honce, ?_⟩
    intro hfailures a ha hdelete
    obtain ⟨c, hc, hwrite, -⟩ := delete_of_attempted ha hdelete
    have hreplay := (carryOut_replays engine.store.recorded
      (agenda component engine.settings expected observed) w₁.desk w₁.store).1
    rw [ObjectStore.replay_recorded] at hreplay
    have hobject := object?_of_observed hs hfound hc
    refine fault_of_delete (hlooked.sound hs) (hlooked.failures.trans hfailures) hreplay
      (hreachable.keyed.checkKey hobject) ?_ (honce _) ha hwrite
    rw [object?_of_objects hlooked.objects]
    exact hobject

end Once

/-! ## Two pods, and two lookups

All pods are looked up, and one of them also by its name. If this one is expected, it is
updated once and the other pod is deleted. A lookup that is made twice finds a pod twice,
and a pod that is not expected is deleted twice. -/

theorem watching_looksUp (expected : Bag) (observables : List Observable)
    (w : World σ Unit) : (watching expected observables).LooksUp w observables := by
  intro declared desk _ named desk' hnamed
  cases hnamed
  rfl

/-- A store that holds two pods. -/
def holdingBoth : MemoryStore := ((MemoryStore.put (pod "r")).run holding).2

/-- A pod as it is declared, with a spec that the stored one does not have. -/
def declaredPod : Value :=
  .obj [("kind", .str "Pod"), ("metadata", .obj [("name", .str "q")]), ("spec", .int 1)]

theorem pods_written_once :
    ∃ made, ((reconcileComponent (onMemory .standard inMemory.source).recorded
        (watching [.managed declaredPod] [allPods, pointAtPod])).run
          (start holdingBoth)).2.store.attempts = made ∧
      made.length = 2 ∧ (∀ i, (made.countP fun a => a.write.touches i) ≤ 1) ∧
      ∀ a ∈ made, a.write.isDelete = true → a.fault = none := by
  have hreachable : (start holdingBoth).store.state.Reachable := .put _ (.put _ .empty)
  have hsurvey : ∃ observed w₁, Surveys (onMemory .standard inMemory.source).recorded
      (watching [.managed declaredPod] [allPods, pointAtPod]) (start holdingBoth)
      [.managed declaredPod] observed w₁ := ⟨_, _, .mutating, rfl⟩
  obtain ⟨observed, w₁, hsurvey⟩ := hsurvey
  have hhits : ∀ i, (∀ item ∈ [Tagged.managed declaredPod], item.key.same i = false) →
      (start holdingBoth).store.state.hits [allPods, pointAtPod] i ≤ 1 := by
    intro i hi
    have hother : ∀ body, pointAtPod.finds i body = false := by
      intro body
      rw [Bool.eq_false_iff]
      intro hsame
      have hno := hi _ (List.mem_singleton_self _)
      rw [show (Tagged.managed declaredPod).key.same i = true from
        Identity.same_symm hsame] at hno
      cases hno
    have hnone : ((start holdingBoth).store.state.object? i).any (pointAtPod.finds i) =
        false := by
      cases (start holdingBoth).store.state.object? i with
      | none => rfl
      | some body => exact hother body
    rw [MemoryStore.hits, List.countP_cons, List.countP_singleton, hnone,
      if_neg Bool.false_ne_true, Nat.zero_add]
    split <;> decide
  obtain ⟨made, hmade, -, hcounts⟩ := reconcile_writes_once hreachable
    (watching_looksUp _ _ (start holdingBoth))
  obtain ⟨-, -, honce⟩ := hcounts _ _ _ hsurvey (List.pairwise_singleton _ _)
  obtain ⟨hall, hdeletions⟩ := honce hhits
  rw [show (start holdingBoth).store.attempts = [] from rfl, List.nil_append] at hmade
  refine ⟨made, hmade, ?_, hall, hdeletions rfl⟩
  rw [← hmade]
  decide +kernel

/-- Two lookups find one pod, which is not expected: it is deleted twice, and the second
deletion fails because it is gone. -/
theorem pod_deleted_twice :
    let component := watching [] [allPods, allPods]
    let run := (reconcileComponent (onMemory .standard inMemory.source).recorded
      component).run (start holding)
    holding.Reachable ∧ holding.failures = [] ∧
    component.LooksUp (start holding) [allPods, allPods] ∧
    (∃ observed w₁, Surveys (onMemory .standard inMemory.source).recorded component
      (start holding) [] observed w₁) ∧ Distinct [] ∧
    (run.2.store.attempts.countP fun a => a.write.touches (podIdentity "q")) = 2 ∧
    ∃ a ∈ run.2.store.attempts, a.write.isDelete = true ∧
      (a.fault.any Fault.isNotFound) = true :=
  ⟨.put _ .empty, rfl, watching_looksUp _ _ _, ⟨_, _, .mutating, rfl⟩, .nil,
    by decide +kernel, ⟨.delete heldPod, some (MemoryStore.notFound (podIdentity "q"))⟩,
    .tail _ (.head _), rfl, rfl⟩

end Engine

end OperatorCore
