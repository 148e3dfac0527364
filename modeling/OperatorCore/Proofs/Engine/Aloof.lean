import OperatorCore.Proofs.Engine.StatusWrite
import OperatorCore.Proofs.Engine.Survey
import OperatorCore.Proofs.Engine.Writes
import OperatorCore.Proofs.Store.Lookup
import OperatorCore.Proofs.Store.Sequence

/-!
# Components that keep away from an object

A component that neither expects an object nor observes it does not write it: the
writes of its run are of expected objects, or of observed ones. So the resource
of a pass is the same for as long as its components are at work, and what the
pass makes of it is what the update of the status makes of it.

Whether an object is observed depends on its labels. That is why the object is
followed by its identity and its labels, and not as a whole: between two passes
others may have changed the rest of it.
-/

namespace OperatorCore

variable {ω : Type}

/-- None of the objects has the identity. -/
def Bag.Avoids (bag : Bag) (i : Identity) : Prop :=
  ∀ item ∈ bag, item.key.same i = false

/-- The component neither expects nor observes the object with the identity. -/
structure Component.Avoids (component : Component ω) (i : Identity) (object : Value) :
    Prop where
  expected : ∀ bag desk expected,
    ((component.expectedObjects bag).run desk).1 = .ok (some expected) →
    expected.Avoids i
  observables : ∀ expected desk observables, Bag.Avoids expected i →
    ((component.observables expected).run desk).1 = .ok observables →
    ∀ o ∈ observables, o.finds i object = false
  mutate : ∀ expected observed desk mutated, Bag.Avoids expected i →
    ((component.mutate expected observed).run desk).1 = .ok (some mutated) →
    mutated.Avoids i

theorem Observable.finds_of_labels (o : Observable) (i : Identity) {body body' : Value}
    (h : Body.labels body' = Body.labels body) : o.finds i body' = o.finds i body := by
  unfold finds
  split
  · rfl
  · rw [Labels.agreed_congr _ h]

namespace MemoryStore

/-- The store is sound, and what it has under the identity, if anything, has the
labels of the object. -/
structure Keeping (i : Identity) (object : Value) (s : MemoryStore) : Prop where
  sound : Sound s
  labels : ∀ body, s.object? i = some body → Body.labels body = Body.labels object

/-- Nothing has happened to the object between two states. -/
def Aside (i : Identity) (object : Value) (s s' : MemoryStore) : Prop :=
  Keeping i object s → Sound s' ∧ s'.object? i = s.object? i

variable {i : Identity} {object : Value}

theorem Aside.keeping {s s' : MemoryStore} (h : Aside i object s s')
    (hs : Keeping i object s) : Keeping i object s' := by
  obtain ⟨hsound, hobject⟩ := h hs
  refine ⟨hsound, ?_⟩
  rw [hobject]
  exact hs.labels

theorem steady_aside : Steady (Aside i object) where
  refl _ hs := ⟨hs.sound, rfl⟩
  trans := by
    intro s s₁ s₂ h h' hs
    obtain ⟨hsound, hobject⟩ := h' (h.keeping hs)
    exact ⟨hsound, hobject.trans (h hs).2⟩

theorem Looked.aside {s s' : MemoryStore} (h : Looked s s') : Aside i object s s' :=
  fun hs => ⟨h.sound hs.sound, object?_of_objects h.objects i⟩

theorem asStore_readsKeep_aside : asStore.ReadsKeep (Aside i object) where
  get _ kind ns name s := (looked_get kind ns name s).aside
  list _ kind ns labels s := (looked_list kind ns labels s).aside

theorem aside_attempt {write : Write} (h : write.touches i = false) (s : MemoryStore) :
    Aside i object s (asStore.attempt write s).2 := by
  intro hs
  rcases attempt_cases write s with ⟨e, -, hquiet⟩ | ⟨-, hwrote⟩
  · exact ⟨hs.sound.quiet hquiet, object?_of_objects hquiet.objects i⟩
  · exact ⟨sound_wrote hs.sound hwrote, object?_wrote_of_not_touches hwrote h⟩

end MemoryStore

namespace Engine

open MemoryStore

variable {settings : Settings} {source : Source} {component : Component ω}
  {i : Identity} {object : Value}

/-- What the component observes is not the object. -/
theorem not_same_of_observed (havoids : component.Avoids i object)
    {w w' : World MemoryStore ω} (hs : Keeping i object w.store)
    {expected observed : Bag} (hexpected : expected.Avoids i)
    (h : (lookUp ⟨asStore, settings, source⟩ component expected).run w =
      (.ok observed, w')) {c : Tagged} (hc : c ∈ observed) :
    c.key.same i = false := by
  rw [lookUp] at h
  obtain ⟨observables, w₁, hobservables, hobserve⟩ := Attempt.ok_of_bind h
  rw [Step.run_call] at hobservables
  obtain ⟨hanswer, hworld⟩ := Prod.mk.inj hobservables
  have hstore : w₁.store = w.store := by rw [← hworld]
  rw [← hstore] at hs
  have hfound := Observation.sublist_of_observe readBy_asStore hs.sound hobserve
  obtain ⟨-, hobject, o, ho, hfinds⟩ := hs.sound.mem_observed_iff.1 (hfound.subset hc)
  rw [Bool.eq_false_iff]
  intro hsame
  have hheld := hs.sound.object?_congr hsame hobject
  have hspared := havoids.observables expected w.desk observables hexpected hanswer o ho
  rw [o.finds_congr hsame, o.finds_of_labels i (hs.labels _ hheld), hspared] at hfinds
  cases hfinds

/-- A run of the component does nothing to the object. -/
theorem reconcile_aside (havoids : component.Avoids i object)
    (w : World MemoryStore ω) :
    Aside i object w.store
      ((reconcileComponent ⟨asStore, settings, source⟩ component).run w).2.store := by
  intro hs
  refine reconcile_keeps_store steady_aside asStore_readsKeep_aside ?_ hs
  rintro expected observed w₁ ⟨stage, hsurvey⟩ hexpected hobserved task htask write
    hwrite s
  apply aside_attempt
  rcases cases_of_survey hsurvey with ⟨rfl, rfl⟩ | ⟨declared, desk, w₂, hdeclared, hlook, hlast⟩
  · cases htask
  · have hdeclares := havoids.expected _ _ declared (congrArg Prod.fst hdeclared)
    rw [if_pos rfl] at hlast
    obtain ⟨mutated, hmutated, rfl⟩ := hlast
    have hspared : Bag.Avoids (mutated.getD []) i := by
      cases mutated with
      | none =>
          intro item hitem
          cases hitem
      | some bag => exact havoids.mutate _ _ _ bag hdeclares hmutated
    rcases List.mem_append.1 htask with he | ho
    · obtain ⟨item, hitem, rfl⟩ := List.mem_map.1 he
      have hid := hexpected item hitem
      rw [Write.touches, key_of_expectedTask (hid.owned _) hwrite]
      exact (congrArg (Identity.same · i) (Tagged.key_owned hid _)).trans
        (hspared item hitem)
    · obtain ⟨c, hc, rfl⟩ := List.mem_map.1 ho
      obtain ⟨-, rfl⟩ := delete_of_observedTask hwrite
      exact not_same_of_observed (w := { opened ⟨asStore, settings, source⟩ w with desk })
        havoids hs hdeclares hlook hc

variable {D : Desk ω → Desk ω → Prop}

/-- The components of a pass keep what their callbacks keep, and do nothing to the
object. -/
theorem processEach_aside (hD : Steady D) (deleting : Bool)
    {components : List (Component ω)}
    (h : ∀ component ∈ components, component.Keeps D ∧ component.Avoids i object) :
    Attempt.Keeps (World.Related D (Aside i object))
      (processEach ⟨asStore, settings, source⟩ deleting components) := by
  have hR := steady_related hD (steady_aside : Steady (Aside i object))
  induction components with
  | nil => exact Attempt.keeps_pure hR _
  | cons component rest ih =>
      obtain ⟨hkeeps, havoids⟩ := h component List.mem_cons_self
      refine Attempt.keeps_bind hR (Attempt.keeps_outcome ?_) ?_
      · intro w
        split
        · have hkept : World.Related D Looked w ((finalizeComponent
              ⟨asStore, settings, source.forComponent component.name⟩ component).run w).2 :=
            keeps_finalizeComponent hD steady_looked asStore_readsKeep hkeeps w
          exact ⟨hkept.1, hkept.2.aside⟩
        · have hkept : World.Related D (fun _ _ => True) w ((reconcileComponent
              ⟨asStore, settings, source.forComponent component.name⟩ component).run w).2 :=
            keeps_reconcileComponent hD steady_true asStore.keeps_true hkeeps w
          exact ⟨hkept.1, reconcile_aside havoids w⟩
      · intro outcome
        refine Attempt.keeps_bind hR
          (ih fun other hmem => h other (List.mem_cons_of_mem _ hmem)) ?_
        intro others
        exact Attempt.keeps_pure hR _

/-- The metadata of the resource on the desk have not changed. -/
def SameMetadata (desk desk' : Desk ω) : Prop :=
  Body.metadata desk'.resource = Body.metadata desk.resource

theorem steady_sameMetadata : Steady (SameMetadata (ω := ω)) where
  refl _ := rfl
  trans h h' := Eq.trans h' h

/-- The callbacks of a handle before the update of the status, and those of its
components, leave the metadata of the resource alone, and no component expects or
observes the resource. -/
structure Aloof (handle : Handle ω) (i : Identity) (object : Value) : Prop where
  validate : Attempt.Keeps SameMetadata handle.validate
  newStatus : Attempt.Keeps SameMetadata handle.newStatus
  applyDefaults : Attempt.Keeps SameMetadata handle.applyDefaults
  components : Attempt.Keeps SameMetadata handle.components
  each : ∀ desk components, (handle.components.run desk).1 = .ok components →
    ∀ component ∈ components,
      component.Keeps SameMetadata ∧ component.Avoids i object

theorem Aloof.verdict_aside {handle : Handle ω} (h : Aloof handle i object) :
    Attempt.Keeps (World.Related SameMetadata (Aside i object))
      (verdict ⟨asStore, settings, source⟩ handle) :=
  keeps_verdict steady_sameMetadata steady_aside
    ⟨h.validate, h.newStatus, h.applyDefaults, h.components, fun _ _ => rfl⟩
    fun desk components hanswer deleting =>
      processEach_aside steady_sameMetadata deleting (h.each desk components hanswer)

end Engine

end OperatorCore
