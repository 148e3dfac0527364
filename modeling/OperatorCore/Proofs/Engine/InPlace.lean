import OperatorCore.Proofs.Engine.Declarative
import OperatorCore.Proofs.Engine.Turns

/-!
# Objects that are in place

A component that only declares has nothing left to do when its objects are in place:
each can be looked up, and a managed one is good enough. That is so after every run of
the component that is answered. While the resource is being deleted, it is enough that
the lookups are answered.

All of this is about what the store holds under the identities of the objects. So the
runs of other components do not matter as long as their objects have other identities,
and what holds of one component holds of all, by induction on the list of them.
-/

namespace OperatorCore

open Engine MemoryStore

variable {ω : Type}

/-- The store has an object with the identity of an expected one, which can be looked
up, and is good enough if it is managed. -/
structure InPlace (settings : Settings) (owners : List Value) (s : MemoryStore)
    (item : Tagged) : Prop where
  key : checkKey item.key = .ok ()
  unharmed : s.failure? (.get, item.key) = none
  held : ∃ held, s.object? item.key = some held ∧ (item.isManaged = true →
    Suffices settings settings.payload (fun _ _ => true)
      (Body.owned owners item.object) held)

namespace Part

/-- Nothing is left to do about the objects of the component: they are in place, or, if
the resource is being deleted, they can at least be looked up. -/
def Rests (settings : Settings) (deleting : Bool) (s : MemoryStore) (part : Part ω) :
    Prop :=
  ∀ item ∈ part.expected,
    if deleting then s.Readable item.key
    else InPlace settings part.component.owners s item

theorem Rests.congr {settings : Settings} {deleting : Bool} {s s' : MemoryStore}
    {part : Part ω} (h : part.Rests settings deleting s)
    (hfailures : s'.failures = s.failures)
    (hobject : ∀ item ∈ part.expected, s'.object? item.key = s.object? item.key) :
    part.Rests settings deleting s' := by
  intro item hitem
  have hitem' := h item hitem
  cases deleting with
  | true => exact hitem'.of_failures hfailures
  | false =>
      obtain ⟨hkey, hunharmed, hheld⟩ : InPlace settings part.component.owners s item :=
        hitem'
      refine ⟨hkey, (failure?_congr hfailures _).trans hunharmed, ?_⟩
      rw [hobject item hitem]
      exact hheld

/-- What a run of the component makes of the status. -/
def after (deleting : Bool) (part : Part ω) (status : Value) : Value :=
  if deleting then status else part.contribute none status

end Part

namespace Engine

section Component

variable {settings : Settings} {source : Source} {part : Part ω}
  {object body spec status : Value} {w : World MemoryStore ω}

theorem item_of_lookup {observables : List Observable}
    (hobservables : Component.standardObservables part.expected = .ok observables)
    {o : Observable} (ho : o ∈ observables) :
    ∃ item ∈ part.expected, o.callKey = item.key ∧ (∃ name, o.target = .point name) ∧
      ∀ i held, o.finds i held = i.same item.key := by
  obtain ⟨item, hitem, hlookup⟩ := Component.mem_standardObservables hobservables ho
  exact ⟨item, hitem, Observable.callKey_forObject hlookup,
    ⟨_, (Observable.forObject_eq hlookup).2.2.2⟩, Observable.finds_forObject hlookup⟩

/-- What the lookups of the expected objects find is expected. -/
theorem unwanted_eq_none {observables : List Observable} {s : MemoryStore}
    (hobservables : Component.standardObservables part.expected = .ok observables)
    (hs : Sound s) {c : Tagged} (hc : c ∈ s.observed observables) :
    unwanted part.expected c = none := by
  obtain ⟨-, -, o, ho, hfound⟩ := hs.mem_observed_iff.1 hc
  obtain ⟨item, hitem, -, -, hfinds⟩ := item_of_lookup hobservables ho
  rw [hfinds] at hfound
  rw [unwanted]
  cases hcounterpart : part.expected.counterpart c.key with
  | some _ => rfl
  | none =>
      have hother := Bag.counterpart_eq_none_iff.1 hcounterpart item hitem
      rw [Identity.same_symm hfound] at hother
      cases hother

end Component

/-! ## All components of a resource -/

def expectedOf (parts : List (Part ω)) : Bag := parts.flatMap Part.expected

/-- What runs of some components make of the status. -/
def statusAfter (deleting : Bool) (parts : List (Part ω)) (status : Value) : Value :=
  parts.foldl (fun status part => part.after deleting status) status

section Components

variable {settings : Settings} {source : Source} {deleting : Bool}
  {object body spec status : Value} {w : World MemoryStore ω}

end Components

end Engine

end OperatorCore
