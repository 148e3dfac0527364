import OperatorCore.Engine.Component
import OperatorCore.Proofs.Store.Lookup

/-!
# Objects that are looked up one by one

A component that says nothing else looks up each of its expected objects by its
identity. What is absent or empty in the identity of an object is the empty text, and
the lookup of a point puts the same text there, so that an object and its lookup are
of one and the same identity.
-/

namespace OperatorCore

namespace Value

theorem orElse_orElse (v w : Value) : (v.orElse w).orElse w = v.orElse w := by
  cases ht : v.truthy with
  | true =>
      have hv : v.orElse w = v := by rw [orElse, if_pos ht]
      rw [hv, hv]
  | false =>
      have hw : v.orElse w = w := by rw [orElse, ht, if_neg Bool.false_ne_true]
      rw [hw, orElse]
      split <;> rfl

/-- The empty text in the place of what does not count. -/
theorem orElse_null_orElse (v : Value) :
    ((v.orElse (.str "")).orElse .null).orElse (.str "") = v.orElse (.str "") := by
  cases ht : v.truthy with
  | true =>
      have hv : ∀ w, v.orElse w = v := fun w => by rw [orElse, if_pos ht]
      rw [hv, hv, hv]
  | false =>
      have hw : v.orElse (.str "") = .str "" := by
        rw [orElse, ht, if_neg Bool.false_ne_true]
      rw [hw]
      rfl

end Value

namespace Observable

/-- The lookup of an object is that of a point, by the parts of its identity. -/
theorem forObject_eq {object : Value} {o : Observable} (h : forObject object = .ok o) :
    Body.Identified object ∧ o.kind = (Body.key object).kind ∧
      o.ns = (Body.key object).ns.orElse .null ∧
      o.target = .point (Body.key object).name := by
  obtain ⟨i, hi, h⟩ := bind_eq_ok_iff.1 h
  obtain ⟨apiVersion, -, h⟩ := bind_eq_ok_iff.1 h
  cases h
  rw [Body.key_eq hi]
  exact ⟨⟨i, hi⟩, rfl, rfl, rfl⟩

theorem callKey_forObject {object : Value} {o : Observable}
    (h : forObject object = .ok o) : o.callKey = Body.key object := by
  obtain ⟨hid, hkind, hns, htarget⟩ := forObject_eq h
  obtain ⟨top, md, hs⟩ := Body.identified_iff_shaped.1 hid
  rw [callKey, htarget, hkind, hns, Body.key_eq hs.identify]
  simp only [Value.orElse_null_orElse, Value.orElse_orElse]

/-- The lookup of an object finds what has its identity. -/
theorem finds_forObject {object : Value} {o : Observable}
    (h : forObject object = .ok o) (i : Identity) (body : Value) :
    o.finds i body = i.same (Body.key object) := by
  rw [← callKey_forObject h, finds, (forObject_eq h).2.2.2]

end Observable

namespace Component

theorem mem_standardObservables {expected : Bag} {observables : List Observable}
    (h : standardObservables expected = .ok observables) {o : Observable}
    (ho : o ∈ observables) :
    ∃ item ∈ expected, Observable.forObject item.object = .ok o := by
  induction expected generalizing observables with
  | nil =>
      cases h
      cases ho
  | cons item rest ih =>
      obtain ⟨first, hfirst, h⟩ := bind_eq_ok_iff.1 h
      obtain ⟨others, hrest, h⟩ := bind_eq_ok_iff.1 h
      cases h
      rcases List.mem_cons.1 ho with rfl | ho
      · exact ⟨item, List.mem_cons_self, hfirst⟩
      · obtain ⟨other, hother, hlookup⟩ := ih hrest ho
        exact ⟨other, List.mem_cons_of_mem _ hother, hlookup⟩

/-- The lookups of some objects spare what is none of them. -/
theorem standardObservables_avoid {expected : Bag} {observables : List Observable}
    (h : standardObservables expected = .ok observables) {i : Identity}
    (hspared : ∀ item ∈ expected, item.key.same i = false) {o : Observable}
    (ho : o ∈ observables) (body : Value) : o.finds i body = false := by
  obtain ⟨item, hitem, hlookup⟩ := mem_standardObservables h ho
  rw [Observable.finds_forObject hlookup, Bool.eq_false_iff]
  intro hsame
  have hother : item.key.same i = false := hspared item hitem
  rw [Tagged.key, Identity.same_symm hsame] at hother
  cases hother

end Component

/-! ## Whether lookups of points are answered -/

namespace MemoryStore

/-- A lookup of the identity is answered, if only as if nothing was there. -/
def Readable (s : MemoryStore) (i : Identity) : Prop :=
  checkKey i = .ok () ∧
    ∀ fault, s.failure? (.get, i) = some fault → fault.isNotFound = true

theorem Readable.of_failures {s s' : MemoryStore} {i : Identity} (h : s.Readable i)
    (hfailures : s'.failures = s.failures) : s'.Readable i := by
  refine ⟨h.1, ?_⟩
  intro fault hfault
  rw [failure?_congr hfailures] at hfault
  exact h.2 fault hfault

end MemoryStore

namespace Observation

open MemoryStore

variable {ω : Type}

end Observation

end OperatorCore
