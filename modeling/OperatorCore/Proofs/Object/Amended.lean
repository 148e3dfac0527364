import OperatorCore.Proofs.Object.Identified

/-!
# Bodies that differ in some fields of their metadata

What is written differs from what was declared in the owners, in the version, or in both,
and in nothing else. It is said here of the fields that are read, not of the order in which
a body has them.
-/

namespace OperatorCore

namespace Body

/-- The second body is the first one, except that the listed fields of its metadata
have the given values, or are not there. Absent metadata count as empty. -/
def Amended (changes : List (String × Option Value)) (body body' : Value) : Prop :=
  ∃ top md top' md', Shaped body top md ∧ Shaped body' top' md' ∧
    (∀ key, key ≠ "metadata" → Fields.get? top' key = Fields.get? top key) ∧
    ∀ key, Fields.get? md' key = (changes.lookup key).getD (Fields.get? md key)

theorem Shaped.unique {body : Value} {top md top' md' : Fields}
    (h : Shaped body top md) (h' : Shaped body top' md') : top' = top ∧ md' = md := by
  obtain ⟨rfl, hmd⟩ := h
  obtain ⟨htop, hmd'⟩ := h'
  cases htop
  rw [hmd] at hmd'
  cases hmd'
  exact ⟨rfl, rfl⟩

/-- Later changes count before earlier ones. -/
theorem Amended.trans {first second : List (String × Option Value)} {a b c : Value}
    (h : Amended first a b) (h' : Amended second b c) : Amended (second ++ first) a c := by
  obtain ⟨top, md, top₁, md₁, ha, hb, htop, hmd⟩ := h
  obtain ⟨top₂, md₂, top', md', hb', hc, htop', hmd'⟩ := h'
  obtain ⟨rfl, rfl⟩ := hb.unique hb'
  refine ⟨top, md, top', md', ha, hc, ?_, ?_⟩
  · intro key hkey
    rw [htop' key hkey, htop key hkey]
  · intro key
    rw [hmd' key, hmd key, List.lookup_append]
    cases second.lookup key <;> rfl

theorem lookup_singleton (key other : String) (change : Option Value) :
    List.lookup other [(key, change)] = if key = other then some change else none := by
  by_cases hkey : key = other
  · rw [hkey, List.lookup_cons_self, if_pos rfl]
  · rw [List.lookup_cons, beq_eq_false_iff_ne.2 (Ne.symm hkey), if_neg hkey]
    rfl

/-- A field is put into the metadata. -/
theorem Shaped.amended_put {body : Value} {top md : Fields} (h : Shaped body top md)
    (key : String) (value : Value) :
    Amended [(key, some value)] body
      (.obj (Fields.put top "metadata" (.obj (Fields.put md key value)))) := by
  refine ⟨top, md, _, _, h, Shaped.put key value, ?_, ?_⟩
  · intro other hother
    rw [Fields.get?_put, if_neg (Ne.symm hother)]
  · intro other
    rw [Fields.get?_put, lookup_singleton]
    split <;> rfl

/-- A field is removed from the metadata. -/
theorem Shaped.amended_drop {body : Value} {top md : Fields} (h : Shaped body top md)
    (key : String) :
    Amended [(key, none)] body
      (if Fields.has top "metadata"
        then .obj (Fields.put top "metadata" (.obj (Fields.erase md key)))
        else body) := by
  refine ⟨top, md, _, _, h, h.drop key, ?_, ?_⟩
  · intro other hother
    split
    · rw [Fields.get?_put, if_neg (Ne.symm hother)]
    · rfl
  · intro other
    rw [lookup_singleton]
    split
    · rw [Fields.get?_erase]
      split <;> rfl
    · next hnone =>
        -- there are no metadata, so the field is not there
        have hmd := h.meta_eq
        rw [Fields.has, Bool.not_eq_true, Option.isSome_eq_false_iff,
          Option.isNone_iff_eq_none] at hnone
        rw [hnone] at hmd
        cases hmd
        split <;> rfl

/-- Of the version it is known what it has become. -/
theorem Amended.version_eq {changes : List (String × Option Value)} {body body' v : Value}
    (h : Amended changes body body')
    (hv : changes.lookup "resourceVersion" = some (some v)) : version body' = v := by
  obtain ⟨top, md, top', md', -, hs, -, hmd⟩ := h
  rw [version, hs.resourceVersion, hmd, hv]
  rfl

theorem Identified.amended_version {body : Value} (h : Identified body) (v : Value) :
    Amended [("resourceVersion", if v.isNull then none else some v)] body
      (Body.versioned v body) := by
  obtain ⟨top, md, hs⟩ := identified_iff_shaped.1 h
  cases hv : v.isNull with
  | true =>
      rw [hs.versioned_null hv, if_pos rfl]
      exact hs.amended_drop _
  | false =>
      rw [hs.versioned hv, if_neg Bool.false_ne_true]
      exact hs.amended_put _ _

end Body

end OperatorCore
