import OperatorCore.Proofs.Diff.Exactness
import OperatorCore.Proofs.Object.Identified

/-!
# What the essence tells

The essence is made in two parts, of the fields of the object itself and of those of its
metadata, and in each of them it is the key that decides whether a field is kept. What is
kept is compared key by key, so two essences are equal just when the objects agree in all
that is desired of them (`Body.Akin`), whatever identifies them and whatever the server has
assigned.

The second part is left out when nothing is in it, which is why absent metadata are as good
as empty ones. An essence has nothing left that could be taken from it: it is its own.
-/

namespace OperatorCore

namespace Fields

/-- Two lists of fields hold equal values at a key, or neither of them holds any. -/
def AgreeAt (a b : Fields) (key : String) : Prop :=
  Option.Rel (fun v w : Value => v.equal w = true) (get? a key) (get? b key)

theorem agreeAt_iff {a b : Fields} {key : String} :
    AgreeAt a b key ↔ (get? a key).map Value.normal = (get? b key).map Value.normal := by
  rw [AgreeAt]
  cases get? a key <;> cases get? b key <;> simp [Value.equal_iff]

theorem equal_iff_agreeAt {a b : Fields} :
    (Value.obj a).equal (.obj b) = true ↔ ∀ key, AgreeAt a b key := by
  simp only [Value.equal_obj_iff, agreeAt_iff]

/-- Of fields that are kept by their keys, those that are kept have to agree. -/
theorem equal_filter_iff {a b : Fields} (keep : String → Bool) :
    (Value.obj (a.filter fun p => keep p.1)).equal (.obj (b.filter fun p => keep p.1)) = true ↔
      ∀ key, keep key = true → AgreeAt a b key := by
  rw [equal_iff_agreeAt]
  refine forall_congr' ?_
  intro key
  rw [agreeAt_iff, get?_filter, get?_filter]
  cases keep key with
  | true => simp [agreeAt_iff]
  | false => simp

theorem isEmpty_of_equal {a b : Fields} (h : (Value.obj a).equal (.obj b) = true) :
    a.isEmpty = b.isEmpty := by
  cases a with
  | nil =>
      cases b with
      | nil => rfl
      | cons p rest => simpa [has, get?] using Value.has_of_equal h p.1
  | cons p rest =>
      cases b with
      | nil => simpa [has, get?] using Value.has_of_equal h p.1
      | cons q others => rfl

end Fields

namespace Body

/-- The fields of an object that its essence does not take over as they are: those that
identify the object, its status, and its metadata, of which only a part belongs to it. -/
def inessentialFields : List String := ["apiVersion", "kind", "status", "metadata"]

/-- Two objects, by their fields and by those of their metadata, agree in all that is desired
of an object. They may differ in what identifies them, in what the server assigns, and in
their status. -/
structure Akin (top md top' md' : Fields) : Prop where
  fields : ∀ key, key ∉ inessentialFields → Fields.AgreeAt top top' key
  metadata : ∀ key, key ∉ "name" :: "namespace" :: systemFields → Fields.AgreeAt md md' key

/-- The part of an essence that is in the metadata, which is left out if there is nothing in
it. -/
def describing (kept : Fields) : Fields :=
  if kept.isEmpty then [] else [("metadata", .obj kept)]

/-- The fields of the essence of an object with the given fields and metadata. -/
def essential (top md : Fields) : Fields :=
  (top.filter fun p => !inessentialFields.contains p.1) ++
    describing (md.filter fun p => isEssential p.1)

theorem isEssential_iff {key : String} :
    isEssential key = true ↔ key ∉ "name" :: "namespace" :: systemFields := by
  simp only [isEssential, Bool.and_eq_true, Bool.not_eq_true', List.contains_eq_mem,
    decide_eq_false_iff_not, bne_iff_ne, List.mem_cons, not_or]
  tauto

theorem Shaped.essence_eq {body : Value} {top md : Fields} (h : Shaped body top md) :
    Body.essence body = .ok (.obj (essential top md)) := by
  have hmeta := h.meta_eq
  have hbody := h.body_eq
  subst hbody
  simp only [Body.essence, Value.toFields, hmeta, bind, Except.bind, Value.fieldsFor, pure,
    Except.pure, essential, describing, Fields.erase, List.filter_filter]
  have hrest : (top.filter fun p => p.1 != "metadata" && (p.1 != "status" &&
      (p.1 != "kind" && p.1 != "apiVersion"))) =
      top.filter fun p => !inessentialFields.contains p.1 := by
    refine List.filter_congr ?_
    intro p _
    rw [Bool.eq_iff_iff]
    simp only [inessentialFields, Bool.and_eq_true, bne_iff_ne, Bool.not_eq_true',
      List.contains_eq_mem, decide_eq_false_iff_not, List.mem_cons, not_or, List.not_mem_nil,
      not_false_iff]
    tauto
  rw [hrest]
  split <;> simp

theorem get?_describing (kept : Fields) (key : String) :
    Fields.get? (describing kept) key =
      if key = "metadata" ∧ kept.isEmpty = false then some (.obj kept) else none := by
  rw [describing]
  cases kept.isEmpty with
  | true => simp [Fields.get?]
  | false => simp [Fields.get?, eq_comm]

theorem get?_essential_of_ne (top md : Fields) {key : String} (hkey : key ≠ "metadata") :
    Fields.get? (essential top md) key =
      if key ∈ inessentialFields then none else Fields.get? top key := by
  have hnone : ∀ kept, Fields.get? (describing kept) key = none := by
    intro kept
    rw [get?_describing, if_neg fun h => hkey h.1]
  rw [essential, Fields.get?_append, hnone,
    Fields.get?_filter fun key => !inessentialFields.contains key]
  by_cases hmem : key ∈ inessentialFields <;> simp [hmem]

theorem get?_essential_metadata (top md : Fields) :
    Fields.get? (essential top md) "metadata" =
      Fields.get? (describing (md.filter fun p => isEssential p.1)) "metadata" := by
  rw [essential, Fields.get?_append,
    Fields.get?_filter fun key => !inessentialFields.contains key]
  simp [inessentialFields]

theorem agreeAt_describing {kept kept' : Fields} :
    Fields.AgreeAt (describing kept) (describing kept') "metadata" ↔
      (Value.obj kept).equal (.obj kept') = true := by
  rw [Fields.agreeAt_iff, get?_describing, get?_describing]
  constructor
  · intro h
    cases kept with
    | nil =>
        cases kept' with
        | nil => exact Value.equal_refl _
        | cons p rest => simp at h
    | cons p rest =>
        cases kept' with
        | nil => simp at h
        | cons q others => simpa [Value.equal_iff] using h
  · intro h
    rw [Fields.isEmpty_of_equal h]
    cases kept'.isEmpty <;> simp [Value.equal_iff.1 h]

theorem essential_equal_iff {top md top' md' : Fields} :
    (Value.obj (essential top md)).equal (.obj (essential top' md')) = true ↔
      Akin top md top' md' := by
  have hmetadata : Fields.AgreeAt (essential top md) (essential top' md') "metadata" ↔
      ∀ key, key ∉ "name" :: "namespace" :: systemFields → Fields.AgreeAt md md' key := by
    rw [Fields.AgreeAt, get?_essential_metadata, get?_essential_metadata, ← Fields.AgreeAt,
      agreeAt_describing, Fields.equal_filter_iff isEssential]
    simp only [isEssential_iff]
  have hfields : ∀ key, key ≠ "metadata" →
      (Fields.AgreeAt (essential top md) (essential top' md') key ↔
        (key ∉ inessentialFields → Fields.AgreeAt top top' key)) := by
    intro key hkey
    rw [Fields.AgreeAt, get?_essential_of_ne _ _ hkey, get?_essential_of_ne _ _ hkey]
    by_cases hmem : key ∈ inessentialFields
    · simp [hmem]
    · simp [hmem, Fields.AgreeAt]
  rw [Fields.equal_iff_agreeAt]
  constructor
  · intro h
    refine ⟨fun key hkey => ?_, hmetadata.1 (h "metadata")⟩
    have hne : key ≠ "metadata" := by
      rintro rfl
      exact hkey (by decide)
    exact (hfields key hne).1 (h key) hkey
  · intro h key
    by_cases hkey : key = "metadata"
    · subst hkey
      exact hmetadata.2 h.metadata
    · exact (hfields key hkey).2 (h.fields key)

theorem shaped_essential (top md : Fields) :
    Shaped (.obj (essential top md)) (essential top md)
      (md.filter fun p => isEssential p.1) := by
  refine ⟨rfl, ?_⟩
  rw [get?_essential_metadata, get?_describing]
  cases md.filter fun p => isEssential p.1 <;> simp

/-- Nothing is left in an essence that could be taken from it. -/
theorem essential_essential (top md : Fields) :
    essential (essential top md) (md.filter fun p => isEssential p.1) = essential top md := by
  have hdescribing : ∀ kept, (describing kept).filter
      (fun p => !inessentialFields.contains p.1) = [] := by
    intro kept
    rw [describing]
    split <;> rfl
  rw [essential, essential, List.filter_append, hdescribing, List.append_nil,
    List.filter_filter, List.filter_filter]
  simp only [Bool.and_self]

theorem Shaped.payload_eq {body : Value} {top md : Fields} (h : Shaped body top md)
    (hbare : ∀ key ∈ ["spec", "data"], Fields.has top key = false) :
    Body.payload body defaultPayloadFields = .ok (.obj (essential top md)) := by
  have hcontains : ∀ key ∈ ["spec", "data"], body.contains (.str key) = .ok false := by
    intro key hkey
    rw [h.body_eq, Value.contains, hbare key hkey]
  have hpayload : Body.payload body defaultPayloadFields =
      payloadAmong body [.str "spec", .str "data"] := rfl
  rw [hpayload, payloadAmong, hcontains "spec" (by decide)]
  show payloadAmong body [.str "data"] = _
  rw [payloadAmong, hcontains "data" (by decide)]
  exact h.essence_eq

/-- To agree in all that is desired includes the payload fields. -/
theorem Akin.has_eq {top md top' md' : Fields} (h : Akin top md top' md') {key : String}
    (hkey : key ∉ inessentialFields) : Fields.has top key = Fields.has top' key := by
  have hagree := congrArg Option.isSome (Fields.agreeAt_iff.1 (h.fields key hkey))
  rwa [Option.isSome_map, Option.isSome_map] at hagree

end Body

end OperatorCore
