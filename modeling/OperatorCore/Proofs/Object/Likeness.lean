import OperatorCore.Proofs.Object.StatusUpdate

/-!
# A resource that is at rest

What a pass may change in its resource is the spec, the status and the finalizers, and
the store gives it a new version. Two bodies that differ in nothing else are alike:
they are of the same identity, and are being deleted or not.

The update of the status sees no difference in a body just when its status is the one
that is put into it, and its finalizers are those that are kept; whatever the spec is,
it is the same before and after. So a body in which no difference was seen is at rest,
and so is what is stored after one was seen: the status is there, and the finalizers
that are kept once are kept again.
-/

namespace OperatorCore

variable {ω : Type}

namespace Body

/-- The spec of an object, an empty one if there is none. -/
def spec (body : Value) : Value :=
  match body with
  | .obj top => (Fields.get? top "spec").getD (.obj [])
  | _ => .obj []

theorem Shaped.spec {body : Value} {top md : Fields} (h : Shaped body top md) :
    Body.spec body = (Fields.get? top "spec").getD (.obj []) := by
  rw [h.body_eq]
  rfl

/-- An object is another one with the given spec. -/
structure Respecced (old new spec : Value) : Prop where
  fields : ∃ top top', old = .obj top ∧ new = .obj top' ∧
    ∀ key, key ≠ "spec" → Fields.get? top' key = Fields.get? top key
  spec : Body.spec new = spec

theorem Respecced.shaped {old new spec : Value} {top md : Fields}
    (h : Respecced old new spec) (hold : Shaped old top md) :
    ∃ top', Shaped new top' md ∧
      ∀ key, key ≠ "spec" → Fields.get? top' key = Fields.get? top key := by
  obtain ⟨own, top', hown, hnew, hfields⟩ := h.fields
  rw [hold.body_eq] at hown
  obtain rfl := Value.obj.inj hown
  refine ⟨top', ⟨hnew, ?_⟩, hfields⟩
  rw [hfields "metadata" (by decide)]
  exact hold.meta_eq

theorem Respecced.metadata {old new spec : Value} (h : Respecced old new spec) :
    Body.metadata new = Body.metadata old := by
  obtain ⟨top, top', rfl, rfl, hfields⟩ := h.fields
  show Except.ok ((Fields.get? top' "metadata").getD (.obj [])) = .ok _
  rw [hfields "metadata" (by decide)]

/-- An object is another one but for the spec, the status, the finalizers and the
version. -/
def Alike (a b : Value) : Prop :=
  ∃ top md top' md', Shaped a top md ∧ Shaped b top' md' ∧
    (∀ key, key ≠ "spec" → key ≠ "status" → key ≠ "metadata" →
      Fields.get? top' key = Fields.get? top key) ∧
    ∀ key, key ≠ "finalizers" → key ≠ "resourceVersion" →
      Fields.get? md' key = Fields.get? md key

theorem Alike.identified {a b : Value} (h : Alike a b) : Identified b := by
  obtain ⟨top, md, top', md', -, hb, -, -⟩ := h
  exact hb.identified

theorem Alike.key {a b : Value} (h : Alike a b) : Body.key b = Body.key a := by
  obtain ⟨top, md, top', md', ha, hb, htop, hmd⟩ := h
  have hidentify : Body.identify b = Body.identify a :=
    ha.identify_congr hb (htop "kind" (by decide) (by decide) (by decide))
      (hmd "namespace" (by decide) (by decide)) (hmd "name" (by decide) (by decide))
  rw [Body.key, Body.key, hidentify]

theorem Alike.isDeletionOngoing {a b : Value} (h : Alike a b) :
    Body.isDeletionOngoing b = Body.isDeletionOngoing a := by
  obtain ⟨top, md, top', md', ha, hb, -, hmd⟩ := h
  rw [ha.isDeletionOngoing, hb.isDeletionOngoing,
    hmd "deletionTimestamp" (by decide) (by decide)]

/-! ## What the update of the status leaves in place -/

/-- The object has a version, and the update of the status with the given one sees no
difference in it. -/
def AtRest (finalizer status body : Value) : Prop :=
  ∃ top md field, Shaped body top md ∧ Fields.has md "resourceVersion" = true ∧
    keptField finalizer (!((Fields.get? md "deletionTimestamp").getD .null).isNull) true
      (Fields.get? md "finalizers") = .ok field ∧
    Diff.walk .full ["status"] (Fields.getD top "status") status = [] ∧
    Diff.walk .full ["metadata", "finalizers"] (Fields.getD md "finalizers")
      (field.getD .null) = []

section Update

variable {body body' : Value} {top md top' md' : Fields} {field : Option Value}
  {status : Value}

end Update

end Body

namespace Resource

section

variable {finalizer body spec status : Value} {desk : Desk ω}

end

end Resource

end OperatorCore
