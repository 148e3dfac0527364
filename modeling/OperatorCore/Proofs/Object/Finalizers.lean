import OperatorCore.Engine.CustomResource
import OperatorCore.Proofs.Object.Identified

/-!
# The finalizer of a kind

What the default update of the status makes of the finalizers of an object depends on
their field alone, on whether the object is being deleted, and on whether the pass
has had a fault. `keptField` is this function, and the update changes no other field.
It is idempotent as long as the circumstances are the same: a finalizer that was
added is there, and one that was removed is not.

Of an object whose finalizers are a list, or absent, `kept` says the same without the
failures. An empty list is not what is left by a removal, the field is then gone. So
it is the optional list that matters, and not the list.
-/

namespace OperatorCore

namespace Value

theorem isIn_append_self (v : Value) (items : List Value) :
    v.isIn (items ++ [v]) = true := by
  rw [isIn, List.any_append, Bool.or_eq_true]
  right
  rw [List.any_cons, equal_refl, Bool.true_or]

theorem isIn_iff {v : Value} {items : List Value} :
    v.isIn items = true ↔ ∃ item ∈ items, item.equal v = true := by
  rw [isIn, List.any_eq_true]
  exact exists_congr fun item => and_congr_right fun _ => ⟨equal_symm, equal_symm⟩

theorem isIn_iff_countP_pos {v : Value} {items : List Value} :
    v.isIn items = true ↔ 0 < items.countP fun item => item.equal v := by
  rw [isIn_iff, List.countP_pos_iff]

end Value

namespace Body

theorem eraseEach_eq_filter (v : Value) (items : List Value) :
    eraseEach v items = items.filter fun item => !item.equal v := by
  induction items with
  | nil => rfl
  | cons item rest ih =>
      rw [eraseEach, ih, List.filter_cons]
      cases item.equal v <;> rfl

theorem isIn_eraseEach (v : Value) (items : List Value) :
    v.isIn (eraseEach v items) = false := by
  induction items with
  | nil => rfl
  | cons item rest ih =>
      rw [eraseEach]
      split
      · exact ih
      · next hitem =>
          have hv : v.equal item = false := by
            rw [Bool.eq_false_iff]
            exact fun h => hitem (Value.equal_symm h)
          rw [Value.isIn, List.any_cons, hv, Bool.false_or]
          exact ih

theorem eraseEach_of_not_isIn {v : Value} {items : List Value}
    (h : v.isIn items = false) : eraseEach v items = items := by
  induction items with
  | nil => rfl
  | cons item rest ih =>
      rw [Value.isIn, List.any_cons, Bool.or_eq_false_iff] at h
      have hitem : ¬ item.equal v = true := by
        intro hequal
        rw [Value.equal_symm hequal] at h
        cases h.1
      rw [eraseEach, if_neg hitem, ih h.2]

section Shaped

variable {body : Value} {top md : Fields}

theorem Shaped.finalizers (h : Shaped body top md) :
    Body.finalizers body = .ok ((Fields.get? md "finalizers").getD (.arr [])) := by
  rw [Body.finalizers, h.metadata]
  rfl

theorem Shaped.isDeletionOngoing (h : Shaped body top md) :
    Body.isDeletionOngoing body =
      .ok (!((Fields.get? md "deletionTimestamp").getD .null).isNull) := by
  rw [Body.isDeletionOngoing, deletionMark, h.metadata]
  rfl

/-- An object whose metadata have a field has metadata. -/
theorem Shaped.get?_metadata (h : Shaped body top md) {key : String}
    (hkey : Fields.has md key = true) : Fields.get? top "metadata" = some (.obj md) := by
  have hmeta := h.meta_eq
  cases hm : Fields.get? top "metadata" with
  | some v =>
      rw [hm, Option.getD_some] at hmeta
      rw [hmeta]
  | none =>
      rw [hm] at hmeta
      cases hmeta
      cases hkey

/-- A body differs from another one in its finalizers alone, which are given. -/
structure Refinalized (top md : Fields) (field : Option Value) (body' : Value)
    (top' md' : Fields) : Prop where
  shaped : Shaped body' top' md'
  top_eq : ∀ key, key ≠ "metadata" → Fields.get? top' key = Fields.get? top key
  meta_eq : ∀ key, Fields.get? md' key =
    if key = "finalizers" then field else Fields.get? md key

/-- The metadata with the given finalizers, or without any. -/
def refinalizedMetadata (md : Fields) (field : Option Value) : Fields :=
  match field with
  | some value => Fields.put md "finalizers" value
  | none => Fields.erase md "finalizers"

/-- A body with the given finalizers, or without any; metadata that are absent are added only
to hold them. -/
def refinalize (top md : Fields) (field : Option Value) : Fields :=
  if field.isSome || Fields.has md "finalizers" then
    Fields.put top "metadata" (.obj (refinalizedMetadata md field))
  else top

theorem Shaped.refinalize_eq_self (h : Shaped body top md) :
    .obj (refinalize top md (Fields.get? md "finalizers")) = body := by
  rw [h.body_eq, refinalize, ← Fields.has, Bool.or_self]
  refine congrArg Value.obj ?_
  split
  · next hhas =>
      obtain ⟨value, hvalue⟩ := Option.isSome_iff_exists.1 hhas
      rw [hvalue, refinalizedMetadata, Fields.put_self hvalue]
      exact Fields.put_self (h.get?_metadata hhas)
  · rfl

theorem Shaped.refinalize (h : Shaped body top md) (field : Option Value) :
    Shaped (.obj (Body.refinalize top md field)) (Body.refinalize top md field)
      (refinalizedMetadata md field) := by
  refine ⟨rfl, ?_⟩
  rw [Body.refinalize]
  split
  · rw [Fields.get?_put]
    rfl
  · next hneither =>
      rw [Bool.or_eq_true, not_or, Bool.not_eq_true, Bool.not_eq_true,
        Option.isSome_eq_false_iff, Option.isNone_iff_eq_none] at hneither
      obtain ⟨rfl, hhas⟩ := hneither
      rw [refinalizedMetadata, Fields.erase_of_not_has hhas]
      exact h.meta_eq

theorem Shaped.refinalized (h : Shaped body top md) (field : Option Value) :
    Refinalized top md field (.obj (Body.refinalize top md field))
      (Body.refinalize top md field) (refinalizedMetadata md field) where
  shaped := h.refinalize field
  top_eq key hkey := by
    rw [Body.refinalize]
    split
    · rw [Fields.get?_put, if_neg (Ne.symm hkey)]
    · rfl
  meta_eq key := by
    by_cases hkey : key = "finalizers"
    · subst hkey
      cases field <;> simp [refinalizedMetadata, Fields.get?_put, Fields.get?_erase]
    · cases field <;>
        simp [refinalizedMetadata, Fields.get?_put, Fields.get?_erase, hkey, Ne.symm hkey]

end Shaped

section Shaped

variable {body : Value} {top md : Fields} (h : Shaped body top md) (field : Option Value)
include h

theorem Shaped.get?_refinalize {key : String} (hkey : key ≠ "metadata") :
    Fields.get? (Body.refinalize top md field) key = Fields.get? top key :=
  (h.refinalized field).top_eq key hkey

theorem Shaped.get?_refinalizedMetadata {key : String} (hkey : key ≠ "finalizers") :
    Fields.get? (refinalizedMetadata md field) key = Fields.get? md key := by
  rw [(h.refinalized field).meta_eq key, if_neg hkey]

theorem Shaped.finalizers_refinalizedMetadata :
    Fields.get? (refinalizedMetadata md field) "finalizers" = field := by
  rw [(h.refinalized field).meta_eq, if_pos rfl]

/-- To give an object its own finalizers again changes nothing. -/
theorem Shaped.refinalize_again :
    Body.refinalize (Body.refinalize top md field) (refinalizedMetadata md field) field =
      Body.refinalize top md field := by
  have hself := (h.refinalize field).refinalize_eq_self
  rw [h.finalizers_refinalizedMetadata field] at hself
  exact Value.obj.inj hself

theorem Shaped.has_metadata_refinalize :
    Fields.has (Body.refinalize top md field) "metadata" =
      (Fields.has top "metadata" || Fields.has (refinalizedMetadata md field) "finalizers") := by
  have hfinalizers : Fields.has (refinalizedMetadata md field) "finalizers" = field.isSome := by
    rw [Fields.has, h.finalizers_refinalizedMetadata]
  rw [hfinalizers, Body.refinalize]
  cases hfield : field.isSome with
  | true => simp [Fields.has, Fields.get?_put]
  | false =>
      cases hhas : Fields.has md "finalizers" with
      | true => simp [Fields.has, Fields.get?_put, h.get?_metadata hhas]
      | false => simp

end Shaped

theorem erase_refinalizedMetadata (md : Fields) (field : Option Value) :
    Fields.erase (refinalizedMetadata md field) "finalizers" = Fields.erase md "finalizers" := by
  cases field with
  | some value => exact Fields.erase_put md "finalizers" value
  | none => exact Fields.erase_erase md "finalizers"

theorem erase_refinalize (top md : Fields) (field : Option Value) :
    Fields.erase (Body.refinalize top md field) "metadata" = Fields.erase top "metadata" := by
  rw [Body.refinalize]
  split
  · exact Fields.erase_put _ _ _
  · rfl

/-! ## What becomes of the field -/

section Field

variable (finalizer : Value)

/-- What becomes of the finalizers of an object whose deletion is to be blocked. -/
def blockedField (field : Option Value) : Except Fault (Option Value) := do
  if ← (field.getD (.arr [])).contains finalizer then pure field
  else match field.getD (.arr []) with
    | .arr items => pure (some (.arr (items ++ [finalizer])))
    | other => .error (.misuse (.noAttribute other.typeName "append"))

/-- What is left of the finalizers of an object whose deletion is allowed. -/
def allowedField : Option Value → Except Fault (Option Value)
  | none => .ok none
  | some field => do
    let blocked ← field.contains finalizer
    let left ← match field with
      | .arr items => pure (.arr (eraseEach finalizer items))
      | other =>
        if blocked then .error (.misuse (.noAttribute other.typeName "remove"))
        else pure other
    pure (if left.truthy then some left else none)

/-- What becomes of the finalizers of an object, which is being deleted or not, after
a pass with or without a fault. -/
def keptField (deleting passed : Bool) (field : Option Value) :
    Except Fault (Option Value) :=
  if finalizer.isNull then .ok field
  else if !deleting then blockedField finalizer field
  else if passed then allowedField finalizer field
  else .ok field

/-- The same of a list, or of none. -/
def kept (deleting passed : Bool) (items : Option (List Value)) : Option (List Value) :=
  if finalizer.isNull then items
  else if !deleting then
    if finalizer.isIn (items.getD []) then items else some (items.getD [] ++ [finalizer])
  else if passed then
    (items.map (eraseEach finalizer)).filter fun left => !left.isEmpty
  else items

theorem blockedField_items (items : Option (List Value)) :
    blockedField finalizer (items.map .arr) = .ok (Option.map .arr
      (if finalizer.isIn (items.getD []) then items
        else some (items.getD [] ++ [finalizer]))) := by
  have hlist : (items.map Value.arr).getD (.arr []) = .arr (items.getD []) := by
    cases items <;> rfl
  have hcontains : (Value.arr (items.getD [])).contains finalizer =
      .ok (finalizer.isIn (items.getD [])) := rfl
  rw [blockedField, hlist, hcontains]
  cases finalizer.isIn (items.getD []) <;> rfl

theorem allowedField_items (items : Option (List Value)) :
    allowedField finalizer (items.map .arr) = .ok (Option.map .arr
      ((items.map (eraseEach finalizer)).filter fun left => !left.isEmpty)) := by
  cases items with
  | none => rfl
  | some list =>
      rw [Option.map_some, Option.map_some, Option.filter]
      have hallowed : allowedField finalizer (some (.arr list)) =
          .ok (if (Value.arr (eraseEach finalizer list)).truthy
            then some (.arr (eraseEach finalizer list)) else none) := rfl
      rw [hallowed]
      cases eraseEach finalizer list <;> rfl

theorem keptField_items (deleting passed : Bool) (items : Option (List Value)) :
    keptField finalizer deleting passed (items.map .arr) =
      .ok ((kept finalizer deleting passed items).map .arr) := by
  rw [keptField, kept, blockedField_items, allowedField_items]
  split
  · rfl
  · split
    · rfl
    · split <;> rfl

end Field

theorem blockedField_idem {finalizer : Value} {field field' : Option Value}
    (h : blockedField finalizer field = .ok field') :
    blockedField finalizer field' = .ok field' := by
  have hrun := h
  rw [blockedField] at h
  cases hc : (field.getD (.arr [])).contains finalizer with
  | error e =>
      rw [hc] at h
      cases h
  | ok blocked =>
      rw [hc] at h
      cases blocked with
      | true =>
          obtain rfl : field = field' := Except.ok.inj h
          exact hrun
      | false =>
          cases hf : field.getD (.arr []) with
          | arr items =>
              rw [hf] at h
              obtain rfl : some (.arr (items ++ [finalizer])) = field' := Except.ok.inj h
              have hadded : (Value.arr (items ++ [finalizer])).contains finalizer =
                  .ok true := congrArg Except.ok (Value.isIn_append_self finalizer items)
              rw [blockedField, Option.getD_some, hadded]
              rfl
          | _ =>
              rw [hf] at h
              cases h

/-- What is no list can only be left as it is, or be dropped. -/
theorem allowedField_other {finalizer v : Value} {field : Option Value}
    (hv : ∀ items, v ≠ .arr items) (h : allowedField finalizer (some v) = .ok field) :
    field = none ∨ field = some v := by
  have hallowed : allowedField finalizer (some v) = (do
      if ← v.contains finalizer then .error (.misuse (.noAttribute v.typeName "remove"))
      else pure (if v.truthy then some v else none)) := by
    cases v with
    | arr items => exact absurd rfl (hv items)
    | _ => rfl
  rw [hallowed] at h
  cases hc : v.contains finalizer with
  | error e =>
      rw [hc] at h
      cases h
  | ok blocked =>
      rw [hc] at h
      cases blocked with
      | true => cases h
      | false =>
          obtain rfl := Except.ok.inj h
          cases v.truthy with
          | true => exact .inr rfl
          | false => exact .inl rfl

theorem allowedField_idem {finalizer : Value} {field field' : Option Value}
    (h : allowedField finalizer field = .ok field') :
    allowedField finalizer field' = .ok field' := by
  cases field with
  | none =>
      cases h
      rfl
  | some v =>
      cases v with
      | arr items =>
          have hallowed := allowedField_items finalizer (some items)
          rw [Option.map_some] at hallowed
          rw [hallowed] at h
          obtain rfl := Except.ok.inj h
          rw [allowedField_items]
          cases hleft : eraseEach finalizer items with
          | nil => simp [Option.filter, hleft]
          | cons first rest =>
              have hidle : eraseEach finalizer (first :: rest) = first :: rest := by
                rw [← hleft]
                exact eraseEach_of_not_isIn (isIn_eraseEach finalizer items)
              simp [Option.filter, hleft, hidle]
      | _ =>
          have hrun := h
          rcases allowedField_other (by simp) h with rfl | rfl
          · rfl
          · exact hrun

/-- What is kept once is kept again. -/
theorem keptField_idem {finalizer : Value} {deleting passed : Bool}
    {field field' : Option Value}
    (h : keptField finalizer deleting passed field = .ok field') :
    keptField finalizer deleting passed field' = .ok field' := by
  unfold keptField at h ⊢
  split at h
  · next hnull => rw [if_pos hnull]
  · next hnull =>
      rw [if_neg hnull]
      split at h
      · next hliving =>
          rw [if_pos hliving]
          exact blockedField_idem h
      · next hdeleting =>
          rw [if_neg hdeleting]
          split at h
          · next hpassed =>
              rw [if_pos hpassed]
              exact allowedField_idem h
          · next hfailed => rw [if_neg hfailed]

section Shaped

variable {body : Value} {top md : Fields}

theorem Shaped.isDeletionBlocked (h : Shaped body top md) (finalizer : Value) :
    Body.isDeletionBlocked body finalizer =
      ((Fields.get? md "finalizers").getD (.arr [])).contains finalizer := by
  rw [Body.isDeletionBlocked, h.finalizers]
  rfl

theorem Shaped.blockDeletion (h : Shaped body top md) (finalizer : Value) :
    Body.blockDeletion body finalizer =
      (blockedField finalizer (Fields.get? md "finalizers")).map fun field =>
        .obj (Body.refinalize top md field) := by
  rw [Body.blockDeletion, h.isDeletionBlocked, h.finalizers, blockedField]
  cases ((Fields.get? md "finalizers").getD (.arr [])).contains finalizer with
  | error e => rfl
  | ok blocked =>
      cases blocked with
      | true => exact congrArg Except.ok h.refinalize_eq_self.symm
      | false =>
          cases (Fields.get? md "finalizers").getD (.arr []) with
          | arr items => exact h.putInMetadata "finalizers" _
          | _ => rfl

/-- If there are finalizers, they are replaced by what is left of them, or dropped if this
is nothing. -/
theorem Shaped.leave (h : Shaped body top md) (hhas : Fields.has md "finalizers" = true)
    (left : Value) :
    (if left.truthy then Body.putInMetadata body "finalizers" left
      else Body.dropFromMetadata body "finalizers") =
      .ok (.obj (Body.refinalize top md (if left.truthy then some left else none))) := by
  rw [Body.refinalize, hhas, Bool.or_true, if_pos rfl]
  split
  · exact h.putInMetadata "finalizers" left
  · rw [h.dropFromMetadata, Fields.has, h.get?_metadata hhas]
    rfl

theorem Shaped.allowDeletion (h : Shaped body top md) (finalizer : Value) :
    Body.allowDeletion body finalizer =
      (allowedField finalizer (Fields.get? md "finalizers")).map fun field =>
        .obj (Body.refinalize top md field) := by
  rw [Body.allowDeletion, h.isDeletionBlocked, h.finalizers, h.metadata]
  cases hfield : Fields.get? md "finalizers" with
  | none =>
      have hhas : Fields.has md "finalizers" = false := by
        rw [Fields.has, hfield]
        rfl
      have hself := h.refinalize_eq_self
      rw [hfield] at hself
      simp only [Option.getD_none, Value.contains, bind, Except.bind, pure, Except.pure,
        hhas, Bool.not_false, if_true, allowedField, Except.map, hself]
  | some v =>
      have hhas : Fields.has md "finalizers" = true := by
        rw [Fields.has, hfield]
        rfl
      rw [Option.getD_some, allowedField]
      cases v.contains finalizer with
      | error e => rfl
      | ok blocked =>
          simp only [bind, Except.bind, pure, Except.pure, hhas, Bool.not_true,
            Bool.false_eq_true, if_false]
          have hother := h.leave hhas v
          cases v with
          | arr items => exact h.leave hhas _
          | _ =>
              cases blocked with
              | true => rfl
              | false => exact hother

end Shaped

end Body

namespace Resource

/-- The default update keeps the finalizers as `keptField` says, or fails as it does,
and leaves all other fields as they are. -/
theorem keepFinalizer_eq {body : Value} {top md : Fields} (h : Body.Shaped body top md)
    (finalizer : Value) (fault : Option Fault) :
    keepFinalizer finalizer fault body =
      (Body.keptField finalizer
        (!((Fields.get? md "deletionTimestamp").getD .null).isNull) fault.isNone
        (Fields.get? md "finalizers")).map fun field =>
          .obj (Body.refinalize top md field) := by
  have hself : Except.ok body = (Except.ok (Fields.get? md "finalizers") :
      Except Fault (Option Value)).map fun field => .obj (Body.refinalize top md field) :=
    congrArg Except.ok h.refinalize_eq_self.symm
  cases hnull : finalizer.isNull with
  | true =>
      cases finalizer with
      | null => exact hself
      | _ => cases hnull
  | false =>
      have hkeep : keepFinalizer finalizer fault body = (do
          if !(← Body.isDeletionOngoing body) then Body.blockDeletion body finalizer
          else if fault.isNone then Body.allowDeletion body finalizer
          else pure body) := by
        cases finalizer with
        | null => cases hnull
        | _ => rfl
      rw [hkeep, h.isDeletionOngoing, Body.keptField, hnull]
      simp only [bind, Except.bind, pure, Except.pure, Bool.false_eq_true, if_false,
        Bool.not_not]
      cases ((Fields.get? md "deletionTimestamp").getD .null).isNull with
      | true => exact h.blockDeletion finalizer
      | false =>
          cases fault.isNone with
          | true => exact h.allowDeletion finalizer
          | false => exact hself

end Resource

end OperatorCore
