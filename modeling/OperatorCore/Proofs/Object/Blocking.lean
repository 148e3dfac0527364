import OperatorCore.Proofs.Object.Finalizers

/-!
# Blocking and allowing a deletion

To allow a deletion is a loop: as long as the finalizer is in the list, its first occurrence
is taken out. The loop is told here as a relation between the object it begins with, the
number of its rounds, and the object it ends with (`Body.Clears`). Each round takes one
occurrence and leaves the others where they are, so the rounds are counted by the
occurrences, and what is left at the end is the list without any of them. The operation,
which takes them out all at once, comes to the same.

Both operations come down to what becomes of one field, which was, or is, a list. It is
removed when nothing is left in it, and it is created with the metadata around it when there
is something to add; all else stays.
-/

namespace OperatorCore

namespace Value

theorem eraseFirst_cons (v item : Value) (rest : List Value) :
    eraseFirst v (item :: rest) = if item.equal v then rest else item :: eraseFirst v rest :=
  rfl

/-- To take out the first occurrence leaves one less. -/
theorem countP_eraseFirst {v : Value} {items : List Value} (h : v.isIn items = true) :
    (items.countP fun item => item.equal v) =
      ((eraseFirst v items).countP fun item => item.equal v) + 1 := by
  induction items with
  | nil => cases h
  | cons item rest ih =>
      rw [eraseFirst_cons]
      cases hitem : item.equal v with
      | true => simp [hitem]
      | false =>
          have hrest : v.isIn rest = true := by
            rw [isIn_iff] at h ⊢
            obtain ⟨other, hmem, hequal⟩ := h
            rcases List.mem_cons.1 hmem with rfl | hmem
            · rw [hitem] at hequal
              cases hequal
            · exact ⟨other, hmem, hequal⟩
          simp [hitem, ih hrest]

end Value

namespace Body

/-- An occurrence more or less makes no difference to what is left without any. -/
theorem eraseEach_eraseFirst (v : Value) (items : List Value) :
    eraseEach v (Value.eraseFirst v items) = eraseEach v items := by
  induction items with
  | nil => rfl
  | cons item rest ih =>
      rw [Value.eraseFirst_cons, eraseEach]
      cases hitem : item.equal v with
      | true => rfl
      | false => simp [eraseEach, hitem, ih]

/-! ## What becomes of the list -/

/-- What is left of some finalizers without one of them, unless nothing is. -/
def remaining (finalizer : Value) (items : Option (List Value)) : Option (List Value) :=
  let left := (items.getD []).filter fun item => !item.equal finalizer
  if left.isEmpty then none else some left

/-- Some finalizers with one more, unless it is there. -/
def extended (finalizer : Value) (items : Option (List Value)) : Option (List Value) :=
  if finalizer.isIn (items.getD []) then items else some (items.getD [] ++ [finalizer])

theorem remaining_eq (finalizer : Value) (items : Option (List Value)) :
    (items.map (eraseEach finalizer)).filter (fun left => !left.isEmpty) =
      remaining finalizer items := by
  cases items with
  | none => rfl
  | some list =>
      rw [Option.map_some, remaining, Option.getD_some, ← eraseEach_eq_filter]
      cases eraseEach finalizer list <;> rfl

theorem getD_remaining (finalizer : Value) (items : Option (List Value)) :
    (remaining finalizer items).getD [] =
      (items.getD []).filter fun item => !item.equal finalizer := by
  rw [remaining]
  cases (items.getD []).filter fun item => !item.equal finalizer <;> rfl

theorem isIn_extended (finalizer : Value) (items : Option (List Value)) :
    finalizer.isIn ((extended finalizer items).getD []) = true := by
  rw [extended]
  split
  · next hin => exact hin
  · exact Value.isIn_append_self finalizer _

theorem remaining_remaining (finalizer : Value) (items : Option (List Value)) :
    remaining finalizer (remaining finalizer items) = remaining finalizer items := by
  rw [remaining, getD_remaining, List.filter_filter]
  simp only [Bool.and_self]
  rfl

theorem extended_extended (finalizer : Value) (items : Option (List Value)) :
    extended finalizer (extended finalizer items) = extended finalizer items := by
  rw [extended, if_pos (isIn_extended finalizer items)]

/-- What is added is taken out again. -/
theorem remaining_extended (finalizer : Value) (items : Option (List Value)) :
    remaining finalizer (extended finalizer items) = remaining finalizer items := by
  rw [extended]
  split
  · rfl
  · simp [remaining, List.filter_append]

/-- Of two objects with their metadata, the second one has the given finalizers and is the
first one otherwise. -/
structure Relisted (items : Option (List Value)) (top md top' md' : Fields) : Prop where
  shaped : Shaped (.obj top') top' md'
  finalizers : Fields.get? md' "finalizers" = items.map .arr
  metadata : Fields.erase md' "finalizers" = Fields.erase md "finalizers"
  rest : Fields.erase top' "metadata" = Fields.erase top "metadata"
  /-- Metadata are added to hold the finalizers only. -/
  added : Fields.has top' "metadata" = (Fields.has top "metadata" || items.isSome)

/-! ## The loop -/

/-- Takes the first occurrence of a finalizer out of the list of an object. -/
def removeFinalizer (body finalizer : Value) : Except Fault Value := do
  match ← finalizers body with
  | .arr items => putInMetadata body "finalizers" (.arr (Value.eraseFirst finalizer items))
  | other => .error (.misuse (.noAttribute other.typeName "remove"))

/-- For as long as the finalizer is among those of the object, one occurrence is taken out:
the object at the beginning, the number of rounds, and the object at the end. -/
inductive Clears (finalizer : Value) : Value → Nat → Value → Prop
  | done {body : Value} (h : isDeletionBlocked body finalizer = .ok false) :
      Clears finalizer body 0 body
  | round {body next last : Value} {n : Nat} (h : isDeletionBlocked body finalizer = .ok true)
      (hnext : removeFinalizer body finalizer = .ok next) (hlast : Clears finalizer next n last) :
      Clears finalizer body (n + 1) last

section Listed

variable {body : Value} {top md : Fields} {items : Option (List Value)}
  (h : Shaped body top md) (hitems : Fields.get? md "finalizers" = items.map .arr)
include h hitems

theorem Shaped.finalizers_eq : Body.finalizers body = .ok (.arr (items.getD [])) := by
  rw [h.finalizers, hitems]
  cases items <;> rfl

theorem Shaped.isDeletionBlocked_eq (finalizer : Value) :
    Body.isDeletionBlocked body finalizer = .ok (finalizer.isIn (items.getD [])) := by
  rw [Body.isDeletionBlocked, h.finalizers_eq hitems]
  rfl

theorem Shaped.allowDeletion_eq (finalizer : Value) :
    Body.allowDeletion body finalizer =
      .ok (.obj (Body.refinalize top md ((remaining finalizer items).map .arr))) := by
  rw [h.allowDeletion, hitems, allowedField_items, remaining_eq]
  rfl

theorem Shaped.blockDeletion_eq (finalizer : Value) :
    Body.blockDeletion body finalizer =
      .ok (.obj (Body.refinalize top md ((extended finalizer items).map .arr))) := by
  rw [h.blockDeletion, hitems, blockedField_items]
  rfl

end Listed

theorem Shaped.relisted {body : Value} {top md : Fields} (h : Shaped body top md)
    (items : Option (List Value)) :
    Relisted items top md (Body.refinalize top md (items.map .arr))
      (refinalizedMetadata md (items.map .arr)) where
  shaped := h.refinalize _
  finalizers := h.finalizers_refinalizedMetadata _
  metadata := erase_refinalizedMetadata md _
  rest := erase_refinalize top md _
  added := by
    have hhas : Fields.has (refinalizedMetadata md (items.map .arr)) "finalizers" =
        items.isSome := by
      rw [Fields.has, h.finalizers_refinalizedMetadata, Option.isSome_map]
    rw [h.has_metadata_refinalize, hhas]

/-! ## The loop comes to an end -/

/-- One round takes one occurrence out of the list. -/
theorem Shaped.removeFinalizer_eq {body : Value} {top md : Fields} {list : List Value}
    (h : Shaped body top md) (hlist : Fields.get? md "finalizers" = some (.arr list))
    (finalizer : Value) :
    removeFinalizer body finalizer = .ok (.obj (Body.refinalize top md
      (some (.arr (Value.eraseFirst finalizer list))))) := by
  rw [removeFinalizer, h.finalizers, hlist]
  exact h.putInMetadata "finalizers" _

/-- What is left at the end is not changed by a round. -/
theorem remaining_eraseFirst (finalizer : Value) (list : List Value) :
    remaining finalizer (some (Value.eraseFirst finalizer list)) =
      remaining finalizer (some list) := by
  simp only [remaining, Option.getD_some, ← eraseEach_eq_filter, eraseEach_eraseFirst]

theorem refinalize_refinalize {top md : Fields} (hhas : Fields.has md "finalizers" = true)
    (value : Value) (field : Option Value) :
    Body.refinalize (Body.refinalize top md (some value))
        (refinalizedMetadata md (some value)) field = Body.refinalize top md field := by
  have hmetadata : refinalizedMetadata (refinalizedMetadata md (some value)) field =
      refinalizedMetadata md field := by
    cases field with
    | some other => exact Fields.put_put md "finalizers" value other
    | none => exact Fields.erase_put md "finalizers" value
  have hhas' : Fields.has (refinalizedMetadata md (some value)) "finalizers" = true := by
    rw [refinalizedMetadata, Fields.has, Fields.get?_put, if_pos rfl]
    rfl
  rw [Body.refinalize, hhas', Bool.or_true, if_pos rfl, hmetadata, Body.refinalize,
    Option.isSome_some, Bool.true_or, if_pos rfl, Fields.put_put, Body.refinalize, hhas,
    Bool.or_true, if_pos rfl]

/-- The loop ends after as many rounds as there are occurrences, with none of them left, and
what is to be done afterwards is what remains of the operation. -/
theorem Shaped.clears {body : Value} {top md : Fields} {items : Option (List Value)}
    (h : Shaped body top md) (hitems : Fields.get? md "finalizers" = items.map .arr)
    (finalizer : Value) {n : Nat}
    (hn : ((items.getD []).countP fun item => item.equal finalizer) = n) :
    ∃ last, Clears finalizer body n last ∧
      Body.finalizers last =
        .ok (.arr ((items.getD []).filter fun item => !item.equal finalizer)) ∧
      Body.allowDeletion last finalizer = Body.allowDeletion body finalizer := by
  have hblocked := h.isDeletionBlocked_eq hitems finalizer
  induction n generalizing body top md items with
  | zero =>
      have habsent : finalizer.isIn (items.getD []) = false := by
        rw [← Bool.not_eq_true, Value.isIn_iff_countP_pos, hn]
        exact Nat.lt_irrefl 0
      have hall : ((items.getD []).filter fun item => !item.equal finalizer) =
          items.getD [] := by
        rw [← eraseEach_eq_filter, eraseEach_of_not_isIn habsent]
      rw [habsent] at hblocked
      rw [hall]
      exact ⟨body, .done hblocked, h.finalizers_eq hitems, rfl⟩
  | succ n ih =>
      have hin : finalizer.isIn (items.getD []) = true := by
        rw [Value.isIn_iff_countP_pos, hn]
        exact Nat.succ_pos n
      cases items with
      | none => cases hin
      | some list =>
          have hhas : Fields.has md "finalizers" = true := by
            rw [Fields.has, hitems]
            rfl
          have hrelisted := h.relisted (some (Value.eraseFirst finalizer list))
          have hnext := hrelisted.shaped
          have hlist := hrelisted.finalizers
          have hrest : (((some (Value.eraseFirst finalizer list)).getD []).countP
              fun item => item.equal finalizer) = n :=
            Nat.succ.inj ((Value.countP_eraseFirst hin).symm.trans hn)
          obtain ⟨last, hclears, hleft, hallow⟩ := ih hnext hlist hrest
            (hnext.isDeletionBlocked_eq hlist finalizer)
          refine ⟨last, .round ?_ (h.removeFinalizer_eq hitems finalizer) hclears, ?_, ?_⟩
          · rw [hblocked, hin]
          · rw [hleft, Option.getD_some, Option.getD_some, ← eraseEach_eq_filter,
              eraseEach_eraseFirst, eraseEach_eq_filter]
          · rw [hallow, hnext.allowDeletion_eq hlist, h.allowDeletion_eq hitems,
              remaining_eraseFirst, Option.map_some, refinalize_refinalize hhas]

/-! ## The operations -/

/-- What is given again is there already. -/
theorem Shaped.refinalize_relisted {body : Value} {top md : Fields} (h : Shaped body top md)
    {items items' : Option (List Value)} (hitems : items' = items) :
    Body.refinalize (Body.refinalize top md (items.map .arr))
        (refinalizedMetadata md (items.map .arr)) (items'.map .arr) =
      Body.refinalize top md (items.map .arr) := by
  rw [hitems, h.refinalize_again]

/-- If the finalizers of an object are a list, if any, the removal of one of them goes on for
as many rounds as it occurs, and none of it is left then, nor is an empty list. To block the
deletion adds it unless it is there. Nothing else is changed, nothing at all is changed by the
same operation a second time, and what is added is removed again. -/
theorem finalizers_edited {body : Value} {top md : Fields} {items : Option (List Value)}
    (h : Shaped body top md) (hitems : Fields.get? md "finalizers" = items.map .arr)
    (finalizer : Value) :
    let left := (items.getD []).filter fun item => !item.equal finalizer
    (∃ last,
      Clears finalizer body ((items.getD []).countP fun item => item.equal finalizer) last ∧
      Body.finalizers last = .ok (.arr left) ∧
      Body.allowDeletion last finalizer = Body.allowDeletion body finalizer) ∧
    ∃ top₁ md₁ top₂ md₂ top₃ md₃,
      (Body.allowDeletion body finalizer = .ok (.obj top₁) ∧
        Relisted (if left.isEmpty then none else some left) top md top₁ md₁ ∧
        Body.isDeletionBlocked (.obj top₁) finalizer = .ok false ∧
        Body.allowDeletion (.obj top₁) finalizer = .ok (.obj top₁)) ∧
      (Body.blockDeletion body finalizer = .ok (.obj top₂) ∧
        Relisted (if finalizer.isIn (items.getD []) then items
          else some (items.getD [] ++ [finalizer])) top md top₂ md₂ ∧
        Body.isDeletionBlocked (.obj top₂) finalizer = .ok true ∧
        Body.blockDeletion (.obj top₂) finalizer = .ok (.obj top₂)) ∧
      Body.allowDeletion (.obj top₂) finalizer = .ok (.obj top₃) ∧
        Relisted (if left.isEmpty then none else some left) top₂ md₂ top₃ md₃ := by
  intro left
  have hallowed := h.relisted (remaining finalizer items)
  have hblocked := h.relisted (extended finalizer items)
  have hreleased := hblocked.shaped.relisted (remaining finalizer items)
  refine ⟨h.clears hitems finalizer rfl, _, _, _, _, _, _,
    ⟨h.allowDeletion_eq hitems finalizer, hallowed, ?_, ?_⟩,
    ⟨h.blockDeletion_eq hitems finalizer, hblocked, ?_, ?_⟩, ?_, hreleased⟩
  · rw [hallowed.shaped.isDeletionBlocked_eq hallowed.finalizers, getD_remaining,
      ← eraseEach_eq_filter, isIn_eraseEach]
  · rw [hallowed.shaped.allowDeletion_eq hallowed.finalizers,
      h.refinalize_relisted (remaining_remaining finalizer items)]
  · rw [hblocked.shaped.isDeletionBlocked_eq hblocked.finalizers, isIn_extended]
  · rw [hblocked.shaped.blockDeletion_eq hblocked.finalizers,
      h.refinalize_relisted (extended_extended finalizer items)]
  · rw [hblocked.shaped.allowDeletion_eq hblocked.finalizers, remaining_extended]

/-! A pod that a finalizer holds twice, with one of somebody else in between. -/

def heldPodMetadata : Fields :=
  [("name", .str "p"), ("finalizers", .arr [.str "own", .str "other", .str "own"])]

def heldPodFields : Fields := [("kind", .str "Pod"), ("metadata", .obj heldPodMetadata)]

theorem pod_released_in_two_rounds :
    (∃ last, Clears (.str "own") (.obj heldPodFields) 2 last ∧
      Body.finalizers last = .ok (.arr [.str "other"])) ∧
    ∃ top md, Body.allowDeletion (.obj heldPodFields) (.str "own") = .ok (.obj top) ∧
      Relisted (some [.str "other"]) heldPodFields heldPodMetadata top md ∧
      Body.isDeletionBlocked (.obj top) (.str "own") = .ok false := by
  have hshaped : Shaped (.obj heldPodFields) heldPodFields heldPodMetadata := ⟨rfl, rfl⟩
  have hitems : Fields.get? heldPodMetadata "finalizers" =
      (some [Value.str "own", .str "other", .str "own"]).map .arr := rfl
  obtain ⟨⟨last, hclears, hleft, -⟩, top, md, -, -, -, -, ⟨hallow, hrelisted, hfree, -⟩, -⟩ :=
    finalizers_edited hshaped hitems (.str "own")
  exact ⟨⟨last, hclears, hleft⟩, top, md, hallow, hrelisted, hfree⟩

end Body

end OperatorCore
