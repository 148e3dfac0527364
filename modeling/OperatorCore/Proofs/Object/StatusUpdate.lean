import OperatorCore.Proofs.Diff.Fieldwise
import OperatorCore.Proofs.Object.Finalizers

/-!
# The default update of the status

The update puts the status into the body and keeps the finalizer. If the fault that
it is given has a message, it is answered, and the answer says whether the body
differs from the one before. It is the difference that decides, and not what was
done: a finalizer that was added makes one, so where there is none the finalizer was
there.

What has become of the finalizer is counted. Others may have put it there several
times, and a removal takes all of them.
-/

namespace OperatorCore

variable {ω : Type}

namespace Value

theorem length_normalItems (items : List Value) :
    (normalItems items).length = items.length := by
  induction items with
  | nil => rfl
  | cons v rest ih => rw [normalItems, List.length_cons, List.length_cons, ih]

/-- Equal lists are equally long. -/
theorem length_of_equal {a b : List Value} (h : (Value.arr a).equal (.arr b) = true) :
    a.length = b.length := by
  rw [equal_iff, normal, normal, Value.arr.injEq] at h
  rw [← length_normalItems a, h, length_normalItems]

end Value

theorem Diff.equal_of_walk_arr {scope : Scope} {path : List String} {items : List Value}
    {b : Value} (h : walk scope path (.arr items) b = []) :
    (Value.arr items).equal b = true := by
  have hwalk : walk scope path (.arr items) b =
      if (Value.arr items).equal b then [] else [DiffItem.whole path (.arr items) b] := by
    rw [walk]
    intro fields h
    cases h
  rw [hwalk] at h
  split at h
  · next hequal => exact hequal
  · cases h

namespace Body

/-- How often a finalizer is among those of an object. -/
def occurrences (finalizer body : Value) : Nat :=
  match finalizers body with
  | .ok (.arr items) => items.countP fun item => item.equal finalizer
  | _ => 0

/-- The finalizers of an object are a list, if there are any. -/
def Listed (body : Value) : Prop := ∃ items, finalizers body = .ok (.arr items)

theorem Listed.shaped {body : Value} (h : Listed body) :
    ∃ top md items, Shaped body top md ∧
      Fields.get? md "finalizers" = Option.map .arr items := by
  obtain ⟨list, hlist⟩ := h
  rw [finalizers] at hlist
  cases hm : metadata body with
  | error e =>
      rw [hm] at hlist
      cases hlist
  | ok v =>
      rw [hm] at hlist
      cases v with
      | obj md =>
          obtain ⟨top, hs⟩ := shaped_of_metadata hm
          have hget : (Fields.get? md "finalizers").getD (.arr []) = .arr list :=
            Except.ok.inj hlist
          cases hf : Fields.get? md "finalizers" with
          | none => exact ⟨top, md, none, hs, hf⟩
          | some v =>
              rw [hf, Option.getD_some] at hget
              exact ⟨top, md, some list, hs, by rw [hf, hget]; rfl⟩
      | _ => cases hlist

section Shaped

variable {body : Value} {top md : Fields} {items : Option (List Value)}

theorem Shaped.finalizers_items (h : Shaped body top md)
    (hitems : Fields.get? md "finalizers" = items.map .arr) :
    Body.finalizers body = .ok (.arr (items.getD [])) := by
  rw [h.finalizers, hitems]
  cases items <;> rfl

theorem Shaped.occurrences (h : Shaped body top md)
    (hitems : Fields.get? md "finalizers" = items.map .arr) (finalizer : Value) :
    Body.occurrences finalizer body =
      (items.getD []).countP fun item => item.equal finalizer := by
  rw [Body.occurrences, h.finalizers_items hitems]

end Shaped

theorem Listed.isDeletionOngoing {body : Value} (h : Listed body) :
    ∃ deleting, Body.isDeletionOngoing body = .ok deleting := by
  obtain ⟨top, md, items, hshaped, -⟩ := h.shaped
  exact ⟨_, hshaped.isDeletionOngoing⟩

section Kept

variable {finalizer : Value} (hfinalizer : finalizer.isNull = false)

include hfinalizer

/-- A living object loses none of its finalizers. -/
theorem countP_kept_living (passed : Bool) (items : Option (List Value)) :
    let count := fun list : List Value => list.countP fun item => item.equal finalizer
    count (items.getD []) ≤ count ((kept finalizer false passed items).getD []) ∧
      0 < count ((kept finalizer false passed items).getD []) := by
  intro count
  simp only [kept, hfinalizer, Bool.false_eq_true, if_false, Bool.not_false, if_true]
  cases hin : finalizer.isIn (items.getD []) with
  | true =>
      rw [if_pos rfl]
      exact ⟨Nat.le_refl _, Value.isIn_iff_countP_pos.1 hin⟩
  | false =>
      have hcount : count (items.getD [] ++ [finalizer]) = count (items.getD []) + 1 := by
        show List.countP _ (_ ++ [_]) = _
        rw [List.countP_append, List.countP_singleton, if_pos (Value.equal_refl _)]
      rw [if_neg Bool.false_ne_true, Option.getD_some, hcount]
      exact ⟨Nat.le_succ _, Nat.succ_pos _⟩

/-- Where a deletion has passed, what is left are the other finalizers. -/
theorem getD_kept_passed (items : Option (List Value)) :
    (kept finalizer true true items).getD [] =
      (items.getD []).filter fun item => !item.equal finalizer := by
  simp only [kept, hfinalizer, Bool.false_eq_true, if_false, Bool.not_true, if_true]
  cases items with
  | none => rfl
  | some list =>
      rw [Option.map_some, Option.getD_some, ← eraseEach_eq_filter]
      cases eraseEach finalizer list <;> rfl

/-- Nothing is left of the finalizer then. -/
theorem countP_kept_passed (items : Option (List Value)) :
    ((kept finalizer true true items).getD []).countP
      (fun item => item.equal finalizer) = 0 := by
  rw [getD_kept_passed hfinalizer, List.countP_eq_zero]
  intro item hitem
  rw [List.mem_filter, Bool.not_eq_true'] at hitem
  rw [hitem.2]
  exact Bool.false_ne_true

end Kept

theorem kept_failed (finalizer : Value) (items : Option (List Value)) :
    kept finalizer true false items = items := by
  simp only [kept, Bool.not_true, Bool.false_eq_true, if_false, ite_self]

/-- If two objects do not differ, their metadata do not in any field. -/
theorem Shaped.walk_metadata {body body' : Value} {top md top' md' : Fields}
    (h : Shaped body top md) (h' : Shaped body' top' md')
    (hsame : diff .full body body' = []) (key : String) :
    Diff.walk .full (["metadata"] ++ [key]) (Fields.getD md key)
      (Fields.getD md' key) = [] := by
  rw [h.body_eq, h'.body_eq, diff, Diff.walk_obj_eq_nil_iff] at hsame
  have hwalk := hsame "metadata"
  have hmeta := h.meta_eq
  have hmeta' := h'.meta_eq
  rw [Fields.getD, Fields.getD] at hwalk
  cases ht : Fields.get? top "metadata" with
  | none =>
      rw [ht, Option.getD_none] at hwalk hmeta
      rw [Diff.walk_null_eq_nil_iff] at hwalk
      cases ht' : Fields.get? top' "metadata" with
      | none =>
          rw [ht', Option.getD_none] at hmeta'
          cases hmeta
          cases hmeta'
          rfl
      | some v =>
          rw [ht', Option.getD_some] at hwalk hmeta'
          rw [hmeta'] at hwalk
          cases hwalk
  | some v =>
      rw [ht, Option.getD_some] at hwalk hmeta
      rw [hmeta] at hwalk
      cases ht' : Fields.get? top' "metadata" with
      | none =>
          rw [ht', Option.getD_none, Diff.walk] at hwalk
          · cases hwalk
          · intro fields hnull
            cases hnull
      | some v' =>
          rw [ht', Option.getD_some] at hwalk hmeta'
          rw [hmeta', List.nil_append, Diff.walk_obj_eq_nil_iff] at hwalk
          exact hwalk key

/-- If two objects do not differ, they have equally many finalizers. -/
theorem Shaped.length_of_same {body body' : Value} {top md top' md' : Fields}
    {items items' : Option (List Value)} (h : Shaped body top md)
    (hitems : Fields.get? md "finalizers" = items.map .arr) (h' : Shaped body' top' md')
    (hitems' : Fields.get? md' "finalizers" = items'.map .arr)
    (hsame : diff .full body body' = []) : (items'.getD []).length = (items.getD []).length := by
  have hwalk := h.walk_metadata h' hsame "finalizers"
  rw [Fields.getD, Fields.getD, hitems, hitems'] at hwalk
  cases items with
  | none =>
      rw [Option.map_none, Option.getD_none, Diff.walk_null_eq_nil_iff] at hwalk
      cases items' with
      | none => rfl
      | some list => cases hwalk
  | some list =>
      have hequal := Diff.equal_of_walk_arr hwalk
      cases items' with
      | none =>
          rw [Value.equal_iff] at hequal
          cases hequal
      | some list' => exact (Value.length_of_equal hequal).symm

section Same

variable {body body' : Value} {top md top₁ top' md' : Fields} {items : Option (List Value)}
  {finalizer : Value}

/-- Where nothing differs after all, the finalizer of a living object was there. -/
theorem Shaped.occurs_of_same {passed : Bool} (h : Shaped body top md)
    (hitems : Fields.get? md "finalizers" = items.map .arr)
    (hfinalizer : finalizer.isNull = false)
    (hkept : Refinalized top₁ md ((kept finalizer false passed items).map .arr) body' top'
      md')
    (hsame : diff .full body body' = []) : 0 < Body.occurrences finalizer body := by
  rw [h.occurrences hitems]
  cases hin : finalizer.isIn (items.getD []) with
  | true => exact Value.isIn_iff_countP_pos.1 hin
  | false =>
      have hadded : kept finalizer false passed items =
          some (items.getD [] ++ [finalizer]) := by
        simp only [kept, hfinalizer, hin, Bool.false_eq_true, if_false, Bool.not_false,
          if_true]
      have hlength := h.length_of_same hitems hkept.shaped (hkept.meta_eq "finalizers") hsame
      rw [hadded, Option.getD_some, List.length_append, List.length_singleton] at hlength
      omega

/-- Nor was there anything to remove from an object whose deletion has passed. -/
theorem Shaped.absent_of_same (h : Shaped body top md)
    (hitems : Fields.get? md "finalizers" = items.map .arr)
    (hfinalizer : finalizer.isNull = false)
    (hkept : Refinalized top₁ md ((kept finalizer true true items).map .arr) body' top' md')
    (hsame : diff .full body body' = []) : Body.occurrences finalizer body = 0 := by
  have hlength := h.length_of_same hitems hkept.shaped (hkept.meta_eq "finalizers") hsame
  rw [getD_kept_passed hfinalizer, List.length_filter_eq_length_iff] at hlength
  rw [h.occurrences hitems, List.countP_eq_zero]
  intro item hitem hequal
  have hother := hlength item hitem
  rw [hequal] at hother
  cases hother

end Same

section Metadata

/-! What is read from the metadata is the same where they are. -/

variable {body body' : Value} (h : metadata body' = metadata body)

include h

theorem finalizers_congr : finalizers body' = finalizers body := by
  rw [finalizers, finalizers, h]

theorem isDeletionOngoing_congr : isDeletionOngoing body' = isDeletionOngoing body := by
  rw [isDeletionOngoing, isDeletionOngoing, deletionMark, deletionMark, h]

theorem occurrences_congr (finalizer : Value) :
    occurrences finalizer body' = occurrences finalizer body := by
  rw [occurrences, occurrences, finalizers_congr h]

theorem labels_congr : labels body' = labels body := by
  rw [labels, labels, h]

theorem version_congr : version body' = version body := by
  rw [version, version, resourceVersion, resourceVersion, h]

end Metadata

/-- A body has become another one by an update of the status after a pass that has
passed without a fault or not. -/
structure Tended (finalizer : Value) (passed : Bool) (old new : Value) : Prop where
  listed : Listed new
  labels : Body.labels new = Body.labels old
  version : Body.version new = Body.version old
  /-- The finalizer is there, and no less often than before. -/
  living : isDeletionOngoing old = .ok false →
    occurrences finalizer old ≤ occurrences finalizer new ∧
      0 < occurrences finalizer new
  /-- Nothing is left of the finalizer. -/
  removed : isDeletionOngoing old = .ok true → passed = true →
    occurrences finalizer new = 0
  /-- The finalizer is left alone. -/
  blocked : isDeletionOngoing old = .ok true → passed = false →
    occurrences finalizer new = occurrences finalizer old

theorem Tended.of_metadata {finalizer : Value} {passed : Bool} {old old' new : Value}
    (h : Tended finalizer passed old' new) (hmeta : metadata old' = metadata old) :
    Tended finalizer passed old new := by
  obtain ⟨hlisted, hlabels, hversion, hliving, hremoved, hblocked⟩ := h
  rw [labels_congr hmeta] at hlabels
  rw [version_congr hmeta] at hversion
  rw [isDeletionOngoing_congr hmeta, occurrences_congr hmeta] at hliving hblocked
  rw [isDeletionOngoing_congr hmeta] at hremoved
  exact ⟨hlisted, hlabels, hversion, hliving, hremoved, hblocked⟩

theorem Shaped.tended {body body' : Value} {top md top₁ top' md' : Fields}
    {items : Option (List Value)} {finalizer : Value} {passed : Bool}
    (h : Shaped body top md) (hitems : Fields.get? md "finalizers" = items.map .arr)
    (hfinalizer : finalizer.isNull = false)
    (hkept : Refinalized top₁ md
      ((kept finalizer (!((Fields.get? md "deletionTimestamp").getD .null).isNull) passed
        items).map .arr) body' top' md') : Tended finalizer passed body body' := by
  have hlist := hkept.meta_eq "finalizers"
  rw [if_pos rfl] at hlist
  have hfield : ∀ key, key ≠ "finalizers" → Fields.get? md' key = Fields.get? md key := by
    intro key hkey
    rw [hkept.meta_eq, if_neg hkey]
  have hongoing : ∀ deleting, Body.isDeletionOngoing body = .ok deleting →
      (!((Fields.get? md "deletionTimestamp").getD .null).isNull) = deleting := by
    intro deleting hdeleting
    rw [h.isDeletionOngoing] at hdeleting
    exact Except.ok.inj hdeleting
  refine ⟨⟨_, hkept.shaped.finalizers_items hlist⟩, ?_, ?_, ?_, ?_, ?_⟩
  · rw [hkept.shaped.labels, h.labels, hfield "labels" (by decide)]
  · rw [Body.version, Body.version, hkept.shaped.resourceVersion, h.resourceVersion,
      hfield "resourceVersion" (by decide)]
  · intro hdeleting
    rw [h.occurrences hitems, hkept.shaped.occurrences hlist, hongoing _ hdeleting]
    exact countP_kept_living hfinalizer passed items
  · rintro hdeleting rfl
    rw [hkept.shaped.occurrences hlist, hongoing _ hdeleting]
    exact countP_kept_passed hfinalizer items
  · rintro hdeleting rfl
    rw [h.occurrences hitems, hkept.shaped.occurrences hlist, hongoing _ hdeleting,
      kept_failed]

theorem Identified.finalizers_versioned {body : Value} (h : Identified body) {v : Value}
    (hv : v.isNull = false) :
    finalizers (Body.versioned v body) = finalizers body := by
  obtain ⟨top, md, hs⟩ := identified_iff_shaped.1 h
  rw [hs.versioned hv, hs.finalizers, (Shaped.put _ _).finalizers, Fields.get?_put,
    if_neg (by decide)]

/-- What the store makes of it does not matter. -/
theorem Tended.versioned {finalizer : Value} {passed : Bool} {old new : Value}
    (h : Tended finalizer passed old new) (hnew : Identified new) {v : Value}
    (hv : v.isNull = false) :
    Listed (Body.versioned v new) ∧
    Body.labels (Body.versioned v new) = Body.labels old ∧
    occurrences finalizer (Body.versioned v new) = occurrences finalizer new := by
  refine ⟨?_, ?_, ?_⟩
  · rw [Listed, hnew.finalizers_versioned hv]
    exact h.listed
  · rw [hnew.labels_versioned hv, h.labels]
  · rw [occurrences, occurrences, hnew.finalizers_versioned hv]

theorem Shaped.put_status {body : Value} {top md : Fields} (h : Shaped body top md)
    (status : Value) :
    Shaped (.obj (Fields.put top "status" status)) (Fields.put top "status" status) md := by
  refine ⟨rfl, ?_⟩
  rw [Fields.get?_put, if_neg (by decide)]
  exact h.meta_eq

end Body

namespace Resource

theorem statusOf_told (status : Value) {fault : Option Fault}
    (h : ∀ f, fault = some f → ∃ text, f.message = .ok text) :
    ∃ stored, statusOf status fault = .ok stored := by
  cases fault with
  | none => exact ⟨_, rfl⟩
  | some f =>
      obtain ⟨text, htext⟩ := h f rfl
      simp only [statusOf, htext]
      exact ⟨_, rfl⟩

theorem run_change {f : Value → Except Fault Value} {desk : Desk ω} {body : Value}
    (h : f desk.resource = .ok body) :
    (change f).run desk = (.ok (), { desk with resource := body }) := by
  simp only [change, Attempt.run_bind, Attempt.run_read, Attempt.run_liftM, h,
    Attempt.run_modify]

theorem run_change_error {f : Value → Except Fault Value} {desk : Desk ω} {e : Fault}
    (h : f desk.resource = .error e) : (change f).run desk = (.error e, desk) := by
  simp only [change, Attempt.run_bind, Attempt.run_read, Attempt.run_liftM, h]

section Run

variable (finalizer : Value) {fault : Option Fault} {desk : Desk ω} {top md : Fields}
  {status : Value} (h : Body.Shaped desk.resource top md)
  (hstatus : statusOf desk.status fault = .ok status)
include h hstatus

theorem run_assign :
    (change fun body => do body.assign "status" (← statusOf desk.status fault)).run desk =
      (.ok (), { desk with resource := .obj (Fields.put top "status" status) }) := by
  refine run_change ?_
  rw [hstatus, h.body_eq]
  rfl

/-- What the default update makes of a body: the status is put into it, and the
finalizers are kept. -/
theorem run_updateStatus {field : Option Value}
    (hfield : Body.keptField finalizer
      (!((Fields.get? md "deletionTimestamp").getD .null).isNull) fault.isNone
      (Fields.get? md "finalizers") = .ok field) :
    (updateStatus finalizer fault).run desk =
      (.ok !(diff .full desk.resource
          (.obj (Body.refinalize (Fields.put top "status" status) md field))).isEmpty,
        { desk with
          resource := .obj (Body.refinalize (Fields.put top "status" status) md field) }) := by
  have hkeep := keepFinalizer_eq (h.put_status status) finalizer fault
  rw [hfield] at hkeep
  have hchange := @run_change ω _
    { desk with resource := .obj (Fields.put top "status" status) } _ hkeep
  simp only [updateStatus, Attempt.run_bind, Attempt.run_state, run_assign h hstatus, hchange,
    Attempt.run_read, Attempt.run_pure]

end Run

/-- Of a body with a list of finalizers, if any, the update is answered, and what it
makes of the finalizers follows from the deletion mark and the fault. If it sees no
difference, the finalizer was there already, or had gone already. -/
theorem updateStatus_tends {finalizer : Value} (hfinalizer : finalizer.isNull = false)
    {fault : Option Fault} {desk : Desk ω} (hlisted : Body.Listed desk.resource)
    (htold : ∀ f, fault = some f → ∃ text, f.message = .ok text) :
    ∃ changed body',
      (updateStatus finalizer fault).run desk =
        (.ok changed, { desk with resource := body' }) ∧
      Body.Tended finalizer fault.isNone desk.resource body' ∧
      (changed = false →
        (Body.isDeletionOngoing desk.resource = .ok false →
          0 < Body.occurrences finalizer desk.resource) ∧
        (Body.isDeletionOngoing desk.resource = .ok true → fault = none →
          Body.occurrences finalizer desk.resource = 0)) := by
  obtain ⟨status, hstatus⟩ := statusOf_told desk.status htold
  obtain ⟨top, md, items, hshaped, hitems⟩ := hlisted.shaped
  have hfield := Body.keptField_items finalizer
    (!((Fields.get? md "deletionTimestamp").getD .null).isNull) fault.isNone items
  rw [← hitems] at hfield
  have hkept := (hshaped.put_status status).refinalized
    ((Body.kept finalizer (!((Fields.get? md "deletionTimestamp").getD .null).isNull)
      fault.isNone items).map .arr)
  refine ⟨_, _, run_updateStatus finalizer hshaped hstatus hfield,
    hshaped.tended hitems hfinalizer hkept, ?_⟩
  intro hsame
  rw [Bool.not_eq_false', List.isEmpty_iff] at hsame
  rw [hshaped.isDeletionOngoing]
  constructor
  · intro hdeleting
    rw [Except.ok.inj hdeleting] at hkept hsame
    exact hshaped.occurs_of_same hitems hfinalizer hkept hsame
  · rintro hdeleting rfl
    rw [Except.ok.inj hdeleting] at hkept hsame
    exact hshaped.absent_of_same hitems hfinalizer hkept hsame

end Resource

end OperatorCore
