import OperatorCore.Proofs.Diff.Exactness

/-!
# A scope is a filter of the full difference

A scope decides at each level of the walk which keys are compared. What is passed over
so is a field that one side has and the other one has not, and such a field is told by
one item: there is nothing on the other side to descend into. So it comes to the same
to walk over all fields and to drop single items afterwards, and an item is dropped by
the look of its own path: the last key is absent from the object on the side that the
item adds to, or removes from.

A value to which fields are added in this sense has no difference from the old one, if
the fields that are new do not count.
-/

namespace OperatorCore

/-- The last key of the path is absent from the object that it is looked up in. -/
def Value.lacks (v : Value) (path : List String) : Bool :=
  match path.getLast?, v.atPath path.dropLast with
  | some key, .obj fields => !Fields.has fields key
  | _, _ => false

/-- The item counts in a scope. To add a field that the left side lacks, the own fields of
the right side have to count, and to remove one that the right side lacks, those of the
left side. -/
def DiffItem.counts (item : DiffItem) (scope : Scope) (a b : Value) : Bool :=
  match item.op with
  | .add => scope.right || !a.lacks item.path
  | .remove => scope.left || !b.lacks item.path
  | .change => true

namespace Value

@[simp] theorem lacks_nil (v : Value) : v.lacks [] = false := rfl

theorem lacks_singleton (fields : Fields) (key : String) :
    (Value.obj fields).lacks [key] = !Fields.has fields key := rfl

/-- A field that is there is looked into. -/
theorem lacks_cons {fields : Fields} {key : String} (h : Fields.has fields key = true)
    (path : List String) :
    (Value.obj fields).lacks (key :: path) = (Fields.getD fields key).lacks path := by
  cases path with
  | nil => rw [lacks_singleton, h, lacks_nil, Bool.not_true]
  | cons next rest => rfl

/-- The second value is the first one with fields added to its objects, at any depth but
not inside of lists. -/
inductive Grown : Value → Value → Prop where
  | same {a b : Value} : a.equal b = true → Grown a b
  | obj {a b : Fields} : (∀ key, Fields.has a key = true → Fields.has b key = true) →
      (∀ key, Fields.has a key = true →
        Grown (Fields.getD a key) (Fields.getD b key)) →
      Grown (.obj a) (.obj b)

end Value

/-! ## What is on one side alone -/

theorem diff_null_left (scope : Scope) (v : Value) :
    diff scope .null v = if v.isNull then [] else [⟨.add, [], .null, v⟩] :=
  Diff.walk_null scope [] v

theorem diff_null_right (scope : Scope) (v : Value) :
    diff scope v .null = if v.isNull then [] else [⟨.remove, [], v, .null⟩] := by
  cases hv : v.isNull with
  | true =>
      rw [Value.isNull_iff.1 hv]
      exact Diff.walk_of_equal scope [] (Value.equal_refl _)
  | false =>
      have hequal : v.equal .null = false := by
        rw [← Bool.not_eq_true]
        intro h
        rw [Value.null_equal_iff.1 (Value.equal_symm h)] at hv
        cases hv
      have hobj : ¬ ∃ fields others, v = .obj fields ∧ Value.null = .obj others := by
        rintro ⟨_, _, -, hnull⟩
        cases hnull
      rw [diff_whole hequal hobj scope, DiffItem.whole, hv]
      rfl

/-- An item of a field counts among those of the object if the field does and the item
does in the field. -/
theorem counts_below {a b : Fields} {key : String} {item : DiffItem}
    (h : item ∈ diff .full (Fields.getD a key) (Fields.getD b key)) (scope : Scope) :
    (item.below [key]).counts scope (.obj a) (.obj b) =
      (scope.selects (Fields.has a key) (Fields.has b key) &&
        item.counts scope (Fields.getD a key) (Fields.getD b key)) := by
  cases ha : Fields.has a key with
  | true =>
      cases hb : Fields.has b key with
      | true =>
          simp only [DiffItem.counts, DiffItem.below, List.singleton_append,
            Value.lacks_cons ha, Value.lacks_cons hb, Scope.selects, Bool.and_self,
            Bool.true_or, Bool.true_and]
      | false =>
          rw [Fields.getD_of_not_has hb, diff_null_right] at h
          split at h
          · cases h
          · obtain rfl := List.mem_singleton.1 h
            simp [DiffItem.counts, DiffItem.below, Value.lacks_singleton, hb,
              Scope.selects]
  | false =>
      rw [Fields.getD_of_not_has ha, diff_null_left] at h
      split at h
      · cases h
      · next hnull =>
          obtain rfl := List.mem_singleton.1 h
          have hb : Fields.has b key = true := by
            rw [← Bool.not_eq_false]
            intro hb
            rw [Fields.getD_of_not_has hb] at hnull
            exact hnull rfl
          simp [DiffItem.counts, DiffItem.below, Value.lacks_singleton, ha, hb,
            Scope.selects]

theorem Diff.keys_eq_filter (scope : Scope) (a b : Fields) :
    keys scope a b = (keys .full a b).filter fun key =>
      scope.selects (Fields.has a key) (Fields.has b key) := by
  rw [keys, keys, List.filter_filter]
  refine List.filter_congr ?_
  intro key _
  cases Fields.has a key <;> cases Fields.has b key <;> simp [Scope.selects, Scope.full]

theorem flatMap_of_filter {β : Type} (keys : List String) (p : String → Bool)
    (f : String → List β) :
    (keys.filter p).flatMap f = keys.flatMap fun key => if p key then f key else [] := by
  induction keys with
  | nil => rfl
  | cons key rest ih =>
      rw [List.filter_cons, List.flatMap_cons, ← ih]
      cases p key with
      | true => rfl
      | false => rfl

theorem diff_eq_filter (scope : Scope) (a b : Value) :
    diff scope a b = (diff .full a b).filter fun item => item.counts scope a b := by
  induction a, b using Diff.induction with
  | same a b hequal =>
      rw [diff, diff, Diff.walk_of_equal _ [] hequal, Diff.walk_of_equal _ [] hequal]
      rfl
  | whole a b hequal hobj =>
      have hcounts : (DiffItem.whole [] a b).counts scope a b = true := by
        rw [DiffItem.counts]
        split <;> simp [DiffItem.whole]
      rw [diff_whole hequal hobj, diff_whole hequal hobj, List.filter_singleton, hcounts]
      rfl
  | fieldwise fields others ih =>
      rw [diff_obj, diff_obj, List.filter_flatMap, Diff.keys_eq_filter,
        flatMap_of_filter]
      refine List.flatMap_congr ?_
      intro key _
      have hinner : (diff .full (Fields.getD fields key) (Fields.getD others key)).filter
          ((fun item => item.counts scope (.obj fields) (.obj others)) ∘
            DiffItem.below [key]) =
          (diff .full (Fields.getD fields key) (Fields.getD others key)).filter fun item =>
            scope.selects (Fields.has fields key) (Fields.has others key) &&
              item.counts scope (Fields.getD fields key) (Fields.getD others key) :=
        List.filter_congr fun item hitem => counts_below hitem scope
      rw [List.filter_map, hinner, ih key]
      cases scope.selects (Fields.has fields key) (Fields.has others key) with
      | true => simp only [if_true, Bool.true_and]
      | false =>
          simp only [Bool.false_eq_true, if_false, Bool.false_and, List.filter_false,
            List.map_nil]

theorem diff_leftOnly_of_grown {a b : Value} (h : a.Grown b) :
    diff .leftOnly a b = [] := by
  induction h with
  | same hequal => exact Diff.walk_of_equal _ [] hequal
  | obj hkeys _ ih =>
      rw [diff_obj, List.flatMap_eq_nil_iff]
      intro key hkey
      rw [List.map_eq_nil_iff]
      refine ih key ?_
      rw [Diff.mem_keys_iff] at hkey
      cases ha : Fields.has _ key with
      | true => rfl
      | false => simp [Scope.selects, Scope.leftOnly, ha] at hkey

/-- In each scope there are those items of the full difference that count in it, in their
order. A value that has only grown has no difference where the own fields of the right
side do not count. -/
theorem diff_scoped (scope : Scope) (a b : Value) :
    diff scope a b = (diff .full a b).filter (fun item => item.counts scope a b) ∧
    (a.Grown b → diff .leftOnly a b = []) :=
  ⟨diff_eq_filter scope a b, diff_leftOnly_of_grown⟩

/-- What a server adds by default is told in the full scope alone. -/
theorem diff_scoped_of_defaults :
    let declared : Value := .obj [("spec", .obj [("replicas", .int 2)])]
    let stored : Value := .obj [("kind", .str "Set"),
      ("spec", .obj [("paused", .bool false), ("replicas", .int 2)])]
    declared.Grown stored ∧
    diff .full declared stored =
      [⟨.add, ["kind"], .null, .str "Set"⟩,
        ⟨.add, ["spec", "paused"], .null, .bool false⟩] ∧
    diff .leftOnly declared stored = [] := by
  intro declared stored
  have honly : ∀ {k key : String} {v : Value}, Fields.has [(k, v)] key = true → key = k := by
    intro k key v h
    rw [← Fields.mem_keys_iff] at h
    exact List.mem_singleton.1 h
  have hspec : (Value.obj [("replicas", .int 2)]).Grown
      (.obj [("paused", .bool false), ("replicas", .int 2)]) := by
    refine .obj (fun key h => ?_) (fun key h => ?_) <;> obtain rfl := honly h
    · rfl
    · exact .same rfl
  have hgrown : declared.Grown stored := by
    refine .obj (fun key h => ?_) (fun key h => ?_) <;> obtain rfl := honly h
    · rfl
    · exact hspec
  exact ⟨hgrown, by decide +kernel, (diff_scoped .leftOnly declared stored).2 hgrown⟩

end OperatorCore
