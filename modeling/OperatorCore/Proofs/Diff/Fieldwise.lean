import Mathlib.Data.List.Basic
import OperatorCore.Diff.Basic

/-!
# Differences field by field

The differences of two objects are those of their fields, key by key in ascending
order, an absent field being null (`Diff.walk_obj`). The definition walks over
sorted lists of pairs and stops early at equal objects; here it is said by the
fields alone, so that what an operation has done to single fields is enough to
know whether there is a difference. With it come the three cases of all
inductions over differences (`Diff.induction`): the values are equal, they differ
as a whole, or both are objects.

A sorted list of pairs holds what the list that it was made of gives first for
each key. Of that, the statements about the normal form and about the walk are
both special cases.
-/

namespace OperatorCore

variable {α : Type}

namespace Sorted

theorem lookup_cons (key k : String) (v : α) (rest : List (String × α)) :
    ((k, v) :: rest).lookup key = if k = key then some v else rest.lookup key := by
  rw [List.lookup_cons]
  by_cases h : k = key
  · rw [if_pos h, h, beq_self_eq_true]
  · rw [if_neg h, beq_false_of_ne (Ne.symm h)]

theorem lookup_insert (key key' : String) (value : α) (pairs : List (String × α)) :
    (insert key value pairs).lookup key' =
      if key = key' then some value else pairs.lookup key' := by
  induction pairs with
  | nil => rw [insert, lookup_cons]
  | cons p rest ih =>
      obtain ⟨k, v⟩ := p
      rw [insert]
      split
      · rw [lookup_cons]
      · split
        · next heq =>
            rw [lookup_cons, lookup_cons, ← heq]
            split <;> rfl
        · next hne =>
            rw [lookup_cons, lookup_cons, ih]
            by_cases h : key = key'
            · rw [if_pos h, if_pos h, if_neg fun hk => hne (h.trans hk.symm)]
            · rw [if_neg h, if_neg h]

theorem lookup_ofPairs (key : String) (pairs : List (String × α)) :
    (ofPairs pairs).lookup key = pairs.lookup key := by
  induction pairs with
  | nil => rfl
  | cons p rest ih =>
      obtain ⟨k, v⟩ := p
      rw [ofPairs, lookup_insert, lookup_cons, ih]

theorem lookup_map {β : Type} (f : α → β) (pairs : List (String × α)) (key : String) :
    (pairs.map (Prod.map id f)).lookup key = (pairs.lookup key).map f := by
  induction pairs with
  | nil => rfl
  | cons p rest ih =>
      obtain ⟨k, v⟩ := p
      rw [List.map_cons, Prod.map_apply, id_eq, lookup_cons, lookup_cons, ih]
      split <;> rfl

theorem mem_iff_lookup {pairs : List (String × α)}
    (h : (pairs.map Prod.fst).Pairwise (· < ·)) {key : String} {value : α} :
    (key, value) ∈ pairs ↔ pairs.lookup key = some value := by
  induction pairs with
  | nil => simp
  | cons p rest ih =>
      obtain ⟨k, v⟩ := p
      obtain ⟨hfirst, hrest⟩ := List.pairwise_cons.1 h
      rw [lookup_cons, List.mem_cons, Prod.mk.injEq]
      by_cases hk : k = key
      · rw [if_pos hk, Option.some.injEq]
        constructor
        · rintro (⟨-, rfl⟩ | hmem)
          · rfl
          · have hlt := hfirst key (List.mem_map_of_mem hmem)
            rw [← hk] at hlt
            exact absurd hlt (String.lt_irrefl k)
        · rintro rfl
          exact .inl ⟨hk.symm, rfl⟩
      · rw [if_neg hk, ← ih hrest]
        constructor
        · rintro (⟨hkey, -⟩ | hmem)
          · exact absurd hkey.symm hk
          · exact hmem
        · exact .inr

theorem mem_keys_iff_lookup {pairs : List (String × α)} {key : String} :
    key ∈ pairs.map Prod.fst ↔ (pairs.lookup key).isSome = true := by
  induction pairs with
  | nil => simp
  | cons p rest ih =>
      obtain ⟨k, v⟩ := p
      rw [lookup_cons, List.map_cons, List.mem_cons, ih]
      by_cases hk : k = key
      · simp [hk]
      · simp [hk, Ne.symm hk]

/-- There is one way to put some items into the ascending order of their keys. -/
theorem eq_of_mem_iff {β : Type} {f : β → String} {a b : List β}
    (ha : (a.map f).Pairwise (· < ·)) (hb : (b.map f).Pairwise (· < ·))
    (h : ∀ x, x ∈ a ↔ x ∈ b) : a = b := by
  have hnodup : ∀ {l : List β}, (l.map f).Pairwise (· < ·) → l.Nodup := by
    intro l hl
    refine (List.pairwise_map.1 hl).imp ?_
    rintro x y hlt rfl
    exact String.lt_irrefl (f x) hlt
  have hperm : a.Perm b := (List.perm_ext_iff_of_nodup (hnodup ha) (hnodup hb)).2 h
  refine hperm.eq_of_pairwise ?_ (List.pairwise_map.1 ha) (List.pairwise_map.1 hb)
  intro x y _ _ hxy hyx
  exact absurd (String.lt_trans hxy hyx) (String.lt_irrefl (f x))

/-- Of ascending keys, the one that has something to give is met once. -/
theorem flatMap_of_mem {β : Type} {keys : List String} (h : keys.Pairwise (· < ·))
    {key : String} (hmem : key ∈ keys) {f : String → List β}
    (hf : ∀ k ∈ keys, k ≠ key → f k = []) : keys.flatMap f = f key := by
  induction keys with
  | nil => cases hmem
  | cons k rest ih =>
      obtain ⟨hfirst, hrest⟩ := List.pairwise_cons.1 h
      obtain ⟨hk, hf⟩ := List.forall_mem_cons.1 hf
      rw [List.flatMap_cons]
      by_cases heq : k = key
      · subst heq
        have hnil : rest.flatMap f = [] := by
          rw [List.flatMap_eq_nil_iff]
          intro k' hk'
          refine hf k' hk' ?_
          rintro rfl
          exact String.lt_irrefl k' (hfirst k' hk')
        rw [hnil, List.append_nil]
      · rw [hk heq, List.nil_append]
        exact ih hrest ((List.mem_cons.1 hmem).resolve_left (Ne.symm heq)) hf

/-- A sorted list of pairs is determined by what it holds. -/
theorem eq_of_lookup {a b : List (String × α)} (ha : (a.map Prod.fst).Pairwise (· < ·))
    (hb : (b.map Prod.fst).Pairwise (· < ·))
    (h : ∀ key, a.lookup key = b.lookup key) : a = b := by
  refine eq_of_mem_iff ha hb ?_
  rintro ⟨key, value⟩
  rw [mem_iff_lookup ha, mem_iff_lookup hb, h]

/-- What is found decides on the sorted pairs. -/
theorem ofPairs_eq_iff {a b : List (String × α)} :
    ofPairs a = ofPairs b ↔ ∀ key, a.lookup key = b.lookup key := by
  constructor
  · intro h key
    rw [← lookup_ofPairs, h, lookup_ofPairs]
  · intro h
    refine eq_of_lookup (pairwise_ofPairs _) (pairwise_ofPairs _) fun key => ?_
    rw [lookup_ofPairs, lookup_ofPairs, h]

end Sorted

theorem Fields.get?_eq_lookup (fields : Fields) (key : String) :
    Fields.get? fields key = fields.lookup key := by
  induction fields with
  | nil => rfl
  | cons p rest ih =>
      obtain ⟨k, v⟩ := p
      rw [Fields.get?, Sorted.lookup_cons, ih]

/-- Sorting the fields, each with its value changed by a function, does not change what is
found. -/
theorem Fields.get?_ofPairs_map (f : Value → Value) (fields : Fields) (key : String) :
    Fields.get? (Sorted.ofPairs (fields.map (Prod.map id f))) key =
      (Fields.get? fields key).map f := by
  rw [Fields.get?_eq_lookup, Sorted.lookup_ofPairs, Sorted.lookup_map, Fields.get?_eq_lookup]

/-- What is found decides on the sorted fields. -/
theorem Fields.ofPairs_map_eq_iff {f : Value → Value} {a b : Fields} :
    Sorted.ofPairs (a.map (Prod.map id f)) = Sorted.ofPairs (b.map (Prod.map id f)) ↔
      ∀ key, (Fields.get? a key).map f = (Fields.get? b key).map f := by
  simp only [Sorted.ofPairs_eq_iff, Sorted.lookup_map, Fields.get?_eq_lookup]

theorem Fields.mem_keys_iff {fields : Fields} {key : String} :
    key ∈ fields.map Prod.fst ↔ Fields.has fields key = true := by
  rw [Fields.has, Fields.get?_eq_lookup, Sorted.mem_keys_iff_lookup]

theorem Fields.getD_of_not_has {fields : Fields} {key : String}
    (h : Fields.has fields key = false) : Fields.getD fields key = .null := by
  rw [Fields.has, Option.isSome_eq_false_iff, Option.isNone_iff_eq_none] at h
  rw [Fields.getD, h]
  rfl

namespace Value

theorem isNull_iff {v : Value} : v.isNull = true ↔ v = .null := by
  cases v <;> simp [isNull]

theorem sizeOf_getD_lt (fields : Fields) (key : String) :
    sizeOf (Fields.getD fields key) < sizeOf (Value.obj fields) := by
  rw [Fields.getD]
  induction fields with
  | nil => simp [Fields.get?]
  | cons p rest ih =>
      obtain ⟨k, v⟩ := p
      rw [Fields.get?]
      split
      · simp
        omega
      · simp at ih ⊢
        omega

/-- What holds of all that is no object, and of an object if it does of its fields, holds
of all values. -/
theorem induction {P : Value → Prop} (leaf : ∀ v, (∀ fields, v ≠ .obj fields) → P v)
    (obj : ∀ fields, (∀ key, P (Fields.getD fields key)) → P (.obj fields))
    (v : Value) : P v :=
  match v with
  | .obj fields => obj fields fun key => induction leaf obj (Fields.getD fields key)
  | .null | .bool _ | .int _ | .float _ | .str _ | .arr _ => leaf _ nofun
termination_by sizeOf v
decreasing_by exact sizeOf_getD_lt fields key

theorem normalFields_eq (fields : Fields) :
    normalFields fields = Sorted.ofPairs (fields.map (Prod.map id normal)) := by
  induction fields with
  | nil => rfl
  | cons p rest ih =>
      rw [normalFields, ih, List.map_cons, Sorted.ofPairs]
      rfl

theorem get?_normalFields (fields : Fields) (key : String) :
    Fields.get? (normalFields fields) key = (Fields.get? fields key).map normal := by
  rw [normalFields_eq, Fields.get?_ofPairs_map]

/-- Equal objects have equal fields. -/
theorem equal_getD {a b : Fields} (h : (Value.obj a).equal (.obj b) = true)
    (key : String) : (Fields.getD a key).equal (Fields.getD b key) = true := by
  have hnormal : normalFields a = normalFields b := by
    have hobj := equal_iff.1 h
    simp only [normal] at hobj
    exact Value.obj.inj hobj
  have hfield : (Fields.get? a key).map normal = (Fields.get? b key).map normal := by
    rw [← get?_normalFields, hnormal, get?_normalFields]
  rw [equal_iff, Fields.getD, Fields.getD]
  cases ha : Fields.get? a key with
  | none =>
      rw [ha] at hfield
      rw [Option.map_eq_none_iff.1 hfield.symm]
  | some v =>
      rw [ha] at hfield
      obtain ⟨v', hv', hequal⟩ := Option.map_eq_some_iff.1 hfield.symm
      rw [hv']
      exact hequal.symm

theorem null_equal_iff {v : Value} : Value.null.equal v = true ↔ v.isNull = true := by
  rw [equal_iff]
  cases v with
  | null => simp [isNull]
  | float x =>
      have hnull : (Value.float x).normal ≠ .null := by
        rw [normal]
        split <;> simp
      simp only [isNull, normal, Bool.false_eq_true, iff_false]
      exact fun h => hnull h.symm
  | _ => simp [isNull, normal]

end Value

/-- Whether a field counts, given which of the sides have it. -/
def Scope.selects (scope : Scope) (onLeft onRight : Bool) : Bool :=
  onLeft && onRight || scope.left && onLeft || scope.right && onRight

namespace Diff

/-- The keys of the fields that are compared, in ascending order. -/
def keys (scope : Scope) (a b : Fields) : List String :=
  ((Sorted.ofPairs (a ++ b)).map Prod.fst).filter fun key =>
    scope.selects (Fields.has a key) (Fields.has b key)

theorem pairwise_keys (scope : Scope) (a b : Fields) :
    (keys scope a b).Pairwise (· < ·) :=
  (Sorted.pairwise_ofPairs _).filter _

theorem mem_keys_iff {scope : Scope} {a b : Fields} {key : String} :
    key ∈ keys scope a b ↔
      scope.selects (Fields.has a key) (Fields.has b key) = true := by
  rw [keys, List.mem_filter, Sorted.mem_keys_iff_lookup, Sorted.lookup_ofPairs,
    ← Sorted.mem_keys_iff_lookup, List.map_append, List.mem_append, Fields.mem_keys_iff,
    Fields.mem_keys_iff, and_iff_right_iff_imp]
  cases Fields.has a key <;> cases Fields.has b key <;> simp [Scope.selects]

/-- The keys that are compared depend on what the scope selects alone. -/
theorem keys_congr {scope scope' : Scope} {a b a' b' : Fields}
    (h : ∀ key, scope.selects (Fields.has a key) (Fields.has b key) =
      scope'.selects (Fields.has a' key) (Fields.has b' key)) :
    keys scope a b = keys scope' a' b' := by
  refine Sorted.eq_of_mem_iff (f := id) ?_ ?_ ?_
  · rw [List.map_id]
    exact pairwise_keys scope a b
  · rw [List.map_id]
    exact pairwise_keys scope' a' b'
  · intro key
    rw [mem_keys_iff, mem_keys_iff, h key]

/-- Values that are not equal differ as a whole, unless both are objects. -/
theorem walk_whole {a b : Value} (hequal : a.equal b = false)
    (h : ¬ ∃ fields others, a = .obj fields ∧ b = .obj others) (scope : Scope)
    (path : List String) : walk scope path a b = [DiffItem.whole path a b] := by
  cases a with
  | obj fields =>
      cases b with
      | obj others => exact absurd ⟨fields, others, rfl, rfl⟩ h
      | _ => simp [walk]
  | _ => simp [walk, hequal]

theorem walk_null (scope : Scope) (path : List String) (v : Value) :
    walk scope path .null v =
      if v.isNull then [] else [DiffItem.whole path .null v] := by
  split
  · next h => exact walk_of_equal scope path (Value.null_equal_iff.2 h)
  · next h =>
      refine walk_whole ?_ ?_ scope path
      · rwa [← Value.null_equal_iff, Bool.not_eq_true] at h
      · rintro ⟨_, _, hobj, -⟩
        cases hobj

theorem walk_null_eq_nil_iff (scope : Scope) (path : List String) (v : Value) :
    walk scope path .null v = [] ↔ v.isNull = true := by
  rw [walk_null]
  cases v.isNull <;> simp

theorem lookup_walkFields (scope : Scope) (path : List String) (b : Fields)
    (key : String) (a : Fields) :
    (walkFields scope path b a).lookup key =
      if scope.left || Fields.has b key then
        (Fields.get? a key).map fun v =>
          walk scope (path ++ [key]) v (Fields.getD b key)
      else none := by
  induction a with
  | nil => simp [walkFields, Fields.get?]
  | cons p rest ih =>
      obtain ⟨k, v⟩ := p
      rw [walkFields, Fields.get?]
      by_cases hk : k = key
      · subst hk
        cases hside : scope.left || Fields.has b k with
        | true => simp only [if_true, Sorted.lookup_cons, Option.map_some]
        | false => simpa only [hside, Bool.false_eq_true, if_false] using ih
      · rw [if_neg hk, ← ih]
        cases scope.left || Fields.has b k with
        | true => simp only [if_true, Sorted.lookup_cons, if_neg hk]
        | false => simp only [Bool.false_eq_true, if_false]

theorem lookup_additions (scope : Scope) (path : List String) (a b : Fields)
    (key : String) :
    (additions scope path a b).lookup key =
      if scope.right && !Fields.has a key then
        (Fields.get? b key).map fun v => walk scope (path ++ [key]) .null v
      else none := by
  rw [additions]
  cases scope.right with
  | false => simp
  | true =>
      simp only [if_true, Bool.true_and]
      induction b with
      | nil => simp [Fields.get?]
      | cons p rest ih =>
          obtain ⟨k, v⟩ := p
          rw [List.filter_cons, Fields.get?]
          by_cases hk : k = key
          · subst hk
            cases hhas : Fields.has a k with
            | true => simpa [hhas] using ih
            | false => simp [walk_null]
          · rw [if_neg hk, ← ih]
            cases Fields.has a k with
            | true => simp
            | false => simp [Sorted.lookup_cons, hk]

/-- Each field that counts is told about once. -/
theorem lookup_pairs (scope : Scope) (path : List String) (a b : Fields) (key : String) :
    (walkFields scope path b a ++ additions scope path a b).lookup key =
      if scope.selects (Fields.has a key) (Fields.has b key) then
        some (walk scope (path ++ [key]) (Fields.getD a key) (Fields.getD b key))
      else none := by
  rw [List.lookup_append, lookup_walkFields, lookup_additions, Fields.has, Fields.has,
    Fields.getD, Fields.getD, Scope.selects]
  cases Fields.get? a key <;> cases Fields.get? b key <;> cases scope.left <;>
    cases scope.right <;> simp

/-- The differences of two objects are those of their fields. -/
theorem walk_obj (scope : Scope) (path : List String) (a b : Fields) :
    walk scope path (.obj a) (.obj b) = (keys scope a b).flatMap fun key =>
      walk scope (path ++ [key]) (Fields.getD a key) (Fields.getD b key) := by
  cases hequal : (Value.obj a).equal (.obj b) with
  | true =>
      rw [walk_of_equal scope path hequal, eq_comm, List.flatMap_eq_nil_iff]
      intro key _
      exact walk_of_equal scope _ (Value.equal_getD hequal key)
  | false =>
      rw [walk, hequal, if_neg Bool.false_ne_true]
      have hascending := Sorted.pairwise_ofPairs
        (walkFields scope path b a ++ additions scope path a b)
      have hkeys : (Sorted.ofPairs (walkFields scope path b a ++
          additions scope path a b)).map Prod.fst = keys scope a b := by
        refine Sorted.eq_of_mem_iff (f := id) (by rwa [List.map_id])
          (by rw [List.map_id]; exact pairwise_keys scope a b) ?_
        intro key
        rw [Sorted.mem_keys_iff_lookup, Sorted.lookup_ofPairs, lookup_pairs, mem_keys_iff]
        split <;> simp_all
      rw [← hkeys, List.flatMap_map]
      refine List.flatMap_congr ?_
      rintro ⟨key, items⟩ hmem
      rw [Sorted.mem_iff_lookup hascending, Sorted.lookup_ofPairs, lookup_pairs] at hmem
      split at hmem
      · exact (Option.some.inj hmem).symm
      · cases hmem

/-- What neither side has is null on both. -/
theorem walk_of_not_mem_keys {a b : Fields} {key : String} (h : key ∉ keys .full a b)
    (scope : Scope) (path : List String) :
    walk scope path (Fields.getD a key) (Fields.getD b key) = [] := by
  have hnone : Fields.has a key = false ∧ Fields.has b key = false := by
    rw [mem_keys_iff] at h
    cases ha : Fields.has a key <;> cases hb : Fields.has b key <;>
      simp [Scope.selects, Scope.full, ha, hb] at h ⊢
  rw [Fields.getD_of_not_has hnone.1, Fields.getD_of_not_has hnone.2]
  exact walk_of_equal _ _ (Value.equal_refl _)

/-- Two objects do not differ if they do not in any field. -/
theorem walk_obj_eq_nil_iff (path : List String) (a b : Fields) :
    walk .full path (.obj a) (.obj b) = [] ↔
      ∀ key, walk .full (path ++ [key]) (Fields.getD a key) (Fields.getD b key) = [] := by
  rw [walk_obj, List.flatMap_eq_nil_iff]
  refine ⟨fun h key => ?_, fun h key _ => h key⟩
  by_cases hmem : key ∈ keys .full a b
  · exact h key hmem
  · exact walk_of_not_mem_keys hmem _ _

/-- Two values are equal, or differ as a whole, or are objects, to be looked at field by
field. -/
theorem induction {P : Value → Value → Prop}
    (same : ∀ a b, a.equal b = true → P a b)
    (whole : ∀ a b, a.equal b = false →
      (¬ ∃ fields others, a = .obj fields ∧ b = .obj others) → P a b)
    (fieldwise : ∀ fields others,
      (∀ key, P (Fields.getD fields key) (Fields.getD others key)) →
      P (.obj fields) (.obj others))
    (a b : Value) : P a b := by
  have hcases : ∀ v w, (¬ ∃ fields others, v = .obj fields ∧ w = .obj others) →
      P v w := by
    intro v w h
    cases hequal : v.equal w with
    | true => exact same v w hequal
    | false => exact whole v w hequal h
  induction a using Value.induction generalizing b with
  | leaf v h =>
      refine hcases v b ?_
      rintro ⟨fields, _, hobj, -⟩
      exact h fields hobj
  | obj fields ih =>
      cases b with
      | obj others => exact fieldwise fields others fun key => ih key _
      | _ =>
          refine hcases _ _ ?_
          rintro ⟨_, _, -, hobj⟩
          cases hobj

end Diff

/-! ## Differences from the root on -/

/-- The same divergence, seen from further up. -/
def DiffItem.below (path : List String) (item : DiffItem) : DiffItem :=
  { item with path := path ++ item.path }

theorem diff_whole {a b : Value} (hequal : a.equal b = false)
    (h : ¬ ∃ fields others, a = .obj fields ∧ b = .obj others) (scope : Scope) :
    diff scope a b = [DiffItem.whole [] a b] :=
  Diff.walk_whole hequal h scope []

/-- Where a walk has come from shows in the paths, and nowhere else. -/
theorem Diff.walk_eq_map (scope : Scope) (path : List String) (a b : Value) :
    Diff.walk scope path a b = (diff scope a b).map (DiffItem.below path) := by
  induction a, b using Diff.induction generalizing path with
  | same a b hequal =>
      rw [Diff.walk_of_equal scope path hequal, diff, Diff.walk_of_equal scope [] hequal]
      rfl
  | whole a b hequal h =>
      rw [Diff.walk_whole hequal h, diff_whole hequal h, List.map_singleton]
      simp only [DiffItem.below, DiffItem.whole, List.append_nil]
  | fieldwise fields others ih =>
      rw [diff, Diff.walk_obj, Diff.walk_obj, List.map_flatMap]
      refine List.flatMap_congr ?_
      intro key _
      rw [ih key (path ++ [key]), ih key ([] ++ [key]), List.map_map]
      refine List.map_congr_left ?_
      intro item _
      simp only [DiffItem.below, Function.comp_apply, List.nil_append, List.append_assoc]

theorem diff_obj (scope : Scope) (a b : Fields) :
    diff scope (.obj a) (.obj b) = (Diff.keys scope a b).flatMap fun key =>
      (diff scope (Fields.getD a key) (Fields.getD b key)).map
        (DiffItem.below [key]) := by
  rw [diff, Diff.walk_obj]
  refine List.flatMap_congr ?_
  intro key _
  exact Diff.walk_eq_map scope _ _ _

theorem mem_diff_obj {scope : Scope} {a b : Fields} {item : DiffItem} :
    item ∈ diff scope (.obj a) (.obj b) ↔
      ∃ key ∈ Diff.keys scope a b,
        ∃ inner ∈ diff scope (Fields.getD a key) (Fields.getD b key),
          inner.below [key] = item := by
  rw [diff_obj, List.mem_flatMap]
  exact exists_congr fun key => and_congr_right fun _ => List.mem_map

end OperatorCore
