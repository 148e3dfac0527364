import Mathlib.Data.List.Forall2
import OperatorCore.Proofs.Diff.Exactness

/-!
# The order of the fields

The fields of an object are kept in the order in which they were added, and two objects
that were written by different hands come with different orders. Each value has an
arrangement: the same value with its fields sorted by their keys, at any depth, inside of
lists too. Values with one arrangement are those that reordering makes of one another; for
an object whose keys are distinct this is a permutation of its fields, up to the same for
what they hold (`Value.reordered_obj_iff_perm`).

A difference does not see the order. It looks fields up by their keys, the keys that it
visits are sorted anyway, and equality, by which all else is compared, is not changed by
arranging the values. So the difference of two arrangements is the difference of the
values, with what it tells arranged (`diff_arranged`).
-/

namespace OperatorCore

theorem Sorted.insert_perm {α : Type} {key : String} {value : α} {pairs : List (String × α)}
    (h : key ∉ pairs.map Prod.fst) :
    (insert key value pairs).Perm ((key, value) :: pairs) := by
  induction pairs with
  | nil => exact .refl _
  | cons p rest ih =>
      obtain ⟨k, v⟩ := p
      rw [List.map_cons, List.mem_cons, not_or] at h
      rw [insert]
      split
      · exact .refl _
      · rw [if_neg h.1]
        exact ((ih h.2).cons (k, v)).trans (.swap (key, value) (k, v) rest)

/-- Sorting pairs with distinct keys permutes them. -/
theorem Sorted.ofPairs_perm {α : Type} {pairs : List (String × α)}
    (h : (pairs.map Prod.fst).Nodup) : (ofPairs pairs).Perm pairs := by
  induction pairs with
  | nil => exact .refl _
  | cons p rest ih =>
      obtain ⟨k, v⟩ := p
      obtain ⟨hk, hrest⟩ := List.nodup_cons.1 h
      have hperm := ih hrest
      rw [← (hperm.map Prod.fst).mem_iff] at hk
      exact (insert_perm hk).trans (hperm.cons (k, v))

/-- Where no key comes twice, each pair is the one that is found. -/
theorem Sorted.mem_iff_lookup_of_nodup {α : Type} {pairs : List (String × α)}
    (h : (pairs.map Prod.fst).Nodup) {key : String} {value : α} :
    (key, value) ∈ pairs ↔ pairs.lookup key = some value := by
  rw [← (ofPairs_perm h).mem_iff, mem_iff_lookup (pairwise_ofPairs pairs), lookup_ofPairs]

namespace Value

mutual

/-- The value with the fields of all objects sorted by their keys. -/
def arranged : Value → Value
  | .arr items => .arr (arrangedItems items)
  | .obj fields => .obj (arrangedFields fields)
  | v => v

def arrangedItems : List Value → List Value
  | [] => []
  | v :: rest => arranged v :: arrangedItems rest

/-- Of a key that comes more than once, the first occurrence counts. -/
def arrangedFields : List (String × Value) → List (String × Value)
  | [] => []
  | (k, v) :: rest => Sorted.insert k (arranged v) (arrangedFields rest)

end

/-- The two values differ at most in the order of the fields of objects, at any depth. -/
def Reordered (a b : Value) : Prop := a.arranged = b.arranged

instance (a b : Value) : Decidable (a.Reordered b) :=
  inferInstanceAs (Decidable (a.arranged = b.arranged))

theorem arrangedItems_eq_map (items : List Value) :
    arrangedItems items = items.map arranged := by
  induction items with
  | nil => rfl
  | cons v rest ih => rw [arrangedItems, ih, List.map_cons]

theorem arrangedFields_eq (fields : Fields) :
    arrangedFields fields = Sorted.ofPairs (fields.map (Prod.map id arranged)) := by
  induction fields with
  | nil => rfl
  | cons p rest ih =>
      rw [arrangedFields, ih, List.map_cons, Sorted.ofPairs]
      rfl

theorem get?_arrangedFields (fields : Fields) (key : String) :
    Fields.get? (arrangedFields fields) key = (Fields.get? fields key).map arranged := by
  rw [arrangedFields_eq, Fields.get?_ofPairs_map]

theorem has_arrangedFields (fields : Fields) (key : String) :
    Fields.has (arrangedFields fields) key = Fields.has fields key := by
  rw [Fields.has, get?_arrangedFields, Option.isSome_map, Fields.has]

theorem getD_arrangedFields (fields : Fields) (key : String) :
    Fields.getD (arrangedFields fields) key = (Fields.getD fields key).arranged := by
  rw [Fields.getD, get?_arrangedFields, Fields.getD]
  cases Fields.get? fields key <;> rfl

/-- Lists keep the order of their items. -/
theorem reordered_arr_iff {items items' : List Value} :
    Reordered (.arr items) (.arr items') ↔ List.Forall₂ Reordered items items' := by
  rw [Reordered, arranged, arranged, arrangedItems_eq_map, arrangedItems_eq_map,
    Value.arr.injEq, ← List.forall₂_eq_eq_eq, List.forall₂_map_left_iff,
    List.forall₂_map_right_iff]
  exact Iff.rfl

theorem reordered_obj_iff {a b : Fields} :
    Reordered (.obj a) (.obj b) ↔
      ∀ key, (Fields.get? a key).map arranged = (Fields.get? b key).map arranged := by
  rw [Reordered, arranged, arranged, Value.obj.injEq, arrangedFields_eq, arrangedFields_eq]
  exact Fields.ofPairs_map_eq_iff

theorem Reordered.exists_obj {fields : Fields} {v : Value}
    (h : Reordered (.obj fields) v) : ∃ others, v = .obj others := by
  rw [Reordered] at h
  cases v with
  | obj others => exact ⟨others, rfl⟩
  | _ => cases h

/-- If no key comes twice, to reorder is to permute the fields and to reorder what they
hold. -/
theorem reordered_obj_iff_perm {a b : Fields} (ha : (a.map Prod.fst).Nodup)
    (hb : (b.map Prod.fst).Nodup) :
    Reordered (.obj a) (.obj b) ↔
      (a.map (Prod.map id arranged)).Perm (b.map (Prod.map id arranged)) := by
  have hkeys : ∀ fields : Fields,
      (fields.map (Prod.map id arranged)).map Prod.fst = fields.map Prod.fst := by
    intro fields
    rw [List.map_map]
    rfl
  rw [← hkeys] at ha hb
  rw [Reordered, arranged, arranged, Value.obj.injEq, arrangedFields_eq, arrangedFields_eq]
  constructor
  · intro h
    have hperm := Sorted.ofPairs_perm ha
    rw [h] at hperm
    exact hperm.symm.trans (Sorted.ofPairs_perm hb)
  · intro h
    have hperm := (Sorted.ofPairs_perm ha).trans (h.trans (Sorted.ofPairs_perm hb).symm)
    exact Sorted.eq_of_mem_iff (f := Prod.fst) (Sorted.pairwise_ofPairs _)
      (Sorted.pairwise_ofPairs _) fun p => hperm.mem_iff

/-! Arranging a value changes neither what it is nor what it equals. -/

@[simp] theorem isNull_arranged (v : Value) : v.arranged.isNull = v.isNull := by
  cases v <;> rfl

@[simp] theorem typeName_arranged (v : Value) : v.arranged.typeName = v.typeName := by
  cases v <;> rfl

theorem obj_of_arranged {v : Value} {fields : Fields} (h : v.arranged = .obj fields) :
    ∃ others, v = .obj others := by
  cases v with
  | obj others => exact ⟨others, rfl⟩
  | _ => cases h

mutual

theorem normal_arranged (v : Value) : v.arranged.normal = v.normal := by
  cases v with
  | arr items => rw [arranged, normal, normal, normalItems_arrangedItems items]
  | obj fields =>
      rw [arranged, normal, normal, Value.obj.injEq, normalFields_eq, normalFields_eq,
        Fields.ofPairs_map_eq_iff]
      intro key
      rw [get?_arrangedFields, get?_arranged_normal fields key]
  | _ => rfl

theorem normalItems_arrangedItems (items : List Value) :
    normalItems (arrangedItems items) = normalItems items := by
  cases items with
  | nil => rfl
  | cons v rest =>
      rw [arrangedItems, normalItems, normalItems, normal_arranged v,
        normalItems_arrangedItems rest]

theorem get?_arranged_normal (fields : List (String × Value)) (key : String) :
    ((Fields.get? fields key).map arranged).map normal =
      (Fields.get? fields key).map normal := by
  cases fields with
  | nil => rfl
  | cons p rest =>
      obtain ⟨k, v⟩ := p
      rw [Fields.get?]
      split
      · rw [Option.map_some, Option.map_some, Option.map_some, normal_arranged v]
      · exact get?_arranged_normal rest key

end

theorem equal_arranged (a b : Value) : a.arranged.equal b.arranged = a.equal b := by
  rw [equal, equal, normal_arranged, normal_arranged]

end Value

namespace DiffItem

/-- The divergence with its values arranged. -/
def arranged (item : DiffItem) : DiffItem :=
  { item with old := item.old.arranged, new := item.new.arranged }

/-- The same is told about the same place, up to the order of fields. -/
structure Reordered (item item' : DiffItem) : Prop where
  op_eq : item.op = item'.op
  path_eq : item.path = item'.path
  old : item.old.Reordered item'.old
  new : item.new.Reordered item'.new

theorem reordered_of_arranged {item item' : DiffItem}
    (h : item.arranged = item'.arranged) : item.Reordered item' := by
  simp only [arranged, DiffItem.mk.injEq] at h
  exact ⟨h.1, h.2.1, h.2.2.1, h.2.2.2⟩

theorem arranged_below (path : List String) (item : DiffItem) :
    (item.below path).arranged = item.arranged.below path := rfl

theorem arranged_whole (path : List String) (a b : Value) :
    (whole path a b).arranged = whole path a.arranged b.arranged := by
  simp only [arranged, whole, Value.isNull_arranged]

end DiffItem

/-- The difference of the arrangements is the arrangement of the difference. -/
theorem diff_arranged (scope : Scope) (a b : Value) :
    diff scope a.arranged b.arranged = (diff scope a b).map DiffItem.arranged := by
  induction a, b using Diff.induction with
  | same a b hequal =>
      rw [diff, diff, Diff.walk_of_equal _ [] hequal, Diff.walk_of_equal _ []]
      · rfl
      · rw [Value.equal_arranged, hequal]
  | whole a b hequal hobj =>
      rw [diff_whole hequal hobj, List.map_singleton, DiffItem.arranged_whole,
        diff_whole]
      · rw [Value.equal_arranged, hequal]
      · intro h
        obtain ⟨fields, others, ha, hb⟩ := h
        obtain ⟨fields', rfl⟩ := Value.obj_of_arranged ha
        obtain ⟨others', rfl⟩ := Value.obj_of_arranged hb
        exact hobj ⟨fields', others', rfl, rfl⟩
  | fieldwise fields others ih =>
      have hkeys : Diff.keys scope (Value.arrangedFields fields)
          (Value.arrangedFields others) = Diff.keys scope fields others := by
        refine Diff.keys_congr ?_
        intro key
        rw [Value.has_arrangedFields, Value.has_arrangedFields]
      rw [Value.arranged, Value.arranged, diff_obj, diff_obj, hkeys, List.map_flatMap]
      refine List.flatMap_congr ?_
      intro key _
      rw [Value.getD_arrangedFields, Value.getD_arrangedFields, ih key, List.map_map,
        List.map_map]
      refine List.map_congr_left ?_
      intro item _
      exact (DiffItem.arranged_below [key] item).symm

/-- The differences of reordered values are the same one by one, up to the order of the
fields in what they tell. -/
theorem diff_reordered {a a' b b' : Value} (ha : a.Reordered a') (hb : b.Reordered b')
    (scope : Scope) :
    List.Forall₂ DiffItem.Reordered (diff scope a b) (diff scope a' b') := by
  have harranged : (diff scope a b).map DiffItem.arranged =
      (diff scope a' b').map DiffItem.arranged := by
    rw [← diff_arranged, ← diff_arranged, show a.arranged = a'.arranged from ha,
      show b.arranged = b'.arranged from hb]
  rw [← List.forall₂_eq_eq_eq, List.forall₂_map_left_iff,
    List.forall₂_map_right_iff] at harranged
  exact harranged.imp fun _ _ => DiffItem.reordered_of_arranged

end OperatorCore
