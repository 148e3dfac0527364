import OperatorCore.Proofs.Diff.Fieldwise

/-!
# The difference from the other side

What was added, seen from the other side, was removed. If two values change places, and the
scope changes its sides with them, each item of the difference is mirrored, and the items
stay where they are.

The walk itself takes no side where it matters. It asks for an absent left value before it
asks for an absent right one, but values that are both absent are equal and never get there.
The keys that it visits are those that the scope selects, in ascending order, and a key is
selected from the one side just when it is from the other.
-/

namespace OperatorCore

/-- What has become of a value for whoever comes from the other side. -/
def DiffOperation.mirror : DiffOperation → DiffOperation
  | .add => .remove
  | .change => .change
  | .remove => .add

namespace DiffItem

/-- The same divergence, seen from the other side. -/
def mirror (item : DiffItem) : DiffItem :=
  { op := item.op.mirror, path := item.path, old := item.new, new := item.old }

@[simp] theorem mirror_mirror (item : DiffItem) : item.mirror.mirror = item := by
  obtain ⟨op, path, old, new⟩ := item
  cases op <;> rfl

theorem mirror_below (path : List String) (item : DiffItem) :
    (item.below path).mirror = item.mirror.below path := rfl

/-- Of two values that diverge, one at most is null. -/
theorem whole_mirror {a b : Value} (hequal : a.equal b = false) (path : List String) :
    (whole path a b).mirror = whole path b a := by
  have hnull : ¬ (a.isNull = true ∧ b.isNull = true) := by
    intro h
    rw [Value.isNull_iff.1 h.1, Value.isNull_iff.1 h.2, Value.equal_refl] at hequal
    cases hequal
  cases ha : a.isNull <;> cases hb : b.isNull <;>
    simp only [mirror, whole, DiffOperation.mirror, ha, hb, if_true, Bool.false_eq_true,
      if_false]
  exact absurd ⟨ha, hb⟩ hnull

end DiffItem

theorem Value.equal_comm (a b : Value) : a.equal b = b.equal a := by
  rw [Bool.eq_iff_iff]
  exact ⟨equal_symm, equal_symm⟩

theorem Scope.selects_swap (scope : Scope) (onLeft onRight : Bool) :
    scope.swap.selects onRight onLeft = scope.selects onLeft onRight := by
  obtain ⟨left, right⟩ := scope
  cases left <;> cases right <;> cases onLeft <;> cases onRight <;> rfl

/-- Both sides visit the same keys. -/
theorem Diff.keys_swap (scope : Scope) (a b : Fields) :
    keys scope.swap b a = keys scope a b :=
  keys_congr fun key => scope.selects_swap (Fields.has a key) (Fields.has b key)

/-- From the other side, and with the sides of the scope exchanged, there are the same items
in the same order, each of them mirrored. -/
theorem diff_mirrored (scope : Scope) (a b : Value) :
    diff scope.swap b a = (diff scope a b).map DiffItem.mirror := by
  induction a, b using Diff.induction with
  | same a b hequal =>
      rw [diff, diff, Diff.walk_of_equal _ [] hequal,
        Diff.walk_of_equal _ [] (Value.equal_symm hequal)]
      rfl
  | whole a b hequal hobj =>
      have hequal' : b.equal a = false := by rw [Value.equal_comm, hequal]
      have hobj' : ¬ ∃ others fields, b = .obj others ∧ a = .obj fields := by
        intro h
        obtain ⟨others, fields, hb, ha⟩ := h
        exact hobj ⟨fields, others, ha, hb⟩
      rw [diff_whole hequal hobj, diff_whole hequal' hobj', List.map_singleton,
        DiffItem.whole_mirror hequal]
  | fieldwise fields others ih =>
      rw [diff_obj, diff_obj, Diff.keys_swap, List.map_flatMap]
      refine List.flatMap_congr ?_
      intro key _
      rw [ih key, List.map_map, List.map_map]
      refine List.map_congr_left ?_
      intro item _
      exact (DiffItem.mirror_below [key] item).symm

example :
    diff .rightOnly (.obj [("a", .int 1)]) (.obj [("a", .int 2), ("b", .bool true)]) =
      [⟨.change, ["a"], .int 1, .int 2⟩, ⟨.add, ["b"], .null, .bool true⟩] ∧
    diff .leftOnly (.obj [("a", .int 2), ("b", .bool true)]) (.obj [("a", .int 1)]) =
      [⟨.change, ["a"], .int 2, .int 1⟩, ⟨.remove, ["b"], .bool true, .null⟩] := by
  decide +kernel

end OperatorCore
