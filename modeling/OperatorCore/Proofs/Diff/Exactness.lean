import Mathlib.Data.List.Forall2
import OperatorCore.Proofs.Diff.Fieldwise

/-!
# A difference tells all there is, and nothing else

Each item of a difference tells what the two values hold at its path, and that they
diverge there. The paths come in ascending order, and none of them leads through
another one, so each divergence is told once, at the highest place where the two
sides are not both objects.

Nothing is left out either. What a difference does not see is a field that is null on
one side and absent on the other, so the values are compared without their null fields
(`Value.strip`; lists are left alone, since they are compared as a whole). Without
them, no difference means equality, and one side together with the difference
determines the other side.

All inductions are those of the walk: equal values, values that differ as a whole, and
objects, whose items are those of their fields below the key.
-/

namespace OperatorCore

/-! ## Values without null fields -/

namespace Value

/-- What is found along a path of keys; null where there is nothing. -/
def atPath (v : Value) : List String → Value
  | [] => v
  | key :: rest => match v with
    | .obj fields => (Fields.getD fields key).atPath rest
    | _ => .null

mutual

/-- The value without the null fields of objects, at any depth but not inside of
lists. -/
def strip : Value → Value
  | .obj fields => .obj (stripFields fields)
  | v => v

/-- Of a key that comes more than once, the first occurrence decides. -/
def stripFields : List (String × Value) → List (String × Value)
  | [] => []
  | (k, v) :: rest =>
    let others := Fields.erase (stripFields rest) k
    if v.isNull then others else (k, strip v) :: others

end

theorem strip_of_not_obj {v : Value} (h : ∀ fields, v ≠ .obj fields) : v.strip = v := by
  cases v with
  | obj fields => exact absurd rfl (h fields)
  | _ => rfl

@[simp] theorem isNull_strip (v : Value) : v.strip.isNull = v.isNull := by
  cases v <;> rfl

theorem get?_stripFields (fields : Fields) (key : String) :
    Fields.get? (stripFields fields) key =
      if (Fields.getD fields key).isNull then none
      else some (Fields.getD fields key).strip := by
  induction fields with
  | nil => rfl
  | cons p rest ih =>
      obtain ⟨k, v⟩ := p
      rw [Fields.getD] at ih ⊢
      rw [stripFields, Fields.get?]
      by_cases hk : k = key
      · subst hk
        cases hv : v.isNull with
        | true => simp [Fields.get?_erase, hv]
        | false => simp [Fields.get?, hv]
      · rw [if_neg hk, ← ih]
        cases v.isNull with
        | true => simp [Fields.get?_erase, hk]
        | false => simp [Fields.get?, Fields.get?_erase, hk]

/-- Objects are equal if their fields are. -/
theorem equal_obj_iff {a b : Fields} :
    (Value.obj a).equal (.obj b) = true ↔
      ∀ key, (Fields.get? a key).map normal = (Fields.get? b key).map normal := by
  rw [equal_iff, normal, normal, Value.obj.injEq, normalFields_eq, normalFields_eq]
  exact Fields.ofPairs_map_eq_iff

/-- Equal values are of the same kind. -/
theorem obj_of_equal {fields : Fields} {v : Value}
    (h : (Value.obj fields).equal v = true) : ∃ others, v = .obj others := by
  rw [equal_iff] at h
  cases v with
  | obj others => exact ⟨others, rfl⟩
  | float x =>
      rw [normal, normal] at h
      split at h <;> cases h
  | _ => cases h

theorem has_of_equal {a b : Fields} (h : (Value.obj a).equal (.obj b) = true)
    (key : String) : Fields.has a key = Fields.has b key := by
  have hkey := congrArg Option.isSome (equal_obj_iff.1 h key)
  rwa [Option.isSome_map, Option.isSome_map] at hkey

theorem isNull_of_equal {a b : Value} (h : a.equal b = true) : a.isNull = b.isNull := by
  rw [Bool.eq_iff_iff, ← null_equal_iff, ← null_equal_iff]
  exact ⟨fun ha => equal_trans ha h, fun hb => equal_trans hb (equal_symm h)⟩

theorem null_strip_equal_iff {v : Value} :
    Value.null.strip.equal v.strip = true ↔ v.isNull = true := by
  rw [show Value.null.strip = .null from rfl, null_equal_iff, isNull_strip]

/-- Without the null fields, what is absent counts as null. -/
theorem strip_obj_equal_iff {a b : Fields} :
    (Value.obj a).strip.equal (Value.obj b).strip = true ↔
      ∀ key, (Fields.getD a key).strip.equal (Fields.getD b key).strip = true := by
  rw [strip, strip, equal_obj_iff]
  refine forall_congr' ?_
  intro key
  rw [get?_stripFields, get?_stripFields]
  generalize Fields.getD a key = v
  generalize Fields.getD b key = v'
  cases hv : v.isNull with
  | true =>
      obtain rfl := isNull_iff.1 hv
      rw [null_strip_equal_iff]
      cases v'.isNull <;> simp
  | false =>
      cases hv' : v'.isNull with
      | true =>
          obtain rfl := isNull_iff.1 hv'
          have hne : ¬ v.strip.equal Value.null.strip = true := by
            intro h
            rw [null_strip_equal_iff.1 (equal_symm h)] at hv
            cases hv
          simp [hne]
      | false => simp [equal_iff]

theorem equal_strip {a b : Value} (h : a.equal b = true) :
    a.strip.equal b.strip = true := by
  induction a using induction generalizing b with
  | leaf v hleaf =>
      have hleaf' : ∀ fields, b ≠ .obj fields := by
        rintro fields rfl
        obtain ⟨others, hobj⟩ := obj_of_equal (equal_symm h)
        exact hleaf others hobj
      rw [strip_of_not_obj hleaf, strip_of_not_obj hleaf']
      exact h
  | obj fields ih =>
      obtain ⟨others, rfl⟩ := obj_of_equal h
      rw [strip_obj_equal_iff]
      exact fun key => ih key (equal_getD h key)

theorem equal_of_strip {a b : Value}
    (hobj : ¬ ∃ fields others, a = .obj fields ∧ b = .obj others)
    (h : a.strip.equal b.strip = true) : a.equal b = true := by
  have hobj_strip : ∀ {v : Value} {fields : Fields},
      (Value.obj fields).strip.equal v.strip = true → ∃ others, v = .obj others := by
    intro v fields hv
    obtain ⟨stripped, hstripped⟩ := obj_of_equal hv
    cases v with
    | obj others => exact ⟨others, rfl⟩
    | _ => cases hstripped
  by_cases ha : ∃ fields, a = .obj fields
  · obtain ⟨fields, rfl⟩ := ha
    obtain ⟨others, rfl⟩ := hobj_strip h
    exact absurd ⟨fields, others, rfl, rfl⟩ hobj
  · by_cases hb : ∃ others, b = .obj others
    · obtain ⟨others, rfl⟩ := hb
      exact absurd (hobj_strip (equal_symm h)) ha
    · rwa [strip_of_not_obj fun fields hf => ha ⟨fields, hf⟩,
        strip_of_not_obj fun fields hf => hb ⟨fields, hf⟩] at h

end Value

/-! ## What the items tell -/

namespace DiffItem

/-- The item tells what two values hold at its path, that they diverge there, and what
has become of the value. -/
structure Tells (item : DiffItem) (a b : Value) : Prop where
  old_eq : item.old = a.atPath item.path
  new_eq : item.new = b.atPath item.path
  unequal : item.old.equal item.new = false
  add_iff : item.op = .add ↔ item.old = .null
  remove_iff : item.op = .remove ↔ item.new = .null
  change_iff : item.op = .change ↔ item.old ≠ .null ∧ item.new ≠ .null
  not_objects : ¬ ∃ fields others, item.old = .obj fields ∧ item.new = .obj others

theorem tells_whole {a b : Value} (hequal : a.equal b = false)
    (h : ¬ ∃ fields others, a = .obj fields ∧ b = .obj others) :
    (whole [] a b).Tells a b := by
  have hnull : ¬ (a.isNull = true ∧ b.isNull = true) := by
    rintro ⟨ha, hb⟩
    rw [Value.isNull_iff.1 ha, Value.isNull_iff.1 hb, Value.equal_refl] at hequal
    cases hequal
  refine ⟨rfl, rfl, hequal, ?_, ?_, ?_, h⟩ <;>
    simp only [whole, ne_eq, ← Value.isNull_iff] <;>
    revert hnull <;>
    cases a.isNull <;> cases b.isNull <;> simp

theorem Tells.below {item : DiffItem} {a b : Fields} {key : String}
    (h : item.Tells (Fields.getD a key) (Fields.getD b key)) :
    (item.below [key]).Tells (.obj a) (.obj b) :=
  ⟨h.old_eq, h.new_eq, h.unequal, h.add_iff, h.remove_iff, h.change_iff, h.not_objects⟩

/-- Two items tell the same, up to the equality of values. -/
structure Same (x y : DiffItem) : Prop where
  op_eq : x.op = y.op
  path_eq : x.path = y.path
  old_equal : x.old.equal y.old = true
  new_equal : x.new.equal y.new = true

theorem Same.symm {x y : DiffItem} (h : x.Same y) : y.Same x :=
  ⟨h.op_eq.symm, h.path_eq.symm, Value.equal_symm h.old_equal,
    Value.equal_symm h.new_equal⟩

theorem Same.below {x y : DiffItem} (h : x.Same y) (path : List String) :
    (x.below path).Same (y.below path) :=
  ⟨h.op_eq, congrArg (path ++ ·) h.path_eq, h.old_equal, h.new_equal⟩

theorem Same.of_below {path : List String} {x y : DiffItem}
    (h : (x.below path).Same (y.below path)) : x.Same y :=
  ⟨h.op_eq, List.append_cancel_left h.path_eq, h.old_equal, h.new_equal⟩

end DiffItem

theorem tells_of_mem_diff {scope : Scope} {a b : Value} {item : DiffItem}
    (h : item ∈ diff scope a b) : item.Tells a b := by
  induction a, b using Diff.induction generalizing item with
  | same a b hequal =>
      rw [diff, Diff.walk_of_equal scope [] hequal] at h
      cases h
  | whole a b hequal hobj =>
      rw [diff_whole hequal hobj, List.mem_singleton] at h
      rw [h]
      exact DiffItem.tells_whole hequal hobj
  | fieldwise fields others ih =>
      obtain ⟨key, -, inner, hinner, rfl⟩ := mem_diff_obj.1 h
      exact (ih key hinner).below

/-! ## The order of the paths -/

/-- A path comes before another one, and neither of them leads through the other. -/
def Precedes (p q : List String) : Prop := p < q ∧ ¬ p <+: q ∧ ¬ q <+: p

theorem precedes_cons_of_lt {key key' : String} (h : key < key') (p q : List String) :
    Precedes (key :: p) (key' :: q) := by
  have hne : key ≠ key' := by
    rintro rfl
    exact String.lt_irrefl key h
  refine ⟨List.cons_lt_cons_iff.2 (.inl h), ?_, ?_⟩
  · rw [List.cons_prefix_cons]
    exact fun hp => hne hp.1
  · rw [List.cons_prefix_cons]
    exact fun hp => hne hp.1.symm

theorem Precedes.cons {p q : List String} (h : Precedes p q) (key : String) :
    Precedes (key :: p) (key :: q) := by
  refine ⟨List.cons_lt_cons_iff.2 (.inr ⟨rfl, h.1⟩), ?_, ?_⟩
  · rw [List.prefix_cons_inj]
    exact h.2.1
  · rw [List.prefix_cons_inj]
    exact h.2.2

theorem pairwise_precedes (scope : Scope) (a b : Value) :
    (diff scope a b).Pairwise fun x y => Precedes x.path y.path := by
  induction a, b using Diff.induction with
  | same a b hequal =>
      rw [diff, Diff.walk_of_equal scope [] hequal]
      exact .nil
  | whole a b hequal hobj =>
      rw [diff_whole hequal hobj]
      exact List.pairwise_singleton _ _
  | fieldwise fields others ih =>
      rw [diff_obj, List.pairwise_flatMap]
      refine ⟨?_, ?_⟩
      · intro key _
        exact List.pairwise_map.2 ((ih key).imp fun h => h.cons key)
      · refine (Diff.pairwise_keys scope fields others).imp ?_
        intro key key' hlt x hx y hy
        obtain ⟨inner, -, rfl⟩ := List.mem_map.1 hx
        obtain ⟨inner', -, rfl⟩ := List.mem_map.1 hy
        exact precedes_cons_of_lt hlt _ _

/-! ## Nothing is left out -/

theorem diff_eq_nil_iff {a b : Value} :
    diff .full a b = [] ↔ a.strip.equal b.strip = true := by
  induction a, b using Diff.induction with
  | same a b hequal =>
      rw [diff, Diff.walk_of_equal _ [] hequal]
      exact iff_of_true rfl (Value.equal_strip hequal)
  | whole a b hequal hobj =>
      rw [diff_whole hequal hobj]
      refine iff_of_false (List.cons_ne_nil _ _) ?_
      intro hstrip
      rw [Value.equal_of_strip hobj hstrip] at hequal
      cases hequal
  | fieldwise fields others ih =>
      rw [Value.strip_obj_equal_iff, diff, Diff.walk_obj_eq_nil_iff]
      refine forall_congr' ?_
      intro key
      rw [← ih key, Diff.walk_eq_map, List.map_eq_nil_iff]

/-- The items with a key in front are those of its field. -/
theorem filter_diff_obj (a b : Fields) (key : String) :
    (diff .full (.obj a) (.obj b)).filter (fun item => item.path.head? == some key) =
      (diff .full (Fields.getD a key) (Fields.getD b key)).map (DiffItem.below [key]) := by
  have hothers : ∀ k, k ≠ key → ∀ items : List DiffItem,
      (items.map (DiffItem.below [k])).filter (fun item => item.path.head? == some key) =
        [] := by
    intro k hk items
    rw [List.filter_eq_nil_iff]
    intro item hitem
    obtain ⟨inner, -, rfl⟩ := List.mem_map.1 hitem
    simpa [DiffItem.below] using hk
  rw [diff_obj, List.filter_flatMap]
  by_cases hmem : key ∈ Diff.keys .full a b
  · rw [Sorted.flatMap_of_mem (Diff.pairwise_keys .full a b) hmem
      fun k _ hk => hothers k hk _, List.filter_eq_self]
    intro item hitem
    obtain ⟨inner, -, rfl⟩ := List.mem_map.1 hitem
    simp [DiffItem.below]
  · rw [diff, Diff.walk_of_not_mem_keys hmem, List.map_nil, List.flatMap_eq_nil_iff]
    intro k hk
    refine hothers k ?_ _
    rintro rfl
    exact hmem hk

theorem path_ne_nil_of_mem {scope : Scope} {a b : Fields} {item : DiffItem}
    (h : item ∈ diff scope (.obj a) (.obj b)) : item.path ≠ [] := by
  obtain ⟨key, -, inner, -, rfl⟩ := mem_diff_obj.1 h
  exact List.cons_ne_nil _ _

/-- An object differs at the root from whatever is none. -/
theorem diff_obj_of_not_obj {scope : Scope} {fields : Fields} {v : Value}
    (h : ¬ ∃ others, v = .obj others) :
    diff scope (.obj fields) v = [DiffItem.whole [] (.obj fields) v] := by
  refine diff_whole ?_ ?_ scope
  · rw [← Bool.not_eq_true]
    exact fun hequal => h (Value.obj_of_equal hequal)
  · rintro ⟨_, others, -, hobj⟩
    exact h ⟨others, hobj⟩

theorem obj_of_same {fields others : Fields} {v : Value}
    (h : List.Forall₂ DiffItem.Same (diff .full (.obj fields) (.obj others))
      (diff .full (.obj fields) v)) : ∃ others', v = .obj others' := by
  by_contra hv
  rw [diff_obj_of_not_obj hv, List.forall₂_cons_right_iff] at h
  obtain ⟨x, rest, hsame, -, hitems⟩ := h
  have hmem : x ∈ diff .full (.obj fields) (.obj others) := by
    rw [hitems]
    exact List.mem_cons_self
  exact path_ne_nil_of_mem hmem hsame.path_eq

/-- One side and the difference determine the other side. -/
theorem strip_equal_of_same {a b c : Value}
    (h : List.Forall₂ DiffItem.Same (diff .full a b) (diff .full a c)) :
    b.strip.equal c.strip = true := by
  induction a using Value.induction generalizing b c with
  | leaf v hleaf =>
      have hobj : ∀ w : Value, ¬ ∃ fields others, v = .obj fields ∧ w = .obj others := by
        rintro w ⟨fields, _, hv, -⟩
        exact hleaf fields hv
      refine Value.equal_strip ?_
      cases hb : v.equal b with
      | true =>
          cases hc : v.equal c with
          | true => exact Value.equal_trans (Value.equal_symm hb) hc
          | false =>
              rw [diff, Diff.walk_of_equal _ [] hb, diff_whole hc (hobj c)] at h
              cases h
      | false =>
          cases hc : v.equal c with
          | true =>
              rw [diff_whole hb (hobj b), diff, Diff.walk_of_equal _ [] hc] at h
              cases h
          | false =>
              rw [diff_whole hb (hobj b), diff_whole hc (hobj c), List.forall₂_cons] at h
              exact h.1.new_equal
  | obj fields ih =>
      by_cases hb : ∃ others, b = .obj others
      · obtain ⟨others, rfl⟩ := hb
        obtain ⟨others', rfl⟩ := obj_of_same h
        rw [Value.strip_obj_equal_iff]
        intro key
        refine ih key ?_
        have hkey := List.rel_filter
          (p := fun item : DiffItem => item.path.head? == some key)
          (q := fun item : DiffItem => item.path.head? == some key)
          (fun x y (hxy : x.Same y) => by simp only [hxy.path_eq]) h
        rw [filter_diff_obj, filter_diff_obj, List.forall₂_map_left_iff,
          List.forall₂_map_right_iff] at hkey
        exact hkey.imp fun x y hxy => hxy.of_below
      · have hc : ¬ ∃ others, c = .obj others := by
          rintro ⟨others, rfl⟩
          exact hb (obj_of_same ((h.imp fun _ _ hxy => hxy.symm).flip))
        rw [diff_obj_of_not_obj hb, diff_obj_of_not_obj hc, List.forall₂_cons] at h
        exact Value.equal_strip h.1.new_equal

theorem whole_same {a a' b b' : Value} (ha : a.equal a' = true) (hb : b.equal b' = true) :
    (DiffItem.whole [] a b).Same (DiffItem.whole [] a' b') := by
  refine ⟨?_, rfl, ha, hb⟩
  simp only [DiffItem.whole, Value.isNull_of_equal ha, Value.isNull_of_equal hb]

/-- Of equal values the differences are the same. -/
theorem diff_same_of_equal {a a' b b' : Value} (ha : a.equal a' = true)
    (hb : b.equal b' = true) (scope : Scope) :
    List.Forall₂ DiffItem.Same (diff scope a b) (diff scope a' b') := by
  induction a, b using Diff.induction generalizing a' b' with
  | same a b hequal =>
      have hequal' := Value.equal_trans (Value.equal_symm ha) (Value.equal_trans hequal hb)
      rw [diff, diff, Diff.walk_of_equal _ [] hequal, Diff.walk_of_equal _ [] hequal']
      exact .nil
  | whole a b hequal hobj =>
      have hequal' : a'.equal b' = false := by
        rw [← Bool.not_eq_true]
        intro h
        rw [Value.equal_trans ha (Value.equal_trans h (Value.equal_symm hb))] at hequal
        cases hequal
      rw [diff_whole hequal hobj, diff_whole hequal']
      · exact .cons (whole_same ha hb) .nil
      · rintro ⟨fields, others, rfl, rfl⟩
        obtain ⟨fields', rfl⟩ := Value.obj_of_equal (Value.equal_symm ha)
        obtain ⟨others', rfl⟩ := Value.obj_of_equal (Value.equal_symm hb)
        exact hobj ⟨fields', others', rfl, rfl⟩
  | fieldwise fields others ih =>
      obtain ⟨fields', rfl⟩ := Value.obj_of_equal ha
      obtain ⟨others', rfl⟩ := Value.obj_of_equal hb
      have hkeys : Diff.keys scope fields others = Diff.keys scope fields' others' := by
        refine Diff.keys_congr ?_
        intro key
        rw [Value.has_of_equal ha, Value.has_of_equal hb]
      rw [diff_obj, diff_obj, hkeys]
      generalize Diff.keys scope fields' others' = keys
      induction keys with
      | nil => exact .nil
      | cons key rest ihrest =>
          have hkey := ih key (Value.equal_getD ha key) (Value.equal_getD hb key)
          rw [List.flatMap_cons, List.flatMap_cons]
          refine List.rel_append ?_ ihrest
          rw [List.forall₂_map_left_iff, List.forall₂_map_right_iff]
          exact hkey.imp fun x y hxy => hxy.below [key]

/-- The items of a difference tell what the values hold at their paths, and come in
ascending order, none at a place that leads to another one. There are none just when
the values are equal without their null fields, and what is the difference from a
value is determined by it, up to null fields. -/
theorem diff_exact (a b : Value) :
    (∀ item ∈ diff .full a b, item.Tells a b) ∧
    (diff .full a b).Pairwise (fun x y => Precedes x.path y.path) ∧
    (diff .full a b = [] ↔ a.strip.equal b.strip = true) ∧
    ∀ c, List.Forall₂ DiffItem.Same (diff .full a b) (diff .full a c) →
      b.strip.equal c.strip = true :=
  ⟨fun _ h => tells_of_mem_diff h, pairwise_precedes .full a b, diff_eq_nil_iff,
    fun _ h => strip_equal_of_same h⟩

/-- A field is changed, and another one removed by being null or by being absent. -/
theorem diff_exact_of_changed_and_removed :
    let old : Value := .obj [("n", .int 2), ("opts", .obj [("debug", .bool true)])]
    let new : Value := .obj [("n", .int 1), ("opts", .obj [("debug", .null)])]
    let other : Value := .obj [("opts", .obj []), ("n", .bool true)]
    diff .full old new =
      [⟨.change, ["n"], .int 2, .int 1⟩,
        ⟨.remove, ["opts", "debug"], .bool true, .null⟩] ∧
    (∀ item ∈ diff .full old new, item.Tells old new) ∧
    new.strip.equal other.strip = true := by
  intro old new other
  have hnew : diff .full old new = [⟨.change, ["n"], .int 2, .int 1⟩,
      ⟨.remove, ["opts", "debug"], .bool true, .null⟩] := by decide +kernel
  have hother : diff .full old other = [⟨.change, ["n"], .int 2, .bool true⟩,
      ⟨.remove, ["opts", "debug"], .bool true, .null⟩] := by decide +kernel
  obtain ⟨htells, -, -, hdetermined⟩ := diff_exact old new
  refine ⟨hnew, htells, hdetermined other ?_⟩
  rw [hnew, hother]
  exact .cons ⟨rfl, rfl, by decide, by decide⟩
    (.cons ⟨rfl, rfl, by decide, by decide⟩ .nil)

end OperatorCore
