import OperatorCore.Value.Basic

/-!
# Lists sorted by key

Pairs of a key and anything else, in the ascending order of their keys (that of the code points),
built by inserting one pair after another. A pair that is inserted takes the place of the one with
the same key, so a list that is built from its end gives each key what it had first. What is built
so is strictly ascending (`pairwise_ofPairs`).
-/

namespace OperatorCore.Sorted

variable {α β : Type}

/-- Puts a pair into its place, instead of the one with the same key. -/
def insert (key : String) (value : α) : List (String × α) → List (String × α)
  | [] => [(key, value)]
  | (k, v) :: rest =>
    if key < k then (key, value) :: (k, v) :: rest
    else if key = k then (key, value) :: rest
    else (k, v) :: insert key value rest

/-- The pairs in the order of their keys. -/
def ofPairs : List (String × α) → List (String × α)
  | [] => []
  | (k, v) :: rest => insert k v (ofPairs rest)

theorem insert_map (f : α → β) (key : String) (value : α) (pairs : List (String × α)) :
    insert key (f value) (pairs.map (Prod.map id f)) =
      (insert key value pairs).map (Prod.map id f) := by
  induction pairs with
  | nil => rfl
  | cons p rest ih =>
    obtain ⟨k, v⟩ := p
    rw [List.map_cons, Prod.map_apply, id_eq, insert, insert, ih]
    split
    · rfl
    · split <;> rfl

/-- The keys alone make the order. -/
theorem ofPairs_map (f : α → β) (pairs : List (String × α)) :
    ofPairs (pairs.map (Prod.map id f)) = (ofPairs pairs).map (Prod.map id f) := by
  induction pairs with
  | nil => rfl
  | cons p rest ih =>
    obtain ⟨k, v⟩ := p
    rw [List.map_cons, Prod.map_apply, id_eq, ofPairs, ih, insert_map, ofPairs]

/-- The keys of what is inserted into are kept, and the new one is added. -/
theorem mem_insert_keys {key k : String} {value : α} {pairs : List (String × α)} :
    k ∈ (insert key value pairs).map Prod.fst ↔ k = key ∨ k ∈ pairs.map Prod.fst := by
  induction pairs with
  | nil => simp [insert]
  | cons p rest ih =>
    obtain ⟨l, v⟩ := p
    by_cases hlt : key < l
    · simp [insert, hlt]
    · by_cases heq : key = l
      · subst heq
        simp only [insert, hlt, if_false, if_true, List.map_cons, List.mem_cons, or_self_left]
      · simp only [insert, hlt, heq, if_false, List.map_cons, List.mem_cons, ih]
        grind

/-- An ascending list stays ascending. -/
theorem pairwise_insert {key : String} {value : α} {pairs : List (String × α)}
    (h : (pairs.map Prod.fst).Pairwise (· < ·)) :
    ((insert key value pairs).map Prod.fst).Pairwise (· < ·) := by
  induction pairs with
  | nil => simp [insert]
  | cons p rest ih =>
    obtain ⟨l, v⟩ := p
    have hrest := (List.pairwise_cons.1 h).2
    have hfirst := (List.pairwise_cons.1 h).1
    by_cases hlt : key < l
    · simp only [insert, hlt, if_true, List.map_cons]
      refine List.pairwise_cons.2 ⟨fun k hk => ?_, h⟩
      rcases List.mem_cons.1 hk with rfl | hk
      · exact hlt
      · exact String.lt_trans hlt (hfirst k hk)
    · by_cases heq : key = l
      · subst heq
        simpa only [insert, hlt, if_false, if_true, List.map_cons] using h
      · simp only [insert, hlt, heq, if_false, List.map_cons]
        refine List.pairwise_cons.2 ⟨fun k hk => ?_, ih hrest⟩
        rcases mem_insert_keys.1 hk with rfl | hk
        · exact Std.lt_of_le_of_ne (Std.not_lt.1 hlt) (Ne.symm heq)
        · exact hfirst k hk

/-- The keys are ascending, so none of them comes twice. -/
theorem pairwise_ofPairs (pairs : List (String × α)) :
    ((ofPairs pairs).map Prod.fst).Pairwise (· < ·) := by
  induction pairs with
  | nil => simp [ofPairs]
  | cons p rest ih => exact pairwise_insert ih

end OperatorCore.Sorted
