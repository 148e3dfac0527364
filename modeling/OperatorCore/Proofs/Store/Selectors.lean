import OperatorCore.Proofs.Api.Paths
import OperatorCore.Proofs.Diff.Arrangement
import OperatorCore.Proofs.Store.Lookup

/-!
# Label selectors

To ask the API for the objects with some labels, the labels are written as one text: `key=value`
between commas, sorted by the keys. A store in memory compares the labels with those of its objects
instead. Both have to come to the same objects, so the text must lose nothing.

It does not, as long as the characters that divide it are in no key and in no value, which may well
be empty otherwise. Then each `key=value` tells its label, and is the text of no other one. The text
with the commas tells all the labels of a map at once, since with the keys in their order there is
one text for a map. And to have the labels is to have the `key=value` of each of them.
-/

namespace OperatorCore

namespace Labels

/-- The text has neither of the characters that divide a selector. -/
structure IsPlain (s : String) : Prop where
  comma : ',' ∉ s.toList
  equals : '=' ∉ s.toList

instance (s : String) : Decidable (IsPlain s) :=
  decidable_of_iff (',' ∉ s.toList ∧ '=' ∉ s.toList)
    ⟨fun h => ⟨h.1, h.2⟩, fun h => ⟨h.comma, h.equals⟩⟩

/-- A map of texts to texts, none of which has a character that divides a selector. -/
structure Plain (labels : List (String × String)) : Prop where
  distinct : (labels.map Prod.fst).Nodup
  key : ∀ p ∈ labels, IsPlain p.1
  value : ∀ p ∈ labels, IsPlain p.2

instance (labels : List (String × String)) : Decidable (Plain labels) :=
  decidable_of_iff ((labels.map Prod.fst).Nodup ∧
      (∀ p ∈ labels, IsPlain p.1) ∧ ∀ p ∈ labels, IsPlain p.2)
    ⟨fun h => ⟨h.1, h.2.1, h.2.2⟩, fun h => ⟨h.distinct, h.key, h.value⟩⟩

/-- Labels that are texts, as the fields of an object. -/
def fields (labels : List (String × String)) : Fields := labels.map (Prod.map id Value.str)

/-- How a label is written. -/
def entry (p : String × String) : String := p.1 ++ "=" ++ p.2

/-- What stands between the commas of a selector; an empty one has no parts. -/
def parts (selector : String) : List String :=
  if selector = "" then [] else (selector.toList.splitOn ',').map String.ofList

/-- What stands on both sides of the equals sign, if there is one and no other. -/
def readEntry (part : String) : Option (String × String) :=
  match part.toList.splitOn '=' with
  | [key, value] => some (String.ofList key, String.ofList value)
  | _ => none

/-- The labels that a selector tells. -/
def read (selector : String) : Option (List (String × String)) :=
  (parts selector).mapM readEntry

theorem selector_fields (labels : List (String × String)) :
    selector (fields labels) = ",".intercalate ((Sorted.ofPairs labels).map entry) := by
  rw [selector, fields, Sorted.ofPairs_map, List.map_map]
  rfl

theorem toList_entry (p : String × String) :
    (entry p).toList = p.1.toList ++ '=' :: p.2.toList := by
  rw [entry, String.toList_append, String.toList_append, List.append_assoc]
  rfl

theorem readEntry_entry {p : String × String} (hkey : '=' ∉ p.1.toList)
    (hvalue : '=' ∉ p.2.toList) : readEntry (entry p) = some p := by
  have hentry : entry p = "=".intercalate [p.1, p.2] := by
    rw [String.intercalate_cons_cons, String.intercalate_singleton, entry]
  have hsplit : (entry p).toList.splitOn '=' = [p.1.toList, p.2.toList] := by
    rw [hentry]
    exact splitOn_toList_intercalate "=" '=' rfl (List.cons_ne_nil _ _)
      (List.forall_mem_cons.2 ⟨hkey, List.forall_mem_singleton.2 hvalue⟩)
  rw [readEntry, hsplit]
  simp only [String.ofList_toList]

/-- What is written as a plain label is so for no other label, be it plain or not: there is one
equals sign only. -/
theorem entry_inj {p q : String × String} (hkey : IsPlain p.1) (hvalue : IsPlain p.2)
    (h : entry p = entry q) : p = q := by
  have hcount : (entry p).toList.count '=' = (entry q).toList.count '=' := by rw [h]
  rw [toList_entry, toList_entry, List.count_append, List.count_append, List.count_cons_self,
    List.count_cons_self, List.count_eq_zero.2 hkey.equals,
    List.count_eq_zero.2 hvalue.equals] at hcount
  have hqkey : '=' ∉ q.1.toList := List.count_eq_zero.1 (by omega)
  have hqvalue : '=' ∉ q.2.toList := List.count_eq_zero.1 (by omega)
  have hread := readEntry_entry hkey.equals hvalue.equals
  rw [h, readEntry_entry hqkey hqvalue] at hread
  exact (Option.some.inj hread).symm

theorem parts_intercalate {texts : List String} (hfree : ∀ s ∈ texts, ',' ∉ s.toList)
    (hne : ∀ s ∈ texts, s ≠ "") : parts (",".intercalate texts) = texts := by
  cases texts with
  | nil => rw [String.intercalate_nil, parts, if_pos rfl]
  | cons s rest =>
      have hsplit := splitOn_toList_intercalate "," ',' rfl (List.cons_ne_nil s rest) hfree
      have htext : ",".intercalate (s :: rest) ≠ "" := by
        intro h
        rw [h] at hsplit
        obtain ⟨hs, -⟩ := List.cons.inj hsplit
        exact hne s List.mem_cons_self (String.toList_inj.1 hs.symm)
      rw [parts, if_neg htext, hsplit, List.map_map]
      simp

theorem mapM_readEntry {labels : List (String × String)} (hkey : ∀ p ∈ labels, IsPlain p.1)
    (hvalue : ∀ p ∈ labels, IsPlain p.2) :
    (labels.map entry).mapM readEntry = some labels := by
  induction labels with
  | nil => rfl
  | cons p rest ih =>
      obtain ⟨hkey, hkeys⟩ := List.forall_mem_cons.1 hkey
      obtain ⟨hvalue, hvalues⟩ := List.forall_mem_cons.1 hvalue
      rw [List.map_cons, List.mapM_cons, readEntry_entry hkey.equals hvalue.equals,
        ih hkeys hvalues]
      rfl

section Plain

variable {labels : List (String × String)}

theorem Plain.sorted (h : Plain labels) : Plain (Sorted.ofPairs labels) where
  distinct := ((Sorted.ofPairs_perm h.distinct).map Prod.fst).nodup_iff.2 h.distinct
  key p hp := h.key p ((Sorted.ofPairs_perm h.distinct).mem_iff.1 hp)
  value p hp := h.value p ((Sorted.ofPairs_perm h.distinct).mem_iff.1 hp)

theorem Plain.parts_selector (h : Plain labels) :
    parts (selector (fields labels)) = (Sorted.ofPairs labels).map entry := by
  rw [selector_fields]
  refine parts_intercalate ?_ ?_
  · intro s hs
    obtain ⟨p, hp, rfl⟩ := List.mem_map.1 hs
    have hkey := (h.sorted.key p hp).comma
    have hvalue := (h.sorted.value p hp).comma
    simp [entry, hkey, hvalue]
  · intro s hs hempty
    obtain ⟨p, -, rfl⟩ := List.mem_map.1 hs
    have hchars := toList_entry p
    rw [hempty] at hchars
    exact List.append_ne_nil_of_right_ne_nil _ (List.cons_ne_nil _ _) hchars.symm

theorem Plain.read_selector (h : Plain labels) :
    read (selector (fields labels)) = some (Sorted.ofPairs labels) := by
  rw [read, h.parts_selector, mapM_readEntry h.sorted.key h.sorted.value]

theorem get?_fields (labels : List (String × String)) (key : String) :
    Fields.get? (fields labels) key = (labels.lookup key).map .str := by
  rw [Fields.get?_eq_lookup, fields, Sorted.lookup_map]

theorem equal_fields_iff {a b : List (String × String)} :
    (Value.obj (fields a)).equal (.obj (fields b)) = true ↔
      Sorted.ofPairs a = Sorted.ofPairs b := by
  have hinj : Function.Injective (Value.normal ∘ Value.str) := by
    intro s t hst
    exact Value.str.inj hst
  rw [Value.equal_obj_iff, Sorted.ofPairs_eq_iff]
  refine forall_congr' fun key => ?_
  rw [get?_fields, get?_fields, Option.map_map, Option.map_map]
  exact (Option.map_injective hinj).eq_iff

theorem getD_fields_equal_iff {own : List (String × String)}
    (hown : (own.map Prod.fst).Nodup) {p : String × String} :
    (Fields.getD (fields own) p.1).equal (.str p.2) = true ↔ p ∈ own := by
  rw [Sorted.mem_iff_lookup_of_nodup hown, Fields.getD, get?_fields, Value.equal_iff]
  cases own.lookup p.1 with
  | none => simp [Value.normal]
  | some v => simp [Value.normal]

/-- An object with texts as labels has those of a selector if they are among its own. -/
theorem matchBody_fields {own : List (String × String)} (hown : (own.map Prod.fst).Nodup)
    {body : Value} (hbody : Body.labels body = .ok (.obj (fields own)))
    (labels : List (String × String)) :
    ∃ agreed, matchBody (.obj (fields labels)) body = .ok agreed ∧
      (agreed = true ↔ ∀ p ∈ labels, p ∈ own) := by
  refine ⟨_, matchBody_obj hbody _, ?_⟩
  rw [fields, List.all_map, List.all_eq_true]
  exact forall₂_congr fun p _ => getD_fields_equal_iff hown

theorem selectorOf_fields (labels : List (String × String)) :
    selectorOf (.obj (fields labels)) = .ok (selector (fields labels)) := by
  cases labels with
  | nil => rfl
  | cons p rest => rfl

theorem Plain.selector_eq_empty_iff (h : Plain labels) :
    selector (fields labels) = "" ↔ labels = [] := by
  constructor
  · intro hempty
    have hread := h.read_selector
    rw [hempty] at hread
    have hnil : [] = Sorted.ofPairs labels := Option.some.inj hread
    have hperm := Sorted.ofPairs_perm h.distinct
    rw [← hnil] at hperm
    exact List.nil_perm.1 hperm
  · intro hnil
    rw [hnil]
    rfl

theorem Plain.selector_eq_iff (h : Plain labels) {others : List (String × String)}
    (hothers : Plain others) :
    selector (fields labels) = selector (fields others) ↔
      (Value.obj (fields labels)).equal (.obj (fields others)) = true := by
  rw [equal_fields_iff]
  constructor
  · intro hselector
    have hread := h.read_selector
    rw [hselector, hothers.read_selector] at hread
    exact (Option.some.inj hread).symm
  · intro hsorted
    rw [selector_fields, selector_fields, hsorted]

/-- The parts of the selector are among what is written for other labels if the labels are among
these. -/
theorem Plain.forall_parts_iff (h : Plain labels) {own : List (String × String)} :
    (∀ part ∈ parts (selector (fields labels)), part ∈ own.map entry) ↔
      ∀ p ∈ labels, p ∈ own := by
  have hperm := Sorted.ofPairs_perm h.distinct
  rw [h.parts_selector, List.forall_mem_map]
  constructor
  · intro hall p hp
    obtain ⟨q, hq, hentry⟩ := List.mem_map.1 (hall p (hperm.mem_iff.2 hp))
    obtain rfl := entry_inj (h.key p hp) (h.value p hp) hentry.symm
    exact hq
  · intro hall p hp
    exact List.mem_map_of_mem (hall p (hperm.mem_iff.1 hp))

end Plain

/-- A selector is read back as the labels that it has been made of, in the ascending order of their
keys. So it is empty only if there are no labels, and it is another one for other labels. And an
object agrees with the labels if what the selector has between its commas is all written down among
the labels of the object. -/
theorem selector_tells_labels (labels : List (String × String)) (h : Plain labels) :
    (∃ sorted, read (selector (fields labels)) = some sorted ∧
      (sorted.map Prod.fst).Pairwise (· < ·) ∧ sorted.Perm labels) ∧
    (selector (fields labels) = "" ↔ labels = []) ∧
    selectorOf (.obj (fields labels)) = .ok (selector (fields labels)) ∧
    (∀ others, Plain others →
      (selector (fields labels) = selector (fields others) ↔
        (Value.obj (fields labels)).equal (.obj (fields others)) = true)) ∧
    ∀ (own : List (String × String)) (body : Value), (own.map Prod.fst).Nodup →
      Body.labels body = .ok (.obj (fields own)) →
      ∃ agreed, matchBody (.obj (fields labels)) body = .ok agreed ∧
        (agreed = true ↔
          ∀ part ∈ parts (selector (fields labels)), part ∈ own.map entry) := by
  have hread : ∃ sorted, read (selector (fields labels)) = some sorted ∧
      (sorted.map Prod.fst).Pairwise (· < ·) ∧ sorted.Perm labels :=
    ⟨Sorted.ofPairs labels, h.read_selector, Sorted.pairwise_ofPairs labels,
      Sorted.ofPairs_perm h.distinct⟩
  refine ⟨hread, h.selector_eq_empty_iff, selectorOf_fields labels,
    fun _ hothers => h.selector_eq_iff hothers, ?_⟩
  intro own body hown hbody
  obtain ⟨agreed, hmatch, hagreed⟩ := matchBody_fields hown hbody labels
  exact ⟨agreed, hmatch, hagreed.trans h.forall_parts_iff.symm⟩

/-- Labels with an empty key and an empty value. -/
def webLabels : List (String × String) := [("tier", "web"), ("", "x"), ("app", "")]

/-- An object that has these labels and one more. -/
def webPod : Value :=
  .obj [("kind", .str "Pod"),
    ("metadata", .obj [("labels", .obj (fields (("a=b", "c,d") :: webLabels)))])]

theorem webLabels_told :
    Plain webLabels ∧ Plain webLabels.reverse ∧
    ((("a=b", "c,d") :: webLabels).map Prod.fst).Nodup ∧
    Body.labels webPod = .ok (.obj (fields (("a=b", "c,d") :: webLabels))) ∧
    selector (fields webLabels) = "=x,app=,tier=web" ∧
    (∃ sorted, read "=x,app=,tier=web" = some sorted ∧ sorted.Perm webLabels) ∧
    selector (fields webLabels.reverse) = "=x,app=,tier=web" ∧
    matchBody (.obj (fields webLabels)) webPod = .ok true := by
  have hplain : Plain webLabels := by decide
  have hplain' : Plain webLabels.reverse := by decide
  have hown : ((("a=b", "c,d") :: webLabels).map Prod.fst).Nodup := by decide
  have hbody : Body.labels webPod = .ok (.obj (fields (("a=b", "c,d") :: webLabels))) := rfl
  have hselector : selector (fields webLabels) = "=x,app=,tier=web" := by decide
  obtain ⟨⟨sorted, hread, -, hperm⟩, -, -, hsame, hmatch⟩ :=
    selector_tells_labels webLabels hplain
  obtain ⟨agreed, hagreed, hparts⟩ := hmatch _ _ hown hbody
  refine ⟨hplain, hplain', hown, hbody, hselector, ⟨sorted, ?_, hperm⟩, ?_, ?_⟩
  · rw [← hselector, hread]
  · rw [← (hsame _ hplain').2 (by decide), hselector]
  · rw [hagreed, hparts.2 (by decide)]

end Labels

end OperatorCore
