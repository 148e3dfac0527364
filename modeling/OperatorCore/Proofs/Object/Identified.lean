import OperatorCore.Object.Bag
import OperatorCore.Object.Payload

/-!
# Objects whose identity can be told

A body has an identity just when it is an object and its metadata, if there are
any, are one too. Of such a body everything that the engine ever does to its
metadata succeeds, of any other body everything fails: stamping the owners,
taking over a version and telling the identity are all possible or all not.
Neither stamp touches a field that the identity is read from, so an object
keeps its identity through a reconciliation.

The engine works with operations that may fail. Once the identities are known
to exist, the total versions here say the same without the failures, and bags
are searched by plain list functions.
-/

namespace OperatorCore

namespace Fields

theorem put_put (fields : Fields) (key : String) (a b : Value) :
    put (put fields key a) key b = put fields key b := by
  induction fields with
  | nil => simp [put]
  | cons p rest ih =>
      obtain ⟨k, v⟩ := p
      by_cases hk : k = key
      · simp [put, hk]
      · simp [put, hk, ih]

/-- To put what is there changes nothing. -/
theorem put_self {fields : Fields} {key : String} {value : Value}
    (h : get? fields key = some value) : put fields key value = fields := by
  induction fields with
  | nil => cases h
  | cons p rest ih =>
      obtain ⟨k, v⟩ := p
      rw [get?] at h
      by_cases hk : k = key
      · rw [if_pos hk, Option.some.injEq] at h
        simp [put, hk, h]
      · rw [if_neg hk] at h
        simp [put, hk, ih h]

theorem erase_put (fields : Fields) (key : String) (value : Value) :
    erase (put fields key value) key = erase fields key := by
  induction fields with
  | nil => simp [put, erase]
  | cons p rest ih =>
      obtain ⟨k, v⟩ := p
      unfold erase at ih ⊢
      by_cases hk : k = key
      · simp [put, hk]
      · simp [put, hk, ih]

theorem erase_erase (fields : Fields) (key : String) :
    erase (erase fields key) key = erase fields key := by
  simp only [erase, List.filter_filter, Bool.and_self]

theorem erase_comm (fields : Fields) (key key' : String) :
    erase (erase fields key) key' = erase (erase fields key') key := by
  simp only [erase, List.filter_filter, Bool.and_comm]

theorem erase_of_not_has {fields : Fields} {key : String} (h : has fields key = false) :
    erase fields key = fields := by
  induction fields with
  | nil => rfl
  | cons p rest ih =>
      obtain ⟨k, v⟩ := p
      rw [has, get?] at h
      by_cases hk : k = key
      · rw [if_pos hk] at h
        cases h
      · rw [if_neg hk] at h
        have hrest : erase rest key = rest := ih h
        unfold erase at hrest ⊢
        simp [hk, hrest]

theorem get?_filter (keep : String → Bool) (fields : Fields) (key : String) :
    get? (fields.filter fun p => keep p.1) key =
      if keep key then get? fields key else none := by
  induction fields with
  | nil => simp [get?]
  | cons p rest ih =>
      obtain ⟨k, v⟩ := p
      rw [List.filter_cons]
      by_cases hk : k = key
      · subst hk
        cases hkeep : keep k with
        | true => simp [get?]
        | false => simpa [hkeep] using ih
      · cases hkeep : keep k with
        | true => simpa [get?, hk] using ih
        | false => simpa [get?, hk] using ih

theorem get?_append (fields others : Fields) (key : String) :
    get? (fields ++ others) key = (get? fields key).or (get? others key) := by
  induction fields with
  | nil => rfl
  | cons p rest ih =>
      obtain ⟨k, v⟩ := p
      by_cases hk : k = key
      · simp [get?, hk]
      · simpa [get?, hk] using ih

/-- What is put over a default is put over nothing. -/
theorem put_putIfAbsent (fields : Fields) (key : String) (a b : Value) :
    put (putIfAbsent fields key a) key b = put fields key b := by
  unfold putIfAbsent
  split
  · rfl
  · exact put_put fields key a b

theorem get?_putIfAbsent (fields : Fields) (key key' : String) (value : Value) :
    get? (putIfAbsent fields key value) key' =
      if key = key' then some ((get? fields key).getD value) else get? fields key' := by
  rw [putIfAbsent, has]
  cases hk : get? fields key with
  | none =>
      rw [Option.isSome_none, if_neg Bool.false_ne_true, get?_put]
      rfl
  | some v =>
      rw [Option.isSome_some, if_pos rfl]
      split
      · next heq => rw [← heq, hk, Option.getD_some]
      · rfl

end Fields

namespace Body

/-- A body that is an object with the given fields, and metadata, possibly
absent, with the given fields. -/
structure Shaped (body : Value) (top md : Fields) : Prop where
  body_eq : body = .obj top
  meta_eq : (Fields.get? top "metadata").getD (.obj []) = .obj md

/-- The identity of the body can be told. -/
def Identified (body : Value) : Prop := ∃ i, identify body = .ok i

section Shaped

variable {body : Value} {top md : Fields}

theorem Shaped.metadata (h : Shaped body top md) :
    Body.metadata body = .ok (.obj md) := by
  rw [h.body_eq, ← h.meta_eq]
  rfl

theorem Shaped.identify (h : Shaped body top md) :
    Body.identify body = .ok
      ⟨((Fields.get? md "namespace").getD .null).orElse (.str ""),
        ((Fields.get? top "kind").getD .null).orElse (.str ""),
        ((Fields.get? md "name").getD .null).orElse (.str "")⟩ := by
  have hm := h.metadata
  have hb := h.body_eq
  simp only [Body.identify, hm]
  subst hb
  rfl

theorem Shaped.resourceVersion (h : Shaped body top md) :
    Body.resourceVersion body
      = .ok ((Fields.get? md "resourceVersion").getD .null) := by
  have hm := h.metadata
  simp only [Body.resourceVersion, hm]
  rfl

theorem Shaped.identified (h : Shaped body top md) : Identified body :=
  ⟨_, h.identify⟩

theorem Shaped.putInMetadata (h : Shaped body top md) (key : String)
    (value : Value) :
    Body.putInMetadata body key value
      = .ok (.obj (Fields.put top "metadata" (.obj (Fields.put md key value)))) := by
  have hb := h.body_eq
  have hm := h.meta_eq
  subst hb
  simp only [Body.putInMetadata, Value.setDefault, Value.fieldsFor, bind,
    Except.bind, pure, Except.pure, hm, Value.assign, Fields.put_putIfAbsent]

theorem Shaped.put (key : String) (value : Value) :
    Shaped (.obj (Fields.put top "metadata" (.obj (Fields.put md key value))))
      (Fields.put top "metadata" (.obj (Fields.put md key value)))
      (Fields.put md key value) :=
  ⟨rfl, by rw [Fields.get?_put]; rfl⟩

theorem Shaped.dropFromMetadata (h : Shaped body top md) (key : String) :
    Body.dropFromMetadata body key = .ok
      (if Fields.has top "metadata"
        then .obj (Fields.put top "metadata" (.obj (Fields.erase md key)))
        else body) := by
  have hm := h.metadata
  have hb := h.body_eq
  simp only [Body.dropFromMetadata, hm]
  subst hb
  simp only [bind, Except.bind, Value.fieldsFor, Value.assign]
  split <;> rfl

theorem Shaped.drop (h : Shaped body top md) (key : String) :
    Shaped
      (if Fields.has top "metadata"
        then .obj (Fields.put top "metadata" (.obj (Fields.erase md key)))
        else body)
      (if Fields.has top "metadata"
        then Fields.put top "metadata" (.obj (Fields.erase md key)) else top)
      (if Fields.has top "metadata" then Fields.erase md key else md) := by
  split
  · exact ⟨rfl, by rw [Fields.get?_put]; rfl⟩
  · exact h

end Shaped

theorem shaped_of_metadata {body : Value} {md : Fields}
    (h : metadata body = .ok (.obj md)) : ∃ top, Shaped body top md := by
  cases body with
  | obj top => exact ⟨top, rfl, Except.ok.inj h⟩
  | _ => cases h

theorem identified_iff_shaped {body : Value} :
    Identified body ↔ ∃ top md, Shaped body top md := by
  constructor
  · rintro ⟨i, hi⟩
    cases hm : metadata body with
    | error e =>
        rw [identify, hm] at hi
        cases hi
    | ok v =>
        cases v with
        | obj md =>
            obtain ⟨top, hs⟩ := shaped_of_metadata hm
            exact ⟨top, md, hs⟩
        | _ =>
            rw [identify, hm] at hi
            cases hi
  · rintro ⟨top, md, h⟩
    exact h.identified

/-- Nothing can be put into the metadata of any other body. -/
theorem putInMetadata_error {body : Value} (h : ¬ Identified body) (key : String)
    (value : Value) : ∃ e, putInMetadata body key value = .error e := by
  cases hp : putInMetadata body key value with
  | error e => exact ⟨e, rfl⟩
  | ok result =>
      exfalso
      apply h
      cases body with
      | obj top =>
          cases hm : (Fields.get? top "metadata").getD (.obj []) with
          | obj md => exact identified_iff_shaped.2 ⟨top, md, rfl, hm⟩
          | _ =>
              simp only [putInMetadata, Value.setDefault, Value.fieldsFor, bind,
                Except.bind, pure, Except.pure, hm, Value.assign] at hp
              cases hp
      | _ => cases hp

theorem setOwnerReferences_error {body : Value} (h : ¬ Identified body)
    (owners : List Value) : ∃ e, setOwnerReferences body owners = .error e :=
  putInMetadata_error h _ _

theorem identify_error {body : Value} (h : ¬ Identified body) :
    ∃ e, identify body = .error e := by
  cases hi : identify body with
  | error e => exact ⟨e, rfl⟩
  | ok i => exact absurd ⟨i, hi⟩ h

/-! ## The operations without their failures -/

/-- The identity of a body that has one. -/
def key (body : Value) : Identity := (identify body).toOption.getD default

/-- The version of a body, null if it has none. -/
def version (body : Value) : Value := (resourceVersion body).toOption.getD .null

/-- The body with the given owners in place of its own. -/
def owned (owners : List Value) (body : Value) : Value :=
  (setOwnerReferences body owners).toOption.getD body

/-- The body with another version, or without one if that is null. -/
def versioned (version body : Value) : Value :=
  (setResourceVersion body version).toOption.getD body

section Total

variable {body : Value}

theorem Identified.identify (h : Identified body) :
    Body.identify body = .ok (key body) := by
  obtain ⟨i, hi⟩ := h
  rw [key, hi]
  rfl

theorem key_eq {i : Identity} (h : Body.identify body = .ok i) : key body = i := by
  rw [key, h]
  rfl

theorem Identified.resourceVersion (h : Identified body) :
    Body.resourceVersion body = .ok (version body) := by
  obtain ⟨top, md, hs⟩ := identified_iff_shaped.1 h
  rw [version, hs.resourceVersion]
  rfl

theorem Identified.setOwnerReferences (h : Identified body) (owners : List Value) :
    Body.setOwnerReferences body owners = .ok (owned owners body) := by
  obtain ⟨top, md, hs⟩ := identified_iff_shaped.1 h
  have hp := hs.putInMetadata "ownerReferences" (.arr owners)
  rw [owned, Body.setOwnerReferences, hp]
  rfl

theorem Identified.setResourceVersion (h : Identified body) (v : Value) :
    Body.setResourceVersion body v = .ok (versioned v body) := by
  obtain ⟨top, md, hs⟩ := identified_iff_shaped.1 h
  rw [versioned, Body.setResourceVersion]
  split
  · rw [hs.dropFromMetadata]
    rfl
  · rw [hs.putInMetadata]
    rfl

theorem Shaped.owned {top md : Fields} (h : Shaped body top md)
    (owners : List Value) :
    Body.owned owners body = .obj (Fields.put top "metadata"
      (.obj (Fields.put md "ownerReferences" (.arr owners)))) := by
  rw [Body.owned, Body.setOwnerReferences, h.putInMetadata]
  rfl

theorem Shaped.versioned {top md : Fields} (h : Shaped body top md) {v : Value}
    (hv : v.isNull = false) :
    Body.versioned v body = .obj (Fields.put top "metadata"
      (.obj (Fields.put md "resourceVersion" v))) := by
  rw [Body.versioned, Body.setResourceVersion, hv, if_neg (by simp),
    h.putInMetadata]
  rfl

theorem Shaped.versioned_null {top md : Fields} (h : Shaped body top md) {v : Value}
    (hv : v.isNull = true) :
    Body.versioned v body
      = if Fields.has top "metadata"
        then .obj (Fields.put top "metadata"
          (.obj (Fields.erase md "resourceVersion")))
        else body := by
  rw [Body.versioned, Body.setResourceVersion, if_pos hv, h.dropFromMetadata]
  rfl

/-- New metadata leave the identity alone if they agree with the old ones on
the two fields that it is read from. -/
theorem Shaped.identify_congr {body' : Value} {top md top' md' : Fields}
    (h : Shaped body top md) (h' : Shaped body' top' md')
    (hk : Fields.get? top' "kind" = Fields.get? top "kind")
    (hns : Fields.get? md' "namespace" = Fields.get? md "namespace")
    (hn : Fields.get? md' "name" = Fields.get? md "name") :
    Body.identify body' = Body.identify body := by
  rw [h.identify, h'.identify, hk, hns, hn]

theorem Shaped.identify_owned {top md : Fields} (h : Shaped body top md)
    (owners : List Value) :
    Body.identify (Body.owned owners body) = Body.identify body := by
  rw [h.owned owners]
  refine h.identify_congr (Shaped.put _ _) ?_ ?_ ?_ <;> rw [Fields.get?_put] <;>
    exact if_neg (by decide)

theorem Shaped.identify_versioned {top md : Fields} (h : Shaped body top md)
    (v : Value) :
    Body.identify (Body.versioned v body) = Body.identify body := by
  cases hv : v.isNull with
  | false =>
      rw [h.versioned hv]
      refine h.identify_congr (Shaped.put _ _) ?_ ?_ ?_ <;>
        rw [Fields.get?_put] <;> exact if_neg (by decide)
  | true =>
      rw [h.versioned_null hv]
      refine h.identify_congr (h.drop _) ?_ ?_ ?_
      · split
        · rw [Fields.get?_put]
          exact if_neg (by decide)
        · rfl
      · split
        · rw [Fields.get?_erase]
          exact if_neg (by decide)
        · rfl
      · split
        · rw [Fields.get?_erase]
          exact if_neg (by decide)
        · rfl

theorem Identified.owned (h : Identified body) (owners : List Value) :
    Identified (Body.owned owners body) := by
  obtain ⟨top, md, hs⟩ := identified_iff_shaped.1 h
  obtain ⟨i, hi⟩ := h
  exact ⟨i, by rw [hs.identify_owned, hi]⟩

theorem Identified.versioned (h : Identified body) (v : Value) :
    Identified (Body.versioned v body) := by
  obtain ⟨top, md, hs⟩ := identified_iff_shaped.1 h
  obtain ⟨i, hi⟩ := h
  exact ⟨i, by rw [hs.identify_versioned, hi]⟩

theorem Identified.key_owned (h : Identified body) (owners : List Value) :
    key (Body.owned owners body) = key body := by
  obtain ⟨top, md, hs⟩ := identified_iff_shaped.1 h
  rw [key, hs.identify_owned, ← key]

theorem Identified.key_versioned (h : Identified body) (v : Value) :
    key (Body.versioned v body) = key body := by
  obtain ⟨top, md, hs⟩ := identified_iff_shaped.1 h
  rw [key, hs.identify_versioned, ← key]

/-- Who owns an object has nothing to do with its identity, also if it has none. -/
theorem identify_of_setOwnerReferences {owners : List Value} {object : Value}
    (h : Body.setOwnerReferences body owners = .ok object) :
    Body.identify object = Body.identify body := by
  by_cases hbody : Identified body
  · obtain ⟨top, md, hs⟩ := identified_iff_shaped.1 hbody
    rw [hbody.setOwnerReferences] at h
    cases h
    exact hs.identify_owned owners
  · obtain ⟨e, he⟩ := setOwnerReferences_error hbody owners
    rw [he] at h
    cases h

theorem Identified.identify_of_setResourceVersion (h : Identified body) {v object : Value}
    (hset : Body.setResourceVersion body v = .ok object) :
    Body.identify object = Body.identify body := by
  obtain ⟨top, md, hs⟩ := identified_iff_shaped.1 h
  rw [h.setResourceVersion] at hset
  cases hset
  exact hs.identify_versioned v

/-- The version of an object is the one that it was given last. -/
theorem Identified.version_versioned (h : Identified body) {text : String} :
    version (Body.versioned (.str text) body) = .str text := by
  obtain ⟨top, md, hs⟩ := identified_iff_shaped.1 h
  rw [hs.versioned rfl, version, (Shaped.put _ _).resourceVersion, Fields.get?_put]
  rfl

theorem Identified.versioned_versioned (h : Identified body) {v v' : Value}
    (hv : v.isNull = false) (hv' : v'.isNull = false) :
    Body.versioned v' (Body.versioned v body) = Body.versioned v' body := by
  obtain ⟨top, md, hs⟩ := identified_iff_shaped.1 h
  rw [hs.versioned hv, (Shaped.put _ _).versioned hv', hs.versioned hv',
    Fields.put_put, Fields.put_put]

theorem Shaped.essence {top md : Fields} (h : Shaped body top md) :
    ∃ v, Body.essence body = .ok v := by
  have hb := h.body_eq
  have hm := h.meta_eq
  subst hb
  simp only [Body.essence, Value.toFields, hm, bind, Except.bind, Value.fieldsFor,
    pure, Except.pure]
  exact ⟨_, rfl⟩

/-- The payload of such a body can be told among any keys that are texts. -/
theorem Identified.payload (h : Identified body) (keys : List String) :
    ∃ v, Body.payload body (.arr (keys.map .str)) = .ok v := by
  obtain ⟨top, md, hs⟩ := identified_iff_shaped.1 h
  show ∃ v, payloadAmong body (keys.map .str) = .ok v
  induction keys with
  | nil => exact hs.essence
  | cons key rest ih =>
      have hb := hs.body_eq
      subst hb
      cases hk : Fields.get? top key with
      | none =>
          simp only [List.map_cons, payloadAmong, Value.contains, Fields.has, hk,
            bind, Except.bind]
          exact ih
      | some v =>
          refine ⟨v, ?_⟩
          simp only [List.map_cons, payloadAmong, Value.contains, Fields.has, hk,
            bind, Except.bind, Value.index, Value.keyText]
          rfl

/-! ## Labels -/

/-- The labels of a body, none if it has no such field. -/
def labels (body : Value) : Except Fault Value := do
  (← metadata body).field "labels" (.obj [])

/-- The metadata and the labels, as far as there are any, are objects. -/
def Labelled (body : Value) : Prop := ∃ own, labels body = .ok (.obj own)

theorem Shaped.labels {top md : Fields} (h : Shaped body top md) :
    Body.labels body = .ok ((Fields.get? md "labels").getD (.obj [])) := by
  have hm := h.metadata
  simp only [Body.labels, hm]
  rfl

theorem Labelled.identified (h : Labelled body) : Identified body := by
  obtain ⟨own, hown⟩ := h
  cases hm : metadata body with
  | error e =>
      rw [Body.labels, hm] at hown
      cases hown
  | ok v =>
      cases v with
      | obj md =>
          obtain ⟨top, hs⟩ := shaped_of_metadata hm
          exact hs.identified
      | _ =>
          rw [Body.labels, hm] at hown
          cases hown

theorem Identified.labels_owned (h : Identified body) (owners : List Value) :
    labels (Body.owned owners body) = labels body := by
  obtain ⟨top, md, hs⟩ := identified_iff_shaped.1 h
  rw [hs.owned, hs.labels, (Shaped.put _ _).labels, Fields.get?_put,
    if_neg (by decide)]

theorem Identified.labels_versioned (h : Identified body) {v : Value}
    (hv : v.isNull = false) : labels (Body.versioned v body) = labels body := by
  obtain ⟨top, md, hs⟩ := identified_iff_shaped.1 h
  rw [hs.versioned hv, hs.labels, (Shaped.put _ _).labels, Fields.get?_put,
    if_neg (by decide)]

theorem Labelled.owned (h : Labelled body) (owners : List Value) :
    Labelled (Body.owned owners body) := by
  rw [Labelled, h.identified.labels_owned]
  exact h

theorem Labelled.versioned (h : Labelled body) {v : Value} (hv : v.isNull = false) :
    Labelled (Body.versioned v body) := by
  rw [Labelled, h.identified.labels_versioned hv]
  exact h

end Total

end Body

namespace Tagged

/-- The identity of an object that has one. -/
def key (item : Tagged) : Identity := Body.key item.object

def owned (owners : List Value) (item : Tagged) : Tagged :=
  { item with object := Body.owned owners item.object }

def versioned (version : Value) (item : Tagged) : Tagged :=
  { item with object := Body.versioned version item.object }

/-- What the engine goes by: who the object is, if it tells, and who is responsible for
it. -/
def entry (item : Tagged) : Except Fault Identity × Lifecycle :=
  (item.identity, item.lifecycle)

@[simp] theorem isManaged_owned (owners : List Value) (item : Tagged) :
    (item.owned owners).isManaged = item.isManaged := rfl

@[simp] theorem isManaged_versioned (version : Value) (item : Tagged) :
    (item.versioned version).isManaged = item.isManaged := rfl

end Tagged

namespace Bag

/-- The identities and the lifecycles of a bag, whatever else its objects say. -/
def entries (bag : Bag) : List (Except Fault Identity × Lifecycle) := bag.map Tagged.entry

@[simp] theorem entries_nil : entries [] = [] := rfl

@[simp] theorem entries_cons (item : Tagged) (rest : Bag) :
    entries (item :: rest) = item.entry :: entries rest := rfl

@[simp] theorem entries_append (a b : Bag) : entries (a ++ b) = entries a ++ entries b :=
  List.map_append

/-- All the identities of a bag can be told. -/
def Identified (bag : Bag) : Prop := ∀ item ∈ bag, Body.Identified item.object

/-- The first object with an identity, in a bag where all have one. -/
def counterpart (bag : Bag) (i : Identity) : Option Tagged :=
  List.find? (fun item => item.key.same i) bag

theorem same_of_counterpart {bag : Bag} {i : Identity} {item : Tagged}
    (h : bag.counterpart i = some item) : item.key.same i = true :=
  List.find?_some (p := fun item : Tagged => item.key.same i) h

theorem counterpart_eq_none_iff {bag : Bag} {i : Identity} :
    bag.counterpart i = none ↔ ∀ item ∈ bag, item.key.same i = false := by
  rw [counterpart, List.find?_eq_none]
  simp only [Bool.not_eq_true]

theorem identified_nil : Identified [] := by
  intro item hitem
  cases hitem

theorem Identified.tail {item : Tagged} {rest : Bag}
    (h : Identified (item :: rest)) : Identified rest :=
  fun other hmem => h other (List.mem_cons_of_mem _ hmem)

theorem Identified.head {item : Tagged} {rest : Bag}
    (h : Identified (item :: rest)) : Body.Identified item.object :=
  h item List.mem_cons_self

theorem identified_cons {item : Tagged} {rest : Bag}
    (h : Body.Identified item.object) (hrest : Identified rest) :
    Identified (item :: rest) := by
  intro other hmem
  rcases List.mem_cons.1 hmem with rfl | hmem
  · exact h
  · exact hrest other hmem

theorem Identified.find? {bag : Bag} (h : bag.Identified) (i : Identity) :
    Bag.find? i bag = .ok (bag.counterpart i) := by
  induction bag with
  | nil => rfl
  | cons item rest ih =>
      have hi : item.identity = .ok item.key := h.head.identify
      rw [counterpart, List.find?_cons, Bag.find?, hi]
      simp only [bind, Except.bind, pure, Except.pure]
      cases hs : item.key.same i with
      | true => rw [if_pos rfl]
      | false => rw [if_neg (by simp)]; exact ih h.tail

end Bag

end OperatorCore
