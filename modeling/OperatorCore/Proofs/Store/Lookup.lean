import OperatorCore.Engine.Observation
import OperatorCore.Proofs.Engine.Frame
import OperatorCore.Proofs.Store.Soundness

/-!
# Lookups in a store in memory

Which objects an observable finds is said without the store: a lookup of a
point finds the object with its identity, a lookup of a set finds the objects
of its kind, in its namespace, with its labels. On a sound store that does not
feign the absence of objects, an observation answers what all the lookups find,
one after another, if each of them is answered at all. Whether it is depends on
the keys, the injected failures and the labels, none of which change while only
reads are made. So what an observation comes to, in whatever way it ends, is a
function of the store that it begins with.
-/

namespace OperatorCore

variable {σ ω : Type}

namespace Labels

/-- An object has the labels, as far as that can be told. -/
def agreed (labels body : Value) : Bool :=
  match matchBody labels body with
  | .ok agreed => agreed
  | .error _ => false

theorem matchBody_eq (labels body : Value) :
    matchBody labels body = (do
      let own ← Body.labels body
      agree own (← labels.fieldsFor "items")) := by
  unfold matchBody Body.labels
  cases Body.metadata body <;> rfl

/-- Of an object the labels alone matter. -/
theorem matchBody_congr (labels : Value) {body body' : Value}
    (h : Body.labels body' = Body.labels body) :
    matchBody labels body' = matchBody labels body := by
  rw [matchBody_eq, matchBody_eq, h]

theorem agreed_congr (labels : Value) {body body' : Value}
    (h : Body.labels body' = Body.labels body) :
    agreed labels body' = agreed labels body := by
  rw [agreed, agreed, matchBody_congr labels h]

/-- An object agrees if it has each of the labels. -/
theorem agree_obj (own fields : Fields) :
    agree (.obj own) fields =
      .ok (fields.all fun p => (Fields.getD own p.1).equal p.2) := by
  induction fields with
  | nil => rfl
  | cons p rest ih =>
      obtain ⟨key, value⟩ := p
      have hfield : (Value.obj own).field key .null = .ok (Fields.getD own key) := rfl
      rw [agree, hfield, List.all_cons]
      simp only [bind, Except.bind]
      cases (Fields.getD own key).equal value with
      | true => exact ih
      | false => rfl

theorem matchBody_obj {own : Fields} {body : Value} (h : Body.labels body = .ok (.obj own))
    (fields : Fields) :
    matchBody (.obj fields) body =
      .ok (fields.all fun p => (Fields.getD own p.1).equal p.2) := by
  rw [matchBody_eq, h]
  exact agree_obj own fields

/-- Whether an object with labels has those of a selector can be told. -/
theorem matchBody_labelled {fields : Fields} {body : Value}
    (h : Body.Labelled body) :
    ∃ agreed, matchBody (.obj fields) body = .ok agreed := by
  obtain ⟨own, hown⟩ := h
  exact ⟨_, matchBody_obj hown fields⟩

/-- A selector that can be told is an object, if it is not empty. -/
theorem orElse_of_selectorOf {labels : Value} {text : String}
    (h : selectorOf labels = .ok text) :
    ∃ fields, labels.orElse (.obj []) = .obj fields := by
  unfold selectorOf at h
  unfold Value.orElse
  split at h
  · next htruthy =>
      rw [if_pos htruthy]
      cases labels with
      | obj fields => exact ⟨fields, rfl⟩
      | _ => cases h
  · next hfalsy =>
      rw [if_neg hfalsy]
      exact ⟨[], rfl⟩

end Labels

namespace Observable

/-- The identity under which a lookup calls the store. -/
def callKey (o : Observable) : Identity :=
  match o.target with
  | .point name => ⟨o.ns.orElse (.str ""), o.kind, name.orElse (.str "")⟩
  | .set _ => ⟨o.ns.orElse (.str ""), o.kind, .str ""⟩

/-- The lookup is of the kind and the namespace of an identity. -/
def covers (o : Observable) (i : Identity) : Bool :=
  i.kind.equal o.kind && (o.ns.isNull || i.ns.equal o.ns)

/-- The lookup finds an object with the identity. -/
def finds (o : Observable) (i : Identity) (body : Value) : Bool :=
  match o.target with
  | .point _ => i.same o.callKey
  | .set labels => o.covers i && Labels.agreed (labels.orElse (.obj [])) body

theorem covers_congr (o : Observable) {i j : Identity} (h : i.same j = true) :
    o.covers i = o.covers j := by
  have hcongr : ∀ {a b c : Value}, a.equal b = true → a.equal c = b.equal c := by
    intro a b c hab
    rw [Bool.eq_iff_iff]
    exact ⟨Value.equal_trans (Value.equal_symm hab), Value.equal_trans hab⟩
  simp only [Identity.same, Bool.and_eq_true] at h
  rw [covers, covers, hcongr h.1.1, hcongr h.1.2]

theorem finds_congr (o : Observable) {i j : Identity} (h : i.same j = true)
    (body : Value) : o.finds i body = o.finds j body := by
  unfold finds
  split
  · rw [Bool.eq_iff_iff]
    exact ⟨Identity.same_trans (Identity.same_symm h), Identity.same_trans h⟩
  · rw [o.covers_congr h]

end Observable

namespace MemoryStore

/-- A lookup is answered. -/
def Answers (s : MemoryStore) (o : Observable) : Prop :=
  checkKey o.callKey = .ok () ∧
  match o.target with
  | .point _ => s.failure? (.get, o.callKey) = none
  | .set labels =>
    s.failure? (.list, o.callKey) = none ∧ (∃ text, o.text = .ok text) ∧
    ∀ p ∈ s.objects, o.covers p.1 = true →
      ∃ agreed, Labels.matchBody (labels.orElse (.obj [])) p.2 = .ok agreed

/-- What a lookup finds. -/
def found (s : MemoryStore) (o : Observable) : List Value :=
  (s.objects.filter fun p => o.finds p.1 p.2).map Prod.snd

/-- What some lookups find, one after another. -/
def observed (s : MemoryStore) (observables : List Observable) : Bag :=
  (observables.flatMap s.found).map Tagged.managed

theorem observed_cons (s : MemoryStore) (o : Observable) (rest : List Observable) :
    s.observed (o :: rest) = (s.found o).map Tagged.managed ++ s.observed rest :=
  List.map_append

/-- No failure that is injected into a lookup looks like the absence of the
object. -/
def Candid (s : MemoryStore) (o : Observable) : Prop :=
  o.isPoint = true → ∀ fault, s.failure? (.get, o.callKey) = some fault →
    fault.isNotFound = false

theorem steady_looked : Steady Looked where
  refl _ := ⟨rfl, rfl, rfl, rfl⟩
  trans h h' := ⟨h'.objects.trans h.objects, h'.failures.trans h.failures,
    h'.version.trans h.version, h'.mutations.trans h.mutations⟩

theorem asStore_readsKeep : asStore.ReadsKeep Looked where
  get _ kind ns name s := looked_get kind ns name s
  list _ kind ns labels s := looked_list kind ns labels s

theorem failure?_congr {s s' : MemoryStore} (h : s'.failures = s.failures) (c : Call) :
    s'.failure? c = s.failure? c := by
  rw [failure?, failure?, h]

theorem Candid.of_failures {s s' : MemoryStore} {o : Observable} (hc : s.Candid o)
    (h : s'.failures = s.failures) : s'.Candid o := by
  intro hpoint fault hfault
  rw [failure?_congr h] at hfault
  exact hc hpoint fault hfault

/-- Lookups stay answered while no failures are injected and the objects have
labels. -/
theorem Answers.of_labelled {s s' : MemoryStore} {o : Observable} (h : s.Answers o)
    (hfailures : s'.failures = s.failures)
    (hlabelled : ∀ p ∈ s'.objects, Body.Labelled p.2) : s'.Answers o := by
  obtain ⟨hkey, htarget⟩ := h
  refine ⟨hkey, ?_⟩
  cases ht : o.target with
  | point name =>
      rw [ht] at htarget
      exact (failure?_congr hfailures _).trans htarget
  | set labels =>
      rw [ht] at htarget
      obtain ⟨hnone, ⟨text, htext⟩, -⟩ := htarget
      refine ⟨(failure?_congr hfailures _).trans hnone, ⟨text, htext⟩, fun p hp _ => ?_⟩
      rw [Observable.text, ht] at htext
      cases hselector : Labels.selectorOf labels with
      | error e =>
          simp only [hselector] at htext
          cases htext
      | ok selector =>
          obtain ⟨fields, hfields⟩ := Labels.orElse_of_selectorOf hselector
          rw [hfields]
          exact Labels.matchBody_labelled (hlabelled p hp)

theorem Looked.found_eq {s s' : MemoryStore} (h : Looked s s') (o : Observable) :
    s'.found o = s.found o := by
  rw [found, found, h.objects]

/-! ## Objects by their identity -/

theorem object?_of_objects {s s' : MemoryStore} (h : s'.objects = s.objects)
    (i : Identity) : s'.object? i = s.object? i := by
  rw [object?, object?, h]

variable {s : MemoryStore}

/-- On a sound store an object is the one with its key. -/
theorem Sound.object?_of_mem (hs : Sound s) {p : Identity × Value}
    (hp : p ∈ s.objects) {i : Identity} (hi : p.1.same i = true) :
    s.object? i = some p.2 := by
  have hdistinct := hs.distinct
  clear hs
  rw [object?]
  generalize s.objects = objects at hp hdistinct
  induction objects with
  | nil => cases hp
  | cons q rest ih =>
      obtain ⟨hq, hrest⟩ := List.pairwise_cons.1 hdistinct
      rw [List.find?_cons]
      rcases List.mem_cons.1 hp with rfl | hmem
      · rw [hi]
        rfl
      · cases hqi : q.1.same i with
        | true =>
            have hsame := Identity.same_trans hqi (Identity.same_symm hi)
            rw [hq p hmem] at hsame
            cases hsame
        | false => exact ih hmem hrest

theorem mem_of_object? {i : Identity} {body : Value} (h : s.object? i = some body) :
    ∃ p ∈ s.objects, p.1.same i = true ∧ p.2 = body := by
  obtain ⟨p, hfind, hbody⟩ := Option.map_eq_some_iff.1 h
  have hsame := List.find?_some hfind
  exact ⟨p, List.mem_of_find?_eq_some hfind, hsame, hbody⟩

/-- A lookup finds an object of the store with its identity. -/
theorem Sound.mem_found_iff (hs : Sound s) {o : Observable} {body : Value} :
    body ∈ s.found o ↔
      s.object? (Body.key body) = some body ∧ o.finds (Body.key body) body = true := by
  unfold found
  rw [List.mem_map]
  constructor
  · rintro ⟨p, hp, rfl⟩
    obtain ⟨hmem, hfinds⟩ := List.mem_filter.1 hp
    have hsame := Identity.same_symm (hs.held p hmem).same
    exact ⟨hs.object?_of_mem hmem hsame, o.finds_congr hsame _ ▸ hfinds⟩
  · rintro ⟨hobject, hfinds⟩
    obtain ⟨p, hmem, hsame, rfl⟩ := mem_of_object? hobject
    refine ⟨p, List.mem_filter.2 ⟨hmem, ?_⟩, rfl⟩
    rw [o.finds_congr hsame]
    exact hfinds

/-- What one lookup finds has distinct identities. -/
theorem Sound.pairwise_found (hs : Sound s) (o : Observable) :
    (s.found o).Pairwise fun a b => (Body.key a).same (Body.key b) = false := by
  rw [found, List.pairwise_map]
  refine (hs.distinct.filter _).imp_of_mem ?_
  intro p q hp hq hpq
  rw [Bool.eq_false_iff] at hpq ⊢
  intro hsame
  have hp' := (hs.held p (List.mem_filter.1 hp).1).same
  have hq' := (hs.held q (List.mem_filter.1 hq).1).same
  exact hpq (Identity.same_trans (Identity.same_symm hp') (Identity.same_trans hsame hq'))

theorem Sound.held_of_object? (hs : Sound s) {i : Identity} {body : Value}
    (h : s.object? i = some body) : Held s.nextVersion i body := by
  obtain ⟨p, hmem, hsame, rfl⟩ := mem_of_object? h
  obtain ⟨hid, hkey, hversion⟩ := hs.held p hmem
  exact ⟨hid, Identity.same_trans hkey hsame, hversion⟩

theorem Sound.object?_congr (hs : Sound s) {i j : Identity} (h : i.same j = true)
    {body : Value} (hi : s.object? i = some body) : s.object? j = some body := by
  obtain ⟨p, hmem, hsame, rfl⟩ := mem_of_object? hi
  exact hs.object?_of_mem hmem (Identity.same_trans hsame h)

/-! ## What is observed -/

variable {observables : List Observable}

theorem Sound.mem_observed_iff (hs : Sound s) {c : Tagged} :
    c ∈ s.observed observables ↔ c.lifecycle = .managed ∧
      s.object? c.key = some c.object ∧
      ∃ o ∈ observables, o.finds c.key c.object = true := by
  unfold observed
  rw [List.mem_map]
  constructor
  · rintro ⟨body, hbody, rfl⟩
    obtain ⟨o, ho, hfound⟩ := List.mem_flatMap.1 hbody
    obtain ⟨hobject, hfinds⟩ := hs.mem_found_iff.1 hfound
    exact ⟨rfl, hobject, o, ho, hfinds⟩
  · rintro ⟨hlifecycle, hobject, o, ho, hfinds⟩
    obtain ⟨body, lifecycle⟩ := c
    obtain rfl : lifecycle = .managed := hlifecycle
    exact ⟨body, List.mem_flatMap.2 ⟨o, ho, hs.mem_found_iff.2 ⟨hobject, hfinds⟩⟩, rfl⟩

theorem Sound.identified_observed (hs : Sound s) :
    (s.observed observables).Identified := by
  intro c hc
  exact (hs.held_of_object? (hs.mem_observed_iff.1 hc).2.1).identified

theorem Sound.counterpart_observed (hs : Sound s) {i : Identity} {c : Tagged}
    (h : (s.observed observables).counterpart i = some c) :
    c = .managed c.object ∧ s.object? i = some c.object ∧
      ∃ o ∈ observables, o.finds i c.object = true := by
  have hsame := Bag.same_of_counterpart h
  obtain ⟨hlifecycle, hobject, o, ho, hfinds⟩ :=
    hs.mem_observed_iff.1 (List.mem_of_find?_eq_some h)
  refine ⟨?_, hs.object?_congr hsame hobject, o, ho, ?_⟩
  · obtain ⟨body, lifecycle⟩ := c
    obtain rfl : lifecycle = .managed := hlifecycle
    rfl
  · rw [← o.finds_congr hsame]
    exact hfinds

/-- The counterpart of an identity is the object that the store has there, if it
is observed at all. -/
theorem Sound.counterpart_observed_iff (hs : Sound s) {i : Identity} {body : Value} :
    (s.observed observables).counterpart i = some (.managed body) ↔
      s.object? i = some body ∧ ∃ o ∈ observables, o.finds i body = true := by
  refine ⟨fun h => (hs.counterpart_observed h).2, ?_⟩
  rintro ⟨hobject, o, ho, hfinds⟩
  have hsame : (Tagged.managed body).key.same i = true :=
    (hs.held_of_object? hobject).same
  have hmem : Tagged.managed body ∈ s.observed observables := by
    refine hs.mem_observed_iff.2 ⟨rfl, ?_, o, ho, ?_⟩
    · exact hs.object?_congr (Identity.same_symm hsame) hobject
    · rw [o.finds_congr hsame]
      exact hfinds
  cases hc : (s.observed observables).counterpart i with
  | none =>
      have hno := Bag.counterpart_eq_none_iff.1 hc _ hmem
      rw [hsame] at hno
      cases hno
  | some c =>
      obtain ⟨hmanaged, hobject', -⟩ := hs.counterpart_observed hc
      rw [hobject, Option.some.injEq] at hobject'
      rw [hmanaged, hobject']

/-! ## What an observation answers -/

theorem select_cons (o : Observable) (labels : Value) (i : Identity) (body : Value)
    (rest : List (Identity × Value)) :
    select o.kind o.ns labels ((i, body) :: rest) =
      (if o.covers i then Labels.matchBody labels body else .ok false) >>= fun here =>
        (select o.kind o.ns labels rest).map fun others =>
          if here then body :: others else others := by
  rw [select]
  unfold Observable.covers
  split <;> rfl

theorem select_of_told {o : Observable} {labels : Value}
    {objects : List (Identity × Value)}
    (h : ∀ p ∈ objects, o.covers p.1 = true →
      ∃ agreed, Labels.matchBody labels p.2 = .ok agreed) :
    select o.kind o.ns labels objects = .ok ((objects.filter fun p =>
      o.covers p.1 && Labels.agreed labels p.2).map Prod.snd) := by
  induction objects with
  | nil => rfl
  | cons p rest ih =>
      obtain ⟨i, body⟩ := p
      rw [select_cons, ih fun q hq => h q (List.mem_cons_of_mem _ hq), List.filter_cons]
      cases hc : o.covers i with
      | false => rfl
      | true =>
          obtain ⟨agreed, hm⟩ := h (i, body) List.mem_cons_self hc
          have ha : Labels.agreed labels body = agreed := by
            rw [Labels.agreed, hm]
          rw [if_pos rfl, hm, ha]
          cases agreed <;> rfl

theorem told_of_select {o : Observable} {labels : Value}
    {objects : List (Identity × Value)} {bodies : List Value}
    (h : select o.kind o.ns labels objects = .ok bodies) :
    ∀ p ∈ objects, o.covers p.1 = true →
      ∃ agreed, Labels.matchBody labels p.2 = .ok agreed := by
  induction objects generalizing bodies with
  | nil =>
      intro p hp
      cases hp
  | cons p rest ih =>
      obtain ⟨i, body⟩ := p
      rw [select_cons] at h
      obtain ⟨here, hhere, h⟩ := bind_eq_ok_iff.1 h
      cases hrest : select o.kind o.ns labels rest with
      | error e =>
          rw [hrest] at h
          cases h
      | ok others =>
          intro q hq hc
          rcases List.mem_cons.1 hq with rfl | hmem
          · rw [if_pos hc] at hhere
            exact ⟨here, hhere⟩
          · exact ih hrest q hmem hc

/-- The labels of the objects that a selection is made from can be told. -/
theorem select_eq_ok_iff {o : Observable} {labels : Value}
    {objects : List (Identity × Value)} {bodies : List Value} :
    select o.kind o.ns labels objects = .ok bodies ↔
      (∀ p ∈ objects, o.covers p.1 = true →
        ∃ agreed, Labels.matchBody labels p.2 = .ok agreed) ∧
      bodies = (objects.filter fun p =>
        o.covers p.1 && Labels.agreed labels p.2).map Prod.snd := by
  constructor
  · intro h
    have htold := told_of_select h
    exact ⟨htold, Except.ok.inj (h.symm.trans (select_of_told htold))⟩
  · rintro ⟨htold, rfl⟩
    exact select_of_told htold

theorem Sound.found_point (hs : Sound s) {o : Observable} {name : Value}
    (ht : o.target = .point name) : s.found o = (s.object? o.callKey).toList := by
  have hfinds : ∀ i body, o.finds i body = i.same o.callKey := by
    intro i body
    rw [Observable.finds, ht]
  have hdistinct := hs.distinct
  simp only [found, object?, hfinds]
  clear hs
  generalize s.objects = objects at hdistinct
  induction objects with
  | nil => rfl
  | cons q rest ih =>
      obtain ⟨hq, hrest⟩ := List.pairwise_cons.1 hdistinct
      rw [List.filter_cons, List.find?_cons]
      cases hqo : q.1.same o.callKey with
      | false => exact ih hrest
      | true =>
          have hnone : rest.filter (fun p => p.1.same o.callKey) = [] := by
            refine List.filter_eq_nil_iff.2 ?_
            intro p hp hpo
            have hsame := Identity.same_trans hqo (Identity.same_symm hpo)
            rw [hq p hp] at hsame
            cases hsame
          rw [hnone]
          rfl

theorem found_set {o : Observable} {labels : Value} (ht : o.target = .set labels) :
    s.found o = (s.objects.filter fun p =>
      o.covers p.1 && Labels.agreed (labels.orElse (.obj [])) p.2).map Prod.snd := by
  have hfinds : ∀ i body, o.finds i body =
      (o.covers i && Labels.agreed (labels.orElse (.obj [])) body) := by
    intro i body
    rw [Observable.finds, ht]
  simp only [found, hfinds]

/-- Keys that cannot be looked up do not look absent. -/
theorem isNotFound_of_checkKey {i : Identity} {e : Fault} (h : checkKey i = .error e) :
    e.isNotFound = false := by
  rw [checkKey] at h
  split at h
  · cases h
    rfl
  · cases h

theorem outcome_get (kind ns name : Value) (s : MemoryStore) :
    let i : Identity := ⟨ns.orElse (.str ""), kind, name⟩
    ((get kind ns name).run s).1 =
      match checkKey i with
      | .error e => .error e
      | .ok _ =>
        match s.failure? (.get, i) with
        | some fault => .error fault
        | none =>
          match s.object? i with
          | some body => .ok body
          | none => .error (notFound i) := by
  simp only [get, Attempt.run_bind, run_call, Attempt.run_read]
  cases checkKey ⟨ns.orElse (.str ""), kind, name⟩ with
  | error e => rfl
  | ok _ =>
      cases s.failure? (.get, ⟨ns.orElse (.str ""), kind, name⟩) with
      | some fault => rfl
      | none =>
          have hobject : object?
              { s with calls := s.calls ++ [(.get, ⟨ns.orElse (.str ""), kind, name⟩)] }
              ⟨ns.orElse (.str ""), kind, name⟩ =
              s.object? ⟨ns.orElse (.str ""), kind, name⟩ := rfl
          simp only [bind, Except.bind, hobject]
          cases s.object? ⟨ns.orElse (.str ""), kind, name⟩ <;> rfl

theorem outcome_list (kind ns labels : Value) (s : MemoryStore) :
    let i : Identity := ⟨ns.orElse (.str ""), kind, .str ""⟩
    ((list kind ns labels).run s).1 =
      match checkKey i with
      | .error e => .error e
      | .ok _ =>
        match s.failure? (.list, i) with
        | some fault => .error fault
        | none => select kind ns labels s.objects := by
  simp only [list, Attempt.run_bind, run_call, Attempt.run_state, Attempt.run_liftM]
  cases checkKey ⟨ns.orElse (.str ""), kind, .str ""⟩ with
  | error e => rfl
  | ok _ => cases s.failure? (.list, ⟨ns.orElse (.str ""), kind, .str ""⟩) <;> rfl

/-! ## What lookups come to -/

/-- What a lookup comes to. An object whose absence is feigned is not found. -/
def lookup (s : MemoryStore) (o : Observable) : Except Fault (List Value) := do
  checkKey o.callKey
  match o.target with
  | .point _ =>
    match s.failure? (.get, o.callKey) with
    | some fault => if fault.isNotFound then .ok [] else .error fault
    | none => .ok (s.object? o.callKey).toList
  | .set labels =>
    match s.failure? (.list, o.callKey) with
    | some fault => .error fault
    | none =>
      let bodies ← select o.kind o.ns (labels.orElse (.obj [])) s.objects
      let _ ← o.text
      .ok bodies

/-- What some lookups come to, one after another. -/
def lookups (s : MemoryStore) : List Observable → Except Fault Bag
  | [] => .ok []
  | o :: rest => do
    let bodies ← s.lookup o
    let others ← s.lookups rest
    .ok (bodies.map Tagged.managed ++ others)

theorem Looked.lookup_eq {s s' : MemoryStore} (h : Looked s s') (o : Observable) :
    s'.lookup o = s.lookup o := by
  simp only [lookup, failure?_congr h.failures, h.objects, object?_of_objects h.objects]

theorem Looked.lookups_eq {s s' : MemoryStore} (h : Looked s s')
    (observables : List Observable) : s'.lookups observables = s.lookups observables := by
  induction observables with
  | nil => rfl
  | cons o rest ih => rw [lookups, lookups, h.lookup_eq, ih]

/-- The reads of a store are those of a store in memory. -/
structure ReadBy (memory : σ → MemoryStore) (store : ObjectStore σ) : Prop where
  get : ∀ apiVersion kind ns name s,
    (store.get apiVersion kind ns name s).outcome =
        ((MemoryStore.get kind ns name).run (memory s)).1 ∧
      memory (store.get apiVersion kind ns name s).state =
        ((MemoryStore.get kind ns name).run (memory s)).2
  list : ∀ apiVersion kind ns labels s,
    (store.list apiVersion kind ns labels s).outcome =
        ((MemoryStore.list kind ns labels).run (memory s)).1 ∧
      memory (store.list apiVersion kind ns labels s).state =
        ((MemoryStore.list kind ns labels).run (memory s)).2

theorem readBy_asStore : ReadBy id asStore :=
  ⟨fun _ _ _ _ _ => ⟨rfl, rfl⟩, fun _ _ _ _ _ => ⟨rfl, rfl⟩⟩

section Reads

variable {memory : σ → MemoryStore} {store : ObjectStore σ}

theorem ReadBy.keeps (h : ReadBy memory store) :
    store.ReadsKeep fun s s' => Looked (memory s) (memory s') where
  get apiVersion kind ns name s := by
    rw [(h.get apiVersion kind ns name s).2]
    exact looked_get kind ns name (memory s)
  list apiVersion kind ns labels s := by
    rw [(h.list apiVersion kind ns labels s).2]
    exact looked_list kind ns labels (memory s)

theorem steady_looked_by (memory : σ → MemoryStore) :
    Steady fun s s' => Looked (memory s) (memory s') :=
  ⟨fun _ => steady_looked.refl _, steady_looked.trans⟩

end Reads

/-- On a sound and candid store a lookup that is answered finds what there is. -/
theorem Sound.lookup_eq_ok_iff (hs : Sound s) {o : Observable} (hc : s.Candid o)
    {bodies : List Value} :
    s.lookup o = .ok bodies ↔ s.Answers o ∧ bodies = s.found o := by
  rw [lookup, Answers]
  cases checkKey o.callKey with
  | error e => simp [bind, Except.bind]
  | ok _ =>
      simp only [true_and, bind_eq_ok_iff]
      cases ht : o.target with
      | point name =>
          have hpoint : o.isPoint = true := by
            rw [Observable.isPoint, ht]
          rw [hs.found_point ht]
          cases hf : s.failure? (.get, o.callKey) with
          | some fault => simp [hc hpoint fault hf]
          | none => simp [eq_comm]
      | set labels =>
          rw [found_set ht]
          cases s.failure? (.list, o.callKey) with
          | some fault => simp
          | none =>
              simp only [bind_eq_ok_iff, select_eq_ok_iff, Except.ok.injEq]
              constructor
              · rintro ⟨_, _, ⟨htold, rfl⟩, text, htext, rfl⟩
                exact ⟨⟨trivial, ⟨text, htext⟩, htold⟩, rfl⟩
              · rintro ⟨⟨-, ⟨text, htext⟩, htold⟩, rfl⟩
                exact ⟨(), _, ⟨htold, rfl⟩, text, htext, rfl⟩

theorem Sound.lookups_eq_ok_iff (hs : Sound s) {observables : List Observable}
    (hc : ∀ o ∈ observables, s.Candid o) {bag : Bag} :
    s.lookups observables = .ok bag ↔
      (∀ o ∈ observables, s.Answers o) ∧ bag = s.observed observables := by
  induction observables generalizing bag with
  | nil => simp [lookups, observed, eq_comm]
  | cons o rest ih =>
      obtain ⟨hfirst, hothers⟩ := List.forall_mem_cons.1 hc
      rw [lookups, List.forall_mem_cons, observed_cons]
      simp only [bind_eq_ok_iff, hs.lookup_eq_ok_iff hfirst, ih hothers]
      constructor
      · rintro ⟨_, ⟨hanswers, rfl⟩, _, ⟨hall, rfl⟩, h⟩
        exact ⟨⟨hanswers, hall⟩, (Except.ok.inj h).symm⟩
      · rintro ⟨⟨hanswers, hall⟩, rfl⟩
        exact ⟨_, ⟨hanswers, rfl⟩, _, ⟨hall, rfl⟩, rfl⟩

/-- A lookup that is answered finds what there is, or less. -/
theorem Sound.sublist_of_lookup (hs : Sound s) {o : Observable} {bodies : List Value}
    (h : s.lookup o = .ok bodies) : bodies.Sublist (s.found o) := by
  obtain ⟨_, -, h⟩ := bind_eq_ok_iff.1 h
  cases ht : o.target with
  | point name =>
      simp only [ht] at h
      split at h
      · split at h
        · cases h
          exact List.nil_sublist _
        · cases h
      · rw [← hs.found_point ht] at h
        cases h
        exact List.Sublist.refl _
  | set labels =>
      simp only [ht] at h
      split at h
      · cases h
      · obtain ⟨selected, hselect, h⟩ := bind_eq_ok_iff.1 h
        obtain ⟨text, -, h⟩ := bind_eq_ok_iff.1 h
        cases h
        have hselected := (select_eq_ok_iff.1 hselect).2
        rw [← found_set ht] at hselected
        obtain rfl := hselected
        exact List.Sublist.refl _

theorem Sound.sublist_of_lookups (hs : Sound s) {observables : List Observable} {bag : Bag}
    (h : s.lookups observables = .ok bag) : bag.Sublist (s.observed observables) := by
  induction observables generalizing bag with
  | nil =>
      cases h
      exact List.nil_sublist _
  | cons o rest ih =>
      obtain ⟨bodies, hone, h⟩ := bind_eq_ok_iff.1 h
      obtain ⟨others, hrest, h⟩ := bind_eq_ok_iff.1 h
      cases h
      rw [observed_cons]
      exact ((hs.sublist_of_lookup hone).map _).append (ih hrest)

end MemoryStore

namespace Observation

open MemoryStore

variable {memory : σ → MemoryStore} {store : ObjectStore σ}

theorem outcome_observeOne (hreads : ReadBy memory store) (source : Source)
    (o : Observable) (w : World σ ω) :
    ((observeOne store source o).run w).1 = (memory w.store).lookup o := by
  unfold observeOne lookup
  cases ht : o.target with
  | point name =>
      have hkey : o.callKey = ⟨o.ns.orElse (.str ""), o.kind, name.orElse (.str "")⟩ := by
        rw [Observable.callKey, ht]
      obtain ⟨text, htext⟩ : ∃ text, o.text = .ok text := by
        rw [Observable.text, ht]
        exact ⟨_, rfl⟩
      have hget := (hreads.get o.apiVersion o.kind o.ns (name.orElse (.str "")) w.store).1
      simp only [outcome_get, ← hkey] at hget
      simp only [Attempt.run_bind, Attempt.run_outcome, Step.run_request, hget, htext]
      cases hcheck : checkKey o.callKey with
      | error e =>
          simp only [isNotFound_of_checkKey hcheck]
          rfl
      | ok _ =>
          cases (memory w.store).failure? (.get, o.callKey) with
          | some fault =>
              simp only []
              cases fault.isNotFound <;> rfl
          | none => cases (memory w.store).object? o.callKey <;> rfl
  | set labels =>
      have hkey : o.callKey = ⟨o.ns.orElse (.str ""), o.kind, .str ""⟩ := by
        rw [Observable.callKey, ht]
      have hlist := (hreads.list o.apiVersion o.kind o.ns (labels.orElse (.obj [])) w.store).1
      simp only [outcome_list, ← hkey] at hlist
      simp only [Attempt.run_bind, Step.run_request, hlist]
      cases checkKey o.callKey with
      | error e => rfl
      | ok _ =>
          cases (memory w.store).failure? (.list, o.callKey) with
          | some fault => rfl
          | none =>
              cases select o.kind o.ns (labels.orElse (.obj [])) (memory w.store).objects with
              | error e => rfl
              | ok selected => cases o.text <;> rfl

theorem outcome_observe (hreads : ReadBy memory store) (source : Source)
    (observables : List Observable) (w : World σ ω) :
    ((observe store source observables).run w).1 = (memory w.store).lookups observables := by
  induction observables generalizing w with
  | nil => rfl
  | cons o rest ih =>
      have hone := outcome_observeOne hreads source o w
      have hlooked := (keeps_observeOne steady_true (steady_looked_by memory) hreads.keeps
        source o w).2
      rw [observe, lookups, Attempt.run_bind, ← hone]
      rcases hrun : (observeOne store source o).run w with ⟨e | bodies, w₁⟩
      · rfl
      · rw [hrun] at hlooked
        have hrest := (ih w₁).trans (hlooked.lookups_eq rest)
        simp only [Attempt.run_bind, ← hrest]
        rcases (observe store source rest).run w₁ with ⟨e | others, w₂⟩ <;> rfl

/-- An observation answers what its lookups find, if all of them are answered. -/
theorem observe_eq_ok_iff {w : World MemoryStore ω} (hs : Sound w.store)
    (source : Source) {observables : List Observable}
    (hc : ∀ o ∈ observables, w.store.Candid o) {bag : Bag} :
    ((observe asStore source observables).run w).1 = .ok bag ↔
      (∀ o ∈ observables, w.store.Answers o) ∧
      bag = w.store.observed observables := by
  rw [outcome_observe readBy_asStore]
  exact hs.lookups_eq_ok_iff hc

/-- An observation that is answered finds what the lookups find, or less. -/
theorem sublist_of_observe (hreads : ReadBy memory store) {source : Source}
    {observables : List Observable} {w w' : World σ ω} (hs : Sound (memory w.store))
    {bag : Bag} (h : (observe store source observables).run w = (.ok bag, w')) :
    bag.Sublist ((memory w.store).observed observables) := by
  refine hs.sublist_of_lookups ?_
  rw [← outcome_observe hreads source observables w, h]

end Observation

end OperatorCore
