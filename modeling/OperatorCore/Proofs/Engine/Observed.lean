import Mathlib.Data.List.Count
import OperatorCore.Proofs.Engine.Convergence
import OperatorCore.Proofs.Engine.Survey

/-!
# What an observation comes to

An observation makes one read for each observable, in order, and nothing else. The first read
that is refused is the last one: its fault is raised, and what was read before is gone. If
none is refused, the answer has what each of the reads has found, one after another; the
object of a point that is absent is nothing that is found.

The step is one lookup, and the induction is on the observables that are left. It needs that
reads do not change what other reads are answered with. This is less than that they do not
change the store: a store in memory writes down each call, and answers the same
(`MemoryStore.readsChangeNothing`).

There, a lookup finds an object at most once, since the identities are distinct. So an object
is observed as often as there are observables that match it, and whether one does is said by
the fields of the identity and by the labels.
-/

namespace OperatorCore

variable {σ ω : Type}

/-! ## The reads of an observation -/

namespace Observable

/-- The read that is made for an observable. -/
def request (o : Observable) : Read :=
  match o.target with
  | .point name => .get o.apiVersion o.kind o.ns (name.orElse (.str ""))
  | .set labels => .list o.apiVersion o.kind o.ns (labels.orElse (.obj []))

/-- The parts of an observable are of the types that they should have. -/
structure WellFormed (o : Observable) : Prop where
  kind : ∃ text, o.kind = .str text
  ns : o.ns = .null ∨ ∃ text, o.ns = .str text
  target : match o.target with
    | .point name => ∃ text, name = .str text
    | .set labels => ∃ fields, labels = .obj fields

theorem WellFormed.labels {o : Observable} (h : o.WellFormed) {labels : Value}
    (ht : o.target = .set labels) :
    ∃ fields, labels = .obj fields ∧ labels.orElse (.obj []) = .obj fields := by
  have htarget := h.target
  rw [ht] at htarget
  obtain ⟨fields, rfl⟩ := htarget
  cases fields with
  | nil => exact ⟨[], rfl, rfl⟩
  | cons p rest => exact ⟨p :: rest, rfl, rfl⟩

theorem WellFormed.text {o : Observable} (h : o.WellFormed) : ∃ text, o.text = .ok text := by
  rw [Observable.text]
  cases ht : o.target with
  | point name => exact ⟨_, rfl⟩
  | set labels =>
      obtain ⟨fields, rfl, -⟩ := h.labels ht
      cases fields <;> exact ⟨_, rfl⟩

end Observable

namespace ObjectStore

variable (store : ObjectStore σ)

/-- The answer to the read of an observable. -/
def answer (s : σ) (o : Observable) : Except Fault (List Value) :=
  match o.target with
  | .point name =>
    (store.get o.apiVersion o.kind o.ns (name.orElse (.str "")) s).outcome.map fun body => [body]
  | .set labels =>
    (store.list o.apiVersion o.kind o.ns (labels.orElse (.obj [])) s).outcome

/-- The state in which the read of an observable leaves the store. -/
def afterRead (s : σ) (o : Observable) : σ :=
  match o.target with
  | .point name => (store.get o.apiVersion o.kind o.ns (name.orElse (.str "")) s).state
  | .set labels => (store.list o.apiVersion o.kind o.ns (labels.orElse (.obj [])) s).state

/-- Reads are answered the same after a read as before it. -/
def ReadsChangeNothing : Prop :=
  ∀ s o p, store.answer (store.afterRead s o) p = store.answer s p

/-- What the read of an observable finds; nothing where it fails. -/
def found (s : σ) (o : Observable) : List Value := (store.answer s o).toOption.getD []

/-- The record of the read of an observable. -/
def reading (s : σ) (o : Observable) : StoreEvent :=
  .read o.request (match store.answer s o with
    | .ok _ => none
    | .error fault => some fault)

end ObjectStore

namespace Observation

variable {store : ObjectStore σ}

theorem refused_iff {o : Observable} {s : σ} {fault : Fault} :
    Refused store o s fault ↔ store.answer s o = .error fault ∧
      (o.isPoint = true → fault.isNotFound = false) := by
  rw [Refused, ObjectStore.answer, Observable.isPoint]
  cases o.target with
  | set labels => simp
  | point name =>
      simp only []
      generalize (store.get o.apiVersion o.kind o.ns (name.orElse (.str "")) s).outcome = r
      cases r <;> simp [Except.map]

/-- None of the lookups is refused. -/
def AllAnswered (store : ObjectStore σ) (s : σ) (observables : List Observable) : Prop :=
  ∀ o ∈ observables, ∀ fault, ¬ Refused store o s fault

/-- One lookup makes one read. -/
theorem run_observeOne (store : ObjectStore σ) (source : Source) {o : Observable}
    (ho : o.WellFormed) (w : World (Recorded σ) ω) :
    ∃ r log, (observeOne store.recorded source o).run w =
        (r, { w with
          store := ⟨store.afterRead w.store.state o,
            w.store.events ++ [store.reading w.store.state o]⟩
          log }) ∧
      match r with
      | .ok bodies => (∀ fault, ¬ Refused store o w.store.state fault) ∧
          bodies = store.found w.store.state o
      | .error fault => Refused store o w.store.state fault := by
  obtain ⟨text, htext⟩ := ho.text
  simp only [refused_iff, ObjectStore.found, ObjectStore.reading, ObjectStore.answer,
    ObjectStore.afterRead, Observable.request, Observable.isPoint, observeOne]
  cases ht : o.target with
  | point name =>
      simp only [Attempt.run_bind, Attempt.run_outcome, Step.run_request, ObjectStore.recorded,
        ObjectStore.noted, Reply.fault?, htext]
      cases (store.get o.apiVersion o.kind o.ns (name.orElse (.str ""))
        w.store.state).outcome with
      | ok body =>
          refine ⟨.ok [body], _, rfl, ?_, rfl⟩
          intro fault h
          cases h.1
      | error fault =>
          cases habsent : fault.isNotFound with
          | true =>
              simp only [habsent, if_true]
              refine ⟨.ok [], _, rfl, ?_, rfl⟩
              intro fault' h
              obtain rfl := Except.error.inj h.1
              rw [h.2 trivial] at habsent
              cases habsent
          | false =>
              simp only [habsent, Bool.false_eq_true, if_false]
              exact ⟨.error fault, _, rfl, rfl, fun _ => habsent⟩
  | set labels =>
      simp only [Attempt.run_bind, Step.run_request, ObjectStore.recorded, ObjectStore.noted,
        Reply.fault?, htext]
      cases (store.list o.apiVersion o.kind o.ns (labels.orElse (.obj []))
        w.store.state).outcome with
      | ok bodies =>
          refine ⟨.ok bodies, _, rfl, ?_, rfl⟩
          intro fault h
          cases h.1
      | error fault => exact ⟨.error fault, _, rfl, rfl, nofun⟩

section Reads

variable (hreads : store.ReadsChangeNothing) {s : σ} {o p : Observable}
include hreads

theorem found_after : store.found (store.afterRead s o) p = store.found s p := by
  rw [ObjectStore.found, hreads, ObjectStore.found]

theorem reading_after : store.reading (store.afterRead s o) p = store.reading s p := by
  rw [ObjectStore.reading, hreads, ObjectStore.reading]

theorem refused_after {fault : Fault} :
    Refused store p (store.afterRead s o) fault ↔ Refused store p s fault := by
  rw [refused_iff, refused_iff, hreads]

end Reads

/-- How an observation ends, and what has been asked of the store for it: either all lookups
are answered, or one is the first that is refused. -/
def Comes (store : ObjectStore σ) (observables : List Observable) (s s' : Recorded σ)
    (r : Except Fault Bag) : Prop :=
  (AllAnswered store s.state observables ∧
    s'.events = s.events ++ observables.map (store.reading s.state) ∧
    r = .ok ((observables.flatMap (store.found s.state)).map Tagged.managed)) ∨
  ∃ before o after fault, observables = before ++ o :: after ∧
    AllAnswered store s.state before ∧ Refused store o s.state fault ∧
    s'.events = s.events ++ (before ++ [o]).map (store.reading s.state) ∧ r = .error fault

/-- One lookup that is answered, and then the others. -/
theorem Comes.cons (hreads : store.ReadsChangeNothing) {o : Observable}
    {rest : List Observable} {s s' : Recorded σ} {r : Except Fault Bag}
    (ho : ∀ fault, ¬ Refused store o s.state fault)
    (hrest : Comes store rest
      ⟨store.afterRead s.state o, s.events ++ [store.reading s.state o]⟩ s' r) :
    Comes store (o :: rest) s s'
      (r.map fun bag => (store.found s.state o).map Tagged.managed ++ bag) := by
  have hreading : store.reading (store.afterRead s.state o) = store.reading s.state :=
    funext fun p => reading_after hreads
  have hfound : store.found (store.afterRead s.state o) = store.found s.state :=
    funext fun p => found_after hreads
  rcases hrest with ⟨hall, hevents, rfl⟩ |
    ⟨before, p, after, fault, rfl, hbefore, hp, hevents, rfl⟩
  · refine .inl ⟨?_, ?_, ?_⟩
    · refine List.forall_mem_cons.2 ⟨ho, fun p hp fault hrefused => ?_⟩
      exact hall p hp fault ((refused_after hreads).2 hrefused)
    · rw [hevents, hreading, List.append_assoc]
      rfl
    · rw [hfound, List.flatMap_cons, List.map_append]
      rfl
  · refine .inr ⟨o :: before, p, after, fault, rfl, ?_, (refused_after hreads).1 hp, ?_, rfl⟩
    · refine List.forall_mem_cons.2 ⟨ho, fun q hq fault hrefused => ?_⟩
      exact hbefore q hq fault ((refused_after hreads).2 hrefused)
    · rw [hevents, hreading, List.append_assoc]
      rfl

theorem run_observe (hreads : store.ReadsChangeNothing) (source : Source)
    {observables : List Observable} (hwell : ∀ o ∈ observables, o.WellFormed)
    (w : World (Recorded σ) ω) :
    ∃ r s' log, (observe store.recorded source observables).run w =
        (r, { w with store := s', log }) ∧
      Comes store observables w.store s' r := by
  induction observables generalizing w with
  | nil => exact ⟨_, _, _, rfl, .inl ⟨by simp [AllAnswered], by simp, rfl⟩⟩
  | cons o rest ih =>
      obtain ⟨ho, hwell⟩ := List.forall_mem_cons.1 hwell
      obtain ⟨r, log, hone, hcomes⟩ := run_observeOne store source ho w
      simp only [observe, Attempt.run_bind, hone]
      cases r with
      | error fault =>
          exact ⟨_, _, _, rfl, .inr ⟨[], o, rest, fault, rfl, by simp [AllAnswered], hcomes,
            rfl, rfl⟩⟩
      | ok bodies =>
          obtain ⟨hanswered, rfl⟩ := hcomes
          obtain ⟨r, s', log', hothers, hrest⟩ := ih hwell
            { w with
              store := ⟨store.afterRead w.store.state o,
                w.store.events ++ [store.reading w.store.state o]⟩
              log }
          have hall := Comes.cons hreads hanswered hrest
          simp only [hothers]
          cases r with
          | error fault => exact ⟨_, _, _, rfl, hall⟩
          | ok bag => exact ⟨_, _, _, rfl, hall⟩

end Observation

/-! ## Observations of a store in memory -/

namespace Body

/-- A label of an object, null if it does not have it. -/
def label (body : Value) (key : String) : Value :=
  match labels body with
  | .ok (.obj own) => Fields.getD own key
  | _ => .null

end Body

namespace Observable

/-- An observable matches an object with the identity: a point has all of it; a set has the
kind, the namespace, if it has one at all, and labels of which the object has each. -/
def isFor (o : Observable) (i : Identity) (body : Value) : Bool :=
  i.kind.equal o.kind &&
    match o.target with
    | .point name => i.ns.equal (o.ns.orElse (.str "")) && i.name.equal (name.orElse (.str ""))
    | .set labels => (o.ns.isNull || i.ns.equal o.ns) &&
      match labels with
      | .obj fields => fields.all fun p => (Body.label body p.1).equal p.2
      | _ => true

theorem WellFormed.finds_eq {o : Observable} (h : o.WellFormed) (i : Identity) {body : Value}
    (hbody : Body.Labelled body) : o.finds i body = o.isFor i body := by
  rw [finds, isFor]
  cases ht : o.target with
  | point name =>
      rw [callKey, ht, Identity.same, Bool.and_comm (i.ns.equal _), Bool.and_assoc]
  | set labels =>
      obtain ⟨fields, rfl, hlabels⟩ := h.labels ht
      obtain ⟨own, hown⟩ := hbody
      simp only [hlabels, covers, Labels.agreed, Labels.matchBody_obj hown, Bool.and_assoc,
        Body.label, hown]

end Observable

namespace MemoryStore

variable {s s' : MemoryStore}

theorem Looked.answer_eq (h : Looked s s') (o : Observable) :
    asStore.answer s' o = asStore.answer s o := by
  have hobjects := h.objects
  have hfailure : ∀ c, s'.failure? c = s.failure? c := failure?_congr h.failures
  have hobject : ∀ i, s'.object? i = s.object? i := object?_of_objects hobjects
  have hget : ∀ kind ns name, ((get kind ns name).run s').1 = ((get kind ns name).run s).1 := by
    intro kind ns name
    simp only [outcome_get, hfailure, hobject]
  have hlist : ∀ kind ns labels,
      ((list kind ns labels).run s').1 = ((list kind ns labels).run s).1 := by
    intro kind ns labels
    simp only [outcome_list, hfailure, hobjects]
  simp only [ObjectStore.answer, asStore, reply, hget, hlist]

/-- A read leaves behind the record of its call, and nothing by which another one could be
answered differently. -/
theorem readsChangeNothing : asStore.ReadsChangeNothing := by
  intro s o p
  refine Looked.answer_eq ?_ p
  rw [ObjectStore.afterRead]
  cases o.target with
  | point name => exact looked_get _ _ _ s
  | set labels => exact looked_list _ _ _ s

theorem checkKey_callKey {o : Observable} (h : o.WellFormed) : checkKey o.callKey = .ok () := by
  have htext : ∀ {v : Value}, (v = .null ∨ ∃ text, v = .str text) →
      ∃ text, v.orElse (.str "") = .str text := by
    intro v hv
    rw [Value.orElse]
    split
    · next htruthy =>
        rcases hv with rfl | hv
        · cases htruthy
        · exact hv
    · exact ⟨"", rfl⟩
  obtain ⟨kind, hkind⟩ := h.kind
  obtain ⟨ns, hns⟩ := htext h.ns
  rw [Observable.callKey, hkind, hns]
  have htarget := h.target
  cases ht : o.target with
  | set labels => rfl
  | point name =>
      rw [ht] at htarget
      obtain ⟨name, hname⟩ := htext (.inr htarget)
      simp only [hname]
      rfl

section Quiet

variable (hfailures : s.failures = []) (hlabelled : ∀ p ∈ s.objects, Body.Labelled p.2)
include hfailures

theorem failure?_of_nil (c : Call) : s.failure? c = none := by
  rw [failure?, hfailures]
  rfl

include hlabelled

/-- Without injected failures, every lookup is answered. -/
theorem answers_of_wellFormed {o : Observable} (h : o.WellFormed) : s.Answers o := by
  refine ⟨checkKey_callKey h, ?_⟩
  cases ht : o.target with
  | point name => exact failure?_of_nil hfailures _
  | set labels =>
      obtain ⟨fields, -, hlabels⟩ := h.labels ht
      refine ⟨failure?_of_nil hfailures _, h.text, fun p hp _ => ?_⟩
      rw [hlabels]
      exact Labels.matchBody_labelled (hlabelled p hp)

end Quiet

/-- Of the objects that are held, a lookup finds those that it matches, and each once. -/
theorem Sound.count_found (hs : Sound s) (o : Observable) {p : Identity × Value}
    (hp : p ∈ s.objects) :
    (s.found o).count p.2 = if o.finds p.1 p.2 then 1 else 0 := by
  have hnodup : (s.found o).Nodup := by
    refine (hs.pairwise_found o).imp ?_
    intro a b hab heq
    rw [heq, Identity.same_refl] at hab
    cases hab
  have hsame := (hs.held p hp).same
  have hmem : p.2 ∈ s.found o ↔ o.finds p.1 p.2 = true := by
    rw [hs.mem_found_iff, hs.object?_of_mem hp (Identity.same_symm hsame), o.finds_congr hsame]
    exact and_iff_right rfl
  rw [hnodup.count]
  simp only [hmem]

/-- An object is observed as often as there are lookups that find it. -/
theorem Sound.count_observed (hs : Sound s) (observables : List Observable)
    {p : Identity × Value} (hp : p ∈ s.objects) :
    (s.observed observables).count (.managed p.2) =
      observables.countP fun o => o.finds p.1 p.2 := by
  have hinjective : Function.Injective Tagged.managed := by
    intro a b heq
    exact congrArg Tagged.object heq
  induction observables with
  | nil => rfl
  | cons o rest ih =>
      rw [observed_cons, List.count_append, ih, List.count_map_of_injective _ _ hinjective,
        hs.count_found o hp, List.countP_cons, Nat.add_comm]

theorem Sound.mem_objects_of_observed (hs : Sound s) {observables : List Observable}
    {item : Tagged} (h : item ∈ s.observed observables) :
    ∃ p ∈ s.objects, item = .managed p.2 := by
  obtain ⟨hlifecycle, hobject, -⟩ := hs.mem_observed_iff.1 h
  obtain ⟨p, hp, -, hbody⟩ := mem_of_object? hobject
  obtain ⟨object, lifecycle⟩ := item
  obtain rfl : lifecycle = .managed := hlifecycle
  exact ⟨p, hp, congrArg Tagged.managed hbody.symm⟩

end MemoryStore

namespace Observation

/-- Observables that are well formed are read one by one, up to the first that is refused, on
every store whose reads change nothing. A store in memory without injected failures refuses
none of them, and each of its objects is observed once for each observable that matches it. -/
theorem observe_exact (source : Source) {observables : List Observable}
    (hwell : ∀ o ∈ observables, o.WellFormed) :
    (∀ {σ ω : Type} {store : ObjectStore σ}, store.ReadsChangeNothing →
      ∀ w : World (Recorded σ) ω, ∃ r s' log,
        (observe store.recorded source observables).run w =
          (r, { w with store := s', log }) ∧
        Comes store observables w.store s' r) ∧
    ∀ {ω : Type} (w : World MemoryStore ω), w.store.Reachable → w.store.failures = [] →
      (∀ p ∈ w.store.objects, Body.Labelled p.2) →
      ∃ bag, ((observe MemoryStore.asStore source observables).run w).1 = .ok bag ∧
        (∀ p ∈ w.store.objects, bag.count (.managed p.2) =
          observables.countP fun o => o.isFor p.1 p.2) ∧
        ∀ item ∈ bag, ∃ p ∈ w.store.objects, item = .managed p.2 := by
  refine ⟨fun hreads w => run_observe hreads source hwell w, ?_⟩
  intro ω w hreachable hfailures hlabelled
  have hs := hreachable.sound
  have hcandid : ∀ o ∈ observables, w.store.Candid o := by
    intro o _ _ fault hfault
    rw [MemoryStore.failure?_of_nil hfailures] at hfault
    cases hfault
  have hanswers : ∀ o ∈ observables, w.store.Answers o := fun o ho =>
    MemoryStore.answers_of_wellFormed hfailures hlabelled (hwell o ho)
  refine ⟨w.store.observed observables,
    (observe_eq_ok_iff hs source hcandid).2 ⟨hanswers, rfl⟩, ?_, ?_⟩
  · intro p hp
    rw [hs.count_observed observables hp]
    refine List.countP_congr ?_
    intro o ho
    rw [(hwell o ho).finds_eq p.1 (hlabelled p hp)]
  · intro item hitem
    exact hs.mem_objects_of_observed hitem

open Engine

theorem pod_observed_twice :
    (∃ r s' log,
      (observe MemoryStore.asStore.recorded inMemory.source [pointAtPod, allPods]).run
        (start holding) = (r, { start holding with store := s', log }) ∧
      Comes MemoryStore.asStore [pointAtPod, allPods] (start holding).store s' r) ∧
    ∃ bag, ((observe MemoryStore.asStore inMemory.source [pointAtPod, allPods]).run
        (onDesk holding)).1 = .ok bag ∧
      bag.count (.managed heldPod) = 2 ∧ ∀ item ∈ bag, item = .managed heldPod := by
  have hwell : ∀ o ∈ [pointAtPod, allPods], o.WellFormed := by
    refine List.forall_mem_cons.2 ⟨?_, List.forall_mem_cons.2 ⟨?_, nofun⟩⟩
    · exact ⟨⟨_, rfl⟩, .inl rfl, ⟨_, rfl⟩⟩
    · exact ⟨⟨_, rfl⟩, .inl rfl, ⟨_, rfl⟩⟩
  obtain ⟨hcomes, hmemory⟩ := observe_exact inMemory.source hwell
  obtain ⟨bag, hbag, hcount, hmem⟩ := hmemory (onDesk holding) (.put _ .empty) rfl
    holding_labelled
  have hobjects : (onDesk holding).store.objects = [(podIdentity "q", heldPod)] :=
    holding_objects
  rw [hobjects] at hcount hmem
  refine ⟨hcomes MemoryStore.readsChangeNothing (start holding), bag, hbag, ?_, ?_⟩
  · exact hcount _ (List.mem_singleton_self _)
  · intro item hitem
    obtain ⟨p, hp, rfl⟩ := hmem item hitem
    rw [List.mem_singleton.1 hp]

end Observation

end OperatorCore
