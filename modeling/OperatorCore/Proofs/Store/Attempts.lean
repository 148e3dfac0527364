import Mathlib.Data.List.Pairwise
import OperatorCore.Proofs.Store.Messages
import OperatorCore.Proofs.Store.Sequence
import OperatorCore.Proofs.Store.Uses

/-!
# Writes that may be refused

Some writes are made one after another, whatever becomes of each. What a store in
memory answers a write with depends on the failure that is injected into it and on
what is held under the identity of its body (`attempt_refusal`), and the write changes
nothing but that. So a write is answered, and leaves its object, as if it was the only
one, unless another one before it was of the same object. Writes of distinct objects
can therefore be told one by one, whatever their order. What their order does show in
is the versions, which are given as the objects are stored.

For deletions a weaker condition does: two states that hold the same under the
identities to delete go on to do so. The inductions are on the list of writes, from its
front, for all states.
-/

namespace OperatorCore

variable {σ : Type}

namespace ObjectStore

/-- The state after some writes, whatever becomes of them. -/
def after (store : ObjectStore σ) (ws : List Write) (s : σ) : σ :=
  ws.foldl (fun s w => (store.attempt w s).2) s

/-- Some writes one after another, with the faults that they are answered with. -/
def replay (store : ObjectStore σ) : List Write → σ → List Attempted
  | [], _ => []
  | w :: rest, s => ⟨w, (store.attempt w s).1⟩ :: replay store rest (store.attempt w s).2

theorem after_append (store : ObjectStore σ) (ws ws' : List Write) (s : σ) :
    store.after (ws ++ ws') s = store.after ws' (store.after ws s) :=
  List.foldl_append

theorem replay_append (store : ObjectStore σ) (ws ws' : List Write) (s : σ) :
    store.replay (ws ++ ws') s = store.replay ws s ++ store.replay ws' (store.after ws s) := by
  induction ws generalizing s with
  | nil => rfl
  | cons w rest ih => exact congrArg _ (ih (store.attempt w s).2)

theorem map_write_replay (store : ObjectStore σ) (ws : List Write) (s : σ) :
    (store.replay ws s).map Attempted.write = ws := by
  induction ws generalizing s with
  | nil => rfl
  | cons w rest ih => exact congrArg (w :: ·) (ih (store.attempt w s).2)

/-- A write of a list is answered in the state after the writes before it. -/
theorem fault_of_replay {store : ObjectStore σ} {before later : List Attempted} {a : Attempted}
    {s : σ} (h : before ++ a :: later =
      store.replay ((before ++ a :: later).map Attempted.write) s) :
    a.fault = (store.attempt a.write (store.after (before.map Attempted.write) s)).1 := by
  rw [List.map_append, List.map_cons, replay_append, replay] at h
  have hlength : before.length =
      (store.replay (before.map Attempted.write) s).length := by
    have hwrites := congrArg List.length
      (map_write_replay store (before.map Attempted.write) s)
    rw [List.length_map, List.length_map] at hwrites
    exact hwrites.symm
  obtain ⟨-, hrest⟩ := List.append_inj h hlength
  exact congrArg Attempted.fault (List.cons.inj hrest).1

/-- The record makes no difference to the answers. -/
theorem replay_recorded (store : ObjectStore σ) (ws : List Write) (s : Recorded σ) :
    store.recorded.replay ws s = store.replay ws s.state := by
  induction ws generalizing s with
  | nil => rfl
  | cons w rest ih =>
      rw [replay, replay, ih, recorded_attempt]

end ObjectStore

/-! ## Bodies but for their versions -/

/-- Without its version, an object is the same whatever version it was given. -/
theorem Body.Identified.versioned_null {body : Value} (h : Body.Identified body)
    (a b : String) :
    Body.versioned .null (Body.versioned (.str a) body) =
      Body.versioned .null (Body.versioned (.str b) body) := by
  obtain ⟨top, md, hs⟩ := Body.identified_iff_shaped.1 h
  have hgiven : ∀ text, Body.versioned .null (Body.versioned (.str text) body) =
      .obj (Fields.put top "metadata" (.obj (Fields.erase md "resourceVersion"))) := by
    intro text
    rw [hs.versioned rfl, (Shaped.put _ _).versioned_null rfl, if_pos, Fields.put_put,
      Fields.erase_put]
    rw [Fields.has, Fields.get?_put, if_pos rfl]
    rfl
  rw [hgiven, hgiven]

namespace Write

/-- The call by which a write is recorded. -/
def call (w : Write) : Call := (w.operation, Body.key w.body)

theorem touches_congr (w : Write) {i j : Identity} (h : i.same j = true) :
    w.touches i = w.touches j := by
  rw [touches, touches, Bool.eq_iff_iff]
  exact ⟨fun hi => Identity.same_trans hi h,
    fun hj => Identity.same_trans hj (Identity.same_symm h)⟩

end Write

namespace MemoryStore

/-! ## One write -/

/-- What a call fails with before it looks at any object: its key cannot be looked up, or
a failure is injected. -/
def barred (s : MemoryStore) (c : Call) : Option Fault :=
  match checkKey c.2 with
  | .error e => some e
  | .ok _ => s.failure? c

/-- What a write fails with because of the object that is there, or is not. -/
def objection (s : MemoryStore) (w : Write) : Option Fault :=
  match w, s.object? (Body.key w.body) with
  | .create body, some _ => some (alreadyExists (Body.key body))
  | .create _, none | .delete _, some _ => none
  | .update body, some current =>
    if (Body.version body).isNull || (Body.version body).equal (Body.version current)
    then none else some (stale (Body.key body))
  | .update body, none | .delete body, none => some (notFound (Body.key body))

/-- What a write is refused with, if it is. -/
def refusal (s : MemoryStore) (w : Write) : Option Fault :=
  (s.barred w.call).or (s.objection w)

theorem outcome_put {body : Value} (hbody : Body.Identified body)
    (hkey : checkKey (Body.key body) = .ok ()) (s : MemoryStore) :
    ((put body).run s).1 = .ok (s.next body) := by
  have hid : Body.identify (s.next body) = .ok (Body.key body) := by
    rw [next, (hbody.versioned _).identify, hbody.key_versioned]
  have hset : Body.setResourceVersion body (.str (toString s.nextVersion)) =
      .ok (s.next body) := hbody.setResourceVersion _
  simp only [put, Attempt.run_bind, Attempt.run_read, Attempt.run_modify,
    Attempt.run_liftM, hset, hid, hkey, Attempt.run_pure]

/-- An operation on an object gets past its call unless it is barred. -/
theorem fault_of_called {α : Type} {op : Operation} {body : Value}
    (hbody : Body.Identified body) {next : Identity → Attempt MemoryStore α}
    {s : MemoryStore} {objection : Option Fault}
    (hnext : checkKey (Body.key body) = .ok () →
      (reply (next (Body.key body))
        { s with calls := s.calls ++ [(op, Body.key body)] }).fault? = objection) :
    (reply (do
      let i ← Body.identify body
      call op i
      next i) s).fault? = (s.barred (op, Body.key body)).or objection := by
  simp only [reply, Reply.fault?, Attempt.run_bind, Attempt.run_liftM, hbody.identify,
    run_call, barred] at hnext ⊢
  cases hkey : checkKey (Body.key body) with
  | error e => rfl
  | ok _ =>
      cases hf : s.failure? (op, Body.key body) with
      | some fault => rfl
      | none =>
          rw [Option.none_or, ← hnext hkey]
          rfl

/-- A write is answered by a look at its key, at the injected failures and at the object
with its identity. -/
theorem attempt_refusal {s : MemoryStore} (hs : Sound s) {w : Write}
    (hw : Body.Identified w.body) : (asStore.attempt w s).1 = s.refusal w := by
  have hcalled : ∀ calls i, object? { s with calls } i = s.object? i := fun _ _ => rfl
  cases w with
  | create body =>
      have hput := @outcome_put body hw
      refine fault_of_called hw fun hkey => ?_
      simp only [reply, Reply.fault?, Attempt.run_bind, Attempt.run_read, hcalled, objection,
        Write.body]
      cases s.object? (Body.key body) with
      | some _ => rfl
      | none =>
          simp only []
          rw [hput hkey]
  | update body =>
      have hbody : Body.Identified body := hw
      have hput := @outcome_put body hw
      refine fault_of_called hw fun hkey => ?_
      simp only [reply, Reply.fault?, Attempt.run_bind, Attempt.run_read, hcalled, objection,
        Write.body]
      cases hobject : s.object? (Body.key body) with
      | none => rfl
      | some current =>
          simp only [Attempt.run_bind, Attempt.run_liftM, hbody.resourceVersion,
            (hs.held_of_object? hobject).identified.resourceVersion]
          cases (Body.version body).isNull ||
              (Body.version body).equal (Body.version current) with
          | true =>
              simp only [if_true]
              rw [hput hkey]
          | false => rfl
  | delete body =>
      refine fault_of_called hw fun hkey => ?_
      simp only [reply, Reply.fault?, Attempt.run_bind, Attempt.run_read, hcalled, objection,
        Write.body]
      cases s.object? (Body.key body) <;> rfl

/-- What a write leaves under an identity. -/
theorem object?_attempt {s : MemoryStore} (hs : Sound s) {w : Write}
    (hw : Body.Identified w.body) (j : Identity) :
    (asStore.attempt w s).2.object? j =
      if (s.refusal w).isNone && w.touches j then
        (if w.isDelete then none else some (s.next w.body))
      else s.object? j := by
  have hanswer := attempt_refusal hs hw
  rcases attempt_cases w s with ⟨e, he, hquiet⟩ | ⟨hnone, hwrote⟩
  · rw [← hanswer, he, object?_of_objects hquiet.objects]
    rfl
  · rw [← hanswer, hnone, Option.isNone_none, Bool.true_and]
    unfold Wrote at hwrote
    split at hwrote
    · next hdelete =>
        rw [object?_removed hwrote, if_pos hdelete]
        rfl
    · next hdelete =>
        rw [object?_stored hwrote, if_neg hdelete]
        rfl

section Attempt

variable {s s' : MemoryStore} {w : Write}

theorem object?_attempt_of_untouched (w : Write) (s : MemoryStore) {j : Identity}
    (hj : w.touches j = false) : (asStore.attempt w s).2.object? j = s.object? j := by
  rcases attempt_cases w s with ⟨-, -, hquiet⟩ | ⟨-, hwrote⟩
  · exact object?_of_objects hquiet.objects j
  · exact object?_wrote_of_not_touches hwrote hj

theorem failures_attempt (w : Write) (s : MemoryStore) :
    (asStore.attempt w s).2.failures = s.failures := by
  rcases attempt_cases w s with ⟨-, -, hquiet⟩ | ⟨-, hwrote⟩
  · exact hquiet.failures
  · exact failures_wrote hwrote

theorem Sound.attempt (hs : Sound s) (w : Write) : Sound (asStore.attempt w s).2 := by
  rcases attempt_cases w s with ⟨-, -, hquiet⟩ | ⟨-, hwrote⟩
  · exact hs.quiet hquiet
  · exact sound_wrote hs hwrote

/-- A write is recorded, whatever it is answered with. -/
theorem mutations_attempt (hw : Body.Identified w.body) (s : MemoryStore) :
    (asStore.attempt w s).2.mutations = s.mutations ++ [w.call] := by
  have hcalls : (asStore.attempt w s).2.calls =
      s.calls ++ ((Body.identify w.body).toOption.map (w.operation, ·)).toList := by
    cases w with
    | create body => exact calls_create body s
    | update body => exact calls_update body s
    | delete body => exact calls_delete body s
  rw [hw.identify] at hcalls
  have hmutating : w.call.1.isMutating = true := by
    cases w <;> rfl
  rw [mutations, mutations, hcalls, List.filter_append]
  exact congrArg _ (List.filter_eq_self.2 fun c hc => by
    obtain rfl := List.mem_singleton.1 hc
    exact hmutating)

/-- Where the failures and the object are the same, so is the answer. -/
theorem refusal_congr (hfailures : s'.failures = s.failures)
    (hobject : s'.object? (Body.key w.body) = s.object? (Body.key w.body)) :
    s'.refusal w = s.refusal w := by
  unfold refusal barred objection
  rw [failure?_congr hfailures, hobject]

/-- The faults of the store itself have messages. -/
theorem Tells.refusal (h : s.Tells) {fault : Fault} (hfault : s.refusal w = some fault) :
    ∃ text, fault.message = .ok text := by
  rw [MemoryStore.refusal, Option.or_eq_some_iff] at hfault
  rcases hfault with hbarred | ⟨-, hobjection⟩
  · rw [barred] at hbarred
    split at hbarred
    · next hkey =>
        cases hbarred
        exact telling_checkKey _ _ hkey
    · exact h _ _ hbarred
  · unfold objection at hobjection
    split at hobjection
    · cases hobjection
      exact told_of_statusFault _ _ _ _
    · cases hobjection
    · cases hobjection
    · split at hobjection
      · cases hobjection
      · cases hobjection
        exact told_of_statusFault _ _ _ _
    · cases hobjection
      exact told_of_statusFault _ _ _ _
    · cases hobjection
      exact told_of_statusFault _ _ _ _

end Attempt

/-! ## Many writes -/

section Many

variable {s s' : MemoryStore} {ws : List Write} {j : Identity}

/-- The writes are of distinct objects. -/
def Apart (ws : List Write) : Prop :=
  ws.Pairwise fun a b => a.touches (Body.key b.body) = false

theorem failures_after (ws : List Write) (s : MemoryStore) :
    (asStore.after ws s).failures = s.failures := by
  induction ws generalizing s with
  | nil => rfl
  | cons w rest ih => exact (ih _).trans (failures_attempt w s)

theorem Sound.after (hs : Sound s) (ws : List Write) : Sound (asStore.after ws s) := by
  induction ws generalizing s with
  | nil => exact hs
  | cons w rest ih => exact ih (hs.attempt w)

theorem object?_after_of_untouched (hj : ∀ w ∈ ws, w.touches j = false) :
    (asStore.after ws s).object? j = s.object? j := by
  induction ws generalizing s with
  | nil => rfl
  | cons w rest ih =>
      obtain ⟨hw, hrest⟩ := List.forall_mem_cons.1 hj
      exact (ih hrest).trans (object?_attempt_of_untouched w s hw)

theorem mutations_after (hws : ∀ w ∈ ws, Body.Identified w.body) (s : MemoryStore) :
    (asStore.after ws s).mutations = s.mutations ++ ws.map Write.call := by
  induction ws generalizing s with
  | nil => exact (List.append_nil _).symm
  | cons w rest ih =>
      obtain ⟨hw, hrest⟩ := List.forall_mem_cons.1 hws
      refine (ih hrest _).trans ?_
      rw [mutations_attempt hw, List.append_assoc]
      rfl

/-- Writes of distinct objects are answered as each of them would be alone. -/
theorem replay_of_apart (hs : Sound s) (hws : ∀ w ∈ ws, Body.Identified w.body)
    (hapart : Apart ws) :
    asStore.replay ws s = ws.map fun w => ⟨w, s.refusal w⟩ := by
  induction ws generalizing s with
  | nil => rfl
  | cons w rest ih =>
      obtain ⟨hw, hrest⟩ := List.forall_mem_cons.1 hws
      obtain ⟨hfirst, hlater⟩ := List.pairwise_cons.1 hapart
      rw [ObjectStore.replay, ih (hs.attempt w) hrest hlater, attempt_refusal hs hw]
      refine congrArg _ (List.map_congr_left ?_)
      intro other hother
      rw [refusal_congr (failures_attempt w s)
        (object?_attempt_of_untouched w s (hfirst other hother))]

/-- What is held under an identity, but for its version. -/
def bare (s : MemoryStore) (j : Identity) : Option Value :=
  (s.object? j).map (Body.versioned .null)

/-- Where the failures and the objects are the same, a write leaves the same object, but
for its version. -/
theorem bare_attempt_congr {w : Write} (hs : Sound s) (hs' : Sound s')
    (hw : Body.Identified w.body) (hfailures : s'.failures = s.failures)
    (hkey : s'.object? (Body.key w.body) = s.object? (Body.key w.body))
    (hobject : s'.object? j = s.object? j) :
    (asStore.attempt w s').2.bare j = (asStore.attempt w s).2.bare j := by
  rw [bare, bare, object?_attempt hs hw, object?_attempt hs' hw,
    refusal_congr hfailures hkey, hobject]
  split
  · split
    · rfl
    · exact congrArg some (hw.versioned_null _ _)
  · rfl

/-- Writes of distinct objects leave each object as its own write would, but for the
version. -/
theorem bare_after_of_apart (hs : Sound s) (hws : ∀ w ∈ ws, Body.Identified w.body)
    (hapart : Apart ws) {w : Write} (hmem : w ∈ ws) (hj : w.touches j = true) :
    (asStore.after ws s).bare j = (asStore.attempt w s).2.bare j := by
  induction ws generalizing s with
  | nil => cases hmem
  | cons first rest ih =>
      obtain ⟨-, hrest⟩ := List.forall_mem_cons.1 hws
      obtain ⟨hfirst, hlater⟩ := List.pairwise_cons.1 hapart
      rcases List.mem_cons.1 hmem with rfl | hmem
      · have huntouched : ∀ other ∈ rest, other.touches j = false := by
          intro other hother
          rw [Bool.eq_false_iff]
          intro htouches
          rw [← w.touches_congr htouches, hfirst other hother] at hj
          cases hj
        have hkept : (asStore.after rest (asStore.attempt w s).2).object? j = _ :=
          object?_after_of_untouched huntouched
        exact congrArg (Option.map (Body.versioned .null)) hkept
      · refine (ih (hs.attempt first) hrest hlater hmem).trans ?_
        have hkey := object?_attempt_of_untouched first s (hfirst w hmem)
        have huntouched : first.touches j = false := by
          rw [← first.touches_congr hj, hfirst w hmem]
        exact bare_attempt_congr hs (hs.attempt first) (hws w (List.mem_cons_of_mem _ hmem))
          (failures_attempt first s) hkey (object?_attempt_of_untouched first s huntouched)

/-- Deletions from two states that hold the same objects to delete are answered the same,
and where the states hold the same otherwise, they go on to. -/
theorem deletions_congr (hws : ∀ w ∈ ws, Body.Identified w.body)
    (hdelete : ∀ w ∈ ws, w.isDelete = true) (hs : Sound s) (hs' : Sound s')
    (hfailures : s'.failures = s.failures)
    (hobjects : ∀ w ∈ ws, s'.object? (Body.key w.body) = s.object? (Body.key w.body)) :
    asStore.replay ws s' = asStore.replay ws s ∧
      ∀ j, s'.object? j = s.object? j →
        (asStore.after ws s').object? j = (asStore.after ws s).object? j := by
  induction ws generalizing s s' with
  | nil => exact ⟨rfl, fun _ h => h⟩
  | cons w rest ih =>
      obtain ⟨hw, hrest⟩ := List.forall_mem_cons.1 hws
      obtain ⟨hwdelete, hrestdelete⟩ := List.forall_mem_cons.1 hdelete
      obtain ⟨hobject, hothers⟩ := List.forall_mem_cons.1 hobjects
      have hrefusal := refusal_congr hfailures hobject
      have hstep : ∀ i, s'.object? i = s.object? i →
          (asStore.attempt w s').2.object? i = (asStore.attempt w s).2.object? i := by
        intro i hi
        rw [object?_attempt hs hw, object?_attempt hs' hw, hrefusal, hi, hwdelete]
        rfl
      obtain ⟨hreplay, hafter⟩ := ih hrest hrestdelete (hs.attempt w) (hs'.attempt w)
        (by rw [failures_attempt, failures_attempt, hfailures])
        fun other hother => hstep _ (hothers other hother)
      refine ⟨?_, fun i hi => hafter i (hstep i hi)⟩
      rw [ObjectStore.replay, ObjectStore.replay, hreplay, attempt_refusal hs hw,
        attempt_refusal hs' hw, hrefusal]

theorem Apart.perm {ws' : List Write} (h : Apart ws) (hperm : ws.Perm ws') : Apart ws' := by
  refine (hperm.pairwise_iff ?_).1 h
  intro a b hab
  rw [Bool.eq_false_iff] at hab ⊢
  exact fun hba => hab (Identity.same_symm hba)

/-- Writes of distinct objects, and then deletions of others: the order of the writes makes
no difference to what each of them is answered with, nor to what is left of each object,
but for its version. -/
theorem writes_perm {later ws' : List Write} (hs : Sound s)
    (hws : ∀ w ∈ ws, Body.Identified w.body) (hlater : ∀ w ∈ later, Body.Identified w.body)
    (hapart : Apart ws) (hdelete : ∀ w ∈ later, w.isDelete = true)
    (hothers : ∀ w ∈ ws, ∀ d ∈ later, w.touches (Body.key d.body) = false)
    (hperm : ws.Perm ws') :
    (asStore.replay (ws ++ later) s).Perm (asStore.replay (ws' ++ later) s) ∧
      ∀ j, (asStore.after (ws' ++ later) s).bare j =
        (asStore.after (ws ++ later) s).bare j := by
  have hws' : ∀ w ∈ ws', Body.Identified w.body := fun w hw => hws w (hperm.mem_iff.2 hw)
  have hapart' := hapart.perm hperm
  have huntouched : ∀ {j}, (∀ w ∈ ws, w.touches j = false) →
      (asStore.after ws' s).object? j = (asStore.after ws s).object? j := by
    intro j hj
    rw [object?_after_of_untouched hj,
      object?_after_of_untouched fun w hw => hj w (hperm.mem_iff.2 hw)]
  obtain ⟨hreplay, hafter⟩ := deletions_congr hlater hdelete (hs.after ws) (hs.after ws')
    (by rw [failures_after, failures_after])
    fun d hd => huntouched fun w hw => hothers w hw d hd
  refine ⟨?_, ?_⟩
  · rw [ObjectStore.replay_append, ObjectStore.replay_append, replay_of_apart hs hws hapart,
      replay_of_apart hs hws' hapart', hreplay]
    exact (hperm.map _).append_right _
  · intro j
    rw [ObjectStore.after_append, ObjectStore.after_append]
    by_cases hj : ∃ w ∈ ws, w.touches j = true
    · obtain ⟨w, hw, htouches⟩ := hj
      have hkept : ∀ d ∈ later, d.touches j = false := by
        intro d hd
        rw [Bool.eq_false_iff]
        intro hdtouches
        have hother := hothers w hw d hd
        rw [w.touches_congr hdtouches, htouches] at hother
        cases hother
      rw [bare, bare, object?_after_of_untouched hkept, object?_after_of_untouched hkept]
      have hfirst := bare_after_of_apart hs hws hapart hw htouches
      have hsecond := bare_after_of_apart hs hws' hapart' (hperm.mem_iff.1 hw) htouches
      exact hsecond.trans hfirst.symm
    · have hnone : ∀ w ∈ ws, w.touches j = false := fun w hw =>
        Bool.eq_false_iff.2 fun htouches => hj ⟨w, hw, htouches⟩
      rw [bare, bare, hafter j (huntouched hnone)]

/-- All faults of some writes have messages, if those that are injected have. -/
theorem Tells.replay (h : s.Tells) (hs : Sound s) (hws : ∀ w ∈ ws, Body.Identified w.body) :
    ∀ a ∈ asStore.replay ws s, a.Told := by
  induction ws generalizing s with
  | nil =>
      intro a ha
      cases ha
  | cons w rest ih =>
      obtain ⟨hw, hrest⟩ := List.forall_mem_cons.1 hws
      intro a ha
      rcases List.mem_cons.1 ha with rfl | ha
      · intro fault hfault
        exact h.refusal ((attempt_refusal hs hw).symm.trans hfault)
      · exact ih (h.of_failures (failures_attempt w s)) (hs.attempt w) hrest a ha

end Many

/-! ## What is held can be looked up -/

/-- A value that cannot be part of a key. -/
def unhashable : Value → Bool
  | .arr _ | .obj _ => true
  | _ => false

theorem unhashable_congr {a b : Value} (h : a.equal b = true) :
    unhashable a = unhashable b := by
  have hnormal : ∀ v : Value, unhashable v.normal = unhashable v := by
    intro v
    cases v with
    | float x => cases hx : x.integer? <;> simp [Value.normal, hx, unhashable]
    | null | bool b | int n | str s | arr items | obj fields => rfl
  rw [← hnormal a, Value.equal_iff.1 h, hnormal b]

theorem checkKey_eq_ok_iff {i : Identity} :
    checkKey i = .ok () ↔ ∀ v ∈ [i.ns, i.kind, i.name], unhashable v = false := by
  rw [checkKey]
  split
  · next v hfind =>
      have hbad : unhashable v = true := List.find?_some hfind
      refine ⟨fun h => (by cases h), fun h => ?_⟩
      rw [h v (List.mem_of_find?_eq_some hfind)] at hbad
      cases hbad
  · next hnone =>
      refine ⟨fun _ v hv => ?_, fun _ => rfl⟩
      exact Bool.eq_false_iff.2 (List.find?_eq_none.1 hnone v hv)

theorem checkKey_congr {i j : Identity} (h : i.same j = true) (hi : checkKey i = .ok ()) :
    checkKey j = .ok () := by
  rw [checkKey_eq_ok_iff] at hi ⊢
  simp only [Identity.same, Bool.and_eq_true] at h
  simp only [List.forall_mem_cons, ← unhashable_congr h.1.1, ← unhashable_congr h.1.2,
    ← unhashable_congr h.2] at hi ⊢
  exact hi

/-- Whatever is held can be looked up by its key. -/
def Keyed (s : MemoryStore) : Prop := ∀ p ∈ s.objects, checkKey p.1 = .ok ()

theorem keyed_put (body : Value) : (put body).Keeps (Inherits Keyed) := by
  have hk := steady_inherits Keyed
  refine Attempt.keeps_bind hk (Attempt.keeps_read hk _) fun n => ?_
  refine Attempt.keeps_bind hk (Attempt.keeps_modify fun _ h => h) fun _ => ?_
  refine Attempt.keeps_bind hk (Attempt.keeps_liftM hk _) fun stored => ?_
  refine Attempt.keeps_bind hk (Attempt.keeps_liftM hk _) fun i => ?_
  refine Attempt.keeps_bind_answer hk (Attempt.keeps_liftM hk _) fun _ _ hkey => ?_
  refine Attempt.keeps_bind hk (Attempt.keeps_modify ?_) fun _ => ?_
  · intro s h p hp
    rcases mem_place hp with hp | ⟨hsame, -⟩
    · exact h p hp
    · exact checkKey_congr (Identity.same_symm hsame) hkey
  · exact Attempt.keeps_pure hk _

theorem keyed_call (op : Operation) (i : Identity) : (call op i).Keeps (Inherits Keyed) := by
  intro s h
  rw [run_call]
  exact h

theorem Reachable.keyed {s : MemoryStore} (h : Reachable s) : Keyed s := by
  have hk := steady_inherits Keyed
  have hobjects : ∀ {s s' : MemoryStore}, s'.objects = s.objects → Keyed s → Keyed s' := by
    intro s s' he hs p hp
    rw [he] at hp
    exact hs p hp
  induction h with
  | empty =>
      intro p hp
      cases hp
  | put body _ ih => exact keyed_put body _ ih
  | get kind ns name _ ih => exact hobjects (looked_get kind ns name _).objects ih
  | list kind ns labels _ ih => exact hobjects (looked_list kind ns labels _).objects ih
  | create body _ ih =>
      refine (Attempt.keeps_bind hk (Attempt.keeps_liftM hk _) fun i => ?_) _ ih
      refine Attempt.keeps_bind hk (keyed_call _ _) fun _ => ?_
      refine Attempt.keeps_bind hk (Attempt.keeps_read hk _) fun current => ?_
      cases current with
      | none => exact keyed_put body
      | some old => exact Attempt.keeps_fail hk _
  | update body _ ih =>
      refine (Attempt.keeps_bind hk (Attempt.keeps_liftM hk _) fun i => ?_) _ ih
      refine Attempt.keeps_bind hk (keyed_call _ _) fun _ => ?_
      refine Attempt.keeps_bind hk (Attempt.keeps_read hk _) fun current => ?_
      cases current with
      | none => exact Attempt.keeps_fail hk _
      | some old =>
          refine Attempt.keeps_bind hk (Attempt.keeps_liftM hk _) fun version => ?_
          refine Attempt.keeps_bind hk (Attempt.keeps_liftM hk _) fun other => ?_
          split
          · exact keyed_put body
          · exact Attempt.keeps_fail hk _
  | @delete s body _ ih =>
      rcases run_delete body s with ⟨-, -, hquiet⟩ | ⟨-, hremoved⟩
      · exact hobjects hquiet.objects ih
      · intro p hp
        rw [hremoved.objects] at hp
        exact ih p (List.mem_filter.1 hp).1
  | fail op i fault _ ih => exact hobjects (fail_objects op i fault _).1 ih
  | clearFailures _ ih => exact ih
  | blame body cause _ ih => exact hobjects (blame_objects body cause _).1 ih

theorem Keyed.checkKey {s : MemoryStore} (h : Keyed s) {i : Identity} {body : Value}
    (hobject : s.object? i = some body) : checkKey i = .ok () := by
  obtain ⟨p, hp, hsame, -⟩ := mem_of_object? hobject
  exact checkKey_congr hsame (h p hp)

/-- A deletion succeeds where the object is held and no failure is injected. -/
theorem attempt_delete {s : MemoryStore} (hs : Sound s) (hfailures : s.failures = [])
    {body : Value} (hkey : checkKey (Body.key body) = .ok ())
    (hobject : s.object? (Body.key body) = some body) :
    (asStore.attempt (.delete body) s).1 = none := by
  have hbody := (hs.held_of_object? hobject).identified
  have hfailure : s.failure? (.delete, Body.key body) = none := by
    rw [failure?, hfailures]
    rfl
  rw [attempt_refusal hs (w := .delete body) hbody, refusal, barred]
  unfold objection
  simp only [Write.call, Write.body, Write.operation, hkey, hfailure, hobject,
    Option.or_none]

/-- So it does among other writes, if none of them is of the same object. -/
theorem fault_of_delete {s : MemoryStore} (hs : Sound s) (hfailures : s.failures = [])
    {made : List Attempted} (hmade : made = asStore.replay (made.map Attempted.write) s)
    {body : Value} (hkey : checkKey (Body.key body) = .ok ())
    (hobject : s.object? (Body.key body) = some body)
    (honce : (made.countP fun a => a.write.touches (Body.key body)) ≤ 1) {a : Attempted}
    (ha : a ∈ made) (hwrite : a.write = .delete body) : a.fault = none := by
  obtain ⟨before, later, rfl⟩ := List.append_of_mem ha
  have htouches : a.write.touches (Body.key body) = true := by
    rw [hwrite]
    exact Identity.same_refl _
  have hbefore : ∀ w ∈ before.map Attempted.write, w.touches (Body.key body) = false := by
    rw [List.countP_append, List.countP_cons, if_pos htouches] at honce
    have hzero : (before.countP fun a => a.write.touches (Body.key body)) = 0 := by omega
    intro w hw
    obtain ⟨b, hb, rfl⟩ := List.mem_map.1 hw
    exact Bool.eq_false_iff.2 (List.countP_eq_zero.1 hzero b hb)
  rw [ObjectStore.fault_of_replay hmade, hwrite]
  refine attempt_delete (hs.after _) ((failures_after _ s).trans hfailures) hkey ?_
  rw [object?_after_of_untouched hbefore, hobject]

end MemoryStore

end OperatorCore
