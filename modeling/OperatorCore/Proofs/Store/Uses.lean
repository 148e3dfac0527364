import OperatorCore.Proofs.Store.Sequence
import OperatorCore.Proofs.Store.Versions

/-!
# The uses of a store in memory

Those who share a store can do to it what is listed here, and there is little
that comes of it. Either nothing is stored, or one object is, in its own place
and with the next version, or one object is removed; and if the use fails, it is
always the first. This is shown once, for all uses together
(`Use.comesTo`); what a client may rely on is read off from there.
-/

namespace OperatorCore

namespace MemoryStore

/-- What can be asked of a store in memory. -/
inductive Use where
  | put (body : Value)
  | get (kind ns name : Value)
  | list (kind ns labels : Value)
  | create (body : Value)
  | update (body : Value)
  | delete (body : Value)
  | fail (op : Operation) (i : Identity) (fault : Fault)
  | clearFailures

namespace Use

/-- Makes the use; its answer are the objects that it returns. -/
def attempt : Use → Attempt MemoryStore (List Value)
  | put body => do pure [← MemoryStore.put body]
  | get kind ns name => do pure [← MemoryStore.get kind ns name]
  | list kind ns labels => MemoryStore.list kind ns labels
  | create body => do pure [← MemoryStore.create body]
  | update body => do pure [← MemoryStore.update body]
  | delete body => do
    MemoryStore.delete body
    pure []
  | fail op i fault => do
    MemoryStore.fail op i fault
    pure []
  | clearFailures => do
    Attempt.modify MemoryStore.clearFailures
    pure []

/-- The body that is to be stored. -/
def stored? : Use → Option Value
  | put body | create body | update body => some body
  | _ => none

/-- The body whose object is to be removed. -/
def removed? : Use → Option Value
  | delete body => some body
  | _ => none

/-- The call that is recorded, which for a write takes an identity. -/
def call? : Use → Option Call
  | get kind ns name => some (.get, ⟨ns.orElse (.str ""), kind, name⟩)
  | list kind ns _ => some (.list, ⟨ns.orElse (.str ""), kind, .str ""⟩)
  | create body => (Body.identify body).toOption.map (.create, ·)
  | update body => (Body.identify body).toOption.map (.update, ·)
  | delete body => (Body.identify body).toOption.map (.delete, ·)
  | put _ | fail .. | clearFailures => none

end Use

/-! ## What comes of a use -/

/-- The body as it is stored next. -/
def next (s : MemoryStore) (body : Value) : Value :=
  Body.versioned (.str (toString s.nextVersion)) body

/-- What a use may end with, and the state that it leaves. -/
inductive Use.ComesTo (use : Use) (s : MemoryStore) :
    Except Fault (List Value) → MemoryStore → Prop where
  | failed {e : Fault} {s' : MemoryStore} (hobjects : s'.objects = s.objects)
      (hversion : s.nextVersion ≤ s'.nextVersion) : ComesTo use s (.error e) s'
  | looked {answer : List Value} {s' : MemoryStore} (hstored : use.stored? = none)
      (hremoved : use.removed? = none) (hobjects : s'.objects = s.objects)
      (hversion : s'.nextVersion = s.nextVersion)
      (hanswer : ∀ r ∈ answer, ∃ p ∈ s.objects, p.2 = r) : ComesTo use s (.ok answer) s'
  | stored {body : Value} {s' : MemoryStore} (hstored : use.stored? = some body)
      (hremoved : use.removed? = none) (h : Stored body s s') :
      ComesTo use s (.ok [s.next body]) s'
  | removed {body : Value} {s' : MemoryStore} (hstored : use.stored? = none)
      (hremoved : use.removed? = some body) (h : Removed body s s') :
      ComesTo use s (.ok []) s'

section Answers

variable {body r v : Value} {s s' : MemoryStore}

theorem mem_of_select {kind ns labels : Value} {objects : List (Identity × Value)}
    {answer : List Value} (h : select kind ns labels objects = .ok answer)
    (hr : r ∈ answer) : ∃ p ∈ objects, p.2 = r := by
  let o : Observable := ⟨.null, kind, ns, .set labels⟩
  obtain ⟨-, rfl⟩ := (select_eq_ok_iff (o := o)).1 h
  obtain ⟨p, hp, rfl⟩ := List.mem_map.1 hr
  exact ⟨p, (List.mem_filter.1 hp).1, rfl⟩

theorem mem_of_get {kind ns name : Value} (h : ((get kind ns name).run s).1 = .ok r) :
    ∃ p ∈ s.objects, p.2 = r := by
  rw [outcome_get] at h
  split at h
  · cases h
  · split at h
    · cases h
    · split at h
      · next body hbody =>
          cases h
          obtain ⟨p, hp, -, hpr⟩ := mem_of_object? hbody
          exact ⟨p, hp, hpr⟩
      · cases h

theorem mem_of_list {kind ns labels : Value} {answer : List Value}
    (h : ((list kind ns labels).run s).1 = .ok answer) (hr : r ∈ answer) :
    ∃ p ∈ s.objects, p.2 = r := by
  rw [outcome_list] at h
  split at h
  · cases h
  · split at h
    · cases h
    · exact mem_of_select h hr

theorem next_of_put (h : ((put body).run s).1 = .ok v) : v = s.next body := by
  have hrun : (put body).run s = (.ok v, ((put body).run s).2) := Prod.ext h rfl
  obtain ⟨n, s₁, hn, hrun⟩ := Attempt.ok_of_bind hrun
  cases hn
  obtain ⟨_, s₂, hcount, hrun⟩ := Attempt.ok_of_bind hrun
  cases hcount
  obtain ⟨stored, s₃, hstored, hrun⟩ := Attempt.ok_of_bind hrun
  have hset : Body.setResourceVersion body (.str (toString s.nextVersion)) = .ok stored :=
    (Prod.mk.inj hstored).1
  obtain ⟨i, s₄, -, hrun⟩ := Attempt.ok_of_bind hrun
  obtain ⟨_, s₅, -, hrun⟩ := Attempt.ok_of_bind hrun
  obtain ⟨_, s₆, -, hrun⟩ := Attempt.ok_of_bind hrun
  obtain rfl := Except.ok.inj (Prod.mk.inj hrun).1
  rw [next, Body.versioned, hset]
  rfl

theorem next_of_create (h : ((create body).run s).1 = .ok v) : v = s.next body := by
  have hcases : (∃ e, ((create body).run s).1 = .error e ∧ Quiet s _) ∨
      (Body.Identified body ∧ (create body).run s = _) :=
    run_identified .create body _ s
  rcases hcases with ⟨e, he, -⟩ | ⟨-, hrun⟩
  · cases h.symm.trans he
  · rw [hrun, Attempt.run_bind, Attempt.run_read] at h
    split at h
    · next current s₁ hcurrent =>
        cases hcurrent
        split at h
        · cases h
        · have hnext := next_of_put h
          exact hnext
    · next e s₁ hcurrent => cases hcurrent

theorem next_of_update (h : ((update body).run s).1 = .ok v) : v = s.next body := by
  have hcases : (∃ e, ((update body).run s).1 = .error e ∧ Quiet s _) ∨
      (Body.Identified body ∧ (update body).run s = _) :=
    run_identified .update body _ s
  rcases hcases with ⟨e, he, -⟩ | ⟨hbody, hrun⟩
  · cases h.symm.trans he
  · rw [hrun] at h
    simp only [Attempt.run_bind, Attempt.run_read] at h
    split at h
    · cases h
    · next current _ =>
        simp only [hbody.resourceVersion, Attempt.run_bind, Attempt.run_liftM] at h
        cases hversion : Body.resourceVersion current with
        | error e =>
            rw [hversion] at h
            cases h
        | ok version =>
            rw [hversion] at h
            simp only [] at h
            split at h
            · have hnext := next_of_put h
              exact hnext
            · cases h

end Answers

/-- The use of an operation is the operation, with its answer in a list. -/
theorem run_answering {α : Type} (x : Attempt MemoryStore α) (f : α → List Value)
    (s : MemoryStore) :
    (do pure (f (← x)) : Attempt MemoryStore (List Value)).run s =
      ((x.run s).1.map f, (x.run s).2) := by
  rw [Attempt.run_bind]
  rcases x.run s with ⟨e | a, s'⟩ <;> rfl

theorem Use.comesTo (use : Use) (s : MemoryStore) :
    use.ComesTo s (use.attempt.run s).1 (use.attempt.run s).2 := by
  cases use with
  | put body =>
      rw [attempt, run_answering]
      rcases run_put body s with ⟨e, hrun⟩ | ⟨v, s', hrun, h⟩
      · rw [hrun]
        exact .failed rfl (Nat.le_succ s.nextVersion)
      · obtain rfl := next_of_put (congrArg Prod.fst hrun)
        rw [hrun]
        exact .stored rfl rfl h
  | get kind ns name =>
      have hlooked := looked_get kind ns name s
      rw [attempt, run_answering]
      cases hrun : ((MemoryStore.get kind ns name).run s).1 with
      | error e => exact .failed hlooked.objects (Nat.le_of_eq hlooked.version.symm)
      | ok body =>
          refine .looked rfl rfl hlooked.objects hlooked.version ?_
          intro r hr
          obtain rfl := List.mem_singleton.1 hr
          exact mem_of_get hrun
  | list kind ns labels =>
      have hlooked := looked_list kind ns labels s
      rw [attempt]
      cases hrun : ((MemoryStore.list kind ns labels).run s).1 with
      | error e => exact .failed hlooked.objects (Nat.le_of_eq hlooked.version.symm)
      | ok answer =>
          exact .looked rfl rfl hlooked.objects hlooked.version
            fun r hr => mem_of_list hrun hr
  | create body =>
      rw [attempt, run_answering]
      rcases run_create body s with ⟨e, he, hquiet⟩ | ⟨v, hv, h⟩
      · rw [he]
        exact .failed hquiet.objects hquiet.version
      · obtain rfl := next_of_create hv
        rw [hv]
        exact .stored rfl rfl h
  | update body =>
      rw [attempt, run_answering]
      rcases run_update body s with ⟨e, he, hquiet⟩ | ⟨v, hv, h⟩
      · rw [he]
        exact .failed hquiet.objects hquiet.version
      · obtain rfl := next_of_update hv
        rw [hv]
        exact .stored rfl rfl h
  | delete body =>
      have hdelete := run_answering (MemoryStore.delete body) (fun _ => []) s
      rw [attempt, hdelete]
      rcases run_delete body s with ⟨e, he, hquiet⟩ | ⟨hv, h⟩
      · rw [he]
        exact .failed hquiet.objects hquiet.version
      · rw [hv]
        exact .removed rfl rfl h
  | fail op i fault =>
      have hfail := run_answering (MemoryStore.fail op i fault) (fun _ => []) s
      obtain ⟨hobjects, hversion⟩ := fail_objects op i fault s
      rw [attempt, hfail]
      cases ((MemoryStore.fail op i fault).run s).1 with
      | error e => exact .failed hobjects (Nat.le_of_eq hversion.symm)
      | ok _ =>
          refine .looked rfl rfl hobjects hversion ?_
          intro r hr
          cases hr
  | clearFailures =>
      refine .looked rfl rfl rfl rfl ?_
      intro r hr
      cases hr

/-! ## The record of the calls -/

section Calls

def SameCalls (s s' : MemoryStore) : Prop := s'.calls = s.calls

theorem steady_sameCalls : Steady SameCalls :=
  ⟨fun _ => rfl, fun h h' => Eq.trans h' h⟩

theorem keeps_calls_put (body : Value) : (put body).Keeps SameCalls := by
  have hs := steady_sameCalls
  refine Attempt.keeps_bind hs (Attempt.keeps_read hs _) fun n => ?_
  refine Attempt.keeps_bind hs (Attempt.keeps_modify fun _ => rfl) fun _ => ?_
  refine Attempt.keeps_bind hs (Attempt.keeps_liftM hs _) fun stored => ?_
  refine Attempt.keeps_bind hs (Attempt.keeps_liftM hs _) fun i => ?_
  refine Attempt.keeps_bind hs (Attempt.keeps_liftM hs _) fun _ => ?_
  refine Attempt.keeps_bind hs (Attempt.keeps_modify fun _ => rfl) fun _ => ?_
  exact Attempt.keeps_pure hs _

/-- An operation that begins with its call records this one, whatever becomes of
the rest. -/
theorem calls_of_call {α : Type} (op : Operation) (i : Identity)
    {rest : Unit → Attempt MemoryStore α} (hrest : ∀ u, (rest u).Keeps SameCalls)
    (s : MemoryStore) :
    ((call op i >>= rest).run s).2.calls = s.calls ++ [(op, i)] := by
  rw [Attempt.run_bind, run_call]
  split
  · next u s₁ hcall =>
      obtain ⟨-, rfl⟩ := Prod.mk.inj hcall
      exact hrest u _
  · next e s₁ hcall =>
      obtain ⟨-, rfl⟩ := Prod.mk.inj hcall
      rfl

/-- A write has no identity to record unless its body has one. -/
theorem calls_of_write {α : Type} (op : Operation) (body : Value)
    {rest : Identity → Unit → Attempt MemoryStore α}
    (hrest : ∀ i u, (rest i u).Keeps SameCalls) (s : MemoryStore) :
    ((do
      let i ← Body.identify body
      call op i >>= rest i : Attempt MemoryStore α).run s).2.calls =
        s.calls ++ ((Body.identify body).toOption.map (op, ·)).toList := by
  rw [Attempt.run_bind, Attempt.run_liftM]
  cases Body.identify body with
  | error e => exact (List.append_nil _).symm
  | ok i => exact calls_of_call op i (hrest i) s

theorem calls_get (kind ns name : Value) (s : MemoryStore) :
    ((get kind ns name).run s).2.calls =
      s.calls ++ [(.get, ⟨ns.orElse (.str ""), kind, name⟩)] := by
  have hs := steady_sameCalls
  refine calls_of_call _ _ (fun _ => ?_) s
  refine Attempt.keeps_bind hs (Attempt.keeps_read hs _) fun current => ?_
  cases current with
  | none => exact Attempt.keeps_fail hs _
  | some body => exact Attempt.keeps_pure hs _

theorem calls_list (kind ns labels : Value) (s : MemoryStore) :
    ((list kind ns labels).run s).2.calls =
      s.calls ++ [(.list, ⟨ns.orElse (.str ""), kind, .str ""⟩)] := by
  have hs := steady_sameCalls
  refine calls_of_call _ _ (fun _ => ?_) s
  exact Attempt.keeps_bind hs hs.refl fun _ => Attempt.keeps_liftM hs _

theorem calls_create (body : Value) (s : MemoryStore) :
    ((create body).run s).2.calls =
      s.calls ++ ((Body.identify body).toOption.map (.create, ·)).toList := by
  have hs := steady_sameCalls
  refine calls_of_write .create body (fun i _ => ?_) s
  refine Attempt.keeps_bind hs (Attempt.keeps_read hs _) fun current => ?_
  cases current with
  | none => exact keeps_calls_put body
  | some old => exact Attempt.keeps_fail hs _

theorem calls_update (body : Value) (s : MemoryStore) :
    ((update body).run s).2.calls =
      s.calls ++ ((Body.identify body).toOption.map (.update, ·)).toList := by
  have hs := steady_sameCalls
  refine calls_of_write .update body (fun i _ => ?_) s
  refine Attempt.keeps_bind hs (Attempt.keeps_read hs _) fun current => ?_
  cases current with
  | none => exact Attempt.keeps_fail hs _
  | some old =>
      refine Attempt.keeps_bind hs (Attempt.keeps_liftM hs _) fun version => ?_
      refine Attempt.keeps_bind hs (Attempt.keeps_liftM hs _) fun other => ?_
      split
      · exact keeps_calls_put body
      · exact Attempt.keeps_fail hs _

theorem calls_delete (body : Value) (s : MemoryStore) :
    ((delete body).run s).2.calls =
      s.calls ++ ((Body.identify body).toOption.map (.delete, ·)).toList := by
  have hs := steady_sameCalls
  refine calls_of_write .delete body (fun i _ => ?_) s
  refine Attempt.keeps_bind hs (Attempt.keeps_read hs _) fun current => ?_
  cases current with
  | none => exact Attempt.keeps_fail hs _
  | some old => exact Attempt.keeps_modify fun _ => rfl

theorem Use.calls_eq (use : Use) (s : MemoryStore) :
    (use.attempt.run s).2.calls = s.calls ++ use.call?.toList := by
  cases use with
  | put body =>
      rw [attempt, run_answering, call?, Option.toList_none, List.append_nil]
      exact keeps_calls_put body s
  | get kind ns name =>
      rw [attempt, run_answering]
      exact calls_get kind ns name s
  | list kind ns labels => exact calls_list kind ns labels s
  | create body =>
      rw [attempt, run_answering]
      exact calls_create body s
  | update body =>
      rw [attempt, run_answering]
      exact calls_update body s
  | delete body =>
      have hdelete := run_answering (MemoryStore.delete body) (fun _ => []) s
      rw [attempt, hdelete]
      exact calls_delete body s
  | fail op i fault =>
      have hfail := run_answering (MemoryStore.fail op i fault) (fun _ => []) s
      rw [attempt, hfail, call?, Option.toList_none, List.append_nil]
      simp only [MemoryStore.fail, Attempt.run_bind, Attempt.run_liftM]
      cases checkKey i <;> rfl
  | clearFailures => exact (List.append_nil _).symm

end Calls

/-! ## What a client may rely on -/

theorem Reachable.use {s : MemoryStore} (h : Reachable s) (use : Use) :
    Reachable (use.attempt.run s).2 := by
  cases use with
  | put body => rw [Use.attempt, run_answering]; exact h.put body
  | get kind ns name => rw [Use.attempt, run_answering]; exact h.get kind ns name
  | list kind ns labels => exact h.list kind ns labels
  | create body => rw [Use.attempt, run_answering]; exact h.create body
  | update body => rw [Use.attempt, run_answering]; exact h.update body
  | delete body =>
      have hdelete := run_answering (MemoryStore.delete body) (fun _ => []) s
      rw [Use.attempt, hdelete]
      exact h.delete body
  | fail op i fault =>
      have hfail := run_answering (MemoryStore.fail op i fault) (fun _ => []) s
      rw [Use.attempt, hfail]
      exact h.fail op i fault
  | clearFailures => exact h.clearFailures

/-- The objects that a store holds under other identities, in their order. -/
def others (s : MemoryStore) (i : Identity) : List (Identity × Value) :=
  s.objects.filter fun p => !p.1.same i

theorem filter_place {i : Identity} (body : Value) (objects : List (Identity × Value)) :
    (place i body objects).filter (fun p => !p.1.same i) =
      objects.filter fun p => !p.1.same i := by
  induction objects with
  | nil =>
      rw [place, List.filter_cons_of_neg]
      simp
  | cons p rest ih =>
      obtain ⟨j, old⟩ := p
      rw [place]
      split
      · next hj => rw [List.filter_cons_of_neg, List.filter_cons_of_neg] <;> simp [hj]
      · rw [List.filter_cons, List.filter_cons, ih]

theorem Stored.others_eq {body : Value} {s s' : MemoryStore} (h : Stored body s s') :
    s'.others (Body.key body) = s.others (Body.key body) := by
  rw [others, h.objects, filter_place, others]

theorem Removed.others_eq {body : Value} {s s' : MemoryStore} (h : Removed body s s') :
    s'.others (Body.key body) = s.others (Body.key body) := by
  rw [others, h.objects, List.filter_filter, others]
  simp only [Bool.and_self]

namespace Use.ComesTo

variable {use : Use} {s s' : MemoryStore} {answer : Except Fault (List Value)}

theorem objects_of_error (h : use.ComesTo s answer s') {e : Fault}
    (he : answer = .error e) : s'.objects = s.objects := by
  cases h with
  | failed hobjects _ => exact hobjects
  | _ => cases he

theorem objects_of_none (h : use.ComesTo s answer s') (hstored : use.stored? = none)
    (hremoved : use.removed? = none) : s'.objects = s.objects := by
  cases h with
  | failed hobjects _ => exact hobjects
  | looked _ _ hobjects _ _ => exact hobjects
  | stored hbody _ _ => cases hstored.symm.trans hbody
  | removed _ hbody _ => cases hremoved.symm.trans hbody

theorem stored_of_some (h : use.ComesTo s answer s') {bodies : List Value} {body : Value}
    (hanswer : answer = .ok bodies) (hbody : use.stored? = some body) :
    bodies = [s.next body] ∧ Stored body s s' := by
  cases h with
  | failed _ _ => cases hanswer
  | looked hnone _ _ _ _ => cases hnone.symm.trans hbody
  | stored hown _ hstored =>
      cases hanswer
      cases hown.symm.trans hbody
      exact ⟨rfl, hstored⟩
  | removed hnone _ _ => cases hnone.symm.trans hbody

theorem removed_of_some (h : use.ComesTo s answer s') {bodies : List Value} {body : Value}
    (hanswer : answer = .ok bodies) (hbody : use.removed? = some body) :
    Removed body s s' := by
  cases h with
  | failed _ _ => cases hanswer
  | looked _ hnone _ _ _ => cases hnone.symm.trans hbody
  | stored _ hnone _ => cases hnone.symm.trans hbody
  | removed _ hown hremoved =>
      cases hown.symm.trans hbody
      exact hremoved

end Use.ComesTo

/-- A use of a store that fails has stored and removed nothing, and one that
succeeds has done to the objects what it says, and nothing else: what it stores is the
body with the next version. Either way its call is recorded, once. -/
theorem use_is_atomic {s : MemoryStore} (h : Reachable s) (use : Use) :
    let answer := (use.attempt.run s).1
    let s' := (use.attempt.run s).2
    (∀ p ∈ s.objects, ∃ i, Body.identify p.2 = .ok i ∧ i.same p.1 = true) ∧
    (∀ e, answer = .error e → s'.objects = s.objects) ∧
    (use.stored? = none → use.removed? = none → s'.objects = s.objects) ∧
    (∀ bodies body, answer = .ok bodies → use.stored? = some body →
      ∃ i, Body.identify body = .ok i ∧ bodies = [s.next body] ∧
        s'.object? i = some (s.next body) ∧ s'.others i = s.others i) ∧
    (∀ bodies body, answer = .ok bodies → use.removed? = some body →
      ∃ i, Body.identify body = .ok i ∧
        s'.object? i = none ∧ s'.others i = s.others i) ∧
    s'.calls = s.calls ++ use.call?.toList := by
  have hcomes := use.comesTo s
  refine ⟨fun p hp => ?_, fun e he => hcomes.objects_of_error he,
    hcomes.objects_of_none, fun bodies body hanswer hbody => ?_,
    fun bodies body hanswer hbody => ?_, use.calls_eq s⟩
  · obtain ⟨hidentified, hsame, -⟩ := h.sound.held p hp
    exact ⟨_, hidentified.identify, hsame⟩
  · obtain ⟨hnext, hstored⟩ := hcomes.stored_of_some hanswer hbody
    refine ⟨_, hstored.identified.identify, hnext, ?_, hstored.others_eq⟩
    rw [object?_stored hstored, if_pos (Identity.same_refl _)]
    rfl
  · have hremoved := hcomes.removed_of_some hanswer hbody
    refine ⟨_, hremoved.identified.identify, ?_, hremoved.others_eq⟩
    rw [object?_removed hremoved, if_pos (Identity.same_refl _)]

/-- An object of a store that is tried out. -/
def coin (name : String) (worth : Int) : Value :=
  .obj [("kind", .str "Coin"), ("metadata", .obj [("name", .str name)]),
    ("worth", .int worth)]

/-- A store into which a coin was put. -/
def purse : MemoryStore := ((put (coin "penny" 1)).run .empty).2

/-- The same coin cannot be created again, and the attempt leaves the store as it
is but for the call. -/
theorem created_once :
    Reachable purse ∧
    ((Use.create (coin "penny" 2)).attempt.run purse).1 =
      .error (alreadyExists (.ofTexts "" "Coin" "penny")) ∧
    ((Use.create (coin "penny" 2)).attempt.run purse).2.objects = purse.objects ∧
    ((Use.create (coin "penny" 2)).attempt.run purse).2.calls =
      [(.create, .ofTexts "" "Coin" "penny")] := by
  have hpurse : Reachable purse := .put _ .empty
  obtain ⟨-, hfailed, -, -, -, hcalls⟩ := use_is_atomic hpurse (.create (coin "penny" 2))
  have hanswer : ((Use.create (coin "penny" 2)).attempt.run purse).1 =
      .error (alreadyExists (.ofTexts "" "Coin" "penny")) := by rfl
  exact ⟨hpurse, hanswer, hfailed _ hanswer, hcalls.trans (by rfl)⟩

end MemoryStore

end OperatorCore
