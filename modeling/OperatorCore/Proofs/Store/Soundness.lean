import OperatorCore.Proofs.Object.Identified
import OperatorCore.Store.Memory

/-!
# What a store in memory holds

However a store in memory has been used, its keys are distinct, and under each
key there is an object with that identity and a version that was given before.
The argument is the usual one: each operation leaves the objects alone, stores
one under its own identity with the next version, or removes one, and each of
the three keeps the property. The lookups do not even give a version away: all
that they leave behind is the record of their calls.
-/

namespace OperatorCore

namespace MemoryStore

/-! ## The effects of the operations -/

/-- No object was stored or removed between two states. -/
structure Quiet (s s' : MemoryStore) : Prop where
  objects : s'.objects = s.objects
  failures : s'.failures = s.failures
  version : s.nextVersion ≤ s'.nextVersion

/-- Nothing but lookups was called between two states. -/
structure Looked (s s' : MemoryStore) : Prop where
  objects : s'.objects = s.objects
  failures : s'.failures = s.failures
  version : s'.nextVersion = s.nextVersion
  mutations : s'.mutations = s.mutations

/-- An object was stored under its identity, with the next version. -/
structure Stored (body : Value) (s s' : MemoryStore) : Prop where
  identified : Body.Identified body
  objects : s'.objects = place (Body.key body)
    (Body.versioned (.str (toString s.nextVersion)) body) s.objects
  failures : s'.failures = s.failures
  version : s'.nextVersion = s.nextVersion + 1

/-- The object with the identity of a body was removed. -/
structure Removed (body : Value) (s s' : MemoryStore) : Prop where
  identified : Body.Identified body
  objects : s'.objects = s.objects.filter fun p => !p.1.same (Body.key body)
  failures : s'.failures = s.failures
  version : s'.nextVersion = s.nextVersion

theorem run_call (op : Operation) (i : Identity) (s : MemoryStore) :
    (call op i).run s =
      ((do
        checkKey i
        match s.failure? (op, i) with
        | some fault => .error fault
        | none => .ok ()),
      { s with calls := s.calls ++ [(op, i)] }) := by
  have hfailure : failure? { s with calls := s.calls ++ [(op, i)] } (op, i) =
      s.failure? (op, i) := rfl
  simp only [call, Attempt.run_bind, Attempt.run_modify, Attempt.run_liftM,
    Attempt.run_read]
  cases checkKey i with
  | error e => rfl
  | ok _ =>
      simp only [hfailure]
      cases s.failure? (op, i) <;> rfl

theorem run_put (body : Value) (s : MemoryStore) :
    (∃ e, (put body).run s = (.error e, { s with nextVersion := s.nextVersion + 1 })) ∨
    (∃ v s', (put body).run s = (.ok v, s') ∧ Stored body s s') := by
  simp only [put, Attempt.run_bind, Attempt.run_read, Attempt.run_modify,
    Attempt.run_liftM]
  by_cases hbody : Body.Identified body
  · have hid : Body.identify
        (Body.versioned (.str (toString s.nextVersion)) body) = .ok (Body.key body) := by
      rw [(hbody.versioned _).identify, hbody.key_versioned]
    simp only [hbody.setResourceVersion, hid]
    cases checkKey (Body.key body) with
    | error e => exact .inl ⟨e, rfl⟩
    | ok _ => exact .inr ⟨_, _, rfl, hbody, rfl, rfl, rfl⟩
  · obtain ⟨e, he⟩ := Body.putInMetadata_error hbody "resourceVersion"
      (.str (toString s.nextVersion))
    have hset : Body.setResourceVersion body (.str (toString s.nextVersion)) =
        .error e := he
    simp only [hset]
    exact .inl ⟨e, rfl⟩

/-- A write begins with the identity of its object and with the call; if it gets
past both, nothing but the call has been recorded. -/
theorem run_identified {α : Type} (op : Operation) (body : Value)
    (next : Identity → Attempt MemoryStore α) (s : MemoryStore) :
    let x : Attempt MemoryStore α := do
      let i ← Body.identify body
      call op i
      next i
    (∃ e, (x.run s).1 = .error e ∧ Quiet s (x.run s).2) ∨
    (Body.Identified body ∧
      x.run s = (next (Body.key body)).run
        { s with calls := s.calls ++ [(op, Body.key body)] }) := by
  simp only [Attempt.run_bind, Attempt.run_liftM, run_call]
  cases hid : Body.identify body with
  | error e => exact .inl ⟨e, rfl, rfl, rfl, Nat.le_refl _⟩
  | ok i =>
      have hkey := Body.key_eq hid
      subst hkey
      simp only []
      split
      · next _ s' hcall =>
          obtain ⟨-, rfl⟩ := Prod.mk.inj hcall
          exact .inr ⟨⟨_, hid⟩, rfl⟩
      · next e s' hcall =>
          obtain ⟨-, rfl⟩ := Prod.mk.inj hcall
          exact .inl ⟨e, rfl, rfl, rfl, Nat.le_refl _⟩

theorem run_create (body : Value) (s : MemoryStore) :
    (∃ e, ((create body).run s).1 = .error e ∧ Quiet s ((create body).run s).2) ∨
    (∃ v, ((create body).run s).1 = .ok v ∧ Stored body s ((create body).run s).2) := by
  have h : (∃ e, ((create body).run s).1 = .error e ∧ Quiet s ((create body).run s).2) ∨
      (Body.Identified body ∧ (create body).run s = _) :=
    run_identified .create body _ s
  rcases h with hfail | ⟨hbody, hrun⟩
  · exact .inl hfail
  · rw [hrun]
    simp only [Attempt.run_bind, Attempt.run_read]
    split
    · exact .inl ⟨_, rfl, rfl, rfl, Nat.le_refl _⟩
    · rcases run_put body { s with calls := s.calls ++ [(.create, Body.key body)] } with
        ⟨e, hput⟩ | ⟨v, s', hput, hstored⟩
      · rw [hput]
        exact .inl ⟨e, rfl, rfl, rfl, Nat.le_succ _⟩
      · rw [hput]
        exact .inr ⟨v, rfl, hbody, hstored.objects, hstored.failures, hstored.version⟩

theorem run_update (body : Value) (s : MemoryStore) :
    (∃ e, ((update body).run s).1 = .error e ∧ Quiet s ((update body).run s).2) ∨
    (∃ v, ((update body).run s).1 = .ok v ∧ Stored body s ((update body).run s).2) := by
  have h : (∃ e, ((update body).run s).1 = .error e ∧ Quiet s ((update body).run s).2) ∨
      (Body.Identified body ∧ (update body).run s = _) :=
    run_identified .update body _ s
  rcases h with hfail | ⟨hbody, hrun⟩
  · exact .inl hfail
  · rw [hrun]
    simp only [Attempt.run_bind, Attempt.run_read]
    split
    · exact .inl ⟨_, rfl, rfl, rfl, Nat.le_refl _⟩
    · next current _ =>
        simp only [hbody.resourceVersion, Attempt.run_bind, Attempt.run_liftM]
        cases Body.resourceVersion current with
        | error e => exact .inl ⟨e, rfl, rfl, rfl, Nat.le_refl _⟩
        | ok version =>
            simp only []
            split
            · rcases run_put body
                { s with calls := s.calls ++ [(.update, Body.key body)] } with
                ⟨e, hput⟩ | ⟨v, s', hput, hstored⟩
              · rw [hput]
                exact .inl ⟨e, rfl, rfl, rfl, Nat.le_succ _⟩
              · rw [hput]
                exact .inr ⟨v, rfl, hbody, hstored.objects, hstored.failures,
                  hstored.version⟩
            · exact .inl ⟨_, rfl, rfl, rfl, Nat.le_refl _⟩

theorem run_delete (body : Value) (s : MemoryStore) :
    (∃ e, ((delete body).run s).1 = .error e ∧ Quiet s ((delete body).run s).2) ∨
    (((delete body).run s).1 = .ok () ∧ Removed body s ((delete body).run s).2) := by
  have h : (∃ e, ((delete body).run s).1 = .error e ∧ Quiet s ((delete body).run s).2) ∨
      (Body.Identified body ∧ (delete body).run s = _) :=
    run_identified .delete body _ s
  rcases h with hfail | ⟨hbody, hrun⟩
  · exact .inl hfail
  · rw [hrun]
    simp only [Attempt.run_bind, Attempt.run_read]
    split
    · exact .inl ⟨_, rfl, rfl, rfl, Nat.le_refl _⟩
    · exact .inr ⟨rfl, hbody, rfl, rfl, rfl⟩

theorem looked_call {op : Operation} (hop : op.isMutating = false) (i : Identity)
    (s : MemoryStore) : Looked s { s with calls := s.calls ++ [(op, i)] } where
  objects := rfl
  failures := rfl
  version := rfl
  mutations := by
    rw [mutations, mutations, List.filter_append, List.filter_cons_of_neg,
      List.filter_nil, List.append_nil]
    rw [hop]
    exact Bool.false_ne_true

theorem looked_get (kind ns name : Value) (s : MemoryStore) :
    Looked s ((get kind ns name).run s).2 := by
  simp only [get, Attempt.run_bind, run_call]
  split
  · next _ s' h =>
      obtain ⟨-, rfl⟩ := Prod.mk.inj h
      simp only [Attempt.run_read]
      split <;> exact looked_call rfl _ s
  · next e s' h =>
      obtain ⟨-, rfl⟩ := Prod.mk.inj h
      exact looked_call rfl _ s

theorem looked_list (kind ns labels : Value) (s : MemoryStore) :
    Looked s ((list kind ns labels).run s).2 := by
  simp only [list, Attempt.run_bind, run_call]
  split
  · next _ s' h =>
      obtain ⟨-, rfl⟩ := Prod.mk.inj h
      exact looked_call rfl _ s
  · next e s' h =>
      obtain ⟨-, rfl⟩ := Prod.mk.inj h
      exact looked_call rfl _ s

/-! ## Soundness -/

/-- An object may be held under a key while the next version is the given one. -/
structure Held (next : Nat) (i : Identity) (body : Value) : Prop where
  identified : Body.Identified body
  same : (Body.key body).same i = true
  version : ∃ n < next, Body.version body = .str (toString n)

/-- The keys are distinct, and each has its own object. -/
structure Sound (s : MemoryStore) : Prop where
  distinct : s.objects.Pairwise fun p q => p.1.same q.1 = false
  held : ∀ p ∈ s.objects, Held s.nextVersion p.1 p.2

/-- Everything that a store in memory can become. -/
inductive Reachable : MemoryStore → Prop where
  | empty : Reachable empty
  | put {s : MemoryStore} (body : Value) : Reachable s → Reachable ((put body).run s).2
  | get {s : MemoryStore} (kind ns name : Value) :
      Reachable s → Reachable ((get kind ns name).run s).2
  | list {s : MemoryStore} (kind ns labels : Value) :
      Reachable s → Reachable ((list kind ns labels).run s).2
  | create {s : MemoryStore} (body : Value) :
      Reachable s → Reachable ((create body).run s).2
  | update {s : MemoryStore} (body : Value) :
      Reachable s → Reachable ((update body).run s).2
  | delete {s : MemoryStore} (body : Value) :
      Reachable s → Reachable ((delete body).run s).2
  | fail {s : MemoryStore} (op : Operation) (i : Identity) (fault : Fault) :
      Reachable s → Reachable ((fail op i fault).run s).2
  | clearFailures {s : MemoryStore} : Reachable s → Reachable s.clearFailures
  | blame {s : MemoryStore} (body : Value) (cause : Fault) :
      Reachable s → Reachable (blame body cause s)

theorem mem_place {i : Identity} {body : Value} {objects : List (Identity × Value)}
    {p : Identity × Value} (h : p ∈ place i body objects) :
    p ∈ objects ∨ (p.1.same i = true ∧ p.2 = body) := by
  induction objects with
  | nil =>
      obtain rfl := List.mem_singleton.1 h
      exact .inr ⟨Identity.same_refl i, rfl⟩
  | cons q rest ih =>
      obtain ⟨j, old⟩ := q
      rw [place] at h
      split at h
      · next hji =>
          rcases List.mem_cons.1 h with rfl | h
          · exact .inr ⟨hji, rfl⟩
          · exact .inl (List.mem_cons_of_mem _ h)
      · rcases List.mem_cons.1 h with rfl | h
        · exact .inl List.mem_cons_self
        · rcases ih h with hrest | hnew
          · exact .inl (List.mem_cons_of_mem _ hrest)
          · exact .inr hnew

theorem pairwise_place {i : Identity} {body : Value}
    {objects : List (Identity × Value)}
    (h : objects.Pairwise fun p q => p.1.same q.1 = false) :
    (place i body objects).Pairwise fun p q => p.1.same q.1 = false := by
  induction objects with
  | nil => exact List.pairwise_singleton _ _
  | cons q rest ih =>
      obtain ⟨j, old⟩ := q
      obtain ⟨hj, hrest⟩ := List.pairwise_cons.1 h
      rw [place]
      split
      · exact List.pairwise_cons.2 ⟨hj, hrest⟩
      · next hji =>
          refine List.pairwise_cons.2 ⟨?_, ih hrest⟩
          intro p hp
          rcases mem_place hp with hp | ⟨hpi, -⟩
          · exact hj p hp
          · rw [Bool.eq_false_iff]
            intro hjp
            exact hji (Identity.same_trans hjp hpi)

theorem Sound.of_objects {s s' : MemoryStore} (h : Sound s)
    (hobjects : s'.objects = s.objects) (hversion : s.nextVersion ≤ s'.nextVersion) :
    Sound s' where
  distinct := by
    rw [hobjects]
    exact h.distinct
  held p hp := by
    rw [hobjects] at hp
    obtain ⟨hid, hsame, n, hn, hv⟩ := h.held p hp
    exact ⟨hid, hsame, n, Nat.lt_of_lt_of_le hn hversion, hv⟩

theorem Sound.quiet {s s' : MemoryStore} (h : Sound s) (hq : Quiet s s') : Sound s' :=
  h.of_objects hq.objects hq.version

theorem Looked.sound {s s' : MemoryStore} (h : Looked s s') (hs : Sound s) :
    Sound s' :=
  hs.of_objects h.objects (Nat.le_of_eq h.version.symm)

theorem Sound.stored {s s' : MemoryStore} {body : Value} (h : Sound s)
    (hs : Stored body s s') : Sound s' where
  distinct := by
    rw [hs.objects]
    exact pairwise_place h.distinct
  held p hp := by
    rw [hs.objects] at hp
    rw [hs.version]
    rcases mem_place hp with hp | ⟨hsame, hbody⟩
    · obtain ⟨hid, hsame, n, hn, hv⟩ := h.held p hp
      exact ⟨hid, hsame, n, Nat.lt_succ_of_lt hn, hv⟩
    · rw [hbody]
      refine ⟨hs.identified.versioned _, ?_, s.nextVersion, Nat.lt_succ_self _,
        hs.identified.version_versioned⟩
      rw [hs.identified.key_versioned]
      exact Identity.same_symm hsame

theorem Sound.removed {s s' : MemoryStore} {body : Value} (h : Sound s)
    (hr : Removed body s s') : Sound s' where
  distinct := by
    rw [hr.objects]
    exact h.distinct.filter _
  held p hp := by
    rw [hr.objects] at hp
    rw [hr.version]
    exact h.held p (List.mem_filter.1 hp).1

theorem fail_objects (op : Operation) (i : Identity) (fault : Fault)
    (s : MemoryStore) :
    ((MemoryStore.fail op i fault).run s).2.objects = s.objects ∧
      ((MemoryStore.fail op i fault).run s).2.nextVersion = s.nextVersion := by
  simp only [MemoryStore.fail, Attempt.run_bind, Attempt.run_liftM]
  cases checkKey i <;> exact ⟨rfl, rfl⟩

theorem blame_objects (body : Value) (cause : Fault) (s : MemoryStore) :
    (blame body cause s).objects = s.objects ∧
      (blame body cause s).nextVersion = s.nextVersion := by
  unfold blame
  cases Body.identify body <;> exact ⟨rfl, rfl⟩

/-- What holds of the empty store, and is kept where the objects stay, where one
is stored and where one is removed, holds of all that a store can become. -/
theorem Reachable.always {P : MemoryStore → Prop} {s : MemoryStore} (h : Reachable s)
    (hempty : P .empty)
    (hsame : ∀ s s', s'.objects = s.objects → s.nextVersion ≤ s'.nextVersion →
      P s → P s')
    (hstored : ∀ body s s', Stored body s s' → P s → P s')
    (hremoved : ∀ body s s', Removed body s s' → P s → P s') : P s := by
  have hquiet : ∀ s s', Quiet s s' → P s → P s' :=
    fun s s' hq => hsame s s' hq.objects hq.version
  have hlooked : ∀ s s', Looked s s' → P s → P s' :=
    fun s s' hl => hsame s s' hl.objects (Nat.le_of_eq hl.version.symm)
  induction h with
  | empty => exact hempty
  | @put s body _ ih =>
      rcases run_put body s with ⟨e, hrun⟩ | ⟨v, s', hrun, h⟩
      · rw [hrun]
        exact hsame s _ rfl (Nat.le_succ s.nextVersion) ih
      · rw [hrun]
        exact hstored _ _ _ h ih
  | get kind ns name _ ih => exact hlooked _ _ (looked_get kind ns name _) ih
  | list kind ns labels _ ih => exact hlooked _ _ (looked_list kind ns labels _) ih
  | @create s body _ ih =>
      rcases run_create body s with ⟨e, -, hq⟩ | ⟨v, -, h⟩
      · exact hquiet _ _ hq ih
      · exact hstored _ _ _ h ih
  | @update s body _ ih =>
      rcases run_update body s with ⟨e, -, hq⟩ | ⟨v, -, h⟩
      · exact hquiet _ _ hq ih
      · exact hstored _ _ _ h ih
  | @delete s body _ ih =>
      rcases run_delete body s with ⟨e, -, hq⟩ | ⟨-, h⟩
      · exact hquiet _ _ hq ih
      · exact hremoved _ _ _ h ih
  | @fail s op i fault _ ih =>
      obtain ⟨hobjects, hversion⟩ := fail_objects op i fault s
      exact hsame _ _ hobjects (Nat.le_of_eq hversion.symm) ih
  | @clearFailures s _ ih => exact hsame s _ rfl (Nat.le_refl _) ih
  | @blame s body cause _ ih =>
      obtain ⟨hobjects, hversion⟩ := blame_objects body cause s
      exact hsame _ _ hobjects (Nat.le_of_eq hversion.symm) ih

theorem Reachable.sound {s : MemoryStore} (h : Reachable s) : Sound s := by
  refine h.always ⟨List.Pairwise.nil, ?_⟩ (fun _ _ hobjects hversion hs => ?_)
    (fun _ _ _ hstored hs => hs.stored hstored)
    (fun _ _ _ hremoved hs => hs.removed hremoved)
  · intro p hp
    cases hp
  · exact hs.of_objects hobjects hversion

end MemoryStore

end OperatorCore
