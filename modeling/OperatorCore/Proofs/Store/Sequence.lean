import OperatorCore.Proofs.Store.Recorded
import OperatorCore.Proofs.Store.Soundness

/-!
# Writes that all succeed

What a store in memory holds after a list of successful writes can be told for
each identity by itself. A write changes what is held under the identity of its
body and nothing else, so the writes of other objects can be left out. A write
that is not followed by one of the same object stays in effect, and an object
that is deleted and written in no other way is gone.

The inductions are on the list of writes, from its front, for every state.
-/

namespace OperatorCore

variable {σ : Type}

/-- The state after some writes, if all of them succeed. -/
def ObjectStore.writes (store : ObjectStore σ) : List Write → σ → Option σ
  | [], s => some s
  | w :: rest, s =>
    match store.attempt w s with
    | (none, s') => writes store rest s'
    | (some _, _) => none

namespace Write

/-- The write is of the object with the identity. -/
def touches (w : Write) (i : Identity) : Bool := (Body.key w.body).same i

end Write

namespace MemoryStore

/-! ## One write -/

/-- What a successful write has done. -/
def Wrote (w : Write) (s s' : MemoryStore) : Prop :=
  if w.isDelete then Removed w.body s s' else Stored w.body s s'

theorem attempt_cases (w : Write) (s : MemoryStore) :
    (∃ e, (asStore.attempt w s).1 = some e ∧ Quiet s (asStore.attempt w s).2) ∨
    ((asStore.attempt w s).1 = none ∧ Wrote w s (asStore.attempt w s).2) := by
  cases w with
  | create body =>
      rcases run_create body s with ⟨e, he, hquiet⟩ | ⟨v, hv, hstored⟩
      · exact .inl ⟨e, by simp [ObjectStore.attempt, asStore, reply, Reply.fault?, he],
          hquiet⟩
      · exact .inr ⟨by simp [ObjectStore.attempt, asStore, reply, Reply.fault?, hv],
          hstored⟩
  | update body =>
      rcases run_update body s with ⟨e, he, hquiet⟩ | ⟨v, hv, hstored⟩
      · exact .inl ⟨e, by simp [ObjectStore.attempt, asStore, reply, Reply.fault?, he],
          hquiet⟩
      · exact .inr ⟨by simp [ObjectStore.attempt, asStore, reply, Reply.fault?, hv],
          hstored⟩
  | delete body =>
      rcases run_delete body s with ⟨e, he, hquiet⟩ | ⟨hv, hremoved⟩
      · exact .inl ⟨e, by simp [ObjectStore.attempt, asStore, reply, Reply.fault?, he],
          hquiet⟩
      · exact .inr ⟨by simp [ObjectStore.attempt, asStore, reply, Reply.fault?, hv],
          hremoved⟩

theorem object?_stored {body : Value} {s s' : MemoryStore} (h : Stored body s s')
    (j : Identity) :
    s'.object? j = if (Body.key body).same j
      then some (Body.versioned (.str (toString s.nextVersion)) body)
      else s.object? j := by
  rw [← object?_place, object?, h.objects]
  rfl

theorem object?_removed {body : Value} {s s' : MemoryStore} (h : Removed body s s')
    (j : Identity) :
    s'.object? j = if (Body.key body).same j then none else s.object? j := by
  rw [object?, h.objects, List.find?_filter]
  split
  · next hj =>
      rw [List.find?_eq_none.2]
      · rfl
      · intro p _ hp
        rw [decide_eq_true_eq, Bool.not_eq_true'] at hp
        have hsame := Identity.same_trans hp.2 (Identity.same_symm hj)
        rw [hp.1] at hsame
        cases hsame
  · next hj =>
      have hcongr : (fun p : Identity × Value => decide
          ((!p.1.same (Body.key body)) = true ∧ p.1.same j = true)) =
          fun p => p.1.same j := by
        funext p
        rw [Bool.eq_iff_iff, decide_eq_true_eq, Bool.not_eq_true', Bool.eq_false_iff]
        refine ⟨And.right, fun hp => ⟨?_, hp⟩⟩
        intro hkey
        exact hj (Identity.same_trans (Identity.same_symm hkey) hp)
      rw [hcongr]
      rfl

/-- A write of another object changes nothing. -/
theorem object?_wrote_of_not_touches {w : Write} {s s' : MemoryStore}
    (h : Wrote w s s') {j : Identity} (hj : w.touches j = false) :
    s'.object? j = s.object? j := by
  have hkey : ¬ (Body.key w.body).same j = true := by
    rw [Bool.not_eq_true]
    exact hj
  unfold Wrote at h
  split at h
  · rw [object?_removed h, if_neg hkey]
  · rw [object?_stored h, if_neg hkey]

theorem sound_wrote {w : Write} {s s' : MemoryStore} (hs : Sound s)
    (h : Wrote w s s') : Sound s' := by
  unfold Wrote at h
  split at h
  · exact hs.removed h
  · exact hs.stored h

theorem failures_wrote {w : Write} {s s' : MemoryStore} (h : Wrote w s s') :
    s'.failures = s.failures := by
  unfold Wrote at h
  split at h
  · exact h.failures
  · exact h.failures

theorem version_wrote {w : Write} {s s' : MemoryStore} (h : Wrote w s s') :
    s.nextVersion ≤ s'.nextVersion := by
  unfold Wrote at h
  split at h
  · exact Nat.le_of_eq h.version.symm
  · exact Nat.le_trans (Nat.le_succ _) (Nat.le_of_eq h.version.symm)

/-! ## Many writes -/

theorem writes_cons {w : Write} {rest : List Write} {s s' : MemoryStore}
    (h : asStore.writes (w :: rest) s = some s') :
    ∃ s₁, Wrote w s s₁ ∧ asStore.writes rest s₁ = some s' := by
  rw [ObjectStore.writes] at h
  rcases attempt_cases w s with ⟨e, he, -⟩ | ⟨hnone, hwrote⟩
  · split at h
    · next s₁ hattempt =>
        rw [hattempt] at he
        cases he
    · cases h
  · split at h
    · next s₁ hattempt =>
        rw [hattempt] at hwrote
        exact ⟨s₁, hwrote, h⟩
    · cases h

variable {ws : List Write} {s s' : MemoryStore}

theorem sound_writes (hs : Sound s) (h : asStore.writes ws s = some s') : Sound s' := by
  induction ws generalizing s with
  | nil =>
      cases h
      exact hs
  | cons w rest ih =>
      obtain ⟨s₁, hwrote, hrest⟩ := writes_cons h
      exact ih (sound_wrote hs hwrote) hrest

theorem failures_writes (h : asStore.writes ws s = some s') :
    s'.failures = s.failures := by
  induction ws generalizing s with
  | nil =>
      cases h
      rfl
  | cons w rest ih =>
      obtain ⟨s₁, hwrote, hrest⟩ := writes_cons h
      rw [ih hrest, failures_wrote hwrote]

/-- If all that is written has labels, so has all that is there. -/
theorem labelled_writes (hs : ∀ p ∈ s.objects, Body.Labelled p.2)
    (hws : ∀ w ∈ ws, w.isDelete = false → Body.Labelled w.body)
    (h : asStore.writes ws s = some s') : ∀ p ∈ s'.objects, Body.Labelled p.2 := by
  induction ws generalizing s with
  | nil =>
      cases h
      exact hs
  | cons w rest ih =>
      obtain ⟨s₁, hwrote, hrest⟩ := writes_cons h
      refine ih ?_ (fun w' hmem => hws w' (List.mem_cons_of_mem _ hmem)) hrest
      intro p hp
      unfold Wrote at hwrote
      split at hwrote
      · rw [hwrote.objects] at hp
        exact hs p (List.mem_filter.1 hp).1
      · next hw =>
          rw [hwrote.objects] at hp
          rcases mem_place hp with hp | ⟨-, hbody⟩
          · exact hs p hp
          · rw [hbody]
            exact (hws w List.mem_cons_self (Bool.not_eq_true _ ▸ hw)).versioned rfl

/-- What no write touches stays as it was. -/
theorem object?_writes_of_untouched (h : asStore.writes ws s = some s')
    {j : Identity} (hj : ∀ w ∈ ws, w.touches j = false) :
    s'.object? j = s.object? j := by
  induction ws generalizing s with
  | nil =>
      cases h
      rfl
  | cons w rest ih =>
      obtain ⟨s₁, hwrote, hrest⟩ := writes_cons h
      rw [ih hrest fun w' hmem => hj w' (List.mem_cons_of_mem _ hmem)]
      exact object?_wrote_of_not_touches hwrote (hj w List.mem_cons_self)

/-- What is stored once, and not touched after that, is there with a version
that was not given before. -/
theorem object?_writes_of_stored {pre post : List Write} {w : Write}
    (h : asStore.writes (pre ++ w :: post) s = some s') (hw : w.isDelete = false)
    (hpost : ∀ w' ∈ post, w'.touches (Body.key w.body) = false) :
    Body.Identified w.body ∧ ∃ n, s.nextVersion ≤ n ∧
      s'.object? (Body.key w.body) =
        some (Body.versioned (.str (toString n)) w.body) := by
  induction pre generalizing s with
  | nil =>
      obtain ⟨s₁, hwrote, hrest⟩ := writes_cons h
      rw [object?_writes_of_untouched hrest hpost]
      rw [Wrote, hw, if_neg (by simp)] at hwrote
      refine ⟨hwrote.identified, s.nextVersion, Nat.le_refl _, ?_⟩
      rw [object?_stored hwrote, if_pos (Identity.same_refl _)]
  | cons w' rest ih =>
      obtain ⟨s₁, hwrote, hrest⟩ := writes_cons h
      obtain ⟨hid, n, hn, ho⟩ := ih hrest
      exact ⟨hid, n, Nat.le_trans (version_wrote hwrote) hn, ho⟩

/-- What is deleted, and written in no other way, is gone. -/
theorem object?_writes_of_deleted (h : asStore.writes ws s = some s') {j : Identity}
    (hall : ∀ w ∈ ws, w.touches j = true → w.isDelete = true)
    (hj : s.object? j = none ∨ ∃ w ∈ ws, w.touches j = true) :
    s'.object? j = none := by
  induction ws generalizing s with
  | nil =>
      cases h
      rcases hj with hj | ⟨w, hmem, -⟩
      · exact hj
      · cases hmem
  | cons w rest ih =>
      obtain ⟨s₁, hwrote, hrest⟩ := writes_cons h
      refine ih hrest (fun w' hmem => hall w' (List.mem_cons_of_mem _ hmem)) ?_
      cases hw : w.touches j with
      | true =>
          left
          have hdelete := hall w List.mem_cons_self hw
          rw [Wrote, hdelete, if_pos rfl] at hwrote
          rw [object?_removed hwrote]
          exact if_pos hw
      | false =>
          rcases hj with hj | ⟨w', hmem, hw'⟩
          · left
            rw [object?_wrote_of_not_touches hwrote hw, hj]
          · right
            rcases List.mem_cons.1 hmem with rfl | hmem
            · rw [hw] at hw'
              cases hw'
            · exact ⟨w', hmem, hw'⟩

end MemoryStore

end OperatorCore
