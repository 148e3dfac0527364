import OperatorCore.Fault.Basic

/-!
# Attempts

An attempt is a computation on a state that may fail, and what it has done to the state before the
failure stays done. This is what distinguishes it from a transaction, and why the state is threaded
beside the outcome and not inside of it. The laws of monads hold, and the lemmas `run_*` say what
each operation answers and what it leaves behind.
-/

namespace OperatorCore

/-- What answers without a state has answered in its first part. -/
theorem bind_eq_ok_iff {α β : Type} {x : Except Fault α} {f : α → Except Fault β}
    {b : β} :
    x >>= f = .ok b ↔ ∃ a, x = .ok a ∧ f a = .ok b := by
  cases x with
  | ok a =>
      refine ⟨fun h => ⟨a, rfl, h⟩, ?_⟩
      rintro ⟨_, ⟨rfl⟩, h⟩
      exact h
  | error e =>
      constructor
      · intro h
        cases h
      · rintro ⟨_, h, -⟩
        cases h

/-- A computation that changes a state, and either answers or fails. -/
def Attempt (σ α : Type) := σ → Except Fault α × σ

namespace Attempt

variable {σ τ α β : Type}

def run (x : Attempt σ α) (s : σ) : Except Fault α × σ := x s

instance : Monad (Attempt σ) where
  pure a := fun s => (.ok a, s)
  bind x f := fun s => match x s with
    | (.ok a, s') => f a s'
    | (.error e, s') => (.error e, s')

@[simp] theorem run_pure (a : α) (s : σ) : (pure a : Attempt σ α).run s = (.ok a, s) := rfl

theorem run_bind (x : Attempt σ α) (f : α → Attempt σ β) (s : σ) :
    (x >>= f).run s = match x.run s with
      | (.ok a, s') => (f a).run s'
      | (.error e, s') => (.error e, s') := rfl

theorem run_bind_ok {x : Attempt σ α} {f : α → Attempt σ β} {s s' : σ} {a : α}
    (h : x.run s = (.ok a, s')) : (x >>= f).run s = (f a).run s' := by
  simp only [run] at h ⊢
  simp [bind, h]

theorem run_bind_error {x : Attempt σ α} {f : α → Attempt σ β} {s s' : σ} {e : Fault}
    (h : x.run s = (.error e, s')) : (x >>= f).run s = (.error e, s') := by
  simp only [run] at h ⊢
  simp [bind, h]

/-- What answers has answered in its first part. -/
theorem ok_of_bind {x : Attempt σ α} {f : α → Attempt σ β} {s s' : σ} {b : β}
    (h : (x >>= f).run s = (.ok b, s')) :
    ∃ a s₁, x.run s = (.ok a, s₁) ∧ (f a).run s₁ = (.ok b, s') := by
  rw [run_bind] at h
  split at h
  · next a s₁ hx => exact ⟨a, s₁, hx, h⟩
  · cases h

instance : LawfulMonad (Attempt σ) := LawfulMonad.mk' (Attempt σ)
  (fun x => by
    funext s
    rcases h : x s with ⟨e | a, s'⟩
    · simp [Functor.map, h]
    · simp only [Functor.map, h]
      rfl)
  (fun _ _ => rfl)
  (fun x f g => by
    funext s
    rcases h : x s with ⟨e | a, s'⟩ <;> simp [bind, h])

/-- Fails. -/
def fail (fault : Fault) : Attempt σ α := fun s => (.error fault, s)

/-- The state. -/
def state : Attempt σ σ := fun s => (.ok s, s)

/-- A part of the state. -/
def read (f : σ → α) : Attempt σ α := fun s => (.ok (f s), s)

def modify (f : σ → σ) : Attempt σ Unit := fun s => (.ok (), f s)

/-- Answers or fails without a look at the state. -/
def lift (x : Except Fault α) : Attempt σ α := fun s => (x, s)

instance : MonadLift (Except Fault) (Attempt σ) := ⟨lift⟩

@[simp] theorem run_fail (fault : Fault) (s : σ) :
    (fail fault : Attempt σ α).run s = (.error fault, s) := rfl

@[simp] theorem run_state (s : σ) : (state : Attempt σ σ).run s = (.ok s, s) := rfl

@[simp] theorem run_read (f : σ → α) (s : σ) : (read f).run s = (.ok (f s), s) := rfl

@[simp] theorem run_modify (f : σ → σ) (s : σ) : (modify f).run s = (.ok (), f s) := rfl

@[simp] theorem run_lift (x : Except Fault α) (s : σ) : (lift x).run s = (x, s) := rfl

@[simp] theorem run_liftM (x : Except Fault α) (s : σ) :
    (liftM x : Attempt σ α).run s = (x, s) := rfl

theorem liftM_ok_bind (a : α) (f : α → Attempt σ β) :
    (liftM (.ok a : Except Fault α) : Attempt σ α) >>= f = f a := rfl

/-- The outcome of a computation, which does not fail any more. -/
def outcome (x : Attempt σ α) : Attempt σ (Except Fault α) := fun s =>
  let (r, s') := x s
  (.ok r, s')

@[simp] theorem run_outcome (x : Attempt σ α) (s : σ) :
    x.outcome.run s = (.ok (x.run s).1, (x.run s).2) := rfl

/-- Runs the second computation after the first one, whatever has become of it. -/
def ensuring (x : Attempt σ α) (after : Attempt σ Unit) : Attempt σ α := fun s =>
  match x s with
  | (r, s') => match after s' with
    | (.ok _, s'') => (r, s'')
    | (.error e, s'') => (.error e, s'')

theorem run_ensuring (x : Attempt σ α) (after : Attempt σ Unit) (s : σ) :
    (x.ensuring after).run s = match after.run (x.run s).2 with
      | (.ok _, s') => ((x.run s).1, s')
      | (.error e, s') => (.error e, s') := rfl

theorem ok_of_ensuring {x : Attempt σ α} {after : Attempt σ Unit} {s s' : σ} {a : α}
    (h : (x.ensuring after).run s = (.ok a, s')) : ∃ s₁, x.run s = (.ok a, s₁) := by
  rw [run_ensuring] at h
  split at h
  · exact ⟨_, Prod.ext (Prod.mk.inj h).1 rfl⟩
  · cases h

/-- Runs a computation on a part of the state. -/
def within (part : τ → σ) (put : σ → τ → τ) (x : Attempt σ α) : Attempt τ α := fun t =>
  let (r, s') := x (part t)
  (r, put s' t)

@[simp] theorem run_within (part : τ → σ) (put : σ → τ → τ) (x : Attempt σ α) (t : τ) :
    (x.within part put).run t = ((x.run (part t)).1, put (x.run (part t)).2 t) := rfl

/-- Runs a computation for each item, in order, up to the first failure. -/
def forEach (f : α → Attempt σ Unit) : List α → Attempt σ Unit
  | [] => pure ()
  | a :: rest => do
    f a
    forEach f rest

/-- The answers for each item, in order, up to the first failure. -/
def mapEach (f : α → Attempt σ β) : List α → Attempt σ (List β)
  | [] => pure []
  | a :: rest => do
    let b ← f a
    let bs ← mapEach f rest
    pure (b :: bs)

end Attempt

end OperatorCore
