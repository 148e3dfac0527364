import OperatorCore.Fault.Attempt

/-!
# What a computation leaves in place

Much of what there is to say about a computation is said by a relation between
the state that it finds and the state that it leaves: nothing was written,
something has only grown, a part is the same. If the relation is reflexive and
transitive, it holds of a computation as soon as it holds of its parts, and it
does not matter at which of them the computation fails: an attempt keeps what
it has done. The lemmas say so for each way of composing attempts.

Where it matters what comes out, and not what is left, a property of the answers,
or of the faults, is carried through in the same way. So is it that a computation
comes out the same from states that differ in what it does not look at. And what
begins with something that may fail, and does nothing before, is told by that.
-/

namespace OperatorCore

/-- A relation that is there from the start and adds up. -/
structure Steady {σ : Type} (R : σ → σ → Prop) : Prop where
  refl : ∀ s, R s s
  trans : ∀ {a b c}, R a b → R b c → R a c

theorem steady_same {σ : Type} : Steady fun a b : σ => b = a :=
  ⟨fun _ => rfl, fun h h' => h'.trans h⟩

/-- Where nothing is asked for. -/
theorem steady_true {σ : Type} : Steady fun _ _ : σ => True :=
  ⟨fun _ => trivial, fun _ _ => trivial⟩

/-- What has held before holds after. -/
def Inherits {σ : Type} (P : σ → Prop) (s s' : σ) : Prop := P s → P s'

theorem steady_inherits {σ : Type} (P : σ → Prop) : Steady (Inherits P) :=
  ⟨fun _ h => h, fun h h' hP => h' (h hP)⟩

namespace Attempt

variable {σ α β : Type}

/-- However the computation ends, it leaves a state in relation to the one that
it has found. -/
def Keeps (R : σ → σ → Prop) (x : Attempt σ α) : Prop := ∀ s, R s (x.run s).2

section Keeps

variable {R : σ → σ → Prop}

theorem keeps_pure (hR : Steady R) (a : α) : Keeps R (pure a : Attempt σ α) :=
  hR.refl

theorem keeps_fail (hR : Steady R) (fault : Fault) :
    Keeps R (fail fault : Attempt σ α) :=
  hR.refl

theorem keeps_liftM (hR : Steady R) (x : Except Fault α) :
    Keeps R (liftM x : Attempt σ α) :=
  hR.refl

theorem keeps_read (hR : Steady R) (f : σ → α) : Keeps R (read f) := hR.refl

theorem keeps_modify {f : σ → σ} (h : ∀ s, R s (f s)) : Keeps R (modify f) := h

/-- Of what comes after, the answers that there are matter alone. -/
theorem keeps_bind_answer (hR : Steady R) {x : Attempt σ α} {f : α → Attempt σ β}
    (hx : Keeps R x) (hf : ∀ a s, (x.run s).1 = .ok a → Keeps R (f a)) :
    Keeps R (x >>= f) := by
  intro s
  rw [run_bind]
  split
  · next a s' h =>
      have hs := hx s
      rw [h] at hs
      exact hR.trans hs (hf a s (by rw [h]) s')
  · next e s' h =>
      have hs := hx s
      rw [h] at hs
      exact hs

theorem keeps_bind (hR : Steady R) {x : Attempt σ α} {f : α → Attempt σ β}
    (hx : Keeps R x) (hf : ∀ a, Keeps R (f a)) : Keeps R (x >>= f) :=
  keeps_bind_answer hR hx fun a _ _ => hf a

theorem keeps_unless (hR : Steady R) {c : Prop} [Decidable c] {x : Attempt σ Unit}
    {y : Attempt σ α} (hx : Keeps R x) (hy : Keeps R y) :
    Keeps R (if c then x >>= fun _ => y else y) := by
  split
  · exact keeps_bind hR hx fun _ => hy
  · exact hy

theorem keeps_outcome {x : Attempt σ α} (hx : Keeps R x) : Keeps R x.outcome := hx

theorem keeps_ensuring (hR : Steady R) {x : Attempt σ α} {after : Attempt σ Unit}
    (hx : Keeps R x) (hafter : Keeps R after) : Keeps R (x.ensuring after) := by
  intro s
  have h := hR.trans (hx s) (hafter (x.run s).2)
  rw [run_ensuring]
  split
  · next s' ha => rw [ha] at h; exact h
  · next e s' ha => rw [ha] at h; exact h

end Keeps

section Holds

variable {P : σ → Prop}

/-- What the first part brings about, and the rest keeps, holds in the end. -/
theorem holds_bind {x : Attempt σ α} {f : α → Attempt σ β} {s : σ} (hx : P (x.run s).2)
    (hf : ∀ a, Keeps (Inherits P) (f a)) : P ((x >>= f).run s).2 := by
  rw [run_bind]
  split
  · next a s' h =>
      rw [h] at hx
      exact hf a s' hx
  · next e s' h =>
      rw [h] at hx
      exact hx

theorem holds_ensuring {x : Attempt σ α} {after : Attempt σ Unit} {s : σ}
    (hx : P (x.run s).2) (hafter : Keeps (Inherits P) after) :
    P ((x.ensuring after).run s).2 := by
  have h := hafter (x.run s).2 hx
  rw [run_ensuring]
  split
  · next s' ha => rw [ha] at h; exact h
  · next e s' ha => rw [ha] at h; exact h

end Holds

/-- Whatever the computation answers has the property. -/
def Yields (Q : α → Prop) (x : Attempt σ α) : Prop :=
  ∀ s s' a, x.run s = (.ok a, s') → Q a

section Yields

variable {P : α → Prop} {Q : β → Prop}

theorem yields_pure {a : α} (h : P a) : Yields P (pure a : Attempt σ α) := by
  intro s s' b hb
  cases hb
  exact h

theorem yields_fail (fault : Fault) : Yields P (fail fault : Attempt σ α) := by
  intro s s' a ha
  cases ha

theorem yields_liftM {x : Except Fault α} (h : ∀ a, x = .ok a → P a) :
    Yields P (liftM x : Attempt σ α) :=
  fun _ _ a ha => h a (Prod.mk.inj ha).1

theorem yields_bind {x : Attempt σ α} {f : α → Attempt σ β} (hx : Yields P x)
    (hf : ∀ a, P a → Yields Q (f a)) : Yields Q (x >>= f) := by
  intro s s' b hb
  obtain ⟨a, s₁, ha, hfa⟩ := ok_of_bind hb
  exact hf a (hx s s₁ a ha) s₁ s' b hfa

theorem yields_after {x : Attempt σ α} {f : α → Attempt σ β}
    (hf : ∀ a, Yields Q (f a)) : Yields Q (x >>= f) :=
  yields_bind (fun _ _ _ _ => trivial) fun a (_ : True) => hf a

theorem yields_unless {c : Prop} [Decidable c] {x : Attempt σ Unit} {y : Attempt σ β}
    (hy : Yields Q y) : Yields Q (if c then x >>= fun _ => y else y) := by
  split
  · exact yields_after fun _ => hy
  · exact hy

end Yields

/-- Whatever the computation fails with has the property. -/
def Fails (P : Fault → Prop) (x : Attempt σ α) : Prop :=
  ∀ s s' e, x.run s = (.error e, s') → P e

section Fails

variable {P : Fault → Prop}

theorem fails_pure (a : α) : Fails P (pure a : Attempt σ α) := by
  intro s s' e h
  cases h

theorem fails_fail {fault : Fault} (h : P fault) :
    Fails P (fail fault : Attempt σ α) := by
  intro s s' e he
  cases he
  exact h

theorem fails_liftM {x : Except Fault α} (h : ∀ e, x = .error e → P e) :
    Fails P (liftM x : Attempt σ α) :=
  fun _ _ e he => h e (Prod.mk.inj he).1

theorem fails_read (f : σ → α) : Fails P (read f) := by
  intro s s' e h
  cases h

theorem fails_modify (f : σ → σ) : Fails P (modify f) := by
  intro s s' e h
  cases h

theorem fails_outcome (x : Attempt σ α) : Fails P x.outcome := by
  intro s s' e h
  cases h

/-- Of what comes after, the answers that there are matter alone. -/
theorem fails_bind_answer {x : Attempt σ α} {f : α → Attempt σ β} (hx : Fails P x)
    (hf : ∀ a s, (x.run s).1 = .ok a → Fails P (f a)) : Fails P (x >>= f) := by
  intro s s' e h
  rw [run_bind] at h
  split at h
  · next a s₁ ha => exact hf a s (by rw [ha]) s₁ s' e h
  · next e' s₁ he =>
      cases h
      exact hx s s' e he

theorem fails_bind {x : Attempt σ α} {f : α → Attempt σ β} (hx : Fails P x)
    (hf : ∀ a, Fails P (f a)) : Fails P (x >>= f) :=
  fails_bind_answer hx fun a _ _ => hf a

theorem fails_unless {c : Prop} [Decidable c] {x : Attempt σ Unit} {y : Attempt σ α}
    (hx : Fails P x) (hy : Fails P y) :
    Fails P (if c then x >>= fun _ => y else y) := by
  split
  · exact fails_bind hx fun _ => hy
  · exact hy

theorem fails_ensuring {x : Attempt σ α} {after : Attempt σ Unit} (hx : Fails P x)
    (hafter : Fails P after) : Fails P (x.ensuring after) := by
  intro s s' e h
  rw [run_ensuring] at h
  split at h
  · next s₁ ha => exact hx s (x.run s).2 e (Prod.ext (Prod.mk.inj h).1 rfl)
  · next e' s₁ ha =>
      cases h
      exact hafter (x.run s).2 s' e ha

end Fails

/-- The computation does not see what related states differ in, and leaves related states
behind. -/
def Respects (R : σ → σ → Prop) (x : Attempt σ α) : Prop :=
  ∀ s s', R s s' → (x.run s').1 = (x.run s).1 ∧ R (x.run s).2 (x.run s').2

section Respects

variable {R : σ → σ → Prop}

theorem respects_pure (a : α) : Respects R (pure a : Attempt σ α) :=
  fun _ _ h => ⟨rfl, h⟩

theorem respects_fail (fault : Fault) : Respects R (fail fault : Attempt σ α) :=
  fun _ _ h => ⟨rfl, h⟩

theorem respects_liftM (x : Except Fault α) : Respects R (liftM x : Attempt σ α) :=
  fun _ _ h => ⟨rfl, h⟩

theorem respects_outcome {x : Attempt σ α} (hx : Respects R x) : Respects R x.outcome :=
  fun s s' h => ⟨congrArg Except.ok (hx s s' h).1, (hx s s' h).2⟩

theorem respects_bind {x : Attempt σ α} {f : α → Attempt σ β} (hx : Respects R x)
    (hf : ∀ a, Respects R (f a)) : Respects R (x >>= f) := by
  intro s s' h
  obtain ⟨hanswer, hleft⟩ := hx s s' h
  rw [run_bind, run_bind]
  rcases hrun : x.run s with ⟨e | a, s₁⟩ <;> rcases hrun' : x.run s' with ⟨answer', s₁'⟩ <;>
    rw [hrun, hrun'] at hanswer hleft <;> cases hanswer
  · exact ⟨rfl, hleft⟩
  · exact hf a s₁ s₁' hleft

end Respects

/-- Where the guard fails, the computation fails with the same fault and has done nothing;
otherwise it leaves what the guard's answer stands for. -/
def Guarded (guard : Except Fault β) (R : β → σ → σ → Prop) (x : Attempt σ α) : Prop :=
  match guard with
  | .error e => ∀ s, x.run s = (.error e, s)
  | .ok b => Keeps (R b) x

section Guarded

variable {γ : Type} {R : β → σ → σ → Prop}

theorem guarded_pure {b : β} {x : Attempt σ α} (h : Keeps (R b) x) :
    Guarded (pure b) R x := h

theorem guarded_liftM_bind {first : Except Fault γ} {guard : γ → Except Fault β}
    {f : γ → Attempt σ α} (h : ∀ c, first = .ok c → Guarded (guard c) R (f c)) :
    Guarded (first >>= guard) R (liftM first >>= f) := by
  cases first with
  | error e => exact fun _ => rfl
  | ok c => exact h c rfl

theorem guarded_bind {α' : Type} (hR : ∀ b, Steady (R b)) {guard : Except Fault β}
    {x : Attempt σ α} {f : α → Attempt σ α'} (hx : Guarded guard R x)
    (hf : ∀ a b, guard = .ok b → Keeps (R b) (f a)) : Guarded guard R (x >>= f) := by
  cases guard with
  | error e => exact fun s => run_bind_error (hx s)
  | ok b => exact keeps_bind (hR b) hx fun a => hf a b rfl

end Guarded

end Attempt

end OperatorCore
