import OperatorCore.Proofs.Store.Lookup

/-!
# Faults of a store in memory that have messages

A fault of the API need not have a message, and no other fault can be made of one that has
none. The faults that a store in memory makes by itself all have one, and so has what
comes of a value of the wrong shape. What is left are the failures that are injected. If
these have messages, then so has whatever a lookup fails with, and an observation.
-/

namespace OperatorCore

variable {ω α : Type}

/-- What it fails with has a message. -/
def Telling (x : Except Fault α) : Prop := ∀ e, x = .error e → ∃ text, e.message = .ok text

theorem telling_ok (a : α) : Telling (.ok a) := by
  intro e h
  cases h

/-- What was failed with is failed with again. -/
theorem Telling.again {β : Type} {e : Fault} (h : Telling (.error e : Except Fault α)) :
    Telling (.error e : Except Fault β) := by
  intro e' he
  cases he
  exact h e rfl

theorem telling_bind {β : Type} {x : Except Fault α} {f : α → Except Fault β}
    (hx : Telling x) (hf : ∀ a, Telling (f a)) : Telling (x >>= f) := by
  intro e h
  cases x with
  | ok a => exact hf a e h
  | error e' => exact hx.again e h

theorem telling_fieldsFor (v : Value) (member : String) : Telling (v.fieldsFor member) := by
  cases v with
  | obj fields => exact telling_ok fields
  | null | bool _ | int _ | float _ | str _ | arr _ =>
      intro e h
      cases h
      exact ⟨_, rfl⟩

theorem telling_field (v : Value) (key : String) (default : Value) :
    Telling (v.field key default) :=
  telling_bind (telling_fieldsFor v _) fun _ => telling_ok _

namespace Labels

theorem telling_agree (own : Value) (labels : Fields) : Telling (agree own labels) := by
  induction labels with
  | nil => exact telling_ok true
  | cons p rest ih =>
      refine telling_bind (telling_field _ _ _) fun value => ?_
      split
      · exact ih
      · exact telling_ok false

theorem telling_matchBody (labels body : Value) : Telling (matchBody labels body) := by
  refine telling_bind (telling_field _ _ _) fun metadata => ?_
  refine telling_bind (telling_field _ _ _) fun own => ?_
  exact telling_bind (telling_fieldsFor _ _) fun fields => telling_agree own fields

theorem telling_selectorOf (labels : Value) : Telling (selectorOf labels) := by
  rw [selectorOf]
  split
  · exact telling_bind (telling_fieldsFor _ _) fun _ => telling_ok _
  · exact telling_ok ""

end Labels

theorem Observable.telling_text (o : Observable) : Telling o.text := by
  rw [Observable.text]
  split
  · exact telling_ok _
  · exact telling_bind (Labels.telling_selectorOf _) fun _ => telling_ok _

namespace MemoryStore

theorem telling_select (kind ns labels : Value) (objects : List (Identity × Value)) :
    Telling (select kind ns labels objects) := by
  induction objects with
  | nil => exact telling_ok []
  | cons p rest ih =>
      obtain ⟨i, body⟩ := p
      rw [select]
      split
      · refine telling_bind (Labels.telling_matchBody _ _) fun here => ?_
        exact telling_bind ih fun others => telling_ok _
      · exact telling_bind (telling_ok false) fun here =>
          telling_bind ih fun others => telling_ok _

variable {s s' : MemoryStore}

/-- The failures that are injected have messages. -/
def Tells (s : MemoryStore) : Prop :=
  ∀ c fault, s.failure? c = some fault → ∃ text, fault.message = .ok text

theorem tells_of_mem (h : ∀ p ∈ s.failures, ∃ text, p.2.message = .ok text) : s.Tells := by
  intro c fault hfault
  obtain ⟨p, hfind, rfl⟩ := Option.map_eq_some_iff.1 hfault
  exact h p (List.mem_of_find?_eq_some hfind)

theorem Tells.of_failures (h : s.Tells) (hfailures : s'.failures = s.failures) :
    s'.Tells := by
  intro c fault hfault
  rw [failure?_congr hfailures] at hfault
  exact h c fault hfault

theorem telling_checkKey (i : Identity) : Telling (checkKey i) := by
  rw [checkKey]
  split
  · intro e h
    cases h
    exact ⟨_, rfl⟩
  · exact telling_ok ()

theorem told_of_apiMessage {payload : Option Value} {message : String} (status : Value)
    (h : payloadField payload "message" = .str message) :
    ∃ text, apiMessage payload status = .ok text := by
  rw [apiMessage, h]
  split
  · exact ⟨_, rfl⟩
  · exact ⟨_, rfl⟩
  · next hother => exact absurd rfl (hother message)

theorem told_of_statusFault (kind : ApiClass) (code : Int) (reason : Option String)
    (message : String) :
    ∃ text, (statusFault kind code reason message).message = .ok text := by
  cases reason with
  | none | some why => exact told_of_apiMessage (.int code) rfl

theorem Tells.lookup (h : s.Tells) (o : Observable) : Telling (s.lookup o) := by
  refine telling_bind (telling_checkKey _) fun _ => ?_
  cases o.target with
  | point name =>
      simp only []
      split
      · next fault hfailure =>
          split
          · exact telling_ok []
          · intro e he
            cases he
            exact h _ _ hfailure
      · exact telling_ok _
  | set labels =>
      simp only []
      split
      · next fault hfailure =>
          intro e he
          cases he
          exact h _ _ hfailure
      · refine telling_bind (telling_select _ _ _ _) fun bodies => ?_
        exact telling_bind o.telling_text fun _ => telling_ok bodies

theorem Tells.lookups (h : s.Tells) (observables : List Observable) :
    Telling (s.lookups observables) := by
  induction observables with
  | nil => exact telling_ok []
  | cons o rest ih =>
      refine telling_bind (h.lookup o) fun bodies => ?_
      exact telling_bind ih fun others => telling_ok _

end MemoryStore

namespace Observation

open MemoryStore

/-- What an observation fails with has a message, if the injected failures have. -/
theorem telling_observe {w : World MemoryStore ω} (h : w.store.Tells) (source : Source)
    (observables : List Observable) :
    Telling ((observe asStore source observables).run w).1 := by
  rw [outcome_observe readBy_asStore]
  exact h.lookups observables

end Observation

end OperatorCore
