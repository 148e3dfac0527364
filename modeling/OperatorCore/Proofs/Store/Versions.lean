import Mathlib.Data.List.Pairwise
import OperatorCore.Proofs.Store.Lookup

/-!
# Versions in a store in memory

A version is given once, to one object. So no two objects of the store have the
same, and an update that tells a version is of the object that has it: it fails
for any other, wherever its body says that it belongs.
-/

namespace OperatorCore

namespace Body

theorem version_eq {body v : Value} (h : resourceVersion body = .ok v) :
    version body = v := by
  rw [version, h]
  rfl

end Body

namespace MemoryStore

theorem toString_inj {m n : Nat} (h : toString m = toString n) : m = n := by
  have hdigits : Nat.toDigits 10 m = Nat.toDigits 10 n := by
    rw [← Nat.toList_repr, ← Nat.toList_repr]
    exact congrArg String.toList h
  rw [← Nat.ofDigitChars_ten_toDigits (n := m), hdigits, Nat.ofDigitChars_ten_toDigits]

/-- No two objects have the same version. -/
def Versioned (s : MemoryStore) : Prop :=
  s.objects.Pairwise fun p q => Body.version p.2 ≠ Body.version q.2

theorem pairwise_place_version {i : Identity} {body : Value}
    {objects : List (Identity × Value)}
    (h : objects.Pairwise fun p q => Body.version p.2 ≠ Body.version q.2)
    (hfresh : ∀ p ∈ objects, Body.version body ≠ Body.version p.2) :
    (place i body objects).Pairwise fun p q =>
      Body.version p.2 ≠ Body.version q.2 := by
  induction objects with
  | nil => exact List.pairwise_singleton _ _
  | cons q rest ih =>
      obtain ⟨j, old⟩ := q
      obtain ⟨hold, hrest⟩ := List.pairwise_cons.1 h
      obtain ⟨hother, hothers⟩ := List.forall_mem_cons.1 hfresh
      rw [place]
      split
      · exact List.pairwise_cons.2 ⟨hothers, hrest⟩
      · refine List.pairwise_cons.2 ⟨?_, ih hrest hothers⟩
        intro p hp
        rcases mem_place hp with hp | ⟨-, hbody⟩
        · exact hold p hp
        · rw [hbody]
          exact Ne.symm hother

theorem Versioned.stored {s s' : MemoryStore} {body : Value} (h : Versioned s)
    (hs : Sound s) (hstored : Stored body s s') : Versioned s' := by
  rw [Versioned, hstored.objects]
  refine pairwise_place_version h ?_
  intro p hp
  obtain ⟨n, hn, hversion⟩ := (hs.held p hp).version
  rw [hstored.identified.version_versioned, hversion]
  intro hsame
  have hrepr : s.nextVersion = n := toString_inj (Value.str.inj hsame)
  omega

theorem Reachable.versioned {s : MemoryStore} (h : Reachable s) : Versioned s := by
  have hboth : Sound s ∧ Versioned s := by
    refine h.always (P := fun s => Sound s ∧ Versioned s)
      ⟨Reachable.empty.sound, List.Pairwise.nil⟩ ?_ ?_ ?_
    · rintro s s' hobjects hversion ⟨hs, hv⟩
      refine ⟨hs.of_objects hobjects hversion, ?_⟩
      rw [Versioned, hobjects]
      exact hv
    · rintro body s s' hstored ⟨hs, hv⟩
      exact ⟨hs.stored hstored, hv.stored hs hstored⟩
    · rintro body s s' hremoved ⟨hs, hv⟩
      refine ⟨hs.removed hremoved, ?_⟩
      rw [Versioned, hremoved.objects]
      exact hv.filter _
  exact hboth.2

/-- An object is known by its version. -/
theorem Reachable.eq_of_version {s : MemoryStore} (h : Reachable s)
    {p q : Identity × Value} (hp : p ∈ s.objects) (hq : q ∈ s.objects)
    (hversion : Body.version p.2 = Body.version q.2) : p = q := by
  have hsymm : Std.Symm fun p q : Identity × Value =>
      Body.version p.2 = Body.version q.2 → p = q :=
    ⟨fun p q hpq hqp => (hpq hqp.symm).symm⟩
  have hpairs : s.objects.Pairwise fun p q =>
      Body.version p.2 = Body.version q.2 → p = q :=
    h.versioned.imp fun hne heq => absurd heq hne
  exact hpairs.forall_of_forall (fun _ _ _ => rfl) hp hq hversion

theorem Reachable.same_of_version {s : MemoryStore} (h : Reachable s)
    {i j : Identity} {a b : Value} (ha : s.object? i = some a)
    (hb : s.object? j = some b) (hversion : Body.version a = Body.version b) :
    i.same j = true := by
  obtain ⟨p, hp, hpi, rfl⟩ := mem_of_object? ha
  obtain ⟨q, hq, hqj, rfl⟩ := mem_of_object? hb
  obtain rfl := h.eq_of_version hp hq hversion
  exact Identity.same_trans (Identity.same_symm hpi) hqj

/-- An update that succeeds has told the version of the object that it is of, or
none. -/
theorem current_of_update {body v : Value} {s s' : MemoryStore}
    (h : (update body).run s = (.ok v, s')) :
    ∃ current, s.object? (Body.key body) = some current ∧
      ((Body.version body).isNull = true ∨
        (Body.version body).equal (Body.version current) = true) := by
  rw [update] at h
  obtain ⟨i, s₁, hid, h⟩ := Attempt.ok_of_bind h
  obtain ⟨hidentify, rfl⟩ := Prod.mk.inj hid
  obtain ⟨_, s₂, hcall, h⟩ := Attempt.ok_of_bind h
  rw [run_call] at hcall
  obtain ⟨-, rfl⟩ := Prod.mk.inj hcall
  obtain ⟨current, s₃, hread, h⟩ := Attempt.ok_of_bind h
  obtain ⟨hcurrent, rfl⟩ := Prod.mk.inj hread
  have hheld : s.object? i = current := Except.ok.inj hcurrent
  rw [Body.key_eq hidentify]
  cases current with
  | none => cases h
  | some current =>
      obtain ⟨version, s₄, hversion, h⟩ := Attempt.ok_of_bind h
      obtain ⟨hown, rfl⟩ := Prod.mk.inj hversion
      obtain ⟨other, s₅, hother, h⟩ := Attempt.ok_of_bind h
      obtain ⟨hothers, rfl⟩ := Prod.mk.inj hother
      rw [← Body.version_eq hown, ← Body.version_eq hothers] at h
      refine ⟨current, hheld, ?_⟩
      split at h
      · next hmatch => exact (Bool.or_eq_true _ _).mp hmatch
      · cases h

/-- So an update with the version of an object is of this object, if it succeeds. -/
theorem Reachable.same_of_update {s s' : MemoryStore} (h : Reachable s)
    {i : Identity} {old body v : Value} (hold : s.object? i = some old)
    (hversion : Body.version body = Body.version old)
    (hupdate : (MemoryStore.update body).run s = (.ok v, s')) :
    (Body.key body).same i = true := by
  obtain ⟨current, hcurrent, hmatch⟩ := current_of_update hupdate
  obtain ⟨n, -, hn⟩ := (h.sound.held_of_object? hold).version
  obtain ⟨m, -, hm⟩ := (h.sound.held_of_object? hcurrent).version
  refine h.same_of_version hcurrent hold ?_
  rw [hversion, hn, hm] at hmatch
  rcases hmatch with hnull | hequal
  · cases hnull
  · rw [Value.equal_iff] at hequal
    rw [hn, hm]
    exact hequal.symm

end MemoryStore

end OperatorCore
