import OperatorCore.Proofs.Store.Uses

/-!
# Histories of a store in memory

Clients that share a store take turns at it, so whatever they do is one list of
uses. A body that was answered once is recalled for good: its version is given to
nothing else, so as long as the store goes on, an object that bears the version is
that body. Hence an update that tells the version is of an object that nobody has
touched since. The runs are followed from the front for what stays recalled, and
from the back for what has been there.
-/

namespace OperatorCore

namespace MemoryStore

/-- The store after some uses, in the order in which they were made. -/
def after : List Use → MemoryStore → MemoryStore
  | [], s => s
  | use :: rest, s => after rest (use.attempt.run s).2

/-- The versions that a use has given, as they are answered. -/
def Use.given (use : Use) (s : MemoryStore) : List Value :=
  match use.stored?, (use.attempt.run s).1 with
  | some _, .ok bodies => bodies.map Body.version
  | _, _ => []

/-- The versions that some uses have given, in order. -/
def assigned : List Use → MemoryStore → List Value
  | [], _ => []
  | use :: rest, s => use.given s ++ assigned rest (use.attempt.run s).2

theorem after_append (first second : List Use) (s : MemoryStore) :
    after (first ++ second) s = after second (after first s) := by
  induction first generalizing s with
  | nil => rfl
  | cons use rest ih => exact ih _

theorem Reachable.after {s : MemoryStore} (h : Reachable s) (uses : List Use) :
    Reachable (after uses s) := by
  induction uses generalizing s with
  | nil => exact h
  | cons use rest ih => exact ih (h.use use)

/-! ## The versions -/

theorem next_version {body : Value} (h : Body.Identified body) (s : MemoryStore) :
    Body.version (s.next body) = .str (toString s.nextVersion) :=
  h.version_versioned

theorem Use.given_cases (use : Use) (s : MemoryStore) :
    (use.given s = [] ∧ s.nextVersion ≤ (use.attempt.run s).2.nextVersion) ∨
    (use.given s = [.str (toString s.nextVersion)] ∧
      (use.attempt.run s).2.nextVersion = s.nextVersion + 1) := by
  have hcomes := use.comesTo s
  unfold Use.given
  generalize (use.attempt.run s).1 = answer at hcomes ⊢
  cases hcomes with
  | failed _ hversion => exact .inl ⟨by split <;> trivial, hversion⟩
  | looked hnone _ _ hversion _ =>
      rw [hnone]
      exact .inl ⟨rfl, Nat.le_of_eq hversion.symm⟩
  | stored hbody _ hstored =>
      rw [hbody]
      refine .inr ⟨?_, hstored.version⟩
      exact congrArg (fun v => [v]) (next_version hstored.identified s)
  | removed hnone _ hremoved =>
      rw [hnone]
      exact .inl ⟨rfl, Nat.le_of_eq hremoved.version.symm⟩

/-- The versions are numbers that only go up, from the next one on. -/
theorem assigned_ascending (uses : List Use) (s : MemoryStore) :
    ∃ numbers : List Nat,
      assigned uses s = numbers.map (fun n => Value.str (toString n)) ∧
      numbers.Pairwise (· < ·) ∧ ∀ n ∈ numbers, s.nextVersion ≤ n := by
  induction uses generalizing s with
  | nil => exact ⟨[], rfl, .nil, fun n hn => by cases hn⟩
  | cons use rest ih =>
      obtain ⟨numbers, hassigned, hascending, hfrom⟩ := ih (use.attempt.run s).2
      rcases use.given_cases s with ⟨hgiven, hversion⟩ | ⟨hgiven, hversion⟩
      · refine ⟨numbers, ?_, hascending, fun n hn => Nat.le_trans hversion (hfrom n hn)⟩
        rw [assigned, hgiven, hassigned, List.nil_append]
      · refine ⟨s.nextVersion :: numbers, ?_, ?_, ?_⟩
        · rw [assigned, hgiven, hassigned]
          rfl
        · refine List.pairwise_cons.2 ⟨fun n hn => ?_, hascending⟩
          have hle := hfrom n hn
          omega
        · intro n hn
          rcases List.mem_cons.1 hn with rfl | hn
          · exact Nat.le_refl _
          · have hle := hfrom n hn
            omega

/-! ## What is recalled -/

/-- The version of a body was given, and nothing but the body bears it. -/
structure Recalled (r : Value) (s : MemoryStore) : Prop where
  given : ∃ n < s.nextVersion, Body.version r = .str (toString n)
  only : ∀ p ∈ s.objects, Body.version p.2 = Body.version r → p.2 = r

section Recalled

variable {r : Value} {s s' : MemoryStore} {use : Use}
  {answer : Except Fault (List Value)}

/-- What is stored next has another version. -/
theorem Recalled.ne_next (h : Recalled r s) {body : Value} (hbody : Body.Identified body) :
    Body.version (s.next body) ≠ Body.version r := by
  obtain ⟨n, hn, hversion⟩ := h.given
  rw [next_version hbody, hversion]
  intro heq
  have hsame : s.nextVersion = n := toString_inj (Value.str.inj heq)
  omega

theorem Recalled.of_objects (h : Recalled r s) (hobjects : s'.objects = s.objects)
    (hversion : s.nextVersion ≤ s'.nextVersion) : Recalled r s' := by
  obtain ⟨n, hn, hr⟩ := h.given
  refine ⟨⟨n, Nat.lt_of_lt_of_le hn hversion, hr⟩, ?_⟩
  rw [hobjects]
  exact h.only

theorem Recalled.step (h : Recalled r s) (hcomes : use.ComesTo s answer s') :
    Recalled r s' := by
  cases hcomes with
  | failed hobjects hversion => exact h.of_objects hobjects hversion
  | looked _ _ hobjects hversion _ =>
      exact h.of_objects hobjects (Nat.le_of_eq hversion.symm)
  | @stored body _ _ _ hstored =>
      obtain ⟨n, hn, hr⟩ := h.given
      refine ⟨⟨n, by rw [hstored.version]; omega, hr⟩, fun p hp hpr => ?_⟩
      rw [hstored.objects] at hp
      rcases mem_place hp with hp | ⟨-, hnext⟩
      · exact h.only p hp hpr
      · rw [hnext] at hpr
        exact absurd hpr (h.ne_next hstored.identified)
  | removed _ _ hremoved =>
      obtain ⟨n, hn, hr⟩ := h.given
      refine ⟨⟨n, by rw [hremoved.version]; exact hn, hr⟩, fun p hp hpr => ?_⟩
      rw [hremoved.objects] at hp
      exact h.only p (List.mem_filter.1 hp).1 hpr

/-- What is recalled cannot come back: where it is, it has been. -/
theorem Recalled.step_back (h : Recalled r s) (hcomes : use.ComesTo s answer s')
    {i : Identity} (hi : s'.object? i = some r) : s.object? i = some r := by
  cases hcomes with
  | failed hobjects _ => exact (object?_of_objects hobjects i).symm.trans hi
  | looked _ _ hobjects _ _ => exact (object?_of_objects hobjects i).symm.trans hi
  | @stored body _ _ _ hstored =>
      rw [object?_stored hstored] at hi
      split at hi
      · have hnext : s.next body = r := Option.some.inj hi
        exact absurd (congrArg Body.version hnext) (h.ne_next hstored.identified)
      · exact hi
  | removed _ _ hremoved =>
      rw [object?_removed hremoved] at hi
      split at hi
      · cases hi
      · exact hi

theorem recalled_of_answer (hs : Reachable s) {bodies : List Value}
    (hcomes : use.ComesTo s (.ok bodies) s') (hr : r ∈ bodies) : Recalled r s' := by
  cases hcomes with
  | looked _ _ hobjects hversion hanswer =>
      obtain ⟨p, hp, rfl⟩ := hanswer r hr
      refine ⟨?_, fun q hq hqp => ?_⟩
      · rw [hversion]
        exact (hs.sound.held p hp).version
      · rw [hobjects] at hq
        rw [hs.eq_of_version hq hp hqp]
  | @stored body _ _ _ hstored =>
      obtain rfl := List.mem_singleton.1 hr
      have hnext := next_version hstored.identified s
      refine ⟨⟨s.nextVersion, ?_, hnext⟩, fun p hp hpr => ?_⟩
      · rw [hstored.version]
        exact Nat.lt_succ_self _
      · rw [hstored.objects] at hp
        rcases mem_place hp with hp | ⟨-, hp⟩
        · obtain ⟨n, hn, hversion⟩ := (hs.sound.held p hp).version
          rw [hnext, hversion] at hpr
          have hsame : n = s.nextVersion := toString_inj (Value.str.inj hpr)
          omega
        · exact hp
  | removed _ _ _ => cases hr

theorem Recalled.after (h : Recalled r s) (uses : List Use) :
    Recalled r (after uses s) := by
  induction uses generalizing s with
  | nil => exact h
  | cons use rest ih => exact ih (h.step (use.comesTo s))

theorem Recalled.before (h : Recalled r s) {uses : List Use} {i : Identity}
    (hi : (MemoryStore.after uses s).object? i = some r) : s.object? i = some r := by
  induction uses generalizing s with
  | nil => exact hi
  | cons use rest ih =>
      have hcomes := use.comesTo s
      exact h.step_back hcomes (ih (h.step hcomes) hi)

/-- An update with the version of what is recalled is of this very body. -/
theorem Recalled.object?_of_update (h : Recalled r s) (hs : Reachable s)
    {body v : Value} (hupdate : ((update body).run s).1 = .ok v)
    (hversion : (Body.version body).equal (Body.version r) = true) :
    s.object? (Body.key body) = some r := by
  have hrun : (update body).run s = (.ok v, ((update body).run s).2) :=
    Prod.ext hupdate rfl
  obtain ⟨current, hcurrent, hmatch⟩ := current_of_update hrun
  obtain ⟨n, -, hr⟩ := h.given
  obtain ⟨m, -, hheld⟩ := (hs.sound.held_of_object? hcurrent).version
  have hown : Body.version current = Body.version r := by
    rw [hheld, hr]
    rw [hr] at hversion
    rw [hheld] at hmatch
    rcases hmatch with hnull | hequal
    · -- no version at all is not the one that is recalled
      cases hbody : Body.version body with
      | null =>
          rw [hbody] at hversion
          cases Value.equal_iff.1 hversion
      | _ =>
          rw [hbody] at hnull
          cases hnull
    · exact Value.equal_iff.1 (Value.equal_trans (Value.equal_symm hequal) hversion)
  obtain ⟨p, hp, -, rfl⟩ := mem_of_object? hcurrent
  rw [hcurrent, h.only p hp hown]

end Recalled

/-- No update is lost. Whatever clients do to a store, the versions that it gives
go up and are never given again, no two objects have the same, and if an update
succeeds with the version of a body that was answered before, this body has been
there all the time since then, in the place of what is updated. -/
theorem update_loses_nothing (uses : List Use) :
    (∃ numbers : List Nat,
      assigned uses .empty = numbers.map (fun n => Value.str (toString n)) ∧
      numbers.Pairwise (· < ·)) ∧
    (assigned uses .empty).Nodup ∧
    (after uses .empty).Versioned ∧
    ∀ earlier reading later answer r body v, uses = earlier ++ reading :: later →
      (reading.attempt.run (after earlier .empty)).1 = .ok answer → r ∈ answer →
      ((update body).run (after uses .empty)).1 = .ok v →
      (Body.version body).equal (Body.version r) = true →
      ∀ passed ahead, later = passed ++ ahead →
        (after (earlier ++ reading :: passed) .empty).object? (Body.key body) =
          some r := by
  obtain ⟨numbers, hassigned, hascending, -⟩ := assigned_ascending uses .empty
  refine ⟨⟨numbers, hassigned, hascending⟩, ?_, (Reachable.empty.after uses).versioned, ?_⟩
  · rw [hassigned]
    refine List.pairwise_map.2 (hascending.imp ?_)
    intro m n hmn heq
    exact Nat.ne_of_lt hmn (toString_inj (Value.str.inj heq))
  · rintro earlier reading later answer r body v rfl hanswer hr hupdate hversion
      passed ahead rfl
    have hearlier := Reachable.empty.after earlier
    have hread : Recalled r (reading.attempt.run (after earlier .empty)).2 := by
      have hcomes := reading.comesTo (after earlier .empty)
      rw [hanswer] at hcomes
      exact recalled_of_answer hearlier hcomes hr
    have hpassed : Recalled r (after (earlier ++ reading :: passed) .empty) := by
      rw [after_append]
      exact hread.after passed
    rw [← List.cons_append, ← List.append_assoc] at hupdate
    have hlast := (Reachable.empty.after (earlier ++ reading :: passed ++ ahead))
    rw [after_append] at hupdate hlast
    exact hpassed.before ((hpassed.after ahead).object?_of_update hlast hupdate hversion)

/-- A penny as it is read by those who come first. -/
def firstPenny : Value := Body.versioned (.str "1") (coin "penny" 1)

/-- A penny is put into the store and read; then a dime comes beside it. -/
def trade : List Use :=
  [.put (coin "penny" 1)] ++
    .get (.str "Coin") .null (.str "penny") :: [.create (coin "dime" 10)]

/-- The dime is in nobody's way: the penny can still be replaced by the version
that was read, since it was there all the time. -/
theorem penny_replaced :
    ((update (Body.versioned (.str "1") (coin "penny" 2))).run (after trade .empty)).1 =
      .ok (Body.versioned (.str "3") (coin "penny" 2)) ∧
    assigned trade .empty = [.str "1", .str "2"] ∧
    (after trade .empty).object? (.ofTexts "" "Coin" "penny") = some firstPenny := by
  obtain ⟨-, -, -, hkept⟩ := update_loses_nothing trade
  have hupdate : ((update (Body.versioned (.str "1") (coin "penny" 2))).run
      (after trade .empty)).1 = .ok (Body.versioned (.str "3") (coin "penny" 2)) := by rfl
  exact ⟨hupdate, by rfl,
    hkept _ _ _ [firstPenny] firstPenny _ _ rfl (by rfl) List.mem_cons_self hupdate
      (by decide) [.create (coin "dime" 10)] [] rfl⟩

end MemoryStore

end OperatorCore
