import OperatorCore.Proofs.Engine.Aloof
import OperatorCore.Proofs.Engine.Finalization
import OperatorCore.Proofs.Object.Observables
import OperatorCore.Proofs.Object.StatusUpdate
import OperatorCore.Proofs.Store.Versions

/-!
# The life of a finalizer

A kind with a finalizer relies on two things: that the finalizer is there before
anything is made that has to be cleaned up, and that it is not removed before that
has been done. The default update of the status sees to both, but it works on a copy
of the resource, and what becomes of the copy is up to the store.

So the passes are looked at together with all that may happen between them: others
mark the resource for deletion, replace its finalizers, or change anything else but
its identity and its labels, and requests begin or cease to fail. The invariant is
that the resource is there with a list of finalizers, and with its labels, by which
the components do not find it. Every pass from such a state removes the finalizer
only behind a finalization without a fault, and does not add it to a resource that is
being deleted.

An update that succeeds is of the resource, whatever the callbacks have made of its
kind: it tells the version that the resource has, and no other object has that.
-/

namespace OperatorCore

variable {ω : Type}

namespace MemoryStore

theorem steady_reachable :
    Steady fun s s' : MemoryStore => s.Reachable → s'.Reachable :=
  ⟨fun _ h => h, fun h h' hs => h' (h hs)⟩

theorem asStore_keeps_reachable :
    asStore.Keeps fun s s' => s.Reachable → s'.Reachable where
  get _ kind ns name _ h := h.get kind ns name
  list _ kind ns labels _ h := h.list kind ns labels
  create body _ h := h.create body
  update body _ h := h.update body
  delete body _ h := h.delete body

/-- The identity that a lookup by a kind, a namespace and a name is of. -/
def target (kind ns name : Value) : Identity := ⟨ns.orElse (.str ""), kind, name⟩

/-- A lookup gives the object that is there, if it is one of texts and is not made to
fail. -/
theorem outcome_get_eq_ok_iff {apiVersion kind ns name body : Value} {s : MemoryStore} :
    (asStore.get apiVersion kind ns name s).outcome = .ok body ↔
      checkKey (target kind ns name) = .ok () ∧
        s.failure? (.get, target kind ns name) = none ∧
        s.object? (target kind ns name) = some body := by
  have hget : (asStore.get apiVersion kind ns name s).outcome = _ :=
    outcome_get kind ns name s
  rw [hget]
  show _ ↔ checkKey ⟨ns.orElse (.str ""), kind, name⟩ = .ok () ∧
    s.failure? (.get, ⟨ns.orElse (.str ""), kind, name⟩) = none ∧
    s.object? ⟨ns.orElse (.str ""), kind, name⟩ = some body
  cases checkKey ⟨ns.orElse (.str ""), kind, name⟩ with
  | error e => simp
  | ok _ =>
      cases s.failure? (.get, ⟨ns.orElse (.str ""), kind, name⟩) with
      | some fault => simp
      | none => cases s.object? ⟨ns.orElse (.str ""), kind, name⟩ <;> simp

theorem object?_of_get {apiVersion kind ns name body : Value} {s : MemoryStore}
    (h : (asStore.get apiVersion kind ns name s).outcome = .ok body) :
    s.object? (target kind ns name) = some body :=
  (outcome_get_eq_ok_iff.1 h).2.2

/-- The store is one that can come about, and has an object under the identity, with
a list of finalizers, if any, and the labels of another one. -/
structure Tending (i : Identity) (object : Value) (s : MemoryStore) : Prop where
  reachable : s.Reachable
  held : ∃ body, s.object? i = some body ∧ Body.Listed body ∧
    Body.labels body = Body.labels object

theorem Tending.keeping {i : Identity} {object : Value} {s : MemoryStore}
    (h : Tending i object s) : Keeping i object s := by
  obtain ⟨body, hbody, -, hlabels⟩ := h.held
  refine ⟨h.reachable.sound, ?_⟩
  intro body' hbody'
  rw [hbody] at hbody'
  obtain rfl := Option.some.inj hbody'
  exact hlabels

theorem Tending.of_looked {i : Identity} {object : Value} {s s' : MemoryStore}
    (h : Tending i object s) (hreachable : s'.Reachable) (hlooked : Looked s s') :
    Tending i object s' := by
  obtain ⟨body, hbody, hheld⟩ := h.held
  exact ⟨hreachable, body, (object?_of_objects hlooked.objects i).trans hbody, hheld⟩

end MemoryStore

namespace Engine

open MemoryStore

/-! ## The verdict and the finalizer -/

/-- The fault of a verdict has a message. -/
theorem told_of_verdict {σ : Type} (engine : Engine σ) (handle : Handle ω) :
    Attempt.Yields (fun fault => ∀ f, fault = some f → ∃ text, f.message = .ok text)
      (verdict engine handle) := by
  have hafter : ∀ invalid, Attempt.Yields
      (fun fault => ∀ f, fault = some f → ∃ text, f.message = .ok text)
      (verdictAfter engine handle invalid) := by
    intro invalid
    refine Attempt.yields_after fun status => Attempt.yields_after fun _ => ?_
    cases invalid with
    | some fault =>
        refine Attempt.yields_bind
          (Attempt.yields_liftM (P := fun text => fault.message = .ok text)
            fun text h => h) ?_
        intro text htext
        refine Attempt.yields_after fun _ => Attempt.yields_pure ?_
        intro f hsome
        rw [← Option.some.inj hsome]
        exact ⟨text, htext⟩
    | none =>
        refine Attempt.yields_after fun _ => Attempt.yields_after fun _ => ?_
        refine Attempt.yields_after fun _ => Attempt.yields_after fun _ => ?_
        refine Attempt.yields_after fun _ => Attempt.yields_after fun _ => ?_
        refine Attempt.yields_after fun faults => Attempt.yields_liftM ?_
        intro whole hwhole f hsome
        rw [hsome] at hwhole
        exact Fault.told_of_aggregate? hwhole
  refine Attempt.yields_after fun _ => Attempt.yields_after fun answer => ?_
  cases answer with
  | ok _ => exact hafter none
  | error fault => exact Attempt.yields_after fun invalid => hafter (some invalid)

variable {handle : Handle ω} {i : Identity} {object old finalizer : Value}

/-- A verdict leaves the resource alone, in the store and as to the metadata on the
desk. -/
theorem verdict_leaves (settings : Settings) (source : Source)
    (haloof : Aloof handle i object) {w : World MemoryStore ω}
    (hw : Tending i object w.store) :
    let v := (verdict ⟨asStore, settings, source⟩ handle).run w
    Tending i object v.2.store ∧ v.2.store.object? i = w.store.object? i ∧
      Body.metadata v.2.desk.resource = Body.metadata w.desk.resource := by
  intro v
  have hrelated : World.Related SameMetadata (Aside i object) w v.2 :=
    haloof.verdict_aside w
  obtain ⟨hmeta, haside⟩ := hrelated
  obtain ⟨-, hobject⟩ := haside hw.keeping
  have hreachable : v.2.store.Reachable := by
    refine (keeps_verdict steady_true steady_reachable
      ⟨fun _ => trivial, fun _ => trivial, fun _ => trivial, fun _ => trivial,
        fun _ _ => trivial⟩ ?_ w).2 hw.reachable
    intro desk components hanswer deleting
    exact keeps_processEach steady_true steady_reachable asStore_keeps_reachable deleting
      fun component _ => component.keeps_true
  obtain ⟨body, hbody, hlisted, hlabels⟩ := hw.held
  exact ⟨⟨hreachable, body, hobject.trans hbody, hlisted, hlabels⟩, hobject, hmeta⟩

theorem metadata_of_defaults (haloof : Aloof handle i object)
    {desk desk₁ desk₂ desk₃ : Desk ω} {status : Value}
    (hvalidate : handle.validate.run desk = (.ok (), desk₁))
    (hstatus : handle.newStatus.run desk₁ = (.ok status, desk₂))
    (hdefaults : handle.applyDefaults.run { desk₂ with status } = (.ok (), desk₃)) :
    Body.metadata desk₃.resource = Body.metadata desk.resource := by
  have h₁ : Body.metadata _ = Body.metadata _ := haloof.validate desk
  have h₂ : Body.metadata _ = Body.metadata _ := haloof.newStatus desk₁
  have h₃ : Body.metadata _ = Body.metadata _ :=
    haloof.applyDefaults { desk₂ with status }
  rw [hvalidate] at h₁
  rw [hstatus] at h₂
  rw [hdefaults] at h₃
  exact h₃.trans (h₂.trans h₁)

/-- Over a resource that is being deleted, a pass has no fault just when the spec is valid and
all components clean up. -/
theorem verdict_eq_none_iff {σ : Type} {engine : Engine σ} (haloof : Aloof handle i object)
    {w : World σ ω} (hdeleting : Body.isDeletionOngoing w.desk.resource = .ok true) :
    ((verdict engine handle).run w).1 = .ok none ↔ Finalizes engine handle w := by
  have hongoing : ∀ desk₁ status desk₂ desk₃,
      handle.validate.run w.desk = (.ok (), desk₁) →
      handle.newStatus.run desk₁ = (.ok status, desk₂) →
      handle.applyDefaults.run { desk₂ with status } = (.ok (), desk₃) →
      Body.isDeletionOngoing desk₃.resource = .ok true := by
    intro desk₁ status desk₂ desk₃ hvalidate hstatus hdefaults
    rw [Body.isDeletionOngoing_congr (metadata_of_defaults haloof hvalidate hstatus hdefaults)]
    exact hdeleting
  constructor
  · intro h
    exact finalizes_of_verdict (Prod.ext h rfl) hongoing
  · intro h
    exact verdict_of_finalizes h hongoing

/-! ## The rest of a pass -/

/-- What a pass with a fault, or without one, has made of the finalizer, if the body
was stored or not. -/
structure Spares (finalizer : Value) (fault : Option Fault) (stored : Prop)
    (old new : Value) : Prop where
  deleting : Body.isDeletionOngoing old = .ok true →
    Body.occurrences finalizer new = Body.occurrences finalizer old ∨
    (fault = none ∧ Body.occurrences finalizer new = 0)
  cleared : Body.isDeletionOngoing old = .ok true → fault = none → stored →
    Body.occurrences finalizer new = 0
  living : Body.isDeletionOngoing old = .ok false →
    Body.occurrences finalizer old ≤ Body.occurrences finalizer new ∧
    (stored → 0 < Body.occurrences finalizer new)

theorem spares_self {fault : Option Fault} {stored : Prop}
    (h : stored →
      (Body.isDeletionOngoing old = .ok false → 0 < Body.occurrences finalizer old) ∧
      (Body.isDeletionOngoing old = .ok true → fault = none →
        Body.occurrences finalizer old = 0)) : Spares finalizer fault stored old old where
  deleting _ := .inl rfl
  cleared hdeleting hnone hstored := (h hstored).2 hdeleting hnone
  living hliving := ⟨Nat.le_refl _, fun hstored => (h hstored).1 hliving⟩

theorem spares_of_tended {fault : Option Fault} {stored : Prop} {body new : Value}
    (h : Body.Tended finalizer fault.isNone old body)
    (hnew : Body.occurrences finalizer new = Body.occurrences finalizer body) :
    Spares finalizer fault stored old new where
  deleting hdeleting := by
    rw [hnew]
    cases fault with
    | none => exact .inr ⟨rfl, h.removed hdeleting rfl⟩
    | some fault => exact .inl (h.blocked hdeleting rfl)
  cleared hdeleting hnone _ := by
    rw [hnew]
    exact h.removed hdeleting (by rw [hnone]; rfl)
  living hliving := by
    rw [hnew]
    obtain ⟨hle, hpos⟩ := h.living hliving
    exact ⟨hle, fun _ => hpos⟩

/-- An update of the resource either leaves it as it was, or stores the body. -/
theorem update_cases {s : MemoryStore} (hreachable : s.Reachable)
    (hold : s.object? i = some old) {body : Value}
    (hversion : Body.version body = Body.version old) :
    let reply := asStore.update body s
    reply.state.Reachable ∧
    (((∃ e, reply.outcome = .error e) ∧ reply.state.object? i = some old) ∨
      Body.Identified body ∧ ∃ n : Nat, reply.state.object? i =
        some (Body.versioned (.str (toString n)) body)) := by
  intro reply
  refine ⟨hreachable.update body, ?_⟩
  rcases run_update body s with ⟨e, he, hquiet⟩ | ⟨v, hv, hstored⟩
  · exact .inl ⟨⟨e, he⟩, (object?_of_objects hquiet.objects i).trans hold⟩
  · have hsame := hreachable.same_of_update hold hversion (Prod.ext hv rfl)
    refine .inr ⟨hstored.identified, s.nextVersion, ?_⟩
    exact (object?_stored hstored i).trans (if_pos hsame)

/-- The update of the status is answered, and the body is stored or not. -/
theorem settle_spares (settings : Settings) (source : Source)
    (hupdate : handle.updateStatus = Resource.updateStatus finalizer)
    (hfinalizer : finalizer.isNull = false) {fault : Option Fault}
    (htold : ∀ f, fault = some f → ∃ text, f.message = .ok text)
    {w : World MemoryStore ω} (hw : Tending i object w.store)
    (hold : w.store.object? i = some old)
    (hmeta : Body.metadata w.desk.resource = Body.metadata old) :
    let update := (handle.updateStatus fault).run w.desk
    let s := ((settleStatus ⟨asStore, settings, source⟩ handle fault).run w).2.store
    Tending i object s ∧ ∃ changed new, update.1 = .ok changed ∧
      s.object? i = some new ∧
      Spares finalizer fault (changed = true → ∃ stored,
        (asStore.update update.2.resource w.store).outcome = .ok stored) old new := by
  intro update s
  obtain ⟨body, hbody, hlisted, hlabels⟩ := hw.held
  rw [hold] at hbody
  obtain rfl := Option.some.inj hbody
  have hdesk : Body.Listed w.desk.resource := by
    rw [Body.Listed, Body.finalizers_congr hmeta]
    exact hlisted
  obtain ⟨changed, body, hrun, hfollows, hunchanged⟩ :=
    Resource.updateStatus_tends hfinalizer hdesk htold
  rw [← hupdate] at hrun
  rw [Body.isDeletionOngoing_congr hmeta, Body.occurrences_congr hmeta] at hunchanged
  have htended : Body.Tended finalizer fault.isNone old body := hfollows.of_metadata hmeta
  have hanswer : update = (.ok changed, { w.desk with resource := body }) := hrun
  obtain ⟨-, hkept, hwritten⟩ :=
    run_settleStatus ⟨asStore, settings, source⟩ handle fault w
  rw [hrun] at hkept hwritten
  rw [hanswer]
  cases changed with
  | false =>
      obtain ⟨aggregated, log, hsettle⟩ := hkept rfl
      have hs : s = w.store := congrArg (fun r => r.2.store) hsettle
      rw [hs]
      exact ⟨hw, false, old, rfl, hold, spares_self fun _ => hunchanged rfl⟩
  | true =>
      obtain ⟨s', ⟨aggregated, log, hsettle⟩, hs'⟩ := hwritten rfl
      have hs : s = s' := congrArg (fun r => r.2.store) hsettle
      obtain ⟨hreachable, hcases⟩ := update_cases hw.reachable hold htended.version
      -- to be blamed for its fault changes nothing in the objects of the store
      have hstate : s.Reachable ∧
          s.object? i = (asStore.update body w.store).state.object? i := by
        rw [hs]
        rcases hs' with rfl | ⟨cause, rfl⟩
        · exact ⟨hreachable, rfl⟩
        · exact ⟨hreachable.blame body cause,
            object?_of_objects (blame_objects body cause _).1 i⟩
      rcases hcases with ⟨⟨e, he⟩, hleft⟩ | ⟨hid, n, hput⟩
      · have hobject := hstate.2.trans hleft
        refine ⟨⟨hstate.1, old, hobject, hlisted, hlabels⟩, true, old, rfl, hobject,
          spares_self ?_⟩
        intro hstored
        obtain ⟨stored, hok⟩ := hstored rfl
        rw [he] at hok
        cases hok
      · have hobject := hstate.2.trans hput
        obtain ⟨hlist, hlabel, hcount⟩ :=
          htended.versioned hid (v := .str (toString n)) rfl
        exact ⟨⟨hstate.1, _, hobject, hlist, hlabel.trans hlabels⟩, true, _, rfl, hobject,
          spares_of_tended htended hcount⟩

/-! ## One pass -/

section Pass

variable {apiVersion kind ns name : Value}

/-- A pass whose resource cannot be read, or is not identified, leaves the store as
the lookup has left it. -/
theorem store_unread (settings : Settings)
    (hversion : handle.apiVersion = some apiVersion)
    (hkind : handle.kind = some kind) {w : World MemoryStore ω}
    (h : ∀ source, (asStore.get apiVersion kind ns name w.store).outcome = .ok old →
      Source.ofBody old ≠ .ok source)
    (hold : w.store.object? (target kind ns name) = some old) :
    ((reconcile asStore settings handle ns name).run w).2.store =
      (asStore.get apiVersion kind ns name w.store).state := by
  cases hget : (asStore.get apiVersion kind ns name w.store).outcome with
  | error fault =>
      simp only [reconcile, hversion, hkind, Handle.declared, Attempt.run_bind,
        Attempt.run_liftM, Attempt.run_outcome, Step.run_request, hget]
      split <;> rfl
  | ok body =>
      have hbody := object?_of_get hget
      rw [hold] at hbody
      obtain rfl := Option.some.inj hbody
      rw [run_reconcile settings handle hversion hkind hget]
      cases hsource : Source.ofBody old with
      | error e => rfl
      | ok source => exact absurd hsource (h source hget)

/-- What a pass does to the finalizer of its resource, given the resource before and
after it. -/
structure Guards (settings : Settings) (handle : Handle ω)
    (finalizer apiVersion kind ns name : Value) (w : World MemoryStore ω)
    (old new : Value) : Prop where
  /-- The finalizer is removed, and then as a whole, only if the resource was read
  with a deletion mark, the spec was valid, and all components were observed and have
  cleaned up without a fault. -/
  removal : Body.occurrences finalizer new < Body.occurrences finalizer old →
    Body.occurrences finalizer new = 0 ∧ Body.isDeletionOngoing old = .ok true ∧
    (asStore.get apiVersion kind ns name w.store).outcome = .ok old ∧
    ∃ source, Source.ofBody old = .ok source ∧
      Finalizes ⟨asStore, settings, source⟩ handle
        (fetched asStore apiVersion kind ns name old w)
  /-- It is not added to a resource that is being deleted. -/
  addition : Body.isDeletionOngoing old = .ok true →
    Body.occurrences finalizer new ≤ Body.occurrences finalizer old
  /-- It is there after a pass over a living resource that gets as far as the update of
  the status. The update is answered, and the write that it asks for, if any, has to
  succeed. -/
  presence : Body.isDeletionOngoing old = .ok false →
    (asStore.get apiVersion kind ns name w.store).outcome = .ok old →
    ∀ source, Source.ofBody old = .ok source →
    let v := (verdict ⟨asStore, settings, source⟩ handle).run
      (fetched asStore apiVersion kind ns name old w)
    ∀ fault, v.1 = .ok fault →
    let update := (handle.updateStatus fault).run v.2.desk
    ∃ changed, update.1 = .ok changed ∧
      ((changed = true → ∃ stored,
          (asStore.update update.2.resource v.2.store).outcome = .ok stored) →
        0 < Body.occurrences finalizer new)
  /-- Nothing is left of it after a pass over a resource that is being deleted, if the spec
  was valid and all components have cleaned up without a fault. Such a pass gets as far as
  the update of the status, and the write has to succeed as before. -/
  clearance : Body.isDeletionOngoing old = .ok true →
    (asStore.get apiVersion kind ns name w.store).outcome = .ok old →
    ∀ source, Source.ofBody old = .ok source →
    Finalizes ⟨asStore, settings, source⟩ handle
      (fetched asStore apiVersion kind ns name old w) →
    let v := (verdict ⟨asStore, settings, source⟩ handle).run
      (fetched asStore apiVersion kind ns name old w)
    let update := (handle.updateStatus none).run v.2.desk
    v.1 = .ok none ∧ ∃ changed, update.1 = .ok changed ∧
      ((changed = true → ∃ stored,
          (asStore.update update.2.resource v.2.store).outcome = .ok stored) →
        Body.occurrences finalizer new = 0)

/-- A pass that leaves the resource as it was, and does not come to a verdict. -/
theorem guards_self {settings : Settings} (haloof : Aloof handle (target kind ns name) object)
    {w : World MemoryStore ω}
    (h : ∀ source, (asStore.get apiVersion kind ns name w.store).outcome = .ok old →
      Source.ofBody old = .ok source → ∀ fault,
      ((verdict ⟨asStore, settings, source⟩ handle).run
        (fetched asStore apiVersion kind ns name old w)).1 ≠ .ok fault) :
    Guards settings handle finalizer apiVersion kind ns name w old old where
  removal hless := absurd hless (Nat.lt_irrefl _)
  addition _ := Nat.le_refl _
  presence _ hget source hsource fault hfault :=
    absurd hfault (h source hget hsource fault)
  clearance hdeleting hget source hsource hfinalizes :=
    absurd ((verdict_eq_none_iff haloof hdeleting).2 hfinalizes) (h source hget hsource none)

/-- A pass that comes to a verdict guards the finalizer if the update of the status
spares it. -/
theorem guards_of_spares {settings : Settings} {source : Source} {new : Value}
    {fault : Option Fault} {changed : Bool}
    (haloof : Aloof handle (target kind ns name) object) (hlisted : Body.Listed old)
    {w w' : World MemoryStore ω}
    (hget : (asStore.get apiVersion kind ns name w.store).outcome = .ok old)
    (hsource : Source.ofBody old = .ok source)
    (hverdict : (verdict ⟨asStore, settings, source⟩ handle).run
      (fetched asStore apiVersion kind ns name old w) = (.ok fault, w'))
    (hchanged : ((handle.updateStatus fault).run w'.desk).1 = .ok changed)
    (hspares : Spares finalizer fault (changed = true → ∃ stored,
      (asStore.update ((handle.updateStatus fault).run w'.desk).2.resource
        w'.store).outcome = .ok stored) old new) :
    Guards settings handle finalizer apiVersion kind ns name w old new where
  removal hless := by
    obtain ⟨deleting, hdeleting⟩ := hlisted.isDeletionOngoing
    cases deleting with
    | false => exact absurd (hspares.living hdeleting).1 (Nat.not_le_of_gt hless)
    | true =>
        rcases hspares.deleting hdeleting with hsame | ⟨rfl, hnone⟩
        · exact absurd hsame (Nat.ne_of_lt hless)
        · exact ⟨hnone, hdeleting, hget, source, hsource,
            (verdict_eq_none_iff haloof hdeleting).1 (congrArg Prod.fst hverdict)⟩
  addition hdeleting := by
    rcases hspares.deleting hdeleting with hsame | ⟨-, hnone⟩
    · exact Nat.le_of_eq hsame
    · rw [hnone]
      exact Nat.zero_le _
  presence := by
    intro hliving _ source' hsource'
    rw [hsource] at hsource'
    obtain rfl := Except.ok.inj hsource'
    rw [hverdict]
    intro v fault' hfault'
    obtain rfl := Except.ok.inj hfault'
    exact ⟨changed, hchanged, (hspares.living hliving).2⟩
  clearance := by
    intro hdeleting _ source' hsource' hfinalizes
    rw [hsource] at hsource'
    obtain rfl := Except.ok.inj hsource'
    have hnone := (verdict_eq_none_iff haloof hdeleting).2 hfinalizes
    rw [hverdict] at hnone ⊢
    obtain rfl := Except.ok.inj hnone
    exact ⟨rfl, changed, hchanged, hspares.cleared hdeleting rfl⟩

/-- Every pass guards the finalizer, and leaves the store fit for the next one. -/
theorem pass_guards (settings : Settings)
    (hversion : handle.apiVersion = some apiVersion) (hkind : handle.kind = some kind)
    (hupdate : handle.updateStatus = Resource.updateStatus finalizer)
    (hfinalizer : finalizer.isNull = false)
    (haloof : Aloof handle (target kind ns name) object) {w : World MemoryStore ω}
    (hw : Tending (target kind ns name) object w.store) :
    let s := ((reconcile asStore settings handle ns name).run w).2.store
    Tending (target kind ns name) object s ∧ ∃ old new,
      w.store.object? (target kind ns name) = some old ∧
      s.object? (target kind ns name) = some new ∧
      Guards settings handle finalizer apiVersion kind ns name w old new := by
  intro s
  obtain ⟨old, hold, hlisted, hlabels⟩ := hw.held
  have hlooked : Looked w.store (asStore.get apiVersion kind ns name w.store).state :=
    looked_get kind ns name w.store
  have hread : Tending (target kind ns name) object
      (asStore.get apiVersion kind ns name w.store).state :=
    hw.of_looked (hw.reachable.get kind ns name) hlooked
  have hheld : (asStore.get apiVersion kind ns name w.store).state.object?
      (target kind ns name) = some old :=
    (object?_of_objects hlooked.objects _).trans hold
  by_cases hreads : ∃ source,
      (asStore.get apiVersion kind ns name w.store).outcome = .ok old ∧
      Source.ofBody old = .ok source
  · obtain ⟨source, hget, hsource⟩ := hreads
    have hrun : (reconcile asStore settings handle ns name).run w =
        ((verdict ⟨asStore, settings, source⟩ handle) >>=
          settleStatus ⟨asStore, settings, source⟩ handle).run
          (fetched asStore apiVersion kind ns name old w) := by
      rw [run_reconcile settings handle hversion hkind hget, hsource]
    obtain ⟨htending, hobject, hmeta⟩ : Tending (target kind ns name) object
        ((verdict ⟨asStore, settings, source⟩ handle).run
          (fetched asStore apiVersion kind ns name old w)).2.store ∧ _ ∧ _ :=
      verdict_leaves settings source haloof hread
    have htold := told_of_verdict ⟨asStore, settings, source⟩ handle
      (fetched asStore apiVersion kind ns name old w)
    rcases hverdict : (verdict ⟨asStore, settings, source⟩ handle).run
      (fetched asStore apiVersion kind ns name old w) with ⟨e | fault, w'⟩
    · rw [hverdict] at htending hobject
      have hs : s = w'.store := by
        show ((reconcile asStore settings handle ns name).run w).2.store = w'.store
        rw [hrun, Attempt.run_bind_error hverdict]
      rw [hs]
      refine ⟨htending, old, old, hold, hobject.trans hheld, guards_self haloof ?_⟩
      intro source' _ hsource' fault hfault
      rw [hsource] at hsource'
      obtain rfl := Except.ok.inj hsource'
      rw [hverdict] at hfault
      cases hfault
    · rw [hverdict] at htending hobject hmeta
      have hs : s =
          ((settleStatus ⟨asStore, settings, source⟩ handle fault).run w').2.store := by
        show ((reconcile asStore settings handle ns name).run w).2.store = _
        rw [hrun, Attempt.run_bind_ok hverdict]
      obtain ⟨hleft, changed, new, hchanged, hnew, hspares⟩ :=
        settle_spares settings source hupdate hfinalizer (htold _ _ hverdict)
          htending (hobject.trans hheld) hmeta
      rw [hs]
      exact ⟨hleft, old, new, hold, hnew,
        guards_of_spares haloof hlisted hget hsource hverdict hchanged hspares⟩
  · have hs : s = (asStore.get apiVersion kind ns name w.store).state :=
      store_unread settings hversion hkind
        (fun source hget hsource => hreads ⟨source, hget, hsource⟩) hold
    rw [hs]
    refine ⟨hread, old, old, hold, hheld, guards_self haloof ?_⟩
    intro source hget hsource
    exact absurd ⟨source, hget, hsource⟩ hreads

/-! ## Many passes -/

/-- A change of an object by others that leaves it its identity and its labels, and a
list of finalizers. -/
def Harmless (change : Value → Except Fault Value) : Prop :=
  ∀ body body', Body.Listed body → change body = .ok body' →
    Body.Listed body' ∧ Body.labels body' = Body.labels body ∧
      Body.key body' = Body.key body

theorem harmless_of_metadata {key : String} {value : Value}
    (hkey : key ≠ "namespace" ∧ key ≠ "name" ∧ key ≠ "labels")
    (hvalue : key = "finalizers" → ∃ items, value = .arr items) :
    Harmless fun body => Body.putInMetadata body key value := by
  intro body body' hlisted hput
  obtain ⟨hns, hname, hlabels⟩ := hkey
  obtain ⟨top, md, items, hshaped, hitems⟩ := hlisted.shaped
  have hbody' : body' = .obj (Fields.put top "metadata" (.obj (Fields.put md key value))) :=
    Except.ok.inj (hput.symm.trans (hshaped.putInMetadata key value))
  have hnew : Body.Shaped body' (Fields.put top "metadata" (.obj (Fields.put md key value)))
      (Fields.put md key value) := by
    rw [hbody']
    exact Body.Shaped.put key value
  refine ⟨?_, ?_, ?_⟩
  · rw [Body.Listed, hnew.finalizers, Fields.get?_put]
    by_cases h : key = "finalizers"
    · obtain ⟨list, hlist⟩ := hvalue h
      exact ⟨list, by rw [if_pos h, hlist]; rfl⟩
    · exact ⟨_, by rw [if_neg h, ← hshaped.finalizers, hshaped.finalizers_items hitems]⟩
  · rw [hnew.labels, hshaped.labels, Fields.get?_put, if_neg hlabels]
  · have hidentify : Body.identify body' = Body.identify body := by
      refine hshaped.identify_congr hnew ?_ ?_ ?_
      · rw [Fields.get?_put, if_neg (by decide)]
      · rw [Fields.get?_put, if_neg hns]
      · rw [Fields.get?_put, if_neg hname]
    rw [Body.key, Body.key, hidentify]

/-- Marking an object for deletion is harmless. -/
theorem harmless_mark (time : Value) :
    Harmless fun body => Body.putInMetadata body "deletionTimestamp" time :=
  harmless_of_metadata ⟨by decide, by decide, by decide⟩ fun h => absurd h (by decide)

/-- Replacing the finalizers by any texts is harmless. -/
theorem harmless_refinalize (texts : List String) :
    Harmless fun body =>
      Body.putInMetadata body "finalizers" (.arr (texts.map .str)) :=
  harmless_of_metadata ⟨by decide, by decide, by decide⟩ fun _ => ⟨_, rfl⟩

/-- What may have become of the world by passes over a resource, and by what others
have done between them. -/
inductive History (settings : Settings) (handle : Handle ω) (kind ns name : Value)
    (w₀ : World MemoryStore ω) : World MemoryStore ω → Prop where
  | start : History settings handle kind ns name w₀ w₀
  | pass {w : World MemoryStore ω} : History settings handle kind ns name w₀ w →
      History settings handle kind ns name w₀
        ((reconcile asStore settings handle ns name).run w).2
  | edit {w : World MemoryStore ω} {change : Value → Except Fault Value}
      {body body' : Value} : History settings handle kind ns name w₀ w →
      Harmless change → w.store.object? (target kind ns name) = some body →
      change body = .ok body' →
      History settings handle kind ns name w₀
        { w with store := ((MemoryStore.put body').run w.store).2 }
  | fail {w : World MemoryStore ω} (op : Operation) (i : Identity) (fault : Fault) :
      History settings handle kind ns name w₀ w →
      History settings handle kind ns name w₀
        { w with store := ((MemoryStore.fail op i fault).run w.store).2 }
  | clearFailures {w : World MemoryStore ω} :
      History settings handle kind ns name w₀ w →
      History settings handle kind ns name w₀
        { w with store := w.store.clearFailures }
  | rest {w : World MemoryStore ω} (desk : Desk ω) :
      History settings handle kind ns name w₀ w →
      History settings handle kind ns name w₀ { w with desk }

theorem tending_put {s : MemoryStore} (hs : Tending i object s)
    {change : Value → Except Fault Value} (hchange : Harmless change)
    {body body' : Value} (hbody : s.object? i = some body)
    (hbody' : change body = .ok body') :
    Tending i object ((MemoryStore.put body').run s).2 := by
  obtain ⟨held, hheld, hlisted, hlabels⟩ := hs.held
  rw [hbody] at hheld
  obtain rfl := Option.some.inj hheld
  obtain ⟨hlisted', hlabels', hkey⟩ := hchange body body' hlisted hbody'
  refine ⟨hs.reachable.put body', ?_⟩
  rcases run_put body' s with ⟨e, hrun⟩ | ⟨v, s', hrun, hstored⟩
  · rw [hrun]
    exact ⟨body, hbody, hlisted, hlabels⟩
  · rw [hrun]
    have hsame : (Body.key body').same i = true := by
      rw [hkey]
      exact (hs.reachable.sound.held_of_object? hbody).same
    refine ⟨_, (object?_stored hstored i).trans (if_pos hsame), ?_, ?_⟩
    · rw [Body.Listed, hstored.identified.finalizers_versioned rfl]
      exact hlisted'
    · rw [hstored.identified.labels_versioned rfl, hlabels', hlabels]

theorem History.tending (hversion : handle.apiVersion = some apiVersion)
    (hkind : handle.kind = some kind)
    (hupdate : handle.updateStatus = Resource.updateStatus finalizer)
    (hfinalizer : finalizer.isNull = false)
    (haloof : Aloof handle (target kind ns name) object) {settings : Settings}
    {w₀ w : World MemoryStore ω}
    (hw₀ : Tending (target kind ns name) object w₀.store)
    (h : History settings handle kind ns name w₀ w) :
    Tending (target kind ns name) object w.store := by
  induction h with
  | start => exact hw₀
  | pass _ ih =>
      exact (pass_guards settings hversion hkind hupdate hfinalizer haloof ih).1
  | edit _ hchange hbody hbody' ih => exact tending_put ih hchange hbody hbody'
  | @fail w op i fault _ ih =>
      obtain ⟨body, hbody, hheld⟩ := ih.held
      refine ⟨ih.reachable.fail op i fault, body, ?_, hheld⟩
      exact (object?_of_objects (fail_objects op i fault w.store).1 _).trans hbody
  | clearFailures _ ih => exact ⟨ih.reachable.clearFailures, ih.held⟩
  | rest desk _ ih => exact ih

/-- Whatever has happened before, a pass guards the finalizer. -/
theorem finalizer_guarded {settings : Settings}
    (hversion : handle.apiVersion = some apiVersion) (hkind : handle.kind = some kind)
    (hupdate : handle.updateStatus = Resource.updateStatus finalizer)
    (hfinalizer : finalizer.isNull = false)
    (haloof : Aloof handle (target kind ns name) object) {w₀ w : World MemoryStore ω}
    (hreachable : w₀.store.Reachable)
    (hobject : w₀.store.object? (target kind ns name) = some object)
    (hlisted : Body.Listed object)
    (hhistory : History settings handle kind ns name w₀ w) :
    ∃ old new, w.store.object? (target kind ns name) = some old ∧
      ((reconcile asStore settings handle ns name).run w).2.store.object?
        (target kind ns name) = some new ∧
      Guards settings handle finalizer apiVersion kind ns name w old new := by
  have hw₀ : Tending (target kind ns name) object w₀.store :=
    ⟨hreachable, object, hobject, hlisted, rfl⟩
  exact (pass_guards settings hversion hkind hupdate hfinalizer haloof
    (hhistory.tending hversion hkind hupdate hfinalizer haloof hw₀)).2

end Pass

/-! ## A deletion that passes

The resource has one component, which expects a pod. It is marked for deletion, and
the next pass removes its finalizer, though not that of others. -/

def guardedResource : Value :=
  .obj [("apiVersion", .str "v1"), ("kind", .str "Sample"),
    ("metadata", .obj [("name", .str "name"), ("finalizers", .arr [.str "f"])])]

def guardedHandle : Handle Unit :=
  { Handle.plain "Sample" (some (.str "v1")) (some (.str "Sample")) (.str "f") with
    components := pure [expecting [.managed (pod "p")]] }

def guardedIdentity : Identity := target (.str "Sample") .null (.str "name")

/-- The resource is alone in the store. -/
def guarded : World MemoryStore Unit :=
  ⟨((MemoryStore.put guardedResource).run MemoryStore.empty).2,
    ⟨.null, .null, ()⟩, [], []⟩

theorem guardedHandle_aloof (object : Value) :
    Aloof guardedHandle guardedIdentity object where
  validate _ := rfl
  newStatus _ := rfl
  applyDefaults _ := rfl
  components _ := rfl
  each desk components hanswer component hcomponent := by
    obtain rfl := Except.ok.inj hanswer
    obtain rfl := List.mem_singleton.1 hcomponent
    have hpod : Bag.Avoids [.managed (pod "p")] guardedIdentity := by
      intro item hitem
      obtain rfl := List.mem_singleton.1 hitem
      rfl
    refine ⟨⟨fun _ _ => rfl, fun _ _ => rfl, fun _ _ _ => rfl, fun _ _ _ => rfl,
      fun _ _ _ => rfl, fun _ _ => rfl, fun _ _ _ => rfl⟩, ?_, ?_, ?_⟩
    · intro bag desk expected h
      obtain rfl := Option.some.inj (Except.ok.inj h)
      exact hpod
    · intro expected desk observables hexpected h o ho
      exact Component.standardObservables_avoid h hexpected ho object
    · intro expected observed desk mutated hexpected h
      obtain rfl := Option.some.inj (Except.ok.inj h)
      exact hexpected

/-- The resource as it is stored, and as it is once others have marked it. -/
def guardedStored : Value := Body.versioned (.str "1") guardedResource

theorem guarded_object :
    guarded.store.object? guardedIdentity = some guardedStored := by
  decide +kernel

/-- A pass over the resource. -/
def guardedPass (w : World MemoryStore Unit) : World MemoryStore Unit :=
  ((reconcile asStore .standard guardedHandle .null (.str "name")).run w).2

/-- The resource with the finalizers of others in the place of its own. -/
def guardedTaken : Value :=
  .obj [("apiVersion", .str "v1"), ("kind", .str "Sample"),
    ("metadata", .obj [("name", .str "name"), ("finalizers", .arr [.str "other"]),
      ("resourceVersion", .str "1")])]

/-- The store with the finalizers of others. -/
def taken : World MemoryStore Unit :=
  { guarded with store := ((MemoryStore.put guardedTaken).run guarded.store).2 }

/-- A pass over it has put the finalizer back. -/
def guardedRestored : Value :=
  .obj [("apiVersion", .str "v1"), ("kind", .str "Sample"),
    ("metadata", .obj [("name", .str "name"),
      ("finalizers", .arr [.str "other", .str "f"]), ("resourceVersion", .str "4")]),
    ("status", .obj [])]

theorem restored_object :
    (guardedPass taken).store.object? guardedIdentity = some guardedRestored := by
  decide +kernel

/-- The resource with both finalizers and the mark. -/
def guardedShared : Value :=
  .obj [("apiVersion", .str "v1"), ("kind", .str "Sample"),
    ("metadata", .obj [("name", .str "name"),
      ("finalizers", .arr [.str "other", .str "f"]), ("resourceVersion", .str "4"),
      ("deletionTimestamp", .str "2020-01-01")]),
    ("status", .obj [])]

/-- The store with both finalizers and the mark. -/
def shared : World MemoryStore Unit :=
  { guardedPass taken with
    store := ((MemoryStore.put guardedShared).run (guardedPass taken).store).2 }

/-- Others take the finalizer away, a pass puts it back, and then others mark the
resource. -/
theorem shared_history :
    History .standard guardedHandle (.str "Sample") .null (.str "name") guarded shared :=
  .edit (.pass (.edit .start (harmless_refinalize ["other"]) guarded_object rfl))
    (harmless_mark (.str "2020-01-01")) restored_object rfl

/-- The next pass takes its own finalizer away, once its component has cleaned up. -/
theorem finalizer_removed_after_mark :
    ∃ source new, (guardedPass shared).store.object? guardedIdentity = some new ∧
      Body.occurrences (.str "f") new = 0 ∧ Body.occurrences (.str "other") new = 1 ∧
      Finalizes ⟨asStore, .standard, source⟩ guardedHandle
        (fetched asStore (.str "v1") (.str "Sample") .null (.str "name")
          (Body.versioned (.str "5") guardedShared) shared) := by
  have hshared : shared.store.object? guardedIdentity =
      some (Body.versioned (.str "5") guardedShared) := by decide +kernel
  have hcounts : ((guardedPass shared).store.object? guardedIdentity).map
      (fun body => (Body.occurrences (.str "f") body, Body.occurrences (.str "other") body)) =
      some (0, 1) := by decide +kernel
  obtain ⟨old, new, hold, hnew, hguards⟩ := finalizer_guarded rfl rfl rfl rfl
    (guardedHandle_aloof guardedStored) (.put _ .empty) guarded_object ⟨[.str "f"], rfl⟩
    shared_history
  obtain rfl := Option.some.inj (hshared.symm.trans hold)
  rw [guardedPass, guardedIdentity, hnew] at hcounts
  obtain ⟨hf, hother⟩ := Prod.mk.inj (Option.some.inj hcounts)
  have hless : Body.occurrences (.str "f") new <
      Body.occurrences (.str "f") (Body.versioned (.str "5") guardedShared) := by
    rw [hf]
    decide
  obtain ⟨hnone, -, -, source, -, hfinalizes⟩ := hguards.removal hless
  refine ⟨source, new, ?_, hnone, hother, hfinalizes⟩
  rw [guardedPass, guardedIdentity]
  exact hnew

end Engine

end OperatorCore
