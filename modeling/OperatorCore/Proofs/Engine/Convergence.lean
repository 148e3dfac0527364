import Mathlib.Data.List.Pairwise
import OperatorCore.Proofs.Engine.Success
import OperatorCore.Proofs.Store.Lookup

/-!
# Convergence

On a store in memory, a run of a component that does not fail reaches what the
component declares, and a second run right after it has nothing left to write.

The plan of the run is looked at identity by identity. The expected objects have
distinct identities, so at most one of its writes is of a managed object, and
deletions spare what is expected. What each identity holds afterwards follows
from the lemmas on sequences of writes.

For the second run it matters that what was written is observed again and is
equal to what is expected then: the stamps of the owners and of the version are
in no field that lookups read, and the version that the first run has left is
the one that the second run takes over.
-/

namespace OperatorCore

variable {ω : Type}

namespace Engine

open MemoryStore

/-- The engine on a store in memory. -/
def onMemory (settings : Settings) (source : Source) : Engine MemoryStore :=
  ⟨asStore, settings, source⟩

/-- An object that is held is good enough for an expected one: they do not differ
in the scope of the comparison, or not in a way that is worth an update. -/
def Suffices (settings : Settings) (view : Value → Value) (vote : Value → Value → Bool)
    (body held : Value) : Prop :=
  (diff settings.comparison.scope (view (Body.versioned (Body.version held) body))
    (view held)).isEmpty = true ∨
  vote (Body.versioned (Body.version held) body) held = false

/-- What a run has made of the store, identity by identity. -/
structure Converged (settings : Settings) (view : Value → Value)
    (vote : Value → Value → Bool) (owners : List Value) (expected : Bag)
    (observables : List Observable) (s s' : MemoryStore) : Prop where
  /-- A managed object is there as declared, with a version that was not given
  before, or it is the one from before, which is good enough. -/
  managed : ∀ item ∈ expected, item.isManaged = true →
    (∃ n, s.nextVersion ≤ n ∧ s'.object? item.key =
      some (Body.versioned (.str (toString n)) (Body.owned owners item.object))) ∨
    (∃ held, s.object? item.key = some held ∧ s'.object? item.key = some held ∧
      (∃ o ∈ observables, o.finds item.key held = true) ∧
      Suffices settings view vote (Body.owned owners item.object) held)
  /-- A referenced object is there, the same as before. -/
  referenced : ∀ item ∈ expected, item.isManaged = false →
    ∃ held, s.object? item.key = some held ∧ s'.object? item.key = some held ∧
      ∃ o ∈ observables, o.finds item.key held = true
  /-- What is observed and not expected is gone. -/
  removed : ∀ i body, s.object? i = some body →
    (∃ o ∈ observables, o.finds i body = true) →
    (∀ item ∈ expected, item.key.same i = false) → s'.object? i = none
  /-- What is neither observed nor expected is as it was. -/
  untouched : ∀ i, (∀ body, s.object? i = some body →
      ∀ o ∈ observables, o.finds i body = false) →
    (∀ item ∈ expected, item.key.same i = false) → s'.object? i = s.object? i

section Plan

variable {settings : Settings} {view : Value → Value} {vote : Value → Value → Bool}
  {owners : List Value} {expected observed : Bag}

/-- A managed object that has a counterpart calls for no write just when the
counterpart is good enough. -/
theorem wanted_eq_none_iff (item : Tagged) {c : Tagged}
    (hmanaged : item.isManaged = true) (hc : observed.counterpart item.key = some c) :
    wanted settings view vote observed item = none ↔
      Suffices settings view vote item.object c.object := by
  have hworth : worthUpdate settings view vote
      (item.versioned (Body.version c.object)) c = false ↔
      Suffices settings view vote item.object c.object := by
    rw [worthUpdate, Tagged.isManaged_versioned, hmanaged, Bool.true_and,
      Bool.and_eq_false_iff, Bool.not_eq_false']
    rfl
  rw [← hworth, wanted, hc]
  simp only []
  cases worthUpdate settings view vote (item.versioned (Body.version c.object)) c with
  | true =>
      constructor <;>
        · intro h
          cases h
  | false => exact ⟨fun _ => rfl, fun _ => rfl⟩

/-- A referenced object that has a counterpart calls for no write at all. -/
theorem wanted_of_referenced (item : Tagged) (hmanaged : item.isManaged = false) :
    wanted settings view vote observed item = none := by
  cases hw : wanted settings view vote observed item with
  | none => rfl
  | some write =>
      have hcontra := (managed_of_wanted hw).1
      rw [hmanaged] at hcontra
      cases hcontra

/-- An object is good enough for itself. -/
theorem suffices_versioned {body : Value} (hbody : Body.Identified body)
    (text : String) :
    Suffices settings view vote body (Body.versioned (.str text) body) := by
  left
  rw [hbody.version_versioned, diff, Diff.walk_of_equal _ _ (Value.equal_refl _)]
  rfl

/-- What is written for an expected object is the object itself, but for the
version. -/
theorem body_of_wanted {item : Tagged} {write : Write}
    (hitem : Body.Identified item.object)
    (hversions : ∀ c ∈ observed, (Body.version c.object).isNull = false)
    (h : wanted settings view vote observed item = some write) :
    Body.key write.body = item.key ∧ Body.labels write.body = Body.labels item.object ∧
      ∀ text, Body.versioned (.str text) write.body =
        Body.versioned (.str text) item.object := by
  rw [wanted] at h
  split at h
  · next c hc =>
      split at h
      · cases h
        have hversion := hversions c (List.mem_of_find?_eq_some hc)
        exact ⟨hitem.key_versioned _, hitem.labels_versioned hversion,
          fun text => hitem.versioned_versioned hversion rfl⟩
      · cases h
  · split at h
    · cases h
      exact ⟨rfl, rfl, fun text => rfl⟩
    · cases h

/-- With what is expected, also what is written has labels. -/
theorem labelled_of_plan (hexpected : ∀ item ∈ expected, Body.Labelled item.object)
    (hversions : ∀ c ∈ observed, (Body.version c.object).isNull = false) :
    ∀ write ∈ plan settings view vote owners expected observed,
      write.isDelete = false → Body.Labelled write.body := by
  intro write hwrite hdelete
  obtain ⟨item, hitem, -, hw⟩ := managed_of_mem_plan hwrite hdelete
  have howned := (hexpected item hitem).owned owners
  obtain ⟨-, hlabels, -⟩ := body_of_wanted howned.identified hversions hw
  rw [Body.Labelled, hlabels]
  exact howned

end Plan

/-! ## What the first run reaches -/

section First

variable {settings : Settings} {view : Value → Value} {vote : Value → Value → Bool}
  {owners : List Value} {expected : Bag} {observables : List Observable}
  {s s' : MemoryStore}

/-- The identities are distinct. -/
def Distinct (expected : Bag) : Prop :=
  expected.Pairwise fun a b => a.key.same b.key = false

theorem Distinct.eq_of_same (h : Distinct expected) {a b : Tagged} (ha : a ∈ expected)
    (hb : b ∈ expected) (hsame : a.key.same b.key = true) : a = b := by
  have hsymm : Std.Symm fun a b : Tagged => a.key.same b.key = true → a = b :=
    ⟨fun a b hab hba => (hab (Identity.same_symm hba)).symm⟩
  have hdiffer : expected.Pairwise fun a b => a.key.same b.key = true → a = b :=
    h.imp fun hfalse htrue => by rw [hfalse] at htrue; cases htrue
  exact hdiffer.forall_of_forall (fun _ _ _ => rfl) ha hb hsame

theorem version_not_null (hs : Sound s) :
    ∀ c ∈ s.observed observables, (Body.version c.object).isNull = false := by
  intro c hc
  obtain ⟨n, -, hn⟩ :=
    (hs.held_of_object? (hs.mem_observed_iff.1 hc).2.1).version
  rw [hn]
  rfl

/-- A write that an expected object calls for is of the object itself. -/
theorem touches_of_wanted (hexpected : expected.Identified) {observed : Bag}
    (hversions : ∀ c ∈ observed, (Body.version c.object).isNull = false)
    {item : Tagged} (hitem : item ∈ expected) {write : Write}
    (hw : wanted settings view vote observed (item.owned owners) = some write)
    (i : Identity) : write.touches i = item.key.same i := by
  have hbody := body_of_wanted ((hexpected item hitem).owned owners) hversions hw
  rw [Write.touches, hbody.1]
  exact congrArg (Identity.same · i) (Tagged.key_owned (hexpected item hitem) owners)

/-- A deletion spares the identities of the expected objects. -/
theorem not_touches_of_unwanted {observed : Bag} {write : Write}
    (hw : write ∈ observed.filterMap (unwanted expected)) {item : Tagged}
    (hitem : item ∈ expected) : write.touches item.key = false := by
  obtain ⟨c, -, hc⟩ := List.mem_filterMap.1 hw
  obtain ⟨rfl, hspared⟩ := cases_of_unwanted hc
  rw [Bool.eq_false_iff]
  intro htouches
  have hother := hspared item hitem
  rw [Bool.eq_false_iff] at hother
  exact hother (Identity.same_symm htouches)

/-- What an expected object calls for is what its identity holds afterwards. -/
theorem object?_of_wanted (hexpected : expected.Identified)
    (hdistinct : Distinct expected) (hs : Sound s)
    (hwrites : asStore.writes
      (plan settings view vote owners expected (s.observed observables)) s = some s')
    {item : Tagged} (hitem : item ∈ expected) {write : Write}
    (hw : wanted settings view vote (s.observed observables) (item.owned owners) =
      some write) :
    ∃ n, s.nextVersion ≤ n ∧ s'.object? item.key =
      some (Body.versioned (.str (toString n)) (Body.owned owners item.object)) := by
  obtain ⟨hkey, -, hbody⟩ := body_of_wanted ((hexpected item hitem).owned owners)
    (version_not_null hs) hw
  rw [Tagged.key_owned (hexpected item hitem)] at hkey
  obtain ⟨pre, post, hsplit⟩ := List.append_of_mem hitem
  have hcalls : expected.filterMap (fun item =>
        wanted settings view vote (s.observed observables) (item.owned owners)) =
      pre.filterMap (fun item =>
        wanted settings view vote (s.observed observables) (item.owned owners)) ++
      write :: post.filterMap fun item =>
        wanted settings view vote (s.observed observables) (item.owned owners) := by
    rw [hsplit, List.filterMap_append, List.filterMap_cons, hw]
  have hlater : ∀ other ∈ post, item.key.same other.key = false := by
    rw [Distinct, hsplit] at hdistinct
    exact (List.pairwise_cons.1 (List.pairwise_append.1 hdistinct).2.1).1
  rw [plan, hcalls, List.append_assoc, List.cons_append] at hwrites
  have hpost : ∀ other ∈ post.filterMap (fun item =>
        wanted settings view vote (s.observed observables) (item.owned owners)) ++
      (s.observed observables).filterMap (unwanted expected),
      other.touches (Body.key write.body) = false := by
    intro other hother
    rw [hkey]
    rcases List.mem_append.1 hother with hwanted | hunwanted
    · obtain ⟨item', hitem', hw'⟩ := List.mem_filterMap.1 hwanted
      have hmem : item' ∈ expected := by
        rw [hsplit]
        exact List.mem_append_right _ (List.mem_cons_of_mem _ hitem')
      rw [touches_of_wanted hexpected (version_not_null hs) hmem hw', Bool.eq_false_iff]
      intro hsame
      have hdiffer := hlater item' hitem'
      rw [Identity.same_symm hsame] at hdiffer
      cases hdiffer
    · exact not_touches_of_unwanted hunwanted hitem
  obtain ⟨-, n, hn, hobject⟩ :=
    object?_writes_of_stored hwrites (managed_of_wanted hw).2 hpost
  refine ⟨n, hn, ?_⟩
  rw [← hkey, hobject, hbody]
  rfl

/-- An expected object that calls for no write is left alone. -/
theorem object?_of_wanted_none (hexpected : expected.Identified)
    (hdistinct : Distinct expected) (hs : Sound s)
    (hwrites : asStore.writes
      (plan settings view vote owners expected (s.observed observables)) s = some s')
    {item : Tagged} (hitem : item ∈ expected)
    (hnone : wanted settings view vote (s.observed observables) (item.owned owners) =
      none) : s'.object? item.key = s.object? item.key := by
  refine object?_writes_of_untouched hwrites ?_
  intro write hwrite
  rcases List.mem_append.1 hwrite with hwanted | hunwanted
  · obtain ⟨item', hitem', hw'⟩ := List.mem_filterMap.1 hwanted
    rw [touches_of_wanted hexpected (version_not_null hs) hitem' hw', Bool.eq_false_iff]
    intro hsame
    rw [hdistinct.eq_of_same hitem' hitem hsame, hnone] at hw'
    cases hw'
  · exact not_touches_of_unwanted hunwanted hitem

/-- What is not expected can only be deleted, and is if it is observed. -/
theorem touches_unexpected (hexpected : expected.Identified) (hs : Sound s)
    {i : Identity} (hi : ∀ item ∈ expected, item.key.same i = false) {write : Write}
    (hwrite : write ∈ plan settings view vote owners expected (s.observed observables))
    (htouches : write.touches i = true) :
    ∃ c ∈ s.observed observables, write = .delete c.object ∧ c.key.same i = true := by
  rcases List.mem_append.1 hwrite with hwanted | hunwanted
  · obtain ⟨item, hitem, hw⟩ := List.mem_filterMap.1 hwanted
    rw [touches_of_wanted hexpected (version_not_null hs) hitem hw, hi item hitem] at htouches
    cases htouches
  · obtain ⟨c, hc, hw⟩ := List.mem_filterMap.1 hunwanted
    obtain ⟨rfl, -⟩ := cases_of_unwanted hw
    exact ⟨c, hc, rfl, htouches⟩

/-- The writes of a plan reach what was declared, if they all succeed and all
referenced objects are there. -/
theorem converged_of_writes (hexpected : expected.Identified)
    (hdistinct : Distinct expected) (hs : Sound s)
    (hwrites : asStore.writes
      (plan settings view vote owners expected (s.observed observables)) s = some s')
    (hreferenced : ∀ item ∈ expected, item.isManaged = false →
      ((s.observed observables).counterpart item.key).isSome = true) :
    Converged settings view vote owners expected observables s s' where
  managed item hitem hmanaged := by
    cases hw : wanted settings view vote (s.observed observables)
        (item.owned owners) with
    | some write =>
        exact .inl (object?_of_wanted hexpected hdistinct hs hwrites hitem hw)
    | none =>
        have hkey : (item.owned owners).key = item.key :=
          Tagged.key_owned (hexpected item hitem) owners
        cases hc : (s.observed observables).counterpart item.key with
        | none =>
            rw [wanted, hkey, hc] at hw
            simp only [Tagged.isManaged_owned, hmanaged, if_true] at hw
            cases hw
        | some c =>
            obtain ⟨-, hobject, hfinds⟩ := hs.counterpart_observed hc
            have hleft := object?_of_wanted_none hexpected hdistinct hs hwrites hitem hw
            rw [← hkey] at hc
            exact .inr ⟨c.object, hobject, hleft.trans hobject, hfinds,
              (wanted_eq_none_iff (item.owned owners) hmanaged hc).1 hw⟩
  referenced item hitem hmanaged := by
    obtain ⟨c, hc⟩ := Option.isSome_iff_exists.1 (hreferenced item hitem hmanaged)
    obtain ⟨-, hobject, hfinds⟩ := hs.counterpart_observed hc
    have hleft := object?_of_wanted_none hexpected hdistinct hs hwrites hitem
      (wanted_of_referenced (item.owned owners) hmanaged)
    exact ⟨c.object, hobject, hleft.trans hobject, hfinds⟩
  removed i body hobject hfinds hi := by
    have hc := hs.counterpart_observed_iff.2 ⟨hobject, hfinds⟩
    have hsame : (Tagged.managed body).key.same i = true := Bag.same_of_counterpart hc
    refine object?_writes_of_deleted hwrites ?_ (.inr ⟨.delete body, ?_, hsame⟩)
    · intro write hwrite htouches
      obtain ⟨c, -, rfl, -⟩ := touches_unexpected hexpected hs hi hwrite htouches
      rfl
    · refine List.mem_append_right _ (List.mem_filterMap.2
        ⟨.managed body, List.mem_of_find?_eq_some hc, ?_⟩)
      have hnone : expected.counterpart (Tagged.managed body).key = none := by
        rw [Bag.counterpart_eq_none_iff]
        intro item hitem
        rw [Bool.eq_false_iff]
        intro hitemsame
        have hother := hi item hitem
        rw [Identity.same_trans hitemsame hsame] at hother
        cases hother
      rw [unwanted, hnone]
      rfl
  untouched i hunobserved hi := by
    refine object?_writes_of_untouched hwrites ?_
    intro write hwrite
    rw [Bool.eq_false_iff]
    intro htouches
    obtain ⟨c, hc, -, hsame⟩ := touches_unexpected hexpected hs hi hwrite htouches
    obtain ⟨-, hobject, o, ho, hfinds⟩ := hs.mem_observed_iff.1 hc
    have hunfound := hunobserved c.object (hs.object?_congr hsame hobject) o ho
    rw [← o.finds_congr hsame, hfinds] at hunfound
    cases hunfound

end First

/-! ## What the second run finds -/

section Second

variable {settings : Settings} {view : Value → Value} {vote : Value → Value → Bool}
  {owners : List Value} {expected : Bag} {observables : List Observable}
  {s s' : MemoryStore}

/-- What was written is found by the lookups that find what was declared. -/
theorem finds_written {body : Value} (hbody : Body.Identified body)
    (owners : List Value) (n : Nat) (o : Observable) (i : Identity) :
    o.finds i (Body.versioned (.str (toString n)) (Body.owned owners body)) =
      o.finds i body := by
  have hlabels : Body.labels
      (Body.versioned (.str (toString n)) (Body.owned owners body)) =
      Body.labels body := by
    rw [(hbody.owned owners).labels_versioned rfl, hbody.labels_owned]
  unfold Observable.finds
  split
  · rfl
  · rw [Labels.agreed_congr _ hlabels]

/-- Every expected object is observed now, and calls for no write. -/
theorem Converged.settled
    (h : Converged settings view vote owners expected observables s s')
    (hexpected : expected.Identified) (hs' : Sound s')
    (hmatched : ∀ item ∈ expected,
      ∃ o ∈ observables, o.finds item.key item.object = true)
    {item : Tagged} (hitem : item ∈ expected) :
    ((s'.observed observables).counterpart item.key).isSome = true ∧
      wanted settings view vote (s'.observed observables) (item.owned owners) =
        none := by
  have hid := hexpected item hitem
  have hkey : (item.owned owners).key = item.key := Tagged.key_owned hid owners
  cases hmanaged : item.isManaged with
  | false =>
      obtain ⟨held, -, hheld, hfinds⟩ := h.referenced item hitem hmanaged
      rw [hs'.counterpart_observed_iff.2 ⟨hheld, hfinds⟩]
      exact ⟨rfl, wanted_of_referenced (item.owned owners) hmanaged⟩
  | true =>
      rcases h.managed item hitem hmanaged with
        ⟨n, -, hwritten⟩ | ⟨held, -, hheld, hfinds, hsuffices⟩
      · obtain ⟨o, ho, hfinds⟩ := hmatched item hitem
        rw [← finds_written hid owners n] at hfinds
        have hc := hs'.counterpart_observed_iff.2 ⟨hwritten, o, ho, hfinds⟩
        rw [hc]
        rw [← hkey] at hc
        exact ⟨rfl, (wanted_eq_none_iff (item.owned owners) hmanaged hc).2
          (suffices_versioned (hid.owned owners) (toString n))⟩
      · have hc := hs'.counterpart_observed_iff.2 ⟨hheld, hfinds⟩
        rw [hc]
        rw [← hkey] at hc
        exact ⟨rfl, (wanted_eq_none_iff (item.owned owners) hmanaged hc).2 hsuffices⟩

/-- Nothing that is observed now is unexpected. -/
theorem Converged.unwanted_eq_none
    (h : Converged settings view vote owners expected observables s s')
    (hs' : Sound s') {c : Tagged} (hc : c ∈ s'.observed observables) :
    unwanted expected c = none := by
  rw [unwanted]
  cases he : expected.counterpart c.key with
  | some item => rfl
  | none =>
      rw [Bag.counterpart_eq_none_iff] at he
      obtain ⟨-, hobject, o, ho, hfinds⟩ := hs'.mem_observed_iff.1 hc
      exfalso
      -- it is as before, and was observed before, so that it would be gone
      by_cases hbefore : ∃ body, s.object? c.key = some body ∧
          ∃ o ∈ observables, o.finds c.key body = true
      · obtain ⟨body, hbody, hfound⟩ := hbefore
        rw [h.removed c.key body hbody hfound he] at hobject
        cases hobject
      · refine hbefore ⟨c.object, ?_, o, ho, hfinds⟩
        rw [← h.untouched c.key ?_ he, hobject]
        intro body hbody o' ho'
        rw [Bool.eq_false_iff]
        exact fun hfound => hbefore ⟨body, hbody, o', ho', hfound⟩

end Second

/-! ## The two runs -/

section Runs

variable {settings : Settings} {source : Source} {component : Component ω}
  {view : Value → Value} {vote : Value → Value → Bool} {w : World MemoryStore ω}
  {expected : Bag} {observables : List Observable}

/-- A survey finds what the lookups find, and needs all of them to be answered. -/
theorem surveys_onMemory (hs : Sound w.store)
    (hcandid : ∀ o ∈ observables, w.store.Candid o)
    (hdeclares : component.Declares w expected observables) :
    ((∀ o ∈ observables, w.store.Answers o) →
      ∃ w₁, Surveys (onMemory settings source) component w expected
        (w.store.observed observables) w₁ ∧ Looked w.store w₁.store) ∧
    (((reconcileComponent (onMemory settings source) component).run w).1 = .ok () →
      ∀ o ∈ observables, w.store.Answers o) := by
  obtain ⟨w₀, hstore, hsurveys, hbroken⟩ :=
    lookups_of_declares (onMemory settings source) hdeclares
  rw [← hstore] at hs hcandid ⊢
  have hobserve := @Observation.observe_eq_ok_iff ω w₀ hs source observables hcandid
  have hlooked := (Observation.keeps_observe steady_true steady_looked
    asStore_readsKeep source observables w₀).2
  rcases hrun : (Observation.observe asStore source observables).run w₀
    with ⟨e | observed, w₁⟩
  · rw [hrun] at hobserve
    refine ⟨?_, fun hok => absurd hok (run_ne_ok_of_broken (hbroken e w₁ hrun))⟩
    intro hanswers
    cases hobserve.2 ⟨hanswers, rfl⟩
  · rw [hrun] at hobserve hlooked
    obtain ⟨hanswers, rfl⟩ := hobserve.1 rfl
    exact ⟨fun _ => ⟨w₁, hsurveys _ w₁ hrun, hlooked⟩, fun _ => hanswers⟩

theorem Converged.of_looked {s s₁ s' : MemoryStore} {owners : List Value}
    (h : Converged settings view vote owners expected observables s₁ s')
    (hlooked : Looked s s₁) :
    Converged settings view vote owners expected observables s s' := by
  have hobject : s₁.object? = s.object? := by
    funext i
    rw [object?, object?, hlooked.objects]
  obtain ⟨hmanaged, hreferenced, hremoved, huntouched⟩ := h
  rw [hobject, hlooked.version] at hmanaged
  rw [hobject] at hreferenced hremoved huntouched
  exact ⟨hmanaged, hreferenced, hremoved, huntouched⟩

/-- A run that does not fail reaches what the component declares, and another run
right after it, which finds the same declared, writes nothing and fails only if
the component refuses the new status. -/
theorem reconcile_converges (hreachable : w.store.Reachable)
    (hcandid : ∀ o ∈ observables, w.store.Candid o)
    (hstored : ∀ p ∈ w.store.objects, Body.Labelled p.2)
    (hexpected : ∀ item ∈ expected, Body.Labelled item.object)
    (hdistinct : Distinct expected)
    (hmatched : ∀ item ∈ expected,
      ∃ o ∈ observables, o.finds item.key item.object = true)
    (hdeclares : component.Declares w expected observables)
    (hjudges : component.Judges settings view vote) :
    let run := (reconcileComponent (onMemory settings source) component).run w
    run.1 = .ok () →
    Converged settings view vote component.owners expected observables w.store
        run.2.store ∧
    ∀ w₂, w₂.store = run.2.store → component.Declares w₂ expected observables →
      let again := (reconcileComponent (onMemory settings source) component).run w₂
      again.2.store.objects = run.2.store.objects ∧
      again.2.store.mutations = run.2.store.mutations ∧
      ∃ live desk, again.1 = ((component.updateStatus live none).run desk).1 := by
  intro run hok
  have hs := hreachable.sound
  have hid : expected.Identified := fun item hitem => (hexpected item hitem).identified
  obtain ⟨hsurveyed, hanswered⟩ := surveys_onMemory hs hcandid hdeclares
  have hanswers := hanswered hok
  obtain ⟨w₁, hsurvey, hlooked⟩ := hsurveyed hanswers
  have hs₁ := hlooked.sound hs
  have hobserved : w₁.store.observed observables = w.store.observed observables := by
    rw [observed, observed, funext hlooked.found_eq]
  obtain ⟨hwrites, hreferenced⟩ := writes_of_run_ok hsurvey hid hs.identified_observed
    hjudges hok
  rw [← hobserved] at hwrites hreferenced
  have hconverged : Converged settings view vote component.owners expected observables
      w₁.store run.2.store :=
    converged_of_writes hid hdistinct hs₁ hwrites fun item hitem hmanaged =>
      hreferenced item hitem hmanaged
  refine ⟨hconverged.of_looked hlooked, ?_⟩
  intro w₂ hstore hdeclares₂ again
  have hs' := sound_writes hs₁ hwrites
  have hfailures := (failures_writes hwrites).trans hlooked.failures
  have hlabelled : ∀ p ∈ run.2.store.objects, Body.Labelled p.2 := by
    refine labelled_writes ?_
      (labelled_of_plan hexpected (version_not_null hs₁)) hwrites
    rw [hlooked.objects]
    exact hstored
  rw [← hstore] at hs' hfailures hlabelled hconverged
  obtain ⟨hsurveyed₂, -⟩ := surveys_onMemory hs'
    (fun o ho => (hcandid o ho).of_failures hfailures) hdeclares₂
  obtain ⟨w₃, hsurvey₂, hlooked₂⟩ := hsurveyed₂ fun o ho =>
    (hanswers o ho).of_labelled hfailures hlabelled
  obtain ⟨hstore₃, live, desk, hanswer⟩ := run_of_nothing_due hsurvey₂ hid
    hs'.identified_observed hjudges
    (fun item hitem => hconverged.settled hid hs' hmatched hitem)
    (fun c hc => hconverged.unwanted_eq_none hs' hc)
  rw [← hstore]
  refine ⟨?_, ?_, live, desk, hanswer⟩
  · rw [hstore₃, hlooked₂.objects]
  · rw [hstore₃, hlooked₂.mutations]

end Runs

/-! ## One pod in the place of another

All pods are observed and one is expected, so the other one is deleted. A store
that feigns the absence of an object keeps it. -/

def onDesk (store : MemoryStore) : World MemoryStore Unit :=
  ⟨store, ⟨.obj [], .obj [], ()⟩, [], []⟩

/-- A store that holds one pod. -/
def holding : MemoryStore := ((MemoryStore.put (pod "q")).run MemoryStore.empty).2

def heldPod : Value := Body.versioned (.str "1") (pod "q")

theorem holding_objects : holding.objects = [(podIdentity "q", heldPod)] := by
  decide +kernel

theorem holding_labelled : ∀ p ∈ holding.objects, Body.Labelled p.2 := by
  intro p hp
  rw [holding_objects] at hp
  obtain rfl := List.mem_singleton.1 hp
  exact ⟨[], rfl⟩

/-- A component with fixed expected objects and observables. -/
def watching (expected : Bag) (observables : List Observable) : Component Unit :=
  { expecting expected with observables := fun _ => pure observables }

theorem watching_declares (expected : Bag) (observables : List Observable)
    (w : World MemoryStore Unit) :
    (watching expected observables).Declares w expected observables :=
  ⟨⟨w.desk, w.desk, rfl, rfl⟩, fun _ => rfl⟩

theorem watching_judges (expected : Bag) (observables : List Observable) :
    (watching expected observables).Judges .standard
      (fun body => (Body.payload body Body.defaultPayloadFields).toOption.getD .null)
      (fun _ _ => true) :=
  Component.judges_of_default ["spec", "data"] rfl (fun _ _ => rfl) (fun _ _ => rfl)

def allPods : Observable := ⟨.str "v1", .str "Pod", .null, .set (.obj [])⟩

theorem pod_replaced :
    let run := (reconcileComponent (onMemory .standard inMemory.source)
      (watching [.managed (pod "p")] [allPods])).run (onDesk holding)
    run.1 = .ok () ∧
    (∃ n : Nat, run.2.store.object? (podIdentity "p") =
      some (Body.versioned (.str (toString n)) (Body.owned [] (pod "p")))) ∧
    run.2.store.object? (podIdentity "q") = none := by
  intro run
  have hok : run.1 = .ok () := rfl
  have hreachable : (onDesk holding).store.Reachable := .put _ .empty
  have hcandid : ∀ o ∈ [allPods], (onDesk holding).store.Candid o := by
    intro o ho
    obtain rfl := List.mem_singleton.1 ho
    intro hpoint
    cases hpoint
  have hlabelled : ∀ item ∈ [Tagged.managed (pod "p")], Body.Labelled item.object := by
    intro item hitem
    obtain rfl := List.mem_singleton.1 hitem
    exact ⟨[], rfl⟩
  have hmatched : ∀ item ∈ [Tagged.managed (pod "p")],
      ∃ o ∈ [allPods], o.finds item.key item.object = true := by
    intro item hitem
    obtain rfl := List.mem_singleton.1 hitem
    exact ⟨allPods, List.mem_cons_self, rfl⟩
  have hother : ∀ item ∈ [Tagged.managed (pod "p")],
      item.key.same (podIdentity "q") = false := by
    intro item hitem
    obtain rfl := List.mem_singleton.1 hitem
    rfl
  obtain ⟨hconverged, -⟩ := reconcile_converges hreachable hcandid holding_labelled
    hlabelled (List.pairwise_singleton _ _) hmatched (watching_declares _ _ _)
    (watching_judges _ _) hok
  refine ⟨hok, ?_, ?_⟩
  · rcases hconverged.managed _ List.mem_cons_self rfl with
      ⟨n, -, hwritten⟩ | ⟨held, hheld, -⟩
    · exact ⟨n, hwritten⟩
    · cases hheld
  · exact hconverged.removed (podIdentity "q") heldPod rfl
      ⟨allPods, List.mem_cons_self, rfl⟩ hother

/-- A lookup of the pod is answered as if it was not there. -/
def feigning : MemoryStore :=
  ((MemoryStore.fail .get (podIdentity "q") (notFound (podIdentity "q"))).run holding).2

def pointAtPod : Observable := ⟨.str "v1", .str "Pod", .null, .point (.str "q")⟩

/-- Nothing is expected and the pod is observed, the run does not fail, and the
pod is still there. -/
theorem pod_kept_by_feigned_absence :
    let component := watching [] [pointAtPod]
    let view := fun body =>
      (Body.payload body Body.defaultPayloadFields).toOption.getD .null
    let run := (reconcileComponent (onMemory .standard inMemory.source) component).run
      (onDesk feigning)
    feigning.Reachable ∧ (∀ p ∈ feigning.objects, Body.Labelled p.2) ∧
    component.Declares (onDesk feigning) [] [pointAtPod] ∧
    component.Judges .standard view (fun _ _ => true) ∧
    run.1 = .ok () ∧ pointAtPod.finds (podIdentity "q") heldPod = true ∧
    run.2.store.object? (podIdentity "q") = some heldPod ∧
    ¬ Converged .standard view (fun _ _ => true) component.owners [] [pointAtPod]
      feigning run.2.store := by
  intro component view run
  have hkept : run.2.store.object? (podIdentity "q") = some heldPod := rfl
  refine ⟨.fail _ _ _ (.put _ .empty), holding_labelled, watching_declares _ _ _,
    watching_judges _ _, rfl, rfl, hkept, ?_⟩
  intro hconverged
  have hgone := hconverged.removed (podIdentity "q") heldPod rfl
    ⟨pointAtPod, List.mem_cons_self, rfl⟩ fun item hitem => by cases hitem
  rw [hkept] at hgone
  cases hgone

end Engine

end OperatorCore
