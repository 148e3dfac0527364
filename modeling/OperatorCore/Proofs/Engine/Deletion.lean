import OperatorCore.Proofs.Api.Sent
import OperatorCore.Proofs.Engine.Survey
import OperatorCore.Proofs.Engine.Writes
import OperatorCore.Proofs.Object.Observables

/-!
# What is never deleted over the API

A component that looks up its expected objects one by one, and declares the same
after the observation, observes nothing else. If the server answers a lookup
with the very object that was looked up, then all that is observed is expected,
and there is nothing to delete.

The lookup and the comparison do not agree about one thing. The URL of an object
leaves the namespace out if the kind has none, so the object is found; its
identity is read from the body as it was declared, with whatever namespace it has
there. An object of such a kind that is declared with a namespace is therefore
found and not recognized: it is taken for two objects, one to be created and one
to be deleted.
-/

namespace OperatorCore

variable {σ τ ω : Type}

namespace Value

theorem eq_empty_of_null {v : Value}
    (h : ((v.orElse (.str "")).orElse .null).isNull = true) :
    v.orElse (.str "") = .str "" := by
  cases ht : v.truthy with
  | false => rw [orElse, ht, if_neg Bool.false_ne_true]
  | true =>
      have hv : v.orElse (.str "") = v := by rw [orElse, if_pos ht]
      rw [hv, orElse, if_pos ht] at h
      cases v with
      | null => cases ht
      | _ => cases h

end Value

namespace Body

/-- A body that has no kind may be given the one that it was looked up with. -/
theorem identify_completed {content : Fields} {i j : Identity}
    (h : identify (.obj content) = .ok i) (hsame : i.same j = true)
    (apiVersion : Value) :
    ∃ i', identify (.obj (Fields.putIfAbsent
        (Fields.putIfAbsent content "apiVersion" apiVersion) "kind" j.kind)) = .ok i' ∧
      i'.same j = true := by
  obtain ⟨top, md, hs⟩ := identified_iff_shaped.1 ⟨i, h⟩
  obtain rfl : content = top := Value.obj.inj hs.body_eq
  have hs' : Shaped (.obj (Fields.putIfAbsent
      (Fields.putIfAbsent content "apiVersion" apiVersion) "kind" j.kind))
      (Fields.putIfAbsent
        (Fields.putIfAbsent content "apiVersion" apiVersion) "kind" j.kind) md := by
    refine ⟨rfl, ?_⟩
    rw [Fields.get?_putIfAbsent, if_neg (by decide), Fields.get?_putIfAbsent,
      if_neg (by decide)]
    exact hs.meta_eq
  rw [hs.identify] at h
  cases h
  refine ⟨_, hs'.identify, ?_⟩
  rw [Fields.get?_putIfAbsent, if_pos rfl, Fields.get?_putIfAbsent, if_neg (by decide)]
  cases hkind : Fields.get? content "kind" with
  | some kind =>
      rw [hkind] at hsame
      exact hsame
  | none =>
      rw [hkind] at hsame
      simp only [Identity.same, Bool.and_eq_true] at hsame ⊢
      obtain ⟨⟨hns, hempty⟩, hname⟩ := hsame
      refine ⟨⟨hns, ?_⟩, hname⟩
      show (j.kind.orElse (.str "")).equal j.kind = true
      rw [Value.orElse]
      split
      · exact Value.equal_refl _
      · exact hempty

/-- A namespace that does not count is the empty one. -/
theorem ns_eq_of_null {body : Value} (h : Identified body)
    (hnull : ((key body).ns.orElse .null).isNull = true) : (key body).ns = .str "" := by
  obtain ⟨top, md, hs⟩ := identified_iff_shaped.1 h
  rw [key_eq hs.identify] at hnull ⊢
  exact Value.eq_empty_of_null hnull

end Body

/-- The object is declared with a namespace, and its kind has none. -/
def Scheme.Misplaced (scheme : Scheme) (object : Value) : Prop :=
  ∃ o r, Observable.forObject object = .ok o ∧
    scheme.lookup o.apiVersion o.kind = .ok r ∧ r.namespaced = false ∧
    o.ns.isNull = false

namespace ApiStore

/-- The server answers a GET of the URL of the object with that very object, if it
answers with one at all: it has the kind and the name, and the namespace unless
its kind has none. -/
def Truthful (store : ApiStore τ) (object : Value) : Prop :=
  ∀ o r request response content, Observable.forObject object = .ok o →
    store.Locates o.apiVersion o.kind o.ns ((Body.key object).name.orElse (.str "")) r request.url →
    request.method = "get" → store.client.network.Answers request response →
    response.read = .ok content →
    ∃ i, Body.identify content = .ok i ∧
      i.same ⟨if r.namespaced then (Body.key object).ns else .str "",
        (Body.key object).kind, (Body.key object).name⟩ = true

/-- Unless it is misplaced, what is read for an object is that object. -/
theorem same_of_get {store : ApiStore τ} {object : Value} (h : store.Truthful object)
    (hplaced : ¬ store.scheme.Misplaced object) {o : Observable}
    (ho : Observable.forObject object = .ok o) {w : Wire τ} {body : Value}
    (hget : (store.asStore.get o.apiVersion o.kind o.ns ((Body.key object).name.orElse (.str ""))
      w).outcome = .ok body) :
    Body.Identified body ∧ (Body.key object).same (Body.key body) = true := by
  obtain ⟨r, request, response, content, hlocates, hmethod, hanswers, hread, rfl⟩ :=
    store.yields_get o.apiVersion o.kind o.ns ((Body.key object).name.orElse (.str ""))
      { w with notices := [] } _ body (Prod.ext hget rfl)
  obtain ⟨i, hi, hsame⟩ :=
    h o r request response _ ho hlocates hmethod hanswers hread
  obtain ⟨hid, hkind, hns, -⟩ := Observable.forObject_eq ho
  have hscope : (if r.namespaced then (Body.key object).ns else .str "") =
      (Body.key object).ns := by
    split
    · rfl
    · next hscope =>
        rw [Bool.not_eq_true] at hscope
        have hnull : o.ns.isNull = true := by
          rw [← Bool.not_eq_false]
          exact fun hns => hplaced ⟨o, r, ho, hlocates.known, hscope, hns⟩
        exact (Body.ns_eq_of_null hid (hns ▸ hnull)).symm
  rw [hscope] at hsame
  obtain ⟨i', hi', hsame'⟩ := Body.identify_completed hi hsame o.apiVersion
  rw [hkind]
  refine ⟨⟨i', hi'⟩, ?_⟩
  rw [Body.key_eq hi']
  exact Identity.same_symm hsame'

theorem sends_mono {P Q : Request → Prop} (h : ∀ request, P request → Q request)
    {w w' : Wire τ} (hsends : Wire.Sends P w w') : Wire.Sends Q w w' := by
  obtain ⟨requests, hsent, hP⟩ := hsends
  exact ⟨requests, hsent, fun request hrequest => h request (hP request hrequest)⟩

/-- An operation with another method does not send a DELETE. -/
theorem sends_of_only {α : Type} {P : Request → Prop} {method : String}
    {x : Attempt (Wire τ) α} (h : Only method x) (hmethod : method ≠ "delete")
    (w : Wire τ) :
    Wire.Sends (fun request => request.method = "delete" → P request) w
      (reply x w).state := by
  refine sends_mono ?_ (sends_reply h w)
  rintro request rfl hdelete
  exact absurd hdelete hmethod

theorem asStore_readsKeep (store : ApiStore τ) (P : Request → Prop) :
    store.asStore.ReadsKeep
      (Wire.Sends fun request => request.method = "delete" → P request) where
  get apiVersion kind ns name w :=
    sends_of_only (store.get_only apiVersion kind ns name) (by decide) w
  list apiVersion kind ns labels w :=
    sends_of_only (store.list_only apiVersion kind ns labels) (by decide) w

end ApiStore

namespace Engine

section

variable {store : ApiStore τ} {settings : Settings} {source : Source}
  {component : Component ω} {expected : Bag}

/-- What a component with the default observables observes is expected, as long as
nothing is misplaced. -/
theorem counterpart_of_lookUp
    (hobservables : component.observables expected =
      Attempt.lift (Component.standardObservables expected))
    (htruthful : ∀ item ∈ expected, store.Truthful item.object)
    (hplaced : ∀ item ∈ expected, ¬ store.scheme.Misplaced item.object)
    {w w' : World (Wire τ) ω} {observed : Bag}
    (h : (lookUp ⟨store.asStore, settings, source⟩ component expected).run w =
      (.ok observed, w')) {c : Tagged} (hc : c ∈ observed) :
    (expected.counterpart c.key).isSome = true := by
  rw [lookUp, hobservables] at h
  obtain ⟨observables, w₁, hstandard, hobserve⟩ := Attempt.ok_of_bind h
  have hlookups := fun o (ho : o ∈ observables) =>
    Component.mem_standardObservables (Prod.mk.inj hstandard).1 ho
  have hreads : store.asStore.ReadsKeep fun _ _ => True :=
    ⟨fun _ _ _ _ _ => trivial, fun _ _ _ _ _ => trivial⟩
  obtain ⟨o, ho, s, -, hgives⟩ :=
    Observation.gives_of_mem_observe steady_true hreads hobserve hc
  obtain ⟨item, hitem, hlookup⟩ := hlookups o ho
  have htarget := (Observable.forObject_eq hlookup).2.2.2
  rw [Observation.Gives, htarget] at hgives
  obtain ⟨-, hsame⟩ := ApiStore.same_of_get (htruthful item hitem)
    (hplaced item hitem) hlookup hgives
  rw [Option.isSome_iff_ne_none]
  intro hnone
  have hother := Bag.counterpart_eq_none_iff.1 hnone item hitem
  rw [Tagged.key, Tagged.key, hsame] at hother
  cases hother

/-- A component with the default observables, which declares the same after the
observation, sends a DELETE only if one of its objects is misplaced. -/
theorem deletes_only_if_misplaced {w : World (Wire τ) ω}
    (hexpected : ((component.expectedObjects w.aggregated).run w.desk).1 =
      .ok (some expected))
    (hobservables : component.observables expected =
      Attempt.lift (Component.standardObservables expected))
    (hmutate : ∀ observed, component.mutate expected observed = pure (some expected))
    (htruthful : ∀ item ∈ expected, store.Truthful item.object) :
    ∃ requests,
      ((reconcileComponent ⟨store.asStore, settings, source⟩ component).run
        w).2.store.sent = w.store.sent ++ requests ∧
      ∀ request ∈ requests, request.method = "delete" →
        ∃ item ∈ expected, store.scheme.Misplaced item.object := by
  refine reconcile_keeps_store
    (Wire.steady_sends fun request => request.method = "delete" →
      ∃ item ∈ expected, store.scheme.Misplaced item.object)
    (store.asStore_readsKeep _) ?_
  rintro declared observed w₁ ⟨stage, hsurvey⟩ - - task htask write hwrite s
  rcases cases_of_survey hsurvey with ⟨rfl, rfl⟩ | ⟨known, desk, w₂, hknown, hlook, hlast⟩
  · cases htask
  · obtain rfl : expected = known := by
      have hboth := hexpected.symm.trans (congrArg Prod.fst hknown)
      exact Option.some.inj (Except.ok.inj hboth)
    obtain rfl : declared = expected := by
      rw [if_pos rfl] at hlast
      obtain ⟨mutated, hmutated, hdeclared⟩ := hlast
      rw [hmutate] at hmutated
      cases hmutated
      exact hdeclared
    rcases List.mem_append.1 htask with he | ho
    · obtain ⟨item, -, rfl⟩ := List.mem_map.1 he
      have hkind := isDelete_of_expectedTask hwrite
      cases write with
      | create body => exact ApiStore.sends_of_only (store.create_only body) (by decide) s
      | update body => exact ApiStore.sends_of_only (store.update_only body) (by decide) s
      | delete body => cases hkind
    · obtain ⟨c, hc, rfl⟩ := List.mem_map.1 ho
      obtain ⟨hnone, rfl⟩ := delete_of_observedTask hwrite
      by_cases hplaced : ∃ item ∈ declared, store.scheme.Misplaced item.object
      · refine ApiStore.sends_mono ?_
          (ApiStore.sends_reply (store.delete_only c.object) s)
        intro _ _ _
        exact hplaced
      · have hsome := counterpart_of_lookUp hobservables htruthful
          (fun item hitem hmisplaced => hplaced ⟨item, hitem, hmisplaced⟩) hlook hc
        rw [hnone] at hsome
        cases hsome

end

/-! ## A pod in its namespace, and a namespace in one

The server has one object, which it gives for every GET, and all other requests
are in conflict. -/

def holdingServer (object : Value) : ApiStore Unit where
  client :=
    { network := ⟨fun request t =>
        (.ok ⟨.int (if request.method = "get" then 200 else 409), .value object⟩, t)⟩
      server := .str "https://server"
      networking := some Settings.standard.networking }
  scheme := ⟨Scheme.builtin⟩

theorem read_of_holdingServer {object content : Value} {request : Request}
    {response : Response} (hmethod : request.method = "get")
    (hanswers : (holdingServer object).client.network.Answers request response)
    (hread : response.read = .ok content) : content = object := by
  obtain ⟨t, hanswer⟩ := hanswers
  simp only [holdingServer, hmethod, if_true] at hanswer
  cases hanswer
  cases hread
  rfl

/-- A pod of a namespace, with a number in its spec. -/
def podIn (ns : String) (n : Nat) : Value :=
  .obj [("apiVersion", .str "v1"), ("kind", .str "Pod"),
    ("metadata", .obj [("name", .str "p"), ("namespace", .str ns)]),
    ("spec", .obj [("n", .int n)])]

/-- An object of the kind `Namespace`, possibly declared with a namespace. -/
def namespaceObject (md : Fields) : Value :=
  .obj [("apiVersion", .str "v1"), ("kind", .str "Namespace"),
    ("metadata", .obj (("name", .str "x") :: md))]

def onWire : World (Wire Unit) Unit :=
  ⟨Wire.start () none, ⟨.obj [], .obj [], ()⟩, [], []⟩

/-- The pod is observed with another spec, and is not deleted. -/
theorem pod_not_deleted :
    ∃ requests,
      ((reconcileComponent ⟨(holdingServer (podIn "ns" 1)).asStore, .standard,
        .ofName .null .null .null .null⟩ (expecting [.managed (podIn "ns" 2)])).run
        onWire).2.store.sent = onWire.store.sent ++ requests ∧
      ∀ request ∈ requests, request.method ≠ "delete" := by
  have htruthful : ∀ item ∈ [Tagged.managed (podIn "ns" 2)],
      (holdingServer (podIn "ns" 1)).Truthful item.object := by
    intro item hitem o r request response content ho hlocates hmethod hanswers hread
    obtain rfl := List.mem_singleton.1 hitem
    cases ho
    obtain ⟨hknown, -⟩ := hlocates
    cases hknown
    obtain rfl := read_of_holdingServer hmethod hanswers hread
    exact ⟨_, rfl, rfl⟩
  obtain ⟨requests, hsent, hdeletes⟩ := @deletes_only_if_misplaced _ _
    (holdingServer (podIn "ns" 1)) .standard (.ofName .null .null .null .null)
    (expecting [.managed (podIn "ns" 2)]) _ onWire rfl rfl (fun _ => rfl) htruthful
  refine ⟨requests, hsent, ?_⟩
  intro request hrequest hdelete
  obtain ⟨item, hitem, o, r, ho, hknown, hscope, -⟩ := hdeletes request hrequest hdelete
  obtain rfl := List.mem_singleton.1 hitem
  cases ho
  cases hknown
  cases hscope

/-- An object of a kind without namespaces is declared with one. The server tells
the truth about it, and a DELETE is sent. -/
theorem namespace_deleted_though_expected :
    let expected := [Tagged.managed (namespaceObject [("namespace", .str "ns")])]
    let store := holdingServer (namespaceObject [])
    let run := (reconcileComponent ⟨store.asStore, .standard,
      .ofName .null .null .null .null⟩ (expecting expected)).run onWire
    (∀ item ∈ expected, store.Truthful item.object) ∧
    (∀ item ∈ expected, ∃ o r, Observable.forObject item.object = .ok o ∧
      store.scheme.lookup o.apiVersion o.kind = .ok r) ∧
    ∃ request ∈ run.2.store.sent, request.method = "delete" := by
  intro expected store run
  refine ⟨?_, ?_, ?_⟩
  · intro item hitem o r request response content ho hlocates hmethod hanswers hread
    obtain rfl := List.mem_singleton.1 hitem
    cases ho
    obtain ⟨hknown, -⟩ := hlocates
    cases hknown
    obtain rfl := read_of_holdingServer hmethod hanswers hread
    exact ⟨_, rfl, rfl⟩
  · intro item hitem
    obtain rfl := List.mem_singleton.1 hitem
    exact ⟨_, _, rfl, rfl⟩
  · have hsent : run.2.store.sent.any (fun request => request.method = "delete") = true := by
      decide +kernel
    obtain ⟨request, hrequest, hdelete⟩ := List.any_eq_true.1 hsent
    exact ⟨request, hrequest, of_decide_eq_true hdelete⟩

end Engine

end OperatorCore
