import Mathlib.Data.Set.List
import OperatorCore.Proofs.Api.Paths
import OperatorCore.Proofs.Api.Sent

/-!
# What the requests of a store go to

Getting, updating and deleting are about one object. Its URL is that of the list of its
kind, a slash, and its name. But the part of a URL that is empty is left out, and so the
URL of an object whose name is empty is that of the list: a deletion without a name is
a deletion of all that is in the list.

All depends on whether a value names anything, that is, whether it is a text and not
empty. If the name does, and the namespace where one is asked for, then all requests go
to the object. If one of them is null, or is no text, then the URL cannot be made, and
nothing is sent. In between there is the empty text, which neither is refused nor names
anything. An empty namespace of a body counts as none and is refused; an empty name is
passed on.
-/

namespace OperatorCore

namespace Value

/-- A text that is not empty. -/
def Names (v : Value) : Prop := ∃ s, v = .str s ∧ s ≠ ""

/-- What can be a part of a URL, or is left out of it. -/
def Fits (v : Value) : Prop := v.truthy = true → v.Names

theorem Names.truthy {v : Value} (h : v.Names) : v.truthy = true := by
  obtain ⟨s, rfl, hs⟩ := h
  exact bne_iff_ne.2 hs

theorem isNull_of_truthy {v : Value} (h : v.truthy = true) : v.isNull = false := by
  cases v with
  | null => cases h
  | _ => rfl

@[simp] theorem isNull_null : null.isNull = true := rfl

@[simp] theorem fits_str (s : String) : (str s).Fits :=
  fun h => ⟨s, rfl, bne_iff_ne.1 h⟩

@[simp] theorem fits_null : null.Fits := fun h => by cases h

theorem fits_iff {v : Value} : v.Fits ↔ (v.truthy = true → ∃ s, str s = v) := by
  refine forall_congr' fun htruthy => ⟨?_, ?_⟩
  · rintro ⟨s, rfl, -⟩
    exact ⟨s, rfl⟩
  · rintro ⟨s, rfl⟩
    exact fits_str s htruthy

end Value

namespace ResourceKind

variable {r : ResourceKind} {ns name subresource : Value}

/-! ## The URL of an object and that of its list -/

/-- The parts of the URL of a list. -/
def listParts (r : ResourceKind) (ns : Value) : List Value := (r.parts ns .null .null).take 6

theorem parts_eq_append (r : ResourceKind) (ns name subresource : Value) :
    r.parts ns name subresource = r.listParts ns ++ [name, subresource] := rfl

theorem joined_of_blank (h : name.truthy = false) :
    r.joined ns name subresource = r.joined ns .null subresource := by
  rw [joined, joined, parts_eq_append, parts_eq_append, List.filter_append,
    List.filter_append, List.filter_cons_of_neg (ne_true_of_eq_false h)]
  rfl

/-- The parts that there are must be texts. -/
theorem exists_joined_iff :
    (∃ path, r.joined ns name subresource = .ok path) ↔
      (r.namespaced = true → ns.Fits) ∧ name.Fits ∧ subresource.Fits := by
  have hparts : (∃ path, r.joined ns name subresource = .ok path) ↔
      ∀ v ∈ r.parts ns name subresource, v.Fits := by
    have hrange := Set.ext_iff.1 (Set.range_list_map Value.str)
      ((r.parts ns name subresource).filter Value.truthy)
    simp only [Set.mem_range, Set.mem_ofPred_eq, List.mem_filter, and_imp] at hrange
    simp only [Value.fits_iff, ← hrange, joined_eq_ok_iff]
    constructor
    · rintro ⟨path, texts, htexts, -⟩
      exact ⟨texts, htexts.symm⟩
    · rintro ⟨texts, htexts⟩
      exact ⟨_, texts, htexts.symm, rfl⟩
  have hplace : (if (r.namespaced && ns.truthy) = true then ns else .null).Fits ↔
      (r.namespaced = true → ns.Fits) := by
    cases r.namespaced with
    | false => simp
    | true =>
        cases hns : ns.truthy with
        | false =>
            have hfits : ns.Fits := fun h => absurd h (ne_true_of_eq_false hns)
            simp [hfits]
        | true => simp
  have hmark : (if (r.namespaced && ns.truthy) = true then .str "namespaces"
      else Value.null).Fits := by
    split <;> simp
  rw [hparts]
  simp only [parts, List.forall_mem_cons, Value.fits_str, hmark, hplace, true_and,
    List.not_mem_nil, false_imp_iff, implies_true, and_true]

theorem joined_snoc {name' subresource' : Value} {path s : String}
    (hpath : r.joined ns name subresource = .ok path)
    (hparts : [name', subresource'].filter Value.truthy =
      [name, subresource].filter Value.truthy ++ [.str s]) :
    r.joined ns name' subresource' = .ok (path ++ "/" ++ s) := by
  obtain ⟨texts, htexts, rfl⟩ := joined_eq_ok_iff.1 hpath
  rw [parts_eq_append, List.filter_append] at htexts
  have hroot : texts ≠ [] := by
    rintro rfl
    rw [List.map_nil, List.append_eq_nil_iff, List.filter_eq_nil_iff] at htexts
    refine htexts.1 _ List.mem_cons_self ?_
    split <;> decide
  refine joined_eq_ok_iff.2 ⟨texts ++ [s], ?_, ?_⟩
  · rw [parts_eq_append, List.filter_append, hparts, ← List.append_assoc, htexts,
      List.map_append]
    rfl
  · rw [String.intercalate_append_of_ne_nil hroot (List.cons_ne_nil _ _),
      String.intercalate_singleton]

theorem joined_name {list s : String} (hlist : r.joined ns .null .null = .ok list)
    (hs : s ≠ "") : r.joined ns (.str s) .null = .ok (list ++ "/" ++ s) :=
  joined_snoc hlist (Value.filter_str hs [.null])

theorem joined_status {path : String} (hpath : r.joined ns name .null = .ok path) :
    r.joined ns name (.str "status") = .ok (path ++ "/status") := by
  have hparts : [name, .str "status"].filter Value.truthy =
      [name, .null].filter Value.truthy ++ [.str "status"] := by
    cases hname : name.truthy with
    | true =>
        rw [List.filter_cons_of_pos hname, List.filter_cons_of_pos hname]
        rfl
    | false =>
        have hblank : ¬ name.truthy = true := ne_true_of_eq_false hname
        rw [List.filter_cons_of_neg hblank, List.filter_cons_of_neg hblank]
        rfl
  have hjoined := joined_snoc hpath hparts
  rwa [String.append_assoc] at hjoined

theorem path_eq_ok_iff {path : String} :
    r.path ns name subresource = .ok path ↔
      r.checkTarget ns name subresource = .ok () ∧
        r.joined ns name subresource = .ok path := by
  rw [ResourceKind.path, bind_eq_ok_iff]
  constructor
  · rintro ⟨_, hchecked, hjoined⟩
    exact ⟨hchecked, hjoined⟩
  · intro h
    exact ⟨(), h⟩

theorem path_list (r : ResourceKind) (ns : Value) :
    r.path ns .null .null = r.joined ns .null .null := by
  have hchecked : r.checkTarget ns .null .null = .ok () :=
    checkTarget_eq_ok_iff.2 ⟨by simp, by simp⟩
  rw [ResourceKind.path, hchecked]
  rfl

/-- Without a name, the URL is that of the list. -/
theorem path_of_blank {path : String} (h : name.truthy = false)
    (hpath : r.path ns name .null = .ok path) : r.path ns .null .null = .ok path := by
  rw [path_list, ← joined_of_blank h]
  exact (path_eq_ok_iff.1 hpath).2

theorem path_status {path statusPath : String} (hpath : r.path ns name .null = .ok path)
    (hstatus : r.path ns name (.str "status") = .ok statusPath) :
    statusPath = path ++ "/status" := by
  have hjoined := joined_status (path_eq_ok_iff.1 hpath).2
  rw [(path_eq_ok_iff.1 hstatus).2] at hjoined
  exact Except.ok.inj hjoined

theorem path_of_unscoped (h : r.namespaced = false) (ns ns' name subresource : Value) :
    r.path ns name subresource = r.path ns' name subresource := by
  simp only [ResourceKind.path, checkTarget, joined, parts, h, Bool.false_and]
  rfl

end ResourceKind

/-! ## What an operation is about -/

/-- An object by its kind, and what there is for its namespace and its name. -/
structure Subject where
  kind : ResourceKind
  ns : Value
  name : Value

namespace Subject

def path (t : Subject) : Except Fault String := t.kind.path t.ns t.name .null

def listPath (t : Subject) : Except Fault String := t.kind.path t.ns .null .null

/-- There is a name, and a namespace if the kind has namespaces. -/
structure Named (t : Subject) : Prop where
  name : t.name.Names
  ns : t.kind.namespaced = true → t.ns.Names

/-- There is something for the name, and nothing or something for the namespace; neither of
them is there and empty. -/
structure Definite (t : Subject) : Prop where
  name : t.name.truthy = true
  ns : t.kind.namespaced = true → t.ns.isNull = false → t.ns.truthy = true

variable {t : Subject}

theorem Named.path_eq (h : t.Named) :
    ∃ list name, t.name = .str name ∧ name ≠ "" ∧ t.listPath = .ok list ∧
      t.path = .ok (list ++ "/" ++ name) := by
  obtain ⟨name, hname, hne⟩ := h.name
  obtain ⟨list, hlist⟩ : ∃ list, t.kind.joined t.ns .null .null = .ok list :=
    ResourceKind.exists_joined_iff.2
      ⟨fun hscoped _ => h.ns hscoped, Value.fits_null, Value.fits_null⟩
  have hchecked : t.kind.checkTarget t.ns t.name .null = .ok () :=
    ResourceKind.checkTarget_eq_ok_iff.2
      ⟨by simp, fun hscoped _ => Value.isNull_of_truthy (h.ns hscoped).truthy⟩
  refine ⟨list, name, hname, hne, (ResourceKind.path_list _ _).trans hlist, ?_⟩
  refine ResourceKind.path_eq_ok_iff.2 ⟨hchecked, ?_⟩
  rw [hname]
  exact ResourceKind.joined_name hlist hne

theorem Named.path_status (h : t.Named) {path : String} (hpath : t.path = .ok path) :
    t.kind.path t.ns t.name (.str "status") = .ok (path ++ "/status") := by
  obtain ⟨hchecked, hjoined⟩ := ResourceKind.path_eq_ok_iff.1 hpath
  refine ResourceKind.path_eq_ok_iff.2 ⟨?_, ResourceKind.joined_status hjoined⟩
  obtain ⟨-, hns⟩ := ResourceKind.checkTarget_eq_ok_iff.1 hchecked
  exact ResourceKind.checkTarget_eq_ok_iff.2
    ⟨fun _ => Value.isNull_of_truthy h.name.truthy, hns⟩

/-- What is definite and has a path names the object. -/
theorem Definite.named (h : t.Definite) {path : String} (hpath : t.path = .ok path) :
    t.Named := by
  obtain ⟨hchecked, hjoined⟩ := ResourceKind.path_eq_ok_iff.1 hpath
  obtain ⟨-, hns⟩ := ResourceKind.checkTarget_eq_ok_iff.1 hchecked
  obtain ⟨hfits, hname, -⟩ := ResourceKind.exists_joined_iff.1 ⟨path, hjoined⟩
  refine ⟨hname h.name, fun hscoped => hfits hscoped (h.ns hscoped ?_)⟩
  exact hns hscoped (Value.isNull_of_truthy h.name)

/-- All that the object has can be parts of a URL. -/
structure Proper (t : Subject) : Prop where
  kind : t.kind.Proper
  name : ∀ s, t.name = .str s → IsPart s
  ns : t.kind.namespaced = true → ∀ s, t.ns = .str s → IsPart s

theorem Named.exists_address (h : t.Named) (hproper : t.Proper) :
    ∃ (ns : Option String) (name : String), (∀ s ∈ ns, IsPart s) ∧ IsPart name ∧
      (t.kind.namespaced = true → ns.isSome = true) ∧
      ∀ subresource : Option String,
        t.kind.urlOf ⟨ns, some name, subresource⟩ =
          t.kind.path t.ns t.name (.ofText? subresource) := by
  obtain ⟨name, hname, -⟩ := h.name
  cases hscoped : t.kind.namespaced with
  | false =>
      refine ⟨none, name, by simp, hproper.name name hname, by simp,
        fun subresource => ?_⟩
      rw [ResourceKind.urlOf, ResourceKind.url_null, hname]
      exact ResourceKind.path_of_unscoped hscoped _ _ _ _
  | true =>
      obtain ⟨ns, hns, -⟩ := h.ns hscoped
      refine ⟨some ns, name, ?_, hproper.name name hname, fun _ => rfl, fun subresource => ?_⟩
      · rintro s ⟨⟩
        exact hproper.ns hscoped ns hns
      · rw [ResourceKind.urlOf, ResourceKind.url_null, hname, hns]
        rfl

/-- Neither an object nor its status is at the URL of a list of its kind. -/
theorem Named.path_ne_list (h : t.Named) (hproper : t.Proper) {path : String}
    (hpath : t.path = .ok path) {ns : Option String} (hns : ∀ s ∈ ns, IsPart s)
    {list : String} (hlist : t.kind.path (.ofText? ns) .null .null = .ok list) :
    path ≠ list ∧ path ++ "/status" ≠ list := by
  obtain ⟨ns', name, hns', hname, hscoped, haddress⟩ := h.exists_address hproper
  have hstatus := h.path_status hpath
  have hapart : ∀ (subresource : Option String) {u : String},
      (∀ s ∈ subresource, IsPart s) →
      t.kind.path t.ns t.name (.ofText? subresource) = .ok u → u ≠ list := by
    rintro subresource u hsub hu rfl
    have ha : Address.Proper ⟨ns', some name, subresource⟩ := by
      refine ⟨hns', ?_, hsub⟩
      rintro s ⟨⟩
      exact hname
    have hadmits : t.kind.Admits ⟨ns', some name, subresource⟩ :=
      ⟨fun _ => rfl, fun hnamespaced _ => hscoped hnamespaced⟩
    have hlists : t.kind.Admits ⟨ns, none, none⟩ :=
      ⟨by simp, by simp⟩
    have ha' : Address.Proper ⟨ns, none, none⟩ :=
      ⟨hns, by simp, by simp⟩
    obtain ⟨u₁, u₂, hu₁, hu₂, heq⟩ :=
      ResourceKind.urlOf_eq_iff hproper.kind hproper.kind ha ha' hadmits hlists
    rw [haddress, hu] at hu₁
    rw [ResourceKind.urlOf, ResourceKind.url_null] at hu₂
    cases hu₁
    cases hlist.symm.trans hu₂
    -- the URLs of one kind are told apart, and a list has no name
    cases ((ResourceKind.segments_eq_iff hadmits hlists).1 (heq.1 rfl)).2.1
  refine ⟨hapart none (by simp) hpath, hapart (some "status") ?_ hstatus⟩
  rintro s ⟨⟩
  exact ⟨by decide, by decide⟩

end Subject

/-- An operation of a store on one object, which it is given by its name or as a body. -/
inductive ObjectCall where
  | get (apiVersion kind ns name : Value)
  | update (body : Value)
  | delete (body : Value)

namespace ObjectCall

def method : ObjectCall → String
  | get .. => "get"
  | update _ => "put"
  | delete _ => "delete"

/-- What the operation is about, by what the scheme knows. An empty namespace of a body
counts as none. -/
def subject (scheme : Scheme) : ObjectCall → Except Fault Subject
  | get apiVersion kind ns name => do
    let r ← scheme.lookup apiVersion kind
    pure ⟨r, ns, name⟩
  | update body => do
    let r ← scheme.kindOf body
    let identity ← Body.identify body
    pure ⟨r, identity.ns.orElse .null, identity.name⟩
  | delete body => do
    let identity ← Body.identify body
    let r ← scheme.kindOf body
    pure ⟨r, identity.ns.orElse .null, identity.name⟩

def located (scheme : Scheme) (call : ObjectCall) : Except Fault (Subject × String) := do
  let t ← call.subject scheme
  let path ← t.path
  pure (t, path)

end ObjectCall

namespace ApiStore

variable {τ : Type}

/-- Performs an operation; a deletion answers null. -/
def perform (store : ApiStore τ) : ObjectCall → Attempt (Wire τ) Value
  | .get apiVersion kind ns name => store.get apiVersion kind ns name
  | .update body => store.update body
  | .delete body => do
    store.delete body
    pure .null

/-- A request of the operation goes to the path, or it is the second one of an update and
goes to the status behind the path. -/
def Reaches (store : ApiStore τ) (call : ObjectCall) (t : Subject) (path : String)
    (request : Request) : Prop :=
  request.method = call.method ∧
    (store.client.resolve (.str path) = .ok request.url ∨
      (∃ body, call = .update body) ∧ "status" ∈ t.kind.subresources ∧
        store.client.resolve (.str (path ++ "/status")) = .ok request.url)

/-- Nothing is sent before the path is there, and then nothing goes to any other. -/
theorem guarded_perform (store : ApiStore τ) (call : ObjectCall) :
    Attempt.Guarded (call.located store.scheme)
      (fun located => Wire.Sends (store.Reaches call located.1 located.2))
      (store.perform call) := by
  have hR := fun P => Wire.steady_sends (τ := τ) P
  cases call with
  | get apiVersion kind ns name =>
      simp only [ObjectCall.located, ObjectCall.subject, bind_assoc, pure_bind]
      refine Attempt.guarded_liftM_bind fun r _ => ?_
      refine Attempt.guarded_bind (fun _ => hR _) ?_ ?_
      · refine Attempt.guarded_liftM_bind fun path hpath => Attempt.guarded_pure ?_
        exact Client.keeps_fetch_to _ (fun _ hmethod hurl => ⟨hmethod, .inl hurl⟩) _ _ _
      · intro body located hlocated
        refine Attempt.keeps_bind (hR _) (Attempt.keeps_liftM (hR _) _) ?_
        rintro ⟨_, body⟩
        refine Attempt.keeps_bind (hR _) (Attempt.keeps_liftM (hR _) _) ?_
        rintro ⟨_, body⟩
        exact Attempt.keeps_pure (hR _) _
  | update body =>
      simp only [ObjectCall.located, ObjectCall.subject, bind_assoc, pure_bind]
      refine Attempt.guarded_liftM_bind fun r hr => ?_
      obtain ⟨fields, hfields, -⟩ := bind_eq_ok_iff.1 hr
      refine Attempt.guarded_liftM_bind fun identity _ => ?_
      rw [show body.fieldsFor "get" = .ok fields from hfields, Attempt.liftM_ok_bind]
      refine Attempt.guarded_liftM_bind fun path hpath => Attempt.guarded_pure ?_
      refine Attempt.keeps_bind (hR _)
        (Client.keeps_fetch_to _ (fun _ hmethod hurl => ⟨hmethod, .inl hurl⟩) _ _ _) ?_
      intro answer
      refine keeps_putStatus ?_ _ answer
      intro hstatus statusPath hstatusPath request hmethod hurl
      -- only where the status is separate is there a second request
      have hseparate : r.subresources.contains "status" = true := by
        by_contra hnot
        rw [if_neg hnot] at hstatus
        cases hstatus
      rw [ResourceKind.path_status hpath hstatusPath] at hurl
      exact ⟨hmethod, .inr ⟨⟨body, rfl⟩, List.contains_iff_mem.1 hseparate, hurl⟩⟩
  | delete body =>
      simp only [ObjectCall.located, ObjectCall.subject, bind_assoc, pure_bind]
      refine Attempt.guarded_bind (fun _ => hR _) ?_ fun _ _ _ =>
        Attempt.keeps_pure (hR _) _
      refine Attempt.guarded_liftM_bind fun identity _ => ?_
      refine Attempt.guarded_liftM_bind fun r _ => ?_
      refine Attempt.guarded_liftM_bind fun path hpath => Attempt.guarded_pure ?_
      refine Attempt.keeps_bind (hR _)
        (Client.keeps_fetch_to _ (fun _ hmethod hurl => ⟨hmethod, .inl hurl⟩) _ _ _) ?_
      intro answer
      exact Attempt.keeps_pure (hR _) _

/-- An operation on an object addresses this object and no collection, if nothing of what
it is given is there and empty. -/
theorem perform_reaches_object (store : ApiStore τ) (call : ObjectCall) (w : Wire τ) :
    (∀ e, call.subject store.scheme = .error e →
      (store.perform call).run w = (.error e, w)) ∧
    ∀ t, call.subject store.scheme = .ok t →
      (t.Named → ∃ list name, t.name = .str name ∧ name ≠ "" ∧ t.listPath = .ok list ∧
        Wire.Sends (store.Reaches call t (list ++ "/" ++ name)) w
          ((store.perform call).run w).2 ∧
        (t.Proper → ∀ ns : Option String, (∀ s ∈ ns, IsPart s) → ∀ list',
          t.kind.path (.ofText? ns) .null .null = .ok list' →
            list ++ "/" ++ name ≠ list' ∧ list ++ "/" ++ name ++ "/status" ≠ list')) ∧
      (¬ t.Named → t.Definite → ∃ e, (store.perform call).run w = (.error e, w)) ∧
      (t.name.truthy = false → ∀ path, t.path = .ok path → t.listPath = .ok path ∧
        Wire.Sends (store.Reaches call t path) w ((store.perform call).run w).2) := by
  have hguarded := store.guarded_perform call
  constructor
  · intro e he
    rw [ObjectCall.located, he] at hguarded
    exact hguarded w
  · intro t ht
    have hlocated : call.located store.scheme = t.path >>= fun path => pure (t, path) := by
      rw [ObjectCall.located, ht]
      rfl
    rw [hlocated] at hguarded
    have hsends : ∀ path, t.path = .ok path →
        Wire.Sends (store.Reaches call t path) w ((store.perform call).run w).2 := by
      intro path hpath
      rw [hpath] at hguarded
      exact hguarded w
    refine ⟨?_, ?_, ?_⟩
    · intro hnamed
      obtain ⟨list, name, hname, hne, hlist, hpath⟩ := hnamed.path_eq
      refine ⟨list, name, hname, hne, hlist, hsends _ hpath, ?_⟩
      intro hproper ns hns list' hlist'
      exact hnamed.path_ne_list hproper hpath hns hlist'
    · intro hnamed hdefinite
      cases hpath : t.path with
      | ok path => exact absurd (hdefinite.named hpath) hnamed
      | error e =>
          rw [hpath] at hguarded
          exact ⟨e, hguarded w⟩
    · intro hblank path hpath
      exact ⟨ResourceKind.path_of_blank hblank hpath, hsends path hpath⟩

/-- A store on a server that does whatever it is asked to do. -/
def obliging : ApiStore Unit where
  client :=
    { network := ⟨fun _ t =>
        (.ok ⟨.int 200, .value (.obj [("kind", .str "Status"), ("status", .str "Success")])⟩, t)⟩
      server := .str "https://server"
      networking := some Settings.standard.networking }
  scheme := ⟨Scheme.builtin⟩

def configMaps : ResourceKind := Scheme.core "" "v1" "configmaps" "ConfigMap" []

def configMap (md : Fields) : Value :=
  .obj [("apiVersion", .str "v1"), ("kind", .str "ConfigMap"), ("metadata", .obj md)]

/-- A configmap is deleted by its name in its namespace, and not at all without a namespace. -/
theorem configmap_deleted_by_name :
    let t : Subject := ⟨configMaps, .str "ns", .str "c"⟩
    let named := ObjectCall.delete (configMap [("namespace", .str "ns"), ("name", .str "c")])
    let unplaced := ObjectCall.delete (configMap [("name", .str "c")])
    let w : Wire Unit := Wire.start () none
    t.Named ∧ t.Proper ∧ (∃ list name, t.listPath = .ok list ∧
      Wire.Sends (obliging.Reaches named t (list ++ "/" ++ name)) w
        ((obliging.perform named).run w).2 ∧ list ++ "/" ++ name ≠ list) ∧
      ∃ e, (obliging.perform unplaced).run w = (.error e, w) := by
  intro t named unplaced w
  have hnamed : t.Named := ⟨⟨"c", rfl, by decide⟩, fun _ => ⟨"ns", rfl, by decide⟩⟩
  have hproper : t.Proper := by
    refine ⟨⟨by decide, ⟨by decide, by decide⟩, ⟨by decide, by decide⟩⟩, ?_, ?_⟩
    · rintro s ⟨⟩
      exact ⟨by decide, by decide⟩
    · rintro - s ⟨⟩
      exact ⟨by decide, by decide⟩
  obtain ⟨list, name, -, -, hlist, hsends, hapart⟩ :=
    ((perform_reaches_object obliging named w).2 t rfl).1 hnamed
  have hns : ∀ s ∈ some "ns", IsPart s := by
    rintro s ⟨⟩
    exact ⟨by decide, by decide⟩
  refine ⟨hnamed, hproper, ⟨list, name, hlist, hsends, ?_⟩, ?_⟩
  · exact (hapart hproper (some "ns") hns list hlist).1
  refine ((perform_reaches_object obliging unplaced w).2 ⟨configMaps, .null, .str "c"⟩ rfl).2.1
    ?_ ⟨by decide, by simp⟩
  intro hunplaced
  obtain ⟨ns, hns, -⟩ := hunplaced.ns rfl
  cases hns

/-- Without a name, all the configmaps of the namespace are deleted. -/
theorem list_deleted_without_name :
    let t : Subject := ⟨configMaps, .str "ns", .str ""⟩
    let nameless := ObjectCall.delete (configMap [("namespace", .str "ns")])
    let run := (obliging.perform nameless).run (Wire.start () none)
    nameless.subject obliging.scheme = .ok t ∧
      t.listPath.toOption = some "/api/v1/namespaces/ns/configmaps" ∧
      run.1.toOption = some .null ∧
      run.2.sent.map (fun request => (request.method, request.url)) =
        [("delete", "https://server/api/v1/namespaces/ns/configmaps")] := by
  intro t nameless run
  exact ⟨rfl, by decide +kernel, by decide +kernel, by decide +kernel⟩

end ApiStore

end OperatorCore
