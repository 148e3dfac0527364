import OperatorCore.Api.ResourceKind
import OperatorCore.Fault.Attempt

/-!
# What a URL tells

A URL of the API is its parts with slashes between them, and parts that are absent are
left out. So a URL that is split at its slashes gives back the parts that there are, but
not which of them these are: `v1` may be a version or, as it seems, a group, and
`namespaces` may be a plural.

It is the number of the parts that tells. A group adds one part to the URL of an object,
and a namespace adds two, so that all four combinations have numbers of their own. Among
the URLs of one kind the same is done by the namespace, which adds two parts, and by the
name and the subresource, which add one each: a name is not there without the namespace
that its kind asks for, and a subresource not without a name. Once it is known which parts
there are, they are compared one by one.
-/

namespace OperatorCore

/-- A text that can be a part of a URL: it is not empty, and there is no slash in it. -/
structure IsPart (s : String) : Prop where
  not_empty : s ≠ ""
  slashless : '/' ∉ s.toList

/-- A text is split at a character into the texts that it has been put between, if it is in none of
them. -/
theorem splitOn_toList_intercalate (sep : String) (c : Char) (hsep : sep.toList = [c])
    {texts : List String} (hne : texts ≠ []) (hfree : ∀ s ∈ texts, c ∉ s.toList) :
    (sep.intercalate texts).toList.splitOn c = texts.map String.toList := by
  rw [String.toList_intercalate, hsep]
  refine List.splitOn_intercalate c ?_ fun hnil => hne (List.map_eq_nil_iff.1 hnil)
  intro chars hchars
  obtain ⟨s, hs, rfl⟩ := List.mem_map.1 hchars
  exact hfree s hs

/-- Texts without slashes are told by what they are together, with slashes between them. -/
theorem eq_of_intercalate {texts texts' : List String} (hne : texts ≠ [])
    (hne' : texts' ≠ []) (hslashless : ∀ s ∈ texts, '/' ∉ s.toList)
    (hslashless' : ∀ s ∈ texts', '/' ∉ s.toList)
    (h : "/".intercalate texts = "/".intercalate texts') : texts = texts' := by
  have hmap : texts.map String.toList = texts'.map String.toList := by
    rw [← splitOn_toList_intercalate "/" '/' rfl hne hslashless, h,
      splitOn_toList_intercalate "/" '/' rfl hne' hslashless']
  exact (List.map_inj_right fun _ _ => String.toList_inj.1).1 hmap

/-! ## What may be absent -/

theorem toList_inj {o o' : Option String} (h : o.toList = o'.toList) : o = o' := by
  cases o <;> cases o' <;> cases h <;> rfl

theorem length_toList_le (o : Option String) : o.toList.length ≤ 1 := by
  cases o with
  | none => exact Nat.zero_le 1
  | some s => exact Nat.le_refl 1

theorem length_toList_mono {o o' : Option String} (h : o.isSome = true → o'.isSome = true) :
    o.toList.length ≤ o'.toList.length := by
  cases o with
  | none => exact Nat.zero_le _
  | some s =>
      cases o' with
      | none => cases h rfl
      | some s' => exact Nat.le_refl 1

namespace Value

theorem filter_str {s : String} (h : s ≠ "") (rest : List Value) :
    (str s :: rest).filter truthy = str s :: rest.filter truthy := by
  have hs : (str s).truthy = true := bne_iff_ne.2 h
  exact List.filter_cons_of_pos hs

theorem filter_ofText? {s? : Option String} (h : ∀ s ∈ s?, s ≠ "") (rest : List Value) :
    (ofText? s? :: rest).filter truthy = s?.toList.map str ++ rest.filter truthy := by
  cases s? with
  | none => rfl
  | some s => exact filter_str (h s rfl) rest

end Value

/-- What a URL of a kind is for: a list, possibly in a namespace, or an object, or a
subresource of an object. -/
structure Address where
  ns : Option String
  name : Option String
  subresource : Option String

/-- All that an address has can be parts of a URL. -/
structure Address.Proper (a : Address) : Prop where
  ns : ∀ s ∈ a.ns, IsPart s
  name : ∀ s ∈ a.name, IsPart s
  subresource : ∀ s ∈ a.subresource, IsPart s

namespace ResourceKind

/-- All that a kind has can be parts of a URL; only the group may be empty. -/
structure Proper (r : ResourceKind) : Prop where
  group : '/' ∉ r.group.toList
  version : IsPart r.version
  plural : IsPart r.plural

/-- The namespace that counts: none if the kind has no namespaces. -/
def scope (r : ResourceKind) (ns : Option String) : Option String :=
  if r.namespaced then ns else none

/-- The URL of an address, without a server and a query. -/
def urlOf (r : ResourceKind) (a : Address) : Except Fault String :=
  r.url .null (.ofText? a.ns) (.ofText? a.name) (.ofText? a.subresource) .null

/-- The kind has URLs for the address: a subresource is that of an object, and an object is
in a namespace if the kind has namespaces. -/
structure Admits (r : ResourceKind) (a : Address) : Prop where
  name : a.subresource.isSome → a.name.isSome
  ns : r.namespaced = true → a.name.isSome → a.ns.isSome

def group? (r : ResourceKind) : Option String := if r.group = "" then none else some r.group

/-- How the path begins. The kinds of the core have a place of their own. -/
def root (r : ResourceKind) : String :=
  if r.group = "" && r.version = "v1" then "api" else "apis"

def placed : Option String → List String
  | some ns => ["namespaces", ns]
  | none => []

/-- What stands between the slashes of a URL. -/
def segments (r : ResourceKind) (a : Address) : List String :=
  "" :: r.root :: (r.group?.toList ++ r.version ::
    (placed (r.scope a.ns) ++ r.plural :: (a.name.toList ++ a.subresource.toList)))

section

variable {r r' : ResourceKind} {a a' : Address}

theorem mem_of_mem_scope {ns : Option String} {s : String} (h : s ∈ r.scope ns) : s ∈ ns := by
  rw [scope] at h
  split at h
  · exact h
  · cases h

theorem mem_segments {s : String} :
    s ∈ r.segments a ↔ s = "" ∨ s = r.root ∨ s ∈ r.group? ∨ s = r.version ∨
      s ∈ placed (r.scope a.ns) ∨ s = r.plural ∨ s ∈ a.name ∨ s ∈ a.subresource := by
  simp only [segments, List.mem_cons, List.mem_append, Option.mem_toList, Option.mem_def]

theorem slashless_segments (hr : r.Proper) (ha : a.Proper) :
    ∀ s ∈ r.segments a, '/' ∉ s.toList := by
  intro s hs
  rcases mem_segments.1 hs with rfl | rfl | hs | rfl | hs | rfl | hs | hs
  · decide
  · rw [root]
    split <;> decide
  · rw [group?] at hs
    split at hs
    · cases hs
    · cases hs
      exact hr.group
  · exact hr.version.slashless
  · cases hscope : r.scope a.ns with
    | none =>
        rw [hscope] at hs
        cases hs
    | some ns =>
        rw [hscope] at hs
        rcases List.mem_cons.1 hs with rfl | hs
        · decide
        · obtain rfl := List.mem_singleton.1 hs
          exact (ha.ns s (mem_of_mem_scope hscope)).slashless
  · exact hr.plural.slashless
  · exact (ha.name s hs).slashless
  · exact (ha.subresource s hs).slashless

theorem partTexts_texts (position : Nat) (texts : List String) :
    partTexts position (texts.map .str) = .ok texts := by
  induction texts generalizing position with
  | nil => rfl
  | cons s rest ih =>
      rw [List.map_cons, partTexts, ih]
      rfl

theorem eq_of_partTexts {position : Nat} {parts : List Value} {texts : List String}
    (h : partTexts position parts = .ok texts) : parts = texts.map .str := by
  induction parts generalizing position texts with
  | nil =>
      cases h
      rfl
  | cons part rest ih =>
      cases part with
      | str s =>
          obtain ⟨others, hothers, htexts⟩ := bind_eq_ok_iff.1 h
          cases htexts
          rw [ih hothers, List.map_cons]
      | _ => cases h

/-- A path is joined of the parts that are there, if all of them are texts. -/
theorem joined_eq_ok_iff {r : ResourceKind} {ns name subresource : Value} {path : String} :
    r.joined ns name subresource = .ok path ↔
      ∃ texts : List String,
        (r.parts ns name subresource).filter Value.truthy = texts.map .str ∧
        path = "/".intercalate texts := by
  rw [joined, bind_eq_ok_iff]
  constructor
  · rintro ⟨texts, htexts, hpath⟩
    cases hpath
    exact ⟨texts, eq_of_partTexts htexts, rfl⟩
  · rintro ⟨texts, htexts, rfl⟩
    exact ⟨texts, by rw [htexts, partTexts_texts], rfl⟩

theorem parts_eq (ha : a.Proper) (name subresource : Value) :
    r.parts (.ofText? a.ns) name subresource =
      [.str ("/" ++ r.root), .str r.group, .str r.version,
        .ofText? ((r.scope a.ns).map fun _ => "namespaces"), .ofText? (r.scope a.ns),
        .str r.plural, name, subresource] := by
  have hroot : (if (r.group = "" && r.version = "v1") then "/api" else "/apis") =
      "/" ++ r.root := by
    rw [root]
    split <;> rfl
  have htruthy : (Value.ofText? a.ns).truthy = a.ns.isSome := by
    cases hns : a.ns with
    | none => rfl
    | some s => exact bne_iff_ne.2 (ha.ns s hns).not_empty
  rw [parts, hroot, htruthy, scope]
  cases r.namespaced <;> cases a.ns <;> rfl

theorem filter_group (r : ResourceKind) (rest : List Value) :
    (Value.str r.group :: rest).filter Value.truthy =
      r.group?.toList.map .str ++ rest.filter Value.truthy := by
  rw [group?]
  split
  · next hgroup =>
      rw [hgroup]
      rfl
  · next hgroup => exact Value.filter_str hgroup rest

/-- The parts that are there are the segments, but that the first slash is within the first
of them. -/
theorem joined_eq (hr : r.Proper) (ha : a.Proper) :
    r.joined (.ofText? a.ns) (.ofText? a.name) (.ofText? a.subresource) =
      .ok ("/".intercalate (r.segments a)) := by
  have hscope : ∀ s ∈ r.scope a.ns, s ≠ "" :=
    fun s hs => (ha.ns s (mem_of_mem_scope hs)).not_empty
  have hmark : ∀ s ∈ (r.scope a.ns).map fun _ => "namespaces", s ≠ "" := by
    intro s hs
    obtain ⟨_, -, rfl⟩ := Option.map_eq_some_iff.1 hs
    decide
  have htexts : (r.parts (.ofText? a.ns) (.ofText? a.name) (.ofText? a.subresource)).filter
      Value.truthy = (("/" ++ r.root) :: (r.segments a).drop 2).map .str := by
    have hroot : "/" ++ r.root ≠ "" := by
      rw [root]
      split <;> decide
    rw [parts_eq ha, Value.filter_str hroot, filter_group,
      Value.filter_str hr.version.not_empty, Value.filter_ofText? hmark,
      Value.filter_ofText? hscope, Value.filter_str hr.plural.not_empty,
      Value.filter_ofText? fun s hs => (ha.name s hs).not_empty,
      Value.filter_ofText? fun s hs => (ha.subresource s hs).not_empty, segments]
    cases r.scope a.ns <;> simp [placed]
  refine joined_eq_ok_iff.2 ⟨_, htexts, ?_⟩
  simp [segments]

theorem isNull_ofText? (s? : Option String) : (Value.ofText? s?).isNull = !s?.isSome := by
  cases s? <;> rfl

theorem checkTarget_eq_ok_iff {r : ResourceKind} {ns name subresource : Value} :
    r.checkTarget ns name subresource = .ok () ↔
      (subresource.isNull = false → name.isNull = false) ∧
        (r.namespaced = true → name.isNull = false → ns.isNull = false) := by
  rw [checkTarget]
  cases r.namespaced <;> cases ns.isNull <;> cases name.isNull <;> cases subresource.isNull <;>
    simp [bind, Except.bind, pure, Except.pure]

theorem url_null (r : ResourceKind) (ns name subresource : Value) :
    r.url .null ns name subresource .null = r.path ns name subresource := by
  simp only [url, path, query]
  cases r.checkTarget ns name subresource with
  | error e => rfl
  | ok _ =>
      cases r.joined ns name subresource with
      | error e => rfl
      | ok path =>
          show Except.ok (path ++ "") = .ok path
          rw [String.append_empty]

theorem urlOf_eq (hr : r.Proper) (ha : a.Proper) (h : r.Admits a) :
    r.urlOf a = .ok ("/".intercalate (r.segments a)) := by
  have hchecked : r.checkTarget (.ofText? a.ns) (.ofText? a.name) (.ofText? a.subresource) =
      .ok () := by
    refine checkTarget_eq_ok_iff.2 ?_
    simp only [isNull_ofText?, Bool.not_eq_false']
    exact ⟨h.name, h.ns⟩
  rw [urlOf, url_null, path, hchecked]
  exact joined_eq hr ha

theorem urlOf_eq_iff (hr : r.Proper) (hr' : r'.Proper) (ha : a.Proper) (ha' : a'.Proper)
    (h : r.Admits a) (h' : r'.Admits a') :
    ∃ u u', r.urlOf a = .ok u ∧ r'.urlOf a' = .ok u' ∧
      (u = u' ↔ r.segments a = r'.segments a') := by
  refine ⟨_, _, urlOf_eq hr ha h, urlOf_eq hr' ha' h', ?_, fun heq => by rw [heq]⟩
  exact eq_of_intercalate (List.cons_ne_nil _ _) (List.cons_ne_nil _ _)
    (slashless_segments hr ha) (slashless_segments hr' ha')

/-! ## Which parts there are -/

theorem length_placed (ns : Option String) : (placed ns).length = 2 * ns.toList.length := by
  cases ns <;> rfl

theorem length_segments (r : ResourceKind) (a : Address) :
    (r.segments a).length = 4 + r.group?.toList.length + 2 * (r.scope a.ns).toList.length +
      a.name.toList.length + a.subresource.toList.length := by
  simp only [segments, List.length_cons, List.length_append, length_placed]
  omega

theorem group_eq_of_group? {r r' : ResourceKind} (h : r.group?.toList = r'.group?.toList) :
    r.group = r'.group := by
  have hgroup : ∀ s : ResourceKind, s.group = s.group?.toList.headD "" := by
    intro s
    rw [group?]
    split
    · next hempty => exact hempty
    · rfl
  rw [hgroup r, h, ← hgroup r']

theorem placed_inj {ns ns' : Option String} (h : placed ns = placed ns') : ns = ns' := by
  cases ns <;> cases ns' <;> cases h <;> rfl

/-- Once it is known which parts are there, they are compared one by one. -/
theorem segments_inj (h : r.segments a = r'.segments a')
    (hgroup : r.group?.toList.length = r'.group?.toList.length)
    (hscope : (r.scope a.ns).toList.length = (r'.scope a'.ns).toList.length)
    (hname : a.name.toList.length = a'.name.toList.length) :
    r.group = r'.group ∧ r.version = r'.version ∧ r.plural = r'.plural ∧
      r.scope a.ns = r'.scope a'.ns ∧ a.name = a'.name ∧ a.subresource = a'.subresource := by
  have hplaced : (placed (r.scope a.ns)).length = (placed (r'.scope a'.ns)).length := by
    rw [length_placed, length_placed, hscope]
  have hparts := (List.cons.inj (List.cons.inj h).2).2
  obtain ⟨hgroups, hversions⟩ := List.append_inj hparts hgroup
  obtain ⟨hversion, hplaces⟩ := List.cons.inj hversions
  obtain ⟨hscopes, hplurals⟩ := List.append_inj hplaces hplaced
  obtain ⟨hplural, htargets⟩ := List.cons.inj hplurals
  obtain ⟨hnames, hsubresources⟩ := List.append_inj htargets hname
  exact ⟨group_eq_of_group? hgroups, hversion, hplural, placed_inj hscopes, toList_inj hnames,
    toList_inj hsubresources⟩

theorem segments_congr (hgroup : r.group = r'.group) (hversion : r.version = r'.version)
    (hplural : r.plural = r'.plural) (hscope : r.scope a.ns = r'.scope a'.ns)
    (hname : a.name = a'.name) (hsubresource : a.subresource = a'.subresource) :
    r.segments a = r'.segments a' := by
  simp only [segments, root, group?, hgroup, hversion, hplural, hscope, hname, hsubresource]

/-- The number of the parts tells whether there is a group, and whether there is a
namespace. -/
theorem segments_object_eq_iff {ns ns' : Option String} {name name' : String} :
    r.segments ⟨ns, some name, none⟩ = r'.segments ⟨ns', some name', none⟩ ↔
      r.group = r'.group ∧ r.version = r'.version ∧ r.plural = r'.plural ∧ name = name' ∧
        r.scope ns = r'.scope ns' := by
  constructor
  · intro h
    have hlength := congrArg List.length h
    rw [length_segments, length_segments] at hlength
    simp only [Option.toList_some, List.length_singleton] at hlength
    have hle := length_toList_le r.group?
    have hle' := length_toList_le r'.group?
    have hgroups : r.group?.toList.length = r'.group?.toList.length := by omega
    have hscopes : (r.scope ns).toList.length = (r'.scope ns').toList.length := by omega
    obtain ⟨hgroup, hversion, hplural, hscope, hname, -⟩ :=
      segments_inj h hgroups hscopes rfl
    exact ⟨hgroup, hversion, hplural, Option.some.inj hname, hscope⟩
  · rintro ⟨hgroup, hversion, hplural, hname, hscope⟩
    exact segments_congr hgroup hversion hplural hscope (congrArg some hname) rfl

/-- Of one kind, the namespace adds two parts, and the name and the subresource add one each,
none of them without those before. -/
theorem segments_eq_iff (h : r.Admits a) (h' : r.Admits a') :
    r.segments a = r.segments a' ↔
      r.scope a.ns = r.scope a'.ns ∧ a.name = a'.name ∧ a.subresource = a'.subresource := by
  constructor
  · intro hsegments
    have hlength := congrArg List.length hsegments
    rw [length_segments, length_segments] at hlength
    have hsubresource := length_toList_mono h.name
    have hsubresource' := length_toList_mono h'.name
    have hname := length_toList_le a.name
    have hname' := length_toList_le a'.name
    have hboth : (r.scope a.ns).toList.length = (r.scope a'.ns).toList.length ∧
        a.name.toList.length = a'.name.toList.length := by
      cases hscoped : r.namespaced with
      | false =>
          have hnone : ∀ ns, r.scope ns = none := by
            intro ns
            rw [scope, hscoped, if_neg Bool.false_ne_true]
          rw [hnone, hnone] at hlength ⊢
          omega
      | true =>
          have hsome : ∀ ns, r.scope ns = ns := by
            intro ns
            rw [scope, hscoped, if_pos rfl]
          rw [hsome, hsome] at hlength ⊢
          have hns := length_toList_le a.ns
          have hns' := length_toList_le a'.ns
          have hplaced := length_toList_mono (h.ns hscoped)
          have hplaced' := length_toList_mono (h'.ns hscoped)
          omega
    exact (segments_inj hsegments rfl hboth.1 hboth.2).2.2.2
  · rintro ⟨hscope, hname, hsubresource⟩
    exact segments_congr rfl rfl rfl hscope hname hsubresource

/-! ## What a URL is for -/

/-- The URLs of two objects are the same only if the kinds have the same endpoint, and the
objects the same name and the same namespace, as far as their kinds have any. Of one kind,
the URLs of lists, objects and subresources are all told apart. -/
theorem urls_apart (hr : r.Proper) (hr' : r'.Proper) :
    (∀ {ns ns' : Option String} {name name' : String},
      (∀ s ∈ ns, IsPart s) → (∀ s ∈ ns', IsPart s) → IsPart name → IsPart name' →
      (r.namespaced = true → ns.isSome) → (r'.namespaced = true → ns'.isSome) →
      ∃ u u', r.url .null (.ofText? ns) (.str name) .null .null = .ok u ∧
        r'.url .null (.ofText? ns') (.str name') .null .null = .ok u' ∧
        (u = u' ↔ r.group = r'.group ∧ r.version = r'.version ∧ r.plural = r'.plural ∧
          name = name' ∧ r.scope ns = r'.scope ns')) ∧
      ∀ {a a' : Address}, a.Proper → a'.Proper → r.Admits a → r.Admits a' →
        ∃ u u', r.urlOf a = .ok u ∧ r.urlOf a' = .ok u' ∧
          (u = u' ↔ r.scope a.ns = r.scope a'.ns ∧ a.name = a'.name ∧
            a.subresource = a'.subresource) := by
  constructor
  · intro ns ns' name name' hns hns' hname hname' hscoped hscoped'
    have hproper : ∀ {ns : Option String} {name : String}, (∀ s ∈ ns, IsPart s) →
        IsPart name → Address.Proper ⟨ns, some name, none⟩ := by
      intro ns name hns hname
      refine ⟨hns, ?_, by simp⟩
      rintro s ⟨⟩
      exact hname
    obtain ⟨u, u', hu, hu', heq⟩ := urlOf_eq_iff hr hr' (hproper hns hname)
      (hproper hns' hname') ⟨by simp, fun h _ => hscoped h⟩
      ⟨by simp, fun h _ => hscoped' h⟩
    exact ⟨u, u', hu, hu', heq.trans segments_object_eq_iff⟩
  · intro a a' ha ha' h h'
    obtain ⟨u, u', hu, hu', heq⟩ := urlOf_eq_iff hr hr ha ha' h h'
    exact ⟨u, u', hu, hu', heq.trans (segments_eq_iff h h')⟩

end

/-- A pod has another URL than the list of the pods that it is in, and so has a pod of the
same name in another namespace. -/
theorem pod_apart :
    let pods : ResourceKind := ⟨"", "v1", "pods", "Pod", true, ["status"]⟩
    pods.Proper ∧ Address.Proper ⟨some "ns", some "p", none⟩ ∧
      pods.Admits ⟨some "ns", some "p", none⟩ ∧
      (∃ u u', pods.url .null (.str "ns") (.str "p") .null .null = .ok u ∧
        pods.url .null (.str "other") (.str "p") .null .null = .ok u' ∧ u ≠ u') ∧
      ∃ u u', pods.urlOf ⟨some "ns", some "p", none⟩ = .ok u ∧
        pods.urlOf ⟨some "ns", none, none⟩ = .ok u' ∧ u ≠ u' := by
  intro pods
  have hpart : ∀ s ∈ ["ns", "other", "p"], IsPart s := by
    intro s hs
    have hall : ∀ s ∈ ["ns", "other", "p"], s ≠ "" ∧ '/' ∉ s.toList := by decide
    exact ⟨(hall s hs).1, (hall s hs).2⟩
  have hpods : pods.Proper := ⟨by decide, ⟨by decide, by decide⟩, ⟨by decide, by decide⟩⟩
  have hpod : Address.Proper ⟨some "ns", some "p", none⟩ :=
    ⟨fun s hs => hpart s (by simp_all), fun s hs => hpart s (by simp_all), by simp⟩
  have hlist : Address.Proper ⟨some "ns", none, none⟩ :=
    ⟨hpod.ns, by simp, by simp⟩
  have hadmits : pods.Admits ⟨some "ns", some "p", none⟩ :=
    ⟨by simp, fun _ _ => rfl⟩
  obtain ⟨hobjects, hforms⟩ := urls_apart hpods hpods
  refine ⟨hpods, hpod, hadmits, ?_, ?_⟩
  · obtain ⟨u, u', hu, hu', heq⟩ := @hobjects (some "ns") (some "other") "p" "p" hpod.ns
      (fun s hs => hpart s (by simp_all)) (hpart "p" (by decide)) (hpart "p" (by decide))
      (fun _ => rfl) (fun _ => rfl)
    exact ⟨u, u', hu, hu', fun h => absurd (heq.1 h).2.2.2.2 (by decide)⟩
  · obtain ⟨u, u', hu, hu', heq⟩ := hforms hpod hlist hadmits
      ⟨by simp, by simp⟩
    exact ⟨u, u', hu, hu', fun h => absurd (heq.1 h).2.1 (by decide)⟩

end ResourceKind

end OperatorCore
