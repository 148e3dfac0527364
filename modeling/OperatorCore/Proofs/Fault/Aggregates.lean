import OperatorCore.Fault.Basic
import Mathlib.Data.List.ReduceOption

/-!
# Aggregates

Faults are put together in two ways. An aggregate can be made of any faults, also of none of
them. Or what may have failed is gathered: what has not is left out, and without a fault nothing
comes up at all. Either way what comes out may be put together again, and this to any depth,
while each time one level is taken apart only.

That is enough, since what is taken apart is flat already. So by the induction on how it has been
built (`Grouping.Builds`), the members of what comes out are the faults at the leaves of the
grouping, from left to right and all of them. Nothing else of the grouping can be seen, neither
in the members nor in the message.
-/

namespace OperatorCore

namespace Fault

/-- The fault can be put into an aggregate. -/
def Single (fault : Fault) : Prop :=
  fault.parts = [fault] ∧ ∃ text, fault.message = .ok text

/-- Faults that are not aggregates stay as they are where aggregates are taken apart. -/
theorem flatMap_parts {faults : List Fault} (h : ∀ f ∈ faults, f.parts = [f]) :
    faults.flatMap parts = faults := by
  induction faults with
  | nil => rfl
  | cons fault rest ih =>
      obtain ⟨hfault, hrest⟩ := List.forall_mem_cons.1 h
      rw [List.flatMap_cons, hfault, ih hrest]
      rfl

/-- There are messages for all as soon as there is one for each. -/
theorem messages_ok_iff {faults : List Fault} :
    (∃ texts, messages faults = .ok texts) ↔ ∀ f ∈ faults, ∃ text, f.message = .ok text := by
  induction faults with
  | nil => exact ⟨fun _ f hf => absurd hf List.not_mem_nil, fun _ => ⟨[], rfl⟩⟩
  | cons fault rest ih =>
      rw [List.forall_mem_cons, ← ih, messages]
      cases fault.message with
      | error e =>
          refine ⟨fun h => ?_, fun h => ?_⟩
          · obtain ⟨texts, htexts⟩ := h
            cases htexts
          · obtain ⟨⟨text, htext⟩, _⟩ := h
            cases htext
      | ok text =>
          cases messages rest with
          | error e =>
              refine ⟨fun h => ?_, fun h => ?_⟩
              · obtain ⟨texts, htexts⟩ := h
                cases htexts
              · obtain ⟨_, texts, htexts⟩ := h
                cases htexts
          | ok texts =>
              exact ⟨fun _ => ⟨⟨text, rfl⟩, texts, rfl⟩, fun _ => ⟨text :: texts, rfl⟩⟩

theorem messages_of_single {faults : List Fault} (h : ∀ f ∈ faults, f.Single) :
    ∃ texts, messages faults = .ok texts :=
  messages_ok_iff.2 fun f hf => (h f hf).2

/-- The aggregate of some faults, if there are any. -/
def together (faults : List Fault) : Option Fault :=
  if faults.isEmpty then none else some (.of (.aggregate faults))

theorem together_eq_none_iff {faults : List Fault} :
    together faults = none ↔ faults = [] := by
  rw [together]
  cases faults <;> simp

theorem toList_together (faults : List Fault) :
    (together faults).toList.flatMap parts = faults := by
  cases faults with
  | nil => rfl
  | cons fault rest => exact List.append_nil _

/-- There is one fault for all, also for none, unless one of them has no message. -/
theorem aggregate_eq (faults : List Fault) :
    aggregate faults =
      (messages (faults.flatMap parts)).map fun _ => of (.aggregate (faults.flatMap parts)) := by
  simp only [aggregate, Fault.message, Fault.of, Reason.message, bind, Except.bind, pure,
    Except.pure]
  cases messages (faults.flatMap parts) <;> rfl

/-- There is one fault for all, unless one of them has no message. -/
theorem aggregate?_eq (faults : List Fault) :
    aggregate? faults =
      (messages (faults.flatMap parts)).map fun _ => together (faults.flatMap parts) := by
  rw [aggregate?, together, aggregate_eq]
  cases faults.flatMap parts with
  | nil => rfl
  | cons fault rest => cases messages (fault :: rest) <;> rfl

/-- An attempt whose answer does not matter. -/
theorem map_const_eq_ok_iff {α β : Type} {x : Except Fault α} {b c : β} :
    x.map (fun _ => b) = .ok c ↔ (∃ a, x = .ok a) ∧ c = b := by
  cases x with
  | error e => exact ⟨fun h => (by cases h), fun ⟨⟨_, ha⟩, _⟩ => (by cases ha)⟩
  | ok a => exact ⟨fun h => ⟨⟨a, rfl⟩, (Except.ok.inj h).symm⟩, fun ⟨_, hc⟩ => hc ▸ rfl⟩

theorem aggregate_eq_ok_iff {faults : List Fault} {whole : Fault} :
    aggregate faults = .ok whole ↔
      (∃ texts, messages (faults.flatMap parts) = .ok texts) ∧
        whole = of (.aggregate (faults.flatMap parts)) := by
  rw [aggregate_eq, map_const_eq_ok_iff]

theorem aggregate?_eq_ok_iff {faults : List Fault} {result : Option Fault} :
    aggregate? faults = .ok result ↔
      (∃ texts, messages (faults.flatMap parts) = .ok texts) ∧
        result = together (faults.flatMap parts) := by
  rw [aggregate?_eq, map_const_eq_ok_iff]

theorem aggregate?_of_single {faults : List Fault} (h : ∀ f ∈ faults, f.Single) :
    aggregate? faults = .ok (together faults) := by
  obtain ⟨texts, htexts⟩ := messages_of_single h
  rw [aggregate?_eq, flatMap_parts fun f hf => (h f hf).1, htexts]
  rfl

theorem message_aggregate (faults : List Fault) :
    (of (.aggregate faults)).message = (messages faults).map joinMessages := by
  rw [of, Fault.message, Reason.message]
  cases messages faults <;> rfl

/-- An aggregate of one fault looks like this fault. -/
theorem message_aggregate_singleton (fault : Fault) :
    (of (.aggregate [fault])).message = fault.message := by
  rw [message_aggregate, messages]
  cases fault.message <;> rfl

def isAggregate (fault : Fault) : Bool :=
  match fault.reason with
  | .aggregate _ => true
  | _ => false

theorem parts_of_isAggregate_eq_false {fault : Fault} (h : fault.isAggregate = false) :
    fault.parts = [fault] := by
  obtain ⟨reason, cause⟩ := fault
  cases reason with
  | aggregate members => cases h
  | _ => rfl

end Fault

/-- A way of putting faults together. It has a node for each step, with what the step is given,
from left to right; some of that may be absent. -/
inductive Grouping where
  | absent
  | leaf (fault : Fault)
  /-- An aggregate is made of the members. -/
  | aggregate (members : List Grouping)
  /-- An aggregate is made if there is a fault among the members. -/
  | gathered (members : List Grouping)

namespace Grouping

/-- Nothing is left out where nothing is absent. -/
theorem reduceOption_map_some {α : Type} (xs : List α) : (xs.map some).reduceOption = xs := by
  rw [List.reduceOption, List.filterMap_map, Function.id_comp, List.filterMap_some]

mutual

/-- The faults that have been put together, from left to right. -/
def leaves : Grouping → List Fault
  | .absent => []
  | .leaf fault => [fault]
  | .aggregate members => leavesAmong members
  | .gathered members => leavesAmong members

/-- The leaves of several groupings. -/
def leavesAmong : List Grouping → List Fault
  | [] => []
  | member :: rest => member.leaves ++ leavesAmong rest

end

mutual

/-- What comes out of a grouping, if its steps are taken from the leaves up. An aggregate is made
of faults alone, so each of its members has to come to one. -/
inductive Builds : Grouping → Option Fault → Prop where
  | absent : Builds .absent none
  | leaf {fault : Fault} : fault.isAggregate = false → Builds (.leaf fault) (some fault)
  | aggregate {members : List Grouping} {faults : List Fault} {whole : Fault} :
      BuildsAll members (faults.map some) → Fault.aggregate faults = .ok whole →
      Builds (.aggregate members) (some whole)
  | gathered {members : List Grouping} {results : List (Option Fault)}
      {result : Option Fault} :
      BuildsAll members results → Fault.aggregate? results.reduceOption = .ok result →
      Builds (.gathered members) result

/-- What comes out of several groupings. -/
inductive BuildsAll : List Grouping → List (Option Fault) → Prop where
  | nil : BuildsAll [] []
  | cons {member : Grouping} {rest : List Grouping} {result : Option Fault}
      {results : List (Option Fault)} :
      Builds member result → BuildsAll rest results →
      BuildsAll (member :: rest) (result :: results)

end

/-- Something comes out of the grouping, and not nothing. -/
def Comes : Grouping → Prop
  | .absent => False
  | .leaf _ => True
  | .aggregate _ => True
  | .gathered members => leavesAmong members ≠ []

mutual

/-- The leaves are no aggregates themselves, and no aggregate is made of what is not there. -/
def Proper : Grouping → Prop
  | .absent => True
  | .leaf fault => fault.isAggregate = false
  | .aggregate members => AllProper members ∧ ∀ member ∈ members, member.Comes
  | .gathered members => AllProper members

/-- Several groupings that are proper. -/
def AllProper : List Grouping → Prop
  | [] => True
  | member :: rest => member.Proper ∧ AllProper rest

end

/-- At least one step is taken. -/
def IsGroup : Grouping → Prop
  | .absent => False
  | .leaf _ => False
  | .aggregate _ => True
  | .gathered _ => True

/-! A step takes one level apart. The induction is on how the result has been built: it is what
makes the members of each result the leaves below it. -/

mutual

theorem Builds.parts_eq {t : Grouping} {result : Option Fault} (h : t.Builds result) :
    result.toList.flatMap Fault.parts = t.leaves := by
  match h with
  | .absent => rfl
  | .leaf hleaf =>
      rw [Option.toList_some, List.flatMap_singleton, leaves,
        Fault.parts_of_isAggregate_eq_false hleaf]
  | .aggregate hmembers hwhole =>
      rw [Option.toList_some, List.flatMap_singleton, Fault.parts_aggregate hwhole, leaves,
        ← hmembers.parts_eq, reduceOption_map_some]
  | .gathered hmembers hresult =>
      rw [(Fault.aggregate?_eq_ok_iff.1 hresult).2, Fault.toList_together, leaves,
        hmembers.parts_eq]

theorem BuildsAll.parts_eq {members : List Grouping} {results : List (Option Fault)}
    (h : BuildsAll members results) :
    results.reduceOption.flatMap Fault.parts = leavesAmong members := by
  match h with
  | .nil => rfl
  | .cons hmember hrest =>
      rw [← List.singleton_append, List.reduceOption_append, List.reduceOption_singleton,
        List.flatMap_append, hmember.parts_eq, hrest.parts_eq, leavesAmong]

end

theorem BuildsAll.flatMap_parts {members : List Grouping} {faults : List Fault}
    (h : BuildsAll members (faults.map some)) :
    faults.flatMap Fault.parts = leavesAmong members := by
  rw [← h.parts_eq, reduceOption_map_some]

/-! The leaves tell what comes out of a step, if all the steps below have come to something. -/

theorem builds_aggregate_iff {members : List Grouping} {result : Option Fault} :
    (aggregate members).Builds result ↔
      (∃ faults : List Fault, BuildsAll members (faults.map some)) ∧
      (∃ texts, Fault.messages (leavesAmong members) = .ok texts) ∧
      result = some (.of (.aggregate (leavesAmong members))) := by
  constructor
  · intro h
    cases h with
    | aggregate hmembers hwhole =>
        rw [Fault.aggregate_eq_ok_iff, hmembers.flatMap_parts] at hwhole
        exact ⟨⟨_, hmembers⟩, hwhole.1, congrArg some hwhole.2⟩
  · intro h
    obtain ⟨⟨faults, hmembers⟩, htexts, rfl⟩ := h
    refine .aggregate hmembers (Fault.aggregate_eq_ok_iff.2 ?_)
    rw [hmembers.flatMap_parts]
    exact ⟨htexts, rfl⟩

theorem builds_gathered_iff {members : List Grouping} {result : Option Fault} :
    (gathered members).Builds result ↔
      (∃ results, BuildsAll members results) ∧
      (∃ texts, Fault.messages (leavesAmong members) = .ok texts) ∧
      result = Fault.together (leavesAmong members) := by
  constructor
  · intro h
    cases h with
    | gathered hmembers hresult =>
        rw [Fault.aggregate?_eq_ok_iff, hmembers.parts_eq] at hresult
        exact ⟨⟨_, hmembers⟩, hresult⟩
  · intro h
    obtain ⟨⟨results, hmembers⟩, hresult⟩ := h
    refine .gathered hmembers (Fault.aggregate?_eq_ok_iff.2 ?_)
    rw [hmembers.parts_eq]
    exact hresult

theorem Builds.isSome_iff {t : Grouping} {result : Option Fault} (h : t.Builds result) :
    result.isSome ↔ t.Comes := by
  cases t with
  | absent =>
      cases h
      exact iff_of_false Bool.false_ne_true id
  | leaf fault =>
      cases h
      exact iff_of_true rfl trivial
  | aggregate members =>
      obtain ⟨_, _, rfl⟩ := builds_aggregate_iff.1 h
      exact iff_of_true rfl trivial
  | gathered members =>
      obtain ⟨_, _, rfl⟩ := builds_gathered_iff.1 h
      rw [Comes, Fault.together]
      cases leavesAmong members <;> simp

theorem BuildsAll.exists_faults_iff {members : List Grouping} {results : List (Option Fault)}
    (h : BuildsAll members results) :
    (∃ faults : List Fault, results = faults.map some) ↔ ∀ member ∈ members, member.Comes := by
  match h with
  | .nil => exact ⟨fun _ => List.forall_mem_nil _, fun _ => ⟨[], rfl⟩⟩
  | .cons hmember hrest =>
      rw [List.forall_mem_cons, ← hmember.isSome_iff, ← hrest.exists_faults_iff]
      constructor
      · intro h
        obtain ⟨faults, hfaults⟩ := h
        obtain ⟨fault, rest, -, rfl, hrest⟩ := List.map_eq_cons_iff.1 hfaults.symm
        exact ⟨rfl, rest, hrest.symm⟩
      · intro h
        obtain ⟨hresult, rest, rfl⟩ := h
        obtain ⟨fault, rfl⟩ := Option.isSome_iff_exists.1 hresult
        exact ⟨fault :: rest, rfl⟩

mutual

theorem Builds.proper {t : Grouping} {result : Option Fault} (h : t.Builds result) :
    t.Proper := by
  match h with
  | .absent => exact trivial
  | .leaf hleaf => exact hleaf
  | .aggregate hmembers _ =>
      exact ⟨hmembers.allProper, hmembers.exists_faults_iff.1 ⟨_, rfl⟩⟩
  | .gathered hmembers _ => exact hmembers.allProper

theorem BuildsAll.allProper {members : List Grouping} {results : List (Option Fault)}
    (h : BuildsAll members results) : AllProper members := by
  match h with
  | .nil => exact trivial
  | .cons hmember hrest => exact ⟨hmember.proper, hrest.allProper⟩

end

mutual

theorem Proper.exists_builds {t : Grouping} (hproper : t.Proper)
    (hmessages : ∀ leaf ∈ t.leaves, ∃ text, leaf.message = .ok text) :
    ∃ result, t.Builds result := by
  match t with
  | .absent => exact ⟨none, .absent⟩
  | .leaf fault => exact ⟨some fault, .leaf hproper⟩
  | .aggregate members =>
      rw [leaves] at hmessages
      rw [Proper] at hproper
      obtain ⟨results, hmembers⟩ := AllProper.exists_buildsAll hproper.1 hmessages
      obtain ⟨faults, rfl⟩ := hmembers.exists_faults_iff.2 hproper.2
      exact ⟨_, builds_aggregate_iff.2
        ⟨⟨faults, hmembers⟩, Fault.messages_ok_iff.2 hmessages, rfl⟩⟩
  | .gathered members =>
      rw [leaves] at hmessages
      rw [Proper] at hproper
      exact ⟨_, builds_gathered_iff.2
        ⟨AllProper.exists_buildsAll hproper hmessages, Fault.messages_ok_iff.2 hmessages, rfl⟩⟩

theorem AllProper.exists_buildsAll {members : List Grouping} (hproper : AllProper members)
    (hmessages : ∀ leaf ∈ leavesAmong members, ∃ text, leaf.message = .ok text) :
    ∃ results, BuildsAll members results := by
  match members with
  | [] => exact ⟨[], .nil⟩
  | member :: rest =>
      rw [leavesAmong, List.forall_mem_append] at hmessages
      obtain ⟨result, hmember⟩ := Proper.exists_builds hproper.1 hmessages.1
      obtain ⟨results, hrest⟩ := AllProper.exists_buildsAll hproper.2 hmessages.2
      exact ⟨result :: results, .cons hmember hrest⟩

end

mutual

theorem Proper.flat {t : Grouping} (h : t.Proper) :
    ∀ leaf ∈ t.leaves, leaf.isAggregate = false := by
  match t with
  | .absent => exact List.forall_mem_nil _
  | .leaf fault => exact List.forall_mem_singleton.2 h
  | .aggregate members => exact AllProper.flat h.1
  | .gathered members => exact AllProper.flat h

theorem AllProper.flat {members : List Grouping} (h : AllProper members) :
    ∀ leaf ∈ leavesAmong members, leaf.isAggregate = false := by
  match members with
  | [] => exact List.forall_mem_nil _
  | member :: rest => exact List.forall_mem_append.2 ⟨Proper.flat h.1, AllProper.flat h.2⟩

end

section Group

variable {t : Grouping} (hgroup : t.IsGroup)
include hgroup

/-- What comes out of a group depends on its leaves, and on whether nothing may come out. -/
theorem Builds.cases_of_isGroup {result : Option Fault} (h : t.Builds result) :
    (∃ texts, Fault.messages t.leaves = .ok texts) ∧
      ((∃ members, t = .gathered members) ∧ result = Fault.together t.leaves ∨
        (∃ members, t = .aggregate members) ∧ result = some (.of (.aggregate t.leaves))) := by
  cases t with
  | absent => exact hgroup.elim
  | leaf fault => exact hgroup.elim
  | aggregate members =>
      obtain ⟨_, htexts, hresult⟩ := builds_aggregate_iff.1 h
      exact ⟨htexts, .inr ⟨⟨members, rfl⟩, hresult⟩⟩
  | gathered members =>
      obtain ⟨_, htexts, hresult⟩ := builds_gathered_iff.1 h
      exact ⟨htexts, .inl ⟨⟨members, rfl⟩, hresult⟩⟩

theorem exists_builds_iff :
    (∃ result, t.Builds result) ↔
      t.Proper ∧ ∀ leaf ∈ t.leaves, ∃ text, leaf.message = .ok text := by
  constructor
  · intro h
    obtain ⟨result, h⟩ := h
    exact ⟨h.proper, Fault.messages_ok_iff.1 (h.cases_of_isGroup hgroup).1⟩
  · intro h
    exact h.1.exists_builds h.2

theorem Builds.eq_none_iff {result : Option Fault} (h : t.Builds result) :
    result = none ↔ (∃ members, t = .gathered members) ∧ t.leaves = [] := by
  obtain ⟨-, ⟨hgathered, rfl⟩ | ⟨⟨members, rfl⟩, rfl⟩⟩ := h.cases_of_isGroup hgroup
  · rw [Fault.together_eq_none_iff]
    exact (and_iff_right hgathered).symm
  · simp

theorem Builds.whole_eq {whole : Fault} (h : t.Builds (some whole)) :
    whole = .of (.aggregate t.leaves) := by
  obtain ⟨-, ⟨-, hresult⟩ | ⟨-, hresult⟩⟩ := h.cases_of_isGroup hgroup
  · rw [Fault.together] at hresult
    split at hresult
    · cases hresult
    · exact Option.some.inj hresult
  · exact Option.some.inj hresult

theorem Builds.exists_message {whole : Fault} (h : t.Builds (some whole)) :
    ∃ texts, t.leaves.mapM Fault.message = .ok texts ∧
      whole.message = .ok (joinMessages texts) := by
  obtain ⟨⟨texts, htexts⟩, -⟩ := h.cases_of_isGroup hgroup
  refine ⟨texts, ?_, ?_⟩
  · rw [← Fault.messages_eq_mapM, htexts]
  · rw [h.whole_eq hgroup, Fault.message_aggregate, htexts]
    rfl

end Group

end Grouping

/-- The members of an aggregate are never aggregates, so to take them apart once more changes
nothing, and they are the leaves of its grouping, from left to right. Nothing comes out of what is
gathered if and only if there is no leaf. The leaves alone tell what the aggregate is and what its
message says, that of a single leaf being the message of this leaf. And a group comes to something
unless an aggregate is to be made of what is not there, or a leaf has no message. -/
theorem aggregates_are_flat (t : Grouping) (hgroup : t.IsGroup) :
    ((∃ result, t.Builds result) ↔
      t.Proper ∧ ∀ leaf ∈ t.leaves, ∃ text, leaf.message = .ok text) ∧
    ∀ result, t.Builds result →
      (∀ leaf ∈ t.leaves, leaf.isAggregate = false) ∧
      t.leaves.flatMap Fault.parts = t.leaves ∧
      (result = none ↔ (∃ members, t = .gathered members) ∧ t.leaves = []) ∧
      ∀ whole, result = some whole →
        whole.reason = .aggregate t.leaves ∧
        (∃ texts, t.leaves.mapM Fault.message = .ok texts ∧
          whole.message = .ok (joinMessages texts)) ∧
        (∀ leaf, t.leaves = [leaf] → whole.message = leaf.message) ∧
        ∀ (t' : Grouping) (whole' : Fault), t'.IsGroup → t'.leaves = t.leaves →
          t'.Builds (some whole') → whole' = whole := by
  refine ⟨Grouping.exists_builds_iff hgroup, ?_⟩
  intro result h
  have hflat := h.proper.flat
  have hparts := Fault.flatMap_parts fun leaf hleaf =>
    Fault.parts_of_isAggregate_eq_false (hflat leaf hleaf)
  refine ⟨hflat, hparts, h.eq_none_iff hgroup, ?_⟩
  intro whole hresult
  subst hresult
  have hwhole := h.whole_eq hgroup
  refine ⟨?_, h.exists_message hgroup, ?_, ?_⟩
  · rw [hwhole, Fault.of]
  · intro leaf hleaf
    rw [hwhole, hleaf, Fault.message_aggregate_singleton]
  · intro t' whole' hgroup' hleaves h'
    rw [h'.whole_eq hgroup', hleaves, hwhole]

/-- Two faults below an aggregate, one of them gathered, and a third one beside an empty
aggregate. -/
def nestedFaults : Grouping :=
  .gathered
    [.absent,
     .aggregate
      [.leaf (.of (.runtime (.str "one"))),
       .gathered [.leaf (.of (.runtime (.str "two"))), .absent]],
     .aggregate [],
     .gathered [.absent, .aggregate [.leaf (.of (.runtime (.str "three")))]]]

theorem nestedFaults_come_up_flat :
    nestedFaults.IsGroup ∧
    ∃ whole, nestedFaults.Builds (some whole) ∧
      whole.reason = .aggregate
        [.of (.runtime (.str "one")), .of (.runtime (.str "two")),
         .of (.runtime (.str "three"))] ∧
      whole.message = .ok "[one, two, three]" := by
  refine ⟨trivial, ?_⟩
  obtain ⟨hbuilt, hflat⟩ := aggregates_are_flat nestedFaults trivial
  have hproper : nestedFaults.Proper := by
    simp [nestedFaults, Grouping.Proper, Grouping.AllProper, Grouping.Comes, Grouping.leaves,
      Grouping.leavesAmong, Fault.isAggregate, Fault.of]
  have hmessages : ∀ leaf ∈ nestedFaults.leaves, ∃ text, leaf.message = .ok text :=
    Fault.messages_ok_iff.1 ⟨["one", "two", "three"], rfl⟩
  obtain ⟨result, hresult⟩ := hbuilt.2 ⟨hproper, hmessages⟩
  obtain ⟨-, -, hnone, hwhole⟩ := hflat result hresult
  cases result with
  | none => cases (hnone.1 rfl).2
  | some whole =>
      obtain ⟨hreason, ⟨texts, htexts, hmessage⟩, -⟩ := hwhole whole rfl
      cases htexts
      exact ⟨whole, hresult, hreason, hmessage⟩

end OperatorCore
