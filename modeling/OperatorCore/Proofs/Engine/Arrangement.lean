import OperatorCore.Engine.Reconciliation
import OperatorCore.Proofs.Diff.Arrangement
import OperatorCore.Proofs.Engine.Plan

/-!
# Updates do not depend on the order of the fields

What is compared of an object is found by keys, be it a payload field or the essence, so of
two objects that differ in the order of their fields the comparable parts do too, or the same
fault is raised for both (`Body.payload_concur`). Their differences have the same items then,
and it takes an item to have an object updated.

The log is the one thing that shows the order, since it prints the values.
-/

namespace OperatorCore

namespace Value

theorem fieldsFor_of_not_obj {v : Value} (h : ¬ ∃ fields, v = .obj fields)
    (member : String) :
    v.fieldsFor member = .error (.misuse (.noAttribute v.typeName member)) := by
  cases v with
  | obj fields => exact absurd ⟨fields, rfl⟩ h
  | _ => rfl

/-- Two attempts fail with the same fault, or what they answer is reordered. -/
inductive Concur : Except Fault Value → Except Fault Value → Prop
  | fault (fault : Fault) : Concur (.error fault) (.error fault)
  | answer {a b : Value} (h : a.Reordered b) : Concur (.ok a) (.ok b)

namespace Reordered

theorem single (key : String) {v v' : Value} (h : v.Reordered v') :
    Reordered (.obj [(key, v)]) (.obj [(key, v')]) := by
  rw [reordered_obj_iff]
  intro key'
  by_cases hk : key = key'
  · simp only [Fields.get?, hk, if_true, Option.map_some]
    exact congrArg some h
  · simp only [Fields.get?, hk, if_false, Option.map_none]

/-- Of two reordered values both are objects, or to take them for objects is the same
misuse. -/
theorem cases_obj {v v' : Value} (h : v.Reordered v') :
    (∃ fields others, v = .obj fields ∧ v' = .obj others) ∨
      ∀ member, ∃ fault, v.fieldsFor member = .error fault ∧
        v'.fieldsFor member = .error fault := by
  have htype : v'.typeName = v.typeName := by
    rw [← typeName_arranged v, show v.arranged = v'.arranged from h, typeName_arranged]
  by_cases hobj : ∃ fields, v = .obj fields
  · obtain ⟨fields, rfl⟩ := hobj
    obtain ⟨others, rfl⟩ := h.exists_obj
    exact .inl ⟨fields, others, rfl, rfl⟩
  · have hobj' : ¬ ∃ fields, v' = .obj fields := by
      intro h'
      obtain ⟨others, rfl⟩ := h'
      exact hobj (exists_obj (Eq.symm h))
    refine .inr fun member => ⟨_, fieldsFor_of_not_obj hobj member, ?_⟩
    rw [fieldsFor_of_not_obj hobj', htype]

section Fields

variable {a b : Fields} (h : Reordered (.obj a) (.obj b))
include h

theorem has_eq (key : String) : Fields.has a key = Fields.has b key := by
  have hkey := congrArg Option.isSome (reordered_obj_iff.1 h key)
  rwa [Option.isSome_map, Option.isSome_map] at hkey

theorem getD_get? (key : String) (default : Value) :
    ((Fields.get? a key).getD default).Reordered ((Fields.get? b key).getD default) := by
  have hkey := congrArg (Option.getD · default.arranged) (reordered_obj_iff.1 h key)
  rwa [Option.getD_map, Option.getD_map] at hkey

theorem isEmpty_eq : a.isEmpty = b.isEmpty := by
  cases a with
  | nil =>
      cases b with
      | nil => rfl
      | cons p rest => simpa [Fields.has, Fields.get?] using h.has_eq p.1
  | cons p rest =>
      cases b with
      | nil => simpa [Fields.has, Fields.get?] using h.has_eq p.1
      | cons q others => rfl

/-- Which fields are kept is told by their keys. -/
theorem filter (keep : String → Bool) :
    Reordered (.obj (a.filter fun p => keep p.1)) (.obj (b.filter fun p => keep p.1)) := by
  rw [reordered_obj_iff] at h ⊢
  intro key
  rw [Fields.get?_filter, Fields.get?_filter]
  cases keep key with
  | true => exact h key
  | false => rfl

theorem append {a' b' : Fields} (h' : Reordered (.obj a') (.obj b')) :
    Reordered (.obj (a ++ a')) (.obj (b ++ b')) := by
  rw [reordered_obj_iff] at h h' ⊢
  intro key
  rw [Fields.get?_append, Fields.get?_append, Option.map_or, Option.map_or, h key, h' key]

theorem index (key : Value) : Concur ((Value.obj a).index key) ((Value.obj b).index key) := by
  simp only [Value.index]
  cases key.keyText with
  | error fault => exact .fault fault
  | ok key =>
      have hkey := reordered_obj_iff.1 h key
      simp only [bind, Except.bind]
      cases ha : Fields.get? a key <;> cases hb : Fields.get? b key <;>
        simp only [ha, hb, Option.map_none, Option.map_some, reduceCtorEq] at hkey
      · exact .fault _
      · exact .answer (Option.some.inj hkey)

theorem contains_eq (key : Value) :
    (Value.obj a).contains key = (Value.obj b).contains key := by
  cases key with
  | str s => simp only [contains, h.has_eq]
  | _ => rfl

end Fields

end Reordered

end Value

namespace Body

section Payload

variable {a b : Fields} (h : Value.Reordered (.obj a) (.obj b))
include h

theorem essence_concur : Value.Concur (essence (.obj a)) (essence (.obj b)) := by
  have hmd := h.getD_get? "metadata" (.obj [])
  have hrest := (((h.filter (· != "apiVersion")).filter (· != "kind")).filter
    (· != "status")).filter (· != "metadata")
  simp only [essence, Value.toFields, bind, Except.bind]
  rcases hmd.cases_obj with ⟨md, md', ha, hb⟩ | hfault
  · rw [ha, hb] at hmd ⊢
    have hkept := hmd.filter isEssential
    simp only [Value.fieldsFor, pure, Except.pure]
    rw [hkept.isEmpty_eq]
    split
    · exact .answer hrest
    · exact .answer (hrest.append (.single "metadata" hkept))
  · obtain ⟨fault, ha, hb⟩ := hfault "items"
    rw [ha, hb]
    exact .fault fault

theorem payloadAmong_concur (keys : List Value) :
    Value.Concur (payloadAmong (.obj a) keys) (payloadAmong (.obj b) keys) := by
  induction keys with
  | nil => exact essence_concur h
  | cons key rest ih =>
      rw [payloadAmong, payloadAmong, h.contains_eq key]
      cases (Value.obj b).contains key with
      | error fault => exact .fault fault
      | ok found =>
          cases found with
          | true => exact h.index key
          | false => exact ih

/-- The comparable parts of reordered objects are reordered. -/
theorem payload_concur (keys : Value) :
    Value.Concur (payload (.obj a) keys) (payload (.obj b) keys) := by
  rw [payload, payload]
  cases keys.iterate with
  | error fault => exact .fault fault
  | ok keys => exact payloadAmong_concur h keys

/-- Both identities can be told, or neither can and for the same reason. -/
theorem identify_cases :
    (∃ i j, identify (.obj a) = .ok i ∧ identify (.obj b) = .ok j) ∨
      ∃ fault, identify (.obj a) = .error fault ∧ identify (.obj b) = .error fault := by
  rcases (h.getD_get? "metadata" (.obj [])).cases_obj with ⟨md, md', ha, hb⟩ | hfault
  · exact .inl ⟨_, _, Shaped.identify ⟨rfl, ha⟩, Shaped.identify ⟨rfl, hb⟩⟩
  · obtain ⟨fault, ha, hb⟩ := hfault "get"
    refine .inr ⟨fault, ?_, ?_⟩
    · simp only [identify, metadata, Value.field, bind, Except.bind, pure, Except.pure,
        show (Value.obj a).fieldsFor "get" = .ok a from rfl, ha]
    · simp only [identify, metadata, Value.field, bind, Except.bind, pure, Except.pure,
        show (Value.obj b).fieldsFor "get" = .ok b from rfl, hb]

end Payload

end Body

variable {σ ω α : Type}

/-- From the given world, the two steps answer or raise the same and leave the same behind,
up to the log. -/
def Step.SameButLog (x y : Step σ ω α) (w : World σ ω) : Prop :=
  ∃ log, y.run w = ((x.run w).1, { (x.run w).2 with log })

namespace Engine

section Decision

variable (engine : Engine σ) {component : Component ω}
  (hcomparable : ∀ body fields,
    component.comparable body fields = Attempt.lift (Body.payload body fields))
  {e e' o o' : Fields} (he : Value.Reordered (.obj e) (.obj e'))
  (ho : Value.Reordered (.obj o) (.obj o'))
include hcomparable he ho

theorem payloadDiffers_reordered (w : World σ ω) :
    (payloadDiffers engine component (.obj e) (.obj o)).SameButLog
      (payloadDiffers engine component (.obj e') (.obj o')) w := by
  have hexpected := Body.payload_concur he engine.settings.comparison.payloadFields
  have hobserved := Body.payload_concur ho engine.settings.comparison.payloadFields
  simp only [Step.SameButLog, payloadDiffers, hcomparable, Attempt.run_bind, Step.run_call,
    Attempt.run_lift]
  generalize Body.payload (.obj e) engine.settings.comparison.payloadFields = x,
    Body.payload (.obj e') engine.settings.comparison.payloadFields = x' at hexpected ⊢
  generalize Body.payload (.obj o) engine.settings.comparison.payloadFields = y,
    Body.payload (.obj o') engine.settings.comparison.payloadFields = y' at hobserved ⊢
  cases hexpected with
  | fault fault => exact ⟨_, rfl⟩
  | @answer a a' ha =>
      cases hobserved with
      | fault fault => exact ⟨_, rfl⟩
      | @answer b b' hb =>
          have hdiff := diff_reordered ha hb engine.settings.comparison.scope
          simp only []
          generalize diff engine.settings.comparison.scope a b = items,
            diff engine.settings.comparison.scope a' b' = items' at hdiff ⊢
          cases hdiff with
          | nil => exact ⟨_, rfl⟩
          | cons hitem hitems =>
              simp only [Attempt.run_bind, Attempt.run_liftM, Step.run_report]
              rcases Body.identify_cases he with ⟨i, j, hi, hj⟩ | ⟨fault, hi, hj⟩
              · rw [hi, hj]
                exact ⟨_, rfl⟩
              · rw [hi, hj]
                exact ⟨_, rfl⟩

theorem diverges_reordered (lifecycle : Lifecycle)
    (hdiffers : component.differs (.obj e) (.obj o) = component.differs (.obj e') (.obj o'))
    (w : World σ ω) :
    (diverges engine component ⟨.obj e, lifecycle⟩ (.obj o)).SameButLog
      (diverges engine component ⟨.obj e', lifecycle⟩ (.obj o')) w := by
  obtain ⟨log, hrun⟩ := payloadDiffers_reordered engine hcomparable he ho w
  cases lifecycle with
  | referenced => exact ⟨w.log, rfl⟩
  | managed =>
      simp only [Step.SameButLog, diverges, Tagged.isManaged, decide_true, Bool.not_true,
        Bool.false_eq_true, if_false, Attempt.run_bind, hrun]
      rcases (payloadDiffers engine component (.obj e) (.obj o)).run w with ⟨r, w'⟩
      cases r with
      | error fault => exact ⟨_, rfl⟩
      | ok differs =>
          cases differs with
          | false => exact ⟨_, rfl⟩
          | true =>
              simp only [if_true, Step.run_call, hdiffers]
              exact ⟨_, rfl⟩

end Decision

/-- If fields are reordered, at any depth, the difference keeps its items, up to the order in
what they tell; of two objects, a component that compares payloads does or does not update
the one by the other as before, as far as it agrees itself. -/
theorem divergence_unordered {a a' b b' : Value} (ha : a.Reordered a')
    (hb : b.Reordered b') :
    (∀ scope, List.Forall₂ DiffItem.Reordered (diff scope a b) (diff scope a' b')) ∧
    ∀ {σ ω : Type} (engine : Engine σ) (component : Component ω),
      (∀ body fields,
        component.comparable body fields = Attempt.lift (Body.payload body fields)) →
      (∃ fields, a = .obj fields) → (∃ fields, b = .obj fields) →
      (∀ w, (payloadDiffers engine component a b).SameButLog
        (payloadDiffers engine component a' b') w) ∧
      (component.differs a b = component.differs a' b' →
        ∀ lifecycle w, (diverges engine component ⟨a, lifecycle⟩ b).SameButLog
          (diverges engine component ⟨a', lifecycle⟩ b') w) := by
  refine ⟨diff_reordered ha hb, ?_⟩
  intro σ ω engine component hcomparable he ho
  obtain ⟨e, rfl⟩ := he
  obtain ⟨o, rfl⟩ := ho
  obtain ⟨e', rfl⟩ := ha.exists_obj
  obtain ⟨o', rfl⟩ := hb.exists_obj
  exact ⟨payloadDiffers_reordered engine hcomparable ha hb,
    fun hdiffers lifecycle => diverges_reordered engine hcomparable ha hb lifecycle hdiffers⟩

/-! A pod that is expected to expose another port than it does. -/

def exposing (port : Int) : Value :=
  .obj [("kind", .str "Pod"), ("metadata", .obj [("name", .str "p")]),
    ("spec", .obj [("node", .str "n"), ("ports", .arr [
      .obj [("name", .str "http"), ("port", .int port)]])])]

def exposingReordered (port : Int) : Value :=
  .obj [("spec", .obj [("ports", .arr [
      .obj [("port", .int port), ("name", .str "http")]]), ("node", .str "n")]),
    ("metadata", .obj [("name", .str "p")]), ("kind", .str "Pod")]

theorem pod_updated_in_any_order :
    (exposing 80).Reordered (exposingReordered 80) ∧
    (exposing 8080).Reordered (exposingReordered 8080) ∧
    List.Forall₂ DiffItem.Reordered (diff .full (exposing 80) (exposing 8080))
      (diff .full (exposingReordered 80) (exposingReordered 8080)) ∧
    ((diverges inMemory.recorded (expecting []) (.managed (exposingReordered 80))
      (exposingReordered 8080)).run (start .empty)).1 = .ok true := by
  have hexpected : (exposing 80).Reordered (exposingReordered 80) := by decide +kernel
  have hobserved : (exposing 8080).Reordered (exposingReordered 8080) := by decide +kernel
  obtain ⟨hdiff, hdecision⟩ := divergence_unordered hexpected hobserved
  obtain ⟨-, hdiverges⟩ := hdecision inMemory.recorded (expecting []) (fun _ _ => rfl)
    ⟨_, rfl⟩ ⟨_, rfl⟩
  obtain ⟨log, hrun⟩ := hdiverges rfl .managed (start .empty)
  refine ⟨hexpected, hobserved, hdiff .full, ?_⟩
  rw [show Tagged.managed (exposingReordered 80) = ⟨exposingReordered 80, .managed⟩ from rfl,
    hrun]
  rfl

end Engine

end OperatorCore
