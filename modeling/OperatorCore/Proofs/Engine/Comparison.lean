import OperatorCore.Proofs.Engine.Plan
import OperatorCore.Proofs.Object.Essence

/-!
# What makes an object without a payload diverge

An object with neither a spec nor data is compared by its essence. The difference of two
essences is the same for all objects that have equal ones, so what identifies an object, what
the server has assigned to it, and its status have no part in the decision: they show in the
log alone, where the object is named.
-/

namespace OperatorCore

variable {σ ω : Type}

namespace Engine

/-- The comparison of two objects with payloads answers whether these differ, and changes
nothing but the log. -/
theorem run_payloadDiffers (engine : Engine σ) {component : Component ω}
    (hcomparable : ∀ body fields,
      component.comparable body fields = Attempt.lift (Body.payload body fields))
    {a o x y : Value} (ha : Body.Identified a)
    (hx : Body.payload a engine.settings.comparison.payloadFields = .ok x)
    (hy : Body.payload o engine.settings.comparison.payloadFields = .ok y)
    (w : World σ ω) :
    ∃ log, (payloadDiffers engine component a o).run w =
      (.ok !(diff engine.settings.comparison.scope x y).isEmpty, { w with log }) := by
  simp only [payloadDiffers, hcomparable, hx, hy, Attempt.run_bind, Step.run_call,
    Attempt.run_lift]
  cases diff engine.settings.comparison.scope x y with
  | nil => exact ⟨w.log, rfl⟩
  | cons item rest =>
      simp only [Attempt.run_bind, Attempt.run_liftM, ha.identify, Step.run_report]
      exact ⟨_, rfl⟩

theorem isEmpty_diff_of_equal {a a' b b' : Value} (ha : a.equal a' = true)
    (hb : b.equal b' = true) (scope : Scope) :
    (diff scope a b).isEmpty = (diff scope a' b').isEmpty := by
  have hsame := diff_same_of_equal ha hb scope
  generalize diff scope a b = items, diff scope a' b' = items' at hsame
  cases hsame <;> rfl

/-- Two essences are equal just when the objects agree in all that is desired of them, and an
essence is its own. If two objects have neither a spec nor data, a component that compares
payloads finds that they differ just when their essences do, and finds the same of all
objects that agree with them in what is desired. -/
theorem essence_tells_desired {a a' : Value} {top md top' md' : Fields}
    (ha : Body.Shaped a top md) (ha' : Body.Shaped a' top' md') :
    ∃ e e', Body.essence a = .ok e ∧ Body.essence a' = .ok e' ∧
      (e.equal e' = true ↔ Body.Akin top md top' md') ∧ Body.essence e = .ok e ∧
      ∀ {σ ω : Type} (engine : Engine σ) (component : Component ω),
        (∀ body fields,
          component.comparable body fields = Attempt.lift (Body.payload body fields)) →
        engine.settings.comparison.payloadFields = Body.defaultPayloadFields →
        ∀ {o o' : Value} {otop omd otop' omd' : Fields},
          Body.Shaped o otop omd → Body.Shaped o' otop' omd' →
          (∀ key ∈ ["spec", "data"], Fields.has top key = false ∧ Fields.has otop key = false) →
          Body.Akin top md top' md' → Body.Akin otop omd otop' omd' →
          ∃ eo, Body.essence o = .ok eo ∧ ∀ w, ∃ log log',
            (payloadDiffers engine component a o).run w =
              (.ok !(diff engine.settings.comparison.scope e eo).isEmpty, { w with log }) ∧
            (payloadDiffers engine component a' o').run w =
              (.ok !(diff engine.settings.comparison.scope e eo).isEmpty,
                { w with log := log' }) := by
  refine ⟨_, _, ha.essence_eq, ha'.essence_eq, Body.essential_equal_iff, ?_, ?_⟩
  · rw [(Body.shaped_essential top md).essence_eq, Body.essential_essential]
  · intro σ ω engine component hcomparable hfields o o' otop omd otop' omd' ho ho' hbare
      hakin hakin'
    have hbare' : ∀ key ∈ ["spec", "data"],
        Fields.has top' key = false ∧ Fields.has otop' key = false := by
      intro key hkey
      have hdesired : ∀ key ∈ ["spec", "data"], key ∉ Body.inessentialFields := by decide
      rw [← hakin.has_eq (hdesired key hkey), ← hakin'.has_eq (hdesired key hkey)]
      exact hbare key hkey
    refine ⟨_, ho.essence_eq, ?_⟩
    intro w
    obtain ⟨log, hrun⟩ := run_payloadDiffers engine hcomparable ha.identified
      (hfields ▸ ha.payload_eq fun key hkey => (hbare key hkey).1)
      (hfields ▸ ho.payload_eq fun key hkey => (hbare key hkey).2) w
    obtain ⟨log', hrun'⟩ := run_payloadDiffers engine hcomparable ha'.identified
      (hfields ▸ ha'.payload_eq fun key hkey => (hbare' key hkey).1)
      (hfields ▸ ho'.payload_eq fun key hkey => (hbare' key hkey).2) w
    refine ⟨log, log', hrun, ?_⟩
    rw [hrun', isEmpty_diff_of_equal (Body.essential_equal_iff.2 hakin)
      (Body.essential_equal_iff.2 hakin')]

/-! A role that is expected with other rules than it has, without and with what a server adds
to it. -/

def roleFields (metadata : Fields) (verb : String) : Fields :=
  [("kind", .str "Role"), ("metadata", .obj metadata),
    ("rules", .arr [.obj [("verbs", .arr [.str verb])]])]

def servedRoleFields (metadata : Fields) (verb : String) : Fields :=
  ("apiVersion", .str "v1") :: ("status", .obj [("phase", .str "Active")]) ::
    roleFields metadata verb

theorem role_diverges_by_rules :
    let md : Fields := [("name", .str "r"), ("labels", .obj [("a", .str "1")])]
    let md' : Fields := [("uid", .str "u"), ("labels", .obj [("a", .str "1")])]
    Body.Akin (roleFields md "get") md (servedRoleFields md' "get") md' ∧
    Body.Akin (roleFields md "list") md (servedRoleFields md' "list") md' ∧
    ∃ log log',
      (payloadDiffers inMemory.recorded (expecting []) (.obj (roleFields md "get"))
        (.obj (roleFields md "list"))).run (start .empty) =
          (.ok true, { start .empty with log }) ∧
      (payloadDiffers inMemory.recorded (expecting []) (.obj (servedRoleFields md' "get"))
        (.obj (servedRoleFields md' "list"))).run (start .empty) =
          (.ok true, { start .empty with log := log' }) := by
  intro md md'
  have hakin : ∀ verb ∈ ["get", "list"],
      Body.Akin (roleFields md verb) md (servedRoleFields md' verb) md' := by
    intro verb hverb
    refine Body.essential_equal_iff.1 ?_
    revert verb
    decide +kernel
  have hshaped : ∀ verb, Body.Shaped (.obj (roleFields md verb)) (roleFields md verb) md :=
    fun _ => ⟨rfl, rfl⟩
  have hserved : ∀ verb,
      Body.Shaped (.obj (servedRoleFields md' verb)) (servedRoleFields md' verb) md' :=
    fun _ => ⟨rfl, rfl⟩
  have hdiffer : (diff inMemory.recorded.settings.comparison.scope
      (.obj (Body.essential (roleFields md "get") md))
      (.obj (Body.essential (roleFields md "list") md))).isEmpty = false := by decide +kernel
  obtain ⟨e, e', he, -, -, -, hdecided⟩ :=
    essence_tells_desired (hshaped "get") (hserved "get")
  obtain ⟨eo, heo, hruns⟩ := hdecided inMemory.recorded (expecting []) (fun _ _ => rfl) rfl
    (hshaped "list") (hserved "list") (by decide +kernel) (hakin "get" (by decide))
    (hakin "list" (by decide))
  rw [(hshaped "get").essence_eq] at he
  rw [(hshaped "list").essence_eq] at heo
  cases he
  cases heo
  obtain ⟨log, log', hrun, hrun'⟩ := hruns (start .empty)
  rw [hdiffer] at hrun hrun'
  exact ⟨hakin "get" (by decide), hakin "list" (by decide), log, log', hrun, hrun'⟩

end Engine

end OperatorCore
