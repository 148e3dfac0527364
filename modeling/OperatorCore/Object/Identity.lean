import OperatorCore.Value.Equality
import OperatorCore.Value.Literal

/-!
# The identity of an object

An object is known by its namespace, kind and name, unique within one store. An object that belongs
to no namespace has an empty one, so that identities can always be compared and printed. The three
parts are read from bodies that nothing has checked, hence they are values; they are compared as
values are, by the data they stand for.
-/

namespace OperatorCore

/-- Namespace, kind and name. -/
structure Identity where
  ns : Value
  kind : Value
  name : Value
deriving DecidableEq, Inhabited

namespace Identity

/-- The identity with three texts as its parts. -/
def ofTexts (ns kind name : String) : Identity := ⟨.str ns, .str kind, .str name⟩

/-- `namespace/kind/name`. -/
def text (i : Identity) : String := i.ns.text ++ "/" ++ i.kind.text ++ "/" ++ i.name.text

/-- Two identities stand for the same object. -/
def same (i j : Identity) : Bool :=
  i.ns.equal j.ns && i.kind.equal j.kind && i.name.equal j.name

@[simp] theorem same_refl (i : Identity) : i.same i = true := by simp [same]

theorem same_symm {i j : Identity} (h : i.same j = true) : j.same i = true := by
  simp only [same, Bool.and_eq_true] at h ⊢
  exact ⟨⟨Value.equal_symm h.1.1, Value.equal_symm h.1.2⟩, Value.equal_symm h.2⟩

theorem same_trans {i j k : Identity} (h : i.same j = true) (h' : j.same k = true) :
    i.same k = true := by
  simp only [same, Bool.and_eq_true] at h h' ⊢
  exact ⟨⟨Value.equal_trans h.1.1 h'.1.1, Value.equal_trans h.1.2 h'.1.2⟩,
    Value.equal_trans h.2 h'.2⟩

end Identity

end OperatorCore
