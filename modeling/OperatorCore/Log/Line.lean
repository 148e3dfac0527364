import OperatorCore.Log.Notice

/-!
# Log lines

A line is a notice together with its source: the object that it is about, and possibly the component
of that object. The source is written in front of the text, as `[namespace/name](component)`.
Notices of the API client have no source.
-/

namespace OperatorCore

/-- The object, and possibly the component, that a notice is about. -/
structure Source where
  reference : Fields
  component : Value
deriving DecidableEq

namespace Source

/-- The mark in front of a text: the namespace if there is one, the name, and the component. -/
def tag (source : Source) : String :=
  let ns := (Fields.get? source.reference "namespace").getD (.str "")
  let name := (Fields.get? source.reference "name").getD (.str "")
  let place := if ns.truthy then s!"[{ns.text}/{name.text}]" else s!"[{name.text}]"
  if source.component.truthy then s!"{place}({source.component.text})" else place

/-- The source with the known parts of a name. -/
def ofName (apiVersion kind ns name : Value) : Source :=
  ⟨Body.telling [("apiVersion", apiVersion), ("kind", kind), ("name", name), ("namespace", ns)],
    .null⟩

/-- The source that a body is the object of. -/
def ofBody (body : Value) : Except Fault Source := do
  pure ⟨← Body.objectReference body, .null⟩

def forComponent (source : Source) (name : Value) : Source := { source with component := name }

end Source

/-- A notice and where it comes from. -/
structure Line where
  source : Option Source
  notice : Notice
deriving DecidableEq

namespace Line

def text (line : Line) : String :=
  let place := match line.source with
    | some source => source.tag ++ " "
    | none => ""
  s!"{line.notice.level.name} {place}{line.notice.text}"

end Line

end OperatorCore
