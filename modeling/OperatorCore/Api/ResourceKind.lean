import OperatorCore.Value.Access
import OperatorCore.Text.FormEncoded

/-!
# Kinds of resources and their URLs

The API addresses an object by the group, the version and the plural name of its kind, by its
namespace if the kind has namespaces, and by its name. Without a name, the URL is that of a list.
Whatever part is absent or empty is left out of the URL.
-/

namespace OperatorCore

/-- A kind of resources as the API knows it. -/
structure ResourceKind where
  group : String
  version : String
  plural : String
  kind : String
  namespaced : Bool
  subresources : List String
deriving DecidableEq, Inhabited

namespace ResourceKind

/-- Group and version as they are written in the bodies. -/
def apiVersion (r : ResourceKind) : String :=
  if r.group = "" then r.version else s!"{r.group}/{r.version}"

/-- The dotted name of a kind. -/
def literal (r : ResourceKind) : String :=
  Text.trimStart '.' (Text.trimEnd '.' s!"{r.plural}.{r.version}.{r.group}")

/-- Two kinds have the same endpoint. -/
def same (r s : ResourceKind) : Bool :=
  r.group = s.group && r.version = s.version && r.plural = s.plural

/-- The parts of the path, some of them absent or empty. -/
def parts (r : ResourceKind) (ns name subresource : Value) : List Value :=
  let inNamespace := r.namespaced && ns.truthy
  [.str (if r.group = "" && r.version = "v1" then "/api" else "/apis"),
    .str r.group,
    .str r.version,
    if inNamespace then .str "namespaces" else .null,
    if inNamespace then ns else .null,
    .str r.plural,
    name,
    subresource]

/-- The parts as texts; all of them must be texts. -/
def partTexts (position : Nat) : List Value → Except Fault (List String)
  | [] => .ok []
  | .str s :: rest => do pure (s :: (← partTexts (position + 1) rest))
  | v :: _ => .error (.misuse (.notText position v.typeName))

/-- A subresource needs a name, and the name of an object in a namespace needs the namespace. -/
def checkTarget (r : ResourceKind) (ns name subresource : Value) : Except Fault Unit := do
  if !subresource.isNull && name.isNull then .error (.refused .subresourceWithoutName)
  if r.namespaced && ns.isNull && !name.isNull then .error (.refused .namespaceRequired)

/-- The parts of the path that are there, between slashes. -/
def joined (r : ResourceKind) (ns name subresource : Value) : Except Fault String := do
  let texts ← partTexts 0 ((r.parts ns name subresource).filter Value.truthy)
  pure ("/".intercalate texts)

/-- The path of a list, an object, or a subresource of an object; a null part is absent. -/
def path (r : ResourceKind) (ns name subresource : Value) : Except Fault String := do
  r.checkTarget ns name subresource
  r.joined ns name subresource

/-- A path on a server, which must be a text. -/
def onServer (server : Value) (path : String) : Except Fault String :=
  match server with
  | .str server => .ok (Text.trimEnd '/' server ++ "/" ++ Text.trimStart '/' path)
  | other => .error (.misuse (.noAttribute other.typeName "rstrip"))

/-- The query with some parameters, which are the fields of an object; empty if there are none. -/
def query (params : Value) : Except Fault String :=
  match params with
  | .obj fields =>
    let query := Text.query fields
    .ok (if query = "" then "" else "?" ++ query)
  | other =>
    let refused : Fault :=
      .misuse (.argument "not a valid non-string sequence or mapping object")
    if other.truthy then .error (refused.because refused) else .ok ""

/-- A path with query parameters, on a server unless that is null. -/
def url (r : ResourceKind) (server ns name subresource params : Value) : Except Fault String := do
  r.checkTarget ns name subresource
  let query ← query params
  let path ← r.joined ns name subresource
  if server.isNull then pure (path ++ query) else onServer server (path ++ query)

end ResourceKind

/-- The namespace and the name of an object of a known kind. -/
structure NamespacedName where
  ns : Value
  name : Value
deriving DecidableEq

/-- The text of a name: with its namespace, or else the name itself, which must be a text. -/
def NamespacedName.text (n : NamespacedName) : Except Fault String :=
  if n.ns.truthy then .ok s!"{n.ns.text}/{n.name.text}"
  else match n.name with
    | .str name => .ok name
    | other => .error (.misuse (.noMessage other.typeName))

end OperatorCore
