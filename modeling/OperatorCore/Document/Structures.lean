import OperatorCore.Api.Credentials
import OperatorCore.Api.Request
import OperatorCore.Api.Scheme
import OperatorCore.Document.Faults
import OperatorCore.Log.Line
import OperatorCore.Object.Bag
import OperatorCore.Object.Observable
import OperatorCore.Time.Timestamp

/-!
# Structures as documents

The documents of tagged objects, lookups, kinds of resources, differences, requests and log lines.
An identity is written as its text, and so is a log line.
-/

namespace OperatorCore.Document

def lifecycle (v : Value) : Except Fault Lifecycle :=
  Lifecycle.ofValue (getOr v "lifecycle" (.str "managed"))

def tagged (v : Value) : Except Fault Tagged := do
  let object ← if (asFields v).isEmpty then v.index (.str "obj") else pure (get v "obj")
  let lifecycle ← lifecycle v
  pure ⟨object, lifecycle⟩

/-- The tagged objects of a list. -/
def bag (v : Value) : Except Fault Bag := do (← v.iterate).mapM tagged

/-- The tagged objects of a list that may be absent. -/
def bagOf (v : Value) (key : String) : Except Fault Bag := bag (getOr v key (.arr []))

def observable (v : Value) : Except Fault Observable := do
  Signature.check ⟨"Observable", ["api_version", "kind"], ["namespace", "name", "labels"]⟩ v
  Observable.ofParts (get v "api_version") (get v "kind") (get v "namespace") (get v "name")
    (get v "labels")

/-- A lookup by labels; they are copied, so they have to be those of an object. -/
def selectorLookup (v : Value) : Except Fault Observable := do
  Signature.check ⟨"for_selector", ["api_version", "kind", "labels"], ["namespace"]⟩ v
  let labels ← (get v "labels").toFields
  pure (Observable.forSelector (get v "api_version") (get v "kind") labels (get v "namespace"))

def kind (v : Value) : ResourceKind :=
  { group := text v "group", version := text v "version", plural := text v "plural"
    kind := text v "kind"
    namespaced := (getOr v "namespaced" (.bool true)).truthy
    subresources := texts (get v "subresources") }

def scope : Value → Scope
  | .str "LEFT" => .leftOnly
  | .str "RIGHT" => .rightOnly
  | .str "NONE" => .common
  | _ => .full

/-- A certificate or a key: a text or octets, as a rule. -/
def pem (v : Value) : PemData :=
  match v with
  | .str s => .text s
  | v => match bytes? v with
    | some codes => .octets codes
    | none => .other v

/-- A certificate or a key that may be absent. -/
def pem? (v : Value) : Option PemData := if v.isNull then none else some (pem v)

/-- The names of what a connection is given besides its server. -/
def connectionParts : List String :=
  ["token", "username", "password", "ca_path", "ca_data", "client_cert_data", "client_key_data",
    "verify_tls"]

/-- A connection to a server that is given as well, or else that nobody asks for. -/
def connection (withServer : Bool) (v : Value) : Except Fault ConnectionInfo := do
  Signature.check
    ⟨"ConnectionInfo", if withServer then ["server"] else [], connectionParts⟩ v
  pure
    { server := get v "server", token := get v "token", username := get v "username"
      password := get v "password", caPath := get v "ca_path", caData := pem? (get v "ca_data")
      clientCertificate := pem? (get v "client_cert_data")
      clientKey := pem? (get v "client_key_data")
      verifyTls := (getOr v "verify_tls" (.bool true)).truthy }

/-! ## Writing -/

def ofIdentity (i : Identity) : Value := .str i.text

def ofIdentities (identities : List Identity) : Value := .arr (identities.map ofIdentity)

def ofTagged (item : Tagged) : Value :=
  .obj [("obj", shown item.object), ("lifecycle", .str item.lifecycle.text)]

def ofBag (items : Bag) : Value := .arr (items.map ofTagged)

def observableFields (o : Observable) : Except Fault Fields := do
  pure [("api_version", shown o.apiVersion), ("kind", shown o.kind), ("namespace", shown o.ns),
    ("name", shown o.name), ("labels", shown o.labels), ("is_point", .bool o.isPoint),
    ("str", .str (← o.text))]

/-- The fields of a kind's document, with the subresources in order. -/
def kindFields (r : ResourceKind) : Fields :=
  [("group", .str r.group), ("version", .str r.version), ("plural", .str r.plural),
    ("kind", .str r.kind), ("namespaced", .bool r.namespaced),
    ("subresources", strings ((Sorted.ofPairs (r.subresources.map fun s => (s, ()))).map Prod.fst)),
    ("api_version", .str r.apiVersion), ("repr", .str r.literal)]

def ofKind (r : ResourceKind) : Value := .obj (kindFields r)

def ofScope (s : Scope) : Value :=
  match s.left, s.right with
  | true, true => .str "FULL"
  | true, false => .str "LEFT"
  | false, true => .str "RIGHT"
  | false, false => .str "NONE"

def ofDiffItem (item : DiffItem) : Value :=
  .obj [("op", .str item.op.text), ("path", strings item.path), ("old", shown item.old),
    ("new", shown item.new), ("text", .str item.text)]

def ofRequest (r : Request) : Value :=
  .obj [("method", .str r.method), ("url", .str r.url), ("payload", shown r.payload),
    ("headers", shown r.headers), ("params", shown r.params),
    ("timeout", .arr [shown r.totalTimeout, shown r.connectTimeout])]

def ofCall (operation : Operation) (i : Identity) : Value :=
  .arr [.str operation.text, ofIdentity i]

def ofLines (lines : List Line) : Value := .arr (lines.map fun line => .str line.text)

/-- The lines of some notices of one source, or of none. -/
def ofNotices (source : Option Source) (notices : List Notice) : Value :=
  ofLines (notices.map fun n => ⟨source, n⟩)

def ofTime? : Option CivilTime → Value
  | some t => .str t.text
  | none => .null

end OperatorCore.Document
