import OperatorCore.Api.ResourceKind

/-!
# Schemes

The kinds of resources that an application works with, by the API version and the kind that the
bodies have. A scheme is passed on explicitly; there is no other registry.
-/

namespace OperatorCore

/-- Registered kinds, in the order of their first registration. -/
structure Scheme where
  kinds : List ResourceKind
deriving DecidableEq

namespace Scheme

def empty : Scheme := ⟨[]⟩

/-- Two kinds have the same place in a scheme. -/
def sameKey (r s : ResourceKind) : Bool := r.apiVersion = s.apiVersion && r.kind = s.kind

def place (r : ResourceKind) : List ResourceKind → List ResourceKind
  | [] => [r]
  | s :: rest => if sameKey s r then r :: rest else s :: place r rest

/-- Adds kinds; each takes the place of the one with the same API version and kind. -/
def register (scheme : Scheme) (new : List ResourceKind) : Scheme :=
  ⟨new.foldl (fun kinds r => place r kinds) scheme.kinds⟩

/-- The kind of an API version and a name. -/
def find? (scheme : Scheme) (apiVersion kind : Value) : Option ResourceKind :=
  scheme.kinds.find? fun r =>
    (Value.str r.apiVersion).equal apiVersion && (Value.str r.kind).equal kind

/-- The kind of an API version and a name; an unknown one is a fault. -/
def lookup (scheme : Scheme) (apiVersion kind : Value) : Except Fault ResourceKind :=
  match [apiVersion, kind].find? fun v => v matches .arr _ | .obj _ with
  | some v => .error (.misuse (.unhashable v.typeName))
  | none =>
    match scheme.find? apiVersion kind with
    | some r => .ok r
    | none => .error (.of (.unregisteredKind kind apiVersion))

/-- A key is that of a kind; a key is made of the items of a value. -/
def contains (scheme : Scheme) (key : Value) : Except Fault Bool := do
  let parts ← key.iterate
  match parts.find? fun v => v matches .arr _ | .obj _ with
  | some v => .error (.misuse (.unhashable v.typeName))
  | none => match parts with
    | [apiVersion, kind] => pure (scheme.find? apiVersion kind).isSome
    | _ => pure false

/-- The kind of a body. -/
def kindOf (scheme : Scheme) (body : Value) : Except Fault ResourceKind := do
  let fields ← body.fieldsFor "get"
  scheme.lookup ((Fields.get? fields "apiVersion").getD (.str ""))
    ((Fields.get? fields "kind").getD (.str ""))

def literal (scheme : Scheme) : String :=
  "Scheme([" ++ ", ".intercalate (scheme.kinds.map ResourceKind.literal) ++ "])"

def core (group version plural kind : String) (subresources : List String) : ResourceKind :=
  { group, version, plural, kind, namespaced := true, subresources }

/-- The kinds that every server has. -/
def builtin : List ResourceKind :=
  [core "" "v1" "pods" "Pod" ["status"],
    core "" "v1" "services" "Service" ["status"],
    core "" "v1" "configmaps" "ConfigMap" [],
    core "" "v1" "secrets" "Secret" [],
    core "" "v1" "serviceaccounts" "ServiceAccount" [],
    core "" "v1" "persistentvolumeclaims" "PersistentVolumeClaim" ["status"],
    { core "" "v1" "namespaces" "Namespace" ["status"] with namespaced := false },
    core "apps" "v1" "deployments" "Deployment" ["status", "scale"],
    core "apps" "v1" "statefulsets" "StatefulSet" ["status", "scale"],
    core "apps" "v1" "daemonsets" "DaemonSet" ["status"],
    core "batch" "v1" "jobs" "Job" ["status"],
    core "policy" "v1" "poddisruptionbudgets" "PodDisruptionBudget" ["status"],
    core "networking.k8s.io" "v1" "ingresses" "Ingress" ["status"],
    core "rbac.authorization.k8s.io" "v1" "roles" "Role" [],
    core "rbac.authorization.k8s.io" "v1" "rolebindings" "RoleBinding" []]

end Scheme

end OperatorCore
