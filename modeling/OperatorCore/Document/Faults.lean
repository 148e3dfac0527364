import OperatorCore.Document.Marked
import OperatorCore.Fault.Naming

/-!
# Faults as documents

A document of a fault has the name of its kind and what belongs to that kind. Reading one is by
recursion on the document, whose members are the documents of the faults inside. A fault that cannot
be built gives the fault of building it (`raisedFault`), since whoever was to raise the one raises
the other.

A written document has the message only if the library itself words it: the wording of faults from
below is not told. So a fault that has no message cannot be written.
-/

namespace OperatorCore.Document

/-- The class of an API error by its name. -/
def apiClass (kind : String) : ApiClass :=
  ([ApiClass.other, .client, .server, .unauthorized, .forbidden, .notFound, .conflict].find?
    fun c => c.name = kind).getD .other

/-- The fault that is no more than a status. -/
def bareFault : Fault := .of (.api .other none (.int 500))

/-- An API error; its payload must be an object, or count as none. -/
def apiFault (kind : ApiClass) (payload status : Value) : Except Fault Fault :=
  match payload with
  | .obj _ | .null => .ok (.of (.api kind (if payload.isNull then none else some payload) status))
  | other =>
    if other.truthy then .error (.misuse (.noAttribute other.typeName "get"))
    else .ok (.of (.api kind (some other) status))

mutual

/-- Reads a fault. -/
def fault (v : Value) : Except Fault Fault :=
  let message := getOr v "message" (.str "")
  match text v "kind" with
  | "RuntimeError" => .ok (.of (.runtime message))
  | "ValueError" => .ok (.refused (.stated message))
  | "ValidationError" => .ok (.of (.validation message))
  | "ReconciliationError" => .ok (.of (.reconciliation message))
  | "AggregateError" => do Fault.aggregate (← memberFaults v)
  | "ObservationError" => do
    Fault.observation (getOr v "stage" (.str "")) (getOr v "component" (.str "")) (← causeOf v)
  | "MutationError" => do
    let identity ← identity (get v "identity")
    Fault.mutation (getOr v "operation" (.str "")) identity (← causeOf v)
  | "ReferencedResourceMissing" => do
    pure (.of (.missing (← identity (get v "identity")) (getOr v "component" (.str ""))))
  | kind => apiFault (apiClass kind) (get v "payload") (getOr v "status" (.int 500))
termination_by (sizeOf v, 1)

/-- The fault that another one has come from. -/
def causeOf (v : Value) : Except Fault Fault :=
  match _h : at? v "cause" with
  | some c => fault c
  | none => .ok bareFault
termination_by (sizeOf v, 0)
decreasing_by
  have := sizeOf_at? _h
  omega

/-- The members of an aggregate. -/
def memberFaults (v : Value) : Except Fault (List Fault) :=
  match get v "errors" with
  | .arr _ => (list v "errors").attach.mapM fun ⟨e, _h⟩ => fault e
  | other => do
    let _ ← other.iterate
    pure []
termination_by (sizeOf v, 0)
decreasing_by
  have := sizeOf_list _h
  omega

end

/-- What is raised by whoever is to raise a fault. -/
def raisedFault (v : Value) : Fault :=
  match fault v with
  | .ok f => f
  | .error f => f

/-- A fault that may be absent; null stands for none. -/
def fault? (v : Value) : Except Fault (Option Fault) :=
  match v with
  | .null => .ok none
  | v => do pure (some (← fault v))

/-- The library words the message of a reason itself. -/
def isWorded : Reason Fault → Bool
  | .misuse _ | .timeout | .brokenJson | .contentType | .badStatus | .badTimestamp | .badBase64
  | .undecodable | .unencodable | .tooDeep | .noSuchFile | .noKey _ | .outOfRange
  | .beyondClocks | .noPosition => false
  | _ => true

/-- The name of a reason, its message if the library words it, and what else there is to tell. -/
def worded (reason : Reason Fault) (more : Fields) : Except Fault Fields := do
  let message ←
    if isWorded reason then do pure [("message", Value.str (← reason.message))] else pure []
  pure ([("error", .str reason.name)] ++ message ++ more)

mutual

/-- The fields of a fault's document. -/
def faultFields : Fault → Except Fault Fields
  | ⟨reason, none⟩ => reasonFields reason
  | ⟨reason, some cause⟩ => do
    let fields ← reasonFields reason
    pure (fields ++ [("cause", .obj (← faultFields cause))])

def reasonFields : Reason Fault → Except Fault Fields
  | .aggregate members => do
    worded (.aggregate members) [("errors", .arr (← faultItems members))]
  | .observation stage component detail =>
    worded (.observation stage component detail)
      [("stage", shown stage), ("component", shown component)]
  | .mutation operation identity detail =>
    worded (.mutation operation identity detail)
      [("operation", shown operation), ("identity", .str identity.text)]
  | .missing identity component =>
    worded (.missing identity component)
      [("component", shown component), ("identity", .str identity.text)]
  | .api kind payload status =>
    worded (.api kind payload status)
      [("status", shown status), ("code", shown (payloadField payload "code")),
        ("api_message", shown (payloadField payload "message")),
        ("details", shown (payloadField payload "details"))]
  | reason => worded reason []

def faultItems : List Fault → Except Fault (List Value)
  | [] => .ok []
  | f :: rest => do
    let fields ← faultFields f
    pure (.obj fields :: (← faultItems rest))

end

/-- Writes a fault. -/
def ofFault (f : Fault) : Except Fault Value := do pure (.obj (← faultFields f))

/-- Writes a fault by the name of its kind alone, if it has no message. -/
def named (f : Fault) : Value :=
  match ofFault f with
  | .ok v => v
  | .error g => .obj [("error", .str g.name)]

def ofFault? : Option Fault → Except Fault Value
  | some f => ofFault f
  | none => .ok .null

/-- An outcome: what was answered, or the fault. -/
def answered : Except Fault Value → Except Fault Value
  | .ok v => .ok v
  | .error f => ofFault f

/-- The fault of an outcome; null if there is none. -/
def raised {α : Type} : Except Fault α → Except Fault Value
  | .ok _ => .ok .null
  | .error f => ofFault f

/-- What an outcome answers; null after a fault. -/
def result : Except Fault Value → Value
  | .ok v => v
  | .error _ => .null

end OperatorCore.Document
