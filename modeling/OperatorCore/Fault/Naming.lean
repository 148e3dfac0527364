import OperatorCore.Fault.Basic

/-!
# The names of faults

Every fault is of a named kind, and the kinds form a hierarchy: handling a kind handles all kinds
below it. The names are a part of the output: answers and retry logs spell them.
-/

namespace OperatorCore

/-- The name of a kind of API errors. -/
def ApiClass.name : ApiClass → String
  | .other => "APIError"
  | .client => "APIClientError"
  | .server => "APIServerError"
  | .unauthorized => "APIUnauthorizedError"
  | .forbidden => "APIForbiddenError"
  | .notFound => "APINotFoundError"
  | .conflict => "APIConflictError"

/-- The kinds above a kind of API errors. -/
def ApiClass.above : ApiClass → List String
  | .other => []
  | .client | .server => ["APIError"]
  | .unauthorized | .forbidden | .notFound | .conflict => ["APIClientError", "APIError"]

/-- The name of the kind of a fault. -/
def Reason.name {φ : Type} : Reason φ → String
  | .runtime _ => "RuntimeError"
  | .refused _ => "ValueError"
  | .misuse m => if m.isMissingAttribute then "AttributeError" else "TypeError"
  | .notImplemented => "NotImplementedError"
  | .connection _ => "ClientConnectionError"
  | .timeout => "TimeoutError"
  | .brokenJson => "JSONDecodeError"
  | .contentType => "ContentTypeError"
  | .badStatus => "ClientResponseError"
  | .badTimestamp => "ParseError"
  | .badBase64 => "binascii.Error"
  | .undecodable => "UnicodeDecodeError"
  | .unencodable => "UnicodeEncodeError"
  | .tooDeep => "RecursionError"
  | .noSuchFile => "FileNotFoundError"
  | .noKey _ => "KeyError"
  | .noPosition => "IndexError"
  | .outOfRange => "OverflowError"
  | .beyondClocks => "OSError"
  | .unregisteredKind .. => "UnregisteredKindError"
  | .reconciliation _ => "ReconciliationError"
  | .validation _ => "ValidationError"
  | .observation .. => "ObservationError"
  | .missing .. => "ReferencedResourceMissing"
  | .mutation .. => "MutationError"
  | .aggregate _ => "AggregateError"
  | .api kind _ _ => kind.name

/-- The kinds above the kind of a fault, up to the most general one. -/
def Reason.above {φ : Type} : Reason φ → List String
  | .validation _ | .observation .. | .missing .. | .mutation .. | .aggregate _ =>
    ["ReconciliationError", "Exception"]
  | .api kind _ _ => kind.above ++ ["Exception"]
  | .notImplemented | .tooDeep => ["RuntimeError", "Exception"]
  | .unregisteredKind .. | .noKey _ | .noPosition => ["LookupError", "Exception"]
  | .outOfRange => ["ArithmeticError", "Exception"]
  | _ => ["Exception"]

namespace Fault

def name (fault : Fault) : String := fault.reason.name

/-- The kind of a fault and the kinds above it. -/
def lineage (fault : Fault) : List String := fault.name :: fault.reason.above

/-- What a fault was made of, as the retry logs show it. -/
def ingredients (fault : Fault) : List Value :=
  match fault.reason with
  | .api _ payload _ => [payloadField payload "message", payload.getD .null]
  | .timeout => []
  | .runtime message | .connection message | .reconciliation message | .validation message
  | .refused (.stated message) => [message]
  | _ => match fault.message with
    | .ok message => [.str message]
    | .error _ => []

/-- The text of a fault with its kind, as the retry logs show it. -/
def literal (fault : Fault) : String :=
  s!"{fault.name}(" ++ ", ".intercalate (fault.ingredients.map Value.literal) ++ ")"

end Fault

end OperatorCore
