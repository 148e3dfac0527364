import OperatorCore.Object.Identity

/-!
# Faults

Whatever can go wrong is one type. A fault has a reason, which says what has happened and from which
its message follows, and possibly a cause, which is the fault that it has come from.

A fault need not have a message: the API may answer with an error whose message is no text. To ask
for it is a fault of its own then. So a fault that tells the message of another one can only be
built from one that has a message (`Fault.observation`, `Fault.mutation`, `Fault.aggregate`).

Aggregates collect the faults of many objects into one. They are built by `Fault.aggregate` alone,
which takes the members of the aggregates among its arguments instead of these, so that no aggregate
has an aggregate as a member.
-/

namespace OperatorCore

/-- What a value was asked for although values of its type cannot do it. Types are given by their
names. -/
inductive Misuse where
  | noAttribute (holder member : String)
  | notIterable (holder : String)
  | noMembership (holder : String)
  | noItemAssignment (holder : String)
  | notSubscriptable (holder : String)
  /-- A position in a list that is no integer. -/
  | badPosition (found : String)
  /-- A position in a text that is no integer. -/
  | badTextPosition (found : String)
  | unhashable (holder : String)
  /-- A comparison of values that have no order, by its symbol. -/
  | notOrdered (symbol left right : String)
  | notText (position : Nat) (found : String)
  | noTextMembership (found : String)
  /-- A fault whose message is no text. -/
  | noMessage (found : String)
  | fixedPool
  /-- A template or its arguments do not fit together. -/
  | formatting (text : String)
  | argument (text : String)
deriving DecidableEq

namespace Misuse

/-- A missing attribute is told apart from all other misuses of types. -/
def isMissingAttribute : Misuse → Bool
  | .noAttribute .. => true
  | _ => false

def text : Misuse → String
  | .noAttribute holder member => s!"'{holder}' object has no attribute '{member}'"
  | .notIterable holder => s!"'{holder}' object is not iterable"
  | .noMembership holder => s!"argument of type '{holder}' is not iterable"
  | .noItemAssignment holder => s!"'{holder}' object does not support item assignment"
  | .notSubscriptable holder => s!"'{holder}' object is not subscriptable"
  | .badPosition found => s!"list indices must be integers or slices, not {found}"
  | .badTextPosition found => s!"string indices must be integers, not '{found}'"
  | .unhashable holder => s!"unhashable type: '{holder}'"
  | .notOrdered symbol left right =>
    s!"'{symbol}' not supported between instances of '{left}' and '{right}'"
  | .notText position found => s!"sequence item {position}: expected str instance, {found} found"
  | .noTextMembership found => s!"'in <string>' requires string as left operand, not {found}"
  | .noMessage found => s!"__str__ returned non-string (type {found})"
  | .fixedPool => "Current executor does not support `max_workers`."
  | .formatting text => text
  | .argument text => text

end Misuse

/-- Why an argument was refused. -/
inductive Refusal where
  | noTarget
  | twoTargets
  | subresourceWithoutName
  | namespaceRequired
  | tooFewWorkers
  | unknownLifecycle (found : Value)
  | unsupportedFormat (found : Value)
  | invalidFormat (format : String)
  | unknownFormatField (name : String)
  | incompleteTemplate
  | incompleteKey
  | unknownConversion (letter : Char) (position : Nat)
  | tooWide
  | tooPrecise
  | undefinedInteger
  | colonInLogin
  | nonAsciiText
  /-- An item of a list of pairs that is none. -/
  | notPair (position length : Nat)
  /-- A time in a year that the calendar does not have. -/
  | noSuchYear (year : Int)
  | stated (message : Value)
deriving DecidableEq

def Refusal.text : Refusal → String
  | .noTarget => "An observable needs either a name or labels, got neither."
  | .twoTargets => "An observable needs either a name or labels, got both."
  | .subresourceWithoutName =>
    "Subresources can be used only with specific resources by their name."
  | .namespaceRequired =>
    "Specific namespaces are required for specific namespaced resources."
  | .tooFewWorkers => "Can't set thread pool limit lower than 1."
  | .unknownLifecycle found => found.literal ++ " is not a valid Lifecycle"
  | .unsupportedFormat found => "Unsupported log format: " ++ found.literal
  | .invalidFormat format => s!"Invalid format '{format}' for '%' style"
  | .unknownFormatField name =>
    "Formatting field not found in record: " ++ Text.quoted name
  | .incompleteTemplate => "incomplete format"
  | .incompleteKey => "incomplete format key"
  | .unknownConversion letter position =>
    let shown := if 31 ≤ letter.toNat && letter.toNat ≤ 126 then letter else '?'
    let code := String.ofList (Nat.toDigits 16 letter.toNat)
    s!"unsupported format character '{shown}' (0x{code}) at index {position}"
  | .tooWide => "width too big"
  | .tooPrecise => "precision too big"
  | .undefinedInteger => "cannot convert float NaN to integer"
  | .colonInLogin => "A \":\" is not allowed in login (RFC 1945#section-11.1)"
  | .nonAsciiText => "string argument should contain only ASCII characters"
  | .notPair position length =>
    s!"dictionary update sequence element #{position} has length {length}; 2 is required"
  | .noSuchYear year => s!"year {year} is out of range"
  | .stated message => message.text

/-- The kinds of API errors that are told apart. -/
inductive ApiClass where
  | other
  | client
  | server
  | unauthorized
  | forbidden
  | notFound
  | conflict
deriving DecidableEq

/-- What has happened. -/
inductive Reason (φ : Type) where
  /-- A failure with no more to it than its message. -/
  | runtime (message : Value)
  | refused (refusal : Refusal)
  | misuse (misuse : Misuse)
  | notImplemented
  /-- The connection to the server failed or was lost. -/
  | connection (message : Value)
  | timeout
  /-- The answer is not JSON. -/
  | brokenJson
  /-- The answer is not declared as JSON. -/
  | contentType
  /-- The answer has an error status. -/
  | badStatus
  | badTimestamp
  | badBase64
  | undecodable
  | unencodable
  /-- A value that is nested too deeply to be read. -/
  | tooDeep
  | noSuchFile
  /-- A key that is looked up in vain. -/
  | noKey (key : String)
  /-- A number that is too large for its purpose. -/
  | outOfRange
  /-- A time that no clock can tell. -/
  | beyondClocks
  /-- A position at which there is no item. -/
  | noPosition
  /-- A kind that is not registered in the scheme. -/
  | unregisteredKind (kind apiVersion : Value)
  | reconciliation (message : Value)
  /-- The spec of a resource is invalid. -/
  | validation (message : Value)
  /-- A stage of observing a component failed; `detail` is the text of its cause. -/
  | observation (stage component : Value) (detail : String)
  /-- An object that a component refers to does not exist. -/
  | missing (identity : Identity) (component : Value)
  /-- An operation on one object failed; `detail` is the text of its cause. -/
  | mutation (operation : Value) (identity : Identity) (detail : String)
  | aggregate (members : List φ)
  /-- The API has answered with an error; the payload is there if it can be disclosed. -/
  | api (kind : ApiClass) (payload : Option Value) (status : Value)

/-- A reason, and the fault it has come from. -/
structure Fault where
  reason : Reason Fault
  cause : Option Fault

namespace Fault

/-- A fault that has come from no other. -/
def of (reason : Reason Fault) : Fault := ⟨reason, none⟩

def misuse (m : Misuse) : Fault := of (.misuse m)

def refused (r : Refusal) : Fault := of (.refused r)

/-- The same fault as the consequence of another one. -/
def because (fault cause : Fault) : Fault := { fault with cause := some cause }

end Fault

/-- The fields of an API error's payload; an empty payload counts as none. -/
def payloadFields : Option Value → Option Fields
  | some (.obj (field :: rest)) => some (field :: rest)
  | _ => none

/-- A field of an API error's payload, null without a payload. -/
def payloadField (payload : Option Value) (key : String) : Value :=
  match payloadFields payload with
  | some fields => Fields.getD fields key
  | none => .null

/-- The message of an API error: the one of its payload, or else one with the status. -/
def apiMessage (payload : Option Value) (status : Value) : Except Fault String :=
  match payloadField payload "message" with
  | .str "" => .ok s!"HTTP {status.text}"
  | .str message => .ok message
  | other =>
    if other.truthy then .error (.misuse (.noMessage other.typeName))
    else .ok s!"HTTP {status.text}"

/-- One message for several. -/
def joinMessages : List String → String
  | [single] => single
  | several => "[" ++ ", ".intercalate several ++ "]"

mutual

/-- The message of a fault. -/
def Fault.message : Fault → Except Fault String
  | ⟨reason, _⟩ => Reason.message reason

/-- The message that a reason gives. -/
def Reason.message : Reason Fault → Except Fault String
  | .runtime message => .ok message.text
  | .refused refusal => .ok refusal.text
  | .misuse misuse => .ok misuse.text
  | .notImplemented => .ok ""
  | .connection message => .ok message.text
  | .timeout => .ok ""
  | .brokenJson => .ok "Expecting value: line 1 column 1 (char 0)"
  | .contentType => .ok ""
  | .badStatus => .ok ""
  | .badTimestamp => .ok ""
  | .badBase64 => .ok "Incorrect padding"
  | .undecodable => .ok ""
  | .unencodable => .ok ""
  | .tooDeep => .ok ""
  | .noSuchFile => .ok ""
  | .noKey key => .ok (Text.quoted key)
  | .outOfRange => .ok ""
  | .beyondClocks => .ok ""
  | .noPosition => .ok "list index out of range"
  | .unregisteredKind kind apiVersion =>
    .ok s!"Unknown kind {kind.literal} of {apiVersion.literal}."
  | .reconciliation message => .ok message.text
  | .validation message => .ok message.text
  | .observation stage component detail =>
    .ok s!"Failed {stage.text} of {component.text}: {detail}"
  | .missing identity component =>
    .ok s!"Missing resource not managed by {component.text}: {identity.text}"
  | .mutation operation identity detail =>
    .ok s!"Failed to {operation.text} {identity.text}: {detail}"
  | .aggregate members => do pure (joinMessages (← Fault.messages members))
  | .api _ payload status => apiMessage payload status

/-- The messages of several faults. -/
def Fault.messages : List Fault → Except Fault (List String)
  | [] => .ok []
  | fault :: rest => do
    let message ← fault.message
    pure (message :: (← Fault.messages rest))

end

theorem Fault.messages_eq_mapM (faults : List Fault) :
    Fault.messages faults = faults.mapM Fault.message := by
  induction faults with
  | nil => rfl
  | cons fault rest ih => simp [Fault.messages, ih]

namespace Fault

/-- The members of an aggregate; any other fault by itself. -/
def parts (fault : Fault) : List Fault :=
  match fault.reason with
  | .aggregate members => members
  | _ => [fault]

/-- Several faults as one; all of them must have a message. -/
def aggregate (faults : List Fault) : Except Fault Fault := do
  let whole : Fault := of (.aggregate (faults.flatMap parts))
  let _ ← whole.message
  pure whole

/-- Several faults as one, or nothing if there are none among them; an aggregate without members
counts as none. -/
def aggregate? (faults : List Fault) : Except Fault (Option Fault) :=
  if (faults.flatMap parts).isEmpty then .ok none
  else do pure (some (← aggregate faults))

theorem aggregate_eq_ok {faults : List Fault} {whole : Fault} (h : aggregate faults = .ok whole) :
    whole = of (.aggregate (faults.flatMap parts)) := by
  unfold aggregate at h
  cases hm : (of (.aggregate (faults.flatMap parts))).message <;>
    simp_all [bind, Except.bind, pure, Except.pure]

theorem parts_aggregate {faults : List Fault} {whole : Fault} (h : aggregate faults = .ok whole) :
    whole.parts = faults.flatMap parts := by
  rw [aggregate_eq_ok h]
  rfl

theorem aggregate?_eq_none_iff {faults : List Fault} :
    aggregate? faults = .ok none ↔ ∀ fault ∈ faults, fault.parts = [] := by
  unfold aggregate?
  split
  · next h => simpa [List.flatMap_eq_nil_iff] using h
  · next h =>
    have hne : ¬ ∀ fault ∈ faults, fault.parts = [] := by
      simpa [List.flatMap_eq_nil_iff] using h
    cases aggregate faults <;> simp [bind, Except.bind, pure, Except.pure, hne]

/-- A failed stage of observing a component. -/
def observation (stage component : Value) (cause : Fault) : Except Fault Fault := do
  pure ⟨.observation stage component (← cause.message), some cause⟩

/-- A failed operation on one object. -/
def mutation (operation : Value) (identity : Identity) (cause : Fault) : Except Fault Fault := do
  pure ⟨.mutation operation identity (← cause.message), some cause⟩

/-- The absence of an object, as every store reports it. -/
def isNotFound (fault : Fault) : Bool :=
  match fault.reason with
  | .api .notFound _ _ => true
  | _ => false

def isValidation (fault : Fault) : Bool :=
  match fault.reason with
  | .validation _ => true
  | _ => false

end Fault

end OperatorCore
