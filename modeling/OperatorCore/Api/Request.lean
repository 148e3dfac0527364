import OperatorCore.Api.ResourceKind
import OperatorCore.Api.Response
import OperatorCore.Fault.Attempt
import OperatorCore.Fault.Naming
import OperatorCore.Log.Notice
import OperatorCore.Settings
import OperatorCore.Text.Uppercase

/-!
# Requests and their retries

A request is sent, and sent again after a delay if the connection failed, the server did not answer
in time, or answered with a server error. All other faults end it at once, since it would not help
to repeat it. There is one attempt more than there are delays; a null delay makes its attempt the
last. Delays that are a stream are shared by all requests: each attempt takes one of them.

The network is a state with one operation, from a request to a response or a fault. So the same
client runs against a list of prepared responses and against any model of a server.
-/

namespace OperatorCore

/-- A request as it is sent. -/
structure Request where
  method : String
  url : String
  payload : Value
  headers : Value
  params : Value
  /-- The time limit of the whole exchange. -/
  totalTimeout : Value
  /-- The time limit of connecting. -/
  connectTimeout : Value
deriving DecidableEq

/-- A network whose states are of the given type. -/
structure Network (τ : Type) where
  exchange : Request → τ → Except Fault Response × τ

/-- The network as it is used by a client: its state, what is left of a stream of delays, what has
been sent, how long the client has slept, and what it has reported. -/
structure Wire (τ : Type) where
  state : τ
  stream : List Value
  sent : List Request
  sleeps : List Value
  notices : List Notice

/-- A client of one server. Nothing has checked the server; without settings, there are no
requests. -/
structure Client (τ : Type) where
  network : Network τ
  server : Value
  networking : Option Networking

namespace Wire

variable {τ : Type}

/-- A network that has not been used, and the stream of delays that there may be. -/
def start (state : τ) (networking : Option Networking) : Wire τ :=
  { state
    stream := match networking with
      | some ⟨_, _, .streamed delays⟩ => delays
      | _ => []
    sent := [], sleeps := [], notices := [] }

def report (notice : Notice) : Attempt (Wire τ) Unit :=
  Attempt.modify fun w => { w with notices := w.notices ++ [notice] }

/-- Takes a delay from the stream. -/
def takeDelay : Attempt (Wire τ) Unit :=
  Attempt.modify fun w => { w with stream := w.stream.drop 1 }

def sleep (delay : Value) : Attempt (Wire τ) Unit :=
  Attempt.modify fun w => { w with sleeps := w.sleeps ++ [delay] }

/-- Sends a request once; an error status is a fault. -/
def send (network : Network τ) (request : Request) : Attempt (Wire τ) Response := fun w =>
  let (outcome, state) := network.exchange request w.state
  (outcome.bind Response.check, { w with state, sent := w.sent ++ [request] })

end Wire

/-- A fault after which it makes sense to send a request again. -/
def Fault.isRetryable (fault : Fault) : Bool :=
  match fault.reason with
  | .connection _ | .timeout | .api .server _ _ => true
  | _ => false

namespace Client

variable {τ : Type}

/-- The URL of a path on the server; a whole URL, which contains `://`, stays as it is. -/
def resolve (client : Client τ) (url : Value) : Except Fault String := do
  if ← url.contains (.str "://") then pure url.text
  else match client.server, url with
    | .str _, .str path => ResourceKind.onServer client.server path
    | .str _, other => .error (.misuse (.noAttribute other.typeName "lstrip"))
    | other, _ => .error (.misuse (.noAttribute other.typeName "rstrip"))

/-- The settings of the requests. -/
def settings (client : Client τ) : Except Fault Networking :=
  match client.networking with
  | some networking => .ok networking
  | none => .error (.misuse (.noAttribute "NoneType" "networking"))

/-- The name of a method, which must be a text. -/
def methodName (method : Value) : Except Fault String :=
  match method with
  | .str method => .ok method
  | other => .error (.misuse (.noAttribute other.typeName "upper"))

/-- Sends a request up to its last attempt, given the delays after the attempts from this one on. If
it is not known how many attempts there are, the delays are those of the stream. -/
def attemptFrom (client : Client τ) (request : Request) (what : String) (total : Option Nat)
    (number : Nat) (delays : List Value) : Attempt (Wire τ) Response := do
  let n : AttemptNumber := ⟨number, total⟩
  if total.isNone then Wire.takeDelay
  if 1 < number then Wire.report (.attempting n what)
  match ← (Wire.send client.network request).outcome with
  | .ok response =>
    if 1 < number then Wire.report (.attemptSucceeded n what)
    pure response
  | .error fault =>
    if !fault.isRetryable then Attempt.fail fault
    else
      let escalate : Attempt (Wire τ) Response := do
        Wire.report (.escalating n what fault.literal)
        Attempt.fail fault
      match delays with
      | [] => escalate
      | delay :: rest =>
        if delay.isNull then escalate
        else
          Wire.report (.retrying n what fault.literal)
          Wire.sleep delay
          attemptFrom client request what total (number + 1) rest

/-- Sends a request with all its retries. -/
def request (client : Client τ) (method url payload headers params : Value)
    (timeout : Option (Value × Value)) : Attempt (Wire τ) Response := do
  let url ← (client.resolve url : Except Fault _)
  let settings ← (client.settings : Except Fault _)
  let method ← (methodName method : Except Fault _)
  let (totalTimeout, connectTimeout) :=
    timeout.getD (settings.requestTimeout, settings.connectTimeout)
  let request : Request := { method, url, payload, headers, params, totalTimeout, connectTimeout }
  let delays ← match settings.backoffs with
    | .streamed _ => Attempt.read Wire.stream
    | backoffs => pure backoffs.delays
  attemptFrom client request (Text.upper method ++ " " ++ url) settings.backoffs.attempts? 1 delays

/-- Sends a request and reads the content of its response. -/
def fetch (client : Client τ) (method : String) (url payload headers params : Value) :
    Attempt (Wire τ) Value := do
  let response ← client.request (.str method) url payload headers params none
  response.read

end Client

end OperatorCore
