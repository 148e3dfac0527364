import OperatorCore.Document.Structures
import OperatorCore.Store.Api

/-!
# Settings and prepared responses as documents

A document of settings says only what differs from the standard; but without a word on the backoffs
there are no retries. A document of a client has its server, its settings, and the responses that
its network has been prepared with. The value of a response is read by copying it, level by level,
and so it must not be nested too deeply.
-/

namespace OperatorCore.Document

/-- One delay, a list of them, or a stream of them. The characters of a text are a list. -/
def backoffs : Value → Backoffs
  | .arr delays => .listed delays
  | .obj fields => .streamed (asItems (Fields.getD fields "generator"))
  | .str s => .listed (s.toList.map fun c => .str (String.singleton c))
  | v => .single v

/-- The names of fields; the standard ones unless there is such a member. -/
def payloadFields (v : Value) (key : String) : Value := getOr v key Body.defaultPayloadFields

/-- Reads settings; null stands for the standard ones. -/
def settings (v : Value) : Settings :=
  match v with
  | .null => .standard
  | v =>
    let base := Settings.standard
    { base with
      networking :=
        { requestTimeout := getOr v "request_timeout" base.networking.requestTimeout
          connectTimeout := getOr v "connect_timeout" base.networking.connectTimeout
          backoffs := match at? v "backoffs" with
            | some b => backoffs b
            | none => .listed [] }
      comparison := ⟨payloadFields v "payload_fields", scope (get v "scope")⟩ }

/-- The settings of a request that need not have any. -/
def settingsOf (v : Value) : Settings := settings (getOr v "settings" (.obj []))

mutual

/-- How deeply the lists and the objects of a value are nested. -/
def depth : Value → Nat
  | .arr items => depthOfItems items + 1
  | .obj fields => depthOfFields fields + 1
  | _ => 0

def depthOfItems : List Value → Nat
  | [] => 0
  | v :: rest => max (depth v) (depthOfItems rest)

def depthOfFields : Fields → Nat
  | [] => 0
  | (_, v) :: rest => max (depth v) (depthOfFields rest)

end

/-- The number of levels that can be copied: each takes two calls out of a thousand, and some calls
are taken by the request. -/
def copiedLevels : Nat := 490

/-- The content that a copy of the value is, if it can be copied. -/
def copied (v : Value) : Content :=
  if depth v ≤ copiedLevels then .value v else .unreadable (.of .tooDeep)

def response (v : Value) : Except Fault Response :=
  match get v "raise" with
  | .str "connection" => .error (.of (.connection (getOr v "text" (.str "refused"))))
  | .str "timeout" => .error (.of .timeout)
  | .null =>
    let content := match text v "broken" with
      | "json" => Content.unreadable (.of .brokenJson)
      | "content-type" => .unreadable (.of .contentType)
      | "connection" => .unreadable (.of (.connection (.str "lost")))
      | _ => copied (get v "json")
    .ok ⟨getOr v "status" (.int 200), content⟩
  | exc => .error (raisedFault exc)

def responses (v : Value) : List (Except Fault Response) := (list v "responses").map response

/-- The network of prepared responses, with the stream of delays that the settings may have. -/
abbrev Prepared := Wire (List (Except Fault Response))

/-- A client that keeps the standard settings, or has none at all, where there are null ones. -/
def client (v : Value) (keepsStandard : Bool) : Client (List (Except Fault Response)) :=
  { network := .prepared
    server := getOr v "server" (.str "https://host")
    networking :=
      if !keepsStandard && (getOr v "settings" (.obj [])).isNull then none
      else some (settingsOf v).networking }

/-- The network of a client before its first request. -/
def network (v : Value) (client : Client (List (Except Fault Response))) : Prepared :=
  .start (responses v) client.networking

/-- A store over the API with the builtin kinds and the given ones. -/
def apiStore (api : Value) (kinds : List Value) : ApiStore (List (Except Fault Response)) :=
  ⟨client api true, (Scheme.empty.register Scheme.builtin).register (kinds.map kind)⟩

end OperatorCore.Document
