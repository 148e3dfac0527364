import OperatorCore.Text.Base64
import OperatorCore.Value.Access

/-!
# Credentials

Where the API server is, who the client is to it, and how the two sides trust each other.
Certificates and keys are given as texts between their boundary lines, or the same once more in
Base64.

A token takes precedence over a user name with a password. A client certificate is presented only if
its key is there as well.
-/

namespace OperatorCore

/-- A certificate or a key, or something else that was given for one. -/
inductive PemData where
  | text (s : String)
  | octets (codes : List Nat)
  | other (v : Value)
deriving DecidableEq

namespace PemData

def isEmpty : PemData → Bool
  | .text s => s = ""
  | .octets codes => codes.isEmpty
  | .other v => !v.truthy

/-- The beginning of a text between boundary lines. -/
def boundary : List Char := "-----BEGIN ".toList

/-- The text of octets, which must be ASCII. -/
def ofAscii (codes : List Nat) : Except Fault String :=
  if codes.all (· < 128) then .ok (String.ofList (codes.map Char.ofNat))
  else .error (.of .undecodable)

def ofBase64 (codes : List Nat) : Except Fault String :=
  match Text.Base64.decode? codes with
  | some decoded => ofAscii decoded
  | none => .error (.of .badBase64)

/-- The text between boundary lines: the data themselves if they begin with a boundary, else what
they are the Base64 of. -/
def decode (data : PemData) : Except Fault String :=
  match data with
  | .text s =>
    if boundary.isPrefixOf s.toList then .ok s
    else if s.toList.all fun c => c.toNat < 128 then ofBase64 (s.toList.map Char.toNat)
    else .error (.refused .nonAsciiText)
  | .octets codes =>
    if (boundary.map Char.toNat).isPrefixOf codes then ofAscii codes else ofBase64 codes
  | .other v => .error (.misuse (.argument
      s!"argument should be a bytes-like object or ASCII string, not '{v.typeName}'"))

end PemData

/-- The endpoint and the credentials of an API server. What is null or empty is not given. -/
structure ConnectionInfo where
  server : Value
  token : Value
  username : Value
  password : Value
  caPath : Value
  caData : Option PemData
  clientCertificate : Option PemData
  clientKey : Option PemData
  verifyTls : Bool

/-- How a client verifies the server. -/
structure TlsPolicy where
  verifies : Bool
  checksHostname : Bool
deriving DecidableEq

/-- A user name and a password. -/
structure BasicLogin where
  login : Value
  password : Value
deriving DecidableEq

/-- A session of a client with a server. -/
structure Session where
  server : Value
  headers : List (String × String)
  login : Option BasicLogin
deriving DecidableEq

namespace ConnectionInfo

/-- The certificate and its key, if both are there. -/
def clientPair? (info : ConnectionInfo) : Option (PemData × PemData) :=
  match info.clientCertificate, info.clientKey with
  | some certificate, some key =>
    if certificate.isEmpty || key.isEmpty then none else some (certificate, key)
  | _, _ => none

/-- The headers of all requests: which program asks, and the token. -/
def headers (info : ConnectionInfo) (version : Value) : List (String × String) :=
  let program := "kreconciler/" ++ (version.orElse (.str "unknown")).text
  ("User-Agent", program) ::
    if info.token.truthy then [("Authorization", "Bearer " ++ info.token.text)] else []

/-- The login with a name and a password, unless there is a token. A name cannot have a colon. -/
def login (info : ConnectionInfo) : Except Fault (Option BasicLogin) := do
  if info.token.truthy || !(info.username.truthy && info.password.truthy) then pure none
  else if ← info.username.contains (.str ":") then .error (.refused .colonInLogin)
  else pure (some ⟨info.username, info.password⟩)

/-- A certificate or a key as it goes into a file. -/
def fileText (data : PemData) : Except Fault String := do
  let text ← data.decode
  if text.toList.all fun c => c.toNat < 128 then pure text else .error (.of .unencodable)

/-- How the server is verified. All certificates and keys must be decodable. -/
def tls (info : ConnectionInfo) : Except Fault TlsPolicy := do
  let authority ← match info.caData with
    | some data => data.decode
    | none => pure ""
  match info.caPath with
  | .str "" => pure ()
  | .str _ => .error (.of .noSuchFile)
  | other =>
    if other.truthy then
      .error (.misuse (.argument "cafile should be a valid filesystem path"))
  if !(authority.toList.all fun c => c.toNat < 128) then
    .error (.misuse (.argument "cadata should be an ASCII string or a bytes-like object"))
  match info.clientPair? with
  | some (certificate, key) => do
    let _ ← fileText certificate
    let _ ← fileText key
  | none => pure ()
  pure ⟨info.verifyTls, info.verifyTls⟩

/-- Opens a session. -/
def session (info : ConnectionInfo) (version : Value) : Except Fault Session := do
  let _ ← info.tls
  pure { server := info.server, headers := info.headers version, login := ← info.login }

end ConnectionInfo

end OperatorCore
