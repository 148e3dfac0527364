import OperatorCore.Proofs.Fault.Steady
import OperatorCore.Store.Api

/-!
# What a store over the API sends

Each operation of the store has a method of its own: objects are read and listed
with GET, created with POST, replaced with PUT, and nothing but a deletion sends
a DELETE. It does not matter how often a request is repeated, so the proof that
the requests keep to their method is an induction on the delays.

The same induction says where an answer comes from. What the store reads was
answered to a GET of the URL that the scheme has for the object, and without an
error status. So there is nothing else to be asked of a server whose answers are
to be believed.
-/

namespace OperatorCore

variable {τ : Type}

/-- Between two states of a wire, requests with a property were sent, and no
others. -/
def Wire.Sends (P : Request → Prop) (w w' : Wire τ) : Prop :=
  ∃ requests, w'.sent = w.sent ++ requests ∧ ∀ request ∈ requests, P request

theorem Wire.sends_nothing {P : Request → Prop} {w w' : Wire τ}
    (h : w'.sent = w.sent) : Wire.Sends P w w' := by
  refine ⟨[], by rw [List.append_nil, h], ?_⟩
  intro request hrequest
  cases hrequest

theorem Wire.steady_sends (P : Request → Prop) : Steady (Wire.Sends (τ := τ) P) where
  refl _ := Wire.sends_nothing rfl
  trans := by
    rintro w w₁ w₂ ⟨first, hfirst, hP⟩ ⟨second, hsecond, hP'⟩
    refine ⟨first ++ second, by rw [hsecond, hfirst, List.append_assoc], ?_⟩
    intro request hrequest
    rcases List.mem_append.1 hrequest with h | h
    · exact hP request h
    · exact hP' request h

/-- The server may answer a request with a response, which has no error status. -/
def Network.Answers (network : Network τ) (request : Request) (response : Response) :
    Prop :=
  ∃ t, (network.exchange request t).1.bind Response.check = .ok response

namespace Client

variable {P : Request → Prop}

/-! ## One attempt after another -/

/-- An attempt, and what comes after a fault that makes it worth to try again. -/
def attemptOnce (client : Client τ) (request : Request) (what : String)
    (n : AttemptNumber) (retry : Fault → Attempt (Wire τ) Response) :
    Attempt (Wire τ) Response := do
  if n.total.isNone then Wire.takeDelay
  if 1 < n.number then Wire.report (.attempting n what)
  match ← (Wire.send client.network request).outcome with
  | .ok response =>
    if 1 < n.number then Wire.report (.attemptSucceeded n what)
    pure response
  | .error fault => if !fault.isRetryable then Attempt.fail fault else retry fault

def escalate (what : String) (n : AttemptNumber) (fault : Fault) :
    Attempt (Wire τ) Response := do
  Wire.report (.escalating n what fault.literal)
  Attempt.fail fault

theorem attemptFrom_nil (client : Client τ) (request : Request) (what : String)
    (total : Option Nat) (number : Nat) :
    client.attemptFrom request what total number [] =
      client.attemptOnce request what ⟨number, total⟩ (escalate what ⟨number, total⟩) := by
  rw [attemptFrom]
  rfl

theorem attemptFrom_cons (client : Client τ) (request : Request) (what : String)
    (total : Option Nat) (number : Nat) (delay : Value) (rest : List Value) :
    client.attemptFrom request what total number (delay :: rest) =
      client.attemptOnce request what ⟨number, total⟩ fun fault =>
        if delay.isNull then escalate what ⟨number, total⟩ fault
        else (do
          Wire.report (.retrying ⟨number, total⟩ what fault.literal)
          Wire.sleep delay
          client.attemptFrom request what total (number + 1) rest) := by
  rw [attemptFrom]
  rfl

theorem keeps_report (notice : Notice) :
    Attempt.Keeps (Wire.Sends (τ := τ) P) (Wire.report notice) :=
  fun _ => Wire.sends_nothing rfl

theorem keeps_escalate (what : String) (n : AttemptNumber) (fault : Fault) :
    Attempt.Keeps (Wire.Sends (τ := τ) P) (escalate what n fault) :=
  Attempt.keeps_bind (Wire.steady_sends P) (keeps_report _)
    fun _ => Attempt.keeps_fail (Wire.steady_sends P) _

theorem keeps_send (network : Network τ) {request : Request} (h : P request) :
    Attempt.Keeps (Wire.Sends P) (Wire.send network request) := by
  intro w
  refine ⟨[request], rfl, ?_⟩
  intro other hother
  obtain rfl := List.mem_singleton.1 hother
  exact h

theorem keeps_attemptOnce (client : Client τ) {request : Request} (h : P request)
    (what : String) (n : AttemptNumber) {retry : Fault → Attempt (Wire τ) Response}
    (hretry : ∀ fault, Attempt.Keeps (Wire.Sends P) (retry fault)) :
    Attempt.Keeps (Wire.Sends P) (client.attemptOnce request what n retry) := by
  have hR := Wire.steady_sends (τ := τ) P
  refine Attempt.keeps_unless hR (fun _ => Wire.sends_nothing rfl) ?_
  refine Attempt.keeps_unless hR (keeps_report _) ?_
  refine Attempt.keeps_bind hR (Attempt.keeps_outcome (keeps_send _ h)) ?_
  intro answer
  cases answer with
  | ok response =>
      exact Attempt.keeps_unless hR (keeps_report _) (Attempt.keeps_pure hR _)
  | error fault =>
      simp only []
      split
      · exact Attempt.keeps_fail hR _
      · exact hretry fault

theorem keeps_attemptFrom (client : Client τ) {request : Request} (h : P request)
    (what : String) (total : Option Nat) (number : Nat) (delays : List Value) :
    Attempt.Keeps (Wire.Sends P)
      (client.attemptFrom request what total number delays) := by
  have hR := Wire.steady_sends (τ := τ) P
  induction delays generalizing number with
  | nil =>
      rw [attemptFrom_nil]
      exact keeps_attemptOnce client h what _ (keeps_escalate what _)
  | cons delay rest ih =>
      rw [attemptFrom_cons]
      refine keeps_attemptOnce client h what _ ?_
      intro fault
      split
      · exact keeps_escalate what _ fault
      · refine Attempt.keeps_bind hR (keeps_report _) ?_
        intro _
        refine Attempt.keeps_bind hR (fun _ => Wire.sends_nothing rfl) ?_
        intro _
        exact ih (number + 1)

theorem yields_attemptOnce (client : Client τ) (request : Request) (what : String)
    (n : AttemptNumber) {retry : Fault → Attempt (Wire τ) Response}
    (hretry : ∀ fault,
      Attempt.Yields (client.network.Answers request) (retry fault)) :
    Attempt.Yields (client.network.Answers request)
      (client.attemptOnce request what n retry) := by
  refine Attempt.yields_unless (Attempt.yields_unless ?_)
  have hsent : Attempt.Yields
      (fun answer => ∀ response, answer = .ok response →
        client.network.Answers request response)
      (Wire.send client.network request).outcome := by
    intro w w' answer hanswer response hresponse
    exact ⟨w.state, (Except.ok.inj (Prod.mk.inj hanswer).1).trans hresponse⟩
  refine Attempt.yields_bind hsent ?_
  intro answer hanswer
  cases answer with
  | ok response =>
      exact Attempt.yields_unless (Attempt.yields_pure (hanswer response rfl))
  | error fault =>
      simp only []
      split
      · exact Attempt.yields_fail _
      · exact hretry fault

/-- It is a response to the request itself that is answered in the end. -/
theorem yields_attemptFrom (client : Client τ) (request : Request) (what : String)
    (total : Option Nat) (number : Nat) (delays : List Value) :
    Attempt.Yields (client.network.Answers request)
      (client.attemptFrom request what total number delays) := by
  have hescalate : ∀ n fault,
      Attempt.Yields (client.network.Answers request) (escalate (τ := τ) what n fault) :=
    fun n fault => Attempt.yields_after fun _ => Attempt.yields_fail _
  induction delays generalizing number with
  | nil =>
      rw [attemptFrom_nil]
      exact yields_attemptOnce client request what _ (hescalate _)
  | cons delay rest ih =>
      rw [attemptFrom_cons]
      refine yields_attemptOnce client request what _ ?_
      intro fault
      split
      · exact hescalate _ fault
      · exact Attempt.yields_after fun _ => Attempt.yields_after fun _ => ih (number + 1)

/-! ## One request -/

/-- All that is sent has the method and goes to the URL. -/
theorem keeps_request_to (client : Client τ) {method : String} {url : Value}
    (h : ∀ request : Request, request.method = method →
      client.resolve url = .ok request.url → P request)
    (payload headers params : Value) (timeout : Option (Value × Value)) :
    Attempt.Keeps (Wire.Sends P)
      (client.request (.str method) url payload headers params timeout) := by
  have hR := Wire.steady_sends (τ := τ) P
  refine Attempt.keeps_bind_answer hR (Attempt.keeps_liftM hR _) ?_
  intro target _ htarget
  refine Attempt.keeps_bind hR (Attempt.keeps_liftM hR _) ?_
  intro settings
  refine Attempt.keeps_bind_answer hR (Attempt.keeps_liftM hR _) ?_
  intro method' _ hmethod
  obtain rfl : method = method' := Except.ok.inj hmethod
  simp only []
  split
  · exact Attempt.keeps_bind hR (Attempt.keeps_read hR _)
      fun delays => keeps_attemptFrom client (by exact h _ rfl htarget) _ _ _ delays
  · exact Attempt.keeps_bind hR (Attempt.keeps_pure hR _)
      fun delays => keeps_attemptFrom client (by exact h _ rfl htarget) _ _ _ delays

theorem yields_request (client : Client τ) (method : String)
    (url payload headers params : Value) (timeout : Option (Value × Value)) :
    Attempt.Yields
      (fun response => ∃ request : Request, request.method = method ∧
        client.resolve url = .ok request.url ∧ client.network.Answers request response)
      (client.request (.str method) url payload headers params timeout) := by
  refine Attempt.yields_bind (Attempt.yields_liftM fun _ h => h) ?_
  intro url' hurl
  refine Attempt.yields_after ?_
  intro settings
  refine Attempt.yields_bind (Attempt.yields_liftM fun _ h => Except.ok.inj h) ?_
  rintro _ rfl
  simp only []
  split
  · refine Attempt.yields_after ?_
    intro delays w w' response hrun
    have hanswers := yields_attemptFrom client _ _ _ 1 delays w w' response hrun
    exact ⟨_, rfl, hurl, hanswers⟩
  · refine Attempt.yields_after ?_
    intro delays w w' response hrun
    have hanswers := yields_attemptFrom client _ _ _ 1 delays w w' response hrun
    exact ⟨_, rfl, hurl, hanswers⟩

theorem keeps_fetch_to (client : Client τ) {method : String} {url : Value}
    (h : ∀ request : Request, request.method = method →
      client.resolve url = .ok request.url → P request)
    (payload headers params : Value) :
    Attempt.Keeps (Wire.Sends P) (client.fetch method url payload headers params) := by
  have hR := Wire.steady_sends (τ := τ) P
  refine Attempt.keeps_bind hR (keeps_request_to client h _ _ _ _) ?_
  intro response
  exact Attempt.keeps_liftM hR _

theorem keeps_fetch (client : Client τ) (method : String)
    (url payload headers params : Value) :
    Attempt.Keeps (Wire.Sends fun request => request.method = method)
      (client.fetch method url payload headers params) :=
  keeps_fetch_to client (fun _ hmethod _ => hmethod) payload headers params

/-- What is fetched is the content of a response. -/
theorem yields_fetch (client : Client τ) (method : String)
    (url payload headers params : Value) :
    Attempt.Yields
      (fun content => ∃ (request : Request) (response : Response),
        request.method = method ∧ client.resolve url = .ok request.url ∧
        client.network.Answers request response ∧ response.read = .ok content)
      (client.fetch method url payload headers params) := by
  refine Attempt.yields_bind (yields_request client method _ _ _ _ _) ?_
  rintro response ⟨request, hmethod, hurl, hanswers⟩
  refine Attempt.yields_liftM ?_
  intro content hread
  exact ⟨request, response, hmethod, hurl, hanswers, hread⟩

/-- What follows the first request of a replacement: the status is put, unless there is none or
the object is gone. -/
def putStatus (client : Client τ) (r : ResourceKind) (identity : Identity)
    (main status answer : Value) : Attempt (Wire τ) Value := do
  if status.isNull then pure answer
  else if ← (Body.isReleased main : Except Fault _) then
    Wire.report (.statusSkipped identity)
    pure answer
  else
    let second ← statusBody main status answer
    let url ← (r.path (identity.ns.orElse .null) identity.name (.str "status") : Except Fault _)
    client.fetch "put" (.str url) second .null .null

end Client

namespace ApiStore

variable (store : ApiStore τ)

/-! ## The operations of the store -/

/-- An operation sends nothing but requests with a method. -/
def Only {α : Type} (method : String) (x : Attempt (Wire τ) α) : Prop :=
  Attempt.Keeps (Wire.Sends fun request => request.method = method) x

theorem get_only (apiVersion kind ns name : Value) :
    Only "get" (store.get apiVersion kind ns name) := by
  have hR := Wire.steady_sends (τ := τ) fun request => request.method = "get"
  refine Attempt.keeps_bind hR (Attempt.keeps_liftM hR _) ?_
  intro r
  refine Attempt.keeps_bind hR ?_ ?_
  · refine Attempt.keeps_bind hR (Attempt.keeps_liftM hR _) ?_
    intro path
    exact Client.keeps_fetch store.client "get" _ _ _ _
  · intro body
    refine Attempt.keeps_bind hR (Attempt.keeps_liftM hR _) ?_
    rintro ⟨_, body⟩
    refine Attempt.keeps_bind hR (Attempt.keeps_liftM hR _) ?_
    rintro ⟨_, body⟩
    exact Attempt.keeps_pure hR _

theorem list_only (apiVersion kind ns labels : Value) :
    Only "get" (store.list apiVersion kind ns labels) := by
  have hR := Wire.steady_sends (τ := τ) fun request => request.method = "get"
  refine Attempt.keeps_bind hR (Attempt.keeps_liftM hR _) ?_
  intro r
  refine Attempt.keeps_bind hR (Attempt.keeps_liftM hR _) ?_
  intro selector
  refine Attempt.keeps_bind hR (Attempt.keeps_liftM hR _) ?_
  intro path
  refine Attempt.keeps_bind hR (Client.keeps_fetch store.client "get" _ _ _ _) ?_
  intro answer
  refine Attempt.keeps_bind hR (Attempt.keeps_liftM hR _) ?_
  intro fields
  refine Attempt.keeps_bind hR (Attempt.keeps_liftM hR _) ?_
  intro items
  exact Attempt.keeps_liftM hR _

theorem create_only (body : Value) : Only "post" (store.create body) := by
  have hR := Wire.steady_sends (τ := τ) fun request => request.method = "post"
  refine Attempt.keeps_bind hR (Attempt.keeps_liftM hR _) ?_
  intro r
  refine Attempt.keeps_bind hR (Attempt.keeps_liftM hR _) ?_
  intro md
  refine Attempt.keeps_bind hR (Attempt.keeps_liftM hR _) ?_
  intro ns
  refine Attempt.keeps_bind hR (Attempt.keeps_liftM hR _) ?_
  intro path
  exact Client.keeps_fetch store.client "post" _ _ _ _

/-- The second request of an update, for the status, goes to the URL of the status. -/
theorem keeps_putStatus {P : Request → Prop} {client : Client τ} {r : ResourceKind}
    {identity : Identity} {status : Value}
    (h : status.isNull = false → ∀ path,
      r.path (identity.ns.orElse .null) identity.name (.str "status") = .ok path →
      ∀ request : Request, request.method = "put" →
        client.resolve (.str path) = .ok request.url → P request)
    (main answer : Value) :
    Attempt.Keeps (Wire.Sends P) (client.putStatus r identity main status answer) := by
  have hR := Wire.steady_sends (τ := τ) P
  rw [Client.putStatus]
  split
  · exact Attempt.keeps_pure hR _
  · next hstatus =>
      refine Attempt.keeps_bind hR (Attempt.keeps_liftM hR _) ?_
      intro released
      split
      · refine Attempt.keeps_bind hR (Client.keeps_report _) ?_
        intro _
        exact Attempt.keeps_pure hR _
      · refine Attempt.keeps_bind hR (Attempt.keeps_liftM hR _) ?_
        intro second
        refine Attempt.keeps_bind_answer hR (Attempt.keeps_liftM hR _) ?_
        intro path _ hpath
        exact Client.keeps_fetch_to client (h (eq_false_of_ne_true hstatus) path hpath) _ _ _

theorem update_only (body : Value) : Only "put" (store.update body) := by
  have hR := Wire.steady_sends (τ := τ) fun request => request.method = "put"
  refine Attempt.keeps_bind hR (Attempt.keeps_liftM hR _) ?_
  intro r
  refine Attempt.keeps_bind hR (Attempt.keeps_liftM hR _) ?_
  intro identity
  refine Attempt.keeps_bind hR (Attempt.keeps_liftM hR _) ?_
  intro fields
  refine Attempt.keeps_bind hR (Attempt.keeps_liftM hR _) ?_
  intro path
  refine Attempt.keeps_bind hR (Client.keeps_fetch store.client "put" _ _ _ _) ?_
  intro answer
  exact keeps_putStatus (fun _ _ _ _ hmethod _ => hmethod) _ answer

theorem delete_only (body : Value) : Only "delete" (store.delete body) := by
  have hR := Wire.steady_sends (τ := τ) fun request => request.method = "delete"
  refine Attempt.keeps_bind hR (Attempt.keeps_liftM hR _) ?_
  intro identity
  refine Attempt.keeps_bind hR (Attempt.keeps_liftM hR _) ?_
  intro r
  refine Attempt.keeps_bind hR (Attempt.keeps_liftM hR _) ?_
  intro path
  refine Attempt.keeps_bind hR (Client.keeps_fetch store.client "delete" _ _ _ _) ?_
  intro answer
  exact Attempt.keeps_pure hR _

/-- The reply of an operation is that of its own run: the reports of the
operations before are dropped, and nothing else. -/
theorem sends_reply {α : Type} {P : Request → Prop} {x : Attempt (Wire τ) α}
    (h : Attempt.Keeps (Wire.Sends P) x) (w : Wire τ) :
    Wire.Sends P w (reply x w).state :=
  h { w with notices := [] }

/-! ## Where a body comes from -/

/-- The URL of an object, by what the scheme has for its kind. -/
structure Locates (apiVersion kind ns name : Value) (r : ResourceKind) (url : String) :
    Prop where
  known : store.scheme.lookup apiVersion kind = .ok r
  url : ∃ path, r.path ns name .null = .ok path ∧
    store.client.resolve (.str path) = .ok url

/-- A body that is read is what the server has given for the URL, completed by
what was asked for. -/
theorem yields_get (apiVersion kind ns name : Value) :
    Attempt.Yields
      (fun body => ∃ r request response content,
        store.Locates apiVersion kind ns name r request.url ∧ request.method = "get" ∧
        store.client.network.Answers request response ∧
        response.read = .ok (.obj content) ∧
        body = .obj (Fields.putIfAbsent (Fields.putIfAbsent content "apiVersion"
          apiVersion) "kind" kind))
      (store.get apiVersion kind ns name) := by
  refine Attempt.yields_bind (Attempt.yields_liftM fun _ h => h) ?_
  intro r hknown
  have hread : Attempt.Yields
      (fun content => ∃ (request : Request) (response : Response),
        store.Locates apiVersion kind ns name r request.url ∧ request.method = "get" ∧
        store.client.network.Answers request response ∧ response.read = .ok content)
      (store.client.readObject r ns name) := by
    refine Attempt.yields_bind (Attempt.yields_liftM fun _ h => h) ?_
    intro path hpath w w' content hrun
    obtain ⟨request, response, hmethod, hurl, hanswers, hcontent⟩ :=
      Client.yields_fetch store.client "get" _ _ _ _ w w' content hrun
    exact ⟨request, response, ⟨hknown, path, hpath, hurl⟩, hmethod, hanswers, hcontent⟩
  refine Attempt.yields_bind hread ?_
  rintro content ⟨request, response, hlocates, hmethod, hanswers, hcontent⟩
  intro w w' body hrun
  cases content with
  | obj fields =>
      cases hrun
      exact ⟨r, request, response, fields, hlocates, hmethod, hanswers, hcontent, rfl⟩
  | _ => cases hrun

end ApiStore

end OperatorCore
