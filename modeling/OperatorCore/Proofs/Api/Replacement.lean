import OperatorCore.Proofs.Api.Retries
import OperatorCore.Proofs.Api.Subjects
import OperatorCore.Proofs.Object.Amended
import OperatorCore.Proofs.Object.Finalizers

/-!
# How an object is replaced

An object whose kind has the status as a subresource takes two requests, and the second
one depends on the answer to the first: it has to be made at the version that the first
one has given to the object, or else the server takes it for a conflict. There are three
ways in which it is not made. The first request has failed; there is no status; or the
first request was the last thing that held an object which is being deleted, so that
there is no object any more.

Each of the two is a request with all its retries, for which it is known what is sent
(`Network.Retried`). What is proved is that a replacement is put together from them in one
of four ways (`Client.Replaces`), and that nothing else is sent.
-/

namespace OperatorCore

variable {τ : Type}

/-! ## A PUT with its retries -/

/-- The delays that a request has before it: if they are a stream, what is left of it. -/
def Networking.delaysFrom (networking : Networking) (w : Wire τ) : List Value :=
  match networking.backoffs with
  | .streamed _ => w.stream
  | backoffs => backoffs.delays

namespace Client

theorem run_request {client : Client τ} {networking : Networking} {url target : String}
    (hsettings : client.networking = some networking)
    (htarget : client.resolve (.str url) = .ok target) (method : String)
    (payload headers params : Value) (timeout : Option (Value × Value)) (w : Wire τ) :
    (client.request (.str method) (.str url) payload headers params timeout).run w =
      (client.attemptFrom (networking.requestTo method target payload headers params timeout)
        (Text.upper method ++ " " ++ target) networking.backoffs.attempts? 1
        (networking.delaysFrom w)).run w := by
  cases hbackoffs : networking.backoffs with
  | streamed delays =>
      rw [request, htarget, Attempt.liftM_ok_bind, settings, hsettings]
      simp only [Attempt.liftM_ok_bind, methodName, hbackoffs, Networking.delaysFrom]
      rfl
  | single delay | listed delays =>
      rw [request_of_finite hsettings (by simp [hbackoffs]) htarget]
      simp only [hbackoffs, Networking.delaysFrom]

theorem run_fetch (client : Client τ) (method : String) (url payload headers params : Value)
    (w : Wire τ) :
    (client.fetch method url payload headers params).run w =
      (((client.request (.str method) url payload headers params none).run w).1.bind
        Response.read,
        ((client.request (.str method) url payload headers params none).run w).2) := by
  rw [fetch, Attempt.run_bind]
  split
  · next response w' hrun =>
      rw [hrun]
      rfl
  · next fault w' hrun =>
      rw [hrun]
      rfl

/-- Puts a body to a path on the server. -/
def put (client : Client τ) (path : String) (payload : Value) : Attempt (Wire τ) Value :=
  client.fetch "put" (.str path) payload .null .null

/-- A run has put a body to a path: it has sent this one request until the last attempt, and
comes to the content of its answer or the fault that is raised. -/
structure Puts (client : Client τ) (path : String) (payload : Value) (w : Wire τ)
    (run : Except Fault Value × Wire τ) : Prop where
  run_eq : (client.put path payload).run w = run
  retried : ∃ networking target number answer,
    client.networking = some networking ∧ client.resolve (.str path) = .ok target ∧
    client.network.Retried (networking.requestTo "put" target payload .null .null none)
      ((networking.delaysFrom w).takeWhile fun delay => !delay.isNull) w (answer, run.2)
      number ∧
    run.1 = answer.bind Response.read

theorem puts_put {client : Client τ} {server : String} {networking : Networking}
    (hserver : client.server = .str server) (hsettings : client.networking = some networking)
    (path : String) (payload : Value) (w : Wire τ) :
    client.Puts path payload w ((client.put path payload).run w) := by
  obtain ⟨target, htarget⟩ := resolve_text hserver path
  have hrequest := run_request hsettings htarget "put" payload .null .null none w
  obtain ⟨number, hretried⟩ := retried_attemptFrom client
    (networking.requestTo "put" target payload .null .null none)
    (Text.upper "put" ++ " " ++ target) networking.backoffs.attempts? 1
    (networking.delaysFrom w) w
  rw [← hrequest] at hretried
  have hput := run_fetch client "put" (.str path) payload .null .null w
  refine ⟨rfl, networking, target, number,
    ((client.request (.str "put") (.str path) payload .null .null none).run w).1, hsettings,
    htarget, ?_, ?_⟩
  · rw [put, hput]
    exact hretried
  · rw [put, hput]

theorem Puts.exists_response {client : Client τ} {path : String} {payload answer : Value}
    {w w' : Wire τ} (h : client.Puts path payload w (.ok answer, w')) :
    ∃ (request : Request) (number : Nat) (response : Response), request.method = "put" ∧
      client.network.outcome request w.state number = .ok response ∧
      response.read = .ok answer := by
  obtain ⟨networking, target, number, outcome, -, -, hretried, hread⟩ := h.retried
  cases outcome with
  | ok response => exact ⟨_, number, response, rfl, hretried.answer_eq.symm, hread.symm⟩
  | error fault => cases hread

end Client

/-! ## What the second request is made of -/

namespace Body

/-- The deletion of the object has been asked for, and no finalizer holds it. -/
def Released (body : Value) : Prop :=
  ∃ top md, Shaped body top md ∧ (Fields.getD md "deletionTimestamp").isNull = false ∧
    (Fields.getD md "finalizers").truthy = false

variable {body : Value} {top md : Fields}

theorem Shaped.without_status (h : Shaped (.obj top) top md) :
    Shaped (.obj (Fields.erase top "status")) (Fields.erase top "status") md := by
  refine ⟨rfl, ?_⟩
  rw [Fields.get?_erase, if_neg (by decide)]
  exact h.meta_eq

theorem Shaped.isReleased (h : Shaped body top md) :
    Body.isReleased body = .ok (!(Fields.getD md "deletionTimestamp").isNull &&
      !(Fields.getD md "finalizers").truthy) := by
  rw [Body.isReleased, h.isDeletionOngoing, h.metadata]
  simp only [bind, Except.bind, Value.field, Value.fieldsFor, pure, Except.pure]
  rw [Fields.getD, Fields.getD]
  cases ((Fields.get? md "deletionTimestamp").getD .null).isNull <;> rfl

theorem Shaped.isReleased_without_status (h : Shaped (.obj top) top md) :
    ∃ released, Body.isReleased (.obj (Fields.erase top "status")) = .ok released ∧
      (released = true ↔ Released (.obj top)) := by
  refine ⟨_, h.without_status.isReleased, ?_⟩
  rw [Bool.and_eq_true, Bool.not_eq_true', Bool.not_eq_true']
  constructor
  · intro hreleased
    exact ⟨top, md, h, hreleased⟩
  · rintro ⟨top', md', h', hreleased⟩
    obtain ⟨-, rfl⟩ := h.unique h'
    exact hreleased

/-- The status is where it was, but maybe behind the other fields. -/
theorem Shaped.amended_status (h : Shaped (.obj top) top md)
    (hstatus : (Fields.getD top "status").isNull = false) :
    Amended [] (.obj top)
      (.obj (Fields.put (Fields.erase top "status") "status" (Fields.getD top "status"))) := by
  have hget : ∀ key, Fields.get? (Fields.put (Fields.erase top "status") "status"
      (Fields.getD top "status")) key = Fields.get? top key := by
    intro key
    rw [Fields.get?_put, Fields.get?_erase]
    split
    · next hkey =>
        subst hkey
        cases hfield : Fields.get? top "status" with
        | none =>
            rw [Fields.getD, hfield] at hstatus
            cases hstatus
        | some status =>
            rw [Fields.getD, hfield]
            rfl
    · rfl
  refine ⟨top, md, _, md, h, ⟨rfl, ?_⟩, fun key _ => hget key, fun _ => rfl⟩
  rw [hget]
  exact h.meta_eq

/-- The second request puts the body as it was given, but at the version of the answer. -/
theorem Shaped.statusBody (h : Shaped (.obj top) top md)
    (hstatus : (Fields.getD top "status").isNull = false) {answer : Value}
    (hanswer : Identified answer) :
    ∃ version second, Body.resourceVersion answer = .ok version ∧
      Client.statusBody (.obj (Fields.erase top "status")) (Fields.getD top "status") answer =
        .ok second ∧
      Amended [("resourceVersion", if version.isNull then none else some version)]
        (.obj top) second := by
  have hamended := h.amended_status hstatus
  have hidentified : Identified (.obj (Fields.put (Fields.erase top "status") "status"
      (Fields.getD top "status"))) := by
    obtain ⟨_, _, _, _, -, hshaped, -⟩ := hamended
    exact hshaped.identified
  refine ⟨version answer, _, hanswer.resourceVersion, ?_,
    hamended.trans (hidentified.amended_version (version answer))⟩
  rw [Client.statusBody, hanswer.resourceVersion]
  exact hidentified.setResourceVersion (version answer)

end Body

/-! ## One request or two -/

namespace Client

variable {client : Client τ} {r : ResourceKind}

/-- The ways of replacing an object, by the requests that are made: only one, since it is all
there is to it, or since it fails, or since there is no status to be put any more; or two. -/
inductive Replaces (client : Client τ) (r : ResourceKind) (path : String) (fields : Fields)
    (w : Wire τ) : Except Fault Value × Wire τ → Prop
  | whole {run : Except Fault Value × Wire τ} (hwhole : "status" ∉ r.subresources)
      (hput : client.Puts path (.obj fields) w run) : Replaces client r path fields w run
  | failed {fault : Fault} {w' : Wire τ} (hseparate : "status" ∈ r.subresources)
      (hput : client.Puts path (.obj (Fields.erase fields "status")) w (.error fault, w')) :
      Replaces client r path fields w (.error fault, w')
  | unfollowed {answer : Value} {w' w'' : Wire τ} (hseparate : "status" ∈ r.subresources)
      (hput : client.Puts path (.obj (Fields.erase fields "status")) w (.ok answer, w'))
      (hidle : (Fields.getD fields "status").isNull = true ∨ Body.Released (.obj fields))
      (hsilent : Wire.Silent w' w'') : Replaces client r path fields w (.ok answer, w'')
  | followed {answer version second : Value} {w' : Wire τ} {run : Except Fault Value × Wire τ}
      (hseparate : "status" ∈ r.subresources)
      (hput : client.Puts path (.obj (Fields.erase fields "status")) w (.ok answer, w'))
      (hstatus : (Fields.getD fields "status").isNull = false)
      (hheld : ¬ Body.Released (.obj fields))
      (hversion : Body.resourceVersion answer = .ok version)
      (hsecond : Body.Amended
        [("resourceVersion", if version.isNull then none else some version)]
        (.obj fields) second)
      (hput' : client.Puts (path ++ "/status") second w' run) :
      Replaces client r path fields w run

theorem replaces_of_answer {path : String} {fields md : Fields} {identity : Identity}
    {answer : Value} {w w' : Wire τ} {server : String} {networking : Networking}
    (hserver : client.server = .str server) (hsettings : client.networking = some networking)
    (hseparate : "status" ∈ r.subresources) (hshaped : Body.Shaped (.obj fields) fields md)
    (hpath : r.path (identity.ns.orElse .null) identity.name (.str "status") =
      .ok (path ++ "/status"))
    (hput : client.Puts path (.obj (Fields.erase fields "status")) w (.ok answer, w'))
    (hanswer : Body.Identified answer) :
    client.Replaces r path fields w
      ((client.putStatus r identity (.obj (Fields.erase fields "status"))
        (Fields.getD fields "status") answer).run w') := by
  rw [putStatus]
  cases hstatus : (Fields.getD fields "status").isNull with
  | true => exact .unfollowed hseparate hput (.inl hstatus) (Wire.Silent.refl w')
  | false =>
      obtain ⟨released, hrun, hreleased⟩ := hshaped.isReleased_without_status
      rw [hrun, Attempt.liftM_ok_bind, if_neg Bool.false_ne_true]
      cases released with
      | true =>
          obtain ⟨w'', hsilent, hreport⟩ := Wire.run_report (.statusSkipped identity) w'
          rw [if_pos rfl, Attempt.run_bind_ok hreport]
          exact .unfollowed hseparate hput (.inr (hreleased.1 rfl)) hsilent
      | false =>
          have hheld : ¬ Body.Released (.obj fields) := by
            intro h
            cases hreleased.2 h
          obtain ⟨version, second, hversion, hbody, hsecond⟩ :=
            hshaped.statusBody hstatus hanswer
          rw [if_neg Bool.false_ne_true, hbody, Attempt.liftM_ok_bind, hpath,
            Attempt.liftM_ok_bind]
          exact .followed hseparate hput hstatus hheld hversion hsecond
            (puts_put hserver hsettings _ _ _)

theorem replaceObject_eq {path : String} {fields : Fields} {identity : Identity}
    (hidentity : Body.identify (.obj fields) = .ok identity)
    (hpath : r.path (identity.ns.orElse .null) identity.name .null = .ok path) :
    let separate := r.subresources.contains "status"
    let main : Value := .obj (if separate then Fields.erase fields "status" else fields)
    client.replaceObject r (.obj fields) = client.put path main >>=
      client.putStatus r identity main
        (if separate then Fields.getD fields "status" else .null) := by
  intro separate main
  rw [replaceObject, hidentity, Attempt.liftM_ok_bind]
  simp only [Value.fieldsFor, Attempt.liftM_ok_bind, hpath]
  rfl

/-- An object that can be identified is replaced in one of the ways that there are. The
answers matter only in so far as the version is read from the first one. -/
theorem replaceObject_replaces {network : Network τ} {server : String}
    {networking : Networking} {fields : Fields} {identity : Identity} {w : Wire τ}
    (hidentity : Body.identify (.obj fields) = .ok identity)
    (hnamed : Subject.Named ⟨r, identity.ns.orElse .null, identity.name⟩)
    (hanswers : ∀ request number response content, request.method = "put" →
      network.outcome request w.state number = .ok response →
      response.read = .ok content → Body.Identified content) :
    let client : Client τ := ⟨network, .str server, some networking⟩
    ∃ path, Subject.path ⟨r, identity.ns.orElse .null, identity.name⟩ = .ok path ∧
      client.Replaces r path fields w ((client.replaceObject r (.obj fields)).run w) := by
  intro client
  have hserver : client.server = .str server := rfl
  have hsettings : client.networking = some networking := rfl
  obtain ⟨list, name, -, -, -, hpath⟩ := hnamed.path_eq
  refine ⟨list ++ "/" ++ name, hpath, ?_⟩
  obtain ⟨top, md, hshaped⟩ := Body.identified_iff_shaped.1 ⟨identity, hidentity⟩
  obtain rfl := Value.obj.inj hshaped.body_eq
  rw [replaceObject_eq hidentity hpath, Attempt.run_bind]
  cases hseparate : r.subresources.contains "status" with
  | false =>
      have hwhole : "status" ∉ r.subresources := by
        intro h
        rw [List.contains_iff_mem.2 h] at hseparate
        cases hseparate
      have hput := puts_put hserver hsettings (list ++ "/" ++ name) (.obj fields) w
      simp only [Bool.false_eq_true, if_false]
      split
      · next answer w' hrun =>
          rw [hrun] at hput
          exact .whole hwhole hput
      · next fault w' hrun =>
          rw [hrun] at hput
          exact .whole hwhole hput
  | true =>
      have hmem : "status" ∈ r.subresources := List.contains_iff_mem.1 hseparate
      have hput := puts_put hserver hsettings (list ++ "/" ++ name)
        (.obj (Fields.erase fields "status")) w
      simp only [if_true]
      split
      · next answer w' hrun =>
          rw [hrun] at hput
          obtain ⟨request, number, response, hmethod, houtcome, hread⟩ := hput.exists_response
          exact replaces_of_answer hserver hsettings hmem hshaped (hnamed.path_status hpath)
            hput (hanswers request number response answer hmethod houtcome hread)
      · next fault w' hrun =>
          rw [hrun] at hput
          exact .failed hmem hput

/-- A pod with a status takes two requests. The server has given it the version 2 by then. -/
theorem pod_and_status_put :
    let pods := Scheme.core "" "v1" "pods" "Pod" ["status"]
    let identity := Identity.ofTexts "ns" "Pod" "p"
    let body (version : String) : Fields := [("apiVersion", .str "v1"), ("kind", .str "Pod"),
      ("metadata", .obj [("namespace", .str "ns"), ("name", .str "p"),
        ("resourceVersion", .str version)])]
    let status : Fields := [("status", .obj [("phase", .str "Running")])]
    let answer : Except Fault Response := .ok ⟨.int 200, .value (.obj (body "2"))⟩
    let networking : Networking := ⟨.int 300, .null, .listed []⟩
    let client : Client (List (Except Fault Response)) :=
      ⟨.prepared, .str "https://server", some networking⟩
    let w := Wire.start [answer, answer] (some networking)
    let run := (client.replaceObject pods (.obj (body "1" ++ status))).run w
    Body.identify (.obj (body "1" ++ status)) = .ok identity ∧
      Subject.Named ⟨pods, identity.ns.orElse .null, identity.name⟩ ∧
      (∃ path, Subject.path ⟨pods, identity.ns.orElse .null, identity.name⟩ = .ok path ∧
        client.Replaces pods path (body "1" ++ status) w run) ∧
      run.2.sent.map (fun request => (request.url, request.payload)) =
        [("https://server/api/v1/namespaces/ns/pods/p", .obj (body "1")),
          ("https://server/api/v1/namespaces/ns/pods/p/status", .obj (body "2" ++ status))] := by
  intro pods identity body status answer networking client w run
  have hidentity : Body.identify (.obj (body "1" ++ status)) = .ok identity := rfl
  have hnamed : Subject.Named ⟨pods, identity.ns.orElse .null, identity.name⟩ :=
    ⟨⟨"p", rfl, by decide⟩, fun _ => ⟨"ns", rfl, by decide⟩⟩
  have hanswers : ∀ request number response content, request.method = "put" →
      Network.prepared.outcome request w.state number = .ok response →
      response.read = .ok content → Body.Identified content := by
    intro request number response content _ houtcome hread
    have hcontent : Body.Identified (.obj (body "2")) := ⟨identity, rfl⟩
    rw [Network.outcome, Network.prepared_answer] at houtcome
    match number - 1, houtcome with
    | 0, houtcome | 1, houtcome =>
        cases houtcome
        cases hread
        exact hcontent
    | n + 2, houtcome => cases houtcome
  exact ⟨hidentity, hnamed,
    @replaceObject_replaces _ pods .prepared "https://server" networking _ identity w hidentity
      hnamed hanswers, by decide +kernel⟩

end Client

end OperatorCore
