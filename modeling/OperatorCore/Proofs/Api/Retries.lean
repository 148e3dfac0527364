import Mathlib.Order.Bounds.Basic
import OperatorCore.Proofs.Api.Sent

/-!
# How often a request is sent

A request is sent until its outcome is one that it makes no sense to try again after,
or there is no delay left to wait for. So the number of attempts is the least one with
one of the two, and what comes out is the outcome of that attempt: no earlier fault is
raised, and no response is thrown away. Every attempt sends the same request, and the
client sleeps between two attempts for the next delay of the schedule.

The network is any machine that answers requests, so its outcomes may be any sequence
whatever. The induction is on the delays. It meets the outcomes of a network that has
answered once already, which are those of the network itself from the second attempt on.

The loop over the delays has no natural end: its last attempt, which has no delay, is
made on behalf of a null that follows the delays, and it leaves the loop. What would
come behind the loop is not reached (`attemptEach_null`).
-/

namespace OperatorCore

variable {τ : Type}

/-- The delays that may be slept: a number is the only one, and of several delays they are those
before the first null. -/
def Backoffs.schedule : Backoffs → List Value
  | .single .null => []
  | .single delay => [delay]
  | .listed delays | .streamed delays => delays.takeWhile fun delay => !delay.isNull

/-- A null delay is that of the last attempt, so only the delays before it are slept. -/
theorem Backoffs.schedule_eq (backoffs : Backoffs) :
    backoffs.schedule = backoffs.delays.takeWhile fun delay => !delay.isNull := by
  cases backoffs with
  | single delay => cases delay <;> rfl
  | listed delays | streamed delays => rfl

/-- The connection was lost, there was no answer in time, or the server failed: an outcome
after which the request is sent again, if there is a delay left. -/
def retryable : Except Fault Response → Bool
  | .error ⟨.connection _, _⟩ | .error ⟨.timeout, _⟩ | .error ⟨.api .server _ _, _⟩ => true
  | _ => false

theorem retryable_error (fault : Fault) :
    retryable (.error fault) = fault.isRetryable := by
  obtain ⟨reason, cause⟩ := fault
  cases reason with
  | api c payload status => cases c <;> rfl
  | _ => rfl

namespace Network

/-- The state of the network after it has answered a request a number of times. -/
def after (network : Network τ) (request : Request) (t : τ) : Nat → τ
  | 0 => t
  | n + 1 => network.after request (network.exchange request t).2 n

/-- The outcome of the attempt with a number, counted from one. -/
def outcome (network : Network τ) (request : Request) (t : τ) (number : Nat) :
    Except Fault Response :=
  (network.exchange request (network.after request t (number - 1))).1.bind Response.check

/-- The later outcomes are those of the network after its first answer. -/
theorem outcome_add_one (network : Network τ) (request : Request) (t : τ) {number : Nat}
    (h : 1 ≤ number) :
    network.outcome request t (number + 1) =
      network.outcome request (network.exchange request t).2 number := by
  obtain ⟨n, rfl⟩ : ∃ n, number = n + 1 := ⟨number - 1, by omega⟩
  rfl

/-- Prepared answers come one after another, and then there are none. -/
theorem prepared_answer (request : Request) (answers : List (Except Fault Response)) (n : Nat) :
    (prepared.exchange request (prepared.after request answers n)).1 =
      answers[n]?.getD (.error (.of (.connection (.str "no response")))) := by
  induction n generalizing answers with
  | zero => cases answers <;> rfl
  | succ n ih =>
      cases answers with
      | nil => exact ih []
      | cons answer rest => exact ih rest

end Network

/-- The attempt with the number is the last one: the first that is not to be repeated,
or for which there is no delay left. -/
def LastAttempt (outcome : Nat → Except Fault Response) (schedule : List Value)
    (number : Nat) : Prop :=
  IsLeast {n | 1 ≤ n ∧ (retryable (outcome n) = false ∨ n = schedule.length + 1)} number

namespace LastAttempt

variable {outcome : Nat → Except Fault Response} {schedule : List Value}

theorem one_of_not_retryable (h : retryable (outcome 1) = false) :
    LastAttempt outcome schedule 1 :=
  ⟨⟨Nat.le_refl 1, .inl h⟩, fun _ hn => hn.1⟩

theorem one_of_nil : LastAttempt outcome [] 1 :=
  ⟨⟨Nat.le_refl 1, .inr rfl⟩, fun _ hn => hn.1⟩

/-- One more attempt before all others, which goes on with the others if it is to be
repeated. -/
theorem succ {outcome' : Nat → Except Fault Response} {delay : Value} {number : Nat}
    (hfirst : retryable (outcome 1) = true)
    (hrest : ∀ n, 1 ≤ n → outcome (n + 1) = outcome' n)
    (h : LastAttempt outcome' schedule number) :
    LastAttempt outcome (delay :: schedule) (number + 1) := by
  obtain ⟨⟨hpos, hends⟩, hleast⟩ := h
  refine ⟨⟨by omega, ?_⟩, ?_⟩
  · rw [hrest number hpos, List.length_cons]
    exact hends.imp_right fun hlast => by omega
  · rintro n ⟨hn, hends'⟩
    obtain rfl | hn' := Nat.eq_or_lt_of_le hn
    · rw [hfirst, List.length_cons] at hends'
      rcases hends' with hends' | hends'
      · cases hends'
      · omega
    · have hle : number ≤ n - 1 := by
        refine hleast ⟨by omega, ?_⟩
        rw [← hrest (n - 1) (by omega), Nat.sub_add_cancel hn]
        rw [List.length_cons] at hends'
        exact hends'.imp_right fun hlast => by omega
      omega

end LastAttempt

/-! ## One attempt -/

namespace Wire

/-- Nothing was sent, and there was no sleep. -/
structure Silent (w w' : Wire τ) : Prop where
  state_eq : w'.state = w.state
  sent_eq : w'.sent = w.sent
  sleeps_eq : w'.sleeps = w.sleeps

theorem Silent.refl (w : Wire τ) : Silent w w := ⟨rfl, rfl, rfl⟩

theorem Silent.trans {a b c : Wire τ} (h : Silent a b) (h' : Silent b c) : Silent a c :=
  ⟨h'.state_eq.trans h.state_eq, h'.sent_eq.trans h.sent_eq,
    h'.sleeps_eq.trans h.sleeps_eq⟩

/-- A request was sent once, and there was no sleep. -/
structure Exchanged (network : Network τ) (request : Request) (w w' : Wire τ) :
    Prop where
  state_eq : w'.state = (network.exchange request w.state).2
  sent_eq : w'.sent = w.sent ++ [request]
  sleeps_eq : w'.sleeps = w.sleeps

theorem Exchanged.silent {network : Network τ} {request : Request} {w₀ w w' w'' : Wire τ}
    (hbefore : Silent w₀ w) (h : Exchanged network request w w') (hafter : Silent w' w'') :
    Exchanged network request w₀ w'' :=
  ⟨by rw [hafter.state_eq, h.state_eq, hbefore.state_eq],
    by rw [hafter.sent_eq, h.sent_eq, hbefore.sent_eq],
    by rw [hafter.sleeps_eq, h.sleeps_eq, hbefore.sleeps_eq]⟩

theorem run_send (network : Network τ) (request : Request) (w : Wire τ) :
    ∃ w', Exchanged network request w w' ∧
      (send network request).run w = (network.outcome request w.state 1, w') := by
  refine ⟨_, ?_, rfl⟩
  exact ⟨rfl, rfl, rfl⟩

/-- What is done under a condition and is not seen by anyone does not matter. -/
theorem run_unless {α : Type} {c : Prop} [Decidable c] {x : Attempt (Wire τ) Unit}
    (hx : ∀ w, ∃ w', Silent w w' ∧ x.run w = (.ok (), w')) (y : Attempt (Wire τ) α)
    (w : Wire τ) :
    ∃ w', Silent w w' ∧ (if c then x >>= fun _ => y else y).run w = y.run w' := by
  split
  · obtain ⟨w', hsilent, hrun⟩ := hx w
    exact ⟨w', hsilent, Attempt.run_bind_ok hrun⟩
  · exact ⟨w, Silent.refl w, rfl⟩

theorem run_report (notice : Notice) (w : Wire τ) :
    ∃ w', Silent w w' ∧ (report notice).run w = (.ok (), w') := by
  refine ⟨_, ?_, rfl⟩
  exact ⟨rfl, rfl, rfl⟩

/-- The client slept for a delay, and nothing was sent. -/
structure Slept (delay : Value) (w w' : Wire τ) : Prop where
  state_eq : w'.state = w.state
  sent_eq : w'.sent = w.sent
  sleeps_eq : w'.sleeps = w.sleeps ++ [delay]

theorem run_sleep {α : Type} (notice : Notice) (delay : Value) (x : Attempt (Wire τ) α)
    (w : Wire τ) :
    ∃ w', Slept delay w w' ∧
      (report notice >>= fun _ => sleep delay >>= fun _ => x).run w = x.run w' := by
  refine ⟨_, ?_, rfl⟩
  exact ⟨rfl, rfl, rfl⟩

theorem run_takeDelay (w : Wire τ) :
    ∃ w', Silent w w' ∧ takeDelay.run w = (.ok (), w') := by
  refine ⟨_, ?_, rfl⟩
  exact ⟨rfl, rfl, rfl⟩

end Wire

namespace Client

/-- The loop over the delays, with what would come behind it. -/
def attemptEach (client : Client τ) (request : Request) (what : String)
    (total : Option Nat) (ending : Attempt (Wire τ) Response) (number : Nat) :
    List Value → Attempt (Wire τ) Response
  | [] => ending
  | delay :: rest =>
    client.attemptOnce request what ⟨number, total⟩ fun fault =>
      if delay.isNull then escalate what ⟨number, total⟩ fault
      else do
        Wire.report (.retrying ⟨number, total⟩ what fault.literal)
        Wire.sleep delay
        attemptEach client request what total ending (number + 1) rest

/-- A null delay ends the loop, so nothing behind the loop is reached. -/
theorem attemptEach_null (client : Client τ) (request : Request) (what : String)
    (total : Option Nat) (ending : Attempt (Wire τ) Response) (number : Nat)
    (delays : List Value) :
    client.attemptEach request what total ending number (delays ++ [.null]) =
      client.attemptFrom request what total number delays := by
  induction delays generalizing number with
  | nil =>
      rw [attemptFrom_nil]
      rfl
  | cons delay rest ih =>
      rw [attemptFrom_cons, List.cons_append, attemptEach, ih]

theorem run_escalate (what : String) (n : AttemptNumber) (fault : Fault) (w : Wire τ) :
    ∃ w', Wire.Silent w w' ∧ (escalate what n fault).run w = (.error fault, w') := by
  refine ⟨_, ?_, rfl⟩
  exact ⟨rfl, rfl, rfl⟩

/-- One attempt sends the request once, whatever it reports before and afterwards, and its
outcome decides what comes next. -/
theorem run_attemptOnce (client : Client τ) (request : Request) (what : String)
    (n : AttemptNumber) (retry : Fault → Attempt (Wire τ) Response) (w : Wire τ) :
    ∃ w', Wire.Exchanged client.network request w w' ∧
      (client.attemptOnce request what n retry).run w =
        match client.network.outcome request w.state 1 with
        | .ok response => (.ok response, w')
        | .error fault =>
          if retryable (.error fault) then (retry fault).run w' else (.error fault, w') := by
  obtain ⟨w₁, htaken, hrun₁⟩ := Wire.run_unless (c := n.total.isNone = true)
    Wire.run_takeDelay _ w
  obtain ⟨w₂, hreported, hrun₂⟩ := Wire.run_unless (c := 1 < n.number)
    (Wire.run_report (.attempting n what)) _ w₁
  obtain ⟨w₃, hexchanged, hsent⟩ := Wire.run_send client.network request w₂
  have hbefore := htaken.trans hreported
  rw [hbefore.state_eq] at hsent
  have hexchanged' := hexchanged.silent hbefore (Wire.Silent.refl w₃)
  rw [attemptOnce, hrun₁, hrun₂, Attempt.run_bind, Attempt.run_outcome, hsent]
  cases client.network.outcome request w.state 1 with
  | ok response =>
      obtain ⟨w₄, hafter, hrun₄⟩ := Wire.run_unless (c := 1 < n.number)
        (Wire.run_report (.attemptSucceeded n what)) (pure response) w₃
      exact ⟨w₄, hexchanged.silent hbefore hafter, hrun₄⟩
  | error fault =>
      refine ⟨w₃, hexchanged', ?_⟩
      simp only [retryable_error]
      cases fault.isRetryable <;> rfl

/-- After an outcome that it makes no sense to repeat, the request is not sent again. -/
theorem run_attemptOnce_of_not_retryable {client : Client τ} {request : Request}
    {w : Wire τ} (h : retryable (client.network.outcome request w.state 1) = false)
    (what : String) (n : AttemptNumber) (retry : Fault → Attempt (Wire τ) Response) :
    ∃ w', Wire.Exchanged client.network request w w' ∧
      (client.attemptOnce request what n retry).run w =
        (client.network.outcome request w.state 1, w') := by
  obtain ⟨w', hexchanged, hrun⟩ := run_attemptOnce client request what n retry w
  refine ⟨w', hexchanged, hrun.trans ?_⟩
  cases houtcome : client.network.outcome request w.state 1 with
  | ok response => rfl
  | error fault =>
      rw [houtcome] at h
      simp only [h, Bool.false_eq_true, if_false]

theorem run_attemptOnce_of_retryable {client : Client τ} {request : Request}
    {w : Wire τ} (h : retryable (client.network.outcome request w.state 1) = true)
    (what : String) (n : AttemptNumber) (retry : Fault → Attempt (Wire τ) Response) :
    ∃ fault w', client.network.outcome request w.state 1 = .error fault ∧
      Wire.Exchanged client.network request w w' ∧
      (client.attemptOnce request what n retry).run w = (retry fault).run w' := by
  obtain ⟨w', hexchanged, hrun⟩ := run_attemptOnce client request what n retry w
  cases houtcome : client.network.outcome request w.state 1 with
  | ok response =>
      rw [houtcome] at h
      cases h
  | error fault =>
      refine ⟨fault, w', rfl, hexchanged, hrun.trans ?_⟩
      rw [houtcome] at h
      simp only [houtcome, h, if_true]

/-- Where there is no delay left, a fault is escalated, and so it is the outcome. -/
theorem run_attemptOnce_escalate (client : Client τ) (request : Request) (what : String)
    (n : AttemptNumber) (w : Wire τ) :
    ∃ w', Wire.Exchanged client.network request w w' ∧
      (client.attemptOnce request what n (escalate what n)).run w =
        (client.network.outcome request w.state 1, w') := by
  cases h : retryable (client.network.outcome request w.state 1) with
  | false => exact run_attemptOnce_of_not_retryable h what n _
  | true =>
      obtain ⟨fault, w', houtcome, hexchanged, hrun⟩ :=
        run_attemptOnce_of_retryable h what n (escalate what n)
      obtain ⟨w'', hsilent, hescalated⟩ := run_escalate what n fault w'
      refine ⟨w'', hexchanged.silent (Wire.Silent.refl w) hsilent, ?_⟩
      rw [hrun, hescalated, houtcome]

end Client

/-! ## All attempts -/

/-- A run has sent the request until the last attempt, and has slept in between. -/
structure Network.Retried (network : Network τ) (request : Request) (schedule : List Value)
    (w : Wire τ) (run : Except Fault Response × Wire τ) (number : Nat) : Prop where
  last : LastAttempt (network.outcome request w.state) schedule number
  answer_eq : run.1 = network.outcome request w.state number
  sent_eq : run.2.sent = w.sent ++ List.replicate number request
  sleeps_eq : run.2.sleeps = w.sleeps ++ schedule.take (number - 1)

namespace Network.Retried

variable {network : Network τ} {request : Request} {schedule : List Value}

theorem once {w w' : Wire τ} (hexchanged : Wire.Exchanged network request w w')
    (hlast : LastAttempt (network.outcome request w.state) schedule 1) :
    network.Retried request schedule w (network.outcome request w.state 1, w') 1 where
  last := hlast
  answer_eq := rfl
  sent_eq := hexchanged.sent_eq
  sleeps_eq := by
    rw [hexchanged.sleeps_eq, Nat.sub_self, List.take_zero, List.append_nil]

/-- One attempt and one sleep before all the others. -/
theorem again {w w' w'' : Wire τ} {delay : Value} {number : Nat}
    {run : Except Fault Response × Wire τ}
    (hretryable : retryable (network.outcome request w.state 1) = true)
    (hexchanged : Wire.Exchanged network request w w')
    (hslept : Wire.Slept delay w' w'')
    (h : network.Retried request schedule w'' run number) :
    network.Retried request (delay :: schedule) w run (number + 1) := by
  have hstate : w''.state = (network.exchange request w.state).2 :=
    hslept.state_eq.trans hexchanged.state_eq
  have hpos : 1 ≤ number := h.last.1.1
  have hlater : ∀ n, 1 ≤ n → network.outcome request w.state (n + 1) =
      network.outcome request w''.state n := by
    intro n hn
    rw [network.outcome_add_one request w.state hn, hstate]
  exact {
    last := h.last.succ hretryable hlater
    answer_eq := h.answer_eq.trans (hlater number hpos).symm
    sent_eq := by
      rw [h.sent_eq, hslept.sent_eq, hexchanged.sent_eq, List.append_assoc, List.replicate_succ]
      rfl
    sleeps_eq := by
      obtain ⟨n, rfl⟩ : ∃ n, number = n + 1 := ⟨number - 1, by omega⟩
      rw [h.sleeps_eq, hslept.sleeps_eq, hexchanged.sleeps_eq, List.append_assoc]
      rfl }

end Network.Retried

namespace Client

/-- From whichever attempt on, the request is sent up to the last one. -/
theorem retried_attemptFrom (client : Client τ) (request : Request) (what : String)
    (total : Option Nat) (number : Nat) (delays : List Value) (w : Wire τ) :
    ∃ last, client.network.Retried request (delays.takeWhile fun delay => !delay.isNull) w
      ((client.attemptFrom request what total number delays).run w) last := by
  induction delays generalizing number w with
  | nil =>
      rw [attemptFrom_nil]
      obtain ⟨w', hexchanged, hrun⟩ :=
        run_attemptOnce_escalate client request what ⟨number, total⟩ w
      rw [hrun]
      exact ⟨1, .once hexchanged .one_of_nil⟩
  | cons delay rest ih =>
      rw [attemptFrom_cons]
      cases hretryable : retryable (client.network.outcome request w.state 1) with
      | false =>
          obtain ⟨w', hexchanged, hrun⟩ :=
            run_attemptOnce_of_not_retryable hretryable what ⟨number, total⟩ _
          rw [hrun]
          exact ⟨1, .once hexchanged (.one_of_not_retryable hretryable)⟩
      | true =>
          -- a null delay ends the schedule, as the end of the list does
          cases hnull : delay.isNull with
          | true =>
              obtain ⟨w', hexchanged, hrun⟩ :=
                run_attemptOnce_escalate client request what ⟨number, total⟩ w
              simp only [if_true]
              rw [hrun, List.takeWhile_cons_of_neg (by simp [hnull])]
              exact ⟨1, .once hexchanged .one_of_nil⟩
          | false =>
              obtain ⟨fault, w', -, hexchanged, hrun⟩ :=
                run_attemptOnce_of_retryable hretryable what ⟨number, total⟩ _
              rw [hrun, List.takeWhile_cons_of_pos (by simp [hnull])]
              obtain ⟨w'', hslept, hrun'⟩ :=
                Wire.run_sleep (.retrying ⟨number, total⟩ what fault.literal) delay
                  (client.attemptFrom request what total (number + 1) rest) w'
              obtain ⟨last, hlast⟩ := ih (number + 1) w''
              simp only [Bool.false_eq_true, if_false]
              rw [hrun']
              exact ⟨last + 1, hlast.again hretryable hexchanged hslept⟩

end Client

/-! ## What is retried -/

theorem Value.equal_int (a b : Int) : (Value.int a).equal (.int b) = decide (a = b) := by
  simp [Value.equal, Value.normal]

theorem Value.isBelow_int (a b : Int) : (Value.int a).isBelow b = .ok (decide (a < b)) := by
  have hlt : (compare a b == Ordering.lt) = decide (a < b) := by
    rw [Bool.eq_iff_iff, beq_iff_eq, decide_eq_true_iff, compare_lt_iff_lt]
  exact congrArg Except.ok hlt

theorem Value.isAtLeast_int (a b : Int) :
    (Value.int a).isAtLeast b = .ok (decide (b ≤ a)) := by
  have hle : (compare a b != Ordering.lt) = decide (b ≤ a) := by
    rw [Bool.eq_iff_iff, bne_iff_ne, decide_eq_true_iff, ne_eq, compare_lt_iff_lt, Int.not_lt]
  exact congrArg Except.ok hle

/-- An error can do without the content, if it cannot be read. -/
def Content.Tolerated (content : Content) : Prop :=
  ∀ fault, content = .unreadable fault → fault.isTolerated = true

namespace Response

/-- Four statuses have a class of their own, and the others that of their hundreds. -/
theorem classOf_int (status : Int) :
    classOf (.int status) = .ok
      (if status = 401 then .unauthorized
      else if status = 403 then .forbidden
      else if status = 404 then .notFound
      else if status = 409 then .conflict
      else if status < 500 then .client
      else if status < 600 then .server
      else .other) := by
  simp only [classOf, Value.equal_int, Value.isBelow_int, bind, Except.bind, pure,
    Except.pure, decide_eq_true_eq]
  split_ifs <;> rfl

theorem classOf_eq_server_iff (status : Int) :
    classOf (.int status) = .ok .server ↔ 500 ≤ status ∧ status ≤ 599 := by
  rw [classOf_int, Except.ok.injEq]
  split_ifs <;> simp only [false_iff, true_iff] <;> omega

theorem check_of_below {status : Int} (h : status < 400) (content : Content) :
    check ⟨.int status, content⟩ = .ok ⟨.int status, content⟩ := by
  have hbelow : decide (400 ≤ status) = false := decide_eq_false (by omega)
  simp only [check, Value.isAtLeast_int, hbelow]
  rfl

/-- A status of 400 or more. -/
def IsError (r : Response) : Prop := r.status.isAtLeast 400 = .ok true

theorem isError_int {status : Int} (h : 400 ≤ status) (content : Content) :
    IsError ⟨.int status, content⟩ := by
  rw [IsError, Value.isAtLeast_int, decide_eq_true h]

/-- A value that can be compared with one number can be compared with all of them. -/
theorem exists_isBelow {v : Value} {n : Int} {b : Bool} (h : v.isAtLeast n = .ok b) (m : Int) :
    ∃ b', v.isBelow m = .ok b' := by
  cases v with
  | bool _ | int _ | float _ => exact ⟨_, rfl⟩
  | _ => cases h

/-- What becomes of an error depends on its status and on what is disclosed. -/
theorem check_of_isError {r : Response} (h : r.IsError) :
    ∃ c, classOf r.status = .ok c ∧ r.check = r.disclosed.bind fun payload =>
      .error (Fault.because (.of (.api c payload r.status)) (.of .badStatus)) := by
  have hclass : ∃ c, classOf r.status = .ok c := by
    obtain ⟨below500, h500⟩ := exists_isBelow h 500
    obtain ⟨below600, h600⟩ := exists_isBelow h 600
    simp only [classOf, h500, h600, bind, Except.bind, pure, Except.pure]
    split_ifs <;> exact ⟨_, rfl⟩
  obtain ⟨c, hc⟩ := hclass
  refine ⟨c, hc, ?_⟩
  rw [check, show r.status.isAtLeast 400 = .ok true from h]
  simp only [hc, bind, Except.bind, if_true]

theorem disclosed_of_unreadable (status : Value) (fault : Fault) :
    disclosed ⟨status, .unreadable fault⟩ =
      if fault.isTolerated then .ok none else .error fault :=
  rfl

theorem exists_disclosed (status : Value) {content : Content} (h : content.Tolerated) :
    ∃ payload, disclosed ⟨status, content⟩ = .ok payload := by
  cases content with
  | value v => cases v <;> exact ⟨_, rfl⟩
  | unreadable fault => exact ⟨none, by rw [disclosed_of_unreadable, if_pos (h fault rfl)]⟩

/-- Of all the statuses, those of a fault of the server are retried. -/
theorem retryable_check_iff (status : Int) {content : Content} (hcontent : content.Tolerated) :
    retryable (check ⟨.int status, content⟩) = true ↔ 500 ≤ status ∧ status ≤ 599 := by
  by_cases h : status < 400
  · refine iff_of_false ?_ (by omega)
    rw [check_of_below h]
    exact Bool.false_ne_true
  · obtain ⟨c, hclass, hcheck⟩ := check_of_isError (isError_int (Int.not_lt.1 h) content)
    obtain ⟨payload, hpayload⟩ := exists_disclosed (.int status) hcontent
    rw [hpayload] at hcheck
    rw [← classOf_eq_server_iff, hclass, hcheck, Except.ok.injEq]
    cases c <;> simp [Except.bind, retryable, Fault.because, Fault.of]

/-- A fault of reading the content of an error takes the place of the error, unless it is
tolerated. -/
theorem check_of_not_tolerated {r : Response} (h : r.IsError) {fault : Fault}
    (hcontent : r.content = .unreadable fault) (hfault : fault.isTolerated = false) :
    r.check = .error fault := by
  obtain ⟨status, content⟩ := r
  obtain rfl : content = .unreadable fault := hcontent
  obtain ⟨c, -, hcheck⟩ := check_of_isError h
  rw [hcheck, disclosed_of_unreadable, hfault]
  rfl

end Response

/-! ## Requests -/

/-- A request with time limits of its own, or else with those of the settings. -/
def Networking.requestTo (networking : Networking) (method target : String)
    (payload headers params : Value) (timeout : Option (Value × Value)) : Request :=
  let limits := timeout.getD (networking.requestTimeout, networking.connectTimeout)
  { method, url := target, payload, headers, params
    totalTimeout := limits.1, connectTimeout := limits.2 }

namespace Client

/-- A URL, or a path on a server, can always be resolved. -/
theorem resolve_text {client : Client τ} {server : String}
    (hserver : client.server = .str server) (url : String) :
    ∃ target, client.resolve (.str url) = .ok target := by
  cases hwhole : Value.occursIn "://".toList url.toList with
  | true =>
      refine ⟨url, ?_⟩
      simp only [resolve, Value.contains, hwhole]
      rfl
  | false =>
      obtain ⟨target, htarget⟩ :
          ∃ target, ResourceKind.onServer client.server url = .ok target := by
        rw [hserver]
        exact ⟨_, rfl⟩
      refine ⟨target, htarget ▸ ?_⟩
      simp only [resolve, Value.contains, hwhole, hserver]
      rfl

/-- If the delays are not a stream, the attempts start with all of them. -/
theorem request_of_finite {client : Client τ} {networking : Networking} {url target : String}
    (hsettings : client.networking = some networking)
    (hfinite : ∀ delays, networking.backoffs ≠ .streamed delays)
    (htarget : client.resolve (.str url) = .ok target) (method : String)
    (payload headers params : Value) (timeout : Option (Value × Value)) :
    client.request (.str method) (.str url) payload headers params timeout =
      client.attemptFrom
        (networking.requestTo method target payload headers params timeout)
        (Text.upper method ++ " " ++ target) networking.backoffs.attempts? 1
        networking.backoffs.delays := by
  rw [request, htarget, Attempt.liftM_ok_bind, settings, hsettings]
  cases hbackoffs : networking.backoffs with
  | streamed delays => exact absurd hbackoffs (hfinite delays)
  | single delay | listed delays =>
      simp only [Attempt.liftM_ok_bind, methodName, hbackoffs]
      rfl

/-- A request is sent up to the last attempt and answers what that one has come to, after
the delays before it and no others; the end behind the loop is not reached. Of the
statuses, those of a server's fault are worth another attempt, unless the content cannot be
read and the fault of reading it comes out instead. -/
theorem request_retried {network : Network τ} {server : String} {networking : Networking}
    (hfinite : ∀ delays, networking.backoffs ≠ .streamed delays) (method url : String)
    (payload headers params : Value) (timeout : Option (Value × Value)) (w : Wire τ) :
    let client : Client τ := ⟨network, .str server, some networking⟩
    let run := (client.request (.str method) (.str url) payload headers params timeout).run w
    (∃ target number, client.resolve (.str url) = .ok target ∧
      let request := networking.requestTo method target payload headers params timeout
      network.Retried request networking.backoffs.schedule w run number ∧
        ∀ ending, (client.attemptEach request (Text.upper method ++ " " ++ target)
          networking.backoffs.attempts? ending 1
          (networking.backoffs.delays ++ [.null])).run w = run) ∧
      ∀ status content,
        (content.Tolerated → (retryable (Response.check ⟨.int status, content⟩) = true ↔
          500 ≤ status ∧ status ≤ 599)) ∧
        ∀ fault, 400 ≤ status → content = .unreadable fault → fault.isTolerated = false →
          Response.check ⟨.int status, content⟩ = .error fault := by
  intro client run
  have hserver : client.server = .str server := rfl
  have hsettings : client.networking = some networking := rfl
  obtain ⟨target, htarget⟩ := resolve_text hserver url
  have hrequest := request_of_finite hsettings hfinite htarget method payload headers params
    timeout
  constructor
  · obtain ⟨number, hretried⟩ := retried_attemptFrom client
      (networking.requestTo method target payload headers params timeout)
      (Text.upper method ++ " " ++ target) networking.backoffs.attempts? 1
      networking.backoffs.delays w
    rw [← hrequest, ← Backoffs.schedule_eq] at hretried
    refine ⟨target, number, htarget, hretried, ?_⟩
    intro ending
    rw [attemptEach_null, ← hrequest]
  · intro status content
    refine ⟨Response.retryable_check_iff status, ?_⟩
    intro fault hstatus hcontent hfault
    exact Response.check_of_not_tolerated (Response.isError_int hstatus content) hcontent hfault

/-- A server that fails, does not answer in time, and then recovers. With three delays the
third attempt is the last one, so the third delay is not slept; with a number there is one
delay, and no third attempt. -/
theorem request_retried_of_recovering :
    let networking (backoffs : Backoffs) : Networking := ⟨.int 300, .null, backoffs⟩
    let client (backoffs : Backoffs) : Client (List (Except Fault Response)) :=
      ⟨.prepared, .str "https://server", some (networking backoffs)⟩
    let w := Wire.start
      [.ok ⟨.int 503, .value .null⟩, .error (.of .timeout), .ok ⟨.int 200, .value .null⟩] none
    let run (backoffs : Backoffs) :=
      ((client backoffs).request (.str "get") (.str "/pods") .null .null .null none).run w
    let retried (backoffs : Backoffs) := ∃ target number,
      (client backoffs).resolve (.str "/pods") = .ok target ∧ Network.prepared.Retried
        ((networking backoffs).requestTo "get" target .null .null .null none)
        backoffs.schedule w (run backoffs) number
    let several : Backoffs := .listed [.int 1, .int 2, .int 3]
    let one : Backoffs := .single (.int 2)
    (∀ delays, several ≠ .streamed delays) ∧ (∀ delays, one ≠ .streamed delays) ∧
      (retried several ∧ (run several).2.sleeps = [.int 1, .int 2]) ∧
      (retried one ∧ (run one).2.sleeps = [.int 2]) := by
  intro networking client w run retried several one
  have hseveral : ∀ delays, several ≠ .streamed delays := fun _ h => Backoffs.noConfusion h
  have hone : ∀ delays, one ≠ .streamed delays := fun _ h => Backoffs.noConfusion h
  obtain ⟨⟨target, number, htarget, hretried, -⟩, -⟩ :=
    @request_retried _ .prepared "https://server" (networking several) hseveral "get" "/pods"
      .null .null .null none w
  obtain ⟨⟨target', number', htarget', hretried', -⟩, -⟩ :=
    @request_retried _ .prepared "https://server" (networking one) hone "get" "/pods"
      .null .null .null none w
  exact ⟨hseveral, hone, ⟨⟨target, number, htarget, hretried⟩, by decide +kernel⟩,
    ⟨target', number', htarget', hretried'⟩, by decide +kernel⟩

end Client

end OperatorCore
