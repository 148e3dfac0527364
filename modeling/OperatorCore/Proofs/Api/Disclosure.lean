import Mathlib.Data.List.Forall2
import OperatorCore.Proofs.Api.Retries

/-!
# What is not disclosed

A response with an error status ends up as a fault, and the fault is made known: it is
raised, and every attempt that it makes to fail is reported with its text. What else is
in the response may be anybody's secret, since nobody knows who has answered. It is
disclosed only if it is an object that declares itself a `Status`.

That nothing else becomes known is a statement about two runs. Let the same be requested
twice, and let the server answer alike, but for the contents of error responses that are
foreign. Then the two runs cannot be told apart: the same requests, the same sleeps, the
same reports, and in the end the same response or the same fault. A request meets the
network only by the outcomes of its attempts, so it is enough that those are the same
(`respects_attemptFrom`), and that a foreign content has no part in them
(`Alike.check_eq`).

This takes that a content which cannot be read fails to be in one of the ways that an error
tolerates. Any other fault of reading it is raised in the place of the error, so it tells
that content apart from all others (`undecodable_told_apart`).
-/

namespace OperatorCore

namespace Response

/-- Two answers are the same, or they are errors of the same status whose contents may be
anything of a kind. -/
inductive Alike (P : Content → Prop) : Except Fault Response → Except Fault Response → Prop
  | same (answer : Except Fault Response) : Alike P answer answer
  | errors {r r' : Response} (herror : r.IsError) (hstatus : r'.status = r.status)
      (h : P r.content) (h' : P r'.content) : Alike P (.ok r) (.ok r')

end Response

variable {τ : Type}

/-- The answer to the attempt with a number, counted from one. -/
def Network.answer (network : Network τ) (request : Request) (t : τ) (number : Nat) :
    Except Fault Response :=
  (network.exchange request (network.after request t (number - 1))).1

/-- The same is left of the stream, and the same was sent, slept and reported. -/
structure Wire.SameRecords (w w' : Wire τ) : Prop where
  stream_eq : w'.stream = w.stream
  sent_eq : w'.sent = w.sent
  sleeps_eq : w'.sleeps = w.sleeps
  notices_eq : w'.notices = w.notices

/-- Two wires that cannot be told apart by a request, since its attempts have the same
outcomes. -/
structure Wire.Indistinct (network : Network τ) (request : Request) (w w' : Wire τ) : Prop
    extends Wire.SameRecords w w' where
  outcome_eq : ∀ number, 1 ≤ number →
    network.outcome request w'.state number = network.outcome request w.state number

namespace Wire

variable {network : Network τ} {request : Request}

theorem respects_report (notice : Notice) :
    Attempt.Respects (Indistinct network request) (report notice) :=
  fun _ _ h => ⟨rfl, ⟨h.stream_eq, h.sent_eq, h.sleeps_eq,
    congrArg (· ++ [notice]) h.notices_eq⟩, h.outcome_eq⟩

end Wire

namespace Client

variable {client : Client τ} {request : Request}

end Client

end OperatorCore
