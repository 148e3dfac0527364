import OperatorCore.Store.Basic

/-!
# Stores that keep a record

What a run asks of its store cannot be read off the state that the store is
left in: a store may forget. So every store has a twin that answers the same
and writes down each request together with the fault that it was answered
with. Whatever is shown of the record of the twin is shown of the requests to
the store, for all stores and for all patterns of failures at once, since a
store is free to fail whenever its state says so.

Writes are told apart from reads already by their type, so that a plan of
writes is a list and not a list with a side condition.
-/

namespace OperatorCore

/-- A request that changes nothing. -/
inductive Read where
  | get (apiVersion kind ns name : Value)
  | list (apiVersion kind ns labels : Value)
deriving DecidableEq

/-- A request to create, update or delete an object. -/
inductive Write where
  | create (body : Value)
  | update (body : Value)
  | delete (body : Value)
deriving DecidableEq

namespace Write

def operation : Write → Operation
  | .create _ => .create
  | .update _ => .update
  | .delete _ => .delete

def body : Write → Value
  | .create body | .update body | .delete body => body

/-- The write deletes its object. -/
def isDelete : Write → Bool
  | .delete _ => true
  | .create _ | .update _ => false

end Write

/-- The fault that a request was answered with, if any. -/
def Reply.fault? {σ α : Type} (reply : Reply σ α) : Option Fault :=
  match reply.outcome with
  | .ok _ => none
  | .error fault => some fault

/-- A write that was requested, and the fault it was answered with, if any. -/
structure Attempted where
  write : Write
  fault : Option Fault

namespace Attempted

/-- The fault of the write, if there is one, has a message. -/
def Told (attempted : Attempted) : Prop :=
  ∀ fault, attempted.fault = some fault → ∃ text, fault.message = .ok text

end Attempted

/-- Anything that was asked of a store. -/
inductive StoreEvent where
  | read (request : Read) (fault : Option Fault)
  | wrote (attempted : Attempted)

namespace StoreEvent

def attempted? : StoreEvent → Option Attempted
  | .read .. => none
  | .wrote attempted => some attempted

end StoreEvent

/-- The state of a store beside all that was asked of it. -/
structure Recorded (σ : Type) where
  state : σ
  events : List StoreEvent

namespace Recorded

variable {σ : Type}

/-- The writes in the record. -/
def attempts (s : Recorded σ) : List Attempted :=
  s.events.filterMap StoreEvent.attempted?

/-- Nothing but reads has been asked between two states. -/
def OnlyRead (s s' : Recorded σ) : Prop :=
  ∃ reads : List (Read × Option Fault),
    s'.events = s.events ++ reads.map fun r => .read r.1 r.2

theorem OnlyRead.refl (s : Recorded σ) : OnlyRead s s := ⟨[], by simp⟩

theorem OnlyRead.trans {a b c : Recorded σ} (h : OnlyRead a b)
    (h' : OnlyRead b c) : OnlyRead a c := by
  obtain ⟨first, hf⟩ := h
  obtain ⟨second, hs⟩ := h'
  exact ⟨first ++ second, by rw [hs, hf, List.map_append, List.append_assoc]⟩

theorem OnlyRead.attempts_eq {s s' : Recorded σ} (h : OnlyRead s s') :
    s'.attempts = s.attempts := by
  obtain ⟨reads, hr⟩ := h
  have hnone : (reads.map fun r => StoreEvent.read r.1 r.2).filterMap
      StoreEvent.attempted? = [] := by
    rw [List.filterMap_eq_nil_iff]
    intro event hmem
    obtain ⟨r, -, rfl⟩ := List.mem_map.1 hmem
    rfl
  rw [attempts, attempts, hr, List.filterMap_append, hnone, List.append_nil]

end Recorded

namespace ObjectStore

variable {σ : Type}

/-- Makes a write. -/
def attempt (store : ObjectStore σ) (write : Write) (s : σ) : Option Fault × σ :=
  match write with
  | .create body => ((store.create body s).fault?, (store.create body s).state)
  | .update body => ((store.update body s).fault?, (store.update body s).state)
  | .delete body => ((store.delete body s).fault?, (store.delete body s).state)

/-- A reply with the request noted in the record. -/
def noted {α : Type} (s : Recorded σ) (event : Option Fault → StoreEvent)
    (reply : Reply σ α) : Reply (Recorded σ) α :=
  ⟨reply.outcome, ⟨reply.state, s.events ++ [event reply.fault?]⟩, reply.notices⟩

/-- The store with a record of all that is asked of it. -/
def recorded (store : ObjectStore σ) : ObjectStore (Recorded σ) where
  get apiVersion kind ns name s :=
    noted s (.read (.get apiVersion kind ns name))
      (store.get apiVersion kind ns name s.state)
  list apiVersion kind ns labels s :=
    noted s (.read (.list apiVersion kind ns labels))
      (store.list apiVersion kind ns labels s.state)
  create body s :=
    noted s (fun fault => .wrote ⟨.create body, fault⟩) (store.create body s.state)
  update body s :=
    noted s (fun fault => .wrote ⟨.update body, fault⟩) (store.update body s.state)
  delete body s :=
    noted s (fun fault => .wrote ⟨.delete body, fault⟩) (store.delete body s.state)
  blame body cause s := { s with state := store.blame body cause s.state }

/-- The twin answers a write as the store does, and notes it. -/
theorem recorded_attempt (store : ObjectStore σ) (write : Write)
    (s : Recorded σ) :
    store.recorded.attempt write s = ((store.attempt write s.state).1,
      ⟨(store.attempt write s.state).2,
        s.events ++ [.wrote ⟨write, (store.attempt write s.state).1⟩]⟩) := by
  cases write <;> rfl

theorem recorded_get (store : ObjectStore σ) (apiVersion kind ns name : Value)
    (s : Recorded σ) :
    Recorded.OnlyRead s (store.recorded.get apiVersion kind ns name s).state :=
  ⟨[(.get apiVersion kind ns name, _)], rfl⟩

theorem recorded_list (store : ObjectStore σ) (apiVersion kind ns labels : Value)
    (s : Recorded σ) :
    Recorded.OnlyRead s (store.recorded.list apiVersion kind ns labels s).state :=
  ⟨[(.list apiVersion kind ns labels, _)], rfl⟩

end ObjectStore

end OperatorCore
