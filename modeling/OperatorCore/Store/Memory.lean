import OperatorCore.Object.Observable
import OperatorCore.Store.Basic

/-!
# The store in memory

A store that keeps its objects in memory with the optimistic concurrency of a real server: every
write gives the object a new version, a number that is never given again, and an update that carries
another version than the stored one is a conflict. All calls are recorded, also those that fail, and
the failure of any call on an object can be injected.

The objects stay in the order in which they were added; one that is replaced keeps its place. What
is placed under an identity is found under it, and all other identities keep what they had
(`MemoryStore.object?_place`).
-/

namespace OperatorCore

/-- A call of a store: what was done, and to which object. -/
abbrev Call := Operation × Identity

/-- The state of a store in memory. -/
structure MemoryStore where
  objects : List (Identity × Value)
  calls : List Call
  failures : List (Call × Fault)
  nextVersion : Nat
deriving Inhabited

namespace MemoryStore

def empty : MemoryStore := ⟨[], [], [], 1⟩

/-- Only identities whose parts are neither lists nor objects can be looked up. -/
def checkKey (i : Identity) : Except Fault Unit :=
  match [i.ns, i.kind, i.name].find? fun v => v matches .arr _ | .obj _ with
  | some v => .error (.misuse (.unhashable v.typeName))
  | none => .ok ()

/-- The object that is stored under an identity. -/
def object? (s : MemoryStore) (i : Identity) : Option Value :=
  (s.objects.find? fun p => p.1.same i).map Prod.snd

/-- Stores an object under an identity, in the place of the one that it replaces. -/
def place (i : Identity) (body : Value) : List (Identity × Value) → List (Identity × Value)
  | [] => [(i, body)]
  | (j, old) :: rest => if j.same i then (j, body) :: rest else (j, old) :: place i body rest

/-- What is stored under an identity is found under it, and under no other. -/
theorem object?_place (s : MemoryStore) (i j : Identity) (body : Value) :
    object? { s with objects := place i body s.objects } j =
      if i.same j then some body else s.object? j := by
  obtain ⟨objects, calls, failures, nextVersion⟩ := s
  simp only [object?]
  induction objects with
  | nil => by_cases h : i.same j <;> simp [place, h]
  | cons p rest ih =>
    obtain ⟨k, old⟩ := p
    by_cases hk : k.same i
    · have hkj : k.same j = i.same j := by
        rw [Bool.eq_iff_iff]
        exact ⟨Identity.same_trans (Identity.same_symm hk), Identity.same_trans hk⟩
      by_cases h : i.same j <;> simp [place, hk, hkj, h]
    · by_cases hkj : k.same j
      · have h : i.same j = false := by
          rw [Bool.eq_false_iff]
          exact fun h => hk (Identity.same_trans hkj (Identity.same_symm h))
        simp [place, hk, hkj, h]
      · simpa [place, hk, hkj] using ih

def sameCall (c d : Call) : Bool := c.1 = d.1 && c.2.same d.2

/-- The failure that is injected into a call. -/
def failure? (s : MemoryStore) (c : Call) : Option Fault :=
  (s.failures.find? fun p => sameCall p.1 c).map Prod.snd

/-- What the API answers about a failed operation. -/
def statusFault (kind : ApiClass) (code : Int) (reason : Option String) (message : String) :
    Fault :=
  let why : Fields := match reason with
    | some r => [("reason", .str r)]
    | none => []
  .of (.api kind (some (.obj ([("kind", .str "Status"), ("code", .int code)] ++ why ++
    [("message", .str message)]))) (.int code))

def notFound (i : Identity) : Fault :=
  statusFault .notFound 404 (some "NotFound") s!"{i.text} not found."

def alreadyExists (i : Identity) : Fault :=
  statusFault .conflict 409 (some "AlreadyExists") s!"{i.text} already exists."

def stale (i : Identity) : Fault :=
  statusFault .conflict 409 (some "Conflict")
    s!"{i.text} has been modified; please apply to the latest version."

/-- The failure that is injected if no other one is given. -/
def injected (operation : String) : Fault :=
  statusFault .server 500 none s!"Injected failure of {operation}."

/-- Stores a copy of an object with a new version; not a call. -/
def put (body : Value) : Attempt MemoryStore Value := do
  let n ← Attempt.read nextVersion
  Attempt.modify fun s => { s with nextVersion := n + 1 }
  let stored ← Body.setResourceVersion body (.str (toString n))
  let i ← Body.identify stored
  checkKey i
  Attempt.modify fun s => { s with objects := place i stored s.objects }
  pure stored

/-- Makes an operation on an object fail from now on. -/
def fail (op : Operation) (i : Identity) (fault : Fault) : Attempt MemoryStore Unit := do
  checkKey i
  Attempt.modify fun s =>
    { s with
      failures := s.failures.filter (fun p => !sameCall p.1 (op, i)) ++ [((op, i), fault)] }

def clearFailures (s : MemoryStore) : MemoryStore := { s with failures := [] }

/-- Records a call, which fails if a failure is injected into it. -/
def call (op : Operation) (i : Identity) : Attempt MemoryStore Unit := do
  Attempt.modify fun s => { s with calls := s.calls ++ [(op, i)] }
  checkKey i
  match ← Attempt.read (failure? · (op, i)) with
  | some fault => Attempt.fail fault
  | none => pure ()

def get (kind ns name : Value) : Attempt MemoryStore Value := do
  let i : Identity := ⟨ns.orElse (.str ""), kind, name⟩
  call .get i
  match ← Attempt.read (object? · i) with
  | some body => pure body
  | none => Attempt.fail (notFound i)

/-- The objects of a kind, in a namespace or in all of them, that have the labels. -/
def select (kind ns labels : Value) : List (Identity × Value) →
    Except Fault (List Value)
  | [] => .ok []
  | (i, body) :: rest => do
    let here ←
      if i.kind.equal kind && (ns.isNull || i.ns.equal ns) then Labels.matchBody labels body
      else pure false
    let others ← select kind ns labels rest
    pure (if here then body :: others else others)

def list (kind ns labels : Value) : Attempt MemoryStore (List Value) := do
  call .list ⟨ns.orElse (.str ""), kind, .str ""⟩
  let s ← Attempt.state
  select kind ns labels s.objects

def create (body : Value) : Attempt MemoryStore Value := do
  let i ← Body.identify body
  call .create i
  match ← Attempt.read (object? · i) with
  | some _ => Attempt.fail (alreadyExists i)
  | none => put body

def update (body : Value) : Attempt MemoryStore Value := do
  let i ← Body.identify body
  call .update i
  match ← Attempt.read (object? · i) with
  | none => Attempt.fail (notFound i)
  | some current =>
    let version ← Body.resourceVersion body
    if version.isNull || version.equal (← Body.resourceVersion current) then put body
    else Attempt.fail (stale i)

def delete (body : Value) : Attempt MemoryStore Unit := do
  let i ← Body.identify body
  call .delete i
  match ← Attempt.read (object? · i) with
  | none => Attempt.fail (notFound i)
  | some _ =>
    Attempt.modify fun s => { s with objects := s.objects.filter fun p => !p.1.same i }

/-- The calls that were meant to change an object. -/
def mutations (s : MemoryStore) : List Call := s.calls.filter fun c => c.1.isMutating

/-- An injected failure is one and the same fault whenever it comes up: once it has been raised as
the consequence of another fault, it keeps that cause. -/
def blame (body : Value) (cause : Fault) (s : MemoryStore) : MemoryStore :=
  match Body.identify body with
  | .error _ => s
  | .ok i =>
    { s with
      failures := s.failures.map fun p =>
        if sameCall p.1 (.update, i) then (p.1, p.2.because cause) else p }

/-- The reply of an operation; this store reports nothing. -/
def reply {α : Type} (x : Attempt MemoryStore α) (s : MemoryStore) : Reply MemoryStore α :=
  let (outcome, state) := x.run s
  ⟨outcome, state, []⟩

/-- The store in memory as a store for the engine. -/
def asStore : ObjectStore MemoryStore where
  get _ kind ns name := reply (get kind ns name)
  list _ kind ns labels := reply (list kind ns labels)
  create body := reply (create body)
  update body := reply (update body)
  delete body := reply (delete body)
  blame := blame

end MemoryStore

end OperatorCore
