import OperatorCore.Proofs.Diff.Exactness
import OperatorCore.Proofs.Engine.Plan
import OperatorCore.Proofs.Object.StatusUpdate

/-!
# What the default update of the status leaves in a body

The update replaces the status as a whole and looks after one finalizer; all the other
fields stay, and stay where they are. The new status is made of the one that is given and of
the text of the fault, so the old one has no part in it. The answer is that of the difference
between the two bodies, to which a null field is as good as none.

Updating twice is updating once: the second time the status is there, and so are the
finalizers that are kept (`Body.keptField_idem`), and what is put where it is already
changes nothing.

All of this is for a fault with a text. If the fault has none, its own fault is raised, and
the body is left alone.
-/

namespace OperatorCore

variable {ω : Type}

namespace Body

/-- Of two bodies with their metadata, the second one has the given status and the finalizers
of its own, and is the first one otherwise. -/
structure Restated (status : Value) (top md top' md' : Fields) : Prop where
  shaped : Shaped (.obj top') top' md'
  status : Fields.get? top' "status" = some status
  rest : Fields.erase (Fields.erase top' "status") "metadata" =
    Fields.erase (Fields.erase top "status") "metadata"
  metadata : Fields.erase md' "finalizers" = Fields.erase md "finalizers"
  /-- Metadata are added to hold the finalizers only. -/
  added : Fields.has top' "metadata" =
    (Fields.has top "metadata" || Fields.has md' "finalizers")

theorem Shaped.restated {body : Value} {top md : Fields} (h : Shaped body top md)
    (status : Value) (field : Option Value) :
    Restated status top md (Body.refinalize (Fields.put top "status" status) md field)
      (refinalizedMetadata md field) where
  shaped := (h.put_status status).refinalize field
  status := by
    rw [(h.put_status status).get?_refinalize field (by decide), Fields.get?_put, if_pos rfl]
  rest := by
    rw [Fields.erase_comm, erase_refinalize, Fields.erase_comm, Fields.erase_put]
  metadata := erase_refinalizedMetadata md field
  added := by
    rw [(h.put_status status).has_metadata_refinalize, Fields.has, Fields.get?_put,
      if_neg (by decide)]
    rfl

end Body

namespace Resource

/-- The status that is put into a body: what is given, if it is an object, or else an object
that holds it, and the text of the fault, if there is one. -/
def stated (status : Value) (text : Option String) : Value :=
  let given := match status with
    | .obj fields => fields
    | other => [("value", other)]
  .obj (match text with
    | some text => Fields.put given "error" (.str text)
    | none => given)

theorem statusOf_eq (status : Value) (fault : Option Fault) :
    statusOf status fault = (fault.mapM Fault.message).map (stated status) := by
  cases fault with
  | none => cases status <;> rfl
  | some fault =>
      show _ = ((fault.message >>= fun text => pure (some text)) : Except Fault _).map _
      cases hm : fault.message <;> cases status <;> simp [statusOf, hm] <;> rfl

/-- The update fails, before anything is changed, with the fault of a fault without a text. -/
theorem run_updateStatus_mute (finalizer : Value) {fault : Option Fault} {desk : Desk ω}
    {e : Fault} (h : fault.mapM Fault.message = .error e) :
    (updateStatus finalizer fault).run desk = (.error e, desk) := by
  have hassign : (change fun body => do
      body.assign "status" (← statusOf desk.status fault)).run desk = (.error e, desk) := by
    refine run_change_error ?_
    rw [statusOf_eq, h]
    rfl
  simp only [updateStatus, Attempt.run_bind, Attempt.run_state, hassign]

section Replaced

variable (finalizer : Value) {fault : Option Fault} {desk : Desk ω} {top md : Fields}
  {status : Value} {field : Option Value} (h : Body.Shaped desk.resource top md)
  (hstatus : statusOf desk.status fault = .ok status)
  (hfield : Body.keptField finalizer
    (!((Fields.get? md "deletionTimestamp").getD .null).isNull) fault.isNone
    (Fields.get? md "finalizers") = .ok field)
include h hstatus hfield

/-- The body that an update has made is made by the next one again. -/
theorem run_updateStatus_again :
    (updateStatus finalizer fault).run
      { desk with
        resource := .obj (Body.refinalize (Fields.put top "status" status) md field) } =
      (.ok false, { desk with
        resource := .obj (Body.refinalize (Fields.put top "status" status) md field) }) := by
  have hput := h.put_status status
  have hthere := Fields.put_self (h.restated status field).status
  have hfield' : Body.keptField finalizer
      (!((Fields.get? (Body.refinalizedMetadata md field) "deletionTimestamp").getD
        .null).isNull) fault.isNone
      (Fields.get? (Body.refinalizedMetadata md field) "finalizers") = .ok field := by
    rw [hput.get?_refinalizedMetadata field (by decide),
      hput.finalizers_refinalizedMetadata field]
    exact Body.keptField_idem hfield
  have hrun := @run_updateStatus ω finalizer fault
    { desk with resource := .obj (Body.refinalize (Fields.put top "status" status) md field) }
    _ _ status (hput.refinalize field) hstatus field hfield'
  have hsame : diff .full (.obj (Body.refinalize (Fields.put top "status" status) md field))
      (.obj (Body.refinalize (Fields.put top "status" status) md field)) = [] :=
    Diff.walk_of_equal _ [] (Value.equal_refl _)
  rw [hthere, hput.refinalize_again, hsame] at hrun
  exact hrun

/-- Whatever the status was, the same body is made. -/
theorem run_updateStatus_over (old : Value) :
    ∃ changed, (updateStatus finalizer fault).run
      { desk with resource := .obj (Fields.put top "status" old) } =
      (.ok changed, { desk with
        resource := .obj (Body.refinalize (Fields.put top "status" status) md field) }) := by
  have hrun := @run_updateStatus ω finalizer fault
    { desk with resource := .obj (Fields.put top "status" old) } _ _ status
    (h.put_status old) hstatus field hfield
  rw [Fields.put_put] at hrun
  exact ⟨_, hrun⟩

end Replaced

/-- If the finalizers of an object are a list, if any, the update is answered for a fault
with a text, and for none: nothing but the status and the finalizers is changed, the status
is what is given and the text, whatever it was, the answer tells whether the bodies differ in
more than null fields, and the next update has nothing to do. -/
theorem updateStatus_replaces_status (finalizer : Value) (fault : Option Fault)
    {desk : Desk ω} {top md : Fields} {items : Option (List Value)}
    (h : Body.Shaped desk.resource top md)
    (hitems : Fields.get? md "finalizers" = items.map .arr) :
    match fault.mapM Fault.message with
    | .error e => (updateStatus finalizer fault).run desk = (.error e, desk)
    | .ok text => ∃ changed top' md',
        (updateStatus finalizer fault).run desk =
          (.ok changed, { desk with resource := .obj top' }) ∧
        Body.Restated (stated desk.status text) top md top' md' ∧
        (∀ old, ∃ changed', (updateStatus finalizer fault).run
            { desk with resource := .obj (Fields.put top "status" old) } =
          (.ok changed', { desk with resource := .obj top' })) ∧
        (changed = false ↔ desk.resource.strip.equal (Value.obj top').strip = true) ∧
        (updateStatus finalizer fault).run { desk with resource := .obj top' } =
          (.ok false, { desk with resource := .obj top' }) := by
  have hstatus := statusOf_eq desk.status fault
  cases htext : fault.mapM Fault.message with
  | error e => exact run_updateStatus_mute finalizer htext
  | ok text =>
      rw [htext] at hstatus
      have hfield := Body.keptField_items finalizer
        (!((Fields.get? md "deletionTimestamp").getD .null).isNull) fault.isNone items
      rw [← hitems] at hfield
      refine ⟨_, _, _, run_updateStatus finalizer h hstatus hfield, h.restated _ _,
        run_updateStatus_over finalizer h hstatus hfield, ?_,
        run_updateStatus_again finalizer h hstatus hfield⟩
      rw [Bool.not_eq_false', List.isEmpty_iff]
      exact diff_eq_nil_iff

/-! A pod with a status and with a finalizer of somebody else, and a status that is a text. -/

def podDesk : Desk Unit where
  resource := .obj [("kind", .str "Pod"),
    ("metadata", .obj [("name", .str "p"), ("finalizers", .arr [.str "other"])]),
    ("status", .obj [("phase", .str "old")])]
  status := .str "new"
  app := ()

theorem pod_status_replaced :
    ∃ changed top' md',
      (updateStatus (.str "own") (some (MemoryStore.injected "create"))).run podDesk =
        (.ok changed, { podDesk with resource := .obj top' }) ∧
      Body.Restated
        (.obj [("value", .str "new"), ("error", .str "Injected failure of create.")])
        [("kind", .str "Pod"),
          ("metadata", .obj [("name", .str "p"), ("finalizers", .arr [.str "other"])]),
          ("status", .obj [("phase", .str "old")])]
        [("name", .str "p"), ("finalizers", .arr [.str "other"])] top' md' ∧
      (changed = false ↔ podDesk.resource.strip.equal (Value.obj top').strip = true) ∧
      (updateStatus (.str "own") (some (MemoryStore.injected "create"))).run
          { podDesk with resource := .obj top' } =
        (.ok false, { podDesk with resource := .obj top' }) := by
  have hupdate := @updateStatus_replaces_status Unit (.str "own")
    (some (MemoryStore.injected "create")) podDesk _ _ (some [.str "other"]) ⟨rfl, rfl⟩ rfl
  have htext : (some (MemoryStore.injected "create")).mapM Fault.message =
      .ok (some "Injected failure of create.") := rfl
  rw [htext] at hupdate
  obtain ⟨changed, top', md', hrun, hrestated, -, hchanged, hagain⟩ := hupdate
  exact ⟨changed, top', md', hrun, hrestated, hchanged, hagain⟩

/-- For a fault without a text, nothing is answered, and the old status stays. -/
theorem no_status_after_mute_fault :
    (∃ top md, Body.Shaped podDesk.resource top md ∧
      Fields.get? md "finalizers" = (some [Value.str "other"]).map .arr) ∧
    (∀ changed desk',
      (updateStatus .null (some Engine.mute)).run podDesk ≠ (.ok changed, desk')) ∧
    ((updateStatus .null (some Engine.mute)).run podDesk).2 = podDesk := by
  have hmute : ∃ e, (some Engine.mute).mapM Fault.message = .error e := ⟨_, rfl⟩
  obtain ⟨e, he⟩ := hmute
  have hrun := @run_updateStatus_mute Unit .null (some Engine.mute) podDesk e he
  refine ⟨⟨_, _, ⟨rfl, rfl⟩, rfl⟩, ?_, ?_⟩
  · intro changed desk' hanswered
    rw [hrun] at hanswered
    cases hanswered
  · rw [hrun]

end Resource

end OperatorCore
