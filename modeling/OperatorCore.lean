import OperatorCore.Api.Credentials
import OperatorCore.Api.Objects
import OperatorCore.Api.Request
import OperatorCore.Api.ResourceKind
import OperatorCore.Api.Response
import OperatorCore.Api.Scheme
import OperatorCore.Blueprint.Component
import OperatorCore.Blueprint.Event
import OperatorCore.Blueprint.Handle
import OperatorCore.Callback.Basic
import OperatorCore.Callback.Cancellation
import OperatorCore.Diff.Basic
import OperatorCore.Document.Blueprint
import OperatorCore.Document.Calls
import OperatorCore.Document.Faults
import OperatorCore.Document.Marked
import OperatorCore.Document.Reading
import OperatorCore.Document.Settings
import OperatorCore.Document.Structures
import OperatorCore.Engine.Component
import OperatorCore.Engine.CustomResource
import OperatorCore.Engine.Observation
import OperatorCore.Engine.Pass
import OperatorCore.Engine.Reconciliation
import OperatorCore.Engine.World
import OperatorCore.Fault.Attempt
import OperatorCore.Fault.Basic
import OperatorCore.Fault.Naming
import OperatorCore.Log.Formatter
import OperatorCore.Log.Line
import OperatorCore.Log.Notice
import OperatorCore.Log.Record
import OperatorCore.Number.Binary64
import OperatorCore.Number.Places
import OperatorCore.Number.Shortest
import OperatorCore.Object.Bag
import OperatorCore.Object.Finalizer
import OperatorCore.Object.Identity
import OperatorCore.Object.Metadata
import OperatorCore.Object.Observable
import OperatorCore.Object.Payload
import OperatorCore.Proofs.Api.Sent
import OperatorCore.Proofs.Diff.Fieldwise
import OperatorCore.Proofs.Engine.Agenda
import OperatorCore.Proofs.Engine.Aloof
import OperatorCore.Proofs.Engine.Convergence
import OperatorCore.Proofs.Engine.Declarative
import OperatorCore.Proofs.Engine.Deletion
import OperatorCore.Proofs.Engine.Finalization
import OperatorCore.Proofs.Engine.Frame
import OperatorCore.Proofs.Engine.InPlace
import OperatorCore.Proofs.Engine.Isolation
import OperatorCore.Proofs.Engine.Lifecycle
import OperatorCore.Proofs.Engine.Loops
import OperatorCore.Proofs.Engine.Plan
import OperatorCore.Proofs.Engine.Quiescence
import OperatorCore.Proofs.Engine.Requests
import OperatorCore.Proofs.Engine.Run
import OperatorCore.Proofs.Engine.Siblings
import OperatorCore.Proofs.Engine.StatusWrite
import OperatorCore.Proofs.Engine.Survey
import OperatorCore.Proofs.Engine.Turns
import OperatorCore.Proofs.Engine.Writes
import OperatorCore.Proofs.Fault.Steady
import OperatorCore.Proofs.Object.Finalizers
import OperatorCore.Proofs.Object.Identified
import OperatorCore.Proofs.Object.Likeness
import OperatorCore.Proofs.Object.Observables
import OperatorCore.Proofs.Object.StatusUpdate
import OperatorCore.Proofs.Store.History
import OperatorCore.Proofs.Store.Lookup
import OperatorCore.Proofs.Store.Recorded
import OperatorCore.Proofs.Store.Sequence
import OperatorCore.Proofs.Store.Soundness
import OperatorCore.Proofs.Store.Uses
import OperatorCore.Proofs.Store.Versions
import OperatorCore.Settings
import OperatorCore.Store.Api
import OperatorCore.Store.Basic
import OperatorCore.Store.Memory
import OperatorCore.Store.Operation
import OperatorCore.Template.Basic
import OperatorCore.Template.Render
import OperatorCore.Text.Base64
import OperatorCore.Text.CodeRanges
import OperatorCore.Text.FormEncoded
import OperatorCore.Text.Quoted
import OperatorCore.Text.Unprintable
import OperatorCore.Text.Uppercase
import OperatorCore.Text.Word
import OperatorCore.Time.Civil
import OperatorCore.Time.Instant
import OperatorCore.Time.Timestamp
import OperatorCore.Value.Access
import OperatorCore.Value.Basic
import OperatorCore.Value.Equality
import OperatorCore.Value.Json
import OperatorCore.Value.Literal
import OperatorCore.Value.Sorted
import OperatorCore.Proofs.Engine.Outcome
import OperatorCore.Proofs.Engine.Stamping
import OperatorCore.Proofs.Store.Attempts
import OperatorCore.Proofs.Engine.Multiplicity
import OperatorCore.Proofs.Engine.Reordering
import OperatorCore.Proofs.Diff.Exactness
import OperatorCore.Proofs.Diff.Scopes
import OperatorCore.Proofs.Api.Retries
import OperatorCore.Proofs.Engine.Withdrawal
import OperatorCore.Proofs.Api.Paths
import OperatorCore.Proofs.Api.Subjects
import OperatorCore.Proofs.Api.Disclosure
import OperatorCore.Proofs.Api.Replacement
import OperatorCore.Proofs.Diff.Mirror
import OperatorCore.Proofs.Diff.Arrangement
import OperatorCore.Proofs.Engine.Arrangement
import OperatorCore.Proofs.Engine.StatusReplaced
import OperatorCore.Proofs.Engine.Observed
import OperatorCore.Proofs.Object.Essence
import OperatorCore.Proofs.Engine.Comparison
import OperatorCore.Proofs.Object.Blocking
import OperatorCore.Proofs.Store.Selectors
