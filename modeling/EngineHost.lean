import EngineHost.Bytes.Overlay
import EngineHost.Bytes.Runs
import EngineHost.Call.Entry
import EngineHost.Call.Identity
import EngineHost.Call.Shape
import EngineHost.Digest.Blake3
import EngineHost.Fault
import EngineHost.Foreign
import EngineHost.Guest.Checking
import EngineHost.Guest.Machine
import EngineHost.Guest.Module
import EngineHost.Guest.Numeric
import EngineHost.Hosting.Directory
import EngineHost.Hosting.Dispatch
import EngineHost.Hosting.Function
import EngineHost.Hosting.Record
import EngineHost.Proofs.Coupling
import EngineHost.Proofs.Decoding
import EngineHost.Proofs.Dispatch
import EngineHost.Proofs.Document
import EngineHost.Proofs.Following
import EngineHost.Proofs.Guest.Typing
import EngineHost.Proofs.Marshalling
import EngineHost.Proofs.Memory
import EngineHost.Proofs.Resolution
import EngineHost.Proofs.Runs
import EngineHost.Proofs.Session.Admitted
import EngineHost.Proofs.Session.Agreement
import EngineHost.Proofs.Session.Alike
import EngineHost.Proofs.Session.Apart
import EngineHost.Proofs.Session.Attended
import EngineHost.Proofs.Session.Bridging
import EngineHost.Proofs.Session.Classifying
import EngineHost.Proofs.Session.Coherence
import EngineHost.Proofs.Session.Computing
import EngineHost.Proofs.Session.Course
import EngineHost.Proofs.Session.Discipline
import EngineHost.Proofs.Session.Enrolment
import EngineHost.Proofs.Session.Faultless
import EngineHost.Proofs.Session.Guarding
import EngineHost.Proofs.Session.History
import EngineHost.Proofs.Session.InStep
import EngineHost.Proofs.Session.Lasting
import EngineHost.Proofs.Session.Ledger
import EngineHost.Proofs.Session.Lines
import EngineHost.Proofs.Session.Linking
import EngineHost.Proofs.Session.Listening
import EngineHost.Proofs.Session.OneMemory
import EngineHost.Proofs.Session.OneShot
import EngineHost.Proofs.Session.Performing
import EngineHost.Proofs.Session.Permanence
import EngineHost.Proofs.Session.Proceeding
import EngineHost.Proofs.Session.Renewed
import EngineHost.Proofs.Session.Repeating
import EngineHost.Proofs.Session.Replaying
import EngineHost.Proofs.Session.Reports
import EngineHost.Proofs.Session.SlotChanges
import EngineHost.Proofs.Session.Subscription
import EngineHost.Proofs.Session.Tables
import EngineHost.Proofs.Session.Tandem
import EngineHost.Proofs.Session.Unnoticed
import EngineHost.Proofs.Session.Unsubscribing
import EngineHost.Proofs.Session.Watching
import EngineHost.Proofs.Session.Witnessing
import EngineHost.Proofs.Status
import EngineHost.Proofs.Text.Decimal
import EngineHost.Proofs.Text.JsonReading
import EngineHost.Proofs.Text.Lossy
import EngineHost.Proofs.Tracer.Accounts
import EngineHost.Proofs.Tracer.Admitting
import EngineHost.Proofs.Tracer.Carrying
import EngineHost.Proofs.Tracer.Coupling
import EngineHost.Proofs.Tracer.Failing
import EngineHost.Proofs.Tracer.Linking
import EngineHost.Proofs.Tracer.Logging
import EngineHost.Proofs.Tracer.Moments
import EngineHost.Proofs.Tracer.Operating
import EngineHost.Proofs.Tracer.Outlining
import EngineHost.Proofs.Tracer.Painting
import EngineHost.Proofs.Tracer.Patching
import EngineHost.Proofs.Tracer.Rebuilding
import EngineHost.Proofs.Tracer.Renewing
import EngineHost.Proofs.Tracer.Replies
import EngineHost.Proofs.Tracer.Requests
import EngineHost.Proofs.Tracer.Restoring
import EngineHost.Proofs.Tracer.Retelling
import EngineHost.Proofs.Tracer.Slots
import EngineHost.Proofs.Tracer.Stateless
import EngineHost.Proofs.Tracer.Supplying
import EngineHost.Proofs.Tracer.Traced
import EngineHost.Scripted
import EngineHost.Session.Desk
import EngineHost.Session.Handle
import EngineHost.Session.Op
import EngineHost.Session.Perform
import EngineHost.Session.Program
import EngineHost.Session.Reporting
import EngineHost.Session.Script
import EngineHost.Session.State
import EngineHost.Text.Decimal
import EngineHost.Text.Hex
import EngineHost.Text.JsonText
import EngineHost.Text.Lossy
import EngineHost.Text.Printable
import EngineHost.Text.Quoted
import EngineHost.Tracer.Admission
import EngineHost.Tracer.Config
import EngineHost.Tracer.Engine
import EngineHost.Tracer.Execution
import EngineHost.Tracer.Linking
import EngineHost.Witness.Document
import EngineHost.Witness.Outcome
import EngineHost.Witness.Patch
