import RecordEngine.Declaration.Source
import RecordEngine.Scenario.Reader
import RecordEngine.Proofs.Store.Effect
import RecordEngine.Proofs.Store.Serial
import RecordEngine.Proofs.Record.Fields
import RecordEngine.Proofs.Record.Patch
import RecordEngine.Proofs.Store.Conflict
import RecordEngine.Proofs.Audit.Trail
import RecordEngine.Proofs.Audit.Protocol
import RecordEngine.Proofs.Audit.Halves
import RecordEngine.Proofs.Session.Calls
import RecordEngine.Proofs.Session.Behaves
import RecordEngine.Proofs.Session.Interleaving
import RecordEngine.Proofs.Session.Modify
import RecordEngine.Proofs.Store.Journal
import RecordEngine.Proofs.Session.LostUpdate
import RecordEngine.Proofs.Convergence.Passes
import RecordEngine.Proofs.Convergence.Ranked
import RecordEngine.Proofs.Audit.Version
import RecordEngine.Proofs.Session.Enumerated
import RecordEngine.Proofs.Store.Origin
import RecordEngine.Proofs.Session.Immutable
import RecordEngine.Proofs.Store.Frame
import RecordEngine.Proofs.Session.Frame
import RecordEngine.Proofs.Trace.Comparison
import RecordEngine.Proofs.Trace.Explained
import RecordEngine.Proofs.Convergence.Forced
import RecordEngine.Proofs.Convergence.Skipped
import RecordEngine.Proofs.Store.Disjoint
import RecordEngine.Proofs.Store.Erased
import RecordEngine.Proofs.Session.Retrying
import RecordEngine.Proofs.Session.Isolated
import RecordEngine.Proofs.Trace.Story
import RecordEngine.Proofs.Convergence.Account
import RecordEngine.Proofs.Session.Account
import RecordEngine.Proofs.Session.Deferred
import RecordEngine.Proofs.Session.Doings
import RecordEngine.Proofs.Session.Lockstep
import RecordEngine.Proofs.Trace.Bracketed
import RecordEngine.Proofs.Store.Reading
import RecordEngine.Proofs.Record.Rewritten
import RecordEngine.Proofs.Session.Creating
import RecordEngine.Proofs.Session.Gathering
import RecordEngine.Proofs.Session.Resaving
import RecordEngine.Proofs.Record.Membership
import RecordEngine.Proofs.Convergence.Consumption
import RecordEngine.Proofs.Session.Refusing
import RecordEngine.Proofs.Record.Differences
import RecordEngine.Proofs.Record.Hashing
import RecordEngine.Proofs.Record.Conversion
import RecordEngine.Proofs.Trace.Spans
import RecordEngine.Proofs.Schema.Validation
import RecordEngine.Proofs.Registry.Registrations
import RecordEngine.Proofs.Declaration.Accepted
import RecordEngine.Proofs.Declaration.Constants
import RecordEngine.Proofs.Store.LifeCycle
import RecordEngine.Proofs.Document.Written
