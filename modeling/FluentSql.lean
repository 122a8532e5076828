import FluentSql.Session.Run
import FluentSql.Proofs.Directory
import FluentSql.Proofs.Rows.Faults
import FluentSql.Proofs.Session.Isolation
import FluentSql.Proofs.Statement.Placeholders
import FluentSql.Proofs.Session.Restriction
import FluentSql.Proofs.Session.Blocking
import FluentSql.Proofs.Session.Opening
import FluentSql.Proofs.Session.Retry
import FluentSql.Proofs.Statement.Erasure
import FluentSql.Proofs.Statement.Compound
import FluentSql.Proofs.Statement.Splitting
import FluentSql.Proofs.Rows.Unknown
import FluentSql.Proofs.Session.Hushed
import FluentSql.Proofs.Session.Observed
import FluentSql.Proofs.Rows.Lists
import FluentSql.Proofs.Rows.Seeding
import FluentSql.Proofs.Session.Closed
import FluentSql.Proofs.Session.Fluent
import FluentSql.Proofs.Session.Tables
import FluentSql.Proofs.Session.Tracking
import FluentSql.Proofs.Session.Seeding
import FluentSql.Proofs.Snapshot
import FluentSql.Proofs.Session.Rehearsal
import FluentSql.Proofs.Session.Errands
import FluentSql.Proofs.Session.Reseeding
import FluentSql.Proofs.Statement.Inserting
import FluentSql.Proofs.Session.Preconditions
import FluentSql.Proofs.Call.Composed
import FluentSql.Proofs.Value.Data
import FluentSql.Proofs.Descriptor.Typed
import FluentSql.Proofs.Call.Typed
import FluentSql.Proofs.Session.Building
import FluentSql.Proofs.Session.Speaking
import FluentSql.Proofs.Statement.Derived
import FluentSql.Proofs.Session.Upkeep
import FluentSql.Proofs.Rows.Deleting
import FluentSql.Proofs.Rows.Grouping
import FluentSql.Proofs.Session.Paging
import FluentSql.Proofs.Session.Finding
import FluentSql.Proofs.Session.Counting
import FluentSql.Proofs.Session.Shortcuts
import FluentSql.Proofs.Statement.Literals
import FluentSql.Proofs.Statement.Predicated
import FluentSql.Proofs.Call.Changes
import FluentSql.Proofs.Call.Reordering
import FluentSql.Proofs.Session.Likeness
import FluentSql.Proofs.Session.Reordering
import FluentSql.Proofs.Session.Evaluating
import FluentSql.Proofs.Session.Growing
import FluentSql.Proofs.Session.Logging
import FluentSql.Proofs.Session.Engines
import FluentSql.Proofs.Session.Signals
import FluentSql.Proofs.Session.Identifying
import FluentSql.Proofs.Rows.Breaking
import FluentSql.Proofs.Session.Interrupted
import FluentSql.Proofs.Outcome
import FluentSql.Proofs.Session.Starting
