import FluentSql.Session.Chaining
import FluentSql.Session.Writing

set_option autoImplicit false

/-!
# Tracking

A builder can be asked to log its calls, starting from given rows or from those of its query. When
the log is asked for, the queued write is replayed on the builder's own table, where its rows
stand; in a running simulation the outcome is published. Without a queued write the statement that
would be run is logged.

## Main definitions

* `FluentSql.Act.initial` — starts a log.
* `FluentSql.Act.tracking` — replays the queued write and gives the log.
-/

namespace FluentSql.Act

/-- Starts a log with a copy of rows that are given. -/
def initialRows (id : Nat) (rows : Value) : Act Unit := do
  let t ← freshTable (← copy rows)
  changeBuilder id fun b => { b with replay := t }
  let count ← of rows.length
  note id "tracking.initialized" (.map [("source", "manual"), ("count", .int count)])

/-- Starts a log with the rows of the builder's query. -/
def initialQuery (id : Nat) : Act Unit := do
  let statement ← of (← currentQuery id).select
  note id "tracking.seeding_from_db" (.map [("query", statement.toValue)])
  let found ← all id
  let t ← freshTable (.list found)
  changeBuilder id fun b => { b with replay := t }
  note id "tracking.initialized"
    (.map [("source", "database"), ("table", .text (← builder id).table),
      ("count", .int found.length)])

/-- Starts a log, with given rows or with those of the builder's query. -/
def initial (id : Nat) (rows : Value) : Act Unit := do
  changeBuilder id fun b => { b with tracking := true, log := [] }
  if rows.isNull then initialQuery id else initialRows id rows

/-- The values that a query's queued write puts into the rows that it changes. -/
def changingValues (d : Descriptor) : Value :=
  match d.pending with
  | none => .null
  | some action =>
    match WriteKind.ofKeyword? action.kind, action.data with
    | some .updateOrInsert, .map fields => Fields.value fields "values"
    | _, data => data

/-- Tells builders to queue an update. -/
def tellBuilders (values : Value) : List Nat → Act Unit
  | [] => pure ()
  | id :: ids => do
    chain id .update [("values", values)]
    tellBuilders values ids

/-- Replays the queued write on the builder's own table. Rows changed where they stand are changed
for everyone who shares them. -/
def replay (id : Nat) : Act Unit := do
  let b ← builder id
  let d ← copiedValues id
  let attempt ← copiedAttempt (d.applyTo primaryKey (← current b.replay.value))
  follow (b.replay.touched attempt.touched)
  tellBuilders (changingValues d) attempt.told
  let written ← of attempt.outcome
  let stamp ← freshStamps (match written.remainder with
    | .extended added => (Table.ofValue 0 added).rows.length
    | _ => 0)
  let t := (← builder id).replay.leave stamp written.remainder
  changeBuilder id fun b => { b with replay := t }
  publish b.options.simulation b.table t
  note id "virtual_execution.end" (.map [("final_virtual_table_state", ← copy t.value)])
  clearPending id

/-- The log of a builder that was never asked to keep one. -/
def noLog : List LogEntry :=
  [{ step := "error"
     details := .text "Tracking was not enabled. Call .initial() before .tracking()." }]

/-- Replays the queued write, or logs the statement that would be run, and gives the log. -/
def tracking (id : Nat) : Act (List LogEntry) := do
  let b ← builder id
  if !b.tracking then return noLog
  match b.descriptor.pending with
  | some action =>
    note id "virtual_execution.start" (← of ((← get).plain action.toRecord))
    replay id
  | none =>
    let statement ← of (← currentQuery id).select
    note id "dry_run_select.summary" statement.toValue
  return (← builder id).log

end FluentSql.Act
