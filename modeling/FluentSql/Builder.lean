import FluentSql.Descriptor
import FluentSql.Dialect
import FluentSql.Snapshot

set_option autoImplicit false

/-!
# Query builders

A builder owns the descriptor that its calls add to. It knows where it belongs (a configuration,
an event manager, a simulation) and which dialect it was told to use; and it keeps the log of its
calls, the table on which a queued write is replayed, and the select lists that others took the
place of.

## Main definitions

* `FluentSql.Options` — where a builder belongs.
* `FluentSql.LogEntry` — one step of the log.
* `FluentSql.Builder` — the builder; `new` and `clone`.
-/

namespace FluentSql

/-- Where a builder belongs; what is absent is the one shared by all. -/
structure Options where
  config : Option Nat := none
  events : Option Nat := none
  simulation : Option Nat := none
  dialect : Option String := none
  deriving DecidableEq, Repr, Inhabited

/-- One step of a log. -/
structure LogEntry where
  step : String
  details : Value
  deriving Inhabited

/-- A query builder. `depth` counts the recorded calls that are being carried out. -/
structure Builder where
  descriptor : Descriptor
  options : Options
  tracking : Bool := false
  log : List LogEntry := []
  replay : Table := .list []
  depth : Nat := 0
  formerColumns : List (List Value) := []
  deriving Inhabited

namespace Builder

/-- A builder for a table, to which nothing was added. -/
def new (table : String) (options : Options) : Builder :=
  { descriptor := .new table, options }

/-- The table of the query. -/
def table (b : Builder) : String := b.descriptor.table

/-- A builder of its own with the same query; it starts without a log. -/
def clone (b : Builder) : Builder := { descriptor := b.descriptor, options := b.options }

/-- The text that names the builder. -/
def describe (b : Builder) : String := (Value.builder 0 b.table).quoted

/-- Adds a step to the log. -/
def note (b : Builder) (step : String) (details : Value) : Builder :=
  { b with log := b.log ++ [{ step, details }] }

/-- Changes the descriptor. -/
def edit (b : Builder) (change : Descriptor → Descriptor) : Builder :=
  { b with descriptor := change b.descriptor }

/-- Puts a select list in the place of the builder's own. -/
def replaceColumns (b : Builder) (columns : List Value) : Builder :=
  { b with
    descriptor := { b.descriptor with columns }
    formerColumns := b.formerColumns ++ [b.descriptor.columns] }

end Builder

end FluentSql
