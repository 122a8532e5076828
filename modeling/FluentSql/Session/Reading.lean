import FluentSql.Rows.Write
import FluentSql.Session.Events
import FluentSql.Session.Simulating
import FluentSql.Statement.Select

set_option autoImplicit false

/-!
# Reading

The calls that read. While the simulation of a builder runs, rows come from its tables; otherwise
its executor runs the SELECT, announced before and after. Reading one row, testing existence and
plucking a column are done on a copy, so the builder itself keeps its limit and its log. The
blocking calls never look at the simulation.

## Main definitions

* `FluentSql.Act.rows` — the rows that a builder's query selects.
* `FluentSql.Act.all`, `FluentSql.Act.firstRow`, `FluentSql.Act.find`, `FluentSql.Act.exist`,
  `FluentSql.Act.pluck` — the reading calls.
* `FluentSql.Act.allBlocking` and its kin.
-/

namespace FluentSql

/-! ## Queries derived from a query -/

namespace Descriptor

/-- The query cut to its first row. -/
def firstOnly (d : Descriptor) : Descriptor := { d with limit := .int 1 }

/-- The query for the rows that in addition have an identifier. -/
def withId (d : Descriptor) (id : Value) : Descriptor :=
  { d with wheres := d.wheres ++ [.basic "id" .eq id .and] }

/-- The query that selects a constant. -/
def constantOnly (d : Descriptor) : Descriptor := { d with columns := [.text "1"] }

/-- The query that selects one column. -/
def columnOnly (d : Descriptor) (column : Value) : Descriptor :=
  { d with columns := [.text column.display] }

end Descriptor

/-- One value of a row: what stands under the alias if the alias is found in the row, else the first
value. -/
def Value.scalar (row label : Value) : Except Error Value := do
  if !row.truthy then return .null
  if !label.isNull then
    if ← row.contains label then return ← row.subscript label
  return (← row.fields "values").firstValue

namespace Act

/-! ## Rows -/

/-- Runs the SELECT of a builder by a method of an executor, announced before and after. -/
def fetchBy (b : Builder) (executor : Nat) (method : ExecutorMethod) : Act (List Value) := do
  let statement ← of ((← get).currentQuery b.descriptor).select
  trigger b.options.events (.of .before .read b.table) [("where", .null)]
  let result ← execute executor method statement
  let rows ← of (rowsOfReport result)
  trigger b.options.events (.of .after .read b.table) [("rows", .list rows)]
  return rows

/-- The rows that a builder's query selects from its executor. -/
def fetch (b : Builder) : Act (List Value) := do
  let executor ← executorOf b
  fetchBy b executor .query

/-- The rows that a builder's query selects from a copy of the table of its simulation. -/
def simulatedRows (b : Builder) : Act (List Value) := do
  let s ← get
  match (s.snapshot b.options.simulation).value b.table with
  | .null => return []
  | table => of ((s.currentQuery b.descriptor).selectRows (← copy table))

/-- The rows that a builder's query selects. -/
def rows (b : Builder) : Act (List Value) := do
  if (← get).simulating b.options.simulation then simulatedRows b else fetch b

/-! ## Reading calls -/

/-- The table of a running simulation that a builder reads becomes, as a copy, the table on which
its writes are replayed. -/
def remember (id : Nat) : Act Unit := do
  let b ← builder id
  let s ← get
  if s.simulating b.options.simulation then
    match (s.snapshot b.options.simulation).value b.table with
    | .null => pure ()
    | table =>
      let replay ← freshTable (← copy table)
      changeBuilder id fun b => { b with replay }

/-- The rows of a builder's query. -/
def all (id : Nat) : Act (List Value) := do
  note id "all" (.map [])
  remember id
  rows (← builder id)

/-- The first row of a builder's query, or null. -/
def firstRow (id : Nat) : Act Value := do
  let found ← rows ((← builder id).clone.edit Descriptor.firstOnly)
  return found.head?.getD .null

/-- The first row of a builder's query that has an identifier, or null. -/
def find (id : Nat) (key : Value) : Act Value := do
  let found ← rows ((← builder id).clone.edit fun d => (d.withId key).firstOnly)
  return found.head?.getD .null

/-- Whether a builder's query has a row. -/
def exist (id : Nat) : Act Bool := do
  let found ← rows ((← builder id).clone.edit fun d => d.constantOnly.firstOnly)
  return !found.isEmpty

/-- The values of one column. -/
def pluck (id : Nat) (column : Value) : Act (List Value) := do
  let found ← rows ((← builder id).clone.edit fun d => d.columnOnly column)
  of (found.mapM fun row => row.cell column)

/-! ## Blocking calls -/

/-- The rows of a builder's query, from an executor that blocks. -/
def rowsBlocking (b : Builder) : Act (List Value) := do
  let executor ← executorOffering b .queryBlocking
  fetchBy b executor .queryBlocking

/-- The rows of a builder's query, blocking. -/
def allBlocking (id : Nat) : Act (List Value) := do rowsBlocking (← builder id)

/-- The first row of a builder's query, or null, blocking. -/
def firstBlocking (id : Nat) : Act Value := do
  let found ← rowsBlocking ((← builder id).clone.edit Descriptor.firstOnly)
  return found.head?.getD .null

/-- The values of one column, blocking. -/
def pluckBlocking (id : Nat) (column : Value) : Act (List Value) := do
  let found ← rowsBlocking ((← builder id).clone.edit fun d => d.columnOnly column)
  of (found.mapM fun row => row.cell column)

/-- One value of the first row, blocking. -/
def scalarBlocking (id : Nat) (label : Value) : Act Value := do
  of ((← firstBlocking id).scalar label)

/-- What the executor answers to the SELECT, as it is, blocking. -/
def runBlocking (id : Nat) : Act Value := do
  let executor ← executorOffering (← builder id) .runBlocking
  let statement ← of (← currentQuery id).select
  execute executor .runBlocking statement

end Act

end FluentSql
