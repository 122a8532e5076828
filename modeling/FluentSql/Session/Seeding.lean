import FluentSql.Session.Models

set_option autoImplicit false

/-!
# Seeding

Writes rows into a table one by one, through builders of their own. The table may be emptied
first. With columns that tell rows apart, a row that is already there can be skipped or updated.

## Main definitions

* `FluentSql.Act.truncate` — empties a table.
* `FluentSql.Act.seedRow` — writes one row.
* `FluentSql.Act.seed` — writes all rows and gives their number.
-/

namespace FluentSql.Act

/-- Empties a table: its snapshot in a running simulation, else by a statement. -/
def truncate (table : String) (executor : Nat) (simulation : Option Nat) : Act Unit := do
  if (← get).simulating simulation then
    publish simulation table (← freshTable (.list []))
  else
    let method ← if ← offers executor .runBlocking then pure ExecutorMethod.runBlocking
      else pure .query
    let _ ← execute executor method { sql := "DELETE FROM " ++ table, bindings := [] }

/-- The rows to seed a table with. -/
def seedSource (config : Option Nat) : SeedSource Value → Act (List Value)
  | .rows v => if v.isSequence then of v.items else fail (v.lacking "run")
  | .empty => return []
  | .seeder rows failure => do
    happened (.sought "probe")
    match failure with
    | some text => fail (.raised text)
    | none => of (rows.orElse (.list [])).items
  | .reader table => do
    all (← addBuilder (.new table { config }))

/-- The entries of a row whose keys satisfy a test. -/
def entriesWhere (row : Value) (test : Value → Bool) : Act Value := do
  return .map ((← of (row.fields "items")).filter fun p => test p.1)

/-- Inserts a row. -/
def insertRow (id : Nat) (row : Value) : Act Unit := do
  chain id .insert [("rows", row)]
  let _ ← make id

/-- Inserts a row, unless there is one that agrees with it under some columns. -/
def insertNewRow (id : Nat) (columns : List Value) (row : Value) : Act Unit := do
  let attributes := Fields.ofPairs (← columns.mapM fun key => return (key, ← of (row.cell key)))
  let probe ← copyBuilder id
  chain probe .whereAll [("conditions", .map attributes)]
  if !(← exist probe) then insertRow id row

/-- Updates the rows that agree with a row under some columns, or inserts it. -/
def mergeRow (id : Nat) (columns : List Value) (row : Value) : Act Unit := do
  let attributes ← entriesWhere row fun key => columns.any key.agrees
  let values ← entriesWhere row fun key => !columns.any key.agrees
  chain id .updateOrInsert [("attributes", attributes), ("values", values)]
  let _ ← make id

/-- Writes one row in the way that the options ask for; `columns` tell rows apart. -/
def seedRow (table : String) (options : SeedOptions) (columns : List Value)
    (builderOptions : Options) (row : Value) : Act Unit := do
  let id ← addBuilder (.new table builderOptions)
  if columns.isEmpty then insertRow id row
  else if options.ignoreDuplicates then insertNewRow id columns row
  else if options.upsert then mergeRow id columns row
  else insertRow id row

/-- Writes rows one after the other. -/
def seedEach (table : String) (options : SeedOptions) (columns : List Value)
    (builderOptions : Options) : List Value → Act Unit
  | [] => pure ()
  | row :: rest => do
    seedRow table options columns builderOptions row
    seedEach table options columns builderOptions rest

/-- Seeds a table and gives the number of rows. -/
def seed (table : String) (source : SeedSource Value) (uniqueBy : Value) (options : SeedOptions)
    (config simulation : Option Nat) : Act Nat := do
  let some executor ← of ((← get).executorFor config none)
    | fail (.noExecutor table [] none)
  if options.truncate then truncate table executor simulation
  let rows ← seedSource config source
  let columns ← of uniqueBy.items
  seedEach table options columns { config, simulation } rows
  return rows.length

end FluentSql.Act
