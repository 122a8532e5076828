import FluentSql.Statement.Select
import FluentSql.Value.Access

set_option autoImplicit false

/-!
# Compiling writes

INSERT takes its columns from the first row and binds null where a later row lacks one. UPDATE,
increment and DELETE end in the predicate of the descriptor, whose bound values come last; where
the predicate has no text, the keyword is left out.

## Main definitions

* `FluentSql.insertStatement`, `FluentSql.Descriptor.updateStatement`,
  `FluentSql.Descriptor.incrementStatement`, `FluentSql.Descriptor.deleteStatement`.
-/

namespace FluentSql

/-- The groups of values of an INSERT: for every row the values under the columns. -/
def insertGroups (columns : List Value) : List Value → Assembly (List String)
  | [] => return []
  | row :: rows => do
    let fields ← row.fields "get"
    let group ← Assembly.bindAll (columns.map fields.value)
    return ("(" ++ group ++ ")") :: (← insertGroups columns rows)

/-- An INSERT of one row or of a sequence of rows. -/
def insertStatement (table : String) (rows : Value) : Except Error WriteStatement := do
  let rows : Value := match rows with
    | .map fs => .list [.map fs]
    | v => v
  if !rows.truthy then throw .emptyInsert
  let first ← rows.subscript (.int 0)
  if !first.truthy then throw .emptyInsert
  let columns := (← first.fields "keys").keys
  let items ← rows.items
  let s ← Assembly.statement do
    let groups ← insertGroups columns items
    let names ← (Value.list columns).joined
    return "INSERT INTO " ++ table ++ " (" ++ names ++ ") VALUES " ++
      String.intercalate ", " groups
  return { s with }

namespace Descriptor

/-- Ends a write with the predicate of the descriptor. -/
def withWhere (d : Descriptor) (head : Statement) : Except Error WriteStatement := do
  let predicate ← whereStatement d.wheres
  return {
    sql := if predicate.sql == "" then head.sql else head.sql ++ " WHERE " ++ predicate.sql
    bindings := head.bindings ++ predicate.bindings
    whereSql := predicate.sql
    whereBindings := predicate.bindings }

/-- An UPDATE of the rows that satisfy the predicate. -/
def updateStatement (d : Descriptor) (values : Value) : Except Error WriteStatement := do
  if !values.truthy then throw .emptyUpdate
  let fields ← values.fields "items"
  let assignments := fields.keys.map fun column => column.display ++ " = ?"
  d.withWhere {
    sql := "UPDATE " ++ d.table ++ " SET " ++ String.intercalate ", " assignments
    bindings := fields.map (·.2) }

/-- An UPDATE that adds an amount to a column, or subtracts it. -/
def incrementStatement (d : Descriptor) (column amount : Value) (decrement : Bool) :
    Except Error WriteStatement :=
  let name := column.display
  d.withWhere {
    sql := "UPDATE " ++ d.table ++ " SET " ++ name ++ " = " ++ name ++
      (if decrement then " - " else " + ") ++ "?"
    bindings := [amount] }

/-- A DELETE of the rows that satisfy the predicate. -/
def deleteStatement (d : Descriptor) : Except Error WriteStatement :=
  d.withWhere { sql := "DELETE FROM " ++ d.table, bindings := [] }

end Descriptor

end FluentSql
