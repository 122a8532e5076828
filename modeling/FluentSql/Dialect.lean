import FluentSql.Statement
import FluentSql.Value.Access
import FluentSql.Value.Json

set_option autoImplicit false

/-!
# Dialects

A dialect is a choice of SQL fragments where databases differ: case-insensitive matching,
containment in a JSON array, full-text search and row numbering. The portable dialect is the one
used for an unknown database.

## Main definitions

* `FluentSql.Dialect` — the dialects, and their four fragments.
* `FluentSql.Dialects` — a registry of dialects by name, with `create` and `resolve`.
-/

namespace FluentSql

/-- The dialects. -/
inductive Dialect where
  | portable | sqlite | postgres | mysql | mssql | oracle
  deriving DecidableEq, Repr, Inhabited

namespace Dialect

/-- The name of a dialect. -/
def name : Dialect → String
  | .portable => "portable"
  | .sqlite => "sqlite"
  | .postgres => "postgres"
  | .mysql => "mysql"
  | .mssql => "mssql"
  | .oracle => "oracle"

/-- The dialects that every registry starts with. -/
def builtIn : List Dialect := [.sqlite, .postgres, .mysql, .mssql, .oracle]

/-- A predicate that matches a pattern regardless of case. -/
def caseInsensitiveLike (dialect : Dialect) (column pattern : Value) : Statement :=
  let c := column.display
  let sql := match dialect with
    | .portable => "LOWER(" ++ c ++ ") LIKE LOWER(?)"
    | .sqlite => c ++ " LIKE ? COLLATE NOCASE"
    | .postgres => c ++ " ILIKE ?"
    | .mysql => c ++ " LIKE ? COLLATE utf8mb4_general_ci"
    | .mssql => c ++ " LIKE ? COLLATE Latin1_General_CI_AS"
    | .oracle => "UPPER(" ++ c ++ ") LIKE UPPER(?)"
  { sql, bindings := [pattern] }

/-- A predicate that tests whether a JSON array contains a value. -/
def jsonContains (dialect : Dialect) (column value : Value) : Except Error Statement :=
  let c := column.display
  match dialect with
  | .portable => do
    return { sql := c ++ " LIKE ?", bindings := [.text ("%" ++ (← value.json) ++ "%")] }
  | .sqlite => return {
      sql := "EXISTS (SELECT 1 FROM json_each(" ++ c ++ ") WHERE json_each.value = ?)"
      bindings := [value] }
  | .postgres => do
    return {
      sql := c ++ " @> CAST(? AS jsonb)"
      bindings := [.text (← (Value.list [value]).json)] }
  | .mysql => do
    return { sql := "JSON_CONTAINS(" ++ c ++ ", ?)", bindings := [.text (← value.json)] }
  | .mssql => return {
      sql := "EXISTS (SELECT 1 FROM OPENJSON(" ++ c ++ ") WHERE value = ?)"
      bindings := [value] }
  | .oracle => return {
      sql := "EXISTS (SELECT 1 FROM JSON_TABLE(" ++ c ++
        ", '$[*]' COLUMNS (v VARCHAR2(4000) PATH '$')) jt WHERE jt.v = ?)"
      bindings := [value] }

/-- A condition on every one of some columns, any of which may hold. -/
def anyColumn (columns : List Value) (condition : String → String) : String :=
  "(" ++ String.intercalate " OR " (columns.map fun c => condition c.display) ++ ")"

/-- A predicate that matches a term against any of some columns. -/
def fullText (dialect : Dialect) (columns term : Value) : Except Error Statement :=
  match dialect with
  | .portable | .sqlite => do
    let items ← columns.items
    let pattern := Value.text ("%" ++ term.display ++ "%")
    return {
      sql := anyColumn items fun c => c ++ " LIKE ?"
      bindings := items.map fun _ => pattern }
  | .postgres => do
    let document := "concat_ws(' ', " ++ (← columns.joined) ++ ")"
    return { sql := "to_tsvector(" ++ document ++ ") @@ plainto_tsquery(?)", bindings := [term] }
  | .mysql => do
    return {
      sql := "MATCH(" ++ (← columns.joined) ++ ") AGAINST(? IN NATURAL LANGUAGE MODE)"
      bindings := [term] }
  | .mssql => do
    return { sql := "FREETEXT((" ++ (← columns.joined) ++ "), ?)", bindings := [term] }
  | .oracle => do
    let items ← columns.items
    return {
      sql := anyColumn items fun c => "CONTAINS(" ++ c ++ ", ?) > 0"
      bindings := items.map fun _ => term }

/-- A select expression that numbers rows. One dialect insists on an order, so a constant stands
in for a missing one there. -/
def rowNumber (dialect : Dialect) (order partition label : Value) : Except Error String := do
  let order := match dialect with
    | .mssql => order.orElse (.list [.text "(SELECT NULL)"])
    | _ => order
  let parts ← if partition.truthy then do pure ["PARTITION BY " ++ (← partition.joined)]
    else pure []
  let orders ← if order.truthy then do pure ["ORDER BY " ++ (← order.joined)] else pure []
  return "ROW_NUMBER() OVER (" ++ String.intercalate " " (parts ++ orders) ++ ") AS " ++
    label.display

end Dialect

/-! ## Registry -/

/-- Dialects by name. -/
structure Dialects where
  entries : List (String × Dialect)
  deriving Repr, Inhabited

namespace Dialects

/-- The registry of the built-in dialects. -/
def standard : Dialects := ⟨Dialect.builtIn.map fun d => (d.name, d)⟩

/-- The dialect registered under a name. -/
def get? (r : Dialects) (name : String) : Option Dialect :=
  (r.entries.find? (·.1 == name)).map (·.2)

/-- Registers a dialect, in place of the one that had the name. -/
def register (r : Dialects) (name : String) (d : Dialect) : Dialects :=
  ⟨(name, d) :: r.entries.filter (·.1 != name)⟩

/-- The registered names in increasing order. -/
def names (r : Dialects) : List String := (r.entries.map (·.1)).mergeSort (· ≤ ·)

/-- The dialect registered under a name; an unknown name is an error. -/
def create (r : Dialects) (name : Option String) : Except Error Dialect :=
  match name.bind r.get? with
  | some d => .ok d
  | none => .error (.unsupportedDialect name r.names)

/-- The dialect registered under a name, or the portable one; the empty name is no name. -/
def resolve (r : Dialects) (name : Option String) : Dialect :=
  ((name.filter (· != "")).bind r.get?).getD .portable

end Dialects

end FluentSql
