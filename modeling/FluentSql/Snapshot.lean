import FluentSql.Table

set_option autoImplicit false

/-!
# Snapshots

A snapshot maps table names to tables, in the order in which they came.

## Main definitions

* `FluentSql.Snapshot` — tables by name.
* `FluentSql.Snapshot.value` — what stands under a name, null if nothing does.
* `FluentSql.Snapshot.put`, `FluentSql.Snapshot.follow` — changes.
-/

namespace FluentSql

/-- Tables by name, in the order in which they came. -/
abbrev Snapshot := List (String × Table)

namespace Snapshot

/-- The table of a name. -/
def table? (s : Snapshot) (name : String) : Option Table :=
  (s.find? (·.1 == name)).map (·.2)

/-- What stands under a name, null if nothing does. -/
def value (s : Snapshot) (name : String) : Value :=
  ((s.table? name).map Table.value).getD .null

/-- Puts a table under a name, in its old place if the name is present and at the end if not. -/
def put (s : Snapshot) (name : String) (t : Table) : Snapshot :=
  match s with
  | [] => [(name, t)]
  | (other, u) :: rest =>
    if other == name then (name, t) :: rest else (other, u) :: put rest name t

/-- Follows changes of rows. -/
def follow (s : Snapshot) (changed : List Held) : Snapshot :=
  s.map fun (name, t) => (name, t.follow changed)

/-- The snapshot as a value. -/
def toValue (s : Snapshot) : Value := .map (s.map fun (name, t) => (.text name, t.value))

end Snapshot

end FluentSql
