import FluentSql.Rows.Write

set_option autoImplicit false

/-!
# Tables that share rows

A row that several holders have in their tables is one row: a change where it stands reaches all
of them, even if the tables differ otherwise. Every row of a table carries a stamp for that, and
rows with one stamp are the same row.

## Main definitions

* `FluentSql.Held`, `FluentSql.Table` — a row with its stamp, and a table of such rows.
* `FluentSql.Table.ofValue`, `FluentSql.Table.value` — between tables and plain values.
* `FluentSql.Table.follow` — following changes of rows.
* `FluentSql.Table.leave` — the table that a write leaves.
-/

namespace FluentSql

/-- A row, and the stamp by which its holders know it. -/
structure Held where
  stamp : Nat
  row : Value
  deriving Inhabited

/-- A table. What is neither a list nor a tuple has no rows that could be shared. -/
inductive Table where
  | list (rows : List Held)
  | tuple (rows : List Held)
  | other (v : Value)
  deriving Inhabited

/-- Gives values stamps of their own, counted from `stamp`. -/
def Held.ofValues (stamp : Nat) (rows : List Value) : List Held :=
  rows.mapIdx fun i row => { stamp := stamp + i, row }

/-- Follows changes of rows. -/
def Held.follow (changed : List Held) (h : Held) : Held :=
  (changed.find? (·.stamp == h.stamp)).getD h

namespace Table

/-- The table of a value, its rows stamped from `stamp` on. -/
def ofValue (stamp : Nat) : Value → Table
  | .list rows => .list (Held.ofValues stamp rows)
  | .tuple rows => .tuple (Held.ofValues stamp rows)
  | v => .other v

/-- The rows that can be shared. -/
def rows : Table → List Held
  | .list rows | .tuple rows => rows
  | .other _ => []

/-- The table as a value. -/
def value : Table → Value
  | .list rows => .list (rows.map (·.row))
  | .tuple rows => .tuple (rows.map (·.row))
  | .other v => v

/-- Changes the list of rows. -/
def mapRows (change : List Held → List Held) : Table → Table
  | .list rows => .list (change rows)
  | .tuple rows => .tuple (change rows)
  | .other v => .other v

/-- Follows changes of rows. -/
def follow (changed : List Held) (t : Table) : Table :=
  t.mapRows fun rows => rows.map (Held.follow changed)

/-- The rows as a write left them. -/
def touched (t : Table) (items : List Value) : List Held :=
  t.rows.zipWith (fun h row => { h with row }) items

/-- The table that a write leaves once its rows were changed: rows that stay keep their stamps,
and added ones are stamped from `stamp` on. -/
def leave (stamp : Nat) (remainder : Remainder) (t : Table) : Table :=
  match remainder with
  | .whole => t
  | .extended added =>
    match t, ofValue stamp added with
    | .other v, _ => .other ((v.add added).toOption.getD v)
    | t, more => t.mapRows (· ++ more.rows)
  | .selection kept => .list (keptBy kept t.rows)

end Table

end FluentSql
