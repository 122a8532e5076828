import FluentSql.Descriptor
import FluentSql.Value.Access

set_option autoImplicit false

/-!
# Queries on tables in memory

A descriptor can be carried out on a table in memory instead of a database. Only comparisons with
the operator `=` filter rows; every other predicate counts as satisfied, and joins, grouping,
ordering and aggregates play no part. `AND` binds tighter than `OR`, as in the compiled predicate.

A table is a sequence of mappings, mostly a list, but nothing checks that. An item that is no
mapping passes as long as no predicate looks into it.

## Main definitions

* `FluentSql.Descriptor.keeps` — whether the predicate holds on a row.
* `FluentSql.Descriptor.admits` — whether it holds on any value in the place of a row.
* `FluentSql.Descriptor.filterTable`, `FluentSql.Descriptor.page`, `FluentSql.Descriptor.selectRows`
  — reading.
-/

namespace FluentSql

/-! ## Predicates on rows -/

/-- Whether a predicate holds on a row. Only equality with a bound value is decided. -/
def Predicate.holds (row : Row) : Predicate → Bool
  | .basic name .eq value _ => (row.value name).equal value
  | _ => true

/-- Whether a predicate looks at the row. -/
def Predicate.decides : Predicate → Bool
  | .basic _ .eq _ _ => true
  | _ => false

/-- Whether one of the groups that `OR` separates holds as a whole; `current` is what the group
at hand has come to so far. -/
def someGroup (holds : Predicate → Bool) (current : Bool) : List Predicate → Bool
  | [] => current
  | p :: ps =>
    match p.logical with
    | .or => current || someGroup holds (holds p) ps
    | .and => someGroup holds (current && holds p) ps

/-- The truth of a predicate list; the connective of the first predicate plays no part. -/
def predicateHolds (holds : Predicate → Bool) : List Predicate → Bool
  | [] => true
  | p :: ps => someGroup holds (holds p) ps

namespace Descriptor

/-- Whether the predicate of a query holds on a row. -/
def keeps (d : Descriptor) (row : Row) : Bool := predicateHolds (Predicate.holds row) d.wheres

/-- Whether the predicate of a query holds on an item of a table. What is no mapping cannot be
looked into. -/
def admits (d : Descriptor) (item : Value) : Except Error Bool :=
  match item with
  | .map row => .ok (d.keeps row)
  | v => if d.wheres.any Predicate.decides then .error (v.lacking "get") else .ok true

/-! ## Reading -/

/-- For every item of a table, whether the predicate holds on it. -/
def matching (d : Descriptor) (table : Value) : Except Error (List Bool) := do
  (← table.items).mapM d.admits

/-- The rows on which the predicate holds. -/
def filterTable (d : Descriptor) (table : Value) : Except Error (List Value) := do
  (← table.items).filterM d.admits

end Descriptor

/-- The position that an index means in a list of `n` items: from the end if it is negative, and
cut off at both ends. -/
def clampIndex (n : Nat) (i : Int) : Nat :=
  if i < 0 then (i + n).toNat else min i.toNat n

/-- The items between two indices. -/
def slice {α : Type} (xs : List α) (start stop : Int) : List α :=
  (xs.take (clampIndex xs.length stop)).drop (clampIndex xs.length start)

/-- The index that a value stands for. -/
def Value.index (v : Value) : Except Error Int :=
  match v.position? with
  | some i => .ok i
  | none => .error .wrongType

/-- The part of a sequence between two indices, a sequence of the same kind. -/
def Value.slice (v start stop : Value) : Except Error Value := do
  let cut {α : Type} (xs : List α) : Except Error (List α) := do
    return FluentSql.slice xs (← start.index) (← stop.index)
  match v.bare with
  | .list xs => return .list (← cut xs)
  | .tuple xs => return .tuple (← cut xs)
  | .text s => return .text (String.ofList (← cut s.toList))
  | .bytes octets => return .bytes (← cut octets)
  | _ => throw .wrongType

namespace Descriptor

/-- The slice of a table that the offset and the limit cut out. -/
def page (d : Descriptor) (table : Value) : Except Error Value := do
  let offset := d.offset.orElse (.int 0)
  let stop ← if d.limit.isNull then pure (Value.int (← table.length)) else offset.add d.limit
  table.slice offset stop

/-- The rows that the query selects: filtered, then cut. -/
def selectRows (d : Descriptor) (table : Value) : Except Error (List Value) := do
  (← d.page (.list (← d.filterTable table))).items

end Descriptor

end FluentSql
