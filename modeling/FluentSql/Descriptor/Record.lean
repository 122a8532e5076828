import FluentSql.Descriptor
import FluentSql.Value.Equality

set_option autoImplicit false

/-!
# Descriptors as records

As a value, a descriptor is a record that names every field in the order of declaration, and so
are the parts of it. Written plainly, every record is a mapping of its fields, and data inside it
is written plainly too: an outcome or a fragment becomes the mapping of its parts. What is such an
outcome cannot be written plainly as a key, since no mapping can be one.

## Main definitions

* `FluentSql.Value.plain` — a value with the records in it written as mappings.
* `FluentSql.Value.hasPlainKeys` — whether every key in a value is still one when written plainly.
* `FluentSql.Predicate.toRecord`, `FluentSql.Descriptor.toRecord` — the records.
* `FluentSql.Descriptor.toValue` — the plain record of a descriptor.
-/

namespace FluentSql

/-! ## Plain values -/

mutual

/-- A value with every record inside it written as the mapping of its parts. -/
def Value.plain : Value → Value
  | .list xs => .list (plainItems xs)
  | .tuple xs => .tuple (plainItems xs)
  | .map fs => .map (plainFields fs)
  | .writeResult changes lastId =>
    .map [("changes", changes.plain), ("last_insert_rowid", lastId.plain)]
  | .queryResult data affected lastId =>
    .map [("data", data.plain), ("affected_rows", affected.plain), ("last_insert_id", lastId.plain)]
  | .raw sql => .map [("sql", .text sql)]
  | .statement sql bindings =>
    .map [("sql", .text sql), ("bindings", .list (plainItems bindings))]
  | .record _ fields => .map (plainFields fields)
  | .view _ seen => seen.plain
  | v => v

/-- The items with the records inside them written as mappings. -/
def plainItems : List Value → List Value
  | [] => []
  | x :: xs => x.plain :: plainItems xs

/-- The entries with the records inside them written as mappings. -/
def plainFields : List (Value × Value) → List (Value × Value)
  | [] => []
  | (key, x) :: rest => (key, x.plain) :: plainFields rest

end

mutual

/-- Whether every key in a value is still one when written plainly. -/
def Value.hasPlainKeys : Value → Bool
  | .list xs | .tuple xs | .statement _ xs => havePlainKeys xs
  | .map fs => fieldsHavePlainKeys fs
  | .writeResult changes lastId => changes.hasPlainKeys && lastId.hasPlainKeys
  | .queryResult data affected lastId =>
    data.hasPlainKeys && affected.hasPlainKeys && lastId.hasPlainKeys
  | .record _ fields => fieldsHavePlainKeys fields
  | _ => true

/-- Whether every key in items is still one when written plainly. -/
def havePlainKeys : List Value → Bool
  | [] => true
  | x :: xs => x.hasPlainKeys && havePlainKeys xs

/-- Whether every key of entries and in their values is still one when written plainly. -/
def fieldsHavePlainKeys : List (Value × Value) → Bool
  | [] => true
  | (key, x) :: rest => key.plain.hashable && x.hasPlainKeys && fieldsHavePlainKeys rest

end

/-! ## Records of the parts -/

/-- The record of a join. -/
def Join.toRecord (j : Join) : Value :=
  .record "JoinSpec"
    [("type", .text j.kind.keyword), ("table", .text j.table), ("on", .text j.condition)]

/-- The record of a sort key. -/
def SortKey.toRecord (k : SortKey) : Value :=
  .record "OrderSpec" [("column", .text k.column), ("direction", .text k.direction.keyword)]

/-- The record of an aggregate. -/
def Aggregate.toRecord (a : Aggregate) : Value :=
  .record "Aggregate"
    [("func", .text a.function.keyword), ("column", .text a.column), ("alias", .text a.label)]

/-- The record of a queued write. -/
def PendingAction.toRecord (a : PendingAction) : Value :=
  .record "PendingAction" [("type", .text a.kind), ("data", a.data)]

/-- The connective of a predicate as a field. -/
def Connective.entry (l : Connective) : Value × Value := ("logical", .text l.keyword)

mutual

/-- The record of a predicate. One of no known kind is an object. -/
def Predicate.toRecord : Predicate → Value
  | .basic column operator value logical =>
    .record "BasicClause"
      [("type", .text "basic"), ("column", .text column), ("operator", .text operator.keyword),
        ("value", value), logical.entry]
  | .column column operator other logical =>
    .record "ColumnClause"
      [("type", .text "column"), ("column", .text column), ("operator", .text operator.keyword),
        ("other_column", .text other), logical.entry]
  | .raw sql bindings logical =>
    .record "RawClause"
      [("type", .text "raw"), ("sql", .text sql), ("bindings", .list bindings), logical.entry]
  | .member column values negated logical =>
    .record "InClause"
      [("type", .text "in"), ("column", .text column), ("values", .list values),
        ("negated", .bool negated), logical.entry]
  | .null column negated logical =>
    .record "NullClause"
      [("type", .text "null"), ("column", .text column), ("negated", .bool negated),
        logical.entry]
  | .between column low high negated logical =>
    .record "BetweenClause"
      [("type", .text "between"), ("column", .text column), ("bounds", .tuple [low, high]),
        ("negated", .bool negated), logical.entry]
  | .exist query negated logical =>
    .record "ExistsClause"
      [("type", .text "exists"), ("subquery", query.toRecord), ("negated", .bool negated),
        logical.entry]
  | .unknown kind =>
    .object (Connective.and.entry :: (kind.map fun k => (("type", .text k) : Value × Value)).toList)

/-- The records of a list of predicates. -/
def predicateRecords : List Predicate → List Value
  | [] => []
  | p :: ps => p.toRecord :: predicateRecords ps

/-- The record of a part of a union. -/
def UnionPart.toRecord : UnionPart → Value
  | ⟨operator, query⟩ =>
    .record "UnionPart" [("type", .text operator.keyword), ("query", query.toRecord)]

/-- The records of the parts of a union. -/
def unionRecords : List UnionPart → List Value
  | [] => []
  | p :: ps => p.toRecord :: unionRecords ps

/-- The record of a descriptor. -/
def Descriptor.toRecord : Descriptor → Value
  | ⟨table, tableAlias, columns, wheres, havings, joins, order, groups, limit, offset, distinct,
      aggregates, unions, pending, banks⟩ =>
    .record "QueryDescriptor" [
      ("table", .text table),
      ("alias", tableAlias),
      ("select_columns", .list columns),
      ("where_clauses", .list (predicateRecords wheres)),
      ("having_clauses", .list (predicateRecords havings)),
      ("joins", .list (joins.map Join.toRecord)),
      ("order_clauses", .list (order.map SortKey.toRecord)),
      ("group_by_columns", .list (groups.map .text)),
      ("limit_value", limit),
      ("offset_value", offset),
      ("is_distinct", .bool distinct),
      ("aggregates", .list (aggregates.map Aggregate.toRecord)),
      ("union_parts", .list (unionRecords unions)),
      ("pending_action", (pending.map PendingAction.toRecord).getD .null),
      ("target_banks", (banks.map .list).getD .null)]

end

/-! ## Plain records -/

/-- The plain record of a queued write. -/
def PendingAction.toValue (a : PendingAction) : Value := a.toRecord.plain

/-- The plain record of a descriptor. -/
def Descriptor.toValue (d : Descriptor) : Value := d.toRecord.plain

end FluentSql
