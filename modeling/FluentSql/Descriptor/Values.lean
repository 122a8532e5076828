import FluentSql.Descriptor

set_option autoImplicit false

/-!
# Values in descriptors

The dynamic values that a descriptor holds, at any depth of nesting: what it binds, its alias, its
select list, its limits and the data of its queued write.

## Main definitions

* `FluentSql.Descriptor.values` — the values that a descriptor holds.
* `FluentSql.Descriptor.mapValues` — a descriptor with every value in it replaced.
-/

namespace FluentSql

/-! ## Collecting -/

mutual

/-- The values that a predicate holds. -/
def Predicate.values : Predicate → List Value
  | .basic _ _ value _ => [value]
  | .column .. | .null .. | .unknown _ => []
  | .raw _ bindings _ => bindings
  | .member _ values _ _ => values
  | .between _ low high _ _ => [low, high]
  | .exist query _ _ => query.values

/-- The values that predicates hold. -/
def predicateValues : List Predicate → List Value
  | [] => []
  | p :: ps => p.values ++ predicateValues ps

/-- The values that the parts of a union hold. -/
def unionValues : List UnionPart → List Value
  | [] => []
  | ⟨_, query⟩ :: parts => query.values ++ unionValues parts

/-- The values that a descriptor holds. -/
def Descriptor.values : Descriptor → List Value
  | { table := _, tableAlias, columns, wheres, havings, joins := _, order := _, groups := _, limit,
      offset, distinct := _, aggregates := _, unions, pending, banks } =>
    tableAlias :: limit :: offset :: columns ++ predicateValues wheres ++
      predicateValues havings ++ unionValues unions ++ (pending.map (·.data)).toList ++
      banks.getD []

end

/-! ## Replacing -/

/-- A queued write with its data replaced. -/
def PendingAction.mapData (f : Value → Value) (a : PendingAction) : PendingAction :=
  { a with data := f a.data }

mutual

/-- A predicate with every value in it replaced. -/
def Predicate.mapValues (f : Value → Value) : Predicate → Predicate
  | .basic column operator value logical => .basic column operator (f value) logical
  | .raw sql bindings logical => .raw sql (bindings.map f) logical
  | .member column values negated logical => .member column (values.map f) negated logical
  | .between column low high negated logical => .between column (f low) (f high) negated logical
  | .exist query negated logical => .exist (query.mapValues f) negated logical
  | p => p

/-- Predicates with every value in them replaced. -/
def mapPredicates (f : Value → Value) : List Predicate → List Predicate
  | [] => []
  | p :: ps => p.mapValues f :: mapPredicates f ps

/-- Parts of a union with every value in them replaced. -/
def mapUnions (f : Value → Value) : List UnionPart → List UnionPart
  | [] => []
  | ⟨operator, query⟩ :: parts => ⟨operator, query.mapValues f⟩ :: mapUnions f parts

/-- A descriptor with every value in it replaced. -/
def Descriptor.mapValues (f : Value → Value) : Descriptor → Descriptor
  | { table, tableAlias, columns, wheres, havings, joins, order, groups, limit, offset, distinct,
      aggregates, unions, pending, banks } => {
    table, joins, order, groups, distinct, aggregates
    tableAlias := f tableAlias
    columns := columns.map f
    wheres := mapPredicates f wheres
    havings := mapPredicates f havings
    limit := f limit
    offset := f offset
    unions := mapUnions f unions
    pending := pending.map (PendingAction.mapData f)
    banks := banks.map fun names => names.map f }

end

end FluentSql
