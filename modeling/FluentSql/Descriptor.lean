import FluentSql.Clause
import FluentSql.Value

set_option autoImplicit false

/-!
# Query descriptors

A descriptor is everything that one query has accumulated: its table, its clauses in the order in
which they were added, its options, and at most one queued write. Predicates may hold whole
queries (`EXISTS`), and so may the parts of a union, to any depth.

What is not checked when it is set stays a dynamic value: the alias, the limit and the offset
(null when unset), the items of the select list, and the names of databases.

## Main definitions

* `FluentSql.Predicate`, `FluentSql.UnionPart`, `FluentSql.Descriptor` — the mutually nested
  records.
* `FluentSql.PendingAction` — the queued write; `FluentSql.WriteKind` its known kinds.
* `FluentSql.Descriptor.new` — the descriptor of a query to which nothing was added.
-/

namespace FluentSql

/-! ## Flat records -/

/-- A joined table and the condition it is joined on. -/
structure Join where
  kind : JoinKind
  table : String
  condition : String
  deriving DecidableEq, Repr, Inhabited

/-- A key to sort by. -/
structure SortKey where
  column : String
  direction : Direction
  deriving DecidableEq, Repr, Inhabited

/-- An aggregate over a column and the name of its result. -/
structure Aggregate where
  function : AggregateFunction
  column : String
  label : String
  deriving DecidableEq, Repr, Inhabited

/-- The queued write: its kind, kept as text so that an unknown one is found out when it is
executed, and its data. -/
structure PendingAction where
  kind : String
  data : Value
  deriving Inhabited

/-- The kinds of write that can be executed. -/
inductive WriteKind where
  | insert | update | delete | increment | decrement | updateOrInsert
  deriving DecidableEq, Repr, Inhabited

namespace WriteKind

/-- The spelling of a kind of write. -/
def keyword : WriteKind → String
  | .insert => "insert"
  | .update => "update"
  | .delete => "delete"
  | .increment => "increment"
  | .decrement => "decrement"
  | .updateOrInsert => "updateOrInsert"

/-- The kinds of write. -/
def all : List WriteKind := [.insert, .update, .delete, .increment, .decrement, .updateOrInsert]

/-- The kind of write of a spelling. -/
def ofKeyword? : String → Option WriteKind := wordOf? all keyword

/-- Whether a write of this kind refuses to run without a predicate. -/
def needsWhere : WriteKind → Bool
  | .update | .delete | .increment | .decrement => true
  | .insert | .updateOrInsert => false

end WriteKind

/-! ## Nested records -/

mutual

/-- A predicate of a WHERE or HAVING list, with the connective that joins it to the one before. -/
inductive Predicate where
  /-- A column compared with a bound value. -/
  | basic (column : String) (operator : Operator) (value : Value) (logical : Connective)
  /-- Two columns compared. -/
  | column (column : String) (operator : Operator) (other : String) (logical : Connective)
  /-- Verbatim SQL with its bound values. -/
  | raw (sql : String) (bindings : List Value) (logical : Connective)
  /-- Membership of a column in a list of bound values. -/
  | member (column : String) (values : List Value) (negated : Bool) (logical : Connective)
  /-- A column being null. -/
  | null (column : String) (negated : Bool) (logical : Connective)
  /-- A column between two bound values. -/
  | between (column : String) (low high : Value) (negated : Bool) (logical : Connective)
  /-- A query having a row. -/
  | exist (query : Descriptor) (negated : Bool) (logical : Connective)
  /-- Something of a kind that no part of the library knows, or of no kind at all. -/
  | unknown (kind : Option String)

/-- A query combined with the one that holds it. -/
structure UnionPart where
  operator : SetOperator
  query : Descriptor

/-- Everything that one query has accumulated. -/
structure Descriptor where
  table : String
  tableAlias : Value
  columns : List Value
  wheres : List Predicate
  havings : List Predicate
  joins : List Join
  order : List SortKey
  groups : List String
  limit : Value
  offset : Value
  distinct : Bool
  aggregates : List Aggregate
  unions : List UnionPart
  pending : Option PendingAction
  banks : Option (List Value)

end

/-- The connective of a predicate. -/
def Predicate.logical : Predicate → Connective
  | .basic _ _ _ l | .column _ _ _ l | .raw _ _ l | .member _ _ _ l | .null _ _ l
  | .between _ _ _ _ l | .exist _ _ l => l
  | .unknown _ => .and

namespace Descriptor

/-- The descriptor of a query to which nothing was added: every column of the table. -/
def new (table : String) : Descriptor where
  table
  tableAlias := .null
  columns := [.text "*"]
  wheres := []
  havings := []
  joins := []
  order := []
  groups := []
  limit := .null
  offset := .null
  distinct := false
  aggregates := []
  unions := []
  pending := none
  banks := none

instance : Inhabited Descriptor := ⟨new ""⟩

/-- The predicates of the WHERE list that are joined by `OR`. -/
def alternatives (d : Descriptor) : List Predicate := d.wheres.filter (·.logical == .or)

/-- Whether a write of a known kind is queued. -/
def hasPendingWrite (d : Descriptor) : Bool :=
  match d.pending with
  | some action => (WriteKind.ofKeyword? action.kind).isSome
  | none => false

end Descriptor

end FluentSql
