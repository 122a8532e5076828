import FluentSql.Descriptor
import FluentSql.Statement
import FluentSql.Value.Display
import FluentSql.Error

set_option autoImplicit false

/-!
# Compiling queries

A descriptor becomes one SELECT statement. Text is assembled while the bound values are collected
in one list, in the order in which their placeholders are written, through every query nested in
the descriptor. The order, the limit and the offset are those of the outermost query and stand
once, at the end; a part of a union that is itself a union is wrapped as one operand.

## Main definitions

* `FluentSql.Assembly` — text in the making, with the values bound so far.
* `FluentSql.Predicate.assemble` — the text of one predicate.
* `FluentSql.Descriptor.assembleBody`, `FluentSql.Descriptor.assemble` — a query without and with
  its order, limit and offset.
* `FluentSql.Descriptor.select` — the SELECT statement of a descriptor.
* `FluentSql.whereStatement` — a predicate list on its own.
-/

namespace FluentSql

/-- Text in the making: a computation that adds to the values bound so far. -/
abbrev Assembly := StateT (List Value) (Except Error)

namespace Assembly

/-- Binds a value and gives its placeholder. -/
def bind (v : Value) : Assembly String := fun bound => .ok ("?", bound ++ [v])

/-- Binds several values and gives their placeholders. -/
def bindAll (vs : List Value) : Assembly String := fun bound =>
  .ok (String.intercalate ", " (vs.map fun _ => "?"), bound ++ vs)

/-- The statement that an assembly makes, starting from no bound values. -/
def statement (a : Assembly String) : Except Error Statement := do
  let (sql, bindings) ← StateT.run a []
  return { sql, bindings }

end Assembly

/-! ## Parts that bind nothing -/

/-- The text of an item of a select list. -/
def selectItemText : Value → String
  | .raw sql => sql
  | v => v.display

/-- The text of an aggregate. -/
def Aggregate.text (a : Aggregate) : String :=
  a.function.sql ++ "(" ++ a.column ++ ") AS " ++ a.label

/-- The text of a join. -/
def Join.text (j : Join) : String := j.kind.keyword ++ " JOIN " ++ j.table ++ " ON " ++ j.condition

/-- The text of a sort key. -/
def SortKey.text (k : SortKey) : String := k.column ++ " " ++ k.direction.keyword

/-- The select list: the first aggregate if there is one, else the items, else every column. -/
def selectList (columns : List Value) (aggregates : List Aggregate) : String :=
  match aggregates with
  | a :: _ => a.text
  | [] => if columns.isEmpty then "*" else String.intercalate ", " (columns.map selectItemText)

/-- The text from the keyword up to the table and its alias. -/
def selectHead (table : String) (tableAlias : Value) (columns : List Value) (distinct : Bool)
    (aggregates : List Aggregate) : String :=
  (if distinct then "SELECT DISTINCT " else "SELECT ") ++ selectList columns aggregates ++
    " FROM " ++ (if tableAlias.truthy then table ++ " " ++ tableAlias.display else table)

/-! ## Parts that bind values -/

/-- The keyword of a negated or plain test. -/
def negatable (negated : Bool) (keyword : String) : String :=
  if negated then "NOT " ++ keyword else keyword

/-- Adds the order, the limit and the offset of a query to its body. -/
def Descriptor.assembleEnd (d : Descriptor) (body : String) : Assembly String := do
  let order := if d.order.isEmpty then []
    else ["ORDER BY " ++ String.intercalate ", " (d.order.map SortKey.text)]
  let limit ← if d.limit.isNull then pure [] else do pure ["LIMIT " ++ (← Assembly.bind d.limit)]
  let offset ← if d.offset.isNull then pure [] else do
    pure ["OFFSET " ++ (← Assembly.bind d.offset)]
  return String.intercalate " " (body :: order ++ limit ++ offset)

mutual

/-- The text of a predicate without its connective; `part` names the list that it stands in. -/
def Predicate.assemble (part : String) : Predicate → Assembly String
  | .basic column operator value _ => do
    return column ++ " " ++ operator.keyword ++ " " ++ (← Assembly.bind value)
  | .column column operator other _ => return column ++ " " ++ operator.keyword ++ " " ++ other
  | .raw sql bindings _ => do
    let _ ← Assembly.bindAll bindings
    return sql
  | .member column values negated _ =>
    -- An empty list has no members.
    if values.isEmpty then return if negated then "1=1" else "1=0"
    else do
      return column ++ " " ++ negatable negated "IN" ++ " (" ++ (← Assembly.bindAll values) ++ ")"
  | .null column negated _ => return column ++ " IS " ++ negatable negated "NULL"
  | .between column low high negated _ => do
    let low ← Assembly.bind low
    let high ← Assembly.bind high
    return column ++ " " ++ negatable negated "BETWEEN" ++ " " ++ low ++ " AND " ++ high
  | .exist query negated _ => do
    let body ← query.assembleBody
    return negatable negated "EXISTS" ++ " (" ++ (← query.assembleEnd body) ++ ")"
  | .unknown kind => throw (.unsupportedClause (kind.getD "SimpleNamespace") part)

/-- The texts of predicates, each but the first with its connective. -/
def assemblePredicates (part : String) (first : Bool) : List Predicate → Assembly (List String)
  | [] => return []
  | p :: ps => do
    let text ← p.assemble part
    let rest ← assemblePredicates part false ps
    return (if first then text else p.logical.keyword ++ " " ++ text) :: rest

/-- The texts of the parts of a union, each with its operator. -/
def assembleUnions : List UnionPart → Assembly (List String)
  | [] => return []
  | ⟨operator, query⟩ :: parts => do
    let body ← query.assembleBody
    let operand :=
      -- A union inside a union is one operand of it.
      if query.unions.isEmpty then body else "SELECT * FROM (" ++ body ++ ") union_branch"
    let rest ← assembleUnions parts
    return (operator.keyword ++ " " ++ operand) :: rest

/-- The text of a query without its order, limit and offset. -/
def Descriptor.assembleBody : Descriptor → Assembly String
  | { table, tableAlias, columns, wheres, havings, joins, order := _, groups, limit := _,
      offset := _, distinct, aggregates, unions, pending := _, banks := _ } => do
    let predicates ← assemblePredicates "WHERE" true wheres
    let wherePart := if wheres.isEmpty then [] else ["WHERE " ++ String.intercalate " " predicates]
    let groupPart :=
      if groups.isEmpty then [] else ["GROUP BY " ++ String.intercalate ", " groups]
    let conditions ← assemblePredicates "HAVING" true havings
    let havingPart :=
      if havings.isEmpty then [] else ["HAVING " ++ String.intercalate " " conditions]
    let parts ← assembleUnions unions
    return String.intercalate " " (selectHead table tableAlias columns distinct aggregates ::
      joins.map Join.text ++ wherePart ++ groupPart ++ havingPart ++ parts)

end

/-- The text of a whole query. -/
def Descriptor.assemble (d : Descriptor) : Assembly String := do
  let body ← d.assembleBody
  d.assembleEnd body

/-- The SELECT statement of a descriptor. -/
def Descriptor.select (d : Descriptor) : Except Error Statement := d.assemble.statement

/-- A predicate list as a statement of its own, without the keyword. -/
def whereStatement (ps : List Predicate) : Except Error Statement :=
  Assembly.statement do return String.intercalate " " (← assemblePredicates "WHERE" true ps)

end FluentSql
