import FluentSql.Builder
import FluentSql.Descriptor.Validation

set_option autoImplicit false

/-!
# Edits of a builder

An edit changes a builder and may fail; what it changed before failing stays changed. This module
holds the edits that calls are made of, each adding one record to one list of the descriptor or
setting one of its fields, after checking the record.

## Main definitions

* `FluentSql.Edit` — a change of a builder that may fail.
* `FluentSql.Edit.compare`, `FluentSql.Edit.addRaw`, `FluentSql.Edit.addMember`, … — predicates.
* `FluentSql.Edit.queue` — the queued write.
-/

namespace FluentSql

/-- A change of a builder that may fail; a failure keeps what was changed before it. -/
abbrev Edit := ExceptT Error (StateM Builder)

namespace Edit

/-- Carries out an edit: the builder afterwards, and the failure if there was one. -/
def run (e : Edit Unit) (b : Builder) : Except Error Unit × Builder :=
  (ExceptT.run e).run b

/-- Changes the descriptor. -/
def edit (change : Descriptor → Descriptor) : Edit Unit := modify fun b => b.edit change

/-! ## Where a predicate goes -/

/-- Adds a predicate to the WHERE list. -/
def toWhere (p : Predicate) (d : Descriptor) : Descriptor := { d with wheres := d.wheres ++ [p] }

/-- Adds a predicate to the HAVING list. -/
def toHaving (p : Predicate) (d : Descriptor) : Descriptor :=
  { d with havings := d.havings ++ [p] }

/-- Adds a predicate that passed its check. -/
def add (place : Predicate → Descriptor → Descriptor) (p : Checked Predicate) : Edit Unit := do
  let p ← p.toExcept
  edit (place p)

/-! ## Predicates -/

/-- Adds a comparison of a column with a value. -/
def compare (place : Predicate → Descriptor → Descriptor) (column operator value : Value)
    (logical : Connective) : Edit Unit :=
  add place <| Validation.basic
    [("column", column), ("operator", operator), ("value", value),
      ("logical", .text logical.keyword)]

/-- Adds an equality for every entry whose value is there at all. -/
def addEqualities : Fields → Edit Unit
  | [] => pure ()
  | (column, v) :: rest => do
    if v.present then compare toWhere column (.text "=") v .and
    addEqualities rest

/-- Adds a pattern match. -/
def like (column pattern : Value) (logical : Connective) : Edit Unit :=
  compare toWhere column (.text "LIKE") pattern logical

/-- Adds a membership in a sequence of values. -/
def addMember (column values : Value) (negated : Bool) (logical : Value) : Edit Unit := do
  let items ← values.items
  add toWhere <| Validation.member
    [("column", column), ("values", .list items), ("negated", .bool negated),
      ("logical", logical)]

/-- Adds a test for null. -/
def addNull (column : Value) (negated : Bool) (logical : Connective) : Edit Unit :=
  add toWhere <| Validation.null
    [("column", column), ("negated", .bool negated), ("logical", .text logical.keyword)]

/-- Adds a range between two bounds. -/
def addBetween (column bounds : Value) (negated : Bool) : Edit Unit := do
  let (low, high) ← bounds.pair
  add toWhere <| Validation.between
    [("column", column), ("bounds", .tuple [low, high]), ("negated", .bool negated)]

/-- Adds a comparison of two columns. -/
def addColumn (first operator second logical : Value) : Edit Unit :=
  add toWhere <| Validation.column
    [("column", first), ("operator", operator), ("other_column", second), ("logical", logical)]

/-- Adds verbatim SQL with its bound values; nothing counts as no values. -/
def addRaw (place : Predicate → Descriptor → Descriptor) (sql bindings logical : Value) :
    Edit Unit := do
  let items ← (bindings.orElse (.list [])).items
  add place <| Validation.raw [("sql", sql), ("bindings", .list items), ("logical", logical)]

/-- Adds a compiled fragment to the WHERE list. -/
def addFragment (s : Statement) : Edit Unit :=
  addRaw toWhere (.text s.sql) (.list s.bindings) (.text "AND")

/-- Adds a test for the existence of a row of a query. -/
def addExists (query : Descriptor) (negated : Bool) : Edit Unit :=
  edit (toWhere (.exist query negated .and))

/-- A pattern around a term. -/
def pattern (before : String) (term : Value) (after : String) : Value :=
  .text (before ++ term.display ++ after)

/-- Adds a match of a term against any of some columns; a blank term adds nothing. -/
def addSearch (term columns : Value) : Edit Unit := do
  if term.truthy then
    let items ← columns.items
    let conditions := items.map fun c => c.display ++ " LIKE ?"
    addFragment {
      sql := "(" ++ String.intercalate " OR " conditions ++ ")"
      bindings := items.map fun _ => pattern "%" term "%" }

/-- Adds a bound of a column by a moment, unless there is none. -/
def addMoment (column : Value) (operator : String) (bound : Value) : Edit Unit :=
  match bound with
  | .null => pure ()
  | .moment t => addFragment {
      sql := column.display ++ " " ++ operator ++ " ?"
      bindings := [.text (t.iso "T")] }
  | v => throw (v.lacking "isoformat")

/-! ## Other lists -/

/-- Adds a verbatim item to the select list. -/
def addColumnText (sql : Value) : Edit Unit := do
  let item ← (Validation.fragment [("sql", sql)]).toExcept
  edit fun d => { d with columns := d.columns ++ [item] }

/-- Adds to the select list what an iterable gives, as it gives it; then fails, if the iterable
does. -/
def addColumns (given : List Value) (failure : Option Error) : Edit Unit := do
  edit fun d => { d with columns := d.columns ++ given }
  match failure with
  | some e => throw e
  | none => pure ()

/-- Adds an expression to the select list, under an alias if there is one. -/
def addExpression (expression label : Value) : Edit Unit :=
  addColumnText <|
    if label.truthy then .text (expression.display ++ " AS " ++ label.display) else expression

/-- Adds a join. -/
def addJoin (kind : JoinKind) (table condition : Value) : Edit Unit := do
  let j ← (Validation.join
    [("type", .text kind.keyword), ("table", table), ("on", condition)]).toExcept
  edit fun d => { d with joins := d.joins ++ [j] }

/-- The direction that a text means in any letter case; the long s counts as an s. -/
def direction? (s : String) : Option Direction :=
  let upper (c : Char) : Char := if c == 'ſ' then 'S' else c.toUpper
  Direction.ofKeyword? (String.ofList (s.toList.map upper))

/-- Adds a sort key. -/
def addSortKey (column direction : Value) : Edit Unit := do
  let direction ← match direction with
    | .text s => pure (((direction? s).map fun d => Value.text d.keyword).getD direction)
    | .bytes _ => pure direction
    | v => throw (v.lacking "upper")
  let k ← (Validation.sortKey [("column", column), ("direction", direction)]).toExcept
  edit fun d => { d with order := d.order ++ [k] }

/-- Adds sort keys, each a mapping with a column and perhaps a direction. -/
def addSortKeys : List Value → Edit Unit
  | [] => pure ()
  | order :: orders => do
    let column ← order.subscript "column"
    let direction ← order.getOr "direction" .null
    addSortKey column (direction.orElse (.text "ASC"))
    addSortKeys orders

/-- A text with `all` in the place of every star. -/
def starless (s : String) : String :=
  String.ofList (s.toList.flatMap fun c => if c == '*' then ['a', 'l', 'l'] else [c])

/-- The name of a column as it stands in the name of an aggregate. An object may have a function
that gives it: an idle one gives null, and any other asks of a text what only builders have. -/
def nameInAggregate (column : Value) : Except Error Value :=
  match column with
  | .text s => .ok (.text (starless s))
  | .bytes _ | .moment _ => .error .wrongType
  | .object attributes =>
    match Fields.get? attributes (.text "replace") with
    | some (.function _ idle _) => if idle then .ok .null else .error .missingAttribute
    | _ => .error (column.lacking "replace")
  | v => .error (v.lacking "replace")

/-- The name of an aggregate that was given none. -/
def aggregateName (function : AggregateFunction) (column : Value) : Except Error Value := do
  return .text (function.keyword ++ "_" ++ (← nameInAggregate column).display)

/-- Adds an aggregate. -/
def addAggregate (function : AggregateFunction) (column label : Value) : Edit Unit := do
  let label ← if label.truthy then pure label else aggregateName function column
  let a ← (Validation.aggregate
    [("func", .text function.keyword), ("column", column), ("alias", label)]).toExcept
  edit fun d => { d with aggregates := d.aggregates ++ [a] }

/-- Adds a part of a union. -/
def addUnion (operator : SetOperator) (query : Descriptor) : Edit Unit :=
  edit fun d => { d with unions := d.unions ++ [{ operator, query }] }

/-! ## Single fields -/

/-- Sets the limit. -/
def setLimit (count : Value) : Edit Unit := edit fun d => { d with limit := count }

/-- Sets the offset. -/
def setOffset (count : Value) : Edit Unit := edit fun d => { d with offset := count }

/-- Sets the limit and the offset of a page, counted from 1; both numbers are at least 1. -/
def setPage (page perPage : Value) : Edit Unit := do
  let page ← (page.orElse (.int 1)).atLeastOne
  let perPage ← (perPage.orElse (.int 25)).atLeastOne
  setLimit perPage
  let skipped ← (← page.number).sub (.int 1)
  let offset ← skipped.mul (← perPage.number)
  setOffset offset.toValue

/-- Queues a write. -/
def queue (kind : WriteKind) (data : Value) : Edit Unit :=
  edit fun d => { d with pending := some { kind := kind.keyword, data } }

/-- The rows of an insert: one mapping, or a sequence of what gives rise to mappings. -/
def insertRows : Value → Except Error (List Value)
  | .map fs => .ok [.map fs]
  | v => do
    let rows ← (← v.items).mapM Value.toFields
    return rows.map .map

end Edit

end FluentSql
