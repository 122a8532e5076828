import FluentSql.Call.Edit
import FluentSql.Call.Method
import FluentSql.Dialect

set_option autoImplicit false

/-!
# Carrying out chainable calls

A chainable call is carried out on a builder, with its arguments evaluated and within a context:
the clock, the dialect of the builder, and a copy of the query that it was handed. Some calls are
short forms of others. The calls that hand the builder to a callback are not among the edits here.

## Main definitions

* `FluentSql.Context` — what a call may ask of its surroundings.
* `FluentSql.Arguments` — evaluated arguments by parameter.
* `FluentSql.Method.accepts` — whether arguments can be handed to a call.
* `FluentSql.Method.expand` — the call that a short form stands for.
* `FluentSql.Method.perform` — the edits of a call.
-/

namespace FluentSql

/-! ## Surroundings -/

/-- What a call may ask of its surroundings. -/
structure Context where
  clock : Moment
  /-- The dialect of the builder. -/
  dialect : Except Error Dialect
  /-- A copy of the query that the call was handed, if it was handed one. -/
  query : Option Descriptor

/-- The builder whose query a value is or stands for. -/
def Value.queried? : Value → Option Nat
  | .builder id _ | .view (.query id) _ => some id
  | _ => none

/-- The query that a call was handed as a value, for the field that it is meant for. -/
def Context.queryOf (ctx : Context) (field : String) (v : Value) : Except Error Descriptor :=
  match ctx.query, v.bare with
  | some d, _ => .ok d
  | none, .raw _ | none, .record .. => .error (.invalid [⟨[.field field], .modelType⟩])
  | none, v => .error (v.lacking "model_copy")

/-! ## Evaluated arguments -/

/-- Evaluated arguments by parameter. -/
abbrev Arguments := List (String × Value)

namespace Arguments

/-- The argument for a parameter, if one was given. -/
def get? (args : Arguments) (name : String) : Option Value :=
  (args.find? (·.1 == name)).map (·.2)

/-- The argument for a parameter that has to be given. -/
def value (args : Arguments) (name : String) : Except Error Value :=
  match args.get? name with
  | some v => .ok v
  | none => .error .wrongType

/-- The argument for a parameter with a default. -/
def valueOr (args : Arguments) (name : String) (default : Value) : Value :=
  (args.get? name).getD default

/-- The arguments as the log keeps them, in the order of the parameters. -/
def details (args : Arguments) (parameters : List String) : Value :=
  .map (parameters.filterMap fun p => (args.get? p).map fun v => (.text p, v))

/-- Whether every parameter of the arguments belongs to the call. -/
def fit (args : Arguments) (parameters : List String) : Bool :=
  args.all fun a => parameters.contains a.1

end Arguments

/-- Whether arguments can be handed to a call: every one belongs to a parameter, and none is missing
that has to be given. -/
def Method.accepts (m : Method) (args : Arguments) : Bool :=
  args.fit m.parameters &&
    m.parameters.all fun p => m.optional.contains p || (args.get? p).isSome

/-! ## Calls that stand for others -/

/-- Selects an aggregate of a column under an alias. -/
def selectAggregate (args : Arguments) (function : String) (column label : Value) :
    Method × Arguments :=
  (.selectExpression,
    [("expression", .text (function ++ "(" ++ (args.valueOr "column" column).display ++ ")")),
      ("alias", args.valueOr "alias" label)])

/-- Short forms of other calls, which are recorded as those: the call that is meant, and its
arguments. -/
def Method.expand (m : Method) (args : Arguments) : Except Error (Method × Arguments) :=
  let column : Except Error Unit := (args.value "column").map fun _ => ()
  match m with
  | .selectCount => .ok (selectAggregate args "COUNT" (.text "*") (.text "count"))
  | .selectSum => column.map fun _ => selectAggregate args "SUM" .null (.text "sum")
  | .selectAvg => column.map fun _ => selectAggregate args "AVG" .null (.text "avg")
  | .selectMin => column.map fun _ => selectAggregate args "MIN" .null (.text "min")
  | .selectMax => column.map fun _ => selectAggregate args "MAX" .null (.text "max")
  | .selectCaseSum => do
    let condition ← args.value "condition"
    let label ← args.value "alias"
    let expression := "SUM(CASE WHEN " ++ condition.display ++ " THEN 1 ELSE 0 END)"
    return (.selectExpression, [("expression", .text expression), ("alias", label)])
  | .orWhereIn => do
    return (.whereIn, [("column", ← args.value "column"), ("values", ← args.value "values"),
      ("logical", .text "OR")])
  | .orWhereNotIn => do
    return (.whereNotIn, [("column", ← args.value "column"), ("values", ← args.value "values"),
      ("logical", .text "OR")])
  | .whereSearch => do
    return (.whereRawSearch, [("term", ← args.value "term"),
      ("columns", ← args.value "columns")])
  | .groupByOne => do
    return (.groupBy, [("columns", .list [← args.value "column"])])
  | m => .ok (m, args)

/-! ## The edits of a call -/

/-- The moment some seconds before another, in universal time; out of range is an overflow. -/
def Moment.before (t : Moment) (seconds : Int) : Except Error Moment :=
  match t.universalBefore? seconds with
  | some earlier => .ok earlier
  | none => .error .overflow

/-- The length of a look-back window in seconds; an unknown one counts as a day. -/
def windowSeconds (key : Value) : Except Error Int :=
  match key with
  | .text "7d" => .ok (7 * 86400)
  | .text "30d" => .ok (30 * 86400)
  | v => if v.hashable then .ok 86400 else .error .wrongType

open Edit in
/-- The edits of a call, once its arguments are evaluated. -/
def Method.perform (ctx : Context) (args : Arguments) : Method → Edit Unit
  -- the select list
  | .select => do
    let items ← (args.valueOr "columns" (.tuple [.text "*"])).oneOrMany
    modify fun b => b.replaceColumns (items.map fun c => .text c.display)
  | .selectRaw => do addColumnText (← args.value "sql")
  | .aggregatesSelect => do
    let (given, failure) := (← args.value "columns").iterated
    addColumns given failure
  | .distinct => edit fun d => { d with distinct := true }
  | .selectExpression => do
    addExpression (← args.value "expression") (args.valueOr "alias" .null)
  | .selectRowNumber => do
    let single (v : Value) : Value :=
      match v with
      | .text s => .list [.text s]
      | v => v
    let order ← args.value "order_by"
    let dialect ← ctx.dialect
    let sql ← dialect.rowNumber (single order) (single (args.valueOr "partition_by" .null))
      (args.valueOr "alias" (.text "row_num"))
    addColumnText (.text sql)
  -- the table
  | .setAlias => do
    let name ← args.value "name"
    edit fun d => { d with tableAlias := name }
  | .bank => do
    let names ← (← args.value "names").oneOrMany
    edit fun d => { d with banks := some names }
  -- predicates
  | .where_ => do
    compare toWhere (← args.value "column") (← args.value "operator") (← args.value "value") .and
  | .orWhere => do
    compare toWhere (← args.value "column") (← args.value "operator") (← args.value "value") .or
  | .whereIf => do
    let column ← args.value "column"
    let operator ← args.value "operator"
    let value ← args.value "value"
    if (← args.value "condition").present then compare toWhere column operator value .and
  | .whereAll => do addEqualities (← (← args.value "conditions").fields "items")
  | .whereIn => do
    addMember (← args.value "column") (← args.value "values") false
      (args.valueOr "logical" (.text "AND"))
  | .whereNotIn => do
    addMember (← args.value "column") (← args.value "values") true
      (args.valueOr "logical" (.text "AND"))
  | .whereNull => do addNull (← args.value "column") false .and
  | .orWhereNull => do addNull (← args.value "column") false .or
  | .whereNotNull => do addNull (← args.value "column") true .and
  | .orWhereNotNull => do addNull (← args.value "column") true .or
  | .whereBetween => do addBetween (← args.value "column") (← args.value "bounds") false
  | .whereNotBetween => do addBetween (← args.value "column") (← args.value "bounds") true
  | .whereColumn => do
    addColumn (← args.value "first") (← args.value "operator") (← args.value "second")
      (args.valueOr "logical" (.text "AND"))
  | .whereRaw => do
    addRaw toWhere (← args.value "sql") (args.valueOr "bindings" .null)
      (args.valueOr "logical" (.text "AND"))
  | .whereRawSearch => do addSearch (← args.value "term") (← args.value "columns")
  | .whereExists => do addExists (← ctx.queryOf "subquery" (← args.value "query")) false
  | .whereNotExists => do addExists (← ctx.queryOf "subquery" (← args.value "query")) true
  | .whereLike => do like (← args.value "column") (← args.value "pattern") .and
  | .orWhereLike => do like (← args.value "column") (← args.value "pattern") .or
  | .whereContains => do like (← args.value "column") (pattern "%" (← args.value "term") "%") .and
  | .whereStartsWith => do
    like (← args.value "column") (pattern "" (← args.value "prefix") "%") .and
  | .whereEndsWith => do like (← args.value "column") (pattern "%" (← args.value "suffix") "") .and
  | .whereIlike => do ilike (← args.value "column") (← args.value "pattern")
  | .whereContainsCi => do ilike (← args.value "column") (pattern "%" (← args.value "term") "%")
  | .whereStartsWithCi => do
    ilike (← args.value "column") (pattern "" (← args.value "prefix") "%")
  | .whereEndsWithCi => do ilike (← args.value "column") (pattern "%" (← args.value "suffix") "")
  | .whereJsonContains => do
    let column ← args.value "column"
    let value ← args.value "value"
    addFragment (← (← ctx.dialect).jsonContains column value)
  | .whereFullText => do
    let columns ← args.value "columns"
    let term ← args.value "term"
    if term.truthy then
      let items ← columns.oneOrMany
      addFragment (← (← ctx.dialect).fullText (.list items) term)
  | .range => do
    let column ← args.value "column"
    addMoment column ">=" (args.valueOr "start" .null)
    addMoment column "<=" (args.valueOr "end" .null)
  | .period => do
    let column ← args.value "column"
    let key := args.valueOr "key" .null
    if key.truthy then
      let now ← ctx.clock.before 0
      addMoment column ">=" (.moment (← now.before (← windowSeconds key)))
  -- composition
  | .union_ => do addUnion .union (← ctx.queryOf "query" (← args.value "query"))
  | .unionAll => do addUnion .unionAll (← ctx.queryOf "query" (← args.value "query"))
  -- order and pages
  | .orderBy => do addSortKey (← args.value "column") (args.valueOr "direction" (.text "ASC"))
  | .orderByMany => do addSortKeys (← (← args.value "orders").items)
  | .limit => do setLimit (← args.value "count")
  | .offset => do setOffset (← args.value "count")
  | .paginate => setPage (args.valueOr "page" (.int 1)) (args.valueOr "per_page" (.int 25))
  -- joins
  | .innerJoin => do addJoin .inner (← args.value "table") (← args.value "on")
  | .leftJoin => do addJoin .left (← args.value "table") (← args.value "on")
  | .rightJoin => do addJoin .right (← args.value "table") (← args.value "on")
  | .innerJoinOn => joinOn .inner
  | .leftJoinOn => joinOn .left
  | .rightJoinOn => joinOn .right
  -- groups and aggregates
  | .groupBy => do
    let items ← (← args.value "columns").oneOrMany
    edit fun d => { d with groups := items.map Value.display }
  | .having_ => do
    compare toHaving (← args.value "column") (← args.value "operator") (← args.value "value") .and
  | .havingRaw => do
    addRaw toHaving (← args.value "sql") (args.valueOr "bindings" .null)
      (args.valueOr "logical" (.text "AND"))
  | .havingIf => do
    let column ← args.value "column"
    let operator ← args.value "operator"
    let value ← args.value "value"
    if (← args.value "condition").present then compare toHaving column operator value .and
  | .count => addAggregate .count (args.valueOr "column" (.text "*")) (args.valueOr "alias" .null)
  | .sum => do addAggregate .sum (← args.value "column") (args.valueOr "alias" .null)
  | .avg => do addAggregate .avg (← args.value "column") (args.valueOr "alias" .null)
  | .min => do addAggregate .min (← args.value "column") (args.valueOr "alias" .null)
  | .max => do addAggregate .max (← args.value "column") (args.valueOr "alias" .null)
  -- writes
  | .insert => do queue .insert (.list (← insertRows (← args.value "rows")))
  | .update => do queue .update (.map (← (← args.value "values").toFields))
  | .delete => queue .delete .null
  | .increment => do queue .increment (← amount)
  | .decrement => do queue .decrement (← amount)
  | .updateOrInsert => do
    let attributes ← (← args.value "attributes").toFields
    let values ← ((args.valueOr "values" .null).orElse (.map [])).toFields
    queue .updateOrInsert (.map [("attributes", .map attributes), ("values", .map values)])
  -- short forms are expanded before, and callbacks are no edits
  | .selectCount | .selectSum | .selectAvg | .selectMin | .selectMax | .selectCaseSum
  | .orWhereIn | .orWhereNotIn | .whereSearch | .groupByOne | .when_ | .unless_ => pure ()
where
  ilike (column pattern : Value) : Edit Unit := do
    addFragment ((← ctx.dialect).caseInsensitiveLike column pattern)
  joinOn (kind : JoinKind) : Edit Unit := do
    let table ← args.value "table"
    let left ← args.value "left"
    let right ← args.value "right"
    addJoin kind table (.text (left.display ++ " = " ++ right.display))
  amount : Except Error Value := do
    return .map [("column", ← args.value "column"), ("amount", args.valueOr "amount" (.int 1))]

end FluentSql
