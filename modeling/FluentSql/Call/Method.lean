set_option autoImplicit false

/-!
# Chainable calls

The calls that add to a query. Each has a name and named parameters, and gives back the builder
that it was made on.

## Main definitions

* `FluentSql.Method` — the chainable calls; `signature` gives their names and parameters, `optional`
  the parameters that may be left out.
* `FluentSql.Method.ofName?` — the call of a name.
-/

namespace FluentSql

/-- The chainable calls. -/
inductive Method where
  -- the select list
  | select | selectRaw | aggregatesSelect | distinct | selectExpression | selectCount | selectSum
  | selectAvg | selectMin | selectMax | selectCaseSum | selectRowNumber
  -- the table
  | setAlias | bank
  -- predicates
  | where_ | orWhere | whereIf | whereAll | whereIn | orWhereIn | whereNotIn | orWhereNotIn
  | whereNull | orWhereNull | whereNotNull | orWhereNotNull | whereBetween | whereNotBetween
  | whereColumn | whereRaw | whereRawSearch | whereSearch | whereExists | whereNotExists
  | whereLike | orWhereLike | whereContains | whereStartsWith | whereEndsWith
  | whereIlike | whereContainsCi | whereStartsWithCi | whereEndsWithCi
  | whereJsonContains | whereFullText | range | period
  -- composition
  | when_ | unless_ | union_ | unionAll
  -- order and pages
  | orderBy | orderByMany | limit | offset | paginate
  -- joins
  | innerJoin | leftJoin | rightJoin | innerJoinOn | leftJoinOn | rightJoinOn
  -- groups and aggregates
  | groupBy | groupByOne | having_ | havingRaw | havingIf | count | sum | avg | min | max
  -- writes
  | insert | update | delete | increment | decrement | updateOrInsert
  deriving DecidableEq, Repr, Inhabited

namespace Method

/-- The name of a call and the names of its parameters, in order. -/
def signature : Method → String × List String
  | .select => ("select", ["columns"])
  | .selectRaw => ("select_raw", ["sql"])
  | .aggregatesSelect => ("aggregates_select", ["columns"])
  | .distinct => ("distinct", [])
  | .selectExpression => ("select_expression", ["expression", "alias"])
  | .selectCount => ("select_count", ["column", "alias"])
  | .selectSum => ("select_sum", ["column", "alias"])
  | .selectAvg => ("select_avg", ["column", "alias"])
  | .selectMin => ("select_min", ["column", "alias"])
  | .selectMax => ("select_max", ["column", "alias"])
  | .selectCaseSum => ("select_case_sum", ["condition", "alias"])
  | .selectRowNumber => ("select_row_number", ["order_by", "partition_by", "alias"])
  | .setAlias => ("alias", ["name"])
  | .bank => ("bank", ["names"])
  | .where_ => ("where", ["column", "operator", "value"])
  | .orWhere => ("or_where", ["column", "operator", "value"])
  | .whereIf => ("where_if", ["condition", "column", "operator", "value"])
  | .whereAll => ("where_all", ["conditions"])
  | .whereIn => ("where_in", ["column", "values", "logical"])
  | .orWhereIn => ("or_where_in", ["column", "values"])
  | .whereNotIn => ("where_not_in", ["column", "values", "logical"])
  | .orWhereNotIn => ("or_where_not_in", ["column", "values"])
  | .whereNull => ("where_null", ["column"])
  | .orWhereNull => ("or_where_null", ["column"])
  | .whereNotNull => ("where_not_null", ["column"])
  | .orWhereNotNull => ("or_where_not_null", ["column"])
  | .whereBetween => ("where_between", ["column", "bounds"])
  | .whereNotBetween => ("where_not_between", ["column", "bounds"])
  | .whereColumn => ("where_column", ["first", "operator", "second", "logical"])
  | .whereRaw => ("where_raw", ["sql", "bindings", "logical"])
  | .whereRawSearch => ("where_raw_search", ["term", "columns"])
  | .whereSearch => ("where_search", ["term", "columns"])
  | .whereExists => ("where_exists", ["query"])
  | .whereNotExists => ("where_not_exists", ["query"])
  | .whereLike => ("where_like", ["column", "pattern"])
  | .orWhereLike => ("or_where_like", ["column", "pattern"])
  | .whereContains => ("where_contains", ["column", "term"])
  | .whereStartsWith => ("where_starts_with", ["column", "prefix"])
  | .whereEndsWith => ("where_ends_with", ["column", "suffix"])
  | .whereIlike => ("where_ilike", ["column", "pattern"])
  | .whereContainsCi => ("where_contains_ci", ["column", "term"])
  | .whereStartsWithCi => ("where_starts_with_ci", ["column", "prefix"])
  | .whereEndsWithCi => ("where_ends_with_ci", ["column", "suffix"])
  | .whereJsonContains => ("where_json_contains", ["column", "value"])
  | .whereFullText => ("where_full_text", ["columns", "term"])
  | .range => ("range", ["column", "start", "end"])
  | .period => ("period", ["column", "key"])
  | .when_ => ("when", ["condition", "callback"])
  | .unless_ => ("unless", ["condition", "callback"])
  | .union_ => ("union", ["query"])
  | .unionAll => ("union_all", ["query"])
  | .orderBy => ("order_by", ["column", "direction"])
  | .orderByMany => ("order_by_many", ["orders"])
  | .limit => ("limit", ["count"])
  | .offset => ("offset", ["count"])
  | .paginate => ("paginate", ["page", "per_page"])
  | .innerJoin => ("inner_join", ["table", "on"])
  | .leftJoin => ("left_join", ["table", "on"])
  | .rightJoin => ("right_join", ["table", "on"])
  | .innerJoinOn => ("inner_join_on", ["table", "left", "right"])
  | .leftJoinOn => ("left_join_on", ["table", "left", "right"])
  | .rightJoinOn => ("right_join_on", ["table", "left", "right"])
  | .groupBy => ("group_by", ["columns"])
  | .groupByOne => ("group_by_one", ["column"])
  | .having_ => ("having", ["column", "operator", "value"])
  | .havingRaw => ("having_raw", ["sql", "bindings", "logical"])
  | .havingIf => ("having_if", ["condition", "column", "operator", "value"])
  | .count => ("count", ["column", "alias"])
  | .sum => ("sum", ["column", "alias"])
  | .avg => ("avg", ["column", "alias"])
  | .min => ("min", ["column", "alias"])
  | .max => ("max", ["column", "alias"])
  | .insert => ("insert", ["rows"])
  | .update => ("update", ["values"])
  | .delete => ("delete", [])
  | .increment => ("increment", ["column", "amount"])
  | .decrement => ("decrement", ["column", "amount"])
  | .updateOrInsert => ("update_or_insert", ["attributes", "values"])

/-- The name of a call. -/
def name (m : Method) : String := m.signature.1

/-- The names of the parameters of a call, in order. -/
def parameters (m : Method) : List String := m.signature.2

/-- The parameters that a call may leave out, because they have a default. -/
def optional : Method → List String
  | .select => ["columns"]
  | .selectExpression | .selectSum | .selectAvg | .selectMin | .selectMax => ["alias"]
  | .sum | .avg | .min | .max => ["alias"]
  | .selectCount | .count => ["column", "alias"]
  | .selectRowNumber => ["partition_by", "alias"]
  | .whereIn | .whereNotIn | .whereColumn => ["logical"]
  | .whereRaw | .havingRaw => ["bindings", "logical"]
  | .range => ["start", "end"]
  | .period => ["key"]
  | .orderBy => ["direction"]
  | .paginate => ["page", "per_page"]
  | .increment | .decrement => ["amount"]
  | .updateOrInsert => ["values"]
  | _ => []

/-- Every call. -/
def all : List Method :=
  [.select, .selectRaw, .aggregatesSelect, .distinct, .selectExpression, .selectCount, .selectSum,
    .selectAvg, .selectMin, .selectMax, .selectCaseSum, .selectRowNumber, .setAlias, .bank, .where_,
    .orWhere, .whereIf, .whereAll, .whereIn, .orWhereIn, .whereNotIn, .orWhereNotIn, .whereNull,
    .orWhereNull, .whereNotNull, .orWhereNotNull, .whereBetween, .whereNotBetween, .whereColumn,
    .whereRaw, .whereRawSearch, .whereSearch, .whereExists, .whereNotExists, .whereLike,
    .orWhereLike, .whereContains, .whereStartsWith, .whereEndsWith, .whereIlike,
    .whereContainsCi, .whereStartsWithCi, .whereEndsWithCi, .whereJsonContains, .whereFullText,
    .range, .period, .when_, .unless_, .union_, .unionAll, .orderBy, .orderByMany, .limit,
    .offset, .paginate, .innerJoin, .leftJoin, .rightJoin, .innerJoinOn, .leftJoinOn,
    .rightJoinOn, .groupBy, .groupByOne, .having_, .havingRaw, .havingIf, .count, .sum, .avg,
    .min, .max, .insert, .update, .delete, .increment, .decrement, .updateOrInsert]

/-- The call of a name. -/
def ofName? (s : String) : Option Method := all.find? fun m => m.name == s

end Method

end FluentSql
