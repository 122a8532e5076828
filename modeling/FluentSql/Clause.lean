set_option autoImplicit false

/-!
# Keywords of clauses

The closed vocabularies of the clauses of a query: connectives, comparison operators, kinds of
join, sort directions, aggregate functions and set operators. Each word has one spelling, and
reading a spelling gives the word back.

## Main definitions

* `FluentSql.Connective`, `FluentSql.Operator`, `FluentSql.JoinKind`, `FluentSql.Direction`,
  `FluentSql.AggregateFunction`, `FluentSql.SetOperator` — the vocabularies, each with its
  `keyword`, its list `all` of words, and `ofKeyword?`.
-/

namespace FluentSql

/-- The word of a vocabulary that a spelling belongs to. -/
def wordOf? {α : Type} (words : List α) (keyword : α → String) (s : String) : Option α :=
  words.find? fun w => keyword w == s

/-! ## Connectives -/

/-- How a predicate is joined to the one before it. -/
inductive Connective where
  | and | or
  deriving DecidableEq, Repr, Inhabited

namespace Connective

/-- The spelling of a connective. -/
def keyword : Connective → String
  | .and => "AND"
  | .or => "OR"

/-- The connectives. -/
def all : List Connective := [.and, .or]

/-- The connective of a spelling. -/
def ofKeyword? : String → Option Connective := wordOf? all keyword

end Connective

/-! ## Comparison operators -/

/-- The comparison operators that a predicate may be built with. -/
inductive Operator where
  | eq | ne | differs | gt | ge | lt | le
  | like | notLike | isIn | notIn | between | notBetween | isNull | isNotNull
  deriving DecidableEq, Repr, Inhabited

namespace Operator

/-- The spelling of an operator. -/
def keyword : Operator → String
  | .eq => "="
  | .ne => "!="
  | .differs => "<>"
  | .gt => ">"
  | .ge => ">="
  | .lt => "<"
  | .le => "<="
  | .like => "LIKE"
  | .notLike => "NOT LIKE"
  | .isIn => "IN"
  | .notIn => "NOT IN"
  | .between => "BETWEEN"
  | .notBetween => "NOT BETWEEN"
  | .isNull => "IS NULL"
  | .isNotNull => "IS NOT NULL"

/-- The operators. -/
def all : List Operator :=
  [.eq, .ne, .differs, .gt, .ge, .lt, .le, .like, .notLike, .isIn, .notIn, .between, .notBetween,
    .isNull, .isNotNull]

/-- The operator of a spelling. -/
def ofKeyword? : String → Option Operator := wordOf? all keyword

end Operator

/-! ## Joins -/

/-- The kinds of join. -/
inductive JoinKind where
  | inner | left | right
  deriving DecidableEq, Repr, Inhabited

namespace JoinKind

/-- The spelling of a kind of join. -/
def keyword : JoinKind → String
  | .inner => "INNER"
  | .left => "LEFT"
  | .right => "RIGHT"

/-- The kinds of join. -/
def all : List JoinKind := [.inner, .left, .right]

/-- The kind of join of a spelling. -/
def ofKeyword? : String → Option JoinKind := wordOf? all keyword

end JoinKind

/-! ## Sort directions -/

/-- The directions of a sort key. -/
inductive Direction where
  | asc | desc
  deriving DecidableEq, Repr, Inhabited

namespace Direction

/-- The spelling of a direction. -/
def keyword : Direction → String
  | .asc => "ASC"
  | .desc => "DESC"

/-- The directions. -/
def all : List Direction := [.asc, .desc]

/-- The direction of a spelling. -/
def ofKeyword? : String → Option Direction := wordOf? all keyword

end Direction

/-! ## Aggregate functions -/

/-- The aggregate functions. -/
inductive AggregateFunction where
  | count | sum | avg | min | max
  deriving DecidableEq, Repr, Inhabited

namespace AggregateFunction

/-- The name of an aggregate function. -/
def keyword : AggregateFunction → String
  | .count => "count"
  | .sum => "sum"
  | .avg => "avg"
  | .min => "min"
  | .max => "max"

/-- The name of an aggregate function in SQL. -/
def sql : AggregateFunction → String
  | .count => "COUNT"
  | .sum => "SUM"
  | .avg => "AVG"
  | .min => "MIN"
  | .max => "MAX"

/-- The aggregate functions. -/
def all : List AggregateFunction := [.count, .sum, .avg, .min, .max]

/-- The aggregate function of a name. -/
def ofKeyword? : String → Option AggregateFunction := wordOf? all keyword

end AggregateFunction

/-! ## Set operators -/

/-- The operators that combine queries. -/
inductive SetOperator where
  | union | unionAll
  deriving DecidableEq, Repr, Inhabited

namespace SetOperator

/-- The spelling of a set operator. -/
def keyword : SetOperator → String
  | .union => "UNION"
  | .unionAll => "UNION ALL"

/-- The set operators. -/
def all : List SetOperator := [.union, .unionAll]

/-- The set operator of a spelling. -/
def ofKeyword? : String → Option SetOperator := wordOf? all keyword

end SetOperator

end FluentSql
