import FluentSql.Value

set_option autoImplicit false

/-!
# Statements

A statement is SQL text with a `?` for every bound value, and the bound values from left to right.
A write keeps beside that the text and the values of its predicate alone, which events report.

## Main definitions

* `FluentSql.Statement` — text and bound values.
* `FluentSql.WriteStatement` — an INSERT, UPDATE or DELETE.
* `FluentSql.WriteStatement.predicate` — the predicate as events report it.
-/

namespace FluentSql

/-- SQL text and its bound values, one per placeholder, left to right. -/
structure Statement where
  sql : String
  bindings : List Value
  deriving Inhabited

namespace Statement

/-- The number of `?` characters in the text. -/
def placeholders (s : Statement) : Nat := s.sql.toList.count '?'

/-- The statement as a value. -/
def toValue (s : Statement) : Value := .statement s.sql s.bindings

end Statement

/-- An INSERT, UPDATE or DELETE, and the text and bound values of its predicate alone, which is
empty where there is none. -/
structure WriteStatement extends Statement where
  whereSql : String := ""
  whereBindings : List Value := []
  deriving Inhabited

namespace WriteStatement

/-- The predicate of a write as events report it: null, or its text and bound values. -/
def predicate (w : WriteStatement) : Value :=
  if w.whereSql == "" then .null
  else .map [("sql", .text w.whereSql), ("bindings", .list w.whereBindings)]

end WriteStatement

end FluentSql
