set_option autoImplicit false

/-!
# Placeholder styles

Statements mark bound values by `?`; a driver may want another mark. Question marks inside literals
in single quotes are left alone. In the percent styles, literal percent signs are doubled; in every
other style but the plain one, marks are numbered from 1.

## Main definitions

* `FluentSql.PlaceholderStyle` — how a driver marks bound values.
* `FluentSql.PlaceholderStyle.translate` — the text as the driver wants it.
-/

namespace FluentSql

/-- How a driver marks bound values. -/
inductive PlaceholderStyle where
  | question
  | percent
  | numbered
  deriving DecidableEq, Repr, Inhabited

namespace PlaceholderStyle

/-- The style of a driver's name for it; an unknown name means numbered marks. -/
def ofName (name : String) : PlaceholderStyle :=
  if name == "qmark" then .question
  else if name == "format" || name == "pyformat" then .percent
  else .numbered

/-- Replaces marks from left to right; `inLiteral` tells whether the scan is inside a literal, and
`seen` counts the marks so far. -/
def scan (percent inLiteral : Bool) (seen : Nat) : List Char → List Char
  | [] => []
  | c :: rest =>
    if c == '\'' then c :: scan percent (!inLiteral) seen rest
    else if c == '?' && !inLiteral then
      (if percent then ['%', 's'] else ':' :: Nat.toDigits 10 (seen + 1)) ++
        scan percent inLiteral (seen + 1) rest
    else if c == '%' && percent then '%' :: '%' :: scan percent inLiteral seen rest
    else c :: scan percent inLiteral seen rest

/-- The text as the driver wants it. -/
def translate (style : PlaceholderStyle) (sql : String) : String :=
  match style with
  | .question => sql
  | .percent => String.ofList (scan true false 0 sql.toList)
  | .numbered => String.ofList (scan false false 0 sql.toList)

end PlaceholderStyle

end FluentSql
