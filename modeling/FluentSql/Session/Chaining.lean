import FluentSql.Call.Perform
import FluentSql.Session.Act

set_option autoImplicit false

/-!
# Making chainable calls

A chainable call is recorded, if the builder is recording and no recorded call is under way on it,
and carried out. The query that a call is handed is copied for it.

## Main definitions

* `FluentSql.Act.chain` — records and carries out a chainable call.
-/

namespace FluentSql.Act

/-- Records a chainable call, unless a recorded call is under way on the builder. -/
def record (id : Nat) (m : Method) (args : Arguments) : Act Unit := do
  let b ← builder id
  if b.depth == 0 then note id m.name (args.details m.parameters)

/-- Does something on a builder one level deeper, and comes back up also when it fails. -/
def deeper (id : Nat) (body : Act Unit) : Act Unit := do
  changeBuilder id fun b => { b with depth := b.depth + 1 }
  tryFinally body (changeBuilder id fun b => { b with depth := b.depth - 1 })

/-- Hands a builder to the callback among the arguments, with a condition. -/
def callBack (id : Nat) (condition : Value) (args : Arguments) : Act Unit := do
  invoke id condition (← of (args.value "callback"))

/-- Carries out a chainable call. -/
def perform (id : Nat) (m : Method) (args : Arguments) : Act Unit := do
  match m with
  | .when_ =>
    let condition ← of (args.value "condition")
    if condition.truthy then callBack id condition args
  | .unless_ =>
    let condition ← of (args.value "condition")
    if !condition.truthy then callBack id condition args
  | m => do
    let query ← ((args.get? "query").bind Value.queried?).mapM copyQuery
    editBuilder id query fun ctx => m.perform ctx args

/-- Records and carries out a chainable call. -/
def chain (id : Nat) (m : Method) (args : Arguments) : Act Unit := do
  let (meant, given) ← of (m.expand args)
  if !m.accepts args then fail .wrongType
  record id meant given
  deeper id (perform id meant given)

end FluentSql.Act
