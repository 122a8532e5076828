import FluentSql.Session.Reading
import FluentSql.Statement.Write

set_option autoImplicit false

/-!
# Writing

Executes the queued write of a builder. In a running simulation it is carried out on a copy of the
table, which is published when it succeeds. Otherwise it is compiled and handed to the executor,
each statement announced before and after; an update-or-insert inserts only if the update changed
no row. A write that fails stays queued, and the predicate that an update-or-insert puts in place
of the builder's own is taken back whatever happens.

## Main definitions

* `FluentSql.Descriptor.checkedAction` — the queued write, if it may run.
* `FluentSql.Act.dispatch` — one announced statement.
* `FluentSql.Act.make` — executing the queued write.
-/

namespace FluentSql

/-- The queued write of a query: there has to be one, of a known kind, and with a predicate if it
needs one. -/
def Descriptor.checkedAction (d : Descriptor) : Except Error (WriteKind × Value) :=
  match d.pending with
  | none => .error .noPendingAction
  | some action =>
    match WriteKind.ofKeyword? action.kind with
    | none => .error (.unsupportedAction action.kind)
    | some kind =>
      if kind.needsWhere && d.wheres.isEmpty then .error (.missingWhere action.kind)
      else .ok (kind, action.data)

/-- The inserted rows as events report them: a single row by itself. -/
def insertedData (rows : Value) : Except Error Value := do
  if (← rows.length) = 1 then rows.subscript (.int 0) else return rows

namespace Act

/-! ## Statements -/

/-- Runs a compiled write on an executor, announced before and after. -/
def dispatch (id executor : Nat) (action : TriggerAction) (statement : WriteStatement)
    (data : Value) : Act WriteResult := do
  let b ← builder id
  let told : Fields := [("data", data), ("where", statement.predicate)]
  trigger b.options.events (.of .before action b.table) told
  let method ← if ← offers executor .runBlocking then pure ExecutorMethod.runBlocking
    else pure .query
  let report ← execute executor method statement.toStatement
  let result ← of (WriteResult.ofReport report)
  trigger b.options.events (.of .after action b.table) (told.set "result" result.toValue)
  return result

/-- Inserts rows. -/
def runInsert (id executor : Nat) (rows : Value) : Act WriteResult := do
  let rows ← current rows
  let statement ← of (insertStatement (← builder id).table rows)
  let data ← of (insertedData rows)
  dispatch id executor .insert statement data

/-- Puts other predicates in the place of the builder's own while something is done. -/
def withWheres {α : Type} (id : Nat) (wheres : List Predicate) (body : Act α) : Act α := do
  let backup := (← builder id).descriptor.wheres
  changeBuilder id fun b => b.edit fun d => { d with wheres }
  tryFinally body (changeBuilder id fun b => b.edit fun d => { d with wheres := backup })

/-- The predicates that compare every attribute with its value. -/
def attributePredicates (attributes : Fields) : Except Error (List Predicate) :=
  attributes.mapM fun (column, v) =>
    (Validation.basic [("column", column), ("operator", "="), ("value", v)]).toExcept

/-- Updates the rows that have the attributes, and inserts a row if there were none. With nothing
to set, the attributes are written back. -/
def runUpdateOrInsert (id executor : Nat) (data : Value) : Act WriteResult := do
  let attributes ← of (data.subscript "attributes")
  let values ← of (data.subscript "values")
  let wanted ← of (attributes.fields "items")
  withWheres id (← of (attributePredicates wanted)) do
    let statement ← of ((← currentQuery id).updateStatement (values.orElse attributes))
    let result ← dispatch id executor .update statement values
    if result.changes.truthy then return result
    let row ← of (mergedFields attributes values)
    runInsert id executor (.list [.map row])

/-- Adds an amount to a column, or subtracts it. -/
def runIncrement (id executor : Nat) (decrement : Bool) (data : Value) : Act WriteResult := do
  let column ← of (data.subscript "column")
  let amount ← of (data.getOr "amount" (.int 1))
  let statement ← of ((← currentQuery id).incrementStatement column amount decrement)
  dispatch id executor .update statement (.map (← of data.toFields))

/-- Runs the statements of a write. -/
def runWrite (id executor : Nat) : WriteKind → Value → Act WriteResult
  | .insert, data => runInsert id executor data
  | .update, data => do
    let statement ← of ((← currentQuery id).updateStatement data)
    dispatch id executor .update statement data
  | .delete, _ => do
    let statement ← of (← currentQuery id).deleteStatement
    dispatch id executor .delete statement .null
  | .increment, data => runIncrement id executor false data
  | .decrement, data => runIncrement id executor true data
  | .updateOrInsert, data => runUpdateOrInsert id executor data

/-! ## Making the write -/

/-- Forgets the queued write. -/
def clearPending (id : Nat) : Act Unit :=
  changeBuilder id fun b => b.edit fun d => { d with pending := none }

/-- Executes the queued write on the executor that serves the builder. -/
def makeReal (id : Nat) : Act WriteResult := do
  let b ← builder id
  let executor ← executorOf b
  let (kind, data) ← of b.descriptor.checkedAction
  let result ← runWrite id executor kind (← current data)
  clearPending id
  return result

/-- The column by which rows are told apart. -/
def primaryKey : Value := .text "id"

/-- The query of a builder, its queued values copied as they are when rows take them in. The
attributes that rows are compared with are no copies. -/
def copiedValues (id : Nat) : Act Descriptor := do
  let d ← currentQuery id
  match d.pending with
  | none => return d
  | some action =>
    let data ← match WriteKind.ofKeyword? action.kind, action.data with
      | some .update, data => copy data
      | some .updateOrInsert, .map fields =>
        match Fields.get? fields "values" with
        | some values => pure (.map (Fields.set fields "values" (← copy values)))
        | none => pure action.data
      | _, data => pure data
    return { d with pending := some { action with data } }

/-- What a write leaves of a table, its added rows copied. -/
def copiedRemainder : Remainder → Act Remainder
  | .extended added => return .extended (← copy added)
  | left => return left

/-- An attempt with copies of the rows that it adds. -/
def copiedAttempt (a : Attempt) : Act Attempt := do
  match a.outcome with
  | .error _ => return a
  | .ok written =>
    let remainder ← copiedRemainder written.remainder
    return { a with outcome := .ok { written with remainder } }

/-- Carries out the queued write on a copy of the simulated table and publishes it. -/
def makeSimulated (id : Nat) : Act WriteResult := do
  let b ← builder id
  let _ ← of b.descriptor.checkedAction
  let given ← copy
    ((((← get).snapshot b.options.simulation).value b.table).orElse (.list []))
  let attempt ← copiedAttempt ((← copiedValues id).applyTo primaryKey given)
  let (left, result) ← of (attempt.result given)
  let t ← freshTable left
  publish b.options.simulation b.table t
  changeBuilder id fun b => { b with replay := t }
  clearPending id
  return result

/-- Executes the queued write. -/
def make (id : Nat) : Act WriteResult := do
  let b ← builder id
  if (← get).simulating b.options.simulation then makeSimulated id else makeReal id

/-! ## Several builders -/

/-- Executes the queued write of a builder, or reads its rows if there is none. -/
def makeOrAll (id : Nat) : Act Value := do
  if (← builder id).descriptor.hasPendingWrite then return (← make id).toValue
  else return .list (← all id)

/-- Executes several builders one after the other, all of them even if one fails. -/
def eachBuilder : List Nat → Act (List (Except Error Value))
  | [] => return []
  | id :: ids => do
    let outcome ← tryCatch (Except.ok <$> makeOrAll id) fun e => return .error e
    return outcome :: (← eachBuilder ids)

/-- Executes several builders; the first failure, in the order of the builders, is the failure of
all. -/
def parallel (ids : List Nat) : Act (List Value) := do
  of ((← eachBuilder ids).mapM id)

end Act

end FluentSql
