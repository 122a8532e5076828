import FluentSql.Session.Act

set_option autoImplicit false

/-!
# Running statements

Hands a statement to an executor and gives its answer. A plain executor takes the next reply of
its queue; an engine takes the next report of its driver, within a transaction that is committed
or, if anything in it failed, rolled back. What is prepared is looked at again when it is handed
out. The values to bind are written down as they are shown when the statement runs; it fails if they
cannot be shown.

## Main definitions

* `FluentSql.Act.execute` — runs a statement by a method of an executor.
* `FluentSql.Act.executorOf`, `FluentSql.Act.executorOffering` — the executor that serves a
  builder.
-/

namespace FluentSql.Act

/-- Replaces what an executor answers with. -/
def setSource (id : Nat) (source : ExecutorSource Value) : Act Unit :=
  modify fun s =>
    { s with executors := s.executors.modify id fun e => { e with source } }

/-- Takes the next report of an engine and gives what it comes to. -/
def nextOutcome (id : Nat) (engine : Engine) (reports : List (DriverReport Value)) :
    Act (Except Error (List Value × WriteResult)) := do
  let (report, reports) := Engine.nextReport reports
  setSource id (.engine engine reports)
  return Engine.outcome (← report.evaluate current)

/-- Runs a statement by a method of an executor. -/
def execute (id : Nat) (method : ExecutorMethod) (statement : Statement) : Act Value := do
  let some e := (← get).executors.get? id | fail .missingKey
  let sight := (← get).sight statement.bindings
  match e.source with
  | .plain optional rows reads writes =>
    happened (.ran e.name method statement sight)
    let _ ← of sight
    let reply ← if statement.reads then do
        let (reply, reads) := nextReply (.queryResult (← copy rows) .null .null) reads
        setSource id (.plain optional rows reads writes)
        pure reply
      else do
        let standard := Value.map [("affectedRows", .int 1), ("insertId", .int 0)]
        let (reply, writes) := nextReply standard writes
        setSource id (.plain optional rows reads writes)
        pure reply
    match reply with
    | .answer v => current v
    | .failure text => fail (.raised text)
  | .engine engine reports =>
    let style := PlaceholderStyle.ofName engine.style
    happened (.drove e.name { statement with sql := style.translate statement.sql } sight)
    let outcome ← match sight with
      | .ok _ => nextOutcome id engine reports
      | .error failure => pure (.error failure)
    match outcome with
    | .ok (rows, result) =>
      happened (.committed e.name)
      return Engine.answer method rows result
    | .error failure =>
      happened (.rolledBack e.name)
      fail failure

/-- Runs a statement whose values to bind are given as a value. An engine wants to know their number
before it starts. -/
def executeGiven (id : Nat) (method : ExecutorMethod) (sql : String) (given : Value) :
    Act Value := do
  match (← get).executors.get? id with
  | some { source := .engine .., .. } => let _ ← of given.length
  | _ => pure ()
  execute id method { sql, bindings := ← of given.items }

/-- The executor that serves a builder; none is an error. -/
def executorOf (b : Builder) : Act Nat := do
  match ← of ((← get).executorFor b.options.config b.descriptor.banks) with
  | some id => return id
  | none => fail (.noExecutor b.table (b.descriptor.banks.getD []) none)

/-- Whether the executor of a number has a method. -/
def offers (id : Nat) (method : ExecutorMethod) : Act Bool := do
  match (← get).executors.get? id with
  | some e => return e.offers method
  | none => return false

/-- The executor that serves a builder and has a method; without one there is an error. -/
def executorOffering (b : Builder) (method : ExecutorMethod) : Act Nat := do
  let lacking := Error.noExecutor b.table (b.descriptor.banks.getD []) (some method.name)
  match ← of ((← get).executorFor b.options.config b.descriptor.banks) with
  | some id => if ← offers id method then return id else fail lacking
  | none => fail lacking

end FluentSql.Act
