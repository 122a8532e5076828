import FluentSql.Session.Tracking

set_option autoImplicit false

/-!
# Making calls

Makes calls on the builders of a session. Arguments are evaluated first; a builder made on the
spot joins the session for that, and a callback becomes a function, which is carried out on the
builders that it receives.

Within a callback, and among the first calls of a builder, nobody awaits: a request that has to be
awaited does nothing there.

## Main definitions

* `FluentSql.Answer` — what a call answers.
* `FluentSql.Act.request` — carries out a request.
* `FluentSql.Argument.eval`, `FluentSql.Call.perform`, `FluentSql.BuilderSpec.make` — arguments,
  calls and builders as they are written.
* `FluentSql.Call.answer` — a call whose answer is awaited.
-/

namespace FluentSql

/-- What a call answers. -/
inductive Answer where
  | value (v : Value)
  /-- The very builder or model that the call was made on. -/
  | itself
  | statement (s : Statement)
  | log (entries : List LogEntry)
  deriving Inhabited

namespace Act

/-! ## Requests -/

/-- Carries out a request. -/
def request (id : Nat) (asked : Request) (args : Arguments) : Act Answer := do
  match asked with
  | .toSql => return .statement (← of (← currentQuery id).select)
  | .hasPendingWrite => return .value (.bool (← builder id).descriptor.hasPendingWrite)
  | .describe => return .value (.text (← builder id).describe)
  | .clone => return .value (.builder (← copyBuilder id) (← builder id).table)
  | .all => return .value (.list (← all id))
  | .get | .first => return .value (← firstRow id)
  | .find => return .value (← find id (← of (args.value "id")))
  | .exist => return .value (.bool (← exist id))
  | .pluck => return .value (.list (← pluck id (← of (args.value "column"))))
  | .make => return .value (← make id).toValue
  | .allBlocking => return .value (.list (← allBlocking id))
  | .getBlocking | .firstBlocking => return .value (← firstBlocking id)
  | .pluckBlocking => return .value (.list (← pluckBlocking id (← of (args.value "column"))))
  | .scalarBlocking => return .value (← scalarBlocking id (args.valueOr "alias" .null))
  | .runBlocking => return .value (← runBlocking id)
  | .initial =>
    initial id (args.valueOr "rows" .null)
    return .itself
  | .tracking => return .log (← tracking id)

/-- Carries out a request if it is answered at once. -/
def requestNow (id : Nat) (asked : Request) (args : Arguments) : Act Unit := do
  if !asked.awaited then
    let _ ← request id asked args

/-! ## Making builders -/

/-- Where a builder belongs, by the names given for it. -/
def optionsOf (config events simulation dialect : Option String) : Act Options := do
  return {
    config := ← configId config
    events := ← managerId events
    simulation := ← simulationId simulation
    dialect }

end Act

/-! ## Calls as they are written -/

open Act

mutual

/-- Evaluates an argument; `condition` is what the enclosing callback was given. -/
def Argument.eval (condition : Value) : Argument → Act Value
  | .value v => return v
  | .list items => return .list (← evalItems condition items)
  | .tuple items => return .tuple (← evalItems condition items)
  | .map entries => do
    let args ← evalEntries condition entries
    return .map (Fields.ofPairs (args.map fun (name, v) => (.text name, v)))
  | .object attributes => do
    let args ← evalEntries condition attributes
    return .object (Fields.ofPairs (args.map fun (name, v) => (.text name, v)))
  | .writeResult changes lastId => do
    let changes ← changes.eval condition
    return .writeResult changes (← lastId.eval condition)
  | .queryResult data affected lastId => do
    let data ← data.eval condition
    let affected ← affected.eval condition
    return .queryResult data affected (← lastId.eval condition)
  | .condition => current condition
  | .fresh spec => do
    let id ← spec.make condition
    link
    return .builder id (← builder id).table
  | .builder name => do
    let id ← builderId name
    link
    return .builder id (← builder id).table
  | .descriptor name => do
    let id ← builderId name
    link
    current (.view (.query id) .null)
  | .callback calls => define calls

/-- Evaluates arguments in order. -/
def evalItems (condition : Value) : List Argument → Act (List Value)
  | [] => return []
  | a :: rest => do
    let v ← a.eval condition
    return v :: (← evalItems condition rest)

/-- Evaluates named arguments in order. -/
def evalEntries (condition : Value) : List (String × Argument) → Act Arguments
  | [] => return []
  | (name, a) :: rest => do
    let v ← a.eval condition
    return (name, v) :: (← evalEntries condition rest)

/-- Makes a builder, carries out its first calls, and gives its number. -/
def BuilderSpec.make (condition : Value) : BuilderSpec → Act Nat
  | ⟨table, dialect, config, events, simulation, calls⟩ => do
    let id ← addBuilder (.new table (← optionsOf config events simulation dialect))
    performAll id condition calls
    return id

/-- Makes a call on a builder, whose answer nobody awaits. -/
def Call.perform (id : Nat) (condition : Value) : Call → Act Unit
  | ⟨asked, arguments⟩ => do
    let args ← evalEntries condition arguments
    match asked with
    | .chained m => chain id m args
    | .request r => requestNow id r args

/-- Makes calls in order, up to the first failure. -/
def performAll (id : Nat) (condition : Value) : List Call → Act Unit
  | [] => return
  | call :: calls => do
    call.perform id condition
    performAll id condition calls

end

/-- Makes a call on a builder and awaits the answer. -/
def Call.answer (id : Nat) (call : Call) : Act Answer := do
  match call.asked with
  | .chained _ =>
    call.perform id .null
    return .itself
  | .request r => do
    let args ← evalEntries .null call.arguments
    awaitedIf r.awaited (request id r args)

end FluentSql
