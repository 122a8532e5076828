import FluentSql.Session.Seeding
import FluentSql.Session.Setup

set_option autoImplicit false

/-!
# Running scripts

Carries out the steps of a script one after the other. A step has an answer or fails, and either
way the next one follows. The reaction of a listener is a script within a script; it stops at its
first failure. Listeners and functions that set each other off are cut off at a depth. While a step
is being awaited, no listener that it sets off can await anything.

## Main definitions

* `FluentSql.StepAnswer` — what a step answers.
* `FluentSql.Step.run` — carries out one step.
* `FluentSql.Session.reactor` — carries out reactions of listeners and functions, to a depth.
* `FluentSql.Session.step` — one step of a script: its outcome and what happened meanwhile.
-/

namespace FluentSql

/-- What a step answers. -/
inductive StepAnswer where
  | call (answer : Answer)
  | state (d : Descriptor)
  | executor (dialect : Option String) (threaded : Bool) (text : String)
  | controller (active : Value) (state : Snapshot)
  deriving Inhabited

/-- A step that answers a value. -/
instance : Coe Value StepAnswer := ⟨fun v => .call (.value v)⟩

namespace Act

/-- Lets a name stand for a builder, if a name is given. -/
def keepBuilder (name : Option String) (id : Nat) : Act Unit :=
  match name with
  | none => pure ()
  | some name => modify fun s => { s with builders := s.builders.name name id }

/-! ## Calls -/

/-- The builder that an answer is, if it is one; `id` is the one that was called, if one was. -/
def builderOf (id : Option Nat) : Answer → Option Nat
  | .itself => id
  | .value (.builder other _) => some other
  | _ => none

/-- Lets a name stand for the builder that an answer is. -/
def keepAnswer (name : Option String) (id : Option Nat) (answer : Answer) : Act Unit := do
  match builderOf id answer with
  | some found => keepBuilder name found
  | none => pure ()

/-- Makes a call on a builder, and lets a name stand for the builder that it answers. -/
def callBuilder (id : Nat) (call : Call) (keep : Option String) : Act Answer := do
  let answer ← call.answer id
  keepAnswer keep (some id) answer
  return answer

/-- Makes a call on a model, and lets a name stand for the builder that it answers. -/
def callModel (id : Nat) (asked : ModelRequest) (args : Arguments) (keep : Option String) :
    Act Answer := do
  let answer ← awaitedIf asked.awaited (modelRequest id asked args)
  keepAnswer keep none answer
  return answer

/-- Makes a call on an executor, which fails without the method. -/
def callExecutor (id : Nat) (method : ExecutorMethod) (sql : String) (bindings : Value) :
    Act Value := do
  match (← get).executors.get? id with
  | some e =>
    if e.offers method then awaitedIf (e.awaits method) (executeGiven id method sql bindings)
    else fail .missingAttribute
  | none => fail .missingKey

/-- What is known about the executor of an engine. -/
def executorAnswer (id : Nat) : Act StepAnswer := do
  match (← get).executors.get? id with
  | some { dialect, source := .engine engine _, .. } =>
    return .executor dialect engine.threaded (Executor.describe engine)
  | _ => fail .missingAttribute

/-- Does something that has no answer. -/
def quietly (a : Act Unit) : Act StepAnswer := do
  a
  return Value.null

end Act

/-! ## Steps -/

open Act in
/-- Carries out one step. -/
def Step.run : Step → Act StepAnswer
  | .new name spec => quietly do keepBuilder (some name) (← spec.make .null)
  | .call on asked keep => return .call (← callBuilder (← builderId on) asked keep)
  | .state on => return .state (← builder (← builderId on)).descriptor
  | .dialectOf on => do
    let dialect ← of ((← get).dialectOf (← builder (← builderId on)))
    return Value.text dialect.name
  | .log on => return .call (.log (← builder (← builderId on)).log)
  | .setPending on kind data => quietly do
    Act.setPending (← builderId on) { kind, data := ← data.eval .null }
  | .pushUnknown on toHaving kind => quietly do Act.pushUnknown (← builderId on) toHaving kind
  | .executor standard e => quietly do
    addExecutor standard (← e.evaluate (Argument.eval .null))
  | .executorInfo name => do executorAnswer (← executorId name)
  | .executorCall name method sql bindings => do
    let id ← executorId name
    let given ← bindings.eval .null
    return ← callExecutor id method sql given
  | .databases adapters config => quietly do setDatabases adapters (← configId config)
  | .newConfig name executorName busName => quietly (addConfig name executorName busName)
  | .resetConfig config => quietly do changeConfig (← configId config) fun _ => {}
  | .bus name fails => quietly (setBus name fails)
  | .controller active given => quietly do
    setController (← active.eval .null) (← evalEntries .null given)
  | .noController => quietly removeController
  | .controllerState => do
    match (← get).controller with
    | some c => return .controller c.active c.state
    | none => fail .missingAttribute
  | .newEvents name config => quietly do addManager name (← configId config)
  | .listen event listener events fails reaction token => quietly do
    describeListener listener { fails, reaction }
    subscribe (← managerId events) { event, listener } token
  | .off event listener events fails reaction => quietly do
    describeListener listener { fails, reaction }
    changeManager (← managerId events) fun m => m.off { event, listener }
  | .unsubscribe token => quietly (Act.unsubscribe token)
  | .emit event arguments events => quietly do
    announce (← managerId events) event (← evalItems .null arguments)
  | .clearEvents events => quietly do changeManager (← managerId events) EventManager.clear
  | .newSimulation name config => quietly do addSimulation name (← configId config)
  | .start given simulation => quietly do
    let id ← simulationId simulation
    let given ← evalEntries .null given
    awaited (Act.start id given)
  | .stop simulation => quietly do Act.stop (← simulationId simulation)
  | .isActive simulation => do
    return Value.bool ((← get).simulating (← simulationId simulation))
  | .getTable table simulation => do
    return ((← get).snapshot (← simulationId simulation)).value table
  | .setTable table rows simulation => quietly do
    let rows ← rows.eval .null
    publish (← simulationId simulation) table (← freshTable rows)
  | .parallel names => do
    let ids ← names.mapM builderId
    return Value.list (← awaited (Act.parallel ids))
  | .registerDialect name dialect decorator => do
    modify fun s => { s with dialects := s.dialects.register name dialect }
    return (if decorator then .bool true else .null : Value)
  | .modelClass kind => quietly (addClass kind)
  | .newModel name className attributes => quietly do
    addModel name (← classNamed className) (← evalEntries .null attributes)
  | .queryModel name className dialect => quietly do
    keepBuilder (some name) (← Act.classQuery (← classNamed className) dialect)
  | .getModel on field => do
    return ← of ((← Act.getModel (← modelId on)).property field)
  | .model on asked arguments keep => do
    let id ← modelId on
    return .call (← callModel id asked (← evalEntries .null arguments) keep)
  | .seed table source uniqueBy options config simulation => do
    let source ← source.evaluate (Argument.eval .null)
    let uniqueBy ← uniqueBy.eval .null
    let config ← configId config
    let simulation ← simulationId simulation
    let count ← awaited (Act.seed table source uniqueBy options config simulation)
    return Value.int count

/-- Carries out steps up to the first failure, without their answers. -/
def runSteps : List Step → Act Unit
  | [] => pure ()
  | step :: steps => do
    let _ ← step.run
    runSteps steps

namespace Session

/-- Carries out the reactions of listeners and the calls of functions, which may set off others,
down to a depth. -/
def reactor : Nat → Reactor
  | 0 => { react := fun _ s => (.error .tooDeep, s), invoke := fun _ _ _ s => (.error .tooDeep, s) }
  | depth + 1 => {
      react := fun steps s => (runSteps steps).run (reactor depth) s
      invoke := fun id condition calls s => (performAll id condition calls).run (reactor depth) s }

/-- The depth at which listeners and functions that set each other off are cut off. -/
def reactionDepth : Nat := 1000

/-- Carries out one step of a script: its outcome, what happened meanwhile, and the session
afterwards. -/
def step (s : Session) (step : Step) : Except Error StepAnswer × Trace × Session :=
  let (outcome, s') := step.run.run (reactor reactionDepth) { s with trace := {} }
  (outcome, s'.trace, s')

/-- A session in which nothing has been set up. -/
def start (clock : Moment) : Session := { clock }

/-- Evaluates an argument by itself: its value, and the session afterwards. -/
def evaluate (s : Session) (a : Argument) : Except Error Value × Session :=
  (a.eval .null).run (reactor reactionDepth) s

end Session

end FluentSql
