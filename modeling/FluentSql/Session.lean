import FluentSql.Call.Perform
import FluentSql.Directory
import FluentSql.Script
import FluentSql.Snapshot

set_option autoImplicit false

/-!
# Sessions

A session is everything that builders share: executors, configurations, event managers, listeners,
simulations, registered dialects, models, functions, and the builders themselves. What happens in it
is written down: statements that executors ran, events that listeners and buses heard, and warnings.

The first configuration, event manager and simulation are the shared ones, which are meant
wherever no other is named.

## Main definitions

* `FluentSql.Config`, `FluentSql.EventManager`, `FluentSql.Simulation`, `FluentSql.Controller` —
  the parts.
* `FluentSql.Happening` — what is written down.
* `FluentSql.Session` — the whole; `context` is what a call on a builder sees of it.
-/

namespace FluentSql

/-! ## Parts -/

/-- Which executors, bus and simulation controller serve the builders of a configuration. -/
structure Config where
  executor : Option Nat := none
  bus : Option Nat := none
  controlled : Bool := false
  databases : Option (List (String × Nat)) := none
  deriving Inhabited

/-- The executor that serves a builder: the one registered for its first bank if there is a
registry and a bank, else the default one. -/
def Config.executorFor (c : Config) (banks : Option (List Value)) :
    Except Error (Option Nat) :=
  match banks, c.databases with
  | some (bank :: _), some adapters =>
    let unknown := Error.unknownDatabase bank ((adapters.map (·.1)).mergeSort (· ≤ ·))
    match bank with
    | .text name =>
      match adapters.find? (·.1 == name) with
      | some (_, executor) => .ok (some executor)
      | none => .error unknown
    | v => .error (if v.hashable then unknown else .wrongType)
  | _, _ => .ok c.executor

/-- A bus that hears every event, and may fail after hearing it. -/
structure Bus where
  name : String
  fails : Bool
  deriving DecidableEq, Repr, Inhabited

/-- A listener waiting for an event. -/
structure Subscription where
  event : String
  listener : String
  deriving DecidableEq, Repr, Inhabited

/-- The subscriptions of an event manager, in the order in which they were made. -/
structure EventManager where
  config : Option Nat := none
  subscriptions : List Subscription := []
  deriving Inhabited

namespace EventManager

/-- Subscribes a listener. -/
def on (m : EventManager) (s : Subscription) : EventManager :=
  { m with subscriptions := m.subscriptions ++ [s] }

/-- Cancels every subscription of a listener to an event. -/
def off (m : EventManager) (s : Subscription) : EventManager :=
  { m with subscriptions := m.subscriptions.filter (· != s) }

/-- The listeners to an event, once for each of their subscriptions. -/
def listeners (m : EventManager) (event : String) : List String :=
  (m.subscriptions.filter (·.event == event)).map (·.listener)

/-- Cancels every subscription. -/
def clear (m : EventManager) : EventManager := { m with subscriptions := [] }

end EventManager

/-- What a listener does when it hears an event: run its reaction, then fail if it is to fail. -/
structure Listener where
  fails : Bool
  reaction : List Step
  deriving Inhabited

/-- A simulation of its own: whether it is running, and its tables. -/
structure Simulation where
  config : Option Nat := none
  active : Bool := false
  state : Snapshot := []
  deriving Inhabited

/-- A simulation that is controlled from outside. -/
structure Controller where
  active : Value
  state : Snapshot
  deriving Inhabited

/-- A record of a model: its attributes, and banks of its own. -/
structure Model where
  kind : ModelClass
  attributes : Fields
  banks : List Value := []
  deriving Inhabited

/-! ## What happens -/

/-- How values looked when they were handed over; a query that holds itself cannot be shown. -/
abbrev Sight := Except Error (List Value)

/-- What executors, listeners and seeders do. -/
inductive Happening where
  /-- An executor ran a statement. -/
  | ran (executor : String) (method : ExecutorMethod) (statement : Statement) (sight : Sight)
  /-- A driver ran a statement of an executor. -/
  | drove (executor : String) (statement : Statement) (sight : Sight)
  | committed (executor : String)
  | rolledBack (executor : String)
  /-- A seeder asked for a builder for a table. -/
  | sought (table : String)
  deriving Inhabited

/-- An event that a listener or a bus heard. -/
inductive Heard where
  | listener (name : String) (arguments : List Value) (sight : Sight)
  | bus (name event : String) (arguments : List Value) (sight : Sight)
  deriving Inhabited

/-- A line about a listener or a bus that failed. -/
inductive Warning where
  | listener (event : String)
  | bus (event : String)
  deriving DecidableEq, Repr, Inhabited

/-- The text of a warning. -/
def Warning.text : Warning → String
  | .listener event => "Error in event listener for '" ++ event ++ "'"
  | .bus event => "External event bus failed for '" ++ event ++ "': bus down"

/-- What has happened so far. -/
structure Trace where
  calls : List Happening := []
  events : List Heard := []
  warnings : List Warning := []
  deriving Inhabited

/-! ## The session -/

/-- Everything that builders share. -/
structure Session where
  clock : Moment
  dialects : Dialects := .standard
  configs : Directory Config := .single "main" {}
  executors : Directory (Executor Value) := {}
  buses : Directory Bus := {}
  managers : Directory EventManager := .single "main" {}
  listeners : List (String × Listener) := []
  tokens : List (String × (Nat × Subscription)) := []
  simulations : Directory Simulation := .single "main" {}
  controller : Option Controller := none
  builders : Directory Builder := {}
  classes : List (String × ModelClass) := []
  models : Directory Model := {}
  functions : Directory (List Call) := {}
  nextStamp : Nat := 1
  /-- Whether a value that refers to a builder has come up. -/
  linked : Bool := false
  /-- Whether something is being awaited. -/
  awaiting : Bool := false
  trace : Trace := {}
  deriving Inhabited

namespace Session

/-- The configuration of a number, the shared one if there is no number. -/
def config (s : Session) (id : Option Nat) : Config := (s.configs.get? (id.getD 0)).getD {}

/-- The simulation of a number, the shared one if there is no number. -/
def simulation (s : Session) (id : Option Nat) : Simulation :=
  (s.simulations.get? (id.getD 0)).getD {}

/-- The controller that a simulation obeys, if its configuration has one. -/
def controllerOf (s : Session) (id : Option Nat) : Option Controller :=
  if (s.config (s.simulation id).config).controlled then s.controller else none

/-- Whether a simulation is running. -/
def simulating (s : Session) (id : Option Nat) : Bool :=
  match s.controllerOf id with
  | some c => c.active.truthy
  | none => (s.simulation id).active

/-- The tables of a simulation. -/
def snapshot (s : Session) (id : Option Nat) : Snapshot :=
  match s.controllerOf id with
  | some c => c.state
  | none => (s.simulation id).state

/-- The executor that serves a builder. -/
def executorFor (s : Session) (config : Option Nat) (banks : Option (List Value)) :
    Except Error (Option Nat) := (s.config config).executorFor banks

/-- The dialect declared by the executor that serves a builder. -/
def declaredDialect (s : Session) (config : Option Nat) (banks : Option (List Value)) :
    Except Error (Option String) := do
  let id ← s.executorFor config banks
  return (id.bind s.executors.get?).bind (·.dialect)

/-- The dialect of a builder: the one it was told, else that of the executor that serves it. -/
def dialectOf (s : Session) (b : Builder) : Except Error Dialect := do
  let name ← match b.options.dialect with
    | some name => pure (some name)
    | none => s.declaredDialect b.options.config b.descriptor.banks
  return s.dialects.resolve name

/-- What a call on a builder sees of the session, and the query that it was handed. -/
def context (s : Session) (b : Builder) (query : Option Descriptor) : Context where
  clock := s.clock
  dialect := s.dialectOf b
  query

/-- Whether a builder records its calls. -/
def recording (s : Session) (b : Builder) : Bool :=
  b.tracking || s.simulating b.options.simulation

end Session

end FluentSql
