import FluentSql.Session.Simulating

set_option autoImplicit false

/-!
# Setting up a session

Adds executors, configurations, buses, listeners and the controller of simulations to a session,
and puts things into the descriptor of a builder that no call puts there.

## Main definitions

* `FluentSql.Act.addExecutor`, `FluentSql.Act.addConfig`, `FluentSql.Act.setDatabases` — what
  serves builders.
* `FluentSql.Act.subscribe`, `FluentSql.Act.unsubscribe` — listeners.
* `FluentSql.Act.setController` — the controller.
* `FluentSql.Act.setPending`, `FluentSql.Act.pushUnknown` — a queued write of any kind, and a
  predicate of no known kind.
-/

namespace FluentSql.Act

/-! ## Configurations -/

/-- Changes a configuration. -/
def changeConfig (id : Option Nat) (change : Config → Config) : Act Unit :=
  modify fun s => { s with configs := s.configs.modify (id.getD 0) change }

/-- Adds an executor, perhaps as the default one. -/
def addExecutor (standard : Bool) (e : Executor Value) : Act Unit := do
  let id := (← get).executors.nextId
  modify fun s => { s with executors := s.executors.addNamed e.name e }
  if standard then changeConfig none fun c => { c with executor := some id }

/-- Sets the registry of databases of a configuration, or removes it. -/
def setDatabases (adapters : Option (List String)) (config : Option Nat) : Act Unit := do
  let databases ← adapters.mapM fun names =>
    names.eraseDups.mapM fun name => return (name, ← numberOf Session.executors name)
  changeConfig config fun c => { c with databases }

/-- Adds a bus and gives its number. -/
def addBus (name : String) (fails : Bool) : Act Nat := do
  let id := (← get).buses.nextId
  modify fun s => { s with buses := s.buses.addNamed name { name, fails } }
  return id

/-- Adds a configuration with an executor and a bus of its own. -/
def addConfig (name : String) (executor bus : Option String) : Act Unit := do
  let executor ← executor.mapM (numberOf Session.executors)
  let bus ← bus.mapM fun bus => addBus bus false
  modify fun s => { s with configs := s.configs.addNamed name { executor, bus } }

/-- Sets the bus of the shared configuration, or removes it. -/
def setBus (name : Option String) (fails : Bool) : Act Unit := do
  let bus ← name.mapM fun name => addBus name fails
  changeConfig none fun c => { c with bus }

/-! ## Simulations -/

/-- Adds a simulation of a configuration. -/
def addSimulation (name : String) (config : Option Nat) : Act Unit :=
  modify fun s => { s with simulations := s.simulations.addNamed name { config } }

/-- Sets the controller of the shared configuration. -/
def setController (active : Value) (given : List (String × Value)) : Act Unit := do
  let state ← handedTables (lastByName given)
  modify fun s => { s with controller := some { active, state } }
  changeConfig none fun c => { c with controlled := true }

/-- Removes the controller. -/
def removeController : Act Unit := do
  modify fun s => { s with controller := none }
  changeConfig none fun c => { c with controlled := false }

/-! ## Listeners -/

/-- Changes an event manager. -/
def changeManager (id : Option Nat) (change : EventManager → EventManager) : Act Unit :=
  modify fun s => { s with managers := s.managers.modify (id.getD 0) change }

/-- Adds an event manager of a configuration. -/
def addManager (name : String) (config : Option Nat) : Act Unit :=
  modify fun s => { s with managers := s.managers.addNamed name { config } }

/-- Describes a listener, unless one of that name is known. -/
def describeListener (name : String) (l : Listener) : Act Unit :=
  modify fun s =>
    if s.listeners.any (·.1 == name) then s
    else { s with listeners := s.listeners ++ [(name, l)] }

/-- Subscribes a listener and keeps a token for the subscription. -/
def subscribe (manager : Option Nat) (subscription : Subscription) (token : String) : Act Unit := do
  changeManager manager fun m => m.on subscription
  modify fun s => { s with
    tokens := (token, (manager.getD 0, subscription)) :: s.tokens.filter (·.1 != token) }

/-- Uses the token of a subscription. -/
def unsubscribe (token : String) : Act Unit := do
  match (← get).tokens.find? (·.1 == token) with
  | some (_, (manager, subscription)) => changeManager (some manager) fun m => m.off subscription
  | none => fail .missingKey

/-! ## Descriptors -/

/-- Queues a write of any kind on a builder. -/
def setPending (id : Nat) (action : PendingAction) : Act Unit :=
  changeBuilder id fun b => b.edit fun d => { d with pending := some action }

/-- Adds a predicate of no known kind to a list of a builder. -/
def pushUnknown (id : Nat) (toHaving : Bool) (kind : Option String) : Act Unit :=
  changeBuilder id fun b => b.edit fun d =>
    if toHaving then { d with havings := d.havings ++ [.unknown kind] }
    else { d with wheres := d.wheres ++ [.unknown kind] }

end FluentSql.Act
