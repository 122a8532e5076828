import FluentSql.Session.Execution
import FluentSql.Statement.Select

set_option autoImplicit false

/-!
# Simulations

While a simulation runs, builders read and write its tables instead of a database. It starts with
tables given as rows, or as builders whose rows the default executor supplies. A simulation whose
configuration has a controller leaves everything to the controller.

## Main definitions

* `FluentSql.Act.start`, `FluentSql.Act.stop` — running a simulation.
* `FluentSql.Act.publish` — replacing a table of a running simulation.
* `FluentSql.Act.follow` — changes of rows where they stand, seen by everyone who shares them.
-/

namespace FluentSql.Act

/-- Changes a simulation. -/
def changeSimulation (id : Option Nat) (change : Simulation → Simulation) : Act Unit :=
  modify fun s => { s with simulations := s.simulations.modify (id.getD 0) change }

/-- Changes the controller. -/
def changeController (change : Controller → Controller) : Act Unit :=
  modify fun s => { s with controller := s.controller.map change }

/-- Puts a table into a simulation or its controller. -/
def putTable (id : Option Nat) (name : String) (t : Table) : Act Unit := do
  if ((← get).controllerOf id).isSome then
    changeController fun c => { c with state := c.state.put name t }
  else
    changeSimulation id fun m => { m with state := m.state.put name t }

/-- Replaces a table of a simulation, unless it is not running. -/
def publish (id : Option Nat) (name : String) (t : Table) : Act Unit := do
  if (← get).simulating id then putTable id name t

/-- Lets everyone who shares rows see how they were changed. -/
def follow (changed : List Held) : Act Unit :=
  modify fun s => { s with
    simulations := s.simulations.map fun m => { m with state := m.state.follow changed }
    controller := s.controller.map fun c => { c with state := c.state.follow changed }
    builders := s.builders.map fun b => { b with replay := b.replay.follow changed } }

/-- The SELECT of a builder. A fragment only has its text, which is one if it is a pair of
characters: the statement and the value to bind. Nothing else has a statement at all. -/
def builderSelect (v : Value) : Act Statement := do
  match v with
  | .builder id _ => of (← currentQuery id).select
  | .raw sql =>
    match sql.toList with
    | [statement, value] =>
      return { sql := .singleton statement, bindings := [.text (.singleton value)] }
    | _ => fail .wrongValue
  | v => fail (v.lacking "to_sql")

/-- The rows with which a table starts: a copy of a list, or else what the default executor supplies
for a builder's query. Without a default executor there are none. -/
def seedRows (id : Option Nat) (source : Value) : Act Value := do
  match source.bare with
  | .list rows => copy (.list rows)
  | _ =>
    let s ← get
    match (s.config (s.simulation id).config).executor with
    | none => return .list []
    | some executor =>
      let result ← execute executor .query (← builderSelect source)
      return .list (← of (rowsOfReport result))

/-- Loads tables one after the other. -/
def loadTables (id : Option Nat) : List (String × Value) → Act Unit
  | [] => pure ()
  | (name, source) :: rest => do
    let t ← freshTable (← seedRows id source)
    changeSimulation id fun m => { m with state := m.state.put name t }
    loadTables id rest

/-- The tables that a controller is handed, as they are. -/
def handedTables : List (String × Value) → Act Snapshot
  | [] => return []
  | (name, source) :: rest => do
    let t ← freshTable source
    return (name, t) :: (← handedTables rest)

/-- Starts a simulation with the given tables. -/
def start (id : Option Nat) (given : List (String × Value)) : Act Unit := do
  let state := lastByName given
  if ((← get).controllerOf id).isSome then
    let tables ← handedTables state
    changeController fun _ => { active := .bool true, state := tables }
  else
    changeSimulation id fun m => { m with active := true, state := [] }
    loadTables id state

/-- Stops a simulation and drops its tables; a controller is told to stop and keeps its own. -/
def stop (id : Option Nat) : Act Unit := do
  if ((← get).controllerOf id).isSome then
    changeController fun c => { c with active := .bool false }
  changeSimulation id fun m => { m with active := false, state := [] }

end FluentSql.Act
