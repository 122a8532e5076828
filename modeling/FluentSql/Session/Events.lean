import FluentSql.Session.Act
import FluentSql.Trigger

set_option autoImplicit false

/-!
# Announcing events

An event reaches the listeners that were subscribed when it was announced, once for each
subscription and in the order of subscription, and then the bus of the manager's configuration.
What is announced is written down as it is shown when it is heard; what cannot be shown makes the
listener or the bus fail. A listener or a bus that fails is written down and stops nothing.

## Main definitions

* `FluentSql.Session.tell` — one listener hears an event.
* `FluentSql.Session.announce` — all listeners hear it, then the bus.
* `FluentSql.Act.trigger` — a builder announces a statement.
-/

namespace FluentSql

namespace Session

/-- Writes down that an event was heard. -/
def heard (s : Session) (h : Heard) : Session :=
  { s with trace := { s.trace with events := s.trace.events ++ [h] } }

/-- Writes down a warning. -/
def warned (s : Session) (w : Warning) : Session :=
  { s with trace := { s.trace with warnings := s.trace.warnings ++ [w] } }

/-- The listener of a name; one that was never described does nothing. -/
def listener (s : Session) (name : String) : Listener :=
  ((s.listeners.find? (·.1 == name)).map (·.2)).getD { fails := false, reaction := [] }

/-- Whether an outcome is a failure. -/
def failed {α : Type} (outcome : Except Error α) : Bool :=
  match outcome with
  | .ok _ => false
  | .error _ => true

/-- One listener hears an event and reacts. -/
def tell (reactor : Reactor) (event : String) (arguments : List Value) (s : Session)
    (name : String) : Session :=
  let l := s.listener name
  let sight := s.sight arguments
  let s := s.heard (.listener name arguments sight)
  let (outcome, s') := match sight with
    | .ok _ => reactor.react l.reaction s
    | .error e => (.error e, s)
  if failed outcome || l.fails then s'.warned (.listener event) else s'

/-- The bus of a configuration hears an event. -/
def forward (event : String) (arguments : List Value) (config : Option Nat) (s : Session) :
    Session :=
  match (s.config config).bus.bind s.buses.get? with
  | none => s
  | some bus =>
    let sight := s.sight arguments
    let s' := s.heard (.bus bus.name event arguments sight)
    if failed sight || bus.fails then s'.warned (.bus event) else s'

/-- The event manager of a number, the shared one if there is no number. -/
def manager (s : Session) (id : Option Nat) : EventManager :=
  (s.managers.get? (id.getD 0)).getD {}

/-- Every listener hears an event, and then the bus. -/
def announce (reactor : Reactor) (manager : Option Nat) (event : String)
    (arguments : List Value) (s : Session) : Session :=
  let m := s.manager manager
  ((m.listeners event).foldl (tell reactor event arguments) s).forward event arguments m.config

end Session

namespace Act

/-- Announces an event. -/
def announce (manager : Option Nat) (event : String) (arguments : List Value) : Act Unit := do
  let reactor ← read
  modify fun s => s.announce reactor manager event arguments

/-- Announces a statement to the event manager of a builder. -/
def trigger (manager : Option Nat) (t : Trigger) (extra : Fields) : Act Unit := do
  announce manager t.topic [← of (t.payload extra)]

end Act

end FluentSql
