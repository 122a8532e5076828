import FluentSql.Session.Look

set_option autoImplicit false

/-!
# Acts

An act is a computation in a session that may fail; a failure keeps what was changed before it. This
module holds the acts that the others are made of: finding things by name, changing builders,
looking at values again, copying them, awaiting things, and handing builders to functions.

## Main definitions

* `FluentSql.Act` — a computation in a session that may fail.
* `FluentSql.Act.current` — a value with its views looked at again.
* `FluentSql.Act.copy` — a copy of a value, which no longer sees what becomes of the builders that
  it refers to.
* `FluentSql.Act.awaited` — something that is awaited.
* `FluentSql.Act.define`, `FluentSql.Act.invoke` — functions, and handing a builder to one.
-/

namespace FluentSql

/-- Carries out in a session what was written down to be done later. -/
structure Reactor where
  /-- Runs the reaction of a listener. -/
  react : List Step → Session → Except Error Unit × Session
  /-- Makes the calls of a function on a builder, with a condition. -/
  invoke : Nat → Value → List Call → Session → Except Error Unit × Session

/-- A computation in a session that may fail; a failure keeps what was changed before it. -/
abbrev Act := ReaderT Reactor (ExceptT Error (StateM Session))

namespace Act

variable {α : Type}

/-- Runs a computation: its outcome, and the session afterwards. -/
def run (a : Act α) (reactor : Reactor) (s : Session) : Except Error α × Session :=
  (ExceptT.run (ReaderT.run a reactor)).run s

/-- The outcome of a check or a compilation. -/
def of (e : Except Error α) : Act α := fun _ => ExceptT.mk (pure e)

/-- Fails. -/
def fail (e : Error) : Act α := of (.error e)

/-- The number that a name stands for in a directory. -/
def numberOf (directory : Session → Directory α) (name : String) : Act Nat := do
  match (directory (← get)).id? name with
  | some id => return id
  | none => fail .missingKey

/-- The number of a builder's name. -/
def builderId (name : String) : Act Nat := numberOf Session.builders name

/-- The number of an executor's name. -/
def executorId (name : String) : Act Nat := numberOf Session.executors name

/-- The number of a model's name. -/
def modelId (name : String) : Act Nat := numberOf Session.models name

/-- The number of a configuration's name, if one is given. -/
def configId (name : Option String) : Act (Option Nat) := name.mapM (numberOf Session.configs)

/-- The number of an event manager's name, if one is given. -/
def managerId (name : Option String) : Act (Option Nat) := name.mapM (numberOf Session.managers)

/-- The number of a simulation's name, if one is given. -/
def simulationId (name : Option String) : Act (Option Nat) :=
  name.mapM (numberOf Session.simulations)

/-- The builder of a number. -/
def builder (id : Nat) : Act Builder := do
  match (← get).builders.get? id with
  | some b => return b
  | none => fail .missingKey

/-- Changes the builder of a number. -/
def changeBuilder (id : Nat) (change : Builder → Builder) : Act Unit :=
  modify fun s => { s with builders := s.builders.modify id change }

/-- Adds a builder without a name and gives its number. -/
def addBuilder (b : Builder) : Act Nat := do
  let id := (← get).builders.nextId
  modify fun s => { s with builders := s.builders.add b }
  return id

/-! ## Values that refer to builders -/

/-- Notes that a value that refers to a builder has come up. -/
def link : Act Unit := modify fun s => { s with linked := true }

/-- A value with its views looked at again. -/
def current (v : Value) : Act Value := return (← get).current v

/-- The query of the builder of a number, with its views looked at again. -/
def currentQuery (id : Nat) : Act Descriptor := do
  let s ← get
  return s.currentQuery (← builder id).descriptor

/-- A copy of a value: the builders that it refers to are copied along. -/
def copy (v : Value) : Act Value := do
  if !(← get).linked then return v
  let (σ, s) := (← get).copyBuilders v.references
  set s
  current (v.rename σ)

/-- A copy of the builder of a number, and of those that its query refers to; gives its number. -/
def copyBuilder (id : Nat) : Act Nat := do
  let b ← builder id
  if !(← get).linked then return (← addBuilder b.clone)
  let (σ, s) := (← get).copyBuilders [id]
  set s
  return σ id

/-- A copy of the query of the builder of a number. -/
def copyQuery (id : Nat) : Act Descriptor := do
  let d := (← builder id).descriptor
  if !(← get).linked then return d
  let (σ, s) := (← get).copyBuilders (d.values.flatMap Value.references)
  set s
  return d.mapValues (Value.rename σ)

/-! ## Awaiting -/

/-- Awaits something. Only one thing is awaited at a time: what it sets off cannot await anything in
turn. -/
def awaited (a : Act α) : Act α := do
  if (← get).awaiting then fail .busy
  modify fun s => { s with awaiting := true }
  tryFinally a (modify fun s => { s with awaiting := false })

/-- Does something, and awaits it if it has to be awaited. -/
def awaitedIf (needed : Bool) (a : Act α) : Act α := if needed then awaited a else a

/-! ## Functions -/

/-- A function that makes calls, different from every other one. -/
def define (calls : List Call) : Act Value := do
  let mark := (← get).functions.nextId
  modify fun s => { s with functions := s.functions.add calls }
  return .function mark calls.isEmpty []

/-- Hands a builder and a condition to a function. -/
def invoke (id : Nat) (condition function : Value) : Act Unit := do
  match function with
  | .function mark _ _ =>
    let calls := ((← get).functions.get? mark).getD []
    fun reactor => ExceptT.mk fun s => reactor.invoke id condition calls s
  | _ => fail .wrongType

/-! ## Changes -/

/-- Adds a step to the log of a builder that is recording. -/
def note (id : Nat) (step : String) (details : Value) : Act Unit := do
  let b ← builder id
  if (← get).recording b then changeBuilder id fun b => b.note step details

/-- Carries out edits on the builder of a number; `query` is the one that they are handed. -/
def editBuilder (id : Nat) (query : Option Descriptor) (edits : Context → Edit Unit) :
    Act Unit := do
  let s ← get
  let b ← builder id
  let (outcome, b') := (edits (s.context b query)).run b
  changeBuilder id fun _ => b'
  of outcome

/-- The first of as many stamps that no row has. -/
def freshStamps (count : Nat) : Act Nat := do
  let stamp := (← get).nextStamp
  modify fun s => { s with nextStamp := stamp + count }
  return stamp

/-- A table of its own with the rows of a value. -/
def freshTable (v : Value) : Act Table := do
  let count := (Table.ofValue 0 v).rows.length
  return .ofValue (← freshStamps count) v

/-- Writes down what happened. -/
def happened (h : Happening) : Act Unit :=
  modify fun s => { s with trace := { s.trace with calls := s.trace.calls ++ [h] } }

end Act

end FluentSql
