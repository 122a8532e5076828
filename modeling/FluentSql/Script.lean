import FluentSql.Call
import FluentSql.Dialect
import FluentSql.Executor

set_option autoImplicit false

/-!
# Scripts

A script is a list of steps: setting up executors, configurations, event managers and simulations,
making builders and models, and making calls on them. A listener may carry a script of its own,
which runs whenever it hears an event.

## Main definitions

* `FluentSql.ModelClass`, `FluentSql.ModelRequest` — kinds of models, and the calls on models.
* `FluentSql.SeedSource`, `FluentSql.SeedOptions` — what to seed a table with, and how.
* `FluentSql.Step` — one step.
-/

namespace FluentSql

/-- The calls on models. -/
inductive ModelRequest where
  | fill | writable | save | delete | bank | describe | setItem | getItem | query
  deriving DecidableEq, Repr, Inhabited

namespace ModelRequest

/-- The name of a call on a model and the names of its parameters, in order. -/
def signature : ModelRequest → String × List String
  | .fill => ("fill", ["attributes"])
  | .writable => ("writable", ["attributes"])
  | .save => ("save", [])
  | .delete => ("delete", [])
  | .bank => ("bank", ["names"])
  | .describe => ("__repr__", [])
  | .setItem => ("__setitem__", ["key", "value"])
  | .getItem => ("__getitem__", ["key"])
  | .query => ("query", [])

/-- Every call on a model. -/
def all : List ModelRequest :=
  [.fill, .writable, .save, .delete, .bank, .describe, .setItem, .getItem, .query]

/-- The call on a model of a name. -/
def ofName? (s : String) : Option ModelRequest := all.find? fun r => r.signature.1 == s

/-- Whether a call on a model is carried out only when its answer is awaited. -/
def awaited : ModelRequest → Bool
  | .save | .delete => true
  | _ => false

end ModelRequest

/-- A kind of model: its table, its banks, and the attributes that may be written. The guarded ones
play no part if any is fillable. -/
structure ModelClass where
  name : String
  table : String
  banks : List Value := []
  fillable : List String := []
  guarded : List String := ["id", "created_at", "updated_at"]
  deriving Inhabited

/-- What a table is seeded with. -/
inductive SeedSource (α : Type) where
  /-- Rows that are given. -/
  | rows (rows : α)
  /-- A seeder that gives no rows. -/
  | empty
  /-- A seeder that asks for a builder, and then fails or gives rows. -/
  | seeder (rows : α) (failure : Option String)
  /-- A seeder that reads all rows of another table. -/
  | reader (table : String)
  deriving Inhabited

/-- What a table is seeded with, evaluated. -/
def SeedSource.evaluate {α β : Type} {m : Type → Type} [Monad m] (f : α → m β) :
    SeedSource α → m (SeedSource β)
  | .rows v => do return .rows (← f v)
  | .empty => return .empty
  | .seeder v failure => do return .seeder (← f v) failure
  | .reader table => return .reader table

/-- How a table is seeded. -/
structure SeedOptions where
  truncate : Bool := false
  upsert : Bool := false
  ignoreDuplicates : Bool := false
  deriving Inhabited

/-- One step of a script. Names of configurations, event managers and simulations may be left out
for the shared one. -/
inductive Step where
  | new (name : String) (spec : BuilderSpec)
  | call (on : String) (call : Call) (keep : Option String)
  | state (on : String)
  | dialectOf (on : String)
  | log (on : String)
  | setPending (on : String) (kind : String) (data : Argument)
  | pushUnknown (on : String) (toHaving : Bool) (kind : Option String)
  | executor (standard : Bool) (executor : Executor Argument)
  | executorInfo (name : String)
  | executorCall (name : String) (method : ExecutorMethod) (sql : String) (bindings : Argument)
  | databases (adapters : Option (List String)) (config : Option String)
  | newConfig (name : String) (executor bus : Option String)
  | resetConfig (config : Option String)
  | bus (name : Option String) (fails : Bool)
  | controller (active : Argument) (state : List (String × Argument))
  | noController
  | controllerState
  | newEvents (name : String) (config : Option String)
  | listen (event listener : String) (events : Option String) (fails : Bool) (reaction : List Step)
    (token : String)
  | off (event listener : String) (events : Option String) (fails : Bool) (reaction : List Step)
  | unsubscribe (token : String)
  | emit (event : String) (arguments : List Argument) (events : Option String)
  | clearEvents (events : Option String)
  | newSimulation (name : String) (config : Option String)
  | start (state : List (String × Argument)) (simulation : Option String)
  | stop (simulation : Option String)
  | isActive (simulation : Option String)
  | getTable (table : String) (simulation : Option String)
  | setTable (table : String) (rows : Argument) (simulation : Option String)
  | parallel (builders : List String)
  | registerDialect (name : String) (dialect : Dialect) (decorator : Bool)
  | modelClass (kind : ModelClass)
  | newModel (name className : String) (attributes : List (String × Argument))
  | queryModel (name className : String) (dialect : Option String)
  | getModel (on field : String)
  | model (on : String) (request : ModelRequest) (arguments : List (String × Argument))
    (keep : Option String)
  | seed (table : String) (source : SeedSource Argument) (uniqueBy : Argument)
    (options : SeedOptions) (config simulation : Option String)
  deriving Inhabited

end FluentSql
