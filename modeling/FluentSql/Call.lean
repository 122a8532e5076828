import FluentSql.Call.Method
import FluentSql.Call.Request
import FluentSql.Value

set_option autoImplicit false

/-!
# Calls on builders

The calls that a builder understands, as data. An argument may be plain data, a builder made on
the spot, another builder or its query by name, a list of calls to be carried out later, or the
condition that such a list was given; and all of these may stand inside data.

## Main definitions

* `FluentSql.Asked` — what a call asks: a chainable call or a request.
* `FluentSql.Argument`, `FluentSql.Call`, `FluentSql.BuilderSpec` — calls as they are written.
* `FluentSql.labelled`, `FluentSql.lastByName` — arguments by parameter, entries by name.
-/

namespace FluentSql

/-- What a call asks of a builder. -/
inductive Asked where
  | chained (method : Method)
  | request (request : Request)
  deriving DecidableEq, Repr, Inhabited

namespace Asked

/-- The names of the parameters, in order. -/
def parameters : Asked → List String
  | .chained m => m.parameters
  | .request r => r.parameters

/-- What is asked by a name. -/
def ofName? (s : String) : Option Asked :=
  ((Method.ofName? s).map .chained).or ((Request.ofName? s).map .request)

end Asked

/-! ## Calls as they are written -/

mutual

/-- An argument of a call. -/
inductive Argument where
  | value (v : Value)
  | list (items : List Argument)
  | tuple (items : List Argument)
  | map (entries : List (String × Argument))
  | object (attributes : List (String × Argument))
  | writeResult (changes lastId : Argument)
  | queryResult (data affected lastId : Argument)
  /-- The condition that the enclosing list of calls was given. -/
  | condition
  /-- A builder made on the spot. -/
  | fresh (spec : BuilderSpec)
  /-- The builder of a name. -/
  | builder (name : String)
  /-- The descriptor of the builder of a name. -/
  | descriptor (name : String)
  /-- Calls to be carried out later on the builder that receives them. -/
  | callback (calls : List Call)

/-- A call: what is asked, and the arguments given for its parameters. -/
structure Call where
  asked : Asked
  arguments : List (String × Argument)

/-- How to make a builder: where it belongs, and the calls carried out on it first. -/
structure BuilderSpec where
  table : String
  dialect : Option String
  config : Option String
  events : Option String
  simulation : Option String
  calls : List Call

end

instance : Inhabited Argument := ⟨.condition⟩
instance : Inhabited Call := ⟨⟨default, []⟩⟩
instance : Inhabited BuilderSpec := ⟨⟨"", none, none, none, none, []⟩⟩

/-- Pairs arguments given by position with the names of parameters, and adds those given by name.
What is left over stands under a name that no parameter has. -/
def labelled {α : Type} (parameters : List String) (positional : List α)
    (named : List (String × α)) : List (String × α) :=
  match positional, parameters with
  | [], _ => named
  | x :: rest, p :: ps => (p, x) :: labelled ps rest named
  | x :: rest, [] => ("", x) :: labelled [] rest named

/-- Entries by name: a name that comes again keeps its first place and takes its last entry. -/
def lastByName {α : Type} (entries : List (String × α)) : List (String × α) :=
  entries.foldl put []
where
  put : List (String × α) → String × α → List (String × α)
    | [], entry => [entry]
    | other :: rest, entry =>
      if other.1 == entry.1 then entry :: rest else other :: put rest entry

end FluentSql
