import FluentSql.Outcome
import FluentSql.Placeholder
import FluentSql.Statement
import FluentSql.Text.Part

set_option autoImplicit false

/-!
# Executors

An executor runs statements. Here its answers are prepared beforehand. A plain executor has two
queues of answers, for statements that read and for the others, and gives a standard answer when
the queue is empty. An engine executor hands statements to a driver, which wants its own
placeholders and reports rows, or a count and an identifier; each statement is a transaction.

What is prepared may be values, or descriptions of values that are still to be evaluated.

## Main definitions

* `FluentSql.Executor` — an executor and what it still has to say; `evaluate` evaluates that.
* `FluentSql.Executor.offers` — whether it has an optional method.
* `FluentSql.Engine.outcome` — what a driver's report comes to.
-/

namespace FluentSql

/-- The methods of executors. Only the first is there always. -/
inductive ExecutorMethod where
  | query | queryBlocking | runBlocking
  deriving DecidableEq, Repr, Inhabited

namespace ExecutorMethod

/-- The name of a method. -/
def name : ExecutorMethod → String
  | .query => "execute_query"
  | .queryBlocking => "execute_query_sync"
  | .runBlocking => "run_sync"

/-- The methods. -/
def all : List ExecutorMethod := [.query, .queryBlocking, .runBlocking]

/-- The method of a name. -/
def ofName? (s : String) : Option ExecutorMethod := all.find? fun m => m.name == s

end ExecutorMethod

/-- A prepared answer of a plain executor. -/
inductive Reply (α : Type) where
  | answer (v : α)
  | failure (text : String)
  deriving Inhabited

/-- What a driver reports for a statement. An absent count or identifier is an attribute that is not
there. -/
inductive DriverReport (α : Type) where
  | rows (rows : α)
  | count (rowcount lastId : Option α)
  | failure (text : String)
  deriving Inhabited

/-- An engine: its dialect by the name in use there, its placeholder style, its address, and its
database. -/
structure Engine where
  dialect : String
  style : String
  url : String
  database : Option String
  deriving DecidableEq, Repr, Inhabited

/-- What an executor answers with. -/
inductive ExecutorSource (α : Type) where
  | plain (optional : List ExecutorMethod) (rows : α) (reads writes : List (Reply α))
  | engine (engine : Engine) (reports : List (DriverReport α))

/-- An executor; its first method is awaited or answers at once. -/
structure Executor (α : Type) where
  name : String
  dialect : Option String
  awaited : Bool
  source : ExecutorSource α

instance {α : Type} : Inhabited (ExecutorSource α) := ⟨.engine default []⟩
instance {α : Type} : Inhabited (Executor α) := ⟨⟨"", none, true, default⟩⟩

/-! ## Evaluation -/

section Evaluation

variable {α β : Type} {m : Type → Type} [Monad m]

/-- A reply with its answer evaluated. -/
def Reply.evaluate (f : α → m β) : Reply α → m (Reply β)
  | .answer v => do return .answer (← f v)
  | .failure text => return .failure text

/-- A report with its parts evaluated. -/
def DriverReport.evaluate (f : α → m β) : DriverReport α → m (DriverReport β)
  | .rows v => do return .rows (← f v)
  | .count rowcount lastId => do
    let rowcount ← rowcount.mapM f
    return .count rowcount (← lastId.mapM f)
  | .failure text => return .failure text

/-- What an executor answers with, evaluated. -/
def ExecutorSource.evaluate (f : α → m β) : ExecutorSource α → m (ExecutorSource β)
  | .plain optional rows reads writes => do
    let rows ← f rows
    let reads ← reads.mapM (Reply.evaluate f)
    return .plain optional rows reads (← writes.mapM (Reply.evaluate f))
  | .engine e reports => do return .engine e (← reports.mapM (DriverReport.evaluate f))

/-- An executor with everything that it has to say evaluated. -/
def Executor.evaluate (f : α → m β) (e : Executor α) : m (Executor β) := do
  let source ← e.source.evaluate f
  return { name := e.name, dialect := e.dialect, awaited := e.awaited, source }

end Evaluation

/-! ## Engines -/

namespace Engine

/-- The dialect that an engine's own name for it means. -/
def knownDialect? (e : Engine) : Option String :=
  match e.dialect with
  | "sqlite" => some "sqlite"
  | "postgresql" => some "postgres"
  | "mysql" | "mariadb" => some "mysql"
  | "mssql" => some "mssql"
  | "oracle" => some "oracle"
  | _ => none

/-- Whether the database lives in memory and belongs to one thread. -/
def inMemory (e : Engine) : Bool :=
  e.dialect == "sqlite" &&
    (match e.database with
      | none => true
      | some database =>
        database == "" || database == ":memory:" || Part.within "mode=memory" e.url)

/-- Whether statements run in a thread of their own. -/
def threaded (e : Engine) : Bool := !e.inMemory

/-- The count of changed rows that a driver's count stands for: a positive one as it is, anything
less is none. -/
def changes (rowcount : Value) : Except Error Value := do
  if !rowcount.truthy then return .int 0
  let n ← rowcount.number
  return if (Scaled.ofInt 0).less n.scaled then rowcount else .int 0

/-- What a driver's report comes to: the rows, and the outcome of a write. -/
def outcome : DriverReport Value → Except Error (List Value × WriteResult)
  | .rows v => do
    let rows ← (← v.items).mapM Value.toFields
    return (rows.map .map, { changes := .int rows.length })
  | .count none _ => .error .missingAttribute
  | .count (some rowcount) lastId => do
    return ([], { changes := ← changes rowcount, lastId := (lastId.getD .null).orElse (.int 0) })
  | .failure text => .error (.raised text)

/-- The next report and the ones after it; when there is none left, one row was changed. -/
def nextReport : List (DriverReport Value) → DriverReport Value × List (DriverReport Value)
  | [] => (.count (some (.int 1)) (some (.int 0)), [])
  | r :: rest => (r, rest)

/-- What a method makes of an outcome: a query result, or the outcome of a write. -/
def answer (method : ExecutorMethod) (rows : List Value) (result : WriteResult) : Value :=
  match method with
  | .runBlocking => result.toValue
  | .query | .queryBlocking =>
    .queryResult (.list rows) result.changes (result.lastId.orElse .null)

end Engine

namespace Executor

/-- Whether an executor has a method. -/
def offers {α : Type} (e : Executor α) (method : ExecutorMethod) : Bool :=
  match e.source with
  | .plain optional _ _ _ => method == .query || optional.contains method
  | .engine _ _ => true

/-- Whether a method of an executor has to be awaited. -/
def awaits {α : Type} (e : Executor α) (method : ExecutorMethod) : Bool :=
  method == .query && e.awaited

/-- The executor of an engine. -/
def ofEngine {α : Type} (name : String) (engine : Engine) (reports : List (DriverReport α)) :
    Executor α :=
  { name, dialect := engine.knownDialect?, awaited := true, source := .engine engine reports }

/-- The text that names the executor of an engine. -/
def describe (engine : Engine) : String := "SQLAlchemyExecutor(" ++ engine.url ++ ")"

end Executor

/-- Whether a statement reads. -/
def Statement.reads (s : Statement) : Bool := "SELECT".toList.isPrefixOf s.sql.toList

/-- The next reply and the ones after it; when there is none left, the given one. -/
def nextReply (standard : Value) : List (Reply Value) → Reply Value × List (Reply Value)
  | [] => (.answer standard, [])
  | r :: rest => (r, rest)

end FluentSql
