set_option autoImplicit false

/-!
# Requests

The calls that ask a builder for something: its statement, its rows, the execution of its write,
its log. Some are answered at once; the others are only prepared by the call and carried out when
their answer is awaited.

## Main definitions

* `FluentSql.Request` — the requests; `signature` gives their names and parameters.
* `FluentSql.Request.awaited` — whether a request has to be awaited.
-/

namespace FluentSql

/-- The calls that ask a builder for something. -/
inductive Request where
  | toSql | hasPendingWrite | describe | clone
  | all | get | first | find | exist | pluck | make
  | allBlocking | getBlocking | firstBlocking | pluckBlocking | scalarBlocking | runBlocking
  | initial | tracking
  deriving DecidableEq, Repr, Inhabited

namespace Request

/-- The name of a request and the names of its parameters, in order. -/
def signature : Request → String × List String
  | .toSql => ("to_sql", [])
  | .hasPendingWrite => ("has_pending_write", [])
  | .describe => ("__repr__", [])
  | .clone => ("clone", [])
  | .all => ("all", [])
  | .get => ("get", [])
  | .first => ("first", [])
  | .find => ("find", ["id"])
  | .exist => ("exists", [])
  | .pluck => ("pluck", ["column"])
  | .make => ("make", [])
  | .allBlocking => ("all_sync", [])
  | .getBlocking => ("get_sync", [])
  | .firstBlocking => ("first_sync", [])
  | .pluckBlocking => ("pluck_sync", ["column"])
  | .scalarBlocking => ("scalar_sync", ["alias"])
  | .runBlocking => ("run", [])
  | .initial => ("initial", ["rows"])
  | .tracking => ("tracking", [])

/-- The name of a request. -/
def name (r : Request) : String := r.signature.1

/-- The names of the parameters of a request, in order. -/
def parameters (r : Request) : List String := r.signature.2

/-- Every request. -/
def everyRequest : List Request :=
  [.toSql, .hasPendingWrite, .describe, .clone, .all, .get, .first, .find, .exist, .pluck, .make,
    .allBlocking, .getBlocking, .firstBlocking, .pluckBlocking, .scalarBlocking, .runBlocking,
    .initial, .tracking]

/-- The request of a name. -/
def ofName? (s : String) : Option Request := everyRequest.find? fun r => r.name == s

/-- Whether a request is carried out only when its answer is awaited. -/
def awaited : Request → Bool
  | .all | .get | .first | .find | .exist | .pluck | .make | .initial => true
  | _ => false

end Request

end FluentSql
