import FluentSql.Calendar
import FluentSql.Number.Scaled

set_option autoImplicit false

/-!
# Dynamic values

Column values, bound values and the results of executors are not typed: a query carries whatever
it was given. This module holds the type of such values, the ordered mappings that rows are, and
the test whether a value counts as true.

A value may refer to a builder, or to what a builder's query holds and may still change. Such a
value is a view: it says where it belongs and what was seen there last, and is looked at again
before use.

## Main definitions

* `FluentSql.Value` — a dynamic value.
* `FluentSql.Source` — where a view belongs.
* `FluentSql.Fields` — an ordered mapping from keys to values; rows are such mappings.
* `FluentSql.Value.truthy` — whether a value counts as true.
* `FluentSql.WriteResult` — what a write reports: rows changed and the identifier generated last.
-/

namespace FluentSql

/-- Where a view belongs: to the query of a builder, or to one of the lists of that query. A list
that took the place of another has the next edition. -/
inductive Source where
  | query (builder : Nat)
  | part (builder : Nat) (field : String) (edition : Nat)
  deriving DecidableEq, Repr, Inhabited

/-- A dynamic value. Besides plain data it may be one of the objects that calls pass around:
outcomes of statements, objects with attributes, fragments of SQL, statements, builders, records
and functions. -/
inductive Value where
  | null
  | bool (b : Bool)
  | int (n : Int)
  | float (x : Float)
  /-- An occurrence of what is not a number, told from other occurrences by its mark. -/
  | nan (mark : Nat)
  | text (s : String)
  | list (items : List Value)
  | tuple (items : List Value)
  /-- An ordered mapping; its keys are mostly texts. -/
  | map (fields : List (Value × Value))
  | bytes (octets : List UInt8)
  | moment (t : Moment)
  /-- Rows changed, and the identifier generated last. -/
  | writeResult (changes lastId : Value)
  /-- Rows, the number of affected rows, and the identifier generated last. -/
  | queryResult (data affected lastId : Value)
  /-- Something that is no mapping and has just these attributes. -/
  | object (attributes : List (Value × Value))
  /-- A verbatim fragment of SQL. -/
  | raw (sql : String)
  /-- A compiled statement and its bound values. -/
  | statement (sql : String) (bindings : List Value)
  /-- The query builder of a number, which is for a table. -/
  | builder (id : Nat) (table : String)
  /-- A record of some kind with its fields in order. -/
  | record (kind : String) (fields : List (Value × Value))
  /-- What was seen of something that may still change. -/
  | view (source : Source) (seen : Value)
  /-- A list met again inside itself. -/
  | again
  /-- A function, told from others by its mark. An idle one does nothing with what it is given. It
  may be possible to iterate it, and then it gives some texts and fails. -/
  | function (mark : Nat) (idle : Bool) (given : List String)
  deriving Inhabited

/-- A text is a value. -/
instance : Coe String Value := ⟨.text⟩

/-- An ordered mapping from keys to values. -/
abbrev Fields := List (Value × Value)

/-- A row of a table. -/
abbrev Row := Fields

/-! ## Truth -/

namespace Value

/-- Whether a value counts as true: null, false, zero and whatever is empty do not. -/
def truthy : Value → Bool
  | .null => false
  | .bool b => b
  | .int n => n != 0
  | .float x => !(Scaled.ofFloat x).same (.ofInt 0)
  | .text s => s != ""
  | .list items | .tuple items => !items.isEmpty
  | .map fields => !fields.isEmpty
  | .bytes octets => !octets.isEmpty
  | .view _ seen => seen.truthy
  | _ => true

/-- What a view shows; anything else is itself. -/
def bare : Value → Value
  | .view _ seen => seen.bare
  | v => v

/-- The first value if it counts as true, else the second. -/
def orElse (v w : Value) : Value := if v.truthy then v else w

/-- Whether a value is there at all: neither null nor the empty text. -/
def present : Value → Bool
  | .null => false
  | .text s => s != ""
  | _ => true

/-- Whether a value is null. -/
def isNull : Value → Bool
  | .null => true
  | _ => false

end Value

/-! ## Outcomes of writes -/

/-- What a write reports: how many rows changed, and the identifier generated last. -/
structure WriteResult where
  changes : Value := .int 0
  lastId : Value := .int 0
  deriving Inhabited

/-- The outcome as a value. -/
def WriteResult.toValue (r : WriteResult) : Value := .writeResult r.changes r.lastId

end FluentSql
