import FluentSql.Value.Access

set_option autoImplicit false

/-!
# Outcomes reported by executors

Executors report the outcome of a statement in many shapes. A write is read as a count of changed
rows and an identifier, looked up under the names in use; a read is read as a list of rows.

## Main definitions

* `FluentSql.WriteResult.ofReport` — the outcome of a write.
* `FluentSql.rowsOfReport` — the rows of a read.
-/

namespace FluentSql

/-- The names under which a count of changed rows is reported, in order of preference. -/
def changesNames : List String := ["affected_rows", "affectedRows", "changes", "rowcount"]

/-- The names under which a generated identifier is reported, in order of preference. -/
def lastIdNames : List String :=
  ["last_insert_id", "lastInsertId", "last_insert_rowid", "lastInsertRowid", "insert_id",
    "insertId", "lastrowid"]

/-- What a report says under a name: an entry of a mapping or an attribute, null where it says
nothing. -/
def Value.reported (v : Value) (name : String) : Value :=
  match v with
  | .map fs => Fields.value fs name
  | .object attributes => Fields.value attributes name
  | .writeResult changes lastId =>
    Fields.value [("changes", changes), ("last_insert_rowid", lastId)] name
  | .queryResult data affected lastId =>
    Fields.value [("data", data), ("affected_rows", affected), ("last_insert_id", lastId)] name
  | _ => .null

/-- Whether a reported value says something: it is neither null nor the -1 of an unknown count. -/
def Value.known (v : Value) : Bool := !v.isNull && !v.equal (.int (-1))

/-- The first value that a report knows under some names, else null. -/
def Value.firstKnown (v : Value) (names : List String) : Value :=
  ((names.map v.reported).find? Value.known).getD .null

namespace WriteResult

/-- Reads the outcome of a write from a mapping or an object. -/
def ofInfo (info : Value) : Except Error WriteResult := do
  let changes := info.firstKnown changesNames
  let lastId := info.firstKnown lastIdNames
  return {
    changes := .int (← (changes.orElse (.int 0)).toInteger)
    lastId := lastId.orElse (.int 0) }

/-- Reads the outcome of a write: as it is, from the second part of a pair, or from its names. -/
def ofReport (report : Value) : Except Error WriteResult :=
  match report.bare with
  | .writeResult changes lastId => .ok { changes, lastId }
  | .list xs | .tuple xs =>
    match xs with
    | _ :: info :: _ => if info.isNull then ofInfo (.map []) else ofInfo info
    | _ => ofInfo (.map [])
  | .null => .ok {}
  | info => ofInfo info

end WriteResult

/-- The rows of a read: a list as it is, or what a mapping or an object holds as its data. -/
def rowsOfReport (report : Value) : Except Error (List Value) :=
  match report.bare with
  | .list rows => .ok rows
  | v =>
    let data := v.reported "data"
    if data.truthy then data.items else .ok []

end FluentSql
