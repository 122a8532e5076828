import FluentSql.Rows

set_option autoImplicit false

/-!
# Writes on tables in memory

A write changes the rows it matches where they stand, one after the other; inserting and deleting
make a new table out of the rows of the old one. A write that fails half-way has changed the rows
before the failure, so what became of the rows is part of the result.

Rows are objects. One row can stand at several places of a table, and a write that changes it where
it stands first has changed it at the other places too.

## Main definitions

* `FluentSql.Placed` — rows, and the places at which they stand.
* `FluentSql.Remainder` — what becomes of the table.
* `FluentSql.Attempt` — what a write did to the rows, and its outcome.
* `FluentSql.Descriptor.applyOn` — carrying out the queued write on rows at their places.
* `FluentSql.Descriptor.applyTo` — the same on a table in which no row stands twice.
-/

namespace FluentSql

/-! ## Rows at their places -/

/-- The rows of a table as objects: which of them stands at each place, by number, and what each of
them is. -/
structure Placed where
  places : List Nat
  row : Nat → Value

namespace Placed

/-- What stands at the places, one after the other. -/
def items (rows : Placed) : List Value := rows.places.map rows.row

/-- Rows of which none stands at two places. -/
def apart (items : List Value) : Placed where
  places := List.range items.length
  row n := items.getD n .null

/-- The row of a number becomes another one, wherever it stands. -/
def put (rows : Placed) (n : Nat) (v : Value) : Placed :=
  { rows with row := fun m => if m = n then v else rows.row m }

end Placed

/-! ## Results -/

/-- What a write leaves of a table. -/
inductive Remainder where
  /-- The table itself. -/
  | whole
  /-- A table with more at its end. -/
  | extended (added : Value)
  /-- A list of the rows that are kept. -/
  | selection (kept : List Bool)
  deriving Inhabited

/-- A write that succeeded: what it leaves of the table, and what it reports. -/
structure Written where
  remainder : Remainder
  result : WriteResult
  deriving Inhabited

/-- A write that was tried: the items of the table afterwards, the builders in the place of rows
that were told to queue an update, and its outcome. -/
structure Attempt where
  touched : List Value
  told : List Nat := []
  outcome : Except Error Written

/-- The items that a list of verdicts keeps. -/
def keptBy {α : Type} (kept : List Bool) (xs : List α) : List α :=
  ((kept.zip xs).filter (·.1)).map (·.2)

/-- The sequence with other items; only lists and tuples have items that can change. -/
def Value.withItems (v : Value) (xs : List Value) : Value :=
  match v.bare with
  | .list _ => .list xs
  | .tuple _ => .tuple xs
  | _ => v

namespace Attempt

/-- A write that leaves the rows alone. -/
def untouched (items : List Value) (outcome : Except Error Written) : Attempt :=
  { touched := items, outcome }

/-- The given table after the write. -/
def after (a : Attempt) (table : Value) : Value := table.withItems a.touched

/-- The table that the write leaves, and what it reports. -/
def result (a : Attempt) (table : Value) : Except Error (Value × WriteResult) := do
  let written ← a.outcome
  let left ← match written.remainder with
    | .whole => pure (a.after table)
    | .extended added => (a.after table).add added
    | .selection kept => pure (.list (keptBy kept a.touched))
  return (left, written.result)

end Attempt

/-! ## Changes of rows -/

/-- Puts pairs of a key and a value into a mapping, up to the first that is none. -/
def Fields.mergePairs (row : Fields) : List Value → Fields × Option Error
  | [] => (row, none)
  | pair :: pairs =>
    match pair.entry with
    | .ok (key, v) => mergePairs (row.set key v) pairs
    | .error e => (row, some e)

/-- Puts new values into a row. A builder in the place of one stays, but is told to queue them. -/
def updateRow (data : Value) (row : Value) : Value × Option Error :=
  match row with
  | .builder id table =>
    match data.toFields with
    | .error e => (.builder id table, some e)
    | .ok _ => (.builder id table, none)
  | .map fs =>
    match data with
    | .map values => (.map (Fields.merge fs values), none)
    | v =>
      match v.items with
      | .error e => (row, some e)
      | .ok pairs =>
        let (fs', failure) := Fields.mergePairs fs pairs
        (.map fs', failure)
  | v => (v, some (v.lacking "update"))

/-- Adds an amount to a column of a row; what does not count as true counts as zero. -/
def incrementRow (column amount : Value) (row : Value) : Value × Option Error :=
  let changed : Except Error Value := do
    let fs ← row.fields "get"
    let sum ← ((← fs.cell column).orElse (.int 0)).add amount
    return .map (← fs.put column sum)
  match changed with
  | .ok row' => (row', none)
  | .error e => (row, some e)

/-- Changes the rows at the marked places, one after the other, and stops at the first failure. A
row that stands at two of them is changed twice. -/
def changePlaces (change : Value → Value × Option Error) :
    List (Bool × Nat) → Placed → Placed × Option Error
  | [], rows => (rows, none)
  | (false, _) :: rest, rows => changePlaces change rest rows
  | (true, n) :: rest, rows =>
    match change (rows.row n) with
    | (v, some e) => (rows.put n v, some e)
    | (v, none) => changePlaces change rest (rows.put n v)

/-- The builders at the marked places that a change reaches before it fails. -/
def reachedAt (change : Value → Value × Option Error) : List (Bool × Nat) → Placed → List Nat
  | [], _ => []
  | (false, _) :: rest, rows => reachedAt change rest rows
  | (true, n) :: rest, rows =>
    match change (rows.row n), rows.row n with
    | (_, some _), _ => []
    | (v, none), .builder id _ => id :: reachedAt change rest (rows.put n v)
    | (v, none), _ => reachedAt change rest (rows.put n v)

/-- What comes of changing what is marked in a table, which may have failed: the table is left, and
it is reported how much was marked. -/
def changeOutcome (marks : List Bool) : Option Error → Except Error Written
  | some e => .error e
  | none => .ok { remainder := .whole, result := { changes := .int (marks.count true) } }

/-- Changes the rows at the marked places of a table. -/
def attemptChange (marks : List Bool) (change : Value → Value × Option Error) (rows : Placed) :
    Attempt :=
  let (left, failure) := changePlaces change (marks.zip rows.places) rows
  { touched := left.items
    told := reachedAt change (marks.zip rows.places) rows
    outcome := changeOutcome marks failure }

/-! ## Insertion and deletion -/

/-- Whether a value can be put at the end of a table. -/
def Value.extendable (table added : Value) : Bool :=
  match table.bare, added.bare with
  | .list _, .list _ | .tuple _, .tuple _ | .text _, .text _ | .bytes _, .bytes _ => true
  | _, _ => false

/-- Puts rows at the end of a table; the identifier reported is the key of the last one. -/
def appendRows (key table added : Value) : Except Error Written := do
  let lastId ← if added.truthy then (← added.subscript (.int (-1))).cell key else pure .null
  if !table.extendable added then throw .wrongType
  return {
    remainder := .extended added
    result := { changes := .int (← added.length), lastId := lastId.orElse (.int 0) } }

/-- The key of an item of a table, null if it has none; a key has to be hashable. -/
def keyOf (key item : Value) : Except Error Value := do
  let k ← item.cell key
  if k.isNull || k.hashable then return k else throw .wrongType

/-- The keys of doomed rows. -/
def doomedKeys (key : Value) (doomed : List Value) : Except Error (List Value) := do
  return (← doomed.mapM (keyOf key)).filter fun k => !k.isNull

/-- Whether a row survives: with a key, if no doomed row has one that agrees; without, if it is
not doomed itself. -/
def survives (key : Value) (keys : List Value) (doomed : Bool) (item : Value) :
    Except Error Bool := do
  let k ← keyOf key item
  return !doomed && (k.isNull || !keys.any k.agrees)

/-- Drops doomed rows, and with them every row that has the key of one. -/
def dropRows (key : Value) (doomed : List Bool) (items : List Value) : Except Error Written := do
  let keys ← doomedKeys key (keptBy doomed items)
  let kept ← (doomed.zip items).mapM fun (doomed, item) => survives key keys doomed item
  return {
    remainder := .selection kept
    result := { changes := .int (kept.count false) } }

/-! ## Updating or inserting -/

/-- Whether an item of a table has every one of some attributes. -/
def hasAttributes (attributes : Value) (item : Value) : Except Error Bool := do
  match ← attributes.fields "items" with
  | [] => return true
  | wanted =>
    let row ← item.fields "get"
    return wanted.all fun p => (row.value p.1).equal p.2

/-- The mapping of the attributes and the values of an update-or-insert. -/
def mergedFields : Value → Value → Except Error Fields
  | .map attributes, .map values => .ok (Fields.merge attributes values)
  | _, _ => .error .wrongType

namespace Descriptor

/-- Puts the queued values into the rows that the predicate keeps. -/
def applyUpdate (d : Descriptor) (data table : Value) (rows : Placed) : Attempt :=
  match d.matching table with
  | .error e => .untouched rows.items (.error e)
  | .ok marks => attemptChange marks (updateRow data) rows

/-- Deletes the rows that the predicate keeps. -/
def applyDelete (d : Descriptor) (key table : Value) (rows : Placed) : Attempt :=
  .untouched rows.items do dropRows key (← d.matching table) rows.items

/-- The column and the amount of a queued increment. -/
def incrementOf (decrement : Bool) (data : Value) : Except Error (Value × Value) := do
  let column ← data.subscript "column"
  let amount ← data.getOr "amount" (.int 1)
  return (column, ← if decrement then amount.negate else pure amount)

/-- Adds the queued amount, or its negation, in the rows that the predicate keeps. -/
def applyIncrement (d : Descriptor) (decrement : Bool) (data table : Value) (rows : Placed) :
    Attempt :=
  let parts : Except Error (Value × Value × List Bool) := do
    let (column, amount) ← incrementOf decrement data
    return (column, amount, ← d.matching table)
  match parts with
  | .error e => .untouched rows.items (.error e)
  | .ok (column, amount, marks) => attemptChange marks (incrementRow column amount) rows

/-- Updates the rows that have the attributes, or inserts one if there are none. -/
def applyUpdateOrInsert (key data table : Value) (rows : Placed) : Attempt :=
  let parts : Except Error (Value × Value × List Bool) := do
    let attributes ← data.subscript "attributes"
    let values ← data.subscript "values"
    return (attributes, values, ← (← table.items).mapM (hasAttributes attributes))
  match parts with
  | .error e => .untouched rows.items (.error e)
  | .ok (attributes, values, marks) =>
    if marks.contains true then attemptChange marks (updateRow values) rows
    else .untouched rows.items do
      let row ← mergedFields attributes values
      appendRows key table (.list [.map row])

/-- Carries out a write of a known kind on a table with the given rows. -/
def applyKind (d : Descriptor) (kind : WriteKind) (key data table : Value) (rows : Placed) :
    Attempt :=
  match kind with
  | .insert => .untouched rows.items (appendRows key table data)
  | .update => d.applyUpdate data table rows
  | .delete => d.applyDelete key table rows
  | .increment => d.applyIncrement false data table rows
  | .decrement => d.applyIncrement true data table rows
  | .updateOrInsert => applyUpdateOrInsert key data table rows

/-- Carries out the queued write on a table with the given rows, which are told apart by a key when
they are deleted. Without a queued write nothing happens. -/
def applyOn (d : Descriptor) (key table : Value) (rows : Placed) : Attempt :=
  match d.pending with
  | none => .untouched rows.items (.ok { remainder := .whole, result := {} })
  | some action =>
    match WriteKind.ofKeyword? action.kind with
    | some kind => d.applyKind kind key action.data table rows
    | none => .untouched rows.items (.error (.unsupportedAction action.kind))

/-- Carries out the queued write on a table in which no row stands at two places. -/
def applyTo (d : Descriptor) (key table : Value) : Attempt :=
  d.applyOn key table (.apart ((table.items.toOption).getD []))

end Descriptor

end FluentSql
