import FluentSql.Text.Part
import FluentSql.Value.Fields
import FluentSql.Value.Number

set_option autoImplicit false

/-!
# Taking values apart

The ways in which a call reads a value that it was given: iterating over it, looking up a key or
a position, turning it into a mapping, joining texts. Each fails with the error that fits where
the value does not admit it.

## Main definitions

* `FluentSql.Value.items` — the items of a sequence, the characters of a text, the keys of a
  mapping.
* `FluentSql.Value.subscript`, `FluentSql.Value.contains` — looking up in a mapping or a sequence.
* `FluentSql.Value.fields`, `FluentSql.Value.toFields` — a mapping as it is, or made from pairs.
* `FluentSql.Value.joined` — the texts of a sequence with commas between them.
-/

namespace FluentSql.Value

/-! ## Sequences -/

/-- The items met when a value is iterated to its end. Those of a record are pairs of a name and a
value. -/
def items : Value → Except Error (List Value)
  | .text s => .ok (s.toList.map fun c => .text (String.singleton c))
  | .list xs | .tuple xs => .ok xs
  | .map fields => .ok (Fields.keys fields)
  | .bytes octets => .ok (octets.map fun b => .int b.toNat)
  | .raw sql => .ok [.tuple [.text "sql", .text sql]]
  | .record _ fields => .ok (fields.map fun (name, v) => .tuple [name, v])
  | .view _ seen => seen.items
  | _ => .error .wrongType

/-- What a value gives that fails when it is iterated, before it does. -/
def midway : Value → List Value
  | .function _ _ given => given.map .text
  | _ => []

/-- What a value gives one after the other when it is iterated, and the failure that ends it if one
does. -/
def iterated (v : Value) : List Value × Option Error :=
  match v.items with
  | .ok xs => (xs, none)
  | .error e => (v.midway, some e)

/-- The number of items of a value. -/
def length (v : Value) : Except Error Nat :=
  match v.bare with
  | .raw _ | .record .. => .error .wrongType
  | v => return (← v.items).length

/-- Whether a value is a list, a tuple, a text or a run of octets. -/
def isSequence : Value → Bool
  | .list _ | .tuple _ | .text _ | .bytes _ => true
  | .view _ seen => seen.isSequence
  | _ => false

/-- Reads a single text as a list of one, and anything else as its items. -/
def oneOrMany : Value → Except Error (List Value)
  | .text s => .ok [.text s]
  | v => v.items

/-- The text that a value is; anything else is of the wrong type. -/
def asText : Value → Except Error String
  | .text s => .ok s
  | _ => .error .wrongType

/-- The texts of a sequence, a comma and a blank between them. -/
def joined (v : Value) : Except Error String := do
  return String.intercalate ", " (← (← v.items).mapM asText)

/-! ## Mappings -/

/-- The failure of an operation that a value does not have. An attribute of that name is there,
but is no operation; a builder gets its first row and runs its query, but takes nothing for that. -/
def lacking (v : Value) (operation : String) : Error :=
  match v with
  | .object attributes => if Fields.has attributes operation then .wrongType else .missingAttribute
  | .builder .. =>
    if operation == "get" || operation == "run" then .wrongType else .missingAttribute
  | _ => .missingAttribute

/-- The entries of a mapping, for an operation that only mappings have. -/
def fields (operation : String) : Value → Except Error Fields
  | .map fs => .ok fs
  | v => .error (v.lacking operation)

/-- The value of a mapping under a key, or a default. -/
def getOr (v key default : Value) : Except Error Value := do
  return ((← v.fields "get").get? key).getD default

/-- The value of a mapping under what may be a key, null if there is none. -/
def cell (v key : Value) : Except Error Value := do
  Fields.cell (← v.fields "get") key

/-- The two parts of a pair. -/
def pair (v : Value) : Except Error (Value × Value) := do
  match ← v.items with
  | [a, b] => return (a, b)
  | _ => .error .wrongValue

/-- The key and the value that an entry given as a pair spells. -/
def entry (v : Value) : Except Error (Value × Value) := do
  let (key, w) ← v.pair
  if key.hashable then return (key, w) else .error .wrongType

/-- The mapping that a value gives rise to: a mapping itself, or a sequence of pairs. -/
def toFields : Value → Except Error Fields
  | .map fs => .ok fs
  | v => do
    let pairs ← (← v.items).mapM entry
    return Fields.ofPairs pairs

/-! ## Looking up -/

/-- The position that a value stands for. -/
def position? : Value → Option Int
  | .bool b => some (if b then 1 else 0)
  | .int n => some n
  | _ => none

/-- The item at a position, counted from the end if it is negative. -/
def itemAt (xs : List Value) (i : Int) : Except Error Value :=
  let place := if i < 0 then i + xs.length else i
  match (if place < 0 then none else xs[place.toNat]?) with
  | some x => .ok x
  | none => .error .outOfRange

/-- What stands under a key of a mapping or at a position of a sequence. -/
def subscript (v key : Value) : Except Error Value :=
  match v.bare with
  | .map fs => Fields.entry fs key
  | .list _ | .tuple _ | .text _ | .bytes _ => do
    match key.position? with
    | some i => itemAt (← v.items) i
    | none => .error .wrongType
  | _ => .error .wrongType

/-- Whether one value is found in another: a text in a text, an octet or octets in octets, a key in
a mapping, an item in a sequence. -/
def contains (v key : Value) : Except Error Bool :=
  match v, key with
  | .map fs, key => if key.hashable then .ok (Fields.has fs key) else .error .wrongType
  | .text s, .text part => .ok (Part.within part s)
  | .text _, _ => .error .wrongType
  | .bytes octets, .bytes part => .ok (Part.among part octets)
  | .bytes octets, key =>
    match key.position? with
    | some n =>
      if 0 ≤ n && n < 256 then .ok (octets.contains (UInt8.ofNat n.toNat))
      else .error .wrongValue
    | none => .error .wrongType
  | v, key => do return (← v.items).any key.agrees

end FluentSql.Value
