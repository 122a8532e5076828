import FluentSql.Error
import FluentSql.Value.Equality

set_option autoImplicit false

/-!
# Ordered mappings

A mapping holds its entries in the order in which their keys came, one entry for each key up to
agreement. Putting a value under a key that is there changes the value and keeps the key and its
place.

## Main definitions

* `FluentSql.Fields.get?`, `FluentSql.Fields.value`, `FluentSql.Fields.has` — looking up.
* `FluentSql.Fields.set`, `FluentSql.Fields.merge`, `FluentSql.Fields.ofPairs` — putting in.
* `FluentSql.Fields.cell` — looking up under any value, which may be no key at all.
-/

namespace FluentSql

namespace Fields

/-- The value under a key. -/
def get? (fs : Fields) (key : Value) : Option Value :=
  (fs.find? fun p => p.1.agrees key).map (·.2)

/-- The value under a key, null if there is none. -/
def value (fs : Fields) (key : Value) : Value := (fs.get? key).getD .null

/-- Whether a key is present. -/
def has (fs : Fields) (key : Value) : Bool := fs.any fun p => p.1.agrees key

/-- The keys, in order. -/
def keys (fs : Fields) : List Value := fs.map (·.1)

/-- Puts a value under a key, in its old place if the key is present and at the end if not. -/
def set (fs : Fields) (key v : Value) : Fields :=
  match fs with
  | [] => [(key, v)]
  | (other, w) :: rest =>
    if other.agrees key then (other, v) :: rest else (other, w) :: set rest key v

/-- Puts every value of a second mapping into the first. -/
def merge (fs others : Fields) : Fields := others.foldl (fun acc p => acc.set p.1 p.2) fs

/-- The mapping that a list of pairs spells, later pairs winning. -/
def ofPairs (pairs : List (Value × Value)) : Fields := merge [] pairs

/-- The first value, null if there is none. -/
def firstValue (fs : Fields) : Value := ((fs.head?).map (·.2)).getD .null

/-- The value under what may be a key, null if there is none. -/
def cell (fs : Fields) (key : Value) : Except Error Value :=
  if key.hashable then .ok (fs.value key) else .error .wrongType

/-- The value under what may be a key; a missing one is an error. -/
def entry (fs : Fields) (key : Value) : Except Error Value :=
  if key.hashable then ((fs.get? key).map Except.ok).getD (.error .missingKey)
  else .error .wrongType

/-- Puts a value under what may be a key. -/
def put (fs : Fields) (key v : Value) : Except Error Fields :=
  if key.hashable then .ok (fs.set key v) else .error .wrongType

end Fields

end FluentSql
