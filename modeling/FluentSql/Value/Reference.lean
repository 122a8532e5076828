import FluentSql.Error

set_option autoImplicit false

/-!
# References in values

A value may refer to builders: by being one, or by showing what the query of one holds. This module
finds the references in a value and replaces them, wherever they stand.

## Main definitions

* `FluentSql.Value.references` — the builders that a value refers to.
* `FluentSql.Value.mapReferences` — a value with its references replaced.
* `FluentSql.Value.rename` — a value that refers to other builders instead.
* `FluentSql.Value.resolve` — a value with its views replaced by what is found for them.
-/

namespace FluentSql

namespace Source

/-- The builder that a source belongs to. -/
def builder : Source → Nat
  | .query id | .part id _ _ => id

/-- The source of the same name at another builder. -/
def rename (σ : Nat → Nat) : Source → Source
  | .query id => .query (σ id)
  | .part id field edition => .part (σ id) field edition

/-- Whether a source is a list of a query. -/
def isPart : Source → Bool
  | .query _ => false
  | .part .. => true

end Source

/-! ## Finding -/

mutual

/-- The builders that a value refers to. -/
def Value.references : Value → List Nat
  | .list xs | .tuple xs | .statement _ xs => referencesOfItems xs
  | .map fs | .object fs | .record _ fs => referencesOfFields fs
  | .writeResult changes lastId => changes.references ++ lastId.references
  | .queryResult data affected lastId =>
    data.references ++ affected.references ++ lastId.references
  | .builder id _ => [id]
  | .view source _ => [source.builder]
  | _ => []

/-- The builders that items refer to. -/
def referencesOfItems : List Value → List Nat
  | [] => []
  | x :: xs => x.references ++ referencesOfItems xs

/-- The builders that entries refer to. -/
def referencesOfFields : List (Value × Value) → List Nat
  | [] => []
  | (key, x) :: rest => key.references ++ x.references ++ referencesOfFields rest

end

/-! ## Replacing -/

mutual

/-- A value with its views and the builders in it replaced. -/
def Value.mapReferences (view : Source → Value → Value) (builder : Nat → Nat) : Value → Value
  | .list xs => .list (mapItems view builder xs)
  | .tuple xs => .tuple (mapItems view builder xs)
  | .map fs => .map (mapFields view builder fs)
  | .writeResult changes lastId =>
    .writeResult (changes.mapReferences view builder) (lastId.mapReferences view builder)
  | .queryResult data affected lastId =>
    .queryResult (data.mapReferences view builder) (affected.mapReferences view builder)
      (lastId.mapReferences view builder)
  | .object attributes => .object (mapFields view builder attributes)
  | .statement sql bindings => .statement sql (mapItems view builder bindings)
  | .record kind fields => .record kind (mapFields view builder fields)
  | .builder id table => .builder (builder id) table
  | .view source seen => view source seen
  | v => v

/-- The items with their references replaced. -/
def mapItems (view : Source → Value → Value) (builder : Nat → Nat) : List Value → List Value
  | [] => []
  | x :: xs => x.mapReferences view builder :: mapItems view builder xs

/-- The entries with their references replaced. -/
def mapFields (view : Source → Value → Value) (builder : Nat → Nat) :
    List (Value × Value) → List (Value × Value)
  | [] => []
  | (key, x) :: rest =>
    (key.mapReferences view builder, x.mapReferences view builder) :: mapFields view builder rest

end

namespace Value

/-- A value that refers to other builders instead; its views have to be looked at again. -/
def rename (σ : Nat → Nat) : Value → Value :=
  mapReferences (fun source seen => .view (source.rename σ) seen) σ

/-- A value with its views looked at again. -/
def renew (look : Source → Value) : Value → Value :=
  mapReferences (fun source _ => look source) id

end Value

/-! ## Resolving -/

mutual

/-- A value with its views replaced by what is found for them, if there is something. -/
def Value.resolve (find : Source → Except Error Value) : Value → Except Error Value
  | .list xs => do return .list (← resolveItems find xs)
  | .tuple xs => do return .tuple (← resolveItems find xs)
  | .map fs => do return .map (← resolveFields find fs)
  | .writeResult changes lastId => do
    let changes ← changes.resolve find
    return .writeResult changes (← lastId.resolve find)
  | .queryResult data affected lastId => do
    let data ← data.resolve find
    let affected ← affected.resolve find
    return .queryResult data affected (← lastId.resolve find)
  | .object attributes => do return .object (← resolveFields find attributes)
  | .statement sql bindings => do return .statement sql (← resolveItems find bindings)
  | .record kind fields => do return .record kind (← resolveFields find fields)
  | .view source _ => find source
  | v => .ok v

/-- The items with their views replaced. -/
def resolveItems (find : Source → Except Error Value) : List Value → Except Error (List Value)
  | [] => .ok []
  | x :: xs => do
    let y ← x.resolve find
    return y :: (← resolveItems find xs)

/-- The entries with the views in their values replaced. -/
def resolveFields (find : Source → Except Error Value) :
    List (Value × Value) → Except Error (List (Value × Value))
  | [] => .ok []
  | (key, x) :: rest => do
    let y ← x.resolve find
    return (key, y) :: (← resolveFields find rest)

end

end FluentSql
