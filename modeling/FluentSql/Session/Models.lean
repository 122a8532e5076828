import FluentSql.Session.Calling

set_option autoImplicit false

/-!
# Models

A model is a record of a table: a mapping of attributes. Saving updates the row with the record's
identifier, or inserts a new row and keeps the identifier generated for it. Only writable
attributes are filled in and saved: the fillable ones if any are named, else all but the guarded
ones.

## Main definitions

* `FluentSql.ModelClass.writable` — the writable part of a mapping.
* `FluentSql.Act.fill`, `FluentSql.Act.save`, `FluentSql.Act.destroy` — the calls on models.
-/

namespace FluentSql

namespace ModelClass

/-- The writable part of attributes: what stands under the fillable names that are found in them,
or else, if no name is fillable, every entry that is not guarded. -/
def writable (c : ModelClass) (attributes : Value) : Except Error Fields := do
  if c.fillable.isEmpty then
    let entries ← attributes.fields "items"
    return entries.filter fun p => !(c.guarded.map Value.text).any p.1.agrees
  let found ← (c.fillable.map Value.text).filterM attributes.contains
  return Fields.ofPairs (← found.mapM fun key => return (key, ← attributes.subscript key))

end ModelClass

namespace Model

/-- The identifier of a record, null if it has none. -/
def id (m : Model) : Value := Fields.value m.attributes "id"

/-- An attribute of a record as an object, or one of the things known about it. -/
def property (m : Model) : String → Except Error Value
  | "attributes" => .ok (.map m.attributes)
  | "id" => .ok m.id
  | "table_name" => .ok (.text m.kind.table)
  | _ => .error .missingAttribute

/-- The text that shows a record. -/
def describe (m : Model) : String :=
  m.kind.name ++ "(" ++ (Value.map m.attributes).quoted ++ ")"

end Model

namespace Act

/-- The model of a number. -/
def getModel (id : Nat) : Act Model := do
  match (← get).models.get? id with
  | some m => return m
  | none => fail .missingKey

/-- Changes the model of a number. -/
def changeModel (id : Nat) (change : Model → Model) : Act Unit :=
  modify fun s => { s with models := s.models.modify id change }

/-- Puts the writable part of a mapping into a record. -/
def fill (id : Nat) (attributes : Value) : Act Unit := do
  let written ← of ((← getModel id).kind.writable (← current attributes))
  changeModel id fun m => { m with attributes := m.attributes.merge written }

/-- A builder for the table of a class, routed to its banks. -/
def classQuery (c : ModelClass) (dialect : Option String) : Act Nat := do
  let b ← addBuilder (.new c.table { dialect })
  if !c.banks.isEmpty then chain b .bank [("names", .list c.banks)]
  return b

/-- The name of the dialect that is meant by a value; what is no text is the name of none. -/
def dialectName : Value → Option String
  | .null => none
  | .text name => some name
  | _ => some ""

/-- A builder for the table of a class, with options by name. -/
def classQueryWith (c : ModelClass) (options : Arguments) : Act Nat := do
  if !options.fit ["dialect", "config", "events", "simulation"] then fail .wrongType
  classQuery c (dialectName (options.valueOr "dialect" .null))

/-- A builder for the table of a record, routed to the record's own banks if it has any. -/
def recordQuery (m : Model) : Act Nat := do
  let b ← classQuery m.kind none
  if !m.banks.isEmpty then chain b .bank [("names", .list m.banks)]
  return b

/-- Restricts a builder to the row of an identifier. -/
def restrictToId (builder : Nat) (key : Value) : Act Unit :=
  chain builder .where_ [("column", .text "id"), ("operator", .text "="), ("value", key)]

/-- Updates the row of a record, or inserts a new row and keeps the identifier generated. -/
def save (id : Nat) : Act WriteResult := do
  let m ← getModel id
  let values ← of (m.kind.writable (.map m.attributes))
  let b ← recordQuery m
  if m.id.truthy then
    restrictToId b m.id
    chain b .update [("values", .map values)]
    make b
  else
    chain b .insert [("rows", .map values)]
    let result ← make b
    if result.lastId.truthy then
      changeModel id fun m =>
        { m with attributes := Fields.set m.attributes "id" result.lastId }
    return result

/-- Deletes the row of a record. -/
def destroy (id : Nat) : Act WriteResult := do
  let m ← getModel id
  let b ← recordQuery m
  restrictToId b m.id
  chain b .delete []
  make b

/-- Routes the writes of a record to banks of its own. -/
def routeModel (id : Nat) (names : Value) : Act Unit := do
  let banks ← of names.oneOrMany
  changeModel id fun m => { m with banks }

/-- Sets an attribute of a record. -/
def setItem (id : Nat) (key value : Value) : Act Unit := do
  let attributes ← of ((← getModel id).attributes.put key value)
  changeModel id fun m => { m with attributes }

/-- An attribute of a record, which has to be there. -/
def getItem (id : Nat) (key : Value) : Act Value := do
  of ((← getModel id).attributes.entry key)

/-- The class of a model by name. -/
def classNamed (name : String) : Act ModelClass := do
  match (← get).classes.find? (·.1 == name) with
  | some (_, c) => return c
  | none => fail .missingKey

/-- Adds a class, in place of the one that had the name. -/
def addClass (kind : ModelClass) : Act Unit :=
  modify fun s =>
    { s with classes := (kind.name, kind) :: s.classes.filter (·.1 != kind.name) }

/-- Adds a record under a name, with attributes as they are given. The receiver of the call already
has a name, which is no attribute. -/
def addModel (name : String) (kind : ModelClass) (attributes : Arguments) : Act Unit := do
  let attributes := Fields.ofPairs (attributes.map fun (name, v) => (.text name, v))
  if attributes.has "self" then fail .wrongType
  modify fun s => { s with models := s.models.addNamed name { kind, attributes } }

/-- Makes a call on a model. -/
def modelRequest (id : Nat) (request : ModelRequest) (args : Arguments) :
    Act Answer := do
  match request with
  | .fill =>
    fill id (← of (args.value "attributes"))
    return .itself
  | .writable =>
    let kind := (← getModel id).kind
    return .value (.map (← of (kind.writable (← of (args.value "attributes")))))
  | .save => return .value (← save id).toValue
  | .delete => return .value (← destroy id).toValue
  | .bank =>
    routeModel id (← of (args.value "names"))
    return .itself
  | .describe =>
    let m ← getModel id
    let shown := { m with attributes := ← of (← current (.map m.attributes)).toFields }
    return .value (.text shown.describe)
  | .setItem =>
    setItem id (← of (args.value "key")) (← of (args.value "value"))
    return .value .null
  | .getItem => return .value (← getItem id (← of (args.value "key")))
  | .query =>
    let kind := (← getModel id).kind
    return .value (.builder (← classQueryWith kind args) kind.table)

end Act

end FluentSql
