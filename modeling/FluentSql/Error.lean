import FluentSql.Value.Display

set_option autoImplicit false

/-!
# Errors

Every way in which a call can fail, by its cause. Three families: errors of the library itself,
which have a message; the rejection of a record, which lists what is wrong where; and failures of
an operation on values that do not admit it.

## Main definitions

* `FluentSql.Issue` — one thing wrong with a record: where and what.
* `FluentSql.Error` — the causes.
* `FluentSql.Error.message?` — the message of the errors that have one.
-/

namespace FluentSql

/-- A step on the way to a part of a record. -/
inductive Location where
  | field (name : String)
  | index (i : Nat)
  deriving DecidableEq, Repr, Inhabited

/-- What can be wrong with a part of a record. -/
inductive Problem where
  | missing
  | extraForbidden
  | stringType
  | stringUnicode
  | literalError
  | listType
  | modelType
  | modelAttributesType
  | unionTagNotFound
  | unionTagInvalid
  | tupleType
  | tooLong
  | intParsing
  | intParsingSize
  | intFromFloat
  | finiteNumber
  | intType
  | boolParsing
  | boolType
  deriving DecidableEq, Repr, Inhabited

/-- The code word of a problem. -/
def Problem.code : Problem → String
  | .missing => "missing"
  | .extraForbidden => "extra_forbidden"
  | .stringType => "string_type"
  | .stringUnicode => "string_unicode"
  | .literalError => "literal_error"
  | .listType => "list_type"
  | .modelType => "model_type"
  | .modelAttributesType => "model_attributes_type"
  | .unionTagNotFound => "union_tag_not_found"
  | .unionTagInvalid => "union_tag_invalid"
  | .tupleType => "tuple_type"
  | .tooLong => "too_long"
  | .intParsing => "int_parsing"
  | .intParsingSize => "int_parsing_size"
  | .intFromFloat => "int_from_float"
  | .finiteNumber => "finite_number"
  | .intType => "int_type"
  | .boolParsing => "bool_parsing"
  | .boolType => "bool_type"

/-- One thing wrong with a record. -/
structure Issue where
  location : List Location
  problem : Problem
  deriving DecidableEq, Repr, Inhabited

/-- The causes of failure. -/
inductive Error where
  /-- No executor serves the table, or the one that does lacks a capability. -/
  | noExecutor (table : String) (banks : List Value) (capability : Option String)
  /-- The registry of databases has no entry of that name. -/
  | unknownDatabase (name : Value) (registered : List String)
  /-- There is no write to execute. -/
  | noPendingAction
  /-- A write that needs a predicate has none. -/
  | missingWhere (action : String)
  /-- The queued write is of no known kind. -/
  | unsupportedAction (action : String)
  /-- An INSERT without a non-empty first row. -/
  | emptyInsert
  /-- An UPDATE that sets nothing. -/
  | emptyUpdate
  /-- No dialect is registered under the name. -/
  | unsupportedDialect (name : Option String) (registered : List String)
  /-- A predicate of no known kind, in a WHERE or a HAVING list. -/
  | unsupportedClause (kind part : String)
  /-- A record was rejected. -/
  | invalid (issues : List Issue)
  /-- Raised by an executor, a listener or a seeder. -/
  | raised (text : String)
  /-- An operation does not exist for values of this kind. -/
  | wrongType
  /-- An operation exists for the kind but not for this value. -/
  | wrongValue
  /-- A key is not among those of a mapping. -/
  | missingKey
  /-- A sequence has no such position. -/
  | outOfRange
  /-- A value has no such attribute. -/
  | missingAttribute
  /-- A number is out of range. -/
  | overflow
  /-- Listeners or functions called each other too deeply. -/
  | tooDeep
  /-- Something cannot be awaited while something else is. -/
  | busy
  deriving Inhabited

namespace Error

/-- The message of an error of the library; the other errors have none. -/
def message? : Error → Option String
  | .noExecutor _ _ capability =>
    let lacks := match capability with
      | some name => if name == "" then "" else " (executor lacks '" ++ name ++ "')"
      | none => ""
    some ("No executor configured for QueryKit" ++ lacks)
  | .unknownDatabase name registered =>
    some ("Database '" ++ name.display ++ "' not found. Registered: " ++
      Value.quotedTexts registered ++ ".")
  | .noPendingAction =>
    some ("No pending write action to execute. " ++
      "Call insert(), update(), or delete() before .make()")
  | .missingWhere action =>
    some ((if action == "delete" then "Delete" else "Update") ++
      " operations must have a WHERE clause.")
  | .unsupportedAction action => some ("Unsupported pending action: " ++ action)
  | .emptyInsert => some "INSERT requires at least one non-empty row."
  | .emptyUpdate => some "UPDATE requires at least one column to set."
  | .unsupportedDialect name registered =>
    some ("Unsupported dialect: '" ++ name.getD "None" ++ "'. Registered dialects: " ++
      Value.quotedTexts registered ++ ".")
  | .unsupportedClause kind _ => some ("Unsupported where clause type: '" ++ kind ++ "'.")
  | .raised text => some text
  | _ => none

/-- The part of a statement that a compilation error is about. -/
def clause? : Error → Option String
  | .emptyInsert => some "VALUES"
  | .emptyUpdate => some "SET"
  | .unsupportedClause _ part => some part
  | _ => none

end Error

end FluentSql
