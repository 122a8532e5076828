import FluentSql.Checked
import FluentSql.Descriptor

set_option autoImplicit false

/-!
# Validation of descriptors

Reads predicates, parts of unions and whole descriptors from plain mappings. A predicate is told
by its `type`; a record takes no fields but its own; fields that are absent get their defaults.
An object may show by an attribute which predicate it means to be, but is none. The same readers
check a single predicate when it is added to a query.

## Main definitions

* `FluentSql.Validation.basic`, …, `FluentSql.Validation.exist` — the predicates.
* `FluentSql.Descriptor.ofValue` — a whole descriptor, or all its issues.
-/

namespace FluentSql

namespace Validation

open Checked

/-! ## Flat records -/

/-- The connective field of a predicate. -/
def logical (fs : Fields) : Checked Connective :=
  optional fs "logical" .and (word Connective.ofKeyword?)

/-- The negation field of a predicate. -/
def negated (fs : Fields) : Checked Bool := optional fs "negated" false truth

/-- Reads a comparison of a column with a bound value. -/
def basic (fs : Fields) : Checked Predicate :=
  closed ["type", "column", "operator", "value", "logical"] fs <|
    Predicate.basic <$> required fs "column" text
      <*> required fs "operator" (word Operator.ofKeyword?)
      <*> optional fs "value" .null anything
      <*> logical fs

/-- Reads a comparison of two columns. -/
def column (fs : Fields) : Checked Predicate :=
  closed ["type", "column", "operator", "other_column", "logical"] fs <|
    Predicate.column <$> required fs "column" text
      <*> required fs "operator" (word Operator.ofKeyword?)
      <*> required fs "other_column" text
      <*> logical fs

/-- Reads verbatim SQL with its bound values. -/
def raw (fs : Fields) : Checked Predicate :=
  closed ["type", "sql", "bindings", "logical"] fs <|
    Predicate.raw <$> required fs "sql" text
      <*> optional fs "bindings" [] (sequence anything)
      <*> logical fs

/-- Reads a membership in a list of bound values. -/
def member (fs : Fields) : Checked Predicate :=
  closed ["type", "column", "values", "negated", "logical"] fs <|
    Predicate.member <$> required fs "column" text
      <*> optional fs "values" [] (sequence anything)
      <*> negated fs
      <*> logical fs

/-- Reads a test for null. -/
def null (fs : Fields) : Checked Predicate :=
  closed ["type", "column", "negated", "logical"] fs <|
    Predicate.null <$> required fs "column" text
      <*> negated fs
      <*> logical fs

/-- Reads a range between two bound values. -/
def between (fs : Fields) : Checked Predicate :=
  closed ["type", "column", "bounds", "negated", "logical"] fs <|
    (fun name (bounds : Value × Value) => Predicate.between name bounds.1 bounds.2)
      <$> required fs "column" text
      <*> required fs "bounds" two
      <*> negated fs
      <*> logical fs

/-- Reads a join. -/
def join (fs : Fields) : Checked Join :=
  closed ["type", "table", "on"] fs <|
    Join.mk <$> optional fs "type" .inner (word JoinKind.ofKeyword?)
      <*> required fs "table" text
      <*> required fs "on" text

/-- Reads a sort key. -/
def sortKey (fs : Fields) : Checked SortKey :=
  closed ["column", "direction"] fs <|
    SortKey.mk <$> required fs "column" text
      <*> optional fs "direction" .asc (word Direction.ofKeyword?)

/-- Reads an aggregate. -/
def aggregate (fs : Fields) : Checked Aggregate :=
  closed ["func", "column", "alias"] fs <|
    Aggregate.mk <$> required fs "func" (word AggregateFunction.ofKeyword?)
      <*> required fs "column" text
      <*> required fs "alias" text

/-- Reads a queued write. -/
def pendingAction (fs : Fields) : Checked PendingAction :=
  closed ["type", "data"] fs <|
    PendingAction.mk <$> required fs "type" text
      <*> optional fs "data" .null anything

/-- Reads a verbatim fragment. -/
def fragment (fs : Fields) : Checked Value :=
  closed ["sql"] fs (Value.raw <$> required fs "sql" text)

/-- Reads an item of a select list: a text, or else a fragment; if it is neither, the issues of
both readings are reported. -/
def selectItem (v : Value) : Checked Value :=
  match v with
  | .raw sql => .accepted (.raw sql)
  | v =>
    match text v with
    | .accepted s => .accepted (.text s)
    | .rejected asText =>
      match mapping .modelType fragment v with
      | .accepted item => .accepted item
      | .rejected asFragment =>
        .rejected (located (.field "str") asText ++ located (.field "RawExpression") asFragment)

/-! ## Nested records -/

/-- What the fields that hold nested records have been read as. -/
inductive Nested where
  | plain
  | predicates (read : Checked (List Predicate))
  | parts (read : Checked (List UnionPart))
  | query (read : Checked Descriptor)

/-- The nested field of a name, read as a list of predicates. -/
def nestedPredicates (nested : List (String × Nested)) (name : String) :
    Option (Checked (List Predicate)) :=
  match nested.find? (·.1 == name) with
  | some (_, .predicates read) => some read
  | _ => none

/-- The nested field of a name, read as parts of a union. -/
def nestedParts (nested : List (String × Nested)) (name : String) :
    Option (Checked (List UnionPart)) :=
  match nested.find? (·.1 == name) with
  | some (_, .parts read) => some read
  | _ => none

/-- The nested field of a name, read as a query. -/
def nestedQuery (nested : List (String × Nested)) (name : String) : Option (Checked Descriptor) :=
  match nested.find? (·.1 == name) with
  | some (_, .query read) => some read
  | _ => none

/-- Reads a test for the existence of a row; the query in it has been read already. -/
def exist (fs : Fields) (nested : List (String × Nested)) : Checked Predicate :=
  closed ["type", "subquery", "negated", "logical"] fs <|
    Predicate.exist <$> requiredRead "subquery" (nestedQuery nested "subquery")
      <*> negated fs
      <*> logical fs

/-- Reads a part of a union; the query in it has been read already. -/
def unionPart (fs : Fields) (nested : List (String × Nested)) : Checked UnionPart :=
  closed ["type", "query"] fs <|
    UnionPart.mk <$> optional fs "type" .union (word SetOperator.ofKeyword?)
      <*> requiredRead "query" (nestedQuery nested "query")

/-- The tags of predicates. -/
def predicateTags : List String := ["basic", "column", "raw", "in", "null", "between", "exists"]

/-- The attributes of an object that may tell what predicate it is; plain data is no object. -/
def attributes? : Value → Option Fields
  | .object attributes => some attributes
  | .raw _ | .writeResult .. | .queryResult .. | .builder .. | .view (.query _) _ => some []
  | _ => none

/-- What is looked up in the place of a predicate that is no mapping: the attributes of an object,
or of an object that comes in a pair with a mapping, which goes before. -/
def lookedUp? : Value → Option Fields
  | .tuple [v, .map fs] => (attributes? v).map (fs ++ ·)
  | v => attributes? v

/-- Rejects what is no mapping in the place of a predicate. -/
def notPredicate (v : Value) : Checked Predicate :=
  match lookedUp? v with
  | none => reject .modelAttributesType
  | some found =>
    match Fields.get? found "type" with
    | none => reject .unionTagNotFound
    | some (.text tag) =>
      if predicateTags.contains tag then under (.field tag) (reject .modelType)
      else reject .unionTagInvalid
    | some _ => reject .unionTagInvalid

/-- Reads a predicate, told by its tag; the issues stand under the tag. -/
def predicate (fs : Fields) (nested : List (String × Nested)) : Checked Predicate :=
  match Fields.get? fs "type" with
  | none => reject .unionTagNotFound
  | some (.text tag) =>
    match tag with
    | "basic" => under (.field tag) (basic fs)
    | "column" => under (.field tag) (column fs)
    | "raw" => under (.field tag) (raw fs)
    | "in" => under (.field tag) (member fs)
    | "null" => under (.field tag) (null fs)
    | "between" => under (.field tag) (between fs)
    | "exists" => under (.field tag) (exist fs nested)
    | _ => reject .unionTagInvalid
  | some _ => reject .unionTagInvalid

/-- The value of an integer that may be absent. -/
def integerOrNull (v : Value) : Checked Value :=
  (nullable integer v).map fun n => (n.map Value.int).getD .null

/-- The value of a text that may be absent. -/
def textOrNull (v : Value) : Checked Value :=
  (nullable text v).map fun s => (s.map Value.text).getD .null

/-- Reads a descriptor; the records nested in it have been read already. -/
def descriptor (fs : Fields) (nested : List (String × Nested)) : Checked Descriptor :=
  closed ["table", "alias", "select_columns", "where_clauses", "having_clauses", "joins",
      "order_clauses", "group_by_columns", "limit_value", "offset_value", "is_distinct",
      "aggregates", "union_parts", "pending_action", "target_banks"] fs <|
    Descriptor.mk <$> required fs "table" text
      <*> optional fs "alias" .null textOrNull
      <*> optional fs "select_columns" [.text "*"] (sequence selectItem)
      <*> optionalRead "where_clauses" [] (nestedPredicates nested "where_clauses")
      <*> optionalRead "having_clauses" [] (nestedPredicates nested "having_clauses")
      <*> optional fs "joins" [] (sequence (mapping .modelType join))
      <*> optional fs "order_clauses" [] (sequence (mapping .modelType sortKey))
      <*> optional fs "group_by_columns" [] (sequence text)
      <*> optional fs "limit_value" .null integerOrNull
      <*> optional fs "offset_value" .null integerOrNull
      <*> optional fs "is_distinct" false truth
      <*> optional fs "aggregates" [] (sequence (mapping .modelType aggregate))
      <*> optionalRead "union_parts" [] (nestedParts nested "union_parts")
      <*> optional fs "pending_action" none (nullable (mapping .modelType pendingAction))
      <*> optional fs "target_banks" none
        (nullable (sequence fun v => (text v).map Value.text))

mutual

/-- Reads the fields that hold nested records, told by their names. -/
def nestedEntries : List (Value × Value) → List (String × Nested)
  | [] => []
  | (.text name, v) :: rest =>
    let read : Nested :=
      match name with
      | "where_clauses" | "having_clauses" => .predicates (predicates v)
      | "union_parts" => .parts (unionParts v)
      | "subquery" | "query" => .query (query v)
      | _ => .plain
    (name, read) :: nestedEntries rest
  | _ :: rest => nestedEntries rest

/-- Reads a list of predicates. -/
def predicates : Value → Checked (List Predicate)
  | .list xs | .tuple xs => predicatesFrom 0 xs
  | .raw _ => under (.index 0) (reject .modelAttributesType)
  | _ => reject .listType

/-- Reads predicates, numbered from `i`. -/
def predicatesFrom (i : Nat) : List Value → Checked (List Predicate)
  | [] => .accepted []
  | .map fs :: xs =>
    (under (.index i) (predicate fs (nestedEntries fs))).map List.cons
      |>.ap fun _ => predicatesFrom (i + 1) xs
  | x :: xs =>
    (under (.index i) (notPredicate x)).map List.cons
      |>.ap fun _ => predicatesFrom (i + 1) xs

/-- Reads a list of parts of a union. -/
def unionParts : Value → Checked (List UnionPart)
  | .list xs | .tuple xs => unionPartsFrom 0 xs
  | .raw _ => under (.index 0) (reject .modelType)
  | _ => reject .listType

/-- Reads parts of a union, numbered from `i`. -/
def unionPartsFrom (i : Nat) : List Value → Checked (List UnionPart)
  | [] => .accepted []
  | .map fs :: xs =>
    (under (.index i) (unionPart fs (nestedEntries fs))).map List.cons
      |>.ap fun _ => unionPartsFrom (i + 1) xs
  | _ :: xs =>
    (under (.index i) (reject .modelType)).map List.cons
      |>.ap fun _ => unionPartsFrom (i + 1) xs

/-- Reads a query. -/
def query : Value → Checked Descriptor
  | .map fs => descriptor fs (nestedEntries fs)
  | _ => reject .modelType

end

end Validation

/-- Reads a descriptor from a plain mapping. -/
def Descriptor.ofValue (v : Value) : Checked Descriptor := Validation.query v

end FluentSql
