import FluentSql.Builder
import FluentSql.Descriptor.Record
import FluentSql.Descriptor.Values
import FluentSql.Value.Reference

set_option autoImplicit false

/-!
# What a builder's query shows

Whoever is handed the query of a builder sees it grow: the query is a view, and so are those of its
lists that grow where they stand. A select list that another one took the place of stays as it
was then.

## Main definitions

* `FluentSql.Builder.contents` — what a source at a builder shows.
* `FluentSql.Builder.references` — the builders that the query of a builder refers to.
* `FluentSql.Builder.twin` — a clone that refers to other builders instead.
-/

namespace FluentSql.Builder

/-- The lists of a query that grow where they stand. -/
def growingLists : List String :=
  ["select_columns", "where_clauses", "having_clauses", "joins", "order_clauses", "aggregates",
    "union_parts"]

/-- The edition of a list: how many there were before it. -/
def edition (b : Builder) (field : String) : Nat :=
  if field == "select_columns" then b.formerColumns.length else 0

/-- A field of the record of a builder's query; a list that grows is a view. -/
def recordField (b : Builder) (id : Nat) : Value × Value → Value × Value
  | (.text field, v) =>
    if growingLists.contains field then
      (.text field, .view (.part id field (b.edition field)) v)
    else (.text field, v)
  | entry => entry

/-- The record of the query of the builder of a number. -/
def toRecord (b : Builder) (id : Nat) : Value :=
  match b.descriptor.toRecord with
  | .record kind fields => .record kind (fields.map (b.recordField id))
  | v => v

/-- A list of a builder's query, as it is or as it was when another one took its place. -/
def part (b : Builder) (field : String) (edition : Nat) : Value :=
  match b.descriptor.toRecord, b.formerColumns[edition]? with
  | .record _ fields, none => Fields.value fields field
  | .record _ fields, some columns =>
    if field == "select_columns" then .list columns else Fields.value fields field
  | _, _ => .null

/-- What a source at a builder shows. -/
def contents (b : Builder) : Source → Value
  | .query id => b.toRecord id
  | .part _ field edition => b.part field edition

/-- The number of sources at a builder. -/
def sourceCount (b : Builder) : Nat := 1 + growingLists.length + b.formerColumns.length

/-- The builders that the query of a builder refers to. -/
def references (b : Builder) : List Nat :=
  (b.descriptor.values ++ b.formerColumns.flatten).flatMap Value.references

/-- A clone that refers to other builders instead. -/
def twin (b : Builder) (σ : Nat → Nat) : Builder :=
  { b.clone with
    descriptor := b.descriptor.mapValues (Value.rename σ)
    formerColumns := b.formerColumns.map fun columns => columns.map (Value.rename σ) }

end FluentSql.Builder
