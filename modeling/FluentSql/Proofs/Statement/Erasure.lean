import FluentSql.Proofs.Statement.Chunks
import FluentSql.Statement.Write

set_option autoImplicit false

/-!
# Bound values do not reach the text

What a query binds can be erased: every bound value becomes the same mark, at any depth of nesting,
and nothing else changes. How many values a predicate binds stays, and so does whether there is a
limit or an offset. A query and its erasure compile to the same text, or fail with the same error;
so two queries that differ in bound values alone compile to the same text, whatever the values are.

## Main definitions

* `FluentSql.Descriptor.erased` — a query with its bound values erased.
* `FluentSql.WriteStatement.texts` — the text of a write and that of its predicate.

## Main results

* `FluentSql.Descriptor.chunks_erased` — the chunks of an erased query are the erased chunks.
* `FluentSql.insertStatement_texts` — the text of an INSERT.
* `FluentSql.Descriptor.sql_eq_of_erased_eq` — queries and writes that differ in bound values alone.
-/

namespace FluentSql

/-! ## Erasing bound values -/

/-- What stands for every bound value that was erased. -/
def Value.mark : Value := .bool true

/-- A limit or an offset, erased: it is there or it is not. -/
def Value.erasedLimit (v : Value) : Value := if v.isNull then .null else .mark

/-- Values that were erased: there are as many of them. -/
def erasedValues (vs : List Value) : List Value := vs.map fun _ => .mark

mutual

/-- A predicate with its bound values erased. -/
def Predicate.erased : Predicate → Predicate
  | .basic column operator _ logical => .basic column operator .mark logical
  | .column column operator other logical => .column column operator other logical
  | .raw sql bindings logical => .raw sql (erasedValues bindings) logical
  | .member column values negated logical => .member column (erasedValues values) negated logical
  | .null column negated logical => .null column negated logical
  | .between column _ _ negated logical => .between column .mark .mark negated logical
  | .exist query negated logical => .exist query.erased negated logical
  | .unknown kind => .unknown kind

/-- Predicates with their bound values erased. -/
def erasedPredicates : List Predicate → List Predicate
  | [] => []
  | p :: ps => p.erased :: erasedPredicates ps

/-- Parts of a union with their bound values erased. -/
def erasedUnions : List UnionPart → List UnionPart
  | [] => []
  | ⟨operator, query⟩ :: parts => ⟨operator, query.erased⟩ :: erasedUnions parts

/-- A query with its bound values erased, and its queued write with them. -/
def Descriptor.erased : Descriptor → Descriptor
  | { table, tableAlias, columns, wheres, havings, joins, order, groups, limit, offset, distinct,
      aggregates, unions, pending := _, banks } => {
    table, tableAlias, columns, joins, order, groups, distinct, aggregates, banks
    wheres := erasedPredicates wheres
    havings := erasedPredicates havings
    limit := limit.erasedLimit
    offset := offset.erasedLimit
    unions := erasedUnions unions
    pending := none }

end

@[simp] theorem Value.isNull_mark : Value.mark.isNull = false := rfl

@[simp] theorem Value.isNull_erasedLimit (v : Value) : v.erasedLimit.isNull = v.isNull := by
  cases v <;> rfl

/-- A limit that is there is erased to the mark. -/
theorem Value.erasedLimit_of_isNull_eq_false {v : Value} (h : v.isNull = false) :
    v.erasedLimit = .mark := by
  simp [Value.erasedLimit, h]

@[simp] theorem isEmpty_erasedValues (vs : List Value) :
    (erasedValues vs).isEmpty = vs.isEmpty := by
  cases vs <;> rfl

@[simp] theorem Predicate.logical_erased (p : Predicate) : p.erased.logical = p.logical := by
  cases p <;> rfl

namespace Descriptor

@[simp] theorem table_erased (d : Descriptor) : d.erased.table = d.table := by
  cases d; rfl

@[simp] theorem wheres_erased (d : Descriptor) : d.erased.wheres = erasedPredicates d.wheres := by
  cases d; rfl

@[simp] theorem order_erased (d : Descriptor) : d.erased.order = d.order := by
  cases d; rfl

@[simp] theorem limit_erased (d : Descriptor) : d.erased.limit = d.limit.erasedLimit := by
  cases d; rfl

@[simp] theorem offset_erased (d : Descriptor) : d.erased.offset = d.offset.erasedLimit := by
  cases d; rfl

/-- A query is still a union once its bound values are erased, and no other is. -/
@[simp] theorem isEmpty_unions_erased (d : Descriptor) :
    d.erased.unions.isEmpty = d.unions.isEmpty := by
  obtain ⟨_, _, _, _, _, _, _, _, _, _, _, _, unions, _, _⟩ := d
  rw [Descriptor.erased]
  rcases unions with _ | ⟨⟨operator, query⟩, parts⟩ <;> rfl

end Descriptor

/-! ## Erased chunks -/

namespace Chunk

/-- A chunk with its bound values erased. -/
def erased : Chunk → Chunk
  | .text s => .text s
  | .value _ => .value .mark
  | .verbatim sql bindings => .verbatim sql (erasedValues bindings)

/-- Erasing chunks does not change their text. -/
@[simp] theorem allSql_map_erased (cs : List Chunk) : allSql (cs.map erased) = allSql cs := by
  induction cs with
  | nil => rfl
  | cons c cs ih => cases c <;> simp [erased, sql, ih]

@[simp] theorem map_erased_separated (separator : String) (parts : List (List Chunk)) :
    (separated separator parts).map erased = separated separator (parts.map (·.map erased)) := by
  induction parts with
  | nil => rfl
  | cons p ps ih =>
    cases ps with
    | nil => simp
    | cons q qs =>
      rw [separated_cons_cons, List.map_append, List.map_cons, ih]
      simp only [List.map_cons, separated_cons_cons, erased]

@[simp] theorem map_erased_texts (ss : List String) :
    (texts ss).map (·.map erased) = texts ss := by
  simp [texts, erased]

@[simp] theorem map_erased_clause (keyword : String) (parts : List (List Chunk)) :
    (clause keyword parts).map (·.map erased) = clause keyword (parts.map (·.map erased)) := by
  cases parts with
  | nil => rfl
  | cons p ps => simp [clause, erased]

@[simp] theorem map_erased_values (vs : List Value) :
    (values vs).map erased = values (erasedValues vs) := by
  simp [values, erasedValues, erased, Function.comp_def]

end Chunk

/-- What follows an erased query is what follows the query, erased. -/
theorem Descriptor.closeChunks_erased (d : Descriptor) (body : List Chunk) :
    d.erased.closeChunks (body.map Chunk.erased) = (d.closeChunks body).map Chunk.erased := by
  cases hl : d.limit.isNull <;> cases ho : d.offset.isNull <;>
    simp [Descriptor.closeChunks, Descriptor.endParts, hl, ho, Chunk.erased,
      Value.erasedLimit_of_isNull_eq_false]

mutual

/-- The chunks of an erased predicate are those of the predicate, erased. -/
theorem Predicate.chunks_erased (part : String) :
    (p : Predicate) → p.erased.chunks part = (p.chunks part).map (·.map Chunk.erased)
  | .basic .. | .column .. | .raw .. | .null .. | .between .. | .unknown _ => rfl
  | .member _ values _ _ => by
    cases h : values.isEmpty <;>
      simp [Predicate.erased, Predicate.chunks, h, Chunk.erased, Except.map]
  | .exist query negated _ => by
    rw [Predicate.erased, Predicate.chunks, Predicate.chunks, query.bodyChunks_erased]
    cases query.bodyChunks with
    | error e => rfl
    | ok body => simp [Except.map, bind, Except.bind, pure_eq_ok, query.closeChunks_erased,
        Chunk.erased]

/-- The parts of erased predicates are those of the predicates, erased. -/
theorem predicateParts_erased (part : String) (first : Bool) :
    (ps : List Predicate) → predicateParts part first (erasedPredicates ps) =
      (predicateParts part first ps).map (·.map (·.map Chunk.erased))
  | [] => rfl
  | p :: ps => by
    rw [erasedPredicates, predicateParts, predicateParts, p.chunks_erased part,
      predicateParts_erased part false ps]
    cases p.chunks part with
    | error e => rfl
    | ok chunks =>
      cases predicateParts part false ps with
      | error e => rfl
      | ok parts =>
        cases first <;> simp [Except.map, bind, Except.bind, pure_eq_ok, Chunk.erased]

/-- The chunks of erased parts of a union are those of the parts, erased. -/
theorem unionChunks_erased :
    (parts : List UnionPart) → unionChunks (erasedUnions parts) =
      (unionChunks parts).map (·.map (·.map Chunk.erased))
  | [] => rfl
  | ⟨operator, query⟩ :: parts => by
    rw [erasedUnions, unionChunks, unionChunks, query.bodyChunks_erased, unionChunks_erased parts]
    cases query.bodyChunks with
    | error e => rfl
    | ok body =>
      cases unionChunks parts with
      | error e => rfl
      | ok rest =>
        cases h : query.unions.isEmpty <;>
          simp [Except.map, bind, Except.bind, pure_eq_ok, Chunk.erased, h]

/-- The chunks of the body of an erased query are those of its body, erased. -/
theorem Descriptor.bodyChunks_erased :
    (d : Descriptor) → d.erased.bodyChunks = d.bodyChunks.map (·.map Chunk.erased)
  | { table, tableAlias, columns, wheres, havings, joins, order, groups, limit, offset, distinct,
      aggregates, unions, pending, banks } => by
    rw [Descriptor.erased, Descriptor.bodyChunks, Descriptor.bodyChunks,
      predicateParts_erased "WHERE" true wheres, predicateParts_erased "HAVING" true havings,
      unionChunks_erased unions]
    cases predicateParts "WHERE" true wheres with
    | error e => rfl
    | ok predicates =>
      cases predicateParts "HAVING" true havings with
      | error e => rfl
      | ok conditions =>
        cases unionChunks unions with
        | error e => rfl
        | ok parts => simp [Except.map, bind, Except.bind, pure_eq_ok]

end

/-- The chunks of an erased query are those of the query, erased: how a query is compiled does not
depend on the values that it binds.

**Proof sketch.** Part by part of the query, and through the queries that are nested in it.
Compiling looks at how many values there are, never at what they are. -/
theorem Descriptor.chunks_erased (d : Descriptor) :
    d.erased.chunks = d.chunks.map (·.map Chunk.erased) := by
  rw [Descriptor.chunks, Descriptor.chunks, d.bodyChunks_erased]
  cases d.bodyChunks with
  | error e => rfl
  | ok body => simp [Except.map, d.closeChunks_erased]

/-! ## Texts of statements -/

/-- The text of a SELECT does not depend on what the query binds. -/
theorem Descriptor.select_sql_erased (d : Descriptor) :
    d.erased.select.map Statement.sql = d.select.map Statement.sql := by
  rw [d.erased.select_eq_map_chunks, d.select_eq_map_chunks, d.chunks_erased]
  cases d.chunks with
  | error e => rfl
  | ok cs => simp [Except.map, Statement.ofChunks]

/-- The text of a predicate list does not depend on what it binds. -/
theorem whereStatement_sql_erased (ps : List Predicate) :
    (whereStatement (erasedPredicates ps)).map Statement.sql =
      (whereStatement ps).map Statement.sql := by
  rw [whereStatement_eq_map_chunks, whereStatement_eq_map_chunks, predicateChunks, predicateChunks,
    predicateParts_erased]
  cases predicateParts "WHERE" true ps with
  | error e => rfl
  | ok parts => simp [Except.map, Statement.ofChunks, ← Chunk.map_erased_separated]

/-- The text of a write, and that of its predicate. -/
def WriteStatement.texts (w : WriteStatement) : String × String := (w.sql, w.whereSql)

namespace Descriptor

/-- The texts of a write depend on the text of its head, and not on what its predicate binds. -/
theorem withWhere_texts_erased (d : Descriptor) {head head' : Statement}
    (h : head'.sql = head.sql) :
    (d.erased.withWhere head').map WriteStatement.texts =
      (d.withWhere head).map WriteStatement.texts := by
  have hwhere := whereStatement_sql_erased d.wheres
  rw [withWhere, withWhere, wheres_erased]
  rcases hr : whereStatement d.wheres with e | w <;>
    rcases hr' : whereStatement (erasedPredicates d.wheres) with e' | w' <;>
    rw [hr, hr'] at hwhere
  · rw [Except.error.inj hwhere]
    rfl
  · cases hwhere
  · cases hwhere
  · have hsql : w'.sql = w.sql := Except.ok.inj hwhere
    simp [bind, Except.bind, pure_eq_ok, Except.map, WriteStatement.texts, hsql, h]

/-- The texts of an UPDATE depend on its columns, and not on the values that they get. -/
theorem updateStatement_texts_erased (d : Descriptor) {values values' : Fields}
    (h : values'.keys = values.keys) :
    (d.erased.updateStatement (.map values')).map WriteStatement.texts =
      (d.updateStatement (.map values)).map WriteStatement.texts := by
  have hempty : values'.isEmpty = values.isEmpty := by
    rw [← List.isEmpty_map (f := Prod.fst), ← List.isEmpty_map (f := Prod.fst)]
    exact congrArg List.isEmpty h
  rw [updateStatement, updateStatement, Value.truthy, Value.truthy, hempty]
  cases values.isEmpty with
  | true => rfl
  | false =>
    refine withWhere_texts_erased d ?_
    rw [h, table_erased]

/-- The texts of an increment do not depend on the amount. -/
theorem incrementStatement_texts_erased (d : Descriptor) (column amount amount' : Value)
    (decrement : Bool) :
    (d.erased.incrementStatement column amount' decrement).map WriteStatement.texts =
      (d.incrementStatement column amount decrement).map WriteStatement.texts :=
  withWhere_texts_erased d (by rw [table_erased])

/-- The texts of a DELETE do not depend on what its predicate binds. -/
theorem deleteStatement_texts_erased (d : Descriptor) :
    d.erased.deleteStatement.map WriteStatement.texts =
      d.deleteStatement.map WriteStatement.texts :=
  withWhere_texts_erased d (by rw [table_erased])

end Descriptor

/-! ## Insertions -/

/-- Rows as a value. -/
def rowsValue (rows : List Row) : Value := .list (rows.map .map)

/-- A group of placeholders, one for each column. -/
def placeholderGroup (columns : List Value) : String :=
  "(" ++ String.intercalate ", " (columns.map fun _ => "?") ++ ")"

/-- Every row gets a group of placeholders, whatever it holds. -/
theorem insertGroups_map (columns : List Value) (rows : List Row) (bound : List Value) :
    insertGroups columns (rows.map .map) bound =
      .ok (rows.map fun _ => placeholderGroup columns,
        bound ++ rows.flatMap fun row => columns.map (Fields.value row)) := by
  induction rows generalizing bound with
  | nil => simp [insertGroups, Assembly.pure_apply]
  | cons row rows ih =>
    have hrow : insertGroups columns (.map row :: rows.map .map) bound =
        (insertGroups columns (rows.map .map) >>= fun groups => pure
          (placeholderGroup columns :: groups)) (bound ++ columns.map (Fields.value row)) := by
      simp [insertGroups, Assembly.bindAll, Value.fields, placeholderGroup, Function.comp_def, bind,
        StateT.bind, Except.bind, liftM, monadLift, MonadLift.monadLift, StateT.lift, pure_eq_ok]
    rw [List.map_cons, hrow]
    simp [bind, StateT.bind, Except.bind, ih, Assembly.pure_apply]

/-- The assembly of an INSERT of rows. -/
def insertAssembly (table : String) (columns : List Value) (rows : List Row) : Assembly String := do
  let groups ← insertGroups columns (rows.map .map)
  let names ← (Value.list columns).joined
  return "INSERT INTO " ++ table ++ " (" ++ names ++ ") VALUES " ++ String.intercalate ", " groups

/-- An INSERT binds, row by row, what stands under its columns. -/
theorem insertAssembly_apply (table : String) (columns : List Value) (rows : List Row)
    (bound : List Value) :
    insertAssembly table columns rows bound = (Value.list columns).joined.map fun names =>
      ("INSERT INTO " ++ table ++ " (" ++ names ++ ") VALUES " ++
          String.intercalate ", " (List.replicate rows.length (placeholderGroup columns)),
        bound ++ rows.flatMap fun row => columns.map (Fields.value row)) := by
  cases hnames : (Value.list columns).joined <;>
    simp [insertAssembly, bind, StateT.bind, Except.bind, insertGroups_map, hnames, liftM,
      monadLift, MonadLift.monadLift, StateT.lift, Assembly.pure_apply, pure_eq_ok, Except.map,
      List.map_const']

/-- An INSERT takes its columns from the first row, which must not be empty. -/
theorem insertStatement_rowsValue (table : String) (first : Row) (rest : List Row) :
    insertStatement table (rowsValue (first :: rest)) =
      if first.isEmpty then .error .emptyInsert
      else (insertAssembly table first.keys (first :: rest)).statement.map fun s => { s with } := by
  cases first <;> rfl

/-- The texts of an INSERT are made of the columns of its first row and of the number of rows. -/
theorem insertStatement_texts (table : String) (first : Row) (rest : List Row) :
    (insertStatement table (rowsValue (first :: rest))).map WriteStatement.texts =
      if first.isEmpty then .error .emptyInsert
      else (Value.list first.keys).joined.map fun names =>
        ("INSERT INTO " ++ table ++ " (" ++ names ++ ") VALUES " ++ String.intercalate ", "
          (List.replicate (rest.length + 1) (placeholderGroup first.keys)), "") := by
  rw [insertStatement_rowsValue, Assembly.statement, StateT.run, insertAssembly_apply]
  cases first.isEmpty with
  | true => rfl
  | false => cases (Value.list first.keys).joined <;> rfl

/-! ## Two runs -/

/-- Two queries that differ in bound values alone compile to the same text, or fail with the same
error, whatever is compiled from them: a SELECT, a predicate list, a DELETE, an UPDATE of the same
columns, or an increment of the same column. So do two INSERTs of equally many rows whose first rows
have the same columns in the same order. The text of the predicate is the same in each case.

**Proof sketch.** A query and its erasure have the same chunks but for what the chunks bind, and
two queries that differ in bound values alone have the same erasure. -/
theorem Descriptor.sql_eq_of_erased_eq {d d' : Descriptor} (h : d.erased = d'.erased) :
    d.select.map Statement.sql = d'.select.map Statement.sql ∧
    (whereStatement d.wheres).map Statement.sql = (whereStatement d'.wheres).map Statement.sql ∧
    d.deleteStatement.map WriteStatement.texts = d'.deleteStatement.map WriteStatement.texts ∧
    (∀ values values' : Fields, values.keys = values'.keys →
      (d.updateStatement (.map values)).map WriteStatement.texts =
        (d'.updateStatement (.map values')).map WriteStatement.texts) ∧
    (∀ (column amount amount' : Value) (decrement : Bool),
      (d.incrementStatement column amount decrement).map WriteStatement.texts =
        (d'.incrementStatement column amount' decrement).map WriteStatement.texts) ∧
    ∀ (table : String) (rows rows' : List Row), rows.length = rows'.length →
      rows.head?.map Fields.keys = rows'.head?.map Fields.keys →
      (insertStatement table (rowsValue rows)).map WriteStatement.texts =
        (insertStatement table (rowsValue rows')).map WriteStatement.texts := by
  refine ⟨?_, ?_, ?_, fun values values' hkeys => ?_, fun column amount amount' decrement => ?_,
    fun table rows rows' hlength hkeys => ?_⟩
  · rw [← d.select_sql_erased, h, d'.select_sql_erased]
  · rw [← whereStatement_sql_erased d.wheres, ← d.wheres_erased, h, d'.wheres_erased,
      whereStatement_sql_erased]
  · rw [← d.deleteStatement_texts_erased, h, d'.deleteStatement_texts_erased]
  · rw [← d.updateStatement_texts_erased hkeys.symm, h, d'.updateStatement_texts_erased rfl]
  · rw [← d.incrementStatement_texts_erased column amount amount', h,
      d'.incrementStatement_texts_erased]
  · cases rows with
    | nil =>
      obtain rfl : rows' = [] := List.length_eq_zero_iff.mp hlength.symm
      rfl
    | cons first rest =>
      obtain ⟨first', rest', rfl⟩ : ∃ first' rest', rows' = first' :: rest' := by
        cases rows' with
        | nil => cases hlength
        | cons first' rest' => exact ⟨first', rest', rfl⟩
      have hfirst : first.keys = first'.keys := Option.some.inj hkeys
      have hrest : rest.length = rest'.length := Nat.succ.inj hlength
      have hempty : first.isEmpty = first'.isEmpty := by
        simpa [Fields.keys] using congrArg List.isEmpty hfirst
      rw [insertStatement_texts, insertStatement_texts, hfirst, hrest, hempty]

/-- A query with a nested query and a union, for two values to be bound at every place. -/
def boundTwice (v w : Value) : Descriptor :=
  { Descriptor.new "t" with
    wheres := [.basic "a" .eq v .and, .member "b" [v, w] true .or,
      .exist { Descriptor.new "u" with
        wheres := [.between "c" v w false .and], limit := v } false .and]
    unions := [⟨.union, { Descriptor.new "u" with wheres := [.raw "d > ?" [w] .and] }⟩]
    limit := v }

/-- Negative numbers, null and hostile texts bind to the same text as a number and the empty one. -/
theorem sql_eq_of_erased_eq_boundTwice :
    (boundTwice (.int (-1)) .null).erased =
      (boundTwice (.text "0; DROP TABLE t") (.text "")).erased ∧
    (boundTwice (.int (-1)) .null).select.map Statement.sql =
      (boundTwice (.text "0; DROP TABLE t") (.text "")).select.map Statement.sql ∧
    ((boundTwice (.int (-1)) .null).updateStatement (.map [("a", .null)])).map
        WriteStatement.texts =
      ((boundTwice (.text "0; DROP TABLE t") (.text "")).updateStatement
        (.map [("a", .int 1)])).map WriteStatement.texts ∧
    (insertStatement "t" (rowsValue [[("a", .null)], []])).map WriteStatement.texts =
      (insertStatement "t" (rowsValue [[("a", .int 1)], [("b", .int 2)]])).map
        WriteStatement.texts := by
  have h : (boundTwice (.int (-1)) .null).erased =
      (boundTwice (.text "0; DROP TABLE t") (.text "")).erased := rfl
  obtain ⟨hselect, -, -, hupdate, -, hinsert⟩ := Descriptor.sql_eq_of_erased_eq h
  exact ⟨h, hselect, hupdate _ _ rfl, hinsert _ _ _ rfl rfl⟩

end FluentSql
