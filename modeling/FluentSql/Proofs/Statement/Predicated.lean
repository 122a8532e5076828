import FluentSql.Proofs.Statement.Compound
import FluentSql.Statement.Write

set_option autoImplicit false

/-!
# The predicate of a write is that of the query

A SELECT compiles its predicate list among its other parts, with the values bound so far at hand; a
write compiles the same list as a statement of its own and puts it after its head. Both come to the
same text and the same bound values, whatever the predicates nest: compiling predicates adds their
values to those that are there and reads none of them.

So the rows that a write is restricted to are described as those of the query are. It is the SELECT
that keeps the keyword where the predicate has no text.

## Main definitions

* `FluentSql.Descriptor.filtering` — a query for the rows that satisfy predicates.
* `FluentSql.Descriptor.lead`, `FluentSql.Descriptor.afterWhere` — what a SELECT has before its
  predicate list and after it.
* `FluentSql.WriteStatement.restricting` — a write of a head and a predicate.

## Main results

* `FluentSql.assemblePredicates_after` — predicates are compiled alike after any bound values.
* `FluentSql.Descriptor.select_eq_around` — a SELECT is put around its predicate list.
* `FluentSql.exists_select_of_whereStatement` — an EXISTS holds the SELECT of its query.
* `FluentSql.Descriptor.writes_restricted_as_select` — writes end in the predicate of the SELECT.
-/

namespace FluentSql

/-! ## Compiling predicates after other values -/

/-- Predicates that are compiled when values are bound already have the text that they have on their
own, and bind their own values after those. -/
theorem assemblePredicates_after (ps : List Predicate) (bound : List Value) :
    (do return " ".intercalate (← assemblePredicates "WHERE" true ps) : Assembly String) bound =
      (whereStatement ps).map fun p => (p.sql, bound ++ p.bindings) := by
  rw [assemblePredicates_eq, whereStatement_eq_map_chunks, predicateChunks]
  cases predicateParts "WHERE" true ps with
  | error e => rfl
  | ok parts =>
    rw [Assembly.ofParts_ok_bind]
    simp [Assembly.pure_apply, Except.map, Statement.ofChunks]

/-- The chunks of a predicate stand among those of a list that holds it. -/
theorem exists_around_predicate {part : String} {p : Predicate} {after : List Predicate} :
    ∀ {before : List Predicate} {first : Bool} {parts : List (List Chunk)},
      predicateParts part first (before ++ p :: after) = .ok parts →
        ∃ left cs right, p.chunks part = .ok cs ∧ Chunk.separated " " parts = left ++ cs ++ right
  | [], first, parts, h => by
    obtain ⟨cs, hcs, rest, -, rfl⟩ := predicateParts_cons_eq_ok.mp h
    refine ⟨if first then [] else [.text (p.logical.keyword ++ " ")], cs,
      rest.flatMap (.text " " :: ·), hcs, ?_⟩
    rw [Chunk.separated_cons]
    cases first <;> simp
  | q :: before, first, parts, h => by
    obtain ⟨chunks, -, rest, hrest, rfl⟩ := predicateParts_cons_eq_ok.mp h
    obtain ⟨left, cs, right, hcs, hseparated⟩ := exists_around_predicate hrest
    cases rest with
    | nil => simpa using isEmpty_predicateParts hrest
    | cons second rest =>
      refine ⟨(if first then chunks else .text (q.logical.keyword ++ " ") :: chunks) ++
        .text " " :: left, cs, right, hcs, ?_⟩
      rw [Chunk.separated_cons_cons, hseparated]
      simp

/-- A test for the existence of a row holds the SELECT of its query, with its union, its limit and
its offset, and binds what that binds.

**Proof sketch.** The chunks of the predicate list are those before the test, those of the test and
those after it; and the chunks of the test are the closed chunks of its query in parentheses. -/
theorem exists_select_of_whereStatement {before after : List Predicate} {query : Descriptor}
    {negated : Bool} {logical : Connective} {p : Statement}
    (h : whereStatement (before ++ .exist query negated logical :: after) = .ok p) :
    ∃ left s right : Statement, query.select = .ok s ∧
      p.sql = left.sql ++ (negatable negated "EXISTS" ++ " (" ++ s.sql ++ ")") ++ right.sql ∧
      p.bindings = left.bindings ++ s.bindings ++ right.bindings := by
  rw [whereStatement_eq_map_chunks, map_eq_ok] at h
  obtain ⟨predicates, hpredicates, rfl⟩ := h
  rw [predicateChunks, map_eq_ok] at hpredicates
  obtain ⟨parts, hparts, rfl⟩ := hpredicates
  obtain ⟨left, cs, right, hcs, hseparated⟩ := exists_around_predicate hparts
  rw [Predicate.chunks, bind_eq_ok] at hcs
  obtain ⟨body, hbody, hcs⟩ := hcs
  cases hcs
  refine ⟨.ofChunks left, .ofChunks (query.closeChunks body), .ofChunks right, ?_, ?_, ?_⟩
  · rw [query.select_eq_map_chunks, Descriptor.chunks, hbody]
    rfl
  · simp [Statement.ofChunks, hseparated, Chunk.sql, String.append_assoc]
  · simp [Statement.ofChunks, hseparated, Chunk.bindings]

/-! ## A SELECT around its predicate list -/

/-- Separated parts with a part among them: those before it, the part, and those after it. -/
theorem Statement.ofChunks_separated_around {before : List (List Chunk)} (h : before ≠ [])
    (part : List Chunk) (after : List (List Chunk)) :
    ofChunks (Chunk.separated " " (before ++ part :: after)) =
      ((ofChunks (Chunk.separated " " before)).append (ofChunks (.text " " :: part))).append
        (Chunk.following after) := by
  rw [Chunk.separated_append " " h, List.flatMap_cons, ofChunks_append, ofChunks_append]
  simp [append, Chunk.following, String.append_assoc]

/-- What closes a query are further parts. -/
theorem Descriptor.closeChunks_separated (d : Descriptor) {parts : List (List Chunk)}
    (h : parts ≠ []) :
    d.closeChunks (Chunk.separated " " parts) = Chunk.separated " " (parts ++ d.endParts) := by
  rw [closeChunks, Chunk.separated_cons, Chunk.separated_append " " h]

namespace Descriptor

/-- A query for the rows of a table that satisfy predicates, and for nothing else. -/
def filtering (table : String) (wheres : List Predicate) : Descriptor :=
  { new table with wheres }

/-- The parts of a SELECT before its predicate list: its select list, its table and its joins. -/
def leadTexts (d : Descriptor) : List String :=
  selectHead d.table d.tableAlias d.columns d.distinct d.aggregates :: d.joins.map Join.text

/-- The parts of a SELECT after its predicate list: its groups, their conditions, the parts of its
union, its order, its limit and its offset. -/
def partsAfterWhere (d : Descriptor) : Except Error (List (List Chunk)) := do
  let conditions ← predicateParts "HAVING" true d.havings
  let parts ← unionChunks d.unions
  let groups := if d.groups.isEmpty then [] else ["GROUP BY " ++ ", ".intercalate d.groups]
  return Chunk.texts groups ++ Chunk.clause "HAVING" conditions ++ parts ++ d.endParts

/-- The chunks of a query with a predicate list: the list is one part, with its keyword. -/
theorem chunks_eq_around (d : Descriptor) (h : d.wheres ≠ []) :
    d.chunks = do
      let predicates ← predicateChunks d.wheres
      let rest ← d.partsAfterWhere
      return Chunk.separated " "
        (Chunk.texts d.leadTexts ++ (.text "WHERE " :: predicates) :: rest) := by
  obtain ⟨table, tableAlias, columns, wheres, havings, joins, order, groups, limit, offset,
    distinct, aggregates, unions, pending, banks⟩ := d
  rw [chunks, bodyChunks, predicateChunks, partsAfterWhere]
  cases hw : predicateParts "WHERE" true wheres with
  | error e => rfl
  | ok predicates =>
    have hfull : predicates.isEmpty = false := by
      rw [isEmpty_predicateParts hw]
      cases wheres with
      | nil => exact absurd rfl h
      | cons p ps => rfl
    have hclause : Chunk.clause "WHERE" predicates =
        [.text "WHERE " :: Chunk.separated " " predicates] := by
      rw [Chunk.clause, hfull]
      rfl
    cases predicateParts "HAVING" true havings with
    | error e => rfl
    | ok conditions =>
      cases unionChunks unions with
      | error e => rfl
      | ok parts =>
        simp only [ok_bind, pure_eq_ok, Except.map, hclause]
        rw [closeChunks_separated _ (by simp [Chunk.texts])]
        simp [leadTexts]

/-- What a SELECT begins with: its select list, its table and its joins. -/
def lead (d : Descriptor) : String := " ".intercalate d.leadTexts

/-- What a SELECT goes on with after its predicate list. -/
def afterWhere (d : Descriptor) : Except Error Statement := d.partsAfterWhere.map Chunk.following

/-- A SELECT with a predicate list begins before it, has the text of the list after the keyword, and
goes on after it; its values are bound in this order.

**Proof sketch.** The chunks of the query are those of its head, which bind nothing, then those of
the predicates, then the rest; and the statement of chunks is joined from the statements of its
parts. -/
theorem select_eq_around (d : Descriptor) (h : d.wheres ≠ []) :
    d.select = do
      let p ← whereStatement d.wheres
      let rest ← d.afterWhere
      return { sql := d.lead ++ " WHERE " ++ p.sql ++ rest.sql
               bindings := p.bindings ++ rest.bindings } := by
  rw [select_eq_map_chunks, d.chunks_eq_around h, whereStatement_eq_map_chunks, afterWhere]
  cases predicateChunks d.wheres with
  | error e => rfl
  | ok predicates =>
    cases d.partsAfterWhere with
    | error e => rfl
    | ok rest =>
      simp only [ok_bind, pure_eq_ok, Except.map]
      rw [Statement.ofChunks_separated_around (by simp [Chunk.texts, leadTexts])]
      have hkeyword : " " ++ ("WHERE " ++ Chunk.allSql predicates) =
          " WHERE " ++ Chunk.allSql predicates := by
        rw [← String.append_assoc, show " " ++ "WHERE " = " WHERE " by decide]
      simp [Statement.append, Statement.ofChunks, Chunk.sql, Chunk.bindings, lead, hkeyword,
        ← String.append_assoc]

/-- A query for the rows that satisfy predicates is these predicates after its head. -/
theorem select_filtering (table : String) {wheres : List Predicate} (h : wheres ≠ []) :
    (filtering table wheres).select = (whereStatement wheres).map fun p =>
      { sql := "SELECT * FROM " ++ table ++ " WHERE " ++ p.sql, bindings := p.bindings } := by
  have hlead : (filtering table wheres).lead = "SELECT * FROM " ++ table := by
    simp [lead, leadTexts, filtering, new, selectHead, selectList, selectItemText, Value.display,
      Value.truthy]
  have hafter : (filtering table wheres).afterWhere = .ok { sql := "", bindings := [] } := rfl
  have hwheres : (filtering table wheres).wheres = wheres := rfl
  rw [select_eq_around _ h, hlead, hafter, hwheres]
  cases whereStatement wheres with
  | error e => rfl
  | ok p => simp [Except.map, ok_bind, pure_eq_ok]

end Descriptor

/-! ## Writes -/

/-- A write of a head and a predicate: the predicate follows after the keyword if it has a text, and
its values after those of the head. -/
def WriteStatement.restricting (head predicate : Statement) : WriteStatement where
  sql := if predicate.sql = "" then head.sql else head.sql ++ " WHERE " ++ predicate.sql
  bindings := head.bindings ++ predicate.bindings
  whereSql := predicate.sql
  whereBindings := predicate.bindings

/-- A predicate that has a text follows after the keyword. -/
theorem WriteStatement.sql_restricting {head predicate : Statement} (h : predicate.sql ≠ "") :
    (restricting head predicate).sql = head.sql ++ " WHERE " ++ predicate.sql := if_neg h

namespace Descriptor

/-- Ending a write with the predicates of a query restricts its head by them. -/
theorem withWhere_eq_map (d : Descriptor) (head : Statement) :
    d.withWhere head = (whereStatement d.wheres).map (WriteStatement.restricting head) := by
  rw [withWhere]
  cases whereStatement d.wheres with
  | error e => rfl
  | ok p => simp [ok_bind, pure_eq_ok, Except.map, WriteStatement.restricting]

/-- The head of an UPDATE assigns the columns of a mapping in its order. -/
theorem updateStatement_map (d : Descriptor) {fields : Fields} (h : fields ≠ []) :
    d.updateStatement (.map fields) = (whereStatement d.wheres).map (WriteStatement.restricting {
      sql := "UPDATE " ++ d.table ++ " SET " ++
        ", ".intercalate (fields.keys.map fun column => column.display ++ " = ?")
      bindings := fields.map (·.2) }) := by
  have hfull : (Value.map fields).truthy = true := by simpa [Value.truthy] using h
  rw [updateStatement, hfull, ← withWhere_eq_map]
  rfl

/-- A write and a SELECT have the same predicate, with the same values. Compiled on its own, the
predicate list of a query is what the SELECT for the rows that satisfy it has after its keyword, and
what stands between the head of the SELECT of the query and its groups; it is what an UPDATE, an
increment and a DELETE end in, after the values that they bind themselves. Where it asks for a row
of another query, it holds the SELECT of that query.

**Proof sketch.** Predicates compile to the same chunks whatever is bound already
(`assemblePredicates_after`), so each of the statements is its own head, then the predicates. For
the SELECT that is `select_eq_around`, and for a nested query `exists_select_of_whereStatement`. -/
theorem writes_restricted_as_select (d : Descriptor) (h : d.wheres ≠ []) :
    (filtering d.table d.wheres).select = (whereStatement d.wheres).map (fun p =>
        { sql := "SELECT * FROM " ++ d.table ++ " WHERE " ++ p.sql, bindings := p.bindings }) ∧
      d.select = (do
        let p ← whereStatement d.wheres
        let rest ← d.afterWhere
        return { sql := d.lead ++ " WHERE " ++ p.sql ++ rest.sql
                 bindings := p.bindings ++ rest.bindings }) ∧
      (∀ fields : Fields, fields ≠ [] → d.updateStatement (.map fields) =
        (whereStatement d.wheres).map (WriteStatement.restricting {
          sql := "UPDATE " ++ d.table ++ " SET " ++
            ", ".intercalate (fields.keys.map fun column => column.display ++ " = ?")
          bindings := fields.map (·.2) })) ∧
      (∀ column amount decrement, d.incrementStatement column amount decrement =
        (whereStatement d.wheres).map (WriteStatement.restricting {
          sql := "UPDATE " ++ d.table ++ " SET " ++ column.display ++ " = " ++ column.display ++
            (if decrement then " - " else " + ") ++ "?"
          bindings := [amount] })) ∧
      d.deleteStatement = (whereStatement d.wheres).map (WriteStatement.restricting {
        sql := "DELETE FROM " ++ d.table, bindings := [] }) ∧
      (∀ bound, (do return " ".intercalate (← assemblePredicates "WHERE" true d.wheres) :
          Assembly String) bound =
        (whereStatement d.wheres).map fun p => (p.sql, bound ++ p.bindings)) ∧
      ∀ before query negated logical after p,
        d.wheres = before ++ .exist query negated logical :: after →
        whereStatement d.wheres = .ok p → ∃ left s right : Statement, query.select = .ok s ∧
          p.sql = left.sql ++ (negatable negated "EXISTS" ++ " (" ++ s.sql ++ ")") ++ right.sql ∧
          p.bindings = left.bindings ++ s.bindings ++ right.bindings := by
  refine ⟨select_filtering d.table h, d.select_eq_around h, fun _ => d.updateStatement_map,
    fun _ _ _ => d.withWhere_eq_map _, d.withWhere_eq_map _, assemblePredicates_after d.wheres, ?_⟩
  intro before query negated logical after p hwheres hp
  rw [hwheres] at hp
  exact exists_select_of_whereStatement hp

end Descriptor

/-- The members that are late: their fee is not paid, and they have one of the last loans or of the
reminders of a year. -/
def lateMembers : Descriptor :=
  { Descriptor.new "members" with
    wheres := [.basic "paid" .eq (.bool false) .and,
      .exist { Descriptor.new "loans" with
        wheres := [.column "loans.member" .eq "members.id" .and]
        unions := [⟨.unionAll, { Descriptor.new "reminders" with
          wheres := [.basic "year" .ge (.int 2023) .and], limit := .int 7 }⟩]
        limit := .int 5
        offset := .int 2 } false .or] }

/-- The predicate of the late members, in a SELECT, an UPDATE, an increment and a DELETE. -/
theorem Descriptor.writes_restricted_as_select_lateMembers :
    lateMembers.wheres ≠ [] ∧
    ∃ p : Statement, whereStatement lateMembers.wheres = .ok p ∧
      p.sql = "paid = ? OR EXISTS (SELECT * FROM loans WHERE loans.member = members.id " ++
        "UNION ALL SELECT * FROM reminders WHERE year >= ? LIMIT ? OFFSET ?)" ∧
      p.bindings = [.bool false, .int 2023, .int 5, .int 2] ∧
      (filtering "members" lateMembers.wheres).select = .ok {
        sql := "SELECT * FROM members WHERE " ++ p.sql, bindings := p.bindings } ∧
      (∃ w, lateMembers.updateStatement (.map [("state", "late"), ("fee", .int 3)]) = .ok w ∧
        w.sql = "UPDATE members SET state = ?, fee = ? WHERE " ++ p.sql ∧
        w.bindings = .text "late" :: .int 3 :: p.bindings) ∧
      (∃ w, lateMembers.incrementStatement "fee" (.int 3) true = .ok w ∧
        w.sql = "UPDATE members SET fee = fee - ? WHERE " ++ p.sql ∧
        w.bindings = .int 3 :: p.bindings) ∧
      ∃ w, lateMembers.deleteStatement = .ok w ∧
        w.sql = "DELETE FROM members WHERE " ++ p.sql ∧ w.bindings = p.bindings := by
  have hwheres : lateMembers.wheres ≠ [] := by simp [lateMembers]
  obtain ⟨p, hp, hsql, hbindings⟩ : ∃ p : Statement, whereStatement lateMembers.wheres = .ok p ∧
      p.sql = "paid = ? OR EXISTS (SELECT * FROM loans WHERE loans.member = members.id " ++
        "UNION ALL SELECT * FROM reminders WHERE year >= ? LIMIT ? OFFSET ?)" ∧
      p.bindings = [.bool false, .int 2023, .int 5, .int 2] := ⟨_, rfl, by decide +kernel, rfl⟩
  have hne : p.sql ≠ "" := by
    rw [hsql]
    decide
  obtain ⟨hselect, -, hupdate, hincrement, hdelete, -⟩ :=
    lateMembers.writes_restricted_as_select hwheres
  have hchange := hupdate [("state", "late"), ("fee", .int 3)] (by simp)
  have hlower := hincrement "fee" (.int 3) true
  rw [hp] at hselect hchange hlower hdelete
  refine ⟨hwheres, p, hp, hsql, hbindings, hselect, ⟨_, hchange, ?_, rfl⟩, ⟨_, hlower, ?_, rfl⟩,
    ⟨_, hdelete, ?_, rfl⟩⟩
  · rw [WriteStatement.sql_restricting hne]
    rfl
  · rw [WriteStatement.sql_restricting hne]
    rfl
  · rw [WriteStatement.sql_restricting hne]
    rfl

end FluentSql
