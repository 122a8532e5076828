import FluentSql.Descriptor.Values
import FluentSql.Executor
import FluentSql.Proofs.Statement.Chunks
import FluentSql.Statement.Write

set_option autoImplicit false

/-!
# Restricted writes

An UPDATE or a DELETE is restricted if it ends in a predicate. The keyword is left out where the
predicate has no text, so this is a matter of the predicate list: it has a text unless it is empty
or holds nothing but verbatim SQL without text.

## Main definitions

* `FluentSql.blank` — whether a predicate list has no text.
* `FluentSql.WriteStatement.Restricts` — a write is a head that is restricted.
* `FluentSql.WriteStatement.ChangesRows` — a write is an UPDATE or a DELETE, restricted exactly if
  some predicates have a text.

## Main results

* `FluentSql.whereStatement_sql_eq_empty_iff` — the predicate lists without text.
* `FluentSql.Descriptor.withWhere_eq_ok` — a write is restricted exactly if its predicate
  list has a text.
* `FluentSql.Descriptor.changesRows_updateStatement` and its kin — every statement that is compiled
  to change rows is of this form.
* `FluentSql.WriteStatement.ChangesRows.reads_eq_false`, `FluentSql.reads_insertStatement` — no
  write reads.
-/

namespace FluentSql

/-! ## Predicate lists without text -/

/-- Whether a predicate is verbatim SQL without text. -/
def Predicate.blank : Predicate → Bool
  | .raw sql _ _ => sql == ""
  | _ => false

/-- Whether a predicate list has no text: it is empty, or verbatim SQL without text alone. -/
def blank : List Predicate → Bool
  | [] => true
  | [p] => p.blank
  | _ => false

/-- The text of a predicate is empty exactly if the predicate is blank. -/
theorem Predicate.allSql_chunks_eq_empty_iff {part : String} {p : Predicate} {cs : List Chunk}
    (h : p.chunks part = .ok cs) : Chunk.allSql cs = "" ↔ p.blank = true := by
  cases p with
  | member column values negated logical =>
    rw [Predicate.chunks] at h
    split at h
    · cases negated <;> simp [← Except.ok.inj h, Chunk.sql, Predicate.blank]
    · simp [← Except.ok.inj h, Chunk.sql, Predicate.blank, String.append_eq_empty_iff]
  | exist query negated logical =>
    simp only [Predicate.chunks, bind_eq_ok, pure, Except.pure, Except.ok.injEq] at h
    obtain ⟨body, -, rfl⟩ := h
    simp [Chunk.sql, Predicate.blank, String.append_eq_empty_iff]
  | unknown kind => simp [Predicate.chunks] at h
  | _ =>
    rw [Predicate.chunks] at h
    simp [← Except.ok.inj h, Chunk.sql, Predicate.blank, String.append_eq_empty_iff]

/-- A predicate list has no text exactly if it is blank: a second predicate comes with a space.

**Proof sketch.** No predicate compiles to no text, unless it is verbatim SQL that is empty; and two
of them are joined by a connective, whatever they are. -/
theorem whereStatement_sql_eq_empty_iff {ps : List Predicate} {w : Statement}
    (h : whereStatement ps = .ok w) : w.sql = "" ↔ blank ps = true := by
  rw [whereStatement_eq_map_chunks, map_eq_ok] at h
  obtain ⟨cs, hcs, rfl⟩ := h
  rw [predicateChunks, map_eq_ok] at hcs
  obtain ⟨parts, hparts, rfl⟩ := hcs
  rcases ps with _ | ⟨p, _ | ⟨q, ps⟩⟩
  · rw [predicateParts, Except.ok.injEq] at hparts
    simp [← hparts, Statement.ofChunks, blank]
  · obtain ⟨chunks, hchunks, rest, hrest, rfl⟩ := predicateParts_cons_eq_ok.mp hparts
    rw [predicateParts, Except.ok.injEq] at hrest
    rw [← hrest, if_pos rfl, Chunk.separated_singleton]
    exact Predicate.allSql_chunks_eq_empty_iff hchunks
  · obtain ⟨chunks, -, rest, hrest, rfl⟩ := predicateParts_cons_eq_ok.mp hparts
    obtain ⟨second, -, rest, -, rfl⟩ := predicateParts_cons_eq_ok.mp hrest
    simp [Statement.ofChunks, blank, String.intercalate_cons_cons, String.append_eq_empty_iff]

/-- Replacing the values of predicates does not make them blank, nor the other way round. -/
@[simp] theorem blank_mapPredicates (f : Value → Value) :
    ∀ ps : List Predicate, blank (mapPredicates f ps) = blank ps
  | [] => rfl
  | [p] => by cases p <;> rfl
  | p :: q :: ps => rfl

/-! ## The statements that change rows -/

/-- The beginning of a statement that changes rows of a table. -/
def IsWriteHead (table head : String) : Prop :=
  head = "DELETE FROM " ++ table ∨
    ∃ assignments, head = "UPDATE " ++ table ++ " SET " ++ assignments

namespace WriteStatement

/-- A write is a head that is restricted by the predicate of the write. -/
def Restricts (w : WriteStatement) (head : String) : Prop :=
  w.whereSql ≠ "" ∧ w.sql = head ++ " WHERE " ++ w.whereSql

/-- A write is an UPDATE or a DELETE for a table, restricted exactly if some predicates have a text;
if they have none, it is its head alone. -/
def ChangesRows (w : WriteStatement) (table : String) (ps : List Predicate) : Prop :=
  ∃ head, IsWriteHead table head ∧ (w.Restricts head ↔ blank ps = false) ∧
    (blank ps = true → w.sql = head ∧ w.whereSql = "")

end WriteStatement

/-- Ending a write with the predicates of a query restricts it exactly if these have a text; if they
have none, the statement is its head alone. -/
theorem Descriptor.withWhere_eq_ok {d : Descriptor} {head : Statement} {w : WriteStatement}
    (h : d.withWhere head = .ok w) :
    (w.Restricts head.sql ↔ blank d.wheres = false) ∧
      (blank d.wheres = true → w.sql = head.sql ∧ w.whereSql = "") := by
  simp only [Descriptor.withWhere, bind_eq_ok, pure, Except.pure, Except.ok.injEq] at h
  obtain ⟨predicate, hpredicate, rfl⟩ := h
  have hblank := whereStatement_sql_eq_empty_iff hpredicate
  cases hb : blank d.wheres with
  | true =>
    have hempty := hblank.mpr hb
    simp [WriteStatement.Restricts, hempty]
  | false =>
    have hne : predicate.sql ≠ "" := fun hempty => by simp [hblank.mp hempty] at hb
    simp [WriteStatement.Restricts, hne]

/-- Ending a write that has the beginning of one gives an UPDATE or a DELETE. -/
theorem Descriptor.changesRows_withWhere {d : Descriptor} {head : Statement} {w : WriteStatement}
    (h : d.withWhere head = .ok w) (hhead : IsWriteHead d.table head.sql) :
    w.ChangesRows d.table d.wheres :=
  ⟨head.sql, hhead, d.withWhere_eq_ok h⟩

/-- An UPDATE changes rows. -/
theorem Descriptor.changesRows_updateStatement {d : Descriptor} {values : Value}
    {w : WriteStatement} (h : d.updateStatement values = .ok w) :
    w.ChangesRows d.table d.wheres := by
  rw [Descriptor.updateStatement] at h
  split at h
  · simp [bind, Except.bind, throw, throwThe, MonadExceptOf.throw] at h
  · rw [bind_eq_ok] at h
    obtain ⟨fields, -, h⟩ := h
    exact d.changesRows_withWhere h (.inr ⟨_, rfl⟩)

/-- An UPDATE that adds an amount to a column, or subtracts it, changes rows. -/
theorem Descriptor.changesRows_incrementStatement {d : Descriptor} {column amount : Value}
    {decrement : Bool} {w : WriteStatement}
    (h : d.incrementStatement column amount decrement = .ok w) :
    w.ChangesRows d.table d.wheres := by
  refine d.changesRows_withWhere h (.inr ⟨column.display ++ " = " ++ column.display ++
    (if decrement then " - " else " + ") ++ "?", ?_⟩)
  simp [String.append_assoc]

/-- A DELETE changes rows. -/
theorem Descriptor.changesRows_deleteStatement {d : Descriptor} {w : WriteStatement}
    (h : d.deleteStatement = .ok w) : w.ChangesRows d.table d.wheres :=
  d.changesRows_withWhere h (.inl rfl)

/-! ## Statements that do not read -/

/-- A statement that starts with the word of a write does not read. -/
theorem Statement.reads_eq_false {s : Statement} (rest : String)
    (h : s.sql = "INSERT INTO " ++ rest ∨ s.sql = "UPDATE " ++ rest ∨
      s.sql = "DELETE FROM " ++ rest) : s.reads = false := by
  rcases h with h | h | h <;>
    simp [Statement.reads, h, String.toList_append, List.isPrefixOf]

/-- A statement that changes rows does not read.

**Proof sketch.** It begins with `UPDATE` or `DELETE`, which stand before the table whatever the
predicates come to, and a statement is told to read by its first word. -/
theorem WriteStatement.ChangesRows.reads_eq_false {w : WriteStatement} {table : String}
    {ps : List Predicate} (h : w.ChangesRows table ps) : w.toStatement.reads = false := by
  obtain ⟨head, hhead, hrestricts, hblank⟩ := h
  have hsql : ∃ rest, w.sql = head ++ rest := by
    cases hb : blank ps with
    | true => exact ⟨"", by simp [(hblank hb).1]⟩
    | false => exact ⟨" WHERE " ++ w.whereSql, by rw [(hrestricts.mpr hb).2, String.append_assoc]⟩
  obtain ⟨rest, hrest⟩ := hsql
  rcases hhead with rfl | ⟨assignments, rfl⟩
  · refine Statement.reads_eq_false (table ++ rest) (.inr (.inr ?_))
    rw [hrest, String.append_assoc]
  · refine Statement.reads_eq_false (table ++ " SET " ++ assignments ++ rest) (.inr (.inl ?_))
    rw [hrest]
    simp only [String.append_assoc]

/-- An INSERT does not read. -/
theorem reads_insertStatement {table : String} {rows : Value} {w : WriteStatement}
    (h : insertStatement table rows = .ok w) : w.toStatement.reads = false := by
  simp only [insertStatement] at h
  -- A single row is inserted like a list of one.
  split at h
  all_goals
    split at h
    · simp [bind, Except.bind, throw, throwThe, MonadExceptOf.throw] at h
    · rw [bind_eq_ok] at h
      obtain ⟨first, -, h⟩ := h
      split at h
      · simp [bind, Except.bind, throw, throwThe, MonadExceptOf.throw] at h
      · simp only [bind_eq_ok, Assembly.statement, StateT.run_bind, StateT.run_pure] at h
        obtain ⟨fields, -, items, -, s, ⟨text, hassembled, hs⟩, hw⟩ := h
        obtain ⟨groups, -, names, -, htext⟩ := hassembled
        cases htext
        cases hs
        cases hw
        refine Statement.reads_eq_false (table ++ " (" ++ names.1 ++ ") VALUES " ++
          String.intercalate ", " groups.1) (.inl ?_)
        simp only [String.append_assoc]

end FluentSql
