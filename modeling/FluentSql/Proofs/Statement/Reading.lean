import FluentSql.Proofs.Statement.Chunks
import FluentSql.Rows

set_option autoImplicit false

/-!
# Reading a predicate list

A predicate list is written flat: the tests one after the other, each but the first after its
connective. It is read by a grammar in which `AND` binds tighter than `OR`: an expression is terms
with `OR` between them, a term is tests with `AND` between them. What is read is the list of groups
of tests that `OR` separates; there is one reading and no other.

Rows in memory are kept without the text, by walking along the list. The walk comes to the value
that the reading has.

## Main definitions

* `FluentSql.Piece`, `FluentSql.pieces` — tests and connectives in the order in which they are
  written.
* `FluentSql.IsTerm`, `FluentSql.IsExpression` — the grammar, with the groups that it reads.

## Main results

* `FluentSql.whereStatement_eq_writtenPieces` — a predicate list is written as its pieces.
* `FluentSql.IsExpression.unique` — there is at most one reading.
* `FluentSql.exists_isExpression` — there is one, and it has the value to which the walk comes.
-/

namespace FluentSql

/-! ## Pieces -/

/-- What a predicate list is written of: a test, or a connective between two tests. -/
inductive Piece (α : Type) where
  | test (a : α)
  | link (c : Connective)
  deriving Inhabited

/-- The pieces of a predicate list; the connective of the first predicate is not among them. -/
def pieces : List Predicate → List (Piece Predicate)
  | [] => []
  | p :: ps => .test p :: ps.flatMap fun q => [.link q.logical, .test q]

@[simp] theorem pieces_cons_cons (p q : Predicate) (ps : List Predicate) :
    pieces (p :: q :: ps) = .test p :: .link q.logical :: pieces (q :: ps) := rfl

/-- The tests among the pieces are the predicates of the list. -/
theorem mem_of_test_mem_pieces {p : Predicate} {ps : List Predicate} (h : .test p ∈ pieces ps) :
    p ∈ ps := by
  cases ps with
  | nil => simp [pieces] at h
  | cons q qs => simpa [pieces] using h

/-- A piece as a statement: a test on its own, or the word of a connective. -/
def Piece.written : Piece Predicate → Except Error Statement
  | .test p => (p.assemble "WHERE").statement
  | .link c => .ok { sql := c.keyword, bindings := [] }

/-- One statement, a space and another; what is bound is bound in this order. -/
def Statement.andThen (s t : Statement) : Statement :=
  { sql := s.sql ++ " " ++ t.sql, bindings := s.bindings ++ t.bindings }

/-- Pieces as one statement, with spaces between them. -/
def writtenPieces (ws : List (Piece Predicate)) : Except Error Statement := do
  let ss ← ws.mapM Piece.written
  return { sql := " ".intercalate (ss.map Statement.sql)
           bindings := ss.flatMap Statement.bindings }

/-- A test on its own is made up of its chunks. -/
theorem Piece.written_test (p : Predicate) :
    (Piece.test p).written = (p.chunks "WHERE").map Statement.ofChunks := by
  rw [Piece.written, p.assemble_eq, Assembly.statement_ofChunks]

/-- One piece alone is written as it is. -/
theorem writtenPieces_singleton (w : Piece Predicate) : writtenPieces [w] = w.written := by
  cases h : w.written <;> simp [writtenPieces, h, bind, Except.bind, pure_eq_ok]

/-- Pieces are written from the first on. -/
theorem writtenPieces_cons_cons (w w' : Piece Predicate) (ws : List (Piece Predicate)) :
    writtenPieces (w :: w' :: ws) =
      (do return (← w.written).andThen (← writtenPieces (w' :: ws))) := by
  simp only [writtenPieces, List.mapM_cons, bind_assoc, pure_bind, List.map_cons,
    String.intercalate_cons_cons, List.flatMap_cons, Statement.andThen]

/-- The statement of the parts of a predicate list; `first` says whether it stands first. -/
def writtenParts (first : Bool) (ps : List Predicate) : Except Error Statement := do
  return Statement.ofChunks (Chunk.separated " " (← predicateParts "WHERE" first ps))

/-- A predicate list that does not stand first comes after its connective. -/
theorem writtenParts_false (p : Predicate) (ps : List Predicate) :
    writtenParts false (p :: ps) =
      (writtenParts true (p :: ps)).map (Statement.andThen ⟨p.logical.keyword, []⟩) := by
  simp only [writtenParts, predicateParts]
  cases p.chunks "WHERE" with
  | error e => rfl
  | ok chunks =>
    cases predicateParts "WHERE" false ps with
    | error e => rfl
    | ok parts =>
      simp [bind, Except.bind, pure_eq_ok, Except.map, Statement.ofChunks, Statement.andThen,
        Chunk.sql, Chunk.bindings]

/-- A predicate list that is not empty is written as its pieces. -/
theorem writtenParts_true (p : Predicate) (ps : List Predicate) :
    writtenParts true (p :: ps) = writtenPieces (pieces (p :: ps)) := by
  induction ps generalizing p with
  | nil =>
    rw [pieces, List.flatMap_nil, writtenPieces_singleton, Piece.written_test]
    cases h : p.chunks "WHERE" <;>
      simp [writtenParts, predicateParts, h, bind, Except.bind, pure_eq_ok, Except.map]
  | cons q qs ih =>
    have hrest : writtenPieces (.link q.logical :: pieces (q :: qs)) =
        writtenParts false (q :: qs) := by
      rw [writtenParts_false, ih q]
      exact (writtenPieces_cons_cons _ _ _).trans rfl
    rw [pieces_cons_cons, writtenPieces_cons_cons, hrest, Piece.written_test, writtenParts,
      writtenParts, predicateParts]
    cases p.chunks "WHERE" with
    | error e => rfl
    | ok chunks =>
      cases hparts : predicateParts "WHERE" false (q :: qs) with
      | error e => rfl
      | ok parts =>
        obtain ⟨first, -, rest, -, rfl⟩ := predicateParts_cons_eq_ok.mp hparts
        simp [bind, Except.bind, pure_eq_ok, Except.map, Statement.ofChunks, Statement.andThen]

/-- A predicate list is written as its pieces with spaces between them. -/
theorem whereStatement_eq_writtenPieces (ps : List Predicate) :
    whereStatement ps = writtenPieces (pieces ps) := by
  rw [whereStatement_eq_map_chunks, predicateChunks]
  cases ps with
  | nil => rfl
  | cons p ps =>
    rw [← writtenParts_true, writtenParts]
    cases predicateParts "WHERE" true (p :: ps) <;> rfl

/-! ## The grammar -/

section Grammar

variable {α : Type}

/-- Terms: tests with `AND` between them, read as the list of these tests. -/
inductive IsTerm : List (Piece α) → List α → Prop
  | test (a : α) : IsTerm [.test a] [a]
  | and (a : α) {ws : List (Piece α)} {group : List α} (rest : IsTerm ws group) :
    IsTerm (.test a :: .link .and :: ws) (a :: group)

/-- Expressions: terms with `OR` between them, read as the list of the groups that these are. -/
inductive IsExpression : List (Piece α) → List (List α) → Prop
  | term {ws : List (Piece α)} {group : List α} (first : IsTerm ws group) :
    IsExpression ws [group]
  | or {ws ws' : List (Piece α)} {group : List α} {groups : List (List α)}
    (first : IsTerm ws group) (rest : IsExpression ws' groups) :
    IsExpression (ws ++ .link .or :: ws') (group :: groups)

/-- The groups that `OR` separates, the one at hand first. -/
def splitGroups : List (Piece α) → List α × List (List α)
  | [] => ([], [])
  | .test a :: ws => (a :: (splitGroups ws).1, (splitGroups ws).2)
  | .link .and :: ws => splitGroups ws
  | .link .or :: ws => ([], (splitGroups ws).1 :: (splitGroups ws).2)

/-- A term goes to the group at hand. -/
theorem IsTerm.splitGroups_append {ws : List (Piece α)} {group : List α} (h : IsTerm ws group)
    (ws' : List (Piece α)) :
    splitGroups (ws ++ ws') = (group ++ (splitGroups ws').1, (splitGroups ws').2) := by
  induction h with
  | test a => rfl
  | and a _ ih => simp [splitGroups, ih]

/-- An expression is read as the groups that `OR` separates. -/
theorem IsExpression.splitGroups_eq {ws : List (Piece α)} {groups : List (List α)}
    (h : IsExpression ws groups) : (splitGroups ws).1 :: (splitGroups ws).2 = groups := by
  induction h with
  | @term ws group first =>
    have hsplit := first.splitGroups_append []
    rw [List.append_nil] at hsplit
    simp [hsplit, splitGroups]
  | or first _ ih => simp [first.splitGroups_append, splitGroups, ih]

/-- There is at most one reading. -/
theorem IsExpression.unique {ws : List (Piece α)} {groups groups' : List (List α)}
    (h : IsExpression ws groups) (h' : IsExpression ws groups') : groups = groups' :=
  h.splitGroups_eq.symm.trans h'.splitGroups_eq

/-- A term is made of its tests. -/
theorem IsTerm.test_mem {ws : List (Piece α)} {group : List α} (h : IsTerm ws group) :
    ∀ a ∈ group, .test a ∈ ws := by
  induction h with
  | test a => simp
  | and a _ ih => simpa using fun b hb => .inr (ih b hb)

/-- An expression is made of the tests in its groups. -/
theorem IsExpression.test_mem {ws : List (Piece α)} {groups : List (List α)}
    (h : IsExpression ws groups) : ∀ group ∈ groups, ∀ a ∈ group, .test a ∈ ws := by
  induction h with
  | term first => simpa using first.test_mem
  | or first _ ih =>
    refine List.forall_mem_cons.mpr ⟨fun a ha => ?_, fun group hgroup a ha => ?_⟩
    · exact List.mem_append_left _ (first.test_mem a ha)
    · exact List.mem_append_right _ (List.mem_cons_of_mem _ (ih group hgroup a ha))

/-- There is no expression without pieces. -/
theorem IsExpression.ne_nil {ws : List (Piece α)} {groups : List (List α)}
    (h : IsExpression ws groups) : ws ≠ [] := by
  cases h with
  | term first => cases first <;> simp
  | or => simp

/-- A test with `AND` after it goes to the first group. -/
theorem IsExpression.and (a : α) {ws : List (Piece α)} {group : List α} {groups : List (List α)}
    (h : IsExpression ws (group :: groups)) :
    IsExpression (.test a :: .link .and :: ws) ((a :: group) :: groups) := by
  cases h with
  | term first => exact .term (.and a first)
  | or first rest => exact .or (.and a first) rest

end Grammar

/-! ## The walk along the list -/

/-- A predicate list that is not empty has a reading, and the walk comes to its value: one of the
groups holds as a whole.

The statement is about a walk that comes with a group at hand, so that the induction goes through.
-/
theorem exists_isExpression_someGroup (p : Predicate) (ps : List Predicate) :
    ∃ group groups, IsExpression (pieces (p :: ps)) (group :: groups) ∧
      ∀ (holds : Predicate → Bool) (current : Bool), someGroup holds (current && holds p) ps =
        (current && group.all holds || groups.any (List.all · holds)) := by
  induction ps generalizing p with
  | nil => exact ⟨[p], [], .term (.test p), fun holds current => by simp [someGroup]⟩
  | cons q qs ih =>
    obtain ⟨group, groups, hreading, hwalk⟩ := ih q
    cases hq : q.logical with
    | or =>
      refine ⟨[p], group :: groups, ?_, fun holds current => ?_⟩
      · rw [pieces_cons_cons, hq]
        exact .or (.test p) hreading
      · have hrest := hwalk holds true
        rw [Bool.true_and, Bool.true_and] at hrest
        simp [someGroup, hq, hrest]
    | and =>
      refine ⟨p :: group, groups, ?_, fun holds current => ?_⟩
      · rw [pieces_cons_cons, hq]
        exact hreading.and p
      · simpa [someGroup, hq, Bool.and_assoc] using hwalk holds (current && holds p)

/-- A predicate list that is not empty has a reading, and it holds exactly if one of the groups
holds as a whole.

**Proof sketch.** By induction on the predicates after the first, for any value of the group that
the walk is in: an `AND` goes on with the group, an `OR` closes it and begins another. -/
theorem exists_isExpression {ps : List Predicate} (h : ps ≠ []) :
    ∃ groups, IsExpression (pieces ps) groups ∧
      ∀ holds : Predicate → Bool, predicateHolds holds ps = groups.any (List.all · holds) := by
  obtain ⟨p, ps, rfl⟩ := List.exists_cons_of_ne_nil h
  obtain ⟨group, groups, hreading, hwalk⟩ := exists_isExpression_someGroup p ps
  refine ⟨group :: groups, hreading, fun holds => ?_⟩
  simpa [predicateHolds] using hwalk holds true

end FluentSql
