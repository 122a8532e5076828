import FluentSql.Proofs.Statement.Reading

set_option autoImplicit false

/-!
# Groups of predicates on rows

A row is kept if all predicates hold on it of one of the groups that `OR` separates. These groups
are those that are read from the text, in which `AND` binds tighter than `OR`; so memory and text
agree on what the connectives of a predicate list mean, whatever each predicate tests. A predicate
that comes after an `AND` goes to the last group, and restricts no other.

## Main definitions

* `FluentSql.Predicate.linked` — the same test with another connective.
* `FluentSql.groupsOf` — the groups that `OR` separates.

## Main results

* `FluentSql.isExpression_iff` — the groups are what is read from the pieces of a predicate list.
* `FluentSql.groupsOf_append_and` — one more predicate after an `AND`.
* `FluentSql.Descriptor.keeps_eq_reading` — rows are kept by the value of what is read.
-/

namespace FluentSql

/-! ## Connectives of single predicates -/

namespace Predicate

/-- The same test with another connective. What is of no known kind has its own. -/
def linked (c : Connective) : Predicate → Predicate
  | .basic name operator value _ => .basic name operator value c
  | .column name operator other _ => .column name operator other c
  | .raw sql bindings _ => .raw sql bindings c
  | .member name values negated _ => .member name values negated c
  | .null name negated _ => .null name negated c
  | .between name low high negated _ => .between name low high negated c
  | .exist query negated _ => .exist query negated c
  | .unknown kind => .unknown kind

/-- A test holds on the same rows with every connective. -/
@[simp] theorem holds_linked (c : Connective) (row : Row) (p : Predicate) :
    (p.linked c).holds row = p.holds row := by
  cases p with
  | basic name operator value logical => cases operator <;> rfl
  | _ => rfl

/-- A test is written in the same way with every connective. -/
@[simp] theorem chunks_linked (c : Connective) (clause : String) (p : Predicate) :
    (p.linked c).chunks clause = p.chunks clause := by
  cases p <;> simp only [linked, chunks]

end Predicate

/-- The connective of the first predicate is not written. -/
theorem whereStatement_linked (c : Connective) (p : Predicate) (ps : List Predicate) :
    whereStatement (p.linked c :: ps) = whereStatement (p :: ps) := by
  simp only [whereStatement_eq_map_chunks, predicateChunks, predicateParts, Predicate.chunks_linked]
  rfl

/-! ## Groups -/

/-- The groups of predicates that `OR` separates. Where there are no predicates, there is one group
and nothing in it. -/
def groupsOf (ps : List Predicate) : List (List Predicate) :=
  (splitGroups (pieces ps)).1 :: (splitGroups (pieces ps)).2

theorem groupsOf_ne_nil (ps : List Predicate) : groupsOf ps ≠ [] := List.cons_ne_nil _ _

/-- What is read from the pieces of a predicate list, and the only thing that is, are its groups.

**Proof sketch.** A list that is not empty has a reading, and a reading is what splitting the pieces
at every `OR` gives. -/
theorem isExpression_iff {ps : List Predicate} (h : ps ≠ []) {groups : List (List Predicate)} :
    IsExpression (pieces ps) groups ↔ groups = groupsOf ps := by
  obtain ⟨read, hread, -⟩ := exists_isExpression h
  constructor
  · exact fun hgroups => hgroups.splitGroups_eq.symm
  · rintro rfl
    rw [groupsOf, hread.splitGroups_eq]
    exact hread

/-- A predicate list holds if one of its groups holds as a whole. -/
theorem predicateHolds_eq_any (holds : Predicate → Bool) (ps : List Predicate) :
    predicateHolds holds ps = (groupsOf ps).any (List.all · holds) := by
  cases ps with
  | nil => rfl
  | cons p ps =>
    obtain ⟨groups, hread, hvalue⟩ := exists_isExpression (List.cons_ne_nil p ps)
    rw [hvalue, (isExpression_iff (List.cons_ne_nil p ps)).mp hread]

/-- One more test after an `AND` goes to the last group of what is read. -/
theorem splitGroups_append_and {α : Type} (a : α) (ws : List (Piece α)) :
    (splitGroups (ws ++ [.link .and, .test a])).1 ::
        (splitGroups (ws ++ [.link .and, .test a])).2 =
      ((splitGroups ws).1 :: (splitGroups ws).2).dropLast ++
        [((splitGroups ws).1 :: (splitGroups ws).2).getLast (List.cons_ne_nil _ _) ++ [a]] := by
  induction ws with
  | nil => rfl
  | cons w ws ih =>
    cases w with
    | test b =>
      -- the test goes to the group at hand, which is the last one if no other comes after it
      cases hgroups : (splitGroups ws).2 with
      | nil =>
        simp only [hgroups, List.dropLast_singleton, List.getLast_singleton, List.nil_append,
          List.cons.injEq] at ih
        simp [splitGroups, hgroups, ih]
      | cons group groups =>
        simp only [hgroups, List.dropLast_cons_cons, List.getLast_cons_cons, List.cons_append,
          List.cons.injEq] at ih
        simp [splitGroups, hgroups, ih]
    | link c =>
      cases c with
      | and => exact ih
      | or => simp [splitGroups, ih]

/-- One more predicate after an `AND` goes to the last group; the groups before it are as they
were. -/
theorem groupsOf_append_and {p : Predicate} (h : p.logical = .and) (ps : List Predicate) :
    groupsOf (ps ++ [p]) =
      (groupsOf ps).dropLast ++ [(groupsOf ps).getLast (groupsOf_ne_nil ps) ++ [p]] := by
  cases ps with
  | nil => rfl
  | cons q qs =>
    have hpieces : pieces (q :: qs ++ [p]) = pieces (q :: qs) ++ [.link .and, .test p] := by
      simp [pieces, h]
    rw [groupsOf, hpieces]
    exact splitGroups_append_and p (pieces (q :: qs))

/-- One more predicate after an `AND` restricts the last group alone: the list holds if one of the
groups before it does, or the last one together with the new predicate. -/
theorem predicateHolds_append_and (holds : Predicate → Bool) {p : Predicate}
    (h : p.logical = .and) (ps : List Predicate) :
    predicateHolds holds (ps ++ [p]) =
      ((groupsOf ps).dropLast.any (List.all · holds) ||
        (((groupsOf ps).getLast (groupsOf_ne_nil ps)).all holds && holds p)) := by
  rw [predicateHolds_eq_any, groupsOf_append_and h]
  simp

/-- Predicates that all but the first come after an `AND` are one group. -/
theorem groupsOf_eq_singleton {p : Predicate} {ps : List Predicate}
    (h : ∀ q ∈ ps, q.logical = .and) : groupsOf (p :: ps) = [p :: ps] := by
  have hread : ∀ p, IsTerm (pieces (p :: ps)) (p :: ps) := by
    induction ps with
    | nil => exact .test
    | cons q qs ih =>
      obtain ⟨hq, hqs⟩ := List.forall_mem_cons.mp h
      intro p
      rw [pieces_cons_cons, hq]
      exact .and p (ih hqs q)
  exact (IsExpression.term (hread p)).splitGroups_eq

/-! ## Rows -/

namespace Descriptor

/-- A predicate list is written as its pieces with spaces between them, and a row is kept by the
value of what is read from these pieces: by an empty list always, else if one of the groups that
`OR` separates holds as a whole. There is one reading. With another connective before the first
predicate the text is the same, and the same rows are kept.

**Proof sketch.** The chunks of a predicate list are its pieces, which gives the text. The walk over
the predicates carries the value of the group that it is in, and a new group begins at every `OR`;
so by induction it comes to the groups of the reading, which `isExpression_iff` says is the only
one. Neither looks at the first connective. -/
theorem keeps_eq_reading (d : Descriptor) (row : Row) :
    whereStatement d.wheres = writtenPieces (pieces d.wheres) ∧
    (d.wheres = [] → d.keeps row = true) ∧
    (d.wheres ≠ [] → ∃ groups,
      (∀ groups', IsExpression (pieces d.wheres) groups' ↔ groups' = groups) ∧
      d.keeps row = groups.any fun group => group.all (Predicate.holds row)) ∧
    ∀ p ps c, d.wheres = p :: ps →
      whereStatement (p.linked c :: ps) = whereStatement d.wheres ∧
      ({ d with wheres := p.linked c :: ps } : Descriptor).keeps row = d.keeps row := by
  refine ⟨whereStatement_eq_writtenPieces d.wheres, fun hnil => ?_, fun hsome => ?_,
    fun p ps c hfirst => ⟨?_, ?_⟩⟩
  · rw [keeps, hnil, predicateHolds]
  · exact ⟨groupsOf d.wheres, fun _ => isExpression_iff hsome, predicateHolds_eq_any _ _⟩
  · rw [hfirst, whereStatement_linked]
  · rw [keeps, keeps, hfirst, predicateHolds, predicateHolds, Predicate.holds_linked]

/-- Four tests, the second after an `AND` and the third after an `OR`. -/
def eitherBorrowed : Descriptor :=
  { Descriptor.new "t" with
    wheres := [.basic "a" .eq (.int 1) .or, .null "b" false .and, .basic "a" .eq (.int 2) .or,
      .basic "c" .eq (.text "x") .and] }

/-- The row fails the first test of the first group and passes both tests of the second one. -/
theorem keeps_eq_reading_eitherBorrowed :
    IsExpression (pieces eitherBorrowed.wheres)
        [[.basic "a" .eq (.int 1) .or, .null "b" false .and],
          [.basic "a" .eq (.int 2) .or, .basic "c" .eq (.text "x") .and]] ∧
      eitherBorrowed.keeps [("a", .int 2), ("c", .text "x")] = true ∧
      eitherBorrowed.keeps [("a", .int 2)] = false := by
  have hread : IsExpression (pieces eitherBorrowed.wheres)
      [[.basic "a" .eq (.int 1) .or, .null "b" false .and],
        [.basic "a" .eq (.int 2) .or, .basic "c" .eq (.text "x") .and]] :=
    .or (.and _ (.test _)) (.term (.and _ (.test _)))
  obtain ⟨groups, hunique, hkept⟩ := (keeps_eq_reading eitherBorrowed
    [("a", .int 2), ("c", .text "x")]).2.2.1 (List.cons_ne_nil _ _)
  obtain ⟨groups', hunique', hleft⟩ := (keeps_eq_reading eitherBorrowed
    [("a", .int 2)]).2.2.1 (List.cons_ne_nil _ _)
  obtain rfl := (hunique _).mp hread
  obtain rfl := (hunique' _).mp hread
  refine ⟨hread, hkept.trans ?_, hleft.trans ?_⟩ <;> decide +kernel

end Descriptor

end FluentSql
