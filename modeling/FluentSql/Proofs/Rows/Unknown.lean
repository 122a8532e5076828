import FluentSql.Proofs.Statement.Reading
import FluentSql.Proofs.Value.Equality

set_option autoImplicit false

/-!
# Rows in memory and rows of a database

In SQL a comparison with null is unknown, and a row is kept only where the predicate is true. In
memory null equals null. The two are compared for queries that test nothing but equality with bound
values: a row that the database keeps is kept in memory too, and a row that is kept in memory alone
owes it to a null that was bound, in every group of tests that holds.

## Main definitions

* `FluentSql.Truth` — the three truth values of SQL, with `and`, `or`, `all` and `any`.
* `FluentSql.Value.sqlEqual` — equality of values as SQL has it.
* `FluentSql.SqlKeeps` — the predicate list is true on a row, read with `AND` tighter than `OR`.

## Main results

* `FluentSql.Value.isNull_bare_of_equal` — only null equals null.
* `FluentSql.Descriptor.keeps_eq_sqlKeeps` — where memory and database keep the same rows.
* `FluentSql.Descriptor.keeps_null_without_sqlKeeps` — and a row on which they part.
-/

namespace FluentSql

/-! ## Truth values -/

/-- The truth values of SQL. -/
inductive Truth where
  | no | unknown | yes
  deriving DecidableEq, Repr, Inhabited

namespace Truth

/-- What is decided is not unknown. -/
def ofBool (b : Bool) : Truth := if b then .yes else .no

/-- Both: no if one of them is no, else unknown if one of them is unknown. -/
def and : Truth → Truth → Truth
  | .no, _ => .no
  | .unknown, .no => .no
  | .unknown, _ => .unknown
  | .yes, t => t

/-- One of two: yes if one of them is yes, else unknown if one of them is unknown. -/
def or : Truth → Truth → Truth
  | .yes, _ => .yes
  | .unknown, .yes => .yes
  | .unknown, _ => .unknown
  | .no, t => t

/-- All of some. -/
def all (ts : List Truth) : Truth := ts.foldr and .yes

/-- One of some. -/
def any (ts : List Truth) : Truth := ts.foldr or .no

@[simp] theorem ofBool_eq_yes (b : Bool) : ofBool b = .yes ↔ b = true := by
  cases b <;> simp [ofBool]

theorem and_eq_yes (t u : Truth) : t.and u = .yes ↔ t = .yes ∧ u = .yes := by
  cases t <;> cases u <;> simp [Truth.and]

theorem or_eq_yes (t u : Truth) : t.or u = .yes ↔ t = .yes ∨ u = .yes := by
  cases t <;> cases u <;> simp [Truth.or]

/-- All of some are true exactly if each is. -/
theorem all_eq_yes (ts : List Truth) : all ts = .yes ↔ ∀ t ∈ ts, t = .yes := by
  induction ts with
  | nil => simp [all]
  | cons t ts ih =>
    rw [all, List.foldr_cons, and_eq_yes, ← all, ih]
    simp

/-- One of some is true exactly if there is one that is. -/
theorem any_eq_yes (ts : List Truth) : any ts = .yes ↔ .yes ∈ ts := by
  induction ts with
  | nil => simp [any]
  | cons t ts ih =>
    rw [any, List.foldr_cons, or_eq_yes, ← any, ih, List.mem_cons, eq_comm]

end Truth

/-! ## Equality with null -/

namespace Value

/-- Equality as SQL has it: unknown if one of the values is null. -/
def sqlEqual (v w : Value) : Truth :=
  if v.bare.isNull || w.bare.isNull then .unknown else .ofBool (v.equal w)

/-- What shows null is the same as what shows null alone. -/
theorem same_of_isNull_bare (marked : Bool) (w : Value) :
    ∀ v : Value, v.bare.isNull = true → v.same marked w = w.bare.isNull
  | .view _ seen, h => by rw [same, same_of_isNull_bare marked w.bare seen h, bare_bare]
  | .null, _ => by rw [same]

/-- Nothing but what shows null is the same as what shows null. -/
theorem isNull_bare_of_same (marked : Bool) {w : Value} (hw : w.bare = .null) :
    ∀ v : Value, v.same marked w = true → v.bare.isNull = true
  | .view _ seen, h => by
    rw [same] at h
    exact isNull_bare_of_same marked (by rw [bare_bare, hw]) seen h
  | .null, _ => rfl
  | .bool _, h | .int _, h | .float _, h | .nan _, h | .text _, h | .list _, h | .tuple _, h
  | .map _, h | .bytes _, h | .moment _, h | .writeResult .., h | .queryResult .., h
  | .object _, h | .raw _, h | .statement .., h | .builder .., h | .record .., h | .again, h
  | .function .., h => by
    unfold same at h
    rw [hw] at h
    exact h

/-- Of two equal values both are null or neither is: null is equal to nothing but itself, on
whichever side it stands. -/
theorem isNull_bare_of_equal {v w : Value} (h : v.equal w = true) :
    v.bare.isNull = w.bare.isNull := by
  cases hv : v.bare.isNull with
  | true => exact ((same_of_isNull_bare false w v hv).symm.trans h).symm
  | false =>
    cases hw : w.bare.isNull with
    | false => rfl
    | true =>
      have hnull : w.bare = .null := by
        cases hb : w.bare <;> rw [hb] at hw <;> first | rfl | cases hw
      rw [isNull_bare_of_same false hnull v h] at hv
      cases hv

/-- In SQL two values are equal exactly if they are equal and the second is not null. -/
theorem sqlEqual_eq_yes (v w : Value) :
    v.sqlEqual w = .yes ↔ v.equal w = true ∧ w.bare.isNull = false := by
  rw [sqlEqual]
  cases hw : w.bare.isNull with
  | true => simp
  | false =>
    cases hv : v.bare.isNull with
    | false => simp
    | true =>
      have hne : v.equal w = false := by
        rw [Bool.eq_false_iff]
        intro h
        simp [isNull_bare_of_equal h, hw] at hv
      simp [hne]

end Value

/-! ## Predicates under three values -/

/-- The truth of a test of equality on a row as SQL has it. Other tests are left unknown. -/
def Predicate.truth (row : Row) : Predicate → Truth
  | .basic name .eq value _ => (Fields.value row name).sqlEqual value
  | _ => .unknown

/-- Whether a predicate compares with null. -/
def Predicate.bindsNull : Predicate → Bool
  | .basic _ _ value _ => value.bare.isNull
  | _ => false

/-- A test that looks at the row is one of equality with a bound value. -/
theorem Predicate.exists_of_decides {p : Predicate} (h : p.decides = true) :
    ∃ (column : String) (value : Value) (logical : Connective),
      p = .basic column .eq value logical := by
  cases p with
  | basic column operator value logical =>
    cases operator with
    | eq => exact ⟨column, value, logical, rfl⟩
    | _ => cases h
  | _ => cases h

/-- The truth of groups of tests: of all tests of one of the groups. -/
def groupsTruth (row : Row) (groups : List (List Predicate)) : Truth :=
  .any (groups.map fun group => .all (group.map (Predicate.truth row)))

/-- A predicate list is true on a row as SQL has it: there is none, or its pieces are read as an
expression that is true. -/
def SqlKeeps (ps : List Predicate) (row : Row) : Prop :=
  ps = [] ∨ ∃ groups, IsExpression (pieces ps) groups ∧ groupsTruth row groups = .yes

/-- A test of equality is true in SQL exactly if it holds in memory and does not compare with null.
-/
theorem Predicate.truth_eq_yes {p : Predicate} (h : p.decides = true) (row : Row) :
    p.truth row = .yes ↔ p.holds row = true ∧ p.bindsNull = false := by
  obtain ⟨column, value, logical, rfl⟩ := p.exists_of_decides h
  exact Value.sqlEqual_eq_yes (Fields.value row column) value

/-- Groups of tests are true exactly if all tests of one of them are. -/
theorem groupsTruth_eq_yes (row : Row) (groups : List (List Predicate)) :
    groupsTruth row groups = .yes ↔ ∃ group ∈ groups, ∀ p ∈ group, p.truth row = .yes := by
  simp [groupsTruth, Truth.any_eq_yes, Truth.all_eq_yes]

/-- With a reading at hand, a predicate list of tests of equality is true on a row exactly if all
tests of one of the groups hold and compare with no null. -/
theorem sqlKeeps_iff {ps : List Predicate} (h : ∀ p ∈ ps, p.decides = true)
    {groups : List (List Predicate)} (hreading : IsExpression (pieces ps) groups) (row : Row) :
    SqlKeeps ps row ↔
      ∃ group ∈ groups, ∀ p ∈ group, p.holds row = true ∧ p.bindsNull = false := by
  have hne : ps ≠ [] := fun hnil => hreading.ne_nil (by rw [hnil, pieces])
  have htruth : groupsTruth row groups = .yes ↔
      ∃ group ∈ groups, ∀ p ∈ group, p.holds row = true ∧ p.bindsNull = false := by
    rw [groupsTruth_eq_yes]
    refine exists_congr fun group => and_congr_right fun hgroup => ?_
    refine forall_congr' fun p => imp_congr_right fun hp => p.truth_eq_yes (h p ?_) row
    exact mem_of_test_mem_pieces (hreading.test_mem group hgroup p hp)
  rw [← htruth]
  constructor
  · rintro (hnil | ⟨groups', hreading', hyes⟩)
    · exact absurd hnil hne
    · rwa [hreading.unique hreading']
  · exact fun hyes => .inr ⟨groups, hreading, hyes⟩

/-! ## Memory and database -/

/-- A test for equality with a bound value is written as `column = ?`, and is the comparison that
this means. -/
theorem Predicate.written_of_decides {p : Predicate} (h : p.decides = true) (row : Row) :
    ∃ (column : String) (value : Value),
      (Piece.test p).written = .ok { sql := column ++ " = ?", bindings := [value] } ∧
      p.truth row = (Fields.value row column).sqlEqual value := by
  obtain ⟨column, value, logical, rfl⟩ := p.exists_of_decides h
  refine ⟨column, value, ?_, rfl⟩
  simp [Piece.written_test, Predicate.chunks, Except.map, Statement.ofChunks, Chunk.sql,
    Chunk.bindings, Operator.keyword, String.append_assoc]

namespace Descriptor

/-- A row is kept in memory exactly if all tests of some group hold on it. -/
theorem keeps_iff {d : Descriptor} {groups : List (List Predicate)} (hnil : d.wheres ≠ [])
    (hreading : IsExpression (pieces d.wheres) groups) (row : Row) :
    d.keeps row = true ↔ ∃ group ∈ groups, ∀ p ∈ group, p.holds row = true := by
  obtain ⟨groups', hreading', hvalue⟩ := exists_isExpression hnil
  rw [hreading.unique hreading', keeps, hvalue]
  simp

/-- A query that tests nothing but equality with bound values is written as `column = ?` for each
test, and its text can be read in one way. A row that the database keeps is kept in memory. A row is
kept in memory alone exactly if every group of tests that holds compares with null; so memory and
database keep the same rows where no null is bound.

**Proof sketch.** The walk along the list comes to the value of the reading in two truth values. A
test is true in three truth values exactly if it holds in two and compares with no null. -/
theorem keeps_eq_sqlKeeps {d : Descriptor} (h : ∀ p ∈ d.wheres, p.decides = true) (row : Row) :
    whereStatement d.wheres = writtenPieces (pieces d.wheres) ∧
    (∀ p ∈ d.wheres, ∃ (column : String) (value : Value),
      (Piece.test p).written = .ok { sql := column ++ " = ?", bindings := [value] } ∧
      p.truth row = (Fields.value row column).sqlEqual value) ∧
    (d.wheres ≠ [] → ∃ groups, IsExpression (pieces d.wheres) groups ∧
      ∀ groups', IsExpression (pieces d.wheres) groups' → groups = groups') ∧
    (SqlKeeps d.wheres row → d.keeps row = true) ∧
    (d.keeps row = true ∧ ¬ SqlKeeps d.wheres row ↔
      d.keeps row = true ∧ ∃ groups, IsExpression (pieces d.wheres) groups ∧
        ∀ group ∈ groups, (∀ p ∈ group, p.holds row = true) → ∃ p ∈ group, p.bindsNull = true) ∧
    ((∀ p ∈ d.wheres, p.bindsNull = false) → (d.keeps row = true ↔ SqlKeeps d.wheres row)) := by
  refine ⟨whereStatement_eq_writtenPieces d.wheres,
    fun p hp => Predicate.written_of_decides (h p hp) row, ?_⟩
  by_cases hnil : d.wheres = []
  · have hkeeps : d.keeps row = true := by rw [keeps, hnil, predicateHolds]
    have hsql : SqlKeeps d.wheres row := .inl hnil
    refine ⟨fun hne => absurd hnil hne, fun _ => hkeeps, ?_, fun _ => iff_of_true hkeeps hsql⟩
    refine iff_of_false (fun hboth => hboth.2 hsql) ?_
    rintro ⟨-, groups, hreading, -⟩
    exact hreading.ne_nil (by rw [hnil, pieces])
  obtain ⟨groups, hreading, -⟩ := exists_isExpression hnil
  have hkeeps := keeps_iff hnil hreading row
  have hsql := sqlKeeps_iff h hreading row
  have hsound : SqlKeeps d.wheres row → d.keeps row = true := by
    rw [hsql, hkeeps]
    rintro ⟨group, hgroup, htrue⟩
    exact ⟨group, hgroup, fun p hp => (htrue p hp).1⟩
  refine ⟨fun _ => ⟨groups, hreading, fun _ => hreading.unique⟩, hsound,
    and_congr_right fun _ => ?_, fun hbound => ⟨fun hkept => ?_, hsound⟩⟩
  · rw [hsql]
    constructor
    · intro hnone
      refine ⟨groups, hreading, fun group hgroup hholds => ?_⟩
      refine Classical.byContradiction fun hbound => hnone ?_
      refine ⟨group, hgroup, fun p hp => ⟨hholds p hp, ?_⟩⟩
      exact Bool.eq_false_iff.mpr fun hnull => hbound ⟨p, hp, hnull⟩
    · rintro ⟨groups', hreading', hnulls⟩ ⟨group, hgroup, htrue⟩
      rw [hreading.unique hreading'] at hgroup
      obtain ⟨p, hp, hnull⟩ := hnulls group hgroup fun p hp => (htrue p hp).1
      rw [(htrue p hp).2] at hnull
      cases hnull
  · obtain ⟨group, hgroup, hholds⟩ := hkeeps.mp hkept
    refine hsql.mpr ⟨group, hgroup, fun p hp => ⟨hholds p hp, hbound p ?_⟩⟩
    exact mem_of_test_mem_pieces (hreading.test_mem group hgroup p hp)

/-- A query with an alternative. -/
def oneOrBoth : Descriptor :=
  { Descriptor.new "t" with
    wheres := [.basic "a" .eq (.int 1) .or, .basic "b" .eq (.int 2) .or,
      .basic "c" .eq (.text "x") .and] }

/-- A row whose first column is missing is kept by memory and database alike for the sake of the
second arm, and one that has half of that arm by neither. -/
theorem keeps_eq_sqlKeeps_oneOrBoth :
    (∀ p ∈ oneOrBoth.wheres, p.decides = true ∧ p.bindsNull = false) ∧
    SqlKeeps oneOrBoth.wheres [("b", .int 2), ("c", .text "x")] ∧
    ¬ SqlKeeps oneOrBoth.wheres [("b", .int 2), ("c", .null)] := by
  have hdecides : ∀ p ∈ oneOrBoth.wheres, p.decides = true := by decide
  have hbound : ∀ p ∈ oneOrBoth.wheres, p.bindsNull = false := by decide
  obtain ⟨-, -, -, -, -, hkept⟩ :=
    keeps_eq_sqlKeeps hdecides [("b", .int 2), ("c", .text "x")]
  obtain ⟨-, -, -, -, -, hdropped⟩ := keeps_eq_sqlKeeps hdecides [("b", .int 2), ("c", .null)]
  refine ⟨fun p hp => ⟨hdecides p hp, hbound p hp⟩, (hkept hbound).mp ?_, ?_⟩
  · decide +kernel
  · rw [← hdropped hbound]
    decide +kernel

/-- A query for the rows whose column equals null. -/
def equalsNull : Descriptor :=
  { Descriptor.new "t" with wheres := [.basic "a" .eq .null .and] }

/-- A row that holds null is kept in memory, while the database has its predicate unknown. So the
condition that no comparison meets null cannot be left out. -/
theorem keeps_null_without_sqlKeeps :
    (∀ p ∈ equalsNull.wheres, p.decides = true) ∧
    equalsNull.keeps [("a", .null)] = true ∧ ¬ SqlKeeps equalsNull.wheres [("a", .null)] := by
  have hdecides : ∀ p ∈ equalsNull.wheres, p.decides = true := by decide
  have hreading : IsExpression (pieces equalsNull.wheres) [equalsNull.wheres] :=
    .term (IsTerm.test (Predicate.basic "a" .eq .null .and))
  refine ⟨hdecides, by decide +kernel, ?_⟩
  rw [sqlKeeps_iff hdecides hreading]
  decide +kernel

end Descriptor

end FluentSql
