import FluentSql.Proofs.Rows.Grouping
import FluentSql.Proofs.Session.Tables

set_option autoImplicit false

/-!
# Finding a row by its identifier

In a simulation, a row is found by an identifier by asking for one more predicate, after an `AND`.
That goes to the last of the groups that `OR` separates in the query. A row that one of the groups
before keeps is kept whatever its identifier is, and can be what is found.

## Main definitions

* `FluentSql.Descriptor.keepsRegardless` — a group before the last one holds on a row.
* `FluentSql.Descriptor.foundBy` — the row that is found among some rows.
* `FluentSql.Session.LooksUp` — a builder looks for an identifier in a running simulation.

## Main results

* `FluentSql.Descriptor.keeps_withId` — the rows that are kept together with an identifier.
* `FluentSql.Descriptor.mem_of_foundBy` — what can be found.
* `FluentSql.Act.run_find` — what is found.
* `FluentSql.Act.find_finds_id_iff` — when it is sure to have the identifier.
-/

namespace FluentSql

/-! ## The query -/

namespace Descriptor

/-- Whether one of the groups before the last one holds on a row, as a whole. -/
def keepsRegardless (d : Descriptor) (row : Row) : Bool :=
  (groupsOf d.wheres).dropLast.any fun group => group.all (Predicate.holds row)

/-- A row is kept together with an identifier if a group before the last one holds, or the last one
holds and the row has the identifier. -/
theorem keeps_withId (d : Descriptor) (v : Value) (row : Row) :
    (d.withId v).keeps row = (d.keepsRegardless row ||
      (((groupsOf d.wheres).getLast (groupsOf_ne_nil d.wheres)).all (Predicate.holds row) &&
        (row.value "id").equal v)) :=
  predicateHolds_append_and (Predicate.holds row) rfl d.wheres

/-- Where all predicates but the first come after an `AND`, there is no group before the last one.
-/
theorem keepsRegardless_eq_false {d : Descriptor} (h : ∀ p ∈ d.wheres.tail, p.logical = .and)
    (row : Row) : d.keepsRegardless row = false := by
  rw [keepsRegardless]
  cases hwheres : d.wheres with
  | nil => rfl
  | cons p ps =>
    rw [hwheres, List.tail_cons] at h
    rw [groupsOf_eq_singleton h]
    rfl

/-- The row that is found by an identifier: of the rows that are kept, the one that stands where the
offset points to. -/
def foundBy (d : Descriptor) (start : Int) (v : Value) (rows : List Row) : Option Row :=
  (slice (rows.filter (d.withId v).keeps) start (start + 1)).head?

/-- The query for an identifier, cut to its first row, selects what is found. -/
theorem selectRows_withId {d : Descriptor} {start : Int}
    (hoffset : d.offset.orElse (.int 0) = .int start) (v : Value) (rows : List Row) :
    (d.withId v).firstOnly.selectRows (rowsValue rows) =
      .ok ((slice (rows.filter (d.withId v).keeps) start (start + 1)).map .map) :=
  @selectRows_of_limit_int (d.withId v).firstOnly start 1 hoffset rfl rows

/-- What is found is one of the rows. It is kept regardless of its identifier, or has the one that
was asked for.

**Proof sketch.** It is the first row of a slice of those that are kept together with the
identifier, and `keeps_withId` says which these are. -/
theorem mem_of_foundBy {d : Descriptor} {start : Int} {v : Value} {rows : List Row} {row : Row}
    (h : d.foundBy start v rows = some row) :
    row ∈ rows ∧ (d.keepsRegardless row = true ∨ (row.value "id").equal v = true) := by
  obtain ⟨hmem, hkeeps⟩ :=
    List.mem_filter.mp ((slice_sublist _ _ _).subset (List.mem_of_head? h))
  rw [d.keeps_withId, Bool.or_eq_true, Bool.and_eq_true] at hkeeps
  exact ⟨hmem, hkeeps.imp_right And.right⟩

/-- The slice that is one item long and begins at the last one is empty. -/
theorem foundBy_neg_one (d : Descriptor) (v : Value) (rows : List Row) :
    d.foundBy (-1) v rows = none := by
  have hstop : clampIndex (rows.filter (d.withId v).keeps).length (-1 + 1) = 0 := by
    rw [clampIndex, if_neg (by decide)]
    exact Nat.zero_min _
  rw [foundBy, slice, hstop, List.take_zero, List.drop_nil]
  rfl

/-- A row that is kept is found among enough of its like. -/
theorem foundBy_replicate {d : Descriptor} {start : Int} (hstart : start ≠ -1) {v : Value}
    {row : Row} (h : (d.withId v).keeps row = true) :
    d.foundBy start v (List.replicate (start.natAbs + 1) row) = some row := by
  have hfilter : (List.replicate (start.natAbs + 1) row).filter (d.withId v).keeps =
      List.replicate (start.natAbs + 1) row :=
    List.filter_eq_self.mpr fun other hother => (List.eq_of_mem_replicate hother) ▸ h
  have hroom : clampIndex (start.natAbs + 1) start <
      min (clampIndex (start.natAbs + 1) (start + 1)) (start.natAbs + 1) := by
    simp only [clampIndex]
    split <;> split <;> omega
  rw [foundBy, hfilter, slice, List.length_replicate, List.take_replicate, List.drop_replicate,
    List.head?_replicate, if_neg (by omega)]

end Descriptor

/-! ## Values of the session -/

theorem mapPredicates_append (f : Value → Value) (ps qs : List Predicate) :
    mapPredicates f (ps ++ qs) = mapPredicates f ps ++ mapPredicates f qs := by
  induction ps with
  | nil => rfl
  | cons p ps ih => rw [List.cons_append, mapPredicates, mapPredicates, ih, List.cons_append]

/-- The query for an identifier asks for what it has come to, of what the query has come to. -/
theorem Session.currentQuery_withId (s : Session) (d : Descriptor) (key : Value) :
    s.currentQuery (d.withId key).firstOnly =
      ((s.currentQuery d).withId (s.current key)).firstOnly := by
  have hone : s.current (.int 1) = .int 1 := s.current_of_closed rfl
  rw [currentQuery, currentQuery]
  cases hlinked : s.linked with
  | false =>
    rw [current, hlinked]
    rfl
  | true =>
    cases d
    simp only [if_true, Descriptor.withId, Descriptor.firstOnly, Descriptor.mapValues,
      mapPredicates_append, mapPredicates, Predicate.mapValues, hone]

/-- Lists of rows that are the same value are the same. -/
theorem rowsValue_inj {rows rows' : List Row} (h : rowsValue rows = rowsValue rows') :
    rows = rows' :=
  (List.map_inj_right fun _ _ => Value.map.inj).mp (Value.list.inj h)

/-- A list of rows stays one of as many rows, whatever its references are replaced by. -/
theorem exists_mapReferences_rowsValue (view : Source → Value → Value) (builder : Nat → Nat)
    (rows : List Row) :
    ∃ rows', rows'.length = rows.length ∧
      (rowsValue rows).mapReferences view builder = rowsValue rows' := by
  have hitems : mapItems view builder (rows.map .map) =
      (rows.map (mapFields view builder)).map .map := by
    induction rows with
    | nil => rfl
    | cons row rows ih =>
      rw [List.map_cons, mapItems, ih, Value.mapReferences]
      rfl
  refine ⟨rows.map (mapFields view builder), List.length_map _, ?_⟩
  rw [rowsValue, Value.mapReferences, hitems]
  rfl

/-- A list of rows with its views looked at again is one of as many rows. -/
theorem Session.exists_current_rowsValue (s : Session) (rows : List Row) :
    ∃ rows', rows'.length = rows.length ∧ s.current (rowsValue rows) = rowsValue rows' := by
  rw [current]
  cases s.linked with
  | false => exact ⟨rows, rfl, rfl⟩
  | true => exact exists_mapReferences_rowsValue _ _ rows

/-! ## Sessions that look for a row -/

/-- A builder of a session looks for an identifier: it has the query `d` by now, the identifier
asked for is `v` by now, and a simulation runs in which the table of the query has some rows. -/
def Session.LooksUp (s : Session) (id : Nat) (key : Value) (d : Descriptor) (v : Value)
    (stored : List Row) : Prop :=
  ∃ b, s.builders.get? id = some b ∧ s.simulating b.options.simulation = true ∧
    (s.snapshot b.options.simulation).Has b.table stored ∧
    s.currentQuery b.descriptor = d ∧ s.current key = v

/-- A session with a running simulation that has some rows in the table of a query, and a builder
that asks for it. -/
def Descriptor.ward (d : Descriptor) (rows : List Row) : Session where
  clock := default
  simulations := .single "main" {
    active := true
    state := Snapshot.put [] d.table (.ofValue 0 (rowsValue rows)) }
  builders := { items := [{ descriptor := d, options := {} }] }

/-- The builder of such a session looks for every identifier in these rows. -/
theorem Descriptor.looksUp_ward (d : Descriptor) (v : Value) (rows : List Row) :
    (d.ward rows).LooksUp 0 v d v rows := by
  refine ⟨_, rfl, rfl, .inl ?_, rfl, rfl⟩
  exact (Snapshot.value_put [] d.table _).trans (Table.value_ofValue 0 _)

/-! ## Looking for a row -/

namespace Act

variable {reactor : Reactor} {s : Session} {id : Nat} {key : Value} {d : Descriptor}
  {start : Int} {v : Value} {stored : List Row}

/-- A copy of a list of rows is one of as many rows. -/
theorem exists_run_copy_rowsValue (reactor : Reactor) (s : Session) (rows : List Row) :
    ∃ copies t, copies.length = rows.length ∧
      (copy (rowsValue rows)).run reactor s = (.ok (rowsValue copies), t) := by
  rw [copy, run_get_bind]
  cases s.linked with
  | false => exact ⟨rows, s, rfl, rfl⟩
  | true =>
    obtain ⟨renamed, hlength, hrenamed⟩ : ∃ renamed, renamed.length = rows.length ∧
        (rowsValue rows).rename (s.copyBuilders (rowsValue rows).references).1 =
          rowsValue renamed :=
      exists_mapReferences_rowsValue _ _ rows
    obtain ⟨copies, hlength', hcopies⟩ :=
      (s.copyBuilders (rowsValue rows).references).2.exists_current_rowsValue renamed
    refine ⟨copies, (s.copyBuilders (rowsValue rows).references).2, hlength'.trans hlength, ?_⟩
    simp only [Bool.not_true, Bool.false_eq_true, if_false]
    rw [run_get_bind, run_bind_of_ok _ _ (run_set _ _ _), hrenamed, run_current, hcopies]

/-- In a running simulation a builder reads what its query selects from a copy of the rows of its
table. -/
theorem run_rows_of_has {b : Builder} {rows : List Row} {found : List Value} {t : Session}
    (hrunning : s.simulating b.options.simulation = true)
    (hhas : (s.snapshot b.options.simulation).Has b.table stored)
    (hcopy : (copy (rowsValue stored)).run reactor s = (.ok (rowsValue rows), t))
    (hlength : rows.length = stored.length)
    (hfound : (s.currentQuery b.descriptor).selectRows (rowsValue rows) = .ok found) :
    ∃ u, (Act.rows b).run reactor s = (.ok found, u) := by
  rw [Act.rows, run_get_bind, if_pos hrunning, simulatedRows, run_get_bind]
  rcases hhas with hvalue | ⟨hvalue, rfl⟩
  · refine ⟨t, ?_⟩
    rw [hvalue]
    refine (run_bind_of_ok _ _ hcopy _).trans ?_
    rw [run_of, hfound]
  · refine ⟨s, ?_⟩
    obtain rfl := List.eq_nil_of_length_eq_zero hlength
    obtain ⟨kept, hkept, rfl⟩ := Descriptor.exists_of_selectRows_eq_ok hfound
    rw [hvalue, List.sublist_nil.mp hkept]
    rfl

/-- The row that is found is the one that the query finds by the identifier in a copy of the rows,
and null if there is none.

**Proof sketch.** Finding reads through a clone of the builder with one more predicate and a limit
of one. What the query and the key have come to is the same for the clone. -/
theorem run_find (reactor : Reactor) (hoffset : d.offset.orElse (.int 0) = .int start)
    (h : s.LooksUp id key d v stored) :
    ∃ rows, ((copy (rowsValue stored)).run reactor s).1 = .ok (rowsValue rows) ∧
      ((find id key).run reactor s).1 = .ok ((d.foundBy start v rows).elim .null .map) := by
  obtain ⟨b, hb, hrunning, hhas, hd, hv⟩ := h
  obtain ⟨rows, t, hlength, hcopy⟩ := exists_run_copy_rowsValue reactor s stored
  have hquery : s.currentQuery (b.clone.edit fun d => (d.withId key).firstOnly).descriptor =
      (d.withId v).firstOnly := by
    rw [← hd, ← hv]
    exact s.currentQuery_withId b.descriptor key
  obtain ⟨u, hrows⟩ := @run_rows_of_has reactor s stored
    (b.clone.edit fun d => (d.withId key).firstOnly) rows _ t hrunning hhas hcopy hlength
    ((congrArg (Descriptor.selectRows · (rowsValue rows)) hquery).trans
      (Descriptor.selectRows_withId hoffset v rows))
  refine ⟨rows, congrArg Prod.fst hcopy, ?_⟩
  rw [find, run_builder_bind _ _ hb, run_bind_of_ok _ _ hrows, run_pure, Descriptor.foundBy]
  cases slice (rows.filter (d.withId v).keeps) start (start + 1) <;> rfl

/-! ## When it has the identifier -/

/-- A row that is kept regardless of its identifier is found by every identifier. -/
theorem run_find_ward (reactor : Reactor) (hoffset : d.offset.orElse (.int 0) = .int start)
    (hstart : start ≠ -1) {row : Row} (hrow : d.keepsRegardless row = true) (v : Value) :
    ((find 0 v).run reactor (d.ward (List.replicate (start.natAbs + 1) row))).1 =
      .ok (.map row) := by
  have hkept : (d.withId v).keeps row = true := by rw [d.keeps_withId, hrow, Bool.true_or]
  obtain ⟨rows, hcopy, hfind⟩ := run_find reactor hoffset
    (d.looksUp_ward v (List.replicate (start.natAbs + 1) row))
  have hsame : rowsValue (List.replicate (start.natAbs + 1) row) = rowsValue rows :=
    Except.ok.inj ((congrArg Prod.fst (run_copy rfl _)).symm.trans hcopy)
  obtain rfl := rowsValue_inj hsame
  rw [hfind, Descriptor.foundBy_replicate hstart hkept]
  rfl

/-- What is found by an identifier is a row of the table that has the identifier or is kept by a
group before the last one. A query is sure to find nothing or a row that has it, in every running
simulation, just if every row that a group before the last one keeps has the identifier; or if its
offset is -1, where nothing is found. Without an `OR` there is no such group.

**Proof sketch.** The new predicate joins the last group, so a row is found by it or by a group
before it. For the other direction a row that such a group keeps is put in a table of its own, often
enough for the offset to leave one, and is found there. -/
theorem find_finds_id_iff (hoffset : d.offset.orElse (.int 0) = .int start) :
    (∀ (s : Session) (id : Nat) (key : Value) (stored : List Row), s.LooksUp id key d v stored →
      ∃ rows, ((copy (rowsValue stored)).run reactor s).1 = .ok (rowsValue rows) ∧
        ((find id key).run reactor s).1 = .ok ((d.foundBy start v rows).elim .null .map) ∧
        ∀ row, d.foundBy start v rows = some row → row ∈ rows ∧
          (d.keepsRegardless row = true ∨ (row.value "id").equal v = true)) ∧
    ((∀ (s : Session) (id : Nat) (key : Value) (stored : List Row), s.LooksUp id key d v stored →
        ((find id key).run reactor s).1 = .ok .null ∨
        ∃ row : Row, ((find id key).run reactor s).1 = .ok (.map row) ∧
          (row.value "id").equal v = true) ↔
      start = -1 ∨ ∀ row, d.keepsRegardless row = true → (row.value "id").equal v = true) ∧
    ((∀ p ∈ d.wheres.tail, p.logical = .and) → ∀ row, d.keepsRegardless row = false) := by
  refine ⟨fun s id key stored h => ?_, ⟨fun hright => ?_, fun hcases s id key stored h => ?_⟩,
    fun hands => Descriptor.keepsRegardless_eq_false hands⟩
  · obtain ⟨rows, hcopy, hfind⟩ := run_find reactor hoffset h
    exact ⟨rows, hcopy, hfind, fun row hrow => Descriptor.mem_of_foundBy hrow⟩
  · by_cases hstart : start = -1
    · exact .inl hstart
    · refine .inr fun row hrow => ?_
      have hfind := run_find_ward reactor hoffset hstart hrow v
      rcases hright _ 0 v _ (d.looksUp_ward v (List.replicate (start.natAbs + 1) row)) with
        hnull | ⟨row', hrow', hequal⟩
      · cases hfind.symm.trans hnull
      · cases hfind.symm.trans hrow'
        exact hequal
  · obtain ⟨rows, -, hfind⟩ := run_find reactor hoffset h
    cases hrow : d.foundBy start v rows with
    | none =>
      rw [hrow] at hfind
      exact .inl hfind
    | some row =>
      rw [hrow] at hfind
      refine .inr ⟨row, hfind, ?_⟩
      rcases hcases with rfl | hregardless
      · rw [Descriptor.foundBy_neg_one] at hrow
        cases hrow
      · exact (Descriptor.mem_of_foundBy hrow).2.elim (hregardless row) fun hequal => hequal

/-- A query for the rows that have an identifier, and those that have 2 under a column. -/
def relatives : Descriptor :=
  { Descriptor.new "t" with
    wheres := [.basic "id" .eq (.int 5) .and, .basic "b" .eq (.int 2) .or] }

/-- What the first group keeps has the identifier, so what is found does, whatever rows there are.
-/
theorem find_finds_id_iff_relatives :
    relatives.offset.orElse (.int 0) = .int 0 ∧
    (∀ row, relatives.keepsRegardless row = true → (row.value "id").equal (.int 5) = true) ∧
    ∀ rows : List Row,
      ((find 0 (.int 5)).run .still (relatives.ward rows)).1 = .ok .null ∨
      ∃ row : Row, ((find 0 (.int 5)).run .still (relatives.ward rows)).1 = .ok (.map row) ∧
        (row.value "id").equal (.int 5) = true := by
  have hregardless : ∀ row, relatives.keepsRegardless row = true →
      (row.value "id").equal (.int 5) = true := by
    intro row hrow
    simpa [Descriptor.keepsRegardless, relatives, groupsOf, pieces, splitGroups, Predicate.logical,
      Predicate.holds] using hrow
  exact ⟨rfl, hregardless, fun rows => ((@find_finds_id_iff .still relatives 0 (.int 5) rfl).2.1.mpr
    (.inr hregardless)) _ 0 _ rows (relatives.looksUp_ward (.int 5) rows)⟩

/-- A query for the rows that have 1 under a column, and those that have 2 under another one. -/
def strangers : Descriptor :=
  { Descriptor.new "t" with
    wheres := [.basic "a" .eq (.int 1) .and, .basic "b" .eq (.int 2) .or] }

/-- By an identifier that no row has, the row is found that the first group keeps. -/
theorem find_finds_stranger :
    ((find 0 (.int 5)).run .still (strangers.ward [[("id", .int 1), ("a", .int 1)]])).1 =
      .ok (.map [("id", .int 1), ("a", .int 1)]) ∧
    (Fields.value [("id", .int 1), ("a", .int 1)] "id").equal (.int 5) = false ∧
    (Value.int 5).isNull = false ∧ (Value.int 5).equal (.int 5) = true := by
  have hregardless : strangers.keepsRegardless [("id", .int 1), ("a", .int 1)] = true := by
    decide +kernel
  exact ⟨@run_find_ward strangers 0 .still rfl (by decide) _ hregardless (.int 5),
    by decide +kernel, rfl, by decide +kernel⟩

end Act

end FluentSql
