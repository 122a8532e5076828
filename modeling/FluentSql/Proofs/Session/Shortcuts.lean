import FluentSql.Proofs.Session.Finding
import FluentSql.Proofs.Session.Paging
import FluentSql.Proofs.Session.Routing

set_option autoImplicit false

/-!
# Shortcuts

The first row of a query, whether it has one, and the values of one column are asked for by shorter
calls than that for all rows. In a simulation each of them reads rows of its own, by a changed copy
of the query: cut to its first row, or with another select list. Filtering and cutting look at
neither select lists nor at how many rows there are to come, so what is answered is what there would
be in all rows. It is only the call for all rows that leaves something in the builder.

## Main definitions

* `FluentSql.Descriptor.WellCut` — a query that no limit or offset cuts from the end.
* `FluentSql.Descriptor.selected` — the rows that such a query selects.
* `FluentSql.Session.Browses`, `FluentSql.Session.SelectsFrom` — a builder reads some rows in a
  running simulation, and what it reads by other queries.
* `FluentSql.Session.Abbreviates` — the shortcuts of a builder answer what some rows do.

## Main results

* `FluentSql.Descriptor.selectRows_of_wellCut` — what is selected.
* `FluentSql.Act.abbreviates_of_browses` — the shortcuts answer what the rows of the query do.
* `FluentSql.Act.shortcuts_agree_with_all` — and that is what all rows do.
-/

namespace FluentSql

/-! ## Positions -/

namespace Value

/-- What stands for a position stands for it in a slice. -/
theorem index_of_position? {v : Value} {i : Int} (h : v.position? = some i) : v.index = .ok i := by
  rw [index, h]

/-- A list is cut between positions. -/
theorem slice_list_of_position? {xs : List Value} {start stop : Value} {i j : Int}
    (hi : start.position? = some i) (hj : stop.position? = some j) :
    (list xs).slice start stop = .ok (.list (FluentSql.slice xs i j)) := by
  simp [slice, bare, index_of_position? hi, index_of_position? hj, ok_bind, pure_eq_ok]

/-- Positions are added as the integers that they stand for. -/
theorem add_of_position? {v w : Value} {i j : Int} (hv : v.position? = some i)
    (hw : w.position? = some j) : v.add w = .ok (.int (i + j)) := by
  cases v <;> cases hv <;> cases w <;> cases hw <;> rfl

/-- What does not count stands for the same position as 0 does. -/
theorem position?_orElse_zero {v : Value} {i : Int} (h : v.position? = some i) :
    (v.orElse (.int 0)).position? = some i := by
  cases v with
  | bool b => cases b <;> exact h
  | int n =>
    cases h
    rw [int_orElse]
    split
    · next hn => rw [hn, position?]
    · rfl
  | _ => cases h

/-- What stands for a position refers to no builder. -/
theorem closed_of_position? {v : Value} {i : Int} (h : v.position? = some i) : v.Closed := by
  cases v <;> first | rfl | cases h

/-- What stands for a position is not null. -/
theorem isNull_of_position? {v : Value} {i : Int} (h : v.position? = some i) :
    v.isNull = false := by
  cases v <;> first | rfl | cases h

end Value

/-! ## What a query selects -/

namespace Descriptor

/-- The limit of a query is unset or at least 1, and its offset is unset or not negative. -/
structure WellCut (d : Descriptor) : Prop where
  limit : d.limit = .null ∨ ∃ n : Nat, 1 ≤ n ∧ d.limit.position? = some (n : Int)
  offset : d.offset = .null ∨ ∃ n : Nat, d.offset.position? = some (n : Int)

/-- The position that the offset of a query points to. -/
def start (d : Descriptor) : Nat := (d.offset.position?.getD 0).toNat

/-- The rows that a query selects: of those on which the predicate holds, the ones from the offset
on, and no more than the limit. -/
def selected (d : Descriptor) (rows : List Row) : List Row :=
  let kept := (rows.filter d.keeps).drop d.start
  match d.limit.position? with
  | some n => kept.take n.toNat
  | none => kept

/-- A query that is not cut from the end selects rows from the offset on, up to the limit.

**Proof sketch.** Its bounds stand for numbers, whether they are given as integers or as truth
values, so the slice that makes the page is dropping and taking. -/
theorem selectRows_of_wellCut {d : Descriptor} (h : d.WellCut) (rows : List Row) :
    d.selectRows (rowsValue rows) = .ok ((d.selected rows).map .map) := by
  have hoffset : (d.offset.orElse (.int 0)).position? = some (d.start : Int) := by
    rw [start]
    rcases h.offset with hnull | ⟨n, hn⟩
    · rw [hnull]
      rfl
    · rw [Value.position?_orElse_zero hn, hn, Option.getD_some, Int.toNat_natCast]
  have hpage : d.page (.list ((rows.filter d.keeps).map .map)) =
      .ok (.list ((d.selected rows).map .map)) := by
    rw [page, selected]
    rcases h.limit with hnull | ⟨n, -, hn⟩
    · have hlength : (Value.list ((rows.filter d.keeps).map .map)).length =
          .ok (rows.filter d.keeps).length := by
        simp [Value.length, Value.bare, Value.items, ok_bind, pure_eq_ok]
      have hstop : (Value.int (rows.filter d.keeps).length).position? =
          some ((rows.filter d.keeps).length : Int) := rfl
      rw [hnull, hlength, Value.isNull, if_pos rfl, ok_bind, pure_eq_ok, ok_bind]
      refine (Value.slice_list_of_position? hoffset hstop).trans ?_
      rw [slice_map, slice_natCast, List.take_length]
      rfl
    · have hstop : (Value.int (d.start + n)).position? = some ((d.start + n : Nat) : Int) := by
        rw [Value.position?, Int.natCast_add]
      rw [Value.isNull_of_position? hn, if_neg (by decide), Value.add_of_position? hoffset hn,
        ok_bind]
      refine (Value.slice_list_of_position? hoffset hstop).trans ?_
      rw [slice_map, slice_natCast, hn, List.drop_take, Nat.add_sub_cancel_left]
      rfl
  rw [selectRows, filterTable_rowsValue, ok_bind, hpage, ok_bind]
  rfl

/-! ### Changed queries -/

variable {d : Descriptor}

/-- A query that is cut to its first row is not cut from the end. -/
theorem WellCut.firstOnly (h : d.WellCut) : d.firstOnly.WellCut :=
  ⟨.inr ⟨1, Nat.le_refl 1, rfl⟩, h.offset⟩

theorem WellCut.constantOnly (h : d.WellCut) : d.constantOnly.WellCut := ⟨h.limit, h.offset⟩

theorem WellCut.columnOnly (h : d.WellCut) (column : Value) : (d.columnOnly column).WellCut :=
  ⟨h.limit, h.offset⟩

/-- Cut to its first row, a query selects the first of the rows that it selects. -/
theorem selected_firstOnly (h : d.WellCut) (rows : List Row) :
    d.firstOnly.selected rows = (d.selected rows).take 1 := by
  have hfirst : d.firstOnly.selected rows = ((rows.filter d.keeps).drop d.start).take 1 := rfl
  rw [hfirst, selected]
  rcases h.limit with hnull | ⟨n, hpositive, hn⟩
  · rw [hnull]
    rfl
  · rw [hn]
    dsimp only
    rw [List.take_take, Int.toNat_natCast, Nat.min_eq_left hpositive]

/-- The select list is no matter for which rows are selected. -/
theorem selected_constantOnly (d : Descriptor) (rows : List Row) :
    d.constantOnly.selected rows = d.selected rows := rfl

theorem selected_columnOnly (d : Descriptor) (column : Value) (rows : List Row) :
    (d.columnOnly column).selected rows = d.selected rows := rfl

end Descriptor

/-! ## Looking again -/

namespace Session

variable {d : Descriptor}

/-- A change of a query can be made after its values are looked at again, if that does nothing to
what the change puts in. -/
theorem currentQuery_of_comm {s : Session} {change : Descriptor → Descriptor}
    (h : (change d).mapValues s.current = change (d.mapValues s.current)) :
    s.currentQuery (change d) = change (s.currentQuery d) := by
  rw [currentQuery, currentQuery]
  split
  · exact h
  · rfl

theorem currentQuery_firstOnly (s : Session) (d : Descriptor) :
    s.currentQuery d.firstOnly = (s.currentQuery d).firstOnly := by
  have hone : s.current (.int 1) = .int 1 := s.current_of_closed rfl
  refine currentQuery_of_comm ?_
  cases d
  simp only [Descriptor.firstOnly, Descriptor.mapValues, hone]

theorem currentQuery_constantOnly (s : Session) (d : Descriptor) :
    s.currentQuery d.constantOnly = (s.currentQuery d).constantOnly := by
  have hone : s.current (.text "1") = .text "1" := s.current_of_closed rfl
  refine currentQuery_of_comm ?_
  cases d
  simp only [Descriptor.constantOnly, Descriptor.mapValues, List.map_cons, List.map_nil, hone]

theorem currentQuery_columnOnly (s : Session) (d : Descriptor) (column : Value) :
    s.currentQuery (d.columnOnly column) = (s.currentQuery d).columnOnly column := by
  have hname : s.current (.text column.display) = .text column.display := s.current_of_closed rfl
  refine @currentQuery_of_comm d s (fun d => d.columnOnly column) ?_
  cases d
  simp only [Descriptor.columnOnly, Descriptor.mapValues, List.map_cons, List.map_nil, hname]

/-- A query that is not cut from the end is not when its values are looked at again. -/
theorem wellCut_currentQuery (s : Session) (h : d.WellCut) : (s.currentQuery d).WellCut := by
  have hnull : s.current .null = .null := s.current_of_closed rfl
  have hplace : ∀ {v : Value} {n : Nat}, v.position? = some (n : Int) → s.current v = v :=
    fun hn => s.current_of_closed (Value.closed_of_position? hn)
  rw [currentQuery]
  split
  · obtain ⟨_, _, _, _, _, _, _, _, limit, offset, _, _, _, _, _⟩ := d
    constructor
    · rcases h.limit with hlimit | ⟨n, hpositive, hn⟩
      · exact .inl ((congrArg s.current hlimit).trans hnull)
      · exact .inr ⟨n, hpositive, (congrArg Value.position? (hplace hn)).trans hn⟩
    · rcases h.offset with hoffset | ⟨n, hn⟩
      · exact .inl ((congrArg s.current hoffset).trans hnull)
      · exact .inr ⟨n, (congrArg Value.position? (hplace hn)).trans hn⟩
  · exact h

/-! ## Builders that read in a simulation -/

/-- A builder of a session reads some rows: a simulation runs in which they stand under the name of
its table, or in which there is no such table and there are none. -/
structure Browses (s : Session) (id : Nat) (b : Builder) (stored : List Row) : Prop where
  builder : s.builders.get? id = some b
  running : s.simulating b.options.simulation = true
  has : (s.snapshot b.options.simulation).Has b.table stored

/-- Every builder with the options and the table of one that is given selects its rows from the same
rows, if its query is not cut from the end. -/
def SelectsFrom (s : Session) (reactor : Reactor) (b : Builder) (copies : List Row) : Prop :=
  ∀ c : Builder, c.options = b.options → c.table = b.table →
    (s.currentQuery c.descriptor).WellCut → ∃ t, (Act.rows c).run reactor s =
      (.ok (((s.currentQuery c.descriptor).selected copies).map .map), t)

/-- The shortcuts of a builder answer what some rows do: the first one, whether there is one, and
what they have under a column. -/
structure Abbreviates (s : Session) (reactor : Reactor) (id : Nat) (found : List Row) : Prop where
  get : ((Act.request id .get []).run reactor s).1 = .ok (.value (found.head?.elim .null .map))
  first : ((Act.request id .first []).run reactor s).1 = .ok (.value (found.head?.elim .null .map))
  exist : ((Act.request id .exist []).run reactor s).1 = .ok (.value (.bool !found.isEmpty))
  pluck : ∀ column : Value, column.hashable = true →
    ((Act.request id .pluck [("column", column)]).run reactor s).1 =
      .ok (.value (.list (found.map fun row => row.value column)))

end Session

namespace Act

variable {reactor : Reactor} {s : Session} {id : Nat} {b : Builder} {stored : List Row}

/-! ## Reading -/

/-- What an act comes to is changed by what is made of it. -/
theorem fst_run_bind_pure {α β : Type} {a : Act α} {x : α} (h : (a.run reactor s).1 = .ok x)
    (f : α → β) : ((a >>= fun x => pure (f x)).run reactor s).1 = .ok (f x) := by
  rw [run_bind_of_ok _ _ (Prod.ext h rfl), run_pure]

/-- All builders for one table of a simulation select their rows from one copy of it. -/
theorem exists_selectsFrom (reactor : Reactor) (h : s.Browses id b stored) :
    ∃ copies : List Row, ((copy (rowsValue stored)).run reactor s).1 = .ok (rowsValue copies) ∧
      s.SelectsFrom reactor b copies := by
  obtain ⟨copies, t, hlength, hcopy⟩ := exists_run_copy_rowsValue reactor s stored
  refine ⟨copies, congrArg Prod.fst hcopy, fun c hoptions htable hcut => ?_⟩
  refine run_rows_of_has (hoptions ▸ h.running) ?_ hcopy hlength
    (Descriptor.selectRows_of_wellCut hcut copies)
  rw [hoptions, htable]
  exact h.has

section Shortened

variable {copies : List Row} (h : s.SelectsFrom reactor b copies)
  (hb : s.builders.get? id = some b) (hcut : b.descriptor.WellCut)

include h

/-- So does a clone of the builder whose query is changed. -/
theorem exists_run_rows_edit {change : Descriptor → Descriptor}
    (htable : (change b.descriptor).table = b.descriptor.table)
    (hcut : (change b.descriptor).WellCut) :
    ∃ t, (rows (b.clone.edit change)).run reactor s =
      (.ok (((s.currentQuery (change b.descriptor)).selected copies).map .map), t) :=
  h (b.clone.edit change) rfl htable (s.wellCut_currentQuery hcut)

include hb hcut

theorem run_firstRow_of_selectsFrom : ((firstRow id).run reactor s).1 =
    .ok (((s.currentQuery b.descriptor).selected copies).head?.elim .null .map) := by
  obtain ⟨t, hone⟩ := exists_run_rows_edit h rfl hcut.firstOnly
  rw [s.currentQuery_firstOnly,
    Descriptor.selected_firstOnly (s.wellCut_currentQuery hcut)] at hone
  rw [firstRow, run_builder_bind _ _ hb, run_bind_of_ok _ _ hone, run_pure]
  cases (s.currentQuery b.descriptor).selected copies <;> rfl

theorem run_exist_of_selectsFrom : ((Act.exist id).run reactor s).1 =
    .ok (!((s.currentQuery b.descriptor).selected copies).isEmpty) := by
  obtain ⟨t, hone⟩ := @exists_run_rows_edit reactor s b copies h
    (fun d => d.constantOnly.firstOnly) rfl hcut.constantOnly.firstOnly
  rw [s.currentQuery_firstOnly, s.currentQuery_constantOnly,
    Descriptor.selected_firstOnly (s.wellCut_currentQuery hcut).constantOnly,
    Descriptor.selected_constantOnly] at hone
  rw [Act.exist, run_builder_bind _ _ hb, run_bind_of_ok _ _ hone, run_pure]
  cases (s.currentQuery b.descriptor).selected copies <;> rfl

theorem run_pluck_of_selectsFrom {column : Value} (hcolumn : column.hashable = true) :
    ((Act.pluck id column).run reactor s).1 =
      .ok (((s.currentQuery b.descriptor).selected copies).map fun row => row.value column) := by
  obtain ⟨t, hone⟩ := @exists_run_rows_edit reactor s b copies h (fun d => d.columnOnly column) rfl
    (hcut.columnOnly column)
  rw [s.currentQuery_columnOnly, Descriptor.selected_columnOnly] at hone
  have hcells : (((s.currentQuery b.descriptor).selected copies).map Value.map).mapM
      (fun row => row.cell column) =
        .ok (((s.currentQuery b.descriptor).selected copies).map fun row => row.value column) := by
    rw [List.mapM_map]
    refine mapM_eq_ok_map fun row _ => ?_
    rw [Function.comp_apply, Value.cell, Value.fields, ok_bind, Fields.cell, if_pos hcolumn]
  rw [Act.pluck, run_builder_bind _ _ hb, run_bind_of_ok _ _ hone, run_of, hcells]

/-- The shortcuts of a builder answer what the rows do that it reads: each of them reads the same
rows by its own query. -/
theorem abbreviates_of_selectsFrom :
    s.Abbreviates reactor id ((s.currentQuery b.descriptor).selected copies) where
  get := fst_run_bind_pure (run_firstRow_of_selectsFrom h hb hcut) Answer.value
  first := fst_run_bind_pure (run_firstRow_of_selectsFrom h hb hcut) Answer.value
  exist := fst_run_bind_pure (run_exist_of_selectsFrom h hb hcut) (Answer.value ∘ Value.bool)
  pluck _ hcolumn := fst_run_bind_pure (run_pluck_of_selectsFrom h hb hcut hcolumn)
    (Answer.value ∘ Value.list)

end Shortened

/-- A builder that reads in a running simulation reads the rows that its query selects from a copy
of those that are stored, and its shortcuts answer what these do.

**Proof sketch.** Each shortcut reads through a clone of the builder with a shorter select list or a
limit of one, from the same copy of the rows; and cutting what is selected to one is selecting with
a limit of one. -/
theorem abbreviates_of_browses (reactor : Reactor) (h : s.Browses id b stored)
    (hcut : b.descriptor.WellCut) :
    ∃ copies : List Row, ((copy (rowsValue stored)).run reactor s).1 = .ok (rowsValue copies) ∧
      ((rows b).run reactor s).1 =
        .ok (((s.currentQuery b.descriptor).selected copies).map .map) ∧
      s.Abbreviates reactor id ((s.currentQuery b.descriptor).selected copies) := by
  obtain ⟨copies, hcopy, hfrom⟩ := exists_selectsFrom reactor h
  obtain ⟨t, hrows⟩ := hfrom b rfl rfl (s.wellCut_currentQuery hcut)
  exact ⟨copies, hcopy, congrArg Prod.fst hrows, abbreviates_of_selectsFrom hfrom h.builder hcut⟩

/-! ## What reading leaves -/

/-- Reading rows from a running simulation only copies. -/
theorem rel_copying_rows (hrunning : s.simulating b.options.simulation = true) :
    Frame.copying.rel s ((rows b).run reactor s).2 := by
  rw [rows, run_get_bind, if_pos hrunning, simulatedRows, run_get_bind]
  split
  · exact Frame.copying.refl s
  · exact keeps_bind (keeps_copy_copying _) (fun table => keeps_of _) s

/-- The shortcuts of a builder that reads in a running simulation only copy, so the builder stays as
it is. -/
theorem rel_copying_shortcut (hb : s.builders.get? id = some b)
    (hrunning : s.simulating b.options.simulation = true) {asked : Request}
    (hasked : asked ∈ [Request.get, .first, .exist, .pluck]) (args : Arguments) :
    Frame.copying.rel s ((request id asked args).run reactor s).2 := by
  have hread : ∀ (change : Descriptor → Descriptor) {α : Type} (f : List Value → Act α),
      (∀ found, Keeps Frame.copying reactor (f found)) → Frame.copying.rel s
        ((builder id >>= fun b => rows (b.clone.edit change) >>= f).run reactor s).2 := by
    intro change α f hf
    rw [run_builder_bind reactor s hb]
    exact rel_bind (rel_copying_rows hrunning) fun found t _ => hf found t
  cases asked with
  | get => exact rel_bind (hread _ _ fun found => keeps_pure _) fun row t _ => keeps_pure _ t
  | first => exact rel_bind (hread _ _ fun found => keeps_pure _) fun row t _ => keeps_pure _ t
  | exist => exact rel_bind (hread _ _ fun found => keeps_pure _) fun found t _ => keeps_pure _ t
  | pluck =>
    refine rel_of_bind fun column _ => ?_
    exact rel_bind (hread _ _ fun found => keeps_of _) fun cells t _ => keeps_pure _ t
  | _ => simp at hasked

/-! ## All rows -/

/-- A copy of rows that refer to no builder gives the rows, and adds nothing. -/
theorem run_copy_rowsValue (hclosed : s.linked = true → ∀ row ∈ stored, Fields.Closed row) :
    (copy (rowsValue stored)).run reactor s = (.ok (rowsValue stored), s) := by
  cases hlinked : s.linked with
  | false => exact run_copy hlinked _
  | true => exact run_copy_of_closed (by simpa [rowsValue] using hclosed hlinked)

/-- The table of a builder that reads in a running simulation is remembered, whatever it is. -/
theorem run_remember (h : s.Browses id b stored) :
    ∃ t c, (remember id).run reactor s = (.ok (), t) ∧ t.Browses id c stored ∧
      c.inquiry = b.inquiry ∧
      ((s.linked = true → ∀ row ∈ stored, Fields.Closed row) →
        t.visible = s.visible ∧ t.linked = s.linked) := by
  rw [remember, run_builder_bind _ _ h.builder, run_get_bind, if_pos h.running]
  rcases h.has with hvalue | ⟨hvalue, -⟩
  · obtain ⟨copies, u, -, hcopy⟩ := exists_run_copy_rowsValue reactor s stored
    obtain ⟨hu, hbuilders⟩ := (keeps_copy_copying _).rel hcopy
    let replay := Table.ofValue u.nextStamp (rowsValue copies)
    let t := (u.stamped (Table.ofValue 0 (rowsValue copies)).rows.length).changed id
      fun b => { b with replay }
    have hc : t.builders.get? id = some { b with replay } := by
      have hb : u.builders.get? id = some b := hbuilders id b h.builder
      simp [t, Session.changed, Session.stamped, hb]
    have ht : t = { s with builders := t.builders, nextStamp := t.nextStamp } := by
      simp only [t, Session.changed, Session.stamped]
      rw [hu]
    refine ⟨t, { b with replay }, ?_, ⟨hc, ?_, ?_⟩, rfl, fun hclosed => ?_⟩
    · rw [hvalue]
      exact (run_bind_of_ok _ _ hcopy _).trans rfl
    · rw [ht]
      exact h.running
    · rw [ht]
      exact h.has
    · obtain rfl : u = s :=
        congrArg Prod.snd (hcopy.symm.trans (run_copy_rowsValue hclosed))
      have hchanged : t.builders = ({ u with
          builders := u.builders.modify id fun b => { b with replay } } : Session).builders := rfl
      exact ⟨(Session.visible_congr hchanged).trans (Session.visible_modify fun _ => rfl), rfl⟩
  · refine ⟨s, b, ?_, h, rfl, fun _ => ⟨rfl, rfl⟩⟩
    rw [hvalue]
    rfl

/-- All rows of a builder in a running simulation are read once that is noted and the table is
remembered, in a session in which it reads the same rows by the same query. -/
theorem run_all_of_browses (reactor : Reactor) (h : s.Browses id b stored) :
    ∃ t c, (do note id "all" (.map []); remember id : Act Unit).run reactor s = (.ok (), t) ∧
      (all id).run reactor s = (rows c).run reactor t ∧ t.Browses id c stored ∧
      c.inquiry = b.inquiry ∧
      ((s.linked = true → ∀ row ∈ stored, Fields.Closed row) →
        t.visible = s.visible ∧ t.linked = s.linked) := by
  obtain ⟨u, b', hnote, hu, hvisible, hb', hinquiry⟩ :=
    @run_note_visible reactor s id b h.builder "all" (.map [])
  obtain ⟨hdescriptor, hoptions⟩ := Prod.mk.inj hinquiry
  have hbrowses : u.Browses id b' stored := by
    refine ⟨hb', ?_, ?_⟩
    · rw [hu, hoptions]
      exact h.running
    · rw [hu, hoptions, Builder.table, hdescriptor]
      exact h.has
  obtain ⟨t, c, hremember, ht, hinquiry', hsame⟩ := @run_remember reactor u id b' stored hbrowses
  have hlinked : u.linked = s.linked := by rw [hu]
  refine ⟨t, c, ?_, ?_, ht, hinquiry'.trans hinquiry, fun hclosed => ?_⟩
  · rw [run_bind_of_ok _ _ hnote, hremember]
  · rw [all, run_bind_of_ok _ _ hnote, run_bind_of_ok _ _ hremember,
      run_builder_bind _ _ ht.builder]
  · obtain ⟨hvisible', hlinked'⟩ := hsame fun hl => hclosed (hlinked ▸ hl)
    exact ⟨hvisible'.trans hvisible, hlinked'.trans hlinked⟩

/-- In a running simulation the first row, the existence of one and the values under a column are
what they are in all rows, for a query that is not cut from the end. All rows are read once their
call is noted and the table is remembered, and the shortcuts that are asked for then answer what
these rows do. Where rows refer to builders, what is read at another time refers to other copies of
these; otherwise the shortcuts answer at any time what the rows do that the query selects, which are
all rows. None of the shortcuts does anything to the builder.

**Proof sketch.** That a shortcut answers what the selected rows do is `abbreviates_of_browses`,
once for the session in which all rows are read and once for the one before. Where nothing in the
rows refers to a builder, both copies are the rows that are stored. -/
theorem shortcuts_agree_with_all (h : s.Browses id b stored) (hcut : b.descriptor.WellCut) :
    (∃ t found, (do note id "all" (.map []); remember id : Act Unit).run reactor s = (.ok (), t) ∧
      ((all id).run reactor s).1 = .ok (found.map .map) ∧ t.Abbreviates reactor id found) ∧
    ((s.linked = true → ∀ row ∈ stored, Fields.Closed row) →
      ((all id).run reactor s).1 =
        .ok (((s.currentQuery b.descriptor).selected stored).map .map) ∧
      s.Abbreviates reactor id ((s.currentQuery b.descriptor).selected stored)) ∧
    ∀ asked ∈ [Request.get, .first, .exist, .pluck], ∀ args : Arguments,
      ((request id asked args).run reactor s).2.builders.get? id = some b ∧
      ((request id asked args).run reactor s).2 =
        { s with builders := ((request id asked args).run reactor s).2.builders } := by
  obtain ⟨t, c, hbefore, hall, ht, hinquiry, hsame⟩ := run_all_of_browses reactor h
  have hdescriptor : c.descriptor = b.descriptor := congrArg Prod.fst hinquiry
  obtain ⟨copies, hcopies, hrows, hshort⟩ := abbreviates_of_browses reactor ht (hdescriptor ▸ hcut)
  refine ⟨⟨t, _, hbefore, (congrArg Prod.fst hall).trans hrows, hshort⟩, fun hclosed => ?_,
    fun asked hasked args => ?_⟩
  · obtain ⟨hvisible, hlinked⟩ := hsame hclosed
    obtain ⟨copies', hcopies', -, hshort'⟩ := abbreviates_of_browses reactor h hcut
    -- Neither reading copies anything, so both find what the query selects from the rows.
    have hstored : ∀ {u : Session} {rows : List Row},
        (u.linked = true → ∀ row ∈ stored, Fields.Closed row) →
        ((copy (rowsValue stored)).run reactor u).1 = .ok (rowsValue rows) → rows = stored := by
      intro u rows hu hrows
      rw [run_copy_rowsValue hu] at hrows
      exact (rowsValue_inj (Except.ok.inj hrows)).symm
    obtain rfl := hstored (fun hl => hclosed (hlinked ▸ hl)) hcopies
    obtain rfl := hstored hclosed hcopies'
    rw [Session.currentQuery_congr hvisible hlinked, hdescriptor] at hrows
    exact ⟨(congrArg Prod.fst hall).trans hrows, hshort'⟩
  · obtain ⟨hsession, hbuilders⟩ :=
      @rel_copying_shortcut reactor s id b h.builder h.running asked hasked args
    exact ⟨hbuilders id b h.builder, hsession⟩

/-- A query for the rows that have 1 under a column, but for the first of them. -/
def latecomers : Descriptor :=
  { Descriptor.new "t" with
    wheres := [.basic "a" .eq (.int 1) .and], limit := .int 5, offset := .int 1 }

/-- Rows that it asks for, with one between them that it does not. -/
def arrivals : List Row :=
  [[("a", .int 1), ("b", .int 1)], [("a", .int 2)], [("a", .int 1)],
    [("a", .int 1), ("b", .int 3)]]

/-- A session with a simulation of these rows, and a builder for the query that is tracked. -/
def desk : Session :=
  { latecomers.ward arrivals with
    linked := true
    builders := { items := [{ descriptor := latecomers, options := {}, tracking := true }] } }

/-- Of the two rows of the builder the first has no value under the column that is plucked. -/
theorem shortcuts_agree_with_all_desk :
    desk.Browses 0 { descriptor := latecomers, options := {}, tracking := true } arrivals ∧
    latecomers.WellCut ∧
    ((all 0).run .still desk).1 =
      .ok [.map [("a", .int 1)], .map [("a", .int 1), ("b", .int 3)]] ∧
    ((request 0 .get []).run .still desk).1 = .ok (.value (.map [("a", .int 1)])) ∧
    ((request 0 .exist []).run .still desk).1 = .ok (.value (.bool true)) ∧
    ((request 0 .pluck [("column", "b")]).run .still desk).1 =
      .ok (.value (.list [.null, .int 3])) ∧
    ((request 0 .pluck [("column", "b")]).run .still desk).2.builders.get? 0 =
      some { descriptor := latecomers, options := {}, tracking := true } := by
  have hbrowses :
      desk.Browses 0 { descriptor := latecomers, options := {}, tracking := true } arrivals := by
    refine ⟨rfl, rfl, .inl ?_⟩
    exact (Snapshot.value_put [] "t" _).trans (Table.value_ofValue 0 _)
  have hcut : latecomers.WellCut := ⟨.inr ⟨5, by decide, rfl⟩, .inr ⟨1, rfl⟩⟩
  obtain ⟨-, hagree, hframe⟩ := @shortcuts_agree_with_all .still _ _ _ _ hbrowses hcut
  have hfound : (desk.currentQuery latecomers).selected arrivals =
      ([[("a", .int 1)], [("a", .int 1), ("b", .int 3)]] : List Row) := by
    have hclosed : latecomers.Closed := by decide +kernel
    have hverdicts : arrivals.map latecomers.keeps = [true, false, true, true] := by decide +kernel
    have hkept := keptBy_eq_filter latecomers.keeps arrivals
    rw [hverdicts] at hkept
    rw [desk.currentQuery_of_closed hclosed, Descriptor.selected, ← hkept]
    rfl
  obtain ⟨hall, hshort⟩ := hagree fun _ => by decide +kernel
  rw [hfound] at hall hshort
  exact ⟨hbrowses, hcut, hall, hshort.get, hshort.exist, hshort.pluck "b" rfl,
    (hframe .pluck (by decide) _).1⟩

end Act

end FluentSql
