import FluentSql.Proofs.Rows.Seeding
import FluentSql.Proofs.Session.Closed
import FluentSql.Proofs.Session.Fluent
import FluentSql.Proofs.Session.Rehearsal
import FluentSql.Proofs.Snapshot

set_option autoImplicit false

/-!
# Lists of rows in a simulation

Tables of a running simulation that are lists of rows, or are not there, and whose rows refer to no
builder: there a query selects what it selects from the rows, and a queued write leaves what it
makes of them.

## Main definitions

* `FluentSql.Descriptor.selectFrom` — the rows that a query selects from a simulation.
* `FluentSql.Snapshot.Has` — the rows under a name, none if there is no table.
* `FluentSql.Session.Simulates` — a simulation runs and has rows under a name.
* `FluentSql.Session.Advances` — it goes on, and nothing else of it changes.

## Main results

* `FluentSql.Act.run_rows_of_closed` — reading.
* `FluentSql.Act.run_exist_of_simulates` — testing for existence.
* `FluentSql.Act.run_make_of_closed`, `FluentSql.Act.run_make_of_simulates` — writing.
-/

namespace FluentSql

/-! ## Rows of a snapshot -/

/-- The rows that a query selects from the tables of a simulation, none if it has no such table. -/
def Descriptor.selectFrom (d : Descriptor) (tables : Snapshot) : Except Error (List Value) :=
  match tables.value d.table with
  | .null => .ok []
  | table => d.selectRows table

/-- The rows under a name; there are none if there is no table. -/
def Snapshot.Has (tables : Snapshot) (name : String) (rows : List Row) : Prop :=
  tables.value name = rowsValue rows ∨ tables.value name = .null ∧ rows = []

namespace Snapshot.Has

variable {tables : Snapshot} {name : String} {rows : List Row}

/-- A write is given the rows under a name. -/
theorem orElse_eq (h : tables.Has name rows) :
    (tables.value name).orElse (.list []) = rowsValue rows := by
  rcases h with h | ⟨h, rfl⟩
  · rw [h]
    cases rows <;> rfl
  · rw [h]
    rfl

/-- Rows that there are stand under their name. -/
theorem value_eq (h : tables.Has name rows) (hrows : rows ≠ []) :
    tables.value name = rowsValue rows := h.resolve_right fun hnone => hrows hnone.2

/-- Closed rows stand in a closed table. -/
theorem closed (h : tables.Has name rows) (hclosed : ∀ row ∈ rows, Fields.Closed row) :
    (tables.value name).Closed := by
  rcases h with h | ⟨h, -⟩
  · rw [h]
    simpa [rowsValue] using hclosed
  · rw [h]
    rfl

/-- What a query selects is made of the rows under the name of its table, in their order. -/
theorem exists_of_selectFrom {d : Descriptor} (h : tables.Has d.table rows) {found : List Value}
    (hfound : d.selectFrom tables = .ok found) :
    ∃ kept : List Row, kept.Sublist rows ∧ found = kept.map .map := by
  rcases h with h | ⟨h, rfl⟩
  · rw [Descriptor.selectFrom, h] at hfound
    exact Descriptor.exists_of_selectRows_eq_ok hfound
  · rw [Descriptor.selectFrom, h] at hfound
    cases hfound
    exact ⟨[], List.Sublist.refl [], rfl⟩

end Snapshot.Has

/-! ## Running simulations -/

/-- A simulation is the same within the frames that leave simulations as they are. -/
theorem Frame.same_of_holding {β : Type} {part : Builder → β} {s t : Session}
    (h : (holding part).rel s t) (m : Option Nat) :
    t.controllerOf m = s.controllerOf m ∧ t.simulating m = s.simulating m ∧
      t.snapshot m = s.snapshot m := by
  obtain ⟨⟨hsimulations, hconfigs, hcontroller⟩, -⟩ := h
  have hown : t.controllerOf m = s.controllerOf m := by
    rw [Session.controllerOf, Session.controllerOf, Session.config, Session.config,
      Session.simulation, Session.simulation, hsimulations, hconfigs, hcontroller]
  refine ⟨hown, ?_, ?_⟩
  · simp only [Session.simulating, hown, Session.simulation, hsimulations]
  · simp only [Session.snapshot, hown, Session.simulation, hsimulations]

namespace Session

/-- A table that is published in a running simulation of its own becomes one of its tables. -/
theorem own_published {s : Session} {m : Option Nat} (hown : s.controllerOf m = none)
    (hrunning : s.simulating m = true) (name : String) (T : Table) :
    (s.published m name T).controllerOf m = none ∧ (s.published m name T).simulating m = true ∧
      (s.published m name T).snapshot m = (s.snapshot m).put name T := by
  obtain ⟨x, hx⟩ : ∃ x, s.simulations.get? (m.getD 0) = some x := by
    rw [simulating, hown] at hrunning
    cases hx : s.simulations.get? (m.getD 0) with
    | none => simp [simulation, hx] at hrunning
    | some x => exact ⟨x, rfl⟩
  have hbefore : s.simulation m = x := by rw [simulation, hx, Option.getD_some]
  have hafter : (s.published m name T).simulation m = { x with state := x.state.put name T } := by
    rw [simulation, published, Directory.get?_modify, hx]
    rfl
  have hown' : (s.published m name T).controllerOf m = none := by
    rw [controllerOf, hbefore] at hown
    rw [controllerOf, hafter]
    exact hown
  refine ⟨hown', ?_, ?_⟩
  · rw [simulating, hown, hbefore] at hrunning
    rw [simulating, hown', hafter]
    exact hrunning
  · rw [snapshot, hown', hafter, snapshot, hown, hbefore]

/-- A write that is made in a running simulation of its own leaves it running, with what is left
under the name of its table. -/
theorem own_written {s : Session} {b : Builder} (hown : s.controllerOf b.options.simulation = none)
    (hrunning : s.simulating b.options.simulation = true) (id : Nat) (left : Value) :
    (s.written id b left).controllerOf b.options.simulation = none ∧
      (s.written id b left).simulating b.options.simulation = true ∧
      ((s.written id b left).snapshot b.options.simulation).value b.table = left := by
  have hstamped : (s.stamped (Table.ofValue 0 left).rows.length).controllerOf
      b.options.simulation = none := hown
  obtain ⟨hown', hrunning', hsnapshot'⟩ := own_published hstamped hrunning b.table
    (Table.ofValue s.nextStamp left)
  refine ⟨hown', hrunning', ?_⟩
  refine (congrArg (fun tables : Snapshot => tables.value b.table) hsnapshot').trans ?_
  rw [Snapshot.value_put, Table.value_ofValue]

/-- A simulation of its own is running, and has some rows under a name, which refer to no builder.
-/
structure Simulates (s : Session) (m : Option Nat) (name : String) (rows : List Row) : Prop where
  own : s.controllerOf m = none
  running : s.simulating m = true
  has : (s.snapshot m).Has name rows
  closed : ∀ row ∈ rows, Fields.Closed row

namespace Simulates

variable {s t : Session} {m : Option Nat} {name : String} {rows : List Row}

/-- What leaves simulations leaves their rows. -/
theorem of_holding {β : Type} {part : Builder → β} (h : s.Simulates m name rows)
    (hst : (Frame.holding part).rel s t) : t.Simulates m name rows := by
  obtain ⟨hown, hrunning, hsnapshot⟩ := Frame.same_of_holding hst m
  exact ⟨hown.trans h.own, hrunning.trans h.running, hsnapshot ▸ h.has, h.closed⟩

/-- A write that is made leaves its rows under the name of its table. -/
theorem written {id : Nat} {b : Builder} {left : List Row}
    (h : s.Simulates b.options.simulation b.table rows)
    (hclosed : ∀ row ∈ left, Fields.Closed row) :
    (s.written id b (rowsValue left)).Simulates b.options.simulation b.table left := by
  obtain ⟨hown, hrunning, hvalue⟩ := own_written h.own h.running id (rowsValue left)
  exact ⟨hown, hrunning, .inl hvalue, hclosed⟩

end Simulates

/-- A session in which a simulation goes on with some rows under a name, while its other tables and
what serves it are as they were. -/
structure Advances (s t : Session) (m : Option Nat) (name : String) (rows : List Row) : Prop
    extends t.Simulates m name rows where
  configs : t.configs = s.configs
  controller : t.controller = s.controller
  others : t.snapshot m = s.snapshot m ∨ ∃ T, t.snapshot m = (s.snapshot m).put name T

namespace Advances

variable {s t u : Session} {m : Option Nat} {name : String} {rows left : List Row}

/-- A simulation goes on where it is. -/
theorem refl (h : s.Simulates m name rows) : s.Advances s m name rows := ⟨h, rfl, rfl, .inl rfl⟩

/-- A simulation goes on from session to session. -/
theorem trans (h : s.Advances t m name rows) (h' : t.Advances u m name left) :
    s.Advances u m name left := by
  refine ⟨h'.toSimulates, h'.configs.trans h.configs, h'.controller.trans h.controller, ?_⟩
  rcases h.others with hst | ⟨T, hst⟩ <;> rcases h'.others with htu | ⟨U, htu⟩
  · exact .inl (htu.trans hst)
  · exact .inr ⟨U, hst ▸ htu⟩
  · exact .inr ⟨T, htu.trans hst⟩
  · refine .inr ⟨U, ?_⟩
    rw [htu, hst, Snapshot.put_put]

/-- What leaves simulations lets them go on. -/
theorem of_holding {β : Type} {part : Builder → β} (h : s.Simulates m name rows)
    (hst : (Frame.holding part).rel s t) : s.Advances t m name rows :=
  ⟨h.of_holding hst, hst.1.2.1, hst.1.2.2, .inl (Frame.same_of_holding hst m).2.2⟩

/-- With a write that is made, a simulation goes on with what is left. -/
theorem written {id : Nat} {b : Builder} (h : s.Simulates b.options.simulation b.table rows)
    (hclosed : ∀ row ∈ left, Fields.Closed row) :
    s.Advances (s.written id b (rowsValue left)) b.options.simulation b.table left := by
  refine ⟨h.written hclosed, s.configs_written id b _, s.controller_written id b _, .inr ?_⟩
  have hstamped : (s.stamped (Table.ofValue 0 (rowsValue left)).rows.length).controllerOf
      b.options.simulation = none := h.own
  exact ⟨_, (own_published hstamped h.running b.table _).2.2⟩

end Advances

end Session

/-! ## Reading and writing -/

namespace Act

variable {reactor : Reactor} {s : Session} {id : Nat} {b : Builder}

/-- Closed rows are selected from a running simulation, and nothing changes. -/
theorem run_rows_of_closed (hrunning : s.simulating b.options.simulation = true)
    (hd : b.descriptor.Closed)
    (htable : ((s.snapshot b.options.simulation).value b.table).Closed) :
    (rows b).run reactor s = (b.descriptor.selectFrom (s.snapshot b.options.simulation), s) := by
  rw [rows, run_get_bind, if_pos hrunning, simulatedRows, run_get_bind, Descriptor.selectFrom,
    show b.descriptor.table = b.table from rfl]
  generalize (s.snapshot b.options.simulation).value b.table = table at htable
  cases table with
  | null => rfl
  | _ =>
    dsimp only
    rw [run_bind_of_ok _ _ (run_copy_of_closed htable), run_of, s.currentQuery_of_closed hd]

/-- A write of a closed query on a closed table leaves what the query makes of the table, and its
result is reported.

**Proof sketch.** Nothing is copied where all is closed, so the write is applied to the table itself
and then settled. -/
theorem run_make_of_closed (hb : s.builders.get? id = some b)
    (hown : s.controllerOf b.options.simulation = none)
    (hrunning : s.simulating b.options.simulation = true) (hd : b.descriptor.Closed)
    (htable : ((s.snapshot b.options.simulation).value b.table).Closed) {left : Value}
    {result : WriteResult}
    (hmake : b.descriptor.make ((s.snapshot b.options.simulation).value b.table) =
      .ok (left, result)) :
    (make id).run reactor s = (.ok result, s.written id b left) := by
  have hqueued : (applyQueued id ((s.snapshot b.options.simulation).value b.table)).run reactor s =
      (.ok (left, result), s) := by rw [run_applyQueued_of_closed hb hd htable, hmake]
  rw [run_make_simulated hb hrunning, run_bind_of_ok _ _ hqueued,
    run_bind_of_ok _ _ (run_settle hown hrunning left)]
  rfl

/-- A write that leaves rows of a list of rows, made in a running simulation. -/
theorem run_make_of_simulates {rows left : List Row} {checked : WriteKind × Value}
    {result : WriteResult} (hb : s.builders.get? id = some b)
    (h : s.Simulates b.options.simulation b.table rows) (hd : b.descriptor.Closed)
    (hchecked : b.descriptor.checkedAction = .ok checked)
    (hresult : (b.descriptor.applyTo primaryKey (rowsValue rows)).result (rowsValue rows) =
      .ok (rowsValue left, result))
    (hleft : ∀ row ∈ left, Fields.Closed row) :
    ∃ t, (make id).run reactor s = (.ok result, t) ∧
      s.Advances t b.options.simulation b.table left := by
  have hmake : b.descriptor.make ((s.snapshot b.options.simulation).value b.table) =
      .ok (rowsValue left, result) := by
    rw [Descriptor.make, hchecked, ok_bind, h.has.orElse_eq, hresult]
  exact ⟨_, run_make_of_closed hb h.own h.running hd (h.has.closed h.closed) hmake,
    .written h hleft⟩

/-- Testing for existence tells whether a query keeps some row.

**Proof sketch.** The test reads the first row of the query with a constant selected. A limit of one
leaves a row just if there is one that the query keeps. -/
theorem run_exist_of_simulates {rows : List Row} (hb : s.builders.get? id = some b)
    (h : s.Simulates b.options.simulation b.table rows) (hd : b.descriptor.Closed)
    (hoffset : b.descriptor.offset = .null) :
    (exist id).run reactor s = (.ok (rows.any b.descriptor.keeps), s) := by
  have hclosed : b.descriptor.constantOnly.firstOnly.Closed := by
    intro v hv
    have hcases : v = .int 1 ∨ v = .text "1" ∨ v ∈ b.descriptor.values := by
      generalize b.descriptor = d at hv
      cases d
      simp only [Descriptor.constantOnly, Descriptor.firstOnly, Descriptor.values, List.mem_append,
        List.mem_cons] at hv ⊢
      grind
    rcases hcases with rfl | rfl | hv
    · rfl
    · rfl
    · exact hd v hv
  have hselected : b.descriptor.constantOnly.firstOnly.selectFrom
      (s.snapshot b.options.simulation) =
        .ok (((rows.filter b.descriptor.keeps).take 1).map .map) := by
    rcases h.has with hvalue | ⟨hvalue, rfl⟩
    · rw [Descriptor.selectFrom, show b.descriptor.constantOnly.firstOnly.table = b.table from rfl,
        hvalue]
      exact Descriptor.selectRows_of_limit_one (d := b.descriptor.constantOnly.firstOnly) hoffset
        rfl rows
    · rw [Descriptor.selectFrom, show b.descriptor.constantOnly.firstOnly.table = b.table from rfl,
        hvalue]
      rfl
  have hrows : (Act.rows (b.clone.edit fun d => d.constantOnly.firstOnly)).run reactor s =
      (.ok (((rows.filter b.descriptor.keeps).take 1).map .map), s) := by
    refine (run_rows_of_closed (b := b.clone.edit fun d => d.constantOnly.firstOnly) h.running
      hclosed ?_).trans ?_
    · exact h.has.closed h.closed
    · exact Prod.ext hselected rfl
  have hsome : (!(((rows.filter b.descriptor.keeps).take 1).map Value.map).isEmpty) =
      rows.any b.descriptor.keeps := by
    cases hkept : rows.filter b.descriptor.keeps with
    | nil =>
      have hnone := List.filter_eq_nil_iff.mp hkept
      simpa using hnone
    | cons row kept =>
      have hrow : row ∈ rows.filter b.descriptor.keeps := hkept ▸ List.mem_cons_self
      obtain ⟨hmem, hkeeps⟩ := List.mem_filter.mp hrow
      exact (List.any_eq_true.mpr ⟨row, hmem, hkeeps⟩).symm
  rw [exist, run_builder_bind _ _ hb, run_bind_of_ok _ _ hrows, run_pure, hsome]

end Act

end FluentSql
