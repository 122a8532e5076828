import FluentSql.Proofs.Rows.Seeding
import FluentSql.Proofs.Session.Tables
import FluentSql.Session.Seeding

set_option autoImplicit false

/-!
# Seeding a simulation

In a running simulation each seed is taken in by a builder of its own, and what that makes of the
rows of the table is a step on the list of rows: with duplicates ignored the seed is appended unless
a row passes for it, and with an upsert it is merged into the rows that match it. Seeding a table
makes these steps one after the other.

## Main definitions

* `FluentSql.Act.Steps` — taking in a seed makes a step on the rows.
* `FluentSql.Act.TakesIn` — a seed is taken in between others.

## Main results

* `FluentSql.Act.run_insertNewRow`, `FluentSql.Act.run_mergeRow` — the steps.
* `FluentSql.Act.Steps.run_seed` — the runs.
* `FluentSql.Act.seed_appends_new` — seeding with duplicates ignored.
* `FluentSql.Act.seed_merges` — seeding with an upsert.
-/

namespace FluentSql

/-! ## The queries of seeds -/

namespace Descriptor

/-- A query with a write queued. -/
def queueing (kind : WriteKind) (data : Value) (d : Descriptor) : Descriptor :=
  { d with pending := some ⟨kind.keyword, data⟩ }

/-- A query that in addition compares columns with what a seed has present under them. -/
def comparing (columns : List String) (seed : Row) (d : Descriptor) : Descriptor :=
  { d with wheres := d.wheres ++ Row.equalities columns seed }

/-- A new query with a closed write queued is closed. -/
theorem closed_queueing (table : String) (kind : WriteKind) {data : Value} (h : data.Closed) :
    ((new table).queueing kind data).Closed := by
  intro v hv
  have hcases : v = .null ∨ v = .text "*" ∨ v = data := by
    simpa [queueing, values, new, predicateValues, unionValues] using hv
  rcases hcases with rfl | rfl | rfl
  · rfl
  · rfl
  · exact h

/-- A new query that compares columns with a closed seed is closed. -/
theorem closed_comparing (table : String) (columns : List String) {seed : Row}
    (h : Fields.Closed seed) : ((new table).comparing columns seed).Closed := by
  have hvalues : ∀ columns : List String, predicateValues (columns.map fun column =>
      .basic column .eq (seed.value column) .and) =
        columns.map fun column : String => seed.value column := by
    intro columns
    induction columns with
    | nil => rfl
    | cons column columns ih =>
      rw [List.map_cons, predicateValues, ih]
      rfl
  intro v hv
  have hcases : v = .null ∨ v = .text "*" ∨ ∃ column, v = seed.value column := by
    simp only [comparing, new, values, List.nil_append, Row.equalities, hvalues, predicateValues,
      unionValues, Option.map_none, Option.toList_none, Option.getD_none, List.append_nil,
      List.mem_append, List.mem_map] at hv
    rcases hv with hv | ⟨column, -, rfl⟩
    · grind
    · exact .inr (.inr ⟨column, rfl⟩)
  rcases hcases with rfl | rfl | ⟨column, rfl⟩
  · rfl
  · rfl
  · exact h.value _

end Descriptor

/-- The data that merges a closed seed is closed. -/
theorem Row.closed_mergeData (columns : List String) {seed : Row} (h : Fields.Closed seed) :
    (mergeData columns seed).Closed := by
  have hkeys : (Value.map (keyEntries columns seed)).Closed := Value.closed_map.mpr (h.filter _)
  have hothers : (Value.map (otherEntries columns seed)).Closed :=
    Value.closed_map.mpr (h.filter _)
  refine Value.closed_map.mpr (List.forall_mem_cons.mpr ⟨⟨rfl, hkeys⟩, ?_⟩)
  exact List.forall_mem_cons.mpr ⟨⟨rfl, hothers⟩, List.forall_mem_nil _⟩

/-- Closed rows stay closed when a closed one is appended. -/
theorem Row.closed_append {rows : List Row} {added : Row} (hrows : ∀ row ∈ rows, Fields.Closed row)
    (hadded : Fields.Closed added) : ∀ row ∈ rows ++ [added], Fields.Closed row := by
  intro row hrow
  rcases List.mem_append.mp hrow with hrow | hrow
  · exact hrows row hrow
  · rw [List.mem_singleton.mp hrow]
    exact hadded

/-- Closed rows stay closed when a closed seed is merged into them. -/
theorem Row.closed_mergeSeed {columns : List String} {rows : List Row} {seed : Row}
    (hrows : ∀ row ∈ rows, Fields.Closed row) (hseed : Fields.Closed seed) :
    ∀ row ∈ mergeSeed columns rows seed, Fields.Closed row := by
  have hkeys : Fields.Closed (keyEntries columns seed) := hseed.filter _
  have hothers : Fields.Closed (otherEntries columns seed) := hseed.filter _
  rw [mergeSeed]
  split
  · intro row hrow
    obtain ⟨old, hold, rfl⟩ := List.mem_map.mp hrow
    split
    · exact (hrows old hold).merge hothers
    · exact hrows old hold
  · exact closed_append hrows (hkeys.merge hothers)

namespace Act

variable {reactor : Reactor} {s : Session} {id : Nat} {b : Builder}

/-! ## Writes that take a seed in -/

/-- A call that queues a write on a new builder, and the write made, leave what the write leaves. -/
theorem run_queue_make {table : String} {rows left : List Row} {kind : WriteKind} {data : Value}
    (hb : s.builders.get? id = some b) (hnew : b.descriptor = .new table)
    (h : s.Simulates b.options.simulation table rows) {m : Method} {args : Arguments}
    (hexpand : m.expand args = .ok (m, args)) (hfit : m.accepts args = true)
    (hwhen : m ≠ .when_) (hunless : m ≠ .unless_)
    (hquery : (args.get? "query").bind Value.queried? = none)
    (hedit : ∀ ctx c, (m.perform ctx args).run c = (.ok (), c.edit (.queueing kind data)))
    (hdata : data.Closed) (hkind : kind.needsWhere = false)
    (hresult : ∃ result,
      (((Descriptor.new table).queueing kind data).applyTo primaryKey (rowsValue rows)).result
        (rowsValue rows) = .ok (rowsValue left, result))
    (hleft : ∀ row ∈ left, Fields.Closed row) :
    ∃ t, (do chain id m args; let _ ← make id).run reactor s = (.ok (), t) ∧
      s.Advances t b.options.simulation table left := by
  obtain ⟨u, hchain, -, hsu, ⟨c, hc, hcb⟩, -⟩ :=
    run_chain_of_edit hb hexpand hfit hwhen hunless hquery hedit
  obtain ⟨hdescriptor, hoptions⟩ := Prod.mk.inj hcb
  rw [hnew] at hdescriptor
  have htable : c.table = table := by
    rw [Builder.table, hdescriptor]
    rfl
  have hchecked : ((Descriptor.new table).queueing kind data).checkedAction = .ok (kind, data) := by
    cases kind <;> first | rfl | cases hkind
  have hclosed := Descriptor.closed_queueing table kind hdata
  have hu : s.Advances u b.options.simulation table rows := .of_holding h hsu
  obtain ⟨result, hresult⟩ := hresult
  rw [← hdescriptor] at hchecked hclosed hresult
  rw [← hoptions, ← htable] at hu
  obtain ⟨t, hmake, ht⟩ :=
    run_make_of_simulates hc hu.toSimulates hclosed hchecked hresult hleft
  have hst := hu.trans ht
  rw [hoptions, htable] at hst
  refine ⟨t, ?_, hst⟩
  rw [run_bind_of_ok _ _ hchain, run_bind_of_ok _ _ hmake]
  rfl

/-- Inserting a seed through a new builder appends it. -/
theorem run_insertRow {table : String} {rows : List Row} {seed : Row}
    (hb : s.builders.get? id = some b) (hnew : b.descriptor = .new table)
    (h : s.Simulates b.options.simulation table rows) (hseed : Fields.Closed seed) :
    ∃ t, (insertRow id (.map seed)).run reactor s = (.ok (), t) ∧
      s.Advances t b.options.simulation table (rows ++ [seed]) := by
  have hdata : (Value.list [.map seed]).Closed := by simpa using hseed
  exact run_queue_make hb hnew h rfl rfl (by decide) (by decide) rfl (fun _ _ => rfl) hdata rfl
    (Descriptor.result_insert rfl rfl rows) (Row.closed_append h.closed hseed)

/-- Updating or inserting a seed through a new builder merges it into the rows that match it.

**Proof sketch.** The entries of the seed are parted into those under the columns and the others,
which is what the queued write is made of; and making it on closed rows leaves what it makes of
them. -/
theorem run_mergeRow {table : String} {columns : List String} {rows : List Row} {seed : Row}
    (hb : s.builders.get? id = some b) (hnew : b.descriptor = .new table)
    (h : s.Simulates b.options.simulation table rows) (hseed : Fields.Closed seed) :
    ∃ t, (mergeRow id (columns.map .text) (.map seed)).run reactor s = (.ok (), t) ∧
      s.Advances t b.options.simulation table (Row.mergeSeed columns rows seed) := by
  have hkeys : (entriesWhere (.map seed) fun key => (columns.map Value.text).any key.agrees).run
      reactor s = (.ok (.map (Row.keyEntries columns seed)), s) := rfl
  have hothers : (entriesWhere (.map seed) fun key =>
      !(columns.map Value.text).any key.agrees).run reactor s =
        (.ok (.map (Row.otherEntries columns seed)), s) := rfl
  have hedit : ∀ (ctx : Context) (c : Builder), (Method.updateOrInsert.perform ctx
      [("attributes", .map (Row.keyEntries columns seed)),
        ("values", .map (Row.otherEntries columns seed))]).run c =
          (.ok (), c.edit (.queueing .updateOrInsert (Row.mergeData columns seed))) := by
    intro ctx c
    rw [Row.mergeData]
    -- No values at all are read as an empty mapping.
    generalize Row.otherEntries columns seed = values
    cases values <;> rfl
  rw [mergeRow, run_bind_of_ok _ _ hkeys, run_bind_of_ok _ _ hothers]
  exact run_queue_make hb hnew h rfl rfl (by decide) (by decide) rfl hedit
    (Row.closed_mergeData columns hseed) rfl (Descriptor.result_updateOrInsert rfl rfl rows)
    (Row.closed_mergeSeed h.closed hseed)

/-! ## Looking for a seed -/

/-- Comparisons of columns with what a seed has under them are added where it has something present.
-/
theorem run_addEqualities (columns : List String) (seed : Row) (c : Builder) :
    (Edit.addEqualities (columns.map fun column => (.text column, seed.value column))).run c =
      (.ok (), c.edit (.comparing columns seed)) := by
  induction columns generalizing c with
  | nil =>
    have hnone : c.edit (.comparing [] seed) = c := by
      obtain ⟨d, _, _, _, _, _, _⟩ := c
      cases d
      simp [Builder.edit, Descriptor.comparing, Row.equalities]
    rw [hnone]
    rfl
  | cons column columns ih =>
    rw [List.map_cons, Edit.addEqualities]
    cases hpresent : (seed.value column).present with
    | true =>
      have hcompare : (Edit.compare Edit.toWhere (.text column) (.text "=") (seed.value column)
          .and).run c =
            (.ok (), c.edit (Edit.toWhere (.basic column .eq (seed.value column) .and))) := rfl
      rw [if_pos rfl]
      refine (run_edit_bind hcompare).trans ((ih _).trans ?_)
      simp [Builder.edit, Descriptor.comparing, Edit.toWhere, Row.equalities, hpresent]
    | false =>
      refine (ih c).trans ?_
      simp [Builder.edit, Descriptor.comparing, Row.equalities, hpresent]

/-- What a row has under columns is read off. -/
theorem run_cells (columns : List String) (row : Row) :
    ((columns.map Value.text).mapM fun key => do
      return (key, ← of ((Value.map row).cell key)) : Act (List (Value × Value))).run reactor s =
        (.ok (columns.map fun column => (.text column, row.value column)), s) := by
  induction columns with
  | nil => rfl
  | cons column columns ih =>
    rw [List.map_cons, List.mapM_cons, bind_assoc]
    refine (run_of_ok_bind _ _ (row.value column) _).trans ?_
    rw [pure_bind, run_bind_of_ok _ _ ih]
    rfl

/-- A copy of a new builder that compares columns with a seed tells whether a row passes for it, and
the builder itself and the rows are left. -/
theorem exists_run_probe {table : String} {options : Options} {rows : List Row} {seed : Row}
    (columns : List String) (hb : s.builders.get? id = some (.new table options))
    (h : s.Simulates options.simulation table rows) (hseed : Fields.Closed seed) :
    ∃ probe u v b, (copyBuilder id).run reactor s = (.ok probe, u) ∧
      (chain probe .whereAll [("conditions",
        .map (columns.map fun column => (.text column, seed.value column)))]).run reactor u =
          (.ok (), v) ∧
      (exist probe).run reactor v = (.ok (rows.any (Row.passesFor columns seed)), v) ∧
      v.builders.get? id = some b ∧ b.inquiry = (.new table, options) ∧
      s.Advances v options.simulation table rows := by
  obtain ⟨u, hcopy, hprobe, hb', hu⟩ : ∃ u, (copyBuilder id).run reactor s =
      (.ok s.builders.nextId, u) ∧ u.builders.get? s.builders.nextId = some (.new table options) ∧
      u.builders.get? id = some (.new table options) ∧
      s.Advances u options.simulation table rows :=
    ⟨{ s with builders := s.builders.add (.new table options) },
      run_copyBuilder_of_closed hb rfl rfl, s.builders.get?_add_nextId _,
      Directory.get?_add_of_eq_some _ hb, ⟨⟨h.own, h.running, h.has, h.closed⟩, rfl, rfl, .inl rfl⟩⟩
  have hother : s.builders.nextId ≠ id := Nat.ne_of_gt (List.getElem?_eq_some_iff.mp hb).1
  have hedit : ∀ (ctx : Context) (c : Builder), (Method.whereAll.perform ctx [("conditions",
      .map (columns.map fun column => (.text column, seed.value column)))]).run c =
        (.ok (), c.edit (.comparing columns seed)) := fun _ c => run_addEqualities columns seed c
  obtain ⟨v, hchain, -, huv, ⟨c, hc, hasked⟩, hothers⟩ := run_chain_of_edit hprobe rfl rfl
    (by decide) (by decide) rfl hedit
  obtain ⟨hdescriptor, hoptions⟩ := Prod.mk.inj hasked
  obtain ⟨b, hb, hinquiry⟩ := hothers id _ hother hb'
  have hv : u.Advances v options.simulation table rows := .of_holding hu.toSimulates huv
  have hkeeps : c.descriptor.keeps = Row.passesFor columns seed := by
    funext row
    refine Descriptor.keeps_equalities ?_ row
    rw [hdescriptor]
    rfl
  refine ⟨_, u, v, b, hcopy, hchain, ?_, hb, hinquiry, hu.trans hv⟩
  rw [← hkeeps]
  refine run_exist_of_simulates hc ?_ ?_ ?_
  · rw [hoptions, Builder.table, hdescriptor]
    exact hv.toSimulates
  · rw [hdescriptor]
    exact Descriptor.closed_comparing table columns hseed
  · rw [hdescriptor]
    rfl

/-- Inserting a seed that is new through a new builder appends it unless a row passes for it.

**Proof sketch.** A probe is made of the columns of the seed and asked whether a row exists. It
reads the table as it stands, and the seed is inserted only where it finds none. -/
theorem run_insertNewRow {table : String} {options : Options} {columns : List String}
    {rows : List Row} {seed : Row} (hb : s.builders.get? id = some (.new table options))
    (h : s.Simulates options.simulation table rows) (hseed : Fields.Closed seed) :
    ∃ t, (insertNewRow id (columns.map .text) (.map seed)).run reactor s = (.ok (), t) ∧
      s.Advances t options.simulation table (Row.appendNew columns rows seed) := by
  obtain ⟨names, hnames, hpairs⟩ :=
    Fields.exists_ofPairs_eq (fun column => seed.value column) columns
  obtain ⟨probe, u, v, b, hcopy, hchain, hexist, hb', hb, hv⟩ :=
    exists_run_probe names hb h hseed
  obtain ⟨hdescriptor, hoptions⟩ := Prod.mk.inj hb
  have hpasses : Row.passesFor names seed = Row.passesFor columns seed :=
    funext (Row.passesFor_congr hnames seed)
  rw [hpasses] at hexist
  rw [insertNewRow, run_bind_of_ok _ _ (run_cells columns seed), run_bind_of_ok _ _ hcopy, hpairs,
    run_bind_of_ok _ _ hchain, run_bind_of_ok _ _ hexist, Row.appendNew]
  cases rows.any (Row.passesFor columns seed) with
  | true => exact ⟨v, rfl, hv⟩
  | false =>
    rw [← show b.options = options from hoptions] at hv ⊢
    obtain ⟨t, hrun, ht⟩ := run_insertRow hb' hdescriptor hv.toSimulates hseed
    exact ⟨t, hrun, hv.trans ht⟩

/-! ## Taking in seed after seed -/

section Runs

variable {table : String} {options : SeedOptions} {columns : List Value} {belongs : Options}
  {step : List Row → Row → List Row}

/-- Taking in a seed makes a step of a list of rows, whatever the session. -/
def Steps (reactor : Reactor) (table : String) (options : SeedOptions) (columns : List Value)
    (belongs : Options) (step : List Row → Row → List Row) : Prop :=
  ∀ (s : Session) (rows : List Row) (seed : Row), s.Simulates belongs.simulation table rows →
    Fields.Closed seed →
      ∃ t, (seedRow table options columns belongs (.map seed)).run reactor s = (.ok (), t) ∧
        s.Advances t belongs.simulation table (step rows seed)

/-- Taking in seeds makes one step after the other. -/
theorem Steps.run_seedEach (hstep : Steps reactor table options columns belongs step)
    {rows seeds : List Row} (h : s.Simulates belongs.simulation table rows)
    (hseeds : ∀ seed ∈ seeds, Fields.Closed seed) :
    ∃ t, (seedEach table options columns belongs (seeds.map .map)).run reactor s = (.ok (), t) ∧
      s.Advances t belongs.simulation table (seeds.foldl step rows) := by
  induction seeds generalizing s rows with
  | nil => exact ⟨s, rfl, .refl h⟩
  | cons seed seeds ih =>
    obtain ⟨hseed, hrest⟩ := List.forall_mem_cons.mp hseeds
    obtain ⟨u, hrun, hu⟩ := hstep s rows seed h hseed
    obtain ⟨t, hruns, ht⟩ := ih hu.toSimulates hrest
    exact ⟨t, (run_bind_of_ok _ _ hrun _).trans hruns, hu.trans ht⟩

/-- Taking in the first of some seeds, then the others, is taking in all of them. -/
theorem seedEach_append (before after : List Value) :
    seedEach table options columns belongs (before ++ after) = (do
      seedEach table options columns belongs before
      seedEach table options columns belongs after) := by
  induction before with
  | nil => rfl
  | cons seed before ih =>
    rw [List.cons_append, seedEach, ih, seedEach, bind_assoc]

/-- In a run from one session to another, one seed is taken in after some and before others: the
rows that there are when its turn comes, and those that there are then. -/
def TakesIn (reactor : Reactor) (table : String) (options : SeedOptions) (columns : List Value)
    (belongs : Options) (s t : Session) (before : List Row) (seed : Row) (after : List Row)
    (found left : List Row) : Prop :=
  ∃ u v,
    (seedEach table options columns belongs (before.map .map)).run reactor s = (.ok (), u) ∧
    (seedRow table options columns belongs (.map seed)).run reactor u = (.ok (), v) ∧
    (seedEach table options columns belongs (after.map .map)).run reactor v = (.ok (), t) ∧
    (u.snapshot belongs.simulation).Has table found ∧
    (v.snapshot belongs.simulation).Has table left

/-- Each of the seeds is taken in by its own step. -/
theorem Steps.takesIn (hstep : Steps reactor table options columns belongs step)
    {rows before after : List Row} {seed : Row} {t : Session}
    (h : s.Simulates belongs.simulation table rows)
    (hseeds : ∀ row ∈ before ++ seed :: after, Fields.Closed row)
    (hrun : (seedEach table options columns belongs
      ((before ++ seed :: after).map .map)).run reactor s = (.ok (), t)) :
    TakesIn reactor table options columns belongs s t before seed after (before.foldl step rows)
      (step (before.foldl step rows) seed) := by
  obtain ⟨u, hbefore, hu⟩ := hstep.run_seedEach h fun row hrow =>
    hseeds row (List.mem_append_left _ hrow)
  obtain ⟨v, hseed, hv⟩ := hstep u _ seed hu.toSimulates (hseeds seed (by simp))
  refine ⟨u, v, hbefore, hseed, ?_, hu.has, hv.has⟩
  rw [List.map_append, seedEach_append, run_bind_of_ok _ _ hbefore] at hrun
  exact (run_bind_of_ok _ _ hseed _).symm.trans hrun

/-- Seeding a table with a list of rows, if an executor is there, is taking in the rows. -/
theorem run_seed_of_run_seedEach {config simulation : Option Nat} {names : List String}
    {uniqueBy : Value} {seeds : List Row} {executor : Nat} {t : Session}
    (hserved : s.executorFor config none = .ok (some executor))
    (hcolumns : uniqueBy.items = .ok (names.map .text)) (htruncate : options.truncate = false)
    (hrun : (seedEach table options (names.map .text) { config, simulation }
      (seeds.map .map)).run reactor s = (.ok (), t)) :
    (seed table (.rows (rowsValue seeds)) uniqueBy options config simulation).run reactor s =
      (.ok seeds.length, t) := by
  rw [seed, run_get_bind, hserved, run_of_ok_bind]
  dsimp only
  rw [htruncate, hcolumns]
  refine (run_bind_of_ok _ _ hrun _).trans ?_
  rw [run_pure, List.length_map]

/-- Seeding a table of a running simulation with a list of rows, if an executor is there, takes in
one row after the other.

**Proof sketch.** Each seed takes one step, in a session that goes on simulating the table; so by
induction on the seeds the table has in the end what the steps make of its rows, and each of them is
met with what those before it have made. -/
theorem Steps.run_seed {config simulation : Option Nat} {names : List String} {uniqueBy : Value}
    (hstep : Steps reactor table options (names.map .text) { config, simulation } step)
    {rows seeds : List Row} {executor : Nat} (h : s.Simulates simulation table rows)
    (hserved : s.executorFor config none = .ok (some executor))
    (hseeds : ∀ seed ∈ seeds, Fields.Closed seed)
    (hcolumns : uniqueBy.items = .ok (names.map .text)) (htruncate : options.truncate = false) :
    ∃ t, (seed table (.rows (rowsValue seeds)) uniqueBy options config simulation).run reactor s =
        (.ok seeds.length, t) ∧
      (t.snapshot simulation).Has table (seeds.foldl step rows) ∧
      ∀ before seed after, seeds = before ++ seed :: after →
        TakesIn reactor table options (names.map .text) { config, simulation } s t before seed after
          (before.foldl step rows) (step (before.foldl step rows) seed) := by
  obtain ⟨t, hrun, ht⟩ := hstep.run_seedEach h hseeds
  refine ⟨t, run_seed_of_run_seedEach hserved hcolumns htruncate hrun, ht.has, ?_⟩
  rintro before seed after rfl
  exact hstep.takesIn h hseeds hrun

/-- A builder of its own is added for each seed, and the rows are left. -/
theorem run_addBuilder_of_simulates {rows : List Row}
    (h : s.Simulates belongs.simulation table rows) :
    ∃ u, (addBuilder (.new table belongs)).run reactor s = (.ok s.builders.nextId, u) ∧
      u.builders.get? s.builders.nextId = some (.new table belongs) ∧
      s.Advances u belongs.simulation table rows :=
  ⟨{ s with builders := s.builders.add (.new table belongs) }, rfl,
    s.builders.get?_add_nextId _, ⟨⟨h.own, h.running, h.has, h.closed⟩, rfl, rfl, .inl rfl⟩⟩

/-- With columns that tell rows apart and duplicates ignored, a seed that is taken in is appended
unless a row passes for it. -/
theorem steps_appendNew (reactor : Reactor) (table : String) {names : List String}
    (hnames : names ≠ []) (hskip : options.ignoreDuplicates = true) (belongs : Options) :
    Steps reactor table options (names.map .text) belongs (Row.appendNew names) := by
  intro s rows seed h hseed
  obtain ⟨u, hadd, hb, hu⟩ := run_addBuilder_of_simulates h
  obtain ⟨t, hrun, ht⟩ : ∃ t, (insertNewRow s.builders.nextId (names.map .text) (.map seed)).run
      reactor u = (.ok (), t) ∧
        u.Advances t belongs.simulation table (Row.appendNew names rows seed) :=
    run_insertNewRow hb hu.toSimulates hseed
  refine ⟨t, ?_, hu.trans ht⟩
  have hsome : (names.map Value.text).isEmpty = false := by simpa using hnames
  rw [seedRow, run_bind_of_ok _ _ hadd, hsome, hskip]
  exact hrun

/-- With columns that tell rows apart and an upsert, a seed that is taken in is merged into the rows
that match it. -/
theorem steps_mergeSeed (reactor : Reactor) (table : String) {names : List String}
    (hnames : names ≠ []) (hskip : options.ignoreDuplicates = false)
    (hupsert : options.upsert = true) (belongs : Options) :
    Steps reactor table options (names.map .text) belongs (Row.mergeSeed names) := by
  intro s rows seed h hseed
  obtain ⟨u, hadd, hb, hu⟩ := run_addBuilder_of_simulates h
  obtain ⟨t, hrun, ht⟩ : ∃ t, (mergeRow s.builders.nextId (names.map .text) (.map seed)).run
      reactor u = (.ok (), t) ∧
        u.Advances t belongs.simulation table (Row.mergeSeed names rows seed) :=
    run_mergeRow hb rfl hu.toSimulates hseed
  refine ⟨t, ?_, hu.trans ht⟩
  have hsome : (names.map Value.text).isEmpty = false := by simpa using hnames
  rw [seedRow, run_bind_of_ok _ _ hadd, hsome, hskip, hupsert]
  exact hrun

end Runs

/-! ## What seeding leaves -/

section Seeds

variable {table : String} {config simulation : Option Nat} {names : List String} {uniqueBy : Value}
  {options : SeedOptions} {rows seeds : List Row} {executor : Nat}

/-- What seeding leaves in a running simulation if duplicates are ignored. The rows that there were
stay in front, and each seed is appended unless some row by then agrees with it under those of the
columns under which the seed has something present. This is to append the seeds with which no row
agrees under all of the columns just if, each time, some row agrees under all where one agrees under
those; so it is if every seed has something present under every column. Afterwards every seed whose
values are equal to themselves has a row that agrees with it under those columns.

**Proof sketch.** Each seed gets a builder of its own, whose copy compares the columns with what the
seed has present, and nothing else; the first row that it keeps tells whether to insert. By
induction over the seeds, from one session in which the simulation runs to the next. -/
theorem seed_appends_new (h : s.Simulates simulation table rows)
    (hserved : s.executorFor config none = .ok (some executor))
    (hseeds : ∀ seed ∈ seeds, Fields.Closed seed)
    (hcolumns : uniqueBy.items = .ok (names.map .text)) (hnames : names ≠ [])
    (hskip : options.ignoreDuplicates = true) (htruncate : options.truncate = false) :
    ∃ t, (seed table (.rows (rowsValue seeds)) uniqueBy options config simulation).run reactor s =
        (.ok seeds.length, t) ∧
      (t.snapshot simulation).Has table (seeds.foldl (Row.appendNew names) rows) ∧
      rows <+: seeds.foldl (Row.appendNew names) rows ∧
      (∀ before seed after, seeds = before ++ seed :: after →
        ∃ found left, TakesIn reactor table options (names.map .text) { config, simulation } s t
            before seed after found left ∧
          left = (if ∃ row ∈ found, Row.passesFor names seed row = true then found
            else found ++ [seed]) ∧
          (left = (if ∃ row ∈ found, Row.agreesUnder names seed row = true then found
              else found ++ [seed]) ↔
            ((∃ row ∈ found, Row.passesFor names seed row = true) →
              ∃ row ∈ found, Row.agreesUnder names seed row = true))) ∧
      ((∀ seed ∈ seeds, ∀ name ∈ names, (seed.value name).present = true) →
        seeds.foldl (Row.appendNew names) rows = seeds.foldl (Row.appendDistinct names) rows) ∧
      ∀ seed ∈ seeds, (∀ name ∈ names, (seed.value name).equal (seed.value name) = true) →
        ∃ row ∈ seeds.foldl (Row.appendNew names) rows, Row.passesFor names seed row = true := by
  obtain ⟨t, hrun, hleft, htakes⟩ :=
    (steps_appendNew reactor table hnames hskip { config, simulation }).run_seed h hserved hseeds
      hcolumns htruncate
  refine ⟨t, hrun, hleft, Row.prefix_foldl_appendNew names seeds rows, ?_, fun hpresent =>
    Row.foldl_appendNew_eq_foldl_appendDistinct hpresent rows, fun seed hseed hself =>
      Row.exists_passesFor_foldl_appendNew hseed hself rows⟩
  intro before seed after hsplit
  refine ⟨_, _, htakes before seed after hsplit, ?_, ?_⟩
  · simp only [Row.appendNew, List.any_eq_true]
  · have hiff := Row.appendNew_eq_appendDistinct_iff names (before.foldl (Row.appendNew names) rows)
      seed
    simpa only [Row.appendDistinct, List.any_eq_true] using hiff

/-- A session with an executor, in which a simulation runs with a list of rows for a table. -/
def nursery (rows : List Row) : Session where
  clock := default
  configs := .single "main" { executor := some 0 }
  simulations := .single "main" { active := true, state := [("t", .ofValue 0 (rowsValue rows))] }

/-- The rows of the session. -/
theorem nursery_simulates {rows : List Row} (h : ∀ row ∈ rows, Fields.Closed row) :
    (nursery rows).Simulates none "t" rows :=
  ⟨rfl, rfl, .inl (Table.value_ofValue 0 (rowsValue rows)), h⟩

/-- Of three seeds for a table of two rows, one is there, one is new, and one is then there. -/
theorem seed_appends_new_thrice :
    ∃ t, (seed "t" (.rows (rowsValue [[("a", .int 1)], [("a", .int 3)], [("a", .int 3)]]))
        (.list [.text "a"]) { ignoreDuplicates := true } none none).run .still
          (nursery [[("a", .int 1)], [("a", .int 2)]]) = (.ok 3, t) ∧
      (t.snapshot none).Has "t"
        (([[("a", .int 1)], [("a", .int 3)], [("a", .int 3)]] : List Row).foldl
          (Row.appendNew ["a"]) [[("a", .int 1)], [("a", .int 2)]]) := by
  obtain ⟨t, hrun, hleft, -⟩ := @seed_appends_new .still _ "t" none none ["a"]
    (.list [.text "a"]) { ignoreDuplicates := true } [[("a", .int 1)], [("a", .int 2)]]
    [[("a", .int 1)], [("a", .int 3)], [("a", .int 3)]] 0 (nursery_simulates (by decide)) rfl
    (by decide) rfl (by decide) rfl rfl
  exact ⟨t, hrun, hleft⟩

/-- A seed that has null under the column is not appended, though no row agrees with it. -/
theorem seed_loses_null :
    ((seed "t" (.rows (.list [.map [("a", .null)]])) (.list [.text "a"])
        { ignoreDuplicates := true } none none).run .still (nursery [[("a", .int 1)]])).1.isOk =
          true ∧
    ((((seed "t" (.rows (.list [.map [("a", .null)]])) (.list [.text "a"])
        { ignoreDuplicates := true } none none).run .still
          (nursery [[("a", .int 1)]])).2.snapshot none).value "t").equal
            (.list [.map [("a", .int 1)]]) = true ∧
    Row.agreesUnder ["a"] [("a", .null)] [("a", .int 1)] = false := by
  decide +kernel

/-- What seeding leaves in a running simulation if seeds are merged. When the turn of a seed comes,
the rows that agree with it under those of the columns that it has take in its other entries, and
all others stay as they are; if there are none, it is appended. So only rows that agree with it
under all of the columns are changed just if the rows that it changes have nothing but null under
the columns that it lacks; and if it lacks none, this is so.

**Proof sketch.** Each seed is written by an update-or-insert of its own, whose attributes are its
entries under the columns. By induction over the seeds, from one session in which the simulation
runs to the next. -/
theorem seed_merges (h : s.Simulates simulation table rows)
    (hserved : s.executorFor config none = .ok (some executor))
    (hseeds : ∀ seed ∈ seeds, Fields.Closed seed)
    (hcolumns : uniqueBy.items = .ok (names.map .text)) (hnames : names ≠ [])
    (hskip : options.ignoreDuplicates = false) (hupsert : options.upsert = true)
    (htruncate : options.truncate = false) :
    ∃ t, (seed table (.rows (rowsValue seeds)) uniqueBy options config simulation).run reactor s =
        (.ok seeds.length, t) ∧
      (t.snapshot simulation).Has table (seeds.foldl (Row.mergeSeed names) rows) ∧
      ∀ before seed after, seeds = before ++ seed :: after →
        ∃ found left, TakesIn reactor table options (names.map .text) { config, simulation } s t
            before seed after found left ∧
          (∀ (i : Nat) row, found[i]? = some row → left[i]? =
            some (if Row.matchesKeys names seed row then row.merge (Row.otherEntries names seed)
              else row)) ∧
          ((∀ row ∈ found, Row.matchesKeys names seed row = false) → left = found ++
            [(Row.keyEntries names seed).merge (Row.otherEntries names seed)]) ∧
          ((∀ (i : Nat) row, found[i]? = some row → left[i]? ≠ some row →
              Row.agreesUnder names seed row = true) ↔
            ∀ row ∈ found, Row.matchesKeys names seed row = true →
              row.merge (Row.otherEntries names seed) ≠ row →
                ∀ name ∈ names, seed.get? name = none → (row.value name).equal .null = true) := by
  obtain ⟨t, hrun, hleft, htakes⟩ :=
    (steps_mergeSeed reactor table hnames hskip hupsert { config, simulation }).run_seed h hserved
      hseeds hcolumns htruncate
  refine ⟨t, hrun, hleft, fun before seed after hsplit => ?_⟩
  have hseed : seed ∈ seeds := hsplit ▸ by simp
  refine ⟨_, _, htakes before seed after hsplit, fun i row hi => Row.getElem?_mergeSeed hi, ?_,
    Row.mergeSeed_keeps_iff fun p hp => ((hseeds seed hseed) p hp).1.bare_eq⟩
  intro hnone
  have hany : ¬ ((before.foldl (Row.mergeSeed names) rows).any
      (Row.matchesKeys names seed)) = true := by
    intro hsome
    obtain ⟨row, hrow, hmatches⟩ := List.any_eq_true.mp hsome
    rw [hnone row hrow] at hmatches
    cases hmatches
  rw [Row.mergeSeed, if_neg hany]

/-- A seed with both columns is merged into the row that agrees with it, and one that no row agrees
with is appended. -/
theorem seed_merges_twice :
    ∃ t, (seed "t" (.rows (rowsValue [[("a", .int 1), ("b", .int 2), ("c", .int 9)],
          [("a", .int 1), ("b", .int 3)]])) (.list [.text "a", .text "b"]) { upsert := true } none
          none).run .still (nursery [[("a", .int 1), ("b", .int 2), ("c", .int 0)]]) = (.ok 2, t) ∧
      (t.snapshot none).Has "t" (([[("a", .int 1), ("b", .int 2), ("c", .int 9)],
        [("a", .int 1), ("b", .int 3)]] : List Row).foldl (Row.mergeSeed ["a", "b"])
          [[("a", .int 1), ("b", .int 2), ("c", .int 0)]]) := by
  obtain ⟨t, hrun, hleft, -⟩ := @seed_merges .still _ "t" none none ["a", "b"]
    (.list [.text "a", .text "b"]) { upsert := true }
    [[("a", .int 1), ("b", .int 2), ("c", .int 0)]]
    [[("a", .int 1), ("b", .int 2), ("c", .int 9)], [("a", .int 1), ("b", .int 3)]] 0
    (nursery_simulates (by decide)) rfl (by decide) rfl (by decide) rfl rfl rfl
  exact ⟨t, hrun, hleft⟩

/-- A seed that lacks a column is merged into a row that does not agree with it under the column. -/
theorem seed_overwrites_disagreeing :
    ((seed "t" (.rows (.list [.map [("a", .int 1), ("c", .int 9)]]))
        (.list [.text "a", .text "b"]) { upsert := true } none none).run .still
          (nursery [[("a", .int 1), ("b", .int 2), ("c", .int 0)]])).1.isOk = true ∧
    ((((seed "t" (.rows (.list [.map [("a", .int 1), ("c", .int 9)]]))
        (.list [.text "a", .text "b"]) { upsert := true } none none).run .still
          (nursery [[("a", .int 1), ("b", .int 2), ("c", .int 0)]])).2.snapshot none).value
            "t").equal (.list [.map [("a", .int 1), ("b", .int 2), ("c", .int 9)]]) = true ∧
    Row.agreesUnder ["a", "b"] [("a", .int 1), ("c", .int 9)]
      [("a", .int 1), ("b", .int 2), ("c", .int 0)] = false := by
  decide +kernel

end Seeds

end Act

end FluentSql
