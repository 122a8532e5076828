import FluentSql.Proofs.Rows.Lists

set_option autoImplicit false

/-!
# Seeds among rows

Columns that tell rows apart decide which rows of a table a seed is taken for. A seed that is only
to be inserted if it is new is compared under those of the columns under which it has something
present; a seed that is to be merged is compared under those that it has. Neither need be all of
them, so a row that a seed is taken for may differ from it under the others.

## Main definitions

* `FluentSql.Row.agreesUnder` — agreement under all of some columns.
* `FluentSql.Row.passesFor`, `FluentSql.Row.matchesKeys` — the rows that a seed is taken for.
* `FluentSql.Row.appendNew`, `FluentSql.Row.mergeSeed` — tables once a seed has been taken in.

## Main results

* `FluentSql.Row.exists_passesFor_foldl_appendNew` — every seed has a row that passes for it.
* `FluentSql.Row.getElem?_mergeSeed` — what becomes of each row.
* `FluentSql.Descriptor.result_insert`, `FluentSql.Descriptor.result_updateOrInsert` — the writes
  that take a seed in.
-/

namespace FluentSql

/-! ## Agreement -/

/-- Nothing but what shows a text is the same as the text. -/
theorem Value.bare_eq_text_of_same (marked : Bool) {name : String} :
    ∀ v : Value, v.same marked (.text name) = true → v.bare = .text name
  | .view _ seen, h => by
    rw [same] at h
    exact bare_eq_text_of_same marked seen h
  | .text s, h => by
    unfold same at h
    exact congrArg Value.text (beq_iff_eq.mp h)
  | .null, h | .bool _, h | .int _, h | .float _, h | .nan _, h | .list _, h | .tuple _, h
  | .map _, h | .bytes _, h | .moment _, h | .writeResult .., h | .queryResult .., h
  | .object _, h | .raw _, h | .statement .., h | .builder .., h | .record .., h | .again, h
  | .function .., h => by
    unfold same at h
    have hfalse : false = true := h
    cases hfalse

/-- A text agrees with the texts that it is. -/
theorem Value.agrees_text (name other : String) :
    (Value.text name).agrees (.text other) = (name == other) := by
  unfold agrees same
  rfl

/-- The mapping of columns to what a function has for them takes in another column, once. -/
theorem Fields.set_columns (f : String → Value) (names : List String) (name : String) :
    Fields.set (names.map fun n => (.text n, f n)) (.text name) (f name) =
      (if name ∈ names then names else names ++ [name]).map fun n => (.text n, f n) := by
  induction names with
  | nil => rfl
  | cons other names ih =>
    rw [List.map_cons, Fields.set, Value.agrees_text, ih]
    by_cases hother : other = name
    · subst hother
      simp
    · have hname : name ≠ other := fun h => hother h.symm
      by_cases hmem : name ∈ names <;> simp [hother, hname, hmem]

/-- The mapping of columns to what a function has for them has every column once. -/
theorem Fields.exists_ofPairs_eq (f : String → Value) (columns : List String) :
    ∃ names : List String, (∀ name, name ∈ names ↔ name ∈ columns) ∧
      Fields.ofPairs (columns.map fun n => (.text n, f n)) = names.map fun n => (.text n, f n) := by
  have hmerge : ∀ columns old : List String, ∃ names : List String,
      (∀ name, name ∈ names ↔ name ∈ old ∨ name ∈ columns) ∧
        Fields.merge (old.map fun n => (.text n, f n)) (columns.map fun n => (.text n, f n)) =
          names.map fun n => (.text n, f n) := by
    intro columns
    induction columns with
    | nil => exact fun old => ⟨old, by simp, rfl⟩
    | cons column columns ih =>
      intro old
      obtain ⟨names, hnames, hmerge⟩ := ih (if column ∈ old then old else old ++ [column])
      refine ⟨names, fun name => (hnames name).trans ?_, ?_⟩
      · split <;> grind
      · rw [← hmerge, ← Fields.set_columns]
        rfl
  obtain ⟨names, hnames, hpairs⟩ := hmerge columns []
  exact ⟨names, by simpa using hnames, hpairs⟩

namespace Row

/-- Whether a row agrees with a seed under every one of some columns; a column that is missing
counts as null. -/
def agreesUnder (columns : List String) (seed row : Row) : Bool :=
  columns.all fun column => (row.value column).equal (seed.value column)

/-- Whether a row agrees with a seed under those of some columns under which the seed has something
present. -/
def passesFor (columns : List String) (seed row : Row) : Bool :=
  columns.all fun column =>
    !(seed.value column).present || (row.value column).equal (seed.value column)

/-- Whether a key is one of some columns. -/
def isKey (columns : List String) (key : Value) : Bool := (columns.map Value.text).any key.agrees

/-- The entries of a seed under some columns. -/
def keyEntries (columns : List String) (seed : Row) : Row :=
  seed.filter fun p => isKey columns p.1

/-- The entries of a seed beside some columns. -/
def otherEntries (columns : List String) (seed : Row) : Row :=
  seed.filter fun p => !isKey columns p.1

/-- The attributes and the values of an update-or-insert that merges a seed. -/
def mergeData (columns : List String) (seed : Row) : Value :=
  .map [("attributes", .map (keyEntries columns seed)),
    ("values", .map (otherEntries columns seed))]

/-- Whether a row has under the keys of some attributes what they have. -/
def hasAll (attributes : Fields) (row : Row) : Bool :=
  attributes.all fun p => (row.value p.1).equal p.2

/-- Whether a row agrees with a seed under those of some columns that the seed has. -/
def matchesKeys (columns : List String) (seed row : Row) : Bool :=
  (keyEntries columns seed).all fun p => (row.value p.1).equal p.2

section Agreement

variable {columns : List String} {seed row : Row}

/-- A row that agrees with a seed passes for it. -/
theorem passesFor_of_agreesUnder (h : agreesUnder columns seed row = true) :
    passesFor columns seed row = true := by
  rw [agreesUnder, List.all_eq_true] at h
  rw [passesFor, List.all_eq_true]
  intro column hcolumn
  rw [h column hcolumn, Bool.or_true]

/-- For a seed that has something present under every column, the rows that pass are those that
agree. -/
theorem passesFor_eq_agreesUnder (h : ∀ column ∈ columns, (seed.value column).present = true)
    (row : Row) : passesFor columns seed row = agreesUnder columns seed row := by
  rw [passesFor, agreesUnder, Bool.eq_iff_iff, List.all_eq_true, List.all_eq_true]
  refine forall₂_congr fun column hcolumn => ?_
  rw [h column hcolumn, Bool.not_true, Bool.false_or]

/-- Which rows pass for a seed is a matter of which columns there are, not of their order or number.
-/
theorem passesFor_congr {others : List String} (h : ∀ column, column ∈ others ↔ column ∈ columns)
    (seed row : Row) : passesFor others seed row = passesFor columns seed row := by
  rw [passesFor, passesFor, Bool.eq_iff_iff, List.all_eq_true, List.all_eq_true]
  simp only [h]

/-- A row that agrees with a seed under the columns that the seed has agrees with it under all just
if it has nothing but null under the others. -/
theorem agreesUnder_iff_of_matchesKeys (hbare : ∀ p ∈ seed, p.1.bare = p.1)
    (h : matchesKeys columns seed row = true) :
    agreesUnder columns seed row = true ↔
      ∀ column ∈ columns, seed.get? column = none → (row.value column).equal .null = true := by
  rw [matchesKeys, List.all_eq_true] at h
  rw [agreesUnder, List.all_eq_true]
  refine forall₂_congr fun column hcolumn => ?_
  cases hfound : seed.get? column with
  | none =>
    have hnull : seed.value column = .null := by rw [Fields.value, hfound, Option.getD_none]
    rw [hnull]
    exact ⟨fun hequal _ => hequal, fun hequal => hequal rfl⟩
  | some v =>
    have hv : seed.value column = v := by rw [Fields.value, hfound, Option.getD_some]
    obtain ⟨p, hp, rfl⟩ := Option.map_eq_some_iff.mp hfound
    have hmem : p ∈ seed := List.mem_of_find?_eq_some hp
    have hagrees : p.1.agrees (.text column) = true := by simpa using List.find?_some hp
    have hname : p.1 = .text column :=
      (hbare p hmem).symm.trans (Value.bare_eq_text_of_same true p.1 hagrees)
    have hkey : p ∈ keyEntries columns seed :=
      List.mem_filter.mpr ⟨hmem, List.any_eq_true.mpr ⟨_, List.mem_map_of_mem hcolumn, hagrees⟩⟩
    have hequal := h p hkey
    rw [hname] at hequal
    rw [hv, hequal]
    exact ⟨fun _ hnone => (by cases hnone), fun _ => rfl⟩

end Agreement

/-! ## Taking seeds in -/

/-- A table with a seed appended, unless a row passes for it. -/
def appendNew (columns : List String) (rows : List Row) (seed : Row) : List Row :=
  if rows.any (passesFor columns seed) then rows else rows ++ [seed]

/-- A table with a seed appended, unless a row agrees with it under every one of some columns. -/
def appendDistinct (columns : List String) (rows : List Row) (seed : Row) : List Row :=
  if rows.any (agreesUnder columns seed) then rows else rows ++ [seed]

/-- A table with a seed merged into the rows that match it, or appended if there are none. -/
def mergeSeed (columns : List String) (rows : List Row) (seed : Row) : List Row :=
  if rows.any (matchesKeys columns seed) then
    rows.map fun row =>
      if matchesKeys columns seed row then row.merge (otherEntries columns seed) else row
  else rows ++ [(keyEntries columns seed).merge (otherEntries columns seed)]

section Taking

variable {columns : List String} {rows : List Row} {seed : Row}

/-- What is there stays, in front. -/
theorem prefix_appendNew (columns : List String) (rows : List Row) (seed : Row) :
    rows <+: appendNew columns rows seed := by
  rw [appendNew]
  split
  · exact List.prefix_rfl
  · exact List.prefix_append rows [seed]

/-- What is there stays in front of all seeds. -/
theorem prefix_foldl_appendNew (columns : List String) (seeds rows : List Row) :
    rows <+: seeds.foldl (appendNew columns) rows := by
  induction seeds generalizing rows with
  | nil => exact List.prefix_rfl
  | cons seed seeds ih => exact (prefix_appendNew columns rows seed).trans (ih _)

/-- Once a seed has been taken in, a row passes for it, if its values under the columns are equal to
themselves. -/
theorem exists_passesFor_appendNew
    (hself : ∀ column ∈ columns, (seed.value column).equal (seed.value column) = true)
    (rows : List Row) : ∃ row ∈ appendNew columns rows seed, passesFor columns seed row = true := by
  rw [appendNew]
  split
  · next hsome => exact List.any_eq_true.mp hsome
  · exact ⟨seed, by simp, passesFor_of_agreesUnder (List.all_eq_true.mpr hself)⟩

/-- Once seeds have been taken in, a row passes for each of them whose values under the columns are
equal to themselves.

**Proof sketch.** When its turn comes the seed is either found or appended, and a row that is equal
to itself passes for itself. The seeds after it only append, so the row is still there. -/
theorem exists_passesFor_foldl_appendNew {seeds : List Row} (hseed : seed ∈ seeds)
    (hself : ∀ column ∈ columns, (seed.value column).equal (seed.value column) = true)
    (rows : List Row) :
    ∃ row ∈ seeds.foldl (appendNew columns) rows, passesFor columns seed row = true := by
  obtain ⟨before, after, rfl⟩ := List.append_of_mem hseed
  rw [List.foldl_append, List.foldl_cons]
  obtain ⟨row, hrow, hpasses⟩ :=
    exists_passesFor_appendNew hself (before.foldl (appendNew columns) rows)
  exact ⟨row, (prefix_foldl_appendNew columns after _).subset hrow, hpasses⟩

/-- A seed is appended where no row agrees with it, and only there, just if a row that passes for it
means that one agrees. -/
theorem appendNew_eq_appendDistinct_iff (columns : List String) (rows : List Row) (seed : Row) :
    appendNew columns rows seed = appendDistinct columns rows seed ↔
      ((∃ row ∈ rows, passesFor columns seed row = true) →
        ∃ row ∈ rows, agreesUnder columns seed row = true) := by
  rw [appendNew, appendDistinct, ← List.any_eq_true, ← List.any_eq_true]
  cases hpasses : rows.any (passesFor columns seed) with
  | false =>
    have hnone : ¬ rows.any (agreesUnder columns seed) = true := by
      intro hagrees
      obtain ⟨row, hrow, hagrees⟩ := List.any_eq_true.mp hagrees
      have hsome := List.any_eq_true.mpr ⟨row, hrow, passesFor_of_agreesUnder hagrees⟩
      rw [hpasses] at hsome
      cases hsome
    simp [hnone]
  | true => cases rows.any (agreesUnder columns seed) <;> simp

/-- Seeds that have something present under every column are appended where no row agrees with them.
-/
theorem foldl_appendNew_eq_foldl_appendDistinct {seeds : List Row}
    (h : ∀ seed ∈ seeds, ∀ column ∈ columns, (seed.value column).present = true)
    (rows : List Row) :
    seeds.foldl (appendNew columns) rows = seeds.foldl (appendDistinct columns) rows := by
  induction seeds generalizing rows with
  | nil => rfl
  | cons seed seeds ih =>
    obtain ⟨hseed, hrest⟩ := List.forall_mem_cons.mp h
    have hstep : appendNew columns rows seed = appendDistinct columns rows seed := by
      rw [appendNew_eq_appendDistinct_iff]
      rintro ⟨row, hrow, hpasses⟩
      exact ⟨row, hrow, passesFor_eq_agreesUnder hseed row ▸ hpasses⟩
    rw [List.foldl_cons, List.foldl_cons, hstep, ih hrest]

/-- A seed that is merged changes the rows that match it, and leaves the others as they are and
where they are.

**Proof sketch.** If some row matches, every row is mapped and none is appended. If none does, the
row is appended after all the others. -/
theorem getElem?_mergeSeed {i : Nat} {row : Row} (h : rows[i]? = some row) :
    (mergeSeed columns rows seed)[i]? =
      some (if matchesKeys columns seed row then row.merge (otherEntries columns seed)
        else row) := by
  rw [mergeSeed]
  split
  · rw [List.getElem?_map, h]
    rfl
  · next hnone =>
    have hrow : ¬ matchesKeys columns seed row = true := fun hmatches =>
      hnone (List.any_eq_true.mpr ⟨row, List.mem_of_getElem? h, hmatches⟩)
    rw [if_neg hrow, List.getElem?_append_left (List.getElem?_eq_some_iff.mp h).1, h]

/-- A seed that is merged changes only rows that agree with it under every column just if the rows
that it changes have nothing but null under the columns that it lacks. -/
theorem mergeSeed_keeps_iff (hbare : ∀ p ∈ seed, p.1.bare = p.1) :
    (∀ (i : Nat) row, rows[i]? = some row → (mergeSeed columns rows seed)[i]? ≠ some row →
        agreesUnder columns seed row = true) ↔
      ∀ row ∈ rows, matchesKeys columns seed row = true →
        row.merge (otherEntries columns seed) ≠ row →
          ∀ column ∈ columns, seed.get? column = none → (row.value column).equal .null = true := by
  constructor
  · intro h row hrow hmatches hchanged
    obtain ⟨i, hi⟩ := List.mem_iff_getElem?.mp hrow
    refine (agreesUnder_iff_of_matchesKeys hbare hmatches).mp (h i row hi ?_)
    rw [getElem?_mergeSeed hi, if_pos hmatches]
    exact fun hsame => hchanged (Option.some.inj hsame)
  · intro h i row hi hchanged
    rw [getElem?_mergeSeed hi] at hchanged
    by_cases hmatches : matchesKeys columns seed row = true
    · rw [if_pos hmatches] at hchanged
      have hmerged : row.merge (otherEntries columns seed) ≠ row := fun hsame =>
        hchanged (congrArg some hsame)
      exact (agreesUnder_iff_of_matchesKeys hbare hmatches).mpr
        (h row (List.mem_of_getElem? hi) hmatches hmerged)
    · rw [if_neg hmatches] at hchanged
      exact absurd rfl hchanged

end Taking

end Row

/-! ## Updating rows -/

/-- The entries that a mapping is updated with by a value: those of a mapping, or a sequence of
pairs. -/
def Value.updates : Value → Except Error Fields
  | .map fs => .ok fs
  | v => do (← v.items).mapM entry

/-- Pairs are put into a mapping like the entries that they spell. -/
theorem Fields.mergePairs_of_entries {pairs : List Value} {given : Fields}
    (h : pairs.mapM Value.entry = .ok given) (row : Fields) :
    row.mergePairs pairs = (row.merge given, none) := by
  induction pairs generalizing row given with
  | nil =>
    cases h
    rfl
  | cons pair pairs ih =>
    rw [List.mapM_cons] at h
    obtain ⟨⟨key, v⟩, hpair, h⟩ := bind_eq_ok.mp h
    obtain ⟨rest, hrest, h⟩ := bind_eq_ok.mp h
    cases h
    rw [mergePairs, hpair]
    exact ih hrest (row.set key v)

/-- Updating a row that is a mapping puts the entries into it. -/
theorem updateRow_map {data : Value} {given : Fields} (h : data.updates = .ok given) (row : Row) :
    updateRow data (.map row) = (.map (Fields.merge row given), none) := by
  cases data with
  | map values =>
    cases h
    rfl
  | _ =>
    obtain ⟨pairs, hpairs, h⟩ := bind_eq_ok.mp h
    simp only [updateRow, hpairs, Fields.mergePairs_of_entries h]

/-- Rows that are marked are changed, and the others stay, if the change fails at none of them. -/
theorem changeMarked_of_ok {act : Value → Value × Option Error} {change : Row → Row}
    {marks : Row → Bool} {rows : List Row}
    (h : ∀ row ∈ rows, marks row = true → act (.map row) = (.map (change row), none)) :
    changeMarked act ((rows.map marks).zip (rows.map .map)) =
      ((rows.map fun row => if marks row then change row else row).map .map, none) := by
  induction rows with
  | nil => rfl
  | cons row rows ih =>
    obtain ⟨hrow, hrows⟩ := List.forall_mem_cons.mp h
    rw [List.map_cons, List.map_cons, List.zip_cons_cons]
    cases hmark : marks row with
    | false => simp [changeMarked, hmark, ih hrows]
    | true => simp [changeMarked, hmark, ih hrows, hrow hmark]

/-- Rows that are marked are updated, and the others stay. -/
theorem changeMarked_updateRow {data : Value} {given : Fields} (h : data.updates = .ok given)
    (marks : Row → Bool) (rows : List Row) :
    changeMarked (updateRow data) ((rows.map marks).zip (rows.map .map)) =
      ((rows.map fun row => if marks row then Fields.merge row given else row).map .map,
        none) :=
  changeMarked_of_ok fun row _ _ => updateRow_map h row

/-! ## The queries and writes that do it -/

/-- Predicates that `AND` connects hold just if each of them does. -/
theorem predicateHolds_eq_all (holds : Predicate → Bool) {ps : List Predicate}
    (h : ∀ p ∈ ps, p.logical = .and) : predicateHolds holds ps = ps.all holds := by
  have hgroup : ∀ (ps : List Predicate) (current : Bool), (∀ p ∈ ps, p.logical = .and) →
      someGroup holds current ps = (current && ps.all holds) := by
    intro ps
    induction ps with
    | nil => simp [someGroup]
    | cons p ps ih =>
      intro current h
      obtain ⟨hp, hps⟩ := List.forall_mem_cons.mp h
      simp only [someGroup, hp, ih _ hps, List.all_cons, Bool.and_assoc]
  cases ps with
  | nil => rfl
  | cons p ps =>
    rw [predicateHolds, hgroup ps _ (List.forall_mem_cons.mp h).2, List.all_cons]

/-- The comparisons of some columns with what a seed has present under them. -/
def Row.equalities (columns : List String) (seed : Row) : List Predicate :=
  (columns.filter fun column : String => (seed.value column).present).map fun column =>
    .basic column .eq (seed.value column) .and

namespace Descriptor

variable {d : Descriptor} {columns : List String} {seed : Row}

/-- A query that compares columns with a seed keeps the rows that pass for it. -/
theorem keeps_equalities (h : d.wheres = Row.equalities columns seed) (row : Row) :
    d.keeps row = Row.passesFor columns seed row := by
  have hand : ∀ p ∈ Row.equalities columns seed, p.logical = .and := by
    intro p hp
    obtain ⟨column, -, rfl⟩ := List.mem_map.mp hp
    rfl
  rw [keeps, h, predicateHolds_eq_all _ hand, Row.equalities, Row.passesFor, List.all_map,
    List.all_filter]
  rfl

/-- A query without an offset that is cut to its first row selects the first of the rows that it
keeps. -/
theorem selectRows_of_limit_one (hoffset : d.offset = .null) (hlimit : d.limit = .int 1)
    (rows : List Row) :
    d.selectRows (rowsValue rows) = .ok (((rows.filter d.keeps).take 1).map .map) := by
  have hstart : d.offset.orElse (.int 0) = .int 0 := by
    rw [hoffset]
    rfl
  have hslice := slice_natCast (rows.filter d.keeps) 0 1
  rw [List.drop_zero] at hslice
  rw [selectRows_of_limit_int hstart hlimit, ← hslice]
  rfl

/-- The last of some rows is their item at the position before the first. -/
theorem subscript_last (before : List Row) (last : Row) :
    (rowsValue (before ++ [last])).subscript (.int (-1)) = .ok (.map last) := by
  have hplace : (-1 : Int) + ((before ++ [last]).map Value.map).length = before.length := by
    simp only [List.length_map, List.length_append, List.length_singleton]
    omega
  have hthere : ¬ ((before.length : Int) < 0) := by omega
  have hlast : ((before ++ [last]).map Value.map)[before.length]? = some (.map last) := by simp
  change Value.itemAt ((before ++ [last]).map Value.map) (-1) = _
  have hnegative : (-1 : Int) < 0 := by decide
  rw [Value.itemAt, if_pos hnegative, hplace, if_neg hthere, Int.toNat_natCast, hlast]

/-- What is reported of rows that are appended: how many there are, and the identifier of the last
one. -/
def insertion (key : Value) (added : List Row) : WriteResult where
  changes := .int added.length
  lastId := ((added.getLast?.map fun row : Row => row.value key).getD .null).orElse (.int 0)

/-- Rows are appended to a list of rows. -/
theorem appendRows_rowsValue {key : Value} (hkey : key.hashable = true) (rows added : List Row) :
    appendRows key (rowsValue rows) (rowsValue added) =
      .ok ⟨.extended (rowsValue added), insertion key added⟩ := by
  rcases List.eq_nil_or_concat added with rfl | ⟨before, last, rfl⟩
  · rfl
  · rw [List.concat_eq_append]
    have htruthy : (rowsValue (before ++ [last])).truthy = true := by
      simp [rowsValue, Value.truthy]
    have hlength : (rowsValue (before ++ [last])).length = .ok (before.length + 1) := by
      simp [rowsValue, Value.length, Value.bare, Value.items, ok_bind, pure_eq_ok]
    have hinsertion : insertion key (before ++ [last]) =
        { changes := .int (before.length + 1)
          lastId := (Fields.value last key).orElse (.int 0) } := by simp [insertion]
    rw [appendRows, if_pos htruthy, subscript_last, ok_bind, Value.cell, Value.fields, ok_bind,
      Fields.cell, if_pos hkey, hlength, hinsertion]
    rfl

/-- An attempt that appends rows to a list of rows leaves the rows and the new ones. -/
theorem result_appendRows {key : Value} (hkey : key.hashable = true) (rows added : List Row) :
    (Attempt.untouched (rows.map .map)
        (appendRows key (rowsValue rows) (rowsValue added))).result (rowsValue rows) =
      .ok (rowsValue (rows ++ added), insertion key added) := by
  rw [appendRows_rowsValue hkey, rowsValue, rowsValue, rowsValue, List.map_append]
  rfl

/-- Inserting rows appends them to a list of rows. -/
theorem result_insert {key : Value} (hkey : key.hashable = true) {added : List Row}
    (hpending : d.pending = some ⟨WriteKind.insert.keyword, rowsValue added⟩) (rows : List Row) :
    ∃ result, (d.applyTo key (rowsValue rows)).result (rowsValue rows) =
      .ok (rowsValue (rows ++ added), result) := by
  rw [applyTo_keyword hpending, applyKind, Placed.items_apart]
  exact ⟨_, result_appendRows hkey rows added⟩

/-- A mapping has attributes if each of them is equal to what it has under the key. -/
theorem hasAttributes_map (attributes row : Fields) :
    hasAttributes (.map attributes) (.map row) = .ok (Row.hasAll attributes row) := by
  cases attributes <;> rfl

/-- Which of a list of rows have some attributes. -/
theorem mapM_hasAttributes (attributes : Fields) (rows : List Row) :
    (rows.map Value.map).mapM (hasAttributes (.map attributes)) =
      .ok (rows.map (Row.hasAll attributes)) := by
  rw [List.mapM_map]
  exact mapM_eq_ok_map fun row _ => hasAttributes_map _ row

/-- Updating or inserting changes the rows that have the attributes, at every place at which they
stand; if there are none, it appends what the attributes and the values make. -/
theorem applyOn_updateOrInsert {key data values : Value} {attributes : Fields}
    (hpending : d.pending = some ⟨WriteKind.updateOrInsert.keyword, data⟩)
    (hattributes : data.subscript "attributes" = .ok (.map attributes))
    (hvalues : data.subscript "values" = .ok values) (rows : List Row) (placed : Placed) :
    d.applyOn key (rowsValue rows) placed =
      if rows.any (Row.hasAll attributes) then
        attemptChange (rows.map (Row.hasAll attributes)) (updateRow values) placed
      else .untouched placed.items
        (mergedFields (.map attributes) values >>= fun row =>
          appendRows key (rowsValue rows) (rowsValue [row])) := by
  have hany : (rows.map (Row.hasAll attributes)).contains true =
      rows.any (Row.hasAll attributes) := by
    rw [Bool.eq_iff_iff, List.contains_iff_mem, List.mem_map, List.any_eq_true]
  rw [applyOn_keyword hpending, applyKind, applyUpdateOrInsert, hattributes, ok_bind, hvalues,
    ok_bind, rowsValue, Value.items, ok_bind, mapM_hasAttributes, ok_bind]
  dsimp only [pure_eq_ok]
  rw [hany]
  rfl

/-- On a list of rows, updating or inserting changes the rows that have the attributes where they
stand; if there are none, it appends what the attributes and the values make. -/
theorem applyTo_updateOrInsert {key data values : Value} {attributes : Fields}
    (hpending : d.pending = some ⟨WriteKind.updateOrInsert.keyword, data⟩)
    (hattributes : data.subscript "attributes" = .ok (.map attributes))
    (hvalues : data.subscript "values" = .ok values) (rows : List Row) :
    d.applyTo key (rowsValue rows) =
      if rows.any (Row.hasAll attributes) then
        attemptApart (rows.map (Row.hasAll attributes)) (updateRow values) (rows.map .map)
      else .untouched (rows.map .map)
        (mergedFields (.map attributes) values >>= fun row =>
          appendRows key (rowsValue rows) (rowsValue [row])) := by
  have happly := @applyOn_updateOrInsert _ key _ _ _ hpending hattributes hvalues rows
    (.apart (rows.map .map))
  rw [Placed.items_apart, attemptChange_apart (by simp)] at happly
  exact happly

/-- Updating the rows that match a seed, or inserting it, merges it into a list of rows. -/
theorem result_updateOrInsert {key : Value} (hkey : key.hashable = true)
    (hpending : d.pending = some ⟨WriteKind.updateOrInsert.keyword, Row.mergeData columns seed⟩)
    (rows : List Row) :
    ∃ result, (d.applyTo key (rowsValue rows)).result (rowsValue rows) =
      .ok (rowsValue (Row.mergeSeed columns rows seed), result) := by
  have hmatches : Row.hasAll (Row.keyEntries columns seed) = Row.matchesKeys columns seed := rfl
  rw [applyTo_updateOrInsert hpending rfl rfl, hmatches, Row.mergeSeed]
  cases hsome : rows.any (Row.matchesKeys columns seed) with
  | true =>
    rw [if_pos rfl, if_pos rfl, attemptApart, changeMarked_updateRow rfl]
    exact ⟨{ changes := .int ((rows.map (Row.matchesKeys columns seed)).count true) }, rfl⟩
  | false => exact ⟨_, result_appendRows hkey rows [_]⟩

end Descriptor

end FluentSql
