import FluentSql.Proofs.Statement.Refusing
import FluentSql.Proofs.Statement.Verbatim
import FluentSql.Session.Writing

set_option autoImplicit false

/-!
# The statements of a query

From a query its SELECT is compiled, and the statements of its queued write: an INSERT, an UPDATE,
an increment or a DELETE, and of an update-or-insert the UPDATE and the INSERT. All of them are made
up of chunks. What they take over verbatim is what the query does, and the columns that the write
names.

## Main definitions

* `FluentSql.insertChunks`, `FluentSql.Descriptor.updateChunks`,
  `FluentSql.Descriptor.incrementChunks`, `FluentSql.Descriptor.deleteChunks` — the chunks of
  writes.
* `FluentSql.Descriptor.Compiles` — the statements that are compiled from a query, with the chunks
  assigned to them.
* `FluentSql.WriteKind.verbatim` — the texts that a queued write takes over verbatim.

## Main results

* `FluentSql.Descriptor.Compiles.exists_chunks` — a statement that is compiled is that of its
  chunks.
* `FluentSql.Descriptor.Compiles.allHave` — the chunks have what the verbatim texts have.
-/

namespace FluentSql

/-! ## The chunks of writes -/

/-- The groups of an INSERT: for every row the values under the columns. -/
def groupChunks (columns : List Value) : List Value → Except Error (List (List Chunk))
  | [] => .ok []
  | row :: rows => do
    let fields ← row.fields "get"
    let rest ← groupChunks columns rows
    return (.text "(" :: (Chunk.values (columns.map fields.value) ++ [.text ")"])) :: rest

/-- The chunks of an INSERT that names the columns of a first row. -/
def namingChunks (table : String) (rows first : Value) : Except Error (List Chunk) := do
  let columns := (← first.fields "keys").keys
  let items ← rows.items
  let groups ← groupChunks columns items
  let names ← (Value.list columns).joined
  return .text ("INSERT INTO " ++ table ++ " (" ++ names ++ ") VALUES ") ::
    Chunk.separated ", " groups

/-- The chunks of an INSERT. -/
def insertChunks (table : String) (rows : Value) : Except Error (List Chunk) :=
  if rows.listed.truthy then
    rows.listed.subscript (.int 0) >>= fun first =>
      if first.truthy then namingChunks table rows.listed first else .error .emptyInsert
  else .error .emptyInsert

namespace Descriptor

/-- The chunks of a write that ends in the predicate of a query. -/
def restrictedChunks (d : Descriptor) (head : List Chunk) : Except Error (List Chunk) :=
  (predicateChunks d.wheres).map fun predicate =>
    head ++ if Chunk.allSql predicate = "" then predicate else .text " WHERE " :: predicate

/-- The chunks of an UPDATE. -/
def updateChunks (d : Descriptor) (values : Value) : Except Error (List Chunk) :=
  if values.truthy then
    values.fields "items" >>= fun fields =>
      d.restrictedChunks (.text ("UPDATE " ++ d.table ++ " SET ") :: Chunk.separated ", "
        (fields.map fun (column, v) => [.text (column.display ++ " = "), .value v]))
  else .error .emptyUpdate

/-- The chunks of an UPDATE that adds an amount to a column, or subtracts it. -/
def incrementChunks (d : Descriptor) (column amount : Value) (decrement : Bool) :
    Except Error (List Chunk) :=
  d.restrictedChunks [.text ("UPDATE " ++ d.table ++ " SET " ++ column.display ++ " = " ++
    column.display ++ (if decrement then " - " else " + ")), .value amount]

/-- The chunks of a DELETE. -/
def deleteChunks (d : Descriptor) : Except Error (List Chunk) :=
  d.restrictedChunks [.text ("DELETE FROM " ++ d.table)]

end Descriptor

/-! ### Writes are made up of chunks -/

/-- The groups of an INSERT are assembled from their chunks. -/
theorem insertGroups_eq (columns rows : List Value) :
    insertGroups columns rows = .ofParts (groupChunks columns rows) := by
  induction rows with
  | nil =>
    funext bound
    simp [insertGroups, groupChunks, Assembly.ofParts, Assembly.pure_apply, Except.map]
  | cons row rows ih =>
    funext bound
    rw [insertGroups, groupChunks, ih]
    cases row.fields "get" with
    | error e => rfl
    | ok fields =>
      cases groupChunks columns rows with
      | error e => rfl
      | ok rest =>
        simp [Assembly.bindAll, Assembly.ofParts, Chunk.sql, Chunk.bindings, bind, StateT.bind,
          Except.bind, Assembly.pure_apply, pure_eq_ok, Except.map, liftM, monadLift,
          MonadLift.monadLift, StateT.lift, String.append_assoc]

/-- An INSERT that names the columns of a first row is made up of its chunks. -/
theorem insertNaming_eq_map_chunks (table : String) (rows first : Value) :
    insertNaming table rows first =
      (namingChunks table rows first).map fun cs => { toStatement := .ofChunks cs } := by
  rw [insertNaming, namingChunks]
  cases first.fields "keys" with
  | error e => rfl
  | ok fields =>
    cases rows.items with
    | error e => rfl
    | ok items =>
      simp only [ok_bind, insertGroups_eq]
      cases groupChunks fields.keys items with
      | error e => rfl
      | ok groups =>
        cases (Value.list fields.keys).joined with
        | error e => rfl
        | ok names =>
          simp [Assembly.statement, Assembly.ofParts, Statement.ofChunks, Chunk.sql, Chunk.bindings,
            StateT.run, bind, StateT.bind, Except.bind, Assembly.pure_apply, pure_eq_ok, Except.map,
            liftM, monadLift, MonadLift.monadLift, StateT.lift]

/-- An INSERT is made up of its chunks. -/
theorem insertStatement_eq_map_chunks (table : String) (rows : Value) :
    insertStatement table rows =
      (insertChunks table rows).map fun cs => { toStatement := .ofChunks cs } := by
  rw [insertStatement_eq_insertNaming, insertChunks]
  split
  · cases rows.listed.subscript (.int 0) with
    | error e => rfl
    | ok first =>
      simp only [ok_bind]
      split
      · exact insertNaming_eq_map_chunks table rows.listed first
      · rfl
  · rfl

namespace Descriptor

variable {d : Descriptor} {w : WriteStatement}

/-- A write that ends in the predicate of a query is made up of its chunks. -/
theorem withWhere_of_chunks {head : List Chunk} (h : d.withWhere (.ofChunks head) = .ok w) :
    ∃ cs, d.restrictedChunks head = .ok cs ∧ w.toStatement = .ofChunks cs := by
  simp only [withWhere, whereStatement_eq_map_chunks, bind_eq_ok, map_eq_ok, pure_eq_ok,
    Except.ok.injEq] at h
  obtain ⟨predicate, ⟨cs, hcs, rfl⟩, rfl⟩ := h
  refine ⟨_, by rw [restrictedChunks, hcs]; rfl, ?_⟩
  by_cases hempty : Chunk.allSql cs = ""
  · simp [Statement.ofChunks, hempty]
  · simp [Statement.ofChunks, hempty, Chunk.sql, Chunk.bindings, String.append_assoc]

/-- An UPDATE is made up of its chunks. -/
theorem updateStatement_of_chunks {values : Value} (h : d.updateStatement values = .ok w) :
    ∃ cs, d.updateChunks values = .ok cs ∧ w.toStatement = .ofChunks cs := by
  have htruthy := truthy_of_updateStatement h
  rw [updateStatement, htruthy] at h
  obtain ⟨fields, hfields, h⟩ := bind_eq_ok.mp h
  rw [updateChunks, htruthy, hfields]
  refine withWhere_of_chunks ?_
  have hhead : Statement.ofChunks (.text ("UPDATE " ++ d.table ++ " SET ") :: Chunk.separated ", "
      (fields.map fun (column, v) => [.text (column.display ++ " = "), .value v])) = {
        sql := "UPDATE " ++ d.table ++ " SET " ++ String.intercalate ", "
          (fields.keys.map fun column => column.display ++ " = ?")
        bindings := fields.map (·.2) } := by
    simp [Statement.ofChunks, Chunk.sql, Chunk.bindings, Fields.keys, Function.comp_def,
      List.flatMap_map, String.append_assoc]
    exact List.map_eq_flatMap.symm
  rw [hhead]
  exact h

/-- An increment is made up of its chunks. -/
theorem incrementStatement_of_chunks {column amount : Value} {decrement : Bool}
    (h : d.incrementStatement column amount decrement = .ok w) :
    ∃ cs, d.incrementChunks column amount decrement = .ok cs ∧ w.toStatement = .ofChunks cs := by
  refine withWhere_of_chunks ?_
  rw [← h, incrementStatement]
  simp [Statement.ofChunks, Chunk.sql, Chunk.bindings]

/-- A DELETE is made up of its chunks. -/
theorem deleteStatement_of_chunks (h : d.deleteStatement = .ok w) :
    ∃ cs, d.deleteChunks = .ok cs ∧ w.toStatement = .ofChunks cs := by
  refine withWhere_of_chunks ?_
  rw [← h, deleteStatement]
  simp [Statement.ofChunks, Chunk.sql, Chunk.bindings]

/-! ## The statements compiled from a query -/

/-- A write of a kind is queued, with its data. -/
def Queues (d : Descriptor) (kind : WriteKind) (data : Value) : Prop :=
  d.pending = some { kind := kind.keyword, data }

/-- The statements that are compiled from a query, with the chunks that are assigned to them: its
SELECT, and those of its queued write. An update-or-insert compares the attributes in its UPDATE,
and inserts them together with the values. -/
inductive Compiles (d : Descriptor) : Statement → Except Error (List Chunk) → Prop
  | select {s : Statement} (h : d.select = .ok s) : Compiles d s d.chunks
  | insert {rows : Value} {w : WriteStatement} (hqueue : d.Queues .insert rows)
      (h : insertStatement d.table rows = .ok w) :
      Compiles d w.toStatement (insertChunks d.table rows)
  | update {values : Value} {w : WriteStatement} (hqueue : d.Queues .update values)
      (h : d.updateStatement values = .ok w) : Compiles d w.toStatement (d.updateChunks values)
  | increment {decrement : Bool} {data column amount : Value} {w : WriteStatement}
      (hqueue : d.Queues (if decrement then .decrement else .increment) data)
      (hcolumn : data.subscript "column" = .ok column)
      (hamount : data.getOr "amount" (.int 1) = .ok amount)
      (h : d.incrementStatement column amount decrement = .ok w) :
      Compiles d w.toStatement (d.incrementChunks column amount decrement)
  | delete {data : Value} {w : WriteStatement} (hqueue : d.Queues .delete data)
      (h : d.deleteStatement = .ok w) : Compiles d w.toStatement d.deleteChunks
  | updateFirst {data attributes values : Value} {wanted : Fields} {wheres : List Predicate}
      {w : WriteStatement} (hqueue : d.Queues .updateOrInsert data)
      (hattributes : data.subscript "attributes" = .ok attributes)
      (hvalues : data.subscript "values" = .ok values)
      (hwanted : attributes.fields "items" = .ok wanted)
      (hwheres : Act.attributePredicates wanted = .ok wheres)
      (h : { d with wheres }.updateStatement (values.orElse attributes) = .ok w) :
      Compiles d w.toStatement ({ d with wheres }.updateChunks (values.orElse attributes))
  | insertThen {data attributes values : Value} {wanted row : Fields} {wheres : List Predicate}
      {w : WriteStatement} (hqueue : d.Queues .updateOrInsert data)
      (hattributes : data.subscript "attributes" = .ok attributes)
      (hvalues : data.subscript "values" = .ok values)
      (hwanted : attributes.fields "items" = .ok wanted)
      (hwheres : Act.attributePredicates wanted = .ok wheres)
      (hrow : mergedFields attributes values = .ok row)
      (h : insertStatement d.table (.list [.map row]) = .ok w) :
      Compiles d w.toStatement (insertChunks d.table (.list [.map row]))

/-- A statement that is compiled is that of the chunks assigned to it. -/
theorem Compiles.exists_chunks {s : Statement} {chunks : Except Error (List Chunk)}
    (h : d.Compiles s chunks) : ∃ cs, chunks = .ok cs ∧ s = .ofChunks cs := by
  have hinsert : ∀ {table : String} {rows : Value} {w : WriteStatement},
      insertStatement table rows = .ok w →
        ∃ cs, insertChunks table rows = .ok cs ∧ w.toStatement = .ofChunks cs := by
    intro table rows w hw
    rw [insertStatement_eq_map_chunks, map_eq_ok] at hw
    obtain ⟨cs, hcs, rfl⟩ := hw
    exact ⟨cs, hcs, rfl⟩
  cases h with
  | select h =>
    rw [select_eq_map_chunks, map_eq_ok] at h
    obtain ⟨cs, hcs, rfl⟩ := h
    exact ⟨cs, hcs, rfl⟩
  | insert _ h => exact hinsert h
  | update _ h => exact updateStatement_of_chunks h
  | increment _ _ _ h => exact incrementStatement_of_chunks h
  | delete _ h => exact deleteStatement_of_chunks h
  | updateFirst _ _ _ _ _ h => exact updateStatement_of_chunks h
  | insertThen _ _ _ _ _ _ h => exact hinsert h

end Descriptor

/-! ## What writes take over verbatim -/

/-- The text that a value is, if it is one. -/
def Value.textChunk? : Value → Option Chunk
  | .text s => some (.text s)
  | _ => none

/-- The text that a value is read as, if it can be read as one. -/
def Value.readChunk? (v : Value) : Option Chunk :=
  match Checked.text v with
  | .accepted s => some (.text s)
  | .rejected _ => none

/-- The text that a value is displayed as. -/
def Value.shownChunk (v : Value) : Chunk := .text v.display

/-- The entries of a mapping; anything else has none. -/
def Value.entries : Value → Fields
  | .map fs => fs
  | _ => []

/-- The columns that a queued write names, as they get into its statements: an INSERT joins texts,
an UPDATE displays what it sets, and attributes are read as the columns of predicates. -/
def WriteKind.verbatim (kind : WriteKind) (data : Value) : List Chunk :=
  match kind with
  | .insert =>
    match data.listed.subscript (.int 0) with
    | .ok first => first.entries.keys.filterMap Value.textChunk?
    | .error _ => []
  | .update => data.entries.keys.map Value.shownChunk
  | .delete => []
  | .increment | .decrement =>
    match data.subscript "column" with
    | .ok column => [column.shownChunk]
    | .error _ => []
  | .updateOrInsert =>
    match data.subscript "attributes", data.subscript "values" with
    | .ok attributes, .ok values =>
      attributes.entries.keys.filterMap Value.readChunk? ++
        (values.orElse attributes).entries.keys.map Value.shownChunk
    | _, _ => []

/-- The columns that the queued write of a query names. -/
def Descriptor.pendingVerbatim (d : Descriptor) : List Chunk :=
  match d.pending with
  | some action =>
    match WriteKind.ofKeyword? action.kind with
    | some kind => kind.verbatim action.data
    | none => []
  | none => []

/-- The spelling of a kind of write is read as the kind. -/
@[simp] theorem WriteKind.ofKeyword?_keyword (kind : WriteKind) :
    WriteKind.ofKeyword? kind.keyword = some kind := by
  cases kind <;> rfl

/-- The columns that a queued write names. -/
theorem Descriptor.Queues.pendingVerbatim {d : Descriptor} {kind : WriteKind} {data : Value}
    (h : d.Queues kind data) : d.pendingVerbatim = kind.verbatim data := by
  rw [Descriptor.pendingVerbatim, h]
  simp

/-! ## The chunks of statements have what verbatim texts have -/

/-- The keys of a mapping with a value put under a key. -/
theorem Fields.mem_keys_set {fs : Fields} {key v k : Value} (h : k ∈ (fs.set key v).keys) :
    k ∈ fs.keys ∨ k = key := by
  induction fs with
  | nil => exact .inr (by simpa [Fields.set, Fields.keys] using h)
  | cons entry rest ih =>
    rw [Fields.set] at h
    split at h
    · exact .inl h
    · rcases List.mem_cons.mp h with rfl | h
      · exact .inl List.mem_cons_self
      · exact (ih h).imp_left (List.mem_cons_of_mem _)

/-- The keys of a mapping that takes in another are those of both. -/
theorem Fields.mem_keys_merge {fs others : Fields} {k : Value} (h : k ∈ (fs.merge others).keys) :
    k ∈ fs.keys ∨ k ∈ others.keys := by
  induction others generalizing fs with
  | nil => exact .inl h
  | cons entry rest ih =>
    rcases ih h with h | h
    · exact (Fields.mem_keys_set h).imp_right fun hk => List.mem_cons.mpr (.inl hk)
    · exact .inr (List.mem_cons_of_mem _ h)

section Have

variable {P : String → Prop} {V : String → List Value → Prop}

theorem Chunk.allHave_filterMap_textChunk? {xs : List Value} :
    AllHave P V (xs.filterMap Value.textChunk?) ↔ ∀ s : String, .text s ∈ xs → P s := by
  constructor
  · intro h s hs
    exact h (.text s) (List.mem_filterMap.mpr ⟨_, hs, rfl⟩)
  · intro h c hc
    obtain ⟨v, hv, hchunk⟩ := List.mem_filterMap.mp hc
    cases v <;> cases hchunk
    exact h _ hv

theorem Chunk.allHave_filterMap_readChunk? {xs : List Value} :
    AllHave P V (xs.filterMap Value.readChunk?) ↔
      ∀ v ∈ xs, ∀ s, Checked.text v = .accepted s → P s := by
  constructor
  · intro h v hv s hs
    refine h (.text s) (List.mem_filterMap.mpr ⟨v, hv, ?_⟩)
    rw [Value.readChunk?, hs]
  · intro h c hc
    obtain ⟨v, hv, hchunk⟩ := List.mem_filterMap.mp hc
    rw [Value.readChunk?] at hchunk
    split at hchunk
    · next s hs =>
      cases hchunk
      exact h v hv s hs
    · cases hchunk

theorem Chunk.allHave_map_shownChunk {xs : List Value} :
    AllHave P V (xs.map Value.shownChunk) ↔ ∀ v ∈ xs, P v.display := by
  simp [AllHave, Value.shownChunk]

/-- The predicates of attributes have what the attributes have as columns. -/
theorem Act.allHave_attributePredicates {attributes : Fields} {ps : List Predicate}
    (h : attributePredicates attributes = .ok ps)
    (hkeys : Chunk.AllHave P V (attributes.keys.filterMap Value.readChunk?)) :
    Chunk.AllHave P V (predicatesVerbatim ps) := by
  rw [Chunk.allHave_filterMap_readChunk?] at hkeys
  induction attributes generalizing ps with
  | nil =>
    cases h
    simp [predicatesVerbatim]
  | cons entry attributes ih =>
    simp only [attributePredicates, List.mapM_cons, bind_eq_ok, pure_eq_ok,
      Except.ok.injEq] at h
    obtain ⟨p, hp, rest, hrest, rfl⟩ := h
    have hrecord := Checked.eq_accepted_of_closed hp
    simp only [Checked.seq_eq_accepted, Checked.map_eq_accepted,
      Checked.required_eq_accepted] at hrecord
    obtain ⟨_, _, ⟨_, _, ⟨_, _, ⟨column, ⟨v, hv, hcolumn⟩, rfl⟩, -, rfl⟩, -, rfl⟩, -, rfl⟩ :=
      hrecord
    obtain rfl : entry.1 = v := Option.some.inj hv
    rw [predicatesVerbatim, Chunk.allHave_append]
    refine ⟨?_, ih hrest fun w hw => hkeys w (List.mem_cons_of_mem _ hw)⟩
    simpa [Predicate.verbatim] using hkeys _ List.mem_cons_self column hcolumn

variable (hP : IsTextual P)

include hP

/-- The groups of an INSERT have brackets around the values, and nothing else. -/
theorem allHave_groupChunks {columns : List Value} :
    ∀ {rows : List Value} {groups : List (List Chunk)}, groupChunks columns rows = .ok groups →
      ∀ p ∈ groups, Chunk.AllHave P V p
  | [], groups, h => by
    cases h
    simp
  | row :: rows, groups, h => by
    simp only [groupChunks, bind_eq_ok, pure_eq_ok, Except.ok.injEq] at h
    obtain ⟨fields, -, rest, hrest, rfl⟩ := h
    have ih := allHave_groupChunks hrest
    have hopen : P "(" := hP.plain (by decide)
    have hclose : P ")" := hP.plain (by decide)
    intro p hp
    rcases List.mem_cons.mp hp with rfl | hp
    · simp [hopen, hclose, Chunk.allHave_values hP]
    · exact ih p hp

/-- The chunks of an INSERT have what its table and the columns of its first row have. -/
theorem allHave_insertChunks {table : String} {rows : Value} {cs : List Chunk}
    (h : insertChunks table rows = .ok cs) (ht : P table)
    (hkeys : Chunk.AllHave P V (WriteKind.insert.verbatim rows)) : Chunk.AllHave P V cs := by
  rw [insertChunks] at h
  split at h
  · obtain ⟨first, hfirst, h⟩ := bind_eq_ok.mp h
    split at h
    · simp only [namingChunks, bind_eq_ok, pure_eq_ok, Except.ok.injEq] at h
      obtain ⟨fields, hfields, items, -, groups, hgroups, names, hnames, rfl⟩ := h
      obtain rfl : first = .map fields := by
        cases first <;> cases hfields
        rfl
      rw [WriteKind.verbatim, hfirst] at hkeys
      obtain ⟨ss, hss, rfl⟩ := Value.joined_eq_ok.mp hnames
      have hcolumns : P (", ".intercalate ss) := by
        refine hP.intercalate (by decide) fun s hs => ?_
        refine Chunk.allHave_filterMap_textChunk?.mp hkeys s ?_
        have hfields : fields.keys = ss.map .text := Except.ok.inj hss
        rw [Value.entries, hfields]
        exact List.mem_map_of_mem hs
      rw [Chunk.allHave_cons, Chunk.has_text]
      refine ⟨?_, Chunk.AllHave.separated (hP.plain (by decide)) (allHave_groupChunks hP hgroups)⟩
      refine hP.append (hP.append (hP.append ?_ (hP.plain (by decide))) hcolumns)
        (hP.plain (by decide))
      exact hP.append (hP.plain (by decide)) ht
    · cases h
  · cases h

namespace Descriptor

variable {d : Descriptor} {cs : List Chunk}

/-- The chunks of a write that ends in a predicate have what its head and its predicates have. -/
theorem allHave_restrictedChunks {head : List Chunk} (h : d.restrictedChunks head = .ok cs)
    (hhead : Chunk.AllHave P V head) (hw : Chunk.AllHave P V (predicatesVerbatim d.wheres)) :
    Chunk.AllHave P V cs := by
  rw [restrictedChunks, map_eq_ok] at h
  obtain ⟨predicate, hpredicate, rfl⟩ := h
  have hpredicates := allHave_predicateChunks hP hpredicate hw
  have hwhere : P " WHERE " := hP.plain (by decide)
  rw [Chunk.allHave_append]
  refine ⟨hhead, ?_⟩
  split
  · exact hpredicates
  · simp [hwhere, hpredicates]

/-- The chunks of an UPDATE have what its table, its columns and its predicates have. -/
theorem allHave_updateChunks {values : Value} (h : d.updateChunks values = .ok cs) (ht : P d.table)
    (hkeys : Chunk.AllHave P V (values.entries.keys.map Value.shownChunk))
    (hw : Chunk.AllHave P V (predicatesVerbatim d.wheres)) : Chunk.AllHave P V cs := by
  rw [updateChunks] at h
  split at h
  · obtain ⟨fields, hfields, h⟩ := bind_eq_ok.mp h
    obtain rfl : values = .map fields := by
      cases values <;> cases hfields
      rfl
    rw [Chunk.allHave_map_shownChunk] at hkeys
    refine allHave_restrictedChunks hP h ?_ hw
    rw [Chunk.allHave_cons, Chunk.has_text]
    refine ⟨hP.within (by decide) ht (by decide), ?_⟩
    refine Chunk.AllHave.separated (hP.plain (by decide)) fun p hp => ?_
    obtain ⟨entry, hentry, rfl⟩ := List.mem_map.mp hp
    have hcolumn := hkeys entry.1 (List.mem_map_of_mem hentry)
    simpa using hP.append hcolumn (hP.plain (by decide))
  · cases h

/-- The chunks of a statement that is compiled from a query have what the verbatim texts of the
query and the columns of its queued write have.

**Proof sketch.** By what is compiled. Every chunk is a verbatim text, a column, a table or a text
of the compiler with these in it, and the property is one that such texts inherit. An
update-or-insert compiles to an UPDATE or an INSERT, whose columns are those of its two mappings. -/
theorem Compiles.allHave {s : Statement} {chunks : Except Error (List Chunk)}
    (h : d.Compiles s chunks) (hc : chunks = .ok cs) (hd : Chunk.AllHave P V d.verbatim)
    (hp : Chunk.AllHave P V d.pendingVerbatim) : Chunk.AllHave P V cs := by
  obtain ⟨hown, hw, -⟩ := allHave_verbatim_iff.mp hd
  have ht := hown.table
  cases h with
  | select => exact allHave_chunks hP hc hd
  | insert hqueue =>
    rw [hqueue.pendingVerbatim] at hp
    exact allHave_insertChunks hP hc ht hp
  | update hqueue =>
    rw [hqueue.pendingVerbatim] at hp
    exact allHave_updateChunks hP hc ht hp hw
  | @increment decrement data column amount w hqueue hcolumn hamount =>
    have hname : P column.display := by
      rw [hqueue.pendingVerbatim] at hp
      cases decrement <;> simpa [WriteKind.verbatim, hcolumn, Value.shownChunk] using hp
    refine allHave_restrictedChunks hP hc ?_ hw
    have hsign : P (if decrement then " - " else " + ") := by
      cases decrement <;> exact hP.plain (by decide)
    have hhead : P ("UPDATE " ++ d.table ++ " SET ") := hP.within (by decide) ht (by decide)
    have hset : P (column.display ++ " = " ++ column.display) :=
      hP.append (hP.append hname (hP.plain (by decide))) hname
    simpa [String.append_assoc] using hP.append (hP.append hhead hset) hsign
  | delete hqueue =>
    refine allHave_restrictedChunks hP hc ?_ hw
    simpa using hP.append (hP.plain (by decide)) ht
  | @updateFirst data attributes values wanted wheres w hqueue hattributes hvalues hwanted
      hwheres =>
    rw [hqueue.pendingVerbatim, WriteKind.verbatim, hattributes, hvalues,
      Chunk.allHave_append] at hp
    obtain rfl : attributes = .map wanted := by
      cases attributes <;> cases hwanted
      rfl
    exact allHave_updateChunks hP hc ht hp.2 (Act.allHave_attributePredicates hwheres hp.1)
  | @insertThen data attributes values wanted row wheres w hqueue hattributes hvalues _ _ hrow =>
    rw [hqueue.pendingVerbatim, WriteKind.verbatim, hattributes, hvalues, Chunk.allHave_append,
      Chunk.allHave_filterMap_readChunk?, Chunk.allHave_map_shownChunk] at hp
    refine allHave_insertChunks hP hc ht (Chunk.allHave_filterMap_textChunk?.mpr fun s hs => ?_)
    -- A column of the row is one of the attributes, or else a value that is set.
    obtain ⟨found, set, rfl, rfl, rfl⟩ : ∃ found set : Fields, attributes = .map found ∧
        values = .map set ∧ row = found.merge set := by
      cases attributes <;> cases values <;> cases hrow
      exact ⟨_, _, rfl, rfl, rfl⟩
    rcases Fields.mem_keys_merge hs with hs | hs
    · exact hp.1 _ hs s rfl
    · have htruthy : (Value.map set).truthy = true := by
        cases set with
        | nil => cases hs
        | cons => rfl
      rw [Value.orElse, if_pos htruthy] at hp
      exact hp.2 _ hs

end Descriptor

end Have

end FluentSql
