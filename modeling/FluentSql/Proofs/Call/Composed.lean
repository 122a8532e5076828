import FluentSql.Proofs.Call.Edits

set_option autoImplicit false

/-!
# Composed queries

Every call takes over some of its arguments verbatim: as they are, as they are displayed, or within
a fragment of a dialect. A query that is composed by calls which take over sound texts is sound, and
whatever is compiled from it is translated for every driver.

## Main definitions

* `FluentSql.Method.verbatim` — the texts that a call takes over.
* `FluentSql.Descriptor.Composed` — the queries that are composed by calls with sound texts.

## Main results

* `FluentSql.Method.sound_perform` — a call keeps a query sound.
* `FluentSql.Descriptor.Composed.translates` — the statements of a composed query as a driver reads
  them.
-/

namespace FluentSql

/-! ## The texts that calls take over -/

namespace Arguments

/-- The text that an argument is read as. -/
def reads (args : Arguments) (name : String) : List Chunk := taken (args.value name) Value.read

/-- The text that an argument is displayed as. -/
def shows (args : Arguments) (name : String) : List Chunk :=
  taken (args.value name) fun v => [v.shownChunk]

end Arguments

/-- The texts among one value or several. -/
def joinedTexts (v : Value) : List Chunk :=
  taken v.oneOrMany fun items => items.filterMap Value.textChunk?

/-- The texts that one value or several are displayed as. -/
def shownTexts (v : Value) : List Chunk := taken v.oneOrMany fun items => items.map Value.shownChunk

/-- The texts that a call takes over verbatim, verbatim SQL with the values it brings. The query
that it is handed is no text; a short form takes over what the call does that it stands for. -/
def Method.verbatim (args : Arguments) : Method → List Chunk
  -- the select list
  | .select => shownTexts (args.valueOr "columns" (.tuple [.text "*"]))
  | .selectRaw => args.reads "sql"
  | .aggregatesSelect =>
    taken (args.value "columns") fun columns =>
      columns.iterated.1.map fun v => .text (selectItemText v)
  | .selectExpression =>
    taken (args.value "expression") fun expression =>
      expressionTexts expression (args.valueOr "alias" .null)
  | .selectRowNumber =>
    taken (args.value "order_by") fun order =>
      joinedTexts order ++ joinedTexts (args.valueOr "partition_by" .null) ++
        [(args.valueOr "alias" (.text "row_num")).shownChunk]
  -- the table
  | .setAlias => args.shows "name"
  -- predicates
  | .where_ | .orWhere | .whereIf | .whereIn | .whereNotIn | .whereNull | .orWhereNull
  | .whereNotNull | .orWhereNotNull | .whereBetween | .whereNotBetween | .whereLike | .orWhereLike
  | .whereContains | .whereStartsWith | .whereEndsWith | .having_ | .havingIf =>
    args.reads "column"
  | .whereAll => taken (args.value "conditions" >>= Value.fields "items") equalityTexts
  | .whereColumn => args.reads "first" ++ args.reads "second"
  | .whereRaw | .havingRaw =>
    taken (args.value "sql") fun sql => rawTexts sql (args.valueOr "bindings" .null)
  | .whereRawSearch =>
    taken (args.value "term") fun term => searchTexts term (args.value "columns" >>= Value.items)
  | .whereFullText =>
    taken (args.value "term") fun term =>
      searchTexts term (args.value "columns" >>= Value.oneOrMany)
  | .whereIlike | .whereContainsCi | .whereStartsWithCi | .whereEndsWithCi | .whereJsonContains
  | .range | .period => args.shows "column"
  -- order
  | .orderBy => args.reads "column"
  | .orderByMany => taken (args.value "orders" >>= Value.items) sortTexts
  -- joins
  | .innerJoin | .leftJoin | .rightJoin => args.reads "table" ++ args.reads "on"
  | .innerJoinOn | .leftJoinOn | .rightJoinOn =>
    args.reads "table" ++ args.shows "left" ++ args.shows "right"
  -- groups and aggregates
  | .groupBy => taken (args.value "columns") shownTexts
  | .count => aggregateTexts (args.valueOr "column" (.text "*")) (args.valueOr "alias" .null)
  | .sum | .avg | .min | .max =>
    taken (args.value "column") fun column => aggregateTexts column (args.valueOr "alias" .null)
  -- writes
  | .insert => taken (args.value "rows" >>= Edit.insertRows) fun rows =>
    WriteKind.insert.verbatim (.list rows)
  | .update => taken (args.value "values" >>= Value.toFields) fun values =>
    WriteKind.update.verbatim (.map values)
  | .increment | .decrement => args.shows "column"
  | .updateOrInsert =>
    taken (args.value "attributes" >>= Value.toFields) fun attributes =>
      taken ((args.valueOr "values" .null).orElse (.map [])).toFields fun values =>
        WriteKind.updateOrInsert.verbatim
          (.map [("attributes", .map attributes), ("values", .map values)])
  -- nothing is a text, or nothing is added
  | .distinct | .bank | .whereExists | .whereNotExists | .union_ | .unionAll | .limit | .offset
  | .paginate | .delete | .selectCount | .selectSum | .selectAvg | .selectMin | .selectMax
  | .selectCaseSum | .orWhereIn | .orWhereNotIn | .whereSearch | .groupByOne | .when_ | .unless_ =>
    []

/-! ## Calls keep queries sound -/

/-- What is joined of one value or of several are the texts among them. -/
theorem marked_of_joinedTexts {v : Value} (h : Chunk.AllSound (joinedTexts v)) {single : Value}
    (hsingle : single.items = v.oneOrMany) :
    ∀ xs, single.items = .ok xs → ∀ t : String, .text t ∈ xs → Marked t 0 := by
  intro xs hxs
  have htexts := Chunk.allHave_taken h (hsingle.symm.trans hxs)
  exact Chunk.allHave_filterMap_textChunk?.mp htexts

section Sound

open Edit

variable {ctx : Context} {args : Arguments} {m : Method}

/-- A call for the select list takes over the items that it is given, as far as it is given any. -/
theorem Method.sound_columns (hm : m.family = .columns) (h : Chunk.AllSound (m.verbatim args)) :
    Sound (m.perform ctx args) := by
  cases m with
  | select =>
    refine preserves_reading _ fun items hitems => preserves_modify fun b hb => ?_
    have hcolumns := Chunk.allHave_map_shownChunk.mp (Chunk.allHave_taken h hitems)
    refine hb.withColumns fun v hv => ?_
    obtain ⟨c, hc, rfl⟩ := List.mem_map.mp hv
    exact hcolumns c hc
  | selectRaw =>
    exact preserves_reading _ fun sql hsql => sound_addColumnText (Chunk.allHave_taken h hsql)
  | aggregatesSelect =>
    refine preserves_reading _ fun columns hcolumns => sound_addColumns (fun v hv => ?_) _
    exact Chunk.allHave_taken h hcolumns _ (List.mem_map_of_mem hv)
  | selectExpression =>
    exact preserves_reading _ fun expression hexpression =>
      sound_addExpression (Chunk.allHave_taken h hexpression)
  | selectRowNumber =>
    refine preserves_reading _ fun order horder => preserves_reading _ fun dialect _ =>
      preserves_reading _ fun sql hsql => sound_addColumnText ?_
    obtain ⟨htexts, hlabel⟩ := (Chunk.allHave_append _ _).mp (Chunk.allHave_taken h horder)
    obtain ⟨horders, hparts⟩ := (Chunk.allHave_append _ _).mp htexts
    have hnumber := Dialect.marked_rowNumber hsql
      (marked_of_joinedTexts horders (by cases order <;> rfl))
      (marked_of_joinedTexts hparts (by cases args.valueOr "partition_by" .null <;> rfl))
      (Chunk.allHave_shownChunk.mp hlabel)
    simpa [Chunk.allHave_read, Checked.text] using hnumber
  | _ => cases hm

/-- A call for a predicate with a record of its own takes over the name of a column, or two. -/
theorem Method.sound_comparison (hm : m.family = .comparison)
    (h : Chunk.AllSound (m.verbatim args)) (hquery : ∀ q, ctx.query = some q → q.Sound) :
    Sound (m.perform ctx args) := by
  have hqueryOf : ∀ {field v q}, ctx.queryOf field v = .ok q → q.Sound := fun hq =>
    hquery _ (Context.query_eq_of_queryOf hq)
  cases m with
  | where_ | orWhere =>
    refine preserves_reading _ fun column hcolumn => preserves_reading _ fun _ _ =>
      preserves_reading _ fun _ _ => ?_
    exact sound_compare soundPlace_toWhere (Chunk.allHave_taken h hcolumn) _ _ _
  | having_ =>
    refine preserves_reading _ fun column hcolumn => preserves_reading _ fun _ _ =>
      preserves_reading _ fun _ _ => ?_
    exact sound_compare soundPlace_toHaving (Chunk.allHave_taken h hcolumn) _ _ _
  | whereIf =>
    refine preserves_reading _ fun column hcolumn => preserves_reading _ fun _ _ =>
      preserves_reading _ fun _ _ => preserves_reading _ fun _ _ => ?_
    split
    · exact sound_compare soundPlace_toWhere (Chunk.allHave_taken h hcolumn) _ _ _
    · exact preserves_pure ()
  | havingIf =>
    refine preserves_reading _ fun column hcolumn => preserves_reading _ fun _ _ =>
      preserves_reading _ fun _ _ => preserves_reading _ fun _ _ => ?_
    split
    · exact sound_compare soundPlace_toHaving (Chunk.allHave_taken h hcolumn) _ _ _
    · exact preserves_pure ()
  | whereAll =>
    refine preserves_reading _ fun conditions hconditions => preserves_reading _ fun fs hfs => ?_
    exact sound_addEqualities
      (Chunk.allHave_taken h (bind_eq_ok.mpr ⟨conditions, hconditions, hfs⟩))
  | whereIn | whereNotIn =>
    exact preserves_reading _ fun column hcolumn => preserves_reading _ fun _ _ =>
      sound_addMember (Chunk.allHave_taken h hcolumn) _ _ _
  | whereNull | orWhereNull | whereNotNull | orWhereNotNull =>
    exact preserves_reading _ fun column hcolumn =>
      sound_addNull (Chunk.allHave_taken h hcolumn) _ _
  | whereBetween | whereNotBetween =>
    exact preserves_reading _ fun column hcolumn => preserves_reading _ fun _ _ =>
      sound_addBetween (Chunk.allHave_taken h hcolumn) _ _
  | whereColumn =>
    obtain ⟨hfirst, hsecond⟩ := (Chunk.allHave_append _ _).mp h
    exact preserves_reading _ fun first hf => preserves_reading _ fun _ _ =>
      preserves_reading _ fun second hs =>
        sound_addColumn (Chunk.allHave_taken hfirst hf) (Chunk.allHave_taken hsecond hs) _ _
  | whereExists | whereNotExists =>
    exact preserves_reading _ fun _ _ => preserves_reading _ fun q hq =>
      sound_addExists (hqueryOf hq) _
  | whereLike | orWhereLike | whereContains | whereStartsWith | whereEndsWith =>
    exact preserves_reading _ fun column hcolumn => preserves_reading _ fun _ _ =>
      sound_compare soundPlace_toWhere (Chunk.allHave_taken h hcolumn) _ _ _
  | _ => cases hm

/-- A fragment of a dialect for a pattern is sound if the column is displayed as a sound text. -/
theorem Method.sound_ilike {column : Value} (hcolumn : args.value "column" = .ok column)
    (h : Chunk.AllSound (args.shows "column")) (pattern : Value) :
    Sound (perform.ilike ctx column pattern) := by
  have hshown := Chunk.allHave_shownChunk.mp (Chunk.allHave_taken h hcolumn)
  exact preserves_reading _ fun dialect _ =>
    sound_addFragment (Dialect.sound_caseInsensitiveLike hshown pattern)

/-- A call for verbatim SQL takes it over, or brings a fragment around the columns that it is
given. -/
theorem Method.sound_fragment (hm : m.family = .fragment) (h : Chunk.AllSound (m.verbatim args)) :
    Sound (m.perform ctx args) := by
  cases m with
  | whereRaw =>
    exact preserves_reading _ fun sql hsql =>
      sound_addRaw soundPlace_toWhere (Chunk.allHave_taken h hsql) _
  | havingRaw =>
    exact preserves_reading _ fun sql hsql =>
      sound_addRaw soundPlace_toHaving (Chunk.allHave_taken h hsql) _
  | whereRawSearch =>
    refine preserves_reading _ fun term hterm => preserves_reading _ fun columns hcolumns => ?_
    have htexts := Chunk.allHave_taken h hterm
    rw [hcolumns] at htexts
    exact sound_addSearch htexts
  | whereIlike | whereContainsCi | whereStartsWithCi | whereEndsWithCi =>
    exact preserves_reading _ fun column hcolumn => preserves_reading _ fun _ _ =>
      sound_ilike hcolumn h _
  | whereJsonContains =>
    refine preserves_reading _ fun column hcolumn => preserves_reading _ fun _ _ =>
      preserves_reading _ fun dialect _ => preserves_reading _ fun s hs => ?_
    have hshown := Chunk.allHave_shownChunk.mp (Chunk.allHave_taken h hcolumn)
    exact sound_addFragment (Dialect.sound_jsonContains hshown hs)
  | whereFullText =>
    refine preserves_reading _ fun columns hcolumns => preserves_reading _ fun term hterm => ?_
    have htexts := Chunk.allHave_taken h hterm
    split
    · next htruthy =>
      refine preserves_reading _ fun items hitems => preserves_reading _ fun dialect _ =>
        preserves_reading _ fun s hs => sound_addFragment ?_
      rw [searchTexts, if_pos htruthy] at htexts
      have hshown := Chunk.allHave_map_shownChunk.mp
        (Chunk.allHave_taken htexts (bind_eq_ok.mpr ⟨columns, hcolumns, hitems⟩))
      exact Dialect.sound_fullText hshown hs
    · exact preserves_pure ()
  | range =>
    refine preserves_reading _ fun column hcolumn => ?_
    have hshown := Chunk.allHave_shownChunk.mp (Chunk.allHave_taken h hcolumn)
    exact preserves_bind (sound_addMoment hshown (by decide) _) fun _ =>
      sound_addMoment hshown (by decide) _
  | period =>
    refine preserves_reading _ fun column hcolumn => ?_
    have hshown := Chunk.allHave_shownChunk.mp (Chunk.allHave_taken h hcolumn)
    dsimp only
    split
    · refine preserves_reading _ fun _ _ => preserves_reading _ fun _ _ =>
        preserves_reading _ fun _ _ => ?_
      exact sound_addMoment hshown (by decide) _
    · exact preserves_pure ()
  | _ => cases hm

/-- A join on two columns is sound if its table and the two are. -/
theorem Method.sound_joinOn
    (h : Chunk.AllSound (args.reads "table" ++ args.shows "left" ++ args.shows "right"))
    (kind : JoinKind) : Sound (perform.joinOn args kind) := by
  obtain ⟨h, hright⟩ := (Chunk.allHave_append _ _).mp h
  obtain ⟨htable, hleft⟩ := (Chunk.allHave_append _ _).mp h
  refine preserves_reading _ fun table ht => preserves_reading _ fun left hl =>
    preserves_reading _ fun right hr => ?_
  refine sound_addJoin (Chunk.allHave_taken htable ht) ?_ kind
  have hleft := Chunk.allHave_shownChunk.mp (Chunk.allHave_taken hleft hl)
  have hright := Chunk.allHave_shownChunk.mp (Chunk.allHave_taken hright hr)
  have hboth : Marked (left.display ++ " = " ++ right.display) 0 :=
    (hleft.append (by decide : Marked " = " 0)).append hright
  simpa [Chunk.allHave_read, Checked.text] using hboth

/-- A call for a join, a sort key, a page, groups, a part of a union, or something that is said of
the query as a whole. -/
theorem Method.sound_layout (hm : m.family = .layout) (h : Chunk.AllSound (m.verbatim args))
    (hquery : ∀ q, ctx.query = some q → q.Sound) : Sound (m.perform ctx args) := by
  have hqueryOf : ∀ {field v q}, ctx.queryOf field v = .ok q → q.Sound := fun hq =>
    hquery _ (Context.query_eq_of_queryOf hq)
  cases m with
  | setAlias =>
    refine preserves_reading _ fun name hname => sound_edit fun d hd => ?_
    have hshown := Chunk.allHave_shownChunk.mp (Chunk.allHave_taken h hname)
    exact { hd with own := { hd.own with tableAlias := hshown } }
  | bank =>
    exact preserves_reading _ fun _ _ => preserves_reading _ fun _ _ => sound_edit fun _ hd =>
      { hd with own := { hd.own with } }
  | distinct => exact sound_edit fun _ hd => { hd with own := { hd.own with } }
  | union_ | unionAll =>
    exact preserves_reading _ fun _ _ => preserves_reading _ fun q hq =>
      sound_addUnion (hqueryOf hq) _
  | orderBy =>
    exact preserves_reading _ fun column hcolumn =>
      sound_addSortKey (Chunk.allHave_taken h hcolumn) _
  | orderByMany =>
    exact preserves_reading _ fun orders horders => preserves_reading _ fun items hitems =>
      sound_addSortKeys (Chunk.allHave_taken h (bind_eq_ok.mpr ⟨orders, horders, hitems⟩))
  | limit | offset =>
    exact preserves_reading _ fun _ _ => sound_edit fun _ hd =>
      { hd with own := { hd.own with } }
  | paginate => exact sound_setPage _ _
  | innerJoin | leftJoin | rightJoin =>
    obtain ⟨htable, hon⟩ := (Chunk.allHave_append _ _).mp h
    exact preserves_reading _ fun table ht => preserves_reading _ fun condition hc =>
      sound_addJoin (Chunk.allHave_taken htable ht) (Chunk.allHave_taken hon hc) _
  | innerJoinOn => exact sound_joinOn h _
  | leftJoinOn => exact sound_joinOn h _
  | rightJoinOn => exact sound_joinOn h _
  | groupBy =>
    refine preserves_reading _ fun columns hcolumns => preserves_reading _ fun items hitems => ?_
    have hshown := Chunk.allHave_map_shownChunk.mp
      (Chunk.allHave_taken (Chunk.allHave_taken h hcolumns) hitems)
    refine sound_edit fun d hd => { hd with own := { hd.own with groups := fun g hg => ?_ } }
    obtain ⟨c, hc, rfl⟩ := List.mem_map.mp hg
    exact hshown c hc
  | _ => cases hm

/-- A call for an aggregate takes over its column and its name. -/
theorem Method.sound_aggregate (hm : m.family = .aggregate) (h : Chunk.AllSound (m.verbatim args)) :
    Sound (m.perform ctx args) := by
  cases m with
  | count => exact sound_addAggregate h _
  | sum | avg | min | max =>
    exact preserves_reading _ fun column hcolumn =>
      sound_addAggregate (Chunk.allHave_taken h hcolumn) _
  | _ => cases hm

/-- A call that queues a write takes over the columns that it writes. -/
theorem Method.sound_write (hm : m.family = .write) (h : Chunk.AllSound (m.verbatim args)) :
    Sound (m.perform ctx args) := by
  cases m with
  | insert =>
    exact preserves_reading _ fun rows hrows => preserves_reading _ fun items hitems =>
      sound_queue (Chunk.allHave_taken h (bind_eq_ok.mpr ⟨rows, hrows, hitems⟩))
  | update =>
    exact preserves_reading _ fun values hvalues => preserves_reading _ fun fs hfs =>
      sound_queue (Chunk.allHave_taken h (bind_eq_ok.mpr ⟨values, hvalues, hfs⟩))
  | delete => exact sound_queue (by simp [WriteKind.verbatim])
  | increment | decrement =>
    refine preserves_reading _ fun data hdata => sound_queue ?_
    obtain ⟨column, hcolumn, hdata⟩ := bind_eq_ok.mp hdata
    cases hdata
    exact Chunk.allHave_taken h hcolumn
  | updateOrInsert =>
    refine preserves_reading _ fun given hgiven => preserves_reading _ fun attributes hattributes =>
      preserves_reading _ fun values hvalues => sound_queue ?_
    have htexts := Chunk.allHave_taken h (bind_eq_ok.mpr ⟨given, hgiven, hattributes⟩)
    exact Chunk.allHave_taken htexts hvalues
  | _ => cases hm

/-- A call that takes over sound texts keeps a query sound, whether it fails or not, if the query
that it was handed is sound.

**Proof sketch.** Family by family: a call reads its arguments, and the texts that it takes over of
them are among those that are sound by hypothesis. It puts them into one record, or into a fragment
of a dialect, around which there is nothing but the dialect's own sound text. -/
theorem Method.sound_perform (h : Chunk.AllSound (m.verbatim args))
    (hquery : ∀ q, ctx.query = some q → q.Sound) : Sound (m.perform ctx args) := by
  cases hm : m.family with
  | columns => exact sound_columns hm h
  | comparison => exact sound_comparison hm h hquery
  | fragment => exact sound_fragment hm h
  | layout => exact sound_layout hm h hquery
  | aggregate => exact sound_aggregate hm h
  | write => exact sound_write hm h
  | indirect => exact preserves_of_indirect hm ctx args

end Sound

/-! ## Queries that are composed by calls -/

namespace Descriptor

/-- The queries that are composed by calls which take over sound texts. A call is carried out on a
builder that has the query so far, in any surroundings, whether it fails or not; a query that it is
handed is composed in the same way. -/
inductive Composed : Descriptor → Prop
  | new {table : String} (h : Marked table 0) : Composed (.new table)
  | call {b : Builder} {ctx : Context} {m meant : Method} {args given : Arguments}
      (hb : Composed b.descriptor) (hquery : ∀ q, ctx.query = some q → Composed q)
      (hmeant : m.expand args = .ok (meant, given))
      (htexts : Chunk.AllSound (meant.verbatim given)) :
      Composed ((meant.perform ctx given).run b).2.descriptor

/-- A composed query is sound. -/
theorem Composed.sound {d : Descriptor} (h : d.Composed) : d.Sound := by
  induction h with
  | new h => exact sound_new h
  | @call b ctx m meant args given _ _ _ htexts hb hquery =>
    exact Method.sound_perform htexts hquery b hb

/-- Whatever is compiled from a composed query is made up of chunks that are translated for every
driver: its SELECT, its INSERT, its UPDATE, its increment and its DELETE. There is exactly one
marker for every bound value, the `k`-th in the place where the `k`-th value was written, and the
text for the driver is what is written for these tokens. The driver reads just these markers: in the
numbered style under the condition that, outside of literals, no colon and no placeholder stands
directly before a digit, and in the other styles always.

**Proof sketch.** By induction over the calls the query is sound. What is written between the texts
that it took over is plain, so the chunks of the statement are sound as well; and sound chunks are
scanned for placeholders one by one. -/
theorem Composed.translates {d : Descriptor} (hd : d.Composed) (paramstyle : String)
    {s : Statement} {chunks : Except Error (List Chunk)} (h : d.Compiles s chunks) :
    ∃ cs, chunks = .ok cs ∧ s = .ofChunks cs ∧
      Chunk.Translates (PlaceholderStyle.ofName paramstyle) cs := by
  obtain ⟨cs, hcs, hs⟩ := h.exists_chunks
  have hsound : Chunk.AllSound cs :=
    h.allHave isTextual_marked hcs hd.sound.verbatim hd.sound.pending
  exact ⟨cs, hcs, hs, hsound.translated _⟩

/-- A full-text search in surroundings of a dialect that writes a literal for it. -/
def searchQuery : Descriptor :=
  ((Method.whereFullText.perform { clock := default, dialect := .ok .postgres, query := none }
    [("columns", .list ["a", "b"]), ("term", "x")]).run (Builder.new "t" {})).2.descriptor

/-- The placeholder of a search stands behind a literal, and is the first marker. -/
theorem Composed.translates_searchQuery :
    searchQuery.Composed ∧ ∃ s cs, searchQuery.Compiles s searchQuery.chunks ∧
      searchQuery.chunks = .ok cs ∧ s = .ofChunks cs ∧ s.bindings = [.text "x"] ∧
      Chunk.Translates (PlaceholderStyle.ofName "named") cs ∧
      (PlaceholderStyle.ofName "named").translate s.sql =
        "SELECT * FROM t WHERE to_tsvector(concat_ws(' ', a, b)) @@ plainto_tsquery(:1)" := by
  have hcomposed : searchQuery.Composed := by
    refine .call (m := .whereFullText) (.new (by decide)) (fun q hq => nomatch hq) rfl ?_
    exact Chunk.allHave_map_shownChunk.mpr (by decide)
  have hselect : searchQuery.Compiles
      { sql := "SELECT * FROM t WHERE to_tsvector(concat_ws(' ', a, b)) @@ plainto_tsquery(?)"
        bindings := [.text "x"] } searchQuery.chunks := .select (by rfl)
  obtain ⟨cs, hcs, hs, htranslates⟩ := hcomposed.translates "named" hselect
  exact ⟨hcomposed, _, cs, hselect, hcs, hs, rfl, htranslates, by decide +kernel⟩

/-- An item of a select list that is a slice, and a comparison. -/
def slicedQuery : Descriptor :=
  ((Method.where_.perform { clock := default, dialect := .ok .postgres, query := none }
    [("column", "a"), ("operator", "="), ("value", .int 1)]).run
      ((Method.selectRaw.perform { clock := default, dialect := .ok .postgres, query := none }
        [("sql", "tags[1:2]")]).run (Builder.new "t" {})).2).2.descriptor

/-- A colon before a digit is read as a marker in the numbered style, though no text that the query
takes over has a quote or a question mark: the driver reads two markers for one value. -/
theorem Composed.misread_slicedQuery :
    slicedQuery.Composed ∧ (∀ c ∈ slicedQuery.verbatim, Plain c.sql) ∧
      slicedQuery.select = .ok
        { sql := "SELECT *, tags[1:2] FROM t WHERE a = ?", bindings := [.int 1] } ∧
      markers ((PlaceholderStyle.ofName "numeric").read
        ((PlaceholderStyle.ofName "numeric").translate
          "SELECT *, tags[1:2] FROM t WHERE a = ?")) = [2, 1] := by
  refine ⟨?_, by decide, rfl, by decide +kernel⟩
  refine .call (m := .where_) (.call (m := .selectRaw) (.new (by decide)) (fun q hq => nomatch hq)
    rfl ?_) (fun q hq => nomatch hq) rfl ?_
  · exact .of_plain (Chunk.allHave_text.mpr (by decide : Plain "tags[1:2]"))
  · exact .of_plain (Chunk.allHave_text.mpr (by decide : Plain "a"))

end Descriptor

end FluentSql
