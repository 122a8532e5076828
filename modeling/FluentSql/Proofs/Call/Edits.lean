import FluentSql.Proofs.Call.Preserving
import FluentSql.Proofs.Statement.Fragments

set_option autoImplicit false

/-!
# Edits of sound queries

A query is sound if what it takes over verbatim closes its literals and has, outside of them, a
placeholder for every value that it brings. Every edit adds to a query texts that it was given, as
they are or within a fragment of a dialect, so it keeps a query sound if these texts are. An edit
that fails has added some of them, or none.

## Main definitions

* `FluentSql.Descriptor.Sound` — a query takes over sound texts.
* `FluentSql.Value.read`, `FluentSql.rawTexts`, `FluentSql.expressionTexts`, … — the texts that an
  edit takes over.

## Main results

* `FluentSql.Edit.sound_compare`, `FluentSql.Edit.sound_addRaw`, … — what every edit keeps.
-/

namespace FluentSql

/-! ## Sound queries -/

/-- What a query takes over verbatim closes its literals and has, outside of them, a placeholder for
every value that it brings; so does what its queued write takes over. -/
structure Descriptor.Sound (d : Descriptor) : Prop where
  own : d.OwnHave (Marked · 0)
  wheres : Chunk.AllSound (predicatesVerbatim d.wheres)
  havings : Chunk.AllSound (predicatesVerbatim d.havings)
  unions : Chunk.AllSound (unionsVerbatim d.unions)
  pending : Chunk.AllSound d.pendingVerbatim

/-- The verbatim texts of a sound query are sound. -/
theorem Descriptor.Sound.verbatim {d : Descriptor} (h : d.Sound) : Chunk.AllSound d.verbatim :=
  Descriptor.allHave_verbatim_iff.mpr ⟨h.own, h.wheres, h.havings, h.unions⟩

/-- A query to which nothing was added is as sound as the name of its table. -/
theorem Descriptor.sound_new {table : String} (h : Marked table 0) :
    (Descriptor.new table).Sound where
  own := by
    refine ⟨h, (by decide : Marked "None" 0), fun v hv => ?_, ?_, ?_, ?_, ?_⟩
    · obtain rfl : v = .text "*" := by simpa [Descriptor.new] using hv
      exact (by decide : Marked "*" 0)
    all_goals simp [Descriptor.new]
  wheres := by simp [Descriptor.new, predicatesVerbatim]
  havings := by simp [Descriptor.new, predicatesVerbatim]
  unions := by simp [Descriptor.new, unionsVerbatim]
  pending := by simp [Descriptor.new, Descriptor.pendingVerbatim]

theorem predicatesVerbatim_append (ps qs : List Predicate) :
    predicatesVerbatim (ps ++ qs) = predicatesVerbatim ps ++ predicatesVerbatim qs := by
  induction ps with
  | nil => rfl
  | cons p ps ih =>
    rw [List.cons_append, predicatesVerbatim, ih, predicatesVerbatim, List.append_assoc]

theorem unionsVerbatim_append (parts others : List UnionPart) :
    unionsVerbatim (parts ++ others) = unionsVerbatim parts ++ unionsVerbatim others := by
  induction parts with
  | nil => rfl
  | cons part parts ih =>
    obtain ⟨operator, query⟩ := part
    rw [List.cons_append, unionsVerbatim, ih, unionsVerbatim, List.append_assoc]

namespace Descriptor.Sound

variable {d query : Descriptor} {p : Predicate}

theorem toWhere (hd : d.Sound) (hp : Chunk.AllSound p.verbatim) : (Edit.toWhere p d).Sound :=
  { hd with
    own := { hd.own with }
    wheres := by
      rw [Edit.toWhere, predicatesVerbatim_append]
      exact (Chunk.allHave_append _ _).mpr ⟨hd.wheres, by simpa [predicatesVerbatim] using hp⟩ }

theorem toHaving (hd : d.Sound) (hp : Chunk.AllSound p.verbatim) : (Edit.toHaving p d).Sound :=
  { hd with
    own := { hd.own with }
    havings := by
      rw [Edit.toHaving, predicatesVerbatim_append]
      exact (Chunk.allHave_append _ _).mpr ⟨hd.havings, by simpa [predicatesVerbatim] using hp⟩ }

theorem withColumns (hd : d.Sound) {columns : List Value}
    (h : ∀ v ∈ columns, Marked (selectItemText v) 0) : Descriptor.Sound { d with columns } :=
  { hd with own := { hd.own with columns := h } }

end Descriptor.Sound

/-! ## The texts that edits take over -/

/-- The chunks that something gives if it can be had. -/
def taken {α : Type} (x : Except Error α) (chunks : α → List Chunk) : List Chunk :=
  match x with
  | .ok a => chunks a
  | .error _ => []

/-- The text that a value is read as. -/
def Value.read (v : Value) : List Chunk := v.readChunk?.toList

/-- Verbatim SQL with its values. -/
def rawTexts (sql bindings : Value) : List Chunk :=
  taken (bindings.orElse (.list [])).items fun items =>
    match Checked.text sql with
    | .accepted s => [.verbatim s items]
    | .rejected _ => []

/-- An expression, under an alias if there is one. -/
def expressionTexts (expression label : Value) : List Chunk :=
  if label.truthy then [expression.shownChunk, label.shownChunk] else expression.read

/-- The column of an aggregate, and its name if it was given one. -/
def aggregateTexts (column label : Value) : List Chunk :=
  column.read ++ if label.truthy then label.read else []

/-- The columns that a term is searched for in, if there is a term. -/
def searchTexts (term : Value) (columns : Except Error (List Value)) : List Chunk :=
  if term.truthy then taken columns fun items => items.map Value.shownChunk else []

/-- The columns that are compared: those whose values are there at all. -/
def equalityTexts (fs : Fields) : List Chunk :=
  fs.flatMap fun (column, v) => if v.present then column.read else []

/-- The columns that rows are sorted by. -/
def sortTexts (orders : List Value) : List Chunk :=
  orders.flatMap fun order => taken (order.subscript "column") Value.read

section Texts

variable {P : String → Prop} {V : String → List Value → Prop}

theorem Chunk.allHave_taken {α : Type} {x : Except Error α} {chunks : α → List Chunk}
    (h : AllHave P V (taken x chunks)) {a : α} (ha : x = .ok a) : AllHave P V (chunks a) := by
  subst ha
  exact h

theorem Chunk.allHave_read {v : Value} :
    AllHave P V v.read ↔ ∀ s, Checked.text v = .accepted s → P s := by
  rw [Value.read, Value.readChunk?]
  cases Checked.text v <;> simp

theorem Chunk.allHave_text {s : String} : AllHave P V [.text s] ↔ P s := by simp

theorem Chunk.allHave_shownChunk {v : Value} : AllHave P V [v.shownChunk] ↔ P v.display :=
  allHave_text

end Texts

/-! ## What records take over -/

namespace Validation

open Checked

variable {fs : Fields}

/-- The text that a value is read as is the only one it gives. -/
theorem read_eq_of_accepted {v : Value} {s : String} (h : text v = .accepted s) :
    v.read = [.text s] := by
  rw [Value.read, Value.readChunk?, h]
  rfl

/-- A predicate of one column takes that over. -/
theorem verbatim_eq_read {check : Fields → Checked Predicate}
    (hcheck : check ∈ [basic, member, null, between]) {p : Predicate}
    (h : (check fs).toExcept = .ok p) :
    ∃ v, Fields.get? fs "column" = some v ∧ p.verbatim = v.read := by
  simp only [List.mem_cons, List.not_mem_nil, or_false] at hcheck
  rcases hcheck with rfl | rfl | rfl | rfl
  all_goals
    have hrecord := eq_accepted_of_closed h
    simp only [seq_eq_accepted, map_eq_accepted, required_eq_accepted] at hrecord
  · obtain ⟨_, _, ⟨_, _, ⟨_, _, ⟨s, ⟨v, hv, hs⟩, rfl⟩, -, rfl⟩, -, rfl⟩, -, rfl⟩ := hrecord
    exact ⟨v, hv, (read_eq_of_accepted hs).symm⟩
  · obtain ⟨_, _, ⟨_, _, ⟨_, _, ⟨s, ⟨v, hv, hs⟩, rfl⟩, -, rfl⟩, -, rfl⟩, -, rfl⟩ := hrecord
    exact ⟨v, hv, (read_eq_of_accepted hs).symm⟩
  · obtain ⟨_, _, ⟨_, _, ⟨s, ⟨v, hv, hs⟩, rfl⟩, -, rfl⟩, -, rfl⟩ := hrecord
    exact ⟨v, hv, (read_eq_of_accepted hs).symm⟩
  · obtain ⟨_, _, ⟨_, _, ⟨_, _, ⟨s, ⟨v, hv, hs⟩, rfl⟩, -, rfl⟩, -, rfl⟩, -, rfl⟩ := hrecord
    exact ⟨v, hv, (read_eq_of_accepted hs).symm⟩

/-- A comparison of columns takes both over. -/
theorem verbatim_column {p : Predicate} (h : (column fs).toExcept = .ok p) :
    ∃ v w, Fields.get? fs "column" = some v ∧ Fields.get? fs "other_column" = some w ∧
      p.verbatim = v.read ++ w.read := by
  have hrecord := eq_accepted_of_closed h
  simp only [seq_eq_accepted, map_eq_accepted, required_eq_accepted] at hrecord
  obtain ⟨_, _, ⟨_, _, ⟨_, _, ⟨s, ⟨v, hv, hs⟩, rfl⟩, -, rfl⟩, ⟨w, hw, ht⟩, rfl⟩, -, rfl⟩ := hrecord
  refine ⟨v, w, hv, hw, ?_⟩
  rw [read_eq_of_accepted hs, read_eq_of_accepted ht]
  rfl

/-- Reading values as they are gives them back. -/
theorem itemsFrom_anything (i : Nat) (xs : List Value) :
    itemsFrom anything i xs = .accepted xs := by
  induction xs generalizing i with
  | nil => rfl
  | cons x xs ih => rw [itemsFrom, ih]; rfl

/-- Verbatim SQL is taken over with its values. -/
theorem verbatim_raw {sql logical : Value} {items : List Value} {p : Predicate}
    (h : (raw [("sql", sql), ("bindings", .list items), ("logical", logical)]).toExcept = .ok p) :
    ∃ s, text sql = .accepted s ∧ p.verbatim = [.verbatim s items] := by
  have hrecord := eq_accepted_of_closed h
  simp only [seq_eq_accepted, map_eq_accepted, required_eq_accepted] at hrecord
  obtain ⟨_, _, ⟨_, bindings, ⟨s, ⟨v, hv, hs⟩, rfl⟩, hbindings, rfl⟩, -, rfl⟩ := hrecord
  obtain rfl : sql = v := Option.some.inj hv
  have hitems : optional [("sql", sql), ("bindings", .list items), ("logical", logical)]
      "bindings" [] (sequence anything) = under (.field "bindings") (itemsFrom anything 0 items) :=
    rfl
  rw [hitems, itemsFrom_anything] at hbindings
  cases hbindings
  exact ⟨s, hs, rfl⟩

/-- A join takes over its table and its condition. -/
theorem texts_join {j : Join} (h : (join fs).toExcept = .ok j) :
    ∃ v w, Fields.get? fs "table" = some v ∧ Fields.get? fs "on" = some w ∧
      v.read = [.text j.table] ∧ w.read = [.text j.condition] := by
  have hrecord := eq_accepted_of_closed h
  simp only [seq_eq_accepted, map_eq_accepted, required_eq_accepted] at hrecord
  obtain ⟨_, _, ⟨_, _, ⟨_, -, rfl⟩, ⟨v, hv, hs⟩, rfl⟩, ⟨w, hw, ht⟩, rfl⟩ := hrecord
  exact ⟨v, w, hv, hw, read_eq_of_accepted hs, read_eq_of_accepted ht⟩

/-- A sort key takes over its column. -/
theorem texts_sortKey {k : SortKey} (h : (sortKey fs).toExcept = .ok k) :
    ∃ v, Fields.get? fs "column" = some v ∧ v.read = [.text k.column] := by
  have hrecord := eq_accepted_of_closed h
  simp only [seq_eq_accepted, map_eq_accepted, required_eq_accepted] at hrecord
  obtain ⟨_, _, ⟨_, ⟨v, hv, hs⟩, rfl⟩, -, rfl⟩ := hrecord
  exact ⟨v, hv, read_eq_of_accepted hs⟩

/-- An aggregate takes over its column and its name. -/
theorem texts_aggregate {a : Aggregate} (h : (aggregate fs).toExcept = .ok a) :
    ∃ v w, Fields.get? fs "column" = some v ∧ Fields.get? fs "alias" = some w ∧
      v.read = [.text a.column] ∧ w.read = [.text a.label] := by
  have hrecord := eq_accepted_of_closed h
  simp only [seq_eq_accepted, map_eq_accepted, required_eq_accepted] at hrecord
  obtain ⟨_, _, ⟨_, _, ⟨_, -, rfl⟩, ⟨v, hv, hs⟩, rfl⟩, ⟨w, hw, ht⟩, rfl⟩ := hrecord
  exact ⟨v, w, hv, hw, read_eq_of_accepted hs, read_eq_of_accepted ht⟩

/-- A verbatim item of a select list takes over its text. -/
theorem texts_fragment {item : Value} (h : (fragment fs).toExcept = .ok item) :
    ∃ v, Fields.get? fs "sql" = some v ∧ v.read = [.text (selectItemText item)] := by
  have hrecord := eq_accepted_of_closed h
  simp only [map_eq_accepted, required_eq_accepted] at hrecord
  obtain ⟨_, ⟨v, hv, hs⟩, rfl⟩ := hrecord
  exact ⟨v, hv, read_eq_of_accepted hs⟩

end Validation

/-! ## Edits keep queries sound -/

namespace Edit

variable {α : Type}

/-- An edit keeps the query of a builder sound, whether it fails or not. -/
abbrev Sound (e : ExceptT Error (StateM Builder) α) : Prop :=
  Preserves (fun b => b.descriptor.Sound) e

theorem sound_edit {change : Descriptor → Descriptor} (h : ∀ d, d.Sound → (change d).Sound) :
    Sound (edit change) := fun b hb => h b.descriptor hb

/-- A place for predicates keeps a query sound with every predicate whose texts are sound. -/
def SoundPlace (place : Predicate → Descriptor → Descriptor) : Prop :=
  ∀ (p : Predicate) (d : Descriptor), d.Sound → Chunk.AllSound p.verbatim → (place p d).Sound

theorem soundPlace_toWhere : SoundPlace toWhere := fun _ _ hd hp => hd.toWhere hp

theorem soundPlace_toHaving : SoundPlace toHaving := fun _ _ hd hp => hd.toHaving hp

section Predicates

variable {place : Predicate → Descriptor → Descriptor} (hplace : SoundPlace place)

include hplace

/-- Adding a predicate that takes over sound texts. -/
theorem sound_add {p : Checked Predicate}
    (h : ∀ q, p.toExcept = .ok q → Chunk.AllSound q.verbatim) : Sound (add place p) :=
  preserves_reading _ fun q hq => sound_edit fun d hd => hplace q d hd (h q hq)

/-- Adding a predicate of one column, which takes over that. -/
theorem sound_addRead {check : Fields → Checked Predicate}
    (hcheck : check ∈ [Validation.basic, Validation.member, Validation.null, Validation.between])
    {fs : Fields} {column : Value} (hcolumn : Fields.get? fs "column" = some column)
    (h : Chunk.AllSound column.read) : Sound (add place (check fs)) := by
  refine sound_add hplace fun p hp => ?_
  obtain ⟨v, hv, hverbatim⟩ := Validation.verbatim_eq_read hcheck hp
  obtain rfl : column = v := Option.some.inj (hcolumn.symm.trans hv)
  rwa [hverbatim]

theorem sound_compare {column : Value} (h : Chunk.AllSound column.read)
    (operator value : Value) (logical : Connective) :
    Sound (compare place column operator value logical) :=
  sound_addRead hplace (by simp) rfl h

/-- Adding verbatim SQL that has a placeholder for every value that comes with it keeps a query
sound.

**Proof sketch.** The predicate that is added has no verbatim text but this one, with the values
that it was taken with. -/
theorem sound_addRaw {sql bindings : Value} (h : Chunk.AllSound (rawTexts sql bindings))
    (logical : Value) : Sound (addRaw place sql bindings logical) := by
  refine preserves_reading _ fun items hitems => sound_add hplace fun p hp => ?_
  obtain ⟨s, hs, hverbatim⟩ := Validation.verbatim_raw hp
  have htexts := Chunk.allHave_taken h hitems
  rw [hs] at htexts
  rwa [hverbatim]

end Predicates

theorem sound_addEqualities {fs : Fields} (h : Chunk.AllSound (equalityTexts fs)) :
    Sound (addEqualities fs) := by
  induction fs with
  | nil => exact preserves_pure ()
  | cons entry rest ih =>
    obtain ⟨column, v⟩ := entry
    obtain ⟨hcolumn, hrest⟩ := (Chunk.allHave_append _ _).mp h
    dsimp only at hcolumn
    rw [addEqualities]
    split
    · next hpresent =>
      rw [if_pos hpresent] at hcolumn
      exact preserves_bind (sound_compare soundPlace_toWhere hcolumn _ _ _) fun _ => ih hrest
    · exact ih hrest

theorem sound_addMember {column : Value} (h : Chunk.AllSound column.read) (values : Value)
    (negated : Bool) (logical : Value) : Sound (addMember column values negated logical) :=
  preserves_reading _ fun items _ => sound_addRead soundPlace_toWhere (by simp) rfl h

theorem sound_addNull {column : Value} (h : Chunk.AllSound column.read) (negated : Bool)
    (logical : Connective) : Sound (addNull column negated logical) :=
  sound_addRead soundPlace_toWhere (by simp) rfl h

theorem sound_addBetween {column : Value} (h : Chunk.AllSound column.read) (bounds : Value)
    (negated : Bool) : Sound (addBetween column bounds negated) :=
  preserves_reading _ fun (_, _) _ => sound_addRead soundPlace_toWhere (by simp) rfl h

theorem sound_addColumn {first second : Value} (hfirst : Chunk.AllSound first.read)
    (hsecond : Chunk.AllSound second.read) (operator logical : Value) :
    Sound (addColumn first operator second logical) := by
  refine sound_add soundPlace_toWhere fun p hp => ?_
  obtain ⟨v, w, hv, hw, hverbatim⟩ := Validation.verbatim_column hp
  obtain rfl : first = v := Option.some.inj hv
  obtain rfl : second = w := Option.some.inj hw
  rw [hverbatim]
  exact (Chunk.allHave_append _ _).mpr ⟨hfirst, hsecond⟩

/-- Adding a fragment that has its own placeholders. -/
theorem sound_addFragment {s : Statement} (h : s.Sound) : Sound (addFragment s) := by
  refine sound_addRaw soundPlace_toWhere ?_ _
  have hitems : ((Value.list s.bindings).orElse (.list [])).items = .ok s.bindings := by
    cases s.bindings <;> rfl
  rw [rawTexts, hitems]
  simpa [taken, Checked.text, Statement.Sound] using h

theorem sound_addExists {query : Descriptor} (h : query.Sound) (negated : Bool) :
    Sound (addExists query negated) :=
  sound_edit fun _ hd => hd.toWhere h.verbatim

theorem sound_addSearch {term columns : Value}
    (h : Chunk.AllSound (searchTexts term columns.items)) : Sound (addSearch term columns) := by
  rw [addSearch]
  split
  · next hterm =>
    refine preserves_reading _ fun items hitems => sound_addFragment ?_
    rw [searchTexts, if_pos hterm, hitems] at h
    have hcolumns := Chunk.allHave_map_shownChunk.mp h
    rw [Statement.Sound, List.length_map]
    exact marked_conditions fun c hc => (hcolumns c hc).append (by decide : Marked " LIKE ?" 1)
  · exact preserves_pure ()

theorem sound_addMoment {column : Value} (h : Marked column.display 0) {operator : String}
    (ho : Plain operator) (bound : Value) : Sound (addMoment column operator bound) := by
  unfold addMoment
  split
  · exact preserves_pure ()
  · refine sound_addFragment ?_
    have hhead : Marked (column.display ++ " " ++ operator) 0 :=
      (h.append (by decide : Marked " " 0)).append (isTextual_marked.plain ho)
    exact hhead.append (by decide : Marked " ?" 1)
  · exact preserves_throw _

theorem sound_addColumnText {sql : Value} (h : Chunk.AllSound sql.read) :
    Sound (addColumnText sql) := by
  refine preserves_reading _ fun item hitem => sound_edit fun d hd => ?_
  obtain ⟨v, hv, htext⟩ := Validation.texts_fragment hitem
  obtain rfl : sql = v := Option.some.inj hv
  exact hd.withColumns (List.forall_mem_append.mpr ⟨hd.own.columns, by simpa [htext] using h⟩)

theorem sound_addColumns {given : List Value}
    (h : ∀ v ∈ given, Marked (selectItemText v) 0) (failure : Option Error) :
    Sound (addColumns given failure) :=
  preserves_addColumns_of (sound_edit fun _ hd =>
    hd.withColumns (List.forall_mem_append.mpr ⟨hd.own.columns, h⟩)) failure

theorem sound_addExpression {expression label : Value}
    (h : Chunk.AllSound (expressionTexts expression label)) :
    Sound (addExpression expression label) := by
  refine sound_addColumnText ?_
  rw [expressionTexts] at h
  split
  · next hlabel =>
    rw [if_pos hlabel] at h
    obtain ⟨hexpression, hname⟩ := (Chunk.allHave_cons _ _).mp h
    have hname := Chunk.allHave_shownChunk.mp hname
    have hall : Marked (expression.display ++ " AS " ++ label.display) 0 :=
      (hexpression.append (by decide : Marked " AS " 0)).append hname
    simpa [Chunk.allHave_read, Checked.text] using hall
  · next hlabel => rwa [if_neg hlabel] at h

theorem sound_addJoin {table condition : Value} (ht : Chunk.AllSound table.read)
    (hc : Chunk.AllSound condition.read) (kind : JoinKind) :
    Sound (addJoin kind table condition) := by
  refine preserves_reading _ fun j hj => sound_edit fun d hd => ?_
  obtain ⟨v, w, hv, hw, htable, hcondition⟩ := Validation.texts_join hj
  obtain rfl : table = v := Option.some.inj hv
  obtain rfl : condition = w := Option.some.inj hw
  rw [htable] at ht
  rw [hcondition] at hc
  have htexts := And.intro (Chunk.allHave_text.mp ht) (Chunk.allHave_text.mp hc)
  have hjoins : ∀ j' ∈ d.joins ++ [j], Marked j'.table 0 ∧ Marked j'.condition 0 :=
    List.forall_mem_append.mpr ⟨hd.own.joins, by simpa using htexts⟩
  exact { hd with own := { hd.own with joins := hjoins } }

theorem sound_addSortKey {column : Value} (h : Chunk.AllSound column.read) (direction : Value) :
    Sound (addSortKey column direction) := by
  have hkey : ∀ direction, Sound (do
      let k ← (Validation.sortKey [("column", column), ("direction", direction)]).toExcept
      edit fun d => { d with order := d.order ++ [k] }) := by
    intro direction
    refine preserves_reading _ fun k hk => sound_edit fun d hd => ?_
    obtain ⟨v, hv, htext⟩ := Validation.texts_sortKey hk
    obtain rfl : column = v := Option.some.inj hv
    rw [htext] at h
    have horder : ∀ k' ∈ d.order ++ [k], Marked k'.column 0 :=
      List.forall_mem_append.mpr ⟨hd.own.order, by simpa using h⟩
    exact { hd with own := { hd.own with order := horder } }
  unfold addSortKey
  split
  · exact hkey _
  · exact hkey _
  · exact preserves_bind (preserves_throw _) fun _ => hkey _

theorem sound_addSortKeys {orders : List Value} (h : Chunk.AllSound (sortTexts orders)) :
    Sound (addSortKeys orders) := by
  induction orders with
  | nil => exact preserves_pure ()
  | cons order orders ih =>
    obtain ⟨hcolumn, hrest⟩ := (Chunk.allHave_append _ _).mp h
    refine preserves_reading _ fun column hread => preserves_reading _ fun _ _ => ?_
    exact preserves_bind (sound_addSortKey (Chunk.allHave_taken hcolumn hread) _) fun _ => ih hrest

/-- A text with its stars replaced closes its literals as the text does, and has as many
placeholders. -/
theorem marked_starless {s : String} {n : Nat} (h : Marked s n) : Marked (starless s) n := by
  have hall : ∀ (cs : List Char) (inLiteral : Bool),
      let ds := cs.flatMap fun c => if c == '*' then ['a', 'l', 'l'] else [c]
      literalAfter inLiteral ds = literalAfter inLiteral cs ∧
        marksOutside inLiteral ds = marksOutside inLiteral cs := by
    intro cs
    induction cs with
    | nil => exact fun _ => ⟨rfl, rfl⟩
    | cons c cs ih =>
      intro inLiteral
      dsimp only at ih ⊢
      rw [List.flatMap_cons]
      by_cases hstar : c = '*'
      · subst hstar
        exact ih inLiteral
      · rw [if_neg (by simpa using hstar), List.singleton_append]
        simp only [literalAfter, marksOutside, ih, and_self]
  constructor
  · rw [starless, String.toList_ofList, (hall _ _).1, h.closed]
  · rw [starless, String.toList_ofList, (hall _ _).2, h.count]

/-- The name that an aggregate is given shows its function and its column. -/
theorem marked_aggregateName {function : AggregateFunction} {column label : Value}
    (h : Chunk.AllSound column.read) (hlabel : aggregateName function column = .ok label) :
    Chunk.AllSound label.read := by
  obtain ⟨name, hname, hlabel⟩ := bind_eq_ok.mp hlabel
  cases hlabel
  have hfunction : Marked (function.keyword ++ "_") 0 := by cases function <;> decide
  suffices hshown : Marked name.display 0 by
    simpa [Chunk.allHave_read, Checked.text] using hfunction.append hshown
  rw [nameInAggregate.eq_def] at hname
  split at hname
  · next s =>
    cases hname
    have hcolumn : Marked s 0 := Chunk.allHave_read.mp h s rfl
    exact marked_starless hcolumn
  · cases hname
  · cases hname
  · split at hname
    · split at hname
      · cases hname
        exact (by decide : Marked "None" 0)
      · cases hname
    · cases hname
  · cases hname

theorem sound_addAggregate {column label : Value}
    (h : Chunk.AllSound (aggregateTexts column label)) (function : AggregateFunction) :
    Sound (addAggregate function column label) := by
  obtain ⟨hcolumn, hgiven⟩ := (Chunk.allHave_append _ _).mp h
  have hadd : ∀ label : Value, Chunk.AllSound label.read → Sound (do
      let a ← (Validation.aggregate
        [("func", .text function.keyword), ("column", column), ("alias", label)]).toExcept
      edit fun d => { d with aggregates := d.aggregates ++ [a] }) := by
    intro label hlabel
    refine preserves_reading _ fun a ha => sound_edit fun d hd => ?_
    obtain ⟨v, w, hv, hw, hname, halias⟩ := Validation.texts_aggregate ha
    obtain rfl : column = v := Option.some.inj hv
    obtain rfl : label = w := Option.some.inj hw
    rw [hname] at hcolumn
    rw [halias] at hlabel
    have htexts := And.intro (Chunk.allHave_text.mp hcolumn) (Chunk.allHave_text.mp hlabel)
    have haggregates : ∀ a' ∈ d.aggregates ++ [a], Marked a'.column 0 ∧ Marked a'.label 0 :=
      List.forall_mem_append.mpr ⟨hd.own.aggregates, by simpa using htexts⟩
    exact { hd with own := { hd.own with aggregates := haggregates } }
  rw [addAggregate]
  split
  · next hlabel =>
    rw [if_pos hlabel] at hgiven
    exact hadd label hgiven
  · exact preserves_reading _ fun label hlabel => hadd label (marked_aggregateName hcolumn hlabel)

theorem sound_addUnion {query : Descriptor} (h : query.Sound) (operator : SetOperator) :
    Sound (addUnion operator query) := by
  refine sound_edit fun d hd => { hd with own := { hd.own with }, unions := ?_ }
  rw [unionsVerbatim_append]
  exact (Chunk.allHave_append _ _).mpr
    ⟨hd.unions, by simpa [unionsVerbatim] using h.verbatim⟩

theorem sound_setPage (page perPage : Value) : Sound (setPage page perPage) := by
  refine preserves_reading _ fun _ _ => preserves_reading _ fun _ _ => ?_
  refine preserves_bind (sound_edit fun _ hd => { hd with own := { hd.own with } }) fun _ => ?_
  refine preserves_reading _ fun _ _ => preserves_reading _ fun _ _ => ?_
  refine preserves_reading _ fun _ _ => preserves_reading _ fun _ _ => ?_
  exact sound_edit fun _ hd => { hd with own := { hd.own with } }

/-- Queueing a write that names sound columns. -/
theorem sound_queue {kind : WriteKind} {data : Value} (h : Chunk.AllSound (kind.verbatim data)) :
    Sound (queue kind data) := by
  refine sound_edit fun d hd => { hd with own := { hd.own with }, pending := ?_ }
  have hqueue : Descriptor.Queues
      { d with pending := some { kind := kind.keyword, data } } kind data := rfl
  rwa [hqueue.pendingVerbatim]

end Edit

end FluentSql
