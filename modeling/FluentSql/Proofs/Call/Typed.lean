import FluentSql.Proofs.Call.Preserving
import FluentSql.Proofs.Descriptor.Dumped

set_option autoImplicit false

/-!
# Queries built by typed calls

Most of what a call adds to a query is checked when it is added. The alias, the limit and the
offset, the names of databases and the items of an aggregating select list are set unchecked, and
bound values and the data of writes may be anything. If the former are of their types and the latter
are plain data, every query that calls build is typed, failing calls included; so what a builder
holds is just what validation accepts.

## Main definitions

* `FluentSql.Method.bound` — the parameters whose arguments a call takes over as they are.
* `FluentSql.Method.Admits` — the arguments of a call are of their types.
* `FluentSql.Descriptor.Built` — the queries that are built by such calls.

## Main results

* `FluentSql.Method.typed_perform` — a call keeps a query typed.
* `FluentSql.Descriptor.Built.typedData` — a built query is typed.
-/

namespace FluentSql

/-! ## Arguments of their types -/

/-- The parameters of a call whose arguments it takes over as they are, to bind them or to queue
them. -/
def Method.bound : Method → List String
  | .where_ | .orWhere | .whereIf | .having_ | .havingIf | .whereJsonContains => ["value"]
  | .whereAll => ["conditions"]
  | .whereIn | .whereNotIn | .orWhereIn | .orWhereNotIn => ["values"]
  | .whereBetween | .whereNotBetween => ["bounds"]
  | .whereRaw | .havingRaw => ["bindings"]
  | .whereLike | .orWhereLike | .whereIlike => ["pattern"]
  | .whereFullText => ["term"]
  | .insert => ["rows"]
  | .update => ["values"]
  | .increment | .decrement => ["column", "amount"]
  | .updateOrInsert => ["attributes", "values"]
  | _ => []

/-- The arguments of a call that nothing checks are of their types: what is bound or queued is plain
data; an alias is a text, the names of databases are texts, a limit, an offset and the numbers of a
page are integers, and the items of an aggregating select list are texts or verbatim SQL. -/
def Method.Admits (args : Arguments) (m : Method) : Prop :=
  (∀ name ∈ m.bound, ∀ v, args.get? name = some v → v.IsData) ∧
  match m with
  | .setAlias => ∀ v, args.get? "name" = some v → v.IsTextOrNull
  | .bank => ∀ v xs, args.get? "names" = some v → v.oneOrMany = .ok xs → ∀ x ∈ xs, x.IsText
  | .aggregatesSelect =>
    ∀ v xs, args.get? "columns" = some v → v.items = .ok xs → ∀ x ∈ xs, x.IsSelectItem
  | .limit | .offset => ∀ v, args.get? "count" = some v → v.IsIntOrNull
  | .paginate => ∀ name ∈ ["page", "per_page"], ∀ v, args.get? name = some v → v.IsIntOrNull
  | _ => True

namespace Arguments

variable {args : Arguments} {name : String} {v : Value}

/-- An argument that has to be given is one that was given. -/
theorem get?_of_value (h : args.value name = .ok v) : args.get? name = some v := by
  rw [value.eq_def] at h
  split at h
  · next hv =>
    cases h
    exact hv
  · cases h

/-- An argument with a default has what every given argument and the default have. -/
theorem valueOr_of_forall {P : Value → Prop} {default : Value}
    (h : ∀ v, args.get? name = some v → P v) (hdefault : P default) :
    P (args.valueOr name default) := by
  rw [valueOr]
  cases hv : args.get? name with
  | none => exact hdefault
  | some v => exact h v hv

end Arguments

/-- What iterating a value gives is of its types if the items are that it has. Before an iterable
fails it gives nothing but texts. -/
theorem Value.isSelectItem_of_mem_iterated {v x : Value}
    (h : ∀ xs, v.items = .ok xs → ∀ x ∈ xs, x.IsSelectItem) (hx : x ∈ v.iterated.1) :
    x.IsSelectItem := by
  rw [iterated] at hx
  split at hx
  · next xs hxs => exact h xs hxs x hx
  · cases v with
    | function mark idle given =>
      obtain ⟨s, -, rfl⟩ := List.mem_map.mp hx
      exact .inl ⟨s, rfl⟩
    | _ => cases hx

/-- What a short form of a call is given is of its types if what is meant is given that. -/
theorem Method.admits_expand {m meant : Method} {args given : Arguments} (h : m.Admits args)
    (hmeant : m.expand args = .ok (meant, given)) : meant.Admits given := by
  have hvalues : ∀ {values column logical : Value}, m.bound = ["values"] →
      args.value "values" = .ok values →
      ∀ v, Arguments.get? [("column", column), ("values", values), ("logical", logical)] "values" =
        some v → v.IsData := by
    rintro values column logical hbound hvalues v ⟨⟩
    exact h.1 "values" (by simp [hbound]) _ (Arguments.get?_of_value hvalues)
  cases m with
  | selectCount =>
    cases hmeant
    exact ⟨by simp [bound], trivial⟩
  | selectSum | selectAvg | selectMin | selectMax =>
    obtain ⟨_, -, hpair⟩ := map_eq_ok.mp hmeant
    cases hpair
    exact ⟨by simp [bound], trivial⟩
  | selectCaseSum =>
    obtain ⟨_, -, hmeant⟩ := bind_eq_ok.mp hmeant
    obtain ⟨_, -, hpair⟩ := bind_eq_ok.mp hmeant
    cases hpair
    exact ⟨by simp [bound], trivial⟩
  | orWhereIn | orWhereNotIn =>
    obtain ⟨_, -, hmeant⟩ := bind_eq_ok.mp hmeant
    obtain ⟨values, hv, hpair⟩ := bind_eq_ok.mp hmeant
    cases hpair
    refine ⟨?_, trivial⟩
    rintro name (_ | ⟨_, ⟨⟩⟩)
    exact hvalues rfl hv
  | whereSearch =>
    obtain ⟨_, -, hmeant⟩ := bind_eq_ok.mp hmeant
    obtain ⟨_, -, hpair⟩ := bind_eq_ok.mp hmeant
    cases hpair
    exact ⟨by simp [bound], trivial⟩
  | groupByOne =>
    obtain ⟨_, -, hpair⟩ := bind_eq_ok.mp hmeant
    cases hpair
    exact ⟨by simp [bound], trivial⟩
  | _ =>
    cases hmeant
    exact h

/-! ## Checked records -/

namespace Validation

open Checked

variable {fs : Fields}

/-- A comparison binds the value that it is given. -/
theorem gives_basic (h : ∀ v, Fields.get? fs "value" = some v → v.IsData) :
    (basic fs).Gives (Predicate.TypedWith Value.IsData) := by
  have hvalue : (optional fs "value" .null anything).Gives Value.IsData :=
    Gives.optional Value.isData_null fun v hv => gives_accepted (h v hv)
  refine (Gives.seq (Gives.ap ((gives_map ?_ _).seq _) hvalue) _).closed _ _
  exact fun _ _ _ hv _ => hv

/-- A comparison of columns binds nothing. -/
theorem gives_column : (column fs).Gives (Predicate.TypedWith Value.IsData) := by
  refine ((gives_map ?_ _).seq _ |>.seq _ |>.seq _).closed _ _
  exact fun _ _ _ _ => trivial

/-- A test for null binds nothing. -/
theorem gives_null : (null fs).Gives (Predicate.TypedWith Value.IsData) := by
  refine ((gives_map ?_ _).seq _ |>.seq _).closed _ _
  exact fun _ _ _ => trivial

/-- Items that may be anything. -/
theorem gives_anything {name : String} (h : ∀ v, Fields.get? fs name = some v →
      ∃ xs, v = .list xs ∧ ∀ x ∈ xs, x.IsData) :
    (optional fs name [] (sequence anything)).Gives fun vs => ∀ v ∈ vs, v.IsData := by
  refine Gives.optional (by simp) fun v hv => ?_
  obtain ⟨xs, rfl, hxs⟩ := h v hv
  exact Gives.itemsFrom 0 fun x hx => gives_accepted (hxs x hx)

/-- Verbatim SQL binds the values that it is given. -/
theorem gives_raw (h : ∀ v, Fields.get? fs "bindings" = some v →
      ∃ xs, v = .list xs ∧ ∀ x ∈ xs, x.IsData) :
    (raw fs).Gives (Predicate.TypedWith Value.IsData) := by
  refine (Gives.seq (Gives.ap (gives_map ?_ _) (gives_anything h)) _).closed _ _
  exact fun _ _ hvs _ => hvs

/-- A membership binds the values that it is given. -/
theorem gives_member (h : ∀ v, Fields.get? fs "values" = some v →
      ∃ xs, v = .list xs ∧ ∀ x ∈ xs, x.IsData) :
    (member fs).Gives (Predicate.TypedWith Value.IsData) := by
  refine (Gives.seq (Gives.seq (Gives.ap (gives_map ?_ _) (gives_anything h)) _) _).closed _ _
  exact fun _ _ hvs _ _ => hvs

/-- A range binds the two bounds that it is given. -/
theorem gives_between {low high : Value} (hlow : low.IsData) (hhigh : high.IsData)
    (h : Fields.get? fs "bounds" = some (.tuple [low, high])) :
    (between fs).Gives (Predicate.TypedWith Value.IsData) := by
  have hbounds : (required fs "bounds" two).Gives fun b => b.1.IsData ∧ b.2.IsData := by
    rw [required, h]
    exact gives_accepted ⟨hlow, hhigh⟩
  refine (Gives.seq (Gives.seq (Gives.ap (gives_map ?_ _) hbounds) _) _).closed _ _
  exact fun _ _ hb _ _ => hb

end Validation

/-! ## Edits keep queries typed -/

/-- A descriptor is typed, and what it holds in fields without a type is plain data. -/
abbrev Descriptor.TypedData (d : Descriptor) : Prop := d.TypedWith Value.IsData

namespace Descriptor

variable {d : Descriptor}

/-- A query to which nothing was added is typed. -/
theorem typedData_new (table : String) : (Descriptor.new table).TypedData := by
  refine typedWith_iff.mpr ⟨⟨.inl rfl, ?_, .inl rfl, .inl rfl, ?_, ?_⟩, trivial, trivial, trivial⟩
  · simp [new, Value.IsSelectItem]
  · simp [new]
  · simp [new]

/-- A query with the same nested queries, and fields of its own that are typed. -/
theorem TypedData.withOwn (h : d.TypedData) {e : Descriptor} (hown : e.OwnTyped Value.IsData)
    (hwheres : e.wheres = d.wheres) (hhavings : e.havings = d.havings)
    (hunions : e.unions = d.unions) : e.TypedData := by
  obtain ⟨-, hw, hh, hu⟩ := typedWith_iff.mp h
  exact typedWith_iff.mpr ⟨hown, hwheres ▸ hw, hhavings ▸ hh, hunions ▸ hu⟩

/-- The fields of a typed query that are not nested. -/
theorem TypedData.own (h : d.TypedData) : d.OwnTyped Value.IsData := (typedWith_iff.mp h).1

/-- A typed query with another select list. -/
theorem TypedData.withColumns (h : d.TypedData) {columns : List Value}
    (hcolumns : ∀ v ∈ columns, v.IsSelectItem) : ({ d with columns } : Descriptor).TypedData :=
  h.withOwn { h.own with columns := hcolumns } rfl rfl rfl

end Descriptor

namespace Edit

variable {α : Type}

/-- An edit keeps the query of a builder typed, whether it fails or not. -/
abbrev Typed (e : ExceptT Error (StateM Builder) α) : Prop :=
  Preserves (fun b => b.descriptor.TypedData) e

theorem typed_edit {change : Descriptor → Descriptor}
    (h : ∀ d, d.TypedData → (change d).TypedData) : Typed (edit change) :=
  fun b hb => h b.descriptor hb

/-- A place for predicates keeps a query typed with every typed predicate. -/
def TypedPlace (place : Predicate → Descriptor → Descriptor) : Prop :=
  ∀ (p : Predicate) (d : Descriptor), d.TypedData → p.TypedWith Value.IsData →
    (place p d).TypedData

theorem typedPlace_toWhere : TypedPlace toWhere := by
  intro p d hd hp
  obtain ⟨hown, hw, hh, hu⟩ := Descriptor.typedWith_iff.mp hd
  refine Descriptor.typedWith_iff.mpr ⟨{ hown with }, ?_, hh, hu⟩
  exact predicatesTyped_append.mpr ⟨hw, hp, trivial⟩

theorem typedPlace_toHaving : TypedPlace toHaving := by
  intro p d hd hp
  obtain ⟨hown, hw, hh, hu⟩ := Descriptor.typedWith_iff.mp hd
  refine Descriptor.typedWith_iff.mpr ⟨{ hown with }, hw, ?_, hu⟩
  exact predicatesTyped_append.mpr ⟨hh, hp, trivial⟩

section Predicates

variable {place : Predicate → Descriptor → Descriptor} (hplace : TypedPlace place)

include hplace

/-- Adding a predicate that is typed if it is accepted. -/
theorem typed_add {p : Checked Predicate} (h : p.Gives (Predicate.TypedWith Value.IsData)) :
    Typed (add place p) := by
  refine preserves_reading _ fun q hq => typed_edit fun d hd => hplace q d hd (h q ?_)
  cases p <;> cases hq
  rfl

theorem typed_compare {value : Value} (h : value.IsData) (column operator : Value)
    (logical : Connective) : Typed (compare place column operator value logical) := by
  refine typed_add hplace (Validation.gives_basic ?_)
  rintro _ ⟨⟩
  exact h

/-- Adding verbatim SQL with values that are plain data. -/
theorem typed_addRaw {bindings : Value} (h : bindings.IsData) (sql logical : Value) :
    Typed (addRaw place sql bindings logical) := by
  refine preserves_reading _ fun items hitems => typed_add hplace (Validation.gives_raw ?_)
  rintro _ ⟨⟩
  have hnone : (Value.list []).IsData := rfl
  exact ⟨items, rfl, (h.orElse hnone).items hitems⟩

end Predicates

theorem typed_addEqualities {fs : Fields} (h : fs.AreData) : Typed (addEqualities fs) := by
  induction fs with
  | nil => exact preserves_pure ()
  | cons entry rest ih =>
    obtain ⟨column, v⟩ := entry
    obtain ⟨⟨-, -, hv⟩, hrest⟩ := List.forall_mem_cons.mp h
    rw [addEqualities]
    split
    · exact preserves_bind (typed_compare typedPlace_toWhere hv _ _ _) fun _ => ih hrest
    · exact ih hrest

theorem typed_addMember {values : Value} (h : values.IsData) (column : Value) (negated : Bool)
    (logical : Value) : Typed (addMember column values negated logical) := by
  refine preserves_reading _ fun items hitems =>
    typed_add typedPlace_toWhere (Validation.gives_member ?_)
  rintro _ ⟨⟩
  exact ⟨items, rfl, h.items hitems⟩

theorem typed_addNull (column : Value) (negated : Bool) (logical : Connective) :
    Typed (addNull column negated logical) := typed_add typedPlace_toWhere Validation.gives_null

theorem typed_addBetween {bounds : Value} (h : bounds.IsData) (column : Value) (negated : Bool) :
    Typed (addBetween column bounds negated) := by
  refine preserves_reading _ fun pair hpair => ?_
  obtain ⟨low, high⟩ := pair
  obtain ⟨hlow, hhigh⟩ := h.pair hpair
  exact typed_add typedPlace_toWhere (Validation.gives_between hlow hhigh rfl)

theorem typed_addColumn (first operator second logical : Value) :
    Typed (addColumn first operator second logical) :=
  typed_add typedPlace_toWhere Validation.gives_column

/-- Adding a fragment that binds plain data. -/
theorem typed_addFragment {s : Statement} (h : ∀ v ∈ s.bindings, v.IsData) :
    Typed (addFragment s) :=
  typed_addRaw typedPlace_toWhere (Value.isData_list.mpr h) _ _

theorem typed_addExists {query : Descriptor} (h : query.TypedData) (negated : Bool) :
    Typed (addExists query negated) :=
  typed_edit fun d hd => typedPlace_toWhere _ d hd h

theorem typed_addSearch (term columns : Value) : Typed (addSearch term columns) := by
  rw [addSearch]
  split
  · refine preserves_reading _ fun items _ => typed_addFragment fun v hv => ?_
    obtain ⟨_, -, rfl⟩ := List.mem_map.mp hv
    exact Value.isData_text _
  · exact preserves_pure ()

theorem typed_addMoment (column : Value) (operator : String) (bound : Value) :
    Typed (addMoment column operator bound) := by
  unfold addMoment
  split
  · exact preserves_pure ()
  · exact typed_addFragment (by simp)
  · exact preserves_throw _

/-! ### Other lists -/

theorem typed_addColumnText (sql : Value) : Typed (addColumnText sql) := by
  refine preserves_reading _ fun item hitem => typed_edit fun d hd => ?_
  have hread : (Validation.fragment [("sql", sql)]) = .accepted item := by
    cases hfragment : Validation.fragment [("sql", sql)] <;> rw [hfragment] at hitem <;> cases hitem
    rfl
  have hitem := Validation.gives_fragment _ item hread
  exact hd.withColumns (List.forall_mem_append.mpr ⟨hd.own.columns, by simpa using hitem⟩)

theorem typed_addColumns {given : List Value} (h : ∀ v ∈ given, v.IsSelectItem)
    (failure : Option Error) : Typed (addColumns given failure) :=
  preserves_addColumns_of (typed_edit fun _ hd =>
    hd.withColumns (List.forall_mem_append.mpr ⟨hd.own.columns, h⟩)) failure

theorem typed_addExpression (expression label : Value) :
    Typed (addExpression expression label) := typed_addColumnText _

/-- An edit of lists of flat records, which are typed as they are. -/
theorem typed_edit_flat {change : Descriptor → Descriptor}
    (h : ∀ d, ∃ joins order groups distinct aggregates,
      change d = { d with joins, order, groups, distinct, aggregates }) : Typed (edit change) := by
  refine typed_edit fun d hd => ?_
  obtain ⟨joins, order, groups, distinct, aggregates, hchange⟩ := h d
  rw [hchange]
  exact hd.withOwn { hd.own with } rfl rfl rfl

theorem typed_addJoin (kind : JoinKind) (table condition : Value) :
    Typed (addJoin kind table condition) :=
  preserves_reading _ fun _ _ => typed_edit_flat fun _ => ⟨_, _, _, _, _, rfl⟩

theorem typed_addSortKey (column direction : Value) : Typed (addSortKey column direction) := by
  have hkey : ∀ direction, Typed (do
      let k ← (Validation.sortKey [("column", column), ("direction", direction)]).toExcept
      edit fun d => { d with order := d.order ++ [k] }) := fun direction =>
    preserves_reading _ fun _ _ => typed_edit_flat fun _ => ⟨_, _, _, _, _, rfl⟩
  unfold addSortKey
  split
  · exact hkey _
  · exact hkey _
  · exact preserves_bind (preserves_throw _) fun _ => hkey _

theorem typed_addSortKeys (orders : List Value) : Typed (addSortKeys orders) := by
  induction orders with
  | nil => exact preserves_pure ()
  | cons order orders ih =>
    refine preserves_reading _ fun _ _ => preserves_reading _ fun _ _ => ?_
    exact preserves_bind (typed_addSortKey _ _) fun _ => ih

theorem typed_addAggregate (function : AggregateFunction) (column label : Value) :
    Typed (addAggregate function column label) := by
  have hlabel : ∀ label, Typed (do
      let a ← (Validation.aggregate
        [("func", .text function.keyword), ("column", column), ("alias", label)]).toExcept
      edit fun d => { d with aggregates := d.aggregates ++ [a] }) := fun label =>
    preserves_reading _ fun _ _ => typed_edit_flat fun _ => ⟨_, _, _, _, _, rfl⟩
  rw [addAggregate]
  split
  · exact preserves_bind (preserves_pure _) hlabel
  · exact preserves_reading _ fun label _ => hlabel label

theorem typed_addUnion {query : Descriptor} (h : query.TypedData) (operator : SetOperator) :
    Typed (addUnion operator query) := by
  refine typed_edit fun d hd => ?_
  obtain ⟨hown, hw, hh, hu⟩ := Descriptor.typedWith_iff.mp hd
  refine Descriptor.typedWith_iff.mpr ⟨{ hown with }, hw, hh, ?_⟩
  exact unionsTyped_append.mpr ⟨hu, h, trivial⟩

/-! ### Single fields -/

theorem typed_setLimit {count : Value} (h : count.IsIntOrNull) : Typed (setLimit count) :=
  typed_edit fun _ hd => hd.withOwn { hd.own with limit := h } rfl rfl rfl

theorem typed_setOffset {count : Value} (h : count.IsIntOrNull) : Typed (setOffset count) :=
  typed_edit fun _ hd => hd.withOwn { hd.own with offset := h } rfl rfl rfl

/-- The number of a page, or of the rows on it, is an integer if an integer is given or nothing. -/
theorem exists_int_of_atLeastOne {v w : Value} {n : Int} (h : v.IsIntOrNull)
    (hw : (v.orElse (.int n)).atLeastOne = .ok w) : ∃ k, w = .int k := by
  have hint : ∃ k, v.orElse (.int n) = .int k := by
    rw [Value.orElse]
    split
    · next htruthy =>
      obtain rfl | ⟨k, rfl⟩ := h
      · cases htruthy
      · exact ⟨k, rfl⟩
    · exact ⟨n, rfl⟩
  obtain ⟨k, hk⟩ := hint
  rw [hk] at hw
  obtain ⟨number, -, hw⟩ := bind_eq_ok.mp hw
  split at hw
  · cases hw
    exact ⟨k, rfl⟩
  · cases hw
    exact ⟨1, rfl⟩

theorem typed_setPage {page perPage : Value} (hpage : page.IsIntOrNull)
    (hperPage : perPage.IsIntOrNull) : Typed (setPage page perPage) := by
  refine preserves_reading _ fun p hp => preserves_reading _ fun q hq => ?_
  obtain ⟨m, rfl⟩ := exists_int_of_atLeastOne hpage hp
  obtain ⟨n, rfl⟩ := exists_int_of_atLeastOne hperPage hq
  refine preserves_bind (typed_setLimit (.inr ⟨n, rfl⟩)) fun _ => ?_
  refine preserves_reading _ fun first hfirst => preserves_reading _ fun skipped hskipped => ?_
  refine preserves_reading _ fun each heach => preserves_reading _ fun offset hoffset => ?_
  cases hfirst
  cases hskipped
  cases heach
  cases hoffset
  exact typed_setOffset (.inr ⟨_, rfl⟩)

/-- Queueing a write with data that is plain. -/
theorem typed_queue {data : Value} (h : data.IsData) (kind : WriteKind) :
    Typed (queue kind data) := by
  refine typed_edit fun d hd => hd.withOwn { hd.own with pending := ?_ } rfl rfl rfl
  rintro action ⟨⟩
  exact h

/-- The rows of an insert are plain data if what it is given is. -/
theorem isData_insertRows {v : Value} (h : v.IsData) {rows : List Value}
    (hrows : insertRows v = .ok rows) : ∀ row ∈ rows, row.IsData := by
  rw [insertRows.eq_def] at hrows
  split at hrows
  · cases hrows
    simpa using h
  · obtain ⟨items, hitems, hrows⟩ := bind_eq_ok.mp hrows
    obtain ⟨fields, hfields, hrows⟩ := bind_eq_ok.mp hrows
    cases hrows
    have hall : ∀ fs ∈ fields, Fields.AreData fs :=
      forall_mem_of_mapM_eq_ok (fun _ _ hx hfs => Value.IsData.toFields hx hfs) (h.items hitems)
        hfields
    exact List.forall_mem_map.mpr fun fs hfs => Value.isData_map.mpr (hall fs hfs)

end Edit

/-! ## Calls keep queries typed -/

namespace Dialect

variable {dialect : Dialect}

/-- A test for a value in an array binds the value or a text. -/
theorem isData_jsonContains {column value : Value} (h : value.IsData) {s : Statement}
    (hs : dialect.jsonContains column value = .ok s) : ∀ v ∈ s.bindings, v.IsData := by
  cases dialect with
  | portable | postgres | mysql =>
    obtain ⟨_, -, hs⟩ := bind_eq_ok.mp hs
    cases hs
    simp
  | sqlite | mssql | oracle =>
    cases hs
    simpa using h

/-- A search binds the term that it is given, or patterns. -/
theorem isData_fullText {columns term : Value} (h : term.IsData) {s : Statement}
    (hs : dialect.fullText columns term = .ok s) : ∀ v ∈ s.bindings, v.IsData := by
  cases dialect with
  | portable | sqlite =>
    obtain ⟨items, -, hs⟩ := bind_eq_ok.mp hs
    cases hs
    exact List.forall_mem_map.mpr fun _ _ => Value.isData_text _
  | postgres | mysql | mssql =>
    obtain ⟨_, -, hs⟩ := bind_eq_ok.mp hs
    cases hs
    simpa using h
  | oracle =>
    obtain ⟨items, -, hs⟩ := bind_eq_ok.mp hs
    cases hs
    exact List.forall_mem_map.mpr fun _ _ => h

end Dialect

section Typed

open Edit

variable {ctx : Context} {args : Arguments} {m : Method} (h : m.Admits args)

include h

/-- What a call binds or queues is plain data. -/
theorem Method.Admits.isData {name : String} {v : Value} (hname : name ∈ m.bound)
    (hv : args.value name = .ok v) : v.IsData :=
  h.1 _ hname _ (Arguments.get?_of_value hv)

/-- What a call binds or queues, or its default, is plain data. -/
theorem Method.Admits.isData_valueOr {name : String} {default : Value} (hname : name ∈ m.bound)
    (hdefault : default.IsData) : (args.valueOr name default).IsData :=
  Arguments.valueOr_of_forall (h.1 _ hname) hdefault

/-- A call for the select list adds checked items, or items of their types. -/
theorem Method.typed_columns (hm : m.family = .columns) : Typed (m.perform ctx args) := by
  cases m with
  | select =>
    refine preserves_reading _ fun items _ => preserves_modify fun b hb => hb.withColumns ?_
    exact List.forall_mem_map.mpr fun c _ => .inl ⟨_, rfl⟩
  | selectRaw => exact preserves_reading _ fun _ _ => typed_addColumnText _
  | aggregatesSelect =>
    refine preserves_reading _ fun columns hcolumns => typed_addColumns (fun x hx => ?_) _
    exact Value.isSelectItem_of_mem_iterated
      (fun xs hxs => h.2 columns xs (Arguments.get?_of_value hcolumns) hxs) hx
  | selectExpression => exact preserves_reading _ fun _ _ => typed_addExpression _ _
  | selectRowNumber =>
    exact preserves_reading _ fun _ _ => preserves_reading _ fun _ _ =>
      preserves_reading _ fun _ _ => typed_addColumnText _
  | _ => cases hm

/-- A call for a predicate with a record of its own binds plain data. -/
theorem Method.typed_comparison (hm : m.family = .comparison)
    (hquery : ∀ q, ctx.query = some q → q.TypedData) : Typed (m.perform ctx args) := by
  have hqueryOf : ∀ {field v q}, ctx.queryOf field v = .ok q → q.TypedData := fun hq =>
    hquery _ (Context.query_eq_of_queryOf hq)
  cases m with
  | where_ | orWhere =>
    exact preserves_reading _ fun _ _ => preserves_reading _ fun _ _ =>
      preserves_reading _ fun _ hv =>
        typed_compare typedPlace_toWhere (h.isData (by simp [bound]) hv) _ _ _
  | having_ =>
    exact preserves_reading _ fun _ _ => preserves_reading _ fun _ _ =>
      preserves_reading _ fun _ hv =>
        typed_compare typedPlace_toHaving (h.isData (by simp [bound]) hv) _ _ _
  | whereIf =>
    refine preserves_reading _ fun _ _ => preserves_reading _ fun _ _ =>
      preserves_reading _ fun _ hv => preserves_reading _ fun _ _ => ?_
    split
    · exact typed_compare typedPlace_toWhere (h.isData (by simp [bound]) hv) _ _ _
    · exact preserves_pure ()
  | havingIf =>
    refine preserves_reading _ fun _ _ => preserves_reading _ fun _ _ =>
      preserves_reading _ fun _ hv => preserves_reading _ fun _ _ => ?_
    split
    · exact typed_compare typedPlace_toHaving (h.isData (by simp [bound]) hv) _ _ _
    · exact preserves_pure ()
  | whereAll =>
    refine preserves_reading _ fun conditions hconditions => preserves_reading _ fun fs hfs => ?_
    have hdata := h.isData (by simp [bound]) hconditions
    rw [Value.fields.eq_def] at hfs
    split at hfs
    · cases hfs
      exact typed_addEqualities (Value.isData_map.mp hdata)
    · cases hfs
  | whereIn | whereNotIn =>
    exact preserves_reading _ fun _ _ => preserves_reading _ fun _ hv =>
      typed_addMember (h.isData (by simp [bound]) hv) _ _ _
  | whereNull | orWhereNull | whereNotNull | orWhereNotNull =>
    exact preserves_reading _ fun _ _ => typed_addNull _ _ _
  | whereBetween | whereNotBetween =>
    exact preserves_reading _ fun _ _ => preserves_reading _ fun _ hv =>
      typed_addBetween (h.isData (by simp [bound]) hv) _ _
  | whereColumn =>
    exact preserves_reading _ fun _ _ => preserves_reading _ fun _ _ =>
      preserves_reading _ fun _ _ => typed_addColumn _ _ _ _
  | whereExists | whereNotExists =>
    exact preserves_reading _ fun _ _ => preserves_reading _ fun _ hq =>
      typed_addExists (hqueryOf hq) _
  | whereLike | orWhereLike =>
    exact preserves_reading _ fun _ _ => preserves_reading _ fun _ hp =>
      typed_compare typedPlace_toWhere (h.isData (by simp [bound]) hp) _ _ _
  | whereContains | whereStartsWith | whereEndsWith =>
    exact preserves_reading _ fun _ _ => preserves_reading _ fun _ _ =>
      typed_compare typedPlace_toWhere (Value.isData_text _) _ _ _
  | _ => cases hm

omit h in
/-- A fragment of a dialect for a pattern binds the pattern. -/
theorem Method.typed_ilike (column : Value) {pattern : Value} (hpattern : pattern.IsData) :
    Typed (perform.ilike ctx column pattern) :=
  preserves_reading _ fun dialect _ =>
    typed_addFragment (by simpa [Dialect.caseInsensitiveLike] using hpattern)

/-- A call for verbatim SQL binds plain data. -/
theorem Method.typed_fragment (hm : m.family = .fragment) : Typed (m.perform ctx args) := by
  cases m with
  | whereRaw =>
    exact preserves_reading _ fun _ _ =>
      typed_addRaw typedPlace_toWhere (h.isData_valueOr (by simp [bound]) Value.isData_null) _ _
  | havingRaw =>
    exact preserves_reading _ fun _ _ =>
      typed_addRaw typedPlace_toHaving (h.isData_valueOr (by simp [bound]) Value.isData_null) _ _
  | whereRawSearch =>
    exact preserves_reading _ fun _ _ => preserves_reading _ fun _ _ => typed_addSearch _ _
  | whereIlike =>
    exact preserves_reading _ fun _ _ => preserves_reading _ fun _ hp =>
      typed_ilike _ (h.isData (by simp [bound]) hp)
  | whereContainsCi | whereStartsWithCi | whereEndsWithCi =>
    exact preserves_reading _ fun _ _ => preserves_reading _ fun _ _ =>
      typed_ilike _ (Value.isData_text _)
  | whereJsonContains =>
    exact preserves_reading _ fun _ _ => preserves_reading _ fun _ hv =>
      preserves_reading _ fun _ _ => preserves_reading _ fun _ hs =>
        typed_addFragment (Dialect.isData_jsonContains (h.isData (by simp [bound]) hv) hs)
  | whereFullText =>
    refine preserves_reading _ fun _ _ => preserves_reading _ fun _ hterm => ?_
    split
    · exact preserves_reading _ fun _ _ => preserves_reading _ fun _ _ =>
        preserves_reading _ fun _ hs =>
          typed_addFragment (Dialect.isData_fullText (h.isData (by simp [bound]) hterm) hs)
    · exact preserves_pure ()
  | range =>
    refine preserves_reading _ fun _ _ => ?_
    exact preserves_bind (typed_addMoment _ _ _) fun _ => typed_addMoment _ _ _
  | period =>
    refine preserves_reading _ fun _ _ => ?_
    dsimp only
    split
    · exact preserves_reading _ fun _ _ => preserves_reading _ fun _ _ =>
        preserves_reading _ fun _ _ => typed_addMoment _ _ _
    · exact preserves_pure ()
  | _ => cases hm

omit h in
/-- A join on two columns is a checked record. -/
theorem Method.typed_joinOn (kind : JoinKind) : Typed (perform.joinOn args kind) :=
  preserves_reading _ fun _ _ => preserves_reading _ fun _ _ => preserves_reading _ fun _ _ =>
    typed_addJoin _ _ _

/-- A call for a join, a sort key, a page, groups, a part of a union, or something that is said of
the query as a whole. -/
theorem Method.typed_layout (hm : m.family = .layout)
    (hquery : ∀ q, ctx.query = some q → q.TypedData) : Typed (m.perform ctx args) := by
  have hqueryOf : ∀ {field v q}, ctx.queryOf field v = .ok q → q.TypedData := fun hq =>
    hquery _ (Context.query_eq_of_queryOf hq)
  cases m with
  | setAlias =>
    refine preserves_reading _ fun name hname => typed_edit fun d hd => ?_
    exact hd.withOwn { hd.own with tableAlias := h.2 name (Arguments.get?_of_value hname) } rfl
      rfl rfl
  | bank =>
    refine preserves_reading _ fun names hnames => preserves_reading _ fun items hitems =>
      typed_edit fun d hd => hd.withOwn { hd.own with banks := ?_ } rfl rfl rfl
    rintro _ ⟨⟩
    exact h.2 names items (Arguments.get?_of_value hnames) hitems
  | distinct => exact typed_edit_flat fun _ => ⟨_, _, _, _, _, rfl⟩
  | union_ | unionAll =>
    exact preserves_reading _ fun _ _ => preserves_reading _ fun _ hq =>
      typed_addUnion (hqueryOf hq) _
  | orderBy => exact preserves_reading _ fun _ _ => typed_addSortKey _ _
  | orderByMany =>
    exact preserves_reading _ fun _ _ => preserves_reading _ fun _ _ => typed_addSortKeys _
  | limit =>
    exact preserves_reading _ fun _ hv => typed_setLimit (h.2 _ (Arguments.get?_of_value hv))
  | offset =>
    exact preserves_reading _ fun _ hv => typed_setOffset (h.2 _ (Arguments.get?_of_value hv))
  | paginate =>
    exact typed_setPage
      (Arguments.valueOr_of_forall (h.2 "page" (by simp)) (.inr ⟨1, rfl⟩))
      (Arguments.valueOr_of_forall (h.2 "per_page" (by simp)) (.inr ⟨25, rfl⟩))
  | innerJoin | leftJoin | rightJoin =>
    exact preserves_reading _ fun _ _ => preserves_reading _ fun _ _ => typed_addJoin _ _ _
  | innerJoinOn => exact typed_joinOn _
  | leftJoinOn => exact typed_joinOn _
  | rightJoinOn => exact typed_joinOn _
  | groupBy =>
    exact preserves_reading _ fun _ _ => preserves_reading _ fun _ _ =>
      typed_edit_flat fun _ => ⟨_, _, _, _, _, rfl⟩
  | _ => cases hm

omit h in
/-- A call for an aggregate adds a checked record. -/
theorem Method.typed_aggregate (hm : m.family = .aggregate) : Typed (m.perform ctx args) := by
  cases m with
  | count => exact typed_addAggregate _ _ _
  | sum | avg | min | max => exact preserves_reading _ fun _ _ => typed_addAggregate _ _ _
  | _ => cases hm

/-- A call that queues a write queues plain data. -/
theorem Method.typed_write (hm : m.family = .write) : Typed (m.perform ctx args) := by
  have hpair : ∀ {v w : Value} (first second : String), v.IsData → w.IsData →
      Fields.AreData [(.text first, v), (.text second, w)] := by
    intro v w first second hv hw
    simpa [Fields.AreData, Value.hashable] using ⟨hv, hw⟩
  have hnone : (Value.map []).IsData := rfl
  cases m with
  | insert =>
    refine preserves_reading _ fun rows hrows => preserves_reading _ fun items hitems => ?_
    have hdata := isData_insertRows (h.isData (by simp [bound]) hrows) hitems
    exact typed_queue (Value.isData_list.mpr hdata) _
  | update =>
    refine preserves_reading _ fun values hvalues => preserves_reading _ fun fs hfs => ?_
    exact typed_queue (Value.isData_map.mpr ((h.isData (by simp [bound]) hvalues).toFields hfs)) _
  | delete => exact typed_queue Value.isData_null _
  | increment | decrement =>
    refine preserves_reading _ fun data hdata => typed_queue ?_ _
    obtain ⟨column, hcolumn, hdata⟩ := bind_eq_ok.mp hdata
    cases hdata
    exact Value.isData_map.mpr (hpair _ _ (h.isData (by simp [bound]) hcolumn)
      (h.isData_valueOr (by simp [bound]) (Value.isData_int 1)))
  | updateOrInsert =>
    refine preserves_reading _ fun given hgiven => preserves_reading _ fun attributes ha =>
      preserves_reading _ fun values hv => typed_queue (Value.isData_map.mpr ?_) _
    have hvalues :=
      ((h.isData_valueOr (by simp [bound]) Value.isData_null).orElse hnone).toFields hv
    exact hpair _ _ (Value.isData_map.mpr ((h.isData (by simp [bound]) hgiven).toFields ha))
      (Value.isData_map.mpr hvalues)
  | _ => cases hm

/-- A call whose arguments are of their types keeps a query typed, whether it fails or not, if the
query that it was handed is typed.

**Proof sketch.** Family by family: what a call adds is a record that was checked, or it is of its
type by hypothesis because nothing checks it. What it binds or queues is plain data, or a pattern,
which is a text. -/
theorem Method.typed_perform (hquery : ∀ q, ctx.query = some q → q.TypedData) :
    Typed (m.perform ctx args) := by
  cases hm : m.family with
  | columns => exact typed_columns h hm
  | comparison => exact typed_comparison h hm hquery
  | fragment => exact typed_fragment h hm
  | layout => exact typed_layout h hm hquery
  | aggregate => exact typed_aggregate hm
  | write => exact typed_write h hm
  | indirect => exact preserves_of_indirect hm ctx args

end Typed

/-! ## Built queries -/

namespace Descriptor

/-- The queries that are built by calls with arguments of their types. A call is carried out on a
builder that has the query so far, in any surroundings, whether it fails or not; a query that it is
handed is built in the same way, or was accepted by validation with plain data in its fields without
a type. -/
inductive Built : Descriptor → Prop
  | new (table : String) : Built (.new table)
  | accepted {v : Value} {d : Descriptor} (h : Descriptor.ofValue v = .accepted d)
      (hdata : ∀ w ∈ d.untyped, w.IsData) : Built d
  | call {b : Builder} {ctx : Context} {m meant : Method} {args given : Arguments}
      (hb : Built b.descriptor) (hquery : ∀ q, ctx.query = some q → Built q)
      (hadmits : m.Admits args) (hmeant : m.expand args = .ok (meant, given)) :
      Built ((meant.perform ctx given).run b).2.descriptor

/-- A built query is typed, and what it holds in fields without a type is plain data.

**Proof sketch.** By induction on how it was built: a new query holds nothing, an accepted record
has been checked field by field, and a call keeps what is typed if its arguments are data. -/
theorem Built.typedData {d : Descriptor} (h : d.Built) : d.TypedData := by
  induction h with
  | new table => exact typedData_new table
  | @accepted v d h hdata => exact d.typedWith_of_untyped (typed_of_accepted h) hdata
  | @call b ctx m meant args given _ _ hadmits hmeant hb hquery =>
    exact Method.typed_perform (Method.admits_expand hadmits hmeant) hquery b hb

end Descriptor

end FluentSql
