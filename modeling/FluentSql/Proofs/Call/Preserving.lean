import FluentSql.Call.Perform
import FluentSql.Proofs.Failure

set_option autoImplicit false

/-!
# What edits leave as it is

An edit that reads something, and goes on with what it read, keeps a property of builders if what it
goes on with does; an edit that fails has not gone on. So a property of builders is followed through
the edits of a call step by step. Here it is that chainable calls have no business with the table of
a query, with where the builder belongs, with whether the builder is tracked, or with the table on
which its writes are replayed.

## Main definitions

* `FluentSql.Edit.Preserves` — an edit keeps a property of builders.
* `FluentSql.Edit.Lasting` — a property that is about nothing that edits change.
* `FluentSql.Builder.standing` — what chainable calls leave of a builder.
* `FluentSql.Method.family` — the calls by what their edits are about.
* `FluentSql.Method.longForm` — the call that a short form stands for.

## Main results

* `FluentSql.Edit.preserves_bind` — edits one after the other.
* `FluentSql.Method.holds_perform`, `FluentSql.Method.banks_perform` — the edits of every call.
-/

namespace FluentSql

/-! ## What edits preserve -/

namespace Edit

section Preserves

variable {α β : Type} {I : Builder → Prop}

/-- An edit keeps a property of builders, whether it fails or not. -/
def Preserves (I : Builder → Prop) (e : ExceptT Error (StateM Builder) α) : Prop :=
  ∀ b : Builder, I b → I ((ExceptT.run e).run b).2

theorem preserves_pure (a : α) : Preserves I (pure a) := fun _ hb => hb

theorem preserves_throw (e : Error) :
    Preserves I (throw e : ExceptT Error (StateM Builder) α) := fun _ hb => hb

/-- A change of the builder. -/
theorem preserves_modify {change : Builder → Builder} (h : ∀ b, I b → I (change b)) :
    Preserves I (modify change : ExceptT Error (StateM Builder) PUnit) := h

theorem preserves_bind {e : ExceptT Error (StateM Builder) α}
    {f : α → ExceptT Error (StateM Builder) β} (he : Preserves I e)
    (hf : ∀ a, Preserves I (f a)) : Preserves I (e >>= f) := by
  intro b hb
  have hc := he b hb
  simp only [ExceptT.run_bind, StateT.run_bind]
  rcases h : StateT.run (ExceptT.run e) b with ⟨e | a, c⟩
  · rwa [h] at hc
  · rw [h] at hc
    exact hf a c hc

/-- An edit that first reads something keeps what it keeps with what is read. -/
theorem preserves_reading (x : Except Error α) {f : α → ExceptT Error (StateM Builder) β}
    (hf : ∀ a, x = .ok a → Preserves I (f a)) : Preserves I (liftM x >>= f) := by
  cases x with
  | error e => exact fun _ hb => hb
  | ok a => exact hf a rfl

/-- What extending the select list keeps is kept whether what it is extended by fails or not. -/
theorem preserves_addColumns_of {given : List Value}
    (h : Preserves I (edit fun d => { d with columns := d.columns ++ given }))
    (failure : Option Error) : Preserves I (addColumns given failure) := by
  refine preserves_bind h fun _ => ?_
  cases failure with
  | none => exact preserves_pure _
  | some e => exact preserves_throw _

end Preserves

end Edit

/-! ## What edits leave of a query -/

namespace Edit

/-- A change of a query that is not about its table and the databases that it asks for. -/
def Leaves (change : Descriptor → Descriptor) : Prop :=
  ∀ d, (change d).table = d.table ∧ (change d).banks = d.banks

/-- A property of builders that is about nothing that edits change, apart from the databases. -/
structure Lasting (I : Builder → Prop) : Prop where
  edit : ∀ {change : Descriptor → Descriptor}, Leaves change →
    ∀ b : Builder, I b → I (b.edit change)
  replaceColumns : ∀ (b : Builder) (columns : List Value), I b → I (b.replaceColumns columns)

theorem leaves_toWhere (p : Predicate) : Leaves (toWhere p) := fun _ => ⟨rfl, rfl⟩

theorem leaves_toHaving (p : Predicate) : Leaves (toHaving p) := fun _ => ⟨rfl, rfl⟩

section Lasting

variable {I : Builder → Prop} (hI : Lasting I)

include hI

theorem preserves_edit {change : Descriptor → Descriptor} (h : Leaves change) :
    Preserves I (edit change) := preserves_modify (hI.edit h)

/-- Predicates go to places that are not about the table and the databases. -/
theorem preserves_add {place : Predicate → Descriptor → Descriptor} (h : ∀ p, Leaves (place p))
    (p : Checked Predicate) : Preserves I (add place p) :=
  preserves_reading _ fun p _ => preserves_edit hI (h p)

theorem preserves_compare {place : Predicate → Descriptor → Descriptor}
    (h : ∀ p, Leaves (place p)) (column operator value : Value) (logical : Connective) :
    Preserves I (compare place column operator value logical) := preserves_add hI h _

theorem preserves_addEqualities (fs : Fields) : Preserves I (addEqualities fs) := by
  induction fs with
  | nil => exact preserves_pure ()
  | cons p rest ih =>
    rw [addEqualities]
    split
    · exact preserves_bind (preserves_compare hI leaves_toWhere _ _ _ _) fun _ => ih
    · exact ih

theorem preserves_addMember (column values : Value) (negated : Bool) (logical : Value) :
    Preserves I (addMember column values negated logical) :=
  preserves_reading _ fun _ _ => preserves_add hI leaves_toWhere _

theorem preserves_addNull (column : Value) (negated : Bool) (logical : Connective) :
    Preserves I (addNull column negated logical) := preserves_add hI leaves_toWhere _

theorem preserves_addBetween (column bounds : Value) (negated : Bool) :
    Preserves I (addBetween column bounds negated) :=
  preserves_reading _ fun (_, _) _ => preserves_add hI leaves_toWhere _

theorem preserves_like (column pattern : Value) (logical : Connective) :
    Preserves I (like column pattern logical) := preserves_compare hI leaves_toWhere _ _ _ _

theorem preserves_addColumn (first operator second logical : Value) :
    Preserves I (addColumn first operator second logical) := preserves_add hI leaves_toWhere _

theorem preserves_addRaw {place : Predicate → Descriptor → Descriptor}
    (h : ∀ p, Leaves (place p)) (sql bindings logical : Value) :
    Preserves I (addRaw place sql bindings logical) :=
  preserves_reading _ fun _ _ => preserves_add hI h _

theorem preserves_addFragment (s : Statement) : Preserves I (addFragment s) :=
  preserves_addRaw hI leaves_toWhere _ _ _

theorem preserves_addSearch (term columns : Value) : Preserves I (addSearch term columns) := by
  rw [addSearch]
  split
  · exact preserves_reading _ fun _ _ => preserves_addFragment hI _
  · exact preserves_pure ()

theorem preserves_addMoment (column : Value) (operator : String) (bound : Value) :
    Preserves I (addMoment column operator bound) := by
  unfold addMoment
  split
  · exact preserves_pure ()
  · exact preserves_addFragment hI _
  · exact preserves_throw _

theorem preserves_addColumnText (sql : Value) : Preserves I (addColumnText sql) :=
  preserves_reading _ fun _ _ => preserves_edit hI fun _ => ⟨rfl, rfl⟩

theorem preserves_addColumns (given : List Value) (failure : Option Error) :
    Preserves I (addColumns given failure) :=
  preserves_addColumns_of (preserves_edit hI fun _ => ⟨rfl, rfl⟩) failure

theorem preserves_addExpression (expression label : Value) :
    Preserves I (addExpression expression label) := preserves_addColumnText hI _

theorem preserves_addJoin (kind : JoinKind) (table condition : Value) :
    Preserves I (addJoin kind table condition) :=
  preserves_reading _ fun _ _ => preserves_edit hI fun _ => ⟨rfl, rfl⟩

theorem preserves_addSortKey (column direction : Value) :
    Preserves I (addSortKey column direction) := by
  have hkey : ∀ direction, Preserves I (do
      let k ← (Validation.sortKey [("column", column), ("direction", direction)]).toExcept
      edit fun d => { d with order := d.order ++ [k] }) := fun direction =>
    preserves_reading _ fun _ _ => preserves_edit hI fun _ => ⟨rfl, rfl⟩
  unfold addSortKey
  split
  · exact hkey _
  · exact hkey _
  · exact preserves_bind (preserves_throw _) fun _ => hkey _

theorem preserves_addSortKeys (orders : List Value) : Preserves I (addSortKeys orders) := by
  induction orders with
  | nil => exact preserves_pure ()
  | cons order orders ih =>
    refine preserves_reading _ fun _ _ => preserves_reading _ fun _ _ => ?_
    exact preserves_bind (preserves_addSortKey hI _ _) fun _ => ih

theorem preserves_addAggregate (function : AggregateFunction) (column label : Value) :
    Preserves I (addAggregate function column label) := by
  have hlabel : ∀ label, Preserves I (do
      let a ← (Validation.aggregate
        [("func", .text function.keyword), ("column", column), ("alias", label)]).toExcept
      edit fun d => { d with aggregates := d.aggregates ++ [a] }) := fun label =>
    preserves_reading _ fun _ _ => preserves_edit hI fun _ => ⟨rfl, rfl⟩
  rw [addAggregate]
  split
  · exact preserves_bind (preserves_pure _) hlabel
  · exact preserves_reading _ fun label _ => hlabel label

theorem preserves_setPage (page perPage : Value) : Preserves I (setPage page perPage) := by
  refine preserves_reading _ fun _ _ => preserves_reading _ fun _ _ => ?_
  refine preserves_bind (preserves_edit hI fun _ => ⟨rfl, rfl⟩) fun _ => ?_
  refine preserves_reading _ fun _ _ => preserves_reading _ fun _ _ => ?_
  refine preserves_reading _ fun _ _ => preserves_reading _ fun _ _ => ?_
  exact preserves_edit hI fun _ => ⟨rfl, rfl⟩

end Lasting

end Edit

/-! ## Families of calls -/

/-- The calls by what their edits are about. -/
inductive Method.Family where
  /-- The select list. -/
  | columns
  /-- Predicates that compare, or test something, by a record of their own. -/
  | comparison
  /-- Predicates that bring verbatim SQL. -/
  | fragment
  /-- Joins, sort keys, pages, groups, parts of a union, and what is said of the query as a
  whole. -/
  | layout
  /-- Aggregates. -/
  | aggregate
  /-- The queued write. -/
  | write
  /-- Short forms, and calls that hand their builder to a function: they make no edits. -/
  | indirect
  deriving DecidableEq

/-- The family of a call. -/
def Method.family : Method → Family
  | .select | .selectRaw | .aggregatesSelect | .selectExpression | .selectRowNumber => .columns
  | .where_ | .orWhere | .whereIf | .whereAll | .whereIn | .whereNotIn | .whereNull | .orWhereNull
  | .whereNotNull | .orWhereNotNull | .whereBetween | .whereNotBetween | .whereColumn
  | .whereExists | .whereNotExists | .whereLike | .orWhereLike | .whereContains | .whereStartsWith
  | .whereEndsWith | .having_ | .havingIf => .comparison
  | .whereRaw | .havingRaw | .whereRawSearch | .whereIlike | .whereContainsCi | .whereStartsWithCi
  | .whereEndsWithCi | .whereJsonContains | .whereFullText | .range | .period => .fragment
  | .setAlias | .bank | .distinct | .union_ | .unionAll | .orderBy | .orderByMany | .limit | .offset
  | .paginate | .innerJoin | .leftJoin | .rightJoin | .innerJoinOn | .leftJoinOn | .rightJoinOn
  | .groupBy => .layout
  | .count | .sum | .avg | .min | .max => .aggregate
  | .insert | .update | .delete | .increment | .decrement | .updateOrInsert => .write
  | .selectCount | .selectSum | .selectAvg | .selectMin | .selectMax | .selectCaseSum | .orWhereIn
  | .orWhereNotIn | .whereSearch | .groupByOne | .when_ | .unless_ => .indirect

/-- The edits of a call that makes none keep every property. -/
theorem Method.preserves_of_indirect {I : Builder → Prop} {m : Method} (hm : m.family = .indirect)
    (ctx : Context) (args : Arguments) : Edit.Preserves I (m.perform ctx args) := by
  cases m with
  | selectCount | selectSum | selectAvg | selectMin | selectMax | selectCaseSum | orWhereIn
  | orWhereNotIn | whereSearch | groupByOne | when_ | unless_ => exact Edit.preserves_pure ()
  | _ => cases hm

open Edit in
/-- The edits of a call keep what is about nothing that edits change, unless the call asks for
databases. -/
theorem Method.preserves_perform {I : Builder → Prop} (hI : Lasting I) (ctx : Context)
    (args : Arguments) {m : Method} (hm : m ≠ .bank) : Preserves I (m.perform ctx args) := by
  have hilike : ∀ column pattern, Preserves I (perform.ilike ctx column pattern) := fun _ _ =>
    preserves_reading _ fun _ _ => preserves_addFragment hI _
  have hjoin : ∀ kind, Preserves I (perform.joinOn args kind) := fun _ =>
    preserves_reading _ fun _ _ => preserves_reading _ fun _ _ => preserves_reading _ fun _ _ =>
      preserves_addJoin hI _ _ _
  -- A call reads its arguments and looks at them, and ends with an edit or with several.
  cases m <;> simp only [Method.perform] <;> repeat' with_reducible first
    | refine preserves_reading _ fun _ _ => ?_
    | refine preserves_bind (preserves_addMoment hI _ _ _) fun _ => ?_
    | split
    | exact preserves_pure _
    | exact preserves_compare hI leaves_toWhere _ _ _ _
    | exact preserves_compare hI leaves_toHaving _ _ _ _
    | exact preserves_addEqualities hI _
    | exact preserves_like hI _ _ _
    | exact preserves_addMember hI _ _ _ _
    | exact preserves_addColumn hI _ _ _ _
    | exact preserves_addNull hI _ _ _
    | exact preserves_addBetween hI _ _ _
    | exact preserves_addRaw hI leaves_toWhere _ _ _
    | exact preserves_addRaw hI leaves_toHaving _ _ _
    | exact preserves_addFragment hI _
    | exact preserves_addSearch hI _ _
    | exact preserves_addMoment hI _ _ _
    | exact preserves_addColumnText hI _
    | exact preserves_addColumns hI _ _
    | exact preserves_addExpression hI _ _
    | exact preserves_addJoin hI _ _ _
    | exact preserves_addSortKey hI _ _
    | exact preserves_addSortKeys hI _
    | exact preserves_addAggregate hI _ _ _
    | exact preserves_setPage hI _ _
    | exact hilike _ _
    | exact hjoin _
    | exact absurd rfl hm
  case select => exact preserves_modify fun b hb => hI.replaceColumns b _ hb
  all_goals exact preserves_edit hI fun _ => ⟨rfl, rfl⟩

/-! ## What calls leave of a builder -/

/-- What chainable calls leave of a builder: its table, where it belongs, whether it is tracked, and
the table on which its writes are replayed. -/
def Builder.standing (b : Builder) : String × Options × Bool × Table :=
  (b.table, b.options, b.tracking, b.replay)

/-- Builders that stand alike, part by part. -/
theorem Builder.standing_eq_iff {b : Builder} {table : String} {options : Options}
    {tracking : Bool} {replay : Table} :
    b.standing = (table, options, tracking, replay) ↔
      b.table = table ∧ b.options = options ∧ b.tracking = tracking ∧ b.replay = replay := by
  simp only [standing, Prod.mk.injEq]

namespace Edit

/-- An edit keeps what chainable calls leave of a builder, whether it fails or not. -/
def Holds {α : Type} (e : ExceptT Error (StateM Builder) α) : Prop :=
  ∀ b : Builder, ((ExceptT.run e).run b).2.standing = b.standing

/-- How a builder stands is about nothing that edits change. -/
theorem lasting_standing (left : String × Options × Bool × Table) :
    Lasting fun b => b.standing = left where
  edit h b hb := (congrArg (fun table => (table, b.options, b.tracking, b.replay))
    (h b.descriptor).1).trans hb
  replaceColumns _ _ hb := hb

/-- The databases that a query asks for are about nothing that edits change. -/
theorem lasting_banks (banks : Option (List Value)) :
    Lasting fun b => b.descriptor.banks = banks where
  edit h b hb := (h b.descriptor).2.trans hb
  replaceColumns _ _ hb := hb

end Edit

open Edit in
/-- The edits of a call keep what chainable calls leave of a builder.

**Proof sketch.** All calls but one are made of edits that change the query alone, and leave its
table and its databases. The call that asks for databases changes these, which are no part of how
the builder stands either. -/
theorem Method.holds_perform (ctx : Context) (args : Arguments) (m : Method) :
    Holds (m.perform ctx args) := by
  by_cases hm : m = .bank
  · subst hm
    have hbank : ∀ left, Preserves (fun b => b.standing = left) (perform ctx args .bank) :=
      fun left => preserves_reading _ fun _ _ => preserves_reading _ fun _ _ =>
        preserves_modify fun _ hb => hb
    exact fun b => hbank _ b rfl
  · exact fun b => preserves_perform (lasting_standing _) ctx args hm b rfl

/-- The edits of a call leave the databases that a query asks for, unless the call asks for
databases. -/
theorem Method.banks_perform (ctx : Context) (args : Arguments) {m : Method} (hm : m ≠ .bank)
    (b : Builder) : ((m.perform ctx args).run b).2.descriptor.banks = b.descriptor.banks :=
  preserves_perform (Edit.lasting_banks _) ctx args hm b rfl

/-! ## Short forms -/

namespace Method

/-- The call that a short form stands for; any other call stands for itself. -/
def longForm : Method → Method
  | .selectCount | .selectSum | .selectAvg | .selectMin | .selectMax | .selectCaseSum =>
    .selectExpression
  | .orWhereIn => .whereIn
  | .orWhereNotIn => .whereNotIn
  | .whereSearch => .whereRawSearch
  | .groupByOne => .groupBy
  | m => m

/-- The call that is meant does not depend on the arguments. -/
theorem eq_longForm_of_expand {m meant : Method} {args given : Arguments}
    (h : m.expand args = .ok (meant, given)) : meant = m.longForm := by
  cases m <;> simp only [expand, selectAggregate, map_eq_ok, bind_eq_ok, pure_eq_ok,
    Except.ok.injEq, Prod.mk.injEq] at h <;> grind [longForm]

end Method

/-! ## The query that a call is handed -/

/-- The query that a call was handed is that of its surroundings. -/
theorem Context.query_eq_of_queryOf {ctx : Context} {field : String} {v : Value} {q : Descriptor}
    (h : ctx.queryOf field v = .ok q) : ctx.query = some q := by
  rw [queryOf.eq_def] at h
  split at h
  · next hquery => cases h; exact hquery
  all_goals cases h

end FluentSql
