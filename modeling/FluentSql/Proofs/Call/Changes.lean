import FluentSql.Proofs.Call.Preserving

set_option autoImplicit false

/-!
# What edits change

Whatever builder a call is made on, it makes the same changes one after the other, and comes to the
same outcome: what it does is decided by its arguments and its surroundings alone. Every change is
to one field of the query. Lists of predicates, joins, sort keys, aggregates and parts of a union
only grow at their end, and no change reads any field but its own.

A call that checks what it was given does so before it changes anything; so if it fails it has
changed nothing, unless it is one that makes several changes with checks in between. The one call
that extends the select list checks nothing: it adds what an iterable gives as it gives it, and if
the iterable fails, what it gave until then stays.

## Main definitions

* `FluentSql.Descriptor.Field` — the fields of a query that calls change.
* `FluentSql.Change` — one change; `field` is the field that it is to, and `apply` makes it.
* `FluentSql.Builder.after` — a builder after changes.
* `FluentSql.Edit.Plans` — an edit makes changes to some fields, and none if it fails.
* `FluentSql.Method.fields` — the fields that a call may change.
* `FluentSql.Method.composite` — the calls that check between their changes.
* `FluentSql.Method.checksFirst` — the calls that check before they change anything.

## Main results

* `FluentSql.Method.plans_perform` — what every call does.
* `FluentSql.Method.run_edits_of_fails` — what a call leaves that makes no others and fails.
-/

namespace FluentSql

/-! ## Changes -/

/-- The fields of a query that calls change. -/
inductive Descriptor.Field where
  | columns | wheres | havings | joins | order | groups | limit | offset | aggregates | unions
  | tableAlias | distinct | pending | banks
  deriving DecidableEq, Repr

/-- What an edit does to the query of a builder in one go. -/
inductive Change where
  | addColumns (items : List Value)
  | replaceColumns (items : List Value)
  | addWhere (p : Predicate)
  | addHaving (p : Predicate)
  | addJoin (j : Join)
  | addSortKey (k : SortKey)
  | setGroups (names : List String)
  | setLimit (count : Value)
  | setOffset (count : Value)
  | addAggregate (a : Aggregate)
  | addUnion (part : UnionPart)
  | setAlias (name : Value)
  | setDistinct
  | queue (action : PendingAction)
  | setBanks (names : List Value)

namespace Change

/-- The field that a change is to. -/
def field : Change → Descriptor.Field
  | .addColumns _ | .replaceColumns _ => .columns
  | .addWhere _ => .wheres
  | .addHaving _ => .havings
  | .addJoin _ => .joins
  | .addSortKey _ => .order
  | .setGroups _ => .groups
  | .setLimit _ => .limit
  | .setOffset _ => .offset
  | .addAggregate _ => .aggregates
  | .addUnion _ => .unions
  | .setAlias _ => .tableAlias
  | .setDistinct => .distinct
  | .queue _ => .pending
  | .setBanks _ => .banks

/-- A builder with a change made. -/
def apply (b : Builder) : Change → Builder
  | .addColumns items => b.edit fun d => { d with columns := d.columns ++ items }
  | .replaceColumns items => b.replaceColumns items
  | .addWhere p => b.edit (Edit.toWhere p)
  | .addHaving p => b.edit (Edit.toHaving p)
  | .addJoin j => b.edit fun d => { d with joins := d.joins ++ [j] }
  | .addSortKey k => b.edit fun d => { d with order := d.order ++ [k] }
  | .setGroups names => b.edit fun d => { d with groups := names }
  | .setLimit count => b.edit fun d => { d with limit := count }
  | .setOffset count => b.edit fun d => { d with offset := count }
  | .addAggregate a => b.edit fun d => { d with aggregates := d.aggregates ++ [a] }
  | .addUnion part => b.edit fun d => { d with unions := d.unions ++ [part] }
  | .setAlias name => b.edit fun d => { d with tableAlias := name }
  | .setDistinct => b.edit fun d => { d with distinct := true }
  | .queue action => b.edit fun d => { d with pending := some action }
  | .setBanks names => b.edit fun d => { d with banks := some names }

end Change

/-- A builder after changes, one after the other. -/
def Builder.after (changes : List Change) (b : Builder) : Builder := changes.foldl Change.apply b

/-! ## Fields by themselves -/

/-- Two builders have the same in a field of their queries. Of a select list these are also the
lists in whose place it stands. -/
def Descriptor.Field.Same : Descriptor.Field → Builder → Builder → Prop
  | .columns, b, c =>
    b.descriptor.columns = c.descriptor.columns ∧ b.formerColumns = c.formerColumns
  | .wheres, b, c => b.descriptor.wheres = c.descriptor.wheres
  | .havings, b, c => b.descriptor.havings = c.descriptor.havings
  | .joins, b, c => b.descriptor.joins = c.descriptor.joins
  | .order, b, c => b.descriptor.order = c.descriptor.order
  | .groups, b, c => b.descriptor.groups = c.descriptor.groups
  | .limit, b, c => b.descriptor.limit = c.descriptor.limit
  | .offset, b, c => b.descriptor.offset = c.descriptor.offset
  | .aggregates, b, c => b.descriptor.aggregates = c.descriptor.aggregates
  | .unions, b, c => b.descriptor.unions = c.descriptor.unions
  | .tableAlias, b, c => b.descriptor.tableAlias = c.descriptor.tableAlias
  | .distinct, b, c => b.descriptor.distinct = c.descriptor.distinct
  | .pending, b, c => b.descriptor.pending = c.descriptor.pending
  | .banks, b, c => b.descriptor.banks = c.descriptor.banks

namespace Descriptor.Field

variable {f : Descriptor.Field} {b c d : Builder}

theorem Same.refl (f : Descriptor.Field) (b : Builder) : f.Same b b := by
  cases f <;> first | rfl | exact ⟨rfl, rfl⟩

theorem Same.trans (h : f.Same b c) (h' : f.Same c d) : f.Same b d := by
  cases f <;> first | exact Eq.trans h h' | exact ⟨h.1.trans h'.1, h.2.trans h'.2⟩

theorem Same.symm (h : f.Same b c) : f.Same c b := by
  cases f <;> first | exact Eq.symm h | exact ⟨h.1.symm, h.2.symm⟩

end Descriptor.Field

namespace Change

variable {f : Descriptor.Field} {b c : Builder}

/-- A change leaves every field but its own. -/
theorem same_apply_of_ne (change : Change) (h : change.field ≠ f) (b : Builder) :
    f.Same b (change.apply b) := by
  cases change <;> cases f <;> first | exact absurd rfl h | rfl | exact ⟨rfl, rfl⟩

/-- What a change makes of a field depends on that field alone. -/
theorem same_apply (change : Change) (h : f.Same b c) :
    f.Same (change.apply b) (change.apply c) := by
  by_cases hf : change.field = f
  · subst hf
    cases change with
    | addColumns items => exact ⟨congrArg (· ++ items) h.1, h.2⟩
    | replaceColumns items =>
      have hformer : b.formerColumns ++ [b.descriptor.columns] =
          c.formerColumns ++ [c.descriptor.columns] := by rw [h.1, h.2]
      exact ⟨rfl, hformer⟩
    | addWhere p => exact congrArg (· ++ [p]) h
    | addHaving p => exact congrArg (· ++ [p]) h
    | addJoin j => exact congrArg (· ++ [j]) h
    | addSortKey k => exact congrArg (· ++ [k]) h
    | addAggregate a => exact congrArg (· ++ [a]) h
    | addUnion part => exact congrArg (· ++ [part]) h
    | _ => rfl
  · exact ((change.same_apply_of_ne hf b).symm.trans h).trans (change.same_apply_of_ne hf c)

end Change

namespace Builder

variable {f : Descriptor.Field} {b c : Builder}

/-- What changes make of a field depends on that field alone. -/
theorem same_after (changes : List Change) (h : f.Same b c) :
    f.Same (b.after changes) (c.after changes) := by
  induction changes generalizing b c with
  | nil => exact h
  | cons change changes ih => exact ih (change.same_apply h)

/-- Changes to other fields leave a field. -/
theorem same_after_of_forall_ne {changes : List Change} (h : ∀ c ∈ changes, c.field ≠ f)
    (b : Builder) : f.Same b (b.after changes) := by
  induction changes generalizing b with
  | nil => exact .refl f b
  | cons change changes ih =>
    obtain ⟨hchange, hchanges⟩ := List.forall_mem_cons.mp h
    exact (change.same_apply_of_ne hchange b).trans (ih hchanges _)

/-- What changes leave of a builder: how it stands, its log and its depth. -/
theorem after_eq (changes : List Change) (b : Builder) :
    ∃ descriptor formerColumns, b.after changes = { b with descriptor, formerColumns } ∧
      descriptor.table = b.descriptor.table := by
  induction changes generalizing b with
  | nil => exact ⟨_, _, rfl, rfl⟩
  | cons change changes ih =>
    obtain ⟨descriptor, formerColumns, hafter, htable⟩ := ih (change.apply b)
    refine ⟨descriptor, formerColumns, ?_, ?_⟩
    · rw [after, List.foldl_cons, ← after, hafter]
      cases change <;> rfl
    · rw [htable]
      cases change <;> rfl

/-- The log and the depth of a builder are no matter for changes. -/
theorem after_logged (changes : List Change) (b : Builder) (log : List LogEntry) (depth : Nat) :
    { b with log, depth }.after changes = { b.after changes with log, depth } := by
  induction changes generalizing b with
  | nil => rfl
  | cons change changes ih =>
    have happly : change.apply { b with log, depth } = { change.apply b with log, depth } := by
      cases change <;> rfl
    rw [after, List.foldl_cons, happly, ← after, ih]
    rfl

/-- What changes make of a query has nothing to do with the rest of the builder. -/
theorem descriptor_after (changes : List Change) (h : b.descriptor = c.descriptor) :
    (b.after changes).descriptor = (c.after changes).descriptor := by
  induction changes generalizing b c with
  | nil => exact h
  | cons change changes ih =>
    refine ih ?_
    cases change <;> simp only [Change.apply, edit, replaceColumns, h]

/-- Builders with the same in all fields, and the same besides, are the same. -/
theorem eq_of_same (hfields : ∀ f : Descriptor.Field, f.Same b c) (htable : b.table = c.table)
    (hrest : { b with descriptor := c.descriptor, formerColumns := c.formerColumns } = c) :
    b = c := by
  have hdescriptor : b.descriptor = c.descriptor := by
    have hcolumns := (hfields .columns).1
    have hwheres : b.descriptor.wheres = c.descriptor.wheres := hfields .wheres
    have hhavings : b.descriptor.havings = c.descriptor.havings := hfields .havings
    have hjoins : b.descriptor.joins = c.descriptor.joins := hfields .joins
    have horder : b.descriptor.order = c.descriptor.order := hfields .order
    have hgroups : b.descriptor.groups = c.descriptor.groups := hfields .groups
    have hlimit : b.descriptor.limit = c.descriptor.limit := hfields .limit
    have hoffset : b.descriptor.offset = c.descriptor.offset := hfields .offset
    have haggregates : b.descriptor.aggregates = c.descriptor.aggregates := hfields .aggregates
    have hunions : b.descriptor.unions = c.descriptor.unions := hfields .unions
    have halias : b.descriptor.tableAlias = c.descriptor.tableAlias := hfields .tableAlias
    have hdistinct : b.descriptor.distinct = c.descriptor.distinct := hfields .distinct
    have hpending : b.descriptor.pending = c.descriptor.pending := hfields .pending
    have hbanks : b.descriptor.banks = c.descriptor.banks := hfields .banks
    rw [table, table] at htable
    -- a query is told by its parts
    generalize b.descriptor = d at *
    generalize c.descriptor = e at *
    cases d
    cases e
    simp_all only
  rw [← hrest, ← hdescriptor, ← (hfields .columns).2]

end Builder

/-! ## The changes of an edit -/

namespace Edit

/-- An edit makes some changes and comes to an outcome, whatever builder it is carried out on. -/
def Makes (e : Edit Unit) (changes : List Change) (outcome : Except Error Unit) : Prop :=
  ∀ b, e.run b = (outcome, b.after changes)

/-- An edit makes the same changes on every builder, all of them to some fields, and comes to the
same outcome; a whole one makes no change if it fails. -/
def Plans (fields : List Descriptor.Field) (whole : Bool) (e : Edit Unit) : Prop :=
  ∃ changes outcome, Makes e changes outcome ∧ (∀ c ∈ changes, c.field ∈ fields) ∧
    (whole = true → ∀ error, outcome = .error error → changes = [])

section Plans

variable {α : Type} {fields : List Descriptor.Field} {whole : Bool}

theorem plans_pure : Plans fields whole (pure ()) :=
  ⟨[], .ok (), fun _ => rfl, by simp, fun _ _ _ => rfl⟩

theorem plans_throw (e : Error) : Plans fields whole (throw e) :=
  ⟨[], .error e, fun _ => rfl, by simp, fun _ _ _ => rfl⟩

/-- What follows a failure makes no change. -/
theorem plans_throw_bind (e : Error) (f : α → Edit Unit) :
    Plans fields whole ((throw e : ExceptT Error (StateM Builder) α) >>= f) :=
  ⟨[], .error e, fun _ => rfl, by simp, fun _ _ _ => rfl⟩

/-- A single change. -/
theorem plans_change (c : Change) (hc : c.field ∈ fields) :
    Plans fields whole (modify fun b => c.apply b) := by
  refine ⟨[c], .ok (), fun _ => rfl, by simpa using hc, fun _ error herror => ?_⟩
  cases herror

/-- An edit that first reads something makes the changes of what it does with that, or none. -/
theorem plans_reading (x : Except Error α) {f : α → Edit Unit}
    (hf : ∀ a, x = .ok a → Plans fields whole (f a)) : Plans fields whole (liftM x >>= f) := by
  cases x with
  | error e => exact plans_throw e
  | ok a => exact hf a rfl

/-- Edits one after the other. -/
theorem plans_bind {e : Edit Unit} {f : Unit → Edit Unit} (he : Plans fields false e)
    (hf : Plans fields false (f ())) : Plans fields false (e >>= f) := by
  obtain ⟨changes, outcome, hmakes, hfields, -⟩ := he
  obtain ⟨changes', outcome', hmakes', hfields', -⟩ := hf
  have hrun : ∀ b, (e >>= f).run b =
      match e.run b with
      | (.ok (), c) => (f ()).run c
      | (.error error, c) => (.error error, c) := by
    intro b
    simp only [Edit.run, ExceptT.run_bind, StateT.run_bind]
    rcases StateT.run (ExceptT.run e) b with ⟨_ | _, c⟩ <;> rfl
  cases outcome with
  | error error =>
    refine ⟨changes, .error error, fun b => ?_, hfields, nofun⟩
    rw [hrun, hmakes]
  | ok _ =>
    refine ⟨changes ++ changes', outcome', fun b => ?_, ?_, nofun⟩
    · rw [hrun, hmakes]
      dsimp only
      rw [hmakes', Builder.after, Builder.after, Builder.after, List.foldl_append]
    · exact List.forall_mem_append.mpr ⟨hfields, hfields'⟩

/-! ### Predicates -/

/-- A place for predicates is a list of a query that grows. -/
def Places (place : Predicate → Descriptor → Descriptor) (field : Descriptor.Field) : Prop :=
  ∃ change : Predicate → Change, (∀ p, edit (place p) = modify fun b => (change p).apply b) ∧
    ∀ p, (change p).field = field

theorem places_toWhere : Places toWhere .wheres := ⟨.addWhere, fun _ => rfl, fun _ => rfl⟩

theorem places_toHaving : Places toHaving .havings := ⟨.addHaving, fun _ => rfl, fun _ => rfl⟩

section Place

variable {place : Predicate → Descriptor → Descriptor} {field : Descriptor.Field}
  (hplace : Places place field) (hfield : field ∈ fields)

include hplace hfield

theorem plans_add (p : Checked Predicate) : Plans fields whole (add place p) := by
  obtain ⟨change, hchange, hto⟩ := hplace
  refine plans_reading _ fun p _ => ?_
  rw [hchange]
  exact plans_change (change p) (hto p ▸ hfield)

theorem plans_compare (column operator value : Value) (logical : Connective) :
    Plans fields whole (compare place column operator value logical) :=
  plans_add hplace hfield _

theorem plans_addRaw (sql bindings logical : Value) :
    Plans fields whole (addRaw place sql bindings logical) :=
  plans_reading _ fun _ _ => plans_add hplace hfield _

end Place

section Wheres

variable (hwheres : .wheres ∈ fields)

include hwheres

theorem plans_addEqualities (fs : Fields) : Plans fields false (addEqualities fs) := by
  induction fs with
  | nil => exact plans_pure
  | cons p rest ih =>
    rw [addEqualities]
    split
    · exact plans_bind (plans_compare places_toWhere hwheres _ _ _ _) ih
    · exact ih

theorem plans_addMember (column values : Value) (negated : Bool) (logical : Value) :
    Plans fields whole (addMember column values negated logical) :=
  plans_reading _ fun _ _ => plans_add places_toWhere hwheres _

theorem plans_addNull (column : Value) (negated : Bool) (logical : Connective) :
    Plans fields whole (addNull column negated logical) := plans_add places_toWhere hwheres _

theorem plans_addBetween (column bounds : Value) (negated : Bool) :
    Plans fields whole (addBetween column bounds negated) :=
  plans_reading _ fun _ _ => plans_add places_toWhere hwheres _

theorem plans_like (column pattern : Value) (logical : Connective) :
    Plans fields whole (like column pattern logical) :=
  plans_compare places_toWhere hwheres _ _ _ _

theorem plans_addColumn (first operator second logical : Value) :
    Plans fields whole (addColumn first operator second logical) :=
  plans_add places_toWhere hwheres _

theorem plans_addFragment (s : Statement) : Plans fields whole (addFragment s) :=
  plans_addRaw places_toWhere hwheres _ _ _

theorem plans_addExists (query : Descriptor) (negated : Bool) :
    Plans fields whole (addExists query negated) := plans_change (.addWhere _) hwheres

theorem plans_addSearch (term columns : Value) : Plans fields whole (addSearch term columns) := by
  rw [addSearch]
  split
  · exact plans_reading _ fun _ _ => plans_addFragment hwheres _
  · exact plans_pure

theorem plans_addMoment (column : Value) (operator : String) (bound : Value) :
    Plans fields whole (addMoment column operator bound) := by
  unfold addMoment
  split
  · exact plans_pure
  · exact plans_addFragment hwheres _
  · exact plans_throw _

end Wheres

/-! ### Other fields -/

theorem plans_addColumnText (hcolumns : .columns ∈ fields) (sql : Value) :
    Plans fields whole (addColumnText sql) :=
  plans_reading _ fun item _ => plans_change (.addColumns [item]) hcolumns

/-- What an iterable gives is added before it is known whether the iterable fails. -/
theorem plans_addColumns (hcolumns : .columns ∈ fields) (given : List Value)
    (failure : Option Error) : Plans fields false (addColumns given failure) := by
  refine plans_bind (plans_change (.addColumns given) hcolumns) ?_
  cases failure with
  | none => exact plans_pure
  | some e => exact plans_throw e

theorem plans_addExpression (hcolumns : .columns ∈ fields) (expression label : Value) :
    Plans fields whole (addExpression expression label) := plans_addColumnText hcolumns _

theorem plans_addJoin (hjoins : .joins ∈ fields) (kind : JoinKind) (table condition : Value) :
    Plans fields whole (addJoin kind table condition) :=
  plans_reading _ fun j _ => plans_change (.addJoin j) hjoins

theorem plans_addSortKey (horder : .order ∈ fields) (column direction : Value) :
    Plans fields whole (addSortKey column direction) := by
  have hkey : ∀ direction, Plans fields whole (do
      let k ← (Validation.sortKey [("column", column), ("direction", direction)]).toExcept
      edit fun d => { d with order := d.order ++ [k] }) := fun direction =>
    plans_reading _ fun k _ => plans_change (.addSortKey k) horder
  unfold addSortKey
  split
  · exact hkey _
  · exact hkey _
  · exact plans_throw_bind _ _

theorem plans_addSortKeys (horder : .order ∈ fields) (orders : List Value) :
    Plans fields false (addSortKeys orders) := by
  induction orders with
  | nil => exact plans_pure
  | cons order orders ih =>
    refine plans_reading _ fun column _ => plans_reading _ fun direction _ => ?_
    exact plans_bind (plans_addSortKey horder _ _) ih

theorem plans_addAggregate (haggregates : .aggregates ∈ fields) (function : AggregateFunction)
    (column label : Value) : Plans fields whole (addAggregate function column label) := by
  have hlabel : ∀ label, Plans fields whole (do
      let a ← (Validation.aggregate
        [("func", .text function.keyword), ("column", column), ("alias", label)]).toExcept
      edit fun d => { d with aggregates := d.aggregates ++ [a] }) := fun label =>
    plans_reading _ fun a _ => plans_change (.addAggregate a) haggregates
  rw [addAggregate]
  split
  · rw [pure_bind]
    exact hlabel label
  · exact plans_reading _ fun label _ => hlabel label

theorem plans_addUnion (hunions : .unions ∈ fields) (operator : SetOperator) (query : Descriptor) :
    Plans fields whole (addUnion operator query) := plans_change (.addUnion _) hunions

theorem plans_setPage (hlimit : .limit ∈ fields) (hoffset : .offset ∈ fields)
    (page perPage : Value) : Plans fields false (setPage page perPage) := by
  refine plans_reading _ fun page _ => plans_reading _ fun perPage _ => ?_
  refine plans_bind (plans_change (.setLimit perPage) hlimit) ?_
  refine plans_reading _ fun _ _ => plans_reading _ fun _ _ => ?_
  refine plans_reading _ fun _ _ => plans_reading _ fun offset _ => ?_
  exact plans_change (.setOffset offset.toValue) hoffset

theorem plans_queue (hpending : .pending ∈ fields) (kind : WriteKind) (data : Value) :
    Plans fields whole (queue kind data) := plans_change (.queue _) hpending

end Plans

section Uniform

variable {fields : List Descriptor.Field} {whole : Bool} {e : Edit Unit} (h : Plans fields whole e)

include h

/-- The outcome of an edit has nothing to do with the builder. -/
theorem Plans.outcome_eq (b c : Builder) : (e.run b).1 = (e.run c).1 := by
  obtain ⟨changes, outcome, hmakes, -⟩ := h
  rw [hmakes, hmakes]

/-- What an edit makes of a field depends on that field alone. -/
theorem Plans.same {f : Descriptor.Field} {b c : Builder} (hbc : f.Same b c) :
    f.Same (e.run b).2 (e.run c).2 := by
  obtain ⟨changes, outcome, hmakes, -⟩ := h
  rw [hmakes, hmakes]
  exact Builder.same_after changes hbc

/-- An edit leaves the fields that are not its own. -/
theorem Plans.same_of_notMem {f : Descriptor.Field} (hf : f ∉ fields) (b : Builder) :
    f.Same b (e.run b).2 := by
  obtain ⟨changes, outcome, hmakes, hfields, -⟩ := h
  rw [hmakes]
  refine Builder.same_after_of_forall_ne (fun c hc => ?_) b
  rintro rfl
  exact hf (hfields c hc)

/-- What an edit leaves of a builder: how it stands, its log and its depth. -/
theorem Plans.run_eq (b : Builder) :
    ∃ descriptor formerColumns, (e.run b).2 = { b with descriptor, formerColumns } ∧
      descriptor.table = b.descriptor.table := by
  obtain ⟨changes, outcome, hmakes, -⟩ := h
  rw [hmakes]
  exact Builder.after_eq changes b

/-- What an edit makes of a query has nothing to do with the rest of the builder. -/
theorem Plans.descriptor_eq {b c : Builder} (hbc : b.descriptor = c.descriptor) :
    (e.run b).2.descriptor = (e.run c).2.descriptor := by
  obtain ⟨changes, outcome, hmakes, -⟩ := h
  rw [hmakes, hmakes]
  exact Builder.descriptor_after changes hbc

/-- The log and the depth of a builder are no matter for an edit. -/
theorem Plans.run_logged (b : Builder) (log : List LogEntry) (depth : Nat) :
    e.run { b with log, depth } = ((e.run b).1, { (e.run b).2 with log, depth }) := by
  obtain ⟨changes, outcome, hmakes, -⟩ := h
  rw [hmakes, hmakes, Builder.after_logged]

end Uniform

end Edit

namespace Method

/-- The fields that a call may change. -/
def fields : Method → List Descriptor.Field
  | .select | .selectRaw | .aggregatesSelect | .selectExpression | .selectCount | .selectSum
  | .selectAvg | .selectMin | .selectMax | .selectCaseSum | .selectRowNumber => [.columns]
  | .distinct => [.distinct]
  | .setAlias => [.tableAlias]
  | .bank => [.banks]
  | .where_ | .orWhere | .whereIf | .whereAll | .whereIn | .orWhereIn | .whereNotIn | .orWhereNotIn
  | .whereNull | .orWhereNull | .whereNotNull | .orWhereNotNull | .whereBetween | .whereNotBetween
  | .whereColumn | .whereRaw | .whereRawSearch | .whereSearch | .whereExists | .whereNotExists
  | .whereLike | .orWhereLike | .whereContains | .whereStartsWith | .whereEndsWith
  | .whereIlike | .whereContainsCi | .whereStartsWithCi | .whereEndsWithCi
  | .whereJsonContains | .whereFullText | .range | .period => [.wheres]
  | .when_ | .unless_ => []
  | .union_ | .unionAll => [.unions]
  | .orderBy | .orderByMany => [.order]
  | .limit => [.limit]
  | .offset => [.offset]
  | .paginate => [.limit, .offset]
  | .innerJoin | .leftJoin | .rightJoin | .innerJoinOn | .leftJoinOn | .rightJoinOn => [.joins]
  | .groupBy | .groupByOne => [.groups]
  | .having_ | .havingRaw | .havingIf => [.havings]
  | .count | .sum | .avg | .min | .max => [.aggregates]
  | .insert | .update | .delete | .increment | .decrement | .updateOrInsert => [.pending]

/-- Whether a call makes other calls one after the other, or hands the builder to a function: such a
call may fail after it has made some changes. -/
def composite : Method → Bool
  | .whereAll | .range | .orderByMany | .paginate | .when_ | .unless_ => true
  | _ => false

/-- Whether a call checks everything before it changes anything: it makes no other calls, and does
not take from an iterable what that gives until it fails. -/
def checksFirst : Method → Bool
  | .aggregatesSelect => false
  | m => !m.composite

open Edit in
/-- A call makes the same changes on every builder, to its own fields alone, and comes to the same
outcome; one that checks first has changed nothing if it fails.

**Proof sketch.** Call by call. Each one reads its arguments, whatever the builder, and ends with a
change to its field that may be preceded by a check of the record that it adds. -/
theorem plans_perform (ctx : Context) (args : Arguments) (m : Method) :
    Plans m.fields m.checksFirst (m.perform ctx args) := by
  have hilike : ∀ {whole} column pattern,
      Plans [.wheres] whole (perform.ilike ctx column pattern) := fun _ _ =>
    plans_reading _ fun _ _ => plans_addFragment List.mem_cons_self _
  have hjoin : ∀ {whole} kind, Plans [.joins] whole (perform.joinOn args kind) := fun _ =>
    plans_reading _ fun _ _ => plans_reading _ fun _ _ => plans_reading _ fun _ _ =>
      plans_addJoin List.mem_cons_self _ _ _
  -- A call reads its arguments and looks at them, and ends with an edit or with several.
  cases m <;> simp only [Method.perform, Method.fields, checksFirst, composite, Bool.not_true,
      Bool.not_false] <;> repeat' with_reducible first
    | refine plans_reading _ fun _ _ => ?_
    | refine plans_bind (plans_addMoment (by decide) _ _ _) ?_
    | split
    | exact plans_pure
    | exact plans_compare places_toWhere (by decide) _ _ _ _
    | exact plans_compare places_toHaving (by decide) _ _ _ _
    | exact plans_addEqualities (by decide) _
    | exact plans_like (by decide) _ _ _
    | exact plans_addMember (by decide) _ _ _ _
    | exact plans_addColumn (by decide) _ _ _ _
    | exact plans_addNull (by decide) _ _ _
    | exact plans_addBetween (by decide) _ _ _
    | exact plans_addRaw places_toWhere (by decide) _ _ _
    | exact plans_addRaw places_toHaving (by decide) _ _ _
    | exact plans_addFragment (by decide) _
    | exact plans_addExists (by decide) _ _
    | exact plans_addSearch (by decide) _ _
    | exact plans_addMoment (by decide) _ _ _
    | exact plans_addColumnText (by decide) _
    | exact plans_addExpression (by decide) _ _
    | exact plans_addJoin (by decide) _ _ _
    | exact plans_addSortKey (by decide) _ _
    | exact plans_addSortKeys (by decide) _
    | exact plans_addAggregate (by decide) _ _ _
    | exact plans_addUnion (by decide) _ _
    | exact plans_setPage (by decide) (by decide) _ _
    | exact plans_queue (by decide) _ _
    | exact hilike _ _
    | exact hjoin _
  case select => exact plans_change (.replaceColumns _) List.mem_cons_self
  case aggregatesSelect => exact plans_addColumns List.mem_cons_self _ _
  case distinct => exact plans_change .setDistinct List.mem_cons_self
  case setAlias => exact plans_change (.setAlias _) List.mem_cons_self
  case bank => exact plans_change (.setBanks _) List.mem_cons_self
  case limit => exact plans_change (.setLimit _) List.mem_cons_self
  case offset => exact plans_change (.setOffset _) List.mem_cons_self
  case groupBy => exact plans_change (.setGroups _) List.mem_cons_self

/-- The edits of a call as it is written: those of the call that is meant, if its arguments are for
it. -/
def edits (ctx : Context) (m : Method) (args : Arguments) : Edit Unit := do
  let (meant, given) ← m.expand args
  if !m.accepts args then throw .wrongType
  meant.perform ctx given

section Edits

variable {ctx : Context} {m meant : Method} {args given : Arguments}

/-- A call whose arguments are right makes the edits of the call that is meant. -/
theorem edits_of_accepts (h : m.expand args = .ok (meant, given))
    (hfit : m.accepts args = true) : m.edits ctx args = meant.perform ctx given := by
  rw [edits, h]
  exact if_neg (by simp [hfit])

/-- A call with an argument of no parameter fails at once. -/
theorem run_edits_of_not_accepts (h : m.expand args = .ok (meant, given))
    (hfit : m.accepts args = false) (b : Builder) :
    (m.edits ctx args).run b = (.error .wrongType, b) := by
  have hthrow : m.edits ctx args =
      (throw .wrongType : Edit PUnit) >>= fun _ => meant.perform ctx given := by
    rw [edits, h]
    exact if_pos (by simp [hfit])
  rw [hthrow]
  rfl

/-- A short form without the arguments that it needs fails at once. -/
theorem run_edits_of_error {e : Error} (h : m.expand args = .error e) (b : Builder) :
    (m.edits ctx args).run b = (.error e, b) := by
  rw [edits, h]
  rfl

end Edits

/-- A short form changes the fields of the call that is meant. -/
theorem fields_longForm (m : Method) : m.longForm.fields = m.fields := by
  cases m <;> rfl

/-- A short form checks first if the call that is meant does. -/
theorem checksFirst_longForm (m : Method) : m.longForm.checksFirst = m.checksFirst := by
  cases m <;> rfl

/-- A call as it is written makes the same changes on every builder. -/
theorem plans_edits (ctx : Context) (m : Method) (args : Arguments) :
    Edit.Plans m.fields m.checksFirst (m.edits ctx args) := by
  refine Edit.plans_reading _ fun expanded hexpanded => ?_
  obtain ⟨meant, given⟩ := expanded
  obtain rfl : meant = m.longForm := eq_longForm_of_expand hexpanded
  have hmeant : Edit.Plans m.fields m.checksFirst (m.longForm.perform ctx given) := by
    rw [← fields_longForm, ← checksFirst_longForm]
    exact plans_perform ctx given m.longForm
  dsimp only
  split
  · exact Edit.plans_throw_bind _ _
  · exact hmeant

end Method

end FluentSql
