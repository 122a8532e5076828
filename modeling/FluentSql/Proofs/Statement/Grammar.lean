import FluentSql.Proofs.Descriptor.Typed
import FluentSql.Proofs.Statement.Terminals

set_option autoImplicit false

/-!
# The grammar of statements

A statement selects items from a table with joins, conditions and groups; set operators combine it
with others, and it ends with an order, a limit and an offset. A condition is predicates joined by
connectives, and a predicate may hold a statement. Verbatim texts are opaque. Which operators may
stand between two operands is a parameter: with every operator admitted, the grammar derives what
typed queries are written as.

## Main definitions

* `FluentSql.Operator.compares` — the operators that compare two operands.
* `FluentSql.Grammar.IsPredicate`, …, `FluentSql.Grammar.IsStatement` — the grammar.

## Main results

* `FluentSql.Grammar.isBody_bodyTerminals` — what typed queries are written as is derived.
-/

namespace FluentSql

namespace Operator

/-- Whether an operator compares two operands. The others are written with operands of their own: a
list, two bounds, or none. -/
def compares : Operator → Bool
  | .eq | .ne | .differs | .gt | .ge | .lt | .le | .like | .notLike => true
  | .isIn | .notIn | .between | .notBetween | .isNull | .isNotNull => false

end Operator

namespace Grammar

/-! ## Parts without predicates -/

/-- Nothing, or a part. -/
inductive IsOptional (part : List Terminal → Prop) : List Terminal → Prop
  | none : IsOptional part []
  | some {ts : List Terminal} (h : part ts) : IsOptional part ts

/-- One or more parts with commas between them. -/
inductive IsListed (part : List Terminal → Prop) : List Terminal → Prop
  | one {ts : List Terminal} (h : part ts) : IsListed part ts
  | more {ts us : List Terminal} (h : part ts) (hrest : IsListed part us) :
    IsListed part (ts ++ .word "," :: .blank :: us)

/-- A text that is taken over verbatim. -/
def IsAtom (ts : List Terminal) : Prop := ∃ a, ts = [.atom a]

/-- The mark of a bound value. -/
def IsMark (ts : List Terminal) : Prop := ts = [.mark]

/-- What is selected: every column, an aggregate, or items. -/
inductive IsItems : List Terminal → Prop
  | every : IsItems [.word "*"]
  | aggregate (function : AggregateFunction) (column label : String) :
    IsItems [.word function.sql, .word "(", .atom column, .word ")", .blank, .word "AS", .blank,
      .atom label]
  | items {ts : List Terminal} (h : IsListed IsAtom ts) : IsItems ts

/-- What is selected, and from where. -/
inductive IsHead : List Terminal → Prop
  | mk {distinct items tableAlias : List Terminal}
    (hdistinct : IsOptional (· = [.word "DISTINCT", .blank]) distinct) (hitems : IsItems items)
    (table : String) (halias : IsOptional (fun ts => ∃ a, ts = [.blank, .atom a]) tableAlias) :
    IsHead ([.word "SELECT", .blank] ++ distinct ++ items ++
      [.blank, .word "FROM", .blank, .atom table] ++ tableAlias)

/-- Joins. -/
inductive IsJoins : List Terminal → Prop
  | none : IsJoins []
  | join (kind : JoinKind) (table condition : String) {ts : List Terminal} (h : IsJoins ts) :
    IsJoins ([.blank, .word kind.keyword, .blank, .word "JOIN", .blank, .atom table, .blank,
      .word "ON", .blank, .atom condition] ++ ts)

/-- The columns that rows are grouped by. -/
def IsGroups (ts : List Terminal) : Prop :=
  ∃ columns, IsListed IsAtom columns ∧ ts = [.blank, .word "GROUP BY", .blank] ++ columns

/-- A key to sort by. -/
def IsSortKey (ts : List Terminal) : Prop :=
  ∃ (column : String) (direction : Direction),
    ts = [.atom column, .blank, .word direction.keyword]

/-- An order. -/
def IsOrder (ts : List Terminal) : Prop :=
  ∃ keys, IsListed IsSortKey keys ∧ ts = [.blank, .word "ORDER BY", .blank] ++ keys

/-- What ends a statement: an order, a limit and an offset. -/
inductive IsEnding : List Terminal → Prop
  | mk {order limit offset : List Terminal} (horder : IsOptional IsOrder order)
    (hlimit : IsOptional (· = [.blank, .word "LIMIT", .blank, .mark]) limit)
    (hoffset : IsOptional (· = [.blank, .word "OFFSET", .blank, .mark]) offset) :
    IsEnding (order ++ limit ++ offset)

/-! ## Predicates and statements -/

section

variable (cmp : Operator → Prop)

mutual

/-- A predicate; what compares is one of some operators. -/
inductive IsPredicate : List Terminal → Prop
  | compare (column : String) {o : Operator} (ho : cmp o) :
    IsPredicate [.atom column, .blank, .operator o, .blank, .mark]
  | columns (column : String) {o : Operator} (ho : cmp o) (other : String) :
    IsPredicate [.atom column, .blank, .operator o, .blank, .atom other]
  | member (column : String) {o : Operator} (ho : o = .isIn ∨ o = .notIn) {values : List Terminal}
    (h : IsListed IsMark values) :
    IsPredicate ([.atom column, .blank, .operator o, .blank, .word "("] ++ values ++ [.word ")"])
  | never : IsPredicate [.word "1=0"]
  | always : IsPredicate [.word "1=1"]
  | null (column : String) {o : Operator} (ho : o = .isNull ∨ o = .isNotNull) :
    IsPredicate [.atom column, .blank, .operator o]
  | between (column : String) {o : Operator} (ho : o = .between ∨ o = .notBetween) :
    IsPredicate [.atom column, .blank, .operator o, .blank, .mark, .blank, .word "AND", .blank,
      .mark]
  | exist {negation ts : List Terminal}
    (hnegation : IsOptional (· = [.word "NOT", .blank]) negation) (h : IsStatement ts) :
    IsPredicate (negation ++ [.word "EXISTS", .blank, .word "("] ++ ts ++ [.word ")"])
  | verbatim (sql : String) : IsPredicate [.atom sql]

/-- Predicates joined by connectives. -/
inductive IsCondition : List Terminal → Prop
  | one {ts : List Terminal} (h : IsPredicate ts) : IsCondition ts
  | more {ts us : List Terminal} (h : IsCondition ts) (logical : Connective)
    (hlast : IsPredicate us) : IsCondition (ts ++ [.blank, .word logical.keyword, .blank] ++ us)

/-- Nothing, or a keyword and a condition. -/
inductive IsClause : String → List Terminal → Prop
  | none (keyword : String) : IsClause keyword []
  | some (keyword : String) {ts : List Terminal} (h : IsCondition ts) :
    IsClause keyword ([.blank, .word keyword, .blank] ++ ts)

/-- A query by itself. -/
inductive IsCore : List Terminal → Prop
  | mk {head joins wheres groups havings : List Terminal} (hhead : IsHead head)
    (hjoins : IsJoins joins) (hwheres : IsClause "WHERE" wheres)
    (hgroups : IsOptional IsGroups groups) (hhavings : IsClause "HAVING" havings) :
    IsCore (head ++ joins ++ wheres ++ groups ++ havings)

/-- What a set operator combines with a query: a query by itself, or a sub-select. -/
inductive IsOperand : List Terminal → Prop
  | core {ts : List Terminal} (h : IsCore ts) : IsOperand ts
  | nested {ts : List Terminal} (h : IsBody ts) :
    IsOperand ([.word "SELECT", .blank, .word "*", .blank, .word "FROM", .blank, .word "("] ++ ts ++
      [.word ")", .blank, .word "union_branch"])

/-- A query by itself, and what set operators combine with it. -/
inductive IsBody : List Terminal → Prop
  | core {ts : List Terminal} (h : IsCore ts) : IsBody ts
  | more {ts us : List Terminal} (h : IsBody ts) (operator : SetOperator) (hlast : IsOperand us) :
    IsBody (ts ++ [.blank, .word operator.keyword, .blank] ++ us)

/-- A statement. -/
inductive IsStatement : List Terminal → Prop
  | mk {ts us : List Terminal} (h : IsBody ts) (hend : IsEnding us) : IsStatement (ts ++ us)

end

end

/-! ## What queries are written as -/

/-- Parts with commas between them are listed. -/
theorem isListed_listed {part : List Terminal → Prop} : ∀ {parts : List (List Terminal)},
    parts ≠ [] → (∀ p ∈ parts, part p) → IsListed part (Terminal.listed parts)
  | [p], _, h => by
    rw [Terminal.listed_singleton]
    exact .one (h p List.mem_cons_self)
  | p :: q :: ps, _, h => by
    rw [Terminal.listed_cons_cons]
    refine .more (h p List.mem_cons_self) (isListed_listed (List.cons_ne_nil q ps) fun r hr => ?_)
    exact h r (List.mem_cons_of_mem p hr)

/-- Something made from every item of a list that is not empty. -/
theorem isListed_map {α : Type} {part : List Terminal → Prop} {xs : List α}
    {f : α → List Terminal} (hxs : xs.isEmpty = false) (h : ∀ x, part (f x)) :
    IsListed part (Terminal.listed (xs.map f)) := by
  refine isListed_listed (by simpa using hxs) ?_
  exact List.forall_mem_map.mpr fun x _ => h x

/-- A part that is there under a condition. -/
theorem isOptional_ite {part : List Terminal → Prop} {ts : List Terminal} (c : Bool) (h : part ts) :
    IsOptional part (if c then ts else []) := by
  cases c
  · exact .none
  · exact .some h

/-- A part that is not there under a condition. -/
theorem isOptional_ite' {part : List Terminal → Prop} {ts : List Terminal} {c : Bool}
    (h : c = false → part ts) : IsOptional part (if c then [] else ts) := by
  cases c
  · exact .some (h rfl)
  · exact .none

/-- The head of a query. -/
theorem isHead_headTerminals (table : String) (tableAlias : Value) (columns : List Value)
    (distinct : Bool) (aggregates : List Aggregate) :
    IsHead (headTerminals table tableAlias columns distinct aggregates) := by
  refine .mk (isOptional_ite _ rfl) ?_ table (isOptional_ite _ ⟨_, rfl⟩)
  cases aggregates with
  | cons a as => exact .aggregate a.function a.column a.label
  | nil =>
    rw [itemTerminals]
    split
    · exact .every
    · next h => exact .items (isListed_map (by simpa using h) fun v => ⟨_, rfl⟩)

/-- The joins of a query. -/
theorem isJoins_flatMap : (joins : List Join) → IsJoins (joins.flatMap Join.terminals)
  | [] => .none
  | j :: joins => by
    rw [List.flatMap_cons]
    exact .join j.kind j.table j.condition (isJoins_flatMap joins)

/-- The columns that rows are grouped by. -/
theorem isOptional_groupTerminals (groups : List String) :
    IsOptional IsGroups (groupTerminals groups) :=
  isOptional_ite' fun h => ⟨_, isListed_map h fun _ => ⟨_, rfl⟩, rfl⟩

/-- The end of a query. -/
theorem isEnding_endTerminals (d : Descriptor) : IsEnding d.endTerminals := by
  refine .mk ?_ (isOptional_ite' fun _ => rfl) (isOptional_ite' fun _ => rfl)
  exact isOptional_ite' fun h => ⟨_, isListed_map h fun k => ⟨k.column, k.direction, rfl⟩, rfl⟩

section

variable {cmp : Operator → Prop}

mutual

/-- A typed predicate whose operators may compare. -/
theorem isPredicate_terminals {P : Value → Prop} : (p : Predicate) → p.TypedWith P →
    (∀ o ∈ p.operators, cmp o) → IsPredicate cmp p.terminals
  | .basic column _ _ _, _, ho => .compare column (ho _ List.mem_cons_self)
  | .column column _ other _, _, ho => .columns column (ho _ List.mem_cons_self) other
  | .raw sql _ _, _, _ => .verbatim sql
  | .member column values negated _, _, _ => by
    rw [Predicate.terminals]
    split
    · cases negated
      · exact .never
      · exact .always
    · next h =>
      refine .member column ?_ (isListed_map (by simpa using h) fun _ => rfl)
      cases negated
      · exact .inl rfl
      · exact .inr rfl
  | .null column negated _, _, _ => by
    cases negated
    · exact .null column (.inl rfl)
    · exact .null column (.inr rfl)
  | .between column _ _ negated _, _, _ => by
    cases negated
    · exact .between column (.inl rfl)
    · exact .between column (.inr rfl)
  | .exist query negated _, ht, ho =>
    .exist (isOptional_ite negated rfl)
      (.mk (isBody_bodyTerminals query ht ho).1 (isEnding_endTerminals query))

/-- Typed predicates after a condition, each after its connective. -/
theorem isCondition_append {P : Value → Prop} : (ps : List Predicate) → PredicatesTyped P ps →
    (∀ o ∈ predicatesOperators ps, cmp o) → {ts : List Terminal} → IsCondition cmp ts →
      IsCondition cmp (ts ++ ledTerminals none ps)
  | [], _, _, ts, h => by
    rw [ledTerminals, List.append_nil]
    exact h
  | p :: ps, ⟨hp, hps⟩, ho, ts, h => by
    obtain ⟨hop, hops⟩ := List.forall_mem_append.mp ho
    have hlast := IsCondition.more h p.logical (isPredicate_terminals p hp hop)
    rw [ledTerminals]
    simpa using isCondition_append ps hps hops hlast

/-- Typed predicates after a keyword. -/
theorem isClause_ledTerminals {P : Value → Prop} (keyword : String) : (ps : List Predicate) →
    PredicatesTyped P ps → (∀ o ∈ predicatesOperators ps, cmp o) →
      IsClause cmp keyword (ledTerminals (some keyword) ps)
  | [], _, _ => .none keyword
  | p :: ps, ⟨hp, hps⟩, ho => by
    obtain ⟨hop, hops⟩ := List.forall_mem_append.mp ho
    have hfirst := IsCondition.one (isPredicate_terminals p hp hop)
    rw [ledTerminals, List.append_assoc]
    exact .some keyword (isCondition_append ps hps hops hfirst)

/-- Parts of a union after a query. -/
theorem isBody_append {P : Value → Prop} : (parts : List UnionPart) → UnionsTyped P parts →
    (∀ o ∈ unionsOperators parts, cmp o) → {ts : List Terminal} → IsBody cmp ts →
      IsBody cmp (ts ++ unionTerminals parts)
  | [], _, _, ts, h => by
    rw [unionTerminals, List.append_nil]
    exact h
  | ⟨operator, query⟩ :: parts, ⟨hquery, hparts⟩, ho, ts, h => by
    obtain ⟨hoq, hops⟩ := List.forall_mem_append.mp ho
    obtain ⟨hbody, hcore⟩ := isBody_bodyTerminals query hquery hoq
    have hoperand : IsOperand cmp (if query.unions.isEmpty then query.bodyTerminals
        else [.word "SELECT", .blank, .word "*", .blank, .word "FROM", .blank, .word "("] ++
          query.bodyTerminals ++ [.word ")", .blank, .word "union_branch"]) := by
      split
      · next he => exact .core (hcore he)
      · exact .nested hbody
    rw [unionTerminals]
    simpa using isBody_append parts hparts hops (.more h operator hoperand)

/-- A typed query without its end is a body of the grammar, and one by itself if it is no union.

**Proof sketch.** By recursion on the query. Every clause is derived from its terminals, those of
the predicates with the nested queries in them, and the parts of a union one after the other. -/
theorem isBody_bodyTerminals {P : Value → Prop} : (d : Descriptor) → d.TypedWith P →
    (∀ o ∈ d.operators, cmp o) →
      IsBody cmp d.bodyTerminals ∧ (d.unions.isEmpty = true → IsCore cmp d.bodyTerminals)
  | { table, tableAlias, columns, wheres, havings, joins, groups, distinct, aggregates, unions,
      .. }, ⟨_, hw, hh, hu⟩, ho => by
    simp only [Descriptor.operators, List.mem_append, or_imp, forall_and] at ho
    obtain ⟨⟨how, hoh⟩, hou⟩ := ho
    have hcore := IsCore.mk
      (isHead_headTerminals table tableAlias columns distinct aggregates) (isJoins_flatMap joins)
      (isClause_ledTerminals "WHERE" wheres hw how) (isOptional_groupTerminals groups)
      (isClause_ledTerminals "HAVING" havings hh hoh)
    rw [Descriptor.bodyTerminals]
    refine ⟨isBody_append unions hu hou (.core hcore), fun he => ?_⟩
    have hunions : unions = [] := List.isEmpty_iff.mp he
    rw [hunions, unionTerminals, List.append_nil]
    exact hcore

end

end

end Grammar

end FluentSql
