import FluentSql.Proofs.Statement.Chunks

set_option autoImplicit false

/-!
# Verbatim texts

What a query takes over verbatim stands in its statement as it is: names of tables and columns,
expressions, conditions, verbatim SQL. Everything else in the statement is of the library: keywords,
blanks, commas and brackets, which have neither quotes nor question marks. So whatever holds of such
plain texts, and of texts one after the other, holds of the chunks of a query as soon as it holds of
its verbatim texts.

## Main definitions

* `FluentSql.Descriptor.verbatim` — the texts that a query takes over verbatim.
* `FluentSql.Plain` — a text without quotes and question marks.
* `FluentSql.IsTextual` — a property of plain texts, and of texts one after the other.
* `FluentSql.Chunk.Has` — a chunk has a property of texts, or one of verbatim SQL.

## Main results

* `FluentSql.Descriptor.allHave_chunks` — the chunks of a query have what its verbatim texts have.
-/

namespace FluentSql

/-! ## Verbatim texts of a query -/

mutual

/-- The texts that a predicate takes over verbatim, verbatim SQL with the values it brings. -/
def Predicate.verbatim : Predicate → List Chunk
  | .basic column .. | .member column .. | .null column .. | .between column .. => [.text column]
  | .column column _ other _ => [.text column, .text other]
  | .raw sql bindings _ => [.verbatim sql bindings]
  | .exist query .. => query.verbatim
  | .unknown _ => []

/-- The texts that predicates take over verbatim. -/
def predicatesVerbatim : List Predicate → List Chunk
  | [] => []
  | p :: ps => p.verbatim ++ predicatesVerbatim ps

/-- The texts that the parts of a union take over verbatim. -/
def unionsVerbatim : List UnionPart → List Chunk
  | [] => []
  | ⟨_, query⟩ :: parts => query.verbatim ++ unionsVerbatim parts

/-- The texts that a query takes over verbatim: the names of its tables and columns, its
expressions and conditions, and its verbatim predicates with the values they bring, those of the
queries nested in it included. -/
def Descriptor.verbatim : Descriptor → List Chunk
  | { table, tableAlias, columns, wheres, havings, joins, order, groups, limit := _, offset := _,
      distinct := _, aggregates, unions, pending := _, banks := _ } =>
    [.text table, .text tableAlias.display] ++ columns.map (fun v => .text (selectItemText v)) ++
      aggregates.flatMap (fun a => [.text a.column, .text a.label]) ++
      joins.flatMap (fun j => [.text j.table, .text j.condition]) ++
      order.map (fun k => .text k.column) ++ groups.map .text ++ predicatesVerbatim wheres ++
      predicatesVerbatim havings ++ unionsVerbatim unions

end

/-! ## Plain texts -/

/-- A text without quotes and question marks. -/
def Plain (s : String) : Prop := '\'' ∉ s.toList ∧ '?' ∉ s.toList

instance : DecidablePred Plain := fun s =>
  inferInstanceAs (Decidable ('\'' ∉ s.toList ∧ '?' ∉ s.toList))

theorem Operator.plain_keyword (o : Operator) : Plain o.keyword := by cases o <;> decide

theorem Connective.plain_keyword (c : Connective) : Plain c.keyword := by cases c <;> decide

theorem SetOperator.plain_keyword (o : SetOperator) : Plain o.keyword := by cases o <;> decide

theorem JoinKind.plain_keyword (k : JoinKind) : Plain k.keyword := by cases k <;> decide

theorem Direction.plain_keyword (d : Direction) : Plain d.keyword := by cases d <;> decide

theorem AggregateFunction.plain_sql (f : AggregateFunction) : Plain f.sql := by cases f <;> decide

/-- A property of texts that plain ones have, and that texts one after the other have if each of
them does. -/
structure IsTextual (P : String → Prop) : Prop where
  plain : ∀ {s : String}, Plain s → P s
  append : ∀ {s t : String}, P s → P t → P (s ++ t)

namespace IsTextual

variable {P : String → Prop} (hP : IsTextual P) {s t : String}

include hP

/-- A blank is plain. -/
theorem space : P " " := hP.plain (by decide)

/-- A text between two plain ones. -/
theorem within {before after : String} (hb : Plain before) (hs : P s) (ha : Plain after) :
    P (before ++ s ++ after) := hP.append (hP.append (hP.plain hb) hs) (hP.plain ha)

/-- A keyword between two texts, blanks around it. -/
theorem joined {keyword : String} (hs : P s) (hk : P keyword) (ht : P t) :
    P (s ++ " " ++ keyword ++ " " ++ t) :=
  hP.append (hP.append (hP.append (hP.append hs hP.space) hk) hP.space) ht

/-- A keyword after a text, blanks around it. -/
theorem followed {keyword : String} (hs : P s) (hk : P keyword) : P (s ++ " " ++ keyword ++ " ") :=
  hP.append (hP.append (hP.append hs hP.space) hk) hP.space

/-- A keyword, negated or not. -/
theorem negatable {keyword : String} (hk : Plain keyword) (negated : Bool) :
    P (negatable negated keyword) := by
  cases negated with
  | false => exact hP.plain hk
  | true => exact hP.append (hP.plain (by decide)) (hP.plain hk)

/-- Texts with a plain separator between them. -/
theorem intercalate {separator : String} (hs : Plain separator) {ss : List String}
    (h : ∀ s ∈ ss, P s) : P (separator.intercalate ss) := by
  induction ss with
  | nil =>
    have hnone : Plain "" := by decide
    exact hP.plain hnone
  | cons s ss ih =>
    have hfirst : P s := h s List.mem_cons_self
    cases ss with
    | nil => simpa using hfirst
    | cons t ss =>
      have hrest := ih fun u hu => h u (List.mem_cons_of_mem s hu)
      rw [String.intercalate_cons_cons]
      exact hP.append (hP.append hfirst (hP.plain hs)) hrest

/-- Texts made from the items of a list, with a plain separator between them. -/
theorem intercalate_map {α : Type} {separator : String} (hs : Plain separator) {xs : List α}
    {f : α → String} (h : ∀ x ∈ xs, P (f x)) : P (separator.intercalate (xs.map f)) := by
  refine hP.intercalate hs fun s hmem => ?_
  obtain ⟨x, hx, rfl⟩ := List.mem_map.mp hmem
  exact h x hx

end IsTextual

/-! ## Properties of chunks -/

namespace Chunk

variable {P : String → Prop} {V : String → List Value → Prop}

/-- A chunk has a property of texts, or a property of verbatim SQL and its values. -/
def Has (P : String → Prop) (V : String → List Value → Prop) : Chunk → Prop
  | .text s => P s
  | .value _ => True
  | .verbatim sql bindings => V sql bindings

/-- Every one of some chunks has a property. -/
def AllHave (P : String → Prop) (V : String → List Value → Prop) (cs : List Chunk) : Prop :=
  ∀ c ∈ cs, c.Has P V

@[simp] theorem has_text (s : String) : (text s).Has P V ↔ P s := Iff.rfl

@[simp] theorem has_value (v : Value) : (value v).Has P V := trivial

@[simp] theorem has_verbatim (sql : String) (bindings : List Value) :
    (verbatim sql bindings).Has P V ↔ V sql bindings := Iff.rfl

@[simp] theorem allHave_nil : AllHave P V [] := by simp [AllHave]

@[simp] theorem allHave_cons (c : Chunk) (cs : List Chunk) :
    AllHave P V (c :: cs) ↔ c.Has P V ∧ AllHave P V cs := by simp [AllHave]

@[simp] theorem allHave_append (cs ds : List Chunk) :
    AllHave P V (cs ++ ds) ↔ AllHave P V cs ∧ AllHave P V ds := by
  simp [AllHave, or_imp, forall_and]

/-- What is weaker is had as well. -/
theorem AllHave.mono {Q : String → Prop} {W : String → List Value → Prop} {cs : List Chunk}
    (hPQ : ∀ s, P s → Q s) (hVW : ∀ sql bindings, V sql bindings → W sql bindings)
    (h : AllHave P V cs) : AllHave Q W cs := by
  intro c hc
  cases c with
  | text s => exact hPQ s (h _ hc)
  | value v => trivial
  | verbatim sql bindings => exact hVW sql bindings (h _ hc)

/-- Separated parts have what the parts and the separator have. -/
theorem AllHave.separated {separator : String} (hs : P separator) :
    ∀ {parts : List (List Chunk)}, (∀ p ∈ parts, AllHave P V p) →
      AllHave P V (separated separator parts)
  | [], _ => by simp [Chunk.separated, List.intercalate]
  | [p], h => by simpa using h
  | p :: q :: ps, h => by
    have ih : AllHave P V (Chunk.separated separator (q :: ps)) :=
      AllHave.separated hs fun r hr => h r (List.mem_cons_of_mem p hr)
    rw [separated_cons_cons]
    simpa [hs, ih] using h p List.mem_cons_self

variable (hP : IsTextual P)

include hP

/-- Bound values have commas between them, and nothing else. -/
theorem allHave_values (vs : List Value) : AllHave P V (values vs) := by
  refine AllHave.separated (hP.plain (by decide)) fun p hp => ?_
  obtain ⟨v, -, rfl⟩ := List.mem_map.mp hp
  simp

omit hP in
/-- Parts that are texts have what the texts have. -/
theorem AllHave.of_mem_texts {ss : List String} (h : ∀ s ∈ ss, P s) :
    ∀ p ∈ texts ss, AllHave P V p := by
  intro p hp
  obtain ⟨s, hs, rfl⟩ := List.mem_map.mp hp
  simpa using h s hs

/-- What a keyword governs has a property together with the keyword. -/
theorem AllHave.of_mem_clause {keyword : String} {parts : List (List Chunk)} (hk : Plain keyword)
    (h : ∀ p ∈ parts, AllHave P V p) : ∀ p ∈ clause keyword parts, AllHave P V p := by
  intro p hp
  rw [clause] at hp
  split at hp
  · simp at hp
  · rw [List.mem_singleton.mp hp, allHave_cons, has_text]
    exact ⟨hP.append (hP.plain hk) hP.space, AllHave.separated hP.space h⟩

end Chunk

/-! ## The chunks of a query -/

section Chunks

variable {P : String → Prop} {V : String → List Value → Prop} (hP : IsTextual P)

include hP

/-- The opening of a query has what its verbatim texts have. -/
theorem textual_selectHead {table : String} {tableAlias : Value} {columns : List Value}
    {aggregates : List Aggregate} (distinct : Bool) (ht : P table) (ha : P tableAlias.display)
    (hc : ∀ v ∈ columns, P (selectItemText v))
    (hg : ∀ a ∈ aggregates, P a.column ∧ P a.label) :
    P (selectHead table tableAlias columns distinct aggregates) := by
  have hlist : P (selectList columns aggregates) := by
    cases aggregates with
    | cons a as =>
      obtain ⟨hcolumn, hlabel⟩ := hg a List.mem_cons_self
      refine hP.append (hP.append (hP.append ?_ hcolumn) (hP.plain (by decide))) hlabel
      exact hP.append (hP.plain a.function.plain_sql) (hP.plain (by decide))
    | nil =>
      rw [selectList]
      split
      · exact hP.plain (by decide)
      · exact hP.intercalate_map (by decide) hc
  have hhead : P (if distinct then "SELECT DISTINCT " else "SELECT ") := by
    cases distinct <;> exact hP.plain (by decide)
  have htable : P (if tableAlias.truthy then table ++ " " ++ tableAlias.display else table) := by
    split
    · exact hP.append (hP.append ht hP.space) ha
    · exact ht
  exact hP.append (hP.append (hP.append hhead hlist) (hP.plain (by decide))) htable

/-- The text of a join has what its table and its condition have. -/
theorem Join.textual_text {j : Join} (ht : P j.table) (hc : P j.condition) : P j.text := by
  refine hP.append (hP.append (hP.append ?_ ht) (hP.plain (by decide))) hc
  exact hP.append (hP.plain j.kind.plain_keyword) (hP.plain (by decide))

/-- What follows the body of a query has what the columns have that it sorts by: the limit and the
offset bring one value each. -/
theorem Descriptor.allHave_endParts {d : Descriptor} (h : ∀ k ∈ d.order, P k.column) :
    ∀ p ∈ d.endParts, Chunk.AllHave P V p := by
  have horder : P (", ".intercalate (d.order.map SortKey.text)) :=
    hP.intercalate_map (by decide) fun k hk =>
      hP.append (hP.append (h k hk) hP.space) (hP.plain k.direction.plain_keyword)
  intro p hp
  simp only [Descriptor.endParts, List.mem_append] at hp
  rcases hp with (hp | hp) | hp
  · refine Chunk.AllHave.of_mem_texts (fun s hs => ?_) p hp
    split at hs
    · simp at hs
    · rw [List.mem_singleton.mp hs]
      exact hP.append (hP.plain (by decide)) horder
  all_goals
    split at hp
    · simp at hp
    · rw [List.mem_singleton.mp hp]
      simpa using hP.plain (by decide)

omit hP in
/-- What a query takes over verbatim on its own account has a property. -/
structure Descriptor.OwnHave (P : String → Prop) (d : Descriptor) : Prop where
  table : P d.table
  tableAlias : P d.tableAlias.display
  columns : ∀ v ∈ d.columns, P (selectItemText v)
  aggregates : ∀ a ∈ d.aggregates, P a.column ∧ P a.label
  joins : ∀ j ∈ d.joins, P j.table ∧ P j.condition
  order : ∀ k ∈ d.order, P k.column
  groups : ∀ g ∈ d.groups, P g

omit hP in
/-- The verbatim texts of a query are its own, and those of its predicates and of the parts of its
union. -/
theorem Descriptor.allHave_verbatim_iff {d : Descriptor} :
    Chunk.AllHave P V d.verbatim ↔ d.OwnHave P ∧ Chunk.AllHave P V (predicatesVerbatim d.wheres) ∧
      Chunk.AllHave P V (predicatesVerbatim d.havings) ∧
      Chunk.AllHave P V (unionsVerbatim d.unions) := by
  obtain ⟨table, tableAlias, columns, wheres, havings, joins, order, groups, limit, offset,
    distinct, aggregates, unions, pending, banks⟩ := d
  simp only [Descriptor.verbatim, Chunk.allHave_append]
  constructor
  · rintro ⟨⟨⟨⟨⟨⟨⟨⟨hn, hc⟩, ha⟩, hj⟩, ho⟩, hg⟩, hw⟩, hh⟩, hu⟩
    refine ⟨⟨?_, ?_, ?_, ?_, ?_, ?_, ?_⟩, hw, hh, hu⟩ <;>
      simp_all [Chunk.AllHave, forall_and, or_imp]
  · rintro ⟨⟨ht, hn, hc, ha, hj, ho, hg⟩, hw, hh, hu⟩
    refine ⟨⟨⟨⟨⟨⟨⟨⟨?_, ?_⟩, ?_⟩, ?_⟩, ?_⟩, ?_⟩, hw⟩, hh⟩, hu⟩ <;>
      simp_all [Chunk.AllHave, forall_and, or_imp]

/-- The chunks of a whole query have what those of its body have. -/
theorem Descriptor.allHave_closeChunks {d : Descriptor} {body : List Chunk} (hd : d.OwnHave P)
    (hb : Chunk.AllHave P V body) : Chunk.AllHave P V (d.closeChunks body) := by
  refine Chunk.AllHave.separated hP.space fun p hmem => ?_
  rcases List.mem_cons.mp hmem with rfl | hmem
  · exact hb
  · exact d.allHave_endParts hP hd.order p hmem

mutual

/-- The chunks of a predicate have what its verbatim texts have. -/
theorem Predicate.allHave_chunks {part : String} :
    ∀ (p : Predicate) {cs : List Chunk}, p.chunks part = .ok cs → Chunk.AllHave P V p.verbatim →
      Chunk.AllHave P V cs
  | .basic column operator v _, cs, hc, hv => by
    rw [Predicate.chunks, Except.ok.injEq] at hc
    simp only [Predicate.verbatim, Chunk.allHave_cons, Chunk.has_text] at hv
    simpa [← hc] using hP.followed hv.1 (hP.plain operator.plain_keyword)
  | .column column operator other _, cs, hc, hv => by
    rw [Predicate.chunks, Except.ok.injEq] at hc
    simp only [Predicate.verbatim, Chunk.allHave_cons, Chunk.has_text] at hv
    simpa [← hc] using hP.joined hv.1 (hP.plain operator.plain_keyword) hv.2.1
  | .raw sql bindings _, cs, hc, hv => by
    rw [Predicate.chunks, Except.ok.injEq] at hc
    simpa [← hc, Predicate.verbatim] using hv
  | .member column values negated _, cs, hc, hv => by
    rw [Predicate.chunks] at hc
    simp only [Predicate.verbatim, Chunk.allHave_cons, Chunk.has_text] at hv
    split at hc
    · rw [Except.ok.injEq] at hc
      cases negated <;> simpa [← hc] using hP.plain (by decide)
    · rw [Except.ok.injEq] at hc
      have hhead : P (column ++ " " ++ negatable negated "IN" ++ " (") :=
        hP.append (hP.append (hP.append hv.1 hP.space) (hP.negatable (by decide) _))
          (hP.plain (by decide))
      simpa [← hc, Chunk.allHave_values hP, hhead] using hP.plain (by decide)
  | .null column negated _, cs, hc, hv => by
    rw [Predicate.chunks, Except.ok.injEq] at hc
    simp only [Predicate.verbatim, Chunk.allHave_cons, Chunk.has_text] at hv
    simpa [← hc] using
      hP.append (hP.append hv.1 (hP.plain (by decide))) (hP.negatable (by decide) negated)
  | .between column low high negated _, cs, hc, hv => by
    rw [Predicate.chunks, Except.ok.injEq] at hc
    simp only [Predicate.verbatim, Chunk.allHave_cons, Chunk.has_text] at hv
    have hhead : P (column ++ " " ++ negatable negated "BETWEEN" ++ " ") :=
      hP.followed hv.1 (hP.negatable (by decide) negated)
    simpa [← hc, hhead] using hP.plain (by decide)
  | .exist query negated _, cs, hc, hv => by
    rw [Predicate.verbatim] at hv
    simp only [Predicate.chunks, bind_eq_ok, pure, Except.pure, Except.ok.injEq] at hc
    obtain ⟨body, hbody, rfl⟩ := hc
    have ih := query.allHave_bodyChunks hbody hv
    have hclose := query.allHave_closeChunks hP (Descriptor.allHave_verbatim_iff.mp hv).1 ih
    have hopen : P (negatable negated "EXISTS" ++ " (") :=
      hP.append (hP.negatable (by decide) negated) (hP.plain (by decide))
    simpa [hclose, hopen] using hP.plain (by decide)
  | .unknown kind, cs, hc, _ => by simp [Predicate.chunks] at hc

/-- The parts of a predicate list have what its verbatim texts have. -/
theorem allHave_predicateParts {part : String} :
    ∀ (ps : List Predicate) {first : Bool} {parts : List (List Chunk)},
      predicateParts part first ps = .ok parts → Chunk.AllHave P V (predicatesVerbatim ps) →
      ∀ p ∈ parts, Chunk.AllHave P V p
  | [], first, parts, hc, _ => by
    rw [predicateParts, Except.ok.injEq] at hc
    simp [← hc]
  | p :: ps, first, parts, hc, hv => by
    rw [predicatesVerbatim, Chunk.allHave_append] at hv
    obtain ⟨chunks, hchunks, rest, hrest, rfl⟩ := predicateParts_cons_eq_ok.mp hc
    have ihp := p.allHave_chunks hchunks hv.1
    have ihps := allHave_predicateParts ps hrest hv.2
    intro q hq
    rcases List.mem_cons.mp hq with rfl | hq
    · cases first
      · simpa [ihp] using hP.append (hP.plain p.logical.plain_keyword) hP.space
      · exact ihp
    · exact ihps q hq

/-- The parts of a union have what its verbatim texts have. -/
theorem allHave_unionChunks :
    ∀ (parts : List UnionPart) {cs : List (List Chunk)}, unionChunks parts = .ok cs →
      Chunk.AllHave P V (unionsVerbatim parts) → ∀ p ∈ cs, Chunk.AllHave P V p
  | [], cs, hc, _ => by
    rw [unionChunks, Except.ok.injEq] at hc
    simp [← hc]
  | ⟨operator, query⟩ :: parts, cs, hc, hv => by
    rw [unionsVerbatim, Chunk.allHave_append] at hv
    simp only [unionChunks, bind_eq_ok, pure, Except.pure, Except.ok.injEq] at hc
    obtain ⟨body, hbody, rest, hrest, rfl⟩ := hc
    have ihq := query.allHave_bodyChunks hbody hv.1
    have ihps := allHave_unionChunks parts hrest hv.2
    have hkeyword : P (operator.keyword ++ " ") :=
      hP.append (hP.plain operator.plain_keyword) hP.space
    have hopen : P "SELECT * FROM (" := hP.plain (by decide)
    have hclose : P ") union_branch" := hP.plain (by decide)
    intro p hp
    rcases List.mem_cons.mp hp with rfl | hp
    · split <;> simp [ihq, hkeyword, hopen, hclose]
    · exact ihps p hp

/-- The chunks of the body of a query have what its verbatim texts have. -/
theorem Descriptor.allHave_bodyChunks :
    ∀ (d : Descriptor) {cs : List Chunk}, d.bodyChunks = .ok cs → Chunk.AllHave P V d.verbatim →
      Chunk.AllHave P V cs
  | { table, tableAlias, columns, wheres, havings, joins, order, groups, limit, offset, distinct,
      aggregates, unions, pending, banks }, cs, hc, hv => by
    obtain ⟨hown, hw, hh, hu⟩ := Descriptor.allHave_verbatim_iff.mp hv
    simp only [Descriptor.bodyChunks, bind_eq_ok, pure, Except.pure, Except.ok.injEq] at hc
    obtain ⟨predicates, hpredicates, conditions, hconditions, parts, hparts, rfl⟩ := hc
    have ihw := allHave_predicateParts wheres hpredicates hw
    have ihh := allHave_predicateParts havings hconditions hh
    have ihu := allHave_unionChunks unions hparts hu
    refine Chunk.AllHave.separated hP.space fun p hp => ?_
    simp only [List.mem_append] at hp
    rcases hp with (((hp | hp) | hp) | hp) | hp
    · refine Chunk.AllHave.of_mem_texts (fun s hs => ?_) p hp
      rcases List.mem_cons.mp hs with rfl | hs
      · exact textual_selectHead hP distinct hown.table hown.tableAlias hown.columns
          hown.aggregates
      · obtain ⟨j, hj, rfl⟩ := List.mem_map.mp hs
        exact Join.textual_text hP (hown.joins j hj).1 (hown.joins j hj).2
    · exact Chunk.AllHave.of_mem_clause hP (by decide) ihw p hp
    · refine Chunk.AllHave.of_mem_texts (fun s hs => ?_) p hp
      split at hs
      · simp at hs
      · rw [List.mem_singleton.mp hs]
        exact hP.append (hP.plain (by decide)) (hP.intercalate (by decide) hown.groups)
    · exact Chunk.AllHave.of_mem_clause hP (by decide) ihh p hp
    · exact ihu p hp

end

/-- The chunks of a query have what its verbatim texts have.

**Proof sketch.** By induction on the structure of the query: whatever is written between its
verbatim texts is plain. -/
theorem Descriptor.allHave_chunks {d : Descriptor} {cs : List Chunk} (hc : d.chunks = .ok cs)
    (hv : Chunk.AllHave P V d.verbatim) : Chunk.AllHave P V cs := by
  rw [Descriptor.chunks, map_eq_ok] at hc
  obtain ⟨body, hbody, rfl⟩ := hc
  have hb := d.allHave_bodyChunks hP hbody hv
  exact d.allHave_closeChunks hP (Descriptor.allHave_verbatim_iff.mp hv).1 hb

/-- The chunks of a predicate list on its own have what its verbatim texts have. -/
theorem allHave_predicateChunks {ps : List Predicate} {cs : List Chunk}
    (hc : predicateChunks ps = .ok cs) (hv : Chunk.AllHave P V (predicatesVerbatim ps)) :
    Chunk.AllHave P V cs := by
  rw [predicateChunks, map_eq_ok] at hc
  obtain ⟨parts, hparts, rfl⟩ := hc
  exact Chunk.AllHave.separated hP.space (allHave_predicateParts hP ps hparts hv)

end Chunks

end FluentSql
