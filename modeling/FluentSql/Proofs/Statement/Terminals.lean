import FluentSql.Proofs.Statement.Verbatim

set_option autoImplicit false

/-!
# The terminal symbols of a statement

A statement is made up of words of the library, operators, marks for bound values, blanks, and the
texts that the query takes over verbatim. The latter are opaque: whatever is written in them, each
of them is one symbol. The symbols of a query are told by recursion on its structure, and its
statement is their texts one after the other.

## Main definitions

* `FluentSql.Terminal` — a terminal, with its `text`.
* `FluentSql.Descriptor.terminals` — the terminals of a query.
* `FluentSql.Descriptor.operators` — the operators of its comparisons.

## Main results

* `FluentSql.Descriptor.sql_eq_allText` — a query compiles to the texts of its terminals.
* `FluentSql.Descriptor.mem_verbatim_of_atom` — what is opaque in it is verbatim.
-/

namespace FluentSql

/-! ## Terminals -/

/-- What a statement is made up of. -/
inductive Terminal where
  /-- A keyword or a punctuation mark. -/
  | word (s : String)
  /-- What a column is compared or tested with. -/
  | operator (o : Operator)
  /-- The mark of a bound value. -/
  | mark
  /-- A text that is taken over verbatim. -/
  | atom (s : String)
  | blank
  deriving DecidableEq, Repr

namespace Terminal

/-- The text of a terminal. -/
def text : Terminal → String
  | word s => s
  | operator o => o.keyword
  | mark => "?"
  | atom s => s
  | blank => " "

/-- The texts of terminals, one after the other. -/
def allText (ts : List Terminal) : String := String.join (ts.map text)

@[simp] theorem allText_nil : allText [] = "" := rfl

@[simp] theorem allText_cons (t : Terminal) (ts : List Terminal) :
    allText (t :: ts) = t.text ++ allText ts := by simp [allText]

@[simp] theorem allText_append (ts us : List Terminal) :
    allText (ts ++ us) = allText ts ++ allText us := by simp [allText]

/-- Lists of terminals with commas between them. -/
def listed (parts : List (List Terminal)) : List Terminal :=
  List.intercalate [.word ",", .blank] parts

@[simp] theorem listed_singleton (part : List Terminal) : listed [part] = part := by
  simp [listed, List.intercalate]

theorem listed_cons_cons (p q : List Terminal) (ps : List (List Terminal)) :
    listed (p :: q :: ps) = p ++ .word "," :: .blank :: listed (q :: ps) := by
  simp [listed, List.intercalate]

/-- The text of listed parts is that of the parts with commas between them. -/
@[simp] theorem allText_listed (parts : List (List Terminal)) :
    allText (listed parts) = ", ".intercalate (parts.map allText) := by
  induction parts with
  | nil => simp [listed, List.intercalate]
  | cons p ps ih =>
    cases ps with
    | nil => simp
    | cons q qs =>
      rw [listed_cons_cons, allText_append, allText_cons, allText_cons, ih]
      apply String.toList_inj.mp
      simp [text]

end Terminal

open Terminal (allText listed)

/-! ## Parts without predicates -/

/-- The terminals of the select list: those of the first aggregate if there is one, else the items,
else every column. -/
def itemTerminals (columns : List Value) (aggregates : List Aggregate) : List Terminal :=
  match aggregates with
  | a :: _ =>
    [.word a.function.sql, .word "(", .atom a.column, .word ")", .blank, .word "AS", .blank,
      .atom a.label]
  | [] =>
    if columns.isEmpty then [.word "*"]
    else listed (columns.map fun v => [.atom (selectItemText v)])

/-- The terminals from the keyword up to the table and its alias. -/
def headTerminals (table : String) (tableAlias : Value) (columns : List Value) (distinct : Bool)
    (aggregates : List Aggregate) : List Terminal :=
  [.word "SELECT", .blank] ++ (if distinct then [.word "DISTINCT", .blank] else []) ++
    itemTerminals columns aggregates ++ [.blank, .word "FROM", .blank, .atom table] ++
    (if tableAlias.truthy then [.blank, .atom tableAlias.display] else [])

/-- The terminals of a join, with the blank before it. -/
def Join.terminals (j : Join) : List Terminal :=
  [.blank, .word j.kind.keyword, .blank, .word "JOIN", .blank, .atom j.table, .blank, .word "ON",
    .blank, .atom j.condition]

/-- The terminals of the columns that rows are grouped by. -/
def groupTerminals (groups : List String) : List Terminal :=
  if groups.isEmpty then []
  else [.blank, .word "GROUP BY", .blank] ++ listed (groups.map fun g => [.atom g])

/-- The terminals of a sort key. -/
def SortKey.terminals (k : SortKey) : List Terminal :=
  [.atom k.column, .blank, .word k.direction.keyword]

/-- The terminals of the order, the limit and the offset of a query. -/
def Descriptor.endTerminals (d : Descriptor) : List Terminal :=
  (if d.order.isEmpty then []
    else [.blank, .word "ORDER BY", .blank] ++ listed (d.order.map SortKey.terminals)) ++
  (if d.limit.isNull then [] else [.blank, .word "LIMIT", .blank, .mark]) ++
  (if d.offset.isNull then [] else [.blank, .word "OFFSET", .blank, .mark])

/-! ## The terminals of a query -/

mutual

/-- The terminals of a predicate without its connective; one of no known kind has no text. -/
def Predicate.terminals : Predicate → List Terminal
  | .basic column operator _ _ => [.atom column, .blank, .operator operator, .blank, .mark]
  | .column column operator other _ =>
    [.atom column, .blank, .operator operator, .blank, .atom other]
  | .raw sql _ _ => [.atom sql]
  | .member column values negated _ =>
    if values.isEmpty then [.word (if negated then "1=1" else "1=0")]
    else [.atom column, .blank, .operator (if negated then .notIn else .isIn), .blank, .word "("] ++
      listed (values.map fun _ => [.mark]) ++ [.word ")"]
  | .null column negated _ =>
    [.atom column, .blank, .operator (if negated then .isNotNull else .isNull)]
  | .between column _ _ negated _ =>
    [.atom column, .blank, .operator (if negated then .notBetween else .between), .blank, .mark,
      .blank, .word "AND", .blank, .mark]
  | .exist query negated _ =>
    (if negated then [.word "NOT", .blank] else []) ++ [.word "EXISTS", .blank, .word "("] ++
      (query.bodyTerminals ++ query.endTerminals) ++ [.word ")"]
  | .unknown kind => [.word (kind.getD "")]

/-- The terminals of predicates, the first of them after a keyword if one is given, and every other
one after its connective. -/
def ledTerminals (keyword : Option String) : List Predicate → List Terminal
  | [] => []
  | p :: ps =>
    [.blank, .word (keyword.getD p.logical.keyword), .blank] ++ p.terminals ++ ledTerminals none ps

/-- The terminals of the parts of a union, each after its operator; one that is itself a union is a
sub-select. -/
def unionTerminals : List UnionPart → List Terminal
  | [] => []
  | ⟨operator, query⟩ :: parts =>
    [.blank, .word operator.keyword, .blank] ++
      (if query.unions.isEmpty then query.bodyTerminals
        else [.word "SELECT", .blank, .word "*", .blank, .word "FROM", .blank, .word "("] ++
          query.bodyTerminals ++ [.word ")", .blank, .word "union_branch"]) ++ unionTerminals parts

/-- The terminals of a query without its order, limit and offset. -/
def Descriptor.bodyTerminals : Descriptor → List Terminal
  | { table, tableAlias, columns, wheres, havings, joins, order := _, groups, limit := _,
      offset := _, distinct, aggregates, unions, pending := _, banks := _ } =>
    headTerminals table tableAlias columns distinct aggregates ++ joins.flatMap Join.terminals ++
      ledTerminals (some "WHERE") wheres ++ groupTerminals groups ++
      ledTerminals (some "HAVING") havings ++ unionTerminals unions

end

/-- The terminals of a whole query. -/
def Descriptor.terminals (d : Descriptor) : List Terminal := d.bodyTerminals ++ d.endTerminals

mutual

/-- The operators of the comparisons in a predicate. -/
def Predicate.operators : Predicate → List Operator
  | .basic _ operator _ _ | .column _ operator _ _ => [operator]
  | .exist query _ _ => query.operators
  | .raw .. | .member .. | .null .. | .between .. | .unknown _ => []

/-- The operators of the comparisons in predicates. -/
def predicatesOperators : List Predicate → List Operator
  | [] => []
  | p :: ps => p.operators ++ predicatesOperators ps

/-- The operators of the comparisons in parts of a union. -/
def unionsOperators : List UnionPart → List Operator
  | [] => []
  | ⟨_, query⟩ :: parts => query.operators ++ unionsOperators parts

/-- The operators of the comparisons in a query, those of the queries nested in it included. -/
def Descriptor.operators : Descriptor → List Operator
  | { table := _, tableAlias := _, columns := _, wheres, havings, joins := _, order := _,
      groups := _, limit := _, offset := _, distinct := _, aggregates := _, unions, pending := _,
      banks := _ } =>
    predicatesOperators wheres ++ predicatesOperators havings ++ unionsOperators unions

end

/-! ## The text of a query -/

/-- The head of a query is the texts of its terminals. -/
theorem allText_headTerminals (table : String) (tableAlias : Value) (columns : List Value)
    (distinct : Bool) (aggregates : List Aggregate) :
    allText (headTerminals table tableAlias columns distinct aggregates) =
      selectHead table tableAlias columns distinct aggregates := by
  have hitems : allText (itemTerminals columns aggregates) = selectList columns aggregates := by
    cases aggregates with
    | nil =>
      rw [itemTerminals, selectList]
      split
      · rfl
      · simp [Function.comp_def, Terminal.text]
    | cons a as =>
      apply String.toList_inj.mp
      simp [itemTerminals, selectList, Aggregate.text, Terminal.text]
  apply String.toList_inj.mp
  cases distinct <;> cases h : tableAlias.truthy <;>
    simp [headTerminals, selectHead, hitems, h, Terminal.text]

/-- Joins are the texts of their terminals. -/
theorem allText_flatMap_joinTerminals (joins : List Join) :
    allText (joins.flatMap Join.terminals) =
      Chunk.allSql ((Chunk.texts (joins.map Join.text)).flatMap (.text " " :: ·)) := by
  induction joins with
  | nil => rfl
  | cons j joins ih =>
    apply String.toList_inj.mp
    simp [Chunk.texts, Join.terminals, Join.text, Terminal.text, Chunk.sql, ih]

/-- The end of a query is the texts of its terminals. -/
theorem Descriptor.allText_endTerminals (d : Descriptor) :
    allText d.endTerminals = Chunk.allSql (d.endParts.flatMap (.text " " :: ·)) := by
  apply String.toList_inj.mp
  cases hl : d.limit.isNull <;> cases ho : d.offset.isNull <;> cases hd : d.order.isEmpty <;>
    simp [endTerminals, endParts, hl, ho, hd, Chunk.texts, Terminal.text, Chunk.sql,
      Function.comp_def, SortKey.terminals, SortKey.text]

/-- The columns that rows are grouped by are the texts of their terminals. -/
theorem allText_groupTerminals (groups : List String) :
    allText (groupTerminals groups) = Chunk.allSql ((Chunk.texts (if groups.isEmpty then []
      else ["GROUP BY " ++ ", ".intercalate groups])).flatMap (.text " " :: ·)) := by
  apply String.toList_inj.mp
  cases h : groups.isEmpty <;>
    simp [groupTerminals, h, Chunk.texts, Terminal.text, Chunk.sql, Function.comp_def]

/-- Predicates after their keyword are the texts of their terminals, if the first of them is, and
the others after their connectives. -/
theorem allText_ledTerminals_cons (keyword : String) {p : Predicate} {ps : List Predicate}
    {cs : List Chunk} {rest : List (List Chunk)} (hp : allText p.terminals = Chunk.allSql cs)
    (hps : allText (ledTerminals none ps) = Chunk.allSql (rest.flatMap (.text " " :: ·))) :
    allText (ledTerminals (some keyword) (p :: ps)) =
      Chunk.allSql ((Chunk.clause keyword (cs :: rest)).flatMap (.text " " :: ·)) := by
  apply String.toList_inj.mp
  simp [ledTerminals, Chunk.clause, Chunk.separated_cons, Terminal.text, Chunk.sql, hp, hps]

mutual

/-- A predicate is the texts of its terminals. -/
theorem Predicate.allText_terminals {part : String} : (p : Predicate) → {cs : List Chunk} →
    p.chunks part = .ok cs → allText p.terminals = Chunk.allSql cs
  | .basic .., cs, h | .column .., cs, h | .raw .., cs, h => by
    cases h
    apply String.toList_inj.mp
    simp [Predicate.terminals, Terminal.text, Chunk.sql]
  | .member _ values negated _, cs, h => by
    rw [Predicate.chunks] at h
    apply String.toList_inj.mp
    cases hv : values.isEmpty <;> rw [hv] at h <;> cases h <;> cases negated <;>
      simp [Predicate.terminals, hv, Terminal.text, Chunk.sql, negatable, Operator.keyword,
        List.map_const']
  | .null _ negated _, cs, h | .between _ _ _ negated _, cs, h => by
    cases h
    apply String.toList_inj.mp
    cases negated <;>
      simp [Predicate.terminals, Terminal.text, Chunk.sql, negatable, Operator.keyword]
  | .exist query negated _, cs, h => by
    obtain ⟨body, hbody, hcs⟩ := bind_eq_ok.mp h
    cases hcs
    have ih := query.allText_bodyTerminals hbody
    have hend := query.allText_endTerminals
    apply String.toList_inj.mp
    cases negated <;>
      simp [Predicate.terminals, Terminal.text, Chunk.sql, negatable, ih, hend,
        Descriptor.closeChunks, Chunk.separated_cons]

/-- Predicates after their connectives are the texts of their terminals. -/
theorem allText_ledTerminals {part : String} : (ps : List Predicate) → {parts : List (List Chunk)} →
    predicateParts part false ps = .ok parts →
      allText (ledTerminals none ps) = Chunk.allSql (parts.flatMap (.text " " :: ·))
  | [], parts, h => by
    cases h
    rfl
  | p :: ps, parts, h => by
    obtain ⟨cs, hcs, rest, hrest, rfl⟩ := predicateParts_cons_eq_ok.mp h
    have hp := p.allText_terminals hcs
    have hps := allText_ledTerminals ps hrest
    apply String.toList_inj.mp
    simp [ledTerminals, Terminal.text, Chunk.sql, hp, hps]

/-- Predicates after their keyword are the texts of their terminals. -/
theorem allText_ledTerminals_some {part : String} (keyword : String) : (ps : List Predicate) →
    {parts : List (List Chunk)} → predicateParts part true ps = .ok parts →
      allText (ledTerminals (some keyword) ps) =
        Chunk.allSql ((Chunk.clause keyword parts).flatMap (.text " " :: ·))
  | [], parts, h => by
    cases h
    rfl
  | p :: ps, parts, h => by
    obtain ⟨cs, hcs, rest, hrest, rfl⟩ := predicateParts_cons_eq_ok.mp h
    exact allText_ledTerminals_cons keyword (p.allText_terminals hcs)
      (allText_ledTerminals ps hrest)

/-- Parts of a union are the texts of their terminals. -/
theorem allText_unionTerminals : (parts : List UnionPart) → {chunks : List (List Chunk)} →
    unionChunks parts = .ok chunks →
      allText (unionTerminals parts) = Chunk.allSql (chunks.flatMap (.text " " :: ·))
  | [], chunks, h => by
    cases h
    rfl
  | ⟨operator, query⟩ :: parts, chunks, h => by
    obtain ⟨body, hbody, h⟩ := bind_eq_ok.mp h
    obtain ⟨rest, hrest, hchunks⟩ := bind_eq_ok.mp h
    cases hchunks
    have hquery := query.allText_bodyTerminals hbody
    have hparts := allText_unionTerminals parts hrest
    apply String.toList_inj.mp
    cases he : query.unions.isEmpty <;>
      simp [unionTerminals, he, Terminal.text, Chunk.sql, hquery, hparts]

/-- The body of a query is the texts of its terminals. -/
theorem Descriptor.allText_bodyTerminals : (d : Descriptor) → {cs : List Chunk} →
    d.bodyChunks = .ok cs → allText d.bodyTerminals = Chunk.allSql cs
  | { table, tableAlias, columns, wheres, havings, joins, order, groups, limit, offset, distinct,
      aggregates, unions, pending, banks }, cs, h => by
    obtain ⟨predicates, hwheres, h⟩ := bind_eq_ok.mp h
    obtain ⟨conditions, hhavings, h⟩ := bind_eq_ok.mp h
    obtain ⟨parts, hunions, hcs⟩ := bind_eq_ok.mp h
    cases hcs
    have hw := allText_ledTerminals_some "WHERE" wheres hwheres
    have hh := allText_ledTerminals_some "HAVING" havings hhavings
    have hu := allText_unionTerminals unions hunions
    simp [Descriptor.bodyTerminals, Chunk.separated_cons, Chunk.texts, Chunk.sql, hw, hh, hu,
      allText_headTerminals, allText_flatMap_joinTerminals, allText_groupTerminals]

end

/-- A query compiles to the texts of its terminals. -/
theorem Descriptor.sql_eq_allText {d : Descriptor} {s : Statement} (h : d.select = .ok s) :
    s.sql = allText d.terminals := by
  rw [select_eq_map_chunks] at h
  obtain ⟨cs, hcs, rfl⟩ := map_eq_ok.mp h
  obtain ⟨body, hbody, rfl⟩ := map_eq_ok.mp hcs
  simp [Statement.ofChunks, terminals, closeChunks, Chunk.separated_cons,
    d.allText_bodyTerminals hbody, d.allText_endTerminals]

/-! ## What is opaque -/

namespace Terminal

variable {P : String → Prop}

/-- A terminal that is opaque has a property. -/
def Has (P : String → Prop) : Terminal → Prop
  | atom s => P s
  | _ => True

/-- What is opaque among terminals has a property. -/
def AllHave (P : String → Prop) (ts : List Terminal) : Prop := ∀ t ∈ ts, t.Has P

@[simp] theorem has_atom (s : String) : (atom s).Has P ↔ P s := Iff.rfl

@[simp] theorem has_word (s : String) : (word s).Has P := trivial

@[simp] theorem has_operator (o : Operator) : (operator o).Has P := trivial

@[simp] theorem has_mark : mark.Has P := trivial

@[simp] theorem has_blank : blank.Has P := trivial

@[simp] theorem allHave_nil : AllHave P [] := by simp [AllHave]

@[simp] theorem allHave_cons (t : Terminal) (ts : List Terminal) :
    AllHave P (t :: ts) ↔ t.Has P ∧ AllHave P ts := by simp [AllHave]

@[simp] theorem allHave_append (ts us : List Terminal) :
    AllHave P (ts ++ us) ↔ AllHave P ts ∧ AllHave P us := by
  simp [AllHave, or_imp, forall_and]

/-- Commas are not opaque. -/
theorem AllHave.listed : ∀ {parts : List (List Terminal)}, (∀ p ∈ parts, AllHave P p) →
    AllHave P (listed parts)
  | [], _ => by simp [Terminal.listed, List.intercalate]
  | [p], h => by simpa using h
  | p :: q :: ps, h => by
    have ih : AllHave P (Terminal.listed (q :: ps)) :=
      AllHave.listed fun r hr => h r (List.mem_cons_of_mem p hr)
    rw [listed_cons_cons]
    simpa [ih] using h p List.mem_cons_self

end Terminal

section Opaque

open Terminal (AllHave allHave_append)

variable {P : String → Prop}

/-- What is opaque in the head of a query has what its verbatim texts have. -/
theorem Descriptor.OwnHave.headTerminals {d : Descriptor} (h : d.OwnHave P) :
    AllHave P (headTerminals d.table d.tableAlias d.columns d.distinct d.aggregates) := by
  have hitems : AllHave P (itemTerminals d.columns d.aggregates) := by
    rw [itemTerminals.eq_def]
    split
    · next a as ha =>
      obtain ⟨hcolumn, hlabel⟩ := h.aggregates a (by simp [ha])
      simpa using ⟨hcolumn, hlabel⟩
    · split
      · simp
      · refine AllHave.listed (List.forall_mem_map.mpr fun v hv => ?_)
        simpa using h.columns v hv
  simp only [FluentSql.headTerminals, allHave_append, hitems]
  cases d.distinct <;> cases d.tableAlias.truthy <;> simp [h.table, h.tableAlias]

/-- What is opaque in the end of a query has what its verbatim texts have. -/
theorem Descriptor.OwnHave.endTerminals {d : Descriptor} (h : d.OwnHave P) :
    AllHave P d.endTerminals := by
  have horder : AllHave P (listed (d.order.map SortKey.terminals)) := by
    refine AllHave.listed (List.forall_mem_map.mpr fun k hk => ?_)
    simpa [SortKey.terminals] using h.order k hk
  rw [Descriptor.endTerminals]
  cases d.order.isEmpty <;> cases d.limit.isNull <;> cases d.offset.isNull <;> simp [horder]

/-- What is opaque in the columns that rows are grouped by has what they have. -/
theorem allHave_groupTerminals {groups : List String} (h : ∀ g ∈ groups, P g) :
    AllHave P (groupTerminals groups) := by
  rw [groupTerminals]
  split
  · simp
  · have hlisted : AllHave P (listed (groups.map fun g => [.atom g])) :=
      AllHave.listed (List.forall_mem_map.mpr fun g hg => by simpa using h g hg)
    simp [hlisted]

/-- What is opaque in joins has what their tables and conditions have. -/
theorem allHave_joinTerminals {joins : List Join} (h : ∀ j ∈ joins, P j.table ∧ P j.condition) :
    AllHave P (joins.flatMap Join.terminals) := by
  intro t ht
  obtain ⟨j, hj, ht⟩ := List.mem_flatMap.mp ht
  have hown : AllHave P j.terminals := by simp [Join.terminals, h j hj]
  exact hown t ht

mutual

/-- What is opaque in a predicate has what its verbatim texts have. -/
theorem Predicate.allHave_terminals : (p : Predicate) →
    Chunk.AllHave P (fun sql _ => P sql) p.verbatim → AllHave P p.terminals
  | .basic .., h | .column .., h | .raw .., h | .null .., h | .between .., h => by
    simpa [Predicate.terminals, Predicate.verbatim] using h
  | .member _ values negated _, h => by
    have hmarks : AllHave P (listed (values.map fun _ => [.mark])) :=
      AllHave.listed (List.forall_mem_map.mpr fun _ _ => by simp)
    rw [Predicate.terminals]
    generalize listed (values.map fun _ => [.mark]) = marks at hmarks ⊢
    split
    · simp
    · simpa [hmarks, Predicate.verbatim] using h
  | .exist query negated _, h => by
    have hbody := query.allHave_bodyTerminals h
    have hend := (Descriptor.allHave_verbatim_iff.mp h).1.endTerminals
    cases negated <;> simp [Predicate.terminals, hbody, hend]
  | .unknown _, _ => by simp [Predicate.terminals]

/-- What is opaque in predicates has what their verbatim texts have. -/
theorem allHave_ledTerminals (keyword : Option String) : (ps : List Predicate) →
    Chunk.AllHave P (fun sql _ => P sql) (predicatesVerbatim ps) →
      AllHave P (ledTerminals keyword ps)
  | [], _ => by simp [ledTerminals]
  | p :: ps, h => by
    obtain ⟨hp, hps⟩ := (Chunk.allHave_append _ _).mp h
    simp [ledTerminals, p.allHave_terminals hp, allHave_ledTerminals none ps hps]

/-- What is opaque in parts of a union has what their verbatim texts have. -/
theorem allHave_unionTerminals : (parts : List UnionPart) →
    Chunk.AllHave P (fun sql _ => P sql) (unionsVerbatim parts) → AllHave P (unionTerminals parts)
  | [], _ => by simp [unionTerminals]
  | ⟨operator, query⟩ :: parts, h => by
    obtain ⟨hquery, hparts⟩ := (Chunk.allHave_append _ _).mp h
    have hbody := query.allHave_bodyTerminals hquery
    have hrest := allHave_unionTerminals parts hparts
    cases he : query.unions.isEmpty <;> simp [unionTerminals, he, hbody, hrest]

/-- What is opaque in the body of a query has what its verbatim texts have. -/
theorem Descriptor.allHave_bodyTerminals : (d : Descriptor) →
    Chunk.AllHave P (fun sql _ => P sql) d.verbatim → AllHave P d.bodyTerminals
  | { wheres, havings, unions, .. }, h => by
    obtain ⟨hown, hw, hh, hu⟩ := Descriptor.allHave_verbatim_iff.mp h
    simp [Descriptor.bodyTerminals, hown.headTerminals, allHave_joinTerminals hown.joins,
      allHave_groupTerminals hown.groups, allHave_ledTerminals _ wheres hw,
      allHave_ledTerminals _ havings hh, allHave_unionTerminals unions hu]

end

/-- What is opaque in a query is verbatim: no terminal of it comes from anywhere but a text of the
user. -/
theorem Descriptor.mem_verbatim_of_atom {d : Descriptor} {a : String} (h : .atom a ∈ d.terminals) :
    a ∈ d.verbatim.map Chunk.sql := by
  have hall : Chunk.AllHave (· ∈ d.verbatim.map Chunk.sql)
      (fun sql _ => sql ∈ d.verbatim.map Chunk.sql) d.verbatim := by
    intro c hc
    have hsql : c.sql ∈ d.verbatim.map Chunk.sql := List.mem_map.mpr ⟨c, hc, rfl⟩
    cases c with
    | text s => exact hsql
    | value v => trivial
    | verbatim sql bindings => exact hsql
  have hbody := d.allHave_bodyTerminals hall
  have hend := (Descriptor.allHave_verbatim_iff.mp hall).1.endTerminals
  exact (allHave_append _ _).mpr ⟨hbody, hend⟩ _ h

end Opaque

end FluentSql
