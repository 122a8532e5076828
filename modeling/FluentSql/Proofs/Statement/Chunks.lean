import FluentSql.Proofs.Failure
import FluentSql.Statement.Select

set_option autoImplicit false

/-!
# The chunks of a statement

Compiling a query threads one list of bound values through every query nested in it. This module
describes the same statement without that list: every query is assigned its chunks, by recursion on
its structure alone. A chunk is literal text, one bound value, or verbatim SQL that brings its own
values. The text of the statement is the chunks one after the other, a `?` for every bound value,
and its bound values are those of the chunks in order.

## Main definitions

* `FluentSql.Chunk` — a chunk, with its text `sql` and its values `bindings`.
* `FluentSql.Descriptor.chunks` — the chunks of a query; `FluentSql.predicateChunks` those of a
  predicate list on its own.
* `FluentSql.Statement.ofChunks` — the statement that chunks make up.

## Main results

* `FluentSql.Descriptor.select_eq_map_chunks` — a SELECT is made up of the chunks of its query.
* `FluentSql.whereStatement_eq_map_chunks` — and a predicate list of its own chunks.
-/

namespace FluentSql

/-! ## Chunks -/

/-- A piece of a statement. -/
inductive Chunk where
  /-- Literal text. -/
  | text (s : String)
  /-- One bound value. -/
  | value (v : Value)
  /-- Verbatim SQL with bound values of its own. -/
  | verbatim (sql : String) (bindings : List Value)
  deriving Inhabited

namespace Chunk

/-- The text that a chunk contributes. -/
def sql : Chunk → String
  | .text s => s
  | .value _ => "?"
  | .verbatim sql _ => sql

/-- The bound values that a chunk contributes. -/
def bindings : Chunk → List Value
  | .text _ => []
  | .value v => [v]
  | .verbatim _ bindings => bindings

/-- The text of chunks, one after the other. -/
def allSql (cs : List Chunk) : String := String.join (cs.map sql)

/-- The bound values of chunks, in order. -/
def allBindings (cs : List Chunk) : List Value := cs.flatMap bindings

/-- Lists of chunks with a text between any two of them. -/
def separated (separator : String) (parts : List (List Chunk)) : List Chunk :=
  List.intercalate [.text separator] parts

@[simp] theorem allSql_nil : allSql [] = "" := rfl

@[simp] theorem allSql_cons (c : Chunk) (cs : List Chunk) :
    allSql (c :: cs) = c.sql ++ allSql cs := by simp [allSql]

@[simp] theorem allSql_append (cs ds : List Chunk) :
    allSql (cs ++ ds) = allSql cs ++ allSql ds := by simp [allSql]

@[simp] theorem allBindings_nil : allBindings [] = [] := rfl

@[simp] theorem allBindings_cons (c : Chunk) (cs : List Chunk) :
    allBindings (c :: cs) = c.bindings ++ allBindings cs := rfl

@[simp] theorem allBindings_append (cs ds : List Chunk) :
    allBindings (cs ++ ds) = allBindings cs ++ allBindings ds := by simp [allBindings]

theorem separated_cons_cons (separator : String) (p q : List Chunk) (ps : List (List Chunk)) :
    separated separator (p :: q :: ps) = p ++ .text separator :: separated separator (q :: ps) := by
  simp [separated, List.intercalate]

@[simp] theorem separated_singleton (separator : String) (p : List Chunk) :
    separated separator [p] = p := by
  simp [separated, List.intercalate]

/-- Separated parts are the first one, and the separator before every other one. -/
theorem separated_cons (separator : String) (p : List Chunk) (ps : List (List Chunk)) :
    separated separator (p :: ps) = p ++ ps.flatMap (.text separator :: ·) := by
  induction ps generalizing p with
  | nil => simp
  | cons q qs ih =>
    rw [separated_cons_cons, ih]
    simp

/-- The text of separated parts is that of the parts with the separator between them. -/
@[simp] theorem allSql_separated (separator : String) (parts : List (List Chunk)) :
    allSql (separated separator parts) = separator.intercalate (parts.map allSql) := by
  induction parts with
  | nil => simp [separated, List.intercalate]
  | cons p ps ih =>
    cases ps with
    | nil => simp
    | cons q qs =>
      rw [separated_cons_cons, allSql_append, allSql_cons, ih]
      simp [sql, String.append_assoc]

/-- A separator binds nothing. -/
@[simp] theorem allBindings_separated (separator : String) (parts : List (List Chunk)) :
    allBindings (separated separator parts) = parts.flatMap allBindings := by
  induction parts with
  | nil => simp [separated, List.intercalate]
  | cons p ps ih =>
    cases ps with
    | nil => simp
    | cons q qs =>
      rw [separated_cons_cons, allBindings_append, allBindings_cons, ih]
      simp [bindings]

/-- Several bound values with commas between them. -/
def values (vs : List Value) : List Chunk := separated ", " (vs.map fun v => [.value v])

@[simp] theorem allSql_values (vs : List Value) :
    allSql (values vs) = ", ".intercalate (vs.map fun _ => "?") := by
  simp [values, Function.comp_def, sql]

@[simp] theorem allBindings_values (vs : List Value) : allBindings (values vs) = vs := by
  simp [values, List.flatMap_map, bindings]

/-- Texts as parts of their own. -/
def texts (ss : List String) : List (List Chunk) := ss.map fun s => [.text s]

@[simp] theorem map_allSql_texts (ss : List String) : (texts ss).map allSql = ss := by
  simp [texts, Function.comp_def, sql]

@[simp] theorem flatMap_allBindings_texts (ss : List String) :
    (texts ss).flatMap allBindings = [] := by
  simp [texts, List.flatMap_map, bindings]

/-- A keyword and the parts it governs as one part, and none if it governs nothing. -/
def clause (keyword : String) (parts : List (List Chunk)) : List (List Chunk) :=
  if parts.isEmpty then [] else [.text (keyword ++ " ") :: separated " " parts]

@[simp] theorem map_allSql_clause (keyword : String) (parts : List (List Chunk)) :
    (clause keyword parts).map allSql =
      if parts.isEmpty then [] else [keyword ++ " " ++ " ".intercalate (parts.map allSql)] := by
  cases parts with
  | nil => rfl
  | cons p ps => simp [clause, sql]

@[simp] theorem flatMap_allBindings_clause (keyword : String) (parts : List (List Chunk)) :
    (clause keyword parts).flatMap allBindings = parts.flatMap allBindings := by
  cases parts with
  | nil => rfl
  | cons p ps => simp [clause, bindings, List.flatMap_cons, List.flatMap_nil]

end Chunk

/-- The statement that chunks make up. -/
def Statement.ofChunks (cs : List Chunk) : Statement :=
  { sql := Chunk.allSql cs, bindings := Chunk.allBindings cs }

/-! ## The chunks of a query -/

/-- What follows the body of a query: its order, its limit and its offset. -/
def Descriptor.endParts (d : Descriptor) : List (List Chunk) :=
  Chunk.texts (if d.order.isEmpty then []
    else ["ORDER BY " ++ String.intercalate ", " (d.order.map SortKey.text)]) ++
  (if d.limit.isNull then [] else [[.text "LIMIT ", .value d.limit]]) ++
  (if d.offset.isNull then [] else [[.text "OFFSET ", .value d.offset]])

/-- The chunks of a whole query, from those of its body. -/
def Descriptor.closeChunks (d : Descriptor) (body : List Chunk) : List Chunk :=
  Chunk.separated " " (body :: d.endParts)

mutual

/-- The chunks of a predicate without its connective. -/
def Predicate.chunks (part : String) : Predicate → Except Error (List Chunk)
  | .basic column operator v _ =>
    .ok [.text (column ++ " " ++ operator.keyword ++ " "), .value v]
  | .column column operator other _ =>
    .ok [.text (column ++ " " ++ operator.keyword ++ " " ++ other)]
  | .raw sql bindings _ => .ok [.verbatim sql bindings]
  | .member column values negated _ =>
    if values.isEmpty then .ok [.text (if negated then "1=1" else "1=0")]
    else .ok (.text (column ++ " " ++ negatable negated "IN" ++ " (") ::
      (Chunk.values values ++ [.text ")"]))
  | .null column negated _ => .ok [.text (column ++ " IS " ++ negatable negated "NULL")]
  | .between column low high negated _ =>
    .ok [.text (column ++ " " ++ negatable negated "BETWEEN" ++ " "), .value low, .text " AND ",
      .value high]
  | .exist query negated _ => do
    let body ← query.bodyChunks
    return .text (negatable negated "EXISTS" ++ " (") :: (query.closeChunks body ++ [.text ")"])
  | .unknown kind => .error (.unsupportedClause (kind.getD "SimpleNamespace") part)

/-- The chunks of predicates, each but the first with its connective. -/
def predicateParts (part : String) (first : Bool) :
    List Predicate → Except Error (List (List Chunk))
  | [] => .ok []
  | p :: ps => do
    let chunks ← p.chunks part
    let rest ← predicateParts part false ps
    return (if first then chunks else .text (p.logical.keyword ++ " ") :: chunks) :: rest

/-- The chunks of the parts of a union, each with its operator. -/
def unionChunks : List UnionPart → Except Error (List (List Chunk))
  | [] => .ok []
  | ⟨operator, query⟩ :: parts => do
    let body ← query.bodyChunks
    let operand := if query.unions.isEmpty then body
      else .text "SELECT * FROM (" :: (body ++ [.text ") union_branch"])
    let rest ← unionChunks parts
    return (.text (operator.keyword ++ " ") :: operand) :: rest

/-- The chunks of a query without its order, limit and offset. -/
def Descriptor.bodyChunks : Descriptor → Except Error (List Chunk)
  | { table, tableAlias, columns, wheres, havings, joins, order := _, groups, limit := _,
      offset := _, distinct, aggregates, unions, pending := _, banks := _ } => do
    let predicates ← predicateParts "WHERE" true wheres
    let conditions ← predicateParts "HAVING" true havings
    let parts ← unionChunks unions
    return Chunk.separated " " (Chunk.texts
        (selectHead table tableAlias columns distinct aggregates :: joins.map Join.text) ++
      Chunk.clause "WHERE" predicates ++
      Chunk.texts
        (if groups.isEmpty then [] else ["GROUP BY " ++ String.intercalate ", " groups]) ++
      Chunk.clause "HAVING" conditions ++ parts)

end

/-- The chunks of a whole query. -/
def Descriptor.chunks (d : Descriptor) : Except Error (List Chunk) :=
  d.bodyChunks.map d.closeChunks

/-- The chunks of a predicate list on its own, without a keyword. -/
def predicateChunks (ps : List Predicate) : Except Error (List Chunk) :=
  (predicateParts "WHERE" true ps).map (Chunk.separated " ")

/-- The parts of a predicate list that is not empty. -/
theorem predicateParts_cons_eq_ok {part : String} {first : Bool} {p : Predicate}
    {ps : List Predicate} {parts : List (List Chunk)} :
    predicateParts part first (p :: ps) = .ok parts ↔
      ∃ chunks, p.chunks part = .ok chunks ∧ ∃ rest, predicateParts part false ps = .ok rest ∧
        (if first then chunks else .text (p.logical.keyword ++ " ") :: chunks) :: rest = parts := by
  simp only [predicateParts, bind_eq_ok, pure, Except.pure, Except.ok.injEq]

/-- A predicate list has parts exactly if it has predicates. -/
theorem isEmpty_predicateParts {part : String} {first : Bool} {ps : List Predicate}
    {parts : List (List Chunk)} (h : predicateParts part first ps = .ok parts) :
    parts.isEmpty = ps.isEmpty := by
  cases ps with
  | nil =>
    rw [predicateParts, Except.ok.injEq] at h
    simp [← h]
  | cons p ps =>
    obtain ⟨chunks, -, rest, -, rfl⟩ := predicateParts_cons_eq_ok.mp h
    rfl

/-! ## Assembling chunks -/

namespace Assembly

/-- The assembly that writes given chunks. -/
def ofChunks (cs : Except Error (List Chunk)) : Assembly String := fun bound =>
  cs.map fun cs => (Chunk.allSql cs, bound ++ Chunk.allBindings cs)

/-- The assembly that writes given parts, each to a text of its own. -/
def ofParts (parts : Except Error (List (List Chunk))) : Assembly (List String) := fun bound =>
  parts.map fun parts => (parts.map Chunk.allSql, bound ++ parts.flatMap Chunk.allBindings)

/-- What an assembly of chunks makes from no bound values is the statement of the chunks. -/
theorem statement_ofChunks (cs : Except Error (List Chunk)) :
    (ofChunks cs).statement = cs.map Statement.ofChunks := by
  cases cs <;> rfl

/-- What is there already is assembled without binding anything. -/
theorem pure_apply {α : Type} (x : α) (bound : List Value) :
    (pure x : Assembly α) bound = .ok (x, bound) := rfl

/-- What is assembled after chunks starts from their bound values. -/
theorem ofChunks_ok_bind {α : Type} (cs : List Chunk) (f : String → Assembly α)
    (bound : List Value) :
    (ofChunks (.ok cs) >>= f) bound = f (Chunk.allSql cs) (bound ++ Chunk.allBindings cs) := rfl

/-- What is assembled after parts starts from their bound values. -/
theorem ofParts_ok_bind {α : Type} (parts : List (List Chunk)) (f : List String → Assembly α)
    (bound : List Value) :
    (ofParts (.ok parts) >>= f) bound =
      f (parts.map Chunk.allSql) (bound ++ parts.flatMap Chunk.allBindings) := rfl

end Assembly

/-- The end of a query is assembled from its own parts. -/
theorem Descriptor.assembleEnd_eq (d : Descriptor) (body : List Chunk) (bound : List Value) :
    d.assembleEnd (Chunk.allSql body) (bound ++ Chunk.allBindings body) =
      .ok (Chunk.allSql (d.closeChunks body), bound ++ Chunk.allBindings (d.closeChunks body)) := by
  cases hl : d.limit.isNull <;> cases ho : d.offset.isNull <;> cases hd : d.order.isEmpty <;>
    simp [Descriptor.assembleEnd, Descriptor.closeChunks, Descriptor.endParts, hl, ho, hd,
      Assembly.bind, Chunk.sql, Chunk.bindings, bind, StateT.bind, Except.bind,
      Assembly.pure_apply, String.append_assoc]

mutual

/-- A predicate is assembled from its chunks. -/
theorem Predicate.assemble_eq (part : String) :
    (p : Predicate) → p.assemble part = .ofChunks (p.chunks part)
  | .basic .. => by
    funext bound
    simp [Predicate.assemble, Predicate.chunks, Assembly.ofChunks, Assembly.bind, Chunk.sql,
      Chunk.bindings, bind, StateT.bind, Except.bind, Assembly.pure_apply, Except.map]
  | .column .. => by
    funext bound
    simp [Predicate.assemble, Predicate.chunks, Assembly.ofChunks, Chunk.sql, Chunk.bindings,
      Assembly.pure_apply, Except.map]
  | .raw .. => by
    funext bound
    simp [Predicate.assemble, Predicate.chunks, Assembly.ofChunks, Assembly.bindAll, Chunk.sql,
      Chunk.bindings, bind, StateT.bind, Except.bind, Assembly.pure_apply, Except.map]
  | .member _ values _ _ => by
    funext bound
    cases h : values.isEmpty <;>
      simp [Predicate.assemble, Predicate.chunks, h, Assembly.ofChunks, Assembly.bindAll, Chunk.sql,
        Chunk.bindings, bind, StateT.bind, Except.bind, Assembly.pure_apply, Except.map,
        String.append_assoc]
  | .null .. => by
    funext bound
    simp [Predicate.assemble, Predicate.chunks, Assembly.ofChunks, Chunk.sql, Chunk.bindings,
      Assembly.pure_apply, Except.map]
  | .between .. => by
    funext bound
    simp [Predicate.assemble, Predicate.chunks, Assembly.ofChunks, Assembly.bind, Chunk.sql,
      Chunk.bindings, bind, StateT.bind, Except.bind, Assembly.pure_apply, Except.map,
      String.append_assoc]
  | .exist query negated _ => by
    have ih := query.assembleBody_eq
    funext bound
    rw [Predicate.assemble, Predicate.chunks, ih]
    cases query.bodyChunks with
    | error e => rfl
    | ok body =>
      rw [Assembly.ofChunks_ok_bind]
      simp [bind, StateT.bind, Except.bind, query.assembleEnd_eq, Assembly.ofChunks, Chunk.sql,
        Chunk.bindings, Assembly.pure_apply, pure_eq_ok, Except.map, String.append_assoc]
  | .unknown _ => by rfl

/-- A predicate list is assembled from the chunks of its predicates. -/
theorem assemblePredicates_eq (part : String) (first : Bool) :
    (ps : List Predicate) →
      assemblePredicates part first ps = .ofParts (predicateParts part first ps)
  | [] => by
    funext bound
    simp [assemblePredicates, predicateParts, Assembly.ofParts, Assembly.pure_apply, Except.map]
  | p :: ps => by
    have ihp := p.assemble_eq part
    have ihps := assemblePredicates_eq part false ps
    funext bound
    rw [assemblePredicates, predicateParts, ihp, ihps]
    cases p.chunks part with
    | error e => rfl
    | ok chunks =>
      rw [Assembly.ofChunks_ok_bind]
      cases predicateParts part false ps with
      | error e => rfl
      | ok parts =>
        rw [Assembly.ofParts_ok_bind]
        cases first <;>
          simp [Assembly.ofParts, Chunk.sql, Chunk.bindings, bind, Except.bind,
            Assembly.pure_apply, pure_eq_ok, Except.map, String.append_assoc]

/-- The parts of a union are assembled from their chunks. -/
theorem assembleUnions_eq :
    (parts : List UnionPart) → assembleUnions parts = .ofParts (unionChunks parts)
  | [] => by
    funext bound
    simp [assembleUnions, unionChunks, Assembly.ofParts, Assembly.pure_apply, Except.map]
  | ⟨operator, query⟩ :: parts => by
    have ihq := query.assembleBody_eq
    have ihps := assembleUnions_eq parts
    funext bound
    rw [assembleUnions, unionChunks, ihq, ihps]
    cases query.bodyChunks with
    | error e => rfl
    | ok body =>
      rw [Assembly.ofChunks_ok_bind]
      cases unionChunks parts with
      | error e => rfl
      | ok rest =>
        rw [Assembly.ofParts_ok_bind]
        cases query.unions.isEmpty <;>
          simp [Assembly.ofParts, Chunk.sql, Chunk.bindings, bind, Except.bind,
            Assembly.pure_apply, pure_eq_ok, Except.map, String.append_assoc]

/-- The body of a query is assembled from its chunks. -/
theorem Descriptor.assembleBody_eq : (d : Descriptor) → d.assembleBody = .ofChunks d.bodyChunks
  | { table, tableAlias, columns, wheres, havings, joins, order, groups, limit, offset, distinct,
      aggregates, unions, pending, banks } => by
    have ihw := assemblePredicates_eq "WHERE" true wheres
    have ihh := assemblePredicates_eq "HAVING" true havings
    have ihu := assembleUnions_eq unions
    funext bound
    rw [Descriptor.assembleBody, Descriptor.bodyChunks, ihw, ihh, ihu]
    cases hw : predicateParts "WHERE" true wheres with
    | error e => rfl
    | ok predicates =>
      rw [Assembly.ofParts_ok_bind]
      cases hh : predicateParts "HAVING" true havings with
      | error e => rfl
      | ok conditions =>
        rw [Assembly.ofParts_ok_bind]
        cases unionChunks unions with
        | error e => rfl
        | ok parts =>
          rw [Assembly.ofParts_ok_bind]
          simp [isEmpty_predicateParts hw, isEmpty_predicateParts hh, Assembly.ofChunks, bind,
            Except.bind, Assembly.pure_apply, pure_eq_ok, Except.map]

end

/-! ## Statements are made up of chunks -/

/-- The statement of a query is that of its chunks: what is compiled for a part of it does not
depend on where in the query the part stands.

**Proof sketch.** Assembling a body and an end is binding their chunks after what is bound already;
begun with nothing bound, that is the statement of the chunks. -/
theorem Descriptor.select_eq_map_chunks (d : Descriptor) :
    d.select = d.chunks.map Statement.ofChunks := by
  have h : d.assemble = .ofChunks d.chunks := by
    funext bound
    rw [Descriptor.assemble, d.assembleBody_eq, Descriptor.chunks]
    cases d.bodyChunks with
    | error e => rfl
    | ok body => rw [Assembly.ofChunks_ok_bind, d.assembleEnd_eq]; rfl
  rw [Descriptor.select, h, Assembly.statement_ofChunks]

/-- The statement of a predicate list is that of its chunks. -/
theorem whereStatement_eq_map_chunks (ps : List Predicate) :
    whereStatement ps = (predicateChunks ps).map Statement.ofChunks := by
  rw [whereStatement, assemblePredicates_eq, predicateChunks]
  cases predicateParts "WHERE" true ps with
  | error e => rfl
  | ok parts =>
    simp [Assembly.statement, Assembly.ofParts, Statement.ofChunks, StateT.run, bind, StateT.bind,
      Except.bind, Assembly.pure_apply, pure_eq_ok, Except.map]

end FluentSql
