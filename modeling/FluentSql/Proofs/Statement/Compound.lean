import FluentSql.Proofs.Statement.Chunks

set_option autoImplicit false

/-!
# Unions as they are read

A union is written flat: the query that holds it by itself, and then its parts, each after its set
operator. Set operators have one precedence and are read from the left to the right; so a part that
is itself a union is written as a sub-select, which is one operand. What is read is the tree of
queries that the parts describe; there is one reading and no other.

No query among the operands has an order, a limit or an offset. Those of the query that holds them
all follow the last operand, and those of the parts are not written at all.

## Main definitions

* `FluentSql.Compound`, `FluentSql.Descriptor.compound` — queries combined by set operators, and the
  tree that a query describes.
* `FluentSql.Lexeme`, `FluentSql.Descriptor.lexemes` — what a union is written of.
* `FluentSql.IsCompound`, `FluentSql.IsOperand` — the grammar, with the tree that it reads.
* `FluentSql.Descriptor.unpaged` — a query without the order and the pages of parts of unions.

## Main results

* `FluentSql.Descriptor.select_eq_spelled` — a query is written as its lexemes and its ending.
* `FluentSql.IsCompound.unique` — there is at most one reading.
* `FluentSql.Descriptor.isCompound_lexemes` — the tree that a query describes is one.
* `FluentSql.Descriptor.select_unpaged` — what parts of unions are ordered and cut by plays no part.
-/

namespace FluentSql

/-! ## Compounds -/

/-- Operands combined by set operators. -/
inductive Compound (α : Type) where
  | operand (a : α)
  | combined (left : Compound α) (operator : SetOperator) (right : Compound α)
  deriving DecidableEq, Repr

namespace Compound

variable {α β : Type}

/-- The operands, from the left to the right. -/
def operands : Compound α → List α
  | operand a => [a]
  | combined left _ right => left.operands ++ right.operands

/-- A compound with its operands changed. -/
def map (f : α → β) : Compound α → Compound β
  | operand a => .operand (f a)
  | combined left operator right => .combined (left.map f) operator (right.map f)

end Compound

/-- A query by itself: without the parts of a union, and without an order, a limit and an offset. -/
def Descriptor.core (d : Descriptor) : Descriptor :=
  { d with unions := [], order := [], limit := .null, offset := .null }

mutual

/-- The compound that a query describes: the query by itself, combined with its parts in order. -/
def Descriptor.compound : Descriptor → Compound Descriptor
  | d@{ unions, .. } => combineParts (.operand d.core) unions

/-- A compound with parts of a union combined with it, one after the other. -/
def combineParts (left : Compound Descriptor) : List UnionPart → Compound Descriptor
  | [] => left
  | ⟨operator, query⟩ :: parts => combineParts (.combined left operator query.compound) parts

end

/-! ## Lexemes -/

/-- What a union is written of: an operand, a set operator, and the two ends of a sub-select. -/
inductive Lexeme (α : Type) where
  | operand (a : α)
  | link (operator : SetOperator)
  | opening
  | closing
  deriving DecidableEq, Repr

namespace Lexeme

variable {α β : Type}

/-- A lexeme with the operand that it is changed. -/
def map (f : α → β) : Lexeme α → Lexeme β
  | operand a => .operand (f a)
  | link operator => .link operator
  | opening => .opening
  | closing => .closing

/-- The text of a lexeme; a set operator stands between spaces. -/
def text : Lexeme String → String
  | operand s => s
  | link operator => " " ++ operator.keyword ++ " "
  | opening => "SELECT * FROM ("
  | closing => ") union_branch"

/-- A lexeme as a statement: an operand is what its query compiles to by itself. -/
def statement : Lexeme Descriptor → Except Error Statement
  | operand d => d.select
  | link operator => .ok { sql := text (.link operator), bindings := [] }
  | opening => .ok { sql := text .opening, bindings := [] }
  | closing => .ok { sql := text .closing, bindings := [] }

end Lexeme

mutual

/-- The lexemes that a query is written of. -/
def Descriptor.lexemes : Descriptor → List (Lexeme Descriptor)
  | d@{ unions, .. } => .operand d.core :: partLexemes unions

/-- The lexemes of parts of a union; a part that is itself a union is a sub-select. -/
def partLexemes : List UnionPart → List (Lexeme Descriptor)
  | [] => []
  | ⟨operator, query⟩ :: parts =>
    .link operator :: (if query.unions.isEmpty then query.lexemes
      else .opening :: (query.lexemes ++ [.closing])) ++ partLexemes parts

end

/-- One statement directly after another; what is bound is bound in this order. -/
def Statement.append (s t : Statement) : Statement :=
  { sql := s.sql ++ t.sql, bindings := s.bindings ++ t.bindings }

/-- Lexemes as one statement, one directly after the other. -/
def spelled (ws : List (Lexeme Descriptor)) : Except Error Statement := do
  let ss ← ws.mapM Lexeme.statement
  return { sql := String.join (ss.map Statement.sql)
           bindings := ss.flatMap Statement.bindings }

/-- What follows the operands of a query: its own order, its limit and its offset. -/
def Descriptor.ending (d : Descriptor) : Statement where
  sql :=
    (if d.order.isEmpty then ""
      else " ORDER BY " ++ ", ".intercalate (d.order.map SortKey.text)) ++
    (if d.limit.isNull then "" else " LIMIT ?") ++
    (if d.offset.isNull then "" else " OFFSET ?")
  bindings :=
    (if d.limit.isNull then [] else [d.limit]) ++ (if d.offset.isNull then [] else [d.offset])

/-! ### Compiling lexemes -/

/-- Lexemes are written from the first on. -/
theorem spelled_cons (w : Lexeme Descriptor) (ws : List (Lexeme Descriptor)) :
    spelled (w :: ws) = (do return (← w.statement).append (← spelled ws)) := by
  simp [spelled, Statement.append]

/-- Lexemes after others are written after them. -/
theorem spelled_append (ws ws' : List (Lexeme Descriptor)) :
    spelled (ws ++ ws') = (do return (← spelled ws).append (← spelled ws')) := by
  simp [spelled, Statement.append]

/-- Separated parts are the first ones, separated, and the separator before every other one. -/
theorem Chunk.separated_append (separator : String) {ps : List (List Chunk)} (h : ps ≠ [])
    (qs : List (List Chunk)) :
    separated separator (ps ++ qs) =
      separated separator ps ++ qs.flatMap (.text separator :: ·) := by
  obtain ⟨p, ps, rfl⟩ := List.exists_cons_of_ne_nil h
  simp [separated_cons]

/-- The statement of chunks after others. -/
theorem Statement.ofChunks_append (cs ds : List Chunk) :
    ofChunks (cs ++ ds) = (ofChunks cs).append (ofChunks ds) := by
  simp [ofChunks, append]

/-- The ending of a query is the statement of its last chunks. -/
theorem Descriptor.ofChunks_endParts (d : Descriptor) :
    Statement.ofChunks (d.endParts.flatMap (.text " " :: ·)) = d.ending := by
  have horder : Statement.ofChunks ((Chunk.texts (if d.order.isEmpty then []
        else ["ORDER BY " ++ ", ".intercalate (d.order.map SortKey.text)])).flatMap
          (.text " " :: ·)) =
      { sql := if d.order.isEmpty then ""
          else " ORDER BY " ++ ", ".intercalate (d.order.map SortKey.text), bindings := [] } := by
    cases d.order.isEmpty with
    | true => rfl
    | false => simp [Statement.ofChunks, Chunk.sql, Chunk.bindings, Chunk.texts,
        ← String.append_assoc]
  have hlimit : Statement.ofChunks
      ((if d.limit.isNull then [] else [[.text "LIMIT ", .value d.limit]]).flatMap
        (.text " " :: ·)) =
      { sql := if d.limit.isNull then "" else " LIMIT ?"
        bindings := if d.limit.isNull then [] else [d.limit] } := by
    cases d.limit.isNull <;> rfl
  have hoffset : Statement.ofChunks
      ((if d.offset.isNull then [] else [[.text "OFFSET ", .value d.offset]]).flatMap
        (.text " " :: ·)) =
      { sql := if d.offset.isNull then "" else " OFFSET ?"
        bindings := if d.offset.isNull then [] else [d.offset] } := by
    cases d.offset.isNull <;> rfl
  rw [endParts, List.flatMap_append, List.flatMap_append, Statement.ofChunks_append,
    Statement.ofChunks_append, horder, hlimit, hoffset]
  rfl

/-- A query by itself has nothing after its body. -/
theorem Descriptor.select_core (d : Descriptor) :
    d.core.select = d.core.bodyChunks.map Statement.ofChunks := by
  rw [select_eq_map_chunks, chunks]
  cases d.core.bodyChunks with
  | error e => rfl
  | ok body => simp [Except.map, closeChunks, endParts, core, Chunk.texts, Value.isNull]

/-- Parts of a union after what they are written after, each with a space before it. -/
def Chunk.following (parts : List (List Chunk)) : Statement :=
  .ofChunks (parts.flatMap (.text " " :: ·))

/-- The body of a query is written as the query by itself, and then its parts. -/
theorem Descriptor.map_bodyChunks (d : Descriptor) :
    d.bodyChunks.map Statement.ofChunks =
      (do return (← d.core.select).append (Chunk.following (← unionChunks d.unions))) := by
  rw [select_core]
  obtain ⟨table, tableAlias, columns, wheres, havings, joins, order, groups, limit, offset,
    distinct, aggregates, unions, pending, banks⟩ := d
  rw [core, bodyChunks, bodyChunks]
  cases predicateParts "WHERE" true wheres with
  | error e => rfl
  | ok predicates =>
    cases predicateParts "HAVING" true havings with
    | error e => rfl
    | ok conditions =>
      cases unionChunks unions with
      | error e => rfl
      | ok parts =>
        simp only [unionChunks, bind, Except.bind, pure_eq_ok, Except.map, List.append_nil,
          Chunk.following]
        rw [Chunk.separated_append, Statement.ofChunks_append]
        simp [Chunk.texts]

/-- A statement as a sub-select. -/
def Statement.grouped (s : Statement) : Statement where
  sql := Lexeme.text .opening ++ s.sql ++ Lexeme.text .closing
  bindings := s.bindings

/-- A sub-select is written as what it encloses, between its two ends. -/
theorem spelled_group (ws : List (Lexeme Descriptor)) :
    spelled (.opening :: (ws ++ [.closing])) = (spelled ws).map Statement.grouped := by
  rw [spelled_cons, spelled_append]
  cases spelled ws with
  | error e => rfl
  | ok s => simp [spelled, Lexeme.statement, Lexeme.text, Statement.append, Statement.grouped, bind,
      Except.bind, pure_eq_ok, Except.map, String.append_assoc]

/-- The chunks of an operand are those of a body, or of a body as a sub-select. -/
theorem ofChunks_operand (query : Descriptor) (body : List Chunk) :
    Statement.ofChunks (if query.unions.isEmpty then body
      else .text "SELECT * FROM (" :: (body ++ [.text ") union_branch"])) =
      if query.unions.isEmpty then .ofChunks body else (Statement.ofChunks body).grouped := by
  cases query.unions.isEmpty with
  | true => rfl
  | false => simp [Statement.ofChunks, Statement.grouped, Lexeme.text, Chunk.sql,
      Chunk.bindings, String.append_assoc]

/-- A part of a union is written as its set operator, between spaces, and its operand. -/
theorem following_cons (operator : SetOperator) (operand : List Chunk)
    (rest : List (List Chunk)) :
    Chunk.following ((.text (operator.keyword ++ " ") :: operand) :: rest) =
      Statement.append { sql := Lexeme.text (.link operator), bindings := [] }
        ((Statement.ofChunks operand).append (Chunk.following rest)) := by
  simp [Chunk.following, Statement.ofChunks, Statement.append, Lexeme.text, Chunk.sql,
    Chunk.bindings, String.append_assoc]

mutual

/-- The body of a query is written as its lexemes. -/
theorem Descriptor.map_bodyChunks_eq_spelled :
    (d : Descriptor) → d.bodyChunks.map Statement.ofChunks = spelled d.lexemes
  | { unions, .. } => by
    have hparts := map_following_eq_spelled unions
    rw [Descriptor.map_bodyChunks, Descriptor.lexemes, spelled_cons, ← hparts, Lexeme.statement]
    dsimp only
    cases unionChunks unions <;> rfl

/-- Parts of a union are written as their lexemes. -/
theorem map_following_eq_spelled :
    (parts : List UnionPart) → (unionChunks parts).map Chunk.following = spelled (partLexemes parts)
  | [] => rfl
  | ⟨operator, query⟩ :: parts => by
    have hquery := query.map_bodyChunks_eq_spelled
    have hparts := map_following_eq_spelled parts
    have hoperand : spelled (if query.unions.isEmpty then query.lexemes
          else .opening :: (query.lexemes ++ [.closing])) =
        (spelled query.lexemes).map fun s => if query.unions.isEmpty then s else s.grouped := by
      cases query.unions.isEmpty with
      | true =>
        rw [if_pos rfl]
        cases spelled query.lexemes <;> rfl
      | false => exact spelled_group query.lexemes
    rw [partLexemes, List.cons_append, spelled_cons, spelled_append, hoperand, ← hparts, ← hquery,
      unionChunks]
    cases query.bodyChunks with
    | error e => rfl
    | ok body =>
      cases unionChunks parts with
      | error e => rfl
      | ok rest =>
        simp only [bind, Except.bind, pure_eq_ok, Except.map, Lexeme.statement]
        rw [following_cons, ofChunks_operand]

end

/-- A query is written as its lexemes, and then its ending.

**Proof sketch.** The chunks of the body are the lexemes spelled out, part by part of the union, and
the ending is what its order and its page are written as. -/
theorem Descriptor.select_eq_spelled (d : Descriptor) :
    d.select = (spelled d.lexemes).map (·.append d.ending) := by
  rw [select_eq_map_chunks, chunks, ← map_bodyChunks_eq_spelled]
  cases d.bodyChunks with
  | error e => rfl
  | ok body =>
    simp only [Except.map, closeChunks]
    rw [Chunk.separated_cons, Statement.ofChunks_append, ofChunks_endParts]

/-! ## The grammar -/

section Grammar

variable {α β : Type}

mutual

/-- Compounds: operands with set operators between them, read from the left to the right. -/
inductive IsCompound : List (Lexeme α) → Compound α → Prop
  | first {ws : List (Lexeme α)} {t : Compound α} (only : IsOperand ws t) : IsCompound ws t
  | link {ws ws' : List (Lexeme α)} {t t' : Compound α} (left : IsCompound ws t)
    (operator : SetOperator) (right : IsOperand ws' t') :
    IsCompound (ws ++ .link operator :: ws') (.combined t operator t')

/-- Operands: queries, and compounds as sub-selects. -/
inductive IsOperand : List (Lexeme α) → Compound α → Prop
  | query (a : α) : IsOperand [.operand a] (.operand a)
  | group {ws : List (Lexeme α)} {t : Compound α} (inner : IsCompound ws t) :
    IsOperand (.opening :: (ws ++ [.closing])) t

end

/-- The compound that an operand completes, which comes after a compound and a set operator or
after nothing. -/
def completed (before : Option (Compound α × SetOperator)) (t : Compound α) : Compound α :=
  match before with
  | none => t
  | some (left, operator) => .combined left operator t

/-- Reads lexemes one after the other. For every sub-select that is not closed, the innermost first,
and for the whole, there is what comes before its next operand; `done` is the compound at hand once
its last operand is complete. -/
def readOn : List (Option (Compound α × SetOperator)) → Option (Compound α) → List (Lexeme α) →
    Option (Compound α)
  | _, done, [] => done
  | before :: outer, none, .operand a :: ws =>
    readOn (none :: outer) (some (completed before (.operand a))) ws
  | outer, none, .opening :: ws => readOn (none :: outer) none ws
  | _ :: outer, some t, .link operator :: ws => readOn (some (t, operator) :: outer) none ws
  | _ :: before :: outer, some t, .closing :: ws =>
    readOn (none :: outer) (some (completed before t)) ws
  | _, _, _ :: _ => none

mutual

/-- A compound is read to its end. -/
theorem IsCompound.readOn_append {ws : List (Lexeme α)} {t : Compound α} :
    IsCompound ws t → ∀ (outer : List (Option (Compound α × SetOperator)))
      (rest : List (Lexeme α)),
      readOn (none :: outer) none (ws ++ rest) = readOn (none :: outer) (some t) rest
  | .first only => fun outer rest => only.readOn_append none outer rest
  | .link left operator right => fun outer rest => by
    rw [List.append_assoc, left.readOn_append outer, List.cons_append, readOn,
      right.readOn_append _ outer]
    rfl

/-- An operand is read to its end, and completes what comes before it. -/
theorem IsOperand.readOn_append {ws : List (Lexeme α)} {t : Compound α} :
    IsOperand ws t → ∀ (before : Option (Compound α × SetOperator))
      (outer : List (Option (Compound α × SetOperator))) (rest : List (Lexeme α)),
      readOn (before :: outer) none (ws ++ rest) =
        readOn (none :: outer) (some (completed before t)) rest
  | .query a => fun before outer rest => rfl
  | .group inner => fun before outer rest => by
    rw [List.cons_append, List.append_assoc, readOn, inner.readOn_append (before :: outer)]
    rfl

end

/-- There is at most one reading of lexemes as a compound.

**Proof sketch.** `readOn` goes over the lexemes once, from left to right, and comes to the compound
of any reading of them. -/
theorem IsCompound.unique {ws : List (Lexeme α)} {t t' : Compound α} (h : IsCompound ws t)
    (h' : IsCompound ws t') : t = t' := by
  have hread := h.readOn_append [] []
  rw [h'.readOn_append [] []] at hread
  simpa [readOn] using hread.symm

mutual

/-- What changes operands changes the compound that is read. -/
theorem IsCompound.map (f : α → β) {ws : List (Lexeme α)} {t : Compound α} :
    IsCompound ws t → IsCompound (ws.map (Lexeme.map f)) (t.map f)
  | .first only => .first (only.map f)
  | .link left operator right => by
    rw [List.map_append, List.map_cons]
    exact .link (left.map f) operator (right.map f)

/-- What changes operands changes the operand that is read. -/
theorem IsOperand.map (f : α → β) {ws : List (Lexeme α)} {t : Compound α} :
    IsOperand ws t → IsOperand (ws.map (Lexeme.map f)) (t.map f)
  | .query a => .query (f a)
  | .group inner => by
    rw [List.map_cons, List.map_append]
    exact .group (inner.map f)

end

end Grammar

/-! ## The reading of a query -/

/-- A query that is no union is one operand. -/
theorem Descriptor.lexemes_of_isEmpty {d : Descriptor} (h : d.unions.isEmpty = true) :
    d.lexemes = [.operand d.core] ∧ d.compound = .operand d.core := by
  obtain ⟨_, _, _, _, _, _, _, _, _, _, _, _, unions, _, _⟩ := d
  cases unions with
  | nil => exact ⟨rfl, rfl⟩
  | cons part parts => cases h

mutual

/-- The lexemes of a query are read as the compound that it describes. -/
theorem Descriptor.isCompound_lexemes :
    (d : Descriptor) → IsCompound d.lexemes d.compound
  | { unions, .. } => by
    rw [Descriptor.lexemes, Descriptor.compound]
    exact isCompound_append_partLexemes unions (.first (.query _))

/-- The lexemes of parts of a union after those of a compound are read as the compound with the
parts combined with it. -/
theorem isCompound_append_partLexemes (parts : List UnionPart) {ws : List (Lexeme Descriptor)}
    {left : Compound Descriptor} (h : IsCompound ws left) :
    IsCompound (ws ++ partLexemes parts) (combineParts left parts) :=
  match parts with
  | [] => by
    rw [partLexemes, List.append_nil, combineParts]
    exact h
  | ⟨operator, query⟩ :: parts => by
    have hquery := query.isCompound_lexemes
    have hoperand : IsOperand (if query.unions.isEmpty then query.lexemes
        else .opening :: (query.lexemes ++ [.closing])) query.compound := by
      split
      · next h =>
        obtain ⟨hlexemes, hcompound⟩ := Descriptor.lexemes_of_isEmpty h
        rw [hlexemes, hcompound]
        exact .query query.core
      · exact .group hquery
    have hlink := isCompound_append_partLexemes parts (.link h operator hoperand)
    rw [partLexemes, combineParts]
    simpa using hlink

end

mutual

/-- The operands of what a query describes are queries by themselves. -/
theorem Descriptor.core_eq_of_mem_operands :
    (d : Descriptor) → ∀ q ∈ d.compound.operands, q.core = q
  | { unions, .. } => by
    rw [Descriptor.compound]
    refine core_eq_of_mem_combineParts unions fun q hq => ?_
    rw [List.mem_singleton.mp hq]
    rfl

/-- Parts of a union add queries by themselves to the operands. -/
theorem core_eq_of_mem_combineParts (parts : List UnionPart) {left : Compound Descriptor}
    (h : ∀ q ∈ left.operands, q.core = q) :
    ∀ q ∈ (combineParts left parts).operands, q.core = q :=
  match parts with
  | [] => by
    rw [combineParts]
    exact h
  | ⟨operator, query⟩ :: parts => by
    have hquery := query.core_eq_of_mem_operands
    rw [combineParts]
    refine core_eq_of_mem_combineParts parts fun q hq => ?_
    exact (List.mem_append.mp hq).elim (h q) (hquery q)

end

/-! ## The order and the pages of parts -/

/-- A query without its order, its limit and its offset. -/
def Descriptor.unended (d : Descriptor) : Descriptor :=
  { d with order := [], limit := .null, offset := .null }

mutual

/-- A predicate without the order and the pages of parts of unions in it. -/
def Predicate.unpaged : Predicate → Predicate
  | .exist query negated logical => .exist query.unpaged negated logical
  | p => p

/-- Predicates without the order and the pages of parts of unions in them. -/
def unpagedPredicates : List Predicate → List Predicate
  | [] => []
  | p :: ps => p.unpaged :: unpagedPredicates ps

/-- Parts of a union without their order and their pages, and without those of parts in them. -/
def unpagedUnions : List UnionPart → List UnionPart
  | [] => []
  | ⟨operator, query⟩ :: parts => ⟨operator, query.unpaged.unended⟩ :: unpagedUnions parts

/-- A query without the order and the pages of parts of unions, at any depth. Its own order and
pages stay, and so do those of a query whose existence it tests. -/
def Descriptor.unpaged : Descriptor → Descriptor
  | { table, tableAlias, columns, wheres, havings, joins, order, groups, limit, offset, distinct,
      aggregates, unions, pending, banks } => {
    table, tableAlias, columns, joins, order, groups, limit, offset, distinct, aggregates, pending,
    banks
    wheres := unpagedPredicates wheres
    havings := unpagedPredicates havings
    unions := unpagedUnions unions }

end

@[simp] theorem Predicate.logical_unpaged (p : Predicate) : p.unpaged.logical = p.logical := by
  cases p <;> rfl

namespace Descriptor

/-- A query is still a union without the order and the pages of its parts, and no other is. -/
theorem isEmpty_unions_unpaged (d : Descriptor) :
    d.unpaged.unended.unions.isEmpty = d.unions.isEmpty := by
  obtain ⟨_, _, _, _, _, _, _, _, _, _, _, _, unions, _, _⟩ := d
  rw [unpaged, unended]
  rcases unions with _ | ⟨⟨operator, query⟩, parts⟩ <;> rfl

/-- The body of a query does not depend on its order, its limit and its offset. -/
theorem bodyChunks_unended (d : Descriptor) : d.unended.bodyChunks = d.bodyChunks := by
  obtain ⟨_, _, _, _, _, _, _, _, _, _, _, _, _, _, _⟩ := d
  rfl

/-- What closes a query does not depend on the order and the pages of parts. -/
theorem closeChunks_unpaged (d : Descriptor) (body : List Chunk) :
    d.unpaged.closeChunks body = d.closeChunks body := by
  obtain ⟨_, _, _, _, _, _, _, _, _, _, _, _, _, _, _⟩ := d
  rfl

end Descriptor

mutual

/-- The chunks of a predicate do not depend on the order and the pages of parts in it. -/
theorem Predicate.chunks_unpaged (part : String) :
    (p : Predicate) → p.unpaged.chunks part = p.chunks part
  | .basic .. | .column .. | .raw .. | .member .. | .null .. | .between .. | .unknown _ => rfl
  | .exist query negated _ => by
    rw [Predicate.unpaged, Predicate.chunks, Predicate.chunks, query.bodyChunks_unpaged]
    simp only [query.closeChunks_unpaged]

/-- The parts of predicates do not depend on the order and the pages of parts of unions in them. -/
theorem predicateParts_unpaged (part : String) (first : Bool) :
    (ps : List Predicate) →
      predicateParts part first (unpagedPredicates ps) = predicateParts part first ps
  | [] => rfl
  | p :: ps => by
    rw [unpagedPredicates, predicateParts, predicateParts, p.chunks_unpaged part,
      predicateParts_unpaged part false ps, p.logical_unpaged]

/-- The chunks of parts of a union do not depend on their order and their pages. -/
theorem unionChunks_unpaged :
    (parts : List UnionPart) → unionChunks (unpagedUnions parts) = unionChunks parts
  | [] => rfl
  | ⟨operator, query⟩ :: parts => by
    rw [unpagedUnions, unionChunks, unionChunks, query.unpaged.bodyChunks_unended,
      query.bodyChunks_unpaged, unionChunks_unpaged parts, query.isEmpty_unions_unpaged]

/-- The body of a query does not depend on the order and the pages of parts. -/
theorem Descriptor.bodyChunks_unpaged :
    (d : Descriptor) → d.unpaged.bodyChunks = d.bodyChunks
  | { table, tableAlias, columns, wheres, havings, joins, order, groups, limit, offset, distinct,
      aggregates, unions, pending, banks } => by
    rw [Descriptor.unpaged, Descriptor.bodyChunks, Descriptor.bodyChunks,
      predicateParts_unpaged "WHERE" true wheres, predicateParts_unpaged "HAVING" true havings,
      unionChunks_unpaged unions]

end

/-- What a query compiles to does not depend on the order and the pages of parts of unions. -/
theorem Descriptor.select_unpaged (d : Descriptor) : d.unpaged.select = d.select := by
  rw [select_eq_map_chunks, select_eq_map_chunks, chunks, chunks, d.bodyChunks_unpaged]
  cases d.bodyChunks with
  | error e => rfl
  | ok body => exact congrArg (Except.ok ∘ Statement.ofChunks) (d.closeChunks_unpaged body)

end FluentSql
