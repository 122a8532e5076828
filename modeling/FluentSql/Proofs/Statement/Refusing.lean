import FluentSql.Proofs.Rows.Faults
import FluentSql.Proofs.Statement.Chunks
import FluentSql.Session.Writing

set_option autoImplicit false

/-!
# Writes that cannot be compiled

A write is refused if none is queued, if its kind is not known, if it lacks a predicate that it
needs, or if it cannot be compiled. The last of these has three causes: an INSERT without a first
row that has columns, an UPDATE that sets nothing, and a predicate of no known kind. Everything else
that goes wrong while a write is compiled is a fault of its data.

## Main definitions

* `FluentSql.Error.isRefusal`, `FluentSql.NoRefusal` — errors that refuse a write.
* `FluentSql.Predicate.Compares` — a predicate compares a column with a bound value.
* `FluentSql.Value.LacksFirstRow` — there is no first row with columns.

## Main results

* `FluentSql.insertStatement_refuses_iff`, `FluentSql.Descriptor.updateStatement_refuses_iff` and
  their kin — which writes cannot be compiled.
* `FluentSql.onlyErrors_whereStatement` — predicates fail with nothing but refusals.
-/

namespace FluentSql

/-! ## Refusals -/

namespace Error

/-- Whether an error refuses a write: none is queued, its kind is not known, it lacks a predicate,
or it cannot be compiled. -/
def isRefusal : Error → Bool
  | .noPendingAction | .unsupportedAction _ | .missingWhere _ | .emptyInsert | .emptyUpdate
  | .unsupportedDialect .. | .unsupportedClause .. => true
  | _ => false

/-- A fault is no refusal. -/
theorem isRefusal_of_isFault {e : Error} (h : e.isFault = true) : e.isRefusal = false := by
  cases e <;> first | rfl | cases h

end Error

section NoRefusal

variable {α β : Type} {x : Except Error α}

/-- A computation fails with no refusal. -/
abbrev NoRefusal (x : Except Error α) : Prop := OnlyErrors (fun e => !e.isRefusal) x

/-- Faults are no refusals. -/
theorem OnlyFaults.noRefusal (h : OnlyFaults x) : NoRefusal x :=
  h.mono fun _ he => by simp [Error.isRefusal_of_isFault he]

/-- What fails with no refusal does not fail with a given one. -/
theorem NoRefusal.ne (h : NoRefusal x) {e : Error} (he : e.isRefusal = true) : x ≠ .error e := by
  intro hx
  simpa [he] using h e hx

/-- A refusal of a sequence whose first part refuses nothing is one of its second part. -/
theorem NoRefusal.bind_eq_error_iff (h : NoRefusal x) {f : α → Except Error β} {e : Error}
    (he : e.isRefusal = true) : x >>= f = .error e ↔ ∃ a, x = .ok a ∧ f a = .error e := by
  rw [bind_eq_error]
  exact or_iff_right (h.ne he)

/-- A refusal of a sequence whose second part refuses nothing is one of its first part. -/
theorem bind_eq_error_iff_of_noRefusal {f : α → Except Error β} (h : ∀ a, NoRefusal (f a))
    {e : Error} (he : e.isRefusal = true) : x >>= f = .error e ↔ x = .error e := by
  rw [bind_eq_error]
  refine or_iff_left ?_
  rintro ⟨a, -, hf⟩
  exact (h a).ne he hf

end NoRefusal

/-! ## Predicates -/

mutual

/-- A predicate fails with nothing but refusals. -/
theorem Predicate.onlyErrors_chunks (part : String) :
    (p : Predicate) → OnlyErrors Error.isRefusal (p.chunks part)
  | .basic .. | .column .. | .raw .. | .null .. | .between .. => onlyErrors_ok _
  | .member _ values _ _ => by
    rw [Predicate.chunks]
    split <;> exact onlyErrors_ok _
  | .exist query _ _ => query.onlyErrors_bodyChunks.bind fun _ => onlyErrors_pure _
  | .unknown _ => (onlyErrors_error _).mpr rfl

/-- Predicates fail with nothing but refusals. -/
theorem onlyErrors_predicateParts (part : String) (first : Bool) :
    (ps : List Predicate) → OnlyErrors Error.isRefusal (predicateParts part first ps)
  | [] => onlyErrors_ok _
  | p :: ps => (p.onlyErrors_chunks part).bind fun _ =>
    (onlyErrors_predicateParts part false ps).bind fun _ => onlyErrors_pure _

/-- The parts of a union fail with nothing but refusals. -/
theorem onlyErrors_unionChunks :
    (parts : List UnionPart) → OnlyErrors Error.isRefusal (unionChunks parts)
  | [] => onlyErrors_ok _
  | ⟨_, query⟩ :: parts => query.onlyErrors_bodyChunks.bind fun _ =>
    (onlyErrors_unionChunks parts).bind fun _ => onlyErrors_pure _

/-- The body of a query fails with nothing but refusals. -/
theorem Descriptor.onlyErrors_bodyChunks :
    (d : Descriptor) → OnlyErrors Error.isRefusal d.bodyChunks
  | { wheres, havings, unions, .. } =>
    (onlyErrors_predicateParts "WHERE" true wheres).bind fun _ =>
      (onlyErrors_predicateParts "HAVING" true havings).bind fun _ =>
        (onlyErrors_unionChunks unions).bind fun _ => onlyErrors_pure _

end

/-- Predicates on their own fail with nothing but refusals. -/
theorem onlyErrors_whereStatement (ps : List Predicate) :
    OnlyErrors Error.isRefusal (whereStatement ps) := by
  intro e he
  rw [whereStatement_eq_map_chunks, predicateChunks] at he
  cases hparts : predicateParts "WHERE" true ps with
  | error e' =>
    rw [hparts] at he
    cases he
    exact onlyErrors_predicateParts "WHERE" true ps _ hparts
  | ok parts =>
    rw [hparts] at he
    cases he

/-! ## Comparisons with bound values -/

/-- A predicate compares a column with a bound value. -/
def Predicate.Compares (p : Predicate) : Prop :=
  ∃ column operator value logical, p = .basic column operator value logical

/-- Comparisons have parts. -/
theorem exists_predicateParts_of_compares (part : String) : ∀ (first : Bool) (ps : List Predicate),
    (∀ p ∈ ps, p.Compares) → ∃ parts, predicateParts part first ps = .ok parts
  | _, [], _ => ⟨_, rfl⟩
  | first, p :: ps, h => by
    obtain ⟨column, operator, value, logical, rfl⟩ := h p List.mem_cons_self
    obtain ⟨rest, hrest⟩ := exists_predicateParts_of_compares part false ps fun q hq =>
      h q (List.mem_cons_of_mem _ hq)
    exact ⟨_, predicateParts_cons_eq_ok.mpr ⟨_, rfl, rest, hrest, rfl⟩⟩

/-- Comparisons are always compiled. -/
theorem whereStatement_ne_error_of_compares {ps : List Predicate} (h : ∀ p ∈ ps, p.Compares)
    (e : Error) : whereStatement ps ≠ .error e := by
  obtain ⟨parts, hparts⟩ := exists_predicateParts_of_compares "WHERE" true ps h
  rw [whereStatement_eq_map_chunks, predicateChunks, hparts]
  intro h
  cases h

/-- Comparisons are comparisons with other values. -/
theorem compares_mapPredicates (f : Value → Value) : ∀ {ps : List Predicate},
    (∀ p ∈ ps, p.Compares) → ∀ p ∈ mapPredicates f ps, p.Compares
  | [], _, _, hp => by cases hp
  | p :: ps, h, q, hq => by
    rcases List.mem_cons.mp hq with rfl | hq
    · obtain ⟨column, operator, value, logical, rfl⟩ := h p List.mem_cons_self
      exact ⟨column, operator, f value, logical, rfl⟩
    · exact compares_mapPredicates f (fun p hp => h p (List.mem_cons_of_mem _ hp)) q hq

/-- Comparisons are comparisons when they are looked at again. -/
theorem Session.compares_currentQuery (s : Session) {d : Descriptor}
    (h : ∀ p ∈ d.wheres, p.Compares) : ∀ p ∈ (s.currentQuery d).wheres, p.Compares := by
  rw [currentQuery]
  split
  · cases d
    exact compares_mapPredicates s.current h
  · exact h

namespace Checked

variable {α β : Type}

/-- An applied function is accepted exactly if it is and what it is applied to. -/
theorem seq_eq_accepted {f : Checked (α → β)} {x : Checked α} {b : β} :
    f <*> x = .accepted b ↔ ∃ g a, f = .accepted g ∧ x = .accepted a ∧ g a = b := by
  cases f <;> cases x <;> simp [Seq.seq, ap]

/-- A changed value is accepted exactly if the value is. -/
theorem map_eq_accepted {f : α → β} {x : Checked α} {b : β} :
    f <$> x = .accepted b ↔ ∃ a, x = .accepted a ∧ f a = b := by
  cases x <;> simp [Functor.map, map]

/-- A field that has to be present is accepted if it is there and is read. -/
theorem required_eq_accepted {fs : Fields} {name : String}
    {read : Value → Checked α} {a : α} :
    required fs name read = .accepted a ↔ ∃ v, Fields.get? fs name = some v ∧
      read v = .accepted a := by
  rw [required]
  cases Fields.get? fs name with
  | none => simp [reject, under]
  | some v => cases h : read v <;> simp [h, under]

/-- A record that is accepted with its keys is accepted without. -/
theorem eq_accepted_of_closed {names : List String} {fs : Fields} {record : Checked α} {a : α}
    (h : (closed names fs record).toExcept = .ok a) : record = .accepted a := by
  rw [closed.eq_def] at h
  dsimp only at h
  split at h <;> cases h
  rfl

end Checked

/-- What is read as a comparison is one. -/
theorem Validation.compares_basic {fs : Fields} {p : Predicate}
    (h : (basic fs).toExcept = .ok p) : p.Compares := by
  have hrecord := Checked.eq_accepted_of_closed h
  simp only [Checked.seq_eq_accepted, Checked.map_eq_accepted] at hrecord
  obtain ⟨_, logical, ⟨_, value, ⟨_, operator, ⟨column, -, rfl⟩, -, rfl⟩, -, rfl⟩, -, rfl⟩ :=
    hrecord
  exact ⟨column, operator, value, logical, rfl⟩

/-- The predicates of attributes are comparisons. -/
theorem Act.compares_attributePredicates {attributes : Fields} {ps : List Predicate}
    (h : attributePredicates attributes = .ok ps) : ∀ p ∈ ps, p.Compares := by
  induction attributes generalizing ps with
  | nil =>
    cases h
    simp
  | cons entry attributes ih =>
    simp only [attributePredicates, List.mapM_cons, bind_eq_ok, pure_eq_ok,
      Except.ok.injEq] at h
    obtain ⟨p, hp, rest, hrest, rfl⟩ := h
    rintro q (_ | ⟨_, hq⟩)
    · exact Validation.compares_basic hp
    · exact ih hrest q hq

/-- Attributes that are not read as comparisons are rejected, and not refused. -/
theorem Act.noRefusal_attributePredicates (attributes : Fields) :
    NoRefusal (attributePredicates attributes) := by
  refine OnlyErrors.mapM (fun entry => ?_) attributes
  obtain ⟨column, v⟩ := entry
  dsimp only
  cases Validation.basic [("column", column), ("operator", "="), ("value", v)] with
  | accepted p => exact onlyErrors_ok p
  | rejected issues => exact (onlyErrors_error _).mpr rfl

/-! ## Statements -/

/-- Rows to insert: a single one as a list of one. -/
def Value.listed : Value → Value
  | .map fs => .list [.map fs]
  | v => v

/-- There is no first row with columns: there are no rows, or the first of them is empty. -/
def Value.LacksFirstRow (rows : Value) : Prop :=
  rows.listed.truthy = false ∨
    ∃ first, rows.listed.subscript (.int 0) = .ok first ∧ first.truthy = false

/-- The groups of values of an INSERT fail with nothing but faults. -/
theorem onlyFaults_insertGroups (columns : List Value) :
    ∀ (rows bound : List Value), OnlyFaults (insertGroups columns rows bound)
  | [], _ => onlyErrors_pure _
  | row :: rows, bound => by
    have hrows := onlyFaults_insertGroups columns rows
    refine OnlyErrors.bind ?_ fun fields => ?_
    · exact (row.onlyFaults_fields "get").bind fun _ => onlyErrors_pure _
    · exact OnlyErrors.bind (hrows _) fun _ => onlyErrors_pure _

/-- The texts of a sequence are joined, or a fault tells why not. -/
theorem Value.onlyFaults_joined (v : Value) : OnlyFaults v.joined := by
  have htext : ∀ w : Value, OnlyFaults w.asText := by
    intro w
    rw [asText.eq_def]
    split <;> simp [Error.isFault]
  exact v.onlyFaults_items.bind fun xs => (OnlyErrors.mapM htext xs).bind fun _ => onlyErrors_pure _

/-- Values are joined exactly if they are texts, commas between them. -/
theorem Value.joined_eq_ok {v : Value} {s : String} :
    v.joined = .ok s ↔ ∃ ss : List String, v.items = .ok (ss.map .text) ∧
      s = String.intercalate ", " ss := by
  have hitems : ∀ (xs : List Value) (ss : List String),
      xs.mapM asText = .ok ss ↔ xs = ss.map .text := by
    intro xs
    induction xs with
    | nil =>
      intro ss
      simp [List.mapM_nil, pure_eq_ok, eq_comm]
    | cons x xs ih =>
      intro ss
      simp only [List.mapM_cons, bind_eq_ok, pure_eq_ok, Except.ok.injEq]
      constructor
      · rintro ⟨t, ht, rest, hrest, rfl⟩
        have hx : x = .text t := by
          cases x <;> cases ht
          rfl
        rw [hx, (ih rest).mp hrest, List.map_cons]
      · intro h
        cases ss with
        | nil => cases h
        | cons t rest =>
          obtain ⟨rfl, hrest⟩ := List.cons.inj h
          exact ⟨t, rfl, rest, (ih rest).mpr hrest, rfl⟩
  simp only [joined, bind_eq_ok, pure_eq_ok, Except.ok.injEq, hitems]
  constructor
  · rintro ⟨_, hv, ss, rfl, rfl⟩
    exact ⟨ss, hv, rfl⟩
  · rintro ⟨ss, hv, rfl⟩
    exact ⟨_, hv, ss, rfl, rfl⟩

/-- The INSERT of rows that names the columns of a first row. -/
def insertNaming (table : String) (rows first : Value) : Except Error WriteStatement := do
  let columns := (← first.fields "keys").keys
  let items ← rows.items
  let s ← Assembly.statement do
    let groups ← insertGroups columns items
    let names ← (Value.list columns).joined
    return "INSERT INTO " ++ table ++ " (" ++ names ++ ") VALUES " ++
      String.intercalate ", " groups
  return { s with }

/-- An INSERT names the columns of the first row that there is, unless that is empty. -/
theorem insertStatement_eq_insertNaming (table : String) (rows : Value) :
    insertStatement table rows =
      if rows.listed.truthy then
        rows.listed.subscript (.int 0) >>= fun first =>
          if first.truthy then insertNaming table rows.listed first else .error .emptyInsert
      else .error .emptyInsert := by
  have hsteps : insertStatement table rows = (do
      if !rows.listed.truthy then throw .emptyInsert
      let first ← rows.listed.subscript (.int 0)
      if !first.truthy then throw .emptyInsert
      insertNaming table rows.listed first) := rfl
  rw [hsteps]
  cases rows.listed.truthy with
  | false => rfl
  | true =>
    cases rows.listed.subscript (.int 0) with
    | error e => rfl
    | ok first =>
      simp only [ok_bind]
      cases first.truthy <;> rfl

/-- Once there is a first row with columns, an INSERT fails with nothing but faults. -/
theorem onlyFaults_insertNaming (table : String) (rows first : Value) :
    OnlyFaults (insertNaming table rows first) := by
  refine (first.onlyFaults_fields "keys").bind fun fields => ?_
  refine rows.onlyFaults_items.bind fun items => ?_
  refine OnlyErrors.bind (OnlyErrors.bind ?_ fun p => onlyErrors_pure _) fun s => onlyErrors_pure _
  refine OnlyErrors.bind (onlyFaults_insertGroups _ _ _) fun groups => ?_
  refine OnlyErrors.bind ?_ fun names => onlyErrors_pure _
  exact (Value.onlyFaults_joined _).bind fun _ => onlyErrors_pure _

/-- An INSERT is refused exactly if there is no first row with columns.

**Proof sketch.** The two tests for it come before anything else is made of the rows. What follows
them may fail, but with faults only, and these are no refusals. -/
theorem insertStatement_refuses_iff {table : String} {rows : Value} {e : Error}
    (he : e.isRefusal = true) :
    insertStatement table rows = .error e ↔ rows.LacksFirstRow ∧ e = .emptyInsert := by
  rw [insertStatement_eq_insertNaming, Value.LacksFirstRow]
  cases rows.listed.truthy with
  | false =>
    refine ⟨fun h => ⟨.inl rfl, (Except.error.inj h).symm⟩, ?_⟩
    rintro ⟨-, rfl⟩
    rfl
  | true =>
    have hnaming := fun first => (onlyFaults_insertNaming table rows.listed first).noRefusal.ne he
    rw [if_pos rfl, (rows.listed.onlyFaults_subscript _).noRefusal.bind_eq_error_iff he]
    constructor
    · rintro ⟨first, hfirst, h⟩
      cases htruthy : first.truthy with
      | true => exact absurd (by simpa [htruthy] using h) (hnaming first)
      | false =>
        rw [htruthy] at h
        cases h
        exact ⟨.inr ⟨first, hfirst, htruthy⟩, rfl⟩
    · rintro ⟨h | ⟨first, hfirst, htruthy⟩, rfl⟩
      · cases h
      · exact ⟨first, hfirst, by simp [htruthy]⟩

/-- Data that is inserted is told as it is, or a fault tells why not. -/
theorem onlyFaults_insertedData (rows : Value) : OnlyFaults (insertedData rows) := by
  refine rows.onlyFaults_length.bind fun n => ?_
  split
  · exact rows.onlyFaults_subscript _
  · exact onlyErrors_pure _

namespace Descriptor

variable {d : Descriptor} {e : Error}

/-- A write that ends in a predicate fails as the predicate does. -/
theorem withWhere_eq_error_iff {head : Statement} :
    d.withWhere head = .error e ↔ whereStatement d.wheres = .error e := by
  rw [withWhere, bind_eq_error]
  simp [pure_eq_ok]

/-- A DELETE is refused exactly if its predicates are. -/
theorem deleteStatement_refuses_iff :
    d.deleteStatement = .error e ↔ whereStatement d.wheres = .error e := withWhere_eq_error_iff

/-- An increment is refused exactly if its predicates are. -/
theorem incrementStatement_refuses_iff {column amount : Value} {decrement : Bool} :
    d.incrementStatement column amount decrement = .error e ↔ whereStatement d.wheres = .error e :=
  withWhere_eq_error_iff

/-- An UPDATE that is compiled sets something. -/
theorem truthy_of_updateStatement {values : Value} {w : WriteStatement}
    (h : d.updateStatement values = .ok w) : values.truthy = true := by
  cases hvalues : values.truthy with
  | true => rfl
  | false =>
    rw [updateStatement, hvalues] at h
    cases h

/-- An UPDATE is refused exactly if it sets nothing, or it sets the columns of a mapping and its
predicates are refused.

**Proof sketch.** What is set is tested first, then read as a mapping, which fails with nothing but
faults; the predicates are compiled last. -/
theorem updateStatement_refuses_iff {values : Value} (he : e.isRefusal = true) :
    d.updateStatement values = .error e ↔
      values.truthy = false ∧ e = .emptyUpdate ∨
        values.truthy = true ∧ (∃ fields, values.fields "items" = .ok fields) ∧
          whereStatement d.wheres = .error e := by
  rw [updateStatement]
  cases hvalues : values.truthy with
  | false =>
    refine ⟨fun h => .inl ⟨rfl, (Except.error.inj h).symm⟩, ?_⟩
    rintro (⟨-, rfl⟩ | ⟨h, -⟩)
    · rfl
    · cases h
  | true =>
    have hfields := (values.onlyFaults_fields "items").noRefusal
    simp [hfields.bind_eq_error_iff he, withWhere_eq_error_iff]

end Descriptor

end FluentSql
