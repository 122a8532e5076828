import FluentSql.Dialect
import FluentSql.Proofs.Statement.Compiled
import FluentSql.Proofs.Statement.Translation

set_option autoImplicit false

/-!
# The fragments of dialects

Every dialect writes its predicates around the columns that it is given. Some have literals of their
own, and some ask for a value once for every column; but each closes its literals, and has as many
placeholders outside of them as it binds values, if the columns have none.

## Main definitions

* `FluentSql.Statement.Sound` — a statement has its own placeholders outside of literals.

## Main results

* `FluentSql.Dialect.sound_caseInsensitiveLike`, `FluentSql.Dialect.sound_jsonContains`,
  `FluentSql.Dialect.sound_fullText` — the predicates of dialects.
* `FluentSql.Dialect.marked_rowNumber` — the numbering of rows.
-/

namespace FluentSql

/-- A statement closes its literals, and has a placeholder for every value outside of them. -/
def Statement.Sound (s : Statement) : Prop := Marked s.sql s.bindings.length

/-- A text between two others. -/
theorem Marked.around {before s after : String} {m n k : Nat} (hb : Marked before m)
    (hs : Marked s n) (ha : Marked after k) : Marked (before ++ s ++ after) (m + n + k) :=
  (hb.append hs).append ha

/-- Texts with one placeholder each, and none between them. -/
theorem marked_intercalate {separator : String} (hs : Marked separator 0) :
    ∀ {ss : List String}, (∀ s ∈ ss, Marked s 1) → Marked (separator.intercalate ss) ss.length
  | [], _ => by simpa using (by decide : Marked "" 0)
  | [s], h => by simpa using h s List.mem_cons_self
  | s :: t :: ss, h => by
    have hrest := marked_intercalate hs fun u hu => h u (List.mem_cons_of_mem s hu)
    rw [String.intercalate_cons_cons]
    have hall := (h s List.mem_cons_self).around hs hrest
    rwa [Nat.add_comm] at hall

/-- Conditions on columns that ask for one value each. -/
theorem marked_conditions {items : List Value} {condition : Value → String}
    (h : ∀ c ∈ items, Marked (condition c) 1) :
    Marked ("(" ++ String.intercalate " OR " (items.map condition) ++ ")") items.length := by
  have hall : Marked (String.intercalate " OR " (items.map condition))
      (items.map condition).length := by
    refine marked_intercalate (by decide) fun s hs => ?_
    obtain ⟨c, hc, rfl⟩ := List.mem_map.mp hs
    exact h c hc
  have hbrackets := Marked.around (by decide : Marked "(" 0) hall (by decide : Marked ")" 0)
  rwa [List.length_map, Nat.zero_add, Nat.add_zero] at hbrackets

namespace Dialect

variable {dialect : Dialect} {column value term : Value}

/-- A match regardless of case asks for its pattern. -/
theorem sound_caseInsensitiveLike (h : Marked column.display 0) (pattern : Value) :
    (dialect.caseInsensitiveLike column pattern).Sound := by
  cases dialect with
  | portable =>
    exact Marked.around (by decide : Marked "LOWER(" 0) h (by decide : Marked ") LIKE LOWER(?)" 1)
  | sqlite => exact h.append (by decide : Marked " LIKE ? COLLATE NOCASE" 1)
  | postgres => exact h.append (by decide : Marked " ILIKE ?" 1)
  | mysql => exact h.append (by decide : Marked " LIKE ? COLLATE utf8mb4_general_ci" 1)
  | mssql => exact h.append (by decide : Marked " LIKE ? COLLATE Latin1_General_CI_AS" 1)
  | oracle =>
    exact Marked.around (by decide : Marked "UPPER(" 0) h (by decide : Marked ") LIKE UPPER(?)" 1)

/-- A test for containment asks for the value, outside of the literals that it may have. -/
theorem sound_jsonContains (h : Marked column.display 0) {s : Statement}
    (hs : dialect.jsonContains column value = .ok s) : s.Sound := by
  cases dialect with
  | portable =>
    obtain ⟨json, -, hs⟩ := bind_eq_ok.mp hs
    cases hs
    exact h.append (by decide : Marked " LIKE ?" 1)
  | sqlite =>
    cases hs
    exact Marked.around (by decide : Marked "EXISTS (SELECT 1 FROM json_each(" 0) h
      (by decide : Marked ") WHERE json_each.value = ?)" 1)
  | postgres =>
    obtain ⟨json, -, hs⟩ := bind_eq_ok.mp hs
    cases hs
    exact h.append (by decide : Marked " @> CAST(? AS jsonb)" 1)
  | mysql =>
    obtain ⟨json, -, hs⟩ := bind_eq_ok.mp hs
    cases hs
    exact Marked.around (by decide : Marked "JSON_CONTAINS(" 0) h (by decide : Marked ", ?)" 1)
  | mssql =>
    cases hs
    exact Marked.around (by decide : Marked "EXISTS (SELECT 1 FROM OPENJSON(" 0) h
      (by decide : Marked ") WHERE value = ?)" 1)
  | oracle =>
    cases hs
    exact Marked.around (by decide : Marked "EXISTS (SELECT 1 FROM JSON_TABLE(" 0) h
      (by decide : Marked
        ", '$[*]' COLUMNS (v VARCHAR2(4000) PATH '$')) jt WHERE jt.v = ?)" 1)

/-- Joined columns have no placeholder if the columns have none. -/
theorem marked_joined {v : Value} {s : String} (hv : v.joined = .ok s)
    (h : ∀ xs, v.items = .ok xs → ∀ t : String, .text t ∈ xs → Marked t 0) : Marked s 0 := by
  obtain ⟨ss, hss, rfl⟩ := Value.joined_eq_ok.mp hv
  exact isTextual_marked.intercalate (by decide) fun t ht => h _ hss t (List.mem_map_of_mem ht)

/-- A full-text search asks for its term once, or once for every column. -/
theorem sound_fullText {items : List Value} (h : ∀ c ∈ items, Marked c.display 0) {s : Statement}
    (hs : dialect.fullText (.list items) term = .ok s) : s.Sound := by
  have hjoined : ∀ {t : String}, (Value.list items).joined = .ok t → Marked t 0 := by
    intro t ht
    refine marked_joined ht fun xs hxs u hu => ?_
    cases hxs
    exact h _ hu
  have heach : ∀ {after : String} (before : String), Marked before 0 → Marked after 1 →
      Marked (anyColumn items fun c => before ++ c ++ after) items.length := by
    intro after before hb ha
    exact marked_conditions fun c hc => Marked.around hb (h c hc) ha
  have hlike : Marked (anyColumn items fun c => c ++ " LIKE ?") items.length :=
    marked_conditions fun c hc => (h c hc).append (by decide : Marked " LIKE ?" 1)
  cases dialect with
  | portable | sqlite =>
    cases hs
    rw [Statement.Sound, List.length_map]
    exact hlike
  | postgres =>
    obtain ⟨columns, hcolumns, hs⟩ := bind_eq_ok.mp hs
    cases hs
    have hdocument := Marked.around (by decide : Marked "concat_ws(' ', " 0) (hjoined hcolumns)
      (by decide : Marked ")" 0)
    exact Marked.around (by decide : Marked "to_tsvector(" 0) hdocument
      (by decide : Marked ") @@ plainto_tsquery(?)" 1)
  | mysql =>
    obtain ⟨columns, hcolumns, hs⟩ := bind_eq_ok.mp hs
    cases hs
    exact Marked.around (by decide : Marked "MATCH(" 0) (hjoined hcolumns)
      (by decide : Marked ") AGAINST(? IN NATURAL LANGUAGE MODE)" 1)
  | mssql =>
    obtain ⟨columns, hcolumns, hs⟩ := bind_eq_ok.mp hs
    cases hs
    exact Marked.around (by decide : Marked "FREETEXT((" 0) (hjoined hcolumns)
      (by decide : Marked "), ?)" 1)
  | oracle =>
    cases hs
    rw [Statement.Sound, List.length_map]
    exact heach "CONTAINS(" (by decide) (by decide : Marked ", ?) > 0" 1)

/-- A keyword and the columns that it governs, and nothing if it governs none. -/
def governed (keyword : String) (v : Value) : Except Error (List String) :=
  if v.truthy then v.joined.map fun columns => [keyword ++ columns] else .ok []

/-- What rows are ordered by when they are numbered. -/
def numberingOrder (dialect : Dialect) (order : Value) : Value :=
  match dialect with
  | .mssql => order.orElse (.list [.text "(SELECT NULL)"])
  | _ => order

/-- Rows are numbered within parts and in an order. -/
theorem rowNumber_eq (dialect : Dialect) (order partition label : Value) :
    dialect.rowNumber order partition label =
      governed "PARTITION BY " partition >>= fun parts =>
        governed "ORDER BY " (dialect.numberingOrder order) >>= fun orders =>
          .ok ("ROW_NUMBER() OVER (" ++ String.intercalate " " (parts ++ orders) ++ ") AS " ++
            label.display) := by
  have hbody : ∀ order : Value, (do
      let parts ← if partition.truthy then do pure ["PARTITION BY " ++ (← partition.joined)]
        else pure []
      let orders ← if order.truthy then do pure ["ORDER BY " ++ (← order.joined)] else pure []
      return "ROW_NUMBER() OVER (" ++ String.intercalate " " (parts ++ orders) ++ ") AS " ++
        label.display : Except Error String) =
      governed "PARTITION BY " partition >>= fun parts =>
        governed "ORDER BY " order >>= fun orders =>
          .ok ("ROW_NUMBER() OVER (" ++ String.intercalate " " (parts ++ orders) ++ ") AS " ++
            label.display) := by
    intro order
    rw [governed, governed]
    cases partition.truthy <;> cases order.truthy <;> cases partition.joined <;>
      cases order.joined <;> rfl
  cases dialect <;> exact hbody _

/-- The columns that a keyword governs have no placeholder if they have none by themselves. -/
theorem marked_governed {keyword : String} (hkeyword : Plain keyword) {v : Value}
    {parts : List String} (hparts : governed keyword v = .ok parts)
    (h : ∀ xs, v.items = .ok xs → ∀ t : String, .text t ∈ xs → Marked t 0) :
    ∀ t ∈ parts, Marked t 0 := by
  intro t ht
  rw [governed] at hparts
  split at hparts
  · obtain ⟨columns, hcolumns, rfl⟩ := map_eq_ok.mp hparts
    obtain rfl : t = keyword ++ columns := by simpa using ht
    exact (isTextual_marked.plain hkeyword).append (marked_joined hcolumns h)
  · cases hparts
    simp at ht

/-- The numbering of rows asks for nothing, if the columns that it goes by and its label do not.

**Proof sketch.** The text is joined from clauses of marked columns. Where a dialect insists on an
order and none is given, the constant that stands for it asks for nothing either. -/
theorem marked_rowNumber {order partition label : Value} {s : String}
    (hs : dialect.rowNumber order partition label = .ok s)
    (horder : ∀ xs, order.items = .ok xs → ∀ t : String, .text t ∈ xs → Marked t 0)
    (hpartition : ∀ xs, partition.items = .ok xs → ∀ t : String, .text t ∈ xs → Marked t 0)
    (hlabel : Marked label.display 0) : Marked s 0 := by
  rw [rowNumber_eq] at hs
  obtain ⟨parts, hparts, hs⟩ := bind_eq_ok.mp hs
  obtain ⟨orders, horders, hs⟩ := bind_eq_ok.mp hs
  cases hs
  -- Where an order is insisted on, a constant is the order if there is none.
  have horder' : ∀ xs, (dialect.numberingOrder order).items = .ok xs →
      ∀ t : String, .text t ∈ xs → Marked t 0 := by
    cases dialect with
    | mssql =>
      intro xs hxs t ht
      rw [numberingOrder, Value.orElse] at hxs
      split at hxs
      · exact horder xs hxs t ht
      · cases hxs
        obtain rfl : t = "(SELECT NULL)" := by simpa using ht
        decide
    | _ => exact horder
  have hall : Marked (String.intercalate " " (parts ++ orders)) 0 := by
    refine isTextual_marked.intercalate (by decide) fun t ht => ?_
    rcases List.mem_append.mp ht with ht | ht
    · exact marked_governed (by decide) hparts hpartition t ht
    · exact marked_governed (by decide) horders horder' t ht
  exact (Marked.around (by decide : Marked "ROW_NUMBER() OVER (" 0) hall
    (by decide : Marked ") AS " 0)).append hlabel

end Dialect

end FluentSql
