import FluentSql.Descriptor.Validation
import FluentSql.Proofs.Statement.Refusing

set_option autoImplicit false

/-!
# Descriptors of their declared types

Some fields of a descriptor hold dynamic values, though only a few kinds of value are meant for
them: an alias is a text or null, a limit an integer or null, an item of the select list a text or
verbatim SQL, a database a name. Others hold whatever was given: bound values and the data of the
queued write. A descriptor is typed if the former hold what is meant for them, here and in every
query nested in it, and no predicate is of an unknown kind. What validation accepts is typed.

## Main definitions

* `FluentSql.Descriptor.TypedWith` — a descriptor is typed, and what it holds in fields without a
  type has a property.
* `FluentSql.Descriptor.untyped` — what a descriptor holds in fields without a type.

## Main results

* `FluentSql.Descriptor.typed_of_accepted` — what validation accepts is typed.
-/

namespace FluentSql

/-! ## Typed descriptors -/

namespace Value

/-- A text, or null. -/
def IsTextOrNull (v : Value) : Prop := v = .null ∨ ∃ s, v = .text s

/-- An integer, or null. -/
def IsIntOrNull (v : Value) : Prop := v = .null ∨ ∃ n, v = .int n

/-- An item of a select list: a text, or verbatim SQL. -/
def IsSelectItem (v : Value) : Prop := (∃ s, v = .text s) ∨ ∃ sql, v = .raw sql

/-- A text. -/
def IsText (v : Value) : Prop := ∃ s, v = .text s

end Value

/-- The fields of a descriptor that are not nested are typed, and what is queued has a property. -/
structure Descriptor.OwnTyped (P : Value → Prop) (d : Descriptor) : Prop where
  tableAlias : d.tableAlias.IsTextOrNull
  columns : ∀ v ∈ d.columns, v.IsSelectItem
  limit : d.limit.IsIntOrNull
  offset : d.offset.IsIntOrNull
  pending : ∀ action, d.pending = some action → P action.data
  banks : ∀ names, d.banks = some names → ∀ v ∈ names, v.IsText

mutual

/-- A predicate is of a known kind and typed, and its bound values have a property. -/
def Predicate.TypedWith (P : Value → Prop) : Predicate → Prop
  | .basic _ _ value _ => P value
  | .column .. | .null .. => True
  | .raw _ bindings _ => ∀ v ∈ bindings, P v
  | .member _ values _ _ => ∀ v ∈ values, P v
  | .between _ low high _ _ => P low ∧ P high
  | .exist query _ _ => query.TypedWith P
  | .unknown _ => False

/-- Predicates are typed. -/
def PredicatesTyped (P : Value → Prop) : List Predicate → Prop
  | [] => True
  | p :: ps => p.TypedWith P ∧ PredicatesTyped P ps

/-- Parts of a union are typed. -/
def UnionsTyped (P : Value → Prop) : List UnionPart → Prop
  | [] => True
  | ⟨_, query⟩ :: parts => query.TypedWith P ∧ UnionsTyped P parts

/-- A descriptor is typed, and what it holds in fields without a type has a property. -/
def Descriptor.TypedWith (P : Value → Prop) : Descriptor → Prop
  | d@{ wheres, havings, unions, .. } =>
    d.OwnTyped P ∧ PredicatesTyped P wheres ∧ PredicatesTyped P havings ∧ UnionsTyped P unions

end

/-- A descriptor is typed. -/
abbrev Descriptor.Typed : Descriptor → Prop := Descriptor.TypedWith fun _ => True

section

variable {P : Value → Prop}

/-- A descriptor is typed if it is in its own fields, and in what is nested in it. -/
theorem Descriptor.typedWith_iff {d : Descriptor} :
    d.TypedWith P ↔ d.OwnTyped P ∧ PredicatesTyped P d.wheres ∧ PredicatesTyped P d.havings ∧
      UnionsTyped P d.unions := by
  cases d
  rfl

/-- Predicates are typed if each of them is. -/
theorem predicatesTyped_append {ps qs : List Predicate} :
    PredicatesTyped P (ps ++ qs) ↔ PredicatesTyped P ps ∧ PredicatesTyped P qs := by
  induction ps with
  | nil => simp [PredicatesTyped]
  | cons p ps ih => simp [PredicatesTyped, ih, and_assoc]

/-- Parts of a union are typed if each of them is. -/
theorem unionsTyped_append {parts others : List UnionPart} :
    UnionsTyped P (parts ++ others) ↔ UnionsTyped P parts ∧ UnionsTyped P others := by
  induction parts with
  | nil => simp [UnionsTyped]
  | cons part parts ih =>
    obtain ⟨operator, query⟩ := part
    simp [UnionsTyped, ih, and_assoc]

end

/-! ## Fields without a type -/

mutual

/-- What a predicate holds in fields without a type. -/
def Predicate.untyped : Predicate → List Value
  | .basic _ _ value _ => [value]
  | .column .. | .null .. | .unknown _ => []
  | .raw _ bindings _ => bindings
  | .member _ values _ _ => values
  | .between _ low high _ _ => [low, high]
  | .exist query _ _ => query.untyped

/-- What predicates hold in fields without a type. -/
def predicatesUntyped : List Predicate → List Value
  | [] => []
  | p :: ps => p.untyped ++ predicatesUntyped ps

/-- What the parts of a union hold in fields without a type. -/
def unionsUntyped : List UnionPart → List Value
  | [] => []
  | ⟨_, query⟩ :: parts => query.untyped ++ unionsUntyped parts

/-- What a descriptor holds in fields without a type: the values that it binds, and the data of its
queued write, those of the queries nested in it included. -/
def Descriptor.untyped : Descriptor → List Value
  | { table := _, tableAlias := _, columns := _, wheres, havings, joins := _, order := _,
      groups := _, limit := _, offset := _, distinct := _, aggregates := _, unions, pending,
      banks := _ } =>
    predicatesUntyped wheres ++ predicatesUntyped havings ++ unionsUntyped unions ++
      (pending.map (·.data)).toList

end

section

variable {P : Value → Prop}

mutual

/-- A typed predicate whose bound values have a property. -/
theorem Predicate.typedWith_of_untyped :
    (p : Predicate) → p.TypedWith (fun _ => True) → (∀ v ∈ p.untyped, P v) → p.TypedWith P
  | .basic .., _, hv => hv _ List.mem_cons_self
  | .column .., _, _ | .null .., _, _ => trivial
  | .raw .., _, hv | .member .., _, hv => hv
  | .between .., _, hv => ⟨hv _ (by simp [Predicate.untyped]), hv _ (by simp [Predicate.untyped])⟩
  | .exist query _ _, h, hv => query.typedWith_of_untyped h hv

/-- Typed predicates whose bound values have a property. -/
theorem predicatesTyped_of_untyped :
    (ps : List Predicate) → PredicatesTyped (fun _ => True) ps →
      (∀ v ∈ predicatesUntyped ps, P v) → PredicatesTyped P ps
  | [], _, _ => trivial
  | p :: ps, ⟨hp, hps⟩, hv =>
    ⟨p.typedWith_of_untyped hp fun v h => hv v (List.mem_append_left _ h),
      predicatesTyped_of_untyped ps hps fun v h => hv v (List.mem_append_right _ h)⟩

/-- Typed parts of a union whose bound values have a property. -/
theorem unionsTyped_of_untyped :
    (parts : List UnionPart) → UnionsTyped (fun _ => True) parts →
      (∀ v ∈ unionsUntyped parts, P v) → UnionsTyped P parts
  | [], _, _ => trivial
  | ⟨_, query⟩ :: parts, ⟨hquery, hparts⟩, hv =>
    ⟨query.typedWith_of_untyped hquery fun v h => hv v (List.mem_append_left _ h),
      unionsTyped_of_untyped parts hparts fun v h => hv v (List.mem_append_right _ h)⟩

/-- A typed descriptor with a property of what it holds in fields without a type. -/
theorem Descriptor.typedWith_of_untyped :
    (d : Descriptor) → d.Typed → (∀ v ∈ d.untyped, P v) → d.TypedWith P
  | { wheres, havings, unions, pending, .. }, ⟨hown, hw, hh, hu⟩, hv => by
    simp only [Descriptor.untyped, List.mem_append, or_imp, forall_and] at hv
    obtain ⟨⟨⟨hvw, hvh⟩, hvu⟩, hvp⟩ := hv
    refine ⟨{ hown with pending := ?_ }, predicatesTyped_of_untyped wheres hw hvw,
      predicatesTyped_of_untyped havings hh hvh, unionsTyped_of_untyped unions hu hvu⟩
    rintro action rfl
    exact hvp _ (by simp)

end

end

/-! ## Validation gives typed descriptors -/

namespace Checked

variable {α β : Type} {P : α → Prop} {Q : β → Prop}

/-- What is read, if it is accepted, has a property. -/
def Gives (P : α → Prop) (x : Checked α) : Prop := ∀ a, x = .accepted a → P a

theorem gives_rejected (issues : List Issue) : (rejected issues : Checked α).Gives P :=
  fun _ h => nomatch h

theorem gives_reject (problem : Problem) : (reject problem : Checked α).Gives P :=
  gives_rejected _

theorem gives_accepted {a : α} (h : P a) : (accepted a).Gives P := by
  rintro _ ⟨⟩
  exact h

/-- What is read under a step. -/
theorem Gives.under {x : Checked α} (h : x.Gives P) (step : Location) : (x.under step).Gives P := by
  intro a ha
  cases x with
  | accepted b => exact h a ha
  | rejected issues => cases ha

/-- A record that takes no fields but its own. -/
theorem Gives.closed {x : Checked α} (h : x.Gives P) (names : List String) (fs : Fields) :
    (closed names fs x).Gives P :=
  fun a ha => h a (eq_accepted_of_closed (congrArg toExcept ha))

/-- A change that gives what has a property, whatever it is given. -/
theorem gives_map {f : α → β} (h : ∀ a, Q (f a)) (x : Checked α) : (f <$> x).Gives Q := by
  intro b hb
  obtain ⟨a, -, rfl⟩ := map_eq_accepted.mp hb
  exact h a

/-- Functions that give what has a property, whatever they are given. -/
theorem Gives.seq {f : Checked (α → β)} (h : f.Gives fun g => ∀ a, Q (g a)) (x : Checked α) :
    (f <*> x).Gives Q := by
  intro b hb
  obtain ⟨g, a, hg, -, rfl⟩ := seq_eq_accepted.mp hb
  exact h g hg a

/-- Functions that give what has a property, if they are given what has another. -/
theorem Gives.ap {f : Checked (α → β)} {x : Checked α}
    (h : f.Gives fun g => ∀ a, P a → Q (g a)) (hx : x.Gives P) : (f <*> x).Gives Q := by
  intro b hb
  obtain ⟨g, a, hg, ha, rfl⟩ := seq_eq_accepted.mp hb
  exact h g hg a (hx a ha)

/-- A field with a default. -/
theorem Gives.optional {default : α} {read : Value → Checked α} {fs : Fields} {name : String}
    (hdefault : P default) (hread : ∀ v, Fields.get? fs name = some v → (read v).Gives P) :
    (optional fs name default read).Gives P := by
  rw [Checked.optional]
  split
  · next hv => exact (hread _ hv).under _
  · exact gives_accepted hdefault

/-- A field that has been read already, if it is there at all. -/
theorem Gives.optionalRead {default : α} {read : Option (Checked α)} (hdefault : P default)
    (hread : ∀ x, read = some x → x.Gives P) (name : String) :
    (optionalRead name default read).Gives P := by
  cases read with
  | none => exact gives_accepted hdefault
  | some x => exact (hread x rfl).under _

/-- A field that has been read already and has to be there. -/
theorem Gives.requiredRead {read : Option (Checked α)} (hread : ∀ x, read = some x → x.Gives P)
    (name : String) : (requiredRead name read).Gives P := by
  cases read with
  | none => exact (gives_reject _).under _
  | some x => exact (hread x rfl).under _

/-- Items one after the other. -/
theorem Gives.itemsFrom {read : Value → Checked α} : ∀ {xs : List Value} (i : Nat),
    (∀ x ∈ xs, (read x).Gives P) → (itemsFrom read i xs).Gives fun ys => ∀ y ∈ ys, P y
  | [], _, _ => gives_accepted (by simp)
  | x :: xs, i, hread => by
    intro ys h
    obtain ⟨hx, hxs⟩ := List.forall_mem_cons.mp hread
    have hrest := Gives.itemsFrom (i + 1) hxs
    rw [Checked.itemsFrom] at h
    obtain ⟨f, y, hf, hys, rfl⟩ := seq_eq_accepted.mp h
    obtain ⟨a, ha, rfl⟩ := map_eq_accepted.mp hf
    exact List.forall_mem_cons.mpr ⟨hx.under _ a ha, hrest y hys⟩

/-- A sequence of items. -/
theorem Gives.sequence {read : Value → Checked α} (hread : ∀ v, (read v).Gives P) (v : Value) :
    (sequence read v).Gives fun ys => ∀ y ∈ ys, P y := by
  rw [Checked.sequence]
  split
  · exact Gives.itemsFrom 0 fun x _ => hread x
  · exact Gives.itemsFrom 0 fun x _ => hread x
  · exact Gives.itemsFrom 0 fun x _ => hread x
  · exact gives_reject _

/-- Null or something. -/
theorem Gives.nullable {read : Value → Checked α} (hread : ∀ v, (read v).Gives P) (v : Value) :
    (nullable read v).Gives fun found => ∀ a, found = some a → P a := by
  rw [Checked.nullable.eq_def]
  split
  · exact gives_accepted (by simp)
  · intro found h
    obtain ⟨a, ha, rfl⟩ := map_eq_accepted.mp h
    rintro _ ⟨⟩
    exact hread _ a ha

end Checked

namespace Validation

open Checked

/-- A text that may be absent. -/
theorem gives_textOrNull (v : Value) : (textOrNull v).Gives Value.IsTextOrNull := by
  intro a h
  obtain ⟨s, -, rfl⟩ := map_eq_accepted.mp h
  cases s with
  | none => exact .inl rfl
  | some s => exact .inr ⟨s, rfl⟩

/-- An integer that may be absent. -/
theorem gives_integerOrNull (v : Value) : (integerOrNull v).Gives Value.IsIntOrNull := by
  intro a h
  obtain ⟨n, -, rfl⟩ := map_eq_accepted.mp h
  cases n with
  | none => exact .inl rfl
  | some n => exact .inr ⟨n, rfl⟩

/-- A verbatim fragment. -/
theorem gives_fragment (fs : Fields) : (fragment fs).Gives Value.IsSelectItem := by
  exact (gives_map (fun sql => .inr ⟨sql, rfl⟩) _).closed _ _

/-- An item of a select list. -/
theorem gives_selectItem (v : Value) : (selectItem v).Gives Value.IsSelectItem := by
  rw [selectItem.eq_def]
  split
  · exact gives_accepted (.inr ⟨_, rfl⟩)
  · split
    · exact gives_accepted (.inl ⟨_, rfl⟩)
    · split
      · next hitem =>
        refine gives_accepted ?_
        rw [mapping.eq_def] at hitem
        split at hitem
        · exact gives_fragment _ _ hitem
        · cases hitem
      · exact gives_rejected _

/-- The name of a database. -/
theorem gives_bank (v : Value) : ((text v).map Value.text).Gives Value.IsText := by
  intro a h
  obtain ⟨s, -, rfl⟩ := map_eq_accepted.mp h
  exact ⟨s, rfl⟩

/-- What a nested field has been read as is typed. -/
def Nested.Gives : Nested → Prop
  | .plain => True
  | .predicates read => read.Gives (PredicatesTyped fun _ => True)
  | .parts read => read.Gives (UnionsTyped fun _ => True)
  | .query read => read.Gives Descriptor.Typed

section

variable {nested : List (String × Nested)} (h : ∀ entry ∈ nested, entry.2.Gives) {name : String}

include h

/-- A nested field that has been read as predicates. -/
theorem gives_nestedPredicates {read : Checked (List Predicate)}
    (hread : nestedPredicates nested name = some read) :
    read.Gives (PredicatesTyped fun _ => True) := by
  rw [nestedPredicates] at hread
  split at hread
  · next hfound =>
    cases hread
    exact h _ (List.mem_of_find?_eq_some hfound)
  · cases hread

/-- A nested field that has been read as parts of a union. -/
theorem gives_nestedParts {read : Checked (List UnionPart)}
    (hread : nestedParts nested name = some read) : read.Gives (UnionsTyped fun _ => True) := by
  rw [nestedParts] at hread
  split at hread
  · next hfound =>
    cases hread
    exact h _ (List.mem_of_find?_eq_some hfound)
  · cases hread

/-- A nested field that has been read as a query. -/
theorem gives_nestedQuery {read : Checked Descriptor}
    (hread : nestedQuery nested name = some read) : read.Gives Descriptor.Typed := by
  rw [nestedQuery] at hread
  split at hread
  · next hfound =>
    cases hread
    exact h _ (List.mem_of_find?_eq_some hfound)
  · cases hread

/-- A predicate is of a known kind, and typed. -/
theorem gives_predicate (fs : Fields) :
    (predicate fs nested).Gives (Predicate.TypedWith fun _ => True) := by
  rw [predicate.eq_def]
  split
  · exact gives_reject _
  · split
    · refine ((gives_map ?_ _).seq _ |>.seq _ |>.seq _ |>.closed _ _).under _
      exact fun _ _ _ _ => trivial
    · refine ((gives_map ?_ _).seq _ |>.seq _ |>.seq _ |>.closed _ _).under _
      exact fun _ _ _ _ => trivial
    · refine ((gives_map ?_ _).seq _ |>.seq _ |>.closed _ _).under _
      exact fun _ _ _ _ _ => trivial
    · refine ((gives_map ?_ _).seq _ |>.seq _ |>.seq _ |>.closed _ _).under _
      exact fun _ _ _ _ _ _ => trivial
    · refine ((gives_map ?_ _).seq _ |>.seq _ |>.closed _ _).under _
      exact fun _ _ _ => trivial
    · refine ((gives_map ?_ _).seq _ |>.seq _ |>.seq _ |>.closed _ _).under _
      exact fun _ _ _ _ => ⟨trivial, trivial⟩
    · refine ((Gives.seq ?_ _).seq _ |>.closed _ _).under _
      intro f hf
      obtain ⟨q, hq, rfl⟩ := map_eq_accepted.mp hf
      exact fun _ _ => Gives.requiredRead (fun _ => gives_nestedQuery h) _ q hq
    · exact gives_reject _
  · exact gives_reject _

omit h in
/-- What is no mapping is no predicate. -/
theorem gives_notPredicate (v : Value) : (notPredicate v).Gives fun _ => False := by
  rw [notPredicate]
  split
  · exact gives_reject _
  · split
    · exact gives_reject _
    · split
      · exact (gives_reject _).under _
      · exact gives_reject _
    · exact gives_reject _

/-- A part of a union is typed. -/
theorem gives_unionPart (fs : Fields) :
    (unionPart fs nested).Gives fun part => part.query.Typed := by
  refine Gives.closed (fun part hrecord => ?_) _ _
  simp only [seq_eq_accepted, map_eq_accepted] at hrecord
  obtain ⟨_, q, ⟨_, -, rfl⟩, hq, rfl⟩ := hrecord
  exact Gives.requiredRead (fun _ => gives_nestedQuery h) _ q hq

/-- A descriptor is typed. -/
theorem gives_descriptor (fs : Fields) : (descriptor fs nested).Gives Descriptor.Typed := by
  refine Gives.closed (fun d hrecord => ?_) _ _
  simp only [seq_eq_accepted, map_eq_accepted] at hrecord
  obtain ⟨_, banks, hrecord, hbanks, rfl⟩ := hrecord
  obtain ⟨_, pending, hrecord, -, rfl⟩ := hrecord
  obtain ⟨_, unions, hrecord, hunions, rfl⟩ := hrecord
  obtain ⟨_, aggregates, hrecord, -, rfl⟩ := hrecord
  obtain ⟨_, distinct, hrecord, -, rfl⟩ := hrecord
  obtain ⟨_, offset, hrecord, hoffset, rfl⟩ := hrecord
  obtain ⟨_, limit, hrecord, hlimit, rfl⟩ := hrecord
  obtain ⟨_, groups, hrecord, -, rfl⟩ := hrecord
  obtain ⟨_, order, hrecord, -, rfl⟩ := hrecord
  obtain ⟨_, joins, hrecord, -, rfl⟩ := hrecord
  obtain ⟨_, havings, hrecord, hhavings, rfl⟩ := hrecord
  obtain ⟨_, wheres, hrecord, hwheres, rfl⟩ := hrecord
  obtain ⟨_, columns, hrecord, hcolumns, rfl⟩ := hrecord
  obtain ⟨_, tableAlias, hrecord, halias, rfl⟩ := hrecord
  obtain ⟨table, -, rfl⟩ := hrecord
  refine Descriptor.typedWith_iff.mpr ⟨⟨?_, ?_, ?_, ?_, fun _ _ => trivial, ?_⟩, ?_, ?_, ?_⟩
  · exact Gives.optional (.inl rfl) (fun v _ => gives_textOrNull v) _ halias
  · exact Gives.optional (by simp [Value.IsSelectItem])
      (fun v _ => Gives.sequence gives_selectItem v) _ hcolumns
  · exact Gives.optional (.inl rfl) (fun v _ => gives_integerOrNull v) _ hlimit
  · exact Gives.optional (.inl rfl) (fun v _ => gives_integerOrNull v) _ hoffset
  · exact Gives.optional (by simp)
      (fun v _ => Gives.nullable (Gives.sequence gives_bank) v) _ hbanks
  · exact Gives.optionalRead trivial (fun _ => gives_nestedPredicates h) _ _ hwheres
  · exact Gives.optionalRead trivial (fun _ => gives_nestedPredicates h) _ _ hhavings
  · exact Gives.optionalRead trivial (fun _ => gives_nestedParts h) _ _ hunions

end

mutual

/-- The nested fields of a record are typed. -/
theorem gives_nestedEntries :
    (fs : List (Value × Value)) → ∀ entry ∈ nestedEntries fs, entry.2.Gives
  | [], _, h => by simp [nestedEntries] at h
  | (key, v) :: rest, entry, h => by
    have hrest := gives_nestedEntries rest
    have hpredicates := gives_predicates v
    have hparts := gives_unionParts v
    have hquery := gives_query v
    rw [nestedEntries.eq_def] at h
    cases key with
    | text name =>
      rcases List.mem_cons.mp h with rfl | h
      · dsimp only
        split
        · exact hpredicates
        · exact hpredicates
        · exact hparts
        · exact hquery
        · exact hquery
        · trivial
      · exact hrest entry h
    | _ => exact hrest entry h

/-- A list of predicates is typed. -/
theorem gives_predicates (v : Value) : (predicates v).Gives (PredicatesTyped fun _ => True) := by
  cases v with
  | list xs | tuple xs => exact gives_predicatesFrom xs 0
  | raw sql => exact (gives_reject _).under _
  | _ => exact gives_reject _

/-- Predicates are typed. -/
theorem gives_predicatesFrom :
    (xs : List Value) → (i : Nat) → (predicatesFrom i xs).Gives (PredicatesTyped fun _ => True)
  | [], _ => gives_accepted trivial
  | x :: xs, i => by
    have hrest := gives_predicatesFrom xs (i + 1)
    cases x with
    | map fs =>
      have hentries := gives_nestedEntries fs
      intro ps hps
      obtain ⟨f, rest, hf, hread, rfl⟩ := seq_eq_accepted.mp hps
      obtain ⟨p, hp, rfl⟩ := map_eq_accepted.mp hf
      exact ⟨(gives_predicate hentries fs).under _ p hp, hrest rest hread⟩
    | _ =>
      intro ps hps
      obtain ⟨f, rest, hf, -, -⟩ := seq_eq_accepted.mp hps
      obtain ⟨p, hp, -⟩ := map_eq_accepted.mp hf
      exact ((gives_notPredicate _).under _ p hp).elim

/-- A list of parts of a union is typed. -/
theorem gives_unionParts (v : Value) : (unionParts v).Gives (UnionsTyped fun _ => True) := by
  cases v with
  | list xs | tuple xs => exact gives_unionPartsFrom xs 0
  | raw sql => exact (gives_reject _).under _
  | _ => exact gives_reject _

/-- Parts of a union are typed. -/
theorem gives_unionPartsFrom :
    (xs : List Value) → (i : Nat) → (unionPartsFrom i xs).Gives (UnionsTyped fun _ => True)
  | [], _ => gives_accepted trivial
  | x :: xs, i => by
    have hrest := gives_unionPartsFrom xs (i + 1)
    cases x with
    | map fs =>
      have hentries := gives_nestedEntries fs
      intro parts hparts
      obtain ⟨f, rest, hf, hread, rfl⟩ := seq_eq_accepted.mp hparts
      obtain ⟨⟨operator, query⟩, hpart, rfl⟩ := map_eq_accepted.mp hf
      exact ⟨(gives_unionPart hentries fs).under _ _ hpart, hrest rest hread⟩
    | _ =>
      intro parts hparts
      obtain ⟨f, rest, hf, -, -⟩ := seq_eq_accepted.mp hparts
      obtain ⟨part, hpart, -⟩ := map_eq_accepted.mp hf
      cases hpart

/-- A query is typed. -/
theorem gives_query (v : Value) : (query v).Gives Descriptor.Typed := by
  cases v with
  | map fs => exact gives_descriptor (gives_nestedEntries fs) fs
  | _ => exact gives_reject _

end

end Validation

/-- What validation accepts is typed.

**Proof sketch.** By induction on the mapping that is read, as deep as records are nested in it:
every reader gives what is meant for its field, and so do the defaults. -/
theorem Descriptor.typed_of_accepted {v : Value} {d : Descriptor}
    (h : Descriptor.ofValue v = .accepted d) : d.Typed := Validation.gives_query v d h

end FluentSql
