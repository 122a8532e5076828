import FluentSql.Proofs.Rows.Lists
import FluentSql.Proofs.Session.Rehearsal

set_option autoImplicit false

/-!
# Values without references

A value that refers to no builder is closed. Looking at it again or copying it gives the value
itself and adds no builders, whatever else has come up in the session; so what a write makes of
closed rows is a function of the query and of the rows.

## Main definitions

* `FluentSql.Value.Closed`, `FluentSql.Descriptor.Closed` — values and queries without references.

## Main results

* `FluentSql.Value.mapReferences_of_references_eq_nil` — there is nothing to replace in a value
  without references.
* `FluentSql.Act.run_copy_of_closed`, `FluentSql.Act.run_copyQuery_of_closed`,
  `FluentSql.Act.run_copyBuilder_of_closed` — copies.
* `FluentSql.Act.run_applyQueued_of_closed` — writes on closed rows.
-/

namespace FluentSql

/-! ## Closed values -/

mutual

/-- There is nothing to replace in a value without references. -/
theorem Value.mapReferences_of_references_eq_nil (view : Source → Value → Value)
    (builder : Nat → Nat) :
    (v : Value) → v.references = [] → v.mapReferences view builder = v
  | .list xs, h => by
    rw [Value.mapReferences, mapItems_of_referencesOfItems_eq_nil view builder xs h]
  | .tuple xs, h => by
    rw [Value.mapReferences, mapItems_of_referencesOfItems_eq_nil view builder xs h]
  | .statement sql xs, h => by
    rw [Value.mapReferences, mapItems_of_referencesOfItems_eq_nil view builder xs h]
  | .map fs, h => by
    rw [Value.mapReferences, mapFields_of_referencesOfFields_eq_nil view builder fs h]
  | .object fs, h => by
    rw [Value.mapReferences, mapFields_of_referencesOfFields_eq_nil view builder fs h]
  | .record kind fs, h => by
    rw [Value.mapReferences, mapFields_of_referencesOfFields_eq_nil view builder fs h]
  | .writeResult changes lastId, h => by
    obtain ⟨hchanges, hlastId⟩ := List.append_eq_nil_iff.mp h
    rw [Value.mapReferences, changes.mapReferences_of_references_eq_nil view builder hchanges,
      lastId.mapReferences_of_references_eq_nil view builder hlastId]
  | .queryResult data affected lastId, h => by
    obtain ⟨hleft, hlastId⟩ := List.append_eq_nil_iff.mp h
    obtain ⟨hdata, haffected⟩ := List.append_eq_nil_iff.mp hleft
    rw [Value.mapReferences, data.mapReferences_of_references_eq_nil view builder hdata,
      affected.mapReferences_of_references_eq_nil view builder haffected,
      lastId.mapReferences_of_references_eq_nil view builder hlastId]
  | .builder .., h => by cases h
  | .view .., h => by cases h
  | .null, _ | .bool _, _ | .int _, _ | .float _, _ | .nan _, _ | .text _, _ | .bytes _, _
  | .moment _, _ | .raw _, _ | .again, _ | .function .., _ => rfl

/-- There is nothing to replace in items without references. -/
theorem mapItems_of_referencesOfItems_eq_nil (view : Source → Value → Value)
    (builder : Nat → Nat) :
    (xs : List Value) → referencesOfItems xs = [] → mapItems view builder xs = xs
  | [], _ => rfl
  | x :: xs, h => by
    obtain ⟨hx, hxs⟩ := List.append_eq_nil_iff.mp h
    rw [mapItems, x.mapReferences_of_references_eq_nil view builder hx,
      mapItems_of_referencesOfItems_eq_nil view builder xs hxs]

/-- There is nothing to replace in entries without references. -/
theorem mapFields_of_referencesOfFields_eq_nil (view : Source → Value → Value)
    (builder : Nat → Nat) :
    (fs : List (Value × Value)) → referencesOfFields fs = [] → mapFields view builder fs = fs
  | [], _ => rfl
  | (key, x) :: rest, h => by
    obtain ⟨hleft, hrest⟩ := List.append_eq_nil_iff.mp h
    obtain ⟨hkey, hx⟩ := List.append_eq_nil_iff.mp hleft
    rw [mapFields, key.mapReferences_of_references_eq_nil view builder hkey,
      x.mapReferences_of_references_eq_nil view builder hx,
      mapFields_of_referencesOfFields_eq_nil view builder rest hrest]

end

/-- A value refers to no builder. -/
def Value.Closed (v : Value) : Prop := v.references = []

instance (v : Value) : Decidable v.Closed := inferInstanceAs (Decidable (v.references = []))

/-- Items without references are closed, and others are not. -/
theorem referencesOfItems_eq_nil {xs : List Value} :
    referencesOfItems xs = [] ↔ ∀ x ∈ xs, x.Closed := by
  induction xs with
  | nil => simp [referencesOfItems]
  | cons x xs ih => simp [referencesOfItems, ih, Value.Closed]

/-- Entries without references are closed, and others are not. -/
theorem referencesOfFields_eq_nil {fs : Fields} :
    referencesOfFields fs = [] ↔ ∀ p ∈ fs, p.1.Closed ∧ p.2.Closed := by
  induction fs with
  | nil => simp [referencesOfFields]
  | cons p fs ih =>
    obtain ⟨key, x⟩ := p
    simp [referencesOfFields, ih, Value.Closed, and_assoc]

/-- Every key and every value of a mapping is closed. -/
def Fields.Closed (fs : Fields) : Prop := ∀ p ∈ fs, p.1.Closed ∧ p.2.Closed

instance (fs : Fields) : Decidable fs.Closed :=
  inferInstanceAs (Decidable (∀ p ∈ fs, p.1.Closed ∧ p.2.Closed))

namespace Value

@[simp] theorem closed_list {xs : List Value} : (list xs).Closed ↔ ∀ x ∈ xs, x.Closed :=
  referencesOfItems_eq_nil

@[simp] theorem closed_map {fs : Fields} : (map fs).Closed ↔ fs.Closed := referencesOfFields_eq_nil

@[simp] theorem closed_null : null.Closed := rfl

@[simp] theorem closed_text (s : String) : (text s).Closed := rfl

@[simp] theorem closed_int (n : Int) : (int n).Closed := rfl

/-- A closed value is no view. -/
theorem Closed.bare_eq {v : Value} (h : v.Closed) : v.bare = v := by
  cases v with
  | view source seen => cases h
  | _ => rfl

end Value

namespace Fields

/-- What stands under a key of a closed mapping is closed. -/
theorem Closed.get? {fs : Fields} (h : fs.Closed) {key v : Value} (hv : fs.get? key = some v) :
    v.Closed := by
  obtain ⟨p, hp, rfl⟩ := Option.map_eq_some_iff.mp hv
  exact (h p (List.mem_of_find?_eq_some hp)).2

/-- What stands under a key of a closed mapping, or null, is closed. -/
theorem Closed.value {fs : Fields} (h : fs.Closed) (key : Value) : (fs.value key).Closed := by
  rw [Fields.value]
  cases hv : fs.get? key with
  | none => exact Value.closed_null
  | some v => exact h.get? hv

/-- A closed value under a closed key leaves a closed mapping closed. -/
theorem Closed.set {fs : Fields} (h : fs.Closed) {key v : Value} (hkey : key.Closed)
    (hv : v.Closed) : (fs.set key v).Closed := by
  induction fs with
  | nil =>
    intro p hp
    rw [List.mem_singleton.mp hp]
    exact ⟨hkey, hv⟩
  | cons entry rest ih =>
    obtain ⟨other, w⟩ := entry
    obtain ⟨⟨hother, hw⟩, hrest⟩ := List.forall_mem_cons.mp h
    rw [Fields.set]
    split
    · exact List.forall_mem_cons.mpr ⟨⟨hother, hv⟩, hrest⟩
    · exact List.forall_mem_cons.mpr ⟨⟨hother, hw⟩, ih hrest⟩

/-- Closed mappings put together are closed. -/
theorem Closed.merge {fs others : Fields} (h : fs.Closed) (hothers : others.Closed) :
    (fs.merge others).Closed := by
  induction others generalizing fs with
  | nil => exact h
  | cons p others ih =>
    obtain ⟨⟨hkey, hv⟩, hrest⟩ := List.forall_mem_cons.mp hothers
    exact ih (h.set hkey hv) hrest

/-- Some of the entries of a closed mapping are closed. -/
theorem Closed.filter {fs : Fields} (h : fs.Closed) (test : Value × Value → Bool) :
    Fields.Closed (fs.filter test) := fun p hp => h p (List.mem_filter.mp hp).1

end Fields

/-! ## Closed queries -/

/-- A list with every item in its own place is the list. -/
theorem map_eq_self {α : Type} {f : α → α} {xs : List α} (h : ∀ x ∈ xs, f x = x) :
    xs.map f = xs := by
  rw [List.map_congr_left h, List.map_id']

mutual

/-- A predicate with all its values in their own places is the predicate. -/
theorem Predicate.mapValues_eq_self {f : Value → Value} :
    (p : Predicate) → (∀ v ∈ p.values, f v = v) → p.mapValues f = p
  | .basic column operator value logical, h => by
    rw [Predicate.mapValues, h value List.mem_cons_self]
  | .raw sql bindings logical, h => by
    rw [Predicate.mapValues, show bindings.map f = bindings from map_eq_self h]
  | .member column values negated logical, h => by
    rw [Predicate.mapValues, show values.map f = values from map_eq_self h]
  | .between column low high negated logical, h => by
    rw [Predicate.mapValues, h low List.mem_cons_self,
      h high (List.mem_cons_of_mem _ List.mem_cons_self)]
  | .exist query negated logical, h => by
    rw [Predicate.mapValues, query.mapValues_eq_self h]
  | .column .., _ | .null .., _ | .unknown _, _ => rfl

/-- Predicates with all their values in their own places are the predicates. -/
theorem mapPredicates_eq_self {f : Value → Value} :
    (ps : List Predicate) → (∀ v ∈ predicateValues ps, f v = v) → mapPredicates f ps = ps
  | [], _ => rfl
  | p :: ps, h => by
    rw [mapPredicates, p.mapValues_eq_self fun v hv => h v (List.mem_append_left _ hv),
      mapPredicates_eq_self ps fun v hv => h v (List.mem_append_right _ hv)]

/-- Parts of a union with all their values in their own places are the parts. -/
theorem mapUnions_eq_self {f : Value → Value} :
    (parts : List UnionPart) → (∀ v ∈ unionValues parts, f v = v) → mapUnions f parts = parts
  | [], _ => rfl
  | ⟨operator, query⟩ :: parts, h => by
    rw [mapUnions, query.mapValues_eq_self fun v hv => h v (List.mem_append_left _ hv),
      mapUnions_eq_self parts fun v hv => h v (List.mem_append_right _ hv)]

/-- A query with all its values in their own places is the query. -/
theorem Descriptor.mapValues_eq_self {f : Value → Value} :
    (d : Descriptor) → (∀ v ∈ d.values, f v = v) → d.mapValues f = d
  | { table, tableAlias, columns, wheres, havings, joins, order, groups, limit, offset, distinct,
      aggregates, unions, pending, banks }, h => by
    simp only [Descriptor.values, List.cons_append, List.mem_cons, List.mem_append] at h
    have hpending : pending.map (PendingAction.mapData f) = pending := by
      cases pending with
      | none => rfl
      | some action =>
        have hdata : f action.data = action.data := h _ (by simp)
        rw [Option.map_some, PendingAction.mapData, hdata]
    have hbanks : banks.map (fun names => names.map f) = banks := by
      cases banks with
      | none => rfl
      | some names =>
        rw [Option.map_some, map_eq_self fun v hv => h v (by simp [hv])]
    rw [Descriptor.mapValues, hpending, hbanks, h tableAlias (by simp), h limit (by simp),
      h offset (by simp), map_eq_self fun v hv => h v (by simp [hv]),
      mapPredicates_eq_self wheres fun v hv => h v (by simp [hv]),
      mapPredicates_eq_self havings fun v hv => h v (by simp [hv]),
      mapUnions_eq_self unions fun v hv => h v (by simp [hv])]

end

/-- Every value of a query is closed. -/
def Descriptor.Closed (d : Descriptor) : Prop := ∀ v ∈ d.values, v.Closed

instance (d : Descriptor) : Decidable d.Closed :=
  inferInstanceAs (Decidable (∀ v ∈ d.values, v.Closed))

/-- The data of a queued write of a closed query is closed. -/
theorem Descriptor.Closed.data {d : Descriptor} (h : d.Closed) {action : PendingAction}
    (hpending : d.pending = some action) : action.data.Closed := by
  obtain ⟨_, _, _, _, _, _, _, _, _, _, _, _, _, _, _⟩ := d
  cases hpending
  exact h _ (by simp [Descriptor.values])

/-- What stands under a text in closed data is closed. -/
theorem Value.Closed.subscript {v w : Value} (h : v.Closed) {name : String}
    (hw : v.subscript name = .ok w) : w.Closed := by
  rw [Value.subscript, h.bare_eq] at hw
  cases v with
  | map fs =>
    have hentry : (Fields.entry fs name) = .ok w := hw
    rw [Fields.entry, if_pos (show (Value.text name).hashable = true from rfl)] at hentry
    cases hget : Fields.get? fs name with
    | none =>
      rw [hget] at hentry
      cases hentry
    | some x =>
      rw [hget] at hentry
      cases hentry
      exact (Value.closed_map.mp h).get? hget
  | _ => cases hw

/-- The mapping of closed attributes and closed values is closed. -/
theorem closed_mergedFields {attributes values : Value} {row : Fields} (ha : attributes.Closed)
    (hv : values.Closed) (h : mergedFields attributes values = .ok row) : row.Closed := by
  unfold mergedFields at h
  split at h
  · cases h
    exact (Value.closed_map.mp ha).merge (Value.closed_map.mp hv)
  · cases h

/-- What the queued write of a closed query appends to a table is closed. -/
theorem Descriptor.Closed.added {d : Descriptor} (h : d.Closed) {key table added : Value}
    {placed : Placed} {result : WriteResult}
    (houtcome : (d.applyOn key table placed).outcome = .ok ⟨.extended added, result⟩) :
    added.Closed := by
  rcases applyOn_cases houtcome with ⟨-, hwhole⟩ | ⟨action, kind, haction, -, hleaves, -⟩
  · cases hwhole
  · have hdata : action.data.Closed := h.data haction
    cases kind with
    | insert =>
      cases hleaves
      exact hdata
    | update | increment | decrement => cases hleaves
    | delete =>
      obtain ⟨kept, hkept⟩ := hleaves
      cases hkept
    | updateOrInsert =>
      rcases hleaves with hwhole | ⟨attributes, values, row, ha, hv, hrow, hextended⟩
      · cases hwhole
      · cases hextended
        have hclosed : row.Closed :=
          closed_mergedFields (hdata.subscript ha) (hdata.subscript hv) hrow
        simpa using hclosed

/-- What the queued write of a closed query appends to a list is a list. -/
theorem Descriptor.Closed.exists_list {d : Descriptor} (h : d.Closed) {key added : Value}
    {items : List Value} {result : WriteResult}
    (houtcome : (d.applyTo key (.list items)).outcome = .ok ⟨.extended added, result⟩) :
    ∃ xs, added = .list xs := by
  rcases applyTo_cases houtcome with ⟨-, hwhole⟩ | ⟨_, _, -, -, -, hextends⟩
  · cases hwhole
  · obtain ⟨xs, hxs, -⟩ := Value.exists_add_of_extendable (hextends added rfl)
    rw [(h.added houtcome).bare_eq] at hxs
    exact ⟨xs, hxs⟩

/-! ## Looking and copying -/

/-- A closed value looked at again is the value. -/
theorem Session.current_of_closed (s : Session) {v : Value} (h : v.Closed) : s.current v = v := by
  rw [current]
  split
  · exact v.mapReferences_of_references_eq_nil _ _ h
  · rfl

/-- A closed query looked at again is the query. -/
theorem Session.currentQuery_of_closed (s : Session) {d : Descriptor} (h : d.Closed) :
    s.currentQuery d = d := by
  rw [currentQuery]
  split
  · exact d.mapValues_eq_self fun v hv => s.current_of_closed (h v hv)
  · rfl

/-- Copying no builders adds none. -/
theorem Session.copyBuilders_nil (s : Session) : (s.copyBuilders []).2 = s := by
  have hreachable : ∀ rounds, s.reachable rounds [] = [] := by
    intro rounds
    cases rounds <;> rfl
  rw [copyBuilders]
  simp [hreachable]

namespace Act

variable {reactor : Reactor} {s : Session} {id : Nat} {b : Builder}

/-- A copy of a closed value is the value. -/
theorem run_copy_of_closed {v : Value} (h : v.Closed) :
    (copy v).run reactor s = (.ok v, s) := by
  rw [copy, run_get_bind]
  split
  · rfl
  · have hcopies : s.copyBuilders v.references = ((s.copyBuilders []).1, s) := by
      rw [show v.references = [] from h]
      exact Prod.ext rfl s.copyBuilders_nil
    have hrename : v.rename (s.copyBuilders []).1 = v :=
      v.mapReferences_of_references_eq_nil _ _ h
    rw [run_get_bind, hcopies, run_bind_of_ok _ _ (run_set _ _ s), hrename, run_current,
      s.current_of_closed h]

/-- A copy of a closed query is the query, and the session stays as it is: no builder is reached
from its values, so none is copied and nothing in them is renamed. -/
theorem run_copyQuery_of_closed (hb : s.builders.get? id = some b) (h : b.descriptor.Closed) :
    (copyQuery id).run reactor s = (.ok b.descriptor, s) := by
  have hreferences : b.descriptor.values.flatMap Value.references = [] :=
    List.flatMap_eq_nil_iff.mpr h
  have hrename : b.descriptor.mapValues (Value.rename (s.copyBuilders []).1) = b.descriptor :=
    b.descriptor.mapValues_eq_self fun v hv => v.mapReferences_of_references_eq_nil _ _ (h v hv)
  rw [copyQuery, run_builder_bind _ _ hb, run_get_bind]
  split
  · rfl
  · have hcopies : s.copyBuilders [] = ((s.copyBuilders []).1, s) :=
      Prod.ext rfl s.copyBuilders_nil
    rw [run_get_bind, hreferences, hcopies, run_bind_of_ok _ _ (run_set _ _ s), run_pure, hrename]

/-- Copying the queued values of a closed query leaves the query. -/
theorem run_copiedValues_of_closed (hb : s.builders.get? id = some b)
    (h : b.descriptor.Closed) : (copiedValues id).run reactor s = (.ok b.descriptor, s) := by
  have hquery : (currentQuery id).run reactor s = (.ok b.descriptor, s) := by
    rw [run_currentQuery reactor s hb, s.currentQuery_of_closed h]
  rw [copiedValues, run_bind_of_ok _ _ hquery]
  rcases hpending : b.descriptor.pending with _ | ⟨kind, data⟩
  · rfl
  · have hdata : data.Closed := h.data hpending
    have hsame : ∀ {d : Descriptor}, d = { b.descriptor with pending := some { kind, data } } →
        (Except.ok d, s) = ((Except.ok b.descriptor, s) : Except Error Descriptor × Session) := by
      rintro d rfl
      rw [← hpending]
      cases b.descriptor
      rfl
    dsimp only
    split
    · exact (run_bind_of_ok _ _ (run_copy_of_closed hdata) _).trans (hsame rfl)
    · split
      · next fields values hget =>
        have hvalues : values.Closed := (Value.closed_map.mp hdata).get? hget
        refine (run_bind_of_ok _ _ (run_copy_of_closed hvalues) _).trans (hsame ?_)
        rw [Fields.set_of_get?_eq_some hget]
      · exact hsame rfl
    · exact hsame rfl

/-- Copying what an attempt adds leaves the attempt if what it adds is closed. -/
theorem run_copiedAttempt_of_closed {a : Attempt}
    (h : ∀ {added result}, a.outcome = .ok ⟨.extended added, result⟩ → added.Closed) :
    (copiedAttempt a).run reactor s = (.ok a, s) := by
  obtain ⟨touched, told, _ | ⟨remainder, result⟩⟩ := a
  · rfl
  · have hremainder : (copiedRemainder remainder).run reactor s = (.ok remainder, s) := by
      cases remainder with
      | whole => rfl
      | extended added => exact run_bind_of_ok _ _ (run_copy_of_closed (h rfl)) _
      | selection kept => rfl
    exact run_bind_of_ok _ _ hremainder _

/-- Copying what a write of a closed query adds leaves the attempt. -/
theorem run_copiedAttempt_applyOn {d : Descriptor} (h : d.Closed) (key table : Value)
    (placed : Placed) : (copiedAttempt (d.applyOn key table placed)).run reactor s =
      (.ok (d.applyOn key table placed), s) :=
  run_copiedAttempt_of_closed h.added

theorem run_copiedAttempt_applyTo {d : Descriptor} (h : d.Closed) (key table : Value) :
    (copiedAttempt (d.applyTo key table)).run reactor s = (.ok (d.applyTo key table), s) :=
  run_copiedAttempt_applyOn h key table _

/-- Where everything is closed, carrying out a write on a copy of a table gives what the query makes
of the table.

**Proof sketch.** The table, the values of the query and the rows that it changes are copied on the
way. A copy of a closed value is the value, so each of these steps leaves the session alone. -/
theorem run_applyQueued_of_closed (hb : s.builders.get? id = some b) (h : b.descriptor.Closed)
    {table : Value} (htable : table.Closed) :
    (applyQueued id table).run reactor s = (b.descriptor.make table, s) := by
  have hgiven : (table.orElse (.list [])).Closed := by
    rw [Value.orElse]
    split
    · exact htable
    · rfl
  rw [applyQueued, run_builder_bind _ _ hb, Descriptor.make]
  cases b.descriptor.checkedAction with
  | error e => rfl
  | ok checked =>
    rw [run_of_ok_bind, run_bind_of_ok _ _ (run_copy_of_closed hgiven),
      run_bind_of_ok _ _ (run_copiedValues_of_closed hb h),
      run_bind_of_ok _ _ (run_copiedAttempt_applyTo h _ _)]
    rfl

/-- A copy of a builder that refers to no other, and has had one select list, is a clone of it.

**Proof sketch.** No builder but the one itself is reached from it, so one is added and nothing in
it is renamed. -/
theorem run_copyBuilder_of_closed (hb : s.builders.get? id = some b) (h : b.references = [])
    (hformer : b.formerColumns = []) :
    (copyBuilder id).run reactor s =
      (.ok s.builders.nextId, { s with builders := s.builders.add b.clone }) := by
  have hclosed : b.descriptor.Closed := by
    intro v hv
    have hall : ∀ v ∈ b.descriptor.values, v.references = [] := by
      simpa [Builder.references, hformer] using h
    exact hall v hv
  have htwin : ∀ σ, b.twin σ = b.clone := by
    intro σ
    have hvalues : ∀ v ∈ b.descriptor.values, v.rename σ = v := fun v hv =>
      v.mapReferences_of_references_eq_nil _ _ (hclosed v hv)
    rw [Builder.twin, b.descriptor.mapValues_eq_self hvalues, hformer]
    rfl
  have honce : [id].eraseDups = [id] := rfl
  have hreachable : s.reachable s.builders.items.length [id] = [id] := by
    cases s.builders.items.length with
    | zero => rfl
    | succ rounds => simp [Session.reachable, hb, h, honce]
  have hcopies : s.copyBuilders [id] = ((s.copyBuilders [id]).1,
      { s with builders := s.builders.add b.clone }) := by
    refine Prod.ext rfl ?_
    simp [Session.copyBuilders, hb, honce, hreachable, htwin]
  have hnumber : (s.copyBuilders [id]).1 id = s.builders.nextId := by
    simp [Session.copyBuilders, hb, honce, hreachable]
  rw [copyBuilder, run_builder_bind _ _ hb, run_get_bind]
  split
  · rfl
  · rw [run_get_bind, hcopies, run_bind_of_ok _ _ (run_set _ _ _), run_pure, hnumber]

end Act

end FluentSql
