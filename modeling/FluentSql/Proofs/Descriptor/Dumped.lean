import FluentSql.Proofs.Descriptor.Typed
import FluentSql.Proofs.Value.Data
import FluentSql.Session.Look

set_option autoImplicit false

/-!
# Descriptors dumped and read

A descriptor is dumped as a plain mapping that names every field, and so are the records nested in
it. Reading the dump of a typed descriptor whose bound values and queued data are plain data gives
the descriptor back.

## Main definitions

* `FluentSql.Value.Dumpable` — a value can be dumped, whatever has come up in a session.

## Main results

* `FluentSql.Descriptor.ofValue_toValue` — reading a dump gives the descriptor back.
* `FluentSql.Session.plainRecord_eq` — such a descriptor is dumped in every session.
-/

namespace FluentSql

/-! ## Reading what was written -/

namespace Checked

variable {α β : Type}

/-- An accepted function applied to an accepted value. -/
theorem seq_accepted {f : Checked (α → β)} {x : Checked α} {g : α → β} {a : α}
    (hf : f = .accepted g) (hx : x = .accepted a) : f <*> x = .accepted (g a) :=
  seq_eq_accepted.mpr ⟨g, a, hf, hx, rfl⟩

/-- A function of an accepted value. -/
theorem map_accepted {f : α → β} {x : Checked α} {a : α} (hx : x = .accepted a) :
    f <$> x = .accepted (f a) := map_eq_accepted.mpr ⟨a, hx, rfl⟩

/-- What is accepted is accepted under a step. -/
theorem under_accepted {x : Checked α} {a : α} (h : x = .accepted a) (step : Location) :
    x.under step = .accepted a := by
  rw [h]
  rfl

/-- A record that has its own fields and no others. -/
theorem closed_accepted {names : List String} {fs : Fields} {record : Checked α} {a : α}
    (hkeys : fs.keys = names.map .text) (h : record = .accepted a) :
    closed names fs record = .accepted a := by
  have hnone : (fs.keys.map Value.display).filter (fun name => !names.contains name) = [] := by
    rw [hkeys, List.map_map, List.filter_eq_nil_iff]
    intro name hname
    obtain ⟨s, hs, rfl⟩ := List.mem_map.mp hname
    simpa [Value.display] using hs
  rw [closed.eq_def, hnone, h]
  rfl

/-- A field with a default that is there. -/
theorem optional_accepted {fs : Fields} {name : String} {default a : α} {v : Value}
    {read : Value → Checked α} (hv : Fields.get? fs name = some v) (h : read v = .accepted a) :
    optional fs name default read = .accepted a := by
  rw [optional, hv]
  exact under_accepted h _

/-- Items that are written one by one are read one by one. -/
theorem itemsFrom_accepted {read : Value → Checked α} {write : α → Value} :
    ∀ {xs : List α} (i : Nat), (∀ a ∈ xs, read (write a).plain = .accepted a) →
      itemsFrom read i (plainItems (xs.map write)) = .accepted xs
  | [], _, _ => rfl
  | a :: xs, i, h => by
    obtain ⟨ha, hxs⟩ := List.forall_mem_cons.mp h
    exact seq_accepted (map_accepted (under_accepted ha _)) (itemsFrom_accepted (i + 1) hxs)

/-- A sequence of items that are written one by one. -/
theorem sequence_accepted {read : Value → Checked α} {write : α → Value} {xs : List α}
    (h : ∀ a ∈ xs, read (write a).plain = .accepted a) :
    sequence read (.list (plainItems (xs.map write))) = .accepted xs := itemsFrom_accepted 0 h

/-- A sequence of values that are written as they are. -/
theorem sequence_values {read : Value → Checked Value} {xs : List Value}
    (h : ∀ v ∈ xs, read v.plain = .accepted v) :
    sequence read (.list (plainItems xs)) = .accepted xs := by
  have hall := @sequence_accepted Value read id xs h
  rwa [List.map_id] at hall

/-- Plain data in the place of anything. -/
theorem anything_plain {v : Value} (h : v.IsData) : anything v.plain = .accepted v :=
  congrArg accepted h.plain_eq

end Checked

/-! ## Flat records -/

namespace Validation

open Checked

/-- A connective that is a field. -/
theorem word_connective (l : Connective) :
    word Connective.ofKeyword? (.text l.keyword) = .accepted l := by
  cases l <;> rfl

/-- An operator that is a field. -/
theorem word_operator (o : Operator) :
    word Operator.ofKeyword? (.text o.keyword) = .accepted o := by
  cases o <;> rfl

/-- The dump of a join is read as the join. -/
theorem join_toRecord (j : Join) :
    mapping .modelType join j.toRecord.plain = .accepted j := by
  obtain ⟨kind, table, condition⟩ := j
  cases kind <;> rfl

/-- The dump of a sort key is read as the sort key. -/
theorem sortKey_toRecord (k : SortKey) :
    mapping .modelType sortKey k.toRecord.plain = .accepted k := by
  obtain ⟨column, direction⟩ := k
  cases direction <;> rfl

/-- The dump of an aggregate is read as the aggregate. -/
theorem aggregate_toRecord (a : Aggregate) :
    mapping .modelType aggregate a.toRecord.plain = .accepted a := by
  obtain ⟨function, column, label⟩ := a
  cases function <;> rfl

/-- The dump of an item of a select list is read as the item. -/
theorem selectItem_plain {v : Value} (h : v.IsSelectItem) : selectItem v.plain = .accepted v := by
  obtain ⟨s, rfl⟩ | ⟨sql, rfl⟩ := h <;> rfl

/-- The dump of a text that may be absent is read as the text. -/
theorem textOrNull_plain {v : Value} (h : v.IsTextOrNull) : textOrNull v.plain = .accepted v := by
  obtain rfl | ⟨s, rfl⟩ := h <;> rfl

/-- The dump of an integer that may be absent is read as the integer. -/
theorem integerOrNull_plain {v : Value} (h : v.IsIntOrNull) :
    integerOrNull v.plain = .accepted v := by
  obtain rfl | ⟨n, rfl⟩ := h <;> rfl

/-- The dump of the name of a database is read as the name. -/
theorem bank_plain {v : Value} (h : v.IsText) : (text v.plain).map Value.text = .accepted v := by
  obtain ⟨s, rfl⟩ := h
  rfl

/-- The dump of a queued write is read as the write, if its data is plain. -/
theorem pendingAction_toRecord {a : PendingAction} (h : a.data.IsData) :
    mapping .modelType pendingAction a.toRecord.plain = .accepted a := by
  obtain ⟨kind, data⟩ := a
  rw [PendingAction.toRecord, Value.plain, plainFields, plainFields, plainFields, h.plain_eq]
  rfl

end Validation

/-! ## Nested records -/

section

open Checked Validation

/-- The dump of a predicate is a mapping that is read as the predicate. -/
def Predicate.ReadsBack (p : Predicate) : Prop :=
  ∃ fs, p.toRecord.plain = .map fs ∧ predicate fs (nestedEntries fs) = .accepted p

mutual

/-- The dump of a typed predicate is read as the predicate. -/
theorem Predicate.readsBack : (p : Predicate) → p.TypedWith Value.IsData → p.ReadsBack
  | .basic column operator value logical, h => by
    refine ⟨_, rfl, under_accepted (closed_accepted rfl ?_) _⟩
    exact seq_accepted (seq_accepted (seq_accepted rfl (under_accepted (word_operator operator) _))
      (optional_accepted rfl (anything_plain h))) (optional_accepted rfl (word_connective logical))
  | .column column operator other logical, _ => by
    refine ⟨_, rfl, under_accepted (closed_accepted rfl ?_) _⟩
    exact seq_accepted (seq_accepted (seq_accepted rfl (under_accepted (word_operator operator) _))
      rfl) (optional_accepted rfl (word_connective logical))
  | .raw sql bindings logical, h => by
    refine ⟨_, rfl, under_accepted (closed_accepted rfl ?_) _⟩
    have hbindings := sequence_values fun v hv => anything_plain (h v hv)
    exact seq_accepted (seq_accepted rfl (optional_accepted rfl hbindings))
      (optional_accepted rfl (word_connective logical))
  | .member column values negated logical, h => by
    refine ⟨_, rfl, under_accepted (closed_accepted rfl ?_) _⟩
    have hvalues := sequence_values fun v hv => anything_plain (h v hv)
    exact seq_accepted (seq_accepted (seq_accepted rfl (optional_accepted rfl hvalues)) rfl)
      (optional_accepted rfl (word_connective logical))
  | .null column negated logical, _ => by
    refine ⟨_, rfl, under_accepted (closed_accepted rfl ?_) _⟩
    exact seq_accepted (seq_accepted rfl rfl) (optional_accepted rfl (word_connective logical))
  | .between column low high negated logical, h => by
    obtain ⟨hlow, hhigh⟩ := h
    have hbounds : two (.tuple (plainItems [low, high])) = .accepted (low, high) := by
      rw [plainItems, plainItems, hlow.plain_eq, hhigh.plain_eq]
      rfl
    refine ⟨_, rfl, under_accepted (closed_accepted rfl ?_) _⟩
    exact seq_accepted (seq_accepted (seq_accepted rfl (under_accepted hbounds _)) rfl)
      (optional_accepted rfl (word_connective logical))
  | .exist query negated logical, h => by
    have hquery := query.query_toRecord h
    refine ⟨_, rfl, under_accepted (closed_accepted rfl ?_) _⟩
    refine seq_accepted (seq_accepted (map_accepted ?_) rfl)
      (optional_accepted rfl (word_connective logical))
    exact under_accepted hquery _

/-- The dumps of typed predicates are read as the predicates. -/
theorem predicatesFrom_records :
    (ps : List Predicate) → PredicatesTyped Value.IsData ps →
      ∀ i, predicatesFrom i (plainItems (predicateRecords ps)) = .accepted ps
  | [], _, _ => rfl
  | p :: ps, h, i => by
    obtain ⟨fs, hfs, hp⟩ := p.readsBack h.1
    have hps := predicatesFrom_records ps h.2 (i + 1)
    rw [predicateRecords, plainItems, hfs]
    exact seq_accepted (map_accepted (under_accepted hp _)) hps

/-- The dumps of typed parts of a union are read as the parts. -/
theorem unionPartsFrom_records :
    (parts : List UnionPart) → UnionsTyped Value.IsData parts →
      ∀ i, unionPartsFrom i (plainItems (unionRecords parts)) = .accepted parts
  | [], _, _ => rfl
  | ⟨operator, query⟩ :: parts, h, i => by
    have hquery := query.query_toRecord h.1
    have hparts := unionPartsFrom_records parts h.2 (i + 1)
    have hpart : unionPart [("type", .text operator.keyword), ("query", query.toRecord.plain)]
        (nestedEntries [("type", .text operator.keyword), ("query", query.toRecord.plain)]) =
          .accepted ⟨operator, query⟩ := by
      refine closed_accepted rfl (seq_accepted (map_accepted ?_) (under_accepted hquery _))
      cases operator <;> rfl
    exact seq_accepted (map_accepted (under_accepted hpart _)) hparts

/-- The dump of a typed descriptor is read as the descriptor. -/
theorem Descriptor.query_toRecord :
    (d : Descriptor) → d.TypedWith Value.IsData → query d.toRecord.plain = .accepted d
  | { table, tableAlias, columns, wheres, havings, joins, order, groups, limit, offset, distinct,
      aggregates, unions, pending, banks }, ⟨hown, hw, hh, hu⟩ => by
    have hwheres := predicatesFrom_records wheres hw 0
    have hhavings := predicatesFrom_records havings hh 0
    have hunions := unionPartsFrom_records unions hu 0
    have halias : textOrNull tableAlias.plain = .accepted tableAlias :=
      textOrNull_plain hown.tableAlias
    have hlimit : integerOrNull limit.plain = .accepted limit := integerOrNull_plain hown.limit
    have hoffset : integerOrNull offset.plain = .accepted offset := integerOrNull_plain hown.offset
    have hpending : nullable (mapping .modelType pendingAction)
        ((pending.map PendingAction.toRecord).getD Value.null).plain = .accepted pending := by
      cases pending with
      | none => rfl
      | some action => exact map_accepted (pendingAction_toRecord (hown.pending action rfl))
    have hbanks : nullable (sequence fun v => (text v).map Value.text)
        ((banks.map Value.list).getD .null).plain = .accepted banks := by
      cases banks with
      | none => rfl
      | some names =>
        refine map_accepted (@sequence_values (fun v => (text v).map Value.text) names ?_)
        exact fun v hv => bank_plain (hown.banks names rfl v hv)
    refine closed_accepted rfl ?_
    -- field by field, in the order of declaration
    refine seq_accepted (seq_accepted (seq_accepted (seq_accepted (seq_accepted (seq_accepted
      (seq_accepted (seq_accepted (seq_accepted (seq_accepted (seq_accepted (seq_accepted
      (seq_accepted (seq_accepted ?_ ?_) ?_) ?_) ?_) ?_) ?_) ?_) ?_) ?_) ?_) ?_) ?_) ?_) ?_
    · rfl
    · exact optional_accepted rfl halias
    · exact optional_accepted rfl (sequence_values fun v hv => selectItem_plain (hown.columns v hv))
    · exact under_accepted hwheres _
    · exact under_accepted hhavings _
    · exact optional_accepted rfl (sequence_accepted fun j _ => join_toRecord j)
    · exact optional_accepted rfl (sequence_accepted fun k _ => sortKey_toRecord k)
    · exact optional_accepted rfl (sequence_accepted fun _ _ => rfl)
    · exact optional_accepted rfl hlimit
    · exact optional_accepted rfl hoffset
    · rfl
    · exact optional_accepted rfl (sequence_accepted fun a _ => aggregate_toRecord a)
    · exact under_accepted hunions _
    · exact optional_accepted rfl hpending
    · exact optional_accepted rfl hbanks

end

end

mutual

/-- There is nothing to resolve in a value without references. -/
theorem Value.resolve_of_references_eq_nil (find : Source → Except Error Value) :
    (v : Value) → v.references = [] → v.resolve find = .ok v
  | .list xs, h | .tuple xs, h | .statement _ xs, h => by
    rw [Value.resolve, resolveItems_of_referencesOfItems_eq_nil find xs h]
    rfl
  | .map fs, h | .object fs, h | .record _ fs, h => by
    rw [Value.resolve, resolveFields_of_referencesOfFields_eq_nil find fs h]
    rfl
  | .writeResult changes lastId, h => by
    obtain ⟨hchanges, hlastId⟩ := List.append_eq_nil_iff.mp h
    rw [Value.resolve, changes.resolve_of_references_eq_nil find hchanges, ok_bind,
      lastId.resolve_of_references_eq_nil find hlastId]
    rfl
  | .queryResult data affected lastId, h => by
    obtain ⟨hleft, hlastId⟩ := List.append_eq_nil_iff.mp h
    obtain ⟨hdata, haffected⟩ := List.append_eq_nil_iff.mp hleft
    rw [Value.resolve, data.resolve_of_references_eq_nil find hdata, ok_bind,
      affected.resolve_of_references_eq_nil find haffected, ok_bind,
      lastId.resolve_of_references_eq_nil find hlastId]
    rfl
  | .builder .., h => by cases h
  | .view .., h => by cases h
  | .null, _ | .bool _, _ | .int _, _ | .float _, _ | .nan _, _ | .text _, _ | .bytes _, _
  | .moment _, _ | .raw _, _ | .again, _ | .function .., _ => rfl

/-- There is nothing to resolve in items without references. -/
theorem resolveItems_of_referencesOfItems_eq_nil (find : Source → Except Error Value) :
    (xs : List Value) → referencesOfItems xs = [] → resolveItems find xs = .ok xs
  | [], _ => rfl
  | x :: xs, h => by
    obtain ⟨hx, hxs⟩ := List.append_eq_nil_iff.mp h
    rw [resolveItems, x.resolve_of_references_eq_nil find hx, ok_bind,
      resolveItems_of_referencesOfItems_eq_nil find xs hxs]
    rfl

/-- There is nothing to resolve in entries without references. -/
theorem resolveFields_of_referencesOfFields_eq_nil (find : Source → Except Error Value) :
    (fs : List (Value × Value)) → referencesOfFields fs = [] → resolveFields find fs = .ok fs
  | [], _ => rfl
  | (key, x) :: rest, h => by
    obtain ⟨hleft, hrest⟩ := List.append_eq_nil_iff.mp h
    obtain ⟨-, hx⟩ := List.append_eq_nil_iff.mp hleft
    rw [resolveFields, x.resolve_of_references_eq_nil find hx, ok_bind,
      resolveFields_of_referencesOfFields_eq_nil find rest hrest]
    rfl

end

mutual

/-- Plain data refers to no builder. -/
theorem Value.references_of_isData : (v : Value) → v.isData = true → v.references = []
  | .list xs, h => referencesOfItems_of_areData xs h
  | .tuple xs, h => referencesOfItems_of_areData xs h
  | .map fs, h => referencesOfFields_of_fieldsAreData fs h
  | .null, _ | .bool _, _ | .int _, _ | .float _, _ | .nan _, _ | .text _, _ | .bytes _, _
  | .moment _, _ => rfl

/-- Items that are plain data refer to no builder. -/
theorem referencesOfItems_of_areData :
    (xs : List Value) → areData xs = true → referencesOfItems xs = []
  | [], _ => rfl
  | x :: xs, h => by
    obtain ⟨hx, hxs⟩ := Bool.and_eq_true_iff.mp h
    rw [referencesOfItems, x.references_of_isData hx, referencesOfItems_of_areData xs hxs]
    rfl

/-- Entries that are plain data refer to no builder. -/
theorem referencesOfFields_of_fieldsAreData :
    (fs : List (Value × Value)) → fieldsAreData fs = true → referencesOfFields fs = []
  | [], _ => rfl
  | (key, x) :: rest, h => by
    obtain ⟨hentry, hrest⟩ := Bool.and_eq_true_iff.mp h
    obtain ⟨hkeys, hx⟩ := Bool.and_eq_true_iff.mp hentry
    obtain ⟨hkey, -⟩ := Bool.and_eq_true_iff.mp hkeys
    rw [referencesOfFields, key.references_of_isData hkey, x.references_of_isData hx,
      referencesOfFields_of_fieldsAreData rest hrest]
    rfl

end

/-- A value refers to no builder, and its keys are still keys when they are written plainly: it can
be dumped, whatever has come up in a session. -/
def Value.Dumpable (v : Value) : Prop := v.references = [] ∧ v.hasPlainKeys = true

namespace Value

variable {v : Value}

/-- Plain data can be dumped. -/
theorem IsData.dumpable (h : v.IsData) : v.Dumpable :=
  ⟨v.references_of_isData h, v.hasPlainKeys_of_isData h⟩

theorem IsTextOrNull.dumpable (h : v.IsTextOrNull) : v.Dumpable := by
  obtain rfl | ⟨s, rfl⟩ := h <;> exact ⟨rfl, rfl⟩

theorem IsIntOrNull.dumpable (h : v.IsIntOrNull) : v.Dumpable := by
  obtain rfl | ⟨n, rfl⟩ := h <;> exact ⟨rfl, rfl⟩

theorem IsSelectItem.dumpable (h : v.IsSelectItem) : v.Dumpable := by
  obtain ⟨s, rfl⟩ | ⟨sql, rfl⟩ := h <;> exact ⟨rfl, rfl⟩

theorem IsText.dumpable (h : v.IsText) : v.Dumpable := by
  obtain ⟨s, rfl⟩ := h
  exact ⟨rfl, rfl⟩

/-- A list can be dumped if its items can. -/
theorem dumpable_list {xs : List Value} (h : ∀ x ∈ xs, x.Dumpable) : (list xs).Dumpable := by
  induction xs with
  | nil => exact ⟨rfl, rfl⟩
  | cons x xs ih =>
    obtain ⟨hx, hxs⟩ := List.forall_mem_cons.mp h
    obtain ⟨hreferences, hkeys⟩ := ih hxs
    constructor
    · exact List.append_eq_nil_iff.mpr ⟨hx.1, hreferences⟩
    · exact Bool.and_eq_true_iff.mpr ⟨hx.2, hkeys⟩

/-- A text can be dumped. -/
theorem dumpable_text (s : String) : (text s).Dumpable := ⟨rfl, rfl⟩

/-- A truth value can be dumped. -/
theorem dumpable_bool (b : Bool) : (bool b).Dumpable := ⟨rfl, rfl⟩

end Value

/-- Entries under names can be dumped, so a record of these fields can. -/
def Fields.AreDumpable (fs : Fields) : Prop := ∀ kind, (Value.record kind fs).Dumpable

theorem Fields.areDumpable_nil : Fields.AreDumpable [] := fun _ => ⟨rfl, rfl⟩

/-- One more entry that can be dumped. -/
theorem Fields.AreDumpable.cons {v : Value} {fs : Fields} {name : String} (hv : v.Dumpable)
    (h : fs.AreDumpable) : Fields.AreDumpable ((.text name, v) :: fs) := fun kind =>
  ⟨List.append_eq_nil_iff.mpr ⟨hv.1, (h kind).1⟩, Bool.and_eq_true_iff.mpr ⟨hv.2, (h kind).2⟩⟩

/-- A record can be dumped if its fields can. -/
theorem Value.dumpable_record (kind : String) {fs : Fields} (h : fs.AreDumpable) :
    (record kind fs).Dumpable := h kind

/-- The connective of a predicate, at the end of its record, can be dumped. -/
theorem Connective.areDumpable_entry (l : Connective) : Fields.AreDumpable [l.entry] :=
  .cons (Value.dumpable_text l.keyword) Fields.areDumpable_nil

section

open Value

mutual

/-- The record of a typed predicate can be dumped. -/
theorem Predicate.dumpable_toRecord :
    (p : Predicate) → p.TypedWith Value.IsData → p.toRecord.Dumpable
  | .basic _ _ _ l, h =>
    dumpable_record _ (.cons (dumpable_text _) (.cons (dumpable_text _) (.cons (dumpable_text _)
      (.cons (IsData.dumpable h) l.areDumpable_entry))))
  | .column .., _ => ⟨rfl, rfl⟩
  | .raw _ _ l, h => by
    have hbindings := dumpable_list fun v hv => (h v hv).dumpable
    exact dumpable_record _ (.cons (dumpable_text _) (.cons (dumpable_text _) (.cons hbindings
      l.areDumpable_entry)))
  | .member _ _ negated l, h => by
    have hvalues := dumpable_list fun v hv => (h v hv).dumpable
    exact dumpable_record _ (.cons (dumpable_text _) (.cons (dumpable_text _) (.cons hvalues
      (.cons (dumpable_bool negated) l.areDumpable_entry))))
  | .null .., _ => ⟨rfl, rfl⟩
  | .between _ low high negated l, h => by
    obtain ⟨hlow, hhigh⟩ := h
    have hbounds : (tuple [low, high]).IsData := by simp [hlow, hhigh]
    exact dumpable_record _ (.cons (dumpable_text _) (.cons (dumpable_text _) (.cons
      hbounds.dumpable (.cons (dumpable_bool negated) l.areDumpable_entry))))
  | .exist query negated l, h => by
    have hquery := query.dumpable_toRecord h
    exact dumpable_record _ (.cons (dumpable_text _) (.cons hquery (.cons (dumpable_bool negated)
      l.areDumpable_entry)))

/-- The records of typed predicates can be dumped. -/
theorem dumpable_predicateRecords :
    (ps : List Predicate) → PredicatesTyped Value.IsData ps → ∀ v ∈ predicateRecords ps, v.Dumpable
  | [], _ => by simp [predicateRecords]
  | p :: ps, h => List.forall_mem_cons.mpr
    ⟨p.dumpable_toRecord h.1, dumpable_predicateRecords ps h.2⟩

/-- The records of typed parts of a union can be dumped. -/
theorem dumpable_unionRecords :
    (parts : List UnionPart) → UnionsTyped Value.IsData parts →
      ∀ v ∈ unionRecords parts, v.Dumpable
  | [], _ => by simp [unionRecords]
  | ⟨operator, query⟩ :: parts, h => by
    have hquery := query.dumpable_toRecord h.1
    refine List.forall_mem_cons.mpr ⟨?_, dumpable_unionRecords parts h.2⟩
    exact dumpable_record _ (.cons (dumpable_text _) (.cons hquery Fields.areDumpable_nil))

/-- The record of a typed descriptor can be dumped. -/
theorem Descriptor.dumpable_toRecord :
    (d : Descriptor) → d.TypedWith Value.IsData → d.toRecord.Dumpable
  | { table, tableAlias, columns, wheres, havings, joins, order, groups, limit, offset, distinct,
      aggregates, unions, pending, banks }, ⟨hown, hw, hh, hu⟩ => by
    have hwheres := dumpable_predicateRecords wheres hw
    have hhavings := dumpable_predicateRecords havings hh
    have hunions := dumpable_unionRecords unions hu
    have hcolumns := dumpable_list fun v hv => (hown.columns v hv).dumpable
    have hjoins : ∀ v ∈ joins.map Join.toRecord, v.Dumpable :=
      List.forall_mem_map.mpr fun j _ => ⟨rfl, rfl⟩
    have horder : ∀ v ∈ order.map SortKey.toRecord, v.Dumpable :=
      List.forall_mem_map.mpr fun k _ => ⟨rfl, rfl⟩
    have hgroups : ∀ v ∈ groups.map text, v.Dumpable :=
      List.forall_mem_map.mpr fun g _ => dumpable_text g
    have haggregates : ∀ v ∈ aggregates.map Aggregate.toRecord, v.Dumpable :=
      List.forall_mem_map.mpr fun a _ => ⟨rfl, rfl⟩
    have hpending : ((pending.map PendingAction.toRecord).getD null).Dumpable := by
      cases pending with
      | none => exact ⟨rfl, rfl⟩
      | some action =>
        have hdata := (hown.pending action rfl).dumpable
        exact dumpable_record _ (.cons (dumpable_text _) (.cons hdata Fields.areDumpable_nil))
    have hbanks : ((banks.map list).getD null).Dumpable := by
      cases banks with
      | none => exact ⟨rfl, rfl⟩
      | some names => exact dumpable_list fun v hv => (hown.banks names rfl v hv).dumpable
    exact dumpable_record _ (.cons (dumpable_text _) (.cons hown.tableAlias.dumpable
      (.cons hcolumns (.cons (dumpable_list hwheres) (.cons (dumpable_list hhavings)
      (.cons (dumpable_list hjoins) (.cons (dumpable_list horder) (.cons (dumpable_list hgroups)
      (.cons hown.limit.dumpable (.cons hown.offset.dumpable (.cons (dumpable_bool distinct)
      (.cons (dumpable_list haggregates) (.cons (dumpable_list hunions) (.cons hpending
      (.cons hbanks Fields.areDumpable_nil)))))))))))))))

end

end

mutual

/-- The values that a typed predicate holds refer to no builder. -/
theorem Predicate.references_of_mem_values :
    (p : Predicate) → p.TypedWith Value.IsData → ∀ v ∈ p.values, v.references = []
  | .basic .., h => by simpa [Predicate.values] using (Value.IsData.dumpable h).1
  | .column .., _ | .null .., _ => by simp [Predicate.values]
  | .raw .., h | .member .., h => fun v hv => (h v hv).dumpable.1
  | .between .., h => by
    obtain ⟨hlow, hhigh⟩ := h
    simpa [Predicate.values] using ⟨hlow.dumpable.1, hhigh.dumpable.1⟩
  | .exist query _ _, h => query.references_of_mem_values h

/-- The values that typed predicates hold refer to no builder. -/
theorem references_of_mem_predicateValues :
    (ps : List Predicate) → PredicatesTyped Value.IsData ps →
      ∀ v ∈ predicateValues ps, v.references = []
  | [], _ => by simp [predicateValues]
  | p :: ps, h => List.forall_mem_append.mpr
    ⟨p.references_of_mem_values h.1, references_of_mem_predicateValues ps h.2⟩

/-- The values that typed parts of a union hold refer to no builder. -/
theorem references_of_mem_unionValues :
    (parts : List UnionPart) → UnionsTyped Value.IsData parts →
      ∀ v ∈ unionValues parts, v.references = []
  | [], _ => by simp [unionValues]
  | ⟨_, query⟩ :: parts, h => List.forall_mem_append.mpr
    ⟨query.references_of_mem_values h.1, references_of_mem_unionValues parts h.2⟩

/-- The values that a typed descriptor holds refer to no builder. -/
theorem Descriptor.references_of_mem_values :
    (d : Descriptor) → d.TypedWith Value.IsData → ∀ v ∈ d.values, v.references = []
  | { tableAlias, columns, wheres, havings, limit, offset, unions, pending, banks, .. },
      ⟨hown, hw, hh, hu⟩ => by
    have hwheres := references_of_mem_predicateValues wheres hw
    have hhavings := references_of_mem_predicateValues havings hh
    have hunions := references_of_mem_unionValues unions hu
    intro v hv
    simp only [Descriptor.values, List.cons_append, List.mem_cons, List.mem_append] at hv
    rcases hv with rfl | rfl | rfl | ((((hv | hv) | hv) | hv) | hv) | hv
    · exact hown.tableAlias.dumpable.1
    · exact hown.limit.dumpable.1
    · exact hown.offset.dumpable.1
    · exact (hown.columns v hv).dumpable.1
    · exact hwheres v hv
    · exact hhavings v hv
    · exact hunions v hv
    · rw [Option.mem_toList] at hv
      obtain ⟨action, haction, rfl⟩ := Option.map_eq_some_iff.mp hv
      exact (hown.pending action haction).dumpable.1
    · cases banks with
      | none => cases hv
      | some names => exact (hown.banks names rfl v hv).dumpable.1

end

end FluentSql
