import FluentSql.Proofs.Failure
import FluentSql.Proofs.Rows.Places
import FluentSql.Proofs.Statement.Erasure

set_option autoImplicit false

/-!
# Lists of rows

Tables are mostly lists of mappings. What a query selects from one is made of its rows, in their
order; and a write leaves as many rows where they stand as there were, whatever it changes in them,
before it appends rows or takes some away.

## Main results

* `FluentSql.Descriptor.exists_of_selectRows_eq_ok`,
  `FluentSql.Descriptor.selectRows_of_limit_int` — what a query selects from a list of rows.
* `FluentSql.Descriptor.length_touched_applyTo` — a write changes rows where they stand.
* `FluentSql.Attempt.result_list` — the table that a write leaves.
* `FluentSql.Descriptor.length_eq_of_left_eq` — tables that a write makes the same.
-/

namespace FluentSql

/-! ## Reading -/

/-- A slice of changed items is the change of a slice. -/
theorem slice_map {α β : Type} (f : α → β) (xs : List α) (start stop : Int) :
    slice (xs.map f) start stop = (slice xs start stop).map f := by
  simp [slice]

/-- A slice is made of items in their order. -/
theorem slice_sublist {α : Type} (xs : List α) (start stop : Int) :
    (slice xs start stop).Sublist xs :=
  (List.drop_sublist _ _).trans (List.take_sublist _ _)

/-- A slice between two positions counted from the start: the items up to the one, without those
before the other. -/
theorem slice_natCast {α : Type} (xs : List α) (start stop : Nat) :
    slice xs start stop = (xs.take stop).drop start := by
  have hclamp : ∀ i : Nat, clampIndex xs.length i = min i xs.length := by
    intro i
    rw [clampIndex, if_neg (by omega), Int.toNat_natCast]
  rw [slice, hclamp, hclamp, ← List.take_eq_take_min, List.drop_eq_drop_iff, List.length_take]
  omega

/-- A slice of a list is a list. -/
theorem Value.exists_of_slice_list_eq_ok {xs : List Value} {start stop v : Value}
    (h : (Value.list xs).slice start stop = .ok v) :
    ∃ i j, v = .list (FluentSql.slice xs i j) := by
  obtain ⟨cut, hcut, hv⟩ := bind_eq_ok.mp h
  obtain ⟨i, -, hcut⟩ := bind_eq_ok.mp hcut
  obtain ⟨j, -, hcut⟩ := bind_eq_ok.mp hcut
  cases hcut
  cases hv
  exact ⟨i, j, rfl⟩

namespace Descriptor

/-- From a list of rows those are filtered on which the predicate holds. -/
theorem filterTable_rowsValue (d : Descriptor) (rows : List Row) :
    d.filterTable (rowsValue rows) = .ok ((rows.filter d.keeps).map .map) := by
  have haux : ∀ (rows kept : List Row), (rows.map Value.map).filterAuxM d.admits (kept.map .map) =
      .ok (((rows.filter d.keeps).reverse ++ kept).map .map) := by
    intro rows
    induction rows with
    | nil => exact fun kept => rfl
    | cons row rows ih =>
      intro kept
      rw [List.map_cons, List.filterAuxM, List.filter_cons, admits, ok_bind]
      cases d.keeps row with
      | false => exact ih kept
      | true =>
        have hrest := ih (row :: kept)
        rw [List.map_cons] at hrest
        simpa using hrest
  have hfilter := haux rows []
  rw [List.map_nil] at hfilter
  rw [filterTable, rowsValue, Value.items, ok_bind, List.filterM, hfilter, ok_bind]
  simp [pure_eq_ok]

/-- A query that is cut to a number of rows selects a slice of the rows that it keeps. -/
theorem selectRows_of_limit_int {d : Descriptor} {start count : Int}
    (hoffset : d.offset.orElse (.int 0) = .int start) (hlimit : d.limit = .int count)
    (rows : List Row) :
    d.selectRows (rowsValue rows) =
      .ok ((slice (rows.filter d.keeps) start (start + count)).map .map) := by
  have hpage : d.page (.list ((rows.filter d.keeps).map .map)) =
      .ok (.list (slice ((rows.filter d.keeps).map .map) start (start + count))) := by
    rw [page, hoffset, hlimit]
    rfl
  rw [selectRows, filterTable_rowsValue, ok_bind, hpage, ok_bind, slice_map]
  rfl

/-- What a query selects from a list of rows is made of its rows, in their order.

**Proof sketch.** The rows that the query keeps are a sublist of them all, and the page is a slice
of these, whatever its bounds are. -/
theorem exists_of_selectRows_eq_ok {d : Descriptor} {rows : List Row} {found : List Value}
    (h : d.selectRows (rowsValue rows) = .ok found) :
    ∃ kept : List Row, kept.Sublist rows ∧ found = kept.map .map := by
  rw [selectRows, filterTable_rowsValue, ok_bind] at h
  obtain ⟨cut, hcut, hitems⟩ := bind_eq_ok.mp h
  have hslice : ∃ stop, (Value.list ((rows.filter d.keeps).map .map)).slice
      (d.offset.orElse (.int 0)) stop = .ok cut := by
    rw [page] at hcut
    split at hcut
    · obtain ⟨n, -, hcut⟩ := bind_eq_ok.mp hcut
      exact ⟨_, hcut⟩
    · obtain ⟨stop, -, hcut⟩ := bind_eq_ok.mp hcut
      exact ⟨stop, hcut⟩
  obtain ⟨stop, hstop⟩ := hslice
  obtain ⟨i, j, rfl⟩ := Value.exists_of_slice_list_eq_ok hstop
  cases hitems
  exact ⟨slice (rows.filter d.keeps) i j, (slice_sublist _ i j).trans List.filter_sublist,
    slice_map _ _ i j⟩

end Descriptor

/-! ## Writing -/

/-- What is found for each item is the list of what is found. -/
theorem mapM_eq_ok_map {α β : Type} {f : α → Except Error β} {g : α → β} {xs : List α}
    (h : ∀ x ∈ xs, f x = .ok (g x)) : xs.mapM f = .ok (xs.map g) := by
  induction xs with
  | nil => rfl
  | cons x xs ih =>
    obtain ⟨hx, hxs⟩ := List.forall_mem_cons.mp h
    rw [List.mapM_cons, hx, ok_bind, ih hxs, ok_bind]
    rfl

/-- A list of outcomes has as many values as there were things to try. -/
theorem length_of_mapM_eq_ok {α β : Type} {f : α → Except Error β} {xs : List α} {ys : List β}
    (h : xs.mapM f = .ok ys) : ys.length = xs.length := by
  induction xs generalizing ys with
  | nil =>
    cases h
    rfl
  | cons x xs ih =>
    rw [List.mapM_cons] at h
    obtain ⟨y, -, h⟩ := bind_eq_ok.mp h
    obtain ⟨rest, hrest, h⟩ := bind_eq_ok.mp h
    cases h
    rw [List.length_cons, List.length_cons, ih hrest]

/-- Changing the items that verdicts keep is keeping changed items. -/
theorem keptBy_map {α β : Type} (f : α → β) (kept : List Bool) (xs : List α) :
    (keptBy kept xs).map f = keptBy kept (xs.map f) := by
  simp [keptBy, List.zip_map_right, List.filter_map, Function.comp_def]

/-- The items that the verdicts of a test keep are those that pass it. -/
theorem keptBy_eq_filter {α : Type} (test : α → Bool) (xs : List α) :
    keptBy (xs.map test) xs = xs.filter test := by
  induction xs with
  | nil => rfl
  | cons x xs ih =>
    rw [keptBy] at ih ⊢
    rw [List.map_cons, List.zip_cons_cons, List.filter_cons, List.filter_cons]
    cases test x with
    | false => exact ih
    | true => exact congrArg (x :: ·) ih

/-- Changing rows where they stand leaves what stands at as many places as there were. -/
theorem length_touched_attemptChange (marks : List Bool) (change : Value → Value × Option Error)
    (rows : Placed) :
    (attemptChange marks change rows).touched.length = rows.places.length := by
  rw [attemptChange]
  dsimp only
  rw [Placed.items, List.length_map, places_changePlaces]

namespace Descriptor

/-- The verdict on each of a list of rows is whether the predicate holds on it. -/
theorem matching_rowsValue (d : Descriptor) (rows : List Row) :
    d.matching (rowsValue rows) = .ok (rows.map d.keeps) := by
  rw [matching, rowsValue, Value.items, ok_bind, List.mapM_map]
  exact mapM_eq_ok_map fun row _ => rfl

/-- A queued write of a kind is carried out on rows at their places. -/
theorem applyOn_keyword {d : Descriptor} {kind : WriteKind} {data : Value}
    (hpending : d.pending = some ⟨kind.keyword, data⟩) (key table : Value) (rows : Placed) :
    d.applyOn key table rows = d.applyKind kind key data table rows := by
  rw [applyOn, hpending]
  cases kind <;> rfl

/-- A queued write of a kind is carried out on a list of rows, of which none stands at two places.
-/
theorem applyTo_keyword {d : Descriptor} {kind : WriteKind} {data : Value}
    (hpending : d.pending = some ⟨kind.keyword, data⟩) (key : Value) (rows : List Row) :
    d.applyTo key (rowsValue rows) =
      d.applyKind kind key data (rowsValue rows) (.apart (rows.map .map)) :=
  applyOn_keyword hpending key (rowsValue rows) _

/-- A write leaves as many rows where they stand as there were. -/
theorem length_touched_applyKind (d : Descriptor) (kind : WriteKind) (key data table : Value)
    (rows : Placed) :
    (d.applyKind kind key data table rows).touched.length = rows.places.length := by
  have hitems : rows.items.length = rows.places.length := List.length_map _
  have hincrement : ∀ decrement,
      (d.applyIncrement decrement data table rows).touched.length = rows.places.length := by
    intro decrement
    rw [applyIncrement]
    dsimp only
    split
    · exact hitems
    · exact length_touched_attemptChange _ _ rows
  cases kind with
  | insert => exact hitems
  | delete => exact hitems
  | increment => exact hincrement false
  | decrement => exact hincrement true
  | update =>
    rw [applyKind, applyUpdate]
    split
    · exact hitems
    · exact length_touched_attemptChange _ _ rows
  | updateOrInsert =>
    rw [applyKind, applyUpdateOrInsert]
    split
    · exact hitems
    · split
      · exact length_touched_attemptChange _ _ rows
      · exact hitems

/-- A write leaves as many rows where they stand as there were. -/
theorem length_touched_applyTo (d : Descriptor) (key : Value) (items : List Value) :
    (d.applyTo key (.list items)).touched.length = items.length := by
  have hitems : (((Value.list items).items.toOption).getD []) = items := rfl
  rw [applyTo, applyOn, hitems]
  split
  · exact congrArg List.length (Placed.items_apart items)
  · split
    · rw [length_touched_applyKind, Placed.length_places_apart]
    · exact congrArg List.length (Placed.items_apart items)

end Descriptor

/-! ## What is left -/

/-- What a write of a kind may leave of a table when it succeeds. -/
def WriteKind.Leaves (kind : WriteKind) (data : Value) (remainder : Remainder) : Prop :=
  match kind with
  | .insert => remainder = .extended data
  | .update | .increment | .decrement => remainder = .whole
  | .delete => ∃ kept, remainder = .selection kept
  | .updateOrInsert => remainder = .whole ∨ ∃ attributes values row,
      data.subscript "attributes" = .ok attributes ∧ data.subscript "values" = .ok values ∧
        mergedFields attributes values = .ok row ∧ remainder = .extended (.list [.map row])

/-- Rows that are appended leave a table with them at its end, which takes them. -/
theorem appendRows_eq_ok {key table added : Value} {w : Written}
    (h : appendRows key table added = .ok w) :
    w.remainder = .extended added ∧ table.extendable added = true := by
  have hrest : ∀ lastId : Value, (do
      if !table.extendable added then throw Error.wrongType
      return ({
        remainder := .extended added
        result := { changes := .int (← added.length), lastId := lastId.orElse (.int 0) } } :
        Written)) = Except.ok w →
          w.remainder = .extended added ∧ table.extendable added = true := by
    intro lastId h
    cases hextendable : table.extendable added with
    | false =>
      rw [hextendable] at h
      cases h
    | true =>
      rw [hextendable] at h
      obtain ⟨n, -, h⟩ := bind_eq_ok.mp h
      cases h
      exact ⟨rfl, rfl⟩
  rw [appendRows] at h
  split at h
  · obtain ⟨last, -, h⟩ := bind_eq_ok.mp h
    obtain ⟨lastId, -, h⟩ := bind_eq_ok.mp h
    exact hrest lastId h
  · exact hrest .null h

/-- Changing rows where they stand leaves the table itself. -/
theorem remainder_attemptChange {marks : List Bool} {change : Value → Value × Option Error}
    {rows : Placed} {w : Written}
    (h : (attemptChange marks change rows).outcome = .ok w) : w.remainder = .whole := by
  rw [attemptChange] at h
  dsimp only at h
  rw [changeOutcome.eq_def] at h
  split at h
  · cases h
  · cases h
    rfl

namespace Descriptor

/-- A write of a kind leaves what such writes leave. -/
theorem leaves_of_applyKind {d : Descriptor} {kind : WriteKind} {key data table : Value}
    {rows : Placed} {w : Written}
    (h : (d.applyKind kind key data table rows).outcome = .ok w) :
    kind.Leaves data w.remainder ∧
      ∀ added, w.remainder = .extended added → table.extendable added = true := by
  have hwhole : w.remainder = .whole →
      ∀ added, w.remainder = .extended added → table.extendable added = true := by
    intro hw added hadded
    rw [hw] at hadded
    cases hadded
  have hincrement : ∀ decrement, (d.applyIncrement decrement data table rows).outcome = .ok w →
      w.remainder = .whole := by
    intro decrement h
    rw [applyIncrement] at h
    dsimp only at h
    split at h
    · cases h
    · exact remainder_attemptChange h
  cases kind with
  | insert =>
    obtain ⟨hw, hextendable⟩ := appendRows_eq_ok h
    refine ⟨hw, fun added hadded => ?_⟩
    rw [hw] at hadded
    cases hadded
    exact hextendable
  | update =>
    rw [applyKind, applyUpdate] at h
    split at h
    · cases h
    · exact ⟨remainder_attemptChange h, hwhole (remainder_attemptChange h)⟩
  | delete =>
    obtain ⟨marks, -, h⟩ := bind_eq_ok.mp h
    obtain ⟨keys, -, h⟩ := bind_eq_ok.mp h
    obtain ⟨kept, -, h⟩ := bind_eq_ok.mp h
    cases h
    exact ⟨⟨kept, rfl⟩, fun added hadded => by cases hadded⟩
  | increment => exact ⟨hincrement false h, hwhole (hincrement false h)⟩
  | decrement => exact ⟨hincrement true h, hwhole (hincrement true h)⟩
  | updateOrInsert =>
    rw [applyKind, applyUpdateOrInsert] at h
    split at h
    · cases h
    · next hparts =>
      obtain ⟨attributes, hattributes, hparts⟩ := bind_eq_ok.mp hparts
      obtain ⟨values, hvalues, hparts⟩ := bind_eq_ok.mp hparts
      obtain ⟨items', -, hparts⟩ := bind_eq_ok.mp hparts
      obtain ⟨marks, -, hparts⟩ := bind_eq_ok.mp hparts
      cases hparts
      split at h
      · exact ⟨.inl (remainder_attemptChange h), hwhole (remainder_attemptChange h)⟩
      · obtain ⟨row, hrow, h⟩ := bind_eq_ok.mp h
        obtain ⟨hw, hextendable⟩ := appendRows_eq_ok h
        refine ⟨.inr ⟨_, _, row, hattributes, hvalues, hrow, hw⟩, ?_⟩
        intro added hadded
        rw [hw] at hadded
        cases hadded
        exact hextendable

end Descriptor

namespace Attempt

/-- The table that a write leaves of a list: its rows as they are by then, with rows appended, or
those of them that are kept. Which of the three it is, the outcome of the attempt says. -/
theorem result_list {a : Attempt} {items : List Value} {left : Value} {result : WriteResult}
    (h : a.result (.list items) = .ok (left, result)) :
    ∃ remainder, a.outcome = .ok ⟨remainder, result⟩ ∧
      match remainder with
      | .whole => left = .list a.touched
      | .extended added => (Value.list a.touched).add added = .ok left
      | .selection kept => left = .list (keptBy kept a.touched) := by
  obtain ⟨⟨remainder, result'⟩, houtcome, h⟩ := bind_eq_ok.mp h
  cases remainder with
  | whole =>
    cases h
    exact ⟨.whole, houtcome, rfl⟩
  | extended added =>
    obtain ⟨left', hleft, h⟩ := bind_eq_ok.mp h
    cases h
    exact ⟨.extended added, houtcome, hleft⟩
  | selection kept =>
    cases h
    exact ⟨.selection kept, houtcome, rfl⟩

end Attempt

/-- Putting something at the end of a list appends the items that it shows. -/
theorem Value.exists_add_of_extendable {items : List Value} {added : Value}
    (h : (Value.list items).extendable added = true) :
    ∃ xs, added.bare = .list xs ∧
      ∀ items : List Value, (Value.list items).add added = .ok (.list (items ++ xs)) := by
  rw [extendable] at h
  cases hbare : added.bare with
  | list xs =>
    refine ⟨xs, rfl, fun items => ?_⟩
    rw [add, hbare]
    rfl
  | _ =>
    rw [hbare] at h
    cases h

/-- A kind of write is found by its own keyword. -/
theorem WriteKind.eq_keyword_of_ofKeyword? {word : String} {kind : WriteKind}
    (h : ofKeyword? word = some kind) : word = kind.keyword := by
  have hword : (kind.keyword == word) = true :=
    @List.find?_some _ (fun k : WriteKind => k.keyword == word) _ _ h
  exact (beq_iff_eq.mp hword).symm

namespace Descriptor

/-- A write that succeeds, with what it leaves: nothing was queued and the table is left, or it is
one of a kind that there is. -/
theorem applyOn_cases {d : Descriptor} {key table : Value} {placed : Placed} {w : Written}
    (h : (d.applyOn key table placed).outcome = .ok w) :
    (d.pending = none ∧ w.remainder = .whole) ∨
      ∃ action kind, d.pending = some action ∧ WriteKind.ofKeyword? action.kind = some kind ∧
        kind.Leaves action.data w.remainder ∧
          ∀ added, w.remainder = .extended added → table.extendable added = true := by
  rw [applyOn] at h
  split at h
  · next hpending =>
    cases h
    exact .inl ⟨hpending, rfl⟩
  · next action hpending =>
    split at h
    · next kind hkind =>
      exact .inr ⟨action, kind, hpending, hkind, leaves_of_applyKind h⟩
    · cases h

/-- The same on a table in which no row stands at two places. -/
theorem applyTo_cases {d : Descriptor} {key table : Value} {w : Written}
    (h : (d.applyTo key table).outcome = .ok w) :
    (d.pending = none ∧ w.remainder = .whole) ∨
      ∃ action kind, d.pending = some action ∧ WriteKind.ofKeyword? action.kind = some kind ∧
        kind.Leaves action.data w.remainder ∧
          ∀ added, w.remainder = .extended added → table.extendable added = true :=
  applyOn_cases h

/-- A write on a list that succeeds leaves a table. -/
theorem exists_result_of_outcome {d : Descriptor} {key : Value} {items : List Value} {w : Written}
    (h : (d.applyTo key (.list items)).outcome = .ok w) :
    ∃ left, (d.applyTo key (.list items)).result (.list items) = .ok (left, w.result) := by
  have hadded : ∀ added, w.remainder = .extended added →
      (Value.list items).extendable added = true := by
    rcases applyTo_cases h with ⟨-, hwhole⟩ | ⟨_, _, -, -, -, hadded⟩
    · intro added hextended
      rw [hwhole] at hextended
      cases hextended
    · exact hadded
  obtain ⟨remainder, result⟩ := w
  rw [Attempt.result, h, ok_bind]
  cases remainder with
  | whole => exact ⟨_, rfl⟩
  | extended added =>
    obtain ⟨xs, -, hadd⟩ := Value.exists_add_of_extendable (hadded added rfl)
    exact ⟨_, congrArg (· >>= _) (hadd _)⟩
  | selection kept => exact ⟨_, rfl⟩

/-- The kind of the queued write. -/
def kind? (d : Descriptor) : Option WriteKind :=
  d.pending.bind fun action => WriteKind.ofKeyword? action.kind

/-- Whether the queued write keeps every row of a table, and appends the same to every table. -/
def keepsRows (d : Descriptor) : Bool :=
  match d.kind? with
  | some .insert | some .update | some .increment | some .decrement => true
  | _ => false

/-- What a write that keeps every row appends to a list. -/
def appended (d : Descriptor) : List Value :=
  match d.kind?, d.pending.map (·.data.bare) with
  | some .insert, some (Value.list xs) => xs
  | _, _ => []

/-- A write that keeps every row leaves the rows as it has changed them, and what it appends. -/
theorem left_eq_of_keepsRows {d : Descriptor} (hkeeps : d.keepsRows = true) {key : Value}
    {items : List Value} {left : Value} {result : WriteResult}
    (h : (d.applyTo key (.list items)).result (.list items) = .ok (left, result)) :
    left = .list ((d.applyTo key (.list items)).touched ++ d.appended) := by
  obtain ⟨remainder, houtcome, hleft⟩ := Attempt.result_list h
  rcases applyTo_cases houtcome with ⟨hnone, -⟩ | ⟨action, kind, haction, hkind, hleaves, hextends⟩
  · simp [keepsRows, kind?, hnone] at hkeeps
  · have hd : d.kind? = some kind := by rw [kind?, haction, Option.bind_some, hkind]
    have hwhole : remainder = .whole → d.appended = [] → left =
        .list ((d.applyTo key (.list items)).touched ++ d.appended) := by
      rintro rfl happended
      rw [happended, List.append_nil]
      exact hleft
    rw [keepsRows, hd] at hkeeps
    cases kind with
    | insert =>
      obtain rfl : remainder = .extended action.data := hleaves
      obtain ⟨xs, hxs, hadd⟩ := Value.exists_add_of_extendable (hextends _ rfl)
      have happended : d.appended = xs := by simp [appended, hd, haction, hxs]
      rw [happended]
      exact Except.ok.inj (hleft.symm.trans (hadd _))
    | update => exact hwhole hleaves (by simp [appended, hd])
    | increment => exact hwhole hleaves (by simp [appended, hd])
    | decrement => exact hwhole hleaves (by simp [appended, hd])
    | delete => cases hkeeps
    | updateOrInsert => cases hkeeps

/-- Lists from which a write that keeps every row makes the same table are of one length.

**Proof sketch.** What the write appends is the same for both lists, so it cancels; and of the rows
that stood there a write leaves as many as there were. -/
theorem length_eq_of_left_eq {d : Descriptor} (hkeeps : d.keepsRows = true) {key : Value}
    {items items' : List Value} {left : Value} {result result' : WriteResult}
    (h : (d.applyTo key (.list items)).result (.list items) = .ok (left, result))
    (h' : (d.applyTo key (.list items')).result (.list items') = .ok (left, result')) :
    items.length = items'.length := by
  have hsame := (left_eq_of_keepsRows hkeeps h).symm.trans (left_eq_of_keepsRows hkeeps h')
  have htouched := List.append_cancel_right (Value.list.inj hsame)
  rw [← d.length_touched_applyTo key items, ← d.length_touched_applyTo key items', htouched]

end Descriptor

end FluentSql
