import FluentSql.Proofs.Failure
import FluentSql.Rows.Write

set_option autoImplicit false

/-!
# How operations on values and rows fail

Taking values apart, adding them, and reading and writing tables in memory fail with nothing but
faults: errors that say of a value that it does not admit the operation.

## Main results

* `FluentSql.Value.onlyFaults_items`, `FluentSql.Value.onlyFaults_subscript` and their kin — taking
  values apart.
* `FluentSql.Descriptor.onlyFaults_selectRows` — reading a table.
* `FluentSql.Descriptor.onlyFaults_applyKind` — writing one.
* `FluentSql.Descriptor.noConfigurationError_applyTo` — carrying out a queued write.
-/

namespace FluentSql

/-! ## Mappings -/

namespace Fields

theorem onlyFaults_cell (fs : Fields) (key : Value) : OnlyFaults (fs.cell key) := by
  rw [cell]
  split <;> simp [Error.isFault]

theorem onlyFaults_entry (fs : Fields) (key : Value) : OnlyFaults (fs.entry key) := by
  rw [entry]
  split
  · cases fs.get? key <;> simp [Error.isFault]
  · simp [Error.isFault]

theorem onlyFaults_put (fs : Fields) (key v : Value) : OnlyFaults (fs.put key v) := by
  rw [put]
  split <;> simp [Error.isFault]

end Fields

namespace Value

/-! ## Taking values apart -/

theorem onlyFaults_items (v : Value) : OnlyFaults v.items := by
  cases v with
  | view source seen =>
    rw [items]
    exact onlyFaults_items seen
  | _ => simp [items, Error.isFault]

theorem onlyFaults_length (v : Value) : OnlyFaults v.length := by
  rw [length]
  split
  · simp [Error.isFault]
  · simp [Error.isFault]
  · exact (onlyFaults_items _).bind fun _ => onlyErrors_pure _

theorem isFault_lacking (v : Value) (operation : String) :
    (v.lacking operation).isFault = true := by
  cases v <;> simp only [lacking] <;> first | rfl | (split <;> rfl)

theorem onlyFaults_fields (operation : String) (v : Value) : OnlyFaults (v.fields operation) := by
  cases v <;> simp only [fields, onlyErrors_ok, onlyErrors_error, isFault_lacking]

theorem onlyFaults_getOr (v key default : Value) : OnlyFaults (v.getOr key default) :=
  (onlyFaults_fields "get" v).bind fun _ => onlyErrors_pure _

theorem onlyFaults_cell (v key : Value) : OnlyFaults (v.cell key) :=
  (onlyFaults_fields "get" v).bind fun fs => fs.onlyFaults_cell key

theorem onlyFaults_pair (v : Value) : OnlyFaults v.pair := by
  refine (onlyFaults_items v).bind fun xs => ?_
  split <;> simp [Error.isFault]

theorem onlyFaults_pairEntry (v : Value) : OnlyFaults v.entry := by
  refine (onlyFaults_pair v).bind fun p => ?_
  split
  split <;> simp [Error.isFault]

theorem onlyFaults_toFields (v : Value) : OnlyFaults v.toFields := by
  rw [toFields.eq_def]
  split
  · exact onlyErrors_ok _
  · exact (onlyFaults_items _).bind fun xs =>
      (OnlyErrors.mapM onlyFaults_pairEntry xs).bind fun pairs => onlyErrors_pure _

theorem onlyFaults_itemAt (xs : List Value) (i : Int) : OnlyFaults (itemAt xs i) := by
  rw [itemAt]
  split <;> simp [Error.isFault]

theorem onlyFaults_subscript (v key : Value) : OnlyFaults (v.subscript key) := by
  rw [subscript]
  split
  · exact Fields.onlyFaults_entry _ key
  -- What has items has one at every position that there is.
  all_goals
    first
    | (split
       · exact (onlyFaults_items _).bind fun xs => onlyFaults_itemAt xs _
       · simp [Error.isFault])
    | simp [Error.isFault]

/-! ## Arithmetic -/

theorem onlyFaults_number (v : Value) : OnlyFaults v.number := by
  rw [number]
  split <;> simp [Error.isFault]

theorem onlyFaults_toFloat (n : Number) : OnlyFaults n.toFloat := by
  cases n with
  | int n =>
    unfold Number.toFloat
    dsimp only
    generalize floatOfInt? n = x
    cases x <;> simp [Error.isFault]
  | float x => exact onlyErrors_ok x

theorem onlyFaults_combine (ints : Int → Int → Int) (floats : Float → Float → Float)
    (m n : Number) : OnlyFaults (Number.combine ints floats m n) := by
  have hfloats : OnlyFaults (do
      let x ← m.toFloat
      let y ← n.toFloat
      return Number.float (floats x y)) :=
    (onlyFaults_toFloat m).bind fun x => (onlyFaults_toFloat n).bind fun y => onlyErrors_pure _
  cases m with
  | int a =>
    cases n with
    | int b => exact onlyErrors_ok _
    | float y => exact hfloats
  | float x => exact hfloats

theorem onlyFaults_add (v w : Value) : OnlyFaults (v.add w) := by
  rw [add]
  split
  all_goals try exact onlyErrors_ok _
  exact (onlyFaults_number _).bind fun m => (onlyFaults_number _).bind fun n =>
    (onlyFaults_combine _ _ m n).bind fun sum => onlyErrors_pure _

theorem onlyFaults_negate (v : Value) : OnlyFaults v.negate :=
  (onlyFaults_number v).bind fun _ => onlyErrors_pure _

end Value

/-! ## Reading tables -/

theorem onlyFaults_index (v : Value) : OnlyFaults v.index := by
  rw [Value.index]
  split <;> simp [Error.isFault]

theorem onlyFaults_slice (v start stop : Value) : OnlyFaults (v.slice start stop) := by
  have hcut : ∀ {α : Type} (xs : List α), OnlyFaults (do
      return FluentSql.slice xs (← start.index) (← stop.index)) := fun xs =>
    (onlyFaults_index start).bind fun _ => (onlyFaults_index stop).bind fun _ => onlyErrors_pure _
  rw [Value.slice]
  dsimp only
  split
  all_goals first
    | exact (hcut _).bind fun _ => onlyErrors_pure _
    | simp [Error.isFault]

namespace Descriptor

theorem onlyFaults_admits (d : Descriptor) (item : Value) : OnlyFaults (d.admits item) := by
  cases item <;> simp only [admits, onlyErrors_ok] <;> split <;>
    simp [Value.isFault_lacking]

theorem onlyFaults_matching (d : Descriptor) (table : Value) : OnlyFaults (d.matching table) :=
  table.onlyFaults_items.bind (OnlyErrors.mapM d.onlyFaults_admits)

theorem onlyFaults_filterTable (d : Descriptor) (table : Value) :
    OnlyFaults (d.filterTable table) :=
  table.onlyFaults_items.bind (OnlyErrors.filterM d.onlyFaults_admits)

theorem onlyFaults_page (d : Descriptor) (table : Value) : OnlyFaults (d.page table) := by
  have hcut : ∀ stop, OnlyFaults (table.slice (d.offset.orElse (.int 0)) stop) :=
    fun stop => onlyFaults_slice table _ stop
  rw [page]
  dsimp only
  split
  · exact table.onlyFaults_length.bind fun n => hcut _
  · exact (Value.onlyFaults_add _ _).bind hcut

/-- Reading a table fails with nothing but faults. -/
theorem onlyFaults_selectRows (d : Descriptor) (table : Value) :
    OnlyFaults (d.selectRows table) :=
  (d.onlyFaults_filterTable table).bind fun rows =>
    (d.onlyFaults_page (.list rows)).bind fun page => page.onlyFaults_items

end Descriptor

/-! ## Writing tables -/

/-- A change of rows fails with nothing but faults. -/
def OnlyFaultyRows (change : Value → Value × Option Error) : Prop :=
  ∀ row e, (change row).2 = some e → e.isFault = true

theorem isFault_mergePairs : ∀ (pairs : List Value) (row : Fields) (e : Error),
    (Fields.mergePairs row pairs).2 = some e → e.isFault = true
  | [], row, e, h => by simp [Fields.mergePairs] at h
  | pair :: pairs, row, e, h => by
    rw [Fields.mergePairs] at h
    split at h
    · exact isFault_mergePairs pairs _ e h
    · next failure hfailure =>
      cases h
      exact pair.onlyFaults_pairEntry _ hfailure

theorem onlyFaultyRows_updateRow (data : Value) : OnlyFaultyRows (updateRow data) := by
  intro row e h
  rw [updateRow.eq_def] at h
  split at h
  · split at h
    · next failure hfailure =>
      cases h
      exact data.onlyFaults_toFields _ hfailure
    · cases h
  · split at h
    · cases h
    · split at h
      · next failure hfailure =>
        cases h
        exact Value.onlyFaults_items _ _ hfailure
      · exact isFault_mergePairs _ _ e h
  · cases h
    exact Value.isFault_lacking _ _

theorem onlyFaultyRows_incrementRow (column amount : Value) :
    OnlyFaultyRows (incrementRow column amount) := by
  intro row e h
  have hchanged : OnlyFaults (do
      let fs ← row.fields "get"
      let sum ← ((← fs.cell column).orElse (.int 0)).add amount
      return Value.map (← fs.put column sum)) :=
    (row.onlyFaults_fields "get").bind fun fs => (fs.onlyFaults_cell column).bind fun v =>
      (Value.onlyFaults_add _ _).bind fun sum => (fs.onlyFaults_put column sum).bind fun _ =>
        onlyErrors_pure _
  rw [incrementRow] at h
  split at h
  · cases h
  · next failure hfailure =>
    cases h
    exact hchanged _ hfailure

theorem isFault_changePlaces {change : Value → Value × Option Error}
    (hchange : OnlyFaultyRows change) :
    ∀ (marked : List (Bool × Nat)) (rows : Placed) (e : Error),
      (changePlaces change marked rows).2 = some e → e.isFault = true
  | [], _, e, h => by simp [changePlaces] at h
  | (false, _) :: rest, rows, e, h => isFault_changePlaces hchange rest rows e h
  | (true, n) :: rest, rows, e, h => by
    rw [changePlaces] at h
    split at h
    · next failure hfailure =>
      cases h
      exact hchange (rows.row n) _ (by rw [hfailure])
    · exact isFault_changePlaces hchange rest _ e h

theorem onlyFaults_attemptChange {change : Value → Value × Option Error}
    (hchange : OnlyFaultyRows change) (marks : List Bool) (rows : Placed) :
    OnlyFaults (attemptChange marks change rows).outcome := by
  have hmarked := isFault_changePlaces hchange (marks.zip rows.places) rows
  rw [attemptChange]
  dsimp only
  cases hfailure : (changePlaces change (marks.zip rows.places) rows).2 with
  | none => exact onlyErrors_ok _
  | some e => exact (onlyErrors_error _).mpr (hmarked e hfailure)

theorem onlyFaults_appendRows (key table added : Value) :
    OnlyFaults (appendRows key table added) := by
  have hend : ∀ lastId : Value, OnlyFaults (do
      if !table.extendable added then throw .wrongType
      return ({
        remainder := .extended added
        result := { changes := .int (← added.length), lastId := lastId.orElse (.int 0) } } :
          Written)) := by
    intro lastId
    dsimp only
    split
    · exact OnlyErrors.bind ((onlyErrors_throw _).mpr rfl) fun _ =>
        added.onlyFaults_length.bind fun _ => onlyErrors_pure _
    · exact added.onlyFaults_length.bind fun _ => onlyErrors_pure _
  rw [appendRows]
  dsimp only
  split
  · exact (added.onlyFaults_subscript _).bind fun row => (row.onlyFaults_cell key).bind hend
  · exact hend _

theorem onlyFaults_keyOf (key item : Value) : OnlyFaults (keyOf key item) := by
  refine (item.onlyFaults_cell key).bind fun k => ?_
  split <;> simp [Error.isFault]

theorem onlyFaults_dropRows (key : Value) (doomed : List Bool) (items : List Value) :
    OnlyFaults (dropRows key doomed items) := by
  have hkeys : OnlyFaults (doomedKeys key (keptBy doomed items)) :=
    (OnlyErrors.mapM (onlyFaults_keyOf key) _).bind fun _ => onlyErrors_pure _
  have hsurvives : ∀ keys (p : Bool × Value), OnlyFaults (survives key keys p.1 p.2) :=
    fun keys p => (onlyFaults_keyOf key p.2).bind fun _ => onlyErrors_pure _
  exact hkeys.bind fun keys => (OnlyErrors.mapM (hsurvives keys) _).bind fun _ => onlyErrors_pure _

theorem onlyFaults_hasAttributes (attributes item : Value) :
    OnlyFaults (hasAttributes attributes item) := by
  refine (attributes.onlyFaults_fields "items").bind fun wanted => ?_
  split
  · exact onlyErrors_pure _
  · exact (item.onlyFaults_fields "get").bind fun _ => onlyErrors_pure _

theorem onlyFaults_mergedFields (attributes values : Value) :
    OnlyFaults (mergedFields attributes values) := by
  rw [mergedFields.eq_def]
  split <;> simp [Error.isFault]

namespace Descriptor

theorem onlyFaults_applyIncrement (d : Descriptor) (decrement : Bool) (data table : Value)
    (rows : Placed) : OnlyFaults (d.applyIncrement decrement data table rows).outcome := by
  have hparts : OnlyFaults (do
      let parts ← incrementOf decrement data
      return (parts.1, parts.2, ← d.matching table)) := by
    refine OnlyErrors.bind ?_ fun parts => (d.onlyFaults_matching table).bind fun _ =>
      onlyErrors_pure _
    refine (data.onlyFaults_subscript _).bind fun column => (data.onlyFaults_getOr _ _).bind
      fun amount => ?_
    cases decrement with
    | true => exact amount.onlyFaults_negate.bind fun _ => onlyErrors_pure _
    | false => exact onlyErrors_pure _
  rw [applyIncrement]
  split
  · next failure hfailure => exact (onlyErrors_error _).mpr (hparts _ hfailure)
  · exact onlyFaults_attemptChange (onlyFaultyRows_incrementRow _ _) _ _

theorem onlyFaults_applyUpdateOrInsert (key data table : Value) (rows : Placed) :
    OnlyFaults (applyUpdateOrInsert key data table rows).outcome := by
  have hparts : OnlyFaults (do
      let attributes ← data.subscript "attributes"
      let values ← data.subscript "values"
      return (attributes, values, ← (← table.items).mapM (hasAttributes attributes))) :=
    (data.onlyFaults_subscript _).bind fun attributes => (data.onlyFaults_subscript _).bind
      fun values => table.onlyFaults_items.bind fun items =>
        (OnlyErrors.mapM (onlyFaults_hasAttributes attributes) items).bind fun _ =>
          onlyErrors_pure _
  rw [applyUpdateOrInsert]
  split
  · next failure hfailure => exact (onlyErrors_error _).mpr (hparts _ hfailure)
  · split
    · exact onlyFaults_attemptChange (onlyFaultyRows_updateRow _) _ _
    · exact (onlyFaults_mergedFields _ _).bind fun row => onlyFaults_appendRows _ _ _

/-- Writing a table fails with nothing but faults, whatever the write is and whatever the table.

**Proof sketch.** By the kind of the write. Each of them reads the table, changes some of its values
and writes them back, and none of these fails with anything but a fault. -/
theorem onlyFaults_applyKind (d : Descriptor) (kind : WriteKind) (key data table : Value)
    (rows : Placed) : OnlyFaults (d.applyKind kind key data table rows).outcome := by
  cases kind with
  | insert => exact onlyFaults_appendRows key table data
  | update =>
    have hmatching := d.onlyFaults_matching table
    rw [applyKind, applyUpdate]
    split
    · next failure hfailure => exact (onlyErrors_error _).mpr (hmatching _ hfailure)
    · exact onlyFaults_attemptChange (onlyFaultyRows_updateRow data) _ _
  | delete => exact (d.onlyFaults_matching table).bind fun doomed => onlyFaults_dropRows _ _ _
  | increment => exact d.onlyFaults_applyIncrement false data table rows
  | decrement => exact d.onlyFaults_applyIncrement true data table rows
  | updateOrInsert => exact onlyFaults_applyUpdateOrInsert key data table rows

end Descriptor

/-- What a write on a table comes to is no error of the configuration. -/
theorem Descriptor.noConfigurationError_applyTo (d : Descriptor) (key table : Value) :
    NoConfigurationError (d.applyTo key table).outcome := by
  rw [Descriptor.applyTo, Descriptor.applyOn]
  split
  · exact onlyErrors_ok _
  · split
    · exact (d.onlyFaults_applyKind _ key _ table _).noConfigurationError
    · exact (onlyErrors_error _).mpr rfl

/-- What is left of a table fails with nothing but errors of a family that has all faults, if the
write does. -/
theorem Attempt.onlyErrors_result {family : Error → Bool}
    (hfaults : ∀ e : Error, e.isFault = true → family e = true) {a : Attempt}
    (h : OnlyErrors family a.outcome) (table : Value) : OnlyErrors family (a.result table) := by
  refine h.bind fun written => ?_
  cases written.remainder with
  | extended added =>
    exact ((Value.onlyFaults_add _ added).mono hfaults).bind fun _ => onlyErrors_pure _
  | _ => exact onlyErrors_pure _

end FluentSql
