import FluentSql.Proofs.Rows.Changing

set_option autoImplicit false

/-!
# Writes that break off

A write that changes rows where they stand may fail at one of them when those before it have been
changed. Which writes may do so is known: a step, if what stands under its column in a row cannot be
added to; and an update, or an update-or-insert, whose values are neither a mapping nor a sequence
of pairs. Any other write that fails leaves the rows alone.

## Main definitions

* `FluentSql.Row.updated`, `FluentSql.Row.stepped` — what becomes of a row, and whether that fails.
* `FluentSql.Row.BreaksOff` — rows of which those before one at which a change fails were changed.
* `FluentSql.Descriptor.Breaks`, `FluentSql.Descriptor.FailsLeaving` — the writes that may break
  off, and what a write that fails may leave.

## Main results

* `FluentSql.breaksOff_changeMarked` — changing rows one after the other, with a failure.
* `FluentSql.Descriptor.left_of_error` — what a write that fails leaves of the rows.
* `FluentSql.Descriptor.told_applyTo` — rows that are mappings are told nothing.
-/

namespace FluentSql

namespace Row

/-- What becomes of a row into which values are put; pairs are put into it up to the first thing
that is none. -/
def updated (values : Value) (row : Row) : Row × Option Error :=
  match values with
  | .map entries => (Fields.merge row entries, none)
  | v =>
    match v.items with
    | .error e => (row, some e)
    | .ok pairs => Fields.mergePairs row pairs

/-- What becomes of a row with an amount added under a column: if that fails, it stays. -/
def stepped (column amount : Value) (row : Row) : Row × Option Error :=
  match increased column amount row with
  | .ok row' => (row', none)
  | .error e => (row, some e)

/-- Rows of which those that match were changed one after the other, until that failed at one of
them: those before it are as the change makes them, it is as the failed change leaves it, and those
after it are as they were. -/
def BreaksOff (test : Row → Bool) (change : Row → Row × Option Error) (rows left : List Row)
    (e : Error) : Prop :=
  ∃ before row after changed row', rows = before ++ row :: after ∧ test row = true ∧
    change row = (row', some e) ∧
    List.Forall₂ (IfMatches test fun r r' => change r = (r', none)) before changed ∧
    left = changed ++ row' :: after

/-- A row that is changed first goes before the others. -/
theorem BreaksOff.cons {test : Row → Bool} {change : Row → Row × Option Error} {row row' : Row}
    {rows left : List Row} {e : Error}
    (hrow : IfMatches test (fun r r' => change r = (r', none)) row row')
    (h : BreaksOff test change rows left e) :
    BreaksOff test change (row :: rows) (row' :: left) e := by
  obtain ⟨before, broken, after, changed, broken', rfl, htest, hchange, hbefore, rfl⟩ := h
  exact ⟨row :: before, broken, after, row' :: changed, broken', rfl, htest, hchange,
    .cons hrow hbefore, rfl⟩

end Row

/-! ## Changing rows one after the other -/

/-- Values are put into a row that is a mapping. -/
theorem updateRow_row (values : Value) (row : Row) :
    updateRow values (.map row) = (.map (row.updated values).1, (row.updated values).2) := by
  cases values with
  | map entries => rfl
  | _ =>
    simp only [updateRow, Row.updated]
    split <;> simp only [*]

/-- An amount is added to a row that is a mapping. -/
theorem incrementRow_row (column amount : Value) (row : Row) :
    incrementRow column amount (.map row) =
      (.map (row.stepped column amount).1, (row.stepped column amount).2) := by
  rw [incrementRow_map, Row.stepped]
  cases Row.increased column amount row <;> rfl

/-- Rows that are changed one after the other, where that fails, have broken off: the rows before
one of them are changed as they should be, that one is as its own change left it, and those after it
are as they were.

**Proof sketch.** By induction on the rows. A row that is not marked, or whose change succeeds, goes
before the rows where it broke off; the first change that fails is where that is. -/
theorem breaksOff_changeMarked {test : Row → Bool} {change : Row → Row × Option Error}
    {act : Value → Value × Option Error}
    (hact : ∀ row, act (.map row) = (.map (change row).1, (change row).2)) {rows : List Row}
    {touched : List Value} {e : Error}
    (h : changeMarked act ((rows.map test).zip (rows.map .map)) = (touched, some e)) :
    ∃ left, touched = left.map .map ∧ Row.BreaksOff test change rows left e := by
  induction rows generalizing touched with
  | nil => cases h
  | cons row rows ih =>
    simp only [List.map_cons, List.zip_cons_cons] at h
    rcases hrest : changeMarked act ((rows.map test).zip (rows.map .map)) with ⟨others, failure⟩
    cases htest : test row with
    | false =>
      simp only [htest, changeMarked, hrest, Prod.mk.injEq] at h
      obtain ⟨rfl, rfl⟩ := h
      obtain ⟨left, rfl, hbroken⟩ := ih hrest
      exact ⟨row :: left, rfl, hbroken.cons (by simp [Row.IfMatches, htest])⟩
    | true =>
      rcases hchange : change row with ⟨row', _ | e'⟩
      · simp only [htest, changeMarked, hact, hchange, hrest, Prod.mk.injEq] at h
        obtain ⟨rfl, rfl⟩ := h
        obtain ⟨left, rfl, hbroken⟩ := ih hrest
        exact ⟨row' :: left, rfl, hbroken.cons (by simp [Row.IfMatches, htest, hchange])⟩
      · simp only [htest, changeMarked, hact, hchange, Prod.mk.injEq, Option.some.injEq] at h
        obtain ⟨rfl, rfl⟩ := h
        refine ⟨row' :: rows, by simp [List.map_snd_zip], ?_⟩
        exact ⟨[], row, rows, [], row', rfl, htest, hchange, .nil, rfl⟩

/-- Rows that are mappings, and stay so when they are changed, are told nothing. -/
theorem reachedAt_of_maps {act : Value → Value × Option Error}
    (hact : ∀ row, ∃ row' failure, act (.map row) = (.map row', failure))
    {marked : List (Bool × Nat)} {placed : Placed}
    (hmaps : ∀ p ∈ marked, ∃ row, placed.row p.2 = .map row) :
    reachedAt act marked placed = [] := by
  induction marked generalizing placed with
  | nil => rfl
  | cons first rest ih =>
    obtain ⟨mark, n⟩ := first
    obtain ⟨⟨row, hrow⟩, hrest⟩ := List.forall_mem_cons.mp hmaps
    cases mark with
    | false => exact ih hrest
    | true =>
      obtain ⟨row', failure, hchange⟩ := hact row
      have hput : ∀ p ∈ rest, ∃ r, (placed.put n (.map row')).row p.2 = .map r := by
        intro p hp
        by_cases hn : p.2 = n
        · exact ⟨row', by rw [hn, Placed.row_put_self]⟩
        · rw [Placed.row_put_of_ne hn]
          exact hrest p hp
      simp only [reachedAt, hrow, hchange]
      cases failure with
      | none => exact ih hput
      | some e => rfl

/-- What stands at a place of a list of rows is a mapping. -/
theorem Placed.exists_row_apart {rows : List Row} {n : Nat}
    (h : n ∈ (apart (rows.map .map)).places) : ∃ row, (apart (rows.map .map)).row n = .map row := by
  have hlength : n < rows.length := by
    simpa [apart] using h
  exact ⟨rows[n], by simp [apart, hlength]⟩

/-- No row that is a mapping is told anything. -/
theorem told_attemptChange (marks : List Bool) {act : Value → Value × Option Error}
    (hact : ∀ row, ∃ row' failure, act (.map row) = (.map row', failure)) (rows : List Row) :
    (attemptChange marks act (.apart (rows.map .map))).told = [] :=
  reachedAt_of_maps hact fun _ hp => Placed.exists_row_apart (List.of_mem_zip hp).2

/-! ## The writes that may break off -/

/-- Only a mapping has entries. -/
theorem Value.eq_map_of_fields_eq_ok {operation : String} {v : Value} {fs : Fields}
    (h : v.fields operation = .ok fs) : v = .map fs := by
  cases v with
  | map entries =>
    cases h
    rfl
  | _ => cases h

namespace Descriptor

/-- The queued write changes the rows that pass a test where they stand, and the change may fail:
it is a step, or it puts values in that are neither a mapping nor a sequence of pairs. -/
inductive Breaks (d : Descriptor) : (Row → Bool) → (Row → Row × Option Error) → Prop
  | step {decrement : Bool} {data column amount : Value}
    (hpending : d.pending = some ⟨(WriteKind.step decrement).keyword, data⟩)
    (hparts : incrementOf decrement data = .ok (column, amount)) :
    Breaks d d.keeps (Row.stepped column amount)
  | update {values : Value} (hpending : d.pending = some ⟨WriteKind.update.keyword, values⟩)
    (hodd : ∀ given, values.updates ≠ .ok given) : Breaks d d.keeps (Row.updated values)
  | updateOrInsert {data values : Value} {attributes : Fields}
    (hpending : d.pending = some ⟨WriteKind.updateOrInsert.keyword, data⟩)
    (hattributes : data.subscript "attributes" = .ok (.map attributes))
    (hvalues : data.subscript "values" = .ok values)
    (hodd : ∀ given, values.updates ≠ .ok given) :
    Breaks d (Row.hasAll attributes) (Row.updated values)

/-- What a write may leave of rows when it fails: the rows, or what they are where it has broken
off. -/
def FailsLeaving (d : Descriptor) (rows left : List Row) (e : Error) : Prop :=
  left = rows ∨ ∃ test change, d.Breaks test change ∧ Row.BreaksOff test change rows left e

/-- An attempt that has failed has made of rows what it may leave of them. -/
def Left (d : Descriptor) (rows : List Row) (a : Attempt) (e : Error) : Prop :=
  ∃ left, a.touched = left.map .map ∧ d.FailsLeaving rows left e

variable {d : Descriptor} {key data : Value} {rows : List Row} {e : Error}

/-- An attempt that does not touch the rows has left them. -/
theorem left_untouched (d : Descriptor) (rows : List Row) (outcome : Except Error Written)
    (e : Error) : d.Left rows (.untouched (rows.map .map) outcome) e :=
  ⟨rows, rfl, .inl rfl⟩

/-- A change of rows that fails has broken off. -/
theorem left_attemptApart {test : Row → Bool} {change : Row → Row × Option Error}
    {act : Value → Value × Option Error}
    (hact : ∀ row, act (.map row) = (.map (change row).1, (change row).2))
    (hbreaks : d.Breaks test change)
    (h : (attemptApart (rows.map test) act (rows.map .map)).outcome = .error e) :
    d.Left rows (attemptApart (rows.map test) act (rows.map .map)) e := by
  rcases hmarked : changeMarked act ((rows.map test).zip (rows.map .map)) with ⟨touched, _ | e'⟩
  · rw [attemptApart, hmarked] at h
    cases h
  · rw [attemptApart, hmarked] at h ⊢
    cases h
    obtain ⟨left, rfl, hbroken⟩ := breaksOff_changeMarked hact hmarked
    exact ⟨left, rfl, .inr ⟨test, change, hbreaks, hbroken⟩⟩

/-- Putting values into rows fails only if they are neither a mapping nor a sequence of pairs. -/
theorem left_attemptUpdate {test : Row → Bool} {values : Value}
    (hbreaks : (∀ given, values.updates ≠ .ok given) → d.Breaks test (Row.updated values))
    (h : (attemptApart (rows.map test) (updateRow values) (rows.map .map)).outcome = .error e) :
    d.Left rows (attemptApart (rows.map test) (updateRow values) (rows.map .map)) e := by
  refine left_attemptApart (updateRow_row values) (hbreaks fun given hgiven => ?_) h
  rw [attemptApart, changeMarked_updateRow hgiven test rows] at h
  cases h

/-- What an update-or-insert that fails leaves. -/
theorem left_updateOrInsert
    (hpending : d.pending = some ⟨WriteKind.updateOrInsert.keyword, data⟩)
    (h : (d.applyTo key (rowsValue rows)).outcome = .error e) :
    d.Left rows (d.applyTo key (rowsValue rows)) e := by
  by_cases hparts : ∃ attributes values, data.subscript "attributes" = .ok (.map attributes) ∧
      data.subscript "values" = .ok values
  · obtain ⟨attributes, values, hattributes, hvalues⟩ := hparts
    rw [applyTo_updateOrInsert hpending hattributes hvalues] at h ⊢
    split at h
    · next hsome =>
      rw [if_pos hsome]
      exact left_attemptUpdate (.updateOrInsert hpending hattributes hvalues) h
    · next hnone =>
      rw [if_neg hnone]
      exact left_untouched d rows _ e
  · -- Only attributes that are a mapping are looked for, so there is no row that has them.
    rw [applyTo_keyword hpending, applyKind, applyUpdateOrInsert, Placed.items_apart]
    split
    · exact left_untouched d rows _ e
    · next attributes values marks hfound =>
      simp only [bind_eq_ok, pure_eq_ok, Except.ok.injEq, Prod.mk.injEq] at hfound
      obtain ⟨_, hattributes, _, hvalues, items, hitems, _, hmarks, rfl, rfl, rfl⟩ := hfound
      cases hitems
      have hnone : rows = [] := by
        cases rows with
        | nil => rfl
        | cons row rows =>
          rw [List.map_cons, List.mapM_cons] at hmarks
          obtain ⟨_, hmark, -⟩ := bind_eq_ok.mp hmarks
          obtain ⟨fs, hfs, -⟩ := bind_eq_ok.mp hmark
          obtain rfl := Value.eq_map_of_fields_eq_ok hfs
          exact absurd ⟨fs, _, hattributes, hvalues⟩ hparts
      subst hnone
      cases hmarks
      exact left_untouched d [] _ e

/-- No row that is a mapping is told anything by a write. -/
theorem told_applyTo (d : Descriptor) (key : Value) (rows : List Row) :
    (d.applyTo key (rowsValue rows)).told = [] := by
  have hitems : ((rowsValue rows).items.toOption).getD [] = rows.map .map := rfl
  have hupdated : ∀ values row,
      ∃ row' failure, updateRow values (.map row) = (.map row', failure) :=
    fun values row => ⟨_, _, updateRow_row values row⟩
  have hstepped : ∀ column amount row, ∃ row' failure,
      incrementRow column amount (.map row) = (.map row', failure) :=
    fun column amount row => ⟨_, _, incrementRow_row column amount row⟩
  rw [applyTo, applyOn, hitems]
  split
  · rfl
  · split
    · next kind _ =>
      cases kind with
      | insert | delete => rfl
      | update =>
        rw [applyKind, applyUpdate]
        split
        · rfl
        · exact told_attemptChange _ (hupdated _) rows
      | increment | decrement =>
        rw [applyKind, applyIncrement]
        split
        · rfl
        · exact told_attemptChange _ (hstepped _ _) rows
      | updateOrInsert =>
        rw [applyKind, applyUpdateOrInsert]
        split
        · rfl
        · split
          · exact told_attemptChange _ (hupdated _) rows
          · rfl
    · rfl

/-- A write that fails leaves the rows alone, unless it is one that may break off and has.

**Proof sketch.** By the kind of the write. Inserting and deleting touch no row that stands there,
so only the updates and the steps may break off; what they do to a row they do to one after the
other, as `breaksOff_changeMarked` has it. -/
theorem left_of_error (h : (d.applyTo key (rowsValue rows)).outcome = .error e) :
    d.Left rows (d.applyTo key (rowsValue rows)) e := by
  cases hpending : d.pending with
  | none =>
    rw [applyTo, applyOn, hpending] at h
    cases h
  | some action =>
    obtain ⟨word, data⟩ := action
    cases hkind : WriteKind.ofKeyword? word with
    | none =>
      rw [applyTo, applyOn, hpending]
      dsimp only
      rw [hkind]
      exact ⟨rows, Placed.items_apart _, .inl rfl⟩
    | some kind =>
      obtain rfl := WriteKind.eq_keyword_of_ofKeyword? hkind
      have hstep : ∀ decrement, kind = WriteKind.step decrement →
          d.Left rows (d.applyTo key (rowsValue rows)) e := by
        rintro decrement rfl
        rw [applyTo_step hpending] at h ⊢
        cases hparts : incrementOf decrement data with
        | error e' => exact left_untouched d rows _ e
        | ok parts =>
          rw [hparts] at h
          exact left_attemptApart (incrementRow_row _ _) (.step hpending hparts) h
      cases kind with
      | insert =>
        rw [applyTo_keyword hpending, applyKind, Placed.items_apart]
        exact left_untouched d rows _ e
      | update =>
        rw [applyTo_update hpending] at h ⊢
        exact left_attemptUpdate (.update hpending) h
      | delete =>
        rw [applyTo_keyword hpending, applyKind, applyDelete, Placed.items_apart]
        exact left_untouched d rows _ e
      | increment => exact hstep false rfl
      | decrement => exact hstep true rfl
      | updateOrInsert => exact left_updateOrInsert hpending h

end Descriptor

end FluentSql
