import FluentSql.Rows.Write

set_option autoImplicit false

/-!
# Rows that stand at one place each

A write changes rows, and a row that stands at two places is changed for both. In a table as it is
read from text, or copied out of a log, no row stands twice. There a change of rows at their places
is a change of the items of a list where they stand, and nothing has to be said of numbers.

## Main definitions

* `FluentSql.changeMarked`, `FluentSql.reachedBuilders` — changing the marked items of a list.
* `FluentSql.attemptApart` — the attempt to do so.

## Main results

* `FluentSql.row_changePlaces` — a change of other places leaves a row.
* `FluentSql.changePlaces_range'` — places with a row of their own are items of a list.
* `FluentSql.attemptChange_apart` — an attempt on rows of which none stands at two places.
-/

namespace FluentSql

/-! ## Changes of a list -/

/-- Changes the items that are marked, one after the other, and stops at the first failure. -/
def changeMarked (change : Value → Value × Option Error) :
    List (Bool × Value) → List Value × Option Error
  | [] => ([], none)
  | (false, row) :: rest =>
    let (rows, failure) := changeMarked change rest
    (row :: rows, failure)
  | (true, row) :: rest =>
    match change row with
    | (row', some e) => (row' :: rest.map (·.2), some e)
    | (row', none) =>
      let (rows, failure) := changeMarked change rest
      (row' :: rows, failure)

/-- The builders among the marked items that a change reaches before it fails. -/
def reachedBuilders (change : Value → Value × Option Error) : List (Bool × Value) → List Nat
  | [] => []
  | (false, _) :: rest => reachedBuilders change rest
  | (true, row) :: rest =>
    match change row, row with
    | (_, some _), _ => []
    | (_, none), .builder id _ => id :: reachedBuilders change rest
    | (_, none), _ => reachedBuilders change rest

/-- Changes the marked items of a list where they stand. -/
def attemptApart (marks : List Bool) (change : Value → Value × Option Error)
    (items : List Value) : Attempt :=
  let (touched, failure) := changeMarked change (marks.zip items)
  { touched
    told := reachedBuilders change (marks.zip items)
    outcome := changeOutcome marks failure }

/-! ## Places -/

namespace Placed

@[simp] theorem row_put_self (rows : Placed) (n : Nat) (v : Value) : (rows.put n v).row n = v :=
  if_pos rfl

theorem row_put_of_ne {m n : Nat} (h : m ≠ n) (rows : Placed) (v : Value) :
    (rows.put n v).row m = rows.row m :=
  if_neg h

@[simp] theorem places_put (rows : Placed) (n : Nat) (v : Value) :
    (rows.put n v).places = rows.places := rfl

/-- Putting a row elsewhere leaves what stands at some places. -/
theorem map_row_put_of_notMem {n : Nat} {places : List Nat} (h : n ∉ places) (rows : Placed)
    (v : Value) : places.map (rows.put n v).row = places.map rows.row :=
  List.map_congr_left fun _ hm => row_put_of_ne (ne_of_mem_of_not_mem hm h) rows v

/-- Rows of which none stands at two places are the items of a list. -/
@[simp] theorem items_apart (items : List Value) : (apart items).items = items := by
  refine List.ext_getElem (by simp [Placed.items, apart]) fun i _ hi => ?_
  simp [Placed.items, apart, hi]

@[simp] theorem length_places_apart (items : List Value) :
    (apart items).places.length = items.length :=
  List.length_range

end Placed

variable {change : Value → Value × Option Error}

@[simp] theorem places_changePlaces (change : Value → Value × Option Error) :
    ∀ (marked : List (Bool × Nat)) (rows : Placed),
      (changePlaces change marked rows).1.places = rows.places
  | [], _ => rfl
  | (false, _) :: rest, rows => places_changePlaces change rest rows
  | (true, n) :: rest, rows => by
    rw [changePlaces]
    split
    · rfl
    · next v _ => exact places_changePlaces change rest (rows.put n v)

/-- A change that succeeds at the first of the places goes on with the others. -/
theorem changePlaces_of_none {rows : Placed} {n : Nat} {v : Value}
    (h : change (rows.row n) = (v, none)) (rest : List (Bool × Nat)) :
    changePlaces change ((true, n) :: rest) rows = changePlaces change rest (rows.put n v) := by
  rw [changePlaces, h]

/-- A change that fails at the first of the places leaves the others alone. -/
theorem changePlaces_of_some {rows : Placed} {n : Nat} {v : Value} {e : Error}
    (h : change (rows.row n) = (v, some e)) (rest : List (Bool × Nat)) :
    changePlaces change ((true, n) :: rest) rows = (rows.put n v, some e) := by
  rw [changePlaces, h]

/-- What is changed at some places leaves a row that stands at none of them. -/
theorem row_changePlaces {m : Nat} {marked : List (Bool × Nat)} (h : m ∉ marked.map (·.2))
    (rows : Placed) : (changePlaces change marked rows).1.row m = rows.row m := by
  induction marked generalizing rows with
  | nil => rfl
  | cons first rest ih =>
    obtain ⟨mark, n⟩ := first
    rw [List.map_cons, List.mem_cons, not_or] at h
    obtain ⟨hn, hrest⟩ := h
    cases mark with
    | false => exact ih hrest rows
    | true =>
      rw [changePlaces]
      split
      · exact Placed.row_put_of_ne hn rows _
      · exact (ih hrest _).trans (Placed.row_put_of_ne hn rows _)

/-- Where consecutive places have a row of their own, changing these is changing the items of a
list.

**Proof sketch.** By induction over the marks. The row of the first place stands at no other, so
what is changed later leaves it, and putting the changed row there leaves the later ones. -/
theorem changePlaces_range' (change : Value → Value × Option Error) (marks : List Bool) :
    ∀ (k : Nat) (items : List Value) (rows : Placed), marks.length = items.length →
      (List.range' k items.length).map rows.row = items →
        let marked := marks.zip (List.range' k items.length)
        (List.range' k items.length).map (changePlaces change marked rows).1.row =
            (changeMarked change (marks.zip items)).1 ∧
          (changePlaces change marked rows).2 = (changeMarked change (marks.zip items)).2 ∧
          reachedAt change marked rows = reachedBuilders change (marks.zip items) := by
  induction marks with
  | nil =>
    intro k items rows hlength _
    obtain rfl := List.length_eq_zero_iff.mp hlength.symm
    exact ⟨rfl, rfl, rfl⟩
  | cons mark marks ih =>
    intro k items rows hlength hitems
    cases items with
    | nil => cases hlength
    | cons item items =>
      rw [List.length_cons, List.range'_succ, List.map_cons, List.cons.injEq] at hitems
      obtain ⟨hitem, hrest⟩ := hitems
      have hlengths : marks.length = items.length := Nat.succ.inj hlength
      have hnew : k ∉ List.range' (k + 1) items.length := fun h =>
        absurd (List.mem_range'_1.mp h).1 (Nat.not_succ_le_self k)
      have hmarked : k ∉ (marks.zip (List.range' (k + 1) items.length)).map (·.2) := by
        rw [List.map_snd_zip (by simp [hlengths])]
        exact hnew
      dsimp only
      rw [List.length_cons, List.range'_succ, List.zip_cons_cons, List.zip_cons_cons]
      cases mark with
      | false =>
        obtain ⟨hrows, hfailure, htold⟩ := ih (k + 1) items rows hlengths hrest
        refine ⟨?_, hfailure, htold⟩
        rw [List.map_cons, changePlaces, row_changePlaces hmarked, hitem, changeMarked, hrows]
      | true =>
        rcases hchange : change item with ⟨item', _ | e⟩
        · have hput : (List.range' (k + 1) items.length).map (rows.put k item').row = items := by
            rw [Placed.map_row_put_of_notMem hnew, hrest]
          obtain ⟨hrows, hfailure, htold⟩ := ih (k + 1) items (rows.put k item') hlengths hput
          rw [changePlaces_of_none (by rw [hitem, hchange])]
          refine ⟨?_, ?_, ?_⟩
          · rw [List.map_cons, row_changePlaces hmarked, Placed.row_put_self, hrows,
              changeMarked, hchange]
          · rw [hfailure, changeMarked, hchange]
          · rw [reachedAt.eq_def, reachedBuilders.eq_def]
            simp only [hitem, hchange]
            cases item <;> simp only [htold]
        · rw [changePlaces_of_some (by rw [hitem, hchange])]
          refine ⟨?_, ?_, ?_⟩
          · rw [List.map_cons, Placed.row_put_self, Placed.map_row_put_of_notMem hnew,
              hrest, changeMarked, hchange, List.map_snd_zip (Nat.le_of_eq hlengths.symm)]
          · rw [changeMarked, hchange]
          · rw [reachedAt.eq_def, reachedBuilders.eq_def]
            simp only [hitem, hchange]

/-- Changing rows of which none stands at two places is changing the items of a list, one after the
other.

**Proof sketch.** The places of such rows are those from `0` on, each once. So what is put at one of
them is seen at no other, and `changePlaces_range'` reads the walk over the places as one over the
items. -/
theorem attemptChange_apart {marks : List Bool} {items : List Value}
    (h : marks.length = items.length) (change : Value → Value × Option Error) :
    attemptChange marks change (.apart items) = attemptApart marks change items := by
  have hitems : (List.range' 0 items.length).map (Placed.apart items).row = items := by
    rw [← List.range_eq_range']
    exact Placed.items_apart items
  obtain ⟨hrows, hfailure, htold⟩ :=
    changePlaces_range' change marks 0 items (.apart items) h hitems
  rw [← List.range_eq_range'] at hrows hfailure htold
  have htouched : (changePlaces change (marks.zip (List.range items.length))
      (.apart items)).1.items = (changeMarked change (marks.zip items)).1 := by
    rw [Placed.items, places_changePlaces]
    exact hrows
  rw [attemptChange, attemptApart]
  dsimp only [Placed.apart] at htouched hfailure htold ⊢
  rw [htouched, hfailure, htold]

end FluentSql
