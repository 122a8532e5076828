import FluentSql.Proofs.Rows.Lists
import FluentSql.Proofs.Session.Fluent

set_option autoImplicit false

/-!
# Pages

A query can be cut into pages, counted from 1, with a number of rows on each. Both numbers are at
least 1, whatever is asked for; and where no rows at all are asked for, there are 25 on a page. The
pages lie one after the other without gaps, so together they are what the predicate keeps, and after
the last one come empty pages.

## Main definitions

* `FluentSql.pageNumber`, `FluentSql.pageSize` — the number of a page, and of the rows on it.
* `FluentSql.Descriptor.paged` — a query cut down to a page.

## Main results

* `FluentSql.Act.run_chain_paginate` — what the call does with a query.
* `FluentSql.Descriptor.selectRows_paged` — what is selected from a list of rows.
* `FluentSql.flatMap_range_extract` — pages tile a list.
* `FluentSql.Act.paginate_tiles` — the pages of a query tile what its predicate keeps.
-/

namespace FluentSql

/-! ## Numbers -/

/-- The number of a page; where there is no such page, it is the first one. -/
def pageNumber (page : Int) : Nat := max 1 page.toNat

/-- How many rows there are on a page: at least 1, and 25 where 0 are asked for. -/
def pageSize (perPage : Int) : Nat := if perPage = 0 then 25 else max 1 perPage.toNat

theorem one_le_pageNumber (page : Int) : 1 ≤ pageNumber page := Nat.le_max_left 1 _

theorem pageNumber_of_nonpos {page : Int} (h : page ≤ 0) : pageNumber page = 1 := by
  rw [pageNumber, Int.toNat_of_nonpos h]
  rfl

@[simp] theorem pageNumber_natCast_succ (k : Nat) : pageNumber ((k + 1 : Nat) : Int) = k + 1 := by
  rw [pageNumber, Int.toNat_natCast]
  omega

/-- Integers are ordered as the multiples that they name. -/
theorem Scaled.less_ofInt (m n : Int) : (Scaled.ofInt m).less (.ofInt n) = decide (m < n) := by
  have hone : (0 : Int) < Scaled.one := Int.natCast_pos.mpr (by decide +kernel)
  exact decide_eq_decide.mpr (Int.mul_lt_mul_right hone)

/-- The larger of 1 and an integer. -/
theorem Value.atLeastOne_int (n : Int) : (Value.int n).atLeastOne = .ok (.int (max 1 n)) := by
  have hless : (Value.int n).atLeastOne =
      .ok (if (Scaled.ofInt 1).less (.ofInt n) then .int n else .int 1) := rfl
  rw [hless, Scaled.less_ofInt]
  by_cases h : 1 < n
  · rw [if_pos (decide_eq_true h), Int.max_eq_right (Int.le_of_lt h)]
  · rw [if_neg (by simpa using h), Int.max_eq_left (Int.not_lt.mp h)]

/-- An integer counts unless it is 0. -/
theorem Value.int_orElse (n : Int) (w : Value) :
    (Value.int n).orElse w = if n = 0 then w else .int n := by
  rw [orElse, truthy]
  by_cases h : n = 0 <;> simp [h]

theorem atLeastOne_page (page : Int) :
    ((Value.int page).orElse (.int 1)).atLeastOne = .ok (.int (pageNumber page)) := by
  rw [Value.int_orElse, apply_ite Value.atLeastOne, Value.atLeastOne_int, Value.atLeastOne_int,
    pageNumber]
  split <;> congr 2 <;> omega

theorem atLeastOne_perPage (perPage : Int) :
    ((Value.int perPage).orElse (.int 25)).atLeastOne = .ok (.int (pageSize perPage)) := by
  rw [Value.int_orElse, apply_ite Value.atLeastOne, Value.atLeastOne_int, Value.atLeastOne_int,
    pageSize]
  split <;> congr 2
  omega

/-! ## Cutting a query -/

/-- A query cut down to a page. -/
def Descriptor.paged (d : Descriptor) (page perPage : Int) : Descriptor :=
  { d with
    limit := .int (pageSize perPage)
    offset := .int ((pageNumber page - 1) * pageSize perPage) }

/-- Setting a page of integers always passes. -/
theorem Edit.run_setPage (page perPage : Int) (b : Builder) :
    (setPage (.int page) (.int perPage)).run b = (.ok (), b.edit (·.paged page perPage)) := by
  rw [setPage, atLeastOne_page, atLeastOne_perPage]
  rfl

/-! ## Tiles -/

/-- What lies between two positions of a list, the second of them perhaps beyond its end. -/
theorem drop_take_eq_extract {α : Type} (xs : List α) (start stop : Nat) :
    (xs.take stop).drop start = xs.extract start (min stop xs.length) := by
  rw [List.take_eq_take_min, List.drop_take]

/-- The pages of one size, one after the other, make up a list as far as they reach. -/
theorem flatMap_range_extract {α : Type} (xs : List α) (size count : Nat) :
    (List.range count).flatMap
        (fun k => xs.extract (k * size) (min ((k + 1) * size) xs.length)) =
      xs.take (count * size) := by
  induction count with
  | zero => simp
  | succ count ih =>
    have hle : count * size ≤ (count + 1) * size := Nat.mul_le_mul_right size (Nat.le_succ count)
    rw [List.range_succ, List.flatMap_append, ih, List.flatMap_singleton, ← drop_take_eq_extract]
    calc xs.take (count * size) ++ (xs.take ((count + 1) * size)).drop (count * size)
        = (xs.take ((count + 1) * size)).take (count * size) ++
            (xs.take ((count + 1) * size)).drop (count * size) := by
          rw [List.take_take, Nat.min_eq_left hle]
      _ = xs.take ((count + 1) * size) := List.take_append_drop _ _

namespace Descriptor

/-- What a query cut down to a page selects from a list of rows: what lies on this page of the rows
that the predicate keeps.

**Proof sketch.** The bounds of the page are integers in the query and numbers in the list; neither
is negative, since the first page and a size of one are the least that are taken. -/
theorem selectRows_paged (d : Descriptor) (page perPage : Int) (rows : List Row) :
    (d.paged page perPage).selectRows (rowsValue rows) =
      .ok (((rows.filter d.keeps).extract ((pageNumber page - 1) * pageSize perPage)
        (min (pageNumber page * pageSize perPage) (rows.filter d.keeps).length)).map .map) := by
  have hstart : ((pageNumber page : Int) - 1) * pageSize perPage =
      ((pageNumber page - 1) * pageSize perPage : Nat) := by
    rw [Int.natCast_mul, Int.natCast_sub (one_le_pageNumber page), Int.natCast_one]
  have hstop : ((pageNumber page : Int) - 1) * pageSize perPage + pageSize perPage =
      (pageNumber page * pageSize perPage : Nat) := by
    rw [Int.natCast_mul, Int.sub_mul]
    omega
  have hoffset : (d.paged page perPage).offset.orElse (.int 0) =
      .int ((pageNumber page - 1) * pageSize perPage) := by
    rw [paged, Value.int_orElse]
    split
    · next h => rw [h]
    · rfl
  rw [selectRows_of_limit_int hoffset rfl, hstop, hstart, slice_natCast, drop_take_eq_extract]
  rfl

/-- A page that begins beyond what the predicate keeps is empty. -/
theorem selectRows_paged_beyond {d : Descriptor} {page perPage : Int} {rows : List Row}
    (h : (rows.filter d.keeps).length ≤ (pageNumber page - 1) * pageSize perPage) :
    (d.paged page perPage).selectRows (rowsValue rows) = .ok [] := by
  have hlength : ((rows.filter d.keeps).take (pageNumber page * pageSize perPage)).length ≤
      (pageNumber page - 1) * pageSize perPage :=
    Nat.le_trans (List.length_take_le' _ _) h
  rw [selectRows_paged, ← drop_take_eq_extract, List.drop_of_length_le hlength, List.map_nil]

end Descriptor

/-! ## The call -/

namespace Act

variable {reactor : Reactor} {s : Session} {id : Nat} {b : Builder}

/-- The call for a page passes, and leaves the query of the builder cut down to the page. -/
theorem run_chain_paginate (hb : s.builders.get? id = some b) (page perPage : Int) :
    ∃ t c, (chain id .paginate [("page", .int page), ("per_page", .int perPage)]).run reactor s =
        (.ok (), t) ∧
      t.builders.get? id = some c ∧
      c.inquiry = (b.descriptor.paged page perPage, b.options) := by
  obtain ⟨t, hrun, -, -, ⟨c, hc, hinquiry⟩, -⟩ := @run_chain_of_edit reactor s id b hb .paginate
    [("page", .int page), ("per_page", .int perPage)] rfl rfl (by decide) (by decide) rfl _
    fun _ c => Edit.run_setPage page perPage c
  exact ⟨t, c, hrun, hc, hinquiry⟩

/-- The call for a page passes on every builder. From a list of rows, page `k` then selects those
that the predicate keeps from position `(k - 1) * size` on to `k * size`, or to the end; a page
before the first is the first. As many pages as there is room on for what the predicate keeps make
that up, one after the other, and every later page is empty.

**Proof sketch.** What one page selects is `Descriptor.selectRows_paged`. The pages one after the
other are a list as far as they reach, by induction on their number (`flatMap_range_extract`), and a
page that begins after the end has nothing on it. -/
theorem paginate_tiles (hb : s.builders.get? id = some b) (perPage : Int) :
    (∀ page : Int, ∃ t c,
      (chain id .paginate [("page", .int page), ("per_page", .int perPage)]).run reactor s =
        (.ok (), t) ∧
      t.builders.get? id = some c ∧
      c.inquiry = (b.descriptor.paged page perPage, b.options)) ∧
    ∀ rows : List Row,
      (∀ k : Nat, 1 ≤ k → (b.descriptor.paged k perPage).selectRows (rowsValue rows) =
        .ok (((rows.filter b.descriptor.keeps).extract ((k - 1) * pageSize perPage)
          (min (k * pageSize perPage) (rows.filter b.descriptor.keeps).length)).map .map)) ∧
      (∀ page : Int, page ≤ 0 → (b.descriptor.paged page perPage).selectRows (rowsValue rows) =
        (b.descriptor.paged 1 perPage).selectRows (rowsValue rows)) ∧
      ∀ count : Nat, (rows.filter b.descriptor.keeps).length ≤ count * pageSize perPage →
        ((List.range count).mapM fun k =>
            (b.descriptor.paged (k + 1 : Nat) perPage).selectRows (rowsValue rows)).map
              List.flatten = .ok ((rows.filter b.descriptor.keeps).map .map) ∧
        ∀ k : Nat, count < k →
          (b.descriptor.paged k perPage).selectRows (rowsValue rows) = .ok [] := by
  refine ⟨fun page => run_chain_paginate hb page perPage, fun rows => ⟨fun k hk => ?_,
    fun page hpage => ?_, fun count hcount => ⟨?_, fun k hk => ?_⟩⟩⟩
  · obtain ⟨k, rfl⟩ := Nat.exists_eq_add_one.mpr hk
    rw [Descriptor.selectRows_paged, pageNumber_natCast_succ]
  · rw [Descriptor.selectRows_paged, Descriptor.selectRows_paged, pageNumber_of_nonpos hpage]
    rfl
  · have hpages : ∀ k ∈ List.range count,
        (b.descriptor.paged (k + 1 : Nat) perPage).selectRows (rowsValue rows) =
          .ok (((rows.filter b.descriptor.keeps).extract (k * pageSize perPage)
            (min ((k + 1) * pageSize perPage) (rows.filter b.descriptor.keeps).length)).map
              .map) := by
      intro k _
      rw [Descriptor.selectRows_paged, pageNumber_natCast_succ, Nat.add_sub_cancel]
    rw [mapM_eq_ok_map hpages, Except.map, ← List.flatMap_def, ← List.map_flatMap,
      flatMap_range_extract, List.take_of_length_le hcount]
  · obtain ⟨k, rfl⟩ := Nat.exists_eq_add_one.mpr (Nat.zero_lt_of_lt hk)
    refine Descriptor.selectRows_paged_beyond (Nat.le_trans hcount ?_)
    rw [pageNumber_natCast_succ, Nat.add_sub_cancel]
    exact Nat.mul_le_mul_right _ (Nat.le_of_lt_succ hk)

/-- A query for the rows that have 1 under a column. -/
def filed : Descriptor :=
  { Descriptor.new "t" with wheres := [.basic "a" .eq (.int 1) .and] }

/-- A session with a builder for these rows. -/
def archive : Session where
  clock := default
  builders := { items := [{ Builder.new "t" {} with descriptor := filed }] }

/-- Rows that the builder asks for, with one between them that it does not. -/
def filedRows : List Row :=
  [[("a", .int 1), ("b", .int 1)], [("a", .int 2)], [("a", .int 1), ("b", .int 2)],
    [("a", .int 1), ("b", .int 3)]]

/-- Two pages of two rows hold the three rows that are asked for, the second of them the last one;
where less than one row is asked for, each page holds one. -/
theorem paginate_tiles_archive :
    (∀ page perPage : Int, ∃ t c,
      (chain 0 .paginate [("page", .int page), ("per_page", .int perPage)]).run .still archive =
        (.ok (), t) ∧
      t.builders.get? 0 = some c ∧ c.inquiry = (filed.paged page perPage, {})) ∧
    (filed.paged 2 2).selectRows (rowsValue filedRows) =
      .ok [.map [("a", .int 1), ("b", .int 3)]] ∧
    (filed.paged (-1) (-5)).selectRows (rowsValue filedRows) =
      .ok [.map [("a", .int 1), ("b", .int 1)]] ∧
    ((List.range 2).mapM fun k =>
        (filed.paged (k + 1 : Nat) 2).selectRows (rowsValue filedRows)).map List.flatten =
      .ok [.map [("a", .int 1), ("b", .int 1)], .map [("a", .int 1), ("b", .int 2)],
        .map [("a", .int 1), ("b", .int 3)]] ∧
    (filed.paged 3 2).selectRows (rowsValue filedRows) = .ok [] := by
  have htiles := fun perPage => @paginate_tiles .still archive 0 _ rfl perPage
  have hverdicts : filedRows.map filed.keeps = [true, false, true, true] := by decide +kernel
  have hkept := keptBy_eq_filter filed.keeps filedRows
  rw [hverdicts] at hkept
  have hroom : (filedRows.filter filed.keeps).length ≤ 2 * pageSize 2 := by
    rw [← hkept]
    decide
  refine ⟨fun page perPage => (htiles perPage).1 page, ?_, ?_, ?_,
    (((htiles 2).2 filedRows).2.2 2 hroom).2 3 (by decide)⟩
  · refine (((htiles 2).2 filedRows).1 2 (by decide)).trans ?_
    rw [← hkept]
    rfl
  · refine (((htiles (-5)).2 filedRows).2.1 (-1) (by decide)).trans ?_
    refine (((htiles (-5)).2 filedRows).1 1 (by decide)).trans ?_
    rw [← hkept]
    rfl
  · refine (((htiles 2).2 filedRows).2.2 2 hroom).1.trans ?_
    rw [← hkept]
    rfl

end Act

end FluentSql
