import FluentSql.Proofs.Rows.Seeding
import FluentSql.Proofs.Session.Closed
import FluentSql.Proofs.Session.Copying
import FluentSql.Proofs.Value.Entries
import Mathlib.Data.List.Forall2
import Mathlib.Logic.Function.Basic

set_option autoImplicit false

/-!
# Rows that a write changes

The writes that change rows find out first which rows match, and change these one after the other
where they stand. So a row is changed if it matched before anything was changed, whatever columns
the predicate looks at, and in the columns that the write names alone. An addition may fail at a
row; the rows before it are changed by then, and the others are not.

Rows are objects, and one row can stand at several places of a table. It is then changed once for
each of them. An update makes nothing more of it after the first time, but every addition counts.

The writes that insert leave the rows, and put the new ones behind them.

## Main definitions

* `FluentSql.Row.TakesIn`, `FluentSql.Row.TakesSum` — a row gets some entries, or a sum, and keeps
  what it has beside them.
* `FluentSql.Row.Times` — a change of a row made several times.
* `FluentSql.Row.Passed` — rows that were changed one after the other.
* `FluentSql.Attempt.ChangedWhere`, `FluentSql.Attempt.StoppedWhere`, `FluentSql.Attempt.Appended` —
  what a write did to the rows at some places.
* `FluentSql.Act.applyCopied` — a write of a builder, which puts copies of its values into rows.

## Main results

* `FluentSql.exists_passed_changePlaces` — changing rows one after the other.
* `FluentSql.Row.TakesIn.agreesWith` — a row that has some attributes and takes in some values.
* `FluentSql.Act.exists_run_applyCopied` — what rows take in where the values hold builders.
* `FluentSql.Descriptor.write_changes_matched` — what each of the writes does.
* `FluentSql.Descriptor.write_shared_and_copied` — a row that stands at two places, and a builder
  that is put into a row.
-/

namespace FluentSql

/-! ## Changes of one row -/

namespace Row

/-- A row gets some entries, the last one that there is for a key, and keeps under every other key
what it has. -/
structure TakesIn (entries : Fields) (row row' : Row) : Prop where
  given : ∀ key : Value, key.hashable = true → entries.has key = true →
    row'.get? key = Fields.get? entries.reverse key
  kept : ∀ key : Value, key.hashable = true → entries.has key = false →
    row'.get? key = row.get? key

/-- Entries that are put into a row are those that it takes in. -/
theorem takesIn_merge {entries : Fields} {row : Row} (hrow : Fields.HashableKeys row)
    (hentries : entries.HashableKeys) : TakesIn entries row (Fields.merge row entries) := by
  constructor
  · intro key hkey hhas
    rw [← Fields.has_reverse] at hhas
    obtain ⟨v, hlast⟩ := Fields.exists_get?_of_has hhas
    rw [Fields.get?_merge hrow hentries hkey, hlast, Option.some_or]
  · intro key hkey hhas
    rw [← Fields.has_reverse] at hhas
    rw [Fields.get?_merge hrow hentries hkey, Fields.get?_of_has_eq_false hhas, Option.none_or]

/-- A row gets under a column the sum of what it has there and an amount, and keeps what it has
under every other key. What does not count as true counts as zero. -/
def TakesSum (column amount : Value) (row row' : Row) : Prop :=
  ∃ sum, ((row.value column).orElse (.int 0)).add amount = .ok sum ∧
    TakesIn [(column, sum)] row row'

/-- A row with an amount added to what it has under a column. -/
def increased (column amount : Value) (row : Row) : Except Error Row := do
  let sum ← ((← Fields.cell row column).orElse (.int 0)).add amount
  Fields.put row column sum

/-- A row that is increased has the sum put under the column, which can be a key. -/
theorem exists_set_of_increased_eq_ok {column amount : Value} {row row' : Row}
    (h : increased column amount row = .ok row') :
    column.hashable = true ∧ ∃ sum, ((row.value column).orElse (.int 0)).add amount = .ok sum ∧
      row' = Fields.set row column sum := by
  obtain ⟨old, hold, h⟩ := bind_eq_ok.mp h
  obtain ⟨sum, hsum, hput⟩ := bind_eq_ok.mp h
  have hcolumn : column.hashable = true := by
    rw [Fields.cell] at hold
    split at hold
    · assumption
    · cases hold
  rw [Fields.cell, if_pos hcolumn] at hold
  rw [Fields.put, if_pos hcolumn] at hput
  cases hold
  cases hput
  exact ⟨hcolumn, sum, hsum, rfl⟩

/-- A row that is increased takes in the sum under the column. -/
theorem takesSum_of_increased_eq_ok {column amount : Value} {row row' : Row}
    (hrow : Fields.HashableKeys row) (h : increased column amount row = .ok row') :
    TakesSum column amount row row' := by
  obtain ⟨hcolumn, sum, hsum, rfl⟩ := exists_set_of_increased_eq_ok h
  exact ⟨sum, hsum, takesIn_merge hrow (by simpa [Fields.HashableKeys] using hcolumn)⟩

/-- A row that is increased has no other keys than it had, but for the column. -/
theorem hashableKeys_of_increased_eq_ok {column amount : Value} {row row' : Row}
    (hrow : Fields.HashableKeys row) (h : increased column amount row = .ok row') :
    Fields.HashableKeys row' := by
  obtain ⟨hcolumn, sum, -, rfl⟩ := exists_set_of_increased_eq_ok h
  exact hrow.set hcolumn sum

/-- Under every key for which there is an entry in some others, a row has what they have. -/
def AgreesWith (wanted : Fields) (row : Row) : Prop :=
  ∀ key : Value, key.hashable = true → wanted.has key = true →
    (row.value key).equal (wanted.value key) = true

/-- A row whose values are equal to themselves agrees with itself. -/
theorem agreesWith_self {row : Row} (hself : ∀ p ∈ row, p.2.equal p.2 = true) :
    AgreesWith row row := by
  intro key _ hhas
  obtain ⟨v, hget⟩ := Fields.exists_get?_of_has hhas
  obtain ⟨p, hp, -, rfl⟩ := Fields.exists_mem_of_get?_eq_some hget
  rw [Fields.value, hget, Option.getD_some]
  exact hself p hp

/-- A row that has some attributes and has taken in some values agrees with the two together, if
what is wanted of it is equal to itself.

**Proof sketch.** Under a key that the values have the row holds the last of them, and so do the two
together. Under any other the row has kept what it had, which agreed with the attributes. -/
theorem TakesIn.agreesWith {attributes values : Fields} {row row' : Row}
    (h : TakesIn values row row') (hall : hasAll attributes row = true)
    (hrow : Fields.HashableKeys row) (hattributes : attributes.HashableKeys)
    (hvalues : values.HashableKeys)
    (hself : ∀ p ∈ attributes.merge values, p.2.equal p.2 = true) :
    AgreesWith (attributes.merge values) row' := by
  intro key hkey hwanted
  obtain ⟨v, hget⟩ := Fields.exists_get?_of_has hwanted
  have hmerge := Fields.get?_merge hattributes hvalues hkey
  have hvalue : (attributes.merge values).value key = v := by
    rw [Fields.value, hget, Option.getD_some]
  rw [hget] at hmerge
  rw [hvalue]
  cases hhas : values.has key with
  | true =>
    -- what the values have is what there is in both
    have hgiven := h.given key hkey hhas
    rw [← Fields.has_reverse] at hhas
    obtain ⟨last, hlast⟩ := Fields.exists_get?_of_has hhas
    rw [hlast, Option.some_or] at hmerge
    obtain ⟨p, hp, -, hsame⟩ := Fields.exists_mem_of_get?_eq_some hget
    rw [Fields.value, hgiven, hlast, ← hmerge, Option.getD_some, ← hsame]
    exact hself p hp
  | false =>
    -- the row has kept what it has, which is equal to what the attributes have
    have hkept := h.kept key hkey hhas
    rw [← Fields.has_reverse] at hhas
    rw [Fields.get?_of_has_eq_false hhas, Option.none_or] at hmerge
    obtain ⟨p, hp, hagrees, hsame⟩ := Fields.exists_mem_of_get?_eq_some hmerge.symm
    have hequal := List.all_eq_true.mp hall p hp
    rw [Fields.value, Fields.get?_congr hrow (hattributes p hp) hkey hagrees, ← hkept,
      hsame] at hequal
    exact hequal

/-- A change makes one row of another. -/
def Becomes (change : Row → Except Error Row) (row row' : Row) : Prop := change row = .ok row'

/-- What becomes of a row where those that match are changed: one that does not stays. -/
def IfMatches (test : Row → Bool) (R : Row → Row → Prop) (row row' : Row) : Prop :=
  if test row = true then R row row' else row' = row

/-- A change of a row is made so many times. -/
def Times (R : Row → Row → Prop) : Nat → Row → Row → Prop
  | 0, row, row' => row' = row
  | k + 1, row, row' => ∃ between, R row between ∧ Times R k between row'

@[simp] theorem times_zero {R : Row → Row → Prop} {row row' : Row} :
    Times R 0 row row' ↔ row' = row := Iff.rfl

/-- A change that is made once is the change. -/
theorem times_one {R : Row → Row → Prop} {row row' : Row} : Times R 1 row row' ↔ R row row' := by
  constructor
  · rintro ⟨between, hR, rfl⟩
    exact hR
  · exact fun hR => ⟨row', hR, rfl⟩

/-- A change of valid rows that leaves them valid is, as often as it is made, whatever it is
once. -/
theorem Times.imp {R S : Row → Row → Prop} {valid : Row → Prop}
    (hstep : ∀ row row', valid row → R row row' → S row row' ∧ valid row') {k : Nat}
    {row row' : Row} (hrow : valid row) (h : Times R k row row') : Times S k row row' := by
  induction k generalizing row with
  | zero => exact h
  | succ k ih =>
    obtain ⟨between, hR, hrest⟩ := h
    obtain ⟨hS, hbetween⟩ := hstep row between hrow hR
    exact ⟨between, hS, ih hbetween hrest⟩

/-- A row that takes in the same entries twice has taken them in once. -/
theorem TakesIn.trans {entries : Fields} {row between row' : Row} (h : TakesIn entries row between)
    (h' : TakesIn entries between row') : TakesIn entries row row' where
  given := h'.given
  kept key hkey hhas := (h'.kept key hkey hhas).trans (h.kept key hkey hhas)

/-- A row that takes in the same entries several times has taken them in once. -/
theorem TakesIn.of_times {entries : Fields} {k : Nat} (hk : 0 < k) {row row' : Row}
    (h : Times (TakesIn entries) k row row') : TakesIn entries row row' := by
  induction k generalizing row with
  | zero => cases hk
  | succ k ih =>
    obtain ⟨between, hfirst, hrest⟩ := h
    rcases Nat.eq_zero_or_pos k with rfl | hk
    · exact times_one.mp ⟨between, hfirst, hrest⟩
    · exact hfirst.trans (ih hk hrest)

/-- What rows are when those at some places were changed one after the other, and how that failed:
they all were changed of which a verdict is that they match; or it failed at one of them, and those
before it were. A row is changed once for each place at which it stands. -/
inductive Passed (verdict : Nat → Bool) (change : Row → Except Error Row) (places : List Nat)
    (rows rows' : Nat → Row) : Option Error → Prop
  | through
      (h : ∀ m, Times (Becomes change) (if verdict m then places.count m else 0) (rows m)
        (rows' m)) :
      Passed verdict change places rows rows' none
  | halted {before after : List Nat} {n : Nat} {e : Error} (hplaces : places = before ++ n :: after)
      (hn : verdict n = true) (he : change (rows' n) = .error e)
      (h : ∀ m, Times (Becomes change) (if verdict m then before.count m else 0) (rows m)
        (rows' m)) :
      Passed verdict change places rows rows' (some e)

variable {verdict : Nat → Bool} {change : Row → Except Error Row} {places : List Nat}
  {rows rows' : Nat → Row} {failure : Option Error} {n : Nat}

/-- A row that does not match is passed by. -/
theorem Passed.skip (hn : verdict n = false) (h : Passed verdict change places rows rows' failure) :
    Passed verdict change (n :: places) rows rows' failure := by
  have hcount : ∀ (ns : List Nat) (m : Nat), (if verdict m then (n :: ns).count m else 0) =
      if verdict m then ns.count m else 0 := by
    intro ns m
    by_cases hm : m = n
    · simp [hm, hn]
    · rw [List.count_cons_of_ne (Ne.symm hm)]
  cases h with
  | through h => exact .through fun m => by rw [hcount]; exact h m
  | halted hplaces hbroken he h =>
    exact .halted (congrArg (n :: ·) hplaces) hbroken he fun m => by rw [hcount]; exact h m

/-- A row that matches is changed before the others, and once more than it is among them. -/
theorem Passed.cons {row' : Row} (hn : verdict n = true) (hchange : change (rows n) = .ok row')
    (h : Passed verdict change places (Function.update rows n row') rows' failure) :
    Passed verdict change (n :: places) rows rows' failure := by
  have hcount : ∀ (ns : List Nat) (m : Nat),
      Times (Becomes change) (if verdict m then ns.count m else 0)
        (Function.update rows n row' m) (rows' m) →
      Times (Becomes change) (if verdict m then (n :: ns).count m else 0) (rows m) (rows' m) := by
    intro ns m h
    by_cases hm : m = n
    · subst hm
      rw [Function.update_self, if_pos hn] at h
      rw [List.count_cons_self, if_pos hn]
      exact ⟨row', hchange, h⟩
    · rw [Function.update_of_ne hm] at h
      rwa [List.count_cons_of_ne (Ne.symm hm)]
  cases h with
  | through h => exact .through fun m => hcount places m (h m)
  | halted hplaces hbroken he h =>
    exact .halted (congrArg (n :: ·) hplaces) hbroken he fun m => hcount _ m (h m)

end Row

/-! ## Changing rows where they stand -/

/-- An amount is added to a row that is a mapping. -/
theorem incrementRow_map (column amount : Value) (row : Row) :
    incrementRow column amount (.map row) =
      match Row.increased column amount row with
      | .ok row' => (.map row', none)
      | .error e => (.map row, some e) := by
  rw [incrementRow, Value.fields, ok_bind, Row.increased]
  cases Fields.cell row column with
  | error e => rfl
  | ok old =>
    rw [ok_bind, ok_bind]
    cases (old.orElse (.int 0)).add amount with
    | error e => rfl
    | ok sum =>
      rw [ok_bind, ok_bind]
      cases Fields.put row column sum <;> rfl

/-- Rows that are mappings, at their places. -/
def Placed.ofRows (places : List Nat) (rows : Nat → Row) : Placed :=
  ⟨places, fun n => .map (rows n)⟩

@[simp] theorem Placed.items_ofRows (places : List Nat) (rows : Nat → Row) :
    (ofRows places rows).items = (places.map rows).map .map := by
  rw [items, List.map_map]
  rfl

/-- Another mapping under a number. -/
theorem Placed.put_ofRows (places : List Nat) (rows : Nat → Row) (n : Nat) (row : Row) :
    (ofRows places rows).put n (.map row) = ofRows places (Function.update rows n row) := by
  rw [put, ofRows, ofRows]
  congr 1
  funext m
  by_cases hm : m = n
  · rw [hm, if_pos rfl, Function.update_self]
  · rw [if_neg hm, Function.update_of_ne hm]

/-- Rows are changed one after the other, up to the first at which that fails.

**Proof sketch.** By induction over the places, with any rows to start from. The verdict on a row
was made beforehand, so it does not change with the row; the row that a change makes of one stands
at the later places too, which is what the induction hypothesis is used for. -/
theorem exists_passed_changePlaces {verdict : Nat → Bool} {change : Row → Except Error Row}
    {act : Value → Value × Option Error}
    (hact : ∀ row, act (.map row) = match change row with
      | .ok row' => (.map row', none)
      | .error e => (.map row, some e)) (all places : List Nat) (rows : Nat → Row) :
    ∃ rows' failure, Row.Passed verdict change places rows rows' failure ∧
      changePlaces act ((places.map verdict).zip places) (.ofRows all rows) =
        (.ofRows all rows', failure) := by
  induction places generalizing rows with
  | nil => exact ⟨rows, none, .through fun m => by simp, rfl⟩
  | cons n places ih =>
    rw [List.map_cons, List.zip_cons_cons]
    cases hn : verdict n with
    | false =>
      obtain ⟨rows', failure, hpassed, hrest⟩ := ih rows
      exact ⟨rows', failure, hpassed.skip hn, hrest⟩
    | true =>
      have hrow : (Placed.ofRows all rows).row n = .map (rows n) := rfl
      cases hchange : change (rows n) with
      | ok row' =>
        obtain ⟨rows', failure, hpassed, hrest⟩ := ih (Function.update rows n row')
        have hacts : act ((Placed.ofRows all rows).row n) = (.map row', none) := by
          rw [hrow, hact, hchange]
        refine ⟨rows', failure, hpassed.cons hn hchange, ?_⟩
        rw [changePlaces_of_none hacts, Placed.put_ofRows, hrest]
      | error e =>
        have hhalted : Row.Passed verdict change (n :: places) rows rows (some e) :=
          .halted (List.nil_append _).symm hn hchange fun m => by simp
        have hacts : act ((Placed.ofRows all rows).row n) = (.map (rows n), some e) := by
          rw [hrow, hact, hchange]
        refine ⟨rows, some e, hhalted, ?_⟩
        rw [changePlaces_of_some hacts, Placed.put_ofRows, Function.update_eq_self]

namespace Attempt

/-- A write has changed rows where they stand, and reports how many. -/
structure Changed (a : Attempt) (rows left : List Row) (count : Nat) : Prop where
  touched : a.touched = left.map .map
  result : a.result (rowsValue rows) = .ok (rowsValue left, { changes := .int count })

/-- A write has left rows as they are and put others behind them, and reports how many. -/
structure Appended (a : Attempt) (key : Value) (rows added : List Row) : Prop where
  touched : a.touched = rows.map .map
  result : a.result (rowsValue rows) =
    .ok (rowsValue (rows ++ added), Descriptor.insertion key added)

/-- A write has failed, and has made rows of those that there were. -/
structure BrokenOff (a : Attempt) (left : List Row) (e : Error) : Prop where
  touched : a.touched = left.map .map
  outcome : a.outcome = .error e

/-- A write has changed the rows that match, each as a relation says that looks at the number of
places at which the row stands, and reports at how many places there are some. -/
def ChangedWhere (a : Attempt) (test : Row → Bool) (R : Nat → Row → Row → Prop) (places : List Nat)
    (rows : Nat → Row) : Prop :=
  ∃ rows' : Nat → Row,
    a.Changed (places.map rows) (places.map rows') ((places.map rows).countP test) ∧
      ∀ n ∈ places, Row.IfMatches test (R (places.count n)) (rows n) (rows' n)

/-- A write has failed at a row that matches, as it was by then. The rows that match were changed,
each as a relation says that looks at the number of places before this one at which the row
stands; so those that do not stand before it were not. -/
def StoppedWhere (a : Attempt) (test : Row → Bool) (change : Row → Except Error Row)
    (R : Nat → Row → Row → Prop) (places : List Nat) (rows : Nat → Row) : Prop :=
  ∃ before n after e, ∃ rows' : Nat → Row, places = before ++ n :: after ∧ test (rows n) = true ∧
    change (rows' n) = .error e ∧
    (∀ m ∈ places, Row.IfMatches test (R (before.count m)) (rows m) (rows' m)) ∧
    a.BrokenOff (places.map rows') e

end Attempt

section Changing

variable {test : Row → Bool} {places : List Nat} {rows : Nat → Row}

/-- A row that was changed so many times, if it matches, is what a relation says, if it matches. -/
theorem Row.ifMatches_of_times {R S : Row → Row → Prop} {valid : Row → Prop}
    (hstep : ∀ row row', valid row → R row row' → S row row' ∧ valid row') {k : Nat}
    {row row' : Row} (hrow : valid row)
    (h : Times R (if test row = true then k else 0) row row') :
    IfMatches test (Times S k) row row' := by
  rw [IfMatches]
  split
  · next htest =>
    rw [if_pos htest] at h
    exact h.imp hstep hrow
  · next htest =>
    rw [if_neg htest] at h
    exact h

/-- Changing the rows that match, once for each place, has changed them, or has stopped at one. -/
theorem changedWhere_or_stoppedWhere (test : Row → Bool) {change : Row → Except Error Row}
    {act : Value → Value × Option Error}
    (hact : ∀ row, act (.map row) = match change row with
      | .ok row' => (.map row', none)
      | .error e => (.map row, some e))
    {R : Row → Row → Prop} {valid : Row → Prop}
    (hstep : ∀ row row', valid row → Row.Becomes change row row' → R row row' ∧ valid row')
    (hrows : ∀ n ∈ places, valid (rows n)) :
    (attemptChange ((places.map rows).map test) act (.ofRows places rows)).ChangedWhere test
        (Row.Times R) places rows ∨
      (attemptChange ((places.map rows).map test) act (.ofRows places rows)).StoppedWhere test
        change (Row.Times R) places rows := by
  obtain ⟨rows', failure, hpassed, hchanged⟩ :=
    @exists_passed_changePlaces (fun n => test (rows n)) _ _ hact places places rows
  have hmarks : (places.map rows).map test = places.map fun n => test (rows n) := List.map_map
  have hattempt : attemptChange ((places.map rows).map test) act (.ofRows places rows) =
      { touched := (places.map rows').map .map
        told := reachedAt act ((places.map fun n => test (rows n)).zip places) (.ofRows places rows)
        outcome := changeOutcome ((places.map rows).map test) failure } := by
    have hplaces : (Placed.ofRows places rows).places = places := rfl
    rw [attemptChange, hmarks, hplaces, hchanged]
    dsimp only
    rw [Placed.items_ofRows]
  rw [hattempt]
  cases hpassed with
  | through h =>
    have hcount : ((places.map rows).map test).count true = (places.map rows).countP test := by
      rw [List.count, List.countP_map]
      exact List.countP_congr fun row _ => by simp
    refine .inl ⟨rows', ⟨rfl, ?_⟩, fun n hn => Row.ifMatches_of_times hstep (hrows n hn) (h n)⟩
    rw [changeOutcome, hcount]
    rfl
  | @halted before after n e hplaces hn he h =>
    exact .inr ⟨before, n, after, e, rows', hplaces, hn, he,
      fun m hm => Row.ifMatches_of_times hstep (hrows m hm) (h m), rfl, rfl⟩

/-- Updating the rows that match has changed them. -/
theorem changedWhere_updateRow {data : Value} {given : Fields} (hdata : data.updates = .ok given)
    (hrows : ∀ n ∈ places, Fields.HashableKeys (rows n)) (hgiven : given.HashableKeys) :
    (attemptChange ((places.map rows).map test) (updateRow data)
      (.ofRows places rows)).ChangedWhere test (fun _ => Row.TakesIn given) places rows := by
  have hstep : ∀ row row', Fields.HashableKeys row →
      Row.Becomes (fun row => .ok (Fields.merge row given)) row row' →
        Row.TakesIn given row row' ∧ Fields.HashableKeys row' := by
    rintro row _ hrow ⟨⟩
    exact ⟨Row.takesIn_merge hrow hgiven, hrow.merge hgiven⟩
  rcases changedWhere_or_stoppedWhere test (updateRow_map hdata) hstep hrows with
    ⟨rows', hchanged, hR⟩ | ⟨_, _, _, _, _, _, _, hfails, -⟩
  · refine ⟨rows', hchanged, fun n hn => ?_⟩
    have hpositive : 0 < places.count n := List.count_pos_iff.mpr hn
    have hrow := hR n hn
    rw [Row.IfMatches] at hrow ⊢
    split
    · next htest => exact .of_times hpositive (by rwa [if_pos htest] at hrow)
    · next htest => rwa [if_neg htest] at hrow
  · cases hfails

/-- Adding an amount in the rows that match, once for each place, has changed them, or has stopped
at one of them. -/
theorem changedWhere_or_stoppedWhere_incrementRow (column amount : Value)
    (hrows : ∀ n ∈ places, Fields.HashableKeys (rows n)) :
    (attemptChange ((places.map rows).map test) (incrementRow column amount)
        (.ofRows places rows)).ChangedWhere test (Row.Times (Row.TakesSum column amount)) places
        rows ∨
      (attemptChange ((places.map rows).map test) (incrementRow column amount)
        (.ofRows places rows)).StoppedWhere test (Row.increased column amount)
        (Row.Times (Row.TakesSum column amount)) places rows := by
  refine changedWhere_or_stoppedWhere test (incrementRow_map column amount)
    (fun row row' hrow hincreased => ?_) hrows
  exact ⟨Row.takesSum_of_increased_eq_ok hrow hincreased,
    Row.hashableKeys_of_increased_eq_ok hrow hincreased⟩

end Changing

/-! ## The writes -/

/-- The kind of write that adds an amount, or takes it away. -/
def WriteKind.step (decrement : Bool) : WriteKind := if decrement then .decrement else .increment

namespace Descriptor

variable {d : Descriptor} {key data : Value}

/-- An update changes the rows that the predicate keeps, at every place at which they stand. -/
theorem applyOn_update (hpending : d.pending = some ⟨WriteKind.update.keyword, data⟩)
    (rows : List Row) (placed : Placed) : d.applyOn key (rowsValue rows) placed =
      attemptChange (rows.map d.keeps) (updateRow data) placed := by
  rw [applyOn_keyword hpending, applyKind, applyUpdate, matching_rowsValue]

/-- A step changes the rows that the predicate keeps, at every place at which they stand, if the
column and the amount are given. -/
theorem applyOn_step {decrement : Bool}
    (hpending : d.pending = some ⟨(WriteKind.step decrement).keyword, data⟩) (rows : List Row)
    (placed : Placed) :
    d.applyOn key (rowsValue rows) placed =
      match incrementOf decrement data with
      | .ok (column, amount) =>
        attemptChange (rows.map d.keeps) (incrementRow column amount) placed
      | .error e => .untouched placed.items (.error e) := by
  have happly : d.applyOn key (rowsValue rows) placed =
      d.applyIncrement decrement data (rowsValue rows) placed := by
    rw [applyOn_keyword hpending]
    cases decrement <;> rfl
  rw [happly, applyIncrement, matching_rowsValue]
  cases incrementOf decrement data <;> rfl

theorem applyTo_update (hpending : d.pending = some ⟨WriteKind.update.keyword, data⟩)
    (rows : List Row) : d.applyTo key (rowsValue rows) =
      attemptApart (rows.map d.keeps) (updateRow data) (rows.map .map) := by
  rw [← attemptChange_apart (by simp)]
  exact applyOn_update hpending rows (.apart (rows.map .map))

theorem applyTo_step {decrement : Bool}
    (hpending : d.pending = some ⟨(WriteKind.step decrement).keyword, data⟩) (rows : List Row) :
    d.applyTo key (rowsValue rows) =
      match incrementOf decrement data with
      | .ok (column, amount) =>
        attemptApart (rows.map d.keeps) (incrementRow column amount) (rows.map .map)
      | .error e => .untouched (rows.map .map) (.error e) := by
  refine (applyOn_step hpending rows (.apart (rows.map .map))).trans ?_
  rw [Placed.items_apart]
  cases incrementOf decrement data with
  | error e => rfl
  | ok parts => exact attemptChange_apart (by simp) _

/-- What is known of a step: the column is named, and the amount is given, or is one; a step down
has the negated amount. -/
theorem incrementOf_eq_ok {decrement : Bool} {column amount signed : Value}
    (hcolumn : data.subscript "column" = .ok column)
    (hamount : data.getOr "amount" (.int 1) = .ok amount)
    (hsigned : (if decrement then amount.negate else .ok amount) = .ok signed) :
    incrementOf decrement data = .ok (column, signed) := by
  rw [incrementOf, hcolumn, ok_bind, hamount, ok_bind]
  cases decrement with
  | false =>
    cases hsigned
    rfl
  | true => exact bind_eq_ok.mpr ⟨signed, hsigned, rfl⟩

/-- The rows that an insertion leaves are in front of those that it adds. -/
theorem appended_of_eq_untouched {a : Attempt} (hkey : key.hashable = true) {rows added : List Row}
    (h : a = .untouched (rows.map .map) (appendRows key (rowsValue rows) (rowsValue added))) :
    a.Appended key rows added := by
  rw [h]
  exact ⟨rfl, result_appendRows hkey rows added⟩

variable {places : List Nat} {rows : Nat → Row}

section Upserting

variable {values : Value} {attributes given : Fields}
  (hpending : d.pending = some ⟨WriteKind.updateOrInsert.keyword, data⟩)
  (hattributes : data.subscript "attributes" = .ok (.map attributes))
  (hvalues : data.subscript "values" = .ok values)

include hpending hattributes hvalues

/-- If there are rows that have the attributes, they are changed. -/
theorem changedWhere_updateOrInsert (hgiven : values.updates = .ok given)
    (hrows : ∀ n ∈ places, Fields.HashableKeys (rows n)) (hhashable : given.HashableKeys)
    (hsome : (places.map rows).any (Row.hasAll attributes) = true) :
    (d.applyOn key (rowsValue (places.map rows)) (.ofRows places rows)).ChangedWhere
      (Row.hasAll attributes) (fun _ => Row.TakesIn given) places rows := by
  rw [applyOn_updateOrInsert hpending hattributes hvalues, if_pos hsome]
  exact changedWhere_updateRow hgiven hrows hhashable

/-- If there are none, the attributes and the values are put behind the rows. -/
theorem appended_updateOrInsert (hkey : key.hashable = true) (hgiven : values = .map given)
    (hnone : (places.map rows).any (Row.hasAll attributes) = false) :
    (d.applyOn key (rowsValue (places.map rows)) (.ofRows places rows)).Appended key
      (places.map rows) [attributes.merge given] := by
  refine appended_of_eq_untouched hkey ?_
  rw [applyOn_updateOrInsert hpending hattributes hvalues, hnone, hgiven, Placed.items_ofRows]
  rfl

/-- Afterwards some row agrees with the attributes and the values. -/
theorem exists_agreesWith_updateOrInsert (hkey : key.hashable = true) (hgiven : values = .map given)
    (hrows : ∀ n ∈ places, Fields.HashableKeys (rows n)) (hfirst : attributes.HashableKeys)
    (hhashable : given.HashableKeys) (hself : ∀ p ∈ attributes.merge given, p.2.equal p.2 = true) :
    ∃ left result, (d.applyOn key (rowsValue (places.map rows)) (.ofRows places rows)).result
        (rowsValue (places.map rows)) = .ok (rowsValue left, result) ∧
      ∃ row ∈ left, Row.AgreesWith (attributes.merge given) row := by
  cases hany : (places.map rows).any (Row.hasAll attributes) with
  | true =>
    have hupdates : values.updates = .ok given := by
      rw [hgiven]
      rfl
    obtain ⟨rows', hchanged, hleft⟩ :=
      @changedWhere_updateOrInsert d key data places rows values attributes given hpending
        hattributes hvalues hupdates hrows hhashable hany
    obtain ⟨row, hrow, hall⟩ := List.any_eq_true.mp hany
    obtain ⟨n, hn, rfl⟩ := List.mem_map.mp hrow
    have htakes := hleft n hn
    rw [Row.IfMatches, if_pos hall] at htakes
    exact ⟨_, _, hchanged.result, rows' n, List.mem_map_of_mem hn,
      htakes.agreesWith hall (hrows n hn) hfirst hhashable hself⟩
  | false =>
    have happended := @appended_updateOrInsert d key data places rows values attributes given
      hpending hattributes hvalues hkey hgiven hany
    exact ⟨_, _, happended.result, _, List.mem_append_right _ List.mem_cons_self,
      Row.agreesWith_self hself⟩

end Upserting

end Descriptor

/-- Carries out the queued write of a builder on rows at their places. The rows take in copies of
the queued values, and the rows that are added are copies. -/
def Act.applyCopied (id : Nat) (key table : Value) (placed : Placed) : Act Attempt := do
  copiedAttempt ((← copiedValues id).applyOn key table placed)

/-- A write with copies is the write of a query whose queued values are copies, and copies of the
rows that this one adds.

**Proof sketch.** The rows are copied in a session in which the values have been copied already; the
builders that are new there are new in the first session all the more. -/
theorem Act.exists_run_applyCopied (reactor : Reactor) {s : Session} {id : Nat} {b : Builder}
    (hb : s.builders.get? id = some b) (key table : Value) (placed : Placed) :
    ∃ d attempt t, (applyCopied id key table placed).run reactor s = (.ok attempt, t) ∧
      (s.currentQuery b.descriptor).CopiedAs s d ∧
      (d.applyOn key table placed).CopiedAs s attempt := by
  obtain ⟨d, t, hvalues, hd⟩ := exists_run_copiedValues reactor hb
  obtain ⟨attempt, u, hattempt, hcopied⟩ :=
    exists_run_copiedAttempt reactor t (d.applyOn key table placed)
  have hcopying : Frame.copying.rel s t := by
    have hrel := @keeps_copiedValues reactor id s
    rwa [hvalues] at hrel
  refine ⟨d, attempt, u, ?_, hd, hcopied.of_copying hcopying⟩
  rw [applyCopied, run_bind_of_ok _ _ hvalues]
  exact hattempt

namespace Descriptor

/-- An update, a step and an update-or-insert change in place the rows that matched beforehand, in
the columns that they name alone, and report at how many places there were some; an addition is made
once for each place at which the row stands. An insertion, and an update-or-insert without a match,
leave the rows in front of what they add, and report how many rows they did; after an
update-or-insert some row agrees with what it was given. A step that fails has changed the rows that
match up to the place it fails at. The values are those that the rows take in: the queued ones, if
these refer to no builder, and copies of them otherwise, in which the builders are new. The write
with copies is then that of the query whose queued values they are.

**Proof sketch.** The verdicts on the rows are made before the first of them changes, so each write
is a walk through the places with fixed verdicts (`exists_passed_changePlaces`). What it makes of a
row is the change of one row, as often as the row stands at a place that the walk has passed:
entries taken in twice are there once, and the sums add up. -/
theorem write_changes_matched (d : Descriptor) (pk : String) (places : List Nat) (rows : Nat → Row)
    (hrows : ∀ n ∈ places, Fields.HashableKeys (rows n)) :
    let table := rowsValue (places.map rows)
    let attempt := d.applyOn (.text pk) table (.ofRows places rows)
    (∀ data given, d.pending = some ⟨WriteKind.update.keyword, data⟩ →
      data.updates = .ok given → given.HashableKeys →
        attempt.ChangedWhere d.keeps (fun _ => Row.TakesIn given) places rows) ∧
    (∀ decrement data, d.pending = some ⟨(WriteKind.step decrement).keyword, data⟩ →
      (∀ column amount signed, data.subscript "column" = .ok column →
        data.getOr "amount" (.int 1) = .ok amount →
        (if decrement then amount.negate else .ok amount) = .ok signed →
          attempt.ChangedWhere d.keeps (Row.Times (Row.TakesSum column signed)) places rows ∨
            attempt.StoppedWhere d.keeps (Row.increased column signed)
              (Row.Times (Row.TakesSum column signed)) places rows) ∧
      ∀ e, incrementOf decrement data = .error e → attempt.BrokenOff (places.map rows) e) ∧
    (∀ (data values : Value) (attributes given : Fields),
      d.pending = some ⟨WriteKind.updateOrInsert.keyword, data⟩ →
      data.subscript "attributes" = .ok (.map attributes) →
      data.subscript "values" = .ok values → values.updates = .ok given →
      attributes.HashableKeys → given.HashableKeys →
        ((places.map rows).any (Row.hasAll attributes) = true →
          attempt.ChangedWhere (Row.hasAll attributes) (fun _ => Row.TakesIn given) places rows) ∧
        (values = .map given →
          ((places.map rows).any (Row.hasAll attributes) = false →
            attempt.Appended (.text pk) (places.map rows) [attributes.merge given]) ∧
          ((∀ p ∈ attributes.merge given, p.2.equal p.2 = true) →
            ∃ left result, attempt.result table = .ok (rowsValue left, result) ∧
              ∃ row ∈ left, Row.AgreesWith (attributes.merge given) row))) ∧
    (∀ added, d.pending = some ⟨WriteKind.insert.keyword, rowsValue added⟩ →
      attempt.Appended (.text pk) (places.map rows) added) ∧
    (d.Closed → ∀ reactor s id b, s.builders.get? id = some b → b.descriptor = d →
      (Act.applyCopied id (.text pk) table (.ofRows places rows)).run reactor s =
        (.ok attempt, s)) ∧
    (∀ reactor s id b, s.builders.get? id = some b → s.currentQuery b.descriptor = d →
      ∃ d' copied t,
        (Act.applyCopied id (.text pk) table (.ofRows places rows)).run reactor s =
          (.ok copied, t) ∧
        d.CopiedAs s d' ∧
        (d'.applyOn (.text pk) table (.ofRows places rows)).CopiedAs s copied) := by
  have hkey : (Value.text pk).hashable = true := rfl
  refine ⟨fun data given hpending hdata hgiven => ?_, fun decrement data hpending => ⟨?_, ?_⟩, ?_,
    fun added hpending => ?_, fun hclosed reactor s id b hb hd => ?_,
    fun reactor s id b hb hd => ?_⟩
  · rw [applyOn_update hpending]
    exact changedWhere_updateRow hdata hrows hgiven
  · intro column amount signed hcolumn hamount hsigned
    rw [applyOn_step hpending, incrementOf_eq_ok hcolumn hamount hsigned]
    exact changedWhere_or_stoppedWhere_incrementRow column signed hrows
  · intro e he
    rw [applyOn_step hpending, he]
    exact ⟨Placed.items_ofRows places rows, rfl⟩
  · intro data values attributes given hpending hattributes hvalues hupdates hfirst hgiven
    refine ⟨fun hsome => ?_, fun hmap => ⟨fun hnone => ?_, fun hself => ?_⟩⟩
    · exact changedWhere_updateOrInsert hpending hattributes hvalues hupdates hrows hgiven hsome
    · exact appended_updateOrInsert hpending hattributes hvalues hkey hmap hnone
    · exact exists_agreesWith_updateOrInsert hpending hattributes hvalues hkey hmap hrows hfirst
        hgiven hself
  · refine appended_of_eq_untouched hkey ?_
    rw [applyOn_keyword hpending, applyKind, Placed.items_ofRows]
  · subst hd
    rw [Act.applyCopied, Act.run_bind_of_ok _ _ (Act.run_copiedValues_of_closed hb hclosed)]
    exact Act.run_copiedAttempt_applyOn hclosed _ _ _
  · obtain ⟨d', copied, t, hrun, hvalues, hadded⟩ := Act.exists_run_applyCopied reactor hb
      (.text pk) (rowsValue (places.map rows)) (.ofRows places rows)
    rw [hd] at hvalues
    exact ⟨d', copied, t, hrun, hvalues, hadded⟩

/-- A write on the rows that have 3 under a column. -/
def onThrees (kind : WriteKind) (data : Value) : Descriptor :=
  { Descriptor.new "t" with
    wheres := [.basic "n" .eq (.int 3) .and]
    pending := some ⟨kind.keyword, data⟩ }

/-- Adding 5 to what was used. -/
def useFive : Value := .map [("column", "used"), ("amount", .int 5)]

/-- A row with 7, unused. -/
def unusedSeven : Value :=
  .map [("attributes", .map [("n", .int 7)]), ("values", .map [("used", .int 0)])]

/-- Rows of which the first and the third have 3 under the column, and the third has a text where an
amount may be added. -/
def stock : Nat → Row
  | 0 => [("n", .int 3), ("used", .int 2)]
  | 1 => [("n", .int 4)]
  | _ => [("n", .int 3), ("used", .text "all")]

/-- The places of the rows: the first stands at two. -/
def shelves : List Nat := [0, 1, 0, 2]

/-- An update that puts 4 in place of 3 changes the rows at three places. A step adds to the first
row twice, and fails at the third. An update-or-insert finds no row. -/
theorem write_changes_matched_stock :
    (∀ n ∈ shelves, Fields.HashableKeys (stock n)) ∧
      (∃ left, ((onThrees .update (.map [("n", .int 4)])).applyOn "id"
        (rowsValue (shelves.map stock)) (.ofRows shelves stock)).Changed
          (shelves.map stock) left 3) ∧
      ((onThrees .increment useFive).applyOn "id" (rowsValue (shelves.map stock))
        (.ofRows shelves stock)).StoppedWhere (onThrees .increment useFive).keeps
        (Row.increased "used" (.int 5)) (Row.Times (Row.TakesSum "used" (.int 5))) shelves stock ∧
      (((onThrees .increment useFive).applyOn "id" (rowsValue (shelves.map stock))
        (.ofRows shelves stock)).touched.mapM (hasAttributes (.map [("used", .int 12)]))).toOption =
          some [true, false, true, false] ∧
      ((onThrees .updateOrInsert unusedSeven).applyOn "id" (rowsValue (shelves.map stock))
        (.ofRows shelves stock)).Appended "id" (shelves.map stock)
        [[("n", .int 7), ("used", .int 0)]] := by
  have hrows : ∀ n ∈ shelves, Fields.HashableKeys (stock n) := by decide +kernel
  have hcount : (shelves.map stock).countP (onThrees .update (.map [("n", .int 4)])).keeps = 3 := by
    decide +kernel
  have hfails : ((onThrees .increment useFive).applyOn "id" (rowsValue (shelves.map stock))
      (.ofRows shelves stock)).outcome.isOk = false := by decide +kernel
  have hnone : (shelves.map stock).any (Row.hasAll [("n", .int 7)]) = false := by decide +kernel
  refine ⟨hrows, ?_, ?_, by decide +kernel, ?_⟩
  · obtain ⟨rows', hchanged, -⟩ :=
      (write_changes_matched (onThrees .update (.map [("n", .int 4)])) "id" shelves stock hrows).1 _
        [("n", .int 4)] rfl rfl (by decide +kernel)
    rw [hcount] at hchanged
    exact ⟨_, hchanged⟩
  · have hstep :=
      (write_changes_matched (onThrees .increment useFive) "id" shelves stock hrows).2.1 false _ rfl
    rcases hstep.1 "used" (.int 5) (.int 5) rfl rfl rfl with ⟨rows', hchanged, -⟩ | hstopped
    · obtain ⟨written, hwritten, -⟩ := bind_eq_ok.mp hchanged.result
      rw [hwritten] at hfails
      cases hfails
    · exact hstopped
  · have hupsert :=
      (write_changes_matched (onThrees .updateOrInsert unusedSeven) "id" shelves stock
        hrows).2.2.1 _ _ [("n", .int 7)] [("used", .int 0)] rfl rfl rfl rfl (by decide +kernel)
        (by decide +kernel)
    exact (hupsert.2 rfl).1 hnone

/-- A session with a builder, and another one that is to put the first into a row. -/
def enclosing : Session where
  clock := default
  linked := true
  builders := { items := [
    Builder.new "u" {},
    { Builder.new "t" {} with
      descriptor := { Descriptor.new "t" with
        pending := some ⟨WriteKind.updateOrInsert.keyword, .map [
          ("attributes", .map [("a", .builder 0 "u")]), ("values", .map [])]⟩ } }] }

/-- A row that matches and stands at two places has the amount added twice, not once. A row that is
inserted for a builder gets a copy of it, which is no longer equal to the builder. -/
theorem write_shared_and_copied :
    (¬ ∃ left, ((onThrees .increment useFive).applyOn "id" (rowsValue ([0, 0].map stock))
        (.ofRows [0, 0] stock)).Changed ([0, 0].map stock) left 2 ∧
      List.Forall₂ (Row.IfMatches (onThrees .increment useFive).keeps
        (Row.TakesSum "used" (.int 5))) ([0, 0].map stock) left) ∧
    (Value.builder 0 "u").equal (.builder 0 "u") = true ∧
    ∃ attempt left result,
      ((Act.applyCopied 1 "id" (rowsValue []) (.ofRows [] stock)).run .still enclosing).1 =
        .ok attempt ∧
      attempt.result (rowsValue []) = .ok (rowsValue left, result) ∧
      ¬ ∃ row ∈ left, Row.AgreesWith [("a", .builder 0 "u")] row := by
  refine ⟨?_, rfl, _, [[("a", .builder 2 "u")]], _, rfl, rfl, ?_⟩
  · rintro ⟨left, hchanged, hleft⟩
    have htwelve : (((onThrees .increment useFive).applyOn "id" (rowsValue ([0, 0].map stock))
        (.ofRows [0, 0] stock)).touched.mapM (hasAttributes (.map [("used", .int 12)]))).toOption =
          some [true, true] := by decide +kernel
    have hseven : ((((stock 0).value "used").orElse (.int 0)).add (.int 5)).toOption.map
        (·.equal (.int 12)) = some false := by decide +kernel
    cases hleft with
    | @cons _ first _ rest hfirst _ =>
      -- what stands in the first row is 12, and it ought to be the sum of 2 and 5
      rw [Row.IfMatches, if_pos (by decide +kernel)] at hfirst
      obtain ⟨sum, hsum, htakes⟩ := hfirst
      have hused : Fields.value first "used" = sum := by
        rw [Fields.value, htakes.given "used" rfl rfl]
        rfl
      rw [hchanged.touched, mapM_hasAttributes] at htwelve
      simp only [Except.toOption, List.map_cons, Option.some.injEq, List.cons.injEq, Row.hasAll,
        List.all_cons, List.all_nil, hused, Bool.and_true] at htwelve
      rw [hsum, Except.toOption, Option.map_some, htwelve.1] at hseven
      cases hseven
  · rintro ⟨row, hrow, hagrees⟩
    obtain rfl := List.mem_singleton.mp hrow
    have hequal := hagrees "a" rfl rfl
    revert hequal
    decide +kernel

end Descriptor

end FluentSql
