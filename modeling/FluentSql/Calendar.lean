set_option autoImplicit false

/-!
# Calendar moments

A moment is a date and a time of day, with or without a distance from universal time. Moments
with a distance name instants, so they compare as instants; moments without one compare field by
field; the two kinds never agree.

## Main definitions

* `FluentSql.Moment` — the fields of a moment.
* `FluentSql.Moment.iso` — its text, date and time joined by a separator.
* `FluentSql.Moment.same` — agreement of two moments.
* `FluentSql.Moment.universalBefore?` — the moment a number of seconds earlier, in universal time.
-/

namespace FluentSql

/-- A date and time of day; `offset` is its distance from universal time in seconds. -/
structure Moment where
  year : Nat
  month : Nat
  day : Nat
  hour : Nat
  minute : Nat
  second : Nat
  microsecond : Nat
  offset : Option Int
  deriving DecidableEq, Repr, Inhabited

namespace Moment

/-! ## Days -/

/-- Days from the first of March of year 0 to a date, years starting in March. -/
def dayNumber (year month day : Nat) : Int :=
  let y : Int := if month ≤ 2 then (year : Int) - 1 else year
  let m : Int := (month + 9) % 12
  365 * y + y / 4 - y / 100 + y / 400 + (153 * m + 2) / 5 + day - 1

/-- The date of a day number. -/
def dateOf (days : Int) : Int × Nat × Nat :=
  let era := days / 146097
  let dayOfEra := days % 146097
  let yearOfEra := (dayOfEra - dayOfEra / 1460 + dayOfEra / 36524 - dayOfEra / 146096) / 365
  let dayOfYear := dayOfEra - (365 * yearOfEra + yearOfEra / 4 - yearOfEra / 100)
  let m := (5 * dayOfYear + 2) / 153
  let day := dayOfYear - (153 * m + 2) / 5 + 1
  let month := if m < 10 then m + 3 else m - 9
  let year := yearOfEra + 400 * era + (if month ≤ 2 then 1 else 0)
  (year, month.toNat, day.toNat)

/-! ## Instants -/

/-- Seconds of the local clock since the first day number. -/
def localSeconds (t : Moment) : Int :=
  dayNumber t.year t.month t.day * 86400 + t.hour * 3600 + t.minute * 60 + t.second

/-- Agreement: as instants if both have an offset, field by field if neither has. -/
def same (s t : Moment) : Bool :=
  match s.offset, t.offset with
  | none, none => s == t
  | some a, some b =>
    s.localSeconds - a == t.localSeconds - b && s.microsecond == t.microsecond
  | _, _ => false

/-- The moment `seconds` before another, in universal time; a moment without an offset counts as
universal. There is none before year 1 or after year 9999. -/
def universalBefore? (t : Moment) (seconds : Int) : Option Moment :=
  let total := t.localSeconds - t.offset.getD 0 - seconds
  let (year, month, day) := dateOf (total / 86400)
  let clock := (total % 86400).toNat
  if 1 ≤ year ∧ year ≤ 9999 then
    some {
      year := year.toNat, month, day
      hour := clock / 3600, minute := clock / 60 % 60, second := clock % 60
      microsecond := t.microsecond, offset := some 0 }
  else none

/-! ## Text -/

/-- A number with zeros in front up to a width. -/
def padded (width n : Nat) : String :=
  let ds := Nat.toDigits 10 n
  String.ofList (List.replicate (width - ds.length) '0' ++ ds)

/-- The text of an offset: a sign, hours and minutes, and seconds where there are any. -/
def offsetText (offset : Int) : String :=
  let n := offset.natAbs
  let seconds := if n % 60 = 0 then "" else ":" ++ padded 2 (n % 60)
  (if offset < 0 then "-" else "+") ++ padded 2 (n / 3600) ++ ":" ++ padded 2 (n / 60 % 60) ++
    seconds

/-- The date, the separator and the time of day; microseconds only where there are any. -/
def iso (t : Moment) (separator : String) : String :=
  let micros := if t.microsecond = 0 then "" else "." ++ padded 6 t.microsecond
  padded 4 t.year ++ "-" ++ padded 2 t.month ++ "-" ++ padded 2 t.day ++ separator ++
    padded 2 t.hour ++ ":" ++ padded 2 t.minute ++ ":" ++ padded 2 t.second ++ micros ++
    (t.offset.map offsetText).getD ""

end Moment

end FluentSql
