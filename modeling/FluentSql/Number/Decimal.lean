import FluentSql.Number.Scaled
import FluentSql.Text.Character

set_option autoImplicit false

/-!
# Decimal text of doubles

Writing takes the fewest decimal digits that read back as the same double, and of those the
nearest to it. Digits are positional while the decimal exponent lies in `-4 … 15`; outside they
carry an exponent with a sign and at least two digits. Reading takes a decimal with an optional
exponent, single underscores between digits, or a name of an infinity or of not a number.

## Main definitions

* `FluentSql.Decimal.shortest` — digits and exponent of a positive finite double.
* `FluentSql.Decimal.ofFloat` — the text of a double.
* `FluentSql.Decimal.toFloat?` — the double that a text names.
-/

namespace FluentSql.Decimal

open Character

/-! ## Writing -/

/-- The decimal digits of a number, most significant first. -/
def digits (n : Nat) : List Char := Nat.toDigits 10 n

/-- The interval of reals that round to a double, in quarters of a unit: its ends, and whether
they belong to it. -/
structure Interval where
  low : Nat
  value : Nat
  high : Nat
  closed : Bool

/-- The rounding interval of a positive finite double. The lower half is a quarter step where the
fraction is zero, since the doubles below are twice as dense there. -/
def Interval.ofFields (f : Scaled.Fields) : Interval :=
  let step := if f.exponent ≤ 1 then 1 else Nat.pow 2 (f.exponent - 1)
  let below := if f.fraction = 0 ∧ 1 < f.exponent then step else 2 * step
  let value := 4 * f.magnitude
  { low := value - below, value, high := value + 2 * step, closed := f.fraction % 2 == 0 }

/-- Whether the fraction `num / den` lies in the interval. -/
def Interval.contains (i : Interval) (num den : Nat) : Bool :=
  if i.closed then i.low * den ≤ num && num ≤ i.high * den
  else i.low * den < num && num < i.high * den

/-- The exponent `e` with `10 ^ (e - 1) ≤ value < 10 ^ e`. -/
def Interval.exponent (i : Interval) : Int :=
  ((digits (i.value * Nat.pow 10 400 / (4 * Scaled.one))).length : Int) - 400

/-- The point of the grid `10 ^ g` that reads back as the double, the nearer one if both
neighbours do; a tie goes to the even point. -/
def Interval.onGrid (i : Interval) (g : Int) : Option Nat :=
  -- A point `c` is worth `c * unit / den` quarters of a unit.
  let unit := 4 * Scaled.one * Nat.pow 10 g.toNat
  let den := Nat.pow 10 (-g).toNat
  let c := i.value * den / unit
  let down := i.contains (c * unit) den && c != 0
  let up := i.contains ((c + 1) * unit) den
  let below := i.value * den - c * unit
  let above := (c + 1) * unit - i.value * den
  match down, up with
  | true, true =>
    some (if below < above || (below == above && c % 2 == 0) then c else c + 1)
  | true, false => some c
  | false, true => some (c + 1)
  | false, false => none

/-- Tries ever finer grids, from `count` digits on. -/
def Interval.search (i : Interval) (count : Nat) : Nat → Nat × Int
  | 0 => (i.value, 0)
  | fuel + 1 =>
    let g := i.exponent - count
    match i.onGrid g with
    | some c => (c, g)
    | none => i.search (count + 1) fuel

/-- The shortest decimal `c * 10 ^ g` that reads back as a positive finite double; seventeen
digits always do. -/
def shortest (f : Scaled.Fields) : Nat × Int :=
  (Interval.ofFields f).search 1 17

/-- Drops the zeros at the end. -/
def trimZeros (ds : List Char) : List Char := (ds.reverse.dropWhile (· == '0')).reverse

/-- The exponent mark, the sign and at least two digits. -/
def exponentText (e : Int) : String :=
  let ds := digits e.natAbs
  "e" ++ (if e < 0 then "-" else "+") ++ String.ofList (if ds.length < 2 then '0' :: ds else ds)

/-- Lays out digits whose value is `0.ds * 10 ^ point`. -/
def layout (ds : List Char) (point : Int) : String :=
  let exponent := point - 1
  if -4 ≤ exponent ∧ exponent < 16 then
    if point ≤ 0 then
      "0." ++ String.ofList (List.replicate (-point).toNat '0' ++ ds)
    else
      let n := point.toNat
      let whole := ds.take n ++ List.replicate (n - ds.length) '0'
      let rest := ds.drop n
      String.ofList whole ++ "." ++ String.ofList (if rest.isEmpty then ['0'] else rest)
  else
    match ds with
    | [] => "0" ++ exponentText exponent
    | [d] => String.ofList [d] ++ exponentText exponent
    | d :: rest => String.ofList (d :: '.' :: rest) ++ exponentText exponent

/-- The text of a double. -/
def ofFloat (x : Float) : String :=
  let f := Scaled.Fields.ofBits x.toBits.toNat
  if f.exponent = 2047 then
    if f.fraction = 0 then (if f.negative then "-inf" else "inf") else "nan"
  else
    let sign := if f.negative then "-" else ""
    if f.magnitude = 0 then sign ++ "0.0"
    else
      let (c, g) := shortest f
      let ds := digits c
      sign ++ layout (trimZeros ds) (ds.length + g)

/-! ## Reading -/

/-- The value of a string of digits. -/
def valueOf (ds : List Char) : Nat := ds.foldl (fun n c => 10 * n + (c.toNat - '0'.toNat)) 0

/-- The digits at the start, single underscores between them dropped, and what follows. -/
def digitRun : List Char → List Char × List Char
  | c :: '_' :: d :: rest =>
    if isDigit c && isDigit d then
      let (ds, tail) := digitRun (d :: rest)
      (c :: ds, tail)
    else if isDigit c then ([c], '_' :: d :: rest)
    else ([], c :: '_' :: d :: rest)
  | c :: rest =>
    if isDigit c then
      let (ds, tail) := digitRun rest
      (c :: ds, tail)
    else ([], c :: rest)
  | [] => ([], [])

/-- Splits an optional sign off; `true` is minus. -/
def signed : List Char → Bool × List Char
  | '-' :: rest => (true, rest)
  | '+' :: rest => (false, rest)
  | rest => (false, rest)

/-- Reads an exponent part, which has to end the text. -/
def exponent? : List Char → Option Int
  | [] => some 0
  | c :: rest =>
    if c == 'e' || c == 'E' then
      let (negative, body) := signed rest
      match digitRun body with
      | ([], _) => none
      | (ds, []) => some (if negative then -(valueOf ds : Int) else valueOf ds)
      | _ => none
    else none

/-- The double nearest to `m * 10 ^ e`. Exponents out of every double's reach are cut off. -/
def scientific (m : Nat) (e : Int) : Float :=
  let size : Int := (digits m).length + e
  if m = 0 then 0.0
  else if 400 < size then 1.0 / 0.0
  else if size < -400 then 0.0
  else if e < 0 then Float.ofScientific m true e.natAbs
  else Float.ofScientific (m * Nat.pow 10 e.natAbs) false 0

/-- Reads an unsigned decimal number. -/
def unsigned? (cs : List Char) : Option Float := do
  let (whole, rest) := digitRun cs
  let (places, rest) := match rest with
    | '.' :: tail => digitRun tail
    | _ => ([], rest)
  if whole.isEmpty && places.isEmpty then none
  let e ← exponent? rest
  return scientific (valueOf (whole ++ places)) (e - places.length)

/-- The double that a text names: a decimal, an infinity or not a number, ignoring case and the
white space around it. The digits may be those of any script. -/
def toFloat? (s : String) : Option Float :=
  let (negative, body) := signed ((trim isWhite s.toList).map plainDigit)
  let magnitude := match String.ofList (body.map Char.toLower) with
    | "inf" | "infinity" => some (1.0 / 0.0)
    | "nan" => some (0.0 / 0.0)
    | _ => unsigned? body
  magnitude.map fun x => if negative then -x else x

end FluentSql.Decimal
