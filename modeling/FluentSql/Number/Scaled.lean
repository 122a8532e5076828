set_option autoImplicit false

/-!
# Exact reals behind doubles

A finite double is an integer multiple of `2 ^ (-1074)`, so every finite double and every integer
is named by one integer: the multiple. Comparing numbers of both kinds is then comparing integers,
with no rounding anywhere.

## Main definitions

* `FluentSql.Scaled` — a multiple of `2 ^ (-1074)`, an infinity, or not a number.
* `FluentSql.Scaled.ofFloat`, `FluentSql.Scaled.ofInt` — the exact reading of either kind.
* `FluentSql.Scaled.same`, `FluentSql.Scaled.less` — numeric equality and order; what is not a
  number is unequal to everything and unordered.
-/

namespace FluentSql

/-- An extended real: a multiple of `2 ^ (-1074)`, an infinity, or not a number. -/
inductive Scaled where
  | nan
  | infinite (negative : Bool)
  | multiple (count : Int)
  deriving DecidableEq, Repr, Inhabited

namespace Scaled

/-- How many units make one: `2 ^ 1074`. -/
def one : Nat := Nat.pow 2 1074

/-- The three fields of a double: sign, biased exponent and fraction. -/
structure Fields where
  negative : Bool
  exponent : Nat
  fraction : Nat
  deriving DecidableEq, Repr

/-- Cuts the 64 bits of a double into its fields. -/
def Fields.ofBits (bits : Nat) : Fields :=
  { negative := bits / Nat.pow 2 63 % 2 == 1
    exponent := bits / Nat.pow 2 52 % 2048
    fraction := bits % Nat.pow 2 52 }

/-- The magnitude of a finite double, counted in units. -/
def Fields.magnitude (f : Fields) : Nat :=
  if f.exponent = 0 then f.fraction else (Nat.pow 2 52 + f.fraction) * Nat.pow 2 (f.exponent - 1)

/-- The number that the fields stand for. -/
def ofFields (f : Fields) : Scaled :=
  if f.exponent = 2047 then
    if f.fraction = 0 then .infinite f.negative else .nan
  else
    .multiple (if f.negative then -(f.magnitude : Int) else f.magnitude)

/-- The number that a double stands for. -/
def ofFloat (x : Float) : Scaled := ofFields (.ofBits x.toBits.toNat)

/-- The number that an integer stands for. -/
def ofInt (n : Int) : Scaled := .multiple (n * one)

/-- Numeric equality. -/
def same : Scaled → Scaled → Bool
  | .infinite a, .infinite b => a == b
  | .multiple m, .multiple n => m == n
  | _, _ => false

/-- Numeric order; false as soon as one side is not a number. -/
def less : Scaled → Scaled → Bool
  | .nan, _ | _, .nan => false
  | .infinite a, .infinite b => a && !b
  | .infinite a, .multiple _ => a
  | .multiple _, .infinite b => !b
  | .multiple m, .multiple n => decide (m < n)

/-- The integer part, towards zero, of a finite number. -/
def truncate : Scaled → Option Int
  | .multiple m => some (m.tdiv one)
  | _ => none

/-- The integer that a number is, if it is one. -/
def toInt? : Scaled → Option Int
  | .multiple m => if m % one = 0 then some (m / one) else none
  | _ => none

end Scaled

/-- The least magnitude that rounds beyond the largest finite double. -/
def floatOverflow : Nat := Nat.pow 2 1024 - Nat.pow 2 970

/-- The double nearest to an integer, if the integer is in range. -/
def floatOfInt? (n : Int) : Option Float :=
  if floatOverflow ≤ n.natAbs then none
  else
    let magnitude := Float.ofScientific n.natAbs false 0
    some (if n < 0 then -magnitude else magnitude)

end FluentSql
