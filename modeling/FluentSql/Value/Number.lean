import FluentSql.Error
import FluentSql.Text.Integer
import FluentSql.Value.Equality

set_option autoImplicit false

/-!
# Arithmetic on values

Truth values and integers add exactly; as soon as one side is a double, both are, and an integer
out of the range of doubles is an overflow. Texts, lists, tuples and octets add by concatenation.

## Main definitions

* `FluentSql.Number` — an integer or a double.
* `FluentSql.Value.add`, `FluentSql.Value.negate` — sums and negation of values.
* `FluentSql.Value.toInteger` — the integer that a reported count stands for.
-/

namespace FluentSql

/-- An integer or a double. -/
inductive Number where
  | int (n : Int)
  | float (x : Float)
  deriving Inhabited

namespace Number

/-- The number as a double; an integer out of range is an overflow. -/
def toFloat : Number → Except Error Float
  | .int n =>
    match floatOfInt? n with
    | some x => .ok x
    | none => .error .overflow
  | .float x => .ok x

/-- The exact value of a number. -/
def scaled : Number → Scaled
  | .int n => .ofInt n
  | .float x => .ofFloat x

/-- Applies an operation exactly to two integers and in doubles otherwise. -/
def combine (ints : Int → Int → Int) (floats : Float → Float → Float) :
    Number → Number → Except Error Number
  | .int m, .int n => .ok (.int (ints m n))
  | a, b => do
    let x ← a.toFloat
    let y ← b.toFloat
    return .float (floats x y)

/-- The sum. -/
def add : Number → Number → Except Error Number := combine (· + ·) (· + ·)

/-- The difference. -/
def sub : Number → Number → Except Error Number := combine (· - ·) (· - ·)

/-- The product. -/
def mul : Number → Number → Except Error Number := combine (· * ·) (· * ·)

/-- The negation. -/
def negate : Number → Number
  | .int n => .int (-n)
  | .float x => .float (-x)

/-- The number as a value. -/
def toValue : Number → Value
  | .int n => .int n
  | .float x => .float x

end Number

namespace Value

/-- The number that a value is, truth values counting as 0 and 1. -/
def number? : Value → Option Number
  | .bool b => some (.int (if b then 1 else 0))
  | .int n => some (.int n)
  | .float x => some (.float x)
  | .nan _ => some (.float (0.0 / 0.0))
  | _ => none

/-- The number that a value is; anything else is of the wrong type. -/
def number (v : Value) : Except Error Number :=
  match v.number? with
  | some n => .ok n
  | none => .error .wrongType

/-- The sum of two values. -/
def add (v w : Value) : Except Error Value :=
  match v.bare, w.bare with
  | .text s, .text t => .ok (.text (s ++ t))
  | .list xs, .list ys => .ok (.list (xs ++ ys))
  | .tuple xs, .tuple ys => .ok (.tuple (xs ++ ys))
  | .bytes a, .bytes b => .ok (.bytes (a ++ b))
  | v, w => do
    let m ← v.number
    let n ← w.number
    return (← m.add n).toValue

/-- The negation of a number. -/
def negate (v : Value) : Except Error Value := do
  return (← v.number).negate.toValue

/-- The larger of 1 and a number; 1 where the two are equal or unordered. -/
def atLeastOne (v : Value) : Except Error Value := do
  let n ← v.number
  return if (Scaled.ofInt 1).less n.scaled then v else .int 1

/-- The integer that a value stands for: doubles are cut towards zero, texts are read. -/
def toInteger : Value → Except Error Int
  | .bool b => .ok (if b then 1 else 0)
  | .int n => .ok n
  | .float x =>
    match Scaled.ofFloat x with
    | .nan => .error .wrongValue
    | .infinite _ => .error .overflow
    | .multiple count => .ok (count.tdiv Scaled.one)
  | .nan _ => .error .wrongValue
  | .text s => ((Integer.ofText? s).map Except.ok).getD (.error .wrongValue)
  | .bytes octets => ((Integer.ofOctets? octets).map Except.ok).getD (.error .wrongValue)
  | _ => .error .wrongType

end Value

end FluentSql
