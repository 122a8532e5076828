import FluentSql.Value

set_option autoImplicit false

/-!
# Equality of values

Two values are equal when they are the same data. Truth values count as the integers 0 and 1, and
integers and doubles compare as exact numbers; what is not a number differs from everything.
Mappings ignore order, lists differ from tuples, and moments compare as instants where both have
an offset. Builders and functions are equal only to themselves. A view is equal to what it shows.

Two values agree when they are equal or one and the same: the only difference is that an
occurrence of what is not a number agrees with itself. The keys of mappings, the members of sets
and the parts of composite values are compared so.

## Main definitions

* `FluentSql.Value.equal`, `FluentSql.Value.agrees` — equality of values, and agreement.
* `FluentSql.Value.hashable` — whether a value may be a key or a member of a set.
-/

namespace FluentSql.Value

/-- The exact number that a value is, if it is one. -/
def scaled? : Value → Option Scaled
  | .bool b => some (.ofInt (if b then 1 else 0))
  | .int n => some (.ofInt n)
  | .float x => some (.ofFloat x)
  | .nan _ => some .nan
  | _ => none

/-- Equality of two numbers; false if either value is no number. -/
def equalNumbers (v w : Value) : Bool :=
  match v.scaled?, w.scaled? with
  | some a, some b => a.same b
  | _, _ => false

mutual

/-- Equality of values; with `marked`, occurrences of what is not a number are told by their
marks. -/
def same (v : Value) (marked : Bool) (w : Value) : Bool :=
  match v, w.bare with
  | .view _ seen, w => same seen marked w
  | .null, w => w.isNull
  | .nan a, .nan b => marked && a == b
  | .text s, .text t => s == t
  | .list xs, .list ys => sameItems xs ys
  | .tuple xs, .tuple ys => sameItems xs ys
  | .map xs, .map ys => xs.length == ys.length && sameFields xs ys
  | .bytes a, .bytes b => a == b
  | .moment s, .moment t => s.same t
  | .writeResult c l, .writeResult c' l' => same c true c' && same l true l'
  | .queryResult d a l, .queryResult d' a' l' =>
    same d true d' && same a true a' && same l true l'
  | .object xs, .object ys => xs.length == ys.length && sameFields xs ys
  | .raw s, .raw t => s == t
  | .record k xs, .record k' ys => k == k' && xs.length == ys.length && sameFields xs ys
  | .statement s xs, .statement t ys => s == t && sameItems xs ys
  | .builder a _, .builder b _ => a == b
  | .function a _ _, .function b _ _ => a == b
  | v, w => equalNumbers v w

/-- Agreement of lists of values, item by item. -/
def sameItems (xs ys : List Value) : Bool :=
  match xs, ys with
  | [], [] => true
  | x :: xs, y :: ys => same x true y && sameItems xs ys
  | _, _ => false

/-- Whether every entry of the first mapping has one in the second that agrees with it. -/
def sameFields (xs ys : List (Value × Value)) : Bool :=
  match xs with
  | [] => true
  | (key, x) :: rest =>
    (match ys.find? fun p => same key true p.1 with
      | some p => same x true p.2
      | none => false) && sameFields rest ys

end

/-- Equality of values. -/
def equal (v w : Value) : Bool := v.same false w

/-- Whether two values are equal or one and the same. -/
def agrees (v w : Value) : Bool := v.same true w

mutual

/-- Whether a value may be a key of a mapping or a member of a set. -/
def hashable : Value → Bool
  | .list _ | .map _ | .queryResult .. | .object _ | .raw _ | .statement .. | .record ..
  | .view .. | .again => false
  | .tuple items => hashableItems items
  | .writeResult changes lastId => hashable changes && hashable lastId
  | _ => true

/-- Whether all items may be members of a set. -/
def hashableItems : List Value → Bool
  | [] => true
  | x :: xs => hashable x && hashableItems xs

end

end FluentSql.Value
