import FluentSql.Value.Access

set_option autoImplicit false

/-!
# Checking records

A record is read from a mapping field by field, and everything wrong with it is reported, not only
the first thing: issues of the fields in the order of declaration, then the names that are no
fields. Readers for the field types accept what stands for the type without loss: an integral
double or a text of digits for an integer, the usual words for a truth value.

## Main definitions

* `FluentSql.Checked` — a value, or the issues that led to its rejection; an applicative that
  collects issues.
* `FluentSql.Checked.required`, `FluentSql.Checked.optional` — fields of a record.
* `FluentSql.Checked.text`, `.integer`, `.truth`, `.word`, `.sequence` — readers.
-/

namespace FluentSql

/-- A value that was accepted, or the issues for which it was rejected. -/
inductive Checked (α : Type) where
  | accepted (a : α)
  | rejected (issues : List Issue)
  deriving Inhabited

namespace Checked

variable {α β : Type}

/-- Applies an accepted function to an accepted value; the issues of both sides are collected. -/
def ap (f : Checked (α → β)) (x : Unit → Checked α) : Checked β :=
  match f, x () with
  | .accepted g, .accepted a => .accepted (g a)
  | .accepted _, .rejected issues => .rejected issues
  | .rejected issues, .accepted _ => .rejected issues
  | .rejected issues, .rejected more => .rejected (issues ++ more)

/-- Applies a function to an accepted value. -/
def map (f : α → β) : Checked α → Checked β
  | .accepted a => .accepted (f a)
  | .rejected issues => .rejected issues

instance : Functor Checked where
  map := map

instance : Applicative Checked where
  pure := .accepted
  seq := ap
  map := map

/-- Rejection for one problem with the value itself. -/
def reject (problem : Problem) : Checked α := .rejected [⟨[], problem⟩]

/-- Puts a step in front of the locations of issues. -/
def located (step : Location) (issues : List Issue) : List Issue :=
  issues.map fun issue => ⟨step :: issue.location, issue.problem⟩

/-- Puts a step in front of the locations of all issues of a check. -/
def under (step : Location) : Checked α → Checked α
  | .accepted a => .accepted a
  | .rejected issues => .rejected (located step issues)

/-- The outcome of a check as that of a call. -/
def toExcept : Checked α → Except Error α
  | .accepted a => .ok a
  | .rejected issues => .error (.invalid issues)

/-! ## Fields of records -/

/-- A field that has to be present. -/
def required (fs : Fields) (name : String) (read : Value → Checked α) : Checked α :=
  under (.field name) <|
    match Fields.get? fs name with
    | some v => read v
    | none => reject .missing

/-- A field with a default. -/
def optional (fs : Fields) (name : String) (default : α) (read : Value → Checked α) : Checked α :=
  match Fields.get? fs name with
  | some v => under (.field name) (read v)
  | none => .accepted default

/-- A field that has been read already, if it is there at all. -/
def optionalRead (name : String) (default : α) : Option (Checked α) → Checked α
  | some read => under (.field name) read
  | none => .accepted default

/-- A field that has been read already and has to be there. -/
def requiredRead (name : String) : Option (Checked α) → Checked α
  | some read => under (.field name) read
  | none => under (.field name) (reject .missing)

/-- Adds an issue for each key that is no field of the record. -/
def closed (names : List String) (fs : Fields) (record : Checked α) : Checked α :=
  let extra := (fs.keys.map Value.display).filter fun name => !names.contains name
  let issues := extra.map fun name => (⟨[.field name], .extraForbidden⟩ : Issue)
  match record, issues with
  | .accepted a, [] => .accepted a
  | .accepted _, issues => .rejected issues
  | .rejected found, issues => .rejected (found ++ issues)

/-! ## Readers -/

/-- Reads any value. -/
def anything (v : Value) : Checked Value := .accepted v

/-- The text that octets encode in UTF-8. -/
def decodeOctets? (octets : List UInt8) : Option String :=
  String.fromUTF8? ⟨octets.toArray⟩

/-- Reads a text, or octets that encode one. -/
def text : Value → Checked String
  | .text s => .accepted s
  | .bytes octets => ((decodeOctets? octets).map .accepted).getD (reject .stringUnicode)
  | _ => reject .stringType

/-- Reads a word of a vocabulary. -/
def word (ofKeyword? : String → Option α) : Value → Checked α
  | .text s => ((ofKeyword? s).map .accepted).getD (reject .literalError)
  | _ => reject .literalError

/-- Whether an integer fits in 64 bits with a sign. -/
def fits64 (n : Int) : Bool := -9223372036854775808 ≤ n && n < 9223372036854775808

/-- Reads the integer that a number is. -/
def integral (x : Scaled) : Checked Int :=
  match x with
  | .nan | .infinite _ => reject .finiteNumber
  | .multiple _ =>
    match x.toInt? with
    | none => reject .intFromFloat
    | some n =>
      if fits64 n && n != -9223372036854775808 then .accepted n else reject .intParsingSize

/-- Reads an integer from a text. -/
def integerText (s : String) : Checked Int :=
  match Integer.ofRecord s with
  | .number n => .accepted n
  | .malformed => reject .intParsing
  | .oversized => reject .intParsingSize

/-- Reads an integer. -/
def integer : Value → Checked Int
  | .bool b => .accepted (if b then 1 else 0)
  | .int n => .accepted n
  | .float x => integral (.ofFloat x)
  | .nan _ => reject .finiteNumber
  | .text s => integerText s
  | .bytes octets => ((decodeOctets? octets).map integerText).getD (reject .intParsing)
  | _ => reject .intType

/-- The truth value that a word stands for. -/
def truthWord? (s : String) : Option Bool :=
  let w := String.ofList (s.toList.map Char.toLower)
  if ["1", "true", "t", "yes", "y", "on"].contains w then some true
  else if ["0", "false", "f", "no", "n", "off"].contains w then some false
  else none

/-- The truth value that an integer stands for. -/
def truthInt (n : Int) : Checked Bool :=
  if n = 0 then .accepted false else if n = 1 then .accepted true else reject .boolParsing

/-- Reads a truth value. -/
def truth : Value → Checked Bool
  | .bool b => .accepted b
  | .int n => if fits64 n then truthInt n else reject .boolType
  | .float x =>
    match integral (.ofFloat x) with
    | .accepted n => truthInt n
    | .rejected _ => reject .boolType
  | .nan _ => reject .boolType
  | .text s => ((truthWord? s).map .accepted).getD (reject .boolParsing)
  | .bytes octets =>
    (((decodeOctets? octets).bind truthWord?).map .accepted).getD (reject .boolParsing)
  | _ => reject .boolType

/-- Reads null or something. -/
def nullable (read : Value → Checked α) : Value → Checked (Option α)
  | .null => .accepted none
  | v => (read v).map some

/-- Reads the items of a sequence, numbered from `i`. -/
def itemsFrom (read : Value → Checked α) (i : Nat) : List Value → Checked (List α)
  | [] => .accepted []
  | x :: xs => (under (.index i) (read x)).map List.cons |>.ap fun _ => itemsFrom read (i + 1) xs

/-- The items that a fragment has in the place of a sequence: its one field. -/
def fragmentItems (sql : String) : List Value := [.tuple ["sql", .text sql]]

/-- Reads a list or a tuple, or the fields of a fragment. -/
def sequence (read : Value → Checked α) (v : Value) : Checked (List α) :=
  match v.bare with
  | .list xs | .tuple xs => itemsFrom read 0 xs
  | .raw sql => itemsFrom read 0 (fragmentItems sql)
  | _ => reject .listType

/-- Reads exactly two values. -/
def two (v : Value) : Checked (Value × Value) :=
  let exactly : List Value → Checked (Value × Value)
    | [] => .rejected [⟨[.index 0], .missing⟩, ⟨[.index 1], .missing⟩]
    | [_] => .rejected [⟨[.index 1], .missing⟩]
    | [a, b] => .accepted (a, b)
    | _ => reject .tooLong
  match v.bare with
  | .list xs | .tuple xs => exactly xs
  | .raw sql => exactly (fragmentItems sql)
  | _ => reject .tupleType

/-- Reads a mapping; anything else has the given problem. -/
def mapping (otherwise : Problem) (read : Fields → Checked α) : Value → Checked α
  | .map fs => read fs
  | _ => reject otherwise

end Checked

end FluentSql
