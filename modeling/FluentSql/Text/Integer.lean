import FluentSql.Text.Character

set_option autoImplicit false

/-!
# Integers written as text

Reads an integer from text. Two grammars are in use, and neither takes more than 4300 digits.

The liberal one ignores white space around the number, allows a sign in front, takes the decimal
digits of any script and allows single underscores between them. Octets are read in the same way,
but as ASCII.

The one for records reads strictly, or else cleans up and reads strictly again. The strict reading
takes ASCII digits without a leading zero, perhaps after a minus sign. White space around the number
and a plus sign are cleaned away, and so are leading zeros, zeros after a point along with the
point, and single underscores. Leading zeros may have a minus sign after them if no other one was
in front.

## Main definitions

* `FluentSql.Integer.ofText?`, `FluentSql.Integer.ofOctets?` — the liberal grammar.
* `FluentSql.Integer.ofRecord` — the grammar for records.
-/

namespace FluentSql.Integer

open Character

/-- The largest number of digits that is read. -/
def digitLimit : Nat := 4300

/-! ## The liberal grammar -/

/-- Reads digits, single underscores allowed between them, to the end of the text; `n` is the
value so far and `expecting` says that a digit has to come next. -/
def digits? (digit : Char → Option Nat) (expecting : Bool) (n : Nat) : List Char → Option Nat
  | [] => if expecting then none else some n
  | '_' :: rest => if expecting then none else digits? digit true n rest
  | c :: rest =>
    match digit c with
    | some d => digits? digit false (10 * n + d) rest
    | none => none

/-- Reads digits unless there are too many. -/
def limited? (digit : Char → Option Nat) (cs : List Char) : Option Nat :=
  if digitLimit < cs.countP (· != '_') then none else digits? digit true 0 cs

/-- Splits an optional sign off and applies it to what the rest reads as. -/
def withSign (read : List Char → Option Nat) : List Char → Option Int
  | '-' :: rest => (read rest).map fun n => -(n : Int)
  | '+' :: rest => (read rest).map Int.ofNat
  | rest => (read rest).map Int.ofNat

/-- Reads an integer from a text. -/
def ofText? (s : String) : Option Int := withSign (limited? digit?) (trim isWhite s.toList)

/-- Reads an integer from octets. -/
def ofOctets? (octets : List UInt8) : Option Int :=
  withSign (limited? asciiDigit?) (trim isBlank (octets.map fun b => Char.ofNat b.toNat))

/-! ## The grammar for records -/

/-- What reading an integer for a record came to. -/
inductive Reading where
  | number (n : Int)
  | malformed
  /-- There are too many digits. -/
  | oversized
  deriving DecidableEq, Repr, Inhabited

/-! ### The strict reading -/

/-- The strict reading of an unsigned number. Too many digits are noticed before what follows
them. -/
def strict (cs : List Char) : Reading :=
  let run := cs.takeWhile isDigit
  let leadingZero := run.head? == some '0' && run != ['0']
  if run.isEmpty || leadingZero then .malformed
  else if digitLimit < run.length then .oversized
  else if run != cs then .malformed
  else .number (run.foldl (fun n c => 10 * n + (c.toNat - '0'.toNat)) 0 : Nat)

/-- The reading of a number with a minus sign in front. -/
def negated : Reading → Reading
  | .number n => .number (-n)
  | other => other

/-- The strict reading of a number that may have a minus sign in front. -/
def strictSigned : List Char → Reading
  | '-' :: cs => negated (strict cs)
  | cs => strict cs

/-! ### Cleaning up -/

/-- Splits a sign off and tells whether the number is negative; a minus sign may not follow a plus
sign. -/
def splitSign? : List Char → Option (Bool × List Char)
  | '+' :: '-' :: _ => none
  | '+' :: rest => some (false, rest)
  | '-' :: rest => some (true, rest)
  | cs => some (false, cs)

/-- Drops zeros and underscores up to the first other digit or a minus sign; before a point and
before the end the last of them stays. -/
def dropZerosAfter (last : Char) : List Char → Option (List Char)
  | [] => some [last]
  | c :: rest =>
    if c == '0' || c == '_' then dropZerosAfter c rest
    else if c == '.' then some (last :: c :: rest)
    else if isDigit c || c == '-' then some (c :: rest)
    else none

/-- Drops leading zeros. -/
def dropZeros? : List Char → Option (List Char)
  | [] => none
  | c :: rest =>
    if c == '0' then dropZerosAfter c rest
    else if isDigit c || c == '-' then some (c :: rest)
    else none

/-- Drops a point with nothing but zeros after it. -/
def dropPlaces (cs : List Char) : List Char :=
  match cs.dropWhile (· != '.') with
  | _ :: '0' :: places => if places.all (· == '0') then cs.takeWhile (· != '.') else cs
  | _ => cs

/-- Drops underscores that stand singly between other characters; any other one stays, and with it
all. -/
def dropUnderscores (cs : List Char) : List Char :=
  let doubled := (cs.zip cs.tail).contains ('_', '_')
  if cs.head? == some '_' || cs.getLast? == some '_' || doubled then cs
  else cs.filter (· != '_')

/-- A text cleaned up for the strict reading, if it can be. -/
def clean? (cs : List Char) : Option (List Char) := do
  let (negative, cs) ← splitSign? (trim isWhite cs)
  let cs := dropUnderscores (dropPlaces (← dropZeros? cs))
  return if negative then '-' :: cs else cs

/-- Reads an integer for a record: strictly as it is, or else strictly once it is cleaned up. Only
too many digits of the text as it is are told from other faults. -/
def ofRecord (s : String) : Reading :=
  match strictSigned s.toList with
  | .malformed =>
    match (clean? s.toList).map strictSigned with
    | some (.number n) => .number n
    | _ => .malformed
  | reading => reading

end FluentSql.Integer
