import FluentSql.Text.Printable

set_option autoImplicit false

/-!
# Quoted text

Two quoted forms of a text. The first stands in messages: single quotes, or double ones where the
text holds a single quote and no double one; the quote in use and the backslash take a backslash,
and every other character that is not printable is written as an escape. The second is the string
form of JSON, restricted to ASCII: what lies outside is written in units of sixteen bits.

## Main definitions

* `FluentSql.Quoted.text` — the form used in messages.
* `FluentSql.Quoted.octets` — the same for a string of octets.
* `FluentSql.Quoted.json` — the form used in JSON.
-/

namespace FluentSql.Quoted

/-- The `width` lowest hexadecimal digits of a number, in lower case. -/
def hex (width n : Nat) : List Char :=
  let ds := Nat.toDigits 16 n
  List.replicate (width - ds.length) '0' ++ ds

/-- The quote around a text: double only if the text holds a single quote and no double one. -/
def quoteOf (cs : List Char) : Char :=
  if cs.contains '\'' && !cs.contains '"' then '"' else '\''

/-- An escape by code point: two, four or eight digits. -/
def codeEscape (n : Nat) : List Char :=
  if n < 0x100 then '\\' :: 'x' :: hex 2 n
  else if n < 0x10000 then '\\' :: 'u' :: hex 4 n
  else '\\' :: 'U' :: hex 8 n

/-- The written form of a character between quotes. -/
def escape (quote c : Char) : List Char :=
  if c == quote || c == '\\' then ['\\', c]
  else if c == '\n' then ['\\', 'n']
  else if c == '\r' then ['\\', 'r']
  else if c == '\t' then ['\\', 't']
  else if Printable.isPrintable c then [c]
  else codeEscape c.toNat

/-- The quoted form of a text in messages. -/
def text (s : String) : String :=
  let cs := s.toList
  let quote := quoteOf cs
  String.ofList (quote :: cs.flatMap (escape quote) ++ [quote])

/-- The quoted form of a string of octets; octets outside ASCII are escaped. -/
def octets (bs : List UInt8) : String :=
  let cs := bs.map fun b => Char.ofNat b.toNat
  let quote := quoteOf cs
  let write (c : Char) : List Char :=
    if 0x7f ≤ c.toNat then codeEscape c.toNat else escape quote c
  String.ofList ('b' :: quote :: cs.flatMap write ++ [quote])

/-- The units of sixteen bits of a character. -/
def units16 (c : Char) : List Nat :=
  let n := c.toNat
  if n < 0x10000 then [n]
  else [0xD800 + (n - 0x10000) / 0x400, 0xDC00 + (n - 0x10000) % 0x400]

/-- The written form of a character in a JSON string. -/
def jsonEscape (c : Char) : List Char :=
  if c == '"' || c == '\\' then ['\\', c]
  else if c == '\n' then ['\\', 'n']
  else if c == '\r' then ['\\', 'r']
  else if c == '\t' then ['\\', 't']
  else if c.toNat == 8 then ['\\', 'b']
  else if c.toNat == 12 then ['\\', 'f']
  else if ' ' ≤ c && c ≤ '~' then [c]
  else (units16 c).flatMap fun unit => '\\' :: 'u' :: hex 4 unit

/-- The JSON string form of a text, in ASCII. -/
def json (s : String) : String :=
  String.ofList ('"' :: s.toList.flatMap jsonEscape ++ ['"'])

end FluentSql.Quoted
