import FluentSql.Number.Decimal
import FluentSql.Text.Quoted
import FluentSql.Value

set_option autoImplicit false

/-!
# Display of values

A value has two texts. The quoted one shows its structure: texts in quotes, sequences in brackets,
objects by the name of their kind and their parts. The plain one is the same except that a text
is itself, a moment is its date and time, and a fragment or a record drops the name of its kind.

## Main definitions

* `FluentSql.Value.quoted` — the text that shows the structure.
* `FluentSql.Value.display` — the plain text.
-/

namespace FluentSql.Value

/-- The arguments shown for a zone: none for universal time, else a duration. -/
def zoneText (offset : Int) : String :=
  if offset = 0 then "datetime.timezone.utc"
  else
    let days := offset / 86400
    let seconds := offset % 86400
    let parts := (if days = 0 then [] else ["days=" ++ toString days]) ++
      (if seconds = 0 then [] else ["seconds=" ++ toString seconds])
    "datetime.timezone(datetime.timedelta(" ++ String.intercalate ", " parts ++ "))"

/-- The quoted text of a moment: its fields down to the last one that is not zero, at least down
to the minute, and its zone. -/
def momentText (t : Moment) : String :=
  let clock := [t.year, t.month, t.day, t.hour, t.minute] ++
    (if t.second = 0 ∧ t.microsecond = 0 then [] else [t.second]) ++
    (if t.microsecond = 0 then [] else [t.microsecond])
  let zone := match t.offset with
    | none => []
    | some offset => ["tzinfo=" ++ zoneText offset]
  "datetime.datetime(" ++ String.intercalate ", " (clock.map toString ++ zone) ++ ")"

/-- Wraps the texts of items in brackets, a comma between them. -/
def bracketed (left right : String) (items : List String) : String :=
  left ++ String.intercalate ", " items ++ right

mutual

/-- The text that shows the structure of a value. -/
def quoted : Value → String
  | .null => "None"
  | .bool b => if b then "True" else "False"
  | .int n => toString n
  | .float x => Decimal.ofFloat x
  | .nan _ => "nan"
  | .text s => Quoted.text s
  | .list items => bracketed "[" "]" (quotedItems items)
  | .tuple [item] => "(" ++ quoted item ++ ",)"
  | .tuple items => bracketed "(" ")" (quotedItems items)
  | .map fields => bracketed "\x7b" "\x7d" (quotedFields fields)
  | .bytes octets => Quoted.octets octets
  | .moment t => momentText t
  | .writeResult changes lastId =>
    "WriteResult(changes=" ++ quoted changes ++ ", last_insert_rowid=" ++ quoted lastId ++ ")"
  | .queryResult data affected lastId =>
    "QueryResult(data=" ++ quoted data ++ ", affected_rows=" ++ quoted affected ++
      ", last_insert_id=" ++ quoted lastId ++ ")"
  | .object attributes => bracketed "namespace(" ")" (quotedAttributes attributes)
  | .raw sql => "RawExpression(sql=" ++ Quoted.text sql ++ ")"
  | .statement sql bindings =>
    "CompiledSQL(sql=" ++ Quoted.text sql ++ ", bindings=" ++
      bracketed "[" "]" (quotedItems bindings) ++ ")"
  | .builder _ table => "QueryBuilder(" ++ Quoted.text table ++ ")"
  | .record kind fields => bracketed (kind ++ "(") ")" (quotedAttributes fields)
  | .view _ seen => quoted seen
  | .again => "[...]"
  | .function .. => "<function>"

/-- The quoted texts of items. -/
def quotedItems : List Value → List String
  | [] => []
  | x :: xs => quoted x :: quotedItems xs

/-- The quoted texts of the entries of a mapping. -/
def quotedFields : List (Value × Value) → List String
  | [] => []
  | (key, x) :: rest => (quoted key ++ ": " ++ quoted x) :: quotedFields rest

/-- The quoted texts of attributes, their names without quotes; one with an empty name is not
shown. -/
def quotedAttributes : List (Value × Value) → List String
  | [] => []
  | (.text "", _) :: rest => quotedAttributes rest
  | (.text name, x) :: rest => (name ++ "=" ++ quoted x) :: quotedAttributes rest
  | (name, x) :: rest => (quoted name ++ "=" ++ quoted x) :: quotedAttributes rest

end

/-- The plain text of a value. -/
def display : Value → String
  | .text s => s
  | .moment t => t.iso " "
  | .raw sql => "sql=" ++ Quoted.text sql
  | .record _ fields => String.intercalate " " (quotedAttributes fields)
  | .view _ seen => seen.display
  | v => v.quoted

/-- The quoted text of a list of texts. -/
def quotedTexts (names : List String) : String := bracketed "[" "]" (names.map Quoted.text)

end FluentSql.Value
