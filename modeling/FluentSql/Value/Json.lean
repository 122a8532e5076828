import FluentSql.Error

set_option autoImplicit false

/-!
# JSON text of values

Plain data has a JSON text: a comma and a blank between items, a colon and a blank after keys,
and ASCII only. Infinities and what is not a number are written by name; tuples are arrays. Keys
that are numbers, truth values or null are written as texts. A list inside itself has no text.

## Main definitions

* `FluentSql.Value.json` — the JSON text of a value; what is no plain data has none.
-/

namespace FluentSql.Value

/-- The JSON text of a double. -/
def jsonFloat (x : Float) : String :=
  match Scaled.ofFloat x with
  | .nan => "NaN"
  | .infinite negative => if negative then "-Infinity" else "Infinity"
  | .multiple _ => Decimal.ofFloat x

/-- The JSON text of a key. -/
def jsonKey : Value → Except Error String
  | .text s => .ok (Quoted.json s)
  | .int n => .ok (Quoted.json (toString n))
  | .float x => .ok (Quoted.json (jsonFloat x))
  | .nan _ => .ok (Quoted.json "NaN")
  | .bool b => .ok (Quoted.json (if b then "true" else "false"))
  | .null => .ok (Quoted.json "null")
  | _ => .error .wrongType

mutual

/-- The JSON text of a value. -/
def json : Value → Except Error String
  | .null => .ok "null"
  | .bool b => .ok (if b then "true" else "false")
  | .int n => .ok (toString n)
  | .float x => .ok (jsonFloat x)
  | .nan _ => .ok "NaN"
  | .text s => .ok (Quoted.json s)
  | .list xs | .tuple xs => do return bracketed "[" "]" (← jsonItems xs)
  | .map fs => do return bracketed "\x7b" "\x7d" (← jsonFields fs)
  | .view _ seen => json seen
  | .again => .error .wrongValue
  | _ => .error .wrongType

/-- The JSON texts of items. -/
def jsonItems : List Value → Except Error (List String)
  | [] => .ok []
  | x :: xs => do
    let t ← json x
    return t :: (← jsonItems xs)

/-- The JSON texts of entries. -/
def jsonFields : List (Value × Value) → Except Error (List String)
  | [] => .ok []
  | (key, x) :: rest => do
    let k ← jsonKey key
    let t ← json x
    return (k ++ ": " ++ t) :: (← jsonFields rest)

end

end FluentSql.Value
