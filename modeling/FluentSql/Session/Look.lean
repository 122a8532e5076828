import FluentSql.Builder.Record
import FluentSql.Session

set_option autoImplicit false

/-!
# Looking at values

Values may refer to builders of the session and to what their queries hold. Such a value is looked
at again before it is used, so that it is what it has come to by then; to write it down, the queries
in it are written as plain mappings, to any depth; and to copy it, the builders that it refers to,
directly or through others, are copied along. A query that holds itself is never written down to the
end, but it can be looked at and copied.

## Main definitions

* `FluentSql.Session.current` — a value with its views looked at again.
* `FluentSql.Session.plain` — a value written plainly.
* `FluentSql.Session.shown`, `FluentSql.Session.sight` — values as they are shown.
* `FluentSql.Session.copyBuilders` — copies of builders and of those that they refer to.
-/

namespace FluentSql.Session

/-! ## Looking -/

/-- What a source shows. -/
def contents (s : Session) (source : Source) : Value :=
  match s.builders.get? source.builder with
  | some b => b.contents source
  | none => .null

/-- The number of sources in a session. -/
def sourceCount (s : Session) : Nat :=
  s.builders.items.foldl (fun n b => n + b.sourceCount) 0

/-- The view of a source, down to a depth. What was met on the way is not looked into again: a list
inside itself, or a query inside itself with no list between. -/
def look (s : Session) : Nat → List Source → Source → Value
  | 0, _, source => .view source .again
  | depth + 1, met, source =>
    if met.contains source then .view source .again
    else
      let met := if source.isPart then source :: met.filter Source.isPart else source :: met
      .view source ((s.contents source).renew (s.look depth met))

/-- A depth that looking never exceeds: between two lists a query is met once at most. -/
def lookDepth (s : Session) : Nat := (s.sourceCount + 1) * (s.builders.items.length + 1)

/-- A value with its views looked at again. -/
def current (s : Session) (v : Value) : Value :=
  if s.linked then v.renew (s.look s.lookDepth []) else v

/-- A descriptor with its views looked at again. -/
def currentQuery (s : Session) (d : Descriptor) : Descriptor :=
  if s.linked then d.mapValues s.current else d

/-! ## Writing down -/

/-- A value written plainly, once its views are resolved. -/
def plainly (find : Source → Except Error Value) (v : Value) : Except Error Value := do
  let v ← v.resolve find
  if v.hasPlainKeys then return v.plain else throw .wrongType

/-- What a source shows, written plainly down to a depth. -/
def plainSource (s : Session) : Nat → Source → Except Error Value
  | 0, _ => .error .wrongValue
  | depth + 1, source => plainly (s.plainSource depth) (s.contents source)

/-- A source written plainly; the depth is one that only a query which holds itself exceeds. -/
def plainView (s : Session) (source : Source) : Except Error Value :=
  s.plainSource (s.sourceCount + 1) source

/-- A value written plainly. -/
def plain (s : Session) (v : Value) : Except Error Value := plainly s.plainView v

/-- The plain record of a descriptor. -/
def plainRecord (s : Session) (d : Descriptor) : Except Error Value := s.plain d.toRecord

/-- What a source shows, as it is shown down to a depth: the record of a query with plain fields, or
a list of records. -/
def shownSource (s : Session) : Nat → Source → Except Error Value
  | 0, _ => .error .wrongValue
  | depth + 1, source =>
    match source with
    | .query _ => do
      match ← s.plainView source with
      | .map fields => return .record "QueryDescriptor" fields
      | other => return other
    | .part .. => (s.contents source).resolve (s.shownSource depth)

/-- A value as it is shown. -/
def shown (s : Session) (v : Value) : Except Error Value :=
  v.resolve (s.shownSource (s.sourceCount + 1))

/-- Values as they are shown. -/
def sight (s : Session) (values : List Value) : Sight := values.mapM s.shown

/-! ## Copying -/

/-- The builders that some builders refer to, directly or through others, and these themselves. -/
def reachable (s : Session) : Nat → List Nat → List Nat
  | 0, ids => ids
  | rounds + 1, ids =>
    let referred (id : Nat) : List Nat := ((s.builders.get? id).map Builder.references).getD []
    let more := (ids ++ ids.flatMap referred).eraseDups
    if more.length = ids.length then ids else s.reachable rounds more

/-- Copies builders, and those that they refer to, which then refer to the copies: the number of
the copy of each, and the session with the copies. -/
def copyBuilders (s : Session) (ids : List Nat) : (Nat → Nat) × Session :=
  let known := ids.eraseDups.filter fun id => (s.builders.get? id).isSome
  let copied := s.reachable s.builders.items.length known
  let copyOf (id : Nat) : Nat :=
    match copied.idxOf? id with
    | some place => s.builders.nextId + place
    | none => id
  let copies := copied.filterMap s.builders.get?
  (copyOf, { s with
    builders := copies.foldl (fun builders b => builders.add (b.twin copyOf)) s.builders })

end FluentSql.Session
